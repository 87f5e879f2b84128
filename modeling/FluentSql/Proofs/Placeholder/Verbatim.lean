import FluentSql.Proofs.Marked.Compile
import FluentSql.Proofs.Marked.Write
import FluentSql.Proofs.Placeholder.Lexed
import FluentSql.Proofs.Results

/-!
# Fragments that are written as given

Most of a statement is quoted, or written by the library. Function names, operators, combinators,
directions and the keywords of joins are written as the caller gave them. If all of these are
clean, in a query and in every query that it reaches, then the marked text of the query is lexed,
whatever its identifiers are. A write has no such fragments, and its marked text is always lexed.
-/

namespace FluentSql

open Marked

/-! ### Clean fragments -/

/-- A value that shows clean text, if it shows any. -/
def Value.IsVerbatim (v : Value) : Prop :=
  Gives v.display Clean

/-- The fragments of a field. -/
def Field.IsClean : Field → Prop
  | .function name .. => name.IsVerbatim
  | _ => True

/-- The fragments of a table: the keywords of its join. -/
def Table.IsClean (t : Table) : Prop :=
  Gives t.keyword Clean

/-- The fragments of a node. -/
def Condition.IsClean : Condition → Prop
  | .comparison _ _ operator combinator => operator.IsVerbatim ∧ combinator.IsVerbatim
  | .groupStart combinator => combinator.IsVerbatim
  | _ => True

/-- The fragments of a query. -/
structure Select.IsClean (q : Select) : Prop where
  fields : ∀ f ∈ q.fields, f.IsClean
  tables : ∀ t ∈ q.tables, t.IsClean
  conditions : Gives q.conditions.items fun items => ∀ v ∈ items, (Condition.ofValue v).IsClean
  order : ∀ k ∈ q.order, k.direction.IsVerbatim

/-- The keywords of a kind of join are clean. Only a value that is none could have others. -/
theorem Table.isClean_of_join {t : Table} {j : Join} (h : t.join = .join j) : t.IsClean := by
  rw [IsClean, keyword, h]
  refine .ok ?_
  cases j <;> decide

/-! ### Embedded queries -/

/-- A value that stands for a query. -/
def Value.Refers (v : Value) (h : Handle) : Prop :=
  ∃ labels, v = .query h labels

/-- The queries that a field embeds. -/
def Field.Embeds : Field → Handle → Prop
  | .function _ source _ _ argument, h => source.Refers h ∨ ∃ v ∈ argument, v.Refers h
  | .subquery query _, h => query.Refers h
  | _, _ => False

/-- The queries among the operands of a comparison. -/
def Condition.Operands (left right : Value) (h : Handle) : Prop :=
  left.Refers h ∨ right.Refers h ∨ ∃ items, right.members? = some items ∧ ∃ v ∈ items, v.Refers h

/-- The queries that a node embeds. -/
def Condition.Embeds : Condition → Handle → Prop
  | .comparison left right _ _, h => Operands left right h
  | _, _ => False

/-- The queries that a query embeds. A table embeds none, since no query may be a target of a
join. -/
def Select.Embeds (q : Select) (h : Handle) : Prop :=
  (∃ f ∈ q.fields, f.Embeds h) ∨
    ∃ items, q.conditions.items = .ok items ∧ ∃ v ∈ items, (Condition.ofValue v).Embeds h

/-- The queries that take part in a query: itself, and all those that they embed. -/
inductive Store.Reaches (s : Store) (h : Handle) : Handle → Prop where
  | refl : Reaches s h h
  | step {g g' : Handle} (hg : Reaches s h g) (hembeds : (s.select g).Embeds g') : Reaches s h g'

/-- A query without a quote or placeholder in any fragment that is written as given. -/
def Store.IsClean (s : Store) (h : Handle) : Prop :=
  ∀ g, s.Reaches h g → (s.select g).IsClean

/-! ### Operands -/

theorem Dialect.gives_qualifiedName (d : Dialect) (parts : List Value) :
    Gives (d.qualifiedName parts) fun text => Lexed (plain text : Marked Value) :=
  .map (.trivial _) fun names _ => d.lexed_qualified names

namespace MarkedScope

variable (s : MarkedScope)

theorem gives_column (table name : Value) : Gives (s.column table name) Lexed := by
  have hname : Gives (s.dialect.columnName table name)
      fun text => Lexed (plain text : Marked Value) :=
    .bind (.trivial _) fun t _ => .bind (.trivial _) fun c _ => .ok (s.dialect.lexed_column t c)
  exact hname.map fun _ h => h

theorem lexed_aliased {t : Marked Value} (ht : Lexed t) (a : Option String) :
    Lexed (s.aliased t a) := by
  cases a with
  | none => exact ht
  | some a =>
    rw [aliased, Marked.plain_append]
    exact ht.append_plain_append (by decide) (by decide) (s.dialect.lexed_quote a)

theorem gives_underAlias {t : Marked Value} (ht : Lexed t) (aliasName : Value) :
    Gives (s.underAlias t aliasName) Lexed :=
  .map (.trivial _) fun a _ => s.lexed_aliased ht a

theorem gives_operand {v : Value} (hv : ∀ h, v.Refers h → Gives (s.nested h) Lexed) :
    Gives (s.operand v) Lexed := by
  cases v with
  | column table name => exact s.gives_column table name
  | query h labels =>
    refine (hv h ⟨labels, rfl⟩).map fun t ht => ?_
    exact (Lexed.plain_append (by decide) ht).append_plain (by decide)
  | _ => exact .ok (.bound _)

theorem lexed_concat {parts : List (Marked Value)} (h : ∀ t ∈ parts, Lexed t) :
    Lexed (s.concat parts) := by
  rw [concat]
  split
  all_goals
    exact .plain_append (by decide) ((Lexed.intercalate (by decide) (by decide) h).append_plain
      (by decide))

/-- The wildcards of a pattern are spans themselves. -/
theorem lexed_pattern (v : Value) (leading trailing : Bool) :
    Lexed (s.pattern v leading trailing) := by
  refine s.lexed_concat ?_
  have hwildcard : Lexed (plain "'%'" : Marked Value) :=
    @Lexed.span _ '\'' ['%'] _ rfl (fun _ => by decide) apart_nil .nil
  have hparts : ∀ b : Bool,
      ∀ t ∈ (if b then [plain "'%'"] else [] : List (Marked Value)), Lexed t := by
    intro b t ht
    cases b with
    | true =>
      rw [List.mem_singleton.mp ht]
      exact hwildcard
    | false => cases ht
  intro t ht
  rcases List.mem_append.mp ht with ht | ht
  · rcases List.mem_append.mp ht with ht | ht
    · exact hparts leading t ht
    · rw [List.mem_singleton.mp ht]
      exact .bound v
  · exact hparts trailing t ht

end MarkedScope

/-! ### Fields -/

namespace Field

variable (s : MarkedScope)

theorem gives_source {name distinct source : Value}
    (hs : ∀ h, source.Refers h → Gives (s.nested h) Lexed) :
    Gives (markedSource s name distinct source) Lexed := by
  cases source with
  | null =>
    rw [markedSource]
    split
    · exact .bind (.trivial _) fun _ _ => .error _
    · exact .ok (.plain (by decide))
  | query h labels => exact s.gives_operand hs
  | column table c => exact s.gives_column table c
  | _ => exact .error _

/-- The second argument begins with a comma. -/
theorem gives_argument {argument : Option Value}
    (hs : ∀ h, (∃ v ∈ argument, v.Refers h) → Gives (s.nested h) Lexed) :
    Gives (markedArgument s argument) fun t => Lexed t ∧ Apart t := by
  cases argument with
  | none => exact .ok ⟨.nil, apart_nil⟩
  | some v =>
    refine (s.gives_operand fun h hv => hs h ⟨v, rfl, hv⟩).bind fun t ht => .ok ?_
    exact ⟨.plain_append (by decide) ht, apart_plain_append (by decide) (by decide) t⟩

theorem gives_column (v : Value) : Gives (markedColumn s v) Lexed := by
  cases v with
  | column table name => exact s.gives_column table name
  | _ => exact .error _

theorem gives_tail (separator : Value) (columns : List Value) :
    Gives (markedTail s separator columns) fun parts => ∀ t ∈ parts, Lexed t := by
  induction columns with
  | nil => exact .ok nofun
  | cons c rest ih =>
    have hcolumn := gives_column s c
    refine hcolumn.bind fun part hpart => ih.bind fun parts hparts => .ok ?_
    intro t ht
    rcases List.mem_append.mp ht with ht | ht
    · split at ht
      · rw [List.mem_singleton.mp ht]
        exact .bound separator
      · cases ht
    · rcases List.mem_cons.mp ht with rfl | ht
      · exact hpart
      · exact hparts t ht

theorem gives_parts (separator : Value) (columns : List Value) :
    Gives (markedParts s separator columns) fun parts => ∀ t ∈ parts, Lexed t := by
  cases columns with
  | nil => exact .ok nofun
  | cons c rest =>
    have hcolumn := gives_column s c
    have htail := gives_tail s separator rest
    refine hcolumn.bind fun part hpart => htail.bind fun parts hparts => .ok ?_
    intro t ht
    rcases List.mem_cons.mp ht with rfl | ht
    · exact hpart
    · exact hparts t ht

theorem gives_marked {f : Field} (hf : f.IsClean)
    (hs : ∀ h, f.Embeds h → Gives (s.nested h) Lexed) : Gives (f.marked s) Lexed := by
  cases f with
  | column table name aliasName =>
    exact (s.gives_column table name).bind fun t ht => s.gives_underAlias ht aliasName
  | wildcard table => exact s.gives_column table (.text "*")
  | function name source distinct aliasName argument =>
    have hsource := @gives_source s name distinct source fun h hh => hs h (.inl hh)
    have hargument := gives_argument s fun h hh => hs h (.inr hh)
    refine hsource.bind fun inner hinner => hargument.bind fun second hsecond => ?_
    refine Gives.bind hf fun called hcalled => s.gives_underAlias ?_ aliasName
    -- the second argument begins with its comma, so a span before it is closed for certain
    have hend : Lexed (inner ++ (second ++ plain ")")) :=
      hinner.append (hsecond.1.append_plain (by decide))
        (hsecond.2.append (apart_plain (by decide)))
    refine .plain_append (hcalled.append (by decide)) (.plain_append ?_ hend)
    split <;> decide
  | concat columns aliasName separator =>
    refine .bind (.trivial _) fun items _ => ?_
    have hparts := gives_parts s separator items
    exact hparts.bind fun parts hlexed => s.gives_underAlias (s.lexed_concat hlexed) aliasName
  | subquery query aliasName =>
    cases query with
    | query h labels =>
      exact (s.gives_operand (v := .query h labels) hs).bind fun t ht =>
        s.gives_underAlias ht aliasName
    | _ => exact .error _

end Field

/-! ### Tables -/

namespace Table

variable (s : MarkedScope) (t : Table)

theorem gives_equality (column target : Value) :
    Gives (t.markedEquality s column target) Lexed := by
  refine (s.gives_column t.label column).bind fun left hleft => ?_
  have hright : ∀ v : Value, (∀ h labels, v ≠ .query h labels) →
      Gives (s.operand v >>= fun right => .ok (left ++ (plain " = " ++ right))) Lexed := by
    intro v hv
    refine (s.gives_operand fun h ⟨labels, hh⟩ => absurd hh (hv h labels)).bind
      fun right hright => .ok ?_
    exact hleft.append_plain_append (by decide) (by decide) hright
  cases target with
  | query h labels => exact .bind (.trivial _) fun _ _ => .error _
  | _ => exact hright _ nofun

theorem gives_equalities (entries : List (Value × Value)) :
    Gives (t.markedEqualities s entries) fun texts => ∀ u ∈ texts, Lexed u := by
  induction entries with
  | nil => exact .ok nofun
  | cons e rest ih =>
    refine (gives_equality s t e.1 e.2).bind fun u hu => ih.bind fun texts htexts => .ok ?_
    intro u' hu'
    rcases List.mem_cons.mp hu' with rfl | hu'
    · exact hu
    · exact htexts u' hu'

/-- The condition of a join begins with a blank. -/
theorem gives_on : Gives (t.markedOn s) fun u => Lexed u ∧ Apart u := by
  rw [markedOn]
  split
  · exact .ok ⟨.nil, apart_nil⟩
  · cases t.joins with
    | record entries =>
      have hequalities := gives_equalities s t entries
      refine hequalities.bind fun texts htexts => .ok ⟨?_, ?_⟩
      · exact .plain_append (by decide) ((Lexed.intercalate (by decide) (by decide)
          htexts).append_plain (by decide))
      · exact apart_plain_append (by decide) (by decide) _
    | _ => exact .error _

theorem gives_reference (d : Dialect) :
    Gives (t.reference d) fun text => Lexed (plain text : Marked Value) := by
  refine (d.gives_qualifiedName [t.schema, t.table]).bind fun text htext => ?_
  refine Gives.map (.trivial t.aliasName.name?) fun a _ => ?_
  cases a with
  | none => exact htext
  | some a =>
    rw [Dialect.aliased, Marked.plain_append, Marked.plain_append, List.append_assoc]
    exact htext.append_plain_append (by decide) (by decide) (d.lexed_quote a)

theorem gives_marked (ht : t.IsClean) (first : Bool) : Gives (t.marked s first) Lexed := by
  refine (t.gives_reference s.dialect).bind fun text htext => ?_
  cases first with
  | true => exact .ok htext
  | false =>
    have hon := gives_on s t
    refine Gives.bind ht fun keyword hkeyword => hon.bind fun u hu => .ok ?_
    rw [Marked.plain_append, Marked.plain_append, List.append_assoc, List.append_assoc]
    exact .plain_append hkeyword (.plain_append (by decide) (htext.append hu.1 hu.2))

end Table

/-! ### Conditions -/

theorem OperatorKind.clean_of_nullTest {keyword : String} (h : ofName keyword = .nullTest) :
    Clean keyword := by
  unfold ofName at h
  split at h <;> first | cases h; done | decide

theorem OperatorKind.clean_of_membership {keyword : String} {negated : Bool}
    (h : ofName keyword = .membership negated) : Clean keyword := by
  unfold ofName at h
  split at h <;> first | cases h; done | decide

theorem OperatorKind.clean_of_pattern {keyword name : String} {leading trailing : Bool}
    (h : ofName keyword = .pattern name leading trailing) : Clean name := by
  unfold ofName at h
  split at h <;> cases h <;> decide

namespace Condition

variable (s : MarkedScope) {left right : Value}

theorem gives_all {vs : List Value} (hs : ∀ h, (∃ v ∈ vs, v.Refers h) → Gives (s.nested h) Lexed) :
    Gives (markedAll s vs) fun texts => ∀ t ∈ texts, Lexed t := by
  induction vs with
  | nil => exact .ok nofun
  | cons v vs ih =>
    have hfirst : Gives (s.operand v) Lexed :=
      s.gives_operand fun h hv => hs h ⟨v, List.mem_cons_self, hv⟩
    have hrest := ih fun h ⟨w, hw, hh⟩ => hs h ⟨w, List.mem_cons_of_mem v hw, hh⟩
    refine hfirst.bind fun t ht => hrest.bind fun texts htexts => .ok ?_
    intro u hu
    rcases List.mem_cons.mp hu with rfl | hu
    · exact ht
    · exact htexts u hu

variable (hs : ∀ h, Operands left right h → Gives (s.nested h) Lexed)
include hs

theorem gives_left : Gives (s.operand left) Lexed :=
  s.gives_operand fun h hh => hs h (.inl hh)

theorem gives_plain {operator : Value} (ho : operator.IsVerbatim) :
    Gives (markedPlain s left right operator) Lexed := by
  have hright : Gives (s.operand right) Lexed :=
    s.gives_operand fun h hh => hs h (.inr (.inl hh))
  refine (gives_left s hs).bind fun l hl => Gives.bind ho fun shown hshown => ?_
  refine hright.bind fun r hr => .ok ?_
  rw [Marked.plain_append, Marked.plain_append, List.append_assoc, List.append_assoc]
  exact hl.append_plain_append (by decide) (by decide) (.plain_append hshown
    (.plain_append (by decide) hr))

theorem gives_membership {keyword : String} (hk : Clean keyword) (negated : Bool) :
    Gives (markedMembership s left right keyword negated) Lexed := by
  rw [markedMembership]
  have hitems : ∀ items, right.members? = some items → ∀ h, (∃ v ∈ items, v.Refers h) →
      Gives (s.nested h) Lexed := fun items hm h hv => hs h (.inr (.inr ⟨items, hm, hv⟩))
  rcases hm : right.members? with _ | _ | ⟨v, vs⟩
  · exact .error _
  · exact .ok (.plain (by cases negated <;> decide))
  · have hall := gives_all s (hitems _ hm)
    refine (gives_left s hs).bind fun l hl => hall.bind fun texts htexts => .ok ?_
    rw [Marked.plain_append, Marked.plain_append, List.append_assoc, List.append_assoc]
    exact hl.append_plain_append (by decide) (by decide) (.plain_append hk (.plain_append
      (by decide) ((Lexed.intercalate (by decide) (by decide) htexts).append_plain (by decide))))

theorem gives_range : Gives (markedRange s left right) Lexed := by
  refine (gives_left s hs).bind fun l hl => ?_
  rcases hp : right.pair? with _ | ⟨low, high⟩
  · exact .error _
  · -- a pair is a collection, so its ends are among the operands that were given
    have hm := Value.members?_of_pair? hp
    have hlow : Gives (s.operand low) Lexed :=
      s.gives_operand fun h hh => hs h (.inr (.inr ⟨_, hm, low, by simp, hh⟩))
    have hhigh : Gives (s.operand high) Lexed :=
      s.gives_operand fun h hh => hs h (.inr (.inr ⟨_, hm, high, by simp, hh⟩))
    refine hlow.bind fun lo hlo => hhigh.bind fun hi hhi => .ok ?_
    exact hl.append_plain_append (by decide) (by decide)
      (hlo.append_plain_append (by decide) (by decide) hhi)

theorem gives_pattern {keyword : String} (hk : Clean keyword) (leading trailing : Bool) :
    Gives (markedPattern s left right keyword leading trailing) Lexed := by
  refine (gives_left s hs).bind fun l hl => .ok ?_
  rw [Marked.plain_append, Marked.plain_append, List.append_assoc, List.append_assoc]
  exact hl.append_plain_append (by decide) (by decide) (.plain_append hk
    (.plain_append (by decide) (s.lexed_pattern right leading trailing)))

theorem gives_comparison {operator : Value} (ho : operator.IsVerbatim) :
    Gives (markedComparison s left right operator) Lexed := by
  refine .bind (.trivial _) fun keyword _ => ?_
  have hplain := gives_plain s hs ho
  cases hkind : OperatorKind.ofName keyword with
  | nullTest =>
    refine (gives_left s hs).bind fun l hl => .ok ?_
    exact hl.append_plain (Clean.append (by decide) (OperatorKind.clean_of_nullTest hkind))
  | pattern name leading trailing =>
    simp only
    split
    · exact hplain
    · exact gives_pattern s hs (OperatorKind.clean_of_pattern hkind) leading trailing
  | membership negated =>
    simp only
    split
    · exact hplain
    · exact gives_membership s hs (OperatorKind.clean_of_membership hkind) negated
  | range =>
    simp only
    split
    · exact hplain
    · exact gives_range s hs
  | plain => exact hplain

omit hs

/-- A combinator is clean text, and there is some unless nothing stands before it. -/
theorem gives_joiner {combinator : Value} (hc : combinator.IsVerbatim) (bare : Bool) :
    Gives (markedJoiner bare combinator) fun t =>
      ∃ text, t = plain text ∧ Clean text ∧ (bare = false → text ≠ "") := by
  cases bare with
  | true => exact .ok ⟨"", rfl, by decide, nofun⟩
  | false =>
    refine Gives.bind hc fun shown hshown => .ok ⟨_, rfl, ?_, fun _ => ?_⟩
    · exact Clean.append (Clean.append (by decide) hshown) (by decide)
    · simp

/-- A condition list does not begin with a quote if something stands before it. -/
theorem gives_list {nodes : List Condition} (hn : ∀ node ∈ nodes, node.IsClean)
    (hs : ∀ h, (∃ node ∈ nodes, node.Embeds h) → Gives (s.nested h) Lexed) (bare : Bool) :
    Gives (markedList s bare nodes) fun t => Lexed t ∧ (bare = false → Apart t) := by
  induction nodes generalizing bare with
  | nil => exact .ok ⟨.nil, fun _ => apart_nil⟩
  | cons node rest ih =>
    have hnode := hn node List.mem_cons_self
    have hrest := ih (fun n hr => hn n (List.mem_cons_of_mem node hr))
      fun h ⟨n, hr, hh⟩ => hs h ⟨n, List.mem_cons_of_mem node hr, hh⟩
    -- a list that stands bare may begin with a span, since nothing is written before it
    cases node with
    | groupStart combinator =>
      refine (gives_joiner hnode bare).bind ?_
      rintro _ ⟨link, rfl, hlink, hne⟩
      refine (hrest true).bind fun t ht => .ok ⟨?_, fun hb => apart_plain_append hlink (hne hb) _⟩
      exact .plain_append hlink (.plain_append (by decide) ht.1)
    | groupEnd combinator =>
      refine (hrest false).bind fun t ht => .ok ⟨.plain_append (by decide) ht.1, fun _ => ?_⟩
      exact apart_plain_append (by decide) (by decide) t
    | comparison left right operator combinator =>
      refine (gives_joiner hnode.2 bare).bind ?_
      rintro _ ⟨link, rfl, hlink, hne⟩
      have hcomparison :=
        gives_comparison s (fun h hh => hs h ⟨_, List.mem_cons_self, hh⟩) hnode.1
      refine hcomparison.bind fun first hfirst => (hrest false).bind
        fun t ht => .ok ⟨?_, fun hb => ?_⟩
      · exact .plain_append hlink (hfirst.append ht.1 (ht.2 rfl))
      · exact apart_plain_append hlink (hne hb) _
    | unknown v => exact .bind (.trivial _) fun _ _ => .error _

end Condition

/-! ### Order and pages -/

theorem SortKey.gives_render (k : SortKey) (d : Dialect) (hk : k.direction.IsVerbatim) :
    Gives (k.render d) fun text => Lexed (plain text : Marked Value) := by
  have hcolumn : Gives (d.columnName k.table k.column) fun text =>
      Lexed (plain text : Marked Value) :=
    .bind (.trivial _) fun t _ => .bind (.trivial _) fun c _ => .ok (d.lexed_column t c)
  refine hcolumn.bind fun text htext => ?_
  split
  · refine Gives.bind hk fun shown hshown => .ok ?_
    rw [Marked.plain_append, Marked.plain_append, List.append_assoc]
    exact htext.append_plain_append (by decide) (by decide) (.plain hshown)
  · exact .ok htext

theorem isBare_of_isDigit {c : Char} (hc : c.isDigit = true) : isBare c = true := by
  rw [isBare, Bool.and_eq_true]
  constructor
  · cases hq : Placeholder.isQuote c with
    | false => rfl
    | true =>
      -- the three quotes are no digits
      simp only [Placeholder.isQuote, Bool.or_eq_true, beq_iff_eq] at hq
      rcases hq with (rfl | rfl) | rfl <;> exact absurd hc (by decide)
  · rw [bne_iff_ne]
    rintro rfl
    exact absurd hc (by decide)

/-- An integer is written in digits. -/
theorem clean_integerText (n : Int) : Gives (integerText n) Clean := by
  have hdigits : ∀ m : Nat, Clean (toString m) := by
    intro m c hc
    rw [Nat.toString_eq_ofList_toDigits, String.toList_ofList] at hc
    exact isBare_of_isDigit (Nat.isDigit_of_mem_toDigits (by decide) (by decide) hc)
  rw [integerText]
  split
  · refine .ok ?_
    cases n with
    | ofNat m => exact hdigits m
    | negSucc m => exact Clean.append (by decide) (hdigits (m + 1))
  · exact .error _

theorem Dialect.clean_limit (d : Dialect) {offset size : String} (ho : Clean offset)
    (hs : Clean size) : Clean (d.limit offset size) := by
  have hpostgresql := Clean.append (Clean.append (Clean.append (by decide : Clean "LIMIT ") hs)
    (by decide : Clean " OFFSET ")) ho
  have hothers := Clean.append (Clean.append (Clean.append (by decide : Clean "LIMIT ") ho)
    (by decide : Clean ", ")) hs
  cases d with
  | postgresql => exact hpostgresql
  | _ => exact hothers

/-! ### Queries -/

namespace Select

variable (s : MarkedScope) (q : Select)

theorem gives_fields {fields : List Field} (hf : ∀ f ∈ fields, f.IsClean)
    (hs : ∀ h, (∃ f ∈ fields, f.Embeds h) → Gives (s.nested h) Lexed) :
    Gives (markedFields s fields) fun texts => ∀ t ∈ texts, Lexed t := by
  induction fields with
  | nil => exact .ok nofun
  | cons f fs ih =>
    have hfirst := Field.gives_marked s (hf f List.mem_cons_self) fun h hh =>
      hs h ⟨f, List.mem_cons_self, hh⟩
    have hrest := ih (fun g hg => hf g (List.mem_cons_of_mem f hg)) fun h ⟨g, hg, hh⟩ =>
      hs h ⟨g, List.mem_cons_of_mem f hg, hh⟩
    refine hfirst.bind fun t ht => hrest.bind fun texts htexts => .ok ?_
    intro u hu
    rcases List.mem_cons.mp hu with rfl | hu
    · exact ht
    · exact htexts u hu

theorem gives_tables {tables : List Table} (ht : ∀ t ∈ tables, t.IsClean) (first : Bool) :
    Gives (markedTables s first tables) fun texts => ∀ u ∈ texts, Lexed u := by
  induction tables generalizing first with
  | nil => exact .ok nofun
  | cons t ts ih =>
    have hfirst := t.gives_marked s (ht t List.mem_cons_self) first
    have hrest := ih (fun u hu => ht u (List.mem_cons_of_mem t hu)) false
    refine hfirst.bind fun text htext => hrest.bind fun texts htexts => .ok ?_
    intro u hu
    rcases List.mem_cons.mp hu with rfl | hu
    · exact htext
    · exact htexts u hu

variable {q}

theorem gives_conditions (hq : q.IsClean) (hs : ∀ h, q.Embeds h → Gives (s.nested h) Lexed) :
    Gives (markedConditions s q.conditions) fun t => Lexed t ∧ Apart t := by
  rw [markedConditions]
  split
  · exact .ok ⟨.nil, apart_nil⟩
  · refine Gives.bind (P := Lexed) ?_ fun t ht => .ok
      ⟨.plain_append (by decide) ht, apart_plain_append (by decide) (by decide) t⟩
    intro t ht
    rcases hitems : q.conditions.items with f | items
    · rw [Condition.markedNodes, hitems] at ht
      cases ht
    · rw [Condition.markedNodes, hitems] at ht
      refine (Condition.gives_list s ?_ ?_ true t ht).1
      · intro node hnode
        obtain ⟨v, hv, rfl⟩ := List.mem_map.mp hnode
        exact hq.conditions items hitems v hv
      · rintro h ⟨node, hnode, hh⟩
        obtain ⟨v, hv, rfl⟩ := List.mem_map.mp hnode
        exact hs h (.inr ⟨items, hitems, v, hv, hh⟩)

theorem gives_order (hq : q.IsClean) (d : Dialect) :
    Gives (q.renderOrder d) fun text => Lexed (plain text : Marked Value) ∧
      Apart (plain text : Marked Value) := by
  rw [renderOrder]
  split
  · exact .ok ⟨.nil, apart_nil⟩
  · refine (Gives.mapM (P := fun text => Lexed (plain text : Marked Value)) ?_).bind
      fun keys hkeys => .ok ⟨?_, ?_⟩
    · exact fun k hk => k.gives_render d (hq.order k hk)
    · rw [Marked.plain_append, plain_intercalate]
      refine .plain_append (by decide) (.intercalate (by decide) (by decide) ?_)
      intro t ht
      obtain ⟨text, htext, rfl⟩ := List.mem_map.mp ht
      exact hkeys.2 text htext
    · rw [Marked.plain_append]
      exact apart_plain_append (by decide) (by decide) _

theorem gives_page (d : Dialect) : Gives (q.renderPage d) Clean := by
  rw [renderPage]
  split
  · rename_i offset size _ _
    refine Gives.map (P := Clean) ?_ fun text htext => Clean.append (by decide) htext
    refine Gives.bind (clean_integerText offset) fun o ho => Gives.bind (clean_integerText size)
      fun n hn => .ok (d.clean_limit ho hn)
  · exact .ok (by decide)

theorem gives_marked (hq : q.IsClean) (hs : ∀ h, q.Embeds h → Gives (s.nested h) Lexed) :
    Gives (q.marked s) Lexed := by
  have hgiven := gives_fields s hq.fields fun h hh => hs h (.inl hh)
  refine hgiven.bind fun fields hfields => ?_
  refine (gives_tables s hq.tables true).bind fun tables htables => ?_
  refine (gives_conditions s hq hs).bind fun conditions hconditions => ?_
  refine (gives_order hq s.dialect).bind fun order horder => ?_
  refine (gives_page s.dialect).bind fun page hpage => .ok ?_
  have hend : Lexed (conditions ++ plain (order ++ page)) := by
    rw [Marked.plain_append]
    exact hconditions.1.append (horder.1.append_plain hpage) (horder.2.append (apart_plain hpage))
  have hapart : Apart (conditions ++ plain (order ++ page)) := by
    rw [Marked.plain_append]
    exact hconditions.2.append (horder.2.append (apart_plain hpage))
  refine .plain_append (by decide) ((Lexed.intercalate (by decide) (by decide)
    hfields).append_plain_append (by decide) (by decide) ?_)
  exact (Lexed.intercalate (by decide) (by decide) htables).append hend hapart

end Select

namespace Store

variable (s : Store)

theorem gives_markedWithin (d : Dialect) (depth : Nat) {h : Handle} (hh : s.IsClean h) :
    Gives (s.markedWithin d depth h) Lexed := by
  induction depth generalizing h with
  | zero => exact .error _
  | succ depth ih =>
    -- what an embedded query reaches is also reached from the outside, one step further
    refine Select.gives_marked _ (hh h .refl) fun g hg => ih fun g' hg' => hh g' ?_
    induction hg' with
    | refl => exact .step .refl hg
    | step _ hembeds ihg => exact .step ihg hembeds

/-- The marked text of a clean query is lexed. -/
theorem gives_marked (d : Dialect) {h : Handle} (hh : s.IsClean h) :
    Gives (s.marked h d) Lexed :=
  s.gives_markedWithin d s.queries.size hh

end Store

end FluentSql
