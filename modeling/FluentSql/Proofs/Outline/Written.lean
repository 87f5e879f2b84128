import FluentSql.Proofs.Independence.Alike
import FluentSql.Proofs.Outline.Query
import FluentSql.Proofs.Placeholder.Verbatim

/-!
# Queries are written from their outlines

The marked text of a query in a dialect is its outline, written in that dialect. There is one lemma
for each part of a query, and each of them asks about the queries that the part embeds, and about no
others: so two scopes that agree on the embedded queries give the same text
(`Select.marked_congr`).
-/

namespace FluentSql

open Marked Outline

/-- Marked text is what a dialect writes for an outline. -/
@[simp]
abbrev WrittenIn (d : Dialect) (t : Marked Value) (o : Outline) : Prop :=
  t = write d o

/-- Marked texts are what a dialect writes for outlines, one by one. -/
@[simp]
abbrev AllWrittenIn (d : Dialect) (ts : List (Marked Value)) (os : List Outline) : Prop :=
  ts = os.map (write d)

namespace Outline

variable (d : Dialect)

theorem write_dotted (names : List (Option String)) :
    write d (dotted names) = plain (d.qualified names) := by
  rw [dotted, write_intercalate, Dialect.qualified, plain_intercalate, List.map_filterMap,
    List.map_filterMap]
  congr 2
  funext name
  cases name with
  | none => rfl
  | some s => exact congrArg some (write_bound d (.name s))

theorem write_columnOf (table name : Option String) :
    write d (columnOf table name) = plain (d.column table name) := by
  unfold columnOf Dialect.column
  split
  · cases table with
    | none => exact write_plain d "*"
    | some t => simp [Token.write]
  · exact write_dotted d [table, name]

theorem write_aliased (s : MarkedScope) (o : Outline) (a : Option String) :
    write s.dialect (aliased o a) = s.aliased (write s.dialect o) a := by
  cases a with
  | none => rfl
  | some a => simp [aliased, MarkedScope.aliased, Token.write]

theorem write_concat (s : MarkedScope) (parts : List Outline) :
    write s.dialect (concat parts) = s.concat (parts.map (write s.dialect)) := by
  simp only [concat, write_append, write_bound, write_plain, write_separated]
  obtain ⟨d, nested⟩ := s
  cases d <;> rfl

theorem write_pattern (s : MarkedScope) (v : Value) (leading trailing : Bool) :
    write s.dialect (pattern v leading trailing) = s.pattern v leading trailing := by
  rw [pattern, write_concat, MarkedScope.pattern]
  cases leading <;> cases trailing <;> simp [Token.write]

end Outline

/-! ### Operands -/

namespace MarkedScope

variable {E E' : Fault → Prop} (s : MarkedScope) {nested : Handle → Except Fault Outline}

theorem column_written (table name : Value) :
    AgreeUpTo E E' (WrittenIn s.dialect) (s.column table name) (Outline.column table name) := by
  rw [column, Dialect.columnName, Outline.column]
  cases table.name? with
  | error f => exact .error f
  | ok t =>
    cases name.name? with
    | error f => exact .error f
    | ok c => exact .ok (write_columnOf s.dialect t c).symm

theorem underAlias_written {t : Marked Value} {o : Outline} (h : WrittenIn s.dialect t o)
    (aliasName : Value) :
    AgreeUpTo E E' (WrittenIn s.dialect) (s.underAlias t aliasName)
      (Outline.underAlias o aliasName) := by
  subst h
  exact .map_same _ fun a => (write_aliased s o a).symm

theorem operand_written {v : Value}
    (hn : ∀ h, v.Refers h → AgreeUpTo E E' (WrittenIn s.dialect) (s.nested h) (nested h)) :
    AgreeUpTo E E' (WrittenIn s.dialect) (s.operand v) (Outline.operand nested v) := by
  cases v with
  | column table name => exact s.column_written table name
  | query handle labels =>
    refine (hn handle ⟨labels, rfl⟩).map ?_
    rintro _ o rfl
    simp
  | _ => exact .ok rfl

end MarkedScope

section Parts

variable {E E' : Fault → Prop} (s : MarkedScope) {nested : Handle → Except Fault Outline}

/-! ### Fields -/

namespace Field

theorem markedColumn_written (v : Value) :
    AgreeUpTo E E' (WrittenIn s.dialect) (markedColumn s v) (outlinedColumn v) := by
  cases v with
  | column table name => exact s.column_written table name
  | _ => exact .error _

theorem markedTail_written (separator : Value) (columns : List Value) :
    AgreeUpTo E E' (AllWrittenIn s.dialect) (markedTail s separator columns)
      (outlinedTail separator columns) := by
  induction columns with
  | nil => exact .ok rfl
  | cons c rest ih =>
    refine (markedColumn_written s c).bind ?_
    rintro _ o rfl
    refine ih.bind ?_
    rintro _ os rfl
    refine .ok ?_
    split <;> simp [Token.write]

theorem markedParts_written (separator : Value) (columns : List Value) :
    AgreeUpTo E E' (AllWrittenIn s.dialect) (markedParts s separator columns)
      (outlinedParts separator columns) := by
  cases columns with
  | nil => exact .ok rfl
  | cons c rest =>
    refine (markedColumn_written s c).bind ?_
    rintro _ o rfl
    refine (markedTail_written s separator rest).bind ?_
    rintro _ os rfl
    exact .ok rfl

theorem markedSource_written {name distinct source : Value}
    (hn : ∀ h, source.Refers h → AgreeUpTo E E' (WrittenIn s.dialect) (s.nested h) (nested h)) :
    AgreeUpTo E E' (WrittenIn s.dialect) (markedSource s name distinct source)
      (outlinedSource nested name distinct source) := by
  cases source with
  | null =>
    rw [markedSource, outlinedSource]
    split
    · exact .bind_same _ fun _ => .error _
    · exact .ok (write_plain _ _).symm
  | query h labels => exact s.operand_written hn
  | column table c => exact s.column_written table c
  | _ => exact .error _

theorem markedArgument_written {argument : Option Value}
    (hn : ∀ h, (∃ v ∈ argument, v.Refers h) →
      AgreeUpTo E E' (WrittenIn s.dialect) (s.nested h) (nested h)) :
    AgreeUpTo E E' (WrittenIn s.dialect) (markedArgument s argument)
      (outlinedArgument nested argument) := by
  cases argument with
  | none => exact .ok rfl
  | some v =>
    refine (s.operand_written fun h hv => hn h ⟨v, rfl, hv⟩).bind ?_
    rintro _ o rfl
    exact .ok (by simp)

theorem marked_written {f : Field}
    (hn : ∀ h, f.Embeds h → AgreeUpTo E E' (WrittenIn s.dialect) (s.nested h) (nested h)) :
    AgreeUpTo E E' (WrittenIn s.dialect) (f.marked s) (f.outlined nested) := by
  cases f with
  | column table name aliasName =>
    exact (s.column_written table name).bind fun _ _ ht => s.underAlias_written ht aliasName
  | wildcard table => exact s.column_written table (.text "*")
  | function name source distinct aliasName argument =>
    have hsource : AgreeUpTo E E' (WrittenIn s.dialect) (markedSource s name distinct source)
        (outlinedSource nested name distinct source) :=
      markedSource_written s fun h hv => hn h (.inl hv)
    have hargument := markedArgument_written s fun h hv => hn h (.inr hv)
    refine hsource.bind ?_
    rintro _ inner rfl
    refine hargument.bind ?_
    rintro _ second rfl
    exact .bind_same _ fun called => s.underAlias_written (by simp) aliasName
  | concat columns aliasName separator =>
    refine .bind_same _ fun items => (markedParts_written s separator items).bind ?_
    rintro _ parts rfl
    exact s.underAlias_written (write_concat s parts).symm aliasName
  | subquery query aliasName =>
    cases query with
    | query h labels =>
      exact (s.operand_written (v := .query h labels) hn).bind fun _ _ ht =>
        s.underAlias_written ht aliasName
    | _ => exact .error _

end Field

/-! ### Tables -/

namespace Table

variable (t : Table)

theorem reference_written (d : Dialect) :
    AgreeUpTo E E' (fun text o => WrittenIn d (plain text) o) (t.reference d)
      t.outlinedReference := by
  unfold reference Dialect.qualifiedName outlinedReference Outline.underAlias
  cases [t.schema, t.table].mapM Value.name? with
  | error f => exact .error f
  | ok names =>
    change AgreeUpTo E E' _ (t.aliasName.name?.map _) (t.aliasName.name?.map _)
    refine .map_same _ fun a => ?_
    cases a with
    | none => exact (write_dotted d names).symm
    | some a => simp [Dialect.aliased, aliased, Token.write, write_dotted]

/-- A query as a target is refused by name, so nothing is asked about it. -/
theorem markedEquality_written (column target : Value) :
    AgreeUpTo E E' (WrittenIn s.dialect) (t.markedEquality s column target)
      (t.outlinedEquality nested column target) := by
  refine (s.column_written t.label column).bind ?_
  rintro _ left rfl
  have hoperand : ∀ v : Value, v.isQuery = false →
      AgreeUpTo E E' (WrittenIn s.dialect)
        (s.operand v >>= fun right => .ok (write s.dialect left ++ (plain " = " ++ right)))
        (Outline.operand nested v >>= fun right => .ok (left ++ (plain " = " ++ right))) := by
    intro v hv
    refine (s.operand_written fun h hh => ?_).bind ?_
    · obtain ⟨labels, rfl⟩ := hh
      cases hv
    · rintro _ right rfl
      exact .ok (by simp)
  cases target with
  | query h labels => exact .bind_same _ fun _ => .error _
  | _ => exact hoperand _ rfl

theorem markedEqualities_written (entries : List (Value × Value)) :
    AgreeUpTo E E' (AllWrittenIn s.dialect) (t.markedEqualities s entries)
      (t.outlinedEqualities nested entries) := by
  induction entries with
  | nil => exact .ok rfl
  | cons e rest ih =>
    refine (markedEquality_written s t e.1 e.2).bind ?_
    rintro _ o rfl
    refine ih.bind ?_
    rintro _ os rfl
    exact .ok rfl

theorem markedOn_written :
    AgreeUpTo E E' (WrittenIn s.dialect) (t.markedOn s) (t.outlinedOn nested) := by
  rw [markedOn, outlinedOn]
  split
  · exact .ok rfl
  · cases t.joins with
    | record entries =>
      refine (markedEqualities_written s t entries).bind ?_
      rintro _ os rfl
      exact .ok (by simp)
    | _ => exact .error _

theorem marked_written (first : Bool) :
    AgreeUpTo E E' (WrittenIn s.dialect) (t.marked s first) (t.outlined nested first) := by
  refine (t.reference_written s.dialect).bind fun text o ho => ?_
  cases first with
  | true => exact .ok ho
  | false =>
    refine .bind_same _ fun keyword => (markedOn_written s t).bind ?_
    rintro _ condition rfl
    exact .ok (by simp [← ho])

end Table

/-! ### Conditions -/

namespace Condition

theorem markedAll_written {vs : List Value}
    (hn : ∀ h, (∃ v ∈ vs, v.Refers h) →
      AgreeUpTo E E' (WrittenIn s.dialect) (s.nested h) (nested h)) :
    AgreeUpTo E E' (AllWrittenIn s.dialect) (markedAll s vs) (outlinedAll nested vs) := by
  induction vs with
  | nil => exact .ok rfl
  | cons v vs ih =>
    refine (s.operand_written fun h hv => hn h ⟨v, List.mem_cons_self, hv⟩).bind ?_
    rintro _ o rfl
    refine (ih fun h ⟨w, hw, hh⟩ => hn h ⟨w, List.mem_cons_of_mem v hw, hh⟩).bind ?_
    rintro _ os rfl
    exact .ok rfl

section

variable {left right : Value}
  (hn : ∀ h, Operands left right h → AgreeUpTo E E' (WrittenIn s.dialect) (s.nested h) (nested h))
include hn

theorem left_written :
    AgreeUpTo E E' (WrittenIn s.dialect) (s.operand left) (Outline.operand nested left) :=
  s.operand_written fun h hh => hn h (.inl hh)

theorem markedPlain_written (operator : Value) :
    AgreeUpTo E E' (WrittenIn s.dialect) (markedPlain s left right operator)
      (outlinedPlain nested left right operator) := by
  refine (left_written s hn).bind ?_
  rintro _ l rfl
  refine .bind_same _ fun shown => ?_
  refine (s.operand_written fun h hh => hn h (.inr (.inl hh))).bind ?_
  rintro _ r rfl
  exact .ok (by simp)

theorem markedMembership_written (keyword : String) (negated : Bool) :
    AgreeUpTo E E' (WrittenIn s.dialect) (markedMembership s left right keyword negated)
      (outlinedMembership nested left right keyword negated) := by
  rw [markedMembership, outlinedMembership]
  rcases hm : right.members? with _ | _ | ⟨v, vs⟩
  · exact .error _
  · exact .ok (write_plain _ _).symm
  · refine (left_written s hn).bind ?_
    rintro _ l rfl
    refine (markedAll_written s fun h hh => hn h (.inr (.inr ⟨_, hm, hh⟩))).bind ?_
    rintro _ os rfl
    exact .ok (by simp)

theorem markedRange_written :
    AgreeUpTo E E' (WrittenIn s.dialect) (markedRange s left right)
      (outlinedRange nested left right) := by
  refine (left_written s hn).bind ?_
  rintro _ l rfl
  rcases hp : right.pair? with _ | ⟨low, high⟩
  · exact .error _
  · have hm := Value.members?_of_pair? hp
    have hends : ∀ v ∈ [low, high], AgreeUpTo E E' (WrittenIn s.dialect) (s.operand v)
        (Outline.operand nested v) := fun v hv =>
      s.operand_written fun h hh => hn h (.inr (.inr ⟨_, hm, v, hv, hh⟩))
    refine (hends low (by simp)).bind ?_
    rintro _ lo rfl
    refine (hends high (by simp)).bind ?_
    rintro _ hi rfl
    exact .ok (by simp)

theorem markedPattern_written (keyword : String) (leading trailing : Bool) :
    AgreeUpTo E E' (WrittenIn s.dialect) (markedPattern s left right keyword leading trailing)
      (outlinedPattern nested left right keyword leading trailing) := by
  refine (left_written s hn).bind ?_
  rintro _ l rfl
  exact .ok (by simp [write_pattern])

theorem markedComparison_written (operator : Value) :
    AgreeUpTo E E' (WrittenIn s.dialect) (markedComparison s left right operator)
      (outlinedComparison nested left right operator) := by
  have hplain := markedPlain_written s hn operator
  refine .bind_same _ fun keyword => ?_
  cases OperatorKind.ofName keyword with
  | nullTest =>
    refine (left_written s hn).bind ?_
    rintro _ l rfl
    exact .ok (by simp)
  | pattern name leading trailing =>
    simp only
    split
    · exact hplain
    · exact markedPattern_written s hn name leading trailing
  | membership negated =>
    simp only
    split
    · exact hplain
    · exact markedMembership_written s hn keyword negated
  | range =>
    simp only
    split
    · exact hplain
    · exact markedRange_written s hn
  | plain => exact hplain

end

theorem markedJoiner_written (bare : Bool) (combinator : Value) :
    AgreeUpTo E E' (WrittenIn s.dialect) (markedJoiner bare combinator)
      (outlinedJoiner bare combinator) := by
  cases bare with
  | true => exact .ok rfl
  | false => exact .bind_same _ fun shown => .ok (write_plain _ _).symm

theorem markedList_written {nodes : List Condition}
    (hn : ∀ h, (∃ node ∈ nodes, node.Embeds h) →
      AgreeUpTo E E' (WrittenIn s.dialect) (s.nested h) (nested h)) (bare : Bool) :
    AgreeUpTo E E' (WrittenIn s.dialect) (markedList s bare nodes)
      (outlinedList nested bare nodes) := by
  induction nodes generalizing bare with
  | nil => exact .ok rfl
  | cons node rest ih =>
    have hrest := ih fun h ⟨node', hr, hh⟩ => hn h ⟨node', List.mem_cons_of_mem node hr, hh⟩
    cases node with
    | groupStart combinator =>
      refine (markedJoiner_written s bare combinator).bind ?_
      rintro _ link rfl
      refine (hrest true).bind ?_
      rintro _ o rfl
      exact .ok (by simp)
    | groupEnd combinator =>
      refine (hrest false).bind ?_
      rintro _ o rfl
      exact .ok (by simp)
    | comparison left right operator combinator =>
      have hcomparison := markedComparison_written s
        (fun h hh => hn h ⟨_, List.mem_cons_self, hh⟩) operator
      refine (markedJoiner_written s bare combinator).bind ?_
      rintro _ link rfl
      refine hcomparison.bind ?_
      rintro _ first rfl
      refine (hrest false).bind ?_
      rintro _ o rfl
      exact .ok (by simp)
    | unknown v => exact .bind_same _ fun _ => .error _

end Condition

/-! ### Queries -/

theorem SortKey.render_written (k : SortKey) (d : Dialect) :
    AgreeUpTo E E' (fun text o => WrittenIn d (plain text) o) (k.render d) k.outlined := by
  have hcolumn : AgreeUpTo E E' (fun text o => WrittenIn d (plain text) o)
      (d.columnName k.table k.column) (Outline.column k.table k.column) := by
    rw [Dialect.columnName, Outline.column]
    exact .bind_same _ fun t => .bind_same _ fun c => .ok (write_columnOf d t c).symm
  refine hcolumn.bind fun text o ho => ?_
  split
  · exact .bind_same _ fun shown => .ok (by simp [← ho])
  · exact .ok ho

namespace Select

variable (q : Select)

theorem renderOrder_written (d : Dialect) :
    AgreeUpTo E E' (fun text o => WrittenIn d (plain text) o) (q.renderOrder d)
      q.outlinedOrder := by
  rw [renderOrder, outlinedOrder]
  split
  · exact .ok rfl
  · have hkeys : AgreeUpTo E E' (List.Forall₂ fun text o => WrittenIn d (plain text) o)
        (q.order.mapM fun k => k.render d) (q.order.mapM SortKey.outlined) := by
      refine .mapM (List.forall₂_same.mpr fun _ _ => rfl) ?_
      rintro k _ rfl
      exact k.render_written d
    refine hkeys.bind fun texts os hos => .ok ?_
    have hparts : texts.map plain = os.map (write d) := by
      induction hos with
      | nil => rfl
      | cons ho _ ih => rw [List.map_cons, List.map_cons, ih, show plain _ = write d _ from ho]
    simp [plain_intercalate, hparts]

theorem renderPage_written (d : Dialect) :
    AgreeUpTo E E' (fun text o => WrittenIn d (plain text) o) (q.renderPage d) q.outlinedPage := by
  unfold renderPage outlinedPage Dialect.limitOf
  cases hpage : pageOffset q.page q.limit with
  | none => exact .ok rfl
  | some offset =>
    cases q.limit with
    | none => exact .ok rfl
    | some size =>
      dsimp only
      cases (Value.int offset).display with
      | error f => exact .error f
      | ok o =>
        cases (Value.int size).display with
        | error f => exact .error f
        | ok n => exact .ok (by simp [Token.write])

theorem markedFields_written {fields : List Field}
    (hn : ∀ h, (∃ f ∈ fields, f.Embeds h) →
      AgreeUpTo E E' (WrittenIn s.dialect) (s.nested h) (nested h)) :
    AgreeUpTo E E' (AllWrittenIn s.dialect) (markedFields s fields)
      (outlinedFields nested fields) := by
  induction fields with
  | nil => exact .ok rfl
  | cons f fs ih =>
    refine (Field.marked_written s fun h hh => hn h ⟨f, List.mem_cons_self, hh⟩).bind ?_
    rintro _ o rfl
    refine (ih fun h ⟨g, hg, hh⟩ => hn h ⟨g, List.mem_cons_of_mem f hg, hh⟩).bind ?_
    rintro _ os rfl
    exact .ok rfl

theorem markedTables_written (tables : List Table) (first : Bool) :
    AgreeUpTo E E' (AllWrittenIn s.dialect) (markedTables s first tables)
      (outlinedTables nested first tables) := by
  induction tables generalizing first with
  | nil => exact .ok rfl
  | cons t ts ih =>
    refine (t.marked_written s first).bind ?_
    rintro _ o rfl
    refine (ih false).bind ?_
    rintro _ os rfl
    exact .ok rfl

variable {q} (hn : ∀ h, q.Embeds h → AgreeUpTo E E' (WrittenIn s.dialect) (s.nested h) (nested h))
include hn

theorem markedConditions_written :
    AgreeUpTo E E' (WrittenIn s.dialect) (markedConditions s q.conditions)
      (outlinedConditions nested q.conditions) := by
  rw [markedConditions, outlinedConditions]
  split
  · exact .ok rfl
  · have hnodes : AgreeUpTo E E' (WrittenIn s.dialect) (Condition.markedNodes s q.conditions)
        (Condition.outlinedNodes nested q.conditions) := by
      refine .bind_given _ fun items hitems => Condition.markedList_written s ?_ true
      rintro h ⟨node, hnode, hh⟩
      obtain ⟨v, hv, rfl⟩ := List.mem_map.mp hnode
      exact hn h (.inr ⟨items, hitems, v, hv, hh⟩)
    refine hnodes.bind ?_
    rintro _ o rfl
    exact .ok (by simp)

/-- **A query is written from its outline**, if the queries that it embeds are. -/
theorem marked_written : AgreeUpTo E E' (WrittenIn s.dialect) (q.marked s) (q.outlined nested) := by
  refine (markedFields_written s fun h hh => hn h (.inl hh)).bind ?_
  rintro _ fields rfl
  refine (markedTables_written s q.tables true).bind ?_
  rintro _ tables rfl
  refine (markedConditions_written s hn).bind ?_
  rintro _ conditions rfl
  refine (q.renderOrder_written s.dialect).bind fun order o ho => ?_
  refine (q.renderPage_written s.dialect).bind fun page p hp => .ok ?_
  simp [← ho, ← hp]

end Select

end Parts

namespace Store

theorem markedWithin_written (s : Store) (d : Dialect) (depth : Nat) (h : Handle) :
    Agree (WrittenIn d) (s.markedWithin d depth h) (s.outlinedWithin depth h) := by
  induction depth generalizing h with
  | zero => exact .error _
  | succ depth ih => exact Select.marked_written ⟨d, s.markedWithin d depth⟩ fun g _ => ih g

end Store

/-! ### Scopes that agree on what is embedded -/

/-- Marked text as an outline that no dialect changes any more. -/
def Marked.outline (t : Marked Value) : Outline :=
  t.map (Glyph.map Token.value)

theorem Marked.write_outline (d : Dialect) (t : Marked Value) : write d t.outline = t := by
  induction t with
  | nil => rfl
  | cons g t ih =>
    cases g with
    | letter c => exact congrArg (Glyph.letter c :: ·) ih
    | marker v => exact congrArg (Glyph.marker v :: ·) ih

namespace AgreeUpTo

variable {E E' : Fault → Prop} {d : Dialect} {m m' : Except Fault (Marked Value)}

theorem refl (m : Except Fault (Marked Value)) : AgreeUpTo E E' Eq m m := by
  cases m with
  | ok t => exact .ok rfl
  | error f => exact .error f

theorem eq (h : Agree Eq m m') : m = m' := by
  cases h with
  | ok h => rw [h]
  | error f => rfl
  | leftGivenUp hf => exact hf.elim
  | rightGivenUp hf => exact hf.elim

/-- What agrees with an outline agrees with what is written for it. -/
theorem written {o : Except Fault Outline} (h : AgreeUpTo E E' (WrittenIn d) m o) :
    AgreeUpTo E E' Eq m (o.map (write d)) := by
  cases h with
  | ok h => exact .ok h
  | error f => exact .error f
  | leftGivenUp hf => exact .leftGivenUp hf _
  | rightGivenUp hf => exact .rightGivenUp hf _

/-- What agrees with a text agrees with its outline. -/
theorem outline (h : AgreeUpTo E E' Eq m m') :
    AgreeUpTo E E' (WrittenIn d) m (m'.map Marked.outline) := by
  cases h with
  | ok h => exact .ok (h ▸ (Marked.write_outline d _).symm)
  | error f => exact .error f
  | leftGivenUp hf => exact .leftGivenUp hf _
  | rightGivenUp hf => exact .rightGivenUp hf _

end AgreeUpTo

/-- **Only embedded queries matter.** If two scopes of a dialect agree on the queries that a query
embeds, then they do on the query itself. -/
theorem Select.marked_agree_self {E E' : Fault → Prop} {q : Select} {d : Dialect}
    {n n' : Handle → Except Fault (Marked Value)}
    (hn : ∀ h, q.Embeds h → AgreeUpTo E E' Eq (n h) (n' h)) :
    AgreeUpTo E E' Eq (q.marked ⟨d, n⟩) (q.marked ⟨d, n'⟩) := by
  -- the texts of the second scope serve as outlines for both
  let outlines : Handle → Except Fault Outline := fun h => (n' h).map Marked.outline
  have hleft : AgreeUpTo E E' (WrittenIn d) (q.marked ⟨d, n⟩) (q.outlined outlines) :=
    Select.marked_written ⟨d, n⟩ fun h hh => (hn h hh).outline
  have hright : Agree (WrittenIn d) (q.marked ⟨d, n'⟩) (q.outlined outlines) :=
    Select.marked_written ⟨d, n'⟩ fun h _ => (AgreeUpTo.refl (n' h)).outline
  rw [hright.written.eq]
  exact hleft.written

/-- Two scopes that give the same text to what a query embeds give the same text to the query. -/
theorem Select.marked_congr {q : Select} {d : Dialect} {n n' : Handle → Except Fault (Marked Value)}
    (hn : ∀ h, q.Embeds h → n h = n' h) : q.marked ⟨d, n⟩ = q.marked ⟨d, n'⟩ :=
  (Select.marked_agree_self fun h hh => hn h hh ▸ .refl (n h)).eq

end FluentSql
