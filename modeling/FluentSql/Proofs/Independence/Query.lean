import FluentSql.Proofs.Independence.Alike
import FluentSql.Proofs.Marked.Compile

/-!
# Queries that are alike are written alike

Every part of a query, in two models that are alike, is refused with the same fault or becomes
marked texts that differ only in values that correspond. The lemmas follow the parts of a query.
-/

namespace FluentSql

variable {E E' : Fault → Prop} {R : Handle → Handle → Prop} {V : Value → Value → Prop} {d : Dialect}
  {n n' : Handle → Except Fault (Marked Value)}

/-! ### Operands -/

namespace MarkedScope

variable (n n') in
theorem column_agree (table name : Value) :
    AgreeUpTo E E' (Marked.Alike V) (column ⟨d, n⟩ table name) (column ⟨d, n'⟩ table name) :=
  .map_same _ fun text => .plain text

theorem aliased_alike {t t' : Marked Value} (ht : Marked.Alike V t t') (a : Option String) :
    Marked.Alike V (aliased ⟨d, n⟩ t a) (aliased ⟨d, n'⟩ t' a) := by
  cases a with
  | none => exact ht
  | some a => exact ht.append (.plain _)

theorem underAlias_agree {t t' : Marked Value} (ht : Marked.Alike V t t') (aliasName : Value) :
    AgreeUpTo E E' (Marked.Alike V) (underAlias ⟨d, n⟩ t aliasName)
      (underAlias ⟨d, n'⟩ t' aliasName) :=
  .map_same _ fun a => aliased_alike ht a

theorem concat_alike {parts parts' : List (Marked Value)}
    (h : List.Forall₂ (Marked.Alike V) parts parts') :
    Marked.Alike V (concat ⟨d, n⟩ parts) (concat ⟨d, n'⟩ parts') := by
  cases d <;> exact (Marked.Alike.plain _).append ((Marked.Alike.intercalate _ h).append (.plain _))

theorem pattern_alike {v w : Value} (h : V v w) (leading trailing : Bool) :
    Marked.Alike V (pattern ⟨d, n⟩ v leading trailing) (pattern ⟨d, n'⟩ w leading trailing) := by
  have hwildcard : ∀ b : Bool, List.Forall₂ (Marked.Alike V)
      (if b then [.plain "'%'"] else []) (if b then [.plain "'%'"] else []) := by
    intro b
    cases b with
    | true => exact .cons (.plain _) .nil
    | false => exact .nil
  exact concat_alike (List.rel_append (List.rel_append (hwildcard leading)
    (.cons (.bound h) .nil)) (hwildcard trailing))

variable (hn : ∀ g h, R g h → AgreeUpTo E E' (Marked.Alike V) (n g) (n' h))
include hn

theorem nested_agree {g h : Handle} (hR : R g h) (labels labels' : Labels) :
    AgreeUpTo E E' (Marked.Alike V) (operand ⟨d, n⟩ (.query g labels))
      (operand ⟨d, n'⟩ (.query h labels')) :=
  (hn g h hR).map fun _ _ ht => (Marked.Alike.plain "(").append ht |>.append (.plain ")")

theorem operand_agree {v w : Value} (h : Value.Alike R V v w) :
    AgreeUpTo E E' (Marked.Alike V) (operand ⟨d, n⟩ v) (operand ⟨d, n'⟩ w) := by
  cases h with
  | column table name => exact column_agree n n' table name
  | query hR => exact nested_agree hn hR _ _
  | bound hv hw h =>
    have hoperand : ∀ (s : MarkedScope) {v : Value}, v.isBound = true →
        s.operand v = .ok (.bound v) := by
      intro s v hv
      cases v <;> first | rfl | cases hv
    rw [hoperand _ hv, hoperand _ hw]
    exact .ok (.bound h)

end MarkedScope

open MarkedScope

/-! ### Fields -/

namespace Field

variable (n n') in
theorem markedColumn_agree (v : Value) :
    AgreeUpTo E E' (Marked.Alike V) (markedColumn ⟨d, n⟩ v) (markedColumn ⟨d, n'⟩ v) := by
  cases v with
  | column table name => exact column_agree n n' table name
  | _ => exact .error _

variable (n n') in
theorem markedTail_agree {separator separator' : Value}
    (hs : Value.SeparatesAlike V separator separator') (columns : List Value) :
    AgreeUpTo E E' (List.Forall₂ (Marked.Alike V)) (markedTail ⟨d, n⟩ separator columns)
      (markedTail ⟨d, n'⟩ separator' columns) := by
  induction columns with
  | nil => exact .ok .nil
  | cons c rest ih =>
    have hgap : List.Forall₂ (Marked.Alike V)
        (if separator.truthy then [Marked.bound separator] else [])
        (if separator'.truthy then [Marked.bound separator'] else []) := by
      rcases hs with ⟨hv, hw⟩ | ⟨hv, hw, h⟩
      · rw [hv, hw]
        exact .nil
      · rw [hv, hw]
        exact .cons (.bound h) .nil
    have hcolumn : AgreeUpTo E E' (Marked.Alike V) (markedColumn ⟨d, n⟩ c)
        (markedColumn ⟨d, n'⟩ c) := markedColumn_agree n n' c
    exact hcolumn.bind fun _ _ ht => ih.bind fun _ _ hts =>
      .ok (List.rel_append hgap (.cons ht hts))

variable (n n') in
theorem markedParts_agree {separator separator' : Value}
    (hs : Value.SeparatesAlike V separator separator') (columns : List Value) :
    AgreeUpTo E E' (List.Forall₂ (Marked.Alike V)) (markedParts ⟨d, n⟩ separator columns)
      (markedParts ⟨d, n'⟩ separator' columns) := by
  cases columns with
  | nil => exact .ok .nil
  | cons c rest =>
    have hcolumn : AgreeUpTo E E' (Marked.Alike V) (markedColumn ⟨d, n⟩ c)
        (markedColumn ⟨d, n'⟩ c) := markedColumn_agree n n' c
    refine hcolumn.bind fun _ _ ht => ?_
    exact (markedTail_agree n n' hs rest).bind fun _ _ hts => .ok (.cons ht hts)

variable (hn : ∀ g h, R g h → AgreeUpTo E E' (Marked.Alike V) (n g) (n' h))
include hn

theorem markedSource_agree {name distinct source source' : Value}
    (hs : Value.Nested R source source') :
    AgreeUpTo E E' (Marked.Alike V) (markedSource ⟨d, n⟩ name distinct source)
      (markedSource ⟨d, n'⟩ name distinct source') := by
  -- a source is no bound value, so what is no query is the same on both sides
  cases hs with
  | @query g h labels labels' hR => exact nested_agree hn hR labels labels'
  | same hv =>
    cases source with
    | null =>
      rw [markedSource, markedSource]
      split
      · exact .bind_same _ fun _ => .error _
      · exact .ok (.plain _)
    | query => cases hv
    | column table c => exact column_agree n n' table c
    | _ => exact .error _

theorem markedArgument_agree {argument argument' : Option Value}
    (ha : Option.Rel (Value.Alike R V) argument argument') :
    AgreeUpTo E E' (Marked.Alike V) (markedArgument ⟨d, n⟩ argument)
      (markedArgument ⟨d, n'⟩ argument') := by
  cases ha with
  | none => exact .ok .nil
  | some h => exact (operand_agree hn h).bind fun _ _ ht => .ok ((Marked.Alike.plain _).append ht)

theorem marked_agree {f f' : Field} (hf : Field.Alike R V f f') :
    AgreeUpTo E E' (Marked.Alike V) (f.marked ⟨d, n⟩) (f'.marked ⟨d, n'⟩) := by
  cases hf with
  | column table name aliasName =>
    exact (column_agree n n' table name).bind fun _ _ ht => underAlias_agree ht aliasName
  | wildcard table => exact column_agree n n' table (.text "*")
  | @function name source source' distinct aliasName argument argument' hs ha =>
    refine (markedSource_agree hn hs).bind fun _ _ hinner => ?_
    refine (markedArgument_agree hn ha).bind fun _ _ hsecond => ?_
    refine .bind_same _ fun called => underAlias_agree ?_ aliasName
    have hend := hinner.append (hsecond.append (.plain ")"))
    exact (Marked.Alike.plain _).append ((Marked.Alike.plain _).append hend)
  | @concat columns aliasName separator separator' hs =>
    refine .bind_same _ fun items => (markedParts_agree n n' hs items).bind fun _ _ hparts => ?_
    exact underAlias_agree (concat_alike hparts) aliasName
  | @subquery query query' aliasName hq =>
    cases hq with
    | query hR => exact (nested_agree hn hR _ _).bind fun _ _ ht => underAlias_agree ht aliasName
    | same hv =>
      cases query with
      | query => cases hv
      | _ => exact .error _

end Field

/-! ### Tables -/

/-- A target of a join that is no query is an operand. -/
theorem Table.markedEquality_eq (t : Table) (s : MarkedScope) (column : Value) {v : Value}
    (hv : v.isQuery = false) :
    t.markedEquality s column v = (do
      let left ← s.column t.label column
      let right ← s.operand v
      .ok (left ++ (.plain " = " ++ right))) := by
  cases v <;> first | rfl | cases hv

theorem Value.isQuery_of_isBound {v : Value} (hv : v.isBound = true) : v.isQuery = false := by
  cases v <;> first | rfl | cases hv

namespace Table

theorem reference_eq {t t' : Table} (ht : Table.Alike R V t t') (d : Dialect) :
    t.reference d = t'.reference d := by
  rw [reference, reference, ht.schema, ht.table, ht.aliasName]

theorem keyword_eq {t t' : Table} (ht : Table.Alike R V t t') : t.keyword = t'.keyword := by
  rw [keyword, keyword, ht.join]

variable (hn : ∀ g h, R g h → AgreeUpTo E E' (Marked.Alike V) (n g) (n' h))
include hn

theorem markedEquality_agree {t t' : Table} (ht : Table.Alike R V t t') (column : Value)
    {v w : Value} (h : Value.Alike R V v w) :
    AgreeUpTo E E' (Marked.Alike V) (t.markedEquality ⟨d, n⟩ column v)
      (t'.markedEquality ⟨d, n'⟩ column w) := by
  have hlabel : t.label = t'.label := by rw [label, label, ht.aliasName, ht.table]
  have hleft : AgreeUpTo E E' (Marked.Alike V) (MarkedScope.column ⟨d, n⟩ t.label column)
      (MarkedScope.column ⟨d, n'⟩ t'.label column) := by
    rw [hlabel]
    exact column_agree n n' t'.label column
  have hright := operand_agree (d := d) hn h
  have hoperands : v.isQuery = false → w.isQuery = false →
      AgreeUpTo E E' (Marked.Alike V) (t.markedEquality ⟨d, n⟩ column v)
        (t'.markedEquality ⟨d, n'⟩ column w) := by
    intro hv hw
    rw [markedEquality_eq t _ column hv, markedEquality_eq t' _ column hw]
    exact hleft.bind fun _ _ hl => hright.bind fun _ _ hr =>
      .ok (hl.append ((Marked.Alike.plain " = ").append hr))
  cases h with
  -- a query as a target is refused, but only once its column was named
  | query hR => exact hleft.bind fun _ _ _ => .bind_same _ fun _ => .error _
  | column table name => exact hoperands rfl rfl
  | bound hv hw _ =>
    exact hoperands (Value.isQuery_of_isBound hv) (Value.isQuery_of_isBound hw)

theorem markedEqualities_agree {t t' : Table} (ht : Table.Alike R V t t')
    {entries entries' : List (Value × Value)}
    (h : List.Forall₂ (Entry.Alike (Value.Alike R V)) entries entries') :
    AgreeUpTo E E' (List.Forall₂ (Marked.Alike V)) (t.markedEqualities ⟨d, n⟩ entries)
      (t'.markedEqualities ⟨d, n'⟩ entries') := by
  induction h with
  | nil => exact .ok .nil
  | @cons e e' rest rest' he _ ih =>
    obtain ⟨hkey, hv⟩ := he
    obtain ⟨column, v⟩ := e
    obtain ⟨column', w⟩ := e'
    obtain rfl : column = column' := hkey
    have hequality := markedEquality_agree (d := d) hn ht column hv
    exact hequality.bind fun _ _ hl => ih.bind fun _ _ hr => .ok (.cons hl hr)

theorem markedOn_agree {t t' : Table} (ht : Table.Alike R V t t') :
    AgreeUpTo E E' (Marked.Alike V) (t.markedOn ⟨d, n⟩) (t'.markedOn ⟨d, n'⟩) := by
  have hjoins := ht.joins
  rw [markedOn, markedOn]
  generalize t.joins = v at hjoins
  generalize t'.joins = w at hjoins
  cases hjoins with
  | record h =>
    have htexts := markedEqualities_agree (d := d) hn ht h
    cases h with
    | nil => exact .ok .nil
    | cons =>
      refine htexts.bind fun _ _ hts => .ok ?_
      have htests := Marked.Alike.intercalate " AND " hts
      exact (Marked.Alike.plain _).append (htests.append (.plain _))
  | other hv =>
    split
    · exact .ok .nil
    · cases v with
      | record entries => exact absurd rfl (hv entries)
      | _ => exact .error _

theorem marked_agree {t t' : Table} (ht : Table.Alike R V t t') (first : Bool) :
    AgreeUpTo E E' (Marked.Alike V) (t.marked ⟨d, n⟩ first) (t'.marked ⟨d, n'⟩ first) := by
  rw [marked, marked, reference_eq ht, keyword_eq ht]
  refine .bind_same _ fun text => ?_
  cases first with
  | true => exact .ok (.plain _)
  | false =>
    have hon := markedOn_agree (d := d) hn ht
    exact .bind_same _ fun keyword => hon.bind fun _ _ hu => .ok ((Marked.Alike.plain _).append hu)

end Table

/-! ### Conditions -/

theorem Value.isQuery_of_members {v : Value} {vs : List Value} (hv : v.members? = some vs) :
    v.isQuery = false := by
  cases v <;> first | rfl | cases hv

theorem Value.isQuery_of_pair {v low high : Value} (hv : v.pair? = some (low, high)) :
    v.isQuery = false := by
  cases v <;> first | rfl | cases hv

namespace Condition

theorem joiner_agree (bare : Bool) (combinator : Value) :
    AgreeUpTo E E' (Marked.Alike V) (markedJoiner bare combinator)
      (markedJoiner bare combinator) := by
  cases bare with
  | true => exact .ok .nil
  | false => exact .bind_same _ fun _ => .ok (.plain _)

variable (hn : ∀ g h, R g h → AgreeUpTo E E' (Marked.Alike V) (n g) (n' h))
include hn

theorem markedAll_agree {vs ws : List Value} (h : List.Forall₂ (Value.Alike R V) vs ws) :
    AgreeUpTo E E' (List.Forall₂ (Marked.Alike V)) (markedAll ⟨d, n⟩ vs)
      (markedAll ⟨d, n'⟩ ws) := by
  induction h with
  | nil => exact .ok .nil
  | cons hv _ ih =>
    exact (operand_agree hn hv).bind fun _ _ ht => ih.bind fun _ _ hts => .ok (.cons ht hts)

section

variable {left left' right right' : Value} (hl : Value.Alike R V left left')
include hl

/-- The right side only has to be written alike. -/
theorem markedPlain_agree (hr : AgreeUpTo E E' (Marked.Alike V) (operand ⟨d, n⟩ right)
    (operand ⟨d, n'⟩ right')) (operator : Value) :
    AgreeUpTo E E' (Marked.Alike V) (markedPlain ⟨d, n⟩ left right operator)
      (markedPlain ⟨d, n'⟩ left' right' operator) := by
  refine (operand_agree hn hl).bind fun _ _ ht => ?_
  refine .bind_same _ fun _ => hr.bind fun _ _ hu => .ok ?_
  exact ht.append ((Marked.Alike.plain _).append hu)

theorem markedMembership_agree {vs ws : List Value} (hv : right.members? = some vs)
    (hw : right'.members? = some ws) (h : List.Forall₂ (Value.Alike R V) vs ws)
    (keyword : String) (negated : Bool) :
    AgreeUpTo E E' (Marked.Alike V) (markedMembership ⟨d, n⟩ left right keyword negated)
      (markedMembership ⟨d, n'⟩ left' right' keyword negated) := by
  have hall := markedAll_agree (d := d) hn h
  rw [markedMembership, markedMembership, hv, hw]
  cases h with
  | nil => exact .ok (.plain _)
  | cons =>
    refine (operand_agree hn hl).bind fun _ _ ht => hall.bind fun _ _ hts => .ok ?_
    have hitems := (Marked.Alike.intercalate ", " hts).append (.plain ")")
    exact ht.append ((Marked.Alike.plain _).append hitems)

theorem markedRange_agree (h : Value.RangesAlike R V right right')
    (hquery : right.isQuery = false) :
    AgreeUpTo E E' (Marked.Alike V) (markedRange ⟨d, n⟩ left right)
      (markedRange ⟨d, n'⟩ left' right') := by
  refine (operand_agree hn hl).bind fun _ _ ht => ?_
  cases h with
  | query => cases hquery
  | other hv hw =>
    rw [hv, hw]
    exact .error _
  | pair hv hw hlow hhigh =>
    rw [hv, hw]
    refine (operand_agree hn hlow).bind fun _ _ hlo => ?_
    refine (operand_agree hn hhigh).bind fun _ _ hhi => .ok ?_
    have hends := hlo.append ((Marked.Alike.plain " AND ").append hhi)
    exact ht.append ((Marked.Alike.plain _).append hends)

theorem markedPattern_agree (h : V right right') (keyword : String) (leading trailing : Bool) :
    AgreeUpTo E E' (Marked.Alike V) (markedPattern ⟨d, n⟩ left right keyword leading trailing)
      (markedPattern ⟨d, n'⟩ left' right' keyword leading trailing) := by
  refine (operand_agree hn hl).bind fun _ _ ht => .ok ?_
  exact ht.append ((Marked.Alike.plain _).append (pattern_alike h leading trailing))

theorem markedComparison_agree {operator : Value}
    (hr : ∀ keyword, operatorName operator = .ok keyword →
      (OperatorKind.ofName keyword).RightAlike R V right right') :
    AgreeUpTo E E' (Marked.Alike V) (markedComparison ⟨d, n⟩ left right operator)
      (markedComparison ⟨d, n'⟩ left' right' operator) := by
  have hnested : ∀ {g h : Handle} (labels labels' : Labels), R g h →
      AgreeUpTo E E' (Marked.Alike V) (markedPlain ⟨d, n⟩ left (.query g labels) operator)
        (markedPlain ⟨d, n'⟩ left' (.query h labels') operator) := fun labels labels' hR =>
    markedPlain_agree hn hl (nested_agree hn hR labels labels') operator
  -- the operator is the same, so both sides are of the same kind
  refine .bind_given _ fun keyword hkeyword => ?_
  have hright := hr keyword hkeyword
  generalize OperatorKind.ofName keyword = kind at hright
  cases kind with
  | nullTest => exact (operand_agree hn hl).bind fun _ _ ht => .ok (ht.append (.plain _))
  | pattern name leading trailing =>
    cases hright with
    | query hR => exact hnested _ _ hR
    | bound hv hw h =>
      simp only [hv, hw, Bool.false_eq_true, if_false]
      exact markedPattern_agree hn hl h name leading trailing
  | membership negated =>
    cases hright with
    | query hR => exact hnested _ _ hR
    | members hv hw h =>
      simp only [Value.isQuery_of_members hv, Value.isQuery_of_members hw, Bool.false_eq_true,
        if_false]
      exact markedMembership_agree hn hl hv hw h keyword negated
    | other hv hw hqv hqw ht =>
      simp only [hqv, hqw, Bool.false_eq_true, if_false]
      rw [markedMembership, markedMembership, hv, hw, ht]
      exact .error _
  | range =>
    cases hright with
    | query hR => exact hnested _ _ hR
    | pair hv hw hlow hhigh =>
      have hquery := Value.isQuery_of_pair hv
      simp only [hquery, Value.isQuery_of_pair hw, Bool.false_eq_true, if_false]
      exact markedRange_agree hn hl (.pair hv hw hlow hhigh) hquery
    | other hv hw hqv hqw =>
      simp only [hqv, hqw, Bool.false_eq_true, if_false]
      exact markedRange_agree hn hl (.other hv hw hqv hqw) hqv
  | plain => exact markedPlain_agree hn hl (operand_agree hn hright) operator

end

theorem markedList_agree {nodes nodes' : List Condition}
    (h : List.Forall₂ (Condition.Alike R V) nodes nodes') (bare : Bool) :
    AgreeUpTo E E' (Marked.Alike V) (markedList ⟨d, n⟩ bare nodes)
      (markedList ⟨d, n'⟩ bare nodes') := by
  induction h generalizing bare with
  | nil => exact .ok .nil
  | cons hnode _ ih =>
    cases hnode with
    | groupStart combinator =>
      have hjoiner : AgreeUpTo E E' (Marked.Alike V) _ _ := joiner_agree bare combinator
      refine hjoiner.bind fun _ _ hlink => ?_
      exact (ih true).bind fun _ _ ht => .ok (hlink.append ((Marked.Alike.plain _).append ht))
    -- the combinator of a closing mark is not written
    | groupEnd combinator combinator' =>
      exact (ih false).bind fun _ _ ht => .ok ((Marked.Alike.plain _).append ht)
    | @comparison _ _ _ _ _ combinator hl hr =>
      have hjoiner : AgreeUpTo E E' (Marked.Alike V) _ _ := joiner_agree bare combinator
      have hcomparison := markedComparison_agree (d := d) hn hl hr
      refine hjoiner.bind fun _ _ hlink => ?_
      refine hcomparison.bind fun _ _ hfirst => (ih false).bind fun _ _ ht => .ok ?_
      exact hlink.append (hfirst.append ht)
    | unknown v => exact .bind_same _ fun _ => .error _

end Condition

/-! ### Queries -/

namespace Select

variable (hn : ∀ g h, R g h → AgreeUpTo E E' (Marked.Alike V) (n g) (n' h))
include hn

theorem markedFields_agree {fields fields' : List Field}
    (h : List.Forall₂ (Field.Alike R V) fields fields') :
    AgreeUpTo E E' (List.Forall₂ (Marked.Alike V)) (markedFields ⟨d, n⟩ fields)
      (markedFields ⟨d, n'⟩ fields') := by
  induction h with
  | nil => exact .ok .nil
  | cons hf _ ih =>
    have hfield := Field.marked_agree (d := d) hn hf
    exact hfield.bind fun _ _ ht => ih.bind fun _ _ hts => .ok (.cons ht hts)

theorem markedTables_agree {tables tables' : List Table}
    (h : List.Forall₂ (Table.Alike R V) tables tables') (first : Bool) :
    AgreeUpTo E E' (List.Forall₂ (Marked.Alike V)) (markedTables ⟨d, n⟩ first tables)
      (markedTables ⟨d, n'⟩ first tables') := by
  induction h generalizing first with
  | nil => exact .ok .nil
  | cons ht _ ih =>
    have htable := Table.marked_agree (d := d) hn ht first
    exact htable.bind fun _ _ hu => (ih false).bind fun _ _ hus => .ok (.cons hu hus)

theorem markedConditions_agree {v w : Value} (h : Value.ConditionsAlike R V v w) :
    AgreeUpTo E E' (Marked.Alike V) (markedConditions ⟨d, n⟩ v) (markedConditions ⟨d, n'⟩ w) := by
  rw [markedConditions, markedConditions, h.truthy]
  split
  · exact .ok .nil
  -- that the nodes can be gone through does not depend on the depth
  · have hnodes : AgreeUpTo E E' (Marked.Alike V) (Condition.markedNodes ⟨d, n⟩ v)
        (Condition.markedNodes ⟨d, n'⟩ w) :=
      (AgreeUpTo.of_agree h.items).bind fun _ _ hitems => Condition.markedList_agree hn
        (List.forall₂_map_left_iff.mpr (List.forall₂_map_right_iff.mpr hitems)) true
    exact hnodes.bind fun _ _ ht => .ok ((Marked.Alike.plain _).append ht)

theorem marked_agree {q q' : Select} (h : Select.Alike R V q q') :
    AgreeUpTo E E' (Marked.Alike V) (q.marked ⟨d, n⟩) (q'.marked ⟨d, n'⟩) := by
  have horder : q.renderOrder d = q'.renderOrder d := by rw [renderOrder, renderOrder, h.order]
  have hpage : q.renderPage d = q'.renderPage d := by
    rw [renderPage, renderPage, h.page, h.limit]
  rw [marked, marked, horder, hpage]
  refine (markedFields_agree hn h.fields).bind fun _ _ hfields => ?_
  refine (markedTables_agree hn h.tables true).bind fun _ _ htables => ?_
  refine (markedConditions_agree hn h.conditions).bind fun _ _ hconditions => ?_
  refine .bind_same _ fun order => .bind_same _ fun page => .ok ?_
  have hend := hconditions.append (.plain (order ++ page))
  have hsources := (Marked.Alike.intercalate " " htables).append hend
  have hselected := (Marked.Alike.intercalate ", " hfields).append
    ((Marked.Alike.plain " FROM ").append hsources)
  exact (Marked.Alike.plain _).append hselected

end Select

/-- Queries that are alike have marked texts that agree, at every depth of nesting. At two depths
that differ they agree up to what is nested deeper than the lesser one. -/
theorem Store.markedWithin_agree {s t : Store} (d : Dialect)
    (hst : Correspond R V s t) (depth depth' : Nat)
    (hE : depth < depth' → E (.display .endless)) (hE' : depth' < depth → E' (.display .endless)) :
    ∀ g h, R g h → AgreeUpTo E E' (Marked.Alike V) (s.markedWithin d depth g)
      (t.markedWithin d depth' h) := by
  induction depth generalizing depth' with
  | zero =>
    cases depth' with
    | zero => exact fun _ _ _ => .error _
    | succ depth' => exact fun _ _ _ => .leftGivenUp (hE depth'.succ_pos) _
  | succ depth ih =>
    cases depth' with
    | zero => exact fun _ _ _ => .rightGivenUp (hE' depth.succ_pos) _
    | succ depth' =>
      -- the embedded queries are one level down on both sides, so the order of the depths is kept
      have hinner := ih depth' (fun hlt => hE (Nat.succ_lt_succ hlt))
        (fun hlt => hE' (Nat.succ_lt_succ hlt))
      exact fun g h hgh => Select.marked_agree hinner (hst.alike hgh)

end FluentSql
