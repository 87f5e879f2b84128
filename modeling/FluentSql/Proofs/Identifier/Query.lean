import FluentSql.Proofs.Identifier.Renamed

/-!
# Renamed queries have renamed outlines

There is one lemma for each part of a query: two renamings of it have outlines that differ in their
names only, or are refused for the same fault. A join whose target is a query is the exception,
since the refusal shows the column: such a refusal of the first query is set aside (`E`).
-/

namespace FluentSql

open Marked Outline

variable {d : Dialect} {R : Handle → Handle → Prop} {N : String → String → Prop}
  {E E' : Fault → Prop} {n n' : Handle → Except Fault Outline}

/-- Clean text that is written between two outlines. -/
theorem Outline.Renamed.append_clean_append {o o' p p' : Outline} (h : Renamed d N o o')
    {s : String} (hs : Clean s) (hne : s ≠ "") (hp : Renamed d N p p') :
    Renamed d N (o ++ (Marked.plain s ++ p)) (o' ++ (Marked.plain s ++ p')) :=
  h.append_plain_append (hs.unquoted d) hne hp

/-! ### Names -/

/-- Two optional names: each is a name that corresponds to the other, and none is a star alone. -/
structure NamesRenamed (N : String → String → Prop) (a b : Option String) : Prop where
  rel : Option.Rel N a b
  star : a = some "*" ↔ b = some "*"

namespace Value.Renamed

variable {v w : Value}

theorem names (h : Renamed N v w) : AgreeUpTo E E' (NamesRenamed N) v.name? w.name? := by
  cases h with
  | same h =>
    cases hname : v.name? with
    | error f => exact .error f
    | ok name =>
      have hself := h name hname
      cases name with
      | none => exact .ok ⟨.none, Iff.rfl⟩
      | some a => exact .ok ⟨.some (hself a rfl), Iff.rfl⟩
  | @text a b ha hb hastar hbstar hN =>
    have hname : ∀ s : String, s ≠ "" → (Value.text s).name? = .ok (some s) := by
      intro s hs
      have hgiven : (Value.text s).truthy = true := by simp [truthy, hs]
      rw [name?, if_pos hgiven]
      rfl
    rw [hname a ha, hname b hb]
    refine .ok ⟨.some hN, iff_of_false ?_ ?_⟩
    · exact fun h => hastar (Option.some.inj h)
    · exact fun h => hbstar (Option.some.inj h)

theorem truthy_eq (h : Renamed N v w) : v.truthy = w.truthy := by
  cases h with
  | same => rfl
  | @text a b ha hb =>
    have hgiven : ∀ s : String, s ≠ "" → (Value.text s).truthy = true := by
      intro s hs
      simp [truthy, hs]
    rw [hgiven a ha, hgiven b hb]

/-- Renamed values are no names alike. -/
theorem orElse {v' w' : Value} (h : Renamed N v w) (h' : Renamed N v' w') :
    Renamed N (v.orElse v') (w.orElse w') := by
  rw [Value.orElse, Value.orElse, ← h.truthy_eq]
  split
  · exact h
  · exact h'

end Value.Renamed

namespace Outline

theorem dotted_renamed {names names' : List (Option String)}
    (h : List.Forall₂ (NamesRenamed N) names names') :
    Renamed d N (dotted names) (dotted names') := by
  refine .intercalate (Clean.unquoted d (by decide)) (by decide) ?_
  induction h with
  | nil => exact .nil
  | cons hname _ ih =>
    cases hname.rel with
    | none => exact ih
    | some hN => exact .cons (.bound_name hN) ih

/-- The column `*` is no name. -/
theorem columnOf_star_renamed {t t' : Option String} (ht : NamesRenamed N t t') :
    Renamed d N (columnOf t (some "*")) (columnOf t' (some "*")) := by
  unfold columnOf
  rw [if_pos rfl, if_pos rfl]
  cases ht.rel with
  | none => exact .plain (Clean.unquoted d (by decide))
  | some hN =>
    exact (Renamed.bound_name hN).append_plain (Clean.unquoted d (by decide)) (by decide)

theorem columnOf_renamed {t t' c c' : Option String} (ht : NamesRenamed N t t')
    (hc : NamesRenamed N c c') : Renamed d N (columnOf t c) (columnOf t' c') := by
  by_cases hstar : c = some "*"
  · rw [hstar, hc.star.mp hstar]
    exact columnOf_star_renamed ht
  · unfold columnOf
    rw [if_neg hstar, if_neg fun h => hstar (hc.star.mpr h)]
    exact dotted_renamed (.cons ht (.cons hc .nil))

theorem column_renamed {t t' c c' : Value} (ht : Value.Renamed N t t')
    (hc : Value.Renamed N c c') :
    AgreeUpTo E E' (Renamed d N) (column t c) (column t' c') :=
  ht.names.bind fun _ _ ht => hc.names.bind fun _ _ hc => .ok (columnOf_renamed ht hc)

theorem underAlias_renamed {o o' : Outline} (h : Renamed d N o o') {a a' : Value}
    (ha : Value.Renamed N a a') :
    AgreeUpTo E E' (Renamed d N) (underAlias o a) (underAlias o' a') := by
  refine ha.names.map fun name name' hname => ?_
  cases hname.rel with
  | none => exact h
  | some hN => exact h.append_clean_append (by decide) (by decide) (.bound_name hN)

theorem concat_renamed {os os' : List Outline} (h : List.Forall₂ (Renamed d N) os os') :
    Renamed d N (concat os) (concat os') := by
  have hbehind : Renamed d N (List.intercalate (bound .gap) os ++ plain ")")
      (List.intercalate (bound .gap) os' ++ plain ")") :=
    (Renamed.gaps h).append_plain (Clean.unquoted d (by decide)) (by decide)
  exact .opening hbehind

/-- The wildcards of a pattern are in single quotes, which quote no name. -/
theorem pattern_renamed (v w : Value) (leading trailing : Bool) :
    Renamed d N (pattern v leading trailing) (pattern w leading trailing) := by
  have hunquoted : d.Unquoted "'%'" := by
    rw [Dialect.Unquoted]
    cases d <;> decide
  have hwildcard : ∀ b : Bool, List.Forall₂ (Renamed d N) (if b then [plain "'%'"] else [])
      (if b then [plain "'%'"] else []) := by
    intro b
    cases b with
    | true => exact .cons (.plain hunquoted) .nil
    | false => exact .nil
  have hvalue : List.Forall₂ (Renamed d N) [bound (.value v)] [bound (.value w)] :=
    .cons (.bound_value v w) .nil
  exact concat_renamed (List.rel_append (List.rel_append (hwildcard leading) hvalue)
    (hwildcard trailing))

end Outline

/-! ### Operands -/

section Parts

variable (hn : ∀ g g', R g g' → AgreeUpTo E E' (Outline.Renamed d N) (n g) (n' g'))

include hn in
theorem Outline.operand_renamed {v w : Value} (h : Value.OperandRenamed R N v w) :
    AgreeUpTo E E' (Renamed d N) (operand n v) (operand n' w) := by
  cases h with
  | column ht hc => exact column_renamed ht hc
  | query hR =>
    refine (hn _ _ hR).map fun o o' ho => ?_
    exact Renamed.plain_append (Clean.unquoted d (by decide))
      (ho.append_plain (Clean.unquoted d (by decide)) (by decide))
  | same hv =>
    cases v with
    | column | query => cases hv
    | _ => exact .ok (.bound_value _ _)

/-! ### Fields -/

namespace Field

theorem outlinedColumn_renamed {v w : Value} (h : Value.OperandRenamed R N v w) :
    AgreeUpTo E E' (Outline.Renamed d N) (outlinedColumn v) (outlinedColumn w) := by
  cases h with
  | column ht hc => exact column_renamed ht hc
  | query => exact .error _
  | same hv =>
    cases v with
    | column | query => cases hv
    | _ => exact .error _

theorem outlinedTail_renamed (separator : Value) {vs ws : List Value}
    (h : List.Forall₂ (Value.OperandRenamed R N) vs ws) :
    AgreeUpTo E E' (List.Forall₂ (Outline.Renamed d N)) (outlinedTail separator vs)
      (outlinedTail separator ws) := by
  induction h with
  | nil => exact .ok .nil
  | cons hv _ ih =>
    refine (outlinedColumn_renamed (d := d) hv).bind fun o o' ho => ih.bind fun os os' hos => .ok ?_
    refine List.rel_append ?_ (.cons ho hos)
    split
    · exact .cons (.bound_value _ _) .nil
    · exact .nil

theorem outlinedParts_renamed (separator : Value) {vs ws : List Value}
    (h : List.Forall₂ (Value.OperandRenamed R N) vs ws) :
    AgreeUpTo E E' (List.Forall₂ (Outline.Renamed d N)) (outlinedParts separator vs)
      (outlinedParts separator ws) := by
  cases h with
  | nil => exact .ok .nil
  | cons hv hrest =>
    refine (outlinedColumn_renamed (d := d) hv).bind fun o o' ho => ?_
    exact (outlinedTail_renamed (d := d) separator hrest).bind fun os os' hos => .ok (.cons ho hos)

include hn

theorem outlinedSource_renamed (name distinct : Value) {v w : Value}
    (h : Value.OperandRenamed R N v w) :
    AgreeUpTo E E' (Outline.Renamed d N) (outlinedSource n name distinct v)
      (outlinedSource n' name distinct w) := by
  cases h with
  | column ht hc => exact column_renamed ht hc
  | @query g g' labels labels' hR =>
    have hoperand : Value.OperandRenamed R N (.query g labels) (.query g' labels') := .query hR
    exact operand_renamed hn hoperand
  | same hv =>
    cases v with
    | column | query => cases hv
    | null =>
      rw [outlinedSource, outlinedSource]
      split
      · exact .bind_same _ fun _ => .error _
      · exact .ok (.plain (Clean.unquoted d (by decide)))
    | _ => exact .error _

theorem outlinedArgument_renamed {argument argument' : Option Value}
    (h : Option.Rel (Value.OperandRenamed R N) argument argument') :
    AgreeUpTo E E' (Outline.RenamedApart d N) (outlinedArgument n argument)
      (outlinedArgument n' argument') := by
  cases h with
  | none => exact .ok .nil
  | some h =>
    exact (operand_renamed hn h).bind fun o o' ho =>
      .ok (.plain_append (Clean.unquoted d (by decide)) (by decide) ho)

theorem outlined_renamed {f f' : Field} (h : Field.Renamed d R N f f') :
    AgreeUpTo E E' (Outline.Renamed d N) (f.outlined n) (f'.outlined n') := by
  cases h with
  | column ht hc ha => exact (column_renamed ht hc).bind fun o o' ho => underAlias_renamed ho ha
  | wildcard ht => exact ht.names.bind fun _ _ ht => .ok (columnOf_star_renamed ht)
  | @function _ _ _ distinct _ _ _ _ hname hs ha harg =>
    refine (outlinedSource_renamed hn _ _ hs).bind fun inner inner' hinner => ?_
    refine (outlinedArgument_renamed hn harg).bind fun second second' hsecond => ?_
    refine .bind_given _ fun called hcalled => underAlias_renamed ?_ ha
    have hclosing : Outline.RenamedApart d N (plain ")") (plain ")") :=
      .plain (Clean.unquoted d (by decide)) (by decide)
    have harguments := hinner.append (hsecond.append hclosing)
    have hdistinct : d.Unquoted (if distinct.truthy then "DISTINCT " else "") := by
      split
      · exact Clean.unquoted d (by decide)
      · exact Clean.unquoted d (by decide)
    exact .plain_append ((hname called hcalled).append (Clean.unquoted d (by decide)))
      (.plain_append hdistinct harguments)
  | concat hcolumns ha =>
    refine hcolumns.of_agree.bind fun items items' hitems => ?_
    refine (outlinedParts_renamed (d := d) _ hitems).bind fun parts parts' hparts => ?_
    exact underAlias_renamed (concat_renamed hparts) ha
  | @subquery query query' aliasName aliasName' hq ha =>
    cases hq with
    | @query g g' labels labels' hR =>
      have hoperand : Value.OperandRenamed R N (.query g labels) (.query g' labels') := .query hR
      exact (operand_renamed hn hoperand).bind fun o o' ho => underAlias_renamed ho ha
    | column => exact .error _
    | same hv =>
      cases query with
      | query => cases hv
      | _ => exact .error _

end Field

/-! ### Tables -/

namespace Table

variable {t t' : Table} (h : Table.Renamed d R N t t')
include h

theorem label_renamed : Value.Renamed N t.label t'.label :=
  h.aliasName.orElse h.table

/-- The keywords of a join have no quotes. -/
theorem unquoted_keyword : Gives t.keyword d.Unquoted := by
  have hkeyword := h.keyword
  rw [keyword]
  split
  · rename_i j _
    refine .ok (Clean.unquoted d ?_)
    cases j <;> decide
  · rename_i hjoin
    exact hkeyword _ _ _ _ hjoin
  · exact .error _

theorem outlinedReference_renamed :
    AgreeUpTo E E' (Outline.Renamed d N) t.outlinedReference t'.outlinedReference := by
  have hnames : AgreeUpTo E E' (List.Forall₂ (NamesRenamed N))
      ([t.schema, t.table].mapM Value.name?) ([t'.schema, t'.table].mapM Value.name?) :=
    .mapM (.cons h.schema (.cons h.table .nil)) fun _ _ hname => hname.names
  exact hnames.bind fun names names' hnames =>
    underAlias_renamed (dotted_renamed hnames) h.aliasName

variable (hE : ∀ shown, E (.refused (.joinTargetIsQuery shown)))
include hn hE

/-- A query as a target is refused on both sides, and the refusals may show different columns. -/
theorem outlinedEquality_renamed {column column' target target' : Value}
    (hcolumn : Value.Renamed N column column')
    (htarget : Value.OperandRenamed R N target target') :
    AgreeUpTo E E' (Outline.Renamed d N) (t.outlinedEquality n column target)
      (t'.outlinedEquality n' column' target') := by
  have hleft : AgreeUpTo E E' (Outline.Renamed d N) (Outline.column t.label column)
      (Outline.column t'.label column') := column_renamed (label_renamed h) hcolumn
  refine hleft.bind fun left left' hleft => ?_
  have hright : AgreeUpTo E E' (Outline.Renamed d N)
      (operand n target >>= fun right => .ok (left ++ (plain " = " ++ right)))
      (operand n' target' >>= fun right => .ok (left' ++ (plain " = " ++ right))) :=
    (operand_renamed hn htarget).bind fun right right' hright =>
      .ok (hleft.append_clean_append (by decide) (by decide) hright)
  cases htarget with
  | column => exact hright
  | query =>
    cases hcolumn with
    | same => exact .bind_same _ fun _ => .error _
    | text => exact .leftGivenUp (hE _) _
  | same hv =>
    cases target with
    | column | query => cases hv
    | _ => exact hright

theorem outlinedEqualities_renamed {entries entries' : List (Value × Value)}
    (hentries : List.Forall₂
      (fun e f => Value.Renamed N e.1 f.1 ∧ Value.OperandRenamed R N e.2 f.2) entries entries') :
    AgreeUpTo E E' (List.Forall₂ (Outline.Renamed d N)) (t.outlinedEqualities n entries)
      (t'.outlinedEqualities n' entries') := by
  induction hentries with
  | nil => exact .ok .nil
  | cons he _ ih =>
    refine (outlinedEquality_renamed hn h hE he.1 he.2).bind fun o o' ho => ?_
    exact ih.bind fun os os' hos => .ok (.cons ho hos)

theorem outlinedOn_renamed :
    AgreeUpTo E E' (Outline.RenamedApart d N) (t.outlinedOn n) (t'.outlinedOn n') := by
  have hjoins := h.joins
  unfold outlinedOn
  generalize t.joins = joins, t'.joins = joins' at hjoins
  cases hjoins with
  | other hv =>
    split
    · exact .ok .nil
    · cases joins with
      | record entries => exact absurd rfl (hv entries)
      | _ => exact .error _
  | record hentries =>
    cases hentries with
    | nil => exact .ok .nil
    | cons he hrest =>
      refine (outlinedEqualities_renamed hn h hE (.cons he hrest)).bind fun os os' hos => ?_
      have hclosed := (Renamed.intercalate (s := " AND ") (Clean.unquoted d (by decide)) (by decide)
        hos).append_plain (s := ")") (Clean.unquoted d (by decide)) (by decide)
      exact .ok (.plain_append (Clean.unquoted d (by decide)) (by decide) hclosed)

theorem outlined_renamed (first : Bool) :
    AgreeUpTo E E' (Outline.Renamed d N) (t.outlined n first) (t'.outlined n' first) := by
  refine (outlinedReference_renamed h).bind fun o o' ho => ?_
  cases first with
  | true => exact .ok ho
  | false =>
    have hkeyword : t.keyword = t'.keyword := by rw [keyword, keyword, h.join]
    rw [← hkeyword]
    refine .bind_given _ fun keyword hshown => ?_
    refine (outlinedOn_renamed hn h hE).bind fun on on' hon => .ok ?_
    have hkeyword := unquoted_keyword h keyword hshown
    exact .plain_append (hkeyword.append (Clean.unquoted d (by decide))) (ho.append hon)

end Table

/-! ### Right sides -/

namespace Value.RightRenamed

variable {v w : Value}

theorem isQuery_eq (h : RightRenamed R N v w) : v.isQuery = w.isQuery := by
  cases h with
  | operand hv h => cases h <;> rfl
  | list | tuple | set => rfl

/-- Both are collections of operands that correspond, or neither is a collection. -/
theorem members (h : RightRenamed R N v w) :
    (∃ vs ws, v.members? = some vs ∧ w.members? = some ws ∧
        List.Forall₂ (OperandRenamed R N) vs ws) ∨
      v.members? = none ∧ w.members? = none ∧ v.typeName = w.typeName := by
  cases h with
  | list h | tuple h | set h => exact .inl ⟨_, _, rfl, rfl, h⟩
  | operand hv h =>
    cases h with
    | column | query => exact .inr ⟨rfl, rfl, rfl⟩
    | same => exact .inr ⟨hv, hv, rfl⟩

/-- Both are pairs of operands that correspond, or neither is a pair. -/
theorem pair (h : RightRenamed R N v w) :
    (∃ low low' high high', v.pair? = some (low, high) ∧ w.pair? = some (low', high') ∧
        OperandRenamed R N low low' ∧ OperandRenamed R N high high') ∨
      v.pair? = none ∧ w.pair? = none := by
  have hnone : ∀ u : Value, u.members? = none → u.pair? = none := by
    intro u hu
    cases hpair : u.pair? with
    | none => rfl
    | some ends => cases hu.symm.trans (members?_of_pair? hpair)
  cases h with
  | list h | tuple h =>
    rcases h with _ | ⟨hlow, _ | ⟨hhigh, _ | _⟩⟩
    · exact .inr ⟨rfl, rfl⟩
    · exact .inr ⟨rfl, rfl⟩
    · exact .inl ⟨_, _, _, _, rfl, rfl, hlow, hhigh⟩
    · exact .inr ⟨rfl, rfl⟩
  | set => exact .inr ⟨rfl, rfl⟩
  | operand hv h =>
    cases h with
    | column | query => exact .inr ⟨rfl, rfl⟩
    | same => exact .inr ⟨hnone _ hv, hnone _ hv⟩

include hn in
/-- A right side where a single operand is expected: there a collection is bound. -/
theorem operand_agree (h : RightRenamed R N v w) :
    AgreeUpTo E E' (Outline.Renamed d N) (Outline.operand n v) (Outline.operand n' w) := by
  cases h with
  | operand hv h => exact operand_renamed hn h
  | list | tuple | set => exact .ok (.bound_value _ _)

end Value.RightRenamed

/-! ### Conditions -/

namespace Condition

/-- What stands before a node: the same text without quotes, and some text unless it is bare. -/
def JoinedBy (d : Dialect) (bare : Bool) (o o' : Outline) : Prop :=
  ∃ s, d.Unquoted s ∧ (bare = false → s ≠ "") ∧ o = plain s ∧ o' = plain s

theorem outlinedJoiner_renamed (bare : Bool) {combinator : Value} (hc : combinator.IsUnquoted d) :
    AgreeUpTo E E' (JoinedBy d bare) (outlinedJoiner bare combinator)
      (outlinedJoiner bare combinator) := by
  cases bare with
  | true => exact .ok ⟨"", Clean.unquoted d (by decide), nofun, rfl, rfl⟩
  | false =>
    refine .bind_given _ fun shown hshown => .ok ⟨_, ?_, fun _ => by simp, rfl, rfl⟩
    exact ((Clean.unquoted d (by decide)).append (hc shown hshown)).append
      (Clean.unquoted d (by decide))

/-- What stands before a node keeps it apart from the nodes before, unless it is bare. -/
theorem JoinedBy.append {bare : Bool} {o o' p p' : Outline} (h : JoinedBy d bare o o')
    (hp : Outline.Renamed d N p p') :
    Outline.Renamed d N (o ++ p) (o' ++ p') ∧ (bare = false → Outline.Apart (o ++ p)) := by
  obtain ⟨s, hs, hne, rfl, rfl⟩ := h
  exact ⟨.plain_append hs hp, fun hbare => Outline.apart_plain_append (hne hbare) p⟩

include hn

theorem outlinedAll_renamed {vs ws : List Value}
    (h : List.Forall₂ (Value.OperandRenamed R N) vs ws) :
    AgreeUpTo E E' (List.Forall₂ (Outline.Renamed d N)) (outlinedAll n vs) (outlinedAll n' ws) := by
  induction h with
  | nil => exact .ok .nil
  | cons hv _ ih =>
    exact (operand_renamed hn hv).bind fun o o' ho => ih.bind fun os os' hos => .ok (.cons ho hos)

variable {left left' right right' : Value} (hl : Value.OperandRenamed R N left left')
  (hr : Value.RightRenamed R N right right')
include hl

theorem outlinedMembership_renamed {keyword : String} (hk : Clean keyword) (negated : Bool)
    (hr : Value.RightRenamed R N right right') :
    AgreeUpTo E E' (Outline.Renamed d N) (outlinedMembership n left right keyword negated)
      (outlinedMembership n' left' right' keyword negated) := by
  unfold outlinedMembership
  rcases hr.members with ⟨vs, ws, hv, hw, hitems⟩ | ⟨hv, hw, htype⟩
  · rw [hv, hw]
    cases hitems with
    | nil =>
      refine .ok (.plain (Clean.unquoted d ?_))
      cases negated <;> decide
    | cons hfirst hrest =>
      refine (operand_renamed hn hl).bind fun l l' hl => ?_
      refine (outlinedAll_renamed hn (.cons hfirst hrest)).bind fun os os' hos => .ok ?_
      have hkeyword : Clean (" " ++ keyword ++ " (") :=
        (Clean.append (by decide) hk).append (by decide)
      have hclosed := (Renamed.intercalate (s := ", ") (Clean.unquoted d (by decide)) (by decide)
        hos).append_plain (s := ")") (Clean.unquoted d (by decide)) (by decide)
      exact hl.append_clean_append hkeyword (by simp) hclosed
  · rw [hv, hw, htype]
    exact .error _

theorem outlinedRange_renamed (hr : Value.RightRenamed R N right right') :
    AgreeUpTo E E' (Outline.Renamed d N) (outlinedRange n left right)
      (outlinedRange n' left' right') := by
  refine (operand_renamed hn hl).bind fun l l' hl => ?_
  rcases hr.pair with ⟨low, low', high, high', hv, hw, hlow, hhigh⟩ | ⟨hv, hw⟩
  · rw [hv, hw]
    refine (operand_renamed hn hlow).bind fun lo lo' hlo => ?_
    refine (operand_renamed hn hhigh).bind fun hi hi' hhi => .ok ?_
    exact hl.append_clean_append (by decide) (by decide)
      (hlo.append_clean_append (by decide) (by decide) hhi)
  · rw [hv, hw]
    exact .error _

theorem outlinedPattern_renamed {keyword : String} (hk : Clean keyword) (leading trailing : Bool) :
    AgreeUpTo E E' (Outline.Renamed d N) (outlinedPattern n left right keyword leading trailing)
      (outlinedPattern n' left' right' keyword leading trailing) := by
  refine (operand_renamed hn hl).bind fun l l' hl => .ok ?_
  have hkeyword : Clean (" " ++ keyword ++ " ") :=
    (Clean.append (by decide) hk).append (by decide)
  exact hl.append_clean_append hkeyword (by simp) (pattern_renamed right right' leading trailing)

include hr

theorem outlinedPlain_renamed {operator : Value} (ho : operator.IsUnquoted d) :
    AgreeUpTo E E' (Outline.Renamed d N) (outlinedPlain n left right operator)
      (outlinedPlain n' left' right' operator) := by
  refine (operand_renamed hn hl).bind fun l l' hl => .bind_given _ fun shown hshown => ?_
  refine (hr.operand_agree hn).bind fun r r' hr => .ok ?_
  have hoperator : d.Unquoted (" " ++ shown ++ " ") :=
    ((Clean.unquoted d (by decide)).append (ho shown hshown)).append (Clean.unquoted d (by decide))
  exact hl.append_plain_append hoperator (by simp) hr

theorem outlinedComparison_renamed {operator : Value} (ho : operator.IsUnquoted d) :
    AgreeUpTo E E' (Outline.Renamed d N) (outlinedComparison n left right operator)
      (outlinedComparison n' left' right' operator) := by
  have hplain := outlinedPlain_renamed hn hl hr ho
  refine .bind_same _ fun keyword => ?_
  cases hkind : OperatorKind.ofName keyword with
  | nullTest =>
    have hkeyword : Clean (" " ++ keyword) :=
      Clean.append (by decide) (OperatorKind.clean_of_nullTest hkind)
    exact (operand_renamed hn hl).bind fun l l' hl =>
      .ok (hl.append_plain (hkeyword.unquoted d) (by simp))
  | pattern name leading trailing =>
    simp only [hr.isQuery_eq]
    split
    · exact hplain
    · exact outlinedPattern_renamed hn hl (OperatorKind.clean_of_pattern hkind) leading trailing
  | membership negated =>
    simp only [hr.isQuery_eq]
    split
    · exact hplain
    · exact outlinedMembership_renamed hn hl (OperatorKind.clean_of_membership hkind) negated hr
  | range =>
    simp only [hr.isQuery_eq]
    split
    · exact hplain
    · exact outlinedRange_renamed hn hl hr
  | plain => exact hplain

omit hl hr

/-- The text of a condition list does not begin with a name, unless nothing stands before it. -/
theorem outlinedList_renamed {nodes nodes' : List Condition}
    (h : List.Forall₂ (Condition.Renamed d R N) nodes nodes') (bare : Bool) :
    AgreeUpTo E E' (fun o o' => Outline.Renamed d N o o' ∧ (bare = false → Outline.Apart o))
      (outlinedList n bare nodes) (outlinedList n' bare nodes') := by
  induction h generalizing bare with
  | nil => exact .ok ⟨.nil, fun _ => Outline.apart_nil⟩
  | cons hnode _ ih =>
    cases hnode with
    | groupStart hc =>
      refine (outlinedJoiner_renamed bare hc).bind fun link link' hlink => ?_
      exact (ih true).bind fun o o' ho =>
        .ok (hlink.append (.plain_append (Clean.unquoted d (by decide)) ho.1))
    | groupEnd combinator =>
      refine (ih false).bind fun o o' ho => .ok ⟨?_, fun _ => ?_⟩
      · exact .plain_append (Clean.unquoted d (by decide)) ho.1
      · exact Outline.apart_plain_append (by decide) o
    | comparison hl hr hoperator hc =>
      refine (outlinedJoiner_renamed bare hc).bind fun link link' hlink => ?_
      refine (outlinedComparison_renamed hn hl hr hoperator).bind fun first first' hfirst => ?_
      exact (ih false).bind fun o o' ho => .ok (hlink.append (hfirst.append ⟨ho.1, ho.2 rfl⟩))
    | unknown v => exact .bind_same _ fun shown => .error _

theorem outlinedNodes_renamed {nodes nodes' : Value}
    (h : Agree (List.Forall₂ fun v w => Condition.Renamed d R N (.ofValue v) (.ofValue w))
      nodes.items nodes'.items) :
    AgreeUpTo E E' (Outline.Renamed d N) (outlinedNodes n nodes) (outlinedNodes n' nodes') := by
  refine h.of_agree.bind fun items items' hitems => ?_
  have hnodes : List.Forall₂ (Condition.Renamed d R N) (items.map ofValue)
      (items'.map ofValue) :=
    List.forall₂_map_left_iff.mpr (List.forall₂_map_right_iff.mpr hitems)
  exact (outlinedList_renamed hn hnodes true).imp fun _ _ ho => ho.1

end Condition

/-! ### Queries -/

theorem SortKey.outlined_renamed {k k' : SortKey} (h : SortKey.Renamed d N k k') :
    AgreeUpTo E E' (Outline.Renamed d N) k.outlined k'.outlined := by
  have hcolumn : AgreeUpTo E E' (Outline.Renamed d N) (Outline.column k.table k.column)
      (Outline.column k'.table k'.column) := column_renamed h.table h.column
  refine hcolumn.bind fun o o' ho => ?_
  rw [← h.direction]
  split
  · refine .bind_given _ fun shown hshown => .ok (ho.append_plain ?_ (by simp))
    exact (Clean.unquoted d (by decide)).append (h.shown shown hshown)
  · exact .ok ho

namespace Select

variable {q q' : Select} (h : Select.Renamed d R N q q')

section

include h

theorem outlinedPage_renamed :
    AgreeUpTo E E' (Outline.RenamedApart d N) q.outlinedPage q'.outlinedPage := by
  rw [outlinedPage, outlinedPage, ← h.page, ← h.limit]
  split
  · refine .bind_given _ fun offset hoffset => .bind_given _ fun size hsize => .ok ?_
    have hpage : Outline.Renamed d N (bound (.page offset size)) (bound (.page offset size)) :=
      .page ((clean_integerText _ offset hoffset).unquoted d)
        ((clean_integerText _ size hsize).unquoted d) .nil
    exact .plain_append (Clean.unquoted d (by decide)) (by decide) hpage
  · exact .ok .nil

theorem outlinedOrder_renamed :
    AgreeUpTo E E' (Outline.RenamedApart d N) q.outlinedOrder q'.outlinedOrder := by
  have horder := h.order
  rw [outlinedOrder, outlinedOrder]
  generalize q.order = keys, q'.order = keys' at horder
  cases horder with
  | nil => exact .ok .nil
  | cons hkey hrest =>
    have hkeys : AgreeUpTo E E' (List.Forall₂ (Outline.Renamed d N))
        (List.mapM SortKey.outlined (_ :: _)) (List.mapM SortKey.outlined (_ :: _)) :=
      .mapM (.cons hkey hrest) fun _ _ hk => SortKey.outlined_renamed hk
    refine hkeys.bind fun os os' hos => .ok ?_
    exact .plain_append (Clean.unquoted d (by decide)) (by decide)
      (.intercalate (Clean.unquoted d (by decide)) (by decide) hos)

end

include hn

theorem outlinedFields_renamed {fields fields' : List Field}
    (h : List.Forall₂ (Field.Renamed d R N) fields fields') :
    AgreeUpTo E E' (List.Forall₂ (Outline.Renamed d N)) (outlinedFields n fields)
      (outlinedFields n' fields') := by
  induction h with
  | nil => exact .ok .nil
  | cons hf _ ih =>
    exact (Field.outlined_renamed hn hf).bind fun o o' ho =>
      ih.bind fun os os' hos => .ok (.cons ho hos)

theorem outlinedConditions_renamed (h : Select.Renamed d R N q q') :
    AgreeUpTo E E' (Outline.RenamedApart d N) (outlinedConditions n q.conditions)
      (outlinedConditions n' q'.conditions) := by
  rw [outlinedConditions, outlinedConditions, ← h.truthy]
  split
  · exact .ok .nil
  · exact (Condition.outlinedNodes_renamed hn h.conditions).bind fun o o' ho =>
      .ok (.plain_append (Clean.unquoted d (by decide)) (by decide) ho)

variable (hE : ∀ shown, E (.refused (.joinTargetIsQuery shown)))
include hE

theorem outlinedTables_renamed {tables tables' : List Table}
    (h : List.Forall₂ (Table.Renamed d R N) tables tables') (first : Bool) :
    AgreeUpTo E E' (List.Forall₂ (Outline.Renamed d N)) (outlinedTables n first tables)
      (outlinedTables n' first tables') := by
  induction h generalizing first with
  | nil => exact .ok .nil
  | cons ht _ ih =>
    exact (Table.outlined_renamed hn ht hE first).bind fun o o' ho =>
      (ih false).bind fun os os' hos => .ok (.cons ho hos)

/-- **Renamed queries have renamed outlines**, if the queries that they embed have. -/
theorem outlined_renamed (h : Select.Renamed d R N q q') :
    AgreeUpTo E E' (Outline.Renamed d N) (q.outlined n) (q'.outlined n') := by
  refine (outlinedFields_renamed hn h.fields).bind fun fields fields' hfields => ?_
  refine (outlinedTables_renamed hn hE h.tables true).bind fun tables tables' htables => ?_
  refine (outlinedConditions_renamed hn h).bind fun conditions conditions' hconditions => ?_
  refine (outlinedOrder_renamed h).bind fun order order' horder => ?_
  refine (outlinedPage_renamed h).bind fun page page' hpage => .ok ?_
  have hfrom := (Renamed.intercalate (s := " ") (Clean.unquoted d (by decide)) (by decide)
    htables).append (hconditions.append (horder.append hpage))
  have hselected := Renamed.intercalate (s := ", ") (Clean.unquoted d (by decide)) (by decide)
    hfields
  exact .plain_append (Clean.unquoted d (by decide))
    (hselected.append_clean_append (by decide) (by decide) hfrom)

end Select

end Parts

end FluentSql
