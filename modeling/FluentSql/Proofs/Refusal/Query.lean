import FluentSql.Proofs.Refusal.Malformed
import FluentSql.Proofs.Results

/-!
# Queries are refused if malformed

A typed query has no text if one of its own parts is malformed, if its page clause holds an integer
that is too long, or if a query that it renders has no text. It is refused in the first case, and in
no other: `Select.marked_failsOnly` says so of one query, given the same of those that it renders.
There is one lemma for each part.
-/

namespace FluentSql

/-! ### Names and operands -/

theorem Value.Displays.exists_name {v : Value} (h : v.Displays) : ∃ name, v.name? = .ok name := by
  obtain ⟨text, ht⟩ := h
  rw [Value.name?, ht]
  split <;> exact ⟨_, rfl⟩

theorem Value.not_refers {v : Value} (hv : v.isQuery = false) (h : Handle) : ¬ v.Refers h := by
  rintro ⟨labels, rfl⟩
  cases hv

theorem Dialect.exists_columnName (d : Dialect) {table name : Value} (ht : table.Displays)
    (hn : name.Displays) : ∃ text, d.columnName table name = .ok text := by
  obtain ⟨t, ht⟩ := ht.exists_name
  obtain ⟨n, hn⟩ := hn.exists_name
  rw [Dialect.columnName, ht, hn]
  exact ⟨_, rfl⟩

theorem Dialect.exists_qualifiedName (d : Dialect) {parts : List Value}
    (h : ∀ v ∈ parts, v.Displays) : ∃ text, d.qualifiedName parts = .ok text := by
  obtain ⟨names, hnames⟩ := exists_mapM_ok fun v hv => (h v hv).exists_name
  rw [qualifiedName, hnames]
  exact ⟨_, rfl⟩

theorem Table.exists_reference {t : Table} (h : t.IsTyped) (d : Dialect) :
    ∃ text, t.reference d = .ok text := by
  have hparts : ∀ v ∈ [t.schema, t.table], v.Displays := by simp [h.schema, h.table]
  obtain ⟨sql, hsql⟩ := d.exists_qualifiedName hparts
  obtain ⟨aliasName, ha⟩ := h.aliasName.exists_name
  rw [reference, hsql]
  exact ⟨_, congrArg (Except.map _) ha⟩

theorem Table.displays_label {t : Table} (h : t.IsTyped) : t.label.Displays := by
  rw [Table.label, Value.orElse]
  split
  · exact h.aliasName
  · exact h.table

namespace MarkedScope

variable (s : MarkedScope) {malformed overlong : Handle → Prop}

theorem exists_column {table name : Value} (ht : table.Displays) (hn : name.Displays) :
    ∃ text, s.column table name = .ok text := by
  obtain ⟨text, h⟩ := s.dialect.exists_columnName ht hn
  rw [column, h]
  exact ⟨_, rfl⟩

theorem exists_underAlias (text : Marked Value) {aliasName : Value} (ha : aliasName.Displays) :
    ∃ aliased, s.underAlias text aliasName = .ok aliased := by
  obtain ⟨name, h⟩ := ha.exists_name
  rw [underAlias, h]
  exact ⟨_, rfl⟩

/-- An operand fails only as a query that it stands for. -/
theorem operand_failsOnly {v : Value} (hv : v.IsOperand)
    (hs : ∀ h, v.Refers h → FailsOnly (s.nested h) (malformed h) (overlong h)) :
    FailsOnly (s.operand v) (∃ h, v.Refers h ∧ malformed h) (∃ h, v.Refers h ∧ overlong h) := by
  cases v with
  | column table name =>
    exact (FailsOnly.of_ok (s.exists_column hv.1 hv.2)).congr (by simp [Value.Refers])
      (by simp [Value.Refers])
  | query handle labels =>
    exact ((hs handle ⟨labels, rfl⟩).map _).congr (by simp [Value.Refers]) (by simp [Value.Refers])
  | _ => exact (FailsOnly.ok _).congr (by simp [Value.Refers]) (by simp [Value.Refers])

end MarkedScope

section Parts

variable (s : MarkedScope) {malformed overlong : Handle → Prop}

/-! ### Fields -/

namespace Field

theorem exists_markedColumn {v : Value} (h : v.IsColumn) : ∃ text, markedColumn s v = .ok text := by
  obtain ⟨table, name, rfl, ht, hn⟩ := h
  exact s.exists_column ht hn

theorem exists_markedTail (separator : Value) {columns : List Value}
    (h : ∀ v ∈ columns, v.IsColumn) : ∃ parts, markedTail s separator columns = .ok parts := by
  induction columns with
  | nil => exact ⟨[], rfl⟩
  | cons c rest ih =>
    obtain ⟨part, hpart⟩ := exists_markedColumn s (h c List.mem_cons_self)
    obtain ⟨parts, hparts⟩ := ih fun v hv => h v (List.mem_cons_of_mem c hv)
    rw [markedTail, hpart, hparts]
    exact ⟨_, rfl⟩

theorem exists_markedParts (separator : Value) {columns : List Value}
    (h : ∀ v ∈ columns, v.IsColumn) : ∃ parts, markedParts s separator columns = .ok parts := by
  cases columns with
  | nil => exact ⟨[], rfl⟩
  | cons c rest =>
    obtain ⟨part, hpart⟩ := exists_markedColumn s (h c List.mem_cons_self)
    obtain ⟨parts, hparts⟩ :=
      exists_markedTail s separator fun v hv => h v (List.mem_cons_of_mem c hv)
    rw [markedParts, hpart, hparts]
    exact ⟨_, rfl⟩

theorem markedSource_failsOnly {name source : Value} (distinct : Value) (hn : name.Displays)
    (hsource : source = .null ∨ source.isQuery = true ∨ source.IsColumn)
    (hs : ∀ h, source.Refers h → FailsOnly (s.nested h) (malformed h) (overlong h)) :
    FailsOnly (markedSource s name distinct source)
      (source = .null ∧ distinct.truthy = true ∨ ∃ h, source.Refers h ∧ malformed h)
      (∃ h, source.Refers h ∧ overlong h) := by
  rcases hsource with rfl | hquery | ⟨table, c, rfl, ht, hc⟩
  · rw [markedSource]
    split
    · rename_i hd
      obtain ⟨shown, hshown⟩ := hn
      rw [hshown]
      exact (FailsOnly.refused _).congr (by simp [hd]) Iff.rfl
    · rename_i hd
      exact (FailsOnly.ok _).congr (by simp [hd, Value.Refers]) (by simp [Value.Refers])
  · cases source with
    | query handle label =>
      have hoperand : (Value.query handle label).IsOperand := trivial
      exact (s.operand_failsOnly hoperand hs).congr (by simp) Iff.rfl
    | _ => cases hquery
  · exact (FailsOnly.of_ok (s.exists_column ht hc)).congr (by simp [Value.Refers])
      (by simp [Value.Refers])

theorem markedArgument_failsOnly {argument : Option Value} (hargument : ∀ v ∈ argument, v.IsOperand)
    (hs : ∀ h, (∃ v ∈ argument, v.Refers h) →
      FailsOnly (s.nested h) (malformed h) (overlong h)) :
    FailsOnly (markedArgument s argument) (∃ h, (∃ v ∈ argument, v.Refers h) ∧ malformed h)
      (∃ h, (∃ v ∈ argument, v.Refers h) ∧ overlong h) := by
  cases argument with
  | none => exact (FailsOnly.ok _).congr (by simp) (by simp)
  | some v =>
    have hoperand := s.operand_failsOnly (hargument v rfl) fun h hv => hs h ⟨v, rfl, hv⟩
    exact (hoperand.bind_ok fun a => ⟨_, rfl⟩).congr (by simp) (by simp)

theorem marked_failsOnly {f : Field} (hf : f.IsTyped)
    (hs : ∀ h, f.Embeds h → FailsOnly (s.nested h) (malformed h) (overlong h)) :
    FailsOnly (f.marked s) (f.IsMalformed ∨ ∃ h, f.Embeds h ∧ malformed h)
      (∃ h, f.Embeds h ∧ overlong h) := by
  cases f with
  | column table name aliasName =>
    obtain ⟨ht, hn, ha⟩ := hf
    have hok : FailsOnly (marked s (.column table name aliasName)) False False :=
      .ok_bind (s.exists_column ht hn) fun text _ => .of_ok (s.exists_underAlias text ha)
    exact hok.congr (by simp [IsMalformed, Embeds]) (by simp [Embeds])
  | wildcard table =>
    exact (FailsOnly.of_ok (s.exists_column hf ⟨"*", rfl⟩)).congr (by simp [IsMalformed, Embeds])
      (by simp [Embeds])
  | function name source distinct aliasName argument =>
    obtain ⟨hn, hsource, ha, hargument⟩ := hf
    have hfirst := markedSource_failsOnly s distinct hn hsource
      fun h hv => hs h (.inl hv)
    have hsecond := markedArgument_failsOnly s hargument fun h hv => hs h (.inr hv)
    refine (hfirst.bind fun inner _ => hsecond.bind_ok fun second => ?_).congr ?_ ?_
    · obtain ⟨called, hcalled⟩ := hn
      rw [hcalled]
      exact s.exists_underAlias _ ha
    · simp [IsMalformed, Embeds, or_and_right, exists_or, or_assoc]
    · simp [Embeds, or_and_right, exists_or]
  | concat columns aliasName separator =>
    obtain ⟨⟨items, hitems, hcolumns⟩, ha⟩ := hf
    obtain ⟨parts, hparts⟩ := exists_markedParts s separator hcolumns
    have hok : ∃ text, marked s (.concat columns aliasName separator) = .ok text := by
      obtain ⟨text, htext⟩ := s.exists_underAlias (s.concat parts) ha
      refine ⟨text, ?_⟩
      rw [marked, hitems, ← htext]
      exact congrArg (· >>= fun parts => s.underAlias (s.concat parts) aliasName) hparts
    exact (FailsOnly.of_ok hok).congr (by simp [IsMalformed, Embeds]) (by simp [Embeds])
  | subquery query aliasName =>
    obtain ⟨hquery, ha⟩ := hf
    cases query with
    | query handle label =>
      have hoperand : (Value.query handle label).IsOperand := trivial
      have htext := s.operand_failsOnly hoperand hs
      exact (htext.bind_ok fun text => s.exists_underAlias text ha).congr
        (by simp [IsMalformed, Embeds]) (by simp [Embeds])
    | _ => cases hquery

end Field

/-! ### Tables -/

namespace Table

/-- No query is rendered in a join: a target that is one is malformed. -/
theorem markedEquality_failsOnly {t : Table} {column target : Value} (ht : t.label.Displays)
    (hc : column.Displays) (htarget : target.IsOperand) :
    FailsOnly (t.markedEquality s column target) (target.isQuery = true) False := by
  refine .ok_bind (s.exists_column ht hc) fun left _ => ?_
  have hplain : target.isQuery = false → FailsOnly (s.operand target) False False := by
    intro hquery
    have hoperand : FailsOnly (s.operand target) (∃ h, target.Refers h ∧ False)
        (∃ h, target.Refers h ∧ False) :=
      s.operand_failsOnly htarget fun h hv => absurd hv (target.not_refers hquery h)
    exact hoperand.congr (by simp) (by simp)
  cases target with
  | query handle labels =>
    obtain ⟨shown, hshown⟩ := hc
    rw [hshown]
    exact (FailsOnly.refused _).congr (by simp [Value.isQuery]) Iff.rfl
  | _ => exact ((hplain rfl).bind_ok fun right => ⟨_, rfl⟩).congr (by simp [Value.isQuery]) Iff.rfl

theorem markedEqualities_failsOnly {t : Table} {entries : List (Value × Value)}
    (ht : t.label.Displays) (he : ∀ e ∈ entries, e.1.Displays ∧ e.2.IsOperand) :
    FailsOnly (t.markedEqualities s entries) (∃ e ∈ entries, e.2.isQuery = true) False := by
  induction entries with
  | nil => exact (FailsOnly.ok _).congr (by simp) Iff.rfl
  | cons e rest ih =>
    obtain ⟨hcolumn, htarget⟩ := he e List.mem_cons_self
    refine ((markedEquality_failsOnly s ht hcolumn htarget).bind fun equality _ =>
      (ih fun e he' => he e (List.mem_cons_of_mem _ he')).bind_ok fun equalities => ⟨_, rfl⟩).congr
      (by simp) (by simp)

/-- The first table is not joined, so nothing of its join can be malformed. -/
theorem marked_failsOnly {t : Table} (ht : t.IsTyped) (first : Bool) :
    FailsOnly (t.marked s first) (first = false ∧ t.IsMalformed) False := by
  refine .ok_bind (t.exists_reference ht s.dialect) fun sql _ => ?_
  cases first with
  | true => exact (FailsOnly.ok _).congr (by simp) Iff.rfl
  | false =>
    obtain ⟨j, hj⟩ := ht.join
    obtain ⟨entries, hentries, htyped⟩ := ht.joins
    have hkeyword : ∃ keyword, t.keyword = .ok keyword := by
      rw [keyword, hj]
      exact ⟨_, rfl⟩
    have hon : FailsOnly (t.markedOn s) (∃ e ∈ entries, e.2.isQuery = true) False := by
      rw [markedOn, hentries]
      split
      · rename_i hempty
        have hnil : entries = [] := by simpa [Value.truthy] using hempty
        exact (FailsOnly.ok _).congr (by simp [hnil]) Iff.rfl
      · exact (markedEqualities_failsOnly s (displays_label ht) htyped).bind_ok
          fun equalities => ⟨_, rfl⟩
    have hmarked := FailsOnly.ok_bind hkeyword fun keyword _ =>
      hon.bind_ok (k := fun condition => .ok (.plain (keyword ++ " " ++ sql) ++ condition))
        fun condition => ⟨_, rfl⟩
    exact hmarked.congr (by simp [IsMalformed, hentries]) Iff.rfl

end Table

/-! ### Conditions -/

theorem isNullTest_iff {operator : String} :
    IsNullTest operator ↔ OperatorKind.ofName (normalizeOperator operator) = .nullTest := by
  unfold IsNullTest OperatorKind.ofName
  split <;> simp_all

theorem isMembership_iff {operator : String} : IsMembership operator ↔
    ∃ negated, OperatorKind.ofName (normalizeOperator operator) = .membership negated := by
  unfold IsMembership OperatorKind.ofName
  split <;> simp_all

theorem isRange_iff {operator : String} :
    IsRange operator ↔ OperatorKind.ofName (normalizeOperator operator) = .range := by
  unfold IsRange OperatorKind.ofName
  split <;> simp_all

theorem Value.members?_of_isQuery {v : Value} (hv : v.isQuery = true) : v.members? = none := by
  cases v with
  | query handle labels => rfl
  | _ => cases hv

theorem Value.pair?_of_isQuery {v : Value} (hv : v.isQuery = true) : v.pair? = none := by
  cases v with
  | query handle labels => rfl
  | _ => cases hv

namespace Condition

variable {left right : Value} {operator : String}

theorem renders_comparison_iff {combinator : Value} {h : Handle} :
    (comparison left right (.text operator) combinator).Renders h ↔
      ¬ (IsMembership operator ∧ right.members? = some []) ∧ left.Refers h ∨
      ¬ IsNullTest operator ∧ right.Refers h ∨
      IsMembership operator ∧ (∃ items, right.members? = some items ∧ ∃ v ∈ items, v.Refers h) ∨
      IsRange operator ∧ ∃ ends, right.pair? = some ends ∧
        (ends.1.Refers h ∨ ends.2.Refers h) := by
  constructor
  · rintro (⟨hnonempty, hv⟩ | ⟨hnull, hv⟩ | ⟨hin, hitems, hmem, hv⟩ | ⟨hrange, hpair, hv⟩)
    · exact .inl ⟨hnonempty, hv⟩
    · exact .inr (.inl ⟨hnull, hv⟩)
    · exact .inr (.inr (.inl ⟨hin, _, hitems, _, hmem, hv⟩))
    · exact .inr (.inr (.inr ⟨hrange, _, hpair, hv⟩))
  · rintro (⟨hnonempty, hv⟩ | ⟨hnull, hv⟩ | ⟨hin, items, hitems, v, hmem, hv⟩ |
      ⟨hrange, ends, hpair, hv⟩)
    · exact .left hnonempty hv
    · exact .right hnull hv
    · exact .member hin hitems hmem hv
    · exact .endpoint hrange hpair hv

theorem markedAll_failsOnly {vs : List Value} (hvs : ∀ v ∈ vs, v.IsOperand)
    (hs : ∀ h, (∃ v ∈ vs, v.Refers h) → FailsOnly (s.nested h) (malformed h) (overlong h)) :
    FailsOnly (markedAll s vs) (∃ h, (∃ v ∈ vs, v.Refers h) ∧ malformed h)
      (∃ h, (∃ v ∈ vs, v.Refers h) ∧ overlong h) := by
  induction vs with
  | nil => exact (FailsOnly.ok _).congr (by simp) (by simp)
  | cons v vs ih =>
    have hfirst := s.operand_failsOnly (hvs v List.mem_cons_self) fun h hv =>
      hs h ⟨v, List.mem_cons_self, hv⟩
    have hrest := ih (fun w hw => hvs w (List.mem_cons_of_mem v hw)) fun h ⟨w, hw, hh⟩ =>
      hs h ⟨w, List.mem_cons_of_mem v hw, hh⟩
    refine (hfirst.bind fun text _ => hrest.bind_ok fun texts => ⟨_, rfl⟩).congr ?_ ?_
    all_goals simp [or_and_right, exists_or]

theorem markedPlain_failsOnly (hleft : left.IsOperand) (hright : right.IsOperand)
    (hs : ∀ h, left.Refers h ∨ right.Refers h →
      FailsOnly (s.nested h) (malformed h) (overlong h)) :
    FailsOnly (markedPlain s left right (.text operator))
      (∃ h, (left.Refers h ∨ right.Refers h) ∧ malformed h)
      (∃ h, (left.Refers h ∨ right.Refers h) ∧ overlong h) := by
  have hl := s.operand_failsOnly hleft fun h hv => hs h (.inl hv)
  have hr := s.operand_failsOnly hright fun h hv => hs h (.inr hv)
  refine (hl.bind fun l _ => hr.bind_ok fun r => ⟨_, rfl⟩).congr ?_ ?_
  all_goals simp [or_and_right, exists_or]

/-- A test in an empty collection renders nothing, and neither does one in no collection. -/
theorem markedMembership_failsOnly (keyword : String) (negated : Bool) (hleft : left.IsOperand)
    (hitems : ∀ items, right.members? = some items → ∀ v ∈ items, v.IsOperand)
    (hs : ∀ h, right.members? ≠ some [] ∧ left.Refers h ∨
      (∃ items, right.members? = some items ∧ ∃ v ∈ items, v.Refers h) →
      FailsOnly (s.nested h) (malformed h) (overlong h)) :
    FailsOnly (markedMembership s left right keyword negated)
      (right.members? = none ∨ ∃ h, (right.members? ≠ some [] ∧ left.Refers h ∨
        ∃ items, right.members? = some items ∧ ∃ v ∈ items, v.Refers h) ∧ malformed h)
      (∃ h, (right.members? ≠ some [] ∧ left.Refers h ∨
        ∃ items, right.members? = some items ∧ ∃ v ∈ items, v.Refers h) ∧ overlong h) := by
  rw [markedMembership]
  rcases hm : right.members? with _ | _ | ⟨v, vs⟩
  · exact (FailsOnly.refused _).congr (by simp) Iff.rfl
  · exact (FailsOnly.ok _).congr (by simp) (by simp)
  · rw [hm] at hs
    have hl := s.operand_failsOnly hleft fun h hv => hs h (.inl ⟨by simp, hv⟩)
    have hall := markedAll_failsOnly s (hitems _ hm) fun h hv => hs h (.inr ⟨_, rfl, hv⟩)
    refine (hl.bind fun l _ => hall.bind_ok fun texts => ⟨_, rfl⟩).congr ?_ ?_
    all_goals simp [or_and_right, exists_or]

theorem markedRange_failsOnly (hleft : left.IsOperand)
    (hends : ∀ ends, right.pair? = some ends → ends.1.IsOperand ∧ ends.2.IsOperand)
    (hs : ∀ h, left.Refers h ∨ (∃ ends, right.pair? = some ends ∧
      (ends.1.Refers h ∨ ends.2.Refers h)) → FailsOnly (s.nested h) (malformed h) (overlong h)) :
    FailsOnly (markedRange s left right)
      (right.pair? = none ∨ ∃ h, (left.Refers h ∨ ∃ ends, right.pair? = some ends ∧
        (ends.1.Refers h ∨ ends.2.Refers h)) ∧ malformed h)
      (∃ h, (left.Refers h ∨ ∃ ends, right.pair? = some ends ∧
        (ends.1.Refers h ∨ ends.2.Refers h)) ∧ overlong h) := by
  have hl := s.operand_failsOnly hleft fun h hv => hs h (.inl hv)
  rw [markedRange]
  rcases hp : right.pair? with _ | ends
  · have hrefused : FailsOnly (.error (.refused .rangeNeedsPair) : Except Fault (Marked Value))
        True False := .refused _
    exact (hl.bind fun l _ => hrefused).congr (by simp) (by simp)
  · rw [hp] at hs
    have hlow := s.operand_failsOnly (hends ends hp).1 fun h hv => hs h (.inr ⟨_, rfl, .inl hv⟩)
    have hhigh := s.operand_failsOnly (hends ends hp).2 fun h hv => hs h (.inr ⟨_, rfl, .inr hv⟩)
    refine (hl.bind fun l _ => hlow.bind fun lo _ => hhigh.bind_ok fun hi => ⟨_, rfl⟩).congr ?_ ?_
    all_goals simp [or_and_right, exists_or]

/-- A comparison fails as a malformed one, or as a query that it renders. -/
theorem markedComparison_failsOnly {combinator : Value} (hleft : left.IsOperand)
    (hright : right.IsOperand)
    (hitems : ∀ items, right.members? = some items → ∀ v ∈ items, v.IsOperand)
    (hs : ∀ h, (comparison left right (.text operator) combinator).Renders h →
      FailsOnly (s.nested h) (malformed h) (overlong h)) :
    FailsOnly (markedComparison s left right (.text operator))
      ((comparison left right (.text operator) combinator).IsMalformed ∨
        ∃ h, (comparison left right (.text operator) combinator).Renders h ∧ malformed h)
      (∃ h, (comparison left right (.text operator) combinator).Renders h ∧ overlong h) := by
  have hkeyword : ∃ keyword, operatorName (.text operator) = .ok keyword := ⟨_, rfl⟩
  refine .ok_bind hkeyword fun keyword hname => ?_
  obtain rfl : normalizeOperator operator = keyword := Except.ok.inj hname
  simp only [renders_comparison_iff, IsMalformed, isNullTest_iff, isMembership_iff,
    isRange_iff] at hs ⊢
  have hplain : (∀ h, left.Refers h ∨ right.Refers h →
      FailsOnly (s.nested h) (malformed h) (overlong h)) → FailsOnly
      (markedPlain s left right (.text operator))
      (∃ h, (left.Refers h ∨ right.Refers h) ∧ malformed h)
      (∃ h, (left.Refers h ∨ right.Refers h) ∧ overlong h) :=
    markedPlain_failsOnly s hleft hright
  cases hkind : OperatorKind.ofName (normalizeOperator operator) with
  | nullTest =>
    rw [hkind] at hs
    have hl := s.operand_failsOnly hleft fun h hv => hs h (by simp [hv])
    exact (hl.bind_ok fun l => ⟨_, rfl⟩).congr (by simp) (by simp)
  | plain =>
    rw [hkind] at hs
    exact (hplain fun h hv => hs h (by simpa using hv)).congr (by simp) (by simp)
  | pattern name leading trailing =>
    rw [hkind] at hs
    dsimp only
    split
    · rename_i hquery
      exact (hplain fun h hv => hs h (by simpa using hv)).congr (by simp) (by simp)
    · rename_i hquery
      have hnone := right.not_refers (Bool.eq_false_iff.mpr hquery)
      have hl := s.operand_failsOnly hleft fun h hv => hs h (by simp [hv])
      exact (hl.bind_ok fun l => ⟨_, rfl⟩).congr (by simp [hnone]) (by simp [hnone])
  | membership negated =>
    rw [hkind] at hs
    dsimp only
    split
    · rename_i hquery
      have hmembers := right.members?_of_isQuery hquery
      exact (hplain fun h hv => hs h (by simpa [hmembers] using hv)).congr
        (by simp [hmembers, hquery]) (by simp [hmembers])
    · rename_i hquery
      have hnone := right.not_refers (Bool.eq_false_iff.mpr hquery)
      exact (markedMembership_failsOnly s _ negated hleft hitems fun h hv =>
        hs h (by simpa [hnone] using hv)).congr (by simp [hnone, hquery]) (by simp [hnone])
  | range =>
    rw [hkind] at hs
    dsimp only
    split
    · rename_i hquery
      have hpair := right.pair?_of_isQuery hquery
      exact (hplain fun h hv => hs h (by simpa [hpair] using hv)).congr
        (by simp [hpair, hquery]) (by simp [hpair])
    · rename_i hquery
      have hnone := right.not_refers (Bool.eq_false_iff.mpr hquery)
      have hends : ∀ ends, right.pair? = some ends → ends.1.IsOperand ∧ ends.2.IsOperand := by
        intro ends hp
        have hoperands := hitems _ (Value.members?_of_pair? hp)
        exact ⟨hoperands _ (by simp), hoperands _ (by simp)⟩
      exact (markedRange_failsOnly s hleft hends fun h hv =>
        hs h (by simpa [hnone] using hv)).congr (by simp [hnone, hquery]) (by simp [hnone])

theorem exists_markedJoiner (bare : Bool) {combinator : Value} (hc : combinator.Displays) :
    ∃ link, markedJoiner bare combinator = .ok link := by
  obtain ⟨shown, hshown⟩ := hc
  rw [markedJoiner, hshown]
  cases bare <;> exact ⟨_, rfl⟩

theorem markedList_failsOnly {nodes : List Condition} (hn : ∀ c ∈ nodes, c.IsTyped)
    (hs : ∀ h, (∃ c ∈ nodes, c.Renders h) → FailsOnly (s.nested h) (malformed h) (overlong h))
    (bare : Bool) :
    FailsOnly (markedList s bare nodes)
      ((∃ c ∈ nodes, c.IsMalformed) ∨ ∃ h, (∃ c ∈ nodes, c.Renders h) ∧ malformed h)
      (∃ h, (∃ c ∈ nodes, c.Renders h) ∧ overlong h) := by
  induction nodes generalizing bare with
  | nil => exact (FailsOnly.ok _).congr (by simp) (by simp)
  | cons node rest ih =>
    have hnode := hn node List.mem_cons_self
    have hrest := ih (fun c hc => hn c (List.mem_cons_of_mem node hc)) fun h ⟨c, hc, hh⟩ =>
      hs h ⟨c, List.mem_cons_of_mem node hc, hh⟩
    -- only a comparison can be malformed, or render a query
    cases node with
    | groupStart combinator =>
      have hnone : ∀ h, ¬ (groupStart combinator).Renders h := nofun
      have hlist : FailsOnly (markedList s bare (.groupStart combinator :: rest)) _ _ :=
        .ok_bind (exists_markedJoiner bare hnode) fun link _ =>
          (hrest true).bind_ok fun text => ⟨_, rfl⟩
      exact hlist.congr (by simp [hnone, IsMalformed]) (by simp [hnone])
    | groupEnd combinator =>
      have hnone : ∀ h, ¬ (groupEnd combinator).Renders h := nofun
      have hlist : FailsOnly (markedList s bare (.groupEnd combinator :: rest)) _ _ :=
        (hrest false).bind_ok fun text => ⟨_, rfl⟩
      exact hlist.congr (by simp [hnone, IsMalformed]) (by simp [hnone])
    | comparison left right operator combinator =>
      obtain ⟨hleft, hright, hitems, ⟨name, rfl⟩, hc⟩ := hnode
      have hfirst := markedComparison_failsOnly s hleft hright hitems fun h hh =>
        hs h ⟨_, List.mem_cons_self, hh⟩
      have hlist : FailsOnly
          (markedList s bare (.comparison left right (.text name) combinator :: rest)) _ _ :=
        .ok_bind (exists_markedJoiner bare hc) fun link _ => hfirst.bind fun first _ =>
          (hrest false).bind_ok fun text => ⟨_, rfl⟩
      refine hlist.congr ?_ ?_
      · simp only [List.mem_cons, or_and_right, exists_or, exists_eq_left]
        exact or_or_or_comm
      · simp [or_and_right, exists_or]
    | unknown v => exact hnode.elim

end Condition

/-! ### Order and pages -/

theorem SortKey.exists_render (k : SortKey) (d : Dialect)
    (hk : k.table.Displays ∧ k.column.Displays ∧ k.direction.Displays) :
    ∃ text, k.render d = .ok text := by
  obtain ⟨ht, hc, shown, hshown⟩ := hk
  obtain ⟨sql, hsql⟩ := d.exists_columnName ht hc
  rw [render, hsql, hshown]
  cases k.direction.truthy <;> exact ⟨_, rfl⟩

/-- An integer is written unless it has too many digits. -/
theorem integerText_failsOnly (n : Int) : FailsOnly (integerText n) False (IsOverlong n) := by
  unfold integerText
  split
  · rename_i hle
    have hlt := (Nat.length_toDigits_le_iff (by decide) (by decide)).mp hle
    exact (FailsOnly.ok _).congr Iff.rfl (iff_of_false not_false (Nat.not_le.mpr hlt))
  · rename_i hlt
    rw [Nat.length_toDigits_le_iff (by decide) (by decide)] at hlt
    have hoverlong : IsOverlong n := Nat.not_lt.mp hlt
    refine ⟨iff_of_false nofun fun hnot => hnot.2 hoverlong, ?_⟩
    rintro _ ⟨⟩
    exact .inr ⟨rfl, hoverlong⟩

/-! ### Queries -/

/-- What does not count as given holds nothing. -/
theorem Value.items_eq_nil {v : Value} {items : List Value} (hv : v.truthy = false)
    (h : v.items = .ok items) : items = [] := by
  cases v <;> simp_all [truthy, Value.items]

namespace Select

variable {q : Select}

theorem exists_renderOrder (hq : q.IsTyped) (d : Dialect) :
    ∃ text, q.renderOrder d = .ok text := by
  obtain ⟨keys, hkeys⟩ := exists_mapM_ok fun k hk => SortKey.exists_render k d (hq.order k hk)
  rw [renderOrder, hkeys]
  cases q.order.isEmpty <;> exact ⟨_, rfl⟩

theorem renderPage_failsOnly (q : Select) (d : Dialect) :
    FailsOnly (q.renderPage d) False q.IsOverlong := by
  rw [renderPage]
  split
  · rename_i offset size hoffset hsize
    refine (((integerText_failsOnly offset).bind fun o _ =>
      (integerText_failsOnly size).bind_ok fun n => ⟨_, rfl⟩).map _).congr (by simp) ?_
    rw [IsOverlong, hoffset, hsize]
    simp
  · rename_i hnone
    refine (FailsOnly.ok _).congr Iff.rfl (iff_of_false not_false ?_)
    rintro ⟨offset, size, hoffset, hsize, -⟩
    exact hnone offset size hoffset hsize

theorem markedFields_failsOnly {fields : List Field} (hf : ∀ f ∈ fields, f.IsTyped)
    (hs : ∀ h, (∃ f ∈ fields, f.Embeds h) → FailsOnly (s.nested h) (malformed h) (overlong h)) :
    FailsOnly (markedFields s fields)
      ((∃ f ∈ fields, f.IsMalformed) ∨ ∃ h, (∃ f ∈ fields, f.Embeds h) ∧ malformed h)
      (∃ h, (∃ f ∈ fields, f.Embeds h) ∧ overlong h) := by
  induction fields with
  | nil => exact (FailsOnly.ok _).congr (by simp) (by simp)
  | cons f fs ih =>
    have hfirst := Field.marked_failsOnly s (hf f List.mem_cons_self) fun h hh =>
      hs h ⟨f, List.mem_cons_self, hh⟩
    have hrest := ih (fun g hg => hf g (List.mem_cons_of_mem f hg)) fun h ⟨g, hg, hh⟩ =>
      hs h ⟨g, List.mem_cons_of_mem f hg, hh⟩
    refine (hfirst.bind fun text _ => hrest.bind_ok fun texts => ⟨_, rfl⟩).congr ?_ ?_
    · simp only [List.mem_cons, or_and_right, exists_or, exists_eq_left]
      exact or_or_or_comm
    · simp [or_and_right, exists_or]

theorem markedTables_failsOnly {tables : List Table} (ht : ∀ t ∈ tables, t.IsTyped)
    (first : Bool) : FailsOnly (markedTables s first tables)
      (∃ t ∈ if first then tables.tail else tables, t.IsMalformed) False := by
  induction tables generalizing first with
  | nil => exact (FailsOnly.ok _).congr (by simp) Iff.rfl
  | cons t ts ih =>
    have hfirst := t.marked_failsOnly s (ht t List.mem_cons_self) first
    have hrest := ih (fun u hu => ht u (List.mem_cons_of_mem t hu)) false
    refine (hfirst.bind fun text _ => hrest.bind_ok fun texts => ⟨_, rfl⟩).congr ?_ (by simp)
    cases first <;> simp

theorem markedConditions_failsOnly (hq : q.IsTyped)
    (hs : ∀ h, (∃ c, q.HasNode c ∧ c.Renders h) →
      FailsOnly (s.nested h) (malformed h) (overlong h)) :
    FailsOnly (markedConditions s q.conditions)
      ((∃ c, q.HasNode c ∧ c.IsMalformed) ∨
        ∃ h, (∃ c, q.HasNode c ∧ c.Renders h) ∧ malformed h)
      (∃ h, (∃ c, q.HasNode c ∧ c.Renders h) ∧ overlong h) := by
  obtain ⟨items, hitems⟩ := hq.conditions
  have hnode : ∀ c, q.HasNode c ↔ c ∈ items.map Condition.ofValue := by
    intro c
    simp [HasNode, hitems]
  have htyped := hq.nodes
  simp only [hnode] at hs htyped ⊢
  rw [markedConditions]
  split
  · rename_i hempty
    obtain rfl : items = [] := Value.items_eq_nil (by simpa using hempty) hitems
    exact (FailsOnly.ok _).congr (by simp) (by simp)
  · have hnodes : FailsOnly (Condition.markedNodes s q.conditions) _ _ :=
      .ok_bind ⟨items, hitems⟩ fun items' hitems' => by
        obtain rfl := Except.ok.inj (hitems.symm.trans hitems')
        exact Condition.markedList_failsOnly s htyped hs true
    exact hnodes.bind_ok fun text => ⟨_, rfl⟩

theorem marked_failsOnly (hq : q.IsTyped)
    (hs : ∀ h, q.Renders h → FailsOnly (s.nested h) (malformed h) (overlong h)) :
    FailsOnly (q.marked s) (q.IsMalformed ∨ ∃ h, q.Renders h ∧ malformed h)
      (q.IsOverlong ∨ ∃ h, q.Renders h ∧ overlong h) := by
  have hfields := markedFields_failsOnly s hq.fields fun h hh => hs h (.inl hh)
  have htables := markedTables_failsOnly s hq.tables true
  have hconditions := markedConditions_failsOnly s hq fun h hh => hs h (.inr hh)
  have horder := exists_renderOrder hq s.dialect
  have hpage := q.renderPage_failsOnly s.dialect
  refine (hfields.bind fun fields _ => htables.bind fun tables _ => hconditions.bind
    fun conditions _ => .ok_bind horder fun order _ => hpage.bind_ok fun page =>
    ⟨_, rfl⟩).congr ?_ ?_
  · simp [IsMalformed, Renders, or_and_right, exists_or, or_assoc, or_left_comm]
  · rw [or_comm (a := q.IsOverlong)]
    simp [Renders, or_and_right, exists_or, or_assoc]

end Select

end Parts

end FluentSql
