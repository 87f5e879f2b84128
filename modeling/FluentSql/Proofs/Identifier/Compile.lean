import FluentSql.Proofs.Identifier.Query
import FluentSql.Proofs.Outline.Dialects
import FluentSql.Proofs.Outline.Nesting

/-!
# Identifiers stay in their quotes

A name that a dialect quotes is read back as it was, alone, in a qualified name and in a compiled
text (`Store.identifiers_stay_quoted`). Queries that are renamings of one another compile to texts
that read the same but for their names, so no name has an influence on the text around it.
-/

namespace FluentSql

open Marked Outline

variable {d : Dialect} {R : Handle → Handle → Prop} {N : String → String → Prop}

/-! ### Parts of names -/

/-- A name that may not be given, as a value. -/
def Value.ofName : Option String → Value
  | none => .null
  | some s => .text s

theorem Value.name?_ofName (part : Option String) :
    (ofName part).name? = .ok (part.filter (· ≠ "")) := by
  cases part with
  | none => rfl
  | some s =>
    by_cases hs : s = ""
    · rw [hs]
      rfl
    · have hgiven : (text s).truthy = true := by simp [truthy, hs]
      rw [ofName, name?, if_pos hgiven, Option.filter, if_pos (by simpa using hs)]
      rfl

theorem Value.mapM_name?_ofName (parts : List (Option String)) :
    (parts.map ofName).mapM name? = .ok (parts.map fun part => part.filter (· ≠ "")) := by
  induction parts with
  | nil => rfl
  | cons part parts ih =>
    rw [List.map_cons, List.mapM_cons, name?_ofName, ih]
    rfl

/-- The parts of a qualified name that are not empty are read back in order. -/
theorem unqualify_qualifiedName (d : Dialect) (parts : List (Option String)) :
    ∃ text, d.qualifiedName (parts.map .ofName) = .ok text ∧
      unqualify d.quoteChar text.toList = some ((parts.filterMap id).filter (· ≠ "")) := by
  refine ⟨d.qualified (parts.map fun part => part.filter (· ≠ "")), ?_, ?_⟩
  · rw [Dialect.qualifiedName, Value.mapM_name?_ofName]
    rfl
  · rw [unqualify_qualified, List.filterMap_map, List.filter_filterMap]
    congr 2

/-! ### Embedded queries -/

theorem exists_of_mem_right {α β : Type} {Q : α → β → Prop} {as : List α} {bs : List β}
    (h : List.Forall₂ Q as bs) {b : β} (hb : b ∈ bs) : ∃ a ∈ as, Q a b := by
  induction h with
  | nil => cases hb
  | cons hab _ ih =>
    rcases List.mem_cons.mp hb with rfl | hb
    · exact ⟨_, List.mem_cons_self, hab⟩
    · obtain ⟨a, ha, hab⟩ := ih hb
      exact ⟨a, List.mem_cons_of_mem _ ha, hab⟩

variable {k : Handle}

theorem Value.OperandRenamed.exists_of_refers {v w : Value} (h : Value.OperandRenamed R N v w)
    (hk : w.Refers k) : ∃ g, R g k := by
  obtain ⟨labels, rfl⟩ := hk
  cases h with
  | query hR => exact ⟨_, hR⟩
  | same hv => cases hv

theorem Field.Renamed.exists_of_embeds {f f' : Field} (h : Field.Renamed d R N f f')
    (hk : f'.Embeds k) : ∃ g, R g k := by
  cases h with
  | column | wildcard | concat => exact hk.elim
  | subquery hq => exact hq.exists_of_refers hk
  | function _ hs _ harg =>
    rcases hk with hk | ⟨w, hw, hk⟩
    · exact hs.exists_of_refers hk
    · cases harg with
      | none => cases hw
      | some harg =>
        obtain rfl := Option.some.inj hw
        exact harg.exists_of_refers hk

theorem Value.RightRenamed.exists_of_refers {v w : Value} (h : Value.RightRenamed R N v w)
    (hk : w.Refers k ∨ ∃ items, w.members? = some items ∧ ∃ u ∈ items, u.Refers k) :
    ∃ g, R g k := by
  rcases hk with ⟨labels, rfl⟩ | ⟨items, hitems, u, hu, hk⟩
  · cases h with
    | operand _ h => exact h.exists_of_refers ⟨labels, rfl⟩
  · rcases h.members with ⟨vs, ws, -, hws, hrel⟩ | ⟨-, hnone, -⟩
    · obtain rfl := Option.some.inj (hws.symm.trans hitems)
      obtain ⟨_, -, hrenamed⟩ := exists_of_mem_right hrel hu
      exact hrenamed.exists_of_refers hk
    · cases hnone.symm.trans hitems

theorem Condition.Renamed.exists_of_embeds {c c' : Condition} (h : Condition.Renamed d R N c c')
    (hk : c'.Embeds k) : ∃ g, R g k := by
  cases h with
  | groupStart | groupEnd | unknown => exact hk.elim
  | comparison hl hr =>
    rcases hk with hk | hk
    · exact hl.exists_of_refers hk
    · exact hr.exists_of_refers hk

theorem Select.Renamed.exists_of_embeds {q q' : Select} (h : Select.Renamed d R N q q')
    (hk : q'.Embeds k) : ∃ g, R g k := by
  rcases hk with ⟨f', hf', hk⟩ | ⟨items', hitems', v', hv', hk⟩
  · obtain ⟨f, -, hf⟩ := exists_of_mem_right h.fields hf'
    exact hf.exists_of_embeds hk
  · have hconditions := h.conditions
    rw [hitems'] at hconditions
    generalize q.conditions.items = items at hconditions
    cases hconditions with
    | ok hnodes =>
      obtain ⟨v, -, hnode⟩ := exists_of_mem_right hnodes hv'
      exact hnode.exists_of_embeds hk
    | leftGivenUp hf => exact hf.elim

namespace Store

variable {s t : Store} (hst : Renames d R N s t) {g h : Handle} (hgh : R g h)
include hst hgh

/-- All queries that a renamed query reaches are renamed. -/
theorem Renames.lt_of_reaches (hk : t.Reaches h k) : k < t.queries.size := by
  have hrenamed : ∃ g, R g k := by
    induction hk with
    | refl => exact ⟨g, hgh⟩
    | step _ hembeds ih =>
      obtain ⟨g, hg⟩ := ih
      exact (hst.renamed hg).exists_of_embeds hembeds
  obtain ⟨g, hg⟩ := hrenamed
  exact hst.lt hg

/-! ### Compilation -/

omit hgh in
/-- Only a query in the place of a column that is joined is refused in another way. -/
theorem outlinedWithin_renamed (depth : Nat) {g h : Handle} (hgh : R g h) :
    AgreeUpTo (fun f => ∃ shown, f = .refused (.joinTargetIsQuery shown)) (fun _ => False)
      (Outline.Renamed d N) (s.outlinedWithin depth g) (t.outlinedWithin depth h) := by
  induction depth generalizing g h with
  | zero => exact .error _
  | succ depth ih =>
    exact Select.outlined_renamed (fun _ _ hgh => ih hgh) (fun shown => ⟨shown, rfl⟩)
      (hst.renamed hgh)

/-- A renaming of a query that has a text has one too, which has the same lexemes. -/
theorem exists_marked_renamed {o : Outline} (ho : s.outlined g = .ok o) :
    ∃ o', t.marked h d = .ok (Outline.write d o') ∧ Outline.Renamed d N o o' := by
  have hagree := outlinedWithin_renamed hst s.queries.size hgh
  rw [show s.outlinedWithin s.queries.size g = .ok o from ho] at hagree
  cases ho' : t.outlinedWithin s.queries.size h with
  | error f =>
    rw [ho'] at hagree
    cases hagree with
    | rightGivenUp hf => exact hf.elim
  | ok o' =>
    rw [ho'] at hagree
    have hwritten := (t.markedWithin_written d s.queries.size h).written.eq
    rw [ho'] at hwritten
    -- the stores may differ in size, and each compiles to its own depth
    have hdepth := markedWithin_mono (Nat.le_max_left s.queries.size t.queries.size) hwritten
    rw [markedWithin_of_size_le (fun _ hk => hst.lt_of_reaches hgh hk) (Nat.le_max_right _ _)]
      at hdepth
    cases hagree with
    | ok hrenamed => exact ⟨o', hdepth, hrenamed⟩

theorem exists_compile_renamed {a : Statement} (ha : s.compile g d = .ok a) :
    ∃ b, t.compile h d = .ok b ∧ List.Forall₂ (Lexeme.Renamed N)
      (lexemes d.quoteChar a.sql.toList) (lexemes d.quoteChar b.sql.toList) := by
  rw [s.compile_eq_written g d] at ha
  cases ho : s.outlined g with
  | error f =>
    rw [ho] at ha
    cases ha
  | ok o =>
    rw [ho] at ha
    obtain rfl := Except.ok.inj ha
    obtain ⟨o', ho', hrenamed⟩ := exists_marked_renamed hst hgh ho
    have hcompile := t.compile_eq_marked h d
    rw [ho'] at hcompile
    refine ⟨_, hcompile, ?_⟩
    have hchars : ∀ o, (Outline.write d o).statement.sql.toList = chars d o :=
      fun _ => String.toList_ofList
    rw [hchars, hchars]
    exact hrenamed.lexemes

end Store

/-- **Identifiers stay in their quotes.** A quoted name is read back up to its closing quote, and so
are the parts of a qualified name that are not empty. If queries differ in their names only, and what
is written as given has no quotes, then their texts have the same lexemes but for the names, which
correspond one by one. -/
theorem Store.identifiers_stay_quoted (d : Dialect) :
    (∀ (name : String) (rest : List Char), rest.head? ≠ some d.quoteChar →
        unquote d.quoteChar ((d.quote name).toList ++ rest) = some (name, rest)) ∧
      (∀ parts : List (Option String), ∃ text, d.qualifiedName (parts.map .ofName) = .ok text ∧
        unqualify d.quoteChar text.toList = some ((parts.filterMap id).filter (· ≠ ""))) ∧
      ∀ (R : Handle → Handle → Prop) (N : String → String → Prop) (s t : Store),
        Renames d R N s t → ∀ g h, R g h → ∀ a, s.compile g d = .ok a →
          ∃ b, t.compile h d = .ok b ∧ List.Forall₂ (Lexeme.Renamed N)
            (lexemes d.quoteChar a.sql.toList) (lexemes d.quoteChar b.sql.toList) :=
  ⟨fun name _ hrest => unquote_quote d name hrest, unqualify_qualifiedName d,
    fun _ _ _ _ hst _ _ hgh _ ha => exists_compile_renamed hst hgh ha⟩

/-! ### A query under two names -/

/-- A query of a column. -/
def Select.ofName (table column : String) : Select where
  fields := [.column (.text table) (.text column) .null]
  tables := [{ schema := .null, table := .text table }]
  conditions := .list [.comparison (.column .null (.text column)) (.int 7) (.text "=")
    (.text "AND")]
  order := [{ table := .null, column := .text column, direction := .text "ASC" }]
  page := some 2
  limit := some 5

/-- A store with a query of a column, and with a second query that embeds it. -/
def Store.ofNames (table column : String) : Store where
  queries := #[
    { fields := [.subquery (.ofQuery 1) (.text column)],
      tables := [{ schema := .null, table := .text table }] },
    { fields := (Select.ofName table column).fields
      tables := (Select.ofName table column).tables
      conditions := (Select.ofName table column).conditions
      order := (Select.ofName table column).order
      page := (Select.ofName table column).page
      limit := (Select.ofName table column).limit }]

/-- Names without quotes, and what they are renamed to. -/
def Renaming (a b : String) : Prop :=
  (a, b) ∈ [("t", "t\" AS \"u"), ("c", "\"\"")]

theorem Value.renamed_null : Value.Renamed Renaming .null .null := by
  refine .same ?_
  rintro name hname a ha
  obtain rfl := Except.ok.inj hname
  cases ha

theorem Value.renamed_table : Value.Renamed Renaming (.text "t") (.text "t\" AS \"u") :=
  .text (by decide) (by decide) (by decide) (by decide) (.head _)

theorem Value.renamed_column : Value.Renamed Renaming (.text "c") (.text "\"\"") :=
  .text (by decide) (by decide) (by decide) (by decide) (.tail _ (.head _))

theorem Table.renamed_of_name {R : Handle → Handle → Prop} :
    Table.Renamed .ansi R Renaming { schema := .null, table := .text "t" }
      { schema := .null, table := .text "t\" AS \"u" } :=
  ⟨Value.renamed_null, Value.renamed_table, Value.renamed_null, .record .nil, rfl, nofun⟩

/-- A text without quotes, in the place of a keyword. -/
theorem Value.isUnquoted_text {s : String} (hs : d.Unquoted s) : (Value.text s).IsUnquoted d := by
  intro shown hshown
  obtain rfl := Except.ok.inj hshown
  exact hs

theorem Store.renames_ofNames : Renames .ansi (fun g h => g = h ∧ h < 2) Renaming
    (ofNames "t" "c") (ofNames "t\" AS \"u" "\"\"") where
  lt := fun ⟨_, hlt⟩ => hlt
  renamed := by
    rintro g _ ⟨rfl, hlt⟩
    obtain rfl | rfl := Nat.le_one_iff_eq_zero_or_eq_one.mp (Nat.lt_succ_iff.mp hlt)
    · exact ⟨.cons (.subquery (.query ⟨rfl, Nat.one_lt_two⟩) Value.renamed_column) .nil,
        .cons Table.renamed_of_name .nil, rfl, .ok .nil, .nil, rfl, rfl⟩
    · refine ⟨.cons (.column Value.renamed_table Value.renamed_column Value.renamed_null) .nil,
        .cons Table.renamed_of_name .nil, rfl, .ok (.cons (.comparison ?_ ?_ ?_ ?_) .nil),
        .cons ⟨Value.renamed_null, Value.renamed_column, rfl, ?_⟩ .nil, rfl, rfl⟩
      · exact .column Value.renamed_null Value.renamed_column
      · exact .operand rfl (.same rfl)
      all_goals exact Value.isUnquoted_text (Clean.unquoted _ (by decide))

theorem Store.identifiers_stay_quoted_renamed :
    ['.'].head? ≠ some Dialect.ansi.quoteChar ∧
      unquote '"' ((Dialect.ansi.quote "\"\"").toList ++ ['.']) = some ("\"\"", ['.']) ∧
      Renames .ansi (fun g h => g = h ∧ h < 2) Renaming (ofNames "t" "c")
        (ofNames "t\" AS \"u" "\"\"") ∧
      ∃ a b, (ofNames "t" "c").compile 0 .ansi = .ok a ∧
        (ofNames "t\" AS \"u" "\"\"").compile 0 .ansi = .ok b ∧
        List.Forall₂ (Lexeme.Renamed Renaming) (lexemes '"' a.sql.toList)
          (lexemes '"' b.sql.toList) := by
  obtain ⟨hquoted, -, hrenamed⟩ := identifiers_stay_quoted .ansi
  have hrest : ['.'].head? ≠ some Dialect.ansi.quoteChar := by decide
  obtain ⟨a, ha⟩ : ∃ a, (ofNames "t" "c").compile 0 .ansi = .ok a := ⟨_, by rfl⟩
  obtain ⟨b, hb, hlexemes⟩ := hrenamed _ _ _ _ renames_ofNames 0 0 ⟨rfl, Nat.two_pos⟩ a ha
  exact ⟨hrest, hquoted _ _ hrest, renames_ofNames, a, b, ha, hb, hlexemes⟩

end FluentSql
