import Mathlib.Algebra.Group.Int.Defs
import Mathlib.Data.Finset.Card
import Mathlib.Logic.Relation
import FluentSql.Proofs.Refusal.Query

/-!
# Refused queries

A query is refused exactly if it is malformed, or one of the queries that it renders is, at any
depth. Nothing else can go wrong with it, but that an integer of a page clause is too long to be
written.

A store compiles a query to the depth of as many queries as it has. Queries that are finitely nested
do not need more, since a query that renders itself would have no end.
-/

namespace FluentSql

namespace Store

variable (s : Store)

/-- The queries that become part of the text of a query, itself among them. -/
def Rendered : Handle → Handle → Prop :=
  Relation.ReflTransGen fun g g' => (s.select g).Renders g'

/-- A query that is malformed, or renders one that is. -/
def IsMalformed (h : Handle) : Prop :=
  ∃ g, s.Rendered h g ∧ (s.select g).IsMalformed

/-- A query with a page clause that holds an integer that is too long, or that renders one. -/
def IsOverlong (h : Handle) : Prop :=
  ∃ g, s.Rendered h g ∧ (s.select g).IsOverlong

/-- A query as builders make it: all that it renders is in the store and typed, and the nesting is
finite. -/
structure IsTyped (h : Handle) : Prop where
  mem : ∀ g, s.Rendered h g → g < s.queries.size
  select : ∀ g, s.Rendered h g → (s.select g).IsTyped
  nesting : Acc (fun g' g => (s.select g).Renders g') h

variable {s} {h g : Handle}

theorem IsTyped.of_renders (hh : s.IsTyped h) (hg : (s.select h).Renders g) : s.IsTyped g where
  mem g' hg' := hh.mem g' (.head hg hg')
  select g' hg' := hh.select g' (.head hg hg')
  nesting := hh.nesting.inv hg

/-- What a query renders does not render the query in turn. -/
theorem IsTyped.not_rendered (hh : s.IsTyped h) (hg : (s.select h).Renders g) :
    ¬ s.Rendered g h := by
  have hacc := hh.nesting
  clear hh
  induction hacc generalizing g with
  | intro h _ ih =>
    intro hback
    -- a cycle through the query is also one through what it renders
    rcases hback.cases_head with rfl | ⟨g', hg', hback⟩
    · exact ih g hg hg .refl
    · exact ih g hg hg' (hback.tail hg)

/-- Queries that render only later ones of their store are finitely nested. -/
theorem isTyped_of_later (hs : ∀ g < s.queries.size, (s.select g).IsTyped ∧
    ∀ g', (s.select g).Renders g' → g < g' ∧ g' < s.queries.size) (hh : h < s.queries.size) :
    s.IsTyped h := by
  have hmem : ∀ g, s.Rendered h g → g < s.queries.size := by
    intro g hg
    induction hg with
    | refl => exact hh
    | tail _ hg ih => exact ((hs _ ih).2 _ hg).2
  refine ⟨hmem, fun g hg => (hs g (hmem g hg)).1, ?_⟩
  induction hn : s.queries.size - h using Nat.strongRecOn generalizing h with
  | _ n ih =>
    refine ⟨_, fun g hg => ?_⟩
    obtain ⟨hlater, hlt⟩ := (hs h hh).2 g hg
    have hless : s.queries.size - g < n := hn ▸ Nat.sub_lt_sub_left hh hlater
    exact ih _ hless hlt (fun g' hg' => hmem g' (.head hg hg')) rfl

theorem exists_rendered_iff {P : Handle → Prop} : (∃ g, s.Rendered h g ∧ P g) ↔
    P h ∨ ∃ g, (s.select h).Renders g ∧ ∃ g', s.Rendered g g' ∧ P g' := by
  constructor
  · rintro ⟨g', hg', hp⟩
    rcases hg'.cases_head with rfl | ⟨g, hg, hback⟩
    · exact .inl hp
    · exact .inr ⟨g, hg, g', hback, hp⟩
  · rintro (hp | ⟨g, hg, g', hg', hp⟩)
    · exact ⟨h, .refl, hp⟩
    · exact ⟨g', .head hg hg', hp⟩

/-- A depth suffices if there are no more rendered queries. -/
theorem markedWithin_failsOnly (d : Dialect) {depth : Nat} {S : Finset Handle}
    (hh : s.IsTyped h) (hS : ∀ g, s.Rendered h g → g ∈ S) (hcard : S.card ≤ depth) :
    FailsOnly (s.markedWithin d depth h) (s.IsMalformed h) (s.IsOverlong h) := by
  induction depth generalizing h S with
  | zero =>
    have hempty : S = ∅ := Finset.card_eq_zero.mp (Nat.le_zero.mp hcard)
    have hmem := hS h .refl
    rw [hempty] at hmem
    exact absurd hmem (Finset.notMem_empty h)
  | succ depth ih =>
    -- what is rendered by a query that this one renders is among the others
    have hothers : ∀ g, (s.select h).Renders g → ∀ g', s.Rendered g g' → g' ∈ S.erase h := by
      intro g hg g' hg'
      refine Finset.mem_erase.mpr ⟨?_, hS g' (.head hg hg')⟩
      rintro rfl
      exact hh.not_rendered hg hg'
    have hless : (S.erase h).card ≤ depth := by
      rw [Finset.card_erase_of_mem (hS h .refl)]
      exact Nat.sub_le_of_le_add hcard
    have hnested := fun g hg => ih (hh.of_renders hg) (hothers g hg) hless
    exact (Select.marked_failsOnly ⟨d, s.markedWithin d depth⟩ (hh.select h .refl) hnested).congr
      (exists_rendered_iff (P := fun g => (s.select g).IsMalformed)).symm
      (exists_rendered_iff (P := fun g => (s.select g).IsOverlong)).symm

theorem compile_failsOnly (hh : s.IsTyped h) (d : Dialect) :
    FailsOnly (s.compile h d) (s.IsMalformed h) (s.IsOverlong h) := by
  rw [compile, s.compileWithin_eq_marked]
  refine (markedWithin_failsOnly d (S := .range s.queries.size) hh ?_ ?_).map _
  · exact fun g hg => Finset.mem_range.mpr (hh.mem g hg)
  · exact (Finset.card_range _).le

/-- **Queries are refused exactly if malformed.** Let a query be typed, with all that it renders.
Then it has a statement unless it is malformed or overlong. It is refused only if it is malformed,
and always then unless it is overlong too; and the only other fault is that an integer has too many
digits. -/
theorem refused_iff_malformed (s : Store) {h : Handle} (hh : s.IsTyped h) (d : Dialect) :
    ((∃ statement, s.compile h d = .ok statement) ↔ ¬ s.IsMalformed h ∧ ¬ s.IsOverlong h) ∧
    (¬ s.IsOverlong h → ((∃ refusal, s.compile h d = .error (.refused refusal)) ↔
      s.IsMalformed h)) ∧
    ∀ f, s.compile h d = .error f → (∃ refusal, f = .refused refusal) ∧ s.IsMalformed h ∨
      f = .display .tooManyDigits ∧ s.IsOverlong h := by
  have hfails := compile_failsOnly hh d
  refine ⟨hfails.ok_iff, fun hoverlong => ⟨?_, fun hmalformed => ?_⟩, fun f => hfails.of_error⟩
  · rintro ⟨refusal, hrefused⟩
    rcases hfails.of_error hrefused with ⟨-, hmalformed⟩ | ⟨hdigits, -⟩
    · exact hmalformed
    · cases hdigits
  · cases hcompile : s.compile h d with
    | ok statement => exact absurd hmalformed (hfails.ok_iff.mp ⟨statement, hcompile⟩).1
    | error f =>
      rcases hfails.of_error hcompile with ⟨⟨refusal, rfl⟩, -⟩ | ⟨-, h⟩
      · exact ⟨refusal, rfl⟩
      · exact absurd h hoverlong

end Store

/-! ### Queries of one column -/

/-- A query of one column, under conditions, and perhaps with a page. -/
def Select.ofColumn (nodes : List Value) (page limit : Option Int) : Select where
  fields := [.column .null (.text "a") .null]
  tables := [{ schema := .null, table := .text "t" }]
  conditions := .list nodes
  order := []
  page
  limit

/-- The builder of a query of one column. -/
def QueryBuilder.ofColumn (nodes : List Value) (page limit : Option Int) : QueryBuilder where
  fields := (Select.ofColumn nodes page limit).fields
  tables := (Select.ofColumn nodes page limit).tables
  conditions := .list nodes
  page
  limit

namespace Select

variable {nodes : List Value} {page limit : Option Int}

theorem hasNode_ofColumn {c : Condition} :
    (ofColumn nodes page limit).HasNode c ↔ c ∈ nodes.map Condition.ofValue := by
  simp [HasNode, ofColumn, Value.items]

theorem isTyped_ofColumn (h : ∀ c ∈ nodes.map Condition.ofValue, c.IsTyped) :
    (ofColumn nodes page limit).IsTyped where
  fields := List.forall_mem_singleton.mpr ⟨⟨_, rfl⟩, ⟨_, rfl⟩, ⟨_, rfl⟩⟩
  tables := List.forall_mem_singleton.mpr
    ⟨⟨_, rfl⟩, ⟨_, rfl⟩, ⟨_, rfl⟩, ⟨_, rfl⟩, _, rfl, nofun⟩
  conditions := ⟨nodes, rfl⟩
  nodes c hc := h c (hasNode_ofColumn.mp hc)
  order := nofun

theorem isMalformed_ofColumn : (ofColumn nodes page limit).IsMalformed ↔
    ∃ c ∈ nodes.map Condition.ofValue, c.IsMalformed := by
  simp only [IsMalformed, hasNode_ofColumn]
  simp [ofColumn, Field.IsMalformed]

theorem renders_ofColumn {h : Handle} : (ofColumn nodes page limit).Renders h ↔
    ∃ c ∈ nodes.map Condition.ofValue, c.Renders h := by
  simp only [Renders, hasNode_ofColumn]
  simp [ofColumn, Field.Embeds]

/-- The first row of a page may have a number that is too long, even if neither the page nor its
size has. -/
theorem isOverlong_ofColumn {k : Nat} (hk : writtenDigitLimit ≤ k + k) :
    (ofColumn [] (some (10 ^ k + 1)) (some (10 ^ k))).IsOverlong := by
  have hpos : (0 : Int) < 10 ^ k := Int.pow_pos (by decide)
  have hsize : ¬ (10 : Int) ^ k ≤ 0 := Int.not_le.mpr hpos
  have hpage : ¬ (10 : Int) ^ k + 1 ≤ 1 := by omega
  have hoffset : pageOffset (some (10 ^ k + 1)) (some (10 ^ k)) =
      some ((10 ^ (k + k) : Nat) : Int) := by
    rw [pageOffset, if_neg hsize, if_neg hpage, Int.add_sub_cancel, Nat.pow_add]
    norm_cast
  exact ⟨_, 10 ^ k, hoffset, rfl, .inl (Nat.pow_le_pow_right (by decide) hk)⟩

end Select

namespace Store

/-- A store with a query for what is in a second one, which asks for a range. -/
def ofRange (range : Value) : Store where
  queries := #[.ofColumn [.comparison (.column .null (.text "b")) (.ofQuery 1) (.text "in")
      (.text "AND")] none none,
    .ofColumn [.comparison (.column .null (.text "c")) range (.text " between ") (.text "AND")]
      none none]

theorem exists_select_ofRange (n : Int) : ∃ labels, (ofRange (.int n)).select 0 =
    .ofColumn [.comparison (.column .null (.text "b")) (.query 1 labels) (.text "in")
      (.text "AND")] none none :=
  ⟨_, rfl⟩

theorem select_ofRange (n : Int) : (ofRange (.int n)).select 1 =
    .ofColumn [.comparison (.column .null (.text "c")) (.int n) (.text " between ")
      (.text "AND")] none none :=
  rfl

theorem renders_ofRange_zero {n : Int} {g : Handle} :
    ((ofRange (.int n)).select 0).Renders g ↔ g = 1 := by
  obtain ⟨labels, hfirst⟩ := exists_select_ofRange n
  have hnull : ¬ IsNullTest "in" := by decide
  rw [hfirst, Select.renders_ofColumn]
  simp [Condition.ofValue, Condition.renders_comparison_iff, Value.Refers, Value.members?,
    Value.pair?, hnull, eq_comm]

theorem not_renders_ofRange_one {n : Int} {g : Handle} :
    ¬ ((ofRange (.int n)).select 1).Renders g := by
  rw [select_ofRange, Select.renders_ofColumn]
  simp [Condition.ofValue, Condition.renders_comparison_iff, Value.Refers, Value.members?,
    Value.pair?]

theorem isTyped_ofRange (n : Int) : (ofRange (.int n)).IsTyped 0 := by
  obtain ⟨labels, hfirst⟩ := exists_select_ofRange n
  have hcolumn : ∀ name, (Value.column .null (.text name)).IsOperand := fun _ => ⟨⟨_, rfl⟩, _, rfl⟩
  refine isTyped_of_later (fun g hg => ?_) Nat.two_pos
  obtain rfl | rfl : g = 0 ∨ g = 1 := Nat.le_one_iff_eq_zero_or_eq_one.mp (Nat.lt_succ_iff.mp hg)
  · refine ⟨?_, fun g' hg' => ?_⟩
    · rw [hfirst]
      exact Select.isTyped_ofColumn (List.forall_mem_singleton.mpr
        ⟨hcolumn "b", trivial, nofun, ⟨_, rfl⟩, _, rfl⟩)
    · rw [renders_ofRange_zero.mp hg']
      exact ⟨Nat.one_pos, Nat.one_lt_two⟩
  · refine ⟨?_, fun g' hg' => absurd hg' not_renders_ofRange_one⟩
    rw [select_ofRange]
    exact Select.isTyped_ofColumn (List.forall_mem_singleton.mpr
      ⟨hcolumn "c", trivial, nofun, ⟨_, rfl⟩, _, rfl⟩)

theorem refused_iff_malformed_range : (ofRange (.int 5)).IsTyped 0 ∧
    (ofRange (.int 5)).IsMalformed 0 ∧ ¬ (ofRange (.int 5)).IsOverlong 0 ∧
    ∃ refusal, (ofRange (.int 5)).compile 0 .ansi = .error (.refused refusal) := by
  have htyped := isTyped_ofRange 5
  have hmalformed : (ofRange (.int 5)).IsMalformed 0 := by
    refine ⟨1, .single (renders_ofRange_zero.mpr rfl), ?_⟩
    rw [select_ofRange, Select.isMalformed_ofColumn]
    exact ⟨_, .head _, rfl, .inr ⟨by decide, rfl⟩⟩
  have hoverlong : ¬ (ofRange (.int 5)).IsOverlong 0 := by
    rintro ⟨g, hg, offset, size, hoffset, -⟩
    obtain rfl | rfl : g = 0 ∨ g = 1 :=
      Nat.le_one_iff_eq_zero_or_eq_one.mp (Nat.lt_succ_iff.mp (htyped.mem g hg))
    all_goals cases hoffset
  have hrefused := (refused_iff_malformed _ htyped .ansi).2.1 hoverlong
  exact ⟨htyped, hmalformed, hoverlong, hrefused.mpr hmalformed⟩

/-! ### A single query -/

section Single

variable {s : Store} {page limit : Option Int} (hsize : s.queries.size = 1)
  (hselect : s.select 0 = .ofColumn [] page limit)
include hsize hselect

theorem isTyped_of_single : s.IsTyped 0 := by
  refine isTyped_of_later (fun g hg => ?_) (hsize ▸ Nat.one_pos)
  obtain rfl := Nat.lt_one_iff.mp (hsize ▸ hg)
  rw [hselect]
  refine ⟨Select.isTyped_ofColumn nofun, fun g' hg' => ?_⟩
  rw [Select.renders_ofColumn] at hg'
  exact absurd hg' (by simp)

theorem exists_rendered_single_iff {P : Select → Prop} :
    (∃ g, s.Rendered 0 g ∧ P (s.select g)) ↔ P (.ofColumn [] page limit) := by
  rw [← hselect]
  refine ⟨?_, fun h => ⟨0, .refl, h⟩⟩
  rintro ⟨g, hg, h⟩
  obtain rfl := Nat.lt_one_iff.mp (hsize ▸ (isTyped_of_single hsize hselect).mem g hg)
  exact h

theorem not_isMalformed_of_single : ¬ s.IsMalformed 0 := by
  rw [IsMalformed, exists_rendered_single_iff hsize hselect, Select.isMalformed_ofColumn]
  simp

theorem isOverlong_of_single_iff :
    s.IsOverlong 0 ↔ (Select.ofColumn [] page limit).IsOverlong := by
  rw [IsOverlong, exists_rendered_single_iff hsize hselect]

theorem compile_of_single (hlong : (Select.ofColumn [] page limit).IsOverlong) (d : Dialect) :
    s.compile 0 d = .error (.display .tooManyDigits) := by
  have hfails := compile_failsOnly (isTyped_of_single hsize hselect) d
  rw [isOverlong_of_single_iff hsize hselect] at hfails
  cases hcompile : s.compile 0 d with
  | ok statement => exact absurd hlong (hfails.ok_iff.mp ⟨statement, hcompile⟩).2
  | error f =>
    rcases hfails.of_error hcompile with ⟨-, hmalformed⟩ | ⟨rfl, -⟩
    · exact absurd hmalformed (not_isMalformed_of_single hsize hselect)
    · rfl

end Single

/-- A store with a query for a page of `10 ^ k` rows, behind as many pages. -/
def ofPage (k : Nat) : Store where
  queries := #[.ofColumn [] (some (10 ^ k + 1)) (some (10 ^ k))]

/-- A query that is not malformed, and still has no statement. -/
theorem not_refused_overlong : (ofPage 3000).IsTyped 0 ∧ ¬ (ofPage 3000).IsMalformed 0 ∧
    (ofPage 3000).compile 0 .mysql = .error (.display .tooManyDigits) := by
  have hselect : ∀ k, (ofPage k).select 0 = .ofColumn [] (some (10 ^ k + 1)) (some (10 ^ k)) :=
    fun _ => rfl
  exact ⟨isTyped_of_single rfl (hselect 3000), not_isMalformed_of_single rfl (hselect 3000),
    compile_of_single rfl (hselect 3000) (Select.isOverlong_ofColumn (by decide)) .mysql⟩

end Store

end FluentSql
