import Mathlib.Logic.Relation
import FluentSql.Building
import FluentSql.Proofs.Operand.Pieces
import FluentSql.Proofs.Outline.Nesting

/-!
# What compiled queries bind

A compiled query shows its columns as quoted references and its queries in parentheses, and binds
neither (`Store.compile_binds_no_operand`). The value of a pattern test is the exception: there a
column is bound like any other value (`Store.binds_column_of_pattern`).
-/

namespace FluentSql

open Marked

namespace Store

/-- What the text of a query shows for a piece, with the text of each other query at hand. -/
def Shows (s : Store) (d : Dialect) : Piece → Marked Value → Prop :=
  MarkedScope.Shows ⟨d, fun g => s.marked g d⟩

/-- A query is among the pieces of another one. -/
def Nests (s : Store) (h g : Handle) : Prop :=
  ∃ v : Value, .operand v ∈ (s.select h).pieces ∧ v.Refers g

/-- The queries that are part of the text of a query: itself, and those that any of them shows. -/
def Shown (s : Store) : Handle → Handle → Prop :=
  Relation.ReflTransGen s.Nests

variable {s : Store} {d : Dialect} {h g : Handle} {t : Marked Value} {v : Value}

/-- The text of a query is woven from its pieces, with the texts of other queries in their places. -/
theorem woven_of_marked (ht : s.marked h d = .ok t) :
    Woven (s.Shows d) (s.select h).pieces t := by
  rw [marked] at ht
  cases hsize : s.queries.size with
  | zero =>
    rw [hsize] at ht
    cases ht
  | succ depth =>
    rw [hsize] at ht
    have hwoven := (s.select h).marked_woven ⟨d, s.markedWithin d depth⟩ t ht
    have hdepth : depth ≤ s.queries.size := hsize ▸ Nat.le_succ depth
    exact hwoven.mono fun p u => .mono fun g u hu => markedWithin_mono hdepth hu

/-- Every query that is part of the text of a query has a text of its own. -/
theorem exists_marked_of_shown (ht : s.marked h d = .ok t) (hg : s.Shown h g) :
    ∃ u, s.marked g d = .ok u := by
  induction hg with
  | refl => exact ⟨t, ht⟩
  | tail _ hnests ih =>
    obtain ⟨u, hu⟩ := ih
    obtain ⟨v, hv, labels, rfl⟩ := hnests
    obtain ⟨w, hw⟩ := (woven_of_marked hu).exists_of_mem hv
    cases hw with
    | query hg => exact ⟨_, hg⟩
    | value hv => cases hv

/-- What a query binds is a bound value, or it is bound as the value of a pattern test or as a
separator of a query that is part of its text. -/
theorem bound_of_mem_values {depth : Nat} (ht : s.markedWithin d depth h = .ok t)
    (hv : v ∈ t.values) : v.isBound = true ∨ ∃ g, s.Shown h g ∧
      (.matched v ∈ (s.select g).pieces ∨ .separator v ∈ (s.select g).pieces) := by
  induction depth generalizing h t with
  | zero => cases ht
  | succ depth ih =>
    have hwoven := (s.select h).marked_woven ⟨d, s.markedWithin d depth⟩ t ht
    obtain ⟨p, hp, u, hu, hvu⟩ := hwoven.exists_of_mem_values hv
    cases hu with
    | column =>
      rw [values_plain] at hvu
      cases hvu
    | @query g labels u hu =>
      -- whatever the nested query binds, it binds by itself, one level down
      have hnested : v ∈ u.values := by simpa using hvu
      have hnests : s.Nests h g := ⟨_, hp, labels, rfl⟩
      exact (ih hu hnested).imp_right fun ⟨g', hg', hpiece⟩ => ⟨g', .head hnests hg', hpiece⟩
    | value hbound =>
      obtain rfl := List.mem_singleton.mp hvu
      exact .inl hbound
    | matched =>
      obtain rfl := List.mem_singleton.mp hvu
      exact .inr ⟨h, .refl, .inl hp⟩
    | separator =>
      obtain rfl := List.mem_singleton.mp hvu
      exact .inr ⟨h, .refl, .inr hp⟩

/-- **Operands are shown as what they are.** If a query compiles, then so does every query that is
part of its text, and the text of each is woven from its pieces: a column is a quoted reference, a
query stands in parentheses with all that it binds, and any other operand is a placeholder. So no
column and no query is bound, except where values are bound whatever they are: as the value of a
pattern test, which is never a query, and as a separator. -/
theorem compile_binds_no_operand (s : Store) (h : Handle) (d : Dialect) {statement : Statement}
    (hcompile : s.compile h d = .ok statement) :
    (∀ v ∈ statement.params, v.isBound = true ∨ ∃ g, s.Shown h g ∧
      (v.isQuery = false ∧ .matched v ∈ (s.select g).pieces ∨
        .separator v ∈ (s.select g).pieces)) ∧
      ∀ g, s.Shown h g → ∃ t, s.marked g d = .ok t ∧ s.compile g d = .ok t.statement ∧
        Woven (s.Shows d) (s.select g).pieces t := by
  obtain ⟨t, ht, rfl⟩ := exists_marked_of_compile hcompile
  refine ⟨fun v hv => ?_, fun g hg => ?_⟩
  · refine (bound_of_mem_values ht hv).imp_right ?_
    rintro ⟨g, hg, hmatched | hseparator⟩
    · exact ⟨g, hg, .inl ⟨Select.isQuery_of_matched hmatched, hmatched⟩⟩
    · exact ⟨g, hg, .inr hseparator⟩
  · obtain ⟨u, hu⟩ := exists_marked_of_shown ht hg
    refine ⟨u, hu, ?_, woven_of_marked hu⟩
    rw [compile_eq_marked, hu]
    rfl

/-- A store with a query for the rows with a name that is like a pattern. -/
def ofPattern (pattern : Value) : Store :=
  let build : Building Unit := do
    let h ← Building.newQuery .null (.text "mysql")
    Building.addTable h .null (.text "c") .null .null .null
    Building.addField h (.column (.text "c") (.text "id") .null)
    Building.like h (.text "c") (.text "name") pattern (.text "AND")
  (build {}).2

theorem compile_ofPattern_column :
    (ofPattern (.column (.text "o") (.text "pattern"))).compile 0 .mysql =
      .ok ⟨"SELECT `c`.`id` FROM `c` WHERE `c`.`name` LIKE CONCAT('%', ?, '%')",
        [.column (.text "o") (.text "pattern")]⟩ := by
  rfl

theorem compile_binds_no_operand_pattern :
    ∃ statement, (ofPattern (.column (.text "o") (.text "pattern"))).compile 0 .mysql =
      .ok statement ∧ ∀ v ∈ statement.params, v.isBound = true ∨
        ∃ g, (ofPattern (.column (.text "o") (.text "pattern"))).Shown 0 g ∧
          (v.isQuery = false ∧
              .matched v ∈ ((ofPattern (.column (.text "o") (.text "pattern"))).select g).pieces ∨
            .separator v ∈ ((ofPattern (.column (.text "o") (.text "pattern"))).select g).pieces) :=
  ⟨_, compile_ofPattern_column,
    (compile_binds_no_operand _ 0 .mysql compile_ofPattern_column).1⟩

/-- A column is bound, though it is no bound value: as the value of a pattern test, it is no
reference in the text but a placeholder. -/
theorem binds_column_of_pattern :
    ¬ ∀ (s : Store) (h : Handle) (d : Dialect) (statement : Statement),
      s.compile h d = .ok statement → ∀ v ∈ statement.params, v.isBound = true := by
  intro hbound
  have hcolumn := hbound _ 0 .mysql _ compile_ofPattern_column (.column (.text "o") (.text "pattern"))
    List.mem_cons_self
  cases hcolumn

end Store

end FluentSql
