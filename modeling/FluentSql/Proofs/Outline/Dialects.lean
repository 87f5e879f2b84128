import FluentSql.Proofs.Outline.Written
import FluentSql.Proofs.Sharing.Depth

/-!
# One dialect for a whole query

A query and everything that is nested in it are written in the dialect that is asked for. The
sessions and dialects of the builders play no part in it, and what is written is one outline, which
knows no dialect: so the dialect changes the text only, and neither the parameters nor the faults.
-/

namespace FluentSql

open Marked Outline

/-! ### What an outline binds -/

/-- The value of a glyph of an outline. -/
def Glyph.binding? : Glyph Token → Option Value
  | .marker (.value v) => some v
  | _ => none

/-- The values that an outline binds, in order. -/
def Outline.bindings (o : Outline) : List Value :=
  o.filterMap Glyph.binding?

/-- A dialect writes no glyph with other values than those that it binds. -/
theorem Outline.values_writeGlyph (d : Dialect) (g : Glyph Token) :
    (writeGlyph d g).values = g.binding?.toList := by
  cases g with
  | letter c => rfl
  | marker a =>
    cases a with
    | value v => rfl
    | name s => exact values_plain (d.quote s)
    | opening => cases d <;> exact values_plain _
    | gap => cases d <;> exact values_plain _
    | page offset size => exact values_plain (d.limit offset size)

/-- **The dialect does not change what is bound.** -/
theorem Outline.values_write (d : Dialect) (o : Outline) : (write d o).values = o.bindings := by
  induction o with
  | nil => rfl
  | cons g o ih =>
    rw [write, List.flatMap_cons, values_append, values_writeGlyph, ← write, ih, bindings,
      bindings, List.filterMap_cons]
    cases g.binding? <;> rfl

namespace Store

/-- A query compiles to its outline, written in the dialect that is asked for. -/
theorem compile_eq_written (s : Store) (h : Handle) (d : Dialect) :
    s.compile h d = (s.outlined h).map fun o => (Outline.write d o).statement := by
  have hwritten := (s.markedWithin_written d s.queries.size h).written.eq
  rw [compile_eq_marked, marked, hwritten, outlined]
  cases s.outlinedWithin s.queries.size h <;> rfl

/-! ### Builders in other dialects -/

/-- Two stores whose query builders have the same models, over the same objects. The dialects and
sessions of the builders may differ, and so may the adapters of the sessions. -/
structure SameModels (s t : Store) : Prop where
  size : s.queries.size = t.queries.size
  query (h : Handle) : (s.query h).SameModel (t.query h)
  list (h : Handle) : s.list h = t.list h
  record (h : Handle) : s.record h = t.record h
  write (h : Handle) : (s.write h).write = (t.write h).write
  session (h : Handle) : (s.session h).session = (t.session h).session

variable {s t : Store}

theorem SameModels.sameAt (hst : s.SameModels t) (o : Object) : s.SameAt t o := by
  cases o with
  | query h => exact hst.query h
  | list h => exact hst.list h
  | record h => exact hst.record h
  | write h => exact hst.write h
  | session h => exact hst.session h

theorem SameModels.settle_eq (hst : s.SameModels t) : s.settle = t.settle :=
  funext fun _ => settle_congr (P := fun _ => True) (fun _ _ _ _ _ _ => trivial)
    (fun o _ => hst.sameAt o) fun _ _ => trivial

theorem SameModels.select_eq (hst : s.SameModels t) : s.select = t.select := by
  funext h
  have hmodel := hst.query h
  have hconditions : s.conditions h = t.conditions h := by
    rw [conditions, conditions, ← hmodel.conditions]
    exact opened_congr (P := fun _ => True) (fun o _ => hst.sameAt o) fun _ _ => trivial
  rw [select, select, hst.settle_eq, hmodel.fields, hmodel.tables, hconditions, hmodel.order,
    hmodel.page, hmodel.limit]

theorem SameModels.compile_eq (hst : s.SameModels t) : s.compile = t.compile := by
  have hwithin : ∀ d depth, s.compileWithin d depth = t.compileWithin d depth := by
    intro d depth
    induction depth with
    | zero => rfl
    | succ depth ih =>
      funext h
      rw [compileWithin, compileWithin, ih, hst.select_eq]
  funext h d
  rw [compile, compile, hwithin, hst.size]

/-! ### Compilation -/

/-- A value that is not null says in which dialect to compile, or is refused. -/
theorem compileIn_of_not_null (s : Store) (h : Handle) {v : Value} (hv : v.isNull = false) :
    s.compileIn h v = (Dialect.ofValue v).bind (s.compile h) := by
  simp only [compileIn, requestedDialect, hv]
  generalize s.compile h = compiled
  cases Dialect.ofValue v <;> rfl

/-- **The dialect that is asked for is the only one.** A query with all that is nested in it is one
outline, written in that dialect, whatever the sessions and dialects of its builders are. A call
with a dialect compiles in that one. In any two dialects a query is refused with the same faults,
and binds the same parameters. -/
theorem compiles_in_one_dialect (s : Store) (h : Handle) :
    (∀ d, s.compile h d = (s.outlined h).map fun o => (Outline.write d o).statement) ∧
      (∀ v : Value, v.isNull = false →
        s.compileIn h v = (Dialect.ofValue v).bind (s.compile h) ∧
          ∀ t, s.SameModels t → t.compileIn h v = s.compileIn h v) ∧
      ∀ d d', (∀ f, s.compile h d = .error f ↔ s.compile h d' = .error f) ∧
        ∀ a b, s.compile h d = .ok a → s.compile h d' = .ok b → a.params = b.params := by
  refine ⟨s.compile_eq_written h, fun v hv => ?_, fun d d' => ?_⟩
  · refine ⟨compileIn_of_not_null s h hv, fun t hst => ?_⟩
    rw [compileIn_of_not_null s h hv, compileIn_of_not_null t h hv, hst.compile_eq]
  · have hagree : Agree (fun a b : Statement => a.params = b.params) (s.compile h d)
        (s.compile h d') := by
      rw [s.compile_eq_written h d, s.compile_eq_written h d']
      exact .map_same _ fun o => (values_write d o).trans (values_write d' o).symm
    refine ⟨hagree.error_iff, fun a b ha hb => ?_⟩
    obtain ⟨c, hc, hparams⟩ := hagree.exists_ok ha
    rw [hparams, Except.ok.inj (hb.symm.trans hc)]

/-- A store with a query that embeds a second one, each for a dialect of its own. -/
def inDialects (d d' : Dialect) : Store where
  queries := #[
    { dialect := some d, fields := [.subquery (.ofQuery 1) (.text "sub")],
      tables := [⟨.null, .text "t", .null, .record [], .join .inner⟩] },
    { dialect := some d', fields := [.column (.text "u") (.text "id") .null],
      tables := [⟨.null, .text "u", .null, .record [], .join .inner⟩],
      page := some 2, limit := some 5 }]

theorem compiles_in_one_dialect_nested :
    (inDialects .mysql .sqlite).SameModels (inDialects .ansi .mysql) ∧
      (Value.text "postgresql").isNull = false ∧
      (inDialects .mysql .sqlite).compileIn 0 (.text "postgresql") =
        (inDialects .mysql .sqlite).compile 0 .postgresql ∧
      (inDialects .ansi .mysql).compileIn 0 (.text "postgresql") =
        (inDialects .mysql .sqlite).compileIn 0 (.text "postgresql") := by
  have hsame : (inDialects .mysql .sqlite).SameModels (inDialects .ansi .mysql) := by
    refine ⟨rfl, fun h => ?_, fun _ => rfl, fun _ => rfl, fun _ => rfl, fun _ => rfl⟩
    match h with
    | 0 | 1 | h + 2 => exact ⟨rfl, rfl, rfl, rfl, rfl, rfl⟩
  obtain ⟨hasked, hothers⟩ :=
    (compiles_in_one_dialect (inDialects .mysql .sqlite) 0).2.1 (.text "postgresql") rfl
  exact ⟨hsame, rfl, hasked, hothers _ hsame⟩

end Store

end FluentSql
