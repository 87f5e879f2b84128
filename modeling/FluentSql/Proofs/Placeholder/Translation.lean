import FluentSql.Adapter.Mysql
import FluentSql.Adapter.Postgresql
import FluentSql.Proofs.Placeholder.Verbatim

/-!
# Statements survive the translation of their placeholders

A client of the style `format` gets a statement with its placeholders converted, and expands it.
Whatever the identifiers of a query or a write are, the client arrives at the compiled text with
each value in its own place. This follows from the form of marked text alone
(`Marked.Lexed.survives`).
-/

namespace FluentSql

open Marked

/-! ### Writes -/

namespace Write

variable (w : Write) (d : Dialect)

theorem lexed_markedRow (values : List Value) : Lexed (markedRow values) := by
  refine .plain_append (by decide) ((Lexed.intercalate (by decide) (by decide) ?_).append_plain
    (by decide))
  intro t ht
  obtain ⟨v, _, rfl⟩ := List.mem_map.mp ht
  exact .bound v

theorem gives_markedEqualities (entries : List (Value × Value)) :
    Gives (markedEqualities d entries) fun texts => ∀ t ∈ texts, Lexed t := by
  have hequality : ∀ e ∈ entries, Gives (markedEquality d e) Lexed := by
    intro e _
    refine Gives.bind (P := fun name => Lexed (plain name : Marked Value)) ?_
      fun name hname => .ok ?_
    · exact Gives.map (.trivial _) fun text _ => d.lexed_quote text
    · rw [Marked.plain_append, List.append_assoc]
      exact hname.append_plain_append (by decide) (by decide) (.bound e.2)
  exact fun texts htexts => (Gives.mapM hequality texts htexts).2

theorem gives_markedConditions : Gives (w.markedConditions d) Lexed :=
  (gives_markedEqualities d w.conditions).bind fun _ htests =>
    .ok (.intercalate (by decide) (by decide) htests)

theorem gives_reference :
    Gives (w.reference d) fun text => Lexed (plain text : Marked Value) :=
  d.gives_qualifiedName [w.schema, w.table]

theorem gives_renderUpsert :
    Gives (w.renderUpsert d) fun text => Lexed (plain text : Marked Value) ∧
      Apart (plain text : Marked Value) := by
  rw [renderUpsert]
  split
  · exact .ok ⟨.nil, apart_nil⟩
  · refine Gives.map (P := fun text => Lexed (plain text : Marked Value)) ?_ fun text htext => ?_
    · rw [Dialect.upsertOf]
      split
      · exact .error _
      · refine .bind (.trivial _) fun names _ => .bind (.trivial _) fun updated _ =>
          .bind (.trivial _) fun conflict _ => ?_
        intro clause hclause
        cases hu : d.upsert updated conflict with
        | ok text =>
          rw [hu] at hclause
          cases hclause
          exact d.lexed_upsert hu
        | error f =>
          rw [hu] at hclause
          cases hclause
    · rw [Marked.plain_append]
      exact ⟨.plain_append (by decide) htext, apart_plain_append (by decide) (by decide) _⟩

theorem gives_markedInsert : Gives (w.markedInsert d) Lexed := by
  rw [markedInsert]
  split
  · exact .error _
  · split
    · exact .error _
    · refine .bind (.trivial _) fun rows _ => .bind (.trivial _) fun columns _ => ?_
      refine (w.gives_reference d).bind fun table htable => ?_
      refine (w.gives_renderUpsert d).bind fun upsert hupsert => .ok ?_
      have hrows : Lexed (intercalate ", " (rows.map markedRow)) := by
        refine .intercalate (by decide) (by decide) ?_
        intro t ht
        obtain ⟨row, _, rfl⟩ := List.mem_map.mp ht
        exact lexed_markedRow row
      have hend := hrows.append hupsert.1 hupsert.2
      simp only [Marked.plain_append, List.append_assoc]
      refine .plain_append (by decide) (htable.append_plain_append (by decide) (by decide) ?_)
      exact (d.lexed_quotedList columns).append_plain_append (by decide) (by decide) hend

theorem gives_markedUpdate : Gives (w.markedUpdate d) Lexed := by
  rw [markedUpdate]
  split
  · exact .error _
  · split
    · split
      · exact .error _
      · split
        · refine (gives_markedEqualities d _).bind fun assignments hassignments => ?_
          refine (w.gives_reference d).bind fun table htable => ?_
          refine (w.gives_markedConditions d).bind fun conditions hconditions => .ok ?_
          simp only [Marked.plain_append, List.append_assoc]
          refine .plain_append (by decide) (htable.append_plain_append (by decide) (by decide) ?_)
          exact (Lexed.intercalate (by decide) (by decide) hassignments).append_plain_append
            (by decide) (by decide) hconditions
        · exact .error _
    · exact .error _

theorem gives_markedDelete : Gives (w.markedDelete d) Lexed := by
  rw [markedDelete]
  split
  · exact .error _
  · refine (w.gives_reference d).bind fun table htable => ?_
    refine (w.gives_markedConditions d).bind fun conditions hconditions => .ok ?_
    simp only [Marked.plain_append, List.append_assoc]
    exact .plain_append (by decide) (htable.append_plain_append (by decide) (by decide) hconditions)

/-- The marked text of a write is lexed, whatever its identifiers are. -/
theorem gives_marked (kind : WriteKind) : Gives (w.marked kind d) Lexed := by
  cases kind with
  | insert => exact w.gives_markedInsert d
  | update => exact w.gives_markedUpdate d
  | delete => exact w.gives_markedDelete d

end Write

/-! ### What arrives -/

/-- The marked text that a client of the style `format` arrives at. It expands a text only if it
gets arguments. -/
def Placeholder.received : Value → Value → Option (Marked Value)
  | .text sql, .null => some (plain sql)
  | .text sql, .list args => expand sql.toList args
  | _, _ => none

namespace Adapter

/-- Both drivers of the style `format` execute a statement with its arguments, and fetch. -/
theorem query_eq {σ : Type} (k : Client σ) (c : Connection) {sql params text arguments : Value}
    (ht : formatStatement sql params = .ok text) (ha : formatArguments params = .ok arguments) :
    Mysql.query k c sql params = (k.execute c text (some arguments) >>= Mysql.fetch k c) ∧
      Postgresql.query k c sql params =
        (k.execute c text (some arguments) >>= Postgresql.fetch k c) := by
  rw [Mysql.query, Postgresql.query, ht, ha]
  exact ⟨rfl, rfl⟩

end Adapter

/-- A statement survives its translation if the conversion finds exactly the placeholders of the
marked text it was read off, and each driver of the style `format` has its client execute a text
with arguments at which the client arrives at that marked text: every value in its own place, and
all other characters unchanged. Without values the text is passed on as it is. -/
structure Survives (statement : Statement) (t : Marked Value) : Prop where
  sql_eq : t.sql = statement.sql
  values_eq : t.values = statement.params
  marks_eq : Placeholder.marks statement.sql.toList = t.marks
  executed : ∃ text arguments,
    (∀ (σ : Type) (k : Client σ) (c : Connection),
      Adapter.Mysql.query k c (.text statement.sql) (.list statement.params) =
          (k.execute c text (some arguments) >>= Adapter.Mysql.fetch k c) ∧
        Adapter.Postgresql.query k c (.text statement.sql) (.list statement.params) =
          (k.execute c text (some arguments) >>= Adapter.Postgresql.fetch k c)) ∧
      Placeholder.received text arguments = some t ∧
      (if statement.params.isEmpty then text = .text statement.sql ∧ arguments = .null
        else arguments = .list statement.params)

/-- Marked text without markers. -/
theorem Marked.eq_plain_of_values {t : Marked Value} (h : t.values = []) : plain t.sql = t := by
  rw [plain, sql, String.toList_ofList, List.map_map]
  have hglyphs : ∀ g ∈ t, (Glyph.letter ∘ Glyph.char) g = g := by
    intro g hg
    cases g with
    | letter c => rfl
    | marker v =>
      have hvalue : Glyph.value? (Glyph.marker v) = none := List.filterMap_eq_nil_iff.mp h _ hg
      cases hvalue
  exact (List.map_congr_left hglyphs).trans (List.map_id t)

/-- The statement that is read off lexed text survives. -/
theorem Marked.Lexed.survives {t : Marked Value} (h : Lexed t) : Survives t.statement t := by
  have hmarks : Placeholder.marks t.sql.toList = t.marks := by
    rw [sql, String.toList_ofList]
    exact h.marks_eq
  refine ⟨rfl, rfl, hmarks, ?_⟩
  -- without values nothing is converted and nothing expanded, else both happen and cancel out
  cases hvalues : t.values with
  | nil =>
    refine ⟨.text t.sql, .null, fun σ k c => ?_, ?_, ?_⟩
    · rw [statement, hvalues]
      exact Adapter.query_eq k c rfl rfl
    · exact congrArg some (eq_plain_of_values hvalues)
    · rw [statement, hvalues]
      exact ⟨rfl, rfl⟩
  | cons v vs =>
    refine ⟨.text (Placeholder.convert .format t.sql), .list (v :: vs), fun σ k c => ?_, ?_, ?_⟩
    · rw [statement, hvalues]
      exact Adapter.query_eq k c rfl rfl
    · rw [Placeholder.received, Placeholder.convert, String.toList_ofList, Placeholder.toFormat_eq,
        hmarks, flatMap_formatted_marks, ← hvalues]
      exact Placeholder.expand_formatted t
    · rw [statement, hvalues]
      rfl

/-- **Compiled statements survive the translation of their placeholders.** In every dialect, a query
whose fragments that are written as given are clean, and likewise every write, makes statements
that survive, whatever its identifiers are. -/
theorem compiled_statements_survive (s : Store) (d : Dialect) :
    (∀ h, s.IsClean h → Gives (s.compile h d) fun statement =>
      ∃ t, s.marked h d = .ok t ∧ Survives statement t) ∧
    ∀ (w : Write) (kind : WriteKind), Gives (w.compile kind d) fun statement =>
      ∃ t, w.marked kind d = .ok t ∧ Survives statement t := by
  constructor
  · intro h hclean
    have hcompile : s.compile h d = (s.marked h d).map statement :=
      s.compileWithin_eq_marked d s.queries.size h
    rw [hcompile]
    intro statement hstatement
    cases hm : s.marked h d with
    | error f =>
      rw [hm] at hstatement
      cases hstatement
    | ok t =>
      rw [hm] at hstatement
      cases hstatement
      exact ⟨t, rfl, (s.gives_marked d hclean t hm).survives⟩
  · intro w kind statement hstatement
    rw [w.compile_eq_marked d kind] at hstatement
    cases hm : w.marked kind d with
    | error f =>
      rw [hm] at hstatement
      cases hstatement
    | ok t =>
      rw [hm] at hstatement
      cases hstatement
      exact ⟨t, rfl, (w.gives_marked d kind t hm).survives⟩

/-- A store with one query, on a column whose name has a placeholder and every kind of quotes. -/
def Store.ofOddColumn : Store where
  queries := #[{
    fields := [.column .null (.text "a?\"'%") .null]
    tables := [{ schema := .null, table := .text "t" }]
    conditions := .list [.comparison (.column .null (.text "b")) (.int 1) (.text "=") .null] }]

theorem compiled_statements_survive_odd_column :
    Store.ofOddColumn.IsClean 0 ∧
      (∃ statement t, Store.ofOddColumn.compile 0 .postgresql = .ok statement ∧
        Survives statement t) ∧
      ∃ statement t, Write.compile { table := .text "?", conditions := [(.text "'", .int 1)] }
        .delete .mysql = .ok statement ∧ Survives statement t := by
  have hselect : Store.ofOddColumn.select 0 = {
      fields := [.column .null (.text "a?\"'%") .null]
      tables := [{ schema := .null, table := .text "t" }]
      conditions := .list [.comparison (.column .null (.text "b")) (.int 1) (.text "=") .null]
      order := [], page := none, limit := none } := rfl
  have hreach : ∀ g, Store.ofOddColumn.Reaches 0 g → g = 0 := by
    intro g hg
    induction hg with
    | refl => rfl
    | step _ hembeds ih =>
      subst ih
      rw [hselect] at hembeds
      rcases hembeds with ⟨f, hf, hh⟩ | ⟨items, hitems, v, hv, hh⟩
      · obtain rfl := List.mem_singleton.mp hf
        exact hh.elim
      · cases hitems
        obtain rfl := List.mem_singleton.mp hv
        rcases hh with ⟨_, hh⟩ | ⟨_, hh⟩ | ⟨_, hh, _⟩ <;> cases hh
  have hclean : Store.ofOddColumn.IsClean 0 := by
    intro g hg
    obtain rfl := hreach g hg
    rw [hselect]
    refine ⟨?_, ?_, .ok ?_, nofun⟩
    · intro f hf
      obtain rfl := List.mem_singleton.mp hf
      trivial
    · intro t ht
      obtain rfl := List.mem_singleton.mp ht
      exact Table.isClean_of_join rfl
    · intro v hv
      obtain rfl := List.mem_singleton.mp hv
      exact ⟨.ok (by decide), .ok (by decide)⟩
  refine ⟨hclean, ?_, ?_⟩
  · obtain ⟨t, -, ht⟩ :=
      (compiled_statements_survive Store.ofOddColumn .postgresql).1 0 hclean _ rfl
    exact ⟨_, t, rfl, ht⟩
  · obtain ⟨t, -, ht⟩ := (compiled_statements_survive {} .mysql).2
      { table := .text "?", conditions := [(.text "'", .int 1)] } .delete _ rfl
    exact ⟨_, t, rfl, ht⟩

end FluentSql
