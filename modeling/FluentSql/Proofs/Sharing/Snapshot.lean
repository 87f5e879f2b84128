import Mathlib.Data.Fintype.EquivFin
import FluentSql.Proofs.Operand.Compile
import FluentSql.Proofs.Sharing.Calls
import FluentSql.Rehearsal

/-!
# Snapshots of queries

Query builders embed one another by reference, and a query is compiled from what its builder and
those that it embeds hold at that time. If no query contains itself, this unfolds to a finite tree
(`Store.exists_unfolds`), and the query compiles as the tree does (`Store.compiles_its_snapshot`).
-/

namespace FluentSql

open Marked

/-! ### Snapshots -/

/-- A query with those that it embeds: a finite tree that refers to no store. The embedded queries
stand under the handles by which the model refers to them. -/
inductive Snapshot where
  | node (model : Select) (nested : List (Handle × Snapshot))

namespace Snapshot

variable (d : Dialect)

mutual

/-- The statement of a snapshot. -/
def compile : Snapshot → Except Fault Statement
  | node model nested => model.compile ⟨d, compileNested nested⟩
termination_by structural tree => tree

/-- The statement of one of several snapshots. There is none for a query that is not among them. -/
def compileNested : List (Handle × Snapshot) → Handle → Except Fault Statement
  | [], _ => .error (.display .endless)
  | (g, tree) :: rest, h => if g = h then tree.compile else compileNested rest h
termination_by structural nested => nested

end

mutual

/-- How many levels a snapshot has. -/
def height : Snapshot → Nat
  | node _ nested => heightNested nested + 1
termination_by structural tree => tree

/-- How many levels the highest of several snapshots has. -/
def heightNested : List (Handle × Snapshot) → Nat
  | [] => 0
  | (_, tree) :: rest => max tree.height (heightNested rest)
termination_by structural nested => nested

end

variable {d} {nested : List (Handle × Snapshot)}

theorem height_le_of_mem {e : Handle × Snapshot} (he : e ∈ nested) :
    e.2.height ≤ heightNested nested := by
  induction nested with
  | nil => cases he
  | cons e' rest ih =>
    rw [heightNested]
    rcases List.mem_cons.mp he with rfl | he
    · exact Nat.le_max_left _ _
    · exact (ih he).trans (Nat.le_max_right _ _)

/-- Where the snapshots of a query all have one statement, it is found for the query. -/
theorem compileNested_of_mem {c : Handle → Except Fault Statement}
    (hc : ∀ e ∈ nested, c e.1 = e.2.compile d) {e : Handle × Snapshot} (he : e ∈ nested) :
    compileNested d nested e.1 = c e.1 := by
  induction nested with
  | nil => cases he
  | cons e' rest ih =>
    rw [compileNested]
    split
    · rename_i heq
      rw [← hc e' List.mem_cons_self, heq]
    · rename_i hne
      have hrest : e ∈ rest := (List.mem_cons.mp he).resolve_left fun heq => hne (heq ▸ rfl)
      exact ih (fun e he => hc e (List.mem_cons_of_mem e' he)) hrest

theorem compileNested_of_not_mem {g : Handle} (hg : ¬∃ tree, (g, tree) ∈ nested) :
    compileNested d nested g = .error (.display .endless) := by
  induction nested with
  | nil => rfl
  | cons e rest ih =>
    have hne : e.1 ≠ g := fun heq => hg ⟨e.2, heq ▸ List.mem_cons_self⟩
    rw [compileNested, if_neg hne]
    exact ih fun ⟨tree, htree⟩ => hg ⟨tree, List.mem_cons_of_mem e htree⟩

/-- A snapshot compiles as its model does with the texts of the embedded queries. -/
theorem compile_node {q : Select} {m : Handle → Except Fault (Marked Value)}
    (hall : ∀ g, q.Embeds g → ∃ tree, (g, tree) ∈ nested)
    (hnested : ∀ e ∈ nested, (m e.1).map statement = e.2.compile d) :
    (q.marked ⟨d, m⟩).map statement = (node q nested).compile d := by
  classical
  -- a scope that has just the queries of the snapshot
  let m' : Handle → Except Fault (Marked Value) := fun g =>
    if ∃ tree, (g, tree) ∈ nested then m g else .error (.display .endless)
  have hscope : (⟨d, compileNested d nested⟩ : Scope) = (⟨d, m'⟩ : MarkedScope).scope := by
    refine congrArg (Scope.mk d) (funext fun g => ?_)
    by_cases hg : ∃ tree, (g, tree) ∈ nested
    · obtain ⟨tree, htree⟩ := hg
      have hm' : m' g = m g := if_pos ⟨tree, htree⟩
      change compileNested d nested g = (m' g).map statement
      rw [hm']
      exact compileNested_of_mem (c := fun g => (m g).map statement) hnested htree
    · have hm' : m' g = .error (.display .endless) := if_neg hg
      change compileNested d nested g = (m' g).map statement
      rw [hm', compileNested_of_not_mem hg]
      rfl
  have hsame : q.marked ⟨d, m⟩ = q.marked ⟨d, m'⟩ :=
    Select.marked_congr fun g hg => (if_pos (hall g hg)).symm
  rw [compile, hscope, Select.compile, (q.shows_render _).statement_eq, hsame]

end Snapshot

namespace Store

/-! ### Unfolding -/

/-- A query embeds another one. -/
def Encloses (s : Store) (h g : Handle) : Prop :=
  (s.select h).Embeds g

/-- No query contains itself. -/
def IsAcyclic (s : Store) : Prop :=
  ∀ h, ¬Relation.TransGen s.Encloses h h

/-- A query unfolds to a tree: its model as it is now, with a tree for each query that it embeds. -/
inductive Unfolds (s : Store) : Handle → Snapshot → Prop where
  | node {h : Handle} {nested : List (Handle × Snapshot)}
      (hall : ∀ g, s.Encloses h g → ∃ tree, (g, tree) ∈ nested)
      (honly : ∀ e ∈ nested, s.Encloses h e.1) (hnested : ∀ e ∈ nested, Unfolds s e.1 e.2) :
      Unfolds s h (.node (s.select h) nested)

variable {s : Store} {d : Dialect} {g h : Handle} {tree : Snapshot}

/-- A store of finitely many queries, none of which contains itself, is well-founded. -/
theorem IsAcyclic.wellFounded (hacyclic : s.IsAcyclic) :
    WellFounded fun g h : Fin s.queries.size => Relation.TransGen s.Encloses h g := by
  have : IsTrans (Fin s.queries.size) fun g h => Relation.TransGen s.Encloses h g :=
    ⟨fun _ _ _ hbelow habove => habove.trans hbelow⟩
  have : Std.Irrefl fun g h : Fin s.queries.size => Relation.TransGen s.Encloses h g :=
    ⟨fun h => hacyclic h⟩
  exact Finite.wellFounded_of_trans_of_irrefl _

theorem Encloses.lt (hs : s.IsSound) (hh : h < s.queries.size) (hg : s.Encloses h g) :
    g < s.queries.size :=
  embeds_within (P := s.Holds) hs hh hg

/-- **Every query unfolds**, if none contains itself. -/
theorem exists_unfolds (hs : s.IsSound) (hacyclic : s.IsAcyclic) (hh : h < s.queries.size) :
    ∃ tree, s.Unfolds h tree := by
  classical
  suffices hall : ∀ h : Fin s.queries.size, ∃ tree, s.Unfolds h tree from hall ⟨h, hh⟩
  intro h
  induction h using hacyclic.wellFounded.induction with | _ h ih => ?_
  -- every query has a tree here, so that one can be chosen for each; those of others are not used
  have hnested : ∀ g : Fin s.queries.size, ∃ tree, s.Encloses h g → s.Unfolds g tree := by
    intro g
    by_cases hg : s.Encloses h g
    · obtain ⟨tree, htree⟩ := ih g (.single hg)
      exact ⟨tree, fun _ => htree⟩
    · exact ⟨.node (s.select h) [], fun hembeds => absurd hembeds hg⟩
  choose tree htree using hnested
  let enclosed : List (Fin s.queries.size) :=
    (List.finRange s.queries.size).filter fun g => s.Encloses h g
  let nested : List (Handle × Snapshot) := enclosed.map fun g => (g.val, tree g)
  refine ⟨.node (s.select h) nested, .node ?_ ?_ ?_⟩
  · intro g hg
    refine ⟨tree ⟨g, hg.lt hs h.isLt⟩, List.mem_map.mpr ⟨⟨g, hg.lt hs h.isLt⟩, ?_, rfl⟩⟩
    simpa [enclosed] using hg
  all_goals
    intro e he
    obtain ⟨g, hg, rfl⟩ := List.mem_map.mp he
    have hencloses : s.Encloses h g := by simpa [enclosed] using hg
  · exact hencloses
  · exact htree g hencloses

/-! ### Compilation -/

/-- A query compiles as its tree, if the depth is not less than the height of the tree. -/
theorem Unfolds.compileWithin_eq (hu : s.Unfolds h tree) {depth : Nat}
    (hdepth : tree.height ≤ depth) : s.compileWithin d depth h = tree.compile d := by
  induction hu generalizing depth with
  | @node h nested hall honly hnested ih =>
    obtain ⟨depth, rfl⟩ := Nat.exists_eq_succ_of_ne_zero (Nat.ne_zero_of_lt hdepth)
    rw [compileWithin_eq_marked, markedWithin]
    refine Snapshot.compile_node hall fun e he => ?_
    rw [← compileWithin_eq_marked]
    exact ih e he ((Snapshot.height_le_of_mem he).trans (Nat.le_of_succ_le_succ hdepth))

theorem compileWithin_of_size_le (hs : s.IsSound) (hh : h < s.queries.size) {depth : Nat}
    (hdepth : s.queries.size ≤ depth) : s.compileWithin d depth h = s.compile h d := by
  have hreach : ∀ g, s.Reaches h g → g < s.queries.size :=
    fun g hg => reaches_within (P := s.Holds) hs hh hg
  rw [compileWithin_eq_marked, compile_eq_marked, markedWithin_of_size_le hreach hdepth]

theorem Unfolds.compile_eq (hu : s.Unfolds h tree) (hs : s.IsSound) (hh : h < s.queries.size) :
    s.compile h d = tree.compile d := calc
  s.compile h d = s.compileWithin d (max s.queries.size tree.height) h :=
    (compileWithin_of_size_le hs hh (Nat.le_max_left _ _)).symm
  _ = tree.compile d := hu.compileWithin_eq (Nat.le_max_right _ _)

/-- A query compiles as its model, with the queries of the store as they are now. -/
theorem compile_eq_select (hs : s.IsSound) (hh : h < s.queries.size) (d : Dialect) :
    s.compile h d = (s.select h).compile (s.scope d) :=
  (compileWithin_of_size_le hs hh s.queries.size.le_succ).symm

/-- A statement shows the queries that it embeds as they are now, as often as they are embedded. -/
theorem exists_woven_of_compile {statement : Statement} (h : s.compile g d = .ok statement) :
    ∃ text : Marked Value, text.statement = statement ∧
      Woven (s.Shows d) (s.select g).pieces text := by
  obtain ⟨text, htext, hstatement⟩ := exists_marked_of_compile h
  exact ⟨text, hstatement, woven_of_marked htext⟩

/-- **Live, shared queries compile as their snapshot.** In a store that is built by calls and has no
query that contains itself, every query unfolds to a tree. It compiles as the tree does, which takes
no more levels than the tree has, and leaves everything as it is. After any call on a query builder,
it compiles as its model with the queries of the store as they are then: so a change to one that it
embeds shows, as often as it is embedded. A change to objects that it does not lead to does not. -/
theorem compiles_its_snapshot (hs : s.Built) (hacyclic : s.IsAcyclic) (hh : h < s.queries.size)
    (d : Dialect) :
    (∃ tree, s.Unfolds h tree) ∧
      (∀ tree, s.Unfolds h tree → s.compile h d = tree.compile d ∧
        ∀ depth, tree.height ≤ depth → s.compileWithin d depth h = tree.compile d) ∧
      ∀ {σ : Type} (w : Workspace σ), w.store = s →
        (∀ dialect reply, QueryCall.compiled h dialect reply w =
          ((s.compileIn h dialect).map reply, w)) ∧
        ∀ (b : Backend σ) (g : Handle) (a : Arguments) (callback : Option (Callback σ))
          (name : String) (signature : Signature) (t : Task σ Reply),
          QueryCall.ofName? b g a callback name = some (signature, t) →
          (∀ e ∈ a.given, e.2.Within s.Holds) → ∀ u, u = (t w).2.store →
          u.compile h d = (u.select h).compile (u.scope d) ∧
          (∀ statement, u.compile h d = .ok statement → ∃ text : Marked Value,
            text.statement = statement ∧ Woven (u.Shows d) (u.select h).pieces text) ∧
          ((∀ o, QueryCall.Changes s g a name o → ¬s.Leads (.query h) o) →
            u.compile h d = s.compile h d) := by
  have hsound := hs.sound
  refine ⟨exists_unfolds hsound hacyclic hh, fun tree hu => ?_, ?_⟩
  · exact ⟨hu.compile_eq hsound hh, fun depth hdepth => hu.compileWithin_eq hdepth⟩
  rintro σ w rfl
  refine ⟨fun dialect reply => QueryCall.compiled_eq h dialect reply w, ?_⟩
  rintro b g a callback name signature t hcall ha u rfl
  have hevolves := QueryCall.evolves b callback hcall hsound ha
  have hholds : (t w).2.store.Holds (.query h) := hevolves.holds (.query h) hh
  refine ⟨compile_eq_select hevolves.sound hholds d, ?_, fun hchanges => ?_⟩
  · exact fun statement hcompile => exists_woven_of_compile hcompile
  · exact (hevolves.compile_eq hsound hh hchanges d).symm

/-! ### A store of three queries -/

/-- A workspace with three queries to which nothing was added. -/
def threeQueries : Workspace Rehearsal where
  store := (List.range 3).foldl (fun s _ => (Building.newQuery .null .null s).2) {}
  world := {}

/-- Orders with the number of all lines, which is a query by itself, and one more query. -/
def ofThree : Store :=
  (callAll Rehearsal.backend
    [(0, "add_table", ⟨[("table", .text "orders"), ("alias", .text "o")]⟩),
      (0, "add_field", ⟨[("table", .text "o"), ("column", .text "id")]⟩),
      (0, "add_sub_query", ⟨[("query", .ofQuery 1), ("alias", .text "total")]⟩),
      (1, "add_table", ⟨[("table", .text "lines"), ("alias", .text "l")]⟩),
      (1, "count", ⟨[("table", .text "l"), ("column", .text "id")]⟩)] threeQueries).store

theorem built_ofThree : ofThree.Built := by
  have hholds : threeQueries.store.Holds (.query 1) := Nat.lt_succ_of_lt Nat.one_lt_two
  refine .callAll _ (((Built.empty.newQuery _ _).newQuery _ _).newQuery _ _) ?_
  simpa [Value.ofQuery, or_imp, forall_and] using hholds

theorem conditions_ofThree (h : Handle) : (ofThree.select h).conditions = .list [] := by
  match h with
  | 0 | 1 | 2 => rfl
  | _ + 3 => rfl

/-- Only the first query embeds another one, which is the second. -/
theorem encloses_ofThree (hg : ofThree.Encloses h g) : h = 0 ∧ g = 1 := by
  rcases hg with ⟨f, hf, hg⟩ | ⟨items, hitems, v, hv, -⟩
  · match h with
    | 0 =>
      obtain ⟨labels, hfields⟩ : ∃ labels, (ofThree.select 0).fields =
          [.column (.text "o") (.text "id") .null,
            .subquery (.query 1 labels) (.text "total")] := ⟨_, rfl⟩
      rw [hfields] at hf
      rcases List.mem_pair.mp hf with rfl | rfl
      · exact hg.elim
      · obtain ⟨_, ⟨⟩⟩ := hg
        exact ⟨rfl, rfl⟩
    | 1 =>
      have hfields : (ofThree.select 1).fields =
          [.function (.text "COUNT") (.column (.text "l") (.text "id")) .null .null none] := rfl
      rw [hfields] at hf
      obtain rfl := List.mem_singleton.mp hf
      simp [Field.Embeds, Value.Refers] at hg
    | 2 | _ + 3 => cases hf
  · rw [conditions_ofThree] at hitems
    obtain rfl := Except.ok.inj hitems
    cases hv

theorem isAcyclic_ofThree : ofThree.IsAcyclic := by
  intro h hcycle
  obtain ⟨_, hhead, -⟩ := Relation.TransGen.head'_iff.mp hcycle
  obtain ⟨_, -, htail⟩ := Relation.TransGen.tail'_iff.mp hcycle
  cases (encloses_ofThree hhead).1.symm.trans (encloses_ofThree htail).2

/-- The objects of the first two queries. -/
def IsOfFirstTwo : Object → Prop
  | .query h | .list h => h < 2
  | _ => False

theorem isClosed_firstTwo : ofThree.IsClosed IsOfFirstTwo := by
  rintro (h | h | _ | _ | _) ho
  · obtain rfl | rfl : h = 0 ∨ h = 1 := Nat.le_one_iff_eq_zero_or_eq_one.mp (Nat.le_of_lt_succ ho)
    · obtain ⟨labels, hvalues⟩ : ∃ labels, ofThree.values (.query 0) =
          [.text "o", .text "id", .null, .query 1 labels, .text "total", .null, .text "orders",
            .text "o", .record [], .join .inner, .sharedList 0] := ⟨_, rfl⟩
      simp [hvalues, Value.within_record, Value.EntriesWithin, IsOfFirstTwo]
    · have hvalues : ofThree.values (.query 1) =
          [.text "COUNT", .column (.text "l") (.text "id"), .null, .null, .null, .text "lines",
            .text "l", .record [], .join .inner, .sharedList 1] := rfl
      simp [hvalues, Value.within_record, Value.EntriesWithin, IsOfFirstTwo]
  · obtain rfl | rfl : h = 0 ∨ h = 1 := Nat.le_one_iff_eq_zero_or_eq_one.mp (Nat.le_of_lt_succ ho)
    all_goals exact nofun
  all_goals exact ho.elim

/-- A table that is added to the third query does not show in the first. -/
theorem compiles_its_snapshot_ofThree :
    ofThree.Built ∧ ofThree.IsAcyclic ∧ 0 < ofThree.queries.size ∧
      (∃ tree, ofThree.Unfolds 0 tree ∧ ofThree.compile 0 .mysql = tree.compile .mysql) ∧
      ∃ signature t, QueryCall.ofName? Rehearsal.backend 2 ⟨[("table", .text "notes")]⟩ none
          "add_table" = some (signature, t) ∧
        (t ⟨ofThree, {}, []⟩).2.store.compile 0 .mysql = ofThree.compile 0 .mysql := by
  have hsize : 0 < ofThree.queries.size := Nat.zero_lt_succ 2
  obtain ⟨⟨tree, htree⟩, hcompiles, hcalls⟩ :=
    compiles_its_snapshot built_ofThree isAcyclic_ofThree hsize .mysql
  refine ⟨built_ofThree, isAcyclic_ofThree, hsize, ⟨tree, htree, (hcompiles tree htree).1⟩, ?_⟩
  have hcall := (hcalls ⟨ofThree, {}, []⟩ rfl).2 Rehearsal.backend 2
    ⟨[("table", .text "notes")]⟩ none "add_table" _ _ rfl (by simp) _ rfl
  refine ⟨_, _, rfl, hcall.2.2 fun o ho hleads => ?_⟩
  have hquery : IsOfFirstTwo (.query 0) := Nat.two_pos
  have hfirst : IsOfFirstTwo o := hleads.within isClosed_firstTwo hquery
  cases o with
  | query k =>
    obtain rfl | ⟨hcopy, -⟩ := ho
    · exact Nat.lt_irrefl 2 hfirst
    · simp at hcopy
  | list l =>
    cases ho
    exact Nat.lt_irrefl 2 hfirst
  | session k => exact absurd ho.1 (by decide)
  | _ => exact ho

end Store

end FluentSql
