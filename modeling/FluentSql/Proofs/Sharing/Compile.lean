import FluentSql.Proofs.Outline.Nesting
import FluentSql.Proofs.Sharing.Depth

/-!
# What a compiled query depends on

The model of a query leads nowhere but to the objects that its builder leads to, and so do the
queries that it embeds. Two stores that agree on all of these compile the query alike, whatever else
they hold (`Store.compile_congr`).
-/

namespace FluentSql

open Marked

/-! ### Queries inside of values -/

namespace Value

variable {P : Object → Prop} {v w : Value} {k : Handle}

/-- The items of a value lead nowhere else. -/
theorem Within.items (hv : v.Within P) {items : List Value} (h : v.items = .ok items) :
    ∀ w ∈ items, w.Within P := by
  intro w hw
  cases v with
  | list vs | tuple vs | set frozen vs =>
    obtain rfl := Except.ok.inj h
    exact hv.part hw
  | record entries =>
    obtain rfl := Except.ok.inj h
    obtain ⟨e, he, rfl⟩ := List.mem_map.mp hw
    exact hv.part (List.mem_flatMap.mpr ⟨e, he, by simp⟩)
  | text s =>
    obtain rfl := Except.ok.inj h
    obtain ⟨c, -, rfl⟩ := List.mem_map.mp hw
    exact within_of_object rfl nofun
  | bytes bs =>
    obtain rfl := Except.ok.inj h
    obtain ⟨b, -, rfl⟩ := List.mem_map.mp hw
    exact within_of_object rfl nofun
  | _ => cases h

theorem Within.of_refers (hv : v.Within P) (hk : v.Refers k) : P (.query k) := by
  obtain ⟨labels, rfl⟩ := hk
  exact hv.object rfl

theorem Within.members (hv : v.Within P) {items : List Value} (h : v.members? = some items) :
    ∀ w ∈ items, w.Within P := by
  intro w hw
  cases v with
  | list vs | tuple vs | set frozen vs =>
    obtain rfl := Option.some.inj h
    exact hv.part hw
  | _ => cases h

/-- The queries among the operands of a node are parts of it. -/
theorem Within.of_embeds (hv : v.Within P) (hk : (Condition.ofValue v).Embeds k) :
    P (.query k) := by
  cases v with
  | comparison left right operator combinator =>
    have hright : right.Within P := hv.part (by simp [parts])
    rcases hk with hk | hk | ⟨items, hitems, w, hw, hk⟩
    · exact (hv.part (by simp [parts])).of_refers hk
    · exact hright.of_refers hk
    · exact (hright.members hitems w hw).of_refers hk
  | _ => exact hk.elim

end Value

/-- A query that a field embeds is one of its values. -/
theorem Field.exists_refers_of_embeds {f : Field} {k : Handle} (hk : f.Embeds k) :
    ∃ v ∈ f.values, v.Refers k := by
  cases f with
  | function name source distinct aliasName argument =>
    rcases hk with hk | ⟨v, hv, hk⟩
    · exact ⟨source, by simp [values], hk⟩
    · exact ⟨v, List.mem_append_right _ (Option.mem_toList.mpr hv), hk⟩
  | subquery query aliasName => exact ⟨query, by simp [values], hk⟩
  | _ => exact hk.elim

theorem Field.values_map (f : Value → Value) (a : Field) : (a.map f).values = a.values.map f := by
  cases a with
  | function name source distinct aliasName argument => cases argument <;> rfl
  | _ => rfl

/-- A query builder whose model leads to objects of `P` only. -/
structure QueryBuilder.Within (P : Object → Prop) (q : QueryBuilder) : Prop where
  fields : ∀ f ∈ q.fields, ∀ v ∈ f.values, v.Within P
  tables : ∀ t ∈ q.tables, ∀ v ∈ t.values, v.Within P
  conditions : q.conditions.Within P
  order : ∀ k ∈ q.order, ∀ v ∈ k.values, v.Within P

theorem QueryBuilder.within_iff {P : Object → Prop} {q : QueryBuilder} :
    q.Within P ↔ ∀ v ∈ q.values, v.Within P := by
  constructor
  · intro hq v hv
    simp only [values, List.mem_append, List.mem_flatMap, List.mem_singleton] at hv
    rcases hv with ((⟨f, hf, hv⟩ | ⟨t, ht, hv⟩) | rfl) | ⟨k, hk, hv⟩
    · exact hq.fields f hf v hv
    · exact hq.tables t ht v hv
    · exact hq.conditions
    · exact hq.order k hk v hv
  · intro h
    simp only [values, List.mem_append, List.mem_flatMap, List.mem_singleton] at h
    exact
      { fields := fun f hf v hv => h v (.inl (.inl (.inl ⟨f, hf, hv⟩)))
        tables := fun t ht v hv => h v (.inl (.inl (.inr ⟨t, ht, hv⟩)))
        conditions := h _ (.inl (.inr rfl))
        order := fun k hk v hv => h v (.inr ⟨k, hk, hv⟩) }

namespace Store

variable {s u : Store} {P : Object → Prop} {g h k : Handle}

/-! ### Models -/

section Closed

variable (hclosed : s.IsClosed P)
include hclosed

theorem settle_within {v : Value} (hv : v.Within P) : (s.settle v).Within P :=
  settleWithin_within hclosed _ false {} hv

theorem opened_within {v : Value} (hv : v.Within P) : (s.opened v).Within P := by
  cases v with
  | sharedList l =>
    have hitems : ∀ w ∈ s.list l, w.Within P := hclosed (.list l) (hv.object rfl)
    exact Value.within_of_parts rfl hitems
  | sharedRecord r =>
    have hentries : ∀ w ∈ (s.record r).flatMap fun e => [e.1, e.2], w.Within P :=
      hclosed (.record r) (hv.object rfl)
    exact Value.within_of_parts rfl hentries
  | _ => exact hv

theorem query_within (hg : P (.query g)) : (s.query g).Within P :=
  QueryBuilder.within_iff.mpr (hclosed _ hg)

theorem conditions_within (hg : P (.query g)) : (s.conditions g).Within P :=
  opened_within hclosed (query_within hclosed hg).conditions

/-- A query leads to the queries that it embeds. -/
theorem embeds_within (hg : P (.query g)) (hk : (s.select g).Embeds k) : P (.query k) := by
  rcases hk with ⟨f', hf', hk⟩ | ⟨items, hitems, v, hv, hk⟩
  · obtain ⟨f, hf, rfl⟩ := List.mem_map.mp hf'
    obtain ⟨v', hv', hk⟩ := Field.exists_refers_of_embeds hk
    rw [Field.values_map] at hv'
    obtain ⟨v, hv, rfl⟩ := List.mem_map.mp hv'
    exact (settle_within hclosed ((query_within hclosed hg).fields f hf v hv)).of_refers hk
  · have hconditions : (s.settle (s.conditions g)).Within P :=
      settle_within hclosed (conditions_within hclosed hg)
    exact (hconditions.items hitems v hv).of_embeds hk

theorem reaches_within (hh : P (.query h)) (hg : s.Reaches h g) : P (.query g) := by
  induction hg with
  | refl => exact hh
  | step _ hembeds ih => exact embeds_within hclosed ih hembeds

variable (hsame : ∀ o, P o → s.SameAt u o)
include hsame

/-- The model of a query is the same in two stores that agree on what it leads to. -/
theorem select_congr (hg : P (.query g)) : s.select g = u.select g := by
  have hmodel : (s.query g).SameModel (u.query g) := hsame _ hg
  have hsettle : ∀ v : Value, v.Within P → s.settle v = u.settle v :=
    fun v hv => settle_congr hclosed hsame hv
  have hconditions : s.conditions g = u.conditions g := by
    rw [conditions, conditions, ← hmodel.conditions]
    exact opened_congr hsame (query_within hclosed hg).conditions
  have hfields : (s.query g).fields.map (Field.map s.settle) =
      (s.query g).fields.map (Field.map u.settle) := by
    refine List.map_congr_left fun f hf => Field.map_congr fun v hv => ?_
    exact hsettle v ((query_within hclosed hg).fields f hf v hv)
  have htables : (s.query g).tables.map (Table.map s.settle) =
      (s.query g).tables.map (Table.map u.settle) := by
    refine List.map_congr_left fun t ht => Table.map_congr fun v hv => ?_
    exact hsettle v ((query_within hclosed hg).tables t ht v hv)
  have horder : (s.query g).order.map (SortKey.map s.settle) =
      (s.query g).order.map (SortKey.map u.settle) := by
    refine List.map_congr_left fun key hkey => SortKey.map_congr fun v hv => ?_
    exact hsettle v ((query_within hclosed hg).order key hkey v hv)
  rw [select, select, hfields, htables, horder, hsettle _ (conditions_within hclosed hg),
    hconditions, hmodel.fields, hmodel.tables, hmodel.order, hmodel.page, hmodel.limit]

/-! ### Compilation -/

theorem markedWithin_congr (d : Dialect) (depth : Nat) (hg : P (.query g)) :
    s.markedWithin d depth g = u.markedWithin d depth g := by
  induction depth generalizing g with
  | zero => rfl
  | succ depth ih =>
    rw [markedWithin, markedWithin, ← select_congr hclosed hsame hg]
    exact Select.marked_congr fun k hk => ih (embeds_within hclosed hg hk)

/-- **A query compiles alike** in two stores that agree on what it leads to, if both have all of the
queries that it embeds. -/
theorem compile_congr (hlt : ∀ g, P (.query g) → g < s.queries.size ∧ g < u.queries.size)
    (hh : P (.query h)) (d : Dialect) : s.compile h d = u.compile h d := by
  have hreach : ∀ g, u.Reaches h g → P (.query g) := by
    intro g hg
    induction hg with
    | refl => exact hh
    | step _ hembeds ih =>
      rw [← select_congr hclosed hsame ih] at hembeds
      exact embeds_within hclosed ih hembeds
  have hmarked : s.marked h d = u.marked h d := calc
    s.marked h d = s.markedWithin d (max s.queries.size u.queries.size) h :=
      (markedWithin_of_size_le (fun g hg => (hlt g (reaches_within hclosed hh hg)).1)
        (Nat.le_max_left _ _)).symm
    _ = u.markedWithin d (max s.queries.size u.queries.size) h :=
      markedWithin_congr hclosed hsame d _ hh
    _ = u.marked h d :=
      markedWithin_of_size_le (fun g hg => (hlt g (hreach g hg)).2) (Nat.le_max_right _ _)
  rw [compile_eq_marked, compile_eq_marked, hmarked]

end Closed

end Store

end FluentSql
