import FluentSql.Proofs.Sharing.Evolution

/-!
# How builders evolve

Each call that shapes a query builder changes the builder or the list of its conditions, or gives a
copy of the conditions to another builder. Whatever it stores comes from its arguments or from
objects that are there.
-/

namespace FluentSql

/-! ### Values made of other values -/

theorem mem_of_lookup {κ α : Type} [BEq κ] {entries : List (κ × α)} {key : κ} {a : α}
    (h : entries.lookup key = some a) : ∃ k, (k, a) ∈ entries := by
  induction entries with
  | nil => cases h
  | cons e rest ih =>
    rw [List.lookup_cons] at h
    split at h
    · obtain rfl := Option.some.inj h
      exact ⟨e.1, List.mem_cons_self⟩
    · obtain ⟨k, hk⟩ := ih h
      exact ⟨k, List.mem_cons_of_mem e hk⟩

namespace Value

variable {P : Object → Prop} {v w : Value}

/-- Entries that lead to objects of `P` only. -/
def EntriesWithin (P : Object → Prop) (entries : List (Value × Value)) : Prop :=
  ∀ e ∈ entries, e.1.Within P ∧ e.2.Within P

theorem within_record {entries : List (Value × Value)} :
    (Value.record entries).Within P ↔ EntriesWithin P entries := by
  constructor
  · intro h e he
    have hparts : ∀ u ∈ [e.1, e.2], u.Within P :=
      fun u hu => h.part (List.mem_flatMap.mpr ⟨e, he, hu⟩)
    exact ⟨hparts _ (by simp), hparts _ (by simp)⟩
  · intro h
    refine within_of_parts rfl fun u hu => ?_
    obtain ⟨e, he, hu⟩ := List.mem_flatMap.mp hu
    simp only [List.mem_cons, List.not_mem_nil, or_false] at hu
    rcases hu with rfl | rfl
    · exact (h e he).1
    · exact (h e he).2

@[simp]
theorem within_list {items : List Value} : (list items).Within P ↔ ∀ u ∈ items, u.Within P :=
  ⟨fun h _ hu => h.part hu, fun h => within_of_parts rfl h⟩

@[simp]
theorem within_tuple {items : List Value} : (tuple items).Within P ↔ ∀ u ∈ items, u.Within P :=
  ⟨fun h _ hu => h.part hu, fun h => within_of_parts rfl h⟩

@[simp]
theorem within_column : (column v w).Within P ↔ v.Within P ∧ w.Within P := by
  refine ⟨fun h => ⟨h.part (by simp [parts]), h.part (by simp [parts])⟩, fun h => ?_⟩
  refine within_of_parts rfl fun u hu => ?_
  simp only [parts, List.mem_cons, List.not_mem_nil, or_false] at hu
  rcases hu with rfl | rfl
  · exact h.1
  · exact h.2

@[simp]
theorem within_null : null.Within P :=
  within_of_object rfl nofun

@[simp]
theorem within_text (s : String) : (text s).Within P :=
  within_of_object rfl nofun

@[simp]
theorem within_bool (b : Bool) : (bool b).Within P :=
  within_of_object rfl nofun

@[simp]
theorem within_join (j : Join) : (join j).Within P :=
  within_of_object rfl nofun

@[simp]
theorem within_query {h : Handle} {labels : Labels} : (query h labels).Within P ↔ P (.query h) := by
  refine ⟨fun hv => hv.object rfl, fun hh => within_of_object rfl ?_⟩
  rintro _ ⟨⟩
  exact hh

@[simp]
theorem within_sharedList {l : Handle} : (sharedList l).Within P ↔ P (.list l) := by
  refine ⟨fun hv => hv.object rfl, fun hl => within_of_object rfl ?_⟩
  rintro _ ⟨⟩
  exact hl

theorem EntriesWithin.putEntry {entries : List (Value × Value)} (h : EntriesWithin P entries)
    (hv : v.Within P) (hw : w.Within P) : EntriesWithin P (putEntry v w entries) := by
  induction entries with
  | nil =>
    intro e he
    obtain rfl := List.mem_singleton.mp he
    exact ⟨hv, hw⟩
  | cons e rest ih =>
    have hrest : EntriesWithin P rest := fun e' he' => h e' (List.mem_cons_of_mem e he')
    rw [FluentSql.putEntry]
    split
    · intro e' he'
      rcases List.mem_cons.mp he' with rfl | he'
      · exact ⟨(h e List.mem_cons_self).1, hw⟩
      · exact hrest e' he'
    · intro e' he'
      rcases List.mem_cons.mp he' with rfl | he'
      · exact h _ List.mem_cons_self
      · exact ih hrest e' he'

theorem EntriesWithin.putEntries {entries more : List (Value × Value)}
    (h : EntriesWithin P entries) (hmore : EntriesWithin P more) :
    EntriesWithin P (putEntries entries more) := by
  induction more generalizing entries with
  | nil => exact h
  | cons e rest ih =>
    have he := hmore e List.mem_cons_self
    exact ih (h.putEntry he.1 he.2) fun e' he' => hmore e' (List.mem_cons_of_mem e he')

theorem items_within (hv : v.Within P) : Gives v.items fun items => ∀ u ∈ items, u.Within P :=
  fun _ h => hv.items h

theorem entryOf_within (hv : v.Within P) (position : Nat) :
    Gives (entryOf position v) fun e => e.1.Within P ∧ e.2.Within P := by
  refine (items_within hv).bind fun parts hparts => ?_
  split
  · exact (Gives.trivial _).map fun _ _ => ⟨hparts _ (by simp), hparts _ (by simp)⟩
  · exact .error _

theorem entriesFrom_within {pairs : List Value} (h : ∀ u ∈ pairs, u.Within P) (position : Nat) :
    Gives (entriesFrom position pairs) (EntriesWithin P) := by
  induction pairs generalizing position with
  | nil => exact .ok nofun
  | cons pair rest ih =>
    have hrest := ih (fun u hu => h u (List.mem_cons_of_mem pair hu)) (position + 1)
    refine (entryOf_within (h pair List.mem_cons_self) position).bind fun e he => ?_
    exact hrest.bind fun es hes => .ok (List.forall_mem_cons.mpr ⟨he, hes⟩)

theorem entries_within (hv : v.Within P) : Gives v.entries (EntriesWithin P) := by
  have hitems : Gives v.itemsIfGiven fun items => ∀ u ∈ items, u.Within P := by
    rw [itemsIfGiven]
    split
    · exact items_within hv
    · exact .ok nofun
  unfold entries
  split
  · exact .ok (within_record.mp hv)
  · exact hitems.bind fun items hitems => (entriesFrom_within hitems 0).bind fun es hes =>
      .ok (EntriesWithin.putEntries nofun hes)

theorem itemAt_within {items : List Value} (h : ∀ u ∈ items, u.Within P) (position : Int) :
    Gives (itemAt items position) (Within P) := by
  unfold itemAt
  extract_lets place
  split
  · exact .error _
  · split
    · rename_i hget
      exact .ok (h _ (List.mem_of_getElem? hget))
    · exact .error _

theorem item_within (hv : v.Within P) (index : Value) : Gives (v.item index) (Within P) := by
  cases v with
  | list | tuple | text | bytes =>
    rw [item]
    split
    · exact .error _
    · exact (items_within hv).bind fun items hitems => itemAt_within hitems _
  | record entries =>
    refine (Gives.trivial index.checkKey).bind fun _ _ => ?_
    split
    · rename_i hw
      obtain ⟨k, hk⟩ := mem_of_lookup hw
      exact .ok (within_record.mp hv _ hk).2
    · exact (Gives.trivial index.quoted).bind fun _ _ => .error _
  | _ => exact .error _

end Value

/-! ### Builders -/

namespace QueryBuilder

variable {P : Object → Prop} {q : QueryBuilder}

/-- A builder that nothing was added to. -/
theorem within_empty : ({} : QueryBuilder).Within P where
  fields := nofun
  tables := nofun
  conditions := Value.within_list.mpr nofun
  order := nofun

theorem Within.addTable (hq : q.Within P) {t : Table} (ht : ∀ v ∈ t.values, v.Within P) :
    (q.addTable t).Within P :=
  { hq with tables := List.forall_mem_append.mpr ⟨hq.tables, by simpa using ht⟩ }

theorem Within.addField (hq : q.Within P) {f : Field} (hf : ∀ v ∈ f.values, v.Within P) :
    (q.addField f).Within P :=
  { hq with fields := List.forall_mem_append.mpr ⟨hq.fields, by simpa using hf⟩ }

theorem columnOfPair_within {v : Value} (hv : v.Within P) :
    Gives (columnOfPair v) (Value.Within P) := by
  unfold columnOfPair
  split
  · exact .ok hv
  · exact (Value.item_within hv _).bind fun table ht => (Value.item_within hv _).bind fun c hc =>
      .ok (Value.within_column.mpr ⟨ht, hc⟩)

theorem Within.addConcat (hq : q.Within P) {columns aliasName separator : Value}
    (hcolumns : columns.Within P) (halias : aliasName.Within P) (hseparator : separator.Within P) :
    Gives (q.addConcat columns aliasName separator) (Within P) := by
  refine (Value.items_within hcolumns).bind fun items hitems => ?_
  refine (Gives.mapM fun v hv => columnOfPair_within (hitems v hv)).bind fun columns hcolumns => ?_
  refine .ok (hq.addField ?_)
  simpa [Field.values] using ⟨hcolumns.2, halias, hseparator⟩

theorem directionOf_within (direction : Value) :
    Gives (directionOf direction) (Value.Within P) := by
  unfold directionOf
  split
  · exact .ok Value.within_null
  · split
    · exact .ok (Value.within_text _)
    · exact .ok (Value.within_of_object rfl nofun)
    · exact .error _

theorem Within.addOrder (hq : q.Within P) {table column : Value} (ht : table.Within P)
    (hc : column.Within P) (direction : Value) :
    Gives (q.addOrder table column direction) (Within P) := by
  refine (directionOf_within (P := P) direction).bind fun shown hshown => .ok ?_
  have hkey : ∀ v ∈ SortKey.values ⟨table, column, shown⟩, v.Within P := by
    simpa [SortKey.values] using ⟨ht, hc, hshown⟩
  exact { hq with order := List.forall_mem_append.mpr ⟨hq.order, by simpa using hkey⟩ }

theorem Within.setPage (hq : q.Within P) (page : Value) : Gives (q.setPage page) (Within P) :=
  (Gives.trivial _).bind fun _ _ => .ok { hq with }

theorem Within.setLimit (hq : q.Within P) (limit : Value) : Gives (q.setLimit limit) (Within P) :=
  (Gives.trivial _).bind fun _ _ => .ok { hq with }

end QueryBuilder

namespace Condition

variable {P : Object → Prop}

theorem leftSide_within {table column : Value} (ht : table.Within P) (hc : column.Within P) :
    (leftSide table column).Within P := by
  rw [leftSide]
  split
  · exact ht
  · exact Value.within_column.mpr ⟨ht, hc⟩

theorem membershipSide_within {values : Value} (hv : values.Within P) :
    Gives (membershipSide values) (Value.Within P) := by
  rw [membershipSide]
  split
  · exact .ok hv
  · exact (Value.items_within hv).map fun items hitems => Value.within_list.mpr hitems

end Condition

/-! ### Work on stores -/

namespace Store

variable {s : Store}

theorem openedTwice_within (hs : s.IsSound) {v : Value} (hv : v.Within s.Holds) :
    (s.openedTwice v).Within s.Holds := by
  have hopened := opened_within hs hv
  rw [openedTwice]
  split
  · rename_i items heq
    rw [heq] at hopened
    refine Value.within_list.mpr fun u hu => ?_
    obtain ⟨w, hw, rfl⟩ := List.mem_map.mp hu
    exact opened_within hs (Value.within_list.mp hopened w hw)
  · rename_i items heq
    rw [heq] at hopened
    refine Value.within_tuple.mpr fun u hu => ?_
    obtain ⟨w, hw, rfl⟩ := List.mem_map.mp hu
    exact opened_within hs (Value.within_tuple.mp hopened w hw)
  · exact hopened

/-- Whether a builder is there or not, what it holds is. -/
theorem query_within_holds (hs : s.IsSound) (h : Handle) : (s.query h).Within s.Holds := by
  rcases Nat.lt_or_ge h s.queries.size with hlt | hge
  · exact query_within hs hlt
  · have hempty : s.query h = {} := by simp [query, Array.getD, Nat.not_lt.mpr hge]
    exact hempty ▸ QueryBuilder.within_empty

theorem list_within_holds (hs : s.IsSound) (l : Handle) : ∀ v ∈ s.list l, v.Within s.Holds := by
  rcases Nat.lt_or_ge l s.lists.size with hlt | hge
  · exact hs (.list l) hlt
  · rw [list_of_size_le hge]
    exact nofun

theorem record_within_holds (hs : s.IsSound) (r : Handle) :
    (Value.record (s.record r)).Within s.Holds := by
  rcases Nat.lt_or_ge r s.records.size with hlt | hge
  · exact Value.within_of_parts rfl (hs (.record r) hlt)
  · rw [record_of_size_le hge]
    exact Value.within_of_parts rfl nofun

end Store

namespace Building

open Store

variable {α β γ : Type} {s : Store} {C : Object → Prop}

/-- Work that makes a store evolve. -/
def Evolves (C : Object → Prop) (s : Store) (b : Building α) : Prop :=
  s.Evolves C (b s).2

namespace Evolves

variable {b : Building α} {k : α → Building β}

theorem view_bind {f : Store → α} (h : Evolves C s (k (f s))) :
    Evolves C s (Fallible.view f >>= k) :=
  h

theorem ofExcept_bind (hs : s.IsSound) {m : Except Fault α} {Q : α → Prop} (hm : Gives m Q)
    (hk : ∀ a, Q a → Evolves C s (k a)) : Evolves C s (Fallible.ofExcept m >>= k) := by
  cases m with
  | ok a => exact hk a (hm a rfl)
  | error f => exact .refl hs

theorem bind (h : Evolves C s b) (hk : ∀ a, (b s).1 = .ok a → Evolves C (b s).2 (k a)) :
    Evolves C s (b >>= k) := by
  refine Fallible.bind_snd (P := s.Evolves C) (fun a t hb => ?_) fun f t hb => ?_
  · have ha := hk a (by rw [hb])
    rw [Evolves, hb] at h ha
    exact h.trans ha
  · rw [Evolves, hb] at h
    exact h

end Evolves

variable (hs : s.IsSound)
include hs

theorem editQuery_evolves (h : Handle) {f : QueryBuilder → Except Fault QueryBuilder}
    (hf : Gives (f (s.query h)) (QueryBuilder.Within s.Holds)) :
    Evolves (· = .query h) s (editQuery h f) := by
  rw [Evolves, editQuery]
  cases hq : f (s.query h) with
  | ok q => exact evolves_setQuery hs h (hf q hq)
  | error e => exact .refl hs

theorem append_evolves (l : Handle) {item : Value} (hitem : item.Within s.Holds) :
    Evolves (· = .list l) s (append l item) := by
  refine evolves_setList hs l (List.forall_mem_append.mpr ⟨list_within_holds hs l, ?_⟩)
  simpa using hitem

theorem put_evolves (r : Handle) {key value : Value} (hkey : key.Within s.Holds)
    (hvalue : value.Within s.Holds) : Evolves (· = .record r) s (put r key value) := by
  refine evolves_setRecord hs r (Value.within_record.mpr ?_)
  exact (Value.within_record.mp (record_within_holds hs r)).putEntry hkey hvalue

theorem newList_evolves {items : List Value} (hitems : ∀ v ∈ items, v.Within s.Holds) :
    Evolves C s (newList items) :=
  evolves_pushList hs hitems

theorem newRecord_evolves {entries : List (Value × Value)}
    (hentries : (Value.record entries).Within s.Holds) : Evolves C s (newRecord entries) :=
  evolves_pushRecord hs hentries

/-- A new builder refers to the list that is made with it. -/
theorem newQuery_evolves (session dialect : Value) : Evolves C s (newQuery session dialect) := by
  rw [Evolves, newQuery]
  split
  · exact .refl hs
  · rename_i dialect _
    have hlist : s.Evolves C { s with lists := s.lists.push [] } :=
      evolves_pushList hs (List.forall_mem_nil _)
    refine hlist.trans (evolves_pushQuery hlist.sound ?_)
    have hnew : Value.Within (Store.Holds { s with lists := s.lists.push [] })
        (.sharedList s.lists.size) := by
      simp [Store.Holds]
    exact ⟨List.forall_mem_nil _, List.forall_mem_nil _, hnew, List.forall_mem_nil _⟩

/-! ### Calls that shape a builder -/

omit hs in
/-- The objects that are shaped with a query builder: itself, and the list of its conditions. -/
def Shaped (s : Store) (h : Handle) : Object → Prop
  | .query k => k = h
  | .list l => (s.query h).conditions = .sharedList l
  | _ => False

variable (h : Handle) {table column aliasName : Value}

theorem edit_evolves {f : QueryBuilder → Except Fault QueryBuilder}
    (hf : Gives (f (s.query h)) (QueryBuilder.Within s.Holds)) :
    Evolves (Shaped s h) s (editQuery h f) := by
  refine Store.Evolves.mono (editQuery_evolves hs h hf) ?_
  rintro _ rfl
  rfl

theorem conditionList_bind {k : Handle → Building β}
    (hk : ∀ l, Shaped s h (.list l) → Evolves C s (k l)) :
    Evolves C s (conditionList h >>= k) := by
  rw [conditionList, bind_assoc]
  refine .view_bind ?_
  split
  · rename_i l hlist
    exact hk l hlist
  · exact .refl hs

theorem combinatorOf_bind (combinator : Value) {k : Value → Building β}
    (hk : ∀ text, Evolves C s (k (.text text))) : Evolves C s (combinatorOf combinator >>= k) := by
  simp only [combinatorOf, bind_assoc, pure_bind]
  exact .view_bind (.ofExcept_bind hs (Gives.trivial _) fun text _ => hk text)

omit hs in
theorem namedColumn_bind (ht : table.Within s.Holds) (hc : column.Within s.Holds)
    {k : Value → Building β}
    (hk : ∀ source : Value, source.Within s.Holds → Evolves C s (k source)) :
    Evolves C s (namedColumn table column >>= k) := by
  rw [namedColumn, bind_assoc]
  refine .view_bind (hk _ ?_)
  split
  · exact Value.within_column.mpr ⟨ht, hc⟩
  · exact Value.within_null

theorem append_shapes {l : Handle} (hl : Shaped s h (.list l)) {item : Value}
    (hitem : item.Within s.Holds) : Evolves (Shaped s h) s (append l item) := by
  refine Store.Evolves.mono (append_evolves hs l hitem) ?_
  rintro _ rfl
  exact hl

theorem addTable_evolves {schema joins : Value} (join : Value) (hschema : schema.Within s.Holds)
    (ht : table.Within s.Holds) (ha : aliasName.Within s.Holds) (hj : joins.Within s.Holds) :
    Evolves (Shaped s h) s (addTable h schema table aliasName joins join) := by
  refine .view_bind (.ofExcept_bind hs (Value.entries_within (openedTwice_within hs hj)) ?_)
  intro entries hentries
  refine .ofExcept_bind hs (Gives.trivial _) fun j _ => edit_evolves hs h (.ok ?_)
  refine (query_within_holds hs h).addTable ?_
  simpa [Table.values] using ⟨hschema, ht, ha, Value.within_record.mpr hentries⟩

theorem addField_evolves {f : Field} (hf : ∀ v ∈ f.values, v.Within s.Holds) :
    Evolves (Shaped s h) s (addField h f) :=
  edit_evolves hs h (.ok ((query_within_holds hs h).addField hf))

theorem addConcat_evolves {columns separator : Value} (hcolumns : columns.Within s.Holds)
    (ha : aliasName.Within s.Holds) (hseparator : separator.Within s.Holds) :
    Evolves (Shaped s h) s (addConcat h columns aliasName separator) := by
  refine .view_bind (edit_evolves hs h ?_)
  exact (query_within_holds hs h).addConcat (openedTwice_within hs hcolumns) ha hseparator

theorem count_evolves {distinct : Value} (ht : table.Within s.Holds) (hc : column.Within s.Holds)
    (ha : aliasName.Within s.Holds) (hd : distinct.Within s.Holds) :
    Evolves (Shaped s h) s (count h table column aliasName distinct) := by
  refine namedColumn_bind ht hc fun source hsource => addField_evolves hs h ?_
  simpa [Field.values] using ⟨hsource, hd, ha⟩

theorem addFunction_evolves {name distinct : Value} {argument : Option Value}
    (hname : name.Within s.Holds) (ht : table.Within s.Holds) (hc : column.Within s.Holds)
    (ha : aliasName.Within s.Holds) (hd : distinct.Within s.Holds)
    (hargument : ∀ v ∈ argument, v.Within s.Holds) :
    Evolves (Shaped s h) s (addFunction h name table column aliasName distinct argument) := by
  have hfield : ∀ source : Value, source.Within s.Holds →
      Evolves (Shaped s h) s (addField h (.function name source distinct aliasName argument)) := by
    intro source hsource
    refine addField_evolves hs h ?_
    simpa [Field.values, or_imp, forall_and] using ⟨hname, hsource, hd, ha, hargument⟩
  rw [addFunction]
  split
  · exact hfield table ht
  · exact namedColumn_bind ht hc hfield

theorem addOrder_evolves (direction : Value) (ht : table.Within s.Holds)
    (hc : column.Within s.Holds) :
    Evolves (Shaped s h) s (addOrder h table column direction) :=
  .view_bind (edit_evolves hs h ((query_within_holds hs h).addOrder ht hc _))

theorem setPaging_evolves (page limit : Value) :
    Evolves (Shaped s h) s (setPaging h page limit) := by
  have hpage : Evolves (· = .query h) s (editQuery h (·.setPage page)) :=
    editQuery_evolves hs h ((query_within_holds hs h).setPage page)
  have hboth : Evolves (· = .query h) s (setPaging h page limit) := by
    refine hpage.bind fun _ _ => editQuery_evolves hpage.sound h ?_
    exact (query_within_holds hpage.sound h).setLimit limit
  refine Store.Evolves.mono hboth ?_
  rintro _ rfl
  rfl

theorem addMark_evolves {mark : Value → Value}
    (hmark : ∀ text, (mark (.text text)).Within s.Holds) (combinator : Value) :
    Evolves (Shaped s h) s (addMark mark h combinator) :=
  conditionList_bind hs h fun _ hl => combinatorOf_bind hs combinator fun text =>
    append_shapes hs h hl (hmark text)

theorem compare_evolves {value operator : Value} (combinator : Value) (ht : table.Within s.Holds)
    (hc : column.Within s.Holds) (hv : value.Within s.Holds) (ho : operator.Within s.Holds) :
    Evolves (Shaped s h) s (compare h table column value operator combinator) := by
  refine conditionList_bind hs h fun l hl => .view_bind ?_
  refine combinatorOf_bind hs combinator fun text => append_shapes hs h hl ?_
  refine Value.within_of_parts rfl ?_
  have hoperator : Value.Within s.Holds (if s.given operator then operator else .text "=") := by
    split
    · exact ho
    · exact Value.within_text _
  simpa [Value.parts] using ⟨Condition.leftSide_within ht hc, hv, hoperator⟩

theorem compareBy_evolves (operator : String) {value : Value} (combinator : Value)
    (ht : table.Within s.Holds) (hc : column.Within s.Holds) (hv : value.Within s.Holds) :
    Evolves (Shaped s h) s (compareBy operator h table column value combinator) :=
  compare_evolves hs h combinator ht hc hv (Value.within_text operator)

theorem member_evolves (operator : String) {values : Value} (combinator : Value)
    (ht : table.Within s.Holds) (hc : column.Within s.Holds) (hv : values.Within s.Holds) :
    Evolves (Shaped s h) s (member operator h table column values combinator) :=
  .view_bind (.ofExcept_bind hs (Condition.membershipSide_within (opened_within hs hv))
    fun _ hside => compareBy_evolves hs h operator combinator ht hc hside)

/-- Conditions that are given as a list are kept in a list of their own. -/
theorem setConditions_evolves {conditions : Value} (hc : conditions.Within s.Holds) :
    Evolves (· = .query h) s (setConditions h conditions) := by
  unfold setConditions
  split
  · rename_i items
    have hlist : Evolves (· = .query h) s (newList items) :=
      newList_evolves hs (Value.within_list.mp hc)
    refine hlist.bind fun l hl => editQuery_evolves hlist.sound h (.ok ?_)
    obtain rfl : s.lists.size = l := Except.ok.inj hl
    have hnew : Value.Within (newList items s).2.Holds (.sharedList s.lists.size) := by
      simp [newList, Store.Holds]
    exact { query_within_holds hlist.sound h with conditions := hnew }
  · exact editQuery_evolves hs h (.ok { query_within_holds hs h with conditions := hc })

/-- The target gets a copy, and the builder itself does not change. -/
theorem copyConditions_evolves (target : Value) :
    Evolves (fun o => ∃ k, o = .query k ∧ target.Refers k) s (copyConditions h target) := by
  unfold copyConditions
  split
  · rename_i k labels
    have hconditions : (s.conditions h).Within s.Holds :=
      opened_within hs (query_within_holds hs h).conditions
    refine .view_bind (.ofExcept_bind hs (Value.items_within hconditions) fun items hitems => ?_)
    refine Store.Evolves.mono (setConditions_evolves hs k (Value.within_list.mpr hitems)) ?_
    rintro _ rfl
    exact ⟨k, rfl, labels, rfl⟩
  · exact .refl hs

end Building

end FluentSql
