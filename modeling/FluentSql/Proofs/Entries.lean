import FluentSql.Entries
import FluentSql.Value.Equality
import Mathlib.Data.List.Nodup

/-!
# Entries by key

Values that are put in under their keys, one after the other, are found under them: the last one
under a key counts, and where none is put in, the one that was there before (`lookup_putEntries`).
-/

namespace FluentSql

section Entries

variable {α : Type} {key : String} {v : α} {entries : List (String × α)}

theorem lookup_eq_none_of_notMem (h : key ∉ entries.map Prod.fst) : entries.lookup key = none := by
  rw [List.lookup_eq_none_iff]
  rintro ⟨k, w⟩ hmem
  simp only [bne_iff_ne]
  rintro rfl
  exact h (List.mem_map_of_mem hmem)

theorem lookup_eq_some_iff_mem (h : (entries.map Prod.fst).Nodup) :
    entries.lookup key = some v ↔ (key, v) ∈ entries := by
  induction entries with
  | nil => simp
  | cons e entries ih =>
    obtain ⟨first, w⟩ := e
    obtain ⟨hnew, hrest⟩ := List.nodup_cons.mp h
    by_cases hname : key = first
    · subst hname
      have hnot : (key, v) ∉ entries := fun hmem => hnew (List.mem_map.mpr ⟨_, hmem, rfl⟩)
      simp [hnot, eq_comm]
    · have hne : (key == first) = false := by simpa using hname
      simp [List.lookup_cons, hne, ih hrest, hname]

/-! ### Putting one entry -/

theorem putEntry_of_notMem (h : key ∉ entries.map Prod.fst) :
    putEntry key v entries = entries ++ [(key, v)] := by
  induction entries with
  | nil => rfl
  | cons e entries ih =>
    obtain ⟨hne, hrest⟩ := not_or.mp (List.mem_cons.not.mp h)
    rw [putEntry, if_neg (by simpa using Ne.symm hne), ih hrest, List.cons_append]

theorem putEntry_last {w : α} (h : key ∉ entries.map Prod.fst) :
    putEntry key v (entries ++ [(key, w)]) = entries ++ [(key, v)] := by
  induction entries with
  | nil => simp [putEntry]
  | cons e entries ih =>
    obtain ⟨hne, hrest⟩ := not_or.mp (List.mem_cons.not.mp h)
    rw [List.cons_append, putEntry, if_neg (by simpa using Ne.symm hne), ih hrest,
      List.cons_append]

theorem mem_putEntry {e : String × α} (h : e ∈ putEntry key v entries) :
    e = (key, v) ∨ e ∈ entries := by
  induction entries with
  | nil => exact .inl (List.mem_singleton.mp h)
  | cons first entries ih =>
    rw [putEntry] at h
    split at h
    · next hkey =>
      obtain rfl : first.1 = key := eq_of_beq hkey
      exact (List.mem_cons.mp h).imp_right (List.mem_cons_of_mem _)
    · rcases List.mem_cons.mp h with rfl | h
      · exact .inr List.mem_cons_self
      · exact (ih h).imp_right (List.mem_cons_of_mem _)

theorem lookup_cons_eq_ite (e : String × α) (entries : List (String × α)) (name : String) :
    (e :: entries).lookup name = if name = e.1 then some e.2 else entries.lookup name := by
  rw [List.lookup_cons]
  by_cases hname : name = e.1
  · rw [if_pos hname, hname, beq_self_eq_true]
  · rw [if_neg hname, beq_false_of_ne hname]

/-- An entry changes what is found under its key, and nothing else. -/
theorem lookup_putEntry (key : String) (v : α) (entries : List (String × α)) (name : String) :
    (putEntry key v entries).lookup name = if name = key then some v else entries.lookup name := by
  induction entries with
  | nil => exact lookup_cons_eq_ite (key, v) [] name
  | cons e entries ih =>
    rw [putEntry]
    split
    · next hkey =>
      obtain rfl : e.1 = key := eq_of_beq hkey
      rw [lookup_cons_eq_ite, lookup_cons_eq_ite]
      split <;> rfl
    · next hkey =>
      rw [lookup_cons_eq_ite, lookup_cons_eq_ite, ih]
      by_cases hfirst : name = e.1
      · have hne : name ≠ key := fun h => hkey (by rw [← hfirst, h, beq_self_eq_true])
        rw [if_pos hfirst, if_neg hne, if_pos hfirst]
      · rw [if_neg hfirst, if_neg hfirst]

theorem nodup_putEntry (h : (entries.map Prod.fst).Nodup) :
    ((putEntry key v entries).map Prod.fst).Nodup := by
  induction entries with
  | nil => exact List.nodup_singleton key
  | cons e entries ih =>
    obtain ⟨hnew, hrest⟩ := List.nodup_cons.mp h
    rw [putEntry]
    split
    · exact h
    · next hkey =>
      refine List.nodup_cons.mpr ⟨fun hmem => ?_, ih hrest⟩
      obtain ⟨e', he', hsame⟩ := List.mem_map.mp hmem
      rcases mem_putEntry he' with rfl | he'
      · exact hkey (beq_iff_eq.mpr hsame.symm)
      · exact hnew (hsame ▸ List.mem_map_of_mem he')

/-! ### Putting several entries -/

/-- Entries with different keys are kept in the order in which they are put. -/
theorem putEntries_of_nodup {more : List (String × α)}
    (h : ((entries ++ more).map Prod.fst).Nodup) : putEntries entries more = entries ++ more := by
  induction more generalizing entries with
  | nil => exact (List.append_nil entries).symm
  | cons e more ih =>
    have hnew : e.1 ∉ entries.map Prod.fst := by
      intro hmem
      rw [List.map_append, List.nodup_append] at h
      exact h.2.2 _ hmem _ List.mem_cons_self rfl
    rw [putEntries, List.foldl_cons, putEntry_of_notMem hnew, ← putEntries, ih (by simpa using h)]
    simp

theorem mem_putEntries {more : List (String × α)} {e : String × α}
    (h : e ∈ putEntries entries more) : e ∈ entries ∨ e ∈ more := by
  induction more generalizing entries with
  | nil => exact .inl h
  | cons first more ih =>
    rcases ih h with h | h
    · rcases mem_putEntry h with rfl | h
      · exact .inr List.mem_cons_self
      · exact .inl h
    · exact .inr (List.mem_cons_of_mem _ h)

/-- **The last entry under a key counts**, and without one what was there before. -/
theorem lookup_putEntries (entries more : List (String × α)) (name : String) :
    (putEntries entries more).lookup name =
      (more.reverse.lookup name).or (entries.lookup name) := by
  induction more generalizing entries with
  | nil => rfl
  | cons e more ih =>
    rw [putEntries, List.foldl_cons, ← putEntries, ih, lookup_putEntry, List.reverse_cons,
      List.lookup_append, Option.or_assoc, lookup_cons_eq_ite]
    split <;> rfl

theorem nodup_putEntries {more : List (String × α)} (h : (entries.map Prod.fst).Nodup) :
    ((putEntries entries more).map Prod.fst).Nodup := by
  induction more generalizing entries with
  | nil => exact h
  | cons e more ih => exact ih (nodup_putEntry h)

end Entries

/-! ### Texts as keys -/

section Texts

variable (entries : List (String × Value))

theorem putEntry_map_text (key : String) (value : Value) :
    putEntry (Value.text key) value (entries.map fun e => (Value.text e.1, e.2)) =
      (putEntry key value entries).map fun e => (Value.text e.1, e.2) := by
  induction entries with
  | nil => rfl
  | cons e entries ih =>
    have hsame : (Value.text e.1 == Value.text key) = (e.1 == key) := rfl
    rw [List.map_cons, putEntry, putEntry, hsame, ih]
    split <;> rfl

theorem putEntries_map_text (more : List (String × Value)) :
    putEntries (entries.map fun e => (Value.text e.1, e.2))
        (more.map fun e => (Value.text e.1, e.2)) =
      (putEntries entries more).map fun e => (Value.text e.1, e.2) := by
  induction more generalizing entries with
  | nil => rfl
  | cons e more ih =>
    rw [List.map_cons, putEntries, List.foldl_cons, putEntry_map_text, ← putEntries, ih]
    rfl

theorem lookup_map_text (key : String) :
    (entries.map fun e => (Value.text e.1, e.2)).lookup (.text key) = entries.lookup key := by
  induction entries with
  | nil => rfl
  | cons e entries ih =>
    have hsame : (Value.text key == Value.text e.1) = (key == e.1) := rfl
    rw [List.map_cons, List.lookup_cons, List.lookup_cons, hsame, ih]

end Texts

/-- The last value that is given for a column; null if there is none. -/
def lastFor (given : List (String × Value)) (column : String) : Value :=
  (given.reverse.lookup column).getD .null

/-- The last value that is given for a column, by its place. -/
theorem lastFor_eq {given : List (String × Value)} {l : ℕ} {name : String} {value : Value}
    (hl : given[l]? = some (name, value))
    (hlast : ∀ m, l < m → (given.map Prod.fst)[m]? ≠ some name) : lastFor given name = value := by
  obtain ⟨hlt, hget⟩ := List.getElem?_eq_some_iff.mp hl
  have hsplit : given = given.take l ++ (name, value) :: given.drop (l + 1) := by
    rw [← hget, ← List.drop_eq_getElem_cons hlt, List.take_append_drop]
  have hbehind : name ∉ ((given.drop (l + 1)).reverse).map Prod.fst := by
    rw [List.map_reverse, List.mem_reverse, List.map_drop, List.mem_iff_getElem?]
    rintro ⟨m, hm⟩
    rw [List.getElem?_drop] at hm
    exact hlast (l + 1 + m) (by omega) hm
  rw [lastFor, hsplit, List.reverse_append, List.reverse_cons, List.lookup_append,
    List.lookup_append, lookup_eq_none_of_notMem hbehind, Option.none_or, lookup_cons_eq_ite,
    if_pos rfl]
  rfl

end FluentSql
