import Mathlib.Data.Finset.Card
import FluentSql.Proofs.Sharing.Objects

/-!
# The depth of values

A value is filled in with a depth that depends on the size of its store, and the depth is never used
up: each step into a list or record adds it to the trail, and each step into a write builder or
session does so until the next list or record. What is left of a trail bounds the depth that is
needed (`Store.depthLeft`), so more depth changes nothing, and a value reads the same in two stores
of any sizes that agree on what it leads to (`Store.settle_congr`).
-/

namespace FluentSql

/-! ### What a trail leaves -/

/-- How many of the first `n` handles are not among those that were seen. -/
def unseen (n : Nat) (seen : List Handle) : Nat :=
  ((Finset.range n).filter (· ∉ seen)).card

theorem unseen_le (n : Nat) (seen : List Handle) : unseen n seen ≤ n := calc
  unseen n seen ≤ (Finset.range n).card := Finset.card_filter_le _ _
  _ = n := Finset.card_range n

theorem unseen_cons_lt {n : Nat} {seen : List Handle} {h : Handle} (hn : h < n)
    (hseen : h ∉ seen) : unseen n (h :: seen) < unseen n seen := by
  refine Finset.card_lt_card (Finset.ssubset_iff_subset_ne.mpr ⟨?_, ?_⟩)
  · intro g hg
    rw [Finset.mem_filter] at hg ⊢
    exact ⟨hg.1, fun hmem => hg.2 (List.mem_cons_of_mem h hmem)⟩
  · intro heq
    have hmem : h ∈ (Finset.range n).filter (· ∉ seen) :=
      Finset.mem_filter.mpr ⟨Finset.mem_range.mpr hn, hseen⟩
    rw [← heq, Finset.mem_filter] at hmem
    exact hmem.2 List.mem_cons_self

namespace Store

variable (s : Store)

/-- How many lists and records are not on a trail. -/
def collectionsLeft (t : Trail) : Nat :=
  unseen s.lists.size t.lists + unseen s.records.size t.records

/-- How many write builders and sessions are not on a trail. -/
def describedLeft (t : Trail) : Nat :=
  unseen s.writes.size t.writes + unseen s.sessions.size t.sessions

/-- The number of steps that end in the next list or record. -/
def leg : Nat :=
  s.writes.size + s.sessions.size + 1

/-- The number of steps that end every description. -/
def wholeDepth : Nat :=
  (s.lists.size + s.records.size + 1) * s.leg

/-- The number of steps that a trail leaves, inside a description or outside of all. -/
def depthLeft (nested : Bool) (t : Trail) : Nat :=
  if nested then s.collectionsLeft t * s.leg + s.describedLeft t
  else s.collectionsLeft t + s.wholeDepth

variable {s} {nested : Bool} {t : Trail} {h : Handle}

theorem describedLeft_lt_leg (t : Trail) : s.describedLeft t < s.leg := by
  have hwrites := unseen_le s.writes.size t.writes
  have hsessions := unseen_le s.sessions.size t.sessions
  rw [describedLeft, leg]
  omega

theorem collectionsLeft_le (t : Trail) : s.collectionsLeft t ≤ s.lists.size + s.records.size :=
  Nat.add_le_add (unseen_le _ _) (unseen_le _ _)

/-- Where fewer lists and records are left, less depth is left. -/
theorem depthLeft_lt_of_collections {t' : Trail} (h : s.collectionsLeft t' < s.collectionsLeft t) :
    s.depthLeft nested t' < s.depthLeft nested t := by
  cases nested with
  | false => exact Nat.add_lt_add_right h _
  | true => calc
    s.collectionsLeft t' * s.leg + s.describedLeft t'
      < s.collectionsLeft t' * s.leg + s.leg := Nat.add_lt_add_left (describedLeft_lt_leg t') _
    _ = (s.collectionsLeft t' + 1) * s.leg := (Nat.succ_mul _ _).symm
    _ ≤ s.collectionsLeft t * s.leg := Nat.mul_le_mul_right _ h
    _ ≤ s.collectionsLeft t * s.leg + s.describedLeft t := Nat.le_add_right _ _

/-- Every trail inside a description leaves less depth than one outside of all. -/
theorem depthLeft_nested_lt (t t' : Trail) : s.depthLeft true t' < s.depthLeft false t := calc
  s.collectionsLeft t' * s.leg + s.describedLeft t'
    < s.collectionsLeft t' * s.leg + s.leg := Nat.add_lt_add_left (describedLeft_lt_leg t') _
  _ = (s.collectionsLeft t' + 1) * s.leg := (Nat.succ_mul _ _).symm
  _ ≤ s.wholeDepth := Nat.mul_le_mul_right _ (Nat.succ_le_succ (collectionsLeft_le t'))
  _ ≤ s.collectionsLeft t + s.wholeDepth := Nat.le_add_left _ _

theorem depthLeft_enterList (hlt : h < s.lists.size) (hnot : h ∉ t.lists) :
    s.depthLeft nested (t.enterList h) < s.depthLeft nested t :=
  depthLeft_lt_of_collections (Nat.add_lt_add_right (unseen_cons_lt hlt hnot) _)

theorem depthLeft_enterRecord (hlt : h < s.records.size) (hnot : h ∉ t.records) :
    s.depthLeft nested (t.enterRecord h) < s.depthLeft nested t :=
  depthLeft_lt_of_collections (Nat.add_lt_add_left (unseen_cons_lt hlt hnot) _)

/-- A step into a description leaves less depth, if an object is described that was not before. -/
theorem depthLeft_described {t' : Trail} (hcollections : s.collectionsLeft t' = s.collectionsLeft t)
    (hdescribed : s.describedLeft t' < s.describedLeft t) :
    s.depthLeft true t' < s.depthLeft nested t := by
  cases nested with
  | false => exact depthLeft_nested_lt t t'
  | true =>
    change s.collectionsLeft t' * s.leg + _ < s.collectionsLeft t * s.leg + _
    rw [hcollections]
    exact Nat.add_lt_add_left hdescribed _

theorem depthLeft_enterWrite (hlt : h < s.writes.size) (hnot : h ∉ t.writes) :
    s.depthLeft true (t.enterWrite h) < s.depthLeft nested t :=
  depthLeft_described rfl (Nat.add_lt_add_right (unseen_cons_lt hlt hnot) _)

theorem depthLeft_enterSession (hlt : h < s.sessions.size) (hnot : h ∉ t.sessions) :
    s.depthLeft true (t.enterSession h) < s.depthLeft nested t :=
  depthLeft_described rfl (Nat.add_lt_add_left (unseen_cons_lt hlt hnot) _)

theorem depthLeft_start_lt : s.depthLeft false {} < s.steps := calc
  s.collectionsLeft {} + s.wholeDepth
    ≤ s.lists.size + s.records.size + s.wholeDepth := Nat.add_le_add_right (collectionsLeft_le _) _
  _ < s.lists.size + s.records.size + 1 + s.wholeDepth := by omega
  _ ≤ s.wholeDepth + s.wholeDepth :=
    Nat.add_le_add_right (Nat.le_mul_of_pos_right _ (Nat.succ_pos _)) _
  _ = s.steps := by rw [steps, wholeDepth, leg, ← Nat.two_mul, Nat.mul_assoc]

/-! ### Objects that are not there -/

theorem list_of_size_le (hle : s.lists.size ≤ h) : s.list h = [] := by
  simp [list, Array.getD, Nat.not_lt.mpr hle]

theorem record_of_size_le (hle : s.records.size ≤ h) : s.record h = [] := by
  simp [record, Array.getD, Nat.not_lt.mpr hle]

theorem write_of_size_le (hle : s.writes.size ≤ h) : s.write h = {} := by
  simp [write, Array.getD, Nat.not_lt.mpr hle]

theorem session_of_size_le (hle : s.sessions.size ≤ h) : s.session h = {} := by
  simp [session, Array.getD, Nat.not_lt.mpr hle]

@[simp]
theorem settleWithin_null (depth : Nat) (nested : Bool) (t : Trail) :
    s.settleWithin depth nested t .null = .null := by
  cases depth <;> rfl

@[simp]
theorem settleWithin_text (depth : Nat) (nested : Bool) (t : Trail) (text : String) :
    s.settleWithin depth nested t (.text text) = .text text := by
  cases depth <;> rfl

/-! ### More depth -/

/-- The labels of an object, if it is described alike at the end of the trail, and outside of all
descriptions on its own as well. -/
theorem labels_congr {describe describe' : Trail → Except Fault String}
    (hinside : describe t = describe' t) (halone : nested = false → describe {} = describe' {}) :
    labels nested t describe = labels nested t describe' := by
  cases nested with
  | true => simp only [labels, hinside, if_true]
  | false => simp only [labels, hinside, halone rfl]

/-- **More depth changes nothing** where a depth is enough for what the trail leaves. -/
theorem settleWithin_eq {n m : Nat} (hn : s.depthLeft nested t < n) (hm : s.depthLeft nested t < m)
    (v : Value) : s.settleWithin n nested t v = s.settleWithin m nested t v := by
  induction n generalizing m nested t v with
  | zero => exact absurd hn (Nat.not_lt_zero _)
  | succ n ih =>
    obtain ⟨m, rfl⟩ := Nat.exists_eq_succ_of_ne_zero (Nat.ne_zero_of_lt hm)
    -- whatever leaves less depth is filled in alike
    have hless : ∀ nested' t', s.depthLeft nested' t' < s.depthLeft nested t →
        ∀ v, s.settleWithin n nested' t' v = s.settleWithin m nested' t' v :=
      fun nested' t' hlt => ih (by omega) (by omega)
    rw [settleWithin, settleWithin]
    refine Value.fill_congr fun o _ => ?_
    cases o with
    | query h => rfl
    | list h =>
      simp only [Contents.value, contents]
      split
      · rfl
      · rename_i hnot
        rcases Nat.lt_or_ge h s.lists.size with hlt | hge
        · have hitems := hless nested (t.enterList h) (depthLeft_enterList hlt (by simpa using hnot))
          rw [funext hitems]
        · rw [list_of_size_le hge, List.map_nil, List.map_nil]
    | record h =>
      simp only [Contents.value, contents]
      split
      · rfl
      · rename_i hnot
        rcases Nat.lt_or_ge h s.records.size with hlt | hge
        · have hentries :=
            hless nested (t.enterRecord h) (depthLeft_enterRecord hlt (by simpa using hnot))
          rw [funext hentries]
        · rw [record_of_size_le hge, List.map_nil, List.map_nil]
    | write h =>
      simp only [Contents.value, contents]
      split
      · rfl
      · rename_i hnot
        congr 1
        rcases Nat.lt_or_ge h s.writes.size with hlt | hge
        · refine labels_congr ?_ ?_
          · have hinside := hless true _ (depthLeft_enterWrite hlt (by simpa using hnot))
            rw [funext hinside]
          · rintro rfl
            have halone := hless true (({} : Trail).enterWrite h) (depthLeft_nested_lt t _)
            rw [funext halone]
        · simp [describeWriteBy, write_of_size_le hge]
    | session h =>
      simp only [Contents.value, contents]
      split
      · rfl
      · rename_i hnot
        congr 1
        rcases Nat.lt_or_ge h s.sessions.size with hlt | hge
        · refine labels_congr ?_ ?_
          · have hinside := hless true _ (depthLeft_enterSession hlt (by simpa using hnot))
            rw [funext hinside]
          · rintro rfl
            have halone := hless true (({} : Trail).enterSession h) (depthLeft_nested_lt t _)
            rw [funext halone]
        · refine labels_congr ?_ fun _ => ?_
          all_goals
            rw [session_of_size_le hge]
            exact Session.description_map_congr (by simp)

variable {u : Store} {P : Object → Prop}

/-- A value reads the same in two stores of any sizes that agree on what it leads to. -/
theorem settle_congr (hclosed : s.IsClosed P) (hsame : ∀ o, P o → s.SameAt u o) {v : Value}
    (hv : v.Within P) : s.settle v = u.settle v := by
  have hleft : s.steps ≤ s.steps + u.steps := Nat.le_add_right _ _
  have hright : u.steps ≤ s.steps + u.steps := Nat.le_add_left _ _
  calc
    s.settle v = s.settleWithin (s.steps + u.steps) false {} v :=
      settleWithin_eq depthLeft_start_lt (Nat.lt_of_lt_of_le depthLeft_start_lt hleft) v
    _ = u.settleWithin (s.steps + u.steps) false {} v :=
      settleWithin_congr hclosed hsame _ false {} hv
    _ = u.settle v :=
      settleWithin_eq (Nat.lt_of_lt_of_le depthLeft_start_lt hright) depthLeft_start_lt v

end Store

end FluentSql
