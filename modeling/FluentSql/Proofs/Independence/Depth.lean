import Mathlib.Data.Finset.Card
import Mathlib.Order.Monotone.Basic
import FluentSql.Proofs.Independence.Query

/-!
# The depth of nesting

A store compiles a query to the depth of as many queries as it has, and two stores need not have
equally many. But more depth changes nothing: which queries are still not at an end can only become
fewer from one depth to the next, and if they are the same once, they stay the same. So a query that
is not at an end with the depth of its store never is, and `Store.marked_agree` compares stores of
any sizes.
-/

namespace FluentSql

/-- What can only become fewer from one number to the next, is below `N`, and stays the same if it
is the same once, is the same from `N` on. -/
theorem stays_of_bounded {P : ℕ → ℕ → Prop} {N : ℕ} (hbound : ∀ n i, P n i → i < N)
    (hfewer : ∀ n i, P (n + 1) i → P n i)
    (hsame : ∀ n, (∀ i, P n i → P (n + 1) i) → ∀ i, P (n + 1) i → P (n + 2) i) {n : ℕ}
    (hn : N ≤ n) {i : ℕ} (h : P N i) : P n i := by
  classical
  let left (n : ℕ) : Finset ℕ := (Finset.range N).filter (P n)
  have hmem : ∀ n i, i ∈ left n ↔ P n i := by
    intro n i
    rw [Finset.mem_filter, Finset.mem_range]
    exact and_iff_right_of_imp (hbound n i)
  have hanti : Antitone left :=
    antitone_nat_of_succ_le fun n i hi => (hmem n i).mpr (hfewer n i ((hmem (n + 1) i).mp hi))
  -- a set that lost nothing from one number to the next loses nothing later
  have hstop : ∀ n, (left n).card = (left (n + 1)).card →
      (left (n + 1)).card = (left (n + 2)).card := by
    intro n hcard
    have heq := Finset.eq_of_subset_of_card_le (hanti n.le_succ) hcard.le
    have hstays : ∀ i, P n i → P (n + 1) i := fun i hi =>
      (hmem (n + 1) i).mp (heq ▸ (hmem n i).mpr hi)
    refine le_antisymm (Finset.card_le_card fun i hi => ?_)
      (Finset.card_le_card (hanti (n + 1).le_succ))
    exact (hmem (n + 2) i).mpr (hsame n hstays i ((hmem (n + 1) i).mp hi))
  obtain ⟨k, hk, hconstant⟩ := Nat.stabilises_of_antitone
    (fun n m hnm => Finset.card_le_card (hanti hnm)) hstop
  -- there are at most as many as numbers below the bound, so they are constant from there on
  have hkN : k ≤ N := calc
    k ≤ (left 0).card := hk
    _ ≤ (Finset.range N).card := Finset.card_filter_le _ _
    _ = N := Finset.card_range N
  have hcard : (left N).card = (left n).card :=
    (hconstant N hkN).trans (hconstant n (hkN.trans hn)).symm
  have heq := Finset.eq_of_subset_of_card_le (hanti hn) hcard.le
  exact (hmem n i).mp (heq ▸ (hmem N i).mpr h)

namespace Store

/-- A query that does not come to an end within a depth. -/
def EndlessWithin (s : Store) (d : Dialect) (depth : Nat) (h : Handle) : Prop :=
  s.markedWithin d depth h = .error (.display .endless)

variable {R : Handle → Handle → Prop} {V : Value → Value → Prop} {s t : Store}
  (hst : Correspond R V s t) (d : Dialect)
include hst

/-- Queries that correspond come to an end within the same depths. -/
theorem endlessWithin_iff (depth : Nat) {g h : Handle} (hgh : R g h) :
    s.EndlessWithin d depth g ↔ t.EndlessWithin d depth h :=
  (markedWithin_agree d hst depth depth (fun hlt => absurd hlt (Nat.lt_irrefl _))
    (fun hlt => absurd hlt (Nat.lt_irrefl _)) g h hgh).error_iff _

/-- What comes to an end within a depth, comes to the same end within a greater one. -/
theorem marked_agree_of_le {depth depth' : Nat} (hle : depth ≤ depth') {g h : Handle}
    (hgh : R g h) (hg : ¬s.EndlessWithin d depth g) :
    Agree (Marked.Alike V) (s.markedWithin d depth g) (t.markedWithin d depth' h) := by
  have hup : AgreeUpTo (· = .display .endless) (fun _ => False) (Marked.Alike V)
      (s.markedWithin d depth g) (t.markedWithin d depth' h) := by
    refine markedWithin_agree d hst depth depth' ?_ ?_ g h hgh
    · exact fun _ => rfl
    · exact fun hlt => absurd hlt (Nat.not_lt.mpr hle)
  refine hup.agree_of_left ?_
  rintro f hf rfl
  exact hg hf

/-- The same with the greater depth on the left. -/
theorem marked_agree_of_ge {depth depth' : Nat} (hle : depth' ≤ depth) {g h : Handle}
    (hgh : R g h) (hh : ¬t.EndlessWithin d depth' h) :
    Agree (Marked.Alike V) (s.markedWithin d depth g) (t.markedWithin d depth' h) := by
  have hup : AgreeUpTo (fun _ => False) (· = .display .endless) (Marked.Alike V)
      (s.markedWithin d depth g) (t.markedWithin d depth' h) := by
    refine markedWithin_agree d hst depth depth' ?_ ?_ g h hgh
    · exact fun hlt => absurd hlt (Nat.not_lt.mpr hle)
    · exact fun _ => rfl
  refine hup.agree_of_right ?_
  rintro f hf rfl
  exact hh hf

theorem endlessWithin_of_succ (depth : Nat) {g h : Handle} (hgh : R g h)
    (hg : s.EndlessWithin d (depth + 1) g) : s.EndlessWithin d depth g := by
  -- an end within the lesser depth would be an end on the other side within the greater one
  by_contra hend
  have hagree := marked_agree_of_le hst d depth.le_succ hgh hend
  exact hend ((hagree.error_iff _).mpr ((endlessWithin_iff hst d (depth + 1) hgh).mp hg))

/-- If no query comes to an end from a depth to the next, none does after that. -/
theorem endlessWithin_succ (depth : Nat)
    (hstays : ∀ g h, R g h → s.EndlessWithin d depth g → s.EndlessWithin d (depth + 1) g)
    {g h : Handle} (hgh : R g h) (hg : s.EndlessWithin d (depth + 1) g) :
    s.EndlessWithin d (depth + 2) g := by
  have hagree : ∀ g h, R g h → Agree (Marked.Alike V) (s.markedWithin d depth g)
      (t.markedWithin d (depth + 1) h) := by
    intro g h hgh
    -- at two depths that follow one another, everything agrees: what is endless stays so
    by_cases hend : s.EndlessWithin d depth g
    · have hh := (endlessWithin_iff hst d (depth + 1) hgh).mp (hstays g h hgh hend)
      rw [show s.markedWithin d depth g = _ from hend,
        show t.markedWithin d (depth + 1) h = _ from hh]
      exact .error _
    · exact marked_agree_of_le hst d depth.le_succ hgh hend
  have hnext := Select.marked_agree (d := d) hagree (hst.alike hgh)
  exact (endlessWithin_iff hst d (depth + 2) hgh).mpr ((hnext.error_iff _).mp hg)

/-- A query that does not come to an end within the depth of its store never does. -/
theorem endlessWithin_of_size_left {depth : Nat} (hdepth : s.queries.size ≤ depth) {g h : Handle}
    (hgh : R g h) (hg : s.EndlessWithin d s.queries.size g) : s.EndlessWithin d depth g := by
  refine (stays_of_bounded (P := fun n g => ∃ h, R g h ∧ s.EndlessWithin d n g) ?_ ?_ ?_ hdepth
    ⟨h, hgh, hg⟩).choose_spec.2
  · rintro n g ⟨h, hgh, -⟩
    exact hst.left_lt hgh
  · rintro n g ⟨h, hgh, hg⟩
    exact ⟨h, hgh, endlessWithin_of_succ hst d n hgh hg⟩
  · rintro n hstays g ⟨h, hgh, hg⟩
    refine ⟨h, hgh, endlessWithin_succ hst d n ?_ hgh hg⟩
    intro g h hgh hg
    exact (hstays g ⟨h, hgh, hg⟩).choose_spec.2

/-- The same of the second store. -/
theorem endlessWithin_of_size_right {depth : Nat} (hdepth : t.queries.size ≤ depth) {g h : Handle}
    (hgh : R g h) (hh : t.EndlessWithin d t.queries.size h) : t.EndlessWithin d depth h := by
  refine (stays_of_bounded (P := fun n h => t.EndlessWithin d n h ∧ ∃ g, R g h) ?_ ?_ ?_ hdepth
    ⟨hh, g, hgh⟩).1
  · rintro n h ⟨-, g, hgh⟩
    exact hst.right_lt hgh
  · rintro n h ⟨hh, g, hgh⟩
    have hg := (endlessWithin_iff hst d (n + 1) hgh).mpr hh
    exact ⟨(endlessWithin_iff hst d n hgh).mp (endlessWithin_of_succ hst d n hgh hg), g, hgh⟩
  · rintro n hstays h ⟨hh, g, hgh⟩
    have hg := (endlessWithin_iff hst d (n + 1) hgh).mpr hh
    refine ⟨(endlessWithin_iff hst d (n + 2) hgh).mp (endlessWithin_succ hst d n ?_ hgh hg), g, hgh⟩
    intro g h hgh hg
    have hh := (endlessWithin_iff hst d n hgh).mp hg
    exact (endlessWithin_iff hst d (n + 1) hgh).mpr (hstays h ⟨hh, g, hgh⟩).1

/-- Queries that correspond agree, whatever the sizes of their stores. -/
theorem marked_agree {g h : Handle} (hgh : R g h) :
    Agree (Marked.Alike V) (s.marked g d) (t.marked h d) := by
  rw [marked, marked]
  rcases Nat.le_total s.queries.size t.queries.size with hle | hle
  · by_cases hend : s.EndlessWithin d s.queries.size g
    · have hg := endlessWithin_of_size_left hst d hle hgh hend
      have hh := (endlessWithin_iff hst d t.queries.size hgh).mp hg
      rw [show s.markedWithin d _ g = _ from hend, show t.markedWithin d _ h = _ from hh]
      exact .error _
    · exact marked_agree_of_le hst d hle hgh hend
  · by_cases hend : t.EndlessWithin d t.queries.size h
    · have hh := endlessWithin_of_size_right hst d hle hgh hend
      have hg := (endlessWithin_iff hst d s.queries.size hgh).mpr hh
      rw [show s.markedWithin d _ g = _ from hg, show t.markedWithin d _ h = _ from hend]
      exact .error _
    · exact marked_agree_of_ge hst d hle hgh hend

end Store

end FluentSql
