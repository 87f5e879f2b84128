import FluentSql.Proofs.Independence.Depth
import FluentSql.Proofs.Outline.Written

/-!
# How deep queries are nested

What comes to an end within some depth comes to the same end within any greater one. A query with
all queries that it reaches in the store needs no greater depth than there are queries, so the depth
of the store may be replaced by any that is greater.
-/

namespace FluentSql

namespace Store

variable (s : Store) (d : Dialect)

/-- More depth changes nothing but queries that were not at an end. -/
theorem markedWithin_agree_of_le {n m : Nat} (hle : n ≤ m) (h : Handle) :
    AgreeUpTo (· = .display .endless) (fun _ => False) Eq (s.markedWithin d n h)
      (s.markedWithin d m h) := by
  induction n generalizing m h with
  | zero => exact .leftGivenUp (E := (· = .display .endless)) rfl _
  | succ n ih =>
    obtain ⟨m, rfl⟩ := Nat.exists_eq_succ_of_ne_zero (Nat.ne_zero_of_lt hle)
    exact Select.marked_agree_self fun g _ => ih (Nat.le_of_succ_le_succ hle) g

variable {s d}

theorem markedWithin_of_le {n m : Nat} (hle : n ≤ m) {h : Handle} (hend : ¬s.EndlessWithin d n h) :
    s.markedWithin d m h = s.markedWithin d n h := by
  have hagree := (s.markedWithin_agree_of_le d hle h).agree_of_left ?_
  · exact hagree.eq.symm
  · rintro f hf rfl
    exact hend hf

/-- What has a text within a depth has the same text within a greater one. -/
theorem markedWithin_mono {n m : Nat} (hle : n ≤ m) {h : Handle} {t : Marked Value}
    (ht : s.markedWithin d n h = .ok t) : s.markedWithin d m h = .ok t := by
  refine (markedWithin_of_le hle fun hend => ?_).trans ht
  cases hend.symm.trans ht

/-- A query that does not come to an end within the depth of its store never does. -/
theorem endlessWithin_of_size_le {h : Handle} (hreach : ∀ g, s.Reaches h g → g < s.queries.size)
    {depth : Nat} (hdepth : s.queries.size ≤ depth) (hend : s.EndlessWithin d s.queries.size h) :
    s.EndlessWithin d depth h := by
  refine (stays_of_bounded (P := fun n g => s.Reaches h g ∧ s.EndlessWithin d n g) ?_ ?_ ?_ hdepth
    ⟨.refl, hend⟩).2
  · exact fun _ g hg => hreach g hg.1
  · rintro n g ⟨hg, hnext⟩
    by_contra hnow
    have hend : ¬s.EndlessWithin d n g := fun hend => hnow ⟨hg, hend⟩
    exact hend ((markedWithin_of_le n.le_succ hend).symm.trans hnext)
  · rintro n hstays g ⟨hg, hnext⟩
    -- nothing that is reached changes from one depth to the next
    have hsame : ∀ k, s.Reaches h k → s.markedWithin d n k = s.markedWithin d (n + 1) k := by
      intro k hk
      by_cases hend : s.EndlessWithin d n k
      · exact hend.trans (hstays k ⟨hk, hend⟩).2.symm
      · exact (markedWithin_of_le n.le_succ hend).symm
    have hagain : s.markedWithin d (n + 1) g = s.markedWithin d (n + 2) g :=
      Select.marked_congr fun k hk => hsame k (.step hg hk)
    exact ⟨hg, hagain.symm.trans hnext⟩

/-- **The depth of the store is enough.** -/
theorem markedWithin_of_size_le {h : Handle} (hreach : ∀ g, s.Reaches h g → g < s.queries.size)
    {depth : Nat} (hdepth : s.queries.size ≤ depth) : s.markedWithin d depth h = s.marked h d := by
  by_cases hend : s.EndlessWithin d s.queries.size h
  · exact (endlessWithin_of_size_le hreach hdepth hend).trans hend.symm
  · exact markedWithin_of_le hdepth hend

end Store

end FluentSql
