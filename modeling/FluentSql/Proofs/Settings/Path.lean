import FluentSql.Console.Invocation
import FluentSql.Proofs.Settings.Document
import Mathlib.Data.List.TakeWhile

/-!
# Normal forms of paths

The normal form of a path has the same root and the same components as the path, and is not longer.
So it leads where the path leads, up to a slash at the end that asks for a directory.
-/

namespace FluentSql

/-- Leaving pieces out leaves a part of the text. -/
theorem Url.intercalate_filter_sublist (keep : List Char → Bool) (sep : List Char)
    (pieces : List (List Char)) :
    (sep.intercalate (pieces.filter keep)).Sublist (sep.intercalate pieces) := by
  induction pieces with
  | nil => exact List.Sublist.refl _
  | cons p pieces ih =>
    rcases pieces with _ | ⟨q, pieces⟩
    · rw [List.filter_singleton]
      cases keep p with
      | false => exact List.nil_sublist _
      | true => exact List.Sublist.refl _
    · rw [List.intercalate_cons_cons, List.filter_cons]
      split
      · rcases hrest : (q :: pieces).filter keep with _ | ⟨r, rest⟩
        · rw [List.intercalate_singleton, List.append_assoc]
          exact List.sublist_append_left ..
        · rw [List.intercalate_cons_cons, ← hrest]
          exact (List.Sublist.refl _).append ih
      · exact ih.trans (List.sublist_append_right ..)

/-- A part of a text has no more bytes. -/
theorem utf8ByteSize_ofList_le {cs ds : List Char} (h : cs.Sublist ds) :
    (String.ofList cs).utf8ByteSize ≤ (String.ofList ds).utf8ByteSize := by
  have hcons : ∀ (c : Char) (cs : List Char), (String.ofList (c :: cs)).utf8ByteSize =
      c.utf8Size + (String.ofList cs).utf8ByteSize := by
    intro c cs
    have happend : String.ofList (c :: cs) = String.singleton c ++ String.ofList cs := by
      rw [← String.toList_inj]
      simp
    rw [happend, String.utf8ByteSize_append, String.utf8ByteSize_singleton]
  induction h with
  | slnil => exact Nat.le_refl _
  | cons c _ ih =>
    rw [hcons]
    omega
  | cons_cons c _ ih =>
    rw [hcons, hcons]
    omega

namespace Files

/-! ### Roots and components -/

/-- Whether a piece of a path counts as a component. -/
def counts (piece : List Char) : Bool :=
  piece != [] && piece != ['.']

theorem components_eq (path : String) :
    components path = ((Url.splitAll '/' path.toList).filter counts).map String.ofList := by
  rw [components, List.filter_map]
  congr 2
  funext piece
  have hempty : (String.ofList piece != "") = (piece != []) := by
    rw [Bool.eq_iff_iff]
    simp [← String.toList_inj]
  have hpoint : (String.ofList piece != ".") = (piece != ['.']) := by
    rw [Bool.eq_iff_iff]
    simp [← String.toList_inj]
  simp only [Function.comp_apply, counts, hempty, hpoint]

/-- How many slashes a path begins with. -/
def leading (path : String) : Nat :=
  (path.toList.takeWhile (· == '/')).length

/-- How many slashes are kept of those that a path begins with. -/
def rootWidth : Nat → Nat
  | 0 => 0
  | 2 => 2
  | _ => 1

theorem rootWidth_le (k : Nat) : rootWidth k ≤ k := by
  rcases k with _ | _ | _ | k
  · exact Nat.le_refl 0
  · exact Nat.le_refl 1
  · exact Nat.le_refl 2
  · exact Nat.succ_le_succ (Nat.zero_le _)

theorem rootWidth_idem (k : Nat) : rootWidth (rootWidth k) = rootWidth k := by
  fun_cases rootWidth k <;> rfl

theorem root_eq (path : String) :
    root path = String.ofList (List.replicate (rootWidth (leading path)) '/') := by
  rw [root, leading]
  rcases (path.toList.takeWhile (· == '/')).length with _ | _ | _ | k <;> rfl

/-- The components of a path, as they are joined in its normal form. -/
def joined (path : String) : List Char :=
  ['/'].intercalate ((Url.splitAll '/' path.toList).filter counts)

/-- A path is a root and what its components come from. -/
theorem exists_rest (path : String) : ∃ rest,
    path.toList = List.replicate (leading path) '/' ++ rest ∧
      (Url.splitAll '/' path.toList).filter counts = (Url.splitAll '/' rest).filter counts := by
  have hslashes : path.toList.takeWhile (· == '/') = List.replicate (leading path) '/' := by
    refine List.eq_replicate_of_mem fun c hc => ?_
    simpa using List.mem_takeWhile_imp hc
  have hsplit : path.toList =
      List.replicate (leading path) '/' ++ path.toList.dropWhile (· == '/') := by
    rw [← hslashes, List.takeWhile_append_dropWhile]
  refine ⟨path.toList.dropWhile (· == '/'), hsplit, ?_⟩
  conv_lhs => rw [hsplit, Url.splitAll_replicate, List.filter_append]
  have hnone : (List.replicate (leading path) ([] : List Char)).filter counts = [] := by
    simp [counts]
  rw [hnone, List.nil_append]

/-- Root and components of a path that is written by them. -/
theorem of_written {path written : String}
    (h : written.toList = List.replicate (rootWidth (leading path)) '/' ++ joined path) :
    root written = root path ∧ components written = components path := by
  have hpieces : ∀ p ∈ (Url.splitAll '/' path.toList).filter counts, '/' ∉ p := fun p hp =>
    (Url.intercalate_splitAll '/' path.toList).2.2 p (List.mem_of_mem_filter hp)
  have hcounts : ∀ p ∈ (Url.splitAll '/' path.toList).filter counts, counts p = true := fun p hp =>
    (List.mem_filter.mp hp).2
  have hhead : (joined path).takeWhile (· == '/') = [] := by
    rw [joined]
    rcases hp : (Url.splitAll '/' path.toList).filter counts with _ | ⟨_ | ⟨c, p⟩, pieces⟩
    · rfl
    · exact absurd (hcounts [] (hp ▸ List.mem_cons_self)) (by decide)
    · have hc : c ≠ '/' := by
        rintro rfl
        exact hpieces _ (hp ▸ List.mem_cons_self) List.mem_cons_self
      rcases pieces with _ | ⟨q, pieces⟩ <;> simp [hc]
  have hwidth : leading written = rootWidth (leading path) := by
    rw [leading, h, List.takeWhile_append_of_pos (by simp), hhead]
    simp
  constructor
  · rw [root_eq, root_eq, hwidth, rootWidth_idem]
  · rw [components_eq, components_eq, h, Url.splitAll_replicate, List.filter_append]
    have hnone :
        (List.replicate (rootWidth (leading path)) ([] : List Char)).filter counts = [] := by
      simp [counts]
    rw [hnone, List.nil_append, joined]
    rcases hp : (Url.splitAll '/' path.toList).filter counts with _ | ⟨p, pieces⟩
    · rfl
    · rw [← hp, Url.splitAll_intercalate (by simp [hp]) hpieces, List.filter_filter]
      simp

/-! ### Normal forms -/

theorem normalize_spec (path : String) :
    root (normalize path) = root path ∧ components (normalize path) = components path ∧
      (normalize path).utf8ByteSize ≤ max 1 path.utf8ByteSize := by
  have hwritten : (root path ++ String.intercalate "/" (components path)).toList =
      List.replicate (rootWidth (leading path)) '/' ++ joined path := by
    rw [root_eq, components_eq, joined]
    simp [Function.comp_def]
  obtain ⟨hroot, hcomponents⟩ := of_written hwritten
  by_cases hempty : (root path ++ String.intercalate "/" (components path)).isEmpty = true
  · have hnone := String.isEmpty_iff.mp hempty
    rw [hnone] at hroot hcomponents
    have hpoint : normalize path = "." := by rw [normalize, if_pos hempty]
    rw [hpoint]
    exact ⟨hroot ▸ rfl, hcomponents ▸ rfl, Nat.le_max_left ..⟩
  · have heq : normalize path = root path ++ String.intercalate "/" (components path) := by
      rw [normalize, if_neg hempty]
    rw [heq]
    refine ⟨hroot, hcomponents, Nat.le_trans ?_ (Nat.le_max_right ..)⟩
    obtain ⟨rest, hpath, hrest⟩ := exists_rest path
    have hpart : (root path ++ String.intercalate "/" (components path)).toList.Sublist
        path.toList := by
      rw [hwritten, joined, hrest, hpath]
      refine (List.replicate_sublist_replicate '/' |>.mpr (rootWidth_le _)).append ?_
      have hjoined := Url.intercalate_filter_sublist counts ['/'] (Url.splitAll '/' rest)
      rwa [(Url.intercalate_splitAll '/' rest).1] at hjoined
    simpa only [String.ofList_toList] using utf8ByteSize_ofList_le hpart

/-- The normal form of a path that leads to a file leads to it too, or asks for a directory. -/
theorem lookup_normalize {files : Files} {path text : String}
    (h : files.lookup path = .file text) :
    files.lookup (normalize path) = .absent ∨ files.lookup (normalize path) = .file text := by
  obtain ⟨hroot, hcomponents, hsize⟩ := normalize_spec path
  rw [lookup] at h
  split at h
  · cases h
  split at h
  · cases h
  · next hshort =>
    have hlimit : ¬ pathLimit < (normalize path).utf8ByteSize := by
      have hone : 1 ≤ pathLimit := by decide
      omega
    simp only [lookup, hroot, hcomponents, if_neg hlimit]
    split
    · exact .inl rfl
    split at h
    · split at h
      · cases h
      · cases h
        split
        · exact .inl rfl
        · exact .inr rfl
    · next hfile =>
      exact absurd h (hfile text)

end Files

end FluentSql
