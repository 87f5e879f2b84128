import FluentSql.Text.Case

/-!
# Lower case is stable

A text in lower case stays as it is when it is put into lower case once more (`Text.lower_lower`).
No run of mappings to lower case leads into another one or into itself, so what comes of a character
is not mapped again; and no capital sigma is left, whose form would depend on what is around it.
-/

namespace FluentSql.Text

/-- A character that lower case leaves alone wherever it stands. -/
def IsLower (c : Char) : Prop :=
  c.toNat ≠ 0x3a3 ∧ lowerChar c = [c]

instance (c : Char) : Decidable (IsLower c) :=
  inferInstanceAs (Decidable (_ ∧ _))

/-! ### Runs -/

/-- The image of the first code point of a run. -/
def CaseRun.low (r : CaseRun) : Nat :=
  (r.first + r.shift).toNat

/-- The image of the last code point of a run. -/
def CaseRun.high (r : CaseRun) : Nat :=
  (r.last + r.shift).toNat

/-- Whether the images under a run are not covered by another: they end before it or begin behind
it, or they alternate with what it covers. -/
def CaseRun.avoids (r q : CaseRun) : Bool :=
  match Nat.ble q.first r.high, Nat.ble r.low q.last with
  | true, true => (r.first == r.last || r.step == 2) && q.step == 2 && r.low % 2 != q.first % 2
  | _, _ => true

theorem CaseRun.image?_eq_none_of_avoids {r q : CaseRun} (h : r.avoids q = true)
    (hstart : 0 ≤ r.first + r.shift) {c n : Nat} (hn : r.image? c = some n) :
    q.image? n = none := by
  obtain ⟨hcovered, hshifted⟩ := Option.ite_none_right_eq_some.mp hn
  obtain rfl := Option.some.inj hshifted
  refine if_neg fun hagain => ?_
  simp only [Bool.and_eq_true, decide_eq_true_eq, beq_iff_eq] at hcovered hagain
  obtain ⟨⟨hfirst, hlast⟩, hstep⟩ := hcovered
  obtain ⟨⟨hfirst', hlast'⟩, hstep'⟩ := hagain
  have hlow : r.low ≤ (c + r.shift).toNat := Int.toNat_le_toNat (by omega)
  have hhigh : (c + r.shift).toNat ≤ r.high := Int.toNat_le_toNat (by omega)
  rw [avoids, Nat.ble_eq.mpr (Nat.le_trans hfirst' hhigh),
    Nat.ble_eq.mpr (Nat.le_trans hlow hlast')] at h
  simp only [Bool.and_eq_true, Bool.or_eq_true, beq_iff_eq, bne_iff_ne, low] at h
  obtain ⟨⟨hsource, htwo⟩, hodd⟩ := h
  rw [htwo] at hstep'
  rcases hsource with hone | htwo'
  · omega
  · rw [htwo'] at hstep
    omega

/-- The character that is mapped to two, as a run. -/
def dottedCapital : CaseRun :=
  ⟨0x130, 0x130, 1, 0⟩

/-- No run leads into a run, nor to the character that is mapped to two. -/
theorem lowerRuns_avoid : ∀ r ∈ lowerRuns, 0 ≤ r.first + r.shift ∧
    ∀ q ∈ dottedCapital :: lowerRuns, r.avoids q = true := by
  have hall : (lowerRuns.all fun r => decide (0 ≤ r.first + r.shift)
      && (dottedCapital :: lowerRuns).all r.avoids) = true := by
    decide +kernel
  simpa only [List.all_eq_true, Bool.and_eq_true, decide_eq_true_eq] using hall

/-! ### Characters -/

theorem lookup_lowerExpansions (n : Nat) :
    lowerExpansions.lookup n = if n = 0x130 then some [0x69, 0x307] else none := by
  rw [lowerExpansions, List.lookup_cons]
  by_cases hn : n = 0x130
  · rw [if_pos hn, hn]
    rfl
  · rw [if_neg hn, beq_false_of_ne hn]
    rfl

theorem isLower_of_uncovered {c : Char} (hdotted : c.toNat ≠ 0x130)
    (h : lowerRuns.findSome? (·.image? c.toNat) = none) : IsLower c := by
  have hsigma : lowerRuns.findSome? (·.image? 0x3a3) ≠ none := by
    decide +kernel
  refine ⟨fun heq => hsigma (heq ▸ h), ?_⟩
  rw [lowerChar]
  split
  · next hascii =>
    have hcapitals : ∀ n < 0x80, CaseRun.image? ⟨0x41, 0x5a, 1, 32⟩ n = none →
        (Char.ofNat n).toLower = Char.ofNat n := by
      decide +kernel
    have hsame := hcapitals c.toNat hascii (List.findSome?_eq_none_iff.mp h _ List.mem_cons_self)
    rw [Char.ofNat_toNat] at hsame
    rw [hsame]
  · rw [lookup_lowerExpansions, if_neg hdotted, mapByRuns, h]

/-- What comes of a character in lower case is left alone by it. -/
theorem isLower_lowerChar {c d : Char} (h : d ∈ lowerChar c) : IsLower d := by
  rw [lowerChar, lookup_lowerExpansions] at h
  split at h
  · next hascii =>
    have hall : ∀ n < 0x80, IsLower (Char.ofNat n).toLower := by
      decide +kernel
    rw [List.mem_singleton.mp h, ← Char.ofNat_toNat c]
    exact hall c.toNat hascii
  by_cases hdotted : c.toNat = 0x130
  · have hparts : ∀ n ∈ [0x69, 0x307], IsLower (Char.ofNat n) := by
      decide +kernel
    rw [if_pos hdotted] at h
    obtain ⟨n, hn, rfl⟩ := List.mem_map.mp h
    exact hparts n hn
  · rw [if_neg hdotted] at h
    rw [List.mem_singleton.mp h, mapByRuns]
    split
    · next n hn =>
      obtain ⟨r, hr, himage⟩ := List.exists_of_findSome?_eq_some hn
      obtain ⟨hstart, havoids⟩ := lowerRuns_avoid r hr
      obtain ⟨hnot, hruns⟩ := List.forall_mem_cons.mp fun q hq =>
        CaseRun.image?_eq_none_of_avoids (havoids q hq) hstart himage
      by_cases hvalid : n.isValidChar
      · have hcode : (Char.ofNat n).toNat = n := by
          rw [Char.ofNat, dif_pos hvalid]
          rfl
        refine isLower_of_uncovered ?_ ?_
        · rw [hcode]
          rintro rfl
          cases hnot
        · rw [hcode]
          exact List.findSome?_eq_none_iff.mpr hruns
      · rw [Char.ofNat, dif_neg hvalid]
        decide +kernel
    · next hnone => exact isLower_of_uncovered hdotted hnone

/-! ### Texts -/

theorem isLower_of_mem_lowerFrom {before cs : List Char} {d : Char} (h : d ∈ lowerFrom before cs) :
    IsLower d := by
  induction cs generalizing before with
  | nil => cases h
  | cons c cs ih =>
    rw [lowerFrom] at h
    rcases List.mem_append.mp h with hd | hd
    · split at hd
      · have hforms : IsLower (Char.ofNat 0x3c2) ∧ IsLower (Char.ofNat 0x3c3) := by decide +kernel
        split at hd
        · rw [List.mem_singleton.mp hd]
          exact hforms.1
        · rw [List.mem_singleton.mp hd]
          exact hforms.2
      · exact isLower_lowerChar hd
    · exact ih hd

theorem lowerFrom_eq_self {before cs : List Char} (h : ∀ c ∈ cs, IsLower c) :
    lowerFrom before cs = cs := by
  induction cs generalizing before with
  | nil => rfl
  | cons c cs ih =>
    obtain ⟨⟨hsigma, hstays⟩, hcs⟩ := List.forall_mem_cons.mp h
    rw [lowerFrom, if_neg (by simpa using hsigma), hstays, ih hcs, List.singleton_append]

/-- A text in lower case is its own lower case. -/
theorem lower_lower (s : String) : lower (lower s) = lower s := by
  simp only [lower, String.toList_ofList]
  rw [lowerFrom_eq_self fun c hc => isLower_of_mem_lowerFrom hc]

/-- The letters of ASCII, and all else of it, are put into lower case one by one. -/
theorem lower_of_ascii {s : String} (h : ∀ c ∈ s.toList, c.toNat < 0x80) :
    lower s = String.ofList (s.toList.map Char.toLower) := by
  have hfrom : ∀ (cs before : List Char), (∀ c ∈ cs, c.toNat < 0x80) →
      lowerFrom before cs = cs.map Char.toLower := by
    intro cs
    induction cs with
    | nil => exact fun _ _ => rfl
    | cons c cs ih =>
      intro before hcs
      obtain ⟨hc, hrest⟩ := List.forall_mem_cons.mp hcs
      have hsigma : ¬ (c.toNat == 0x3a3) = true := by
        rw [beq_iff_eq]
        omega
      rw [lowerFrom, if_neg hsigma, lowerChar, if_pos hc, ih _ hrest]
      rfl
  rw [lower, hfrom _ _ h]

/-! ### Letters of ASCII -/

section Letters

variable {c : Char}

theorem isUpper_iff : c.isUpper = true ↔ 65 ≤ c.toNat ∧ c.toNat ≤ 90 :=
  decide_eq_true_iff

theorem isLower_iff : c.isLower = true ↔ 97 ≤ c.toNat ∧ c.toNat ≤ 122 := by
  change (decide (97 ≤ c.toNat) && decide (c.toNat ≤ 122)) = true ↔ _
  rw [Bool.and_eq_true, decide_eq_true_iff, decide_eq_true_iff]

theorem isAlpha_iff : c.isAlpha = true ↔ c.isUpper = true ∨ c.isLower = true :=
  Bool.or_eq_true_iff

theorem isAlphanum_iff : c.isAlphanum = true ↔ c.isAlpha = true ∨ c.isDigit = true :=
  Bool.or_eq_true_iff

/-- What is no capital stays as it is. -/
theorem toLower_eq_self (h : ¬ c.isUpper = true) : c.toLower = c :=
  dif_neg fun hc => h (decide_eq_true hc)

end Letters

end FluentSql.Text
