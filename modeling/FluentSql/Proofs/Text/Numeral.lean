import FluentSql.Text.Numeral
import Mathlib.Algebra.Group.Nat.Defs

/-!
# Numerals are read back

An integer that is written in decimal digits is read back from them
(`Text.readInteger_toDigits`), unless it has more digits than are read.
-/

namespace FluentSql.Text

/-- What holds of the ten digits of ASCII holds of every digit. -/
theorem forall_isDigit {P : Char → Prop} (h : ∀ n < 10, P (Char.ofNat (48 + n))) {c : Char}
    (hc : c.isDigit = true) : P c := by
  obtain ⟨hlow, hhigh⟩ := Char.isDigit_iff_toNat.mp hc
  have hlow' : 48 ≤ c.toNat := hlow
  have hhigh' : c.toNat ≤ 57 := hhigh
  have hn := h (c.toNat - 48) (by omega)
  rwa [show 48 + (c.toNat - 48) = c.toNat by omega, Char.ofNat_toNat] at hn

/-- Numbers are written in digits. -/
theorem notMem_toDigits {n : Nat} {c : Char} (hc : c.isDigit = false) : c ∉ Nat.toDigits 10 n := by
  intro hmem
  rw [Nat.isDigit_of_mem_toDigits (by decide) (by decide) hmem] at hc
  cases hc

theorem decimalDigit?_of_isDigit {c : Char} (h : c.isDigit = true) :
    decimalDigit? c = some (c.toNat - 48) :=
  forall_isDigit (P := fun c => decimalDigit? c = some (c.toNat - 48)) (by decide +kernel) h

/-- A digit is no white space, no sign and no low line. -/
theorem isNumeralBlank_of_isDigit {c : Char} (h : c.isDigit = true) :
    isNumeralBlank c = false ∧ c ≠ '-' ∧ c ≠ '+' ∧ c ≠ '_' :=
  forall_isDigit (P := fun c => isNumeralBlank c = false ∧ c ≠ '-' ∧ c ≠ '+' ∧ c ≠ '_')
    (by decide +kernel) h

section Digits

variable {cs : List Char}

theorem trimChars_of_forall {p : Char → Bool} (h : ∀ c ∈ cs, p c = false) :
    trimChars p cs = cs := by
  have hdrop : ∀ {ds : List Char}, (∀ c ∈ ds, p c = false) → ds.dropWhile p = ds := by
    intro ds hds
    cases ds with
    | nil => rfl
    | cons d ds => rw [List.dropWhile_cons_of_neg (by simp [hds d List.mem_cons_self])]
  rw [trimChars, hdrop h, hdrop fun c hc => h c (List.mem_reverse.mp hc), List.reverse_reverse]

theorem skipLowLine_of_isDigit (h : ∀ c ∈ cs, c.isDigit = true) : skipLowLine cs = cs := by
  unfold skipLowLine
  split
  · next c rest =>
    exact absurd rfl (isNumeralBlank_of_isDigit (h '_' List.mem_cons_self)).2.2.2
  · rfl

theorem signOf_of_isDigit (h : ∀ c ∈ cs, c.isDigit = true) : signOf cs = (false, cs) := by
  unfold signOf
  split
  · exact absurd rfl (isNumeralBlank_of_isDigit (h '-' List.mem_cons_self)).2.1
  · exact absurd rfl (isNumeralBlank_of_isDigit (h '+' List.mem_cons_self)).2.2.1
  · rfl

/-- A run of digits is read to its end. -/
theorem digitRun_of_isDigit (h : ∀ c ∈ cs, c.isDigit = true) :
    digitRun cs = (cs.map (·.toNat - 48), []) := by
  induction cs with
  | nil => rw [digitRun, List.map_nil]
  | cons c cs ih =>
    obtain ⟨hc, hcs⟩ := List.forall_mem_cons.mp h
    rw [digitRun, decimalDigit?_of_isDigit hc, skipLowLine_of_isDigit hcs, ih hcs]
    rfl

end Digits

/-- An integer is read back from its digits. -/
theorem readInteger_toDigits {n : Nat} (h : n < 10 ^ integerDigitLimit) :
    readInteger (Nat.toDigits 10 n) = .value n := by
  have hdigits : ∀ c ∈ Nat.toDigits 10 n, c.isDigit = true := fun c hc =>
    Nat.isDigit_of_mem_toDigits (by decide) (by decide) hc
  have hblank : ∀ c ∈ Nat.toDigits 10 n, isNumeralBlank c = false := fun c hc =>
    (isNumeralBlank_of_isDigit (hdigits c hc)).1
  have hsome : ((Nat.toDigits 10 n).map (·.toNat - 48)).isEmpty = false := by
    rw [List.isEmpty_map, List.isEmpty_eq_false_iff]
    exact Nat.toDigits_ne_nil
  have hshort : ¬ integerDigitLimit < ((Nat.toDigits 10 n).map (·.toNat - 48)).length := by
    rw [List.length_map, Nat.not_lt]
    exact (Nat.length_toDigits_le_iff (by decide) (by decide)).mpr h
  have hvalue : ofDigits ((Nat.toDigits 10 n).map (·.toNat - 48)) = n := by
    rw [ofDigits, List.foldl_map]
    exact Nat.ofDigitChars_ten_toDigits
  rw [readInteger, trimChars_of_forall hblank, signOf_of_isDigit hdigits]
  simp only [digitRun_of_isDigit hdigits]
  rw [hsome, if_neg (by decide), if_neg hshort, if_neg (by decide), hvalue]
  rfl

end FluentSql.Text
