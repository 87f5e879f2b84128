import FluentSql.Proofs.Text.Case
import FluentSql.Url.Percent

/-!
# Percent-encoding

`Url.encode` writes ASCII letters and digits as they are, and every other character by the bytes of
its UTF-8 form, each in two hexadecimal digits behind a percent sign. Every text is read back from
its encoded form (`Url.unquote_encode`). What is written without being read back keeps its percent
signs: only a text of letters and digits is its own encoded form (`Url.encoded_eq_self_iff`).
-/

namespace FluentSql.Url

/-- A hexadecimal digit, in upper case. -/
def hexDigit (n : Nat) : Char :=
  Char.ofNat (if n < 10 then 48 + n else 55 + n)

/-- A byte behind a percent sign. -/
def escapeByte (b : UInt8) : List Char :=
  ['%', hexDigit (b.toNat / 16), hexDigit (b.toNat % 16)]

/-- A character in percent-encoded form. -/
def encodeChar (c : Char) : List Char :=
  if c.isAlphanum then [c] else (String.utf8EncodeChar c).flatMap escapeByte

/-- A text in percent-encoded form. -/
def encode (cs : List Char) : List Char :=
  cs.flatMap encodeChar

theorem toNat_of_isAlphanum {c : Char} (h : c.isAlphanum = true) :
    0x20 < c.toNat ∧ c.toNat < 0x80 := by
  rw [Text.isAlphanum_iff, Text.isAlpha_iff, Text.isUpper_iff, Text.isLower_iff,
    Char.isDigit_iff_toNat] at h
  have hzero : '0'.toNat = 48 := rfl
  have hnine : '9'.toNat = 57 := rfl
  omega

/-- A string in percent-encoded form. -/
def encoded (s : String) : String :=
  String.ofList (encode s.toList)

/-! ### UTF-8 -/

/-- The bytes of a character in UTF-8. -/
def utf8Bytes (c : Char) : List Nat :=
  (String.utf8EncodeChar c).map UInt8.toNat

section Decoding

variable {b : Nat} {p : Pending} (rest : List Nat)

theorem decodeUtf8_ascii (h : b < 0x80) :
    decodeUtf8 none (b :: rest) = Char.ofNat b :: decodeUtf8 none rest := by
  rw [decodeUtf8]
  simp only [if_pos h, List.nil_append]

theorem decodeUtf8_lead {l : Lead} (hb : ¬ b < 0x80) (hl : lead? b = some l) :
    decodeUtf8 none (b :: rest) =
      decodeUtf8 (some ⟨l.bits, l.following, l.least, l.greatest⟩) rest := by
  rw [decodeUtf8]
  simp only [if_neg hb, hl, List.nil_append]

theorem decodeUtf8_last (hb : p.least ≤ b ∧ b ≤ p.greatest) (hlast : p.missing ≤ 1) :
    decodeUtf8 (some p) (b :: rest) =
      Char.ofNat (p.bits * 64 + (b - 0x80)) :: decodeUtf8 none rest := by
  rw [decodeUtf8]
  simp only [if_pos hb, if_pos hlast]

theorem decodeUtf8_next (hb : p.least ≤ b ∧ b ≤ p.greatest) (hmore : ¬ p.missing ≤ 1) :
    decodeUtf8 (some p) (b :: rest) =
      decodeUtf8 (some ⟨p.bits * 64 + (b - 0x80), p.missing - 1, 0x80, 0xbf⟩) rest := by
  rw [decodeUtf8]
  simp only [if_pos hb, if_neg hmore]

end Decoding

/-- The lead byte of three bytes fixes the range of the second one, so that no longer form than
needed and no surrogate is read. -/
theorem exists_lead_of_three {v : Nat} (hlow : 0x7ff < v) (hhigh : v ≤ 0xffff)
    (hvalid : v < 0xd800 ∨ 0xdfff < v) :
    ∃ l, lead? (v / 4096 % 0x10 + 0xe0) = some l ∧ l.bits = v / 4096 ∧ l.following = 2 ∧
      l.least ≤ v / 64 % 0x40 + 0x80 ∧ v / 64 % 0x40 + 0x80 ≤ l.greatest := by
  rw [lead?, if_neg (by omega)]
  split
  · exact ⟨_, rfl, by dsimp only; omega, rfl, by dsimp only; omega, by dsimp only; omega⟩
  split
  · exact ⟨_, rfl, by dsimp only; omega, rfl, by dsimp only; omega, by dsimp only; omega⟩
  · rw [if_pos (by omega)]
    exact ⟨_, rfl, by dsimp only; omega, rfl, by dsimp only; omega, by dsimp only; omega⟩

/-- The same for four bytes, and no number is read that is too large for a character. -/
theorem exists_lead_of_four {v : Nat} (hlow : 0xffff < v) (hhigh : v < 0x110000) :
    ∃ l, lead? (v / 262144 % 0x08 + 0xf0) = some l ∧ l.bits = v / 262144 ∧ l.following = 3 ∧
      l.least ≤ v / 4096 % 0x40 + 0x80 ∧ v / 4096 % 0x40 + 0x80 ≤ l.greatest := by
  rw [lead?, if_neg (by omega), if_neg (by omega), if_neg (by omega), if_neg (by omega)]
  split
  · exact ⟨_, rfl, by dsimp only; omega, rfl, by dsimp only; omega, by dsimp only; omega⟩
  split
  · exact ⟨_, rfl, by dsimp only; omega, rfl, by dsimp only; omega, by dsimp only; omega⟩
  · rw [if_pos (by omega)]
    exact ⟨_, rfl, by dsimp only; omega, rfl, by dsimp only; omega, by dsimp only; omega⟩

section Forms

variable {v : Nat} (rest : List Nat)

theorem decodeUtf8_two (hlow : 0x7f < v) (hhigh : v ≤ 0x7ff) :
    decodeUtf8 none ((v / 64 % 0x20 + 0xc0) :: (v % 0x40 + 0x80) :: rest) =
      Char.ofNat v :: decodeUtf8 none rest := by
  rw [decodeUtf8_lead _ (by omega) (if_pos (by omega)),
    decodeUtf8_last _ (by dsimp only; omega) (Nat.le_refl 1)]
  dsimp only
  rw [show (v / 64 % 0x20 + 0xc0 - 0xc0) * 64 + (v % 0x40 + 0x80 - 0x80) = v by omega]

theorem decodeUtf8_three (hlow : 0x7ff < v) (hhigh : v ≤ 0xffff)
    (hvalid : v < 0xd800 ∨ 0xdfff < v) :
    decodeUtf8 none ((v / 4096 % 0x10 + 0xe0) :: (v / 64 % 0x40 + 0x80) ::
      (v % 0x40 + 0x80) :: rest) = Char.ofNat v :: decodeUtf8 none rest := by
  obtain ⟨l, hl, hbits, hfollowing, hleast, hgreatest⟩ := exists_lead_of_three hlow hhigh hvalid
  rw [decodeUtf8_lead _ (by omega) hl,
    decodeUtf8_next _ ⟨hleast, hgreatest⟩ (by dsimp only; omega),
    decodeUtf8_last _ (by dsimp only; omega) (by dsimp only; omega)]
  dsimp only
  rw [hbits, show (v / 4096 * 64 + (v / 64 % 0x40 + 0x80 - 0x80)) * 64 +
    (v % 0x40 + 0x80 - 0x80) = v by omega]

theorem decodeUtf8_four (hlow : 0xffff < v) (hhigh : v < 0x110000) :
    decodeUtf8 none ((v / 262144 % 0x08 + 0xf0) :: (v / 4096 % 0x40 + 0x80) ::
      (v / 64 % 0x40 + 0x80) :: (v % 0x40 + 0x80) :: rest) =
      Char.ofNat v :: decodeUtf8 none rest := by
  obtain ⟨l, hl, hbits, hfollowing, hleast, hgreatest⟩ := exists_lead_of_four hlow hhigh
  rw [decodeUtf8_lead _ (by omega) hl,
    decodeUtf8_next _ ⟨hleast, hgreatest⟩ (by dsimp only; omega),
    decodeUtf8_next _ (by dsimp only; omega) (by dsimp only; omega),
    decodeUtf8_last _ (by dsimp only; omega) (by dsimp only; omega)]
  dsimp only
  rw [hbits, show ((v / 262144 * 64 + (v / 4096 % 0x40 + 0x80 - 0x80)) * 64 +
    (v / 64 % 0x40 + 0x80 - 0x80)) * 64 + (v % 0x40 + 0x80 - 0x80) = v by omega]

end Forms

/-- A character is read back from its bytes, whatever comes behind them. -/
theorem decodeUtf8_utf8Bytes (c : Char) (rest : List Nat) :
    decodeUtf8 none (utf8Bytes c ++ rest) = c :: decodeUtf8 none rest := by
  have hvalid : c.toNat < 0xd800 ∨ 0xdfff < c.toNat ∧ c.toNat < 0x110000 := c.valid
  have hbyte : ∀ n < 256, (UInt8.ofNat n).toNat = n := fun n hn => Nat.mod_eq_of_lt hn
  rw [utf8Bytes, String.utf8EncodeChar]
  simp only [Char.toNat_val]
  -- one case for each length of the form
  split
  · next hone =>
    rw [List.map_singleton, hbyte _ (by omega), List.singleton_append,
      decodeUtf8_ascii _ (by omega), Char.ofNat_toNat]
  split
  · next hone htwo =>
    simp only [List.map_cons, List.map_nil, List.cons_append, List.nil_append]
    rw [hbyte _ (by omega), hbyte _ (by omega), decodeUtf8_two rest (by omega) htwo,
      Char.ofNat_toNat]
  split
  · next htwo hthree =>
    simp only [List.map_cons, List.map_nil, List.cons_append, List.nil_append]
    rw [hbyte _ (by omega), hbyte _ (by omega), hbyte _ (by omega),
      decodeUtf8_three rest (by omega) hthree (by omega), Char.ofNat_toNat]
  · next hthree =>
    simp only [List.map_cons, List.map_nil, List.cons_append, List.nil_append]
    rw [hbyte _ (by omega), hbyte _ (by omega), hbyte _ (by omega), hbyte _ (by omega),
      decodeUtf8_four rest (by omega) (by omega), Char.ofNat_toNat]

/-! ### Percent signs -/

theorem hexDigit?_hexDigit {n : Nat} (h : n < 16) : hexDigit? (hexDigit n) = some n := by
  revert n
  decide

theorem unquoteFrom_escapeByte (bytes : List Nat) (b : UInt8) (rest : List Char) :
    unquoteFrom bytes (escapeByte b ++ rest) = unquoteFrom (b.toNat :: bytes) rest := by
  have hb := b.toNat_lt
  rw [escapeByte, List.cons_append, List.cons_append, List.singleton_append, unquoteFrom,
    hexDigit?_hexDigit (by omega), hexDigit?_hexDigit (by omega)]
  dsimp only
  rw [show 16 * (b.toNat / 16) + b.toNat % 16 = b.toNat by omega]

theorem unquoteFrom_escapes (bytes : List Nat) (bs : List UInt8) (rest : List Char) :
    unquoteFrom bytes (bs.flatMap escapeByte ++ rest) =
      unquoteFrom ((bs.map UInt8.toNat).reverse ++ bytes) rest := by
  induction bs generalizing bytes with
  | nil => rfl
  | cons b bs ih =>
    rw [List.flatMap_cons, List.append_assoc, unquoteFrom_escapeByte, ih, List.map_cons,
      List.reverse_cons, List.append_assoc, List.singleton_append]

theorem unquoteFrom_plain {c : Char} (bytes : List Nat) (rest : List Char) (hc : c ≠ '%')
    (hascii : c.toNat < 0x80) :
    unquoteFrom bytes (c :: rest) = unquoteFrom (c.toNat :: bytes) rest := by
  rw [unquoteFrom]
  · exact if_pos hascii
  · exact fun _ _ _ h => absurd h hc

theorem utf8Bytes_of_ascii {c : Char} (h : c.toNat < 0x80) : utf8Bytes c = [c.toNat] := by
  have hbyte : (UInt8.ofNat c.toNat).toNat = c.toNat := Nat.mod_eq_of_lt (by omega)
  rw [utf8Bytes, String.utf8EncodeChar, Char.toNat_val, if_pos (by omega), List.map_singleton,
    hbyte]

/-- A character in encoded form adds its bytes to those that have been read. -/
theorem unquoteFrom_encodeChar (bytes : List Nat) (c : Char) (rest : List Char) :
    unquoteFrom bytes (encodeChar c ++ rest) =
      unquoteFrom ((utf8Bytes c).reverse ++ bytes) rest := by
  rw [encodeChar]
  split
  · next hplain =>
    have hascii := (toNat_of_isAlphanum hplain).2
    rw [utf8Bytes_of_ascii hascii]
    exact unquoteFrom_plain bytes rest (fun h => absurd (h ▸ hplain) (by decide)) hascii
  · exact unquoteFrom_escapes bytes _ rest

theorem unquoteFrom_encode (bytes : List Nat) (cs : List Char) :
    unquoteFrom bytes (encode cs) = decodeUtf8 none (bytes.reverse ++ cs.flatMap utf8Bytes) := by
  induction cs generalizing bytes with
  | nil => rw [encode, List.flatMap_nil, List.flatMap_nil, unquoteFrom, List.append_nil]
  | cons c cs ih =>
    rw [encode, List.flatMap_cons, unquoteFrom_encodeChar, ← encode, ih, List.reverse_append,
      List.reverse_reverse, List.flatMap_cons, List.append_assoc]

theorem decodeUtf8_flatMap_utf8Bytes (cs : List Char) :
    decodeUtf8 none (cs.flatMap utf8Bytes) = cs := by
  induction cs with
  | nil => rfl
  | cons c cs ih => rw [List.flatMap_cons, decodeUtf8_utf8Bytes, ih]

/-- A text is read back from its percent-encoded form. -/
theorem unquote_encode (cs : List Char) : unquote (encode cs) = cs := by
  rw [unquote, unquoteFrom_encode, List.reverse_nil, List.nil_append,
    decodeUtf8_flatMap_utf8Bytes]

/-! ### The characters of an encoded text -/

/-- A character that delimits no parts of a URL: a letter, a digit, a percent sign, a point or a
hyphen. -/
def IsPlain (c : Char) : Prop :=
  c.isAlphanum = true ∨ c = '%' ∨ c = '.' ∨ c = '-'

instance (c : Char) : Decidable (IsPlain c) :=
  inferInstanceAs (Decidable (_ ∨ _))

theorem IsPlain.toNat_mem {c : Char} (h : IsPlain c) : 0x20 < c.toNat ∧ c.toNat < 0x80 := by
  obtain h | rfl | rfl | rfl := h
  · exact toNat_of_isAlphanum h
  · decide
  · decide
  · decide

theorem isAlphanum_hexDigit {n : Nat} (h : n < 16) : (hexDigit n).isAlphanum = true := by
  revert n
  decide

theorem isPlain_of_mem_escapeByte {b : UInt8} {c : Char} (h : c ∈ escapeByte b) : IsPlain c := by
  have hb := b.toNat_lt
  simp only [escapeByte, List.mem_cons, List.not_mem_nil, or_false] at h
  obtain rfl | rfl | rfl := h
  · exact .inr (.inl rfl)
  · exact .inl (isAlphanum_hexDigit (by omega))
  · exact .inl (isAlphanum_hexDigit (by omega))

/-- An encoded text has no delimiters in it. -/
theorem isPlain_of_mem_encode {cs : List Char} {c : Char} (h : c ∈ encode cs) : IsPlain c := by
  rw [encode, List.mem_flatMap] at h
  obtain ⟨d, -, h⟩ := h
  rw [encodeChar] at h
  split at h
  · next hd => exact .inl (List.mem_singleton.mp h ▸ hd)
  · obtain ⟨b, -, h⟩ := List.mem_flatMap.mp h
    exact isPlain_of_mem_escapeByte h

theorem isPlain_of_mem_encoded {s : String} {c : Char} (h : c ∈ (encoded s).toList) :
    IsPlain c := by
  rw [encoded, String.toList_ofList] at h
  exact isPlain_of_mem_encode h

/-! ### Texts that are their own encoded form -/

theorem length_flatMap_escapeByte (bs : List UInt8) :
    (bs.flatMap escapeByte).length = 3 * bs.length := by
  induction bs with
  | nil => rfl
  | cons b bs ih => rw [List.flatMap_cons, List.length_append, ih]; simp [escapeByte]; omega

theorem one_lt_length_encodeChar {c : Char} (h : c.isAlphanum = false) :
    1 < (encodeChar c).length := by
  have hbytes : 0 < (String.utf8EncodeChar c).length := by
    rw [String.length_utf8EncodeChar]
    exact Char.utf8Size_pos c
  rw [encodeChar, if_neg (by simp [h]), length_flatMap_escapeByte]
  omega

theorem length_le_length_encode (cs : List Char) : cs.length ≤ (encode cs).length := by
  induction cs with
  | nil => exact Nat.le_refl 0
  | cons c cs ih =>
    have hc : 1 ≤ (encodeChar c).length := by
      cases h : c.isAlphanum with
      | false => exact Nat.le_of_lt (one_lt_length_encodeChar h)
      | true => simp [encodeChar, h]
    simp only [encode, List.flatMap_cons, List.length_append, List.length_cons] at ih ⊢
    omega

/-- Only a text of letters and digits is its own encoded form. -/
theorem encode_eq_self_iff {cs : List Char} :
    encode cs = cs ↔ ∀ c ∈ cs, c.isAlphanum = true := by
  induction cs with
  | nil => simp [encode]
  | cons c cs ih =>
    have hcons : encode (c :: cs) = encodeChar c ++ encode cs := List.flatMap_cons
    rw [hcons, List.forall_mem_cons]
    cases h : c.isAlphanum with
    | true =>
      rw [encodeChar, if_pos h, List.singleton_append, List.cons_inj_right, ih]
      simp
    | false =>
      -- the form of this character is too long for the whole to be the text
      have hlong := one_lt_length_encodeChar h
      have hrest := length_le_length_encode cs
      refine ⟨fun heq => ?_, fun hall => absurd hall.1 (by simp)⟩
      have hlength := congrArg List.length heq
      rw [List.length_append, List.length_cons] at hlength
      omega

theorem encoded_eq_self_iff {s : String} :
    encoded s = s ↔ ∀ c ∈ s.toList, c.isAlphanum = true := by
  rw [← encode_eq_self_iff, encoded, ← String.toList_inj, String.toList_ofList]

theorem encoded_ne_empty {s : String} (h : s ≠ "") : encoded s ≠ "" := by
  intro hempty
  have hlength := length_le_length_encode s.toList
  rw [encoded, String.ofList_eq_empty_iff] at hempty
  rw [hempty, List.length_nil, Nat.le_zero, List.length_eq_zero_iff] at hlength
  exact h (String.toList_eq_nil_iff.mp hlength)

end FluentSql.Url
