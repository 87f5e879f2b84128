import FluentSql.Proofs.Text.Case
import FluentSql.Proofs.Text.Numeral
import FluentSql.Proofs.Url.Encoded
import FluentSql.Proofs.Url.Splitting
import FluentSql.Url

/-!
# URLs by their parts

A URL that is written from its parts is split into these parts, where no part has a delimiter in it
(`Url.split_written`). The network location in it gives back the login, the host and the port that
it is written from (`Url.user_writtenLocation`, `Url.password_writtenLocation`,
`Url.host_writtenLocation`, `Url.port_writtenLocation`).
-/

namespace FluentSql.Url

/-- A character that is no part of a plain text does not occur in it. -/
theorem notMem_of_plain {sep : Char} {cs : List Char} (h : ∀ c ∈ cs, IsPlain c)
    (hsep : ¬ IsPlain sep) : sep ∉ cs :=
  fun hmem => hsep (h sep hmem)

/-! ### Splitting -/

/-- Characters of a network location: those of its parts and the delimiters between them. -/
def IsLocationChar (c : Char) : Prop :=
  IsPlain c ∨ c = ':' ∨ c = '@'

instance (c : Char) : Decidable (IsLocationChar c) :=
  inferInstanceAs (Decidable (_ ∨ _))

theorem IsLocationChar.toNat_mem {c : Char} (h : IsLocationChar c) :
    0x20 < c.toNat ∧ c.toNat < 0x80 := by
  obtain h | rfl | rfl := h
  · exact h.toNat_mem
  · decide
  · decide

/-- A URL from its parts. -/
def written (scheme location path : List Char) : List Char :=
  scheme ++ ':' :: '/' :: '/' :: (location ++ '/' :: path)

section Splitting

variable {scheme location path : List Char}

theorem clean_eq_self {cs : List Char} (h : ∀ c ∈ cs, 0x20 < c.toNat) : clean cs = cs := by
  have hhead : cs.dropWhile (fun c => c.toNat ≤ 0x20) = cs := by
    cases cs with
    | nil => rfl
    | cons c cs =>
      have hc := h c List.mem_cons_self
      rw [List.dropWhile_cons_of_neg]
      simpa using hc
  rw [clean, hhead, List.filter_eq_self]
  intro c hc
  have hprint := h c hc
  have hne : ∀ d : Char, d.toNat ≤ 0x20 → c ≠ d := fun d hd heq => by
    subst heq
    omega
  simp [hne '\t' (by decide), hne '\r' (by decide), hne '\n' (by decide)]

theorem dropScheme_append (hne : scheme ≠ []) (hscheme : ∀ c ∈ scheme, c.isAlpha = true)
    (rest : List Char) : dropScheme (scheme ++ ':' :: rest) = rest := by
  have hcolon : ':' ∉ scheme := fun hmem => absurd (hscheme _ hmem) (by decide)
  have hchars : scheme.all isSchemeChar = true := by
    rw [List.all_eq_true]
    intro c hc
    simp [isSchemeChar, Text.isAlphanum_iff.mpr (.inl (hscheme c hc))]
  obtain ⟨c, cs, rfl⟩ := List.exists_cons_of_ne_nil hne
  have hhead : c.isAlpha = true := hscheme c List.mem_cons_self
  rw [dropScheme, cut_append hcolon]
  simp only [hchars, List.head?_cons, Option.map_some, Option.getD_some, hhead, Bool.and_self,
    if_true]

theorem splitLocation_append (hlocation : ∀ c ∈ location, IsLocationChar c) :
    splitLocation ('/' :: '/' :: (location ++ '/' :: path)) = (location, '/' :: path) := by
  have hinside : ∀ c ∈ location, (c != '/' && c != '?' && c != '#') = true := by
    intro c hc
    have hne : ∀ d, ¬ IsLocationChar d → c ≠ d := fun d hd heq => hd (heq ▸ hlocation c hc)
    simp [hne '/' (by decide), hne '?' (by decide), hne '#' (by decide)]
  rw [splitLocation, List.takeWhile_append_of_pos hinside, List.dropWhile_append_of_pos hinside]
  simp

theorem lt_toNat_of_mem_written (hscheme : ∀ c ∈ scheme, c.isAlpha = true)
    (hlocation : ∀ c ∈ location, IsLocationChar c) (hpath : ∀ c ∈ path, IsPlain c) {c : Char}
    (h : c ∈ written scheme location path) : 0x20 < c.toNat := by
  simp only [written, List.mem_append, List.mem_cons] at h
  obtain h | rfl | rfl | rfl | h | rfl | h := h
  · exact (toNat_of_isAlphanum (Text.isAlphanum_iff.mpr (.inl (hscheme c h)))).1
  · decide
  · decide
  · decide
  · exact (hlocation c h).toNat_mem.1
  · decide
  · exact (hpath c h).toNat_mem.1

theorem checkBrackets_eq_ok (hlocation : ∀ c ∈ location, IsLocationChar c) :
    checkBrackets location = .ok () := by
  have hbracket : ∀ d, ¬ IsLocationChar d → location.contains d = false := fun d hd => by
    rw [List.contains_eq_mem, decide_eq_false]
    exact fun hmem => hd (hlocation d hmem)
  rw [checkBrackets, hbracket '[' (by decide), hbracket ']' (by decide)]
  rfl

/-- No character of ASCII hides a delimiter. -/
theorem any_hidesDelimiter_eq_false (hlocation : ∀ c ∈ location, IsLocationChar c) :
    location.any hidesDelimiter = false := by
  rw [List.any_eq_false]
  intro c hc
  have hascii := (hlocation c hc).toNat_mem.2
  simp only [hidesDelimiter, List.contains_eq_mem, List.mem_cons, List.not_mem_nil, or_false,
    decide_eq_true_eq]
  omega

/-- The parts that a URL is written from are the parts that it is split into. -/
theorem split_written (hne : scheme ≠ []) (hscheme : ∀ c ∈ scheme, c.isAlpha = true)
    (hlocation : ∀ c ∈ location, IsLocationChar c) (hpath : ∀ c ∈ path, IsPlain c) :
    split (String.ofList (written scheme location path)) = .ok ⟨location, '/' :: path, []⟩ := by
  have hpart : ∀ d, ¬ IsPlain d → d ≠ '/' → d ∉ '/' :: path := fun d hd hslash hmem => by
    obtain rfl | hmem := List.mem_cons.mp hmem
    · exact hslash rfl
    · exact hd (hpath d hmem)
  rw [split, String.toList_ofList,
    clean_eq_self fun c => lt_toNat_of_mem_written hscheme hlocation hpath, written,
    dropScheme_append hne hscheme, splitLocation_append hlocation]
  simp only [checkBrackets_eq_ok hlocation, cut_of_notMem (hpart '#' (by decide) (by decide)),
    cut_of_notMem (hpart '?' (by decide) (by decide)), any_hidesDelimiter_eq_false hlocation, bind,
    Except.bind]
  rfl

end Splitting

/-! ### The network location -/

/-- Characters of a host that is written in lower case. -/
def IsHostChar (c : Char) : Prop :=
  c.isLower = true ∨ c.isDigit = true ∨ c = '.' ∨ c = '-'

instance (c : Char) : Decidable (IsHostChar c) :=
  inferInstanceAs (Decidable (_ ∨ _))

theorem isPlain_of_isDigit {c : Char} (h : c.isDigit = true) : IsPlain c :=
  .inl (Text.isAlphanum_iff.mpr (.inr h))

theorem IsHostChar.isPlain {c : Char} (h : IsHostChar c) : IsPlain c := by
  obtain h | h | rfl | rfl := h
  · exact .inl (Text.isAlphanum_iff.mpr (.inl (Text.isAlpha_iff.mpr (.inr h))))
  · exact isPlain_of_isDigit h
  · decide
  · decide

theorem IsHostChar.toLower_eq {c : Char} (h : IsHostChar c) : c.toLower = c := by
  refine Text.toLower_eq_self fun hupper => ?_
  rw [Text.isUpper_iff] at hupper
  obtain h | h | rfl | rfl := h
  · rw [Text.isLower_iff] at h
    omega
  · have hnine : '9'.toNat = 57 := rfl
    rw [Char.isDigit_iff_toNat] at h
    omega
  · exact absurd hupper.1 (by decide)
  · exact absurd hupper.1 (by decide)

/-- A host with its port. -/
def writtenHost (host : List Char) (port : Option Nat) : List Char :=
  host ++ port.elim [] fun n => ':' :: Nat.toDigits 10 n

/-- A network location from its parts. -/
def writtenLocation (login : Option (List Char × List Char)) (host : List Char)
    (port : Option Nat) : List Char :=
  login.elim [] (fun l => l.1 ++ ':' :: l.2 ++ ['@']) ++ writtenHost host port

section Location

variable {login : Option (List Char × List Char)} {host : List Char} {port : Option Nat}
  (path : List Char) (hlogin : ∀ l ∈ login, (∀ c ∈ l.1, IsPlain c) ∧ ∀ c ∈ l.2, IsPlain c)
  (hhost : ∀ c ∈ host, IsHostChar c)

theorem isPlain_of_mem_toDigits {n : Nat} {c : Char} (h : c ∈ Nat.toDigits 10 n) : IsPlain c :=
  isPlain_of_isDigit (Nat.isDigit_of_mem_toDigits (by decide) (by decide) h)

include hhost in
theorem isPlain_or_colon_of_mem {c : Char} (h : c ∈ writtenHost host port) :
    IsPlain c ∨ c = ':' := by
  rcases List.mem_append.mp h with h | h
  · exact .inl (hhost c h).isPlain
  · cases port with
    | none => cases h
    | some n =>
      obtain rfl | h := List.mem_cons.mp h
      · exact .inr rfl
      · exact .inl (isPlain_of_mem_toDigits h)

include hlogin hhost in
theorem isLocationChar_of_mem {c : Char} (h : c ∈ writtenLocation login host port) :
    IsLocationChar c := by
  rcases List.mem_append.mp h with h | h
  · cases login with
    | none => cases h
    | some l =>
      obtain ⟨huser, hpassword⟩ := hlogin l rfl
      simp only [Option.elim_some, List.mem_append, List.mem_cons, List.not_mem_nil,
        or_false] at h
      obtain (h | rfl | h) | rfl := h
      · exact .inl (huser c h)
      · exact .inr (.inl rfl)
      · exact .inl (hpassword c h)
      · exact .inr (.inr rfl)
  · exact (isPlain_or_colon_of_mem hhost h).imp_right .inl

include hhost in
/-- The login ends at the last `@`, since none stands behind it. -/
theorem cutLast_writtenLocation : cutLast '@' (writtenLocation login host port) =
    (login.map fun l => l.1 ++ ':' :: l.2, writtenHost host port) := by
  have hrest : '@' ∉ writtenHost host port := fun hmem =>
    absurd (isPlain_or_colon_of_mem hhost hmem) (by decide)
  cases login with
  | none => exact cutLast_of_notMem hrest
  | some l =>
    rw [writtenLocation, Option.elim_some, List.append_assoc, List.singleton_append,
      cutLast_append _ hrest, Option.map_some]

include hlogin hhost in
theorem user_writtenLocation (query : List Char) :
    (Url.mk (writtenLocation login host port) path query).user = login.map Prod.fst := by
  rw [user, cutLast_writtenLocation hhost]
  cases login with
  | none => rfl
  | some l =>
    have hcolon : ':' ∉ l.1 := notMem_of_plain (hlogin l rfl).1 (by decide)
    rw [Option.map_some, Option.map_some, cut_append hcolon, Option.map_some]

include hlogin hhost in
theorem password_writtenLocation (query : List Char) :
    (Url.mk (writtenLocation login host port) path query).password = login.map Prod.snd := by
  rw [password, cutLast_writtenLocation hhost]
  cases login with
  | none => rfl
  | some l =>
    have hcolon : ':' ∉ l.1 := notMem_of_plain (hlogin l rfl).1 (by decide)
    rw [Option.map_some, Option.bind_some, cut_append hcolon, Option.map_some]

include hhost in
theorem hostAndPort_writtenLocation (query : List Char) :
    (Url.mk (writtenLocation login host port) path query).hostAndPort =
      (host, port.elim [] (Nat.toDigits 10)) := by
  have hbracket : '[' ∉ writtenHost host port := fun hmem =>
    absurd (isPlain_or_colon_of_mem hhost hmem) (by decide)
  have hcolon : ':' ∉ host := notMem_of_plain (fun c hc => (hhost c hc).isPlain) (by decide)
  rw [hostAndPort, cutLast_writtenLocation hhost]
  simp only [cut_of_notMem hbracket]
  rw [writtenHost]
  cases port with
  | none => rw [Option.elim_none, List.append_nil, cut_of_notMem hcolon]; rfl
  | some n => rw [Option.elim_some, cut_append hcolon]; rfl

include hhost in
theorem host_writtenLocation (query : List Char) :
    (Url.mk (writtenLocation login host port) path query).host = String.ofList host := by
  have hpercent : '%' ∉ host := fun hmem => absurd (hhost _ hmem) (by decide)
  have hascii : ∀ c ∈ (String.ofList host).toList, c.toNat < 0x80 := by
    rw [String.toList_ofList]
    exact fun c hc => (hhost c hc).isPlain.toNat_mem.2
  have hlower : host.map Char.toLower = host :=
    (List.map_congr_left fun c hc => (hhost c hc).toLower_eq).trans (List.map_id host)
  rw [Url.host, hostAndPort_writtenLocation path hhost, cut_of_notMem hpercent]
  simp only [Text.lower_of_ascii hascii, String.toList_ofList, hlower, String.append_empty]

include hhost in
theorem port_writtenLocation (query : List Char) (hport : ∀ n ∈ port, n ≤ 65535) :
    (Url.mk (writtenLocation login host port) path query).port =
      .ok (port.map fun n : Nat => (n : Int)) := by
  rw [Url.port, hostAndPort_writtenLocation path hhost]
  cases port with
  | none => rfl
  | some n =>
    have hn : n ≤ 65535 := hport n rfl
    have hsome : (Nat.toDigits 10 n).isEmpty = false :=
      List.isEmpty_eq_false_iff.mpr Nat.toDigits_ne_nil
    have hdigits : (Nat.toDigits 10 n).all Char.isDigit = true := List.all_eq_true.mpr fun c hc =>
      Nat.isDigit_of_mem_toDigits (by decide) (by decide) hc
    have hread : Text.readInteger (Nat.toDigits 10 n) = .value n := by
      have hlimit : 10 ^ 5 ≤ 10 ^ Text.integerDigitLimit :=
        Nat.pow_le_pow_right (by decide) (by decide)
      exact Text.readInteger_toDigits (by omega)
    rw [Option.elim_some]
    simp only [hsome, hdigits, hread]
    rw [if_neg (by decide), if_neg (by decide), if_pos (by omega)]
    rfl

end Location

end FluentSql.Url
