import FluentSql.Console
import FluentSql.Proofs.Results
import FluentSql.Proofs.Settings.Agreement
import FluentSql.Proofs.Settings.Path
import Mathlib.Algebra.Group.Nat.Defs

/-!
# Settings that commands load

A command takes its settings from texts: a URL, an INI file or environment variables. What comes of
texts can be shown, and names its database by text. What does not come of them is refused with a
fault that the command reports; only a file that cannot be read as an INI file ends with one of the
faults of such files. `Settings.load_endsIn` is the main result.
-/

namespace FluentSql

/-! ### Numerals -/

namespace Text

theorem decimalDigit?_lt {c : Char} {d : Nat} (h : decimalDigit? c = some d) : d < 10 := by
  obtain ⟨first, hfirst, rfl⟩ := Option.map_eq_some_iff.mp h
  have hspan := List.find?_some hfirst
  simp only [Bool.and_eq_true, decide_eq_true_eq] at hspan
  omega

theorem lt_of_mem_digitRun (cs : List Char) : ∀ d ∈ (digitRun cs).1, d < 10 := by
  fun_induction digitRun cs with
  | case1 => simp
  | case2 => simp
  | case3 c rest d hd ds after hrun ih =>
    rw [hrun] at ih
    exact List.forall_mem_cons.mpr ⟨decimalDigit?_lt hd, ih⟩

theorem ofDigits_lt {ds : List Nat} (h : ∀ d ∈ ds, d < 10) : ofDigits ds < 10 ^ ds.length := by
  -- by induction on the digits, for every number that was read before them
  have hfrom : ∀ n, ds.foldl (fun n d => 10 * n + d) n < (n + 1) * 10 ^ ds.length := by
    induction ds with
    | nil => simp
    | cons d ds ih =>
      obtain ⟨hd, hds⟩ := List.forall_mem_cons.mp h
      intro n
      calc (d :: ds).foldl (fun n d => 10 * n + d) n
          < (10 * n + d + 1) * 10 ^ ds.length := ih hds (10 * n + d)
        _ ≤ ((n + 1) * 10) * 10 ^ ds.length := Nat.mul_le_mul_right _ (by omega)
        _ = (n + 1) * 10 ^ (d :: ds).length := by
          rw [List.length_cons, Nat.pow_succ, Nat.mul_assoc, Nat.mul_comm 10]
  simpa [ofDigits] using hfrom 0

/-- An integer that is read from a text has no more digits than may be written. -/
theorem natAbs_lt_of_readInteger {cs : List Char} {n : Int} (h : readInteger cs = .value n) :
    n.natAbs < 10 ^ writtenDigitLimit := by
  rw [readInteger] at h
  rcases hsign : signOf (trimChars isNumeralBlank cs) with ⟨negative, body⟩
  have hdigits := ofDigits_lt (lt_of_mem_digitRun body)
  rcases hrun : digitRun body with ⟨ds, after⟩
  rw [hrun] at hdigits
  simp only [hsign, hrun] at h
  split at h
  · cases h
  split at h
  · cases h
  · next hlength =>
    split at h
    · cases h
    · cases h
      have habs : (Binary64.signed negative (ofDigits ds)).natAbs = ofDigits ds := by
        cases negative <;> simp [Binary64.signed]
      rw [habs]
      exact Nat.lt_of_lt_of_le hdigits
        (Nat.pow_le_pow_right (by decide) (Nat.le_of_not_lt hlength))

end Text

theorem exists_integerText {n : Int} (h : n.natAbs < 10 ^ writtenDigitLimit) :
    ∃ shown, integerText n = .ok shown := by
  refine ⟨toString n, ?_⟩
  rw [integerText, if_pos ((Nat.length_toDigits_le_iff (by decide) (by decide)).mpr h)]

/-! ### Settings that can be shown -/

open Console (isSettingsFault)

/-- A value that can be shown; a driver is named by text. -/
structure Setting.Sound (f : Setting) (v : Value) : Prop where
  shown : ∃ shown, v.quoted = .ok shown
  named : f = .driver → ∃ name, v = .text name

/-- All settings can be shown, and the driver is named by text. -/
def Settings.Sound (s : Settings) : Prop :=
  ∀ f, Setting.Sound f (s.get f)

namespace Setting

variable {f : Setting}

theorem Sound.text (f : Setting) (s : String) : f.Sound (.text s) :=
  ⟨⟨_, rfl⟩, fun _ => ⟨s, rfl⟩⟩

theorem Sound.int (hf : f ≠ .driver) {n : Int} (h : n.natAbs < 10 ^ writtenDigitLimit) :
    f.Sound (.int n) :=
  ⟨exists_integerText h, fun hdriver => absurd hdriver hf⟩

theorem Sound.float (hf : f ≠ .driver) (x : Binary64) : f.Sound (.float x) :=
  ⟨⟨_, rfl⟩, fun hdriver => absurd hdriver hf⟩

theorem Sound.null (hf : f ≠ .driver) : f.Sound .null :=
  ⟨⟨_, rfl⟩, fun hdriver => absurd hdriver hf⟩

/-- A text gives an integer that can be shown, or is refused. -/
theorem toInteger_text (s : String) :
    EndsIn (Value.text s).toInteger (fun n => n.natAbs < 10 ^ writtenDigitLimit)
      (isSettingsFault · = true) := by
  rw [Value.toInteger, Value.integerOf]
  split
  · next hread => exact .done (Text.natAbs_lt_of_readInteger hread)
  · exact .fails rfl
  · exact .fails rfl

/-- A text gives a decimal number, or is refused. -/
theorem toDecimal_text (s : String) :
    EndsIn (Value.text s).toDecimal (fun _ => True) (isSettingsFault · = true) := by
  rw [Value.toDecimal, Value.decimalOf]
  split
  · exact .done trivial
  · exact .fails rfl

/-- What a text gives for a setting can be shown, and is taken again for the same setting. -/
theorem coerce_endsIn (f : Setting) (s : String) :
    EndsIn (f.coerce (.text s))
      (fun v => f.Sound v ∧ EndsIn (f.coerce v) f.Sound (isSettingsFault · = true))
      (isSettingsFault · = true) := by
  have hnumber : ∀ {α : Type} {n : Except Fault α} {wrap : α → Value} {P : α → Prop},
      EndsIn n P (isSettingsFault · = true) → (∀ a, P a → f.Sound (wrap a)) →
      (∀ a, f.coerce (wrap a) = .ok (wrap a)) → f.coerce (.text s) = n.map wrap →
      EndsIn (f.coerce (.text s))
        (fun v => f.Sound v ∧ EndsIn (f.coerce v) f.Sound (isSettingsFault · = true))
        (isSettingsFault · = true) := by
    intro α n wrap P hn hsound hagain hcoerce
    rw [hcoerce]
    refine hn.map fun a ha => ⟨hsound a ha, ?_⟩
    rw [hagain]
    exact .done (hsound a ha)
  cases f with
  | port | waitTimeout =>
    exact hnumber (toInteger_text s) (fun _ => .int (by decide)) (fun _ => rfl)
      (by simp [coerce, Value.isNull])
  | connectTimeout =>
    exact hnumber (toDecimal_text s) (fun x _ => .float (by decide) x) (fun _ => rfl)
      (by simp [coerce, Value.isNull])
  | _ => exact .done ⟨.text .., .done (.text ..)⟩

end Setting

namespace Settings

variable {values overrides : List (String × Value)}

theorem Sound.default : Sound {} := by
  intro f
  cases f with
  | port => exact .null (by decide)
  | waitTimeout => exact .int (by decide) (Nat.lt_of_lt_of_le (by decide : 60 < 10 ^ 2)
      (Nat.pow_le_pow_right (by decide) (by decide)))
  | connectTimeout => exact .float (by decide) _
  | _ => exact .text ..

theorem Sound.set {s : Settings} (hs : s.Sound) {f : Setting} {v : Value} (hv : f.Sound v) :
    (s.set f v).Sound := by
  intro g
  by_cases hg : g = f
  · subst hg
    cases g <;> exact hv
  · have hsame : (s.set f v).get g = s.get g := by
      cases f <;> cases g <;> first | rfl | exact absurd rfl hg
    rw [hsame]
    exact hs g

theorem Sound.setAll {s : Settings} (hs : s.Sound) {values : List (Setting × Value)}
    (h : ∀ p ∈ values, p.1.Sound p.2) : (s.setAll values).Sound := by
  induction values generalizing s with
  | nil => exact hs
  | cons p values ih =>
    obtain ⟨hp, hvalues⟩ := List.forall_mem_cons.mp h
    exact ih (hs.set hp) hvalues

theorem Sound.exists_description {s : Settings} (hs : s.Sound) :
    ∃ shown, s.description = .ok shown := by
  obtain ⟨parts, hparts⟩ := exists_mapM_ok
    (f := fun f => (s.get f).quoted.map fun text => f.name ++ "=" ++ text)
    (l := [Setting.driver, .host, .port, .user, .schema, .database]) fun f _ => by
      obtain ⟨shown, hshown⟩ := (hs f).shown
      exact ⟨_, by rw [hshown]; rfl⟩
  rw [description, hparts]
  exact ⟨_, rfl⟩

/-- An entry that is dropped, or gives a setting that can be shown, or is refused. -/
def Readable (e : String × Value) : Prop :=
  ∀ f, Setting.ofName? e.1 = some f → EndsIn (f.coerce e.2) f.Sound (isSettingsFault · = true)

theorem readable_text (name s : String) : Readable (name, .text s) := by
  intro f _
  exact ⟨fun hv => ((f.coerce_endsIn s).of_ok hv).1, (f.coerce_endsIn s).of_error⟩

theorem readable_texts (pairs : List (String × String)) : ∀ e ∈ texts pairs, Readable e := by
  intro e he
  obtain ⟨p, -, rfl⟩ := List.mem_map.mp he
  exact readable_text p.1 p.2

/-- The port of a URL. -/
theorem readable_port {v : Value}
    (h : v = .null ∨ ∃ n, v = .int n ∧ n.natAbs < 10 ^ writtenDigitLimit) :
    Readable ("port", v) := by
  intro f hf
  obtain rfl : f = .port := (Option.some.inj hf).symm
  rcases h with rfl | ⟨n, rfl, hn⟩
  · exact .done (.null (by decide))
  · exact .done (.int (by decide) hn)

theorem coerce_endsIn (h : ∀ e ∈ values, Readable e) :
    EndsIn (coerce values) (fun vs => ∀ p ∈ vs, p.1.Sound p.2) (isSettingsFault · = true) := by
  induction values with
  | nil => exact .done nofun
  | cons e values ih =>
    obtain ⟨he, hvalues⟩ := List.forall_mem_cons.mp h
    rw [coerce]
    split
    · exact ih hvalues
    · next f hf =>
      exact (he f hf).bind fun v hv => (ih hvalues).bind fun vs hvs =>
        .done (List.forall_mem_cons.mpr ⟨hv, hvs⟩)

theorem build_endsIn (hvalues : ∀ e ∈ values, Readable e)
    (hoverrides : ∀ e ∈ overrides, Readable e) :
    EndsIn (build values overrides) Sound (isSettingsFault · = true) :=
  (coerce_endsIn hvalues).bind fun _ hvs => (coerce_endsIn hoverrides).bind fun _ hos =>
    .done ((Sound.default.setAll hvs).setAll hos)

/-- What texts give is taken again, beside a URL. -/
theorem coerce_texts_endsIn (pairs : List (String × String)) :
    EndsIn (coerce (texts pairs)) (fun vs => ∀ p ∈ vs, Readable (p.1.name, p.2))
      (isSettingsFault · = true) := by
  induction pairs with
  | nil => exact .done nofun
  | cons pair pairs ih =>
    rw [texts, List.map_cons, coerce]
    split
    · exact ih
    · next f hf =>
      refine (f.coerce_endsIn pair.2).bind fun v hv => ih.bind fun vs hvs => ?_
      refine .done (List.forall_mem_cons.mpr ⟨fun g hg => ?_, hvs⟩)
      obtain rfl := Setting.name_injective (Setting.ofName?_eq_some_iff.mp hg)
      exact hv.2

end Settings

/-! ### Sources -/

namespace Url

theorem split_endsIn (text : String) :
    EndsIn (split text) (fun _ => True) (isSettingsFault · = true) := by
  have hhost : ∀ host, EndsIn (checkHost host) (fun _ => True) (isSettingsFault · = true) := by
    intro host
    rw [checkHost]
    repeat' split
    all_goals first | exact .done trivial | exact .fails rfl
  have hbetween : ∀ info,
      EndsIn (hostBetweenBrackets info) (fun _ => True) (isSettingsFault · = true) := by
    intro info
    rw [hostBetweenBrackets]
    split
    · split
      split <;> first | exact .done trivial | exact .fails rfl
    · exact .fails rfl
    · exact .done trivial
  have hbrackets : ∀ location,
      EndsIn (checkBrackets location) (fun _ => True) (isSettingsFault · = true) := by
    intro location
    rw [checkBrackets]
    split
    · exact .fails rfl
    split
    · exact .done trivial
    · exact (hbetween _).bind fun host _ => hhost host
  rcases hlocation : splitLocation (dropScheme (clean text.toList)) with ⟨location, rest⟩
  simp only [split, hlocation]
  refine (hbrackets _).bind fun _ _ => ?_
  split
  · exact .fails rfl
  · exact .done trivial

theorem port_endsIn (u : Url) :
    EndsIn u.port (fun p => ∀ n ∈ p, n.natAbs < 10 ^ writtenDigitLimit)
      (isSettingsFault · = true) := by
  rw [port]
  split
  · exact .done nofun
  split
  · exact .fails rfl
  split
  · next hread =>
    split
    · refine .done ?_
      rintro _ ⟨⟩
      exact Text.natAbs_lt_of_readInteger hread
    · exact .fails rfl
  · exact .fails rfl
  · exact .fails rfl

end Url

namespace Settings

theorem readable_credential (name : String) (written : Option (List Char)) :
    ∀ e ∈ credential name written, Readable e := by
  intro e he
  rcases written with _ | _ | ⟨c, cs⟩
  · cases he
  · cases he
  · obtain rfl := List.mem_singleton.mp he
    exact readable_text _ _

theorem readable_databaseValues (scheme : String) (path : List Char) :
    ∀ e ∈ databaseValues scheme path, Readable e := by
  intro e he
  rw [databaseValues] at he
  split at he
  · cases he
  split at he
  · obtain rfl := List.mem_singleton.mp he
    exact readable_text _ _
  · rcases List.mem_cons.mp he with rfl | he
    · exact readable_text _ _
    · obtain rfl := List.mem_singleton.mp he
      exact readable_text _ _

theorem readable_serverEntries {scheme host : String} {port : Option Int}
    {user password : Option (List Char)} {path : List Char}
    (hport : ∀ n ∈ port, n.natAbs < 10 ^ writtenDigitLimit) :
    ∀ e ∈ ([("driver", .text scheme), ("host", .text host),
      ("port", match port with
        | some n => .int n
        | none => .null)] : List (String × Value))
      ++ credential "user" user ++ credential "password" password ++ databaseValues scheme path,
      Readable e := by
  simp only [List.forall_mem_append, List.forall_mem_cons]
  refine ⟨⟨⟨⟨readable_text _ _, readable_text _ _, readable_port ?_, List.forall_mem_nil _⟩,
    readable_credential _ _⟩, readable_credential _ _⟩, readable_databaseValues _ _⟩
  rcases port with _ | n
  · exact .inl rfl
  · exact .inr ⟨n, rfl, hport n rfl⟩

theorem urlValues_endsIn (url : String) :
    EndsIn (urlValues url) (fun values => ∀ e ∈ values, Readable e) (isSettingsFault · = true) := by
  rw [urlValues]
  split
  · refine .done ?_
    simp only [List.forall_mem_cons]
    exact ⟨readable_text _ _, readable_text _ _, nofun⟩
  split
  · exact .fails rfl
  dsimp only
  split
  · refine .done fun e he => ?_
    rw [fileValues] at he
    rcases mem_putEntries he with he | he
    · simp only [List.mem_cons, List.not_mem_nil, or_false] at he
      rcases he with rfl | rfl <;> exact readable_text _ _
    · exact readable_texts _ e he
  · rw [serverValues]
    refine (Url.split_endsIn url).bind fun u _ => (Url.port_endsIn u).bind fun port hport =>
      .done fun e he => ?_
    rcases mem_putEntries he with he | he
    · exact readable_serverEntries hport e he
    · exact readable_texts _ e he

theorem ofUrl_endsIn (url : String) {overrides : List (String × Value)}
    (h : ∀ e ∈ overrides, Readable e) :
    EndsIn (ofUrl url overrides) Sound (isSettingsFault · = true) :=
  (urlValues_endsIn url).bind fun _ hvalues => build_endsIn hvalues h

theorem besideUrl_endsIn (url : Option String) (pairs : List (String × String)) :
    EndsIn (besideUrl ((url.map Value.text).getD .null) (texts pairs)) Sound
      (isSettingsFault · = true) := by
  rw [besideUrl]
  split
  · exact build_endsIn (readable_texts pairs) (List.forall_mem_nil _)
  · next hgiven =>
    rcases url with _ | u
    · exact absurd rfl hgiven
    · refine (coerce_texts_endsIn pairs).bind fun vs hvs => ofUrl_endsIn u fun e he => ?_
      obtain ⟨p, hp, rfl⟩ := List.mem_map.mp he
      exact hvs p hp

theorem ofEnvironment_endsIn (start : String) (environment : List (String × String)) :
    EndsIn (ofEnvironment start (texts environment)) Sound (isSettingsFault · = true) := by
  have hvalues : (Setting.all.filterMap fun f =>
      ((texts environment).lookup (variableName start f)).map fun v => (f.name, v)) =
      texts (Setting.all.filterMap fun f =>
        (environment.lookup (variableName start f)).map fun s => (f.name, s)) := by
    simp only [lookup_texts]
    simp [texts, List.map_filterMap, Function.comp_def]
  rw [ofEnvironment, hvalues, lookup_texts]
  exact besideUrl_endsIn _ _

end Settings

namespace Ini

/-- A fault of an INI file that cannot be read as one. -/
def IsIniFault (f : Fault) : Prop :=
  ∃ fault, f = .ini fault

open IniReader

theorem readLine_endsIn (r : IniReader) (line : List Char) :
    EndsIn (r.readLine line) (fun _ => True) IsIniFault := by
  have hsection : ∀ (r : IniReader) name,
      EndsIn (r.startSection name) (fun _ => True) IsIniFault := by
    intro r name
    rw [startSection]
    split
    · exact .done trivial
    split
    · exact .fails ⟨_, rfl⟩
    · exact .done trivial
  have hoption : ∀ (r : IniReader) name cs,
      EndsIn (r.readOption name cs) (fun _ => True) IsIniFault := by
    intro r name cs
    rw [readOption]
    split
    · exact .done trivial
    dsimp only
    split
    · exact .fails ⟨_, rfl⟩
    · exact .done trivial
  rw [readLine]
  split
  · exact .done trivial
  split
  · exact .done trivial
  split
  · exact .done trivial
  dsimp only
  split
  · exact hsection _ _
  split
  · exact .fails ⟨_, rfl⟩
  · exact hoption _ _ _

theorem parse_endsIn (text : String) : EndsIn (parse text) (fun _ => True) IsIniFault := by
  have hlines : ∀ (lines : List (List Char)) (r : IniReader),
      EndsIn (lines.foldlM (fun r line => r.readLine line) r) (fun _ => True) IsIniFault := by
    intro lines
    induction lines with
    | nil => exact fun _ => .done trivial
    | cons line lines ih =>
      intro r
      rw [List.foldlM_cons]
      exact (readLine_endsIn r line).bind fun r' _ => ih r'
  rw [parse]
  refine (hlines _ _).bind fun r _ => ?_
  split
  · exact .fails ⟨_, rfl⟩
  · exact .done trivial

end Ini

namespace Settings

open Ini (IsIniFault)

/-- The faults with which a command may fail to load its settings. -/
def LoadFault (f : Fault) : Prop :=
  isSettingsFault f = true ∨ IsIniFault f

/-- The settings of the section `database` of a file. -/
theorem ofIni_endsIn {files : Files} {path : String} (hfile : Console.isFile files path = true) :
    EndsIn (ofIni files path (.text iniSection)) Sound LoadFault := by
  have hini : EndsIn (iniFile files (Files.normalize path)) (fun _ => True) LoadFault := by
    rw [Console.isFile] at hfile
    split at hfile
    · next text hlookup =>
      rw [iniFile]
      rcases Files.lookup_normalize hlookup with hnormal | hnormal
      · rw [hnormal]
        exact .fails (.inl rfl)
      · rw [hnormal]
        exact (Ini.parse_endsIn text).weaken fun _ => .inr
    · cases hfile
  have hsection : ∀ ini, EndsIn (iniSectionOf ini (.text iniSection)) (fun _ => True) LoadFault :=
    fun _ => .done trivial
  have hoptions : ∀ (ini : Ini) options,
      EndsIn (ini.sectionOptions options) (fun _ => True) LoadFault := fun _ _ =>
    ⟨fun _ => trivial, fun h => .inr (Ini.sectionOptions_error h)⟩
  rw [ofIni]
  refine hini.bind fun ini _ => (hsection ini).bind fun options _ => ?_
  rcases options with _ | options
  · exact .fails (.inl rfl)
  · exact (hoptions ini options).bind fun values _ =>
      (besideUrl_endsIn _ _).weaken fun _ => .inl

/-- **What settings a command loads.** They can be shown, and the driver is named by text. If they
are refused, then with a fault that a command reports, or with one of an INI file. -/
theorem load_endsIn (files : Files) (environment : List (String × String))
    (url configFile : Option String)
    (hfile : ∀ path ∈ configFile, Console.isFile files path = true) :
    EndsIn (load files (texts environment) (url.elim .null .text) (configFile.elim .null .text))
      Sound LoadFault := by
  have henvironment : EndsIn (ofEnvironment environmentStart (texts environment)) Sound LoadFault :=
    (ofEnvironment_endsIn _ environment).weaken fun _ => .inl
  have hbeside : EndsIn
      (if (configFile.elim Value.null Value.text).truthy = true then
        ofIniAt files (configFile.elim Value.null Value.text) (.text iniSection)
      else ofEnvironment environmentStart (texts environment)) Sound LoadFault := by
    by_cases hgiven : (configFile.elim Value.null Value.text).truthy = true
    · rw [if_pos hgiven]
      rcases configFile with _ | path
      · cases hgiven
      · exact ofIni_endsIn (hfile path rfl)
    · rwa [if_neg hgiven]
  rw [load]
  by_cases hgiven : (url.elim Value.null Value.text).truthy = true
  · rw [if_pos hgiven]
    rcases url with _ | u
    · cases hgiven
    · exact (ofUrl_endsIn u (List.forall_mem_nil _)).weaken fun _ => .inl
  · rwa [if_neg hgiven]

end Settings

end FluentSql
