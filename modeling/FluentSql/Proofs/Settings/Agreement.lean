import FluentSql.Proofs.Settings.Document
import FluentSql.Settings.Source
import Mathlib.Data.List.Perm.Basic
import Mathlib.Data.List.Nodup

/-!
# Sources of settings agree

The same texts give the same settings, whether they come from the section of an INI file, from
environment variables or, for a URL, from the URL itself (`Settings.sources_agree`). The file has to
double the percent signs of the texts, since a single one begins a reference there; a text without
percent signs is written as it is.

A percent-encoded URL is refused if it is written into a file as it is
(`Settings.lone_percent_refused`).
-/

namespace FluentSql

namespace Setting

theorem ofName?_eq_some_iff {s : String} {f : Setting} : ofName? s = some f ↔ s = f.name := by
  constructor
  · intro h
    have hname := List.find?_some h
    exact (eq_of_beq hname).symm
  · rintro rfl
    cases f <;> rfl

theorem name_injective : Function.Injective name := by
  intro f g h
  have hf := ofName?_eq_some_iff.mpr (rfl : f.name = f.name)
  rw [h, ofName?_eq_some_iff.mpr rfl] at hf
  exact (Option.some.inj hf).symm

/-- A text is converted to the type of a setting, and then it has the type, or it is refused as a
malformed number. -/
theorem coerce_text (f : Setting) (s : String) :
    (∃ v w, f.coerce (.text s) = .ok v ∧ f.coerce v = .ok w) ∨
      ∃ n, f.coerce (.text s) = .error (.number n) := by
  have hinteger : (∃ n, (Value.text s).toInteger.map Value.int = .ok (.int n)) ∨
      ∃ n, (Value.text s).toInteger.map Value.int = .error (.number n) := by
    rw [Value.toInteger, Value.integerOf]
    split
    · exact .inl ⟨_, rfl⟩
    · exact .inr ⟨_, rfl⟩
    · exact .inr ⟨_, rfl⟩
  have hdecimal : (∃ x, (Value.text s).toDecimal.map Value.float = .ok (.float x)) ∨
      ∃ n, (Value.text s).toDecimal.map Value.float = .error (.number n) := by
    rw [Value.toDecimal, Value.decimalOf]
    split
    · exact .inl ⟨_, rfl⟩
    · exact .inr ⟨_, rfl⟩
  cases f with
  | port | waitTimeout => exact hinteger.imp_left fun ⟨n, hn⟩ => ⟨.int n, .int n, hn, rfl⟩
  | connectTimeout => exact hdecimal.imp_left fun ⟨x, hx⟩ => ⟨.float x, .float x, hx, rfl⟩
  | _ => exact .inl ⟨_, _, rfl, rfl⟩

end Setting

namespace Settings

/-! ### The order of settings -/

theorem set_comm {f g : Setting} (h : f ≠ g) (s : Settings) (v w : Value) :
    (s.set f v).set g w = (s.set g w).set f v := by
  cases f <;> cases g <;> first | rfl | exact absurd rfl h

/-- Different settings can be replaced in any order. -/
theorem setAll_perm {values values' : List (Setting × Value)} (h : values.Perm values')
    (hnodup : (values.map Prod.fst).Nodup) (s : Settings) :
    s.setAll values = s.setAll values' := by
  refine h.foldl_eq' (fun e he e' he' s => ?_) s
  by_cases hkey : e.1 = e'.1
  · rw [List.inj_on_of_nodup_map hnodup he he' hkey]
  · exact set_comm hkey s e.2 e'.2

/-- An entry is dropped, or has a value that can be converted to the type of its setting. -/
def Converts (e : String × Value) : Prop :=
  ∀ f, Setting.ofName? e.1 = some f → ∃ v, f.coerce e.2 = .ok v

/-- An entry is dropped, or is converted, or is refused as a malformed number. -/
def Numeric (e : String × Value) : Prop :=
  ∀ f, Setting.ofName? e.1 = some f →
    (∃ v, f.coerce e.2 = .ok v) ∨ ∃ n, f.coerce e.2 = .error (.number n)

/-- What an entry is converted to. -/
def converted (e : String × Value) : Option (Setting × Value) :=
  (Setting.ofName? e.1).bind fun f => (f.coerce e.2).toOption.map (f, ·)

theorem converted_eq_some_iff {e : String × Value} {f : Setting} {v : Value} :
    converted e = some (f, v) ↔ e.1 = f.name ∧ f.coerce e.2 = .ok v := by
  constructor
  · intro h
    obtain ⟨g, hg, hv⟩ := Option.bind_eq_some_iff.mp h
    rcases hc : g.coerce e.2 with _ | w
    · rw [hc] at hv
      cases hv
    · rw [hc] at hv
      cases hv
      exact ⟨Setting.ofName?_eq_some_iff.mp hg, hc⟩
  · rintro ⟨hname, hv⟩
    rw [converted, Setting.ofName?_eq_some_iff.mpr hname, Option.bind_some, hv]
    rfl

variable {values values' : List (String × Value)}

theorem coerce_of_converts (h : ∀ e ∈ values, Converts e) :
    coerce values = .ok (values.filterMap converted) := by
  induction values with
  | nil => rfl
  | cons e values ih =>
    have hrest := ih fun e' he' => h e' (List.mem_cons_of_mem e he')
    rw [coerce]
    cases hf : Setting.ofName? e.1 with
    | none =>
      have hnone : converted e = none := by rw [converted, hf]; rfl
      rw [List.filterMap_cons_none hnone]
      exact hrest
    | some f =>
      obtain ⟨v, hv⟩ := h e List.mem_cons_self f hf
      have hsome : converted e = some (f, v) := by rw [converted, hf, Option.bind_some, hv]; rfl
      rw [List.filterMap_cons_some hsome]
      simp only [hv, hrest]
      rfl

theorem coerce_of_not_converts (hvalues : ∀ e ∈ values, Numeric e)
    (h : ¬ ∀ e ∈ values, Converts e) : ∃ n, coerce values = .error (.number n) := by
  induction values with
  | nil => exact absurd nofun h
  | cons e values ih =>
    rw [List.forall_mem_cons] at h
    have hrest := ih fun e' he' => hvalues e' (List.mem_cons_of_mem e he')
    rw [coerce]
    cases hf : Setting.ofName? e.1 with
    | none => exact hrest fun hall => h ⟨fun f hf' => absurd (hf.symm.trans hf') nofun, hall⟩
    | some f =>
      rcases hvalues e List.mem_cons_self f hf with ⟨v, hv⟩ | ⟨n, hn⟩
      · have he : Converts e := by
          intro g hg
          obtain rfl := Option.some.inj (hf.symm.trans hg)
          exact ⟨v, hv⟩
        obtain ⟨n, hn⟩ := hrest fun hall => h ⟨he, hall⟩
        exact ⟨n, by simp only [hv, hn]; rfl⟩
      · exact ⟨n, by simp only [hn]; rfl⟩

/-- Entries in another order are converted to the same settings in another order, or both times a
malformed number is refused. -/
theorem coerce_perm (h : values.Perm values') (hvalues : ∀ e ∈ values, Numeric e) :
    (coerce values = .ok (values.filterMap converted) ∧
      coerce values' = .ok (values'.filterMap converted)) ∨
    ∃ n n', coerce values = .error (.number n) ∧ coerce values' = .error (.number n') := by
  by_cases hall : ∀ e ∈ values, Converts e
  · exact .inl ⟨coerce_of_converts hall,
      coerce_of_converts fun e he => hall e (h.mem_iff.mpr he)⟩
  · obtain ⟨n, hn⟩ := coerce_of_not_converts hvalues hall
    obtain ⟨n', hn'⟩ := coerce_of_not_converts (fun e he => hvalues e (h.mem_iff.mpr he))
      fun hall' => hall fun e he => hall' e (h.mem_iff.mp he)
    exact .inr ⟨n, n', hn, hn'⟩

/-- Entries with different names are converted to different settings. -/
theorem nodup_converted (h : (values.map Prod.fst).Nodup) :
    ((values.filterMap converted).map Prod.fst).Nodup := by
  rw [List.Nodup, List.pairwise_map] at h ⊢
  refine h.filterMap _ fun e e' hne p hp p' hp' heq => hne ?_
  have hname := (converted_eq_some_iff.mp hp).1
  have hname' := (converted_eq_some_iff.mp hp').1
  rw [hname, hname', heq]

/-- Values and overrides in another order build the same settings. -/
theorem build_perm {overrides overrides' : List (String × Value)}
    (h : overrides.Perm overrides') (hconverts : ∀ e ∈ overrides, Converts e)
    (hnodup : (overrides.map Prod.fst).Nodup) :
    build values overrides = build values overrides' := by
  have hperm := setAll_perm (h.filterMap converted) (nodup_converted hnodup)
  rw [build, build, coerce_of_converts hconverts,
    coerce_of_converts fun e he => hconverts e (h.mem_iff.mpr he)]
  rcases coerce values with f | vs
  · rfl
  · exact congrArg Except.ok (hperm _)

theorem ofUrlValue_perm {overrides overrides' : List (String × Value)} (url : Value)
    (h : overrides.Perm overrides') (hconverts : ∀ e ∈ overrides, Converts e)
    (hnodup : (overrides.map Prod.fst).Nodup) :
    ofUrlValue url overrides = ofUrlValue url overrides' := by
  cases url with
  | text u =>
    rw [ofUrlValue, ofUrlValue, ofUrl, ofUrl]
    rcases urlValues u with f | values
    · rfl
    · exact build_perm h hconverts hnodup
  | _ => rfl

/-! ### Texts beside a URL -/

/-- The two results are the same, or each names a malformed number. -/
def SameUpToNumber {α : Type} (r r' : Except Fault α) : Prop :=
  r = r' ∨ ∃ n n', r = .error (.number n) ∧ r' = .error (.number n')

theorem lookup_texts (pairs : List (String × String)) (name : String) :
    (texts pairs).lookup name = (pairs.lookup name).map Value.text := by
  induction pairs with
  | nil => rfl
  | cons p pairs ih =>
    rw [texts, List.map_cons, List.lookup_cons, List.lookup_cons]
    split
    · rfl
    · exact ih

theorem numeric_texts (pairs : List (String × String)) : ∀ e ∈ texts pairs, Numeric e := by
  intro e he f _
  obtain ⟨p, -, rfl⟩ := List.mem_map.mp he
  exact (f.coerce_text p.2).imp_left fun ⟨v, _, hv, _⟩ => ⟨v, hv⟩

/-- What a text is converted to can be converted once more. -/
theorem converts_converted {pairs : List (String × String)} {p : Setting × Value}
    (h : p ∈ (texts pairs).filterMap converted) : Converts (p.1.name, p.2) := by
  obtain ⟨e, he, hp⟩ := List.mem_filterMap.mp h
  obtain ⟨q, -, rfl⟩ := List.mem_map.mp he
  obtain ⟨-, hv⟩ := converted_eq_some_iff.mp hp
  intro f hf
  obtain rfl := Setting.name_injective (Setting.ofName?_eq_some_iff.mp hf)
  rcases p.1.coerce_text q.2 with ⟨v, w, hv', hw⟩ | ⟨n, hn⟩
  · obtain rfl := Except.ok.inj (hv.symm.trans hv')
    exact ⟨w, hw⟩
  · exact absurd (hv.symm.trans hn) nofun

/-- The order of the texts beside a URL matters at most to which malformed number is named. -/
theorem besideUrl_perm {pairs pairs' : List (String × String)} (h : pairs.Perm pairs')
    (hnodup : (pairs.map Prod.fst).Nodup) (url : Value) :
    SameUpToNumber (besideUrl url (texts pairs)) (besideUrl url (texts pairs')) := by
  have hperm : (texts pairs).Perm (texts pairs') := h.map _
  have hnames : ((texts pairs).map Prod.fst).Nodup := by
    simpa [texts, Function.comp_def] using hnodup
  have hconverted := hperm.filterMap converted
  have hdifferent := nodup_converted hnames
  rcases coerce_perm hperm (numeric_texts pairs) with ⟨hok, hok'⟩ | ⟨n, n', hn, hn'⟩
  · refine .inl ?_
    rw [besideUrl, besideUrl]
    split
    · rw [build, build, hok, hok']
      exact congrArg Except.ok (congrArg (·.setAll []) (setAll_perm hconverted hdifferent {}))
    · rw [hok, hok']
      refine ofUrlValue_perm url (hconverted.map fun e => (e.1.name, e.2)) ?_ ?_
      · intro e he
        obtain ⟨p, hp, rfl⟩ := List.mem_map.mp he
        exact converts_converted hp
      · have hdifferent' := hdifferent.map Setting.name_injective
        rwa [List.map_map] at hdifferent' ⊢
  · refine .inr ?_
    rw [besideUrl, besideUrl]
    split
    · exact ⟨n, n', by rw [build, hn]; rfl, by rw [build, hn']; rfl⟩
    · exact ⟨n, n', by rw [hn]; rfl, by rw [hn']; rfl⟩

/-! ### Texts by name -/

section Texts

variable {lines : List (String × String)}

/-- The texts of settings, in the order of the settings. -/
def inOrder (lines : List (String × String)) : List (String × String) :=
  Setting.all.filterMap fun f => (lines.lookup f.name).map (f.name, ·)

/-- The lines whose names are those of settings. -/
def settingLines (lines : List (String × String)) : List (String × String) :=
  lines.filter fun e => (Setting.ofName? e.1).isSome

theorem mem_inOrder {p : String × String} :
    p ∈ inOrder lines ↔ lines.lookup p.1 = some p.2 ∧ (Setting.ofName? p.1).isSome := by
  obtain ⟨name, text⟩ := p
  rw [inOrder, List.mem_filterMap]
  constructor
  · rintro ⟨f, -, hf⟩
    obtain ⟨t, ht, heq⟩ := Option.map_eq_some_iff.mp hf
    obtain ⟨rfl, rfl⟩ := Prod.mk.inj heq
    exact ⟨ht, Option.isSome_iff_exists.mpr ⟨f, Setting.ofName?_eq_some_iff.mpr rfl⟩⟩
  · rintro ⟨hlookup, hsome⟩
    obtain ⟨f, hf⟩ := Option.isSome_iff_exists.mp hsome
    obtain rfl := Setting.ofName?_eq_some_iff.mp hf
    exact ⟨f, by cases f <;> decide, by rw [hlookup]; rfl⟩

theorem settingLines_perm (h : (lines.map Prod.fst).Nodup) :
    (settingLines lines).Perm (inOrder lines) := by
  have hleft : (settingLines lines).Nodup := (h.of_map Prod.fst).filter _
  have hright : (inOrder lines).Nodup := by
    refine List.Nodup.filterMap ?_ (by decide)
    intro f g p hf hg
    obtain ⟨t, -, rfl⟩ := Option.map_eq_some_iff.mp hf
    obtain ⟨t', -, heq⟩ := Option.map_eq_some_iff.mp hg
    exact Setting.name_injective (Prod.mk.inj heq).1.symm
  rw [List.perm_ext_iff_of_nodup hleft hright]
  intro p
  rw [mem_inOrder, lookup_eq_some_iff_mem h, settingLines, List.mem_filter]

theorem lookup_settingLines (lines : List (String × String)) (f : Setting) :
    (settingLines lines).lookup f.name = lines.lookup f.name := by
  have hsome : (Setting.ofName? f.name).isSome = true :=
    Option.isSome_iff_exists.mpr ⟨f, Setting.ofName?_eq_some_iff.mpr rfl⟩
  induction lines with
  | nil => rfl
  | cons e lines ih =>
    obtain ⟨key, t⟩ := e
    rw [settingLines, List.filter_cons, List.lookup_cons]
    by_cases hname : f.name = key
    · subst hname
      simp [hsome]
    · have hne : (f.name == key) = false := by simpa using hname
      rw [hne, ← ih, settingLines]
      split
      · rw [List.lookup_cons, hne]
      · rfl

/-- Entries whose names come in a given order can be looked up in that order. -/
theorem filterMap_lookup {names : List String} {entries : List (String × String)}
    (hnames : names.Nodup) (h : (entries.map Prod.fst).Sublist names) :
    names.filterMap (fun name => (entries.lookup name).map (name, ·)) = entries := by
  induction names generalizing entries with
  | nil => rw [List.map_eq_nil_iff.mp (List.sublist_nil.mp h), List.filterMap_nil]
  | cons name names ih =>
    obtain ⟨hnew, hrest⟩ := List.nodup_cons.mp hnames
    rcases List.sublist_cons_iff.mp h with hskip | ⟨later, hlater, hsub⟩
    · have hnone := lookup_eq_none_of_notMem fun hmem => hnew (hskip.subset hmem)
      rw [List.filterMap_cons_none (by rw [hnone]; rfl), ih hrest hskip]
    · obtain ⟨⟨key, t⟩, entries, rfl, rfl, rfl⟩ := List.map_eq_cons_iff.mp hlater
      have hsame : ∀ name ∈ names, (((key, t) :: entries).lookup name).map (name, ·) =
          (entries.lookup name).map (name, ·) := by
        intro name hname
        have hne : (name == key) = false := by
          simpa using fun heq : name = key => hnew (heq ▸ hname)
        rw [List.lookup_cons, hne]
      rw [List.filterMap_cons_some (by simp; rfl), List.filterMap_congr hsame, ih hrest hsub]

/-- Lines that name settings in their order are the texts of the settings in order. -/
theorem settingLines_eq_inOrder
    (h : ((settingLines lines).map Prod.fst).Sublist (Setting.all.map Setting.name)) :
    settingLines lines = inOrder lines := by
  have hall := filterMap_lookup (by decide) h
  rw [List.filterMap_map] at hall
  simpa [inOrder, lookup_settingLines, Function.comp_def] using hall.symm

end Texts

/-! ### Sources -/

/-- The settings that texts under names give: a URL, if there is one, and single settings. -/
def ofTexts (lines pairs : List (String × String)) : Except Fault Settings :=
  besideUrl (((lines.lookup "url").map Value.text).getD .null) (texts pairs)

section Sources

variable {files : Files} {path : String} {doc : Ini.Document} {part : Ini.Part}

theorem ofIni_of_document (hfile : files.lookup (Files.normalize path) = .file doc.text)
    (hpart : part ∈ doc.parts) :
    ofIni files path (.text part.name) = (do
      let values ← Ini.sectionOptions
        ⟨[], doc.parts.map fun p => (p.name, p.options)⟩ part.options
      ofTexts values (settingLines values)) := by
  have hlookup : (doc.parts.map fun p => (p.name, p.options)).lookup part.name =
      some part.options := by
    refine (lookup_eq_some_iff_mem ?_).mpr (List.mem_map_of_mem hpart)
    simpa [List.map_map, Function.comp_def] using doc.nodup
  have hini : iniFile files (Files.normalize path) =
      .ok ⟨[], doc.parts.map fun p => (p.name, p.options)⟩ := by
    rw [iniFile, hfile]
    exact doc.parse_text
  have hsection : iniSectionOf ⟨[], doc.parts.map fun p => (p.name, p.options)⟩
      (.text part.name) = .ok (some part.options) :=
    congrArg Except.ok hlookup
  simp only [ofIni, hini, hsection, bind, Except.bind]
  rfl

theorem ofEnvironment_of_texts {start : String} {environment : List (String × Value)}
    {lines : List (String × String)}
    (hfields : ∀ f, environment.lookup (variableName start f) =
      (lines.lookup f.name).map Value.text)
    (hurl : environment.lookup (start ++ "URL") = (lines.lookup "url").map Value.text) :
    ofEnvironment start environment = ofTexts lines (inOrder lines) := by
  have hvalues : (Setting.all.filterMap fun f =>
      (environment.lookup (variableName start f)).map fun v => (f.name, v)) =
      texts (inOrder lines) := by
    simp [hfields, texts, inOrder, List.map_filterMap, Function.comp_def]
  rw [ofEnvironment, hvalues, hurl, ofTexts]

/-- A URL by itself. -/
theorem ofTexts_of_url {lines : List (String × String)} {url : String}
    (h : lines.lookup "url" = some url) (hurl : url ≠ "") : ofTexts lines [] = ofUrl url [] := by
  have htruthy : (Value.text url).truthy = true := by
    simpa [Value.truthy] using hurl
  rw [ofTexts, h, besideUrl]
  simp [htruthy]
  rfl

/-- **Sources of settings agree.** Take the texts of a section of an INI file, where the file doubles
their percent signs, and environment variables with the same texts under the names of the settings
and of the URL. Both sources give the same settings or are refused with the same fault, except that
where several texts are malformed numbers, another one may be named. If the file has the settings in
their order, there is no exception.

If the texts give a URL and no setting beside it, then both sources give what the URL gives by
itself. -/
theorem sources_agree {lines : List (String × String)} {start : String}
    {environment : List (String × Value)}
    (hfile : files.lookup (Files.normalize path) = .file doc.text) (hpart : part ∈ doc.parts)
    (hlines : part.options = lines.map fun e => (e.1, Ini.doubled e.2))
    (hfields : ∀ f, environment.lookup (variableName start f) =
      (lines.lookup f.name).map Value.text)
    (hurl : environment.lookup (start ++ "URL") = (lines.lookup "url").map Value.text) :
    SameUpToNumber (ofIni files path (.text part.name)) (ofEnvironment start environment) ∧
      (((settingLines lines).map Prod.fst).Sublist (Setting.all.map Setting.name) →
        ofIni files path (.text part.name) = ofEnvironment start environment) ∧
      ∀ url, url ≠ "" → lines.lookup "url" = some url → settingLines lines = [] →
        ofIni files path (.text part.name) = ofUrl url [] ∧
          ofEnvironment start environment = ofUrl url [] := by
  have hnames : (lines.map Prod.fst).Nodup := by
    have hnodup := part.nodup
    rw [hlines] at hnodup
    simpa [List.map_map, Function.comp_def] using hnodup
  have hini : ofIni files path (.text part.name) = ofTexts lines (settingLines lines) := by
    rw [ofIni_of_document hfile hpart, Ini.sectionOptions_doubled part.nodup hlines]
    rfl
  rw [hini, ofEnvironment_of_texts hfields hurl]
  refine ⟨?_, fun horder => ?_, fun url hnonempty hlookup hnone => ?_⟩
  · exact besideUrl_perm (settingLines_perm hnames) (hnames.sublist (List.filter_sublist.map _)) _
  · rw [settingLines_eq_inOrder horder]
  · have hinOrder : inOrder lines = [] := by
      rw [← settingLines_eq_inOrder (by simp [hnone]), hnone]
    rw [hnone, hinOrder]
    exact ⟨ofTexts_of_url hlookup hnonempty, ofTexts_of_url hlookup hnonempty⟩

/-- **A single percent sign is refused.** If a value of a section is written with a percent sign that
begins neither a reference nor a percent sign, as those of a percent-encoded URL, then the section
gives no settings, and the fault is one of the file. -/
theorem lone_percent_refused {o : String × String}
    (hfile : files.lookup (Files.normalize path) = .file doc.text) (hpart : part ∈ doc.parts)
    (ho : o ∈ part.options) (hlone : Ini.LonePercent o.2) :
    ∃ fault, ofIni files path (.text part.name) = .error (.ini fault) := by
  rw [ofIni_of_document hfile hpart]
  rcases hvalues : Ini.sectionOptions _ part.options with f | values
  · obtain ⟨fault, rfl⟩ := Ini.sectionOptions_error hvalues
    exact ⟨fault, rfl⟩
  · exact absurd hvalues (Ini.sectionOptions_lonePercent part.nodup ho hlone)

end Sources

/-- A percent-encoded URL and a port beside it, in a file with the percent sign doubled. -/
theorem sources_agree_percent_encoded :
    let lines := [("url", "mysql://app:p%40ss@db/shop"), ("port", "3307")]
    let environment := [("SQLCHAIN_PORT", Value.text "3307"),
      ("SQLCHAIN_URL", .text "mysql://app:p%40ss@db/shop")]
    ∃ part : Ini.Part, part.name = "database" ∧
      part.options = lines.map (fun e => (e.1, Ini.doubled e.2)) ∧
      ∃ doc : Ini.Document, doc.parts = [part] ∧
        ofIni ⟨[("config.ini", doc.text)]⟩ "config.ini" (.text "database") =
          ofEnvironment environmentStart environment := by
  let part : Ini.Part := {
    name := "database"
    options := [("url", "mysql://app:p%%40ss@db/shop"), ("port", "3307")]
    named := by decide
    onLine := by decide
    nodup := by decide
    names := by decide
    values := by decide }
  let doc : Ini.Document := ⟨[part], by decide⟩
  have hlines : part.options = [("url", "mysql://app:p%40ss@db/shop"), ("port", "3307")].map
      fun e => (e.1, Ini.doubled e.2) := rfl
  have hfile : (Files.mk [("config.ini", doc.text)]).lookup (Files.normalize "config.ini") =
      .file doc.text := by
    have hnormal : Files.normalize "config.ini" = "config.ini" := by decide
    have hcomponents : Files.components "config.ini" = ["config.ini"] := by decide
    have hroot : Files.root "config.ini" = "" := by decide
    have hnull : "config.ini".toList.contains '\x00' = false := by decide
    have hpath : ¬ Files.pathLimit < "config.ini".utf8ByteSize := by decide
    have hshort : Files.isOverlong "config.ini" = false := by decide
    have hending : Files.namesDirectory "config.ini" = false := by decide
    rw [hnormal, Files.lookup, hnull, hcomponents]
    simp [hpath, hroot, hcomponents, hshort, hending, Files.below, Files.follow, Files.nodeAt]
  have hagree := sources_agree hfile List.mem_cons_self hlines
    (fun f => by cases f <;> rfl) (rfl : List.lookup ("SQLCHAIN_" ++ "URL")
      [("SQLCHAIN_PORT", Value.text "3307"),
        ("SQLCHAIN_URL", .text "mysql://app:p%40ss@db/shop")] = _)
  exact ⟨part, rfl, hlines, doc, rfl, hagree.2.1 (by decide)⟩

/-- Written into a file as it is, a percent-encoded URL is refused, which in the environment and by
itself gives settings. -/
theorem percent_encoded_url_refused_in_file :
    let url := "mysql://app:p%40ss@db/shop"
    ofIni ⟨[("config.ini", "[database]\nurl = mysql://app:p%40ss@db/shop\n")]⟩ "config.ini"
        (.text "database") = .error (.ini .interpolationSyntax) ∧
      ofEnvironment environmentStart [("SQLCHAIN_URL", .text url)] = ofUrl url [] ∧
      ∃ s, ofUrl url [] = .ok s ∧ s.password = .text "p@ss" :=
  ⟨rfl, rfl, _, rfl, rfl⟩

end Settings

end FluentSql
