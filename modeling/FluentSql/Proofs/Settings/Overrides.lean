import FluentSql.Proofs.Settings.Agreement
import FluentSql.Proofs.Text.Case

/-!
# Overrides

Single settings beside a URL replace what the URL says about them, each converted to its type, and
leave everything else as the URL has it (`Settings.overrides_update_settings`). The variables of an
environment are converted on their own first and once more together with the URL; that makes no
difference, since a converted value is converted to itself (`Setting.coerce_coerce`).
-/

namespace FluentSql

/-- What a value is converted to has the type of its setting, and is converted to itself. -/
theorem Setting.coerce_coerce {f : Setting} {v w : Value} (h : f.coerce v = .ok w) :
    f.coerce w = .ok w := by
  have htyped : ∀ {α : Type} {r : Except Fault α} {g : α → Value},
      (if v.isNull then .ok v else r.map g) = .ok w → w.isNull = true ∨ ∃ a, w = g a := by
    intro α r g hw
    split at hw
    · next hv => exact .inl (Except.ok.inj hw ▸ hv)
    · rcases r with e | a
      · cases hw
      · exact .inr ⟨a, (Except.ok.inj hw).symm⟩
  cases f with
  | port | waitTimeout =>
    rcases htyped h with hw | ⟨n, rfl⟩
    · exact if_pos hw
    · rfl
  | connectTimeout =>
    rcases htyped h with hw | ⟨x, rfl⟩
    · exact if_pos hw
    · rfl
  | driver =>
    rcases hshown : v.display with e | s
    · rw [coerce, hshown] at h
      cases h
    · rw [coerce, hshown] at h
      obtain rfl := Except.ok.inj h
      exact congrArg (fun t => Except.ok (Value.text t)) (Text.lower_lower s)
  | _ => rfl

namespace Settings

/-! ### Replacing settings -/

theorem get_set (s : Settings) (f g : Setting) (v : Value) :
    (s.set f v).get g = if g = f then v else s.get g := by
  cases f <;> cases g <;> rfl

/-- Settings are known by their values. -/
theorem ext_get {s t : Settings} (h : ∀ f, s.get f = t.get f) : s = t := by
  obtain ⟨driver, host, port, user, password, schema, database, waitTimeout, connectTimeout⟩ := s
  obtain ⟨driver', host', port', user', password', schema', database', waitTimeout',
    connectTimeout'⟩ := t
  obtain rfl : driver = driver' := h .driver
  obtain rfl : host = host' := h .host
  obtain rfl : port = port' := h .port
  obtain rfl : user = user' := h .user
  obtain rfl : password = password' := h .password
  obtain rfl : schema = schema' := h .schema
  obtain rfl : database = database' := h .database
  obtain rfl : waitTimeout = waitTimeout' := h .waitTimeout
  obtain rfl : connectTimeout = connectTimeout' := h .connectTimeout
  rfl

theorem get_setAll_of_notMem {values : List (Setting × Value)} {f : Setting}
    (h : f ∉ values.map Prod.fst) (s : Settings) : (s.setAll values).get f = s.get f := by
  induction values generalizing s with
  | nil => rfl
  | cons e values ih =>
    rw [List.map_cons, List.mem_cons, not_or] at h
    exact (ih h.2 (s.set e.1 e.2)).trans (by rw [get_set, if_neg h.1])

theorem get_setAll_of_mem {values : List (Setting × Value)} {e : Setting × Value}
    (hnodup : (values.map Prod.fst).Nodup) (h : e ∈ values) (s : Settings) :
    (s.setAll values).get e.1 = e.2 := by
  induction values generalizing s with
  | nil => cases h
  | cons e' values ih =>
    rw [List.map_cons, List.nodup_cons] at hnodup
    rcases List.mem_cons.mp h with rfl | hlater
    · exact (get_setAll_of_notMem hnodup.1 (s.set e.1 e.2)).trans (by rw [get_set, if_pos rfl])
    · exact ih hnodup.2 hlater (s.set e'.1 e'.2)

/-! ### Updates -/

/-- Settings with the values that are given, each converted to its type, in the place of their
own. -/
def Updates (given : Setting → Option Value) (s t : Settings) : Prop :=
  ∀ f, match given f with
    | some v => f.coerce v = .ok (t.get f)
    | none => t.get f = s.get f

/-- The values that are given determine the update. -/
theorem Updates.unique {given : Setting → Option Value} {s t t' : Settings}
    (h : Updates given s t) (h' : Updates given s t') : t = t' := by
  refine ext_get fun f => ?_
  have hf := h f
  have hf' := h' f
  split at hf
  · next v hv =>
    rw [hv] at hf'
    exact Except.ok.inj (hf.symm.trans hf')
  · next hv =>
    rw [hv] at hf'
    exact hf.trans hf'.symm

/-- Every value that is given can be converted to the type of its setting. -/
def Convertible (given : Setting → Option Value) : Prop :=
  ∀ f v, given f = some v → ∃ w, f.coerce v = .ok w

/-- What makes an update can be converted. -/
theorem Updates.convertible {given : Setting → Option Value} {s t : Settings}
    (h : Updates given s t) : Convertible given := by
  intro f v hv
  have hf := h f
  rw [hv] at hf
  exact ⟨t.get f, hf⟩

/-- A result is another one with the values that are given in the place of its own: it fails where
the other one fails, and where a value cannot be converted. -/
structure Overrides (given : Setting → Option Value) (base result : Except Fault Settings) :
    Prop where
  updates : ∀ s, base = .ok s → Convertible given → ∃ t, result = .ok t ∧ Updates given s t
  fails : ∀ e, base = .error e → Convertible given → result = .error e
  refuses : ¬ Convertible given → ∃ e, result = .error e

/-- Settings whose values are replaced by others, once these are converted to their types. -/
def overridden (base : Except Fault Settings) (values : List (String × Value)) :
    Except Fault Settings := do
  let s ← base
  let vs ← coerce values
  .ok (s.setAll vs)

section Values

variable {values : List (String × Value)}

theorem convertible_iff (hnodup : (values.map Prod.fst).Nodup) :
    Convertible (fun f => values.lookup f.name) ↔ ∀ e ∈ values, Converts e := by
  constructor
  · intro h e he f hf
    have hentry : (f.name, e.2) ∈ values := Setting.ofName?_eq_some_iff.mp hf ▸ he
    exact h f e.2 ((lookup_eq_some_iff_mem hnodup).mpr hentry)
  · intro h f v hv
    exact h _ ((lookup_eq_some_iff_mem hnodup).mp hv) f (Setting.ofName?_eq_some_iff.mpr rfl)

/-- Values of which one cannot be converted are refused. -/
theorem exists_coerce_error (h : ¬ ∀ e ∈ values, Converts e) : ∃ e, coerce values = .error e := by
  induction values with
  | nil => exact absurd (List.forall_mem_nil _) h
  | cons e values ih =>
    rw [List.forall_mem_cons] at h
    rw [coerce]
    cases hf : Setting.ofName? e.1 with
    | none =>
      have he : Converts e := by
        intro g hg
        rw [hf] at hg
        cases hg
      exact ih fun hall => h ⟨he, hall⟩
    | some f =>
      rcases hv : f.coerce e.2 with fault | v
      · exact ⟨fault, by simp only [hv]; rfl⟩
      · have he : Converts e := by
          intro g hg
          obtain rfl := Option.some.inj (hf.symm.trans hg)
          exact ⟨v, hv⟩
        obtain ⟨fault, hfault⟩ := ih fun hall => h ⟨he, hall⟩
        exact ⟨fault, by simp only [hv, hfault]; rfl⟩

/-- Values that have been converted are converted to themselves. -/
theorem coerce_converted (values : List (String × Value)) :
    coerce ((values.filterMap converted).map fun e => (e.1.name, e.2)) =
      .ok (values.filterMap converted) := by
  have hsame : ∀ e ∈ values.filterMap converted,
      converted (e.1.name, e.2) = some e := by
    intro e he
    obtain ⟨entry, -, hentry⟩ := List.mem_filterMap.mp he
    have hconverted := (converted_eq_some_iff.mp hentry).2
    exact converted_eq_some_iff.mpr ⟨rfl, Setting.coerce_coerce hconverted⟩
  rw [coerce_of_converts]
  · rw [List.filterMap_map]
    exact congrArg Except.ok ((List.filterMap_congr hsame).trans List.filterMap_some)
  · intro e he f hf
    obtain ⟨e', he', rfl⟩ := List.mem_map.mp he
    obtain ⟨-, hv⟩ := converted_eq_some_iff.mp (hsame e' he')
    obtain rfl := Setting.name_injective (Setting.ofName?_eq_some_iff.mp hf)
    exact ⟨_, hv⟩

theorem updates_setAll (hnodup : (values.map Prod.fst).Nodup)
    (hconverts : ∀ e ∈ values, Converts e) (s : Settings) :
    Updates (fun f => values.lookup f.name) s (s.setAll (values.filterMap converted)) := by
  have hsettings := nodup_converted hnodup
  intro f
  split
  · next v hv =>
    have hmem := (lookup_eq_some_iff_mem hnodup).mp hv
    obtain ⟨w, hw⟩ := hconverts _ hmem f (Setting.ofName?_eq_some_iff.mpr rfl)
    have hentry : (f, w) ∈ values.filterMap converted :=
      List.mem_filterMap.mpr ⟨_, hmem, converted_eq_some_iff.mpr ⟨rfl, hw⟩⟩
    rw [hw, get_setAll_of_mem hsettings hentry]
  · next hnone =>
    refine get_setAll_of_notMem (fun hmem => ?_) s
    obtain ⟨⟨g, w⟩, hgw, rfl⟩ := List.mem_map.mp hmem
    obtain ⟨⟨name, v⟩, hv, hconverted⟩ := List.mem_filterMap.mp hgw
    obtain ⟨rfl, -⟩ := converted_eq_some_iff.mp hconverted
    exact absurd (((lookup_eq_some_iff_mem hnodup).mpr hv).symm.trans hnone) nofun

theorem overrides_overridden (hnodup : (values.map Prod.fst).Nodup)
    (base : Except Fault Settings) :
    Overrides (fun f => values.lookup f.name) base (overridden base values) where
  updates := by
    rintro s rfl hconvertible
    have hconverts := (convertible_iff hnodup).mp hconvertible
    refine ⟨s.setAll (values.filterMap converted), ?_, updates_setAll hnodup hconverts s⟩
    simp only [overridden, coerce_of_converts hconverts, bind, Except.bind]
  fails := by
    rintro e rfl -
    rfl
  refuses := by
    intro hnot
    rw [convertible_iff hnodup] at hnot
    obtain ⟨e, he⟩ := exists_coerce_error hnot
    rw [overridden, he]
    rcases base with f | s
    · exact ⟨f, rfl⟩
    · exact ⟨e, rfl⟩

end Values

/-! ### URLs and environments -/

/-- Values by themselves override the usual settings. -/
theorem build_eq (values : List (String × Value)) :
    build values [] = overridden (.ok {}) values := by
  rw [build, overridden]
  rcases coerce values with e | vs
  · rfl
  · rfl

/-- The overrides of a URL come after everything that the URL says. -/
theorem ofUrl_eq (url : String) (overrides : List (String × Value)) :
    ofUrl url overrides = overridden (ofUrl url []) overrides := by
  rw [ofUrl, ofUrl]
  rcases urlValues url with e | values
  · rfl
  · simp only [overridden, build, bind, Except.bind]
    rcases coerce values with e | vs
    · rfl
    · rfl

/-- The values of single settings, in the order of the settings. -/
def entriesOf (given : Setting → Option Value) : List (String × Value) :=
  Setting.all.filterMap fun f => (given f).map fun v => (f.name, v)

section Entries

variable {given : Setting → Option Value}

theorem mem_entriesOf {f : Setting} {v : Value} :
    (f.name, v) ∈ entriesOf given ↔ given f = some v := by
  rw [entriesOf, List.mem_filterMap]
  constructor
  · rintro ⟨g, -, hg⟩
    obtain ⟨w, hw, heq⟩ := Option.map_eq_some_iff.mp hg
    obtain ⟨hname, rfl⟩ := Prod.mk.inj heq
    rwa [← Setting.name_injective hname]
  · intro hv
    exact ⟨f, by cases f <;> decide, by rw [hv]; rfl⟩

theorem nodup_entriesOf : ((entriesOf given).map Prod.fst).Nodup := by
  have hall : Setting.all.Nodup := by decide
  rw [List.Nodup, List.pairwise_map, entriesOf]
  refine List.Pairwise.filterMap _ (fun f g hne p hp q hq heq => hne ?_) hall
  obtain ⟨v, -, rfl⟩ := Option.map_eq_some_iff.mp hp
  obtain ⟨w, -, rfl⟩ := Option.map_eq_some_iff.mp hq
  exact Setting.name_injective heq

theorem lookup_entriesOf : (fun f : Setting => (entriesOf given).lookup f.name) = given := by
  funext f
  refine Option.ext fun v => ?_
  rw [lookup_eq_some_iff_mem nodup_entriesOf, mem_entriesOf]

theorem overrides_entriesOf (base : Except Fault Settings) :
    Overrides given base (overridden base (entriesOf given)) := by
  have h := overrides_overridden (@nodup_entriesOf given) base
  rwa [lookup_entriesOf] at h

/-- The values beside a URL are its overrides, although they are converted before. -/
theorem besideUrl_overrides {url : String} (hurl : url ≠ "") :
    Overrides given (ofUrl url []) (besideUrl (.text url) (entriesOf given)) := by
  have hgiven : (Value.text url).truthy = true := by
    simpa [Value.truthy] using hurl
  rw [besideUrl, hgiven]
  by_cases hall : ∀ e ∈ entriesOf given, Converts e
  · have hsame : ofUrl url (((entriesOf given).filterMap converted).map
        fun e => (e.1.name, e.2)) = overridden (ofUrl url []) (entriesOf given) := by
      rw [ofUrl_eq, overridden, overridden, coerce_converted, coerce_of_converts hall]
    rw [coerce_of_converts hall]
    change Overrides given (ofUrl url []) (ofUrl url _)
    rw [hsame]
    exact overrides_entriesOf (ofUrl url [])
  · obtain ⟨e, he⟩ := exists_coerce_error hall
    have hnot : ¬ Convertible given := by
      rw [← @lookup_entriesOf given, convertible_iff nodup_entriesOf]
      exact hall
    rw [he]
    exact ⟨fun _ _ h => absurd h hnot, fun _ _ h => absurd h hnot, fun _ => ⟨e, rfl⟩⟩

/-- Where there is no URL, the values override the usual settings. -/
theorem besideNothing_overrides {url : Value} (hurl : url.truthy = false) :
    Overrides given (.ok {}) (besideUrl url (entriesOf given)) := by
  rw [besideUrl, hurl]
  exact build_eq (entriesOf given) ▸ overrides_entriesOf (.ok {})

end Entries

/-- **Overrides are a field-wise update.** The settings of a URL with overrides are those of the URL
alone, with the overrides in the place of what the URL says, each converted to the type of its
setting; names that are no settings are dropped. A URL that is refused alone is refused with
overrides, too. The settings of an environment are those of its URL with the other variables as
overrides, and without a URL the usual settings with the variables as overrides. -/
theorem overrides_update_settings :
    (∀ (url : String) (overrides : List (String × Value)), (overrides.map Prod.fst).Nodup →
      Overrides (fun f => overrides.lookup f.name) (ofUrl url []) (ofUrl url overrides) ∧
        ∀ e, ofUrl url [] = .error e → ofUrl url overrides = .error e) ∧
    ∀ (start : String) (environment : List (String × Value)),
      (∀ url, url ≠ "" → environment.lookup (start ++ "URL") = some (.text url) →
        Overrides (fun f => environment.lookup (variableName start f)) (ofUrl url [])
          (ofEnvironment start environment)) ∧
      (environment.lookup (start ++ "URL") = none ∨
          environment.lookup (start ++ "URL") = some (.text "") →
        Overrides (fun f => environment.lookup (variableName start f)) (.ok {})
          (ofEnvironment start environment)) := by
  refine ⟨fun url overrides hnodup => ⟨?_, fun e he => ?_⟩, fun start environment => ⟨?_, ?_⟩⟩
  · rw [ofUrl_eq url overrides]
    exact overrides_overridden hnodup (ofUrl url [])
  · rw [ofUrl_eq, he]
    rfl
  · intro url hurl hlookup
    rw [ofEnvironment, hlookup]
    exact besideUrl_overrides hurl
  · intro hlookup
    rw [ofEnvironment]
    refine besideNothing_overrides ?_
    rcases hlookup with hnone | hempty
    · rw [hnone]
      rfl
    · rw [hempty]
      rfl

/-- Another driver and another port than those of a URL, as overrides and as variables. -/
theorem overrides_update_settings_moved :
    let url := "mysql://app@db/shop?schema=crm"
    let moved : Settings := {
      driver := .text "postgresql"
      host := .text "db"
      port := .int 3310
      user := .text "app"
      schema := .text "crm"
      database := .text "shop" }
    ofUrl url [("port", .text "3310"), ("charset", .text "utf8"), ("driver", .text "PostgreSQL")] =
        .ok moved ∧
      ofEnvironment "APP_" [("APP_DRIVER", .text "PostgreSQL"), ("APP_PORT", .text "3310"),
        ("APP_URL", .text url)] = .ok moved := by
  intro url moved
  let base : Settings := {
    driver := .text "mysql"
    host := .text "db"
    user := .text "app"
    schema := .text "crm"
    database := .text "shop" }
  have hbase : ofUrl "mysql://app@db/shop?schema=crm" [] = .ok base := rfl
  have hport : Setting.port.coerce (.text "3310") = .ok (.int 3310) := by cbv
  -- both times a driver and a port are given
  have hmoved : ∀ given result, Overrides given (ofUrl url []) result →
      (∀ f, given f = if f = .driver then some (.text "PostgreSQL")
        else if f = .port then some (.text "3310") else none) → result = .ok moved := by
    intro given result hoverrides hgiven
    have hupdates : Updates given base moved := by
      intro f
      rw [hgiven f]
      cases f
      case port => exact hport
      all_goals rfl
    have hconvertible : Convertible given := by
      intro f v hv
      have hf := hupdates f
      rw [hv] at hf
      exact ⟨moved.get f, hf⟩
    obtain ⟨t, ht, htupdates⟩ := hoverrides.updates base hbase hconvertible
    rw [ht, htupdates.unique hupdates]
  obtain ⟨hurl, henvironment⟩ := overrides_update_settings
  exact ⟨hmoved _ _ (hurl url _ (by decide)).1 fun f => by cases f <;> rfl,
    hmoved _ _ ((henvironment "APP_" _).1 url (by decide) rfl) fun f => by cases f <;> rfl⟩

end Settings

end FluentSql
