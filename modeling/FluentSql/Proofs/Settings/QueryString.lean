import FluentSql.Proofs.Settings.Overrides
import FluentSql.Proofs.Url.Query

/-!
# Query strings of connection URLs

A query string behind a URL with a scheme replaces settings: each one that it names, by the last
value that it gives for it (`Settings.query_strings_by_form`). Behind a path there are no query
strings: what stands there is part of the name of the file.
-/

namespace FluentSql

/-- The forms of connection URLs. -/
inductive UrlForm where
  /-- An absolute path, or one from `./`. -/
  | path
  /-- The database in memory. -/
  | memory
  /-- A file behind the scheme `sqlite`. -/
  | file
  /-- A server, behind any other scheme. -/
  | server
deriving DecidableEq

/-- What stands before the first colon of a URL, in lower case. -/
def schemeOf (url : String) : String :=
  Text.lower (String.ofList (Url.cut ':' url.toList).1)

/-- The form of a URL. -/
def UrlForm.of (url : String) : UrlForm :=
  if url.toList.head? = some '/' ∨ url.toList.take 2 = ['.', '/'] then path
  else if url = ":memory:" then memory
  else if schemeOf url = "sqlite" then file
  else server

namespace UrlForm

variable {url : String}

theorem of_eq_path_iff :
    of url = path ↔ url.toList.head? = some '/' ∨ url.toList.take 2 = ['.', '/'] := by
  rw [of]
  split
  · next h => exact iff_of_true rfl h
  · next h =>
    refine iff_of_false ?_ h
    split
    · nofun
    · split <;> nofun

theorem of_eq_memory_iff : of url = memory ↔ url = ":memory:" := by
  rw [of]
  split
  · next h =>
    refine iff_of_false nofun ?_
    rintro rfl
    exact absurd h (by decide)
  · split
    · next h => exact iff_of_true rfl h
    · next h => exact iff_of_false (by split <;> nofun) h

theorem schemeOf_of_file (h : of url = file) : schemeOf url = "sqlite" := by
  rw [of] at h
  split at h
  · cases h
  split at h
  · cases h
  split at h
  · next hscheme => exact hscheme
  · cases h

/-- What stands behind a question mark does not make a path of a URL. -/
theorem of_question_eq_path_iff (url query : String) :
    of (url ++ "?" ++ query) = path ↔ of url = path := by
  have hlist : (url ++ "?" ++ query).toList = url.toList ++ '?' :: query.toList := by simp
  rw [of_eq_path_iff, of_eq_path_iff, hlist]
  rcases url.toList with _ | ⟨c, _ | ⟨d, cs⟩⟩
  · simp
  · simp
  · simp

theorem of_question_ne_memory (url query : String) : of (url ++ "?" ++ query) ≠ memory := by
  rw [ne_eq, of_eq_memory_iff]
  intro heq
  have hmem : '?' ∈ (url ++ "?" ++ query).toList := by simp
  rw [heq] at hmem
  exact absurd hmem (by decide)

end UrlForm

namespace Settings

/-- The value that a query string gives for a setting: the last one under its name. -/
def queryValue (pairs : List Url.QueryPair) (f : Setting) : Option Value :=
  ((pairs.filterMap Url.QueryPair.meaning?).reverse.lookup f.name).map .text

/-! ### The values of a URL -/

/-- The values that a URL gives by its scheme. -/
def schemeValues (url : String) : Except Fault (List (String × Value)) :=
  match Url.cut ':' url.toList with
  | (_, none) => .error (.url (.noScheme url))
  | (scheme, some info) =>
    let scheme := Text.lower (String.ofList scheme)
    if scheme == "sqlite" then .ok (fileValues info) else serverValues scheme url

theorem urlValues_of_path {url : String} (h : UrlForm.of url = .path) :
    urlValues url = .ok [("driver", .text "sqlite"), ("database", .text url)] := by
  rcases UrlForm.of_eq_path_iff.mp h with h | h <;> simp [urlValues, h]

theorem urlValues_of_scheme {url : String} (hpath : UrlForm.of url ≠ .path)
    (hmemory : UrlForm.of url ≠ .memory) : urlValues url = schemeValues url := by
  rw [ne_eq, UrlForm.of_eq_path_iff, not_or] at hpath
  rw [ne_eq, UrlForm.of_eq_memory_iff] at hmemory
  rw [urlValues, beq_false_of_ne hpath.1, beq_false_of_ne hpath.2, beq_false_of_ne hmemory]
  rfl

/-- The values that the parts of a URL give, but for its query. -/
def partValues (scheme : String) (u : Url) : Except Fault (List (String × Value)) := do
  let port ← u.port
  .ok ([("driver", .text scheme), ("host", .text (if u.host.isEmpty then "localhost" else u.host)),
      ("port", match port with
        | some n => .int n
        | none => .null)]
    ++ credential "user" u.user ++ credential "password" u.password
    ++ databaseValues scheme u.path)

theorem serverValues_eq (scheme url : String) : serverValues scheme url = (do
    let u ← Url.split url
    let values ← partValues scheme u
    .ok (putEntries values (texts (Url.queryPairs u.query)))) := by
  rw [serverValues]
  rcases Url.split url with f | u
  · rfl
  · simp only [partValues, bind, Except.bind]
    rcases u.port with f | port
    · rfl
    · rfl

section Question

variable {url query : String}

theorem serverValues_question (scheme : String) (hcolon : ':' ∈ url.toList)
    (hbare : '?' ∉ url.toList) (hfragment : '#' ∉ url.toList)
    (hquery : ∀ c ∈ query.toList, Url.IsQueryChar c) :
    serverValues scheme (url ++ "?" ++ query) =
      (serverValues scheme url).map (putEntries · (texts (Url.queryPairs query.toList))) := by
  obtain ⟨location, path, hsplit, hbehind⟩ := Url.split_question hcolon hbare hfragment hquery
  rw [serverValues_eq, serverValues_eq, hsplit, hbehind]
  rcases Url.ofParts_cases location path with ⟨f, hf⟩ | hok
  · rw [hf, hf]
    rfl
  · have hparts : partValues scheme ⟨location, path, query.toList⟩ =
        partValues scheme ⟨location, path, []⟩ := rfl
    rw [hok, hok]
    simp only [bind, Except.bind, hparts]
    rcases partValues scheme ⟨location, path, []⟩ with f | values
    · rfl
    · rfl

theorem fileValues_question {info : List Char} (hbare : '?' ∉ info) (query : List Char) :
    fileValues (info ++ '?' :: query) =
      putEntries (fileValues info) (texts (Url.queryPairs query)) := by
  rw [fileValues, fileValues, Url.cut_append hbare, Url.cut_of_notMem hbare]
  rfl

theorem schemeValues_question (hcolon : ':' ∈ url.toList) (hbare : '?' ∉ url.toList)
    (hfragment : schemeOf url ≠ "sqlite" → '#' ∉ url.toList)
    (hquery : ∀ c ∈ query.toList, Url.IsQueryChar c) :
    schemeValues (url ++ "?" ++ query) =
      (schemeValues url).map (putEntries · (texts (Url.queryPairs query.toList))) := by
  obtain ⟨scheme, info, hlist, hnot⟩ := List.eq_append_cons_of_mem hcolon
  have hbehind : (url ++ "?" ++ query).toList = scheme ++ ':' :: (info ++ '?' :: query.toList) := by
    simp [hlist]
  have hinfo : '?' ∉ info := fun h => hbare (by simp [hlist, h])
  have hscheme : schemeOf url = Text.lower (String.ofList scheme) := by
    rw [schemeOf, hlist, Url.cut_append hnot]
  rw [schemeValues, schemeValues, hbehind, hlist, Url.cut_append hnot, Url.cut_append hnot]
  simp only
  rw [← hscheme]
  by_cases hfile : schemeOf url = "sqlite"
  · rw [if_pos (beq_iff_eq.mpr hfile), if_pos (beq_iff_eq.mpr hfile), fileValues_question hinfo]
    rfl
  · rw [if_neg (by simpa using hfile), if_neg (by simpa using hfile)]
    exact serverValues_question _ hcolon hbare (hfragment hfile) hquery

end Question

/-- No setting is given twice. -/
theorem nodup_partValues (scheme : String) (u : Url) :
    Gives (partValues scheme u) fun values => (values.map Prod.fst).Nodup := by
  have hcredential : ∀ name written, ((credential name written).map Prod.fst).Sublist [name] := by
    intro name written
    rcases written with _ | _ | ⟨c, cs⟩
    · exact List.nil_sublist _
    · exact List.nil_sublist _
    · exact List.Sublist.refl _
  have hdatabase :
      ((databaseValues scheme u.path).map Prod.fst).Sublist ["database", "schema"] := by
    rw [databaseValues]
    split
    · exact List.nil_sublist _
    · split
      · exact List.sublist_append_left ["database"] ["schema"]
      · exact List.Sublist.refl _
  refine .bind (.trivial _) fun port _ => .ok ?_
  simp only [List.map_append]
  have hall := (((List.Sublist.refl ["driver", "host", "port"]).append
    (hcredential "user" u.user)).append (hcredential "password" u.password)).append hdatabase
  exact hall.nodup (by decide)

theorem nodup_schemeValues (url : String) :
    Gives (schemeValues url) fun values => (values.map Prod.fst).Nodup := by
  rw [schemeValues]
  split
  · exact .error _
  · simp only
    split
    · exact .ok (nodup_putEntries (List.nodup_cons.mpr ⟨by simp, List.nodup_singleton _⟩))
    · rw [serverValues_eq]
      exact .bind (.trivial _) fun u _ =>
        (nodup_partValues _ u).bind fun values h => .ok (nodup_putEntries h)

/-! ### Updates by a query string -/

/-- Of two layers of overrides, the upper one is an update of what the lower one leaves. -/
theorem Overrides.layered {given more : Setting → Option Value} {base s : Settings}
    {result : Except Fault Settings} (hbase : Overrides given (.ok base) (.ok s))
    (hall : Overrides (fun f => (more f).or (given f)) (.ok base) result) :
    Overrides more (.ok s) result := by
  have hgiven : Convertible given := by
    by_contra hnot
    obtain ⟨e, he⟩ := hbase.refuses hnot
    cases he
  obtain ⟨_, ⟨⟩, hs⟩ := hbase.updates base rfl hgiven
  refine ⟨?_, nofun, fun hnot => hall.refuses fun hboth => hnot fun f v hv => ?_⟩
  · rintro _ ⟨⟩ hmore
    have hboth : Convertible fun f => (more f).or (given f) := by
      intro f v hv
      rcases Option.or_eq_some_iff.mp hv with hv | ⟨-, hv⟩
      · exact hmore f v hv
      · exact hgiven f v hv
    obtain ⟨t, ht, hupdates⟩ := hall.updates base rfl hboth
    refine ⟨t, ht, fun f => ?_⟩
    have hf := hupdates f
    have hsf := hs f
    beta_reduce at hf
    rcases hmore : more f with _ | v
    · rw [hmore, Option.none_or] at hf
      rcases hlower : given f with _ | v
      · rw [hlower] at hf hsf
        exact hf.trans hsf.symm
      · rw [hlower] at hf hsf
        exact Except.ok.inj (hf.symm.trans hsf)
    · rwa [hmore] at hf
  · exact hboth f v (Option.or_eq_some_iff.mpr (.inl hv))

/-- Values behind others override them. -/
theorem overrides_putEntries {values : List (String × Value)} {s : Settings}
    (more : List (String × Value)) (hnodup : (values.map Prod.fst).Nodup)
    (h : build values [] = .ok s) :
    Overrides (fun f => more.reverse.lookup f.name) (.ok s)
      (build (putEntries values more) []) := by
  have hbase := overrides_overridden hnodup (.ok {})
  have hlayers : ((putEntries values more).map Prod.fst).Nodup := nodup_putEntries hnodup
  have hall := overrides_overridden hlayers (.ok {})
  rw [← build_eq, h] at hbase
  rw [← build_eq] at hall
  simp only [lookup_putEntries] at hall
  exact hbase.layered hall

/-! ### The forms of URLs -/

/-- A URL with a query string behind it. -/
def withQuery (url : String) (pairs : List Url.QueryPair) : String :=
  url ++ "?" ++ Url.queryString pairs

section Forms

variable {url : String} {s : Settings} (pairs : List Url.QueryPair)

theorem overrides_withQuery (hpath : UrlForm.of url ≠ .path) (hbare : '?' ∉ url.toList)
    (hfragment : schemeOf url ≠ "sqlite" → '#' ∉ url.toList)
    (h : (schemeValues url).bind (build · []) = .ok s) :
    Overrides (queryValue pairs) (.ok s) (ofUrl (withQuery url pairs) []) := by
  have hmore : ∀ f : Setting, (texts (pairs.filterMap Url.QueryPair.meaning?)).reverse.lookup f.name
      = queryValue pairs f := by
    intro f
    rw [queryValue, texts, ← List.map_reverse]
    exact lookup_texts _ f.name
  have hpath' : UrlForm.of (withQuery url pairs) ≠ .path := fun hform =>
    hpath ((UrlForm.of_question_eq_path_iff url _).mp hform)
  rcases hvalues : schemeValues url with f | values
  · rw [hvalues] at h
    cases h
  rw [hvalues] at h
  have hcolon : ':' ∈ url.toList := by
    by_contra hnot
    rw [schemeValues, Url.cut_of_notMem hnot] at hvalues
    cases hvalues
  rw [ofUrl, urlValues_of_scheme hpath' (UrlForm.of_question_ne_memory url _), withQuery,
    schemeValues_question hcolon hbare hfragment fun _ => Url.isQueryChar_of_mem_queryString pairs,
    hvalues, Url.queryPairs_queryString]
  have hall := overrides_putEntries (texts (pairs.filterMap Url.QueryPair.meaning?))
    (nodup_schemeValues url values hvalues) h
  simp only [hmore] at hall
  exact hall

/-- **Query strings by the form of the URL.** Behind a URL with a scheme, a query string replaces
the settings that it names, each by the last value that it gives for it, and no others; for a server
there must be no fragment before it. Behind a path it is part of the name of the file. What stands
behind the database in memory makes a URL without a scheme of it, whose path is the database. -/
theorem query_strings_by_form (url : String) (pairs : List Url.QueryPair)
    (hbare : '?' ∉ url.toList) (h : ofUrl url [] = .ok s) :
    (UrlForm.of url = .file ∨ UrlForm.of url = .server ∧ '#' ∉ url.toList →
      Overrides (queryValue pairs) (.ok s) (ofUrl (withQuery url pairs) [])) ∧
    (UrlForm.of url = .path →
      ofUrl (withQuery url pairs) [] = .ok { s with database := .text (withQuery url pairs) }) ∧
    (UrlForm.of url = .memory →
      Overrides (queryValue pairs)
        (.ok { driver := .text "", schema := .text url, database := .text url })
        (ofUrl (withQuery url pairs) [])) := by
  refine ⟨fun hform => ?_, fun hform => ?_, fun hform => ?_⟩
  · have hpath : UrlForm.of url ≠ .path := by rcases hform with hform | ⟨hform, -⟩ <;> simp [hform]
    have hmemory : UrlForm.of url ≠ .memory := by
      rcases hform with hform | ⟨hform, -⟩ <;> simp [hform]
    have hfragment : schemeOf url ≠ "sqlite" → '#' ∉ url.toList := fun hne =>
      hform.elim (fun hfile => absurd (UrlForm.schemeOf_of_file hfile) hne) And.right
    rw [ofUrl, urlValues_of_scheme hpath hmemory] at h
    exact overrides_withQuery pairs hpath hbare hfragment h
  · have hform' := (UrlForm.of_question_eq_path_iff url (Url.queryString pairs)).mpr hform
    rw [ofUrl, urlValues_of_path hform] at h
    obtain rfl := Except.ok.inj h
    rw [withQuery, ofUrl, urlValues_of_path hform']
    rfl
  · obtain rfl := UrlForm.of_eq_memory_iff.mp hform
    exact overrides_withQuery pairs (by rw [hform]; decide) (by decide) (by decide) rfl

end Forms

/-- A server takes its host from the query string, too, and the last value that is not empty; a
path takes the query string as part of the name. -/
theorem query_strings_by_form_shop :
    let pairs : List Url.QueryPair := [
      { key := "schema", value := "a+b" },
      { key := "host", value := "db%32" },
      { key := "wait_timeout", value := "5" },
      { key := "schema", value := "crm" },
      { key := "wait_timeout", value := "" }]
    Url.queryString pairs = "schema=a+b&host=db%32&wait_timeout=5&schema=crm&wait_timeout=" ∧
      ofUrl (withQuery "mysql://app@db/shop" pairs) [] = .ok {
        driver := .text "mysql"
        host := .text "db2"
        user := .text "app"
        schema := .text "crm"
        database := .text "shop"
        waitTimeout := .int 5 } ∧
      ofUrl (withQuery "/data/shop.db" pairs) [] = .ok {
        database := .text (withQuery "/data/shop.db" pairs) } := by
  intro pairs
  let base : Settings := {
    driver := .text "mysql"
    host := .text "db"
    user := .text "app"
    schema := .text "shop"
    database := .text "shop" }
  let changed : Settings := {
    driver := .text "mysql"
    host := .text "db2"
    user := .text "app"
    schema := .text "crm"
    database := .text "shop"
    waitTimeout := .int 5 }
  have hbase : ofUrl "mysql://app@db/shop" [] = .ok base := rfl
  have hfile : ofUrl "/data/shop.db" [] = .ok { database := .text "/data/shop.db" } := rfl
  have hwait : Setting.waitTimeout.coerce (.text "5") = .ok (.int 5) := by cbv
  have hupdates : Updates (queryValue pairs) base changed := by
    intro f
    cases f
    case waitTimeout => exact hwait
    all_goals rfl
  obtain ⟨hserver, -⟩ := query_strings_by_form "mysql://app@db/shop" pairs (by decide) hbase
  obtain ⟨-, hpath, -⟩ := query_strings_by_form "/data/shop.db" pairs (by decide) hfile
  obtain ⟨t, ht, htupdates⟩ := (hserver (by decide)).updates base rfl hupdates.convertible
  exact ⟨by decide, by rw [ht, htupdates.unique hupdates], hpath (by decide)⟩

/-- The settings that query strings are for. -/
def querySettings : List Setting :=
  [.schema, .waitTimeout, .connectTimeout]

/-- Behind URLs of a form, a query string replaces the settings that query strings are for, and no
others. -/
def ReplacesQuerySettings (form : UrlForm) : Prop :=
  ∀ (url : String) (s : Settings) (pairs : List Url.QueryPair), UrlForm.of url = form →
    '?' ∉ url.toList → ofUrl url [] = .ok s → Convertible (queryValue pairs) →
    ∃ t, ofUrl (withQuery url pairs) [] = .ok t ∧
      Updates (fun f => if f ∈ querySettings then queryValue pairs f else none) s t

/-- So query strings do not work alike on all URLs: behind a path they replace nothing, and behind
the URL of a server they replace settings that they are not for. -/
theorem query_strings_not_alike :
    ¬ ReplacesQuerySettings .path ∧ ¬ ReplacesQuerySettings .server := by
  refine ⟨fun h => ?_, fun h => ?_⟩
  · let pairs : List Url.QueryPair := [{ key := "schema", value := "crm" }]
    have hpairs : Updates (queryValue pairs) {} { schema := .text "crm" } :=
      fun f => by cases f <;> rfl
    have hpath : UrlForm.of (withQuery "/shop.db" pairs) = .path := by decide
    obtain ⟨t, ht, hupdates⟩ := h "/shop.db" { database := .text "/shop.db" } pairs (by decide)
      (by decide) rfl hpairs.convertible
    -- the schema is still the usual one
    rw [ofUrl, urlValues_of_path hpath] at ht
    obtain rfl := Except.ok.inj ht
    have hschema := hupdates .schema
    have hvalue : queryValue pairs .schema = some (.text "crm") := rfl
    beta_reduce at hschema
    rw [if_pos (by decide), hvalue] at hschema
    exact absurd (Value.text.inj (Except.ok.inj hschema)) (by decide)
  · let pairs : List Url.QueryPair := [{ key := "host", value := "other" }]
    have hpairs : Updates (queryValue pairs) {} { host := .text "other" } :=
      fun f => by cases f <;> rfl
    have hwritten : withQuery "mysql://db" pairs = "mysql://db?host=other" := by decide
    have hread : ofUrl "mysql://db?host=other" [] =
        .ok { driver := .text "mysql", host := .text "other" } := rfl
    obtain ⟨t, ht, hupdates⟩ := h "mysql://db" { driver := .text "mysql", host := .text "db" } pairs
      (by decide) (by decide) rfl hpairs.convertible
    rw [hwritten, hread] at ht
    obtain rfl := Except.ok.inj ht
    have hhost := hupdates .host
    beta_reduce at hhost
    rw [if_neg (by decide)] at hhost
    exact absurd (Value.text.inj hhost) (by decide)

end Settings

end FluentSql
