import FluentSql.Proofs.Url.Splitting
import Mathlib.Data.Bool.AllAny
import Mathlib.Data.List.Basic
import Mathlib.Data.List.TakeWhile

/-!
# Query strings

A query string gives the pairs that it is written from, each part decoded; a pair without a value
gives nothing (`Url.queryPairs_queryString`). Behind a URL without query and fragment it is the
query, and leaves the other parts of the URL as they are (`Url.split_question`).
-/

namespace FluentSql.Url

/-! ### Pairs -/

/-- Characters of a query string: the number sign begins a fragment, and tabs and line breaks are
dropped from URLs. -/
def IsQueryChar (c : Char) : Prop :=
  c ≠ '#' ∧ c ≠ '\t' ∧ c ≠ '\r' ∧ c ≠ '\n'

instance (c : Char) : Decidable (IsQueryChar c) :=
  inferInstanceAs (Decidable (_ ∧ _))

/-- A key and its value, as they are written in a query string. -/
structure QueryPair where
  key : String
  value : String
  key_chars : ∀ c ∈ key.toList, IsQueryChar c ∧ c ≠ '&' ∧ c ≠ '=' := by
    exact List.all_iff_forall_prop.mp (by decide)
  value_chars : ∀ c ∈ value.toList, IsQueryChar c ∧ c ≠ '&' := by
    exact List.all_iff_forall_prop.mp (by decide)

namespace QueryPair

/-- A pair in a query string. -/
def written (p : QueryPair) : String :=
  p.key ++ "=" ++ p.value

/-- What a pair stands for: key and value are form-encoded, and a value has to be there. -/
def meaning? (p : QueryPair) : Option (String × String) :=
  if p.value = "" then none
  else some (unquoteForm p.key.toList, unquoteForm p.value.toList)

variable (p : QueryPair)

theorem cut_written : cut '=' p.written.toList = (p.key.toList, some p.value.toList) := by
  have hkey : '=' ∉ p.key.toList := fun hmem => (p.key_chars _ hmem).2.2 rfl
  rw [written, String.toList_append, String.toList_append, List.append_assoc]
  exact cut_append hkey p.value.toList

theorem isQueryChar_of_mem {c : Char} (h : c ∈ p.written.toList) : IsQueryChar c ∧ c ≠ '&' := by
  simp only [written, String.toList_append, List.mem_append] at h
  rcases h with (h | h) | h
  · exact ⟨(p.key_chars c h).1, (p.key_chars c h).2.1⟩
  · obtain rfl := List.mem_singleton.mp h
    decide
  · exact p.value_chars c h

end QueryPair

/-- A query string from its pairs. -/
def queryString (pairs : List QueryPair) : String :=
  String.intercalate "&" (pairs.map QueryPair.written)

section QueryString

variable (pairs : List QueryPair)

theorem toList_queryString : (queryString pairs).toList =
    ['&'].intercalate (pairs.map fun p => p.written.toList) := by
  simp [queryString, Function.comp_def]

theorem isQueryChar_of_mem_queryString {c : Char} (h : c ∈ (queryString pairs).toList) :
    IsQueryChar c := by
  rw [toList_queryString] at h
  induction pairs with
  | nil => cases h
  | cons p pairs ih =>
    rcases pairs with _ | ⟨q, pairs⟩
    · rw [List.map_singleton, List.intercalate_singleton] at h
      exact (p.isQueryChar_of_mem h).1
    · rw [List.map_cons, List.map_cons, List.intercalate_cons_cons, List.append_assoc,
        List.singleton_append] at h
      rcases List.mem_append.mp h with h | h
      · exact (p.isQueryChar_of_mem h).1
      · obtain rfl | h := List.mem_cons.mp h
        · decide
        · exact ih h

/-- **A query string gives its pairs back**, decoded. -/
theorem queryPairs_queryString :
    queryPairs (queryString pairs).toList = pairs.filterMap QueryPair.meaning? := by
  by_cases hempty : pairs = []
  · subst hempty
    rfl
  have hpieces : ∀ piece ∈ pairs.map fun p => p.written.toList, '&' ∉ piece := by
    intro piece hpiece hmem
    obtain ⟨p, -, rfl⟩ := List.mem_map.mp hpiece
    exact (p.isQueryChar_of_mem hmem).2 rfl
  rw [queryPairs, toList_queryString, splitAll_intercalate (by simpa using hempty) hpieces,
    List.filterMap_map]
  refine List.filterMap_congr fun p _ => ?_
  rw [Function.comp_apply, p.cut_written, QueryPair.meaning?]
  rcases hvalue : p.value.toList with _ | ⟨c, cs⟩
  · rw [if_pos (String.toList_eq_nil_iff.mp hvalue)]
  · have hne : p.value ≠ "" := fun h => by
      rw [h] at hvalue
      cases hvalue
    rw [if_neg hne]

end QueryString

/-! ### Behind a URL -/

section Behind

variable {cs ds : List Char}

theorem clean_append {c : Char} (hc : c ∈ cs) (hprint : 0x20 < c.toNat)
    (h : ∀ d ∈ ds, IsQueryChar d) : clean (cs ++ ds) = clean cs ++ ds := by
  have hkept : (ds.filter fun d => d != '\t' && d != '\r' && d != '\n') = ds := by
    rw [List.filter_eq_self]
    intro d hd
    obtain ⟨-, htab, hreturn, hfeed⟩ := h d hd
    simp [htab, hreturn, hfeed]
  have hstop : cs.dropWhile (fun d => d.toNat ≤ 0x20) ≠ [] := by
    rw [ne_eq, List.dropWhile_eq_nil_iff]
    exact fun hall => absurd (hall c hc) (by simpa using hprint)
  rw [clean, List.dropWhile_append, if_neg (by simpa using hstop), List.filter_append, hkept, clean]

theorem mem_of_mem_clean {c : Char} (h : c ∈ clean cs) : c ∈ cs :=
  (List.dropWhile_sublist _).mem (List.mem_filter.mp h).1

theorem mem_clean {c : Char} (h : c ∈ cs) (hprint : 0x20 < c.toNat) : c ∈ clean cs := by
  have hne : ∀ d : Char, d.toNat ≤ 0x20 → c ≠ d := fun d hd heq => by
    subst heq
    omega
  rw [clean, List.mem_filter]
  refine ⟨?_, by simp [hne '\t' (by decide), hne '\r' (by decide), hne '\n' (by decide)]⟩
  rw [← List.takeWhile_append_dropWhile (p := fun d : Char => d.toNat ≤ 0x20) (l := cs)] at h
  refine (List.mem_append.mp h).resolve_left fun hmem => ?_
  have hblank := List.mem_takeWhile_imp hmem
  simp only [decide_eq_true_eq] at hblank
  omega

theorem dropScheme_suffix (h : ':' ∈ cs) : dropScheme cs <:+ cs := by
  obtain ⟨scheme, rest, rfl, hnot⟩ := List.eq_append_cons_of_mem h
  rw [dropScheme, cut_append hnot]
  simp only
  split
  · exact ⟨scheme ++ [':'], by simp⟩
  · exact List.suffix_refl _

theorem dropScheme_behind (h : ':' ∈ cs) : dropScheme (cs ++ ds) = dropScheme cs ++ ds := by
  obtain ⟨scheme, rest, rfl, hnot⟩ := List.eq_append_cons_of_mem h
  rw [List.append_assoc, List.cons_append, dropScheme, dropScheme, cut_append hnot,
    cut_append hnot]
  simp only
  split
  · rfl
  · rw [List.append_assoc, List.cons_append]

theorem splitLocation_suffix (cs : List Char) : (splitLocation cs).2 <:+ cs := by
  rw [splitLocation.eq_def]
  split
  · next rest =>
    exact (List.dropWhile_suffix _).trans ⟨['/', '/'], rfl⟩
  · exact List.suffix_refl cs

theorem span_append_stop {p : Char → Bool} {c : Char} (hc : p c = false) (cs ds : List Char) :
    (cs ++ c :: ds).takeWhile p = cs.takeWhile p ∧
      (cs ++ c :: ds).dropWhile p = cs.dropWhile p ++ c :: ds := by
  induction cs with
  | nil => simp [hc]
  | cons d cs ih =>
    rw [List.cons_append, List.takeWhile_cons, List.takeWhile_cons, List.dropWhile_cons,
      List.dropWhile_cons, ih.1, ih.2]
    split
    · exact ⟨rfl, rfl⟩
    · exact ⟨rfl, rfl⟩

/-- A network location ends at a question mark. -/
theorem splitLocation_question (cs ds : List Char) : splitLocation (cs ++ '?' :: ds) =
    ((splitLocation cs).1, (splitLocation cs).2 ++ '?' :: ds) := by
  rw [splitLocation.eq_def cs]
  split
  · next rest =>
    rw [List.cons_append, List.cons_append, splitLocation]
    obtain ⟨htake, hdrop⟩ :=
      @span_append_stop (fun c => c != '/' && c != '?' && c != '#') '?' (by decide) rest ds
    rw [htake, hdrop]
  · next hne =>
    rw [splitLocation.eq_def]
    split
    · next rest heq =>
      rcases cs with _ | ⟨a, _ | ⟨b, cs⟩⟩
      · cases heq
      · cases heq
      · cases heq
        exact absurd rfl (hne cs)
    · rfl

/-! ### Splitting -/

/-- A URL of parts that are known, if its network location is well-formed. -/
def ofParts (location path query : List Char) : Except Fault Url := do
  checkBrackets location
  if location.any hidesDelimiter then .error (.url (.hiddenDelimiter (String.ofList location)))
  else .ok ⟨location, path, query⟩

/-- Whether a URL is refused is no matter of its query. -/
theorem ofParts_cases (location path : List Char) :
    (∃ f, ∀ query, ofParts location path query = .error f) ∨
      ∀ query, ofParts location path query = .ok ⟨location, path, query⟩ := by
  unfold ofParts
  rcases checkBrackets location with f | _
  · exact .inl ⟨f, fun _ => rfl⟩
  · cases location.any hidesDelimiter with
    | true => exact .inl ⟨_, fun _ => rfl⟩
    | false => exact .inr fun _ => rfl

theorem split_eq_ofParts {text : String} {location rest path : List Char}
    {query : Option (List Char)}
    (hsplit : splitLocation (dropScheme (clean text.toList)) = (location, rest))
    (hcut : cut '?' (cut '#' rest).1 = (path, query)) :
    split text = ofParts location path (query.getD []) := by
  rw [split, hsplit]
  simp only [hcut]
  rfl

/-- **A query string behind a URL is the query**, and the other parts are those of the URL, if this
has neither query nor fragment. -/
theorem split_question {url query : String} (hcolon : ':' ∈ url.toList) (hbare : '?' ∉ url.toList)
    (hfragment : '#' ∉ url.toList) (hquery : ∀ c ∈ query.toList, IsQueryChar c) :
    ∃ location path, split url = ofParts location path [] ∧
      split (url ++ "?" ++ query) = ofParts location path query.toList := by
  have hlist : (url ++ "?" ++ query).toList = url.toList ++ '?' :: query.toList := by simp
  have hchars : ∀ c ∈ '?' :: query.toList, IsQueryChar c :=
    List.forall_mem_cons.mpr ⟨by decide, hquery⟩
  have hscheme : ':' ∈ clean url.toList := mem_clean hcolon (by decide)
  rcases hsplit : splitLocation (dropScheme (clean url.toList)) with ⟨location, rest⟩
  have hsub : ∀ c ∈ rest, c ∈ url.toList := fun c hc => by
    have hc' : c ∈ (splitLocation (dropScheme (clean url.toList))).2 := hsplit ▸ hc
    exact mem_of_mem_clean ((dropScheme_suffix hscheme).subset
      ((splitLocation_suffix _).subset hc'))
  have hbehind : splitLocation (dropScheme (clean (url ++ "?" ++ query).toList)) =
      (location, rest ++ '?' :: query.toList) := by
    rw [hlist, clean_append hcolon (by decide) hchars, dropScheme_behind hscheme,
      splitLocation_question, hsplit]
  have hmark : '?' ∉ rest := fun h => hbare (hsub _ h)
  have hsign : '#' ∉ rest := fun h => hfragment (hsub _ h)
  have hsigns : '#' ∉ rest ++ '?' :: query.toList := fun h =>
    (List.mem_append.mp h).elim hsign fun h => (hchars _ h).1 rfl
  have hcut : cut '?' (cut '#' rest).1 = (rest, none) := by
    rw [cut_of_notMem hsign, cut_of_notMem hmark]
  have hcut' : cut '?' (cut '#' (rest ++ '?' :: query.toList)).1 = (rest, some query.toList) := by
    rw [cut_of_notMem hsigns, cut_append hmark]
  exact ⟨location, rest, split_eq_ofParts hsplit hcut, split_eq_ofParts hbehind hcut'⟩

end Behind

end FluentSql.Url
