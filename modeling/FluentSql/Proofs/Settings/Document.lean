import FluentSql.Ini
import FluentSql.Proofs.Entries
import FluentSql.Proofs.Results
import FluentSql.Proofs.Url.Splitting
import Mathlib.Data.List.Nodup

/-!
# INI documents

A document is what an INI file says: sections, each with options and their values as they are
written, one option to a line. `Ini.Document.parse_text` is that a file with the text of a document
says what the document says.

What a value is written as is not yet what it stands for, since a percent sign may begin a
reference. `Ini.interpolate_doubled` is that a text with all percent signs doubled stands for the
text.
-/

namespace FluentSql

/-! ### Trimmed text -/

namespace Text

/-- A text without blanks at its ends. -/
structure Trimmed (cs : List Char) : Prop where
  head : ∀ c ∈ cs.head?, isBlank c = false
  last : ∀ c ∈ cs.getLast?, isBlank c = false

instance (cs : List Char) : Decidable (Trimmed cs) :=
  decidable_of_iff (cs.head?.all (!isBlank ·) = true ∧ cs.getLast?.all (!isBlank ·) = true)
    ⟨fun h => ⟨by simpa [Option.all_eq_true] using h.1, by simpa [Option.all_eq_true] using h.2⟩,
      fun h => ⟨by simpa [Option.all_eq_true] using h.head,
        by simpa [Option.all_eq_true] using h.last⟩⟩

theorem dropWhile_of_head {p : Char → Bool} {cs : List Char} (h : ∀ c ∈ cs.head?, p c = false) :
    cs.dropWhile p = cs := by
  rcases cs with _ | ⟨c, cs⟩
  · rfl
  · exact List.dropWhile_cons_of_neg (by simp [h c rfl])

/-- Nothing but the blanks around a trimmed text is trimmed away. -/
theorem trimChars_pad {before cs after : List Char} (hbefore : ∀ c ∈ before, isBlank c = true)
    (hafter : ∀ c ∈ after, isBlank c = true) (h : Trimmed cs) :
    trimChars isBlank (before ++ cs ++ after) = cs := by
  rcases List.eq_nil_or_concat' cs with rfl | ⟨front, last, rfl⟩
  · have hall : ∀ c ∈ before ++ [] ++ after, isBlank c = true := by
      simpa [or_imp, forall_and] using And.intro hbefore hafter
    rw [trimChars, ← List.append_nil (before ++ [] ++ after), List.dropWhile_append_of_pos hall]
    rfl
  · have hhead : ∀ c ∈ (front ++ [last] ++ after).head?, isBlank c = false := by
      intro c hc
      refine h.head c ?_
      rcases front <;> simpa using hc
    rw [trimChars, List.append_assoc, List.dropWhile_append_of_pos hbefore,
      dropWhile_of_head hhead, List.reverse_append,
      List.dropWhile_append_of_pos (by simpa using hafter), dropWhile_of_head, List.reverse_reverse]
    simpa using h.last

theorem trimChars_of_trimmed {cs : List Char} (h : Trimmed cs) : trimChars isBlank cs = cs := by
  have hpad : trimChars isBlank ([] ++ cs ++ []) = cs := trimChars_pad nofun nofun h
  simpa using hpad

end Text

namespace Ini

/-! ### Lines -/

theorem normalizeBreaks_eq {cs : List Char} (h : '\r' ∉ cs) : normalizeBreaks cs = cs := by
  fun_induction normalizeBreaks cs with
  | case1 => rfl
  | case2 => simp at h
  | case3 => simp at h
  | case4 c rest _ _ ih => rw [ih fun hmem => h (List.mem_cons_of_mem c hmem)]

/-- The lines that a text was written in are read back. -/
theorem fileLines_ofList {lines : List (List Char)} (hfeed : ∀ line ∈ lines, '\n' ∉ line)
    (hreturn : ∀ line ∈ lines, '\r' ∉ line) :
    fileLines (String.ofList (lines.flatMap (· ++ ['\n']))) = lines := by
  have hsplit : ∀ {lines : List (List Char)}, (∀ line ∈ lines, '\n' ∉ line) →
      Url.splitAll '\n' (lines.flatMap (· ++ ['\n'])) = lines ++ [[]] := by
    intro lines hlines
    induction lines with
    | nil => rfl
    | cons line lines ih =>
      rw [List.flatMap_cons, List.append_assoc, List.singleton_append,
        Url.splitAll_append (hlines line List.mem_cons_self),
        ih fun l hl => hlines l (List.mem_cons_of_mem line hl), List.cons_append]
  have hbreaks : '\r' ∉ lines.flatMap (· ++ ['\n']) := by
    simpa [List.mem_flatMap] using hreturn
  simp [fileLines, normalizeBreaks_eq hbreaks, hsplit hfeed]

/-! ### Documents -/

/-- A text that can be the value of an option: it stands on one line and is trimmed. -/
structure Plain (s : String) : Prop where
  feed : '\n' ∉ s.toList
  return' : '\r' ∉ s.toList
  trimmed : Text.Trimmed s.toList

/-- A text that can be the name of an option, in the form that is kept. -/
structure OptionName (s : String) : Prop extends Plain s where
  nonempty : s ≠ ""
  lower : Text.lower s = s
  undelimited : ∀ c ∈ s.toList, c ≠ '=' ∧ c ≠ ':'
  unmarked : ∀ c ∈ s.toList.head?, c ≠ '#' ∧ c ≠ ';' ∧ c ≠ '['

instance (s : String) : Decidable (Plain s) :=
  decidable_of_iff ('\n' ∉ s.toList ∧ '\r' ∉ s.toList ∧ Text.Trimmed s.toList)
    ⟨fun h => ⟨h.1, h.2.1, h.2.2⟩, fun h => ⟨h.feed, h.return', h.trimmed⟩⟩

instance (s : String) : Decidable (OptionName s) :=
  decidable_of_iff (Plain s ∧ s ≠ "" ∧ Text.lower s = s ∧
      s.toList.all (fun c => c ≠ '=' ∧ c ≠ ':') = true ∧
      s.toList.head?.all (fun c => c ≠ '#' ∧ c ≠ ';' ∧ c ≠ '[') = true)
    ⟨fun ⟨hplain, hnonempty, hlower, hall, hhead⟩ =>
      ⟨hplain, hnonempty, hlower, by simpa using hall,
        by simpa [Option.all_eq_true] using hhead⟩,
      fun h => ⟨h.toPlain, h.nonempty, h.lower, by simpa using h.undelimited,
        by simpa [Option.all_eq_true] using h.unmarked⟩⟩

/-- A section with options, each with its value as it is written. -/
structure Part where
  name : String
  options : List (String × String)
  named : name ≠ "" ∧ name ≠ IniReader.defaultSection
  onLine : '\n' ∉ name.toList ∧ '\r' ∉ name.toList
  nodup : (options.map Prod.fst).Nodup
  names : ∀ o ∈ options, OptionName o.1
  values : ∀ o ∈ options, Plain o.2

/-- What an INI file says: sections with different names. -/
structure Document where
  parts : List Part
  nodup : (parts.map Part.name).Nodup

/-- The line of an option. -/
def optionLine (o : String × String) : List Char :=
  o.1.toList ++ (" = ".toList ++ o.2.toList)

/-- The line that a section starts with. -/
def headerLine (name : String) : List Char :=
  '[' :: (name.toList ++ [']'])

/-- The lines of a section. -/
def Part.lines (p : Part) : List (List Char) :=
  headerLine p.name :: p.options.map optionLine

/-- The text of a file that says what a document says. -/
def Document.text (doc : Document) : String :=
  String.ofList ((doc.parts.flatMap Part.lines).flatMap (· ++ ['\n']))

end Ini

/-! ### Reading a line -/

namespace IniReader

open Ini

theorem trimmed_headerLine (name : String) : Text.Trimmed (headerLine name) where
  head := by
    rintro c ⟨⟩
    rfl
  last := by
    rw [headerLine, ← List.cons_append, List.getLast?_concat]
    rintro c ⟨⟩
    rfl

theorem headerName?_headerLine {name : String} (hname : name ≠ "") :
    headerName? (headerLine name) = some name := by
  have hcut : Url.cut ']' (']' :: name.toList.reverse) = ([], some name.toList.reverse) := by
    simp [Url.cut]
  simp [headerLine, headerName?, hcut, hname]

theorem readLine_header {r : IniReader} {name : String} (hname : name ≠ "")
    (hdefault : name ≠ defaultSection) (hnew : name ∉ r.sections.map Prod.fst) :
    r.readLine (headerLine name) = .ok { r with
      sections := r.sections ++ [(name, [])], current := some name, option := none,
      indent := 0 } := by
  have hbody := Text.trimChars_of_trimmed (trimmed_headerLine name)
  have hdepth : ((headerLine name).takeWhile Text.isBlank).length = 0 := rfl
  simp only [readLine, hbody, hdepth, headerName?_headerLine hname, startSection,
    lookup_eq_none_of_notMem hnew, hdefault]
  simp [headerLine]

theorem headerName?_of_ne {c : Char} {rest : List Char} (hc : c ≠ '[') :
    headerName? (c :: rest) = none := by
  unfold headerName?
  split
  · next h => exact absurd (List.cons.inj h).1 hc
  · rfl

/-- Of the line of an option at most the blank behind the delimiter is trimmed away. -/
theorem trimChars_optionLine {key value : String} (hkey : OptionName key) (hvalue : Plain value) :
    ∃ tail, Text.trimChars Text.isBlank (optionLine (key, value)) =
        key.toList ++ ' ' :: '=' :: tail ∧
      Text.trimChars Text.isBlank tail = value.toList := by
  have hnonempty : key.toList ≠ [] := by simpa using hkey.nonempty
  have hhead : ∀ {rest : List Char}, ∀ c ∈ (key.toList ++ rest).head?, Text.isBlank c = false := by
    intro rest c hc
    rw [List.head?_append_of_ne_nil _ hnonempty] at hc
    exact hkey.trimmed.head c hc
  rcases List.eq_nil_or_concat' value.toList with hv | ⟨front, last, hv⟩
  · have hline : optionLine (key, value) = [] ++ (key.toList ++ [' ', '=']) ++ [' '] := by
      simp [optionLine, hv]
    have htrimmed : Text.Trimmed (key.toList ++ [' ', '=']) := by
      refine ⟨hhead, ?_⟩
      simp
      decide
    refine ⟨[], ?_, by rw [hv]; rfl⟩
    rw [hline, Text.trimChars_pad (List.forall_mem_nil _) (by simp; decide) htrimmed]
  · have htrimmed : Text.Trimmed (optionLine (key, value)) := by
      refine ⟨hhead, ?_⟩
      have hline : optionLine (key, value) = key.toList ++ (" = ".toList ++ front) ++ [last] := by
        simp [optionLine, hv]
      have hlast := hvalue.trimmed.last
      rw [hv, List.getLast?_concat] at hlast
      rwa [hline, List.getLast?_concat]
    refine ⟨' ' :: value.toList, Text.trimChars_of_trimmed htrimmed, ?_⟩
    have hpad : Text.trimChars Text.isBlank ([' '] ++ value.toList ++ []) = value.toList :=
      Text.trimChars_pad (by simp; decide) nofun hvalue.trimmed
    simpa using hpad

theorem splitOption_append {before after : List Char}
    (h : ∀ c ∈ before, c ≠ '=' ∧ c ≠ ':') :
    splitOption (before ++ '=' :: after) = some (before, after) := by
  have hbefore : ∀ c ∈ before, (!(c == '=' || c == ':')) = true := by simpa using h
  have hdrop : (before ++ '=' :: after).dropWhile (fun c => !(c == '=' || c == ':')) =
      '=' :: after := by
    rw [List.dropWhile_append_of_pos hbefore]
    rfl
  have htake : (before ++ '=' :: after).takeWhile (fun c => !(c == '=' || c == ':')) = before := by
    rw [List.takeWhile_append_of_pos hbefore]
    exact List.append_nil before
  simp only [splitOption, hdrop, htake]

/-- A line that is not indented, and is neither blank, nor a comment, nor a header, is an option. -/
theorem readLine_eq_readOption {r : IniReader} {name : String} {line body : List Char} {c : Char}
    (hbody : Text.trimChars Text.isBlank line = c :: body)
    (hdepth : (line.takeWhile Text.isBlank).length = 0) (hmark : c ≠ '#' ∧ c ≠ ';' ∧ c ≠ '[')
    (hcurrent : r.current = some name) :
    r.readLine line = { r with indent := 0 }.readOption name (c :: body) := by
  obtain ⟨hhash, hsemicolon, hbracket⟩ := hmark
  simp [readLine, hbody, hdepth, hhash, hsemicolon, headerName?_of_ne hbracket, hcurrent]

theorem readOption_append {r : IniReader} {name key value : String} {tail : List Char}
    {done : List (String × IniOptions)} {opts : IniOptions} (hkey : OptionName key)
    (htail : Text.trimChars Text.isBlank tail = value.toList) (hdefault : name ≠ defaultSection)
    (hsections : r.sections = done ++ [(name, opts)]) (hdone : name ∉ done.map Prod.fst)
    (hnew : key ∉ opts.map Prod.fst) :
    r.readOption name (key.toList ++ ' ' :: '=' :: tail) = .ok { r with
      sections := done ++ [(name, opts ++ [(key, [value])])], option := some key } := by
  have hsplit : splitOption (key.toList ++ ' ' :: '=' :: tail) =
      some (key.toList ++ [' '], tail) := by
    rw [List.append_cons]
    refine splitOption_append fun c hc => ?_
    rcases List.mem_append.mp hc with hc | hc
    · exact hkey.undelimited c hc
    · rw [List.mem_singleton.mp hc]
      decide
  have hname : Text.trimChars Text.isBlank (key.toList ++ [' ']) = key.toList := by
    have hpad : Text.trimChars Text.isBlank ([] ++ key.toList ++ [' ']) = key.toList :=
      Text.trimChars_pad (List.forall_mem_nil _) (by simp; decide) hkey.trimmed
    simpa using hpad
  have hoptions : r.options name = opts := by
    rw [options, if_neg hdefault, hsections, List.lookup_append, lookup_eq_none_of_notMem hdone]
    simp
  simp [readOption, hsplit, hname, htail, hkey.lower, hoptions, lookup_eq_none_of_notMem hnew,
    setOptions, hdefault, hsections, putEntry_last hdone, hkey.nonempty]

theorem readLine_option {r : IniReader} {name key value : String}
    {done : List (String × IniOptions)} {opts : IniOptions} (hkey : OptionName key)
    (hvalue : Plain value) (hdefault : name ≠ defaultSection) (hcurrent : r.current = some name)
    (hsections : r.sections = done ++ [(name, opts)]) (hdone : name ∉ done.map Prod.fst)
    (hnew : key ∉ opts.map Prod.fst) :
    r.readLine (optionLine (key, value)) = .ok { r with
      sections := done ++ [(name, opts ++ [(key, [value])])], option := some key,
      indent := 0 } := by
  obtain ⟨tail, hbody, htail⟩ := trimChars_optionLine hkey hvalue
  obtain ⟨c, cs, hc⟩ := List.exists_cons_of_ne_nil (by simpa using hkey.nonempty : key.toList ≠ [])
  have hmark := hkey.unmarked c (by rw [hc]; rfl)
  have hdepth : ((optionLine (key, value)).takeWhile Text.isBlank).length = 0 := by
    have hblank := hkey.trimmed.head c (by rw [hc]; rfl)
    simp [optionLine, hc, hblank]
  have hread := readOption_append (r := { r with indent := 0 }) hkey htail hdefault hsections hdone
    hnew
  rw [hc, List.cons_append] at hbody hread
  exact (readLine_eq_readOption hbody hdepth hmark hcurrent).trans hread

/-! ### Reading a document -/

/-- A reader has read the sections, and nothing that is malformed. -/
structure HasRead (sections : List (String × IniOptions)) (r : IniReader) : Prop where
  sections_eq : r.sections = sections
  defaults_eq : r.defaults = []
  wellFormed : r.malformed = false

/-- Options as they are kept, with the lines of their values. -/
def kept (options : List (String × String)) : IniOptions :=
  options.map fun o => (o.1, [o.2])

theorem foldlM_options {name : String} {done : List (String × IniOptions)} {opts : IniOptions}
    {options : List (String × String)} {r : IniReader} (hnames : ∀ o ∈ options, OptionName o.1)
    (hvalues : ∀ o ∈ options, Plain o.2) (hdefault : name ≠ defaultSection)
    (hdone : name ∉ done.map Prod.fst)
    (hnodup : (opts.map Prod.fst ++ options.map Prod.fst).Nodup)
    (hr : HasRead (done ++ [(name, opts)]) r) (hcurrent : r.current = some name) :
    ∃ r', (options.map optionLine).foldlM readLine r = .ok r' ∧
      HasRead (done ++ [(name, opts ++ kept options)]) r' := by
  induction options generalizing opts r with
  | nil => exact ⟨r, rfl, by simpa [kept] using hr⟩
  | cons o options ih =>
    have hnew : o.1 ∉ opts.map Prod.fst := by
      intro hmem
      exact (List.nodup_append.mp hnodup).2.2 _ hmem _ List.mem_cons_self rfl
    have hline := readLine_option (hnames o List.mem_cons_self) (hvalues o List.mem_cons_self)
      hdefault hcurrent hr.sections_eq hdone hnew
    have hfirst : HasRead (done ++ [(name, opts ++ [(o.1, [o.2])])]) { r with
        sections := done ++ [(name, opts ++ [(o.1, [o.2])])], option := some o.1, indent := 0 } :=
      ⟨rfl, hr.defaults_eq, hr.wellFormed⟩
    have hrest : ((opts ++ [(o.1, [o.2])]).map Prod.fst ++ options.map Prod.fst).Nodup := by
      simpa using hnodup
    obtain ⟨r', hfold, hr'⟩ := ih (fun p hp => hnames p (List.mem_cons_of_mem o hp))
      (fun p hp => hvalues p (List.mem_cons_of_mem o hp)) hrest hfirst hcurrent
    refine ⟨r', ?_, by simpa [kept] using hr'⟩
    rw [List.map_cons, List.foldlM_cons, hline]
    exact hfold

theorem foldlM_parts {done : List (String × IniOptions)} {parts : List Part} {r : IniReader}
    (hnodup : (done.map Prod.fst ++ parts.map Part.name).Nodup) (hr : HasRead done r) :
    ∃ r', (parts.flatMap Part.lines).foldlM readLine r = .ok r' ∧
      HasRead (done ++ parts.map fun p => (p.name, kept p.options)) r' := by
  induction parts generalizing done r with
  | nil => exact ⟨r, rfl, by simpa using hr⟩
  | cons p parts ih =>
    have hnew : p.name ∉ done.map Prod.fst := by
      intro hmem
      exact (List.nodup_append.mp hnodup).2.2 _ hmem _ List.mem_cons_self rfl
    have hheader := readLine_header p.named.1 p.named.2 (hr.sections_eq ▸ hnew)
    have hstart : HasRead (done ++ [(p.name, [])]) { r with
        sections := r.sections ++ [(p.name, [])], current := some p.name, option := none,
        indent := 0 } :=
      ⟨by rw [hr.sections_eq], hr.defaults_eq, hr.wellFormed⟩
    obtain ⟨r', hfold, hr'⟩ := foldlM_options p.names p.values p.named.2 hnew
      (by simpa using p.nodup) hstart rfl
    obtain ⟨r'', hrest, hr''⟩ := ih (by simpa using hnodup) hr'
    refine ⟨r'', ?_, by simpa using hr''⟩
    rw [List.flatMap_cons, List.foldlM_append, Part.lines, List.foldlM_cons, hheader]
    exact (congrArg (· >>= _) hfold).trans hrest

theorem joinLines_of_plain {value : String} (h : Plain value) : joinLines [value] = value := by
  rw [joinLines, String.intercalate_singleton, Text.dropWhile_of_head, List.reverse_reverse,
    String.ofList_toList]
  simpa using h.trimmed.last

end IniReader

namespace Ini

open IniReader

theorem Part.lines_onLine (p : Part) : ∀ line ∈ p.lines, '\n' ∉ line ∧ '\r' ∉ line := by
  intro line hline
  rcases List.mem_cons.mp hline with rfl | hline
  · simpa [headerLine] using p.onLine
  · obtain ⟨o, ho, rfl⟩ := List.mem_map.mp hline
    have hname := p.names o ho
    have hvalue := p.values o ho
    simp [optionLine, hname.feed, hname.return', hvalue.feed, hvalue.return']

/-- **A file says what the document says that it was written for.** -/
theorem Document.parse_text (doc : Document) :
    Ini.parse doc.text = .ok ⟨[], doc.parts.map fun p => (p.name, p.options)⟩ := by
  have honLine : ∀ line ∈ doc.parts.flatMap Part.lines, '\n' ∉ line ∧ '\r' ∉ line := by
    intro line hline
    obtain ⟨p, -, hp⟩ := List.mem_flatMap.mp hline
    exact p.lines_onLine line hp
  have hlines : fileLines doc.text = doc.parts.flatMap Part.lines :=
    fileLines_ofList (fun line hline => (honLine line hline).1)
      fun line hline => (honLine line hline).2
  have hstart : HasRead [] {} := ⟨rfl, rfl, rfl⟩
  obtain ⟨r, hfold, hr⟩ := foldlM_parts (by simpa using doc.nodup) hstart
  have hjoin : ∀ p : Part, (kept p.options).map (fun o => (o.1, joinLines o.2)) = p.options := by
    intro p
    rw [kept, List.map_map, List.map_congr_left fun o ho => ?_, List.map_id]
    exact Prod.ext rfl (joinLines_of_plain (p.values o ho))
  have hkept : r.sections.map (fun s => (s.1, s.2.map fun o => (o.1, joinLines o.2))) =
      doc.parts.map fun p => (p.name, p.options) := by
    simp [hr.sections_eq, hjoin]
  rw [parse, hlines]
  refine (congrArg (· >>= _) hfold).trans ?_
  change (if r.malformed then Except.error _ else Except.ok (Ini.mk _ _)) = _
  rw [hr.wellFormed, hr.defaults_eq, hkept]
  rfl

/-! ### Interpolation -/

/-- A text with each of its percent signs doubled. -/
def doubled (s : String) : String :=
  String.ofList (s.toList.flatMap fun c => if c = '%' then ['%', '%'] else [c])

theorem pieces_literal {fuel : Nat} {c : Char} {rest : List Char} (h : c ≠ '%') :
    pieces (fuel + 1) (c :: rest) = .literal c :: pieces fuel rest := by
  rw [pieces]
  · rintro rest rfl
    exact absurd rfl h
  · rintro rfl
    exact absurd rfl h

/-- A text with its percent signs doubled is made of literal characters. -/
theorem pieces_doubled {cs : List Char} {fuel : Nat}
    (hfuel : (cs.flatMap fun c => if c = '%' then ['%', '%'] else [c]).length ≤ fuel) :
    pieces fuel (cs.flatMap fun c => if c = '%' then ['%', '%'] else [c]) =
      cs.map Piece.literal := by
  induction cs generalizing fuel with
  | nil => cases fuel <;> rfl
  | cons c cs ih =>
    rw [List.flatMap_cons] at hfuel ⊢
    by_cases hc : c = '%'
    · subst hc
      simp only [if_true, List.length_append, List.length_cons, List.length_nil] at hfuel
      obtain ⟨fuel, rfl⟩ : ∃ n, fuel = n + 1 := ⟨fuel - 1, by omega⟩
      simp only [if_true, List.cons_append, List.nil_append, List.map_cons]
      rw [pieces, ih (by omega)]
    · simp only [if_neg hc, List.length_append, List.length_cons, List.length_nil] at hfuel
      obtain ⟨fuel, rfl⟩ : ∃ n, fuel = n + 1 := ⟨fuel - 1, by omega⟩
      simp only [if_neg hc, List.cons_append, List.nil_append, List.map_cons]
      rw [pieces_literal hc, ih (by omega)]

/-- The literal characters in front of other pieces stand for themselves. -/
theorem mapM_literals {f : Piece → Except Fault String} {cs : List Char} {rest : List Piece}
    (hf : ∀ c, f (.literal c) = .ok (String.singleton c)) :
    (cs.map Piece.literal ++ rest).mapM f = (rest.mapM f).map (cs.map String.singleton ++ ·) := by
  induction cs with
  | nil =>
    rw [List.map_nil, List.map_nil, List.nil_append]
    rcases rest.mapM f with e | texts <;> rfl
  | cons c cs ih =>
    rw [List.map_cons, List.cons_append, List.mapM_cons, hf, ih]
    rcases rest.mapM f with e | texts <;> rfl

/-- **A text with its percent signs doubled stands for the text.** -/
theorem interpolate_doubled (options : List (String × String)) (depth : Nat) (s : String) :
    interpolate options (depth + 1) (doubled s) = .ok s := by
  have hjoin : String.join (s.toList.map String.singleton) = s := by
    rw [← String.toList_inj, String.toList_join]
    simp [List.flatMap_map, String.toList_singleton]
  rw [interpolate, doubled, String.toList_ofList, pieces_doubled (Nat.le_refl _),
    ← List.append_nil (s.toList.map Piece.literal), mapM_literals fun c => rfl]
  exact congrArg Except.ok ((congrArg String.join (List.append_nil _)).trans hjoin)

/-- The options of a section stand for the texts whose percent signs they double. -/
theorem sectionOptions_doubled {sections : List (String × List (String × String))}
    {options lines : List (String × String)} (hnodup : (options.map Prod.fst).Nodup)
    (h : options = lines.map fun e => (e.1, doubled e.2)) :
    sectionOptions ⟨[], sections⟩ options = .ok lines := by
  have hall : putEntries [] options = options := putEntries_of_nodup hnodup
  have hresolve : ∀ all (lines : List (String × String)),
      (lines.map fun e => (e.1, doubled e.2)).mapM (fun o => do
        let v ← interpolate all interpolationDepth o.2
        Except.ok (o.1, v)) = Except.ok lines := by
    intro all lines
    induction lines with
    | nil => rfl
    | cons e lines ih =>
      rw [List.map_cons, List.mapM_cons, ih, interpolationDepth, interpolate_doubled]
      rfl
  rw [sectionOptions, hall, h]
  exact hresolve _ lines

/-! ### Percent signs that begin nothing -/

private theorem eq_error_of_bind_ok {α β : Type} {r : Except Fault α} {g : α → β} {e : Fault}
    (h : (r >>= fun a => Except.ok (g a)) = .error e) : r = .error e := by
  rcases r with f | a <;> cases h
  rfl

/-- The first percent sign of a text begins neither a reference nor another percent sign. -/
def LonePercent (s : String) : Prop :=
  ∃ before after, s.toList = before ++ '%' :: after ∧ '%' ∉ before ∧
    ∀ c ∈ after.head?, c ≠ '%' ∧ c ≠ '('

theorem pieces_lonePercent {before after : List Char} {fuel : Nat} (hbefore : '%' ∉ before)
    (hafter : ∀ c ∈ after.head?, c ≠ '%' ∧ c ≠ '(') (hfuel : before.length < fuel) :
    pieces fuel (before ++ '%' :: after) = before.map Piece.literal ++ [.fault] := by
  obtain ⟨fuel, rfl⟩ : ∃ n, fuel = n + 1 := ⟨fuel - 1, by omega⟩
  induction before generalizing fuel with
  | nil =>
    have hnone : reference? after = none := by
      unfold reference?
      split
      · exact absurd rfl (hafter _ rfl).2
      · rfl
    rw [List.nil_append, pieces, hnone]
    · rfl
    · rintro rest rfl
      exact absurd rfl (hafter _ rfl).1
  | cons c before ih =>
    obtain ⟨hc, hrest⟩ := not_or.mp (List.mem_cons.not.mp hbefore)
    obtain ⟨fuel, rfl⟩ : ∃ n, fuel = n + 1 := ⟨fuel - 1, by simp at hfuel; omega⟩
    rw [List.cons_append, pieces_literal (Ne.symm hc), ih hrest fuel (by simpa using hfuel)]
    rfl

theorem interpolate_lonePercent {options : List (String × String)} {depth : Nat} {s : String}
    (h : LonePercent s) :
    interpolate options (depth + 1) s = .error (.ini .interpolationSyntax) := by
  obtain ⟨before, after, hs, hbefore, hafter⟩ := h
  have hfuel : before.length < (before ++ '%' :: after).length := by simp
  rw [interpolate, hs, pieces_lonePercent hbefore hafter hfuel]
  rw [mapM_literals fun c => rfl]
  rfl

/-- A value is resolved, or refused for what the file says. -/
theorem interpolate_error {options : List (String × String)} {depth : Nat} {s : String} {f : Fault}
    (h : interpolate options depth s = .error f) : ∃ fault, f = .ini fault := by
  induction depth generalizing s f with
  | zero =>
    cases h
    exact ⟨_, rfl⟩
  | succ depth ih =>
    rw [interpolate] at h
    obtain ⟨p, -, hp⟩ := exists_of_mapM_error (eq_error_of_bind_ok h)
    cases p with
    | literal => cases hp
    | fault =>
      cases hp
      exact ⟨_, rfl⟩
    | reference name =>
      simp only [] at hp
      split at hp
      · cases hp
        exact ⟨_, rfl⟩
      · split at hp
        · exact ih hp
        · cases hp

theorem sectionOptions_error {ini : Ini} {options : List (String × String)} {f : Fault}
    (h : ini.sectionOptions options = .error f) : ∃ fault, f = .ini fault := by
  obtain ⟨o, -, ho⟩ := exists_of_mapM_error h
  exact interpolate_error (eq_error_of_bind_ok ho)

/-- A section with a single percent sign in a value does not stand for anything. -/
theorem sectionOptions_lonePercent {sections : List (String × List (String × String))}
    {options values : List (String × String)} {o : String × String}
    (hnodup : (options.map Prod.fst).Nodup) (ho : o ∈ options) (h : LonePercent o.2) :
    sectionOptions ⟨[], sections⟩ options ≠ .ok values := by
  have hall : putEntries [] options = options := putEntries_of_nodup hnodup
  intro hvalues
  rw [sectionOptions, hall] at hvalues
  obtain ⟨p, hp⟩ := exists_of_mapM_ok hvalues ho
  rw [interpolationDepth, interpolate_lonePercent h] at hp
  cases hp

end Ini

end FluentSql
