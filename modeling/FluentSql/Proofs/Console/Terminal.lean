import FluentSql.Console.Markup
import FluentSql.Console.Terminal
import Mathlib.Data.List.Basic

/-!
# Terminals that read tags

What may be relied on of a terminal is `Terminal.Renders`: it takes text that was escaped, text
without brackets in a style, and tables whose parts it takes.

`Terminal.strict` is such a terminal (`Terminal.renders_strict`). It refuses text in which a tag is
closed that was not opened. That it takes what was escaped is due to `readTags_escapeTags`: every
tag of an escaped text has an odd number of backslashes before it.
-/

namespace FluentSql.Console

/-- What may be relied on of a terminal, whatever else it refuses. -/
structure Terminal.Renders (t : Terminal) : Prop where
  escaped (s : String) : t.take (.line (escape s)) = .ok ()
  dimmed {s : String} (h : '[' ∉ s.toList) : t.take (.line ("[dim]" ++ s ++ "[/dim]")) = .ok ()
  table {header : Bool} {columns : List Column} {rows : List (List String)}
    (hcolumns : header = true → ∀ c ∈ columns, t.take (.line c.header) = .ok ())
    (hrows : ∀ row ∈ rows, ∀ text ∈ row, t.take (.line text) = .ok ()) :
    t.take (.table header columns rows) = .ok ()

/-- What a terminal takes is printed. -/
theorem Terminal.print_of_takes {t : Terminal} {items : List Printed}
    (h : ∀ p ∈ items, t.take p = .ok ()) : t.print items = (items, none) := by
  induction items with
  | nil => rfl
  | cons p rest ih =>
    rw [print, h p List.mem_cons_self, ih fun q hq => h q (List.mem_cons_of_mem _ hq)]

/-! ### Reading tags -/

/-- The names of the tags that are open behind one more tag. A closing tag closes the last one of
its name, or the last one of all if it has no name. -/
def turnTag (opened : List (List Char)) : List Char → Option (List (List Char))
  | ['[', '/', ']'] => if opened.isEmpty then none else some opened.tail
  | '[' :: '/' :: name => if name ∈ opened then some (opened.erase name) else none
  | tag => some (tag.tail :: opened)

/-- The tags that are open behind a text, unless one is closed that was not opened. `slashes` counts
the backslashes right before the text: a tag behind an odd number of them is none. -/
def readTags (slashes : Nat) (opened : List (List Char)) :
    List Char → Option (List (List Char))
  | [] => some opened
  | '\\' :: rest => readTags (slashes + 1) opened rest
  | c :: rest =>
    match tag? (c :: rest) with
    | none => readTags 0 opened rest
    | some (tag, _) =>
      if slashes % 2 = 1 then readTags 0 opened rest
      else (turnTag opened tag).bind fun opened => readTags 0 opened rest

/-- Whether the tags of a text can be read. -/
def isReadable (markup : String) : Bool :=
  (readTags 0 [] markup.toList).isSome

example : isReadable "[red]Error:[/red] [x]" = true := by decide

example : isReadable "[red]Error:[/red] [/x]" = false := by decide

/-- A terminal that refuses, with the given fault, text whose tags cannot be read. -/
def Terminal.strict (f : Fault) : Terminal where
  take
    | .line markup => if isReadable markup then .ok () else .error f
    | .table header columns rows =>
      if (!header || columns.all (isReadable ·.header)) && rows.all (·.all isReadable) then .ok ()
      else .error f

theorem readTags_slashes (n slashes : Nat) (opened : List (List Char)) (cs : List Char) :
    readTags slashes opened (List.replicate n '\\' ++ cs) = readTags (slashes + n) opened cs := by
  induction n generalizing slashes with
  | zero => rfl
  | succ n ih =>
    rw [List.replicate_succ, List.cons_append, readTags, ih, Nat.add_right_comm, Nat.add_assoc]

theorem readTags_of_no_tag {c : Char} {rest : List Char} (hc : c ≠ '\\')
    (h : tag? (c :: rest) = none) (slashes : Nat) (opened : List (List Char)) :
    readTags slashes opened (c :: rest) = readTags 0 opened rest := by
  rw [readTags, h]
  exact hc

theorem readTags_of_escaped {c : Char} (hc : c ≠ '\\') {slashes : Nat} (hodd : slashes % 2 = 1)
    (opened : List (List Char)) (rest : List Char) :
    readTags slashes opened (c :: rest) = readTags 0 opened rest := by
  rcases h : tag? (c :: rest) with _ | ⟨tag, after⟩
  · exact readTags_of_no_tag hc h slashes opened
  · rw [readTags, h]
    · exact if_pos hodd
    · exact hc

/-! ### Escaped text -/

/-- Escaped text begins with the backslashes that were read before it. -/
theorem exists_escapeTags_eq (n : Nat) (cs : List Char) :
    ∃ more, escapeTags n cs = List.replicate n '\\' ++ more := by
  induction n, cs using escapeTags.induct with
  | case1 n => exact ⟨[], (List.append_nil _).symm⟩
  | case2 n rest ih =>
    obtain ⟨more, hmore⟩ := ih
    refine ⟨'\\' :: more, ?_⟩
    rw [escapeTags, hmore, List.replicate_succ', List.append_assoc, List.singleton_append]
  | case3 n c rest hc htag =>
    refine ⟨List.replicate (n + 1) '\\' ++ c :: escapeTags 0 rest, ?_⟩
    rw [escapeTags, if_pos htag, ← List.append_assoc, ← List.replicate_add]
    · congr 2
      omega
    · exact hc
  | case4 n c rest hc htag =>
    refine ⟨c :: escapeTags 0 rest, ?_⟩
    rw [escapeTags, if_neg htag]
    exact hc

/-- Before a tag, escaped text has an odd number of backslashes. Before other characters, it has as
many as the text. -/
theorem exists_escapeTags_cons {c : Char} (hc : c ≠ '\\') (n : Nat) (rest : List Char) :
    ∃ m, escapeTags n (c :: rest) = List.replicate m '\\' ++ c :: escapeTags 0 rest ∧
      (m % 2 = 1 ∨ m = n ∧ tag? (c :: rest) = none) := by
  by_cases htag : (tag? (c :: rest)).isSome = true
  · refine ⟨2 * n + 1, ?_, .inl (by omega)⟩
    rw [escapeTags, if_pos htag]
    exact hc
  · refine ⟨n, ?_, .inr ⟨rfl, by simpa using htag⟩⟩
    rw [escapeTags, if_neg htag]
    exact hc

theorem tagBody_cons {c : Char} (hclosing : c ≠ ']') (hopening : c ≠ '[') (rest : List Char) :
    tagBody (c :: rest) = (tagBody rest).map fun p => (c :: p.1, p.2) := by
  rw [tagBody]
  · exact hclosing
  · exact hopening

theorem isSome_tagBody_slashes (n : Nat) (cs : List Char) :
    (tagBody (List.replicate n '\\' ++ cs)).isSome = (tagBody cs).isSome := by
  induction n with
  | zero => rfl
  | succ n ih =>
    rw [List.replicate_succ, List.cons_append, tagBody_cons (by decide) (by decide),
      Option.isSome_map, ih]

/-- A tag that closes in an escaped text closes in the text. -/
theorem isSome_tagBody_of_escapeTags (n k : Nat) (cs : List Char)
    (h : (tagBody (escapeTags n cs ++ List.replicate k '\\')).isSome = true) :
    (tagBody cs).isSome = true := by
  -- by induction on the text, for any number of backslashes that were read before it
  induction cs generalizing n with
  | nil =>
    rwa [escapeTags, isSome_tagBody_slashes, ← List.append_nil (List.replicate k _),
      isSome_tagBody_slashes] at h
  | cons c rest ih =>
    by_cases hc : c = '\\'
    · subst hc
      rw [tagBody_cons (by decide) (by decide), Option.isSome_map]
      exact ih (n + 1) h
    obtain ⟨m, hm, -⟩ := exists_escapeTags_cons hc n rest
    rw [hm, List.append_assoc, isSome_tagBody_slashes, List.cons_append] at h
    by_cases hclosing : c = ']'
    · subst hclosing
      rfl
    by_cases hopening : c = '['
    · subst hopening
      cases h
    · rw [tagBody_cons hclosing hopening, Option.isSome_map] at h ⊢
      exact ih 0 h

theorem tag?_eq_none_iff {c d : Char} {rest : List Char} :
    tag? (c :: d :: rest) = none ↔
      (c = '[' → opensTag d = true → (tagBody rest).isSome = false) := by
  by_cases hc : c = '['
  · subst hc
    by_cases hd : opensTag d = true <;> simp [tag?, hd]
  · simp [tag?, hc]

/-- Escaping makes no tags. -/
theorem tag?_escapeTags {c : Char} {rest : List Char} (k : Nat) (h : tag? (c :: rest) = none) :
    tag? (c :: (escapeTags 0 rest ++ List.replicate k '\\')) = none := by
  have hslash : ∀ more, tag? (c :: '\\' :: more) = none := fun more =>
    tag?_eq_none_iff.mpr fun _ hopens => absurd hopens (by decide)
  rcases rest with _ | ⟨d, rest⟩
  · rcases k with _ | k
    · exact h
    · exact hslash _
  by_cases hd : d = '\\'
  · obtain ⟨more, hmore⟩ := exists_escapeTags_eq 1 rest
    subst hd
    rw [escapeTags, hmore]
    exact hslash _
  obtain ⟨m, hm, hodd | ⟨rfl, htag⟩⟩ := exists_escapeTags_cons hd 0 rest
  · obtain ⟨m, rfl⟩ : ∃ n, m = n + 1 := ⟨m - 1, by omega⟩
    rw [hm, List.replicate_succ]
    exact hslash _
  · rw [hm]
    refine tag?_eq_none_iff.mpr fun hc hopens => ?_
    have hbody := tag?_eq_none_iff.mp h hc hopens
    refine Bool.eq_false_iff.mpr fun hsome => ?_
    rw [isSome_tagBody_of_escapeTags 0 k rest hsome] at hbody
    cases hbody

/-- **Escaped text has no tags**, with any number of backslashes behind it. -/
theorem readTags_escapeTags (n k : Nat) (opened : List (List Char)) (cs : List Char) :
    readTags 0 opened (escapeTags n cs ++ List.replicate k '\\') = some opened := by
  induction cs generalizing n with
  | nil =>
    rw [escapeTags, ← List.replicate_add, ← List.append_nil (List.replicate _ _), readTags_slashes]
    rfl
  | cons c rest ih =>
    by_cases hc : c = '\\'
    · subst hc
      exact ih (n + 1)
    obtain ⟨m, hm, hodd | ⟨-, htag⟩⟩ := exists_escapeTags_cons hc n rest
    · rw [hm, List.append_assoc, readTags_slashes, Nat.zero_add, List.cons_append,
        readTags_of_escaped hc hodd, ih]
    · rw [hm, List.append_assoc, readTags_slashes, Nat.zero_add, List.cons_append,
        readTags_of_no_tag hc (tag?_escapeTags k htag), ih]

theorem exists_closeSlash (cs : List Char) :
    ∃ k, closeSlash cs = cs ++ List.replicate k '\\' := by
  rw [closeSlash]
  split
  · exact ⟨0, (List.append_nil cs).symm⟩
  · exact ⟨1, rfl⟩
  · exact ⟨0, (List.append_nil cs).symm⟩

theorem isReadable_escape (s : String) : isReadable (escape s) = true := by
  obtain ⟨k, hk⟩ := exists_closeSlash (escapeTags 0 s.toList)
  rw [isReadable, escape, String.toList_ofList, hk, readTags_escapeTags]
  rfl

/-! ### Styled text -/

/-- Text without brackets opens and closes no tags. -/
theorem exists_readTags_append {cs : List Char} (h : '[' ∉ cs) (slashes : Nat)
    (opened : List (List Char)) (rest : List Char) :
    ∃ m, readTags slashes opened (cs ++ rest) = readTags m opened rest := by
  induction cs generalizing slashes with
  | nil => exact ⟨slashes, rfl⟩
  | cons c cs ih =>
    obtain ⟨hne, hcs⟩ := not_or.mp (mt List.mem_cons.mpr h)
    by_cases hc : c = '\\'
    · subst hc
      exact ih hcs (slashes + 1)
    obtain ⟨m, hm⟩ := ih hcs 0
    refine ⟨m, ?_⟩
    have htag : tag? (c :: (cs ++ rest)) = none := by
      rcases cs ++ rest with _ | ⟨d, more⟩
      · simp [tag?]
      · exact tag?_eq_none_iff.mpr fun heq => absurd heq.symm hne
    rw [List.cons_append, readTags_of_no_tag hc htag, hm]

theorem isReadable_dimmed {s : String} (h : '[' ∉ s.toList) :
    isReadable ("[dim]" ++ s ++ "[/dim]") = true := by
  obtain ⟨m, hm⟩ := exists_readTags_append h 0 ["dim]".toList] "[/dim]".toList
  have hopen : readTags 0 [] ("[dim]".toList ++ (s.toList ++ "[/dim]".toList)) =
      readTags m ["dim]".toList] "[/dim]".toList := by
    rw [← hm]
    rfl
  rw [isReadable, String.toList_append, String.toList_append, List.append_assoc, hopen]
  -- backslashes behind the text escape the closing tag, which then closes nothing
  change (if m % 2 = 1 then _ else Option.bind _ _).isSome = true
  split <;> rfl

namespace Terminal

variable {f : Fault}

theorem strict_takes_line {s : String} :
    (strict f).take (.line s) = .ok () ↔ isReadable s = true := by
  have hline : (strict f).take (.line s) = if isReadable s then .ok () else .error f := rfl
  rw [hline]
  by_cases hs : isReadable s = true
  · rw [if_pos hs]
    exact iff_of_true rfl hs
  · rw [if_neg hs]
    exact iff_of_false nofun hs

theorem strict_takes_table {header : Bool} {columns : List Column} {rows : List (List String)}
    (hcolumns : header = true → ∀ c ∈ columns, isReadable c.header = true)
    (hrows : ∀ row ∈ rows, ∀ text ∈ row, isReadable text = true) :
    (strict f).take (.table header columns rows) = .ok () := by
  have htable : ((!header || columns.all (isReadable ·.header)) && rows.all (·.all isReadable)) =
      true := by
    refine Bool.and_eq_true_iff.mpr ⟨?_, ?_⟩
    · rcases header with _ | _
      · rfl
      · exact List.all_eq_true.mpr (hcolumns rfl)
    · exact List.all_eq_true.mpr fun row hrow => List.all_eq_true.mpr (hrows row hrow)
  rw [strict]
  exact if_pos htable

/-- A terminal that refuses nothing but text whose tags cannot be read may be relied on. -/
theorem renders_strict (f : Fault) : (strict f).Renders where
  escaped s := strict_takes_line.mpr (isReadable_escape s)
  dimmed h := strict_takes_line.mpr (isReadable_dimmed h)
  table hcolumns hrows := strict_takes_table
    (fun hheader c hc => strict_takes_line.mp (hcolumns hheader c hc))
    fun row hrow text htext => strict_takes_line.mp (hrows row hrow text htext)

end Terminal

end FluentSql.Console
