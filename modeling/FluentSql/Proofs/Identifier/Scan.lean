import FluentSql.Clause

/-!
# Reading quoted identifiers

The reader of quoted identifiers: a doubled quote is one character of the name, and the first quote
that is not doubled ends it. What a dialect quotes is read back as it was, whatever characters it
has, and nothing behind it is touched (`unquote_quote`). Whole texts are read as characters and
names (`lexemes`).
-/

namespace FluentSql

/-- What is read of a name behind its opening quote, and what follows its closing quote. -/
def unquoteRest (q : Char) : List Char → Option (List Char × List Char)
  | [] => none
  | [c] => if c = q then some ([], []) else none
  | c :: d :: rest =>
    if c = q then
      if d = q then (unquoteRest q rest).map fun r => (q :: r.1, r.2) else some ([], d :: rest)
    else (unquoteRest q (d :: rest)).map fun r => (c :: r.1, r.2)

/-- The quoted name that a text begins with, and what follows it. -/
def unquote (q : Char) : List Char → Option (String × List Char)
  | [] => none
  | c :: rest =>
    if c = q then (unquoteRest q rest).map fun r => (String.ofList r.1, r.2) else none

theorem length_of_unquoteRest {q : Char} {cs : List Char} {r : List Char × List Char}
    (h : unquoteRest q cs = some r) : r.2.length < cs.length := by
  fun_induction unquoteRest q cs generalizing r with
  | case1 => cases h
  | case2 =>
    obtain rfl := Option.some.inj h
    exact Nat.one_pos
  | case3 => cases h
  | case4 rest ih =>
    obtain ⟨r', hr', rfl⟩ := Option.map_eq_some_iff.mp h
    have hlt := ih hr'
    simp only [List.length_cons]
    omega
  | case5 =>
    obtain rfl := Option.some.inj h
    exact Nat.lt_succ_self _
  | case6 c d rest hc ih =>
    obtain ⟨r', hr', rfl⟩ := Option.map_eq_some_iff.mp h
    have hlt := ih hr'
    simp only [List.length_cons] at hlt ⊢
    omega

theorem length_of_unquote {q : Char} {cs : List Char} {r : String × List Char}
    (h : unquote q cs = some r) : r.2.length < cs.length := by
  cases cs with
  | nil => cases h
  | cons c rest =>
    rw [unquote] at h
    split at h
    · obtain ⟨r', hr', rfl⟩ := Option.map_eq_some_iff.mp h
      exact Nat.lt_succ_of_lt (length_of_unquoteRest hr')
    · cases h

/-! ### Names that a dialect quotes -/

theorem unquoteRest_doubleQuotes {q : Char} (cs : List Char) {rest : List Char}
    (hrest : rest.head? ≠ some q) :
    unquoteRest q (Dialect.doubleQuotes q cs ++ q :: rest) = some (cs, rest) := by
  induction cs with
  | nil =>
    cases rest with
    | nil => simp [Dialect.doubleQuotes, unquoteRest]
    | cons d rest =>
      have hd : d ≠ q := by simpa using hrest
      simp [Dialect.doubleQuotes, unquoteRest, hd]
  | cons c cs ih =>
    by_cases hc : c = q
    · subst hc
      have hdoubled : Dialect.doubleQuotes c (c :: cs) = c :: c :: Dialect.doubleQuotes c cs := by
        simp [Dialect.doubleQuotes]
      rw [hdoubled, List.cons_append, List.cons_append, unquoteRest, if_pos rfl, if_pos rfl, ih]
      rfl
    · have hsingle : Dialect.doubleQuotes q (c :: cs) = c :: Dialect.doubleQuotes q cs := by
        simp [Dialect.doubleQuotes, hc]
      -- the closing quote follows at the latest
      obtain ⟨d, more, hmore⟩ : ∃ d more, Dialect.doubleQuotes q cs ++ q :: rest = d :: more :=
        List.exists_cons_of_ne_nil (by simp)
      rw [hsingle, List.cons_append, hmore, unquoteRest, if_neg hc, ← hmore, ih]
      rfl

theorem Dialect.toList_quote (d : Dialect) (name : String) : (d.quote name).toList =
    d.quoteChar :: (doubleQuotes d.quoteChar name.toList ++ [d.quoteChar]) := by
  rw [quote, String.toList_ofList, List.cons_append]

/-- **A quoted name is read back**, up to its closing quote and no further. -/
theorem unquote_quote (d : Dialect) (name : String) {rest : List Char}
    (hrest : rest.head? ≠ some d.quoteChar) :
    unquote d.quoteChar ((d.quote name).toList ++ rest) = some (name, rest) := by
  rw [d.toList_quote, List.cons_append, List.append_assoc, List.singleton_append, unquote,
    if_pos rfl, unquoteRest_doubleQuotes _ hrest]
  simp

/-! ### Qualified names -/

/-- The quoted names of a text, which are separated by dots. -/
def unqualifyRest (q : Char) (cs : List Char) : Option (List String) :=
  match h : unquote q cs with
  | none => none
  | some (name, []) => some [name]
  | some (name, c :: rest) =>
    have : rest.length < cs.length := Nat.lt_of_succ_lt (length_of_unquote h)
    if c = '.' then (unqualifyRest q rest).map (name :: ·) else none
termination_by cs.length

/-- The quoted names of a text, which are separated by dots, if there are any. -/
def unqualify (q : Char) (cs : List Char) : Option (List String) :=
  if cs.isEmpty then some [] else unqualifyRest q cs

theorem unqualifyRest_of_end {q : Char} {cs : List Char} {name : String}
    (h : unquote q cs = some (name, [])) : unqualifyRest q cs = some [name] := by
  rw [unqualifyRest]
  split
  · rename_i hnone
    cases h.symm.trans hnone
  · rename_i hend
    cases h.symm.trans hend
    rfl
  · rename_i hmore
    cases h.symm.trans hmore

theorem unqualifyRest_of_dot {q : Char} {cs rest : List Char} {name : String}
    (h : unquote q cs = some (name, '.' :: rest)) :
    unqualifyRest q cs = (unqualifyRest q rest).map (name :: ·) := by
  rw [unqualifyRest]
  split
  · rename_i hnone
    cases h.symm.trans hnone
  · rename_i hend
    cases h.symm.trans hend
  · rename_i hmore
    cases h.symm.trans hmore
    rw [if_pos rfl]

theorem Dialect.dot_ne_quoteChar (d : Dialect) : '.' ≠ d.quoteChar := by
  cases d <;> decide

theorem unqualifyRest_intercalate (d : Dialect) (name : String) (names : List String) :
    unqualifyRest d.quoteChar (String.intercalate "." ((name :: names).map d.quote)).toList =
      some (name :: names) := by
  induction names generalizing name with
  | nil =>
    have hread : unquote d.quoteChar ((d.quote name).toList ++ []) = some (name, []) :=
      unquote_quote d name nofun
    rw [List.append_nil] at hread
    simpa using unqualifyRest_of_end hread
  | cons name' names ih =>
    have hdot : ('.' :: (String.intercalate "." ((name' :: names).map d.quote)).toList).head? ≠
        some d.quoteChar := by
      simpa using d.dot_ne_quoteChar
    have htext : (String.intercalate "." ((name :: name' :: names).map d.quote)).toList =
        (d.quote name).toList ++ '.' ::
          (String.intercalate "." ((name' :: names).map d.quote)).toList := by
      simp
    rw [htext, unqualifyRest_of_dot (unquote_quote d name hdot), ih name']
    rfl

/-- The names among the parts of a qualified name are read back in order. -/
theorem unqualify_qualified (d : Dialect) (parts : List (Option String)) :
    unqualify d.quoteChar (d.qualified parts).toList = some (parts.filterMap id) := by
  have hnames : parts.filterMap (fun p => p.map d.quote) = (parts.filterMap id).map d.quote := by
    rw [List.map_filterMap]
    rfl
  rw [Dialect.qualified, hnames]
  cases parts.filterMap id with
  | nil => rfl
  | cons name names =>
    have hread := unqualifyRest_intercalate d name names
    have hne : (String.intercalate "." ((name :: names).map d.quote)).toList ≠ [] := by
      intro hnil
      rw [hnil, unqualifyRest] at hread
      cases hread
    rw [unqualify, if_neg (by simpa using hne), hread]

/-! ### Lexemes -/

/-- A part of a text: a quoted name, or a character outside of all names. -/
inductive Lexeme where
  | char (c : Char)
  | name (s : String)
deriving DecidableEq

/-- The lexemes of a text. A quote that opens no name is a character. -/
def lexemes (q : Char) : List Char → List Lexeme
  | [] => []
  | c :: cs =>
    match h : unquote q (c :: cs) with
    | some (name, rest) =>
      have : rest.length < cs.length + 1 := length_of_unquote h
      .name name :: lexemes q rest
    | none => .char c :: lexemes q cs
termination_by cs => cs.length

theorem lexemes_nil (q : Char) : lexemes q [] = [] := by
  rw [lexemes]

theorem lexemes_cons_of_ne {q c : Char} (hc : c ≠ q) (cs : List Char) :
    lexemes q (c :: cs) = .char c :: lexemes q cs := by
  have hnone : unquote q (c :: cs) = none := if_neg hc
  rw [lexemes]
  split
  · rename_i hsome
    cases hnone.symm.trans hsome
  · rfl

/-- A quoted name is one lexeme, if no quote follows it. -/
theorem lexemes_quote (d : Dialect) (name : String) {rest : List Char}
    (hrest : rest.head? ≠ some d.quoteChar) :
    lexemes d.quoteChar ((d.quote name).toList ++ rest) =
      .name name :: lexemes d.quoteChar rest := by
  have hread := unquote_quote d name hrest
  rw [d.toList_quote] at hread ⊢
  rw [List.cons_append] at hread ⊢
  rw [lexemes]
  split
  · rename_i hsome
    cases hread.symm.trans hsome
    rfl
  · rename_i hnone
    cases hread.symm.trans hnone

end FluentSql
