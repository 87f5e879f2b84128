import FluentSql.Proofs.Placeholder.Marks

/-!
# Text whose quoted spans are complete

Marked text is **lexed** if it is made of bare characters, markers and complete quoted spans, and no
span touches another one with the same quotes. The placeholders that a conversion finds in lexed
text are exactly its markers (`Lexed.marks_eq`), whatever stands inside of the spans.

Identifiers are quoted by doubling, so they are spans whatever their characters are. The clauses of
every dialect are lexed.
-/

namespace FluentSql

open Placeholder

variable {α : Type}

/-- A character that neither opens a span nor is a placeholder. -/
def isBare (c : Char) : Bool :=
  !isQuote c && c != '?'

/-- Text of bare characters only. -/
def Clean (s : String) : Prop :=
  ∀ c ∈ s.toList, isBare c = true

instance (s : String) : Decidable (Clean s) :=
  List.decidableBAll (fun c => isBare c = true) s.toList

theorem Clean.append {s t : String} (hs : Clean s) (ht : Clean t) : Clean (s ++ t) := by
  intro c hc
  rw [String.toList_append] at hc
  exact (List.mem_append.mp hc).elim (hs c) (ht c)

namespace Marked

/-- A quoted span, whose quotes are doubled inside. In single quotes a backslash would escape. -/
def span (q : Char) (cs : List Char) : Marked α :=
  (q :: Dialect.doubleQuotes q cs ++ [q]).map .letter

/-- Text that does not begin with a quote. -/
def Apart (t : Marked α) : Prop :=
  ∀ q rest, isQuote q = true → t ≠ .letter q :: rest

/-- Text whose quoted spans are complete, and apart from one another. -/
inductive Lexed : Marked α → Prop where
  | nil : Lexed []
  | letter {c : Char} {t : Marked α} (hc : isBare c = true) (h : Lexed t) :
      Lexed (.letter c :: t)
  | marker {a : α} {t : Marked α} (h : Lexed t) : Lexed (.marker a :: t)
  | span {q : Char} {cs : List Char} {t : Marked α} (hq : isQuote q = true)
      (hcs : q = '\'' → '\\' ∉ cs) (ht : Apart t) (h : Lexed t) : Lexed (span q cs ++ t)

theorem apart_nil : Apart ([] : Marked α) :=
  nofun

/-- Text that begins with a bare character. -/
theorem apart_plain_append {s : String} (hs : Clean s) (hne : s ≠ "") (t : Marked α) :
    Apart (plain s ++ t) := by
  intro q rest hq h
  rcases hcs : s.toList with _ | ⟨c, cs⟩
  · exact hne (String.toList_eq_nil_iff.mp hcs)
  · rw [plain, hcs] at h
    obtain ⟨hletter, -⟩ := List.cons.inj h
    obtain rfl := Glyph.letter.inj hletter
    have hbare := hs c (by rw [hcs]; exact List.mem_cons_self)
    rw [isBare, hq] at hbare
    cases hbare

theorem Apart.append {t u : Marked α} (ht : Apart t) (hu : Apart u) : Apart (t ++ u) := by
  cases t with
  | nil => exact hu
  | cons g t =>
    intro q rest hq h
    obtain ⟨rfl, -⟩ := List.cons.inj h
    exact ht q t hq rfl

/-! ### The marks of lexed text -/

theorem spanRest_doubleQuotes {q : Char} (cs rest : List Char) (hcs : q = '\'' → '\\' ∉ cs)
    (hrest : rest.head? ≠ some q) (body : List Char)
    (fallback : Option (List Char × List Char)) :
    spanRest q body fallback (Dialect.doubleQuotes q cs ++ q :: rest) =
      some (body.reverse ++ Dialect.doubleQuotes q cs ++ [q], rest) := by
  induction cs generalizing body fallback with
  | nil =>
    cases rest with
    | nil => simp [Dialect.doubleQuotes, spanRest]
    | cons d rest =>
      have hd : d ≠ q := by simpa using hrest
      simp [Dialect.doubleQuotes, spanRest, hd]
  | cons c cs ih =>
    have hcs' : q = '\'' → '\\' ∉ cs := fun hq hmem => hcs hq (List.mem_cons_of_mem c hmem)
    by_cases hc : c = q
    · subst hc
      have hdoubled : Dialect.doubleQuotes c (c :: cs) = c :: c :: Dialect.doubleQuotes c cs := by
        simp [Dialect.doubleQuotes]
      rw [hdoubled, List.cons_append, List.cons_append, spanRest, if_pos rfl, if_pos rfl, ih hcs']
      simp
    · have hsingle : Dialect.doubleQuotes q (c :: cs) = c :: Dialect.doubleQuotes q cs := by
        simp [Dialect.doubleQuotes, hc]
      have hescape : ¬(q = '\'' ∧ c = '\\') := by
        rintro ⟨hq, rfl⟩
        exact hcs hq List.mem_cons_self
      -- the closing quote follows at the latest
      obtain ⟨d, more, hmore⟩ :
          ∃ d more, Dialect.doubleQuotes q cs ++ q :: rest = d :: more :=
        List.exists_cons_of_ne_nil (by simp)
      rw [hsingle, List.cons_append, hmore, spanRest, if_neg hc, if_neg hescape, ← hmore, ih hcs']
      simp

/-- **The marks of lexed text.** The placeholders that a conversion finds are the markers. -/
theorem Lexed.marks_eq {t : Marked α} (h : Lexed t) :
    Placeholder.marks (t.map Glyph.char) = Marked.marks t := by
  induction h with
  | nil => exact marks_nil
  | @letter c t hc h ih =>
    obtain ⟨hq, hplaceholder⟩ : isQuote c = false ∧ c ≠ '?' := by simpa [isBare] using hc
    exact (marks_bare hplaceholder hq _).trans (congrArg _ ih)
  | marker h ih => exact (marks_placeholder _).trans (congrArg _ ih)
  | @span q cs t hq hcs ht h ih =>
    -- what follows does not begin with the same quote, so the closing quote is not taken as doubled
    have hnext : (t.map Glyph.char).head? ≠ some q := by
      intro hhead
      rcases t with _ | ⟨⟨c⟩ | ⟨a⟩, t⟩
      · cases hhead
      · obtain rfl : c = q := Option.some.inj hhead
        exact ht c t hq rfl
      · obtain rfl : '?' = q := Option.some.inj hhead
        exact absurd hq (by decide)
    have hspan := spanRest_doubleQuotes cs (t.map Glyph.char) hcs hnext [] none
    have hchars : (Marked.span q cs ++ t).map Glyph.char =
        q :: (Dialect.doubleQuotes q cs ++ q :: t.map Glyph.char) := by
      simp [Marked.span, Function.comp_def, Glyph.char]
    rw [hchars, marks_span hq hspan, ih]
    simp [Marked.marks, Marked.span, Function.comp_def, Glyph.map]

/-! ### Putting lexed text together -/

theorem plain_intercalate (separator : String) (texts : List String) :
    plain (String.intercalate separator texts) =
      (intercalate separator (texts.map plain) : Marked α) := by
  induction texts with
  | nil => rfl
  | cons s rest ih =>
    cases rest with
    | nil => simp
    | cons s' rest => simpa using ih

theorem apart_plain {s : String} (hs : Clean s) : Apart (plain s : Marked α) := by
  by_cases hne : s = ""
  · subst hne
    exact apart_nil
  · rw [← List.append_nil (plain s)]
    exact apart_plain_append hs hne []

namespace Lexed

variable {t u : Marked α} {s : String}

theorem append (ht : Lexed t) (hu : Lexed u) (hapart : Apart u) : Lexed (t ++ u) := by
  -- only a span at the end of the first text meets what follows
  induction ht with
  | nil => exact hu
  | letter hc _ ih => exact .letter hc ih
  | marker _ ih => exact .marker ih
  | span hq hcs ht _ ih =>
    rw [List.append_assoc]
    exact .span hq hcs (ht.append hapart) ih

/-- Behind bare characters anything may follow. -/
theorem plain_append (hs : Clean s) (hu : Lexed u) : Lexed (plain s ++ u) := by
  have hletters : ∀ cs : List Char, (∀ c ∈ cs, isBare c = true) →
      Lexed (cs.map Glyph.letter ++ u) := by
    intro cs hcs
    induction cs with
    | nil => exact hu
    | cons c cs ih =>
      exact .letter (hcs c List.mem_cons_self) (ih fun d hd => hcs d (List.mem_cons_of_mem c hd))
  exact hletters s.toList hs

theorem plain (hs : Clean s) : Lexed (plain s : Marked α) := by
  rw [← List.append_nil (Marked.plain s)]
  exact plain_append hs .nil

/-- Text before and behind some bare characters. -/
theorem append_plain_append (ht : Lexed t) (hs : Clean s) (hne : s ≠ "") (hu : Lexed u) :
    Lexed (t ++ (Marked.plain s ++ u)) :=
  ht.append (plain_append hs hu) (apart_plain_append hs hne u)

theorem append_plain (ht : Lexed t) (hs : Clean s) : Lexed (t ++ Marked.plain s) :=
  ht.append (plain hs) (apart_plain hs)

theorem bound (a : α) : Lexed (bound a) :=
  .marker .nil

theorem intercalate {texts : List (Marked α)} (hs : Clean s) (hne : s ≠ "")
    (h : ∀ t ∈ texts, Lexed t) : Lexed (intercalate s texts) := by
  induction texts with
  | nil => exact .nil
  | cons t rest ih =>
    have ht := h t List.mem_cons_self
    have hrest := ih fun u hu => h u (List.mem_cons_of_mem t hu)
    cases rest with
    | nil =>
      rw [intercalate_singleton]
      exact ht
    | cons u rest =>
      rw [intercalate_cons_cons]
      exact ht.append_plain_append hs hne hrest

end Lexed

end Marked

/-! ### Clauses -/

namespace Dialect

open Marked

variable (d : Dialect)

theorem isQuote_quoteChar : isQuote d.quoteChar = true := by
  cases d <;> rfl

/-- **An identifier is one span**, whatever its characters are. -/
theorem lexed_quote (name : String) : Lexed (plain (d.quote name) : Marked α) := by
  have hspan : (plain (d.quote name) : Marked α) = span d.quoteChar name.toList ++ [] := by
    rw [plain, quote, String.toList_ofList, List.append_nil, span]
  rw [hspan]
  refine .span d.isQuote_quoteChar ?_ apart_nil .nil
  intro hq
  cases d <;> exact absurd hq (by decide)

theorem lexed_qualified (parts : List (Option String)) :
    Lexed (plain (d.qualified parts) : Marked α) := by
  rw [qualified, plain_intercalate]
  refine .intercalate (by decide) (by decide) ?_
  intro t ht
  simp only [List.mem_map, List.mem_filterMap, Option.map_eq_some_iff] at ht
  obtain ⟨_, ⟨_, _, name, _, rfl⟩, rfl⟩ := ht
  exact d.lexed_quote name

theorem lexed_column (table name : Option String) :
    Lexed (plain (d.column table name) : Marked α) := by
  unfold column
  split
  -- a star stands for all columns, and is not quoted
  · cases table with
    | none => exact Lexed.plain (s := "*") (by decide)
    | some t =>
      rw [Marked.plain_append]
      exact (d.lexed_quote t).append_plain (by decide)
  · exact d.lexed_qualified [table, name]

theorem lexed_quotedList (names : List String) :
    Lexed (plain (d.quotedList names) : Marked α) := by
  rw [quotedList, plain_intercalate]
  refine .intercalate (by decide) (by decide) ?_
  intro t ht
  simp only [List.mem_map] at ht
  obtain ⟨_, ⟨name, _, rfl⟩, rfl⟩ := ht
  exact d.lexed_quote name

theorem lexed_assignments {source : String → String}
    (hsource : ∀ name, Lexed (plain (source (d.quote name)) : Marked α)) (columns : List String) :
    Lexed (plain (d.assignments source columns) : Marked α) := by
  rw [assignments, plain_intercalate]
  refine .intercalate (by decide) (by decide) ?_
  intro t ht
  simp only [List.mem_map] at ht
  obtain ⟨_, ⟨name, _, rfl⟩, rfl⟩ := ht
  rw [Marked.plain_append, Marked.plain_append, List.append_assoc]
  exact (d.lexed_quote name).append_plain_append (by decide) (by decide) (hsource name)

theorem lexed_upsert {columns target : List String} {clause : String}
    (h : d.upsert columns target = .ok clause) : Lexed (plain clause : Marked α) := by
  -- PostgreSQL differs from the others in the case of the keyword, and refuses an empty target
  have hassigned : ∀ d : Dialect, Lexed (plain (d.assignments ("EXCLUDED." ++ ·) columns) :
      Marked α) ∧ Lexed (plain (d.assignments ("excluded." ++ ·) columns) : Marked α) := by
    intro d
    refine ⟨d.lexed_assignments (fun name => ?_) columns,
      d.lexed_assignments (fun name => ?_) columns⟩ <;>
    · rw [Marked.plain_append]
      exact .plain_append (by decide) (d.lexed_quote name)
  have hconflict : ∀ d : Dialect, Lexed (plain ("ON CONFLICT " ++
      (if target.isEmpty then "" else "(" ++ d.quotedList target ++ ") ") ++ "DO UPDATE SET " ++
      d.assignments ("excluded." ++ ·) columns) : Marked α) := by
    intro d
    split
    · simp only [Marked.plain_append, List.append_assoc]
      exact .plain_append (by decide) (.plain_append (by decide)
        (.plain_append (by decide) (hassigned d).2))
    · simp only [Marked.plain_append, List.append_assoc]
      exact .plain_append (by decide) (.plain_append (by decide)
        ((d.lexed_quotedList target).append_plain_append (by decide) (by decide)
          (.plain_append (by decide) (hassigned d).2)))
  cases d with
  | mysql =>
    cases h
    rw [Marked.plain_append]
    refine .plain_append (by decide) (mysql.lexed_assignments (fun name => ?_) columns)
    rw [Marked.plain_append, Marked.plain_append]
    exact (Lexed.plain_append (by decide) (mysql.lexed_quote name)).append_plain (by decide)
  | postgresql =>
    rw [upsert] at h
    split at h
    · cases h
    · cases h
      simp only [Marked.plain_append, List.append_assoc]
      exact .plain_append (by decide) ((postgresql.lexed_quotedList target).append_plain_append
        (by decide) (by decide) (hassigned postgresql).1)
  | ansi =>
    cases h
    exact hconflict ansi
  | sqlite =>
    cases h
    exact hconflict sqlite

end Dialect

end FluentSql
