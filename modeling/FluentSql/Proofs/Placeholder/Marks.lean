import FluentSql.Placeholder
import FluentSql.Proofs.Marked.Text

/-!
# The placeholders that a conversion finds

`Placeholder.marks` reads a statement the way the conversion does, and marks every `?` that it takes
for a placeholder. The converted text is written from these marks alone (`toFormat_eq`), and a
driver of the style `format` that expands it with as many arguments gets the marked text back, with
the arguments in the places of the marks (`expand_formatted`).
-/

namespace FluentSql

variable {α β : Type}

/-- A glyph with its value changed. -/
def Glyph.map (f : α → β) : Glyph α → Glyph β
  | letter c => .letter c
  | marker a => .marker (f a)

/-- Marked text with the values left out. -/
def Marked.marks (t : Marked α) : Marked Unit :=
  t.map (Glyph.map fun _ => ())

namespace Placeholder

/-! ### What a conversion reads -/

/-- A statement with every `?` marked that is no part of a quoted span. -/
def marks : List Char → Marked Unit
  | [] => []
  | c :: rest =>
    if c = '?' then .marker () :: marks rest
    else if isQuote c then
      match h : spanRest c [] none rest with
      | some (body, after) =>
        have : after.length ≤ rest.length :=
          length_of_spanRest [] none rest (by simp) (Nat.le_refl _) _ h
        (c :: body).map .letter ++ marks after
      | none => .letter c :: marks rest
    else .letter c :: marks rest
termination_by cs => cs.length

theorem marks_nil : marks [] = [] := by
  rw [marks]

theorem marks_placeholder (rest : List Char) : marks ('?' :: rest) = .marker () :: marks rest := by
  rw [marks, if_pos rfl]

theorem marks_bare {c : Char} (hc : c ≠ '?') (hq : isQuote c = false) (rest : List Char) :
    marks (c :: rest) = .letter c :: marks rest := by
  rw [marks, if_neg hc, hq, if_neg Bool.false_ne_true]

theorem marks_span {q : Char} (hq : isQuote q = true) {rest body after : List Char}
    (h : spanRest q [] none rest = some (body, after)) :
    marks (q :: rest) = (q :: body).map .letter ++ marks after := by
  have hne : q ≠ '?' := by
    rintro rfl
    exact absurd hq (by decide)
  rw [marks, if_neg hne, if_pos hq]
  split
  · rename_i h'
    obtain ⟨rfl, rfl⟩ := Prod.mk.inj (Option.some.inj (h'.symm.trans h))
    rfl
  · rename_i h'
    exact absurd (h'.symm.trans h) nofun

theorem marks_unclosed {q : Char} (hq : isQuote q = true) {rest : List Char}
    (h : spanRest q [] none rest = none) : marks (q :: rest) = .letter q :: marks rest := by
  have hne : q ≠ '?' := by
    rintro rfl
    exact absurd hq (by decide)
  rw [marks, if_neg hne, if_pos hq]
  split
  · rename_i h'
    exact absurd (h.symm.trans h') nofun
  · rfl

/-- A span and what follows it are the text that was read. -/
theorem spanRest_append {q : Char} (body : List Char)
    (fallback : Option (List Char × List Char)) (cs : List Char)
    (hf : ∀ p, fallback = some p → p.1 ++ p.2 = body.reverse ++ cs) :
    ∀ p, spanRest q body fallback cs = some p → p.1 ++ p.2 = body.reverse ++ cs := by
  fun_induction spanRest q body fallback cs with
  | case1 | case3 | case6 => exact hf
  | case2 =>
    rintro p ⟨⟩
    simp
  -- the last of two quotes may still turn out to be the closing one, so this becomes the fallback
  | case4 body fallback rest ih =>
    have hspan : ∀ p, some ((q :: body).reverse, q :: rest) = some p →
        p.1 ++ p.2 = (q :: q :: body).reverse ++ rest := by
      rintro p ⟨⟩
      simp
    intro p hp
    rw [ih hspan p hp]
    simp
  | case5 =>
    rintro p ⟨⟩
    simp
  | case7 body fallback c d rest hc hescape hd ih =>
    intro p hp
    rw [ih (by simpa using hf) p hp]
    simp
  | case8 body fallback c d rest hc hescape ih =>
    intro p hp
    rw [ih (by simpa using hf) p hp]
    simp

/-- A glyph as a driver of the style `format` wants it. -/
def formatted : Glyph α → List Char
  | .letter c => doublePercent [c]
  | .marker _ => ['%', 's']

theorem flatMap_formatted_letters (cs : List Char) :
    (cs.map (Glyph.letter : Char → Glyph α)).flatMap formatted = doublePercent cs := by
  rw [List.flatMap_map, doublePercent]
  exact congrArg (List.flatMap · cs) (funext fun c => by simp [formatted, doublePercent])

/-- The converted text is written from the marks. -/
theorem toFormat_eq (cs : List Char) : toFormat cs = (marks cs).flatMap formatted := by
  fun_induction toFormat cs with
  | case1 =>
    rw [marks_nil]
    rfl
  | case2 rest ih =>
    rw [marks_placeholder, List.flatMap_cons, ← ih]
    rfl
  | case3 c rest hc hq body after h hlength ih =>
    -- an opening quote is no percent sign, and is not doubled
    have hpercent : doublePercent (c :: body) = c :: doublePercent body := by
      have hne : c ≠ '%' := by
        rintro rfl
        exact absurd hq (by decide)
      rw [doublePercent, List.flatMap_cons, if_neg hne]
      rfl
    rw [marks_span hq h, List.flatMap_append, flatMap_formatted_letters, hpercent, ih]
  | case4 c rest hc hq h ih =>
    have hne : c ≠ '%' := by
      rintro rfl
      exact absurd hq (by decide)
    rw [marks_unclosed hq h, List.flatMap_cons, ← ih, formatted, doublePercent, List.flatMap_cons,
      if_neg hne]
    rfl
  | case5 c rest hc hq ih =>
    rw [marks_bare hc (by simpa using hq), List.flatMap_cons, ← ih]
    rfl

/-- The marks are put into the text, and change nothing in it. -/
theorem map_char_marks (cs : List Char) : (marks cs).map Glyph.char = cs := by
  fun_induction marks cs with
  | case1 => rfl
  | case2 rest ih => exact congrArg _ ih
  | case3 c rest hc hq body after h hlength ih =>
    -- the span ends somewhere in the text, and nothing of it is lost
    have hrest : body ++ after = rest := spanRest_append [] none rest (by simp) _ h
    have hletters : ((c :: body).map (Glyph.letter : Char → Glyph Unit)).map Glyph.char =
        c :: body := by
      rw [List.map_map]
      exact List.map_id _
    rw [List.map_append, hletters, ih, List.cons_append, hrest]
  | case4 c rest hc hq h ih => exact congrArg _ ih
  | case5 c rest hc hq ih => exact congrArg _ ih

/-! ### What a driver expands -/

/-- The text that a driver of the style `format` makes of a text and its arguments: `%s` takes the
next argument, and `%%` is a percent sign. Any other percent sign is refused, and so are arguments
that are left over. -/
def expand : List Char → List α → Option (Marked α)
  | [], [] => some []
  | [], _ :: _ => none
  | '%' :: '%' :: rest, args => (expand rest args).map (.letter '%' :: ·)
  | '%' :: 's' :: rest, a :: args => (expand rest args).map (.marker a :: ·)
  | '%' :: _, _ => none
  | c :: rest, args => (expand rest args).map (.letter c :: ·)

theorem expand_bare {c : Char} (hc : c ≠ '%') (rest : List Char) (args : List α) :
    expand (c :: rest) args = (expand rest args).map (.letter c :: ·) := by
  rw [expand]
  all_goals
    intros
    simp_all

/-- A driver makes the marked text again from the formatted one and its values. -/
theorem expand_formatted (t : Marked α) : expand (t.flatMap formatted) t.values = some t := by
  induction t with
  | nil => rfl
  | cons g t ih =>
    cases g with
    | letter c =>
      have hvalues : Marked.values (.letter c :: t) = Marked.values t := rfl
      rw [List.flatMap_cons, hvalues]
      -- a percent sign arrives doubled, and any other letter as it is
      by_cases hc : c = '%'
      · subst hc
        change (expand (t.flatMap formatted) (Marked.values t)).map (.letter '%' :: ·) = _
        rw [ih]
        rfl
      · have hformatted : formatted (.letter c : Glyph α) = [c] := by
          simp [formatted, doublePercent, hc]
        rw [hformatted, List.singleton_append, expand_bare hc, ih]
        rfl
    | marker a =>
      change (expand (t.flatMap formatted) (Marked.values t)).map (.marker a :: ·) = _
      rw [ih]
      rfl

end Placeholder

/-- What a driver is handed does not depend on the values. -/
theorem Marked.flatMap_formatted_marks (t : Marked α) :
    t.marks.flatMap Placeholder.formatted = t.flatMap Placeholder.formatted := by
  rw [marks, List.flatMap_map]
  exact congrArg (List.flatMap · t) (funext fun g => by cases g <;> rfl)

end FluentSql
