import FluentSql.Proofs.Placeholder.Spans

/-!
# Expansion undoes conversion

A driver of the style `format` expands the text that a conversion hands to it. Whatever the text
was, with quotes that are never closed, percent signs or backslashes in any place, the driver puts
its arguments into the places that the scan of the text marks, and nothing else has changed
(`expand_formatted_iff`). With `?` for every argument the text itself comes back, so no two texts
are converted alike.
-/

namespace FluentSql

variable {α : Type}

/-- The characters of a glyph: those of its text, for a marker. -/
def Glyph.chars : Glyph String → List Char
  | letter c => [c]
  | marker s => s.toList

/-- The text with what each marker stands for in its place. -/
def Marked.text (t : Marked String) : String :=
  String.ofList (t.flatMap Glyph.chars)

/-- Text whose markers all stand for the placeholder itself. -/
theorem Marked.text_of_values {t : Marked String} (h : ∀ s ∈ t.values, s = "?") :
    t.text = String.ofList (t.marks.map Glyph.char) := by
  refine congrArg String.ofList ?_
  rw [marks, List.map_map]
  induction t with
  | nil => rfl
  | cons g t ih =>
    cases g with
    | letter c => exact congrArg (c :: ·) (ih h)
    | marker s =>
      obtain rfl := h s List.mem_cons_self
      exact congrArg ('?' :: ·) (ih fun s hs => h s (List.mem_cons_of_mem _ hs))

theorem Marked.values_map {β : Type} (f : α → β) (t : Marked α) :
    Marked.values (t.map (Glyph.map f)) = t.values.map f := by
  rw [values, values, List.filterMap_map, List.map_filterMap]
  exact congrArg (List.filterMap · t) (funext fun g => by cases g <;> rfl)

/-- Marks that are given one and the same value. -/
theorem Marked.marks_map (a : α) (t : Marked Unit) :
    Marked.marks (t.map (Glyph.map fun _ => a)) = t := by
  rw [marks, List.map_map]
  have hglyphs : ∀ g ∈ t, (Glyph.map (fun _ => ()) ∘ Glyph.map fun _ => a) g = g := by
    intro g _
    cases g <;> rfl
  exact (List.map_congr_left hglyphs).trans (List.map_id t)

namespace Placeholder

/-- The text that a driver of the style `format` makes of a text and the texts of its arguments. -/
def expandText (text : String) (args : List String) : Option String :=
  (expand text.toList args).map Marked.text

/-- A driver that is handed formatted marks makes them again, with its arguments for their values,
and refuses any other number of arguments. -/
theorem expand_formatted_iff {t : Marked Unit} {args : List α} {u : Marked α} :
    expand (t.flatMap formatted) args = some u ↔ u.marks = t ∧ u.values = args := by
  constructor
  · intro h
    induction t generalizing args u with
    | nil =>
      cases args with
      | nil =>
        cases h
        exact ⟨rfl, rfl⟩
      | cons a args => cases h
    | cons g t ih =>
      cases g with
      | letter c =>
        have hletter : expand ((.letter c :: t : Marked Unit).flatMap formatted) args =
            (expand (t.flatMap formatted) args).map (.letter c :: ·) := by
          rw [List.flatMap_cons]
          by_cases hc : c = '%'
          · subst hc
            rfl
          · have hformatted : formatted (.letter c : Glyph Unit) = [c] := by
              simp [formatted, doublePercent, hc]
            rw [hformatted, List.singleton_append, expand_bare hc]
        rw [hletter] at h
        obtain ⟨v, hv, rfl⟩ := Option.map_eq_some_iff.mp h
        obtain ⟨rfl, rfl⟩ := ih hv
        exact ⟨rfl, rfl⟩
      | marker _ =>
        cases args with
        | nil => cases h
        | cons a args =>
          obtain ⟨v, hv, rfl⟩ := Option.map_eq_some_iff.mp h
          obtain ⟨rfl, rfl⟩ := ih hv
          exact ⟨rfl, rfl⟩
  · rintro ⟨rfl, rfl⟩
    rw [Marked.flatMap_formatted_marks]
    exact expand_formatted u

/-- With `?` for every argument, the driver makes the text that was converted, and it takes exactly
as many arguments as there are marks. -/
theorem expandText_convert (sql : String) (n : Nat) :
    expandText (convert .format sql) (List.replicate n "?") =
      if n = (marks sql.toList).values.length then some sql else none := by
  rw [expandText, convert, String.toList_ofList, toFormat_eq]
  split
  · rename_i hn
    let t : Marked String := (marks sql.toList).map (Glyph.map fun _ => "?")
    have hmarks : t.marks = marks sql.toList := Marked.marks_map _ _
    have hvalues : t.values = List.replicate n "?" := by
      rw [Marked.values_map, List.map_const', hn]
    rw [expand_formatted_iff.mpr ⟨hmarks, hvalues⟩, Option.map_some,
      Marked.text_of_values fun s hs => List.eq_of_mem_replicate (hvalues ▸ hs), hmarks,
      map_char_marks, String.ofList_toList]
  · rename_i hn
    refine Option.map_eq_none_iff.mpr (Option.eq_none_iff_forall_ne_some.mpr fun u hu => hn ?_)
    obtain ⟨hmarks, hvalues⟩ := expand_formatted_iff.mp hu
    rw [← hmarks, Marked.marks, Marked.values_map, List.length_map, hvalues, List.length_replicate]

/-- **Expansion undoes conversion on every text.** A driver that expands the converted text puts its
arguments into the places that the scan of the text marks, and refuses any other number of them. So
it makes the text again if every argument is `?`, and no two texts are converted alike. -/
theorem expansion_undoes_conversion :
    (∀ sql : String, ∃ t, Scans sql.toList t ∧
      (∀ n, expandText (convert .format sql) (List.replicate n "?") =
        if n = t.values.length then some sql else none) ∧
      ∀ (args : List String) (u : Marked String),
        expand (convert .format sql).toList args = some u ↔ u.marks = t ∧ u.values = args) ∧
    Function.Injective (convert .format) := by
  refine ⟨fun sql => ?_, ?_⟩
  · refine ⟨marks sql.toList, scans_marks _, expandText_convert sql, fun args u => ?_⟩
    rw [convert, String.toList_ofList, toFormat_eq]
    exact expand_formatted_iff
  · intro sql sql' h
    -- the number of arguments that the first text takes is right for the second one, too
    have hback := expandText_convert sql (marks sql.toList).values.length
    rw [if_pos rfl, h, expandText_convert] at hback
    split at hback
    · exact (Option.some.inj hback).symm
    · cases hback

end Placeholder

end FluentSql
