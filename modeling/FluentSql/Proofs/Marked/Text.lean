import FluentSql.Statement

/-!
# Marked text

In marked text every bound value stands in its own place, as a marker between the characters around
it. A statement is read off it: each marker becomes a placeholder, and the values are those of the
markers, in the order in which they stand. So marked text cannot bind a value to the placeholder of
another one.

`Rendering.Writes` says that a rendering, which keeps text and values apart, comes to the same as
marked text.
-/

namespace FluentSql

/-- A part of marked text. -/
inductive Glyph (α : Type) where
  | letter (c : Char)
  /-- A bound value in its place. -/
  | marker (a : α)

/-- The character that is written for a glyph: the placeholder for a marker. -/
def Glyph.char {α : Type} : Glyph α → Char
  | letter c => c
  | marker _ => '?'

/-- The value of a marker. -/
def Glyph.value? {α : Type} : Glyph α → Option α
  | letter _ => none
  | marker a => some a

/-- Marked text. -/
abbrev Marked (α : Type) := List (Glyph α)

namespace Marked

variable {α : Type}

/-- Text without a bound value. -/
def plain (s : String) : Marked α :=
  s.toList.map .letter

/-- A bound value by itself. -/
def bound (a : α) : Marked α :=
  [.marker a]

/-- Marked texts with a separator between any two. -/
def intercalate (separator : String) (texts : List (Marked α)) : Marked α :=
  List.intercalate (plain separator) texts

/-- The text with a placeholder for each marker. -/
def sql (t : Marked α) : String :=
  String.ofList (t.map Glyph.char)

/-- The values of the markers, in the order of the text. -/
def values (t : Marked α) : List α :=
  t.filterMap Glyph.value?

/-- The statement that is read off marked text. -/
def statement (t : Marked Value) : Statement :=
  ⟨t.sql, t.values⟩

@[simp]
theorem sql_nil : sql ([] : Marked α) = "" :=
  rfl

@[simp]
theorem sql_append (t u : Marked α) : sql (t ++ u) = t.sql ++ u.sql := by
  rw [sql, List.map_append, String.ofList_append]
  rfl

@[simp]
theorem sql_plain (s : String) : sql (plain s : Marked α) = s := by
  have hchar : Glyph.char ∘ (Glyph.letter : Char → Glyph α) = id := rfl
  rw [sql, plain, List.map_map, hchar, List.map_id, String.ofList_toList]

@[simp]
theorem plain_append (s s' : String) : plain (s ++ s') = (plain s ++ plain s' : Marked α) := by
  rw [plain, String.toList_append, List.map_append]
  rfl

@[simp]
theorem sql_bound (a : α) : sql (bound a) = Dialect.placeholder :=
  rfl

@[simp]
theorem values_nil : values ([] : Marked α) = [] :=
  rfl

@[simp]
theorem values_append (t u : Marked α) : values (t ++ u) = t.values ++ u.values :=
  List.filterMap_append

@[simp]
theorem values_plain (s : String) : values (plain s : Marked α) = [] := by
  rw [values, plain, List.filterMap_map]
  exact List.filterMap_eq_nil_iff.mpr fun _ _ => rfl

@[simp]
theorem values_bound (a : α) : values (bound a) = [a] :=
  rfl

@[simp]
theorem intercalate_nil (separator : String) : intercalate separator ([] : List (Marked α)) = [] :=
  rfl

@[simp]
theorem intercalate_singleton (separator : String) (t : Marked α) :
    intercalate separator [t] = t := by
  simp [intercalate]

@[simp]
theorem intercalate_cons_cons (separator : String) (t u : Marked α) (rest : List (Marked α)) :
    intercalate separator (t :: u :: rest) =
      t ++ (plain separator ++ intercalate separator (u :: rest)) := by
  simp [intercalate, List.intercalate]

@[simp]
theorem sql_intercalate (separator : String) (texts : List (Marked α)) :
    sql (intercalate separator texts) = String.intercalate separator (texts.map sql) := by
  induction texts with
  | nil => simp
  | cons t rest ih =>
    cases rest with
    | nil => simp
    | cons u rest => simpa [String.append_assoc] using ih

@[simp]
theorem values_intercalate (separator : String) (texts : List (Marked α)) :
    values (intercalate separator texts) = texts.flatMap values := by
  induction texts with
  | nil => simp
  | cons t rest ih =>
    cases rest with
    | nil => simp
    | cons u rest => simpa using ih

/-- There are as many placeholders as values. -/
theorem length_values (t : Marked α) :
    t.values.length = t.countP (·.value?.isSome) := by
  rw [values, List.length_filterMap_eq_countP]

end Marked

/-! ### Renderings and marked text -/

namespace Rendering

variable {α β γ δ : Type}

/-- A rendering comes to the same as `m` when the values `before` are already bound: it fails where
`m` fails, and else gives the text of what `m` gives, and binds its values. -/
structure Writes (before : List Value) (r : Rendering α) (m : Except Fault β) (text : β → α)
    (values : β → List Value) : Prop where
  of_ok : ∀ b, m = .ok b → ∀ params, r (params ++ before) = (.ok (text b), params ++ values b)
  of_error : ∀ f, m = .error f → ∀ params, (r (params ++ before)).1 = .error f

/-- A rendering of text comes to the same as marked text. -/
abbrev Shows (r : Rendering String) (m : Except Fault (Marked Value)) : Prop :=
  Writes [] r m Marked.sql Marked.values

/-- A rendering of several texts comes to the same as marked texts. -/
abbrev ShowsAll (r : Rendering (List String)) (m : Except Fault (List (Marked Value))) : Prop :=
  Writes [] r m (·.map Marked.sql) (·.flatMap Marked.values)

variable {before : List Value} {r : Rendering α} {m : Except Fault β} {text : β → α}
  {values : β → List Value}

namespace Writes

theorem pure {a : α} {b : β} (ha : a = text b) (hb : before = values b) :
    Writes before (Pure.pure a) (.ok b) text values where
  of_ok := by
    rintro _ ⟨⟩ params
    rw [ha, hb]
    rfl
  of_error := nofun

theorem fail (f : Fault) : Writes before (Fallible.fail f) (.error f) text values where
  of_ok := nofun
  of_error := by
    rintro _ ⟨⟩ params
    rfl

/-- The values that are bound already stay in front. -/
theorem behind (h : Writes [] r m text values) (before : List Value) :
    Writes before r m text fun b => before ++ values b where
  of_ok b hb params := by
    -- what was bound before counts as a part of what the whole rendering starts from
    have hr := h.of_ok b hb (params ++ before)
    rwa [List.append_nil, List.append_assoc] at hr
  of_error f hf params := by
    have hr := h.of_error f hf (params ++ before)
    rwa [List.append_nil] at hr

theorem bind {k : α → Rendering γ} {k' : β → Except Fault δ} {text' : δ → γ}
    {values' : δ → List Value} (h : Writes before r m text values)
    (hk : ∀ b, Writes (values b) (k (text b)) (k' b) text' values') :
    Writes before (r >>= k) (m >>= k') text' values' := by
  cases m with
  | ok b =>
    have hr := h.of_ok b rfl
    constructor
    · intro c hc params
      rw [Fallible.bind_apply_of_ok (hr params)]
      exact (hk b).of_ok c hc params
    · intro f hf params
      rw [Fallible.bind_apply_of_ok (hr params)]
      exact (hk b).of_error f hf params
  | error f =>
    constructor
    · nofun
    · rintro _ ⟨⟩ params
      -- the values that a failed rendering leaves behind are nobody's concern
      have hstop : r (params ++ before) = (.error f, (r (params ++ before)).2) :=
        Prod.ext (h.of_error f rfl params) rfl
      rw [Fallible.bind_apply_of_error hstop]

/-- A part that binds nothing, and stops where `e` does. -/
theorem ofExcept {e : Except Fault α} {k : α → Rendering γ} {k' : α → Except Fault δ}
    {text' : δ → γ} {values' : δ → List Value}
    (hk : ∀ a, Writes before (k a) (k' a) text' values') :
    Writes before (Fallible.ofExcept e >>= k) (e >>= k') text' values' := by
  cases e with
  | ok a => exact hk a
  | error f => exact fail f

end Writes

/-- A rendering that comes to the same as `m` makes the statement that `m` stands for. -/
theorem Writes.statement_eq {r : Rendering String} {text : β → String}
    (h : Writes [] r m text values) : r.statement = m.map fun b => ⟨text b, values b⟩ := by
  cases m with
  | ok b =>
    have hr : r.run [] = (.ok (text b), values b) := h.of_ok b rfl []
    rw [statement, hr]
    rfl
  | error f =>
    have hr : r.run [] = (.error f, (r.run []).2) := Prod.ext (h.of_error f rfl []) rfl
    rw [statement, hr]
    rfl

/-- A rendering that comes to the same as marked text makes the statement that is read off it. -/
theorem Shows.statement_eq {r : Rendering String} {m : Except Fault (Marked Value)}
    (h : Shows r m) : r.statement = m.map Marked.statement :=
  Writes.statement_eq h

/-- Text that binds nothing. -/
theorem shows_ofExcept (e : Except Fault String) :
    Shows (Fallible.ofExcept e) (e.map Marked.plain) := by
  cases e with
  | ok s => exact .pure (Marked.sql_plain s).symm (Marked.values_plain s).symm
  | error f => exact .fail f

theorem shows_bindValue (v : Value) : Shows (bindValue v) (.ok (.bound v)) where
  of_ok := by
    rintro _ ⟨⟩ params
    rw [List.append_nil]
    rfl
  of_error := nofun

/-- A complete statement in parentheses. -/
theorem shows_embed (nested : Except Fault (Marked Value)) :
    Shows (embed (nested.map Marked.statement))
      (nested.map fun t => .plain "(" ++ t ++ .plain ")") := by
  cases nested with
  | ok t =>
    constructor
    · rintro _ ⟨⟩ params
      simp [embed, Except.map, Marked.statement, String.append_assoc]
    · nofun
  | error f =>
    constructor
    · nofun
    · rintro _ ⟨⟩ params
      rfl

end Rendering

end FluentSql
