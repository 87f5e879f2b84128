import FluentSql.Dialect

/-!
# Placeholders of drivers

Statements are written with `?`. A driver of the style `format` wants `%s` instead, and expands
the text, so that a literal `%` has to be doubled. Quoted identifiers and string literals are
skipped whole: a `?` inside them is text.

A quoted span ends at the first quote that is not doubled; in single quotes a backslash also
escapes the character behind it, unless that is a line feed. A span without such an end stops at
the first quote of its last doubled pair, and if there is none the opening quote is an ordinary
character.
-/

namespace FluentSql

/-- How a driver writes placeholders. -/
inductive ParamStyle where
  | qmark
  | format
deriving DecidableEq

/-- The name of a placeholder style. -/
def ParamStyle.name : ParamStyle → String
  | qmark => "qmark"
  | format => "format"

namespace Placeholder

/-- The characters that open a quoted span. -/
def isQuote (c : Char) : Bool :=
  c == '\x60' || c == '"' || c == '\''

/-- The rest of a quoted span behind its opening quote `q`, and what follows the span. `body` is
what has been read of it, in reverse, and `fallback` is where it ends if no better end is found. -/
def spanRest (q : Char) (body : List Char) (fallback : Option (List Char × List Char)) :
    List Char → Option (List Char × List Char)
  | [] => fallback
  | [c] => if c = q then some ((q :: body).reverse, []) else fallback
  | c :: d :: rest =>
    if c = q then
      if d = q then spanRest q (q :: q :: body) (some ((q :: body).reverse, d :: rest)) rest
      else some ((q :: body).reverse, d :: rest)
    else if q = '\'' ∧ c = '\\' then
      if d = '\n' then fallback else spanRest q (d :: c :: body) fallback rest
    else spanRest q (c :: body) fallback (d :: rest)

theorem length_of_spanRest {q : Char} {n : Nat} (body : List Char)
    (fallback : Option (List Char × List Char)) (cs : List Char)
    (hf : ∀ p, fallback = some p → p.2.length ≤ n) (hn : cs.length ≤ n) :
    ∀ p, spanRest q body fallback cs = some p → p.2.length ≤ n := by
  fun_induction spanRest q body fallback cs with
  | case1 | case3 | case6 => exact hf
  | case2 =>
    rintro p ⟨⟩
    exact Nat.zero_le n
  | case4 body fallback rest ih =>
    simp only [List.length_cons] at hn
    refine ih ?_ (by omega)
    rintro p ⟨⟩
    simp only [List.length_cons]
    omega
  | case5 =>
    rintro p ⟨⟩
    simp only [List.length_cons] at hn ⊢
    omega
  | case7 =>
    rename_i ih
    simp only [List.length_cons] at hn
    exact ih hf (by omega)
  | case8 =>
    rename_i ih
    simp only [List.length_cons] at hn ih
    exact ih hf (by omega)

/-- Literal text for a driver that expands `%`. -/
def doublePercent (cs : List Char) : List Char :=
  cs.flatMap fun c => if c = '%' then ['%', '%'] else [c]

/-- The characters of a statement with its placeholders in the style `format`. -/
def toFormat : List Char → List Char
  | [] => []
  | c :: rest =>
    if c = '?' then '%' :: 's' :: toFormat rest
    else if isQuote c then
      match h : spanRest c [] none rest with
      | some (body, after) =>
        have : after.length ≤ rest.length :=
          length_of_spanRest [] none rest (by simp) (Nat.le_refl _) _ h
        c :: doublePercent body ++ toFormat after
      | none => c :: toFormat rest
    else doublePercent [c] ++ toFormat rest
termination_by cs => cs.length

/-- A statement with its placeholders in the style of a driver. -/
def convert (style : ParamStyle) (sql : String) : String :=
  match style with
  | .qmark => sql
  | .format => String.ofList (toFormat sql.toList)

end Placeholder

end FluentSql
