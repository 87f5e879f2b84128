import FluentSql.Text.Numeral

/-!
# Options on a command line

A long option has its value behind an equals sign or in the next word. Short options may stand
together in one word, of which the last may take the rest of the word, or else the next word, as its
value. The word `--` ends the options, and a single `-` is no option.
-/

namespace FluentSql.Console

/-- The options of all commands. -/
inductive Switch where
  | url
  | config
  | verbose
  | version
  | help
  | index
  | column
deriving DecidableEq

/-- How an option is written. -/
structure SwitchSpec where
  switch : Switch
  long : String
  short : Option Char := none
  takesValue : Bool := false

/-- What was read of a command line: options with their values, in order, and the other words. -/
structure Reading where
  given : List (Switch × String)
  words : List String

/-- What one word holds: options, and one whose value is the next word. -/
structure WordReading where
  given : List (Switch × String)
  pending : Option Switch

/-- Puts options in front of those that were read. -/
def Reading.add (r : Reading) (given : List (Switch × String)) : Reading :=
  { r with given := given ++ r.given }

namespace SwitchSpec

/-- Reads short options that stand together. -/
def readShort (specs : List SwitchSpec) : List Char → Option WordReading
  | [] => some ⟨[], none⟩
  | c :: rest =>
    match specs.find? fun s => s.short == some c with
    | none => none
    | some s =>
      if s.takesValue then
        if rest.isEmpty then some ⟨[], some s.switch⟩
        else some ⟨[(s.switch, String.ofList rest)], none⟩
      else (readShort specs rest).map fun r => { r with given := (s.switch, "") :: r.given }

/-- The part of a word before its first equals sign, and the part behind it. -/
def cutValue (word : List Char) : List Char × Option (List Char) :=
  match word.dropWhile (· != '=') with
  | [] => (word, none)
  | _ :: value => (word.takeWhile (· != '='), some value)

/-- Reads a word that holds options. -/
def readWord (specs : List SwitchSpec) (word : String) : Option WordReading :=
  let (name, value) := cutValue word.toList
  match specs.find? fun s => s.long == String.ofList name with
  | some s =>
    match s.takesValue, value with
    | true, some v => some ⟨[(s.switch, String.ofList v)], none⟩
    | true, none => some ⟨[], some s.switch⟩
    | false, none => some ⟨[(s.switch, "")], none⟩
    | false, some _ => none
  | none =>
    match word.toList with
    | '-' :: '-' :: _ => none
    | _ :: cs => readShort specs cs
    | [] => none

/-- Whether a word holds options. -/
def isOptionWord (word : String) : Bool :=
  match word.toList with
  | '-' :: _ :: _ => true
  | _ => false

/-- Reads a command line. Where options may not stand behind other words, the first such word ends
them. -/
def read (specs : List SwitchSpec) (interspersed : Bool) : List String → Option Reading
  | [] => some ⟨[], []⟩
  | word :: rest =>
    if word == "--" then some ⟨[], rest⟩
    else if isOptionWord word then
      match readWord specs word with
      | none => none
      | some ⟨given, none⟩ => (read specs interspersed rest).map (·.add given)
      | some ⟨given, some s⟩ =>
        match rest with
        | [] => none
        | value :: rest =>
          (read specs interspersed rest).map (·.add (given ++ [(s, value)]))
    else if interspersed then
      (read specs interspersed rest).map fun r => { r with words := word :: r.words }
    else some ⟨[], word :: rest⟩

end SwitchSpec

namespace Reading

/-- Whether an option was given. -/
def has (r : Reading) (s : Switch) : Bool :=
  r.given.any fun g => g.1 == s

/-- The value of an option; the last one counts. -/
def value? (r : Reading) (s : Switch) : Option String :=
  r.given.reverse.lookup s

/-- The value of an option that is a whole number. -/
def integer? (r : Reading) (s : Switch) : Option (Option Int) :=
  match r.value? s with
  | none => some none
  | some text =>
    match Text.readInteger text.toList with
    | .value n => some (some n)
    | _ => none

end Reading

end FluentSql.Console
