import FluentSql.Entries
import FluentSql.Fault
import FluentSql.Text.Blank
import FluentSql.Text.Case
import FluentSql.Url.Percent

/-!
# INI files

A file has sections of options. A line is blank, a comment (starting with `#` or `;`), a header in
brackets, an option with `=` or `:` behind its name, or the continuation of an option's value,
which is indented deeper than the option. Names of options are kept in lower case. A section or an
option that comes twice is refused at once; a line that is no option is refused when the rest of
the file has been read.

The options of the section `DEFAULT` belong to every section.
-/

namespace FluentSql

/-- The options of a section: names, and the lines of their values. -/
abbrev IniOptions := List (String × List String)

/-- What has been read of an INI file. -/
structure IniReader where
  defaults : IniOptions := []
  sections : List (String × IniOptions) := []
  /-- The section that the next option belongs to. -/
  current : Option String := none
  /-- The option that a continuation line belongs to. -/
  option : Option String := none
  /-- The indentation of that option. -/
  indent : Nat := 0
  /-- A line that is no option has been met. -/
  malformed : Bool := false

namespace IniReader

/-- The section whose options all others have too. -/
def defaultSection : String := "DEFAULT"

/-- The options of a section. -/
def options (r : IniReader) (name : String) : IniOptions :=
  if name = defaultSection then r.defaults else (r.sections.lookup name).getD []

/-- Replaces the options of a section. -/
def setOptions (r : IniReader) (name : String) (options : IniOptions) : IniReader :=
  if name = defaultSection then { r with defaults := options }
  else { r with sections := putEntry name options r.sections }

/-- Adds a line to the value of the current option. -/
def continueValue (r : IniReader) (line : String) : IniReader :=
  match r.current, r.option with
  | some name, some option =>
    let options := r.options name
    match options.lookup option with
    | some lines => r.setOptions name (putEntry option (lines ++ [line]) options)
    | none => r
  | _, _ => r

/-- The name in a header: everything from the first bracket to the last, if that is not empty. -/
def headerName? : List Char → Option String
  | '[' :: rest =>
    match Url.cut ']' rest.reverse with
    | (_, some inner) => if inner.isEmpty then none else some (String.ofList inner.reverse)
    | _ => none
  | _ => none

/-- Starts a section. -/
def startSection (r : IniReader) (name : String) : Except Fault IniReader :=
  if name = defaultSection then .ok { r with current := some name, option := none }
  else if (r.sections.lookup name).isSome then .error (.ini .duplicateSection)
  else
    .ok { r with sections := r.sections ++ [(name, [])], current := some name, option := none }

/-- Name and value of an option line: they are parted by the first `=` or `:`. -/
def splitOption (cs : List Char) : Option (List Char × List Char) :=
  let isDelimiter (c : Char) : Bool := c == '=' || c == ':'
  match cs.dropWhile fun c => !isDelimiter c with
  | [] => none
  | _ :: value => some (cs.takeWhile fun c => !isDelimiter c, value)

/-- Reads an option line of a section. An empty name is refused at the end of the file, and takes
no continuation lines. -/
def readOption (r : IniReader) (name : String) (cs : List Char) : Except Fault IniReader :=
  match splitOption cs with
  | none => .ok { r with malformed := true }
  | some (optionName, value) =>
    let option := Text.lower (String.ofList (Text.trimChars Text.isBlank optionName))
    let options := r.options name
    if (options.lookup option).isSome then .error (.ini .duplicateOption)
    else
      let line := String.ofList (Text.trimChars Text.isBlank value)
      let r := r.setOptions name (options ++ [(option, [line])])
      .ok { r with
        option := if option.isEmpty then none else some option
        malformed := r.malformed || option.isEmpty }

/-- Reads a line. -/
def readLine (r : IniReader) (line : List Char) : Except Fault IniReader :=
  let body := Text.trimChars Text.isBlank line
  let depth := (line.takeWhile Text.isBlank).length
  match body with
  | [] => .ok (r.continueValue "")
  | c :: _ =>
    if c = '#' ∨ c = ';' then .ok r
    else if r.current.isSome && r.option.isSome && r.indent < depth then
      .ok (r.continueValue (String.ofList body))
    else
      let r := { r with indent := depth }
      match headerName? body with
      | some name => r.startSection name
      | none =>
        match r.current with
        | none => .error (.ini .missingHeader)
        | some name => r.readOption name body

/-- The value of an option: its lines, without blanks at the end. -/
def joinLines (lines : List String) : String :=
  String.ofList
    (((String.intercalate "\n" lines).toList.reverse.dropWhile Text.isBlank).reverse)

end IniReader

/-- An INI file. -/
structure Ini where
  defaults : List (String × String)
  sections : List (String × List (String × String))

namespace Ini

/-- Every line break becomes a line feed. -/
def normalizeBreaks : List Char → List Char
  | [] => []
  | '\r' :: '\n' :: rest => '\n' :: normalizeBreaks rest
  | '\r' :: rest => '\n' :: normalizeBreaks rest
  | c :: rest => c :: normalizeBreaks rest

/-- The lines of a file. A line break at the end starts no line. -/
def fileLines (text : String) : List (List Char) :=
  let lines := Url.splitAll '\n' (normalizeBreaks text.toList)
  if lines.getLast? == some [] then lines.dropLast else lines

/-- Reads a file. -/
def parse (text : String) : Except Fault Ini := do
  let start : IniReader := {}
  let r ← (fileLines text).foldlM (fun r line => r.readLine line) start
  if r.malformed then .error (.ini .malformedLine)
  else
    let join (options : IniOptions) : List (String × String) :=
      options.map fun o => (o.1, IniReader.joinLines o.2)
    .ok ⟨join r.defaults, r.sections.map fun s => (s.1, join s.2)⟩

/-! ### Interpolation

Inside a value `%(name)s` stands for the value of the option `name`, and `%%` for a percent
sign. -/

/-- How deep values may refer to other values. -/
def interpolationDepth : Nat := 10

/-- The name in a reference `(name)s`, and what follows it. -/
def reference? : List Char → Option (String × List Char)
  | '(' :: rest =>
    match Url.cut ')' rest with
    | (name, some ('s' :: after)) =>
      if name.isEmpty then none else some (Text.lower (String.ofList name), after)
    | _ => none
  | _ => none

/-- The pieces of a value: literal text, and the names it refers to. -/
inductive Piece where
  | literal (c : Char)
  | reference (name : String)
  /-- A percent sign without meaning. -/
  | fault

/-- The pieces of a value, up to the first fault. -/
def pieces (fuel : Nat) (cs : List Char) : List Piece :=
  match fuel, cs with
  | 0, _ => []
  | _, [] => []
  | f + 1, '%' :: '%' :: rest => .literal '%' :: pieces f rest
  | f + 1, '%' :: rest =>
    match reference? rest with
    | some (name, after) => .reference name :: pieces f after
    | none => [.fault]
  | f + 1, c :: rest => .literal c :: pieces f rest

/-- A value with its references resolved, where `depth` is how much deeper they may lead. -/
def interpolate (options : List (String × String)) (depth : Nat) (value : String) :
    Except Fault String :=
  match depth with
  | 0 => .error (.ini .interpolationDepth)
  | d + 1 => do
    let cs := value.toList
    let parts ← (pieces cs.length cs).mapM fun p =>
      match p with
      | .literal c => .ok (String.singleton c)
      | .fault => .error (.ini .interpolationSyntax)
      | .reference name =>
        match options.lookup name with
        | none => .error (.ini .interpolationMissing)
        | some v => if v.toList.contains '%' then interpolate options d v else .ok v
    .ok (String.join parts)

/-- The options of a section with those of the default section before them, and their references
resolved. -/
def sectionOptions (ini : Ini) (options : List (String × String)) :
    Except Fault (List (String × String)) :=
  let all := putEntries ini.defaults options
  all.mapM fun o => do
    let v ← interpolate all interpolationDepth o.2
    .ok (o.1, v)

end Ini

end FluentSql
