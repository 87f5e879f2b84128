import FluentSql.Url.Percent

/-!
# Files

Text files, and the paths that lead to them. A relative path starts at the working directory. In its
normal form a path has no empty and no `.` components, and no slash at the end. A path leads
nowhere if it has a null character, and neither it nor a component of it may be too long.
-/

namespace FluentSql

/-- Files by path. -/
structure Files where
  entries : List (String × String)

/-- What a path leads to. -/
inductive Node where
  | absent
  /-- Nothing, since the path is too long to be followed. -/
  | overlong
  | directory
  | file (text : String)

namespace Files

/-- The components of a path that count. -/
def components (path : String) : List String :=
  ((Url.splitAll '/' path.toList).map String.ofList).filter fun c => c != "" && c != "."

/-- The slashes in front of an absolute path: two stay two, any other number is one. -/
def root (path : String) : String :=
  match (path.toList.takeWhile (· == '/')).length with
  | 0 => ""
  | 2 => "//"
  | _ => "/"

/-- The normal form of a path. -/
def normalize (path : String) : String :=
  let s := root path ++ String.intercalate "/" (components path)
  if s.isEmpty then "." else s

/-- What stands at a list of components. Directories are the places that files lie under. -/
def nodeAt (fs : Files) (place : List String) : Node :=
  match fs.entries.find? fun e => components e.1 == place with
  | some e => .file e.2
  | none =>
    if place.isEmpty || fs.entries.any fun e => place.isPrefixOf (components e.1) then .directory
    else .absent

/-- The most bytes of a component. -/
def componentLimit : Nat := 255

/-- The most bytes of a path. -/
def pathLimit : Nat := 4095

/-- Whether a component is too long. -/
def isOverlong (component : String) : Bool :=
  componentLimit < component.utf8ByteSize

/-- Follows components from a directory. The parent of the root is the root; the parent of the
working directory is a directory without known files. -/
def follow (fs : Files) (absolute : Bool) (place : List String) : List String → Node
  | [] => fs.nodeAt place
  | c :: rest =>
    match fs.nodeAt place with
    | .directory =>
      if isOverlong c then .overlong
      else if c != ".." then follow fs absolute (place ++ [c]) rest
      else if !place.isEmpty then follow fs absolute place.dropLast rest
      else if absolute then follow fs absolute [] rest
      else
        match rest.find? (· != "..") with
        | none => .directory
        | some c => if isOverlong c then .overlong else .absent
    | _ => .absent

/-- The files below a root, or below the working directory. -/
def below (fs : Files) (start : String) : Files :=
  ⟨fs.entries.filter fun e => root e.1 == start⟩

/-- Whether a path can only lead to a directory: it ends in a slash or in `.`. -/
def namesDirectory (path : String) : Bool :=
  match path.toList.reverse with
  | '/' :: _ | '.' :: '/' :: _ => true
  | _ => false

/-- What a path leads to. -/
def lookup (fs : Files) (path : String) : Node :=
  let start := root path
  if path.toList.contains '\x00' then .absent
  else if pathLimit < path.utf8ByteSize then .overlong
  else match (fs.below start).follow (start != "") [] (components path) with
  | .file text => if namesDirectory path then .absent else .file text
  | node => node

end Files

end FluentSql
