import FluentSql.Fault
import FluentSql.Text.Case
import FluentSql.Text.Numeral
import FluentSql.Url.Address

/-!
# URLs

A URL is split into scheme, network location, path and query; a fragment is dropped. The network
location is split into user, password, host and port. Nothing is decoded here.
-/

namespace FluentSql

/-- The parts of a URL that a connection is made of. -/
structure Url where
  location : List Char
  path : List Char
  query : List Char

namespace Url

/-- Characters of a scheme. -/
def isSchemeChar (c : Char) : Bool :=
  c.isAlphanum || c == '+' || c == '-' || c == '.'

/-- Drops control characters and blanks from the front, and line breaks and tabs everywhere. -/
def clean (cs : List Char) : List Char :=
  (cs.dropWhile fun c => c.toNat ≤ 0x20).filter fun c => c != '\t' && c != '\r' && c != '\n'

/-- Drops the scheme, if the text starts with a letter and has only characters of a scheme before
its first colon. -/
def dropScheme (cs : List Char) : List Char :=
  match cut ':' cs with
  | (scheme, some rest) =>
    if (scheme.head?.map Char.isAlpha).getD false && scheme.all isSchemeChar then rest else cs
  | _ => cs

/-- Splits off a network location, which stands behind two slashes and ends at the first
delimiter. -/
def splitLocation : List Char → List Char × List Char
  | '/' :: '/' :: rest =>
    let inside (c : Char) : Bool := c != '/' && c != '?' && c != '#'
    (rest.takeWhile inside, rest.dropWhile inside)
  | rest => ([], rest)

/-- Characters whose compatibility form has a delimiter of URLs in it. -/
def hidesDelimiter (c : Char) : Bool :=
  [0x2047, 0x2048, 0x2049, 0x2100, 0x2101, 0x2105, 0x2106, 0x2a74, 0xfe13, 0xfe16, 0xfe55, 0xfe56,
    0xfe5f, 0xfe6b, 0xff03, 0xff0f, 0xff1a, 0xff1f, 0xff20].contains c.toNat

/-- What stands before the last occurrence of a character, if it occurs, and what stands behind
it. -/
def cutLast (sep : Char) (cs : List Char) : Option (List Char) × List Char :=
  match cut sep cs.reverse with
  | (after, some before) => (some before.reverse, after.reverse)
  | (after, none) => (none, after.reverse)

/-- The host among what stands behind the user of a network location. Around a host in brackets
there is nothing but a port. -/
def hostBetweenBrackets (info : List Char) : Except Fault (List Char) :=
  match cut '[' info with
  | ([], some bracketed) =>
    let (host, rest) := cut ']' bracketed
    match rest with
    | none | some [] | some (':' :: _) => .ok host
    | some _ => .error (.url .unbalancedBrackets)
  | (_, some _) => .error (.url .unbalancedBrackets)
  | (_, none) => .ok (cut ':' info).1

/-- A host of a network location with brackets must be an IPv6 address or a future address. -/
def checkHost (host : List Char) : Except Fault Unit :=
  if host.head? == some 'v' then
    if isFutureAddress host then .ok () else .error (.url .badFutureAddress)
  else if isIPv4 host then .error (.url .bracketedIPv4)
  else if isIPv6 host then .ok ()
  else .error (.url (.badAddress (Text.quoted (String.ofList host))))

/-- Brackets of a network location come in pairs, around the host. -/
def checkBrackets (location : List Char) : Except Fault Unit :=
  if location.contains '[' != location.contains ']' then .error (.url .unbalancedBrackets)
  else if !location.contains '[' then .ok ()
  else do
    let host ← hostBetweenBrackets (cutLast '@' location).2
    checkHost host

/-- The parts of a URL. -/
def split (text : String) : Except Fault Url := do
  let (location, rest) := splitLocation (dropScheme (clean text.toList))
  checkBrackets location
  let rest := (cut '#' rest).1
  let (path, query) := cut '?' rest
  if location.any hidesDelimiter then .error (.url (.hiddenDelimiter (String.ofList location)))
  else .ok ⟨location, path, query.getD []⟩

/-! ### The network location -/

/-- The user: what stands before the first colon of the part before the last `@`. -/
def user (u : Url) : Option (List Char) :=
  (cutLast '@' u.location).1.map fun info => (cut ':' info).1

/-- The password: what stands behind that colon. -/
def password (u : Url) : Option (List Char) :=
  (cutLast '@' u.location).1.bind fun info => (cut ':' info).2

/-- Host and port, as written. A host in brackets may have colons. -/
def hostAndPort (u : Url) : List Char × List Char :=
  let info := (cutLast '@' u.location).2
  match cut '[' info with
  | (_, some bracketed) =>
    let (host, rest) := cut ']' bracketed
    (host, (cut ':' (rest.getD [])).2.getD [])
  | (_, none) =>
    let (host, port) := cut ':' info
    (host, port.getD [])

/-- The host in lower case. The zone of an address keeps its case. -/
def host (u : Url) : String :=
  let written := u.hostAndPort.1
  let (address, zone) := cut '%' written
  Text.lower (String.ofList address)
    ++ (match zone with
      | some z => String.ofList ('%' :: z)
      | none => "")

/-- The port, if one is given. -/
def port (u : Url) : Except Fault (Option Int) :=
  let written := u.hostAndPort.2
  if written.isEmpty then .ok none
  else if !written.all Char.isDigit then
    .error (.url (.malformedPort (Text.quoted (String.ofList written))))
  else
    match Text.readInteger written with
    | .value n => if n ≤ 65535 then .ok (some n) else .error (.url .portOutOfRange)
    | .tooLong digits => .error (.number (.tooManyDigits digits))
    | .malformed => .error (.url (.malformedPort (Text.quoted (String.ofList written))))

end Url

end FluentSql
