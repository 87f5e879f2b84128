import FluentSql.Url.Percent

/-!
# Internet addresses

The texts that are IPv4 and IPv6 addresses, as they may stand for a host.
-/

namespace FluentSql.Url

/-- One number of an IPv4 address: up to three digits, at most 255, without leading zeros. -/
def isOctet (cs : List Char) : Bool :=
  cs.all Char.isDigit && 1 ≤ cs.length && cs.length ≤ 3
    && (cs == ['0'] || cs.head? != some '0')
    && cs.foldl (fun n c => 10 * n + (c.toNat - 48)) 0 ≤ 255

/-- Four numbers between dots. -/
def isIPv4 (cs : List Char) : Bool :=
  let parts := splitAll '.' cs
  parts.length == 4 && parts.all isOctet

/-- One group of an IPv6 address: up to four hexadecimal digits. -/
def isHextet (cs : List Char) : Bool :=
  1 ≤ cs.length && cs.length ≤ 4 && cs.all fun c => (hexDigit? c).isSome

/-- The groups of an IPv6 address. A part in dots at the end stands for two groups. -/
def ipv6Groups (cs : List Char) : Option (List (List Char)) :=
  let parts := splitAll ':' cs
  if parts.length < 3 then none
  else
    match parts.getLast? with
    | none => none
    | some last =>
      if last.contains '.' then
        if isIPv4 last then some (parts.dropLast ++ [['0'], ['0']]) else none
      else some parts

/-- The positions of the inner groups that are empty. -/
def emptyInside (groups : List (List Char)) : List Nat :=
  (List.range groups.length).filter fun i =>
    0 < i && i + 1 < groups.length && groups[i]? == some []

/-- Whether the groups make an address: eight of them, or fewer around one gap. A gap at an end
leaves an empty group there. -/
def validGroups (groups : List (List Char)) : Bool :=
  if 9 < groups.length then false
  else
    match emptyInside groups with
    | [] => groups.length == 8 && groups.all isHextet
    | [i] =>
      let high := groups.take i
      let low := groups.drop (i + 1)
      let high := if high.head? == some [] then high.drop 1 else high
      let low := if low.getLast? == some [] then low.dropLast else low
      let highOk := high.all isHextet && (groups.head? != some [] || high.isEmpty)
      let lowOk := low.all isHextet && (groups.getLast? != some [] || low.isEmpty)
      highOk && lowOk && high.length + low.length ≤ 7
    | _ => false

/-- An IPv6 address, with a zone behind a percent sign if it has one. -/
def isIPv6 (cs : List Char) : Bool :=
  if cs.contains '/' then false
  else
    let (address, zone) := cut '%' cs
    let zoneOk :=
      match zone with
      | none => true
      | some z => !z.isEmpty && !z.contains '%'
    zoneOk && (match ipv6Groups address with
      | some groups => validGroups groups
      | none => false)

/-- A future address: `v`, a hexadecimal version, a point and at least one more character. -/
def isFutureAddress (cs : List Char) : Bool :=
  match cs with
  | 'v' :: rest =>
    let (version, tail) := cut '.' rest
    !version.isEmpty && version.all (fun c => (hexDigit? c).isSome)
      && (match tail with
        | some t => !t.isEmpty && !t.contains '\n'
        | none => false)
  | _ => false

end FluentSql.Url
