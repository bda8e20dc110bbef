import Telemetry.Text.Natural
import Telemetry.Text.Split

/-!
# Addresses of the metrics server

A server is given as host and port. The host has to be a numeric address; names are not
looked up, apart from `localhost`, so nobody answers where one is given. An IPv4 address may
also be written in the older short forms, with up to four parts in octal or hexadecimal; an
address of version six stands in brackets, unless it is followed by a port and so cannot be
misread. It may name a *zone*, the number of the link that it is on; zero is none.
-/

namespace Telemetry.Metrics

open Text (naturalIn? splitAtChar)

/-- A numeric host and a port. -/
inductive Address
  | v4 (octets : List Nat) (port : Nat)
  | v6 (groups : List Nat) (zone port : Nat)
  deriving DecidableEq, Repr

/-- Why a server has no address. -/
inductive AddressError
  | noPort
  | badPort
  | nulInHost
  /-- The host is neither an address nor can it be a name. -/
  | unknownHost
  /-- The host could be a name, but nobody knows it. -/
  | noAnswer
  deriving DecidableEq, Repr

/-- The text of the error. -/
def AddressError.message : AddressError → String
  | .noPort => "invalid socket address"
  | .badPort => "invalid port value"
  | .nulInHost => "file name contained an unexpected NUL byte"
  | .unknownHost => "failed to lookup address information: Name or service not known"
  | .noAnswer => "failed to lookup address information: Temporary failure in name resolution"

/-- An IPv4 address of four decimal parts without leading zeros. -/
def dotted? (cs : List Char) : Option (List Nat) :=
  let parts := splitAtChar '.' cs
  if parts.length ≠ 4 then none
  else parts.mapM fun part =>
    if part.length ≤ 3 ∧ (part.length = 1 ∨ part.head? ≠ some '0') then
      (naturalIn? 10 part).bind fun n => if n < 256 then some n else none
    else none

/-- A part of an older IPv4 form: hexadecimal after `0x`, octal after `0`. -/
def looseNumber? : List Char → Option Nat
  | '0' :: 'x' :: rest => naturalIn? 16 rest
  | '0' :: 'X' :: rest => naturalIn? 16 rest
  | '0' :: c :: rest => naturalIn? 8 (c :: rest)
  | cs => naturalIn? 10 cs

/-- An IPv4 address of one to four parts, the last of which fills what is left. -/
def looseAddress? (cs : List Char) : Option (List Nat) := do
  let parts ← (splitAtChar '.' cs).mapM looseNumber?
  let last ← parts.getLast?
  let front := parts.dropLast
  if 3 < front.length ∨ front.any (256 ≤ ·) ∨ Nat.pow 256 (4 - front.length) ≤ last then none
  else
    let rest := (List.range (4 - front.length)).reverse.map fun i => last / Nat.pow 256 i % 256
    some (front ++ rest)

/-- A group of an IPv6 address. -/
def group? (part : List Char) : Option Nat :=
  if part.length ≤ 4 then naturalIn? 16 part else none

/-- Some groups of an IPv6 address between colons. -/
def groups? (cs : List Char) : Option (List Nat) :=
  if cs.isEmpty then some [] else (splitAtChar ':' cs).mapM group?

/-- The last groups of an IPv6 address; two may be written as an IPv4 address at the end. -/
def lastGroups? (cs : List Char) : Option (List Nat) :=
  let parts := splitAtChar ':' cs
  match parts.getLast?.bind dotted? with
  | some [a, b, c, d] => (parts.dropLast.mapM group?).map (· ++ [a * 256 + b, c * 256 + d])
  | _ => groups? cs

/-- Splits characters at the first double colon. -/
def splitAtGap : List Char → Option (List Char × List Char)
  | ':' :: ':' :: rest => some ([], rest)
  | c :: rest => (splitAtGap rest).map fun (a, b) => (c :: a, b)
  | [] => none

/-- An IPv6 address: eight groups, or fewer around one gap. -/
def sixAddress? (cs : List Char) : Option (List Nat) :=
  match splitAtGap cs with
  | none => (lastGroups? cs).bind fun gs => if gs.length = 8 then some gs else none
  | some (a, b) => do
    let front ← groups? a
    let back ← lastGroups? b
    if 8 ≤ front.length + back.length then none
    else some (front ++ List.replicate (8 - front.length - back.length) 0 ++ back)

/-- The number of a zone. -/
def zoneNumber? (cs : List Char) : Option Nat :=
  (naturalIn? 10 cs).bind fun n => if n < UInt32.size then some n else none

/-- Whether an IPv6 address is one of the link alone. -/
def isLinkLocal (groups : List Nat) : Bool :=
  groups.head?.any fun g => g / 0x40 = 0x3FA || (g / 0x100 = 0xFF && g % 0x10 = 2)

/-- A zone by its number, or by the name of the loopback link, which is the first one. Only
addresses of the link alone may use the name. -/
def zone? (groups : List Nat) (cs : List Char) : Option Nat :=
  if isLinkLocal groups && cs = ['l', 'o'] then some 1 else zoneNumber? cs

/-- An IPv6 address and its zone, which stands after a percent sign. -/
def zonedAddress? (zone? : List Nat → List Char → Option Nat) (cs : List Char) :
    Option (List Nat × Nat) := do
  let groups ← sixAddress? (cs.takeWhile (· ≠ '%'))
  match cs.dropWhile (· ≠ '%') with
  | [] => some (groups, 0)
  | _ :: zone => (zone? groups zone).map (groups, ·)

/-- A port: digits, after a plus sign if `signed`. -/
def port? (signed : Bool) (cs : List Char) : Option Nat :=
  let digits := match cs with
    | '+' :: rest => if signed then rest else cs
    | cs => cs
  (naturalIn? 10 digits).bind fun n => if n < 65536 then some n else none

/-- Splits characters at the last colon. -/
def splitAtLastColon (cs : List Char) : Option (List Char × List Char) :=
  let parts := splitAtChar ':' cs
  if parts.length < 2 then none
  else some (String.toList (String.intercalate ":" (parts.dropLast.map String.ofList)),
    parts.getLast?.getD [])

/-- Whether a character can be part of the name of a host. -/
def isHostChar (c : Char) : Bool := c.isAlphanum || c = '-' || c = '_'

/-- Whether a text can be the name of a host: labels between dots, and perhaps a dot at the end.
A label has 63 characters at most, and all of them with their lengths 255. -/
def isHostName (host : List Char) : Bool :=
  let labels := splitAtChar '.' host
  let labels := if 1 < labels.length && labels.getLast? = some [] then labels.dropLast else labels
  host.head? ≠ some '-' &&
    labels.all (fun l => !l.isEmpty && l.length ≤ 63 && l.all isHostChar) &&
    labels.foldl (fun n l => n + l.length + 1) 1 ≤ 255

/-- A numeric host, or the one name that is known. -/
def hostAddress (host : List Char) (port : Nat) : Except AddressError Address :=
  match looseAddress? host, zonedAddress? zone? host with
  | some octets, _ => .ok (.v4 octets port)
  | none, some (groups, zone) => .ok (.v6 groups zone port)
  | none, none =>
    if (String.ofList host).map Char.toLower = "localhost" then .ok (.v4 [127, 0, 0, 1] port)
    else if host.contains '\x00' then .error .nulInHost
    else .error (if isHostName host then .noAnswer else .unknownHost)

/-- An address in brackets and a port. -/
def bracketed? (cs : List Char) : Option Address :=
  match cs with
  | '[' :: rest =>
    match rest.dropWhile (· ≠ ']') with
    | ']' :: ':' :: port => do
      let (groups, zone) ← zonedAddress? (fun _ => zoneNumber?) (rest.takeWhile (· ≠ ']'))
      let port ← port? false port
      some (.v6 groups zone port)
    | _ => none
  | _ => none

/-- The address of a server. -/
def Address.parse (text : String) : Except AddressError Address :=
  let cs := text.toList
  match bracketed? cs with
  | some address => .ok address
  | none =>
    match splitAtLastColon cs with
    | none => .error .noPort
    | some (host, port) =>
      match port? true port with
      | none => .error .badPort
      | some port => hostAddress host port

/-- The longest run of zero groups, as start and length; the first of equally long ones. -/
def zeroRun (groups : List Nat) : Nat × Nat :=
  let runAt (i : Nat) : Nat := ((groups.drop i).takeWhile (· = 0)).length
  (List.range groups.length).foldl
    (fun best i => if best.2 < runAt i then (i, runAt i) else best) (0, 0)

/-- Groups in hexadecimal between colons. -/
def groupsText (groups : List Nat) : String :=
  String.intercalate ":" (groups.map fun g => String.ofList (Nat.toDigits 16 g))

/-- An IPv6 address: a run of two or more zero groups is left out. -/
def sixText (groups : List Nat) : String :=
  match groups with
  | [0, 0, 0, 0, 0, 0xFFFF, a, b] =>
    "::ffff:" ++
      String.intercalate "." ([a / 256, a % 256, b / 256, b % 256].map fun n => toString n)
  | groups =>
    let (start, length) := zeroRun groups
    if length < 2 then groupsText groups
    else groupsText (groups.take start) ++ "::" ++ groupsText (groups.drop (start + length))

/-- An address as text. -/
def Address.text : Address → String
  | .v4 octets port =>
    String.intercalate "." (octets.map fun n => toString n) ++ ":" ++ toString port
  | .v6 groups zone port =>
    "[" ++ sixText groups ++ (if zone = 0 then "" else "%" ++ toString zone) ++ "]:" ++
      toString port

end Telemetry.Metrics
