import ClusterInfra.Text.Digit
import ClusterInfra.Text.Scan
/-!
Internet addresses and their texts.

An IPv4 address is four decimal octets without leading zeros. An IPv6 address is up to eight groups
of hexadecimal digits, of which a run of zeros may be left out once and the last two may be written
as an IPv4 address. A socket address adds a port, and to an IPv6 address brackets and perhaps a
scope. Addresses are written in their shortest form: the first longest run of at least two zero
groups is left out.
-/

namespace ClusterInfra.Net

open Text (Scan digit?)
open Text.Scan (next char)

/-- An IPv4 address. -/
structure Ipv4 where
  a : Nat
  b : Nat
  c : Nat
  d : Nat
  deriving DecidableEq, Repr

/-- An IPv6 address: eight groups of 16 bits. -/
structure Ipv6 where
  groups : List Nat
  deriving DecidableEq, Repr

/-- An address and a port. -/
inductive SocketAddress
  | v4 (address : Ipv4) (port : Nat)
  | v6 (address : Ipv6) (scope port : Nat)
  deriving DecidableEq, Repr

/-! ### Reading -/

/-- Reads all digits that follow; there has to be one. -/
def digits (base : Nat) : Scan (List Nat) := fun cs =>
  let found := cs.takeWhile fun c => (digit? base c).isSome
  if found.isEmpty then none else some (found.filterMap (digit? base), cs.drop found.length)

/-- The number that digits write. -/
def valueOf (base : Nat) (digits : List Nat) : Nat :=
  digits.foldl (fun n d => n * base + d) 0

/-- Reads a number below a bound. -/
def number (base bound : Nat) : Scan Nat := do
  let value := valueOf base (← digits base)
  if value < bound then return value else failure

/-- Reads an octet: up to three digits, without a leading zero. -/
def octet : Scan Nat := do
  let found ← digits 10
  let value := valueOf 10 found
  if found.length ≤ 3 && value < 256 && (found.length = 1 || found.head? ≠ some 0) then
    return value
  else failure

/-- Reads an IPv4 address. -/
def ipv4 : Scan Ipv4 := do
  let a ← octet
  char '.'
  let b ← octet
  char '.'
  let c ← octet
  char '.'
  return ⟨a, b, c, ← octet⟩

/-- The two groups of 16 bits that an IPv4 address takes up. -/
def Ipv4.groups (address : Ipv4) : List Nat :=
  [address.a * 256 + address.b, address.c * 256 + address.d]

/-- Reads a group of up to four hexadecimal digits. -/
def group : Scan Nat := do
  let found ← digits 16
  if found.length ≤ 4 then return valueOf 16 found else failure

/-- Reads what a reader reads after a colon, or without one at the beginning. -/
def afterColon {α : Type} (first : Bool) (scan : Scan α) : Scan α := do
  unless first do char ':'
  scan

/-- Reads groups with colons between them, as many as there are up to a limit; an IPv4 address may
stand for the last two. Tells whether one did. -/
def groupList (first : Bool) : (limit : Nat) → List Char → List Nat × Bool × List Char
  | 0, cs => ([], false, cs)
  | limit + 1, cs =>
    match if 1 ≤ limit then afterColon first ipv4 cs else none with
    | some (address, rest) => (address.groups, true, rest)
    | none =>
      match afterColon first group cs with
      | none => ([], false, cs)
      | some (value, rest) =>
        let (values, mixed, rest) := groupList false limit rest
        (value :: values, mixed, rest)

/-- Reads an IPv6 address. -/
def ipv6 : Scan Ipv6 := fun cs =>
  let (head, mixed, rest) := groupList true 8 cs
  if head.length = 8 then some (⟨head⟩, rest)
  else if mixed then none
  else match rest with
    | ':' :: ':' :: rest =>
      let (tail, _, rest) := groupList true (7 - head.length) rest
      some (⟨head ++ List.replicate (8 - head.length - tail.length) 0 ++ tail⟩, rest)
    | _ => none

/-- Reads a port after a colon. -/
def port : Scan Nat := do
  char ':'
  number 10 UInt16.size

/-- Reads a scope after a percent sign. -/
def scope : Scan Nat := do
  char '%'
  number 10 UInt32.size

/-- Reads a socket address. -/
def socketAddress : Scan SocketAddress :=
  (do
    let address ← ipv4
    return .v4 address (← port))
  <|> (do
    char '['
    let address ← ipv6
    let scope := (← scope.optional).getD 0
    char ']'
    return .v6 address scope (← port))

/-- Reads a text that is a socket address and nothing else. -/
def SocketAddress.read? (text : String) : Option SocketAddress := socketAddress.all? text

/-- Whether a text is an IP address: such a host needs no look-up. -/
def isLiteral (text : String) : Bool :=
  (ipv4.all? text).isSome || (ipv6.all? text).isSome

/-! ### Writing -/

/-- The text of an IPv4 address. -/
def Ipv4.text (address : Ipv4) : String :=
  ".".intercalate ([address.a, address.b, address.c, address.d].map toString)

/-- The hexadecimal digits of a group. -/
def groupText (value : Nat) : String := String.ofList (Nat.toDigits 16 value)

/-- The length of the run of zeros at the front. -/
def zerosAhead (groups : List Nat) : Nat := (groups.takeWhile (· = 0)).length

/-- The first longest run of zeros: where it starts and how long it is. -/
def longestZeros (groups : List Nat) : Nat × Nat :=
  (List.range groups.length).foldl (fun best start =>
    let length := zerosAhead (groups.drop start)
    if best.2 < length then (start, length) else best) (0, 0)

/-- The text of groups with colons between them. -/
def groupsText (groups : List Nat) : String := ":".intercalate (groups.map groupText)

/-- The text of an IPv6 address; one that stands for an IPv4 address shows it. -/
def Ipv6.text (address : Ipv6) : String :=
  match address.groups with
  | [0, 0, 0, 0, 0, 0xffff, g, h] =>
    "::ffff:" ++ Ipv4.text ⟨g / 256, g % 256, h / 256, h % 256⟩
  | groups =>
    let (start, length) := longestZeros groups
    if 1 < length then
      groupsText (groups.take start) ++ "::" ++ groupsText (groups.drop (start + length))
    else groupsText groups

/-- The text of a socket address. -/
def SocketAddress.text : SocketAddress → String
  | .v4 address port => address.text ++ ":" ++ toString port
  | .v6 address scope port =>
    "[" ++ address.text ++ (if scope = 0 then "" else "%" ++ toString scope) ++ "]:"
      ++ toString port

end ClusterInfra.Net
