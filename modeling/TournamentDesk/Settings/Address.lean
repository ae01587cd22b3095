import TournamentDesk.Text.Scan

/-!
# Addresses of a server

A host is named by four octets between dots, or by eight groups of sixteen bits between colons, in
hexadecimal. One stretch of zero groups may be left out of the latter, which leaves two colons in its
place, and the last two groups may be written as four octets. A host of groups stands in brackets,
and a number behind a percent sign may say on which of the server's networks it lies. The number of
the service on the host follows behind a colon.
-/

namespace TournamentDesk
namespace Settings

open Text (Scan expect)

/-- Four octets. -/
structure Quad where
  first : UInt8
  second : UInt8
  third : UInt8
  fourth : UInt8
deriving DecidableEq, Repr

/-- A host. -/
inductive Host where
  /-- A host of four octets. -/
  | quad (octets : Quad)
  /-- A host of eight groups, on a network. -/
  | groups (groups : Vector UInt16 8) (scope : UInt32)
deriving DecidableEq, Repr

/-- Where a server is reached. -/
structure Address where
  host : Host
  service : UInt16
deriving DecidableEq, Repr

/-! ## Reading -/

/-- A number in a base from its digits. -/
def numberIn (base : Nat) (ds : List Char) : Nat :=
  ds.foldl (fun n c => n * base + (Text.hexValue? c).getD 0) 0

/-- A number in base ten of any length, up to a bound. -/
def decimalUpTo (bound : Nat) : Scan Nat := fun s =>
  match Text.wholeNumber s with
  | some (n, s) => if n ≤ bound then some (n, s) else none
  | none => none

/-- The greatest number of a service. -/
def maxService : Nat :=
  65535

def maxScope : Nat :=
  4294967295

/-- An octet: up to three digits, and no zero in front of others. -/
def octet : Scan UInt8 := fun s =>
  let ds := s.takeWhile Char.isDigit
  let n := numberIn 10 ds
  if ds.isEmpty || 3 < ds.length || 255 < n || (ds.head? = some '0' && ds.length ≠ 1) then none
  else some (UInt8.ofNat n, s.drop ds.length)

/-- A group: up to four hexadecimal digits. -/
def group : Scan UInt16 := fun s =>
  let ds := s.takeWhile fun c => (Text.hexValue? c).isSome
  if ds.isEmpty || 4 < ds.length then none
  else some (UInt16.ofNat (numberIn 16 ds), s.drop ds.length)

/-- Four octets between dots. -/
def quad : Scan Quad := fun s => do
  let (a, s) ← octet s
  let (_, s) ← expect '.' s
  let (b, s) ← octet s
  let (_, s) ← expect '.' s
  let (c, s) ← octet s
  let (_, s) ← expect '.' s
  let (d, s) ← octet s
  return (⟨a, b, c, d⟩, s)

/-- A group of two octets. -/
def pairGroup (a b : UInt8) : UInt16 :=
  UInt16.ofNat (a.toNat * 256 + b.toNat)

/-- Four octets as two groups. -/
def Quad.groups (q : Quad) : List UInt16 :=
  [pairGroup q.first q.second, pairGroup q.third q.fourth]

/-- As many groups as could be read. -/
structure Groups where
  values : List UInt16
  /-- Whether the last two were written as octets. -/
  endsInOctets : Bool
  /-- What follows them. -/
  rest : List Char

/-- What follows a colon, or what a text starts with if it is the first part. -/
def behindColon {α : Type} (isFirst : Bool) (scan : Scan α) : Scan α := fun s =>
  if isFirst then scan s
  else
    match expect ':' s with
    | some ((), s) => scan s
    | none => none

/-- Up to so many groups, between colons. Octets end them. -/
def readGroups : Nat → Bool → List Char → Groups
  | 0, _, s => ⟨[], false, s⟩
  | n + 1, isFirst, s =>
    match if n = 0 then none else behindColon isFirst quad s with
    | some (q, s) => ⟨q.groups, true, s⟩
    | none =>
      match behindColon isFirst group s with
      | some (g, s) =>
        let others := readGroups n false s
        { others with values := g :: others.values }
      | none => ⟨[], false, s⟩

/-- Eight groups, if there are as many. -/
def eightGroups? (gs : List UInt16) : Option (Vector UInt16 8) :=
  if h : gs.length = 8 then some ⟨gs.toArray, by simpa using h⟩ else none

/-- The eight groups of a host. Where some are left out, at least one is. -/
def readHostGroups : Scan (Vector UInt16 8) := fun s =>
  let head := readGroups 8 true s
  if head.values.length = 8 then (eightGroups? head.values).map fun gs => (gs, head.rest)
  else if head.endsInOctets then none
  else do
    let (_, s) ← expect ':' head.rest
    let (_, s) ← expect ':' s
    let tail := readGroups (7 - head.values.length) true s
    let zeros := List.replicate (8 - head.values.length - tail.values.length) 0
    let gs ← eightGroups? (head.values ++ zeros ++ tail.values)
    return (gs, tail.rest)

/-- The number of a network behind a percent sign, or zero if there is none. -/
def readScope : Scan UInt32 := fun s =>
  match (expect '%' s).bind fun r => decimalUpTo maxScope r.2 with
  | some (n, s) => some (UInt32.ofNat n, s)
  | none => some (0, s)

/-- A host in front of the number of a service. -/
def readHost : Scan Host
  | '[' :: s => do
    let (gs, s) ← readHostGroups s
    let (scope, s) ← readScope s
    let (_, s) ← expect ']' s
    return (.groups gs scope, s)
  | s => (quad s).map fun r => (.quad r.1, r.2)

def Address.ofText? (s : List Char) : Option Address := do
  let (host, s) ← readHost s
  let (_, s) ← expect ':' s
  let (service, s) ← decimalUpTo maxService s
  if s.isEmpty then some ⟨host, UInt16.ofNat service⟩ else none

/-- Reads an address from a string. -/
def Address.parse? (s : String) : Option Address :=
  Address.ofText? s.toList

/-! ## Writing -/

def decimalText (n : Nat) : List Char :=
  Nat.toDigits 10 n

def Quad.text (q : Quad) : List Char :=
  decimalText q.first.toNat ++ '.' :: decimalText q.second.toNat ++ '.' ::
    decimalText q.third.toNat ++ '.' :: decimalText q.fourth.toNat

def groupsText (gs : List UInt16) : List Char :=
  List.intercalate [':'] (gs.map fun g => Nat.toDigits 16 g.toNat)

/-- Where the first of the longest stretches of zeros begins, and how long it is. -/
def longestZeros : List UInt16 → Nat × Nat
  | [] => (0, 0)
  | g :: gs =>
    let here := ((g :: gs).takeWhile fun g => g = 0).length
    let (start, length) := longestZeros gs
    if length ≤ here then (0, here) else (start + 1, length)

/-- The four octets that eight groups stand for, if they do. -/
def embeddedQuad? : List UInt16 → Option Quad
  | [0, 0, 0, 0, 0, 0xFFFF, a, b] =>
    some ⟨UInt8.ofNat (a.toNat / 256), UInt8.ofNat a.toNat, UInt8.ofNat (b.toNat / 256),
      UInt8.ofNat b.toNat⟩
  | _ => none

/-- The text of eight groups. The first of the longest stretches of two or more zeros is left out. -/
def hostGroupsText (gs : List UInt16) : List Char :=
  match embeddedQuad? gs with
  | some q => [':', ':', 'f', 'f', 'f', 'f', ':'] ++ q.text
  | none =>
    let (start, length) := longestZeros gs
    if 1 < length then
      groupsText (gs.take start) ++ [':', ':'] ++ groupsText (gs.drop (start + length))
    else groupsText gs

/-- The text of a host. A network numbered zero is not written. -/
def Host.text : Host → List Char
  | .quad q => q.text
  | .groups gs scope =>
    '[' :: hostGroupsText gs.toList ++
      (if scope = 0 then [] else '%' :: decimalText scope.toNat) ++ [']']

def Address.text (a : Address) : List Char :=
  a.host.text ++ ':' :: decimalText a.service.toNat

/-- The text of an address as a string. -/
def Address.render (a : Address) : String :=
  String.ofList a.text

end Settings
end TournamentDesk
