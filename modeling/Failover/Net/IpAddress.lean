/-
  Failover.Net.IpAddress
  ──────────────────────
  **Numeric addresses and their texts.** An address of version 4 is four
  numbers with points between them, without leading noughts.  An address
  of version 6 is eight groups of up to four hexadecimal digits; one run
  of groups that are nought may be left out for `::`, and the last two
  groups may be written as an address of version 4.

  Addresses are written in their canonical form: the longest run of at
  least two groups that are nought is left out, the first one of several,
  and only an address of version 4 in the mapped range keeps its points.
-/
import Failover.Fault

namespace Failover.Net

/-! ## §1. Addresses. -/

/-- A fixed number of bytes. -/
structure Octets (n : Nat) where
  bytes : List UInt8
  length_eq : bytes.length = n
  deriving DecidableEq, Repr

/-- Bytes of which there are as many as asked for. -/
def Octets.ofList? (n : Nat) (bytes : List UInt8) : Option (Octets n) :=
  if h : bytes.length = n then some ⟨bytes, h⟩ else none

/-- A numeric address. -/
inductive IpAddress where
  | v4 (octets : Octets 4)
  | v6 (octets : Octets 16)
  deriving DecidableEq, Repr

/-- The address of version 4 that stands for none. -/
def IpAddress.unspecified : IpAddress := .v4 ⟨[0, 0, 0, 0], rfl⟩

/-! ## §2. Writing. -/

/-- Parts with a mark between each two. -/
def separated (mark : Char) : List (List Char) → List Char
  | [] => []
  | [part] => part
  | part :: rest => part ++ mark :: separated mark rest

/-- Four numbers with points. -/
def dotted (bytes : List UInt8) : List Char :=
  separated '.' (bytes.map fun b => Nat.toDigits 10 b.toNat)

/-- The groups of an address of version 6. -/
def groupsOf : List UInt8 → List Nat
  | a :: b :: rest => (a.toNat * 256 + b.toNat) :: groupsOf rest
  | _ => []

/-- Groups with colons. -/
def coloned (groups : List Nat) : List Char := separated ':' (groups.map (Nat.toDigits 16))

/-- The first of the longest runs of nought: where it begins and how long it is. -/
def longestRun : List Nat → Nat × Nat
  | [] => (0, 0)
  | g :: rest =>
      let here := ((g :: rest).takeWhile (· == 0)).length
      let (start, length) := longestRun rest
      if here = 0 ∨ here < length then (start + 1, length) else (0, here)

/-- The text of an address of version 6. -/
def v6Text (bytes : List UInt8) : List Char :=
  let groups := groupsOf bytes
  if groups.take 6 = [0, 0, 0, 0, 0, 0xFFFF] then
    ':' :: ':' :: 'f' :: 'f' :: 'f' :: 'f' :: ':' :: dotted (bytes.drop 12)
  else
    let (start, length) := longestRun groups
    if 1 < length then
      coloned (groups.take start) ++ ':' :: ':' :: coloned (groups.drop (start + length))
    else coloned groups

/-- The text of an address. -/
def IpAddress.text : IpAddress → String
  | .v4 octets => String.ofList (dotted octets.bytes)
  | .v6 octets => String.ofList (v6Text octets.bytes)

/-! ## §3. Reading. -/

/-- Reading from the front of a text: the value and what is left. -/
abbrev Front (α : Type) : Type := List Char → Option (α × List Char)

/-- One given character. -/
def mark (c : Char) : Front Unit
  | d :: rest => if d = c then some ((), rest) else none
  | [] => none

/-- The value of a digit in a base of at most sixteen. -/
def digitIn (base : Nat) (c : Char) : Option Nat :=
  let v :=
    if c.isDigit then c.toNat - 48
    else if 'a' ≤ c ∧ c ≤ 'f' then c.toNat - 87
    else if 'A' ≤ c ∧ c ≤ 'F' then c.toNat - 55
    else base
  if v < base then some v else none

/-- The number that digits spell. -/
def spelled (base : Nat) (digits : List Char) : Nat :=
  digits.foldl (fun n c => n * base + (digitIn base c).getD 0) 0

/-- A number of at most `most` digits, or of any number of digits, below a limit.  A leading nought
is refused where it is not allowed. -/
def number (base : Nat) (most : Option Nat) (noughts : Bool) (limit : Nat) : Front Nat := fun s =>
  let digits := s.takeWhile fun c => (digitIn base c).isSome
  if digits.isEmpty then none
  else if most.any (· < digits.length) then none
  else if !noughts && digits.head? == some '0' && 1 < digits.length then none
  else
    let n := spelled base digits
    if n < limit then some (n, s.drop digits.length) else none

/-- Four numbers with points. -/
def readV4 : Front (List UInt8) := fun s => do
  let octet := number 10 (some 3) false 256
  let (a, s) ← octet s
  let (_, s) ← mark '.' s
  let (b, s) ← octet s
  let (_, s) ← mark '.' s
  let (c, s) ← octet s
  let (_, s) ← mark '.' s
  let (d, s) ← octet s
  return ([a, b, c, d].map UInt8.ofNat, s)

/-- Read behind a colon, which the first of several parts does not have. -/
def behindColon {α : Type} (first : Bool) (x : Front α) : Front α := fun s =>
  if first then x s
  else do
    let (_, s) ← mark ':' s
    x s

/-- The bytes of up to `room` groups, of which the last two may be an address of version 4. -/
def readGroups : Nat → Bool → List Char → (List UInt8 × Bool) × List Char
  | 0, _, s => (([], false), s)
  | room + 1, first, s =>
      match (if 0 < room then behindColon first readV4 s else none) with
      | some (bytes, rest) => ((bytes, true), rest)
      | none =>
          match behindColon first (number 16 (some 4) true 65536) s with
          | none => (([], false), s)
          | some (g, rest) =>
              let ((more, withV4), rest) := readGroups room false rest
              ((UInt8.ofNat (g / 256) :: UInt8.ofNat g :: more, withV4), rest)

/-- Eight groups, or fewer with `::` among them. -/
def readV6 : Front (List UInt8) := fun s =>
  let ((front, withV4), rest) := readGroups 8 true s
  if front.length = 16 then some (front, rest)
  else if withV4 then none
  else do
    let (_, rest) ← mark ':' rest
    let (_, rest) ← mark ':' rest
    let ((back, _), rest) := readGroups (7 - front.length / 2) true rest
    return (front ++ List.replicate (16 - front.length - back.length) 0 ++ back, rest)

/-- An address of version 4. -/
def frontV4 : Front (Octets 4) := fun s => do
  let (bytes, rest) ← readV4 s
  return (← Octets.ofList? 4 bytes, rest)

/-- An address of version 6. -/
def frontV6 : Front (Octets 16) := fun s => do
  let (bytes, rest) ← readV6 s
  return (← Octets.ofList? 16 bytes, rest)

/-- The value, if it is all of the text. -/
def entire {α : Type} (x : Front α) (s : List Char) : Option α :=
  match x s with
  | some (a, []) => some a
  | _ => none

/-- The address that a text spells. -/
def IpAddress.ofText? (text : String) : Option IpAddress :=
  match entire frontV4 text.toList with
  | some octets => some (.v4 octets)
  | none => (entire frontV6 text.toList).map .v6

end Failover.Net
