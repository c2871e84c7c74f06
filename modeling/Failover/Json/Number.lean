/-
  Failover.Json.Number
  ────────────────────
  **Numbers.** A number without a point and an exponent is a whole number
  as long as it fits 64 bits; every other one is a double.  A double is
  read in two steps, each of them rounded: its digits as a whole number,
  as many of them as fit 64 bits, and then a scaling by a power of ten.

  A double is written with the fewest digits that read back, positionally
  from 10⁻⁵ up to 10¹⁶ and with an exponent of at least two digits
  otherwise.
-/
import Failover.Json.Cursor
import Failover.Decimal.Double
import Failover.Decimal.Shortest

namespace Failover.Json

open Reader Decimal

/-! ## §1. Numbers. -/

/-- A number: one of the natural numbers, a negative whole number, or any other. -/
inductive Number where
  | natural (n : Nat)
  | negative (n : Nat)
  | double (x : Double)
  deriving DecidableEq

/-- The number as a double. -/
def Number.toDouble : Number → Double
  | .natural n => .ofNat n
  | .negative n => (Double.ofNat n).negate
  | .double x => x

/-! ## §2. Writing. -/

/-- The layout of a decimal with the digits `ds` and the exponent `e` of its first digit. -/
def layout (ds : List Char) (e : Int) : List Char :=
  if -5 ≤ e ∧ e ≤ 15 then
    if e < 0 then '0' :: '.' :: List.replicate (-e - 1).toNat '0' ++ ds
    else
      let whole := e.toNat + 1
      let padded := ds ++ List.replicate (whole - ds.length) '0'
      let fraction := ds.drop whole
      padded.take whole ++ '.' :: (if fraction.isEmpty then ['0'] else fraction)
  else
    let mantissa := match ds with
      | [d] => [d]
      | d :: more => d :: '.' :: more
      | [] => []
    let digits := Nat.toDigits 10 e.natAbs
    mantissa ++ 'e' :: (if e < 0 then '-' else '+') ::
      (List.replicate (2 - digits.length) '0' ++ digits)

/-- The text of a double. -/
def doubleText (x : Double) : String :=
  let body :=
    if x.isZero then ['0', '.', '0']
    else
      let d := shortest (.ofBits (x.bits &&& 0x7FFFFFFFFFFFFFFF))
      let ds := Nat.toDigits 10 d.digits
      layout ds (d.exponent + ds.length - 1)
  String.ofList (if x.isNegative then '-' :: body else body)

/-- How a number is named where another thing was expected. -/
def Number.found : Number → Found
  | .natural n => .integer (toString n)
  | .negative n => .integer ("-" ++ toString n)
  | .double x => .floating (doubleText x)

/-! ## §3. Digits. -/

/-- The value of a digit. -/
def digitValue (b : UInt8) : Nat := b.toNat - 48

/-- Append digits to a number as long as it does not exceed a limit; the digits that are left. -/
def absorb (limit : Nat) : Nat → List UInt8 → Nat × List UInt8
  | n, [] => (n, [])
  | n, b :: rest =>
      if n * 10 + digitValue b ≤ limit then absorb limit (n * 10 + digitValue b) rest
      else (n, b :: rest)

/-- The greatest whole number. -/
def maxWhole : Nat := UInt64.size - 1

/-- The greatest exponent that is read digit by digit. -/
def maxExponent : Nat := Nat.pow 2 31 - 1

/-- Scale a double by a power of ten. A step of more than 308 places is divided; four of them
bring any number to nought. -/
def scale : Nat → Double → Int → Reader Double
  | 0, x, _ => pure x
  | steps + 1, x, e =>
      if e.natAbs ≤ 308 then
        if 0 ≤ e then
          let y := x.mul (.tenPow e.toNat)
          if y.isInfinite then fail .numberOutOfRange else pure y
        else pure (x.div (.tenPow (-e).toNat))
      else if x.isZero then pure x
      else if 0 ≤ e then fail .numberOutOfRange
      else scale steps (x.div (.tenPow 308)) (e + 308)

/-- The double with a sign, digits and a power of ten. -/
def assembled (positive : Bool) (digits : Nat) (e : Int) : Reader Number := do
  let x ← scale 5 (.ofNat digits) e
  return .double (if positive then x else x.negate)

/-! ## §4. Reading. -/

/-- The exponent, behind its mark. -/
def readExponent (positive : Bool) (digits : Nat) (e : Int) : Reader Number := do
  let up ← do
    match ← peek with
    | some b => if b = byte '+' then skip; pure true else if b = byte '-' then skip; pure false
                else pure true
    | none => pure true
  match ← next with
  | none => fail .eofInValue
  | some first =>
      if !isDigit first then fail .invalidNumber
      else
        let more ← upcoming isDigit
        let (n, left) := absorb maxExponent (digitValue first) more
        if left.isEmpty then
          skipMany more.length
          assembled positive digits (if up then e + n else e - n)
        else
          skipMany (more.length - left.length + 1)
          if digits ≠ 0 ∧ up = true then fail .numberOutOfRange
          else
            skipMany (left.length - 1)
            return .double (if positive then .zero else Double.zero.negate)

/-- What may follow the digits of a double: an exponent. -/
def readScale (positive : Bool) (digits : Nat) (e : Int) : Reader Number := do
  match ← peek with
  | some b =>
      if b = byte 'e' ∨ b = byte 'E' then
        skip
        readExponent positive digits e
      else assembled positive digits e
  | none => assembled positive digits e

/-- The digits behind the point. -/
def readFraction (positive : Bool) (digits : Nat) (e : Int) : Reader Number := do
  let more ← upcoming isDigit
  if more.isEmpty then
    match ← peek with
    | some _ => failPeek .invalidNumber
    | none => failPeek .eofInValue
  else
    skipMany more.length
    let (n, left) := absorb maxWhole digits more
    readScale positive n (e - (more.length - left.length : Nat))

/-- What may follow the digits before the point, of which `dropped` did not fit. -/
def readTail (positive : Bool) (digits dropped : Nat) : Reader Number := do
  match ← peek with
  | some b =>
      if b = byte '.' then
        skip
        readFraction positive digits dropped
      else if b = byte 'e' ∨ b = byte 'E' then
        skip
        readExponent positive digits dropped
      else plain
  | none => plain
where
  /-- A number without a point and an exponent. -/
  plain : Reader Number :=
    if dropped ≠ 0 then assembled positive digits dropped
    else if positive then pure (.natural digits)
    else if 0 < digits ∧ digits ≤ Nat.pow 2 63 then pure (.negative digits)
    else pure (.double (Double.ofNat digits).negate)

/-- A number, behind its minus sign. -/
def readNumber (positive : Bool) : Reader Number := do
  match ← next with
  | none => fail .eofInValue
  | some first =>
      if first = byte '0' then
        match ← peek with
        | some b => if isDigit b then failPeek .invalidNumber else readTail positive 0 0
        | none => readTail positive 0 0
      else if isDigit first then
        let more ← upcoming isDigit
        skipMany more.length
        let (n, left) := absorb maxWhole (digitValue first) more
        readTail positive n left.length
      else fail .invalidNumber

/-! ## §5. Passing over a number. -/

/-- Pass over an exponent, behind its mark. -/
def skipExponent : Reader Unit := do
  match ← peek with
  | some b => if b = byte '+' ∨ b = byte '-' then skip
  | none => pure ()
  match ← next with
  | some b =>
      if isDigit b then skipMany (← upcoming isDigit).length else fail .invalidNumber
  | none => fail .invalidNumber

/-- Pass over an exponent, if there is one. -/
def skipScale : Reader Unit := do
  match ← peek with
  | some b =>
      if b = byte 'e' ∨ b = byte 'E' then
        skip
        skipExponent
  | none => pure ()

/-- Pass over a number, behind its minus sign. -/
def skipNumber : Reader Unit := do
  match ← next with
  | none => fail .invalidNumber
  | some first =>
      if first = byte '0' then
        match ← peek with
        | some b => if isDigit b then failPeek .invalidNumber
        | none => pure ()
      else if isDigit first then skipMany (← upcoming isDigit).length
      else fail .invalidNumber
  match ← peek with
  | some b =>
      if b = byte '.' then
        skip
        let more ← upcoming isDigit
        if more.isEmpty then failPeek .invalidNumber
        else
          skipMany more.length
          skipScale
      else skipScale
  | none => pure ()

end Failover.Json
