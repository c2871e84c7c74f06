/-
  Failover.Decimal.Double
  ───────────────────────
  **Double precision numbers, by their bits.** A quotient of natural
  numbers is rounded to the nearest double, ties to the even one; products
  and quotients of doubles are the exact ones, rounded.  All of it is
  arithmetic on natural numbers.
-/

namespace Failover.Decimal

/-- A double precision number. -/
structure Double where
  bits : UInt64
  deriving DecidableEq, Repr

/-! ## §1. Rounding. -/

/-- The whole number nearest to a quotient; of two equally near the even one. -/
def roundQuotient (num den : Nat) : Nat :=
  let q := num / den
  let twice := 2 * (num % den)
  if den < twice ∨ (twice = den ∧ q % 2 = 1) then q + 1 else q

namespace Double

/-- The greatest `e` with `2 ^ e ≤ num / den`, both of them positive. -/
def floorLog (num den : Nat) : Int :=
  let e : Int := (num.log2 : Int) - den.log2
  if num * Nat.pow 2 (-e).toNat < den * Nat.pow 2 e.toNat then e - 1 else e

/-- Plus nought. -/
def zero : Double := ⟨0⟩

/-- Plus infinity. -/
def infinity : Double := ⟨0x7FF0000000000000⟩

/-- Assemble a positive double from a mantissa of at most 53 bits and a power of two. -/
def assemble (m : Nat) (q : Int) : Double :=
  let (m, q) := if m = Nat.pow 2 53 then (Nat.pow 2 52, q + 1) else (m, q)
  if 971 < q then infinity
  else if m < Nat.pow 2 52 then ⟨UInt64.ofNat m⟩
  else ⟨UInt64.ofNat ((q + 1075).toNat * Nat.pow 2 52 + (m - Nat.pow 2 52))⟩

/-- The double nearest to a quotient. -/
def ofQuotient (num den : Nat) : Double :=
  if num = 0 then zero
  else
    let q := max (floorLog num den - 52) (-1074)
    assemble (roundQuotient (num * Nat.pow 2 (-q).toNat) (den * Nat.pow 2 q.toNat)) q

/-- The double nearest to a natural number. -/
def ofNat (n : Nat) : Double := ofQuotient n 1

/-! ## §2. Parts. -/

/-- Whether the number has a minus sign. -/
def isNegative (x : Double) : Bool := x.bits >>> 63 == 1

/-- Whether the number is infinite. -/
def isInfinite (x : Double) : Bool := (x.bits <<< 1) == 0xFFE0000000000000

/-- Whether the number is nought of either sign. -/
def isZero (x : Double) : Bool := (x.bits <<< 1) == 0

/-- The number with the other sign. -/
def negate (x : Double) : Double := ⟨x.bits ^^^ 0x8000000000000000⟩

/-- The finite positive number as a quotient of natural numbers. -/
def quotient (x : Double) : Nat × Nat :=
  let field := (x.bits >>> 52).toNat % 2048
  let fraction := x.bits.toNat % Nat.pow 2 52
  if field = 0 then (fraction, Nat.pow 2 1074)
  else
    let q : Int := (field : Int) - 1075
    ((Nat.pow 2 52 + fraction) * Nat.pow 2 q.toNat, Nat.pow 2 (-q).toNat)

/-! ## §3. Scaling. -/

/-- The product of two finite positive numbers. -/
def mul (x y : Double) : Double :=
  let (a, b) := x.quotient
  let (c, d) := y.quotient
  ofQuotient (a * c) (b * d)

/-- The quotient of two finite positive numbers, of which the second is not nought. -/
def div (x y : Double) : Double :=
  let (a, b) := x.quotient
  let (c, d) := y.quotient
  ofQuotient (a * d) (b * c)

/-- A power of ten, rounded. -/
def tenPow (n : Nat) : Double := ofNat (Nat.pow 10 n)

end Double

end Failover.Decimal
