/-
  Failover.Decimal.Shortest
  ─────────────────────────
  **The shortest decimal that reads back.** A finite positive double is
  m · 2^q; the reals that round to it form an interval around it, whose
  ends belong to it exactly when m is even.  For one digit, two digits and
  so on up to seventeen, the two neighbours of the value on the grid of
  that many significant digits are tested against the interval: the first
  grid with a hit wins, of two hits the nearer one, and of two equally
  near the even one.

  Everything is exact arithmetic on natural numbers.
-/

namespace Failover.Decimal

/-! ## §1. Decimals and binaries. -/

/-- A positive decimal number: `digits · 10 ^ exponent`. -/
structure Number where
  digits : Nat
  exponent : Int
  deriving DecidableEq

/-- A positive binary number with its neighbours: the value is `4 m · 2 ^ (q - 2)`, and the reals
that round to it reach from `low` to `high` in the same unit. -/
structure Binary where
  mantissa : Nat
  exponent : Int
  /-- The neighbour below is only half as far away as the one above. -/
  atPowerOfTwo : Bool

/-- The positive binary number with the given bits, without its sign. -/
def Binary.ofBits (bits : UInt64) : Binary :=
  let field := (bits >>> 52).toNat % 2048
  let fraction := bits.toNat % Nat.pow 2 52
  if field = 0 then ⟨fraction, -1074, false⟩
  else ⟨Nat.pow 2 52 + fraction, (field : Int) - 1075, fraction = 0 && 1 < field⟩

/-! ## §2. The interval of reals that round to a binary number. -/

/-- The interval and the value on one scale: all three are numerators over `den`. -/
structure Interval where
  low : Nat
  value : Nat
  high : Nat
  den : Nat
  closed : Bool

/-- The interval of a binary number. -/
def Binary.interval (b : Binary) : Interval :=
  let scale := Nat.pow 2 (b.exponent - 2).toNat
  { low := (4 * b.mantissa - if b.atPowerOfTwo then 1 else 2) * scale
    value := 4 * b.mantissa * scale
    high := (4 * b.mantissa + 2) * scale
    den := Nat.pow 2 (2 - b.exponent).toNat
    closed := b.mantissa % 2 = 0 }

/-- The same interval over another scale: both sides of every comparison with `c · 10 ^ t` are
multiplied out to natural numbers. -/
def Interval.atScale (i : Interval) (t : Int) : Interval :=
  let up := Nat.pow 10 (-t).toNat
  { i with
    low := i.low * up
    value := i.value * up
    high := i.high * up
    den := i.den * Nat.pow 10 t.toNat }

/-- Whether `c` units of the scale lie in the interval. -/
def Interval.contains (i : Interval) (c : Nat) : Bool :=
  let x := c * i.den
  if i.closed then i.low ≤ x && x ≤ i.high else i.low < x && x < i.high

/-! ## §3. One grid, and all of them. -/

/-- The multiple of the unit `10 ^ t` that is chosen: a neighbour of the value that lies in the
interval, the nearer one if both do, the even one if they are equally near. -/
def Interval.nearest (i : Interval) : Option Nat :=
  let below := i.value / i.den
  let rest := i.value % i.den
  match i.contains below, i.contains (below + 1) with
  | true, false => some below
  | false, true => some (below + 1)
  | false, false => none
  | true, true =>
      if 2 * rest < i.den then some below
      else if i.den < 2 * rest then some (below + 1)
      else if below % 2 = 0 then some below else some (below + 1)

/-- The chosen decimal on the grid of unit `10 ^ t`. -/
def shortestOn (b : Binary) (t : Int) : Option Number :=
  (b.interval.atScale t).nearest.map fun c => ⟨c, t⟩

/-- The exponent of ten of the first digit: the greatest power of ten that is not above the value. -/
def leading (i : Interval) : Int :=
  if i.den ≤ i.value then ((Nat.toDigits 10 (i.value / i.den)).length : Int) - 1
  else below 400 1
where
  /-- Count the places behind the point before the first digit. -/
  below : Nat → Nat → Int
    | 0, n => -(n : Int)
    | fuel + 1, n => if i.den ≤ i.value * Nat.pow 10 n then -(n : Int) else below fuel (n + 1)

/-- Try the grids of `n`, `n + 1`, … digits; `first` is the exponent of the first digit. -/
def search (b : Binary) (first : Int) : Nat → Nat → Number
  | 0, n => ⟨(b.interval.atScale (first + 1 - n)).value / (b.interval.atScale (first + 1 - n)).den,
      first + 1 - n⟩
  | fuel + 1, n =>
      match shortestOn b (first + 1 - n) with
      | some d => d
      | none => search b first fuel (n + 1)

/-- Drop final zeros of the digits. -/
def trimZeros : Nat → Number → Number
  | 0, d => d
  | fuel + 1, d =>
      if d.digits % 10 = 0 ∧ d.digits ≠ 0 then trimZeros fuel ⟨d.digits / 10, d.exponent + 1⟩ else d

/-- The shortest decimal that reads back as the binary number. -/
def shortest (b : Binary) : Number :=
  trimZeros 20 (search b (leading b.interval) 17 1)

end Failover.Decimal
