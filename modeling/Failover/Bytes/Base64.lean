/-
  Failover.Bytes.Base64
  ─────────────────────
  **Bytes as text in the URL-safe alphabet.** Three bytes are four
  symbols; a last group of one or two bytes is two or three symbols, and
  the padded form fills it up with `=`.

  Reading is strict: it takes the padded form only, and of that only the
  one text that writing produces.  What it refuses it refuses with the
  first reason of this list that applies:

    1. the length leaves one symbol over;
    2. a byte is out of place — no symbol, or padding before the end;
    3. the padding is not exactly what the symbols ask for;
    4. the last symbol carries bits that no byte needs.
-/

namespace Failover.Bytes.Base64

/-! ## §1. Symbols. -/

/-- The symbol of a six-bit value. -/
def symbol (v : Nat) : Char :=
  if v < 26 then Char.ofNat (65 + v)
  else if v < 52 then Char.ofNat (71 + v)
  else if v < 62 then Char.ofNat (v - 4)
  else if v = 62 then '-'
  else '_'

/-- The six-bit value of a symbol byte. -/
def value? (b : UInt8) : Option Nat :=
  let n := b.toNat
  if 65 ≤ n ∧ n ≤ 90 then some (n - 65)
  else if 97 ≤ n ∧ n ≤ 122 then some (n - 71)
  else if 48 ≤ n ∧ n ≤ 57 then some (n + 4)
  else if n = 45 then some 62
  else if n = 95 then some 63
  else none

/-- The byte of a symbol. -/
def symbolByte (v : Nat) : UInt8 := UInt8.ofNat (symbol v).toNat

/-- The byte of the padding character. -/
def padByte : UInt8 := 61

/-- Whether a byte is one of the 64 symbols. -/
def isSymbol (b : UInt8) : Bool := (value? b).isSome

/-! ## §2. Writing. -/

/-- Group bytes by three and write each group; `padding` fills up the last one. -/
def encodeWith (padding : Bool) : List UInt8 → List Char
  | a :: b :: c :: rest =>
      let n := a.toNat * 65536 + b.toNat * 256 + c.toNat
      symbol (n / 262144) :: symbol (n / 4096 % 64) :: symbol (n / 64 % 64) :: symbol (n % 64) ::
        encodeWith padding rest
  | [a, b] =>
      let n := a.toNat * 1024 + b.toNat * 4
      symbol (n / 4096) :: symbol (n / 64 % 64) :: symbol (n % 64) ::
        if padding then ['='] else []
  | [a] =>
      let n := a.toNat * 16
      symbol (n / 64) :: symbol (n % 64) :: if padding then ['=', '='] else []
  | [] => []

/-- The padded form. -/
def encode (bytes : List UInt8) : List Char := encodeWith true bytes

/-- The form without padding. -/
def encodeBare (bytes : List UInt8) : List Char := encodeWith false bytes

/-! ## §3. Reading. -/

/-- Why a text is not the padded form of any bytes. -/
inductive Fault where
  | invalidByte (offset : Nat) (byte : UInt8)
  | invalidLength
  | invalidPadding
  | invalidLastSymbol (offset : Nat) (byte : UInt8)
  deriving DecidableEq

/-- The wording of a refusal. -/
def Fault.message : Fault → String
  | .invalidByte offset byte =>
      "Invalid byte " ++ toString byte.toNat ++ ", offset " ++ toString offset ++ "."
  | .invalidLength => "Encoded text cannot have a 6-bit remainder."
  | .invalidPadding => "Invalid padding"
  | .invalidLastSymbol offset byte =>
      "Invalid last symbol " ++ toString byte.toNat ++ ", offset " ++ toString offset ++ "."

/-- The bytes that six-bit values spell; values left over in the last group are dropped. -/
def ungroup : List Nat → List UInt8
  | p :: q :: r :: s :: rest =>
      let n := p * 262144 + q * 4096 + r * 64 + s
      UInt8.ofNat (n / 65536) :: UInt8.ofNat (n / 256) :: UInt8.ofNat n :: ungroup rest
  | [p, q, r] =>
      let n := p * 4096 + q * 64 + r
      [UInt8.ofNat (n / 1024), UInt8.ofNat (n / 4)]
  | [p, q] => [UInt8.ofNat ((p * 64 + q) / 16)]
  | _ => []

/-- How many bits of the last symbol no byte needs, as the number they may not reach. -/
def slack (symbols : Nat) : Nat :=
  if symbols % 4 = 2 then 16 else if symbols % 4 = 3 then 4 else 1

/-- Whether `rest`, which follows `symbols` symbols, is padding that ends the text. -/
def isPadding (symbols : Nat) (rest : List UInt8) : Bool :=
  rest.isEmpty ||
    (2 ≤ symbols % 4 && rest.all (· == padByte) && rest.length + symbols % 4 ≤ 4)

/-- Refuse a text whose length leaves one symbol over; a stray last byte is named instead. -/
def checkLength (s : List UInt8) : Except Fault Unit :=
  if s.length % 4 = 1 then
    match s.getLast? with
    | some b =>
        if b ≠ padByte ∧ isSymbol b = false then .error (.invalidByte (s.length - 1) b)
        else .error .invalidLength
    | none => .error .invalidLength
  else .ok ()

/-- Refuse symbols whose last one carries bits that no byte needs. -/
def checkLast (symbols : List UInt8) : Except Fault Unit :=
  match symbols.getLast? with
  | some b =>
      if (value? b).getD 0 % slack symbols.length ≠ 0 then
        .error (.invalidLastSymbol (symbols.length - 1) b)
      else .ok ()
  | none => .ok ()

/-- The bytes whose padded form the text is. -/
def decode (s : List UInt8) : Except Fault (List UInt8) := do
  checkLength s
  let symbols := s.takeWhile isSymbol
  let rest := s.drop symbols.length
  if !isPadding symbols.length rest then
    throw (.invalidByte symbols.length (rest.headD 0))
  if s.length % 4 ≠ 0 then
    throw .invalidPadding
  checkLast symbols
  return ungroup (symbols.filterMap value?)

end Failover.Bytes.Base64
