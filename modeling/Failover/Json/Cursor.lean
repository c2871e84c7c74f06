/-
  Failover.Json.Cursor
  ────────────────────
  **Reading a text byte by byte.** A cursor holds the bytes that are left
  and the place of the bytes that were read.  A `Reader` moves a cursor; a
  reader that fails leaves it where reading stopped, so a fault that has
  no place yet can be given that one.

  A fault is about the bytes read so far (`fail`), about the byte that
  comes next (`failPeek`), or about the shape of the document, with the
  place still open (`raise`).
-/
import Failover.Json.Fault

namespace Failover.Json

/-! ## §1. Cursors. -/

/-- The bytes that are left, and the place where they begin. -/
structure Cursor where
  rest : List UInt8
  place : Place
  deriving DecidableEq

/-- A cursor at the beginning of a text. -/
def Cursor.start (bytes : List UInt8) : Cursor := ⟨bytes, ⟨1, 0⟩⟩

/-- The place behind a byte. -/
def Place.after (p : Place) (b : UInt8) : Place :=
  if b = 10 then ⟨p.line + 1, 0⟩ else ⟨p.line, p.column + 1⟩

/-- The cursor behind the next byte. -/
def Cursor.advance (c : Cursor) : Cursor :=
  match c.rest with
  | [] => c
  | b :: rest => ⟨rest, c.place.after b⟩

/-- The place behind the next byte, or the end. -/
def Cursor.peekPlace (c : Cursor) : Place := c.advance.place

/-- Pass over the bytes of a kind. -/
def Cursor.dropWhile (p : UInt8 → Bool) (c : Cursor) : Cursor :=
  go c.rest c.place
where
  go : List UInt8 → Place → Cursor
    | [], place => ⟨[], place⟩
    | b :: rest, place => if p b then go rest (place.after b) else ⟨b :: rest, place⟩

/-- Pass over `n` bytes. -/
def Cursor.drop : Nat → Cursor → Cursor
  | 0, c => c
  | n + 1, c => drop n c.advance

/-! ## §2. Readers. -/

/-- A part of a text that is read from a cursor. -/
abbrev Reader (α : Type) : Type := EStateM Fault Cursor α

namespace Reader

variable {α : Type}

/-- Fail because of the bytes read so far. -/
def fail (cause : Cause) : Reader α := fun c => .error ⟨cause, some c.place⟩ c

/-- Fail because of the byte that comes next. -/
def failPeek (cause : Cause) : Reader α := fun c => .error ⟨cause, some c.peekPlace⟩ c

/-- Fail because the document has another shape; the place is not known yet. -/
def raise (cause : Cause) : Reader α := fun c => .error ⟨cause, none⟩ c

/-- A fault without a place is about the place where the reader stopped. -/
def placed (x : Reader α) : Reader α := fun c =>
  match x c with
  | .error f c' => .error (f.placedAt c'.place) c'
  | r => r

/-- A reader followed by another one, which is run even if the first fails; the first fault counts. -/
def closing (x : Reader α) (finish : Reader Unit) : Reader α := fun c =>
  match x c with
  | .ok a c' =>
      match finish c' with
      | .ok () c'' => .ok a c''
      | .error f c'' => .error f c''
  | .error f c' =>
      match finish c' with
      | .ok () c'' => .error f c''
      | .error _ c'' => .error f c''

/-- The byte that comes next. -/
def peek : Reader (Option UInt8) := fun c => .ok c.rest.head? c

/-- Read one byte. -/
def next : Reader (Option UInt8) := fun c => .ok c.rest.head? c.advance

/-- Pass over one byte. -/
def skip : Reader Unit := fun c => .ok () c.advance

/-- Pass over `n` bytes. -/
def skipMany (n : Nat) : Reader Unit := fun c => .ok () (c.drop n)

/-- The bytes of a kind that come next. -/
def upcoming (p : UInt8 → Bool) : Reader (List UInt8) := fun c => .ok (c.rest.takeWhile p) c

/-- The number of bytes that are left. -/
def left : Reader Nat := fun c => .ok c.rest.length c

/-- Blanks between the parts of a document. -/
def isBlank (b : UInt8) : Bool := b == 32 || b == 10 || b == 9 || b == 13

/-- Pass over blanks; the byte that comes next. -/
def afterBlanks : Reader (Option UInt8) := fun c =>
  let c' := c.dropWhile isBlank
  .ok c'.rest.head? c'

/-- The byte of an ASCII character. -/
def byte (c : Char) : UInt8 := UInt8.ofNat c.toNat

/-- Whether a byte is a decimal digit. -/
def isDigit (b : UInt8) : Bool := 48 ≤ b && b ≤ 57

/-- Read the rest of a word, byte by byte. -/
def word : List Char → Reader Unit
  | [] => pure ()
  | c :: rest => do
      match ← next with
      | none => fail .eofInValue
      | some b => if b = byte c then word rest else fail .expectedIdent

/-- The whole text, which may have nothing but blanks behind the value. -/
def whole (x : Reader α) (bytes : List UInt8) : Except Fault α :=
  let all : Reader α := do
    let a ← x
    match ← afterBlanks with
    | some _ => failPeek .trailingCharacters
    | none => pure a
  match all (.start bytes) with
  | .ok a _ => .ok a
  | .error f _ => .error f

end Reader

end Failover.Json
