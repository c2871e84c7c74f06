/-
  Failover.Json.Text
  ──────────────────
  **Strings between quotation marks.** Writing escapes the quotation mark,
  the backslash and the control characters, and nothing else.  Reading
  takes any of the escapes, joins two escaped surrogates to one character
  and refuses surrogates that stand alone, control characters and bytes
  that are no text.
-/
import Failover.Json.Cursor
import Failover.Text.Utf8

namespace Failover.Json

open Reader

/-! ## §1. Writing. -/

/-- A character as four hexadecimal digits behind a backslash and `u`. -/
def hexEscape (c : Char) : List Char :=
  ['\\', 'u', '0', '0', Nat.digitChar (c.toNat / 16), Nat.digitChar (c.toNat % 16)]

/-- The form of one character between quotation marks. -/
def escaped (c : Char) : List Char :=
  if c = '"' then ['\\', '"']
  else if c = '\\' then ['\\', '\\']
  else if c = '\x08' then ['\\', 'b']
  else if c = '\x0c' then ['\\', 'f']
  else if c = '\n' then ['\\', 'n']
  else if c = '\r' then ['\\', 'r']
  else if c = '\t' then ['\\', 't']
  else if c.toNat < 0x20 then hexEscape c
  else [c]

/-- A text between quotation marks. -/
def quoted (s : List Char) : List Char := '"' :: s.flatMap escaped ++ ['"']

/-! ## §2. Escapes. -/

/-- The character that a letter behind a backslash stands for. -/
def simpleEscape (b : UInt8) : Option UInt8 :=
  if b = byte '"' then some 34
  else if b = byte '\\' then some 92
  else if b = byte '/' then some 47
  else if b = byte 'b' then some 8
  else if b = byte 'f' then some 12
  else if b = byte 'n' then some 10
  else if b = byte 'r' then some 13
  else if b = byte 't' then some 9
  else none

/-- The value of a hexadecimal digit. -/
def hexValue (b : UInt8) : Option Nat :=
  if 48 ≤ b && b ≤ 57 then some (b.toNat - 48)
  else if 97 ≤ b && b ≤ 102 then some (b.toNat - 87)
  else if 65 ≤ b && b ≤ 70 then some (b.toNat - 55)
  else none

/-- The value of four hexadecimal digits. -/
def hexValue4 (a b c d : UInt8) : Option Nat := do
  return (← hexValue a) * 4096 + (← hexValue b) * 256 + (← hexValue c) * 16 + (← hexValue d)

/-- Whether a value is the first half of a pair of surrogates. -/
def isLeading (n : Nat) : Bool := 0xD800 ≤ n && n ≤ 0xDBFF

/-- Whether a value is the second half of a pair of surrogates. -/
def isTrailing (n : Nat) : Bool := 0xDC00 ≤ n && n ≤ 0xDFFF

/-- The bytes of the character with a code point, in reverse. -/
def reversedBytes (n : Nat) : List UInt8 := (Text.Utf8.encodeChar (Char.ofNat n)).reverse

/-- Four digits that end early or are none. -/
def badHex (rest : List UInt8) (p : Place) : EStateM.Result Fault Cursor (List UInt8) :=
  let c := Cursor.drop (min 4 rest.length) ⟨rest, p⟩
  .error ⟨if rest.length < 4 then .eofInString else .invalidEscape, some c.place⟩ c

/-! ## §3. Reading. -/

/-- A place some bytes further on the same line. -/
def Place.right (p : Place) (n : Nat) : Place := ⟨p.line, p.column + n⟩

/-- The bytes of a string, behind its first quotation mark; `acc` holds those read, in reverse. -/
def readBytesFrom (acc : List UInt8) :
    List UInt8 → Place → EStateM.Result Fault Cursor (List UInt8)
  | [], p => .error ⟨.eofInString, some p⟩ ⟨[], p⟩
  | b :: rest, p =>
      if b = byte '"' then .ok acc.reverse ⟨rest, p.right 1⟩
      else if b = byte '\\' then
        match rest with
        | [] => .error ⟨.eofInString, some (p.right 1)⟩ ⟨[], p.right 1⟩
        | e :: rest =>
            match simpleEscape e with
            | some v => readBytesFrom (v :: acc) rest (p.right 2)
            | none =>
                if e = byte 'u' then
                  match rest with
                  | h₁ :: h₂ :: h₃ :: h₄ :: rest =>
                      match hexValue4 h₁ h₂ h₃ h₄ with
                      | none => badHex (h₁ :: h₂ :: h₃ :: h₄ :: rest) (p.right 2)
                      | some n =>
                          if isTrailing n then
                            .error ⟨.loneSurrogate, some (p.right 6)⟩ ⟨rest, p.right 6⟩
                          else if isLeading n then
                            match rest with
                            | [] => .error ⟨.eofInString, some (p.right 6)⟩ ⟨[], p.right 6⟩
                            | b₁ :: rest =>
                                let q := (p.right 6).after b₁
                                if b₁ ≠ byte '\\' then
                                  .error ⟨.unfinishedSurrogate, some q⟩ ⟨rest, q⟩
                                else
                                  match rest with
                                  | [] => .error ⟨.eofInString, some q⟩ ⟨[], q⟩
                                  | b₂ :: rest =>
                                      let q := q.after b₂
                                      if b₂ ≠ byte 'u' then
                                        .error ⟨.unfinishedSurrogate, some q⟩ ⟨rest, q⟩
                                      else
                                        match rest with
                                        | k₁ :: k₂ :: k₃ :: k₄ :: rest =>
                                            match hexValue4 k₁ k₂ k₃ k₄ with
                                            | none => badHex (k₁ :: k₂ :: k₃ :: k₄ :: rest) q
                                            | some m =>
                                                if isTrailing m then
                                                  readBytesFrom
                                                    (reversedBytes
                                                      (0x10000 + (n - 0xD800) * 1024 +
                                                        (m - 0xDC00)) ++ acc)
                                                    rest (q.right 4)
                                                else
                                                  .error ⟨.loneSurrogate, some (q.right 4)⟩
                                                    ⟨rest, q.right 4⟩
                                        | short => badHex short q
                          else readBytesFrom (reversedBytes n ++ acc) rest (p.right 6)
                  | short => badHex short (p.right 2)
                else
                  let q := (p.right 1).after e
                  .error ⟨.invalidEscape, some q⟩ ⟨rest, q⟩
      else if b < 0x20 then
        let q := p.after b
        .error ⟨.controlCharacter, some q⟩ ⟨rest, q⟩
      else readBytesFrom (b :: acc) rest (p.right 1)

/-- The bytes of a string, behind its first quotation mark. -/
def readBytes : Reader (List UInt8) := fun c => readBytesFrom [] c.rest c.place

/-- How many bytes of a string come before the first one that is no text.  An escape is text, so
the string is looked at as it is written. -/
def validBytes (raw : List UInt8) : Nat :=
  match Text.Utf8.decode raw with
  | .ok _ => raw.length
  | .error m => m.validUpTo

/-- A string, behind its first quotation mark.  Bytes that are no text are found when the string
has been read, and told with the place of the first of them. -/
def readText : Reader String := fun c =>
  match readBytes c with
  | .error f c' => .error f c'
  | .ok bytes c' =>
      match Text.Utf8.textOf bytes with
      | .ok s => .ok s c'
      | .error _ =>
          let raw := c.rest.take (c.rest.length - c'.rest.length - 1)
          .error ⟨.invalidCodePoint, some (c.place.right (validBytes raw + 1))⟩ c'

/-! ## §4. Passing over a string. -/

/-- Pass over a string, behind its first quotation mark. -/
def passText : List UInt8 → Place → EStateM.Result Fault Cursor Unit
  | [], p => .error ⟨.eofInString, some p⟩ ⟨[], p⟩
  | b :: rest, p =>
      if b = byte '"' then .ok () ⟨rest, p.right 1⟩
      else if b = byte '\\' then
        match rest with
        | [] => .error ⟨.eofInString, some (p.right 1)⟩ ⟨[], p.right 1⟩
        | e :: rest =>
            if (simpleEscape e).isSome then passText rest (p.right 2)
            else if e = byte 'u' then
              match rest with
              | h₁ :: h₂ :: h₃ :: h₄ :: rest =>
                  match hexValue4 h₁ h₂ h₃ h₄ with
                  | none => dropped (badHex (h₁ :: h₂ :: h₃ :: h₄ :: rest) (p.right 2))
                  | some _ => passText rest (p.right 6)
              | short => dropped (badHex short (p.right 2))
            else
              let q := (p.right 1).after e
              .error ⟨.invalidEscape, some q⟩ ⟨rest, q⟩
      else if b < 0x20 then .error ⟨.controlCharacter, some p⟩ ⟨b :: rest, p⟩
      else passText rest (p.right 1)
where
  /-- The same end without its value. -/
  dropped : EStateM.Result Fault Cursor (List UInt8) → EStateM.Result Fault Cursor Unit
    | .ok _ c => .ok () c
    | .error f c => .error f c

/-- Pass over a string, behind its first quotation mark. -/
def skipText : Reader Unit := fun c => passText c.rest c.place

end Failover.Json
