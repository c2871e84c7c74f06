/-
  Failover.Json.Fault
  ───────────────────
  **Why a text is not the expected document.** A fault is a cause and,
  once it is known, the place where reading stopped: a line and a column,
  counted in bytes.  Causes of the first kind are breaches of the grammar,
  those of the second kind a document of the wrong shape.  The shape
  causes are raised without a place; the reader that was asked for the
  value puts its own place in (`Fault.placedAt`).
-/
import Failover.Text.Quoted

namespace Failover.Json

/-- A place in the text: lines count from one, columns are the bytes read of the line. -/
structure Place where
  line : Nat
  column : Nat
  deriving DecidableEq

/-- What was found where something else was expected. -/
inductive Found where
  | null
  | boolean (b : Bool)
  | integer (text : String)
  | floating (text : String)
  | string (s : String)
  | sequence
  | map
  deriving DecidableEq

/-- The wording of what was found. -/
def Found.message : Found → String
  | .null => "null"
  | .boolean b => "boolean `" ++ (if b then "true" else "false") ++ "`"
  | .integer text => "integer `" ++ text ++ "`"
  | .floating text => "floating point `" ++ text ++ "`"
  | .string s => "string " ++ Text.quote s
  | .sequence => "sequence"
  | .map => "map"

/-- Everything that can be wrong with a text. -/
inductive Cause where
  | eofInList
  | eofInObject
  | eofInString
  | eofInValue
  | expectedColon
  | expectedListCommaOrEnd
  | expectedObjectCommaOrEnd
  | expectedIdent
  | expectedValue
  | invalidEscape
  | invalidNumber
  | numberOutOfRange
  | invalidCodePoint
  | controlCharacter
  | keyNotString
  | loneSurrogate
  | trailingComma
  | trailingCharacters
  | unfinishedSurrogate
  | invalidType (found : Found) (expected : String)
  | invalidValue (found : Found) (expected : String)
  | invalidLength (length : Nat) (expected : String)
  | missingField (name : String)
  | duplicateField (name : String)
  deriving DecidableEq

/-- The wording of a cause. -/
def Cause.message : Cause → String
  | .eofInList => "EOF while parsing a list"
  | .eofInObject => "EOF while parsing an object"
  | .eofInString => "EOF while parsing a string"
  | .eofInValue => "EOF while parsing a value"
  | .expectedColon => "expected `:`"
  | .expectedListCommaOrEnd => "expected `,` or `]`"
  | .expectedObjectCommaOrEnd => "expected `,` or `\x7d`"
  | .expectedIdent => "expected ident"
  | .expectedValue => "expected value"
  | .invalidEscape => "invalid escape"
  | .invalidNumber => "invalid number"
  | .numberOutOfRange => "number out of range"
  | .invalidCodePoint => "invalid unicode code point"
  | .controlCharacter => "control character (\\u0000-\\u001F) found while parsing a string"
  | .keyNotString => "key must be a string"
  | .loneSurrogate => "lone leading surrogate in hex escape"
  | .trailingComma => "trailing comma"
  | .trailingCharacters => "trailing characters"
  | .unfinishedSurrogate => "unexpected end of hex escape"
  | .invalidType found expected =>
      "invalid type: " ++ found.message ++ ", expected " ++ expected
  | .invalidValue found expected =>
      "invalid value: " ++ found.message ++ ", expected " ++ expected
  | .invalidLength length expected =>
      "invalid length " ++ toString length ++ ", expected " ++ expected
  | .missingField name => "missing field `" ++ name ++ "`"
  | .duplicateField name => "duplicate field `" ++ name ++ "`"

/-- A cause, with the place where reading stopped once it is known. -/
structure Fault where
  cause : Cause
  place : Option Place
  deriving DecidableEq

/-- The wording of a fault. -/
def Fault.message (f : Fault) : String :=
  match f.place with
  | some p =>
      f.cause.message ++ " at line " ++ toString p.line ++ " column " ++ toString p.column
  | none => f.cause.message

/-- The fault with a place: its own if it has one, else the given one. -/
def Fault.placedAt (f : Fault) (p : Place) : Fault := { f with place := some (f.place.getD p) }

@[simp] theorem Fault.cause_placedAt (f : Fault) (p : Place) : (f.placedAt p).cause = f.cause := rfl

/-- The first place given to a fault stays. -/
theorem Fault.placedAt_placedAt (f : Fault) (p q : Place) :
    (f.placedAt p).placedAt q = f.placedAt p := rfl

end Failover.Json
