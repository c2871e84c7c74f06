/-
  Failover.Json.Record
  ────────────────────
  **Records as documents.** A record is read from an object, whose members
  may come in any order and of which unknown ones are passed over, or from
  a list of its values in the order of the fields.  It is written as an
  object without blanks, all fields in their order.
-/
import Failover.Json.Skip
import Failover.Record

namespace Failover.Json

open Reader

/-! ## §1. Writing. -/

/-- Parts with a comma between each two. -/
def commaSeparated : List (List Char) → List Char
  | [] => []
  | [part] => part
  | part :: rest => part ++ ',' :: commaSeparated rest

/-- A value as a document. -/
def writeScalar : (t : Scalar) → t.Value → List Char
  | .text, s => quoted s.toList
  | .flag, b => if b then ['t', 'r', 'u', 'e'] else ['f', 'a', 'l', 's', 'e']
  | .natural, n => Nat.toDigits 10 n
  | .double, x => (doubleText x).toList
  | .texts, l => '[' :: commaSeparated (l.map fun s => quoted s.toList) ++ [']']
  | .path, s => maybe s
  | .maybeText, s => maybe s
where
  /-- A text that may be missing. -/
  maybe : Option String → List Char
    | some s => quoted s.toList
    | none => ['n', 'u', 'l', 'l']

/-- The members of an object. -/
def writeMembers : (fields : List Field) → Values fields → List (List Char)
  | [], _ => []
  | f :: rest, (v, vs) =>
      (quoted f.name.toList ++ ':' :: writeScalar f.type v) :: writeMembers rest vs

/-- Values as an object. -/
def writeRecord (fields : List Field) (vs : Values fields) : List Char :=
  '\x7b' :: commaSeparated (writeMembers fields vs) ++ ['\x7d']

/-! ## §2. Reading values. -/

/-- Read a value that is not of the expected type, and fail with what it is. -/
def mismatch {α : Type} (expected : String) : Reader α := placed do
  match ← peek with
  | none => failPeek .expectedValue
  | some b =>
      if b = byte 'n' then
        skip
        word ['u', 'l', 'l']
        raise (.invalidType .null expected)
      else if b = byte 't' then
        skip
        word ['r', 'u', 'e']
        raise (.invalidType (.boolean true) expected)
      else if b = byte 'f' then
        skip
        word ['a', 'l', 's', 'e']
        raise (.invalidType (.boolean false) expected)
      else if b = byte '-' then
        skip
        let n ← readNumber false
        raise (.invalidType n.found expected)
      else if isDigit b then
        let n ← readNumber true
        raise (.invalidType n.found expected)
      else if b = byte '"' then
        skip
        let s ← readText
        raise (.invalidType (.string s) expected)
      else if b = byte '[' then raise (.invalidType .sequence expected)
      else if b = byte '\x7b' then raise (.invalidType .map expected)
      else failPeek .expectedValue

/-- The first byte of a value. -/
def firstByte : Reader UInt8 := do
  match ← afterBlanks with
  | some b => pure b
  | none => failPeek .eofInValue

/-- A string. -/
def readString (expected : String) : Reader String := placed do
  if (← firstByte) = byte '"' then
    skip
    readText
  else mismatch expected

/-- A number, if the value is one. -/
def readNumeric (expected : String) : Reader Number := do
  let b ← firstByte
  if b = byte '-' then
    skip
    readNumber false
  else if isDigit b then readNumber true
  else mismatch expected

/-- A natural number. -/
def readNatural : Reader Nat := placed do
  match ← readNumeric "u64" with
  | .natural n => pure n
  | .negative n => raise (.invalidValue (Number.negative n).found "u64")
  | .double x => raise (.invalidType (Number.double x).found "u64")

/-- A number of any kind, as a double. -/
def readDouble : Reader Decimal.Double := placed do return (← readNumeric "f64").toDouble

/-- A truth value. -/
def readFlag : Reader Bool := placed do
  let b ← firstByte
  if b = byte 't' then
    skip
    word ['r', 'u', 'e']
    pure true
  else if b = byte 'f' then
    skip
    word ['a', 'l', 's', 'e']
    pure false
  else mismatch "a boolean"

/-- A value that may be null. -/
def readMaybe {α : Type} (x : Reader α) : Reader (Option α) := do
  if (← afterBlanks) = some (byte 'n') then
    skip
    word ['u', 'l', 'l']
    pure none
  else return some (← x)

/-! ## §3. Lists. -/

/-- Whether another element follows; `first` says that there was none yet. -/
def hasElement (first : Bool) : Reader Bool := do
  match ← afterBlanks with
  | none => failPeek .eofInList
  | some b =>
      if b = byte ']' then pure false
      else if first then pure true
      else if b = byte ',' then
        skip
        match ← afterBlanks with
        | none => failPeek .eofInValue
        | some b => if b = byte ']' then failPeek .trailingComma else pure true
      else failPeek .expectedListCommaOrEnd

/-- The end of a list. -/
def endList : Reader Unit := do
  match ← afterBlanks with
  | none => failPeek .eofInList
  | some b =>
      if b = byte ']' then skip
      else if b = byte ',' then
        skip
        if (← afterBlanks) = some (byte ']') then failPeek .trailingComma
        else failPeek .trailingCharacters
      else failPeek .trailingCharacters

/-- The strings of a list, up to its end.  Each round reads a byte. -/
def readStrings : Nat → Bool → List String → Reader (List String)
  | 0, _, _ => fail .eofInList
  | fuel + 1, first, acc => do
      if ← hasElement first then readStrings fuel false ((← readString "a string") :: acc)
      else pure acc.reverse

/-- A list of strings. -/
def readList : Reader (List String) := placed do
  if (← firstByte) = byte '[' then
    skip
    closing (do readStrings ((← left) + 1) true []) endList
  else mismatch "a sequence"

/-- A value of a field. -/
def readScalar : (t : Scalar) → Reader t.Value
  | .text => readString "a string"
  | .flag => readFlag
  | .natural => readNatural
  | .double => readDouble
  | .texts => readList
  | .path => readMaybe (readString "path string")
  | .maybeText => readMaybe (readString "a string")

/-! ## §4. Objects. -/

/-- Whether another member follows; `first` says that there was none yet. -/
def hasMember (first : Bool) : Reader Bool := do
  match ← afterBlanks with
  | none => failPeek .eofInObject
  | some b =>
      if b = byte '\x7d' then pure false
      else if b = byte ',' ∧ first = false then
        skip
        match ← afterBlanks with
        | none => failPeek .eofInValue
        | some b =>
            if b = byte '"' then pure true
            else if b = byte '\x7d' then failPeek .trailingComma
            else failPeek .keyNotString
      else if first then
        if b = byte '"' then pure true else failPeek .keyNotString
      else failPeek .expectedObjectCommaOrEnd

/-- The end of an object. -/
def endObject : Reader Unit := do
  match ← afterBlanks with
  | none => failPeek .eofInObject
  | some b =>
      if b = byte '\x7d' then skip
      else if b = byte ',' then failPeek .trailingComma
      else failPeek .trailingCharacters

/-- The colon between a name and its value. -/
def colon : Reader Unit := do
  match ← afterBlanks with
  | none => failPeek .eofInObject
  | some b => if b = byte ':' then skip else failPeek .expectedColon

/-- Read the value of a member into its slot, which has to be empty; nothing if no field answers
to the name. -/
def readInto : (fields : List Field) → String → Draft fields → Option (Reader (Draft fields))
  | [], _, _ => none
  | f :: rest, name, (slot, more) =>
      if f.answers name then
        some (if slot.isSome then raise (.duplicateField f.name)
          else do
            colon
            return (some (← readScalar f.type), more))
      else (readInto rest name more).map fun x => do return (slot, ← x)

/-- The members of an object, up to its end.  Each round reads a byte. -/
def readMembers (fields : List Field) : Nat → Bool → Draft fields → Reader (Draft fields)
  | 0, _, _ => fail .eofInObject
  | fuel + 1, first, draft => do
      if ← hasMember first then
        skip
        let name ← readText
        match readInto fields name draft with
        | some x => readMembers fields fuel false (← x)
        | none =>
            colon
            skipValue
            readMembers fields fuel false draft
      else pure draft

/-- The values of a list in the order of the fields, of which `count` were read; `total` fields are
expected. -/
def readElements (title : String) (total : Nat) :
    (fields : List Field) → Nat → Reader (Values fields)
  | [], _ => pure ()
  | f :: rest, count => do
      let v ← do
        if ← hasElement (count == 0) then readScalar f.type
        else
          match f.default with
          | some v => pure v
          | none =>
              raise (.invalidLength count
                ("struct " ++ title ++ " with " ++ toString total ++
                  (if total = 1 then " element" else " elements")))
      return (v, ← readElements title total rest (count + 1))

/-- A record. -/
def readRecord (r : Record) : Reader (Values r.fields) := placed do
  let b ← firstByte
  if b = byte '\x7b' then
    skip
    closing (do
      let draft ← readMembers r.fields ((← left) + 1) true (.blank r.fields)
      match draft.complete with
      | .ok vs => pure vs
      | .error name => raise (.missingField name)) endObject
  else if b = byte '[' then
    skip
    closing (readElements r.title r.fields.length r.fields 0) endList
  else mismatch ("struct " ++ r.title)

/-- The record that a whole text spells. -/
def recordOf (r : Record) (bytes : List UInt8) : Except Fault (Values r.fields) :=
  whole (readRecord r) bytes

end Failover.Json
