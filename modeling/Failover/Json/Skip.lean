/-
  Failover.Json.Skip
  ──────────────────
  **Passing over a value of any shape.** The value of a name that nobody
  asked for still has to be a value.  Lists and objects that are open are
  kept on a stack, so values may be nested to any depth.
-/
import Failover.Json.Number
import Failover.Json.Text

namespace Failover.Json

open Reader

/-- A list or an object that is not closed yet. -/
inductive Enclosing where
  | list
  | object
  deriving DecidableEq

namespace Enclosing

/-- The byte that closes it. -/
def closer : Enclosing → UInt8
  | .list => byte ']'
  | .object => byte '\x7d'

/-- What is wrong when it is neither closed nor gone on with. -/
def uncontinued : Enclosing → Cause
  | .list => .expectedListCommaOrEnd
  | .object => .expectedObjectCommaOrEnd

/-- What is wrong when the text ends in it. -/
def unclosed : Enclosing → Cause
  | .list => .eofInList
  | .object => .eofInObject

end Enclosing

/-- Pass over the name of a member and its colon. -/
def skipName : Reader Unit := do
  match ← afterBlanks with
  | some b => if b = byte '"' then skip else failPeek .keyNotString
  | none => failPeek .eofInObject
  skipText
  match ← afterBlanks with
  | some b => if b = byte ':' then skip else failPeek .expectedColon
  | none => failPeek .eofInObject

/-- After a value, or after an opening mark if `fresh`: close what is closed, and go on to where
the next value begins.  What is open then is returned; nothing if the value is complete. -/
def skipClosers : Nat → Bool → List Enclosing → Reader (Option (List Enclosing))
  | 0, _, _ => fail .eofInValue
  | _ + 1, _, [] => pure none
  | fuel + 1, fresh, frame :: outer => do
      match ← afterBlanks with
      | none => failPeek frame.unclosed
      | some b =>
          if b = byte ',' ∧ fresh = false then
            skip
            pure (some (frame :: outer))
          else if b = frame.closer then
            skip
            skipClosers fuel false outer
          else if fresh = false then failPeek frame.uncontinued
          else pure (some (frame :: outer))

/-- Pass over a value inside what is open, and over everything up to its end.  Each round reads a
byte, so the number of bytes that are left bounds the rounds. -/
def skipInside : Nat → List Enclosing → Reader Unit
  | 0, _ => fail .eofInValue
  | fuel + 1, enclosing => do
      let opened ← do
        match ← afterBlanks with
        | none => failPeek .eofInValue
        | some b =>
            if b = byte 'n' then skip; word ['u', 'l', 'l']; pure none
            else if b = byte 't' then skip; word ['r', 'u', 'e']; pure none
            else if b = byte 'f' then skip; word ['a', 'l', 's', 'e']; pure none
            else if b = byte '-' then skip; skipNumber; pure none
            else if isDigit b then skipNumber; pure none
            else if b = byte '"' then skip; skipText; pure none
            else if b = byte '[' then skip; pure (some Enclosing.list)
            else if b = byte '\x7b' then skip; pure (some Enclosing.object)
            else failPeek .expectedValue
      match ← skipClosers ((← left) + enclosing.length + 2) opened.isSome
          (opened.toList ++ enclosing) with
      | none => pure ()
      | some [] => pure ()
      | some (frame :: outer) =>
          if frame = .object then skipName
          skipInside fuel (frame :: outer)

/-- Pass over a value. -/
def skipValue : Reader Unit := do skipInside ((← left) + 1) []

end Failover.Json
