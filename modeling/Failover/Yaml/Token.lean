/-
  Failover.Yaml.Token
  ───────────────────
  **A YAML text as tokens.** Indentation becomes tokens of its own: a
  block begins where a column is deeper than the one before and ends where
  a line falls back behind it.

  A key is not marked in the text.  Whatever could be one is remembered
  as a `Candidate`, and when a colon follows it on the same line, the
  token that says so is put in front of it afterwards.  Inside brackets
  there is one candidate for each level.
-/
import Failover.Yaml.Scalar
import Failover.Text.Utf8

namespace Failover.Yaml

/-! ## §1. Tokens. -/

/-- How a single value is written. -/
inductive Style where
  | plain
  | literal
  | other
  deriving DecidableEq

/-- The tokens of a text. -/
inductive Token where
  | version (major minor : Nat)
  | handle (name target : List Char)
  | documentStart
  | documentEnd
  | blockSequenceStart
  | blockMappingStart
  | blockEnd
  | flowSequenceStart
  | flowSequenceEnd
  | flowMappingStart
  | flowMappingEnd
  | blockEntry
  | flowEntry
  | key
  | value
  | alias (name : List Char)
  | anchor (name : List Char)
  | tag (handle rest : List Char)
  | scalar (text : List Char) (style : Style)
  deriving DecidableEq

/-- Where a key may have begun: before which token and at which place of the text. -/
structure Candidate where
  position : Nat
  index : Nat
  line : Nat
  column : Nat
  /-- Nothing but a key can stand there. -/
  required : Bool

/-- The state of reading tokens. -/
structure Scanner where
  cursor : Cursor
  /-- The tokens so far, the last one first. -/
  tokens : List Token
  /-- The columns of the open blocks, the innermost one first. -/
  indents : List Nat
  /-- The candidates of the open brackets and of the block around them, the innermost one first. -/
  candidates : List (Option Candidate)
  /-- Whether a key may begin here. -/
  keyAllowed : Bool

namespace Scanner

/-! ## §2. Blocks and candidates. -/

/-- The beginning of a text. -/
def start (text : List Char) : Scanner := ⟨.start text, [], [], [none], true⟩

/-- Whether reading is inside brackets. -/
def inFlow (s : Scanner) : Bool := 1 < s.candidates.length

/-- Add a token. -/
def emit (s : Scanner) (t : Token) : Scanner := { s with tokens := t :: s.tokens }

/-- Put a token before the one at a position. -/
def insertAt (s : Scanner) (position : Nat) (t : Token) : Scanner :=
  let behind := s.tokens.length - position
  { s with tokens := s.tokens.take behind ++ t :: s.tokens.drop behind }

/-- One more than the column of the innermost block; nought outside of all blocks. -/
def outer (s : Scanner) : Nat :=
  match s.indents with
  | [] => 0
  | column :: _ => column + 1

/-- Open a block at a column that is deeper than the innermost one, with its token at a position. -/
def openBlock (s : Scanner) (column position : Nat) (t : Token) : Scanner :=
  if !s.inFlow && s.outer ≤ column then
    { s with indents := column :: s.indents }.insertAt position t
  else s

/-- Close the blocks that are deeper than a line that begins `width` columns in. -/
def closeBlocks (s : Scanner) (width : Nat) : Scanner :=
  if s.inFlow then s
  else
    let deeper := s.indents.takeWhile (width ≤ ·)
    { s with
      indents := s.indents.drop deeper.length
      tokens := List.replicate deeper.length Token.blockEnd ++ s.tokens }

/-- Give up the innermost candidate, which must not be required. -/
def dropCandidate (s : Scanner) : Option Scanner :=
  match s.candidates with
  | some c :: rest =>
      if c.required then none else some { s with candidates := none :: rest }
  | _ => some s

/-- Remember that a key may begin here. -/
def addCandidate (s : Scanner) : Option Scanner :=
  if s.keyAllowed then do
    let required := !s.inFlow && s.outer == s.cursor.column + 1
    let c : Candidate :=
      ⟨s.tokens.length, s.cursor.index, s.cursor.line, s.cursor.column, required⟩
    let s ← s.dropCandidate
    return { s with candidates := some c :: s.candidates.drop 1 }
  else some s

/-- Whether a candidate is too far back: on another line, or more than 1024 characters. -/
def isStale (s : Scanner) (c : Candidate) : Bool :=
  c.line < s.cursor.line || c.index + 1024 < s.cursor.index

/-- Give up the candidates that are too far back, none of which may be required. -/
def dropStale (s : Scanner) : Option Scanner :=
  if s.candidates.any fun o => o.any fun c => s.isStale c && c.required then none
  else
    some { s with
      candidates := s.candidates.map fun o => o.filter fun c => !s.isStale c }

/-! ## §3. Blanks, comments and directives. -/

/-- Pass over blanks, comments and line ends.  A tab counts as a blank only where no key may begin,
and behind a line end a key may begin. -/
def skipBlanks : Nat → Scanner → Scanner
  | 0, s => s
  | fuel + 1, s =>
      let c := if s.cursor.index = 0 ∧ s.cursor.at_ byteOrderMark then s.cursor.skip else s.cursor
      let tabs := s.inFlow || !s.keyAllowed
      let c := (c.skipWhile fun d => d == ' ' || (tabs && d == '\t')).skipComment
      if c.isAt 0 isBreak then
        skipBlanks fuel { s with cursor := c.skipLine, keyAllowed := s.keyAllowed || !s.inFlow }
      else { s with cursor := c }

/-- A number of at most nine digits. -/
def readVersionNumber (c : Cursor) : Option (Nat × Cursor) :=
  let digits := c.rest.takeWhile Char.isDigit
  if digits.isEmpty || 9 < digits.length then none
  else some (digits.foldl (fun n d => n * 10 + (d.toNat - 48)) 0, c.skipMany digits.length)

/-- A handle: an exclamation mark, a name and another exclamation mark.  Only in a directive the
second mark has to be there. -/
def readHandle (directive : Bool) (c : Cursor) : Option (List Char × Cursor) :=
  if c.at_ '!' then
    let c := c.skip
    let name := c.rest.takeWhile isName
    let c := c.skipMany name.length
    if c.at_ '!' then some ('!' :: name ++ ['!'], c.skip)
    else if directive && !name.isEmpty then none
    else some ('!' :: name, c)
  else none

/-- Characters of the name of a type; the brackets and the comma only in its full form. -/
def isTypeChar (full : Bool) (c : Char) : Bool :=
  isName c || [';', '/', '?', ':', '@', '&', '=', '+', '$', '.', '%', '!', '~', '*', '\'', '(',
    ')'].contains c || (full && (c == ',' || c == '[' || c == ']'))

/-- How many bytes a character has whose first byte is given. -/
def byteCount (b : Nat) : Option Nat :=
  if b < 0x80 then some 1
  else if b / 32 = 6 then some 2
  else if b / 16 = 14 then some 3
  else if b / 8 = 30 then some 4
  else none

/-- The bytes of one character in percent form. -/
def percentBytes (s : List Char) : Option (List UInt8 × List Char) := do
  let one (s : List Char) : Option (Nat × List Char) :=
    match s with
    | '%' :: a :: b :: rest => (hexNumber [a, b]).map (·, rest)
    | _ => none
  let (first, s) ← one s
  let n ← byteCount first
  let rec more : Nat → List UInt8 → List Char → Option (List UInt8 × List Char)
    | 0, acc, s => some (acc, s)
    | k + 1, acc, s => do
        let (b, s) ← one s
        if b / 64 = 2 then more k (acc ++ [UInt8.ofNat b]) s else none
  more (n - 1) [UInt8.ofNat first] s

/-- The name of a type, with characters in percent form read. -/
def typeChars (full : Bool) : Nat → List Char → Cursor → Option (List Char × Cursor)
  | 0, acc, c => some (acc, c)
  | fuel + 1, acc, c =>
      match c.next with
      | some '%' => do
          let (bytes, rest) ← percentBytes c.rest
          let text := match Text.Utf8.decode bytes with
            | .ok text => text
            | .error _ => ['\ufffd']
          typeChars full fuel (acc ++ text) (c.skipMany (c.rest.length - rest.length))
      | some d => if isTypeChar full d then typeChars full fuel (acc ++ [d]) c.skip else some (acc, c)
      | none => some (acc, c)

/-- The name of a type behind what was read of it already, of which there has to be something. -/
def readType (full : Bool) (before : List Char) (c : Cursor) : Option (List Char × Cursor) := do
  let (text, c') ← typeChars full (c.rest.length + 1) (before.drop 1) c
  if before.isEmpty && text.isEmpty then none else return (text, c')

/-- A directive, behind its mark. -/
def readDirective (c : Cursor) : Option (Token × Cursor) := do
  let name := c.rest.takeWhile isName
  let c := c.skipMany name.length
  if name.isEmpty || !c.endsAt 0 then none
  else
    let c := c.skipWhile isBlank
    let (token, c) ← (
      if name = ['Y', 'A', 'M', 'L'] then do
        let (major, c) ← readVersionNumber c
        if !c.at_ '.' then none
        else
          let (minor, c) ← readVersionNumber c.skip
          return (.version major minor, c)
      else if name = ['T', 'A', 'G'] then do
        let (handle, c) ← readHandle true c
        if !c.isAt 0 isBlank then none
        else
          let (target, c) ← readType true [] (c.skipWhile isBlank)
          if c.endsAt 0 then return (.handle handle target, c) else none
      else none)
    let c := (c.skipWhile isBlank).skipComment
    if c.lineEnds then return (token, c.skipLine) else none

/-- The type of a value. -/
def readTag (flow : Bool) (c : Cursor) : Option (Token × Cursor) := do
  let (token, c) ← (
    if c.isAt 1 (· == '<') then do
      let (text, c) ← readType true [] (c.skipMany 2)
      if c.at_ '>' then return (Token.tag [] text, c.skip) else none
    else do
      let (handle, c) ← readHandle false c
      if 1 < handle.length && handle.getLast? == some '!' then
        let (text, c) ← readType false [] c
        return (.tag handle text, c)
      else
        let (text, c) ← readType false handle c
        if text.isEmpty then return (.tag [] ['!'], c) else return (.tag ['!'] text, c))
  if c.endsAt 0 || (flow && c.at_ ',') then return (token, c) else none

/-- The name of an anchor, behind its mark. -/
def readName (c : Cursor) : Option (List Char × Cursor) :=
  let name := c.rest.takeWhile isName
  let c := c.skipMany name.length
  if name.isEmpty then none
  else if c.endsAt 0 || c.isAt 0 (['?', ':', ',', ']', '\x7d', '%', '@', '\u0060'].contains ·) then
    some (name, c)
  else none

/-! ## §4. One token. -/

/-- Add a token of some characters behind which a key may begin or not. -/
def mark (s : Scanner) (t : Token) (width : Nat) (keyAllowed : Bool) : Scanner :=
  { s with cursor := s.cursor.skipMany width, keyAllowed := keyAllowed }.emit t

/-- End all blocks, and with them what could have been a key. -/
def closeAll (s : Scanner) : Option Scanner := (s.closeBlocks 0).dropCandidate

/-- An opening bracket. -/
def openFlow (s : Scanner) (t : Token) : Option Scanner := do
  let s ← s.addCandidate
  return { s with candidates := none :: s.candidates }.mark t 1 true

/-- A closing bracket. -/
def closeFlow (s : Scanner) (t : Token) : Option Scanner := do
  let s ← s.dropCandidate
  let candidates := if s.inFlow then s.candidates.drop 1 else s.candidates
  return { s with candidates := candidates }.mark t 1 false

/-- An entry of a list in a block. -/
def blockEntry (s : Scanner) : Option Scanner :=
  if !s.inFlow && !s.keyAllowed then none
  else do
    let s := s.openBlock s.cursor.column s.tokens.length .blockSequenceStart
    let s ← s.dropCandidate
    return s.mark .blockEntry 1 true

/-- A key with a mark. -/
def explicitKey (s : Scanner) : Option Scanner :=
  if !s.inFlow && !s.keyAllowed then none
  else do
    let s := s.openBlock s.cursor.column s.tokens.length .blockMappingStart
    let s ← s.dropCandidate
    return s.mark .key 1 (!s.inFlow)

/-- The colon behind a key. -/
def value (s : Scanner) : Option Scanner :=
  match s.candidates with
  | some c :: rest =>
      let s := (s.insertAt c.position .key).openBlock c.column c.position .blockMappingStart
      some ({ s with candidates := none :: rest }.mark .value 1 false)
  | _ =>
      if !s.inFlow && !s.keyAllowed then none
      else
        let s := s.openBlock s.cursor.column s.tokens.length .blockMappingStart
        some (s.mark .value 1 (!s.inFlow))

/-- A token that was read whole and that may be part of a key. -/
def part (s : Scanner) (read : Cursor → Option (Token × Cursor)) : Option Scanner := do
  let s ← s.addCandidate
  let (t, c) ← read s.cursor
  return { s with cursor := c, keyAllowed := false }.emit t

/-- A plain value.  If it ends behind a line end, a key may follow. -/
def plain (s : Scanner) : Option Scanner := do
  let s ← s.addCandidate
  let (text, broken, c) ← readPlain s.inFlow s.outer s.cursor
  return { s with cursor := c, keyAllowed := broken }.emit (.scalar text .plain)

/-- A block value. -/
def block (s : Scanner) (literal : Bool) : Option Scanner := do
  let s ← s.dropCandidate
  let (text, c) ← readBlock literal s.outer s.cursor.skip
  let style := if literal then Style.literal else .other
  return { s with cursor := c, keyAllowed := true }.emit (.scalar text style)

/-- A value between quotation marks. -/
def quoted (s : Scanner) (single : Bool) : Option Scanner :=
  s.part fun c => (readQuoted single c.skip).map fun (text, c) => (.scalar text .other, c)

/-- Whether a plain value may begin here. -/
def beginsPlain (s : Scanner) : Bool :=
  let c := s.cursor
  !(c.endsAt 0 || c.isAt 0 (['-', '?', ':', ',', '[', ']', '\x7b', '\x7d', '#', '&', '*', '!', '|',
      '>', '\'', '"', '%', '@', '\u0060'].contains ·)) ||
    (c.at_ '-' && !c.isAt 1 isBlank) ||
    (!s.inFlow && (c.at_ '?' || c.at_ ':') && !c.endsAt 1)

/-- Read the next token, whose first character is `d`. -/
def token (s : Scanner) (d : Char) : Option Scanner :=
  let c := s.cursor
  if c.column == 0 && d == '%' then do
    let s ← s.closeAll
    let (t, c) ← readDirective c.skip
    return { s with cursor := c, keyAllowed := false }.emit t
  else if c.isBoundary then do
    let s ← s.closeAll
    return s.mark (if d == '-' then .documentStart else .documentEnd) 3 false
  else if d == '[' then s.openFlow .flowSequenceStart
  else if d == '\x7b' then s.openFlow .flowMappingStart
  else if d == ']' then s.closeFlow .flowSequenceEnd
  else if d == '\x7d' then s.closeFlow .flowMappingEnd
  else if d == ',' then s.dropCandidate.map (·.mark .flowEntry 1 true)
  else if d == '-' && c.endsAt 1 then s.blockEntry
  else if d == '?' && (s.inFlow || c.endsAt 1) then s.explicitKey
  else if d == ':' && (s.inFlow || c.endsAt 1) then s.value
  else if d == '*' then s.part fun c => (readName c.skip).map fun (n, c) => (.alias n, c)
  else if d == '&' then s.part fun c => (readName c.skip).map fun (n, c) => (.anchor n, c)
  else if d == '!' then s.part (readTag s.inFlow)
  else if d == '|' && !s.inFlow then s.block true
  else if d == '>' && !s.inFlow then s.block false
  else if d == '\'' then s.quoted true
  else if d == '"' then s.quoted false
  else if s.beginsPlain then s.plain
  else none

/-- Read all tokens.  Each round reads a character. -/
def run : Nat → Scanner → Option (List Token)
  | 0, _ => none
  | fuel + 1, s => do
      let s := s.skipBlanks (s.cursor.rest.length + 1)
      let s ← s.dropStale
      let s := s.closeBlocks (s.cursor.column + 1)
      match s.cursor.next with
      | some d => run fuel (← s.token d)
      | none =>
          let s ← s.closeAll
          return s.tokens.reverse

end Scanner

/-- The tokens of a text. -/
def Token.scan (text : List Char) : Option (List Token) :=
  if text.all isAllowed then (Scanner.start text).run (text.length + 1) else none

end Failover.Yaml
