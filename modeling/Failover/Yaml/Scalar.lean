/-
  Failover.Yaml.Scalar
  ────────────────────
  **Reading single values of a YAML text.** A value is plain, between
  single or double quotation marks, or a block below its mark.  Where a
  value goes over several lines, one line end is folded to a space and the
  first of several is dropped (`Gap.folded`); only a literal block keeps
  all of them.

  A reader that meets anything it may not meet has no result.  Rounds are
  bounded by the number of characters that are left.
-/
import Failover.Yaml.Cursor

namespace Failover.Yaml

/-! ## §1. Gaps. -/

/-- What lies between two words: blanks, or line ends, of which the first one is kept apart. -/
structure Gap where
  blanks : List Char
  first : List Char
  more : List Char
  broken : Bool

namespace Gap

/-- Nothing. -/
def none : Gap := ⟨[], [], [], false⟩

/-- What a gap adds to a value. -/
def folded (g : Gap) : List Char :=
  if g.broken then
    if g.first.head? = some '\n' then (if g.more.isEmpty then [' '] else g.more)
    else g.first ++ g.more
  else g.blanks

/-- The gap with a line end after it. -/
def addBreak (g : Gap) (text : List Char) : Gap :=
  if g.broken then { g with more := g.more ++ text } else ⟨[], text, g.more, true⟩

/-- Read blanks and line ends.  With an indentation, a tab within it is refused. -/
def read (indentation : Option Nat) : Nat → Gap → Cursor → Option (Gap × Cursor)
  | 0, _, _ => Option.none
  | fuel + 1, g, c =>
      match c.next with
      | Option.none => some (g, c)
      | some d =>
          if isBlank d then
            if g.broken && d == '\t' && indentation.any (c.column < ·) then Option.none
            else if g.broken then read indentation fuel g c.skip
            else read indentation fuel { g with blanks := g.blanks ++ [d] } c.skip
          else if isBreak d then read indentation fuel (g.addBreak c.lineEnd) c.skipLine
          else some (g, c)

end Gap

/-! ## §2. Plain values. -/

/-- Characters that end a plain value inside brackets. -/
def isFlowMark (c : Char) : Bool := c == ',' || c == '[' || c == ']' || c == '\x7b' || c == '\x7d'

/-- The part of a plain value up to a blank or a mark that ends it. -/
def plainWord (flow : Bool) : List Char → Option (List Char)
  | [] => some []
  | d :: rest =>
      if isBlank d || isBreak d then some []
      else if flow && d == ':' && rest.head?.any (fun e => isFlowMark e || e == '?') then none
      else if d == ':' && rest.head?.all (fun e => isBlank e || isBreak e) then some []
      else if flow && isFlowMark d then some []
      else (plainWord flow rest).map (d :: ·)

/-- Words and gaps of a plain value.  With it comes whether the value ends behind a line end. -/
def plainFrom (flow : Bool) (indentation : Nat) :
    Nat → List Char → Gap → Cursor → Option (List Char × Bool × Cursor)
  | 0, _, _, _ => none
  | fuel + 1, acc, gap, c => do
      if c.isBoundary || c.at_ '#' then return (acc, gap.broken, c)
      let word ← plainWord flow c.rest
      let c := c.skipMany word.length
      let (acc, gap) := if word.isEmpty then (acc, gap) else (acc ++ gap.folded ++ word, Gap.none)
      if !(c.isAt 0 fun d => isBlank d || isBreak d) then return (acc, gap.broken, c)
      let (gap, c) ← Gap.read (some indentation) (c.rest.length + 1) gap c
      if !flow && c.column < indentation then return (acc, gap.broken, c)
      plainFrom flow indentation fuel acc gap c

/-- A plain value that is indented at least so far. -/
def readPlain (flow : Bool) (indentation : Nat) (c : Cursor) :
    Option (List Char × Bool × Cursor) :=
  plainFrom flow indentation (c.rest.length + 1) [] Gap.none c

/-! ## §3. Values between quotation marks. -/

/-- The value of a hexadecimal digit. -/
def hexValue (c : Char) : Option Nat :=
  if c.isDigit then some (c.toNat - 48)
  else if 'a' ≤ c ∧ c ≤ 'f' then some (c.toNat - 87)
  else if 'A' ≤ c ∧ c ≤ 'F' then some (c.toNat - 55)
  else none

/-- The number that hexadecimal digits spell. -/
def hexNumber (digits : List Char) : Option Nat :=
  digits.foldlM (fun n c => (hexValue c).map (n * 16 + ·)) 0

/-- Whether a number is the code point of a character. -/
def isCodePoint (n : Nat) : Bool := n < 0xD800 || (0xDFFF < n && n ≤ 0x10FFFF)

/-- The character that a letter behind a backslash stands for. -/
def simpleEscape (c : Char) : Option Char :=
  match c with
  | '0' => some '\x00'
  | 'a' => some '\x07'
  | 'b' => some '\x08'
  | 't' | '\t' => some '\t'
  | 'n' => some '\n'
  | 'v' => some '\x0b'
  | 'f' => some '\x0c'
  | 'r' => some '\r'
  | 'e' => some '\x1b'
  | ' ' => some ' '
  | '"' => some '"'
  | '/' => some '/'
  | '\\' => some '\\'
  | 'N' => some '\u0085'
  | '_' => some '\u00a0'
  | 'L' => some '\u2028'
  | 'P' => some '\u2029'
  | _ => none

/-- How many digits follow a letter behind a backslash. -/
def digitEscape (c : Char) : Option Nat :=
  match c with
  | 'x' => some 2
  | 'u' => some 4
  | 'U' => some 8
  | _ => none

/-- The characters up to a blank or the closing mark.  With them comes whether an escaped line end
stopped them. -/
def quotedWord (single : Bool) : Nat → List Char → Cursor → Option (List Char × Bool × Cursor)
  | 0, _, _ => none
  | fuel + 1, acc, c =>
      match c.rest with
      | [] => some (acc, false, c)
      | d :: rest =>
          if isBlank d || isBreak d then some (acc, false, c)
          else if single then
            if d == '\'' then
              if rest.head? = some '\'' then quotedWord single fuel (acc ++ ['\'']) (c.skipMany 2)
              else some (acc, false, c)
            else quotedWord single fuel (acc ++ [d]) c.skip
          else if d == '"' then some (acc, false, c)
          else if d == '\\' then
            match rest.head? with
            | none => none
            | some e =>
                if isBreak e then some (acc, true, c.skip.skipLine)
                else
                  match simpleEscape e, digitEscape e with
                  | some v, _ => quotedWord single fuel (acc ++ [v]) (c.skipMany 2)
                  | none, some n => do
                      let digits := (rest.drop 1).take n
                      if digits.length < n then none
                      else
                        let v ← hexNumber digits
                        if isCodePoint v then
                          quotedWord single fuel (acc ++ [Char.ofNat v]) (c.skipMany (2 + n))
                        else none
                  | none, none => none
          else quotedWord single fuel (acc ++ [d]) c.skip

/-- Words and gaps up to the closing mark. -/
def quotedFrom (single : Bool) : Nat → List Char → Cursor → Option (List Char × Cursor)
  | 0, _, _ => none
  | fuel + 1, acc, c => do
      if c.isBoundary || c.rest.isEmpty then none
      else
        let (acc, escaped, c) ← quotedWord single (c.rest.length + 1) acc c
        if c.at_ (if single then '\'' else '"') then return (acc, c.skip)
        else
          let gap : Gap := { Gap.none with broken := escaped }
          let (gap, c) ← Gap.read none (c.rest.length + 1) gap c
          quotedFrom single fuel (acc ++ gap.folded) c

/-- A value between quotation marks, behind the opening one. -/
def readQuoted (single : Bool) (c : Cursor) : Option (List Char × Cursor) :=
  quotedFrom single (c.rest.length + 1) [] c

/-! ## §4. Blocks. -/

/-- Which of the line ends behind a block belong to it. -/
inductive Chomping where
  | strip
  | clip
  | keep
  deriving DecidableEq

/-- The chomping that a mark asks for. -/
def chompingOf (c : Char) : Option Chomping :=
  if c == '+' then some .keep else if c == '-' then some .strip else none

/-- The chomping and the indentation behind the mark of a block, in either order. -/
def blockHeader (c : Cursor) : Option (Chomping × Nat × Cursor) :=
  let digit (c : Cursor) : Option (Nat × Cursor) :=
    match c.next with
    | some d =>
        if d.isDigit then (if d == '0' then none else some (d.toNat - 48, c.skip)) else some (0, c)
    | none => some (0, c)
  match c.next.bind chompingOf with
  | some chomping => (digit c.skip).map fun (n, c) => (chomping, n, c)
  | none =>
      (digit c).map fun (n, c') =>
        if n = 0 then (.clip, 0, c)
        else
          match c'.next.bind chompingOf with
          | some chomping => (chomping, n, c'.skip)
          | none => (.clip, n, c')

/-- Empty lines of a block: their line ends, and the deepest indentation among them and of the
line behind them.  `indent` is the indentation of the block, or nought if it is not known. -/
def blockBreaks (indent : Nat) : Nat → Nat → List Char → Cursor → Option (List Char × Nat × Cursor)
  | 0, _, _, _ => none
  | fuel + 1, deepest, acc, c =>
      let spaces := (c.rest.takeWhile (· == ' ')).length
      let c := c.skipMany (if indent = 0 then spaces else min spaces (indent - c.column))
      let deepest := max deepest c.column
      if (indent = 0 || c.column < indent) && c.at_ '\t' then none
      else if c.isAt 0 isBreak then
        blockBreaks indent fuel deepest (acc ++ c.lineEnd) c.skipLine
      else some (acc, deepest, c)

/-- The lines of a block.  `first` is the line end before the current line, `more` are those of
the empty lines behind it. -/
def blockLines (literal : Bool) (indent : Nat) :
    Nat → List Char → List Char → List Char → Bool → Cursor →
      Option (List Char × List Char × List Char × Cursor)
  | 0, _, _, _, _, _ => none
  | fuel + 1, acc, first, more, leadingBlank, c =>
      if c.column = indent ∧ c.rest ≠ [] then do
        let blank := c.isAt 0 isBlank
        let fold := !literal && first.head? = some '\n' && !leadingBlank && !blank
        let joint := if fold then (if more.isEmpty then [' '] else []) else first
        let line := c.rest.takeWhile (!isBreak ·)
        let c := c.skipMany line.length
        let (breaks, _, c') ← blockBreaks indent (c.rest.length + 1) 0 [] c.skipLine
        blockLines literal indent fuel (acc ++ joint ++ more ++ line) c.lineEnd breaks blank c'
      else some (acc, first, more, c)

/-- A block, behind its mark.  `outer` is the indentation of the block around it, one more than
its column. -/
def readBlock (literal : Bool) (outer : Nat) (c : Cursor) : Option (List Char × Cursor) := do
  let (chomping, increment, c) ← blockHeader c
  let c := (c.skipWhile isBlank).skipComment
  if !c.lineEnds then none
  else
    let c := c.skipLine
    let known := if increment = 0 then 0 else if outer = 0 then increment else outer - 1 + increment
    let (breaks, deepest, c) ← blockBreaks known (c.rest.length + 1) 0 [] c
    let indent := if known = 0 then max (max deepest outer) 1 else known
    let (text, first, more, c) ← blockLines literal indent (c.rest.length + 1) [] [] breaks false c
    match chomping with
    | .strip => return (text, c)
    | .clip => return (text ++ first, c)
    | .keep => return (text ++ first ++ more, c)

end Failover.Yaml
