/-
  Failover.Yaml.Cursor
  ────────────────────
  **A place in a YAML text.** The characters that are left, with the
  number of characters, lines and columns before them, and the classes of
  characters that the notation distinguishes.  The end of the text counts
  as a blank wherever a blank ends something.
-/

namespace Failover.Yaml

/-! ## §1. Classes of characters. -/

/-- Characters that end a line. -/
def isBreak (c : Char) : Bool :=
  c == '\r' || c == '\n' || c == '\u0085' || c == '\u2028' || c == '\u2029'

/-- A space or a tab. -/
def isBlank (c : Char) : Bool := c == ' ' || c == '\t'

/-- Characters of names: letters, digits, `_` and `-`. -/
def isName (c : Char) : Bool := c.isAlphanum || c == '_' || c == '-'

/-- Characters that may stand in a text at all. -/
def isAllowed (c : Char) : Bool :=
  let n := c.toNat
  n == 0x09 || n == 0x0A || n == 0x0D || (0x20 ≤ n && n ≤ 0x7E) || n == 0x85 ||
    (0xA0 ≤ n && n ≤ 0xD7FF) || (0xE000 ≤ n && n ≤ 0xFFFD) || 0x10000 ≤ n

/-- The mark that may open a text. -/
def byteOrderMark : Char := '\ufeff'

/-! ## §2. Cursors. -/

/-- The characters that are left, and where they begin. -/
structure Cursor where
  rest : List Char
  index : Nat
  line : Nat
  column : Nat

namespace Cursor

/-- The beginning of a text. -/
def start (text : List Char) : Cursor := ⟨text, 0, 0, 0⟩

/-- The character that is `n` places ahead. -/
def ahead (c : Cursor) (n : Nat) : Option Char := c.rest[n]?

/-- The next character. -/
def next (c : Cursor) : Option Char := c.rest.head?

/-- Whether the next character is a given one. -/
def at_ (c : Cursor) (d : Char) : Bool := c.next == some d

/-- Whether a character some places ahead is of a kind. -/
def isAt (c : Cursor) (n : Nat) (p : Char → Bool) : Bool := (c.ahead n).any p

/-- Whether a blank, a line end or the end of the text is some places ahead. -/
def endsAt (c : Cursor) (n : Nat) : Bool := (c.ahead n).all fun d => isBlank d || isBreak d

/-- Whether a line end or the end of the text comes next. -/
def lineEnds (c : Cursor) : Bool := c.next.all isBreak

/-- Pass over one character of a line. -/
def skip (c : Cursor) : Cursor := ⟨c.rest.drop 1, c.index + 1, c.line, c.column + 1⟩

/-- Pass over characters of a line. -/
def skipMany (c : Cursor) (n : Nat) : Cursor := ⟨c.rest.drop n, c.index + n, c.line, c.column + n⟩

/-- Pass over the characters of a kind, which end no line. -/
def skipWhile (c : Cursor) (p : Char → Bool) : Cursor := c.skipMany (c.rest.takeWhile p).length

/-- Pass over a line end; a carriage return and a newline are one. -/
def skipLine (c : Cursor) : Cursor :=
  match c.rest with
  | '\r' :: '\n' :: rest => ⟨rest, c.index + 2, c.line + 1, 0⟩
  | d :: rest => if isBreak d then ⟨rest, c.index + 1, c.line + 1, 0⟩ else c
  | [] => c

/-- What a line end stands for: a newline, or one of the two separators as it is. -/
def lineEnd (c : Cursor) : List Char :=
  match c.next with
  | some d => if d == '\u2028' || d == '\u2029' then [d] else if isBreak d then ['\n'] else []
  | none => []

/-- Pass over the rest of a line that is a comment. -/
def skipComment (c : Cursor) : Cursor :=
  if c.at_ '#' then c.skipWhile (!isBreak ·) else c

/-- Whether a mark between documents begins here: three equal characters at the beginning of a
line, followed by a blank. -/
def isBoundary (c : Cursor) : Bool :=
  c.column == 0 && (c.rest.take 3 == ['-', '-', '-'] || c.rest.take 3 == ['.', '.', '.']) &&
    c.endsAt 3

end Cursor

end Failover.Yaml
