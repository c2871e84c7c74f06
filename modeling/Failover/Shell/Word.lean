/-
  Failover.Shell.Word
  ───────────────────
  **Words of a script.** A word is made of literal text and of parameters,
  each of them quoted or not.  Expanding a word gives fields: the value of
  a parameter that is not quoted is cut at its blanks, a quoted one is
  kept, and the quoted list of all arguments gives one field for each.
-/
import Failover.Named

namespace Failover.Shell

/-! ## §1. Parts. -/

/-- A part of a word. -/
inductive Part where
  | text (s : List Char)
  /-- A quotation starts: there is a field even if nothing is in it. -/
  | quotation
  /-- A parameter.  The mark tells what to do when there is no value: `-` takes the other parts
  instead, `+` takes them when there is one; with `strict` an empty value counts as none. -/
  | parameter (name : String) (quoted : Bool) (mark : Option Char) (strict : Bool)
      (other : List Part)

/-- A word. -/
abbrev Word : Type := List Part

/-- Whether a character may begin a name. -/
def startsName (c : Char) : Bool := c.isAlpha || c == '_'

/-- Whether a character may go on with a name. -/
def inName (c : Char) : Bool := c.isAlphanum || c == '_'

/-- Parameters that are named by one mark. -/
def isSpecial (c : Char) : Bool := ['$', '?', '#', '@', '*', '!', '-'].contains c

/-- Whether a character ends a word. -/
def endsWord (c : Char) : Bool := [' ', '\t', '\n', ';', '&', '|', '<', '>', '(', ')'].contains c

/-- Where words are read: plainly, or inside double quotes. -/
inductive Quoting where
  | plain
  | double
  deriving DecidableEq

/-- The name of a parameter at the beginning of a text, and the rest. -/
def parameterName (s : List Char) : Option (String × List Char) :=
  match s with
  | [] => none
  | c :: rest =>
      if startsName c then some (String.ofList (s.takeWhile inName), s.dropWhile inName)
      else if c.isDigit || isSpecial c then some (String.singleton c, rest)
      else none

/-- The mark behind a name in braces, whether it is strict, and the rest. -/
def fallbackMark (s : List Char) : Option (Char × Bool × List Char) :=
  match s with
  | ':' :: '+' :: rest => some ('+', true, rest)
  | ':' :: _ :: rest => some ('-', true, rest)
  | '+' :: rest => some ('+', false, rest)
  | '-' :: rest | '=' :: rest => some ('-', false, rest)
  | _ => none

/-- Whether the only part is the list of all arguments. -/
def isArguments : List Part → Bool
  | [.parameter "@" ..] => true
  | _ => false

/-- Read parts until the end of the word, of the quotation or of the braces; `n` is at least the
length of the text. -/
def readParts : Nat → Quoting → Bool → List Char → List Part × List Char
  | 0, _, _, s => ([], s)
  | _, _, _, [] => ([], [])
  | n + 1, quoting, braced, c :: rest =>
      let on (p : List Part) (rest : List Char) : List Part × List Char :=
        let (more, left) := readParts n quoting braced rest
        (p ++ more, left)
      let quoted := quoting == .double
      if braced && c == '}' then ([], rest)
      else
        match c with
        | '"' =>
            if quoted && !braced then ([], rest)
            else
              let (inner, left) := readParts n .double false rest
              on (if isArguments inner then inner else .quotation :: inner) left
        | '\\' =>
            match rest with
            | '\n' :: rest => on [] rest
            | d :: rest =>
                if quoted && d ∉ ['$', '\x60', '"', '\\'] then on [.text ['\\', d]] rest
                else on [.quotation, .text [d]] rest
            | [] => on [.text ['\\']] []
        | '$' =>
            match rest with
            | '\x7b' :: inner =>
                match parameterName inner with
                | none => on [.text ['$']] rest
                | some (name, after) =>
                    match after, fallbackMark after with
                    | '}' :: left, _ => on [.parameter name quoted none false []] left
                    | _, some (mark, strict, after) =>
                        let (other, left) := readParts n quoting true after
                        on [.parameter name quoted (some mark) strict other] left
                    | _, none => on [.text ['$']] rest
            | _ =>
                match parameterName rest with
                | some (name, left) => on [.parameter name quoted none false []] left
                | none => on [.text ['$']] rest
        | _ =>
            if quoted then on [.text [c]] rest
            else if c == '\'' then
              on [.quotation, .text (rest.takeWhile (· != '\''))]
                ((rest.dropWhile (· != '\'')).drop 1)
            else if !braced && endsWord c then ([], c :: rest)
            else on [.text [c]] rest

/-- Read a word. -/
def readWord (s : List Char) : Word × List Char := readParts (s.length + 1) .plain false s

/-! ## §2. Fields. -/

/-- Where the values of parameters come from. -/
structure Scope where
  values : Variables
  /-- The name of the script and its arguments. -/
  arguments : List String
  status : Nat

/-- The text that stands for the process itself. -/
def ownProcess : String := "4242"

namespace Scope

/-- The arguments without the name. -/
def positional (s : Scope) : List String := s.arguments.drop 1

/-- The value of a parameter. -/
def value? (s : Scope) (name : String) : Option String :=
  match name with
  | "$" => some ownProcess
  | "?" => some (toString s.status)
  | "#" => some (toString s.positional.length)
  | "@" | "*" =>
      if s.positional.isEmpty then none else some (String.intercalate " " s.positional)
  | "!" | "-" => some ""
  | name =>
      match name.toNat? with
      | some i => s.arguments[i]?
      | none => s.values.get? name

end Scope

/-- What a word expands to, character by character. -/
inductive Atom where
  | char (c : Char)
  /-- A field ends here. -/
  | gap
  /-- There is a field here. -/
  | field
  deriving DecidableEq

/-- The blanks at which values are cut. -/
def isSeparator (c : Char) : Bool := c == ' ' || c == '\t' || c == '\n'

/-- The atoms of a value. -/
def valueAtoms (quoted : Bool) (value : String) : List Atom :=
  value.toList.map fun c => if !quoted && isSeparator c then .gap else .char c

/-- The atoms of the list of all arguments. -/
def argumentAtoms : List String → List Atom
  | [] => []
  | [a] => .field :: valueAtoms true a
  | a :: rest => .field :: valueAtoms true a ++ .gap :: argumentAtoms rest

mutual

/-- The atoms of a part. -/
def partAtoms (s : Scope) : Part → List Atom
  | .text t => t.map .char
  | .quotation => [.field]
  | .parameter name quoted mark strict other =>
      let value := (s.value? name).filter fun v => !(strict && v.isEmpty)
      match mark, value with
      | some '+', some _ => wordAtoms s other
      | some '+', none => []
      | some _, none => wordAtoms s other
      | _, value =>
          if name == "@" && quoted then argumentAtoms s.positional
          else valueAtoms quoted (value.getD "")

/-- The atoms of a word. -/
def wordAtoms (s : Scope) : List Part → List Atom
  | [] => []
  | p :: rest => partAtoms s p ++ wordAtoms s rest

end

/-- The fields of atoms, given the field so far: none, or its characters backwards. -/
def fieldsFrom : Option (List Char) → List Atom → List String
  | some cs, [] => [String.ofList cs.reverse]
  | none, [] => []
  | some cs, .gap :: rest => String.ofList cs.reverse :: fieldsFrom none rest
  | none, .gap :: rest => fieldsFrom none rest
  | cs, .field :: rest => fieldsFrom (some (cs.getD [])) rest
  | cs, .char c :: rest => fieldsFrom (some (c :: cs.getD [])) rest

/-- The fields of a word. -/
def Word.fields (w : Word) (s : Scope) : List String := fieldsFrom none (wordAtoms s w)

/-- A word as one text, without cutting it. -/
def Word.joined (w : Word) (s : Scope) : String :=
  String.ofList ((wordAtoms s w).filterMap fun
    | .char c => some c
    | .gap => some ' '
    | .field => none)

/-- A word that is nothing but literal text without quotations, as that text. -/
def Word.bare? : Word → Option String
  | [] => some ""
  | .text t :: rest => (Word.bare? rest).map (String.ofList t ++ ·)
  | _ => none

end Failover.Shell
