/-
  Failover.Yaml.Reading
  ─────────────────────
  **Values and records from a document.** A text is any single value,
  however it is written; truth values and numbers have to be plain.
  Nothing at all is an empty list and an empty mapping.  In a record names
  that nobody asked for are passed over, and no field may be told twice.
-/
import Failover.Yaml.Node
import Failover.Record

namespace Failover.Yaml

namespace Document

/-! ## §1. Single values. -/

/-- The node that stands for a node: an alias stands for the node it means. -/
def resolve (d : Document) (n : Node) : Option Node :=
  match n with
  | .alias number => d.target? number
  | n => some n

/-- The standard type of a name. -/
def standardType (name : String) : List Char := "tag:yaml.org,2002:".toList ++ name.toList

/-- A text. -/
def text (d : Document) (n : Node) : Option String :=
  match d.resolve n with
  | some (.scalar s _ _) => some (String.ofList s)
  | _ => none

/-- The characters of a plain value, or of a literal block of the given type. -/
def plain (d : Document) (type : String) (n : Node) : Option (List Char) :=
  match d.resolve n with
  | some (.scalar s .plain _) => some s
  | some (.scalar s .literal (some t)) => if t = standardType type then some s else none
  | _ => none

/-- A truth value. -/
def flag (d : Document) (n : Node) : Option Bool := do
  let s ← d.plain "bool" n
  if ["true", "True", "TRUE"].contains (String.ofList s) then some true
  else if ["false", "False", "FALSE"].contains (String.ofList s) then some false
  else none

/-- The number that digits of a base spell, if it fits 64 bits. -/
def digitsNumber (base : Nat) (s : List Char) : Option Nat := do
  if s.isEmpty then none
  else
    let n ← s.foldlM (fun n c => do
      let v ← hexValue c
      if v < base then some (n * base + v) else none) 0
    if n < UInt64.size then some n else none

/-- The natural number that a plain value spells: in base ten without a leading nought, or in
another base behind its mark; a plus sign before it does not count. -/
def spelledNatural (s : List Char) : Option Nat :=
  let body := if s.head? = some '+' then s.drop 1 else s
  match body with
  | '0' :: 'x' :: rest => digitsNumber 16 rest
  | '0' :: 'o' :: rest => digitsNumber 8 rest
  | '0' :: 'b' :: rest => digitsNumber 2 rest
  | '0' :: _ :: _ => none
  | body => digitsNumber 10 body

/-- A natural number. -/
def natural (d : Document) (n : Node) : Option Nat := (d.plain "int" n).bind spelledNatural

/-- Whether a plain value spells nothing. -/
def isNull (s : List Char) : Bool := ["null", "Null", "NULL", "~"].contains (String.ofList s)

/-- A text that may be missing. A value of the type of nothing has to spell it. -/
def maybeText (d : Document) (n : Node) : Option (Option String) :=
  match d.resolve n with
  | some .void => some none
  | some (.scalar s .plain type) =>
      match type with
      | some t =>
          if t = standardType "null" then (if isNull s then some none else none)
          else some (some (String.ofList s))
      | none => if s.isEmpty || isNull s then some none else some (some (String.ofList s))
  | some (.scalar s _ _) => some (some (String.ofList s))
  | _ => none

/-! ## §2. Lists and mappings. -/

/-- Whether a node is nothing at all. -/
def isNothing : Node → Bool
  | .void => true
  | .scalar [] .plain _ => true
  | _ => false

/-- The items of a list. -/
def items (d : Document) (n : Node) : Option (List Node) :=
  match d.resolve n with
  | some (.list l) => some l
  | some n => if isNothing n then some [] else none
  | none => none

/-- The members of a mapping, their names read as texts. -/
def members (d : Document) (n : Node) : Option (List (String × Node)) :=
  match d.resolve n with
  | some (.mapping l) => l.mapM fun (k, v) => (d.text k).map (·, v)
  | some n => if isNothing n then some [] else none
  | none => none

/-- The member for which a field asks, with its value read; the default if there is none.  Two of
them are refused. -/
def member {α : Type} (ms : List (String × Node)) (answers : String → Bool) (default : Option α)
    (read : Node → Option α) : Option α :=
  match ms.filter fun m => answers m.1 with
  | [] => default
  | [m] => read m.2
  | _ => none

/-! ## §3. Records. -/

/-- A value of a field.  There is no field of numbers with a fraction. -/
def scalar (d : Document) : (t : Scalar) → Node → Option t.Value
  | .text, n => d.text n
  | .flag, n => d.flag n
  | .natural, n => d.natural n
  | .double, _ => none
  | .texts, n => (d.items n).bind fun l => l.mapM d.text
  | .path, n => d.maybeText n
  | .maybeText, n => d.maybeText n

/-- The values of fields among the members of a mapping. -/
def fields (d : Document) (ms : List (String × Node)) : (fs : List Field) → Option (Values fs)
  | [] => some ()
  | f :: rest => do
      let v ← member ms f.answers f.default (d.scalar f.type)
      return (v, ← fields d ms rest)

/-- A record. -/
def record (d : Document) (fs : List Field) (n : Node) : Option (Values fs) := do
  d.fields (← d.members n) fs

end Document

end Failover.Yaml
