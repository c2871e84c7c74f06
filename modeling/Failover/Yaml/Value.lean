/-
  Failover.Yaml.Value
  ───────────────────
  **Plain data, and where it stands in a document.**  What is to be stored
  is a tree of texts, truth values, numbers, lists and mappings before it
  is a text.  How a writer lays such a tree out is its own business: which
  texts it quotes, where it breaks lines.  All that counts is what is found
  there by whoever reads the document:

      nothing      no text, where one may be missing
      a text       that text, be it asked for as one or as one that may be missing
      a list       its items in their order
      a mapping    its members in their order, under their names

  A writer can be relied on for a tree if the text that it writes is a
  document at the root of which the tree stands (`IsReadBack`).
-/
import Failover.Yaml.Reading

namespace Failover.Yaml

/-! ## §1. Trees of data. -/

/-- Plain data. -/
inductive Value where
  | nothing
  | flag (b : Bool)
  | natural (n : Nat)
  | text (s : String)
  | list (items : List Value)
  | mapping (members : List (String × Value))

namespace Value

/-- A text that may be missing. -/
def maybeText : Option String → Value
  | some s => .text s
  | none => .nothing

/-- The data of a field.  There is no field of numbers with a fraction. -/
def ofScalar : (t : Scalar) → t.Value → Value
  | .text, s => .text s
  | .flag, b => .flag b
  | .natural, n => .natural n
  | .double, _ => .nothing
  | .texts, l => .list (l.map .text)
  | .path, s => maybeText s
  | .maybeText, s => maybeText s

/-- The members of a record, all fields under their own names and in their order. -/
def members : (fields : List Field) → Values fields → List (String × Value)
  | [], _ => []
  | f :: rest, (v, vs) => (f.name, ofScalar f.type v) :: members rest vs

/-- The data of a record. -/
def ofRecord (fields : List Field) (vs : Values fields) : Value := .mapping (members fields vs)

/-! ## §2. Data in a document. -/

mutual

/-- Whether data stands at a node. -/
def isAt (d : Document) : Value → Node → Bool
  | .nothing, n => d.maybeText n == some none
  | .flag b, n => d.flag n == some b
  | .natural k, n => d.natural n == some k
  | .text s, n => d.text n == some s && d.maybeText n == some (some s)
  | .list vs, n =>
      match d.items n with
      | some ns => areItems d vs ns
      | none => false
  | .mapping ms, n =>
      match d.members n with
      | some l => areMembers d ms l
      | none => false

/-- Whether the items of a list stand at nodes, one after the other. -/
def areItems (d : Document) : List Value → List Node → Bool
  | [], [] => true
  | v :: vs, n :: ns => v.isAt d n && areItems d vs ns
  | _, _ => false

/-- Whether the members of a mapping stand at nodes under their names, one after the other. -/
def areMembers (d : Document) : List (String × Value) → List (String × Node) → Bool
  | [], [] => true
  | (name, v) :: ms, (name', n) :: l => name == name' && v.isAt d n && areMembers d ms l
  | _, _ => false

end

/-- **Data is read back** from a text: the text is a document at whose root the data stands. -/
def IsReadBack (v : Value) (text : String) : Prop :=
  ∃ d, Document.ofText? text = some d ∧ v.isAt d d.root = true

theorem isReadBack_iff {v : Value} {text : String} :
    v.IsReadBack text ↔ (Document.ofText? text).any (fun d => v.isAt d d.root) = true :=
  (Option.any_eq_true ..).symm

end Value

end Failover.Yaml
