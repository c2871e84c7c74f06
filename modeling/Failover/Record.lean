/-
  Failover.Record
  ───────────────
  **Records of named fields, described once for every notation.** A field
  has a name, further names under which it is read, a type and, unless it
  is required, a default.  The description of a record is a list of
  fields, and it determines the type of the values (`Values`): a tuple
  with one component for each field.

  While a record is read its values come in any order; a `Draft` has a
  slot for each field, and `complete` turns the filled slots into values.
-/
import Failover.Decimal.Double

namespace Failover

/-! ## §1. Types of fields. -/

/-- The types of fields. -/
inductive Scalar where
  | text
  | flag
  | natural
  | double
  | texts
  /-- A text that may be missing, and that is the path of a file. -/
  | path
  /-- A text that may be missing. -/
  | maybeText
  deriving DecidableEq

/-- The values of a type. -/
abbrev Scalar.Value : Scalar → Type
  | .text => String
  | .flag => Bool
  | .natural => Nat
  | .double => Decimal.Double
  | .texts => List String
  | .path => Option String
  | .maybeText => Option String

/-! ## §2. Descriptions. -/

/-- A field of a record. -/
structure Field where
  name : String
  aliases : List String
  type : Scalar
  /-- The value of a field that is missing, unless the field is required. -/
  default : Option type.Value

/-- Whether a field is read under a name. -/
def Field.answers (f : Field) (name : String) : Bool := f.name == name || f.aliases.contains name

/-- A record: what it is called in messages, and its fields in their order. -/
structure Record where
  title : String
  fields : List Field

/-! ## §3. Values. -/

/-- The values of fields, in their order. -/
def Values : List Field → Type
  | [] => Unit
  | f :: rest => f.type.Value × Values rest

/-- The values of fields as far as they are known. -/
def Draft : List Field → Type
  | [] => Unit
  | f :: rest => Option f.type.Value × Draft rest

/-- Nothing is known. -/
def Draft.blank : (fields : List Field) → Draft fields
  | [] => ()
  | _ :: rest => (none, blank rest)

/-- The values of a draft, with defaults for those that are missing; else the name of the first
field that is required and missing. -/
def Draft.complete : (fields : List Field) → Draft fields → Except String (Values fields)
  | [], _ => .ok ()
  | f :: rest, (slot, more) =>
      match slot.or f.default with
      | none => .error f.name
      | some v =>
          match complete rest more with
          | .ok vs => .ok (v, vs)
          | .error name => .error name

/-- Filling all slots completes a draft with these values. -/
def Draft.full : (fields : List Field) → Values fields → Draft fields
  | [], _ => ()
  | _ :: rest, (v, vs) => (some v, full rest vs)

theorem Draft.complete_full (fields : List Field) (vs : Values fields) :
    complete fields (full fields vs) = .ok vs := by
  induction fields with
  | nil => rfl
  | cons f rest ih =>
      obtain ⟨v, vs⟩ := vs
      simp only [full, complete, Option.some_or, ih]

end Failover
