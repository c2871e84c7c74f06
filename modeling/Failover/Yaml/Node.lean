/-
  Failover.Yaml.Node
  ──────────────────
  **A YAML text as a tree.** A node is nothing, a single value, a list, a
  mapping or an alias; a text holds at most one document.

  An alias names an anchor by a number, and the number of an anchor is how
  many names of anchors were known before it.  An anchor with a name that
  is known already takes the next number without making it known, so a
  later anchor can take the same one; of several nodes with one number the
  alias means the last (`Document.target?`).
-/
import Failover.Yaml.Token

namespace Failover.Yaml

/-! ## §1. Trees. -/

/-- A node of a document. -/
inductive Node where
  | void
  | scalar (text : List Char) (style : Style) (type : Option (List Char))
  | list (items : List Node)
  | mapping (members : List (Node × Node))
  | alias (number : Nat)

/-- The value of a place that holds nothing. -/
def Node.empty (type : Option (List Char)) : Node := .scalar [] .plain type

/-- A node with an anchor, and how many nodes with one began before it. -/
structure Anchored where
  number : Nat
  order : Nat
  node : Node

/-- A document. -/
structure Document where
  root : Node
  anchored : List Anchored

/-- The node that an alias means. -/
def Document.target? (d : Document) (number : Nat) : Option Node :=
  (d.anchored.foldl (fun best a =>
    if a.number = number ∧ best.all (·.order < a.order) then some a else best)
    (none : Option Anchored)).map (·.node)

/-! ## §2. Taking tokens. -/

/-- What is known while a document is put together. -/
structure Assembly where
  tokens : List Token
  /-- Handles of types with what they stand for. -/
  handles : List (List Char × List Char)
  /-- Names of anchors with their numbers. -/
  names : List (List Char × Nat)
  begun : Nat
  anchored : List Anchored

/-- Putting a document together; it may fail. -/
abbrev Assembling (α : Type) : Type := StateT Assembly Option α

namespace Assembling

/-- The next token. -/
def peek : Assembling (Option Token) := do return (← get).tokens.head?

/-- Pass over a token. -/
def skip : Assembling Unit := modify fun a => { a with tokens := a.tokens.drop 1 }

/-- Pass over a token that has to be there. -/
def expect (t : Token) : Assembling Unit := do
  if (← peek) = some t then skip else failure

/-- The type that a tag names. -/
def typeOf (handle rest : List Char) : Assembling (List Char) := do
  if handle.isEmpty then return rest
  else
    match (← get).handles.lookup handle with
    | some target => return target ++ rest
    | none => failure

/-- The anchor and the type before a node, in either order. -/
def properties : Assembling (Option (List Char) × Option (List Char)) := do
  match ← peek with
  | some (.anchor name) =>
      skip
      match ← peek with
      | some (.tag handle rest) =>
          skip
          return (some name, some (← typeOf handle rest))
      | _ => return (some name, none)
  | some (.tag handle rest) =>
      skip
      match ← peek with
      | some (.anchor name) =>
          skip
          return (some name, some (← typeOf handle rest))
      | _ => return (none, some (← typeOf handle rest))
  | _ => return (none, none)

/-- Give an anchor its number; with it comes how many nodes with an anchor began before. -/
def number (name : List Char) : Assembling (Nat × Nat) := do
  let a ← get
  let n := a.names.length
  let names := if (a.names.lookup name).isSome then
      a.names.map fun p => if p.1 = name then (name, n) else p
    else (name, n) :: a.names
  set { a with names := names, begun := a.begun + 1 }
  return (n, a.begun)

/-- Read a node that has an anchor or not. -/
def anchoredAs (name : Option (List Char)) (read : Assembling Node) : Assembling Node := do
  match name with
  | none => read
  | some name =>
      let (n, order) ← number name
      let node ← read
      modify fun a => { a with anchored := ⟨n, order, node⟩ :: a.anchored }
      return node

end Assembling

open Assembling

/-! ## §3. Nodes. -/

/-- Where a node stands: in a block, in a block as the value or the key of a mapping, where a list
may begin without being deeper, or inside brackets. -/
inductive Position where
  | block
  | member
  | flow
  deriving DecidableEq

/-- A node that has an anchor or a type and nothing else. -/
def emptyNode (name type : Option (List Char)) : Assembling Node :=
  if name.isNone && type.isNone then failure else anchoredAs name (pure (.empty type))

/-- The node at a place, or nothing before one of these tokens. -/
def nodeUnless (stops : List Token) (read : Assembling Node) : Assembling Node := do
  match ← peek with
  | some t => if stops.contains t then return .empty none else read
  | none => read

/-- The value of a member, if there is one. -/
def valueUnless (stops : List Token) (read : Assembling Node) : Assembling Node := do
  if (← peek) = some .value then
    skip
    nodeUnless stops read
  else return .empty none

mutual

/-- A node.  Each level of depth and each part of a level takes a token or two, so twice the number
of tokens bounds the rounds. -/
def readNode : Nat → Position → Assembling Node
  | 0, _ => failure
  | fuel + 1, position => do
      match ← peek with
      | some (.alias name) =>
          match (← get).names.lookup name with
          | some n =>
              skip
              return .alias n
          | none => failure
      | _ =>
          let (name, type) ← properties
          match ← peek with
          | some (.scalar text style) =>
              skip
              anchoredAs name (pure (.scalar text style type))
          | some .blockEntry =>
              if position = .member then
                anchoredAs name (do return .list (← readEntries fuel true []))
              else emptyNode name type
          | some .flowSequenceStart =>
              skip
              anchoredAs name (do return .list (← readFlowItems fuel true []))
          | some .flowMappingStart =>
              skip
              anchoredAs name (do return .mapping (← readFlowMembers fuel true []))
          | some .blockSequenceStart =>
              if position = .flow then emptyNode name type
              else
                skip
                anchoredAs name (do return .list (← readEntries fuel false []))
          | some .blockMappingStart =>
              if position = .flow then emptyNode name type
              else
                skip
                anchoredAs name (do return .mapping (← readMembers fuel []))
          | _ => emptyNode name type

/-- The entries of a list in a block, up to its end; a list that is not deeper than the block
around it (`level`) has no end of its own. -/
def readEntries : Nat → Bool → List Node → Assembling (List Node)
  | 0, _, _ => failure
  | fuel + 1, level, acc => do
      match ← peek with
      | some .blockEntry =>
          skip
          let stops := if level then [Token.blockEntry, .key, .value, .blockEnd]
            else [.blockEntry, .blockEnd]
          let item ← nodeUnless stops (readNode fuel .block)
          readEntries fuel level (item :: acc)
      | some .blockEnd =>
          if !level then skip
          return acc.reverse
      | _ => if level then return acc.reverse else failure

/-- The members of a mapping in a block, up to its end. -/
def readMembers : Nat → List (Node × Node) → Assembling (List (Node × Node))
  | 0, _ => failure
  | fuel + 1, acc => do
      match ← peek with
      | some .key =>
          skip
          let stops := [Token.key, .value, .blockEnd]
          let k ← nodeUnless stops (readNode fuel .member)
          let v ← valueUnless stops (readNode fuel .member)
          readMembers fuel ((k, v) :: acc)
      | some .blockEnd =>
          skip
          return acc.reverse
      | _ => failure

/-- The items of a list in brackets, up to the closing one.  An item may be a mapping of one member
without brackets of its own; where its key is missing, the token behind it is passed over. -/
def readFlowItems : Nat → Bool → List Node → Assembling (List Node)
  | 0, _, _ => failure
  | fuel + 1, first, acc => do
      if (← peek) = some .flowSequenceEnd then
        skip
        return acc.reverse
      else
        if !first then expect .flowEntry
        match ← peek with
        | some .flowSequenceEnd =>
            skip
            return acc.reverse
        | some .key =>
            skip
            let k ← (do
              match ← peek with
              | some .value | some .flowEntry | some .flowSequenceEnd =>
                  skip
                  return .empty none
              | _ => readNode fuel .flow)
            let v ← valueUnless [.flowEntry, .flowSequenceEnd] (readNode fuel .flow)
            readFlowItems fuel false (.mapping [(k, v)] :: acc)
        | _ =>
            let item ← readNode fuel .flow
            readFlowItems fuel false (item :: acc)

/-- The members of a mapping in brackets, up to the closing one. -/
def readFlowMembers : Nat → Bool → List (Node × Node) → Assembling (List (Node × Node))
  | 0, _, _ => failure
  | fuel + 1, first, acc => do
      if (← peek) = some .flowMappingEnd then
        skip
        return acc.reverse
      else
        if !first then expect .flowEntry
        match ← peek with
        | some .flowMappingEnd =>
            skip
            return acc.reverse
        | some .key =>
            skip
            let k ← nodeUnless [.value, .flowEntry, .flowMappingEnd] (readNode fuel .flow)
            let v ← valueUnless [.flowEntry, .flowMappingEnd] (readNode fuel .flow)
            readFlowMembers fuel false ((k, v) :: acc)
        | _ =>
            let k ← readNode fuel .flow
            readFlowMembers fuel false ((k, .empty none) :: acc)

end

/-! ## §4. Documents. -/

/-- The handles that need no directive. -/
def standardHandles : List (List Char × List Char) :=
  [(['!'], ['!']), (['!', '!'], "tag:yaml.org,2002:".toList)]

/-- The directives before a document.  A version has to be one of the two known ones and may be
told once, and so may a handle. -/
def readDirectives : Nat → Bool → List (List Char × List Char) →
    Assembling (Bool × List (List Char × List Char))
  | 0, _, _ => failure
  | fuel + 1, versioned, handles => do
      match ← peek with
      | some (.version major minor) =>
          if versioned || major ≠ 1 || (minor ≠ 1 && minor ≠ 2) then failure
          else
            skip
            readDirectives fuel true handles
      | some (.handle name target) =>
          if (handles.lookup name).isSome then failure
          else
            skip
            readDirectives fuel versioned (handles ++ [(name, target)])
      | _ => return (versioned, handles)

/-- The document of a text: nothing if the text is empty.  Behind it there may be nothing but marks
of its end. -/
def readDocument : Assembling Document := do
  let size := 2 * (← get).tokens.length + 4
  match ← peek with
  | none => return ⟨.void, []⟩
  | some first =>
      let (versioned, handles) ← readDirectives size false []
      modify fun a => { a with handles := handles ++ standardHandles }
      let explicit := versioned || !handles.isEmpty || first == .documentStart
      if explicit then expect .documentStart
      let root ← (do
        match ← peek with
        | none => if explicit then return .empty none else failure
        | some t =>
            if explicit && (isDirective t || t == .documentStart || t == .documentEnd) then
              return .empty none
            else readNode size .block)
      modify fun a => { a with tokens := a.tokens.dropWhile (· == .documentEnd) }
      match ← peek with
      | none => return ⟨root, (← get).anchored⟩
      | some _ => failure
where
  /-- Whether a token is a directive. -/
  isDirective : Token → Bool
    | .version .. | .handle .. => true
    | _ => false

/-- The document that a text spells. -/
def Document.ofText? (text : String) : Option Document := do
  let tokens ← Token.scan text.toList
  return (← readDocument.run ⟨tokens, [], [], 0, []⟩).1

end Failover.Yaml
