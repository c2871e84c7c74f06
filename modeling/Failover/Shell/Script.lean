/-
  Failover.Shell.Script
  ─────────────────────
  **Scripts.** A script is cut into words and operators, and these are read
  as a command: simple commands with their redirections, pipelines,
  sequences, choices and loops.
-/
import Failover.Shell.Word

namespace Failover.Shell

/-! ## §1. Tokens. -/

/-- A word or an operator; a number right before a redirection is a descriptor. -/
inductive Token where
  | word (w : Word)
  | operator (name : String)
  | descriptor (number : Nat)

/-- The operators, a longer one before its beginnings. -/
def operators : List String :=
  ["&&", "||", ">>", ">&", "<&", ";", "&", "|", "<", ">", "(", ")", "\n"]

/-- The operator at the beginning of a text, and the rest. -/
def operatorAt (s : List Char) : Option (String × List Char) :=
  (operators.find? fun o => o.toList.isPrefixOf s).map fun o => (o, s.drop o.length)

/-- Cut a text into tokens; `n` is at least the length of the text. -/
def tokensFrom : Nat → List Char → List Token
  | 0, _ => []
  | _, [] => []
  | n + 1, c :: rest =>
      if c == ' ' || c == '\t' then tokensFrom n rest
      else if c == '#' then tokensFrom n (rest.dropWhile (· != '\n'))
      else
        match operatorAt (c :: rest) with
        | some (o, rest) => .operator o :: tokensFrom n rest
        | none =>
            let (w, rest) := readWord (c :: rest)
            match w.bare?.bind String.toNat?, rest.head?.any fun c => c == '<' || c == '>' with
            | some d, true => .descriptor d :: tokensFrom n rest
            | _, _ => .word w :: tokensFrom n rest

/-- The tokens of a script. -/
def tokens (script : String) : List Token := tokensFrom (script.length + 1) script.toList

/-! ## §2. Commands. -/

/-- A redirection: its operator, the descriptor before it, and its target. -/
structure Redirection where
  operator : String
  descriptor : Option Nat
  target : Word

/-- A command. -/
inductive Command where
  /-- A command that does nothing. -/
  | skip
  | simple (words : List Word) (redirections : List Redirection)
  /-- One after the other. -/
  | andThen (a b : Command)
  /-- The second one only if the first one succeeds. -/
  | ifOk (a b : Command)
  /-- The second one only if the first one fails. -/
  | ifFailed (a b : Command)
  | negated (a : Command)
  /-- The second one reads what the first one writes. -/
  | pipe (a b : Command)
  /-- The first one is not waited for. -/
  | background (a : Command)
  | subshell (a : Command)
  | choose (condition yes no : Command)
  | forEach (name : String) (words : List Word) (body : Command)
  /-- Repeat while the condition has the given outcome. -/
  | repeated (condition : Command) (outcome : Bool) (body : Command)

/-- The word that a token is, if it is one that may be reserved. -/
def Token.bare? : Token → Option String
  | .word w => w.bare?
  | _ => none

/-- The words that end a list of commands. -/
def closers : List String := ["do", "done", "then", "elif", "else", "fi", "\x7d"]

/-- Skip line breaks. -/
def skipBreaks : List Token → List Token
  | .operator "\n" :: rest => skipBreaks rest
  | ts => ts

/-- Skip the ends of commands. -/
def skipEnds : List Token → List Token
  | .operator "\n" :: rest => skipEnds rest
  | .operator ";" :: rest => skipEnds rest
  | ts => ts

/-- Skip a reserved word. -/
def skipReserved (name : String) (ts : List Token) : List Token :=
  match ts with
  | t :: rest => if t.bare? == some name then rest else ts
  | [] => []

/-- The words at the beginning of tokens, and the rest. -/
def leadingWords : List Token → List Word × List Token
  | .word w :: rest =>
      let (ws, left) := leadingWords rest
      (w :: ws, left)
  | ts => ([], ts)

/-- Whether an operator is a redirection. -/
def isRedirection (o : String) : Bool := [">", ">>", "<", ">&", "<&"].contains o

/-- The words and redirections of a simple command, and the rest. -/
def simpleParts : List Token → List Word × List Redirection × List Token
  | .word w :: rest =>
      let (ws, rs, left) := simpleParts rest
      (w :: ws, rs, left)
  | .descriptor d :: .operator o :: .word target :: rest =>
      let (ws, rs, left) := simpleParts rest
      (ws, ⟨o, some d, target⟩ :: rs, left)
  | .operator o :: .word target :: rest =>
      if isRedirection o then
        let (ws, rs, left) := simpleParts rest
        (ws, ⟨o, none, target⟩ :: rs, left)
      else ([], [], .operator o :: .word target :: rest)
  | ts => ([], [], ts)

mutual

/-- Read a list of commands up to a word or an operator that closes it. -/
def readList : Nat → List Token → Command × List Token
  | 0, ts => (.skip, ts)
  | n + 1, ts =>
      match skipEnds ts with
      | [] => (.skip, [])
      | .operator ")" :: rest => (.skip, .operator ")" :: rest)
      | t :: rest =>
          if closers.any fun c => t.bare? == some c then (.skip, t :: rest)
          else
            let (c, left) := readChain n (t :: rest)
            match left with
            | .operator "&" :: left =>
                let (more, left) := readList n left
                (.andThen (.background c) more, left)
            | .operator ";" :: left | .operator "\n" :: left =>
                let (more, left) := readList n left
                (.andThen c more, left)
            | left => (c, left)

/-- Read commands that depend on the outcome of those before them. -/
def readChain : Nat → List Token → Command × List Token
  | 0, ts => (.skip, ts)
  | n + 1, ts =>
      let (c, left) := readPipeline n ts
      readChainFrom n c left

/-- Go on with such commands behind a first one. -/
def readChainFrom : Nat → Command → List Token → Command × List Token
  | 0, c, ts => (c, ts)
  | n + 1, c, ts =>
      match ts with
      | .operator "&&" :: rest =>
          let (d, left) := readPipeline n (skipBreaks rest)
          readChainFrom n (.ifOk c d) left
      | .operator "||" :: rest =>
          let (d, left) := readPipeline n (skipBreaks rest)
          readChainFrom n (.ifFailed c d) left
      | ts => (c, ts)

/-- Read a pipeline. -/
def readPipeline : Nat → List Token → Command × List Token
  | 0, ts => (.skip, ts)
  | n + 1, ts =>
      match ts with
      | t :: rest =>
          if t.bare? == some "!" then
            let (c, left) := readPipeline n rest
            (.negated c, left)
          else
            let (c, left) := readCommand n (t :: rest)
            match left with
            | .operator "|" :: left =>
                let (d, left) := readPipeline n (skipBreaks left)
                (.pipe c d, left)
            | left => (c, left)
      | [] => (.skip, [])

/-- Read the branches of a choice behind its first word. -/
def readChoice : Nat → List Token → Command × List Token
  | 0, ts => (.skip, ts)
  | n + 1, ts =>
      let (condition, left) := readList n ts
      let (yes, left) := readList n (skipReserved "then" left)
      match left with
      | t :: rest =>
          match t.bare? with
          | some "elif" =>
              let (no, left) := readChoice n rest
              (.choose condition yes no, left)
          | some "else" =>
              let (no, left) := readList n rest
              (.choose condition yes no, skipReserved "fi" left)
          | _ => (.choose condition yes .skip, skipReserved "fi" (t :: rest))
      | [] => (.choose condition yes .skip, [])

/-- Read one command. -/
def readCommand : Nat → List Token → Command × List Token
  | 0, ts => (.skip, ts)
  | n + 1, ts =>
      match ts with
      | [] => (.skip, [])
      | .operator "(" :: rest =>
          let (c, left) := readList n rest
          (.subshell c, left.drop 1)
      | .operator o :: rest => readSimple (.operator o :: rest)
      | .descriptor d :: rest => readSimple (.descriptor d :: rest)
      | .word w :: rest =>
          match w.bare? with
          | some "\x7b" =>
              let (c, left) := readList n rest
              (c, skipReserved "\x7d" left)
          | some "if" => readChoice n rest
          | some "while" => readLoop n true rest
          | some "until" => readLoop n false rest
          | some "for" =>
              match rest with
              | .word name :: rest =>
                  let (ws, left) := leadingWords (skipReserved "in" rest)
                  let (body, left) := readList n (skipReserved "do" (skipEnds left))
                  (.forEach (name.bare?.getD "") ws body, skipReserved "done" left)
              | rest => (.skip, rest)
          | _ => readSimple (.word w :: rest)

/-- Read a loop behind its first word. -/
def readLoop : Nat → Bool → List Token → Command × List Token
  | 0, _, ts => (.skip, ts)
  | n + 1, outcome, ts =>
      let (condition, left) := readList n ts
      let (body, left) := readList n (skipReserved "do" left)
      (.repeated condition outcome body, skipReserved "done" left)

/-- Read a simple command. -/
def readSimple (ts : List Token) : Command × List Token :=
  let (ws, rs, left) := simpleParts ts
  match ws, rs, left with
  -- What cannot begin a command is left out.
  | [], [], _ :: left => (.skip, left)
  | ws, rs, left => (.simple ws rs, left)

end

/-- The command that a script is. -/
def Command.ofScript (script : String) : Command :=
  let ts := tokens script
  (readList (4 * ts.length + 8) ts).1

end Failover.Shell
