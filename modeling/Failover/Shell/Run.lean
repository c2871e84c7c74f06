/-
  Failover.Shell.Run
  ──────────────────
  **What a script does.** Running a script gives the acts that can be seen
  from outside: what it writes to its standard output, how it lets time
  pass, and where it waits for the end of its input.  Everything else that
  a script can do leaves no trace here.
-/
import Failover.Environment
import Failover.Host.Act
import Failover.Shell.Script
import Failover.Text.Utf8

namespace Failover.Shell

open Host

/-! ## §1. Bytes of texts. -/

/-- The number that up to `n` octal digits spell, and the rest. -/
def octal : Nat → Nat → List Char → Nat × List Char
  | 0, v, s => (v, s)
  | n + 1, v, c :: rest =>
      if '0' ≤ c && c ≤ '7' then octal n (v * 8 + (c.toNat - 48)) rest else (v, c :: rest)
  | _ + 1, v, [] => (v, [])

/-- The byte of an escape that is named by one letter. -/
def namedEscape? : Char → Option UInt8
  | 'a' => some 7
  | 'b' => some 8
  | 'f' => some 12
  | 'n' => some 10
  | 'r' => some 13
  | 't' => some 9
  | 'v' => some 11
  | '\\' => some 92
  | _ => none

/-- How octal escapes are written: with a leading nought, or without. -/
inductive OctalForm where
  | marked
  | bare
  deriving DecidableEq

/-- The bytes of a text with escapes, and whether an escape ended it early; `n` is at least the
length of the text. -/
def unescape (form : OctalForm) : Nat → List Char → List UInt8 × Bool
  | 0, _ => ([], false)
  | _, [] => ([], false)
  | n + 1, '\\' :: c :: rest =>
      let on (bytes : List UInt8) (rest : List Char) : List UInt8 × Bool :=
        let (more, ended) := unescape form n rest
        (bytes ++ more, ended)
      if form = .marked && c == 'c' then ([], true)
      else
        match namedEscape? c with
        | some b => on [b] rest
        | none =>
            if form = .marked && c == '0' then
              let (v, left) := octal 3 0 rest
              on [UInt8.ofNat v] left
            else if form = .bare && '0' ≤ c && c ≤ '7' then
              let (v, left) := octal 3 0 (c :: rest)
              on [UInt8.ofNat v] left
            else on (Text.Utf8.encode ['\\', c]) rest
  | n + 1, c :: rest =>
      let (more, ended) := unescape form n rest
      (Text.Utf8.encode [c] ++ more, ended)

/-- What `echo` writes. -/
def echoed (args : List String) : List UInt8 :=
  let (args, lineEnd) : List String × List UInt8 := match args with
    | "-n" :: rest => (rest, [])
    | args => (args, [10])
  let text := String.intercalate " " args
  let (bytes, ended) := unescape .marked (text.length + 1) text.toList
  if ended then bytes else bytes ++ lineEnd

/-- One pass over a format: the bytes, the arguments that are left, and whether any was used. -/
def formatOnce : Nat → List Char → List String → List UInt8 × List String × Bool
  | 0, _, args => ([], args, false)
  | _, [], args => ([], args, false)
  | n + 1, '%' :: c :: rest, args =>
      let on (bytes : List UInt8) (args : List String) (used : Bool) :
          List UInt8 × List String × Bool :=
        let (more, left, used') := formatOnce n rest args
        (bytes ++ more, left, used || used')
      let arg := args.headD ""
      match c with
      | '%' => on [37] args false
      | 's' => on (Text.Utf8.bytesOf arg) (args.drop 1) true
      | 'b' => on (unescape .marked (arg.length + 1) arg.toList).1 (args.drop 1) true
      | 'c' => on (Text.Utf8.encode (arg.toList.take 1)) (args.drop 1) true
      | 'd' | 'i' | 'u' =>
          on (Text.Utf8.bytesOf (if arg.toInt?.isSome then arg else "0")) (args.drop 1) true
      | _ => on (Text.Utf8.encode ['%', c]) args false
  | n + 1, '\\' :: rest, args =>
      let digits := (rest.take 3).takeWhile fun c => '0' ≤ c && c ≤ '7'
      let length := max 1 digits.length
      let (bytes, _) := unescape .bare (length + 2) ('\\' :: rest.take length)
      let (more, left, used) := formatOnce n (rest.drop length) args
      (bytes ++ more, left, used)
  | n + 1, c :: rest, args =>
      let (more, left, used) := formatOnce n rest args
      (Text.Utf8.encode [c] ++ more, left, used)

/-- What `printf` writes: the format is used again as long as there are arguments for it. -/
def printed (format : String) : Nat → List String → List UInt8
  | 0, _ => []
  | n + 1, args =>
      let (bytes, left, used) := formatOnce (format.length + 1) format.toList args
      if used && !left.isEmpty then bytes ++ printed format n left else bytes

/-- The bytes of a set of characters with its ranges. -/
def setBytes : List UInt8 → List UInt8
  | a :: 45 :: b :: rest =>
      ((List.range (b.toNat + 1 - a.toNat)).map fun i => UInt8.ofNat (a.toNat + i)) ++
        setBytes rest
  | a :: rest => a :: setBytes rest
  | [] => []

/-- The bytes of a set that is written with escapes. -/
def setOf (text : String) : List UInt8 :=
  setBytes (unescape .bare (text.length + 1) text.toList).1

/-- Replace each byte of one set by that of another one at its place; the last one stands for all
that have none. -/
def translate (source target : List UInt8) (bytes : List UInt8) : List UInt8 :=
  bytes.map fun b =>
    match source.findIdx? (· == b) with
    | some i => (target[i]?).getD (target.getLastD b)
    | none => b

/-- The first lines of some bytes. -/
def firstLines : Nat → List UInt8 → List UInt8
  | 0, _ => []
  | _, [] => []
  | n + 1, b :: rest => b :: (if b = 10 then firstLines n rest else firstLines (n + 1) rest)

/-- The milliseconds of a duration in seconds. -/
def milliseconds (text : String) : Nat :=
  let s := text.toList
  let whole := s.takeWhile Char.isDigit
  let rest := s.dropWhile Char.isDigit
  let part := if rest.head? = some '.' then (rest.drop 1).takeWhile Char.isDigit else []
  let number (l : List Char) : Nat := ((String.ofList l).toNat?).getD 0
  let unit := match text.toList.getLast? with
    | some 'm' => 60
    | some 'h' => 3600
    | some 'd' => 86400
    | _ => 1
  unit * (number whole * 1000 + number ((part ++ ['0', '0', '0']).take 3))

/-! ## §2. The state of a shell. -/

/-- A shell that runs a script. -/
structure Session where
  scope : Scope
  /-- What there is to read, if that is not the input of the process. -/
  input : Option (List UInt8)
  acts : List Act
  ended : Bool

namespace Session

/-- A command was run; these acts and this outcome are its own. -/
def did (sh : Session) (acts : List Act) (status : Nat) : Session :=
  { sh with acts := sh.acts ++ acts, scope := { sh.scope with status := status } }

/-- Something is written. -/
def wrote (sh : Session) (bytes : List UInt8) : Session :=
  sh.did (if bytes.isEmpty then [] else [.write bytes]) 0

/-- Nothing but an outcome. -/
def came (sh : Session) (ok : Bool) : Session := sh.did [] (if ok then 0 else 1)

/-- Whether the last command succeeded. -/
def succeeded (sh : Session) : Bool := sh.scope.status == 0

/-- A variable is set. -/
def set (sh : Session) (name value : String) : Session :=
  { sh with scope := { sh.scope with values := sh.scope.values.insert name value } }

/-- Everything that is left to read is read: the bytes, and the shell after that. -/
def readAll (sh : Session) : List UInt8 × Session :=
  match sh.input with
  | some bytes => (bytes, { sh with input := some [] })
  | none => ([], { sh with acts := sh.acts ++ [.untilInputEnds] })

/-- What a file holds, or what there is to read. -/
def readFile (sh : Session) (files : List String) : List UInt8 × Session :=
  match files with
  | [] | ["-"] => sh.readAll
  | _ => ([], sh)

/-- The shell stops. -/
def stopped (sh : Session) : Session := { sh with ended := true }

end Session

/-! ## §3. Commands. -/

/-- The beginning of a file that holds nothing but noughts, or of what there is to read. -/
def head (sh : Session) (args : List String) : Session :=
  let (count, lines, files) : Nat × Bool × List String := match args with
    | "-c" :: n :: files => (n.toNat?.getD 0, false, files)
    | "-n" :: n :: files => (n.toNat?.getD 0, true, files)
    | a :: files =>
        match a.toList with
        | '-' :: 'c' :: n => ((String.ofList n).toNat?.getD 0, false, files)
        | '-' :: 'n' :: n => ((String.ofList n).toNat?.getD 0, true, files)
        | '-' :: n => ((String.ofList n).toNat?.getD 10, true, files)
        | _ => (10, true, a :: files)
    | [] => (10, true, [])
  if files == ["/dev/zero"] then sh.wrote (List.replicate count 0)
  else
    let (bytes, sh) := sh.readFile files
    sh.wrote (if lines then firstLines count bytes else bytes.take count)

/-- Whether a condition holds. -/
def holds : List String → Bool
  | [] => false
  | [a] => !a.isEmpty
  | ["!", a] => a.isEmpty
  | ["-n", a] => !a.isEmpty
  | ["-z", a] => a.isEmpty
  | ["!", "-n", a] => a.isEmpty
  | ["!", "-z", a] => !a.isEmpty
  | [a, "=", b] | [a, "==", b] => a == b
  | [a, "!=", b] => a != b
  | [a, "-eq", b] => a.toInt? == b.toInt?
  | [a, "-ne", b] => a.toInt? != b.toInt?
  | [a, "-lt", b] => (a.toInt?.getD 0) < (b.toInt?.getD 0)
  | [a, "-le", b] => (a.toInt?.getD 0) ≤ (b.toInt?.getD 0)
  | [a, "-gt", b] => (b.toInt?.getD 0) < (a.toInt?.getD 0)
  | [a, "-ge", b] => (b.toInt?.getD 0) ≤ (a.toInt?.getD 0)
  | _ => false

/-- Whether a signal by which a process is killed is sent to the process itself. -/
def killsItself (args : List String) : Bool :=
  args.contains ownProcess && !args.contains "-0"

/-- The words that set a variable, and the name and the value. -/
def assignment? (text : String) : Option (String × String) :=
  let s := text.toList
  let name := s.takeWhile (· != '=')
  if name.length < s.length && name.head?.any startsName && name.all inName then
    some (String.ofList name, String.ofList (s.drop (name.length + 1)))
  else none

/-- Numbers one after the other, each on a line. -/
def sequence (first last : Nat) : List UInt8 :=
  (List.range (last + 1 - first)).flatMap fun i => Text.Utf8.bytesOf (toString (first + i) ++ "\n")

/-- The name of a command without the directories before it. -/
def baseName (name : String) : String :=
  String.ofList ((name.toList.reverse.takeWhile (· != '/')).reverse)

/-- Run a command that is given as fields. -/
def runFields (sh : Session) : List String → Session
  | [] => sh.came true
  | name :: args =>
      match baseName name with
      | "echo" => sh.wrote (echoed args)
      | "printf" =>
          match args with
          | "--" :: format :: args | format :: args =>
              sh.wrote (printed format (args.length + 1) args)
          | [] => sh.did [] 2
      | ":" | "true" | "wait" | "trap" | "export" | "unset" | "umask" | "cd" => sh.came true
      | "false" => sh.came false
      | "exit" | "return" =>
          ({ sh.did [] ((args.head?.bind String.toNat?).getD sh.scope.status) with ended := true })
      | "sleep" => sh.did [.pause ((args.map milliseconds).foldl (· + ·) 0)] 0
      | "cat" =>
          let (bytes, sh) := sh.readFile args
          sh.wrote bytes
      | "read" =>
          let (_, sh) := sh.readAll
          sh.came false
      | "head" => head sh args
      | "tr" =>
          let (bytes, sh) := sh.readAll
          match args with
          | ["-d", a] => sh.wrote (bytes.filter fun b => !(setOf a).contains b)
          | [a, b] => sh.wrote (translate (setOf a) (setOf b) bytes)
          | _ => sh.did [] 1
      | "seq" =>
          match args.filterMap String.toNat? with
          | [n] => sh.wrote (sequence 1 n)
          | [m, n] => sh.wrote (sequence m n)
          | _ => sh.did [] 1
      | "kill" => if killsItself args then sh.stopped else sh.came true
      | "test" => sh.came (holds args)
      | "[" => sh.came (holds args.dropLast)
      | "set" =>
          match args with
          | "--" :: args =>
              { sh.came true with
                scope := { sh.scope with
                  arguments := sh.scope.arguments.take 1 ++ args
                  status := 0 } }
          | _ => sh.came true
      | "shift" =>
          { sh.came true with
            scope := { sh.scope with
              arguments := sh.scope.arguments.take 1 ++ sh.scope.positional.drop 1
              status := 0 } }
      -- There is no such command.
      | _ => sh.did [] 127

/-- Run a command that may take over the process. -/
def runTaken (sh : Session) : List String → Session
  | "exec" :: command :: args => (runFields sh (command :: args)).stopped
  | fields => runFields sh fields

/-- Whether redirections lead what is written away from the standard output. -/
def diverts (rs : List Redirection) : Bool :=
  rs.any fun r => [">", ">>", ">&"].contains r.operator && r.descriptor.getD 1 == 1

/-- Whether redirections give something else to read. -/
def feeds (rs : List Redirection) : Bool := rs.any fun r => r.operator == "<"

/-- Set the variables that words set. -/
def assignAll (sh : Session) (words : List Word) : Session :=
  words.foldl (fun sh w =>
    match assignment? (w.joined sh.scope) with
    | some (name, value) => sh.set name value
    | none => sh) sh

/-- Whether a word sets a variable. -/
def isAssignment (w : Word) : Bool :=
  match w with
  | .text _ :: _ =>
      let literal := w.map fun
        | .text t => t
        | _ => ['"']
      (assignment? (String.ofList literal.flatten)).isSome
  | _ => false

/-- Run a simple command. -/
def runSimple (sh : Session) (words : List Word) (rs : List Redirection) : Session :=
  let assigned := words.takeWhile isAssignment
  let commandWords := words.dropWhile isAssignment
  let fields := commandWords.flatMap fun w => w.fields sh.scope
  match fields with
  | [] => (assignAll sh assigned).came true
  | fields =>
      let fed := if feeds rs then { sh with input := some [] } else sh
      let after := runTaken { fed with acts := [] } fields
      let acts := if diverts rs then Act.silent after.acts else after.acts
      { after with
        acts := sh.acts ++ acts
        input := if feeds rs then sh.input else after.input }

/-- How often a loop is repeated at most. -/
def mostRounds : Nat := 1000

/-- Run a command. -/
def run : Command → Session → Session
  | .skip, sh => sh
  | .simple words rs, sh => if sh.ended then sh else runSimple sh words rs
  | .andThen a b, sh => run b (run a sh)
  | .ifOk a b, sh =>
      let sh := run a sh
      if sh.ended || !sh.succeeded then sh else run b sh
  | .ifFailed a b, sh =>
      let sh := run a sh
      if sh.ended || sh.succeeded then sh else run b sh
  | .negated a, sh =>
      let sh := run a sh
      if sh.ended then sh else sh.came (!sh.succeeded)
  | .pipe a b, sh =>
      if sh.ended then sh
      else
        let first := run a { sh with acts := [] }
        let second := run b { sh with acts := [], input := some (Act.written first.acts) }
        { sh with
          acts := sh.acts ++ Act.silent first.acts ++ second.acts
          scope := { sh.scope with status := second.scope.status } }
  | .background a, sh =>
      if sh.ended then sh
      else
        let first := run a { sh with acts := [], input := some [] }
        sh.wrote (Act.written first.acts)
  | .subshell a, sh =>
      if sh.ended then sh
      else
        let inner := run a sh
        { sh with acts := inner.acts, scope := { sh.scope with status := inner.scope.status } }
  | .choose condition yes no, sh =>
      let sh := run condition sh
      if sh.ended then sh else if sh.succeeded then run yes sh else run no sh
  | .forEach name words body, sh =>
      (words.flatMap fun w => w.fields sh.scope).foldl (fun sh value =>
        if sh.ended then sh else run body (sh.set name value)) sh
  | .repeated condition outcome body, sh =>
      let round (sh : Session) (going : Bool) : Session × Bool :=
        if !going || sh.ended then (sh, false)
        else
          let sh := run condition sh
          if sh.ended || sh.succeeded != outcome then (sh, false) else (run body sh, true)
      ((List.range mostRounds).foldl (fun (p : Session × Bool) _ => round p.1 p.2) (sh, true)).1

/-- The variables of an environment that can be parameters. -/
def importedVariables (env : Environment.Entries) : Variables :=
  env.foldl (fun vs (name, value) =>
    if name.toList.head?.any startsName && name.toList.all inName then vs.insert name value
    else vs) .empty

/-- The acts of a script, given the name and the arguments that it is run with. -/
def actsOf (script : String) (arguments : List String) (env : Environment.Entries) : List Act :=
  (run (.ofScript script) ⟨⟨importedVariables env, arguments, 0⟩, none, [], false⟩).acts

/-- The acts of a command that is run without a shell. -/
def actsOfCommand (fields : List String) : List Act :=
  (runFields ⟨⟨.empty, [], 0⟩, none, [], false⟩ fields).acts

end Failover.Shell
