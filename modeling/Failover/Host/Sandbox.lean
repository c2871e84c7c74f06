/-
  Failover.Host.Sandbox
  ─────────────────────
  **A small host.** It has a shell, some simple commands, and the
  transports of this program, on a network that is given.
-/
import Failover.Bundled.Run
import Failover.Host.Basic
import Failover.Host.Files
import Failover.Shell.Run

namespace Failover.Host

/-! ## §1. What can be launched. -/

/-- The directories in which commands are. -/
def commandDirectories : List String := ["/bin/", "/usr/bin/"]

/-- The commands that a small host has besides its shells. -/
def simpleCommands : List String :=
  ["true", "false", "echo", "printf", "cat", "sleep", "head", "tr", "seq", "kill", "test"]

/-- The shells of a small host. -/
def shells : List String := ["sh", "dash"]

/-- The command that a path or a bare name means. -/
def commandNamed? (path : String) : Option String :=
  let name := Shell.baseName path
  let known := (simpleCommands ++ shells).contains name
  if known && (path == name || commandDirectories.any fun d => path == d ++ name) then some name
  else none

/-! ## §2. What it does. -/

/-- What a shell does with its arguments: it runs the script behind `-c`. -/
def shellActs (path : String) (args : List String) (env : Environment.Entries) : List Act :=
  match args with
  | "-c" :: script :: [] => Shell.actsOf script [path] env
  | "-c" :: script :: arguments => Shell.actsOf script arguments env
  -- Without a script it reads commands from its input, of which there are none.
  | _ => [.untilInputEnds]

/-- What this program does when it is launched as a transport: the handshake, and then it serves
until its input ends. -/
def transportActs (net : Net.Network) (args : List String) (env : Environment.Entries) : List Act :=
  match Bundled.run env (Environment.namespaceIn args) (Bundled.shipped net) .open with
  | .ok _ outlet => [.write outlet.written, .untilInputEnds]
  | .error _ outlet => [.write outlet.written]

/-- Whether a text holds a NUL, which no argument or variable can. -/
def holdsNul (s : String) : Bool := s.toList.contains '\x00'

/-- A small host. -/
def sandbox (net : Net.Network) (entries : Environment.Entries) : Host where
  environment := variablesOf entries
  launch program args env :=
    let texts := args ++ env.map (·.1) ++ env.map (·.2)
    match program with
    | .self =>
        if texts.any holdsNul then .error .nulInData else .ok (transportActs net args env)
    | .command path =>
        if (path :: texts).any holdsNul then .error .nulInData
        else
          match commandNamed? path with
          | none => .error (launchFault path)
          | some name =>
              if shells.contains name then .ok (shellActs path args env)
              else .ok (Shell.actsOfCommand (name :: args))

end Failover.Host
