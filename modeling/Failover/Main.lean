/-
  Failover.Main
  ─────────────
  **The program.** It reads what the command line needs, does what it says,
  and writes what comes of it.  A configuration that is set to work is kept
  at work on a small host of its own, whose time is that of the clock, and
  the events are told as they come.
-/
import Failover.CommandLine.Run
import Failover.Host.Sandbox
import Failover.Supervisor

open Failover

/-- Run the program. -/
def main (arguments : List String) : IO UInt32 := do
  let space := Environment.namespaceIn arguments
  let keys := ["service", "transport", "bindaddr", Environment.secretKey, Environment.callbackKey]
  let mut env : Environment.Entries := []
  for key in keys do
    let name := Environment.variableName space key
    if let some value ← IO.getEnv name then env := env ++ [(name, value)]
  let mut document : Except IoFault (List UInt8) := .error .notFound
  if let .run flags := CommandLine.parse arguments then
    try document := .ok (← IO.FS.readBinFile flags.path).toList
    catch
      | .inappropriateType .. => document := .error .isDirectory
      | .permissionDenied .. => document := .error .permissionDenied
      | _ => pure ()
  let mut fresh := ""
  for _ in List.range 32 do fresh := fresh.push (Char.ofNat (97 + (← IO.rand 0 25)))
  let net : Net.Network := .isolated 47805
  match CommandLine.perform ⟨fun _ => document, env, fresh, net⟩ arguments with
  | .finished outcome =>
      (← IO.getStdout).write ⟨outcome.output.toArray⟩
      (← IO.getStderr).putStr outcome.errors
      return outcome.code
  | .supervise config =>
      match Supervisor.create .keep config with
      | .error cause =>
          (← IO.getStderr).putStrLn (Fault.config cause).message
          return 1
      | .ok supervisor =>
          let host := Host.sandbox net []
          let probe := supervisor.probe net
          let (inbox, started) := supervisor.manager.subscribe
          let mut manager := started
          repeat
            let (told, later) := manager.receiveAll host probe inbox 1000
            manager := later
            for event in told.filterMap Manager.History.current do
              IO.println (event.connection.displayName ++ ": " ++ event.state.name)
            IO.sleep 1000
          return 0
