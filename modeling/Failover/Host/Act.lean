/-
  Failover.Host.Act
  ────────────────────
  **What a launched program does, seen from outside.** A program writes to
  its standard output, lets time pass, and may wait until its standard
  input ends; after its last act it exits.  Nothing is ever sent to the
  standard input of a program, so its end is all that it can tell.
-/

namespace Failover.Host

/-- One act of a program.  Times are in milliseconds. -/
inductive Act where
  | write (bytes : List UInt8)
  | pause (ms : Nat)
  | untilInputEnds
  deriving DecidableEq, Repr

namespace Act

/-- What acts write, all of it. -/
def written : List Act → List UInt8
  | [] => []
  | .write bytes :: rest => bytes ++ written rest
  | _ :: rest => written rest

/-- The acts that write nothing. -/
def silent (acts : List Act) : List Act :=
  acts.filter fun
    | .write _ => false
    | _ => true

end Act

end Failover.Host
