/-
  Failover.Host.Child
  ──────────────────────
  **A launched process.** A child works off its acts in their order.  What
  it writes lies in a pipe until it is read; writing to a pipe that nobody
  will read from any more ends the child.  A child whose standard input is
  closed learns that its input has ended.

  A step of a child is taken at a time, in milliseconds.  Main statement:
  `step?_dead` — a child that is gone does nothing any more.
-/
import Failover.Host.Act

namespace Failover.Host

/-- A process that was launched. -/
structure Child where
  /-- What it has still to do. -/
  acts : List Act
  /-- When it goes on. -/
  resume : Nat
  /-- What it wrote and nobody has read yet, piece by piece. -/
  output : List (List UInt8)
  /-- Whether somebody may still read what it writes. -/
  readable : Bool
  /-- Whether its input is still open. -/
  inputOpen : Bool
  alive : Bool
  deriving DecidableEq, Repr

namespace Child

/-- A child that was launched at a time. -/
def launched (now : Nat) (acts : List Act) : Child := ⟨acts, now, [], true, true, true⟩

/-- The child is gone. -/
def exited (c : Child) : Child := { c with alive := false }

/-- The next thing a child does at a time, if it can do anything then. -/
def step? (now : Nat) (c : Child) : Option Child :=
  if !c.alive || now < c.resume then none
  else
    match c.acts with
    | [] => some c.exited
    | .write bytes :: rest =>
        if c.readable then
          some { c with
            acts := rest
            output := if bytes.isEmpty then c.output else c.output ++ [bytes] }
        else some c.exited
    | .pause ms :: rest => some { c with acts := rest, resume := now + ms }
    | .untilInputEnds :: rest => if c.inputOpen then none else some { c with acts := rest }

/-- When a child that can do nothing now may go on by itself. -/
def due? (c : Child) : Option Nat :=
  if !c.alive then none
  else
    match c.acts with
    | .untilInputEnds :: _ => if c.inputOpen then none else some c.resume
    | _ => some c.resume

/-- Nobody will read what the child writes. -/
def unread (c : Child) : Child := { c with output := [], readable := false }

/-- The input of the child ends. -/
def closeInput (c : Child) : Child := { c with inputOpen := false }

/-- A child that is gone does nothing any more. -/
theorem step?_dead {c : Child} (h : c.alive = false) (now : Nat) : c.step? now = none := by
  simp [step?, h]

end Child

end Failover.Host
