/-
  Failover.Telemetry.Watched
  ──────────────────────────
  **A stream whose traffic is counted.** Whatever passes through a watched
  stream is counted when it passes: the bytes that a read delivered and
  the bytes that a write took.  While the stream lives its remote address
  counts as open.
-/
import Failover.Bytes.Channel
import Failover.Telemetry.Monitor

namespace Failover.Telemetry

/-- A stream with the monitor that counts its traffic. -/
structure Watched (σ : Type) where
  stream : σ
  monitor : Monitor
  remote : String

namespace Watched

variable {σ : Type}

/-- Watch a stream to a remote address. -/
def start (stream : σ) (monitor : Monitor) (remote : String) : Watched σ :=
  ⟨stream, monitor.track remote, remote⟩

/-- The stream is given up; this leaves its monitor. -/
def drop (w : Watched σ) : Monitor := w.monitor.release w.remote

/-- Apply something that is done to the stream, and count what passed. -/
def lift {α : Type} (f : σ → Except IoFault α × σ) (counted : Monitor → α → Monitor)
    (w : Watched σ) : Except IoFault α × Watched σ :=
  match f w.stream with
  | (.ok a, s) => (.ok a, { w with stream := s, monitor := counted w.monitor a })
  | (.error cause, s) => (.error cause, { w with stream := s })

end Watched

/-- The same channel, watched. -/
def watch {σ : Type} (c : Bytes.Channel σ) : Bytes.Channel (Watched σ) where
  read room := Watched.lift (c.read room) fun m bytes => m.addRead bytes.length
  write bytes := Watched.lift (c.write bytes) fun m n => m.addWritten n
  flush := Watched.lift c.flush fun m _ => m
  close := Watched.lift c.close fun m _ => m

end Failover.Telemetry
