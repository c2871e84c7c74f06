/-
  Failover.Handshake.Negotiation
  ──────────────────────────────
  **What is known of a transport while it introduces itself.** Lines are
  fed to a negotiation one by one.  The first message has to be the
  version, the last one says that the handshake is finished; in between
  the transport names its endpoints and the proxy it connects through.

  Main statements: `feed_error` — a line that is refused changes nothing —
  and `feed_of_done` — after the end every line is refused.
-/
import Failover.Handshake.Message
import Failover.Named

namespace Failover.Handshake

/-- An endpoint that a transport listens on. -/
structure Exposed where
  name : String
  protocol : String
  bindAddr : String
  deriving DecidableEq, Repr

/-- What is known so far. -/
structure Negotiation where
  version : Option String
  methods : List Exposed
  response : Variables
  done : Bool
  deriving DecidableEq, Repr

/-- Whether a line ends the negotiation. -/
inductive Step where
  | more
  | done
  deriving DecidableEq, Repr

namespace Negotiation

/-- Nothing is known. -/
def empty : Negotiation := ⟨none, [], .empty, false⟩

instance : Inhabited Negotiation := ⟨empty⟩

/-! ## §1. Messages. -/

/-- Whether a message may come before the version. -/
def mayOpen : Message → Bool
  | .version _ | .error _ => true
  | _ => false

/-- Take in a message.  A transport that gave up is told as a fault. -/
def apply (n : Negotiation) (m : Message) : Except Fault Step × Negotiation :=
  if n.version.isNone && !mayOpen m then (.error (.protocol (.versionExpected m.keyword)), n)
  else
    match m with
    | .version version =>
        if n.version.isSome then (.error (.protocol .duplicateVersion), n)
        else
          (.ok .more,
            { n with
              version := some version
              response := n.response.insert "version" version })
    | .error text => (.error (.negotiation text), n)
    | .parent _ protocol address =>
        (.ok .more,
          { n with
            response :=
              (n.response.insert "parentaddr" address).insert "parentprotocol" protocol })
    | .expose method protocol address =>
        (.ok .more,
          { n with
            response := (n.response.insert "bindaddr" address).insert "protocol" protocol
            methods := n.methods ++ [⟨method, protocol, address⟩] })
    | .done => (.ok .done, { n with done := true })

/-! ## §2. Lines. -/

/-- Take in a line. -/
def feed (n : Negotiation) (line : String) : Except Fault Step × Negotiation :=
  if n.done then (.error (.protocol .afterDone), n)
  else
    match Message.parse line with
    | .error cause => (.error (.protocol cause), n)
    | .ok m => n.apply m

/-- Take in lines, going on after faults; the results are in the order of the lines. -/
def feedAll (n : Negotiation) : List String → List (Except Fault Step) × Negotiation
  | [] => ([], n)
  | line :: rest =>
      let (r, n') := n.feed line
      let (rs, n'') := n'.feedAll rest
      (r :: rs, n'')

/-! ## §3. Refusals. -/

/-- A message that is refused changes nothing. -/
theorem apply_error {n n' : Negotiation} {m : Message} {f : Fault}
    (h : n.apply m = (.error f, n')) : n' = n := by
  unfold apply at h
  repeat' split at h
  all_goals simp_all

/-- A line that is refused changes nothing. -/
theorem feed_error {n n' : Negotiation} {line : String} {f : Fault}
    (h : n.feed line = (.error f, n')) : n' = n := by
  unfold feed at h
  split at h
  · simp_all
  · split at h
    · simp_all
    · exact apply_error h

/-- After the end every line is refused. -/
theorem feed_of_done {n : Negotiation} (h : n.done = true) (line : String) :
    n.feed line = (.error (.protocol .afterDone), n) := by
  rw [feed, if_pos h]

end Negotiation

end Failover.Handshake
