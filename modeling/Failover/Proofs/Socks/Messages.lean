/-
  Failover.Proofs.Socks.Messages
  ──────────────────────────────
  **What each side of a proxy understands of the other one.**  The
  greeting, the request and the reply, each with the operation that reads
  it:

      greeting                                ── acceptGreeting
      version 1 0  type body port             ── readRequest
      version code 0  type body port          ── readReply

  An address is written as a type byte and a body that the type tells the
  length of, so what reads it behind the type takes the body and the port
  and nothing else (`Address.yields_read`).  Each message is therefore
  read back as it was written, up to its last byte, whatever follows it.

  Main statements: `Address.yields_read`, `yields_readRequest`,
  `yields_clientConnect` and the lemmas on `readReply`.
-/
import Failover.Proofs.Bytes.Conversation
import Failover.Socks.Client
import Failover.Socks.Server

namespace Failover.Socks

open Bytes Net Exchange Text

/-! ## §1. Addresses. -/

namespace Address

/-- A name is short enough for its length byte. -/
def Fits (a : Address) : Prop := ∀ name, a = .domain name → (Utf8.bytesOf name).length ≤ 255

/-- The port that was written is read. -/
theorem portOfBytes_portBytes (port : UInt16) :
    portOfBytes (UInt8.ofNat (port.toNat / 256)) (UInt8.ofNat port.toNat) = port := by
  have hlt : port.toNat < 65536 := port.toNat_lt
  apply UInt16.toNat_inj.1
  unfold portOfBytes
  simp only [UInt8.toNat_ofNat', UInt16.toNat_ofNat']
  omega

/-- What makes an address of some bytes makes it of these and a port behind them. -/
theorem split_append {make : List UInt8 → Except Fault Address} {n : Nat} {bytes : List UInt8}
    {a : Address} (hn : bytes.length = n) (hmake : make bytes = .ok a) (port : UInt16) :
    split make n (bytes ++ portBytes port) = .ok (a, port) := by
  have hhigh : (bytes ++ portBytes port).getD n 0 = UInt8.ofNat (port.toNat / 256) := by
    subst hn
    simp [portBytes]
  have hlow : (bytes ++ portBytes port).getD (n + 1) 0 = UInt8.ofNat port.toNat := by
    subst hn
    simp [portBytes]
  unfold split
  rw [List.take_left' hn, hmake, hhigh, hlow]
  dsimp only
  rw [portOfBytes_portBytes]

/-- So is what was written of it, with a port behind it. -/
theorem yields_split {make : List UInt8 → Except Fault Address} {n : Nat} {bytes : List UInt8}
    {a : Address} (hn : bytes.length = n) (hmake : make bytes = .ok a) (port : UInt16)
    (rest : List UInt8) (ending : Ending) (written : List UInt8) :
    (readExact (n + 2) >>= fun bytes => ofResult (split make n bytes)).Yields
      ⟨bytes ++ portBytes port ++ rest, ending, written⟩ (.ok (a, port))
      ⟨rest, ending, written⟩ := by
  have hlen : (bytes ++ portBytes port).length = n + 2 := by
    rw [List.length_append, hn]
    rfl
  refine (yields_readExact _ rest hlen ending written).bind ?_
  rw [split_append hn hmake]
  exact yields_ofResult _ _

/-- **What is written of an address is read as that address**, up to its last byte. -/
theorem yields_read {a : Address} {type : UInt8} {body : List UInt8}
    (h : a.encode = .ok (type :: body)) (port : UInt16) (rest : List UInt8) (ending : Ending)
    (written : List UInt8) :
    (read type).Yields ⟨body ++ portBytes port ++ rest, ending, written⟩ (.ok (a, port))
      ⟨rest, ending, written⟩ := by
  rcases a with (octets | octets) | name
  · obtain ⟨rfl, rfl⟩ := List.cons.inj (Except.ok.inj h)
    have hmake : ofV4 octets.bytes = .ok (.ip (.v4 octets)) := by
      unfold ofV4 Octets.ofList?
      rw [dif_pos octets.length_eq]
    exact yields_split octets.length_eq hmake port rest ending written
  · obtain ⟨rfl, rfl⟩ := List.cons.inj (Except.ok.inj h)
    have hmake : ofV6 octets.bytes = .ok (.ip (.v6 octets)) := by
      unfold ofV6 Octets.ofList?
      rw [dif_pos octets.length_eq]
    exact yields_split octets.length_eq hmake port rest ending written
  · unfold encode at h
    dsimp only at h
    split at h
    · cases h
    · next hfits =>
      obtain ⟨rfl, rfl⟩ := List.cons.inj (Except.ok.inj h)
      have hmake : ofName (Utf8.bytesOf name) = .ok (.domain name) := by
        unfold ofName
        rw [Utf8.textOf_bytesOf]
      -- the length that is read is the one that was written, as it fits into a byte
      have hn : (UInt8.ofNat (Utf8.bytesOf name).length).toNat = (Utf8.bytesOf name).length := by
        rw [UInt8.toNat_ofNat']
        omega
      refine (yields_readExact [UInt8.ofNat (Utf8.bytesOf name).length]
        (Utf8.bytesOf name ++ portBytes port ++ rest) rfl ending written).bind ?_
      exact yields_split hn.symm hmake port rest ending written

/-- An address that fits is written with a type byte. -/
theorem encode_of_fits {a : Address} (h : a.Fits) :
    ∃ type body, a.encode = .ok (type :: body) := by
  rcases a with (octets | octets) | name
  · exact ⟨_, _, rfl⟩
  · exact ⟨_, _, rfl⟩
  · unfold encode
    dsimp only
    rw [if_neg (Nat.not_lt.2 (h name rfl))]
    exact ⟨_, _, rfl⟩

/-- A name that does not is refused. -/
theorem encode_of_not_fits {a : Address} (h : ¬a.Fits) :
    a.encode = .error (.connection .domainTooLong) := by
  rcases a with address | name
  · exact absurd (fun _ hname => nomatch hname) h
  · unfold encode
    dsimp only
    refine if_pos (Nat.lt_of_not_le fun hle => h ?_)
    rintro _ ⟨⟩
    exact hle

end Address

/-! ## §2. Steadiness. -/

theorem Address.steady_read (type : UInt8) : (Address.read type).Steady := by
  unfold Address.read
  split
  · exact (steady_readExact 6).bind fun _ => steady_ofResult _
  · exact (steady_readExact 1).bind fun _ => (steady_readExact _).bind fun _ => steady_ofResult _
  · exact (steady_readExact 18).bind fun _ => steady_ofResult _
  · exact steady_throw _

theorem steady_clientConnect (target : Address) (port : UInt16) :
    (clientConnect target port).Steady := by
  unfold clientConnect
  refine ((steady_writeAll greeting).explained _).bind fun _ => ?_
  refine ((steady_readExact 2).explained _).bind fun chosen => ?_
  refine Steady.unless fun _ => ?_
  refine (steady_ofResult _).bind fun _ => (steady_ofResult _).bind fun request => ?_
  refine ((steady_writeAll request).explained _).bind fun _ => ?_
  refine ((steady_readExact 4).explained _).bind fun reply => ?_
  refine Steady.unless fun _ => Steady.unless fun _ => ?_
  exact (Address.steady_read _).bind fun _ => steady_pure _

theorem steady_acceptGreeting : acceptGreeting.Steady := by
  unfold acceptGreeting
  refine (steady_readExact 2).bind fun head => Steady.unless fun _ => ?_
  refine (steady_readExact _).bind fun methods => ?_
  split
  · exact steady_writeAll _
  · exact (steady_writeAll _).bind fun _ => steady_throw _

theorem steady_writeReply (code : UInt8) (bound : Option (Address × UInt16)) :
    (writeReply code bound).Steady := by
  unfold writeReply
  split
  exact (steady_ofResult _).bind fun _ => steady_writeAll _

theorem steady_readRequest : readRequest.Steady := by
  unfold readRequest
  refine (steady_readExact 4).bind fun header => Steady.unless fun _ => ?_
  refine (Address.steady_read _).bind fun ⟨address, port⟩ => ?_
  dsimp only
  split
  · exact (steady_writeReply _ _).bind fun _ => (steady_throw _).bind fun _ => steady_pure _
  · exact steady_pure _

/-! ## §3. Messages. -/

/-- A message with an address and a port: a request or a reply. -/
def message (second type : UInt8) (body : List UInt8) (port : UInt16) : List UInt8 :=
  [version, second, 0, type] ++ (body ++ Address.portBytes port)

section

variable {address : Address} {port : UInt16} {type : UInt8} {body : List UInt8}

/-- A request is one. -/
theorem connectRequest_eq (h : address.encode = .ok (type :: body)) (port : UInt16) :
    connectRequest address port = .ok (message 1 type body port) := by
  unfold connectRequest
  rw [h]
  rfl

/-- So is a reply. -/
theorem yields_writeReply {bound : Option (Address × UInt16)}
    (hbound : bound.getD (.ip .unspecified, 0) = (address, port))
    (h : address.encode = .ok (type :: body)) (code : UInt8) (v : View) :
    (writeReply code bound).Yields v (.ok ())
      { v with written := v.written ++ message code type body port } := by
  unfold writeReply
  rw [hbound]
  dsimp only
  rw [h]
  exact (yields_ofResult _ _).bind (yields_writeAll (message code type body port) _)

/-! ## §4. The server's side. -/

theorem yields_acceptGreeting (rest : List UInt8) (ending : Ending) (written : List UInt8) :
    acceptGreeting.Yields ⟨greeting ++ rest, ending, written⟩ (.ok ())
      ⟨rest, ending, written ++ [version, 0]⟩ := by
  unfold acceptGreeting
  refine (yields_readExact [version, 1] (0 :: rest) rfl ending written).bind ?_
  refine Yields.unless (by decide) ?_
  refine (yields_readExact [0] rest rfl ending written).bind ?_
  exact yields_writeAll _ _

/-- **A request is read as it was written.** -/
theorem yields_readRequest (h : address.encode = .ok (type :: body)) (port : UInt16)
    (rest : List UInt8) (ending : Ending) (written : List UInt8) :
    readRequest.Yields ⟨message 1 type body port ++ rest, ending, written⟩ (.ok ⟨address, port⟩)
      ⟨rest, ending, written⟩ := by
  unfold readRequest
  refine (yields_readExact [version, 1, 0, type] (body ++ Address.portBytes port ++ rest) rfl
    ending written).bind ?_
  refine Yields.unless (by simp) ?_
  refine (Address.yields_read h port rest ending written).bind ?_
  exact yields_pure _ _

theorem yields_readRequest_unsent (ending : Ending) (written : List UInt8) :
    readRequest.Yields ⟨[], ending, written⟩ (.error (.io ending.cause)) ⟨[], ending, written⟩ := by
  unfold readRequest
  exact (yields_readExact_short (Nat.succ_pos _) ending _).bind_error

/-! ## §5. The client's side. -/

/-- How the client goes on when its request is sent. -/
def readReply : Exchange Unit := do
  let reply ← (readExact 4).explained .requestUnanswered
  if reply.getD 0 0 ≠ version then throw (.protocol .replyVersion)
  if reply.getD 1 0 ≠ 0 then throw (.connection (.refusedWith (reply.getD 1 0)))
  let _ ← Address.read (reply.getD 3 0)

/-- When its greeting is answered the client sends its request. -/
theorem yields_clientConnect (h : address.encode = .ok (type :: body)) (port : UInt16)
    {rest : List UInt8} {ending : Ending} {written : List UInt8} {r : Except Fault Unit} {v : View}
    (hrest : readReply.Yields ⟨rest, ending, written ++ greeting ++ message 1 type body port⟩ r v) :
    (clientConnect address port).Yields ⟨[version, 0] ++ rest, ending, written⟩ r v := by
  unfold clientConnect
  refine ((yields_writeAll greeting _).explained _).bind ?_
  refine ((yields_readExact [version, 0] rest rfl ending _).explained _).bind ?_
  refine Yields.unless (by decide) ?_
  refine (yields_ofResult (checkMethod 0) _).bind ?_
  rw [connectRequest_eq h]
  refine (yields_ofResult (.ok (message 1 type body port)) _).bind ?_
  refine ((yields_writeAll (message 1 type body port) _).explained _).bind ?_
  exact hrest

theorem yields_clientConnect_unanswered (target : Address) (port : UInt16) (ending : Ending)
    (written : List UInt8) :
    (clientConnect target port).Yields ⟨[], ending, written⟩
      (.error (.connection (.greetingUnanswered ending.cause)))
      ⟨[], ending, written ++ greeting⟩ := by
  unfold clientConnect
  refine ((yields_writeAll greeting _).explained _).bind ?_
  exact ((yields_readExact_short (Nat.succ_pos _) ending _).explained _).bind_error

theorem yields_readReply_unanswered (ending : Ending) (written : List UInt8) :
    readReply.Yields ⟨[], ending, written⟩
      (.error (.connection (.requestUnanswered ending.cause))) ⟨[], ending, written⟩ := by
  unfold readReply
  exact ((yields_readExact_short (Nat.succ_pos _) ending _).explained _).bind_error

/-- **A reply that grants the request is consumed up to its last byte.** -/
theorem yields_readReply (h : address.encode = .ok (type :: body)) (port : UInt16)
    (rest : List UInt8) (ending : Ending) (written : List UInt8) :
    readReply.Yields ⟨message 0 type body port ++ rest, ending, written⟩ (.ok ())
      ⟨rest, ending, written⟩ := by
  unfold readReply
  refine ((yields_readExact [version, 0, 0, type] (body ++ Address.portBytes port ++ rest) rfl
    ending _).explained _).bind ?_
  refine Yields.unless (by simp) ?_
  refine Yields.unless (by simp) ?_
  refine (Address.yields_read h port rest ending written).bind ?_
  exact yields_pure _ _

/-- Of any other one the client takes the code. -/
theorem yields_readReply_refused {code : UInt8} (hcode : code ≠ 0) (type : UInt8)
    (body : List UInt8) (port : UInt16) (rest : List UInt8) (ending : Ending)
    (written : List UInt8) :
    readReply.Yields ⟨message code type body port ++ rest, ending, written⟩
      (.error (.connection (.refusedWith code)))
      ⟨body ++ Address.portBytes port ++ rest, ending, written⟩ := by
  unfold readReply
  refine ((yields_readExact [version, code, 0, type] (body ++ Address.portBytes port ++ rest) rfl
    ending _).explained _).bind ?_
  refine Yields.unless (by simp) ?_
  exact yields_complaint hcode _

end

end Failover.Socks
