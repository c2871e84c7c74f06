/-
  Failover.Proofs.Socks.Agreement
  ───────────────────────────────
  **Client and server of a proxy agree.**  The client asks for a target
  and then sends what is for it; the server takes the request, answers it
  with a code and then sends what comes from the target:

      client                                 server
        greeting ─────────────────────────────▶
        ◀───────────────────────────── version 0
        message 1 … target … port ────────────▶
        ◀──────────── message code … bound … port
        mine, if the code is nought ──────────▶
        ◀───────────────────────────────── yours

  Each message is what makes the other side send its next one, so where
  nothing is left to deliver all of them have arrived (`arrived_eq`),
  however they came.  What either side makes of them is then calculated.

  Main statement: `sides_agree`.
-/
import Failover.Proofs.Bytes.Link
import Failover.Proofs.Socks.Messages

namespace Failover.Socks

open Bytes Exchange Net

/-! ## §1. The two sides. -/

/-- The client: it asks for a target, and then sends this to it. -/
def dialing (target : Address) (port : UInt16) (mine : List UInt8) : Exchange Unit := do
  clientConnect target port
  writeAll mine

/-- The server: it takes a request, answers it with a code, and then sends this. -/
def serving (code : UInt8) (bound : Option (Address × UInt16)) (yours : List UInt8) :
    Exchange Request := do
  acceptGreeting
  let request ← readRequest
  writeReply code bound
  writeAll yours
  return request

theorem steady_dialing (target : Address) (port : UInt16) (mine : List UInt8) :
    (dialing target port mine).Steady :=
  (steady_clientConnect target port).bind fun _ => steady_writeAll mine

theorem steady_serving (code : UInt8) (bound : Option (Address × UInt16)) (yours : List UInt8) :
    (serving code bound yours).Steady :=
  steady_acceptGreeting.bind fun _ => steady_readRequest.bind fun _ =>
    (steady_writeReply code bound).bind fun _ => (steady_writeAll yours).bind fun _ => steady_pure _

/-- What a client that got a code sends to the target. -/
def passed (code : UInt8) (mine : List UInt8) : List UInt8 := if code = 0 then mine else []

/-- What a client that got a code comes to. -/
def verdict (code : UInt8) : Except Fault Unit :=
  if code = 0 then .ok () else .error (.connection (.refusedWith code))

/-! ## §2. What they say. -/

section

variable {target address : Address} {port port' : UInt16} {type type' : UInt8}
  {body body' : List UInt8} {bound : Option (Address × UInt16)}

/-- The whole of the client's side. -/
theorem yields_dialing (h : target.encode = .ok (type :: body))
    (h' : address.encode = .ok (type' :: body')) (port port' : UInt16) (code : UInt8)
    (mine yours : List UInt8) (ending : Ending) :
    ∃ left, (code = 0 → left = yours) ∧
      (dialing target port mine).Yields
        ⟨[version, 0] ++ (message code type' body' port' ++ yours), ending, []⟩ (verdict code)
        ⟨left, ending, greeting ++ message 1 type body port ++ passed code mine⟩ := by
  unfold dialing verdict passed
  by_cases hcode : code = 0
  · subst hcode
    refine ⟨yours, fun _ => rfl, ?_⟩
    rw [if_pos rfl, if_pos rfl]
    have hreply := yields_readReply h' port' yours ending (greeting ++ message 1 type body port)
    exact (yields_clientConnect h port hreply).bind (yields_writeAll mine _)
  · -- a refusal is read off the head of the reply, and its address is left
    refine ⟨body' ++ Address.portBytes port' ++ yours, fun hzero => absurd hzero hcode, ?_⟩
    rw [if_neg hcode, if_neg hcode, List.append_nil]
    have hreply := yields_readReply_refused hcode type' body' port' yours ending
      (greeting ++ message 1 type body port)
    exact (yields_clientConnect h port hreply).bind_error

/-- The whole of the server's side. -/
theorem yields_serving (h : target.encode = .ok (type :: body))
    (hbound : bound.getD (.ip .unspecified, 0) = (address, port'))
    (h' : address.encode = .ok (type' :: body')) (port : UInt16) (code : UInt8)
    (sent yours : List UInt8) (ending : Ending) :
    (serving code bound yours).Yields
      ⟨greeting ++ (message 1 type body port ++ sent), ending, []⟩ (.ok ⟨target, port⟩)
      ⟨sent, ending, [version, 0] ++ message code type' body' port' ++ yours⟩ := by
  unfold serving
  refine (yields_acceptGreeting _ ending []).bind ?_
  refine (yields_readRequest h port sent ending _).bind ?_
  refine (yields_writeReply hbound h' code _).bind ?_
  exact (yields_writeAll yours _).bind (yields_pure _ _)

theorem said_dialing_unanswered (target : Address) (port : UInt16) (mine : List UInt8) :
    (dialing target port mine).said [[]] = greeting :=
  Link.said_eq (yields_clientConnect_unanswered target port .closed []).bind_error

theorem said_dialing_greeted (h : target.encode = .ok (type :: body)) (port : UInt16)
    (mine : List UInt8) :
    (dialing target port mine).said [[version, 0]] = greeting ++ message 1 type body port := by
  have hreply := yields_readReply_unanswered .closed (greeting ++ message 1 type body port)
  exact Link.said_eq (yields_clientConnect h port hreply).bind_error

theorem said_serving_greeted (code : UInt8) (bound : Option (Address × UInt16))
    (yours : List UInt8) : (serving code bound yours).said [greeting] = [version, 0] := by
  have hrun : (serving code bound yours).Yields ⟨greeting ++ [], .closed, []⟩
      (.error (.io .earlyEof)) ⟨[], .closed, [] ++ [version, 0]⟩ := by
    unfold serving
    refine (yields_acceptGreeting [] .closed []).bind ?_
    exact (yields_readRequest_unsent .closed _).bind_error
  exact Link.said_eq hrun

/-- **Where nothing is left to deliver, everything has arrived**, after a number of steps that is
bounded by the bytes there are. -/
theorem arrived_eq (h : target.encode = .ok (type :: body))
    (hbound : bound.getD (.ip .unspecified, 0) = (address, port'))
    (h' : address.encode = .ok (type' :: body')) (port : UInt16) (code : UInt8)
    (mine yours : List UInt8) {n : Nat} {l : Link}
    (hrun : Link.After (dialing target port mine) (serving code bound yours) n l) :
    n ≤ ([version, 0] ++ (message code type' body' port' ++ yours)).length +
        (greeting ++ (message 1 type body port ++ passed code mine)).length ∧
      (Link.Final (dialing target port mine) (serving code bound yours) l →
        l.toFirst.flatten = [version, 0] ++ (message code type' body' port' ++ yours) ∧
        l.toSecond.flatten = greeting ++ (message 1 type body port ++ passed code mine)) := by
  have hx := steady_dialing target port mine
  have hy := steady_serving code bound yours
  obtain ⟨left, -, hdialing⟩ := yields_dialing h h' port port' code mine yours .closed
  have hclient := Link.said_eq hdialing
  have hserver (sent : List UInt8) :=
    Link.said_eq (yields_serving h hbound h' port code sent yours .closed)
  dsimp only at hclient hserver
  rw [List.append_assoc] at hclient
  simp only [List.append_assoc [version, 0]] at hserver
  have hto : (serving code bound yours).said
      [greeting ++ (message 1 type body port ++ passed code mine)] <+:
      [version, 0] ++ (message code type' body' port' ++ yours) := by
    simp only [hserver, List.prefix_refl]
  have hfro : (dialing target port mine).said
      [[version, 0] ++ (message code type' body' port' ++ yours)] <+:
      greeting ++ (message 1 type body port ++ passed code mine) := by
    simp only [hclient, List.prefix_refl]
  refine ⟨hrun.le_length hx hy hto hfro, fun hfinal => ?_⟩
  obtain ⟨hfirst, hsecond⟩ := hrun.arrived_within hx hy hto hfro
  have hsettled := hrun.settled hx hy hfinal
  -- each message makes the other side send its next one
  have hgreeting := hsettled.toSecond_of hx List.nil_prefix
  rw [said_dialing_unanswered] at hgreeting
  have hmethod := hsettled.toFirst_of hy hgreeting
  rw [said_serving_greeted] at hmethod
  have hrequest := hsettled.toSecond_of hx hmethod
  rw [said_dialing_greeted h port mine] at hrequest
  have hreply := hsettled.toFirst_of hy hrequest
  rw [← List.append_nil (message 1 type body port), hserver []] at hreply
  have hrest := hsettled.toSecond_of hx hreply
  rw [hclient] at hrest
  exact ⟨hfirst.eq_of_length_le hreply.length_le, hsecond.eq_of_length_le hrest.length_le⟩

end

/-! ## §3. Targets that cannot be asked for. -/

/-- **A name that is too long is never asked for**: on every endpoint the client fails, and has
written no more than its greeting. -/
theorem clientConnect_of_not_fits {target : Address} (h : ¬target.Fits) (port : UInt16)
    (e : Endpoint) :
    ∃ fault k, ((clientConnect target port).outcome e).1 = .error fault ∧
      ((clientConnect target port).outcome e).2.sink.written =
        e.sink.written ++ greeting.take k := by
  have hrequest : connectRequest target port = .error (.connection .domainTooLong) := by
    unfold connectRequest
    rw [Address.encode_of_not_fits h]
    rfl
  unfold clientConnect
  refine written_of_fails (fun _ => ?_) greeting _ e
  refine fails_readExact_bind (fun chosen => ?_) 2 _
  refine Fails.unless (fails_ofResult_bind fun _ => ?_)
  rw [hrequest]
  intro e'
  exact ⟨_, rfl, rfl⟩

/-! ## §4. Agreement. -/

/-- **Client and server agree.**  Of a client that asks a server for a target, every run ends, and
where nothing is left to deliver the server has got the target with its port, and the client has
got the code: with nought it is done, and otherwise it fails with the words for that code.  What is
left at each side is what the other one sent after the handshake, in all pieces.  A name that is
too long is never asked for. -/
theorem sides_agree (target : Address) (port : UInt16) (code : UInt8)
    (bound : Option (Address × UInt16)) (mine yours : List UInt8) :
    (target.Fits → (∀ b ∈ bound, b.1.Fits) →
      (∃ most, ∀ n l, Link.After (dialing target port mine) (serving code bound yours) n l →
        n ≤ most) ∧
      ∀ n l, Link.After (dialing target port mine) (serving code bound yours) n l →
        Link.Final (dialing target port mine) (serving code bound yours) l →
        ∀ ending ending' : Ending,
          let client := (dialing target port mine).outcome (.fresh l.toFirst ending)
          let server := (serving code bound yours).outcome (.fresh l.toSecond ending')
          server.1 = .ok ⟨target, port⟩ ∧
          (code = 0 →
            client.1 = .ok () ∧ client.2.source.bytes = yours ∧ server.2.source.bytes = mine) ∧
          (code ≠ 0 →
            server.2.source.bytes = [] ∧ ∃ fault, client.1 = .error fault ∧
              fault.kind = .connection ∧ fault.detail = replyMessage code)) ∧
    (¬target.Fits → ∀ e : Endpoint,
      ∃ fault k, ((clientConnect target port).outcome e).1 = .error fault ∧
        ((clientConnect target port).outcome e).2.sink.written =
          e.sink.written ++ greeting.take k) := by
  refine ⟨fun htarget hbound => ?_, fun hlong e => clientConnect_of_not_fits hlong port e⟩
  obtain ⟨type, body, h⟩ := Address.encode_of_fits htarget
  rcases hpair : bound.getD (.ip .unspecified, 0) with ⟨address, port'⟩
  have haddress : address.Fits := by
    cases bound with
    | none =>
        obtain ⟨rfl, -⟩ := Prod.mk.inj hpair
        rintro _ ⟨⟩
    | some b =>
        obtain rfl : b = (address, port') := hpair
        exact hbound _ rfl
  obtain ⟨type', body', h'⟩ := Address.encode_of_fits haddress
  refine ⟨⟨_, fun n l hrun => (arrived_eq h hpair h' port code mine yours hrun).1⟩, ?_⟩
  intro n l hrun hfinal ending ending'
  obtain ⟨hfirst, hsecond⟩ := (arrived_eq h hpair h' port code mine yours hrun).2 hfinal
  obtain ⟨left, hleft, hdialing⟩ := yields_dialing h h' port port' code mine yours ending
  have hserving := yields_serving h hpair h' port code (passed code mine) yours ending'
  rw [← hfirst] at hdialing
  rw [← hsecond] at hserving
  obtain ⟨hclient, hunread, -⟩ := Link.outcome_fresh hdialing
  obtain ⟨hserver, hunread', -⟩ := Link.outcome_fresh hserving
  refine ⟨hserver, fun hcode => ⟨?_, ?_, ?_⟩, fun hcode =>
    ⟨?_, .connection (.refusedWith code), ?_, rfl, rfl⟩⟩
  · rw [hclient, verdict, if_pos hcode]
  · rw [hunread, hleft hcode]
  · rw [hunread', passed, if_pos hcode]
  · rw [hunread', passed, if_neg hcode]
  · rw [hclient, verdict, if_neg hcode]

/-- A run in which the greeting and the reply come in pieces, the last one with what is sent after
the reply. -/
theorem sides_agree_pieces :
    ∃ n l, Link.After (dialing (.domain "näme") 443 [7, 8])
        (serving 0 (some (.ip .unspecified, 80)) [9]) n l ∧
      Link.Final (dialing (.domain "näme") 443 [7, 8])
        (serving 0 (some (.ip .unspecified, 80)) [9]) l ∧
      ((serving 0 (some (.ip .unspecified, 80)) [9]).outcome (.fresh l.toSecond .closed)).1 =
        .ok ⟨.domain "näme", 443⟩ ∧
      ((dialing (.domain "näme") 443 [7, 8]).outcome (.fresh l.toFirst .closed)).2.source.bytes =
        [9] := by
  let x := dialing (.domain "näme") 443 [7, 8]
  let y := serving 0 (some (.ip .unspecified, 80)) [9]
  let request : List UInt8 := [5, 1, 0, 3, 5, 110, 195, 164, 109, 101, 1, 187]
  let l : Link := ⟨[[5], [0], [5, 0, 0], [1, 0, 0, 0, 0, 0, 80, 9]], [[5, 1], [0], request, [7, 8]]⟩
  have h₁ : Link.After x y 1 ⟨[], [[5, 1]]⟩ :=
    .step .start (.toSecond (by decide) (by decide +kernel))
  have h₂ : Link.After x y 2 ⟨[], [[5, 1], [0]]⟩ :=
    .step h₁ (.toSecond (by decide) (by decide +kernel))
  have h₃ : Link.After x y 3 ⟨[[5]], [[5, 1], [0]]⟩ :=
    .step h₂ (.toFirst (by decide) (by decide +kernel))
  have h₄ : Link.After x y 4 ⟨[[5], [0]], [[5, 1], [0]]⟩ :=
    .step h₃ (.toFirst (by decide) (by decide +kernel))
  have h₅ : Link.After x y 5 ⟨[[5], [0]], [[5, 1], [0], request]⟩ :=
    .step h₄ (.toSecond (by decide) (by decide +kernel))
  have h₆ : Link.After x y 6 ⟨[[5], [0], [5, 0, 0]], [[5, 1], [0], request]⟩ :=
    .step h₅ (.toFirst (by decide) (by decide +kernel))
  have h₇ : Link.After x y 7 ⟨l.toFirst, [[5, 1], [0], request]⟩ :=
    .step h₆ (.toFirst (by decide) (by decide +kernel))
  have h₈ : Link.After x y 8 l := .step h₇ (.toSecond (by decide) (by decide +kernel))
  have hfinal : Link.Final x y l :=
    Link.Settled.final ⟨by decide +kernel, by decide +kernel⟩
  have hfits : (Address.domain "näme").Fits := by
    rintro _ ⟨⟩
    decide +kernel
  have hbound : ∀ b ∈ some (Address.ip IpAddress.unspecified, (80 : UInt16)), b.1.Fits := by
    rintro _ ⟨⟩ _ ⟨⟩
  have hagree := ((sides_agree (.domain "näme") 443 0 (some (.ip .unspecified, 80)) [7, 8] [9]).1
    hfits hbound).2 8 l h₈ hfinal .closed .closed
  exact ⟨8, l, h₈, hfinal, hagree.1, (hagree.2.1 rfl).2.1⟩

end Failover.Socks
