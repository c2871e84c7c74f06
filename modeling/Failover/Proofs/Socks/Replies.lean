/-
  Failover.Proofs.Socks.Replies
  ─────────────────────────────
  **What a client makes of a server, whatever it sends.**  The server
  chooses a method and then replies to the request.  What both of them
  come to is told by a table with a row for every stream:

      method                              result
        fewer than two bytes              greeting unanswered
        v m …             v not 5         greeting version
        5 FF …                            no method
        5 m …             any other m     method m
        5 0 reply                         what the reply comes to

      reply
        fewer than four bytes             request unanswered
        v c r t …         v not 5         reply version
        5 c r t …         c not 0         refused with c
        5 0 r t …         no address      that fault
        5 0 r t address …                 connected

  The greeting is sent in every row, the request if the method is 0, and
  nothing is read behind what the row tells about.  The address is only
  read to leave what is behind it, but a name in it has to be a text.

  Main statements: `follows_clientConnect` — the table — and
  `connects_iff`.
-/
import Failover.Proofs.Bytes.Link
import Failover.Proofs.Socks.Reading

namespace Failover.Socks

open Bytes Exchange Net Text

variable {ending : Ending} {bytes : List UInt8}

/-! ## §1. The reply. -/

/-- How many bytes of a reply are read that begins with these. -/
def replyExtent : List UInt8 → Nat
  | v :: code :: _ :: type :: rest =>
      if v = version ∧ code = 0 then Address.extent type rest + 4 else 4
  | _ => 4

theorem four_le_replyExtent (bytes : List UInt8) : 4 ≤ replyExtent bytes := by
  fun_cases replyExtent bytes <;> omega

/-- **What a reply comes to.** -/
inductive Replied (ending : Ending) (bytes : List UInt8) : Except Fault Unit → Prop where
  | silent (h : bytes.length < 4) :
      Replied ending bytes (.error (.connection (.requestUnanswered ending.cause)))
  | foreign {v code reserved type : UInt8} {rest : List UInt8}
      (h : bytes = v :: code :: reserved :: type :: rest) (hv : v ≠ version) :
      Replied ending bytes (.error (.protocol .replyVersion))
  | refused {code reserved type : UInt8} {rest : List UInt8}
      (h : bytes = version :: code :: reserved :: type :: rest) (hcode : code ≠ 0) :
      Replied ending bytes (.error (.connection (.refusedWith code)))
  | unreadable {reserved type : UInt8} {rest : List UInt8} {fault : Fault}
      (h : bytes = version :: 0 :: reserved :: type :: rest)
      (hread : Address.Reads type ending rest (.error fault)) : Replied ending bytes (.error fault)
  | connected {reserved type : UInt8} {rest : List UInt8} {address : Address} {port : UInt16}
      (h : bytes = version :: 0 :: reserved :: type :: rest)
      (hread : Address.Reads type ending rest (.ok (address, port))) :
      Replied ending bytes (.ok ())

/-- Every stream is in the table. -/
theorem exists_replied (ending : Ending) (bytes : List UInt8) : ∃ r, Replied ending bytes r := by
  rcases short_or_header bytes with h | ⟨v, code, reserved, type, rest, rfl⟩
  · exact ⟨_, .silent h⟩
  · by_cases hv : v = version
    · subst hv
      by_cases hcode : code = 0
      · subst hcode
        obtain ⟨fault | ⟨address, port⟩, hread⟩ := Address.exists_reads type ending rest
        · exact ⟨_, .unreadable rfl hread⟩
        · exact ⟨_, .connected rfl hread⟩
      · exact ⟨_, .refused rfl hcode⟩
    · exact ⟨_, .foreign rfl hv⟩

/-- What is left behind the address of a reply. -/
theorem drop_replyExtent (reserved type : UInt8) (rest : List UInt8) :
    (version :: 0 :: reserved :: type :: rest).drop
        (replyExtent (version :: 0 :: reserved :: type :: rest)) =
      rest.drop (Address.extent type rest) := by
  rw [replyExtent, if_pos ⟨rfl, rfl⟩]
  rfl

/-- **Replies follow their table.** -/
theorem yields_readReply_of_replied {r : Except Fault Unit} (h : Replied ending bytes r)
    (written : List UInt8) :
    readReply.Yields ⟨bytes, ending, written⟩ r
      ⟨bytes.drop (replyExtent bytes), ending, written⟩ := by
  cases h with
  | silent h =>
      rw [List.drop_of_length_le (Nat.le_trans (Nat.le_of_lt h) (four_le_replyExtent bytes))]
      unfold readReply
      exact ((yields_readExact_short h ending written).explained _).bind_error
  | @foreign v code reserved type rest h hv =>
      rw [h, replyExtent, if_neg fun hreply => hv hreply.1]
      unfold readReply
      refine ((yields_readExact [v, code, reserved, type] rest rfl ending written).explained
        _).bind ?_
      exact yields_complaint hv _
  | @refused code reserved type rest h hcode =>
      rw [h, replyExtent, if_neg fun hreply => hcode hreply.2]
      unfold readReply
      refine ((yields_readExact [version, code, reserved, type] rest rfl ending written).explained
        _).bind ?_
      refine Yields.unless (by simp) ?_
      exact yields_complaint hcode _
  | @unreadable reserved type rest fault h hread =>
      rw [h, drop_replyExtent]
      unfold readReply
      refine ((yields_readExact [version, 0, reserved, type] rest rfl ending written).explained
        _).bind ?_
      refine Yields.unless (by simp) (Yields.unless (by simp) ?_)
      exact (Address.yields_read_of_reads hread written).bind_error
  | @connected reserved type rest address port h hread =>
      rw [h, drop_replyExtent]
      unfold readReply
      refine ((yields_readExact [version, 0, reserved, type] rest rfl ending written).explained
        _).bind ?_
      refine Yields.unless (by simp) (Yields.unless (by simp) ?_)
      exact (Address.yields_read_of_reads hread written).bind (yields_pure _ _)

/-! ## §2. The method and the reply. -/

/-- How many bytes of a server are read that begins with these. -/
def answerExtent : List UInt8 → Nat
  | v :: method :: reply => if v = version ∧ method = 0 then replyExtent reply + 2 else 2
  | _ => 2

theorem two_le_answerExtent (bytes : List UInt8) : 2 ≤ answerExtent bytes := by
  fun_cases answerExtent bytes <;> omega

/-- **What a server's bytes come to**, and what is sent to it. -/
inductive Answered (request : List UInt8) (ending : Ending) (bytes : List UInt8) :
    Except Fault Unit → List UInt8 → Prop where
  | silent (h : bytes.length < 2) :
      Answered request ending bytes
        (.error (.connection (.greetingUnanswered ending.cause))) greeting
  | foreign {v method : UInt8} {rest : List UInt8} (h : bytes = v :: method :: rest)
      (hv : v ≠ version) :
      Answered request ending bytes (.error (.protocol .greetingVersion)) greeting
  | declined {rest : List UInt8} (h : bytes = version :: 0xFF :: rest) :
      Answered request ending bytes (.error .auth) greeting
  | other {method : UInt8} {rest : List UInt8} (h : bytes = version :: method :: rest)
      (hzero : method ≠ 0) (hnone : method ≠ 0xFF) :
      Answered request ending bytes (.error (.protocol (.authMethod method))) greeting
  | replied {reply : List UInt8} {r : Except Fault Unit} (h : bytes = version :: 0 :: reply)
      (hreply : Replied ending reply r) :
      Answered request ending bytes r (greeting ++ request)

/-- Every stream is in the table. -/
theorem exists_answered (request : List UInt8) (ending : Ending) (bytes : List UInt8) :
    ∃ r said, Answered request ending bytes r said := by
  rcases bytes with _ | ⟨v, _ | ⟨method, reply⟩⟩
  · exact ⟨_, _, .silent Nat.zero_lt_two⟩
  · exact ⟨_, _, .silent Nat.one_lt_two⟩
  · by_cases hv : v = version
    · subst hv
      by_cases hzero : method = 0
      · subst hzero
        obtain ⟨r, hreply⟩ := exists_replied ending reply
        exact ⟨_, _, .replied rfl hreply⟩
      · by_cases hnone : method = 0xFF
        · subst hnone
          exact ⟨_, _, .declined rfl⟩
        · exact ⟨_, _, .other rfl hzero hnone⟩
    · exact ⟨_, _, .foreign rfl hv⟩

/-- A method that is not the offered one is read and refused. -/
theorem yields_clientConnect_refused {method : UInt8} {fault : Fault} (hzero : method ≠ 0)
    (hcheck : checkMethod method = .error fault) (target : Address) (port : UInt16)
    (rest : List UInt8) (ending : Ending) (written : List UInt8) :
    (clientConnect target port).Yields ⟨version :: method :: rest, ending, written⟩ (.error fault)
      ⟨(version :: method :: rest).drop (answerExtent (version :: method :: rest)), ending,
        written ++ greeting⟩ := by
  rw [answerExtent, if_neg fun hanswer => hzero hanswer.2]
  unfold clientConnect
  refine ((yields_writeAll greeting _).explained _).bind ?_
  refine ((yields_readExact [version, method] rest rfl ending _).explained _).bind ?_
  refine Yields.unless (by simp) ?_
  refine Yields.bind_error ?_
  show (ofResult (checkMethod method)).Yields _ _ _
  rw [hcheck]
  exact yields_ofResult _ _

/-- **The client follows the table**, for every target that can be asked for. -/
theorem follows_clientConnect {target : Address} {type : UInt8} {body : List UInt8}
    (htarget : target.encode = .ok (type :: body)) (port : UInt16) :
    (clientConnect target port).Follows answerExtent (Answered (message 1 type body port)) where
  yields := by
    intro ending bytes r said h written
    cases h with
    | silent h =>
        rw [List.drop_of_length_le (Nat.le_trans (Nat.le_of_lt h) (two_le_answerExtent bytes))]
        unfold clientConnect
        refine ((yields_writeAll greeting _).explained _).bind ?_
        exact ((yields_readExact_short h ending _).explained _).bind_error
    | @foreign v method rest h hv =>
        rw [h, answerExtent, if_neg fun hanswer => hv hanswer.1]
        unfold clientConnect
        refine ((yields_writeAll greeting _).explained _).bind ?_
        refine ((yields_readExact [v, method] rest rfl ending _).explained _).bind ?_
        exact yields_complaint hv _
    | @declined rest h =>
        rw [h]
        exact yields_clientConnect_refused (by decide) rfl target port rest ending written
    | @other method rest h hzero hnone =>
        have hcheck : checkMethod method = .error (.protocol (.authMethod method)) := by
          unfold checkMethod
          rw [if_neg hzero, if_neg hnone]
        rw [h]
        exact yields_clientConnect_refused hzero hcheck target port rest ending written
    | @replied reply _ h hreply =>
        have hextent : (version :: 0 :: reply).drop (answerExtent (version :: 0 :: reply)) =
            reply.drop (replyExtent reply) := by
          rw [answerExtent, if_pos ⟨rfl, rfl⟩]
          rfl
        have hrest := yields_readReply_of_replied hreply
          (written ++ greeting ++ message 1 type body port)
        rw [h, hextent, ← List.append_assoc]
        exact yields_clientConnect htarget port hrest
  total := exists_answered _

/-! ## §3. Connections. -/

/-- **What a server says to connect a client**: the method, a reply that the request was granted,
and an address of a known type with its port, whatever their bytes. -/
def Grants (said : List UInt8) (type : UInt8) (place : List UInt8) : Prop :=
  ∃ reserved, said = [5, 0, 5, 0, reserved, type] ++ place ∧ Address.Complete type place

section

variable {request said place rest : List UInt8} {type : UInt8}

theorem Grants.complete (h : Grants said type place) : Address.Complete type place := by
  obtain ⟨reserved, -, hplace⟩ := h
  exact hplace

theorem grant_append (reserved type : UInt8) (place rest : List UInt8) :
    [5, 0, 5, 0, reserved, type] ++ place ++ rest =
      version :: 0 :: version :: 0 :: reserved :: type :: (place ++ rest) := by
  simp [version]

/-- What a server grants is read up to its last byte. -/
theorem Grants.drop_extent (h : Grants said type place) (rest : List UInt8) :
    (said ++ rest).drop (answerExtent (said ++ rest)) = rest := by
  obtain ⟨reserved, rfl, hplace⟩ := h
  rw [grant_append, answerExtent, if_pos ⟨rfl, rfl⟩]
  exact (drop_replyExtent reserved type (place ++ rest)).trans (hplace.drop_extent rest)

/-- An address connects the client, -/
theorem Grants.answered_of_spells {address : Address} {port : UInt16} (h : Grants said type place)
    (hplace : Address.Spells type place address port) :
    Answered request ending (said ++ rest) (.ok ()) (greeting ++ request) := by
  obtain ⟨reserved, rfl, -⟩ := h
  exact .replied (grant_append reserved type place rest) (.connected rfl (.spelled rfl hplace))

/-- but not a name that is no text. -/
theorem Grants.answered_of_garbles {m : Utf8.Malformed} (h : Grants said type place)
    (hplace : Address.Garbles type place m) :
    Answered request ending (said ++ rest) (.error (.parse (.domain m))) (greeting ++ request) := by
  obtain ⟨reserved, rfl, -⟩ := h
  exact .replied (grant_append reserved type place rest)
    (.unreadable rfl (.garbled rfl hplace))

/-- Who is connected was granted an address. -/
theorem Answered.exists_grants {sent : List UInt8}
    (h : Answered request ending bytes (.ok ()) sent) :
    ∃ said rest type place address port, bytes = said ++ rest ∧ Grants said type place ∧
      Address.Spells type place address port := by
  -- one row of each table succeeds
  cases h with
  | replied h hreply =>
      cases hreply with
      | @connected reserved type behind address port h' hread =>
          cases hread with
          | @spelled place rest _ _ hbehind hplace =>
              refine ⟨_, rest, type, place, address, port, ?_, ⟨reserved, rfl, hplace.complete⟩,
                hplace⟩
              rw [h, h', hbehind, grant_append]

/-- The request is sent when the method is the offered one. -/
theorem Answered.sent_eq {r : Except Fault Unit} {sent : List UInt8}
    (h : Answered request ending bytes r sent) :
    [5, 0] <+: bytes ∧ sent = greeting ++ request ∨ ¬[5, 0] <+: bytes ∧ sent = greeting := by
  cases h with
  | silent h =>
      refine .inr ⟨fun hstart => ?_, rfl⟩
      have hlength := hstart.length_le
      simp only [List.length_cons, List.length_nil] at hlength
      omega
  | foreign h hv =>
      refine .inr ⟨fun hstart => hv ?_, rfl⟩
      rw [h] at hstart
      exact (List.cons_prefix_cons.1 hstart).1.symm
  | declined h =>
      refine .inr ⟨fun hstart => ?_, rfl⟩
      rw [h] at hstart
      exact absurd (List.cons_prefix_cons.1 (List.cons_prefix_cons.1 hstart).2).1 (by decide)
  | other h hzero =>
      refine .inr ⟨fun hstart => hzero ?_, rfl⟩
      rw [h] at hstart
      exact (List.cons_prefix_cons.1 (List.cons_prefix_cons.1 hstart).2).1.symm
  | @replied reply _ h => exact .inl ⟨⟨reply, h.symm⟩, rfl⟩

end

/-- **When a client is connected.**  For a target that can be asked for, a server connects the
client exactly if it takes the offered method and grants the request with an address of a known type and a
port; whatever the address is, its bytes are read and no others, but a name has to be a text.  The
request is sent exactly if the method is the offered one.  In every other case the client fails with
the fault of its row, and has read nothing behind the field that the row is about. -/
theorem connects_iff {target : Address} (htarget : target.Fits) (port : UInt16) {e : Endpoint}
    (he : e.sink.room = none) :
    ∃ request, connectRequest target port = .ok request ∧
      let bytes := e.source.bytes
      let out := (clientConnect target port).outcome e
      (out.1 = .ok () ↔ ∃ said rest type place address bound, bytes = said ++ rest ∧
        Grants said type place ∧ Address.Spells type place address bound) ∧
      (∀ said rest type place, bytes = said ++ rest → Grants said type place →
        out.2.source.bytes = rest ∧
          (out.1 = .ok () ∨ ∃ m, Address.Garbles type place m ∧
            out.1 = .error (.parse (.domain m)))) ∧
      ([5, 0] <+: bytes ∧ out.2.sink.written = e.sink.written ++ (greeting ++ request) ∨
        ¬[5, 0] <+: bytes ∧ out.2.sink.written = e.sink.written ++ greeting) ∧
      out.2.source.bytes = bytes.drop (answerExtent bytes) ∧
      ∀ fault, out.1 = .error fault ↔
        ∃ sent, Answered request e.source.ending bytes (.error fault) sent := by
  obtain ⟨type, body, hencode⟩ := Address.encode_of_fits htarget
  have hfollows := follows_clientConnect hencode port
  have hresult : ∀ {r sent}, Answered (message 1 type body port) e.source.ending e.source.bytes r
      sent → ((clientConnect target port).outcome e).1 = r :=
    fun hrow => (hfollows.result_iff he).2 ⟨_, hrow⟩
  refine ⟨message 1 type body port, connectRequest_eq hencode port, ⟨?_, ?_⟩, ?_, ?_,
    hfollows.bytes_eq he, fun fault => hfollows.result_iff he⟩
  · intro hok
    obtain ⟨sent, hrow⟩ := (hfollows.result_iff he).1 hok
    exact hrow.exists_grants
  · rintro ⟨said, rest, type', place, address, bound, hbytes, hgrants, hplace⟩
    exact hresult (hbytes ▸ hgrants.answered_of_spells hplace)
  · intro said rest type' place hbytes hgrants
    refine ⟨?_, ?_⟩
    · rw [hfollows.bytes_eq he, hbytes]
      exact hgrants.drop_extent rest
    · rcases hgrants.complete.spells_or_garbles with ⟨address, bound, hplace⟩ | ⟨m, hplace⟩
      · exact .inl (hresult (hbytes ▸ hgrants.answered_of_spells hplace))
      · exact .inr ⟨m, hplace, hresult (hbytes ▸ hgrants.answered_of_garbles hplace)⟩
  · obtain ⟨r, sent, hrow⟩ := hfollows.total e.source.ending e.source.bytes
    have hwritten := ((hfollows.row_iff he).1 hrow).2
    rcases hrow.sent_eq with ⟨hstart, rfl⟩ | ⟨hstart, rfl⟩
    · exact .inl ⟨hstart, hwritten⟩
    · exact .inr ⟨hstart, hwritten⟩

/-- A server that grants the request with a name beyond ASCII, in pieces, and goes on. -/
theorem connects_iff_named :
    let e := Endpoint.fresh [[5], [0, 5, 0, 9], [3, 2, 0xC3], [0xA9, 0, 80, 7]] .closed
    (Address.domain "example.com").Fits ∧ e.sink.room = none ∧
      ((clientConnect (.domain "example.com") 443).outcome e).1 = .ok () ∧
      ((clientConnect (.domain "example.com") 443).outcome e).2.source.bytes = [7] := by
  intro e
  have hfits : (Address.domain "example.com").Fits := by
    rintro _ ⟨⟩
    decide +kernel
  have hplace : Address.Spells 3 [2, 0xC3, 0xA9, 0, 80] (.domain "é") 80 :=
    ⟨2 :: Utf8.bytesOf "é", 0, 80, by decide +kernel, .domain (by decide +kernel), rfl⟩
  have hgrants : Grants [5, 0, 5, 0, 9, 3, 2, 0xC3, 0xA9, 0, 80] 3 [2, 0xC3, 0xA9, 0, 80] :=
    ⟨9, rfl, hplace.complete⟩
  obtain ⟨_, -, hiff, hleft, -⟩ := connects_iff hfits 443 (e := e) rfl
  exact ⟨hfits, rfl, hiff.2 ⟨_, [7], _, _, _, _, rfl, hgrants, hplace⟩,
    (hleft _ [7] _ _ rfl hgrants).1⟩

/-- A server that grants the request with a name that is no text. -/
def garbledGrant : Endpoint := .fresh [[5, 0, 5, 0, 0, 3, 2, 0xFF, 0xFF, 0, 80]] .closed

/-- **Not every granted request connects**: the client reads the address to its end and then fails
on the name in it. -/
theorem not_connects :
    ((clientConnect (.ip (.v4 ⟨[10, 0, 0, 1], rfl⟩)) 80).outcome garbledGrant).1 =
        .error (.parse (.domain ⟨0, some 1⟩)) ∧
      ((clientConnect (.ip (.v4 ⟨[10, 0, 0, 1], rfl⟩)) 80).outcome garbledGrant).2.source.bytes =
        [] ∧
      ¬∀ (target : Address) (port : UInt16) (e : Endpoint) (said rest : List UInt8) (type : UInt8)
        (place : List UInt8), target.Fits → e.sink.room = none → e.source.bytes = said ++ rest →
          Grants said type place → ((clientConnect target port).outcome e).1 = .ok () := by
  have hparse : ((clientConnect (.ip (.v4 ⟨[10, 0, 0, 1], rfl⟩)) 80).outcome garbledGrant).1 =
      .error (.parse (.domain ⟨0, some 1⟩)) := by
    decide +kernel
  refine ⟨hparse, by decide +kernel, fun h => ?_⟩
  have hgrants : Grants [5, 0, 5, 0, 0, 3, 2, 0xFF, 0xFF, 0, 80] 3 [2, 0xFF, 0xFF, 0, 80] :=
    ⟨0, rfl, [2, 0xFF, 0xFF], 0, 80, rfl, .domain rfl⟩
  have hok := h (.ip (.v4 ⟨[10, 0, 0, 1], rfl⟩)) 80 garbledGrant _ [] _ _ nofun rfl rfl hgrants
  rw [hparse] at hok
  cases hok

end Failover.Socks
