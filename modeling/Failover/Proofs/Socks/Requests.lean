/-
  Failover.Proofs.Socks.Requests
  ──────────────────────────────
  **What a server makes of a client, whatever it sends.**  A greeting and
  a request are each told by a table with a row for every stream: what it
  comes to, and what is answered.

      greeting                              result            answer
        fewer than two bytes                end of stream
        v n …             v not 5           client version v
        5 n m₁ … mₖ       k less than n     end of stream
        5 n m₁ … mₙ …     none is 0         no method         5 FF
        5 n m₁ … mₙ …     one is 0          accepted          5 0

      request
        fewer than four bytes               end of stream
        v c r t …         v not 5           client version v
        5 c r t …         no address        that fault
        5 c r t address …  c not 1          command c         5 7 0 1 0 …
        5 1 r t address …                   the request

  In every row exactly the bytes of the message are read, or all there
  are.  A command that is not supported is answered only if an address
  follows that can be read.

  Main statements: `follows_acceptGreeting` and `follows_readRequest` —
  the tables — `connect_language` and `command_answered_iff`.
-/
import Failover.Proofs.Bytes.Link
import Failover.Proofs.Socks.Reading

namespace Failover.Socks

open Bytes Exchange Net Text

variable {ending : Ending} {bytes : List UInt8}

/-! ## §1. The greeting. -/

/-- How many bytes a greeting has that begins with these. -/
def greetingExtent : List UInt8 → Nat
  | v :: n :: _ => if v = version then n.toNat + 2 else 2
  | _ => 2

theorem two_le_greetingExtent (bytes : List UInt8) : 2 ≤ greetingExtent bytes := by
  fun_cases greetingExtent bytes <;> omega

/-- **What a greeting comes to**, and what is answered. -/
inductive Greeted (ending : Ending) (bytes : List UInt8) :
    Except Fault Unit → List UInt8 → Prop where
  | short (h : bytes.length < 2) : Greeted ending bytes (.error (.io ending.cause)) []
  | foreign {v n : UInt8} {rest : List UInt8} (h : bytes = v :: n :: rest) (hv : v ≠ version) :
      Greeted ending bytes (.error (.protocol (.clientVersion v))) []
  | cut {n : UInt8} {methods : List UInt8} (h : bytes = version :: n :: methods)
      (hn : methods.length < n.toNat) : Greeted ending bytes (.error (.io ending.cause)) []
  | declined {n : UInt8} {methods rest : List UInt8} (h : bytes = version :: n :: (methods ++ rest))
      (hn : methods.length = n.toNat) (hnone : 0 ∉ methods) :
      Greeted ending bytes (.error .auth) [version, 0xFF]
  | accepted {n : UInt8} {methods rest : List UInt8} (h : bytes = version :: n :: (methods ++ rest))
      (hn : methods.length = n.toNat) (hoffer : 0 ∈ methods) :
      Greeted ending bytes (.ok ()) [version, 0]

/-- Every stream is in the table. -/
theorem exists_greeted (ending : Ending) (bytes : List UInt8) :
    ∃ r said, Greeted ending bytes r said := by
  rcases bytes with _ | ⟨v, _ | ⟨n, more⟩⟩
  · exact ⟨_, _, .short Nat.zero_lt_two⟩
  · exact ⟨_, _, .short Nat.one_lt_two⟩
  · by_cases hv : v = version
    · subst hv
      by_cases hn : more.length < n.toNat
      · exact ⟨_, _, .cut rfl hn⟩
      · have hsplit : version :: n :: more =
            version :: n :: (more.take n.toNat ++ more.drop n.toNat) := by
          rw [List.take_append_drop]
        have hlength : (more.take n.toNat).length = n.toNat :=
          List.length_take_of_le (Nat.not_lt.1 hn)
        by_cases hoffer : 0 ∈ more.take n.toNat
        · exact ⟨_, _, .accepted hsplit hlength hoffer⟩
        · exact ⟨_, _, .declined hsplit hlength hoffer⟩
    · exact ⟨_, _, .foreign rfl hv⟩

/-- What is left behind a whole list of methods. -/
theorem drop_greetingExtent {n : UInt8} {methods : List UInt8} (hn : methods.length = n.toNat)
    (rest : List UInt8) :
    (version :: n :: (methods ++ rest)).drop (greetingExtent (version :: n :: (methods ++ rest))) =
      rest := by
  rw [greetingExtent, if_pos rfl]
  exact List.drop_left' hn

/-- A whole list of methods is read before it is looked at. -/
theorem yields_acceptGreeting_whole {n : UInt8} {methods : List UInt8}
    (hn : methods.length = n.toNat) (rest written : List UInt8) {r : Except Fault Unit} {v : View}
    (h : (if methods.contains 0 then writeAll [version, 0]
      else writeAll [version, 0xFF] >>= fun _ => throw .auth : Exchange Unit).Yields
        ⟨rest, ending, written⟩ r v) :
    acceptGreeting.Yields ⟨version :: n :: (methods ++ rest), ending, written⟩ r v := by
  unfold acceptGreeting
  refine (yields_readExact [version, n] (methods ++ rest) rfl ending written).bind ?_
  refine Yields.unless (by simp) ?_
  exact (yields_readExact methods rest hn ending written).bind h

/-- **Greetings follow their table.** -/
theorem follows_acceptGreeting : acceptGreeting.Follows greetingExtent Greeted where
  yields := by
    intro ending bytes r said h written
    cases h with
    | short h =>
        have hle := Nat.le_trans (Nat.le_of_lt h) (two_le_greetingExtent bytes)
        rw [List.drop_of_length_le hle, List.append_nil]
        exact (yields_readExact_short h ending written).bind_error
    | @foreign v n rest h hv =>
        rw [h, greetingExtent, if_neg hv, List.append_nil]
        unfold acceptGreeting
        refine (yields_readExact [v, n] rest rfl ending written).bind ?_
        exact yields_complaint hv _
    | @cut n methods h hn =>
        have hextent : bytes.drop (greetingExtent bytes) = [] := by
          rw [h, greetingExtent, if_pos rfl]
          exact List.drop_of_length_le (Nat.le_of_lt (Nat.add_lt_add_right hn 2))
        rw [hextent, h, List.append_nil]
        unfold acceptGreeting
        refine (yields_readExact [version, n] methods rfl ending written).bind ?_
        refine Yields.unless (by simp) ?_
        exact (yields_readExact_short hn ending written).bind_error
    | declined h hn hnone =>
        rw [h, drop_greetingExtent hn]
        refine yields_acceptGreeting_whole hn _ _ ?_
        rw [if_neg (by simpa using hnone)]
        exact (yields_writeAll _ _).bind (yields_throw _ _)
    | accepted h hn hoffer =>
        rw [h, drop_greetingExtent hn]
        refine yields_acceptGreeting_whole hn _ _ ?_
        rw [if_pos (by simpa using hoffer)]
        exact yields_writeAll _ _
  total := exists_greeted

/-! ## §2. The request. -/

/-- How many bytes a request has that begins with these. -/
def requestExtent : List UInt8 → Nat
  | v :: _ :: _ :: type :: rest => if v = version then Address.extent type rest + 4 else 4
  | _ => 4

theorem four_le_requestExtent (bytes : List UInt8) : 4 ≤ requestExtent bytes := by
  fun_cases requestExtent bytes <;> omega

/-- The reply that a command is not supported. -/
def refusal : List UInt8 := [5, 7, 0, 1, 0, 0, 0, 0, 0, 0]

/-- **What a request comes to**, and what is answered. -/
inductive Requested (ending : Ending) (bytes : List UInt8) :
    Except Fault Request → List UInt8 → Prop where
  | short (h : bytes.length < 4) : Requested ending bytes (.error (.io ending.cause)) []
  | foreign {v command reserved type : UInt8} {rest : List UInt8}
      (h : bytes = v :: command :: reserved :: type :: rest) (hv : v ≠ version) :
      Requested ending bytes (.error (.protocol (.clientVersion v))) []
  | unreadable {command reserved type : UInt8} {rest : List UInt8} {fault : Fault}
      (h : bytes = version :: command :: reserved :: type :: rest)
      (hread : Address.Reads type ending rest (.error fault)) :
      Requested ending bytes (.error fault) []
  | unsupported {command reserved type : UInt8} {rest : List UInt8} {address : Address}
      {port : UInt16} (h : bytes = version :: command :: reserved :: type :: rest)
      (hread : Address.Reads type ending rest (.ok (address, port))) (hcommand : command ≠ 1) :
      Requested ending bytes (.error (.protocol (.command command))) refusal
  | connect {reserved type : UInt8} {rest : List UInt8} {address : Address} {port : UInt16}
      (h : bytes = version :: 1 :: reserved :: type :: rest)
      (hread : Address.Reads type ending rest (.ok (address, port))) :
      Requested ending bytes (.ok ⟨address, port⟩) []

/-- Every stream is in the table. -/
theorem exists_requested (ending : Ending) (bytes : List UInt8) :
    ∃ r said, Requested ending bytes r said := by
  rcases short_or_header bytes with h | ⟨v, command, reserved, type, rest, rfl⟩
  · exact ⟨_, _, .short h⟩
  · by_cases hv : v = version
    · subst hv
      obtain ⟨fault | ⟨address, port⟩, hread⟩ := Address.exists_reads type ending rest
      · exact ⟨_, _, .unreadable rfl hread⟩
      · by_cases hcommand : command = 1
        · subst hcommand
          exact ⟨_, _, .connect rfl hread⟩
        · exact ⟨_, _, .unsupported rfl hread hcommand⟩
    · exact ⟨_, _, .foreign rfl hv⟩

/-- What is left behind the address of a request. -/
theorem drop_requestExtent (command reserved type : UInt8) (rest : List UInt8) :
    (version :: command :: reserved :: type :: rest).drop
        (requestExtent (version :: command :: reserved :: type :: rest)) =
      rest.drop (Address.extent type rest) := by
  rw [requestExtent, if_pos rfl]
  rfl

theorem yields_refuse (v : View) :
    (writeReply commandNotSupported none).Yields v (.ok ())
      { v with written := v.written ++ refusal } := by
  have hbound : (none : Option (Address × UInt16)).getD (.ip .unspecified, 0) =
      (.ip .unspecified, 0) := rfl
  have hencode : (Address.ip .unspecified).encode = .ok (1 :: [0, 0, 0, 0]) := rfl
  exact yields_writeReply hbound hencode commandNotSupported v

/-- **Requests follow their table.** -/
theorem follows_readRequest : readRequest.Follows requestExtent Requested where
  yields := by
    intro ending bytes r said h written
    cases h with
    | short h =>
        have hle := Nat.le_trans (Nat.le_of_lt h) (four_le_requestExtent bytes)
        rw [List.drop_of_length_le hle, List.append_nil]
        exact (yields_readExact_short h ending written).bind_error
    | @foreign v command reserved type rest h hv =>
        rw [h, requestExtent, if_neg hv, List.append_nil]
        unfold readRequest
        refine (yields_readExact [v, command, reserved, type] rest rfl ending written).bind ?_
        exact yields_complaint hv _
    | @unreadable command reserved type rest fault h hread =>
        rw [h, drop_requestExtent, List.append_nil]
        unfold readRequest
        refine (yields_readExact [version, command, reserved, type] rest rfl ending written).bind ?_
        refine Yields.unless (by simp) ?_
        exact (Address.yields_read_of_reads hread written).bind_error
    | @unsupported command reserved type rest address port h hread hcommand =>
        rw [h, drop_requestExtent]
        unfold readRequest
        refine (yields_readExact [version, command, reserved, type] rest rfl ending written).bind ?_
        refine Yields.unless (by simp) ?_
        refine (Address.yields_read_of_reads hread written).bind ?_
        dsimp only
        rw [if_pos (by exact hcommand)]
        exact (yields_refuse _).bind (yields_throw _ _).bind_error
    | @connect reserved type rest address port h hread =>
        rw [h, drop_requestExtent, List.append_nil]
        unfold readRequest
        refine (yields_readExact [version, 1, reserved, type] rest rfl ending written).bind ?_
        refine Yields.unless (by simp) ?_
        exact (Address.yields_read_of_reads hread written).bind (yields_pure _ _)
  total := exists_requested

/-- What a request may fail with. -/
theorem Requested.kind_mem {fault : Fault} {said : List UInt8}
    (h : Requested ending bytes (.error fault) said) :
    fault.kind ∈ [Kind.io, .protocol, .parse] := by
  cases h with
  | short | foreign | unsupported => simp [Fault.kind]
  | unreadable _ hread =>
      cases hread with
      | garbled | short | unknown => simp [Fault.kind]

/-! ## §3. Connections. -/

/-- The server's side up to its reply. -/
def takeRequest : Exchange Request := do
  acceptGreeting
  readRequest

/-- **What a client says to be connected**: a list of methods, one of which is to have none, and a
request for a connection to an address and a port. -/
def Asks (said : List UInt8) (address : Address) (port : UInt16) : Prop :=
  ∃ n methods reserved type place,
    said = [5, n] ++ methods ++ [5, 1, reserved, type] ++ place ∧
      methods.length = n.toNat ∧ 0 ∈ methods ∧ Address.Spells type place address port

/-- A stream begins with a whole list of methods, and none of them is to have none. -/
def Declines (bytes : List UInt8) : Prop :=
  ∃ n methods rest, bytes = 5 :: n :: (methods ++ rest) ∧ methods.length = n.toNat ∧ 0 ∉ methods

section

variable {said rest : List UInt8} {address : Address} {port : UInt16}

/-- Who asks for a connection gets it, and what was said is read up to its last byte. -/
theorem yields_takeRequest (h : Asks said address port) (rest : List UInt8) (ending : Ending)
    (written : List UInt8) :
    takeRequest.Yields ⟨said ++ rest, ending, written⟩ (.ok ⟨address, port⟩)
      ⟨rest, ending, written ++ [5, 0]⟩ := by
  obtain ⟨n, methods, reserved, type, place, rfl, hn, hoffer, hplace⟩ := h
  let request := version :: 1 :: reserved :: type :: (place ++ rest)
  have hsplit : [5, n] ++ methods ++ [5, 1, reserved, type] ++ place ++ rest =
      version :: n :: (methods ++ request) := by
    simp [request, version]
  have hgreeted : Greeted ending _ (.ok ()) [version, 0] := .accepted hsplit hn hoffer
  have hrequested : Requested ending request (.ok ⟨address, port⟩) [] :=
    .connect rfl (.spelled rfl hplace)
  have hgreeting := follows_acceptGreeting.yields hgreeted written
  have hrequest := follows_readRequest.yields hrequested (written ++ [version, 0])
  rw [hsplit, drop_greetingExtent hn, ← hsplit] at hgreeting
  rw [drop_requestExtent, hplace.complete.drop_extent, List.append_nil] at hrequest
  exact hgreeting.bind hrequest

/-- Who got a connection has asked for it. -/
theorem exists_asks {e : Endpoint} (he : e.sink.room = none)
    (h : (takeRequest.outcome e).1 = .ok ⟨address, port⟩) :
    ∃ said rest, e.source.bytes = said ++ rest ∧ Asks said address port := by
  obtain ⟨r, answer, hgreeted⟩ := exists_greeted e.source.ending e.source.bytes
  obtain ⟨e', hout, he'⟩ := follows_acceptGreeting.outcome_of_row he hgreeted
  cases r with
  | error fault =>
      rw [takeRequest, outcome_bind_error hout] at h
      cases h
  | ok u =>
      rw [takeRequest, outcome_bind_ok hout] at h
      obtain ⟨_, hrequested⟩ := (follows_readRequest.result_iff he'.roomy).1 h
      -- no other greeting goes on, and what this one leaves is the request
      cases hgreeted with
      | @accepted n methods more hbytes hn hoffer =>
          have hmore : e'.source.bytes = more := by
            rw [he'.unread, hbytes, drop_greetingExtent hn]
          cases hrequested with
          | @connect reserved type behind _ _ hbytes' hread =>
              cases hread with
              | @spelled place rest _ _ hbehind hplace =>
                  refine ⟨[5, n] ++ methods ++ [5, 1, reserved, type] ++ place, rest, ?_,
                    n, methods, reserved, type, place, rfl, hn, hoffer, hplace⟩
                  rw [hbytes, ← hmore, hbytes', hbehind]
                  simp [version]

end

/-- A greeting fails without an answer, or because all its methods are there and none will do. -/
theorem Greeted.declines_of_error {fault : Fault} {said : List UInt8}
    (h : Greeted ending bytes (.error fault) said) :
    fault.kind ∈ [Kind.io, .protocol, .auth] ∧
      (Declines bytes ∧ said = [5, 0xFF] ∨ ¬Declines bytes ∧ said = []) := by
  cases h with
  | short h =>
      refine ⟨by simp [Fault.kind], .inr ⟨?_, rfl⟩⟩
      rintro ⟨n, methods, rest, rfl, -⟩
      simp only [List.length_cons] at h
      omega
  | foreign h hv =>
      refine ⟨by simp [Fault.kind], .inr ⟨?_, rfl⟩⟩
      rintro ⟨n, methods, rest, h', -⟩
      exact hv (List.cons.inj (h.symm.trans h')).1
  | @cut n methods h hn =>
      refine ⟨by simp [Fault.kind], .inr ⟨?_, rfl⟩⟩
      rintro ⟨n', methods', rest, h', hn', -⟩
      obtain ⟨rfl, rfl⟩ := List.cons.inj (List.cons.inj (h.symm.trans h')).2
      rw [List.length_append] at hn
      omega
  | @declined n methods rest h hn hnone =>
      exact ⟨by simp [Fault.kind], .inl ⟨⟨n, methods, rest, h, hn, hnone⟩, rfl⟩⟩

/-- **The language of the server.**  It takes a request for a connection exactly from a client that
offers to have no authentication and then asks for one; what was said is read up to its last byte,
and answered once.  A greeting that fails is answered if all its methods are there and none will do,
and otherwise it is not answered.  Of any stream exactly the bytes of the greeting or of the request
are read, or all there are; a read that succeeds has as many bytes as it is meant to have, so that
no byte is looked at that is not there; and what does not come to a result comes to a fault. -/
theorem connect_language {e : Endpoint} (he : e.sink.room = none) :
    let greeted := acceptGreeting.outcome e
    let requested := readRequest.outcome e
    let taken := takeRequest.outcome e
    (∀ address port, taken.1 = .ok ⟨address, port⟩ ↔
      ∃ said rest, e.source.bytes = said ++ rest ∧ Asks said address port) ∧
    (∀ said rest address port, e.source.bytes = said ++ rest → Asks said address port →
      taken.2.source.bytes = rest ∧ taken.2.sink.written = e.sink.written ++ [5, 0]) ∧
    (∀ fault, greeted.1 = .error fault →
      Declines e.source.bytes ∧ greeted.2.sink.written = e.sink.written ++ [5, 0xFF] ∨
      ¬Declines e.source.bytes ∧ greeted.2.sink.written = e.sink.written) ∧
    (greeted.2.source.bytes = e.source.bytes.drop (greetingExtent e.source.bytes) ∧
      requested.2.source.bytes = e.source.bytes.drop (requestExtent e.source.bytes)) ∧
    (∀ n bytes, ((readExact n).outcome e).1 = .ok bytes → bytes.length = n) ∧
    ∀ fault, greeted.1 = .error fault ∨ requested.1 = .error fault →
      fault.kind ∈ [Kind.io, .protocol, .auth, .parse] := by
  have htaken : ∀ {said rest address port}, e.source.bytes = said ++ rest →
      Asks said address port → ∃ e', takeRequest.outcome e = (.ok ⟨address, port⟩, e') ∧
        e'.Looks ⟨rest, e.source.ending, e.sink.written ++ [5, 0]⟩ :=
    fun hbytes hasks =>
      yields_takeRequest hasks _ e.source.ending e.sink.written e ⟨hbytes, rfl, rfl, he⟩
  refine ⟨fun address port => ⟨exists_asks he, ?_⟩, ?_, ?_, ⟨?_, ?_⟩, ?_, ?_⟩
  · rintro ⟨said, rest, hbytes, hasks⟩
    obtain ⟨e', hout, -⟩ := htaken hbytes hasks
    rw [hout]
  · intro said rest address port hbytes hasks
    obtain ⟨e', hout, he'⟩ := htaken hbytes hasks
    rw [hout]
    exact ⟨he'.unread, he'.written⟩
  · intro fault hfault
    obtain ⟨said, hrow⟩ := (follows_acceptGreeting.result_iff he).1 hfault
    have hwritten := ((follows_acceptGreeting.row_iff he).1 hrow).2
    rcases hrow.declines_of_error.2 with ⟨hdeclines, rfl⟩ | ⟨hdeclines, rfl⟩
    · exact .inl ⟨hdeclines, hwritten⟩
    · exact .inr ⟨hdeclines, by rw [hwritten, List.append_nil]⟩
  · exact follows_acceptGreeting.bytes_eq he
  · exact follows_readRequest.bytes_eq he
  · exact fun n bytes => length_of_readExact
  · rintro fault (hfault | hfault)
    · obtain ⟨said, hrow⟩ := (follows_acceptGreeting.result_iff he).1 hfault
      have hkind := hrow.declines_of_error.1
      simp only [List.mem_cons, List.not_mem_nil, or_false] at hkind ⊢
      tauto
    · obtain ⟨said, hrow⟩ := (follows_readRequest.result_iff he).1 hfault
      have hkind := hrow.kind_mem
      simp only [List.mem_cons, List.not_mem_nil, or_false] at hkind ⊢
      tauto

/-- A client that offers two methods and asks for a name beyond ASCII, in pieces of one byte. -/
theorem connect_language_bytewise :
    let said : List UInt8 := [5, 2, 1, 0, 5, 1, 9, 3, 3, 110, 195, 182, 1, 187]
    let e := Endpoint.fresh ((said ++ [7]).map fun b => [b]) .closed
    e.sink.room = none ∧ (takeRequest.outcome e).1 = .ok ⟨.domain "nö", 443⟩ ∧
      (takeRequest.outcome e).2.source.bytes = [7] := by
  intro said e
  have hasks : Asks said (.domain "nö") 443 :=
    ⟨2, [1, 0], 9, 3, [3, 110, 195, 182, 1, 187], rfl, rfl, by decide,
      3 :: Utf8.bytesOf "nö", 1, 187, by decide +kernel, .domain (by decide +kernel), rfl⟩
  obtain ⟨hiff, hrest, -⟩ := connect_language (e := e) rfl
  exact ⟨rfl, (hiff _ _).2 ⟨said, [7], rfl, hasks⟩, (hrest said [7] _ _ rfl hasks).1⟩

/-! ## §4. Other commands. -/

/-- **A command is refused**: the client is told that it is not supported, and the conversation ends
as one that broke the protocol. -/
def Refuses (e : Endpoint) : Prop :=
  (∃ cause, (readRequest.outcome e).1 = .error (.protocol cause)) ∧
    (readRequest.outcome e).2.sink.written = e.sink.written ++ refusal

section

variable {command reserved type : UInt8}

/-- The row that is answered so has read an address. -/
theorem Requested.exists_spells {cause : ProtocolFault}
    (h : Requested ending ([5, command, reserved, type] ++ bytes) (.error (.protocol cause))
      refusal) :
    ∃ place rest address port, bytes = place ++ rest ∧ Address.Spells type place address port := by
  generalize hall : [5, command, reserved, type] ++ bytes = all at h
  cases h with
  | unsupported h hread _ =>
      obtain ⟨-, -, -, rfl, rfl⟩ : _ ∧ _ ∧ _ ∧ _ ∧ _ := by simpa using hall.trans h
      cases hread with
      | spelled h hplace => exact ⟨_, _, _, _, h, hplace⟩

/-- **What becomes of a command** on an endpoint is its row, and what is left is what follows the
address. -/
theorem outcome_of_command {e : Endpoint} (he : e.sink.room = none)
    (hbytes : e.source.bytes = [5, command, reserved, type] ++ bytes) {r : Except Fault Request}
    {said : List UInt8}
    (hrow : Requested e.source.ending ([5, command, reserved, type] ++ bytes) r said) :
    (readRequest.outcome e).1 = r ∧
      (readRequest.outcome e).2.source.bytes = bytes.drop (Address.extent type bytes) ∧
      (readRequest.outcome e).2.sink.written = e.sink.written ++ said := by
  rw [← hbytes] at hrow
  obtain ⟨hr, hwritten⟩ := (follows_readRequest.row_iff he).1 hrow
  refine ⟨hr, ?_, hwritten⟩
  rw [follows_readRequest.bytes_eq he, hbytes]
  exact drop_requestExtent command reserved type bytes

end

/-- **Other commands are refused** exactly if what follows spells an address with its port: then the
command is named, and what follows the address is left.  With a name that is no text, and with a
type that nobody knows, nothing is answered. -/
theorem command_answered_iff {e : Endpoint} (he : e.sink.room = none)
    {command reserved type : UInt8} {bytes : List UInt8}
    (hbytes : e.source.bytes = [5, command, reserved, type] ++ bytes) (hcommand : command ≠ 1) :
    let out := readRequest.outcome e
    (Refuses e ↔ ∃ place rest address port,
      bytes = place ++ rest ∧ Address.Spells type place address port) ∧
    (∀ place rest address port, bytes = place ++ rest →
      Address.Spells type place address port →
        out.1 = .error (.protocol (.command command)) ∧ out.2.source.bytes = rest) ∧
    (∀ place rest m, bytes = place ++ rest → Address.Garbles type place m →
      out.1 = .error (.parse (.domain m)) ∧ out.2.source.bytes = rest ∧
        out.2.sink.written = e.sink.written) ∧
    (type ∉ Address.types →
      out.1 = .error (.protocol (.addressType type)) ∧ out.2.source.bytes = bytes ∧
        out.2.sink.written = e.sink.written) := by
  have hspelled : ∀ {place rest address port}, bytes = place ++ rest →
      Address.Spells type place address port →
        Requested e.source.ending ([5, command, reserved, type] ++ bytes)
          (.error (.protocol (.command command))) refusal :=
    fun h hplace => .unsupported rfl (.spelled h hplace) hcommand
  refine ⟨⟨?_, ?_⟩, ?_, ?_, ?_⟩
  · rintro ⟨⟨cause, hcause⟩, hwritten⟩
    have hrow := (follows_readRequest.row_iff he).2 ⟨hcause, hwritten⟩
    rw [hbytes] at hrow
    exact hrow.exists_spells
  · rintro ⟨place, rest, address, port, h, hplace⟩
    obtain ⟨hout, -, hwritten⟩ := outcome_of_command he hbytes (hspelled h hplace)
    exact ⟨⟨_, hout⟩, hwritten⟩
  · intro place rest address port h hplace
    obtain ⟨hout, hleft, -⟩ := outcome_of_command he hbytes (hspelled h hplace)
    refine ⟨hout, ?_⟩
    rw [hleft, h, hplace.complete.drop_extent]
  · intro place rest m h hplace
    obtain ⟨hout, hleft, hwritten⟩ :=
      outcome_of_command he hbytes (.unreadable rfl (.garbled h hplace))
    refine ⟨hout, ?_, by rw [hwritten, List.append_nil]⟩
    rw [hleft, h, hplace.complete.drop_extent]
  · intro htype
    obtain ⟨hout, hleft, hwritten⟩ :=
      outcome_of_command he hbytes (.unreadable rfl (.unknown htype))
    refine ⟨hout, ?_, by rw [hwritten, List.append_nil]⟩
    rw [hleft, Address.extent_of_unknown htype]
    rfl

/-- A request to wait for a connection from a name beyond ASCII, in pieces. -/
theorem command_answered_iff_wait :
    let e := Endpoint.fresh [[5, 2], [0, 3, 2, 0xC3], [0xA9, 0, 80, 9]] .closed
    e.sink.room = none ∧ e.source.bytes = [5, 2, 0, 3] ++ [2, 0xC3, 0xA9, 0, 80, 9] ∧
      (2 : UInt8) ≠ 1 ∧ Refuses e ∧ (readRequest.outcome e).2.source.bytes = [9] := by
  intro e
  have hbytes : e.source.bytes = [5, 2, 0, 3] ++ [2, 0xC3, 0xA9, 0, 80, 9] := rfl
  have hplace : Address.Spells 3 [2, 0xC3, 0xA9, 0, 80] (.domain "é") 80 :=
    ⟨2 :: Utf8.bytesOf "é", 0, 80, by decide +kernel, .domain (by decide +kernel), rfl⟩
  obtain ⟨hiff, hnamed, -⟩ := command_answered_iff (e := e) rfl hbytes (by decide)
  exact ⟨rfl, hbytes, by decide, hiff.2 ⟨_, [9], _, _, rfl, hplace⟩,
    (hnamed _ [9] _ _ rfl hplace).2⟩

/-- A request to wait for a connection from a name that is no text. -/
def garbledWait : Endpoint := .fresh [[5, 2, 0, 3, 1, 0xFF, 0, 80]] .closed

/-- **Not every other command is answered**: this one ends as one that cannot be read, and the
client is told nothing. -/
theorem not_command_answered :
    (readRequest.outcome garbledWait).1 = .error (.parse (.domain ⟨0, some 1⟩)) ∧
      (readRequest.outcome garbledWait).2.sink.written = [] ∧
      ¬∀ (e : Endpoint) (command reserved type : UInt8) (place rest : List UInt8),
        e.sink.room = none → e.source.bytes = [5, command, reserved, type] ++ (place ++ rest) →
          Address.Complete type place → command ≠ 1 → Refuses e := by
  have hparse : (readRequest.outcome garbledWait).1 = .error (.parse (.domain ⟨0, some 1⟩)) := by
    decide +kernel
  refine ⟨hparse, by decide +kernel, fun h => ?_⟩
  obtain ⟨⟨cause, hcause⟩, -⟩ := h garbledWait 2 0 3 [1, 0xFF, 0, 80] [] rfl rfl
    ⟨[1, 0xFF], 0, 80, rfl, .domain rfl⟩ (by decide)
  rw [hparse] at hcause
  cases hcause

end Failover.Socks
