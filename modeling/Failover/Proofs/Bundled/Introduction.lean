/-
  Failover.Proofs.Bundled.Introduction
  ────────────────────────────────────
  **What a transport announces is what is negotiated.** A transport writes
  lines into one process, and a supervisor reads them in another:

      announcer ── introduce ──▶ bytes ── pieces ──▶ negotiate ──▶ negotiation

  As long as the method, the protocols and the addresses are words and no
  line is too long, the negotiation knows every endpoint that was named,
  the last endpoint and the last proxy, and its reader stands exactly
  behind the introduction, whatever follows and however the bytes arrive.

  Main statement: `negotiate_introduced`.
-/
import Failover.Bundled.Announcer
import Failover.Proofs.Handshake.Grammar
import Failover.Proofs.Handshake.Stream

namespace Failover.Bundled

open Bytes Handshake Text.Utf8

/-! ## §1. Introductions. -/

/-- What a transport names between the version and the end. -/
inductive Detail where
  /-- An endpoint. -/
  | expose (protocol address : String)
  /-- A proxy. -/
  | parent (protocol address : String)
  deriving DecidableEq

namespace Detail

def protocol : Detail → String
  | .expose protocol _ | .parent protocol _ => protocol

def address : Detail → String
  | .expose _ address | .parent _ address => address

/-- The message in which a method tells a detail. -/
def message (method : String) : Detail → Message
  | .expose protocol address => .expose method protocol address
  | .parent protocol address => .parent method protocol address

/-- Whether a proxy is named. -/
def isParent : Detail → Bool
  | .expose .. => false
  | .parent .. => true

end Detail

namespace Announcer

/-- Tell a detail. -/
def tell (a : Announcer) : Detail → Announcing Unit
  | .expose protocol address => a.expose protocol address
  | .parent protocol address => a.parent protocol address

/-- The whole introduction: the version, the details in their order, and the end. -/
def introduce (a : Announcer) (details : List Detail) :
    Announcing (Option Telemetry.ReportTarget) := do
  a.version
  details.forM a.tell
  a.done

/-- The messages of the introduction. -/
def messages (a : Announcer) (details : List Detail) : List Message :=
  .version protocolVersion :: details.map (·.message a.method) ++ [.done]

end Announcer

/-- The bytes of a message: its line and a newline. -/
def wire (m : Message) : List UInt8 := bytesOf m.text ++ [newline]

/-! ## §2. What is written. -/

/-- Announcing succeeds with a value on every outlet without a limit, and writes these bytes. -/
def Writes {α : Type} (x : Announcing α) (v : α) (bytes : List UInt8) : Prop :=
  ∀ o : Outlet, o.limit = none → x o = .ok v { o with written := o.written ++ bytes }

section Writes

variable {α β : Type} {x : Announcing α} {f : α → Announcing β} {v : α} {w : β}
  {bytes more : List UInt8} {m : Message}

theorem writes_pure (v : α) : Writes (pure v) v [] := by
  intro o _
  rw [List.append_nil]
  rfl

theorem Writes.bind (hx : Writes x v bytes) (hf : Writes (f v) w more) :
    Writes (x >>= f) w (bytes ++ more) := by
  intro o ho
  show EStateM.bind x f o = _
  unfold EStateM.bind
  rw [hx o ho]
  have hmore := hf { o with written := o.written ++ bytes } ho
  rw [List.append_assoc] at hmore
  exact hmore

theorem writes_write (bytes : List UInt8) : Writes (write bytes) () bytes := by
  intro o ho
  unfold write
  rw [ho]
  rfl

/-- A message made of words is written as its line and a newline. -/
theorem writes_message (hm : ∀ arg ∈ m.args, IsWord arg) : Writes (writeMessage m) () (wire m) := by
  have hline : writeMessage m = (do write (bytesOf m.text); write [newline] : Announcing Unit) := by
    funext o
    unfold writeMessage
    rw [Message.line_eq hm]
    rfl
  rw [hline]
  exact (writes_write _).bind (writes_write _)

end Writes

namespace Announcer

variable {a : Announcer} {details : List Detail}

theorem isWord_protocolVersion : IsWord protocolVersion := by decide

/-- A transport that was launched as a service opens with its version. -/
theorem writes_version (hs : (a.parameter "service").has = true) :
    Writes a.version () (wire (.version protocolVersion)) := by
  have hline : Writes (writeMessage (.version protocolVersion)) ()
      (wire (.version protocolVersion)) :=
    writes_message (by simp [Message.args, isWord_protocolVersion])
  -- Without a default a parameter has a value only if its variable is set.
  obtain ⟨value, hraw⟩ : ∃ value, (a.parameter "service").raw = some value := by
    rw [← Option.isSome_iff_exists]
    simpa [Parameter.has, parameter, Parameter.of] using hs
  rw [← List.append_nil (wire _)]
  refine hline.bind ?_
  simp only [Parameter.required, hraw]
  exact writes_pure ()

theorem isWord_args {d : Detail} (hmethod : IsWord a.method)
    (hd : IsWord d.protocol ∧ IsWord d.address) :
    ∀ arg ∈ (d.message a.method).args, IsWord arg := by
  have hargs : (d.message a.method).args = [a.method, d.protocol, d.address] := by cases d <;> rfl
  rw [hargs]
  simp only [List.forall_mem_cons, List.not_mem_nil, false_implies, implies_true, and_true]
  exact ⟨hmethod, hd⟩

theorem writes_tell {d : Detail} (hmethod : IsWord a.method)
    (hd : IsWord d.protocol ∧ IsWord d.address) :
    Writes (a.tell d) () (wire (d.message a.method)) := by
  cases d with
  | expose protocol address => exact writes_message (isWord_args hmethod hd)
  | parent protocol address => exact writes_message (isWord_args hmethod hd)

theorem writes_tellAll (hmethod : IsWord a.method)
    (hdetails : ∀ d ∈ details, IsWord d.protocol ∧ IsWord d.address) :
    Writes (details.forM a.tell) () ((details.map (·.message a.method)).flatMap wire) := by
  induction details with
  | nil => exact writes_pure ()
  | cons d rest ih =>
      obtain ⟨hd, hrest⟩ := List.forall_mem_cons.1 hdetails
      rw [List.map_cons, List.flatMap_cons]
      exact (writes_tell hmethod hd).bind (ih hrest)

theorem writes_done : Writes a.done a.reportTarget (wire .done) := by
  have hline : Writes (writeMessage .done) () (wire .done) :=
    writes_message (by simp [Message.args])
  have hpure : Writes (pure a.reportTarget) a.reportTarget [] := writes_pure _
  rw [← List.append_nil (wire .done)]
  exact hline.bind hpure

/-- **The introduction** is written as its messages, one after the other. -/
theorem writes_introduce (hs : (a.parameter "service").has = true) (hmethod : IsWord a.method)
    (hdetails : ∀ d ∈ details, IsWord d.protocol ∧ IsWord d.address) :
    Writes (a.introduce details) a.reportTarget ((a.messages details).flatMap wire) := by
  have hwire : (a.messages details).flatMap wire = wire (.version protocolVersion) ++
      ((details.map (·.message a.method)).flatMap wire ++ wire .done) := by
    simp [messages]
  rw [hwire]
  exact (writes_version hs).bind ((writes_tellAll hmethod hdetails).bind writes_done)

end Announcer

/-! ## §3. What is read. -/

section Reading

variable {n n' : Negotiation} {r : LineReader} {m : Message} {ms told : List Message}
  {rest : List UInt8}

/-- A message that can be told: made of words, and with a line that is not too long. -/
structure Tellable (m : Message) : Prop where
  words : ∀ arg ∈ m.args, IsWord arg
  short : (bytesOf m.text).length ≤ maxLength

/-- A message in front of a reader is taken, and the reader is left behind it. -/
theorem negotiateOn_takes {s : Step} (hd : n.done = false) (ht : n.Takes m s n') (hm : Tellable m)
    (h : r.Sound) (hb : r.bytes = wire m ++ rest) :
    ∃ r', r'.Sound ∧ r'.bytes = rest ∧ r'.source.ending = r.source.ending ∧
      negotiateOn n r = match s with
        | .more => negotiateOn n' r'
        | .done => .ok (n', r') := by
  have hsplit : r.bytes = bytesOf m.text ++ newline :: rest := by
    rw [hb, wire, List.append_assoc]
    rfl
  have hn : newline ∉ bytesOf m.text :=
    newline_not_mem_bytesOf (Message.newline_not_mem_text hm.words)
  obtain ⟨r', hr', hs, hrest, hend⟩ := r.next_of_line h hsplit hn hm.short
  refine ⟨r', hs, hrest, hend, ?_⟩
  rw [negotiateOn_eq, hr']
  dsimp only
  rw [lineText_bytesOf (Message.getLast?_text hm.words)]
  unfold Negotiation.heed
  dsimp only
  rw [Negotiation.feed_of_parse hd (Message.parse_text hm.words), ht.apply_eq]
  cases s <;> rfl

/-- Details after the version, and the end: the negotiation takes them all, and the reader is left
behind them. -/
theorem negotiateOn_details (hn : n.Reflects told) (hd : n.done = false)
    (hv : n.version.isSome = true) (hms : ∀ m ∈ ms, m.isDetail = true ∧ Tellable m) (h : r.Sound)
    (hb : r.bytes = (ms ++ [Message.done]).flatMap wire ++ rest) :
    ∃ n' r', negotiateOn n r = .ok (n', r') ∧ n'.Reflects (told ++ ms ++ [.done]) ∧ r'.Sound ∧
      r'.bytes = rest ∧ r'.source.ending = r.source.ending := by
  -- Each detail goes to the end of what was told, so `told` grows along the induction.
  induction ms generalizing n r told with
  | nil =>
      have hdone : Tellable .done := ⟨by simp [Message.args], by decide⟩
      have ht : n.Takes .done .done { n with done := true } := .done hv
      obtain ⟨r', hs, hrest, hend, heq⟩ := negotiateOn_takes hd ht hdone h (by simpa using hb)
      refine ⟨_, r', heq, ?_, hs, hrest, hend⟩
      rw [List.append_nil]
      exact hn.take hd ht
  | cons m ms ih =>
      obtain ⟨⟨hdetail, hm⟩, hrest⟩ := List.forall_mem_cons.1 hms
      obtain ⟨n₁, ht, hversion, hdone⟩ := Negotiation.exists_takes_detail hv hdetail
      have hwire : r.bytes = wire m ++ ((ms ++ [Message.done]).flatMap wire ++ rest) := by
        simpa using hb
      obtain ⟨r₁, hs₁, hb₁, hend₁, heq₁⟩ := negotiateOn_takes hd ht hm h hwire
      obtain ⟨n', r', heq, hn', hs, hrest', hend⟩ :=
        ih (hn.take hd ht) (hdone.trans hd) (by rwa [hversion]) hrest hs₁ hb₁
      refine ⟨n', r', heq₁.trans heq, ?_, hs, hrest', hend.trans hend₁⟩
      simpa using hn'

end Reading

namespace Announcer

variable {a : Announcer} {details : List Detail}

theorem isDetail_message (method : String) (d : Detail) : (d.message method).isDetail = true := by
  cases d <;> rfl

/-- What neither the version nor the end says is said by the details. -/
theorem filterMap_messages {α : Type} {f : Message → Option α}
    (hversion : f (.version protocolVersion) = none) (hdone : f .done = none) :
    (a.messages details).filterMap f = details.filterMap fun d => f (d.message a.method) := by
  rw [messages, List.cons_append, List.filterMap_cons_none hversion, List.filterMap_append,
    List.filterMap_map, List.filterMap_cons_none hdone, List.filterMap_nil, List.append_nil]
  rfl

/-- The endpoints that are told are those of the details that name one. -/
theorem exposed_messages (a : Announcer) (details : List Detail) :
    (a.messages details).filterMap Message.exposed? =
      (details.filter (!·.isParent)).map fun d => ⟨a.method, d.protocol, d.address⟩ := by
  rw [filterMap_messages rfl rfl]
  induction details with
  | nil => rfl
  | cons d rest ih =>
      cases d with
      | expose protocol address => exact congrArg (⟨a.method, protocol, address⟩ :: ·) ih
      | parent protocol address => exact ih

/-- The proxies that are told are those of the details that name one. -/
theorem parents_messages (a : Announcer) (details : List Detail) :
    (a.messages details).filterMap Message.parent? =
      (details.filter (·.isParent)).map fun d => (d.protocol, d.address) := by
  rw [filterMap_messages rfl rfl]
  induction details with
  | nil => rfl
  | cons d rest ih =>
      cases d with
      | expose protocol address => exact ih
      | parent protocol address => exact congrArg ((protocol, address) :: ·) ih

theorem tellable_version : Tellable (.version protocolVersion) where
  words := by simp [Message.args, isWord_protocolVersion]
  short := by decide

/-- The whole introduction: a fresh negotiation takes it, and the reader is left behind it. -/
theorem negotiateOn_messages {r : LineReader} {rest : List UInt8}
    (hdetails : ∀ d ∈ details, Tellable (d.message a.method)) (h : r.Sound)
    (hb : r.bytes = (a.messages details).flatMap wire ++ rest) :
    ∃ n r', negotiateOn .empty r = .ok (n, r') ∧ n.Reflects (a.messages details) ∧ r'.Sound ∧
      r'.bytes = rest ∧ r'.source.ending = r.source.ending := by
  have hwire : r.bytes = wire (.version protocolVersion) ++
      ((details.map (·.message a.method) ++ [Message.done]).flatMap wire ++ rest) := by
    simpa [messages] using hb
  have ht : Negotiation.empty.Takes (.version protocolVersion) .more _ :=
    .version protocolVersion rfl
  obtain ⟨r₁, hs₁, hb₁, hend₁, heq₁⟩ := negotiateOn_takes rfl ht tellable_version h hwire
  have hms : ∀ m ∈ details.map (·.message a.method), m.isDetail = true ∧ Tellable m := by
    intro m hm
    obtain ⟨d, hd, rfl⟩ := List.mem_map.1 hm
    exact ⟨isDetail_message a.method d, hdetails d hd⟩
  obtain ⟨n, r', heq, hn, hs, hrest, hend⟩ :=
    negotiateOn_details (Negotiation.reflects_empty.take rfl ht) rfl rfl hms hs₁ hb₁
  exact ⟨n, r', heq₁.trans heq, hn, hs, hrest, hend.trans hend₁⟩

/-- **What is announced is negotiated.** A transport that was launched as a service introduces
itself, its method, protocols and addresses being words and its lines short enough.  Every outlet
without a limit takes the introduction; and from its bytes, whatever comes behind them and whatever
the pieces, the version is read, every endpoint in the order in which they were named, and of
several endpoints or proxies the last one as the response.  The reader stands right behind the
introduction. -/
theorem negotiate_introduced (a : Announcer) (details : List Detail) (further : List UInt8)
    (hservice : (a.parameter "service").has = true) (hmethod : IsWord a.method)
    (hdetails : ∀ d ∈ details, IsWord d.protocol ∧ IsWord d.address)
    (hshort : ∀ d ∈ details, (bytesOf (d.message a.method).text).length ≤ maxLength) :
    ∃ target written, a.introduce details .open = .ok target ⟨written, none⟩ ∧
      ∀ pieces ending, pieces.flatten = written ++ further →
        ∃ n r, negotiate (.start ⟨pieces, ending⟩) = .ok (n, r) ∧
          n.version = some protocolVersion ∧
          n.methods = (details.filter (!·.isParent)).map
            (fun d => ⟨a.method, d.protocol, d.address⟩) ∧
          n.response.get? "bindaddr" = (details.filter (!·.isParent)).getLast?.map (·.address) ∧
          n.response.get? "protocol" = (details.filter (!·.isParent)).getLast?.map (·.protocol) ∧
          n.response.get? "parentaddr" = (details.filter (·.isParent)).getLast?.map (·.address) ∧
          n.response.get? "parentprotocol" =
            (details.filter (·.isParent)).getLast?.map (·.protocol) ∧
          r.bytes = further ∧ r.lines = linesOf ending further := by
  refine ⟨_, _, writes_introduce hservice hmethod hdetails .open rfl, ?_⟩
  intro pieces ending hpieces
  have hb : (LineReader.start ⟨pieces, ending⟩).bytes =
      (a.messages details).flatMap wire ++ further := hpieces
  have htell : ∀ d ∈ details, Tellable (d.message a.method) := fun d hd =>
    ⟨isWord_args hmethod (hdetails d hd), hshort d hd⟩
  obtain ⟨n, r, heq, hn, hs, hrest, hend⟩ :=
    negotiateOn_messages htell (LineReader.sound_start _) hb
  have hmethods := hn.methods.trans (exposed_messages a details)
  have hparents := parents_messages a details
  refine ⟨n, r, heq, hn.version, hmethods, ?_, ?_, ?_, ?_, hrest, ?_⟩
  · rw [hn.bindAddr, hmethods, List.getLast?_map, Option.map_map]
    rfl
  · rw [hn.protocol, hmethods, List.getLast?_map, Option.map_map]
    rfl
  · rw [hn.parentAddr, hparents, List.getLast?_map, Option.map_map]
    rfl
  · rw [hn.parentProtocol, hparents, List.getLast?_map, Option.map_map]
    rfl
  · rw [r.lines_eq_linesOf hs, hrest, hend]
    rfl

/-- A plain proxy that connects through another one. -/
def chainedProxy : Announcer := ⟨"socks5", [("TSUP_SERVICE", "transport")], "TSUP"⟩

theorem negotiate_introduced_chainedProxy :
    (chainedProxy.parameter "service").has = true ∧ IsWord chainedProxy.method ∧
      ∃ target written,
        chainedProxy.introduce
            [.parent "socks5" "127.0.0.1:2000", .expose "socks5" "127.0.0.1:1080"] .open =
          .ok target ⟨written, none⟩ ∧
        ∃ n r, negotiate (.start ⟨[written ++ [13]], .closed⟩) = .ok (n, r) ∧
          n.methods = [⟨"socks5", "socks5", "127.0.0.1:1080"⟩] ∧
          n.response.get? "parentaddr" = some "127.0.0.1:2000" ∧ r.lines = [] := by
  have hservice : (chainedProxy.parameter "service").has = true := by decide
  have hmethod : IsWord chainedProxy.method := by decide
  obtain ⟨target, written, hwritten, hall⟩ := negotiate_introduced chainedProxy
    [.parent "socks5" "127.0.0.1:2000", .expose "socks5" "127.0.0.1:1080"] [13] hservice hmethod
    (by decide) (by decide)
  obtain ⟨n, r, heq, -, hmethods, -, -, hparent, -, -, hlines⟩ :=
    hall [written ++ [13]] .closed (by simp)
  exact ⟨hservice, hmethod, target, written, hwritten, n, r, heq, hmethods, hparent, hlines⟩

end Announcer

end Failover.Bundled
