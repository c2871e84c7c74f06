/-
  Failover.Proofs.Handshake.Transcript
  ────────────────────────────────────
  **A negotiation knows what it was told, and nothing else.** Lines of any
  kind are fed to a negotiation, and it goes on after those it refuses.
  The messages of the lines that it takes are its transcript:

      VERSION (EXPOSE | PARENT)* DONE?

  What it knows can be read off the transcript: the version is the one of
  the first message, the endpoints are those of the `EXPOSE` messages in
  their order, and of several endpoints or proxies the response holds the
  last one.

  Main statement: `negotiation_law` — this holds after every sequence of
  lines; a line that is refused changes nothing, after the end every line
  is refused, and a line ends the negotiation exactly when it is a `DONE`
  that comes after the version and before any other `DONE`.
-/
import Failover.Handshake.Negotiation

namespace Failover.Handshake

/-! ## §1. What a message says. -/

namespace Message

/-- The version that a message names. -/
def version? : Message → Option String
  | .version v => some v
  | _ => none

/-- The endpoint that a message names. -/
def exposed? : Message → Option Exposed
  | .expose method protocol address => some ⟨method, protocol, address⟩
  | _ => none

/-- The proxy that a message names: its protocol and its address. -/
def parent? : Message → Option (String × String)
  | .parent _ protocol address => some (protocol, address)
  | _ => none

/-- Whether a message names an endpoint or a proxy. -/
def isDetail : Message → Bool
  | .expose .. | .parent .. => true
  | _ => false

end Message

/-- Messages in the order of a handshake, which need not be finished or even begun. -/
def IsHandshake (ms : List Message) : Prop :=
  ms = [] ∨ ∃ v details ending, ms = .version v :: details ++ ending ∧
    (∀ m ∈ details, m.isDetail = true) ∧ (ending = [] ∨ ending = [.done])

/-- A handshake that has begun and is not finished goes on with a detail. -/
theorem IsHandshake.detail {ms : List Message} {m : Message} (h : IsHandshake ms) (hne : ms ≠ [])
    (hd : .done ∉ ms) (hm : m.isDetail = true) : IsHandshake (ms ++ [m]) := by
  obtain rfl | ⟨v, details, ending, rfl, hall, rfl | rfl⟩ := h
  · exact absurd rfl hne
  · refine .inr ⟨v, details ++ [m], [], by simp, ?_, .inl rfl⟩
    intro m' hm'
    rcases List.mem_append.1 hm' with hm' | hm'
    · exact hall m' hm'
    · rwa [List.mem_singleton.1 hm']
  · exact absurd (by simp) hd

/-- A handshake that has begun and is not finished may end. -/
theorem IsHandshake.finish {ms : List Message} (h : IsHandshake ms) (hne : ms ≠ [])
    (hd : .done ∉ ms) : IsHandshake (ms ++ [.done]) := by
  obtain rfl | ⟨v, details, ending, rfl, hall, rfl | rfl⟩ := h
  · exact absurd rfl hne
  · exact .inr ⟨v, details, [.done], by simp, hall, .inr rfl⟩
  · exact absurd (by simp) hd

/-- A handshake that has begun names its version first. -/
theorem IsHandshake.version_isSome {ms : List Message} (h : IsHandshake ms) (hne : ms ≠ []) :
    (ms.findSome? Message.version?).isSome = true := by
  obtain rfl | ⟨v, details, ending, rfl, -, -⟩ := h
  · exact absurd rfl hne
  · rfl

namespace Negotiation

/-! ## §2. How a negotiation takes a line. -/

/-- The changes that a message makes, with the step that it is. -/
inductive Takes (n : Negotiation) : Message → Step → Negotiation → Prop where
  | version (v : String) (h : n.version = none) :
      Takes n (.version v) .more
        { n with version := some v, response := n.response.insert "version" v }
  | parent (method protocol address : String) (h : n.version.isSome = true) :
      Takes n (.parent method protocol address) .more
        { n with
          response := (n.response.insert "parentaddr" address).insert "parentprotocol" protocol }
  | expose (method protocol address : String) (h : n.version.isSome = true) :
      Takes n (.expose method protocol address) .more
        { n with
          response := (n.response.insert "bindaddr" address).insert "protocol" protocol
          methods := n.methods ++ [⟨method, protocol, address⟩] }
  | done (h : n.version.isSome = true) : Takes n .done .done { n with done := true }

variable {n n' : Negotiation} {line : String} {m : Message} {s : Step}

/-- What is not refused is taken. -/
theorem takes_of_apply (h : n.apply m = (.ok s, n')) : Takes n m s n' := by
  -- Before the version only a message that may open a negotiation is not refused.
  have hopen : n.version.isSome = true ∨ (n.version = none ∧ mayOpen m = true) := by
    cases hv : n.version with
    | some v => exact .inl rfl
    | none =>
        refine .inr ⟨rfl, ?_⟩
        unfold apply at h
        cases hm : mayOpen m with
        | true => rfl
        | false => simp [hv, hm] at h
  have hpass : (n.version.isNone && !mayOpen m) = false := by
    rcases hopen with hv | ⟨-, hm⟩
    · rw [Option.isNone_eq_false_iff.2 hv, Bool.false_and]
    · rw [hm, Bool.not_true, Bool.and_false]
  unfold apply at h
  rw [if_neg (by rw [hpass]; exact Bool.false_ne_true)] at h
  cases m with
  | version v =>
      cases hv : n.version with
      | some w => simp [hv] at h
      | none =>
          simp only [hv, Option.isSome_none, Bool.false_eq_true, if_false] at h
          cases h
          exact .version v hv
  | error text => cases h
  | parent method protocol address =>
      cases h
      exact .parent method protocol address (hopen.resolve_right (by simp [mayOpen]))
  | expose method protocol address =>
      cases h
      exact .expose method protocol address (hopen.resolve_right (by simp [mayOpen]))
  | done =>
      cases h
      exact .done (hopen.resolve_right (by simp [mayOpen]))

/-- What may be taken is taken. -/
theorem Takes.apply_eq (h : Takes n m s n') : n.apply m = (.ok s, n') := by
  unfold apply
  cases h with
  | version v hv => simp [hv, mayOpen]
  | parent method protocol address hv => simp [Option.isNone_eq_false_iff.2 hv]
  | expose method protocol address hv => simp [Option.isNone_eq_false_iff.2 hv]
  | done hv => simp [Option.isNone_eq_false_iff.2 hv]

/-- After the version every detail may be taken, and it neither changes the version nor is it the
end. -/
theorem exists_takes_detail (hv : n.version.isSome = true) (hm : m.isDetail = true) :
    ∃ n', Takes n m .more n' ∧ n'.version = n.version ∧ n'.done = n.done := by
  cases m with
  | parent method protocol address => exact ⟨_, .parent method protocol address hv, rfl, rfl⟩
  | expose method protocol address => exact ⟨_, .expose method protocol address hv, rfl, rfl⟩
  | version v => cases hm
  | error text => cases hm
  | done => cases hm

/-- A line is taken before the end, and is a message that is taken. -/
theorem takes_of_feed (h : n.feed line = (.ok s, n')) :
    n.done = false ∧ ∃ m, Message.parse line = .ok m ∧ Takes n m s n' := by
  unfold feed at h
  cases hd : n.done with
  | true => simp [hd] at h
  | false =>
      simp only [hd, Bool.false_eq_true, if_false] at h
      cases hp : Message.parse line with
      | error cause => simp [hp] at h
      | ok m =>
          rw [hp] at h
          exact ⟨rfl, m, rfl, takes_of_apply h⟩

/-- Before the end a line is fed as its message. -/
theorem feed_of_parse (hd : n.done = false) (hp : Message.parse line = .ok m) :
    n.feed line = n.apply m := by
  unfold feed
  rw [if_neg (by simp [hd]), hp]

/-- **The end.** A line ends a negotiation exactly when it is a `DONE` that comes after the version
and before any other `DONE`. -/
theorem feed_done_iff : (n.feed line).1 = .ok .done ↔
    Message.parse line = .ok .done ∧ n.done = false ∧ n.version.isSome = true := by
  constructor
  · intro h
    have heq : n.feed line = (.ok .done, (n.feed line).2) := Prod.ext h rfl
    obtain ⟨hd, m, hp, ht⟩ := takes_of_feed heq
    generalize (n.feed line).2 = n' at ht
    cases ht with
    | done hv => exact ⟨hp, hd, hv⟩
  · rintro ⟨hp, hd, hv⟩
    unfold feed
    simp [hd, hp, apply, Option.isNone_eq_false_iff.2 hv]

/-! ## §3. The transcript. -/

/-- The message of a line, if the line is taken. -/
def taken? (n : Negotiation) (line : String) : Option Message :=
  match n.feed line with
  | (.ok _, _) => (Message.parse line).toOption
  | (.error _, _) => none

/-- The messages of those of the lines that are taken, in their order. -/
def transcript (n : Negotiation) : List String → List Message
  | [] => []
  | line :: rest => (n.taken? line).toList ++ (n.feed line).2.transcript rest

theorem taken?_of_ok (h : n.feed line = (.ok s, n')) (hp : Message.parse line = .ok m) :
    n.taken? line = some m := by
  rw [taken?, h, hp]
  rfl

theorem taken?_of_error {f : Fault} (h : n.feed line = (.error f, n')) : n.taken? line = none := by
  rw [taken?, h]

/-- Every line is refused, or taken with the changes that its message makes. -/
theorem feed_cases (n : Negotiation) (line : String) :
    (n.taken? line = none ∧ (n.feed line).2 = n) ∨
      ∃ m s, n.taken? line = some m ∧ n.done = false ∧ Takes n m s (n.feed line).2 := by
  cases h : n.feed line with
  | mk r n' =>
      cases r with
      | error f => exact .inl ⟨taken?_of_error h, feed_error h⟩
      | ok s =>
          obtain ⟨hd, m, hp, ht⟩ := takes_of_feed h
          exact .inr ⟨m, s, taken?_of_ok h hp, hd, ht⟩

theorem feedAll_cons (n : Negotiation) (line : String) (rest : List String) :
    n.feedAll (line :: rest) =
      ((n.feed line).1 :: ((n.feed line).2.feedAll rest).1, ((n.feed line).2.feedAll rest).2) := rfl

/-! ## §4. What is known. -/

/-- The keys that a response may have. -/
def responseKeys : List String :=
  ["version", "bindaddr", "protocol", "parentaddr", "parentprotocol"]

/-- A negotiation knows what the messages say, and nothing else. -/
structure Reflects (n : Negotiation) (ms : List Message) : Prop where
  ordered : IsHandshake ms
  version : n.version = ms.findSome? Message.version?
  methods : n.methods = ms.filterMap Message.exposed?
  done : n.done = true ↔ .done ∈ ms
  versionValue : n.response.get? "version" = n.version
  bindAddr : n.response.get? "bindaddr" = n.methods.getLast?.map (·.bindAddr)
  protocol : n.response.get? "protocol" = n.methods.getLast?.map (·.protocol)
  parentAddr : n.response.get? "parentaddr" = (ms.filterMap Message.parent?).getLast?.map (·.2)
  parentProtocol :
    n.response.get? "parentprotocol" = (ms.filterMap Message.parent?).getLast?.map (·.1)
  keys : ∀ key ∈ n.response.keys, key ∈ responseKeys
  blank : n.version = none → n.methods = [] ∧ n.response = .empty ∧ n.done = false

theorem reflects_empty : Reflects empty [] where
  ordered := .inl rfl
  version := rfl
  methods := rfl
  done := by simp [empty]
  versionValue := rfl
  bindAddr := rfl
  protocol := rfl
  parentAddr := rfl
  parentProtocol := rfl
  keys := by simp [empty, Named.empty, Named.keys]
  blank _ := ⟨rfl, rfl, rfl⟩

/-- A response gets a value under one of its keys. -/
theorem keys_insert {response : Variables} {key value : String}
    (h : ∀ k ∈ response.keys, k ∈ responseKeys) (hkey : key ∈ responseKeys) :
    ∀ k ∈ (response.insert key value).keys, k ∈ responseKeys := by
  intro k hk
  rcases Named.mem_keys_insert hk with rfl | hk
  · exact hkey
  · exact h k hk

namespace Reflects

variable {ms : List Message}

/-- Before the version nothing was taken. -/
theorem eq_nil (h : Reflects n ms) (hv : n.version = none) : ms = [] := by
  refine Classical.byContradiction fun hne => ?_
  have hsome := h.ordered.version_isSome hne
  rw [← h.version, hv] at hsome
  cases hsome

/-- After the version something was taken. -/
theorem ne_nil (h : Reflects n ms) (hv : n.version.isSome = true) : ms ≠ [] := by
  rintro rfl
  rw [h.version] at hv
  cases hv

theorem not_mem_done (h : Reflects n ms) (hd : n.done = false) : .done ∉ ms := by
  intro hm
  rw [h.done.2 hm] at hd
  cases hd

theorem findSome?_append (h : Reflects n ms) (hv : n.version.isSome = true) (m : Message) :
    (ms ++ [m]).findSome? Message.version? = n.version := by
  rw [List.findSome?_append, ← h.version]
  exact Option.or_of_isSome hv

/-- A message that is taken goes to the end of the transcript. -/
theorem take (h : Reflects n ms) (hd : n.done = false) (ht : Takes n m s n') :
    Reflects n' (ms ++ [m]) := by
  cases ht with
  | version v hv =>
      -- Nothing was taken yet, so all but the version is still blank.
      obtain rfl := h.eq_nil hv
      obtain ⟨hmethods, hresponse, hdone⟩ := h.blank hv
      exact {
        ordered := .inr ⟨v, [], [], rfl, by simp, .inl rfl⟩
        version := rfl
        methods := hmethods
        done := by simp [hdone]
        versionValue := by simp
        bindAddr := by simp [hresponse, hmethods]
        protocol := by simp [hresponse, hmethods]
        parentAddr := by simp [hresponse, Message.parent?]
        parentProtocol := by simp [hresponse, Message.parent?]
        keys := keys_insert h.keys (by decide)
        blank hnone := absurd hnone (by simp) }
  | parent method protocol address hv =>
      exact {
        ordered := h.ordered.detail (h.ne_nil hv) (h.not_mem_done hd) rfl
        version := (h.findSome?_append hv _).symm
        methods := by simp [h.methods, Message.exposed?]
        done := by simp [hd, h.not_mem_done hd]
        versionValue := by simp [h.versionValue]
        bindAddr := by simp [h.bindAddr]
        protocol := by simp [h.protocol]
        parentAddr := by simp [Message.parent?]
        parentProtocol := by simp [Message.parent?]
        keys := keys_insert (keys_insert h.keys (by decide)) (by decide)
        blank hnone := absurd hnone (Option.isSome_iff_ne_none.1 hv) }
  | expose method protocol address hv =>
      exact {
        ordered := h.ordered.detail (h.ne_nil hv) (h.not_mem_done hd) rfl
        version := (h.findSome?_append hv _).symm
        methods := by simp [h.methods, Message.exposed?]
        done := by simp [hd, h.not_mem_done hd]
        versionValue := by simp [h.versionValue]
        bindAddr := by simp
        protocol := by simp
        parentAddr := by simp [h.parentAddr, Message.parent?]
        parentProtocol := by simp [h.parentProtocol, Message.parent?]
        keys := keys_insert (keys_insert h.keys (by decide)) (by decide)
        blank hnone := absurd hnone (Option.isSome_iff_ne_none.1 hv) }
  | done hv =>
      exact {
        ordered := h.ordered.finish (h.ne_nil hv) (h.not_mem_done hd)
        version := (h.findSome?_append hv _).symm
        methods := by simp [h.methods, Message.exposed?]
        done := by simp
        versionValue := h.versionValue
        bindAddr := h.bindAddr
        protocol := h.protocol
        parentAddr := by simp [h.parentAddr, Message.parent?]
        parentProtocol := by simp [h.parentProtocol, Message.parent?]
        keys := h.keys
        blank hnone := absurd hnone (Option.isSome_iff_ne_none.1 hv) }

/-- A line, taken or not, leaves a negotiation that knows what its transcript says. -/
theorem feed (h : Reflects n ms) (line : String) :
    Reflects (n.feed line).2 (ms ++ (n.taken? line).toList) := by
  rcases feed_cases n line with ⟨hnone, heq⟩ | ⟨m, s, hsome, hd, ht⟩
  · rw [hnone, heq]
    simpa using h
  · rw [hsome]
    exact h.take hd ht

/-- So do lines, one after the other. -/
theorem feedAll (h : Reflects n ms) (lines : List String) :
    Reflects (n.feedAll lines).2 (ms ++ n.transcript lines) := by
  induction lines generalizing n ms with
  | nil => simpa [transcript, Negotiation.feedAll] using h
  | cons line rest ih =>
      rw [feedAll_cons, transcript, ← List.append_assoc]
      exact ih (h.feed line)

end Reflects

/-- After the end every line is refused, however many there are. -/
theorem feedAll_of_done (h : n.done = true) (lines : List String) :
    n.feedAll lines = (lines.map fun _ => .error (.protocol .afterDone), n) := by
  induction lines with
  | nil => rfl
  | cons line rest ih =>
      rw [feedAll_cons, feed_of_done h, ih]
      rfl

/-! ## §5. All runs. -/

/-- **The law of a negotiation.** After every sequence of lines, whatever they are and whichever of
them are refused, a negotiation knows what its transcript says and nothing else.  A further line
that is refused changes nothing; once the end was taken, every further line is refused as coming
too late; and a further line ends the negotiation exactly when it is a `DONE`, the version is known
and the end was not taken yet. -/
theorem negotiation_law (lines : List String) :
    let n := (empty.feedAll lines).2
    Reflects n (empty.transcript lines) ∧
      (∀ line f, (n.feed line).1 = .error f → (n.feed line).2 = n) ∧
      (n.done = true →
        ∀ more, n.feedAll more = (more.map fun _ => .error (.protocol .afterDone), n)) ∧
      (∀ line, (n.feed line).1 = .ok .done ↔
        Message.parse line = .ok .done ∧ n.done = false ∧ n.version.isSome = true) := by
  intro n
  refine ⟨?_, ?_, ?_, ?_⟩
  · simpa using reflects_empty.feedAll lines
  · intro line f hf
    have heq : n.feed line = (.error f, (n.feed line).2) := Prod.ext hf rfl
    exact feed_error heq
  · exact fun hd more => feedAll_of_done hd more
  · exact fun line => feed_done_iff

end Negotiation

end Failover.Handshake
