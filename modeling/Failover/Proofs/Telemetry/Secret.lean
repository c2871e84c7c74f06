/-
  Failover.Proofs.Telemetry.Secret
  ────────────────────────────────
  **Who shows the secret.**  One secret is configured.  It goes to the
  receiver of reports and, as a variable, to every transport, which shows
  it with each report:

      secret ──────────────────────────────────────────▶ receiver
      secret ── build ──▶ variable ── reportTarget ──▶ header ─┘

  Both sides take it byte by byte, but the receiver reads a header only if
  all of it is visible ASCII, blanks or tabs.  A header may hold more than
  that, and a secret may hold anything.  So a transport is admitted just if
  every character of the secret is one of these.

  Main statements: `authorized_iff` (any request) and
  `own_report_authorized_iff` (the reports of a transport that was handed
  the configured secret).
-/
import Failover.Proofs.Service.Spelling
import Failover.Proofs.Text.Ascii
import Failover.Supervisor

namespace Failover.Telemetry

open Http Text Environment

/-! ## §1. Bytes of a header. -/

/-- Whether a character is visible ASCII, a blank or a tab. -/
def isPlain (c : Char) : Bool := (32 ≤ c.toNat && c.toNat < 127) || c.toNat == 9

theorem Receiver.isVisible_iff (b : UInt8) :
    isVisible b = true ↔ 32 ≤ b.toNat ∧ b.toNat < 127 ∨ b.toNat = 9 := by
  simp [isVisible, UInt8.le_iff_toNat_le, UInt8.lt_iff_toNat_lt, ← UInt8.toNat_inj]

theorem isPlain_iff (c : Char) :
    isPlain c = true ↔ 32 ≤ c.toNat ∧ c.toNat < 127 ∨ c.toNat = 9 := by
  simp [isPlain]

theorem isHeaderByte_iff (b : UInt8) :
    isHeaderByte b = true ↔ 32 ≤ b.toNat ∧ b.toNat ≠ 127 ∨ b.toNat = 9 := by
  simp [isHeaderByte, UInt8.le_iff_toNat_le, ← UInt8.toNat_inj]

/-- **The bytes of a character are visible just if the character is plain.** -/
theorem all_isVisible_encodeChar (c : Char) :
    (Utf8.encodeChar c).all Receiver.isVisible = true ↔ isPlain c = true := by
  by_cases hc : c.toNat < 0x80
  · rw [Utf8.encodeChar_of_ascii hc, List.all_cons, List.all_nil, Bool.and_true,
      Receiver.isVisible_iff, isPlain_iff, Utf8.toNat_ofNat_of_ascii hc]
  · -- every byte of it is beyond ASCII, and there is one
    obtain ⟨b, hb⟩ := List.exists_mem_of_length_pos (Utf8.length_encodeChar_pos c)
    have hbig := Utf8.le_toNat_of_mem_encodeChar hc hb
    constructor
    · intro hall
      have hvisible := (Receiver.isVisible_iff b).1 (List.all_eq_true.1 hall b hb)
      omega
    · intro hplain
      have hsmall := (isPlain_iff c).1 hplain
      omega

/-- Those of a text are, just if all its characters are. -/
theorem all_isVisible_bytesOf (s : String) :
    (Utf8.bytesOf s).all Receiver.isVisible = true ↔ ∀ c ∈ s.toList, isPlain c = true := by
  unfold Utf8.bytesOf Utf8.encode
  rw [List.all_flatMap, List.all_eq_true]
  exact forall₂_congr fun c _ => all_isVisible_encodeChar c

/-- What may stand in a header is plain just if it is ASCII. -/
theorem isPlain_iff_of_isHeaderByte {c : Char}
    (h : ∀ b ∈ Utf8.encodeChar c, isHeaderByte b = true) :
    isPlain c = true ↔ c.toNat < 0x80 := by
  rw [isPlain_iff]
  constructor
  · omega
  · intro hc
    rw [Utf8.encodeChar_of_ascii hc] at h
    have hb := (isHeaderByte_iff _).1 (h _ List.mem_cons_self)
    rw [Utf8.toNat_ofNat_of_ascii hc] at hb
    omega

/-! ## §2. What shows the secret. -/

namespace Receiver

variable {r : Receiver}

/-- The value that shows a secret, if any does. -/
theorem admits_iff (r : Receiver) (value : List UInt8) :
    r.admits value = true ↔
      value = bearer ++ Utf8.bytesOf r.secret ∧ ∀ c ∈ r.secret.toList, isPlain c = true := by
  have hbearer : bearer.all isVisible = true := by decide +kernel
  unfold admits
  rw [Bool.and_eq_true, Bool.and_eq_true, List.isPrefixOf_iff_prefix, beq_iff_eq]
  constructor
  · rintro ⟨⟨hall, token, rfl⟩, htoken⟩
    rw [List.drop_left] at htoken
    subst htoken
    rw [List.all_append, hbearer, Bool.true_and] at hall
    exact ⟨rfl, (all_isVisible_bytesOf r.secret).1 hall⟩
  · rintro ⟨rfl, hplain⟩
    rw [List.all_append, hbearer, Bool.true_and, List.drop_left]
    exact ⟨⟨(all_isVisible_bytesOf r.secret).2 hplain, List.prefix_append ..⟩, rfl⟩

/-- **A request shows a secret**: its first header for that has it behind the mark, and it is
plain. -/
structure Shows (secret : String) (q : Request) : Prop where
  header : q.header? "authorization" = some (bearer ++ Utf8.bytesOf secret)
  plain : ∀ c ∈ secret.toList, isPlain c = true

/-- **A receiver takes a request for its own** if it shows the secret; one whose secret is not plain
takes none. -/
theorem authorized_iff (r : Receiver) (q : Request) :
    r.authorized q = true ↔ Shows r.secret q := by
  unfold authorized
  cases hheader : q.header? "authorization" with
  | none => exact iff_of_false Bool.false_ne_true fun h => nomatch hheader.symm.trans h.header
  | some value =>
      rw [Option.any_some, admits_iff]
      constructor
      · rintro ⟨rfl, hplain⟩
        exact ⟨hheader, hplain⟩
      · intro h
        exact ⟨Option.some.inj (hheader.symm.trans h.header), h.plain⟩

/-- The path and the method are looked at first. -/
theorem respond_post {q : Request} (hmethod : q.method = "POST")
    (hpath : q.path = Service.trafficPath) : r.respond q = r.accept q := by
  unfold respond
  rw [if_neg (not_not_intro hpath), hmethod]
  rfl

/-- A post is refused for want of the secret just if it is not too long to be looked at. -/
theorem accept_status_eq_unauthorized_iff (r : Receiver) (q : Request) :
    (r.accept q).1.status = 401 ↔ q.body.length ≤ bodyLimit ∧ r.authorized q = false := by
  have hlong : tooLong.status ≠ 401 := by decide
  have hdone : (Response.bare 200).status ≠ 401 := by decide
  have hbad : (Response.bare 400).status ≠ 401 := by decide
  unfold accept
  split
  · next h => exact iff_of_false hlong fun hshort => Nat.not_le.2 h hshort.1
  · next h =>
    split
    · next hauth => exact iff_of_true rfl ⟨Nat.not_lt.1 h, by simpa using hauth⟩
    · next hauth =>
      refine iff_of_false ?_ fun hshort => hauth (by rw [hshort.2]; rfl)
      split
      · exact hdone
      · exact hbad

end Receiver

/-! ## §3. From the configuration to both sides. -/

/-- A report shows the secret that the target has. -/
theorem ReportTarget.header?_request (t : ReportTarget) (path : String) (s : Sample) :
    (t.request path s).header? "authorization" = some (bearer ++ Utf8.bytesOf t.secret) := by
  have hsmall : (small "authorization" == "authorization") = true := by decide
  unfold Request.header? ReportTarget.request authorization
  rw [List.find?_cons_of_pos (by exact hsmall)]
  rfl

/-- It shows that secret and no other one. -/
theorem ReportTarget.shows_request_iff (t : ReportTarget) (path : String) (s : Sample)
    {secret : String} :
    Receiver.Shows secret (t.request path s) ↔
      t.secret = secret ∧ ∀ c ∈ secret.toList, isPlain c = true := by
  have hheader := t.header?_request path s
  constructor
  · rintro ⟨hsame, hplain⟩
    rw [hheader, Option.some_inj] at hsame
    have hbytes : Utf8.bytesOf t.secret = Utf8.bytesOf secret := List.append_cancel_left hsame
    have htext := congrArg Utf8.textOf hbytes
    rw [Utf8.textOf_bytesOf, Utf8.textOf_bytesOf] at htext
    exact ⟨Except.ok.inj htext, hplain⟩
  · rintro ⟨rfl, hplain⟩
    exact ⟨hheader, hplain⟩

/-- It goes where reports are received. -/
theorem ReportTarget.path_request (t : ReportTarget) (s : Sample) :
    (t.request Service.trafficPath s).path = Service.trafficPath := by
  unfold Request.path ReportTarget.request
  dsimp only
  decide +kernel

end Failover.Telemetry

namespace Failover

open Telemetry Environment Text

/-- A configuration that makes sense can be set to work, with its secret. -/
theorem Supervisor.create_of_validate {c : Config} (h : c.validate = .ok ())
    (shuffle : Manager.Shuffle) :
    ∃ sup, Supervisor.create shuffle c = .ok sup ∧ sup.receiver = .start c.secret := by
  unfold Config.validate at h
  cases haddress : c.controllerAddress with
  | error cause =>
      rw [haddress] at h
      cases h
  | ok address =>
      unfold Supervisor.create
      rw [haddress]
      exact ⟨_, rfl, rfl⟩

/-- A transport is handed the configured secret, and where to report. -/
theorem Bundled.reportTarget_build {c : Config} (hsecret : c.secret ≠ "") (method : String)
    (host : Entries) (request : Variables) :
    (Announcer.mk method (build host c.space request c.secret c.callbackUrl) c.space).reportTarget =
      some ⟨c.callbackUrl, c.secret⟩ := by
  have hurl : c.callbackUrl ≠ "" := by
    unfold Config.callbackUrl
    simp
  obtain ⟨hs, hu⟩ := effective?_build_reserved host c.space request c.secret c.callbackUrl
  unfold Announcer.reportTarget Announcer.parameter
  dsimp only
  rw [Parameter.has_of_is (Parameter.is_of_effective hs hsecret),
    Parameter.has_of_is (Parameter.is_of_effective hu hurl), Parameter.get_of_effective hs,
    Parameter.get_of_effective hu]
  rfl

/-! ## §4. Reports with the configured secret. -/

/-- **Which secrets admit the reports of one's own transports.**  A configuration that makes sense
is set to work, and a transport is launched with its options: the target of its reports has the
configured secret.  Whatever was received before, a report of it is admitted just if every
character of the secret is plain; for a secret that may stand in a header, if it is ASCII.  It is
refused for want of the secret just if the secret is not so, and the report is not too long. -/
theorem own_report_authorized_iff (c : Config) (hvalid : c.validate = .ok ())
    (hsecret : c.secret ≠ "") (shuffle : Manager.Shuffle) (method : String) (host : Entries)
    (request : Variables) :
    let o := c.serviceOptions
    let a : Bundled.Announcer :=
      ⟨method, build host o.space request o.authSecret o.callbackUrl, o.space⟩
    ∃ sup t, Supervisor.create shuffle c = .ok sup ∧ a.reportTarget = some t ∧
      t.url = c.callbackUrl ∧
      ∀ r : Receiver, r.secret = sup.receiver.secret → ∀ (path : String) (s : Sample),
        (r.authorized (t.request path s) = true ↔ ∀ x ∈ c.secret.toList, isPlain x = true) ∧
        ((∀ b ∈ Utf8.bytesOf c.secret, isHeaderByte b = true) →
          (r.authorized (t.request path s) = true ↔ ∀ x ∈ c.secret.toList, x.toNat < 0x80)) ∧
        ((r.respond (t.request Service.trafficPath s)).1.status = 401 ↔
          (Utf8.bytesOf s.toJson).length ≤ Receiver.bodyLimit ∧
            ∃ x ∈ c.secret.toList, isPlain x = false) := by
  intro o a
  obtain ⟨sup, hcreate, hreceiver⟩ := Supervisor.create_of_validate hvalid shuffle
  let t : ReportTarget := ⟨c.callbackUrl, c.secret⟩
  refine ⟨sup, t, hcreate, Bundled.reportTarget_build hsecret method host request, rfl, ?_⟩
  intro r hr path s
  have hown : r.secret = c.secret := by
    rw [hr, hreceiver]
    rfl
  have hauth (path : String) :
      r.authorized (t.request path s) = true ↔ ∀ x ∈ c.secret.toList, isPlain x = true := by
    rw [Receiver.authorized_iff, t.shows_request_iff, hown]
    exact and_iff_right rfl
  refine ⟨hauth path, fun hheader => ?_, ?_⟩
  · rw [hauth path]
    refine forall₂_congr fun x hx => isPlain_iff_of_isHeaderByte fun b hb => hheader b ?_
    exact List.mem_flatMap.2 ⟨x, hx, hb⟩
  · rw [Receiver.respond_post rfl (t.path_request s), Receiver.accept_status_eq_unauthorized_iff,
      ← Bool.not_eq_true, hauth]
    refine and_congr_right' ?_
    simp only [not_forall, Bool.not_eq_true, exists_prop]

/-- The standard configuration with a secret. -/
def keyed (secret : String) : Config := { Config.standard with authKey := some secret }

/-- A secret with a blank and a tab in it admits reports. -/
theorem own_report_authorized_iff_blank :
    (keyed "open sesame\tnow").validate = .ok () ∧ (keyed "open sesame\tnow").secret ≠ "" ∧
      ∃ t : ReportTarget,
        (Bundled.Announcer.mk "socks5" (build [("TSUP_SAUTH", "leaked")] "TSUP" .empty
          "open sesame\tnow" (keyed "open sesame\tnow").callbackUrl) "TSUP").reportTarget = some t ∧
        (Receiver.start "open sesame\tnow").authorized (t.request "/" .none) = true := by
  have hvalid : (keyed "open sesame\tnow").validate = .ok () := by decide +kernel
  have hsecret : (keyed "open sesame\tnow").secret ≠ "" := by decide
  obtain ⟨sup, t, hcreate, htarget, -, hreports⟩ := own_report_authorized_iff
    (keyed "open sesame\tnow") hvalid hsecret .keep "socks5" [("TSUP_SAUTH", "leaked")] .empty
  obtain ⟨sup', hcreate', hreceiver⟩ := Supervisor.create_of_validate hvalid .keep
  obtain rfl : sup = sup' := Except.ok.inj (hcreate.symm.trans hcreate')
  have hreport := hreports (.start "open sesame\tnow") (by rw [hreceiver]; rfl) "/" .none
  exact ⟨hvalid, hsecret, t, htarget, hreport.1.2 (List.all_eq_true.1 (by decide))⟩

/-- **A secret that every header may hold can lock all reports out**: one letter beyond ASCII. -/
theorem not_own_report_authorized :
    ¬∀ (c : Config) (path : String) (s : Sample), c.validate = .ok () → c.secret ≠ "" →
      (∀ b ∈ Utf8.bytesOf c.secret, isHeaderByte b = true) →
      c.secret.toList.head? ≠ some ' ' → c.secret.toList.getLast? ≠ some ' ' →
      (Receiver.start c.secret).authorized
        ((ReportTarget.mk c.callbackUrl c.secret).request path s) = true := by
  intro h
  have hadmitted := h (keyed "schlüssel") "/" .none (by decide +kernel) (by decide)
    (by decide +kernel) (by decide) (by decide)
  rw [Receiver.authorized_iff] at hadmitted
  exact absurd (List.all_eq_true.2 hadmitted.plain) (by decide)

end Failover
