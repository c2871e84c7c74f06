/-
  Failover.Proofs.Bundled.Failure
  ───────────────────────────────
  **How a transport tells that it gave up, and what is heard of it.**  The
  reason is made safe before it is written, so it may hold anything.  But
  three things stand in the way of a report:

      the method is not made safe      the encoder refuses the line, and
                                       nothing is written at all
      the line is too long             the reader refuses it
      the text ends in returns         up to two of them are taken off, one
                                       by the reader, one by the parser

  Main statements: `giveUp_of_safe`, `giveUp_of_forbidden` — what is written —,
  `negotiateOn_failure` — what is heard — and `reported_iff` — a failure is
  reported as it is exactly if none of the three is the case.
-/
import Failover.Bundled.Run
import Failover.Proofs.Bundled.Introduction

namespace Failover.Handshake

/-! ## §1. The text of a line. -/

/-- The text of a line, as bytes, is that of its characters without a return at the end. -/
theorem lineText_bytesOf_withoutReturn (s : String) :
    Bytes.lineText (Text.Utf8.bytesOf s) = .ok (String.ofList (withoutReturn s.toList)) := by
  by_cases hlast : s.toList.getLast? = some '\r'
  · obtain ⟨front, hs⟩ := List.getLast?_eq_some_iff.1 hlast
    have hbytes : Text.Utf8.bytesOf s =
        Text.Utf8.bytesOf (String.ofList front) ++ [Bytes.carriageReturn] := by
      unfold Text.Utf8.bytesOf
      rw [hs, Text.Utf8.encode_append, String.toList_ofList]
      rfl
    unfold Bytes.lineText Bytes.withoutReturn
    rw [hbytes, if_pos List.getLast?_concat, List.dropLast_concat, Text.Utf8.textOf_bytesOf]
    unfold withoutReturn
    rw [if_pos hlast, hs, List.dropLast_concat]
  · rw [Bytes.lineText_bytesOf hlast, withoutReturn_of_ne hlast, String.ofList_toList]

end Failover.Handshake

namespace Failover.Bundled

open Bytes Handshake Text.Utf8

/-! ## §2. What is written. -/

/-- A character as it is written in a reason. -/
theorem toList_sanitized (text : String) :
    (sanitized text).toList = text.toList.map fun c => if isArgChar c then c else '?' :=
  String.toList_ofList

/-- Every text is safe once it is sanitized. -/
theorem argIsSafe_sanitized (text : String) : argIsSafe (sanitized text) = true := by
  unfold argIsSafe
  rw [toList_sanitized, List.all_map, List.all_eq_true]
  intro c _
  show isArgChar (if isArgChar c then c else '?') = true
  split
  · assumption
  · rfl

/-- Returns are safe, so they stay where they are, and there are no new ones. -/
theorem getLast?_sanitized (text : String) :
    (sanitized text).toList.getLast? = some '\r' ↔ text.toList.getLast? = some '\r' := by
  rw [toList_sanitized, List.getLast?_map, Option.map_eq_some_iff]
  constructor
  · rintro ⟨c, hc, heq⟩
    rw [hc]
    by_cases hsafe : isArgChar c = true
    · rwa [if_pos hsafe, ← Option.some_inj] at heq
    · rw [if_neg hsafe] at heq
      cases heq
  · exact fun h => ⟨'\r', h, rfl⟩

/-- A safe text has one byte for each character. -/
theorem length_bytesOf_of_safe {s : String} (h : argIsSafe s = true) :
    (bytesOf s).length = s.toList.length := by
  have hascii : ∀ c ∈ s.toList, c.toNat < 0x80 := by
    intro c hc
    have hsafe := List.all_eq_true.1 h c hc
    unfold isArgChar at hsafe
    simp only [Bool.and_eq_true, decide_eq_true_eq] at hsafe
    exact hsafe.1.1
  unfold bytesOf
  rw [encode_of_ascii hascii, List.length_map]

namespace Announcer

variable {a : Announcer} {text : String} {α : Type}

/-- The line that tells why a method gave up. -/
def failureLine (a : Announcer) (text : String) : String :=
  joined "ERROR" [a.method, sanitized text]

/-- The method and the reason, split at their spaces and put together with single ones. -/
def failureText (a : Announcer) (text : String) : String :=
  spaced ((words a.method.toList ++ words (sanitized text).toList).map String.ofList)

theorem toList_failureLine (a : Announcer) (text : String) :
    (a.failureLine text).toList =
      ("ERROR".toList ++ ' ' :: a.method.toList) ++ ' ' :: (sanitized text).toList := by
  simp [failureLine, joined]

theorem failureArgs_safe (hsafe : argIsSafe a.method = true) :
    ∀ arg ∈ [a.method, sanitized text], argIsSafe arg = true := by
  simp only [List.forall_mem_cons, List.not_mem_nil, false_implies, implies_true, and_true]
  exact ⟨hsafe, argIsSafe_sanitized text⟩

theorem failureLine_safe (hsafe : argIsSafe a.method = true) :
    argIsSafe (a.failureLine text) = true :=
  argIsSafe_joined (by decide) (failureArgs_safe hsafe)

/-- It is one line. -/
theorem newline_not_mem_failureLine (hsafe : argIsSafe a.method = true) :
    newline ∉ bytesOf (a.failureLine text) := by
  refine newline_not_mem_bytesOf fun hmem => ?_
  exact absurd (List.all_eq_true.1 (failureLine_safe hsafe) _ hmem) (by decide)

/-- How long it is. -/
theorem length_failureLine (hsafe : argIsSafe a.method = true) :
    (bytesOf (a.failureLine text)).length =
      a.method.toList.length + text.toList.length + 7 := by
  rw [length_bytesOf_of_safe (failureLine_safe hsafe), toList_failureLine, toList_sanitized]
  simp only [List.length_append, List.length_cons, List.length_map]
  have hkeyword : "ERROR".toList.length = 5 := by decide
  omega

/-- **Giving up with a safe method** writes the line and its newline, and fails with the reason. -/
theorem giveUp_of_safe (hsafe : argIsSafe a.method = true) {o : Outlet} (ho : o.limit = none) :
    (a.giveUp text : Announcing α) o = .error (.fault (.negotiation (sanitized text)))
      { o with written := o.written ++ (bytesOf (a.failureLine text) ++ [newline]) } := by
  have hformat : format "ERROR" [a.method, sanitized text] = .ok (a.failureLine text) :=
    format_eq_ok_iff.2 ⟨by decide, failureArgs_safe hsafe, rfl⟩
  have hwrites : Writes (do write (bytesOf (a.failureLine text)); write [newline]) ()
      (bytesOf (a.failureLine text) ++ [newline]) :=
    (writes_write _).bind (writes_write _)
  have hwritten := hwrites o ho
  unfold giveUp
  simp only [hformat]
  rw [show ([10] : List UInt8) = [newline] from rfl, hwritten]

/-- **Giving up with an unsafe method** is refused, and nothing is written. -/
theorem giveUp_of_forbidden (hforbidden : argIsSafe a.method = false) (o : Outlet) :
    (a.giveUp text : Announcing α) o = .error (.breach (.forbiddenArgument a.method)) o := by
  have hformat : format "ERROR" [a.method, sanitized text] =
      .error (.forbiddenArgument a.method) := by
    have hkeyword : keywordIsSafe "ERROR" = true := by decide
    unfold format
    rw [if_pos hkeyword, List.find?_cons_of_pos (by simp [hforbidden])]
  unfold giveUp
  simp only [hformat]

/-! ## §3. What is heard. -/

/-- What is left of a reason on its way: the reader takes a return off its end, and so does the
parser. -/
def heard (text : String) : List Char := withoutReturn (withoutReturn (sanitized text).toList)

/-- The line without its returns is that of the reason without its returns. -/
theorem withoutReturn_failureLine (a : Announcer) (text : String) :
    withoutReturn (withoutReturn (a.failureLine text).toList) =
      (joined "ERROR" [a.method, String.ofList (heard text)]).toList := by
  rw [toList_failureLine, withoutReturn_append_space, withoutReturn_append_space]
  simp [joined, heard]

/-- **A failure is heard** by a supervisor, wherever in the handshake it is and whatever follows:
the line is refused if it is too long, else its words are the message. -/
theorem negotiateOn_failure (hsafe : argIsSafe a.method = true) {n : Negotiation} {r : LineReader}
    {further : List UInt8} (hn : n.done = false) (hr : r.Sound)
    (hb : r.bytes = bytesOf (a.failureLine text) ++ newline :: further) :
    negotiateOn n r =
      if a.method.toList.length + text.toList.length + 7 ≤ maxLength then
        .error (.negotiation
          (spaced ((words a.method.toList ++ words (heard text)).map String.ofList)))
      else .error (.protocol .lineTooLong) := by
  have hnewline : newline ∉ bytesOf (a.failureLine text) := newline_not_mem_failureLine hsafe
  rw [negotiateOn_eq, ← length_failureLine hsafe]
  by_cases hshort : (bytesOf (a.failureLine text)).length ≤ maxLength
  · obtain ⟨r', hnext, -, -, -⟩ := r.next_of_line hr hb hnewline hshort
    have hsafe' : ∀ arg ∈ [a.method, String.ofList (heard text)], argIsSafe arg = true := by
      simp only [List.forall_mem_cons, List.not_mem_nil, false_implies, implies_true, and_true]
      refine ⟨hsafe, List.all_eq_true.2 fun c hc => ?_⟩
      rw [String.toList_ofList] at hc
      have hsub := (withoutReturn_sublist _).trans (withoutReturn_sublist (sanitized text).toList)
      exact List.all_eq_true.1 (argIsSafe_sanitized text) c (hsub.subset hc)
    have hparse : Message.parse (String.ofList (withoutReturn (a.failureLine text).toList)) =
        .ok (.error (spaced ((words a.method.toList ++ words (heard text)).map String.ofList))) := by
      have hbare : withoutReturn
          (String.ofList (withoutReturn (a.failureLine text).toList)).toList =
            (joined "ERROR" [a.method, String.ofList (heard text)]).toList := by
        rw [String.toList_ofList]
        exact withoutReturn_failureLine a text
      rw [parse_of_withoutReturn hbare (by decide) hsafe']
      simp [Message.ofWords]
    rw [hnext, if_pos hshort]
    dsimp only
    rw [lineText_bytesOf_withoutReturn]
    unfold Negotiation.heed
    dsimp only
    rw [Negotiation.feed_of_parse hn hparse]
    -- an error may come before the version as well as behind it
    have happly : ∀ message, n.apply (.error message) = (.error (.negotiation message), n) := by
      intro message
      simp [Negotiation.apply, Negotiation.mayOpen]
    rw [happly]
  · rw [r.next_of_tooLong hb hnewline (Nat.lt_of_not_le hshort), if_neg hshort]

/-- What is heard is what was said exactly if the reason does not end in a return. -/
theorem spaced_heard_iff (a : Announcer) (text : String) :
    spaced ((words a.method.toList ++ words (heard text)).map String.ofList) = a.failureText text ↔
      text.toList.getLast? ≠ some '\r' := by
  constructor
  · intro heq hlast
    -- the returns that were taken off are missing among the characters that are no spaces
    have hsolid : ∀ t, ∀ w ∈ words a.method.toList ++ words t, ∀ c ∈ w, isSpace c = false := by
      intro t w hw
      rcases List.mem_append.1 hw with hw | hw
      · exact not_isSpace_of_mem_words hw
      · exact not_isSpace_of_mem_words hw
    have hchars := congrArg (fun s : String => s.toList.filter (!isSpace ·)) heq
    simp only [failureText] at hchars
    rw [filter_spaced _ (hsolid _), filter_spaced _ (hsolid _), List.flatten_append,
      List.flatten_append, List.append_cancel_left_eq, flatten_words, flatten_words] at hchars
    obtain ⟨front, hfront⟩ := List.getLast?_eq_some_iff.1 ((getLast?_sanitized text).2 hlast)
    have hheard : heard text = withoutReturn front := by
      unfold heard
      rw [hfront]
      conv_lhs => rw [withoutReturn.eq_def (front ++ ['\r']), if_pos List.getLast?_concat,
        List.dropLast_concat]
    have hle := ((withoutReturn_sublist front).filter (!isSpace ·)).length_le
    have hlen := congrArg List.length hchars
    rw [hheard, hfront, List.filter_append, List.length_append] at hlen
    have hone : (['\r'].filter (!isSpace ·)).length = 1 := by decide
    omega
  · intro hlast
    have hsanitized : (sanitized text).toList.getLast? ≠ some '\r' :=
      mt (getLast?_sanitized text).1 hlast
    unfold heard failureText
    rw [withoutReturn_of_ne hsanitized, withoutReturn_of_ne hsanitized]

/-! ## §4. Reports. -/

/-- **A failure is reported**: wherever it can be written, one line is, and giving up fails with the
reason; and a supervisor that is not done with its handshake ends it with the method and the reason,
however the line arrives. -/
def Reported (a : Announcer) (text : String) : Prop :=
  ∃ line : List UInt8, newline ∉ line ∧
    (∀ (α : Type) (o : Outlet), o.limit = none → (a.giveUp text : Announcing α) o =
      .error (.fault (.negotiation (sanitized text)))
        { o with written := o.written ++ (line ++ [newline]) }) ∧
    ∀ (n : Negotiation) (r : LineReader) (further : List UInt8), n.done = false → r.Sound →
      r.bytes = line ++ newline :: further →
        negotiateOn n r = .error (.negotiation (a.failureText text))

/-- A failure can be reported only with a safe method. -/
theorem Reported.safe (h : a.Reported text) : argIsSafe a.method = true := by
  obtain ⟨line, -, hwritten, -⟩ := h
  by_contra hforbidden
  rw [Bool.not_eq_true] at hforbidden
  have heq := hwritten Unit .open rfl
  rw [giveUp_of_forbidden hforbidden] at heq
  cases heq

/-- The line of a report is the line of the failure. -/
theorem Reported.heard (h : a.Reported text) {n : Negotiation} {r : LineReader}
    {further : List UInt8} (hn : n.done = false) (hr : r.Sound)
    (hb : r.bytes = bytesOf (a.failureLine text) ++ newline :: further) :
    negotiateOn n r = .error (.negotiation (a.failureText text)) := by
  have hsafe := h.safe
  obtain ⟨line, -, hwritten, hheard⟩ := h
  have heq := hwritten Unit .open rfl
  rw [giveUp_of_safe hsafe rfl] at heq
  have houtlet := (EStateM.Result.error.inj heq).2
  have hline : bytesOf (a.failureLine text) ++ [newline] = line ++ [newline] :=
    List.append_cancel_left (congrArg Outlet.written houtlet)
  exact hheard n r further hn hr (by rw [hb, List.append_cancel_right hline])

/-- Giving up never goes on to what would come next. -/
theorem giveUp_bind {β : Type} (next : α → Announcing β) :
    (a.giveUp text >>= next) = a.giveUp text := by
  funext o
  show EStateM.bind (a.giveUp text) next o = _
  unfold EStateM.bind giveUp
  dsimp only
  cases format "ERROR" [a.method, sanitized text] with
  | error b => rfl
  | ok line =>
      dsimp only
      cases (do write (bytesOf line); write [10] : Announcing Unit) o with
      | ok | error => rfl

/-- A request for a transport that is not at hand is answered with a failure of that name. -/
theorem run_of_unlisted {bundles : List Bundle}
    (hservice : (a.parameter "service").is "transport" = true)
    (hname : (a.parameter "transport").get = a.method) (hlist : ∀ b ∈ bundles, b.name ≠ a.method) :
    run a.env a.space bundles = a.giveUp "TRANSPORT NOT FOUND" := by
  have hhas : (a.parameter "service").has = true := (Bool.and_eq_true_iff.1 hservice).1
  have hnone : bundles.find? (·.name == a.method) = none := by
    rw [List.find?_eq_none]
    intro b hb
    simpa using hlist b hb
  have hselect : select a.env a.space bundles = a.giveUp "TRANSPORT NOT FOUND" := by
    unfold parameter at hservice hname hhas
    unfold select
    simp only [hservice, hhas, hname, hnone, Bool.not_true, Bool.false_eq_true, if_false]
  unfold run
  rw [hselect]
  exact giveUp_bind _

/-- **Failures are reported** exactly with a method that is safe, in a line that is not too long, for
a reason that does not end in a carriage return.  With an unsafe method nothing is reported: giving up
is itself refused, and nothing is written.  In particular a request for a transport that is not at
hand ends with that message, in a line of its own, if and only if its name is safe. -/
theorem reported_iff (a : Announcer) (text : String) :
    (a.Reported text ↔ argIsSafe a.method = true ∧
      a.method.toList.length + text.toList.length + 7 ≤ maxLength ∧
      text.toList.getLast? ≠ some '\r') ∧
    (argIsSafe a.method = false → ∀ (α : Type) (o : Outlet),
      (a.giveUp text : Announcing α) o = .error (.breach (.forbiddenArgument a.method)) o) ∧
    ∀ bundles : List Bundle, (a.parameter "service").is "transport" = true →
      (a.parameter "transport").get = a.method → (∀ b ∈ bundles, b.name ≠ a.method) →
        run a.env a.space bundles = a.giveUp "TRANSPORT NOT FOUND" ∧
        ((∃ line, newline ∉ line ∧ run a.env a.space bundles .open =
            .error (.fault (.negotiation "TRANSPORT NOT FOUND")) ⟨line ++ [newline], none⟩) ↔
          argIsSafe a.method = true) := by
  refine ⟨⟨fun h => ?_, fun ⟨hsafe, hshort, hlast⟩ => ?_⟩, fun hforbidden α o =>
    giveUp_of_forbidden hforbidden o, fun bundles hservice hname hlist => ?_⟩
  · -- the failure as it is heard when its line is all that is read
    let r : LineReader := .start ⟨[bytesOf (a.failureLine text) ++ [newline]], .closed⟩
    have hr : r.Sound := LineReader.sound_start _
    have hb : r.bytes = bytesOf (a.failureLine text) ++ newline :: [] :=
      (LineReader.bytes_start _).trans List.flatten_singleton
    have heq := (negotiateOn_failure h.safe (n := .empty) rfl hr hb).symm.trans (h.heard rfl hr hb)
    split at heq
    · next hshort =>
      injection heq with hfault
      injection hfault with htext
      exact ⟨h.safe, hshort, (spaced_heard_iff a text).1 htext⟩
    · cases heq
  · refine ⟨bytesOf (a.failureLine text), newline_not_mem_failureLine hsafe,
      fun α o ho => giveUp_of_safe hsafe ho, fun n r further hn hr hb => ?_⟩
    rw [negotiateOn_failure hsafe hn hr hb, if_pos hshort, (spaced_heard_iff a text).2 hlast]
  · have hrun := run_of_unlisted hservice hname hlist
    refine ⟨hrun, fun ⟨line, _, heq⟩ => ?_, fun hsafe => ?_⟩
    · by_contra hforbidden
      rw [hrun, giveUp_of_forbidden (by simpa using hforbidden)] at heq
      cases heq
    · refine ⟨bytesOf (a.failureLine "TRANSPORT NOT FOUND"), newline_not_mem_failureLine hsafe, ?_⟩
      have hname : sanitized "TRANSPORT NOT FOUND" = "TRANSPORT NOT FOUND" := by decide
      rw [hrun, giveUp_of_safe hsafe rfl, hname]
      simp [Outlet.open]

/-- A request for a transport by its name. -/
def strayRequest (name : String) : Announcer :=
  ⟨name, [("TSUP_SERVICE", "transport"), ("TSUP_TRANSPORT", name)], "TSUP"⟩

/-- A reason of two lines with a letter that is not of seven bits is reported as one line. -/
theorem reported_iff_sanitized :
    (strayRequest "relay").Reported "cannot listen:\n  Gerät belegt" ∧
      (strayRequest "relay").failureText "cannot listen:\n  Gerät belegt" =
        "relay cannot listen:? Ger?t belegt" ∧
      ∃ line, newline ∉ line ∧ run (strayRequest "relay").env "TSUP" [] .open =
        .error (.fault (.negotiation "TRANSPORT NOT FOUND")) ⟨line ++ [newline], none⟩ := by
  have hrun := (reported_iff (strayRequest "relay") "").2.2 [] (by decide) (by decide) (by decide)
  exact ⟨(reported_iff (strayRequest "relay") _).1.2 (by decide), by decide +kernel,
    hrun.2.2 (by decide)⟩

/-- A request for a transport with a newline in its name is not answered at all. -/
theorem not_reported :
    run [("ORC_SERVICE", "transport"), ("ORC_TRANSPORT", "nö\n")] "ORC" [] .open =
        .error (.breach (.forbiddenArgument "nö\n")) .open ∧
      ¬∀ (a : Announcer) (text : String), a.Reported text := by
  refine ⟨?_, fun h => ?_⟩
  · let a : Announcer := ⟨"nö\n", [("ORC_SERVICE", "transport"), ("ORC_TRANSPORT", "nö\n")], "ORC"⟩
    have hrun : run a.env a.space [] = a.giveUp "TRANSPORT NOT FOUND" :=
      run_of_unlisted (by decide) (by decide) (by decide)
    exact (congrFun hrun .open).trans (giveUp_of_forbidden (by decide) .open)
  · exact absurd (h (strayRequest "nö\n") "").safe (by decide)

end Announcer

end Failover.Bundled
