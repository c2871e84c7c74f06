/-
  Failover.Proofs.Telemetry.Reports
  ─────────────────────────────────
  **What requests do to a receiver of reports.**  A request either reports
  a sample — posted to the right path, not too long, with the secret, and
  spelling the sample — or it does nothing:

      latest after q  =  the sample that q reports, or else latest before

  So what a receiver holds is the last sample that was reported, that is
  what it shows, and its secret never changes.  A post without the secret
  does nothing, and no answer to another request tells whether it was made:
  with such posts taken out of a sequence of requests, the others are
  answered just as before.

  Main statement: `unauthorized_unnoticed`.
-/
import Failover.Proofs.Telemetry.Secret

namespace Failover.Telemetry.Receiver

open Http Text

variable {r : Receiver} {q : Request} {secret : String}

/-! ## §1. Reports. -/

/-- **A request reports a sample** to a receiver with a secret. -/
structure Reports (secret : String) (q : Request) (s : Sample) : Prop where
  posted : q.method = "POST"
  path : q.path = Service.trafficPath
  short : q.body.length ≤ bodyLimit
  shown : Shows secret q
  spelled : Sample.ofJson q.body = .ok s

/-! ## §2. One request. -/

/-- **What a post comes to.** -/
theorem accept_snd (r : Receiver) (q : Request) :
    (∃ s, q.body.length ≤ bodyLimit ∧ Shows r.secret q ∧ Sample.ofJson q.body = .ok s ∧
      (r.accept q).2 = { r with latest := some s }) ∨
    (r.accept q).2 = r := by
  unfold accept
  split
  · exact .inr rfl
  · next hshort =>
    split
    · exact .inr rfl
    · next hauth =>
      have hshown : Shows r.secret q := (authorized_iff r q).1 (by simpa using hauth)
      split
      · next s hs => exact .inl ⟨s, Nat.not_lt.1 hshort, hshown, hs, rfl⟩
      · exact .inr rfl

/-- A report is held. -/
theorem respond_of_reports {s : Sample} (h : Reports r.secret q s) :
    (r.respond q).2 = { r with latest := some s } := by
  have hauth : r.authorized q = true := (authorized_iff r q).2 h.shown
  rw [respond_post h.posted h.path]
  unfold accept
  rw [if_neg (Nat.not_lt.2 h.short), hauth, Bool.not_true, if_neg Bool.false_ne_true, h.spelled]

/-- **Everything else does nothing.** -/
theorem respond_of_not_reports (h : ∀ s, ¬Reports r.secret q s) : (r.respond q).2 = r := by
  unfold respond
  split
  · rfl
  · next hpath =>
    split
    · rfl
    · rfl
    · next hmethod =>
      rcases accept_snd r q with ⟨s, hshort, hshown, hs, -⟩ | hsame
      · exact absurd ⟨hmethod, not_not.1 hpath, hshort, hshown, hs⟩ (h s)
      · exact hsame
    · rfl

/-- The secret stays. -/
theorem secret_respond (r : Receiver) (q : Request) : (r.respond q).2.secret = r.secret := by
  by_cases h : ∃ s, Reports r.secret q s
  · obtain ⟨s, hs⟩ := h
    rw [respond_of_reports hs]
  · rw [respond_of_not_reports fun s hs => h ⟨s, hs⟩]

/-- What is held is shown. -/
theorem respond_get (hmethod : q.method = "GET") (hpath : q.path = Service.trafficPath) :
    (r.respond q).1 = r.page := by
  unfold respond
  rw [if_neg (not_not_intro hpath), hmethod]
  rfl

/-- A post without the secret does nothing, whatever else it is. -/
theorem respond_of_not_shows (h : ¬Shows r.secret q) : (r.respond q).2 = r :=
  respond_of_not_reports fun _ hs => h hs.shown

/-! ## §3. Sequences of requests. -/

theorem respondAll_cons (r : Receiver) (q : Request) (rest : List Request) :
    r.respondAll (q :: rest) =
      ((r.respond q).1 :: ((r.respond q).2.respondAll rest).1,
        ((r.respond q).2.respondAll rest).2) := by
  rw [respondAll]

theorem respondAll_append (r : Receiver) (qs rest : List Request) :
    r.respondAll (qs ++ rest) =
      ((r.respondAll qs).1 ++ ((r.respondAll qs).2.respondAll rest).1,
        ((r.respondAll qs).2.respondAll rest).2) := by
  induction qs generalizing r with
  | nil => rfl
  | cons q qs ih => rw [List.cons_append, respondAll_cons, ih, respondAll_cons]; rfl

/-- Each request has an answer. -/
theorem length_respondAll (r : Receiver) (qs : List Request) :
    (r.respondAll qs).1.length = qs.length := by
  induction qs generalizing r with
  | nil => rfl
  | cons q qs ih => rw [respondAll_cons, List.length_cons, List.length_cons, ih]

theorem secret_respondAll (r : Receiver) (qs : List Request) :
    (r.respondAll qs).2.secret = r.secret := by
  induction qs generalizing r with
  | nil => rfl
  | cons q qs ih => rw [respondAll_cons, ih, secret_respond]

/-- Of things with marks, those that are marked. -/
def kept {α : Type} (marked : List (α × Bool)) : List α := (marked.filter (·.2)).map (·.1)

theorem kept_cons {α : Type} (a : α) (mark : Bool) (marked : List (α × Bool)) :
    kept ((a, mark) :: marked) = if mark then a :: kept marked else kept marked := by
  cases mark <;> rfl

/-- **Requests that do nothing can be left out**: the others are answered as before, and the same
is held in the end. -/
theorem respondAll_kept (r : Receiver) {marked : List (Request × Bool)}
    (h : ∀ m ∈ marked, m.2 = false → ¬Shows r.secret m.1) :
    kept ((r.respondAll (marked.map (·.1))).1.zip (marked.map (·.2))) =
        (r.respondAll (kept marked)).1 ∧
      (r.respondAll (marked.map (·.1))).2 = (r.respondAll (kept marked)).2 := by
  induction marked generalizing r with
  | nil => exact ⟨rfl, rfl⟩
  | cons m rest ih =>
      obtain ⟨hm, hrest⟩ := List.forall_mem_cons.1 h
      obtain ⟨q, mark⟩ := m
      have ih' := ih (r.respond q).2 (by rwa [secret_respond])
      rw [kept_cons, List.map_cons, List.map_cons, respondAll_cons, List.zip_cons_cons, kept_cons]
      cases mark with
      | true =>
          rw [if_pos rfl, if_pos rfl, respondAll_cons, ih'.1]
          exact ⟨rfl, ih'.2⟩
      | false =>
          -- the answer is dropped with the request, and the receiver is the one before
          rw [respond_of_not_shows (hm rfl)] at ih' ⊢
          exact ih'

/-! ## §4. A receiver at work. -/

/-- What a receiver holds after requests. -/
def held (secret : String) (qs : List Request) : Option Sample :=
  ((start secret).respondAll qs).2.latest

/-- How a receiver answers requests. -/
def answers (secret : String) (qs : List Request) : List Response :=
  ((start secret).respondAll qs).1

/-- The receiver after requests has its secret, and what is held then. -/
theorem respondAll_start (secret : String) (qs : List Request) :
    ((start secret).respondAll qs).2 = ⟨secret, held secret qs⟩ := by
  have hsecret := secret_respondAll (start secret) qs
  exact congrArg (Receiver.mk · (held secret qs)) hsecret

/-- One more request. -/
theorem held_append_singleton (secret : String) (before : List Request) (q : Request) :
    held secret (before ++ [q]) =
      ((⟨secret, held secret before⟩ : Receiver).respond q).2.latest := by
  unfold held
  rw [respondAll_append, respondAll_start]
  rfl

/-- How a request is answered depends on what is held then, and on nothing that comes later. -/
theorem answers_getElem? (secret : String) (before : List Request) (q : Request)
    (after : List Request) :
    (answers secret (before ++ q :: after))[before.length]? =
      some ((⟨secret, held secret before⟩ : Receiver).respond q).1 := by
  have hlength : before.length = (answers secret before).length :=
    (length_respondAll (start secret) before).symm
  unfold answers at hlength ⊢
  rw [respondAll_append, respondAll_start, hlength]
  dsimp only
  rw [List.getElem?_append_right (Nat.le_refl _), Nat.sub_self]
  rfl

/-- **Reports are held and shown, and all other requests go unnoticed.**  After any requests, a
request that reports a sample makes it the one that is held, any other leaves what is held, and a
request to see it is answered with what is held.  Posts without the secret can be taken out of a
sequence of requests, as many as one likes and whatever else they are: the others are answered
as before, and the same is held in the end. -/
theorem unauthorized_unnoticed (secret : String) :
    (∀ (before : List Request) (q : Request),
      (∀ s, Reports secret q s → held secret (before ++ [q]) = some s) ∧
      ((∀ s, ¬Reports secret q s) → held secret (before ++ [q]) = held secret before) ∧
      (q.method = "GET" → q.path = Service.trafficPath → ∀ after,
        (answers secret (before ++ q :: after))[before.length]? =
          some ⟨200, some "application/json", none,
            ((held secret before).getD .none).toJson⟩)) ∧
    ∀ marked : List (Request × Bool),
      (∀ m ∈ marked, m.2 = false → m.1.method = "POST" ∧ ¬Shows secret m.1) →
      kept ((answers secret (marked.map (·.1))).zip (marked.map (·.2))) =
          answers secret (kept marked) ∧
        held secret (marked.map (·.1)) = held secret (kept marked) := by
  refine ⟨fun before q => ⟨fun s hs => ?_, fun hother => ?_, fun hget hpath after => ?_⟩,
    fun marked hdropped => ?_⟩
  · rw [held_append_singleton, respond_of_reports (by exact hs)]
  · rw [held_append_singleton, respond_of_not_reports (by exact hother)]
  · rw [answers_getElem?, respond_get hget hpath]
    rfl
  · obtain ⟨hanswers, hend⟩ := respondAll_kept (start secret) fun m hm hmark =>
      (hdropped m hm hmark).2
    exact ⟨hanswers, congrArg Receiver.latest hend⟩

/-- A report with a secret. -/
def reporting (shown : String) (s : Sample) : Request :=
  (ReportTarget.mk "" shown).request Service.trafficPath s

/-- A request without a header and a body. -/
def plainly (method : String) : Request := ⟨method, Service.trafficPath, [], []⟩

/-- One report with the secret, after one with another and before one with none: who asks then
sees it, and is answered as if there had been no other. -/
theorem unauthorized_unnoticed_forged :
    (answers "right" [reporting "wrong" .none, reporting "right" ⟨["a:1"], 3, 4, .zero⟩,
        plainly "POST", plainly "GET"])[3]? =
      some ⟨200, some "application/json", none, (⟨["a:1"], 3, 4, .zero⟩ : Sample).toJson⟩ ∧
    held "right" [reporting "wrong" .none, reporting "right" ⟨["a:1"], 3, 4, .zero⟩,
        plainly "POST", plainly "GET"] =
      held "right" [reporting "right" ⟨["a:1"], 3, 4, .zero⟩, plainly "GET"] := by
  have hwrong : ¬Shows "right" (reporting "wrong" .none) := fun h =>
    absurd ((ReportTarget.shows_request_iff _ _ _).1 h).1 (by decide)
  have hbare : ¬Shows "right" (plainly "POST") := fun h => nomatch h.header
  have hright : Reports "right" (reporting "right" ⟨["a:1"], 3, 4, .zero⟩)
      ⟨["a:1"], 3, 4, .zero⟩ :=
    ⟨rfl, ReportTarget.path_request _ _, by decide +kernel,
      (ReportTarget.shows_request_iff _ _ _).2 ⟨rfl, List.all_eq_true.1 (by decide)⟩,
      by decide +kernel⟩
  obtain ⟨hone, hmany⟩ := unauthorized_unnoticed "right"
  constructor
  · have hheld := (hone [reporting "wrong" .none] (reporting "right" _)).1 _ hright
    have hstays := (hone [reporting "wrong" .none, reporting "right" ⟨["a:1"], 3, 4, .zero⟩]
      (plainly "POST")).2.1 fun _ h => hbare h.shown
    have hpage := (hone [reporting "wrong" .none, reporting "right" ⟨["a:1"], 3, 4, .zero⟩,
      plainly "POST"] (plainly "GET")).2.2 rfl (by decide +kernel) []
    have hlatest : held "right" [reporting "wrong" .none,
        reporting "right" ⟨["a:1"], 3, 4, .zero⟩, plainly "POST"] =
        some ⟨["a:1"], 3, 4, .zero⟩ := hstays.trans hheld
    rw [hlatest] at hpage
    exact hpage
  · refine (hmany [(reporting "wrong" .none, false),
      (reporting "right" ⟨["a:1"], 3, 4, .zero⟩, true), (plainly "POST", false),
      (plainly "GET", true)] ?_).2
    simp only [List.forall_mem_cons, List.not_mem_nil, false_imp_iff, implies_true, and_true]
    exact ⟨fun _ => ⟨rfl, hwrong⟩, nofun, fun _ => ⟨rfl, hbare⟩, nofun⟩

end Failover.Telemetry.Receiver
