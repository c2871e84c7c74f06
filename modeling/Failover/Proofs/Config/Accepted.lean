/-
  Failover.Proofs.Config.Accepted
  ───────────────────────────────
  **From an accepted configuration to a launch.**  Whether there is
  something to launch for a transport is looked at twice: when the
  configuration is validated, and when an attempt resolves the program.

                       validated    resolved
      comes along         yes         yes
      no command          no          no
      a command           yes         yes
      an empty command    yes         no

  Nothing else can keep a carrier from being set up.

  Main statements: `validateTransports_eq_ok_iff` and
  `program_isOk_iff` — the two columns — and `accepted_launchable_iff`.
-/
import Failover.Config
import Failover.Manager.Run
import Failover.Proofs.Transport.Setup
import Mathlib.Data.List.Basic

namespace Failover

/-! ## §1. Two looks at a transport. -/

/-- **An entry with an empty command**, which does not come with this program. -/
def Transport.isBlank (t : Transport) : Bool := !t.bundled && t.command == some ""

/-- A program is found for an entry that comes with this program or has a command that is not
empty. -/
theorem Transport.program_isOk_iff (t : Transport) :
    t.program.isOk = true ↔ (t.bundled = true ∨ t.command.isSome = true) ∧ t.isBlank = false := by
  unfold program isBlank
  cases t.bundled with
  | true => exact iff_of_true rfl ⟨.inl rfl, rfl⟩
  | false =>
      cases t.command with
      | none => exact iff_of_false Bool.false_ne_true fun h => h.1.elim nofun nofun
      | some path =>
          by_cases hpath : path = ""
          · subst hpath
            exact iff_of_false Bool.false_ne_true fun h => absurd h.2 nofun
          · have hfull : path.isEmpty = false := by simpa using hpath
            simp [hfull, hpath, Except.isOk, Except.toBool]

/-- Where none is found, the entry is told. -/
theorem Transport.program_eq_error {t : Transport} (h : t.program.isOk = false) :
    t.program = .error (.config (.noCommand t.name)) := by
  unfold program at *
  split
  · next hb =>
    rw [if_pos hb] at h
    cases h
  · next hb =>
    rw [if_neg hb] at h
    split at h
    · next path =>
      split at h
      · next he => exact if_pos he
      · cases h
    · rfl

namespace Config

/-- Entries are valid if each comes with this program or has a command. -/
theorem validateTransports_eq_ok_iff (ts : List (String × Transport)) :
    validateTransports ts = .ok () ↔
      ∀ p ∈ ts, p.2.bundled = true ∨ p.2.command.isSome = true := by
  have hfind : validateTransports ts = .ok () ↔
      ts.find? (fun p => !p.2.bundled && p.2.command.isNone) = none := by
    unfold validateTransports
    split
    · next h => exact iff_of_false nofun (by rw [h]; nofun)
    · next h => exact iff_of_true rfl h
  rw [hfind, List.find?_eq_none]
  refine forall₂_congr fun p _ => ?_
  cases p.2.bundled <;> cases p.2.command <;> simp

/-- Steps of which the first one or the rest fails do not succeed. -/
theorem bind_eq_ok {ε α β : Type} {x : Except ε α} {f : α → Except ε β} {b : β}
    (h : (x >>= f) = .ok b) : ∃ a, x = .ok a ∧ f a = .ok b := by
  cases x with
  | error cause => cases h
  | ok a => exact ⟨a, rfl, h⟩

/-- A configuration makes sense only if its transports do. -/
theorem validateTransports_of_validate {c : Config} (h : c.validate = .ok ()) :
    validateTransports c.transports.pairs = .ok () := by
  unfold validate at h
  obtain ⟨address, -, h⟩ := bind_eq_ok h
  split at h
  · obtain ⟨u, -, h⟩ := bind_eq_ok h
    obtain ⟨u, htransports, -⟩ := bind_eq_ok h
    exact htransports
  · cases h

/-- What is read from a text makes sense. -/
theorem validate_of_load {fresh text : String} {c : Config} (h : load fresh text = .ok c) :
    c.validate = .ok () := by
  unfold load at h
  split at h
  · unfold accept at h
    split at h
    · next hvalid =>
      rw [← Except.ok.inj h]
      exact hvalid
    · cases h
  · cases h

/-- Of the transports of such a configuration a program is found for all but those with an empty
command. -/
theorem program_isOk_of_load {fresh text : String} {c : Config} (h : load fresh text = .ok c)
    {name : String} {t : Transport} (ht : c.transports.get? name = some t) :
    t.program.isOk = true ↔ t.isBlank = false := by
  have hvalid := validateTransports_of_validate (validate_of_load h)
  have hentry := (validateTransports_eq_ok_iff _).1 hvalid _ (Named.mem_pairs_of_get? ht)
  exact t.program_isOk_iff.trans (and_iff_right hentry)

end Config

/-! ## §2. What an accepted configuration promises. -/

namespace Manager

/-- Where no program is found nothing is set up, and nothing is left behind. -/
theorem build_eq_error (m : Manager) (c : Connection) {t : Transport} {cause : Fault}
    (ht : t.program = .error cause) : build m c t = (.error cause, m) := by
  unfold build Carrier.create
  rw [ht]

/-- **Every connection of an accepted configuration whose transport is registered can be launched,
unless the command of the transport is empty**: a carrier is set up for it, in whatever registry
and beside whatever other services, whose service is to launch the program of the transport with
all that the settings and the connection tell.  With an empty command this fails, changes nothing,
and the attempt ends as a failed one. -/
theorem accepted_launchable_iff {fresh text : String} {c : Config}
    (hload : Config.load fresh text = .ok c) (m : Manager)
    (hm : m.loop.settings = c.managerSettings) :
    ∀ k ∈ c.connections, ∀ t, c.transports.get? k.transport = some t →
      ((build m k t).1.isOk = true ↔ t.isBlank = false) ∧
        (t.isBlank = false → ∃ program f', t.program = .ok program ∧
          build m k t = (.ok ⟨m.freshId, k⟩, { m with fleet := f' }) ∧
          f'.service? m.freshId =
            some (Carrier.outset c.managerSettings m.registry m.freshId k t program)) ∧
        (t.isBlank = true →
          build m k t = (.error (.config (.noCommand t.name)), m) ∧
          ∀ (probe : Probe) (e : Event),
            Attempt.advance? probe ⟨k, some t, .building e⟩ m =
              some (.telling e [.failed, .ended] .finished, m)) := by
  intro k hk t ht
  have hprogram := Config.program_isOk_of_load hload ht
  refine ⟨(build_isOk_iff m k t).trans hprogram, fun hfull => ?_, fun hblank => ?_⟩
  · cases hok : t.program with
    | error cause =>
        have hisOk := hprogram.2 hfull
        rw [hok] at hisOk
        cases hisOk
    | ok program =>
        obtain ⟨f', hbuild, hservice⟩ := build_eq m k hok
        rw [hm] at hservice
        exact ⟨program, f', rfl, hbuild, hservice⟩
  · have hnone : t.program.isOk = false := by
      rw [Bool.eq_false_iff, ne_eq, hprogram, hblank]
      exact nofun
    have hbuild := build_eq_error m k (Transport.program_eq_error hnone)
    refine ⟨hbuild, fun probe e => ?_⟩
    unfold Attempt.advance?
    dsimp only
    rw [hbuild]

/-- A text with two transports, one with an empty command, and a connection over each. -/
def mixedText : String :=
  "client-auth-key: k\ntransports:\n  x: \x7bcommand: ''\x7d\n  y: \x7bcommand: run\x7d\n" ++
    "connections:\n  - \x7btransport: x\x7d\n  - \x7btransport: y\x7d\n"

/-- Its configuration. -/
def mixed : Config :=
  { Config.standard with
    authKey := some "k"
    transports := (Named.empty.insert "x" ⟨"x", false, some "", [], false⟩).insert "y"
      ⟨"y", false, some "run", [], false⟩
    connections := [.make "x" "" "", .make "y" "" ""] }

theorem load_mixed : Config.load "" mixedText = .ok mixed := by decide +kernel

/-- A manager that goes by it. -/
def mixedManager : Manager :=
  .create mixed.managerSettings .empty "services" mixed.transports .keep mixed.connections

/-- One of its connections can be launched, and the other one ends as a failed one. -/
theorem accepted_launchable_iff_mixed :
    Config.load "" mixedText = .ok mixed ∧
      mixed.connections = [.make "x" "" "", .make "y" "" ""] ∧
      (build mixedManager (.make "y" "" "") ⟨"y", false, some "run", [], false⟩).1.isOk = true ∧
      ∀ (probe : Probe) (e : Event),
        Attempt.advance? probe
            ⟨.make "x" "" "", some ⟨"x", false, some "", [], false⟩, .building e⟩ mixedManager =
          some (.telling e [.failed, .ended] .finished, mixedManager) := by
  have hlaunch := accepted_launchable_iff load_mixed mixedManager rfl
  have hx := hlaunch (.make "x" "" "") List.mem_cons_self _ rfl
  have hy := hlaunch (.make "y" "" "") (List.mem_cons_of_mem _ List.mem_cons_self) _ rfl
  exact ⟨load_mixed, rfl, hy.1.2 rfl, (hx.2.2 rfl).2⟩

/-- **Not every accepted configuration can be launched**: an empty command is accepted. -/
theorem not_accepted_launchable :
    ¬∀ (fresh text : String) (c : Config) (m : Manager), Config.load fresh text = .ok c →
        m.loop.settings = c.managerSettings →
        ∀ k ∈ c.connections, ∀ t, c.transports.get? k.transport = some t →
          (build m k t).1.isOk = true := by
  intro h
  have hok := h _ _ _ mixedManager load_mixed rfl (.make "x" "" "") List.mem_cons_self _ rfl
  rw [build_isOk_iff] at hok
  revert hok
  decide

end Manager

end Failover
