/-
  Failover.Proofs.Bundled.Launch
  ──────────────────────────────
  **What a transport was asked for arrives in its process.** A request
  passes from one process to another as variables in a namespace, and the
  namespace as an argument:

      request ── build ──▶ variables ── effective? ──▶ parameters
      options ── launchOptions ──▶ arguments ── namespaceIn ──▶ namespace

  Whatever of the namespace the host has is hidden, and no two keys of a
  carrier have the same name in capitals, so the process finds each value
  just as it was set.

  Main statement: `bundled_launch` — a transport of this program that is
  set up and started is run in its process, and finds what it was set up
  with.
-/
import Mathlib.Data.List.Nodup
import Failover.Bundled.Run
import Failover.Manager.Run
import Failover.Proofs.Service.Passage
import Failover.Proofs.Transport.Setup

namespace Failover.Environment

/-! ## §1. Names. -/

/-- Two keys of a namespace have one variable only if they are the same in capitals. -/
theorem variableName_inj {space key key' : String} :
    variableName space key = variableName space key' ↔ capitals key = capitals key' :=
  String.append_right_inj _

/-- The variables of a namespace belong to it. -/
theorem isInside_variableName (space key : String) :
    isInside space (variableName space key) = true := by
  unfold isInside variableName
  rw [String.toList_append, List.isPrefixOf_iff_prefix]
  exact List.prefix_append ..

/-- The namespace is found behind its flag. -/
theorem namespaceIn_flag (space : String) (rest : List String) :
    namespaceIn (namespaceFlag :: space :: rest) = space := by
  have hnot : attachedSpace? namespaceFlag = none := by decide
  unfold namespaceIn
  rw [hnot]
  dsimp only
  rw [beq_self_eq_true, if_pos rfl]

/-! ## §2. Values. -/

/-- A process sees the value that all entries of a name have, if there is one. -/
theorem effective?_eq_some {entries : Entries} {name value : String}
    (hmem : (name, value) ∈ entries) (hall : ∀ e ∈ entries, e.1 = name → e.2 = value) :
    effective? entries name = some value := by
  unfold effective?
  cases hfind : entries.reverse.find? (·.1 == name) with
  | none =>
      have hnot := List.find?_eq_none.1 hfind _ (List.mem_reverse.2 hmem)
      exact absurd (beq_self_eq_true name) hnot
  | some e =>
      have he : e ∈ entries := List.mem_reverse.1 (List.mem_of_find?_eq_some hfind)
      have hname : e.1 = name := by simpa using List.find?_some hfind
      rw [Option.map_some, hall e he hname]

/-- **Where the value of a variable of the namespace comes from**: never from the host. -/
theorem mem_build {host : Entries} {space : String} {request : Variables} {secret callback : String}
    {e : String × String} (h : e ∈ build host space request secret callback)
    {key : String} (hkey : e.1 = variableName space key) :
    (∃ p ∈ request.pairs, capitals p.1 = capitals key ∧ e.2 = p.2) ∨
      capitals secretKey = capitals key ∧ e.2 = secret ∨
      capitals callbackKey = capitals key ∧ e.2 = callback := by
  unfold build at h
  rcases List.mem_append.1 h with h | h
  · rcases List.mem_append.1 h with h | h
    · -- the host's own are hidden
      obtain ⟨-, hout⟩ := List.mem_filter.1 h
      rw [hkey, isInside_variableName] at hout
      cases hout
    · obtain ⟨p, hp, rfl⟩ := List.mem_map.1 h
      exact .inl ⟨p, (List.mem_filter.1 hp).1, variableName_inj.1 hkey, rfl⟩
  · right
    rcases List.mem_cons.1 h with rfl | h
    · exact .inl ⟨variableName_inj.1 hkey, rfl⟩
    · obtain rfl := List.mem_singleton.1 h
      exact .inr ⟨variableName_inj.1 hkey, rfl⟩

end Failover.Environment

namespace Failover.Bundled

open Environment

/-- A variable that is not empty is a value. -/
theorem Parameter.raw_of_effective {env : Entries} {space key value : String}
    (h : effective? env (Environment.variableName space key) = some value) :
    (Parameter.of env space key).raw = if value = "" then none else some value := by
  unfold Parameter.raw
  rw [show effective? (Parameter.of env space key).env (Parameter.of env space key).variableName =
    some value from h]
  by_cases hv : value = ""
  · subst hv
    rfl
  · have hne : value.isEmpty = false := by simpa using hv
    rw [if_neg hv, Option.filter_some, hne]
    rfl

/-- A parameter has the value of its variable, be it empty or not. -/
theorem Parameter.get_of_effective {env : Entries} {space key value : String}
    (h : effective? env (Environment.variableName space key) = some value) :
    (Parameter.of env space key).get = value := by
  unfold Parameter.get
  rw [raw_of_effective h]
  by_cases hv : value = ""
  · rw [if_pos hv, hv]
    rfl
  · rw [if_neg hv]
    rfl

/-- It is what it was set to, unless that was nothing. -/
theorem Parameter.is_of_effective {env : Entries} {space key value : String}
    (h : effective? env (Environment.variableName space key) = some value) (hv : value ≠ "") :
    (Parameter.of env space key).is value = true := by
  unfold Parameter.is Parameter.has
  rw [get_of_effective h, raw_of_effective h, if_neg hv]
  simp

/-- What is set is there. -/
theorem Parameter.has_of_is {p : Parameter} {value : String} (h : p.is value = true) :
    p.has = true := by
  unfold Parameter.is at h
  exact (Bool.and_eq_true_iff.1 h).1

/-! ## §3. Choosing a transport. -/

/-- **The first transport of the name that was asked for is run**, and its announcer is the one
that was asked for. -/
theorem run_eq {env : Entries} {space name : String} {bundles : List Bundle}
    (hservice : (Parameter.of env space "service").is "transport" = true)
    (hname : (Parameter.of env space "transport").is name = true)
    (hb : ∃ b ∈ bundles, b.name = name) :
    ∃ b, bundles.find? (·.name == name) = some b ∧
      run env space bundles = b.announce ⟨name, env, space⟩ ∧
      (Announcer.mk name env space).handles = true := by
  obtain ⟨b₀, hmem, hb₀⟩ := hb
  have hfound : (bundles.find? (·.name == name)).isSome = true :=
    List.find?_isSome.2 ⟨b₀, hmem, beq_iff_eq.2 hb₀⟩
  obtain ⟨b, hb⟩ := Option.isSome_iff_exists.1 hfound
  have hget : (Parameter.of env space "transport").get = name := by
    unfold Parameter.is at hname
    exact beq_iff_eq.1 (Bool.and_eq_true_iff.1 hname).2
  refine ⟨b, hb, ?_, ?_⟩
  · have hselect : select env space bundles = pure (b, ⟨name, env, space⟩) := by
      unfold select
      dsimp only
      rw [Parameter.has_of_is hservice, hservice, hget, hb]
      rfl
    unfold run
    rw [hselect]
    rfl
  · unfold Announcer.handles Announcer.parameter
    rw [hservice, hname]
    rfl

end Failover.Bundled

namespace Failover.Service

/-! ## §4. Orders to a host. -/

/-- What a host is asked to launch. -/
structure Order where
  program : Program
  args : List String
  env : Environment.Entries

/-- What a service asks a host to launch, if the variables of the host are text. -/
def order? (s : Service) (host : Host) : Option Order :=
  host.entries?.map fun entries =>
    ⟨s.program, s.options.args, Environment.build entries s.options.space s.request
      s.options.authSecret s.options.callbackUrl⟩

/-- The service once the host was asked to launch an order. -/
def ordered (s : Service) (host : Host) (now : Nat) (o : Order) : Service :=
  match host.launch o.program o.args o.env with
  | .error reason =>
      { s with phase := .finishing (some (.process (.launch o.program.text reason))) }
  | .ok acts =>
      { s with child := some (.launched now acts), phase := .handshaking .empty .empty }

/-- Nothing else is launched. -/
theorem launch_eq {s : Service} {host : Host} {o : Order} (h : s.order? host = some o)
    (now : Nat) : s.launch host now = s.ordered host now o := by
  obtain ⟨entries, hentries, rfl⟩ := Option.map_eq_some_iff.1 h
  cases hlaunch : host.launch s.program s.options.args (Environment.build entries s.options.space
    s.request s.options.authSecret s.options.callbackUrl) with
  | error reason => simp only [launch, ordered, hentries, hlaunch]
  | ok acts => simp only [launch, ordered, hentries, hlaunch]

/-- **A service launches an order**: when its owner goes on it asks the host for just that. -/
def Fleet.Launches (f : Fleet) (host : Host) (id : String) (o : Order) : Prop :=
  ∃ f' s, f.service? id = some s ∧ f.step? host (.owner id) = some f' ∧
    f'.service? id = some (s.ordered host f.clock o)

/-- A service that was begun launches its order. -/
theorem Fleet.launches_of_begin {f f' : Fleet} {id : String} {s : Service} {host : Host} {o : Order}
    (hs : f.service? id = some s) (hb : f.begin id = (.ok (), f')) (ho : s.order? host = some o) :
    f'.Launches host id o := by
  obtain ⟨s₀, hs₀, -, rfl⟩ := begin_eq_ok hb
  obtain rfl : s = s₀ := Option.some.inj (hs.symm.trans hs₀)
  let begun : Service := { s with lifecycle := .starting, phase := .launching }
  let f₁ := f.modify id fun _ => begun
  have hbegun : f₁.service? id = some begun := service?_modify_self hs _
  have hlaunch : begun.launch host f₁.clock = begun.ordered host f₁.clock o :=
    Service.launch_eq (s := begun) ho f₁.clock
  refine ⟨f₁.modify id fun _ => begun.launch host f₁.clock, begun, hbegun,
    owner_of_launching hbegun rfl, ?_⟩
  rw [service?_modify_self hbegun, hlaunch]

end Failover.Service

namespace Failover.Manager

open Service Environment

/-! ## §5. From one process to the other. -/

variable {settings : Settings} {registry id : String} {c : Connection} {t : Transport}

/-- All that a process is to find. -/
def handed (settings : Settings) (c : Connection) : List (String × String) :=
  Carrier.requested settings c ++
    [(secretKey, settings.service.authSecret), (callbackKey, settings.service.callbackUrl)]

/-- No two of its keys are the same in capitals. -/
theorem nodup_handed (settings : Settings) (c : Connection) :
    (((handed settings c).map (·.1)).map capitals).Nodup := by
  have hplain : (["service", "transport", "remoteaddr", "secret", "bindaddr", secretKey,
      callbackKey].map capitals).Nodup := by decide
  have hverbose : (["service", "transport", "remoteaddr", "secret", "bindaddr", "verbose",
      secretKey, callbackKey].map capitals).Nodup := by decide
  unfold handed Carrier.requested Carrier.requestFor
  cases settings.verbose with
  | true => exact hverbose
  | false => exact hplain

/-- The value of a key is that of each entry whose key is the same in capitals. -/
theorem eq_of_mem_handed {p q : String × String} (hp : p ∈ handed settings c) (hq : q ∈ handed settings c)
    (h : capitals p.1 = capitals q.1) : p = q := by
  have hnodup := nodup_handed settings c
  rw [List.map_map] at hnodup
  exact List.inj_on_of_nodup_map hnodup hp hq h

/-- **A process sees all that it is to find**, whatever the host has. -/
theorem effective?_of_mem_handed (host : Entries) (space : String) {p : String × String}
    (hp : p ∈ handed settings c) :
    effective? (Environment.build host space (setEach .empty (Carrier.requested settings c))
      settings.service.authSecret settings.service.callbackUrl) (variableName space p.1) =
        some p.2 := by
  have hvars : ∀ {q}, q ∈ Carrier.requested settings c → q ∈ handed settings c :=
    fun hq => List.mem_append_left _ hq
  have hsecret : (secretKey, settings.service.authSecret) ∈ handed settings c := by
    refine List.mem_append_right _ ?_
    simp
  have hcallback : (callbackKey, settings.service.callbackUrl) ∈ handed settings c := by
    refine List.mem_append_right _ ?_
    simp
  refine effective?_eq_some ?_ fun e he hname => ?_
  · -- it was requested, or it comes behind all that was
    unfold Environment.build
    rcases List.mem_append.1 hp with hmem | hmem
    · refine List.mem_append_left _ (List.mem_append_right _ ?_)
      have hnodup : ((Carrier.requested settings c).map (·.1)).Nodup := by
        have hboth := (nodup_handed settings c).of_map capitals
        unfold handed at hboth
        rw [List.map_append] at hboth
        exact hboth.of_append_left
      have hget := get?_setEach_of_mem .empty hnodup (show (p.1, p.2) ∈ _ from hmem)
      exact List.mem_map.2 ⟨p, List.mem_filter.2 ⟨Named.mem_pairs_of_get? hget,
        Carrier.keyIsValid_requested settings c p hmem⟩, rfl⟩
    · refine List.mem_append_right _ ?_
      rcases List.mem_cons.1 hmem with rfl | hmem
      · exact List.mem_cons_self
      · obtain rfl := List.mem_singleton.1 hmem
        exact List.mem_cons_of_mem _ List.mem_cons_self
  · -- and nothing else has its name
    rcases mem_build he hname with ⟨q, hq, hcap, hvalue⟩ | ⟨hcap, hvalue⟩ | ⟨hcap, hvalue⟩
    · rcases mem_of_mem_setEach hq with hnone | hq
      · cases hnone
      · rw [hvalue, eq_of_mem_handed (hvars hq) hp hcap]
    · rw [hvalue, ← eq_of_mem_handed hsecret hp hcap]
    · rw [hvalue, ← eq_of_mem_handed hcallback hp hcap]

/-- What the host is asked to launch for a carrier of a transport of this program. -/
theorem order?_outset (registry id : String) (c : Connection) {host : Host} {entries : Entries}
    (hhost : host.entries? = some entries) (hargs : settings.service.args = [])
    (ht : t.bundled = true) :
    (Carrier.outset settings registry id c t .self).order? host =
      some ⟨.self, namespaceFlag :: settings.service.space :: t.args,
        Environment.build entries settings.service.space
          (setEach .empty (Carrier.requested settings c)) settings.service.authSecret
          settings.service.callbackUrl⟩ := by
  have hlaunch : (Carrier.launchOptions t settings.service).args =
      namespaceFlag :: settings.service.space :: t.args := by
    unfold Carrier.launchOptions
    rw [hargs, ht]
    rfl
  unfold Service.order?
  rw [hhost, ← hlaunch]
  rfl

/-- **A transport of this program finds in its process what it was set up with.**  Its carrier can
be set up and started, and whatever variables the host has and whatever arguments the transport
comes with: its process finds the namespace in its arguments, knows that it was launched as a
transport, runs the first one of the name that was asked for, with an announcer for it, and finds
the value of each parameter just as it was set. -/
theorem bundled_launch (m : Manager) (c : Connection) (t : Transport) (host : Host)
    (bundles : List Bundled.Bundle) {entries : Entries} (hhost : host.entries? = some entries)
    (ht : t.bundled = true) (hargs : m.loop.settings.service.args = [])
    (hname : c.transport ≠ "") (hb : ∃ b ∈ bundles, b.name = c.transport) :
    let space := m.loop.settings.service.space
    ∃ k m' f o, build m c t = (.ok k, m') ∧ m'.fleet.begin k.service = (.ok (), f) ∧
      f.Launches host k.service o ∧ o.program = .self ∧ namespaceIn o.args = space ∧
      Bundled.isService o.env space = true ∧
      (∃ b, bundles.find? (·.name == c.transport) = some b ∧
        Bundled.run o.env space bundles = b.announce ⟨c.transport, o.env, space⟩ ∧
        (Bundled.Announcer.mk c.transport o.env space).handles = true) ∧
      ∀ p ∈ [("service", "transport"), ("transport", c.transport), ("remoteaddr", c.addr),
          ("secret", c.secret), ("bindaddr", m.loop.settings.proxyBindAddr),
          ("sauth", m.loop.settings.service.authSecret),
          ("saddr", m.loop.settings.service.callbackUrl)],
        (Bundled.Parameter.of o.env space p.1).get = p.2 := by
  intro space
  have hself : t.program = .ok .self := by
    unfold Transport.program
    rw [if_pos ht]
  obtain ⟨f₀, hbuild, hs⟩ := build_eq m c hself
  obtain ⟨f, hbegin⟩ := Fleet.begin_of_idle hs rfl
  have horder := order?_outset m.registry m.freshId c hhost hargs ht
  let env := Environment.build entries space (setEach .empty (Carrier.requested m.loop.settings c))
    m.loop.settings.service.authSecret m.loop.settings.service.callbackUrl
  have hfinds : ∀ p ∈ handed m.loop.settings c,
      effective? env (variableName space p.1) = some p.2 := fun p hp =>
    effective?_of_mem_handed entries space hp
  have hservice : (Bundled.Parameter.of env space "service").is "transport" = true :=
    Bundled.Parameter.is_of_effective (hfinds ("service", "transport") (by simp [handed,
      Carrier.requested, Carrier.requestFor, Carrier.serviceName])) (by decide)
  have htransport : (Bundled.Parameter.of env space "transport").is c.transport = true :=
    Bundled.Parameter.is_of_effective (hfinds ("transport", c.transport) (by simp [handed,
      Carrier.requested, Carrier.requestFor])) hname
  refine ⟨_, _, f, _, hbuild, hbegin, Fleet.launches_of_begin hs hbegin horder, rfl,
    namespaceIn_flag space t.args, Bundled.Parameter.has_of_is hservice,
    Bundled.run_eq hservice htransport hb, fun p hp => ?_⟩
  refine Bundled.Parameter.get_of_effective (hfinds p ?_)
  unfold handed Carrier.requested Carrier.requestFor
  simp only [List.mem_cons, List.not_mem_nil, or_false] at hp
  rcases hp with rfl | rfl | rfl | rfl | rfl | rfl | rfl <;>
    simp [Carrier.serviceName, secretKey, callbackKey]

/-- A host that has variables of the namespace itself. -/
def leakyHost : Host :=
  ⟨Host.variablesOf [("PATH", "/bin"), ("TSUP_SECRET", "leaked"), ("TSUP_SAUTH", "leaked")],
    fun _ _ _ => .ok []⟩

/-- Settings with a secret for reports. -/
def reportingSettings : Settings :=
  { Settings.standard with service := { Options.standard with authSecret := "report" } }

theorem bundled_launch_leaky :
    leakyHost.entries? =
        some [("PATH", "/bin"), ("TSUP_SECRET", "leaked"), ("TSUP_SAUTH", "leaked")] ∧
      (∃ b ∈ Bundled.shipped (.isolated 1), b.name = "socks5") ∧
      ∃ o : Order, namespaceIn o.args = "TSUP" ∧
        (Bundled.Parameter.of o.env "TSUP" "secret").get = "key" ∧
        (Bundled.Parameter.of o.env "TSUP" "sauth").get = "report" := by
  have hhost : leakyHost.entries? =
      some [("PATH", "/bin"), ("TSUP_SECRET", "leaked"), ("TSUP_SAUTH", "leaked")] := by
    decide +kernel
  have hb : ∃ b ∈ Bundled.shipped (.isolated 1), b.name = "socks5" :=
    ⟨_, List.mem_singleton_self _, rfl⟩
  obtain ⟨-, -, -, o, -, -, -, -, hspace, -, -, hget⟩ := bundled_launch
    (create reportingSettings .empty "home" .empty .keep [])
    ⟨"socks5", "key", "a:1", false, false, "x"⟩ (.ofBundled "socks5") leakyHost
    (Bundled.shipped (.isolated 1)) hhost rfl rfl (by decide) hb
  exact ⟨hhost, hb, o, hspace, hget ("secret", "key") (by simp),
    hget ("sauth", "report") (by simp [create, reportingSettings])⟩

end Failover.Manager
