/-
  Failover.Proofs.Service.Isolation
  ─────────────────────────────────
  **The namespace is a wall in the environment of a process.**  An
  environment has three parts, one behind the other, and of one name the
  last entry counts:

      host, without the namespace │ request │ secret, address
      ────────────────────────────┼─────────┴─────────────────
            outside               │          inside

  All names of the first part are outside of the namespace and all others
  are inside.  So nothing inside can come from the host, and nothing
  outside from anywhere else: two hosts that agree outside cannot be told
  apart by any process, whatever else they have.

  Main statement: `namespace_isolated`.
-/
import Failover.Proofs.Service.Spelling

namespace Failover

namespace Environment

variable {host host' : Entries} {space : String} {request : Variables} {secret callback : String}

/-! ## §1. Entries behind others. -/

/-- Entries are looked up from behind. -/
theorem effective?_append (before behind : Entries) (name : String) :
    effective? (before ++ behind) name =
      (effective? behind name).or (effective? before name) := by
  unfold effective?
  rw [List.reverse_append, List.find?_append]
  cases behind.reverse.find? (·.1 == name) with
  | none => rfl
  | some e => rfl

/-- A name without entries has no value. -/
theorem effective?_eq_none {entries : Entries} {name : String} (h : ∀ e ∈ entries, e.1 ≠ name) :
    effective? entries name = none := by
  unfold effective?
  rw [Option.map_eq_none_iff, List.find?_eq_none]
  intro e he hname
  exact h e (List.mem_reverse.1 he) (beq_iff_eq.1 hname)

/-- A name has a value if it has an entry. -/
theorem isSome_effective?_iff {entries : Entries} {name : String} :
    (effective? entries name).isSome = true ↔ ∃ e ∈ entries, e.1 = name := by
  unfold effective?
  rw [Option.isSome_map, List.find?_isSome]
  constructor
  · rintro ⟨e, he, hname⟩
    exact ⟨e, List.mem_reverse.1 he, beq_iff_eq.1 hname⟩
  · rintro ⟨e, he, rfl⟩
    exact ⟨e, List.mem_reverse.2 he, beq_self_eq_true e.1⟩

/-! ## §2. The two sides of the wall. -/

/-- An environment is what the host passes on, and behind it what it would be on a host that has
nothing. -/
theorem build_eq (host : Entries) (space : String) (request : Variables)
    (secret callback : String) :
    build host space request secret callback =
      passed host space ++ build [] space request secret callback := by
  unfold build
  rw [List.append_assoc, List.append_assoc]
  rfl

/-- What is passed on stands outside, and all of it is passed on. -/
theorem mem_passed {e : String × String} :
    e ∈ passed host space ↔ e ∈ host ∧ isInside space e.1 = false := by
  unfold passed
  rw [List.mem_filter, Bool.not_eq_true']

/-- The rest stands inside: it was requested under a key that can be one, or it is the secret or
the address. -/
theorem mem_build_nil {e : String × String} :
    e ∈ build [] space request secret callback ↔
      (∃ p ∈ request.pairs, keyIsValid p.1 = true ∧ e = (variableName space p.1, p.2)) ∨
        e = (variableName space secretKey, secret) ∨
        e = (variableName space callbackKey, callback) := by
  unfold build requested
  show e ∈ [] ++ _ ++ _ ↔ _
  rw [List.nil_append, List.mem_append, List.mem_map]
  refine or_congr ?_ (by rw [List.mem_cons, List.mem_singleton])
  constructor
  · rintro ⟨p, hp, rfl⟩
    obtain ⟨hpair, hkey⟩ := List.mem_filter.1 hp
    exact ⟨p, hpair, hkey, rfl⟩
  · rintro ⟨p, hpair, hkey, rfl⟩
    exact ⟨p, List.mem_filter.2 ⟨hpair, hkey⟩, rfl⟩

theorem isInside_of_mem_build_nil {e : String × String}
    (h : e ∈ build [] space request secret callback) : isInside space e.1 = true := by
  rcases mem_build_nil.1 h with ⟨p, -, -, rfl⟩ | rfl | rfl
  · exact isInside_variableName space p.1
  · exact isInside_variableName space secretKey
  · exact isInside_variableName space callbackKey

/-- An entry inside is none of the host's. -/
theorem mem_build_inside {e : String × String} (hin : isInside space e.1 = true) :
    e ∈ build host space request secret callback ↔
      e ∈ build [] space request secret callback := by
  rw [build_eq, List.mem_append]
  refine or_iff_right fun he => ?_
  have hout := (mem_passed.1 he).2
  rw [hin] at hout
  cases hout

/-- **Inside, the host does not count.** -/
theorem effective?_build_inside (host : Entries) (request : Variables) (secret callback : String)
    {name : String} (hname : isInside space name = true) :
    effective? (build host space request secret callback) name =
      effective? (build [] space request secret callback) name := by
  have hpassed : effective? (passed host space) name = none := by
    refine effective?_eq_none fun e he hsame => ?_
    have hout := (mem_passed.1 he).2
    rw [hsame, hname] at hout
    cases hout
  rw [build_eq, effective?_append, hpassed, Option.or_none]

/-- **Outside, nothing else counts.** -/
theorem effective?_build_outside (host : Entries) (request : Variables) (secret callback : String)
    {name : String} (hname : isInside space name = false) :
    effective? (build host space request secret callback) name = effective? host name := by
  have hown : effective? (build [] space request secret callback) name = none := by
    refine effective?_eq_none fun e he hsame => ?_
    have hin := isInside_of_mem_build_nil he
    rw [hsame, hname] at hin
    cases hin
  -- no entry of the name is hidden
  have hkept : (passed host space).filter (·.1 == name) = host.filter (·.1 == name) := by
    unfold passed
    rw [List.filter_filter]
    refine List.filter_congr fun e _ => ?_
    by_cases hsame : e.1 = name
    · rw [hsame, hname, beq_self_eq_true]
      rfl
    · rw [beq_eq_false_iff_ne.2 hsame, Bool.false_and]
  rw [build_eq, effective?_append, hown, Option.none_or, effective?_eq_getLast?, hkept,
    ← effective?_eq_getLast?]

/-! ## §3. Two hosts. -/

/-- Two hosts with the same entries outside give the same environment, and no others do. -/
theorem build_eq_build_iff :
    build host space request secret callback = build host' space request secret callback ↔
      passed host space = passed host' space := by
  refine ⟨fun h => ?_, fun h => build_congr h request secret callback⟩
  rw [build_eq, build_eq host'] at h
  exact List.append_cancel_right h

/-- Two hosts that have the same values outside give environments with the same values, and no
others do. -/
theorem effective?_build_eq_iff :
    (∀ name, effective? (build host space request secret callback) name =
        effective? (build host' space request secret callback) name) ↔
      ∀ name, isInside space name = false → effective? host name = effective? host' name := by
  constructor
  · intro h name hname
    rw [← effective?_build_outside host request secret callback hname, h,
      effective?_build_outside host' request secret callback hname]
  · intro h name
    cases hname : isInside space name with
    | true =>
        rw [effective?_build_inside host _ _ _ hname, effective?_build_inside host' _ _ _ hname]
    | false =>
        rw [effective?_build_outside host _ _ _ hname, effective?_build_outside host' _ _ _ hname]
        exact h name hname

end Environment

namespace Service

open Environment

/-- A service asks hosts that agree outside its namespace to launch the same. -/
theorem order?_congr {s : Service} {here there : Host} {host host' : Entries}
    (hhere : here.entries? = some host) (hthere : there.entries? = some host')
    (h : passed host s.options.space = passed host' s.options.space) :
    s.order? here = s.order? there := by
  unfold order?
  rw [hhere, hthere, Option.map_some, Option.map_some, build_congr h]

end Service

namespace Environment

open Service

/-! ## §4. Isolation. -/

theorem variableName_secretKey (space : String) :
    variableName space secretKey = space ++ "_SAUTH" := by
  have hcapitals : "_" ++ capitals secretKey = "_SAUTH" := by decide
  unfold variableName namespaceMark
  rw [String.append_assoc, hcapitals]

theorem variableName_callbackKey (space : String) :
    variableName space callbackKey = space ++ "_SADDR" := by
  have hcapitals : "_" ++ capitals callbackKey = "_SADDR" := by decide
  unfold variableName namespaceMark
  rw [String.append_assoc, hcapitals]

/-- **A namespace keeps a process and its host apart.**  On two hosts the environment is the same,
entry by entry, just if they have the same entries outside of the namespace, and it has the same
values just if they have the same values outside; a service asks two such hosts to launch the same.
Outside every name keeps the value that it has on the host.  Inside there are the secret and the
address, whatever was requested, and else what was requested under a key that can be one; nothing
that the host has. -/
theorem namespace_isolated (host : Entries) (space : String) (request : Variables)
    (secret callback : String) :
    let env := build host space request secret callback
    (∀ host', build host' space request secret callback = env ↔
      passed host' space = passed host space) ∧
    (∀ host', (∀ name, effective? (build host' space request secret callback) name =
        effective? env name) ↔
      ∀ name, isInside space name = false → effective? host' name = effective? host name) ∧
    (∀ (s : Service) (here there : Host) (host' : Entries), s.options.space = space →
      here.entries? = some host → there.entries? = some host' →
      passed host' space = passed host space → s.order? there = s.order? here) ∧
    (∀ name, isInside space name = false → effective? env name = effective? host name) ∧
    effective? env (space ++ "_SAUTH") = some secret ∧
    effective? env (space ++ "_SADDR") = some callback ∧
    (∀ e ∈ env, isInside space e.1 = true →
      (∃ p ∈ request.pairs, keyIsValid p.1 = true ∧ e = (variableName space p.1, p.2)) ∨
        e = (space ++ "_SAUTH", secret) ∨ e = (space ++ "_SADDR", callback)) ∧
    (∀ name, isInside space name = true → ((effective? env name).isSome = true ↔
      (∃ p ∈ request.pairs, keyIsValid p.1 = true ∧ name = variableName space p.1) ∨
        name = space ++ "_SAUTH" ∨ name = space ++ "_SADDR")) := by
  intro env
  obtain ⟨hsecret, hcallback⟩ := effective?_build_reserved host space request secret callback
  rw [variableName_secretKey] at hsecret
  rw [variableName_callbackKey] at hcallback
  refine ⟨fun host' => build_eq_build_iff, fun host' => effective?_build_eq_iff, ?_,
    fun name hname => effective?_build_outside host request secret callback hname, hsecret,
    hcallback, ?_, ?_⟩
  · rintro s here there host' rfl hhere hthere hsame
    exact Service.order?_congr hthere hhere hsame
  · intro e he hin
    rw [← variableName_secretKey, ← variableName_callbackKey]
    exact mem_build_nil.1 ((mem_build_inside hin).1 he)
  · intro name hname
    rw [effective?_build_inside host request secret callback hname, isSome_effective?_iff,
      ← variableName_secretKey, ← variableName_callbackKey]
    constructor
    · rintro ⟨e, he, rfl⟩
      rcases mem_build_nil.1 he with ⟨p, hp, hkey, rfl⟩ | rfl | rfl
      · exact .inl ⟨p, hp, hkey, rfl⟩
      · exact .inr (.inl rfl)
      · exact .inr (.inr rfl)
    · rintro (⟨p, hp, hkey, rfl⟩ | rfl | rfl)
      · exact ⟨_, mem_build_nil.2 (.inl ⟨p, hp, hkey, rfl⟩), rfl⟩
      · exact ⟨_, mem_build_nil.2 (.inr (.inl rfl)), rfl⟩
      · exact ⟨_, mem_build_nil.2 (.inr (.inr rfl)), rfl⟩

/-- A host with variables, on which every process ends at once. -/
def idleHost (entries : Entries) : Host := ⟨Host.variablesOf entries, fun _ _ _ => .ok []⟩

/-- Two hosts with different variables of the namespace, and a request that spells the key of the
secret in another way and has a key that is none. -/
theorem namespace_isolated_forged :
    let here : Entries := [("PATH", "/bin"), ("TSUP_SECRET", "leaked"), ("TSUPX", "kept")]
    let there : Entries := [("TSUP_SAUTH", "stolen"), ("PATH", "/bin"), ("TSUPX", "kept")]
    let request : Variables := ⟨[("SAuth", "forged"), ("a=b", "c"), ("secret", "key")]⟩
    let env := build here "TSUP" request "report" "http://a/"
    let s := Service.create "svc-0" "transport" .self .standard "home"
    passed there "TSUP" = passed here "TSUP" ∧
      build there "TSUP" request "report" "http://a/" = env ∧
      (idleHost here).entries? = some here ∧ (idleHost there).entries? = some there ∧
      s.order? (idleHost there) = s.order? (idleHost here) ∧
      isInside "TSUP" "TSUPX" = false ∧ effective? env "TSUPX" = some "kept" ∧
      effective? env "TSUP_SAUTH" = some "report" ∧
      isInside "TSUP" "TSUP_A=B" = true ∧ (effective? env "TSUP_A=B").isSome = false ∧
      ("TSUP_SAUTH", "forged") ∈ env ∧
      ∃ p ∈ request.pairs, ("TSUP_SAUTH", "forged") = (variableName "TSUP" p.1, p.2) := by
  intro here there request env s
  obtain ⟨hsame, -, hlaunch, houtside, hsecret, -, hinside, hnames⟩ :=
    namespace_isolated here "TSUP" request "report" "http://a/"
  have hagree : passed there "TSUP" = passed here "TSUP" := by decide
  have hhere : (idleHost here).entries? = some here := by decide +kernel
  have hthere : (idleHost there).entries? = some there := by decide +kernel
  have hforged : ("TSUP_SAUTH", "forged") ∈ env := by decide
  have hnone : (effective? env "TSUP_A=B").isSome = false := by
    rw [Bool.eq_false_iff, ne_eq, hnames _ (by decide)]
    decide
  refine ⟨hagree, (hsame there).2 hagree, hhere, hthere,
    hlaunch s (idleHost here) (idleHost there) there rfl hhere hthere hagree, by decide,
    (houtside _ (by decide)).trans (by decide), hsecret, by decide, hnone, hforged, ?_⟩
  rcases hinside _ hforged (by decide) with ⟨p, hp, -, heq⟩ | heq | heq
  · exact ⟨p, hp, heq⟩
  · exact absurd heq (by decide)
  · exact absurd heq (by decide)

end Environment

end Failover
