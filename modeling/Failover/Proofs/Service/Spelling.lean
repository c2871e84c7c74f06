/-
  Failover.Proofs.Service.Spelling
  ────────────────────────────────
  **Which value of a request reaches the process.**  A request tells its
  keys apart as they are written, but a variable has its name in capitals.
  So keys that differ only in the case of their letters have one variable
  together:

      request   Foo ↦ x,  foo ↦ y     ── build ──▶     NS_FOO=x  NS_FOO=y

  Entries go by their keys, and of one name the last entry counts.  Of all
  spellings of a key the greatest one prevails, then, whichever was set
  last; what was set for the others is lost, though it was accepted.

  Main statements: `effective?_build` (any request) and
  `set_variable_arrives_iff` (a service that is set up and started).
-/
import Failover.Proofs.Bundled.Launch

namespace Failover

namespace Environment

variable {request : Variables} {space key : String}

/-! ## §1. The last entry of a name. -/

/-- A process sees the last of the entries of a name. -/
theorem effective?_eq_getLast? (entries : Entries) (name : String) :
    effective? entries name = ((entries.filter (·.1 == name)).getLast?).map (·.2) := by
  rw [List.getLast?_filter]
  rfl

/-- The pairs of a request whose keys are spellings of a key, in their order. -/
def spellings (request : Variables) (key : String) : List (String × String) :=
  request.pairs.filter fun p => keyIsValid p.1 && capitals p.1 == capitals key

/-- They are what a request has of the variable of the key. -/
theorem filter_requested (request : Variables) (space key : String) :
    (requested space request).filter (·.1 == variableName space key) =
      (spellings request key).map fun p => (variableName space p.1, p.2) := by
  unfold requested spellings
  rw [List.filter_map, List.filter_filter]
  refine congrArg _ (List.filter_congr fun p _ => ?_)
  have hname : (variableName space p.1 == variableName space key) =
      (capitals p.1 == capitals key) := by
    rw [Bool.eq_iff_iff, beq_iff_eq, beq_iff_eq, variableName_inj]
  exact (congrArg (· && keyIsValid p.1) hname).trans (Bool.and_comm ..)

/-- The host has nothing of it left. -/
theorem filter_passed (host : Entries) (space key : String) :
    (passed host space).filter (·.1 == variableName space key) = [] := by
  refine List.filter_eq_nil_iff.2 fun e he hname => ?_
  have hout := (List.mem_filter.1 he).2
  rw [beq_iff_eq.1 hname, isInside_variableName] at hout
  cases hout

/-- **The last of the spellings in a request counts**, unless it is a key of its own kind. -/
theorem effective?_build (host : Entries) (space : String) (request : Variables)
    (secret callback : String) {key : String} (hsecret : capitals key ≠ capitals secretKey)
    (hcallback : capitals key ≠ capitals callbackKey) :
    effective? (build host space request secret callback) (variableName space key) =
      ((spellings request key).getLast?).map (·.2) := by
  have hreserved : [(variableName space secretKey, secret),
      (variableName space callbackKey, callback)].filter (·.1 == variableName space key) = [] := by
    refine List.filter_eq_nil_iff.2 fun e he hname => ?_
    rcases List.mem_cons.1 he with rfl | he
    · exact hsecret (variableName_inj.1 (beq_iff_eq.1 hname)).symm
    · obtain rfl := List.mem_singleton.1 he
      exact hcallback (variableName_inj.1 (beq_iff_eq.1 hname)).symm
  unfold build
  rw [effective?_eq_getLast?, List.filter_append, List.filter_append, filter_passed,
    filter_requested, hreserved, List.nil_append, List.append_nil, List.getLast?_map,
    Option.map_map]
  rfl

/-- The secret and the address are what the process sees of their keys, whatever was requested. -/
theorem effective?_build_reserved (host : Entries) (space : String) (request : Variables)
    (secret callback : String) :
    effective? (build host space request secret callback) (variableName space secretKey) =
        some secret ∧
      effective? (build host space request secret callback) (variableName space callbackKey) =
        some callback := by
  have hdiffer : variableName space callbackKey ≠ variableName space secretKey := fun h =>
    absurd (variableName_inj.1 h) (by decide)
  have hsecret : [(variableName space secretKey, secret),
      (variableName space callbackKey, callback)].filter (·.1 == variableName space secretKey) =
        [(variableName space secretKey, secret)] := by
    simp [hdiffer]
  have hcallback : [(variableName space secretKey, secret),
      (variableName space callbackKey, callback)].filter (·.1 == variableName space callbackKey) =
        [(variableName space callbackKey, callback)] := by
    simp [hdiffer.symm]
  unfold build
  constructor
  · rw [effective?_eq_getLast?, List.filter_append, hsecret, List.getLast?_concat]
    rfl
  · rw [effective?_eq_getLast?, List.filter_append, hcallback, List.getLast?_concat]
    rfl

/-! ## §2. The spelling that prevails. -/

/-- **A spelling prevails** for a key in a request: it is the greatest of the keys in it that are
the same in capitals. -/
structure Prevails (request : Variables) (key spelling : String) : Prop where
  same : capitals spelling = capitals key
  found : (request.get? spelling).isSome = true
  greatest : ∀ other, capitals other = capitals key → (request.get? other).isSome = true →
    other ≤ spelling

/-- Only one does. -/
theorem Prevails.unique {a b : String} (ha : Prevails request key a) (hb : Prevails request key b) :
    a = b :=
  String.le_antisymm (hb.greatest a ha.same ha.found) (ha.greatest b hb.same hb.found)

/-- The only spelling in a request prevails. -/
theorem prevails_of_only (hfound : (request.get? key).isSome = true)
    (honly : ∀ other, capitals other = capitals key → (request.get? other).isSome = true →
      other = key) : Prevails request key key :=
  ⟨rfl, hfound, fun other hsame hother => (honly other hsame hother) ▸ String.le_refl _⟩

/-- The last of the spellings is the one that prevails. -/
theorem prevails_getLast (hs : request.Sorted)
    (hvalid : ∀ p ∈ request.pairs, keyIsValid p.1 = true) {p : String × String}
    (hlast : (spellings request key).getLast? = some p) :
    Prevails request key p.1 ∧ request.get? p.1 = some p.2 := by
  obtain ⟨before, hcut⟩ := List.getLast?_eq_some_iff.1 hlast
  have hmem : p ∈ spellings request key := hcut ▸ List.mem_append_right _ List.mem_cons_self
  obtain ⟨hpair, hkey⟩ := List.mem_filter.1 hmem
  have hget : request.get? p.1 = some p.2 := Named.get?_of_mem_pairs hs hpair
  refine ⟨⟨beq_iff_eq.1 (Bool.and_eq_true_iff.1 hkey).2, ?_, fun other hsame hother => ?_⟩, hget⟩
  · rw [hget]
    rfl
  · -- another spelling stands before the last one, and so in the order of the keys
    obtain ⟨value, hvalue⟩ := Option.isSome_iff_exists.1 hother
    have hpair' := Named.mem_pairs_of_get? hvalue
    have hmem' : (other, value) ∈ spellings request key := by
      refine List.mem_filter.2 ⟨hpair', ?_⟩
      rw [hvalid _ hpair', hsame, beq_self_eq_true]
      rfl
    have hsorted : (before ++ [p]).Pairwise (·.1 < ·.1) := hcut ▸ hs.filter _
    rw [hcut] at hmem'
    rcases List.mem_append.1 hmem' with hbefore | hend
    · have hlt : other < p.1 :=
        (List.pairwise_append.1 hsorted).2.2 _ hbefore p List.mem_cons_self
      exact String.not_lt.1 fun hgt => String.lt_irrefl _ (String.lt_trans hlt hgt)
    · obtain rfl := List.mem_singleton.1 hend
      exact String.le_refl _

/-- A request with a key has a spelling of it that prevails, and its value is what a process
sees. -/
theorem exists_prevails (host : Entries) (space : String) (secret callback : String)
    (hs : request.Sorted) (hvalid : ∀ p ∈ request.pairs, keyIsValid p.1 = true)
    (hkey : (request.get? key).isSome = true) (hsecret : capitals key ≠ capitals secretKey)
    (hcallback : capitals key ≠ capitals callbackKey) :
    ∃ spelling value, Prevails request key spelling ∧ request.get? spelling = some value ∧
      effective? (build host space request secret callback) (variableName space key) =
        some value := by
  obtain ⟨value, hvalue⟩ := Option.isSome_iff_exists.1 hkey
  have hpair := Named.mem_pairs_of_get? hvalue
  have hmem : (key, value) ∈ spellings request key := by
    refine List.mem_filter.2 ⟨hpair, ?_⟩
    rw [hvalid _ hpair, beq_self_eq_true]
    rfl
  cases hlast : (spellings request key).getLast? with
  | none =>
      rw [List.getLast?_eq_none_iff.1 hlast] at hmem
      cases hmem
  | some p =>
      obtain ⟨hprevails, hget⟩ := prevails_getLast hs hvalid hlast
      refine ⟨p.1, p.2, hprevails, hget, ?_⟩
      rw [effective?_build host space request secret callback hsecret hcallback, hlast]
      rfl

end Environment

namespace Service

open Environment

variable {f : Fleet} {id : String} {s : Service}

/-! ## §3. Setting variables. -/

/-- Set variables of a service one after the other, whatever comes of each. -/
def Fleet.setVars (f : Fleet) (id : String) : List (String × String) → Fleet
  | [] => f
  | (key, value) :: rest => (f.setVar id key value).2.setVars id rest

/-- Those that can be set. -/
def settable (calls : List (String × String)) : List (String × String) :=
  calls.filter fun p => keyIsValid p.1

/-- An idle service refuses a key that is none, and stays as it is. -/
theorem Fleet.setVar_of_not_valid (hs : f.service? id = some s) {key : String}
    (hk : keyIsValid key = false) (value : String) :
    ∃ cause, f.setVar id key value = (.error cause, f) := by
  unfold setVar Service.setVar
  rw [hs]
  dsimp only
  split
  · next hset =>
    split at hset
    · cases hset
    · rw [hk, Bool.not_false, if_pos rfl] at hset
      cases hset
  · next cause _ => exact ⟨cause, rfl⟩

/-- **An idle service has all that could be set.** -/
theorem Fleet.setVars_of_idle (hs : f.service? id = some s) (hi : s.lifecycle = .idle)
    (calls : List (String × String)) :
    (f.setVars id calls).service? id =
      some (s.withRequest (setEach s.request (settable calls))) := by
  induction calls generalizing f s with
  | nil => exact hs
  | cons p rest ih =>
      have hsettable : settable (p :: rest) =
          if keyIsValid p.1 then p :: settable rest else settable rest := List.filter_cons ..
      rw [hsettable]
      unfold setVars
      cases hk : keyIsValid p.1 with
      | true =>
          obtain ⟨f', hset, hs'⟩ := setVar_of_idle hs hi hk p.2
          rw [hset, if_pos rfl]
          exact ih hs' hi
      | false =>
          obtain ⟨cause, hset⟩ := setVar_of_not_valid hs hk p.2
          rw [hset, if_neg Bool.false_ne_true]
          exact ih hs hi

/-- What is set is in order. -/
theorem sorted_setEach {request : Variables} (h : request.Sorted)
    (vars : List (String × String)) : (setEach request vars).Sorted := by
  induction vars generalizing request with
  | nil => exact h
  | cons p rest ih => exact ih (Named.sorted_insert h p.1 p.2)

/-- The last value that a key is set to is the one that it has. -/
theorem get?_setEach_last (request : Variables) (before after : List (String × String))
    {key : String} (value : String) (h : key ∉ after.map (·.1)) :
    (setEach request (before ++ (key, value) :: after)).get? key = some value := by
  unfold setEach
  rw [List.foldl_append, List.foldl_cons]
  have hafter := get?_setEach_of_not_mem ((setEach request before).insert key value) h
  rwa [Named.get?_insert, if_pos rfl] at hafter

/-- Each of its pairs is one that could be set. -/
theorem mem_settable {calls : List (String × String)} {p : String × String}
    (h : p ∈ (setEach .empty (settable calls)).pairs) : p ∈ calls ∧ keyIsValid p.1 = true :=
  List.mem_filter.1 ((mem_of_mem_setEach h).resolve_left List.not_mem_nil)

/-- A key prevails where no other spelling of it was set. -/
theorem prevails_of_set_only {calls : List (String × String)} {key : String}
    (hfound : ((setEach .empty (settable calls)).get? key).isSome = true)
    (honly : ∀ p ∈ calls, capitals p.1 = capitals key → p.1 = key) :
    Prevails (setEach .empty (settable calls)) key key := by
  refine prevails_of_only hfound fun other hsame hother => ?_
  obtain ⟨value, hvalue⟩ := Option.isSome_iff_exists.1 hother
  exact honly _ (mem_settable (Named.mem_pairs_of_get? hvalue)).1 hsame

/-- A key that was accepted is one. -/
theorem Fleet.keyIsValid_of_setVar {key value : String} (hs : f.service? id = some s)
    (h : (f.setVar id key value).1 = .ok ()) : keyIsValid key = true := by
  cases hk : keyIsValid key with
  | true => rfl
  | false =>
      obtain ⟨cause, hset⟩ := setVar_of_not_valid hs hk value
      rw [hset] at h
      cases h

/-- **What has been set of a new service** before it is started. -/
theorem Fleet.service?_setVars_create (fleet : Fleet) (registry id name : String)
    (program : Program) (options : Options) (calls : List (String × String)) :
    ((fleet.create registry id name program options).setVars id calls).service? id =
      some ((Service.create id name program options registry).withRequest
        (setEach .empty (settable calls))) := by
  have hs : (fleet.create registry id name program options).service? id =
      some (Service.create id name program options registry) := by
    unfold create register
    split <;> exact (Named.get?_insert ..).trans (if_pos rfl)
  exact setVars_of_idle hs rfl calls

/-! ## §4. From the caller to the process. -/

/-- A new service of which variables were set can be started, and what is launched has them. -/
theorem Fleet.launches_setVars (fleet : Fleet) (registry id name : String) (program : Program)
    (options : Options) (calls : List (String × String)) {host : Host} {entries : Entries}
    (hhost : host.entries? = some entries) :
    ∃ f, ((fleet.create registry id name program options).setVars id calls).begin id =
        (.ok (), f) ∧
      f.Launches host id ⟨program, options.args, build entries options.space
        (setEach .empty (settable calls)) options.authSecret options.callbackUrl⟩ := by
  have hs := service?_setVars_create fleet registry id name program options calls
  obtain ⟨f, hbegin⟩ := begin_of_idle hs rfl
  refine ⟨f, hbegin, launches_of_begin hs hbegin ?_⟩
  unfold Service.order?
  rw [hhost]
  rfl

/-- **Which value arrives.**  A service is created, variables are set of it, and it is started; the
last value that was accepted for a key is the one that the service has for it.  Its process finds
the value of the spelling of the key that prevails.  So it finds what was set for the key just if
that is the value of the prevailing spelling — always, if there was no other spelling. -/
theorem set_variable_arrives_iff (fleet : Fleet) (registry id name : String) (program : Program)
    (options : Options) (host : Host) {entries : Entries} (hhost : host.entries? = some entries)
    (before after : List (String × String)) {key value : String}
    (hok : (((fleet.create registry id name program options).setVars id before).setVar id key
      value).1 = .ok ())
    (hlast : key ∉ after.map (·.1)) (hsecret : capitals key ≠ capitals secretKey)
    (hcallback : capitals key ≠ capitals callbackKey) :
    let f := (fleet.create registry id name program options).setVars id
      (before ++ (key, value) :: after)
    ∃ s f' o, f.service? id = some s ∧ s.var? key = some value ∧ f.begin id = (.ok (), f') ∧
      f'.Launches host id o ∧
      let arrived := (Bundled.Parameter.of o.env options.space key).get
      (∃ spelling, Prevails s.request key spelling ∧ s.var? spelling = some arrived) ∧
      (arrived = value ↔
        ∀ spelling, Prevails s.request key spelling → s.var? spelling = some value) ∧
      ((∀ p ∈ before ++ after, capitals p.1 = capitals key → p.1 = key) → arrived = value) := by
  intro f
  have hbefore := Fleet.service?_setVars_create fleet registry id name program options before
  have hkey : keyIsValid key = true := Fleet.keyIsValid_of_setVar hbefore hok
  let request := setEach .empty (settable (before ++ (key, value) :: after))
  have hsplit : settable (before ++ (key, value) :: after) =
      settable before ++ (key, value) :: settable after := by
    unfold settable
    rw [List.filter_append, List.filter_cons_of_pos (by exact hkey)]
  have hlast' : key ∉ (settable after).map (·.1) := fun hmem =>
    hlast (List.map_subset _ (List.filter_subset_self _) hmem)
  have hvar : request.get? key = some value := by
    unfold request
    rw [hsplit]
    exact get?_setEach_last .empty (settable before) (settable after) value hlast'
  obtain ⟨spelling, found, hprevails, hfound, heffective⟩ :=
    exists_prevails entries options.space options.authSecret options.callbackUrl
      (sorted_setEach Named.sorted_empty _) (fun _ hp => (mem_settable hp).2)
      (Option.isSome_of_eq_some hvar) hsecret hcallback
  have harrived := Bundled.Parameter.get_of_effective heffective
  obtain ⟨f', hbegin, hlaunches⟩ := Fleet.launches_setVars fleet registry id name program options
    (before ++ (key, value) :: after) hhost
  have hiff : found = value ↔
      ∀ other, Prevails request key other → request.get? other = some value := by
    constructor
    · rintro rfl other hother
      rw [hother.unique hprevails, hfound]
    · intro hall
      exact Option.some.inj (hfound.symm.trans (hall spelling hprevails))
  refine ⟨_, f', _, Fleet.service?_setVars_create fleet registry id name program options _, hvar,
    hbegin, hlaunches, ?_⟩
  dsimp only
  rw [harrived]
  refine ⟨⟨spelling, hprevails, hfound⟩, hiff, fun honly => ?_⟩
  -- the only spelling is the one that prevails
  have hself : Prevails request key key := by
    refine prevails_of_set_only (Option.isSome_of_eq_some hvar) fun p hp hsame => ?_
    rw [List.mem_append, List.mem_cons] at hp
    rcases hp with hp | rfl | hp
    · exact honly p (List.mem_append_left _ hp) hsame
    · rfl
    · exact honly p (List.mem_append_right _ hp) hsame
  rw [hprevails.unique hself] at hfound
  exact Option.some.inj (hfound.symm.trans hvar)

/-- Of two spellings the greater one arrives, here set last; a key that is none changes nothing. -/
theorem set_variable_arrives_iff_spelled :
    Manager.leakyHost.entries? =
        some [("PATH", "/bin"), ("TSUP_SECRET", "leaked"), ("TSUP_SAUTH", "leaked")] ∧
      (((Fleet.empty.create "home" "svc-0" "transport" .self .standard).setVars "svc-0"
        [("Secret", "old"), ("a=b", "c")]).setVar "svc-0" "secret" "new").1 = .ok () ∧
      "secret" ∉ [("bindaddr", "127.0.0.1:0")].map (·.1) ∧
      capitals "secret" ≠ capitals secretKey ∧ capitals "secret" ≠ capitals callbackKey ∧
      ∃ f o, ((Fleet.empty.create "home" "svc-0" "transport" .self .standard).setVars "svc-0"
          [("Secret", "old"), ("a=b", "c"), ("secret", "new"), ("bindaddr", "127.0.0.1:0")]).begin
            "svc-0" = (.ok (), f) ∧
        f.Launches Manager.leakyHost "svc-0" o ∧
        (Bundled.Parameter.of o.env "TSUP" "secret").get = "new" := by
  have hhost : Manager.leakyHost.entries? =
      some [("PATH", "/bin"), ("TSUP_SECRET", "leaked"), ("TSUP_SAUTH", "leaked")] := by
    decide +kernel
  have hok : (((Fleet.empty.create "home" "svc-0" "transport" .self .standard).setVars "svc-0"
      [("Secret", "old"), ("a=b", "c")]).setVar "svc-0" "secret" "new").1 = .ok () := rfl
  have hlast : "secret" ∉ [("bindaddr", "127.0.0.1:0")].map (·.1) := by decide
  have hsecret : capitals "secret" ≠ capitals secretKey := by decide
  have hcallback : capitals "secret" ≠ capitals callbackKey := by decide
  obtain ⟨s, f, o, hs, -, hbegin, hlaunches, -, hiff, -⟩ := set_variable_arrives_iff .empty "home"
    "svc-0" "transport" .self .standard Manager.leakyHost hhost [("Secret", "old"), ("a=b", "c")]
    [("bindaddr", "127.0.0.1:0")] hok hlast hsecret hcallback
  let request : Variables := ⟨[("Secret", "old"), ("bindaddr", "127.0.0.1:0"), ("secret", "new")]⟩
  have hrequest : s.request = request := by
    rw [Fleet.service?_setVars_create] at hs
    rw [← Option.some.inj hs]
    decide +kernel
  have hself : Prevails request "secret" "secret" := by
    refine ⟨rfl, rfl, fun other _ hother => ?_⟩
    have hmem : other ∈ ["Secret", "bindaddr", "secret"] := by
      obtain ⟨value, hvalue⟩ := Option.isSome_iff_exists.1 hother
      exact List.mem_map_of_mem (f := (·.1)) (Named.mem_pairs_of_get? hvalue)
    exact (by decide +kernel : ∀ x ∈ ["Secret", "bindaddr", "secret"], x ≤ "secret") other hmem
  refine ⟨hhost, hok, hlast, hsecret, hcallback, f, o, hbegin, hlaunches,
    hiff.2 fun spelling hprevails => ?_⟩
  rw [hrequest] at hprevails
  unfold Service.var?
  rw [hrequest, hprevails.unique hself]
  rfl

/-- **Not all that is accepted arrives**: what is set for one spelling of a key is lost behind a
greater one. -/
theorem not_set_variable_arrives :
    ¬∀ (fleet : Fleet) (registry id name : String) (program : Program) (options : Options)
      (host : Host) (entries : Entries) (before after : List (String × String))
      (key value : String),
      host.entries? = some entries →
      (((fleet.create registry id name program options).setVars id before).setVar id key
        value).1 = .ok () →
      key ∉ after.map (·.1) → capitals key ≠ capitals secretKey →
      capitals key ≠ capitals callbackKey → value ≠ "" →
      ∀ f' o, ((fleet.create registry id name program options).setVars id
          (before ++ (key, value) :: after)).begin id = (.ok (), f') →
        f'.Launches host id o → (Bundled.Parameter.of o.env options.space key).get = value := by
  intro h
  let host : Host := ⟨[], fun _ _ _ => .ok []⟩
  have hhost : host.entries? = some [] := rfl
  obtain ⟨f, hbegin, hlaunches⟩ := Fleet.launches_setVars .empty "home" "svc-0" "transport" .self
    .standard [("Foo", "x"), ("foo", "")] hhost
  have harrived := h .empty "home" "svc-0" "transport" .self .standard host [] [] [("foo", "")]
    "Foo" "x" hhost rfl (by decide) (by decide) (by decide) (by decide) f _ hbegin hlaunches
  exact absurd harrived (by decide +kernel)

end Service

end Failover
