/-
  Failover.Proofs.Config.Persistence
  ──────────────────────────────────
  **An accepted configuration survives storage.**  Three things are filled
  in when a configuration is read, and one of them is not stored:

                        filled in                      stored
      connections       the id, which is derived         no
      transports        the name, if it is empty         yes
      the secret        at random, if there is none      yes

  A configuration is raw if no connection has an id yet.  Whatever is read
  is raw, and so is what is stored; what is stored of a raw configuration
  that was prepared has the same ids derived again, and neither the names
  nor the secret are empty any more.

      raw ──prepare──▶ accepted ──data──▶ document ──read──▶ stored ──prepare──▶ accepted

  Main statement: `persistent_of_load`.
-/
import Failover.CommandLine.Run
import Failover.Config.Storage
import Failover.Proofs.Bytes.Base64
import Failover.Proofs.Config.Accepted
import Failover.Proofs.Yaml.Reading

namespace Failover

/-! ## §1. Filling in twice. -/

/-- A derived id is not empty. -/
theorem Connection.derivedId_ne (transport secret addr : String) :
    derivedId transport secret addr ≠ "" := by
  intro h
  let digest := Bytes.Sha256.digest (idSource transport secret addr)
  have hnone : Bytes.Base64.encodeBare digest = Bytes.Base64.encodeBare [] := by
    have hsymbols := congrArg String.toList h
    unfold derivedId at hsymbols
    rwa [String.toList_ofList] at hsymbols
  have hlength : digest.length = 32 := Bytes.Sha256.length_digest _
  rw [Bytes.Base64.encodeBare_injective hnone] at hlength
  cases hlength

/-- After ids were derived there is one. -/
theorem Connection.id_withId_ne (k : Connection) : k.withId.id ≠ "" := by
  unfold withId
  split
  · exact derivedId_ne k.transport k.secret k.addr
  · next h => simpa using h

/-- Deriving ids once is enough. -/
theorem Connection.withId_withId (k : Connection) : k.withId.withId = k.withId := by
  have hid : k.withId.id.isEmpty = false := by simpa using k.id_withId_ne
  exact withId_of_nonempty hid

/-- A derived id can be forgotten. -/
theorem Connection.forget_withId {k : Connection} (h : k.id = "") :
    { k.withId with id := "" } = k := by
  have hempty : k.id.isEmpty = true := by rw [h]; rfl
  unfold withId
  rw [if_pos hempty, ← h]

/-- Taking over a name once is enough. -/
theorem Transport.named_named (t : Transport) (name : String) :
    (t.named name).named name = t.named name := by
  unfold named
  by_cases h : t.name.isEmpty = true
  · rw [if_pos h]
    exact ite_self _
  · rw [if_neg h, if_neg h]

/-- An entry has a name afterwards, if the registry has one for it. -/
theorem Transport.name_named_ne (t : Transport) {name : String} (h : name ≠ "") :
    (t.named name).name ≠ "" := by
  unfold named
  split
  · exact h
  · next hname => simpa using hname

namespace Config

variable {c : Config} {fresh : String}

theorem generatedKey_ne (draws : Nat → Fin keySymbols.length) : generatedKey draws ≠ "" := by
  intro h
  have hlength := congrArg String.length h
  unfold generatedKey at hlength
  rw [String.length_ofList, List.length_map, List.length_range] at hlength
  cases hlength

/-- After a configuration was prepared there is a secret. -/
theorem secret_prepare_ne (c : Config) (hfresh : fresh ≠ "") : (c.prepare fresh).secret ≠ "" := by
  unfold secret prepare
  dsimp only
  split
  · exact hfresh
  · next h => simpa using h

/-- **Preparing once is enough**, whatever secret a second time would give. -/
theorem prepare_prepare (c : Config) (hfresh : fresh ≠ "") (fresh' : String) :
    (c.prepare fresh).prepare fresh' = c.prepare fresh := by
  have hsecret : (c.prepare fresh).secret.isEmpty = false := by
    simpa using secret_prepare_ne c hfresh
  have hconnections : (c.prepare fresh).connections.map Connection.withId =
      (c.prepare fresh).connections := by
    unfold prepare
    rw [List.map_map]
    exact List.map_congr_left fun k _ => k.withId_withId
  have htransports : ((c.prepare fresh).transports.map fun name t => t.named name) =
      (c.prepare fresh).transports := by
    unfold prepare Named.map
    rw [List.map_map]
    exact congrArg Named.mk (List.map_congr_left fun p _ =>
      congrArg (Prod.mk p.1) (p.2.named_named p.1))
  unfold secret at hsecret
  rw [prepare, hconnections, htransports, hsecret]
  rfl

/-! ## §2. Raw configurations. -/

/-- **A configuration is raw**: no connection has an id, and the transports go by their names. -/
structure IsRaw (c : Config) : Prop where
  ids : ∀ k ∈ c.connections, k.id = ""
  sorted : c.transports.Sorted

/-- Preparing it keeps the order of the transports. -/
theorem IsRaw.sorted_prepare (h : c.IsRaw) (fresh : String) :
    (c.prepare fresh).transports.Sorted := Named.sorted_map h.sorted _

/-- **What is stored of a prepared configuration becomes the same one when it is prepared.** -/
theorem IsRaw.prepare_stored_prepare (h : c.IsRaw) (hfresh : fresh ≠ "") (fresh' : String) :
    (c.prepare fresh).stored.prepare fresh' = c.prepare fresh := by
  have hconnections : ((c.prepare fresh).connections.map fun k => { k with id := "" }) =
      c.connections := by
    unfold prepare
    rw [List.map_map]
    exact (List.map_congr_left fun k hk => Connection.forget_withId (h.ids k hk)).trans
      (List.map_id _)
  -- the ids are derived again from what they were derived from
  have hagain : (c.prepare fresh).stored.prepare fresh' =
      { (c.prepare fresh).prepare fresh' with
        connections := c.connections.map Connection.withId } := by
    unfold stored
    rw [hconnections]
    rfl
  rw [hagain, prepare_prepare c hfresh]
  rfl

/-! ## §3. Reading gives raw configurations. -/

/-- A value that is read, if there is one. -/
theorem eq_default_or_read {α : Type} {ms : List (String × Yaml.Node)} {answers : String → Bool}
    {default x : α} {read : Yaml.Node → Option α}
    (h : Yaml.Document.member ms answers (some default) read = some x) :
    x = default ∨ ∃ n, read n = some x := by
  unfold Yaml.Document.member at h
  split at h
  · exact .inl (Option.some.inj h).symm
  · next m _ => exact .inr ⟨m.2, h⟩
  · cases h

/-- All results of one function. -/
theorem forall_of_mapM {α β : Type} {f : α → Option β} {p : β → Prop}
    (hf : ∀ a b, f a = some b → p b) {l : List α} {bs : List β} (h : l.mapM f = some bs) :
    ∀ b ∈ bs, p b := by
  induction Yaml.Document.mapM_eq_some_iff.1 h with
  | nil => exact List.forall_mem_nil p
  | @cons a b l bs hab hrest ih =>
      exact List.forall_mem_cons.2 ⟨hf a b hab, ih (Yaml.Document.mapM_eq_some_iff.2 hrest)⟩

/-- **What is read from a document is raw.** -/
theorem isRaw_of_ofDocument {d : Yaml.Document} (h : ofDocument d = some c) : c.IsRaw := by
  unfold ofDocument at h
  obtain ⟨ms, -, h⟩ := Option.bind_eq_some_iff.1 h
  obtain ⟨controllerBindAddr, -, h⟩ := Option.bind_eq_some_iff.1 h
  obtain ⟨authKey, -, h⟩ := Option.bind_eq_some_iff.1 h
  obtain ⟨space, -, h⟩ := Option.bind_eq_some_iff.1 h
  obtain ⟨logLevel, -, h⟩ := Option.bind_eq_some_iff.1 h
  obtain ⟨manager, -, h⟩ := Option.bind_eq_some_iff.1 h
  obtain ⟨transports, htransports, h⟩ := Option.bind_eq_some_iff.1 h
  obtain ⟨connections, hconnections, h⟩ := Option.bind_eq_some_iff.1 h
  cases h
  constructor
  · rcases eq_default_or_read hconnections with rfl | ⟨n, hread⟩
    · exact List.forall_mem_nil _
    · obtain ⟨ns, -, hread⟩ := Option.bind_eq_some_iff.1 hread
      refine forall_of_mapM (fun v k hk => ?_) hread
      obtain ⟨vs, -, rfl⟩ := Option.map_eq_some_iff.1 hk
      rfl
  · rcases eq_default_or_read htransports with rfl | ⟨n, hread⟩
    · exact Named.sorted_insert Named.sorted_empty _ _
    · obtain ⟨ms, -, hread⟩ := Option.bind_eq_some_iff.1 hread
      obtain ⟨entries, -, hread⟩ := Option.bind_eq_some_iff.1 hread
      cases hread
      exact Named.sorted_ofList entries

/-! ## §4. What validation promises. -/

/-- Connections are valid if each names a transport and all ids are different, from one another and
from those seen before. -/
theorem validateConnections_eq_ok_iff (seen : List String) (ks : List Connection) :
    validateConnections seen ks = .ok () ↔
      (∀ k ∈ ks, k.transport ≠ "" ∧ k.id ∉ seen) ∧ (ks.map (·.id)).Nodup := by
  induction ks generalizing seen with
  | nil => simp [validateConnections]
  | cons k rest ih =>
      unfold validateConnections
      split
      · next hnone =>
        have hnone' : k.transport = "" := by simpa using hnone
        exact iff_of_false nofun fun h => (h.1 k List.mem_cons_self).1 hnone'
      · next hsome =>
        have hsome' : k.transport ≠ "" := by simpa using hsome
        split
        · next hseen =>
          have hseen' : k.id ∈ seen := by simpa using hseen
          exact iff_of_false nofun fun h => (h.1 k List.mem_cons_self).2 hseen'
        · next hnew =>
          have hnew' : k.id ∉ seen := by simpa using hnew
          -- an id of the rest is new if it is none of those before and not that of `k`
          rw [ih, List.map_cons, List.nodup_cons, List.forall_mem_cons]
          constructor
          · rintro ⟨hrest, hnodup⟩
            refine ⟨⟨⟨hsome', hnew'⟩, fun j hj => ?_⟩, fun hmem => ?_, hnodup⟩
            · exact ⟨(hrest j hj).1, fun hold => (hrest j hj).2 (List.mem_cons_of_mem _ hold)⟩
            · obtain ⟨j, hj, hid⟩ := List.mem_map.1 hmem
              exact (hrest j hj).2 (hid ▸ List.mem_cons_self)
          · rintro ⟨⟨-, hrest⟩, hother, hnodup⟩
            refine ⟨fun j hj => ⟨(hrest j hj).1, fun hmem => ?_⟩, hnodup⟩
            rcases List.mem_cons.1 hmem with hid | hold
            · exact hother (hid ▸ List.mem_map_of_mem hj)
            · exact (hrest j hj).2 hold

/-- A configuration makes sense only if its connections do. -/
theorem validateConnections_of_validate (h : c.validate = .ok ()) :
    validateConnections [] c.connections = .ok () := by
  unfold validate at h
  obtain ⟨address, -, h⟩ := bind_eq_ok h
  split at h
  · obtain ⟨u, -, h⟩ := bind_eq_ok h
    obtain ⟨u, -, hconnections⟩ := bind_eq_ok h
    exact hconnections
  · cases h

/-- What is read from a text is accepted or not. -/
theorem load_of_read {text : String} (h : (Yaml.Document.ofText? text).bind ofDocument = some c)
    (fresh : String) : load fresh text = c.accept fresh := by
  unfold load
  rw [h]

/-- **What is accepted of a text** is a raw configuration that was prepared. -/
theorem exists_raw_of_load {text : String} (h : load fresh text = .ok c) :
    ∃ raw : Config, raw.IsRaw ∧ c = raw.prepare fresh := by
  unfold load at h
  split at h
  · next raw hread =>
    obtain ⟨d, -, hread⟩ := Option.bind_eq_some_iff.1 hread
    unfold accept at h
    split at h
    · exact ⟨raw, isRaw_of_ofDocument hread, (Except.ok.inj h).symm⟩
    · cases h
  · cases h

/-! ## §5. Documents. -/

open Yaml Yaml.Document

theorem writable_managerConfig : Writable ManagerConfig.record.fields :=
  ⟨by decide +kernel, by decide⟩

theorem writable_transport : Writable Transport.record.fields := ⟨by decide +kernel, by decide⟩

theorem writable_connection : Writable Connection.record.fields := ⟨by decide +kernel, by decide⟩

section
variable {d : Document} {n : Node}

theorem manager_of_isAt {m : ManagerConfig}
    (h : (Value.ofRecord ManagerConfig.record.fields m.toValues).isAt d n = true) :
    (d.record ManagerConfig.record.fields n).map ManagerConfig.ofValues = some m := by
  rw [record_of_isAt writable_managerConfig h, Option.map_some, ManagerConfig.ofValues_toValues]

/-- The order in which transports are written does not count. -/
theorem transports_of_isAt {transports : Named Transport} (hs : transports.Sorted)
    {order : List (String × Transport)} (horder : order.Perm transports.pairs)
    (h : (transportData order).isAt d n = true) :
    (do
      let entries ← (← d.members n).mapM fun (name, v) =>
        (d.record Transport.record.fields v).map fun vs => (name, Transport.ofValues vs)
      return Named.ofList entries) = some transports := by
  obtain ⟨l, hl, hmembers⟩ := Value.members_of_isAt h
  have hentries : l.mapM (fun (name, v) =>
      (d.record Transport.record.fields v).map fun vs => (name, Transport.ofValues vs)) =
        some order := by
    have hall := List.forall₂_map_left_iff.1 (Value.areMembers_iff.1 hmembers)
    refine mapM_eq_some_iff.2 (List.Forall₂.flip (hall.imp fun p m hm => ?_))
    show (d.record Transport.record.fields m.2).map (fun vs => (m.1, Transport.ofValues vs)) = _
    rw [record_of_isAt writable_transport hm.2, Option.map_some, Transport.ofValues_toValues,
      ← hm.1]
  refine Option.bind_eq_some_iff.2 ⟨l, hl, Option.bind_eq_some_iff.2 ⟨order, hentries, ?_⟩⟩
  exact congrArg some (Named.ofList_of_perm hs horder)

theorem connections_of_isAt {ks : List Connection} (h : (connectionData ks).isAt d n = true) :
    (do
      (← d.items n).mapM fun v =>
        (d.record Connection.record.fields v).map Connection.ofValues) =
      some (ks.map fun k => { k with id := "" }) := by
  obtain ⟨ns, hns, hitems⟩ := Value.items_of_isAt h
  have hread : ns.mapM (fun v => (d.record Connection.record.fields v).map Connection.ofValues) =
      some (ks.map fun k => { k with id := "" }) := by
    have hall := List.forall₂_map_left_iff.1 (Value.areItems_iff.1 hitems)
    refine mapM_eq_some_iff.2
      (List.forall₂_map_right_iff.2 (List.Forall₂.flip (hall.imp fun k n hn => ?_)))
    show (d.record Connection.record.fields n).map Connection.ofValues = _
    rw [record_of_isAt writable_connection hn, Option.map_some, Connection.ofValues_toValues]
  exact Option.bind_eq_some_iff.2 ⟨ns, hns, hread⟩

end

/-- **What is saved is read back**, all but the ids of the connections. -/
theorem ofDocument_of_isAt {d : Document} (hs : c.transports.Sorted)
    {order : List (String × Transport)} (horder : order.Perm c.transports.pairs)
    (h : (c.data order).isAt d d.root = true) : ofDocument d = some c.stored := by
  obtain ⟨l, hl, hmembers⟩ := Value.members_of_isAt h
  have hnames : ((c.dataMembers order).map (·.1)).Nodup := by
    show ["controller-bind-addr", "client-auth-key", "env-namespace", "log-level", "manager",
      "transports", "connections"].Nodup
    decide +kernel
  have hfield {α : Type} {name : String} {v : Value} (hmem : (name, v) ∈ c.dataMembers order)
      {read : Node → Option α} {x : α} (hread : ∀ n, v.isAt d n = true → read n = some x)
      (default : α) : member l (· == name) (some default) read = some x :=
    member_of_areMembers hmembers hnames hmem hread (some default)
  have hmem {m : String × Value} (k : Nat) (hk : (c.dataMembers order)[k]? = some m) :
      m ∈ c.dataMembers order := List.mem_of_getElem? hk
  unfold ofDocument
  refine Option.bind_eq_some_iff.2 ⟨l, hl, ?_⟩
  refine Option.bind_eq_some_iff.2 ⟨_, hfield (hmem 0 rfl) (fun n => text_of_isAt) _, ?_⟩
  refine Option.bind_eq_some_iff.2 ⟨_, hfield (hmem 1 rfl) (fun n => maybeText_of_isAt) _, ?_⟩
  refine Option.bind_eq_some_iff.2 ⟨_, hfield (hmem 2 rfl) (fun n => text_of_isAt) _, ?_⟩
  refine Option.bind_eq_some_iff.2 ⟨_, hfield (hmem 3 rfl) (fun n => maybeText_of_isAt) _, ?_⟩
  refine Option.bind_eq_some_iff.2 ⟨_, hfield (hmem 4 rfl) (fun n => manager_of_isAt) _, ?_⟩
  refine Option.bind_eq_some_iff.2
    ⟨_, hfield (hmem 5 rfl) (fun n => transports_of_isAt hs horder) _, ?_⟩
  exact Option.bind_eq_some_iff.2 ⟨_, hfield (hmem 6 rfl) (fun n => connections_of_isAt) _, rfl⟩

/-! ## §6. Storage. -/

/-- **An accepted configuration is the same after it was stored.**  Preparing it again changes
nothing, it makes sense, and its connections have different ids.  There is a secret, and every
entry that is registered under a name has one.  Without the ids, prepared and validated again, it
is the same configuration; so if the writer of its document can be relied on, it is read back from
the text and from the file to which it was saved, with the secret that was generated. -/
theorem persistent_of_load (draws : Nat → Fin keySymbols.length) {text : String} {c : Config}
    (h : load (generatedKey draws) text = .ok c) :
    (∀ fresh, c.prepare fresh = c) ∧ c.validate = .ok () ∧
      (∀ k ∈ c.connections, k.id ≠ "") ∧ (c.connections.map (·.id)).Nodup ∧
      c.secret ≠ "" ∧ (∀ p ∈ c.transports.pairs, p.1 ≠ "" → p.2.name ≠ "") ∧
      (∀ fresh, c.reload fresh = .ok c) ∧
      ∀ (write : Value → String) (order : List (String × Transport)),
        order.Perm c.transports.pairs → (c.data order).IsReadBack (write (c.data order)) →
        (∀ fresh, load fresh (write (c.data order)) = .ok c) ∧
        ∀ (s : CommandLine.Setting) (path : String), s.file path = .ok (c.saved write order) →
          CommandLine.load s path = .ok c := by
  obtain ⟨raw, hraw, rfl⟩ := exists_raw_of_load h
  have hkey := generatedKey_ne draws
  have hvalid := validate_of_load h
  have hids := (validateConnections_eq_ok_iff [] _).1 (validateConnections_of_validate hvalid)
  have hreload (fresh : String) :
      (raw.prepare (generatedKey draws)).reload fresh = .ok (raw.prepare (generatedKey draws)) := by
    unfold reload accept
    rw [hraw.prepare_stored_prepare hkey fresh, hvalid]
  refine ⟨prepare_prepare raw hkey, hvalid, fun k hk => ?_, hids.2, secret_prepare_ne raw hkey,
    fun p hp hname => ?_, hreload, fun write order horder hwrite => ?_⟩
  · obtain ⟨j, -, rfl⟩ := List.mem_map.1 hk
    exact j.id_withId_ne
  · obtain ⟨q, -, rfl⟩ := List.mem_map.1 hp
    exact q.2.name_named_ne hname
  · obtain ⟨d, hd, hat⟩ := hwrite
    have hread := ofDocument_of_isAt (hraw.sorted_prepare _) horder hat
    have hdocument : (Document.ofText? (write ((raw.prepare (generatedKey draws)).data order))).bind
        ofDocument = some (raw.prepare (generatedKey draws)).stored := by
      rw [hd, Option.bind_some, hread]
    have hload (fresh : String) :
        load fresh (write ((raw.prepare (generatedKey draws)).data order)) =
          .ok (raw.prepare (generatedKey draws)) :=
      (load_of_read hdocument fresh).trans (hreload fresh)
    refine ⟨hload, fun s path hfile => ?_⟩
    unfold CommandLine.load saved at *
    rw [hfile]
    dsimp only
    rw [Text.Utf8.textOf_bytesOf]
    dsimp only
    rw [hload]

/-- A text of lines. -/
def ofLines (lines : List String) : String :=
  String.ofList (lines.flatMap fun line => line.toList ++ ['\n'])

/-- A text that tells no secret, with names in short, an entry under no name, and a connection over
a transport that is not registered. -/
def sparseText : String := ofLines [
  "client-auth-key: null",
  "log-level: ~",
  "transports:",
  "  '': \x7bbundled: true\x7d",
  "  obfs4: \x7bcommand: '', args: ['null']\x7d",
  "connections:",
  "  - \x7bt: obfs4, s: it's, a: a:1\x7d",
  "  - \x7btransport: gone, protected: true\x7d"]

/-- What is read from it. -/
def sparseRead : Config :=
  { Config.standard with
    logLevel := none
    transports := (Named.empty.insert "" ⟨"", true, none, [], false⟩).insert "obfs4"
      ⟨"", false, some "", ["null"], false⟩
    connections := [⟨"obfs4", "it's", "a:1", false, false, ""⟩, ⟨"gone", "", "", false, true, ""⟩] }

/-- Its configuration, when the first symbol is drawn each time. -/
def sparse : Config :=
  { Config.standard with
    authKey := some "AAAAAAAAAAAAAAAAAAAAAAAAAAAAAAAA"
    logLevel := none
    transports := (Named.empty.insert "" ⟨"", true, none, [], false⟩).insert "obfs4"
      ⟨"obfs4", false, some "", ["null"], false⟩
    connections := [.make "obfs4" "it's" "a:1",
      { Connection.make "gone" "" "" with undeletable := true }] }

/-- Its document as it is laid out, with the transports in another order. -/
def sparseDocument : String := ofLines [
  "controller-bind-addr: 127.0.0.1:8899",
  "client-auth-key: AAAAAAAAAAAAAAAAAAAAAAAAAAAAAAAA",
  "env-namespace: TSUP",
  "log-level: null",
  "manager:",
  "  reconnect-delay-ms: 4000",
  "  reverify-interval-ms: 10000",
  "  probe-url: http://www.gstatic.com/generate_204",
  "  probe-timeout-ms: 10000",
  "  history-limit: 20",
  "  proxy-bind-addr: 127.0.0.1:0",
  "  expected-protocol: socks5",
  "  stop-grace-ms: 5000",
  "  verbose: false",
  "transports:",
  "  obfs4:",
  "    name: obfs4",
  "    bundled: false",
  "    command: ''",
  "    args:",
  "    - 'null'",
  "    torpt: false",
  "  '':",
  "    name: ''",
  "    bundled: true",
  "    command: null",
  "    args: []",
  "    torpt: false",
  "connections:",
  "- transport: obfs4",
  "  secret: it's",
  "  addr: a:1",
  "  disabled: false",
  "  protected: false",
  "- transport: gone",
  "  secret: ''",
  "  addr: ''",
  "  disabled: false",
  "  protected: true"]

/-- The first symbol, drawn each time. -/
def firstSymbols : Nat → Fin keySymbols.length := fun _ => ⟨0, by decide⟩

theorem read_sparse : (Document.ofText? sparseText).bind ofDocument = some sparseRead := by
  unfold Document.ofText? sparseText ofLines
  rw [String.toList_ofList]
  decide +kernel

theorem load_sparse : load (generatedKey firstSymbols) sparseText = .ok sparse :=
  (load_of_read read_sparse _).trans (by decide +kernel)

theorem isReadBack_sparse :
    (sparse.data sparse.transports.pairs.reverse).IsReadBack sparseDocument := by
  rw [Value.isReadBack_iff]
  unfold Document.ofText? sparseDocument ofLines
  rw [String.toList_ofList]
  decide +kernel

/-- Files that all hold that document, where another secret would be drawn. -/
def sparseSetting : CommandLine.Setting :=
  ⟨fun _ => .ok (sparse.saved (fun _ => sparseDocument) sparse.transports.pairs.reverse), [],
    "other", .isolated 1⟩

/-- It is read back from its file. -/
theorem persistent_of_load_sparse :
    load (generatedKey firstSymbols) sparseText = .ok sparse ∧
      sparse.transports.pairs.reverse.Perm sparse.transports.pairs ∧
      (sparse.data sparse.transports.pairs.reverse).IsReadBack sparseDocument ∧
      sparseSetting.file "config.yaml" =
        .ok (sparse.saved (fun _ => sparseDocument) sparse.transports.pairs.reverse) ∧
      sparse.prepare "other" = sparse ∧ sparse.reload "other" = .ok sparse ∧
      CommandLine.load sparseSetting "config.yaml" = .ok sparse := by
  have horder : sparse.transports.pairs.reverse.Perm sparse.transports.pairs :=
    List.reverse_perm _
  obtain ⟨hprepare, -, -, -, -, -, hreload, hstored⟩ :=
    persistent_of_load firstSymbols load_sparse
  exact ⟨load_sparse, horder, isReadBack_sparse, rfl, hprepare "other", hreload "other",
    (hstored (fun _ => sparseDocument) _ horder isReadBack_sparse).2 sparseSetting "config.yaml"
      rfl⟩

end Config

end Failover
