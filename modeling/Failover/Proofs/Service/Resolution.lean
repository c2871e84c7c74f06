/-
  Failover.Proofs.Service.Resolution
  ──────────────────────────────────
  **Where the ids of methods lead.**  The id of a method is made of the id
  of its service and of its name:

      svc-1/m      the method m of the service svc-1

  There is no slash in the id of a service, so it leads to one service of
  a registry, and there to the first method of the name.  A process names
  its endpoints as it likes, though, and may use one name for several of
  them: then two methods have the same id, and the later one is not found.

  Main statement: `methods_resolve_iff`.
-/
import Mathlib.Data.List.Nodup
import Failover.Proofs.Connection.Identity
import Failover.Proofs.Service.Catalogue

namespace Failover.Service

open Connection (Marks)

/-! ## §1. Ids of methods. -/

/-- Where no slash is in a text, the next one marks it. -/
theorem marks_slash {id : String} (h : '/' ∉ id.toList) : Marks "/".toList id.toList := by
  rintro ⟨before, behind, heq⟩
  refine h ?_
  rw [show "/".toList = ['/'] from rfl, List.dropLast_singleton, List.append_nil] at heq
  rw [← heq]
  simp

/-- **The id of a method can be taken apart** in one way. -/
theorem methodId_inj {id id' name name' : String} (hid : '/' ∉ id.toList)
    (hid' : '/' ∉ id'.toList) (h : id ++ "/" ++ name = id' ++ "/" ++ name') :
    id = id' ∧ name = name' := by
  have hchars := congrArg String.toList h
  simp only [String.toList_append, List.append_assoc] at hchars
  obtain ⟨heq, hname⟩ := (marks_slash hid).append_inj (marks_slash hid') hchars
  exact ⟨String.toList_inj.1 heq, String.toList_inj.1 hname⟩

/-! ## §2. A registry. -/

namespace Fleet

variable {f : Fleet} {registry : String} {s : Service}

theorem allMethods_eq (f : Fleet) (registry : String) :
    f.allMethods registry = (f.registered registry).flatMap (·.methods) :=
  List.flatMap_map ..

/-- Who is registered is listed under its own id. -/
theorem Catalogued.listed_registered (h : f.Catalogued) (hs : s ∈ f.registered registry) :
    s.Listed s.id := by
  obtain ⟨⟨id, _⟩, hp, rfl⟩ := List.mem_map.1 (List.mem_filter.1 hs).1
  have hl := h.listed id _ (Named.get?_of_mem_pairs h.sorted hp)
  exact hl.named.symm ▸ hl

/-- **No two services of a registry** have the same id. -/
theorem Catalogued.nodup_registered (h : f.Catalogued) (registry : String) :
    ((f.registered registry).map (·.id)).Nodup := by
  have hids : f.services.values.map (·.id) = f.services.keys := by
    unfold Named.values Named.keys
    rw [List.map_map]
    exact List.map_congr_left fun p hp =>
      (h.listed p.1 p.2 (Named.get?_of_mem_pairs h.sorted hp)).named
  have hkeys : f.services.keys.Nodup :=
    List.pairwise_map.2 (h.sorted.imp fun hlt => String.ne_of_lt hlt)
  exact (List.filter_sublist.map _).nodup (hids ▸ hkeys)

/-- Within one service the names are as good as the ids. -/
theorem Catalogued.nodup_own_ids_iff (h : f.Catalogued) (hs : s ∈ f.registered registry) :
    (s.methods.map (·.id)).Nodup ↔ (s.methods.map (·.name)).Nodup := by
  have hown : s.methods.map (·.id) = (s.methods.map (·.name)).map (s.id ++ "/" ++ ·) := by
    rw [List.map_map]
    exact List.map_congr_left fun m hm => (h.listed_registered hs).id_eq hm
  rw [hown]
  exact List.nodup_map_iff fun _ _ heq => (String.append_right_inj _).1 heq

/-- Services with other ids have no method with an id of this one. -/
theorem find?_methods_of_ne {l : List Service} {id : String} (hid : '/' ∉ id.toList)
    (hl : ∀ t ∈ l, t.Listed t.id ∧ '/' ∉ t.id.toList ∧ t.id ≠ id) (name : String) :
    (l.flatMap (·.methods)).find? (·.id == id ++ "/" ++ name) = none := by
  refine List.find?_eq_none.2 fun m hm heq => ?_
  obtain ⟨t, ht, hmt⟩ := List.mem_flatMap.1 hm
  obtain ⟨hlisted, hplain, hne⟩ := hl t ht
  rw [hlisted.id_eq hmt, beq_iff_eq] at heq
  exact hne (methodId_inj hplain hid heq).1

section Resolving

variable (h : f.Catalogued) (hids : ∀ s ∈ f.registered registry, '/' ∉ s.id.toList)
include h hids

/-- **An id leads to the first method of the name** that its service lists. -/
theorem Catalogued.method?_eq (hs : s ∈ f.registered registry) (name : String) :
    f.method? registry (s.id ++ "/" ++ name) = s.methods.find? (·.name == name) := by
  obtain ⟨before, behind, heq⟩ := List.append_of_mem hs
  have hnodup := h.nodup_registered registry
  rw [heq, List.map_append, List.map_cons, List.nodup_middle, List.nodup_cons] at hnodup
  have hothers : ∀ t ∈ before ++ behind,
      t.Listed t.id ∧ '/' ∉ t.id.toList ∧ t.id ≠ s.id := by
    intro t ht
    have hmem : t ∈ f.registered registry := by
      rw [heq]
      simp only [List.mem_append, List.mem_cons] at ht ⊢
      tauto
    refine ⟨h.listed_registered hmem, hids t hmem, fun hid => hnodup.1 ?_⟩
    rw [← List.map_append, ← hid]
    exact List.mem_map_of_mem ht
  have hbefore := find?_methods_of_ne (hids s hs)
    (fun t ht => hothers t (List.mem_append_left _ ht)) name
  have hbehind := find?_methods_of_ne (hids s hs)
    (fun t ht => hothers t (List.mem_append_right _ ht)) name
  have hown : s.methods.find? (·.id == s.id ++ "/" ++ name) =
      s.methods.find? (·.name == name) := by
    rw [← List.head?_filter, ← List.head?_filter]
    refine congrArg List.head? (List.filter_congr fun m hm => ?_)
    rw [(h.listed_registered hs).id_eq hm, Bool.eq_iff_iff, beq_iff_eq, beq_iff_eq]
    exact String.append_right_inj _
  -- the services before and behind it have no method with such an id
  unfold method?
  rw [allMethods_eq, heq, List.flatMap_append, List.flatMap_cons, List.find?_append,
    List.find?_append, hbefore, hbehind, hown, Option.none_or, Option.or_none]

/-- The ids differ just if the names that each service lists do. -/
theorem Catalogued.nodup_ids_iff : ((f.allMethods registry).map (·.id)).Nodup ↔
    ∀ s ∈ f.registered registry, (s.methods.map (·.name)).Nodup := by
  have hapart : (f.registered registry).Pairwise
      (Function.onFun List.Disjoint fun s => s.methods.map (·.id)) := by
    refine (List.pairwise_map.1 (h.nodup_registered registry)).imp_of_mem
      fun {s t} hs ht hne => ?_
    intro x hx hx'
    obtain ⟨m, hm, rfl⟩ := List.mem_map.1 hx
    obtain ⟨m', hm', heq⟩ := List.mem_map.1 hx'
    rw [(h.listed_registered hs).id_eq hm, (h.listed_registered ht).id_eq hm'] at heq
    exact hne (methodId_inj (hids t ht) (hids s hs) heq).1.symm
  rw [allMethods_eq, List.map_flatMap, List.nodup_flatMap, and_iff_left hapart]
  exact forall₂_congr fun s hs => h.nodup_own_ids_iff hs

/-- **Every method is found by its id** just if no service lists two under the same name. -/
theorem Catalogued.resolves_iff :
    (∀ m ∈ f.allMethods registry, f.method? registry m.id = some m) ↔
      ∀ s ∈ f.registered registry, ∀ m ∈ s.methods, ∀ m' ∈ s.methods,
        m.name = m'.name → m = m' := by
  have hmem : ∀ s ∈ f.registered registry, ∀ m ∈ s.methods, m ∈ f.allMethods registry := by
    intro s hs m hm
    rw [allMethods_eq]
    exact List.mem_flatMap.2 ⟨s, hs, hm⟩
  have hid : ∀ s ∈ f.registered registry, ∀ m ∈ s.methods, m.id = s.id ++ "/" ++ m.name :=
    fun s hs m hm => (h.listed_registered hs).id_eq hm
  constructor
  · intro hfound s hs m hm m' hm' hname
    have heq : m.id = m'.id := by rw [hid s hs m hm, hid s hs m' hm', hname]
    have hsame := hfound m (hmem s hs m hm)
    rw [heq, hfound m' (hmem s hs m' hm')] at hsame
    exact (Option.some.inj hsame).symm
  · intro hsame m hm
    rw [allMethods_eq] at hm
    obtain ⟨s, hs, hm⟩ := List.mem_flatMap.1 hm
    rw [hid s hs m hm, h.method?_eq hids hs]
    cases hfind : s.methods.find? (·.name == m.name) with
    | none => exact absurd (beq_self_eq_true m.name) (List.find?_eq_none.1 hfind m hm)
    | some m' =>
        have hname := List.find?_some hfind
        rw [beq_iff_eq] at hname
        exact congrArg some (hsame s hs m' (List.mem_of_find?_eq_some hfind) m hm hname)

end Resolving

end Fleet

/-! ## §3. All registries. -/

/-- **Which methods resolve.**  Whatever was done to the services and whatever happened, each service
of a registry lists what a finished handshake has named, and an id leads to the first method of its
service with the name.  So the ids differ just if no process named two endpoints alike, and each
method is found just if those that a process named alike are the same. -/
theorem methods_resolve_iff (moves : List Attendance.Move) (registry : String)
    (hids : ∀ s ∈ (Attendance.opening.run moves).fleet.registered registry,
      '/' ∉ s.id.toList) :
    let f := (Attendance.opening.run moves).fleet
    (∀ s ∈ f.registered registry, s.ListsHandshake ∧
      ∀ name, f.method? registry (s.id ++ "/" ++ name) = s.methods.find? (·.name == name)) ∧
    (((f.allMethods registry).map (·.id)).Nodup ↔
      ∀ s ∈ f.registered registry, (s.methods.map (·.name)).Nodup) ∧
    ((∀ m ∈ f.allMethods registry, f.method? registry m.id = some m) ↔
      ∀ s ∈ f.registered registry, ∀ m ∈ s.methods, ∀ m' ∈ s.methods,
        m.name = m'.name → m = m') := by
  have h := Attendance.catalogued_run moves
  exact ⟨fun s hs => ⟨(h.listed_registered hs).lists, h.method?_eq hids hs⟩,
    h.nodup_ids_iff hids, h.resolves_iff hids⟩

/-- A new service is started, and its process introduces itself with this text. -/
def introduce (text id : String) : List Attendance.Move :=
  let host : Host := ⟨[], fun _ _ _ => .ok [.write (Text.Utf8.bytesOf text), .untilInputEnds]⟩
  [.create "home" id "x" .self .standard, .start id] ++
    [Action.owner id, .child id, .owner id, .owner id, .owner id].map (.act host)

/-- Two processes that name an endpoint alike, and one of them another one as well. -/
def apart : List Attendance.Move :=
  introduce "VERSION 1.0\nEXPOSE m socks5 127.0.0.1:1\nDONE\n" "svc-0" ++
    introduce "VERSION 1.0\nEXPOSE m/n http 127.0.0.1:2\nEXPOSE m socks5 127.0.0.1:3\nDONE\n" "svc-1"

theorem methods_resolve_iff_apart :
    let f := (Attendance.opening.run apart).fleet
    (∀ s ∈ f.registered "home", '/' ∉ s.id.toList) ∧
      (f.allMethods "home").map (·.id) = ["svc-0/m", "svc-1/m/n", "svc-1/m"] ∧
      ((f.allMethods "home").map (·.id)).Nodup ∧
      ∀ m ∈ f.allMethods "home", f.method? "home" m.id = some m := by
  have hrun : let f := (Attendance.opening.run apart).fleet
      (f.allMethods "home").map (·.id) = ["svc-0/m", "svc-1/m/n", "svc-1/m"] ∧
        ∀ s ∈ f.registered "home", '/' ∉ s.id.toList ∧ (s.methods.map (·.name)).Nodup ∧
          ∀ m ∈ s.methods, ∀ m' ∈ s.methods, m.name = m'.name → m = m' := by
    decide +kernel
  obtain ⟨hlisted, hnames⟩ := hrun
  have hids := fun s hs => (hnames s hs).1
  obtain ⟨-, hdistinct, hfound⟩ := methods_resolve_iff apart "home" hids
  exact ⟨hids, hlisted, hdistinct.2 fun s hs => (hnames s hs).2.1,
    hfound.2 fun s hs => (hnames s hs).2.2⟩

/-- **Not all methods resolve**: a process that names two endpoints alike is accepted, and the second
one has the id of the first and is not found. -/
theorem not_methods_resolve :
    (¬∀ (moves : List Attendance.Move) (registry : String),
      let f := (Attendance.opening.run moves).fleet
      ((f.registered registry).map (·.id)).Nodup →
      (∀ s ∈ f.registered registry, '/' ∉ s.id.toList) →
        ((f.allMethods registry).map (·.id)).Nodup) ∧
      ¬∀ (moves : List Attendance.Move) (registry : String),
        let f := (Attendance.opening.run moves).fleet
        ((f.registered registry).map (·.id)).Nodup →
        (∀ s ∈ f.registered registry, '/' ∉ s.id.toList) →
          ∀ m ∈ f.allMethods registry, f.method? registry m.id = some m := by
  let moves := introduce
    "VERSION 1.0\nEXPOSE m socks5 127.0.0.1:1\nEXPOSE m socks5 127.0.0.1:2\nDONE\n" "svc-0"
  have hnodup := (Attendance.catalogued_run moves).nodup_registered "home"
  have hrun : let f := (Attendance.opening.run moves).fleet
      (∀ s ∈ f.registered "home", '/' ∉ s.id.toList) ∧
        ¬((f.allMethods "home").map (·.id)).Nodup ∧
        ¬∀ m ∈ f.allMethods "home", f.method? "home" m.id = some m := by
    decide +kernel
  obtain ⟨hids, hsame, hlost⟩ := hrun
  exact ⟨fun h => hsame (h moves "home" hnodup hids), fun h => hlost (h moves "home" hnodup hids)⟩

end Failover.Service
