import ClusterInfra.Proofs.Scope.Edits
import ClusterInfra.Proofs.Store.Persist
/-!
Clients that share one stored object.

Each client loads the object into a scope of its own, stages changes there and persists them, in two
writes: the status, then finalizer and spec. The steps of all clients interleave in any order, also
between the two writes of one client. The history tells what came of each write, the newest first.
-/

namespace ClusterInfra

/-- Where a client is with the object. -/
inductive Client
  /-- It has not loaded the object. -/
  | away
  /-- It stages changes in a scope. -/
  | working (scope : Scope)
  /-- It has persisted the status, as this version, and finalizer and spec are to follow. -/
  | halfway (scope : Scope) (version : Option String)

namespace Client

/-- The next write of a client that has something to persist: the version that it goes by, and the
patch if one is needed. -/
def pending? : Client → Option (Option String × Option Json.Patch)
  | away => none
  | working scope =>
    if scope.hasChanges then
      let version := scope.saved.metadata.resourceVersion
      some (version, Changes.statusPatch? scope.saved scope.object version)
    else none
  | halfway scope version => some (version, Changes.objectPatch? scope.saved scope.object version)

/-- The client after its write came through. -/
def advance (version : Option String) : Client → Client
  | away => away
  | working scope => halfway scope version
  | halfway scope _ => working (scope.rebased version)

/-- The client after its write was rejected. -/
def retreat : Client → Client
  | away => away
  | working scope => working scope
  | halfway scope _ => working scope

/-- The scope that a client works in. -/
def scope? : Client → Option Scope
  | away => none
  | working scope => some scope
  | halfway scope _ => some scope

@[simp] theorem scope?_retreat (client : Client) : client.retreat.scope? = client.scope? := by
  cases client <;> rfl

/-- A write leaves the object of the scope as it was staged, but for its version. -/
theorem key_of_advance {client : Client} {version : Option String} {scope : Scope}
    (h : (client.advance version).scope? = some scope) :
    ∃ before, client.scope? = some before ∧ scope.object.key = before.object.key := by
  cases client with
  | away => cases h
  | working before => exact ⟨scope, h, rfl⟩
  | halfway before _ =>
    cases h
    exact ⟨before, rfl, rfl⟩

/-- The versions that writes of a client may go by. -/
def versions : Client → List (Option String)
  | away => []
  | working scope => [scope.saved.metadata.resourceVersion]
  | halfway scope version => [scope.saved.metadata.resourceVersion, version]

theorem version_mem {client : Client} {version : Option String} {patch? : Option Json.Patch}
    (h : client.pending? = some (version, patch?)) : version ∈ client.versions := by
  cases client with
  | away => cases h
  | working scope =>
    rw [pending?] at h
    split at h
    · cases h
      exact List.mem_cons_self
    · cases h
  | halfway scope _ =>
    cases h
    exact List.mem_cons_of_mem _ List.mem_cons_self

theorem mem_versions_advance {client : Client} {version other : Option String}
    (h : other ∈ (client.advance version).versions) :
    other = version ∨ other ∈ client.versions := by
  cases client with
  | away => exact .inr h
  | working scope =>
    rcases List.mem_cons.1 h with rfl | h
    · exact .inr List.mem_cons_self
    · exact .inl (List.mem_singleton.1 h)
  | halfway scope _ => exact .inl (List.mem_singleton.1 h)

theorem mem_versions_retreat {client : Client} {version : Option String}
    (h : version ∈ client.retreat.versions) : version ∈ client.versions := by
  cases client with
  | away => exact h
  | working scope => exact h
  | halfway scope _ => exact List.mem_cons.2 (.inl (List.mem_singleton.1 h))

/-- A write that is applied found the version that it goes by, and makes the next one. -/
theorem follows_of_pending {client : Client} {version : Option String} {patch : Json.Patch}
    {object updated : AwsCluster} (hpending : client.pending? = some (version, some patch))
    (h : object.patched patch = .ok updated) :
    Changes.Expects version object ∧ object.Follows updated := by
  cases client with
  | away => cases hpending
  | working scope =>
    rw [pending?] at hpending
    split at hpending
    · rw [Option.some.injEq, Prod.mk.injEq] at hpending
      obtain ⟨rfl, hpatch⟩ := hpending
      obtain ⟨hexpects, hfollows, -⟩ := Changes.follows_of_statusPatch hpatch h
      exact ⟨hexpects, hfollows⟩
    · cases hpending
  | halfway scope _ =>
    rw [pending?, Option.some.injEq, Prod.mk.injEq] at hpending
    obtain ⟨rfl, hpatch⟩ := hpending
    obtain ⟨hexpects, hfollows, -⟩ := Changes.follows_of_objectPatch hpatch h
    exact ⟨hexpects, hfollows⟩

end Client

/-- What a client did to the object. -/
inductive Entry (ι : Type)
  | loaded (client : ι)
  | applied (client : ι)
  | rejected (client : ι)
  deriving DecidableEq

/-- A stored object and its clients. -/
structure Sharing (ι : Type) where
  key : ObjectKey
  store : Store
  clients : ι → Client
  /-- What the clients did so far, the newest first. -/
  history : List (Entry ι)

/-- A step of a client, or of the server that removes an object which nothing holds any more. -/
inductive Sharing.Act (ι : Type)
  | load (client : ι) (owner : Cluster)
  | edit (client : ι) (change : Scope.Edit)
  | write (client : ι)
  | collect

namespace Sharing

variable {ι : Type}

/-- The object is put into a store, and nobody has loaded it yet. -/
def start (store : Store) (object : AwsCluster) : Sharing ι where
  key := object.key
  store := store.insertAwsCluster object
  clients _ := .away
  history := []

/-- Writes down what came of a write, if there was one. -/
def note (s : Sharing ι) (patch? : Option Json.Patch) (entry : Entry ι) : Sharing ι :=
  if patch?.isSome then { s with history := entry :: s.history } else s

@[simp] theorem store_note (s : Sharing ι) (patch? : Option Json.Patch) (entry : Entry ι) :
    (s.note patch? entry).store = s.store := by
  cases patch? <;> rfl

@[simp] theorem clients_note (s : Sharing ι) (patch? : Option Json.Patch) (entry : Entry ι) :
    (s.note patch? entry).clients = s.clients := by
  cases patch? <;> rfl

@[simp] theorem key_note (s : Sharing ι) (patch? : Option Json.Patch) (entry : Entry ι) :
    (s.note patch? entry).key = s.key := by
  cases patch? <;> rfl

/-- The object is stored under its key, and every client works on an object of this key. -/
structure Keyed (s : Sharing ι) : Prop where
  stored : ∀ object, s.store.awsClusters.get? s.key = some object → object.key = s.key
  clients : ∀ c scope, (s.clients c).scope? = some scope → scope.object.key = s.key

theorem keyed_start (store : Store) (object : AwsCluster) :
    (start store object : Sharing ι).Keyed where
  stored := by
    intro found hfound
    cases (Table.get?_insert_self store.awsClusters object.key _).symm.trans hfound
    rfl
  clients := fun _ _ h => nomatch h

variable [DecidableEq ι]

/-- Moves a client. -/
def move (s : Sharing ι) (c : ι) (client : Client) : Sharing ι :=
  { s with clients := fun other => if other = c then client else s.clients other }

/-- Makes the next write of a client, on the object as it is stored now. -/
def write (s : Sharing ι) (c : ι) : Sharing ι :=
  match (s.clients c).pending? with
  | none => s
  | some (version, patch?) =>
    match s.store.awsClusters.get? s.key with
    | none => (s.move c (s.clients c).retreat).note patch? (.rejected c)
    | some object =>
      match s.store.write s.key object version patch? with
      | .error _ => (s.move c (s.clients c).retreat).note patch? (.rejected c)
      | .ok (store, _, version) =>
        ({ s with store }.move c ((s.clients c).advance version)).note patch? (.applied c)

/-- Takes a step. -/
def step (s : Sharing ι) : Act ι → Sharing ι
  | .load c owner =>
    match (s.store.awsClusters.get? s.key).map (Scope.of owner) with
    | some (.ok scope) => { s.move c (.working scope) with history := .loaded c :: s.history }
    | _ => s
  | .edit c change =>
    match s.clients c with
    | .working scope => s.move c (.working (scope.edit change))
    | _ => s
  | .write c => s.write c
  | .collect =>
    match s.store.awsClusters.get? s.key with
    | none => s
    | some object => { s with store := s.store.collect s.key object }

/-! ### What a step does -/

theorem clients_move_self (s : Sharing ι) (c : ι) (client : Client) :
    (s.move c client).clients c = client := if_pos rfl

theorem clients_move_of_ne (s : Sharing ι) {c other : ι} (h : other ≠ c) (client : Client) :
    (s.move c client).clients other = s.clients other := if_neg h

/-- What comes of the next write of a client. -/
inductive Wrote (s : Sharing ι) (c : ι) : Sharing ι → Prop
  /-- The client has nothing to persist. -/
  | idle (h : (s.clients c).pending? = none) : Wrote s c s
  /-- Nothing needs to be written in this part of the object. -/
  | skipped {version : Option String} (h : (s.clients c).pending? = some (version, none))
      {client : Client} (hclient : client = (s.clients c).advance version ∨
        client = (s.clients c).retreat) :
      Wrote s c (s.move c client)
  | rejected {version : Option String} {patch : Json.Patch}
      (h : (s.clients c).pending? = some (version, some patch)) :
      Wrote s c { s.move c (s.clients c).retreat with history := .rejected c :: s.history }
  | applied {version : Option String} {patch : Json.Patch} {object updated : AwsCluster}
      (h : (s.clients c).pending? = some (version, some patch))
      (hstored : s.store.awsClusters.get? s.key = some object)
      (hpatched : object.patched patch = .ok updated) :
      Wrote s c { s.move c ((s.clients c).advance updated.metadata.resourceVersion) with
        store := { s.store with
          awsClusters := s.store.awsClusters.insert s.key updated, log := s.store.log ++ [patch] }
        history := .applied c :: s.history }

theorem wrote_write (s : Sharing ι) (c : ι) : s.Wrote c (s.write c) := by
  unfold write
  split
  next hpending => exact .idle hpending
  next version patch? hpending =>
    split
    next hmissing =>
      cases patch? with
      | none => exact .skipped hpending (.inr rfl)
      | some patch => exact .rejected hpending
    next object hstored =>
      split
      next e hwrite =>
        cases patch? with
        | none => cases hwrite
        | some patch => exact .rejected hpending
      next store updated version' hwrite =>
        obtain ⟨hwrites, rfl⟩ := Store.writes_of_write hstored hwrite
        cases hwrites with
        | nothing =>
          rw [Table.insert_eq_self hstored, Option.toList_none, List.append_nil]
          exact .skipped hpending (.inl rfl)
        | applied hpatched => exact .applied hpending hstored hpatched

/-! ### Persisting without interruption -/

section Persisting

variable {s : Sharing ι} {c : ι} {scope : Scope} {object updated : AwsCluster} {store : Store}
  {version version' : Option String} {patch? : Option Json.Patch}

theorem write_of_ok (hpending : (s.clients c).pending? = some (version, patch?))
    (hstored : s.store.awsClusters.get? s.key = some object)
    (hwrite : s.store.write s.key object version patch? = .ok (store, updated, version')) :
    (s.write c).store = store ∧ (s.write c).key = s.key ∧
      (s.write c).clients c = (s.clients c).advance version' ∧
      store.awsClusters.get? s.key = some updated := by
  obtain ⟨-, hinsert⟩ := Store.writes_of_write hstored hwrite
  refine ⟨?_, ?_, ?_, ?_⟩
  · simp only [write, hpending, hstored, hwrite, store_note]
    rfl
  · simp only [write, hpending, hstored, hwrite, key_note]
    rfl
  · simp only [write, hpending, hstored, hwrite, clients_note, clients_move_self]
  · rw [hinsert]
    exact Table.get?_insert_self ..

theorem write_of_error {e : PatchError}
    (hpending : (s.clients c).pending? = some (version, patch?))
    (hstored : s.store.awsClusters.get? s.key = some object)
    (hwrite : s.store.write s.key object version patch? = .error e) :
    (s.write c).store = s.store ∧ (s.write c).clients c = (s.clients c).retreat := by
  refine ⟨?_, ?_⟩
  · simp only [write, hpending, hstored, hwrite, store_note]
    rfl
  · simp only [write, hpending, hstored, hwrite, clients_note, clients_move_self]

/-- The writes of a client that are not interrupted are those of persisting its scope: they lead to
the same store, and to the rebased scope if they come through and to the scope as it was if not. -/
theorem persist_eq (hworking : s.clients c = .working scope) (hkey : scope.object.key = s.key)
    (hchanges : scope.hasChanges = true) :
    match s.store.persist scope.saved scope.object with
    | (.ok version, store) =>
      (((s.write c).write c).step .collect).store = store ∧
        ((s.write c).write c).clients c = .working (scope.rebased version)
    | (.error _, store) =>
      ((s.write c).store = store ∧ (s.write c).clients c = .working scope) ∨
        (((s.write c).write c).store = store ∧
          ((s.write c).write c).clients c = .working scope) := by
  have hpending : (s.clients c).pending? = some (scope.saved.metadata.resourceVersion,
      Changes.statusPatch? scope.saved scope.object scope.saved.metadata.resourceVersion) := by
    rw [hworking, Client.pending?, if_pos hchanges]
  simp only [Store.persist, hkey]
  cases hstored : s.store.awsClusters.get? s.key with
  | none =>
    refine .inl ⟨?_, ?_⟩
    · simp only [write, hpending, hstored, store_note]
      rfl
    · simp only [write, hpending, hstored, clients_note, clients_move_self]
      rw [hworking]
      rfl
  | some object =>
    simp only
    cases hstatus : s.store.write s.key object scope.saved.metadata.resourceVersion
        (Changes.statusPatch? scope.saved scope.object scope.saved.metadata.resourceVersion) with
    | error e =>
      obtain ⟨hstore, hclient⟩ := write_of_error hpending hstored hstatus
      rw [hworking] at hclient
      exact .inl ⟨hstore, hclient⟩
    | ok written =>
      obtain ⟨store, middle, version⟩ := written
      obtain ⟨hstore, hkept, hclient, hmiddle⟩ := write_of_ok hpending hstored hstatus
      rw [hworking] at hclient
      have hpending' : ((s.write c).clients c).pending? = some (version,
          Changes.objectPatch? scope.saved scope.object version) := by
        rw [hclient]
        rfl
      rw [← hstore, ← hkept] at hmiddle
      simp only
      cases hobject : store.write s.key middle version
          (Changes.objectPatch? scope.saved scope.object version) with
      | error e =>
        have hobject' := hobject
        rw [← hstore, ← hkept] at hobject'
        obtain ⟨hstore', hclient'⟩ := write_of_error hpending' hmiddle hobject'
        rw [hclient] at hclient'
        exact .inr ⟨hstore'.trans hstore, hclient'⟩
      | ok written =>
        obtain ⟨store', updated, version'⟩ := written
        have hobject' := hobject
        rw [← hstore, ← hkept] at hobject'
        obtain ⟨hstore', hkept', hclient', hupdated⟩ := write_of_ok hpending' hmiddle hobject'
        rw [hclient] at hclient'
        refine ⟨?_, hclient'⟩
        rw [step, hstore', hkept', hupdated, hkept]

end Persisting

/-! ### Runs -/

/-- What runs of the clients of an object lead to. -/
inductive Reachable (store : Store) (object : AwsCluster) : Sharing ι → Prop
  | start : Reachable store object (start store object)
  | step {s : Sharing ι} (h : Reachable store object s) (act : Act ι) :
      Reachable store object (s.step act)

theorem Reachable.foldl {store : Store} {object : AwsCluster} : ∀ (acts : List (Act ι))
    {s : Sharing ι}, s.Reachable store object → (acts.foldl Sharing.step s).Reachable store object
  | [], _, h => h
  | act :: rest, _, h => Reachable.foldl rest (h.step act)

/-! ### The object stays under its key -/

theorem Keyed.move {s : Sharing ι} (h : s.Keyed) {c : ι} {client : Client}
    (hclient : ∀ scope, client.scope? = some scope → scope.object.key = s.key) :
    (s.move c client).Keyed where
  stored := h.stored
  clients := by
    intro other scope hscope
    by_cases hother : other = c
    · subst hother
      rw [clients_move_self] at hscope
      exact hclient scope hscope
    · rw [clients_move_of_ne s hother] at hscope
      exact h.clients other scope hscope

theorem Keyed.write {s : Sharing ι} (h : s.Keyed) (c : ι) : (s.write c).Keyed := by
  have hadvance : ∀ version scope, ((s.clients c).advance version).scope? = some scope →
      scope.object.key = s.key := by
    intro version scope hscope
    obtain ⟨before, hbefore, hkey⟩ := Client.key_of_advance hscope
    exact hkey.trans (h.clients c before hbefore)
  have hretreat : ∀ scope, (s.clients c).retreat.scope? = some scope → scope.object.key = s.key :=
    fun scope hscope => h.clients c scope ((Client.scope?_retreat _) ▸ hscope)
  have hwrote := s.wrote_write c
  generalize s.write c = t at hwrote
  cases hwrote with
  | idle => exact h
  | skipped _ hclient =>
    refine h.move ?_
    rcases hclient with rfl | rfl
    · exact hadvance _
    · exact hretreat
  | rejected =>
    have hmove : (s.move c (s.clients c).retreat).Keyed := h.move hretreat
    exact ⟨hmove.stored, hmove.clients⟩
  | @applied version patch object updated hpending hstored hpatched =>
    have hmove : (s.move c ((s.clients c).advance updated.metadata.resourceVersion)).Keyed :=
      h.move (hadvance _)
    refine ⟨fun found hfound => ?_, hmove.clients⟩
    cases (Table.get?_insert_self s.store.awsClusters s.key updated).symm.trans hfound
    have hfollows := (Client.follows_of_pending hpending hpatched).2
    exact hfollows.key.trans (h.stored object hstored)

theorem Keyed.step {s : Sharing ι} (h : s.Keyed) (act : Act ι) : (s.step act).Keyed := by
  cases act with
  | load c owner =>
    rw [Sharing.step]
    split
    next scope hscope =>
      obtain ⟨object, hstored, hof⟩ := Option.map_eq_some_iff.1 hscope
      cases Scope.of_eq_ok hof
      have hmove : (s.move c (.working ⟨owner, object, object⟩)).Keyed := by
        refine h.move fun scope hscope => ?_
        cases hscope
        exact h.stored object hstored
      exact ⟨hmove.stored, hmove.clients⟩
    next => exact h
  | edit c change =>
    rw [Sharing.step]
    split
    next scope hworking =>
      refine h.move fun edited hedited => ?_
      cases hedited
      rw [Scope.key_edit]
      exact h.clients c scope (by rw [hworking]; rfl)
    next => exact h
  | write c => exact h.write c
  | collect =>
    rw [Sharing.step]
    split
    · exact h
    · exact ⟨fun found hfound => h.stored found (Store.get?_of_get?_collect hfound), h.clients⟩

theorem Reachable.keyed {store : Store} {object : AwsCluster} {s : Sharing ι}
    (h : s.Reachable store object) : s.Keyed := by
  induction h with
  | start => exact keyed_start store object
  | step _ act ih => exact ih.step act

/-- In every run, the two writes of a client with something to persist are those of persisting its
scope, if nobody comes between them. -/
theorem Reachable.persist_eq {store : Store} {object : AwsCluster} {s : Sharing ι}
    (h : s.Reachable store object) {c : ι} {scope : Scope} (hworking : s.clients c = .working scope)
    (hchanges : scope.hasChanges = true) :
    match s.store.persist scope.saved scope.object with
    | (.ok version, store) =>
      (((s.write c).write c).step .collect).store = store ∧
        ((s.write c).write c).clients c = .working (scope.rebased version)
    | (.error _, store) =>
      ((s.write c).store = store ∧ (s.write c).clients c = .working scope) ∨
        (((s.write c).write c).store = store ∧
          ((s.write c).write c).clients c = .working scope) :=
  s.persist_eq hworking (h.keyed.clients c scope (by rw [hworking]; rfl)) hchanges

end Sharing

end ClusterInfra
