import ClusterInfra.Proofs.Sample
import ClusterInfra.Proofs.Store.Clients
import ClusterInfra.Proofs.Text.Numbers
import Mathlib.Algebra.Group.Nat.Defs
/-!
No update is lost.

Versions count the writes that were applied, so the version that a write goes by tells how much the
client has missed. The invariant says of every client that none of its versions is newer than the
stored one, and that one which is as new belongs to a client that has missed nothing. A write that
goes by an older version is rejected, since its patch tests the version first.
-/

namespace ClusterInfra

/-! ### Versions -/

/-- The number that a version counts. -/
def versionCount (version : Option String) : Nat := (versionNumber version).toNat

/-- The next version counts one more, as long as the count does not overflow. -/
theorem versionCount_nextVersion {version : Option String}
    (h : versionCount version + 1 < 2 ^ 64) :
    versionCount (some (nextVersion version)) = versionCount version + 1 := by
  have hnext : (versionNumber version + 1).toNat = versionCount version + 1 := by
    rw [UInt64.toNat_add]
    exact Nat.mod_eq_of_lt h
  have hread : Text.Numeral.read UInt64.size (nextVersion version)
      = .ok (versionCount version + 1) := by
    rw [nextVersion, hnext]
    exact Text.Numeral.read_toString h
  rw [versionCount, versionNumber, Option.map_some, hread]
  exact UInt64.toNat_ofNat_of_lt h

/-- The version of an object that is put into a store. -/
def AwsCluster.firstVersion (object : AwsCluster) : Option String :=
  some (object.metadata.resourceVersion.getD "1")

/-! ### Missing nothing -/

namespace Entry

variable {ι : Type}

/-- Whether a write was applied. -/
def isApplied : Entry ι → Bool
  | applied _ => true
  | _ => false

end Entry

variable {ι : Type}

/-- A client has missed nothing: since it loaded the object, or since its own last write was
applied, no write of another client was. -/
def UpToDate (c : ι) (history : List (Entry ι)) : Prop :=
  ∃ since mark before, history = since ++ mark :: before ∧
    (mark = .loaded c ∨ mark = .applied c) ∧ ∀ other, .applied other ∈ since → other = c

namespace UpToDate

variable {c : ι} {history : List (Entry ι)}

theorem loaded (c : ι) (history : List (Entry ι)) : UpToDate c (.loaded c :: history) :=
  ⟨[], .loaded c, history, rfl, .inl rfl, fun _ h => nomatch h⟩

theorem applied (c : ι) (history : List (Entry ι)) : UpToDate c (.applied c :: history) :=
  ⟨[], .applied c, history, rfl, .inr rfl, fun _ h => nomatch h⟩

/-- A client misses nothing while no write is applied. -/
theorem cons {entry : Entry ι} (h : UpToDate c history) (hentry : entry.isApplied = false) :
    UpToDate c (entry :: history) := by
  obtain ⟨since, mark, before, rfl, hmark, hsince⟩ := h
  refine ⟨entry :: since, mark, before, rfl, hmark, fun other hmem => ?_⟩
  rcases List.mem_cons.1 hmem with rfl | hmem
  · cases hentry
  · exact hsince other hmem

end UpToDate

namespace Sharing

/-- How many writes have been applied. -/
def writes (s : Sharing ι) : Nat := s.history.countP (·.isApplied)

/-- The stored version counts the writes since the first version, and every version that a write may
go by counts at most as many. A client with a version that counts all of them has missed nothing. -/
structure Counted (first : Nat) (s : Sharing ι) : Prop where
  stored : ∀ object, s.store.awsClusters.get? s.key = some object →
    object.metadata.resourceVersion.isSome ∧
      versionCount object.metadata.resourceVersion = first + s.writes
  versions : ∀ c version, version ∈ (s.clients c).versions →
    version.isSome ∧ versionCount version ≤ first + s.writes ∧
      (versionCount version = first + s.writes → UpToDate c s.history)

variable {s : Sharing ι} {c : ι} {first : Nat}

theorem counted_start (store : Store) (object : AwsCluster) :
    (start store object : Sharing ι).Counted (versionCount object.firstVersion) where
  stored := by
    intro found hfound
    cases (Table.get?_insert_self store.awsClusters object.key _).symm.trans hfound
    exact ⟨rfl, rfl⟩
  versions := fun _ _ h => nomatch h

/-- An entry about anything but an applied write changes nothing. -/
theorem Counted.cons (h : s.Counted first) {entry : Entry ι} (hentry : entry.isApplied = false) :
    Counted first { s with history := entry :: s.history } := by
  have hwrites : writes { s with history := entry :: s.history } = s.writes := by
    simp [writes, hentry]
  refine ⟨fun object hobject => ?_, fun c version hmem => ?_⟩
  · rw [hwrites]
    exact h.stored object hobject
  · rw [hwrites]
    obtain ⟨hsome, hle, hfresh⟩ := h.versions c version hmem
    exact ⟨hsome, hle, fun heq => (hfresh heq).cons hentry⟩

/-- The server may remove the object. -/
theorem Counted.collect (h : s.Counted first) (object : AwsCluster) :
    Counted first { s with store := s.store.collect s.key object } where
  stored := fun found hfound => h.stored found (Store.get?_of_get?_collect hfound)
  versions := h.versions

variable [DecidableEq ι]

/-- A client may move to other versions that go for it. -/
theorem Counted.move (h : s.Counted first) {client : Client}
    (hclient : ∀ version, version ∈ client.versions → version.isSome ∧
      versionCount version ≤ first + s.writes ∧
      (versionCount version = first + s.writes → UpToDate c s.history)) :
    (s.move c client).Counted first where
  stored := h.stored
  versions := by
    intro other version hmem
    by_cases hother : other = c
    · subst hother
      rw [clients_move_self] at hmem
      exact hclient version hmem
    · rw [clients_move_of_ne s hother] at hmem
      exact h.versions other version hmem

/-- A write that is applied counts one more, which leaves the other clients behind. -/
theorem Counted.applied (h : s.Counted first) {client : Client} {store : Store}
    {object updated : AwsCluster} (hroom : first + s.writes + 1 < 2 ^ 64)
    (hstored : s.store.awsClusters.get? s.key = some object)
    (hupdated : store.awsClusters.get? s.key = some updated) (hfollows : object.Follows updated)
    (hclient : ∀ version, version ∈ client.versions →
      version = updated.metadata.resourceVersion ∨ version ∈ (s.clients c).versions) :
    Counted first { s.move c client with store, history := .applied c :: s.history } := by
  have hwrites : writes { s.move c client with store, history := .applied c :: s.history }
      = s.writes + 1 := by
    simp [writes, Entry.isApplied]
  have hcount : versionCount updated.metadata.resourceVersion = first + s.writes + 1 := by
    have hobject := (h.stored object hstored).2
    rw [hfollows.version, versionCount_nextVersion (by omega), hobject]
  have hbehind : ∀ other version, version ∈ (s.clients other).versions →
      version.isSome ∧ versionCount version ≤ first + (s.writes + 1) ∧
      (versionCount version = first + (s.writes + 1) →
        UpToDate other (.applied c :: s.history)) := by
    intro other version hmem
    obtain ⟨hsome, hle, -⟩ := h.versions other version hmem
    exact ⟨hsome, by omega, fun heq => by omega⟩
  refine ⟨fun found hfound => ?_, fun other version hmem => ?_⟩
  · cases hupdated.symm.trans hfound
    rw [hwrites]
    exact ⟨by rw [hfollows.version]; rfl, by omega⟩
  · rw [hwrites]
    by_cases hother : other = c
    · subst hother
      rcases hclient version ((s.clients_move_self other client) ▸ hmem) with rfl | hold
      · exact ⟨by rw [hfollows.version]; rfl, by omega, fun _ => .applied other s.history⟩
      · exact hbehind other version hold
    · exact hbehind other version ((s.clients_move_of_ne hother client) ▸ hmem)

/-! ### Steps and runs -/

theorem writes_le_step (s : Sharing ι) (act : Act ι) : s.writes ≤ (s.step act).writes := by
  have hcons : ∀ entry : Entry ι, s.writes ≤ List.countP (·.isApplied) (entry :: s.history) :=
    fun entry => by
      rw [List.countP_cons]
      exact Nat.le_add_right ..
  cases act with
  | load c owner =>
    rw [step]
    split
    · exact hcons _
    · exact Nat.le_refl _
  | edit c change =>
    rw [step]
    split <;> exact Nat.le_refl _
  | write c =>
    have hwrote := s.wrote_write c
    rw [step]
    generalize s.write c = t at hwrote
    cases hwrote with
    | idle => exact Nat.le_refl _
    | skipped => exact Nat.le_refl _
    | rejected => exact hcons _
    | applied => exact hcons _
  | collect =>
    rw [step]
    split <;> exact Nat.le_refl _

theorem Counted.write (h : s.Counted first) (hroom : first + (s.write c).writes < 2 ^ 64) :
    (s.write c).Counted first := by
  have hwrote := s.wrote_write c
  generalize s.write c = t at hwrote hroom
  cases hwrote with
  | idle => exact h
  | @skipped version hpending client hclient =>
    refine h.move fun other hmem => h.versions c other ?_
    rcases hclient with rfl | rfl
    · rcases Client.mem_versions_advance hmem with rfl | hold
      · exact Client.version_mem hpending
      · exact hold
    · exact Client.mem_versions_retreat hmem
  | rejected hpending =>
    have hmove : (s.move c (s.clients c).retreat).Counted first :=
      h.move fun other hmem => h.versions c other (Client.mem_versions_retreat hmem)
    exact hmove.cons (show Entry.isApplied (.rejected c) = false from rfl)
  | applied hpending hstored hpatched =>
    have hfollows := (Client.follows_of_pending hpending hpatched).2
    have hcount : first + s.writes + 1 < 2 ^ 64 := by
      simpa [writes, Entry.isApplied, Nat.add_assoc] using hroom
    exact h.applied hcount hstored (Table.get?_insert_self ..) hfollows fun version hmem =>
      Client.mem_versions_advance hmem

theorem Counted.step (h : s.Counted first) (act : Act ι)
    (hroom : first + (s.step act).writes < 2 ^ 64) : (s.step act).Counted first := by
  cases act with
  | load c owner =>
    rw [Sharing.step]
    split
    next scope hscope =>
      obtain ⟨object, hstored, hof⟩ := Option.map_eq_some_iff.1 hscope
      cases Scope.of_eq_ok hof
      have hloaded : Counted first { s with history := .loaded c :: s.history } := h.cons rfl
      refine hloaded.move fun version hmem => ?_
      cases List.mem_singleton.1 hmem
      obtain ⟨hsome, hcount⟩ := hloaded.stored object hstored
      exact ⟨hsome, Nat.le_of_eq hcount, fun _ => .loaded c s.history⟩
    next => exact h
  | edit c change =>
    rw [Sharing.step]
    split
    next scope hworking =>
      refine h.move fun version hmem => h.versions c version ?_
      rw [hworking]
      rw [Client.versions, Scope.saved_edit] at hmem
      exact hmem
    next => exact h
  | write c => exact h.write hroom
  | collect =>
    rw [Sharing.step]
    split
    · exact h
    · exact h.collect _

theorem Reachable.counted {store : Store} {object : AwsCluster} (h : s.Reachable store object) :
    versionCount object.firstVersion + s.writes < 2 ^ 64 →
      s.Counted (versionCount object.firstVersion) := by
  induction h with
  | start =>
    intro _
    exact counted_start store object
  | @step s _ act ih =>
    intro hroom
    have hle := s.writes_le_step act
    exact (ih (by omega)).step act hroom

end Sharing

namespace Sample

/-- Two clients that have loaded the object and staged a change each. One has a status to write, and
the other one is on its way to write its spec. -/
def rivals : Sharing Bool :=
  [.load false owner, .load true owner, .edit false (.setReady true),
    .edit true (.setControlPlaneEndpoint { host := "example.com", port := 6443 }),
    .write true].foldl Sharing.step (.start {} (object none))

theorem reachable_rivals : rivals.Reachable {} (object none) := .foldl _ .start

end Sample

namespace Sharing

variable {s : Sharing ι} {c : ι} [DecidableEq ι]

/-- In every run of any number of clients, a write is applied only if no write of another client has
been applied since the client loaded the object or since its own last write was applied. Otherwise
it is rejected and leaves the store as it is. -/
theorem applied_only_if_upToDate {store : Store} {object : AwsCluster}
    (hs : s.Reachable store object)
    (hroom : versionCount object.firstVersion + s.writes < 2 ^ 64) {version : Option String}
    {patch : Json.Patch} (hpending : (s.clients c).pending? = some (version, some patch)) :
    (UpToDate c s.history ∧ (s.step (.write c)).history = .applied c :: s.history ∧
      ∃ found updated, s.store.awsClusters.get? s.key = some found ∧
        found.patched patch = .ok updated ∧
        (s.step (.write c)).store.awsClusters.get? s.key = some updated) ∨
    ((s.step (.write c)).history = .rejected c :: s.history ∧
      (s.step (.write c)).store = s.store) := by
  have hcounted := hs.counted hroom
  have hwrote := s.wrote_write c
  rw [step]
  generalize s.write c = t at hwrote
  cases hwrote with
  | idle h => cases h.symm.trans hpending
  | skipped h => cases h.symm.trans hpending
  | rejected => exact .inr ⟨rfl, rfl⟩
  | @applied version' patch' found updated h hstored hpatched =>
    cases h.symm.trans hpending
    obtain ⟨hexpects, -⟩ := Client.follows_of_pending hpending hpatched
    obtain ⟨hsome, -, hfresh⟩ := hcounted.versions c version (Client.version_mem hpending)
    obtain ⟨expected, rfl⟩ := Option.isSome_iff_exists.1 hsome
    have hcount := (hcounted.stored found hstored).2
    rw [hexpects expected rfl] at hcount
    exact .inl ⟨hfresh hcount, rfl, found, updated, hstored, hpatched, Table.get?_insert_self ..⟩

/-- Of two clients that have loaded the same version, the first to write wins, and the write of the
other one is rejected. -/
theorem rival_rejected :
    UpToDate false Sample.rivals.history ∧
      (Sample.rivals.step (.write false)).history = .applied false :: Sample.rivals.history ∧
      ((Sample.rivals.step (.write false)).step (.write true)).store
        = (Sample.rivals.step (.write false)).store := by
  have hfirst : ((Sample.rivals.clients false).pending?.bind (·.2)).isSome = true := by
    decide +kernel
  have hsecond : (((Sample.rivals.step (.write false)).clients true).pending?.bind (·.2)).isSome
      = true := by
    decide +kernel
  obtain ⟨patch, hpatch⟩ := Option.isSome_iff_exists.1 hfirst
  obtain ⟨⟨version, _⟩, hpending, rfl⟩ := Option.bind_eq_some_iff.1 hpatch
  obtain ⟨patch', hpatch'⟩ := Option.isSome_iff_exists.1 hsecond
  obtain ⟨⟨version', _⟩, hpending', rfl⟩ := Option.bind_eq_some_iff.1 hpatch'
  have hrejected : (Sample.rivals.step (.write false)).history
      ≠ .rejected false :: Sample.rivals.history := by
    decide +kernel
  have hrejected' : ((Sample.rivals.step (.write false)).step (.write true)).history
      ≠ .applied true :: (Sample.rivals.step (.write false)).history := by
    decide +kernel
  rcases applied_only_if_upToDate Sample.reachable_rivals (by decide +kernel) hpending with
    ⟨hfresh, happlied, -⟩ | ⟨h, -⟩
  · rcases applied_only_if_upToDate (Sample.reachable_rivals.step (.write false))
      (by decide +kernel) hpending' with ⟨-, h, -⟩ | ⟨-, hstore⟩
    · exact absurd h hrejected'
    · exact ⟨hfresh, happlied, hstore⟩
  · exact absurd h hrejected

end Sharing

end ClusterInfra
