import ClusterInfra.Metrics.Basic
import ClusterInfra.Service.Cloud
import ClusterInfra.Store.Memory
/-!
The world in which reconciliations run.

The world holds the store, the faults that are to hit store calls, a clock, the state of the cloud,
the metrics, and a journal of what was done. Every store call of the reconciler goes through here.
-/

namespace ClusterInfra

/-- The calls of a store. -/
inductive StoreCall
  | getAwsCluster
  | getCluster
  | patch
  deriving DecidableEq, Repr

/-- A fault of the store: the given call fails once, after so many that are let through. -/
structure StoreFault where
  call : StoreCall
  skip : Nat
  message : String
  deriving DecidableEq, Repr

/-- The fault that hits a call, if one does; only the oldest fault of a kind is considered. -/
def StoreFault.strike (call : StoreCall) : List StoreFault → Option String × List StoreFault
  | [] => (none, [])
  | fault :: rest =>
    if fault.call = call then
      match fault.skip with
      | 0 => (some fault.message, rest)
      | skip + 1 => (none, { fault with skip } :: rest)
    else
      let (struck, rest) := strike call rest
      (struck, fault :: rest)

/-- A clock: its readings, and how many of them were taken. -/
structure Clock where
  reading : Nat → Instant
  taken : Nat := 0

/-- Reads the clock. -/
def Clock.read (clock : Clock) : Instant × Clock :=
  (clock.reading clock.taken, { clock with taken := clock.taken + 1 })

/-- Something that a reconciliation did. -/
inductive Event
  /-- A service was built in a context. -/
  | built (context : ServiceContext)
  /-- A call was started, while the store held this copy of the object. -/
  | called (call : ServiceCall) (held : Option AwsCluster)
  /-- A call that was started has ended. -/
  | returned (call : ServiceCall) (ending : Ending)
  /-- A look-up was started, while the store held this copy of the object. -/
  | lookedUp (host : String) (held : Option AwsCluster)

namespace Event

/-- The calls that were started. -/
def calls (events : List Event) : List ServiceCall :=
  events.filterMap fun
    | called call _ => some call
    | _ => none

/-- The calls that ended, and how they did. -/
def returns (events : List Event) : List (ServiceCall × Ending) :=
  events.filterMap fun
    | returned call ending => some (call, ending)
    | _ => none

/-- The hosts that were looked up. -/
def hosts (events : List Event) : List String :=
  events.filterMap fun
    | lookedUp host _ => some host
    | _ => none

/-- The contexts in which services were built. -/
def contexts (events : List Event) : List ServiceContext :=
  events.filterMap fun
    | built context => some context
    | _ => none

end Event

/-- The world of the reconciler. -/
structure World (σ : Type) where
  store : Store := {}
  faults : List StoreFault := []
  clock : Clock
  cloud : σ
  metrics : Metrics := {}
  journal : List Event := []

namespace World

variable {σ : Type}

/-- Writes an event into the journal. -/
def log (world : World σ) (event : Event) : World σ :=
  { world with journal := world.journal ++ [event] }

/-- Counts a call that failed or was cancelled. -/
def countFailure (world : World σ) (call : ServiceCall) : World σ :=
  { world with metrics := world.metrics.recordFailure call.subsystem call.action.label }

/-- Makes a store call, unless a fault hits it. -/
def access {α : Type} (world : World σ) (call : StoreCall)
    (run : Store → Except ControllerError α × Store) : Except ControllerError α × World σ :=
  match StoreFault.strike call world.faults with
  | (some message, faults) => (.error (.io message), { world with faults })
  | (none, faults) =>
    let (result, store) := run world.store
    (result, { world with store, faults })

/-- A fault hits a store call, or the call is made; without faults it is made. -/
theorem access_eq {α : Type} (world : World σ) (call : StoreCall)
    (run : Store → Except ControllerError α × Store) :
    (∃ message faults, world.faults ≠ [] ∧
      world.access call run = (.error (.io message), { world with faults })) ∨
    ∃ faults, (world.faults = [] → faults = []) ∧ world.access call run
      = ((run world.store).1, { world with store := (run world.store).2, faults }) := by
  rw [access]
  split
  next message faults heq =>
    refine .inl ⟨message, faults, fun hnil => ?_, rfl⟩
    rw [hnil] at heq
    cases heq
  next faults heq =>
    refine .inr ⟨faults, fun hnil => ?_, rfl⟩
    rw [hnil] at heq
    cases heq
    rfl

/-- Fetches an `AWSCluster`. -/
def getAwsCluster (world : World σ) (key : ObjectKey) :
    Except ControllerError (Option AwsCluster) × World σ :=
  world.access .getAwsCluster fun store => (.ok (store.awsClusters.get? key), store)

/-- Fetches a `Cluster`. -/
def getCluster (world : World σ) (key : ObjectKey) :
    Except ControllerError (Option Cluster) × World σ :=
  world.access .getCluster fun store => (.ok (store.clusters.get? key), store)

/-- Persists the difference between two states of an object. -/
def persist (world : World σ) (before after : AwsCluster) :
    Except ControllerError (Option String) × World σ :=
  world.access .patch fun store => store.persist before after

end World

end ClusterInfra
