import ClusterInfra.Reconcile.Controller
import ClusterInfra.Service.Script
import ClusterInfra.Store.Cache
/-!
Watching resources: when which object is reconciled.

Time is counted in seconds. An object is due as soon as its state is delivered or an event of its
owner asks for it, and again after the delay that its last reconciliation asked for. It is due at
most once at a time: of two times the earlier counts. An object that is deleted leaves the cache,
and what is not in the cache is not reconciled. A reconciliation takes no time, unless it never
ends: then it keeps its object busy, and one of the places for reconciliations that run at once.
-/

namespace ClusterInfra

/-- What a watch learns, or what happens around it. -/
inductive WatchEvent (σ : Type)
  /-- An object was listed, added or modified. -/
  | applied (object : AwsCluster)
  /-- An object was deleted. -/
  | deleted (object : AwsCluster)
  /-- Something happened to a cluster. -/
  | touched (cluster : Cluster)
  /-- The world changed. -/
  | changed (change : Controller σ → Controller σ)

/-- The state of a watch. -/
structure Watch (σ : Type) where
  controller : Controller σ
  cache : Cache := {}
  /-- When objects are due. -/
  queue : List (ObjectKey × Nat) := []
  /-- The objects whose reconciliation never ends. -/
  busy : List ObjectKey := []
  /-- The reconciliations that were started, by second. -/
  started : List (Nat × ObjectKey) := []

/-- How objects are reconciled. -/
structure WatchSettings (σ : Type) where
  cloud : Cloud σ
  dnsRequeue : Nat
  /-- How many reconciliations may run at once; zero sets no limit. -/
  concurrency : Nat
  /-- Whether something that was started never ends. -/
  isEndless : σ → Event → Bool

namespace Watch

variable {σ : Type}

/-- The time at which an object is due. -/
def due? (watch : Watch σ) (key : ObjectKey) : Option Nat := watch.queue.lookup key

/-- Makes an object due at a time, unless it is due earlier. -/
def enqueue (watch : Watch σ) (key : ObjectKey) (time : Nat) : Watch σ :=
  let time := (watch.due? key).elim time (min time)
  { watch with queue := watch.queue.filter (·.1 ≠ key) ++ [(key, time)] }

/-- Takes an object off the queue. -/
def dequeue (watch : Watch σ) (key : ObjectKey) : Watch σ :=
  { watch with queue := watch.queue.filter (·.1 ≠ key) }

/-- Takes an event in. -/
def receive (now : Nat) (watch : Watch σ) : WatchEvent σ → Watch σ
  | .applied object =>
    { watch with cache := watch.cache.insert object }.enqueue object.key now
  | .deleted object => { watch with cache := watch.cache.erase object }
  | .touched cluster =>
    (cluster.requests watch.cache.lookup).foldl (fun watch key => watch.enqueue key now) watch
  | .changed change => { watch with controller := change watch.controller }

/-- The copy of the object that was stored when something was started. -/
def heldAt : Event → Option AwsCluster
  | .called _ held | .lookedUp _ held => held
  | .built _ | .returned _ _ => none

/-- The controller during a reconciliation that never ends: nothing is written any more. -/
def stopped (before after : Controller σ) (key : ObjectKey) (event : Event) : Controller σ :=
  let stored := after.world.store.awsClusters
  let awsClusters := (heldAt event).elim (stored.erase key) (stored.insert key)
  { before with world := { after.world with
      metrics := before.world.metrics
      store := { after.world.store with awsClusters } } }

/-- Reconciles an object that is due. -/
def reconcile (settings : WatchSettings σ) (now : Nat) (watch : Watch σ) (key : ObjectKey) :
    Watch σ :=
  let before := watch.controller
  let (_, delay?, after) := before.invoke settings.cloud settings.dnsRequeue key false 0
  let watch := { watch.dequeue key with started := watch.started ++ [(now, key)] }
  let events := after.world.journal.drop before.world.journal.length
  match events.find? (settings.isEndless after.world.cloud) with
  | some event =>
    { watch with controller := stopped before after key event, busy := watch.busy ++ [key] }
  | none =>
    let watch := { watch with controller := after }
    delay?.elim watch fun delay => watch.enqueue key (now + delay)

/-- Whether another reconciliation may run. -/
def hasRoom (settings : WatchSettings σ) (watch : Watch σ) : Bool :=
  settings.concurrency = 0 || watch.busy.length < settings.concurrency

/-- Serves an object that is due: it is reconciled if that is possible now. -/
def serve (settings : WatchSettings σ) (now : Nat) (watch : Watch σ) (key : ObjectKey) : Watch σ :=
  if watch.busy.contains key || !watch.hasRoom settings then watch
  else if (watch.cache.lookup key).isNone then watch.dequeue key
  else watch.reconcile settings now key

/-- Lets a second pass: the events in it are taken in, then the objects that are due are served. -/
def pass (settings : WatchSettings σ) (events : List (Nat × WatchEvent σ)) (watch : Watch σ)
    (now : Nat) : Watch σ :=
  let news := (events.filter (·.1 = now)).map (·.2)
  let watch := news.foldl (receive now) watch
  let due := (watch.queue.filter (·.2 ≤ now)).map (·.1)
  due.foldl (serve settings now) watch

/-- Watches from the listing of all objects on, up to and including a second. -/
def run (settings : WatchSettings σ) (listed : List AwsCluster)
    (events : List (Nat × WatchEvent σ)) (controller : Controller σ) (last : Nat) : Watch σ :=
  let start := (listed.map WatchEvent.applied).foldl (receive 0) { controller }
  (List.range (last + 1)).foldl (pass settings events) start

end Watch

/-- Whether a script lets something that was started hang. -/
def Script.isEndless (script : Script) : Event → Bool
  | .called call _ => script.hanging.contains call
  | .lookedUp host _ => script.hangingHosts.contains host
  | .built _ | .returned _ _ => false

end ClusterInfra
