import ClusterInfra.Proofs.Reconcile.Mocked
import ClusterInfra.Proofs.Reconcile.Steps
/-!
Passes over services that follow a plain script.

Under a script by which calls only fail or succeed, a pass that nobody cancels has no choice. Its
course is known beforehand: its result, the marks it leaves on the object and the events that it
writes into the journal. All of it is determined by the script and by little of the object: its
context, whether a bastion is wanted, and the DNS name that its load balancer is going to have.
-/

namespace ClusterInfra

/-- The event without the copy of the object that was stored meanwhile. -/
def Event.bare : Event → Event
  | .called call _ => .called call none
  | .lookedUp host _ => .lookedUp host none
  | .built context => .built context
  | .returned call ending => .returned call ending

/-! ### Courses -/

/-- What something comes to: its result, the marks it leaves and the events it causes. -/
structure Course (α : Type) where
  result : α
  marks : List Mark := []
  events : List Event := []

namespace Course

variable {ε α β : Type}

/-- One course after another, unless the first one ends in an error. -/
def andThen (course : Course (Except ε α)) (next : Course (Except ε β)) : Course (Except ε β) :=
  match course.result with
  | .error e => ⟨.error e, course.marks, course.events⟩
  | .ok _ => ⟨next.result, course.marks ++ next.marks, course.events ++ next.events⟩

end Course

namespace Script

/-- Calls and look-ups do not hang, and calls have no effects but their own work. -/
structure Plain (script : Script) : Prop where
  hanging : script.hanging = []
  effects : script.effects = []
  hangingHosts : script.hangingHosts = []

/-- How a call ends. -/
def ending (script : Script) (call : ServiceCall) : Ending :=
  match script.failures.get? call with
  | some message => .failed (.api message)
  | none => .done

variable (script : Script) (context : ServiceContext)

/-- The events of a call. -/
def callEvents (call : ServiceCall) : List Event :=
  [.built context, .called call none, .returned call (script.ending call)]

/-- The course of a call. -/
def callCourse (call : ServiceCall) : Course (Except StepError Unit) where
  result := (script.ending call).result
  marks := Attempt.callMarks script call (script.ending call).result
  events := script.callEvents context call

/-- The course of reconciling a subsystem. -/
def subsystemCourse (bastionEnabled : Bool) (subsystem : Subsystem) :
    Course (Except ControllerError Unit) where
  result := (script.ending ⟨.reconcile, subsystem⟩).result.mapError
    (·.toControllerError ⟨.reconcile, subsystem⟩)
  marks := Attempt.creationMarks script bastionEnabled subsystem
    (script.ending ⟨.reconcile, subsystem⟩).result
  events := script.callEvents context ⟨.reconcile, subsystem⟩

/-- The course of reconciling subsystems in order. -/
def creationCourse (bastionEnabled : Bool) : List Subsystem → Course (Except ControllerError Unit)
  | [] => { result := .ok () }
  | subsystem :: rest =>
    (script.subsystemCourse context bastionEnabled subsystem).andThen
      (creationCourse bastionEnabled rest)

/-- The course of waiting for a DNS name. -/
def awaitCourse (dnsRequeue : Nat) (name : Option String) :
    Course (Except ControllerError Outcome) where
  result := .ok (if name.any script.hosts.contains then .noRequeue else .requeueAfter dnsRequeue)
  marks := Attempt.awaitMarks name (name.map script.hosts.contains)
  events := name.toList.map (.lookedUp · none)

/-- The course of a normal pass whose finalizer is stored. -/
def normalCourse (dnsRequeue : Nat) (object : AwsCluster) :
    Course (Except ControllerError Outcome) :=
  (script.creationCourse context object.spec.bastion.enabled Subsystem.creationOrder).andThen
    (script.awaitCourse dnsRequeue (script.dnsName? object))

/-- The course of deleting a subsystem. -/
def removalCourse (subsystem : Subsystem) : Course (Option ControllerError) where
  result := match (script.ending ⟨.delete, subsystem⟩).result with
    | .ok () => none
    | .error e => some (e.toControllerError ⟨.delete, subsystem⟩)
  marks := Attempt.deletionMarks subsystem (script.ending ⟨.delete, subsystem⟩).result
  events := script.callEvents context ⟨.delete, subsystem⟩

/-- The course of deleting subsystems in order. -/
def deletionCourse : List Subsystem → Course (List ControllerError)
  | [] => { result := [] }
  | subsystem :: rest =>
    let first := script.removalCourse context subsystem
    let next := deletionCourse rest
    ⟨first.result.toList ++ next.result, first.marks ++ next.marks, first.events ++ next.events⟩

/-- The course of a delete pass. -/
def teardownCourse : Course (Except ControllerError Outcome) :=
  let course := script.deletionCourse context Subsystem.deletionOrder
  { result := match course.result with
      | [] => .ok .noRequeue
      | first :: others => .error (.deleteIncomplete (others.length + 1) first)
    marks := course.marks
    events := course.events }

/-- The course of a pass, once the finalizer is stored. -/
def passCourse (dnsRequeue : Nat) (deleting : Bool) (object : AwsCluster) :
    Course (Except ControllerError Outcome) :=
  if deleting then script.teardownCourse context else script.normalCourse context dnsRequeue object

variable {script}

theorem Plain.varies (h : script.Plain) {state : Script} (hstate : state = script) :
    script.Varies state := by
  subst hstate
  exact ⟨rfl, rfl, h.effects⟩

theorem Plain.mocks (h : script.Plain) : scriptedCloud.Mocks script (· = script) where
  quiet hstate := script.mocks_scriptedCloud.quiet (h.varies hstate)
  object hstate := script.mocks_scriptedCloud.object (h.varies hstate)
  resolves hstate := script.mocks_scriptedCloud.resolves (h.varies hstate)
  fit_call hstate _ _ _ := hstate
  fit_lookUp hstate _ := hstate

/-- A call under a plain script ends as the script says. -/
theorem Plain.answer (h : script.Plain) (call : ServiceCall) (object : AwsCluster) :
    (script.answer call object).ending = script.ending call ∧
      (script.answer call object).cancelled = false := by
  rw [Script.answer, ending, h.hanging]
  cases script.failures.get? call <;> exact ⟨rfl, rfl⟩

theorem Plain.resolve (h : script.Plain) (host : String) :
    script.resolve host = .answered (script.hosts.contains host) := by
  rw [Script.resolve, h.hangingHosts]
  rfl

end Script

/-! ### Where the marks are left -/

open Attempt

/-- The places of the marks of a subsystem. -/
def Subsystem.places : Subsystem → List Place
  | .network => []
  | .securityGroups => [.condition ConditionType.securityGroupsReady]
  | .bastion => [.condition ConditionType.bastionReady]
  | .loadBalancer => [.dnsName, .condition ConditionType.loadBalancerReady]

theorem Subsystem.places_reportMarks (subsystem : Subsystem) (reason : String) (severity : Severity)
    (message : String) :
    ((subsystem.reportMarks reason severity message).map (·.place)).Sublist subsystem.places := by
  cases subsystem with
  | loadBalancer => exact .cons _ (.refl _)
  | _ => exact .refl _

theorem Script.places_creationMarks (script : Script) (enabled : Bool) (subsystem : Subsystem)
    (result : Except StepError Unit) :
    ((creationMarks script enabled subsystem result).map (·.place)).Sublist subsystem.places := by
  cases result with
  | error e => exact subsystem.places_reportMarks ..
  | ok =>
    cases subsystem with
    | network => exact .refl _
    | securityGroups => exact .refl _
    | bastion => cases enabled <;> exact .refl _
    | loadBalancer =>
      simp only [creationMarks, workMarks, Subsystem.readyMarks, List.append_nil]
      cases script.dnsName with
      | none => exact List.nil_sublist _
      | some name => exact .cons_cons _ (List.nil_sublist _)

theorem Subsystem.places_deletionMarks (subsystem : Subsystem) (result : Except StepError Unit) :
    ((deletionMarks subsystem result).map (·.place)).Sublist subsystem.places := by
  cases result with
  | error e => exact subsystem.places_reportMarks ..
  | ok => exact subsystem.places_reportMarks ..

theorem Script.places_creationCourse (script : Script) (context : ServiceContext) (enabled : Bool) :
    ∀ subsystems : List Subsystem,
      ((script.creationCourse context enabled subsystems).marks.map (·.place)).Sublist
        (subsystems.flatMap Subsystem.places)
  | [] => .refl _
  | subsystem :: rest => by
    have hfirst := script.places_creationMarks enabled subsystem
      (script.ending ⟨.reconcile, subsystem⟩).result
    have hrest := places_creationCourse script context enabled rest
    rw [creationCourse, Course.andThen, List.flatMap_cons]
    split
    · exact hfirst.trans (List.sublist_append_left _ _)
    · rw [List.map_append]
      exact hfirst.append hrest

/-- Where no call fails, everything succeeds. -/
theorem Script.result_creationCourse {script : Script}
    (h : ∀ subsystem, script.failures.get? ⟨.reconcile, subsystem⟩ = none)
    (context : ServiceContext) (enabled : Bool) : ∀ subsystems : List Subsystem,
      (script.creationCourse context enabled subsystems).result = .ok ()
  | [] => rfl
  | subsystem :: rest => by
    have hfirst : (script.subsystemCourse context enabled subsystem).result = .ok () := by
      rw [subsystemCourse, ending, h]
      rfl
    rw [creationCourse, Course.andThen, hfirst]
    exact result_creationCourse h context enabled rest

/-- Where everything succeeds, the marks are those of success. -/
theorem Script.marks_creationCourse (script : Script) (context : ServiceContext) (enabled : Bool) :
    ∀ {subsystems : List Subsystem},
      (script.creationCourse context enabled subsystems).result = .ok () →
      (script.creationCourse context enabled subsystems).marks
        = subsystems.flatMap fun subsystem => creationMarks script enabled subsystem (.ok ())
  | [], _ => rfl
  | subsystem :: rest, h => by
    rw [creationCourse, Course.andThen] at h ⊢
    split at h
    next => cases h
    next hfirst =>
      have hok : (script.ending ⟨.reconcile, subsystem⟩).result = .ok () := by
        rw [subsystemCourse] at hfirst
        cases hresult : (script.ending ⟨.reconcile, subsystem⟩).result with
        | error e => rw [hresult] at hfirst; cases hfirst
        | ok => rfl
      simp only
      rw [marks_creationCourse script context enabled h, List.flatMap_cons, subsystemCourse, hok]

/-- The places where a normal pass leaves marks. -/
def Place.normal : List Place :=
  [.condition ConditionType.securityGroupsReady, .condition ConditionType.bastionReady, .dnsName,
    .condition ConditionType.loadBalancerReady, .publication]

/-- Where all subsystems have been reconciled, the condition of the load balancer is left alone. -/
theorem Script.places_done (script : Script) (enabled : Bool) :
    ((Subsystem.creationOrder.flatMap fun subsystem =>
      creationMarks script enabled subsystem (.ok ())).map (·.place)).Sublist
        [.condition ConditionType.securityGroupsReady, .condition ConditionType.bastionReady,
          .dnsName] := by
  cases enabled <;> cases hname : script.dnsName <;>
    simp [Subsystem.creationOrder, creationMarks, workMarks, Subsystem.readyMarks, hname,
      Mark.place, Condition.holds]

theorem places_awaitMarks (name : Option String) (answer : Option Bool) :
    ((awaitMarks name answer).map (·.place)).Sublist
      [.condition ConditionType.loadBalancerReady, .publication] := by
  rcases name with _ | host
  · exact .cons_cons _ (List.nil_sublist _)
  · rcases answer with _ | _ | _
    · exact List.nil_sublist _
    · exact .cons_cons _ (List.nil_sublist _)
    · exact .refl _

theorem Script.places_normalCourse (script : Script) (context : ServiceContext) (dnsRequeue : Nat)
    (object : AwsCluster) :
    ((script.normalCourse context dnsRequeue object).marks.map (·.place)).Sublist Place.normal := by
  have hcreation := script.places_creationCourse context object.spec.bastion.enabled
    Subsystem.creationOrder
  rw [normalCourse, Course.andThen]
  split
  next => exact hcreation.trans (List.sublist_append_left _ [Place.publication])
  next hok =>
    have hmarks := script.marks_creationCourse context object.spec.bastion.enabled hok
    simp only [hmarks, List.map_append]
    exact (script.places_done _).append (places_awaitMarks _ _)

theorem Script.places_deletionCourse (script : Script) (context : ServiceContext) :
    ∀ subsystems : List Subsystem,
      ((script.deletionCourse context subsystems).marks.map (·.place)).Sublist
        (subsystems.flatMap Subsystem.places)
  | [] => .refl _
  | subsystem :: rest => by
    have hrest := places_deletionCourse script context rest
    have hfirst := subsystem.places_deletionMarks (script.ending ⟨.delete, subsystem⟩).result
    rw [deletionCourse, List.map_append, List.flatMap_cons]
    exact hfirst.append hrest

/-- Marks in places of their own, apart from the summary. -/
def Mark.Apart (marks : List Mark) : Prop :=
  (Mark.summary.place :: marks.map (·.place)).Nodup

theorem Script.apart_passCourse (script : Script) (context : ServiceContext) (dnsRequeue : Nat)
    (deleting : Bool) (object : AwsCluster) :
    Mark.Apart (script.passCourse context dnsRequeue deleting object).marks := by
  rw [passCourse]
  split
  next =>
    have hplaces : (Mark.summary.place :: Subsystem.deletionOrder.flatMap
        Subsystem.places).Nodup := by decide
    exact hplaces.sublist ((script.places_deletionCourse context _).cons_cons _)
  next =>
    have hplaces : (Mark.summary.place :: Place.normal).Nodup := by decide
    exact hplaces.sublist ((script.places_normalCourse context dnsRequeue object).cons_cons _)

theorem Script.routine_creationCourse (script : Script) (context : ServiceContext)
    (object : AwsCluster) : ∀ subsystems : List Subsystem,
      ∀ mark ∈ (script.creationCourse context object.spec.bastion.enabled subsystems).marks,
        mark.Routine script (script.prospect object)
  | [], _, hmem => nomatch hmem
  | subsystem :: rest, mark, hmem => by
    have hfirst := @routine_creationMarks script object subsystem
      (script.ending ⟨.reconcile, subsystem⟩).result
    rw [creationCourse, Course.andThen] at hmem
    split at hmem
    · exact hfirst mark hmem
    · rcases List.mem_append.1 hmem with hmem | hmem
      · exact hfirst mark hmem
      · exact routine_creationCourse script context object rest mark hmem

/-- The marks of a normal pass are routine. -/
theorem Script.routine_normalCourse (script : Script) (context : ServiceContext)
    (dnsRequeue : Nat) (object : AwsCluster) :
    ∀ mark ∈ (script.normalCourse context dnsRequeue object).marks,
      mark.Routine script (script.prospect object) := by
  have hcreation := script.routine_creationCourse context object Subsystem.creationOrder
  rw [normalCourse, Course.andThen]
  split
  · exact hcreation
  · refine List.forall_mem_append.2 ⟨hcreation, ?_⟩
    rw [awaitCourse, ← dnsName?_prospect]
    refine routine_awaitMarks fun host resolves hname hanswer => ?_
    rw [hname] at hanswer
    exact (Option.some.inj hanswer).symm

/-- Akin objects take the same course in a normal pass. -/
theorem Script.Akin.normalCourse {script : Script} {a b : AwsCluster} (h : script.Akin a b)
    (context : ServiceContext) (dnsRequeue : Nat) :
    script.normalCourse context dnsRequeue b = script.normalCourse context dnsRequeue a := by
  rw [Script.normalCourse, Script.normalCourse, h.dnsName?, h.bastion]

/-- Where a deletion fails, a delete pass is not complete. -/
theorem Script.failing_deletionCourse {script : Script} (context : ServiceContext)
    {subsystem : Subsystem} (h : (script.failures.get? ⟨.delete, subsystem⟩).isSome = true) :
    ∀ {subsystems : List Subsystem}, subsystem ∈ subsystems →
      (script.deletionCourse context subsystems).result ≠ []
  | first :: rest, hmem => by
    rw [deletionCourse]
    intro hnil
    rw [List.append_eq_nil_iff] at hnil
    rcases List.mem_cons.1 hmem with rfl | hmem
    · obtain ⟨message, hmessage⟩ := Option.isSome_iff_exists.1 h
      have hresult := hnil.1
      simp [removalCourse, ending, hmessage, Ending.result] at hresult
    · exact failing_deletionCourse context h hmem hnil.2

/-! ### Passes -/

namespace Attempt

variable {α : Type} {script : Script} {course : Course α} {a b : Attempt Script}

/-- The services follow a plain script, and the invocation has not been cancelled. -/
structure Undisturbed (script : Script) (a : Attempt Script) : Prop where
  plain : script.Plain
  cloud : a.world.cloud = script
  cancelled : a.cancelled = false

/-- Something took its course. -/
structure Runs (script : Script) (course : Course α) (a : Attempt Script)
    (out : α × Attempt Script) : Prop where
  result : out.1 = course.result
  makes : a.Makes (· = script) course.marks out.2
  undisturbed : out.2.Undisturbed script
  told : ∃ events, out.2.world.journal = a.world.journal ++ events ∧
    events.map Event.bare = course.events

theorem Undisturbed.call (h : a.Undisturbed script) (context : ServiceContext) (call : ServiceCall) :
    Runs script (script.callCourse context call) a (a.call scriptedCloud context call) := by
  have hmakes := makes_call h.plain.mocks context call h.cloud
  have hanswer := h.plain.answer call a.scope.object
  have hcall : a.call scriptedCloud context call
      = ((script.ending call).result, a.made scriptedCloud context call) := by
    rw [call_eq, if_neg (by rw [h.cancelled]; decide), ← hanswer.1, ← h.cloud]
    rfl
  rw [hcall] at hmakes ⊢
  have hending : (scriptedCloud.call call context a.scope.object a.world.cloud).1.ending
      = script.ending call := by rw [h.cloud]; exact hanswer.1
  have hcancelled : (scriptedCloud.call call context a.scope.object a.world.cloud).1.cancelled
      = false := by rw [h.cloud]; exact hanswer.2
  refine ⟨rfl, hmakes, ⟨h.plain, hmakes.fit h.cloud, ?_⟩, _, journal_made .., ?_⟩
  · have hmade : (a.made scriptedCloud context call).cancelled = (a.cancelled ||
        (scriptedCloud.call call context a.scope.object a.world.cloud).1.cancelled ||
        (scriptedCloud.call call context a.scope.object a.world.cloud).1.ending = .interrupted) := rfl
    rw [hmade, h.cancelled, hcancelled, hending, Script.ending]
    cases script.failures.get? call <;> rfl
  · rw [hending]
    rfl

/-- A call that is carried out takes the course of the call, but for the marks. -/
theorem Undisturbed.carryOut (h : a.Undisturbed script) (context : ServiceContext)
    (call : ServiceCall) :
    (a.carryOut scriptedCloud context call).1 = (script.ending call).result ∧
    (a.carryOut scriptedCloud context call).2.Undisturbed script ∧
    ∃ events, (a.carryOut scriptedCloud context call).2.world.journal = a.world.journal ++ events ∧
      events.map Event.bare = script.callEvents context call := by
  have hcall := h.call context call
  obtain ⟨metrics, clock, now, heq⟩ := a.exists_carryOut_eq scriptedCloud context call
  rw [heq]
  exact ⟨hcall.result, ⟨h.plain, hcall.undisturbed.cloud, hcall.undisturbed.cancelled⟩, hcall.told⟩

theorem Undisturbed.reconcileSubsystem (h : a.Undisturbed script) (context : ServiceContext)
    (subsystem : Subsystem) :
    Runs script (script.subsystemCourse context a.scope.object.spec.bastion.enabled subsystem) a
      (a.reconcileSubsystem scriptedCloud context subsystem) := by
  have hmakes := makes_reconcileSubsystem h.plain.mocks context subsystem h.cloud
  obtain ⟨hresult, hundisturbed, htold⟩ := h.carryOut context ⟨.reconcile, subsystem⟩
  rw [(h.call context _).result] at hmakes
  rw [reconcileSubsystem_eq] at hmakes ⊢
  refine ⟨?_, hmakes, hundisturbed, htold⟩
  rw [hresult]
  rfl

/-- One course after another. -/
theorem Runs.andThen_ok {ε β : Type} {course : Course (Except ε Unit)}
    {next : Course (Except ε β)} {out : Except ε β × Attempt Script}
    (h : Runs script course a (.ok (), b)) (h' : Runs script next b out) :
    Runs script (course.andThen next) a out := by
  obtain ⟨events, hevents, hbare⟩ := h.told
  obtain ⟨events', hevents', hbare'⟩ := h'.told
  have hresult : course.result = .ok () := h.result.symm
  rw [Course.andThen, hresult]
  refine ⟨h'.result, h.makes.trans h'.makes, h'.undisturbed, events ++ events', ?_, ?_⟩
  · rw [hevents', hevents, List.append_assoc]
  · rw [List.map_append, hbare, hbare']

theorem Runs.andThen_error {ε β : Type} {course : Course (Except ε Unit)} {e : ε}
    (h : Runs script course a (.error e, b)) (next : Course (Except ε β)) :
    Runs script (course.andThen next) a (.error e, b) := by
  have hresult : course.result = .error e := h.result.symm
  rw [Course.andThen, hresult]
  exact ⟨rfl, h.makes, h.undisturbed, h.told⟩

theorem Undisturbed.reconcileInOrder (context : ServiceContext) : ∀ (subsystems : List Subsystem)
    {a : Attempt Script}, a.Undisturbed script →
    Runs script (script.creationCourse context a.scope.object.spec.bastion.enabled subsystems) a
      (a.reconcileInOrder scriptedCloud context subsystems)
  | [], a, h => ⟨rfl, .refl a, h, [], (List.append_nil _).symm, rfl⟩
  | subsystem :: rest, a, h => by
    have hfirst := h.reconcileSubsystem context subsystem
    rw [Attempt.reconcileInOrder, Script.creationCourse]
    rcases hout : a.reconcileSubsystem scriptedCloud context subsystem with ⟨e | _, b⟩ <;>
      rw [hout] at hfirst
    · exact hfirst.andThen_error _
    · obtain ⟨endpoint, hspec⟩ := hfirst.makes.marked.spec
      have hrest := reconcileInOrder context rest hfirst.undisturbed
      rw [hspec] at hrest
      exact hfirst.andThen_ok hrest

theorem Undisturbed.lookUp (h : a.Undisturbed script) (host : String) :
    Runs script ⟨some (script.hosts.contains host), [], [.lookedUp host none]⟩ a
      (a.lookUp scriptedCloud host) := by
  have hmakes := (makes_lookUp h.plain.mocks host h.cloud).1
  have hout : a.lookUp scriptedCloud host = (some (script.hosts.contains host),
      { a with world := { a.world with cloud := script } }.log (.lookedUp host a.held)) := by
    rw [Attempt.lookUp, if_neg (by rw [h.cancelled]; decide), h.cloud]
    simp only [scriptedCloud, h.plain.resolve]
  rw [hout] at hmakes ⊢
  exact ⟨rfl, hmakes, ⟨h.plain, rfl, h.cancelled⟩, [.lookedUp host a.held], rfl, rfl⟩

theorem Undisturbed.awaitDnsName (h : a.Undisturbed script) (dnsRequeue : Nat) :
    Runs script (script.awaitCourse dnsRequeue a.scope.object.dnsName?) a
      (a.awaitDnsName scriptedCloud dnsRequeue) := by
  have hmakes := makes_awaitDnsName h.plain.mocks dnsRequeue h.cloud
  cases hname : a.scope.object.dnsName? with
  | none =>
    rw [hname] at hmakes
    rw [Attempt.awaitDnsName, hname] at hmakes ⊢
    exact ⟨rfl, hmakes, ⟨h.plain, h.cloud, h.cancelled⟩, [], (List.append_nil _).symm, rfl⟩
  | some host =>
    have hlookUp := h.lookUp host
    rw [hname, Option.bind_some, hlookUp.result] at hmakes
    have hcourse : script.awaitCourse dnsRequeue (some host)
        = ⟨.ok (if script.hosts.contains host then .noRequeue else .requeueAfter dnsRequeue),
          awaitMarks (some host) (some (script.hosts.contains host)), [.lookedUp host none]⟩ := rfl
    rw [hcourse]
    rcases hout : a.lookUp scriptedCloud host with ⟨answer, b⟩
    rw [hout] at hlookUp
    have hcloud := hlookUp.undisturbed.cloud
    have hcancelled := hlookUp.undisturbed.cancelled
    have hanswer : answer = some (script.hosts.contains host) := hlookUp.result
    rw [← hanswer] at hmakes
    simp only [Attempt.awaitDnsName, hname, hout] at hmakes ⊢
    generalize script.hosts.contains host = resolves at hanswer ⊢
    cases resolves
    · subst hanswer
      exact ⟨rfl, hmakes, ⟨h.plain, hcloud, hcancelled⟩, hlookUp.told⟩
    · subst hanswer
      exact ⟨rfl, hmakes, ⟨h.plain, hcloud, hcancelled⟩, hlookUp.told⟩

theorem Undisturbed.deleteSubsystem (h : a.Undisturbed script) (context : ServiceContext)
    (subsystem : Subsystem) : Runs script (script.removalCourse context subsystem) a
      (a.deleteSubsystem scriptedCloud context subsystem) := by
  have hmakes := makes_deleteSubsystem h.plain.mocks context subsystem h.cloud
  obtain ⟨hresult, hundisturbed, htold⟩ := h.carryOut context ⟨.delete, subsystem⟩
  rw [(h.call context _).result] at hmakes
  rw [deleteSubsystem_eq] at hmakes ⊢
  refine ⟨?_, hmakes, hundisturbed, htold⟩
  rw [hresult]
  rfl

theorem Undisturbed.deleteInOrder (context : ServiceContext) : ∀ (subsystems : List Subsystem)
    {a : Attempt Script}, a.Undisturbed script →
    Runs script (script.deletionCourse context subsystems) a
      (a.deleteInOrder scriptedCloud context subsystems)
  | [], a, h => ⟨rfl, .refl a, h, [], (List.append_nil _).symm, rfl⟩
  | subsystem :: rest, a, h => by
    have hfirst := h.deleteSubsystem context subsystem
    have hrest := deleteInOrder context rest hfirst.undisturbed
    obtain ⟨events, hevents, hbare⟩ := hfirst.told
    obtain ⟨events', hevents', hbare'⟩ := hrest.told
    refine ⟨?_, hfirst.makes.trans hrest.makes, hrest.undisturbed, events ++ events', ?_, ?_⟩
    · rw [Script.deletionCourse, ← hfirst.result, ← hrest.result]
      rfl
    · rw [← List.append_assoc, ← hevents, ← hevents']
      rfl
    · rw [List.map_append, hbare, hbare']
      rfl

/-- Once the finalizer is ensured, a normal pass takes its course. -/
theorem Undisturbed.runNormal (h : b.Undisturbed script) (hensure : a.ensureFinalizer = (.ok (), b))
    (dnsRequeue : Nat) : Runs script (script.normalCourse b.scope.context dnsRequeue b.scope.object) b
      (a.runNormal scriptedCloud dnsRequeue) := by
  have horder := h.reconcileInOrder b.scope.context Subsystem.creationOrder
  obtain ⟨marks, hmakes, hroutine, -⟩ :=
    makes_reconcileInOrder h.plain.mocks b.scope.context Subsystem.creationOrder h.cloud
  have hnamed := dnsName?_reconcileInOrder h.plain.mocks b.scope.context h.cloud
  rw [Attempt.runNormal, hensure, Script.normalCourse]
  simp only
  rcases hout : b.reconcileInOrder scriptedCloud b.scope.context Subsystem.creationOrder with
    ⟨e | _, c⟩ <;> rw [hout] at horder hmakes hnamed
  · exact horder.andThen_error _
  · have hname : c.scope.object.dnsName? = script.dnsName? b.scope.object := by
      rw [← (Script.Akin.of_marked hmakes.marked hroutine).dnsName?]
      exact hnamed rfl
    have hawait := horder.undisturbed.awaitDnsName dnsRequeue
    rw [hname] at hawait
    exact horder.andThen_ok hawait

/-- A delete pass in which a deletion fails takes its course. -/
theorem Undisturbed.runDelete (h : a.Undisturbed script)
    (hfails : (script.deletionCourse a.scope.context Subsystem.deletionOrder).result ≠ []) :
    Runs script (script.teardownCourse a.scope.context) a (a.runDelete scriptedCloud) := by
  have horder := h.deleteInOrder a.scope.context Subsystem.deletionOrder
  rw [Attempt.runDelete, Script.teardownCourse]
  rcases hout : a.deleteInOrder scriptedCloud a.scope.context Subsystem.deletionOrder with
    ⟨errors, b⟩
  rw [hout] at horder
  rw [← horder.result] at hfails ⊢
  cases errors with
  | nil => exact absurd rfl hfails
  | cons first others => exact ⟨rfl, horder.makes, horder.undisturbed, horder.told⟩

end Attempt

end ClusterInfra
