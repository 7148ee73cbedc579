import ClusterInfra.Scope
/-!
How a scope is built, and the changes that can be staged in it.

Everything that a reconciliation does to its object goes through the operations of the scope, or is
done by a service to spec and status. Whichever it is, the object stays the same one, and what was
persisted last is left alone.
-/

namespace ClusterInfra.Scope

/-- A scope that can be built starts with the object as it was given. -/
theorem of_eq_ok {cluster : Cluster} {object : AwsCluster} {scope : Scope}
    (h : Scope.of cluster object = .ok scope) : scope = ⟨cluster, object, object⟩ := by
  simp only [Scope.of] at h
  split at h
  · cases h
  · split at h
    · cases h
    · split at h
      · cases h
      · cases h
        rfl

theorem hasFinalizer_addFinalizer (scope : Scope) :
    scope.addFinalizer.2.object.hasFinalizer = true := by
  rw [addFinalizer]
  split
  next h => exact h
  next => simp [AwsCluster.hasFinalizer, Metadata.hasFinalizer, setFinalizers, modifyObject]

/-- Whatever the services did to the scope, it has no finalizer after the removal. -/
theorem hasFinalizer_removeFinalizer (scope : Scope) :
    scope.removeFinalizer.2.object.hasFinalizer = false := by
  rw [removeFinalizer]
  split
  next h => simp [AwsCluster.hasFinalizer, Metadata.hasFinalizer, h]
  next => simp [AwsCluster.hasFinalizer, Metadata.hasFinalizer, setFinalizers, modifyObject]

/-- Removing the finalizer filters the finalizers, and changes nothing else. -/
theorem object_removeFinalizer (scope : Scope) :
    scope.removeFinalizer.2.object = { scope.object with metadata := { scope.object.metadata with
      finalizers := scope.object.metadata.finalizers.map (·.filter (· ≠ clusterFinalizer)) } } := by
  rw [removeFinalizer]
  split
  next h =>
    rw [h, Option.map_none, ← h]
  next finalizers h =>
    rw [h, Option.map_some]
    rfl

/-- A change that is staged in a scope. -/
inductive Edit
  | addFinalizer
  | removeFinalizer
  | markTrue (type : String) (now : Instant)
  | markFalse (type reason : String) (severity : Severity) (message : String) (now : Instant)
  | deleteCondition (type : String)
  | setControlPlaneEndpoint (endpoint : Endpoint)
  | setFailureDomain (zone : String) (domain : FailureDomain)
  | setReady (ready : Bool)
  | conclude (now : Instant)
  /-- A service writes to spec and status. -/
  | observe (spec : AwsClusterSpec) (status : Option AwsClusterStatus)

/-- Stages a change. -/
def edit (scope : Scope) : Edit → Scope
  | .addFinalizer => scope.addFinalizer.2
  | .removeFinalizer => scope.removeFinalizer.2
  | .markTrue type now => scope.markTrue type now
  | .markFalse type reason severity message now =>
    scope.markFalse type reason severity message now
  | .deleteCondition type => scope.deleteCondition type
  | .setControlPlaneEndpoint endpoint => scope.setControlPlaneEndpoint endpoint
  | .setFailureDomain zone domain => scope.setFailureDomain zone domain
  | .setReady ready => scope.setReady ready
  | .conclude now => scope.conclude now
  | .observe spec status => scope.modifyObject fun object => { object with spec, status }

/-- A change is one of the object. -/
theorem edit_eq (scope : Scope) (change : Edit) :
    scope.edit change = { scope with object := (scope.edit change).object } := by
  cases change with
  | addFinalizer =>
    rw [edit, addFinalizer]
    split <;> rfl
  | removeFinalizer =>
    rw [edit, removeFinalizer]
    split <;> rfl
  | deleteCondition type =>
    rw [edit, deleteCondition]
    split <;> rfl
  | _ => rfl

theorem saved_edit (scope : Scope) (change : Edit) : (scope.edit change).saved = scope.saved := by
  rw [edit_eq]

/-- A change leaves the metadata alone but for the finalizers. -/
theorem metadata_edit (scope : Scope) (change : Edit) :
    ∃ finalizers, (scope.edit change).object.metadata = { scope.object.metadata with finalizers } := by
  cases change with
  | addFinalizer =>
    rw [edit, addFinalizer]
    split
    · exact ⟨_, rfl⟩
    · exact ⟨_, rfl⟩
  | removeFinalizer =>
    rw [edit, removeFinalizer]
    split
    · exact ⟨_, rfl⟩
    · exact ⟨_, rfl⟩
  | deleteCondition type =>
    rw [edit, deleteCondition]
    split
    · exact ⟨_, rfl⟩
    · exact ⟨_, rfl⟩
  | _ => exact ⟨_, rfl⟩

theorem key_edit (scope : Scope) (change : Edit) :
    (scope.edit change).object.key = scope.object.key := by
  obtain ⟨finalizers, h⟩ := scope.metadata_edit change
  rw [AwsCluster.key, h]
  rfl

end ClusterInfra.Scope
