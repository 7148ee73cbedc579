import ClusterInfra.Reconcile.Attempt
/-!
The delete pass: tearing the infrastructure of a cluster down.

Every deletion is attempted, whatever became of the ones before it. The finalizer is removed only if
all of them succeeded in this pass.
-/

namespace ClusterInfra.Attempt

variable {σ : Type}

/-- Deletes one subsystem and reports on it; returns the error, if there was one. -/
def deleteSubsystem (cloud : Cloud σ) (context : ServiceContext) (subsystem : Subsystem)
    (a : Attempt σ) : Option ControllerError × Attempt σ :=
  let call : ServiceCall := ⟨.delete, subsystem⟩
  match a.call cloud context call with
  | (.ok (), a) =>
    (none, a.update fun now scope => scope.report subsystem Reason.deleted .info "" now)
  | (.error e, a) =>
    (some (e.toControllerError call),
      (a.countFailure call).update fun now scope =>
        scope.report subsystem Reason.deletionFailed .warning e.message now)

/-- Deletes subsystems in order and returns the errors of those that failed. -/
def deleteInOrder (cloud : Cloud σ) (context : ServiceContext) :
    List Subsystem → Attempt σ → List ControllerError × Attempt σ
  | [], a => ([], a)
  | subsystem :: rest, a =>
    let (error, a) := a.deleteSubsystem cloud context subsystem
    let (errors, a) := deleteInOrder cloud context rest a
    (error.toList ++ errors, a)

/-- The delete pass. -/
def runDelete (cloud : Cloud σ) (a : Attempt σ) : Except ControllerError Outcome × Attempt σ :=
  match a.deleteInOrder cloud a.scope.context Subsystem.deletionOrder with
  | ([], a) => (.ok .noRequeue, { a with scope := a.scope.removeFinalizer.2 })
  | (first :: others, a) => (.error (.deleteIncomplete (others.length + 1) first), a)

end ClusterInfra.Attempt
