import ClusterInfra.Gateway.Services
import ClusterInfra.Resource.Cluster
/-!
A small object to try things on.

Results of type `Except` can be compared, so what becomes of this object can be computed.
-/

namespace ClusterInfra

instance decidableEqExcept {ε α : Type} [DecidableEq ε] [DecidableEq α] :
    DecidableEq (Except ε α)
  | .error e, .error e' => decidable_of_iff (e = e') (by rw [Except.error.injEq])
  | .ok a, .ok a' => decidable_of_iff (a = a') (by rw [Except.ok.injEq])
  | .error _, .ok _ => .isFalse nofun
  | .ok _, .error _ => .isFalse nofun

namespace Sample

/-- New Year of 2024. -/
def newYear : Instant := ⟨⟨2024, 1, 1, by decide⟩, 0, 0, 0, 0, by decide⟩

/-- The noon after. -/
def noon : Instant := ⟨newYear.date, 12, 0, 0, 0, by decide⟩

def key : ObjectKey := ⟨"default", "infra"⟩

def owner : Cluster := { metadata := { name := some "owner", ns := some "default" } }

/-- An object of this owner, with these finalizers. -/
def object (finalizers : Option (List String)) : AwsCluster where
  metadata := {
    name := some "infra", ns := some "default", resourceVersion := some "1", finalizers
    ownerReferences := some [{
      apiVersion := "cluster.x-k8s.io/v1beta1", kind := "Cluster", name := "owner", uid := ""
      controller := none, blockOwnerDeletion := none }] }
  spec := { region := "eu-west-1" }

/-- Another object of the same owner. -/
def neighbour : AwsCluster :=
  let object := object none
  { object with metadata := { object.metadata with name := some "neighbour" } }

/-- The object, with its deletion requested. -/
def deleted (finalizers : Option (List String)) : AwsCluster :=
  let live := object finalizers
  { live with metadata := { live.metadata with deletionTimestamp := some newYear.wholeSecond } }

/-- The object with the finalizer, with a DNS name and some conditions. -/
def named (conditions : Conditions) : AwsCluster :=
  { object (some [clusterFinalizer]) with status := some {
      network := { apiServerLoadBalancer := { dnsName := some "lb.example.com" } }
      conditions } }

/-- A gateway that answers every request alike. -/
def gateway : Gateway Unit where
  client := .of "http://gateway" "token"
  transport :=
    { send := fun _ _ => (.ok ⟨200, "\x7b\"vpc\":\x7b\"id\":\"vpc-1\"\x7d\x7d"⟩, ())
      pause := fun _ _ => () }

end Sample

end ClusterInfra
