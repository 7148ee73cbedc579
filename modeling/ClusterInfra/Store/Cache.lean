import ClusterInfra.Resource.AwsCluster
/-!
The objects that a watch has delivered.

An object is identified by its name and its namespace, or by its name alone if it belongs to the
whole cluster. A look-up from a namespace finds the object of that namespace, and failing that the
one of the whole cluster.
-/

namespace ClusterInfra

/-- The latest state of every watched object. -/
structure Cache where
  objects : List AwsCluster := []

namespace Cache

/-- Whether two objects have the same identity. -/
def isSame (a b : AwsCluster) : Bool :=
  a.metadata.ns = b.metadata.ns && a.metadata.name = b.metadata.name

/-- Forgets an object. -/
def erase (cache : Cache) (object : AwsCluster) : Cache :=
  ⟨cache.objects.filter fun other => !isSame other object⟩

/-- Takes in the latest state of an object. -/
def insert (cache : Cache) (object : AwsCluster) : Cache :=
  ⟨(cache.erase object).objects ++ [object]⟩

/-- The object of a name in a namespace, or in the whole cluster. -/
def find? (cache : Cache) (ns : Option String) (name : String) : Option AwsCluster :=
  cache.objects.find? fun object =>
    object.metadata.ns = ns && object.metadata.name.getD "" = name

/-- Looks an object up from a namespace. -/
def lookup (cache : Cache) (key : ObjectKey) : Option AwsCluster :=
  (cache.find? (some key.ns) key.name).or (cache.find? none key.name)

end Cache

end ClusterInfra
