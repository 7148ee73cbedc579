import ClusterInfra.Json.Printer
import ClusterInfra.Resource.Definition
/-!
Prints the definitions of all resources, one document a line.
-/

open ClusterInfra

def main : IO Unit := do
  for definition in ResourceDefinition.all do
    IO.println definition.toJson.compact
