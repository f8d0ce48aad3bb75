import Xacml.Combining.Algorithm
import Xacml.Function.Catalog

/-!
# Registries

What the identifiers in policies stand for.
-/

namespace Xacml

/-- The functions and the algorithms that policies may name. -/
structure Registry where
  functions : FunctionRegistry
  algorithms : AlgorithmRegistry

/-- The functions and the algorithms of the specification. -/
def Registry.standard : Registry := ⟨.standard, .standard⟩

end Xacml
