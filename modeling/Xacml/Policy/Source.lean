import Xacml.Evaluation.Error
import Xacml.Policy.Basic
import Xacml.Request.Basic

/-!
# Sources of policies

* `PolicySource` finds what references stand for, and the policies to be considered for a request,
* `PolicySnapshot` is a fixed collection of policies; a reference stands for the latest version
  that it accepts,
* `PolicyStore` holds a snapshot that can be replaced; who looks at a store through `pinned` goes
  on with the snapshot that it held.
-/

namespace Xacml

structure PolicySource where
  find : PolicyReference → Except EvaluationError (Option PolicyTree)
  roots : Request → Except EvaluationError (List PolicyTree)

/-! ## Snapshots -/

/-- Policies to be considered for every request, and further ones that can be referred to. -/
structure PolicySnapshot where
  roots : List PolicyTree
  library : List PolicyTree

namespace PolicySnapshot

def empty : PolicySnapshot := ⟨[], []⟩

def all (snapshot : PolicySnapshot) : List PolicyTree :=
  snapshot.roots ++ snapshot.library

/-- The numbers of the version of a tree; a reference has none. -/
def versionOf (tree : PolicyTree) : Version :=
  match tree.header? with
  | some header => header.version
  | none => ⟨[]⟩

/-- The tree with the later version; of two equal versions, the second one. -/
def later (best : Option PolicyTree) (tree : PolicyTree) : Option PolicyTree :=
  match best with
  | none => some tree
  | some other =>
      if (versionOf tree).order (versionOf other) = .lt then some other else some tree

/-- The tree that a reference stands for: the latest version that it accepts, the last one of
equal versions. -/
def find (snapshot : PolicySnapshot) (reference : PolicyReference) : Option PolicyTree :=
  (snapshot.all.filter reference.accepts).foldl later none

/-- A snapshot as a source; every root is considered for every request. -/
def source (snapshot : PolicySnapshot) : PolicySource where
  find := fun reference => .ok (snapshot.find reference)
  roots := fun _ => .ok snapshot.roots

end PolicySnapshot

/-! ## Stores -/

/-- A collection of policies that can be replaced. -/
structure PolicyStore where
  current : PolicySnapshot

namespace PolicyStore

def empty : PolicyStore := ⟨.empty⟩

def replace (_ : PolicyStore) (snapshot : PolicySnapshot) : PolicyStore := ⟨snapshot⟩

end PolicyStore

/-- What policies are looked up in: a store, whose policies may change, or a snapshot. -/
inductive PolicyView
  | store (current : PolicyStore)
  | snapshot (policies : PolicySnapshot)

namespace PolicyView

def policies : PolicyView → PolicySnapshot
  | store current => current.current
  | snapshot policies => policies

/-- A view that stays as it is while the store changes.  A snapshot needs none. -/
def pinned? : PolicyView → Option PolicySnapshot
  | store current => some current.current
  | snapshot _ => none

end PolicyView

end Xacml
