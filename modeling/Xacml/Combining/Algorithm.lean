import Xacml.Decision

/-!
# Combining algorithms

A combining algorithm makes one decision of the decisions of rules, or of policies.

* `Method` is what an algorithm does,
* `Algorithm` is a method under an identifier,
* `AlgorithmRegistry` is a collection of algorithms for rules and for policies.
-/

namespace Xacml

/-! ## Algorithms -/

inductive Level
  | rules
  | policies
  deriving DecidableEq, Repr

/-- What a combining algorithm does: one effect overrides the other, one effect holds unless the
other is decided, the first applicable child decides, the only applicable child decides, or one
effect overrides the other as it did in earlier editions. -/
inductive Method
  | overrides (winner : Effect)
  | unlessOpposed (fallback : Effect)
  | firstApplicable
  | onlyOneApplicable
  | legacyOverrides (winner : Effect) (level : Level)
  deriving DecidableEq, Repr

structure Algorithm where
  id : String
  method : Method
  deriving DecidableEq, Repr

/-! ## Standard algorithms -/

namespace Level

def name : Level → String
  | rules => "rule"
  | policies => "policy"

/-- The identifier of an algorithm of an edition for a level. -/
def algorithmId (level : Level) (edition name : String) : String :=
  "urn:oasis:names:tc:xacml:" ++ edition ++ ":" ++ level.name ++ "-combining-algorithm:" ++ name

/-- The standard algorithms for a level, but for `only-one-applicable`. -/
def commonAlgorithms (level : Level) : List Algorithm :=
  [ ⟨level.algorithmId "3.0" "deny-overrides", .overrides .deny⟩
  , ⟨level.algorithmId "3.0" "permit-overrides", .overrides .permit⟩
  , ⟨level.algorithmId "3.0" "ordered-deny-overrides", .overrides .deny⟩
  , ⟨level.algorithmId "3.0" "ordered-permit-overrides", .overrides .permit⟩
  , ⟨level.algorithmId "3.0" "deny-unless-permit", .unlessOpposed .deny⟩
  , ⟨level.algorithmId "3.0" "permit-unless-deny", .unlessOpposed .permit⟩
  , ⟨level.algorithmId "1.0" "first-applicable", .firstApplicable⟩
  , ⟨level.algorithmId "1.0" "deny-overrides", .legacyOverrides .deny level⟩
  , ⟨level.algorithmId "1.0" "permit-overrides", .legacyOverrides .permit level⟩
  , ⟨level.algorithmId "1.1" "ordered-deny-overrides", .legacyOverrides .deny level⟩
  , ⟨level.algorithmId "1.1" "ordered-permit-overrides", .legacyOverrides .permit level⟩ ]

end Level

/-- The identifier of `only-one-applicable`, which combines policies alone. -/
def Algorithm.onlyOneApplicableId : String :=
  Level.policies.algorithmId "1.0" "only-one-applicable"

/-! ## Registries -/

/-- The algorithms that policies and policy sets may name. -/
structure AlgorithmRegistry where
  rules : List Algorithm
  policies : List Algorithm

/-- What an algorithm is registered for. -/
inductive AlgorithmScope
  | rules
  | policies
  | both
  deriving DecidableEq, Repr

def AlgorithmScope.includes : AlgorithmScope → Level → Bool
  | both, _ => true
  | rules, .rules => true
  | policies, .policies => true
  | _, _ => false

namespace AlgorithmRegistry

/-- The registry of the standard algorithms. -/
def standard : AlgorithmRegistry where
  rules := Level.rules.commonAlgorithms
  policies :=
    ⟨Algorithm.onlyOneApplicableId, .onlyOneApplicable⟩ :: Level.policies.commonAlgorithms

def atLevel (registry : AlgorithmRegistry) : Level → List Algorithm
  | .rules => registry.rules
  | .policies => registry.policies

/-- The algorithm with an identifier for a level. -/
def find? (registry : AlgorithmRegistry) (level : Level) (id : String) : Option Algorithm :=
  (registry.atLevel level).find? fun algorithm => algorithm.id = id

/-- An identifier that is already taken. -/
structure Duplicate where
  id : String
  deriving DecidableEq, Repr

def Duplicate.message (duplicate : Duplicate) : String :=
  let id := duplicate.id
  s!"combining algorithm `{id}` is defined more than once"

/-- Whether an identifier is taken at a level of a scope. -/
def isTaken (registry : AlgorithmRegistry) (scope : AlgorithmScope) (id : String) : Bool :=
  [Level.rules, Level.policies].any fun level =>
    scope.includes level && (registry.find? level id).isSome

/-- Adds an algorithm to a scope in which its identifier is not taken. -/
def register (registry : AlgorithmRegistry) (algorithm : Algorithm) (scope : AlgorithmScope) :
    Except Duplicate AlgorithmRegistry :=
  if registry.isTaken scope algorithm.id then .error ⟨algorithm.id⟩
  else
    let extend (level : Level) (list : List Algorithm) : List Algorithm :=
      if scope.includes level then list ++ [algorithm] else list
    .ok ⟨extend .rules registry.rules, extend .policies registry.policies⟩

end AlgorithmRegistry

end Xacml
