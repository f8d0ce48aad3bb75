import Xacml.Function.HigherOrder

/-!
# The catalog of functions

* `Function.standard` lists the functions of the specification,
* `FunctionRegistry` is a collection of functions with distinct identifiers.
-/

namespace Xacml

/-! ## Standard functions -/

namespace Function

/-- The functions on durations that are also known under an identifier of the first edition. -/
def renamedDurations : List Function :=
  (ShiftOp.all.map fun op =>
      (ofStrict (.shift op)).renamed (Edition.first.base ++ op.name)) ++
    [DataType.dayTimeDuration, .yearMonthDuration].map fun type =>
      (ofStrict (.comparison (.equal type))).renamed (DataType.functionId .first type "equal")

/-- The functions that call another function. -/
def higherOrder : List Function :=
  let ofEdition (edition : Edition) (legacy : Bool) (op : HigherOrderOp) : Function :=
    ⟨edition.base ++ op.name, .higherOrder op legacy⟩
  [HigherOrderOp.anyOf, .allOf, .anyOfAny, .map].map (ofEdition .third false) ++
    [HigherOrderOp.anyOf, .allOf, .anyOfAny, .allOfAny, .anyOfAll, .allOfAll, .map].map
      (ofEdition .first true)

def strictOps : List StrictOp :=
  IntegerOp.all.map .integer ++ DoubleOp.all.map .double ++ ShiftOp.all.map .shift ++
    TextOp.all.map .text ++ ConversionOp.all.map .conversion ++
    ComparisonOp.all.map .comparison ++ MatchOp.all.map .matching ++
    DataType.bagTypes.flatMap (fun type => BagOp.all.map fun op => .bag op type) ++
    DataType.bagTypes.flatMap (fun type => SetOp.all.map fun op => .set op type)

def standard : List Function :=
  strictOps.map ofStrict ++ LogicalOp.all.map ofLogical ++ higherOrder ++ renamedDurations

end Function

/-! ## Registries -/

/-- Functions that policies may name. -/
structure FunctionRegistry where
  functions : List Function

namespace FunctionRegistry

def standard : FunctionRegistry := ⟨Function.standard⟩

def find? (registry : FunctionRegistry) (id : String) : Option Function :=
  registry.functions.find? fun f => f.id = id

/-- An identifier that is already taken. -/
structure Duplicate where
  id : String
  deriving DecidableEq, Repr

def Duplicate.message (duplicate : Duplicate) : String :=
  let id := duplicate.id
  s!"function `{id}` is defined more than once"

/-- Adds a function under an identifier that is not taken. -/
def register (registry : FunctionRegistry) (f : Function) : Except Duplicate FunctionRegistry :=
  match registry.find? f.id with
  | some _ => .error ⟨f.id⟩
  | none => .ok ⟨registry.functions ++ [f]⟩

end FunctionRegistry

end Xacml
