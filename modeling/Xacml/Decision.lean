import Xacml.DataType

/-!
# Decisions

* `Effect` is what a rule has in view,
* `Decision` is what an evaluation comes to; an Indeterminate one tells which effects it might have
  had,
* `Status` says what went wrong.
-/

namespace Xacml

/-! ## Effects -/

inductive Effect
  | permit
  | deny
  deriving DecidableEq, Repr

namespace Effect

def opposite : Effect → Effect
  | permit => deny
  | deny => permit

def name : Effect → String
  | permit => "Permit"
  | deny => "Deny"

def ofName? : String → Option Effect
  | "Permit" => some permit
  | "Deny" => some deny
  | _ => none

@[simp] theorem opposite_opposite (e : Effect) : e.opposite.opposite = e := by
  cases e <;> rfl

end Effect

/-! ## Decisions -/

/-- The effects that an evaluation might have had, if it had not failed. -/
inductive Extent
  | permit
  | deny
  | either
  deriving DecidableEq, Repr

namespace Extent

def ofEffect : Effect → Extent
  | .permit => permit
  | .deny => deny

def allows : Extent → Effect → Bool
  | either, _ => true
  | permit, .permit => true
  | deny, .deny => true
  | _, _ => false

def code : Extent → String
  | permit => "P"
  | deny => "D"
  | either => "DP"

def ofCode? : String → Option Extent
  | "P" => some permit
  | "D" => some deny
  | "DP" => some either
  | _ => none

end Extent

inductive Decision
  | permit
  | deny
  | indeterminate (extent : Extent)
  | notApplicable
  deriving DecidableEq, Repr

namespace Decision

def ofEffect : Effect → Decision
  | .permit => permit
  | .deny => deny

def effect? : Decision → Option Effect
  | permit => some .permit
  | deny => some .deny
  | _ => none

def isIndeterminate : Decision → Bool
  | indeterminate _ => true
  | _ => false

/-- The name of a decision, without the detail of an Indeterminate one. -/
def name : Decision → String
  | permit => "Permit"
  | deny => "Deny"
  | indeterminate _ => "Indeterminate"
  | notApplicable => "NotApplicable"

/-- The name of a decision with the detail of an Indeterminate one. -/
def text : Decision → String
  | indeterminate extent => "Indeterminate\x7b" ++ extent.code ++ "\x7d"
  | decision => decision.name

def ofText? : String → Option Decision
  | "Permit" => some permit
  | "Deny" => some deny
  | "NotApplicable" => some notApplicable
  | "Indeterminate\x7bP\x7d" => some (indeterminate .permit)
  | "Indeterminate\x7bD\x7d" => some (indeterminate .deny)
  | "Indeterminate\x7bDP\x7d" => some (indeterminate .either)
  | _ => none

/-- Reading the text of a decision gives the decision. -/
theorem ofText?_text (d : Decision) : ofText? d.text = some d := by
  cases d with
  | indeterminate extent => cases extent <;> rfl
  | _ => rfl

@[simp] theorem effect?_ofEffect (e : Effect) : (ofEffect e).effect? = some e := by
  cases e <;> rfl

theorem eq_ofEffect_of_effect? {d : Decision} {e : Effect} (h : d.effect? = some e) :
    d = ofEffect e := by
  cases d <;> cases e <;> simp_all [effect?, ofEffect]

end Decision

/-! ## Status -/

inductive StatusCode
  | ok
  | missingAttribute
  | syntaxError
  | processingError
  deriving DecidableEq, Repr

def StatusCode.uri : StatusCode → String
  | ok => "urn:oasis:names:tc:xacml:1.0:status:ok"
  | missingAttribute => "urn:oasis:names:tc:xacml:1.0:status:missing-attribute"
  | syntaxError => "urn:oasis:names:tc:xacml:1.0:status:syntax-error"
  | processingError => "urn:oasis:names:tc:xacml:1.0:status:processing-error"

/-- An attribute that was needed and not found. -/
structure MissingAttribute where
  category : String
  attributeId : String
  dataType : DataType
  issuer : Option String
  deriving DecidableEq, Repr

def MissingAttribute.text (missing : MissingAttribute) : String :=
  let id := missing.attributeId
  let type := missing.dataType.name
  let category := missing.category
  let place := s!"`{id}` ({type}) in `{category}`"
  match missing.issuer with
  | some issuer => s!"{place} issued by `{issuer}`"
  | none => place

/-- Why an evaluation came to its decision. -/
structure Status where
  code : StatusCode
  message : Option String
  missingAttributes : List MissingAttribute
  deriving DecidableEq, Repr

end Xacml
