import Xacml.Document.Policy
import Xacml.Proofs.Document.Parts
import Xacml.Request.Document

/-!
# Reading back documents and requests

* `Document.Policy.reads`, `Document.Node.reads` and `Document.reads` read back what is written of
  policies, nodes and documents, however deeply policy sets nest,
* `Document.Request.height_le` bounds the nesting of requests,
* `documents_read_back` puts this together with the reading of texts,
* `NestedSets.document_refused` is a document whose text nests too deeply.
-/

namespace Xacml

open Json (Reads FieldReads FieldsNumberFree listed flagged)

namespace Document

/-! ## Headers -/

theorem parameters_read (list : List CombinerParameter) :
    FieldReads (list? CombinerParameter.ofJson?) (listed (list.map CombinerParameter.toJson))
      list :=
  FieldReads.list fun parameter _ => CombinerParameter.reads parameter

theorem childParameters_read (list : List ChildParameters) :
    FieldReads (list? ChildParameters.ofJson?) (listed (list.map ChildParameters.toJson)) list :=
  FieldReads.list fun entry _ => ChildParameters.reads entry

theorem target_read (target : Option Target) :
    FieldReads (Json.optional Target.ofJson?) (target.map Target.toJson) target :=
  FieldReads.optional Target.reads rfl target

/-- The fields of a header before the children. -/
def Header.leading (header : Header) (idName level : String) : List (String × Option Json) :=
  [ (idName, some (.string header.id))
  , ("version", header.version.map .string)
  , ("xacmlVersion", header.xacmlVersion.map .string)
  , ("description", header.description.map .string)
  , ("target", header.target.map Target.toJson)
  , (level ++ "CombiningAlgorithm", some (.string header.combiningAlgorithm))
  , ("combinerParameters", listed (header.combinerParameters.map CombinerParameter.toJson))
  , (level ++ "CombinerParameters", listed (header.childParameters.map ChildParameters.toJson)) ]

/-- The fields of a header after the children. -/
def Header.trailing (header : Header) : List (String × Option Json) :=
  [ ("obligations", listed (header.obligations.map Obligation.toJson))
  , ("advice", listed (header.advice.map Obligation.toJson)) ]

theorem Header.fields_eq (header : Header) (idName level : String) :
    header.fields idName level =
      (Json.present (header.leading idName level), Json.present header.trailing) := by
  cases htarget : header.target <;>
    simp [fields, leading, trailing, htarget, obligationsField, Json.member]

theorem Header.numberFree_leading (header : Header) (idName level : String) :
    FieldsNumberFree (header.leading idName level) :=
  (Reads.string header.id).required.numberFree_cons _ <|
    (FieldReads.text header.version).numberFree_cons _ <|
    (FieldReads.text header.xacmlVersion).numberFree_cons _ <|
    (FieldReads.text header.description).numberFree_cons _ <|
    (target_read header.target).numberFree_cons _ <|
    (Reads.string header.combiningAlgorithm).required.numberFree_cons _ <|
    (parameters_read header.combinerParameters).numberFree_cons _ <|
    (childParameters_read header.childParameters).numberFree_cons _ .nil

theorem Header.numberFree_trailing (header : Header) : FieldsNumberFree header.trailing :=
  (obligations_read header.obligations).numberFree_cons _ <|
    (obligations_read header.advice).numberFree_cons _ .nil

/-! ## Policies and references -/

/-- The fields of a policy. -/
def Policy.recordFields (p : Policy) : List (String × Option Json) :=
  p.header.leading "policyId" "rule" ++
    [ ("variables", listed (p.definitions.map VariableDefinition.toJson))
    , ("rules", some (.array (p.rules.map Rule.toJson))) ] ++
    p.header.trailing

theorem Policy.members_eq (p : Policy) : p.members = Json.present p.recordFields := by
  simp [members, recordFields, Header.fields_eq, Json.present_append]

theorem Policy.names_recordFields (p : Policy) : p.recordFields.map Prod.fst = fieldNames :=
  rfl

theorem Policy.reads (p : Policy) : Reads ofJson? (Json.record p.recordFields) p := by
  have hdefinitions : FieldReads (list? VariableDefinition.ofJson?)
      (listed (p.definitions.map VariableDefinition.toJson)) p.definitions :=
    FieldReads.list fun definition _ => VariableDefinition.reads definition
  have hrules : FieldReads (list? Rule.ofJson?) (some (.array (p.rules.map Rule.toJson))) p.rules :=
    (Reads.array fun rule _ => Rule.reads rule).withDefault []
  refine Reads.record rfl (by decide) ?_ ?_
  · simp [recordFields, Header.leading, Header.trailing, (Reads.string _).required.read_eq,
      (FieldReads.text _).read_eq, (target_read _).read_eq, (parameters_read _).read_eq,
      (childParameters_read _).read_eq, (obligations_read _).read_eq, hdefinitions.read_eq,
      hrules.read_eq]
  · have hown := hdefinitions.numberFree_cons "variables" <| hrules.numberFree_cons "rules" .nil
    exact ((p.header.numberFree_leading _ _).append hown).append p.header.numberFree_trailing

/-- The fields of a reference. -/
def Reference.recordFields (r : Reference) : List (String × Option Json) :=
  [ ("id", some (.string r.id))
  , ("version", r.version.map .string)
  , ("earliestVersion", r.earliestVersion.map .string)
  , ("latestVersion", r.latestVersion.map .string) ]

theorem Reference.members_eq (r : Reference) : r.members = Json.present r.recordFields := by
  simp [members, recordFields]

theorem Reference.names_recordFields (r : Reference) :
    r.recordFields.map Prod.fst = ["id", "version", "earliestVersion", "latestVersion"] :=
  rfl

theorem Reference.reads (r : Reference) : Reads ofJson? (Json.record r.recordFields) r := by
  have hid := (Reads.string r.id).required
  have hversion := FieldReads.text r.version
  have hearliest := FieldReads.text r.earliestVersion
  have hlatest := FieldReads.text r.latestVersion
  refine Reads.record rfl (by decide) ?_ ?_
  · simp [recordFields, hid.read_eq, hversion.read_eq, hearliest.read_eq, hlatest.read_eq]
  · exact hid.numberFree_cons _ <| hversion.numberFree_cons _ <|
      hearliest.numberFree_cons _ <| hlatest.numberFree_cons _ .nil

/-! ## Nodes -/

namespace Node

theorem toJsonAll_eq_map (nodes : List Node) : toJsonAll nodes = nodes.map toJson := by
  induction nodes with
  | nil => rfl
  | cons node nodes ih => rw [toJsonAll, ih, List.map_cons]

/-- The kind of a node is told from its fields, none of which is called `type`. -/
theorem tagged?_object {names : List String} {fields : List (String × Option Json)}
    (hnames : fields.map Prod.fst = names) (h : "type" ∉ names) (nested : Bool) (kind : String) :
    tagged? nested (object kind (Json.present fields)) = some (kind, Json.record fields) := by
  have hother : ∀ entry ∈ Json.present fields, entry.1 ≠ "type" := fun _ =>
    Json.ne_of_mem_present (hnames ▸ h)
  have hvalues : Json.valuesOf "type" (("type", .string kind) :: Json.present fields) =
      [.string kind] := by
    rw [← List.singleton_append, Json.valuesOf_append, Json.valuesOf_eq_nil hother]
    simp [Json.valuesOf]
  have hrest : (("type", .string kind) :: Json.present fields).filter
      (fun entry => entry.1 ≠ "type") = Json.present fields := by
    rw [List.filter_cons_of_neg (by simp), List.filter_eq_self]
    simpa using hother
  rw [object, tagged?, hvalues, hrest]
  rfl

/-- A policy set is read back if its children are. -/
theorem reads_policySet {header : Header} {children : List Node} {depth : Nat}
    (h : ∀ node ∈ children, Reads (ofJsonWithin? true depth) node.toJson node) (nested : Bool) :
    Reads (ofJsonWithin? nested (depth + 1)) (policySet header children).toJson
      (policySet header children) := by
  let fields : List (String × Option Json) := header.leading "policySetId" "policy" ++
    [("children", some (.array (children.map toJson)))] ++ header.trailing
  have hjson : (policySet header children).toJson = object "PolicySet" (Json.present fields) := by
    simp [toJson, Header.fields_eq, fields, Json.present_append, toJsonAll_eq_map, Json.member]
  have hchildren : FieldReads (list? (ofJsonWithin? true depth))
      (some (.array (children.map toJson))) children :=
    (Reads.array h).withDefault []
  have hnames : fields.map Prod.fst = setFieldNames := rfl
  have hfields : Json.fields? setFieldNames .isOpen (Json.record fields) =
      some (fields.map Prod.snd) :=
    Json.fields?_record hnames (by decide)
  have htagged := tagged?_object hnames (by decide) nested "PolicySet"
  rw [hjson]
  constructor
  · simp only [ofJsonWithin?, htagged, hfields, Option.bind_eq_bind, Option.bind_some]
    simp [fields, Header.leading, Header.trailing, (Reads.string _).required.read_eq,
      (FieldReads.text _).read_eq, (target_read _).read_eq, (parameters_read _).read_eq,
      (childParameters_read _).read_eq, (obligations_read _).read_eq, hchildren.read_eq]
  · have hown := hchildren.numberFree_cons "children" .nil
    exact Json.membersNumberFree_present <|
      ((header.numberFree_leading _ _).append hown).append header.numberFree_trailing

theorem height_children_lt (header : Header) (children : List Node) :
    Json.itemsHeight (toJsonAll children) < (policySet header children).toJson.height := by
  have hmem : ("children", .array (toJsonAll children)) ∈
      (header.fields "policySetId" "policy").1 ++
        Json.field "children" (.array (toJsonAll children)) ++
        (header.fields "policySetId" "policy").2 := by
    simp [Json.field]
  have hheight := Json.height_le_membersHeight hmem
  rw [Json.height] at hheight
  simp only [toJson, object, Json.height, Json.membersHeight]
  omega

mutual

/-- A node is read back within its height. -/
theorem reads_within : ∀ (node : Node) (nested : Bool) (depth : Nat),
    node.toJson.height ≤ depth → Reads (ofJsonWithin? nested depth) node.toJson node
  | policy p, nested, depth + 1, _ => by
      have hpolicy := Policy.reads p
      rw [toJson, p.members_eq]
      refine ⟨?_, hpolicy.isNumberFree⟩
      simp [ofJsonWithin?, tagged?_object p.names_recordFields (by decide), hpolicy.read_eq]
  | policyIdReference r, nested, depth + 1, _ => by
      have hreference := Reference.reads r
      rw [toJson, r.members_eq]
      refine ⟨?_, hreference.isNumberFree⟩
      simp [ofJsonWithin?, tagged?_object r.names_recordFields (by decide), hreference.read_eq]
  | policySetIdReference r, nested, depth + 1, _ => by
      have hreference := Reference.reads r
      rw [toJson, r.members_eq]
      refine ⟨?_, hreference.isNumberFree⟩
      simp [ofJsonWithin?, tagged?_object r.names_recordFields (by decide), hreference.read_eq]
  | policySet header children, nested, depth, h => by
      have hheight := height_children_lt header children
      obtain ⟨depth, rfl⟩ : ∃ n, depth = n + 1 := ⟨depth - 1, by omega⟩
      exact reads_policySet (reads_all_within children depth (by omega)) nested

theorem reads_all_within : ∀ (nodes : List Node) (depth : Nat),
    Json.itemsHeight (toJsonAll nodes) ≤ depth →
    ∀ node ∈ nodes, Reads (ofJsonWithin? true depth) node.toJson node
  | [], _, _ => nofun
  | node :: nodes, depth, h => by
      obtain ⟨hheight, hrest⟩ := Nat.max_le.1 h
      exact List.forall_mem_cons.2
        ⟨reads_within node true depth hheight, reads_all_within nodes depth hrest⟩

end

theorem reads (node : Node) : Reads ofJson? node.toJson node :=
  have h := reads_within node false node.toJson.height le_rfl
  ⟨h.read_eq, h.isNumberFree⟩

end Node

end Document

/-! ## Documents -/

theorem Document.reads (document : Document) : Reads ofJson? document.toJson document := by
  have hjson : document.toJson = Json.record
      [ ("policies", some (.array (document.policies.map Node.toJson)))
      , ("library", listed (document.library.map Node.toJson)) ] := by
    simp [toJson, Json.record]
  have hpolicies :=
    (Reads.array fun node (_ : node ∈ document.policies) => Node.reads node).withDefault []
  have hlibrary := FieldReads.list fun node (_ : node ∈ document.library) => Node.reads node
  rw [hjson]
  refine Reads.record rfl (by decide) ?_ ?_
  · simp [list?, hpolicies.read_eq, hlibrary.read_eq]
  · exact hpolicies.numberFree_cons _ <| hlibrary.numberFree_cons _ .nil

/-- A text of a document is read back, unless it nests too deeply. -/
theorem Document.read?_render (document : Document) :
    read? document.toJson.render =
      if document.toJson.height ≤ Json.maxNesting then some document else none := by
  have hreads := Document.reads document
  rw [read?, Json.read?_render hreads.isNumberFree]
  split_ifs
  · exact hreads.read_eq
  · rfl

theorem Document.read?_renderPretty (document : Document) :
    read? document.toJson.renderPretty =
      if document.toJson.height ≤ Json.maxNesting then some document else none := by
  have hreads := Document.reads document
  rw [read?, Json.read?_renderPretty hreads.isNumberFree]
  split_ifs
  · exact hreads.read_eq
  · rfl

/-! ## Requests -/

namespace Document.Request

theorem Attribute.toJson_eq_record (a : Attribute) :
    a.toJson = Json.record
      [ ("attributeId", some (.string a.attributeId))
      , ("issuer", a.issuer.map .string)
      , ("includeInResult", flagged a.includeInResult)
      , ("values", some (.array (a.values.map TypedValue.toJson))) ] := by
  simp [toJson, Json.record]

theorem Attribute.reads (a : Attribute) : Reads ofJson? a.toJson a := by
  have hattributeId := (Reads.string a.attributeId).required
  have hissuer := FieldReads.text a.issuer
  have hincludeInResult := FieldReads.flag a.includeInResult
  have hvalues := (Reads.array fun typed (_ : typed ∈ a.values) => TypedValue.reads typed).required
  rw [toJson_eq_record]
  refine Reads.record rfl (by decide) ?_ ?_
  · simp [hattributeId.read_eq, hissuer.read_eq, hincludeInResult.read_eq, hvalues.read_eq]
  · exact hattributeId.numberFree_cons _ <| hissuer.numberFree_cons _ <|
      hincludeInResult.numberFree_cons _ <| hvalues.numberFree_cons _ .nil

theorem Category.toJson_eq_record (c : Category) :
    c.toJson = Json.record
      [ ("category", some (.string c.category))
      , ("attributes", some (.array (c.attributes.map Attribute.toJson))) ] :=
  rfl

theorem Category.reads (c : Category) : Reads ofJson? c.toJson c := by
  have hcategory := (Reads.string c.category).required
  have hattributes :=
    (Reads.array fun a (_ : a ∈ c.attributes) => Attribute.reads a).withDefault []
  rw [Category.toJson_eq_record]
  refine Reads.record rfl (by decide) ?_ ?_
  · simp [hcategory.read_eq, hattributes.read_eq]
  · exact hcategory.numberFree_cons _ <| hattributes.numberFree_cons _ .nil

theorem toJson_eq_record (request : Request) :
    request.toJson = Json.record
      [ ("returnPolicyIdList", flagged request.returnPolicyIdList)
      , ("combinedDecision", flagged request.combinedDecision)
      , ("categories", some (.array (request.categories.map Category.toJson))) ] := by
  simp [toJson, Json.record]

theorem reads (request : Request) : Reads ofJson? request.toJson request := by
  have hreturnPolicyIdList := FieldReads.flag request.returnPolicyIdList
  have hcombinedDecision := FieldReads.flag request.combinedDecision
  have hcategories :=
    (Reads.array fun c (_ : c ∈ request.categories) => Category.reads c).withDefault []
  rw [toJson_eq_record]
  refine Reads.record rfl (by decide) ?_ ?_
  · simp [hreturnPolicyIdList.read_eq, hcombinedDecision.read_eq, hcategories.read_eq]
  · exact hreturnPolicyIdList.numberFree_cons _ <| hcombinedDecision.numberFree_cons _ <|
      hcategories.numberFree_cons _ .nil

theorem height_typedValue_le (typed : TypedValue) : typed.toJson.height ≤ 1 := by
  rw [TypedValue.toJson_eq_record]
  refine Json.height_record_le ?_
  simp only [List.forall_mem_cons]
  exact ⟨by simp [Json.height], by simp [Json.height], Json.height_text_le 0 _,
    List.forall_mem_nil _⟩

theorem Attribute.height_le (a : Attribute) : a.toJson.height ≤ 3 := by
  have hvalues := Json.height_array_le fun typed (_ : typed ∈ a.values) =>
    height_typedValue_le typed
  rw [Attribute.toJson_eq_record]
  refine Json.height_record_le ?_
  simp only [List.forall_mem_cons]
  exact ⟨by simp [Json.height], Json.height_text_le 2 _, Json.height_flagged_le 2 _,
    by simpa using hvalues, List.forall_mem_nil _⟩

theorem Category.height_le (c : Category) : c.toJson.height ≤ 5 := by
  have hattributes := Json.height_array_le fun a (_ : a ∈ c.attributes) => Attribute.height_le a
  rw [Category.toJson_eq_record]
  refine Json.height_record_le ?_
  simp only [List.forall_mem_cons]
  exact ⟨by simp [Json.height], by simpa using hattributes, List.forall_mem_nil _⟩

/-- However many attributes there are, a request does not nest deeply. -/
theorem height_le (request : Request) : request.toJson.height ≤ 7 := by
  have hcategories := Json.height_array_le fun c (_ : c ∈ request.categories) =>
    Category.height_le c
  rw [toJson_eq_record]
  refine Json.height_record_le ?_
  simp only [List.forall_mem_cons]
  exact ⟨Json.height_flagged_le 6 _, Json.height_flagged_le 6 _, by simpa using hcategories,
    List.forall_mem_nil _⟩

theorem height_le_maxNesting (request : Request) :
    request.toJson.height ≤ Json.maxNesting :=
  request.height_le.trans (by decide)

theorem read?_render (request : Request) : read? request.toJson.render = some request := by
  have hreads := Request.reads request
  rw [read?, Json.read?_render hreads.isNumberFree, if_pos request.height_le_maxNesting]
  exact hreads.read_eq

theorem read?_renderPretty (request : Request) :
    read? request.toJson.renderPretty = some request := by
  have hreads := Request.reads request
  rw [read?, Json.read?_renderPretty hreads.isNumberFree, if_pos request.height_le_maxNesting]
  exact hreads.read_eq

end Document.Request

/-! ## Main result -/

/-- The texts of a document are read back if it nests at most 127 levels, and refused if it nests
deeper; the texts of a request are always read back. -/
theorem documents_read_back :
    (∀ document : Document, ∀ text ∈ [document.toJson.render, document.toJson.renderPretty],
      Document.read? text = if document.toJson.height ≤ 127 then some document else none) ∧
    (∀ request : Document.Request, ∀ text ∈ [request.toJson.render, request.toJson.renderPretty],
      Document.Request.read? text = some request) := by
  constructor
  · intro document
    simpa using ⟨document.read?_render, document.read?_renderPretty⟩
  · intro request
    simpa using ⟨request.read?_render, request.read?_renderPretty⟩

/-! ## Nested policy sets -/

namespace NestedSets

/-- A header without any optional parts. -/
def header : Document.Header where
  id := "set"
  version := none
  xacmlVersion := none
  description := none
  target := none
  combiningAlgorithm := "urn:oasis:names:tc:xacml:3.0:policy-combining-algorithm:deny-overrides"
  combinerParameters := []
  childParameters := []
  obligations := []
  advice := []

/-- Policy sets each of which is the only child of the one around it. -/
def nodes : Nat → List Document.Node
  | 0 => []
  | n + 1 => [.policySet header (nodes n)]

/-- The document with as many policy sets. -/
def document (n : Nat) : Document :=
  ⟨nodes n, []⟩

/-- Each policy set adds its object and the array of its children. -/
theorem height_nodes (n : Nat) : Json.itemsHeight (Document.Node.toJsonAll (nodes n)) = 2 * n := by
  induction n with
  | zero => rfl
  | succ n ih =>
      have hset : (Document.Node.policySet header (nodes n)).toJson.height =
          Json.itemsHeight (Document.Node.toJsonAll (nodes n)) + 2 := by
        simp [Document.Node.toJson, Document.Node.object, Document.Header.fields, header,
          Document.obligationsField, Json.height, Json.membersHeight, Json.member, listed]
      simp only [nodes, Document.Node.toJsonAll, Json.itemsHeight, hset, ih]
      omega

theorem height_document (n : Nat) : (document n).toJson.height = 2 * n + 2 := by
  rw [← height_nodes n, Document.Node.toJsonAll_eq_map]
  simp [document, Document.toJson, Json.height, Json.membersHeight, Json.member, listed]

/-- Policy sets that nest 63 deep make a text of 128 levels, which is refused. -/
theorem document_refused :
    (document 63).toJson.height = 128 ∧
      Document.read? (document 63).toJson.render = none ∧
      Document.read? (document 63).toJson.renderPretty = none := by
  have hheight := height_document 63
  refine ⟨hheight, ?_, ?_⟩
  · rw [Document.read?_render, hheight]
    rfl
  · rw [Document.read?_renderPretty, hheight]
    rfl

end NestedSets

end Xacml
