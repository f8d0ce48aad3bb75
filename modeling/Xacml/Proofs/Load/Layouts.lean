import Xacml.Load.Policy
import Xacml.Proofs.Normal.Policies
import Xacml.Proofs.Related
import Xacml.Target.Matching

/-!
# Editions and the layouts of targets

A loaded policy has the edition of the policy language that it declares, or that of the nearest
policy set around it that declares one, or the one of the configuration.  The edition decides what
an error in the target means, while the layout of the target decides how it is matched; loading
makes the two agree.

* `PolicyTree.at?` and `Document.Node.at?` follow a path into a tree, and
  `Document.Node.declarations` are the editions that are declared along it,
* `Document.InEdition` says which edition these declarations give,
* `Target.Fits` says that a target is laid out as an edition has it, unless it holds of every
  request,
* `Document.layouts_follow_editions`: every node of a loaded document, at any depth, has the edition
  that is declared for it, and its target and those of its rules fit that edition.
-/

namespace Xacml

/-! ## Layouts -/

/-- The layout of the targets of an edition. -/
def SchemaVersion.layout : SchemaVersion → TargetLayout
  | v1_0 | v1_1 | v2_0 => .legacy
  | v3_0 => .anyOf

namespace Target

/-- The layout of a target, by which it is matched. -/
def layout : Target → TargetLayout
  | legacy _ => .legacy
  | anyOf _ => .anyOf

/-- Whether a target fits an edition: it has the layout of the edition, unless it holds of every
request.  So it has that layout wherever an error in it has to be interpreted. -/
structure Fits (target : Target) (edition : SchemaVersion) : Prop where
  layout : target.matchesAny = true ∨ target.layout = edition.layout
  indeterminate : ∀ (σ : Type) (facade : Facade (StateM σ)) (world : σ) (error : EvaluationError),
    ((target.evaluate facade).run world).1 = .indeterminate error →
      target.layout = edition.layout

variable {target : Target} {edition : SchemaVersion}

/-- A target that holds of every request is matched without an error. -/
theorem Fits.of_or (h : target.matchesAny = true ∨ target.layout = edition.layout) :
    target.Fits edition where
  layout := h
  indeterminate σ facade world error herror := by
    refine h.resolve_left fun hany => ?_
    unfold Target.evaluate at herror
    rw [if_pos hany] at herror
    cases herror

theorem fits_any (edition : SchemaVersion) : any.Fits edition :=
  .of_or (.inl rfl)

end Target

/-! ## Nodes of trees -/

namespace PolicyTree

/-- The node at a path, which tells the index of a child at each level. -/
def at? : PolicyTree → List Nat → Option PolicyTree
  | tree, [] => some tree
  | policySet _ children, index :: path =>
      children[index]?.bind fun child => child.element.at? path
  | _, _ :: _ => none

/-- The targets of a node: its own one and those of its rules. -/
def targets : PolicyTree → List Target
  | policy p => p.header.target :: p.rules.filterMap fun child => child.element.target
  | policySet header _ => [header.target]
  | reference _ => []

end PolicyTree

namespace Document

namespace Node

/-- The node at a path, which tells the index of a child at each level. -/
def at? : Node → List Nat → Option Node
  | node, [] => some node
  | policySet _ children, index :: path => children[index]?.bind fun child => child.at? path
  | _, _ :: _ => none

/-- The edition that a node declares itself. -/
def declared? : Node → Option String
  | policy p => p.header.xacmlVersion
  | policySet header _ => header.xacmlVersion
  | policyIdReference _ | policySetIdReference _ => none

/-- The editions that are declared along a path, those of the policy sets around the node at its end
and that of the node itself, the outermost first. -/
def declarations : Node → List Nat → List String
  | node, [] => node.declared?.toList
  | policySet header children, index :: path =>
      header.xacmlVersion.toList ++ children[index]?.elim [] fun child => child.declarations path
  | _, _ :: _ => []

end Node

/-- Whether declarations, the outermost first, give an edition.  The innermost one counts; without
any, it is the default. -/
def InEdition (default : SchemaVersion) (declarations : List String) (edition : SchemaVersion) :
    Prop :=
  declarations.getLast? = some edition.text ∨ declarations = [] ∧ edition = default

/-- Whether a tree is laid out as it is written: every policy and policy set in it stands where one
of that identifier is written, is of the edition that is declared there, and has targets that fit
this edition. -/
def LaidOut (default : SchemaVersion) (written : Node) (tree : PolicyTree) : Prop :=
  ∀ path node header, tree.at? path = some node → node.header? = some header →
    (∃ source, written.at? path = some source ∧ source.id = header.id) ∧
      InEdition default (written.declarations path) header.schema ∧
        ∀ target ∈ node.targets, target.Fits header.schema

/-! ## Loading targets -/

variable {registry : Registry} {functions : FunctionRegistry} {scope : Scope}
  {inherited schema : SchemaVersion}

theorem Target.layout_of_load {written : Target} {target : Xacml.Target}
    (h : written.load functions schema = .ok target) : target.layout = schema.layout := by
  unfold load at h
  split at h
  case h_1 conjuncts =>
    split at h
    case isTrue => cases h
    case isFalse hedition =>
      rcases exists_of_bind_eq_ok h with ⟨groups, -, h⟩
      cases h
      cases schema <;> first | rfl | exact absurd rfl hedition
  case h_2 sections =>
    split at h
    case isFalse => cases h
    case isTrue hedition =>
      rcases exists_of_bind_eq_ok h with ⟨groups, -, h⟩
      cases h
      cases schema <;> first | rfl | exact absurd hedition (by decide)

/-- A target that is written has the layout of its edition. -/
theorem layout_of_loadTarget? {written : Option Target} {found : Option Xacml.Target}
    (h : loadTarget? functions schema written = .ok found) :
    ∀ target ∈ found, target.layout = schema.layout := by
  cases written with
  | none =>
      cases h
      exact fun _ hmem => nomatch hmem
  | some written =>
      rcases exists_of_map_eq_ok h with ⟨target, hload, rfl⟩
      rintro _ ⟨⟩
      exact Target.layout_of_load hload

/-! ## Loading nodes -/

theorem inEdition_of_loadSchema {declared : Option String}
    (h : loadSchema inherited declared = .ok schema) :
    InEdition inherited declared.toList schema := by
  cases declared with
  | none =>
      cases h
      exact .inr ⟨rfl, rfl⟩
  | some text =>
      rw [loadSchema] at h
      split at h
      case h_1 found hfound =>
        cases h
        refine .inl ?_
        unfold SchemaVersion.read? at hfound
        split at hfound <;> cases hfound <;> rfl
      case h_2 => cases h

/-- Further declarations inside count before the inherited edition. -/
theorem InEdition.append {default edition : SchemaVersion} {outer inner : List String}
    (houter : InEdition default outer schema) (hinner : InEdition schema inner edition) :
    InEdition default (outer ++ inner) edition := by
  rcases hinner with hlast | ⟨rfl, rfl⟩
  · exact .inl (by rw [List.getLast?_append, hlast, Option.some_or])
  · rwa [List.append_nil]

theorem fits_of_loadTarget? {written : Option Target} {found : Option Xacml.Target}
    (h : loadTarget? functions schema written = .ok found) :
    ∀ target ∈ found, target.Fits schema :=
  fun target hmem => .of_or (.inr (layout_of_loadTarget? h target hmem))

theorem parts_of_headerLoad {algorithm : Algorithm} {written : Header} {header : PolicyHeader}
    (h : written.load functions schema algorithm = .ok header) :
    header.id = written.id ∧ header.schema = schema ∧ header.target.Fits schema := by
  rcases exists_of_bind_eq_ok h with ⟨parameters, -, h⟩
  rcases exists_of_bind_eq_ok h with ⟨version, -, h⟩
  rcases exists_of_bind_eq_ok h with ⟨target, htarget, h⟩
  cases h
  refine ⟨rfl, rfl, ?_⟩
  cases target with
  | none => exact Target.fits_any schema
  | some target => exact fits_of_loadTarget? htarget target rfl

theorem fits_of_ruleLoad {rule : Rule} {loaded : Xacml.Rule}
    {known known' : List Xacml.VariableDefinition}
    (hrun : (rule.load scope schema).run known = .ok (loaded, known')) :
    ∀ target ∈ loaded.target, target.Fits schema := by
  rw [Rule.load, run_within_eq_ok] at hrun
  rcases Loading.exists_of_run_bind hrun with ⟨obligations, k₁, -, hrun⟩
  rcases Loading.exists_of_run_bind hrun with ⟨advice, k₂, -, hrun⟩
  rcases Loading.exists_of_run_ofExcept_bind hrun with ⟨target, htarget, hrun⟩
  rcases Loading.exists_of_run_bind hrun with ⟨condition, k₃, -, hrun⟩
  cases hrun
  exact fits_of_loadTarget? htarget

theorem fits_of_loadRules {entries : List ChildParameters} {rules : List Rule}
    {known known' : List Xacml.VariableDefinition} {children : List (Child Xacml.Rule)}
    (hrun : (loadRules scope schema entries rules).run known = .ok (children, known')) :
    ∀ child ∈ children, ∀ target ∈ child.element.target, target.Fits schema := by
  induction rules generalizing known children with
  | nil =>
      cases hrun
      exact fun _ hmem => nomatch hmem
  | cons rule rest ih =>
      rw [loadRules] at hrun
      rcases Loading.exists_of_run_bind hrun with ⟨loaded, between, hrule, hrun⟩
      rcases Loading.exists_of_run_ofExcept_bind hrun with ⟨own, -, hrun⟩
      rcases Loading.exists_of_run_bind hrun with ⟨more, known', hmore, hrun⟩
      cases hrun
      exact List.forall_mem_cons.2 ⟨fits_of_ruleLoad hrule, ih hmore⟩

/-- A policy is laid out as it is written. -/
theorem parts_of_policyLoad {written : Policy} {p : Xacml.Policy}
    (h : written.load registry inherited = .ok p) :
    p.header.id = written.header.id ∧
      InEdition inherited written.header.xacmlVersion.toList p.header.schema ∧
        ∀ target ∈ (PolicyTree.policy p).targets, target.Fits p.header.schema := by
  rw [Policy.load] at h
  rcases exists_of_map_eq_ok h with ⟨⟨loaded, final⟩, hrun, rfl⟩
  replace hrun := run_within_eq_ok.1 hrun
  rcases Loading.exists_of_run_ofExcept_bind hrun with ⟨schema, hschema, hrun⟩
  rcases Loading.exists_of_run_ofExcept_bind hrun with ⟨algorithm, -, hrun⟩
  rcases Loading.exists_of_run_ofExcept_bind hrun with ⟨_, -, hrun⟩
  rcases Loading.exists_of_run_ofExcept_bind hrun with ⟨header, hheader, hrun⟩
  rcases Loading.exists_of_run_bind hrun with ⟨definitions, k₁, -, hrun⟩
  rcases Loading.exists_of_run_ofExcept_bind hrun with ⟨_, -, hrun⟩
  rcases Loading.exists_of_run_bind hrun with ⟨rules, k₂, hrules, hrun⟩
  rcases Loading.exists_of_run_bind hrun with ⟨obligations, k₃, -, hrun⟩
  rcases Loading.exists_of_run_bind hrun with ⟨advice, k₄, -, hrun⟩
  cases hrun
  rcases parts_of_headerLoad hheader with ⟨hid, rfl, hfits⟩
  refine ⟨hid, inEdition_of_loadSchema hschema, List.forall_mem_cons.2 ⟨hfits, ?_⟩⟩
  intro target hmem
  rcases List.mem_filterMap.1 hmem with ⟨child, hchild, htarget⟩
  exact fits_of_loadRules hrules child hchild target htarget

theorem forall₂_of_loadChildren {entries : List ChildParameters} {nodes : List Node}
    {children : List (Child PolicyTree)}
    (h : Node.loadChildren registry inherited entries nodes = .ok children) :
    List.Forall₂ (fun node child => Node.load registry inherited node = .ok child.element)
      nodes children := by
  induction nodes generalizing children with
  | nil =>
      rw [Node.loadChildren] at h
      cases h
      exact .nil
  | cons node rest ih =>
      rw [Node.loadChildren] at h
      rcases exists_of_bind_eq_ok h with ⟨tree, htree, h⟩
      rcases exists_of_bind_eq_ok h with ⟨own, -, h⟩
      rcases exists_of_bind_eq_ok h with ⟨more, hmore, h⟩
      cases h
      exact .cons htree (ih hmore)

/-- A policy set is laid out as it is written, and its children inherit its edition. -/
theorem exists_of_load_policySet {written : Header} {nodes : List Node} {tree : PolicyTree}
    (h : Node.load registry inherited (.policySet written nodes) = .ok tree) :
    ∃ header children, tree = .policySet header children ∧ header.id = written.id ∧
      InEdition inherited written.xacmlVersion.toList header.schema ∧
        header.target.Fits header.schema ∧
          List.Forall₂
            (fun node child => Node.load registry header.schema node = .ok child.element)
            nodes children := by
  rw [Node.load] at h
  replace h := eq_ok_of_mapError h
  rcases exists_of_bind_eq_ok h with ⟨schema, hschema, h⟩
  rcases exists_of_bind_eq_ok h with ⟨algorithm, -, h⟩
  rcases exists_of_bind_eq_ok h with ⟨header, hheader, h⟩
  rcases exists_of_bind_eq_ok h with ⟨_, -, h⟩
  rcases exists_of_bind_eq_ok h with ⟨children, hchildren, h⟩
  rcases exists_of_bind_eq_ok h with ⟨obligations, -, h⟩
  rcases exists_of_bind_eq_ok h with ⟨advice, -, h⟩
  cases h
  rcases parts_of_headerLoad hheader with ⟨hid, rfl, hfits⟩
  exact ⟨_, children, rfl, hid, inEdition_of_loadSchema hschema, hfits,
    forall₂_of_loadChildren hchildren⟩

/-- By induction on the path, whose declarations are collected on the way. -/
theorem laidOut_of_load {written : Node} {tree : PolicyTree}
    (h : Node.load registry inherited written = .ok tree) : LaidOut inherited written tree := by
  intro path node header hnode hheader
  induction path generalizing inherited written tree with
  | nil =>
      rw [PolicyTree.at?] at hnode
      cases hnode
      cases written with
      | policy p =>
          rw [Node.load] at h
          rcases exists_of_map_eq_ok h with ⟨loaded, hload, rfl⟩
          rcases parts_of_policyLoad hload with ⟨hid, hedition, hfits⟩
          cases hheader
          exact ⟨⟨_, rfl, hid.symm⟩, hedition, hfits⟩
      | policySet declared nodes =>
          rcases exists_of_load_policySet h with ⟨loaded, children, rfl, hid, hedition, hfits, -⟩
          cases hheader
          exact ⟨⟨_, rfl, hid.symm⟩, hedition, List.forall_mem_singleton.2 hfits⟩
      | policyIdReference r | policySetIdReference r =>
          rw [Node.load] at h
          rcases exists_of_map_eq_ok h with ⟨reference, -, rfl⟩
          cases hheader
  | cons index path ih =>
      cases written with
      | policySet declared nodes =>
          rcases exists_of_load_policySet h with ⟨loaded, children, rfl, -, hedition, -, hloads⟩
          rw [PolicyTree.at?, Option.bind_eq_some_iff] at hnode
          rcases hnode with ⟨child, hchild, hnode⟩
          rcases exists_of_getElem?_forall₂ hloads hchild with ⟨source, hsource, hload⟩
          rcases ih hload hnode with ⟨hat, hinner, hfits⟩
          rw [Node.at?, Node.declarations, hsource]
          exact ⟨hat, hedition.append hinner, hfits⟩
      | policy p =>
          rw [Node.load] at h
          rcases exists_of_map_eq_ok h with ⟨loaded, -, rfl⟩
          cases hnode
      | policyIdReference r | policySetIdReference r =>
          rw [Node.load] at h
          rcases exists_of_map_eq_ok h with ⟨reference, -, rfl⟩
          cases hnode

/-- Every node of a loaded document, at any depth, is of the edition that is declared for it: by
itself, else by the nearest policy set around it that declares one, else by the configuration.  Its
target and those of its rules have the layout of that edition, unless they hold of every request. -/
theorem layouts_follow_editions {config : Config} {document : Document} {snapshot : PolicySnapshot}
    (h : document.load registry config = .ok snapshot) :
    List.Forall₂ (LaidOut config.defaultSchema) document.policies snapshot.roots ∧
      List.Forall₂ (LaidOut config.defaultSchema) document.library snapshot.library := by
  rw [load] at h
  rcases exists_of_bind_eq_ok h with ⟨roots, hroots, h⟩
  rcases exists_of_bind_eq_ok h with ⟨library, hlibrary, h⟩
  cases h
  exact ⟨(forall₂_of_mapM hroots).imp fun _ _ => laidOut_of_load,
    (forall₂_of_mapM hlibrary).imp fun _ _ => laidOut_of_load⟩

namespace Editions

/-- A match with a literal. -/
def isA : Match where
  matchId := DataType.functionId .first .string "equal"
  value := ⟨DataType.string.uri, "a", none⟩
  lookup := .designator ⟨"c", "id", DataType.string.uri, none, false⟩

/-- A header of an identifier that declares an edition, or none. -/
def header (level : Level) (id : String) (edition : Option String) (target : Option Target) :
    Header where
  id := id
  version := none
  xacmlVersion := edition
  description := none
  target := target
  combiningAlgorithm := level.algorithmId "3.0" "deny-overrides"
  combinerParameters := []
  childParameters := []
  obligations := []
  advice := []

/-- A policy of an edition with one rule, which alone has a target. -/
def policy (id : String) (edition : Option String) (target : Target) : Node :=
  .policy
    { header := header .rules id edition none
      definitions := []
      rules := [⟨"r", .permit, none, some target, none, [], []⟩] }

/-- A policy set of an earlier edition around a policy set that declares nothing, which contains a
policy that declares nothing and one that declares the current edition. -/
def document : Document where
  policies :=
    [.policySet (header .policies "outer" (some "2.0") (some (.legacy ⟨[⟨[isA]⟩], [], [], []⟩)))
      [.policySet (header .policies "inner" none none)
        [policy "old" none (.legacy ⟨[], [⟨[isA]⟩], [], []⟩),
          policy "new" (some "3.0") (.anyOf [⟨[⟨[isA]⟩]⟩])]]]
  library := [policy "other" none (.anyOf [⟨[⟨[isA]⟩]⟩])]

/-- The policies of the document. -/
def snapshot : PolicySnapshot :=
  ((document.load .standard .default).toOption).getD ⟨[], []⟩

end Editions

theorem layouts_follow_editions_nested :
    Editions.document.load .standard .default = .ok Editions.snapshot ∧
      List.Forall₂ (LaidOut .v3_0) Editions.document.policies Editions.snapshot.roots ∧
        List.Forall₂ (LaidOut .v3_0) Editions.document.library Editions.snapshot.library :=
  have hload : Editions.document.load .standard .default = .ok Editions.snapshot := rfl
  ⟨hload, layouts_follow_editions hload⟩

end Document

end Xacml
