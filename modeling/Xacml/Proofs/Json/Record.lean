import Mathlib.Data.List.Nodup
import Xacml.Json.Record
import Xacml.Proofs.Json.Text

/-!
# Reading written records

* `Json.record` is the object with some fields, of which absent ones are left out;
  `fields?_record` takes it apart again,
* `Json.Reads` says that a value is read as something, and has no numbers in it; `Json.FieldReads`
  says so of a field that may be absent.  There is one rule for each way to write a field, and
  `Reads.record` puts the fields of a record together.
-/

namespace Xacml
namespace Json

/-! ## Records -/

/-- A field as a member, if it is present. -/
def member (name : String) : Option Json → List (String × Json)
  | some json => [(name, json)]
  | none => []

/-- The members for the fields that are present. -/
def present (fields : List (String × Option Json)) : List (String × Json) :=
  fields.flatMap fun field => member field.1 field.2

/-- The object with the given fields. -/
def record (fields : List (String × Option Json)) : Json :=
  .object (present fields)

section

variable {name : String} {value : Option Json} {fields : List (String × Option Json)}

@[simp] theorem present_nil : present [] = [] :=
  rfl

@[simp] theorem present_cons :
    present ((name, value) :: fields) = member name value ++ present fields :=
  List.flatMap_cons

theorem present_append (first last : List (String × Option Json)) :
    present (first ++ last) = present first ++ present last :=
  List.flatMap_append

theorem mem_present {json : Json} (h : (name, json) ∈ present fields) :
    (name, some json) ∈ fields := by
  obtain ⟨⟨other, value⟩, hmem, hmember⟩ := List.mem_flatMap.1 h
  cases value with
  | none => cases hmember
  | some value =>
      cases List.mem_singleton.1 hmember
      exact hmem

theorem ne_of_mem_present {entry : String × Json} (h : name ∉ fields.map Prod.fst)
    (hmem : entry ∈ present fields) : entry.1 ≠ name := by
  rintro rfl
  exact h (List.mem_map_of_mem (mem_present hmem))

theorem valuesOf_append (name : String) (members more : List (String × Json)) :
    valuesOf name (members ++ more) = valuesOf name members ++ valuesOf name more := by
  simp [valuesOf]

theorem valuesOf_eq_nil {members : List (String × Json)} (h : ∀ entry ∈ members, entry.1 ≠ name) :
    valuesOf name members = [] := by
  rw [valuesOf, List.map_eq_nil_iff, List.filter_eq_nil_iff]
  simpa using h

theorem valuesOf_member_self (name : String) (value : Option Json) :
    valuesOf name (member name value) = value.toList := by
  cases value <;> simp [valuesOf, member]

theorem valuesOf_member_ne {other : String} (h : name ≠ other) (value : Option Json) :
    valuesOf other (member name value) = [] := by
  cases value <;> simp [valuesOf, member, h]

/-- In a record every field has the value it was written with. -/
theorem valuesOf_present (h : (fields.map Prod.fst).Nodup) (hmem : (name, value) ∈ fields) :
    valuesOf name (present fields) = value.toList := by
  induction fields with
  | nil => cases hmem
  | cons field fields ih =>
      obtain ⟨other, written⟩ := field
      obtain ⟨hother, hnodup⟩ := List.nodup_cons.1 h
      rw [present_cons, valuesOf_append]
      rcases List.mem_cons.1 hmem with heq | hmem
      · cases heq
        rw [valuesOf_member_self, valuesOf_eq_nil fun _ => ne_of_mem_present hother,
          List.append_nil]
      · have hne : other ≠ name := by
          rintro rfl
          exact hother (List.mem_map.2 ⟨_, hmem, rfl⟩)
        rw [valuesOf_member_ne hne, ih hnodup hmem, List.nil_append]

/-- What reads each item reads them all. -/
theorem mapM_eq_some_map {α β : Type} {read : α → Option β} {f : α → β} {items : List α}
    (h : ∀ item ∈ items, read item = some (f item)) : items.mapM read = some (items.map f) := by
  induction items with
  | nil => rfl
  | cons item items ih =>
      obtain ⟨hitem, hitems⟩ := List.forall_mem_cons.1 h
      rw [List.mapM_cons, hitem, ih hitems]
      rfl

/-- The fields of a record are found beside members that are none; only an open record may have
those. -/
theorem fields?_append {names : List String} {openness : Openness} {extra : List (String × Json)}
    (hfields : fields.map Prod.fst = names) (h : names.Nodup)
    (hopen : openness = .isClosed → extra = []) (hextra : ∀ entry ∈ extra, entry.1 ∉ names) :
    fields? names openness (.object (present fields ++ extra)) = some (fields.map Prod.snd) := by
  subst hfields
  have hnames : (openness = .isClosed && (present fields ++ extra).any fun entry =>
      !(fields.map Prod.fst).contains entry.1) = false := by
    cases openness with
    | isOpen => rfl
    | isClosed =>
        rw [hopen rfl, List.append_nil, Bool.and_eq_false_iff, List.any_eq_false]
        refine .inr fun entry hmem => ?_
        simpa using ⟨some entry.2, mem_present hmem⟩
  have hvalue : ∀ field ∈ fields, valuesOf field.1 (present fields ++ extra) =
      field.2.toList := by
    intro field hmem
    have hnone : valuesOf field.1 extra = [] := valuesOf_eq_nil fun entry hentry heq =>
      hextra entry hentry (heq ▸ List.mem_map_of_mem hmem)
    rw [valuesOf_append, hnone, List.append_nil, valuesOf_present h hmem]
  rw [fields?, hnames, if_neg Bool.false_ne_true, List.mapM_map]
  refine mapM_eq_some_map fun field hmem => ?_
  simp only [Function.comp_apply, hvalue field hmem]
  cases field.2 <;> rfl

theorem fields?_record {names : List String} {openness : Openness}
    (hfields : fields.map Prod.fst = names) (h : names.Nodup) :
    fields? names openness (record fields) = some (fields.map Prod.snd) := by
  rw [record, ← List.append_nil (present fields)]
  exact fields?_append hfields h (fun _ => rfl) nofun

/-! ## Numbers and nesting in records -/

/-- There is no number in any field that is present. -/
def FieldsNumberFree (fields : List (String × Option Json)) : Prop :=
  ∀ field ∈ fields, ∀ json ∈ field.2, json.isNumberFree = true

theorem membersNumberFree_iff {members : List (String × Json)} :
    membersNumberFree members = true ↔ ∀ entry ∈ members, entry.2.isNumberFree = true := by
  induction members with
  | nil => simp [membersNumberFree]
  | cons entry members ih => simp [membersNumberFree, ih]

theorem isNumberFree_case (name : String) (json : Json) :
    isNumberFree (.object [(name, json)]) = json.isNumberFree :=
  Bool.and_true _

theorem itemsNumberFree_iff {items : List Json} :
    itemsNumberFree items = true ↔ ∀ item ∈ items, item.isNumberFree = true := by
  induction items with
  | nil => simp [itemsNumberFree]
  | cons item items ih => simp [itemsNumberFree, ih]

theorem FieldsNumberFree.nil : FieldsNumberFree [] :=
  List.forall_mem_nil _

theorem FieldsNumberFree.append {more : List (String × Option Json)}
    (h : FieldsNumberFree fields) (hmore : FieldsNumberFree more) :
    FieldsNumberFree (fields ++ more) :=
  List.forall_mem_append.2 ⟨h, hmore⟩

theorem membersNumberFree_present (h : FieldsNumberFree fields) :
    membersNumberFree (present fields) = true :=
  membersNumberFree_iff.2 fun entry hmem => h (entry.1, some entry.2) (mem_present hmem) _ rfl

theorem height_le_membersHeight {members : List (String × Json)} {json : Json}
    (h : (name, json) ∈ members) : json.height ≤ membersHeight members := by
  induction members with
  | nil => cases h
  | cons entry members ih =>
      rw [membersHeight]
      rcases List.mem_cons.1 h with rfl | h
      · exact Nat.le_max_left _ _
      · exact (ih h).trans (Nat.le_max_right _ _)

theorem membersHeight_le {members : List (String × Json)} {n : Nat}
    (h : ∀ entry ∈ members, entry.2.height ≤ n) : membersHeight members ≤ n := by
  induction members with
  | nil => exact Nat.zero_le n
  | cons entry members ih =>
      obtain ⟨hentry, hmembers⟩ := List.forall_mem_cons.1 h
      exact Nat.max_le.2 ⟨hentry, ih hmembers⟩

theorem height_record_le {n : Nat} (h : ∀ field ∈ fields, ∀ json ∈ field.2, json.height ≤ n) :
    (record fields).height ≤ n + 1 :=
  Nat.succ_le_succ <| membersHeight_le fun entry hmem =>
    h (entry.1, some entry.2) (mem_present hmem) _ rfl

theorem height_array_le {α : Type} {write : α → Json} {items : List α} {n : Nat}
    (h : ∀ a ∈ items, (write a).height ≤ n) : (Json.array (items.map write)).height ≤ n + 1 := by
  refine Nat.succ_le_succ ?_
  induction items with
  | nil => exact Nat.zero_le n
  | cons a items ih =>
      obtain ⟨ha, hitems⟩ := List.forall_mem_cons.1 h
      exact Nat.max_le.2 ⟨ha, ih hitems⟩

end

/-! ## How fields are written -/

/-- A list as a field: none if it is empty. -/
def listed (items : List Json) : Option Json :=
  if items.isEmpty then none else some (.array items)

/-- A flag as a field: none if it is not set. -/
def flagged (flag : Bool) : Option Json :=
  if flag then some (.bool true) else none

@[simp] theorem field_eq_member (name : String) (value : Json) :
    field name value = member name (some value) :=
  rfl

@[simp] theorem optionalField_eq_member (name : String) (value : Option String) :
    optionalField name value = member name (value.map .string) := by
  cases value <;> rfl

@[simp] theorem listField_eq_member (name : String) (items : List Json) :
    listField name items = member name (listed items) := by
  cases items <;> rfl

@[simp] theorem flagField_eq_member (name : String) (flag : Bool) :
    flagField name flag = member name (flagged flag) := by
  cases flag <;> rfl

theorem height_text_le (n : Nat) (value : Option String) :
    ∀ json ∈ value.map Json.string, json.height ≤ n := by
  cases value <;> simp [height]

theorem height_flagged_le (n : Nat) (flag : Bool) : ∀ json ∈ flagged flag, json.height ≤ n := by
  cases flag <;> simp [flagged, height]

/-! ## Reading back -/

/-- A value without numbers is read as `a`. -/
structure Reads {α : Type} (read : Json → Option α) (json : Json) (a : α) : Prop where
  read_eq : read json = some a
  isNumberFree : json.isNumberFree = true

/-- A field without numbers, or an absent one, is read as `a`. -/
structure FieldReads {α : Type} (read : Option Json → Option α) (field : Option Json) (a : α) :
    Prop where
  read_eq : read field = some a
  isNumberFree : ∀ json ∈ field, json.isNumberFree = true

namespace Reads

variable {α : Type} {read : Json → Option α}

theorem string (s : String) : Reads asString? (.string s) s :=
  ⟨rfl, rfl⟩

theorem array {write : α → Json} {items : List α}
    (h : ∀ a ∈ items, Reads read (write a) a) :
    Reads (listOf? read) (.array (items.map write)) items where
  read_eq := by
    rw [listOf?, List.mapM_map]
    exact (mapM_eq_some_map fun a hmem => (h a hmem).read_eq).trans
      (congrArg some (List.map_id' items))
  isNumberFree := by
    rw [Json.isNumberFree, itemsNumberFree_iff, List.forall_mem_map]
    exact fun a hmem => (h a hmem).isNumberFree

theorem required {json : Json} {a : α} (h : Reads read json a) :
    FieldReads (Json.required read) (some json) a :=
  ⟨h.read_eq, fun _ hmem => Option.mem_some.1 hmem ▸ h.isNumberFree⟩

theorem withDefault {json : Json} {a : α} (h : Reads read json a) (value : α) :
    FieldReads (Json.withDefault value read) (some json) a :=
  ⟨h.read_eq, fun _ hmem => Option.mem_some.1 hmem ▸ h.isNumberFree⟩

/-- A record is read as what its fields are put together to. -/
theorem record {names : List String} {openness : Openness}
    {build : List (Option Json) → Option α} {fields : List (String × Option Json)} {a : α}
    (hnames : fields.map Prod.fst = names) (hnodup : names.Nodup)
    (hbuild : build (fields.map Prod.snd) = some a) (hfree : FieldsNumberFree fields) :
    Reads (fun json => (fields? names openness json).bind build) (Json.record fields) a where
  read_eq := by
    rw [fields?_record hnames hnodup, Option.bind_some, hbuild]
  isNumberFree := membersNumberFree_present hfree

end Reads

namespace FieldReads

variable {α : Type} {read : Json → Option α} {write : α → Json}

/-- A field that is read adds no numbers to a record. -/
theorem numberFree_cons {field : Option Json → Option α} {value : Option Json} {a : α}
    (h : FieldReads field value a) (name : String) {fields : List (String × Option Json)}
    (hfields : FieldsNumberFree fields) : FieldsNumberFree ((name, value) :: fields) :=
  List.forall_mem_cons.2 ⟨h.isNumberFree, hfields⟩

theorem optional (h : ∀ a, Reads read (write a) a) (hnull : read .null = none)
    (value : Option α) : FieldReads (Json.optional read) (value.map write) value := by
  cases value with
  | none => exact ⟨rfl, nofun⟩
  | some a =>
      have hread : Json.optional read (some (write a)) = (read (write a)).map some := by
        cases hwrite : write a <;> first | rfl | exact nomatch hnull ▸ hwrite ▸ (h a).read_eq
      refine ⟨?_, fun _ hmem => Option.mem_some.1 hmem ▸ (h a).isNumberFree⟩
      rw [Option.map_some, hread, (h a).read_eq, Option.map_some]

theorem text (value : Option String) :
    FieldReads (Json.optional asString?) (value.map .string) value :=
  optional Reads.string rfl value

theorem list {items : List α} (h : ∀ a ∈ items, Reads read (write a) a) :
    FieldReads (Json.withDefault [] (listOf? read)) (listed (items.map write)) items := by
  cases items with
  | nil => exact ⟨rfl, nofun⟩
  | cons a items => exact (Reads.array h).withDefault []

theorem flag (flag : Bool) : FieldReads (Json.withDefault false asBool?) (flagged flag) flag := by
  cases flag with
  | false => exact ⟨rfl, nofun⟩
  | true => exact (Reads.mk rfl rfl : Reads asBool? (.bool true) true).withDefault false

end FieldReads

end Json
end Xacml
