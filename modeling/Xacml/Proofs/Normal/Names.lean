import Xacml.Load.Policy
import Xacml.Normal.Policy
import Xacml.Proofs.Lexical.Canonical

/-!
# Names in normal forms

What a name in a document stands for is found again under the name that the normal form gives it:
versions and patterns are printed and read, functions, algorithms and data types are named by their
own identifiers.
-/

namespace Xacml

/-! ## Lists -/

theorem bind_of_eq_ok {ε α β : Type} {x : Except ε α} {f : α → Except ε β} {a : α}
    (h : x = .ok a) : x >>= f = f a := by
  rw [h]
  rfl

theorem exists_of_mem_mapM {ε α β : Type} {read : α → Except ε β} {items : List α}
    {results : List β} (h : items.mapM read = .ok results) {result : β} (hmem : result ∈ results) :
    ∃ item ∈ items, read item = .ok result := by
  induction items generalizing results with
  | nil =>
      cases h
      cases hmem
  | cons item rest ih =>
      rw [List.mapM_cons] at h
      rcases exists_of_bind_eq_ok h with ⟨first, hfirst, h⟩
      rcases exists_of_bind_eq_ok h with ⟨more, hmore, h⟩
      cases h
      rcases List.mem_cons.1 hmem with rfl | hmem
      · exact ⟨item, List.mem_cons_self, hfirst⟩
      · rcases ih hmore hmem with ⟨other, hother, hresult⟩
        exact ⟨other, List.mem_cons_of_mem _ hother, hresult⟩

theorem mapM_map_of_forall {ε α β γ : Type} {read : α → Except ε γ} {write : β → α}
    {again : β → γ} {items : List β}
    (h : ∀ item ∈ items, read (write item) = .ok (again item)) :
    (items.map write).mapM read = .ok (items.map again) := by
  induction items with
  | nil => rfl
  | cons item rest ih =>
      rw [List.map_cons, List.map_cons, List.mapM_cons, h item List.mem_cons_self,
        ih fun item hmem => h item (List.mem_cons_of_mem _ hmem)]
      rfl

theorem mapM_map_of_forall_eq {ε α β : Type} {read : α → Except ε β} {write : β → α}
    {results : List β} (h : ∀ result ∈ results, read (write result) = .ok result) :
    (results.map write).mapM read = .ok results :=
  (mapM_map_of_forall h).trans (congrArg Except.ok (List.map_id' results))

/-- Items whose results are read back one by one are read back together. -/
theorem mapM_map_eq_ok {ε α β : Type} {read : α → Except ε β} {write : β → α} {items : List α}
    {results : List β} (h : items.mapM read = .ok results)
    (hback : ∀ item ∈ items, ∀ result, read item = .ok result → read (write result) = .ok result) :
    (results.map write).mapM read = .ok results := by
  refine mapM_map_of_forall_eq fun result hmem => ?_
  rcases exists_of_mem_mapM h hmem with ⟨item, hitem, hresult⟩
  exact hback item hitem result hresult

/-- Parts between marks that are read back one by one are read back together. -/
theorem mapM_splitOn_join {α : Type} {mark : Char} {read : List Char → Option α}
    {write : α → List Char} {texts : List (List Char)} {parts : List α}
    (h : texts.mapM read = some parts) (hne : texts ≠ []) (hmark : ∀ part, mark ∉ write part)
    (hback : ∀ text part, read text = some part → read (write part) = some part) :
    ((Text.join [mark] (parts.map write)).splitOn mark).mapM read = some parts := by
  have hread : (parts.map write).mapM read = some parts ∧ parts.length = texts.length := by
    clear hne
    induction texts generalizing parts with
    | nil =>
        cases h
        exact ⟨rfl, rfl⟩
    | cons text rest ih =>
        rw [List.mapM_cons] at h
        simp only [Option.bind_eq_bind, Option.bind_eq_some_iff] at h
        rcases h with ⟨part, hpart, more, hmore, h⟩
        cases h
        rcases ih hmore with ⟨hrest, hlength⟩
        refine ⟨?_, by rw [List.length_cons, List.length_cons, hlength]⟩
        rw [List.map_cons, List.mapM_cons, hback text part hpart, hrest]
        rfl
  have hparts : parts.map write ≠ [] := by
    intro hnil
    rw [List.map_eq_nil_iff] at hnil
    rw [hnil, List.length_nil] at hread
    exact hne (List.eq_nil_of_length_eq_zero hread.2.symm)
  rw [Text.splitOn_join (List.forall_mem_map.2 fun part _ => hmark part) hparts, hread.1]

/-! ## Versions -/

theorem Text.mark_notMem_decimal (n : Nat) : '.' ∉ Text.decimal n :=
  (Text.allDigits_decimal n).not_mem (by decide)

/-- A version that was read is read from its text. -/
theorem Version.read_write {text : String} {version : Version} (h : read text = .ok version) :
    read version.write = .ok version := by
  rw [read] at h
  split at h
  case h_1 numbers hnumbers =>
    cases h
    have hback := mapM_splitOn_join hnumbers (List.splitOn_ne_nil _ _) Text.mark_notMem_decimal
      fun _ n hn => Text.natural?_decimal (Text.le_of_natural? hn)
    rw [read, write, String.toList_ofList, hback]
  case h_2 => cases h

namespace VersionPattern

theorem readPart?_writePart {text : List Char} {part : Part} (h : readPart? text = some part) :
    readPart? (writePart part) = some part := by
  unfold readPart? at h
  split at h
  case h_1 =>
    cases h
    rfl
  case h_2 =>
    cases h
    rfl
  case h_3 =>
    rcases Option.map_eq_some_iff.1 h with ⟨n, hn, rfl⟩
    have hdigits := Text.allDigits_decimal n
    have hback := Text.natural?_decimal (Text.le_of_natural? hn)
    rw [writePart]
    unfold readPart?
    split
    case h_1 hstar => exact absurd (hstar ▸ hdigits) (by simp [Text.AllDigits])
    case h_2 hplus => exact absurd (hplus ▸ hdigits) (by simp [Text.AllDigits])
    case h_3 => rw [hback, Option.map_some]

theorem mark_notMem_writePart (part : Part) : '.' ∉ writePart part := by
  cases part with
  | number n => exact Text.mark_notMem_decimal n
  | any => decide
  | rest => decide

/-- A pattern that was read is read from its text. -/
theorem read_write {text : String} {pattern : VersionPattern} (h : read text = .ok pattern) :
    read pattern.write = .ok pattern := by
  rw [read] at h
  split at h
  case h_1 parts hparts =>
    split at h
    case isTrue => cases h
    case isFalse hrest =>
      cases h
      have hback := mapM_splitOn_join hparts (List.splitOn_ne_nil _ _) mark_notMem_writePart
        fun _ _ => readPart?_writePart
      rw [read, write, String.toList_ofList, hback]
      exact if_neg hrest
  case h_2 => cases h

end VersionPattern

theorem SchemaVersion.read?_text (schema : SchemaVersion) : read? schema.text = some schema := by
  cases schema <;> rfl

/-! ## Identifiers -/

theorem FunctionRegistry.id_of_find? {functions : FunctionRegistry} {id : String} {f : Function}
    (h : functions.find? id = some f) : f.id = id := by
  simpa using List.find?_some h

theorem AlgorithmRegistry.id_of_find? {algorithms : AlgorithmRegistry} {level : Level}
    {id : String} {algorithm : Algorithm} (h : algorithms.find? level id = some algorithm) :
    algorithm.id = id := by
  simpa using List.find?_some h

theorem loadDataType_uri (type : DataType) : loadDataType type.uri = .ok type := by
  rw [loadDataType, TypedValue.ofUri?_uri]

/-- A function that was found is found under its own identifier. -/
theorem loadFunction_id {functions : FunctionRegistry} {id : String} {f : Function}
    (h : loadFunction functions id = .ok f) : loadFunction functions f.id = .ok f := by
  have hfind := h
  rw [loadFunction] at hfind
  split at hfind
  case h_1 g hg =>
    cases hfind
    rwa [FunctionRegistry.id_of_find? hg]
  case h_2 => cases hfind

namespace Document

/-- An algorithm that was found is found under its own identifier. -/
theorem loadAlgorithm_id {algorithms : AlgorithmRegistry} {level : Level} {id : String}
    {algorithm : Algorithm} (h : loadAlgorithm algorithms level id = .ok algorithm) :
    loadAlgorithm algorithms level algorithm.id = .ok algorithm := by
  have hfind := h
  unfold loadAlgorithm at hfind
  split at hfind
  case h_1 found _ hfound =>
    cases hfind
    rwa [AlgorithmRegistry.id_of_find? hfound]
  case h_2 => cases hfind
  case h_3 => cases hfind

theorem loadVersion_write {text : Option String} {version : Version}
    (h : loadVersion text = .ok version) : loadVersion (some version.write) = .ok version := by
  have hread : Version.read version.write = .ok version := by
    cases text with
    | none =>
        cases h
        decide
    | some text => exact Version.read_write (eq_ok_of_mapError h)
  rw [loadVersion, hread]
  rfl

theorem loadPattern?_write {text : Option String} {pattern : Option VersionPattern}
    (h : loadPattern? text = .ok pattern) :
    loadPattern? (pattern.map VersionPattern.write) = .ok pattern := by
  cases text with
  | none =>
      cases h
      rfl
  | some text =>
      rcases exists_of_map_eq_ok h with ⟨read, hread, rfl⟩
      rw [Option.map_some, loadPattern?, VersionPattern.read_write (eq_ok_of_mapError hread)]
      rfl

theorem loadSchema_text (inherited schema : SchemaVersion) :
    loadSchema inherited (some schema.text) = .ok schema := by
  rw [loadSchema, SchemaVersion.read?_text]

/-- A reference that was read is read from its written form. -/
theorem Reference.load_written {kind : PolicyKind} {r : Reference} {reference : PolicyReference}
    (h : r.load kind = .ok reference) :
    reference.kind = kind ∧
      Reference.load kind
        { id := reference.id
          version := reference.constraints.version.map VersionPattern.write
          earliestVersion := reference.constraints.earliest.map VersionPattern.write
          latestVersion := reference.constraints.latest.map VersionPattern.write } =
        .ok reference := by
  rw [load] at h
  rcases exists_of_bind_eq_ok h with ⟨version, hversion, h⟩
  rcases exists_of_bind_eq_ok h with ⟨earliest, hearliest, h⟩
  rcases exists_of_bind_eq_ok h with ⟨latest, hlatest, h⟩
  cases h
  refine ⟨rfl, ?_⟩
  simp only [load, loadPattern?_write hversion, loadPattern?_write hearliest,
    loadPattern?_write hlatest]
  rfl

end Document

end Xacml
