import ApiStore.Proofs.Pointer
import ApiStore.Proofs.Rewriting
/-
`Dialect.lean` -- both dialects of documents compile alike.

Definitions stand under `definitions` in one dialect and under `components.schemas` in the
other, and pointers begin with one root in one and with the other root in the other. The
compiler does not ask which dialect it reads: definitions may move from one place to the
other, and any of their pointers may change its root on the way, and what is compiled stays
the same. For the two readers of pointers that is `Pointer.switchRoot_alike`: a pointer that
can be followed leads to the same name, and is written down as the same name, under both
roots.

**One exception is forced.** A configuration may let overrides stand under `properties` or
`items`. A pointer in there is part of the options of an override, which are handed on as
they are, its root included (`compile_dialects_differ`). Such an entry has to be spared.
-/
set_option autoImplicit false

namespace ApiStore

/-! ## 1. Pointers -/

namespace Pointer

/-- A pointer with its root changed for the other one; what has no root stays. -/
def switchRoot (pointer : String) : String :=
  match dropRoot? pointer.toList "#/definitions/".toList with
  | some rest => String.ofList ("#/components/schemas/".toList ++ rest)
  | none =>
    match dropRoot? pointer.toList "#/components/schemas/".toList with
    | some rest => String.ofList ("#/definitions/".toList ++ rest)
    | none => pointer

/-- After any root comes the same thing as before. -/
theorem toList_switchRoot {pointer root : String} {rest : List Char} (hroot : root ∈ roots)
    (hpointer : pointer.toList = root.toList ++ rest) :
      ∃ other ∈ roots, (switchRoot pointer).toList = other.toList ++ rest := by
  have hrest : dropRoot? pointer.toList root.toList = some rest :=
    dropRoot?_eq_some_iff.mpr hpointer
  unfold switchRoot
  cases hfirst : dropRoot? pointer.toList "#/definitions/".toList with
  | some found =>
    obtain rfl := eq_of_dropRoot?_eq_some hroot (by simp [roots]) hrest hfirst
    obtain rfl := Option.some.inj (hrest.symm.trans hfirst)
    exact ⟨"#/components/schemas/", by simp [roots], String.toList_ofList⟩
  | none =>
    simp only [roots, List.mem_cons, List.not_mem_nil, or_false] at hroot
    rcases hroot with rfl | rfl
    · rw [hrest] at hfirst
      cases hfirst
    · rw [hrest]
      exact ⟨"#/definitions/", by simp [roots], String.toList_ofList⟩

/-- A pointer that can be followed is written down as what comes after its root. -/
theorem pointerName?_eq {pointer root : String} {name rest : List Char} (hroot : root ∈ roots)
    (hpointer : pointer.toList = root.toList ++ rest) (hnames : Names name rest) :
    pointerName? (some pointer) = some (String.ofList rest) := by
  have hne : pointer.isEmpty = false := by
    simp only [roots, List.mem_cons, List.not_mem_nil, or_false] at hroot
    rw [Bool.eq_false_iff, ne_eq, String.isEmpty_iff, ← String.toList_eq_nil_iff, hpointer]
    rcases hroot with rfl | rfl <;> simp
  rw [pointerName?, hne, if_neg Bool.false_ne_true, ← toList_stripRoots hroot hpointer hnames,
    String.ofList_toList]

/-- **Both roots are one** to the readers of pointers. -/
theorem switchRoot_alike {pointer name : String} (h : parse? pointer = some name) :
    Pointer.Alike pointer (switchRoot pointer) := by
  obtain ⟨root, hroot, rest, hpointer, hnames⟩ := parse?_eq_some_iff.mp h
  obtain ⟨other, hother, hswitched⟩ := toList_switchRoot hroot hpointer
  refine ⟨h.trans (parse?_eq_some_iff.mpr ⟨other, hother, rest, hswitched, hnames⟩).symm, ?_⟩
  rw [pointerName?_eq hroot hpointer hnames, pointerName?_eq hother hswitched hnames]

end Pointer

/-! ## 2. Documents -/

/-- A pointer that can be followed, with its root changed if it was chosen. -/
def switched (chosen : Bool) : Value → Value
  | .str pointer =>
    .str (if chosen && (Pointer.parse? pointer).isSome then Pointer.switchRoot pointer else pointer)
  | v => v

/-- Changes the root of the pointer of every node that was chosen by its place. -/
def switching (chosen : List Scalar → Bool) : Rewriting where
  own place raw := raw.modify (.str "$ref") (switched (chosen place))
  keeps _ := true
  spares _ := false

theorem switched_repointed (chosen : Bool) (v : Value) : Repointed v (switched chosen v) := by
  unfold switched
  split
  · split
    · rename_i hchosen
      obtain ⟨name, hname⟩ := Option.isSome_iff_exists.mp (Bool.and_eq_true_iff.mp hchosen).2
      exact .pointer (Pointer.switchRoot_alike hname)
    · exact .same _
  · exact .same _

/-- An override under the key of pointers is refused as a text, whatever the text; any other is left
alone. -/
theorem readExtension_switched (key : String) (raw : Entries Value) (chosen : Bool) :
    Outcome.Related CompileError.Alike Eq (readExtension key raw)
      (readExtension key (raw.modify (.str "$ref") (switched chosen))) := by
  by_cases hkey : "$ref" = key
  · subst hkey
    cases hget : Entries.get? raw (.str "$ref") with
    | none =>
      exact readExtension_alike (by rw [Entries.get?_modify_str, if_pos rfl, hget, Option.map_none])
    | some v =>
      cases v with
      | scalar s =>
        cases s with
        | str pointer =>
          rw [readExtension, readExtension, Entries.get?_modify_str, if_pos rfl, hget]
          exact .error ⟨rfl, rfl, rfl⟩
        | _ => exact readExtension_alike (by rw [Entries.get?_modify_str, if_pos rfl, hget]; rfl)
      | _ => exact readExtension_alike (by rw [Entries.get?_modify_str, if_pos rfl, hget]; rfl)
  · exact readExtension_alike (by rw [Entries.get?_modify_str, if_neg hkey])

/-- Changing roots respects what the reader looks at, wherever it leaves the override alone. -/
theorem switching_respects {key : String} (chosen : List Scalar → Bool) (spares : Scalar → Bool)
    (h : spares (.str key) = true ∨ key ∉ ["items", "properties"]) :
    Rewriting.Respects { switching chosen with spares := spares } key where
  spares := h
  keeps _ hk := absurd hk (by simp [switching])
  textKeys place _ htexts := htexts.modify (.str "$ref") (switched (chosen place))
  extension place raw := readExtension_switched key raw (chosen place)
  pointer place raw := by
    change Option.Rel Repointed _
      (Entries.get? (raw.modify (.str "$ref") (switched (chosen place))) _)
    rw [Entries.get?_modify_str, if_pos rfl]
    cases Entries.get? raw (.str "$ref") with
    | none => exact .none
    | some v => exact .some (switched_repointed _ v)
  parts place raw _ s hs := by
    have hne : "$ref" ≠ s := by
      rintro rfl
      exact absurd hs (by decide)
    exact (Entries.get?_modify_str raw "$ref" s (switched (chosen place))).trans (if_neg hne)

/-- A document that has definitions under `definitions`. -/
def definitionsDocument (definitions : Entries Value) : Entries Value :=
  [(.str "definitions", .map definitions)]

/-- A document that has definitions under `components.schemas`. -/
def componentsDocument (definitions : Entries Value) : Entries Value :=
  [(.str "components", .object [("schemas", .map definitions)])]

/-- **Both dialects of documents compile alike.** Definitions of JSON that move from one dialect to
the other, with the root of any of their pointers changed on the way, compile to the same schemas,
with the same names in the same order and the same fields and options, or fail with errors of one
kind, the same chain of kinds and the same keys of properties, under every configuration. Should the
configured key be `items` or `properties`, the entry under it is spared. -/
theorem compile_dialects_alike (config : Config) {definitions : Entries Value}
    (hjson : (Value.map definitions).isJson = true) (chosen : List Scalar → Bool) :
    EndAlike (Store.compileSpec config (.map (definitionsDocument definitions)))
        (Store.compileSpec config (.map (componentsDocument
          (((switching chosen).sparing config.extensionKey).definitions definitions)))) ∧
      (config.extensionKey ∉ ["items", "properties"] →
        EndAlike (Store.compileSpec config (.map (definitionsDocument definitions)))
          (Store.compileSpec config
            (.map (componentsDocument ((switching chosen).definitions definitions))))) := by
  have hdocument : (Value.map (definitionsDocument definitions)).isJson = true := by
    simpa [definitionsDocument, Value.isJson, Value.entriesAreJson, Entries.contains] using hjson
  constructor
  · have hrespects := switching_respects chosen (fun k => k == .str config.extensionKey)
      (.inl (beq_self_eq_true _))
    exact hrespects.compileSpec_alike hdocument rfl
  · intro hkey
    have hrespects := switching_respects chosen (fun _ => false) (.inr hkey)
    exact hrespects.compileSpec_alike hdocument rfl

namespace Sample

/-- Two persons who know each other, one of them as a reference by identity. -/
def acquaintances (owner friend : String) : Entries Value :=
  [(.str "Pet", .object [("type", .str "object"), ("properties", .object [
      ("owner", .object [("$ref", .str owner),
        (defaultExtensionKey, .object [("type", .str "ObjectId")])])])]),
    (.str "Person", .object [("type", .str "object"), ("properties", .object [
      ("friends", .object [("type", .str "array"), ("items", .object [("$ref", .str friend)])])])])]

end Sample

/-- One pointer changes its root and the other does not, and both mean what they meant. -/
theorem compile_dialects_alike_acquaintances :
    (switching (·.head? = some (.str "Pet"))).definitions
        (Sample.acquaintances "#/definitions/Person" "#/definitions/Person") =
      Sample.acquaintances "#/components/schemas/Person" "#/definitions/Person" ∧
    EndAlike
      (Store.compileSpec .initial (.map
        (definitionsDocument (Sample.acquaintances "#/definitions/Person" "#/definitions/Person"))))
      (Store.compileSpec .initial (.map (componentsDocument
        (Sample.acquaintances "#/components/schemas/Person" "#/definitions/Person")))) := by
  have hswitched : (switching (·.head? = some (.str "Pet"))).definitions
      (Sample.acquaintances "#/definitions/Person" "#/definitions/Person") =
      Sample.acquaintances "#/components/schemas/Person" "#/definitions/Person" := by decide +kernel
  refine ⟨hswitched, ?_⟩
  rw [← hswitched]
  exact (compile_dialects_alike .initial (by decide) _).2 (by decide)

namespace Sample

/-- A pet that owns itself. -/
def ownOwner (pointer : String) : Entries Value := [(.str "Pet", .object [
  ("type", .str "object"), ("properties", .object [("owner", .object [("$ref", .str pointer)])])])]

/-- What it compiles to where overrides stand under `properties`. -/
def ownOwnerSchema (pointer : String) : Schema :=
  ⟨"Pet", [(.str "owner", .map (Reference.stub "Pet"))],
    [(.str "owner", .object [("$ref", .str pointer)])]⟩

end Sample

/-- Where overrides stand under `properties`, the root of a pointer in there is part of an
option. -/
theorem compile_dialects_differ :
    ¬ ∀ (config : Config) (definitions : Entries Value), (Value.map definitions).isJson = true →
      ∀ chosen, EndAlike (Store.compileSpec config (.map (definitionsDocument definitions)))
        (Store.compileSpec config
          (.map (componentsDocument ((switching chosen).definitions definitions)))) := by
  intro h
  have hbefore : Store.compileSpec Sample.underProperties
      (.map (definitionsDocument (Sample.ownOwner "#/definitions/Pet"))) =
      .ok [(.str "Pet", Sample.ownOwnerSchema "#/definitions/Pet")] := by decide +kernel
  have hafter : Store.compileSpec Sample.underProperties (.map (componentsDocument
      ((switching fun _ => true).definitions (Sample.ownOwner "#/definitions/Pet")))) =
      .ok [(.str "Pet", Sample.ownOwnerSchema "#/components/schemas/Pet")] := by decide +kernel
  exact not_endAlike_of_ne hbefore hafter (by decide)
    (h Sample.underProperties (Sample.ownOwner "#/definitions/Pet") (by decide) fun _ => true)

end ApiStore
