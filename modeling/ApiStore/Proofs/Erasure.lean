import ApiStore.Proofs.Rewriting
/-
`Erasure.lean` -- only what is recognised has an influence.

Erasing a document leaves of every node what the compiler knows: the pointer and the
override, and where there is no pointer, the type, the format, the items, the properties,
the required names and the default. It also leaves out every property of a reserved name.
Whatever else a document says, descriptions, examples, constraints, other extensions, what
stands beside a pointer and in reserved properties, however malformed, makes no difference:
the document that is left compiles to the same schemas, or fails in the same way.

**One exception is forced.** A configuration may let overrides stand under `properties` or
`items`. What stands there is then an override as well as a part of the node, and all
options of an override are handed on as they are, those included that erasing would take
away (`compile_erasure_differs`). Such an entry has to be spared.
-/
set_option autoImplicit false

namespace ApiStore

/-- What is left of the entries of a node: the pointer and the override and, where there is no
pointer, the parts. -/
def erased (key : String) (raw : Entries Value) : Entries Value :=
  raw.filter fun (k, _) =>
    k == .str "$ref" || k == .str key ||
      (!Entries.contains raw (.str "$ref") && partKeys.any fun s => k == .str s)

/-- Leaves of every node what is recognised, and no property of a reserved name. -/
def erasure (key : String) : Rewriting where
  own _ raw := erased key raw
  keeps k := !isReserved k
  spares _ := false

section Erased

variable (key : String) (raw : Entries Value)

/-- What is erased leaves the pointer. -/
theorem get?_erased_ref :
    Entries.get? (erased key raw) (.str "$ref") = Entries.get? raw (.str "$ref") :=
  Entries.get?_filter_str (fun _ => by simp) raw

/-- It leaves the override. -/
theorem get?_erased_key : Entries.get? (erased key raw) (.str key) = Entries.get? raw (.str key) :=
  Entries.get?_filter_str (fun _ => by simp) raw

/-- Beside no pointer it leaves the parts of a node. -/
theorem get?_erased_part (href : Entries.get? raw (.str "$ref") = none) {s : String}
    (hs : s ∈ partKeys) :
    Entries.get? (erased key raw) (.str s) = Entries.get? raw (.str s) := by
  have hpart : (partKeys.any fun t => Scalar.str s == .str t) = true :=
    List.any_eq_true.mpr ⟨s, hs, beq_self_eq_true _⟩
  exact Entries.get?_filter_str (fun _ => by simp [Entries.contains, href, hpart]) raw

end Erased

/-- Erasing respects what the reader looks at, wherever it leaves the override alone. -/
theorem erasure_respects {key : String} (spares : Scalar → Bool)
    (h : spares (.str key) = true ∨ key ∉ ["items", "properties"]) :
    Rewriting.Respects { erasure key with spares := spares } key where
  spares := h
  keeps k hk := by simpa [erasure] using hk
  textKeys _ raw htexts := fun e he => htexts e (List.mem_filter.mp he).1
  extension _ raw := readExtension_alike (get?_erased_key key raw).symm
  pointer _ raw := by
    change Option.Rel Repointed _ (Entries.get? (erased key raw) _)
    rw [get?_erased_ref]
    cases Entries.get? raw (.str "$ref") with
    | none => exact .none
    | some v => exact .some (.same v)
  parts _ raw href _ hs := get?_erased_part key raw href hs

/-- **Only what is recognised has an influence.** A document of JSON and its erasure compile to the
same schemas, with the same names, fields and options, or fail with errors of one kind, the same
chain of kinds and the same keys of properties, under every configuration. Should the configured key
be `items` or `properties`, the entry under it is spared. -/
theorem compile_erasure_alike (config : Config) {document : Entries Value}
    (hjson : (Value.map document).isJson = true) :
    EndAlike (Store.compileSpec config (.map document))
        (Store.compileSpec config (.map
          (((erasure config.extensionKey).sparing config.extensionKey).document document))) ∧
      (config.extensionKey ∉ ["items", "properties"] →
        EndAlike (Store.compileSpec config (.map document))
          (Store.compileSpec config (.map ((erasure config.extensionKey).document document)))) := by
  constructor
  · have hrespects := erasure_respects (fun k => k == .str config.extensionKey)
      (.inl (beq_self_eq_true _))
    exact hrespects.compileSpec_alike hjson (Rewriting.rawDefinitions_document _ _)
  · intro hkey
    have hrespects := erasure_respects (fun _ => false) (.inr hkey)
    exact hrespects.compileSpec_alike hjson (Rewriting.rawDefinitions_document _ _)

namespace Sample

/-- A definition with a reserved property that is no node, and with what the compiler does not
know. -/
def noisy : Entries Value :=
  [(.str "definitions", .object [("Pet", .object [
    ("type", .str "object"), ("description", .str "A pet."),
    ("properties", .object [
      ("_id", .int 7),
      ("owner", .object [("$ref", .str "#/definitions/Pet"), ("type", .int 3)])])])])]

/-- What is left of it. -/
def quiet : Entries Value :=
  [(.str "definitions", .object [("Pet", .object [
    ("type", .str "object"),
    ("properties", .object [("owner", .object [("$ref", .str "#/definitions/Pet")])])])])]

end Sample

/-- What is noise in a definition is erased, and the rest compiles to the same schema. -/
theorem compile_erasure_alike_noisy :
    (erasure Config.initial.extensionKey).document Sample.noisy = Sample.quiet ∧
      EndAlike (Store.compileSpec .initial (.map Sample.noisy))
        (Store.compileSpec .initial (.map Sample.quiet)) := by
  have herased : (erasure Config.initial.extensionKey).document Sample.noisy = Sample.quiet := by
    decide
  refine ⟨herased, ?_⟩
  rw [← herased]
  exact (compile_erasure_alike .initial rfl).2 (by decide)

namespace Sample

/-- A pet with a reserved property only. -/
def reservedOnly : Entries Value := [(.str "definitions", .object [("Pet", .object [
  ("type", .str "object"), ("properties", .object [("_id", .object [("type", .str "string")])])])])]

end Sample

/-- Where overrides stand under `properties`, erasing a reserved property takes away an option. -/
theorem compile_erasure_differs :
    ¬ ∀ (config : Config) (document : Entries Value), (Value.map document).isJson = true →
      EndAlike (Store.compileSpec config (.map document))
        (Store.compileSpec config (.map ((erasure config.extensionKey).document document))) := by
  intro h
  have hbefore : Store.compileSpec Sample.underProperties (.map Sample.reservedOnly) =
      .ok [(.str "Pet", ⟨"Pet", [], [(.str "_id", .object [("type", .str "string")])]⟩)] := by
        decide
  have hafter : Store.compileSpec Sample.underProperties
      (.map ((erasure Sample.underProperties.extensionKey).document Sample.reservedOnly)) =
      .ok [(.str "Pet", ⟨"Pet", [], []⟩)] := by decide
  exact not_endAlike_of_ne hbefore hafter (by decide)
    (h Sample.underProperties Sample.reservedOnly rfl)

end ApiStore
