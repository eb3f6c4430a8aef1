import ApiStore.Proofs.Reading
import ApiStore.Proofs.Registration
import ApiStore.Proofs.Schemas
/-
`Compilation.lean` -- a compilation ends in schemas and collections, or in a compile error.

A document passes through five stages: it is read, its definitions become nodes, the nodes
become fields, the fields schemas, and the schemas collections of a store. Each stage hands
on what the next one needs in order not to fail for a reason of its own. Reading hands on
names that are texts and occur once, and overrides with texts for keys; from those come
fields and options with texts for keys, which is all that a schema asks of its parts; and
schemas of different names find their names free in a store that is empty.
-/
set_option autoImplicit false

namespace ApiStore

/-! ## 1. One schema -/

/-- The payload of an override has texts for keys. -/
theorem Extension.payload_textKeys {e : Extension} (h : e.IsSpelled) : e.payload.TextKeys := by
  unfold payload
  cases e.type <;> cases e.ref
  · exact h
  · exact h.insert _ _
  · exact h.insert _ _
  · exact (h.insert _ _).insert _ _

/-- Parts that have texts for keys make a schema. -/
theorem Schema.ofParts_eq_ok {fields options : Entries Value} (hf : fields.TextKeys)
    (ho : options.TextKeys) (name : String) :
    Schema.ofParts (.str name) (.map fields) (.map options) =
      .ok { name := name, fields := fields, options := options } := by
  simp [ofParts, tableMisfits, Misfit.textOf, Misfit.ofKeys_eq_nil hf, Misfit.ofKeys_eq_nil ho,
    hf.spelled, ho.spelled]

/-- A schema that is kept under its own name, with texts for the keys of its fields and options. -/
structure Schema.IsKept (key : Scalar) (schema : Schema) : Prop where
  key_eq : key = .str schema.name
  fields : schema.fields.TextKeys
  options : schema.options.TextKeys

namespace Compiler

variable {c : Compiler} {definitions : Definitions}

/-- The options of a node that is spelled out have texts for keys. -/
theorem options_textKeys {node : Node} (h : node.IsSpelled) : (options node).TextKeys := by
  unfold options
  cases he : node.extension with
  | none => exact .nil
  | some e => exact Extension.payload_textKeys (h e he)

/-- A definition of JSON compiles to a schema under its own name. -/
theorem buildSchema_yields (h : ∀ d ∈ definitions, d.2.IsSpelled) (name : String) :
    Yields (Schema.IsKept (.str name)) (c.buildSchema definitions (.str name)) := by
  unfold buildSchema
  cases hnode : Entries.get? definitions (.str name) with
  | none => exact .compile _
  | some node =>
    have hfields : ∀ fields, c.buildFields definitions (.str name) node = .ok fields →
        fields.TextKeys :=
      fun _ => buildNode_textKeys c.overrides definitions
    have hoptions := options_textKeys (h _ (Entries.mem_of_get?_str hnode))
    refine Yields.bind (.mapError hfields) fun fields hfields => ?_
    rw [Schema.ofParts_eq_ok hfields hoptions]
    exact .ok ⟨rfl, hfields, hoptions⟩

/-! ## 2. All schemas -/

/-- Schemas that are kept under given names, in order. -/
structure Kept (names : List Scalar) (schemas : Entries Schema) : Prop where
  keys : schemas.keys = names
  isKept : ∀ s ∈ schemas, s.2.IsKept s.1

/-- Building further schemas appends them to the ones that are there. -/
theorem buildInto_yields (h : ∀ d ∈ definitions, d.2.IsSpelled) {names made : List Scalar}
    {given : Entries Schema} (hgiven : Kept made given)
    (htexts : ∀ name ∈ names, ∃ s, name = .str s) (hnodup : (made ++ names).Nodup) :
    Yields (Kept (made ++ names)) (c.buildInto definitions given names) := by
  -- The induction is on the names that are left; the schemas so far have exactly the names before
  -- them.
  induction names generalizing made given with
  | nil =>
    rw [List.append_nil]
    exact .ok hgiven
  | cons first rest ih =>
    obtain ⟨⟨name, rfl⟩, hrest⟩ := List.forall_mem_cons.mp htexts
    refine (buildSchema_yields h name).bind fun schema hschema => ?_
    have hfresh : .str name ∉ given.keys := by
      rw [hgiven.keys]
      exact fun hmem => (List.nodup_append.mp hnodup).2.2 _ hmem _ List.mem_cons_self rfl
    have hmore : Kept (made ++ [.str name]) (given.insert (.str name) schema) := by
      rw [Entries.insert_of_not_mem_keys hfresh]
      constructor
      · rw [Entries.keys, List.map_append, ← Entries.keys, hgiven.keys]
        rfl
      · rw [List.forall_mem_append, List.forall_mem_singleton]
        exact ⟨hgiven.isKept, hschema⟩
    rw [List.append_cons] at hnodup ⊢
    exact ih hmore hrest hnodup

/-- So the definitions do together, in their order. -/
theorem buildSchemas_yields (h : ∀ d ∈ definitions, d.2.IsSpelled) (htexts : definitions.TextKeys)
    (hnodup : definitions.keys.Nodup) :
      Yields (Kept definitions.keys) (c.buildSchemas definitions none) := by
  have hnone : Kept [] [] := ⟨rfl, nofun⟩
  exact buildInto_yields h hnone (List.forall_mem_map.mpr htexts) hnodup

end Compiler

/-! ## 3. Collections -/

namespace Store

/-- The schemas of a document of JSON, kept under the names of its definitions, or a compile
error. -/
theorem compileSpec_yields (config : Config) {document : Entries Value}
    (h : (Value.map document).isJson = true) :
    Yields (fun schemas => ∃ raw, Document.rawDefinitions document = .ok raw ∧
      (Value.map raw).isJson = true ∧
      Compiler.Kept raw.keys schemas) (compileSpec config (.map document)) := by
  refine Yields.bind (p := fun _ => True) (.mapError fun _ _ => trivial) fun compiler _ => ?_
  refine (Document.extract_yields h compiler.config.extensionKey).bind ?_
  rintro definitions ⟨raw, hraw, hjson, hnamed⟩
  obtain ⟨htexts, hnodup, -⟩ := Value.isJson_map_iff.mp hjson
  have hnames : ∀ name ∈ raw.keys, ∃ s, name = .str s := List.forall_mem_map.mpr htexts
  rw [← hnamed.keys] at hnames hnodup
  have hkeys : definitions.TextKeys := fun d hd => hnames d.1 (List.mem_map_of_mem hd)
  have hyields := Compiler.buildSchemas_yields (c := compiler) hnamed.isSpelled hkeys hnodup
  exact hyields.mono fun schemas hkept => ⟨raw, hraw, hjson, hnamed.keys ▸ hkept⟩

/-- Schemas that stand under their names, none of which occurs twice, register in a store that is
empty. -/
theorem registerAll_of_named {schemas : Entries Schema}
    (hnamed : ∀ s ∈ schemas, s.1 = .str s.2.name) (hnodup : schemas.keys.Nodup) :
    Store.empty.registerAll (schemas.map (·.2)) = (⟨(schemas.map (·.2)).map .ofSchema⟩, .ok ()) ∧
      (schemas.map (·.2)).map (fun s => Scalar.str s.name) = schemas.keys := by
  have hnames : (schemas.map (·.2)).map (fun s => Scalar.str s.name) = schemas.keys := by
    rw [Entries.keys, List.map_map]
    exact List.map_congr_left fun s hs => (hnamed s hs).symm
  refine ⟨?_, hnames⟩
  have hdistinct : ((schemas.map (·.2)).map (·.name)).Nodup := by
    refine List.Nodup.of_map Scalar.str ?_
    rw [List.map_map]
    exact hnames ▸ hnodup
  exact registerAll_of_free ⟨hdistinct, fun _ _ => List.not_mem_nil⟩

/-- Schemas under their own names, of which none stands twice, are all registered. -/
theorem registerAll_of_kept {names : List Scalar} {schemas : Entries Schema}
    (hkept : Compiler.Kept names schemas) (hnodup : names.Nodup) :
    Store.empty.registerAll (schemas.map (·.2)) = (⟨(schemas.map (·.2)).map .ofSchema⟩, .ok ()) ∧
      (schemas.map (·.2)).map (fun s => Scalar.str s.name) = names := by
  rw [← hkept.keys] at hnodup ⊢
  exact registerAll_of_named (fun s hs => (hkept.isKept s hs).key_eq) hnodup

end Store

/-- Compiling a document of JSON into an empty store ends in a compile error and leaves the store
empty, or it ends in a schema and a collection for each of its definitions, with texts for all
keys. -/
theorem compile_ok_or_compile_error (config : Config) {document : Entries Value}
    (h : (Value.map document).isJson = true) :
    (∃ e, Store.empty.compile config (.map document) = (Store.empty, .error (.compile e))) ∨
      ∃ raw schemas store, Document.rawDefinitions document = .ok raw ∧
        Store.empty.compile config (.map document) = (store, .ok schemas) ∧
        schemas.keys = raw.keys ∧ store.names.map Scalar.str = raw.keys ∧
        store.collections = schemas.map (fun s => .ofSchema s.2) ∧
        ∀ s ∈ schemas, s.1 = .str s.2.name ∧ s.2.fields.TextKeys ∧ s.2.options.TextKeys := by
  have hspec := Store.compileSpec_yields config h
  unfold Store.compile
  generalize Store.compileSpec config (.map document) = outcome at hspec ⊢
  cases hspec with
  | compile e => exact .inl ⟨e, rfl⟩
  | @ok schemas hschemas =>
    obtain ⟨raw, hraw, hjson, hkept⟩ := hschemas
    obtain ⟨hregister, hnames⟩ :=
      Store.registerAll_of_kept hkept (Value.isJson_map_iff.mp hjson).2.1
    refine .inr ⟨raw, schemas, ⟨(schemas.map (·.2)).map .ofSchema⟩, hraw, ?_, hkept.keys, ?_, ?_,
      ?_⟩
    · simp only [hregister]
    · rw [← hnames, Store.names, List.map_map, List.map_map]
      rfl
    · rw [List.map_map]
      rfl
    · intro s hs
      obtain ⟨hname, hfields, hoptions⟩ := hkept.isKept s hs
      exact ⟨hname, hfields, hoptions⟩

namespace Sample

/-- A document of one definition, with a property that is given. -/
def document (property : Value) : Entries Value :=
  [(.str "definitions",
    .object [("Order", .object [("type", .str "object"),
    ("properties", .object [("note", property)])])])]

end Sample

/-- A property that is a number ends the compilation in a compile error; a property that allows
anything is compiled. -/
theorem compile_ok_or_compile_error_order :
    (∃ e, Store.empty.compile .initial (.map (Sample.document (.int 7))) =
      (Store.empty, .error (.compile e))) ∧
      ∃ store schemas, Store.empty.compile .initial (.map (Sample.document (.object []))) =
        (store, .ok schemas) ∧ store.names.map Scalar.str = [.str "Order"] := by
  have hnumber : (Store.empty.compile .initial (.map (Sample.document (.int 7)))).2.isOk =
    false := by decide
  have hany : (Store.empty.compile .initial (.map (Sample.document (.object [])))).2.isOk =
    true := by decide
  constructor
  · have hjson : (Value.map (Sample.document (.int 7))).isJson = true := rfl
    rcases compile_ok_or_compile_error .initial hjson with hfail | ⟨_, _, _, _, hok, _⟩
    · exact hfail
    · rw [hok] at hnumber
      cases hnumber
  · have hjson : (Value.map (Sample.document (.object []))).isJson = true := rfl
    rcases compile_ok_or_compile_error .initial hjson with ⟨_, hfail⟩ |
      ⟨_, schemas, store, hraw, hok, _, hnames, _⟩
    · rw [hfail] at hany
      cases hany
    · cases hraw
      exact ⟨store, schemas, hok, hnames⟩

end ApiStore
