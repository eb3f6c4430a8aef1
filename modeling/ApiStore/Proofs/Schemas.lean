import ApiStore.Proofs.Build.Fields
import ApiStore.Schema
/-
`Schemas.lean` -- what is in the schemas of a document.

When all definitions of a document compile, each of them has its schema in the result, under
its own name, and the fields of the schema are what the definition was compiled to. Two
things could come between. A schema checks its parts and spells out keys that are byte
strings, but no compiled field has such a key. And a schema that is stored could replace
another one. Two different keys can be one key, as `1` and `true` are, and then the schema of
one definition would stand under the name of the other. But a definition gets a schema only
if its name spells a text, and a name that does is the same key as itself only.
-/
set_option autoImplicit false

namespace ApiStore

/-! ## 1. A schema -/

/-- The name of a schema spells a text. -/
theorem Schema.textOf_of_ofParts {name fields options : Value} {s : Schema}
    (h : Schema.ofParts name fields options = .ok s) : Misfit.textOf name = .ok s.name := by
  unfold Schema.ofParts at h
  split at h
  · rename_i htext _
    obtain rfl := Except.ok.inj h
    exact htext
  · cases h

/-- A schema that is made of tables holds them as they are spelled. -/
theorem Schema.fields_of_ofParts {name : Value} {fields options : Entries Value} {s : Schema}
    (h : Schema.ofParts name (.map fields) (.map options) = .ok s) :
      s.fields = Misfit.spelled fields := by
  unfold Schema.ofParts at h
  split at h
  · rename_i heq _ _
    cases heq
    obtain rfl := Except.ok.inj h
    rfl
  · cases h

namespace Compiler

variable (c : Compiler) (definitions : Definitions)

/-- The fields of a schema are what its definition compiles to. -/
theorem buildFields_of_buildSchema {name : Scalar} {node : Node} {schema : Schema}
    (hnode : Entries.get? definitions name = some node)
    (h : c.buildSchema definitions name = .ok schema) :
    c.buildFields definitions name node = .ok schema.fields := by
  rw [buildSchema, hnode] at h
  obtain ⟨fields, hfields, hparts⟩ := Outcome.bind_eq_ok_iff.mp h
  rw [Outcome.mapError_eq_ok_iff] at hfields hparts
  have htext : fields.TextKeys := buildNode_textKeys c.overrides definitions hfields
  rw [Schema.fields_of_ofParts hparts, htext.spelled]
  exact hfields

/-- The name of a schema spells a text, and so it is no other key. -/
theorem standsForItself_of_buildSchema {name : Scalar} {schema : Schema}
    (h : c.buildSchema definitions name = .ok schema) : name.StandsForItself := by
  rw [buildSchema] at h
  split at h
  · cases h
  · obtain ⟨fields, -, hparts⟩ := Outcome.bind_eq_ok_iff.mp h
    exact .of_textOf (Schema.textOf_of_ofParts (Outcome.mapError_eq_ok_iff.mp hparts))

/-- A schema is that of a definition, and its fields are what that compiles to. -/
theorem exists_definition_of_buildSchema {name : Scalar} {schema : Schema}
    (h : c.buildSchema definitions name = .ok schema) :
    ∃ node, Entries.get? definitions name = some node ∧
      c.buildFields definitions name node = .ok schema.fields := by
  cases hnode : Entries.get? definitions name with
  | none =>
    rw [buildSchema, hnode] at h
    cases h
  | some node => exact ⟨node, rfl, c.buildFields_of_buildSchema definitions hnode h⟩

/-! ## 2. All schemas -/

variable {c definitions}

/-- Every definition that is named compiles. -/
theorem buildSchema_of_buildInto {given schemas : Entries Schema} {names : List Scalar}
    (h : c.buildInto definitions given names = .ok schemas) {name : Scalar} (hname : name ∈ names) :
    ∃ schema, c.buildSchema definitions name = .ok schema := by
  induction names generalizing given with
  | nil => cases hname
  | cons first rest ih =>
    obtain ⟨schema, hschema, hrest⟩ := Outcome.bind_eq_ok_iff.mp h
    rcases List.mem_cons.mp hname with rfl | hmem
    · exact ⟨schema, hschema⟩
    · exact ih hrest hmem

/-- A schema that is found at the start, or whose name comes up, is found in the end. -/
theorem get?_of_buildInto {given schemas : Entries Schema} {names : List Scalar}
    (h : c.buildInto definitions given names = .ok schemas) {name : Scalar} {schema : Schema}
    (hschema : c.buildSchema definitions name = .ok schema)
    (hname : name ∈ names ∨ Entries.get? given name = some schema) :
      Entries.get? schemas name = some schema := by
  induction names generalizing given with
  | nil =>
    obtain rfl := Except.ok.inj h
    exact hname.resolve_left List.not_mem_nil
  | cons first rest ih =>
    obtain ⟨made, hmade, hrest⟩ := Outcome.bind_eq_ok_iff.mp h
    refine ih hrest ?_
    rw [Entries.get?_insert (c.standsForItself_of_buildSchema definitions hschema)]
    by_cases hfirst : first = name
    · rw [hfirst, hschema] at hmade
      rw [if_pos hfirst, Except.ok.inj hmade]
      exact .inr rfl
    · rw [if_neg hfirst]
      exact hname.imp_left fun hmem => (List.mem_cons.mp hmem).resolve_left (Ne.symm hfirst)

/-- Every schema in the end was there at the start, or is that of the definition under its name.
The name cannot be another one: a key that a schema replaces is the same key as its name, and
that is its name only. -/
theorem mem_of_buildInto {given schemas : Entries Schema} {names : List Scalar}
    (h : c.buildInto definitions given names = .ok schemas) {entry : Scalar × Schema}
    (hentry : entry ∈ schemas) :
    entry ∈ given ∨ c.buildSchema definitions entry.1 = .ok entry.2 := by
  induction names generalizing given with
  | nil =>
    rw [← Except.ok.inj h] at hentry
    exact .inl hentry
  | cons first rest ih =>
    obtain ⟨made, hmade, hrest⟩ := Outcome.bind_eq_ok_iff.mp h
    rcases ih hrest with hgiven | hname
    · rcases Entries.mem_insert_entry
        (c.standsForItself_of_buildSchema definitions hmade) hgiven with hold | rfl
      · exact .inl hold
      · exact .inr hmade
    · exact .inr hname

/-- Every schema stands under the name of its definition. -/
theorem buildSchema_of_mem {schemas : Entries Schema} {names : Option (List Scalar)}
    (h : c.buildSchemas definitions names = .ok schemas) {entry : Scalar × Schema}
    (hentry : entry ∈ schemas) :
    c.buildSchema definitions entry.1 = .ok entry.2 :=
  (mem_of_buildInto h hentry).resolve_left List.not_mem_nil

/-- Every schema is that of the definition under its name, and its fields are what that compiles
to. -/
theorem exists_definition_of_mem {schemas : Entries Schema} {names : Option (List Scalar)}
    (h : c.buildSchemas definitions names = .ok schemas) {entry : Scalar × Schema}
    (hentry : entry ∈ schemas) :
    ∃ node, Entries.get? definitions entry.1 = some node ∧
      c.buildFields definitions entry.1 node = .ok entry.2.fields :=
  c.exists_definition_of_buildSchema definitions (buildSchema_of_mem h hentry)

/-- Where all definitions of a document compile, each of them has a schema under its name. -/
theorem keys_subset_of_buildSchemas {schemas : Entries Schema}
    (h : c.buildSchemas definitions none = .ok schemas) :
    definitions.keys ⊆ schemas.keys := by
  intro name hname
  obtain ⟨schema, hschema⟩ := buildSchema_of_buildInto h hname
  have hfound := get?_of_buildInto h hschema (.inl hname)
  exact List.mem_map_of_mem (Entries.mem_of_get?
    (c.standsForItself_of_buildSchema definitions hschema) hfound)

/-- Where all definitions of a document compile, each name among them compiles to fields. -/
theorem buildFields_of_buildSchemas {schemas : Entries Schema}
    (h : c.buildSchemas definitions none = .ok schemas) {name : Scalar}
    (hname : name ∈ definitions.keys) {node : Node}
    (hnode : Entries.get? definitions name = some node) :
    ∃ fields, c.buildFields definitions name node = .ok fields := by
  obtain ⟨schema, hschema⟩ := buildSchema_of_buildInto h hname
  exact ⟨schema.fields, c.buildFields_of_buildSchema definitions hnode hschema⟩

/-- Where all definitions of a document compile, their names stand for themselves. -/
theorem standsForItself_of_buildSchemas {schemas : Entries Schema}
    (h : c.buildSchemas definitions none = .ok schemas) :
    ∀ name ∈ definitions.keys, name.StandsForItself := by
  intro name hname
  obtain ⟨schema, hschema⟩ := buildSchema_of_buildInto h hname
  exact c.standsForItself_of_buildSchema definitions hschema

/-- Where all definitions of a document compile, the schema of a name holds what its definition
compiles to. -/
theorem exists_schema_of_buildSchemas {schemas : Entries Schema}
    (h : c.buildSchemas definitions none = .ok schemas) {name : Scalar} {node : Node}
    (hnode : Entries.get? definitions name = some node) :
    ∃ schema, Entries.get? schemas name = some schema ∧
      c.buildFields definitions name node = .ok schema.fields := by
  have hname : name ∈ definitions.keys :=
    Entries.mem_keys_of_get? (standsForItself_of_buildSchemas h) hnode
  obtain ⟨schema, hschema⟩ := buildSchema_of_buildInto h hname
  exact ⟨schema, get?_of_buildInto h hschema (.inl hname),
    c.buildFields_of_buildSchema definitions hnode hschema⟩

/-- Definitions are compiled one after another, up to the first that fails. -/
theorem buildInto_eq_error_iff {given : Entries Schema} {names : List Scalar} {f : Failure} :
    c.buildInto definitions given names = .error f ↔
      ∃ before name after, names = before ++ name :: after ∧
        (∀ n ∈ before, ∃ schema, c.buildSchema definitions n = .ok schema) ∧
        c.buildSchema definitions name = .error f := by
  induction names generalizing given with
  | nil =>
    rw [buildInto]
    refine ⟨nofun, ?_⟩
    rintro ⟨before, name, after, hsplit, -⟩
    cases before <;> cases hsplit
  | cons first rest ih =>
    rw [buildInto, Outcome.bind_eq_error_iff]
    constructor
    · rintro (hfirst | ⟨schema, hschema, hrest⟩)
      · exact ⟨[], first, rest, rfl, nofun, hfirst⟩
      · obtain ⟨before, name, after, rfl, hbefore, hname⟩ := ih.mp hrest
        exact ⟨first :: before, name, after, rfl,
          List.forall_mem_cons.mpr ⟨⟨schema, hschema⟩, hbefore⟩, hname⟩
    · rintro ⟨before, name, after, hsplit, hbefore, hname⟩
      cases before with
      | nil =>
        obtain ⟨rfl, rfl⟩ := List.cons.inj hsplit
        exact .inl hname
      | cons second before =>
        obtain ⟨rfl, rfl⟩ := List.cons.inj hsplit
        obtain ⟨⟨schema, hschema⟩, hrest⟩ := List.forall_mem_cons.mp hbefore
        exact .inr ⟨schema, hschema, ih.mpr ⟨before, name, after, rfl, hrest, hname⟩⟩

/-- What can be computed to hold of the definitions of a document holds of them. -/
theorem of_decide_extract {config : Config} {spec : Value} {P : Definitions → Prop}
    [DecidablePred P]
    (hdecide : ((ofConfig config).mapError .compile >>= fun c => (c.extract spec).map fun ds =>
      decide (P ds)) = .ok true)
    (hc : ofConfig config = .ok c) (hread : c.extract spec = .ok definitions) : P definitions := by
  rw [hc] at hdecide
  obtain ⟨found, hfound, htrue⟩ :=
    Outcome.map_eq_ok_iff.mp (show (c.extract spec).map _ = .ok true from hdecide)
  rw [hread] at hfound
  exact of_decide_eq_true (Except.ok.inj hfound ▸ htrue)

end Compiler

end ApiStore
