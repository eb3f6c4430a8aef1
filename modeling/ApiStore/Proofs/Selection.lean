import ApiStore.Proofs.Build.Target
import ApiStore.Proofs.Compilation
import ApiStore.Proofs.Parsing
/-
`Selection.lean` -- the names of definitions, all of them or some.

On its way from a document to a store a definition passes through five tables, each of which
is kept under the definition's name: raw definitions, nodes, schemas, collections, and what a
store lists. None of them drops a name, has it twice or moves it, as long as the names are
texts and none occurs twice; then they are all the one list of names.

**Some of them.** The same loop compiles all definitions or those that are asked for, and a
definition is compiled against all others in either case. So what a selection is worth follows
from the definitions that it names: `buildInto_keeps` is the loop, for any list of names.
-/
set_option autoImplicit false

namespace ApiStore

/-! ## 1. Names -/

namespace Entries

variable {α : Type} {entries : Entries α}

/-- In a table under texts nothing is found but under its keys. -/
theorem TextKeys.get?_eq_none_iff (h : entries.TextKeys) {key : Scalar} :
    get? entries key = none ↔ key ∉ entries.keys := by
  induction entries with
  | nil => simp [keys]
  | cons entry rest ih =>
    obtain ⟨k, v⟩ := entry
    obtain ⟨⟨s, rfl⟩, hrest⟩ := List.forall_mem_cons.mp h
    rw [get?, keys, List.map_cons, List.mem_cons, not_or, ← keys, ← ih hrest]
    by_cases hkey : key = .str s
    · rw [if_pos (by simpa using hkey)]
      exact ⟨by simp, fun hboth => absurd hkey hboth.1⟩
    · rw [if_neg (by simpa using hkey), and_iff_right hkey]

end Entries

namespace Document

/-- The definitions of a document that is given as a table stand under texts, none of which occurs
twice. A document that is given as a text is read that way. -/
def IsNamed (spec : Value) : Prop :=
  ∀ document raw, spec = .map document → rawDefinitions document = .ok raw → raw.TextKeys ∧
    raw.keys.Nodup

theorem keys_of_readDefinitions {key : String} {raw : Entries Value} {definitions : Definitions}
    (h : readDefinitions key raw = .ok definitions) : definitions.keys = raw.keys := by
  induction raw generalizing definitions with
  | nil =>
    cases h
    rfl
  | cons entry rest ih =>
    obtain ⟨node, -, h⟩ := Outcome.bind_eq_ok_iff.mp h
    obtain ⟨others, hothers, h⟩ := Outcome.bind_eq_ok_iff.mp h
    cases h
    exact congrArg (entry.1 :: ·) (ih hothers)

/-- The definitions that are extracted from a document have the names that are listed. -/
theorem definitionNames_of_extract {spec : Value} {key : String} {definitions : Definitions}
    (h : extract spec key = .ok definitions) : definitionNames spec = .ok definitions.keys := by
  obtain ⟨document, hload, h⟩ := Outcome.bind_eq_ok_iff.mp h
  obtain ⟨raw, hraw, hread⟩ := Outcome.bind_eq_ok_iff.mp h
  rw [keys_of_readDefinitions hread]
  exact Outcome.bind_eq_ok_iff.mpr ⟨document, hload, Outcome.bind_eq_ok_iff.mpr ⟨raw, hraw, rfl⟩⟩

/-- The names that are listed are texts, none of which occurs twice. -/
theorem IsNamed.names {spec : Value} (h : IsNamed spec) {names : List Scalar}
    (hnames : definitionNames spec = .ok names) :
    (∀ name ∈ names, ∃ s, name = .str s) ∧ names.Nodup := by
  obtain ⟨document, hload, hnames⟩ := Outcome.bind_eq_ok_iff.mp hnames
  obtain ⟨raw, hraw, hkeys⟩ := Outcome.bind_eq_ok_iff.mp hnames
  cases hkeys
  have hfound : rawDefinitions document = .ok raw := Outcome.mapError_eq_ok_iff.mp hraw
  have hnamed : raw.TextKeys ∧ raw.keys.Nodup := by
    cases spec with
    | map entries =>
      cases hload
      exact h _ _ rfl hfound
    | _ =>
      have hjson := isJson_of_rawDefinitions (load_isJson hload (by simp)) hfound
      obtain ⟨htexts, hnodup, -⟩ := Value.isJson_map_iff.mp hjson
      exact ⟨htexts, hnodup⟩
  exact ⟨List.forall_mem_map.mpr hnamed.1, hnamed.2⟩

end Document

/-! ## 2. Schemas under their names -/

theorem Schema.name_of_ofParts {name : String} {fields options : Value} {s : Schema}
    (h : Schema.ofParts (.str name) fields options = .ok s) : s.name = name := by
  unfold Schema.ofParts at h
  split at h
  · rename_i n _ _ hname _
    obtain rfl : name = n := Except.ok.inj hname
    cases h
    rfl
  · cases h

namespace Compiler

variable {c : Compiler} {definitions : Definitions}

theorem name_of_buildSchema {name : String} {schema : Schema}
    (h : c.buildSchema definitions (.str name) = .ok schema) :
    schema.name = name := by
  unfold buildSchema at h
  split at h
  · cases h
  · obtain ⟨fields, -, h⟩ := Outcome.bind_eq_ok_iff.mp h
    exact Schema.name_of_ofParts (Outcome.mapError_eq_ok_iff.mp h)

/-- A table of schemas that stand under the names of the definitions they are compiled from, each
name once. -/
structure Holds (c : Compiler) (definitions : Definitions) (schemas : Entries Schema) : Prop where
  nodup : schemas.keys.Nodup
  own : ∀ s ∈ schemas, c.buildSchema definitions s.1 = .ok s.2

/-- A list in which nothing occurs twice is as it is without repetitions. -/
theorem eraseDups_of_nodup {names : List Scalar} (h : names.Nodup) : names.eraseDups = names := by
  induction names with
  | nil => rfl
  | cons first rest ih =>
    obtain ⟨hfirst, hrest⟩ := List.nodup_cons.mp h
    have hothers : rest.filter (fun name => !name == first) = rest :=
      List.filter_eq_self.mpr fun name hname => by simpa using ne_of_mem_of_not_mem hname hfirst
    rw [List.eraseDups_cons, hothers, ih hrest]

/-- **The loop.** Schemas are appended under the names that come up, in the order of their first
occurrence, and each of them is the schema of its name. -/
theorem buildInto_keeps {names : List Scalar} {given schemas : Entries Schema}
    (hgiven : c.Holds definitions given) (htexts : ∀ name ∈ names, ∃ s, name = .str s)
    (h : c.buildInto definitions given names = .ok schemas) :
    c.Holds definitions schemas ∧ schemas.keys = given.keys ++
      (names.filter (· ∉ given.keys)).eraseDups := by
  induction names generalizing given with
  | nil =>
    cases h
    exact ⟨hgiven, (List.append_nil _).symm⟩
  | cons first rest ih =>
    obtain ⟨⟨name, rfl⟩, hrest⟩ := List.forall_mem_cons.mp htexts
    obtain ⟨schema, hschema, h⟩ := Outcome.bind_eq_ok_iff.mp h
    have hkeys := Entries.keys_insert_str given name schema
    have hown : ∀ s ∈ given.insert (.str name) schema, c.buildSchema definitions s.1 = .ok s.2 := by
      intro s hs
      rcases Entries.mem_insert_entry (.str name) hs with hold | rfl
      · exact hgiven.own s hold
      · exact hschema
    -- A name that comes up again is compiled again, to the same schema in the same place.
    by_cases hmem : .str name ∈ given.keys
    · rw [if_pos hmem] at hkeys
      obtain ⟨hholds, hall⟩ := ih ⟨hkeys ▸ hgiven.nodup, hown⟩ hrest h
      refine ⟨hholds, ?_⟩
      rw [hall, hkeys, List.filter_cons_of_neg (by simpa using hmem)]
    · rw [if_neg hmem] at hkeys
      have hnodup : (given.keys ++ [Scalar.str name]).Nodup := by
        refine List.nodup_append.mpr ⟨hgiven.nodup, List.nodup_cons.mpr ⟨nofun, List.nodup_nil⟩, ?_⟩
        intro key hkey other hother heq
        exact hmem (List.mem_singleton.mp hother ▸ heq ▸ hkey)
      obtain ⟨hholds, hall⟩ := ih ⟨hkeys ▸ hnodup, hown⟩ hrest h
      refine ⟨hholds, ?_⟩
      have hlater : (rest.filter (· ∉ given.keys)).filter (fun key => !key == .str name) =
          rest.filter (· ∉ given.keys ++ [.str name]) := by
        rw [List.filter_filter]
        refine List.filter_congr fun key _ => ?_
        rw [Bool.eq_iff_iff]
        simp [and_comm]
      rw [hall, hkeys, List.filter_cons_of_pos (by simpa using hmem), List.eraseDups_cons, hlater,
        List.append_assoc, List.singleton_append]

/-- From nothing, the names are those that come up. -/
theorem buildInto_nil_keeps {names : List Scalar} {schemas : Entries Schema}
    (htexts : ∀ name ∈ names, ∃ s, name = .str s)
    (h : c.buildInto definitions [] names = .ok schemas) :
    c.Holds definitions schemas ∧ schemas.keys = names.eraseDups := by
  have hnone : c.Holds definitions [] := ⟨List.nodup_nil, nofun⟩
  obtain ⟨hholds, hkeys⟩ := buildInto_keeps hnone htexts h
  have hfresh : names.filter (· ∉ Entries.keys ([] : Entries Schema)) = names :=
    List.filter_eq_self.mpr fun _ _ => rfl
  exact ⟨hholds, hfresh ▸ hkeys⟩

/-- Names whose schemas can be made are all that the loop asks for. -/
theorem buildInto_isOk {names : List Scalar}
    (h : ∀ name ∈ names, ∃ schema, c.buildSchema definitions name = .ok schema)
    (given : Entries Schema) :
    ∃ schemas, c.buildInto definitions given names = .ok schemas := by
  induction names generalizing given with
  | nil => exact ⟨given, rfl⟩
  | cons first rest ih =>
    obtain ⟨⟨schema, hschema⟩, hrest⟩ := List.forall_mem_cons.mp h
    obtain ⟨schemas, hschemas⟩ := ih hrest (given.insert first schema)
    exact ⟨schemas, Outcome.bind_eq_ok_iff.mpr ⟨schema, hschema, hschemas⟩⟩

/-- What is no definition has no schema. -/
theorem buildSchema_of_unknown (htexts : definitions.TextKeys) {name : Scalar}
    (h : name ∉ definitions.keys) :
    c.buildSchema definitions name = .error (.compile (.definitionNotFound name)) := by
  rw [buildSchema, htexts.get?_eq_none_iff.mpr h]

/-- **A selection.** Where all definitions compile, a selection of them does, and it agrees with the
whole; a selection with a name that is no definition fails at the first such name. -/
theorem buildSchemas_some_cases {schemas : Entries Schema} (htexts : definitions.TextKeys)
    (h : c.buildSchemas definitions none = .ok schemas) (selected : List Scalar) :
    ((∀ name ∈ selected, name ∈ definitions.keys) ∧
      ∃ made, c.buildSchemas definitions (some selected) = .ok made ∧
      made.keys = selected.eraseDups ∧ ∀ s ∈ made, s ∈ schemas) ∨
    ∃ before name after, selected = before ++ name :: after ∧ (∀ n ∈ before, n ∈ definitions.keys) ∧
      name ∉ definitions.keys ∧
      c.buildSchemas definitions (some selected) =
        .error (.compile (.definitionNotFound name)) := by
  have hkeys : ∀ name ∈ definitions.keys, ∃ s, name = .str s := List.forall_mem_map.mpr htexts
  have hschema : ∀ name ∈ definitions.keys, ∃ schema, c.buildSchema definitions name = .ok schema :=
    fun name hname => buildSchema_of_buildInto h hname
  -- The first unknown name decides: all names before it compile.
  cases hfind : selected.find? (· ∉ definitions.keys) with
  | none =>
    have hall : ∀ name ∈ selected, name ∈ definitions.keys := by
      intro name hname
      simpa using List.find?_eq_none.mp hfind name hname
    obtain ⟨made, hmade⟩ := buildInto_isOk (fun name hname => hschema name (hall name hname)) []
    obtain ⟨hholds, hnames⟩ := buildInto_nil_keeps
      (fun name hname => hkeys name (hall name hname)) hmade
    refine .inl ⟨hall, made, hmade, hnames, ?_⟩
    intro s hs
    have hselected : s.1 ∈ made.keys := List.mem_map_of_mem hs
    rw [hnames, List.mem_eraseDups] at hselected
    have hmem := hall s.1 hselected
    obtain ⟨name, hname⟩ := hkeys s.1 hmem
    have hown := hholds.own s hs
    rw [hname] at hown hmem
    have hwhole := Entries.mem_of_get?_str (get?_of_buildInto h hown (.inl hmem))
    rwa [← hname] at hwhole
  | some name =>
    obtain ⟨hmissing, before, after, hsplit, hbefore⟩ := List.find?_eq_some_iff_append.mp hfind
    have hname : name ∉ definitions.keys := of_decide_eq_true hmissing
    have hknown : ∀ n ∈ before, n ∈ definitions.keys := by
      intro n hn
      simpa using hbefore n hn
    refine .inr ⟨before, name, after, hsplit, hknown, hname, ?_⟩
    exact buildInto_eq_error_iff.mpr ⟨before, name, after, hsplit,
      fun n hn => hschema n (hknown n hn), buildSchema_of_unknown htexts hname⟩

/-- What a selection is worth, where all definitions compile. -/
theorem buildSchemas_some {schemas : Entries Schema} (htexts : definitions.TextKeys)
    (h : c.buildSchemas definitions none = .ok schemas) (selected : List Scalar) :
    ((∃ made, c.buildSchemas definitions (some selected) = .ok made) ↔ ∀ name ∈ selected,
      name ∈ definitions.keys) ∧ (∀ made, c.buildSchemas definitions (some selected) = .ok made →
        made.keys = selected.eraseDups ∧ ∀ s ∈ made, s ∈ schemas) ∧
      ((∃ name ∈ selected, name ∉ definitions.keys) → ∃ before name after, selected = before ++
        name :: after ∧ (∀ n ∈ before, n ∈ definitions.keys) ∧ name ∉ definitions.keys ∧
        c.buildSchemas definitions (some selected) =
          .error (.compile (.definitionNotFound name))) := by
  rcases buildSchemas_some_cases htexts h selected with
    ⟨hall, built, hbuilt, hselection⟩ | ⟨before, name, after, rfl, hbefore, hname, herror⟩
  · refine ⟨⟨fun _ => hall, fun _ => ⟨built, hbuilt⟩⟩, ?_, ?_⟩
    · intro other hother
      obtain rfl := Except.ok.inj (hbuilt.symm.trans hother)
      exact hselection
    · rintro ⟨name, hname, hunknown⟩
      exact absurd (hall name hname) hunknown
  · rw [herror]
    refine ⟨⟨by simp, fun hall => absurd (hall name (by simp)) hname⟩, by simp, fun _ => ?_⟩
    exact ⟨before, name, after, rfl, hbefore, hname, rfl⟩

/-- All definitions compile to schemas under their names, in their order. -/
theorem buildSchemas_none {schemas : Entries Schema} (htexts : definitions.TextKeys)
    (hnodup : definitions.keys.Nodup) (h : c.buildSchemas definitions none = .ok schemas) :
    schemas.keys = definitions.keys ∧ ∀ s ∈ schemas, s.1 = .str s.2.name := by
  have hkeys : ∀ name ∈ definitions.keys, ∃ s, name = .str s := List.forall_mem_map.mpr htexts
  obtain ⟨hholds, hall⟩ := buildInto_nil_keeps hkeys h
  rw [eraseDups_of_nodup hnodup] at hall
  refine ⟨hall, ?_⟩
  intro s hs
  obtain ⟨name, hname⟩ := hkeys s.1 (hall ▸ List.mem_map_of_mem hs)
  have hown := hholds.own s hs
  rw [hname] at hown ⊢
  rw [name_of_buildSchema hown]

end Compiler

/-! ## 3. From the document to the store -/

/-- Where no name is taken twice, a collection is found under its name. -/
theorem Store.get?_of_mem {s : Store} (hnodup : s.names.Nodup) {c : Collection}
    (hc : c ∈ s.collections) :
    s.get? c.name = some c := by
  obtain ⟨collections⟩ := s
  induction collections with
  | nil => cases hc
  | cons first rest ih =>
    obtain ⟨hfirst, hrest⟩ := List.nodup_cons.mp hnodup
    rw [get?, List.find?_cons]
    rcases List.mem_cons.mp hc with rfl | hlater
    · rw [beq_self_eq_true]
    · have hne : first.name ≠ c.name := fun heq => hfirst (List.mem_map.mpr ⟨c, hlater, heq.symm⟩)
      rw [beq_eq_false_iff_ne.mpr hne]
      exact ih hrest hlater

/-- Schemas that stand under their names, none of which occurs twice, are found under these in the
store that they make. -/
theorem Store.get?_of_named {schemas : Entries Schema} (hnamed : ∀ s ∈ schemas, s.1 = .str s.2.name)
    (hnodup : schemas.keys.Nodup) {s : Scalar × Schema} (hs : s ∈ schemas) :
    Store.get? ⟨(schemas.map (·.2)).map .ofSchema⟩ s.2.name = some (.ofSchema s.2) := by
  have hdistinct : (Store.mk ((schemas.map (·.2)).map .ofSchema)).names.Nodup := by
    refine List.Nodup.of_map Scalar.str ?_
    rw [Store.names, List.map_map, List.map_map]
    exact (Store.registerAll_of_named hnamed hnodup).2 ▸ hnodup
  have hmem : Collection.ofSchema s.2 ∈ (schemas.map (·.2)).map Collection.ofSchema :=
    List.mem_map_of_mem (List.mem_map_of_mem hs)
  exact Store.get?_of_mem hdistinct hmem

/-- **No definition is lost, doubled or moved, and a selection agrees with the whole.** Where a
document compiles into an empty store, the names that are listed for it, the names of its
definitions, of the schemas and of the collections are one list, in one order; every schema and
every collection has the name under which it stands. Of the same definitions any selection compiles
if and only if each of its names is that of a definition. Its schemas stand under its names in the
order of their first occurrence, and each of them is the one from the compilation of the whole. A
selection with a name of no definition fails with the first such name, as a definition that is
missing. -/
theorem compile_keeps_names (config : Config) {spec : Value} (hspec : Document.IsNamed spec)
    {store : Store} {schemas : Entries Schema}
    (h : Store.empty.compile config spec = (store, .ok schemas)) :
    ∃ c definitions names, Compiler.ofConfig config = .ok c ∧ c.extract spec = .ok definitions ∧
      Document.definitionNames spec = .ok names ∧ names.Nodup ∧
      definitions.keys = names ∧ schemas.keys = names ∧ store.names.map Scalar.str = names ∧
      store.collections = schemas.map (fun s => .ofSchema s.2) ∧
      (∀ s ∈ schemas, s.1 = .str s.2.name ∧ store.get? s.2.name = some (.ofSchema s.2)) ∧
      c.buildSchemas definitions none = .ok schemas ∧
      ∀ selected : List Scalar,
        ((∃ made, c.buildSchemas definitions (some selected) = .ok made) ↔
          ∀ name ∈ selected, name ∈ names) ∧
        (∀ made, c.buildSchemas definitions (some selected) = .ok made →
          made.keys = selected.eraseDups ∧ ∀ s ∈ made, s ∈ schemas) ∧
        ((∃ name ∈ selected, name ∉ names) → ∃ before name after,
          selected = before ++ name :: after ∧ (∀ n ∈ before, n ∈ names) ∧ name ∉ names ∧
          c.buildSchemas definitions (some selected) =
            .error (.compile (.definitionNotFound name)) ∧
          (CompileError.definitionNotFound name).kind = .missingDefinitions) := by
  cases hresult : Store.compileSpec config spec with
  | error e =>
    rw [Store.compile, hresult] at h
    cases h
  | ok made =>
    obtain ⟨c, hc, hextracted⟩ := Outcome.bind_eq_ok_iff.mp hresult
    obtain ⟨definitions, hdefinitions, hschemas⟩ := Outcome.bind_eq_ok_iff.mp hextracted
    have hnames := Document.definitionNames_of_extract hdefinitions
    obtain ⟨htexts, hnodup⟩ := hspec.names hnames
    have hkeys : definitions.TextKeys := fun d hd => htexts d.1 (List.mem_map_of_mem hd)
    -- The definitions compile in their order, and then all of them are registered in that order.
    obtain ⟨hlist, hown⟩ := Compiler.buildSchemas_none hkeys hnodup hschemas
    have hdistinct : made.keys.Nodup := hlist ▸ hnodup
    obtain ⟨hregister, hstored⟩ := Store.registerAll_of_named hown hdistinct
    rw [Store.compile, hresult] at h
    simp only [hregister] at h
    obtain ⟨rfl, hmade⟩ := Prod.mk.inj h
    obtain rfl := Except.ok.inj hmade
    refine ⟨c, definitions, definitions.keys, Outcome.mapError_eq_ok_iff.mp hc, hdefinitions,
      hnames, hnodup, rfl, hlist,
      ?_, List.map_map, fun s hs => ⟨hown s hs, Store.get?_of_named hown hdistinct hs⟩, hschemas,
        fun selected => ?_⟩
    · rw [← hlist, ← hstored, Store.names, List.map_map, List.map_map]
      rfl
    · obtain ⟨hiff, hmade, hunknown⟩ := Compiler.buildSchemas_some hkeys hschemas selected
      refine ⟨hiff, hmade, fun hmissing => ?_⟩
      obtain ⟨before, name, after, hsplit, hbefore, hname, herror⟩ := hunknown hmissing
      exact ⟨before, name, after, hsplit, hbefore, hname, herror, rfl⟩

namespace Sample

/-- A document that defines a cat and a dog, the cat with a friend. -/
def farm : Value :=
  .object [("definitions", .object [
    ("Dog", .object [("type", .str "object"),
      ("properties", .object [("name", .object [("type", .str "string")])])]),
    ("Cat", .object [("type", .str "object"),
      ("properties", .object [("friend", .object [("$ref", .str "#/definitions/Dog")])])])])]

end Sample

/-- The farm compiles to a dog and a cat. The cat can be had first, and twice, and there is no
fox. -/
theorem compile_keeps_names_farm :
    ∃ (store : Store) (schemas made : Entries Schema) (c : Compiler) (definitions : Definitions),
      Store.empty.compile .initial Sample.farm = (store, .ok schemas) ∧
        store.names = ["Dog", "Cat"] ∧
      c.extract Sample.farm = .ok definitions ∧
      c.buildSchemas definitions (some [.str "Cat", .str "Dog", .str "Cat"]) = .ok made ∧
      made.keys = [.str "Cat", .str "Dog"] ∧
      ∃ name, c.buildSchemas definitions (some [.str "Fox"]) =
        .error (.compile (.definitionNotFound name)) := by
  have hnamed : Document.IsNamed Sample.farm := by
    intro document raw hdocument hraw
    cases hdocument
    cases hraw
    exact ⟨by simp [Entries.TextKeys], by decide⟩
  have hok : (Store.empty.compile .initial Sample.farm).2.isOk = true := by decide
  obtain ⟨schemas, hschemas⟩ := Outcome.isOk_iff.mp hok
  have hcompile : Store.empty.compile .initial Sample.farm =
      ((Store.empty.compile .initial Sample.farm).1, .ok schemas) :=
    Prod.ext rfl hschemas
  obtain ⟨c, definitions, names, -, hextract, hlisted, -, -, -, -, -, -, -, hselect⟩ :=
    compile_keeps_names .initial hnamed hcompile
  obtain rfl : [Scalar.str "Dog", .str "Cat"] = names := Except.ok.inj hlisted
  obtain ⟨hiff, hmade, -⟩ := hselect [.str "Cat", .str "Dog", .str "Cat"]
  obtain ⟨made, hbuilt⟩ := hiff.mpr (by decide)
  obtain ⟨-, -, hunknown⟩ := hselect [.str "Fox"]
  obtain ⟨_, name, _, -, -, -, herror, -⟩ := hunknown ⟨.str "Fox", by decide, by decide⟩
  exact ⟨_, schemas, made, c, definitions, hcompile,
    by decide, hextract, hbuilt, (hmade made hbuilt).1, name, herror⟩

end ApiStore
