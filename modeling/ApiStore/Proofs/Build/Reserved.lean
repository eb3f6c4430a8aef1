import ApiStore.Proofs.Build.ErrorPath
import ApiStore.Proofs.Build.Likeness
import ApiStore.Proofs.Schemas
import ApiStore.Proofs.Value
import ApiStore.Store
/-
`Reserved.lean` -- no reserved name becomes a field.

The names `_id` and `__v` belong to the storage engine. In the fields of a schema they are
no keys, whatever its definition is (`fieldProperty_keys`). Further down they could come in
from two sides only, with a default or with an override, both of which are handed on as they
are. An override lays its options over the fields of an object, so an option called `_id`
does become a key there; that is why options have to be kept free of reserved names. What
is inside a default or inside an option is not a field map at all.

**Telling quoted values from made ones.** Compiled fields do not say which of their values
are quoted. So every default and every option is replaced in the definitions by one value
that the compiler never makes (`Value.blank`). The definitions then compile alike, and what
is blank in their fields is what is quoted in the others. In all the rest there is no
reserved key, at any depth.
-/
set_option autoImplicit false

namespace ApiStore

/-! ## 1. Values without reserved keys -/

namespace Value

mutual

/-- Whether no table in a value has a reserved key, at any depth. -/
def unreserved : Value → Bool
  | .list items => itemsUnreserved items
  | .map entries => entriesUnreserved entries
  | .scalar _ | .set _ | .pair _ _ => true

/-- Whether no table in any of the items has a reserved key. -/
def itemsUnreserved : List Value → Bool
  | [] => true
  | v :: rest => unreserved v && itemsUnreserved rest

/-- Whether no key is reserved, nor any in the values. -/
def entriesUnreserved : List (Scalar × Value) → Bool
  | [] => true
  | (k, v) :: rest => !isReserved k && unreserved v && entriesUnreserved rest

end

/-- What stands for a quoted value: a pair, which the compiler never makes. -/
def blank : Value := .pair .null .null

end Value

/-! ## 2. Blank definitions -/

/-- The options of an override, each of them blank. -/
def Extension.blanked (e : Extension) : Extension :=
  { e with options := e.options.mapValues fun _ => .blank }

/-- The facts of a node with a blank default, if there is one, and a blank override. -/
def Facts.blanked (f : Facts) : Facts :=
  { f with
    extension := f.extension.map Extension.blanked
    default := if f.default.isTruthy then .blank else f.default }

namespace Node

mutual

/-- A node with all that it quotes blank. -/
def blanked : Node → Node
  | .primitive facts type format => .primitive facts.blanked type format
  | .array facts items => .array facts.blanked items.blanked
  | .object facts properties required =>
    .object facts.blanked (blankedProperties properties) required
  | .reference facts pointer => .reference facts.blanked pointer
  | .any facts => .any facts.blanked

/-- Properties with all that they quote blank. -/
def blankedProperties : List (String × Node) → List (String × Node)
  | [] => []
  | (key, node) :: rest => (key, node.blanked) :: blankedProperties rest

end

mutual

/-- All overrides in a node. -/
def extensions : Node → List Extension
  | .array facts items => facts.extension.toList ++ items.extensions
  | .object facts properties _ => facts.extension.toList ++ propertiesExtensions properties
  | .primitive facts _ _ | .reference facts _ | .any facts => facts.extension.toList

/-- All overrides in properties. -/
def propertiesExtensions : List (String × Node) → List Extension
  | [] => []
  | (_, node) :: rest => node.extensions ++ propertiesExtensions rest

end

end Node

/-- Definitions with all that they quote blank. -/
def Definitions.blanked (definitions : Definitions) : Definitions :=
  definitions.mapValues Node.blanked

/-- No option of an override has a reserved name. -/
def Extension.Unreserved (e : Extension) : Prop := ∀ key ∈ e.options.keys, isReserved key = false

instance (e : Extension) : Decidable e.Unreserved := inferInstanceAs (Decidable (∀ key ∈ _, _))

/-- No option of any override in definitions has a reserved name. -/
def Definitions.Unreserved (definitions : Definitions) : Prop :=
  ∀ d ∈ definitions, ∀ e ∈ d.2.extensions, e.Unreserved

instance (definitions : Definitions) : Decidable definitions.Unreserved :=
  inferInstanceAs (Decidable (∀ d ∈ definitions, ∀ e ∈ d.2.extensions, e.Unreserved))

/-- Quoted values on one side and blanks on the other, in tables without reserved keys. -/
def Likeness.blank : Likeness where
  Quoted _ w := w = .blank
  Key k := isReserved k = false
  key_of_not_reserved _ h := h

namespace Likeness

/-- Where quoted values are blank there is no reserved key, at any depth. -/
theorem unreserved_of_tables {x y : Entries Value}
    (hx : ∀ e ∈ x, ∀ w, blank.Values e.2 w → w.unreserved = true) (h : blank.Tables x y) :
    (Value.map y).unreserved = true := by
  rw [Value.unreserved]
  induction x generalizing y with
  | nil =>
    cases h
    rfl
  | cons entry rest ih =>
    obtain ⟨hentry, hrest⟩ := List.forall_mem_cons.mp hx
    cases h with
    | made hk hv htail =>
      rw [Value.entriesUnreserved, (hk : isReserved _ = false), hentry _ hv, ih hrest htail]
      rfl
    | quoted hk hv htail =>
      rw [Value.entriesUnreserved, (hk : isReserved _ = false), (hv : _ = _), ih hrest htail]
      rfl

/-- What a value is blanked to has no reserved keys. -/
theorem Values.unreserved {v w : Value} (h : blank.Values v w) : w.unreserved = true := by
  induction v using Value.induction generalizing w with
  | scalar s =>
    cases h
    rfl
  | list items ih =>
    cases h with
    | marker h =>
      rw [Value.unreserved, Value.itemsUnreserved, ih _ (List.mem_singleton_self _) h]; rfl
  | map entries ih =>
    cases h with
    | table h => exact unreserved_of_tables (fun e he _ => ih e he) h
  | set members => cases h
  | pair first second _ _ => cases h

/-- Nor has what a table is blanked to. -/
theorem Tables.unreserved {x y : Entries Value} (h : blank.Tables x y) :
    (Value.map y).unreserved = true :=
  Values.unreserved (.table h)

/-- A table without reserved keys may have all its values blanked. -/
theorem tables_blank {x : Entries Value} (h : ∀ key ∈ x.keys, isReserved key = false) :
    blank.Tables x (x.mapValues fun _ => .blank) := by
  induction x with
  | nil => exact .nil
  | cons entry rest ih =>
    obtain ⟨hkey, hrest⟩ := List.forall_mem_cons.mp h
    exact .quoted hkey rfl (ih hrest)

/-- An override without reserved keys is like its blanked form. -/
theorem overrides_blanked {d : Option Extension} (h : ∀ e ∈ d.toList, e.Unreserved) :
    Option.Rel blank.Overrides d (d.map Extension.blanked) := by
  cases d with
  | none => exact .none
  | some e => exact .some ⟨rfl, rfl, tables_blank (h e (by simp))⟩

/-- So are the facts of a node whose override has none. -/
theorem leaves_blanked {f : Facts} (h : ∀ e ∈ f.extension.toList, e.Unreserved) :
    blank.Leaves f f.blanked where
  extension := overrides_blanked h
  simple := rfl
  truthy := by
    unfold Facts.blanked
    dsimp only
    split
    · assumption
    · rfl
  default htruthy := if_pos htruthy

/-- Properties are like their blanked forms if each of them is. -/
theorem properties_blanked {ps : List (String × Node)}
    (h : ∀ p ∈ ps, (∀ e ∈ p.2.extensions, e.Unreserved) → blank.Nodes p.2 p.2.blanked)
    (hps : ∀ e ∈ Node.propertiesExtensions ps, e.Unreserved) :
    blank.Properties ps (Node.blankedProperties ps) := by
  induction ps with
  | nil => exact .nil
  | cons property rest ih =>
    obtain ⟨hproperty, hrest⟩ := List.forall_mem_cons.mp h
    rw [Node.propertiesExtensions, List.forall_mem_append] at hps
    exact .cons (hproperty hps.1) (ih hrest hps.2)

/-- A node goes together with itself when all that it quotes is blank. -/
theorem nodes_blanked {n : Node} (h : ∀ e ∈ n.extensions, e.Unreserved) :
    blank.Nodes n n.blanked := by
  induction n using Node.induction with
  | primitive facts type format => exact .primitive (leaves_blanked h)
  | array facts items ih =>
    rw [Node.extensions, List.forall_mem_append] at h
    exact .array (leaves_blanked h.1) (ih h.2)
  | object facts properties required ih =>
    rw [Node.extensions, List.forall_mem_append] at h
    exact .object (overrides_blanked h.1) (properties_blanked ih h.2)
  | reference facts pointer => exact .reference (overrides_blanked h) ⟨rfl, rfl⟩
  | any facts => exact .any (overrides_blanked h)

/-- So are the definitions, one under each name. -/
theorem maps_blanked {ds : Definitions} (h : ds.Unreserved) : blank.Maps ds ds.blanked := by
  induction ds with
  | nil => exact .nil
  | cons d rest ih =>
    obtain ⟨hd, hrest⟩ := List.forall_mem_cons.mp h
    exact .cons ⟨rfl, nodes_blanked hd⟩ (ih hrest)

end Likeness

/-! ## 3. Schemas -/

/-- No key of compiled fields is reserved. -/
theorem isReserved_of_buildNode {overrides : OverrideRules} {definitions : Definitions}
    {start : BuildStart} {node : Node} {fields : Entries Value}
    (h : buildNode overrides definitions start node = .ok fields) {key : Scalar}
    (hkey : key ∈ fields.keys) : isReserved key = false := by
  obtain ⟨name, rfl, hname⟩ := fieldProperty_keys.buildNode overrides definitions h key hkey
  exact hname

/-- What a definition compiles to when all that the definitions quote is blank: the same fields,
with blanks for what is quoted and without a reserved key at any depth. -/
theorem buildFields_blanked {c : Compiler} {definitions : Definitions}
    (hdefinitions : definitions.Unreserved) {name : Scalar} {node : Node}
    (hnode : Entries.get? definitions name = some node) {fields : Entries Value}
    (h : c.buildFields definitions name node = .ok fields) :
    ∃ blanked, c.buildFields definitions.blanked name node.blanked = .ok blanked ∧
      Likeness.blank.Tables fields blanked ∧ (Value.map blanked).unreserved = true := by
  have hmaps := Likeness.maps_blanked hdefinitions
  obtain ⟨key, hkey⟩ := Entries.exists_mem_of_get? hnode
  have hlike : Likeness.blank.Nodes node node.blanked :=
    Likeness.nodes_blanked (hdefinitions _ hkey)
  have hbuild := Likeness.buildNode_alike hmaps hlike c.overrides
    ⟨name, 0, c.config.maxReferenceDepth⟩
  rw [show buildNode c.overrides definitions ⟨name, 0, c.config.maxReferenceDepth⟩ node =
    .ok fields from h] at hbuild
  obtain ⟨blanked, hblanked, halike⟩ := hbuild.exists_of_ok
  exact ⟨blanked, hblanked, halike.tables, halike.tables.unreserved⟩

/-- **Reserved names never become fields.** In the schemas of a document that compiles, no key of
the fields is reserved. If no option of any override in the document has a reserved name, there is
none at any depth: with blanks for all that they quote, the definitions compile to the same fields
with blanks for what is quoted, and in those no table has a reserved key. -/
theorem schema_keys_not_reserved {config : Config} {spec : Value} {schemas : Entries Schema}
    (h : Store.compileSpec config spec = .ok schemas) :
    (∀ s ∈ schemas, ∀ key ∈ s.2.fields.keys, isReserved key = false) ∧
      ∃ c definitions, Compiler.ofConfig config = .ok c ∧ c.extract spec = .ok definitions ∧
        (definitions.Unreserved → ∀ s ∈ schemas, ∃ node blanked,
          Entries.get? definitions s.1 = some node ∧
          c.buildFields definitions s.1 node = .ok s.2.fields ∧
          c.buildFields definitions.blanked s.1 node.blanked = .ok blanked ∧
          Likeness.blank.Tables s.2.fields blanked ∧ (Value.map blanked).unreserved = true) := by
  obtain ⟨c, hc, h⟩ := Outcome.bind_eq_ok_iff.mp h
  obtain ⟨definitions, hdefinitions, h⟩ := Outcome.bind_eq_ok_iff.mp h
  refine ⟨fun s hs key hkey => ?_, c, definitions, Outcome.mapError_eq_ok_iff.mp hc, hdefinitions,
    fun hunreserved s hs => ?_⟩
  · obtain ⟨_, -, hfields⟩ := Compiler.exists_definition_of_mem h hs
    exact isReserved_of_buildNode hfields hkey
  · obtain ⟨node, hnode, hfields⟩ := Compiler.exists_definition_of_mem h hs
    obtain ⟨blanked, hblanked, htables, hkeys⟩ := buildFields_blanked hunreserved hnode hfields
    exact ⟨node, blanked, hnode, hfields, hblanked, htables, hkeys⟩

namespace Sample

/-- Pages with reserved properties at two depths, with an option, and with a default that has a
reserved key inside. -/
def reservedPages : Value := .object [("definitions", .object [("Page", .object [
  ("type", .str "object"),
  ("properties", .object [
    ("_id", .object [("type", .str "string")]),
    ("tags", .object [("type", .str "array"), ("items", .object [("type", .str "string")]),
      ("default", .list [.object [("_id", .int 1)]])]),
    ("author", .object [("type", .str "object"),
      (defaultExtensionKey, .object [("index", .bool true)]),
      ("properties", .object [("__v", .object [("type", .str "integer")]),
        ("name", .object [("type", .str "string")])])])])])])]

end Sample

/-- The pages compile, their options are not reserved, and so no key of their fields is, at any
depth outside of the default. -/
theorem schema_keys_not_reserved_pages :
    ∃ schemas, Store.compileSpec .initial Sample.reservedPages = .ok schemas ∧
      schemas.map (·.2.fields.keys) = [[.str "tags", .str "author"]] ∧
      ∃ c definitions, Compiler.ofConfig .initial = .ok c ∧
        c.extract Sample.reservedPages = .ok definitions ∧
        ∀ s ∈ schemas, ∃ node blanked, Entries.get? definitions s.1 = some node ∧
          c.buildFields definitions.blanked s.1 node.blanked = .ok blanked ∧
          Likeness.blank.Tables s.2.fields blanked ∧ (Value.map blanked).unreserved = true := by
  have hkeys : (Store.compileSpec .initial Sample.reservedPages).map (·.map (·.2.fields.keys)) =
      .ok [[.str "tags", .str "author"]] := by decide +kernel
  obtain ⟨schemas, hschemas, hfields⟩ := Outcome.map_eq_ok_iff.mp hkeys
  obtain ⟨-, c, definitions, hc, hdefinitions, hall⟩ := schema_keys_not_reserved hschemas
  have hunreserved : definitions.Unreserved := by
    have hread : ((Compiler.ofConfig .initial).mapError .compile >>= fun c =>
        (c.extract Sample.reservedPages).map fun definitions => decide definitions.Unreserved) =
          .ok true := by
      decide +kernel
    rw [hc] at hread
    obtain ⟨found, hfound, hdecide⟩ :=
      Outcome.map_eq_ok_iff.mp (show (c.extract Sample.reservedPages).map _ = .ok true from hread)
    rw [hdefinitions] at hfound
    exact of_decide_eq_true (Except.ok.inj hfound ▸ hdecide)
  refine ⟨schemas, hschemas, hfields, c, definitions, hc, hdefinitions, fun s hs => ?_⟩
  obtain ⟨node, blanked, hnode, -, hblanked, htables, hfree⟩ := hall hunreserved s hs
  exact ⟨node, blanked, hnode, hblanked, htables, hfree⟩

end ApiStore
