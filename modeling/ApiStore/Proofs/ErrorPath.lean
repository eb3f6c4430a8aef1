import ApiStore.Proofs.Build.ErrorPath
import ApiStore.Proofs.Value
/-
`ErrorPath.lean` -- errors lead to the first offence, in both phases.

A document is read before it is compiled, and both phases report failures in the same way:
as a chain of failed properties that ends in what is wrong. Compiling an object is one such
phase (`buildPhase`); reading the raw properties of one is the other (`readPhase`). Reading
knows no pointers, so that an object is reached only where it stands, as a property or in the
items of an array. What stands around the properties of an object, such as its override or
its list of required names, is reported as an offence of the object and of no property.

`failure_is_path_to_offence` is the result for both phases together.
-/
set_option autoImplicit false

namespace ApiStore

/-! ## 1. Where raw properties stand -/

/-- The raw properties that a raw node leads to: its own, or those of an object in its items. A
definition, at the `root`, may leave out that it is an object. -/
inductive Value.Holds : (root : Bool) → Value → Entries Value → Prop
  | object {root : Bool} {raw properties : Entries Value}
    (href : Entries.get? raw (.str "$ref") = none)
    (htype : entry raw "type" = .str "object" ∨ root = true ∧ entry raw "type" = .null)
    (hproperties : Entries.get? raw (.str "properties") = some (.map properties)) :
      Holds root (.map raw) properties
  | items {root : Bool} {raw properties : Entries Value} {items : Value}
    (href : Entries.get? raw (.str "$ref") = none) (htype : entry raw "type" = .str "array")
    (hitems : Entries.get? raw (.str "items") = some items) (h : Holds false items properties) :
    Holds root (.map raw) properties

/-- A value holds one table of properties at most. -/
theorem Value.Holds.unique {root : Bool} {v : Value} {properties others : Entries Value}
    (h : v.Holds root properties) (h' : v.Holds root others) : properties = others := by
  induction h with
  | object _ htype hproperties =>
    cases h' with
    | object _ _ hproperties' =>
      cases hproperties.symm.trans hproperties'
      rfl
    | items _ htype' _ _ =>
      rw [htype'] at htype
      exact absurd htype (by simp)
  | items _ htype hitems _ ih =>
    cases h' with
    | object _ htype' _ =>
      rw [htype] at htype'
      exact absurd htype' (by simp)
    | items _ _ hitems' hinner =>
      cases hitems.symm.trans hitems'
      exact ih hinner

/-- Reading raw properties; `key` names the overrides. -/
def readPhase (key : String) : Phase (Entries Value) (Scalar × Value) where
  properties raw := raw.filter fun property => !isReserved property.1
  key property := property.1
  raw property := property.2
  Passes _ property := ∃ node, readNode key false property.2 = .ok node
  Fails _ property cause := readNode key false property.2 = .error (.compile cause)
  Opens _ property := property.2.Holds false
  Offence e := e.kind ≠ .propertyProcessing
  offence_kind := id
  opens_unique := Value.Holds.unique

/-! ## 2. The reader, entry by entry -/

section Reader

variable {key : String}

/-- The items are what stands under their key, an empty node if nothing does. -/
theorem readItems_eq (entries : Entries Value) :
    readItems key entries =
      match Entries.get? entries (.str "items") with
      | some items => readNode key false items
      | none => .ok .empty := by
  induction entries with
  | nil => rfl
  | cons entry rest ih =>
    obtain ⟨k, v⟩ := entry
    rw [readItems, Entries.get?]
    split
    · rfl
    · exact ih

/-- The properties are the entries of the table under their key. -/
theorem readProperties_eq (entries : Entries Value) :
    readProperties key entries =
      match Entries.get? entries (.str "properties") with
      | some (.map properties) => readEach key properties
      | some v => if v.isTruthy then .error (.compile (.propertiesNotTable v)) else .ok []
      | none => .ok [] := by
  induction entries with
  | nil => rfl
  | cons entry rest ih =>
    obtain ⟨k, v⟩ := entry
    unfold readProperties
    rw [Entries.get?]
    split
    · cases v <;> rfl
    · exact ih

/-- The properties that are not reserved are read in order. -/
theorem readEach_eq_mapM (properties : Entries Value) :
    readEach key properties =
      (properties.filter fun property => !isReserved property.1).mapM fun property =>
        ((readNode key false property.2).mapError (underProperty property.1 property.2)).map
        (property.1, ·) := by
  induction properties with
  | nil => rfl
  | cons property rest ih =>
    obtain ⟨k, v⟩ := property
    rw [readEach]
    cases hk : isReserved k with
    | true => rw [if_pos rfl, ih, List.filter_cons_of_neg (by simp [hk])]
    | false =>
      rw [if_neg Bool.false_ne_true, ih, List.filter_cons_of_pos (by simp [hk]), List.mapM_cons]
      cases (readNode key false v).mapError (underProperty k v) <;> rfl

/-- Raw properties fail as the first of them to fail. -/
theorem readEach_eq_error_iff {properties : Entries Value} {e : CompileError} :
    readEach key properties = .error (.compile e) ↔
      ∃ property cause, (readPhase key).FirstToFail properties property cause ∧
        e = .property property.1 property.2 cause := by
  rw [readEach_eq_mapM, Outcome.mapM_eq_error_iff]
  constructor
  · rintro ⟨before, property, after, hsplit, hbefore, hfails⟩
    obtain ⟨failure, hread, hunder⟩ :=
      Outcome.mapError_eq_error_iff.mp (Outcome.map_eq_error_iff.mp hfails)
    -- Only a compile error is reported under its property; any other failure is passed on as it is.
    cases failure with
    | compile cause =>
      cases hunder
      refine ⟨property, cause, ⟨before, after, hsplit, fun other hother => ?_, hread⟩, rfl⟩
      obtain ⟨_, hok⟩ := hbefore other hother
      obtain ⟨node, hnode, -⟩ := Outcome.map_eq_ok_iff.mp hok
      exact ⟨node, Outcome.mapError_eq_ok_iff.mp hnode⟩
    | fault _ => cases hunder
    | invalid _ => cases hunder
    | nameTaken _ => cases hunder
  · rintro ⟨property, cause, ⟨before, after, hsplit, hbefore, hfails⟩, rfl⟩
    refine ⟨before, property, after, hsplit, fun other hother => ?_, ?_⟩
    · obtain ⟨node, hnode⟩ := hbefore other hother
      exact ⟨_, Outcome.map_eq_ok_iff.mpr ⟨node, Outcome.mapError_eq_ok_iff.mpr hnode, rfl⟩⟩
    · exact Outcome.map_eq_error_iff.mpr (Outcome.mapError_eq_error_iff.mpr ⟨_, hfails, rfl⟩)

/-! ## 3. All raw nodes -/

/-- What a raw node fails with is to be blamed on what it leads to. -/
def ReadBlamed (key : String) (v : Value) : Prop :=
  ∀ root e, readNode key root v = .error (.compile e) → (readPhase key).Blames (v.Holds root) e

/-- If properties fail to be read, there is a path from them to the offence. -/
theorem path_of_readEach {properties : Entries Value}
    (hproperties : ∀ property ∈ properties, ReadBlamed key property.2) {e : CompileError}
    (h : readEach key properties = .error (.compile e)) :
    (readPhase key).Path properties e := by
  obtain ⟨property, cause, hfirst, rfl⟩ := readEach_eq_error_iff.mp h
  have hmem : property ∈ properties := (List.mem_filter.mp hfirst.mem).1
  exact .of_blames hfirst (hproperties property hmem false cause hfirst.fails)

/-- An override is not refused as a property. -/
theorem readExtension_kind {raw : Entries Value} {e : CompileError}
    (h : readExtension key raw = .error e) :
    e.kind ≠ .propertyProcessing := by
  unfold readExtension at h
  split at h
  · cases h
  · cases h
  · split at h
    · cases h
    · rw [← Except.error.inj h]
      exact nofun
  · rw [← Except.error.inj h]
    exact nofun

/-- Nor is a list of required names. -/
theorem readRequired_kind {raw : Entries Value} {e : CompileError}
    (h : readRequired raw = .error e) :
    e.kind ≠ .propertyProcessing := by
  unfold readRequired at h
  split at h
  · split at h
    · cases h
    · rw [← Except.error.inj h]
      exact nofun
  · cases h

/-- Where only the keys are left to be checked, there will be no compile error. -/
theorem checkKeys_ne_compile {record : String} {raw : Entries Value} {properties : Entries Node}
    {node : Node} {e : CompileError} :
    (checkKeys record raw properties >>= fun _ => pure node) ≠
    .error (.compile e) := by
  intro h
  rcases Outcome.bind_eq_error_iff.mp h with hkeys | ⟨_, -, hpure⟩
  · unfold checkKeys at hkeys
    split at hkeys <;> cases hkeys
  · cases hpure

section Tables

variable {raw : Entries Value} {root : Bool} {e : CompileError}
  (href : Entries.get? raw (.str "$ref") = none)
include href

/-- The items of an array are blamed on what they lead to. -/
theorem blames_of_readItems (htype : entry raw "type" = .str "array")
    (hitems : ∀ items, Entries.get? raw (.str "items") = some items → ReadBlamed key items)
    (h : readItems key raw = .error (.compile e)) :
    (readPhase key).Blames ((Value.map raw).Holds root) e := by
  rw [readItems_eq] at h
  cases hget : Entries.get? raw (.str "items") with
  | none =>
    rw [hget] at h
    cases h
  | some items =>
    rw [hget] at h
    exact (hitems items hget false e h).mono fun properties hholds => .items href htype hget hholds

/-- The properties of an object are, too. -/
theorem blames_of_readProperties
    (htype : entry raw "type" = .str "object" ∨ root = true ∧ entry raw "type" = .null)
    (hproperties : ∀ properties, Entries.get? raw (.str "properties") = some (.map properties) →
      ∀ property ∈ properties, ReadBlamed key property.2)
    (h : readProperties key raw = .error (.compile e)) :
    (readPhase key).Blames ((Value.map raw).Holds root) e := by
  rw [readProperties_eq] at h
  split at h
  · rename_i properties hget
    exact .inr ⟨properties, .object href htype hget,
      path_of_readEach (hproperties properties hget) h⟩
  · split at h
    · cases h
      exact .inl nofun
    · cases h
  · cases h

end Tables

/-- A table is blamed for what it leads to, if its items are, and the properties in it. -/
theorem readNode_map_blamed {raw : Entries Value}
    (hitems : ∀ items, Entries.get? raw (.str "items") = some items → ReadBlamed key items)
    (hproperties : ∀ properties, Entries.get? raw (.str "properties") = some (.map properties) →
      ∀ property ∈ properties, ReadBlamed key property.2) : ReadBlamed key (.map raw) := by
  intro root e h
  unfold readNode at h
  rcases Outcome.bind_eq_error_iff.mp h with hextension | ⟨extension, -, h⟩
  · obtain ⟨found, hfound, heq⟩ := Outcome.mapError_eq_error_iff.mp hextension
    cases heq
    exact .inl (readExtension_kind hfound)
  · dsimp only at h
    -- The cases are the reader's own, in its order: a pointer, an array, an object, no type, a
    -- leaf.
    split at h
    · exact absurd h checkKeys_ne_compile
    · cases h
      exact .inl (by simp [readPhase, CompileError.kind])
    · rename_i href
      split at h
      · rename_i harray
        rcases Outcome.bind_eq_error_iff.mp h with hread | ⟨_, -, h⟩
        · exact blames_of_readItems href harray hitems hread
        · exact absurd h checkKeys_ne_compile
      · split at h
        · rename_i hobject
          have htype : entry raw "type" = .str "object" ∨ root = true ∧
              entry raw "type" = .null := by
            simp only [Bool.or_eq_true, decide_eq_true_eq, Bool.and_eq_true] at hobject
            exact hobject.imp_right fun hroot => hroot.1
          rcases Outcome.bind_eq_error_iff.mp h with hread | ⟨_, -, h⟩
          · exact blames_of_readProperties href htype hproperties hread
          · rcases Outcome.bind_eq_error_iff.mp h with hrequired | ⟨_, -, h⟩
            · obtain ⟨found, hfound, heq⟩ := Outcome.mapError_eq_error_iff.mp hrequired
              cases heq
              exact .inl (readRequired_kind hfound)
            · exact absurd h checkKeys_ne_compile
        · split at h
          · exact absurd h checkKeys_ne_compile
          · split at h
            · exact absurd h checkKeys_ne_compile
            · exact absurd h checkKeys_ne_compile
            · cases h
              exact .inl (by simp [readPhase, CompileError.kind])
          · cases h
            exact .inl (by simp [readPhase, CompileError.kind])

/-- What is no table is blamed on itself. -/
theorem readNode_blamed_of_ne_map {v : Value} (h : ∀ raw, v ≠ .map raw) : ReadBlamed key v := by
  intro root e he
  rw [readNode] at he
  · cases he
    exact .inl (by simp [readPhase, CompileError.kind])
  · exact h

/-- **Every raw node is blamed for what is wrong with itself, and for what it leads to.** -/
theorem readBlamed (key : String) (v : Value) : ReadBlamed key v := by
  -- The properties of a table stand two levels below it, so the induction carries the entries
  -- along.
  have hboth : ReadBlamed key v ∧ ∀ entries, v = .map entries → ∀ entry ∈ entries,
      ReadBlamed key entry.2 := by
    induction v using Value.induction with
    | map raw ih =>
      refine ⟨readNode_map_blamed ?_ ?_, ?_⟩
      · intro items hget
        exact (ih _ (Entries.mem_of_get?_str hget)).1
      · intro properties hget
        exact (ih _ (Entries.mem_of_get?_str hget)).2 properties rfl
      · rintro entries ⟨⟩ entry hentry
        exact (ih entry hentry).1
    | scalar s => exact ⟨readNode_blamed_of_ne_map (by simp), by simp⟩
    | list items _ => exact ⟨readNode_blamed_of_ne_map (by simp), by simp⟩
    | set members => exact ⟨readNode_blamed_of_ne_map (by simp), by simp⟩
    | pair first second _ _ => exact ⟨readNode_blamed_of_ne_map (by simp), by simp⟩
  exact hboth.1

end Reader

/-! ## 4. Both phases -/

/-- **A failure is the path to the first offence, and is reported as one.** An object is compiled
with a failure if and only if that is the path from the object to the first offence below it,
through copies of other definitions; the offence is the root cause, and its message is the one that
is quoted. If reading a definition fails with the failure of a property, that is the path from the
raw properties to the first offence below them. In both phases every link of the chain has the same
root cause, tells its own key and node, quotes the words of the root cause, and as data nests the
reports of the links after it. -/
theorem failure_is_path_to_offence :
    (∀ (overrides : OverrideRules) (definitions : Definitions) (start : BuildStart) (facts : Facts)
        (properties : List (String × Node)) (required : List String) (e : CompileError),
      (buildNode overrides definitions start (.object facts properties required) = .error e ↔
        (buildPhase overrides definitions start.limit).Path
          ⟨start.owner, (start.limit - start.depth).toNat, properties, required⟩ e) ∧
      (buildNode overrides definitions start (.object facts properties required) = .error e →
        e.root = .compile e.innermost ∧ e.root.text = e.innermost.message ∧ e.WellReported)) ∧
    ∀ (key : String) (root : Bool) (v : Value) (e : CompileError),
      readNode key root v = .error (.compile e) →
      (e.kind = .propertyProcessing →
        ∃ properties, v.Holds root properties ∧ (readPhase key).Path properties e) ∧
      e.WellReported := by
  constructor
  · intro overrides definitions start facts properties required e
    have hpath :=
      buildNode_object_eq_error_iff overrides definitions start facts properties required e
    refine ⟨hpath, fun h => ?_⟩
    -- A path ends in an offence, and an offence of a build has no cause of its own.
    obtain ⟨hroot, htext⟩ := CompileError.root_of_cause?_innermost (hpath.mp h).offence_innermost
    exact ⟨hroot, htext, e.wellReported⟩
  · intro key root v e h
    refine ⟨fun hkind => ?_, e.wellReported⟩
    rcases readBlamed key v root e h with hoffence | hpath
    · exact absurd hkind hoffence
    · exact hpath

namespace Sample

/-- What an order ends in if its customer's name has a type that does not exist. -/
def misspelling : CompileError :=
  .property (.str "customer") (.map [])
    (.property (.str "name") (.map []) (.unknownType (.str "text") (.map [])))

/-- A definition with a number where a property should be. -/
def numbered : Value := .object [("type", .str "object"),
    ("properties", .object [("_id", .int 1), ("note", .int 7)])]

end Sample

/-- The order's path goes through its customer to the name; the reserved property is passed over. -/
theorem failure_is_path_to_offence_misspelled :
    buildNode Sample.settings Sample.misspelled ⟨.str "Order", 0, 5⟩ Sample.order =
        .error Sample.misspelling ∧
      (buildPhase Sample.settings Sample.misspelled 5).Path
        ⟨.str "Order", 5, [("customer", Sample.link "#/definitions/Customer")], ["customer"]⟩
        Sample.misspelling ∧
      CompileError.Nests Sample.misspelling.toValue
        ["PROPERTY_PROCESSING", "PROPERTY_PROCESSING", "UNRECOGNIZED_TYPE"] ∧
      readNode defaultExtensionKey true Sample.numbered =
        .error (.compile (.property (.str "note") (.int 7) (.nodeNotTable (.int 7)))) ∧
      ∃ properties, Sample.numbered.Holds true properties ∧
        (readPhase defaultExtensionKey).Path properties
          (.property (.str "note") (.int 7) (.nodeNotTable (.int 7))) := by
  have hbuild : buildNode Sample.settings Sample.misspelled ⟨.str "Order", 0, 5⟩ Sample.order =
      .error Sample.misspelling := by decide
  have hread : readNode defaultExtensionKey true Sample.numbered =
      .error (.compile (.property (.str "note") (.int 7) (.nodeNotTable (.int 7)))) := rfl
  obtain ⟨hpath, hreported⟩ := failure_is_path_to_offence.1 Sample.settings Sample.misspelled
    ⟨.str "Order", 0, 5⟩
    Node.empty.facts [("customer", Sample.link "#/definitions/Customer")] ["customer"]
      Sample.misspelling
  obtain ⟨-, -, hreports⟩ := hreported hbuild
  exact ⟨hbuild, hpath.mp hbuild, hreports.reports, hread,
    (failure_is_path_to_offence.2 _ _ _ _ hread).1 rfl⟩

end ApiStore
