import ApiStore.Proofs.Build.Source
import ApiStore.Proofs.Parsing
/-
`Distinct.lean` -- no key occurs twice.

A table is a list of entries, and nothing in the type says that their keys are different. In a
document they are: a text that is read as JSON gives such tables only, and so does data whose
tables were tables before. `Value.distinct` says it of a value at every depth.

What is read from such a document is the same in this respect: the properties of an object
have different names, in every object at every depth. The reader takes the properties from
one table, in order, and leaves some out. Only where it spells out keys that are bytes can
two of them become one, and then the later property replaces the earlier one.
-/
set_option autoImplicit false

namespace ApiStore

/-! ## 1. Tables -/

namespace Entries

variable {α : Type}

/-- Entries are distinct if no key stands for another one. -/
theorem distinct_iff_keys {entries : Entries α} :
    entries.Distinct ↔ entries.keys.Pairwise fun k l => k.sameKey l = false := by
  rw [Distinct, keys, List.pairwise_map]

/-- Setting a key makes no key but that one. -/
theorem mem_keys_of_mem_insert {entries : Entries α} {key : Scalar} {v : α} {e : Scalar × α}
    (h : e ∈ entries.insert key v) : e.1 ∈ entries.keys ∨ e.1 = key := by
  induction entries with
  | nil => exact .inr (List.mem_singleton.mp h ▸ rfl)
  | cons entry rest ih =>
    obtain ⟨k, w⟩ := entry
    rw [insert] at h
    split at h
    · rcases List.mem_cons.mp h with rfl | hrest
      · exact .inl List.mem_cons_self
      · exact .inl (List.mem_cons_of_mem _ (List.mem_map_of_mem hrest))
    · rcases List.mem_cons.mp h with rfl | hrest
      · exact .inl List.mem_cons_self
      · exact (ih hrest).imp_left (List.mem_cons_of_mem _)

/-- It makes no key occur twice: the key is set in its place, or at the end if it was nowhere. -/
theorem Distinct.insert {entries : Entries α} (h : entries.Distinct) (key : Scalar) (v : α) :
    (entries.insert key v).Distinct := by
  induction entries with
  | nil => exact List.pairwise_singleton _ _
  | cons entry rest ih =>
    obtain ⟨k, w⟩ := entry
    obtain ⟨hfirst, hrest⟩ := List.pairwise_cons.mp h
    rw [Entries.insert]
    by_cases hk : k.sameKey key = true
    · rw [if_pos hk]
      exact List.pairwise_cons.mpr ⟨hfirst, hrest⟩
    · rw [if_neg hk]
      refine List.pairwise_cons.mpr ⟨fun e he => ?_, ih hrest⟩
      rcases mem_keys_of_mem_insert he with hold | hnew
      · obtain ⟨old, hmem, heq⟩ := List.mem_map.mp hold
        rw [← heq]
        exact hfirst old hmem
      · rw [hnew]
        exact Bool.eq_false_iff.mpr hk

/-- What is put together one entry after another has no key twice, and no entry but those. -/
theorem overlay_distinct {base : Entries α} (h : base.Distinct) (upper : Entries α) {P : α → Prop}
    (hbase : ∀ e ∈ base, P e.2) (hupper : ∀ e ∈ upper, P e.2) :
    (base.overlay upper).Distinct ∧ ∀ e ∈ base.overlay upper, P e.2 := by
  induction upper generalizing base with
  | nil => exact ⟨h, hbase⟩
  | cons entry rest ih =>
    obtain ⟨hentry, hrest⟩ := List.forall_mem_cons.mp hupper
    refine ih (h.insert entry.1 entry.2) (fun e he => ?_) hrest
    rcases mem_insert he with hold | hnew
    · exact hbase e hold
    · rw [hnew]
      exact hentry

/-- Where keys are spelled out, none occurs twice. -/
theorem Distinct.spelled {entries : Entries α} (h : entries.Distinct) {P : α → Prop}
    (hP : ∀ e ∈ entries, P e.2) :
    (Misfit.spelled entries).Distinct ∧ ∀ e ∈ Misfit.spelled entries, P e.2 := by
  unfold Misfit.spelled
  split
  · refine overlay_distinct .nil _ nofun fun e he => ?_
    obtain ⟨old, hold, rfl⟩ := List.mem_map.mp he
    exact hP old hold
  · exact ⟨h, hP⟩

end Entries

namespace Value

mutual

/-- Whether no table in a value has a key twice. -/
def distinct : Value → Bool
  | .list items => itemsDistinct items
  | .map entries => entriesDistinct entries
  | .scalar _ | .set _ | .pair _ _ => true

/-- Whether no table in any of the items has a key twice. -/
def itemsDistinct : List Value → Bool
  | [] => true
  | v :: rest => distinct v && itemsDistinct rest

/-- Whether no key occurs twice, nor any in the tables below. -/
def entriesDistinct : List (Scalar × Value) → Bool
  | [] => true
  | (k, v) :: rest => rest.all (fun (l, _) => !k.sameKey l) && distinct v && entriesDistinct rest

end

/-- A table is distinct in depth if its entries are and each value is. -/
theorem distinct_map_iff {entries : Entries Value} :
    (Value.map entries).distinct = true ↔ entries.Distinct ∧
      ∀ e ∈ entries, e.2.distinct = true := by
  rw [distinct]
  induction entries with
  | nil => simp [entriesDistinct, Entries.Distinct]
  | cons entry rest ih =>
    obtain ⟨k, v⟩ := entry
    rw [entriesDistinct, Entries.Distinct, List.pairwise_cons, ← Entries.Distinct,
      List.forall_mem_cons]
    simp only [Bool.and_eq_true, List.all_eq_true, Bool.not_eq_true', ih]
    constructor
    · rintro ⟨⟨hk, hv⟩, hrest, hvalues⟩
      exact ⟨⟨hk, hrest⟩, hv, hvalues⟩
    · rintro ⟨⟨hk, hrest⟩, hv, hvalues⟩
      exact ⟨⟨hk, hv⟩, hrest, hvalues⟩

/-- No table of JSON has a key twice. -/
theorem distinct_of_isJson {v : Value} (h : v.isJson = true) : v.distinct = true := by
  induction v using Value.induction with
  | list items ih =>
    rw [isJson, areJson_iff] at h
    rw [distinct]
    induction items with
    | nil => rfl
    | cons first rest ihrest =>
      obtain ⟨hfirst, hrest⟩ := List.forall_mem_cons.mp ih
      obtain ⟨hv, hvs⟩ := List.forall_mem_cons.mp h
      rw [itemsDistinct, hfirst hv, ihrest hrest hvs]
      rfl
  | map entries ih =>
    obtain ⟨htexts, hnodup, hvalues⟩ := isJson_map_iff.mp h
    refine distinct_map_iff.mpr ⟨?_, fun e he => ih e he (hvalues e he)⟩
    rw [Entries.distinct_iff_keys]
    refine List.Pairwise.imp_of_mem ?_ hnodup
    intro k l hk _ hne
    obtain ⟨e, he, rfl⟩ := List.mem_map.mp hk
    obtain ⟨s, hs⟩ := htexts e he
    rw [hs] at hne ⊢
    rw [← Bool.not_eq_true, Scalar.sameKey_str_left]
    exact Ne.symm hne
  | _ => rfl

end Value

/-! ## 2. Nodes -/

/-- The properties of a node have different names. -/
def Node.HasDistinctNames (node : Node) : Prop := (node.properties.map (·.1)).Nodup

instance : DecidablePred Node.HasDistinctNames :=
  fun _ => inferInstanceAs (Decidable (List.Nodup _))

section Reading

open Node

/-- What is read as the properties of an object: keys that occur once, and nodes in which the same
is true. -/
structure PropertiesDistinct (properties : Entries Node) : Prop where
  keys : properties.Distinct
  nodes : ∀ property ∈ properties, property.2.All HasDistinctNames

/-- Properties by name have different names. -/
theorem PropertiesDistinct.object {properties : Entries Node} (h : PropertiesDistinct properties)
    (facts : Facts) (required : List String) :
    (Node.object facts (named properties) required).All HasDistinctNames := by
  obtain ⟨hkeys, hnodes⟩ := h.keys.spelled h.nodes
  have hnamed : ∀ property ∈ named properties, property.2.All HasDistinctNames := by
    intro property hproperty
    obtain ⟨⟨k, node⟩, hmem, hname⟩ := List.mem_filterMap.mp hproperty
    cases k with
    | str name =>
      obtain rfl := Option.some.inj hname
      exact hnodes _ hmem
    | _ => cases hname
  have hnodup : ((named properties).map (·.1)).Nodup := by
    rw [List.Nodup, List.pairwise_map, named]
    refine List.Pairwise.filterMap _ ?_ hkeys
    rintro ⟨k, n⟩ ⟨l, m⟩ hne p hp q hq heq
    cases k with
    | str s =>
      cases l with
      | str t =>
        obtain rfl := Option.some.inj hp
        obtain rfl := Option.some.inj hq
        rw [show s = t from heq, Scalar.sameKey_self] at hne
        cases hne
      | _ => cases hq
    | _ => cases hp
  exact .object hnodup hnamed

variable {key : String}

/-- A node that is read has parts only if it is an array or an object. -/
theorem readNode_cases {root : Bool} {raw : Entries Value} {node : Node}
    (h : readNode key root (.map raw) = .ok node) :
    (∃ facts items, node = .array facts items ∧ readItems key raw = .ok items) ∨
      (∃ facts properties required, node = .object facts (named properties) required ∧
        readProperties key raw = .ok properties) ∨
      node.parts = [node] ∧ node.properties = [] := by
  obtain ⟨e, -, hread⟩ := readAs_of_readNode h
  cases hread with
  | array _ _ hitems => exact .inl ⟨_, _, rfl, hitems⟩
  | object _ _ hproperties _ => exact .inr (.inl ⟨_, _, _, rfl, hproperties⟩)
  | reference _ => exact .inr (.inr ⟨rfl, rfl⟩)
  | primitive _ _ _ _ _ => exact .inr (.inr ⟨rfl, rfl⟩)
  | any _ _ _ => exact .inr (.inr ⟨rfl, rfl⟩)

mutual

/-- In a node that is read from a document no name occurs twice. -/
theorem readNode_distinct (root : Bool) : (v : Value) → v.distinct = true → (node : Node) →
    readNode key root v = .ok node → node.All HasDistinctNames
  | .map raw, hv, node, h => by
    have hvalues := (Value.distinct_map_iff.mp hv).2
    rcases readNode_cases h with ⟨facts, items, rfl, hitems⟩ |
      ⟨facts, properties, required, rfl, hproperties⟩ | ⟨hparts, hnone⟩
    · intro part hpart
      rcases List.mem_cons.mp hpart with rfl | hinner
      · exact List.nodup_nil
      · exact readItems_distinct raw hvalues items hitems part hinner
    · exact (readProperties_distinct raw hvalues properties hproperties).object facts required
    · intro part hpart
      rw [hparts, List.mem_singleton] at hpart
      rw [hpart, HasDistinctNames, hnone]
      exact List.nodup_nil
  | .scalar _, _, _, h | .list _, _, _, h | .set _, _, _, h | .pair _ _, _, _, h => by
    rw [readNode] at h
    · cases h
    · exact nofun

/-- Items that are read from distinct entries have distinct names. -/
theorem readItems_distinct : (entries : List (Scalar × Value)) →
    (∀ e ∈ entries, e.2.distinct = true) → (items : Node) →
    readItems key entries = .ok items → items.All HasDistinctNames
  | [], _, items, h => by
    obtain rfl := Except.ok.inj h
    decide
  | (k, v) :: rest, hv, items, h => by
    obtain ⟨hfirst, hrest⟩ := List.forall_mem_cons.mp hv
    rw [readItems] at h
    split at h
    · exact readNode_distinct false v hfirst items h
    · exact readItems_distinct rest hrest items h

/-- So have properties. -/
theorem readProperties_distinct : (entries : List (Scalar × Value)) →
    (∀ e ∈ entries, e.2.distinct = true) →
    (properties : Entries Node) → readProperties key entries = .ok properties →
      PropertiesDistinct properties
  | [], _, properties, h => by
    obtain rfl := Except.ok.inj h
    exact ⟨.nil, nofun⟩
  | (k, v) :: rest, hv, properties, h => by
    obtain ⟨hfirst, hrest⟩ := List.forall_mem_cons.mp hv
    unfold readProperties at h
    split at h
    · cases v with
      | map list =>
        obtain ⟨hkeys, hvalues⟩ := Value.distinct_map_iff.mp hfirst
        obtain ⟨hsublist, hnodes⟩ := readEach_distinct list hvalues properties h
        rw [Entries.distinct_iff_keys] at hkeys
        exact ⟨Entries.distinct_iff_keys.mpr (hkeys.sublist hsublist), hnodes⟩
      | _ =>
        dsimp only at h
        split at h
        · cases h
        · obtain rfl := Except.ok.inj h
          exact ⟨.nil, nofun⟩
    · exact readProperties_distinct rest hrest properties h

/-- Properties are read in order, and some are left out. -/
theorem readEach_distinct : (list : List (Scalar × Value)) → (∀ e ∈ list, e.2.distinct = true) →
    (properties : Entries Node) → readEach key list = .ok properties →
    properties.keys.Sublist (Entries.keys list) ∧ ∀ property ∈ properties,
      property.2.All HasDistinctNames
  | [], _, properties, h => by
    obtain rfl := Except.ok.inj h
    exact ⟨.slnil, nofun⟩
  | (k, v) :: rest, hv, properties, h => by
    obtain ⟨hfirst, hrest⟩ := List.forall_mem_cons.mp hv
    rw [readEach] at h
    split at h
    · obtain ⟨hsublist, hnodes⟩ := readEach_distinct rest hrest properties h
      exact ⟨hsublist.cons k, hnodes⟩
    · obtain ⟨node, hnode, h⟩ := Outcome.bind_eq_ok_iff.mp h
      obtain ⟨others, hothers, h⟩ := Outcome.bind_eq_ok_iff.mp h
      obtain rfl := Except.ok.inj h
      obtain ⟨hsublist, hnodes⟩ := readEach_distinct rest hrest others hothers
      rw [Outcome.mapError_eq_ok_iff] at hnode
      exact ⟨hsublist.cons_cons k, List.forall_mem_cons.mpr
        ⟨readNode_distinct false v hfirst node hnode, hnodes⟩⟩

end

end Reading

/-! ## 3. Documents -/

namespace Document

/-- An entry of a table that is distinct in depth is so as well. -/
theorem entry_distinct {raw : Entries Value} (h : (Value.map raw).distinct = true) (key : String) :
    (entry raw key).distinct = true := by
  rw [entry]
  cases hget : Entries.get? raw (.str key) with
  | none => rfl
  | some v => exact (Value.distinct_map_iff.mp h).2 _ (Entries.mem_of_get?_str hget)

/-- A document is loaded as distinct as it was given. -/
theorem load_distinct {spec : Value} (hspec : spec.distinct = true) {document : Entries Value}
    (h : load spec = .ok document) : (Value.map document).distinct = true := by
  cases spec with
  | map entries =>
    obtain rfl := Except.ok.inj h
    exact hspec
  | _ => exact Value.distinct_of_isJson (load_isJson h nofun)

/-- Definitions that are read from distinct entries have distinct names. -/
theorem readDefinitions_distinct {key : String} {raw : Entries Value}
    (h : ∀ e ∈ raw, e.2.distinct = true) {definitions : Definitions}
    (hread : readDefinitions key raw = .ok definitions) :
    ∀ d ∈ definitions, d.2.All Node.HasDistinctNames := by
  induction raw generalizing definitions with
  | nil =>
    obtain rfl := Except.ok.inj hread
    exact nofun
  | cons first rest ih =>
    obtain ⟨name, v⟩ := first
    obtain ⟨hfirst, hrest⟩ := List.forall_mem_cons.mp h
    obtain ⟨node, hnode, hread⟩ := Outcome.bind_eq_ok_iff.mp hread
    obtain ⟨others, hothers, hread⟩ := Outcome.bind_eq_ok_iff.mp hread
    obtain rfl := Except.ok.inj hread
    exact List.forall_mem_cons.mpr ⟨readNode_distinct true v hfirst node hnode, ih hrest hothers⟩

/-- In the definitions of a document no name of a property occurs twice. -/
theorem extract_distinct {spec : Value} (hspec : spec.distinct = true) {key : String}
    {definitions : Definitions} (h : extract spec key = .ok definitions) :
    ∀ d ∈ definitions, d.2.All Node.HasDistinctNames := by
  obtain ⟨document, hload, h⟩ := Outcome.bind_eq_ok_iff.mp h
  obtain ⟨raw, hraw, h⟩ := Outcome.bind_eq_ok_iff.mp h
  rw [Outcome.mapError_eq_ok_iff] at hraw
  have hdocument := load_distinct hspec hload
  have hentry : (definitionsEntry document).distinct = true := by
    unfold definitionsEntry
    split
    · split
      · rename_i components hcomponents
        exact entry_distinct (hcomponents ▸ entry_distinct hdocument "components") "schemas"
      · rfl
    · exact entry_distinct hdocument "definitions"
  have htable : (Value.map raw).distinct = true := by
    unfold rawDefinitions at hraw
    split at hraw
    · cases hraw
    · rename_i entries hentries
      obtain rfl := Except.ok.inj hraw
      exact hentries ▸ hentry
    · cases hraw
  exact readDefinitions_distinct (Value.distinct_map_iff.mp htable).2 h

end Document

end ApiStore
