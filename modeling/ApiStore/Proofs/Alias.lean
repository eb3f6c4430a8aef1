import ApiStore.Proofs.Build.Settling
import ApiStore.Proofs.Rewriting
import ApiStore.Proofs.TypeNames
/-
`Alias.lean` -- a name and its alias.

A configuration may give the types of the storage engine further names. Where an override
has such a name for a type, it says the same as with the name that the type has of itself.

**Settling.** The names are looked up when the compiler comes to an override, far away from
the document. So the two documents are compared with all overrides settled, where nothing
is left of any name: the payload of an override is the same under both of them
(`OverrideRules.settle_alias`), and definitions that settle to the same make the same
schemas.

**Two exceptions.** An override of the type `ObjectId` without a target takes its target from
the pointer next to it. Whether it does depends on the name, so nothing is said about such
an override here. And a configuration may let overrides stand under `items`, `properties` or
`default`. The name of a type in there is part of the document besides, as the type of the
items, say, where no alias is known (`compile_aliases_differ`).
-/
set_option autoImplicit false

namespace ApiStore

open Outcome (Related)

/-! ## 1. The table of names -/

/-- A configuration in which a name is an alias of a type. The aliases are a table, and none of them
is the name of a type. -/
structure Config.Aliases (config : Config) (name : String) (t : StorageType) : Prop where
  bound : (name, t.name) ∈ config.typeAliases
  distinct : (config.typeAliases.map (·.1)).Nodup
  free : ∀ entry ∈ config.typeAliases, StorageType.ofName? entry.1 = none

/-- A table in which a name is an alias of a type: both names mean the type, and the alias marks no
reference. -/
structure TypeTable.Aliases (table : TypeTable) (name : String) (t : StorageType) : Prop where
  own : table.get? t.name = some t
  other : table.get? name = some t
  unmarked : name ≠ referenceMark

namespace TypeTable

/-- Aliases that are no names of types leave the types their names, and each of them that stands for
a type means it. -/
theorem get?_of_addAliases {aliases : List (String × String)}
    (hfree : ∀ entry ∈ aliases, StorageType.ofName? entry.1 = none)
    (hdistinct : (aliases.map (·.1)).Nodup) {start table : TypeTable}
    (hstart : ∀ t : StorageType, start.get? t.name = some t)
    (h : start.addAliases (aliases.map fun (name, target) => (name, Value.str target)) =
      .ok table) :
    (∀ t : StorageType, table.get? t.name = some t) ∧
    (∀ name ∉ aliases.map (·.1), table.get? name = start.get? name) ∧
      ∀ (name : String) (t : StorageType), (name, t.name) ∈ aliases → table.get? name = some t := by
  induction aliases generalizing start with
  | nil =>
    cases h
    exact ⟨hstart, fun _ _ => rfl, nofun⟩
  | cons first rest ih =>
    obtain ⟨name, target⟩ := first
    obtain ⟨hname, hothers⟩ := List.forall_mem_cons.mp hfree
    obtain ⟨hfresh, hnodup⟩ := List.nodup_cons.mp hdistinct
    obtain ⟨known, type, hknown, htype, h⟩ := addAliases_cons_iff.mp h
    obtain rfl : target = known := by simpa using hknown
    have hkept : ∀ t : StorageType, (start.register name type).get? t.name = some t := by
      intro t
      have hne : name ≠ t.name := by
        rintro rfl
        rw [StorageType.ofName?_name] at hname
        cases hname
      rw [get?_register, if_neg hne, hstart]
    obtain ⟨hnames, hrest, haliases⟩ := ih hothers hnodup hkept h
    refine ⟨hnames, ?_, ?_⟩
    · intro other hother
      rw [List.map_cons, List.mem_cons, not_or] at hother
      rw [hrest other hother.2, get?_register, if_neg (Ne.symm hother.1)]
    · intro other t hmem
      rcases List.mem_cons.mp hmem with heq | hlater
      · obtain ⟨rfl, rfl⟩ := Prod.mk.inj heq
        rw [hrest other hfresh, get?_register, if_pos rfl, ← htype, hstart]
      · exact haliases other t hlater

end TypeTable

/-- An alias of a configuration is one in the table that is made from it. -/
theorem Config.Aliases.types {config : Config} {name : String} {t : StorageType}
    (h : config.Aliases name t) {c : Compiler} (hc : Compiler.ofConfig config = .ok c) :
    c.types.Aliases name t := by
  obtain ⟨types, htypes, rfl⟩ := Outcome.map_eq_ok_iff.mp hc
  have hinitial : ∀ t : StorageType, TypeTable.initial.get? t.name = some t := by
    intro t
    cases t <;> decide
  obtain ⟨hnames, -, haliases⟩ := TypeTable.get?_of_addAliases h.free h.distinct hinitial htypes
  refine ⟨hnames t, haliases name t h.bound, ?_⟩
  rintro rfl
  have hfree := h.free _ h.bound
  rw [show referenceMark = StorageType.objectId.name from rfl, StorageType.ofName?_name] at hfree
  cases hfree

/-! ## 2. Overrides -/

/-- The name of a type, changed for another name; all other values stay. -/
def renamed (t : StorageType) (name : String) (v : Value) : Value :=
  if v = t.toValue then .str name else v

/-- Whether two overrides are the same, or have a type under its name and under another one. -/
inductive Renamed (t : StorageType) (name : String) (e : Extension) : Extension → Prop
  | same : Renamed t name e e
  | changed (htype : e.type = some t.name) : Renamed t name e { e with type := some name }

section Overrides

variable {rules : OverrideRules} {name : String} {t : StorageType}

/-- **An alias is as good as the name** in an override that does not take its target from a
pointer. -/
theorem OverrideRules.settle_alias (h : rules.types.Aliases name t) {d e : Extension}
    (hde : Renamed t name d e) {pointer : Option String}
    (htarget : t = .objectId → pointer.isSome = true → d.ref.isSome = true) :
    rules.settle pointer d = rules.settle pointer e := by
  cases hde with
  | same => rfl
  | changed htype =>
    have hsame : ∃ payload, rules.payload .null d pointer = .ok payload ∧
        rules.payload .null { d with type := some name } pointer = .ok payload := by
      unfold OverrideRules.payload
      rw [htype]
      dsimp only
      rw [if_neg h.unmarked, h.other]
      by_cases hobject : t = .objectId
      · subst hobject
        rw [if_pos (show StorageType.objectId.name = referenceMark from rfl)]
        refine ⟨_, ?_, rfl⟩
        cases href : d.ref with
        | some ref => rfl
        | none =>
          cases pointer with
          | none => rfl
          | some p => simp [href] at htarget
      · have hplain : t.name ≠ referenceMark := by
          cases t <;> first | exact absurd rfl hobject | decide
        rw [if_neg hplain, h.own]
        exact ⟨_, rfl, rfl⟩
    obtain ⟨payload, hpayload, hother⟩ := hsame
    rw [settle, settle, hpayload, hother]

theorem optionsOf_modify_type (payload : Entries Value) (f : Value → Value) :
    optionsOf (payload.modify (.str "type") f) = optionsOf payload := by
  induction payload with
  | nil => rfl
  | cons entry rest ih =>
    obtain ⟨k, v⟩ := entry
    rw [Entries.modify, List.map_cons, ← Entries.modify, optionsOf, optionsOf, List.filter_cons,
      List.filter_cons, ← optionsOf, ← optionsOf, ih]
    by_cases hk : k = .str "type"
    · simp [hk]
    · simp [hk]

theorem optionalText_renamed (t : StorageType) (name : String) (payload : Entries Value) :
    Related Eq (fun x y => y = x ∨ x = some t.name ∧ y = some name) (optionalText payload "type")
      (optionalText (payload.modify (.str "type") (renamed t name)) "type") := by
  unfold optionalText
  rw [Entries.get?_modify_str, if_pos rfl]
  cases Entries.get? payload (.str "type") with
  | none => exact .ok (.inl rfl)
  | some v =>
    by_cases hv : v = t.toValue
    · subst hv
      rw [Option.map_some, renamed, if_pos rfl]
      exact .ok (.inr ⟨rfl, rfl⟩)
    · rw [Option.map_some, renamed, if_neg hv]
      exact .refl (fun _ => rfl) (fun _ => .inl rfl) _

/-- A payload is read alike with the name changed. A target that it has is read as one. -/
theorem Extension.ofPayload_renamed (t : StorageType) (name : String) (payload : Entries Value) :
    Related Eq (fun d e => Renamed t name d e ∧ (entry payload "ref" ≠ .null → d.ref.isSome = true))
      (ofPayload payload) (ofPayload (payload.modify (.str "type") (renamed t name))) := by
  have href : optionalText (payload.modify (.str "type") (renamed t name)) "ref" =
      optionalText payload "ref" := by
    rw [optionalText, optionalText, Entries.get?_modify_str, if_neg (by decide)]
  have htarget : ∀ ref, optionalText payload "ref" = .ok ref → entry payload "ref" ≠ .null →
      ref.isSome = true := by
    intro ref hread hne
    rw [entry] at hne
    unfold optionalText at hread
    cases hget : Entries.get? payload (.str "ref") with
    | none => simp [hget] at hne
    | some v =>
      rw [hget] at hread hne
      split at hread
      · simp_all
      · simp_all
      · split at hread
        · exact Except.ok.inj hread ▸ rfl
        · cases hread
  -- Only the type is renamed, so the two readings can differ in it alone.
  have htype := optionalText_renamed t name payload
  unfold ofPayload
  rw [optionsOf_modify_type, href]
  generalize optionalText payload "type" = x at htype ⊢
  generalize optionalText (payload.modify (.str "type") (renamed t name)) "type" = y at htype ⊢
  dsimp only
  cases htype with
  | error heq =>
    subst heq
    split
    · cases ‹Except.error _ = Except.ok _›
    · exact .error rfl
  | ok hxy =>
    rcases hxy with rfl | ⟨rfl, rfl⟩
    · split
      · rename_i hread _
        cases ‹Except.ok _ = Except.ok _›
        exact .ok ⟨.same, htarget _ ‹_›⟩
      · exact .error rfl
    · cases hread : optionalText payload "ref" with
      | ok ref =>
        cases Misfit.ofKeys ["options"] (optionsOf payload) with
        | nil => exact .ok ⟨.changed rfl, htarget _ hread⟩
        | cons _ _ => exact .error rfl
      | error _ => exact .error rfl

end Overrides

/-! ## 3. Nodes -/

/-- Whether a node of these entries may stand beside a pointer, its own or that of its items. -/
def besidePointer (raw : Entries Value) : Bool :=
  Entries.contains raw (.str "$ref") ||
    match entry raw "type", entry raw "items" with
    | .str "array", .map items => Entries.contains items (.str "$ref")
    | _, _ => false

/-- Whether the override of a node takes its target from a pointer, should it be a reference by
identity: it stands beside one and has no target. -/
def takesTarget (key : String) (raw : Entries Value) : Bool :=
  besidePointer raw &&
    match Entries.get? raw (.str key) with
    | some (.map payload) => entry payload "ref" = .null
    | _ => false

/-- Changes the name of a type in the overrides of the chosen nodes, which are no definitions. A
node is chosen by its place and its entries. -/
def aliasing (key name : String) (t : StorageType) (chosen : List Scalar → Entries Value → Bool) :
    Rewriting where
  own place raw :=
    if 1 < place.length && chosen place raw then
      raw.modify (.str key) (Value.onTable fun payload => payload.modify (.str "type")
        (renamed t name))
    else raw
  keeps _ := true
  spares _ := false

/-- An override becomes one that is worth the same where it stands. -/
def SettledAlike (rules : OverrideRules) : OverrideChange := fun _ n e =>
  n.extension.map (rules.settle n.pointer?) = e.map (rules.settle n.pointer?)

section Nodes

variable {key name : String} {t : StorageType} {chosen : List Scalar → Entries Value → Bool}
  {raw : Entries Value}

/-- Nothing but the override changes. -/
theorem aliasing_cases (key name : String) (t : StorageType)
    (chosen : List Scalar → Entries Value → Bool) (place : List Scalar) (raw : Entries Value) :
    (aliasing key name t chosen).own place raw = raw ∨
      (1 < place.length ∧ chosen place raw = true ∧ (aliasing key name t chosen).own place raw =
        raw.modify (.str key) (Value.onTable fun payload => payload.modify (.str "type")
          (renamed t name))) := by
  by_cases h : (1 < place.length && chosen place raw) = true
  · obtain ⟨hplace, hchosen⟩ := Bool.and_eq_true_iff.mp h
    exact .inr ⟨of_decide_eq_true hplace, hchosen, if_pos h⟩
  · exact .inl (if_neg h)

/-- A node that has no override under its pointer or its parts keeps what it has there. -/
theorem get?_aliasing {s : String} (hs : key ≠ s) (place : List Scalar) :
    Entries.get? ((aliasing key name t chosen).own place raw) (.str s) = Entries.get? raw
      (.str s) := by
  rcases aliasing_cases key name t chosen place raw with hsame | ⟨-, -, hchanged⟩
  · rw [hsame]
  · rw [hchanged, Entries.get?_modify_str, if_neg hs]

theorem contains_aliasing (s : String) (place : List Scalar) :
    Entries.contains ((aliasing key name t chosen).own place raw) (.str s) = Entries.contains raw
      (.str s) := by
  rcases aliasing_cases key name t chosen place raw with hsame | ⟨-, -, hchanged⟩
  · rw [hsame]
  · rw [hchanged, Entries.contains, Entries.get?_modify_str]
    split
    · exact Option.isSome_map
    · rfl

/-- A node has a pointer, or its items have one, only where the entries have one. -/
theorem besidePointer_of_readNode {root : Bool} {n : Node}
    (h : readNode key root (.map raw) = .ok n) (hpointer : n.pointer?.isSome = true) :
    besidePointer raw = true := by
  have hread := readFrom_of_readNode_map h
  cases n with
  | reference facts p =>
    rw [besidePointer, hread.pointer rfl]
    rfl
  | array facts items =>
    obtain ⟨htype, hitems⟩ := hread.items facts items rfl
    rw [readItems_eq] at hitems
    split at hitems
    · rename_i v hget
      obtain ⟨entries, rfl, hitem⟩ := readFrom_of_readNode hitems
      rw [besidePointer, htype, entry, hget]
      simp [hitem.pointer hpointer]
    · cases hitems
      cases hpointer
  | primitive _ _ _ => cases hpointer
  | object _ _ _ => cases hpointer
  | any _ => cases hpointer

/-- A node beside a pointer is beside one when its parts have been rewritten. -/
theorem besidePointer_parts {root : Bool} {place : List Scalar} (h : besidePointer raw = true) :
      besidePointer ((aliasing key name t chosen).parts root place raw) = true := by
  unfold besidePointer at h ⊢
  rw [Rewriting.contains_parts]
  rw [Bool.or_eq_true] at h ⊢
  by_cases href : Entries.contains raw (.str "$ref") = true
  · exact .inl href
  · refine .inr ?_
    have hitems := h.resolve_left href
    have htype : entry ((aliasing key name t chosen).parts root place raw) "type" =
        entry raw "type" := by
      rw [entry, entry, Rewriting.get?_parts_str (.inr (by decide))]
    split at hitems
    · rename_i items harray hentry
      have hnone : Entries.get? raw (.str "$ref") = none := by simpa [Entries.contains] using href
      have hget : Entries.get? raw (.str "items") = some (.map items) := by
        rw [entry] at hentry
        cases hget : Entries.get? raw (.str "items") with
        | none => simp [hget] at hentry
        | some v => exact congrArg some (by simpa [hget] using hentry)
      rw [htype, harray, entry, Rewriting.get?_parts_items hnone harray, hget, Option.map_some]
      change
        (match Value.str "array", Rewriting.node _ false (place ++ [.str "items"]) (.map items) with
        | .str "array", .map items => Entries.contains items (.str "$ref")
        | _, _ => false) = true
      rw [Rewriting.node_map]
      exact (contains_aliasing "$ref" _).trans ((Rewriting.contains_parts "$ref").trans hitems)
    · cases hitems

/-- An override is read from a node as one that is worth the same. -/
theorem readExtension_aliasing {rules : OverrideRules} (h : rules.types.Aliases name t)
    (hchosen : ∀ place raw, chosen place raw = true → t = .objectId → takesTarget key raw = false)
    (hkey : key ∉ ["items", "properties"]) (root : Bool) (place : List Scalar)
    (raw : Entries Value) :
    Related CompileError.Alike (fun d e => ∀ p : Option String,
      (p.isSome = true → besidePointer raw = true) →
        d.map (rules.settle p) = e.map (rules.settle p))
      (readExtension key raw) (readExtension key
        ((aliasing key name t chosen).own place
          ((aliasing key name t chosen).parts root place raw))) := by
  have hparts : Entries.get? ((aliasing key name t chosen).parts root place raw) (.str key) =
      Entries.get? raw (.str key) :=
    Rewriting.get?_parts_str (.inr hkey)
  rcases aliasing_cases key name t chosen place
    ((aliasing key name t chosen).parts root place raw) with
    hsame | ⟨-, htarget, hchanged⟩
  · rw [hsame]
    exact (readExtension_alike hparts.symm).mono fun d e _ _ hde p _ => hde ▸ rfl
  · rw [hchanged]
    unfold readExtension
    rw [Entries.get?_modify_str, if_pos rfl, hparts]
    cases hget : Entries.get? raw (.str key) with
    | none => exact .ok fun _ _ => rfl
    | some v =>
      cases v with
      | map payload =>
        have hread := Extension.ofPayload_renamed t name payload
        dsimp only [Option.map_some, Value.onTable]
        generalize Extension.ofPayload payload = x at hread ⊢
        generalize Extension.ofPayload (Entries.modify payload (.str "type") (renamed t name)) =
          y at hread ⊢
        cases hread with
        | error heq => exact .error ⟨rfl, rfl, rfl⟩
        | ok hde =>
          refine .ok fun p hp => congrArg some
            (OverrideRules.settle_alias h hde.1 fun hobject hsome => hde.2 fun hnull => ?_)
          -- Beside a pointer an identity takes its target from it, unless it has one of its own.
          have hleft := hchosen place _ htarget hobject
          rw [takesTarget, besidePointer_parts (hp hsome), hparts, hget] at hleft
          simp [hnull] at hleft
      | scalar s =>
        cases s with
        | null => exact .ok fun _ _ => rfl
        | _ => exact .error ⟨rfl, rfl, rfl⟩
      | _ => exact .error ⟨rfl, rfl, rfl⟩

/-- What stands under a key stays, or it is a table and remains one. -/
theorem get?_aliasing_retabled (s : String) (place : List Scalar) :
    Option.Rel Retabled (Entries.get? raw (.str s))
      (Entries.get? ((aliasing key name t chosen).own place raw) (.str s)) := by
  by_cases hs : key = s
  · subst hs
    rcases aliasing_cases key name t chosen place raw with hsame | ⟨-, -, hchanged⟩
    · rw [hsame]
      cases Entries.get? raw (.str key) with
      | none => exact .none
      | some v => exact .some (.same v)
    · rw [hchanged, Entries.get?_modify_str, if_pos rfl]
      cases Entries.get? raw (.str key) with
      | none => exact .none
      | some v =>
        cases v with
        | map payload => exact .some (.tables _ _)
        | _ => exact .some (.same _)
  · rw [get?_aliasing hs]
    cases Entries.get? raw (.str s) with
    | none => exact .none
    | some v => exact .some (.same v)

/-- Changing names pairs overrides that are worth the same. -/
theorem aliasing_carries {rules : OverrideRules} (h : rules.types.Aliases name t)
    (hchosen : ∀ place raw, chosen place raw = true → t = .objectId → takesTarget key raw = false)
    (hkey : key ∉ ["items", "properties", "default"]) :
    (aliasing key name t chosen).Carries key (SettledAlike rules) := by
  have hparts : key ∉ ["items", "properties"] := fun hmem =>
    hkey ((by decide : ["items", "properties"] ⊆ ["items", "properties", "default"]) hmem)
  exact {
    refl _ _ := rfl
    keeps _ hk := absurd hk (by simp [aliasing])
    textKeys place raw htexts := by
      rcases aliasing_cases key name t chosen place raw with hsame | ⟨-, -, hchanged⟩
      · rw [hsame]
        exact htexts
      · rw [hchanged]
        exact htexts.modify _ _
    extension root place raw := by
      refine (readExtension_aliasing h hchosen hparts root place raw).mono fun d e hd _ hde n hn =>
        ?_
      obtain rfl := Except.ok.inj (hd.symm.trans (readFrom_of_readNode_map hn).extension)
      exact hde n.pointer? (besidePointer_of_readNode hn)
    roots root raw := by
      have hsame : (aliasing key name t chosen).own [root]
        ((aliasing key name t chosen).parts true [root] raw) =
          (aliasing key name t chosen).parts true [root] raw := by
        rcases aliasing_cases key name t chosen [root]
          ((aliasing key name t chosen).parts true [root] raw) with
          hsame | ⟨hlength, -⟩
        · exact hsame
        · simp at hlength
      rw [hsame]
      exact readExtension_alike (Rewriting.get?_parts_str (.inr hparts)).symm
    pointer place raw := Retabled.pointer (get?_aliasing_retabled "$ref" place)
    words place raw _ s _ := .entry (get?_aliasing_retabled s place)
    required place raw _ := (Retabled.entry (get?_aliasing_retabled "required" place)).unlisted
    parts place raw _ s hs := by
      refine get?_aliasing ?_ place
      rintro rfl
      exact hkey hs }

end Nodes

/-! ## 4. Definitions -/

namespace Node

variable {rules : OverrideRules}

mutual

/-- Nodes whose overrides are worth the same are alike when these are settled. -/
theorem Paired.settled : (n : Node) → {m : Node} → {place : List Scalar} →
    Paired (SettledAlike rules) place n m → Likeness.same.Nodes (n.settled rules) (m.settled rules)
  | .primitive _ _ _, _, _, .primitive h hfacts =>
    .primitive (Likeness.leaves_of_eq h hfacts.default hfacts.type)
  | .array _ items, _, _, @Paired.array _ _ _ g _ j h hfacts hitems => by
    have hsettled := Paired.settled items hitems
    have hpointers : rules.settle items.ownPointer? = rules.settle j.ownPointer? := by
      refine OverrideRules.settle_alike ?_
      simpa using hsettled.ownPointer?
    refine .array (Likeness.leaves_of_eq ?_ hfacts.default hfacts.type) hsettled
    exact Eq.trans h (congrArg (g.extension.map ·) hpointers)
  | .object _ ps _, _, _, .object h hproperties =>
    .object (overrides_of_eq h) (PropertiesPaired.settled ps hproperties)
  | .reference _ p, _, _, @Paired.reference _ _ _ g _ q h hpointers => by
    have hsettle : rules.settle (some p) = rules.settle (some q) :=
      OverrideRules.settle_alike (.some hpointers)
    exact .reference (overrides_of_eq (Eq.trans h (congrArg (g.extension.map ·) hsettle))) hpointers
  | .any _, _, _, .any h => .any (overrides_of_eq h)

theorem PropertiesPaired.settled : (ps : List (String × Node)) → {qs : List (String × Node)} →
    {place : List Scalar} → PropertiesPaired (SettledAlike rules) place ps qs →
    Likeness.same.Properties (settledProperties rules ps) (settledProperties rules qs)
  | [], _, _, .nil => .nil
  | (_, n) :: rest, _, _, .cons h hrest =>
    .cons (Paired.settled n h) (PropertiesPaired.settled rest hrest)

end

end Node

namespace Definitions.Paired

variable {ds es : Definitions}

/-- Definitions whose overrides are worth the same are alike when these are settled. -/
theorem settled {rules : OverrideRules} (h : Definitions.Paired (SettledAlike rules) ds es) :
    Likeness.same.Maps (Definitions.settled rules ds) (Definitions.settled rules es) := by
  induction h with
  | nil => exact .nil
  | cons hde _ ih => exact .cons ⟨hde.1, Node.Paired.settled _ hde.2.1⟩ ih

/-- Definitions whose overrides are worth the same make the same schemas. -/
theorem buildSchemas {c : Compiler} (h : Definitions.Paired (SettledAlike c.overrides) ds es)
    (names : Option (List Scalar)) :
    Related Failure.Alike Eq (c.buildSchemas ds names) (c.buildSchemas es names) := by
  unfold Compiler.buildSchemas
  rw [h.keys]
  refine Compiler.buildInto_related (fun name => Compiler.buildSchema_related ?_) [] _
  have hget := h.get? name
  generalize Entries.get? ds name = d at hget ⊢
  generalize Entries.get? es name = e at hget ⊢
  cases hget with
  | none => exact .none
  | @some n m hnode =>
    obtain ⟨_, -, hpaired, hextension⟩ := hnode
    refine .some ⟨?_, by rw [Compiler.options, Compiler.options, hextension]⟩
    unfold Compiler.buildFields
    rw [← buildNode_settled c.overrides ds, ← buildNode_settled c.overrides es]
    have hbuild := Likeness.buildNode_alike h.settled (Node.Paired.settled n hpaired) c.overrides
      ⟨name, 0, c.config.maxReferenceDepth⟩
    exact hbuild.mono fun _ _ _ _ hfields => hfields.tables.eq

end Definitions.Paired

/-! ## 5. Documents -/

/-- **A name and its alias say the same.** Under a configuration in which a name is an alias of a
type, a document compiles to the same schemas, or fails with errors of one kind, the same chain of
kinds and the same keys of properties, when the type goes by the alias in any of its overrides that
are not those of definitions. Overrides that would take the target of a reference from a pointer are
left out, and the configured key is none of the three under which parts of the document stand that
are handed on. -/
theorem compile_aliases_alike {config : Config} {name : String} {t : StorageType}
    (h : config.Aliases name t) (hkey : config.extensionKey ∉ ["items", "properties", "default"])
    {document : Entries Value} (hspelled : Document.IsSpelled document)
    {chosen : List Scalar → Entries Value → Bool}
    (hchosen : ∀ place raw, chosen place raw = true → t = .objectId →
      takesTarget config.extensionKey raw = false) :
    Related Failure.Alike Eq (Store.compileSpec config (.map document))
      (Store.compileSpec config (.map
        ((aliasing config.extensionKey name t chosen).document document))) := by
  refine Rewriting.compileSpec_related (fun c hc => ⟨SettledAlike c.overrides, ?_, ?_⟩) hspelled
    (Rewriting.rawDefinitions_document _ _)
  · exact aliasing_carries (h.types hc) hchosen hkey
  · exact fun ds es hpaired => hpaired.buildSchemas none

namespace Sample

/-- A configuration with one alias. -/
def withAlias (key name : String) (t : StorageType) : Config :=
  { Config.initial with extensionKey := key, typeAliases := [(name, t.name)] }

/-- A pet with an owner and with guests, which are pets; both are references by identity, of given
types. -/
def guests (owner guest : String) : Entries Value :=
  [(.str "definitions", .object [("Pet", .object [("type", .str "object"), ("properties", .object [
    ("owner", .object [("type", .str "string"),
      (defaultExtensionKey, .object [("type", .str owner)])]),
    ("guests", .object [("type", .str "array"), ("items", .object [
      ("$ref", .str "#/definitions/Pet"),
      (defaultExtensionKey, .object [("type", .str guest)])])])])])])]

end Sample

/-- The owner goes by the alias. The guests take their target from the pointer, so their type is
left alone. -/
theorem compile_aliases_alike_guests :
    (aliasing defaultExtensionKey "ObjectID" .objectId fun _ raw =>
      !takesTarget defaultExtensionKey raw).document
        (Sample.guests "ObjectId" "ObjectId") = Sample.guests "ObjectID" "ObjectId" ∧
      Related Failure.Alike Eq
        (Store.compileSpec (Sample.withAlias defaultExtensionKey "ObjectID" .objectId)
          (.map (Sample.guests "ObjectId" "ObjectId")))
        (Store.compileSpec (Sample.withAlias defaultExtensionKey "ObjectID" .objectId)
          (.map (Sample.guests "ObjectID" "ObjectId"))) := by
  have haliased : (aliasing defaultExtensionKey "ObjectID" .objectId fun _ raw =>
      !takesTarget defaultExtensionKey raw).document (Sample.guests "ObjectId" "ObjectId") =
      Sample.guests "ObjectID" "ObjectId" := by decide +kernel
  refine ⟨haliased, ?_⟩
  rw [← haliased]
  have halias :
      (Sample.withAlias defaultExtensionKey "ObjectID" .objectId).Aliases "ObjectID" .objectId :=
    ⟨by decide, by decide, by decide⟩
  have hspelled : Document.IsSpelled (Sample.guests "ObjectId" "ObjectId") :=
    Document.isSpelled_of_isJson (by decide)
  exact compile_aliases_alike halias (by decide) hspelled fun _ _ hchosen _ =>
    Bool.not_eq_eq_eq_not.mp hchosen

/-- Outcomes are not alike if one of them is a value that the other is not. -/
theorem not_related_of_toOption_ne {x y : Except Failure (Entries Schema)}
    (h : x.toOption ≠ y.toOption) :
    ¬ Related Failure.Alike Eq x y := by
  intro hxy
  cases hxy with
  | ok heq => exact h (congrArg some heq)
  | error _ => exact h rfl

namespace Sample

/-- The schema of a pet with guests whose override is given. -/
def guestsSchema (guest : Entries Value) : Entries Schema :=
  [(.str "Pet", ⟨"Pet", [(.str "owner", .object [("type", .str "ObjectId")]),
    (.str "guests", .list [.map guest])], []⟩)]

/-- A property with an override under the key of defaults. -/
def typedDefault (type : String) : Value :=
  .object [("type", .str "string"), ("default", .object [("type", .str type)])]

/-- A property with an override under the key of items. -/
def typedItems (type : String) : Value :=
  .object [("type", .str "array"), ("items", .object [("type", .str type)])]

/-- A property whose own property has an override under the key of properties. -/
def typedProperties (type : String) : Value :=
  .object [("type", .str "object"), ("properties", .object [
    ("street", .object [("type", .str "string"), ("properties", .object [("type", .str type)])])])]

end Sample

/-- Beside a pointer a reference by identity without a target has one under the name of the type
only. And under each of the three keys the name of a type is handed on as a part of the document. -/
theorem compile_aliases_differ :
    (¬ ∀ (config : Config) (name : String) (t : StorageType), config.Aliases name t →
      config.extensionKey ∉ ["items", "properties", "default"] → ∀ document : Entries Value,
      (Value.map document).isJson = true → ∀ chosen,
      Related Failure.Alike Eq (Store.compileSpec config (.map document))
        (Store.compileSpec config (.map
          ((aliasing config.extensionKey name t chosen).document document)))) ∧
    ∀ key ∈ ["items", "properties", "default"],
      ¬ ∀ (config : Config) (name : String) (t : StorageType),
      config.Aliases name t → config.extensionKey = key →
      ∀ document : Entries Value, (Value.map document).isJson = true → ∀ chosen,
      (∀ place raw, chosen place raw = true → t = .objectId → takesTarget key raw = false) →
      Related Failure.Alike Eq (Store.compileSpec config (.map document))
        (Store.compileSpec config (.map ((aliasing key name t chosen).document document))) := by
  constructor
  · intro h
    have hbefore : Store.compileSpec (Sample.withAlias defaultExtensionKey "ObjectID" .objectId)
        (.map (Sample.guests "ObjectId" "ObjectId")) =
        .ok (Sample.guestsSchema [(.str "type", .str "ObjectId"), (.str "ref", .str "Pet")]) := by
          decide +kernel
    have hafter : Store.compileSpec (Sample.withAlias defaultExtensionKey "ObjectID" .objectId)
        (.map ((aliasing defaultExtensionKey "ObjectID" .objectId fun _ _ => true).document
          (Sample.guests "ObjectId" "ObjectId"))) =
            .ok (Sample.guestsSchema [(.str "type", .str "ObjectId")]) := by
      decide +kernel
    have halike : Related Failure.Alike Eq
      (Store.compileSpec (Sample.withAlias defaultExtensionKey "ObjectID" .objectId)
        (.map (Sample.guests "ObjectId" "ObjectId")))
        (Store.compileSpec (Sample.withAlias defaultExtensionKey "ObjectID" .objectId)
          (.map ((aliasing defaultExtensionKey "ObjectID" .objectId fun _ _ => true).document
            (Sample.guests "ObjectId" "ObjectId")))) :=
      h _ "ObjectID" .objectId ⟨by decide, by decide, by decide⟩ (by decide) _ (by decide) _
    rw [hbefore, hafter] at halike
    exact not_related_of_toOption_ne (by decide) halike
  · intro key hkey h
    -- Under each of the three keys there is a document in which the alias is read as something else
    -- than the name of a type.
    have hnever : ∀ (name : String) (t : StorageType),
      (Sample.withAlias key name t).Aliases name t → t ≠ .objectId →
        ∀ property, (Value.map (Sample.document property)).isJson = true →
        (Store.compileSpec (Sample.withAlias key name t)
          (.map (Sample.document property))).toOption =
          (Store.compileSpec (Sample.withAlias key name t)
            (.map ((aliasing key name t fun _ _ => true).document
              (Sample.document property)))).toOption := by
      intro name t halias hplain property hjson
      by_contra hne
      exact not_related_of_toOption_ne hne
        (h _ name t halias rfl _ hjson _ fun _ _ _ hobject => absurd hobject hplain)
    simp only [List.mem_cons, List.not_mem_nil, or_false] at hkey
    rcases hkey with rfl | rfl | rfl
    · exact absurd (hnever "string" .string ⟨by decide, by decide, by decide⟩ (by decide)
        (Sample.typedItems "String") (by decide)) (by decide +kernel)
    · exact absurd (hnever "Count" .number ⟨by decide, by decide, by decide⟩ (by decide)
        (Sample.typedProperties "Number") (by decide)) (by decide +kernel)
    · exact absurd (hnever "Text" .string ⟨by decide, by decide, by decide⟩ (by decide)
        (Sample.typedDefault "String") (by decide)) (by decide +kernel)

end ApiStore
