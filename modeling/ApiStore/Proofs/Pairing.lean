import ApiStore.Proofs.Compilation
import ApiStore.Proofs.ErrorPath
import ApiStore.Proofs.Sameness
/-
`Pairing.lean` -- nodes that were read from two documents, compared part by part.

Where one document was made from another, the nodes of the two are compared at the places
where they stand. They have the same shapes; the overrides may differ, for what was changed
may be just these. What an override may become is left open (`OverrideChange`), and depends
on the place and on the node as it was before.

**Reading part by part.** A node is read from its override, its pointer and a few parts. So
two tables become nodes that are paired if the pointers go together and the parts do, each
as the reader looks at it, and if the override has become what it may
(`readNode_map_paired`). Under a key where a text is wanted, one table is like another.
-/
set_option autoImplicit false

namespace ApiStore

open Outcome (Related)

/-! ## 1. Parts -/

/-- What stands under `$ref` in a node, before and after: the same, pointers that are alike, or
tables, which are no pointers. -/
inductive Repointed : Value → Value → Prop
  | same (v : Value) : Repointed v v
  | pointer {p q : String} (h : Pointer.Alike p q) : Repointed (.str p) (.str q)
  | tables (x y : Entries Value) : Repointed (.map x) (.map y)

/-- What stands under the key of a text, before and after: the same, or tables, which are no
texts. -/
inductive Retabled : Value → Value → Prop
  | same (v : Value) : Retabled v v
  | tables (x y : Entries Value) : Retabled (.map x) (.map y)

/-- Either nothing has changed, or there was no text before and there is none afterwards. -/
theorem Retabled.eq_or_tables {v w : Value} (h : Retabled v w) :
    v = w ∨ ∃ x y, v = .map x ∧ w = .map y := by
  cases h with
  | same => exact .inl rfl
  | tables x y => exact .inr ⟨x, y, rfl, rfl⟩

/-- What may be under the key of a text may be under the key of a pointer. -/
theorem Retabled.pointer {v w : Option Value} (h : Option.Rel Retabled v w) :
    Option.Rel Repointed v w := by
  cases h with
  | none => exact .none
  | some h =>
    cases h with
    | same => exact .some (.same _)
    | tables x y => exact .some (.tables x y)

/-- What is read under a key where a node may have no entry. -/
theorem Retabled.entry {raw other : Entries Value} {s : String}
    (h : Option.Rel Retabled (Entries.get? raw (.str s)) (Entries.get? other (.str s))) :
    Retabled (ApiStore.entry raw s) (ApiStore.entry other s) := by
  unfold ApiStore.entry
  generalize Entries.get? raw (.str s) = v at h ⊢
  generalize Entries.get? other (.str s) = w at h ⊢
  cases h with
  | none => exact .same _
  | some h => exact h

/-- What stands under the key of a list, before and after: the same, or no list. -/
def Unlisted (v w : Value) : Prop := v = w ∨ ∀ items, v ≠ .list items ∧ w ≠ .list items

/-- No text is a list. -/
theorem Retabled.unlisted {v w : Value} (h : Retabled v w) : Unlisted v w := by
  rcases h.eq_or_tables with heq | ⟨x, y, rfl, rfl⟩
  · exact .inl heq
  · exact .inr fun _ => ⟨nofun, nofun⟩

/-- The keys of a node that are looked at where it has no pointer. -/
def partKeys : List String := ["type", "format", "items", "properties", "required", "default"]

/-- Those of them that are read as a text. -/
def wordKeys : List String := ["type", "format"]

/-! ## 2. Nodes -/

/-- What the override of a node at a place may become. -/
abbrev OverrideChange := List Scalar → Node → Option Extension → Prop

/-- Facts with one default and one type. -/
structure Facts.SameParts (f g : Facts) : Prop where
  default : f.default = g.default
  type : entry f.raw "type" = entry g.raw "type"

namespace Node

mutual

/-- Nodes that were read at a place of two documents, one of which was made from the other part by
part. `Own` says what the overrides of the first may have become. -/
inductive Paired (Own : OverrideChange) : List Scalar → Node → Node → Prop
  | primitive {place : List Scalar} {f g : Facts} {type : String} {format : Option String}
    (h : Own place (.primitive f type format) g.extension) (hfacts : f.SameParts g) :
    Paired Own place (.primitive f type format) (.primitive g type format)
  | array {place : List Scalar} {f g : Facts} {i j : Node} (h : Own place (.array f i) g.extension)
    (hfacts : f.SameParts g) (hitems : Paired Own (place ++ [.str "items"]) i j) :
    Paired Own place (.array f i) (.array g j)
  | object {place : List Scalar} {f g : Facts} {ps qs : List (String × Node)}
    {required : List String} (h : Own place (.object f ps required) g.extension)
    (hproperties : PropertiesPaired Own (place ++ [.str "properties"]) ps qs) :
    Paired Own place (.object f ps required) (.object g qs required)
  | reference {place : List Scalar} {f g : Facts} {p q : String}
    (h : Own place (.reference f p) g.extension) (hpointers : Pointer.Alike p q) :
    Paired Own place (.reference f p) (.reference g q)
  | any {place : List Scalar} {f g : Facts} (h : Own place (.any f) g.extension) :
    Paired Own place (.any f) (.any g)

/-- Properties under the same names in the same order, paired. -/
inductive PropertiesPaired (Own : OverrideChange) : List Scalar → List (String × Node) →
    List (String × Node) → Prop
  | nil {place : List Scalar} : PropertiesPaired Own place [] []
  | cons {place : List Scalar} {key : String} {n m : Node} {ps qs : List (String × Node)}
    (h : Paired Own (place ++ [.str key]) n m) (rest : PropertiesPaired Own place ps qs) :
    PropertiesPaired Own place ((key, n) :: ps) ((key, m) :: qs)

end

section Paired

variable {Own : OverrideChange}

/-- A node is paired with itself if overrides may stay. -/
theorem Paired.refl (hown : ∀ place n, Own place n n.extension) (n : Node) :
    ∀ place, Paired Own place n n := by
  induction n using Node.induction with
  | primitive facts type format =>
    exact fun place => .primitive (hown _ (.primitive facts type format)) ⟨rfl, rfl⟩
  | array facts items ih =>
    exact fun place => .array (hown _ (.array facts items)) ⟨rfl, rfl⟩ (ih _)
  | object facts properties required ih =>
    refine fun place => .object (hown _ (.object facts properties required)) ?_
    generalize place ++ [.str "properties"] = below
    induction properties with
    | nil => exact .nil
    | cons property rest ihrest =>
      obtain ⟨hproperty, hrest⟩ := List.forall_mem_cons.mp ih
      exact .cons (hproperty _) (ihrest hrest)
  | reference facts pointer =>
    exact fun place => .reference (hown _ (.reference facts pointer)) ⟨rfl, rfl⟩
  | any facts => exact fun place => .any (hown _ (.any facts))

/-- Overrides that stay as they are. -/
def Kept : OverrideChange := fun _ n e => n.extension = e

/-- Overrides that are the same go together. -/
theorem overrides_of_eq {d e : Option Extension} (h : d = e) :
    Option.Rel Likeness.same.Overrides d e :=
  h ▸ Likeness.overrides_refl _

mutual

/-- Nodes whose overrides are the same are alike. -/
theorem Paired.same : (n : Node) → {m : Node} → {place : List Scalar} → Paired Kept place n m →
    Likeness.same.Nodes n m
  | .primitive _ _ _, _, _, .primitive h hfacts =>
    .primitive (Likeness.leaves_of_eq h hfacts.default hfacts.type)
  | .array _ items, _, _, .array h hfacts hitems =>
    .array (Likeness.leaves_of_eq h hfacts.default hfacts.type) (Paired.same items hitems)
  | .object _ ps _, _, _, .object h hproperties =>
    .object (overrides_of_eq h) (PropertiesPaired.same ps hproperties)
  | .reference _ _, _, _, .reference h hpointers => .reference (overrides_of_eq h) hpointers
  | .any _, _, _, .any h => .any (overrides_of_eq h)

/-- So are properties, one by one. -/
theorem PropertiesPaired.same : (ps : List (String × Node)) → {qs : List (String × Node)} →
    {place : List Scalar} → PropertiesPaired Kept place ps qs → Likeness.same.Properties ps qs
  | [], _, _, .nil => .nil
  | (_, n) :: rest, _, _, .cons h hrest =>
    .cons (Paired.same n h) (PropertiesPaired.same rest hrest)

end

end Paired

end Node

/-- Definitions under the same names in the same order that are paired and have the same overrides
of their own. -/
def Definitions.Paired (Own : OverrideChange) (ds es : Definitions) : Prop :=
  List.Forall₂ (fun d e => d.1 = e.1 ∧ Node.Paired Own [d.1] d.2 e.2 ∧
    d.2.extension = e.2.extension) ds es

namespace Definitions.Paired

variable {Own : OverrideChange} {ds es : Definitions}

/-- Definitions that are paired have the same names, in the same order. -/
theorem keys (h : Definitions.Paired Own ds es) : Entries.keys ds = Entries.keys es := by
  induction h with
  | nil => rfl
  | cons hde _ ih => exact congrArg₂ List.cons hde.1 ih

/-- Under each name there are definitions that are paired, or none. The place is that of the name in
the document, which may be another spelling of the same key. -/
theorem get? (h : Definitions.Paired Own ds es) (name : Scalar) :
    Option.Rel (fun n m => ∃ found : Scalar, found.sameKey name = true ∧
      Node.Paired Own [found] n m ∧
      n.extension = m.extension) (Entries.get? ds name) (Entries.get? es name) := by
  induction h with
  | nil => exact .none
  | @cons d e ds es hde _ ih =>
    obtain ⟨hname, hnode⟩ := hde
    rw [Entries.get?, Entries.get?, ← hname]
    split
    · exact .some ⟨_, ‹_›, hnode⟩
    · exact ih

/-- Definitions whose overrides are the same are alike. -/
theorem same (h : Definitions.Paired Node.Kept ds es) : Likeness.same.Maps ds es :=
  h.imp fun _ _ hde => ⟨hde.1, Node.Paired.same _ hde.2.1⟩

end Definitions.Paired

/-! ## 3. Reading -/

section Reading

variable {Own : OverrideChange} {key : String} {raw other : Entries Value}

/-- An override that stands under the same key is read alike, whatever stands around it. -/
theorem readExtension_alike (h : Entries.get? raw (.str key) = Entries.get? other (.str key)) :
    Related CompileError.Alike Eq (readExtension key raw) (readExtension key other) := by
  unfold readExtension
  rw [h]
  split
  · exact .ok rfl
  · exact .ok rfl
  · split
    · exact .ok rfl
    · exact .error ⟨rfl, rfl, rfl⟩
  · exact .error ⟨rfl, rfl, rfl⟩

/-- The list of required names is read alike: a value that is no list requires nothing. -/
theorem readRequired_alike (h : Unlisted (entry raw "required") (entry other "required")) :
    Related CompileError.Alike Eq (readRequired raw) (readRequired other) := by
  unfold readRequired
  rcases h with heq | hnone
  · rw [heq]
    split
    · split
      · exact .ok rfl
      · exact .error ⟨rfl, rfl, rfl⟩
    · exact .ok rfl
  · split
    · exact absurd ‹_› (hnone _).1
    · split
      · exact absurd ‹_› (hnone _).2
      · exact .ok rfl

/-- What is known of a node that was read from a table: it has the override of the entries, a
pointer only where they have one, and is an array only where they say so. -/
structure Node.ReadFrom (key : String) (raw : Entries Value) (n : Node) : Prop where
  extension : readExtension key raw = .ok n.extension
  pointer : n.ownPointer?.isSome = true → Entries.contains raw (.str "$ref") = true
  items : ∀ facts items, n = .array facts items → entry raw "type" = .str "array" ∧
    readItems key raw = .ok items

/-- Whatever is read from a table is known in this way. -/
theorem readFrom_of_readNode_map {root : Bool} {n : Node}
    (h : readNode key root (.map raw) = .ok n) :
    n.ReadFrom key raw := by
  obtain ⟨e, he, hread⟩ := readAs_of_readNode h
  cases hread with
  | reference href => exact ⟨he, fun _ => by rw [Entries.contains, href]; rfl, by simp⟩
  | array _ htype hitems =>
    refine ⟨he, by simp [Node.ownPointer?], ?_⟩
    rintro _ _ ⟨⟩
    exact ⟨htype, hitems⟩
  | object => exact ⟨he, by simp [Node.ownPointer?], by simp⟩
  | primitive => exact ⟨he, by simp [Node.ownPointer?], by simp⟩
  | any => exact ⟨he, by simp [Node.ownPointer?], by simp⟩

/-- Nothing but a table is read as a node. -/
theorem readFrom_of_readNode {root : Bool} {v : Value} {n : Node}
    (h : readNode key root v = .ok n) :
    ∃ raw, v = .map raw ∧ n.ReadFrom key raw := by
  cases v with
  | map raw => exact ⟨raw, rfl, readFrom_of_readNode_map h⟩
  | _ => cases h

/-- An outcome is alike to itself if the value goes together with itself that it may be. -/
theorem Outcome.Related.self {α : Type} {R : α → α → Prop} {x : Except Failure α}
    (h : ∀ a, x = .ok a → R a a) :
    Related Failure.Alike R x x := by
  cases x with
  | ok a => exact .ok (h a rfl)
  | error e => exact .error (.same e)

/-- Nodes under texts at a place, paired. -/
structure NamedPaired (Own : OverrideChange) (place : List Scalar) (ps qs : Entries Node) :
    Prop where
  texts : ps.TextKeys
  pairs : List.Forall₂ (fun p q => p.1 = q.1 ∧ Node.Paired Own (place ++ [p.1]) p.2 q.2) ps qs

namespace NamedPaired

variable {place : List Scalar} {ps qs : Entries Node}

/-- Named nodes are paired with themselves if overrides may stay. -/
theorem refl (hown : ∀ place n, Own place n n.extension) (h : ps.TextKeys) :
    NamedPaired Own place ps ps :=
  ⟨h, List.forall₂_same.mpr fun p _ => ⟨rfl, .refl hown p.2 _⟩⟩

/-- The names on the other side are texts as well. -/
theorem texts' (h : NamedPaired Own place ps qs) : qs.TextKeys := by
  obtain ⟨hps, hpairs⟩ := h
  induction hpairs with
  | nil => exact .nil
  | cons hpq _ ih =>
    obtain ⟨htext, hrest⟩ := List.forall_mem_cons.mp hps
    exact List.forall_mem_cons.mpr ⟨hpq.1 ▸ htext, ih hrest⟩

/-- As the properties of an object they are paired. -/
theorem properties (h : NamedPaired Own place ps qs) :
    Node.PropertiesPaired Own place (named ps) (named qs) := by
  rw [named, named, h.texts.spelled, h.texts'.spelled]
  obtain ⟨hps, hpairs⟩ := h
  induction hpairs with
  | nil => exact .nil
  | @cons p q ps qs hpq _ ih =>
    obtain ⟨⟨k, n⟩, ⟨l, m⟩⟩ := p, q
    obtain ⟨rfl, hnode⟩ := hpq
    obtain ⟨⟨s, rfl⟩, hrest⟩ := List.forall_mem_cons.mp hps
    exact .cons hnode (ih hrest)

end NamedPaired

/-- Tables without a pointer at a place whose parts are read alike. Some parts have to be the same,
for the shape of a node depends on them, or for they are handed on. -/
structure PartsPaired (Own : OverrideChange) (key : String) (root : Bool) (place : List Scalar)
    (raw other : Entries Value) : Prop where
  words : ∀ s ∈ wordKeys, Retabled (entry raw s) (entry other s)
  required : Unlisted (entry raw "required") (entry other "required")
  default : entry raw "default" = entry other "default"
  contains : Entries.contains raw (.str "properties") = Entries.contains other (.str "properties")
  items : entry raw "type" = .str "array" →
    Related Failure.Alike (Node.Paired Own (place ++ [.str "items"])) (readItems key raw)
      (readItems key other)
  properties : isObjectNode root raw = true →
    Related Failure.Alike (NamedPaired Own (place ++ [.str "properties"])) (readProperties key raw)
      (readProperties key other)

/-- Two tables become nodes that are paired if their overrides, pointers and parts are. -/
theorem readNode_map_paired {root : Bool} {place : List Scalar} (htexts : raw.TextKeys)
    (htexts' : other.TextKeys)
    (hextension : Related CompileError.Alike (fun _ e => ∀ n, readNode key root (.map raw) = .ok n →
      Own place n e) (readExtension key raw) (readExtension key other))
    (hpointer : Option.Rel Repointed (Entries.get? raw (.str "$ref"))
      (Entries.get? other (.str "$ref")))
    (hparts : Entries.get? raw (.str "$ref") = none → PartsPaired Own key root place raw other) :
    Related Failure.Alike (Node.Paired Own place) (readNode key root (.map raw))
      (readNode key root (.map other)) := by
  have hkeys : ∀ record, checkKeys record raw [] = .ok () := checkKeys_eq_ok htexts .nil
  have hkeys' : ∀ record, checkKeys record other [] = .ok () := checkKeys_eq_ok htexts' .nil
  -- What the override has become is known of the node that is read, so the shapes are compared
  -- first.
  have hshapes : Related Failure.Alike (fun n m => Own place n m.extension →
    Node.Paired Own place n m) (readNode key root (.map raw)) (readNode key root (.map other)) := by
    unfold readNode
    have hread : Related CompileError.Alike (fun _ _ => True) (readExtension key raw)
        (readExtension key other) :=
      hextension.mono fun _ _ _ _ _ => trivial
    refine (hread.mapError (F := Failure.Alike) fun _ _ hde => .compile hde).bind fun d e _ => ?_
    rw [htexts.spelled, htexts'.spelled]
    simp only [hkeys, hkeys']
    generalize Entries.get? raw (.str "$ref") = v at hpointer hparts ⊢
    generalize Entries.get? other (.str "$ref") = w at hpointer ⊢
    cases hpointer with
    | some hpointer =>
      cases hpointer with
      | same =>
        -- Nothing but the pointer and the override of such a node is handed on.
        rename_i v
        cases v with
        | scalar s =>
          cases s with
          | str p => exact .ok fun hown => .reference hown ⟨rfl, rfl⟩
          | _ => exact .error (.compile ⟨rfl, rfl, rfl⟩)
        | _ => exact .error (.compile ⟨rfl, rfl, rfl⟩)
      | pointer h => exact .ok fun hown => .reference hown h
      | tables => exact .error (.compile ⟨rfl, rfl, rfl⟩)
    | none =>
      have hparts := hparts rfl
      dsimp only
      rcases (hparts.words "type" (by decide)).eq_or_tables with htype | ⟨x, y, hx, hy⟩
      case inr =>
        rw [hx, hy]
        simp only [reduceCtorEq, if_false, decide_false, Bool.and_false, Bool.false_and,
          Bool.or_self, Bool.false_eq_true]
        exact .error (.compile ⟨rfl, rfl, rfl⟩)
      have hfacts : Facts.SameParts ⟨raw, d, entry raw "default"⟩
          ⟨other, e, entry other "default"⟩ :=
        ⟨hparts.default, htype⟩
      rw [← htype, ← hparts.contains]
      -- The cases are the reader's own, in its order: an array, an object, no type, a leaf.
      split
      · rename_i harray
        exact (hparts.items harray).bind fun i j hij => .ok fun hown => .array hown hfacts hij
      · split
        · refine (hparts.properties ‹_›).bind fun ps qs hpq => ?_
          refine ((readRequired_alike hparts.required).mapError (F := Failure.Alike)
            fun _ _ hde => .compile hde).bind ?_
          rintro required _ rfl
          rw [checkKeys_eq_ok htexts hpq.texts, checkKeys_eq_ok htexts' hpq.texts']
          exact .ok fun hown => .object hown hpq.properties
        · split
          · exact .ok fun hown => .any hown
          · rcases (hparts.words "format" (by decide)).eq_or_tables with hformat | ⟨x, y, hx, hy⟩
            · rw [← hformat]
              split
              · exact .ok fun hown => .primitive hown hfacts
              · exact .ok fun hown => .primitive hown hfacts
              · exact .error (.compile ⟨rfl, rfl, rfl⟩)
            · rw [hx, hy]
              exact .error (.compile ⟨rfl, rfl, rfl⟩)
          · exact .error (.compile ⟨rfl, rfl, rfl⟩)
  refine hshapes.mono fun n m hn hm hnm => hnm ?_
  rw [(readFrom_of_readNode_map hn).extension,
    (readFrom_of_readNode_map hm).extension] at hextension
  cases hextension with
  | ok hown => exact hown n hn

end Reading

end ApiStore
