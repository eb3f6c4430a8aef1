import ApiStore.Node
import ApiStore.Proofs.Entries
/-
`Path.lean` -- paths into a node, and into what the node compiles to.

A path leads from a node to a part of it, by way of properties and items. The same path
leads into the compiled value: a property is an entry of the table that its object became,
and items are the one item of a marker, or of the type of a single field. So a place in a
document and the field that was made there go by one name.

**The same elsewhere.** Two compiled values may differ in many places while they go together
at the end of one path (`Value.AgreeAt`). What is added to the tables on the way, to both
alike, does not change that: it hides what was there under its key, or lets it be.
-/
set_option autoImplicit false

namespace ApiStore

/-! ## 1. Paths -/

/-- A step into a part: into the property of an object, or into the items of an array. -/
inductive Step where
  | property (name : String)
  | items
  deriving DecidableEq, Repr

namespace Step

/-- The keys by which a step goes in raw data. -/
def keys : Step → List Scalar
  | .property name => [.str "properties", .str name]
  | .items => [.str "items"]

/-- The keys by which a path goes in raw data. -/
def place (path : List Step) : List Scalar := path.flatMap keys

/-- The entry of a compiled table through which a step goes. -/
def entry : Step → String
  | .property name => name
  | .items => "type"

/-- The place of a path is that of its first step, followed by that of the rest. -/
theorem place_cons (step : Step) (rest : List Step) : place (step :: rest) = step.keys ++
    place rest := List.flatMap_cons

end Step

/-- The part of a node at the end of a path. -/
def Node.at? : List Step → Node → Option Node
  | [], n => some n
  | .property name :: rest, .object _ properties _ => (properties.lookup name).bind (at? rest)
  | .items :: rest, .array _ items => at? rest items
  | _ :: _, _ => none

/-- The item of a marker. -/
def Value.first? : Value → Option Value
  | .list (first :: _) => some first
  | _ => none

/-- Where a step goes from the entry through which it goes. -/
def Step.enter : Step → Value → Option Value
  | .property _, v => some v
  | .items, v => v.first?

/-- The part of a compiled value into which a step goes. -/
def Value.part? (step : Step) : Value → Option Value
  | .map fields => (Entries.get? fields (.str step.entry)).bind step.enter
  | v => if step = .items then v.first? else none

/-- The part of a compiled value at the end of a path. -/
def Value.at? : List Step → Value → Option Value
  | [], v => some v
  | step :: rest, v => (v.part? step).bind (at? rest)

/-! ## 2. Values that agree at the end of a path -/

/-- What stands at the end of a path in one value has something there in the other that it goes
together with. -/
def Value.AgreeAt (R : Value → Value → Prop) (path : List Step) (v w : Value) : Prop :=
  ∀ a, v.at? path = some a → ∃ b, w.at? path = some b ∧ R a b

namespace Value.AgreeAt

variable {R : Value → Value → Prop} {step : Step} {path : List Step} {v w : Value}
  {x y : Entries Value}

/-- A value agrees with itself at the end of any path. -/
theorem refl (hR : ∀ a, R a a) (path : List Step) (v : Value) : v.AgreeAt R path v :=
  fun a ha => ⟨a, ha, hR a⟩

/-- What a step leads to decides. -/
theorem cons (h : ∀ c, v.part? step = some c → ∃ d, w.part? step = some d ∧ c.AgreeAt R path d) :
    v.AgreeAt R (step :: path) w := by
  intro a ha
  obtain ⟨c, hc, ha⟩ := Option.bind_eq_some_iff.mp ha
  obtain ⟨d, hd, hcd⟩ := h c hc
  obtain ⟨b, hb, hab⟩ := hcd a ha
  exact ⟨b, Option.bind_eq_some_iff.mpr ⟨d, hd, hb⟩, hab⟩

/-- Tables agree beyond a step if the entries do through which it goes. -/
theorem table
    (h : ∀ c, Entries.get? x (.str step.entry) = some c →
      ∃ d, Entries.get? y (.str step.entry) = some d ∧ ∀ a, step.enter c = some a →
      ∃ b, step.enter d = some b ∧ a.AgreeAt R path b) :
    (Value.map x).AgreeAt R (step :: path) (.map y) := by
  refine cons fun a ha => ?_
  obtain ⟨c, hc, ha⟩ := Option.bind_eq_some_iff.mp ha
  obtain ⟨d, hd, hcd⟩ := h c hc
  obtain ⟨b, hb, hab⟩ := hcd a ha
  exact ⟨b, Option.bind_eq_some_iff.mpr ⟨d, hd, hb⟩, hab⟩

/-- An entry that both tables get is found in both, or in neither. -/
theorem insert (hR : ∀ a, R a a) (hpath : path ≠ []) (h : (Value.map x).AgreeAt R path (.map y))
    (k : Scalar) (u : Value) :
    (Value.map (Entries.insert x k u)).AgreeAt R path (.map (Entries.insert y k u)) := by
  cases path with
  | nil => exact absurd rfl hpath
  | cons step rest =>
    unfold AgreeAt at h ⊢
    simp only [at?, part?, Entries.get?_insert_str] at h ⊢
    split
    · exact fun a ha => ⟨a, ha, hR a⟩
    · exact h

/-- Tables that agree at the end of a path still do with the same entries laid over both. -/
theorem overlay (hR : ∀ a, R a a) (hpath : path ≠ []) (h : (Value.map x).AgreeAt R path (.map y))
    (upper : Entries Value) :
    (Value.map (Entries.overlay x upper)).AgreeAt R path (.map (Entries.overlay y upper)) := by
  induction upper generalizing x y with
  | nil => exact h
  | cons entry rest ih =>
    rw [Entries.overlay_cons, Entries.overlay_cons]
    exact ih (h.insert hR hpath _ _)

/-- Markers agree in their items. -/
theorem marker (h : v.AgreeAt R path w) : (Value.list [v]).AgreeAt R (.items :: path) (.list [w]) :=
  cons fun _ hc => ⟨w, rfl, Option.some.inj hc ▸ h⟩

end Value.AgreeAt

/-- An entry through which a path does not go is not found at its end. -/
theorem Value.at?_insert {path : List Step} {s : String} (hpath : path ≠ [])
    (hs : ∀ step, path.head? = some step → step.entry ≠ s) (fields : Entries Value) (u : Value) :
    (Value.map (Entries.insert fields (.str s) u)).at? path = (Value.map fields).at? path := by
  cases path with
  | nil => exact absurd rfl hpath
  | cons step rest =>
    have hne : Scalar.str s ≠ .str step.entry := fun heq => hs step rfl (Scalar.str.inj heq).symm
    simp only [at?, part?, Entries.get?_insert_str, if_neg hne]

end ApiStore
