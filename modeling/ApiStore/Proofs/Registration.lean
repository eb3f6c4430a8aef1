import ApiStore.Proofs.Outcome
import ApiStore.Store
/-
`Registration.lean` -- what a compilation leaves in a store.

The schemas of a document are registered one after another, once all of them are compiled.
So there are two ways for a compilation to fail. Up to the last schema nothing has been
registered, and the store is what it was. After that the one thing that can go wrong is a
name that is taken, and then the schemas before it stay registered.

**Nothing is ever taken back, and nothing is ever changed.** Registration appends empty
collections and does nothing else, so whatever a compilation ends in, every collection that
was there is still there (`compile_appends`). What a failed one adds is the part of the
document before the first name that is taken: that part is known, its names were free, and
removing them leads back to the store as it was (`unregister_appended`).
-/
set_option autoImplicit false

namespace ApiStore.Store

variable {s : Store} {schema : Schema} {schemas : List Schema} {name : String}

/-- A store with empty collections of some schemas appended. -/
def appended (s : Store) (schemas : List Schema) : Store := ⟨s.collections ++ schemas.map .ofSchema⟩

/-- Schemas whose names are not taken, neither in the store nor among themselves. -/
structure Free (s : Store) (schemas : List Schema) : Prop where
  nodup : (schemas.map (·.name)).Nodup
  free : ∀ schema ∈ schemas, schema.name ∉ s.names

/-- A name is not contained if it is not among the names. -/
theorem contains_eq_false_iff : s.contains name = false ↔ name ∉ s.names := by
  simp [contains, get?, names]

/-! ## 1. Stores with more collections -/

/-- Without schemas nothing is appended. -/
@[simp] theorem appended_nil (s : Store) : s.appended [] = s := by
  rw [appended, List.map_nil, List.append_nil]

/-- Schemas are appended one after another. -/
theorem appended_cons (s : Store) (schema : Schema) (rest : List Schema) :
    s.appended (schema :: rest) = (s.appended [schema]).appended rest := by
  simp only [appended, List.map_cons, List.map_nil, List.append_assoc, List.singleton_append]

/-- The names of appended schemas come last. -/
theorem names_appended (s : Store) (schemas : List Schema) :
    (s.appended schemas).names = s.names ++ schemas.map (·.name) := by
  rw [names, appended, List.map_append, List.map_map]
  rfl

/-- A collection that is found is found again after others are appended. -/
theorem get?_appended {c : Collection} (h : s.get? name = some c) (schemas : List Schema) :
    (s.appended schemas).get? name = some c := by
  have hfirst : s.collections.find? (·.name == name) = some c := h
  rw [get?, appended, List.find?_append, hfirst]
  rfl

/-- The first of some schemas is free, and the others are once it is registered. -/
theorem free_cons_iff {rest : List Schema} :
    s.Free (schema :: rest) ↔ schema.name ∉ s.names ∧ (s.appended [schema]).Free rest := by
  have hnames : ∀ other : Schema, other.name ∉ (s.appended [schema]).names ↔
      other.name ∉ s.names ∧ other.name ≠ schema.name := by
    intro other
    rw [names_appended, List.mem_append, List.map_cons, List.map_nil, List.mem_singleton, not_or]
  constructor
  · rintro ⟨hnodup, hfree⟩
    rw [List.map_cons, List.nodup_cons] at hnodup
    obtain ⟨hfirst, hrest⟩ := List.forall_mem_cons.mp hfree
    refine ⟨hfirst, hnodup.2, fun other hother => (hnames other).mpr ⟨hrest other hother, ?_⟩⟩
    intro heq
    exact hnodup.1 (heq ▸ List.mem_map_of_mem hother)
  · rintro ⟨hfirst, hnodup, hfree⟩
    refine ⟨?_, ?_⟩
    · rw [List.map_cons, List.nodup_cons]
      refine ⟨?_, hnodup⟩
      intro hmem
      obtain ⟨other, hother, heq⟩ := List.mem_map.mp hmem
      exact ((hnames other).mp (hfree other hother)).2 heq
    · rw [List.forall_mem_cons]
      exact ⟨hfirst, fun other hother => ((hnames other).mp (hfree other hother)).1⟩

/-- Removing the names of what was appended leads back, if they were free. -/
theorem unregister_appended (h : s.Free schemas) :
    (schemas.map (·.name)).foldl unregister (s.appended schemas) = s := by
  -- Removing names one after another keeps the collections that have none of them.
  have hfold : ∀ (gone : List String) (t : Store), gone.foldl unregister t =
      ⟨t.collections.filter fun c => !gone.contains c.name⟩ := by
    intro gone
    induction gone with
    | nil =>
      intro t
      have hall : t.collections.filter (fun c => !([] : List String).contains c.name) =
          t.collections :=
        List.filter_eq_self.mpr fun _ _ => rfl
      rw [List.foldl_nil, hall]
    | cons first rest ih =>
      intro t
      rw [List.foldl_cons, ih, unregister, List.filter_filter]
      congr 1
      refine List.filter_congr fun c _ => ?_
      rw [List.contains_cons, Bool.not_or, Bool.and_comm]
  have hkept : ∀ c ∈ s.collections, (!(schemas.map (·.name)).contains c.name) = true := by
    intro c hc
    have hnot : c.name ∉ schemas.map (·.name) := by
      intro hmem
      obtain ⟨schema, hschema, heq⟩ := List.mem_map.mp hmem
      exact h.free schema hschema (heq ▸ List.mem_map_of_mem hc)
    simpa using hnot
  have hgone : ∀ c ∈ schemas.map Collection.ofSchema, (!(schemas.map (·.name)).contains c.name) =
      false := by
    intro c hc
    obtain ⟨schema, hschema, rfl⟩ := List.mem_map.mp hc
    have hmem : schema.name ∈ schemas.map (·.name) := List.mem_map_of_mem hschema
    simpa [Collection.ofSchema, Collection.name] using hmem
  rw [hfold, appended, List.filter_append, List.filter_eq_self.mpr hkept,
    List.filter_eq_nil_iff.mpr fun c hc =>
      by rw [hgone c hc]; exact Bool.false_ne_true, List.append_nil]

/-! ## 2. Registering -/

/-- A schema with a free name is appended. -/
theorem register_of_free (h : schema.name ∉ s.names) :
    s.register schema = .ok (s.appended [schema]) := by
  rw [register, contains_eq_false_iff.mpr h]
  rfl

/-- A schema with a name that is taken is refused. -/
theorem register_of_taken (h : schema.name ∈ s.names) :
    s.register schema = .error (.nameTaken schema.name) := by
  have htaken : s.contains schema.name = true := by
    rw [← Bool.not_eq_false]
    exact fun hfree => contains_eq_false_iff.mp hfree h
  rw [register, if_pos htaken]

/-- Schemas that are free register, all of them. -/
theorem registerAll_of_free (h : s.Free schemas) :
    s.registerAll schemas = (s.appended schemas, .ok ()) := by
  induction schemas generalizing s with
  | nil =>
    rw [appended_nil]
    rfl
  | cons schema rest ih =>
    obtain ⟨hfirst, hrest⟩ := free_cons_iff.mp h
    rw [registerAll, register_of_free hfirst]
    simp only []
    rw [ih hrest, ← appended_cons]

/-- Schemas that are not all free register up to the first one whose name is taken. -/
theorem registerAll_of_not_free (h : ¬ s.Free schemas) :
    ∃ done taken rest, schemas = done ++ taken :: rest ∧ s.Free done ∧
      taken.name ∈ (s.appended done).names ∧
      s.registerAll schemas = (s.appended done, .error (.nameTaken taken.name)) := by
  induction schemas generalizing s with
  | nil => exact absurd ⟨List.nodup_nil, nofun⟩ h
  | cons schema rest ih =>
    by_cases hfirst : schema.name ∈ s.names
    · refine ⟨[], schema, rest, rfl, ⟨List.nodup_nil, nofun⟩, ?_, ?_⟩
      · rw [appended_nil]
        exact hfirst
      · rw [registerAll, register_of_taken hfirst, appended_nil]
    · have hrest : ¬ (s.appended [schema]).Free rest :=
        fun hfree => h (free_cons_iff.mpr ⟨hfirst, hfree⟩)
      obtain ⟨done, taken, later, rfl, hdone, htaken, hall⟩ := ih hrest
      refine ⟨schema :: done, taken, later, rfl, free_cons_iff.mpr ⟨hfirst, hdone⟩, ?_, ?_⟩
      · rw [appended_cons s schema done]
        exact htaken
      · rw [registerAll, register_of_free hfirst, appended_cons s schema done]
        exact hall

/-! ## 3. Compiling -/

/-- **A compilation appends empty collections to a store and changes nothing else.** If the document
cannot be read or a definition cannot be compiled, the store is what it was. If all names are free,
all schemas are registered. If a name is taken, the schemas before the first such name are
registered, and removing their names leads back to the store as it was. -/
theorem compile_appends (s : Store) (config : Config) (spec : Value) :
    (∀ name c, s.get? name = some c → (s.compile config spec).1.get? name = some c) ∧
    ((∃ e, compileSpec config spec = .error e ∧ s.compile config spec = (s, .error e)) ∨
      ∃ schemas, compileSpec config spec = .ok schemas ∧
        ((s.Free (schemas.map (·.2)) ∧
          s.compile config spec = (s.appended (schemas.map (·.2)), .ok schemas)) ∨
          ∃ done taken rest, schemas.map (·.2) = done ++ taken :: rest ∧ s.Free done ∧
            taken.name ∈ s.names ++ done.map (·.name) ∧
            s.compile config spec = (s.appended done, .error (.nameTaken taken.name)) ∧
            (s.compile config spec).1.names = s.names ++ done.map (·.name) ∧
            (done.map (·.name)).foldl unregister (s.compile config spec).1 = s)) := by
  cases hspec : compileSpec config spec with
  | error e =>
    have hcompile : s.compile config spec = (s, .error e) := by rw [compile, hspec]
    rw [hcompile]
    exact ⟨fun _ _ hc => hc, .inl ⟨e, rfl, rfl⟩⟩
  | ok schemas =>
    by_cases hfree : s.Free (schemas.map (·.2))
    · have hcompile : s.compile config spec = (s.appended (schemas.map (·.2)), .ok schemas) := by
        rw [compile, hspec]
        simp only [registerAll_of_free hfree]
      rw [hcompile]
      exact ⟨fun _ _ hc => get?_appended hc _, .inr ⟨schemas, rfl, .inl ⟨hfree, rfl⟩⟩⟩
    · obtain ⟨done, taken, rest, hsplit, hdone, htaken, hall⟩ := registerAll_of_not_free hfree
      have hcompile : s.compile config spec = (s.appended done,
          .error (.nameTaken taken.name)) := by
        rw [compile, hspec]
        simp only [hall]
      rw [names_appended] at htaken
      rw [hcompile]
      refine ⟨fun _ _ hc => get?_appended hc _,
        .inr ⟨schemas, rfl, .inr ⟨done, taken, rest, hsplit, hdone, htaken, rfl, ?_⟩⟩⟩
      exact ⟨names_appended s done, unregister_appended hdone⟩

namespace Sample

/-- A document that defines a cat and a dog. -/
def pets : Value := .object [("definitions", .object [("Cat", .object []), ("Dog", .object [])])]

/-- A store that has dogs. -/
def kennel : Store := empty.appended [{ name := "Dog", fields := [], options := [] }]

end Sample

/-- Where there are dogs, the document of cats and dogs is refused, the dogs stay what they were,
and removing the cats leads back. -/
theorem compile_appends_cats :
    ∃ dogs, Sample.kennel.get? "Dog" = some dogs ∧
      (Sample.kennel.compile .initial Sample.pets).1.get? "Dog" = some dogs ∧
      (Sample.kennel.compile .initial Sample.pets).2.isOk = false ∧
      ["Cat"].foldl unregister (Sample.kennel.compile .initial Sample.pets).1 = Sample.kennel := by
  have hdogs : Sample.kennel.get? "Dog" =
    some (.ofSchema { name := "Dog", fields := [], options := [] }) := rfl
  obtain ⟨hkept, -⟩ := compile_appends Sample.kennel .initial Sample.pets
  exact ⟨_, hdogs, hkept "Dog" _ hdogs, by decide +kernel, by decide +kernel⟩

/-- It is refused as a whole and yet leaves the cats in the store: a failed compilation is not
undone. -/
theorem compile_keeps_cats :
    (Sample.kennel.compile .initial Sample.pets).2.isOk = false ∧ Sample.kennel.names = ["Dog"] ∧
      (Sample.kennel.compile .initial Sample.pets).1.names = ["Dog", "Cat"] := by
  decide +kernel

end ApiStore.Store
