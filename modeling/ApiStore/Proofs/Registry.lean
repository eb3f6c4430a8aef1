import ApiStore.Proofs.Log
import ApiStore.Proofs.Registration
import ApiStore.Proofs.Selection
/-
`Registry.lean` -- a registered name survives everything but its own removal.

A store has two levels of state, the list of its collections and the documents of each. It
is called in many ways, any of which may fail, and one of them, compiling a document into
it, is a row of registrations that can end midway. What a call leaves is said once, in
`step_cases`: collections are appended whose names were free, or the collections of one name
are gone, or one collection has made a call of its own. None of the three touches a
collection of another name.

**What is under a name.** All that is claimed is about looking up, so each of the three has
one lemma that says what is found under a name afterwards. From a registration of a name to
its removal that is one collection (`run_get?`): its schema stays, and its documents are
those from before and the answers of the insertions into it, in order. That a name is never
listed twice is an invariant of its own, since appending has to look for the name first.
-/
set_option autoImplicit false

namespace ApiStore.Store

variable {s : Store} {schemas : List Schema} {name : String} {c : Collection}

/-! ## 1. Calls -/

/-- A call to a store, or to the collection of a name in it. -/
inductive Call where
  | register (schema : Schema)
  | compile (config : Config) (spec : Value)
  | unregister (name : String)
  | list
  | contains (name : String)
  | get (name : String)
  | collection (name : String) (call : Collection.Call)

/-- What a call answers if it succeeds. -/
inductive Answer where
  | registered (collection : Collection)
  | compiled (schemas : Entries Schema)
  | unregistered (found : Bool)
  | listed (names : List String)
  | contained (found : Bool)
  | got (collection : Option Collection)
  | answered (answer : Collection.Answer)
  /-- There is no collection to call. -/
  | absent

/-- One call: the store that it leaves, and what it answers. -/
def step (s : Store) : Call → Store × Except Failure Answer
  | .register schema =>
    match s.register schema with
    | .ok t => (t, .ok (.registered (.ofSchema schema)))
    | .error e => (s, .error e)
  | .compile config spec => ((s.compile config spec).1, (s.compile config spec).2.map .compiled)
  | .unregister name => (s.unregister name, .ok (.unregistered (s.contains name)))
  | .list => (s, .ok (.listed s.names))
  | .contains name => (s, .ok (.contained (s.contains name)))
  | .get name => (s, .ok (.got (s.get? name)))
  | .collection name call =>
    match s.get? name with
    | none => (s, .ok .absent)
    | some c => (s.replace (c.step call).1, (c.step call).2.map .answered)

/-- A call that was made, and its answer. -/
abbrev Event := Call × Except Failure Answer

/-- Calls one after another, with all their answers; one that fails does not end the run. -/
def run (s : Store) : List Call → Store × List Event
  | [] => (s, [])
  | call :: rest =>
    let next := s.step call
    let later := next.1.run rest
    (later.1, (call, next.2) :: later.2)

/-- The document that was inserted into the collection of a name, if that is what happened. -/
def stored? (name : String) : Event → Option (Entries Value)
  | (.collection other _, .ok (.answered answer)) =>
    if other = name then Collection.stored? (.ok answer) else none
  | _ => none

/-- The documents that successful insertions into the collection of a name answer with, in order. -/
def log (name : String) (events : List Event) : List (Entries Value) :=
  events.filterMap (stored? name)

/-! ## 2. Names -/

theorem mem_names_iff : name ∈ s.names ↔ ∃ c, s.get? name = some c := by
  rw [← Option.isSome_iff_exists]
  change name ∈ s.names ↔ s.contains name = true
  rw [← not_iff_not, Bool.not_eq_true, contains_eq_false_iff]

/-- What is found under a name has that name. -/
theorem name_of_get? (h : s.get? name = some c) : c.name = name := by
  have hfound := List.find?_some h
  simpa using hfound

theorem names_replace (s : Store) (c : Collection) : (s.replace c).names = s.names := by
  rw [names, replace, List.map_map, names]
  refine List.map_congr_left fun d _ => ?_
  by_cases hd : d.name = c.name
  · simp [hd]
  · simp [hd]

theorem names_unregister (s : Store) (name : String) :
    (s.unregister name).names = s.names.filter (· != name) := by
  rw [names, unregister, names, List.filter_map]
  rfl

theorem names_nodup_appended (h : s.names.Nodup) (hfree : s.Free schemas) :
    (s.appended schemas).names.Nodup := by
  rw [names_appended, List.nodup_append]
  refine ⟨h, hfree.nodup, ?_⟩
  intro first hfirst second hsecond heq
  obtain ⟨schema, hschema, rfl⟩ := List.mem_map.mp hsecond
  exact hfree.free schema hschema (heq ▸ hfirst)

/-! ## 3. What is found under a name -/

/-- Of collections that were appended the first of a name is found, if there was none of that name
before. -/
theorem exists_get?_appended (hbefore : name ∉ s.names)
    (hafter : name ∈ (s.appended schemas).names) :
    ∃ schema, schema.name = name ∧ (s.appended schemas).get? name = some (.ofSchema schema) := by
  obtain ⟨c, hc⟩ := mem_names_iff.mp hafter
  have hnone : s.collections.find? (·.name == name) = none := by
    rw [← Option.not_isSome_iff_eq_none, Option.isSome_iff_exists]
    exact fun hsome => hbefore (mem_names_iff.mpr hsome)
  have hfound := hc
  rw [get?, appended, List.find?_append, hnone, Option.none_or] at hfound
  obtain ⟨schema, -, rfl⟩ := List.mem_map.mp (List.mem_of_find?_eq_some hfound)
  exact ⟨schema, name_of_get? hc, hc⟩

/-- Removing one name is no matter for the others. -/
theorem get?_unregister_of_ne {gone : String} (h : gone ≠ name) :
    (s.unregister gone).get? name = s.get? name := by
  rw [get?, unregister, List.find?_filter, get?]
  congr 1
  funext d
  by_cases hd : d.name = name
  · simp [hd, h.symm]
  · simp [hd]

/-- Putting a collection in its place changes what is found under its name, and nothing else. -/
theorem get?_replace (s : Store) (d : Collection) (name : String) :
    (s.replace d).get? name = (s.get? name).map fun c => if c.name == d.name then d else c := by
  rw [get?, replace, List.find?_map, get?]
  congr 2
  funext c
  change ((if c.name == d.name then d else c).name == name) = (c.name == name)
  split
  · rename_i hc
    rw [eq_of_beq hc]
  · rfl

/-- Where no name is listed twice, putting a collection back changes nothing. -/
theorem replace_self (h : s.names.Nodup) (hc : c ∈ s.collections) : s.replace c = s := by
  have hsame : ∀ d ∈ s.collections, (if d.name == c.name then c else d) = id d := by
    intro d hd
    split
    · rename_i hname
      have hfound := get?_of_mem h hd
      rw [eq_of_beq hname, get?_of_mem h hc] at hfound
      exact Option.some.inj hfound
    · rfl
  rw [replace, List.map_congr_left hsame, List.map_id]

/-! ## 4. One call -/

/-- A compilation, whatever it ends in, appends collections of names that were free. -/
theorem compile_appended (s : Store) (config : Config) (spec : Value) :
    ∃ schemas, s.Free schemas ∧ (s.compile config spec).1 = s.appended schemas := by
  have hnothing : s.Free [] := ⟨List.nodup_nil, nofun⟩
  cases hspec : compileSpec config spec with
  | error e =>
    refine ⟨[], hnothing, ?_⟩
    rw [compile, hspec, appended_nil]
  | ok schemas =>
    by_cases hfree : s.Free (schemas.map (·.2))
    · refine ⟨schemas.map (·.2), hfree, ?_⟩
      rw [compile, hspec]
      simp only [registerAll_of_free hfree]
    · obtain ⟨done, taken, rest, -, hdone, -, hall⟩ := registerAll_of_not_free hfree
      refine ⟨done, hdone, ?_⟩
      rw [compile, hspec]
      simp only [hall]

/-- A registration succeeds if the name is not listed, and otherwise it is refused and changes
nothing. -/
theorem step_register (s : Store) (schema : Schema) :
    s.step (.register schema) = if schema.name ∈ s.names then (s, .error (.nameTaken schema.name))
      else (s.appended [schema], .ok (.registered (.ofSchema schema))) := by
  split
  · rename_i hname
    rw [step, register_of_taken hname]
  · rename_i hname
    rw [step, register_of_free hname]

/-- **The step.** A call appends collections of free names and inserts nothing, or it removes a
name, or the collection of a name makes a call of its own. -/
theorem step_cases (s : Store) (call : Call) :
    (∃ schemas, s.Free schemas ∧ (s.step call).1 = s.appended schemas ∧
      ∀ name, stored? name (call, (s.step call).2) = none) ∨
    (∃ gone, call = .unregister gone ∧ (s.step call).1 = s.unregister gone ∧
      ∀ name, stored? name (call, (s.step call).2) = none) ∨
    ∃ name c own, call = .collection name own ∧ s.get? name = some c ∧
      (s.step call).1 = s.replace (c.step own).1 ∧
      (s.step call).2 = (c.step own).2.map .answered := by
  have hnothing : s.Free [] := ⟨List.nodup_nil, nofun⟩
  cases call with
  | register schema =>
    rw [step_register]
    split
    · exact .inl ⟨[], hnothing, (appended_nil s).symm, fun _ => rfl⟩
    · rename_i hname
      refine .inl ⟨[schema], ⟨List.nodup_singleton _, ?_⟩, rfl, fun _ => rfl⟩
      simpa using hname
  | compile config spec =>
    obtain ⟨schemas, hfree, happended⟩ := s.compile_appended config spec
    exact .inl ⟨schemas, hfree, happended, fun _ => rfl⟩
  | unregister gone => exact .inr (.inl ⟨gone, rfl, rfl, fun _ => rfl⟩)
  | list => exact .inl ⟨[], hnothing, (appended_nil s).symm, fun _ => rfl⟩
  | contains name => exact .inl ⟨[], hnothing, (appended_nil s).symm, fun _ => rfl⟩
  | get name => exact .inl ⟨[], hnothing, (appended_nil s).symm, fun _ => rfl⟩
  | collection name own =>
    rw [step]
    cases hc : s.get? name with
    | none => exact .inl ⟨[], hnothing, (appended_nil s).symm, fun _ => rfl⟩
    | some c => exact .inr (.inr ⟨name, c, own, rfl, hc, rfl, rfl⟩)

/-- No call lists a name twice. -/
theorem step_names_nodup (h : s.names.Nodup) (call : Call) : (s.step call).1.names.Nodup := by
  rcases s.step_cases call with ⟨schemas, hfree, hstep, -⟩ | ⟨gone, -, hstep, -⟩ |
    ⟨name, c, own, -, -, hstep, -⟩
  · rw [hstep]
    exact names_nodup_appended h hfree
  · rw [hstep, names_unregister]
    exact h.filter _
  · rw [hstep, names_replace]
    exact h

/-- Where a call brings a name into the list, an empty collection of a schema of that name is found
under it. -/
theorem step_registers {call : Call} (hbefore : name ∉ s.names)
    (hafter : name ∈ (s.step call).1.names) :
    ∃ schema, schema.name = name ∧ (s.step call).1.get? name = some (.ofSchema schema) := by
  rcases s.step_cases call with ⟨schemas, -, hstep, -⟩ | ⟨gone, -, hstep, -⟩ |
    ⟨other, c, own, -, -, hstep, -⟩
  · rw [hstep] at hafter ⊢
    exact exists_get?_appended hbefore hafter
  · rw [hstep, names_unregister] at hafter
    exact absurd (List.mem_filter.mp hafter).1 hbefore
  · rw [hstep, names_replace] at hafter
    exact absurd hafter hbefore

/-- What is found under a name is found there after any call but its removal, with the document that
the call inserted into it. -/
theorem step_get? {call : Call} (hc : s.get? name = some c) (hcall : call ≠ .unregister name) :
    (s.step call).1.get? name =
      some { c with
        documents := c.documents ++ (stored? name (call, (s.step call).2)).toList } := by
  have hkept : some { c with documents := c.documents ++ (none : Option (Entries Value)).toList } =
      some c := by
    rw [Option.toList_none, List.append_nil]
  rcases s.step_cases call with
    ⟨schemas, -, hstep, hnone⟩ | ⟨gone, rfl, hstep, hnone⟩ |
      ⟨other, d, own, rfl, hd, hstep, hanswer⟩
  · rw [hstep, hnone, hkept]
    exact get?_appended hc schemas
  · have hne : gone ≠ name := fun heq => hcall (heq ▸ rfl)
    rw [hstep, hnone, hkept, get?_unregister_of_ne hne, hc]
  · have hname : (d.step own).1.name = other := by
      rw [Collection.name, Collection.step_schema]
      exact name_of_get? hd
    rw [hstep, hanswer, get?_replace, hc, Option.map_some, hname, name_of_get? hc]
    by_cases hother : name = other
    · subst hother
      obtain rfl := Option.some.inj (hc.symm.trans hd)
      have hdocuments := c.step_documents own
      have hstored : stored? name (.collection name own, (c.step own).2.map .answered) =
          Collection.stored? (c.step own).2 := by
        cases (c.step own).2 with
        | ok answer => exact if_pos rfl
        | error e => rfl
      rw [if_pos (beq_self_eq_true name), hstored, ← hdocuments, ← c.step_schema own]
    · have hstored : stored? name (.collection other own, (d.step own).2.map .answered) = none := by
        cases (d.step own).2 with
        | ok answer => exact if_neg (Ne.symm hother)
        | error e => rfl
      rw [if_neg (by simpa using hother), hstored, hkept]

/-- An insertion by name is the insertion into the collection of that name. -/
theorem step_insert (h : s.names.Nodup) (name : String) (stamp : Stamp) (document : Value) :
    s.step (.collection name (.insert stamp document)) =
      ((s.insert name stamp document).1,
        match (s.insert name stamp document).2 with
        | none => .ok .absent
        | some outcome => outcome.map fun stored => .answered (.stored stored)) := by
  rw [step, insert]
  cases hc : s.get? name with
  | none => rfl
  | some c =>
    have hself : s.replace c = s := replace_self h (List.mem_of_find?_eq_some hc)
    simp only [Collection.step]
    cases c.insert stamp document with
    | ok inserted => rfl
    | error e => exact congrArg (·, Except.error e) hself

/-! ## 5. Any number of calls -/

theorem run_names_nodup (h : s.names.Nodup) (calls : List Call) : (s.run calls).1.names.Nodup := by
  induction calls generalizing s with
  | nil => exact h
  | cons call rest ih => exact ih (step_names_nodup h call)

theorem log_cons (name : String) (event : Event) (rest : List Event) :
    log name (event :: rest) = (stored? name event).toList ++ log name rest := by
  rw [log, List.filterMap_cons]
  cases stored? name event <;> rfl

/-- **The run.** As long as a name is not removed, the collection that is found under it is the one
from before, with the documents that were inserted into it appended in order. -/
theorem run_get? {calls : List Call} (hc : s.get? name = some c)
    (hcalls : .unregister name ∉ calls) :
    (s.run calls).1.get? name =
      some { c with documents := c.documents ++ log name (s.run calls).2 } := by
  induction calls generalizing s c with
  | nil =>
    change s.get? name = some { c with documents := c.documents ++ [] }
    rw [hc, List.append_nil]
  | cons call rest ih =>
    obtain ⟨hcall, hrest⟩ := List.ne_and_not_mem_of_not_mem_cons hcalls
    have hstep := step_get? hc (Ne.symm hcall)
    change ((s.step call).1.run rest).1.get? name =
      some { c with
        documents :=
          c.documents ++ log name ((call, (s.step call).2) :: ((s.step call).1.run rest).2) }
    rw [ih hstep hrest, log_cons, List.append_assoc]

/-! ## 6. Registered names -/

/-- A store that a run of calls leaves. -/
def Reached (s : Store) : Prop := ∃ calls, (empty.run calls).1 = s

/-- **A registered name survives everything but its own removal.** After any run of calls, some of
which may have failed: no name is listed twice; a name is in the store if and only if it is listed,
and if and only if a collection is found under it; a registration succeeds if its name is not
listed, and otherwise is refused and changes nothing. A call that brings a name into the list, a
compilation that fails later on among them, leaves an empty collection of a schema of that name. And
from then on until the name is removed, whatever is called in between and whether or not it fails,
the collection that is found under the name has the same schema and the same JSON Schema, and its
documents are those from before and the answers of the insertions into it, in order. -/
theorem registered_until_unregistered (h : s.Reached) :
    s.names.Nodup ∧
    (∀ name, (s.contains name = true ↔ name ∈ s.names) ∧
      (name ∈ s.names ↔ ∃ c, s.get? name = some c)) ∧
    (∀ schema, s.step (.register schema) =
      if schema.name ∈ s.names then (s, .error (.nameTaken schema.name))
      else (s.appended [schema], .ok (.registered (.ofSchema schema)))) ∧
    (∀ call name, name ∉ s.names → name ∈ (s.step call).1.names →
      ∃ schema, schema.name = name ∧ (s.step call).1.get? name = some (.ofSchema schema)) ∧
    ∀ later name c, s.get? name = some c → .unregister name ∉ later →
      ∃ d, (s.run later).1.get? name = some d ∧ d.schema = c.schema ∧ d.jsonSchema = c.jsonSchema ∧
        d.documents = c.documents ++ log name (s.run later).2 := by
  obtain ⟨calls, rfl⟩ := h
  have hempty : empty.names.Nodup := List.nodup_nil
  refine ⟨run_names_nodup hempty calls, fun name => ⟨?_, mem_names_iff⟩, step_register _,
    fun call name => step_registers, ?_⟩
  · rw [mem_names_iff]
    exact Option.isSome_iff_exists
  · intro later name c hc hlater
    exact ⟨_, run_get? hc hlater, rfl, rfl, rfl⟩

namespace Sample

/-- Dogs have a name, and cats are whatever they are. -/
def dog : Schema :=
  { name := "Dog", fields := [(.str "name", .object [("type", .str "String")])], options := [] }

def noon : Stamp := { id := "65a1c0ffee65a1c0ffee65a3", now := ⟨⟨2024, 1, 13⟩, 12, 0, 0, 0, none⟩ }

/-- A dog moves in; cats are registered by a compilation that the dogs end, and removed; a dog has
to have a text for a name; another dog moves in. -/
def days : List Call :=
  [.collection "Dog" (.insert noon (.object [("name", .str "Rex")])), .compile .initial pets,
    .unregister "Cat", .collection "Dog" (.insert noon (.object [("name", .int 7)])), .register dog,
    .collection "Dog" (.insert noon (.object [("name", .str "Bo")])), .list]

end Sample

/-- After all that there are two dogs, in the order in which they moved in. The compilation that
fails leaves cats, none so far. -/
theorem registered_until_unregistered_dogs :
    ∃ s : Store, s.Reached ∧ s.names = ["Dog"] ∧
      (∃ d, (s.run Sample.days).1.get? "Dog" = some d ∧ d.schema = Sample.dog ∧
        d.documents.map (Entries.get? · (.str "name")) = [some (.str "Rex"), some (.str "Bo")]) ∧
      (s.compile .initial Sample.pets).2.isOk = false ∧
      ∃ schema, schema.name = "Cat" ∧
        (s.step (.compile .initial Sample.pets)).1.get? "Cat" = some (.ofSchema schema) := by
  have hreached : (empty.run [.register Sample.dog]).1.Reached := ⟨_, rfl⟩
  obtain ⟨-, -, -, hregisters, hkeeps⟩ := registered_until_unregistered hreached
  refine ⟨_, hreached, rfl, ?_,
    by decide +kernel, hregisters _ "Cat" (by decide) (by decide +kernel)⟩
  obtain ⟨d, hd, hschema, -, hdocuments⟩ :=
    hkeeps Sample.days "Dog" (.ofSchema Sample.dog) rfl (by simp [Sample.days])
  refine ⟨d, hd, hschema, ?_⟩
  rw [hdocuments]
  decide +kernel

end ApiStore.Store
