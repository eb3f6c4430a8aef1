import ApiStore.Proofs.Insertion
/-
`Log.lean` -- a collection is a log of its successful insertions.

A collection is called in six ways, and only one of them changes it. `Collection.step` is one
call with its answer, `Collection.run` any number of them, some of which may fail. What a step
can do is said once (`step_cases`): the collection stays as it is, or the call is an insertion
that succeeds, and then the document that it answers with is appended. From that follows by
induction what a run leaves: the documents are the answers of its successful insertions, in
order (`run_documents`), and a run is worth as much as its insertions alone (`run_eq_insertAll`).

**What is in the log.** Every document has an identity, a revision number and times as far as
they are kept. Four writes come between the check of a document and its place in the log, and
a later one may hit the key of an earlier one: a revision number may be called `_id`, or have
the name of one of the times. `Collection.Managed` says what is left where they do not meet.
-/
set_option autoImplicit false

namespace ApiStore

namespace Collection

/-! ## 1. Calls -/

/-- A call to a collection. -/
inductive Call where
  | insert (stamp : Stamp) (document : Value)
  | find (filter : Entries Value)
  | findOne (filter : Entries Value)
  | count
  | prepare (document : Value)
  | validate (document : Value)

/-- What a call answers if it succeeds. -/
inductive Answer where
  | stored (document : Entries Value)
  | found (documents : List (Entries Value))
  | first (document : Option (Entries Value))
  | counted (n : Nat)
  | prepared (document : Entries Value)
  | checked (report : Report)

/-- One call: the collection that it leaves, and what it answers. -/
def step (c : Collection) : Call → Collection × Except Failure Answer
  | .insert stamp document =>
    match c.insert stamp document with
    | .ok (changed, stored) => (changed, .ok (.stored stored))
    | .error e => (c, .error e)
  | .find filter => (c, ((c.find filter).map .found).mapError .fault)
  | .findOne filter => (c, ((c.findOne filter).map .first).mapError .fault)
  | .count => (c, .ok (.counted c.count))
  | .prepare document => (c, ((c.prepare document).map .prepared).mapError .fault)
  | .validate document => (c, ((c.validate document).map .checked).mapError .fault)

/-- Calls one after another, with all their answers; one that fails does not end the run. -/
def run (c : Collection) : List Call → Collection × List (Except Failure Answer)
  | [] => (c, [])
  | call :: rest =>
    let next := c.step call
    let later := next.1.run rest
    (later.1, next.2 :: later.2)

/-- The document that an insertion answers with, if it succeeds. -/
def stored? : Except Failure Answer → Option (Entries Value)
  | .ok (.stored document) => some document
  | _ => none

/-- The documents that successful insertions answer with, in order. -/
def log (answers : List (Except Failure Answer)) : List (Entries Value) := answers.filterMap stored?

/-- A document has every value that a filter asks for. What it does not have counts as null. -/
def Matches (filter document : Entries Value) : Prop :=
  ∀ wanted ∈ filter, ((Entries.get? document wanted.1).getD .null).same wanted.2 = true

instance (filter document : Entries Value) : Decidable (Matches filter document) :=
  inferInstanceAs (Decidable (∀ wanted ∈ filter, _))

/-! ## 2. One call -/

/-- Only an insertion answers with a stored document. -/
theorem stored?_fault {α : Type} (x : Except Fault α) {f : α → Answer}
    (h : ∀ a, stored? (.ok (f a)) = none) :
    stored? ((x.map f).mapError .fault) = none := by
  cases x with
  | ok a => exact h a
  | error e => rfl

/-- **The step.** A call leaves the collection as it is and stores nothing, or it is an insertion
that appends the document that it answers with. -/
theorem step_cases (c : Collection) (call : Call) :
    ((c.step call).1 = c ∧ stored? (c.step call).2 = none) ∨
      ∃ stamp document stored, call = .insert stamp document ∧
        (c.step call).2 = .ok (.stored stored) ∧
        (c.step call).1 = { c with documents := c.documents ++ [stored] } ∧
        ∃ prepared own, c.Insertion stamp document prepared own stored := by
  cases call with
  | insert stamp document =>
    rw [step]
    cases h : c.insert stamp document with
    | error e => exact .inl ⟨rfl, rfl⟩
    | ok inserted =>
      obtain ⟨changed, stored⟩ := inserted
      obtain ⟨hinsertion, rfl⟩ := insert_eq_ok_iff.mp h
      exact .inr ⟨stamp, document, stored, rfl, rfl, rfl, hinsertion⟩
  | find filter => exact .inl ⟨rfl, stored?_fault _ fun _ => rfl⟩
  | findOne filter => exact .inl ⟨rfl, stored?_fault _ fun _ => rfl⟩
  | count => exact .inl ⟨rfl, rfl⟩
  | prepare document => exact .inl ⟨rfl, stored?_fault _ fun _ => rfl⟩
  | validate document => exact .inl ⟨rfl, stored?_fault _ fun _ => rfl⟩

/-- No call changes the schema. -/
theorem step_schema (c : Collection) (call : Call) : (c.step call).1.schema = c.schema := by
  rcases c.step_cases call with ⟨hsame, -⟩ | ⟨_, _, _, -, -, happended, -⟩
  · rw [hsame]
  · rw [happended]

/-- A call adds the document that it answers to have stored, and no other. -/
theorem step_documents (c : Collection) (call : Call) :
    (c.step call).1.documents = c.documents ++ (stored? (c.step call).2).toList := by
  rcases c.step_cases call with ⟨hsame, hnone⟩ | ⟨_, _, stored, -, hanswer, happended, -⟩
  · rw [hsame, hnone, Option.toList_none, List.append_nil]
  · rw [happended, hanswer]
    rfl

/-! ## 3. Any number of calls -/

/-- No run changes the schema. -/
theorem run_schema (c : Collection) (calls : List Call) : (c.run calls).1.schema = c.schema := by
  induction calls generalizing c with
  | nil => rfl
  | cons call rest ih => exact (ih _).trans (c.step_schema call)

/-- The log of answers is that of the first one, followed by that of the others. -/
theorem log_cons (answer : Except Failure Answer) (rest : List (Except Failure Answer)) :
    log (answer :: rest) = (stored? answer).toList ++ log rest := by
  rw [log, List.filterMap_cons]
  cases stored? answer <;> rfl

/-- **The run.** The documents afterwards are those from before and the answers of the successful
insertions, in order. -/
theorem run_documents (c : Collection) (calls : List Call) :
    (c.run calls).1.documents = c.documents ++ log (c.run calls).2 := by
  induction calls generalizing c with
  | nil => exact (List.append_nil _).symm
  | cons call rest ih =>
    change ((c.step call).1.run rest).1.documents = c.documents ++
      log ((c.step call).2 :: ((c.step call).1.run rest).2)
    rw [ih, step_documents, log_cons, List.append_assoc]

/-- What a call inserts, if it is an insertion. -/
def Call.insertion? : Call → Option (Stamp × Value)
  | .insert stamp document => some (stamp, document)
  | _ => none

/-- A run leaves what its insertions alone leave. -/
theorem run_eq_insertAll (c : Collection) (calls : List Call) :
    (c.run calls).1 = c.insertAll (calls.filterMap Call.insertion?) := by
  induction calls generalizing c with
  | nil => rfl
  | cons call rest ih =>
    cases call with
    | insert stamp document =>
      change ((c.step (.insert stamp document)).1.run rest).1 =
        c.insertAll ((stamp, document) :: rest.filterMap Call.insertion?)
      rw [ih, step, insertAll]
      cases c.insert stamp document <;> rfl
    | _ => exact ih c

/-! ## 4. What a stored document has -/

/-- What the collection sees to in a stored document, against the table that was supplied. -/
structure Managed (c : Collection) (stamp : Stamp) (table stored : Entries Value) : Prop where
  /-- There is an identity. -/
  identity : Entries.contains stored idKey = true
  /-- It is the one that was supplied, unless the revision number stands in its place. -/
  supplied : c.versionKey? ≠ .ok (some idKey) → ∀ id, Entries.get? table idKey = some id →
    Entries.get? stored idKey = some id
  /-- The revision number is zero, unless one of the times stands in its place. -/
  revision : ∀ key, c.versionKey? = .ok (some key) → (c.keepsTimes = true → key ∉ timeKeys) →
    Entries.get? stored key = some (.int 0)
  /-- Where times are kept, both are that of the insertion. -/
  times : c.keepsTimes = true → ∀ key ∈ timeKeys, Entries.get? stored key =
    some (.scalar (.dateTime stamp.now))

section Stored

variable {c : Collection} {stamp : Stamp} {document : Value} {prepared own stored : Entries Value}

/-- A supplied identity is still there when the document is prepared. -/
theorem get?_prepare_id (hp : c.prepare document = .ok prepared) :
    ∃ table, document.toTable = .ok table ∧
      ∀ id, Entries.get? table idKey = some id → Entries.get? prepared idKey = some id := by
  cases hfield : isField c.fields with
  | true =>
    obtain ⟨table, htable, hp⟩ := Outcome.bind_eq_ok_iff.mp hp
    rw [hfield, if_pos rfl] at hp
    obtain rfl := Except.ok.inj hp
    exact ⟨table, htable, fun _ hid => hid⟩
  | false =>
    obtain ⟨table, kept, htable, rfl, hkept⟩ := prepare_of_not_isField hfield hp
    refine ⟨table, htable, fun id hid => get?_withDefaults ?_⟩
    rcases hkept with ⟨-, rfl⟩ | ⟨-, managed, hmanaged, rfl⟩
    · exact hid
    · -- The identity is the first of the keys that the collection manages.
      obtain ⟨version, -, rfl⟩ := Outcome.map_eq_ok_iff.mp hmanaged
      rw [idKey, get?_restrict (by simp)]
      exact hid

/-- An identified document has an id. -/
theorem contains_identified (stamp : Stamp) (document : Entries Value) :
    Entries.contains (identified stamp document) idKey = true := by
  unfold identified
  split
  · assumption
  · rw [Entries.contains, Entries.get?_insert_self]
    rfl

/-- An id that a document has is kept. -/
theorem get?_identified_id {id : Value} (h : Entries.get? prepared idKey = some id) :
    Entries.get? (identified stamp prepared) idKey = some id := by
  rw [identified, if_pos (by rw [Entries.contains, h]; rfl)]
  exact h

/-- What is written: the revision number first, then the times. -/
theorem overlay_written (h : c.written stamp = .ok own) (base : Entries Value) :
    ∃ version, c.versionKey? = .ok version ∧ base.overlay own =
      (version.elim base fun key => base.insert key (.int 0)).overlay
        (if c.keepsTimes then timeKeys.map fun key =>
          (key, .scalar (.dateTime stamp.now)) else []) := by
  obtain ⟨version, hversion, rfl⟩ := Outcome.map_eq_ok_iff.mp h
  refine ⟨version, hversion, ?_⟩
  cases version <;> rfl

/-- Writing the times changes nothing under other keys. -/
theorem get?_overlay_times (base : Entries Value) {key : Scalar}
    (h : c.keepsTimes = true → key ∉ timeKeys) (now : Value) :
    Entries.get? (base.overlay (if c.keepsTimes then timeKeys.map fun time => (time, now) else []))
      key = Entries.get? base key := by
  split
  · rename_i hkeeps
    have hother := h hkeeps
    simp only [timeKeys, List.mem_cons, List.not_mem_nil, or_false, not_or] at hother
    change Entries.get? ((base.insert (.str "createdAt") now).insert (.str "updatedAt") now) key = _
    rw [Entries.get?_insert_of_ne _ hother.2, Entries.get?_insert_of_ne _ hother.1]
  · rfl

/-- An insertion stores a document that has all that the collection sees to. -/
theorem Insertion.managed (h : c.Insertion stamp document prepared own stored) :
    ∃ table, document.toTable = .ok table ∧ c.Managed stamp table stored := by
  obtain ⟨table, htable, hid⟩ := get?_prepare_id h.prepares
  obtain ⟨version, hversion, hstored⟩ := overlay_written h.writes (identified stamp prepared)
  rw [← h.stores] at hstored
  have hother : c.keepsTimes = true → idKey ∉ timeKeys := fun _ => by decide
  refine ⟨table, htable, ?_⟩
  constructor
  case identity =>
    rw [hstored, Entries.contains, get?_overlay_times _ hother, ← Entries.contains]
    cases version with
    | none => exact contains_identified stamp prepared
    | some key =>
      obtain ⟨id, hfound⟩ := Option.isSome_iff_exists.mp (contains_identified stamp prepared)
      rw [idKey] at hfound
      rw [Option.elim_some, idKey, Entries.contains, Entries.get?_insert_str, hfound]
      split <;> rfl
  case supplied =>
    intro hname id hsupplied
    rw [hstored, get?_overlay_times _ hother]
    have hkept : Entries.get? (identified stamp prepared) idKey = some id :=
      get?_identified_id (hid id hsupplied)
    cases version with
    | none => exact hkept
    | some key =>
      have hkey : key ≠ idKey := by
        rintro rfl
        exact hname hversion
      exact (Entries.get?_insert_str _ key _).trans ((if_neg hkey).trans hkept)
  case revision =>
    intro key hkey htimes
    obtain rfl : version = some key := Except.ok.inj (hversion.symm.trans hkey)
    rw [hstored, get?_overlay_times _ htimes, Option.elim_some, Entries.get?_insert_self]
  case times =>
    intro hkeeps key hkey
    rw [hstored, if_pos hkeeps]
    simp only [timeKeys, List.mem_cons, List.not_mem_nil, or_false] at hkey
    rcases hkey with rfl | rfl
    · exact (Entries.get?_insert_of_ne _ (by decide) _).trans (Entries.get?_insert_self _ _ _)
    · exact Entries.get?_insert_self _ _ _

end Stored

/-! ## 5. The log -/

/-- The check of a filter decides whether a document matches it. -/
theorem fits_eq_matches (filter document : Entries Value) :
    fits filter document = decide (Matches filter document) := by
  rw [Bool.eq_iff_iff, decide_eq_true_iff, fits, List.all_eq_true, Matches]

/-- A call leaves the collection as it is, or it is an insertion that appends the document that it
answers with. -/
theorem step_appends (c : Collection) (call : Call) :
    ((c.step call).1 = c ∧ stored? (c.step call).2 = none) ∨
      ∃ stamp document stored table, call = .insert stamp document ∧
        (c.step call).2 = .ok (.stored stored) ∧
        (c.step call).1 = { c with documents := c.documents ++ [stored] } ∧
        document.toTable = .ok table ∧ c.Managed stamp table stored := by
  rcases c.step_cases call with
    hsame | ⟨stamp, document, stored, hcall, hanswer, happended, prepared, own, hinsertion⟩
  · exact .inl hsame
  · obtain ⟨table, htable, hmanaged⟩ := hinsertion.managed
    exact .inr ⟨stamp, document, stored, table, hcall, hanswer, happended, htable, hmanaged⟩

/-- What is found after a run are the logged documents that match. -/
theorem find_run (schema : Schema) (calls : List Call) {filter : Entries Value}
    (hself : Entries.contains filter (.str "self") = false) :
    ((ofSchema schema).run calls).1.find filter =
      .ok ((log ((ofSchema schema).run calls).2).filter fun document =>
        Matches filter document) := by
  have hdocuments : ((ofSchema schema).run calls).1.documents =
      log ((ofSchema schema).run calls).2 :=
    run_documents _ calls
  rw [find, hself, if_neg Bool.false_ne_true, hdocuments]
  exact congrArg Except.ok (List.filter_congr fun document _ => fits_eq_matches filter document)

/-- A document of a collection after a run was stored by an insertion of the run. -/
theorem stored_by_run {schema : Schema} {calls : List Call} {stored : Entries Value}
    (h : stored ∈ ((ofSchema schema).run calls).1.documents) :
    ∃ stamp document table, .insert stamp document ∈ calls ∧ document.toTable = .ok table ∧
      (ofSchema schema).Managed stamp table stored := by
  rw [run_eq_insertAll] at h
  rcases mem_insertAll_iff.mp h with hbefore | ⟨stamp, document, prepared, own, hmem, hinsertion⟩
  · cases hbefore
  · obtain ⟨table, htable, hmanaged⟩ := hinsertion.managed
    obtain ⟨call, hcall, hinsert⟩ := List.mem_filterMap.mp hmem
    cases call with
    | insert _ _ =>
      cases hinsert
      exact ⟨stamp, document, table, hcall, htable, hmanaged⟩
    | _ => cases hinsert

/-- **A collection is an append-only log of its successful insertions.** Whatever calls are made to
the collection of a schema, in whatever order: each one leaves the collection as it is, or it is an
insertion that succeeds and appends the document that it answers with, which has what the collection
sees to. So without a filter exactly the answers of the successful insertions are found, in order,
and their number is counted; with a filter those of them are found that match it, in order, and the
first of them is found alone. Every document of the collection was stored by an insertion of the
run, and has its identity, its revision number and its times. -/
theorem run_is_log (schema : Schema) (calls : List Call) :
    (∀ (c : Collection) (call : Call), ((c.step call).1 = c ∧ stored? (c.step call).2 = none) ∨
      ∃ stamp document stored table, call = .insert stamp document ∧
        (c.step call).2 = .ok (.stored stored) ∧
        (c.step call).1 = { c with documents := c.documents ++ [stored] } ∧
        document.toTable = .ok table ∧ c.Managed stamp table stored) ∧
    ((ofSchema schema).run calls).1 =
      { schema := schema, documents := log ((ofSchema schema).run calls).2 } ∧
    ((ofSchema schema).run calls).1.find [] = .ok (log ((ofSchema schema).run calls).2) ∧
    ((ofSchema schema).run calls).1.count = (log ((ofSchema schema).run calls).2).length ∧
    (∀ filter, Entries.contains filter (.str "self") = false →
      ((ofSchema schema).run calls).1.find filter =
        .ok ((log ((ofSchema schema).run calls).2).filter fun document => Matches filter document) ∧
      ((ofSchema schema).run calls).1.findOne filter =
        .ok ((log ((ofSchema schema).run calls).2).filter fun document =>
          Matches filter document).head?) ∧
    ∀ stored ∈ ((ofSchema schema).run calls).1.documents, ∃ stamp document table,
      .insert stamp document ∈ calls ∧ document.toTable = .ok table ∧
        (ofSchema schema).Managed stamp table stored := by
  have hschema : ((ofSchema schema).run calls).1.schema = schema := run_schema _ calls
  have hdocuments : ((ofSchema schema).run calls).1.documents =
      log ((ofSchema schema).run calls).2 :=
    run_documents _ calls
  refine ⟨step_appends, ?_, ?_, ?_, ?_, fun stored hstored => stored_by_run hstored⟩
  · exact congrArg₂ Collection.mk hschema hdocuments
  · rw [find_run schema calls rfl]
    exact congrArg Except.ok (List.filter_eq_self.mpr fun document _ => decide_eq_true
      (by intro _ hnone; cases hnone))
  · rw [count, hdocuments]
  · intro filter hself
    refine ⟨find_run schema calls hself, ?_⟩
    rw [findOne, find_run schema calls hself]
    rfl

namespace Sample

/-- Tasks need a title, have times, and their revisions are numbered. -/
def task : Schema :=
  { name := "Task"
    fields := [(.str "title", .object [("type", .str "String"), ("required", .bool true)]),
      (.str "done", .object [("type", .str "Boolean"), ("default", .bool false)])]
    options := [(.str "timestamps", .bool true), (.str "versionKey", .str "revision")] }

def morning : Stamp :=
  { id := "65a1c0ffee65a1c0ffee65a2", now := ⟨⟨2024, 1, 13⟩, 8, 30, 0, 0, none⟩ }

/-- Two of the three tasks have a title. -/
def day : List Call :=
  [.insert morning (.object [("title", .str "Write"), ("_id", .int 7)]),
    .insert morning (.object [("done", .bool true)]),
    .validate (.object []), .find [(.str "done", .bool true)],
    .insert morning (.object [("title", .str "Read"), ("done", .bool true)]),
    .prepare (.object [("colour", .str "red")]), .findOne [(.str "title", .str "Write")], .count]

end Sample

/-- Of a day with tasks two are kept, each with its identity and revision zero; one of them is
done. -/
theorem run_is_log_of_tasks :
    ((ofSchema Sample.task).run Sample.day).1.count = 2 ∧
      (((ofSchema Sample.task).run Sample.day).1.documents.map fun document =>
        (Entries.get? document idKey, Entries.get? document (.str "revision"))) =
        [(some (.int 7), some (.int 0)), (some (.str Sample.morning.id), some (.int 0))] ∧
      ∃ document, ((ofSchema Sample.task).run Sample.day).1.find [(.str "done", .bool true)] =
        .ok [document] ∧ Entries.get? document (.str "title") = some (.str "Read") := by
  obtain ⟨-, hrun, -, hcount, hfind, -⟩ := run_is_log Sample.task Sample.day
  refine ⟨hcount.trans (by decide), ?_, _,
    (hfind [(.str "done", .bool true)] (by decide)).1.trans rfl, by decide⟩
  rw [hrun]
  decide

end Collection

end ApiStore
