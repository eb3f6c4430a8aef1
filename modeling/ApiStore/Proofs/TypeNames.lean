import ApiStore.StorageType
import ApiStore.Proofs.Outcome
import ApiStore.Proofs.Value
import Mathlib.Data.List.Induction
import Mathlib.Data.List.Nodup
/-
`TypeNames.lean` -- what a type name means, and where it is listed.

The table of type names is called in six ways. Three of them ask, and of the others two bind a
name and one removes one. The table starts empty: that every type has its own name, and that
a configuration adds aliases, are calls like any other.

**Calls and changes.** What a call does depends on the table: an alias is bound to what its
target is bound to at the time, and one of an unknown target fails. So each call is first read
as a change, a name bound to a type or a name removed, or as none (`change?`). From there on
nothing depends on the table any more. A name means what its last change says
(`get?_ofChanges`), and the names are listed in the order in which they came in, which is the
first binding after the last removal (`names_ofChanges_pairwise`). Both are by induction on
the changes from the last one backwards.
-/
set_option autoImplicit false

namespace ApiStore

namespace TypeTable

/-! ## 1. Calls and changes -/

/-- A call to the table of type names. -/
inductive Call where
  | register (name : String) (type : StorageType)
  | addAlias (name : String) (target : Value)
  | unregister (name : String)
  | get (name : String)
  | contains (name : String)
  | list

/-- What a call answers if it succeeds. -/
inductive Answer where
  | bound
  | unregistered (found : Bool)
  | got (type : Option StorageType)
  | contained (found : Bool)
  | listed (names : List String)

/-- One call: the table that it leaves, and what it answers. -/
def step (table : TypeTable) : Call → TypeTable × Except CompileError Answer
  | .register name type => (table.register name type, .ok .bound)
  | .addAlias name target =>
    match table.addAlias name target with
    | .ok next => (next, .ok .bound)
    | .error e => (table, .error e)
  | .unregister name => (table.unregister name, .ok (.unregistered (table.contains name)))
  | .get name => (table, .ok (.got (table.get? name)))
  | .contains name => (table, .ok (.contained (table.contains name)))
  | .list => (table, .ok (.listed table.names))

/-- The table after calls, one after another; one that fails does not end them. -/
def after (table : TypeTable) (calls : List Call) : TypeTable :=
  calls.foldl (fun table call => (table.step call).1) table

/-- The name that a call is about. -/
def Call.name? : Call → Option String
  | .register name _ | .addAlias name _ | .unregister name | .get name | .contains name => some name
  | .list => none

/-- A change of what a name means. -/
inductive Change where
  | bound (name : String) (type : StorageType)
  | removed (name : String)
  deriving DecidableEq

/-- The name that is changed. -/
def Change.name : Change → String
  | .bound name _ | .removed name => name

/-- What the name means from then on. -/
def Change.type? : Change → Option StorageType
  | .bound _ type => some type
  | .removed _ => none

/-- The change that a call makes. An alias is bound to what its target is bound to at the time. -/
def change? (table : TypeTable) : Call → Option Change
  | .register name type => some (.bound name type)
  | .addAlias name target => (target.text?.bind table.get?).map (.bound name)
  | .unregister name => some (.removed name)
  | .get _ | .contains _ | .list => none

/-- The changes that calls make, one after another. -/
def changes (table : TypeTable) : List Call → List Change
  | [] => []
  | call :: rest => (table.change? call).toList ++ (table.step call).1.changes rest

/-- The table without names. -/
def empty : TypeTable := ⟨[]⟩

/-- Every type gets its own name. -/
def ownNames : List Call := StorageType.all.map fun t => .register t.name t

/-- Names get their aliases, in order. -/
def aliasCalls (aliases : List (String × Value)) : List Call :=
  aliases.map fun (name, target) => .addAlias name target

/-! ## 2. What changes come to -/

/-- The last change of a name binds it to a type. -/
def LastBound (changes : List Change) (name : String) (type : StorageType) : Prop :=
  ∃ before later, changes = before ++ .bound name type :: later ∧
    ∀ change ∈ later, change.name ≠ name

/-- Whether a name comes in with the change of an index: it is bound there, it is not removed later,
and if it was bound before it has been removed since. -/
structure Enters (changes : List Change) (name : String) (i : ℕ) : Prop where
  bound : ∃ type, changes[i]? = some (.bound name type)
  stays : ∀ j, i < j → changes[j]? ≠ some (.removed name)
  fresh : ∀ j < i, ∀ type, changes[j]? = some (.bound name type) → ∃ k < i, j < k ∧
    changes[k]? = some (.removed name)

/-- The table after one change. -/
def apply (table : TypeTable) : Change → TypeTable
  | .bound name type => table.register name type
  | .removed name => table.unregister name

/-- The table that changes come to. -/
def ofChanges (changes : List Change) : TypeTable := changes.foldl apply empty

theorem ofChanges_append (changes : List Change) (change : Change) :
    ofChanges (changes ++ [change]) = (ofChanges changes).apply change := by
  rw [ofChanges, List.foldl_append, ← ofChanges]
  rfl

/-! ## 3. One change -/

/-- A name that is bound means what it is bound to, and every other name what it meant. -/
theorem get?_register (table : TypeTable) (name other : String) (type : StorageType) :
    (table.register name type).get? other =
      if name = other then some type else table.get? other := by
  unfold register
  split
  · rename_i hbound
    have hnames : ∀ binding : String × StorageType,
        (if binding.1 == name then (binding.1, type) else (binding.1, binding.2)).1 =
          binding.1 := by
      intro binding
      split <;> rfl
    rw [contains, get?] at hbound
    rw [get?, get?, List.find?_map]
    simp only [Function.comp_def, hnames]
    cases hfind : table.bindings.find? (fun binding => binding.1 == other) with
    | none =>
      have hne : name ≠ other := by
        rintro rfl
        simp [hfind] at hbound
      rw [if_neg hne]
      rfl
    | some binding =>
      have hname : binding.1 = other := by simpa using List.find?_some hfind
      by_cases hother : name = other
      · simp [hname, hother]
      · simp [hname, hother, Ne.symm hother]
  · rename_i hfresh
    rw [contains, get?, Option.isSome_map] at hfresh
    rw [get?, get?, List.find?_append]
    by_cases hother : name = other
    · subst hother
      simp [Option.not_isSome_iff_eq_none.mp hfresh]
    · simp [hother]

/-- A name that is removed means nothing, and every other name what it meant. -/
theorem get?_unregister (table : TypeTable) (name other : String) :
    (table.unregister name).get? other = if name = other then none else table.get? other := by
  rw [get?, unregister, List.find?_filter, get?]
  by_cases hother : name = other
  · subst hother
    simp
  · rw [if_neg hother]
    congr 2
    funext binding
    by_cases hname : binding.1 = other
    · simp [hname, Ne.symm hother]
    · simp [hname]

theorem contains_iff {table : TypeTable} {name : String} :
    table.contains name = true ↔ name ∈ table.names := by
  rw [contains, get?, Option.isSome_map, List.find?_isSome, names, List.mem_map]
  simp

/-- The names that are listed are those that mean something. -/
theorem mem_names_iff {table : TypeTable} {name : String} :
    name ∈ table.names ↔ table.get? name ≠ none := by
  rw [← contains_iff, contains, Option.isSome_iff_ne_none]

/-- A name that is bound keeps its place, and a new one is listed last. -/
theorem names_register (table : TypeTable) (name : String) (type : StorageType) :
    (table.register name type).names = if name ∈ table.names then table.names else table.names ++
    [name] := by
  rw [register]
  by_cases hname : name ∈ table.names
  · rw [if_pos hname, if_pos (contains_iff.mpr hname), names, List.map_map, names]
    refine List.map_congr_left fun binding _ => ?_
    change (if binding.1 == name then (binding.1, type) else (binding.1, binding.2)).1 = binding.1
    split <;> rfl
  · rw [if_neg hname, if_neg (contains_iff.not.mpr hname), names, List.map_append, names]
    rfl

theorem names_unregister (table : TypeTable) (name : String) :
    (table.unregister name).names = table.names.filter (· != name) := by
  rw [names, unregister, names, List.filter_map]
  rfl

/-- A change settles what its own name means. -/
theorem get?_apply (table : TypeTable) (change : Change) (name : String) :
    (table.apply change).get? name =
      if change.name = name then change.type? else table.get? name := by
  cases change with
  | bound other type => exact get?_register table other name type
  | removed other => exact get?_unregister table other name

theorem names_apply_nodup {table : TypeTable} (h : table.names.Nodup) (change : Change) :
    (table.apply change).names.Nodup := by
  cases change with
  | bound name type =>
    rw [apply, names_register]
    split
    · exact h
    · rename_i hname
      exact h.append (List.nodup_singleton name) (List.disjoint_singleton.mpr hname)
  | removed name =>
    rw [apply, names_unregister]
    exact h.filter _

/-! ## 4. Any number of changes -/

/-- Only the last change of a name matters for what it means. -/
theorem lastBound_append {changes : List Change} {change : Change} {name : String}
    {type : StorageType} :
    LastBound (changes ++ [change]) name type ↔
      if change.name = name then change = .bound name type else LastBound changes name type := by
  constructor
  · rintro ⟨before, later, hsplit, hlater⟩
    rcases List.eq_nil_or_concat' later with rfl | ⟨others, last, rfl⟩
    · obtain ⟨rfl, hchange⟩ := List.append_inj' hsplit rfl
      obtain rfl := List.singleton_inj.mp hchange
      exact (if_pos rfl).mpr rfl
    · rw [← List.cons_append, ← List.append_assoc] at hsplit
      obtain ⟨rfl, hchange⟩ := List.append_inj' hsplit rfl
      obtain rfl := List.singleton_inj.mp hchange
      rw [if_neg (hlater _ (List.mem_append_right _ (List.mem_singleton_self _)))]
      exact ⟨before, others, rfl, fun other hother => hlater other (List.mem_append_left _ hother)⟩
  · split
    · rintro rfl
      exact ⟨changes, [], rfl, nofun⟩
    · rename_i hne
      rintro ⟨before, later, rfl, hlater⟩
      refine ⟨before, later ++ [change], by simp, ?_⟩
      intro other hother
      rcases List.mem_append.mp hother with hmem | hmem
      · exact hlater other hmem
      · exact List.mem_singleton.mp hmem ▸ hne

/-- **A name means what its last change says.** -/
theorem get?_ofChanges (changes : List Change) (name : String) (type : StorageType) :
    (ofChanges changes).get? name = some type ↔ LastBound changes name type := by
  induction changes using List.reverseRecOn with
  | nil =>
    constructor
    · intro h
      cases h
    · rintro ⟨before, later, hsplit, -⟩
      exact absurd hsplit.symm (by simp)
  | append_singleton earlier change ih =>
    rw [ofChanges_append, get?_apply, lastBound_append]
    split
    · rename_i hname
      subst hname
      cases change <;> simp [Change.name, Change.type?]
    · exact ih

theorem names_ofChanges_nodup (changes : List Change) : (ofChanges changes).names.Nodup := by
  induction changes using List.reverseRecOn with
  | nil => exact List.nodup_nil
  | append_singleton earlier change ih =>
    rw [ofChanges_append]
    exact names_apply_nodup ih change

/-- A name that is not listed was removed after every binding of it. -/
theorem exists_removed {changes : List Change} {name : String}
    (h : name ∉ (ofChanges changes).names) {i : ℕ} {type : StorageType}
    (hi : changes[i]? = some (.bound name type)) :
    ∃ k < changes.length, i < k ∧ changes[k]? = some (.removed name) := by
  induction changes using List.reverseRecOn with
  | nil => simp at hi
  | append_singleton earlier change ih =>
    rw [mem_names_iff, not_not, ofChanges_append, get?_apply] at h
    obtain ⟨hlt, -⟩ := List.getElem?_eq_some_iff.mp hi
    rw [List.length_append, List.length_singleton] at hlt ⊢
    -- The last change is the removal that is looked for, or one of another name.
    by_cases hname : change.name = name
    · rw [if_pos hname] at h
      cases change with
      | bound other t => cases h
      | removed other =>
        obtain rfl : other = name := hname
        have hne : i ≠ earlier.length := by
          rintro rfl
          simp at hi
        exact ⟨earlier.length, by omega, by omega, by simp⟩
    · rw [if_neg hname] at h
      have hne : i ≠ earlier.length := by
        rintro rfl
        simp only [List.getElem?_concat_length, Option.some.injEq] at hi
        exact hname (hi ▸ rfl)
      rw [List.getElem?_append_left (by omega)] at hi
      obtain ⟨k, hk, hik, hremoved⟩ := ih (by rwa [mem_names_iff, not_not]) hi
      exact ⟨k, by omega, hik, by rwa [List.getElem?_append_left hk]⟩

/-- Where a name comes in it comes in, whatever happens to other names later. -/
theorem Enters.append {changes : List Change} {name : String} {i : ℕ} (h : Enters changes name i)
    {change : Change} (hchange : change ≠ .removed name) : Enters (changes ++ [change]) name i := by
  obtain ⟨⟨type, htype⟩, hstays, hfresh⟩ := h
  obtain ⟨hlt, -⟩ := List.getElem?_eq_some_iff.mp htype
  refine ⟨⟨type, by rwa [List.getElem?_append_left hlt]⟩, ?_, ?_⟩
  · intro j hj hremoved
    obtain ⟨hbound, -⟩ := List.getElem?_eq_some_iff.mp hremoved
    rw [List.length_append, List.length_singleton] at hbound
    by_cases hlast : j = changes.length
    · subst hlast
      rw [List.getElem?_concat_length] at hremoved
      exact hchange (Option.some.inj hremoved)
    · rw [List.getElem?_append_left (by omega)] at hremoved
      exact hstays j hj hremoved
  · intro j hj t hbound
    rw [List.getElem?_append_left (by omega)] at hbound
    obtain ⟨k, hk, hjk, hremoved⟩ := hfresh j hj t hbound
    exact ⟨k, hk, hjk, by rwa [List.getElem?_append_left (by omega)]⟩

/-- A name that is not listed comes in with its next binding. -/
theorem enters_of_not_mem {changes : List Change} {name : String}
    (h : name ∉ (ofChanges changes).names) (type : StorageType) :
    Enters (changes ++ [.bound name type]) name changes.length := by
  refine ⟨⟨type, List.getElem?_concat_length⟩, ?_, ?_⟩
  · intro j hj hremoved
    rw [List.getElem?_eq_none (by simp; omega)] at hremoved
    cases hremoved
  · intro j hj t hbound
    rw [List.getElem?_append_left hj] at hbound
    obtain ⟨k, hk, hjk, hremoved⟩ := exists_removed h hbound
    exact ⟨k, hk, hjk, by rwa [List.getElem?_append_left hk]⟩

/-- A name comes in once. -/
theorem Enters.unique {changes : List Change} {name : String} {i j : ℕ} (hi : Enters changes name i)
    (hj : Enters changes name j) : i = j := by
  have hnot : ∀ {i j : ℕ}, Enters changes name i → Enters changes name j → ¬ i < j := by
    intro i j hi hj hlt
    obtain ⟨type, htype⟩ := hi.bound
    obtain ⟨k, -, hik, hremoved⟩ := hj.fresh i hlt type htype
    exact hi.stays k hik hremoved
  exact Nat.le_antisymm (Nat.not_lt.mp (hnot hj hi)) (Nat.not_lt.mp (hnot hi hj))

/-- A name that is listed has come in. -/
theorem exists_enters {changes : List Change} {name : String}
    (h : name ∈ (ofChanges changes).names) :
    ∃ i < changes.length, Enters changes name i := by
  suffices hsome : ∃ i, Enters changes name i by
    obtain ⟨i, hi⟩ := hsome
    obtain ⟨type, htype⟩ := hi.bound
    exact ⟨i, (List.getElem?_eq_some_iff.mp htype).1, hi⟩
  induction changes using List.reverseRecOn with
  | nil => cases h
  | append_singleton earlier change ih =>
    rw [ofChanges_append] at h
    by_cases hearlier : name ∈ (ofChanges earlier).names
    -- It came in earlier, and the last change does not remove it, or it would not be listed now.
    · obtain ⟨i, hi⟩ := ih hearlier
      refine ⟨i, hi.append ?_⟩
      rintro rfl
      simp [apply, names_unregister] at h
    · cases change with
      | bound other type =>
        rw [apply, names_register] at h
        split at h
        · exact absurd h hearlier
        · obtain rfl : name = other := by simpa [hearlier] using h
          exact ⟨_, enters_of_not_mem hearlier type⟩
      | removed other =>
        rw [apply, names_unregister] at h
        exact absurd (List.mem_filter.mp h).1 hearlier

/-- **The order of the names** is that in which they came in. -/
theorem names_ofChanges_pairwise (changes : List Change) :
    (ofChanges changes).names.Pairwise fun first second =>
      ∃ i j, i < j ∧ Enters changes first i ∧ Enters changes second j := by
  induction changes using List.reverseRecOn with
  | nil => exact .nil
  | append_singleton earlier change ih =>
    rw [ofChanges_append]
    cases change with
    | bound name type =>
      have hold : (ofChanges earlier).names.Pairwise fun first second => ∃ i j, i < j ∧
          Enters (earlier ++ [.bound name type]) first i ∧
            Enters (earlier ++ [.bound name type]) second j :=
        ih.imp fun ⟨i, j, hij, hi, hj⟩ => ⟨i, j, hij, hi.append nofun, hj.append nofun⟩
      rw [apply, names_register]
      split
      · exact hold
      -- A new name is listed last, and comes in with the last change.
      · rename_i hname
        refine List.pairwise_append.mpr ⟨hold, List.pairwise_singleton _ _, ?_⟩
        intro first hfirst second hsecond
        obtain rfl := List.mem_singleton.mp hsecond
        obtain ⟨i, hlt, hi⟩ := exists_enters hfirst
        exact ⟨i, earlier.length, hlt, hi.append nofun, enters_of_not_mem hname type⟩
    | removed name =>
      rw [apply, names_unregister]
      have hkept : ∀ other ∈ (ofChanges earlier).names.filter (· != name),
          Change.removed name ≠ .removed other := by
        rintro other hother heq
        simp [Change.removed.inj heq] at hother
      refine (ih.filter _).imp_of_mem ?_
      rintro first second hfirst hsecond ⟨i, j, hij, hi, hj⟩
      exact ⟨i, j, hij, hi.append (hkept first hfirst), hj.append (hkept second hsecond)⟩

/-! ## 5. One call -/

variable {table : TypeTable}

/-- A call leaves what its change makes of the table. -/
theorem step_table (table : TypeTable) (call : Call) :
    (table.step call).1 = (table.change? call).elim table table.apply := by
  cases call with
  | addAlias name target =>
    rw [step, change?, addAlias]
    cases target.text?.bind table.get? <;> rfl
  | _ => rfl

/-- The change of a call is one of the name that the call is about. -/
theorem name?_of_change? {call : Call} {change : Change} (h : table.change? call = some change) :
    call.name? = some change.name := by
  cases call with
  | addAlias name target =>
    obtain ⟨type, -, rfl⟩ := Option.map_eq_some_iff.mp h
    rfl
  | register name type => exact Option.some.inj h ▸ rfl
  | unregister name => exact Option.some.inj h ▸ rfl
  | _ => cases h

/-- A call is no matter for the names that it is not about. -/
theorem get?_step_of_ne {call : Call} {name : String} (h : call.name? ≠ some name) :
    (table.step call).1.get? name = table.get? name := by
  rw [step_table]
  cases hchange : table.change? call with
  | none => rfl
  | some change =>
    rw [Option.elim_some, get?_apply, if_neg]
    rintro rfl
    exact h (name?_of_change? hchange)

/-- Only an alias of an unknown target fails. It changes nothing. -/
theorem step_eq_error {call : Call} {e : CompileError} (h : (table.step call).2 = .error e) :
    (table.step call).1 = table ∧
      ∃ name target, call = .addAlias name target ∧ target.text?.bind table.get? = none ∧
        e = .unknownAliasTarget name target := by
  cases call with
  | addAlias name target =>
    cases hbound : target.text?.bind table.get? with
    | none =>
      simp only [step, addAlias, hbound] at h ⊢
      exact ⟨trivial, name, target, rfl, hbound, (Except.error.inj h).symm⟩
    | some type =>
      simp only [step, addAlias, hbound] at h
      cases h
  | _ => cases h

/-! ## 6. Any number of calls -/

/-- What a table comes to with further calls is what all the changes come to. -/
theorem after_ofChanges (earlier : List Change) (calls : List Call) :
    (ofChanges earlier).after calls = ofChanges (earlier ++ (ofChanges earlier).changes calls) := by
  induction calls generalizing earlier with
  | nil => rw [changes, List.append_nil, after, List.foldl_nil]
  | cons call rest ih =>
    -- The call is another change at the end, or none, and the rest starts from there.
    have hstep : ((ofChanges earlier).step call).1 =
        ofChanges (earlier ++ ((ofChanges earlier).change? call).toList) := by
      rw [step_table]
      cases (ofChanges earlier).change? call with
      | none => rw [Option.toList_none, List.append_nil, Option.elim_none]
      | some change => rw [Option.toList_some, ofChanges_append, Option.elim_some]
    rw [changes, ← List.append_assoc, hstep, ← ih, ← hstep]
    rfl

theorem after_append (table : TypeTable) (calls more : List Call) :
    table.after (calls ++ more) = (table.after calls).after more :=
  List.foldl_append

/-! ## 7. The aliases of a configuration -/

/-- Aliases of which each one's target is the name of a type or the alias of an earlier entry. -/
def Ordered (aliases : List (String × Value)) : Prop :=
  ∀ before name target later, aliases = before ++ (name, target) :: later →
    ∃ known, target = .str known ∧ ((∃ t : StorageType, t.name = known) ∨ known ∈ before.map (·.1))

/-- Adds aliases to a table, in order. -/
def addAliases (table : TypeTable) (aliases : List (String × Value)) :
    Except CompileError TypeTable :=
  aliases.foldlM (fun table (name, target) => table.addAlias name target) table

/-- Only a text that is bound has a type. -/
theorem text?_bind_get? {target : Value} {type : StorageType} :
    target.text?.bind table.get? = some type ↔ ∃ known, target = .str known ∧
      table.get? known = some type := by
  simp only [Option.bind_eq_some_iff, Value.text?_eq_some_iff]

theorem addAlias_eq_ok_iff {name : String} {target : Value} {next : TypeTable} :
    table.addAlias name target = .ok next ↔
      ∃ known type, target = .str known ∧ table.get? known = some type ∧
        table.register name type = next := by
  rw [addAlias]
  cases hbound : target.text?.bind table.get? with
  | none =>
    constructor
    · intro h
      cases h
    · rintro ⟨known, type, rfl, hget, -⟩
      rw [text?_bind_get?.mpr ⟨known, rfl, hget⟩] at hbound
      cases hbound
  | some type =>
    obtain ⟨known, rfl, hget⟩ := text?_bind_get?.mp hbound
    constructor
    · intro h
      exact ⟨known, type, rfl, hget, Except.ok.inj h⟩
    · rintro ⟨other, t, hother, ht, rfl⟩
      obtain rfl : known = other := by simpa using hother
      rw [Option.some.inj (hget.symm.trans ht)]

theorem addAliases_cons (table : TypeTable) (name : String) (target : Value)
    (rest : List (String × Value)) :
    addAliases table ((name, target) :: rest) = table.addAlias name target >>=
      fun next => addAliases next rest :=
  List.foldlM_cons

/-- One alias after another. -/
theorem addAliases_cons_iff {name : String} {target : Value} {rest : List (String × Value)}
    {next : TypeTable} :
    addAliases table ((name, target) :: rest) = .ok next ↔
      ∃ known type, target = .str known ∧ table.get? known = some type ∧
        addAliases (table.register name type) rest = .ok next := by
  rw [addAliases_cons, Outcome.bind_eq_ok_iff]
  constructor
  · rintro ⟨first, hfirst, hrest⟩
    obtain ⟨known, type, htarget, hget, rfl⟩ := addAlias_eq_ok_iff.mp hfirst
    exact ⟨known, type, htarget, hget, hrest⟩
  · rintro ⟨known, type, htarget, hget, hrest⟩
    exact ⟨_, addAlias_eq_ok_iff.mpr ⟨known, type, htarget, hget, rfl⟩, hrest⟩

/-- Aliases can be added to a table if each one's target is in the table or the alias of an earlier
entry. -/
theorem exists_addAliases_iff {aliases : List (String × Value)} :
    (∃ next, addAliases table aliases = .ok next) ↔
      ∀ before name target later, aliases = before ++ (name, target) :: later →
        ∃ known, target = .str known ∧ (table.get? known ≠ none ∨ known ∈ before.map (·.1)) := by
  induction aliases generalizing table with
  | nil => exact ⟨fun _ before _ _ _ hsplit => absurd hsplit.symm (by simp), fun _ => ⟨table, rfl⟩⟩
  | cons first rest ih =>
    obtain ⟨other, target⟩ := first
    constructor
    · rintro ⟨next, h⟩ before name goal later hsplit
      obtain ⟨known, type, rfl, hget, hrest⟩ := addAliases_cons_iff.mp h
      rcases List.cons_eq_append_iff.mp hsplit with ⟨rfl, hfirst⟩ | ⟨others, rfl, hothers⟩
      · obtain ⟨hentry, -⟩ := List.cons.inj hfirst
        obtain ⟨-, rfl⟩ := Prod.mk.inj hentry
        exact ⟨known, rfl, .inl (by simp [hget])⟩
      · obtain ⟨s, hs, hknown⟩ := ih.mp ⟨next, hrest⟩ others name goal later hothers
        refine ⟨s, hs, ?_⟩
        rw [get?_register] at hknown
        by_cases hsame : other = s
        · exact .inr (List.mem_cons.mpr (.inl hsame.symm))
        · rw [if_neg hsame] at hknown
          exact hknown.imp id (List.mem_cons_of_mem _)
    · intro h
      obtain ⟨known, rfl, hknown⟩ := h [] other target rest rfl
      obtain ⟨type, hget⟩ := Option.ne_none_iff_exists'.mp (hknown.resolve_right (by simp))
      -- The alias that was added counts as known from here on.
      have hlater : ∀ before name goal later, rest = before ++ (name, goal) :: later →
          ∃ s, goal = .str s ∧ ((table.register other type).get? s ≠ none ∨
            s ∈ before.map (·.1)) := by
        intro before name goal later hsplit
        obtain ⟨s, hs, hs'⟩ := h ((other, .str known) :: before) name goal later
          (by rw [hsplit, List.cons_append])
        refine ⟨s, hs, ?_⟩
        rw [get?_register]
        by_cases hsame : other = s
        · exact .inl (by simp [hsame])
        · rw [if_neg hsame]
          exact hs'.imp id fun hmem => (List.mem_cons.mp hmem).resolve_left (Ne.symm hsame)
      obtain ⟨next, hnext⟩ := ih.mpr hlater
      exact ⟨next, addAliases_cons_iff.mpr ⟨known, type, rfl, hget, hnext⟩⟩

/-- Aliases that can be added are calls that do not fail. -/
theorem after_aliasCalls {aliases : List (String × Value)} {next : TypeTable}
    (h : addAliases table aliases = .ok next) : table.after (aliasCalls aliases) = next := by
  induction aliases generalizing table with
  | nil => exact Except.ok.inj h
  | cons first rest ih =>
    obtain ⟨name, target⟩ := first
    obtain ⟨known, type, rfl, hget, hrest⟩ := addAliases_cons_iff.mp h
    have hstep : (table.step (.addAlias name (.str known))).1 = table.register name type := by
      rw [step, addAlias_eq_ok_iff.mpr ⟨known, type, rfl, hget, rfl⟩]
    rw [aliasCalls, List.map_cons, ← aliasCalls, after, List.foldl_cons, hstep]
    exact ih hrest

/-- Aliases that cannot be added have an unknown target among them. -/
theorem kind_of_addAliases {aliases : List (String × Value)} {e : CompileError}
    (h : addAliases table aliases = .error e) : e.kind = .unrecognizedExtensionType := by
  induction aliases generalizing table with
  | nil => cases h
  | cons first rest ih =>
    obtain ⟨name, target⟩ := first
    rw [addAliases_cons] at h
    rcases Outcome.bind_eq_error_iff.mp h with hfirst | ⟨next, -, hrest⟩
    · have hstep : (table.step (.addAlias name target)).2 = .error e := by
        rw [step, hfirst]
      obtain ⟨-, _, _, -, -, rfl⟩ := step_eq_error hstep
      rfl
    · exact ih hrest

/-! ## 8. Names of a configuration -/

theorem changes_append (table : TypeTable) (calls more : List Call) :
    table.changes (calls ++ more) = table.changes calls ++ (table.after calls).changes more := by
  induction calls generalizing table with
  | nil => rfl
  | cons call rest ih =>
    rw [List.cons_append, changes, ih, changes, List.append_assoc]
    rfl

/-- At first the names of the types are known. -/
theorem get?_initial_ne_none_iff {name : String} :
    initial.get? name ≠ none ↔ ∃ t : StorageType, t.name = name := by
  rw [← mem_names_iff, names, initial, List.map_map, List.mem_map]
  simp [StorageType.mem_all]

/-- The changes by which a table of the types and of aliases has come about, with those of later
calls. -/
def history (aliases : List (String × Value)) (calls : List Call) : List Change :=
  empty.changes (ownNames ++ aliasCalls aliases ++ calls)

/-- A table of types and aliases, after any calls, is what the history comes to. -/
theorem after_eq_ofChanges {aliases : List (String × Value)} (h : ofAliases aliases = .ok table)
    (calls : List Call) :
    table.after calls = ofChanges (history aliases calls) := by
  have hinitial : empty.after ownNames = initial := by decide
  rw [history, ← List.nil_append (empty.changes _)]
  change _ = ofChanges ([] ++ (ofChanges []).changes _)
  rw [← after_ofChanges]
  change _ = empty.after _
  rw [after_append, after_append, hinitial, after_aliasCalls h]

/-- **Names go by value and in order.** A table is made of aliases if each one's target is the name
of a type or the alias of an earlier entry, and otherwise the extension type is not recognized.
After any calls to such a table, some of which may have failed: a name means the type that its last
change binds it to, and nothing if there is no change of it or the last one removes it; an alias
that is added is bound to what its target means at the time; no name is listed twice; the listed
names are those that mean something, in the order in which they came in; and one more call leaves
the other names alone, and leaves everything as it was if it fails. -/
theorem names_follow_history (aliases : List (String × Value)) :
    ((∃ table, ofAliases aliases = .ok table) ↔ Ordered aliases) ∧
    (∀ e, ofAliases aliases = .error e → e.kind = .unrecognizedExtensionType) ∧
    ∀ table, ofAliases aliases = .ok table → ∀ calls,
      (∀ name type, (table.after calls).get? name = some type ↔
        LastBound (history aliases calls) name type) ∧
      (∀ name target, history aliases (calls ++ [.addAlias name (.str target)]) =
        history aliases calls ++ (((table.after calls).get? target).map (.bound name)).toList) ∧
      (table.after calls).names.Nodup ∧
      (∀ name, (name ∈ (table.after calls).names ↔ (table.after calls).get? name ≠ none) ∧
        ((table.after calls).contains name = true ↔ (table.after calls).get? name ≠ none)) ∧
      ((table.after calls).names.Pairwise fun first second =>
        ∃ i j, i < j ∧ Enters (history aliases calls) first i ∧
          Enters (history aliases calls) second j) ∧
      ∀ call, (∀ name, call.name? ≠ some name →
          ((table.after calls).step call).1.get? name = (table.after calls).get? name) ∧
        ∀ e, ((table.after calls).step call).2 = .error e →
          ((table.after calls).step call).1 = table.after calls ∧
            e.kind = .unrecognizedExtensionType := by
  refine ⟨?_, fun e he => kind_of_addAliases he, ?_⟩
  · refine exists_addAliases_iff.trans ?_
    simp only [get?_initial_ne_none_iff, Ordered]
  · intro table htable calls
    -- Calls to the table are calls to the empty one that come after those by which it was made.
    have hnow := after_eq_ofChanges htable calls
    refine ⟨?_, ?_, ?_, fun name => ⟨mem_names_iff, contains_iff.trans mem_names_iff⟩, ?_, ?_⟩
    · intro name type
      rw [hnow, get?_ofChanges]
    · intro name target
      have hbefore : empty.after (ownNames ++ aliasCalls aliases ++ calls) = table.after calls := by
        rw [hnow, history]
        exact after_ofChanges [] _
      rw [history, ← List.append_assoc, changes_append, hbefore, changes, changes, List.append_nil]
      rfl
    · rw [hnow]
      exact names_ofChanges_nodup _
    · rw [hnow]
      exact names_ofChanges_pairwise _
    · refine fun call => ⟨fun name => get?_step_of_ne, ?_⟩
      intro e he
      obtain ⟨hsame, _, _, -, -, rfl⟩ := step_eq_error he
      exact ⟨hsame, rfl⟩

namespace Sample

/-- A chain of aliases, the last of which takes the name of another type. -/
def chain : List (String × Value) :=
  [("Count", .str "Number"), ("Total", .str "Count"), ("String", .str "Total")]

/-- The middle of the chain is bound anew, an alias of an unknown type is refused, and a name is
removed and comes back as an alias. -/
def turns : List Call :=
  [.register "Count" .date, .addAlias "Sum" (.str "Nope"), .unregister "Buffer",
    .addAlias "Buffer" (.str "Total")]

end Sample

/-- The alias and what is bound through it stay numbers when the name in between becomes a date, and
the name that came back is listed after the aliases. -/
theorem names_follow_history_chain :
    ∃ table, ofAliases Sample.chain = .ok table ∧
      LastBound (history Sample.chain Sample.turns) "String" .number ∧
      LastBound (history Sample.chain Sample.turns) "Count" .date ∧
      (∃ i j, i < j ∧ Enters (history Sample.chain Sample.turns) "Total" i ∧
        Enters (history Sample.chain Sample.turns) "Buffer" j) ∧
      ¬ Ordered [("Total", .str "Count"), ("Count", .str "Number")] := by
  obtain ⟨-, -, hruns⟩ := names_follow_history Sample.chain
  obtain ⟨hmeans, -, -, -, horder, -⟩ := hruns _ rfl Sample.turns
  refine ⟨_, rfl, (hmeans "String" .number).mp (by decide), (hmeans "Count" .date).mp (by decide),
    ?_, ?_⟩
  · refine List.pairwise_pair.mp (horder.sublist ?_)
    decide
  · rw [← (names_follow_history _).1]
    rintro ⟨table, htable⟩
    cases htable

end TypeTable

end ApiStore
