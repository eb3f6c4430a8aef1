import ApiStore.Proofs.Entries
import ApiStore.Value
/-
`Value.lean` -- values as trees, and the values that JSON can hold.

A value nests values in two ways, as the items of a list and as the entries of a table.
`Value.induction` is the induction over both: what holds of a list or a table whenever it
holds of all its parts holds of every value.

**JSON.** A parsed JSON text holds null, booleans, numbers and texts, lists, and tables in
which every key is a text and no key occurs twice. `Value.isJson` decides that.
-/
set_option autoImplicit false

namespace ApiStore

/-! ## 1. Induction -/

/-- What passes from the parts of a value to the value holds of every value. -/
@[elab_as_elim]
theorem Value.induction {P : Value → Prop} (scalar : ∀ s, P (.scalar s))
    (list : ∀ items, (∀ v ∈ items, P v) → P (.list items))
    (map : ∀ entries, (∀ e ∈ entries, P e.2) → P (.map entries)) (set : ∀ members, P (.set members))
    (pair : ∀ first second, P first → P second → P (.pair first second)) (v : Value) :
    P v := by
  have hitems : ∀ (first : Value) (rest : List Value), P first → (∀ v ∈ rest, P v) →
      ∀ v ∈ first :: rest, P v :=
    fun _ _ hfirst hrest => List.forall_mem_cons.mpr ⟨hfirst, hrest⟩
  have hentries : ∀ (first : Scalar × Value) (rest : List (Scalar × Value)), P first.2 →
    (∀ e ∈ rest, P e.2) →
      ∀ e ∈ first :: rest, P e.2 := fun _ _ hfirst hrest => List.forall_mem_cons.mpr ⟨hfirst, hrest⟩
  exact @Value.rec P (fun items => ∀ v ∈ items, P v) (fun entries => ∀ e ∈ entries, P e.2)
    (fun entry => P entry.2)
    scalar list map set pair nofun hitems nofun hentries (fun _ _ hv => hv) v

/-- The values with a text are the texts. -/
theorem Value.text?_eq_some_iff {v : Value} {s : String} : v.text? = some s ↔ v = .str s := by
  constructor
  · intro h
    unfold Value.text? at h
    split at h
    · rw [Option.some.inj h]
    · cases h
  · rintro rfl
    rfl

/-! ## 2. JSON -/

/-- Whether an atom is one of JSON. -/
def Scalar.isJson : Scalar → Bool
  | .null | .bool _ | .int _ | .double _ | .str _ => true
  | .bytes _ | .date _ | .dateTime _ => false

namespace Value

mutual

/-- Whether a value is one that a JSON text can hold. -/
def isJson : Value → Bool
  | .scalar s => s.isJson
  | .list items => areJson items
  | .map entries => entriesAreJson entries
  | .set _ | .pair _ _ => false

/-- Whether the items of a list are values of JSON. -/
def areJson : List Value → Bool
  | [] => true
  | v :: rest => isJson v && areJson rest

/-- Whether the entries of a table are values of JSON under texts, each of which occurs once. -/
def entriesAreJson : List (Scalar × Value) → Bool
  | [] => true
  | (.str s, v) :: rest => !Entries.contains rest (.str s) && isJson v && entriesAreJson rest
  | _ :: _ => false

end

/-- A list is one of JSON if its items are. -/
theorem areJson_iff {items : List Value} : areJson items = true ↔ ∀ v ∈ items, v.isJson = true := by
  induction items with
  | nil => simp [areJson]
  | cons v rest ih => rw [areJson, Bool.and_eq_true, List.forall_mem_cons, ih]

/-- The keys of a table of JSON are texts, none of them occurs twice, and all values are of JSON. -/
theorem entriesAreJson_iff {entries : Entries Value} :
    entriesAreJson entries = true ↔ entries.TextKeys ∧ entries.keys.Nodup ∧
      ∀ e ∈ entries, e.2.isJson = true := by
  induction entries with
  | nil => simp [entriesAreJson, Entries.TextKeys, Entries.keys]
  | cons entry rest ih =>
    obtain ⟨k, v⟩ := entry
    cases k with
    | str s =>
      have hfresh : Entries.contains rest (.str s) = true ↔ Scalar.str s ∈ Entries.keys rest := by
        rw [Entries.contains, Option.isSome_iff_exists, Entries.exists_get?_str_iff]
      have htext : Entries.TextKeys ((.str s, v) :: rest) ↔ Entries.TextKeys rest := by
        simp [Entries.TextKeys]
      rw [entriesAreJson, htext, Entries.keys, List.map_cons, List.nodup_cons, List.forall_mem_cons,
        ← Entries.keys]
      simp only [Bool.and_eq_true, Bool.not_eq_true', ← Bool.not_eq_true, hfresh, ih]
      constructor
      · rintro ⟨⟨hs, hv⟩, htexts, hnodup, hrest⟩
        exact ⟨htexts, ⟨hs, hnodup⟩, hv, hrest⟩
      · rintro ⟨htexts, ⟨hs, hnodup⟩, hv, hrest⟩
        exact ⟨⟨hs, hv⟩, htexts, hnodup, hrest⟩
    | _ => simp [entriesAreJson, Entries.TextKeys]

/-- A table is one of JSON if its keys are texts of which none stands twice, and its values are of
JSON. -/
theorem isJson_map_iff {entries : Entries Value} :
    (Value.map entries).isJson = true ↔
      entries.TextKeys ∧ entries.keys.Nodup ∧ ∀ e ∈ entries, e.2.isJson = true := by
  rw [isJson, entriesAreJson_iff]

end Value

end ApiStore
