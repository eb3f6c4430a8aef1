import ApiStore.Misfit
/-
`Entries.lean` -- tables under keys that are texts.

Two keys of a table can be different atoms and still be the same key, but a text is the
same key as itself only. For text keys a table is therefore what one expects of it, and
that is all the compiler needs: what it writes down itself it writes under texts.

**Order.** Inserting under two keys in one order or in the other gives the same entries,
but not always in the same order. `Entries.Setting` says that one table is another one
with a key set to a value, in its place if the key was there and anywhere if it was not.
That survives whatever is laid over both tables, and is a permutation in the end.
-/
set_option autoImplicit false

namespace ApiStore

/-! ## 1. Looking up -/

/-- The only key that is the same as a text is that text. -/
@[simp] theorem Scalar.sameKey_str_right {k : Scalar} {s : String} :
    k.sameKey (.str s) = true ↔ k = .str s := by
  cases k <;> simp [sameKey, same, number?]

@[simp] theorem Scalar.sameKey_str_left {k : Scalar} {s : String} :
    (Scalar.str s).sameKey k = true ↔ k = .str s := by
  cases k with
  | str t =>
    rw [sameKey_str_str, beq_iff_eq, Scalar.str.injEq]
    exact eq_comm
  | _ => simp [sameKey, same, number?]

/-- Every key is the same key as itself. -/
theorem Scalar.sameKey_self (k : Scalar) : k.sameKey k = true := by
  rw [sameKey, beq_self_eq_true, Bool.true_or]

/-- A key that is the same key as itself only. Numbers are not such keys: `1` and `true` are one. -/
structure Scalar.StandsForItself (k : Scalar) : Prop where
  sameKey_right {other : Scalar} : other.sameKey k = true ↔ other = k
  sameKey_left {other : Scalar} : k.sameKey other = true ↔ other = k

theorem Scalar.StandsForItself.str (s : String) : (Scalar.str s).StandsForItself :=
  ⟨Scalar.sameKey_str_right, Scalar.sameKey_str_left⟩

theorem Scalar.StandsForItself.bytes (b : List UInt8) : (Scalar.bytes b).StandsForItself := by
  refine ⟨fun {other} => ?_, fun {other} => ?_⟩
  · cases other <;> simp [sameKey, same, number?]
  · cases other with
    | bytes c =>
      have literal : (Scalar.bytes b).sameKey (.bytes c) = (Scalar.bytes b == .bytes c) := by
        simp [sameKey, same, number?]
      rw [literal, beq_iff_eq]
      exact eq_comm
    | _ => simp [sameKey, same, number?]

/-- What spells a text stands for itself. -/
theorem Scalar.StandsForItself.of_textOf {k : Scalar} {text : String}
    (h : Misfit.textOf (.scalar k) = .ok text) : k.StandsForItself := by
  cases k with
  | str s => exact .str s
  | bytes b => exact .bytes b
  | _ => cases h

namespace Entries

variable {α : Type} {s : String}

/-- A text has an entry if and only if it is among the keys. -/
theorem exists_get?_str_iff {entries : Entries α} :
    (∃ v, get? entries (.str s) = some v) ↔ .str s ∈ entries.keys := by
  induction entries with
  | nil => simp [keys]
  | cons entry rest ih =>
    obtain ⟨k, v⟩ := entry
    rw [get?, keys, List.map_cons, List.mem_cons]
    by_cases hk : k = .str s
    · simp [hk]
    · rw [if_neg (by simpa using hk), ih]
      simp [keys, Ne.symm hk]

/-- Of two tables, one after the other, the first one counts where it has a key. -/
theorem get?_append (upper lower : Entries α) (key : Scalar) :
    get? (upper ++ lower) key = (get? upper key).or (get? lower key) := by
  induction upper with
  | nil => rfl
  | cons entry rest ih =>
    obtain ⟨k, v⟩ := entry
    rw [List.cons_append, get?, get?, ih]
    split <;> rfl

theorem contains_append (upper lower : Entries α) (key : Scalar) :
    contains (upper ++ lower) key = (contains upper key || contains lower key) := by
  rw [contains, contains, contains, get?_append, Option.isSome_or]

theorem contains_singleton (key : Scalar) (v : α) : contains [(key, v)] key = true := by
  simp [contains, get?, Scalar.sameKey_self]

theorem get?_str_eq_none_iff {entries : Entries α} :
    get? entries (.str s) = none ↔ .str s ∉ entries.keys := by
  rw [← exists_get?_str_iff, ← Option.isSome_iff_exists, Option.not_isSome_iff_eq_none]

/-- What is found is the value of an entry under the same key. -/
theorem exists_sameKey_of_get? {entries : Entries α} {key : Scalar} {v : α}
    (h : get? entries key = some v) :
    ∃ k, k.sameKey key = true ∧ (k, v) ∈ entries := by
  induction entries with
  | nil => cases h
  | cons entry rest ih =>
    obtain ⟨k, w⟩ := entry
    rw [get?] at h
    split at h
    · rename_i hk
      exact ⟨k, hk, Option.some.inj h ▸ List.mem_cons_self⟩
    · obtain ⟨l, hl, hmem⟩ := ih h
      exact ⟨l, hl, List.mem_cons_of_mem _ hmem⟩

/-- What is found is the value of an entry. -/
theorem exists_mem_of_get? {entries : Entries α} {key : Scalar} {v : α}
    (h : get? entries key = some v) :
    ∃ k, (k, v) ∈ entries := by
  obtain ⟨k, -, hmem⟩ := exists_sameKey_of_get? h
  exact ⟨k, hmem⟩

/-- Where all keys stand for themselves, what is found is found under one of them. -/
theorem mem_keys_of_get? {entries : Entries α} (hkeys : ∀ k ∈ entries.keys, k.StandsForItself)
    {key : Scalar} {v : α} (h : get? entries key = some v) : key ∈ entries.keys := by
  obtain ⟨k, hk, hmem⟩ := exists_sameKey_of_get? h
  have hkey : k ∈ entries.keys := List.mem_map_of_mem hmem
  rwa [(hkeys k hkey).sameKey_left.mp hk]

/-- What is found under a key that stands for itself is an entry of that key. -/
theorem mem_of_get? {entries : Entries α} {key : Scalar} (hkey : key.StandsForItself) {v : α}
    (h : get? entries key = some v) : (key, v) ∈ entries := by
  induction entries with
  | nil => cases h
  | cons entry rest ih =>
    obtain ⟨k, w⟩ := entry
    rw [get?] at h
    split at h
    · rename_i hk
      rw [hkey.sameKey_right.mp hk, Option.some.inj h]
      exact List.mem_cons_self
    · exact List.mem_cons_of_mem _ (ih h)

/-- What is found under a text is an entry of that text. -/
theorem mem_of_get?_str {entries : Entries α} {v : α} (h : get? entries (.str s) = some v) :
    (.str s, v) ∈ entries :=
  mem_of_get? (.str s) h

/-- What a key is set to is found under it, whatever the key is. -/
theorem get?_insert_self (entries : Entries α) (k : Scalar) (v : α) :
    get? (entries.insert k v) k = some v := by
  induction entries with
  | nil => rw [insert, get?, if_pos k.sameKey_self]
  | cons entry rest ih =>
    obtain ⟨l, w⟩ := entry
    rw [insert]
    by_cases hl : l.sameKey k = true
    · rw [if_pos hl, get?, if_pos hl]
    · rw [if_neg hl, get?, if_neg hl, ih]

/-- Setting a text is no matter for other keys. -/
theorem get?_insert_of_ne (entries : Entries α) {k : Scalar} (h : k ≠ .str s) (v : α) :
    get? (entries.insert (.str s) v) k = get? entries k := by
  have hs : ¬ (Scalar.str s).sameKey k = true := by simpa using h
  induction entries with
  | nil => exact if_neg hs
  | cons entry rest ih =>
    obtain ⟨l, w⟩ := entry
    rw [insert]
    split
    · rename_i hl
      rw [Scalar.sameKey_str_right.mp hl, get?, get?, if_neg hs, if_neg hs]
    · rw [get?, get?, ih]

/-- What a key that stands for itself is set to is found under it, and what other keys are set to
is not. -/
theorem get?_insert {key : Scalar} (hkey : key.StandsForItself) (entries : Entries α) (k : Scalar)
    (v : α) :
    get? (entries.insert k v) key = if k = key then some v else get? entries key := by
  induction entries with
  | nil => simp [insert, get?, hkey.sameKey_right]
  | cons entry rest ih =>
    obtain ⟨l, w⟩ := entry
    rw [insert, get?]
    split
    · rename_i hl
      rw [get?]
      simp only [hkey.sameKey_right]
      by_cases hlk : l = key
      · subst hlk
        rw [if_pos (hkey.sameKey_left.mp hl)]
        simp
      · by_cases hk : k = key
        · exact absurd (hkey.sameKey_right.mp (hk ▸ hl)) hlk
        · rw [if_neg hlk, if_neg hlk, if_neg hk]
    · rename_i hl
      rw [get?, ih]
      simp only [hkey.sameKey_right]
      by_cases hlk : l = key
      · subst hlk
        have hk : ¬ k = l := fun heq => hl (hkey.sameKey_left.mpr heq)
        rw [if_pos rfl, if_neg hk, if_pos rfl]
      · rw [if_neg hlk, if_neg hlk]

/-- What a text is set to is found under it, and what other keys are set to is not. -/
theorem get?_insert_str (entries : Entries α) (k : Scalar) (v : α) :
    get? (entries.insert k v) (.str s) = if k = .str s then some v else get? entries (.str s) :=
  get?_insert (.str s) entries k v

/-- Of a table that is laid over another, what a text is set to last counts. -/
theorem get?_overlay_str (base upper : Entries α) :
    get? (base.overlay upper) (.str s) = (get? (ofList upper) (.str s)).or
      (get? base (.str s)) := by
  induction upper generalizing base with
  | nil => rfl
  | cons entry rest ih =>
    obtain ⟨k, v⟩ := entry
    have hfirst : ofList ((k, v) :: rest) = overlay [(k, v)] rest := rfl
    rw [overlay_cons, hfirst, ih (base.insert k v), ih [(k, v)], get?_insert_str, Option.or_assoc]
    by_cases hk : k = .str s
    · simp [hk, get?]
    · simp [hk, get?]

/-- If it has no key twice, that is what it says of the text. -/
theorem get?_overlay_of_distinct (base : Entries α) {upper : Entries α} (h : upper.Distinct) :
    get? (base.overlay upper) (.str s) = (get? upper (.str s)).or (get? base (.str s)) := by
  induction upper generalizing base with
  | nil => rfl
  | cons entry rest ih =>
    obtain ⟨k, v⟩ := entry
    obtain ⟨hk, hrest⟩ := List.pairwise_cons.mp h
    rw [overlay_cons, ih _ hrest, get?_insert_str, get?]
    by_cases hs : k = .str s
    · have hlater : .str s ∉ keys rest := by
        intro hmem
        obtain ⟨entry, hentry, heq⟩ := List.mem_map.mp hmem
        have hother : k.sameKey entry.1 = false := hk entry hentry
        rw [heq, hs, Scalar.sameKey_self] at hother
        cases hother
      rw [get?_str_eq_none_iff.mpr hlater, if_pos hs, if_pos (Scalar.sameKey_str_right.mpr hs),
        Option.none_or, Option.some_or]
    · rw [if_neg hs, if_neg (mt Scalar.sameKey_str_right.mp hs)]

/-- A text that is not among the keys of the upper table is found as it was. -/
theorem get?_overlay_of_not_mem_keys (base : Entries α) {upper : Entries α}
    (h : .str s ∉ upper.keys) :
    get? (base.overlay upper) (.str s) = get? base (.str s) := by
  induction upper generalizing base with
  | nil => rfl
  | cons entry rest ih =>
    obtain ⟨k, v⟩ := entry
    rw [keys, List.map_cons, List.mem_cons, not_or] at h
    rw [overlay_cons, ih _ h.2, get?_insert_str, if_neg (Ne.symm h.1)]

/-- Setting a key makes no entry but one with the new value. -/
theorem mem_insert {entries : Entries α} {k : Scalar} {v : α} {e : Scalar × α}
    (h : e ∈ entries.insert k v) :
    e ∈ entries ∨ e.2 = v := by
  induction entries with
  | nil => exact .inr (List.mem_singleton.mp h ▸ rfl)
  | cons entry rest ih =>
    obtain ⟨l, w⟩ := entry
    rw [insert] at h
    split at h
    · rcases List.mem_cons.mp h with rfl | hrest
      · exact .inr rfl
      · exact .inl (List.mem_cons_of_mem _ hrest)
    · rcases List.mem_cons.mp h with rfl | hrest
      · exact .inl List.mem_cons_self
      · exact (ih hrest).imp_left (List.mem_cons_of_mem _)

/-- If the key stands for itself, that entry is the new one. Otherwise, for a number say, the new
value can stand under the key that was there. -/
theorem mem_insert_entry {entries : Entries α} {k : Scalar} (hk : k.StandsForItself) {v : α}
    {e : Scalar × α} (h : e ∈ entries.insert k v) : e ∈ entries ∨ e = (k, v) := by
  induction entries with
  | nil => exact .inr (List.mem_singleton.mp h)
  | cons entry rest ih =>
    obtain ⟨l, w⟩ := entry
    rw [insert] at h
    split at h
    · rename_i hl
      rw [hk.sameKey_right.mp hl] at h
      exact (List.mem_cons.mp h).symm.imp_left fun hrest => List.mem_cons_of_mem _ hrest
    · rcases List.mem_cons.mp h with rfl | hlater
      · exact .inl List.mem_cons_self
      · exact (ih hlater).imp_left (List.mem_cons_of_mem _)

/-- A text is found as it was where all its entries are kept. -/
theorem get?_filter_str {p : Scalar × α → Bool} (h : ∀ v, p (.str s, v) = true)
    (entries : Entries α) :
    get? (entries.filter p) (.str s) = get? entries (.str s) := by
  induction entries with
  | nil => rfl
  | cons entry rest ih =>
    obtain ⟨k, v⟩ := entry
    by_cases hk : k = .str s
    · rw [hk, List.filter_cons_of_pos (h v), get?, get?, if_pos (Scalar.sameKey_self _),
        if_pos (Scalar.sameKey_self _)]
    · have hskip : ∀ others, get? ((k, v) :: others) (.str s) = get? others (.str s) := by
        intro others
        rw [get?, if_neg (by simpa using hk)]
      by_cases hp : p (k, v) = true
      · rw [List.filter_cons_of_pos hp, hskip, hskip, ih]
      · rw [List.filter_cons_of_neg hp, hskip, ih]

/-- Removing a key removes what was found under it, and nothing else. -/
theorem get?_erase_str (entries : Entries α) (k : Scalar) :
    get? (entries.erase k) (.str s) = if k = .str s then none else get? entries (.str s) := by
  split
  · rename_i hk
    cases hfound : get? (entries.erase k) (.str s) with
    | none => rfl
    | some v =>
      have hkept : (!(Scalar.str s).sameKey k) = true :=
        (List.mem_filter.mp (mem_of_get?_str hfound)).2
      rw [hk, Scalar.sameKey_self] at hkept
      cases hkept
  · rename_i hk
    have hother : (Scalar.str s).sameKey k = false :=
      Bool.eq_false_iff.mpr (mt Scalar.sameKey_str_left.mp hk)
    exact get?_filter_str (fun _ => congrArg (!·) hother) entries

/-- Where no key occurs twice, what is found under a text is exactly what stands under it. -/
theorem get?_str_eq_some_iff {entries : Entries α} (h : entries.keys.Nodup) {v : α} :
    get? entries (.str s) = some v ↔ (.str s, v) ∈ entries := by
  refine ⟨mem_of_get?_str, fun hmem => ?_⟩
  induction entries with
  | nil => cases hmem
  | cons entry rest ih =>
    obtain ⟨k, w⟩ := entry
    obtain ⟨hk, hrest⟩ := List.nodup_cons.mp h
    rw [get?]
    rcases List.mem_cons.mp hmem with heq | hlater
    · obtain ⟨rfl, rfl⟩ := Prod.mk.inj heq
      rw [if_pos (Scalar.sameKey_self _)]
    · have hne : k ≠ .str s := by
        rintro rfl
        exact hk (List.mem_map.mpr ⟨_, hlater, rfl⟩)
      rw [if_neg (by simpa using hne)]
      exact ih hrest hlater

/-- So the order of such a table is no matter. -/
theorem get?_str_of_perm {entries others : Entries α} (hperm : entries.Perm others)
    (h : others.keys.Nodup) :
    get? entries (.str s) = get? others (.str s) := by
  have hkeys : entries.keys.Nodup := (hperm.map _).nodup_iff.mpr h
  refine Option.ext fun v => ?_
  rw [get?_str_eq_some_iff hkeys, get?_str_eq_some_iff h, hperm.mem_iff]

theorem mem_keys_insert_str {entries : Entries α} {k : Scalar} {v : α} :
    .str s ∈ (entries.insert k v).keys ↔ k = .str s ∨ .str s ∈ entries.keys := by
  rw [← exists_get?_str_iff, ← exists_get?_str_iff, get?_insert_str]
  split <;> simp_all

/-- Laying one table over another loses no text of either. -/
theorem mem_keys_overlay_str {base upper : Entries α} :
    .str s ∈ (base.overlay upper).keys ↔ .str s ∈ upper.keys ∨ .str s ∈ base.keys := by
  induction upper generalizing base with
  | nil => exact (or_iff_right nofun).symm
  | cons entry rest ih =>
    obtain ⟨k, v⟩ := entry
    have hfirst : .str s ∈ keys ((k, v) :: rest) ↔ k = .str s ∨ .str s ∈ keys rest := by
      rw [keys, List.map_cons, List.mem_cons, eq_comm]
      rfl
    rw [overlay_cons, ih, mem_keys_insert_str, hfirst, or_left_comm, or_assoc]

/-- A text that is not among the keys gets an entry at the end. -/
theorem insert_of_not_mem_keys {entries : Entries α} (h : .str s ∉ entries.keys) (v : α) :
    entries.insert (.str s) v = entries ++ [(.str s, v)] := by
  induction entries with
  | nil => rfl
  | cons entry rest ih =>
    obtain ⟨k, w⟩ := entry
    rw [keys, List.map_cons, List.mem_cons, not_or] at h
    obtain ⟨hk, hrest⟩ := h
    rw [insert, if_neg (by simpa using Ne.symm hk), ih hrest, List.cons_append]

/-- Setting a text leaves the keys as they are, or adds the text at the end. -/
theorem keys_insert_str (entries : Entries α) (s : String) (v : α) :
    (entries.insert (.str s) v).keys =
      if .str s ∈ entries.keys then entries.keys else entries.keys ++ [.str s] := by
  induction entries with
  | nil => rfl
  | cons entry rest ih =>
    obtain ⟨k, w⟩ := entry
    rw [insert]
    by_cases hk : k = .str s
    · rw [if_pos (by simpa using hk), if_pos (hk ▸ List.mem_cons_self)]
      rfl
    · have hmem : .str s ∈ keys ((k, w) :: rest) ↔ .str s ∈ keys rest := by
        rw [keys, List.map_cons, List.mem_cons, or_iff_right (Ne.symm hk)]
        rfl
      rw [if_neg (by simpa using hk), keys, List.map_cons, ← keys, ih]
      simp only [hmem]
      split <;> rfl

/-- Setting another key is no matter for a text. -/
theorem mem_keys_insert_of_ne {entries : Entries α} {k : Scalar} {v : α} (h : k ≠ .str s) :
    .str s ∈ (entries.insert k v).keys ↔ .str s ∈ entries.keys := by
  rw [mem_keys_insert_str]
  exact or_iff_right h

/-! ## 2. Setting a text -/

/-- `after` is `before` with the key `s` set to `v`: in its place if it is there, anywhere if it is
not. -/
inductive Setting (s : String) (v : α) : Entries α → Entries α → Prop
  | new {entries : Entries α} (h : .str s ∉ entries.keys) :
    Setting s v entries ((.str s, v) :: entries)
  | here (w : α) (rest : Entries α) : Setting s v ((.str s, w) :: rest) ((.str s, v) :: rest)
  | later {entry : Scalar × α} {before after : Entries α} (h : entry.1 ≠ .str s)
    (rest : Setting s v before after) :
    Setting s v (entry :: before) (entry :: after)

namespace Setting

variable {v : α} {before after : Entries α}

/-- Inserting under a text sets it. -/
theorem insert (entries : Entries α) (s : String) (v : α) :
    Setting s v entries (entries.insert (.str s) v) := by
  induction entries with
  | nil => exact .new (by simp [keys])
  | cons entry rest ih =>
    obtain ⟨k, w⟩ := entry
    rw [Entries.insert]
    by_cases hk : k = .str s
    · subst hk
      rw [if_pos (by simp)]
      exact .here w rest
    · rw [if_neg (by simpa using hk)]
      exact .later hk ih

/-- Wherever the key was put, the entries are those of an insertion. -/
theorem perm (h : Setting s v before after) : after.Perm (before.insert (.str s) v) := by
  induction h with
  | @new entries hs =>
    have happend : entries.insert (.str s) v = entries ++ [(.str s, v)] := by
      induction entries with
      | nil => rfl
      | cons entry rest ih =>
        obtain ⟨k, w⟩ := entry
        simp only [keys, List.map_cons, List.mem_cons, not_or] at hs
        rw [Entries.insert, if_neg (by simpa using Ne.symm hs.1), ih hs.2, List.cons_append]
    rw [happend]
    exact (List.perm_append_singleton _ _).symm
  | here w rest => rw [Entries.insert, if_pos (by simp)]
  | @later entry _ _ he _ ih =>
    rw [Entries.insert, if_neg (by simpa using he)]
    exact ih.cons entry

/-- Setting another key in both tables. -/
theorem insert_other (h : Setting s v before after) {k : Scalar} (hk : k ≠ .str s) (w : α) :
    Setting s v (before.insert k w) (after.insert k w) := by
  have hsk : ¬ (Scalar.str s).sameKey k = true := by simpa using hk
  induction h with
  | @new entries hs =>
    rw [Entries.insert, if_neg hsk]
    exact .new (mt (mem_keys_insert_of_ne hk).mp hs)
  | here x rest =>
    rw [Entries.insert, if_neg hsk, Entries.insert, if_neg hsk]
    exact .here x _
  | @later entry before after he hrest ih =>
    rw [Entries.insert, Entries.insert]
    split
    · exact .later he hrest
    · exact .later he ih

/-- Setting the same key once more in the second table. -/
theorem insert_same (h : Setting s v before after) (w : α) :
    Setting s w before (after.insert (.str s) w) := by
  induction h with
  | @new entries hs =>
    rw [Entries.insert, if_pos (by simp)]
    exact .new hs
  | here x rest =>
    rw [Entries.insert, if_pos (by simp)]
    exact .here x rest
  | @later entry before after he hrest ih =>
    rw [Entries.insert, if_neg (by simpa using he)]
    exact .later he ih

/-- Laying a table over both that does not have the key. -/
theorem overlay (h : Setting s v before after) {upper : Entries α} (hu : .str s ∉ upper.keys) :
    Setting s v (before.overlay upper) (after.overlay upper) := by
  induction upper generalizing before after with
  | nil => exact h
  | cons entry rest ih =>
    obtain ⟨k, w⟩ := entry
    simp only [keys, List.map_cons, List.mem_cons, not_or] at hu
    exact ih (h.insert_other (Ne.symm hu.1) w) hu.2

/-- Two tables that set one key in a third agree up to order under whatever is laid over them. -/
theorem overlay_perm_overlay {base other : Entries α} (h : Setting s v base after)
    (ho : Setting s v base other) (upper : Entries α) :
    (after.overlay upper).Perm (other.overlay upper) := by
  induction upper generalizing v base after other with
  | nil => exact h.perm.trans ho.perm.symm
  | cons entry rest ih =>
    obtain ⟨k, w⟩ := entry
    rw [overlay_cons, overlay_cons]
    by_cases hk : k = .str s
    · subst hk
      exact ih (h.insert_same w) (ho.insert_same w)
    · exact ih (h.insert_other hk w) (ho.insert_other hk w)

/-- Laying a table over both that has the key makes the setting one of order. -/
theorem overlay_perm (h : Setting s v before after) {upper : Entries α} (hu : .str s ∈ upper.keys) :
    (after.overlay upper).Perm (before.overlay upper) := by
  induction upper generalizing before after with
  | nil => cases hu
  | cons entry rest ih =>
    obtain ⟨k, w⟩ := entry
    rw [overlay_cons, overlay_cons]
    by_cases hk : k = .str s
    · subst hk
      exact (h.insert_same w).overlay_perm_overlay (.insert before s w) rest
    · have hrest : .str s ∈ Entries.keys rest := by simpa [keys, Ne.symm hk] using hu
      exact ih (h.insert_other hk w) hrest

end Setting

/-! ## 3. Tables with no other keys -/

/-- All keys of a table are texts. -/
def TextKeys (entries : Entries α) : Prop := ∀ entry ∈ entries, ∃ s, entry.1 = .str s

theorem TextKeys.nil : TextKeys ([] : Entries α) := by
  intro entry hentry
  cases hentry

theorem TextKeys.append {upper lower : Entries α} (hu : upper.TextKeys) (hl : lower.TextKeys) :
    TextKeys (upper ++ lower) := by
  intro entry hentry
  rcases List.mem_append.mp hentry with h | h
  · exact hu entry h
  · exact hl entry h

/-- A table of one entry, under a text. -/
theorem TextKeys.singleton (s : String) (v : α) : TextKeys [(.str s, v)] := by
  intro entry hentry
  rw [List.mem_singleton] at hentry
  exact ⟨s, by rw [hentry]⟩

theorem TextKeys.insert {entries : Entries α} (h : entries.TextKeys) (s : String) (v : α) :
    TextKeys (entries.insert (.str s) v) := by
  induction entries with
  | nil => exact .singleton s v
  | cons entry rest ih =>
    obtain ⟨k, w⟩ := entry
    obtain ⟨hk, hrest⟩ := List.forall_mem_cons.mp h
    rw [Entries.insert]
    split
    · exact List.forall_mem_cons.mpr ⟨hk, hrest⟩
    · exact List.forall_mem_cons.mpr ⟨hk, ih hrest⟩

/-- Where all keys are texts, a key that is looked up finds an entry under itself. -/
theorem TextKeys.mem_of_get? {entries : Entries α} (h : entries.TextKeys) {key : Scalar} {v : α}
    (hv : get? entries key = some v) : (key, v) ∈ entries := by
  induction entries with
  | nil => cases hv
  | cons entry rest ih =>
    obtain ⟨k, w⟩ := entry
    obtain ⟨s, rfl⟩ : ∃ s, k = .str s := h _ List.mem_cons_self
    rw [get?] at hv
    split at hv
    · rename_i hkey
      rw [Scalar.sameKey_str_left] at hkey
      rw [hkey, Option.some.inj hv]
      exact List.mem_cons_self
    · exact List.mem_cons_of_mem _ (ih (fun e he => h e (List.mem_cons_of_mem _ he)) hv)

/-- Where all keys are texts, none has to be spelled out. -/
theorem TextKeys.spelled {entries : Entries α} (h : entries.TextKeys) :
    Misfit.spelled entries = entries := by
  rw [Misfit.spelled, if_neg]
  intro hany
  obtain ⟨entry, hmem, hbytes⟩ := List.any_eq_true.mp hany
  obtain ⟨s, hs⟩ := h entry hmem
  simp [hs, Misfit.isBytes] at hbytes

end Entries

end ApiStore
