import ApiStore.Pointer
import Mathlib.Data.List.TakeWhile
/-
`Pointer.lean` -- the two readers of a pointer, on the pointers that can be followed.

A pointer that can be followed is one of the two roots, then a name of word characters, and
then perhaps a line end (`parse?_eq_some_iff`). No root can begin inside a name, since a
root begins with a character that is not of a word. So the lax reader, which takes away
every root that it finds, takes away the one that the pointer begins with and nothing else,
and what it leaves is the name that the strict reader finds, with the line end if there is
one (`toList_stripRoots`).
-/
set_option autoImplicit false

namespace ApiStore.Pointer

/-! ## 1. The strict reader -/

theorem dropRoot?_eq_some_iff {text root rest : List Char} :
    dropRoot? text root = some rest ↔ text = root ++ rest := by
  unfold dropRoot?
  constructor
  · intro h
    obtain ⟨hroot, hrest⟩ := Option.ite_none_right_eq_some.mp h
    rw [← Option.some.inj hrest]
    exact (List.prefix_iff_eq_append.mp (List.isPrefixOf_iff_prefix.mp hroot)).symm
  · rintro rfl
    rw [if_pos (List.isPrefixOf_iff_prefix.mpr (List.prefix_append root rest)), List.drop_left]

/-- The texts that are a name and perhaps a line end. -/
def Names (name text : List Char) : Prop :=
  name ≠ [] ∧ (∀ c ∈ name, Text.isWord c = true) ∧ (text = name ∨ text = name ++ ['\n'])

theorem takeWhile_dropWhile_of_names {name text : List Char} (h : Names name text) :
    text.takeWhile Text.isWord = name ∧
      (text.dropWhile Text.isWord = [] ∨ text.dropWhile Text.isWord = ['\n']) := by
  obtain ⟨-, hword, rfl | rfl⟩ := h
  · exact ⟨List.takeWhile_eq_self_iff.mpr hword, .inl (List.dropWhile_eq_nil_iff.mpr hword)⟩
  · have hend : Text.isWord '\n' = false := by decide +kernel
    rw [List.takeWhile_append_of_pos hword, List.dropWhile_append_of_pos hword,
      List.takeWhile_cons_of_neg (by simp [hend]), List.dropWhile_cons_of_neg (by simp [hend]),
        List.append_nil]
    exact ⟨rfl, .inr rfl⟩

theorem word?_eq_some_iff {name text : List Char} : word? text = some name ↔ Names name text := by
  simp only [word?, Option.ite_none_left_eq_some, Option.ite_none_right_eq_some, Option.some.injEq]
  constructor
  · rintro ⟨hne, hrest, rfl⟩
    refine ⟨by simpa using hne, fun c hc => List.mem_takeWhile_imp hc, ?_⟩
    have hsplit : text.takeWhile Text.isWord ++ text.dropWhile Text.isWord = text :=
      List.takeWhile_append_dropWhile
    rcases hrest with hrest | hrest
    · rw [hrest, List.append_nil] at hsplit
      exact .inl hsplit.symm
    · rw [hrest] at hsplit
      exact .inr hsplit.symm
  · intro h
    obtain ⟨htake, hdrop⟩ := takeWhile_dropWhile_of_names h
    rw [htake]
    exact ⟨by simpa using h.1, hdrop, rfl⟩

/-- No text begins with both roots. -/
theorem eq_of_dropRoot?_eq_some {text rest rest' : List Char} {root other : String}
    (hroot : root ∈ roots) (hother : other ∈ roots) (hrest : dropRoot? text root.toList = some rest)
    (hrest' : dropRoot? text other.toList = some rest') : root = other := by
  rw [dropRoot?_eq_some_iff] at hrest hrest'
  simp only [roots, List.mem_cons, List.not_mem_nil, or_false] at hroot hother
  -- The roots differ in their third character.
  rcases hroot with rfl | rfl <;> rcases hother with rfl | rfl
  · rfl
  · have hthird := congrArg (·[2]?) (hrest.symm.trans hrest')
    simp at hthird
  · have hthird := congrArg (·[2]?) (hrest.symm.trans hrest')
    simp at hthird
  · rfl

/-- **The pointers that can be followed**: a root, a name, and perhaps a line end. -/
theorem parse?_eq_some_iff {pointer name : String} :
    parse? pointer = some name ↔ ∃ root ∈ roots, ∃ rest, pointer.toList = root.toList ++ rest ∧
      Names name.toList rest := by
  rw [parse?, Option.map_eq_some_iff]
  constructor
  · rintro ⟨word, hfound, rfl⟩
    obtain ⟨root, hroot, h⟩ := List.exists_of_findSome?_eq_some hfound
    obtain ⟨rest, hrest, hword⟩ := Option.bind_eq_some_iff.mp h
    rw [String.toList_ofList]
    exact ⟨root, hroot, rest, dropRoot?_eq_some_iff.mp hrest, word?_eq_some_iff.mp hword⟩
  · rintro ⟨root, hroot, rest, hpointer, hnames⟩
    have hdrop : dropRoot? pointer.toList root.toList = some rest :=
      dropRoot?_eq_some_iff.mpr hpointer
    refine ⟨name.toList, ?_, String.ofList_toList⟩
    cases hfound : roots.findSome? fun root =>
      (dropRoot? pointer.toList root.toList).bind word? with
    | none =>
      have hnone := List.findSome?_eq_none_iff.mp hfound root hroot
      rw [hdrop, Option.bind_some, word?_eq_some_iff.mpr hnames] at hnone
      cases hnone
    | some word =>
      obtain ⟨other, hother, h⟩ := List.exists_of_findSome?_eq_some hfound
      obtain ⟨rest', hrest', hword⟩ := Option.bind_eq_some_iff.mp h
      obtain rfl := eq_of_dropRoot?_eq_some hroot hother hdrop hrest'
      rw [hdrop, Option.some.injEq] at hrest'
      rw [← hword, ← hrest', word?_eq_some_iff.mpr hnames]

/-! ## 2. The lax reader -/

/-- Where its first character does not occur, a pattern does not either. -/
theorem remove_of_not_mem {c : Char} {pattern text : List Char} (h : c ∉ text) :
    remove (c :: pattern) text = text := by
  induction text with
  | nil => rw [remove]
  | cons d rest ih =>
    rw [List.mem_cons, not_or] at h
    obtain ⟨hd, hrest⟩ := h
    have hno : ¬ (c :: pattern ≠ [] ∧ (c :: pattern).isPrefixOf (d :: rest) = true) := by
      rintro ⟨-, hpre⟩
      rw [List.isPrefixOf, Bool.and_eq_true, beq_iff_eq] at hpre
      exact hd hpre.1
    rw [remove, if_neg hno, ih hrest]

/-- A pattern at the start is removed, and where it cannot begin again nothing else is. -/
theorem remove_append_of_not_mem {c : Char} {pattern rest : List Char} (h : c ∉ rest) :
    remove (c :: pattern) (c :: pattern ++ rest) = rest := by
  have hyes : c :: pattern ≠ [] ∧ (c :: pattern).isPrefixOf (c :: (pattern ++ rest)) = true :=
    ⟨List.cons_ne_nil c pattern, List.isPrefixOf_iff_prefix.mpr ⟨rest, rfl⟩⟩
  rw [List.cons_append, remove, if_pos hyes, List.length_cons, Nat.add_sub_cancel, List.drop_left]
  exact remove_of_not_mem h

/-- A root cannot begin in what follows a root. -/
theorem not_mem_of_names {name text : List Char} (h : Names name text) : '#' ∉ text := by
  have hmark : Text.isWord '#' = false := by decide +kernel
  have hname : '#' ∉ name := fun hmem => by simpa [hmark] using h.2.1 _ hmem
  rcases h.2.2 with rfl | rfl
  · exact hname
  · simpa using hname

/-- What is left of a pointer that can be followed is what comes after its root. -/
theorem toList_stripRoots {pointer root : String} {name rest : List Char} (hroot : root ∈ roots)
    (hpointer : pointer.toList = root.toList ++ rest) (hnames : Names name rest) :
    (stripRoots pointer).toList = rest := by
  have hmark := not_mem_of_names hnames
  rw [stripRoots, String.toList_ofList, hpointer]
  simp only [roots, List.mem_cons, List.not_mem_nil, or_false] at hroot
  simp only [roots, List.foldl_cons, List.foldl_nil]
  rcases hroot with rfl | rfl
  · have hfirst : remove "#/definitions/".toList ("#/definitions/".toList ++ rest) = rest :=
      remove_append_of_not_mem hmark
    rw [hfirst]
    exact remove_of_not_mem hmark
  · -- The first root to be removed does not stand here: the texts differ in the third character,
    -- and no other character of the second root can begin the first.
    have hfirst : remove "#/definitions/".toList ("#/components/schemas/".toList ++ rest) =
        "#/components/schemas/".toList ++ rest := by
      have htail : '#' ∉ "/components/schemas/".toList ++ rest := by
        rw [List.mem_append, not_or]
        exact ⟨by decide, hmark⟩
      have hno : ¬ ("#/definitions/".toList ≠ [] ∧
          "#/definitions/".toList.isPrefixOf ('#' :: ("/components/schemas/".toList ++ rest)) =
            true) :=
        fun h => Bool.false_ne_true h.2
      have hcons : "#/components/schemas/".toList ++ rest =
          '#' :: ("/components/schemas/".toList ++ rest) := rfl
      rw [hcons, remove, if_neg hno]
      exact congrArg ('#' :: ·) (remove_of_not_mem htail)
    rw [hfirst]
    exact remove_append_of_not_mem hmark

/-- Without a line end, the name that the strict reader finds is what the lax reader leaves. -/
theorem stripRoots_of_parse? {pointer name : String} (h : parse? pointer = some name)
    (hline : '\n' ∉ pointer.toList) :
    stripRoots pointer = name := by
  obtain ⟨root, hroot, rest, hpointer, hnames⟩ := parse?_eq_some_iff.mp h
  have hstrip := toList_stripRoots hroot hpointer hnames
  rcases hnames.2.2 with rfl | rfl
  · exact String.toList_inj.mp hstrip
  · exact absurd (by simp [hpointer]) hline

end ApiStore.Pointer
