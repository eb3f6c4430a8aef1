import ApiStore.Proofs.Build.Target
/-
`PointerName.lean` -- the name that a pointer spells, and the two ways in which it is read.

A pointer is one of the roots and a name, and a name is one or more word characters
(`Pointer.Spells`). The reader that follows pointers takes every such text for a pointer to
its name, and hardly anything else: a text that has one line end after such a pointer is
taken for the pointer too, and no other text is taken for any. The reader that writes names
down removes the roots and keeps the rest, so it keeps the line end. Where a pointer spells
a name the two readers agree, and an override that leaves its target to the pointer names
the definition that is looked up. Where a line end follows they do not, and the override
names a definition that cannot exist under that name.
-/
set_option autoImplicit false

namespace ApiStore

namespace Pointer

/-! ## 1. Names -/

/-- A pointer spells a name: it is a root and the name, which is one or more word characters, and
nothing else. -/
structure Spells (pointer name : String) : Prop where
  ne_empty : name ≠ ""
  isWord : ∀ c ∈ name.toList, Text.isWord c = true
  rooted : ∃ root ∈ roots, pointer = root ++ name

section Spells

variable {pointer start name : String}

/-- A name, and the name with a line end after it, are what the strict reader accepts after a
root. -/
theorem Spells.names (h : Spells pointer name) :
    Names name.toList name.toList ∧ Names name.toList (name ++ "\n").toList := by
  have hne : name.toList ≠ [] := fun hnil => h.ne_empty (String.toList_eq_nil_iff.mp hnil)
  refine ⟨⟨hne, h.isWord, .inl rfl⟩, hne, h.isWord, .inr ?_⟩
  rw [String.toList_append]
  rfl

/-- A line end is no word character, and stands in no root. -/
theorem Spells.not_mem_line_end (h : Spells pointer name) : '\n' ∉ pointer.toList := by
  obtain ⟨root, hroot, rfl⟩ := h.rooted
  have hline : Text.isWord '\n' = false := by decide +kernel
  have hroots : ∀ root ∈ roots, '\n' ∉ root.toList := by decide
  rw [String.toList_append, List.mem_append, not_or]
  refine ⟨hroots root hroot, fun hmem => ?_⟩
  have hword : Text.isWord '\n' = true := h.isWord _ hmem
  rw [hline] at hword
  cases hword

/-! ## 2. The strict reader -/

/-- **The pointers that can be followed** spell a name, up to one line end that may come after
it. -/
theorem parse?_eq_some_iff_spells :
    parse? pointer = some name ↔ Spells pointer name ∨ ∃ start, Spells start name ∧
      pointer = start ++ "\n" := by
  rw [parse?_eq_some_iff]
  constructor
  · rintro ⟨root, hroot, rest, hpointer, hne, hword, hrest⟩
    have hname : name ≠ "" := by
      rintro rfl
      exact hne rfl
    have hspells : Spells (root ++ name) name := ⟨hname, hword, root, hroot, rfl⟩
    rcases hrest with rfl | rfl
    · left
      have heq : pointer = root ++ name := by
        rw [← String.toList_inj, hpointer, String.toList_append]
      exact heq ▸ hspells
    · right
      refine ⟨root ++ name, hspells, ?_⟩
      rw [← String.toList_inj, hpointer, String.toList_append, String.toList_append,
        List.append_assoc]
      rfl
  · rintro (h | ⟨start, h, rfl⟩)
    · obtain ⟨root, hroot, rfl⟩ := h.rooted
      exact ⟨root, hroot, name.toList, String.toList_append, h.names.1⟩
    · obtain ⟨root, hroot, rfl⟩ := h.rooted
      refine ⟨root, hroot, (name ++ "\n").toList, ?_, h.names.2⟩
      simp only [String.toList_append, List.append_assoc]

/-! ## 3. The lax reader -/

/-- What is left of a pointer that spells a name is the name. -/
theorem Spells.stripRoots (h : Spells pointer name) : stripRoots pointer = name := by
  obtain ⟨root, hroot, rfl⟩ := h.rooted
  rw [← String.toList_inj]
  exact toList_stripRoots hroot String.toList_append h.names.1

/-- A line end after it is left as well. -/
theorem Spells.stripRoots_line_end (h : Spells start name) :
    Pointer.stripRoots (start ++ "\n") = name ++ "\n" := by
  obtain ⟨root, hroot, rfl⟩ := h.rooted
  rw [← String.toList_inj]
  refine toList_stripRoots hroot ?_ h.names.2
  simp only [String.toList_append, List.append_assoc]

/-- The two readers agree on a pointer that can be followed exactly if it spells its name. -/
theorem stripRoots_eq_iff_spells (h : parse? pointer = some name) :
    Pointer.stripRoots pointer = name ↔ Spells pointer name := by
  refine ⟨fun hstrip => ?_, Spells.stripRoots⟩
  rcases parse?_eq_some_iff_spells.mp h with hspells | ⟨start, hstart, rfl⟩
  · exact hspells
  · -- What the lax reader leaves here is one character longer than the name.
    rw [hstart.stripRoots_line_end] at hstrip
    have hlength := congrArg String.length hstrip
    rw [String.length_append] at hlength
    exact absurd hlength (Nat.ne_of_gt (Nat.lt_add_of_pos_right (by decide)))

end Spells

end Pointer

/-! ## 4. Nodes that carry a pointer -/

/-- The override that counts for a node marks it as a reference by identity, and leaves the target
to the pointer next to it. -/
structure Node.DerivesRef (node : Node) (e : Extension) (pointer : String) : Prop where
  override : node.override? = some (e, some pointer)
  type : e.type = some referenceMark
  ref : e.ref = none
  /-- As in every override that was read (`Extension.leavesRef_of_ofPayload`). -/
  options : .str "ref" ∉ e.options.keys

/-- The target that such an override leaves to the pointer is the one that the lax reader finds. -/
theorem Node.DerivesRef.get?_ref {node : Node} {pointer : String} {e : Extension}
    (h : node.DerivesRef e pointer) (hp : pointer ≠ "") (overrides : OverrideRules) :
    ∃ payload, overrides.resolve node = .ok (some payload) ∧
      Entries.get? payload (.str "ref") = some (.str (Pointer.stripRoots pointer)) := by
  -- There always is a payload, since the mark is looked up in no table.
  obtain ⟨payload, hpayload⟩ : ∃ payload, overrides.payload node.raw e (some pointer) =
      .ok payload := by
    simp only [OverrideRules.payload, h.type, h.ref, if_true]
    split <;> exact ⟨_, rfl⟩
  refine ⟨payload, ?_, ?_⟩
  · simp only [OverrideRules.resolve, h.override, hpayload]
    rfl
  · rw [OverrideRules.ref_of_payload hpayload ⟨h.ref, h.options⟩ hp, if_pos h.type]

/-- **Pointers are read in two ways, which agree on pointers that spell a name.** A pointer can be
followed exactly if it spells a name, or spells one but for a line end at its end, and leads to that
name; a node with any other pointer points nowhere. What is left of a pointer without its roots is
the name, with the line end if there is one. So the target that an override leaves to the pointer is
the name that is looked up exactly if the pointer spells it. -/
theorem pointer_read_two_ways (pointer : String) :
    (∀ name, Pointer.parse? pointer = some name ↔
      Pointer.Spells pointer name ∨ ∃ start, Pointer.Spells start name ∧ pointer = start ++ "\n") ∧
    (∀ name, Pointer.Spells pointer name → Pointer.stripRoots pointer = name) ∧
    (∀ start name, Pointer.Spells start name → pointer = start ++ "\n" →
      Pointer.stripRoots pointer = name ++ "\n") ∧
    ∀ node : Node, node.pointer? = some pointer → ∀ owner inArray,
      (Pointer.parse? pointer = none →
        Reference.describe node owner inArray = .error (.unknownPointer (.str pointer))) ∧
      ∀ name, Pointer.parse? pointer = some name →
        ∃ reference, Reference.describe node owner inArray = .ok reference ∧
          reference.target = name ∧
          ∀ e, node.DerivesRef e pointer → ∀ overrides : OverrideRules, ∃ payload ref,
            overrides.resolve node = .ok (some payload) ∧
              Entries.get? payload (.str "ref") = some (.str ref) ∧
              (ref = reference.target ↔ Pointer.Spells pointer name) := by
  refine ⟨fun name => Pointer.parse?_eq_some_iff_spells, fun name => Pointer.Spells.stripRoots, ?_,
    ?_⟩
  · rintro start name h rfl
    exact h.stripRoots_line_end
  · intro node hp owner inArray
    refine ⟨fun hnone => Reference.describe_unknown hp hnone owner inArray, fun name hname => ?_⟩
    refine ⟨_, Reference.describe_eq inArray hp hname, rfl, fun e he overrides => ?_⟩
    have hne : pointer ≠ "" := by
      rintro rfl
      have hempty : Pointer.parse? "" = none := by decide
      rw [hempty] at hname
      cases hname
    obtain ⟨payload, hpayload, href⟩ := he.get?_ref hne overrides
    exact ⟨payload, _, hpayload, href, Pointer.stripRoots_eq_iff_spells hname⟩

namespace Sample

/-- A reference that an override marks as one by identity. -/
def marked (pointer : String) : Node :=
  .reference { Node.empty.facts with extension := some ⟨some referenceMark, none, []⟩ } pointer

end Sample

/-- An override beside a pointer to a person leaves the name of the person to it. -/
theorem pointer_read_two_ways_person :
    Pointer.Spells "#/definitions/Person" "Person" ∧
      Pointer.stripRoots "#/definitions/Person" = "Person" ∧
      ∃ reference payload, Reference.describe (Sample.marked "#/definitions/Person")
        (.str "Pet") false = .ok reference ∧
        Sample.compiler.overrides.resolve (Sample.marked "#/definitions/Person") =
          .ok (some payload) ∧
        Entries.get? payload (.str "ref") = some (.str reference.target) := by
  have hspells : Pointer.Spells "#/definitions/Person" "Person" :=
    ⟨by decide, List.all_eq_true.mp (by decide), "#/definitions/", by decide, by decide⟩
  have hread := pointer_read_two_ways "#/definitions/Person"
  obtain ⟨reference, hreference, -, hderived⟩ :=
    (hread.2.2.2 (Sample.marked "#/definitions/Person") rfl (.str "Pet") false).2 "Person"
    (by decide)
  have href : .str "ref" ∉ Entries.keys ([] : Entries Value) := nofun
  obtain ⟨payload, ref, hpayload, hget, hagree⟩ :=
    hderived _ ⟨rfl, rfl, rfl, href⟩ Sample.compiler.overrides
  exact ⟨hspells, hread.2.1 _ hspells, reference, payload, hreference, hpayload,
    by rw [hget, hagree.mpr hspells]⟩

/-- A pointer with a line end after it spells no name. It is followed to the name before the line
end, and written down with the line end. -/
theorem line_end_is_followed :
    (∀ name, ¬ Pointer.Spells "#/definitions/Pet\n" name) ∧
      Pointer.parse? "#/definitions/Pet\n" = some "Pet" ∧
      Pointer.stripRoots "#/definitions/Pet\n" = "Pet\n" := by
  have hspells : Pointer.Spells "#/definitions/Pet" "Pet" :=
    ⟨by decide, List.all_eq_true.mp (by decide), "#/definitions/", by decide, by decide⟩
  refine ⟨fun name h => ?_, by decide +kernel, hspells.stripRoots_line_end⟩
  exact h.not_mem_line_end (by simp)

end ApiStore
