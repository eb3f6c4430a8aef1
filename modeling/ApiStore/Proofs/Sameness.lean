import ApiStore.Proofs.Build.ErrorPath
import ApiStore.Proofs.Build.Likeness
import ApiStore.Proofs.Value
import ApiStore.Schema
/-
`Sameness.lean` -- definitions that compile to the same schemas.

Where what two documents quote is the same, compiled values that are alike are the same
values. So definitions that differ only in what the compiler does not look at make the same
schemas, with the same names, fields and options, or fail for reasons that are alike.
-/
set_option autoImplicit false

namespace ApiStore

open Outcome (Related)

/-! ## 1. The same values -/

/-- Quoted values that are the same, under any keys. -/
def Likeness.same : Likeness where
  Quoted := Eq
  Key _ := True
  key_of_not_reserved _ _ := trivial

namespace Likeness

/-- Tables are the same if their values are, where values that are alike are the same. -/
theorem tables_same_of_forall {x y : Entries Value} (hx : ∀ e ∈ x, ∀ w, same.Values e.2 w → e.2 = w)
    (h : same.Tables x y) : x = y := by
  induction x generalizing y with
  | nil =>
    cases h
    rfl
  | cons entry rest ih =>
    obtain ⟨hentry, hrest⟩ := List.forall_mem_cons.mp hx
    cases h with
    | made _ hv htail => rw [← hentry _ hv, ← ih hrest htail]
    | quoted _ hv htail => rw [← (hv : _ = _), ← ih hrest htail]

/-- Values that are the same up to parts that are the same are the same. -/
theorem Values.eq {v w : Value} (h : same.Values v w) : v = w := by
  induction v using Value.induction generalizing w with
  | scalar s =>
    cases h
    rfl
  | list items ih =>
    cases h with
    | marker h => rw [ih _ (List.mem_singleton_self _) h]
  | map entries ih =>
    cases h with
    | table h => rw [tables_same_of_forall (fun e he _ => ih e he) h]
  | set members => cases h
  | pair first second _ _ => cases h

/-- Tables that are alike in this sense are the same table. -/
theorem Tables.eq {x y : Entries Value} (h : same.Tables x y) : x = y :=
  tables_same_of_forall (fun _ _ _ => Values.eq) h

/-- A table is like itself. -/
theorem tables_refl (x : Entries Value) : same.Tables x x := by
  induction x with
  | nil => exact .nil
  | cons entry rest ih => exact .quoted trivial rfl ih

/-- Overrides that are alike in this sense are the same override. -/
theorem Overrides.eq {d e : Extension} (h : same.Overrides d e) : d = e := by
  obtain ⟨htype, href, hoptions⟩ := h
  cases d
  cases e
  simp only [Extension.mk.injEq]
  exact ⟨htype, href, hoptions.eq⟩

/-- An override is like itself. -/
theorem overrides_refl (e : Option Extension) : Option.Rel same.Overrides e e := by
  cases e with
  | none => exact .none
  | some e => exact .some ⟨rfl, rfl, tables_refl _⟩

/-- Leaves are alike if override, default and type are the same. -/
theorem leaves_of_eq {f g : Facts} (hextension : f.extension = g.extension)
    (hdefault : f.default = g.default) (htype : entry f.raw "type" = entry g.raw "type") :
    same.Leaves f g :=
  ⟨hextension ▸ overrides_refl _, by rw [htype], by rw [hdefault], fun _ => hdefault⟩

end Likeness

/-! ## 2. The same schemas -/

namespace Compiler

variable {c : Compiler} {ds es : Definitions}

/-- The definitions of a name make one schema, or fail for reasons that are alike, if that is so of
their fields and they have the same options. -/
theorem buildSchema_related {name : Scalar}
    (h : Option.Rel (fun n m => Related CompileError.Alike Eq (c.buildFields ds name n)
      (c.buildFields es name m) ∧ options n = options m) (Entries.get? ds name)
      (Entries.get? es name)) :
    Related Failure.Alike Eq (c.buildSchema ds name) (c.buildSchema es name) := by
  unfold buildSchema
  generalize Entries.get? ds name = d at h ⊢
  generalize Entries.get? es name = e at h ⊢
  cases h with
  | none => exact .error (.same _)
  | some hnode =>
    obtain ⟨hfields, hoptions⟩ := hnode
    dsimp only
    rw [hoptions]
    refine (hfields.mapError (F := Failure.Alike) fun _ _ hde => .compile hde).bind ?_
    rintro fields _ rfl
    exact .refl .same (fun _ => rfl) _

/-- Definitions whose schemas are the same by name make the same schemas, up to the first that
fails. -/
theorem buildInto_related
    (h : ∀ name, Related Failure.Alike Eq (c.buildSchema ds name) (c.buildSchema es name))
    (given : Entries Schema) (names : List Scalar) :
    Related Failure.Alike Eq (c.buildInto ds given names) (c.buildInto es given names) := by
  induction names generalizing given with
  | nil => exact .ok rfl
  | cons name rest ih =>
    refine (h name).bind ?_
    rintro schema _ rfl
    exact ih _

end Compiler

namespace Likeness

variable {c : Compiler} {ds es : Definitions}

/-- Definitions that are alike make the same schemas, or fail for reasons that are alike. -/
theorem buildSchemas_same (h : same.Maps ds es) (names : Option (List Scalar)) :
    Related Failure.Alike Eq (c.buildSchemas ds names) (c.buildSchemas es names) := by
  unfold Compiler.buildSchemas
  rw [h.keys]
  refine Compiler.buildInto_related (fun name => Compiler.buildSchema_related ?_) [] _
  have hget := h.get? name
  generalize Entries.get? ds name = d at hget ⊢
  generalize Entries.get? es name = e at hget ⊢
  cases hget with
  | none => exact .none
  | @some n m hnode =>
    refine .some ⟨?_, ?_⟩
    · refine (buildNode_alike h hnode c.overrides ⟨name, 0, c.config.maxReferenceDepth⟩).mono
        fun x y _ _ hxy => ?_
      exact hxy.tables.eq
    · have hextension := hnode.extension
      unfold Compiler.options
      generalize n.extension = d at hextension ⊢
      generalize m.extension = e at hextension ⊢
      cases hextension with
      | none => rfl
      | some hde => rw [hde.eq]

end Likeness

end ApiStore
