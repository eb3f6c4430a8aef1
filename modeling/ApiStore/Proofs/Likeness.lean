import ApiStore.Node.Reading
import ApiStore.Proofs.Entries
import ApiStore.Proofs.ErrorChain
/-
`Likeness.lean` -- outcomes of two documents that are alike.

Several laws compare what becomes of a document with what becomes of another one that was
made from it. Where both compile, the compiled values are to be the same, or the same up to
what the document quotes in them: a default, or an option of an override, stands in the
output as it stood in the document. A `Likeness` says how the quoted values of the two
documents go together and which keys the tables may have, and `Likeness.Values` extends
that to compiled values.

Where the two fail, the reports cannot be the same, since a report shows the node at fault.
What is the same is its course: the kinds of the errors in the chain and the keys of the
properties that lead to the offence (`CompileError.Alike`).
-/
set_option autoImplicit false

namespace ApiStore

/-! ## 1. Outcomes -/

namespace Outcome

variable {ε ε' δ δ' α β α' β' : Type}

/-- Two outcomes go together: two values that do, or two errors that do. -/
inductive Related (E : ε → ε' → Prop) (R : α → β → Prop) : Except ε α → Except ε' β → Prop
  | ok {a : α} {b : β} (h : R a b) : Related E R (.ok a) (.ok b)
  | error {d : ε} {e : ε'} (h : E d e) : Related E R (.error d) (.error e)

namespace Related

variable {E : ε → ε' → Prop} {F : δ → δ' → Prop} {R : α → β → Prop} {S : α' → β' → Prop}
  {x : Except ε α} {y : Except ε' β}

/-- Related outcomes stay related through related steps. -/
theorem bind {f : α → Except ε α'} {g : β → Except ε' β'} (h : Related E R x y)
    (hfg : ∀ a b, R a b → Related E S (f a) (g b)) : Related E S (x >>= f) (y >>= g) := by
  cases h with
  | ok hab => exact hfg _ _ hab
  | error he => exact .error he

/-- They stay related under maps that keep their values related. -/
theorem map {f : α → α'} {g : β → β'} (h : Related E R x y) (hfg : ∀ a b, R a b → S (f a) (g b)) :
    Related E S (x.map f) (y.map g) := by
  cases h with
  | ok hab => exact .ok (hfg _ _ hab)
  | error he => exact .error he

/-- They stay related under maps that keep their errors related. -/
theorem mapError {f : ε → δ} {g : ε' → δ'} (h : Related E R x y)
    (hfg : ∀ d e, E d e → F (f d) (g e)) :
    Related F R (x.mapError f) (y.mapError g) := by
  cases h with
  | ok hab => exact .ok hab
  | error he => exact .error (hfg _ _ he)

/-- They are related more loosely if their values are. -/
theorem mono {R' : α → β → Prop} (h : Related E R x y)
    (hr : ∀ a b, x = .ok a → y = .ok b → R a b → R' a b) :
    Related E R' x y := by
  cases h with
  | ok hab => exact .ok (hr _ _ rfl rfl hab)
  | error he => exact .error he

/-- An outcome is related to itself if values and errors are. -/
theorem refl {E : ε → ε → Prop} {R : α → α → Prop} (he : ∀ e, E e e) (hr : ∀ a, R a a)
    (x : Except ε α) :
    Related E R x x := by
  cases x with
  | ok a => exact .ok (hr a)
  | error e => exact .error (he e)

/-- What goes together with a value is a value. -/
theorem exists_of_ok {a : α} (h : Related E R (.ok a) y) : ∃ b, y = .ok b ∧ R a b := by
  cases h with
  | ok hab => exact ⟨_, rfl, hab⟩

/-- Values that go together are related. -/
theorem of_ok {a : α} {b : β} (h : Related E R (.ok a) (.ok b)) : R a b := by
  cases h
  assumption

/-- Outcomes that go together are values both or errors both. -/
theorem exists_ok_iff (h : Related E R x y) : (∃ a, x = .ok a) ↔ ∃ b, y = .ok b := by
  cases h with
  | ok _ => exact iff_of_true ⟨_, rfl⟩ ⟨_, rfl⟩
  | error _ => simp

/-- Errors that go together in two steps, with values that stay the same in the first. -/
theorem trans {E : ε → ε → Prop} {R : α → α → Prop} {x y z : Except ε α}
    (hE : ∀ {c d e}, E c d → E d e → E c e) (h : Related E Eq x y) (h' : Related E R y z) :
    Related E R x z := by
  cases h with
  | ok hab => exact hab ▸ h'
  | error hcd =>
    cases h' with
    | error hde => exact .error (hE hcd hde)

end Related

end Outcome

/-- What goes together is there in both or in neither. -/
theorem isSome_eq_of_rel {α β : Type} {R : α → β → Prop} {a : Option α} {b : Option β}
    (h : Option.Rel R a b) :
    a.isSome = b.isSome := by
  cases h <;> rfl

/-! ## 2. Errors -/

/-- The kinds of an error and of what it was caused by, from the outside in. -/
def CompileError.kinds : CompileError → List String
  | .property _ _ cause => ErrorKind.propertyProcessing.code :: cause.kinds
  | e => e.kind.code :: e.root.category?.toList

/-- Two errors of one kind, with the same chain of kinds and the same keys of properties along
it. -/
structure CompileError.Alike (d e : CompileError) : Prop where
  kind : d.kind = e.kind
  kinds : d.kinds = e.kinds
  path : d.path = e.path

/-- Two failures that are the same, or compile errors that are alike. -/
inductive Failure.Alike : Failure → Failure → Prop
  | same (f : Failure) : Alike f f
  | compile {d e : CompileError} (h : d.Alike e) : Alike (.compile d) (.compile e)

/-- An error is like itself. -/
theorem CompileError.Alike.refl (e : CompileError) : e.Alike e := ⟨rfl, rfl, rfl⟩

/-- Errors that are like the same error are alike. -/
theorem CompileError.Alike.trans {c d e : CompileError} (h : c.Alike d) (h' : d.Alike e) :
    c.Alike e :=
  ⟨h.kind.trans h'.kind, h.kinds.trans h'.kinds, h.path.trans h'.path⟩

/-- The failures of a property for reasons that are alike. -/
theorem CompileError.Alike.property {d e : CompileError} (h : d.Alike e) (key : Scalar)
    (node other : Value) :
    CompileError.Alike (.property key node d) (.property key other e) :=
  ⟨rfl, congrArg (ErrorKind.propertyProcessing.code :: ·) h.kinds, congrArg (key :: ·) h.path⟩

/-- Failures that are alike, each reported as that of a property of one name. -/
theorem Failure.Alike.underProperty {f g : Failure} (h : f.Alike g) (key : Scalar)
    (node other : Value) :
    Failure.Alike (ApiStore.underProperty key node f) (ApiStore.underProperty key other g) := by
  cases h with
  | compile hde => exact .compile (hde.property key node other)
  | same f =>
    cases f with
    | compile e => exact .compile ((CompileError.Alike.refl e).property key node other)
    | _ => exact .same _

/-! ## 3. Values -/

/-- How the quoted values of two documents go together, and which keys the tables of both have. All
names that are not reserved are among them. -/
structure Likeness where
  Quoted : Value → Value → Prop
  Key : Scalar → Prop
  key_of_not_reserved : ∀ name, reservedNames.contains name = false → Key (.str name)

namespace Likeness

mutual

/-- Compiled values that are the same up to what is quoted in them. -/
inductive Values (L : Likeness) : Value → Value → Prop
  | atom (s : Scalar) : Values L (.scalar s) (.scalar s)
  | marker {v w : Value} (h : Values L v w) : Values L (.list [v]) (.list [w])
  | table {x y : List (Scalar × Value)} (h : Tables L x y) : Values L (.map x) (.map y)

/-- Tables under the same keys in the same order. An entry was made by the compiler, or is
quoted. -/
inductive Tables (L : Likeness) : List (Scalar × Value) → List (Scalar × Value) → Prop
  | nil : Tables L [] []
  | made {k : Scalar} {v w : Value} {x y : List (Scalar × Value)} (hk : L.Key k) (h : Values L v w)
    (rest : Tables L x y) :
    Tables L ((k, v) :: x) ((k, w) :: y)
  | quoted {k : Scalar} {v w : Value} {x y : List (Scalar × Value)} (hk : L.Key k)
    (h : L.Quoted v w) (rest : Tables L x y) :
    Tables L ((k, v) :: x) ((k, w) :: y)

end

variable {L : Likeness}

namespace Tables

variable {x y : Entries Value}

/-- Tables that are alike stay so with tables behind them that are alike. -/
theorem append {x' y' : Entries Value} (h : L.Tables x y) (h' : L.Tables x' y') :
    L.Tables (x ++ x') (y ++ y') := by
  induction x generalizing y with
  | nil =>
    cases h
    exact h'
  | cons entry rest ih =>
    cases h with
    | made hk hv hrest => exact .made hk hv (ih hrest)
    | quoted hk hv hrest => exact .quoted hk hv (ih hrest)

/-- Setting a key in both tables to values that go together. -/
theorem insert (h : L.Tables x y) {k : Scalar} (hk : L.Key k) {v w : Value}
    (hv : L.Values v w ∨ L.Quoted v w) :
    L.Tables (Entries.insert x k v) (Entries.insert y k w) := by
  have hcons : ∀ {l x y}, L.Key l → L.Tables x y → L.Tables ((l, v) :: x) ((l, w) :: y) :=
    fun hl hrest => hv.elim (.made hl · hrest) (.quoted hl · hrest)
  induction x generalizing y with
  | nil =>
    cases h
    exact hcons hk .nil
  | cons entry rest ih =>
    cases h with
    | made hl hu hrest =>
      rw [Entries.insert, Entries.insert]
      split
      · exact hcons hl hrest
      · exact .made hl hu (ih hrest)
    | quoted hl hu hrest =>
      rw [Entries.insert, Entries.insert]
      split
      · exact hcons hl hrest
      · exact .quoted hl hu (ih hrest)

/-- Laying tables that go together over tables that do. -/
theorem overlay {u u' : Entries Value} (h : L.Tables x y) (hu : L.Tables u u') :
    L.Tables (Entries.overlay x u) (Entries.overlay y u') := by
  induction u generalizing x y u' with
  | nil =>
    cases hu
    exact h
  | cons entry rest ih =>
    cases hu with
    | made hk hv hrest =>
      rw [Entries.overlay_cons, Entries.overlay_cons]
      exact ih (h.insert hk (.inl hv)) hrest
    | quoted hk hv hrest =>
      rw [Entries.overlay_cons, Entries.overlay_cons]
      exact ih (h.insert hk (.inr hv)) hrest

end Tables

end Likeness

end ApiStore
