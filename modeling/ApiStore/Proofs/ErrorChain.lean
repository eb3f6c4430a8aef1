import ApiStore.CompileError
/-
`ErrorChain.lean` -- chains of errors, and what they are the paths to.

The failure of a property has another error for its cause, and that one may be the failure
of a property again. What every link of such a chain reports is the same: its own key and
node, and the words of the one error that all of them end in, quoted once
(`CompileError.wellReported`). That is so for any chain, wherever it comes from.

**A path to the first offence.** What a chain says about the document depends on the phase
that it comes from. A `Phase` handles the properties of an object one after another, and the
failure of one can lie in another object, to which the property leads. `Phase.Path` says that
a chain takes that course from an object on: each of its links is the first property to fail
of the object that the link before it leads to, down to an error that is no property's
failure. Nothing is said about how a phase goes about it; what passes, what fails and what
leads where are given by the phase.
-/
set_option autoImplicit false

namespace ApiStore

namespace CompileError

/-! ## 1. Links -/

/-- The failures of properties along a chain, from the outside in. -/
def links : CompileError → List CompileError
  | .property key node cause => .property key node cause :: cause.links
  | _ => []

/-- The error that a chain ends in is not the failure of a property. -/
theorem innermost_kind (e : CompileError) : e.innermost.kind ≠ .propertyProcessing := by
  induction e with
  | property key node cause ih => exact ih
  | _ => exact nofun

/-- Every link ends in the same error. -/
theorem innermost_of_mem_links {e link : CompileError} (h : link ∈ e.links) :
    link.innermost = e.innermost := by
  induction e with
  | property key node cause ih =>
    rcases List.mem_cons.mp h with rfl | hrest
    · rfl
    · exact ih hrest
  | _ => cases h

/-- Every link of a chain ends in the same root. -/
theorem root_of_mem_links {e link : CompileError} (h : link ∈ e.links) : link.root = e.root := by
  rw [root, root, innermost_of_mem_links h]

/-- An error that is not the failure of a property is the end of its chain. -/
theorem innermost_of_kind {e : CompileError} (h : e.kind ≠ .propertyProcessing) :
    e.innermost = e := by
  cases e with
  | property key node cause => exact absurd rfl h
  | _ => rfl

/-- The message of such an error is its own. -/
theorem message_of_kind {e : CompileError} (h : e.kind ≠ .propertyProcessing) :
    e.message = e.plainMessage := by
  cases e with
  | property key node cause => exact absurd rfl h
  | _ => rfl

/-- The failure of a property has a cause. -/
theorem kind_of_cause?_eq_none {e : CompileError} (h : e.cause? = none) :
    e.kind ≠ .propertyProcessing := by
  cases e with
  | property key node cause => cases h
  | _ => exact nofun

/-- Where nothing else is the cause of the end of a chain, the end is the root, and its message is
quoted. -/
theorem root_of_cause?_innermost {e : CompileError} (h : e.innermost.cause? = none) :
    e.root = .compile e.innermost ∧ e.root.text = e.innermost.message := by
  have hroot : e.root = .compile e.innermost := by rw [root, h, Option.getD_none]
  refine ⟨hroot, ?_⟩
  rw [hroot, Cause.text, message_of_kind e.innermost_kind]

/-- A root cause that is a compile error is the end of the chain. -/
theorem innermost_of_root {e cause : CompileError} (h : e.root = .compile cause) :
    e.innermost = cause := by
  rw [root] at h
  cases hcause : e.innermost.cause? with
  | none =>
    rw [hcause] at h
    exact Cause.compile.inj h
  | some found =>
    rw [hcause, Option.getD_some] at h
    -- The end of a chain is caused by a fault, if by anything.
    cases hinnermost : e.innermost with
    | property key node cause => exact absurd (congrArg kind hinnermost) e.innermost_kind
    | _ =>
      rw [hinnermost] at hcause
      cases hcause <;> cases h

/-! ## 2. Reports -/

/-- The kinds of a report and of the reports that are nested in it as causes, from the outside
in. -/
inductive Nests : Value → List String → Prop
  | last {report : Value} {kind : String} (hkind : report.get? "kind" = some (.str kind))
    (hcause : report.get? "cause" = none ∨ report.get? "cause" = some .null) : Nests report [kind]
  | cause {report inner : Value} {kind : String} {kinds : List String}
    (hkind : report.get? "kind" = some (.str kind)) (hcause : report.get? "cause" = some inner)
    (hinner : Nests inner kinds) :
      Nests report (kind :: kinds)

/-- The kind of a cause that is no compile error. -/
def Cause.category? : Cause → Option String
  | .compile _ => none
  | .fault f => some f.category

/-- What every chain of errors reports. -/
structure WellReported (e : CompileError) : Prop where
  /-- It ends in an error that is not the failure of a property. -/
  ends : e.innermost.kind ≠ .propertyProcessing
  /-- The root cause is the same at every link. -/
  roots : ∀ link ∈ e.links, link.root = e.root
  /-- Every link tells its own key and node, and quotes the root cause. -/
  messages : ∀ key node cause, .property key node cause ∈ e.links →
    message (.property key node cause) =
      "Exception processing key \"" ++ key.display ++ "\" at: " ++ Json.snapshot node ++ ": " ++
        e.root.text
  /-- As data, it nests one report for each link, then that of the error it ends in, then its cause
  if it has one. -/
  reports : Nests e.toValue (List.replicate e.links.length ErrorKind.propertyProcessing.code ++
    e.innermost.kind.code :: e.root.category?.toList)

/-- A fault nests nothing. -/
theorem ofFault_nests (f : Fault) : Nests (ofFault f) [f.category] := .last rfl (.inl rfl)

/-- The report of an error that is not the failure of a property. -/
theorem toValue_nests_of_kind {e : CompileError} (h : e.kind ≠ .propertyProcessing) :
    Nests e.toValue (e.kind.code :: e.root.category?.toList) := by
  cases e with
  | property key node cause => exact absurd rfl h
  | specNotJson fault => exact .cause rfl rfl (ofFault_nests fault)
  | specNotYaml => exact .cause rfl rfl (ofFault_nests .yaml)
  | overrideMisfit key misfits node =>
    exact .cause rfl rfl (ofFault_nests (.misfit "ExtensionMeta" misfits))
  | _ => exact .last rfl (.inr rfl)

/-- An error nests one report for each link, then the innermost error, then the fault that caused
it. -/
theorem toValue_nests (e : CompileError) :
    Nests e.toValue (List.replicate e.links.length ErrorKind.propertyProcessing.code ++
      e.innermost.kind.code :: e.root.category?.toList) := by
  -- The induction is along the chain: each link adds one report around that of its cause.
  induction e with
  | property key node cause ih => exact .cause rfl rfl ih
  | _ => exact toValue_nests_of_kind nofun

/-- **Every chain is well reported.** -/
theorem wellReported (e : CompileError) : e.WellReported where
  ends := e.innermost_kind
  roots _ := root_of_mem_links
  messages key node cause h := by
    have hmessage : message (.property key node cause) =
        "Exception processing key \"" ++ key.display ++ "\" at: " ++ Json.snapshot node ++ ": " ++
          (CompileError.property key node cause).root.text := rfl
    rw [hmessage, root_of_mem_links h]
  reports := e.toValue_nests

end CompileError

/-! ## 3. Paths -/

/-- A phase that handles the properties of objects one after another. -/
structure Phase (σ π : Type) where
  /-- The properties of an object that are handled, in order. -/
  properties : σ → List π
  key : π → Scalar
  /-- The raw data of a property. -/
  raw : π → Value
  Passes : σ → π → Prop
  /-- A property fails, for a reason. -/
  Fails : σ → π → CompileError → Prop
  /-- A property leads to an object, which is handled along with it. -/
  Opens : σ → π → σ → Prop
  /-- What may be wrong with a property itself. -/
  Offence : CompileError → Prop
  offence_kind : ∀ {e}, Offence e → e.kind ≠ .propertyProcessing
  opens_unique : ∀ {object property inner other}, Opens object property inner →
    Opens object property other → inner = other

namespace Phase

variable {σ π : Type} (p : Phase σ π)

/-- A property is the first one of an object that fails, and all before it pass. -/
def FirstToFail (object : σ) (property : π) (cause : CompileError) : Prop :=
  ∃ before after, p.properties object = before ++ property :: after ∧
    (∀ other ∈ before, p.Passes object other) ∧ p.Fails object property cause

/-- An error is the path from an object to the first offence below it. -/
inductive Path : σ → CompileError → Prop
  | here {object : σ} {property : π} {cause : CompileError}
    (hfirst : p.FirstToFail object property cause) (hoffence : p.Offence cause) :
    Path object (.property (p.key property) (p.raw property) cause)
  | deeper {object inner : σ} {property : π} {cause : CompileError}
    (hfirst : p.FirstToFail object property cause) (hopens : p.Opens object property inner)
    (hinner : Path inner cause) :
    Path object (.property (p.key property) (p.raw property) cause)

/-- An error is an offence itself, or the path to one in an object that is reached. -/
def Blames (reached : σ → Prop) (e : CompileError) : Prop :=
  p.Offence e ∨ ∃ inner, reached inner ∧ p.Path inner e

variable {p}

/-- The first property to fail is one of the properties. -/
theorem FirstToFail.mem {object : σ} {property : π} {cause : CompileError}
    (h : p.FirstToFail object property cause) :
    property ∈ p.properties object := by
  obtain ⟨before, after, hsplit, -⟩ := h
  rw [hsplit]
  exact List.mem_append_right _ List.mem_cons_self

/-- It fails. -/
theorem FirstToFail.fails {object : σ} {property : π} {cause : CompileError}
    (h : p.FirstToFail object property cause) :
    p.Fails object property cause := by
  obtain ⟨_, _, -, -, hfails⟩ := h
  exact hfails

/-- What is blamed on some objects is blamed on any larger set of them. -/
theorem Blames.mono {reached others : σ → Prop} {e : CompileError} (h : p.Blames reached e)
    (hreached : ∀ object, reached object → others object) : p.Blames others e :=
  h.imp_right fun ⟨inner, hinner, hpath⟩ => ⟨inner, hreached inner hinner, hpath⟩

/-- A path goes on from its first property by what the property is blamed for. -/
theorem Path.of_blames {object : σ} {property : π} {cause : CompileError}
    (hfirst : p.FirstToFail object property cause) (h : p.Blames (p.Opens object property) cause) :
      p.Path object (.property (p.key property) (p.raw property) cause) := by
  rcases h with hoffence | ⟨inner, hopens, hinner⟩
  · exact .here hfirst hoffence
  · exact .deeper hfirst hopens hinner

/-- A path ends in an offence. -/
theorem Path.offence_innermost {object : σ} {e : CompileError} (h : p.Path object e) :
    p.Offence e.innermost := by
  induction h with
  | @here object property cause hfirst hoffence =>
    have hend : cause.innermost = cause := CompileError.innermost_of_kind (p.offence_kind hoffence)
    rw [CompileError.innermost, hend]
    exact hoffence
  | deeper hfirst hopens hinner ih => exact ih

end Phase

end ApiStore
