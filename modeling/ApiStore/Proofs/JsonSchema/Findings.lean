import ApiStore.JsonSchema.Validation
import ApiStore.Proofs.Outcome
/-
`Findings.lean` -- what a check against a JSON Schema comes to.

A check is a list of smaller checks, and what it finds is all that they find, in order. So
two questions about it split into the same questions about its parts: whether it ends
without a fault, and whether it ends with nothing found. Here both are split once for each
of the three ways in which checks are put together, keyword by keyword, item by item and
property by property. What single keywords find is told from their own definitions.
-/
set_option autoImplicit false

namespace ApiStore.JsonSchema

/-- A check ends without a fault. -/
def Ends (x : Findings) : Prop := ∃ found, x = .ok found

/-- A check that found something, or nothing, has come to its end. -/
theorem Ends.ok (found : List Issue) : Ends (.ok found) := ⟨found, rfl⟩

/-- A check decides a question: it ends, and finds nothing exactly if the answer is yes. -/
def Decides (x : Findings) (p : Prop) : Prop := Ends x ∧ (x = .ok [] ↔ p)

/-- What decides a condition decides any that is equivalent. -/
theorem Decides.congr {x : Findings} {p q : Prop} (h : Decides x p) (hpq : p ↔ q) : Decides x q :=
  ⟨h.1, h.2.trans hpq⟩

/-- A check that finds nothing in any case. -/
theorem Decides.nothing {p : Prop} (h : p) : Decides (.ok []) p := ⟨.ok [], iff_of_true rfl h⟩

/-! ## 1. Two checks, one after the other -/

section Both

variable {x y : Findings} {join : List Issue → List Issue → List Issue}

/-- Two checks come to an end if each of them does. -/
theorem Ends.both (hx : Ends x) (hy : Ends y) :
    Ends (x >>= fun here => y >>= fun others => pure (join here others)) := by
  obtain ⟨here, rfl⟩ := hx
  obtain ⟨others, rfl⟩ := hy
  exact ⟨join here others, rfl⟩

/-- Two checks find nothing if each of them finds nothing, provided that no finding is lost when
they are joined. -/
theorem both_eq_nil_iff (hjoin : ∀ here others, join here others = [] ↔ here = [] ∧ others = []) :
    (x >>= fun here => y >>= fun others => pure (join here others)) = .ok [] ↔ x = .ok [] ∧
      y = .ok [] := by
  constructor
  · intro h
    obtain ⟨here, hx, h⟩ := Outcome.bind_eq_ok_iff.mp h
    obtain ⟨others, hy, h⟩ := Outcome.bind_eq_ok_iff.mp h
    obtain ⟨rfl, rfl⟩ := (hjoin here others).mp (Except.ok.inj h)
    exact ⟨hx, hy⟩
  · rintro ⟨rfl, rfl⟩
    exact congrArg Except.ok ((hjoin [] []).mpr ⟨rfl, rfl⟩)

end Both

/-- Two checks together find nothing if neither does. -/
theorem append_findings (here others : List Issue) :
    here ++ others = [] ↔ here = [] ∧ others = [] :=
  List.append_eq_nil_iff

/-- The same with the findings of the first check put further down. -/
theorem append_within_findings (place rule : List Scalar) (here others : List Issue) :
    here.map (Issue.within place rule) ++ others = [] ↔ here = [] ∧ others = [] := by
  rw [List.append_eq_nil_iff, List.map_eq_nil_iff]

/-! ## 2. Keywords, items and properties -/

section Lists

variable {v : Value} {entries : Entries Value}

/-- A schema comes to an end if all its keywords do. -/
theorem issues_ends {schema : List Keyword} (h : ∀ k ∈ schema, Ends (keywordIssues k v)) :
    Ends (issues schema v) := by
  induction schema with
  | nil => exact .ok []
  | cons k rest ih =>
    obtain ⟨hk, hrest⟩ := List.forall_mem_cons.mp h
    rw [issues]
    exact hk.both (ih hrest)

/-- A schema finds nothing if none of its keywords does. -/
theorem issues_eq_nil_iff {schema : List Keyword} :
    issues schema v = .ok [] ↔ ∀ k ∈ schema, keywordIssues k v = .ok [] := by
  induction schema with
  | nil => exact iff_of_true rfl nofun
  | cons k rest ih => rw [issues, both_eq_nil_iff append_findings, List.forall_mem_cons, ih]

/-- Checks one after another decide everything that each of them decides. -/
theorem Decides.cons {k : Keyword} {schema : List Keyword} {p q : Prop}
    (hk : Decides (keywordIssues k v) p) (hschema : Decides (issues schema v) q) :
    Decides (issues (k :: schema) v) (p ∧ q) := by
  rw [issues]
  exact ⟨hk.1.both hschema.1, (both_eq_nil_iff append_findings).trans (and_congr hk.2 hschema.2)⟩

/-- A schema without keywords asks for nothing. -/
theorem Decides.nil {p : Prop} (h : p) : Decides (issues [] v) p := .nothing h

/-- A schema of one keyword decides what the keyword does. -/
theorem Decides.single {k : Keyword} {p : Prop} (hk : Decides (keywordIssues k v) p) :
    Decides (issues [k] v) p :=
  (hk.cons (.nil trivial)).congr (and_iff_left trivial)

/-- What two schemas find together. -/
theorem issues_append (first second : List Keyword) :
    issues (first ++ second) v =
      issues first v >>= fun here => issues second v >>= fun others => pure (here ++ others) := by
  induction first with
  | nil => exact (bind_pure _).symm
  | cons k rest ih =>
    simp only [List.cons_append, issues, ih, bind_assoc, pure_bind, List.append_assoc]

/-- A schema in two parts decides both conditions. -/
theorem Decides.append {first second : List Keyword} {p q : Prop}
    (hfirst : Decides (issues first v) p) (hsecond : Decides (issues second v) q) :
    Decides (issues (first ++ second) v) (p ∧ q) := by
  rw [issues_append]
  exact ⟨hfirst.1.both hsecond.1, (both_eq_nil_iff append_findings).trans
    (and_congr hfirst.2 hsecond.2)⟩

/-- To check all items comes to an end if the check of each of them does. -/
theorem eachItem_ends {check : Value → Findings} {items : List Value} (i : Nat)
    (h : ∀ item ∈ items, Ends (check item)) :
    Ends (eachItem check i items) := by
  induction items generalizing i with
  | nil => exact .ok []
  | cons item rest ih =>
    obtain ⟨hitem, hrest⟩ := List.forall_mem_cons.mp h
    rw [eachItem]
    exact hitem.both (ih (i + 1) hrest)

/-- The items of a list are fine if each of them is. -/
theorem eachItem_eq_nil_iff {check : Value → Findings} {items : List Value} {i : Nat} :
    eachItem check i items = .ok [] ↔ ∀ item ∈ items, check item = .ok [] := by
  induction items generalizing i with
  | nil => exact iff_of_true rfl nofun
  | cons item rest ih =>
    rw [eachItem, both_eq_nil_iff (append_within_findings _ _), List.forall_mem_cons, ih]

/-- What the schema of a property finds; nothing if the property is not there. -/
def presentIssues (schema : List Keyword) : Option Value → Findings
  | some w => issues schema w
  | none => .ok []

/-- The first property is checked before the others, with its findings put under its name. -/
theorem propertyIssues_cons (key : Scalar) (schema : List Keyword)
    (rest : List (Scalar × List Keyword)) :
    propertyIssues ((key, schema) :: rest) entries =
      presentIssues schema (Entries.get? entries key) >>=
        fun here => propertyIssues rest entries >>= fun others =>
        pure (here.map (Issue.within [key] [.str "properties", key]) ++ others) := by
  rw [propertyIssues]
  cases Entries.get? entries key <;> rfl

/-- A value that may be missing is checked to the end if it is when it is there. -/
theorem presentIssues_ends {schema : List Keyword} {present : Option Value}
    (h : ∀ w, present = some w → Ends (issues schema w)) : Ends (presentIssues schema present) := by
  cases present with
  | none => exact .ok []
  | some w => exact h w rfl

/-- A missing value is in order, and one that is there if its check finds nothing. -/
theorem presentIssues_eq_nil_iff {schema : List Keyword} {present : Option Value} :
    presentIssues schema present = .ok [] ↔ ∀ w, present = some w → issues schema w = .ok [] := by
  cases present <;> simp [presentIssues]

/-- All properties are checked to the end if each of them is that is there. -/
theorem propertyIssues_ends {schemas : List (Scalar × List Keyword)}
    (h : ∀ property ∈ schemas, ∀ w, Entries.get? entries property.1 = some w →
      Ends (issues property.2 w)) :
    Ends (propertyIssues schemas entries) := by
  induction schemas with
  | nil => exact .ok []
  | cons property rest ih =>
    obtain ⟨key, schema⟩ := property
    obtain ⟨hfirst, hrest⟩ := List.forall_mem_cons.mp h
    rw [propertyIssues_cons]
    exact (presentIssues_ends hfirst).both (ih hrest)

/-- The properties of a table are fine if each one is that is there. -/
theorem propertyIssues_eq_nil_iff {schemas : List (Scalar × List Keyword)} :
    propertyIssues schemas entries = .ok [] ↔
      ∀ property ∈ schemas, ∀ w, Entries.get? entries property.1 = some w →
        issues property.2 w = .ok [] := by
  induction schemas with
  | nil => exact iff_of_true rfl nofun
  | cons property rest ih =>
    obtain ⟨key, schema⟩ := property
    rw [propertyIssues_cons, both_eq_nil_iff (append_within_findings _ _), presentIssues_eq_nil_iff,
      List.forall_mem_cons, ih]

/-- What is found about properties is found at one that is there and not fine, and says so. -/
theorem exists_property_of_mem_issues {schemas : List (Scalar × List Keyword)} {found : List Issue}
    (h : propertyIssues schemas entries = .ok found) {issue : Issue} (hissue : issue ∈ found) :
    ∃ property ∈ schemas, presentIssues property.2 (Entries.get? entries property.1) ≠ .ok [] ∧
      issue.place.head? = some property.1 := by
  induction schemas generalizing found with
  | nil =>
    rw [← Except.ok.inj h] at hissue
    cases hissue
  | cons property rest ih =>
    obtain ⟨key, schema⟩ := property
    rw [propertyIssues_cons] at h
    obtain ⟨here, hhere, h⟩ := Outcome.bind_eq_ok_iff.mp h
    obtain ⟨others, hothers, h⟩ := Outcome.bind_eq_ok_iff.mp h
    rw [← Except.ok.inj h, List.mem_append] at hissue
    rcases hissue with hown | hother
    · obtain ⟨inner, hinner, rfl⟩ := List.mem_map.mp hown
      refine ⟨_, List.mem_cons_self, ?_, rfl⟩
      rw [hhere]
      intro hnone
      rw [Except.ok.inj hnone] at hinner
      cases hinner
    · obtain ⟨later, hlater, hbad, hplace⟩ := ih hothers hother
      exact ⟨later, List.mem_cons_of_mem _ hlater, hbad, hplace⟩

end Lists

/-! ## 3. Single keywords -/

section Keywords

variable {v : Value}

/-- Nothing is noted if all is fine. -/
theorem noted_eq_nil_iff {fine : Bool} {keyword message : String} :
    noted fine keyword message = [] ↔ fine = true := by
  cases fine <;> simp [noted]

/-- So a note decides whether all is fine. -/
theorem decides_noted (fine : Bool) (keyword message : String) :
    Decides (.ok (noted fine keyword message)) (fine = true) := by
  refine ⟨.ok _, ?_⟩
  rw [Except.ok.injEq, noted_eq_nil_iff]

/-- `type` with the name of a type finds one thing wrong at most. -/
theorem typeIssues_str {name : String} {fits : Bool} (h : hasType? name v = some fits) :
    typeIssues (.str name) v = .ok (noted fits "type"
      (v.literal ++ " is not of type " ++
        ", ".intercalate ([Value.str name].map Value.literal))) := by
  have hfits : hasAnyType v [.str name] = .ok fits := by
    rw [hasAnyType, hasType, h]
    cases fits <;> rfl
  simp only [typeIssues, typeNames, bind, Except.bind, hfits]
  rfl

/-- The check of a type decides whether the value has it. -/
theorem typeIssues_decides {name : String} {fits : Bool} (h : hasType? name v = some fits) :
    Decides (typeIssues (.str name) v) (fits = true) := by
  rw [typeIssues_str h]
  exact decides_noted fits _ _

/-- `type: object` is for tables only. -/
theorem type_object_decides (v : Value) :
    Decides (keywordIssues (.type (.str "object")) v) (∃ entries, v = .map entries) := by
  rw [keywordIssues]
  cases v with
  | map entries => exact (typeIssues_decides rfl).congr (iff_of_true rfl ⟨entries, rfl⟩)
  | _ => exact (typeIssues_decides rfl).congr (iff_of_false Bool.false_ne_true nofun)

/-- `type: array` is for lists only. -/
theorem type_array_decides (v : Value) :
    Decides (keywordIssues (.type (.str "array")) v) (∃ items, v = .list items) := by
  rw [keywordIssues]
  cases v with
  | list items => exact (typeIssues_decides rfl).congr (iff_of_true rfl ⟨items, rfl⟩)
  | _ => exact (typeIssues_decides rfl).congr (iff_of_false Bool.false_ne_true nofun)

end Keywords

end ApiStore.JsonSchema
