import ApiStore.Proofs.Locality
/-
`Passage.lean` -- from a property outwards to the fields of its definition.

An override of options is added to a property somewhere inside a definition. What the property
compiles to is known (`Node.Paired.buildProperty_laid`). What is left is to find it again in
the fields of the definition, under the same path in which it stands in the document.

**One step at a time.** An object has the property for an entry, and an array has the items in
its type. What is done to the tables on the way is the same in both documents: a default, the
mark of a required field, an override of their own (`Value.AgreeAt.overlay`). Only the mark
depends on what is inside, for a table is marked if it counts as a single field. But the mark
stands under the name `required`, and a path that goes on under that name does not touch the
type (`Entries.AgreeAt.single`).
-/
set_option autoImplicit false

namespace ApiStore

open Node Outcome

/-! ## 1. Paths to the override -/

/-- A path leads from a node at a place to the property to which an override is added; none counted
for it. -/
structure Node.Leads (options : Entries Value) (place : List Scalar) (path : List Step)
    (n m : Node) : Prop where
  paired : Paired (Added (place ++ Step.place path) options) place n m
  last : ∃ key, path.getLast? = some (.property key)
  property : ∃ p, n.at? path = some p ∧ p.override? = none ∧ p.form ≠ .dropped

namespace Node.Leads

variable {options : Entries Value} {place : List Scalar} {path rest : List Step} {n m : Node}

theorem ne_nil (h : Leads options place path n m) : path ≠ [] := by
  rintro rfl
  obtain ⟨key, hkey⟩ := h.last
  cases hkey

/-- The property is further away than the items of the node. -/
theorem two_le (h : Leads options place path n m) : 2 ≤ (Step.place path).length := by
  obtain ⟨key, hkey⟩ := h.last
  obtain ⟨before, rfl⟩ := List.getLast?_eq_some_iff.mp hkey
  simp [Step.place, Step.keys]

theorem ne_append (h : Leads options place path n m) {below : List Scalar}
    (hbelow : below.length < 2) :
    place ++ below ≠ place ++ Step.place path := by
  intro heq
  have hle := h.two_le
  rw [← List.append_cancel_left heq] at hle
  omega

theorem extension (h : Leads options place path n m) : n.extension = m.extension := by
  refine Added.kept h.paired.own ?_
  have hne := h.ne_append (by simp : ([] : List Scalar).length < 2)
  rwa [List.append_nil] at hne

/-- The items of an array that is not the end of the path keep their override. -/
theorem items_extension {f g : Facts} {i j : Node}
    (h : Leads options place path (.array f i) (.array g j)) :
    i.extension = j.extension := by
  cases h.paired with
  | array _ _ hitems => exact Added.kept hitems.own (h.ne_append (by simp))

theorem hasItemOverride (h : Leads options place path n m) :
    n.hasItemOverride = m.hasItemOverride := by
  have hpaired := h.paired
  cases hpaired with
  | array _ _ _ => rw [Node.hasItemOverride, Node.hasItemOverride, h.items_extension]
  | _ => rfl

/-- The override that counts on the way has one payload. -/
theorem resolve_eq (h : Leads options place path n m) {overrides : OverrideRules}
    {payload : Option (Entries Value)} (hn : overrides.resolve n = .ok payload) :
    overrides.resolve m = .ok payload := by
  have hoverride : Option.Rel (fun d e => d.1 = e.1 ∧
      Option.Rel Pointer.Alike d.2 e.2) n.override? m.override? := by
    have hpointer := h.paired.pointer?
    have hown := h.extension
    unfold Node.override?
    rw [← hown]
    cases n.extension with
    | some e => exact .some ⟨rfl, hpointer⟩
    | none =>
      have hpaired := h.paired
      cases hpaired with
      | @array _ _ _ i j _ _ hitems =>
        dsimp only
        rw [← h.items_extension]
        cases i.extension with
        | none => exact .none
        | some e => exact .some ⟨rfl, hitems.pointer?⟩
      | _ => exact .none
  unfold OverrideRules.resolve at hn ⊢
  generalize n.override? = d at hoverride hn
  generalize m.override? = e at hoverride ⊢
  cases hoverride with
  | none => exact hn
  | @some d e hde =>
    obtain ⟨entries, hentries, rfl⟩ := map_eq_ok_iff.mp hn
    obtain ⟨hsame, hpointer⟩ := hde
    have hoverrides : Likeness.same.Overrides d.1 e.1 := by
      rw [← hsame]
      exact ⟨rfl, rfl, Likeness.tables_refl _⟩
    have halike : Related CompileError.Alike Likeness.same.Tables (overrides.payload n.raw d.1 d.2)
        (overrides.payload m.raw e.1 e.2) := Likeness.payload_alike hoverrides hpointer n.raw m.raw
    rw [hentries] at halike
    obtain ⟨others, hothers, htables⟩ := halike.exists_of_ok
    dsimp only
    rw [hothers, htables.eq]
    rfl

/-- A step into a property leads on to one property of the two objects. -/
theorem of_property {f g : Facts} {ps qs : List (String × Node)} {required names : List String}
    {key : String}
    (h : Leads options place (.property key :: rest) (.object f ps required) (.object g qs names)) :
    ∃ child child', ps.lookup key = some child ∧ qs.lookup key = some child' ∧
      child.form ≠ .dropped ∧
      Paired (Added (place ++ [.str "properties"] ++ [.str key] ++ Step.place rest) options)
        (place ++ [.str "properties"] ++ [.str key]) child child' ∧
      (rest = [] ∧ child.override? = none ∨
        Leads options (place ++ [.str "properties"] ++ [.str key]) rest child child') := by
  obtain ⟨p, hat, hp⟩ := h.property
  obtain ⟨child, hchild, hat⟩ := Option.bind_eq_some_iff.mp hat
  have hplace : place ++ Step.place (.property key :: rest) =
      place ++ [.str "properties"] ++ [.str key] ++ Step.place rest := by
    simp [Step.place_cons, Step.keys]
  have hpaired := h.paired
  rw [hplace] at hpaired
  cases hpaired with
  | object _ hproperties =>
    obtain ⟨child', hchild', hnode⟩ := hproperties.lookup hchild
    refine ⟨child, child', hchild, hchild', ?_, hnode, ?_⟩
    · cases rest with
      | nil =>
        obtain rfl := Option.some.inj hat
        exact hp.2
      | cons step rest =>
        -- Only objects and arrays have parts.
        cases child with
        | object facts _ _ => simp [Node.form, Node.hasItemOverride, Node.plainForm]
        | array facts items =>
          simp only [Node.form, Node.plainForm]
          split_ifs <;> simp
        | _ => cases step <;> cases hat
    · cases rest with
      | nil =>
        obtain rfl := Option.some.inj hat
        exact .inl ⟨rfl, hp.1⟩
      | cons step rest => exact .inr ⟨hnode, by simpa using h.last, p, hat, hp⟩

/-- A step into items leads on to the items of the two arrays, which are no pointers. -/
theorem of_items {f g : Facts} {i j : Node}
    (h : Leads options place (.items :: rest) (.array f i) (.array g j)) :
    Leads options (place ++ [.str "items"]) rest i j ∧ i.ownPointer? = none ∧
      j.ownPointer? = none := by
  obtain ⟨p, hat, hp⟩ := h.property
  have hplace : place ++ Step.place (.items :: rest) = place ++ [.str "items"] ++
      Step.place rest := by
    simp [Step.place_cons, Step.keys]
  have hpaired := h.paired
  rw [hplace] at hpaired
  cases hpaired with
  | array _ _ hitems =>
    cases rest with
    | nil =>
      obtain ⟨key, hkey⟩ := h.last
      cases hkey
    | cons step rest =>
      have hleads : Leads options (place ++ [.str "items"]) (step :: rest) i j :=
        ⟨hitems, by simpa using h.last, p, hat, hp⟩
      have hpointer := hitems.ownPointer?
      cases i with
      | reference facts pointer => cases step <;> cases hat
      | _ =>
        refine ⟨hleads, rfl, ?_⟩
        change Option.Rel _ none _ at hpointer
        generalize j.ownPointer? = q at hpointer ⊢
        cases hpointer
        rfl

end Node.Leads

/-! ## 2. One step outwards -/

/-- How compiled values go together that may have options laid over them: every value with itself,
and one that is not dropped with itself under the options. -/
structure Value.Passes (options : Entries Value) (R : Value → Value → Prop) : Prop where
  refl : ∀ v, R v v
  laid : ∀ c : Compiled, c.form ≠ .dropped → R c.toValue (.map (c.base.overlay options))

/-- Tables on the way that agree at the end of the path. Where the path goes on into a property
called `required`, they also have to be single fields or not, for the mark of a required field
stands under that name. -/
structure Entries.AgreeAt (R : Value → Value → Prop) (path : List Step) (x y : Entries Value) :
    Prop where
  agree : (Value.map x).AgreeAt R path (.map y)
  single : path.head? = some (.property "required") → isField x = isField y

section Along

variable {options : Entries Value} {overrides : OverrideRules}
  {f g : Scalar → String → Except CompileError (Entries Value)} {R : Value → Value →
    Prop} {place : List Scalar}
  {path rest : List Step} {n m : Node}

/-- The mark of a required field makes no difference. -/
theorem Entries.AgreeAt.markRequired (hR : ∀ v, R v v) (hpath : path ≠ []) {x y : Entries Value}
    (h : Entries.AgreeAt R path x y) (required : Bool) :
    ∃ x' y', BuildRules.markRequired required (.table x) = .table x' ∧
      BuildRules.markRequired required (.table y) = .table y' ∧
        (Value.map x').AgreeAt R path (.map y') := by
  have hmark : ∀ fields, BuildRules.markRequired required (.table fields) = .table
      (if required && isField fields then Entries.insert fields (.str "required")
        (.bool true) else fields) := by
    intro fields
    rw [BuildRules.markRequired]
    split <;> rfl
  refine ⟨_, _, hmark x, hmark y, ?_⟩
  by_cases hhead : path.head? = some (.property "required")
  · rw [h.single hhead]
    split
    · exact h.agree.insert hR hpath _ _
    · exact h.agree
  · have hother : ∀ step, path.head? = some step → step.entry ≠ "required" := by
      rintro (name | _) hstep heq
      · exact hhead (hstep.trans (congrArg (some ∘ Step.property) heq))
      · simp [Step.entry] at heq
    have hsame : ∀ fields, (Value.map (if required && isField fields then
        Entries.insert fields (.str "required") (.bool true) else fields)).at? path =
          (Value.map fields).at? path := by
      intro fields
      split
      · exact Value.at?_insert hpath hother fields _
      · rfl
    unfold Value.AgreeAt
    rw [hsame, hsame]
    exact h.agree

/-- A property on the way agrees if its own shape does. -/
theorem Node.Leads.buildProperty_agreeAt (h : Leads options place path n m) (hR : ∀ v, R v v)
    {owner : Scalar} {required : Bool} {key : String} {c d : Compiled}
    (hplain : ∀ plain plain', BuildRules.buildPlain ⟨overrides, f⟩ owner key n = .ok plain →
      BuildRules.buildPlain ⟨overrides, g⟩ owner key m = .ok plain' → m.hasItemOverride = false →
      ∃ x y, plain = .table x ∧ plain' = .table y ∧ Entries.AgreeAt R path x y)
    (hc : BuildRules.buildProperty ⟨overrides, f⟩ owner required key n = .ok c)
    (hd : BuildRules.buildProperty ⟨overrides, g⟩ owner required key m = .ok d) :
    c.toValue.AgreeAt R path d.toValue := by
  rw [BuildRules.buildProperty, mapError_eq_ok_iff] at hc hd
  rw [← h.hasItemOverride] at hd
  cases hitems : n.hasItemOverride with
  | true =>
    -- The override of the items stands for the property, and it is the same.
    rw [hitems, if_pos rfl, OverrideRules.arrayOf] at hc hd
    obtain ⟨payload, hpayload, rfl⟩ := map_eq_ok_iff.mp hc
    rw [h.resolve_eq hpayload] at hd
    obtain rfl := Except.ok.inj hd
    exact .refl hR path _
  | false =>
    rw [hitems, if_neg Bool.false_ne_true] at hc hd
    obtain ⟨plain, hn, hc⟩ := bind_eq_ok_iff.mp hc
    obtain ⟨plain', hm, hd⟩ := bind_eq_ok_iff.mp hd
    obtain ⟨x, y, rfl, rfl, hxy⟩ := hplain plain plain' hn hm (h.hasItemOverride ▸ hitems)
    obtain ⟨x', y', hx, hy, hmarked⟩ := hxy.markRequired hR h.ne_nil required
    rw [hx, BuildRules.withOverride] at hc
    rw [hy, BuildRules.withOverride, ← h.extension] at hd
    split at hc
    · rw [if_pos ‹_›, OverrideRules.merge] at hd
      obtain ⟨payload, hpayload, rfl⟩ := map_eq_ok_iff.mp hc
      rw [h.resolve_eq hpayload] at hd
      obtain rfl := Except.ok.inj hd
      cases payload with
      | none => exact hmarked
      | some entries => exact hmarked.overlay hR h.ne_nil entries
    · rw [if_neg ‹_›] at hd
      obtain rfl := Except.ok.inj hc
      obtain rfl := Except.ok.inj hd
      exact hmarked

/-- A property of another name than `type` decides nothing about what is under that name. -/
theorem Node.PropertiesPaired.typeForm {ps qs : List (String × Node)} {key : String}
    {below : List Scalar} (hkey : key ≠ "type")
    (h : PropertiesPaired (Added (place ++ .str key :: below) options) place ps qs) :
    Node.typeForm ps = Node.typeForm qs := by
  induction ps generalizing qs with
  | nil =>
    cases h
    rfl
  | cons property tail ih =>
    cases h with
    | @cons _ first n m _ qs hnode hrest =>
      rw [BuildRules.typeForm_cons, BuildRules.typeForm_cons, ih hrest]
      by_cases hfirst : first = "type"
      · subst hfirst
        have hother : ¬ place ++ [Scalar.str "type"] <+: place ++ .str key :: below := by
          rw [List.prefix_append_right_inj, List.cons_prefix_cons]
          exact fun heq => hkey (Scalar.str.inj heq.1).symm
        rw [(Paired.kept n hother hnode).same.form]
      · rw [if_neg (fun hboth => hfirst hboth.1), if_neg (fun hboth => hfirst hboth.1)]

/-! ## 3. All the way -/

/-- The properties that are compiled further along the path agree. -/
def Node.PlainAgreeAt (options : Entries Value) (overrides : OverrideRules)
    (f g : Scalar → String → Except CompileError (Entries Value)) (R : Value → Value → Prop)
    (path : List Step) : Prop :=
  ∀ place n m, Leads options place path n m → ∀ owner key, Agreement.sameValue.Answers f g
    (m.plainNeeds owner key) →
    ∀ plain plain', BuildRules.buildPlain ⟨overrides, f⟩ owner key n = .ok plain →
    BuildRules.buildPlain ⟨overrides, g⟩ owner key m = .ok plain' →
    ∃ x y, plain = .table x ∧ plain' = .table y ∧ Entries.AgreeAt R path x y

/-- Objects agree if the property does into which the path goes. -/
theorem Node.Leads.object_agreeAt (hR : Value.Passes options R)
    (hrest : PlainAgreeAt options overrides f g R rest) {f' g' : Facts}
    {ps qs : List (String × Node)} {required : List String} {key : String}
    (h : Leads options place (.property key :: rest) (.object f' ps required)
      (.object g' qs required))
    {owner : Scalar} (hanswers : Agreement.sameValue.Answers f g (propertiesNeeds owner qs))
    {x y : Entries Value} (hx : BuildRules.buildProperties ⟨overrides, f⟩ owner required ps = .ok x)
    (hy : BuildRules.buildProperties ⟨overrides, g⟩ owner required qs = .ok y) :
    Entries.AgreeAt R (.property key :: rest) x y := by
  obtain ⟨child, child', hchild, hchild', hform, hpaired, hend⟩ := h.of_property
  constructor
  case single =>
    intro hhead
    -- Below `required` the path does not go through the type, which decides about a single field.
    have hkey : key ≠ "type" := by
      rintro rfl
      simp at hhead
    have hproperties := h.paired
    cases hproperties with
    | object _ hproperties =>
      rw [BuildRules.isField_of_buildProperties hx, BuildRules.isField_of_buildProperties hy]
      rw [Step.place_cons, Step.keys, List.cons_append, List.append_cons] at hproperties
      rw [hproperties.typeForm hkey]
  case agree =>
    refine .table fun entry hentry => ?_
    have hk : reservedNames.contains key = false := by
      have hmem := Entries.exists_get?_str_iff.mp ⟨entry, hentry⟩
      obtain ⟨name, -, hname, hk⟩ := BuildRules.mem_keys_of_buildProperties hx hmem
      obtain rfl := Scalar.str.inj hname
      exact hk
    obtain ⟨c, hc, hget⟩ := BuildRules.get?_of_lookup hx hchild hk hform
    obtain ⟨d, hd, hget'⟩ := BuildRules.get?_of_lookup hy hchild' hk (hpaired.form_ne_dropped hform)
    obtain rfl : entry = c.toValue := Option.some.inj (hentry.symm.trans hget)
    refine ⟨_, hget', ?_⟩
    rintro _ ⟨⟩
    refine ⟨_, rfl, ?_⟩
    have hmem : (key, child') ∈ qs := by
      obtain ⟨_, _, hsplit, -⟩ := List.lookup_eq_some_iff.mp hchild'
      exact hsplit ▸ List.mem_append_right _ List.mem_cons_self
    have hneeds : Agreement.sameValue.Answers f g (child'.propertyNeeds owner key) :=
      fun need hneed => hanswers need (propertyNeeds_subset hmem hk owner hneed)
    -- Either the path ends here, at the property that has the override, or it goes on into it.
    rcases hend with ⟨rfl, hoverride⟩ | hleads
    · rintro _ ⟨⟩
      refine ⟨_, rfl, ?_⟩
      rw [show Step.place [] = [] from rfl, List.append_nil] at hpaired
      rcases hpaired.buildProperty_laid hoverride hneeds hc hd with rfl | rfl
      · exact hR.refl _
      · exact hR.laid c (BuildRules.buildProperty_form hc ▸ hform)
    · refine hleads.buildProperty_agreeAt hR.refl (fun plain plain' hn hm hitems => ?_) hc hd
      refine hrest _ _ _ hleads owner key (fun need hneed => hneeds need ?_) plain plain' hn hm
      rw [propertyNeeds, hitems, if_neg Bool.false_ne_true]
      exact List.mem_append_left _ hneed

/-- The items whose type is found further along the path agree. -/
def Node.ItemAgreeAt (options : Entries Value) (overrides : OverrideRules)
    (f g : Scalar → String → Except CompileError (Entries Value)) (R : Value → Value → Prop)
    (path : List Step) : Prop :=
  ∀ place n m, Leads options place path n m →
    ∀ owner, Agreement.sameValue.Answers f g (m.itemNeeds owner) →
    ∀ v w, BuildRules.itemType ⟨overrides, f⟩ owner n = .ok v →
      BuildRules.itemType ⟨overrides, g⟩ owner m = .ok w →
    v.AgreeAt R path w

/-- A path leads from objects into a property, and from arrays into the items. -/
theorem Node.Leads.shape {step : Step} (h : Leads options place (step :: rest) n m) :
    (∃ key f g ps qs required, step = .property key ∧ n = .object f ps required ∧
      m = .object g qs required) ∨
      ∃ f g i j, step = .items ∧ n = .array f i ∧ m = .array g j ∧ f.SameParts g := by
  obtain ⟨p, hat, -⟩ := h.property
  have hpaired := h.paired
  cases hpaired with
  | object _ _ =>
    cases step with
    | property key => exact .inl ⟨key, _, _, _, _, _, rfl, rfl, rfl⟩
    | items => cases hat
  | array _ hfacts _ =>
    cases step with
    | property key => cases hat
    | items => exact .inr ⟨_, _, _, _, rfl, rfl, rfl, hfacts⟩
  | _ => cases step <;> cases hat

/-- Single fields of lists agree in the items of the lists. -/
theorem Value.AgreeAt.typed {v w : Value} (h : v.AgreeAt R path w) :
    (Value.map (BuildRules.typed (.list [v]))).AgreeAt R (.items :: path)
    (.map (BuildRules.typed (.list [w]))) := by
  refine .table ?_
  rintro _ ⟨⟩
  refine ⟨_, rfl, ?_⟩
  rintro _ ⟨⟩
  exact ⟨_, rfl, h⟩

/-- What a node compiles to agrees along the path. The induction is on the path. -/
theorem Node.agreeAt (hR : Value.Passes options R) (path : List Step) :
    PlainAgreeAt options overrides f g R path ∧ ItemAgreeAt options overrides f g R path := by
  induction path with
  | nil => exact ⟨fun _ _ _ h => absurd rfl h.ne_nil, fun _ _ _ h => absurd rfl h.ne_nil⟩
  | cons step rest ih =>
    obtain ⟨hplain, hitem⟩ := ih
    constructor
    · intro place n m h owner name hanswers plain plain' hn hm
      rcases h.shape with ⟨key, _, _, ps, qs, required, rfl, rfl, rfl⟩ |
        ⟨facts, others, i, j, rfl, rfl, rfl, hfacts⟩
      · obtain ⟨x, hx, rfl⟩ := map_eq_ok_iff.mp hn
        obtain ⟨y, hy, rfl⟩ := map_eq_ok_iff.mp hm
        exact ⟨x, y, rfl, rfl, h.object_agreeAt hR hplain hanswers hx hy⟩
      · obtain ⟨hitems, hi, hj⟩ := h.of_items
        rw [plainNeeds, hj] at hanswers
        rw [BuildRules.buildPlain, hi, Option.isSome_none, if_neg Bool.false_ne_true] at hn
        rw [BuildRules.buildPlain, hj, Option.isSome_none, if_neg Bool.false_ne_true,
          ← hfacts.default] at hm
        obtain ⟨v, hv, rfl⟩ := map_eq_ok_iff.mp hn
        obtain ⟨w, hw, rfl⟩ := map_eq_ok_iff.mp hm
        refine ⟨_, _, rfl, rfl, ⟨?_, by simp⟩⟩
        have hvw := (hitem _ _ _ hitems _ hanswers v w hv hw).typed
        unfold BuildRules.withDefault
        split
        · exact hvw.insert hR.refl (by simp) _ _
        · exact hvw
    · intro place n m h owner hanswers v w hv hw
      rcases h.shape with ⟨key, _, _, ps, qs, required, rfl, rfl, rfl⟩ |
        ⟨facts, others, i, j, rfl, rfl, rfl, hfacts⟩
      · obtain ⟨x, hx, rfl⟩ := map_eq_ok_iff.mp hv
        obtain ⟨y, hy, rfl⟩ := map_eq_ok_iff.mp hw
        exact (h.object_agreeAt hR hplain hanswers hx hy).agree
      · obtain ⟨hitems, -, -⟩ := h.of_items
        obtain ⟨a, ha, rfl⟩ := map_eq_ok_iff.mp hv
        obtain ⟨b, hb, rfl⟩ := map_eq_ok_iff.mp hw
        exact .marker (hitem _ _ _ hitems _ hanswers a b ha hb)

/-- **What a definition compiles to agrees at the end of the path**, where the override is added, if
all copies that it asks for are what they were. -/
theorem Node.Leads.build_agreeAt (hR : Value.Passes options R) (h : Leads options place path n m)
    {owner : Scalar} (hanswers : Agreement.sameValue.Answers f g (m.needs owner))
    {x y : Entries Value} (hx : BuildRules.build ⟨overrides, f⟩ owner n = .ok x)
    (hy : BuildRules.build ⟨overrides, g⟩ owner m = .ok y) :
    (Value.map x).AgreeAt R path (.map y) := by
  cases path with
  | nil => exact absurd rfl h.ne_nil
  | cons step rest =>
    obtain ⟨hplain, hitem⟩ : PlainAgreeAt options overrides f g R rest ∧
        ItemAgreeAt options overrides f g R rest :=
      agreeAt hR rest
    rcases h.shape with ⟨key, _, _, ps, qs, required, rfl, rfl, rfl⟩ |
      ⟨facts, others, i, j, rfl, rfl, rfl, hfacts⟩
    · exact (h.object_agreeAt hR hplain hanswers hx hy).agree
    · obtain ⟨hitems, hi, hj⟩ := h.of_items
      rw [needs, hj, ← hfacts.type] at hanswers
      rw [BuildRules.build, hi, Option.isSome_none, if_neg Bool.false_ne_true] at hx
      rw [BuildRules.build, hj, Option.isSome_none, if_neg Bool.false_ne_true, ← hfacts.type] at hy
      dsimp only at hanswers
      split at hx
      · rw [if_pos ‹_›] at hanswers hy
        obtain ⟨v, hv, rfl⟩ := map_eq_ok_iff.mp hx
        obtain ⟨w, hw, rfl⟩ := map_eq_ok_iff.mp hy
        exact (hitem _ _ _ hitems _ hanswers v w hv hw).typed
      · rw [if_neg ‹_›] at hy
        obtain rfl := Except.ok.inj hx
        obtain rfl := Except.ok.inj hy
        exact .refl hR.refl _ _

end Along

/-! ## 4. Definitions -/

/-- **The fields of a definition agree at the end of the path** that leads to the override. -/
theorem Definitions.Paired.buildFields_agreeAt {options : Entries Value} {R : Value → Value → Prop}
    (hR : Value.Passes options R) {name : String} {path : List Step} {ds es : Definitions}
    (h : Definitions.Paired (Added (.str name :: Step.place path) options) ds es) (c : Compiler)
    {n m : Node} (hn : Entries.get? ds (.str name) = some n)
    (hm : Entries.get? es (.str name) = some m)
    (hlast : ∃ key, path.getLast? = some (.property key))
    (hproperty : ∃ p, n.at? path = some p ∧ p.override? = none ∧ p.form ≠ .dropped)
    {x y : Entries Value} (hx : c.buildFields ds (.str name) n = .ok x)
    (hy : c.buildFields es (.str name) m = .ok y) :
    (Value.map x).AgreeAt R path (.map y) := by
  have hget := h.get? (.str name)
  rw [hn, hm] at hget
  cases hget with
  | some hnode =>
    obtain ⟨found, hfound, hpaired, -⟩ := hnode
    obtain rfl := Scalar.sameKey_str_right.mp hfound
    have hleads : Node.Leads options [.str name] path n m := ⟨hpaired, hlast, hproperty⟩
    refine hleads.build_agreeAt hR ?_ hx hy
    intro need hneed o t hcopy
    exact h.expansion_eq (not_embeds_of_build hm (List.mem_filterMap.mpr ⟨need, hneed, hcopy⟩) hy)

end ApiStore
