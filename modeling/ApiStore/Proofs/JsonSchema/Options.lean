import ApiStore.JsonSchema.Conversion
import ApiStore.Proofs.JsonSchema.Findings
import ApiStore.Proofs.Value
/-
`Options.lean` -- what the options of a field say about its values.

Six options of a field restrict its values, and each becomes one keyword of the JSON Schema.
A limit is about numbers, a length or a pattern about texts, and a choice about all values.

**Arguments.** A document may put anything into an override, so the argument of an option
need not make sense: a limit may be a text, a pattern no regular expression. Comparing a
value with such a limit is a fault. Where the argument makes sense, the keyword decides
exactly what the option allows.
-/
set_option autoImplicit false

namespace ApiStore

/-! ## 1. Options -/

/-- The options of a field that say something about its values. -/
inductive FieldOption where
  | enum
  | min
  | max
  | minLength
  | maxLength
  | pattern
  deriving DecidableEq, Repr

namespace FieldOption

/-- The name of an option. -/
def name : FieldOption → String
  | .enum => "enum"
  | .min => "min"
  | .max => "max"
  | .minLength => "minlength"
  | .maxLength => "maxlength"
  | .pattern => "match"

/-- Whether an option makes sense with an argument: some values to choose from, a number, a length,
or a regular expression. -/
def Sensible : FieldOption → Value → Prop
  | .enum, argument => ∃ items, argument = .list items
  | .min, argument | .max, argument => ∃ bound, JsonSchema.number? argument = some bound
  | .minLength, argument | .maxLength, argument => ∃ length : Nat, argument = .int length
  | .pattern, argument => ∃ source p, argument = .str source ∧ Pattern.read source = .ok p

/-- Whether an option with an argument allows a value. Limits are about numbers only, and lengths
and patterns about texts. -/
def Allows : FieldOption → Value → Value → Prop
  | .enum, argument, v => ∀ items, argument = .list items → ∃ item ∈ items, item.identical v = true
  | .min, argument, v =>
    ∀ least, JsonSchema.number? argument = some least → ∀ n, JsonSchema.number? v = some n →
      n.lt least = false
  | .max, argument, v =>
    ∀ most, JsonSchema.number? argument = some most → ∀ n, JsonSchema.number? v = some n →
      most.lt n = false
  | .minLength, argument, v =>
    ∀ least : Nat, argument = .int least → ∀ s, v.text? = some s → least ≤ s.length
  | .maxLength, argument, v =>
    ∀ most : Nat, argument = .int most → ∀ s, v.text? = some s → s.length ≤ most
  | .pattern, argument, v =>
    ∀ source, argument = .str source → ∀ p, Pattern.read source = .ok p → ∀ s, v.text? = some s →
      p.search s = true

/-- The keyword that an option becomes. -/
def keyword : FieldOption → Value → Keyword
  | .enum => .enum
  | .min => .minimum
  | .max => .maximum
  | .minLength => .minLength
  | .maxLength => .maxLength
  | .pattern => .pattern

/-- All options, in the order of their keywords. -/
def all : List FieldOption := [.enum, .min, .max, .minLength, .maxLength, .pattern]

/-- The list of all options lacks none. -/
theorem mem_all (option : FieldOption) : option ∈ all := by cases option <;> decide

end FieldOption

/-! ## 2. The keyword of an option -/

namespace JsonSchema

/-- A keyword about one kind of values decides what it asks of them, if it is silent about all
others. -/
theorem decides_forall {α : Type} {part : Option α} {x : Findings} {p : α → Prop}
    (hsilent : part = none → x = .ok []) (h : ∀ a, part = some a → Decides x (p a)) :
    Decides x (∀ a, part = some a → p a) := by
  cases part with
  | none =>
    rw [hsilent rfl]
    exact .nothing nofun
  | some a => exact (h a rfl).congr (by simp)

section Options

variable {bound v : Value}

/-- An enumeration decides whether the value is one of the listed ones. -/
theorem enum_decides {items : List Value} :
    Decides (enumIssues (.list items) v) (∃ item ∈ items, item.identical v = true) :=
  (decides_noted _ _ _).congr List.any_eq_true

/-- A limit that is a number is that number. -/
theorem limit_of_number? {n : Number} (h : number? bound = some n) (operator : String) :
    limit operator v bound = .ok n := by
  unfold number? at h
  split at h
  · cases h
    rfl
  · cases h
    rfl
  · cases h

/-- A minimum decides whether a number is at least as large; other values pass. -/
theorem minimum_decides {least : Number} (h : number? bound = some least) :
    Decides (minimumIssues bound v) (∀ n, number? v = some n → n.lt least = false) := by
  refine decides_forall (fun hv => ?_) fun n hn => ?_
  · rw [minimumIssues, hv]
  · simp only [minimumIssues, hn, limit_of_number? h]
    exact (decides_noted _ _ _).congr (by simp)

/-- A maximum decides whether a number is at most as large; other values pass. -/
theorem maximum_decides {most : Number} (h : number? bound = some most) :
    Decides (maximumIssues bound v) (∀ n, number? v = some n → most.lt n = false) := by
  refine decides_forall (fun hv => ?_) fun n hn => ?_
  · rw [maximumIssues, hv]
  · simp only [maximumIssues, hn, limit_of_number? h]
    exact (decides_noted _ _ _).congr (by simp)

/-- Two lengths compare as numbers do. -/
theorem lt_lengths (m n : Nat) : (Number.int m).lt (.int n) = decide (m < n) := by
  change decide (((m : Int) : Rat) < ((n : Int) : Rat)) = decide (m < n)
  rw [decide_eq_decide, Rat.intCast_lt_intCast, Int.ofNat_lt]

/-- A least length decides whether a text is at least as long; other values pass. -/
theorem minLength_decides (least : Nat) :
    Decides (minLengthIssues (.int least) v) (∀ s, v.text? = some s → least ≤ s.length) := by
  refine decides_forall (fun hv => ?_) fun s hs => ?_
  · unfold minLengthIssues
    split
    · cases hv
    · rfl
  · rw [Value.text?_eq_some_iff.mp hs]
    exact (decides_noted _ _ _).congr (by simp [lt_lengths])

/-- A greatest length decides whether a text is at most as long; other values pass. -/
theorem maxLength_decides (most : Nat) :
    Decides (maxLengthIssues (.int most) v) (∀ s, v.text? = some s → s.length ≤ most) := by
  refine decides_forall (fun hv => ?_) fun s hs => ?_
  · unfold maxLengthIssues
    split
    · cases hv
    · rfl
  · rw [Value.text?_eq_some_iff.mp hs]
    exact (decides_noted _ _ _).congr (by simp [lt_lengths])

/-- A pattern decides whether it is found in a text; other values pass. -/
theorem pattern_decides {source : String} {p : Pattern} (h : Pattern.read source = .ok p) :
    Decides (patternIssues (.str source) v) (∀ s, v.text? = some s → p.search s = true) := by
  refine decides_forall (fun hv => ?_) fun s hs => ?_
  · unfold patternIssues
    split
    · cases hv
    · rfl
  · rw [Value.text?_eq_some_iff.mp hs]
    simp only [patternIssues, patternOf, h]
    exact decides_noted _ _ _

variable (v)

/-- An option that makes sense decides what it allows. -/
theorem option_decides {option : FieldOption} {argument : Value} (h : option.Sensible argument) :
    Decides (keywordIssues (option.keyword argument) v) (option.Allows argument v) := by
  cases option with
  | enum =>
    obtain ⟨items, rfl⟩ := h
    rw [FieldOption.keyword, keywordIssues]
    exact enum_decides.congr (by simp [FieldOption.Allows])
  | min =>
    obtain ⟨least, hleast⟩ := h
    rw [FieldOption.keyword, keywordIssues]
    exact (minimum_decides hleast).congr (by simp [FieldOption.Allows, hleast])
  | max =>
    obtain ⟨most, hmost⟩ := h
    rw [FieldOption.keyword, keywordIssues]
    exact (maximum_decides hmost).congr (by simp [FieldOption.Allows, hmost])
  | minLength =>
    obtain ⟨least, rfl⟩ := h
    rw [FieldOption.keyword, keywordIssues]
    refine (minLength_decides least).congr ?_
    simp only [FieldOption.Allows, Value.scalar.injEq, Scalar.int.injEq, Int.natCast_inj,
      forall_eq']
  | maxLength =>
    obtain ⟨most, rfl⟩ := h
    rw [FieldOption.keyword, keywordIssues]
    refine (maxLength_decides most).congr ?_
    simp only [FieldOption.Allows, Value.scalar.injEq, Scalar.int.injEq, Int.natCast_inj,
      forall_eq']
  | pattern =>
    obtain ⟨source, p, rfl, hp⟩ := h
    rw [FieldOption.keyword, keywordIssues]
    exact (pattern_decides hp).congr (by simp [FieldOption.Allows, hp])

end Options

/-! ## 3. All options together -/

/-- Options become keywords one by one, and a default is one keyword more. -/
theorem optionKeywords_eq :
    optionKeywords = ("default", .default) :: FieldOption.all.map fun option =>
      (option.name, option.keyword) := rfl

/-- The keywords of a field are those of its options, and its default. -/
theorem mem_ofOptions_iff {fields : Entries Value} {k : Keyword} :
    k ∈ ofOptions fields ↔ (∃ v, Entries.get? fields (.str "default") = some v ∧ k = .default v) ∨
      ∃ (option : FieldOption) (argument : Value),
        Entries.get? fields (.str option.name) = some argument ∧ k = option.keyword argument := by
  simp only [ofOptions, optionKeywords_eq, List.mem_filterMap, List.mem_cons, List.mem_map,
    Option.map_eq_some_iff]
  constructor
  · rintro ⟨_, rfl | ⟨option, -, rfl⟩, argument, hget, rfl⟩
    · exact .inl ⟨argument, hget, rfl⟩
    · exact .inr ⟨option, argument, hget, rfl⟩
  · rintro (⟨argument, hget, rfl⟩ | ⟨option, argument, hget, rfl⟩)
    · exact ⟨_, .inl rfl, argument, hget, rfl⟩
    · exact ⟨_, .inr ⟨option, option.mem_all, rfl⟩, argument, hget, rfl⟩

/-- Options that make sense decide together what they allow. -/
theorem ofOptions_decides {fields : Entries Value} {v : Value}
    (h : ∀ (option : FieldOption) (argument : Value),
      Entries.get? fields (.str option.name) = some argument → option.Sensible argument) :
    Decides (issues (ofOptions fields) v) (∀ (option : FieldOption) (argument : Value),
      Entries.get? fields (.str option.name) = some argument → option.Allows argument v) := by
  have hdefault : ∀ d, keywordIssues (.default d) v = .ok [] := fun _ => rfl
  constructor
  · refine issues_ends fun k hk => ?_
    rcases mem_ofOptions_iff.mp hk with ⟨d, -, rfl⟩ | ⟨option, argument, hget, rfl⟩
    · exact .ok []
    · exact (option_decides v (h option argument hget)).1
  · rw [issues_eq_nil_iff]
    constructor
    · intro hk option argument hget
      have hmem : option.keyword argument ∈ ofOptions fields :=
        mem_ofOptions_iff.mpr (.inr ⟨option, argument, hget, rfl⟩)
      exact (option_decides v (h option argument hget)).2.mp (hk _ hmem)
    · intro hallows k hk
      rcases mem_ofOptions_iff.mp hk with ⟨d, -, rfl⟩ | ⟨option, argument, hget, rfl⟩
      · exact hdefault d
      · exact (option_decides v (h option argument hget)).2.mpr (hallows option argument hget)

end JsonSchema

end ApiStore
