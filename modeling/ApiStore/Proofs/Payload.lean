import ApiStore.Proofs.Compilation
import ApiStore.Proofs.Locality
import ApiStore.Proofs.Selection
/-
`Payload.lean` -- an override is what it was read from, and the options of a schema are one.

An override is taken apart when a document is read: its type, its target, and everything else.
Put together again it is the payload that it was read from (`Extension.restores_of_ofPayload`), but
that null stands for nothing under the two keys. The other way round, an override that is
written as a payload is read as itself (`Extension.ofPayload_payload`).

**Byte strings.** Where a text is wanted, bytes that spell one are taken for that text. A YAML
document can hold bytes under the two keys, and bytes for keys. What is put together again
has the texts (`payload_with_bytes_differs`).

**Two keys.** The options of a schema are the override that its definition was read with. The
compiler has a key of its own, but that is only a word in its messages: another one gives the
same schemas (`Compiler.buildSchemas_withKey`).
-/
set_option autoImplicit false

namespace ApiStore

/-! ## 1. Keys that are spelled out -/

namespace Entries

variable {α : Type}

theorem TextKeys.overlay {base upper : Entries α} (hbase : base.TextKeys)
    (hupper : upper.TextKeys) :
    (base.overlay upper).TextKeys := by
  induction upper generalizing base with
  | nil => exact hbase
  | cons entry rest ih =>
    obtain ⟨k, v⟩ := entry
    obtain ⟨⟨s, rfl⟩, hrest⟩ := List.forall_mem_cons.mp hupper
    exact ih (hbase.insert s v) hrest

end Entries

/-- Where no key is a misfit, all keys are texts once they are spelled out. -/
theorem Misfit.spelled_textKeys {α : Type} {place : List String} {entries : Entries α}
    (h : ofKeys place entries = []) :
    (spelled entries).TextKeys := by
  have htext : ∀ entry ∈ entries, ∃ s, textOf (.scalar entry.1) = .ok s := by
    intro entry hentry
    have hnone := List.filterMap_eq_nil_iff.mp h entry hentry
    cases hkey : textOf (.scalar entry.1) with
    | ok s => exact ⟨s, rfl⟩
    | error flaw => simp [hkey] at hnone
  unfold spelled
  split
  -- With bytes among the keys, the entries are laid one over another under the texts that are
  -- spelled.
  · refine Entries.TextKeys.nil.overlay fun entry hentry => ?_
    obtain ⟨old, hold, rfl⟩ := List.mem_map.mp hentry
    obtain ⟨s, hs⟩ := htext old hold
    exact ⟨s, by simp [spelledKey, hs]⟩
  · rename_i hbytes
    intro entry hentry
    obtain ⟨s, hs⟩ := htext entry hentry
    have hno : isBytes entry.1 = false := by
      by_contra hyes
      exact hbytes (List.any_eq_true.mpr ⟨entry, hentry, by simpa using hyes⟩)
    obtain ⟨k, v⟩ := entry
    cases k with
    | str t => exact ⟨t, rfl⟩
    | bytes b => cases hno
    | _ => cases hs

/-! ## 2. Overrides and their payloads -/

/-- The text under a key, as a value: nothing for null, and for bytes the text that they spell. -/
def textUnder? (payload : Entries Value) (key : String) : Option Value :=
  (Entries.get? payload (.str key)).bind fun v => ((Misfit.textOf v).toOption).map .str

/-- What a payload is when it is put together again: under the keys of type and target the texts,
and under all others the options, with their keys spelled out. -/
structure Restores (payload restored : Entries Value) : Prop where
  texts : restored.TextKeys
  parts : ∀ key ∈ ["type", "ref"], Entries.get? restored (.str key) =
    (textUnder? payload key).or (Entries.get? (Misfit.spelled (optionsOf payload)) (.str key))
  options : ∀ key ∉ ["type", "ref"], Entries.get? restored (.str key) =
    Entries.get? (Misfit.spelled (optionsOf payload)) (.str key)

/-- Under the keys of type and target there are no options. -/
theorem get?_optionsOf (payload : Entries Value) (key : String) :
    Entries.get? (optionsOf payload) (.str key) =
      if key ∈ ["type", "ref"] then none else Entries.get? payload (.str key) := by
  split
  · rename_i hkey
    rw [Entries.get?_str_eq_none_iff]
    intro hmem
    obtain ⟨entry, hentry, heq⟩ := List.mem_map.mp hmem
    have hkept := (List.mem_filter.mp hentry).2
    simp_all
  · rename_i hkey
    refine Entries.get?_filter_str (fun v => ?_) payload
    simp_all

/-- Where all keys are texts, everything comes back, except for null under the keys of type and
target. -/
theorem Restores.get? {payload restored : Entries Value} (h : Restores payload restored)
    (htexts : payload.TextKeys) (key : String) : Entries.get? restored (.str key) =
      if key ∈ ["type", "ref"] then textUnder? payload key
      else Entries.get? payload (.str key) := by
  have hoptions : (optionsOf payload).TextKeys :=
    fun entry hentry => htexts entry (List.mem_filter.mp hentry).1
  split
  · rename_i hkey
    rw [h.parts key hkey, hoptions.spelled, get?_optionsOf, if_pos hkey, Option.or_none]
  · rename_i hkey
    rw [h.options key hkey, hoptions.spelled, get?_optionsOf, if_neg hkey]

namespace Extension

/-- What is read as a text that may be missing is the text that stands there. -/
theorem textUnder?_of_optionalText {payload : Entries Value} {key : String} {t : Option String}
    (h : optionalText payload key = .ok t) : textUnder? payload key = t.map .str := by
  unfold optionalText at h
  unfold textUnder?
  split at h
  · rename_i hget
    cases h
    rw [hget, Option.bind_none, Option.map_none]
  · rename_i hget
    cases h
    rw [hget]
    rfl
  · rename_i v hnull hget
    rw [hget, Option.bind_some]
    cases htext : Misfit.textOf v with
    | ok s =>
      rw [htext] at h
      obtain rfl := Except.ok.inj h
      rfl
    | error flaw =>
      rw [htext] at h
      cases h

/-- An override is read if its type and its target are texts, null or absent, and all other keys
spell texts. -/
theorem ofPayload_eq_ok {payload : Entries Value} {e : Extension} (h : ofPayload payload = .ok e) :
    optionalText payload "type" = .ok e.type ∧ optionalText payload "ref" = .ok e.ref ∧
      Misfit.ofKeys ["options"] (optionsOf payload) = [] ∧
        Misfit.spelled (optionsOf payload) = e.options := by
  unfold ofPayload at h
  dsimp only at h
  split at h
  · rename_i htype href hkeys
    obtain rfl := Except.ok.inj h
    exact ⟨htype, href, hkeys, rfl⟩
  · cases h

/-- Entries with a text laid over them, if there is one. -/
def laid (entries : Entries Value) (key : String) : Option String → Entries Value
  | some t => Entries.insert entries (.str key) (.str t)
  | none => entries

/-- A payload is the options with the type laid over them, and then the target. -/
theorem payload_eq_laid (e : Extension) :
    e.payload = laid (laid e.options "type" e.type) "ref" e.ref := by
  unfold payload
  cases e.type <;> cases e.ref <;> rfl

theorem get?_laid (entries : Entries Value) (key : String) (t : Option String) (s : String) :
    Entries.get? (laid entries key t) (.str s) =
      (if s = key then t.map .str else none).or (Entries.get? entries (.str s)) := by
  cases t with
  | none => rw [laid, Option.map_none, ite_self, Option.none_or]
  | some text =>
    rw [laid, Entries.get?_insert_str]
    by_cases hkey : s = key
    · rw [if_pos hkey, if_pos (congrArg Scalar.str hkey.symm), Option.map_some, Option.some_or]
    · rw [if_neg hkey, if_neg fun heq => hkey (Scalar.str.inj heq).symm, Option.none_or]

/-- What is found in a payload: under the keys of type and target these, if there are any, and else
the options. -/
theorem get?_payload (e : Extension) (key : String) :
    Entries.get? e.payload (.str key) = (if key = "ref" then e.ref.map .str else none).or
      ((if key = "type" then e.type.map .str else none).or
        (Entries.get? e.options (.str key))) := by
  rw [payload_eq_laid, get?_laid, get?_laid]

/-- **An override that was read restores its payload.** -/
theorem restores_of_ofPayload {payload : Entries Value} {e : Extension}
    (h : ofPayload payload = .ok e) :
    Restores payload e.payload := by
  obtain ⟨htype, href, hkeys, hoptions⟩ := ofPayload_eq_ok h
  have hspelled : e.options.TextKeys := by
    rw [← hoptions]
    exact Misfit.spelled_textKeys hkeys
  refine ⟨payload_textKeys hspelled, ?_, ?_⟩
  · intro key hkey
    rw [get?_payload, hoptions]
    rcases List.mem_pair.mp hkey with rfl | rfl
    · rw [if_neg (by decide), Option.none_or, if_pos rfl, textUnder?_of_optionalText htype]
    · rw [if_pos rfl, if_neg (by decide), Option.none_or, textUnder?_of_optionalText href]
  · intro key hkey
    rw [List.mem_pair, not_or] at hkey
    rw [get?_payload, hoptions, if_neg hkey.2, if_neg hkey.1, Option.none_or, Option.none_or]

/-- A text under a key is read as that text. -/
theorem optionalText_of_get? {payload : Entries Value} {key : String} {t : Option String}
    (h : Entries.get? payload (.str key) = t.map .str) : optionalText payload key = .ok t := by
  rw [optionalText, h]
  cases t <;> rfl

/-- Type and target, laid over entries, do not touch the options. -/
theorem optionsOf_laid {key : String} (hkey : key ∈ ["type", "ref"]) (entries : Entries Value)
    (t : Option String) :
    optionsOf (laid entries key t) = optionsOf entries := by
  have hskip : ∀ (w : Value) (rest : Entries Value),
      optionsOf ((.str key, w) :: rest) = optionsOf rest := by
    intro w rest
    rw [optionsOf, List.filter_cons_of_neg, ← optionsOf]
    rcases List.mem_pair.mp hkey with rfl | rfl <;> simp
  cases t with
  | none => rfl
  | some text =>
    rw [laid]
    induction entries with
    | nil => exact hskip _ []
    | cons entry rest ih =>
      obtain ⟨k, w⟩ := entry
      rw [Entries.insert]
      split
      · rename_i hsame
        rw [Scalar.sameKey_str_right.mp hsame, hskip, hskip]
      · rw [optionsOf, optionsOf, List.filter_cons, List.filter_cons, ← optionsOf, ← optionsOf, ih]

/-- An override whose options are none of type and target, and have texts for keys. -/
structure IsPlain (m : Extension) : Prop where
  texts : m.options.TextKeys
  type : .str "type" ∉ m.options.keys
  ref : .str "ref" ∉ m.options.keys

/-- The options of a payload are those of the override. -/
theorem IsPlain.optionsOf_payload {m : Extension} (h : m.IsPlain) :
    optionsOf m.payload = m.options := by
  have hoptions : optionsOf m.options = m.options := by
    refine List.filter_eq_self.mpr fun option hoption => ?_
    have hkey : ∀ key : String, .str key ∉ m.options.keys → option.1 ≠ .str key :=
      fun key hnone heq => hnone (heq ▸ List.mem_map_of_mem hoption)
    simp [hkey "type" h.type, hkey "ref" h.ref]
  rw [payload_eq_laid, optionsOf_laid (by simp), optionsOf_laid (by simp), hoptions]

/-- **An override is read from its payload.** -/
theorem ofPayload_payload {m : Extension} (h : m.IsPlain) : ofPayload m.payload = .ok m := by
  have htype : optionalText m.payload "type" = .ok m.type := by
    refine optionalText_of_get? ?_
    rw [get?_payload, if_neg (by decide), Option.none_or, if_pos rfl,
      Entries.get?_str_eq_none_iff.mpr h.type, Option.or_none]
  have href : optionalText m.payload "ref" = .ok m.ref := by
    refine optionalText_of_get? ?_
    rw [get?_payload, if_pos rfl, if_neg (by decide), Option.none_or,
      Entries.get?_str_eq_none_iff.mpr h.ref, Option.or_none]
  rw [ofPayload, h.optionsOf_payload, htype, href, Misfit.ofKeys_eq_nil h.texts, h.texts.spelled]

end Extension

/-! ## 3. The options of a schema -/

/-- What the options of a definition are, by what stands under a key in it: nothing where that is
null or not there, and otherwise the payload, restored. -/
inductive OptionsFrom (key : String) (definition : Value) (options : Entries Value) : Prop
  | none (habsent : ∀ v, definition.get? key = some v → v = .null) (hnothing : options = [])
  | payload {payload : Entries Value} (hthere : definition.get? key = some (.map payload))
    (hback : Restores payload options)

theorem OptionsFrom.textKeys {key : String} {definition : Value} {options : Entries Value}
    (h : OptionsFrom key definition options) : options.TextKeys := by
  cases h with
  | none _ hnothing => exact hnothing ▸ .nil
  | payload _ hback => exact hback.texts

/-- The override that a node was read with. -/
theorem extension_of_readNode {key : String} {root : Bool} {raw : Entries Value} {n : Node}
    (h : readNode key root (.map raw) = .ok n) : readExtension key raw = .ok n.extension := by
  obtain ⟨e, he, hread⟩ := readAs_of_readNode h
  cases hread <;> exact he

/-- The options of a definition, of whatever kind, are what stands under the key with which it was
read. -/
theorem optionsFrom_of_readNode {key : String} {root : Bool} {v : Value} {n : Node}
    (h : readNode key root v = .ok n) :
    OptionsFrom key v (Compiler.options n) := by
  cases v with
  | map raw =>
    have he := extension_of_readNode h
    have hnone : n.extension = .none → Compiler.options n = [] := by
      intro hn
      rw [Compiler.options, hn]
      rfl
    unfold readExtension at he
    split at he
    · rename_i hget
      refine .none (fun v hv => ?_) (hnone (Except.ok.inj he).symm)
      rw [Value.get?, hget] at hv
      cases hv
    · rename_i hget
      refine .none (fun v hv => ?_) (hnone (Except.ok.inj he).symm)
      rw [Value.get?, hget] at hv
      exact (Option.some.inj hv).symm
    · rename_i payload hget
      split at he
      · rename_i e hread
        refine .payload hget ?_
        rw [Compiler.options, ← Except.ok.inj he]
        exact Extension.restores_of_ofPayload hread
      · cases he
    · cases he
  | _ => cases h

/-- A definition that is found was read from a raw one that is found. -/
theorem exists_get?_of_readDefinitions {key : String} {raw : Entries Value}
    {definitions : Definitions} (h : readDefinitions key raw = .ok definitions) (name : Scalar) :
    Entries.get? raw name = none ∧ Entries.get? definitions name = none ∨
      ∃ v n, Entries.get? raw name = some v ∧ Entries.get? definitions name = some n ∧
        readNode key true v = .ok n := by
  induction raw generalizing definitions with
  | nil =>
    cases h
    exact .inl ⟨rfl, rfl⟩
  | cons entry rest ih =>
    obtain ⟨n, hn, h⟩ := Outcome.bind_eq_ok_iff.mp h
    obtain ⟨others, hothers, h⟩ := Outcome.bind_eq_ok_iff.mp h
    cases h
    rw [Entries.get?, Entries.get?]
    by_cases hkey : entry.1.sameKey name = true
    · rw [if_pos hkey, if_pos hkey]
      exact .inr ⟨entry.2, n, rfl, rfl, hn⟩
    · rw [if_neg hkey, if_neg hkey]
      exact ih hothers

/-- The options of a schema that is made of tables are as they are spelled. -/
theorem Schema.options_of_ofParts {name : Value} {fields options : Entries Value} {s : Schema}
    (h : Schema.ofParts name (.map fields) (.map options) = .ok s) :
      s.options = Misfit.spelled options := by
  unfold Schema.ofParts at h
  split at h
  · rename_i _ heq _
    cases heq
    obtain rfl := Except.ok.inj h
    rfl
  · cases h

namespace Compiler

variable {c : Compiler} {key : String} {raw : Entries Value} {definitions : Definitions}

/-- The options of a schema are what stands under the key with which the definitions were read. -/
theorem optionsFrom_of_buildSchema (hread : readDefinitions key raw = .ok definitions)
    {name : Scalar} {schema : Schema} (h : c.buildSchema definitions name = .ok schema) :
    ∃ definition, Entries.get? raw name = some definition ∧
      OptionsFrom key definition schema.options := by
  rcases exists_get?_of_readDefinitions hread name with ⟨-, hnone⟩ | ⟨v, n, hv, hn, hnode⟩
  · rw [buildSchema, hnone] at h
    cases h
  · rw [buildSchema, hn] at h
    obtain ⟨fields, -, hparts⟩ := Outcome.bind_eq_ok_iff.mp h
    have hoptions := optionsFrom_of_readNode hnode
    refine ⟨v, hv, ?_⟩
    rw [Schema.options_of_ofParts (Outcome.mapError_eq_ok_iff.mp hparts), hoptions.textKeys.spelled]
    exact hoptions

/-! ## 4. Another key -/

/-- The compiler with another key for overrides. -/
def withKey (c : Compiler) (key : String) : Compiler :=
  { c with config := { c.config with extensionKey := key } }

/-- The key plays no part in a payload. It is in the message if there is none. -/
theorem payload_withKey (c : Compiler) (key : String) (v : Value) (e : Extension)
    (pointer : Option String) :
    Agreement.sameValue.Holds (c.overrides.payload v e pointer)
      ((c.withKey key).overrides.payload v e pointer) := by
  intro payload hpayload
  unfold OverrideRules.payload at hpayload ⊢
  cases htype : e.type with
  | none =>
    rw [htype] at hpayload
    exact hpayload
  | some name =>
    rw [htype] at hpayload
    dsimp only at hpayload ⊢
    by_cases hmark : name = referenceMark
    · rw [if_pos hmark] at hpayload ⊢
      exact hpayload
    · rw [if_neg hmark] at hpayload ⊢
      rw [show (c.withKey key).overrides.types = c.overrides.types from rfl]
      cases hget : c.overrides.types.get? name with
      | none =>
        rw [hget] at hpayload
        cases hpayload
      | some type =>
        rw [hget] at hpayload
        exact hpayload

theorem payloads_withKey (c : Compiler) (key : String) :
    Agreement.sameValue.Payloads c.overrides (c.withKey key).overrides := by
  intro node
  unfold OverrideRules.resolve
  cases node.override? with
  | none => exact Agreement.sameValue.refl _
  | some found =>
    exact Agreement.sameValue.map some (c.payload_withKey key node.raw found.1 found.2)

/-- Nor in a copy of a definition. -/
theorem expansion_withKey (c : Compiler) (key : String) (definitions : Definitions) (limit : Int)
    (levels : ℕ) (owner : Scalar) (target : String) :
    Agreement.sameValue.Holds (expansion c.overrides definitions limit levels owner target)
      (expansion (c.withKey key).overrides definitions limit levels owner target) := by
  induction levels generalizing owner target with
  | zero =>
    intro copy hcopy
    cases htarget : Entries.get? definitions (.str target) with
    | none =>
      rw [expansion_undefined _ _ _ _ _ htarget] at hcopy
      cases hcopy
    | some definition =>
      rw [expansion_zero _ _ _ _ htarget] at hcopy
      cases hcopy
  -- A copy is built from copies that go one level less deep.
  | succ levels ih =>
    exact expansion_succ_agrees_of_payloads .sameValue
      (c.payloads_withKey key) definitions ih owner owner target

/-- Fields are the same under another key. -/
theorem buildFields_withKey (c : Compiler) (key : String) (definitions : Definitions)
    (name : Scalar) (n : Node) :
    Agreement.sameValue.Holds (c.buildFields definitions name n)
      ((c.withKey key).buildFields definitions name n) :=
  BuildRules.build_agrees_of_payloads .sameValue (c.payloads_withKey key) name n
    fun _ _ owner target _ => c.expansion_withKey key definitions _ _ owner target

theorem buildSchema_withKey {name : Scalar} {schema : Schema}
    (h : c.buildSchema definitions name = .ok schema) (key : String) :
    (c.withKey key).buildSchema definitions name = .ok schema := by
  unfold buildSchema at h ⊢
  cases hn : Entries.get? definitions name with
  | none =>
    rw [hn] at h
    cases h
  | some n =>
    rw [hn] at h
    obtain ⟨fields, hfields, hparts⟩ := Outcome.bind_eq_ok_iff.mp h
    have hsame := c.buildFields_withKey key definitions name n fields
      (Outcome.mapError_eq_ok_iff.mp hfields)
    exact Outcome.bind_eq_ok_iff.mpr ⟨fields, Outcome.mapError_eq_ok_iff.mpr hsame, hparts⟩

theorem buildInto_withKey {given schemas : Entries Schema} {names : List Scalar}
    (h : c.buildInto definitions given names = .ok schemas) (key : String) :
    (c.withKey key).buildInto definitions given names = .ok schemas := by
  induction names generalizing given with
  | nil => exact h
  | cons name rest ih =>
    obtain ⟨schema, hschema, hrest⟩ := Outcome.bind_eq_ok_iff.mp h
    exact Outcome.bind_eq_ok_iff.mpr ⟨schema, buildSchema_withKey hschema key, ih hrest⟩

/-- **Schemas are the same under another key** once the definitions are read. -/
theorem buildSchemas_withKey {schemas : Entries Schema}
    (h : c.buildSchemas definitions none = .ok schemas) (key : String) :
    (c.withKey key).buildSchemas definitions none = .ok schemas :=
  buildInto_withKey h key

end Compiler

/-! ## 5. Payloads and options -/

/-- **Payloads come back, and the options of a schema are one.** A payload that is read as an
override comes back from it: where its keys are texts, with every entry it had, except that under
the keys of type and target there are texts only, no null and no bytes. An override whose options
are plain is read from its payload. And where the definitions of a document are read with one key
and compiled with any other, the options of each schema are what stands in the raw definition under
the key with which it was read; the key of the compiler makes no difference to any schema. -/
theorem payload_comes_back :
    (∀ payload e, Extension.ofPayload payload = .ok e → Restores payload e.payload ∧
      (payload.TextKeys → ∀ key, Entries.get? e.payload (.str key) =
        if key ∈ ["type", "ref"] then textUnder? payload key
        else Entries.get? payload (.str key))) ∧
    (∀ m : Extension, m.IsPlain → Extension.ofPayload m.payload = .ok m) ∧
    ∀ (spec : Value) (document raw : Entries Value) (key : String) (definitions : Definitions)
        (c : Compiler) (schemas : Entries Schema),
      Document.load spec = .ok document → Document.rawDefinitions document = .ok raw →
      Document.extract spec key = .ok definitions → c.buildSchemas definitions none = .ok schemas →
      (∀ name definition, Entries.get? raw name = some definition →
        ∃ schema, Entries.get? schemas name = some schema ∧
          OptionsFrom key definition schema.options) ∧
      (∀ s ∈ schemas, ∃ definition, Entries.get? raw s.1 = some definition ∧
        OptionsFrom key definition s.2.options) ∧
      ∀ other, (c.withKey other).buildSchemas definitions none = .ok schemas := by
  refine ⟨?_, fun m => Extension.ofPayload_payload, ?_⟩
  · intro payload e h
    have hback := Extension.restores_of_ofPayload h
    exact ⟨hback, hback.get?⟩
  · intro spec document raw key definitions c schemas hload hraw hextract hbuild
    have hread : readDefinitions key raw = .ok definitions := by
      obtain ⟨found, hfound, hextract⟩ := Outcome.bind_eq_ok_iff.mp hextract
      obtain rfl := Except.ok.inj (hload.symm.trans hfound)
      obtain ⟨entries, hentries, hextract⟩ := Outcome.bind_eq_ok_iff.mp hextract
      obtain rfl := Except.ok.inj (hraw.symm.trans (Outcome.mapError_eq_ok_iff.mp hentries))
      exact hextract
    refine ⟨?_, ?_, Compiler.buildSchemas_withKey hbuild⟩
    -- Every definition has a schema under its name, and every schema the definition under its name.
    · intro name definition hdefinition
      have hkeys := Document.keys_of_readDefinitions hread
      have hname : name ∈ definitions.keys :=
        hkeys ▸ Entries.mem_keys_of_get?
          (hkeys ▸ Compiler.standsForItself_of_buildSchemas hbuild) hdefinition
      obtain ⟨schema, hschema⟩ := Compiler.buildSchema_of_buildInto hbuild hname
      obtain ⟨found, hfound, hoptions⟩ := Compiler.optionsFrom_of_buildSchema hread hschema
      obtain rfl := Option.some.inj (hdefinition.symm.trans hfound)
      exact ⟨schema, Compiler.get?_of_buildInto hbuild hschema (.inl hname), hoptions⟩
    · intro s hs
      exact Compiler.optionsFrom_of_buildSchema hread (Compiler.buildSchema_of_mem hbuild hs)

namespace Sample

/-- A payload with a type, with null for a target, and with an option. -/
def mixedPayload : Entries Value :=
  [(.str "type", .str "Mixed"), (.str "strict", .bool false), (.str "ref", .null)]

/-- Pets have that payload under the key `x-store`, and one of their properties has one, too. -/
def storedPets : Entries Value :=
  [(.str "definitions",
    .object [("Pet", .object [("x-store", .map mixedPayload), ("properties", .object [
    ("code", .object [("type", .str "string"), ("x-store", .object [("type", .str "UUID")])])])])])]

end Sample

/-- The payload comes back without null, and is what the options of the schema are, whichever key
the compiler has. -/
theorem payload_comes_back_pets :
    ∃ e schemas schema, Extension.ofPayload Sample.mixedPayload = .ok e ∧
      Restores Sample.mixedPayload e.payload ∧
      Extension.ofPayload e.payload = .ok e ∧ Entries.get? schemas (.str "Pet") = some schema ∧
      OptionsFrom "x-store"
        (.object [("x-store", .map Sample.mixedPayload),
          ("properties", .object [("code",
            .object [("type", .str "string"), ("x-store", .object [("type", .str "UUID")])])])])
        schema.options ∧
      ∃ definitions, Document.extract (.map Sample.storedPets) "x-store" = .ok definitions ∧
        ((⟨.initial, .initial⟩ : Compiler).withKey "x-other").buildSchemas definitions none =
          .ok schemas := by
  obtain ⟨hback, hplain, hschemas⟩ := payload_comes_back
  have hok : (Document.extract (.map Sample.storedPets) "x-store" >>=
      fun definitions => (⟨.initial, .initial⟩ : Compiler).buildSchemas definitions none).isOk =
        true := by decide +kernel
  obtain ⟨schemas, hcompiled⟩ := Outcome.isOk_iff.mp hok
  obtain ⟨definitions, hextract, hbuild⟩ := Outcome.bind_eq_ok_iff.mp hcompiled
  obtain ⟨hoptions, -, hkeys⟩ :=
    hschemas (.map Sample.storedPets) _ _ "x-store" definitions _ schemas rfl rfl hextract hbuild
  obtain ⟨schema, hschema, hfrom⟩ := hoptions (.str "Pet") _ rfl
  refine ⟨⟨some "Mixed", none, [(.str "strict", .bool false)]⟩, schemas, schema, rfl,
    (hback _ _ rfl).1, hplain _ ?_, hschema, hfrom, definitions, hextract, hkeys "x-other"⟩
  exact ⟨.singleton _ _, by decide, by decide⟩

/-- Bytes under the key of the type come back as the text that they spell. -/
theorem payload_with_bytes_differs :
    ¬ ∀ payload e, Extension.ofPayload payload = .ok e → ∀ key, Entries.get? e.payload (.str key) =
      if key ∈ ["type", "ref"] ∧ Entries.get? payload (.str key) = some .null then none
      else Entries.get? payload (.str key) := by
  intro h
  have hbytes :=
    h [(.str "type", .scalar (.bytes "Number".toUTF8.toList))] ⟨some "Number", none, []⟩
      (by decide +kernel) "type"
  revert hbytes
  decide +kernel

end ApiStore
