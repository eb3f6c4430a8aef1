import ApiStore.Config.Reading
import ApiStore.Proofs.Entries
import ApiStore.Proofs.Outcome
/-
`Configuration.lean` -- which configurations are read, and which are refused.

Settings are read from a table, or from the section `compiler` of a table. Each setting has its
own check, and all of them report what they find together. A configuration that is read
fits, and a report names settings that were given (`ofSettings_cases`).

**The section is taken for a table.** That a configuration is a table is checked, that its
section is one is not. A section of another kind is not refused as a bad value, but
looking for a setting in it fails (`ofValue_section_no_table`). No other value makes
reading a configuration fail like that.
-/
set_option autoImplicit false

namespace ApiStore

/-- Whether a fault says that a value is bad. The other faults say that something could not be done
with it. -/
def Fault.isBadValue (f : Fault) : Bool :=
  ["ValueError", "ValidationError", "JSONDecodeError", "UnicodeDecodeError"].contains f.category

namespace Config

/-! ## 1. Settings -/

/-- A report on one setting: there is something in it, and all of it is about the setting. -/
structure Concerns (name : String) (misfits : List Misfit) : Prop where
  nonempty : misfits ≠ []
  places : ∀ m ∈ misfits, ∃ inner, m.place = name :: inner

theorem Concerns.singleton (name : String) (flaw : Flaw) (found : Value) :
    Concerns name [⟨[name], flaw, found⟩] :=
  ⟨by simp, by simp⟩

/-- A reader of a setting, which reports on that setting where it does not read it. -/
def Reports {α : Type} (name : String) (read : Value → Except (List Misfit) α) : Prop :=
  ∀ v misfits, read v = .error misfits → Concerns name misfits

/-- A depth that is read can be reached. -/
theorem one_le_of_depthSetting {v : Value} {depth : Int} (h : depthSetting v = .ok depth) :
    1 ≤ depth := by
  unfold depthSetting at h
  dsimp only at h
  split at h
  · split at h
    · rename_i hle
      exact Except.ok.inj h ▸ hle
    · cases h
  · cases h

theorem depthSetting_reports : Reports "max_reference_depth" depthSetting := by
  intro v misfits h
  unfold depthSetting at h
  dsimp only at h
  split at h
  · split at h
    · cases h
    · exact Except.error.inj h ▸ .singleton _ _ _
  · exact Except.error.inj h ▸ .singleton _ _ _

theorem keySetting_reports : Reports "extension_key" keySetting := by
  intro v misfits h
  obtain ⟨flaw, -, rfl⟩ := Outcome.mapError_eq_error_iff.mp h
  exact .singleton _ _ _

/-- What does not fit in an alias is in its name or in its target. -/
theorem place_of_aliasMisfits {name : Scalar} {target : Value} {m : Misfit}
    (h : m ∈ aliasMisfits name target) :
    ∃ inner, m.place = "type_aliases" :: inner := by
  rcases List.mem_append.mp h with hkey | htarget
  · obtain ⟨⟨k, t⟩, -, hkey⟩ := List.mem_filterMap.mp hkey
    cases hname : Misfit.textOf (.scalar k) with
    | ok s => simp [hname] at hkey
    | error flaw =>
      simp only [hname, Option.some.injEq] at hkey
      subst hkey
      exact ⟨_, rfl⟩
  · split at htarget
    · cases htarget
    · obtain rfl := List.mem_singleton.mp htarget
      exact ⟨_, rfl⟩

theorem aliasSetting_reports : Reports "type_aliases" aliasSetting := by
  intro v misfits h
  unfold aliasSetting at h
  split at h
  · split at h
    · cases h
    · rename_i hsome
      obtain rfl := Except.error.inj h
      refine ⟨hsome, fun m hm => ?_⟩
      obtain ⟨entry, -, hm⟩ := List.mem_flatMap.mp hm
      exact place_of_aliasMisfits hm
  · exact Except.error.inj h ▸ .singleton _ _ _

section Setting

variable {α : Type} {settings : Entries Value} {name : String} {default : α}
  {read : Value → Except (List Misfit) α}

/-- What holds of the default of a setting and of all that is read for it holds of the setting. -/
theorem of_setting {P : α → Prop} (hdefault : P default) (hread : ∀ v a, read v = .ok a → P a)
    {a : α} (h : setting settings name default read = .ok a) : P a := by
  unfold setting at h
  split at h
  · exact Except.ok.inj h ▸ hdefault
  · exact hread _ _ h

/-- A misfit of a setting that was given. -/
def IsOfGiven (settings : Entries Value) (m : Misfit) : Prop :=
  ∃ name inner v, m.place = name :: inner ∧ Entries.get? settings (.str name) = some v

/-- A setting is reported on only if it was given. -/
theorem setting_misfits (hread : Reports name read) :
    ∀ m ∈ misfitsOf (setting settings name default read), IsOfGiven settings m := by
  intro m hm
  unfold setting at hm
  split at hm
  · cases hm
  · rename_i v hv
    cases hx : read v with
    | ok a =>
      rw [hx] at hm
      cases hm
    | error misfits =>
      rw [hx] at hm
      obtain ⟨inner, hplace⟩ := (hread v misfits hx).places m hm
      exact ⟨name, inner, v, hplace, hv⟩

/-- Where there is nothing to report on a setting, it has a value. -/
theorem exists_of_misfitsOf_eq_nil (hread : Reports name read)
    (h : misfitsOf (setting settings name default read) = []) :
      ∃ a, setting settings name default read = .ok a := by
  unfold setting at h ⊢
  split
  · exact ⟨default, rfl⟩
  · rename_i v hv
    rw [hv] at h
    cases hx : read v with
    | ok a => exact ⟨a, rfl⟩
    | error misfits =>
      dsimp only at h
      rw [hx] at h
      exact absurd h (hread v misfits hx).nonempty

end Setting

/-- **Settings** make a configuration whose depth can be reached, or a report of misfits, all of
settings that were given. -/
theorem ofSettings_cases (settings : Entries Value) :
    (∃ c, ofSettings settings = .ok c ∧ 1 ≤ c.maxReferenceDepth) ∨
      ∃ misfits, ofSettings settings = .error (.misfit "CompilerConfig" misfits) ∧ misfits ≠ [] ∧
        ∀ m ∈ misfits, IsOfGiven settings m := by
  unfold ofSettings
  dsimp only
  split
  · rename_i k depth a hkey hdepth haliases
    have hinitial : 1 ≤ initial.maxReferenceDepth := by decide
    exact .inl ⟨_, rfl, of_setting hinitial (fun _ _ => one_le_of_depthSetting) hdepth⟩
  · rename_i hnone
    refine .inr ⟨_, rfl, ?_, ?_⟩
    -- Without a report on any of them, all three settings would have a value.
    · intro hnil
      obtain ⟨hnil, haliases⟩ := List.append_eq_nil_iff.mp hnil
      obtain ⟨hkey, hdepth⟩ := List.append_eq_nil_iff.mp hnil
      obtain ⟨k, hk⟩ := exists_of_misfitsOf_eq_nil keySetting_reports hkey
      obtain ⟨depth, hd⟩ := exists_of_misfitsOf_eq_nil depthSetting_reports hdepth
      obtain ⟨a, ha⟩ := exists_of_misfitsOf_eq_nil aliasSetting_reports haliases
      exact hnone k depth a hk hd ha
    · intro m hm
      rcases List.mem_append.mp hm with hm | haliases
      · rcases List.mem_append.mp hm with hkey | hdepth
        · exact setting_misfits keySetting_reports m hkey
        · exact setting_misfits depthSetting_reports m hdepth
      · exact setting_misfits aliasSetting_reports m haliases

/-! ## 2. Configurations -/

/-- A table that has a section for the compiler which is no table itself. -/
def Untabled (v : Value) : Prop :=
  ∃ found, v.get? "compiler" = some found ∧ ∀ settings, found ≠ .map settings

/-- The settings of a section are those of the configuration. -/
theorem ofValue_section {v : Value} {settings : Entries Value}
    (h : v.get? "compiler" = some (.map settings)) :
    ofValue v = ofSettings settings := by
  cases v with
  | map entries =>
    change Entries.get? entries (.str "compiler") = some (.map settings) at h
    rw [ofValue, h]
    rfl
  | _ => cases h

/-- Without a section the settings are the whole. -/
theorem ofValue_map {entries : Entries Value} (h : Entries.get? entries (.str "compiler") = none) :
    ofValue (.map entries) = ofSettings entries := by
  rw [ofValue, h]
  rfl

/-- A section that is no table has no entries in which to look for a setting. -/
theorem ofValue_section_no_table {v found : Value} (h : v.get? "compiler" = some found)
    (hfound : ∀ settings, found ≠ .map settings) : ofValue v = .error (.noEntries found.kind) := by
  cases v with
  | map entries =>
    change Entries.get? entries (.str "compiler") = some found at h
    rw [ofValue, h, Option.getD_some]
    cases found with
    | map settings => exact absurd rfl (hfound settings)
    | _ => rfl
  | _ => cases h

/-- Anything else makes a configuration, or is a bad value. -/
theorem ofValue_cases {v : Value} (h : ¬ Untabled v) :
    (∃ c, ofValue v = .ok c ∧ 1 ≤ c.maxReferenceDepth) ∨ ∃ e, ofValue v = .error e ∧
      e.isBadValue = true := by
  have hsettings : ∀ settings, ofValue v = ofSettings settings →
      (∃ c, ofValue v = .ok c ∧ 1 ≤ c.maxReferenceDepth) ∨ ∃ e, ofValue v = .error e ∧
        e.isBadValue = true := by
    intro settings heq
    rw [heq]
    exact (ofSettings_cases settings).imp_right fun ⟨misfits, herror, _⟩ => ⟨_, herror, rfl⟩
  by_cases hmap : ∃ entries, v = .map entries
  · obtain ⟨entries, rfl⟩ := hmap
    cases hget : Entries.get? entries (.str "compiler") with
    | none => exact hsettings entries (ofValue_map hget)
    | some found =>
      by_cases hfound : ∃ settings, found = .map settings
      · obtain ⟨settings, rfl⟩ := hfound
        exact hsettings settings (ofValue_section hget)
      · exact absurd ⟨found, hget, not_exists.mp hfound⟩ h
  · unfold ofValue
    split
    · exact .inl ⟨initial, rfl, by decide⟩
    · exact absurd ⟨_, rfl⟩ hmap
    · exact .inr ⟨_, rfl, rfl⟩

/-! ## 3. Writing and reading -/

theorem ofSettings_of_fit {settings : Entries Value} {k : String} {depth : Int}
    {aliases : List (String × String)}
    (hkey : setting settings "extension_key" initial.extensionKey keySetting = .ok k)
    (hdepth : setting settings "max_reference_depth" initial.maxReferenceDepth depthSetting =
      .ok depth)
    (haliases : setting settings "type_aliases" initial.typeAliases aliasSetting = .ok aliases) :
    ofSettings settings = .ok ⟨k, depth, aliases⟩ := by
  rw [ofSettings, hkey, hdepth, haliases]

theorem aliasSetting_of_fit {entries : Entries Value}
    (h : (entries.flatMap fun (name, target) => aliasMisfits name target) = []) :
    aliasSetting (.map entries) = .ok (textEntries entries) := by
  rw [aliasSetting, h]

/-- The aliases of a configuration are read from the table that is written for them. -/
theorem aliasSetting_object (aliases : List (String × String)) :
    aliasSetting (.object (aliases.map fun (name, target) => (name, .str target))) =
      .ok aliases := by
  rw [Value.object, List.map_map]
  have hentry : ∀ entry ∈ aliases.map (fun (name, target) => (Scalar.str name, Value.str target)),
      ∃ name target, entry = (.str name, .str target) := by
    intro entry hentry
    obtain ⟨⟨name, target⟩, -, rfl⟩ := List.mem_map.mp hentry
    exact ⟨name, target, rfl⟩
  have htexts : Entries.TextKeys
      (aliases.map fun (name, target) => (Scalar.str name, Value.str target)) := by
    intro entry h
    obtain ⟨name, target, rfl⟩ := hentry entry h
    exact ⟨name, rfl⟩
  refine (aliasSetting_of_fit (List.flatMap_eq_nil_iff.mpr fun entry h => ?_)).trans
    (congrArg Except.ok ?_)
  · obtain ⟨name, target, rfl⟩ := hentry entry h
    rfl
  · refine (congrArg (List.filterMap _) htexts.spelled).trans ?_
    rw [List.filterMap_map]
    exact List.filterMap_some

/-- What is written for a configuration is read as that configuration. -/
theorem ofValue_toEntries {c : Config} (h : 1 ≤ c.maxReferenceDepth) :
    ofValue (.map c.toEntries) = .ok c := by
  have hdepth : depthSetting (.int c.maxReferenceDepth) = .ok c.maxReferenceDepth := if_pos h
  refine (ofValue_section rfl).trans (ofSettings_of_fit (k := c.extensionKey) rfl ?_ ?_)
  · exact hdepth
  · exact aliasSetting_object c.typeAliases

/-- **Configurations are read or refused as bad values,** unless the section for the compiler is no
table, where looking for a setting fails. A table without a section is read like one that has it for
its section. And what is written for a configuration is read as that configuration. -/
theorem ofValue_outcome (v : Value) :
    (¬ Untabled v →
      (∃ c, ofValue v = .ok c ∧ 1 ≤ c.maxReferenceDepth) ∨
        ∃ e, ofValue v = .error e ∧ e.isBadValue = true) ∧
    (Untabled v → ∃ kind, ofValue v = .error (.noEntries kind) ∧
      (Fault.noEntries kind).isBadValue = false) ∧
    (∀ entries, v = .map entries → v.get? "compiler" = none →
      ofValue (.object [("compiler", v)]) = ofValue v) ∧
    ∀ c : Config, 1 ≤ c.maxReferenceDepth → ofValue (.map c.toEntries) = .ok c := by
  refine ⟨ofValue_cases, ?_, ?_, fun c => ofValue_toEntries⟩
  · rintro ⟨found, hget, hfound⟩
    exact ⟨found.kind, ofValue_section_no_table hget hfound, rfl⟩
  · rintro entries rfl hget
    rw [ofValue_map hget]
    exact ofValue_section rfl

namespace Sample

/-- Settings that are all given, the depth in words that are read kindly. -/
def given : Entries Value :=
  [(.str "extension_key", .str "x-store"), (.str "max_reference_depth", .str " 1_6 "),
    (.str "type_aliases", .object [("Any", .str "Mixed")])]

/-- What they come to. -/
def store : Config :=
  { extensionKey := "x-store", maxReferenceDepth := 16, typeAliases := [("Any", "Mixed")] }

end Sample

/-- Settings are the same in a section and by themselves, and come back when they are written and
read. A list in the place of the section has no entries. -/
theorem ofValue_outcome_given :
    ofValue (.object [("compiler", .map Sample.given)]) = .ok Sample.store ∧
      ofValue (.map Sample.store.toEntries) = .ok Sample.store ∧
      (∃ kind, ofValue (.object [("compiler", .list [.map Sample.given])]) =
        .error (.noEntries kind)) ∧
      ((∃ c, ofValue (.list [.map Sample.given]) = .ok c ∧ 1 ≤ c.maxReferenceDepth) ∨
        ∃ e, ofValue (.list [.map Sample.given]) = .error e ∧ e.isBadValue = true) := by
  obtain ⟨-, -, hsection, hwritten⟩ := ofValue_outcome (.map Sample.given)
  obtain ⟨-, huntabled, -, -⟩ := ofValue_outcome (.object [("compiler", .list [.map Sample.given])])
  obtain ⟨hcases, -, -, -⟩ := ofValue_outcome (.list [.map Sample.given])
  have hread : ofValue (.map Sample.given) = .ok Sample.store := rfl
  obtain ⟨kind, hkind, -⟩ := huntabled ⟨_, rfl, nofun⟩
  refine ⟨(hsection _ rfl rfl).trans hread, hwritten _ (by decide), ⟨kind, hkind⟩, hcases ?_⟩
  rintro ⟨found, hfound, -⟩
  cases hfound

/-- A list in the place of the section is neither read nor refused as a bad value. -/
theorem section_list_is_no_bad_value :
    ¬ ∀ v, (∃ c, ofValue v = .ok c) ∨ ∃ e, ofValue v = .error e ∧ e.isBadValue = true := by
  intro h
  have hfails :
    ofValue (.object [("compiler", .list [.object [("extension_key", .str "x-store")]])]) =
      .error (.noEntries "list") := rfl
  rcases h (.object [("compiler", .list [.object [("extension_key", .str "x-store")]])]) with
    ⟨c, hc⟩ | ⟨e, he, hbad⟩
  · rw [hfails] at hc
    cases hc
  · obtain rfl := Except.error.inj (hfails.symm.trans he)
    revert hbad
    decide

end Config

end ApiStore
