import ApiStore.Proofs.Outcome
import ApiStore.Proofs.Reading
/-
`Parsing.lean` -- a text that is read as JSON holds a value of JSON.

A document can be given as a text, and then it is read before anything else is done with it.
What the reader makes of a text is a value of JSON, whatever the text: its atoms are numbers,
texts, truth values and null, and a table keeps one value for each of its keys, which are
texts. So what is proved of documents of JSON holds of every document that is given as a text
(`Document.load_isJson`), and asks something only of one that is given as a table.

**Writing without blanks.** Texts, empty lists and tables, and those with one item or entry, are
read as what they spell (`Json.Starts`).
-/
set_option autoImplicit false

namespace ApiStore

/-! ## 1. Tables -/

/-- Setting a text to a value of JSON leaves a table of JSON. -/
theorem Value.isJson_map_insert {entries : Entries Value} (h : (Value.map entries).isJson = true)
    (s : String) {v : Value} (hv : v.isJson = true) :
    (Value.map (entries.insert (.str s) v)).isJson = true := by
  obtain ⟨htexts, hnodup, hvalues⟩ := isJson_map_iff.mp h
  refine isJson_map_iff.mpr ⟨htexts.insert s v, ?_, ?_⟩
  · rw [Entries.keys_insert_str]
    split
    · exact hnodup
    · rename_i hfresh
      refine List.nodup_append.mpr ⟨hnodup, List.nodup_cons.mpr ⟨nofun, List.nodup_nil⟩, ?_⟩
      intro key hkey other hother heq
      exact hfresh (List.mem_singleton.mp hother ▸ heq ▸ hkey)
  · intro e he
    rcases Entries.mem_insert he with hold | hnew
    · exact hvalues e hold
    · exact hnew ▸ hv

namespace Json

/-- Assignments of values of JSON to texts make a table of JSON. -/
theorem isJson_ofList {assignments : List (Scalar × Value)} (htexts : Entries.TextKeys assignments)
    (hvalues : ∀ e ∈ assignments, e.2.isJson = true) :
    (Value.map (Entries.ofList assignments)).isJson = true := by
  have hoverlay : ∀ base, (Value.map base).isJson = true →
      (Value.map (Entries.overlay base assignments)).isJson = true := by
    induction assignments with
    | nil => exact fun _ hbase => hbase
    | cons entry rest ih =>
      obtain ⟨k, v⟩ := entry
      obtain ⟨⟨s, rfl⟩, hrest⟩ := List.forall_mem_cons.mp htexts
      obtain ⟨hv, hothers⟩ := List.forall_mem_cons.mp hvalues
      exact fun base hbase => ih hrest hothers _ (Value.isJson_map_insert hbase s hv)
  exact hoverlay [] rfl

/-! ## 2. Atoms -/

/-- A named constant is a scalar of JSON. -/
theorem constant?_isJson {s : List Char} {a : Scalar} {rest : List Char}
    (h : constant? s = some (a, rest)) :
    a.isJson = true := by
  obtain ⟨⟨name, b⟩, hmem, h⟩ := List.exists_of_findSome?_eq_some h
  have hall : ∀ c ∈ constants, c.2.isJson = true := by decide
  simp only [Option.ite_none_right_eq_some, Option.some.injEq, Prod.mk.injEq] at h
  exact h.2.1 ▸ hall _ hmem

/-- So is a number. -/
theorem number?_isJson {s : List Char} {a : Scalar} {rest : List Char}
    (h : number? s = some (a, rest)) :
    a.isJson = true := by
  unfold number? at h
  obtain ⟨digits, -, h⟩ := Option.map_eq_some_iff.mp h
  dsimp only at h
  split at h <;> cases h <;> rfl

/-- So is whatever is neither a list nor a table. -/
theorem atom_isJson {s : List Char} {a : Scalar} {rest : Shorter s} (h : atom s = .ok (a, rest)) :
    a.isJson = true := by
  unfold atom at h
  split at h
  · rename_i b after hread
    split at h
    · cases h
    · split at h
      · cases h
        rcases Option.or_eq_some_iff.mp hread with hconstant | ⟨-, hnumber⟩
        · exact constant?_isJson hconstant
        · exact number?_isJson hnumber
      · cases h
  · cases h

/-! ## 3. Values -/

-- The recursion is on `n`, which bounds the length of the text.
mutual

/-- What is read at the start of a text is a value of JSON. -/
theorem value_isJson (n room : Nat) (s : List Char) (hn : s.length ≤ n) {v : Value}
    {rest : Shorter s} (h : value room s = .ok (v, rest)) : v.isJson = true := by
  unfold value at h
  split at h
  case h_1 body =>
    obtain ⟨⟨content, after⟩, -, h⟩ := Outcome.bind_eq_ok_iff.mp h
    cases h
    rfl
  case h_2 body =>
    have hblank := (skipBlank body).2
    rw [List.length_cons] at hn
    split at h
    · cases h
    · dsimp only at h
      split at h
      · cases h
        rfl
      · obtain ⟨⟨items, after, _⟩, hitems, h⟩ := Outcome.bind_eq_ok_iff.mp h
        cases h
        exact Value.areJson_iff.mpr (elements_areJson (n - 1) _ _ (by omega) hitems)
  case h_3 body =>
    have hblank := (skipBlank body).2
    rw [List.length_cons] at hn
    split at h
    · cases h
    · dsimp only at h
      split at h
      · cases h
        rfl
      · obtain ⟨⟨assignments, after, _⟩, hmembers, h⟩ := Outcome.bind_eq_ok_iff.mp h
        cases h
        obtain ⟨htexts, hvalues⟩ := members_areJson (n - 1) _ _ (by omega) hmembers
        exact isJson_ofList htexts hvalues
  case h_4 =>
    obtain ⟨⟨constant, after⟩, hatom, h⟩ := Outcome.bind_eq_ok_iff.mp h
    cases h
    exact atom_isJson hatom
termination_by (n, 0)
decreasing_by all_goals apply Prod.Lex.left; omega

/-- The items of a list are values of JSON. -/
theorem elements_areJson (n room : Nat) (s : List Char) (hn : s.length ≤ n) {items : List Value}
    {rest : Shorter s} (h : elements room s = .ok (items, rest)) :
    ∀ v ∈ items, v.isJson = true := by
  unfold elements at h
  obtain ⟨⟨first, next, hnext⟩, hfirst, h⟩ := Outcome.bind_eq_ok_iff.mp h
  have hv := value_isJson n room s hn hfirst
  have hblank := (skipBlank next).2
  dsimp only at h
  split at h
  · cases h
    exact List.forall_mem_singleton.mpr hv
  · rename_i after hafter _ _
    have hstart := (skipBlank after).2
    obtain ⟨⟨others, last, _⟩, hothers, h⟩ := Outcome.bind_eq_ok_iff.mp h
    cases h
    exact List.forall_mem_cons.mpr ⟨hv, elements_areJson (n - 1) _ _ (by omega) hothers⟩
  · cases h
termination_by (n, 1)
decreasing_by
  · apply Prod.Lex.right; omega
  · apply Prod.Lex.left; omega

/-- The assignments of a table are values of JSON under texts. -/
theorem members_areJson (n room : Nat) (s : List Char) (hn : s.length ≤ n)
    {assignments : List (Scalar × Value)} {rest : Shorter s}
    (h : members room s = .ok (assignments, rest)) :
    Entries.TextKeys assignments ∧ ∀ e ∈ assignments, e.2.isJson = true := by
  unfold members at h
  split at h
  case h_1 body =>
    rw [List.length_cons] at hn
    obtain ⟨⟨name, afterName, hname⟩, -, h⟩ := Outcome.bind_eq_ok_iff.mp h
    have hcolon := (skipBlank afterName).2
    dsimp only at h
    split at h
    · rename_i afterColon hafter _
      have hstart := (skipBlank afterColon).2
      obtain ⟨⟨v, next, hnext⟩, hvalue, h⟩ := Outcome.bind_eq_ok_iff.mp h
      have hv := value_isJson (n - 1) _ _ (by omega) hvalue
      have hblank := (skipBlank next).2
      dsimp only at h
      split at h
      · cases h
        exact ⟨.singleton _ _, List.forall_mem_singleton.mpr hv⟩
      · rename_i following hfollowing _ _
        have hlater := (skipBlank following).2
        obtain ⟨⟨others, last, _⟩, hothers, h⟩ := Outcome.bind_eq_ok_iff.mp h
        cases h
        obtain ⟨htexts, hvalues⟩ := members_areJson (n - 1) _ _ (by omega) hothers
        exact ⟨(Entries.TextKeys.singleton _ v).append htexts,
          List.forall_mem_cons.mpr ⟨hv, hvalues⟩⟩
      · cases h
    · cases h
  case h_2 => cases h
termination_by (n, 0)
decreasing_by all_goals apply Prod.Lex.left; omega

end
/-- A text that is read as JSON holds a value of JSON. -/
theorem read_isJson {text : List Char} {v : Value} (h : read text = .ok v) : v.isJson = true := by
  unfold read at h
  split at h
  · rename_i hwhole
    cases h
    obtain ⟨⟨w, rest, _⟩, hvalue, hend⟩ := Outcome.bind_eq_ok_iff.mp hwhole
    dsimp only at hend
    split at hend
    · cases hend
      exact value_isJson _ _ _ (Nat.le_refl _) hvalue
    · cases hend
  · cases h

/-- What is read from a text is a value of JSON. -/
theorem readDecoded_isJson {text : List Char} {v : Value} (h : readDecoded text = .ok v) :
    v.isJson = true := by
  unfold readDecoded at h
  split at h
  · cases h
  · exact read_isJson h

/-! ## 4. What texts start with -/

/-- What a text starts with, and what follows it. -/
def Starts (room : Nat) (text : List Char) (v : Value) (rest : List Char) : Prop :=
  ∃ hrest, value room text = .ok (v, ⟨rest, hrest⟩)

/-- A text that does not start with blanks. -/
def Tight (text : List Char) : Prop := text.dropWhile isBlank = text

/-- Whether a character stands for itself between quotation marks. -/
def isPlain (c : Char) : Bool := c != '"' && c != '\\' && 32 ≤ c.toNat

/-- A plain character is no quotation mark, no backslash and no control character. -/
theorem isPlain_iff {c : Char} : isPlain c = true ↔ c ≠ '"' ∧ c ≠ '\\' ∧ 32 ≤ c.toNat := by
  simp [isPlain, and_assoc]

/-- What a text starts with, it starts with after its blanks as well. -/
theorem Starts.skipBlank {room : Nat} {text rest : List Char} {v : Value}
    (h : Starts room text v rest) (htight : Tight text) :
    Starts room (skipBlank text).1 v rest := by
  rw [show (Json.skipBlank text).1 = text from htight]
  exact h

/-- Such characters are read as they are, up to a quotation mark. -/
theorem textBody_plain (opening : List Char) {name : List Char} (h : name.all isPlain = true)
    (rest : List Char) :
    ∃ hrest, textBody opening (name ++ '"' :: rest) = .ok (name, ⟨rest, hrest⟩) := by
  induction name with
  | nil =>
    refine ⟨by simp, ?_⟩
    change textBody opening ('"' :: rest) = _
    rw [textBody]
  | cons c others ih =>
    rw [List.all_cons, Bool.and_eq_true] at h
    obtain ⟨hquote, hescape, hcontrol⟩ := isPlain_iff.mp h.1
    obtain ⟨hrest, hbody⟩ := ih h.2
    refine ⟨by simp only [List.cons_append, List.length_cons]; omega, ?_⟩
    change textBody opening (c :: (others ++ '"' :: rest)) = _
    rw [textBody, if_neg (by omega)]
    -- The other goals say that no special case of the reader applies.
    · exact Outcome.bind_eq_ok_iff.mpr ⟨_, hbody, rfl⟩
    · exact hquote
    · exact fun heq _ => hescape heq
    · exact fun _ heq _ => hescape heq
    · exact fun _ _ heq _ => hescape heq

/-- A text of plain characters in quotation marks is read as it is. -/
theorem starts_text (room : Nat) {name : List Char} (h : name.all isPlain = true)
    (rest : List Char) :
    Starts room ('"' :: (name ++ '"' :: rest)) (.str (String.ofList name)) rest := by
  obtain ⟨hrest, hbody⟩ := textBody_plain ('"' :: (name ++ '"' :: rest)) h rest
  refine ⟨by simp only [List.length_cons]; omega, ?_⟩
  rw [value]
  exact Outcome.bind_eq_ok_iff.mpr ⟨_, hbody, rfl⟩

/-- An empty list is read as one. -/
theorem starts_no_items (room : Nat) (rest : List Char) :
    Starts (room + 1) ('[' :: ']' :: rest) (.list []) rest := by
  refine ⟨by simp only [List.length_cons]; omega, ?_⟩
  rw [value, if_neg (by omega)]
  rfl

/-- So is an empty table. -/
theorem starts_no_entries (room : Nat) (rest : List Char) :
    Starts (room + 1) ('\x7b' :: '\x7d' :: rest) (.map []) rest := by
  refine ⟨by simp only [List.length_cons]; omega, ?_⟩
  rw [value, if_neg (by omega)]
  rfl

section Single

variable {room : Nat} {text rest : List Char} {v : Value}

/-- A list of one item, which is written without blanks. -/
theorem starts_item (h : Starts room text v (']' :: rest) ) (htight : Tight text)
    (hfull : text.head? ≠ some ']') :
    Starts (room + 1) ('[' :: text) (.list [v]) rest := by
  obtain ⟨hrest, hitems⟩ : ∃ hrest, elements room (skipBlank text).1 =
      .ok ([v], ⟨rest, hrest⟩) := by
    obtain ⟨hlength, hvalue⟩ := h.skipBlank htight
    refine ⟨by rw [List.length_cons] at hlength; omega, ?_⟩
    rw [elements]
    exact Outcome.bind_eq_ok_iff.mpr ⟨_, hvalue, rfl⟩
  have hafter : afterSign? ']' (skipBlank text).1 = none := by
    rw [show (skipBlank text).1 = text from htight]
    cases text with
    | nil => rfl
    | cons c others => exact if_neg fun heq => hfull (congrArg some heq)
  have hshorter := (skipBlank text).2
  refine ⟨by simp only [List.length_cons]; omega, ?_⟩
  rw [value, if_neg (by omega)]
  dsimp only
  rw [hafter]
  exact Outcome.bind_eq_ok_iff.mpr ⟨_, hitems, rfl⟩

/-- A table of one entry, which is written without blanks. -/
theorem starts_entry {name : List Char} (hname : name.all isPlain = true)
    (h : Starts room text v ('\x7d' :: rest)) (htight : Tight text) :
    Starts (room + 1) ('\x7b' :: '"' :: (name ++ '"' :: ':' :: text))
      (.object [(String.ofList name, v)]) rest := by
  obtain ⟨hlength, hvalue⟩ := h.skipBlank htight
  obtain ⟨hbody, hread⟩ := textBody_plain ('"' :: (name ++ '"' :: ':' :: text)) hname (':' :: text)
  have hshorter := (skipBlank text).2
  simp only [List.length_cons] at hlength hbody
  obtain ⟨hrest, hentries⟩ : ∃ hrest, members room ('"' :: (name ++ '"' :: ':' :: text)) =
      .ok ([(.str (String.ofList name), v)], ⟨rest, hrest⟩) := by
    refine ⟨by simp only [List.length_cons]; omega, ?_⟩
    rw [members]
    exact Outcome.bind_eq_ok_iff.mpr ⟨_, hread, Outcome.bind_eq_ok_iff.mpr ⟨_, hvalue, rfl⟩⟩
  refine ⟨by simp only [List.length_cons] at hrest ⊢; omega, ?_⟩
  rw [value, if_neg (by omega)]
  exact Outcome.bind_eq_ok_iff.mpr ⟨_, hentries, rfl⟩

end Single

/-- A text is read as what it starts with, if nothing follows that. -/
theorem readDecoded_of_starts {text : List Char} {v : Value} (h : Starts mostOpen text v [])
    (htight : Tight text) (hmark : text.head? ≠ some '\uFEFF') : readDecoded text = .ok v := by
  obtain ⟨hrest, hvalue⟩ := h.skipBlank htight
  have hwhole : whole text = .ok v := Outcome.bind_eq_ok_iff.mpr ⟨_, hvalue, rfl⟩
  rw [readDecoded, if_neg hmark, read, hwhole]

end Json

/-! ## 5. Documents -/

namespace Document

/-- A table that is read from a text or from bytes is one of JSON. -/
theorem readTable_isJson {text : List Char ⊕ List UInt8} {document : Entries Value}
    (h : readTable text = .ok document) : (Value.map document).isJson = true := by
  obtain ⟨v, hv, htable⟩ := Outcome.bind_eq_ok_iff.mp h
  have hjson : v.isJson = true := by
    unfold readJson at hv
    split at hv
    · exact Json.readDecoded_isJson (Outcome.mapError_eq_ok_iff.mp hv)
    · split at hv
      · cases hv
      · exact Json.read_isJson (Outcome.mapError_eq_ok_iff.mp hv)
  rw [Outcome.mapError_eq_ok_iff] at htable
  unfold table at htable
  split at htable
  · cases htable
    exact hjson
  · cases htable

/-- A document is of JSON if it is given as a text, and if it is given as a table of JSON. -/
theorem load_isJson {spec : Value} {document : Entries Value} (h : load spec = .ok document)
    (hspec : ∀ entries, spec = .map entries → spec.isJson = true) :
    (Value.map document).isJson = true := by
  unfold load at h
  split at h
  · cases h
  · cases h
    exact hspec _ rfl
  · split at h
    · cases h
    · exact readTable_isJson h
  · split at h
    · cases h
    · exact readTable_isJson h
  · cases h

end Document

end ApiStore
