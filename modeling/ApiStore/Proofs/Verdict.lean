import ApiStore.Command
import ApiStore.Proofs.Parsing
import ApiStore.Proofs.Value
import Mathlib.Data.List.Forall2
/-
`Verdict.lean` -- what the command line says about a document that is no object.

The command `validate` reads a document from a file and checks it against the model of a
definition. The JSON Schema of a field map asks for an object, but it never sees anything
else: before the check a document is made a table. A number, a truth value, null and a text
with something in it cannot be made one, and the command fails.

**Lists pass for objects.** A list of assignments can be made a table, and so can nothing at
all. `Value.Makes` says which values of JSON these are: the empty text, and the lists whose items
are all lists of two with an atom first, texts of two characters or tables of two keys. The
verdict on such a document is the verdict on the table that it makes (`validate_of_no_object`),
and so the empty list is a valid document wherever the empty object is one
(`empty_list_is_valid`).
-/
set_option autoImplicit false

namespace ApiStore

/-! ## 1. Values that make a table -/

namespace Value

/-- An item of a list that makes an assignment: a list of a key and a value, a text of two
characters, or a table of two keys, of which the first one is the key and the second one the
value. -/
inductive Assigns : Value → Scalar × Value → Prop
  | list (key : Scalar) (v : Value) : Assigns (.list [.scalar key, v]) (key, v)
  | text (a b : Char) : Assigns (.str (String.ofList [a, b]))
    (.str (String.singleton a), .str (String.singleton b))
  | table (key k : Scalar) (v w : Value) : Assigns (.map [(key, v), (k, w)]) (key, .scalar k)

/-- A value of JSON that is no table and makes one: nothing at all, or a list of assignments. -/
inductive Makes : Value → Entries Value → Prop
  | nothing : Makes (.str "") []
  | list {items : List Value} {assigned : List (Scalar × Value)}
    (h : List.Forall₂ Assigns items assigned) :
    Makes (.list items) (Entries.ofList assigned)

/-- A value of JSON with two items of which the first one is an atom is one of these. -/
theorem assigns_of_elements {item v : Value} {key : Scalar} (h : item.isJson = true)
    (helements : item.elements? = some [.scalar key, v]) : Assigns item (key, v) := by
  cases item with
  | scalar s =>
    cases s with
    | str t =>
      obtain ⟨a, b, htext, rfl, rfl⟩ : ∃ a b, t.toList = [a, b] ∧ .str (String.singleton a) = key ∧
          .str (String.singleton b) = v := by
        simpa [elements?, List.map_eq_cons_iff, and_assoc] using helements
      rw [← String.ofList_toList (s := t), htext]
      exact .text a b
    | bytes b => cases h
    | _ => cases helements
  | list items =>
    obtain rfl := Option.some.inj helements
    exact .list key v
  | map entries =>
    obtain ⟨first, second, rfl, rfl, rfl⟩ : ∃ first second :
      Scalar × Value, entries = [first, second] ∧ first.1 = key ∧
        .scalar second.1 = v := by
      simpa [elements?, List.map_eq_cons_iff, and_assoc] using helements
    exact .table first.1 second.1 first.2 second.2
  | _ => cases h

/-- Of the values of JSON exactly these are taken for assignments. -/
theorem assignment_eq_ok_iff {item : Value} (h : item.isJson = true) {index : Nat}
    {a : Scalar × Value} :
    assignment index item = .ok a ↔ Assigns item a := by
  constructor
  · intro hread
    unfold assignment at hread
    split at hread
    · cases hread
    · rename_i key v helements
      obtain rfl := Except.ok.inj hread
      exact assigns_of_elements h helements
    · cases hread
    · cases hread
  · rintro (⟨key, v⟩ | ⟨a, b⟩ | ⟨key, k, v, w⟩)
    · rfl
    · simp [assignment, elements?]
    · rfl

/-- A list of assignments is one that has nothing else in it. -/
theorem assignments_eq_ok_iff {items : List Value} (h : ∀ item ∈ items, item.isJson = true)
    {index : ℕ} {assigned : List (Scalar × Value)} :
    assignments index items = .ok assigned ↔ List.Forall₂ Assigns items assigned := by
  induction items generalizing index assigned with
  | nil =>
    rw [List.forall₂_nil_left_iff]
    exact ⟨fun hread => (Except.ok.inj hread).symm, fun hnil => hnil ▸ rfl⟩
  | cons item rest ih =>
    obtain ⟨hitem, hrest⟩ := List.forall_mem_cons.mp h
    rw [List.forall₂_cons_left_iff]
    constructor
    · intro hread
      obtain ⟨a, ha, hread⟩ := Outcome.bind_eq_ok_iff.mp hread
      obtain ⟨others, hothers, hread⟩ := Outcome.bind_eq_ok_iff.mp hread
      exact ⟨a, others, (assignment_eq_ok_iff hitem).mp ha, (ih hrest).mp hothers,
        (Except.ok.inj hread).symm⟩
    · rintro ⟨a, others, ha, hothers, rfl⟩
      exact Outcome.bind_eq_ok_iff.mpr ⟨a, (assignment_eq_ok_iff hitem).mpr ha,
        Outcome.bind_eq_ok_iff.mpr ⟨others, (ih hrest).mpr hothers, rfl⟩⟩

/-- The characters of a text are no assignments. -/
theorem assignments_of_text {s : String} {assigned : List (Scalar × Value)}
    (h : assignments 0 (s.toList.map fun c => .str (String.singleton c)) = .ok assigned) :
    s = "" ∧ assigned = [] := by
  cases hs : s.toList with
  | nil =>
    rw [hs] at h
    exact ⟨String.toList_eq_nil_iff.mp hs, (Except.ok.inj h).symm⟩
  -- The first character is a text of one item, where two are wanted.
  | cons c rest =>
    rw [hs] at h
    obtain ⟨a, ha, -⟩ := Outcome.bind_eq_ok_iff.mp h
    simp [assignment, elements?] at ha

/-- **A value of JSON that is no table makes one** if it is nothing at all or a list of assignments,
and is refused otherwise. -/
theorem toTable_eq_ok_iff {v : Value} (h : v.isJson = true) (hobject : ∀ entries, v ≠ .map entries)
    {t : Entries Value} :
    v.toTable = .ok t ↔ Makes v t := by
  constructor
  · intro htable
    cases v with
    | scalar s =>
      cases s with
      | str s =>
        obtain ⟨assigned, hassigned, rfl⟩ := Outcome.map_eq_ok_iff.mp htable
        obtain ⟨rfl, rfl⟩ := assignments_of_text hassigned
        exact .nothing
      | bytes b => cases h
      | _ => cases htable
    | list items =>
      obtain ⟨assigned, hassigned, rfl⟩ := Outcome.map_eq_ok_iff.mp htable
      exact .list ((assignments_eq_ok_iff (areJson_iff.mp h)).mp hassigned)
    | map entries => exact absurd rfl (hobject entries)
    | _ => cases h
  · intro hmakes
    cases hmakes with
    | nothing => rfl
    | list hassigns =>
      exact Outcome.map_eq_ok_iff.mpr ⟨_, (assignments_eq_ok_iff (areJson_iff.mp h)).mpr hassigns,
        rfl⟩

end Value

/-! ## 2. The check of a document -/

namespace Collection

variable {c : Collection} {v : Value}

/-- A document that makes a table is checked like that table. -/
theorem check_of_toTable {t : Entries Value} (h : v.toTable = .ok t) :
    c.check v = c.check (.map t) := by
  have htable : (Value.map t).toTable = .ok t := rfl
  rw [check, check, prepare, prepare, h, htable]

/-- A document that makes no table cannot be checked. -/
theorem check_of_no_table {f : Fault} (h : v.toTable = .error f) : c.check v = .error f := by
  rw [check, prepare, h]
  rfl

end Collection

/-! ## 3. The command -/

namespace Command

/-- Whatever is printed, the exit code is the one that was meant, unless something could not be
shown. -/
theorem Outcome.exitCode_printing (exitCode : ℕ) (output : String) (lines : List String) :
    (Outcome.printing exitCode output lines).exitCode = exitCode ∨
      (Outcome.printing exitCode output lines).exitCode = 1 := by
  induction lines generalizing output with
  | nil => exact .inl rfl
  | cons line rest ih =>
    rw [Outcome.printing]
    cases Console.printed line with
    | ok s => exact ih (output ++ s)
    | error e => exact .inr rfl

/-- A failure that is reported has the exit code of failures. -/
theorem exitCode_reported (title : String) (verbose : Bool) (f : Failure) :
    (reported title verbose f).exitCode = 1 := by
  have hprinted : ∀ lines, (Outcome.printing 1 "" lines).exitCode = 1 :=
    fun lines => or_self_iff.mp (Outcome.exitCode_printing 1 "" lines)
  unfold reported
  dsimp only
  split
  · dsimp only
    exact hprinted _
  · exact hprinted _

/-- The definition that a line names. -/
def definitionName (l : Line) : String := (l.value? "--definition").getD ""

/-- The line that says that a document is valid. -/
def validLine (name : String) : String := "\n" ++ name ++ ": " ++ "[green]VALID[/green]"

/-- Words that ask for the check of a document against a model: the API document that they name
compiles, and the model is that of the definition that they name; the file that they name holds a
value as JSON. -/
structure Asks (folder : Folder) (words : List String) (verbose : Bool) (l : Line)
    (model : Collection) (v : Value) :
    Prop where
  request : ∃ verb ∈ verbs, verb.name = "validate" ∧ readRequest words = .ok (.run verb verbose l) ∧
    l.errors verb.grammar folder = []
  model : ∃ config spec store schemas, readConfig folder l = .ok config ∧
    readSpec folder l = .ok spec ∧
    Store.empty.compile config spec = (store, .ok schemas) ∧
      store.get? (definitionName l) = some model
  document : ∃ bytes text, folder.read (l.arguments.getD 1 "") = .ok bytes ∧
    fileText bytes = .ok text ∧ Json.readDecoded text = .ok v

section Validate

variable {folder : Folder} {words : List String} {verbose : Bool} {l : Line} {model : Collection}
  {v : Value}

/-- Such words run the command. -/
theorem Asks.run (h : Asks folder words verbose l model v) :
    Command.run folder words = validate folder verbose l := by
  obtain ⟨verb, hverb, hname, hrequest, herrors⟩ := h.request
  -- Of the three commands only one has that name.
  have hvalidate : verb.run = validate := by
    simp only [verbs, List.mem_cons, List.not_mem_nil, or_false] at hverb
    rcases hverb with rfl | rfl | rfl
    · exact absurd hname (by decide)
    · exact absurd hname (by decide)
    · rfl
  have hwords : words.isEmpty = false := by
    cases words with
    | nil => cases hrequest
    | cons word rest => rfl
  rw [Command.run, hwords, hrequest]
  simp only [herrors, hvalidate, Bool.false_eq_true, if_false]

/-- Where a document compiles, the type names of the configuration are known. -/
theorem exists_compiler_of_compile {config : Config} {spec : Value} {store : Store}
    {schemas : Entries Schema} (h : Store.empty.compile config spec = (store, .ok schemas)) :
      ∃ c, Compiler.ofConfig config = .ok c := by
  cases hc : Compiler.ofConfig config with
  | ok c => exact ⟨c, rfl⟩
  | error e =>
    have hspec : Store.compileSpec config spec = .error (.compile e) := by
      rw [Store.compileSpec, hc]
      rfl
    rw [Store.compile, hspec] at h
    cases h

/-- What the model says is what is reported. -/
theorem Asks.checkFile (h : Asks folder words verbose l model v) :
    Command.checkFile folder l (definitionName l) = ((model.check v).mapError .fault).map some := by
  obtain ⟨config, spec, store, schemas, hconfig, hspec, hcompile, hmodel⟩ := h.model
  obtain ⟨bytes, text, hbytes, htext, hread⟩ := h.document
  obtain ⟨c, hc⟩ := exists_compiler_of_compile hcompile
  simp only [Command.checkFile, hconfig, hc, hspec, hcompile, hmodel, hbytes, htext, hread,
    Except.mapError, bind, Except.bind]
  cases model.check v <;> rfl

/-- A document that cannot be checked is a failure. -/
theorem Asks.run_of_fault (h : Asks folder words verbose l model v) {f : Fault}
    (hcheck : model.check v = .error f) :
    Command.run folder words = reported "Error validating document" verbose (.fault f) := by
  have hfile : Command.checkFile folder l (definitionName l) = .error (.fault f) := by
    rw [h.checkFile, hcheck]
    rfl
  rw [definitionName] at hfile
  rw [h.run, validate]
  simp only [hfile]

/-- A document that was checked is reported on. -/
theorem Asks.run_of_report (h : Asks folder words verbose l model v) {r : Report}
    (hcheck : model.check v = .ok r) :
    Command.run folder words = .printing (if r.isValid then 0 else 1) ""
      (reportLines (definitionName l) r) := by
  have hfile : Command.checkFile folder l (definitionName l) = .ok (some r) := by
    rw [h.checkFile, hcheck]
    rfl
  rw [definitionName] at hfile ⊢
  rw [h.run, validate]
  simp only [hfile]

/-- The report on a valid document is one line. -/
theorem reportLines_of_isValid {name : String} {r : Report} (h : r.isValid = true) :
    reportLines name r = [validLine name] := by
  rw [reportLines, List.isEmpty_iff.mp h, if_pos h]
  rfl

/-- A valid document is reported as such, if that can be shown. -/
theorem Asks.run_of_isValid (h : Asks folder words verbose l model v) {r : Report}
    (hcheck : model.check v = .ok r) (hvalid : r.isValid = true) : Command.run folder words =
      match Console.printed (validLine (definitionName l)) with
      | .ok shown => .success shown
      | .error _ => .failure "" := by
  rw [h.run_of_report hcheck, hvalid, if_pos rfl, reportLines_of_isValid hvalid, Outcome.printing]
  cases Console.printed (validLine (definitionName l)) with
  | ok shown => exact congrArg Outcome.success String.empty_append
  | error e => rfl

/-- **The verdict.** The command succeeds if the model finds nothing wrong, and the line that says
so can be shown. -/
theorem Asks.exitCode_eq_zero_iff (h : Asks folder words verbose l model v) :
    (Command.run folder words).exitCode = 0 ↔
      ∃ r shown, model.check v = .ok r ∧ r.isValid = true ∧
        Console.printed (validLine (definitionName l)) = .ok shown := by
  constructor
  · intro hexit
    cases hcheck : model.check v with
    | error f =>
      rw [h.run_of_fault hcheck, exitCode_reported] at hexit
      cases hexit
    | ok r =>
      cases hvalid : r.isValid with
      | false =>
        have hfails := or_self_iff.mp
          (Outcome.exitCode_printing 1 "" (reportLines (definitionName l) r))
        rw [h.run_of_report hcheck, hvalid, if_neg (by decide), hfails] at hexit
        cases hexit
      | true =>
        rw [h.run_of_isValid hcheck hvalid] at hexit
        cases hshown : Console.printed (validLine (definitionName l)) with
        | error e =>
          rw [hshown] at hexit
          cases hexit
        | ok shown => exact ⟨r, shown, rfl, hvalid, rfl⟩
  · rintro ⟨r, shown, hcheck, hvalid, hshown⟩
    rw [h.run_of_isValid hcheck hvalid, hshown]
    rfl

/-- A success is the line that says that the document is valid. -/
theorem Asks.run_of_exitCode (h : Asks folder words verbose l model v)
    (hexit : (Command.run folder words).exitCode = 0) :
    ∃ shown, Console.printed (validLine (definitionName l)) = .ok shown ∧
      Command.run folder words = .success shown := by
  obtain ⟨r, shown, hcheck, hvalid, hshown⟩ := h.exitCode_eq_zero_iff.mp hexit
  exact ⟨shown, hshown, by rw [h.run_of_isValid hcheck hvalid, hshown]⟩

/-- **A document that is no object** is not refused as such. A number, a truth value, null and a
text with something in it end the command in an error, and so does a list with anything in it that
is no assignment. But nothing at all and a list of assignments are valid exactly if the table that
they make is, and then the command says so and succeeds. -/
theorem validate_of_no_object (h : Asks folder words verbose l model v)
    (hobject : ∀ entries, v ≠ .map entries) :
    (∀ s, v = .scalar s → s ≠ .str "" → ¬ ∃ t, v.Makes t) ∧
    ((¬ ∃ t, v.Makes t) → (Command.run folder words).exitCode = 1 ∧
      ∃ f, Command.run folder words = reported "Error validating document" verbose (.fault f)) ∧
    (∀ t, v.Makes t → ((Command.run folder words).exitCode = 0 ↔
      ∃ r shown, model.check (.map t) = .ok r ∧ r.isValid = true ∧
        Console.printed (validLine (definitionName l)) = .ok shown)) ∧
    ((Command.run folder words).exitCode = 0 →
      ∃ shown, Console.printed (validLine (definitionName l)) = .ok shown ∧
        Command.run folder words = .success shown) := by
  -- What stands in the file was read as JSON, so there are no byte strings or dates in it.
  obtain ⟨_, _, -, -, hread⟩ := h.document
  have htable : ∀ t, v.toTable = .ok t ↔ v.Makes t := fun t =>
    Value.toTable_eq_ok_iff (Json.readDecoded_isJson hread) hobject
  refine ⟨?_, ?_, ?_, h.run_of_exitCode⟩
  · rintro s rfl hs ⟨t, hmakes⟩
    cases hmakes
    exact hs rfl
  · intro hnone
    cases hv : v.toTable with
    | ok t => exact absurd ⟨t, (htable t).mp hv⟩ hnone
    | error f =>
      rw [h.run_of_fault (Collection.check_of_no_table hv)]
      exact ⟨exitCode_reported _ _ _, f, rfl⟩
  · intro t hmakes
    rw [h.exitCode_eq_zero_iff, Collection.check_of_toTable ((htable t).mpr hmakes)]

end Validate

namespace Sample

/-- The text of an API document with one definition, which says nothing. -/
def nothingSaid : String := "\x7b\"definitions\":\x7b\"A\":\x7b\x7d\x7d\x7d"

/-- A folder with that document, and with a document to be checked. -/
def folder (bytes : List UInt8) : Folder :=
  ⟨[(["s"], nothingSaid.toUTF8.toList), (["d"], bytes)], []⟩

/-- Words that ask for the check. -/
def words : List String := ["validate", "s", "d", "-d", "A"]

/-- The words, split. -/
def line : Line := ⟨[⟨definitionSwitch true, "A"⟩], ["s", "d"]⟩

/-- The model of the definition. -/
def model : Collection := .ofSchema ⟨"A", [], []⟩

theorem look_spec (bytes : List UInt8) :
    (folder bytes).look "s" = .file nothingSaid.toUTF8.toList := by
  have hrelative : "s".startsWith "/" = false := by decide +kernel
  have hnames : "s".splitOn "/" = ["s"] := by simp +decide [String.splitOn, String.splitOnAux]
  rw [Folder.look, Folder.route, hrelative, hnames]
  rfl

theorem look_document (bytes : List UInt8) : (folder bytes).look "d" = .file bytes := by
  have hrelative : "d".startsWith "/" = false := by decide +kernel
  have hnames : "d".splitOn "/" = ["d"] := by simp +decide [String.splitOn, String.splitOnAux]
  rw [Folder.look, Folder.route, hrelative, hnames]
  rfl

theorem readDecoded_nothingSaid :
    Json.readDecoded nothingSaid.toList =
      .ok (.object [("definitions", .object [("A", .object [])])]) := by
  have hname : ['A'].all Json.isPlain = true := rfl
  have hdefinitions : ['d', 'e', 'f', 'i', 'n', 'i', 't', 'i', 'o', 'n', 's'].all Json.isPlain =
    true := rfl
  have hentry := Json.starts_entry hname (Json.starts_no_entries 987 ['\x7d', '\x7d']) rfl
  exact Json.readDecoded_of_starts (Json.starts_entry hdefinitions hentry rfl) rfl (by decide)

theorem readSpec_line (bytes : List UInt8) :
    readSpec (folder bytes) line =
      .ok (.object [("definitions", .object [("A", .object [])])]) := by
  have hread : (folder bytes).read "s" = .ok nothingSaid.toUTF8.toList := by
    rw [Folder.read, look_spec]
  have htext : fileText nothingSaid.toUTF8.toList = .ok nothingSaid.toList := by decide +kernel
  have hyaml : isYamlName "s" = false := by rfl
  have hload : Document.load (.str nothingSaid) =
      .ok [(.str "definitions", .object [("A", .object [])])] := by
    have hsome : nothingSaid.isEmpty = false := by rfl
    rw [Document.load, hsome, if_neg (by decide), Document.readTable, Document.readJson,
      readDecoded_nothingSaid]
    rfl
  have hdocument : Document.loadFile "s" nothingSaid.toUTF8.toList =
      .ok [(.str "definitions", .object [("A", .object [])])] := by
    rw [Document.loadFile, htext, hyaml, ← hload, ← String.ofList_toList (s := nothingSaid)]
    rfl
  rw [readSpec, show line.arguments.headD "" = "s" from rfl, hread]
  change (Document.loadFile "s" nothingSaid.toUTF8.toList >>=
    fun document => .ok (Value.map document)) = _
  rw [hdocument]
  rfl

theorem readRequest_words : readRequest words = .ok (.run verbs[2] false line) := by
  have hprogram : programGrammar.split words = .ok ⟨[], words⟩ := by decide +kernel
  have hverb : verbs[2].grammar.split ["s", "d", "-d", "A"] = .ok line := by decide +kernel
  rw [readRequest, hprogram]
  change readVerb verbs[2] false ["s", "d", "-d", "A"] = _
  rw [readVerb, hverb]
  rfl

theorem errors_line (bytes : List UInt8) : line.errors verbs[2].grammar (folder bytes) = [] := by
  have hspec : Line.argumentError? (folder bytes) "SPEC_FILE" (some "s") = none := by
    rw [Line.argumentError?, Line.pathError?, look_spec]
  have hdocument : Line.argumentError? (folder bytes) "DOCUMENT_FILE" (some "d") = none := by
    rw [Line.argumentError?, Line.pathError?, look_document]
  have hboth : ((List.range 2).filterMap fun i => Line.argumentError? (folder bytes)
      (["SPEC_FILE", "DOCUMENT_FILE"].getD i "") ["s", "d"][i]?) = [] := by
    refine List.filterMap_eq_nil_iff.mpr fun i hi => ?_
    rw [List.mem_range] at hi
    obtain rfl | rfl : i = 0 ∨ i = 1 := by omega
    · exact hspec
    · exact hdocument
  change [] ++ _ ++ [] ++ [] = []
  rw [List.append_nil, List.append_nil, List.nil_append]
  exact hboth

/-- What the words ask for. -/
theorem asks {bytes : List UInt8} {text : List Char} {v : Value} (htext : fileText bytes = .ok text)
    (hread : Json.readDecoded text = .ok v) : Asks (folder bytes) words false line model v where
  request := ⟨verbs[2], by simp, rfl, readRequest_words, errors_line bytes⟩
  model := ⟨.initial, _, _, _, rfl, readSpec_line bytes, rfl, rfl⟩
  document :=
    ⟨bytes, text,
    by rw [Folder.read, show line.arguments.getD 1 "" = "d" from rfl, look_document], htext,
    hread⟩

/-- The verdict on a valid document, without the marks. -/
theorem plainText_validLine : Console.plainText (validLine "A") = .ok "\nA: VALID".toList := by
  have hpieces : Console.pieces (validLine "A") =
      [.text ['\n'], .text ['A'], .text [':'], .text [' '], .alone [], .tag "green".toList 4,
        .text ['V'], .text ['A'],
        .text ['L'], .text ['I'], .text ['D'], .alone [], .tag "/green".toList 16, .text []] := by
          rfl
  have hopen : Console.shown.openAfter [] "green".toList 4 = .ok ["green"] := by rfl
  have hclose : Console.shown.openAfter ["green"] "/green".toList 16 = .ok [] := by rfl
  have hname : Console.withEmoji ['\n', 'A', ':', ' '] = ['\n', 'A', ':', ' '] := by decide +kernel
  have hverdict : Console.withEmoji ['V', 'A', 'L', 'I', 'D'] = ['V', 'A', 'L', 'I', 'D'] := by
    decide +kernel
  have hempty : Console.withEmoji [] = [] := by decide +kernel
  simp only [Console.plainText, hpieces, Console.shown, hopen, hclose, List.nil_append,
    List.cons_append, hname, hverdict, hempty, bind, Except.bind, Except.map, pure, Except.pure]
  rfl

theorem printed_validLine : Console.printed (validLine "A") = .ok "\nA: VALID\n" := by
  have hlines : "\nA: VALID".splitOn "\n" = ["", "A: VALID"] := by
    simp +decide [String.splitOn, String.splitOnAux]
  rw [Console.printed, Console.lines, plainText_validLine]
  simp only [Except.map, String.ofList_toList, hlines]
  rfl

end Sample

/-- A text ends the command in an error. A list with a text of two characters is taken for an object
with one entry, which is a valid document of this model, and so the command says. -/
theorem validate_of_no_object_list :
    (Command.run (Sample.folder "\"ab\"".toUTF8.toList) Sample.words).exitCode = 1 ∧
      (Value.list [.str "ab"]).Makes [(.str "a", .str "b")] ∧
      Command.run (Sample.folder "[\"ab\"]".toUTF8.toList) Sample.words =
        .success "\nA: VALID\n" := by
  have hplain : ['a', 'b'].all Json.isPlain = true := rfl
  have htext : Asks (Sample.folder "\"ab\"".toUTF8.toList) Sample.words false Sample.line
      Sample.model (.str "ab") :=
    Sample.asks (by decide +kernel) (Json.readDecoded_of_starts (Json.starts_text _ hplain []) rfl
      (by decide))
  have hlist : Asks (Sample.folder "[\"ab\"]".toUTF8.toList) Sample.words false Sample.line
    Sample.model (.list [.str "ab"]) :=
    Sample.asks (by decide +kernel)
      (Json.readDecoded_of_starts (Json.starts_item (Json.starts_text 989 hplain [']']) rfl
        (by decide)) rfl (by decide))
  have hmakes : (Value.list [.str "ab"]).Makes [(.str "a", .str "b")] :=
    .list (.cons (.text 'a' 'b') .nil)
  obtain ⟨hscalar, hfails, -, -⟩ := validate_of_no_object htext nofun
  obtain ⟨-, -, hverdict, hsuccess⟩ := validate_of_no_object hlist nofun
  refine ⟨(hfails (hscalar _ rfl (by decide))).1, hmakes, ?_⟩
  have hexit := (hverdict _ hmakes).mpr ⟨⟨"A", []⟩, _, rfl, rfl, Sample.printed_validLine⟩
  obtain ⟨shown, hshown, hrun⟩ := hsuccess hexit
  rw [hrun, ← Except.ok.inj (Sample.printed_validLine.symm.trans hshown)]

/-- The empty list is a valid document of a model whose fields are a field map. -/
theorem empty_list_is_valid :
    ¬ ∀ (folder : Folder) (words : List String) (verbose : Bool) (l : Line) (model : Collection)
        (v : Value), Asks folder words verbose l model v → isField model.fields = false →
      (∀ entries, v ≠ .map entries) → (Command.run folder words).exitCode ≠ 0 := by
  intro h
  have hlist : Asks (Sample.folder "[]".toUTF8.toList) Sample.words false Sample.line Sample.model
      (.list []) :=
    Sample.asks (by decide +kernel) (Json.readDecoded_of_starts (Json.starts_no_items 989 []) rfl
      (by decide))
  refine h _ _ _ _ _ _ hlist rfl nofun ?_
  exact hlist.exitCode_eq_zero_iff.mpr ⟨⟨"A", []⟩, _, rfl, rfl, Sample.printed_validLine⟩

end Command

end ApiStore
