import ApiStore.Config
import ApiStore.Number.Numeral
/-
`Reading.lean` -- settings from data.

Settings are given as a table, or as a table under the key `compiler` of a table. A
setting that is absent has its default, and a key that is no setting is ignored. All
settings are checked, and all that do not fit are reported together.

**Numbers are taken kindly.** The depth may be written as a number without a fraction,
as true or false, or as a text that denotes an integer: with blanks around it, a sign,
zeros in front, single underscores between digits, and a point with zeros behind.
-/
set_option autoImplicit false

namespace ApiStore.Config

/-! ## 1. Integers in texts -/

/-- A point with nothing but zeros behind it removed. -/
def dropDecimals (s : List Char) : List Char :=
  let after := (s.dropWhile (· ≠ '.')).tail
  if !after.isEmpty && after.all (· = '0') then s.takeWhile (· ≠ '.') else s

/-- The integer that a text without blanks around it denotes. -/
def integer? (s : List Char) : Option Int :=
  let (neg, body) := Numeral.sign s
  (Numeral.digits? 10 (dropDecimals body)).map fun digits =>
    let n : Int := Numeral.ofDigits 10 digits
    if neg then -n else n

/-- The integer of a text; a text that is too long is not looked at. -/
def integerText (s : String) : Except Flaw Int :=
  let body := Text.trim s.toList
  if Numeral.mostDigits < body.length then .error .oversizedInteger
  else
    match integer? body with
    | some i => .ok i
    | none => .error .unreadableInteger

/-! ## 2. Settings -/

/-- An integer setting. -/
def integerSetting (v : Value) : Except Flaw Int :=
  match v with
  | .int i => .ok i
  | .bool b => .ok (if b then 1 else 0)
  | .double d =>
    if d.isFinite then
      match d.toInt? with
      | some i => if i.natAbs < Nat.pow 2 63 then .ok i else .error .oversizedInteger
      | none => .error .fractionalInteger
    else .error .notFinite
  | .str s => integerText s
  | .scalar (.bytes b) =>
    match Text.decodeUtf8 b with
    | .ok s => integerText s
    | .error _ => .error .unreadableInteger
  | _ => .error .notInteger

/-- The depth that a value sets. -/
def depthSetting (v : Value) : Except (List Misfit) Int :=
  let misfit (flaw : Flaw) : Misfit :=
    { place := ["max_reference_depth"], flaw := flaw, found := v }
  match integerSetting v with
  | .ok i => if 1 ≤ i then .ok i else .error [misfit (.below 1)]
  | .error flaw => .error [misfit flaw]

/-- The key that a value sets. -/
def keySetting (v : Value) : Except (List Misfit) String :=
  (Misfit.textOf v).mapError fun flaw => [{ place := ["extension_key"], flaw := flaw, found := v }]

/-- The aliases of a table whose keys are texts. A later one of a name replaces an earlier one. -/
def textEntries (entries : Entries Value) : List (String × String) :=
  (Misfit.spelled entries).filterMap fun (name, target) =>
    match name, Misfit.textOf target with
    | .str name, .ok target => some (name, target)
    | _, _ => none

/-- The misfits of one alias: those of its name, and those of its target. -/
def aliasMisfits (name : Scalar) (target : Value) : List Misfit :=
  let wrongTarget := match Misfit.textOf target with
    | .ok _ => []
    | .error flaw =>
      [{ place := ["type_aliases", Misfit.keyName name], flaw := flaw, found := target }]
  Misfit.ofKeys ["type_aliases"] [(name, target)] ++ wrongTarget

/-- The aliases that a value sets. -/
def aliasSetting (v : Value) : Except (List Misfit) (List (String × String)) :=
  match v with
  | .map entries =>
    match entries.flatMap fun (name, target) => aliasMisfits name target with
    | [] => .ok (textEntries entries)
    | misfits => .error misfits
  | v => .error [{ place := ["type_aliases"], flaw := .notTable, found := v }]

/-- The misfits of a setting. -/
def misfitsOf {α : Type} : Except (List Misfit) α → List Misfit
  | .ok _ => []
  | .error misfits => misfits

/-- A setting of a table, or its default. -/
def setting {α : Type} (settings : Entries Value) (name : String) (default : α)
    (read : Value → Except (List Misfit) α) : Except (List Misfit) α :=
  match Entries.get? settings (.str name) with
  | none => .ok default
  | some v => read v

/-- The configuration of a table of settings. -/
def ofSettings (settings : Entries Value) : Except Fault Config :=
  let key := setting settings "extension_key" initial.extensionKey keySetting
  let depth := setting settings "max_reference_depth" initial.maxReferenceDepth depthSetting
  let aliases := setting settings "type_aliases" initial.typeAliases aliasSetting
  match key, depth, aliases with
  | .ok k, .ok d, .ok a => .ok { extensionKey := k, maxReferenceDepth := d, typeAliases := a }
  | _, _, _ =>
    .error (.misfit "CompilerConfig" (misfitsOf key ++ misfitsOf depth ++ misfitsOf aliases))

/-- The configuration that a value holds: null for the defaults, settings, or settings under the
key `compiler`. -/
def ofValue (v : Value) : Except Fault Config :=
  match v with
  | .null => .ok initial
  | .map entries =>
    match (Entries.get? entries (.str "compiler")).getD v with
    | .map settings => ofSettings settings
    | other => .error (.noEntries other.kind)
  | _ => .error .configNotTable

/-- The settings of a configuration, under the key `compiler`. -/
def toEntries (c : Config) : Entries Value :=
  [(.str "compiler", .object
    [("extension_key", .str c.extensionKey), ("max_reference_depth", .int c.maxReferenceDepth),
     ("type_aliases", .object (c.typeAliases.map fun (name, target) => (name, .str target)))])]

end ApiStore.Config
