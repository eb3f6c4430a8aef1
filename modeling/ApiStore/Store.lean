import ApiStore.Collection
/-
`Store.lean` -- a store of named collections.

A store keeps one collection per name, in the order in which the names were registered.
A name that is taken cannot be registered again until it is removed. Compiling a
document into a store registers its schemas one after another; where one is refused the
registration ends, and what was registered before stays.
-/
set_option autoImplicit false

namespace ApiStore

/-- Collections in the order of their registration. -/
structure Store where
  collections : List Collection
  deriving DecidableEq, Repr

namespace Store

/-- The store without collections. -/
def empty : Store := ⟨[]⟩

/-- The names of the collections, in order. -/
def names (s : Store) : List String := s.collections.map (·.name)

/-- The collection of a name. -/
def get? (s : Store) (name : String) : Option Collection := s.collections.find? (·.name == name)

/-- Whether a name is registered. -/
def contains (s : Store) (name : String) : Bool := (s.get? name).isSome

/-- Registers a schema under its name. -/
def register (s : Store) (schema : Schema) : Except Failure Store :=
  if s.contains schema.name then .error (.nameTaken schema.name)
  else .ok ⟨s.collections ++ [.ofSchema schema]⟩

/-- Registers schemas until one is refused; the store is the one that is left in either case. -/
def registerAll (s : Store) : List Schema → Store × Except Failure Unit
  | [] => (s, .ok ())
  | schema :: rest =>
    match s.register schema with
    | .ok t => t.registerAll rest
    | .error e => (s, .error e)

/-- Removes a name. -/
def unregister (s : Store) (name : String) : Store :=
  ⟨s.collections.filter fun c => !(c.name == name)⟩

/-- Puts a collection in the place of the one that has its name. -/
def replace (s : Store) (c : Collection) : Store :=
  ⟨s.collections.map fun d => if d.name == c.name then c else d⟩

/-- Inserts a document into the collection of a name; nothing if there is none. -/
def insert (s : Store) (name : String) (stamp : Stamp) (document : Value) :
    Store × Option (Except Failure (Entries Value)) :=
  match s.get? name with
  | none => (s, none)
  | some c =>
    match c.insert stamp document with
    | .ok (changed, stored) => (s.replace changed, some (.ok stored))
    | .error e => (s, some (.error e))

/-- Compiles the definitions of a document. -/
def compileSpec (config : Config) (spec : Value) : Except Failure (Entries Schema) := do
  let compiler ← (Compiler.ofConfig config).mapError .compile
  let definitions ← compiler.extract spec
  compiler.buildSchemas definitions none

/-- Compiles a document and registers its schemas. -/
def compile (s : Store) (config : Config) (spec : Value) :
    Store × Except Failure (Entries Schema) :=
  match compileSpec config spec with
  | .error e => (s, .error e)
  | .ok schemas =>
    match s.registerAll (schemas.map (·.2)) with
    | (t, .ok ()) => (t, .ok schemas)
    | (t, .error e) => (t, .error e)

end Store

end ApiStore
