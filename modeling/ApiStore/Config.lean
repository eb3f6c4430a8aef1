import ApiStore.StorageType
/-
`Config.lean` -- the settings of a compilation.
-/
set_option autoImplicit false

namespace ApiStore

/-- The key of overrides unless another is configured. -/
def defaultExtensionKey : String := "x-swaggering-mongoose"

/-- How many copies may be nested unless another number is configured. -/
def defaultDepth : Int := 32

/-- The settings of a compilation. -/
structure Config where
  /-- The key under which a document carries overrides. -/
  extensionKey : String
  /-- How many copies of definitions may be nested. -/
  maxReferenceDepth : Int
  /-- Further names of types, with the names they stand for. -/
  typeAliases : List (String × String)
  deriving DecidableEq, Repr

/-- The settings where nothing is configured. -/
def Config.initial : Config :=
  { extensionKey := defaultExtensionKey, maxReferenceDepth := defaultDepth, typeAliases := [] }

end ApiStore
