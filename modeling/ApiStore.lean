import ApiStore.Main
import ApiStore.Proofs.Build.Chain
import ApiStore.Proofs.Outcome
import ApiStore.Proofs.Schemas
import ApiStore.Proofs.Build.Copy
import ApiStore.Proofs.Build.SelfPointer
import ApiStore.Proofs.Build.Reach
import ApiStore.Proofs.JsonSchema.Conformance
import ApiStore.Proofs.Reading
import ApiStore.Proofs.Registration
import ApiStore.Proofs.Compilation
import ApiStore.Proofs.Build.Form
import ApiStore.Proofs.Collection
import ApiStore.Proofs.Insertion
import ApiStore.Proofs.ErrorChain
import ApiStore.Proofs.Build.ErrorPath
import ApiStore.Proofs.ErrorPath
import ApiStore.Proofs.Erasure
import ApiStore.Proofs.Dialect
import ApiStore.Proofs.Build.Reserved
import ApiStore.Proofs.Build.Target
import ApiStore.Proofs.Log
import ApiStore.Proofs.Selection
import ApiStore.Proofs.Build.Settling
import ApiStore.Proofs.TypeNames
import ApiStore.Proofs.Alias
import ApiStore.Proofs.JsonSchema.PassThrough
import ApiStore.Proofs.Path
import ApiStore.Proofs.Addition
import ApiStore.Proofs.Locality
import ApiStore.Proofs.Passage
import ApiStore.Proofs.PassThrough
import ApiStore.Proofs.Registry
import ApiStore.Proofs.Build.Grammar
import ApiStore.Proofs.Required
import ApiStore.Proofs.Overlay
import ApiStore.Proofs.Build.PointerName
import ApiStore.Proofs.Preparation
import ApiStore.Proofs.Configuration
import ApiStore.Proofs.Payload
import ApiStore.Proofs.Verdict
import ApiStore.Proofs.WellFormed
import ApiStore.Proofs.Build.Nesting
