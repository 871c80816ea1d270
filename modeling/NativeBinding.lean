import NativeBinding.Session
import NativeBinding.Proofs.Catalog.History
import NativeBinding.Proofs.Diagnostic.Joining
import NativeBinding.Proofs.Conversion.Batch
import NativeBinding.Proofs.Host.Dispatch
import NativeBinding.Proofs.Session.Steps
import NativeBinding.Proofs.Session.Agreement
import NativeBinding.Proofs.Diagnostic.Evidence
import NativeBinding.Proofs.Catalog.Unregistration
import NativeBinding.Proofs.Conversion.Rebinding
import NativeBinding.Proofs.Session.Conversions
import NativeBinding.Proofs.Conversion.AsSet
import NativeBinding.Proofs.Catalog.Rebuilding
import NativeBinding.Proofs.Conversion.Accounting
import NativeBinding.Proofs.Session.RepeatedConversion
import NativeBinding.Proofs.Catalog.Described
import NativeBinding.Proofs.Conversion.Targets
import NativeBinding.Proofs.Host.Builtins
import NativeBinding.Proofs.Name.Interning
import NativeBinding.Proofs.Renaming.Answers
import NativeBinding.Proofs.Session.BuiltinCalls
import NativeBinding.Proofs.Host.Recording
import NativeBinding.Proofs.Catalog.Bulk
import NativeBinding.Proofs.Catalog.Rejection
import NativeBinding.Proofs.Session.Environment
import NativeBinding.Proofs.Session.Properties
import NativeBinding.Proofs.Conversion.Slots
import NativeBinding.Proofs.Conversion.TypedResults
import NativeBinding.Proofs.Diagnostic.Flushing
import NativeBinding.Proofs.Conversion.IntegerTexts
import NativeBinding.Proofs.Conversion.Alternatives
import NativeBinding.Proofs.Declaration.Identity
import NativeBinding.Proofs.Package.Listings
import NativeBinding.Proofs.Signature.Written
import NativeBinding.Proofs.Text.Quoted
import NativeBinding.Proofs.Json.Written
import NativeBinding.Proofs.Session.BuiltinsKept
import NativeBinding.Proofs.Host.ArrayItems
