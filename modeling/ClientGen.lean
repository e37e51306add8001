import ClientGen.Main
import ClientGen.Proofs.Document.Detect
import ClientGen.Proofs.Endpoint.Naming
import ClientGen.Proofs.TypeScript.Translation
import ClientGen.Proofs.Definitions.Index
import ClientGen.Proofs.Names.Unbracketed
import ClientGen.Proofs.Resolve.Forms
import ClientGen.Proofs.Resolve.Rules
import ClientGen.Proofs.Resolve.Visits
import ClientGen.Proofs.Resolve.FirstRegistration
import ClientGen.Proofs.Names.Declared
import ClientGen.Proofs.Definitions.Blocks
import ClientGen.Proofs.Definitions.Flattened
import ClientGen.Proofs.Resolve.Agreement
import ClientGen.Proofs.Definitions.Agreement
import ClientGen.Proofs.NamedType.Placeholders
import ClientGen.Proofs.NamedType.Reading
import ClientGen.Proofs.Definitions.Generic
import ClientGen.Proofs.Endpoint.Parameters
import ClientGen.Proofs.Document.References
import ClientGen.Proofs.Definitions.SharedBases
import ClientGen.Proofs.Document.EffectiveParameters
import ClientGen.Proofs.Json.Readable
import ClientGen.Proofs.Schema.Readable
import ClientGen.Proofs.Prune.Steps
import ClientGen.Proofs.Prune.Nested
import ClientGen.Proofs.Prune.Tidy
import ClientGen.Proofs.Prune.Deletions
import ClientGen.Proofs.Prune.Untouched
import ClientGen.Proofs.Prune.SchemaParts
import ClientGen.Proofs.Json.ReadBack
import ClientGen.Proofs.Schema.RoundTrip
import ClientGen.Proofs.Operation.RoundTrip
import ClientGen.Proofs.Document.RoundTrip
import ClientGen.Proofs.Document.Isolation
import ClientGen.Proofs.Files.FailedWrite
import ClientGen.Proofs.Files.WrittenPaths
import ClientGen.Proofs.Run.Protocol
import ClientGen.Proofs.Files.Place
import ClientGen.Proofs.Files.SuccessfulWrite
import ClientGen.Proofs.TypeScript.Modules
import ClientGen.Proofs.TypeScript.Interfaces
import ClientGen.Proofs.TypeScript.Identifiers
import ClientGen.Proofs.NamedType.Rendered
import ClientGen.Proofs.Definitions.Spelling
import ClientGen.Proofs.Endpoint.Spelling
import ClientGen.Proofs.TypeScript.ClosedTypes
import ClientGen.Proofs.Endpoint.Stability
import ClientGen.Proofs.TypeScript.Comments
import ClientGen.Proofs.TypeScript.ParameterKeys
import ClientGen.Proofs.Resolve.LastSegment
import ClientGen.Proofs.Endpoint.LastSegment
import ClientGen.Proofs.TypeScript.Enumerations
import ClientGen.Proofs.Document.ParameterMerge
import ClientGen.Proofs.Resolve.Declarations
import ClientGen.Proofs.TypeScript.Nullability
import ClientGen.Proofs.Resolve.Registration
import ClientGen.Proofs.Names.Reference
import ClientGen.Proofs.TypeScript.UrlTemplate
