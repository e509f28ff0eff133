import Lockbox.Identity.Json
import Lockbox.Main
import Lockbox.Proofs.Text.Trim
import Lockbox.Proofs.Text.Utf8
import Lockbox.Proofs.Base64.RoundTrip
import Lockbox.Proofs.Base64.Canonical
import Lockbox.Proofs.Base64.Spelling
import Lockbox.Proofs.Base64.Wrapping
import Lockbox.Proofs.Base64.Grammar
import Lockbox.Proofs.Base64.Presentation
import Lockbox.Proofs.Base64.Detection
import Lockbox.Proofs.Base64.Repair
import Lockbox.Proofs.Base64.Patterns
import Lockbox.Proofs.Base64.Soundness
import Lockbox.Proofs.Base64.Composition
import Lockbox.Proofs.Envelope
import Lockbox.Proofs.Runs
import Lockbox.Proofs.Codec.Attempts
import Lockbox.Proofs.Codec.RoundTrip
import Lockbox.Proofs.FileSystem.Reach
import Lockbox.Proofs.FileSystem.Changes
import Lockbox.Proofs.FileSystem.Directories
import Lockbox.Proofs.FileSystem.Growth
import Lockbox.Proofs.PrivateFile
import Lockbox.Proofs.Directories
import Lockbox.Proofs.Directories.Names
import Lockbox.Proofs.Identity
import Lockbox.Proofs.MasterKey.KeyFile
import Lockbox.Proofs.MasterKey.Agreement
import Lockbox.Proofs.MasterKey.Stability
import Lockbox.Proofs.MasterKey.Keyring
import Lockbox.Proofs.MasterKey.Parse
import Lockbox.Proofs.Store.Steps
import Lockbox.Proofs.Store.KeyringFree
import Lockbox.Proofs.Codec.Keys
import Lockbox.Proofs.Codec.Readings
import Lockbox.Proofs.Codec.KeyReadings
import Lockbox.Proofs.Codec.KeyGeneration
import Lockbox.Proofs.Codec.Idempotence
import Lockbox.Proofs.Codec.Tampering
import Lockbox.Proofs.Store.Authenticity
import Lockbox.Proofs.Store.Usable
import Lockbox.Proofs.Store.Isolation
import Lockbox.Proofs.Store.Refinement
import Lockbox.Proofs.Store.Memory
import Lockbox.Proofs.Store.Tampering
import Lockbox.Proofs.Store.Retry
import Lockbox.Proofs.Store.OlderForm
import Lockbox.Proofs.Store.Bootstrap
import Lockbox.Proofs.Store.Survival
import Lockbox.Proofs.Store.Confinement
import Lockbox.Proofs.Codec.Unsealed
import Lockbox.Proofs.Codec.RawPayloads
import Lockbox.Proofs.Codec.Wrapping
import Lockbox.Proofs.Codec.Recognition
import Lockbox.Proofs.PrivateFile.Temporary
import Lockbox.Proofs.Store.Atomicity
import Lockbox.Proofs.Toml.Strings
import Lockbox.Proofs.Toml.Statements
import Lockbox.Proofs.Config.RoundTrip
import Lockbox.Proofs.Config.File
import Lockbox.Proofs.CommandLine.KeySource
import Lockbox.Proofs.CommandLine.Detection
import Lockbox.Proofs.CommandLine.SecretLine
import Lockbox.Proofs.CommandLine.StoreRetrieve
import Lockbox.Proofs.Text.Hex
import Lockbox.Proofs.Uuid
import Lockbox.Proofs.Json.Tokens
import Lockbox.Proofs.Json.Values
import Lockbox.Proofs.Identity.Json
import Lockbox.Proofs.Frames
import Lockbox.Proofs.Health
import Lockbox.Proofs.Permissions.Guards
import Lockbox.Proofs.Permissions.Operations
import Lockbox.Proofs.Permissions.OwnerOnly
