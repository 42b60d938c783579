import Flagpost.Access.Credential
import Flagpost.Access.Token
import Flagpost.Command.Line
import Flagpost.Command.Program
import Flagpost.Command.TokenDialogue
import Flagpost.Config.Basic
import Flagpost.Config.Decoding
import Flagpost.Config.Environment
import Flagpost.Config.Error
import Flagpost.Config.File
import Flagpost.Digest.Sha256
import Flagpost.File.IoError
import Flagpost.File.Path
import Flagpost.File.Replacement
import Flagpost.File.System
import Flagpost.Hook.Action
import Flagpost.Hook.Basic
import Flagpost.Hook.Codec
import Flagpost.Hook.Collection
import Flagpost.Hook.Error
import Flagpost.Hook.Registry
import Flagpost.Hook.Service
import Flagpost.Hook.Validation
import Flagpost.Json.Cursor
import Flagpost.Json.NumberReader
import Flagpost.Json.Printer
import Flagpost.Json.Reader
import Flagpost.Json.Shape
import Flagpost.Json.Skip
import Flagpost.Json.StringReader
import Flagpost.Json.Value
import Flagpost.Json5.Meaning
import Flagpost.Json5.Syntax
import Flagpost.Log.Event
import Flagpost.Log.Filter
import Flagpost.Log.Journal
import Flagpost.Log.Level
import Flagpost.Log.Line
import Flagpost.Log.Redaction
import Flagpost.Log.Redactor
import Flagpost.Log.RotatingLog
import Flagpost.Log.Settings
import Flagpost.Main
import Flagpost.Number.Binary64
import Flagpost.Number.Shortest
import Flagpost.Proofs.Access.Credential
import Flagpost.Proofs.Access.QueryToken
import Flagpost.Proofs.Command.TokenDialogue
import Flagpost.Proofs.Config.AdminToken
import Flagpost.Proofs.Config.References
import Flagpost.Proofs.Config.Reload
import Flagpost.Proofs.Config.Saved
import Flagpost.Proofs.Config.Substitution
import Flagpost.Proofs.Except
import Flagpost.Proofs.File.Operations
import Flagpost.Proofs.File.Outline
import Flagpost.Proofs.File.Places
import Flagpost.Proofs.File.Replacement
import Flagpost.Proofs.File.Resolution
import Flagpost.Proofs.File.Siblings
import Flagpost.Proofs.File.Tree
import Flagpost.Proofs.File.Way
import Flagpost.Proofs.Hook.Action
import Flagpost.Proofs.Hook.Alike
import Flagpost.Proofs.Hook.Change
import Flagpost.Proofs.Hook.Collection
import Flagpost.Proofs.Hook.Containment
import Flagpost.Proofs.Hook.Documents
import Flagpost.Proofs.Hook.FlagFile
import Flagpost.Proofs.Hook.History
import Flagpost.Proofs.Hook.Independence
import Flagpost.Proofs.Hook.Management
import Flagpost.Proofs.Hook.Raising
import Flagpost.Proofs.Hook.Store
import Flagpost.Proofs.Hook.StoreText
import Flagpost.Proofs.Hook.Trigger
import Flagpost.Proofs.Hook.Veil
import Flagpost.Proofs.Hook.Writing
import Flagpost.Proofs.Json.Layout
import Flagpost.Proofs.Json.Reads
import Flagpost.Proofs.Json.Strings
import Flagpost.Proofs.Json.Tree
import Flagpost.Proofs.Json5.Atoms
import Flagpost.Proofs.Json5.Layout
import Flagpost.Proofs.Json5.Numerals
import Flagpost.Proofs.Json5.Reals
import Flagpost.Proofs.Json5.Refusal
import Flagpost.Proofs.Json5.Settled
import Flagpost.Proofs.Log.BearerTokens
import Flagpost.Proofs.Log.Chunks
import Flagpost.Proofs.Log.Delivery
import Flagpost.Proofs.Log.FailedRotation
import Flagpost.Proofs.Log.GeneratedTokens
import Flagpost.Proofs.Log.Limit
import Flagpost.Proofs.Log.Lines
import Flagpost.Proofs.Log.Masked
import Flagpost.Proofs.Log.Passes
import Flagpost.Proofs.Log.Records
import Flagpost.Proofs.Log.Redaction
import Flagpost.Proofs.Log.Rotation
import Flagpost.Proofs.Number.Binary64
import Flagpost.Proofs.Number.Shortest
import Flagpost.Proofs.Text.Blank
import Flagpost.Proofs.Text.Bytes
import Flagpost.Proofs.Text.Digits
import Flagpost.Proofs.Text.Line
import Flagpost.Proofs.Text.Lossy
import Flagpost.Proofs.Text.Order
import Flagpost.Proofs.Text.Split
import Flagpost.Proofs.Time.Order
import Flagpost.Proofs.Time.RoundTrip
import Flagpost.Proofs.Web.AdminGate
import Flagpost.Proofs.Web.Admission
import Flagpost.Proofs.Web.BasePath
import Flagpost.Proofs.Web.Book
import Flagpost.Proofs.Web.Discretion
import Flagpost.Proofs.Web.Exchange
import Flagpost.Proofs.Web.Life
import Flagpost.Proofs.Web.Management
import Flagpost.Proofs.Web.Routing
import Flagpost.Proofs.Web.Serving
import Flagpost.Proofs.Web.TriggerRequest
import Flagpost.Server.Setup
import Flagpost.Text.Blank
import Flagpost.Text.Decimal
import Flagpost.Text.Hex
import Flagpost.Text.Line
import Flagpost.Text.Quoted
import Flagpost.Text.Utf8
import Flagpost.Time.Date
import Flagpost.Time.Reader
import Flagpost.Time.Timestamp
import Flagpost.Time.Unix
import Flagpost.Unicode.Alphanumeric
import Flagpost.Unicode.Identifier
import Flagpost.Unicode.Ranges
import Flagpost.Unicode.Unshown
import Flagpost.Unicode.Word
import Flagpost.Web.BasePath
import Flagpost.Web.Gateway
import Flagpost.Web.Header
import Flagpost.Web.IpAddress
import Flagpost.Web.Method
import Flagpost.Web.Percent
import Flagpost.Web.Reply
import Flagpost.Web.Request
import Flagpost.Web.Route
import Flagpost.Web.Target
