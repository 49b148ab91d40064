import PersonaChat.Calendar
import PersonaChat.Command.Basic
import PersonaChat.Command.Index
import PersonaChat.Command.Names
import PersonaChat.Command.Reader
import PersonaChat.Command.Sign
import PersonaChat.Desk.Describing
import PersonaChat.Desk.Edit
import PersonaChat.Desk.Fetch
import PersonaChat.Desk.Generation
import PersonaChat.Desk.Inspection
import PersonaChat.Desk.Intake
import PersonaChat.Desk.Outcome
import PersonaChat.Desk.Session
import PersonaChat.Desk.Shared
import PersonaChat.Desk.Task
import PersonaChat.Desk.World
import PersonaChat.Gate
import PersonaChat.Guide
import PersonaChat.Json.Basic
import PersonaChat.Json.Display
import PersonaChat.Json.Kind
import PersonaChat.Json.Reader
import PersonaChat.Json.Writer
import PersonaChat.Keyed
import PersonaChat.Log.Line
import PersonaChat.Log.Record
import PersonaChat.Log.Template
import PersonaChat.Media
import PersonaChat.Message
import PersonaChat.Models
import PersonaChat.Number.Arithmetic
import PersonaChat.Number.Binary64
import PersonaChat.Number.Integer
import PersonaChat.Number.Notation
import PersonaChat.Number.Order
import PersonaChat.Number.Places
import PersonaChat.Occupancy
import PersonaChat.Persona.Basic
import PersonaChat.Persona.Name
import PersonaChat.Provider.Client
import PersonaChat.Provider.Query
import PersonaChat.Refusal
import PersonaChat.Registry.Basic
import PersonaChat.Registry.Snapshot
import PersonaChat.Settings.Basic
import PersonaChat.Settings.Dotenv
import PersonaChat.Settings.Sources
import PersonaChat.Settings.Variables
import PersonaChat.Store.Disk
import PersonaChat.Store.Vault
import PersonaChat.Text.Base64
import PersonaChat.Text.Blank
import PersonaChat.Text.Case
import PersonaChat.Text.CaseTable
import PersonaChat.Text.Digit
import PersonaChat.Text.Lines
import PersonaChat.Text.PrintTable
import PersonaChat.Text.Quoted
import PersonaChat.Text.Scan
import PersonaChat.Text.Utf8
import PersonaChat.View.Export
import PersonaChat.View.History
import PersonaChat.View.Listing
import PersonaChat.Yaml.Basic
import PersonaChat.Yaml.Grammar
import PersonaChat.Yaml.Meaning
import PersonaChat.Yaml.Node
import PersonaChat.Yaml.Place
import PersonaChat.Yaml.Reader
import PersonaChat.Yaml.Scalar
import PersonaChat.Yaml.Tag
import PersonaChat.Yaml.Token
import PersonaChat.Proofs.Command.Addressing
import PersonaChat.Proofs.Command.Creation
import PersonaChat.Proofs.Command.Credentials
import PersonaChat.Proofs.Command.Guarded
import PersonaChat.Proofs.Command.Expression
import PersonaChat.Proofs.Command.Index
import PersonaChat.Proofs.Command.Letters
import PersonaChat.Proofs.Command.Limits
import PersonaChat.Proofs.Command.Matching
import PersonaChat.Proofs.Command.Mistaken
import PersonaChat.Proofs.Command.Narrowing
import PersonaChat.Proofs.Command.Precedence
import PersonaChat.Proofs.Command.Writing
import PersonaChat.Proofs.Desk.Aging
import PersonaChat.Proofs.Desk.Alike
import PersonaChat.Proofs.Desk.AlikeSteps
import PersonaChat.Proofs.Desk.Continuity
import PersonaChat.Proofs.Desk.Durability
import PersonaChat.Proofs.Desk.Evolution
import PersonaChat.Proofs.Desk.Filling
import PersonaChat.Proofs.Desk.Floor
import PersonaChat.Proofs.Desk.Footprint
import PersonaChat.Proofs.Desk.Frame
import PersonaChat.Proofs.Desk.Freeing
import PersonaChat.Proofs.Desk.Independence
import PersonaChat.Proofs.Desk.Naming
import PersonaChat.Proofs.Desk.Oblivious
import PersonaChat.Proofs.Desk.Ownership
import PersonaChat.Proofs.Desk.Privacy
import PersonaChat.Proofs.Desk.Progress
import PersonaChat.Proofs.Desk.Rejection
import PersonaChat.Proofs.Desk.Restart
import PersonaChat.Proofs.Desk.Sections
import PersonaChat.Proofs.Desk.Stages
import PersonaChat.Proofs.Desk.Staleness
import PersonaChat.Proofs.Desk.Texts
import PersonaChat.Proofs.Json.RoundTrip
import PersonaChat.Proofs.Json.Reading
import PersonaChat.Proofs.Media.Embedding
import PersonaChat.Proofs.Media.Extraction
import PersonaChat.Proofs.Media.Placeholders
import PersonaChat.Proofs.Occupancy
import PersonaChat.Proofs.Persona
import PersonaChat.Proofs.Provider.Answers
import PersonaChat.Proofs.Registry.Carrying
import PersonaChat.Proofs.Registry.Edits
import PersonaChat.Proofs.Registry.Lookup
import PersonaChat.Proofs.Registry.Naming
import PersonaChat.Proofs.Registry.Seen
import PersonaChat.Proofs.Registry.Settled
import PersonaChat.Proofs.Registry.Snapshot
import PersonaChat.Proofs.Registry.Typed
import PersonaChat.Proofs.Removal
import PersonaChat.Proofs.Store.Apart
import PersonaChat.Proofs.Store.Reopening
import PersonaChat.Proofs.Store.Saving
import PersonaChat.Proofs.Store.Shape
import PersonaChat.Proofs.Tokens
import PersonaChat.Proofs.Text.Blank
import PersonaChat.Proofs.Text.Decimal
import PersonaChat.Proofs.Text.Occurrence
import PersonaChat.Proofs.Text.Scan
import PersonaChat.Proofs.View.Escaping
import PersonaChat.Proofs.View.Listing
import PersonaChat.Proofs.Registry.Misreading
import PersonaChat.Proofs.View.Positions
import PersonaChat.Proofs.View.Typed
import PersonaChat.Proofs.Desk.Course
import PersonaChat.Proofs.Desk.Crashes
import PersonaChat.Proofs.Desk.Escapes
import PersonaChat.Proofs.Desk.Doors
import PersonaChat.Proofs.Desk.Endings
import PersonaChat.Proofs.Gate
import PersonaChat.Proofs.Desk.Provenance
import PersonaChat.Proofs.View.Positions
import PersonaChat.Proofs.Store.Keeping
import PersonaChat.Proofs.Command.WellFormed
import PersonaChat.Proofs.Desk.Finding
import PersonaChat.Proofs.Command.Longest
import PersonaChat.Proofs.Models
import PersonaChat.Proofs.Desk.Questions
import PersonaChat.Proofs.Desk.Telling
import PersonaChat.Proofs.Desk.Silence
