import Colloquy.Data.Dictionary
import Colloquy.Text.Blank
import Colloquy.Text.Lines
import Colloquy.Text.Lowercase
import Colloquy.Decimal.Shortest
import Colloquy.Decimal.Reading
import Colloquy.Decimal.Fixed
import Colloquy.Json.Wire
import Colloquy.Provider.Failure
import Colloquy.Provider.ModelInfo
import Colloquy.Provider.Options
import Colloquy.Provider.Completion
import Colloquy.Chat.History
import Colloquy.Display.Preview
import Colloquy.Display.Screen
import Colloquy.Retry.Loop
import Colloquy.Workspace.Basic
import Colloquy.Tool.File
import Colloquy.Tool.Dispatch
import Colloquy.Context.Excerpt
import Colloquy.Registry.Request
import Colloquy.Conversation.Command
import Colloquy.Tool.Scripted
import Colloquy.Toml.Document
import Colloquy.Settings.Sources
import Colloquy.Repl.Dialogue
import Colloquy.Main
import Colloquy.Proofs.Retry.Run
import Colloquy.Proofs.Retry.Ledger
import Colloquy.Proofs.Registry.Operation
import Colloquy.Proofs.Registry.Invariant
import Colloquy.Proofs.Registry.Making
import Colloquy.Proofs.Registry.Representation
import Colloquy.Proofs.Conversation.Grammar
import Colloquy.Proofs.Conversation.Absorption
import Colloquy.Proofs.Registry.Bound
import Colloquy.Proofs.Conversation.Requests
import Colloquy.Proofs.Conversation.Reset
import Colloquy.Proofs.Files.Path
import Colloquy.Proofs.Files.Walk
import Colloquy.Proofs.Files.Change
import Colloquy.Proofs.Workspace.Root
import Colloquy.Proofs.Workspace.Confinement
import Colloquy.Proofs.Registry.Atomicity
import Colloquy.Proofs.Registry.Listening
import Colloquy.Proofs.Registry.Delivery
import Colloquy.Proofs.Registry.Policy
import Colloquy.Proofs.Workspace.Saving
import Colloquy.Proofs.Tool.Standard
import Colloquy.Proofs.Conversation.Files
import Colloquy.Conversation.Handshake
import Colloquy.Proofs.Conversation.Calls
import Colloquy.Proofs.Repl.Transcript
import Colloquy.Proofs.Conversation.Handshake
import Colloquy.Proofs.Registry.Course
import Colloquy.Proofs.Registry.Apart
import Colloquy.Proofs.Registry.Switching
import Colloquy.Proofs.Conversation.Entries
import Colloquy.Proofs.Conversation.Enrichment
import Colloquy.Proofs.Conversation.Status
import Colloquy.Proofs.Retry.Attempts
import Colloquy.Proofs.Registry.Boundary
import Colloquy.Proofs.Registry.Tally
import Colloquy.Proofs.Files.Frame
import Colloquy.Proofs.Workspace.Listing
import Colloquy.Proofs.Workspace.Frame
import Colloquy.Proofs.Workspace.RoundTrip
import Colloquy.Proofs.Workspace.Contents
import Colloquy.Proofs.Retry.Backoff
import Colloquy.Proofs.Context.Window
import Colloquy.Proofs.Context.Gathering
import Colloquy.Proofs.Workspace.Overwriting
import Colloquy.Proofs.Workspace.Ways
import Colloquy.Proofs.Workspace.ListedNames
import Colloquy.Proofs.Tool.Dispatch
import Colloquy.Proofs.Data.Entries
import Colloquy.Proofs.Json.Schema
import Colloquy.Proofs.Json.Conform
import Colloquy.Proofs.Tool.Schema
import Colloquy.Proofs.Json.Tokens
import Colloquy.Proofs.Json.ReadBack
import Colloquy.Proofs.Json.RoundTrip
import Colloquy.Proofs.Settings.Merging
import Colloquy.Proofs.Settings.Fields
import Colloquy.Proofs.Settings.Precedence
import Colloquy.Proofs.Decimal.Rounding
import Colloquy.Proofs.Decimal.Bits
import Colloquy.Proofs.Decimal.Scientific
import Colloquy.Proofs.Decimal.Shortest
import Colloquy.Proofs.Decimal.Numerals
import Colloquy.Proofs.Decimal.RoundTrip
import Colloquy.Proofs.Settings.Texts
import Colloquy.Proofs.Display.Preview
import Colloquy.Proofs.Registry.Choosing
import Colloquy.Proofs.Repl.Setup
import Colloquy.Proofs.Data.Firsts
import Colloquy.Proofs.Tool.Registration
import Colloquy.Proofs.Display.Files
import Colloquy.Proofs.Workspace.ExactListing
