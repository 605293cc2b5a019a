import ImageOverlay.Annotation.Document
import ImageOverlay.Annotation.Drawn
import ImageOverlay.Annotation.Element
import ImageOverlay.Annotation.Feature
import ImageOverlay.Annotation.Identity
import ImageOverlay.Bus
import ImageOverlay.Color
import ImageOverlay.CommandLine.Arguments
import ImageOverlay.CommandLine.Run
import ImageOverlay.CommandLine.Simulation
import ImageOverlay.Convert
import ImageOverlay.Draw.Mode
import ImageOverlay.Draw.Requests
import ImageOverlay.Draw.Session
import ImageOverlay.Json.Decode
import ImageOverlay.Json.Number
import ImageOverlay.Json.Reader
import ImageOverlay.Json.Value
import ImageOverlay.Main
import ImageOverlay.Number.Angle
import ImageOverlay.Number.Decimal
import ImageOverlay.Number.Exact
import ImageOverlay.Number.Shortest
import ImageOverlay.Overlay.Basic
import ImageOverlay.Overlay.Style
import ImageOverlay.Proofs.Annotation.Elements
import ImageOverlay.Proofs.Annotation.Export
import ImageOverlay.Proofs.Annotation.Identity
import ImageOverlay.Proofs.Annotation.Rereading
import ImageOverlay.Proofs.Annotation.RoundTrip
import ImageOverlay.Proofs.Color
import ImageOverlay.Proofs.CommandLine.Agreement
import ImageOverlay.Proofs.CommandLine.Levels
import ImageOverlay.Proofs.CommandLine.Simulation
import ImageOverlay.Proofs.Convert.Boxes
import ImageOverlay.Proofs.Convert.Corners
import ImageOverlay.Proofs.Convert.Direction
import ImageOverlay.Proofs.Convert.Distinct
import ImageOverlay.Proofs.Convert.Export
import ImageOverlay.Proofs.Convert.Runs
import ImageOverlay.Proofs.Convert.Usable
import ImageOverlay.Proofs.Convert.Vertices
import ImageOverlay.Proofs.Draw.Layers
import ImageOverlay.Proofs.Draw.Likeness
import ImageOverlay.Proofs.Draw.Refusal
import ImageOverlay.Proofs.Draw.Requests
import ImageOverlay.Proofs.Json.Compact
import ImageOverlay.Proofs.Json.Fields
import ImageOverlay.Proofs.Json.Finite
import ImageOverlay.Proofs.Json.Members
import ImageOverlay.Proofs.Json.Reading
import ImageOverlay.Proofs.Json.Rereading
import ImageOverlay.Proofs.Json.Scaled
import ImageOverlay.Proofs.Json.Tokens
import ImageOverlay.Proofs.Loop.Handover
import ImageOverlay.Proofs.Loop.Precedence
import ImageOverlay.Proofs.Loop.Retirement
import ImageOverlay.Proofs.Loop.Shutdown
import ImageOverlay.Proofs.Loop.Tasks
import ImageOverlay.Proofs.Loop.Turns
import ImageOverlay.Proofs.Number.Angle
import ImageOverlay.Proofs.Number.Equality
import ImageOverlay.Proofs.Number.Exactness
import ImageOverlay.Proofs.Number.Layout
import ImageOverlay.Proofs.Number.Literal
import ImageOverlay.Proofs.Number.Logarithm
import ImageOverlay.Proofs.Number.Order
import ImageOverlay.Proofs.Number.Packing
import ImageOverlay.Proofs.Number.Quotient
import ImageOverlay.Proofs.Number.Range
import ImageOverlay.Proofs.Number.Rounding
import ImageOverlay.Proofs.Number.Shortest
import ImageOverlay.Proofs.Number.Sign
import ImageOverlay.Proofs.Number.Spelling
import ImageOverlay.Proofs.Number.Whole
import ImageOverlay.Proofs.Overlay.Conservation
import ImageOverlay.Proofs.Overlay.Layers
import ImageOverlay.Proofs.Overlay.Showing
import ImageOverlay.Proofs.Overlay.Styling
import ImageOverlay.Proofs.Settings.Limits
import ImageOverlay.Proofs.Settings.RoundTrip
import ImageOverlay.Proofs.Table
import ImageOverlay.Proofs.Text.Pieces
import ImageOverlay.Proofs.Tile.Address
import ImageOverlay.Proofs.Tile.Counts
import ImageOverlay.Proofs.Tile.Depth
import ImageOverlay.Proofs.Tile.Levels
import ImageOverlay.Proofs.Toml.Quoted
import ImageOverlay.Proofs.Toml.Tables
import ImageOverlay.Proofs.Toml.Words
import ImageOverlay.Proofs.Viewer.Announcements
import ImageOverlay.Proofs.Viewer.Answers
import ImageOverlay.Proofs.Viewer.Changes
import ImageOverlay.Proofs.Viewer.Completion
import ImageOverlay.Proofs.Viewer.Deletion
import ImageOverlay.Proofs.Viewer.Isolation
import ImageOverlay.Proofs.Viewer.Layers
import ImageOverlay.Proofs.Viewer.Likeness
import ImageOverlay.Proofs.Viewer.Operations
import ImageOverlay.Proofs.Viewer.Ownership
import ImageOverlay.Proofs.Viewer.Pending
import ImageOverlay.Proofs.Viewer.Record
import ImageOverlay.Proofs.Viewer.Regions
import ImageOverlay.Proofs.Viewer.Rendering
import ImageOverlay.Proofs.Viewer.Reset
import ImageOverlay.Proofs.Viewer.Retirement
import ImageOverlay.Proofs.Viewer.Separation
import ImageOverlay.Proofs.Viewer.Sessions
import ImageOverlay.Proofs.Viewport.Calls
import ImageOverlay.Proofs.Viewport.Frames
import ImageOverlay.Proofs.Viewport.History
import ImageOverlay.Proofs.Viewport.Orderly
import ImageOverlay.Proofs.Viewport.Record
import ImageOverlay.Proofs.Viewport.Reordering
import ImageOverlay.Proofs.Viewport.Replay
import ImageOverlay.Region
import ImageOverlay.Settings.Basic
import ImageOverlay.Settings.File
import ImageOverlay.Settings.Limits
import ImageOverlay.Settings.Schema
import ImageOverlay.Text.Blank
import ImageOverlay.Text.CaseTable
import ImageOverlay.Text.Lowercase
import ImageOverlay.Text.Range
import ImageOverlay.Text.Substitute
import ImageOverlay.Tile.Address
import ImageOverlay.Tile.Pyramid
import ImageOverlay.Toml.Quoted
import ImageOverlay.Toml.Reader
import ImageOverlay.Toml.Scalar
import ImageOverlay.Toml.Table
import ImageOverlay.Url.Basic
import ImageOverlay.Url.Domain.Alphabet
import ImageOverlay.Url.Domain.AlphabetTable
import ImageOverlay.Url.Domain.Basic
import ImageOverlay.Url.Domain.Composition
import ImageOverlay.Url.Domain.CompositionTable
import ImageOverlay.Url.Domain.Direction
import ImageOverlay.Url.Domain.Joining
import ImageOverlay.Url.Domain.Mark
import ImageOverlay.Url.Domain.MarkTable
import ImageOverlay.Url.Domain.ReplacementTable
import ImageOverlay.Url.Host
import ImageOverlay.Url.Punycode
import ImageOverlay.Viewer.Basic
import ImageOverlay.Viewer.Loop
import ImageOverlay.Viewport.Basic
import ImageOverlay.Viewport.Call
