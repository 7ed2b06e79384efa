import GameScenes.Asset.DiskStore
import GameScenes.Asset.Image
import GameScenes.Asset.Image.Bytes
import GameScenes.Asset.Image.Chunk
import GameScenes.Asset.Image.Packed
import GameScenes.Asset.Image.Segment
import GameScenes.Asset.Import
import GameScenes.Asset.Path
import GameScenes.Behavior.Attachment
import GameScenes.Behavior.Catalog
import GameScenes.Behavior.Coercion
import GameScenes.Behavior.Command
import GameScenes.Behavior.Field
import GameScenes.Behavior.Index
import GameScenes.Behavior.Instance
import GameScenes.Build.Context
import GameScenes.Build.Entity
import GameScenes.Build.Game
import GameScenes.Build.Interface
import GameScenes.Build.Report
import GameScenes.Build.Scene
import GameScenes.Build.Stage
import GameScenes.Build.Tilemap
import GameScenes.CommandLine
import GameScenes.Digest.Sha256
import GameScenes.Document.Game
import GameScenes.Document.Interface
import GameScenes.Document.Object
import GameScenes.Document.Placement
import GameScenes.Document.Scene
import GameScenes.Document.Tiles
import GameScenes.Geometry.Bounds
import GameScenes.Geometry.Encoding
import GameScenes.Geometry.Pose
import GameScenes.Geometry.Scalar
import GameScenes.Geometry.Vector
import GameScenes.Json.Basic
import GameScenes.Json.Decoder
import GameScenes.Json.Encoder
import GameScenes.Json.Fault
import GameScenes.Json.Lexeme
import GameScenes.Json.Printer
import GameScenes.Json.Reader
import GameScenes.Json.Skipped
import GameScenes.Json.Typed
import GameScenes.Main
import GameScenes.Number.Digits
import GameScenes.Number.Dyadic
import GameScenes.Number.Numeral
import GameScenes.Number.Shortest
import GameScenes.Number.Written
import GameScenes.Project.BuildList
import GameScenes.Project.Saving
import GameScenes.Project.SceneFile
import GameScenes.Project.Tables
import GameScenes.Project.TablesFile
import GameScenes.Report.Diagnostic
import GameScenes.Report.Encoding
import GameScenes.Scene.Alignment
import GameScenes.Scene.Artifact
import GameScenes.Scene.Color
import GameScenes.Scene.Component
import GameScenes.Scene.Encoding
import GameScenes.Scene.EntityId
import GameScenes.Scene.Graph
import GameScenes.Scene.Reference
import GameScenes.Storage.Access
import GameScenes.Storage.Disk
import GameScenes.Storage.Journal
import GameScenes.Text.Blank
import GameScenes.Text.Case
import GameScenes.Text.Dictionary
import GameScenes.Text.Printable
import GameScenes.Text.Quoted
import GameScenes.Text.Slashes
import GameScenes.Tiles.Atlas
import GameScenes.Tiles.Layer
import GameScenes.Tiles.Outline
import GameScenes.Tiles.Painting
import GameScenes.Proofs.Tiles.Boundary
import GameScenes.Proofs.Storage.Files
import GameScenes.Proofs.Tiles.Walk
import GameScenes.Proofs.Tiles.Loop
import GameScenes.Proofs.Tiles.Winding
import GameScenes.Proofs.Scene.Settling
import GameScenes.Proofs.Storage.Saving
import GameScenes.Proofs.Project.Places
import GameScenes.Proofs.Project.SceneFiles
import GameScenes.Proofs.Build.Steps
import GameScenes.Proofs.Build.Abandoned
import GameScenes.Proofs.Json.Lexemes
import GameScenes.Proofs.Json.Readable
import GameScenes.Proofs.Project.RoundTrip
import GameScenes.Proofs.Storage.Again
import GameScenes.Proofs.Project.Again
import GameScenes.Proofs.Build.Readings
import GameScenes.Proofs.Build.Replay
import GameScenes.Proofs.Build.Recompiled
import GameScenes.Proofs.Build.Faults
import GameScenes.Proofs.Build.Accounts
import GameScenes.Proofs.Json.Repeated
import GameScenes.Proofs.Json.Reading
import GameScenes.Proofs.Json.Ceiling
import GameScenes.Proofs.Scene.Orderly
import GameScenes.Proofs.Behavior.Attaching
import GameScenes.Proofs.Build.Roles
import GameScenes.Proofs.Build.Cast
import GameScenes.Proofs.Behavior.Conforming
import GameScenes.Proofs.Build.Bindings
import GameScenes.Proofs.Json.Nesting
import GameScenes.Proofs.Document.Acceptance
import GameScenes.Proofs.Document.Form
import GameScenes.Proofs.Document.Unknown
import GameScenes.Proofs.Tiles.Regions
import GameScenes.Proofs.Tiles.Turning
import GameScenes.Proofs.Tiles.Gaps
import GameScenes.Proofs.Tiles.Holes
import GameScenes.Proofs.Build.Siblings
import GameScenes.Proofs.Build.Registering
import GameScenes.Proofs.Build.Unchanged
import GameScenes.Proofs.Project.ReadBack
import GameScenes.Proofs.Text.Slashes
import GameScenes.Proofs.Asset.Imports
import GameScenes.Proofs.Behavior.Reordering
import GameScenes.Proofs.Scene.Forest
import GameScenes.Proofs.Scene.Resolving
import GameScenes.Proofs.Build.Actions
import GameScenes.Proofs.Build.Buttons
import GameScenes.Proofs.Scene.Reparenting
import GameScenes.Proofs.Scene.Extending
import GameScenes.Proofs.Build.Sparing
import GameScenes.Proofs.Storage.Parallel
import GameScenes.Proofs.Project.Parallel
import GameScenes.Proofs.Build.Recorded
import GameScenes.Proofs.Build.Parallel
import GameScenes.Proofs.Build.Malformed
import GameScenes.Proofs.Project.Renumbered
import GameScenes.Proofs.Build.Redrawn
import GameScenes.Proofs.Storage.FilesLeft
import GameScenes.Proofs.Build.Unreported
import GameScenes.Proofs.Tiles.Corners
import GameScenes.Proofs.Tiles.Numbering
import GameScenes.Proofs.Tiles.Naming
import GameScenes.Proofs.Tiles.Painted
import GameScenes.Proofs.Text.Trimming
import GameScenes.Proofs.Text.Bytes
import GameScenes.Proofs.Behavior.Lookup
import GameScenes.Proofs.Number.Comparison
import GameScenes.Proofs.Number.Arithmetic
import GameScenes.Proofs.Scene.Resting
import GameScenes.Proofs.Number.Singles
import GameScenes.Proofs.Scene.Stepwise
import GameScenes.Proofs.Scene.Frames
import GameScenes.Proofs.Scene.Reporting
import GameScenes.Proofs.Number.Doubles
import GameScenes.Proofs.Number.Numerals
import GameScenes.Proofs.Json.Numerals
import GameScenes.Proofs.Behavior.WholeNumbers
import GameScenes.Proofs.Text.Dictionary
import GameScenes.Proofs.Behavior.Arguments
import GameScenes.Proofs.Behavior.Dressing
import GameScenes.Proofs.Behavior.Explicit
import GameScenes.Proofs.Behavior.Anchors
import GameScenes.Proofs.Behavior.Wiring
import GameScenes.Proofs.Behavior.Calls
import GameScenes.Proofs.Asset.Paths
import GameScenes.Proofs.Scene.Reachable
import GameScenes.Proofs.Scene.Moving
import GameScenes.Proofs.Scene.Below
import GameScenes.Proofs.Scene.Poses
import GameScenes.Proofs.Scene.Unmoved
import GameScenes.Proofs.Storage.WholeFiles
import GameScenes.Proofs.Project.ListedOnce
import GameScenes.Proofs.Behavior.LayerMasks
import GameScenes.Proofs.Number.Narrowing
import GameScenes.Proofs.Behavior.FiniteNumbers
import GameScenes.Proofs.Build.TileLayers
import GameScenes.Proofs.Document.Truncation
import GameScenes.Proofs.CommandLine.Flags
import GameScenes.Proofs.Scene.Colors
import GameScenes.Proofs.Build.SceneFaults
import GameScenes.Proofs.Build.Stretches
import GameScenes.Proofs.Project.SceneNames
import GameScenes.Proofs.Build.Namesakes
