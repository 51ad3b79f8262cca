import MarkupLint.Check.Checker
import MarkupLint.Check.Interleave
import MarkupLint.Check.Lexicon
import MarkupLint.Check.Prose
import MarkupLint.Check.Registry
import MarkupLint.Check.Spelling
import MarkupLint.Check.TimeLimit
import MarkupLint.Check.Validate
import MarkupLint.Command.Arguments
import MarkupLint.Command.Flag
import MarkupLint.Command.Output
import MarkupLint.Command.Request
import MarkupLint.Command.Run
import MarkupLint.Command.Usage
import MarkupLint.Config.Bundled
import MarkupLint.Config.BundledText
import MarkupLint.Config.Error
import MarkupLint.Config.Load
import MarkupLint.Config.Override
import MarkupLint.Config.Resource
import MarkupLint.Config.Schema
import MarkupLint.Config.Settings
import MarkupLint.Json.Reader
import MarkupLint.Json.Writer
import MarkupLint.Log
import MarkupLint.Log.Routing
import MarkupLint.Log.Sinks
import MarkupLint.Main
import MarkupLint.Markup.Attribute
import MarkupLint.Markup.Directive
import MarkupLint.Markup.Forest
import MarkupLint.Markup.Fragment
import MarkupLint.Markup.Node
import MarkupLint.Markup.Normalize
import MarkupLint.Markup.Region
import MarkupLint.Markup.Segment
import MarkupLint.Number.Double
import MarkupLint.Number.Layout
import MarkupLint.Number.Reader
import MarkupLint.Number.Shortest
import MarkupLint.Project.Batch
import MarkupLint.Project.Discover
import MarkupLint.Project.Files
import MarkupLint.Project.Lint
import MarkupLint.Project.Path
import MarkupLint.Project.Report
import MarkupLint.Project.Snapshot
import MarkupLint.Proofs.AcceptedConfig
import MarkupLint.Proofs.Addresses
import MarkupLint.Proofs.AppendedItems
import MarkupLint.Proofs.AppendedOnce
import MarkupLint.Proofs.Attachment
import MarkupLint.Proofs.AttributeLists
import MarkupLint.Proofs.BlankRuns
import MarkupLint.Proofs.Contents
import MarkupLint.Proofs.Discovery
import MarkupLint.Proofs.DocumentStore
import MarkupLint.Proofs.DoubleSpace
import MarkupLint.Proofs.Entities
import MarkupLint.Proofs.Erasure
import MarkupLint.Proofs.Exceptions
import MarkupLint.Proofs.FileReport
import MarkupLint.Proofs.FolderTree
import MarkupLint.Proofs.ForestLinks
import MarkupLint.Proofs.FrameOrder
import MarkupLint.Proofs.Handlers
import MarkupLint.Proofs.Independence
import MarkupLint.Proofs.Isolation
import MarkupLint.Proofs.Keys
import MarkupLint.Proofs.Labels
import MarkupLint.Proofs.LaidOver
import MarkupLint.Proofs.LaidTwice
import MarkupLint.Proofs.Layers
import MarkupLint.Proofs.Leaves
import MarkupLint.Proofs.Leftmost
import MarkupLint.Proofs.ListMarks
import MarkupLint.Proofs.ListsWithin
import MarkupLint.Proofs.LoadedStore
import MarkupLint.Proofs.LoadFailure
import MarkupLint.Proofs.LowerCase
import MarkupLint.Proofs.Markers
import MarkupLint.Proofs.MarkRuns
import MarkupLint.Proofs.MetLayers
import MarkupLint.Proofs.MixedContent
import MarkupLint.Proofs.NodeObjects
import MarkupLint.Proofs.NodeValues
import MarkupLint.Proofs.Numerals
import MarkupLint.Proofs.OverrideFrame
import MarkupLint.Proofs.OverridePath
import MarkupLint.Proofs.OverrideSet
import MarkupLint.Proofs.OverrideWalk
import MarkupLint.Proofs.OverrideWins
import MarkupLint.Proofs.ParseTree
import MarkupLint.Proofs.PathOrder
import MarkupLint.Proofs.Pieces
import MarkupLint.Proofs.PlainText
import MarkupLint.Proofs.PlainValue
import MarkupLint.Proofs.ProseIssues
import MarkupLint.Proofs.RegionScope
import MarkupLint.Proofs.Remembered
import MarkupLint.Proofs.RepeatedWord
import MarkupLint.Proofs.ReplayedComments
import MarkupLint.Proofs.Sameness
import MarkupLint.Proofs.Schedule
import MarkupLint.Proofs.SchemaRules
import MarkupLint.Proofs.Separator
import MarkupLint.Proofs.SettingOrder
import MarkupLint.Proofs.Shown
import MarkupLint.Proofs.ShownKey
import MarkupLint.Proofs.SiblingWalk
import MarkupLint.Proofs.SideBySide
import MarkupLint.Proofs.SingleMarker
import MarkupLint.Proofs.SingleScope
import MarkupLint.Proofs.SourceOrder
import MarkupLint.Proofs.StackRun
import MarkupLint.Proofs.StaticAttribute
import MarkupLint.Proofs.StoreWalk
import MarkupLint.Proofs.StoreWrite
import MarkupLint.Proofs.Stretch
import MarkupLint.Proofs.Submitted
import MarkupLint.Proofs.Tokens
import MarkupLint.Proofs.Traversal
import MarkupLint.Proofs.Unshared
import MarkupLint.Proofs.Utf8
import MarkupLint.Proofs.VariableNames
import MarkupLint.Proofs.Vocabulary
import MarkupLint.Proofs.WholePhrase
import MarkupLint.Proofs.WorkStack
import MarkupLint.Proofs.WriteOrder
import MarkupLint.Source.Build
import MarkupLint.Source.Convert
import MarkupLint.Source.Parse
import MarkupLint.Source.Tree
import MarkupLint.Text.Accent
import MarkupLint.Text.AccentTable
import MarkupLint.Text.Base64
import MarkupLint.Text.Blank
import MarkupLint.Text.Case
import MarkupLint.Text.CaseTable
import MarkupLint.Text.Digit
import MarkupLint.Text.LineEnd
import MarkupLint.Text.Printable
import MarkupLint.Text.PrintableTable
import MarkupLint.Text.Ranges
import MarkupLint.Text.Scan
import MarkupLint.Text.Utf8
import MarkupLint.Text.Word
import MarkupLint.Text.WordTable
import MarkupLint.Value.Basic
import MarkupLint.Value.Convert
import MarkupLint.Value.Display
import MarkupLint.Value.Merge
import MarkupLint.Value.Moment
import MarkupLint.Value.Path
import MarkupLint.Value.SetOrder
import MarkupLint.Yaml.Cursor
import MarkupLint.Yaml.Fault
import MarkupLint.Yaml.Literal
import MarkupLint.Yaml.Merge
import MarkupLint.Yaml.Node
import MarkupLint.Yaml.Object
import MarkupLint.Yaml.Page
import MarkupLint.Yaml.Read
import MarkupLint.Yaml.Scalar
import MarkupLint.Yaml.Style
import MarkupLint.Yaml.Supply
import MarkupLint.Yaml.Tag
import MarkupLint.Yaml.Time
import MarkupLint.Yaml.Token
import MarkupLint.Yaml.Write
