import SchemaAssist.Block.Basic
import SchemaAssist.Block.Scan
import SchemaAssist.Block.Walk
import SchemaAssist.CommandLine.FilePath
import SchemaAssist.CommandLine.Launch
import SchemaAssist.CommandLine.SchemaReport
import SchemaAssist.Cursor.Context
import SchemaAssist.Cursor.Line
import SchemaAssist.Editor.Completion
import SchemaAssist.Editor.DocumentRange
import SchemaAssist.Editor.Lookup
import SchemaAssist.Editor.Outline
import SchemaAssist.Editor.Reading
import SchemaAssist.Editor.Request
import SchemaAssist.Editor.Run
import SchemaAssist.Editor.Serving
import SchemaAssist.Editor.Session
import SchemaAssist.Facts
import SchemaAssist.Field.Index
import SchemaAssist.Field.Path
import SchemaAssist.Log
import SchemaAssist.Main
import SchemaAssist.NativeTypes
import SchemaAssist.Position
import SchemaAssist.Position.Checked
import SchemaAssist.Text.Basic
import SchemaAssist.Text.CaseTable
import SchemaAssist.Text.CodeRanges
import SchemaAssist.Text.JsonLimits
import SchemaAssist.Text.JsonStrings
import SchemaAssist.Text.JsonTokens
import SchemaAssist.Text.Lines
import SchemaAssist.Text.UnprintableTable
import SchemaAssist.Text.WordTable
import SchemaAssist.Text.Words
import SchemaAssist.Proofs.Block.Appending
import SchemaAssist.Proofs.Block.CheckedScan
import SchemaAssist.Proofs.Block.DraftProblems
import SchemaAssist.Proofs.Block.Endings
import SchemaAssist.Proofs.Block.HeaderGrammar
import SchemaAssist.Proofs.Block.HeaderSpelling
import SchemaAssist.Proofs.Block.Insertion
import SchemaAssist.Proofs.Block.LastHeader
import SchemaAssist.Proofs.Block.Locating
import SchemaAssist.Proofs.Block.Lookup
import SchemaAssist.Proofs.Block.SameRole
import SchemaAssist.Proofs.Block.ScanSteps
import SchemaAssist.Proofs.Block.Validity
import SchemaAssist.Proofs.Block.Walking
import SchemaAssist.Proofs.CommandLine.OutlineTable
import SchemaAssist.Proofs.Cursor.BeforeCursor
import SchemaAssist.Proofs.Cursor.Context
import SchemaAssist.Proofs.Cursor.FieldLine
import SchemaAssist.Proofs.Cursor.Keystroke
import SchemaAssist.Proofs.Cursor.Nesting
import SchemaAssist.Proofs.Cursor.RelationContext
import SchemaAssist.Proofs.Cursor.RelationLists
import SchemaAssist.Proofs.Cursor.Word
import SchemaAssist.Proofs.Editor.Definition
import SchemaAssist.Proofs.Editor.Failures
import SchemaAssist.Proofs.Editor.HoverTable
import SchemaAssist.Proofs.Editor.Isolation
import SchemaAssist.Proofs.Editor.LineBreaks
import SchemaAssist.Proofs.Editor.NamePlace
import SchemaAssist.Proofs.Editor.OutlineTree
import SchemaAssist.Proofs.Editor.PathCompletion
import SchemaAssist.Proofs.Editor.Reading
import SchemaAssist.Proofs.Editor.Responses
import SchemaAssist.Proofs.Editor.Runs
import SchemaAssist.Proofs.Editor.Serving
import SchemaAssist.Proofs.Editor.Strings
import SchemaAssist.Proofs.Editor.TypeCompletion
import SchemaAssist.Proofs.Facts.Assignment
import SchemaAssist.Proofs.Facts.FirstDatasource
import SchemaAssist.Proofs.Facts.LegacyKey
import SchemaAssist.Proofs.Facts.OfferedHeaders
import SchemaAssist.Proofs.Facts.PreviewFeatures
import SchemaAssist.Proofs.Facts.Provider
import SchemaAssist.Proofs.Facts.ProviderPlaces
import SchemaAssist.Proofs.Facts.TrailingComment
import SchemaAssist.Proofs.Facts.TypeNames
import SchemaAssist.Proofs.Field.Declarations
import SchemaAssist.Proofs.Field.DottedPath
import SchemaAssist.Proofs.Field.FirstOccurrences
import SchemaAssist.Proofs.Field.LongerPaths
import SchemaAssist.Proofs.Field.Modifiers
import SchemaAssist.Proofs.Field.Partition
import SchemaAssist.Proofs.Field.Trail
import SchemaAssist.Proofs.Field.Typing
import SchemaAssist.Proofs.Lists.Ordered
import SchemaAssist.Proofs.NativeTypes
import SchemaAssist.Proofs.Position.Checked
import SchemaAssist.Proofs.Text.ColumnDecoding
import SchemaAssist.Proofs.Text.JoinedLines
import SchemaAssist.Proofs.Text.JsonEncoding
import SchemaAssist.Proofs.Text.LineLayout
import SchemaAssist.Proofs.Text.ListSpelling
import SchemaAssist.Proofs.Text.Selection
import SchemaAssist.Proofs.Text.Trimming
import SchemaAssist.Proofs.Text.Words
