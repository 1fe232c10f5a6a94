import StackProse.Builtin.Arithmetic
import StackProse.Builtin.Basic
import StackProse.Builtin.Keyed
import StackProse.Builtin.Logic
import StackProse.Builtin.Registry
import StackProse.Builtin.Sequence
import StackProse.Character.Age
import StackProse.Character.Break
import StackProse.Character.Category
import StackProse.Character.CharSet
import StackProse.Character.Folding
import StackProse.Character.Property
import StackProse.Character.Query
import StackProse.Character.Script
import StackProse.CommandLine.Invocation
import StackProse.CommandLine.Report
import StackProse.Machine.Basic
import StackProse.Machine.Console
import StackProse.Machine.Engine
import StackProse.Machine.Evaluate
import StackProse.Machine.Fault
import StackProse.Machine.Frames
import StackProse.Machine.Keyword
import StackProse.Machine.Process
import StackProse.Machine.Words
import StackProse.Main
import StackProse.Number.Basic
import StackProse.Number.Binary
import StackProse.Number.Decimal
import StackProse.Pattern.Bracket
import StackProse.Pattern.Bytes
import StackProse.Pattern.Code
import StackProse.Pattern.Engine
import StackProse.Pattern.Escape
import StackProse.Pattern.Expr
import StackProse.Pattern.GroupName
import StackProse.Pattern.Options
import StackProse.Pattern.Reader
import StackProse.Pattern.Search
import StackProse.Pattern.Size
import StackProse.Program.Assembly
import StackProse.Program.Block
import StackProse.Program.Problem
import StackProse.Program.References
import StackProse.Proofs.Builtin.Applied
import StackProse.Proofs.Builtin.Signatures
import StackProse.Proofs.Builtin.Splitting
import StackProse.Proofs.Machine.Alike
import StackProse.Proofs.Machine.Bare
import StackProse.Proofs.Machine.Contents
import StackProse.Proofs.Machine.Depth
import StackProse.Proofs.Machine.Discipline
import StackProse.Proofs.Machine.Equipped
import StackProse.Proofs.Machine.Escapes
import StackProse.Proofs.Machine.Expressions
import StackProse.Proofs.Machine.Faults
import StackProse.Proofs.Machine.Growth
import StackProse.Proofs.Machine.Holdings
import StackProse.Proofs.Machine.Lexical
import StackProse.Proofs.Machine.Lists
import StackProse.Proofs.Machine.Moments
import StackProse.Proofs.Machine.Outlines
import StackProse.Proofs.Machine.Plain
import StackProse.Proofs.Machine.Remarked
import StackProse.Proofs.Machine.Remarks
import StackProse.Proofs.Machine.Room
import StackProse.Proofs.Machine.Shown
import StackProse.Proofs.Machine.StackBelow
import StackProse.Proofs.Machine.Steady
import StackProse.Proofs.Machine.Tables
import StackProse.Proofs.Machine.TwoRuns
import StackProse.Proofs.Number.Closeness
import StackProse.Proofs.Number.Finite
import StackProse.Proofs.Number.Numerals
import StackProse.Proofs.Number.Rounding
import StackProse.Proofs.Number.Shortest
import StackProse.Proofs.Program.Aspects
import StackProse.Proofs.Program.Assembled
import StackProse.Proofs.Program.Declared
import StackProse.Proofs.Program.Expressions
import StackProse.Proofs.Program.Judged
import StackProse.Proofs.Program.LetterCase
import StackProse.Proofs.Program.Located
import StackProse.Proofs.Program.Occurrences
import StackProse.Proofs.Program.Operands
import StackProse.Proofs.Program.Placed
import StackProse.Proofs.Program.Prose
import StackProse.Proofs.Program.Rejected
import StackProse.Proofs.Program.Reporting
import StackProse.Proofs.Program.Statements
import StackProse.Proofs.Session.Afresh
import StackProse.Proofs.Session.Bindings
import StackProse.Proofs.Session.Escapes
import StackProse.Proofs.Session.FiniteNumbers
import StackProse.Proofs.Session.Functions
import StackProse.Proofs.Session.Names
import StackProse.Proofs.Session.Places
import StackProse.Proofs.Session.Prelude
import StackProse.Proofs.Session.Reports
import StackProse.Proofs.Session.Runs
import StackProse.Proofs.Session.Scoping
import StackProse.Proofs.Session.Sequences
import StackProse.Proofs.Source.Arranged
import StackProse.Proofs.Source.Aspects
import StackProse.Proofs.Source.Enclosed
import StackProse.Proofs.Source.Fitting
import StackProse.Proofs.Source.Formed
import StackProse.Proofs.Source.Grammar
import StackProse.Proofs.Source.LetterCase
import StackProse.Proofs.Source.Places
import StackProse.Proofs.Source.Positions
import StackProse.Proofs.Source.Prose
import StackProse.Proofs.Source.Quotations
import StackProse.Proofs.Source.Spaced
import StackProse.Proofs.Source.Spelling
import StackProse.Proofs.Source.Tiling
import StackProse.Proofs.Table.Balance
import StackProse.Proofs.Table.Changes
import StackProse.Proofs.Table.Entries
import StackProse.Proofs.Table.Histories
import StackProse.Proofs.Table.Levels
import StackProse.Proofs.Table.Mapped
import StackProse.Proofs.Table.Walked
import StackProse.Proofs.Text.LetterCase
import StackProse.Proofs.Text.Units
import StackProse.Proofs.Value.Contents
import StackProse.Proofs.Value.Cycles
import StackProse.Proofs.Value.Order
import StackProse.Proofs.Value.Renaming
import StackProse.Proofs.Value.Rendered
import StackProse.Session.Basic
import StackProse.Session.Limit
import StackProse.Session.Note
import StackProse.Session.Prelude
import StackProse.Source.Node
import StackProse.Source.Span
import StackProse.Source.Token
import StackProse.Table.Basic
import StackProse.Table.Tree
import StackProse.Table.Walk
import StackProse.Text.CaseData
import StackProse.Text.Letter
import StackProse.Text.Markup
import StackProse.Text.Quoted
import StackProse.Text.Units
import StackProse.Value.Basic
import StackProse.Value.Order
import StackProse.Value.Written
