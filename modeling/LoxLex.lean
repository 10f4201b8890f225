import LoxLex.About
import LoxLex.CharClass
import LoxLex.CommandLine.Options
import LoxLex.CommandLine.Run
import LoxLex.Diagnostic
import LoxLex.Double.Basic
import LoxLex.Double.Numeral
import LoxLex.Double.Shortest
import LoxLex.Double.Text
import LoxLex.Files.Disk
import LoxLex.Files.Tree
import LoxLex.Main
import LoxLex.NodeModule.Render
import LoxLex.NodeModule.Spec
import LoxLex.NodeModule.Write
import LoxLex.Proofs.Arguments
import LoxLex.Proofs.Blocks
import LoxLex.Proofs.CarriageReturns
import LoxLex.Proofs.Channels
import LoxLex.Proofs.Checked
import LoxLex.Proofs.ClosingQuote
import LoxLex.Proofs.Context
import LoxLex.Proofs.Decimals
import LoxLex.Proofs.Decoding
import LoxLex.Proofs.DerivedNames
import LoxLex.Proofs.Descriptions
import LoxLex.Proofs.Dispatch
import LoxLex.Proofs.Execution
import LoxLex.Proofs.FileReading
import LoxLex.Proofs.Grammar
import LoxLex.Proofs.Layout
import LoxLex.Proofs.LineEnds
import LoxLex.Proofs.LineNumbers
import LoxLex.Proofs.Listing
import LoxLex.Proofs.Lookahead
import LoxLex.Proofs.MaximalMunch
import LoxLex.Proofs.ModuleText
import LoxLex.Proofs.Moves
import LoxLex.Proofs.Names
import LoxLex.Proofs.NodeDescriptions
import LoxLex.Proofs.NumberLiterals
import LoxLex.Proofs.NumberText
import LoxLex.Proofs.Numeral
import LoxLex.Proofs.Opening
import LoxLex.Proofs.Outlines
import LoxLex.Proofs.PrintedNumbers
import LoxLex.Proofs.Progress
import LoxLex.Proofs.Prompt
import LoxLex.Proofs.QuotedText
import LoxLex.Proofs.Ranks
import LoxLex.Proofs.Reading
import LoxLex.Proofs.Recovery
import LoxLex.Proofs.Refusal
import LoxLex.Proofs.ReporterHistory
import LoxLex.Proofs.Rescan
import LoxLex.Proofs.Rounding
import LoxLex.Proofs.Run
import LoxLex.Proofs.Segments
import LoxLex.Proofs.Separation
import LoxLex.Proofs.Shortest
import LoxLex.Proofs.Span
import LoxLex.Proofs.Splitting
import LoxLex.Proofs.Step
import LoxLex.Proofs.StrayHelp
import LoxLex.Proofs.Templates
import LoxLex.Proofs.Transcripts
import LoxLex.Proofs.Writing
import LoxLex.Reporter
import LoxLex.Runner
import LoxLex.Scanner.Basic
import LoxLex.Scanner.File
import LoxLex.Scanner.Operation
import LoxLex.Scanner.Rules
import LoxLex.Scanner.Scan
import LoxLex.Session
import LoxLex.Text.Ascii
import LoxLex.Text.Lines
import LoxLex.Text.Loose
import LoxLex.Text.Quoted
import LoxLex.Text.Split
import LoxLex.Text.Utf8
import LoxLex.Token.Basic
import LoxLex.Token.Kind
import LoxLex.Unicode.Blank
import LoxLex.Unicode.Case
import LoxLex.Unicode.CaseTables
import LoxLex.Unicode.Digit
import LoxLex.Unicode.Identifier
import LoxLex.Unicode.Printable
import LoxLex.Unicode.Ranges
