import MetricExpr.Command.Request
import MetricExpr.Command.Run
import MetricExpr.Display.Json
import MetricExpr.Display.Message
import MetricExpr.Display.Outline
import MetricExpr.Display.Table
import MetricExpr.Display.Value
import MetricExpr.Expr.Build
import MetricExpr.Expr.Parse
import MetricExpr.Expr.Quantity
import MetricExpr.Expr.Source
import MetricExpr.Frame
import MetricExpr.Frame.Samples
import MetricExpr.Journal
import MetricExpr.Main
import MetricExpr.Resolution.PathMatcher
import MetricExpr.Session
import MetricExpr.Settings
import MetricExpr.SymbolTable
import MetricExpr.SymbolTable.Load
import MetricExpr.Yaml.Document
import MetricExpr.Proofs.Glob.Filling
import MetricExpr.Proofs.OrderedMap
import MetricExpr.Proofs.Resolution.Groups
import MetricExpr.Proofs.Resolution.Soundness
import MetricExpr.Proofs.Expr.Evaluation
import MetricExpr.Proofs.Frame.Rows
import MetricExpr.Proofs.Frame.Faults
import MetricExpr.Proofs.Expr.Grammar
import MetricExpr.Proofs.Expr.Derivation
import MetricExpr.Proofs.Binary64.Nearest
import MetricExpr.Proofs.Decimal.ReadBack
import MetricExpr.Proofs.Decimal.Scanned
import MetricExpr.Proofs.Decimal.Written
import MetricExpr.Proofs.Expr.Scanning
import MetricExpr.Proofs.Expr.RoundTrip
import MetricExpr.Proofs.Glob.Greedy
import MetricExpr.Proofs.Glob.Pattern
import MetricExpr.Proofs.Resolution.Completeness
import MetricExpr.Proofs.Resolution.Presence
import MetricExpr.Proofs.Resolution.OperandOrder
import MetricExpr.Proofs.Resolution.Monotone
import MetricExpr.Proofs.Resolution.KeySequence
import MetricExpr.Proofs.Expr.Parentheses
import MetricExpr.Proofs.Expr.Viable
import MetricExpr.Proofs.Expr.Lexemes
import MetricExpr.Proofs.Expr.Lossless
import MetricExpr.Proofs.Expr.Lockstep
import MetricExpr.Proofs.Expr.Respaced
import MetricExpr.Proofs.Expr.Descent
import MetricExpr.Proofs.Except
import MetricExpr.Proofs.Resolution.Blocks
import MetricExpr.Proofs.Resolution.CompleteGroups
import MetricExpr.Proofs.Settings.Sources
import MetricExpr.Proofs.Settings.Runs
import MetricExpr.Proofs.Binary64.Range
import MetricExpr.Proofs.SymbolTable.Walk
import MetricExpr.Proofs.SymbolTable.Leaves
import MetricExpr.Proofs.Command.Arguments
import MetricExpr.Proofs.Command.Request
import MetricExpr.Proofs.Csv.Cells
import MetricExpr.Proofs.SymbolTable.Load
import MetricExpr.Proofs.Text.Encoding
import MetricExpr.Proofs.Command.Presentation
import MetricExpr.Proofs.Csv.Columns
import MetricExpr.Proofs.Csv.Names
import MetricExpr.Proofs.Csv.Tables
import MetricExpr.Proofs.SymbolTable.Sheet
import MetricExpr.Proofs.Frame.Samples
import MetricExpr.Proofs.Command.FrameReport
import MetricExpr.Proofs.Display.JsonText
import MetricExpr.Proofs.Command.JsonOutput
import MetricExpr.Proofs.Text.Quoted
import MetricExpr.Proofs.Expr.Structure
import MetricExpr.Proofs.Expr.EntryPoints
import MetricExpr.Proofs.Decimal.Rounded
import MetricExpr.Proofs.Display.Value
import MetricExpr.Proofs.Journal
