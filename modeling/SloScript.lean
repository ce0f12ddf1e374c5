import SloScript.Action
import SloScript.Builtin
import SloScript.Console
import SloScript.Console.Dialogue
import SloScript.Console.FileTree
import SloScript.Console.History
import SloScript.Console.Request
import SloScript.Console.Run
import SloScript.Diagnostic
import SloScript.Evaluator
import SloScript.Fault
import SloScript.Host
import SloScript.Journal
import SloScript.Json
import SloScript.Main
import SloScript.Number.Binary
import SloScript.Number.Layout
import SloScript.Number.Power
import SloScript.Number.Reader
import SloScript.Number.Shortest
import SloScript.Operator
import SloScript.Operator.Apply
import SloScript.Prelude
import SloScript.Program
import SloScript.Program.Cursor
import SloScript.Program.Dump
import SloScript.Program.Parser
import SloScript.Repl
import SloScript.Session
import SloScript.Settings
import SloScript.Span
import SloScript.Store
import SloScript.Table
import SloScript.Text.Basic
import SloScript.Text.Blank
import SloScript.Text.Cluster
import SloScript.Text.Conjunct
import SloScript.Text.Erasure
import SloScript.Text.Hidden
import SloScript.Text.Letter
import SloScript.Text.Lines
import SloScript.Text.Mark
import SloScript.Text.Pictograph
import SloScript.Text.Quoted
import SloScript.Text.Style
import SloScript.Token
import SloScript.Token.Lexer
import SloScript.Value
import SloScript.Value.Display
import SloScript.Value.Equality
import SloScript.Proofs.Change
import SloScript.Proofs.Growth
import SloScript.Proofs.Grammar
import SloScript.Proofs.Spelling
import SloScript.Proofs.Termination
import SloScript.Proofs.ParserSoundness
import SloScript.Proofs.ParserCompleteness
import SloScript.Proofs.Rendering
import SloScript.Proofs.Tiling
import SloScript.Proofs.Isolation
import SloScript.Proofs.CallLimit
import SloScript.Proofs.Bisimilarity
import SloScript.Proofs.Sites
import SloScript.Proofs.Printing
import SloScript.Proofs.BinaryForm
import SloScript.Proofs.AlikeTexts
import SloScript.Proofs.ShortestDigits
import SloScript.Proofs.NumberTexts
import SloScript.Proofs.JsonTexts
import SloScript.Proofs.SyntaxTrees
import SloScript.Proofs.Dumps
import SloScript.Proofs.Relocation
import SloScript.Proofs.Pairing
import SloScript.Proofs.Simulation
import SloScript.Proofs.Mirror
import SloScript.Proofs.Noninterference
import SloScript.Proofs.Tracking
import SloScript.Proofs.Layout
import SloScript.Proofs.Joining
import SloScript.Proofs.Piecewise
import SloScript.Proofs.Typesetting
import SloScript.Proofs.Nesting
import SloScript.Proofs.Provenance
import SloScript.Proofs.Origins
import SloScript.Proofs.FaultSites
import SloScript.Proofs.Underlining
import SloScript.Proofs.CallDepth
import SloScript.Proofs.Parameters
import SloScript.Proofs.Unseen
import SloScript.Proofs.HostCall
import SloScript.Proofs.Installation
import SloScript.Proofs.Dialogues
import SloScript.Proofs.ScopeChain
import SloScript.Proofs.Environments
import SloScript.Proofs.LexicalFaults
import SloScript.Proofs.Lookahead
import SloScript.Proofs.IndexedReader
import SloScript.Proofs.IndexBounds
import SloScript.Proofs.NearestNumbers
import SloScript.Proofs.RandomNumbers
import SloScript.Proofs.NamedExpressions
import SloScript.Proofs.ParameterLists
import SloScript.Proofs.Snippets
