import DevConsole.Act
import DevConsole.Blueprint.Basic
import DevConsole.Blueprint.Build
import DevConsole.Blueprint.Command
import DevConsole.Color
import DevConsole.Command.Args
import DevConsole.Command.Param
import DevConsole.Command.Registry
import DevConsole.Command.Standard
import DevConsole.Completion.Cycle
import DevConsole.Completion.Engine
import DevConsole.Config.Basic
import DevConsole.Config.Decode
import DevConsole.Config.Toml.Node
import DevConsole.Config.Toml.Reader
import DevConsole.Demo.Application
import DevConsole.Demo.Game
import DevConsole.Demo.Settings
import DevConsole.Error
import DevConsole.Eval.Access
import DevConsole.Eval.Evaluate
import DevConsole.Expr.Basic
import DevConsole.Expr.Lexer
import DevConsole.Expr.Operator
import DevConsole.Expr.Parser
import DevConsole.Expr.Scan
import DevConsole.Expr.Token
import DevConsole.Input.Key
import DevConsole.Input.Script
import DevConsole.Main
import DevConsole.Number.Arithmetic
import DevConsole.Number.BinaryFormat
import DevConsole.Number.Decimal
import DevConsole.Number.Reading
import DevConsole.Number.Shortest
import DevConsole.Output.Scrollback
import DevConsole.Output.Wrap
import DevConsole.Session.Basic
import DevConsole.Session.Console
import DevConsole.Session.History
import DevConsole.Text.CharClass
import DevConsole.Text.LetterCase
import DevConsole.Text.Quoted
import DevConsole.Text.Split
import DevConsole.Text.Unicode.Alphabetic
import DevConsole.Text.Unicode.CaseIgnorable
import DevConsole.Text.Unicode.CaseMap
import DevConsole.Text.Unicode.Cased
import DevConsole.Text.Unicode.GraphemeExtend
import DevConsole.Text.Unicode.Numeric
import DevConsole.Text.Unicode.Unprintable
import DevConsole.World.Arithmetic
import DevConsole.World.Builtin
import DevConsole.World.Catalog
import DevConsole.World.Lookup
import DevConsole.World.Member
import DevConsole.World.Receiver
import DevConsole.World.Store
import DevConsole.World.Value
import DevConsole.Proofs.Grammar.Derivation
import DevConsole.Proofs.Grammar.Soundness
import DevConsole.Proofs.Grammar.Exactness
import DevConsole.Proofs.Lexing.Tokens
import DevConsole.Proofs.Lexing.Numerals
import DevConsole.Proofs.Grammar.Nesting
import DevConsole.Proofs.Eval.Strictness
import DevConsole.Proofs.Lexing.Integers
import DevConsole.Proofs.Lexing.Lexemes
import DevConsole.Proofs.Lexing.Respacing
import DevConsole.Proofs.Number.Signs
import DevConsole.Proofs.Lexing.Literals
import DevConsole.Proofs.Grammar.Printing
import DevConsole.Proofs.Number.Wrapping
import DevConsole.Proofs.Eval.OperatorChain
import DevConsole.Proofs.Eval.Dialogue
import DevConsole.Proofs.Eval.HostContract
import DevConsole.Proofs.World.HostProperty
import DevConsole.Proofs.Demo.Members
import DevConsole.Proofs.World.Untraced
import DevConsole.Proofs.Eval.Frames
import DevConsole.Proofs.Eval.Stack
import DevConsole.Proofs.Command.Dispatch
import DevConsole.Proofs.Command.Output
import DevConsole.Proofs.Session.Operations
import DevConsole.Proofs.Session.Invariant
import DevConsole.Proofs.Session.Scroll
import DevConsole.Proofs.Eval.Assignment
import DevConsole.Proofs.Session.Outcome
import DevConsole.Proofs.Session.Frame
import DevConsole.Proofs.Session.HostInput
import DevConsole.Proofs.Session.CompletionRun
import DevConsole.Proofs.Command.Report
import DevConsole.Proofs.Command.Registration
import DevConsole.Proofs.Session.Containment
import DevConsole.Proofs.World.Places
import DevConsole.Proofs.Eval.ReadBack
import DevConsole.Proofs.Eval.Keeping
import DevConsole.Proofs.Session.Objects
import DevConsole.Proofs.Demo.Objects
import DevConsole.Proofs.Demo.FrameCount
import DevConsole.Proofs.Demo.ReadBack
import DevConsole.Proofs.World.OperatorTables
import DevConsole.Proofs.World.Listing
import DevConsole.Proofs.Lexing.LookAhead
import DevConsole.Proofs.Lexing.Squeezing
import DevConsole.Proofs.Grammar.CallFree
import DevConsole.Proofs.Grammar.Columns
import DevConsole.Proofs.Command.Call
import DevConsole.Proofs.Completion.Candidates
import DevConsole.Proofs.Completion.Cycling
import DevConsole.Proofs.Completion.Replacement
import DevConsole.Proofs.Completion.Chain
import DevConsole.Proofs.Eval.Marker
import DevConsole.Proofs.Session.MemberCompletion
import DevConsole.Proofs.Completion.WordBounds
import DevConsole.Proofs.Session.Typing
import DevConsole.Proofs.Input.Script
import DevConsole.Proofs.Eval.Overloads
import DevConsole.Proofs.World.Conversion
import DevConsole.Proofs.Eval.Names
import DevConsole.Proofs.Grammar.Parts
import DevConsole.Proofs.Lexing.Joining
import DevConsole.Proofs.Number.Negation
import DevConsole.Proofs.Eval.Bare
import DevConsole.Proofs.Eval.Expansion
import DevConsole.Proofs.Eval.NegatedCast
import DevConsole.Proofs.Eval.TypeMembers
import DevConsole.Proofs.Output.LineBreaks
import DevConsole.Proofs.Grammar.Reading
import DevConsole.Proofs.Grammar.ViablePrefix
import DevConsole.Proofs.World.Equality
import DevConsole.Proofs.Session.LineEditing
import DevConsole.Proofs.Session.HistoryWalk
import DevConsole.Proofs.Session.Closed
import DevConsole.Proofs.Session.QuietTab
import DevConsole.Proofs.Session.RunEnd
import DevConsole.Proofs.Output.HexColor
import DevConsole.Proofs.Command.Signature
import DevConsole.Proofs.Command.Arguments
import DevConsole.Proofs.World.InUse
import DevConsole.Proofs.World.Bodies
import DevConsole.Proofs.World.BuiltinFailures
import DevConsole.Proofs.Eval.Blame
import DevConsole.Proofs.Command.NothingInUse
import DevConsole.Proofs.World.ThereAndBack
import DevConsole.Proofs.Session.Recall
import DevConsole.Proofs.Completion.LongestChain
import DevConsole.Proofs.Number.MachineLaws
