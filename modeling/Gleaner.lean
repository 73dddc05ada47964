import Gleaner.BuildError
import Gleaner.Dictionary
import Gleaner.Display
import Gleaner.ElementSpec
import Gleaner.Extraction
import Gleaner.Json.Record
import Gleaner.Json.Settings
import Gleaner.Json.Text
import Gleaner.Machine.Event
import Gleaner.Machine.Frame
import Gleaner.Machine.Run
import Gleaner.Machine.Settings
import Gleaner.Machine.Traversal
import Gleaner.Markup.Attribute
import Gleaner.Markup.Content
import Gleaner.Markup.Document
import Gleaner.Markup.Node
import Gleaner.Markup.Reference
import Gleaner.Markup.Serialize
import Gleaner.Markup.Token
import Gleaner.Markup.Writer
import Gleaner.Matchable
import Gleaner.Pattern
import Gleaner.Program.Builder
import Gleaner.Program.Command
import Gleaner.Proofs.Machine.Advance
import Gleaner.Proofs.Machine.Alike
import Gleaner.Proofs.Machine.Arrival
import Gleaner.Proofs.Machine.Balance
import Gleaner.Proofs.Machine.Candidates
import Gleaner.Proofs.Machine.Ceiling
import Gleaner.Proofs.Machine.Closed
import Gleaner.Proofs.Machine.Course
import Gleaner.Proofs.Machine.Descent
import Gleaner.Proofs.Machine.Edited
import Gleaner.Proofs.Machine.Gathering
import Gleaner.Proofs.Machine.Greedy
import Gleaner.Proofs.Machine.Hit
import Gleaner.Proofs.Machine.Inside
import Gleaner.Proofs.Machine.Invocation
import Gleaner.Proofs.Machine.Nesting
import Gleaner.Proofs.Machine.Passage
import Gleaner.Proofs.Machine.Refinement
import Gleaner.Proofs.Machine.Repetition
import Gleaner.Proofs.Machine.Rephrase
import Gleaner.Proofs.Machine.Rounds
import Gleaner.Proofs.Machine.Scope
import Gleaner.Proofs.Machine.Search
import Gleaner.Proofs.Machine.Soundness
import Gleaner.Proofs.Machine.Stay
import Gleaner.Proofs.Machine.Tally
import Gleaner.Proofs.Machine.Turn
import Gleaner.Proofs.Machine.Unseen
import Gleaner.Proofs.Machine.Vacant
import Gleaner.Proofs.Machine.Visit
import Gleaner.Proofs.Markup.Breadth
import Gleaner.Proofs.Markup.Escape
import Gleaner.Proofs.Markup.OwnText
import Gleaner.Proofs.Markup.Rules
import Gleaner.Proofs.Markup.Values
import Gleaner.Proofs.Markup.Written
import Gleaner.Proofs.Program.Bracket
import Gleaner.Proofs.Program.Call
import Gleaner.Proofs.Program.Compile
import Gleaner.Proofs.Program.Context
import Gleaner.Proofs.Program.Edit
import Gleaner.Proofs.Program.Mistake
import Gleaner.Proofs.Regex.Anchored
import Gleaner.Proofs.Regex.Dialect
import Gleaner.Proofs.Regex.Group
import Gleaner.Proofs.Regex.Reach
import Gleaner.Proofs.Regex.Reading
import Gleaner.Proofs.Regex.Shape.Pattern
import Gleaner.Proofs.Regex.Span
import Gleaner.Proofs.Text.Lowercase
import Gleaner.Regex.Basic
import Gleaner.Regex.CharIndex
import Gleaner.Regex.CharSet
import Gleaner.Regex.Expr
import Gleaner.Regex.Nested
import Gleaner.Regex.PositionSet
import Gleaner.Regex.Reader.Bracket
import Gleaner.Regex.Reader.Escape
import Gleaner.Regex.Reader.Pattern
import Gleaner.Regex.Search
import Gleaner.Regex.Walk
import Gleaner.Text.Blank
import Gleaner.Text.Digit
import Gleaner.Text.Lowercase
import Gleaner.Text.Occurs
import Gleaner.Text.Quoted
import Gleaner.Unicode.CaseMap
import Gleaner.Unicode.Cased
import Gleaner.Unicode.Latest
import Gleaner.Unicode.Letter
import Gleaner.Unicode.Number
import Gleaner.Unicode.Printable
import Gleaner.Unicode.Space
import Gleaner.Unicode.Table
import Gleaner.Unicode.Word
