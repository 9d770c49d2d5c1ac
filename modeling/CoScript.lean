import CoScript.Main
import CoScript.Proofs.Tree.Position
import CoScript.Proofs.Tree.Shape
import CoScript.Proofs.Parse.Yield
import CoScript.Proofs.Parse.TypeShape
import CoScript.Proofs.Parse.ExpressionShape
import CoScript.Proofs.Parse.StatementShape
import CoScript.Proofs.Cooperate.Rules
import CoScript.Proofs.Cooperate.Shape
import CoScript.Proofs.Cooperate.Contract
import CoScript.Proofs.Erasure.Shape
import CoScript.Proofs.Print.Success
import CoScript.Proofs.Script.Transform
import CoScript.Proofs.Cooperate.OptionalChain
import CoScript.Proofs.Erasure.Commute
import CoScript.Proofs.Erasure.Decisions
import CoScript.Proofs.Erasure.TypeFree
import CoScript.Proofs.Tree.Values
import CoScript.Proofs.Cooperate.Log
import CoScript.Proofs.Cooperate.Effects
import CoScript.Proofs.Cooperate.Insertion
import CoScript.Proofs.Parse.Motion
import CoScript.Proofs.Token.Numeral
import CoScript.Proofs.Token.Word
import CoScript.Proofs.Token.Phrase
import CoScript.Proofs.Print.OperatorTree
import CoScript.Proofs.Parse.Reading
import CoScript.Proofs.Parse.OperatorTree
import CoScript.Proofs.Print.Tokens
import CoScript.Proofs.Batch.Accounting
import CoScript.Proofs.Token.Tiling
import CoScript.Proofs.Token.LineEnds
import CoScript.Proofs.Token.Columns
import CoScript.Proofs.Script.Display
import CoScript.Proofs.Parse.Budget
import CoScript.Proofs.Script.Layout
import CoScript.Proofs.Tree.Subtrees
import CoScript.Proofs.Cooperate.Kept
import CoScript.Proofs.Cooperate.Targets
import CoScript.Proofs.Cooperate.Patterns
import CoScript.Proofs.Token.Splitting
import CoScript.Proofs.Parse.Templates
import CoScript.Proofs.Token.Quoting
import CoScript.Proofs.Token.Sequence
import CoScript.Proofs.Script.Declarations
import CoScript.Proofs.Config.Names
import CoScript.Proofs.Token.Unquoting
import CoScript.Proofs.Print.Restoring
import CoScript.Proofs.Print.Control
import CoScript.Proofs.Parse.Control
import CoScript.Proofs.Token.Substitution
import CoScript.Proofs.Parse.Side
import CoScript.Proofs.Parse.Braces
import CoScript.Proofs.Parse.Substitution
import CoScript.Proofs.Token.Angles
import CoScript.Proofs.Print.TypeTree
import CoScript.Proofs.Parse.TypeTree
import CoScript.Proofs.Parse.Tracing
import CoScript.Proofs.Parse.Lists
import CoScript.Proofs.Parse.Holes
import CoScript.Proofs.Script.NextLine
