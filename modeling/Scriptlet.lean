import Scriptlet.Main
import Scriptlet.Expr.Tree
import Scriptlet.Proofs.Expr.Lines
import Scriptlet.Proofs.Grammar.Comparison
import Scriptlet.Proofs.Grammar.Alike
import Scriptlet.Proofs.Grammar.Grouping
import Scriptlet.Proofs.Grammar.Reading
import Scriptlet.Proofs.Grammar.Precedence
import Scriptlet.Proofs.Token.Spacing
import Scriptlet.Proofs.Grammar.Derivation
import Scriptlet.Proofs.Expr.Spelling
import Scriptlet.Proofs.Grammar.RoundTrip
import Scriptlet.Proofs.Analysis.Scopes
import Scriptlet.Proofs.Analysis.Soundness
import Scriptlet.Proofs.SymbolTable.Gains
import Scriptlet.Proofs.SymbolTable.Stack
import Scriptlet.Proofs.Evaluation.Restoration
import Scriptlet.Proofs.Evaluation.Simulation
import Scriptlet.Proofs.Sink.Confinement
import Scriptlet.Proofs.Builtin.Output
import Scriptlet.Proofs.Evaluation.Composition
import Scriptlet.Proofs.Evaluation.Isolation
import Scriptlet.Proofs.Grammar.Listing
import Scriptlet.Proofs.Token.LongestMatch
import Scriptlet.Proofs.Token.Lossless
import Scriptlet.Proofs.Grammar.Production
import Scriptlet.Proofs.Grammar.Sequel
import Scriptlet.Proofs.Grammar.Acceptance
import Scriptlet.Proofs.Grammar.Blame
import Scriptlet.Proofs.Evaluation.Raised
import Scriptlet.Proofs.Script.Failure
import Scriptlet.Proofs.Evaluation.Confinement
import Scriptlet.Proofs.Analysis.Lines
import Scriptlet.Proofs.Script.Layout
import Scriptlet.Proofs.Script.Sections
import Scriptlet.Proofs.Script.Limit
import Scriptlet.Proofs.Script.Origin
import Scriptlet.Proofs.SymbolTable.Handles
import Scriptlet.Proofs.SymbolTable.Reissue
import Scriptlet.Proofs.Evaluation.Frame
import Scriptlet.Proofs.Grammar.ArgumentList
import Scriptlet.Proofs.Grammar.Juncture
import Scriptlet.Proofs.Grammar.Joining
import Scriptlet.Proofs.Analysis.Conditions
import Scriptlet.Proofs.Token.Respacing
import Scriptlet.Proofs.Evaluation.Declarations
import Scriptlet.Proofs.Analysis.StraightLine
import Scriptlet.Proofs.Token.LineBreak
import Scriptlet.Proofs.Grammar.Parentheses
import Scriptlet.Proofs.Grammar.Finality
import Scriptlet.Proofs.Evaluation.Emission
import Scriptlet.Proofs.Evaluation.Trace
import Scriptlet.Proofs.Grammar.Continuation
import Scriptlet.Proofs.Grammar.Movement
import Scriptlet.Proofs.Expr.Printed
import Scriptlet.Proofs.Expr.Renaming
import Scriptlet.Proofs.SymbolTable.Renaming
import Scriptlet.Proofs.Analysis.Renaming
import Scriptlet.Proofs.Evaluation.Renaming
