import Polyglot.Main
import Polyglot.Syntax.Outline
import Polyglot.Workspace
import Polyglot.Proofs.Computation
import Polyglot.Proofs.Frame
import Polyglot.Proofs.Reading
import Polyglot.Proofs.Progress
import Polyglot.Proofs.Grammar
import Polyglot.Proofs.Switching
import Polyglot.Proofs.Soundness
import Polyglot.Proofs.Completeness
import Polyglot.Proofs.Correspondence
import Polyglot.Proofs.Joining
import Polyglot.Proofs.Erasure
import Polyglot.Proofs.LastLine
import Polyglot.Proofs.Sessions
import Polyglot.Proofs.Lexicon
import Polyglot.Proofs.Shape
import Polyglot.Proofs.Pieces
import Polyglot.Proofs.Respelling
import Polyglot.Proofs.Dialects
import Polyglot.Proofs.Printing
import Polyglot.Proofs.Rereading
import Polyglot.Proofs.RoundTrip
import Polyglot.Proofs.Cursor
import Polyglot.Proofs.Lookahead
import Polyglot.Proofs.Restart
import Polyglot.Proofs.Parallel
import Polyglot.Proofs.Derivations
import Polyglot.Proofs.CallDepth
import Polyglot.Proofs.Repeatable
import Polyglot.Proofs.Wording
import Polyglot.Proofs.Height
import Polyglot.Proofs.Strict
import Polyglot.Proofs.Decided
import Polyglot.Proofs.Completion
import Polyglot.Proofs.Earliest
import Polyglot.Proofs.Traversal
import Polyglot.Proofs.Captures
import Polyglot.Proofs.NestingLimit
import Polyglot.Proofs.Termination
import Polyglot.Proofs.LiteralDepth
import Polyglot.Proofs.ScopeDepth
import Polyglot.Proofs.Boundaries
import Polyglot.Proofs.Quoting
import Polyglot.Proofs.Steps
import Polyglot.Proofs.ScanLog
import Polyglot.Proofs.Recovery
import Polyglot.Proofs.Shadowing
import Polyglot.Proofs.Arithmetic
import Polyglot.Proofs.Display
import Polyglot.Proofs.Branches
import Polyglot.Proofs.Literals
import Polyglot.Proofs.WellFormed
