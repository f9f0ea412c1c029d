import SmallScheme.Main
import SmallScheme.Proofs.Adequacy
import SmallScheme.Proofs.Application
import SmallScheme.Proofs.Arithmetic
import SmallScheme.Proofs.Assignment
import SmallScheme.Proofs.Atoms
import SmallScheme.Proofs.ClosureFree
import SmallScheme.Proofs.ClosureIdentity
import SmallScheme.Proofs.Comments
import SmallScheme.Proofs.Comparison
import SmallScheme.Proofs.DepthLimit
import SmallScheme.Proofs.Descent
import SmallScheme.Proofs.Ensures
import SmallScheme.Proofs.Equality
import SmallScheme.Proofs.ErrorContext
import SmallScheme.Proofs.ErrorWindow
import SmallScheme.Proofs.ExpressionOrder
import SmallScheme.Proofs.FailingCall
import SmallScheme.Proofs.FirstForm
import SmallScheme.Proofs.FormShape
import SmallScheme.Proofs.GlobalKeys
import SmallScheme.Proofs.HostLookup
import SmallScheme.Proofs.JoinedText
import SmallScheme.Proofs.LexicalScope
import SmallScheme.Proofs.Named.Interning
import SmallScheme.Proofs.Named.ParameterNames
import SmallScheme.Proofs.NameNumbers
import SmallScheme.Proofs.PromptLines
import SmallScheme.Proofs.ReadFailure
import SmallScheme.Proofs.ReadLines
import SmallScheme.Proofs.ReadNames
import SmallScheme.Proofs.ScopeGrowth
import SmallScheme.Proofs.Visibility
import SmallScheme.Proofs.VisibleNames
import SmallScheme.Proofs.WrittenForm
