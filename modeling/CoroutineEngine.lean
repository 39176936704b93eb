import CoroutineEngine.Configuration.Workbench
import CoroutineEngine.Proofs.RoundTrip
import CoroutineEngine.Proofs.Layering
import CoroutineEngine.Proofs.Descent
import CoroutineEngine.Proofs.Equality
import CoroutineEngine.Proofs.Entanglement
import CoroutineEngine.Main
import CoroutineEngine.Proofs.Automaton
import CoroutineEngine.Proofs.Context
import CoroutineEngine.Proofs.Enrolment
import CoroutineEngine.Proofs.Representation
import CoroutineEngine.Proofs.Restoration
import CoroutineEngine.Session
import CoroutineEngine.Proofs.Fibers
import CoroutineEngine.Proofs.Finalization
import CoroutineEngine.Proofs.Frames
import CoroutineEngine.Proofs.Heeding
import CoroutineEngine.Proofs.Borrowing
import CoroutineEngine.Proofs.Isolation
import CoroutineEngine.Proofs.Line
import CoroutineEngine.Proofs.Service
import CoroutineEngine.Proofs.Withdrawal
import CoroutineEngine.Proofs.Refinement
import CoroutineEngine.Proofs.Rejection
import CoroutineEngine.Proofs.Closing
import CoroutineEngine.Proofs.Inputs
import CoroutineEngine.Proofs.Handles
import CoroutineEngine.Proofs.Normalization
import CoroutineEngine.Proofs.Probing
import CoroutineEngine.Proofs.Dissolution
import CoroutineEngine.Proofs.Propagation
import CoroutineEngine.Proofs.Iteration
import CoroutineEngine.Proofs.Children
import CoroutineEngine.Proofs.Independence
