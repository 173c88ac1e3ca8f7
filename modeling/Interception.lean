import Interception.Session
import Interception.Json.Reader
import Interception.Json.Writer
import Interception.Proofs.Capability.Distinct
import Interception.Proofs.Capability.Order
import Interception.Proofs.Method.Display
import Interception.Proofs.Registry.Answers
import Interception.Proofs.Registry.Duplicates
import Interception.Proofs.Settings.Accessors
import Interception.Proofs.Settings.Contents
import Interception.Proofs.TypeTable.Declarations
import Interception.Proofs.Wrap.Reach
import Interception.Proofs.Wrap.Repetition
import Interception.Proofs.Wrap.Widening
import Interception.Proofs.Stack.Provenance
import Interception.Proofs.Stack.Passage
import Interception.Proofs.Weave.Composition
import Interception.Proofs.Weave.Rearrangement
import Interception.Proofs.Weave.Tagged
import Interception.Proofs.Chain.Requests
import Interception.Proofs.Report.Calls
import Interception.Proofs.Report.Assembly
