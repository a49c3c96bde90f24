import CyclesAP2.Interaction.Program
import CyclesAP2.Interaction.Method
import CyclesAP2.Lifecycle
import CyclesAP2.AsyncRefinement
import CyclesAP2.Dimensions
import CyclesAP2.Discipline
import CyclesAP2.Keys
import CyclesAP2.Money
import CyclesAP2.ActionKinds
import CyclesAP2.Probes
import CyclesAP2.Amounts
import CyclesAP2.Evidence
import CyclesAP2.PostCommit
import CyclesAP2.ReleaseKeys
import CyclesAP2.Upstream
import CyclesAP2.FaithfulAdapter
import CyclesAP2.Agreement
import CyclesAP2.Rivals
import CyclesAP2.Recovery
import CyclesAP2.Diagnosis
import CyclesAP2.Settlement
import CyclesAP2.Interaction.Contract
import CyclesAP2.Reuse
import CyclesAP2.Conformance
import CyclesAP2.ExactlyOnce
import CyclesAP2.Interaction.Alike
import CyclesAP2.Interaction.OneShot
import CyclesAP2.Interchange
import CyclesAP2.Register
import CyclesAP2.UpstreamIdentity
import CyclesAP2.Audit
import CyclesAP2.Independence
import CyclesAP2.ReuseRegister
import CyclesAP2.Stranded
