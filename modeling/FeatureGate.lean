import FeatureGate.Main
import FeatureGate.Proofs.Cascade
import FeatureGate.Proofs.Chronicle
import FeatureGate.Proofs.Escalation
import FeatureGate.Proofs.Integrity
import FeatureGate.Proofs.Continuity
import FeatureGate.Proofs.Backends
import FeatureGate.Proofs.Atomicity
import FeatureGate.Proofs.Vigilance
import FeatureGate.Proofs.Admission
import FeatureGate.Proofs.Monotony
import FeatureGate.Proofs.Radius
import FeatureGate.Proofs.Independence
import FeatureGate.Proofs.Lifecycle
import FeatureGate.Proofs.Poison
import FeatureGate.Proofs.FailedRuns
import FeatureGate.Proofs.RemovalPersistence
import FeatureGate.Proofs.Locality
import FeatureGate.Proofs.CommandPhrases
import FeatureGate.Proofs.AdminRecourse
import FeatureGate.Proofs.Repetition
import FeatureGate.Proofs.Address
import FeatureGate.Proofs.Toggle
import FeatureGate.Proofs.Numbering
import FeatureGate.Proofs.Succession
import FeatureGate.Proofs.Separation
import FeatureGate.Proofs.Refusal
import FeatureGate.Proofs.Accounting
import FeatureGate.Proofs.Composition
import FeatureGate.Proofs.Listing
import FeatureGate.Proofs.Inclusion
import FeatureGate.Proofs.Binding
