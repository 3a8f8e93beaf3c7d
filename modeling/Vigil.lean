import Vigil.Main
import Vigil.Proofs.Acceptance
import Vigil.Proofs.Attempts
import Vigil.Proofs.Balance
import Vigil.Proofs.Callback
import Vigil.Proofs.Cardinality
import Vigil.Proofs.Conversation
import Vigil.Proofs.Course
import Vigil.Proofs.Disconnect
import Vigil.Proofs.Follower
import Vigil.Proofs.Isolation
import Vigil.Proofs.Latency
import Vigil.Proofs.Logbook
import Vigil.Proofs.Membership
import Vigil.Proofs.Presence
import Vigil.Proofs.Provenance
import Vigil.Proofs.Reconnection
import Vigil.Proofs.Refusal
import Vigil.Proofs.Resumption
import Vigil.Proofs.Round
import Vigil.Proofs.Settings
import Vigil.Proofs.Silence
import Vigil.Proofs.Stale
import Vigil.Proofs.Timetable
import Vigil.Proofs.Traceless
import Vigil.Proofs.Traffic
import Vigil.Proofs.Verdict
import Vigil.Proofs.Versions
import Vigil.Scheduler
