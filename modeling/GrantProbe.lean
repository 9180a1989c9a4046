import GrantProbe.Access.Grant
import GrantProbe.Json.Document
import GrantProbe.Main
import GrantProbe.Probe.Suffix
import GrantProbe.Proofs.Access.GrantStore
import GrantProbe.Proofs.Access.LeastPrivilege
import GrantProbe.Proofs.Access.Standing
import GrantProbe.Proofs.Case.Intact
import GrantProbe.Proofs.Cleanup.Completion
import GrantProbe.Proofs.Cleanup.Retirement
import GrantProbe.Proofs.Config.Workspaces
import GrantProbe.Proofs.Confinement.Credentials
import GrantProbe.Proofs.Denial.Verdict
import GrantProbe.Proofs.Failure.Precedence
import GrantProbe.Proofs.Http.Names
import GrantProbe.Proofs.Identity.Issuance
import GrantProbe.Proofs.Identity.Secrecy
import GrantProbe.Proofs.Permissive.Verdicts
import GrantProbe.Proofs.Retry.Ceiling
import GrantProbe.Proofs.Suite.Accounting
import GrantProbe.Proofs.Suite.Seeding
import GrantProbe.Proofs.Suite.Whole
import GrantProbe.Proofs.Tracking.ArtifactAddress
import GrantProbe.Proofs.Tracking.FalseDenial
import GrantProbe.Proofs.Tracking.Heading
import GrantProbe.Proofs.Tracking.MissedDenial
import GrantProbe.Proofs.Verification.Propagation
import GrantProbe.Proofs.Verification.SpareDelay
import GrantProbe.Proofs.Verification.TotalSleep
import GrantProbe.Proofs.Wire.Connecting
import GrantProbe.Proofs.Wire.Records
import GrantProbe.Suite.Run
import GrantProbe.Tracking.Endpoint
import GrantProbe.Wire.Cluster
import GrantProbe.Wire.Tracking
import GrantProbe.World.Label
import GrantProbe.World.Network
import GrantProbe.World.Script
