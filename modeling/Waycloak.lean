import Waycloak.Analysis.SuccessorWithdrawal
import Waycloak.Analysis.ExpiredMappings
import Waycloak.Analysis.WithdrawnRules
import Waycloak.Analysis.ProviderCapacity
import Waycloak.Analysis.HandoffGenerations
import Waycloak.Analysis.TargetIdentity
import Waycloak.Analysis.DrainedGenerations
import Waycloak.Analysis.SingleGateway
import Waycloak.Analysis.AdapterWithdrawal
import Waycloak.Analysis.LateRequests
import Waycloak.Analysis.WellFormedRequests
import Waycloak.Analysis.DeletedReservations
import Waycloak.Analysis.PortExclusivity
import Waycloak.Analysis.LeaseUIDPaths
import Waycloak.Analysis.OverlayRanges
import Waycloak.Analysis.SoleReservation
import Waycloak.Analysis.RevokedLeases
import Waycloak.Analysis.RevokedConsent
import Waycloak.Analysis.FailClosedAdd
import Waycloak.Analysis.ExactSandbox
import Waycloak.Analysis.GroupReconciliation
import Waycloak.Analysis.StableReservations
import Waycloak.Analysis.RestoredEndpoints
import Waycloak.Analysis.StatusLadder
import Waycloak.Analysis.RuleMarkers
import Waycloak.Analysis.GatewayForwarding
import Waycloak.Analysis.ConsentPrivacy
import Waycloak.Analysis.CanonicalFiles
import Waycloak.Analysis.ResumableRestore
import Waycloak.Analysis.RuntimeOwnership
import Waycloak.Analysis.StalePods
import Waycloak.Analysis.ExhaustedPools
import Waycloak.Analysis.FreshObservations
import Waycloak.Analysis.UnambiguousCheckpoints
