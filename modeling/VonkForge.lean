import VonkForge.LeaseRuns
import VonkForge.LeaseDeadlines
import VonkForge.RolloutPreflight
import VonkForge.WorkerSources
import VonkForge.Acquisitions
import VonkForge.SignedBatches
import VonkForge.AuthorityAgreement
import VonkForge.AuthorizationRuns
import VonkForge.CompensationRuns
import VonkForge.JournalRuns
import VonkForge.UpgradeCompensation
import VonkForge.PackageOutcomes
import VonkForge.SlotRuns
import VonkForge.AgentReceipts
import VonkForge.RecipeLeases
import VonkForge.RolloutGates
import VonkForge.RouteAuthorities
import VonkForge.ClusterProfiles
import VonkForge.ModelDownloads
import VonkForge.VersionSelection
import VonkForge.ProtocolDocuments
