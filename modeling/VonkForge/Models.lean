import VonkForge.KeyedTable
import VonkForge.AgentProtocol
import Mathlib.Data.List.Sort

/-!
# The durable rows of the control plane

The columns that the modelled services read or write.  UUIDs and node identifiers are numbers in
the order of their canonical texts; instants count microseconds.
-/

namespace VonkForge

/-- A non-empty list of distinct nodes: the targets of a plan or of one rollout batch. -/
structure NodeGroup where
  nodes : List NodeId
  nodup : nodes.Nodup
  ne_nil : nodes ≠ []
  deriving DecidableEq

lemma nodup_one : [(1 : NodeId)].Nodup := by decide

lemma one_ne_nil : [(1 : NodeId)] ≠ [] := by decide

inductive NodeState
  | active
  | retired
  deriving DecidableEq

inductive AgentImplementation
  | pending
  | python
  | rust
  deriving DecidableEq

inductive MigrationState
  | required
  | complete
  deriving DecidableEq

structure AgentNode where
  nodeId : NodeId
  state : NodeState := .active
  agentImplementation : AgentImplementation := .python
  migrationState : MigrationState := .required
  protocolVersion : Option ℕ := none
  runtime : Option RuntimeIdentity := none
  contactCertificateSerial : Option Serial := none
  contactObservationDigest : Option Digest := none
  capabilities : List Capability := []
  lastSeenAt : Option Time := none
  revokedAt : Option Time := none
  deriving DecidableEq

instance : Keyed AgentNode NodeId := ⟨AgentNode.nodeId⟩

inductive CertificateState
  | staged
  | active
  | revoked
  deriving DecidableEq

structure AgentCertificate where
  serial : Serial
  nodeId : NodeId
  (notBefore notAfter : Time)
  fingerprint : Digest
  state : CertificateState := .active
  revokedAt : Option Time := none
  caRevokedAt : Option Time := none
  deriving DecidableEq

instance : Keyed AgentCertificate Serial := ⟨AgentCertificate.serial⟩

structure MigrationEnrollment where
  certificateSerial : Serial
  nodeId : NodeId
  deriving DecidableEq

instance : Keyed MigrationEnrollment Serial := ⟨MigrationEnrollment.certificateSerial⟩

inductive LeaseOwnerKind
  | reconciliation
  | updateRollout
  deriving DecidableEq

inductive LeaseState
  | held
  | releasing
  deriving DecidableEq

structure NodeMutationLease where
  nodeId : NodeId
  ownerKind : LeaseOwnerKind
  (ownerId fence : Uuid)
  state : LeaseState
  (acquiredAt updatedAt : Time)
  deriving DecidableEq

instance : Keyed NodeMutationLease NodeId := ⟨NodeMutationLease.nodeId⟩

inductive JobKind
  | platformUpdate
  | packageValidation
  | recipe
  | other
  deriving DecidableEq

inductive JobState
  | queued
  | running
  | succeeded
  | partly
  | failed
  | waitingForOperator
  | expired
  deriving DecidableEq

structure Job where
  id : Uuid
  kind : JobKind := .other
  state : JobState := .running
  baseCommit : Commit := 0
  targets : List NodeId := []
  statusReason : Option String := none
  updatedAt : Time := 0
  reconciliationId : Option Uuid := none
  deriving DecidableEq

instance : Keyed Job Uuid := ⟨Job.id⟩

inductive OperationState
  | queued
  | running
  | succeeded
  | failed
  | waitingForOperator
  | compensated
  deriving DecidableEq

def OperationState.unfinished : OperationState → Bool
  | queued | running => true
  | _ => false

structure StoredOperation where
  (id parentJobId : Uuid)
  nodeId : NodeId
  kind : AgentOperation
  payloadDigest : Digest
  payload : Payload
  baseCommit : Commit := 0
  state : OperationState := .queued
  currentAttempt : ℕ := 0
  retryDisposition : Option RetryDisposition := none
  retryDispositionAttempt : Option ℕ := none
  (createdAt updatedAt : Time)
  deriving DecidableEq

instance : Keyed StoredOperation Uuid := ⟨StoredOperation.id⟩

inductive AttemptState
  | running
  | succeeded
  | failed
  | waitingForOperator
  | expired
  deriving DecidableEq

structure AgentOperationAttempt where
  operationId : Uuid
  attempt : ℕ
  fence : Uuid
  leaseDeadline : Time
  agentCertificateSerial : Serial
  state : AttemptState
  result : Option ResultDocument := none
  deriving DecidableEq

instance : Keyed AgentOperationAttempt (Uuid × ℕ) := ⟨fun a => (a.operationId, a.attempt)⟩

inductive ReconciliationPhase
  | legacy
  | planned
  | withdrawalPending
  | routesWithdrawn
  | dispatching
  | accepting
  | publicationPending
  | compensating
  | completed
  | failed
  | cancelled
  | waitingForOperator
  deriving DecidableEq

inductive ReconciliationStatus
  | planned
  | running
  | succeeded
  | failed
  | cancelled
  deriving DecidableEq

/-- An immutable operation of a reconciliation graph; payloads are known by their content and
digest. -/
structure OperationNode where
  operationId : GraphId
  nodeId : NodeId
  workloadId : String
  kind : AgentOperation
  dependencies : List GraphId := []
  compensationKind : Option AgentOperation := none
  payload : Payload
  compensationPayload : Option Payload := none
  deriving DecidableEq

/-- A route of the plan: its entrypoint, and the graph operation that verifies the workload there. -/
structure PlannedRoute where
  entrypointNodeId : NodeId
  verifyOperation : GraphId
  deriving DecidableEq

/-- The persisted plan as it validates: its digest, the graph nodes, the accepted agent protocols
and the routes. -/
structure ResolvedPlan where
  digest : Digest := 0
  nodes : List OperationNode
  protocolRange : ℕ × ℕ
  routes : List PlannedRoute := []
  deriving DecidableEq

structure Reconciliation where
  id : Uuid
  targets : NodeGroup
  baseCommit : Commit := 0
  status : ReconciliationStatus := .planned
  plan : Option ResolvedPlan := none
  currentPhase : ReconciliationPhase := .planned
  terminalReason : Option String := none
  completionGeneration : Option ℕ := none
  createdAt : Time := 0
  deriving DecidableEq

instance : Keyed Reconciliation Uuid := ⟨Reconciliation.id⟩

inductive ProjectionRole
  | primary
  | compensation
  deriving DecidableEq

inductive ProjectionState
  | planned
  | queued
  | running
  | succeeded
  | accepted
  | failed
  | waitingForOperator
  | compensating
  | compensated
  | uncertain
  deriving DecidableEq

/-- The durable projection of one graph operation, unique for each graph operation and role. -/
structure ReconciliationOperation where
  reconciliationId : Uuid
  graphOperationId : GraphId
  role : ProjectionRole
  agentOperationId : Option Uuid := none
  expectedPayloadDigest : Digest
  state : ProjectionState := .planned
  resultDigest : Option Digest := none
  evidenceDigest : Option Digest := none
  deriving DecidableEq

instance : Keyed ReconciliationOperation (Uuid × GraphId × ProjectionRole) :=
  ⟨fun p => (p.reconciliationId, p.graphOperationId, p.role)⟩

inductive CancellationState
  | requested
  | withdrawalPending
  | withdrawn
  | processing
  | compensating
  | completed
  | waitingForOperator
  deriving DecidableEq

structure ReconciliationCancellation where
  reconciliationId : Uuid
  state : CancellationState
  reason : String := ""
  deriving DecidableEq

instance : Keyed ReconciliationCancellation Uuid := ⟨ReconciliationCancellation.reconciliationId⟩

inductive PublicationState
  | withdrawalPending
  | routesWithdrawn
  | publicationPending
  | completed
  | failed
  deriving DecidableEq

structure RoutePublication where
  reconciliationId : Uuid
  state : PublicationState
  generation : Option ℕ := none
  planDigest : Digest
  evidenceDigest : Option Digest := none
  leaseIssuedAt : Option Time := none
  leaseExpiresAt : Option Time := none
  deriving DecidableEq

instance : Keyed RoutePublication Uuid := ⟨RoutePublication.reconciliationId⟩

structure RoutePublicationOwner where
  reconciliationId : Option Uuid := none
  ownerGeneration : ℕ := 0
  deriving DecidableEq

inductive RolloutState
  | planned
  | withdrawing
  | updating
  | soaking
  | publishing
  | failurePublishing
  | compensatingWithdrawal
  | paused
  | rollingBack
  | rollbackPublishing
  | waitingForApproval
  | completed
  | partly
  | failed
  deriving DecidableEq

structure SourceIdentity where
  platformVersion : Option PlatformVersion
  buildDigest : Option Digest
  protocolVersion : Option ℕ
  activeSlot : Option Slot
  agentSha256 : Option Digest
  supervisorGeneration : Option ℕ
  deriving DecidableEq

/-- The observation of an agent that the plan was made from; `content` stands for the rest of its
document, which only the digests read. -/
structure AgentObservation where
  nodeId : NodeId
  identity : SourceIdentity
  content : ℕ := 0
  deriving DecidableEq

/-- A workload whose members serve together; `replicated` says that the plan knows its replicas. -/
structure DistributedWorkload where
  workloadId : ℕ
  members : List NodeId
  minimumAvailable : ℕ
  replicated : Bool := false
  deriving DecidableEq

structure GrantClaims where
  action : AgentOperation
  expiresAt : ℕ
  nonce : Uuid
  nodeIds : List NodeId
  (parentJobId rolloutId : Uuid)
  targetReleaseDigest : Option Digest
  deriving DecidableEq

structure AdminGrant where
  claims : GrantClaims
  keyId : Digest
  signature : ℕ
  deriving DecidableEq

/-- An immutable platform-update plan: its batches, the offline nodes, what agents run and shall
run, and the release. -/
structure UpdatePlan where
  planDigest : Digest := 0
  batches : List NodeGroup
  offlinePending : List NodeId := []
  incompatible : List NodeId := []
  sources : List AgentObservation := []
  payloads : List (NodeId × NodePayload) := []
  workloads : List DistributedWorkload := []
  soakSeconds : ℕ := 0
  releaseDigest : Digest := 0
  baseCommit : Commit := 0
  targetPlatformVersion : PlatformVersion := ⟨0, 0, 0⟩
  targetBuildDigest : Digest := 0
  protocolRange : ℕ × ℕ := (1, 1)
  tufTargetsVersion : ℕ := 1
  deriving DecidableEq

structure UpdateRollout extends UpdatePlan where
  id : Uuid
  jobId : Option Uuid := none
  state : RolloutState := .planned
  currentBatch : ℕ := 0
  updateAdminGrant : Option AdminGrant := none
  rollbackAdminGrant : Option AdminGrant := none
  soakUntil : Option Time := none
  failureReason : Option String := none
  createdAt : Time := 0
  deriving DecidableEq

instance : Keyed UpdateRollout Uuid := ⟨UpdateRollout.id⟩

inductive RolloutNodeState
  | offlinePending
  | pending
  | routesWithdrawn
  | updating
  | soaking
  | accepted
  | failed
  | rollingBack
  | rolledBack
  deriving DecidableEq

/-- Per-node update progress, unique for each rollout and node; a node offline at planning has the
batch index −1. -/
structure UpdateRolloutNode where
  rolloutId : Uuid
  nodeId : NodeId
  batchIndex : ℤ
  nodeOrder : ℕ
  state : RolloutNodeState := .pending
  operationId : Option Uuid := none
  rollbackOperationId : Option Uuid := none
  sourceIdentityDigest : Digest := 0
  targetArtifactDigest : Digest := 0
  failureReason : Option String := none
  dispatchAt : Option Time := none
  activationDeadline : Option Time := none
  deriving DecidableEq

instance : Keyed UpdateRolloutNode (Uuid × NodeId) := ⟨fun n => (n.rolloutId, n.nodeId)⟩

structure SignerSource where
  slot : Slot
  sha256 : Digest
  generation : ℕ
  deriving DecidableEq

/-- What a request for `agent.update` says beside what every request says. -/
structure SignerTarget where
  payload : NodePayload
  platformTargetName : TargetName
  (targetReleaseDigest expectedTufTargetSha256 : Digest)
  expectedTufTargetsVersion : ℕ
  deriving DecidableEq

structure SignerRequest where
  action : AgentOperation
  attempt : ℕ := 1
  (claimDeadline expiresAt : ℕ)
  (fence intentId : Uuid)
  nodeId : NodeId
  (operationId parentJobId rolloutId : Uuid)
  source : SignerSource
  adminGrant : AdminGrant
  target : Option SignerTarget := none
  deriving DecidableEq

inductive IntentState
  | reserved
  | signed
  | queued
  | stale
  deriving DecidableEq

/-- The binding of one privileged agent operation; columns that repeat the request are read from it.
-/
structure UpdateAuthorizationIntent where
  id : Uuid
  request : SignerRequest
  requestDigest : Digest
  state : IntentState
  (expiresAt createdAt : Time)
  deriving DecidableEq

instance : Keyed UpdateAuthorizationIntent Uuid := ⟨UpdateAuthorizationIntent.id⟩

structure Database where
  nodes : Table AgentNode := .empty
  certificates : Table AgentCertificate := .empty
  migrations : Table MigrationEnrollment := .empty
  leases : Table NodeMutationLease := .empty
  jobs : Table Job := .empty
  operations : Table StoredOperation := .empty
  attempts : Table AgentOperationAttempt := .empty
  reconciliations : Table Reconciliation := .empty
  projections : Table ReconciliationOperation := .empty
  cancellations : Table ReconciliationCancellation := .empty
  publications : Table RoutePublication := .empty
  publicationOwner : Option RoutePublicationOwner := none
  lastCompletion : ℕ := 0
  rollouts : Table UpdateRollout := .empty
  rolloutNodes : Table UpdateRolloutNode := .empty
  intents : Table UpdateAuthorizationIntent := .empty
  deriving DecidableEq

@[simp] lemma key_lease (r : NodeMutationLease) : Keyed.key r = r.nodeId := rfl
@[simp] lemma key_operation (r : StoredOperation) : Keyed.key r = r.id := rfl
@[simp] lemma key_attempt (r : AgentOperationAttempt) :
    Keyed.key r = (r.operationId, r.attempt) := rfl
@[simp] lemma key_projection (r : ReconciliationOperation) :
    Keyed.key r = (r.reconciliationId, r.graphOperationId, r.role) := rfl
@[simp] lemma key_cancellation (r : ReconciliationCancellation) :
    Keyed.key r = r.reconciliationId := rfl
@[simp] lemma key_publication (r : RoutePublication) : Keyed.key r = r.reconciliationId := rfl
@[simp] lemma key_rolloutNode (r : UpdateRolloutNode) : Keyed.key r = (r.rolloutId, r.nodeId) :=
  rfl

end VonkForge
