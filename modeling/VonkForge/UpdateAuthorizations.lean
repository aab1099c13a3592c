import VonkForge.AgentQueue

/-!
# Update authorizations

`reserve` persists the exact request for the signer, the signer answers outside of any transaction,
and `finalize` queues the operation if nothing it was bound to has changed.
-/

namespace VonkForge.AgentJobs

open OrderDual

def sourceIdentity (node : AgentNode) : SourceIdentity where
  platformVersion := node.runtime.map (·.platformVersion)
  buildDigest := node.runtime.map (·.buildDigest)
  protocolVersion := node.protocolVersion
  activeSlot := node.runtime.map (·.activeSlot)
  agentSha256 := node.runtime.map (·.agentSha256)
  supervisorGeneration := node.runtime.map (·.supervisorGeneration)

/-- The digests of the documents that rollouts bind.  The planned observation is digested in two
encodings, by the orchestrator and for the signer. -/
structure Digests where
  (source signerSource : AgentObservation → Digest)
  request : SignerRequest → Digest
  contact : ContactObservation → Digest

def epoch (t : Time) : ℕ := t / 1000000

section

variable (view : ReserveView) (db : Database) (u : UpdateRollout)

variable (rolloutNode : UpdateRolloutNode) (rolloutId : Uuid) (now : Time) (n : NodeId)
  (i : UpdateAuthorizationIntent) (node : AgentNode) (parent : Job) (op : AgentOperation)
  (payload : Option NodePayload) (release : Option Digest)

/-- `_node_source`: what the plan observed of a node. -/
def plannedSource : Option AgentObservation :=
  u.sources.find? fun s => decide (s.nodeId = n)

structure ReservedUpdateAuthorization where
  intentId : Uuid
  request : SignerRequest
  deriving DecidableEq

structure FreshIds where
  (intentId operationId fence : Uuid)

structure ReserveView where
  now : Time
  /-- The dedicated signer is configured. -/
  signer : Bool := true
  digests : Digests
  fresh : NodeId → FreshIds

def signerSource : Except JobError SignerSource :=
  match node.runtime with
  | some r =>
    if node.state ≠ .active ∨ node.revokedAt.isSome then
      .error (.valueError "agent update source identity is unavailable")
    else .ok ⟨r.activeSlot, r.agentSha256, r.supervisorGeneration⟩
  | none => .error (.valueError "agent update source identity is unavailable")

def plannedSourceHolds (d : Digests) (u : UpdateRollout) (rolloutNode : UpdateRolloutNode)
    (node : AgentNode) : Bool :=
  match plannedSource u node.nodeId with
  | none => false
  | some source =>
    d.signerSource source = rolloutNode.sourceIdentityDigest &&
      sourceIdentity node = source.identity

def leaseHeld : Bool :=
  (db.leases.get? n).any fun lease =>
    lease.ownerKind = .updateRollout && lease.ownerId = rolloutId && lease.state = .held

def authorizationState : Except JobError Unit :=
  if op = .agentUpdate then
    if u.state ≠ .withdrawing ∨ rolloutNode.state ≠ .routesWithdrawn ∨
        release ≠ some u.releaseDigest then
      .error (.valueError "agent update authorization state is stale")
    else .ok ()
  else if u.state ≠ .paused ∨ rolloutNode.state ≠ .failed ∨ payload.isSome ∨ release.isSome ∨
      parent.state ≠ .waitingForOperator then
    .error (.valueError "agent rollback authorization state is stale")
  else .ok ()

def adminGrant : Except JobError AdminGrant :=
  match if op = .agentUpdate then u.updateAdminGrant else u.rollbackAdminGrant with
  | some grant => .ok grant
  | none => .error (.typeError "API-issued update authorization grant is unavailable")

def existingIntent : Option UpdateAuthorizationIntent :=
  db.intents.firstBy (fun i => toDual i.createdAt) fun i =>
    i.request.rolloutId = rolloutId && i.request.nodeId = n && i.request.action = op &&
      i.state ≠ .stale

def intentCurrent : Bool :=
  match i.state with
  | .queued => (db.operations.get? i.request.operationId).any (·.state.unfinished)
  | _ => now < i.expiresAt

def setIntent (id : Uuid) (state : IntentState) : Database :=
  { db with
    intents := db.intents.updateWhere (fun i => decide (i.id = id))
      fun i => { i with state := state } }

def signerRequest (source : SignerSource) (grant : AdminGrant) (op : AgentOperation)
    (payload : Option NodePayload) (release : Option Digest) : SignerRequest :=
  let deadline := epoch (view.now + seconds 600)
  { action := op
    claimDeadline := deadline
    expiresAt := deadline
    fence := (view.fresh n).fence
    intentId := (view.fresh n).intentId
    nodeId := n
    operationId := (view.fresh n).operationId
    parentJobId := parent.id
    rolloutId := u.id
    source := source
    adminGrant := grant
    target :=
      match payload, release with
      | some payload, some release =>
        some ⟨payload, ⟨u.targetPlatformVersion, u.releaseDigest⟩, release, u.releaseDigest,
          u.tufTargetsVersion⟩
      | _, _ => none }

def insertIntent (request : SignerRequest) : Except JobError
    (ReservedUpdateAuthorization × Database) :=
  match db.intents.insert
    { id := request.intentId, request := request, requestDigest := view.digests.request request,
      state := .reserved, expiresAt := view.now + seconds 600, createdAt := view.now } with
  | some intents => .ok (⟨request.intentId, request⟩, { db with intents := intents })
  | none => .error .integrityError

def reserveIntent (request : SignerRequest) : Except JobError
    (ReservedUpdateAuthorization × Database) :=
  match existingIntent db request.rolloutId request.nodeId request.action with
  | none => insertIntent view db request
  | some i =>
    if intentCurrent db view.now i then .ok (⟨i.id, i.request⟩, db)
    else insertIntent view (setIntent db i.id .stale) request

def admitAuthorization : Except JobError SignerRequest := do
  let source ← signerSource node
  if op = .agentUpdate ∧ plannedSourceHolds view.digests u rolloutNode node = false then
    .error (.valueError "planned update source identity changed")
  else if parent.kind ≠ .platformUpdate ∨ parent.baseCommit ≠ u.baseCommit ∨
      rolloutNode.nodeId ∉ parent.targets ∨ leaseHeld db u.id rolloutNode.nodeId = false then
    .error (.valueError "update authorization rollout authority is unavailable")
  else
    let _ ← authorizationState u rolloutNode parent op payload release
    let grant ← adminGrant u op
    .ok (signerRequest view u rolloutNode.nodeId parent source grant op payload release)

def reserveUpdateAuthorization (nodeId : NodeId) (op : AgentOperation)
    (payload : Option NodePayload) (release : Option Digest) : Except JobError
    (ReservedUpdateAuthorization × Database) :=
  if view.signer = false then .error (.runtimeError "dedicated update signer is unavailable")
  else if op.signed = false then
    .error (.valueError "update authorization operation is invalid")
  else
    match db.rollouts.get? rolloutId, db.rolloutNodes.get? (rolloutId, nodeId) with
    | some u, some rolloutNode =>
      match db.nodes.get? rolloutNode.nodeId, u.jobId.bind db.jobs.get? with
      | some node, some parent => do
        let request ← admitAuthorization view db u rolloutNode node parent op payload release
        reserveIntent view db request
      | _, _ => .error (.valueError "update authorization identity is absent")
    | _, _ => .error (.valueError "update authorization rollout binding is absent")

structure SignerResponse where
  intentId : Uuid
  requestDigest : Digest
  signedPayload : Payload

def exactReceipt (payload : Payload) : Bool :=
  payload.receipt.any fun r =>
    r.operationId = i.request.operationId && r.fence = i.request.fence &&
      r.nodeId = i.request.nodeId && r.attempt = 1 &&
      r.claimDeadline = epoch i.expiresAt && r.expiresAt = epoch i.expiresAt &&
      r.sourceSlot = i.request.source.slot && r.sourceSha256 = i.request.source.sha256 &&
      r.sourceGeneration = i.request.source.generation &&
      match i.request.target with
      | some target =>
        r.operatorRollback = false && payload.update = some target.payload &&
          r.platformTarget = some ⟨target.platformTargetName, target.expectedTufTargetSha256,
            target.expectedTufTargetsVersion⟩
      | none => r.operatorRollback

def authorityUnchanged : Bool :=
  match db.rollouts.get? i.request.rolloutId,
      db.rolloutNodes.get? (i.request.rolloutId, i.request.nodeId),
      db.nodes.get? i.request.nodeId, db.jobs.get? i.request.parentJobId with
  | some u, some rolloutNode, some node, some parent =>
    u.jobId = some parent.id && leaseHeld db u.id i.request.nodeId &&
      (node.runtime.any fun r =>
        r.activeSlot = i.request.source.slot && r.agentSha256 = i.request.source.sha256 &&
          r.supervisorGeneration = i.request.source.generation) &&
      (if i.request.action = .agentUpdate then
        u.state = .withdrawing && rolloutNode.state = .routesWithdrawn && parent.state = .running &&
          i.request.target.any fun t => t.targetReleaseDigest = u.releaseDigest
      else
        u.state = .paused && rolloutNode.state = .failed && parent.state = .waitingForOperator)
  | _, _, _, _ => false

def responseExact (reserved : ReservedUpdateAuthorization) (response : SignerResponse) : Bool :=
  (i.state = .reserved || i.state = .signed) && now < i.expiresAt &&
    i.request = reserved.request && response.intentId = i.id &&
    response.requestDigest = i.requestDigest && exactReceipt i response.signedPayload

def finalizeUpdateAuthorization (now : Time) (reserved : ReservedUpdateAuthorization)
    (response : SignerResponse) : Except JobError (Option Uuid × Database) :=
  match db.intents.get? reserved.intentId with
  | none => .error (.valueError "update authorization intent is absent")
  | some i =>
    if i.state = .queued then
      match db.operations.get? i.request.operationId with
      | some operation => .ok (some operation.id, db)
      | none => .error (.valueError "queued update authorization lost its operation")
    else if responseExact now i reserved response = false ∨ authorityUnchanged db i = false then
      .ok (none, setIntent db i.id .stale)
    else
      match db.rollouts.get? i.request.rolloutId with
      | none => .error (.keyError i.request.rolloutId)
      | some u => do
        let queued ← insertOperation db now
          { operationId := i.request.operationId, parentJobId := i.request.parentJobId,
            nodeId := i.request.nodeId, kind := i.request.action, baseCommit := u.baseCommit,
            payload := response.signedPayload }
        .ok (some i.request.operationId, setIntent queued i.id .queued)

def markUpdateAuthorizationsStale (reserved : List ReservedUpdateAuthorization) : Database :=
  { db with
    intents := db.intents.updateWhere
      (fun i => i.id ∈ reserved.map (·.intentId) && (i.state = .reserved || i.state = .signed))
      fun i => { i with state := .stale } }

end

end VonkForge.AgentJobs
