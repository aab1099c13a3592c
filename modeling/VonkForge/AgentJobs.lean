import VonkForge.AgentQueue

/-!
# Claims, heartbeats and results

`AgentJobService`: a claim starts an attempt; heartbeats and results carry its fence.
-/

namespace VonkForge.AgentJobs

structure Call where
  now : Time
  commit : Option CommitView := none

def incompatibleAgent (range : ℕ × ℕ) (node : AgentNode) : Bool :=
  node.state ≠ .active || node.revokedAt.isSome ||
    !(node.protocolVersion.any fun v => range.1 ≤ v && v ≤ range.2) ||
    !(AgentOperation.required.all fun k => Capability.operation k ∈ node.capabilities)

def continuousAuthorityReason (call : Call) (db : Database) (r : Reconciliation) (job : Job)
    (op : StoredOperation) : Option String :=
  match call.commit with
  | none => none
  | some view =>
    match view.eligible r.baseCommit, view.current with
    | some eligible, some current =>
      if eligible = false ∨ current ≠ r.baseCommit then
        some "reconciliation commit is no longer eligible"
      else
        match r.plan with
        | none => some "reconciliation plan authority is unavailable"
        | some plan =>
          let targets := r.targets.nodes.insertionSort (· ≤ ·)
          let nodes := targets.filterMap db.nodes.get?
          if r.targets.nodes ≠ job.targets ∨ op.baseCommit ≠ r.baseCommit then
            some "reconciliation plan authority is invalid"
          else if nodes.map (·.nodeId) ≠ targets then
            some "reconciliation target set is unavailable"
          else if nodes.any (incompatibleAgent plan.protocolRange) then
            some "reconciliation target agent is incompatible"
          else none
    | some false, none => some "reconciliation commit is no longer eligible"
    | _, _ => some "reconciliation commit eligibility is unavailable"

def expectedPhase : ProjectionRole → ReconciliationPhase
  | .compensation => .compensating
  | .primary => .dispatching

section

variable (db : Database) (now : Time) (op : StoredOperation)

def projectionOf (op : Uuid) : Option ReconciliationOperation :=
  db.projections.rows.find? fun p => decide (p.agentOperationId = some op)

def rolloutAuthority (job : Job) (op : StoredOperation) : Bool :=
  if job.kind ≠ .platformUpdate ∨ op.currentAttempt ≠ 0 then false
  else
    match db.rollouts.rows.find? fun u => decide (u.jobId = some job.id) with
    | none => false
    | some rollout =>
      let held := (db.leases.get? op.nodeId).any fun lease =>
        lease.ownerKind = .updateRollout && lease.ownerId = rollout.id && lease.state = .held
      let node := db.rolloutNodes.get? (rollout.id, op.nodeId)
      if op.kind = .agentUpdate then
        job.state = .running && rollout.state = .updating && held &&
          node.any fun n => n.state = .updating && n.operationId = some op.id
      else
        job.state = .running && rollout.state = .rollingBack && held &&
          node.any fun n => n.state = .rollingBack && n.rollbackOperationId = some op.id

def retryRequested : Bool :=
  op.retryDisposition = some .retry && op.retryDispositionAttempt = some op.currentAttempt

def loseReconciliation (id jobId : Uuid) (reason : String) : Except JobError Database := do
  let db' ← quiesceReconciliationOperations db id now
  .ok (setJob (setReconciliation db' id .waitingForOperator .failed (some reason))
    jobId .waitingForOperator (some reason) now)

def claimHasAuthority (call : Call) (db : Database) (op : StoredOperation) :
    Except JobError (Bool × Database) :=
  match db.jobs.get? op.parentJobId with
  | none => .error (.valueError "agent operation lacks its parent job")
  | some job =>
    match job.reconciliationId with
    | none =>
      if op.kind = .agentUpdate ∧ job.kind ≠ .platformUpdate then
        .ok (!terminalParent job.state, db)
      else if op.kind.signed then .ok (rolloutAuthority db job op, db)
      else if job.state = .waitingForOperator ∧ op.state = .waitingForOperator ∧
          retryRequested op then
        .ok (true, setJob db job.id .queued none call.now)
      else .ok (!terminalParent job.state, db)
    | some id =>
      match db.reconciliations.get? id,
          db.projections.rows.find? fun p =>
            decide (p.reconciliationId = id ∧ p.agentOperationId = some op.id) with
      | some r, some projection =>
        if job.state = .running ∧ r.status = .running ∧
            r.currentPhase = expectedPhase projection.role ∧
            (projection.state = .queued ∨ projection.state = .running) ∧
            continuousAuthorityReason call db r job op = none then
          .ok (true, db)
        else do
          let db' ← loseReconciliation db call.now id job.id
            "reconciliation execution authority is no longer eligible"
          .ok (false, db')
      | _, _ => .error (.valueError "agent operation lacks reconciliation authority")

def lockReconciliationTargets (op : Uuid) : Except JobError Unit :=
  match (db.operations.get? op).bind fun o => db.jobs.get? o.parentJobId with
  | none => .ok ()
  | some job =>
    let targets := job.targets.insertionSort (· ≤ ·)
    if job.reconciliationId.isNone then .ok ()
    else if job.targets = [] ∨ ¬ job.targets.Nodup then
      .error (.valueError "reconciliation parent targets are invalid")
    else if (targets.filterMap db.nodes.get?).map (·.nodeId) ≠ targets then
      .error (.staleAttempt "agent operation lease, certificate, or fence is stale")
    else .ok ()

structure ClaimRequest where
  nodeId : NodeId
  certificateSerial : Serial
  leaseSeconds : ℕ
  protocolVersion : Option ℕ := none
  capabilities : Option (List Capability) := none
  runtimeIdentity : Option RuntimeIdentity := none
  agentImplementation : Option AgentImplementation := none
  source : Option AgentSource := none

structure AgentClaim where
  (jobId operationId : Uuid)
  attempt : ℕ
  fence : Uuid
  nodeId : NodeId
  operation : AgentOperation
  baseCommit : Commit
  payloadDigest : Digest
  deadline : Time

def expiredAttempt : Bool :=
  (db.attempts.get? (op.id, op.currentAttempt)).any fun a =>
    a.state = .running && a.leaseDeadline ≤ now

def eligible : Bool :=
  (op.state = .queued && op.currentAttempt = 0) ||
  (op.state = .running && expiredAttempt db now op) ||
  (op.state = .waitingForOperator && retryRequested op)

/-- `ORDER BY created_at, id`. -/
def queueOrder : Time ×ₗ Uuid := toLex (op.createdAt, op.id)

def parkOperation (id : Uuid) : Database :=
  setOperation db id fun o =>
    { o with
      state := .waitingForOperator
      retryDisposition := none
      retryDispositionAttempt := none
      updatedAt := now }

/-- Signed operations that lost their authority are parked and skipped. Each round excludes one more
row, so as many rounds as rows find every eligible one. -/
def selectOperation (call : Call) (nodeId : NodeId) :
    ℕ → List Uuid → Database → Except JobError (Option StoredOperation × Database)
  | 0, _, db => .ok (none, db)
  | rounds + 1, excluded, db =>
    match db.operations.firstBy queueOrder fun o =>
        o.nodeId = nodeId && !(o.id ∈ excluded) && eligible db call.now o with
    | none => .ok (none, db)
    | some op => do
      let (authority, db') ← claimHasAuthority call db op
      if authority then .ok (some op, db')
      else if op.kind.signed then
        selectOperation call nodeId rounds (excluded ++ [op.id]) (parkOperation db' call.now op.id)
      else .ok (none, db')

def projectUnsafeExpiry : Except JobError (Bool × Database) :=
  match projectionOf db op.id with
  | none => .ok (false, db)
  | some hint =>
    match db.reconciliations.get? hint.reconciliationId, db.jobs.get? op.parentJobId with
    | some _, some job =>
      if job.reconciliationId ≠ some hint.reconciliationId then
        .error (.valueError "unsafe agent expiry lacks reconciliation authority")
      else do
        let db' ← loseReconciliation (setProjection db hint .waitingForOperator) now
          hint.reconciliationId job.id
          "mutating agent operation lease expired with uncertain outcome"
        .ok (true, db')
    | _, _ => .error (.valueError "unsafe agent expiry lacks reconciliation authority")

def sourceBinding (receipt : UpdateReceipt) (node : AgentNode) : Bool :=
  (op.kind = .agentUpdate || receipt.operatorRollback) &&
    node.runtime.any fun identity =>
      receipt.sourceSlot = identity.activeSlot && receipt.sourceSha256 = identity.agentSha256 &&
        receipt.sourceGeneration = identity.supervisorGeneration

/-- The first instant that `datetime.fromtimestamp` does not represent, in seconds. -/
def maximumTimestamp : ℕ := 253402300800

def updateClaimBinding (node : AgentNode) (now : Time) : Option (Uuid × Time) :=
  if op.kind.signed = false then none
  else
    match op.payload.receipt with
    | none => none
    | some receipt =>
      let deadline := seconds receipt.claimDeadline
      if op.currentAttempt = 0 ∧ isVersion4 receipt.fence ∧ receipt.operationId = op.id ∧
          receipt.attempt = 1 ∧ receipt.nodeId = node.nodeId ∧
          receipt.expiresAt = receipt.claimDeadline ∧
          receipt.claimDeadline < maximumTimestamp ∧ now + seconds 30 < deadline ∧
          sourceBinding op receipt node ∧ op.payloadDigest = op.payload.canonicalDigest then
        some (receipt.fence, deadline)
      else none

def activeMutation : Bool :=
  db.operations.rows.any fun o =>
    o.nodeId = op.nodeId && o.id ≠ op.id && o.kind.mutating && o.state = .running

def expirePrevious : Database :=
  if op.currentAttempt = 0 then db
  else setAttempt db op.id op.currentAttempt fun a => { a with state := .expired }

def insertAttempt (attempt : AgentOperationAttempt) : Except JobError Database :=
  if db.attempts.rows.any (·.fence = attempt.fence) then .error .integrityError
  else
    match db.attempts.insert attempt with
    | some attempts => .ok { db with attempts := attempts }
    | none => .error .integrityError

def startedOperation (attempt : ℕ) (now : Time) (o : StoredOperation) : StoredOperation :=
  { o with currentAttempt := attempt, state := .running, updatedAt := now }

def startAttempt (serial : Serial) (fence : Uuid) (deadline : Time) : Except JobError
    (Option AgentClaim × Database) := do
  let attempt := op.currentAttempt + 1
  let db' ← insertAttempt (setOperation db op.id (startedOperation attempt now))
    ⟨op.id, attempt, fence, deadline, serial, .running, none⟩
  .ok (some ⟨op.parentJobId, op.id, attempt, fence, op.nodeId, op.kind, op.baseCommit,
    op.payloadDigest, deadline⟩, db')

def quarantine : Except JobError (Option AgentClaim × Database) := do
  let (projected, db') ← projectUnsafeExpiry (parkOperation db now op.id) now op
  if projected then .ok (none, db')
  else do
    let db'' ← aggregateParent db' now op.parentJobId
    .ok (none, db'')

def advertisesOperation (req : ClaimRequest) (kind : AgentOperation) : Bool :=
  req.capabilities.all (Capability.operation kind ∈ ·) &&
    (!kind.packageOrRecipe || (req.protocolVersion.any (2 ≤ ·) && req.capabilities.isSome))

def claimSelected (call : Call) (req : ClaimRequest) (fence : Uuid) (node : AgentNode)
    (db : Database) (op : StoredOperation) : Except JobError (Option AgentClaim × Database) :=
  if advertisesOperation req op.kind = false then .ok (none, db)
  else if op.kind.mutating ∧ activeMutation db op then .ok (none, db)
  else
    let closed := expirePrevious db op
    if op.state = .running ∧ op.kind.safeAutomaticReclaim = false then
      quarantine closed call.now op
    else
      match updateClaimBinding op node call.now with
      | some (fence, deadline) =>
        startAttempt closed call.now op req.certificateSerial fence deadline
      | none =>
        if op.kind.signed then do
          let db' ← aggregateParent (parkOperation closed call.now op.id) call.now op.parentJobId
          .ok (none, db')
        else
          startAttempt closed call.now op req.certificateSerial fence
            (call.now + seconds req.leaseSeconds)

def reconciliationHint (nodeId : NodeId) : Option StoredOperation :=
  db.operations.firstBy queueOrder fun o =>
    o.nodeId = nodeId &&
      (o.state = .queued || o.state = .running || o.state = .waitingForOperator) &&
      (db.jobs.get? o.parentJobId).any (·.reconciliationId.isSome)

def lockReconciliationHint (nodeId : NodeId) : Except JobError Unit :=
  match reconciliationHint db nodeId with
  | some hint => lockReconciliationTargets db hint.id
  | none => .ok ()

end

def claimOnce (cfg : Config) (call : Call) (req : ClaimRequest) (fence : Uuid) (db : Database) :
    Except JobError (Option AgentClaim × Database) := do
  lockReconciliationHint db req.nodeId
  match lockIdentity db req.nodeId req.certificateSerial with
  | none => .ok (none, db)
  | some (node, certificate) =>
    if identityIsActive node certificate call.now = false then .ok (none, db)
    else do
      let negotiated ← negotiateImplementation db call.now node certificate
        req.agentImplementation req.protocolVersion req.capabilities
      consumeContact cfg req.source node certificate
      let contacted := recordContact cfg negotiated req.nodeId certificate call.now
        req.protocolVersion req.capabilities req.runtimeIdentity
      let (selected, db') ← selectOperation call req.nodeId contacted.operations.rows.length []
        contacted
      match selected, contacted.nodes.get? req.nodeId with
      | some op, some node => claimSelected call req fence node db' op
      | _, _ => .ok (none, db')

/-- `claim`, one poll of it: the request is checked before any row is locked. -/
def claim (cfg : Config) (call : Call) (req : ClaimRequest) (fence : Uuid) (db : Database) :
    Except JobError (Option AgentClaim × Database) :=
  if req.leaseSeconds = 0 ∨ req.protocolVersion.any (fun v => v = 0 || 2147483647 < v) then
    .error (.valueError "node, certificate, and positive lease are required")
  else if req.capabilities.any (fun l => l = [] || !l.Nodup) then
    .error (.valueError "agent capabilities are invalid")
  else if req.agentImplementation = some .pending then
    .error (.valueError "agent implementation is invalid")
  else claimOnce cfg call req fence db

end VonkForge.AgentJobs
