import VonkForge.UpdateAuthorizations
import VonkForge.ReconciliationResults

/-!
# Platform-update rollouts

What `UpdateOrchestrator` reads and writes in one transaction.
-/

namespace VonkForge.Updates

open AgentJobs NodeLeases

/-- What a transaction of the orchestrator reads outside the database. -/
structure RolloutView extends ReserveView where
  fence : Uuid := 0
  /-- The latest health observation is fresh and good, and the workload is accepted on the node. -/
  workloadHealthy : NodeId → ℕ → Bool := fun _ _ => true

section

variable (view : RolloutView) (db : Database) (u : UpdateRollout) (nodes : List UpdateRolloutNode)

variable (id : Uuid) (d : Digests) (op : StoredOperation) (node : AgentNode) (reason : String)
  (now : Time) (n : UpdateRolloutNode) (p : UpdateRolloutNode × StoredOperation)

def rolloutOf : Except JobError UpdateRollout :=
  match db.rollouts.get? id with
  | some u => .ok u
  | none => .error (.keyError id)

lemma eq_of_rolloutOf {db : Database} {id : Uuid} {u v : UpdateRollout}
    (hu : db.rollouts.get? id = some u) (h : rolloutOf db id = .ok v) : u = v := by
  unfold rolloutOf at h
  rw [hu] at h
  exact Except.ok.inj h

def nodePayload (n : NodeId) : Option NodePayload :=
  (u.payloads.find? fun p => decide (p.1 = n)).map (·.2)

def inBatch : Bool :=
  n.rolloutId = u.id && n.batchIndex = u.currentBatch

def batchRows : List UpdateRolloutNode :=
  (db.rolloutNodes.select (inBatch u)).insertionSort fun a b => a.nodeOrder ≤ b.nodeOrder

def nodeBound (u : UpdateRollout) (n : UpdateRolloutNode) : Bool :=
  ((plannedSource u n.nodeId).any fun s => n.sourceIdentityDigest = d.source s) &&
    (nodePayload u n.nodeId).any fun p => n.targetArtifactDigest = p.payloadSha256

def batchNodes (db : Database) (u : UpdateRollout) : Except JobError (List UpdateRolloutNode) :=
  let nodes := batchRows db u
  if nodes = [] then .error (.valueError "update rollout batch is empty")
  else if u.batches[u.currentBatch]?.map (·.nodes) ≠ some (nodes.map (·.nodeId)) then
    .error (.valueError "persisted update batch binding disagrees")
  else if nodes.all (nodeBound d u) = false then
    .error (.valueError "persisted update node binding disagrees")
  else .ok nodes

def operationOf : Option Uuid → Except JobError StoredOperation
  | none => .error (.valueError "update rollout operation binding is absent")
  | some id =>
    match db.operations.get? id with
    | some op => .ok op
    | none => .error (.keyError id)

def operationReason : String :=
  match ((db.attempts.get? (op.id, op.currentAttempt)).bind (·.result)).bind (·.reason) with
  | some reason =>
    if reason = "" then "agent update failed" else String.ofList (reason.toList.take 1024)
  | none => "agent update failed"

def setRollout (f : UpdateRollout → UpdateRollout) (hf : ∀ u, (f u).id = u.id := by intro _; rfl) :
    Database :=
  { db with rollouts := db.rollouts.updateWhere (fun u => decide (u.id = id)) f hf }

def setNodes (f : UpdateRolloutNode → UpdateRolloutNode)
    (hf : ∀ n, Keyed.key (f n) = Keyed.key n := by intro _; rfl) : Database :=
  { db with
    rolloutNodes := db.rolloutNodes.updateWhere
      (fun n => decide (Keyed.key n ∈ nodes.map Keyed.key)) f hf }

def projectJob (state : JobState) (reason : Option String) (now : Time) : Except JobError
    Database :=
  match u.jobId.bind db.jobs.get? with
  | none => .error (.valueError "update rollout job binding is absent")
  | some job => .ok (setJob db job.id state reason now)

def updateCapable : Bool :=
  Capability.operation .agentRollback ∈ node.capabilities &&
    Capability.operation .agentUpdate ∈ node.capabilities

def agentIsCurrent (running : AgentNode) (now : Time) : Bool :=
  running.state = .active && updateCapable running &&
    running.lastSeenAt.any fun seen => now ≤ seen + seconds 300

def authenticatedContactIsCurrent (db : Database) (node : AgentNode) (now : Time) : Bool :=
  match node.contactCertificateSerial.bind db.certificates.get?, node.lastSeenAt,
      node.runtime with
  | some c, some observedAt, some identity =>
    c.nodeId = node.nodeId && c.state = .active && c.revokedAt.isNone && c.caRevokedAt.isNone &&
      c.notBefore ≤ now && now ≤ c.notAfter &&
      node.contactObservationDigest =
        some (d.contact ⟨c.fingerprint, c.serial, node.nodeId, observedAt, identity⟩)
  | _, _, _ => false

def selfTested : Bool :=
  node.runtime.any fun r => r.selfTestPassed && r.ready

def sameSource (a b : SourceIdentity) : Bool :=
  a.platformVersion = b.platformVersion && a.buildDigest = b.buildDigest &&
    a.protocolVersion = b.protocolVersion && a.activeSlot = b.activeSlot &&
    a.agentSha256 = b.agentSha256

def generationGrew (running planned : SourceIdentity) : Bool :=
  match running.supervisorGeneration, planned.supervisorGeneration with
  | some g, some p => p < g
  | _, _ => false

def contactedSince (running : AgentNode) (op : Option Uuid) : Bool :=
  (op.bind db.operations.get?).all fun o => running.lastSeenAt.any fun seen => o.updatedAt ≤ seen

def sourceIsRunning (db : Database) (u : UpdateRollout) (n : UpdateRolloutNode) (now : Time) :
    Bool :=
  match plannedSource u n.nodeId, db.nodes.get? n.nodeId with
  | some source, some running =>
    agentIsCurrent running now && generationGrew (sourceIdentity running) source.identity &&
      selfTested running && authenticatedContactIsCurrent d db running now &&
      sameSource (sourceIdentity running) source.identity &&
      contactedSince db running (n.rollbackOperationId <|> n.operationId)
  | _, _ => false

/-- `_source_is_unchanged`: the planned source never went away. -/
def sourceIsUnchanged (now : Time) (requirePostOperationContact : Bool) : Bool :=
  match plannedSource u n.nodeId, db.nodes.get? n.nodeId with
  | some source, some running =>
    agentIsCurrent running now && sourceIdentity running = source.identity &&
      (!requirePostOperationContact || contactedSince db running n.operationId)
  | _, _ => false

def targetIdentity (running planned : SourceIdentity) : Bool :=
  running.platformVersion = some u.targetPlatformVersion &&
    running.buildDigest = some u.targetBuildDigest &&
    (running.protocolVersion.any fun v => u.protocolRange.1 ≤ v && v ≤ u.protocolRange.2) &&
    (match running.activeSlot, planned.activeSlot with
      | some slot, some source => decide (slot ≠ source)
      | _, _ => false) &&
    running.agentSha256 = some n.targetArtifactDigest && generationGrew running planned

def targetIsRunning (db : Database) (u : UpdateRollout) (now : Time) (n : UpdateRolloutNode) :
    Except JobError Bool :=
  match db.nodes.get? n.nodeId with
  | none => .error (.keyError n.nodeId)
  | some running => do
    let op ← operationOf db n.operationId
    .ok ((plannedSource u n.nodeId).any fun source =>
      agentIsCurrent running now &&
        targetIdentity u n (sourceIdentity running) source.identity && selfTested running &&
        authenticatedContactIsCurrent d db running now &&
        running.lastSeenAt.any fun seen => op.updatedAt ≤ seen)

def mutationIsRunning : Bool :=
  db.operations.rows.any fun o =>
    o.nodeId ∈ nodes.map (·.nodeId) && o.state = .running &&
      o.kind ∈ [AgentOperation.agentRollback, .agentUpdate, .releaseInstall, .workloadPrepare,
        .workloadStart, .workloadStop]

def memberAvailable (w : DistributedWorkload) (n : NodeId) : Bool :=
  ((db.nodes.get? n).any fun running => agentIsCurrent running view.now) &&
    (!w.replicated || view.workloadHealthy n w.workloadId) &&
    (db.leases.get? n).all fun lease =>
      lease.ownerKind = .updateRollout && lease.ownerId = u.id

def quorumHolds (w : DistributedWorkload) : Bool :=
  w.minimumAvailable ≤ ((w.members.filter fun n => n ∉ nodes.map (·.nodeId)).filter
    (memberAvailable view db u w)).length

def sourceReady (db : Database) (u : UpdateRollout) (now : Time) (n : UpdateRolloutNode) : Bool :=
  ((db.nodes.get? n.nodeId).any fun running => agentIsCurrent running now) &&
    (sourceIsUnchanged db u n now false || sourceIsRunning d db u n now)

def executionBlockReason : Option String :=
  if nodes.all (sourceReady view.digests db u view.now) = false then
    some "planned source identity changed"
  else if u.workloads.all (quorumHolds view db u nodes) = false then
    some "distributed workload quorum changed"
  else none

def publicationBlockReason (state : RolloutState) : Except JobError (Option String) :=
  match state with
  | .publishing => do
    let running ← nodes.allM (targetIsRunning view.digests db u view.now)
    .ok (if running then none else some "target identity lost during route publication")
  | .rollbackPublishing =>
    .ok (if nodes.all fun n => sourceIsRunning view.digests db u n view.now then none
      else some "source identity lost during route publication")
  | .failurePublishing =>
    .ok (if nodes.all fun n => sourceIsUnchanged db u n view.now true then none
      else some "source identity lost during route publication")
  | _ => .ok none

def uncertainReason : String := "batch peer update state uncertain"

def rollbackCandidates (db : Database) (u : UpdateRollout) (nodes : List UpdateRolloutNode)
    (now : Time) : List UpdateRolloutNode :=
  nodes.filter fun n =>
    n.state = .failed &&
      (n.failureReason = some uncertainReason || !sourceIsUnchanged db u n now false) &&
      !sourceIsRunning d db u n now

def pauseRollout : Except JobError Database :=
  projectJob (setRollout db u.id fun r => { r with state := .paused, failureReason := some reason })
    u .waitingForOperator (some reason) now

def failNodes : Database :=
  setNodes db nodes fun n => { n with state := .failed, failureReason := some reason }

def pauseForIdentityLoss : Except JobError Database :=
  pauseRollout (failNodes db nodes reason) u reason now

def advancePlanned : Except JobError Database :=
  match executionBlockReason view db u nodes with
  | some reason => pauseRollout db u reason view.now
  | none =>
    if mutationIsRunning db nodes then
      pauseRollout db u "node mutation overlap blocks platform update" view.now
    else
      match acquireInSession db view.now view.fence (nodes.map (·.nodeId)) .updateRollout u.id with
      | .ok (_, db') => .ok (setRollout db' u.id fun r => { r with state := .withdrawing })
      | .error (.conflict _) =>
        pauseRollout db u "node mutation lease blocks platform update" view.now
      | .error _ => .error (.valueError "node lease targets are invalid")

def expireOverdue (db : Database) (p : UpdateRolloutNode × StoredOperation) : Database :=
  if p.2.state.unfinished && p.1.dispatchAt.any fun t => t + seconds 600 ≤ now then
    expireOperation db now p.2
  else db

def operationFailed : Bool :=
  op.state = .failed || op.state = .waitingForOperator

def closeOperation (op : StoredOperation) : Database :=
  match op.state with
  | .queued => setOperation db op.id fun o => { o with state := .failed }
  | .running =>
    setOperation (expireActiveAttempt db now op) op.id fun o =>
      { o with state := .waitingForOperator }
  | _ => db

/-- Why a peer fails: its operation was running, done or uncertain, or it has the batch's reason. -/
def peerReason : String :=
  match op.state with
  | .running | .succeeded | .waitingForOperator => uncertainReason
  | _ => reason

def failPeer (reason : String) (db : Database) (p : UpdateRolloutNode × StoredOperation) :
    Database :=
  failNodes (closeOperation db now p.2) [p.1] (peerReason p.2 reason)

/-- One operation of the batch failed.  The routes are published again at once when no agent can
have changed; otherwise the rollout pauses. -/
def failBatch (batch : List (UpdateRolloutNode × StoredOperation)) (failed : StoredOperation) :
    Except JobError Database :=
  let reason := operationReason db failed
  let db' := batch.foldl (failPeer view.now reason) db
  let unchanged := batch.all fun p =>
    (p.2.state = .failed || p.2.state = .queued) && sourceIsUnchanged db' u p.1 view.now true
  let next := if unchanged then RolloutState.failurePublishing else .paused
  projectJob (setRollout db' u.id fun r => { r with state := next, failureReason := some reason })
    u .waitingForOperator (some reason) view.now

def reconnectDeadline : Time := op.updatedAt + seconds 180

def setDeadline : Database :=
  setNodes db [p.1] fun n => { n with activationDeadline := some (reconnectDeadline p.2) }

def mixedActivation (sources : List UpdateRolloutNode) : Except JobError Database :=
  pauseRollout
    (setNodes
      (failNodes db (nodes.filter fun n => n.nodeId ∉ sources.map (·.nodeId)) uncertainReason)
      sources fun n => { n with state := .rolledBack })
    u "mixed agent activation outcome" view.now

def settleActivation (batch : List (UpdateRolloutNode × StoredOperation)) : Except JobError
    Database := do
  let nodes := batch.map (·.1)
  let db' := batch.foldl setDeadline db
  let targets ← nodes.filterM (targetIsRunning view.digests db' u view.now)
  let sources := nodes.filter fun n => sourceIsRunning view.digests db' u n view.now
  if targets.length = nodes.length then
    .ok (setRollout (setNodes db' nodes fun n => { n with state := .soaking }) u.id fun r =>
      { r with state := .soaking, soakUntil := some (view.now + seconds u.soakSeconds) })
  else if sources.length = nodes.length then
    .ok (setRollout (setNodes db' nodes fun n => { n with state := .rollingBack }) u.id fun r =>
      { r with state := .rollbackPublishing })
  else if sources ≠ [] then mixedActivation view db' u nodes sources
  else if batch.any fun p => reconnectDeadline p.2 ≤ view.now then
    pauseForIdentityLoss db' u nodes "agent activation reconnect timed out" view.now
  else .ok db'

def advanceUpdating : Except JobError Database := do
  let operations ← nodes.mapM fun n => operationOf db n.operationId
  let db' := (nodes.zip operations).foldl (expireOverdue view.now) db
  let operations' ← nodes.mapM fun n => operationOf db' n.operationId
  match operations'.find? operationFailed with
  | some failed => failBatch view db' u (nodes.zip operations') failed
  | none =>
    if operations'.all fun op => op.state = .succeeded then
      settleActivation view db' u (nodes.zip operations')
    else .ok db'

def advanceSoaking : Except JobError Database :=
  match u.soakUntil with
  | none => .error (.valueError "update rollout soak deadline is absent")
  | some soakUntil =>
    if view.now < soakUntil then .ok db
    else do
      let running ← nodes.allM (targetIsRunning view.digests db u view.now)
      if running then .ok (setRollout db u.id fun r => { r with state := .publishing })
      else pauseForIdentityLoss db u nodes "target identity lost during soak" view.now

def advanceRollingBack : Except JobError Database := do
  let rolling := nodes.filter fun n => n.state = .rollingBack
  let operations ← rolling.mapM fun n => operationOf db n.rollbackOperationId
  if operations.any operationFailed then
    pauseForIdentityLoss db u nodes "agent rollback failed" view.now
  else if operations ≠ [] ∧ (operations.all fun op => op.state = .succeeded) = true ∧
      (rolling.all fun n => sourceIsRunning view.digests db u n view.now) = true then
    .ok (setRollout db u.id fun r => { r with state := .rollbackPublishing })
  else if rolling.any fun n => n.activationDeadline.any fun t => t ≤ view.now then
    pauseForIdentityLoss db u nodes "agent rollback reconnect timed out" view.now
  else .ok db

def pauseEnds : Bool :=
  u.failureReason = some "node mutation overlap blocks platform update" ||
    (u.failureReason = some "node mutation lease blocks platform update" &&
      nodes.all fun n => (db.leases.get? n.nodeId).isNone) ||
    ((u.failureReason = some "distributed workload quorum changed" ||
        u.failureReason = some "planned source identity changed") &&
      executionBlockReason view db u nodes = none)

def advancePaused : Except JobError Database :=
  if mutationIsRunning db nodes = false ∧ pauseEnds view db u nodes = true then
    projectJob (setRollout db u.id fun r => { r with state := .planned, failureReason := none })
      u .running none view.now
  else .ok db

/-- The transaction of `_advance_locked`, in the states without a call of the route boundary. -/
def advanceInSession : Except JobError Database := do
  let u ← rolloutOf db id
  let nodes ← batchNodes view.digests db u
  match u.state with
  | .planned => advancePlanned view db u nodes
  | .updating => advanceUpdating view db u nodes
  | .soaking => advanceSoaking view db u nodes
  | .rollingBack => advanceRollingBack view db u nodes
  | .paused => advancePaused view db u nodes
  | _ => .ok db

end

end VonkForge.Updates
