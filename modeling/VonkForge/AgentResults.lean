import VonkForge.AgentJobs

/-!
# Heartbeats and results

A message is accepted from the attempt that its fence names, while its lease lasts.
-/

namespace VonkForge.AgentJobs

inductive ResultState
  | succeeded
  | failed
  | waitingForOperator
  deriving DecidableEq

def ResultState.operation : ResultState → OperationState
  | succeeded => .succeeded
  | failed => .failed
  | waitingForOperator => .waitingForOperator

def ResultState.attempt : ResultState → AttemptState
  | succeeded => .succeeded
  | failed => .failed
  | waitingForOperator => .waitingForOperator

structure AgentResult where
  (jobId operationId : Uuid)
  attempt : ℕ
  fence : Uuid
  nodeId : NodeId
  deadline : Time
  state : ResultState
  result : ResultDocument
  deriving DecidableEq

inductive AgentFence
  | bare (token : Uuid)
  | message (jobId operationId : Uuid) (nodeId : NodeId) (attempt : ℕ) (token : Uuid)
  | result (r : AgentResult)

def AgentFence.token : AgentFence → Uuid
  | bare token => token
  | message _ _ _ _ token => token
  | result r => r.fence

/-- The identifiers that a message carries agree with the operation; a bare fence carries none. -/
def AgentFence.agrees (op : StoredOperation) : AgentFence → Bool
  | bare _ => true
  | message jobId operationId nodeId attempt _ =>
    op.parentJobId = jobId && op.id = operationId && op.nodeId = nodeId &&
      op.currentAttempt = attempt
  | result r =>
    op.parentJobId = r.jobId && op.id = r.operationId && op.nodeId = r.nodeId &&
      op.currentAttempt = r.attempt

def stale : JobError := .staleAttempt "agent operation lease, certificate, or fence is stale"

variable (cfg : Config) (op : StoredOperation) (call : Call) (later : Time) (db : Database)
  (attempt : AgentOperationAttempt) (fence : AgentFence) (state : ResultState)
  (result : Option ResultDocument) (source : Option AgentSource)

def requireActiveReconciliationAuthority (op : StoredOperation) : Except JobError Unit :=
  match db.jobs.get? op.parentJobId with
  | none => .error stale
  | some job =>
    match job.reconciliationId with
    | none => .ok ()
    | some id =>
      match db.reconciliations.get? id,
          db.projections.rows.find? fun p =>
            decide (p.reconciliationId = id ∧ p.agentOperationId = some op.id) with
      | some r, some projection =>
        if job.state = .running ∧ r.status = .running ∧
            r.currentPhase = expectedPhase projection.role ∧
            (projection.state = .queued ∨ projection.state = .running) then .ok ()
        else .error stale
      | _, _ => .error stale

def active : Except JobError (StoredOperation × AgentOperationAttempt × Database) :=
  match db.attempts.rows.find? fun a => decide (a.fence = fence.token) with
  | none => .error stale
  | some attempt =>
    match db.operations.get? attempt.operationId with
    | none => .error stale
    | some op => do
      lockReconciliationTargets db op.id
      match lockIdentity db op.nodeId attempt.agentCertificateSerial with
      | none => .error stale
      | some (node, certificate) =>
        if identityIsActive node certificate call.now = false then .error stale
        else do
          consumeContact cfg source node certificate
          requireActiveReconciliationAuthority db op
          if fence.agrees op = false ∨ attempt.state ≠ .running ∨
              attempt.leaseDeadline ≤ call.now then .error stale
          else .ok (op, attempt,
            recordContact cfg db node.nodeId certificate call.now none none none)

def heartbeatDeadline (op : StoredOperation) (attempt : AgentOperationAttempt) (leaseSeconds : ℕ) :
    Except JobError Time :=
  let deadline := max attempt.leaseDeadline (later + seconds leaseSeconds)
  if op.kind.signed = false then .ok deadline
  else
    match op.payload.receipt with
    | none => .error (.staleAttempt "signed update lease deadline is unavailable")
    | some receipt =>
      if receipt.expiresAt ≠ receipt.claimDeadline then
        .error (.staleAttempt "signed update lease deadline is unavailable")
      else if seconds receipt.claimDeadline < attempt.leaseDeadline then
        .error (.staleAttempt "signed update lease deadline has been exceeded")
      else .ok (min deadline (seconds receipt.claimDeadline))

/-- `heartbeat`; `later` is the clock read after the attempt was found active. -/
def heartbeat (leaseSeconds : ℕ) (source : Option AgentSource) :
    Except JobError (AgentOperationAttempt × Database) :=
  if leaseSeconds = 0 then .error (.valueError "lease must be positive")
  else do
    let (op, attempt, db') ← active cfg call db fence source
    let deadline ← heartbeatDeadline later op attempt leaseSeconds
    .ok (attempt, setOperation
      (setAttempt db' op.id attempt.attempt fun a => { a with leaseDeadline := deadline })
      op.id fun o => { o with updatedAt := later })

abbrev ResultConsumer :=
  Database → StoredOperation → AgentOperationAttempt → AgentResult → Except JobError Database

def completionMessage (reason : String) : Except JobError AgentResult :=
  match fence with
  | .result r =>
    if r.state ≠ state ∨ result.any (fun d => d ≠ r.result) then
      .error (.valueError "agent result does not match requested completion")
    else .ok r
  | _ =>
    match result with
    | some document => .ok ⟨op.parentJobId, op.id, attempt.attempt, attempt.fence, op.nodeId,
        attempt.leaseDeadline, state, document⟩
    | none =>
      if reason.all Char.isWhitespace then .error (.valueError "failure reason is required")
      else .ok ⟨op.parentJobId, op.id, attempt.attempt, attempt.fence, op.nodeId,
        attempt.leaseDeadline, state, { reason := some reason }⟩

def checkProbe (message : AgentResult) : Except JobError Unit :=
  if result.isSome ∧ state = .succeeded ∧ op.kind = .nodeProbe then
    match message.result.probeHealth with
    | none => .error (.valueError "successful node probe result is invalid")
    | some processes =>
      if op.payload.requiresIdleGpu ∧ processes ≠ some 0 then
        .error (.valueError "node probe compute gate is unsatisfied")
      else .ok ()
  else .ok ()

def closeAttempt (now : Time) (op : StoredOperation) (attempt : AgentOperationAttempt)
    (state : ResultState) (result : ResultDocument) : Database :=
  setOperation
    (setAttempt db op.id attempt.attempt fun a =>
      { a with state := state.attempt, result := some result })
    op.id fun o => { o with state := state.operation, updatedAt := now }

def handToConsumer (consumer : ResultConsumer) (db : Database) (op : StoredOperation)
    (attempt : AgentOperationAttempt) (message : AgentResult) : Except JobError Database :=
  if (db.jobs.get? op.parentJobId).any (·.kind = .packageValidation) then .ok db
  else consumer db op attempt message

def finish (consumer : ResultConsumer) (call : Call) (later : Time) (db : Database)
    (fence : AgentFence) (state : ResultState) (result : Option ResultDocument) (reason : String)
    (source : Option AgentSource) : Except JobError (AgentOperationAttempt × Database) := do
  let (op, attempt, db₁) ← active cfg call db fence source
  let message ← completionMessage op attempt fence state result reason
  checkProbe op state result message
  let closed := closeAttempt db₁ later op attempt state message.result
  let op' := { op with state := state.operation, updatedAt := later }
  let attempt' := { attempt with state := state.attempt, result := some message.result }
  let consumed ← handToConsumer consumer closed op' attempt' message
  let aggregated ← aggregateParent consumed later op.parentJobId
  .ok (attempt, aggregated)

end VonkForge.AgentJobs
