import VonkForge.AgentIdentity

/-!
# The rows of the agent queue

Writes to operations, attempts, projections and parents; enqueue, quiesce and projection.
-/

namespace VonkForge.AgentJobs

section Writes

variable (db : Database) (id : Uuid)

def setOperation (f : StoredOperation → StoredOperation)
    (hf : ∀ o, (f o).id = o.id := by intro _; rfl) : Database :=
  { db with operations := db.operations.updateWhere (fun o => decide (o.id = id)) f hf }

def setAttempt (attempt : ℕ) (f : AgentOperationAttempt → AgentOperationAttempt)
    (hf : ∀ a, ((f a).operationId, (f a).attempt) = (a.operationId, a.attempt) := by intro _; rfl) :
    Database :=
  { db with
    attempts := db.attempts.updateWhere
      (fun a => decide (a.operationId = id ∧ a.attempt = attempt)) f hf }

def updateProjection (p : ReconciliationOperation)
    (f : ReconciliationOperation → ReconciliationOperation)
    (hf : ∀ q, Keyed.key (f q) = Keyed.key q := by intro _; rfl) : Database :=
  { db with
    projections := db.projections.updateWhere
      (fun q => decide (q.reconciliationId = p.reconciliationId ∧
        q.graphOperationId = p.graphOperationId ∧ q.role = p.role)) f hf }

def setProjection (p : ReconciliationOperation) (state : ProjectionState) : Database :=
  updateProjection db p fun q => { q with state := state }

def setJob (state : JobState) (reason : Option String) (now : Time) : Database :=
  { db with
    jobs := db.jobs.updateWhere (fun j => decide (j.id = id))
      (fun j => { j with state := state, statusReason := reason, updatedAt := now }) }

def setReconciliation (phase : ReconciliationPhase) (status : ReconciliationStatus)
    (reason : Option String) : Database :=
  { db with
    reconciliations := db.reconciliations.updateWhere (fun r => decide (r.id = id))
      (fun r => { r with currentPhase := phase, status := status, terminalReason := reason }) }

end Writes

structure CommitView where
  /-- `commit_eligible`, with nothing when it raises. -/
  eligible : Commit → Option Bool
  current : Option Commit

structure NewOperation where
  (operationId parentJobId : Uuid)
  nodeId : NodeId
  kind : AgentOperation
  baseCommit : Commit
  payload : Payload

section

variable (db : Database) (now : Time)

variable (op : StoredOperation) (uncertain : Bool)

def insertOperation (n : NewOperation) : Except JobError Database :=
  match db.operations.insert
    { id := n.operationId, parentJobId := n.parentJobId, nodeId := n.nodeId, kind := n.kind,
      payloadDigest := n.payload.canonicalDigest, payload := n.payload,
      baseCommit := n.baseCommit, createdAt := now, updatedAt := now } with
  | some operations => .ok { db with operations := operations }
  | none => .error .integrityError

def terminalParent : JobState → Bool
  | .succeeded | .failed | .waitingForOperator | .expired => true
  | _ => false

/-- `enqueue_in_session`: `now` is read before the node is locked, and the payload is the final
one, signed by the update authorizer for the signed kinds. -/
def enqueueInSession (n : NewOperation) (authorizer : Bool) : Except JobError Database :=
  match db.nodes.get? n.nodeId with
  | none => .error (.keyError n.nodeId)
  | some node =>
    if node.state ≠ .active ∨ node.revokedAt.isSome then
      .error (.valueError "agent operation node must be active")
    else if node.agentImplementation = .rust ∧ node.migrationState = .complete ∧
        Capability.operation n.kind ∉ node.capabilities then
      .error (.valueError "Rust agent does not advertise operation capability")
    else
      match db.jobs.get? n.parentJobId with
      | none => .error (.keyError n.parentJobId)
      | some parent =>
        let rollback := parent.kind = .platformUpdate ∧ parent.state = .waitingForOperator ∧
          n.kind = .agentRollback
        if n.kind = .agentRollback ∧ ¬ rollback then
          .error (.valueError "agent rollback requires a waiting platform update parent")
        else if terminalParent parent.state ∧ ¬ rollback then
          .error (.valueError "cannot enqueue an agent operation beneath a terminal parent")
        else if parent.baseCommit ≠ n.baseCommit then
          .error (.valueError "agent operation base commit must match its parent")
        else if n.nodeId ∉ parent.targets then
          .error (.valueError "agent operation node must be a parent target")
        else if n.kind.signed ∧ authorizer = false then
          .error (.runtimeError "agent update authorization is unavailable")
        else if n.kind.signed ∧ node.runtime.isNone then
          .error (.valueError "agent update source identity is unavailable")
        else insertOperation db now n

def quiescedOperation : OperationState :=
  if uncertain then .waitingForOperator else .failed

def quiescedAttempt : AttemptState :=
  if uncertain then .waitingForOperator else .failed

def quiescedProjection : ProjectionState :=
  if uncertain then .waitingForOperator else .failed

def quiesceOperation (p : ReconciliationOperation) (op : StoredOperation) (uncertain : Bool) :
    Except JobError Database :=
  match op.state with
  | .queued =>
    .ok (setProjection (setOperation db op.id fun o => { o with state := .failed, updatedAt := now })
      p .failed)
  | .running =>
    match db.attempts.get? (op.id, op.currentAttempt) with
    | none => .error (.valueError "running reconciliation operation lacks its attempt")
    | some attempt =>
      if attempt.state ≠ .running then
        .error (.valueError "running reconciliation operation lacks its attempt")
      else
        .ok (setProjection
          (setAttempt
            (setOperation db op.id fun o =>
              { o with state := quiescedOperation uncertain, updatedAt := now })
            op.id op.currentAttempt fun a => { a with state := quiescedAttempt uncertain })
          p (quiescedProjection uncertain))
  | _ => .ok db

/-- The order of the role texts, `compensation` before `primary`. -/
def roleOrder : ProjectionRole → ℕ
  | .compensation => 0
  | .primary => 1

def projectionsOf (id : Uuid) (roles : List ProjectionRole) : List ReconciliationOperation :=
  (db.projections.select fun p => p.reconciliationId = id && p.role ∈ roles).insertionSort
    fun p q => toLex (p.graphOperationId, roleOrder p.role) ≤
      toLex (q.graphOperationId, roleOrder q.role)

/-- `_quiesce_reconciliation_operations` on one projection. -/
def quiesceProjection (db : Database) (p : ReconciliationOperation) : Except JobError Database :=
  if p.state = .planned then .ok (setProjection db p .failed)
  else
    match p.agentOperationId with
    | none => .ok db
    | some id =>
      match db.operations.get? id with
      | none => .error (.valueError "reconciliation operation projection is incomplete")
      | some op => quiesceOperation db now p op op.kind.mutating

def quiesceReconciliationOperations (id : Uuid) (now : Time) : Except JobError Database :=
  (projectionsOf db id [.primary, .compensation]).foldlM (quiesceProjection now) db

def expireActiveAttempt : Database :=
  if op.currentAttempt < 1 then db
  else setAttempt db op.id op.currentAttempt fun a =>
    { a with
      state := if a.state = .running then .expired else a.state
      leaseDeadline := if a.state = .running then now else a.leaseDeadline }

def expireOperation : Database :=
  match op.state with
  | .queued => setOperation db op.id fun o => { o with state := .failed, updatedAt := now }
  | .running =>
    setOperation (expireActiveAttempt db now op) op.id fun o =>
      { o with state := .waitingForOperator, updatedAt := now }
  | _ => db

def attemptReason (attempt : AgentOperationAttempt) : Option String :=
  attempt.result.bind fun r => r.reason <|> r.errorCode

def terminalOperation : OperationState → Bool
  | .compensated | .succeeded | .failed | .waitingForOperator => true
  | _ => false

def aggregateState (operations : List StoredOperation) : JobState × OperationState :=
  if operations.any (·.state = .failed) then (.failed, .failed)
  else if operations.any (·.state = .waitingForOperator) then
    (.waitingForOperator, .waitingForOperator)
  else (.succeeded, .succeeded)

def aggregateParent (jobId : Uuid) : Except JobError Database :=
  match db.jobs.get? jobId with
  | none => .error (.keyError jobId)
  | some job =>
    if job.kind = .platformUpdate ∨ job.reconciliationId.isSome then .ok db
    else
      let operations := (db.operations.select fun o => o.parentJobId = jobId).insertionSort
        fun o p => toLex (o.createdAt, o.id) ≤ toLex (p.createdAt, p.id)
      if operations = [] ∨ operations.any (fun o => !terminalOperation o.state) then .ok db
      else
        let (state, witness) := aggregateState operations
        let reason := if state = .succeeded then none else
          (operations.filter (·.state = witness)).findSome? fun o =>
            (db.attempts.get? (o.id, o.currentAttempt)).bind attemptReason
        .ok (setJob db jobId state reason now)

end

end VonkForge.AgentJobs
