import VonkForge.AgentResults
import VonkForge.LeaseHandoff

/-!
# Results of reconciliation operations

`AgentReconciliationService` as the queue's result consumer, with the quiesce and the sweep.
-/

namespace VonkForge.AgentReconciliation

open AgentJobs

/-- `_MUTATIONS`, which names neither the garbage collection of packages nor recipes. -/
def mutation : AgentOperation → Bool
  | .agentRollback | .agentUpdate | .releaseInstall
  | .workloadPrepare | .workloadStart | .workloadStop
  | .packagePrepare | .packageActivate | .packageStop | .packageRollback | .packageRemove
  | .packageRepair => true
  | _ => false

inductive ExternalAuthority
  | unconfigured
  | denied (reason : String)
  | granted

inductive Endpoint
  | address
  | invalid
  | unavailable

structure View where
  now : Time
  authority : Uuid → ExternalAuthority := fun _ => .unconfigured
  endpoint : NodeId → Endpoint := fun _ => .address
  /-- `accepted_result_digests`, with nothing when the evidence is not authentic. -/
  acceptedResultDigests : AgentOperation → Payload → ResultDocument → Option (Digest × Digest) :=
    fun _ _ result => some (result.content, result.content)
  resultDigest : ResultDocument → Digest := fun result => result.content

def planOf (r : Reconciliation) : Except JobError ResolvedPlan :=
  match r.plan with
  | some plan => .ok plan
  | none => .error (.valueError "persisted resolved plan digest is invalid")

variable (view : View) (db : Database) (now : Time) (op : StoredOperation)
  (attempt : AgentOperationAttempt) (p : ReconciliationOperation) (r : Reconciliation)
  (jobId : Uuid) (plan : ResolvedPlan) (message : AgentResult) (node : OperationNode)

def graphNode (id : GraphId) : Except JobError OperationNode :=
  match plan.nodes.find? fun n => decide (n.operationId = id) with
  | some node => .ok node
  | none => .error (.valueError "execution projection operation is absent from the graph")

def endpointReason (view : View) : List NodeId → Option String
  | [] => none
  | n :: rest =>
    match view.endpoint n with
    | .address => endpointReason view rest
    | .invalid => some "reconciliation management address is invalid"
    | .unavailable => some "reconciliation management address is unavailable"

def nextAgentCapability : Capability → Bool
  | .operation kind => kind ∈ AgentOperation.required || kind.signed
  | _ => false

/-- The service has a ceiling of its own for what a target may advertise. -/
def incompatibleTarget (range : ℕ × ℕ) (node : AgentNode) : Bool :=
  incompatibleAgent range node || !node.capabilities.all nextAgentCapability

def continuousAuthorityReason : Option String :=
  match view.authority r.id with
  | .unconfigured => none
  | .denied reason => some reason
  | .granted =>
    let targets := r.targets.nodes.insertionSort (· ≤ ·)
    let nodes := targets.filterMap db.nodes.get?
    if nodes.map (·.nodeId) ≠ targets then some "reconciliation target set is unavailable"
    else if nodes.any (incompatibleTarget plan.protocolRange) then
      some "reconciliation target agent is incompatible"
    else endpointReason view targets

def waitForOperator (r jobId : Uuid) (reason : String) : Database :=
  setJob (setReconciliation db r .waitingForOperator .failed (some reason))
    jobId .waitingForOperator (some reason) now

/-- `_quiesce_pending` on one projection; the flag records an uncertain mutation. -/
def quiescePendingOne (acc : Bool × Database) (p : ReconciliationOperation) :
    Except JobError (Bool × Database) :=
  if p.state = .planned then .ok (acc.1, setProjection acc.2 p .failed)
  else
    match p.state, p.agentOperationId with
    | .queued, some id =>
      match acc.2.operations.get? id with
      | none => .error (.valueError "reconciliation operation projection is incomplete")
      | some op => do
        let node ← graphNode plan p.graphOperationId
        let db' ← quiesceOperation acc.2 now p op (mutation node.kind)
        .ok (acc.1 || (op.state = .running && mutation node.kind), db')
    | _, _ => .ok acc

def quiescePending (r : Uuid) (plan : ResolvedPlan) (role : ProjectionRole) :
    Except JobError (Bool × Database) :=
  (projectionsOf db r [role]).foldlM (quiescePendingOne now plan) (false, db)

def quiesceBoth (r : Uuid) (plan : ResolvedPlan) : Except JobError Database := do
  let (_, db') ← quiescePending db now r plan .primary
  let (_, db'') ← quiescePending db' now r plan .compensation
  .ok db''

lemma key_expired (a : AgentOperationAttempt) :
    ({ a with state := .expired : AgentOperationAttempt }.operationId, a.attempt) =
      (a.operationId, a.attempt) := rfl

def sweepOne (acc : Bool × Database) (p : ReconciliationOperation) : Bool × Database :=
  match p.state, p.agentOperationId with
  | .queued, some id =>
    match acc.2.operations.get? id with
    | none => acc
    | some op =>
      if op.state = .running ∧ mutation op.kind ∧ expiredAttempt acc.2 now op then
        (true, setProjection
          (parkOperation
            (setAttempt acc.2 op.id op.currentAttempt (fun a => { a with state := .expired })
              key_expired)
            now op.id)
          p .waitingForOperator)
      else acc
  | _, _ => acc

def sweepExpiredMutations : Except JobError (Bool × Database) := do
  let rows := projectionsOf db r.id [.primary] ++ projectionsOf db r.id [.compensation]
  let swept := rows.foldl (sweepOne now) (false, db)
  if swept.1 = false then .ok (false, db)
  else do
    let db' ← quiesceBoth swept.2 now r.id plan
    .ok (true, waitForOperator db' now r.id jobId
      "mutating agent operation lease expired with uncertain outcome")

def ofLease {α : Type} (x : Except NodeLeases.LeaseError α) : Except JobError α :=
  match x with
  | .ok a => .ok a
  | .error _ => .error (.runtimeError "node mutation lease conflict")

def markReleasing : Except JobError Database := do
  let (_, db') ← ofLease (LeaseHandoff.markNodeLeaseReleasing db now r)
  .ok db'

def quiesceForUnavailableTarget (reason : String) : Except JobError Database := do
  let db' ← quiesceBoth db now r.id plan
  markReleasing (waitForOperator db' now r.id jobId reason) now r

def compensationOrder (rows : List ReconciliationOperation) : List GraphId :=
  (plan.nodes.reverse.filter fun n => n.compensationKind.isSome &&
    rows.any fun p => p.graphOperationId = n.operationId && p.state = .accepted).map (·.operationId)

def compensates : AgentOperation → Bool
  | .workloadStart | .workloadHealth | .workloadVerify | .packageActivate | .packageHealth => true
  | _ => false

def handlePrimaryFailure (failed : OperationNode) (reason : String) : Except JobError Database := do
  let (uncertain, db') ← quiescePending db now r.id plan .primary
  if uncertain then
    .ok (waitForOperator db' now r.id jobId
      "a sibling mutation was running when reconciliation failed")
  else if compensates failed.kind ∧ compensationOrder plan (projectionsOf db' r.id [.primary]) ≠ []
    then .ok (setReconciliation db' r.id .compensating .running (some reason))
  else if mutation failed.kind then .ok (waitForOperator db' now r.id jobId reason)
  else
    .ok (setJob (setReconciliation db' r.id .failed .failed (some reason)) jobId .failed
      (some reason) now)

def bindingAgrees (r : Reconciliation) (job : Job) (p : ReconciliationOperation)
    (node : OperationNode) (kind : AgentOperation) (payload : Payload) : Bool :=
  p.agentOperationId = some op.id && p.expectedPayloadDigest = payload.canonicalDigest &&
    op.parentJobId = job.id && op.nodeId = node.nodeId && op.kind = kind &&
    op.baseCommit = r.baseCommit && op.payloadDigest = p.expectedPayloadDigest &&
    op.payload = payload && message.jobId = job.id && message.operationId = op.id &&
    message.nodeId = op.nodeId && message.attempt = attempt.attempt &&
    message.fence = attempt.fence

def authorizedWork : Except JobError (AgentOperation × Payload) :=
  match p.role with
  | .primary => .ok (node.kind, node.payload)
  | .compensation =>
    match node.compensationKind, node.compensationPayload with
    | none, _ => .error (.valueError "reconciliation compensation is not graph-authorized")
    | some _, none => .error (.valueError "workload compensation payload is incomplete")
    | some kind, some payload => .ok (kind, payload)

def resultReason : String :=
  match message.result.reason <|> message.result.errorCode with
  | some reason => if reason = "" then "agent operation failed" else reason
  | none => "agent operation failed"

def loseResult (r jobId : Uuid) (plan : ResolvedPlan) (reason : String) :
    Except JobError Database := do
  let uncertain := mutation op.kind
  let closed := setProjection
    (setOperation
      (setAttempt db op.id attempt.attempt fun a => { a with state := quiescedAttempt uncertain })
      op.id fun o => { o with state := quiescedOperation uncertain, updatedAt := now })
    p (quiescedProjection uncertain)
  let db' ← quiesceBoth closed now r plan
  .ok (waitForOperator db' now r jobId reason)

def consumeFailure (message : AgentResult) : Except JobError Database := do
  let waiting := message.state = .waitingForOperator
  let db₁ := updateProjection db p fun q =>
    { q with
      state := if waiting then .waitingForOperator else .failed
      resultDigest := some (view.resultDigest message.result) }
  if p.role = .compensation ∨ waiting then do
    let db₂ ← quiesceBoth db₁ view.now r.id plan
    .ok (waitForOperator db₂ view.now r.id jobId (resultReason message))
  else do
    let db₂ ← handlePrimaryFailure db₁ view.now r jobId plan node (resultReason message)
    match db₂.reconciliations.get? r.id with
    | some r' =>
      if r'.currentPhase = .failed ∨ r'.currentPhase = .cancelled then markReleasing db₂ view.now r
      else .ok db₂
    | none => .ok db₂

def consumeResult : Except JobError Database :=
  match projectionOf db op.id with
  | none => .ok db
  | some p =>
    match db.reconciliations.get? p.reconciliationId, db.jobs.get? op.parentJobId with
    | none, _ => .error (.keyError p.reconciliationId)
    | some _, none => .error (.valueError "agent result lacks its reconciliation projection")
    | some r, some job => do
      if job.reconciliationId ≠ some r.id then
        .error (.valueError "agent result lacks its reconciliation projection")
      else do
        let plan ← planOf r
        let node ← graphNode plan p.graphOperationId
        let (kind, payload) ← authorizedWork p node
        if bindingAgrees op attempt message r job p node kind payload = false then
          .error (.valueError "agent result does not match its reconciliation operation")
        else if r.currentPhase ≠ expectedPhase p.role then
          .error (.valueError "agent result is invalid for reconciliation phase")
        else
          match continuousAuthorityReason view db r plan with
          | some reason => loseResult db view.now op attempt p r.id job.id plan reason
          | none =>
            if message.state = .succeeded then
              match view.acceptedResultDigests kind payload message.result with
              | some (resultDigest, evidenceDigest) =>
                .ok (updateProjection db p fun q =>
                  { q with
                    resultDigest := some resultDigest
                    evidenceDigest := some evidenceDigest
                    state := if p.role = .compensation then .compensated else .accepted })
              | none => .error (.valueError "accepted agent result is invalid")
            else consumeFailure view db p r job.id plan node message

/-- What the recipe tables decide about a result: whether its evidence is valid, and the cleanup
job that a failed start queues. -/
structure RecipeProjection where
  evidenceValid : Bool := true
  cleanup : Option (Job × List NewOperation) := none

def queueInSession (job : Job) (ops : List NewOperation) : Except JobError Database :=
  match db.jobs.insert job with
  | none => .error .integrityError
  | some jobs =>
    ops.foldlM (fun db n => enqueueInSession db now n false) { db with jobs := jobs }

def consumeAgentResult (recipe : RecipeProjection) (now : Time) (db : Database)
    (op : StoredOperation) (message : AgentResult) : Except JobError Database :=
  match db.jobs.get? op.parentJobId with
  | none => .ok db
  | some job =>
    if job.kind ≠ .recipe then .ok db
    else if message.state = .waitingForOperator then
      .error (.valueError "recipe agent result is invalid")
    else if recipe.evidenceValid = false then
      .error (.valueError "recipe agent evidence is invalid")
    else
      let children := db.operations.select fun o => o.parentJobId = job.id
      if children.all fun o => o.state = .succeeded || o.state = .failed then
        let failed := children.any fun o => o.state = .failed
        let db' := setJob db job.id (if failed then .failed else .succeeded) job.statusReason now
        match failed, recipe.cleanup with
        | true, some (cleanup, ops) => queueInSession db' now cleanup ops
        | _, _ => .ok db'
      else .ok (setJob db job.id .running job.statusReason now)

def resultConsumer (recipe : RecipeProjection) : ResultConsumer :=
  fun db op attempt message => do
    let db' ← consumeResult view db op attempt message
    consumeAgentResult recipe view.now db' op message

end VonkForge.AgentReconciliation
