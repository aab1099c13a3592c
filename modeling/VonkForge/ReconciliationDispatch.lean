import VonkForge.RoutePublications

/-!
# Leases, dispatch and cancellation of a reconciliation

The lease steps, the next wave, the next compensation, and the advance of a cancellation.
-/

namespace VonkForge.AgentReconciliation

open AgentJobs

section

variable (db : Database)

variable (view : TickView) (now : Time) (r : Reconciliation) (job : Job) (reason : String)
  (plan : ResolvedPlan) (c : ReconciliationCancellation)

section

variable (id : Uuid) (rows : List ReconciliationOperation)

def lockedContext : Except JobError (Reconciliation × Job × ResolvedPlan) :=
  match db.reconciliations.get? id with
  | none => .error (.keyError id)
  | some r => do
    let plan ← planOf r
    match (db.jobs.select fun j => j.reconciliationId = some id).head? with
    | none => .error (.valueError "reconciliation has no durable parent job")
    | some job => .ok (r, job, plan)

def targetsAreActive : Bool :=
  r.targets.nodes.all fun n =>
    match db.nodes.get? n with
    | some node => node.state = .active && node.revokedAt.isNone
    | none => false

def ensureLease (db : Database) (r : Reconciliation) : Except JobError (Bool × Database) := do
  let (grant, db') ← ofLease (LeaseHandoff.ensureNodeLease db view.now view.fence r)
  .ok (grant.isSome, db')

lemma key_phase (phase : ReconciliationPhase) (r : Reconciliation) :
    Keyed.key { r with currentPhase := phase } = Keyed.key r := rfl

def setPhase (phase : ReconciliationPhase) : Database :=
  { db with
    reconciliations := db.reconciliations.updateWhere (fun r => decide (r.id = id))
      (fun r => { r with currentPhase := phase }) (key_phase phase) }

def phaseOf : Option ReconciliationPhase :=
  (db.reconciliations.get? id).map (·.currentPhase)

def stateOf (id : GraphId) : Option ProjectionState :=
  (rows.find? fun p => p.graphOperationId = id).map (·.state)

def readyOperationIds (nodes : List OperationNode) (rows : List ReconciliationOperation) :
    List GraphId :=
  ((nodes.filter fun n => (stateOf rows n.operationId).getD .planned = .planned &&
    n.dependencies.all fun d => stateOf rows d = some .accepted).map (·.operationId)).dedup
    |>.insertionSort (· ≤ ·)

def queueProjection (db : Database) (r : Reconciliation) (job : Job) (node : OperationNode)
    (kind : AgentOperation) (payload : Payload) (p : ReconciliationOperation) :
    Except JobError Database := do
  let id := view.freshId p.graphOperationId
  let db' ← enqueueInSession db view.now
    ⟨id, job.id, node.nodeId, kind, r.baseCommit, payload⟩ view.authorizer
  .ok (updateProjection db' p fun q => { q with agentOperationId := some id, state := .queued })

def dispatchOne (db : Database) (id : GraphId) : Except JobError Database := do
  let node ← graphNode plan id
  match rows.find? fun p => p.graphOperationId = id with
  | none => .error (.keyError id)
  | some p => queueProjection view db r job node node.kind node.payload p

end

/-- `_dispatch_primary`: whether agents have to be notified. -/
def dispatchPrimary (db : Database) (r : Reconciliation) (job : Job) (plan : ResolvedPlan) :
    Except JobError (Bool × Database) :=
  let rows := projectionsOf db r.id [.primary]
  let ready := readyOperationIds plan.nodes rows
  if rows.length ≠ plan.nodes.length then
    .error (.valueError "reconciliation execution projection is incomplete")
  else if rows.all (·.state = .accepted) then .ok (false, setPhase db r.id .accepting)
  else do
    let db' ← ready.foldlM (dispatchOne view r job plan rows) db
    .ok (ready ≠ [], db')

def finishFailed : Database :=
  let reason := match r.terminalReason with
    | some reason => if reason = "" then "reconciliation failed" else reason
    | none => "reconciliation failed"
  setJob (setReconciliation db r.id .failed .failed r.terminalReason) job.id .failed (some reason)
    now

def compensateOne (db : Database) (r : Reconciliation) (job : Job) (plan : ResolvedPlan)
    (id : GraphId) : Except JobError Database := do
  let node ← graphNode plan id
  match node.compensationKind, node.compensationPayload with
  | some kind, some payload =>
    let row : ReconciliationOperation :=
      { reconciliationId := r.id, graphOperationId := id, role := .compensation,
        expectedPayloadDigest := payload.canonicalDigest }
    match db.projections.insert row with
    | none => .error .integrityError
    | some projections =>
      queueProjection view { db with projections := projections } r job node kind payload row
  | _, _ => .error (.valueError "workload compensation payload is incomplete")

def compensateNext (view : TickView) (db : Database) (r : Reconciliation) (job : Job)
    (plan : ResolvedPlan) (existing : List ReconciliationOperation) :
    List GraphId → Except JobError (Bool × Database)
  | [] => .ok (false, finishFailed db view.now r job)
  | id :: rest =>
    match stateOf existing id with
    | some .queued | some .running => .ok (false, db)
    | some .compensated => compensateNext view db r job plan existing rest
    | some .failed | some .uncertain | some .waitingForOperator =>
      .ok (false, waitForOperator db view.now r.id job.id
        "reconciliation compensation is incomplete")
    | _ => do
      let db' ← compensateOne view db r job plan id
      .ok (true, db')

def dispatchCompensation (db : Database) (r : Reconciliation) (job : Job) (plan : ResolvedPlan) :
    Except JobError (Bool × Database) :=
  compensateNext view db r job plan (projectionsOf db r.id [.compensation])
    (compensationOrder plan (projectionsOf db r.id [.primary]))

def setCancellationState (id : Uuid) (state : CancellationState) : Database :=
  { db with
    cancellations := db.cancellations.updateWhere (fun c => decide (c.reconciliationId = id))
      fun c => { c with state := state } }

def enqueueCancel (id : Uuid) (reason : String) : Except JobError Database :=
  if reason = "" then .error (.valueError "cancellation reason and actor are required")
  else if (db.cancellations.get? id).isSome then .ok db
  else do
    let (r, _, _) ← lockedContext db id
    if r.currentPhase = .failed ∨ r.currentPhase = .cancelled then
      .error (.valueError "reconciliation is terminal")
    else .ok { db with
      cancellations := db.cancellations.insertIgnore
        { reconciliationId := r.id, state := .requested, reason := reason } }

def quiesceRoles (r : Uuid) (plan : ResolvedPlan) : Except JobError (Bool × Database) := do
  let (primary, db₁) ← quiescePending db now r plan .primary
  let (compensation, db₂) ← quiescePending db₁ now r plan .compensation
  .ok (compensation || primary, db₂)

/-- The projection states from which an effect of the operation cannot be excluded. -/
def unsafeState : ProjectionState → Bool
  | .failed | .running | .succeeded | .uncertain | .waitingForOperator => true
  | _ => false

def mutationProjection (p : ReconciliationOperation) : Except JobError Bool := do
  let node ← graphNode plan p.graphOperationId
  .ok (mutation node.kind)

def finishCancelled (reason : String) : Database :=
  setCancellationState
    (setJob (setReconciliation db r.id .cancelled .cancelled (some c.reason)) job.id .failed
      (some reason) now) r.id .completed

def cancelWaiting : Database :=
  setCancellationState (waitForOperator db now r.id job.id reason) r.id .waitingForOperator

def cancelHistorical : Except JobError Database := do
  let (uncertain, db') ← quiesceRoles db now r.id plan
  if uncertain then
    .ok (cancelWaiting db' now r job "historical cancellation interrupted a running mutation")
  else .ok (finishCancelled db' now r job c "historical reconciliation cancelled")

def cancelOwner : Except JobError Database := do
  let unsafePrimary ← (projectionsOf db r.id [.primary]).anyM fun p => do
    let isMutation ← mutationProjection plan p
    .ok (isMutation && unsafeState p.state)
  let unsafeCompensation := (projectionsOf db r.id [.compensation]).any (unsafeState ·.state)
  let (uncertain, db') ← quiesceRoles db now r.id plan
  let mutated ← (projectionsOf db' r.id [.primary]).filterM fun p =>
    if p.state = .accepted then mutationProjection plan p else .ok false
  let compensatable ← mutated.anyM fun p => do
    let node ← graphNode plan p.graphOperationId
    .ok node.compensationKind.isSome
  if uncertain || unsafePrimary || unsafeCompensation then
    .ok (cancelWaiting db' now r job "cancellation interrupted a running mutation")
  else if compensatable then
    .ok (setCancellationState
      (setJob (setReconciliation db' r.id .compensating .running (some c.reason)) job.id .running
        job.statusReason now) r.id .compensating)
  else if mutated ≠ [] then
    .ok (cancelWaiting db' now r job "cancellation requires operator recovery")
  else .ok (finishCancelled db' now r job c "reconciliation cancelled before mutation")

def applyCancellation : Except JobError Database :=
  let (owns, db₁) := ownsPublication db r false
  if owns = false then cancelHistorical db₁ now r job plan c
  else if r.currentPhase = .waitingForOperator then do
    let (_, db₂) ← quiesceRoles db₁ now r.id plan
    .ok (setCancellationState db₂ r.id .waitingForOperator)
  else cancelOwner db₁ now r job plan c

end

def cancelWithdrawal (view : TickView) (db : Database) (r : Reconciliation) (plan : ResolvedPlan) :
    Logged JobError PublisherCall (Option Bool × Database) :=
  if view.publisher.isNone then .lift (.error (.runtimeError "route publisher is unavailable"))
  else do
    let _ ← .lift (publicationOf db r.id)
    let marker ← withdraw view r plan "reconciliation cancellation"
    let db' ← .lift (storeMarker db r.id marker .routesWithdrawn)
    pure (some true, setCancellationState db' r.id .withdrawn)

/-- `_advance_cancellation`: the answer of the tick, or nothing when the tick goes on. -/
def advanceCancellation (view : TickView) (db : Database) (r : Reconciliation) (job : Job)
    (plan : ResolvedPlan) (c : ReconciliationCancellation) :
    Logged JobError PublisherCall (Option Bool × Database) :=
  match c.state with
  | .requested =>
    let (owns, db') := ownsPublication db r false
    if owns = false ∧ pendingPublicationHandoff db' ≠ none then pure (some false, db')
    else if (r.currentPhase = .completed ∨ r.currentPhase = .publicationPending) ∧ owns = true then
      pure (some true, setCancellationState db' r.id .withdrawalPending)
    else pure (some true, setCancellationState db' r.id .processing)
  | .withdrawalPending =>
    let (owns, db') := ownsPublication db r false
    if owns = true then cancelWithdrawal view db' r plan
    else if pendingPublicationHandoff db' ≠ none then pure (some false, db')
    else pure (some true, setCancellationState db' r.id .processing)
  | .withdrawn | .processing => do
    let db' ← .lift (applyCancellation db view.now r job plan c)
    pure (some true, db')
  | .compensating =>
    match r.currentPhase with
    | .failed => pure (some true, setCancellationState db r.id .completed)
    | .waitingForOperator => pure (some true, setCancellationState db r.id .waitingForOperator)
    | _ => pure (none, db)
  | .completed | .waitingForOperator => pure (none, db)

end VonkForge.AgentReconciliation
