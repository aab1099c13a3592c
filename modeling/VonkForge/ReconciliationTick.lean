import VonkForge.ReconciliationDispatch

/-!
# One tick of a reconciliation

`_tick_candidate` advances one durable phase of one reconciliation.
-/

namespace VonkForge.AgentReconciliation

open AgentJobs

def leasedPhase : ReconciliationPhase → Bool
  | .withdrawalPending | .routesWithdrawn | .dispatching | .accepting | .publicationPending
  | .compensating => true
  | _ => false

section

variable (view : TickView) (db : Database) (r : Reconciliation)

def markTerminal (now : Time) (r : Reconciliation) : Except JobError (Bool × Database) :=
  if r.currentPhase = .failed ∨ r.currentPhase = .cancelled then
    ofLease (LeaseHandoff.markNodeLeaseReleasing db now r)
  else .ok (false, db)

def needsLease : Bool :=
  leasedPhase r.currentPhase && !(r.currentPhase = .withdrawalPending && !targetsAreActive db r)

def settleLeases : Except JobError ((Bool × Option Bool) × Database) := do
  let (released, db₁) ← ofLease (LeaseHandoff.releasePendingNodeLease db r)
  if released = true ∧ r.currentPhase ≠ .completed ∧ db₁.cancellations.get? r.id = none then
    .ok ((released, some true), db₁)
  else do
    let (marked, db₂) ← markTerminal db₁ view.now r
    if marked then .ok ((released, some true), db₂)
    else if needsLease db₂ r then do
      let (leased, db₃) ← ensureLease view db₂ r
      .ok ((released, if leased then none else some false), db₃)
    else .ok ((released, none), db₂)

def cancellationLease (c : ReconciliationCancellation) : Except JobError (Bool × Database) :=
  if r.currentPhase = .completed ∧ (c.state = .requested ∨ c.state = .withdrawalPending) then
    let (owns, db') := ownsPublication db r false
    if owns then ensureLease view db' r else .ok (true, db')
  else .ok (true, db)

def markCancelled (now : Time) (r : Reconciliation) : Except JobError Database :=
  if phaseOf db r.id = some .failed ∨ phaseOf db r.id = some .cancelled then markReleasing db now r
  else .ok db

section

variable (job : Job) (plan : ResolvedPlan)

def tickCancellation : Logged JobError PublisherCall (Option Bool × Database) :=
  match db.cancellations.get? r.id with
  | none => pure (none, db)
  | some c => do
    let (leased, db₁) ← .lift (cancellationLease view db r c)
    if leased = false then pure (some false, db₁)
    else do
      let (answer, db₂) ← advanceCancellation view db₁ r job plan c
      match answer with
      | none => pure (none, db₂)
      | some b => do
        let db₃ ← .lift (markCancelled db₂ view.now r)
        pure (some b, db₃)

/-- The routes are withdrawn, and only then does the publication change its owner. -/
def maintenanceWithdrawal : Logged JobError PublisherCall (Bool × Database) :=
  let (owns, db₁) := ownsPublication db r true
  if owns = false then pure (false, db₁)
  else do
    let _ ← .lift (publicationOf db₁ r.id)
    let marker ← withdraw view r plan "reconciliation maintenance"
    let db₂ ← .lift (transferPublicationOwner db₁ r)
    let db₃ ← .lift (storeMarker db₂ r.id marker .routesWithdrawn)
    pure (true, setPhase db₃ r.id .routesWithdrawn)

def loseAuthority (reason : String) : Logged JobError PublisherCall (Bool × Database) :=
  let (owner, db₁) := publicationOwner db
  let (owns, db₂) := ownsPublication db₁ r false
  if (owns = true ∨ owner.reconciliationId = some r.id) ∧
      (r.currentPhase = .completed ∨ r.currentPhase = .publicationPending) ∧
      view.publisher.isSome then do
    let (leased, db₃) ← .lift (ensureLease view db₂ r)
    if leased = false then pure (false, db₃)
    else do
      let _ ← .lift (publicationOf db₃ r.id)
      let marker ← withdraw view r plan "reconciliation authority lost"
      let db₄ ← .lift (storeMarker db₃ r.id marker .routesWithdrawn)
      let db₅ ← .lift (quiesceForUnavailableTarget db₄ view.now r job.id plan reason)
      pure (true, db₅)
  else do
    let db₃ ← .lift (quiesceForUnavailableTarget db₂ view.now r job.id plan reason)
    pure (true, db₃)

def predecessorHandoff : Bool :=
  match (db.publicationOwner.bind (·.reconciliationId)).bind db.reconciliations.get? with
  | some owner => decide (owner.id ≠ r.id) && LeaseHandoff.terminalPhase owner.currentPhase
  | none => false

/-- A planned reconciliation takes its lease, unless a predecessor hands its own over later. -/
def startLease : Except JobError (Bool × Database) :=
  if predecessorHandoff db r then .ok (true, db) else ensureLease view db r

def startReconciliation : Except JobError (Bool × Database) := do
  if job.baseCommit ≠ r.baseCommit then
    .error (.valueError "reconciliation job base commit does not match")
  else do
    let (leased, db₁) ← startLease view db r
    if leased = false then .ok (false, db₁)
    else
      match db₁.publications.insert
        { reconciliationId := r.id, state := .withdrawalPending, planDigest := plan.digest } with
      | none => .error .integrityError
      | some publications =>
        .ok (true, setJob
          (setReconciliation { db₁ with publications := publications } r.id .withdrawalPending
            .running r.terminalReason) job.id .running none view.now)

/-- The step of a phase whose targets are active, with the quiesce when they are not. -/
def whileActive (reason : String) (step : Logged JobError PublisherCall (Bool × Database)) :
    Logged JobError PublisherCall (Bool × Database) :=
  if targetsAreActive db r then step
  else do
    let db' ← .lift (quiesceForUnavailableTarget db view.now r job.id plan reason)
    pure (true, db')

def planProjections : Database :=
  { db with
    projections := db.projections.insertAllIgnore (plan.nodes.map fun n =>
      { reconciliationId := r.id, graphOperationId := n.operationId, role := .primary,
        expectedPayloadDigest := n.payload.canonicalDigest }) }

def nextCompletionGeneration : Except JobError (ℕ × Database) :=
  if db.lastCompletion < 2 ^ 63 - 1 then
    .ok (db.lastCompletion + 1, { db with lastCompletion := db.lastCompletion + 1 })
  else .error (.runtimeError "reconciliation completion generation is unavailable")

def recordCompletion : Except JobError Database := do
  let db₁ := setReconciliation db r.id .completed .succeeded r.terminalReason
  match r.completionGeneration with
  | some _ => .ok db₁
  | none => do
    let (generation, db₂) ← nextCompletionGeneration db₁
    .ok { db₂ with
      reconciliations := db₂.reconciliations.updateWhere (fun q => decide (q.id = r.id))
        fun q => { q with completionGeneration := some generation } }

def publishRoutes (p : RoutePublication) : Logged JobError PublisherCall (Bool × Database) := do
  let request ← .lift (publicationRequest view db r plan p)
  let marker ← callPublisher view r (.publish request)
  let db₁ ← .lift (storeMarker db r.id marker .completed)
  let db₂ ← .lift (recordCompletion db₁ r)
  let db₃ ← .lift (markReleasing (setJob db₂ job.id .succeeded none view.now) view.now r)
  pure (true, db₃)

def leaseIsFresh (p : RoutePublication) : Bool :=
  match p.leaseExpiresAt with
  | none => true
  | some expires => view.now + seconds 30 < expires

/-- A completed reconciliation withdraws its routes to accept and publish them again. -/
def renewLease (auto released : Bool) (db : Database) (r : Reconciliation) (job : Job)
    (plan : ResolvedPlan) (p : RoutePublication) : Logged JobError PublisherCall
    (Bool × Database) :=
  if auto = true ∧ leaseIsFresh view p = true then
    pure (released && ((db.publicationOwner.bind (·.reconciliationId)) ≠ some r.id ||
      p.generation.isNone), db)
  else do
    let (leased, db₁) ← .lift (ensureLease view db r)
    if leased = false then pure (released, db₁)
    else do
      let marker ← withdraw view r plan "route lease renewal"
      let db₂ ← .lift (storeMarker db₁ r.id marker .routesWithdrawn)
      pure (true, setJob (setReconciliation db₂ r.id .accepting .running r.terminalReason) job.id
        .running job.statusReason view.now)

def acceptEvidence : Except JobError (Bool × Database) := do
  let digest ← acceptedEvidenceDigest view (projectionsOf db r.id [.primary])
  .ok (true, setPhase (updatePublication db r.id fun p =>
    { p with state := .publicationPending, evidenceDigest := some digest }) r.id
    .publicationPending)

def compensate : Except JobError (Bool × Database) := do
  let (notify, db₁) ← dispatchCompensation view db r job plan
  if phaseOf db₁ r.id = some .failed then do
    let db₂ ← markReleasing db₁ view.now r
    .ok (true, db₂)
  else .ok (notify || phaseOf db₁ r.id ≠ some .compensating, db₁)

def dispatch : Except JobError (Bool × Database) := do
  let (notify, db₁) ← dispatchPrimary view db r job plan
  .ok (notify || phaseOf db₁ r.id ≠ some .dispatching, db₁)

end

variable (auto released : Bool) (db : Database) (r : Reconciliation) (job : Job)
  (plan : ResolvedPlan)

def advancePhase (p : RoutePublication) : Logged JobError PublisherCall (Bool × Database) :=
  let active := whileActive view db r job plan "reconciliation target agent is unavailable"
  match r.currentPhase with
  | .routesWithdrawn => active (pure (true, setPhase (planProjections db r plan) r.id .dispatching))
  | .dispatching => active (.lift (dispatch view db r job plan))
  | .accepting => active (.lift (acceptEvidence view db r))
  | .publicationPending => active (publishRoutes view db r job plan p)
  | .completed => renewLease view auto released db r job plan p
  | .compensating =>
    whileActive view db r job plan "reconciliation target agent is unavailable during compensation"
      (.lift (compensate view db r job plan))
  | _ => .lift (.error (.valueError "reconciliation execution phase is invalid"))

def tickOwner : Logged JobError PublisherCall (Bool × Database) :=
  let (owns, db') := ownsPublication db r (r.currentPhase = .planned)
  if owns = false then pure (false, db')
  else if r.currentPhase = .planned then .lift (startReconciliation view db' r job plan)
  else do
    let p ← .lift (publicationOf db' r.id)
    advancePhase view auto released db' r job plan p

def tickPhase : Logged JobError PublisherCall (Bool × Database) :=
  if r.currentPhase = .failed ∨ r.currentPhase = .cancelled ∨ r.currentPhase = .waitingForOperator
    then pure (released, db)
  else do
    let (swept, db₁) ← .lift (sweepExpiredMutations db view.now r job.id plan)
    if swept then pure (true, db₁)
    else
      let (owner, db₂) := publicationOwner db₁
      if r.currentPhase = .withdrawalPending ∧ owner.reconciliationId ≠ none ∧
          owner.reconciliationId ≠ some r.id then
        maintenanceWithdrawal view db₂ r plan
      else
        match continuousAuthorityReason view.toView db₂ r plan with
        | some reason => loseAuthority view db₂ r job plan reason
        | none =>
          if r.currentPhase = .withdrawalPending then maintenanceWithdrawal view db₂ r plan
          else tickOwner view auto released db₂ r job plan

/-- `_tick_candidate`; `auto` is `automatically_selected`. -/
def tickCandidate (id : Uuid) : Logged JobError PublisherCall (Bool × Database) := do
  let (r, job, plan) ← .lift (lockedContext db id)
  let ((released, ended), db₁) ← .lift (settleLeases view db r)
  match ended with
  | some b => pure (b, db₁)
  | none => do
    let (answer, db₂) ← tickCancellation view db₁ r job plan
    match answer with
    | some b => pure (b, db₂)
    | none => tickPhase view auto released db₂ r job plan

end

end VonkForge.AgentReconciliation
