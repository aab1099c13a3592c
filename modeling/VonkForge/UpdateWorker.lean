import VonkForge.RolloutCalls

/-!
# The rollout worker and the administrator

`UpdateRolloutWorker.tick` takes the rollouts from the oldest one on and stops
at the first that it does not pass over.
-/

namespace VonkForge.Updates

open AgentJobs

/-- The issuer of grants: its key, the nonce it draws, its signature and the check of one. -/
structure GrantIssuer where
  keyId : Digest
  nonce : Uuid
  sign : GrantClaims → ℕ
  verify : GrantClaims → ℕ → Bool

variable (issuer : GrantIssuer) (view : TickView) (s : System) (now : Time) (db : Database)
  (u : UpdateRollout) (id jobId : Uuid)

def issueGrant (action : AgentOperation) (rolloutId jobId : Uuid) (nodes : List NodeId)
    (target : Option Digest) (expiresAt : ℕ) : Except JobError AdminGrant :=
  if isVersion4 rolloutId = false then
    .error (.runtimeError "admin grant rollout ID is invalid")
  else if isVersion4 jobId = false then
    .error (.runtimeError "admin grant parent job ID is invalid")
  else if nodes = [] ∨ 1024 < nodes.length ∨ ¬ nodes.Nodup then
    .error (.runtimeError "admin grant node IDs are invalid")
  else if expiresAt ≤ epoch now ∨ epoch now + 3600 < expiresAt then
    .error (.runtimeError "admin grant expiry is invalid")
  else if isVersion4 issuer.nonce = false then
    .error (.runtimeError "admin grant nonce is invalid")
  else
    let claims : GrantClaims :=
      { action := action, expiresAt := expiresAt, nonce := issuer.nonce,
        nodeIds := nodes.insertionSort (· ≤ ·), parentJobId := jobId, rolloutId := rolloutId,
        targetReleaseDigest := target }
    .ok ⟨claims, issuer.keyId, issuer.sign claims⟩

def reusable (targets : List NodeId) (grant : AdminGrant) : Bool :=
  grant.claims.action = .agentUpdate && grant.claims.rolloutId = u.id &&
    grant.claims.parentJobId = jobId && grant.claims.nodeIds = targets &&
    grant.claims.targetReleaseDigest = some u.releaseDigest &&
    epoch now + 600 ≤ grant.claims.expiresAt && grant.keyId = issuer.keyId &&
    issuer.verify grant.claims grant.signature

def refreshUpdateGrant (batchIndex : ℕ) (targets : List NodeId) : Except JobError Database :=
  if isVersion4 id = false then .error (.valueError "update rollout ID is invalid")
  else if targets = [] ∨ targets.insertionSort (· ≤ ·) ≠ targets ∨ ¬ targets.Nodup then
    .error (.valueError "update grant refresh input is invalid")
  else
    match db.rollouts.get? id with
    | none => .error (.keyError id)
    | some u =>
      match u.jobId with
      | none => .error (.valueError "update rollout is not awaiting this batch")
      | some jobId =>
        let nodes := batchRows db u
        if u.state ≠ .planned ∨ u.currentBatch ≠ batchIndex then
          .error (.valueError "update rollout is not awaiting this batch")
        else if nodes.map (·.nodeId) ≠ targets ∨ ∃ n ∈ nodes, n.state ≠ .pending then
          .error (.valueError "update rollout batch nodes are stale")
        else if u.updateAdminGrant.any (reusable issuer now u jobId targets) then .ok db
        else do
          let grant ← issueGrant issuer now .agentUpdate u.id jobId targets (some u.releaseDigest)
            (epoch now + 3600)
          .ok (setRollout db id fun r => { r with updateAdminGrant := some grant })

inductive RenewalStatus
  | renewed
  | notActive
  | withdrawalPending
  deriving DecidableEq

/-- How `renew_active` ends on a withdrawn record: with its receipt, or with an error after it may
have given the record up. -/
inductive RenewalAnswer
  | done
  | failed (error : JobError) (superseded : Bool)

def renewActive (f : RouteFence) (key : Uuid × ℕ) :
    RenewalAnswer → RouteFence × Except JobError RenewalStatus
  | .done => (f, .ok .renewed)
  | .failed e superseded => (if superseded then setRecord f key .superseded else f, .error e)

def foreignFence : JobError :=
  .runtimeError "route update fence belongs to a different rollout"

def renewIfActive (f : RouteFence) (key : Uuid × ℕ) (answer : RenewalAnswer) :
    RouteFence × Except JobError RenewalStatus :=
  match f.records.get? key with
  | none =>
    match f.active with
    | none => (f, .ok .notActive)
    | some active => (f, if active = key then .ok .withdrawalPending else .error foreignFence)
  | some record =>
    if record.state = .superseded then
      (f, .error (.runtimeError "route update boundary was superseded"))
    else if f.active ≠ none ∧ f.active ≠ some key then (f, .error foreignFence)
    else
      match record.state with
      | .restored => (f, .ok (if f.active = none then .notActive else .withdrawalPending))
      | .withdrawing =>
        (f, if f.active = some key then .ok .withdrawalPending
          else .error (.runtimeError "pending route withdrawal lost its exact fence"))
      | _ =>
        if f.active = some key then renewActive f key answer
        else (f, .error (.runtimeError "active route withdrawal lost its exact fence"))

def advanceStates : List RolloutState :=
  [.planned, .withdrawing, .updating, .soaking, .publishing, .failurePublishing,
    .compensatingWithdrawal, .paused, .rollingBack, .rollbackPublishing]

def mustHaveActiveFence : List RolloutState := [.updating, .soaking, .rollingBack]

def rolloutOrder : Time ×ₗ Uuid := toLex (u.createdAt, u.id)

def candidates : List UpdateRollout :=
  (db.rollouts.select fun u => u.state ∈ advanceStates).insertionSort fun a b =>
    rolloutOrder a ≤ rolloutOrder b

def snapshot : Option (UpdateRollout × List NodeId) :=
  match db.rollouts.get? id with
  | none => none
  | some u =>
    if u.state ∉ advanceStates then none
    else
      let targets := (batchRows db u).map (·.nodeId)
      if targets = [] then none
      else if u.state = .paused ∧
          (u.rollbackAdminGrant.any fun g => isVersion4 g.claims.nonce = false) = true then none
      else some (u, targets)

structure TickView where
  now : Time
  /-- No other worker holds the claim of the rollout. -/
  claimed : Uuid → Bool := fun _ => true
  issuer : GrantIssuer
  renewal : Uuid → RenewalAnswer
  call : Uuid → CallView

def lostFence : JobError :=
  .runtimeError "active update rollout does not own a renewable route fence"

def notRenewable : JobError := .runtimeError "paused route compensation is not renewable"

def callOrchestrator : System × Except JobError Unit :=
  if u.state = .paused ∧ u.rollbackAdminGrant.isSome then
    let (db, result) := beginRollback (view.call u.id) s.db u.id none
    ({ s with db := db }, result)
  else advance (view.call u.id) s u.id

/-- What a tick does for one rollout; `none` when it passes over it. -/
def tickRollout : Option (System × Except JobError Unit) :=
  if view.claimed id = false then none
  else
    match snapshot s.db id with
    | none => none
    | some (u, targets) =>
      if u.state = .planned then
        match refreshUpdateGrant view.issuer view.now s.db id u.currentBatch targets with
        | .error e => some (s, .error e)
        | .ok db => some (callOrchestrator view { s with db := db } u)
      else
        match renewIfActive s.fence (id, u.currentBatch) (view.renewal id) with
        | (fence, .error e) => some ({ s with fence := fence }, .error e)
        | (fence, .ok status) =>
          if u.state = .paused ∧ status = .notActive then none
          else if u.state ∈ mustHaveActiveFence ∧ status ≠ .renewed then
            some ({ s with fence := fence }, .error lostFence)
          else if u.state = .paused ∧ status ≠ .renewed then
            some ({ s with fence := fence }, .error notRenewable)
          else some (callOrchestrator view { s with fence := fence } u)

def firstHandled (view : TickView) (s : System) :
    List UpdateRollout → Option (Uuid × System × Except JobError Unit)
  | [] => none
  | u :: rest =>
    match tickRollout view s u.id with
    | some r => some (u.id, r)
    | none => firstHandled view s rest

def tick : System × Option (Uuid × Except JobError Unit) :=
  match firstHandled view s (candidates s.db) with
  | none => (s, none)
  | some (id, s', result) => (s', some (id, result))

def rollbackGrantFactory (rolloutId jobId : Uuid) (nodes : List NodeId) :
    Except JobError AdminGrant :=
  issueGrant issuer now .agentRollback rolloutId jobId nodes none (epoch now + 3600)

def adminApproveResume (view : RolloutView) (issuer : GrantIssuer) (db : Database) (id : Uuid)
    (reason : String) : Except JobError Database :=
  match db.rollouts.get? id with
  | none => .error (.keyError id)
  | some u =>
    match u.state with
    | .paused => authorizeRollback view db id (rollbackGrantFactory issuer view.now)
    | .waitingForApproval => approveResume view db id reason
    | _ => .error (.valueError "update rollout is not waiting for recovery approval")

inductive WorkerEvent
  | tick (view : TickView)
  | approveResume (view : RolloutView) (issuer : GrantIssuer) (id : Uuid) (reason : String)
  | create (view : RolloutView) (plan : UpdatePlan) (id jobId : Uuid) (grant : Option AdminGrant)
  /-- Any write to the tables that rollouts are not stored in. -/
  | environment (tables : Database)

def workerStep : WorkerEvent → System
  | .tick view => (tick view s).1
  | .approveResume view issuer id reason =>
    match adminApproveResume view issuer s.db id reason with
    | .ok db => { s with db := db }
    | .error _ => s
  | .create view plan id jobId grant =>
    match create view s.db plan id jobId grant with
    | .ok db => { s with db := db }
    | .error _ => s
  | .environment tables =>
    { s with db := { tables with rollouts := s.db.rollouts, rolloutNodes := s.db.rolloutNodes } }

def workerRun (events : List WorkerEvent) : System := events.foldl workerStep s

end VonkForge.Updates
