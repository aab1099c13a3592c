import VonkForge.ReconciliationEffects

/-!
# Runs of the agent queue

Every transaction that reads or writes agent operations, as one step over a clock that never goes
back.
-/

namespace VonkForge.AgentJobs

open AgentReconciliation

variable {answer : Option RetryDisposition} {attempt : Option ℕ} {output : QueueOutput} {id : Uuid}

structure QueueState where
  clock : Time := 0
  db : Database := {}

def QueueState.initial : QueueState := {}

inductive QueueEvent
  /-- `enqueue`; the clock is read before the transaction locks the node. -/
  | enqueue (readAt : Time) (n : NewOperation) (authorizer : Bool)
  /-- The operation of a signed update authorization is stored. -/
  | finalizeUpdate (n : NewOperation)
  | claim (commit : Option CommitView) (req : ClaimRequest) (fence : Uuid)
  | heartbeat (fence : AgentFence) (leaseSeconds : ℕ) (source : Option AgentSource) (takes : Time)
  /-- `succeed`, `fail`, `wait_for_operator` and `record_result`. -/
  | result (fence : AgentFence) (state : ResultState) (result : Option ResultDocument)
      (reason : String) (source : Option AgentSource) (takes : Time) (view : View)
      (recipe : RecipeProjection)
  | quiescePending (r : Uuid) (role : ProjectionRole)
  | quiesceForUnavailableTarget (r jobId : Uuid) (reason : String)
  | sweepExpiredMutations (r jobId : Uuid)
  /-- A rollout gives up on an operation that is not done in time, or whose peer failed. -/
  | rolloutExpiry (op : Uuid)
  /-- A finished rollback compensates the update that it undid. -/
  | compensated (op : Uuid)
  /-- `record_node_result` of the recipe service. -/
  | recordNodeResult (op : Uuid) (succeeded : Bool)
  /-- An operator answers an attempt. -/
  | disposition (op : Uuid) (answer : Option RetryDisposition) (attempt : Option ℕ)
  /-- Any transaction that writes neither operations nor attempts. -/
  | environment (tables : Database)

def QueueEvent.fence? : QueueEvent → Option AgentFence
  | heartbeat fence _ _ _ => some fence
  | result fence _ _ _ _ _ _ _ => some fence
  | _ => none

inductive QueueOutput
  | done
  | claimed (c : AgentClaim)
  | beaten (a : AgentOperationAttempt)
  | finished (a : AgentOperationAttempt)

def QueueOutput.accepted : QueueOutput → Option AgentOperationAttempt
  | beaten a => some a
  | finished a => some a
  | _ => none

def reconciliationWithPlan (db : Database) (id : Uuid) :
    Except JobError (Reconciliation × ResolvedPlan) :=
  match db.reconciliations.get? id with
  | none => .error (.keyError id)
  | some r => do
    let plan ← planOf r
    .ok (r, plan)

def storedOperation (db : Database) (id : Uuid) : Except JobError StoredOperation :=
  match db.operations.get? id with
  | none => .error (.keyError id)
  | some op => .ok op

def recordDisposition (db : Database) (id : Uuid) (answer : Option RetryDisposition)
    (attempt : Option ℕ) : Except JobError Database := do
  let op ← storedOperation db id
  .ok (setOperation db op.id fun o =>
    { o with retryDisposition := answer, retryDispositionAttempt := attempt })

def queueWrites (cfg : Config) (now : Time) (db : Database) :
    QueueEvent → Except JobError (Database × QueueOutput)
  | .enqueue readAt n authorizer => do
    let db' ← enqueueInSession db readAt n authorizer
    .ok (db', .done)
  | .finalizeUpdate n => do
    let db' ← insertOperation db now n
    .ok (db', .done)
  | .claim commit req fence => do
    let (claimed, db') ← claim cfg ⟨now, commit⟩ req fence db
    .ok (db', match claimed with | some c => .claimed c | none => .done)
  | .heartbeat fence leaseSeconds source takes => do
    let (a, db') ← heartbeat cfg ⟨now, none⟩ (now + takes) db fence leaseSeconds source
    .ok (db', .beaten a)
  | .result fence state result reason source takes view recipe => do
    let consumer := resultConsumer { view with now := now + takes } recipe
    let (a, db') ← finish cfg consumer ⟨now, none⟩ (now + takes) db fence state result reason source
    .ok (db', .finished a)
  | .quiescePending id role => do
    let (r, plan) ← reconciliationWithPlan db id
    let (_, db') ← quiescePending db now r.id plan role
    .ok (db', .done)
  | .quiesceForUnavailableTarget id jobId reason => do
    let (r, plan) ← reconciliationWithPlan db id
    let db' ← quiesceForUnavailableTarget db now r jobId plan reason
    .ok (db', .done)
  | .sweepExpiredMutations id jobId => do
    let (r, plan) ← reconciliationWithPlan db id
    let (_, db') ← sweepExpiredMutations db now r jobId plan
    .ok (db', .done)
  | .rolloutExpiry id => do
    let op ← storedOperation db id
    .ok (expireOperation db now op, .done)
  | .compensated id => do
    let op ← storedOperation db id
    .ok (setOperation db op.id fun o => { o with state := .compensated }, .done)
  | .recordNodeResult id succeeded => do
    let op ← storedOperation db id
    let state := if succeeded then .succeeded else .failed
    .ok (setOperation db op.id fun o => { o with state := state, updatedAt := now }, .done)
  | .disposition id answer attempt => do
    let db' ← recordDisposition db id answer attempt
    .ok (db', .done)
  | .environment tables =>
    .ok ({ tables with operations := db.operations, attempts := db.attempts }, .done)

/-- How long a transaction runs on its own clock after it read it first. -/
def QueueEvent.takes : QueueEvent → Time
  | heartbeat _ _ _ takes => takes
  | result _ _ _ _ _ takes _ _ => takes
  | _ => 0

def queueStep (cfg : Config) (s : QueueState) (e : Time × QueueEvent) :
    Except JobError (QueueState × QueueOutput) := do
  let (db', output) ← queueWrites cfg (s.clock + e.1) s.db e.2
  .ok (⟨s.clock + e.1 + e.2.takes, db'⟩, output)

section Steps

variable {cfg : Config} {now : Time} {db db' : Database} {s t : QueueState}

lemma quiet_expireActiveAttempt {op : StoredOperation} {f : StoredOperation → StoredOperation}
    {hf : ∀ o, (f o).id = o.id} (hop : Quiet db (setOperation db op.id f hf))
    (hrun : ∀ o, (f o).state ≠ .running) :
    Quiet db (setOperation (expireActiveAttempt db now op) op.id f hf) := by
  unfold expireActiveAttempt
  split
  · exact hop
  refine quiet_close hop hrun ?_
  intro a
  refine ⟨rfl, rfl, rfl, ?_⟩
  intro hr
  by_contra hn
  simp [hn] at hr

lemma quiet_expireOperation (op : StoredOperation) : Quiet db (expireOperation db now op) := by
  unfold expireOperation
  split
  · exact quiet_setOperation_state db op.id now rfl
  · exact quiet_expireActiveAttempt (quiet_setOperation_state db op.id now rfl) fun _ => by simp
  exact .refl db

lemma calm_recordDisposition (h : recordDisposition db id answer attempt = .ok db') :
    Calm db db' := by
  obtain ⟨op, _, h⟩ := of_bind_ok h
  cases h
  apply calm_setOperation
  intro o
  exact ⟨rfl, rfl, rfl, rfl, rfl, fun hq => hq, fun hr => hr⟩

lemma answered_recordDisposition (h : recordDisposition db id answer attempt = .ok db') {k : Uuid}
    {o' : StoredOperation} {n : ℕ} (ho' : db'.operations.get? k = some o') (hn : Answered o' n) :
    (∃ o, db.operations.get? k = some o ∧ Answered o n) ∨
      (k = id ∧ answer = some .retry ∧ attempt = some n) := by
  obtain ⟨op, hop, h⟩ := of_bind_ok h
  cases h
  have hid : op.id = id := by
    unfold storedOperation at hop
    split at hop
    · cases hop
    next hget =>
    cases hop
    exact Table.get?_key hget
  rw [get?_setOperation] at ho'
  obtain ⟨o, ho, rfl⟩ := Option.map_eq_some_iff.mp ho'
  split at hn
  · next hk => exact .inr ⟨hk.trans hid, hn⟩
  exact .inl ⟨o, ho, hn⟩

/-- What each event does to operations and attempts. -/
inductive StepEffect (now : Time) (db db' : Database) : QueueEvent → QueueOutput → Prop
  | quiet {e : QueueEvent} (h : Quiet db db') (hf : e.fence? = none) : StepEffect now db db' e .done
  | answers {id : Uuid} {answer : Option RetryDisposition} {attempt : Option ℕ}
      (h : recordDisposition db id answer attempt = .ok db') :
      StepEffect now db db' (.disposition id answer attempt) .done
  | claims {commit : Option CommitView} {req : ClaimRequest} {fence : Uuid} {c : AgentClaim}
      (h : Dispatch ⟨now, commit⟩ req.nodeId c db db') :
      StepEffect now db db' (.claim commit req fence) (.claimed c)
  | beats {fence : AgentFence} {leaseSeconds : ℕ} {source : Option AgentSource} {takes : Time}
      {a : AgentOperationAttempt} (h : Quiet db db') (ha : Accepted now fence.token db a) :
      StepEffect now db db' (.heartbeat fence leaseSeconds source takes) (.beaten a)
  | finishes {fence : AgentFence} {state : ResultState} {result : Option ResultDocument}
      {reason : String} {source : Option AgentSource} {takes : Time} {view : View}
      {recipe : RecipeProjection} {a : AgentOperationAttempt} (h : Quiet db db')
      (ha : Accepted now fence.token db a)
      (hclosed : ∀ b, db'.attempts.get? (a.operationId, a.attempt) = some b → b.state ≠ .running) :
      StepEffect now db db' (.result fence state result reason source takes view recipe)
        (.finished a)

lemma StepEffect.calm_or_dispatch {e : QueueEvent} (he : StepEffect now db db' e output) :
    Calm db db' ∨ ∃ call nodeId c, Dispatch call nodeId c db db' ∧ output = .claimed c := by
  cases he with
  | quiet hq _ | beats hq _ | finishes hq _ _ => exact .inl hq.toCalm
  | answers hr => exact .inl (calm_recordDisposition hr)
  | claims hd => exact .inr ⟨_, _, _, hd, rfl⟩

lemma queueWrites_effect {e : QueueEvent} (h : queueWrites cfg now db e = .ok (db', output)) :
    StepEffect now db db' e output := by
  cases e with
  | enqueue =>
    obtain ⟨d, hd, h⟩ := of_bind_ok h
    cases h
    exact .quiet (quiet_enqueueInSession hd) rfl
  | finalizeUpdate =>
    obtain ⟨d, hd, h⟩ := of_bind_ok h
    cases h
    exact .quiet (quiet_insertOperation hd) rfl
  | claim =>
    obtain ⟨⟨claimed, d⟩, hd, h⟩ := of_bind_ok h
    have heffect := claim_effect hd
    cases claimed with
    | none =>
      cases h
      exact .quiet heffect rfl
    | some =>
      cases h
      exact .claims heffect
  | heartbeat =>
    obtain ⟨⟨a, d⟩, hd, h⟩ := of_bind_ok h
    cases h
    obtain ⟨hq, ha⟩ := heartbeat_effect hd
    exact .beats hq ha
  | result =>
    obtain ⟨⟨a, d⟩, hd, h⟩ := of_bind_ok h
    cases h
    obtain ⟨hq, ha, hclosed⟩ := finish_effect (quietConsumer_resultConsumer _ _) hd
    exact .finishes hq ha hclosed
  | quiescePending =>
    obtain ⟨⟨r, plan⟩, _, ⟨u, d⟩, hd, h⟩ := of_bind_ok₂ h
    cases h
    exact .quiet (settled_quiescePending hd).toQuiet rfl
  | quiesceForUnavailableTarget =>
    obtain ⟨⟨r, plan⟩, _, d, hd, h⟩ := of_bind_ok₂ h
    cases h
    exact .quiet (settled_quiesceForUnavailableTarget hd).toQuiet rfl
  | sweepExpiredMutations =>
    obtain ⟨⟨r, plan⟩, _, ⟨u, d⟩, hd, h⟩ := of_bind_ok₂ h
    cases h
    exact .quiet (settled_sweepExpiredMutations hd).toQuiet rfl
  | rolloutExpiry =>
    obtain ⟨op, _, h⟩ := of_bind_ok h
    cases h
    exact .quiet (quiet_expireOperation op) rfl
  | compensated =>
    obtain ⟨op, _, h⟩ := of_bind_ok h
    cases h
    refine .quiet (quiet_setOperation ?_ fun _ _ hn => hn) rfl
    intro o
    exact ⟨rfl, rfl, rfl, rfl, rfl, fun hq => (by cases hq), fun hr => (by cases hr)⟩
  | recordNodeResult id succeeded =>
    obtain ⟨op, _, h⟩ := of_bind_ok h
    cases h
    refine .quiet (quiet_setOperation_state db op.id now ?_) rfl
    cases succeeded <;> rfl
  | disposition =>
    obtain ⟨d, hd, h⟩ := of_bind_ok h
    cases h
    exact .answers hd
  | environment =>
    cases h
    exact .quiet (quiet_of_tables rfl rfl) rfl

lemma queueStep_effect {e : Time × QueueEvent} (h : queueStep cfg s e = .ok (t, output)) :
    StepEffect (s.clock + e.1) s.db t.db e.2 output := by
  obtain ⟨⟨d, o⟩, hd, h⟩ := of_bind_ok h
  cases h
  exact queueWrites_effect hd

end Steps

end VonkForge.AgentJobs
