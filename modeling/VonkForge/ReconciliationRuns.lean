import VonkForge.ResultSteps
import VonkForge.PublicationRuns

/-!
# Runs of reconciliations

Plans, ticks, cancellations, claims, heartbeats and results in any order.
-/

namespace VonkForge.AgentReconciliation

open AgentJobs Logged Transactions Table

variable {db db' : Database} {H : EvidenceDigest} {e : ReconciliationEvent}

inductive ReconciliationEvent
  /-- `get_or_create_resolved_plan` stores a new reconciliation. -/
  | plan (r : Reconciliation)
  /-- `JobService.enqueue` stores the job of a reconciliation. -/
  | enqueue (job : Job) (id : Uuid)
  /-- One transaction of `tick`, for any candidate that it may have selected. -/
  | tick (view : TickView) (auto : Bool) (id : Uuid)
  | enqueueCancel (id : Uuid) (reason : String)
  | claim (cfg : Config) (call : Call) (req : ClaimRequest) (fence : Uuid)
  | heartbeat (cfg : Config) (call : Call) (later : Time) (fence : AgentFence) (leaseSeconds : ℕ)
      (source : Option AgentSource)
  | result (cfg : Config) (view : View) (recipe : RecipeProjection) (call : Call) (later : Time)
      (fence : AgentFence) (state : ResultState) (document : Option ResultDocument)
      (reason : String) (source : Option AgentSource)
  /-- Any other transaction: it may write everything but reconciliations and their work. -/
  | environment (tables : Database)

section

variable (H : List (GraphId × Digest × Digest) → Digest) (db : Database)

def reconciles (jobId : Uuid) : Bool :=
  (db.jobs.get? jobId).any (·.reconciliationId.isSome)

/-- The jobs of reconciliations in `db`, and the operations beneath them, are also in `tables`. -/
def includesWork (tables : Database) : Bool :=
  (db.jobs.rows.all fun job =>
      !job.reconciliationId.isSome || tables.jobs.get? job.id = some job) &&
    db.operations.rows.all fun o =>
      !reconciles db o.parentJobId || tables.operations.get? o.id = some o

def detach (recipe : RecipeProjection) : RecipeProjection :=
  { recipe with
    cleanup := recipe.cleanup.map fun (job, ops) =>
      ({ job with reconciliationId := none }, ops.map fun n => { n with parentJobId := job.id }) }

/-- The plan validates, and its operations are for the targets. -/
def validFor (targets : NodeGroup) (plan : ResolvedPlan) : Bool :=
  validPlan plan && plan.nodes.all fun n => targets.nodes.contains n.nodeId

/-- A reconciliation is stored with a plan that validates; no row refers to it yet. -/
def storePlan (r : Reconciliation) : Except JobError Database :=
  if r.plan.any (validFor r.targets) = false ∨ (db.cancellations.get? r.id).isSome then
    .error .integrityError
  else
    match db.reconciliations.insert
      { r with status := .planned, currentPhase := .planned, completionGeneration := none } with
    | some reconciliations => .ok { db with reconciliations := reconciliations }
    | none => .error .integrityError

def storeJob (job : Job) (id : Uuid) : Except JobError Database :=
  if (db.reconciliations.get? id).isNone ∨ db.jobs.rows.any (·.reconciliationId = some id) ∨
      db.operations.rows.any (·.parentJobId = job.id) then .error .integrityError
  else
    match db.jobs.insert { job with kind := .other, state := .queued, reconciliationId := some id } with
    | some jobs => .ok { db with jobs := jobs }
    | none => .error .integrityError

/-- One transaction, with the digest function `H` of evidence sets. -/
def reconciliationStep : ReconciliationEvent → Logged JobError PublisherCall Database
  | .plan r => .lift (storePlan db r)
  | .enqueue job id => .lift (storeJob db job id)
  | .tick view auto id => do
    let (_, db') ← tickCandidate { view with evidenceSetDigest := H } auto db id
    pure db'
  | .enqueueCancel id reason => .lift (enqueueCancel db id reason)
  | .claim cfg call req fence => .lift do
    let (_, db') ← claim cfg call req fence db
    .ok db'
  | .heartbeat cfg call later fence leaseSeconds source => .lift do
    let (_, db') ← heartbeat cfg call later db fence leaseSeconds source
    .ok db'
  | .result cfg view recipe call later fence state document reason source => .lift do
    let (_, db') ← finish cfg (resultConsumer view (detach recipe)) call later db fence state
      document reason source
    .ok db'
  | .environment tables =>
    if includesWork db tables && includesWork tables db then
      pure { tables with
        reconciliations := db.reconciliations
        projections := db.projections
        cancellations := db.cancellations
        publications := db.publications
        publicationOwner := db.publicationOwner
        lastCompletion := db.lastCompletion }
    else .lift (.error .integrityError)

/-- The operations that a transaction stored beneath the jobs of reconciliations, each by the
projection that it is queued for. -/
def enqueuedWork (db' : Database) : List (Option (Uuid × GraphId × ProjectionRole)) :=
  (db'.operations.rows.filter fun o =>
    (db.operations.get? o.id).isNone && reconciles db' o.parentJobId).map fun o =>
      (projectionOf db' o.id).map Keyed.key

structure Committed where
  calls : List PublisherCall
  enqueued : List (Option (Uuid × GraphId × ProjectionRole))

def reconciliationCommit (e : ReconciliationEvent) : Except JobError (Database × Committed) :=
  (reconciliationStep H db e).commits.map fun out =>
    (out.1, ⟨out.2, enqueuedWork db out.1⟩)

def afterRun (events : List ReconciliationEvent) : Database :=
  run (reconciliationCommit H) {} events

def ReconciliationEvent.ticks (id : Uuid) : ReconciliationEvent → Bool
  | .tick _ _ k => k = id
  | _ => false

/-- What a committed transaction does to the lives: each takes one step at most. -/
structure Transition (e : ReconciliationEvent) (db db' : Database) : Prop where
  consistent : Consistent H db'
  steps : ∀ id l, lifeOf db id = some l → ∃ l', lifeOf db' id = some l' ∧
    Step H (ownsNow db id) l l' ∧
      (e.ticks id = false → l.applies → l'.cancellation = l.cancellation)
  born : ∀ id l', lifeOf db id = none → lifeOf db' id = some l' → ∀ g role, l'.rows g role = none
  fresh : ∀ k p i, db'.projections.get? k = some p → p.agentOperationId = some i →
    HadOperation db k i ∨ db.operations.get? i = none

end

section Step

variable {job : Job} {tables : Database} {id k : Uuid}

lemma detached_detach (recipe : RecipeProjection) : Detached (detach recipe) := by
  intro job ops h
  obtain ⟨⟨job', ops'⟩, -, h⟩ := Option.map_eq_some_iff.mp h
  cases h
  refine ⟨rfl, ?_⟩
  intro n hn
  obtain ⟨n', -, rfl⟩ := List.mem_map.mp hn
  rfl

lemma sound_planned {plan : ResolvedPlan} (hplan : validPlan plan = true)
    {status : ReconciliationStatus} {evidence : Option Digest} :
    Sound H ⟨plan, .planned, status, fun _ _ => none, none, evidence⟩ where
  plan := hplan
  nodes := by simp
  states := by simp
  unbound := by simp
  digests := by simp
  queued := by simp
  accepted := by simp [accomplished]
  settled := by simp
  pending := by simp
  compensations := by simp
  compensated := by simp
  failed := by simp

lemma unmoved_storeJob (hw : Working none db) (hs : storeJob db job id = .ok db') :
    Unmoved db db' := by
  unfold storeJob at hs
  split at hs
  · cases hs
  next hguard =>
  simp only [not_or] at hguard
  split at hs
  · next jobs hinsert =>
    cases hs
    refine unmoved_insertJob hw hinsert fun _ => ⟨rfl, ?_⟩
    intro k o ho hparent
    exact hguard.2.2 (List.any_eq_true.mpr ⟨o, mem_of_get? ho, by simpa using hparent⟩)
  cases hs

lemma includesWork_job (h : includesWork db tables = true) (hj : db.jobs.get? k = some job)
    (hr : job.reconciliationId.isSome = true) :
    tables.jobs.get? k = some job := by
  simp only [includesWork, Bool.and_eq_true, List.all_eq_true] at h
  have hjob := h.1 job (mem_of_get? hj)
  obtain rfl : job.id = k := get?_key hj
  simpa [hr] using hjob

lemma includesWork_operation (h : includesWork db tables = true) {o : StoredOperation}
    (ho : db.operations.get? k = some o) (hj : db.jobs.get? o.parentJobId = some job)
    (hr : job.reconciliationId.isSome = true) :
    tables.operations.get? k = some o := by
  simp only [includesWork, Bool.and_eq_true, List.all_eq_true] at h
  have hop := h.2 o (mem_of_get? ho)
  obtain rfl : o.id = k := get?_key ho
  simpa [reconciles, hj, hr] using hop

lemma unmoved_environment (hw : Working none db) (h : includesWork db tables = true)
    (h' : includesWork tables db = true) (hp : db'.projections = db.projections)
    (hr : db'.reconciliations = db.reconciliations) (hc : db'.cancellations = db.cancellations)
    (hb : db'.publications = db.publications) (hj : db'.jobs = tables.jobs)
    (ho : db'.operations = tables.operations) : Unmoved db db' := by
  refine ⟨⟨?_, ?_, ?_, ?_, ?_⟩, hp, hc, lifeOf_of_tables hr hp hc hb⟩
  · rw [ho, hj, hp]
    intro id o job r hop hjob hid
    have hsome : job.reconciliationId.isSome = true := by rw [hid]; rfl
    exact hw.projected id o job r (includesWork_operation h' hop hjob hsome)
      (includesWork_job h' hjob hsome) hid
  · rw [hp]
    intro k p id hk hid
    obtain ⟨o, job, hbound⟩ := hw.bound k p id hk hid
    have hsome : job.reconciliationId.isSome = true := by rw [hbound.reconciliation]; rfl
    refine ⟨o, job, ?_, ?_, hbound.reconciliation, hbound.unsigned, hbound.unanswered,
      hbound.unfinished⟩
    · rw [ho]
      exact includesWork_operation h hbound.operation hbound.parent hsome
    rw [hj]
    exact includesWork_job h hbound.parent hsome
  · rw [hp]
    exact hw.unique
  · rw [hp]
    exact hw.queued
  rw [hj]
  intro k job hjob hsome
  exact hw.jobs k job (includesWork_job h' hjob hsome) hsome

variable (h : Consistent H db)

include h

lemma Consistent.transition_unmoved (hu : Unmoved db db') : Transition H e db db' := by
  refine ⟨h.unmoved hu, ?_, ?_, fun k p i hp hi => .inl (hu.hadOperation.mp ⟨p, hp, hi⟩)⟩
  · intro id l hl
    exact ⟨l, (hu.lives id).trans hl, .idle, fun _ _ => rfl⟩
  intro id l' hl hl'
  rw [hu.lives id, hl] at hl'
  cases hl'

lemma Consistent.transition_advances (ha : Advances H (ownsNow db id) id db db')
    (hc : e.ticks id = false → db'.cancellations = db.cancellations ∨
      db.cancellations.get? id = none) :
    Transition H e db db' := by
  obtain ⟨l, l', hl, hl', hstep⟩ := ha.self
  refine ⟨h.advances ha, ?_, ?_, ha.fresh⟩
  · intro k m hm
    by_cases hk : k = id
    · subst hk
      obtain rfl : l = m := Option.mem_unique hl hm
      refine ⟨l', hl', hstep, fun hticks happlies => ?_⟩
      obtain ⟨r, plan, hid, -, -, rfl⟩ := exists_row_of_life hl
      obtain ⟨r', plan', hid', -, -, rfl⟩ := exists_row_of_life hl'
      simp only [Life.applies, lifeRow, hid] at happlies
      simp only [lifeRow, hid, hid']
      rcases hc hticks with hsame | hnone
      · rw [hsame]
      simp [hnone] at happlies
    exact ⟨m, (ha.others k hk).trans hm, .idle, fun _ _ => rfl⟩
  intro k m hk hm
  by_cases hkid : k = id
  · rw [hkid, hl] at hk
    cases hk
  rw [ha.others k hkid, hk] at hm
  cases hm

lemma Consistent.transition_evolves (he : Evolves H db db') : Transition H e db db' := by
  cases he with
  | unmoved hu => exact h.transition_unmoved hu
  | advances hc _ ha => exact h.transition_advances (ha _) fun _ => .inl hc

lemma transition_storePlan {r : Reconciliation} (hs : storePlan db r = .ok db') :
    Transition H e db db' := by
  unfold storePlan at hs
  split at hs
  · cases hs
  next hvalid =>
  simp only [not_or, Bool.not_eq_false, Bool.not_eq_true, Option.isSome_eq_false_iff,
    Option.isNone_iff_eq_none] at hvalid
  obtain ⟨hplan, hcancel⟩ := hvalid
  split at hs
  · next reconciliations hinsert =>
    cases hs
    have hget : ∀ k, reconciliations.get? k = if k = r.id then
        some { r with status := .planned, currentPhase := .planned, completionGeneration := none }
        else db.reconciliations.get? k := get?_insert hinsert
    have hnew : db.reconciliations.get? r.id = none := (insert_eq_some.mp hinsert).1
    have hdead : lifeOf db r.id = none := by simp only [lifeOf, hnew, Option.bind_none]
    -- no projection belongs to a reconciliation that is not stored
    have hrows : ∀ g role, db.projections.get? (r.id, g, role) = none := by
      intro g role
      by_contra hne
      obtain ⟨p, hp⟩ := Option.ne_none_iff_exists'.mp hne
      obtain ⟨l, hl⟩ := h.lived _ p hp
      rw [hdead] at hl
      cases hl
    have hother : ∀ k, k ≠ r.id →
        lifeOf { db with reconciliations := reconciliations } k = lifeOf db k := by
      intro k hk
      refine lifeOf_congr ?_ (fun _ _ => rfl) rfl rfl
      rw [hget, if_neg hk]
    obtain ⟨plan, hplan', hvalid⟩ : ∃ plan, r.plan = some plan ∧ validPlan plan = true := by
      cases hp : r.plan with
      | none =>
        rw [hp] at hplan
        cases hplan
      | some plan =>
        rw [hp, Option.any_some, validFor, Bool.and_eq_true] at hplan
        exact ⟨plan, rfl, hplan.1⟩
    have hself : lifeOf { db with reconciliations := reconciliations } r.id =
        some ⟨plan, .planned, .planned, fun _ _ => none, none,
          (db.publications.get? r.id).bind (·.evidenceDigest)⟩ := by
      simp only [lifeOf, hget, if_true, Option.bind_some, hplan', Option.map_some, lifeRow, hrows,
        hcancel, Option.map_none]
    refine ⟨⟨h.working.of_tables rfl rfl rfl, ?_, ?_⟩, ?_, ?_,
      fun k p i hp hi => .inl ⟨p, hp, hi⟩⟩
    · intro k p hp
      by_cases hk : k.1 = r.id
      · exact ⟨_, hk ▸ hself⟩
      rw [hother _ hk]
      exact h.lived k p hp
    · intro id l hl
      by_cases hid : id = r.id
      · subst hid
        rw [hself] at hl
        cases hl
        exact sound_planned hvalid
      rw [hother id hid] at hl
      exact h.sound id l hl
    · intro id l hl
      have hid : id ≠ r.id := by
        rintro rfl
        rw [hdead] at hl
        cases hl
      exact ⟨l, (hother id hid).trans hl, .idle, fun _ _ => rfl⟩
    intro id l' hl hl' g role
    by_cases hid : id = r.id
    · subst hid
      rw [hself] at hl'
      cases hl'
      rfl
    rw [hother id hid, hl] at hl'
    cases hl'
  cases hs

lemma reconciliationStep_ensures (e : ReconciliationEvent) :
    Ensures (Published H db) (fun _ db' => Transition H e db db') (reconciliationStep H db e) := by
  cases e with
  | plan => exact ensures_lift fun _ hs => transition_storePlan h hs
  | enqueue =>
    exact ensures_lift fun _ hs => h.transition_unmoved (unmoved_storeJob h.working hs)
  | tick view auto id =>
    have htick := @ticks_tickCandidate H id db { view with evidenceSetDigest := H } auto h.working
      (h.sound id) rfl
    refine htick.bind ?_
    rintro log ⟨_, db'⟩ ha
    exact ensures_pure (h.transition_advances ha (by simp [ReconciliationEvent.ticks]))
  | enqueueCancel =>
    apply ensures_lift
    intro db' hs
    rcases advances_enqueueCancel h hs with hu | ⟨hnone, ha⟩
    · exact h.transition_unmoved hu
    exact h.transition_advances (ha _) fun _ => .inr hnone
  | claim =>
    apply ensures_lift
    intro db' hs
    obtain ⟨⟨claimed, d⟩, hclaim, hs⟩ := of_bind_ok hs
    cases hs
    exact h.transition_evolves (evolves_claim h hclaim)
  | heartbeat =>
    apply ensures_lift
    intro db' hs
    obtain ⟨⟨attempt, d⟩, hbeat, hs⟩ := of_bind_ok hs
    cases hs
    exact h.transition_unmoved (unmoved_heartbeat h.working hbeat)
  | result cfg view recipe =>
    apply ensures_lift
    intro db' hs
    obtain ⟨⟨attempt, d⟩, hfinish, hs⟩ := of_bind_ok hs
    cases hs
    exact h.transition_evolves (evolves_finish h (detached_detach recipe) hfinish)
  | environment =>
    simp only [reconciliationStep]
    split
    · next hwork =>
      simp only [Bool.and_eq_true] at hwork
      exact ensures_pure (h.transition_unmoved
        (unmoved_environment h.working hwork.1 hwork.2 rfl rfl rfl rfl rfl rfl))
    exact ensures_lift fun _ hs => (by cases hs)

end Step

section Runs

variable {out : Committed}

lemma reconciliationCommit_eq_ok (h : reconciliationCommit H db e = .ok (db', out)) :
    (reconciliationStep H db e).result = .ok db' ∧ out.enqueued = enqueuedWork db db' := by
  unfold reconciliationCommit at h
  cases hc : (reconciliationStep H db e).commits with
  | error =>
    rw [hc] at h
    cases h
  | ok =>
    rw [hc] at h
    cases h
    exact ⟨(commits_eq_ok.mp hc).1, rfl⟩

lemma reconciliationCommit_transition (hs : Consistent H db)
    (h : reconciliationCommit H db e = .ok (db', out)) : Transition H e db db' :=
  (reconciliationStep_ensures hs e).2 db' (reconciliationCommit_eq_ok h).1

lemma consistent_empty : Consistent H {} := by
  refine ⟨⟨?_, ?_, ?_, ?_, ?_⟩, ?_, ?_⟩
  · exact fun _ _ _ _ ho => by cases ho
  · exact fun _ _ _ hp => by cases hp
  · exact fun _ _ _ _ _ hp => by cases hp
  · exact fun _ _ hp => by cases hp
  · exact fun _ _ hj => by cases hj
  · exact fun _ _ hp => by cases hp
  exact fun _ _ hl => by cases hl

lemma consistent_run (hs : Consistent H db) (events : List ReconciliationEvent) :
    Consistent H (run (reconciliationCommit H) db events) :=
  run_preserves (fun _ _ _ _ hs h => (reconciliationCommit_transition hs h).consistent) hs events

lemma consistent_afterRun (events : List ReconciliationEvent) : Consistent H (afterRun H events) :=
  consistent_run consistent_empty events

end Runs

/-- In every run each operation beneath a reconciliation's job is the one of exactly one projection,
and is unfinished as long as that is queued. -/
theorem work_projected_once (H : EvidenceDigest) (events : List ReconciliationEvent) :
    (∀ k p id, (afterRun H events).projections.get? k = some p → p.agentOperationId = some id →
      ∃ o job, Bound none (afterRun H events) p id o job) ∧
    ∀ id o job r, (afterRun H events).operations.get? id = some o →
      (afterRun H events).jobs.get? o.parentJobId = some job → job.reconciliationId = some r →
      ∃! k, k.1 = r ∧ ∃ p, (afterRun H events).projections.get? k = some p ∧
        p.agentOperationId = some id := by
  have hw := (@consistent_afterRun H events).working
  refine ⟨hw.bound, ?_⟩
  intro id o job r ho hjob hr
  obtain ⟨g, role, p, hp, hid⟩ := hw.projected id o job r ho hjob hr
  refine ⟨(r, g, role), ⟨rfl, p, hp, hid⟩, ?_⟩
  rintro k ⟨-, q, hq, hqid⟩
  exact hw.unique k _ q p id hq hp hqid hid

/-- Over every run the life of a reconciliation takes steps of the abstract machine only: its plan
stays, and what was accepted stays accepted. -/
theorem run_refines_life (H : EvidenceDigest) (events later : List ReconciliationEvent) (id : Uuid) :
    lifeOf (afterRun H events) id = none ∨ ∃ l l', lifeOf (afterRun H events) id = some l ∧
      lifeOf (afterRun H (events ++ later)) id = some l' ∧ Sound H l' ∧
      Relation.ReflTransGen (fun l l' => ∃ owns, Step H owns l l') l l' ∧ l'.plan = l.plan ∧
      ∀ g, l.isAccepted g = true → l'.isAccepted g = true := by
  cases hl : lifeOf (afterRun H events) id with
  | none => exact .inl rfl
  | some l =>
    have hrun := @run_preserves _ _ _ _ (reconciliationCommit H)
      (fun db => Consistent H db ∧ ∃ l', lifeOf db id = some l' ∧
        Relation.ReflTransGen (fun l l' => ∃ owns, Step H owns l l') l l' ∧ l'.plan = l.plan ∧
        ∀ g, l.isAccepted g = true → l'.isAccepted g = true) ?_ (afterRun H events)
      ⟨consistent_afterRun events, l, hl, .refl, rfl, fun _ hg => hg⟩ later
    · unfold afterRun at hrun ⊢
      rw [← run_append] at hrun
      obtain ⟨hs, l', hl', hrest⟩ := hrun
      exact .inr ⟨l, l', rfl, hl', hs.sound id l' hl', hrest⟩
    rintro db e db' out ⟨hs, l₁, hl₁, hsteps, hplan, haccepted⟩ h
    have ht := reconciliationCommit_transition hs h
    obtain ⟨l₂, hl₂, hstep, -⟩ := ht.steps id l₁ hl₁
    exact ⟨ht.consistent, l₂, hl₂, hsteps.tail ⟨_, hstep⟩, hstep.plan_eq.trans hplan,
      fun g hg => hstep.isAccepted_mono (haccepted g hg)⟩

def oneAgent : Database :=
  { nodes := .single { nodeId := 1 }
    certificates := .single
      { serial := 1, nodeId := 1, notBefore := 0, notAfter := seconds 1000, fingerprint := 0 } }

/-- A tick of the reconciliation, with a publisher that answers; new operations are numbered from
`base` on. -/
def tickFrom (base : Uuid) : ReconciliationEvent :=
  .tick { now := 0, fence := 3, freshId := fun g => base + g,
          publisher := some fun _ => .ok ⟨1, 0, 0, 0, seconds 60⟩ } true 7

/-- A plan for the agent is stored with its job, and ticks bring it to its first wave. -/
def dispatchedRun (nodes : List OperationNode) : List ReconciliationEvent :=
  [.environment oneAgent,
    .plan { id := 7, targets := ⟨[1], nodup_one, one_ne_nil⟩,
            plan := some { nodes, protocolRange := (1, 2) } },
    .enqueue { id := 8, targets := [1] } 7,
    tickFrom 20, tickFrom 20, tickFrom 20, tickFrom 20]

def executed (fence : Uuid) (state : AgentJobs.ResultState) : List ReconciliationEvent :=
  [.claim {} ⟨0, none⟩ { nodeId := 1, certificateSerial := 1, leaseSeconds := 1 } fence,
    .result {} { now := 0 } {} ⟨0, none⟩ 0 (.bare fence) state
      (some { probeHealth := some none }) "" none]

end VonkForge.AgentReconciliation
