import VonkForge.QueueSteps

/-!
# Results as steps of a life

The result of an operation beneath a reconciliation advances its life by one step.
-/

namespace VonkForge.AgentReconciliation

open AgentJobs Table

variable {attempt : AgentOperationAttempt} {message : AgentResult} {db mid db' : Database}
  {H : EvidenceDigest} {job : Job} {recipe : RecipeProjection} {r : Reconciliation}
  {p : ReconciliationOperation} {plan : ResolvedPlan} {op op' : StoredOperation} {reason : String}
  {now : Time} {view : View}

section Authority

/-- The projection of an operation whose fence is in force is queued, in the phase of its role. -/
structure InForce (H : List (GraphId × Digest × Digest) → Digest) (db : Database)
    (op : StoredOperation) (p : ReconciliationOperation) (r : Reconciliation) (job : Job)
    (plan : ResolvedPlan) : Prop where
  context : Context H db r job plan
  operation : db.operations.get? op.id = some op
  parent : db.jobs.get? op.parentJobId = some job
  reconciliation : r.id = p.reconciliationId
  projection : db.projections.get? (Keyed.key p) = some p
  bound : p.agentOperationId = some op.id
  queued : p.state = .queued
  phase : r.currentPhase = expectedPhase p.role

lemma Consistent.inForce (h : Consistent H db) (ho : db.operations.get? op.id = some op)
    (hauth : requireActiveReconciliationAuthority db op = .ok ())
    (hp : db.projections.get? (Keyed.key p) = some p) (hid : p.agentOperationId = some op.id) :
    ∃ r job plan, InForce H db op p r job plan := by
  obtain ⟨o, job, hb⟩ := h.working.bound _ p op.id hp hid
  obtain rfl : o = op := Option.mem_unique hb.operation ho
  have hjid : job.id = o.parentJobId := get?_key hb.parent
  obtain ⟨r, plan, hrid, hcx⟩ := h.context hp (hjid ▸ hb.parent) hb.reconciliation
  unfold requireActiveReconciliationAuthority at hauth
  rw [hb.parent] at hauth
  simp only [hb.reconciliation] at hauth
  split at hauth
  · next r' q hr' hfind =>
    split at hauth
    · next hactive =>
      obtain ⟨hq, hmatch⟩ := get?_of_find hfind
      simp only [decide_eq_true_eq] at hmatch
      -- the operation has one projection, so the authority was checked on `p`
      have hkey := h.working.unique _ _ q p o.id hq hp hmatch.2 hid
      obtain rfl : q = p := Option.mem_unique hq (hkey ▸ hp)
      have hrow : (lifeRow db r plan).rows q.graphOperationId q.role = some q := by
        simp only [lifeRow, hrid]
        exact hp
      have hqueued : q.state = .queued := by
        rcases hactive.2.2.2 with hs | hs
        · exact hs
        have hlegal := hcx.sound.states _ _ q hrow
        rw [hs] at hlegal
        cases hrole : q.role <;> rw [hrole] at hlegal <;> cases hlegal
      exact ⟨r, job, plan, hcx, ho, hb.parent, hrid, hp, hid, hqueued,
        hcx.phase_of_queued hrid hp hqueued⟩
    cases hauth
  cases hauth

lemma InForce.not_ended (h : InForce H db op p r job plan) : ended r.currentPhase = false := by
  rw [h.phase]
  exact ended_expectedPhase _

end Authority

section Closed

/-- Only the operation `k` and attempts were written, and the operation is finished. -/
structure Finishes (k : Uuid) (db db' : Database) : Prop where
  working : Working (some k) db'
  finished : ∀ o, db'.operations.get? k = some o → o.state.unfinished = false
  reconciliations : db'.reconciliations = db.reconciliations
  projections : db'.projections = db.projections
  cancellations : db'.cancellations = db.cancellations
  publications : db'.publications = db.publications
  jobs : db'.jobs = db.jobs

lemma Finishes.life {k : Uuid} (h : Finishes k db db') (id : Uuid) : lifeOf db' id = lifeOf db id :=
  lifeOf_of_tables h.reconciliations h.projections h.cancellations h.publications id

lemma finishes_closeAttempt (hw : Working none db) (state : ResultState)
    (result : ResultDocument) :
    Finishes op.id db (closeAttempt db now op attempt state result) := by
  have hfin : state.operation.unfinished = false := by cases state <;> rfl
  have hattempt : Working none (setAttempt db op.id attempt.attempt fun a =>
      { a with state := state.attempt, result := some result }) := hw.of_tables rfl rfl rfl
  refine ⟨?_, ?_, rfl, rfl, rfl, rfl, rfl⟩
  · refine hattempt.setOperation_skip ?_ (.inl rfl)
    exact fun _ => ⟨rfl, rfl, fun hn => hn⟩
  intro o ho
  rw [closeAttempt, get?_setOperation] at ho
  obtain ⟨o', -, rfl⟩ := Option.map_eq_some_iff.mp ho
  simpa using hfin

lemma InForce.parks (h : InForce H db op p r job plan) (hf : Fences r.id db mid) {d : Database}
    (hq : quiesceBoth mid now r.id plan = .ok d) (jobId : Uuid) (reason : String) :
    Evolves H db (waitForOperator d now r.id jobId reason) := by
  obtain ⟨hf', hc⟩ := fences_quiesceBoth hf.working hq
  exact .fenced (hf.trans hf') rfl rfl fun owns =>
    h.context.parked (hf.trans hf') hc h.not_ended jobId reason

variable {jobId : Uuid}

def acceptedRow (role : ProjectionRole) (result evidence : Digest) (q : ReconciliationOperation) :
    ReconciliationOperation :=
  { q with
    resultDigest := some result
    evidenceDigest := some evidence
    state := if role = .compensation then .compensated else .accepted }

lemma hadOperation_accept (hm : Finishes op.id db mid) (result evidence : Digest)
    (k : Uuid × GraphId × ProjectionRole) (q : ReconciliationOperation) (i : Uuid)
    (hq : (updateProjection mid p (acceptedRow p.role result evidence)).projections.get? k = some q)
    (hi : q.agentOperationId = some i) : HadOperation db k i := by
  have hget := (get?_updateProjection p (acceptedRow p.role result evidence) (fun _ => rfl) k).symm.trans hq
  rw [hm.projections] at hget
  obtain ⟨q', hq', rfl⟩ := Option.map_eq_some_iff.mp hget
  refine ⟨q', hq', ?_⟩
  split at hi
  · exact hi
  exact hi

lemma Context.no_compensations (h : Context H db r job plan)
    (hphase : r.currentPhase = .dispatching) : Cleared r.id .compensation db := by
  intro g q hq
  have hrec := h.sound.compensations g q hq
  simp only [lifeRow, hphase] at hrec
  cases hrec

lemma evolves_handlePrimaryFailure (h : InForce H db op p r job plan) (hrole : p.role = .primary)
    (hf : Fences r.id db mid) {failed : OperationNode}
    (hh : handlePrimaryFailure mid now r jobId plan failed reason = .ok db') :
    Evolves H db db' := by
  have hphase : r.currentPhase = .dispatching := by rw [h.phase, hrole, expectedPhase]
  obtain ⟨⟨uncertain, d⟩, hd, hh⟩ := of_bind_ok hh
  obtain ⟨hf', hprimary⟩ := fences_quiescePending hf.working hd
  have hall := hf.trans hf'
  have hc : ∀ role, Cleared r.id role d := by
    rintro ⟨⟩
    · exact hprimary
    exact hall.cleared (h.context.no_compensations hphase)
  simp only at hh
  split at hh
  · cases hh
    exact .fenced hall rfl rfl fun owns =>
      h.context.parked hall hc h.not_ended jobId _
  split at hh
  · cases hh
    exact .fenced hall rfl rfl fun owns =>
      h.context.fenced hall hc (hall.working.setReconciliation _ _ _ _)
        (fun k => lifeOf_setReconciliation _ _ _ _ k) (fun _ => rfl) (.compensate hphase) rfl
  split at hh
  · cases hh
    exact .fenced hall rfl rfl fun owns =>
      h.context.parked hall hc h.not_ended jobId reason
  cases hh
  exact .fenced hall rfl rfl fun owns =>
    h.context.fenced hall hc ((hall.working.setReconciliation _ _ _ _).setJob _ _ _ _)
      (fun k => (lifeOf_setJob _ _ _ _ k).trans (lifeOf_setReconciliation _ _ _ _ k))
      (fun _ => rfl) (.fail hphase) rfl

lemma planOf_eq_ok (h : planOf r = .ok plan) : r.plan = some plan := by
  unfold planOf at h
  split at h
  · next plan' hplan =>
    cases h
    exact hplan
  cases h

variable (h : InForce H db op p r job plan) (hm : Finishes op.id db mid)

include h hm

lemma InForce.settles {f : ReconciliationOperation → ReconciliationOperation}
    {hf : ∀ q, Keyed.key (f q) = Keyed.key q}
    (hop : ∀ q, (f q).agentOperationId = q.agentOperationId)
    (hstate : ∀ q, (f q).state = .failed ∨ (f q).state = .waitingForOperator) :
    Fences r.id db (updateProjection mid p f hf) :=
  (fences_settle hm.reconciliations hm.cancellations hm.publications hm.jobs hm.projections
    hm.working h.reconciliation.symm h.projection h.bound h.queued hm.finished hop hstate).1

lemma evolves_loseResult (hid : op'.id = op.id)
    (hl : loseResult mid now op' attempt p r.id jobId plan reason = .ok db') :
    Evolves H db db' := by
  unfold loseResult at hl
  rw [hid] at hl
  obtain ⟨d, hd, hl⟩ := of_bind_ok hl
  cases hl
  have hattempt : Working (some op.id) (setAttempt mid op.id attempt.attempt fun a =>
      { a with state := quiescedAttempt (mutation op'.kind) }) := hm.working.of_tables rfl rfl rfl
  have hquiesced : Finishes op.id db (setOperation
      (setAttempt mid op.id attempt.attempt fun a =>
        { a with state := quiescedAttempt (mutation op'.kind) })
      op.id fun o => { o with state := quiescedOperation (mutation op'.kind), updatedAt := now }) := by
    refine ⟨?_, ?_, hm.reconciliations, hm.projections, hm.cancellations, hm.publications, hm.jobs⟩
    · refine hattempt.setOperation_skip ?_ (.inr rfl)
      exact fun _ => ⟨rfl, rfl, fun hn => hn⟩
    intro o ho
    rw [get?_setOperation] at ho
    obtain ⟨o', -, rfl⟩ := Option.map_eq_some_iff.mp ho
    simp [unfinished_quiescedOperation]
  refine h.parks ?_ hd jobId reason
  refine h.settles hquiesced (fun _ => rfl) ?_
  intro q
  cases mutation op'.kind
  · exact .inl rfl
  exact .inr rfl

lemma advances_accept (result evidence : Digest) {owns : Bool} :
    Advances H owns r.id db (updateProjection mid p (acceptedRow p.role result evidence)) := by
  have hrow : (lifeRow db r plan).rows p.graphOperationId p.role = some p := by
    simp only [lifeRow, h.reconciliation]
    exact h.projection
  refine h.context.advancesRows ?_ (f := fun l => l.setRow p.graphOperationId p.role
    (acceptedRow p.role result evidence p)) ?_ (.accept h.phase hrow h.queued) ?_
    (fun k q i hq hi => .inl (hadOperation_accept hm result evidence k q i hq hi))
  · refine hm.working.settle (fun _ => rfl) ?_ (by rw [hm.projections]; exact h.projection) h.bound
      hm.finished
    intro q
    simp only [acceptedRow]
    split <;> simp
  · intro k
    refine (lifeOf_updateProjection k).trans ?_
    rw [hm.life, ← h.reconciliation]
    by_cases hk : k = r.id
    · subst hk
      rw [h.context.life, Option.map_some, Option.map_some, if_pos rfl, if_pos rfl]
      -- the one row that is written is the one of `p`
      congr 1
      congr 1
      funext g role
      by_cases hg : g = p.graphOperationId ∧ role = p.role
      · obtain ⟨rfl, rfl⟩ := hg
        rw [hrow, Option.map_some, if_pos ⟨rfl, rfl⟩, if_pos ⟨rfl, rfl⟩]
      simp only [if_neg hg, Option.map_id']
    simp only [if_neg hk]
  intro k hk
  refine (get?_updateProjection _ _ _ k).trans ?_
  rw [hm.projections]
  cases db.projections.get? k with
  | none => rfl
  | some q =>
    rw [Option.map_some, if_neg]
    rintro rfl
    exact hk h.reconciliation.symm

lemma evolves_consumeFailure {node : OperationNode}
    (hc : consumeFailure view mid p r jobId plan node message = .ok db') : Evolves H db db' := by
  unfold consumeFailure at hc
  simp only at hc
  have hfenced : Fences r.id db (updateProjection mid p fun q =>
      { q with
        state := if message.state = .waitingForOperator then .waitingForOperator else .failed
        resultDigest := some (view.resultDigest message.result) }) := by
    refine h.settles hm (fun _ => rfl) ?_
    intro q
    split
    · exact .inr rfl
    exact .inl rfl
  split at hc
  · obtain ⟨d, hd, hc⟩ := of_bind_ok hc
    cases hc
    exact h.parks hfenced hd jobId _
  next hprimary =>
  have hrole : p.role = .primary := by
    cases hp : p.role with
    | primary => rfl
    | compensation => exact absurd (.inl hp) hprimary
  obtain ⟨d, hd, hc⟩ := of_bind_ok hc
  have hfailed := evolves_handlePrimaryFailure h hrole hfenced hd
  have hworking : Working none d := by
    cases hfailed with
    | unmoved hu => exact hu.working
    | advances _ _ ha => exact (ha false).working
  split at hc
  · split at hc
    · exact hfailed.before ((still_of_leases (leasesOnly_markReleasing hc)).unmoved hworking)
    cases hc
    exact hfailed
  cases hc
  exact hfailed

lemma evolves_consumeResult (hid : op'.id = op.id)
    (hc : consumeResult view mid op' attempt message = .ok db') : Evolves H db db' := by
  unfold consumeResult at hc
  split at hc
  · next hnone =>
    exfalso
    rw [projectionOf, hm.projections, hid] at hnone
    have := List.find?_eq_none.mp hnone p (mem_of_get? h.projection)
    simp [h.bound] at this
  next q hfind =>
  obtain rfl : p = q := by
    rw [projectionOf, hm.projections, hid] at hfind
    obtain ⟨hq, hmatch⟩ := get?_of_find hfind
    simp only [decide_eq_true_eq] at hmatch
    have hkey := h.context.working.unique _ _ q p op.id hq h.projection hmatch h.bound
    exact Option.some.inj ((h.projection.symm.trans (hkey ▸ rfl)).trans hq)
  split at hc
  · cases hc
  · cases hc
  next r' job' hr' hjob' =>
  obtain rfl : r = r' := by
    rw [hm.reconciliations, ← h.reconciliation, h.context.row] at hr'
    exact Option.some.inj hr'
  split at hc
  · cases hc
  obtain ⟨plan', hplan', hc⟩ := of_bind_ok hc
  obtain rfl : plan = plan' :=
    Option.mem_unique h.context.resolved (planOf_eq_ok hplan')
  obtain ⟨node, -, ⟨kind, payload⟩, -, hc⟩ := of_bind_ok₂ hc
  simp only at hc
  split at hc
  · cases hc
  split at hc
  · cases hc
  split at hc
  · exact evolves_loseResult h hm hid hc
  split at hc
  · split at hc
    · cases hc
      refine .advances hm.cancellations ?_ fun owns => advances_accept h hm _ _
      exact hadOperation_accept hm _ _
    cases hc
  exact evolves_consumeFailure h hm hc

end Closed

/-- The cleanup of a recipe is a job of no reconciliation, with its own operations. -/
def Detached (recipe : RecipeProjection) : Prop :=
  ∀ job ops, recipe.cleanup = some (job, ops) →
    job.reconciliationId = none ∧ ∀ n ∈ ops, n.parentJobId = job.id

section Recipes

variable (hw : Working none db)

include hw

lemma unmoved_insertJob {jobs : Table Job} (h : db.jobs.insert job = some jobs)
    (hr : job.reconciliationId.isSome = true → job.kind = .other ∧
      ∀ k o, db.operations.get? k = some o → o.parentJobId ≠ job.id) :
    Unmoved db { db with jobs := jobs } := by
  have hget : ∀ k, jobs.get? k = if k = job.id then some job else db.jobs.get? k :=
    get?_insert h
  refine ⟨⟨?_, ?_, hw.unique, hw.queued, ?_⟩, rfl, rfl, lifeOf_of_tables rfl rfl rfl rfl⟩
  · intro id o j r ho hj hid
    simp only [hget] at hj
    split at hj
    · next heq =>
      cases hj
      exact absurd heq ((hr (by rw [hid]; rfl)).2 id o ho)
    exact hw.projected id o j r ho hj hid
  · intro k p id hp hid
    obtain ⟨o, j, hb⟩ := hw.bound k p id hp hid
    exact ⟨o, j, hb.operation, get?_insert_of_some h hb.parent, hb.reconciliation, hb.unsigned,
      hb.unanswered, hb.unfinished⟩
  intro k j hj hid
  simp only [hget] at hj
  split at hj
  · cases hj
    exact (hr hid).1
  exact hw.jobs k j hj hid

lemma unmoved_insertOperation {n : NewOperation} (hjob : db.jobs.get? n.parentJobId = some job)
    (hr : job.reconciliationId = none) (h : insertOperation db now n = .ok db') :
    Unmoved db db' := by
  unfold insertOperation at h
  split at h
  · next operations hi =>
    cases h
    have hget := get?_insert hi
    refine ⟨⟨?_, ?_, hw.unique, hw.queued, hw.jobs⟩, rfl, rfl, lifeOf_of_tables rfl rfl rfl rfl⟩
    · intro id o j r ho hj hid
      simp only [hget] at ho
      split at ho
      · cases ho
        obtain rfl : job = j := Option.mem_unique hjob hj
        rw [hr] at hid
        cases hid
      exact hw.projected id o j r ho hj hid
    intro k p id hp hid
    obtain ⟨o, j, hb⟩ := hw.bound k p id hp hid
    exact ⟨o, j, get?_insert_of_some hi hb.operation, hb.parent, hb.reconciliation,
      hb.unsigned, hb.unanswered, hb.unfinished⟩
  cases h

lemma unmoved_queueInSession {ops : List NewOperation} (hr : job.reconciliationId = none)
    (hops : ∀ n ∈ ops, n.parentJobId = job.id) (h : queueInSession db now job ops = .ok db') :
    Unmoved db db' := by
  unfold queueInSession at h
  split at h
  · cases h
  next jobs hi =>
  have hstart := unmoved_insertJob hw hi (by simp [hr])
  have hjob : jobs.get? job.id = some job := by
    rw [get?_insert hi]
    exact if_pos rfl
  refine hstart.trans ?_
  -- the operations are added one after another, and the job stays
  suffices hfold : ∀ (ops : List NewOperation) (d : Database), Working none d →
      d.jobs.get? job.id = some job → (∀ n ∈ ops, n.parentJobId = job.id) →
      ops.foldlM (fun db n => enqueueInSession db now n false) d = .ok db' → Unmoved d db' from
    hfold ops _ hstart.working hjob hops h
  intro ops
  induction ops with
  | nil =>
    intro d hd _ _ hdb'
    cases hdb'
    exact .refl hd
  | cons n rest ih =>
    intro d hd hj hall hrest
    obtain ⟨e, he, hrest⟩ := of_bind_ok hrest
    have hinsert := insertOperation_of_enqueue he
    have hparent : d.jobs.get? n.parentJobId = some job := by
      rw [hall n List.mem_cons_self]
      exact hj
    have hu := unmoved_insertOperation hd hparent hr hinsert
    have hjobs : e.jobs = d.jobs := by
      unfold insertOperation at hinsert
      split at hinsert
      · cases hinsert
        rfl
      cases hinsert
    exact hu.trans (ih e hu.working (hjobs ▸ hj)
      (fun m hm => hall m (.tail _ hm)) hrest)

lemma unmoved_consumeAgentResult (hrecipe : Detached recipe)
    (h : consumeAgentResult recipe now db op message = .ok db') : Unmoved db db' := by
  unfold consumeAgentResult at h
  split at h
  · cases h
    exact .refl hw
  simp only at h
  split at h
  · cases h
    exact .refl hw
  split at h
  · cases h
  split at h
  · cases h
  split at h
  · have hset := @unmoved_setJob db hw
    split at h
    · next cleanup ops _ hcleanup =>
      obtain ⟨hr, hops⟩ := hrecipe cleanup ops hcleanup
      exact (hset _ _ _ _).trans (unmoved_queueInSession (hset _ _ _ _).working hr hops h)
    cases h
    exact hset _ _ _ _
  cases h
  exact unmoved_setJob hw _ _ _ _

end Recipes

section Completions

lemma Finishes.unmoved (h : Finishes op.id db mid) (hu : Unbound db op.id) : Unmoved db mid := by
  refine ⟨h.working.unskip ?_, h.projections, h.cancellations, h.life⟩
  unfold Unbound
  rw [h.projections]
  exact hu

lemma evolves_handToConsumer (h : Consistent H db) (hm : Finishes op.id db mid)
    (ho : db.operations.get? op.id = some op)
    (hauth : requireActiveReconciliationAuthority db op = .ok ()) (hrecipe : Detached recipe)
    (hid : op'.id = op.id) (hparent : op'.parentJobId = op.parentJobId)
    (hc : handToConsumer (resultConsumer view recipe) mid op' attempt message = .ok db') :
    Evolves H db db' := by
  unfold handToConsumer at hc
  split at hc
  · -- a package validation is no job of a reconciliation
    next hpackage =>
    cases hc
    refine .unmoved (hm.unmoved ?_)
    intro k p hp hop
    obtain ⟨o, job, hb⟩ := h.working.bound k p op.id hp hop
    obtain rfl : o = op := Option.mem_unique hb.operation ho
    have hkind := h.working.jobs _ job hb.parent (by rw [hb.reconciliation]; rfl)
    rw [hm.jobs, hparent, hb.parent] at hpackage
    simp [hkind] at hpackage
  obtain ⟨consumed, hconsumed, hc⟩ := of_bind_ok hc
  suffices hfirst : Evolves H db consumed by
    refine hfirst.before (unmoved_consumeAgentResult ?_ hrecipe hc)
    exact (h.evolves hfirst).working
  cases hproj : projectionOf db op.id with
  | none =>
    have hmid : projectionOf mid op'.id = none := by
      rw [projectionOf, hm.projections, hid]
      exact hproj
    unfold consumeResult at hconsumed
    rw [hmid] at hconsumed
    cases hconsumed
    refine .unmoved (hm.unmoved ?_)
    intro k p hp hop
    have := List.find?_eq_none.mp hproj p (mem_of_get? hp)
    simp [hop] at this
  | some p =>
    obtain ⟨hp, hmatch⟩ := get?_of_find hproj
    obtain ⟨r, job, plan, hforce⟩ := h.inForce ho hauth hp (by simpa using hmatch)
    exact evolves_consumeResult hforce hm hid hconsumed

lemma evolves_finish (h : Consistent H db) {cfg : Config} {view : View}
    {recipe : RecipeProjection} (hrecipe : Detached recipe) {call : Call} {later : Time}
    {fence : AgentFence} {state : ResultState} {result : Option ResultDocument} {reason : String}
    {source : Option AgentSource}
    (hf : finish cfg (resultConsumer view recipe) call later db fence state result reason source =
      .ok (attempt, db')) : Evolves H db db' := by
  obtain ⟨⟨op, a, d⟩, hact, message, _, hf⟩ := of_bind_ok₂ hf
  obtain ⟨_, _, consumed, hconsumed, hf⟩ := of_bind_ok₂ hf
  obtain ⟨aggregated, haggregated, hf⟩ := of_bind_ok hf
  cases hf
  obtain ⟨hs, ho, hauth⟩ := active_authority hact
  have hcontact := hs.unmoved h.working
  have h := h.unmoved hcontact
  have hauth' : requireActiveReconciliationAuthority d op = .ok () := by
    unfold requireActiveReconciliationAuthority at hauth ⊢
    rw [hs.jobs, hs.reconciliations, hs.projections]
    exact hauth
  have hresult := evolves_handToConsumer h (finishes_closeAttempt h.working state message.result)
    (by rw [hs.operations]; exact ho) hauth' hrecipe rfl rfl hconsumed
  exact hcontact.evolves
    (hresult.before (unmoved_aggregateParent (h.evolves hresult).working haggregated))

end Completions

lemma advances_enqueueCancel {H : List (GraphId × Digest × Digest) → Digest} (h : Consistent H db)
    {id : Uuid} (hc : enqueueCancel db id reason = .ok db') :
    Unmoved db db' ∨ db.cancellations.get? id = none ∧ ∀ owns, Advances H owns id db db' := by
  unfold enqueueCancel at hc
  split at hc
  · cases hc
  split at hc
  · cases hc
    exact .inl (.refl h.working)
  next hnone =>
  have hnone : db.cancellations.get? id = none := by simpa using hnone
  obtain ⟨⟨r, job, plan⟩, hlocked, hwrite⟩ := of_bind_ok hc
  obtain ⟨rfl, hrow, hplan, hjob, hparent⟩ := lockedContext_eq_ok hlocked
  simp only at hwrite
  split at hwrite
  · cases hwrite
  next hphase =>
  cases hwrite
  have hcx : Context H db r job plan :=
    ⟨h.working, hrow, hplan, hjob, hparent, h.sound _ _ (lifeOf_row hrow hplan)⟩
  refine .inr ⟨hnone, fun owns => ?_⟩
  refine hcx.advances (h.working.of_tables rfl rfl rfl)
    (f := fun l => { l with cancellation := some .requested }) ?_ (.request ?_ ?_) rfl
  · intro k
    simp only [lifeOf]
    cases hk : db.reconciliations.get? k with
    | none => rfl
    | some q =>
      obtain rfl : q.id = k := get?_key hk
      simp only [Option.bind_some, Option.map_map]
      congr 1
      funext plan'
      simp only [Function.comp_apply, lifeRow, get?_insertIgnore, key_cancellation]
      by_cases hq : q.id = r.id
      · simp [hq, hnone]
      simp [hq]
  · simp only [lifeRow, hnone, Option.map_none]
  simp only [not_or] at hphase
  simp only [lifeRow]
  cases hp : r.currentPhase <;> simp_all [ended]

end VonkForge.AgentReconciliation
