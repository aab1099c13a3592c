import VonkForge.CancellationSteps

/-!
# Claims and heartbeats as steps of a life

A claim leaves every life as it is, or parks one reconciliation.  A heartbeat changes no life.
-/

namespace VonkForge.AgentReconciliation

open AgentJobs Table

variable {call : Call} {cfg : Config} {db mid db' : Database} {H : EvidenceDigest}
  {op : StoredOperation} {f : StoredOperation → StoredOperation} {now : Time} {id jobId : Uuid}
  {k : Uuid × GraphId × ProjectionRole}

/-- Every projection is of a reconciliation with a life, and every life is sound. -/
structure Consistent (H : List (GraphId × Digest × Digest) → Digest) (db : Database) : Prop where
  working : Working none db
  lived : ∀ k p, db.projections.get? k = some p → ∃ l, lifeOf db k.1 = some l
  sound : ∀ id l, lifeOf db id = some l → Sound H l

/-- No life moves. -/
structure Unmoved (db db' : Database) : Prop where
  working : Working none db'
  projections : db'.projections = db.projections
  cancellations : db'.cancellations = db.cancellations
  lives : ∀ k, lifeOf db' k = lifeOf db k

/-- A transaction of the queue: at most one life advances, no cancellation does, and no projection
gets an operation. -/
inductive Evolves (H : List (GraphId × Digest × Digest) → Digest) (db db' : Database) : Prop
  | unmoved (h : Unmoved db db')
  | advances {id : Uuid} (hc : db'.cancellations = db.cancellations)
      (hb : ∀ k p i, db'.projections.get? k = some p → p.agentOperationId = some i →
        HadOperation db k i) (h : ∀ owns, Advances H owns id db db')

section Transitions

variable {owns : Bool}

lemma Unmoved.refl (h : Working none db) : Unmoved db db := ⟨h, rfl, rfl, fun _ => rfl⟩

lemma Unmoved.trans (h : Unmoved db mid) (h' : Unmoved mid db') : Unmoved db db' :=
  ⟨h'.working, h'.projections.trans h.projections, h'.cancellations.trans h.cancellations,
    fun k => (h'.lives k).trans (h.lives k)⟩

lemma Still.unmoved (h : Still db db') (hw : Working none db) : Unmoved db db' :=
  ⟨h.working hw, h.projections, h.cancellations, h.life⟩

lemma unmoved_setJob (hw : Working none db) (id : Uuid) (state : JobState)
    (reason : Option String) (now : Time) : Unmoved db (setJob db id state reason now) :=
  ⟨hw.setJob _ _ _ _, rfl, rfl, lifeOf_setJob _ _ _ _⟩

lemma unmoved_setOperation {k : Uuid} {hf : ∀ o, (f o).id = o.id}
    (hw : Working none (setOperation db k f hf)) : Unmoved db (setOperation db k f hf) :=
  ⟨hw, rfl, rfl, lifeOf_of_tables rfl rfl rfl rfl⟩

lemma unmoved_aggregateParent (hw : Working none db) {jobId : Uuid}
    (h : aggregateParent db now jobId = .ok db') : Unmoved db db' := by
  unfold aggregateParent at h
  split at h
  · cases h
  split at h
  · cases h
    exact .refl hw
  simp only at h
  split at h
  · cases h
    exact .refl hw
  cases h
  exact unmoved_setJob hw _ _ _ _

lemma Unmoved.hadOperation (h : Unmoved db db') {i : Uuid} :
    HadOperation db' k i ↔ HadOperation db k i := by
  unfold HadOperation
  rw [h.projections]

lemma Unmoved.advances (h : Unmoved db mid) (ha : Advances H owns id mid db')
    (hb : ∀ k p i, db'.projections.get? k = some p → p.agentOperationId = some i →
      HadOperation db k i) : Advances H owns id db db' := by
  refine ⟨ha.working, fun k hk => (ha.others k hk).trans (h.lives k), ?_,
    fun k p i hp hi => .inl (hb k p i hp hi), ?_⟩
  · rw [← h.projections]
    exact ha.foreign
  rw [← h.lives id]
  exact ha.self

lemma Advances.unmoved (h : Advances H owns id db mid) (hu : Unmoved mid db') :
    Advances H owns id db db' := by
  refine ⟨hu.working, fun k hk => (hu.lives k).trans (h.others k hk), ?_, ?_, ?_⟩
  · rw [hu.projections]
    exact h.foreign
  · rw [hu.projections]
    exact h.fresh
  rw [hu.lives id]
  exact h.self

lemma Unmoved.evolves (h : Unmoved db mid) (he : Evolves H mid db') : Evolves H db db' := by
  cases he with
  | unmoved hu => exact .unmoved (h.trans hu)
  | advances hc hb ha =>
    have hb' := fun k p i hp hi => h.hadOperation.mp (hb k p i hp hi)
    exact .advances (hc.trans h.cancellations) hb' fun owns => h.advances (ha owns) hb'

lemma Evolves.before (h : Evolves H db mid) (hu : Unmoved mid db') : Evolves H db db' := by
  cases h with
  | unmoved h => exact .unmoved (h.trans hu)
  | advances hc hb ha =>
    refine .advances (hu.cancellations.trans hc) ?_ fun owns => (ha owns).unmoved hu
    rw [hu.projections]
    exact hb

lemma Consistent.unmoved (h : Consistent H db) (hu : Unmoved db db') : Consistent H db' := by
  refine ⟨hu.working, ?_, ?_⟩
  · intro k p hp
    rw [hu.projections] at hp
    rw [hu.lives]
    exact h.lived k p hp
  intro id l hl
  rw [hu.lives] at hl
  exact h.sound id l hl

lemma Consistent.advances (h : Consistent H db) (ha : Advances H owns id db db') :
    Consistent H db' := by
  obtain ⟨l, l', hl, hl', hstep⟩ := ha.self
  refine ⟨ha.working, ?_, ?_⟩
  · intro k p hp
    by_cases hk : k.1 = id
    · exact ⟨l', hk ▸ hl'⟩
    rw [ha.others _ hk]
    exact h.lived k p (ha.foreign k hk ▸ hp)
  intro k m hm
  by_cases hk : k = id
  · subst hk
    obtain rfl : l' = m := Option.mem_unique hl' hm
    exact (h.sound k l hl).step hstep
  rw [ha.others k hk] at hm
  exact h.sound k m hm

lemma Consistent.evolves (h : Consistent H db) (he : Evolves H db db') : Consistent H db' := by
  cases he with
  | unmoved hu => exact h.unmoved hu
  | advances _ _ ha => exact h.advances (ha false)

lemma Evolves.fenced (hf : Fences id db mid) (hp : db'.projections = mid.projections)
    (hc : db'.cancellations = mid.cancellations) (h : ∀ owns, Advances H owns id db db') :
    Evolves H db db' := by
  refine .advances (hc.trans hf.cancellations) ?_ h
  rw [hp]
  exact fun k p i hp hi => hf.hadOperation hp hi

lemma exists_row_of_life {l : Life} (h : lifeOf db id = some l) :
    ∃ r plan, r.id = id ∧ db.reconciliations.get? r.id = some r ∧ r.plan = some plan ∧
      l = lifeRow db r plan := by
  obtain ⟨r, hr, h⟩ := Option.bind_eq_some_iff.mp h
  obtain ⟨plan, hplan, rfl⟩ := Option.map_eq_some_iff.mp h
  have hid : r.id = id := get?_key hr
  exact ⟨r, plan, hid, hid ▸ hr, hplan, rfl⟩

end Transitions

section Operations

variable {r : Reconciliation} {job : Job} {plan : ResolvedPlan} {p : ReconciliationOperation}

lemma Consistent.context (h : Consistent H db)
    (hp : db.projections.get? (Keyed.key p) = some p) (hjob : db.jobs.get? job.id = some job)
    (hr : job.reconciliationId = some p.reconciliationId) :
    ∃ r plan, r.id = p.reconciliationId ∧ Context H db r job plan := by
  obtain ⟨l, hl⟩ := h.lived _ p hp
  obtain ⟨r, plan, hid, hrow, hplan, rfl⟩ := exists_row_of_life hl
  refine ⟨r, plan, hid, h.working, hrow, hplan, hjob, ?_, h.sound _ _ hl⟩
  rw [hr, hid]
  rfl

lemma ended_expectedPhase (role : ProjectionRole) : ended (expectedPhase role) = false := by
  cases role <;> rfl

lemma Context.phase_of_queued (h : Context H db r job plan) (hid : r.id = p.reconciliationId)
    (hp : db.projections.get? (Keyed.key p) = some p) (hq : p.state = .queued) :
    r.currentPhase = expectedPhase p.role := by
  refine h.sound.queued p.graphOperationId p.role p ?_ hq
  simp only [lifeRow, hid]
  exact hp

lemma unbound_of_signed (h : Working none db) (ho : db.operations.get? op.id = some op)
    (hs : op.kind.signed = true) : Unbound db op.id := by
  intro k p hp hid
  obtain ⟨o, job, hb⟩ := h.bound k p op.id hp hid
  obtain rfl : o = op := Option.mem_unique hb.operation ho
  rw [hb.unsigned] at hs
  cases hs

lemma queued_of_eligible (h : Working none db) (ho : db.operations.get? op.id = some op)
    (he : eligible db now op = true) (hp : db.projections.get? k = some p)
    (hid : p.agentOperationId = some op.id) : p.state = .queued := by
  obtain ⟨o, job, hb⟩ := h.bound k p op.id hp hid
  obtain rfl : o = op := Option.mem_unique hb.operation ho
  refine (hb.unfinished (by simp)).mp ?_
  simp only [eligible, Bool.or_eq_true, Bool.and_eq_true, decide_eq_true_eq] at he
  rcases he with (⟨hs, -⟩ | ⟨hs, -⟩) | ⟨-, hretry⟩
  · rw [hs]
    rfl
  · rw [hs]
    rfl
  simp [retryRequested, hb.unanswered] at hretry

lemma get?_of_find {f : ReconciliationOperation → Bool}
    (h : db.projections.rows.find? f = some p) :
    db.projections.get? (Keyed.key p) = some p ∧ f p = true :=
  ⟨get?_of_mem (List.mem_of_find?_eq_some h), List.find?_some h⟩

lemma Context.lost (h : Context H db r job plan) (hphase : ended r.currentPhase = false)
    (hf : Fences r.id db mid) {reason : String}
    (hl : loseReconciliation mid now r.id jobId reason = .ok db') : Evolves H db db' := by
  obtain ⟨d, hd, hl⟩ := of_bind_ok hl
  cases hl
  obtain ⟨hf', hc⟩ := fences_quiesceReconciliationOperations hf.working hd
  exact .fenced (hf.trans hf') rfl rfl fun owns => h.parked (hf.trans hf') hc hphase jobId reason

end Operations

section Claims

lemma unmoved_park (hw : Working none db) (hu : Unbound db id) (now : Time) :
    Unmoved db (parkOperation db now id) :=
  unmoved_setOperation
    ((hw.setOperation_skip (by intro _; exact ⟨rfl, rfl, fun _ => rfl⟩) (.inl rfl)).unskip hu)

lemma still_expirePrevious (db : Database) (op : StoredOperation) :
    Still db (expirePrevious db op) := by
  unfold expirePrevious
  split
  · exact .refl db
  exact ⟨rfl, rfl, rfl, rfl, rfl, rfl⟩

variable {claimed : Option AgentClaim} {fence : Uuid} {req : ClaimRequest} {node : AgentNode}

lemma unmoved_startAttempt (hw : Working none db)
    (hq : ∀ k p, db.projections.get? k = some p → p.agentOperationId = some op.id →
      p.state = .queued) {serial : Serial} {deadline : Time}
    (hs : startAttempt db now op serial fence deadline = .ok (claimed, db')) : Unmoved db db' := by
  obtain ⟨d, hd, hs⟩ := of_bind_ok hs
  cases hs
  have hstart : Working none
      (setOperation db op.id (startedOperation (op.currentAttempt + 1) now)) := by
    refine hw.setOperation (fun _ => ⟨rfl, rfl, fun hn => hn⟩) (fun _ _ _ => by simp) ?_
    intro _ o key p _ hp hid
    simp [startedOperation, hq key p hp hid, OperationState.unfinished]
  refine (unmoved_setOperation hstart).trans ?_
  unfold insertAttempt at hd
  split at hd
  · cases hd
  split at hd
  · cases hd
    exact Still.unmoved ⟨rfl, rfl, rfl, rfl, rfl, rfl⟩ hstart
  cases hd

section

variable (h : Consistent H db) (ho : db.operations.get? op.id = some op)

include h ho

lemma evolves_claimHasAuthority (he : eligible db call.now op = true) {authority : Bool}
    (hc : claimHasAuthority call db op = .ok (authority, db')) :
    Unmoved db db' ∨ authority = false ∧ op.kind.signed = false ∧ Evolves H db db' := by
  unfold claimHasAuthority at hc
  split at hc
  · cases hc
  next job hjob =>
  split at hc
  · -- outside a reconciliation at most the state of the job is written
    left
    repeat' split at hc
    all_goals
      cases hc
      first
        | exact .refl h.working
        | exact unmoved_setJob h.working _ _ _ _
  next id hid =>
  split at hc
  · next r p hr hfind =>
    split at hc
    · cases hc
      exact .inl (.refl h.working)
    obtain ⟨d, hd, hc⟩ := of_bind_ok hc
    cases hc
    obtain ⟨hp, hmatch⟩ := get?_of_find hfind
    simp only [decide_eq_true_eq] at hmatch
    have hjid : job.id = op.parentJobId := get?_key hjob
    obtain ⟨r', plan, hrid, hcx⟩ := h.context hp (hjid ▸ hjob) (hid.trans (by rw [hmatch.1]))
    obtain rfl : r'.id = id := hrid.trans hmatch.1
    have hq := queued_of_eligible h.working ho he hp hmatch.2
    have hphase : ended r'.currentPhase = false := by
      rw [hcx.phase_of_queued hrid hp hq]
      exact ended_expectedPhase _
    obtain ⟨o, _, hb⟩ := h.working.bound _ p op.id hp hmatch.2
    obtain rfl : o = op := Option.mem_unique hb.operation ho
    exact .inr ⟨rfl, hb.unsigned, hcx.lost hphase (.refl h.working _) hd⟩
  cases hc

lemma evolves_quarantine (hrun : op.state = .running)
    (hq : quarantine db now op = .ok (claimed, db')) : Evolves H db db' := by
  obtain ⟨⟨projected, d⟩, hd, hq⟩ := of_bind_ok hq
  unfold projectUnsafeExpiry at hd
  split at hd
  · next hnone =>
    cases hd
    have hfree : Unbound db op.id := by
      intro k p hp hid
      have := List.find?_eq_none.mp hnone p (mem_of_get? hp)
      simp [hid] at this
    have hpark := unmoved_park h.working hfree now
    obtain ⟨e, he, hq⟩ := of_bind_ok hq
    cases hq
    exact .unmoved (hpark.trans (unmoved_aggregateParent hpark.working he))
  next p hfind =>
  split at hd
  · next r' job hr' hjob =>
    split at hd
    · cases hd
    next hlink =>
    obtain ⟨e, he, hd⟩ := of_bind_ok hd
    cases hd
    cases hq
    obtain ⟨hp, hmatch⟩ := get?_of_find hfind
    simp only [decide_eq_true_eq] at hmatch
    have hjid : job.id = op.parentJobId := get?_key hjob
    obtain ⟨r, plan, hrid, hcx⟩ := h.context (p := p) hp (hjid ▸ hjob) (not_not.mp hlink)
    have hun : op.state.unfinished = true := by
      rw [hrun]
      rfl
    have hqueued := (h.working.state_of_unfinished hp hmatch ho (by simp)).mp hun
    have hphase : ended r.currentPhase = false := by
      rw [hcx.phase_of_queued hrid hp hqueued]
      exact ended_expectedPhase _
    have hf : Fences r.id db (setProjection (parkOperation db now op.id) p .waitingForOperator) :=
      fences_park h.working hrid.symm hp hmatch ho hun rfl
    rw [← hrid] at he
    exact hcx.lost hphase hf he
  cases hd

lemma evolves_claimSelected (he : eligible db call.now op = true)
    (hc : claimSelected call req fence node db op = .ok (claimed, db')) : Evolves H db db' := by
  unfold claimSelected at hc
  split at hc
  · cases hc
    exact .unmoved (.refl h.working)
  split at hc
  · cases hc
    exact .unmoved (.refl h.working)
  have hclosed := (still_expirePrevious db op).unmoved h.working
  have hops : (expirePrevious db op).operations.get? op.id = some op := by
    rw [(still_expirePrevious db op).operations]
    exact ho
  have hqueued : ∀ k p, (expirePrevious db op).projections.get? k = some p →
      p.agentOperationId = some op.id → p.state = .queued := by
    rw [hclosed.projections]
    exact fun k p hp hid => queued_of_eligible h.working ho he hp hid
  apply hclosed.evolves
  have h := h.unmoved hclosed
  split at hc
  · next hrun => exact evolves_quarantine h hops hrun.1 hc
  split at hc
  · exact .unmoved (unmoved_startAttempt h.working hqueued hc)
  split at hc
  · next hsigned =>
    obtain ⟨d, hd, hc⟩ := of_bind_ok hc
    cases hc
    have hpark := unmoved_park h.working (unbound_of_signed h.working hops hsigned) call.now
    exact .unmoved (hpark.trans (unmoved_aggregateParent hpark.working hd))
  exact .unmoved (unmoved_startAttempt h.working hqueued hc)

end

lemma evolves_selectOperation (h : Consistent H db) {nodeId : NodeId} {rounds : ℕ}
    {excluded : List Uuid} {selected : Option StoredOperation}
    (hs : selectOperation call nodeId rounds excluded db = .ok (selected, db')) :
    Evolves H db db' ∧ (selected ≠ none → Unmoved db db') := by
  induction rounds generalizing db excluded with
  | zero =>
    cases hs
    exact ⟨.unmoved (.refl h.working), fun _ => .refl h.working⟩
  | succ rounds ih =>
    unfold selectOperation at hs
    split at hs
    · cases hs
      exact ⟨.unmoved (.refl h.working), fun _ => .refl h.working⟩
    next op hfirst =>
    obtain ⟨⟨authority, d⟩, hauth, hs⟩ := of_bind_ok hs
    obtain ⟨hmem, hsel⟩ := mem_of_firstBy hfirst
    have ho : db.operations.get? op.id = some op := get?_of_mem hmem
    simp only [Bool.and_eq_true] at hsel
    have hcases := evolves_claimHasAuthority h ho hsel.2 hauth
    simp only at hs
    split at hs
    · next htrue =>
      cases hs
      rcases hcases with hu | ⟨hfalse, -⟩
      · exact ⟨.unmoved hu, fun _ => hu⟩
      rw [hfalse] at htrue
      cases htrue
    split at hs
    · next hsigned =>
      rcases hcases with hu | ⟨-, hunsigned, -⟩
      · have hfree : Unbound d op.id := by
          unfold Unbound
          rw [hu.projections]
          exact unbound_of_signed h.working ho hsigned
        have hpark := hu.trans (unmoved_park hu.working hfree call.now)
        obtain ⟨hrest, hsome⟩ := ih (h.unmoved hpark) hs
        exact ⟨hpark.evolves hrest, fun hn => hpark.trans (hsome hn)⟩
      rw [hunsigned] at hsigned
      cases hsigned
    cases hs
    refine ⟨?_, fun hn => absurd rfl hn⟩
    rcases hcases with hu | ⟨-, -, he⟩
    · exact .unmoved hu
    exact he

/-- A claim parks one reconciliation at most. -/
theorem evolves_claim (h : Consistent H db) (hc : claim cfg call req fence db = .ok (claimed, db')) :
    Evolves H db db' := by
  rcases claim_cases hc with ⟨rfl, rfl⟩ | ⟨nodes, certificates, selected, mid, hselected, hc⟩
  · exact .unmoved (.refl h.working)
  have hstill : Still db { db with nodes := nodes, certificates := certificates } :=
    ⟨rfl, rfl, rfl, rfl, rfl, rfl⟩
  have hcontact := hstill.unmoved h.working
  have h := h.unmoved hcontact
  apply hcontact.evolves
  obtain ⟨hselect, hsome⟩ := evolves_selectOperation h hselected
  rcases hc with ⟨rfl, rfl⟩ | ⟨op, node, rfl, hc⟩
  · exact hselect
  obtain ⟨-, hsel⟩ := selectOperation_effect (fun _ hid => by cases hid)
    (fun _ hid => by cases hid) hselected
  have hu := hsome (by simp)
  exact hu.evolves
    (evolves_claimSelected (h.unmoved hu) (hsel op rfl).stored (hsel op rfl).eligible hc)

end Claims

section Heartbeats

variable {fence : AgentFence} {source : Option AgentSource} {attempt : AgentOperationAttempt}

lemma active_authority (h : active cfg call db fence source = .ok (op, attempt, db')) :
    Still db db' ∧ db.operations.get? op.id = some op ∧
      requireActiveReconciliationAuthority db op = .ok () := by
  obtain ⟨-, -, -, ho, -, -, hauthority, nodes, rfl⟩ := active_spec h
  have hid : op.id = attempt.operationId := get?_key ho
  exact ⟨⟨rfl, rfl, rfl, rfl, rfl, rfl⟩, hid ▸ ho, hauthority⟩

/-- A heartbeat moves no life. -/
theorem unmoved_heartbeat (hw : Working none db) {later : Time} {leaseSeconds : ℕ}
    (h : heartbeat cfg call later db fence leaseSeconds source = .ok (attempt, db')) :
    Unmoved db db' := by
  unfold heartbeat at h
  split at h
  · cases h
  obtain ⟨⟨op, a, d⟩, hact, h⟩ := of_bind_ok h
  obtain ⟨deadline, _, h⟩ := of_bind_ok h
  cases h
  obtain ⟨hs, ho, -⟩ := active_authority hact
  have hd := hs.working hw
  have hattempt : Unmoved d
      (setAttempt d op.id attempt.attempt fun a => { a with leaseDeadline := deadline }) :=
    Still.unmoved ⟨rfl, rfl, rfl, rfl, rfl, rfl⟩ hd
  refine (hs.unmoved hw).trans (hattempt.trans (unmoved_setOperation ?_))
  -- only the clock of the operation moves
  refine hattempt.working.setOperation (fun _ => ⟨rfl, rfl, fun hn => hn⟩) (fun _ _ _ => by simp) ?_
  intro _ o key p ho hp hid
  have hrow := hattempt.working.state_of_unfinished hp hid ho (by simp)
  exact hrow

end Heartbeats

end VonkForge.AgentReconciliation
