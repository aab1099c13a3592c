import VonkForge.QueueOrder

/-!
# Progress of a node's queue

A claim of a node with an expired mutation returns a claim or settles an operation, provided that
the expired one comes first among those that would block it.
-/

namespace VonkForge.AgentJobs

open Transactions Table

variable {db db' : Database} {id : Uuid}

/-- The operation that a projection names is stored. -/
def Backed (db : Database) : Prop :=
  ∀ p ∈ db.projections.rows, ∀ id, p.agentOperationId = some id →
    ∃ o, db.operations.get? id = some o

/-- The links between the rows that a claim follows. -/
structure Linked (db : Database) : Prop where
  parent : ∀ id o, db.operations.get? id = some o → ∃ job, db.jobs.get? o.parentJobId = some job
  unsigned : ∀ id o job, db.operations.get? id = some o → db.jobs.get? o.parentJobId = some job →
    job.reconciliationId.isSome = true → o.kind.signed = false
  reconciled : ∀ id o job r, db.operations.get? id = some o →
    db.jobs.get? o.parentJobId = some job → job.reconciliationId = some r →
      (∃ row, db.reconciliations.get? r = some row) ∧
      ∃ p ∈ db.projections.rows, p.reconciliationId = r ∧ p.agentOperationId = some o.id
  projected : ∀ p ∈ db.projections.rows, ∀ id, p.agentOperationId = some id → p.state ≠ .planned ∧
    ∃ o job row, db.operations.get? id = some o ∧ db.jobs.get? o.parentJobId = some job ∧
      job.reconciliationId = some p.reconciliationId ∧
      db.reconciliations.get? p.reconciliationId = some row

lemma Linked.backed (h : Linked db) : Backed db := by
  intro p hp id hid
  obtain ⟨_, o, _, _, ho, _⟩ := h.projected p hp id hid
  exact ⟨o, ho⟩

def Finished (db : Database) (id : Uuid) : Prop :=
  ∃ o, db.operations.get? id = some o ∧ o.state.unfinished = false

section Quiesce

variable {now : Time}

lemma unfinished_iff (s : OperationState) : s.unfinished = true ↔ s = .queued ∨ s = .running := by
  cases s <;> simp [OperationState.unfinished]

variable {p : ReconciliationOperation}

lemma Finished.calm (h : Finished db id) (hc : Calm db db') : Finished db' id := by
  obtain ⟨o, ho, hf⟩ := h
  obtain ⟨o', ho', hs⟩ := hc.operation_to ho
  refine ⟨o', ho', ?_⟩
  by_contra hn
  have hun : o.state.unfinished = true := by
    rcases (unfinished_iff _).mp (by simpa using hn) with hq | hr
    · exact (unfinished_iff _).mpr (.inl (hs.queued hq))
    exact (unfinished_iff _).mpr (.inr (hs.running hr))
  rw [hf] at hun
  cases hun

lemma finished_setOperation {f : StoredOperation → StoredOperation} {o : StoredOperation}
    (ho : db.operations.get? id = some o) (h : (f o).state.unfinished = false)
    (hf : ∀ o, (f o).id = o.id := by intro _; rfl) :
    Finished (setOperation db id f hf) id := by
  refine ⟨f o, ?_, h⟩
  rw [get?_setOperation, ho, Option.map_some, if_pos rfl]

lemma finished_park_expirePrevious {op : StoredOperation} (ho : db.operations.get? op.id = some op) :
    Finished (parkOperation (expirePrevious db op) now op.id) op.id :=
  finished_setOperation (by rw [operations_expirePrevious, ho]) rfl

lemma jobs_park_expirePrevious {op : StoredOperation} :
    (parkOperation (expirePrevious db op) now op.id).jobs = db.jobs := by
  unfold parkOperation setOperation expirePrevious
  split <;> rfl

lemma quiesceOperation_succeeds (hp : Paired db) {op : StoredOperation} {uncertain : Bool}
    (ho : db.operations.get? op.id = some op) :
    ∃ db', quiesceOperation db now p op uncertain = .ok db' ∧ Finished db' op.id := by
  unfold quiesceOperation
  split
  · refine ⟨_, rfl, ?_⟩
    exact (finished_setOperation ho rfl).calm (quiet_setProjection _ _).toCalm
  · next hrun =>
    obtain ⟨a, ha, hstate⟩ := hp op.id op ho hrun
    rw [ha]
    simp only [hstate, ne_eq, not_true_eq_false, if_false]
    refine ⟨_, rfl, ?_⟩
    exact finished_setOperation ho (unfinished_quiescedOperation uncertain)
  next hnq hnr =>
  refine ⟨db, rfl, op, ho, ?_⟩
  by_contra hn
  rcases (unfinished_iff _).mp (by simpa using hn) with hq | hr
  · exact hnq hq
  exact hnr hr

lemma quiesceProjection_succeeds (hp : Paired db)
    (hb : ∀ id, p.agentOperationId = some id → ∃ o, db.operations.get? id = some o) :
    ∃ db', quiesceProjection now db p = .ok db' ∧
      (p.state ≠ .planned → ∀ id, p.agentOperationId = some id → Finished db' id) := by
  unfold quiesceProjection
  split
  · next hplanned => exact ⟨_, rfl, fun hn => absurd hplanned hn⟩
  split
  · next hnone => exact ⟨_, rfl, fun _ id hid => by rw [hnone] at hid; cases hid⟩
  next id hid =>
  obtain ⟨o, ho⟩ := hb id hid
  have hoid : o.id = id := get?_key ho
  subst hoid
  obtain ⟨d, hd, hf⟩ := @quiesceOperation_succeeds db now p hp o o.kind.mutating ho
  rw [ho]
  refine ⟨d, hd, fun _ k hk => ?_⟩
  rw [hid] at hk
  cases hk
  exact hf

lemma mem_projectionsOf {roles : List ProjectionRole} :
    p ∈ projectionsOf db id roles ↔
      p ∈ db.projections.rows ∧ p.reconciliationId = id ∧ p.role ∈ roles := by
  unfold projectionsOf
  simp

lemma mem_roles (role : ProjectionRole) : role ∈ [ProjectionRole.primary, .compensation] := by
  cases role <;> simp

lemma quiesceReconciliationOperations_succeeds (hp : Paired db) (hb : Backed db) (id : Uuid) :
    ∃ db', quiesceReconciliationOperations db id now = .ok db' ∧
      ∀ p ∈ db.projections.rows, p.reconciliationId = id → p.state ≠ .planned →
        ∀ k, p.agentOperationId = some k → Finished db' k := by
  have hback {d : Database} (hq : Quiet db d) {p : ReconciliationOperation}
      (hmem : p ∈ db.projections.rows) :
      ∀ k, p.agentOperationId = some k → ∃ o, d.operations.get? k = some o := by
    intro k hk
    obtain ⟨o, ho⟩ := hb p hmem k hk
    obtain ⟨o', ho', _⟩ := hq.operation_to ho
    exact ⟨o', ho'⟩
  have hstep : ∀ d, ∀ p ∈ projectionsOf db id [.primary, .compensation],
      Quiet db d → ∃ d', quiesceProjection now d p = .ok d' ∧ Quiet db d' := by
    intro d p hmem hq
    obtain ⟨d', hd', _⟩ := quiesceProjection_succeeds (hp.quiet hq)
      (hback hq (mem_projectionsOf.mp hmem).1)
    exact ⟨d', hd', hq.trans (quiet_quiesceProjection hd')⟩
  obtain ⟨db', hdb'⟩ := foldlM_succeeds hstep (.refl db)
  refine ⟨db', hdb', ?_⟩
  intro p hp' hid hplanned k hk
  have hmem : p ∈ projectionsOf db id [.primary, .compensation] :=
    mem_projectionsOf.mpr ⟨hp', hid, mem_roles p.role⟩
  obtain ⟨l₁, l₂, u, v, _, hu, hv, hrest⟩ := foldlM_ok_mem hmem hdb'
  have hqu : Quiet db u := quiet_quiesceProjections hu
  obtain ⟨v', hv', hfin⟩ := @quiesceProjection_succeeds u now p (hp.quiet hqu) (hback hqu hp')
  rw [hv] at hv'
  cases hv'
  exact (hfin hplanned k hk).calm (quiet_quiesceProjections hrest).toCalm

/-- Losing a reconciliation raises nothing, and ends its operations. -/
theorem loseReconciliation_succeeds (hp : Paired db) (hb : Backed db) (id jobId : Uuid)
    (reason : String) :
    ∃ db', loseReconciliation db now id jobId reason = .ok db' ∧
      ∀ p ∈ db.projections.rows, p.reconciliationId = id → p.state ≠ .planned →
        ∀ k, p.agentOperationId = some k → Finished db' k := by
  obtain ⟨d, hd, hfin⟩ := @quiesceReconciliationOperations_succeeds db now hp hb id
  unfold loseReconciliation
  rw [hd, ok_bind]
  refine ⟨_, rfl, ?_⟩
  intro p hp' hid hplanned k hk
  have hquiet : Quiet d (setJob (setReconciliation d id .waitingForOperator .failed (some reason))
      jobId .waitingForOperator (some reason) now) := quiet_of_tables rfl rfl
  exact (hfin p hp' hid hplanned k hk).calm hquiet.toCalm

end Quiesce

section Claims

variable {call : Call} {op : StoredOperation} {now : Time} {job : Job} {o : StoredOperation}

lemma Linked.find_projection (h : Linked db) {r : Uuid} (ho : db.operations.get? id = some o)
    (hjob : db.jobs.get? o.parentJobId = some job) (hr : job.reconciliationId = some r) :
    ∃ p ∈ db.projections.rows, p.reconciliationId = r ∧ p.agentOperationId = some o.id ∧
      db.projections.rows.find? (fun p =>
        decide (p.reconciliationId = r ∧ p.agentOperationId = some o.id)) = some p := by
  obtain ⟨_, q, hq, hqr, hqo⟩ := h.reconciled id o job r ho hjob hr
  cases hfind : db.projections.rows.find? (fun p =>
      decide (p.reconciliationId = r ∧ p.agentOperationId = some o.id)) with
  | none =>
    have hnone := List.find?_eq_none.mp hfind q hq
    simp [hqr, hqo] at hnone
  | some p =>
    have hp := List.find?_some hfind
    simp only [decide_eq_true_eq] at hp
    exact ⟨p, List.mem_of_find?_eq_some hfind, hp.1, hp.2, rfl⟩

lemma Linked.park (h : Linked db) (now : Time) (k : Uuid) : Linked (parkOperation db now k) := by
  have hback : ∀ {id o'}, (parkOperation db now k).operations.get? id = some o' →
      ∃ o, db.operations.get? id = some o ∧ o'.parentJobId = o.parentJobId ∧ o'.kind = o.kind ∧
        o'.id = o.id := by
    intro id o' ho'
    rw [parkOperation, get?_setOperation] at ho'
    obtain ⟨o, ho, rfl⟩ := Option.map_eq_some_iff.mp ho'
    refine ⟨o, ho, ?_⟩
    split <;> exact ⟨rfl, rfl, rfl⟩
  constructor
  · intro id o' ho'
    obtain ⟨o, ho, hj, _⟩ := hback ho'
    rw [hj]
    exact h.parent id o ho
  · intro id o' job ho' hjob hr
    obtain ⟨o, ho, hj, hk, _⟩ := hback ho'
    rw [hj] at hjob
    rw [hk]
    exact h.unsigned id o job ho hjob hr
  · intro id o' job r ho' hjob hr
    obtain ⟨o, ho, hj, _, hid⟩ := hback ho'
    rw [hj] at hjob
    rw [hid]
    exact h.reconciled id o job r ho hjob hr
  intro p hp id hid
  obtain ⟨hplanned, o, job, row, ho, hjob, hr, hrow⟩ := h.projected p hp id hid
  refine ⟨hplanned, ?_⟩
  have hget : ∃ o', (parkOperation db now k).operations.get? id = some o' := by
    obtain ⟨o', ho', _⟩ := (@quiet_parkOperation db now k).toCalm.operation_to ho
    exact ⟨o', ho'⟩
  obtain ⟨o', ho'⟩ := hget
  obtain ⟨x, hx, hj, _⟩ := hback ho'
  rw [ho] at hx
  cases hx
  exact ⟨o', job, row, ho', by rw [hj]; exact hjob, hr, hrow⟩

lemma get?_setJob (db : Database) (now : Time) (id : Uuid) (state : JobState)
    (reason : Option String) (k : Uuid) :
    (setJob db id state reason now).jobs.get? k = (db.jobs.get? k).map fun j =>
      if j.id = id then { j with state := state, statusReason := reason, updatedAt := now }
      else j := by
  simp only [setJob, get?_updateWhere, decide_eq_true_eq]

lemma Linked.setJob (h : Linked db) (now : Time) (id : Uuid) (state : JobState)
    (reason : Option String) : Linked (setJob db id state reason now) := by
  have hback : ∀ {k job'}, (AgentJobs.setJob db id state reason now).jobs.get? k = some job' →
      ∃ job, db.jobs.get? k = some job ∧ job'.reconciliationId = job.reconciliationId := by
    intro k job' hjob'
    rw [get?_setJob] at hjob'
    obtain ⟨job, hjob, rfl⟩ := Option.map_eq_some_iff.mp hjob'
    refine ⟨job, hjob, ?_⟩
    split <;> rfl
  have hto : ∀ {k job}, db.jobs.get? k = some job →
      ∃ job', (AgentJobs.setJob db id state reason now).jobs.get? k = some job' ∧
        job'.reconciliationId = job.reconciliationId := by
    intro k job hjob
    rw [get?_setJob, hjob, Option.map_some]
    refine ⟨_, rfl, ?_⟩
    split <;> rfl
  constructor
  · intro k o ho
    obtain ⟨job, hjob⟩ := h.parent k o ho
    obtain ⟨job', hjob', _⟩ := hto hjob
    exact ⟨job', hjob'⟩
  · intro k o job' ho hjob' hr
    obtain ⟨job, hjob, he⟩ := hback hjob'
    rw [he] at hr
    exact h.unsigned k o job ho hjob hr
  · intro k o job' r ho hjob' hr
    obtain ⟨job, hjob, he⟩ := hback hjob'
    rw [he] at hr
    exact h.reconciled k o job r ho hjob hr
  intro p hp k hk
  obtain ⟨hplanned, o, job, row, ho, hjob, hr, hrow⟩ := h.projected p hp k hk
  obtain ⟨job', hjob', he⟩ := hto hjob
  exact ⟨hplanned, o, job', row, ho, hjob', he.trans hr, hrow⟩

lemma Linked.authority (h : Linked db) (hauth : claimHasAuthority call db op = .ok (true, db')) :
    Linked db' := by
  unfold claimHasAuthority at hauth
  split at hauth
  · cases hauth
  split at hauth
  · repeat' split at hauth
    all_goals
      simp only [Except.ok.injEq, Prod.mk.injEq] at hauth
      obtain ⟨_, rfl⟩ := hauth
    all_goals first
      | exact h
      | exact h.setJob _ _ _ _
  split at hauth
  · split at hauth
    · cases hauth
      exact h
    obtain ⟨_, _, hauth⟩ := of_bind_ok hauth
    cases hauth
  cases hauth

lemma Linked.expirePrevious (h : Linked db) (op : StoredOperation) :
    Linked (expirePrevious db op) := by
  unfold AgentJobs.expirePrevious
  split
  · exact h
  exact ⟨h.parent, h.unsigned, h.reconciled, h.projected⟩

lemma Backed.setProjection (h : Backed db) (p : ReconciliationOperation)
    (state : ProjectionState) : Backed (setProjection db p state) := by
  intro q hq id hid
  simp only [AgentJobs.setProjection, AgentJobs.updateProjection, mem_updateWhere] at hq
  rcases hq with ⟨r, hr, _, rfl⟩ | ⟨hq, _⟩
  · exact h r hr id hid
  exact h q hq id hid

lemma aggregateParent_succeeds {jobId : Uuid} (hjob : db.jobs.get? jobId = some job) :
    ∃ d, aggregateParent db now jobId = .ok d := by
  unfold aggregateParent
  simp only [hjob]
  split
  · exact ⟨_, rfl⟩
  split
  · exact ⟨_, rfl⟩
  exact ⟨_, rfl⟩

section

variable (hl : Linked db) (hp : Paired db)

include hl hp

lemma claimHasAuthority_succeeds (ho : db.operations.get? op.id = some op) :
    ∃ authority d, claimHasAuthority call db op = .ok (authority, d) ∧
      (authority = false → op.kind.signed = true → d = db) ∧
      (authority = false → op.kind.signed = false →
        (∀ job, db.jobs.get? op.parentJobId = some job → job.reconciliationId = none →
          terminalParent job.state = false) → Finished d op.id) := by
  obtain ⟨job, hjob⟩ := hl.parent op.id op ho
  unfold claimHasAuthority
  cases hr : job.reconciliationId with
  | none =>
    simp only [hjob, hr]
    split
    · next hupdate =>
      refine ⟨_, _, rfl, fun _ _ => rfl, ?_⟩
      intro _ hs
      rw [hupdate.1] at hs
      cases hs
    split
    · next hsigned =>
      refine ⟨_, _, rfl, fun _ _ => rfl, ?_⟩
      intro _ hs
      rw [hsigned] at hs
      cases hs
    split
    · exact ⟨_, _, rfl, fun hf => (by cases hf), fun hf => (by cases hf)⟩
    refine ⟨_, _, rfl, fun _ _ => rfl, ?_⟩
    intro hterm _ hparent
    rw [hparent job rfl hr] at hterm
    cases hterm
  | some r =>
    obtain ⟨⟨row, hrow⟩, _⟩ := hl.reconciled op.id op job r ho hjob hr
    obtain ⟨p, hmem, hpr, hpo, hfind⟩ := hl.find_projection ho hjob hr
    have hunsigned := hl.unsigned op.id op job ho hjob (by simp [hr])
    simp only [hjob, hr, hrow, hfind]
    split
    · exact ⟨_, _, rfl, fun hf => (by cases hf), fun hf => (by cases hf)⟩
    obtain ⟨d, hd, hfin⟩ := @loseReconciliation_succeeds db call.now hp hl.backed r job.id
      "reconciliation execution authority is no longer eligible"
    rw [hd, ok_bind]
    refine ⟨_, _, rfl, ?_, ?_⟩
    · intro _ hs
      rw [hunsigned] at hs
      cases hs
    intro _ _ _
    exact hfin p hmem hpr (hl.projected p hmem op.id hpo).1 op.id hpo

lemma selectOperation_succeeds {nodeId : NodeId} (rounds : ℕ) (excluded : List Uuid) :
    ∃ selected d, selectOperation call nodeId rounds excluded db = .ok (selected, d) ∧
      ∀ o, selected = some o → Linked d ∧
        ∃ o₀, db.operations.get? o.id = some o₀ ∧ o₀.nodeId = nodeId ∧
          o₀.currentAttempt = o.currentAttempt ∧ o₀.payload = o.payload := by
  induction rounds generalizing db excluded with
  | zero => exact ⟨_, _, rfl, fun o ho => by cases ho⟩
  | succ rounds ih =>
    unfold selectOperation
    split
    · exact ⟨_, _, rfl, fun o ho => by cases ho⟩
    next o ho =>
    obtain ⟨hmem, hsel⟩ := mem_of_firstBy ho
    simp only [Bool.and_eq_true, decide_eq_true_eq] at hsel
    have hstored := get?_of_mem hmem
    obtain ⟨authority, d, hauth, hsame, _⟩ := @claimHasAuthority_succeeds db call o hl hp hstored
    rw [hauth, ok_bind]
    simp only
    split
    · next htrue =>
      refine ⟨_, _, rfl, fun o' ho' => ?_⟩
      cases ho'
      rw [htrue] at hauth
      exact ⟨hl.authority hauth, o, hstored, hsel.1.1, rfl, rfl⟩
    next hfalse =>
    split
    · next hsigned =>
      rw [hsame (by simpa using hfalse) hsigned]
      obtain ⟨selected, d', hd', hlinked⟩ := ih (hl.park call.now o.id)
        (hp.quiet (quiet_parkOperation call.now o.id)) (excluded ++ [o.id])
      refine ⟨selected, d', hd', fun x hx => ?_⟩
      obtain ⟨hl', y, hy, hnode, hpay⟩ := hlinked x hx
      refine ⟨hl', ?_⟩
      rw [parkOperation, get?_setOperation] at hy
      obtain ⟨z, hz, rfl⟩ := Option.map_eq_some_iff.mp hy
      refine ⟨z, hz, ?_⟩
      split at hpay
      · next hid =>
        rw [if_pos hid] at hnode
        exact ⟨hnode, hpay⟩
      next hid =>
      rw [if_neg hid] at hnode
      exact ⟨hnode, hpay⟩
    exact ⟨_, _, rfl, fun x hx => by cases hx⟩

lemma projectUnsafeExpiry_succeeds (ho : db.operations.get? op.id = some o)
    (hparent : o.parentJobId = op.parentJobId) (hjob : db.jobs.get? op.parentJobId = some job) :
    ∃ projected d, projectUnsafeExpiry db now op = .ok (projected, d) ∧
      ∃ job', d.jobs.get? op.parentJobId = some job' ∨ projected = true := by
  unfold projectUnsafeExpiry
  split
  · exact ⟨_, _, rfl, job, .inl hjob⟩
  next hint hhint =>
  have hmem := List.mem_of_find?_eq_some hhint
  have hid : hint.agentOperationId = some op.id := by simpa using List.find?_some hhint
  obtain ⟨_, o', job', row, ho', hjob', hr, hrow⟩ := hl.projected hint hmem op.id hid
  rw [ho] at ho'
  cases ho'
  rw [hparent, hjob] at hjob'
  cases hjob'
  simp only [hrow, hjob, hr, ne_eq, not_true_eq_false, if_false]
  have hquiet := @quiet_setProjection db hint .waitingForOperator
  obtain ⟨d, hd, _⟩ := @loseReconciliation_succeeds _ now (hp.quiet hquiet)
    (hl.backed.setProjection hint .waitingForOperator) hint.reconciliationId job.id
    "mutating agent operation lease expired with uncertain outcome"
  rw [hd, ok_bind]
  exact ⟨_, _, rfl, job, .inr rfl⟩

lemma quarantine_succeeds (ho : db.operations.get? op.id = some op) :
    ∃ d, quarantine (expirePrevious db op) now op = .ok (none, d) ∧ Finished d op.id := by
  obtain ⟨job, hjob⟩ := hl.parent op.id op ho
  have hlp := (hl.expirePrevious op).park now op.id
  have hpp := hp.quiet (quiet_park_expirePrevious db now op)
  have hops : (expirePrevious db op).operations.get? op.id = some op := by
    rw [operations_expirePrevious, ho]
  have hget : (parkOperation (expirePrevious db op) now op.id).operations.get? op.id =
      some { op with state := .waitingForOperator, retryDisposition := none,
                     retryDispositionAttempt := none, updatedAt := now } := by
    rw [parkOperation, get?_setOperation, hops, Option.map_some, if_pos rfl]
  obtain ⟨projected, d, hd, job', hnext⟩ :=
    @projectUnsafeExpiry_succeeds _ op now job _ hlp hpp hget rfl
      (by rw [jobs_park_expirePrevious, hjob])
  have hfin' := (finished_park_expirePrevious ho).calm (quiet_projectUnsafeExpiry hd).toCalm
  unfold quarantine
  rw [hd, ok_bind]
  simp only
  split
  · exact ⟨d, rfl, hfin'⟩
  next hproj =>
  have hjob' := hnext.resolve_right hproj
  obtain ⟨e, he⟩ := @aggregateParent_succeeds d now job' op.parentJobId hjob'
  rw [he, ok_bind]
  exact ⟨e, rfl, hfin'.calm (quiet_aggregateParent he).toCalm⟩

end

def Unused (db : Database) (fence : Uuid) : Prop := ∀ a ∈ db.attempts.rows, a.fence ≠ fence

lemma startAttempt_succeeds (hf : Fenced db) (ho : db.operations.get? op.id = some op)
    {serial : Serial} {fence : Uuid} {deadline : Time} (hu : Unused db fence) :
    ∃ c d, startAttempt (expirePrevious db op) now op serial fence deadline = .ok (some c, d) := by
  have hcalm := calm_expirePrevious db op
  have hunused : ∀ a ∈ (expirePrevious db op).attempts.rows, a.fence ≠ fence := by
    intro a ha
    obtain ⟨b, hb, hcl⟩ := hcalm.attempt_of (get?_of_mem ha)
    rw [hcl.fence]
    exact hu b (mem_of_get? hb)
  have habsent : (expirePrevious db op).attempts.get? (op.id, op.currentAttempt + 1) = none := by
    cases hget : (expirePrevious db op).attempts.get? (op.id, op.currentAttempt + 1) with
    | none => rfl
    | some a =>
      obtain ⟨o, hoo, _, hle⟩ := ((hf.calm hcalm).numbered op.id (op.currentAttempt + 1)).mp ⟨a, hget⟩
      rw [operations_expirePrevious, ho] at hoo
      cases hoo
      omega
  unfold startAttempt insertAttempt
  have hany : ((setOperation (expirePrevious db op) op.id
      (startedOperation (op.currentAttempt + 1) now)).attempts.rows.any
        fun a => decide (a.fence = fence)) = false := by
    rw [List.any_eq_false]
    intro a ha
    simpa using hunused a ha
  simp only [hany, Bool.false_eq_true, if_false]
  obtain ⟨t, ht⟩ := @exists_insert _ _ _ _ (expirePrevious db op).attempts
    ⟨op.id, op.currentAttempt + 1, fence, deadline, serial, .running, none⟩ habsent
  simp only [setOperation, ht]
  exact ⟨_, _, rfl⟩

end Claims

end VonkForge.AgentJobs
