import VonkForge.QueueProgress
import VonkForge.PublicationEffects
import VonkForge.ReconciliationLife

/-!
# The operations of a reconciliation

`Working`: every operation beneath a reconciliation's job is the one of exactly one projection,
unfinished as long as that is queued.
-/

namespace VonkForge.AgentReconciliation

open AgentJobs Table
open Keyed (key)

variable {db db' : Database} {skip : Option Uuid} {p q : ReconciliationOperation} {now : Time}

/-- The projection `p` has the operation `id`; with `skip` the operation of a result that is being
consumed is exempt. -/
structure Bound (skip : Option Uuid) (db : Database) (p : ReconciliationOperation) (id : Uuid)
    (o : StoredOperation) (job : Job) : Prop where
  operation : db.operations.get? id = some o
  parent : db.jobs.get? o.parentJobId = some job
  reconciliation : job.reconciliationId = some p.reconciliationId
  unsigned : o.kind.signed = false
  unanswered : o.retryDisposition = none
  unfinished : skip ≠ some id → (o.state.unfinished = true ↔ p.state = .queued)

/-- Operations and projections of reconciliations belong together. -/
structure Working (skip : Option Uuid) (db : Database) : Prop where
  projected : ∀ id o job r, db.operations.get? id = some o →
    db.jobs.get? o.parentJobId = some job → job.reconciliationId = some r →
    ∃ g role p, db.projections.get? (r, g, role) = some p ∧ p.agentOperationId = some id
  bound : ∀ k p id, db.projections.get? k = some p → p.agentOperationId = some id →
    ∃ o job, Bound skip db p id o job
  unique : ∀ k k' p p' id, db.projections.get? k = some p → db.projections.get? k' = some p' →
    p.agentOperationId = some id → p'.agentOperationId = some id → k = k'
  queued : ∀ k p, db.projections.get? k = some p → p.state = .queued →
    p.agentOperationId.isSome = true
  jobs : ∀ k job, db.jobs.get? k = some job → job.reconciliationId.isSome = true → job.kind = .other

section Writes

variable {skip' : Option Uuid}

def SameJobs (db db' : Database) : Prop :=
  ∀ k, (db'.jobs.get? k).map (fun j => (j.reconciliationId, j.kind)) =
    (db.jobs.get? k).map fun j => (j.reconciliationId, j.kind)

variable {k : Uuid} {f : ReconciliationOperation → ReconciliationOperation}

lemma SameJobs.back (h : SameJobs db db') {job' : Job} (hj : db'.jobs.get? k = some job') :
    ∃ job, db.jobs.get? k = some job ∧ job.reconciliationId = job'.reconciliationId ∧
      job.kind = job'.kind := by
  have hk := h k
  rw [hj, Option.map_some] at hk
  obtain ⟨job, hjob, he⟩ := Option.map_eq_some_iff.mp hk.symm
  simp only [Prod.mk.injEq] at he
  exact ⟨job, hjob, he.1, he.2⟩

lemma SameJobs.symm (h : SameJobs db db') : SameJobs db' db := fun k => (h k).symm

lemma sameJobs_setJob (id : Uuid) (state : JobState) (reason : Option String) (now : Time) :
    SameJobs db (setJob db id state reason now) := by
  intro k
  rw [get?_setJob, Option.map_map]
  congr 1
  funext j
  simp only [Function.comp_apply]
  split <;> rfl

section

variable (h : Working skip db)

include h

lemma Working.of_jobs (ho : db'.operations = db.operations) (hj : SameJobs db db')
    (hp : db'.projections = db.projections) : Working skip db' := by
  constructor
  · rw [ho, hp]
    intro id o job' r hget hjob' hr
    obtain ⟨job, hjob, he, -⟩ := hj.back hjob'
    exact h.projected id o job r hget hjob (he.trans hr)
  · rw [hp]
    intro k p id hk hid
    obtain ⟨o, job, hb⟩ := h.bound k p id hk hid
    obtain ⟨job', hjob', he, -⟩ := hj.symm.back hb.parent
    exact ⟨o, job', ho ▸ hb.operation, hjob', he.trans hb.reconciliation, hb.unsigned,
      hb.unanswered, hb.unfinished⟩
  · rw [hp]
    exact h.unique
  · rw [hp]
    exact h.queued
  intro k job' hjob' hr
  obtain ⟨job, hjob, he, hkind⟩ := hj.back hjob'
  exact hkind ▸ h.jobs k job hjob (he ▸ hr)

lemma Working.of_tables (ho : db'.operations = db.operations) (hj : db'.jobs = db.jobs)
    (hp : db'.projections = db.projections) : Working skip db' :=
  h.of_jobs ho (fun _ => by rw [hj]) hp

lemma Working.publications (publications : Table RoutePublication) :
    Working skip { db with publications := publications } := h.of_tables rfl rfl rfl

lemma Working.setJob (id : Uuid) (state : JobState) (reason : Option String) (now : Time) :
    Working skip (setJob db id state reason now) :=
  h.of_jobs rfl (sameJobs_setJob id state reason now) rfl

lemma Working.setReconciliation (id : Uuid) (phase : ReconciliationPhase)
    (status : ReconciliationStatus) (reason : Option String) :
    Working skip (setReconciliation db id phase status reason) := h.of_tables rfl rfl rfl

lemma Working.waitForOperator (id jobId : Uuid) (reason : String) :
    Working skip (waitForOperator db now id jobId reason) :=
  (h.setReconciliation id _ _ _).setJob jobId _ _ _

variable {f : StoredOperation → StoredOperation} {hf : ∀ o, (f o).id = o.id}
  (hkeep : ∀ o, (f o).parentJobId = o.parentJobId ∧ (f o).kind = o.kind ∧
    (o.retryDisposition = none → (f o).retryDisposition = none))

include hkeep

lemma Working.setOperation
    (hskip : ∀ id, id ≠ k → skip' ≠ some id → skip ≠ some id)
    (hstate : skip' ≠ some k → ∀ o x p, db.operations.get? k = some o →
      db.projections.get? x = some p → p.agentOperationId = some k →
        ((f o).state.unfinished = true ↔ p.state = .queued)) :
    Working skip' (AgentJobs.setOperation db k f hf) := by
  constructor
  · intro id o' job r ho' hjob hr
    rw [get?_setOperation] at ho'
    obtain ⟨o, ho, rfl⟩ := Option.map_eq_some_iff.mp ho'
    refine h.projected id o job r ho ?_ hr
    split at hjob
    · rw [(hkeep o).1] at hjob
      exact hjob
    exact hjob
  · intro x p id hkey hid
    obtain ⟨o, job, hb⟩ := h.bound x p id hkey hid
    refine ⟨if id = k then f o else o, job, ?_⟩
    constructor
    · rw [get?_setOperation, hb.operation, Option.map_some]
    · split
      · rw [(hkeep o).1]
        exact hb.parent
      exact hb.parent
    · exact hb.reconciliation
    · split
      · rw [(hkeep o).2.1]
        exact hb.unsigned
      exact hb.unsigned
    · split
      · exact (hkeep o).2.2 hb.unanswered
      exact hb.unanswered
    intro hs
    split
    · next heq =>
      subst heq
      exact hstate hs o x p hb.operation hkey hid
    next hne => exact hb.unfinished (hskip id hne hs)
  · exact h.unique
  · exact h.queued
  exact h.jobs

lemma Working.setOperation_skip (hs : skip = none ∨ skip = some k) :
    Working (some k) (AgentJobs.setOperation db k f hf) := by
  refine h.setOperation hkeep ?_ fun hne => absurd rfl hne
  intro id hid _
  rcases hs with rfl | rfl
  · simp
  simpa using Ne.symm hid

end

def Unbound (db : Database) (id : Uuid) : Prop :=
  ∀ k p, db.projections.get? k = some p → p.agentOperationId ≠ some id

lemma Working.unskip (h : Working (some k) db) (hu : Unbound db k) : Working none db := by
  refine ⟨h.projected, ?_, h.unique, h.queued, h.jobs⟩
  intro x p id hkey hid
  obtain ⟨o, job, hb⟩ := h.bound x p id hkey hid
  refine ⟨o, job, hb.operation, hb.parent, hb.reconciliation, hb.unsigned, hb.unanswered, ?_⟩
  intro _
  apply hb.unfinished
  intro heq
  cases heq
  exact hu x p hkey hid

lemma get?_updateProjection (p : ReconciliationOperation)
    (f : ReconciliationOperation → ReconciliationOperation)
    (hf : ∀ q, key (f q) = key q) (k : Uuid × GraphId × ProjectionRole) :
    (updateProjection db p f hf).projections.get? k =
      (db.projections.get? k).map fun q => if k = key p then f q else q := by
  simp only [updateProjection, get?_updateWhere, decide_eq_true_eq]
  cases hq : db.projections.get? k with
  | none => rfl
  | some q =>
    have hk : key q = k := get?_key hq
    rw [← hk]
    simp only [key_projection, Prod.mk.injEq, Option.map_some]

variable {hf : ∀ q, key (f q) = key q} (hop : ∀ q, (f q).agentOperationId = q.agentOperationId)
  (hq : ∀ q, (f q).state ≠ .queued)

include hop hq

lemma Working.updateProjection (h : Working skip db)
    (hskip : ∀ x q id, db.projections.get? x = some q → q.agentOperationId = some id →
      x ≠ key p → skip' ≠ some id → skip ≠ some id)
    (hrow : ∀ q id o, db.projections.get? (key p) = some q → q.agentOperationId = some id →
      db.operations.get? id = some o → skip' ≠ some id → o.state.unfinished = false) :
    Working skip' (AgentJobs.updateProjection db p f hf) := by
  have hback : ∀ {x q'}, (AgentJobs.updateProjection db p f hf).projections.get? x = some q' →
      ∃ q, db.projections.get? x = some q ∧ q' = (if x = key p then f q else q) ∧
        q'.agentOperationId = q.agentOperationId ∧ q'.reconciliationId = q.reconciliationId := by
    intro x q' hq'
    rw [get?_updateProjection] at hq'
    obtain ⟨q, hqq, rfl⟩ := Option.map_eq_some_iff.mp hq'
    refine ⟨q, hqq, rfl, ?_, ?_⟩
    · split
      · exact hop q
      rfl
    split
    · have := hf q
      simp only [key_projection, Prod.mk.injEq] at this
      exact this.1
    rfl
  constructor
  · intro id o job r ho hjob hr
    obtain ⟨g, role, q, hqq, hid⟩ := h.projected id o job r ho hjob hr
    refine ⟨g, role, if (r, g, role) = key p then f q else q, ?_, ?_⟩
    · rw [get?_updateProjection, hqq, Option.map_some]
    split
    · rw [hop, hid]
    exact hid
  · intro x q' id hkey hid
    obtain ⟨q, hqq, rfl, hopq, hr⟩ := hback hkey
    obtain ⟨o, job, hb⟩ := h.bound x q id hqq (hopq ▸ hid)
    refine ⟨o, job, hb.operation, hb.parent, hb.reconciliation.trans (by rw [hr]), hb.unsigned,
      hb.unanswered, ?_⟩
    intro hs
    split
    · next heq =>
      subst heq
      have hfin := hrow q id o hqq (hopq ▸ hid) hb.operation hs
      simp [hfin, hq q]
    next hne => exact hb.unfinished (hskip x q id hqq (hopq ▸ hid) hne hs)
  · intro k k' q₁ q₂ id hk hk' h₁ h₂
    obtain ⟨p₁, hp₁, -, ho₁, -⟩ := hback hk
    obtain ⟨p₂, hp₂, -, ho₂, -⟩ := hback hk'
    exact h.unique k k' p₁ p₂ id hp₁ hp₂ (ho₁ ▸ h₁) (ho₂ ▸ h₂)
  · intro x q' hkey hstate
    obtain ⟨q, hqq, rfl, hopq, -⟩ := hback hkey
    rw [hopq]
    split at hstate
    · exact absurd hstate (hq q)
    exact h.queued x q hqq hstate
  exact h.jobs

lemma Working.updateProjection_idle (h : Working skip db)
    (hidle : ∀ q, db.projections.get? (key p) = some q → q.state ≠ .queued) :
    Working skip (AgentJobs.updateProjection db p f hf) := by
  refine h.updateProjection hop hq (fun _ _ _ _ _ _ hs => hs) ?_
  intro q id o hqq hid ho hs
  obtain ⟨o', job, hb⟩ := h.bound _ q id hqq hid
  have hne := hidle q hqq
  by_contra hun
  obtain rfl : o' = o := Option.mem_unique hb.operation ho
  exact hne ((hb.unfinished hs).mp (by simpa using hun))

lemma Working.settle (h : Working (some k) db)
    (hrow : db.projections.get? (key p) = some q) (hid : q.agentOperationId = some k)
    (hfin : ∀ o, db.operations.get? k = some o → o.state.unfinished = false) :
    Working none (AgentJobs.updateProjection db p f hf) := by
  refine h.updateProjection hop hq ?_ ?_
  · intro x q' id hkey hq' hne _ heq
    cases heq
    exact hne (h.unique x _ q' q k hkey hrow hq' hid)
  intro q' id o hq' hid' ho _
  obtain rfl : q' = q := Option.mem_unique hq' hrow
  obtain rfl : k = id := Option.mem_unique hid hid'
  exact hfin o ho

end Writes

lemma RowFenced.trans {r : ReconciliationOperation} (h : RowFenced p q) (h' : RowFenced q r) :
    RowFenced p r :=
  ⟨h.pending, h'.fenced, h'.operation.trans h.operation⟩

/-- Work of the reconciliation `id` is fenced off, and nothing else changes. -/
structure Fences (id : Uuid) (db db' : Database) : Prop where
  working : Working none db'
  reconciliations : db'.reconciliations = db.reconciliations
  cancellations : db'.cancellations = db.cancellations
  publications : db'.publications = db.publications
  jobs : db'.jobs = db.jobs
  rows : ∀ k, db'.projections.get? k = db.projections.get? k ∨ k.1 = id ∧
    ∃ p q, db.projections.get? k = some p ∧ db'.projections.get? k = some q ∧ RowFenced p q

/-- No row of this role is queued. -/
def Cleared (id : Uuid) (role : ProjectionRole) (db : Database) : Prop :=
  ∀ g q, db.projections.get? (id, g, role) = some q → q.state ≠ .queued

section Fences

variable {mid : Database} {id : Uuid} {plan : ResolvedPlan}

lemma Fences.refl (h : Working none db) (id : Uuid) : Fences id db db :=
  ⟨h, rfl, rfl, rfl, rfl, fun _ => .inl rfl⟩

lemma Fences.trans (h : Fences id db mid) (h' : Fences id mid db') : Fences id db db' := by
  refine ⟨h'.working, h'.reconciliations.trans h.reconciliations,
    h'.cancellations.trans h.cancellations, h'.publications.trans h.publications,
    h'.jobs.trans h.jobs, ?_⟩
  intro k
  rcases h.rows k with heq | ⟨hid, p, q, hp, hq, hf⟩
  · rcases h'.rows k with heq' | ⟨hid, p, q, hp, hq, hf⟩
    · exact .inl (heq'.trans heq)
    exact .inr ⟨hid, p, q, heq ▸ hp, hq, hf⟩
  rcases h'.rows k with heq' | ⟨-, q', r, hq', hr, hf'⟩
  · exact .inr ⟨hid, p, q, hp, heq'.trans hq, hf⟩
  obtain rfl : q = q' := Option.mem_unique hq hq'
  exact .inr ⟨hid, p, r, hp, hr, hf.trans hf'⟩

variable {uncertain : Bool} {k : Uuid × GraphId × ProjectionRole} {role : ProjectionRole}
  {op : StoredOperation} {u v : Database} {f : ReconciliationOperation → ReconciliationOperation}
  {i : Uuid} {roles : List ProjectionRole}

section

variable (h : Fences id db db')

include h

lemma Fences.foreign (k : Uuid × GraphId × ProjectionRole) (hk : k.1 ≠ id) :
    db'.projections.get? k = db.projections.get? k := by
  rcases h.rows k with heq | ⟨hid, -⟩
  · exact heq
  exact absurd hid hk

lemma Fences.not_queued (hk : ∀ q, db.projections.get? k = some q → q.state ≠ .queued) :
    ∀ q, db'.projections.get? k = some q → q.state ≠ .queued := by
  intro q hq
  rcases h.rows k with heq | ⟨-, p, q', -, hq', hf⟩
  · exact hk q (heq ▸ hq)
  obtain rfl : q = q' := Option.mem_unique hq hq'
  rcases hf.fenced with hs | hs <;> simp [hs]

lemma Fences.cleared (hc : Cleared id role db) : Cleared id role db' :=
  fun g => h.not_queued (hc g)

lemma Fences.row (hp : db.projections.get? k = some p) :
    ∃ q, db'.projections.get? k = some q ∧ q.agentOperationId = p.agentOperationId ∧
      (q = p ∨ RowFenced p q) := by
  rcases h.rows k with heq | ⟨-, p', q, hp', hq, hf⟩
  · exact ⟨p, heq.trans hp, rfl, .inl rfl⟩
  obtain rfl : p = p' := Option.mem_unique hp hp'
  exact ⟨q, hq, hf.operation, .inr hf⟩

end

lemma fences_updateProjection {hf : ∀ q, key (f q) = key q}
    (hid : p.reconciliationId = id) (hw : Working none (updateProjection db p f hf))
    (hrow : ∀ q, db.projections.get? (key p) = some q → RowFenced q (f q)) :
    Fences id db (updateProjection db p f hf) := by
  refine ⟨hw, rfl, rfl, rfl, rfl, ?_⟩
  intro k
  rw [get?_updateProjection]
  cases hq : db.projections.get? k with
  | none => exact .inl rfl
  | some q =>
    by_cases hk : k = key p
    · subst hk
      exact .inr ⟨hid, q, f q, rfl, by rw [Option.map_some, if_pos rfl], hrow q hq⟩
    exact .inl (by rw [Option.map_some, if_neg hk])

lemma Working.state_of_unfinished (h : Working skip db) {o : StoredOperation}
    (hq : db.projections.get? k = some q) (hi : q.agentOperationId = some i)
    (ho : db.operations.get? i = some o) (hs : skip ≠ some i) :
    o.state.unfinished = true ↔ q.state = .queued := by
  obtain ⟨o', job, hb⟩ := h.bound k q i hq hi
  obtain rfl : o' = o := Option.mem_unique hb.operation ho
  exact hb.unfinished hs

section

variable (hrec : mid.reconciliations = db.reconciliations)
  (hcan : mid.cancellations = db.cancellations) (hpub : mid.publications = db.publications)
  (hjobs : mid.jobs = db.jobs) (hproj : mid.projections = db.projections)

include hrec hcan hpub hjobs hproj

lemma fences_settle {k : Uuid} (hw : Working (some k) mid) (hid : p.reconciliationId = id)
    (hrow : db.projections.get? (key p) = some q) (hq : q.agentOperationId = some k)
    (hqueued : q.state = .queued)
    (hfin : ∀ o, mid.operations.get? k = some o → o.state.unfinished = false)
    {hf : ∀ q, key (f q) = key q}
    (hop : ∀ q, (f q).agentOperationId = q.agentOperationId)
    (hstate : ∀ q, (f q).state = .failed ∨ (f q).state = .waitingForOperator) :
    Fences id db (updateProjection mid p f hf) ∧
      ∀ q', (updateProjection mid p f hf).projections.get? (key p) = some q' →
        q'.state ≠ .queued := by
  have hleft : ∀ q, (f q).state ≠ .queued := by
    intro q
    rcases hstate q with h | h <;> simp [h]
  constructor
  · refine ⟨hw.settle hop hleft (by rw [hproj]; exact hrow) hq hfin, hrec, hcan, hpub, hjobs, ?_⟩
    intro x
    rw [get?_updateProjection, hproj]
    cases hkey : db.projections.get? x with
    | none => exact .inl rfl
    | some q' =>
      by_cases heq : x = key p
      · subst heq
        obtain rfl : q' = q := Option.mem_unique hkey hrow
        exact .inr ⟨hid, q', f q', rfl, by rw [Option.map_some, if_pos rfl],
          .inr (.inl hqueued), hstate q', hop q'⟩
      exact .inl (by rw [Option.map_some, if_neg heq])
  intro q' hq'
  rw [get?_updateProjection, hproj, hrow, Option.map_some, if_pos rfl] at hq'
  cases hq'
  exact hleft q

variable (hw : Working none db) (hid : p.reconciliationId = id)
  (hrow : db.projections.get? (key p) = some q) (hq : q.agentOperationId = some op.id)
  (ho : db.operations.get? op.id = some op)

include hw hid hrow hq ho

lemma fences_close (hun : op.state.unfinished = true) {f : StoredOperation → StoredOperation}
    {hf : ∀ o, (f o).id = o.id} (hmid : mid.operations = (setOperation db op.id f hf).operations)
    (hkeep : ∀ o, (f o).parentJobId = o.parentJobId ∧ (f o).kind = o.kind ∧
      (o.retryDisposition = none → (f o).retryDisposition = none))
    (hfin : ∀ o, (f o).state.unfinished = false) {state : ProjectionState}
    (hstate : state = .failed ∨ state = .waitingForOperator) :
    Fences id db (setProjection mid p state) ∧
      ∀ q', (setProjection mid p state).projections.get? (key p) = some q' →
        q'.state ≠ .queued := by
  have hqueued := (hw.state_of_unfinished hrow hq ho (by simp)).mp hun
  have hskip : Working (some op.id) (setOperation db op.id f hf) :=
    hw.setOperation_skip hkeep (.inl rfl)
  refine fences_settle hrec hcan hpub hjobs hproj (hskip.of_tables hmid hjobs hproj) hid hrow hq
    hqueued ?_ (fun _ => rfl) (fun _ => hstate)
  intro o ho'
  rw [hmid, get?_setOperation, ho, Option.map_some, if_pos rfl] at ho'
  cases ho'
  exact hfin op

omit hrec hcan hpub hjobs hproj

lemma fences_park (hun : op.state.unfinished = true)
    (hmid : mid = { db with attempts := mid.attempts }) :
    Fences id db (setProjection (parkOperation mid now op.id) p .waitingForOperator) := by
  rw [hmid]
  have hclose := @fences_close db p q (parkOperation { db with attempts := mid.attempts } now op.id)
    id op rfl rfl rfl rfl rfl hw hid hrow hq ho hun
    (fun o => { o with state := .waitingForOperator, retryDisposition := none,
                       retryDispositionAttempt := none, updatedAt := now }) (fun _ => rfl)
    rfl (fun _ => ⟨rfl, rfl, fun _ => rfl⟩) (fun _ => rfl) .waitingForOperator (.inr rfl)
  exact hclose.1

lemma fences_quiesceOperation (h : quiesceOperation db now p op uncertain = .ok db') :
    Fences id db db' ∧ ∀ q', db'.projections.get? (key p) = some q' → q'.state ≠ .queued := by
  unfold quiesceOperation at h
  split at h
  · next hstate =>
    cases h
    apply fences_close _ _ _ _ _ hw hid hrow hq ho (by rw [hstate]; rfl)
    case hmid => rfl
    case hkeep => exact fun _ => ⟨rfl, rfl, fun h => h⟩
    case hstate => exact .inl rfl
    all_goals first
      | exact fun _ => rfl
      | rfl
  · next hstate =>
    split at h
    · cases h
    split at h
    · cases h
    cases h
    apply fences_close _ _ _ _ _ hw hid hrow hq ho (by rw [hstate]; rfl)
    case hmid => rfl
    case hkeep => exact fun _ => ⟨rfl, rfl, fun h => h⟩
    case hfin => exact fun _ => unfinished_quiescedOperation uncertain
    case hstate =>
      cases uncertain
      · exact .inl rfl
      exact .inr rfl
    all_goals first
      | exact fun _ => rfl
      | rfl
  next hnq hnr =>
  cases h
  refine ⟨.refl hw id, ?_⟩
  intro q' hq' hqueued
  obtain rfl : q' = q := Option.mem_unique hq' hrow
  rcases (unfinished_iff _).mp ((hw.state_of_unfinished hrow hq ho (by simp)).mpr hqueued)
    with hs | hs
  · exact hnq hs
  exact hnr hs

end

lemma fences_foldlM {σ : Type} (π : σ → Database)
    {step : σ → ReconciliationOperation → Except JobError σ} {rows : List ReconciliationOperation}
    (hstep : ∀ s, ∀ p ∈ rows, ∀ t, Fences id db (π s) → step s p = .ok t →
      Fences id (π s) (π t) ∧ ∀ q, (π t).projections.get? (key p) = some q → q.state ≠ .queued)
    {s t : σ} (hs : Fences id db (π s)) (h : rows.foldlM step s = .ok t) :
    Fences id (π s) (π t) ∧
      ∀ p ∈ rows, ∀ q, (π t).projections.get? (key p) = some q → q.state ≠ .queued := by
  induction rows generalizing s with
  | nil =>
    cases h
    exact ⟨.refl hs.working id, fun p hp => by cases hp⟩
  | cons p rest ih =>
    obtain ⟨u, hu, h⟩ := of_bind_ok h
    obtain ⟨hf, hc⟩ := hstep s p List.mem_cons_self u hs hu
    obtain ⟨hf', hc'⟩ := ih (fun s p hp => hstep s p (.tail _ hp)) (hs.trans hf) h
    refine ⟨hf.trans hf', ?_⟩
    intro p' hp'
    rcases List.mem_cons.mp hp' with rfl | hp'
    · exact hf'.not_queued hc
    exact hc' p' hp'

lemma get?_of_projectionsOf (h : p ∈ projectionsOf db id roles) :
    db.projections.get? (key p) = some p ∧ p.reconciliationId = id ∧ p.role ∈ roles := by
  obtain ⟨hp, hid, hrole⟩ := mem_projectionsOf.mp h
  exact ⟨get?_of_mem hp, hid, hrole⟩

lemma Fences.cleared_of_rows (hf : Fences id db db')
    (hc : ∀ p ∈ projectionsOf db id roles, ∀ q, db'.projections.get? (key p) = some q →
      q.state ≠ .queued) (hrole : role ∈ roles) : Cleared id role db' := by
  intro g q hq
  have hbefore : ∃ p, db.projections.get? (id, g, role) = some p := by
    rcases hf.rows (id, g, role) with heq | ⟨-, p, -, hp, -, -⟩
    · exact ⟨q, heq ▸ hq⟩
    exact ⟨p, hp⟩
  obtain ⟨p, hp⟩ := hbefore
  have hkey : key p = (id, g, role) := get?_key hp
  refine hc p ?_ q (by rw [hkey]; exact hq)
  simp only [key_projection, Prod.mk.injEq] at hkey
  exact mem_projectionsOf.mpr ⟨mem_of_get? hp, hkey.1, hkey.2.2 ▸ hrole⟩

section

variable (hu : Fences id db u) (hp : db.projections.get? (key p) = some p)
  (hid : p.reconciliationId = id)

include hu hp hid

lemma fences_planned (hplanned : p.state = .planned) :
    Fences id u (setProjection u p .failed) ∧
      ∀ q, (setProjection u p .failed).projections.get? (key p) = some q → q.state ≠ .queued := by
  obtain ⟨q, hq, -, hfenced⟩ := hu.row hp
  have hidle : q.state = .planned ∨ q.state = .failed ∨ q.state = .waitingForOperator := by
    rcases hfenced with rfl | hf
    · exact .inl hplanned
    exact .inr hf.fenced
  have hnot : q.state ≠ .queued := by rcases hidle with h | h | h <;> simp [h]
  have hw : Working none (setProjection u p .failed) := by
    refine hu.working.updateProjection_idle (fun _ => rfl) (fun _ => by simp) ?_
    intro q' hq'
    obtain rfl : q' = q := Option.mem_unique hq' hq
    exact hnot
  constructor
  · refine fences_updateProjection hid hw ?_
    intro q' hq'
    obtain rfl : q' = q := Option.mem_unique hq' hq
    refine ⟨?_, .inl rfl, rfl⟩
    rcases hidle with h | h | h
    · exact .inl h
    · exact .inr (.inr (.inl h))
    exact .inr (.inr (.inr h))
  intro q' hq'
  rw [setProjection, get?_updateProjection, hq, Option.map_some, if_pos rfl] at hq'
  cases hq'
  simp

lemma fences_operation (hi : p.agentOperationId = some i) (hop : u.operations.get? i = some op)
    (h : quiesceOperation u now p op uncertain = .ok v) :
    Fences id u v ∧ ∀ q, v.projections.get? (key p) = some q → q.state ≠ .queued := by
  obtain ⟨q, hq, hqi, -⟩ := hu.row hp
  obtain rfl : op.id = i := get?_key hop
  exact fences_quiesceOperation hu.working hid hq (hqi.trans hi) hop h

lemma fences_quiesceProjection (hw : Working none db) (h : quiesceProjection now u p = .ok v) :
    Fences id u v ∧ ∀ q, v.projections.get? (key p) = some q → q.state ≠ .queued := by
  unfold quiesceProjection at h
  split at h
  · next hplanned =>
    cases h
    exact fences_planned hu hp hid hplanned
  split at h
  · next hnone =>
    cases h
    refine ⟨.refl hu.working id, hu.not_queued ?_⟩
    intro q hq hqueued
    obtain rfl : q = p := Option.mem_unique hq hp
    have := hw.queued _ q hq hqueued
    rw [hnone] at this
    cases this
  next i hi =>
  split at h
  · cases h
  next op hop => exact fences_operation hu hp hid hi hop h

end

lemma fences_quiescePendingOne {acc acc' : Bool × Database} (hu : Fences id db acc.2)
    (hp : db.projections.get? (key p) = some p) (hid : p.reconciliationId = id)
    (hw : Working none db) (h : quiescePendingOne now plan acc p = .ok acc') :
    Fences id acc.2 acc'.2 ∧ ∀ q, acc'.2.projections.get? (key p) = some q → q.state ≠ .queued := by
  unfold quiescePendingOne at h
  split at h
  · next hplanned =>
    cases h
    exact fences_planned hu hp hid hplanned
  split at h
  · next i hstate hi =>
    split at h
    · cases h
    next op hop =>
    obtain ⟨node, -, d, hd, h⟩ := of_bind_ok₂ h
    cases h
    exact fences_operation hu hp hid hi hop hd
  next hpending =>
  cases h
  refine ⟨.refl hu.working id, ?_⟩
  -- a queued projection has its operation
  refine hu.not_queued ?_
  intro q hq hqueued
  obtain rfl : q = p := Option.mem_unique hq hp
  obtain ⟨i, hi⟩ := Option.isSome_iff_exists.mp (hw.queued _ q hq hqueued)
  exact hpending i hqueued hi

variable (hw : Working none db)

include hw

lemma fences_quiescePending (h : quiescePending db now id plan role = .ok (uncertain, db')) :
    Fences id db db' ∧ Cleared id role db' := by
  obtain ⟨hf, hc⟩ := @fences_foldlM db id _ (fun acc : Bool × Database => acc.2) _ _
    (fun acc p hp acc' hu hstep => by
      obtain ⟨hget, hid, -⟩ := get?_of_projectionsOf hp
      exact fences_quiescePendingOne hu hget hid hw hstep)
    (false, db) (uncertain, db') (.refl hw id) h
  exact ⟨hf, hf.cleared_of_rows hc (by simp)⟩

lemma fences_both {primary compensation : Bool}
    (h : quiescePending db now id plan .primary = .ok (primary, mid))
    (h' : quiescePending mid now id plan .compensation = .ok (compensation, db')) :
    Fences id db db' ∧ ∀ role, Cleared id role db' := by
  obtain ⟨hf, hc⟩ := fences_quiescePending hw h
  obtain ⟨hf', hc'⟩ := fences_quiescePending hf.working h'
  refine ⟨hf.trans hf', ?_⟩
  rintro ⟨⟩
  · exact hf'.cleared hc
  exact hc'

lemma fences_quiesceBoth (h : quiesceBoth db now id plan = .ok db') :
    Fences id db db' ∧ ∀ role, Cleared id role db' := by
  obtain ⟨⟨_, d⟩, hd, ⟨_, e⟩, he, h⟩ := of_bind_ok₂ h
  cases h
  exact fences_both hw hd he

lemma fences_quiesceRoles (h : quiesceRoles db now id plan = .ok (uncertain, db')) :
    Fences id db db' ∧ ∀ role, Cleared id role db' := by
  obtain ⟨⟨_, d⟩, hd, ⟨_, e⟩, he, h⟩ := of_bind_ok₂ h
  cases h
  exact fences_both hw hd he

lemma fences_quiesceReconciliationOperations
    (h : quiesceReconciliationOperations db id now = .ok db') :
    Fences id db db' ∧ ∀ role, Cleared id role db' := by
  obtain ⟨hf, hc⟩ := @fences_foldlM db id _ (fun d : Database => d) _ _
    (fun d p hp d' hu hstep => by
      obtain ⟨hget, hid, -⟩ := get?_of_projectionsOf hp
      exact fences_quiesceProjection hu hget hid hw hstep)
    db db' (.refl hw id) h
  exact ⟨hf, fun role => hf.cleared_of_rows hc (mem_roles role)⟩

end Fences

end VonkForge.AgentReconciliation
