import VonkForge.ReconciliationWork

/-!
# The routines of a reconciliation as steps of its life

`lifeOf` reads a life off the database; every routine advances the life of one reconciliation by one
step and leaves the others alone (`Advances`).
-/

namespace VonkForge.AgentReconciliation

open AgentJobs Table
open Keyed (key)

variable {acc : Bool × Database} {db db' : Database} {r : Reconciliation}
  {p : ReconciliationOperation} {plan : ResolvedPlan} {id i jobId : Uuid}

/-- The life that the tables record for a row. -/
def lifeRow (db : Database) (r : Reconciliation) (plan : ResolvedPlan) : Life where
  plan := plan
  phase := r.currentPhase
  status := r.status
  rows := fun g role => db.projections.get? (r.id, g, role)
  cancellation := (db.cancellations.get? r.id).map (·.state)
  evidence := (db.publications.get? r.id).bind (·.evidenceDigest)

def lifeOf (db : Database) (id : Uuid) : Option Life :=
  (db.reconciliations.get? id).bind fun r => r.plan.map (lifeRow db r)

section Lives

lemma lifeOf_row (hr : db.reconciliations.get? r.id = some r) (hplan : r.plan = some plan) :
    lifeOf db r.id = some (lifeRow db r plan) := by
  simp only [lifeOf, hr, Option.bind_some, hplan, Option.map_some]

lemma lifeOf_congr (hr : db'.reconciliations.get? id = db.reconciliations.get? id)
    (hp : ∀ g role, db'.projections.get? (id, g, role) = db.projections.get? (id, g, role))
    (hc : db'.cancellations.get? id = db.cancellations.get? id)
    (hb : db'.publications.get? id = db.publications.get? id) : lifeOf db' id = lifeOf db id := by
  unfold lifeOf
  rw [hr]
  cases hrow : db.reconciliations.get? id with
  | none => rfl
  | some r =>
    have hid : r.id = id := get?_key hrow
    subst hid
    simp only [Option.bind_some]
    congr 1
    funext plan
    simp only [lifeRow, hp, hc, hb]

lemma map_write_map {write write' : Life → Life} (k i : Uuid) (l : Option Life) :
    (l.map fun l => if k = i then write l else l).map (fun l => if k = i then write' l else l) =
      l.map fun l => if k = i then write' (write l) else l := by
  rw [Option.map_map]
  congr 1
  funext l
  by_cases hk : k = i <;> simp [hk]

lemma lifeOf_write {write : Life → Life} {i : Uuid}
    (hr : db'.reconciliations = db.reconciliations)
    (h : ∀ q plan, lifeRow db' q plan =
      if q.id = i then write (lifeRow db q plan) else lifeRow db q plan) (k : Uuid) :
    lifeOf db' k = (lifeOf db k).map fun l => if k = i then write l else l := by
  unfold lifeOf
  rw [hr]
  cases hrow : db.reconciliations.get? k with
  | none => rfl
  | some q =>
    obtain rfl : q.id = k := get?_key hrow
    simp only [Option.bind_some, Option.map_map]
    congr 1
    funext plan
    exact h q plan

lemma lifeOf_of_tables (hr : db'.reconciliations = db.reconciliations)
    (hp : db'.projections = db.projections) (hc : db'.cancellations = db.cancellations)
    (hb : db'.publications = db.publications) (id : Uuid) : lifeOf db' id = lifeOf db id :=
  lifeOf_congr (by rw [hr]) (fun _ _ => by rw [hp]) (by rw [hc]) (by rw [hb])

lemma lifeOf_updateReconciliation {f : Reconciliation → Reconciliation}
    {hf : ∀ q, key (f q) = key q} (phase : ReconciliationPhase → ReconciliationPhase)
    (status : ReconciliationStatus → ReconciliationStatus)
    (h : ∀ q, (f q).plan = q.plan ∧ (f q).currentPhase = phase q.currentPhase ∧
      (f q).status = status q.status) (k : Uuid) :
    lifeOf { db with
      reconciliations := db.reconciliations.updateWhere (fun q => decide (q.id = i)) f hf } k =
      (lifeOf db k).map fun l =>
        if k = i then { l with phase := phase l.phase, status := status l.status } else l := by
  simp only [lifeOf, get?_updateWhere, decide_eq_true_eq]
  cases hrow : db.reconciliations.get? k with
  | none => rfl
  | some q =>
    have hid : q.id = k := get?_key hrow
    subst hid
    simp only [Option.map_some, Option.bind_some]
    by_cases hi : q.id = i
    · have hkey : (f q).id = q.id := hf q
      simp only [if_pos hi, (h q).1, Option.map_map]
      congr 1
      funext plan
      simp only [Function.comp_apply, lifeRow, (h q).2.1, (h q).2.2, hkey]
    simp only [if_neg hi, Option.map_map]
    rfl

@[simp]
lemma lifeOf_setReconciliation (i : Uuid) (phase : ReconciliationPhase)
    (status : ReconciliationStatus) (reason : Option String) (k : Uuid) :
    lifeOf (setReconciliation db i phase status reason) k = (lifeOf db k).map fun l =>
      if k = i then { l with phase := phase, status := status } else l :=
  @lifeOf_updateReconciliation db i
    (fun q => { q with currentPhase := phase, status := status, terminalReason := reason })
    (fun _ => rfl) (fun _ => phase) (fun _ => status) (fun _ => ⟨rfl, rfl, rfl⟩) k

@[simp]
lemma lifeOf_setPhase (i : Uuid) (phase : ReconciliationPhase) (k : Uuid) :
    lifeOf (setPhase db i phase) k = (lifeOf db k).map fun l =>
      if k = i then { l with phase := phase } else l :=
  @lifeOf_updateReconciliation db i (fun q => { q with currentPhase := phase }) (fun _ => rfl)
    (fun _ => phase) (fun status => status) (fun _ => ⟨rfl, rfl, rfl⟩) k

@[simp]
lemma lifeOf_setJob (i : Uuid) (state : JobState) (reason : Option String) (now : Time)
    (k : Uuid) : lifeOf (setJob db i state reason now) k = lifeOf db k :=
  lifeOf_of_tables rfl rfl rfl rfl k

@[simp]
lemma lifeOf_waitForOperator (now : Time) (i job : Uuid) (reason : String) (k : Uuid) :
    lifeOf (waitForOperator db now i job reason) k = (lifeOf db k).map fun l =>
      if k = i then { l with phase := .waitingForOperator, status := .failed } else l := by
  rw [waitForOperator, lifeOf_setJob, lifeOf_setReconciliation]

@[simp]
lemma lifeOf_setCancellationState (i : Uuid) (state : CancellationState) (k : Uuid) :
    lifeOf (setCancellationState db i state) k = (lifeOf db k).map fun l =>
      if k = i then { l with cancellation := l.cancellation.map fun _ => state } else l := by
  refine lifeOf_write (by rfl) (fun q plan => ?_) k
  simp only [lifeRow, setCancellationState, get?_updateWhere, decide_eq_true_eq]
  cases hc : db.cancellations.get? q.id with
  | none => by_cases hi : q.id = i <;> simp [hi]
  | some c =>
    have hkey : c.reconciliationId = q.id := get?_key hc
    by_cases hi : q.id = i <;> simp [hi, hkey]

lemma lifeOf_updatePublication {f : RoutePublication → RoutePublication}
    {hf : ∀ p, key (f p) = key p} {evidence : Option Digest}
    (h : ∀ p, (f p).evidenceDigest = evidence) (hp : (db.publications.get? i).isSome = true)
    (k : Uuid) :
    lifeOf (updatePublication db i f hf) k = (lifeOf db k).map fun l =>
      if k = i then { l with evidence := evidence } else l := by
  refine lifeOf_write (by rfl) (fun q plan => ?_) k
  simp only [lifeRow, updatePublication, get?_updateWhere, decide_eq_true_eq]
  cases hb : db.publications.get? q.id with
  | none =>
    by_cases hi : q.id = i
    · rw [← hi, hb] at hp
      cases hp
    simp [hi]
  | some p =>
    have hkey : p.reconciliationId = q.id := get?_key hb
    by_cases hi : q.id = i <;> simp [hi, hkey, h]

lemma lifeOf_storeMarker {marker : ActivationMarker} {state : PublicationState}
    (h : storeMarker db i marker state = .ok db') (hp : (db.publications.get? i).isSome = true)
    (k : Uuid) :
    lifeOf db' k = (lifeOf db k).map fun l =>
      if k = i then { l with evidence := some marker.evidenceSetDigest } else l := by
  unfold storeMarker at h
  split at h
  · cases h
  cases h
  refine lifeOf_updatePublication ?_ hp k
  exact fun _ => rfl

lemma lifeOf_insertPublication {p : RoutePublication} {publications : Table RoutePublication}
    (h : db.publications.insert p = some publications) (he : p.evidenceDigest = none) (k : Uuid) :
    lifeOf { db with publications := publications } k = (lifeOf db k).map fun l =>
      if k = p.reconciliationId then { l with evidence := none } else l := by
  refine lifeOf_write (by rfl) (fun q plan => ?_) k
  simp only [lifeRow, get?_insert h, key_publication]
  by_cases hi : q.id = p.reconciliationId <;> simp [hi, he]

lemma lifeOf_updateProjection {f : ReconciliationOperation → ReconciliationOperation}
    {hf : ∀ q, key (f q) = key q} (k : Uuid) :
    lifeOf (updateProjection db p f hf) k = (lifeOf db k).map fun l =>
      if k = p.reconciliationId then
        { l with rows := fun g role => (l.rows g role).map fun q =>
            if g = p.graphOperationId ∧ role = p.role then f q else q }
      else l := by
  refine lifeOf_write (by rfl) (fun q plan => ?_) k
  simp only [lifeRow, @get?_updateProjection db p f hf, key_projection, Prod.mk.injEq]
  by_cases hi : q.id = p.reconciliationId
  · simp only [hi, true_and, if_true]
    rfl
  simp only [hi, false_and, if_false, Option.map_id']
  rfl

end Lives

/-- No table that a life is read from is written. -/
structure Still (db db' : Database) : Prop where
  reconciliations : db'.reconciliations = db.reconciliations
  projections : db'.projections = db.projections
  cancellations : db'.cancellations = db.cancellations
  publications : db'.publications = db.publications
  jobs : db'.jobs = db.jobs
  operations : db'.operations = db.operations

def HadOperation (db : Database) (k : Uuid × GraphId × ProjectionRole) (i : Uuid) : Prop :=
  ∃ p, db.projections.get? k = some p ∧ p.agentOperationId = some i

/-- The life of one reconciliation advances by a step, and the others stay as they are; a projection
that gets an operation gets a new one. -/
structure Advances (H : List (GraphId × Digest × Digest) → Digest) (owns : Bool) (id : Uuid)
    (db db' : Database) : Prop where
  working : Working none db'
  others : ∀ k, k ≠ id → lifeOf db' k = lifeOf db k
  foreign : ∀ k : Uuid × GraphId × ProjectionRole, k.1 ≠ id →
    db'.projections.get? k = db.projections.get? k
  fresh : ∀ k p i, db'.projections.get? k = some p → p.agentOperationId = some i →
    HadOperation db k i ∨ db.operations.get? i = none
  self : ∃ l l', lifeOf db id = some l ∧ lifeOf db' id = some l' ∧ Step H owns l l'

/-- What a routine knows of the reconciliation that it has locked. -/
structure Context (H : List (GraphId × Digest × Digest) → Digest) (db : Database)
    (r : Reconciliation) (job : Job) (plan : ResolvedPlan) : Prop where
  working : Working none db
  row : db.reconciliations.get? r.id = some r
  resolved : r.plan = some plan
  stored : db.jobs.get? job.id = some job
  parent : job.reconciliationId = some r.id
  sound : Sound H (lifeRow db r plan)

section Contexts

variable {H : EvidenceDigest} {owns : Bool} {mid : Database} {job : Job} {now : Time}

lemma Still.refl (db : Database) : Still db db := ⟨rfl, rfl, rfl, rfl, rfl, rfl⟩

lemma Still.trans (h : Still db mid) (h' : Still mid db') : Still db db' :=
  ⟨h'.reconciliations.trans h.reconciliations, h'.projections.trans h.projections,
    h'.cancellations.trans h.cancellations, h'.publications.trans h.publications,
    h'.jobs.trans h.jobs, h'.operations.trans h.operations⟩

lemma still_of_leases (h : LeaseHandoff.LeasesOnly db db') : Still db db' := by
  obtain ⟨leases, rfl⟩ := h
  exact ⟨rfl, rfl, rfl, rfl, rfl, rfl⟩

lemma Still.life (h : Still db db') (k : Uuid) : lifeOf db' k = lifeOf db k :=
  lifeOf_of_tables h.reconciliations h.projections h.cancellations h.publications k

lemma Still.working {skip : Option Uuid} (h : Still db db') (hw : Working skip db) :
    Working skip db' :=
  hw.of_tables h.operations h.jobs h.projections

lemma Still.lifeRow (h : Still db db') (r : Reconciliation) (plan : ResolvedPlan) :
    AgentReconciliation.lifeRow db' r plan = AgentReconciliation.lifeRow db r plan := by
  simp only [AgentReconciliation.lifeRow, h.projections, h.cancellations, h.publications]

lemma Still.advances (h : Still db mid) (ha : Advances H owns id mid db') :
    Advances H owns id db db' := by
  refine ⟨ha.working, fun k hk => (ha.others k hk).trans (h.life k), ?_, ?_, ?_⟩
  · rw [← h.projections]
    exact ha.foreign
  · unfold HadOperation
    rw [← h.projections, ← h.operations]
    exact ha.fresh
  rw [← h.life id]
  exact ha.self

lemma Advances.still (h : Advances H owns id db mid) (hs : Still mid db') :
    Advances H owns id db db' := by
  refine ⟨hs.working h.working, fun k hk => (hs.life k).trans (h.others k hk), ?_, ?_, ?_⟩
  · rw [hs.projections]
    exact h.foreign
  · rw [hs.projections]
    exact h.fresh
  rw [hs.life id]
  exact h.self

lemma lifeOf_rows (hr : db'.reconciliations = db.reconciliations)
    (hc : db'.cancellations = db.cancellations) (hb : db'.publications = db.publications)
    (hp : ∀ k : Uuid × GraphId × ProjectionRole, k.1 ≠ id →
      db'.projections.get? k = db.projections.get? k) (k : Uuid) :
    lifeOf db' k = (lifeOf db k).map fun l =>
      if k = id then { l with rows := fun g role => db'.projections.get? (id, g, role) } else l := by
  refine lifeOf_write hr (fun q plan => ?_) k
  by_cases hq : q.id = id
  · simp only [lifeRow, hc, hb, hq, if_true]
  have hrows : ∀ g role, db'.projections.get? (q.id, g, role) =
      db.projections.get? (q.id, g, role) := fun g role => hp (q.id, g, role) hq
  simp only [lifeRow, hc, hb, hrows, hq, if_false]

lemma Fences.hadOperation (h : Fences id db db') {k : Uuid × GraphId × ProjectionRole}
    (hp : db'.projections.get? k = some p) (hi : p.agentOperationId = some i) :
    HadOperation db k i := by
  rcases h.rows k with heq | ⟨-, q, q', hq, hq', hf⟩
  · exact ⟨p, heq ▸ hp, hi⟩
  obtain rfl : p = q' := Option.mem_unique hp hq'
  exact ⟨q, hq, hf.operation.symm.trans hi⟩

lemma Fences.life (h : Fences id db db') (k : Uuid) :
    lifeOf db' k = (lifeOf db k).map fun l =>
      if k = id then { l with rows := fun g role => db'.projections.get? (id, g, role) }
      else l :=
  lifeOf_rows h.reconciliations h.cancellations h.publications h.foreign k

lemma fences_sweepOne (hu : Fences id db acc.2) (hp : db.projections.get? (key p) = some p)
    (hid : p.reconciliationId = id) : Fences id acc.2 (sweepOne now acc p).2 := by
  unfold sweepOne
  split
  · next i hstate hi =>
    split
    · exact .refl hu.working id
    next op hop =>
    split
    · next hexpired =>
      obtain ⟨q, hq, hqi, -⟩ := hu.row hp
      obtain rfl : op.id = i := get?_key hop
      exact fences_park hu.working hid hq (hqi.trans hi) hop (by rw [hexpired.1]; rfl) rfl
    exact .refl hu.working id
  exact .refl hu.working id

lemma fences_sweep {rows : List ReconciliationOperation}
    (hrows : ∀ p ∈ rows, db.projections.get? (key p) = some p ∧ p.reconciliationId = id)
    (hu : Fences id db acc.2) : Fences id db (rows.foldl (sweepOne now) acc).2 := by
  induction rows generalizing acc with
  | nil => exact hu
  | cons p rest ih =>
    obtain ⟨hp, hid⟩ := hrows p List.mem_cons_self
    exact ih (fun q hq => hrows q (.tail _ hq)) (hu.trans (fences_sweepOne hu hp hid))

variable (h : Context H db r job plan)

include h

lemma Context.still (hs : Still db db') : Context H db' r job plan :=
  ⟨hs.working h.working, by rw [hs.reconciliations]; exact h.row, h.resolved,
    by rw [hs.jobs]; exact h.stored, h.parent, by rw [hs.lifeRow]; exact h.sound⟩

lemma Context.life : lifeOf db r.id = some (lifeRow db r plan) :=
  lifeOf_row h.row h.resolved

section

variable (hw : Working none db') {f : Life → Life}
  (hlife : ∀ k, lifeOf db' k = (lifeOf db k).map fun l => if k = r.id then f l else l)
  (hstep : Step H owns (lifeRow db r plan) (f (lifeRow db r plan)))

include hw hlife hstep

lemma Context.advancesRows
    (hforeign : ∀ k : Uuid × GraphId × ProjectionRole, k.1 ≠ r.id →
      db'.projections.get? k = db.projections.get? k)
    (hfresh : ∀ k p i, db'.projections.get? k = some p → p.agentOperationId = some i →
      HadOperation db k i ∨ db.operations.get? i = none) :
    Advances H owns r.id db db' := by
  refine ⟨hw, ?_, hforeign, hfresh, lifeRow db r plan, f (lifeRow db r plan), h.life, ?_, hstep⟩
  · intro k hk
    rw [hlife k]
    simp [hk]
  rw [hlife r.id, h.life]
  simp

lemma Context.advances (hproj : db'.projections = db.projections) : Advances H owns r.id db db' :=
  h.advancesRows hw hlife hstep (fun k _ => congrArg (·.get? k) hproj)
    fun _ p _ hp hi => .inl ⟨p, hproj ▸ hp, hi⟩

end

lemma Context.idle (hs : Still db db') : Advances H owns r.id db db' :=
  h.advances (f := id) (hs.working h.working) (fun k => by rw [hs.life k]; simp) .idle
    hs.projections

section

variable (hf : Fences r.id db mid) (hc : ∀ role, Cleared r.id role mid)

include hf hc

lemma Context.fenced (hw : Working none db') {write : Life → Life} {phase : ReconciliationPhase}
    {status : ReconciliationStatus} {cancellation : Option CancellationState}
    (hlife : ∀ k, lifeOf db' k = (lifeOf mid k).map fun l => if k = r.id then write l else l)
    (hwrite : ∀ rows, write { lifeRow db r plan with rows := rows } =
      { lifeRow db r plan with rows, phase, status, cancellation })
    (hmove : FenceMove owns (lifeRow db r plan) phase status cancellation)
    (hproj : db'.projections = mid.projections) : Advances H owns r.id db db' := by
  have hboth : ∀ k, lifeOf db' k = (lifeOf db k).map fun l => if k = r.id then
      write { l with rows := fun g role => mid.projections.get? (r.id, g, role) } else l := by
    intro k
    rw [hlife k, hf.life k, map_write_map]
  refine h.advancesRows hw hboth ?_ (by rw [hproj]; exact hf.foreign)
    (by rw [hproj]; exact fun k p i hp hi => .inl (hf.hadOperation hp hi))
  rw [hwrite]
  exact .fence (fun g role => (hf.rows (r.id, g, role)).imp_right And.right)
    (fun g role q hq => hc role g q hq) hmove

lemma Context.parked (hphase : ended r.currentPhase = false) (jobId : Uuid) (reason : String) :
    Advances H owns r.id db (waitForOperator mid now r.id jobId reason) :=
  h.fenced hf hc (hf.working.waitForOperator _ _ _)
    (fun k => lifeOf_waitForOperator now r.id jobId reason k) (fun _ => rfl) (.park hphase) rfl

end

lemma advances_quiesceForUnavailableTarget (hphase : ended r.currentPhase = false)
    {reason : String} (hq : quiesceForUnavailableTarget db now r jobId plan reason = .ok db') :
    Advances H owns r.id db db' := by
  obtain ⟨d, hd, hq⟩ := of_bind_ok hq
  obtain ⟨hf, hc⟩ := fences_quiesceBoth h.working hd
  exact (h.parked hf hc hphase jobId reason).still (still_of_leases (leasesOnly_markReleasing hq))

lemma advances_sweepExpiredMutations (hphase : ended r.currentPhase = false) {swept : Bool}
    (hs : sweepExpiredMutations db now r jobId plan = .ok (swept, db')) :
    swept = false ∧ db' = db ∨ swept = true ∧ Advances H owns r.id db db' := by
  unfold sweepExpiredMutations at hs
  simp only at hs
  split at hs
  · cases hs
    exact .inl ⟨rfl, rfl⟩
  obtain ⟨d, hd, hs⟩ := of_bind_ok hs
  cases hs
  have hswept : Fences r.id db ((projectionsOf db r.id [.primary] ++
      projectionsOf db r.id [.compensation]).foldl (sweepOne now) (false, db)).2 := by
    refine fences_sweep ?_ (.refl h.working r.id)
    intro p hp
    rcases List.mem_append.mp hp with hp | hp <;>
      exact ⟨(get?_of_projectionsOf hp).1, (get?_of_projectionsOf hp).2.1⟩
  obtain ⟨hf, hc⟩ := fences_quiesceBoth hswept.working hd
  exact .inr ⟨rfl, h.parked (hswept.trans hf) hc hphase jobId _⟩

end Contexts

end VonkForge.AgentReconciliation
