import VonkForge.ReconciliationTick
import VonkForge.ReconciliationEffects

/-!
# What a tick does to the publication's owner

Most routines of a tick leave the owner alone (`Steady`); the others move it to a later
reconciliation (`Moves`).
-/

namespace VonkForge.AgentReconciliation

open AgentJobs LeaseHandoff

variable {db db' : Database} {id : GraphId} {r : Reconciliation}

/-- The reconciliation that owns the route publication. -/
def owner (db : Database) : Option Uuid := db.publicationOwner.bind (·.reconciliationId)

/-- It grows with every transfer. -/
def ownerGeneration (db : Database) : ℕ := (db.publicationOwner.getD {}).ownerGeneration

/-- The order of the reconciliations never changes. -/
theorem Keeps.order (h : Keeps db db') {id : Uuid} (hr : db.reconciliations.get? id = some r) :
    ∃ r', db'.reconciliations.get? id = some r' ∧ publicationOrder r' = publicationOrder r := by
  obtain ⟨r', hr', hc⟩ := h id r hr
  have hid : r'.id = r.id := (Table.get?_key hr').trans (Table.get?_key hr).symm
  refine ⟨r', hr', ?_⟩
  unfold publicationOrder
  rw [hc, hid]

section Routines

variable {now : Time} {plan : ResolvedPlan} {job : Job} {view : TickView}

lemma steady_of_leases (h : LeasesOnly db db') : Steady db db' := by
  obtain ⟨_, rfl⟩ := h
  exact steady_of_tables rfl rfl

lemma steady_setPhase (id : Uuid) (phase : ReconciliationPhase) :
    Steady db (setPhase db id phase) :=
  ⟨keeps_updateReconciliations fun _ => rfl, rfl⟩

lemma steady_setCancellationState (id : Uuid) (state : CancellationState) :
    Steady db (setCancellationState db id state) := steady_of_tables rfl rfl

variable {out : Bool × Database} {p : ReconciliationOperation} {id : Uuid} {uncertain : Bool}
  {node : OperationNode}

lemma steady_quiesceRoles (h : quiesceRoles db now id plan = .ok (uncertain, db')) :
    Steady db db' := by
  obtain ⟨⟨_, d⟩, hd, ⟨_, e⟩, he, h⟩ := of_bind_ok₂ h
  cases h
  exact (settled_quiescePending hd).toSteady.trans (settled_quiescePending he).toSteady

lemma leasesOnly_ensureLease (h : ensureLease view db r = .ok out) : LeasesOnly db out.2 := by
  obtain ⟨⟨_, d⟩, hd, h⟩ := of_bind_ok h
  cases h
  exact leasesOnly_ensure (ofLease_eq_ok hd)

lemma steady_ensureLease (h : ensureLease view db r = .ok out) : Steady db out.2 :=
  steady_of_leases (leasesOnly_ensureLease h)

lemma leasesOnly_settleLeases {out : (Bool × Option Bool) × Database}
    (h : settleLeases view db r = .ok out) : LeasesOnly db out.2 := by
  obtain ⟨⟨released, d⟩, hd, h⟩ := of_bind_ok h
  have hrel := leasesOnly_releasePending (ofLease_eq_ok hd)
  simp only at h
  split at h
  · cases h
    exact hrel
  obtain ⟨⟨marked, e⟩, he, h⟩ := of_bind_ok h
  have hmark : LeasesOnly d e := by
    unfold markTerminal at he
    split at he
    · exact leasesOnly_markNode (ofLease_eq_ok he)
    cases he
    exact .refl d
  split at h
  · cases h
    exact hrel.trans hmark
  split at h
  · obtain ⟨⟨leased, f⟩, hf, h⟩ := of_bind_ok h
    cases h
    exact (hrel.trans hmark).trans (leasesOnly_ensureLease hf)
  cases h
  exact hrel.trans hmark

lemma steady_enqueueInSession {n : NewOperation} {authorizer : Bool}
    (h : enqueueInSession db now n authorizer = .ok db') : Steady db db' := by
  have hinsert := insertOperation_of_enqueue h
  unfold insertOperation at hinsert
  split at hinsert
  · cases hinsert
    exact steady_of_tables rfl rfl
  cases hinsert

lemma steady_queueProjection {kind : AgentOperation} {payload : Payload}
    (h : queueProjection view db r job node kind payload p = .ok db') : Steady db db' := by
  obtain ⟨d, hd, h⟩ := of_bind_ok h
  cases h
  exact (steady_enqueueInSession hd).trans (steady_updateProjection _ _ _)

lemma steady_dispatchOne {rows : List ReconciliationOperation}
    (h : dispatchOne view r job plan rows db id = .ok db') : Steady db db' := by
  obtain ⟨node, _, h⟩ := of_bind_ok h
  split at h
  · cases h
  exact steady_queueProjection h

lemma steady_dispatch (h : dispatch view db r job plan = .ok out) : Steady db out.2 := by
  obtain ⟨⟨notify, d⟩, hd, h⟩ := of_bind_ok h
  cases h
  unfold dispatchPrimary at hd
  simp only at hd
  split at hd
  · cases hd
  split at hd
  · cases hd
    exact steady_setPhase _ _
  obtain ⟨e, he, hd⟩ := of_bind_ok hd
  cases hd
  exact @foldlM_ok_rel _ _ _ _ Steady .refl (fun _ _ _ => .trans)
    (fun _ _ _ => steady_dispatchOne) _ _ _ he

lemma steady_compensateOne (h : compensateOne view db r job plan id = .ok db') : Steady db db' := by
  obtain ⟨node, _, h⟩ := of_bind_ok h
  split at h
  · simp only at h
    split at h
    · cases h
    have hstored := steady_queueProjection h
    exact ⟨hstored.keeps, hstored.owner⟩
  cases h

lemma steady_compensateNext {existing : List ReconciliationOperation} {ids : List GraphId}
    (h : compensateNext view db r job plan existing ids = .ok out) :
    Steady db out.2 := by
  induction ids with
  | nil =>
    cases h
    exact (steady_setReconciliation _ _ _ _).trans (steady_setJob _ _ _ _)
  | cons id rest ih =>
    unfold compensateNext at h
    split at h
    case h_3 => exact ih h
    case h_7 =>
      obtain ⟨d, hd, h⟩ := of_bind_ok h
      cases h
      exact steady_compensateOne hd
    all_goals
      cases h
      first
        | exact .refl db
        | exact steady_waitForOperator _ _ _

lemma steady_compensate (h : compensate view db r job plan = .ok out) : Steady db out.2 := by
  obtain ⟨⟨notify, d⟩, hd, h⟩ := of_bind_ok h
  have hdispatch := steady_compensateNext hd
  simp only at h
  split at h
  · obtain ⟨e, he, h⟩ := of_bind_ok h
    cases h
    exact hdispatch.trans (settled_markReleasing he).toSteady
  cases h
  exact hdispatch

end Routines

end VonkForge.AgentReconciliation
