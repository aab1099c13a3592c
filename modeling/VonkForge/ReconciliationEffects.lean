import VonkForge.QueueEffects
import VonkForge.ReconciliationResults

/-!
# What the result consumers do to operations and attempts

Neither the reconciliation service nor the recipe service starts an attempt.
-/

namespace VonkForge.AgentReconciliation

open AgentJobs
open Keyed (key)

variable {uncertain : Bool} {db mid db' : Database}

variable (id : Uuid)

/-- Every reconciliation stays, with the time of its creation. -/
def Keeps (db db' : Database) : Prop :=
  ∀ id r, db.reconciliations.get? id = some r →
    ∃ r', db'.reconciliations.get? id = some r' ∧ r'.createdAt = r.createdAt

lemma Keeps.refl (db : Database) : Keeps db db := fun _ r h => ⟨r, h, rfl⟩

lemma Keeps.trans (h : Keeps db mid) (h' : Keeps mid db') : Keeps db db' := by
  intro id r hr
  obtain ⟨r₁, hr₁, hc₁⟩ := h id r hr
  obtain ⟨r₂, hr₂, hc₂⟩ := h' id r₁ hr₁
  exact ⟨r₂, hr₂, hc₂.trans hc₁⟩

/-- The owner of the publication stays. -/
structure Steady (db db' : Database) : Prop where
  keeps : Keeps db db'
  owner : db'.publicationOwner = db.publicationOwner

variable {now : Time} {plan : ResolvedPlan}

lemma Steady.refl (db : Database) : Steady db db := ⟨.refl db, rfl⟩

lemma Steady.trans (h : Steady db mid) (h' : Steady mid db') : Steady db db' :=
  ⟨h.keeps.trans h'.keeps, h'.owner.trans h.owner⟩

lemma steady_of_tables (hr : db'.reconciliations = db.reconciliations)
    (ho : db'.publicationOwner = db.publicationOwner) : Steady db db' := by
  refine ⟨?_, ho⟩
  intro id r h
  rw [← hr] at h
  exact ⟨r, h, rfl⟩

lemma keeps_updateReconciliations {p : Reconciliation → Bool}
    {f : Reconciliation → Reconciliation} {hf : ∀ q, key (f q) = key q}
    (hc : ∀ q, (f q).createdAt = q.createdAt) :
    Keeps db { db with reconciliations := db.reconciliations.updateWhere p f hf } := by
  intro id q hq
  refine ⟨if p q then f q else q, ?_, ?_⟩
  · rw [Table.get?_updateWhere, hq, Option.map_some]
  split
  · exact hc q
  rfl

lemma steady_setReconciliation (phase : ReconciliationPhase) (status : ReconciliationStatus)
    (reason : Option String) : Steady db (setReconciliation db id phase status reason) :=
  ⟨keeps_updateReconciliations fun _ => rfl, rfl⟩

lemma steady_setJob (state : JobState) (reason : Option String) (now : Time) :
    Steady db (setJob db id state reason now) := steady_of_tables rfl rfl

lemma steady_updateProjection (p : ReconciliationOperation)
    (f : ReconciliationOperation → ReconciliationOperation)
    (hf : ∀ q, key (f q) = key q) : Steady db (updateProjection db p f hf) :=
  steady_of_tables rfl rfl

lemma steady_waitForOperator (jobId : Uuid) (reason : String) :
    Steady db (waitForOperator db now id jobId reason) :=
  (steady_setReconciliation _ _ _ _).trans (steady_setJob _ _ _ _)

/-- A quiet routine that leaves the publication's owner alone. -/
structure Settled (db db' : Database) : Prop extends Quiet db db', Steady db db'

lemma Settled.refl (db : Database) : Settled db db := ⟨.refl db, .refl db⟩

lemma Settled.trans (h : Settled db mid) (h' : Settled mid db') : Settled db db' :=
  ⟨h.toQuiet.trans h'.toQuiet, h.toSteady.trans h'.toSteady⟩

lemma settled_setReconciliation (phase : ReconciliationPhase) (status : ReconciliationStatus)
    (reason : Option String) : Settled db (setReconciliation db id phase status reason) :=
  ⟨quiet_setReconciliation _ _ _ _, steady_setReconciliation _ _ _ _⟩

lemma settled_setJob (state : JobState) (reason : Option String) :
    Settled db (setJob db id state reason now) :=
  ⟨quiet_setJob _ _ _, steady_setJob _ _ _ _⟩

lemma settled_updateProjection (p : ReconciliationOperation)
    (f : ReconciliationOperation → ReconciliationOperation)
    (hf : ∀ q, key (f q) = key q) : Settled db (updateProjection db p f hf) :=
  ⟨quiet_of_tables rfl rfl, steady_updateProjection _ _ _⟩

lemma settled_waitForOperator (r jobId : Uuid) (reason : String) :
    Settled db (waitForOperator db now r jobId reason) :=
  (settled_setReconciliation _ _ _ _).trans (settled_setJob _ _ _)

variable {r : Reconciliation} {jobId : Uuid} {p : ReconciliationOperation} {reason : String}
  {op : StoredOperation} {message : AgentResult} {attempt : AgentOperationAttempt} {view : View}

lemma steady_quiesceOperation (h : quiesceOperation db now p op uncertain = .ok db') :
    Steady db db' := by
  unfold quiesceOperation at h
  split at h
  · cases h
    exact steady_of_tables rfl rfl
  · split at h
    · cases h
    split at h
    · cases h
    cases h
    exact steady_of_tables rfl rfl
  cases h
  exact .refl db

lemma settled_quiescePendingOne {acc acc' : Bool × Database}
    (h : quiescePendingOne now plan acc p = .ok acc') : Settled acc.2 acc'.2 := by
  unfold quiescePendingOne at h
  split at h
  · cases h
    exact settled_updateProjection _ _ _
  split at h
  · split at h
    · cases h
    obtain ⟨node, _, d, hd, h⟩ := of_bind_ok₂ h
    cases h
    exact ⟨quiet_quiesceOperation hd, steady_quiesceOperation hd⟩
  cases h
  exact .refl _

lemma settled_quiescePending {r : Uuid} {role : ProjectionRole}
    (h : quiescePending db now r plan role = .ok (uncertain, db')) : Settled db db' :=
  @foldlM_ok_rel _ _ _ _ (fun x y => Settled x.2 y.2) (fun x => .refl x.2)
    (fun _ _ _ => Settled.trans) (fun _ _ _ => settled_quiescePendingOne) _ (false, db) _ h

lemma settled_quiesceBoth {r : Uuid} (h : quiesceBoth db now r plan = .ok db') :
    Settled db db' := by
  obtain ⟨⟨_, d⟩, hd, ⟨_, e⟩, he, h⟩ := of_bind_ok₂ h
  cases h
  exact (settled_quiescePending hd).trans (settled_quiescePending he)

lemma settled_sweepOne (acc : Bool × Database) (p : ReconciliationOperation) :
    Settled acc.2 (sweepOne now acc p).2 := by
  unfold sweepOne
  split
  · split
    · exact .refl _
    next op _ =>
    split
    · have hclose := @quiet_close acc.2 op.id _ op.currentAttempt _ _
        (quiet_parkOperation now op.id) (fun _ => by simp)
        (fun a => @closes_state a .expired (by simp)) (fun _ => rfl)
      exact ⟨hclose.trans (quiet_setProjection _ _), steady_of_tables rfl rfl⟩
    exact .refl _
  exact .refl _

lemma settled_sweepExpiredMutations {swept : Bool}
    (h : sweepExpiredMutations db now r jobId plan = .ok (swept, db')) : Settled db db' := by
  have hfold : ∀ (rows : List ReconciliationOperation) (acc : Bool × Database),
      Settled acc.2 (rows.foldl (sweepOne now) acc).2 := by
    intro rows
    induction rows with
    | nil => exact fun acc => .refl acc.2
    | cons p rows ih => exact fun acc => (settled_sweepOne acc p).trans (ih _)
  unfold sweepExpiredMutations at h
  simp only at h
  split at h
  · cases h
    exact .refl db
  obtain ⟨d, hd, h⟩ := of_bind_ok h
  cases h
  exact ((hfold _ (false, db)).trans (settled_quiesceBoth hd)).trans (settled_waitForOperator _ _ _)

lemma ofLease_eq_ok {α : Type} {x : Except NodeLeases.LeaseError α} {a : α}
    (h : ofLease x = .ok a) : x = .ok a := by
  unfold ofLease at h
  split at h
  · cases h
    rfl
  cases h

lemma leasesOnly_markReleasing (h : markReleasing db now r = .ok db') :
    LeaseHandoff.LeasesOnly db db' := by
  obtain ⟨⟨_, d⟩, hd, h⟩ := of_bind_ok h
  cases h
  exact LeaseHandoff.leasesOnly_markNode (ofLease_eq_ok hd)

lemma settled_markReleasing (h : markReleasing db now r = .ok db') : Settled db db' := by
  obtain ⟨leases, rfl⟩ := leasesOnly_markReleasing h
  exact ⟨quiet_of_tables rfl rfl, steady_of_tables rfl rfl⟩

lemma settled_quiesceForUnavailableTarget
    (h : quiesceForUnavailableTarget db now r jobId plan reason = .ok db') : Settled db db' := by
  obtain ⟨d, hd, h⟩ := of_bind_ok h
  have hwait : Settled d (waitForOperator d now r.id jobId reason) := settled_waitForOperator _ _ _
  exact ((settled_quiesceBoth hd).trans hwait).trans (settled_markReleasing h)

lemma settled_handlePrimaryFailure {failed : OperationNode}
    (h : handlePrimaryFailure db now r jobId plan failed reason = .ok db') :
    Settled db db' := by
  obtain ⟨⟨uncertain, d⟩, hd, h⟩ := of_bind_ok h
  have hq := settled_quiescePending hd
  simp only at h
  repeat' split at h
  · cases h
    exact hq.trans (settled_waitForOperator _ _ _)
  · cases h
    exact hq.trans (settled_setReconciliation _ _ _ _)
  · cases h
    exact hq.trans (settled_waitForOperator _ _ _)
  cases h
  exact (hq.trans (settled_setReconciliation _ _ _ _)).trans (settled_setJob _ _ _)

lemma settled_loseResult {r : Uuid}
    (h : loseResult db now op attempt p r jobId plan reason = .ok db') : Settled db db' := by
  obtain ⟨d, hd, h⟩ := of_bind_ok h
  cases h
  have hclose := quiet_close_state db op.id attempt.attempt now
    (unfinished_quiescedOperation (mutation op.kind)) (quiescedAttempt_ne (mutation op.kind))
  have hclosed := Settled.mk
    (hclose.trans (quiet_setProjection p (quiescedProjection (mutation op.kind))))
    (steady_of_tables rfl rfl)
  exact (hclosed.trans (settled_quiesceBoth hd)).trans (settled_waitForOperator _ _ _)

lemma settled_consumeFailure {node : OperationNode}
    (h : consumeFailure view db p r jobId plan node message = .ok db') : Settled db db' := by
  unfold consumeFailure at h
  simp only at h
  split at h
  · obtain ⟨d, hd, h⟩ := of_bind_ok h
    cases h
    exact ((settled_updateProjection p _ _).trans (settled_quiesceBoth hd)).trans
      (settled_waitForOperator _ _ _)
  obtain ⟨d, hd, h⟩ := of_bind_ok h
  have hq := (settled_updateProjection p _ _).trans (settled_handlePrimaryFailure hd)
  split at h
  · split at h
    · exact hq.trans (settled_markReleasing h)
    cases h
    exact hq
  cases h
  exact hq

lemma settled_consumeResult (h : consumeResult view db op attempt message = .ok db') :
    Settled db db' := by
  unfold consumeResult at h
  split at h
  · cases h
    exact .refl db
  split at h
  · cases h
  · cases h
  split at h
  · cases h
  obtain ⟨plan, _, node, _, h⟩ := of_bind_ok₂ h
  obtain ⟨work, _, h⟩ := of_bind_ok h
  simp only at h
  split at h
  · cases h
  split at h
  · cases h
  split at h
  · exact settled_loseResult h
  split at h
  · split at h
    · cases h
      exact settled_updateProjection _ _ _
    cases h
  exact settled_consumeFailure h

lemma quiet_queueInSession {job : Job} {ops : List NewOperation}
    (h : queueInSession db now job ops = .ok db') : Quiet db db' := by
  unfold queueInSession at h
  split at h
  · cases h
  next jobs _ =>
  have hjobs : Quiet db { db with jobs := jobs } := quiet_of_tables rfl rfl
  exact hjobs.trans (foldlM_ok_rel Quiet.refl (fun _ _ _ => Quiet.trans)
    (fun _ _ _ => quiet_enqueueInSession) h)

lemma quiet_consumeAgentResult {recipe : RecipeProjection}
    (h : consumeAgentResult recipe now db op message = .ok db') :
    Quiet db db' := by
  unfold consumeAgentResult at h
  split at h
  · cases h
    exact .refl db
  simp only at h
  split at h
  · cases h
    exact .refl db
  split at h
  · cases h
  split at h
  · cases h
  split at h
  · split at h
    · exact (quiet_setJob _ _ _).trans (quiet_queueInSession h)
    cases h
    exact quiet_setJob _ _ _
  cases h
  exact quiet_setJob _ _ _

lemma quietConsumer_resultConsumer (view : View) (recipe : RecipeProjection) :
    QuietConsumer (resultConsumer view recipe) := by
  intro db op attempt message db' h
  obtain ⟨d, hd, h⟩ := of_bind_ok h
  exact (settled_consumeResult hd).toQuiet.trans (quiet_consumeAgentResult h)

end VonkForge.AgentReconciliation
