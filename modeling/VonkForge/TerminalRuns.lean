import VonkForge.ReconciliationRuns

/-!
# Ended reconciliations

A reconciliation that failed or was cancelled stays so, as long as no tick of it finds a cancellation
that is withdrawn or processing.
-/

namespace VonkForge.AgentReconciliation

open AgentJobs Logged Transactions

variable {db : Database} {phase : ReconciliationPhase} {status : ReconciliationStatus} {id : Uuid}

instance (l : Life) : Decidable l.applies := inferInstanceAs (Decidable (_ ∨ _))

/-- The event does not apply a cancellation to the reconciliation. -/
def sparesCancellation (id : Uuid) (db : Database) (e : ReconciliationEvent) : Bool :=
  !e.ticks id || !(lifeOf db id).any (fun l => l.applies)

/-- No operation of the reconciliation is queued or running. -/
def AtRest (db : Database) (id : Uuid) : Prop :=
  ∀ k o job, db.operations.get? k = some o → db.jobs.get? o.parentJobId = some job →
    job.reconciliationId = some id → o.state.unfinished = false

def StandsAt (db : Database) (id : Uuid) (phase : ReconciliationPhase)
    (status : ReconciliationStatus) : Prop :=
  ∃ l, lifeOf db id = some l ∧ l.phase = phase ∧ l.status = status

lemma standsAt_iff :
    StandsAt db id phase status ↔
      (lifeOf db id).map (fun l => (l.phase, l.status)) = some (phase, status) := by
  simp [StandsAt]

instance (db : Database) (id : Uuid) (phase : ReconciliationPhase)
    (status : ReconciliationStatus) : Decidable (StandsAt db id phase status) :=
  decidable_of_iff _ standsAt_iff.symm

section Ended

variable {H : EvidenceDigest} {owns : Bool} {l l' : Life}

lemma Step.ended_eq (h : Step H owns l l') (hended : ended l.phase = true)
    (hc : l.applies → l'.cancellation = l.cancellation) :
    l'.phase = l.phase ∧ l'.status = l.status := by
  have hnot : ∀ {c}, l.applies → l'.cancellation = some c → c ≠ .withdrawn → c ≠ .processing →
      False := by
    intro c happlies hcan hw hp
    rw [hc happlies] at hcan
    rcases happlies with ha | ha
    · exact hw (Option.mem_unique hcan ha)
    exact hp (Option.mem_unique hcan ha)
  cases h with
  | idle | request | advance | cancelWithdraw => exact ⟨rfl, rfl⟩
  | start hphase | withdraw hphase | project hphase | dispatch hphase | acceptAll hphase
  | acceptEvidence hphase | publish hphase | renew hphase | compensate hphase
  | incomplete hphase | complete hphase =>
    rw [hphase] at hended
    cases hended
  | @accept _ role _ _ _ hphase =>
    rw [hphase, ended_expectedPhase] at hended
    cases hended
  | fence _ _ hmove =>
    cases hmove with
    | park hopen =>
      rw [hopen] at hended
      cases hended
    | compensate hphase | fail hphase =>
      rw [hphase] at hended
      cases hended
    | cancelPark ha | cancelParked ha | cancelCompensate ha | cancelDone ha =>
      exact (hnot ha rfl (by simp) (by simp)).elim

lemma Consistent.atRest (h : Consistent H db) (hl : lifeOf db id = some l)
    (hended : ended l.phase = true) : AtRest db id := by
  intro k o job ho hjob hr
  obtain ⟨g, role, p, hp, hid⟩ := h.working.projected k o job id ho hjob hr
  by_contra hun
  have hq := (h.working.state_of_unfinished hp hid ho (by simp)).mp (by simpa using hun)
  obtain ⟨r, plan, rfl, -, -, rfl⟩ := exists_row_of_life hl
  rw [(h.sound _ _ hl).queued g role p hp hq, ended_expectedPhase] at hended
  cases hended

lemma StandsAt.step {db' : Database} {e : ReconciliationEvent} (h : StandsAt db id phase status)
    (hended : ended phase = true) (hspares : sparesCancellation id db e = true)
    (ht : Transition H e db db') : StandsAt db' id phase status := by
  obtain ⟨l, hl, rfl, rfl⟩ := h
  obtain ⟨l', hl', hstep, hcan⟩ := ht.steps id l hl
  have hsame := hstep.ended_eq hended (by
    intro happlies
    refine hcan ?_ happlies
    simpa [sparesCancellation, hl, happlies] using hspares)
  exact ⟨l', hl', hsame.1, hsame.2⟩

end Ended

/-- A reconciliation that has ended stays as it is through every run whose ticks of it find no
cancellation to apply. -/
theorem ended_reconciliation_absorbing (H : List (GraphId × Digest × Digest) → Digest)
    (events later : List ReconciliationEvent) (id : Uuid) (phase : ReconciliationPhase)
    (status : ReconciliationStatus) (hstands : StandsAt (afterRun H events) id phase status)
    (hended : ended phase = true)
    (hspares : Along (reconciliationCommit H) (fun db e => sparesCancellation id db e = true)
      (afterRun H events) later) :
    StandsAt (afterRun H (events ++ later)) id phase status ∧
      AtRest (afterRun H (events ++ later)) id := by
  have hrun := @run_preserves_of_along _ _ _ _ (reconciliationCommit H)
    (fun db e => sparesCancellation id db e = true)
    (fun db => Consistent H db ∧ StandsAt db id phase status)
    (fun db e db' out hs hspare h => by
      have ht := reconciliationCommit_transition hs.1 h
      exact ⟨ht.consistent, hs.2.step hended hspare ht⟩)
    (afterRun H events) later ⟨consistent_afterRun events, hstands⟩ hspares
  unfold afterRun
  rw [run_append]
  refine ⟨hrun.2, ?_⟩
  obtain ⟨l, hl, rfl, -⟩ := hrun.2
  exact hrun.1.atRest hl hended

/-- The health of a workload is checked, and an operator asks for the cancellation before the check
fails. -/
def failedHealth (cancelled : List ReconciliationEvent) : List ReconciliationEvent :=
  dispatchedRun [{ operationId := 1, nodeId := 1, workloadId := "model-a", kind := .workloadHealth,
                   payload := { canonicalDigest := 5 } }] ++
    cancelled ++ executed 30 .failed

/-- Without a cancellation the failure stays through every tick. -/
theorem failed_health_stays :
    StandsAt (afterRun (fun _ => 0) (failedHealth [] ++ [tickFrom 20, tickFrom 20])) 7 .failed
        .failed ∧
      AtRest (afterRun (fun _ => 0) (failedHealth [] ++ [tickFrom 20, tickFrom 20])) 7 :=
  ended_reconciliation_absorbing (fun _ => 0) (failedHealth []) [tickFrom 20, tickFrom 20] 7 .failed
    .failed (by decide +kernel) rfl (by decide +kernel)

/-- A cancellation that was requested before the failure is applied after it: the failed
reconciliation becomes a cancelled one. -/
theorem failed_reconciliation_cancelled_later :
    StandsAt (afterRun (fun _ => 0) (failedHealth [.enqueueCancel 7 "stop"])) 7 .failed .failed ∧
      StandsAt (afterRun (fun _ => 0)
        (failedHealth [.enqueueCancel 7 "stop"] ++ [tickFrom 20, tickFrom 20])) 7 .cancelled
        .cancelled := by
  decide +kernel

end VonkForge.AgentReconciliation
