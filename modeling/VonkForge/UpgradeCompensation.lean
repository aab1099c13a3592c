import VonkForge.UpgradeCompletion
import Mathlib.Tactic.IntervalCases

/-!
# Compensation of failed upgrades

The compensation of a failed apply never comes to its end.  The apply fails before it stops the
services, so that the compensation starts none, and the probe of `failed` asks for the nonce of a
start.
-/

namespace VonkForge.HostUpgrade

open HostState Program

variable {o h : Host} {P : Host → Prop} {phases : List Phase} {plan : Plan} {w : World} {k n : ℕ}
  {s : PhaseStep}

/-! ### Journaled phases -/

/-- The operation has journaled the phases, and there is neither a staging receipt nor a nonce of
it. -/
structure Journaled (plan : Plan) (phases : List Phase) (h : Host) : Prop where
  journal : h.journal = some ⟨plan, phases⟩
  unstaged : Unstaged plan h.store
  nonces : ∀ id, h.nonces plan.operationId id = none

lemma journaled_loadActive : Keeps (Journaled plan phases) (loadActive w) :=
  keeps_loadActive fun _ _ hs hh => ⟨hh.journal, hh.unstaged.of_staging hs, hh.nonces⟩

lemma journaled_probe (phase : Phase) : Keeps (Journaled plan phases) (probePhase w plan phase) :=
  keeps_probePhase journaled_loadActive phase

/-- The step journals its phase, or leaves the journal as it was. -/
theorem Journaled.step (hprobe : Keeps (Journaled plan phases) s.probe)
    (hperform : Keeps (Journaled plan phases) s.perform) :
    Meets (fun _ => True) (Journaled plan phases) (runStep s)
      (fun _ => Journaled plan (phases ++ [s.phase])) (fun _ => Journaled plan phases)
      (Journaled plan phases) := by
  refine meets_runStep hperform (hprobe.mono (fun _ hh => hh) (fun _ h hh => ⟨hh, fun _ => ?_⟩)
    (fun _ _ hh => hh) fun _ hh => hh)
  refine ⟨?_, hh.unstaged, hh.nonces⟩
  rw [record_journal, hh.journal]
  rfl

lemma journaled_staging : Keeps (Journaled plan phases) (stageGeneration w plan) := by
  have hunstaged : Keeps (fun h : Host => Unstaged plan h.store) (stageGeneration w plan) := by
    refine keeps_stageGeneration (fun s id f hf hs receipt hfile => ?_)
      fun s id hs receipt hfile => ?_
    · by_cases hid : plan.generationId = id
      · subst hid
        simp only [updateStaging, setStaging, Function.update_self] at hfile
        cases htree : s.staging plan.generationId with
        | none => simp [htree] at hfile
        | some tree =>
          rcases hf tree with hsame | hnone
          · exact hs receipt (by simpa [htree, hsame] using hfile)
          simp [htree, hnone] at hfile
      exact hs receipt (by simpa [updateStaging, setStaging, Function.update_of_ne hid] using hfile)
    by_cases hid : plan.generationId = id
    · subst hid
      simp [setStaging] at hfile
    exact hs receipt (by simpa [setStaging, Function.update_of_ne hid] using hfile)
  have hrest : Keeps (fun h : Host => h.journal = some ⟨plan, phases⟩ ∧
      ∀ id, h.nonces plan.operationId id = none) (stageGeneration w plan) :=
    (keeps_check _).bind fun _ =>
      Keeps.zoom (R := fun _ _ => True) (fun _ _ => trivial) fun _ _ hh _ => hh
  exact (hunstaged.and hrest).mono (fun _ hh => ⟨hh.unstaged, hh.journal, hh.nonces⟩)
    (fun _ _ hh => ⟨hh.2.1, hh.1, hh.2.2⟩) (fun _ _ hh => ⟨hh.2.1, hh.1, hh.2.2⟩)
    fun _ hh => ⟨hh.2.1, hh.1, hh.2.2⟩

lemma journaled_cleanCandidate : Keeps (Journaled plan phases) (cleanCandidate plan) := by
  have hcontainer : Keeps (Journaled plan phases)
      (effect (setContainer plan.operationId none) (HostError.failed "docker rm")) :=
    keeps_effect _ fun _ hh => ⟨hh.journal, hh.unstaged, hh.nonces⟩
  refine hcontainer.attempt.bind fun _ => ?_
  exact keeps_effectUnless _ fun _ hh => ⟨hh.journal, hh.unstaged, hh.nonces⟩

/-- Without a nonce of the operation the probe of `failed` finds nothing. -/
theorem misses_failed : Misses (Journaled plan phases) (probePhase w plan .failed) := by
  have hprobe : Misses (Journaled plan phases) (probe w plan .failed) := by
    refine Meets.bind (Q := fun _ => Journaled plan phases) journaled_loadActive fun active => ?_
    cases active with
    | none => exact meets_pure fun h hh => ⟨hh, by simp⟩
    | some a =>
      simp only
      split
      · exact meets_pure fun h hh => ⟨hh, by simp⟩
      refine Meets.bind (Q := fun u h => u = h ∧ Journaled plan phases h)
        (meets_get fun h hh => ⟨rfl, hh⟩) fun u => ?_
      cases hnonce : u.nonces plan.operationId a.generationId with
      | none => exact meets_pure fun h hh => ⟨hh.2, by simp⟩
      | some nonce =>
        intro h fs _ hh
        obtain ⟨rfl, hh⟩ := hh
        rw [hh.nonces] at hnonce
        cases hnonce
  refine hprobe.recover (fun e d h hh hd => ⟨hh, ?_⟩) fun _ _ _ hh _ => hh
  rintro rfl
  cases e <;> cases hd

/-! ### What an operation can journal -/

/-- At most the bundle is acquired, and at most the candidate is cleaned. -/
def Stuck (plan : Plan) (h : Host) : Prop :=
  ∃ k n, k ≤ 2 ∧ n ≤ 2 ∧
    Journaled plan (applyPhases.take k ++ nondestructiveCompensationPhases.take n) h

/-- From the phases the program never returns, and it leaves the operation stuck. -/
abbrev Halts (plan : Plan) (phases : List Phase) {α : Type} (x : Program Host HostError α) : Prop :=
  Meets (fun _ => True) (Journaled plan phases) x (fun _ _ => False) (fun _ => Stuck plan) (Stuck plan)

section Halts

variable {l : List PhaseStep} (hstuck : ∀ h, Journaled plan phases h → Stuck plan h)

include hstuck

lemma Halts.cons (hprobe : Keeps (Journaled plan phases) s.probe)
    (hperform : Keeps (Journaled plan phases) s.perform)
    (hrest : Halts plan (phases ++ [s.phase]) (l.forM runStep)) :
    Halts plan phases ((s :: l).forM runStep) := by
  refine Meets.bind ?_ fun _ => hrest
  exact (Journaled.step hprobe hperform).mono (fun _ hh => hh) (fun _ _ hh => hh)
    (fun _ h hh => hstuck h hh) fun h hh => hstuck h hh

lemma Halts.last (hprobe : Misses (Journaled plan phases) s.probe)
    (hperform : Keeps (Journaled plan phases) s.perform) :
    Halts plan phases ((s :: l).forM runStep) := by
  have hkeeps : Keeps (Journaled plan phases) s.probe :=
    hprobe.mono (fun _ hh => hh) (fun _ _ hh => hh.1) (fun _ _ hh => hh) fun _ hh => hh
  have hhalts := (Journaled.step hkeeps hperform).halts (blocked_runStep hprobe (.inl hperform))
  refine Meets.bind (hhalts.mono (fun _ hh => hh) (fun _ _ hh => hh) (fun _ h hh => hstuck h hh)
    fun h hh => hstuck h hh) fun _ => ?_
  exact fun _ _ _ hfalse => hfalse.elim

end Halts

lemma halts_apply (hkind : plan.operationKind = .apply) (hk : k ≤ 2) :
    Halts plan (applyPhases.take k) (((phaseProgram w plan).drop k).forM runStep) := by
  have hstuck : ∀ k ≤ 2, ∀ h, Journaled plan (applyPhases.take k) h → Stuck plan h :=
    fun k hk h hh => ⟨k, 0, hk, by decide, by simpa using hh⟩
  have hprogram : phaseProgram w plan =
      authorizationStep w plan :: applyPhases.tail.map (boundaryStep w plan) := by
    unfold phaseProgram
    rw [hkind]
  have hmisses : Misses (Journaled plan (applyPhases.take 2))
      (probePhase w plan .generationStaged) :=
    meets_of_done fun h fs hh => ⟨_, probePhase_staged w plan h fs, hh, hh.unstaged.not_exact⟩
  have h2 : Halts plan (applyPhases.take 2) (((phaseProgram w plan).drop 2).forM runStep) := by
    rw [hprogram]
    exact Halts.last (hstuck 2 (by decide)) hmisses journaled_staging.mapError
  have h1 : Halts plan (applyPhases.take 1) (((phaseProgram w plan).drop 1).forM runStep) := by
    rw [hprogram] at h2 ⊢
    refine Halts.cons (hstuck 1 (by decide)) (journaled_probe _) (Keeps.mapError ?_) h2
    exact keeps_acquireBundle fun _ _ _ hh => ⟨hh.journal, hh.unstaged, hh.nonces⟩
  have h0 : Halts plan (applyPhases.take 0) (((phaseProgram w plan).drop 0).forM runStep) := by
    rw [hprogram] at h1 ⊢
    exact Halts.cons (hstuck 0 (by decide)) (keeps_pure _) (keeps_pure _) h1
  interval_cases k
  · exact h0
  · exact h1
  exact h2

lemma halts_compensation (hk : k ≤ 2) (hn : n ≤ 2) :
    Halts plan (applyPhases.take k ++ nondestructiveCompensationPhases.take n)
      (((compensationSteps w plan nondestructiveCompensationPhases).drop n).forM runStep) := by
  have hstuck : ∀ n ≤ 2, ∀ h, Journaled plan
      (applyPhases.take k ++ nondestructiveCompensationPhases.take n) h → Stuck plan h :=
    fun n hn h hh => ⟨k, n, hk, hn, hh⟩
  have hnext : ∀ phase n, nondestructiveCompensationPhases.take n ++ [phase] =
      nondestructiveCompensationPhases.take (n + 1) →
      applyPhases.take k ++ nondestructiveCompensationPhases.take n ++ [phase] =
        applyPhases.take k ++ nondestructiveCompensationPhases.take (n + 1) :=
    fun phase n hn => by rw [List.append_assoc, hn]
  have h2 := Halts.last (l := []) (hstuck 2 (by decide))
    (s := boundaryStep w plan .failed) misses_failed (keeps_pure ())
  have h1 := Halts.cons (hstuck 1 (by decide)) (s := boundaryStep w plan .candidateCleaned)
    (l := [boundaryStep w plan .failed]) (journaled_probe _)
    journaled_cleanCandidate.mapError (hnext .candidateCleaned 1 rfl ▸ h2)
  have h0 := Halts.cons (hstuck 0 (by decide)) (s := recordedStep .compensationStarted)
    (l := [boundaryStep w plan .candidateCleaned, boundaryStep w plan .failed])
    (keeps_pure _) (keeps_pure _) (hnext .compensationStarted 0 rfl ▸ h1)
  interval_cases n
  · exact h0
  · exact h1
  exact h2

/-! ### Calls -/

lemma phaseProgram_phases (hkind : plan.operationKind = .apply) :
    (phaseProgram w plan).map (·.phase) = applyPhases := by
  unfold phaseProgram
  rw [hkind]
  rfl

/-- An attempt of the apply leaves the operation stuck. -/
theorem stuck_dispatch (hkind : plan.operationKind = .apply) :
    Keeps (Stuck plan) (dispatch (phaseProgram w plan)) := by
  refine keeps_iff.mpr fun h fs hh => ?_
  obtain ⟨k, n, hk, hn, hjournaled⟩ := hh
  unfold dispatch
  rw [run_get_bind, hjournaled.journal]
  simp only [phaseProgram_phases hkind]
  split
  · exact ⟨k, n, hk, hn, hjournaled⟩
  next hordered =>
  -- a compensation that was begun is not in the order of the phases
  have hn0 : n = 0 := by
    by_contra hpos
    refine hordered ?_
    interval_cases k <;> interval_cases n <;> first | exact absurd rfl hpos | decide
  subst hn0
  have hlength : (applyPhases.take k ++ nondestructiveCompensationPhases.take 0).length = k := by
    interval_cases k <;> rfl
  rw [hlength]
  have hrechecks : Keeps (Journaled plan (applyPhases.take k))
      (((phaseProgram w plan).take k).forM recheckStep) := by
    refine Keeps.forM fun s hs => keeps_recheckStep ?_
    have hmem := List.mem_of_mem_take hs
    unfold phaseProgram at hmem
    rw [hkind] at hmem
    rcases List.mem_cons.mp hmem with rfl | hmem
    · exact keeps_pure _
    obtain ⟨phase, -, rfl⟩ := List.mem_map.mp hmem
    exact journaled_probe phase
  have hjournaled' : Journaled plan (applyPhases.take k) h := by simpa using hjournaled
  have hstuck : ∀ h, Journaled plan (applyPhases.take k) h → Stuck plan h :=
    fun h hh => ⟨k, 0, hk, by decide, by simpa using hh⟩
  refine Meets.state (I := Stuck plan) (Meets.bind (hrechecks.mono (fun _ hh => hh)
    (fun _ _ hh => hh) (fun _ h hh => hstuck h hh) fun h hh => hstuck h hh) fun _ =>
      halts_apply hkind hk) (fun _ _ hfalse => hfalse.elim) (fun _ _ hh => hh) (fun _ hh => hh)
    (fun _ _ => trivial) hjournaled'

lemma Journaled.pending (hk : k ≤ 2) (hn : n ≤ 2)
    (hh : Journaled plan (applyPhases.take k ++ nondestructiveCompensationPhases.take n) h) :
    pendingOperation h =
      some ⟨plan, applyPhases.take k ++ nondestructiveCompensationPhases.take n⟩ := by
  unfold pendingOperation
  rw [hh.journal]
  interval_cases k <;> interval_cases n <;> rfl

lemma Stuck.pending (hh : Stuck plan h) : pendingOperation h ≠ none := by
  obtain ⟨k, n, hk, hn, hjournaled⟩ := hh
  rw [hjournaled.pending hk hn]
  simp

lemma compensationProgram_nondestructive (hk : k ≤ 2) (hn : n ≤ 2) :
    compensationProgram w plan
        ⟨plan, applyPhases.take k ++ nondestructiveCompensationPhases.take n⟩ =
      .ok ((applyPhases.take k).map recordedStep ++
        compensationSteps w plan nondestructiveCompensationPhases) := by
  interval_cases k <;> interval_cases n <;> rfl

lemma dispatch_compensation {fs : List Fate} (hk : k ≤ 2) (hn : n ≤ 2)
    (hjournal : h.journal =
      some ⟨plan, applyPhases.take k ++ nondestructiveCompensationPhases.take n⟩) :
    (dispatch ((applyPhases.take k).map recordedStep ++
        compensationSteps w plan nondestructiveCompensationPhases)).run h fs =
      (((compensationSteps w plan nondestructiveCompensationPhases).drop n).forM runStep).run
        h fs := by
  unfold dispatch
  rw [run_get_bind, hjournal]
  interval_cases k <;> interval_cases n <;> rfl

/-- A compensation leaves the operation stuck. -/
theorem stuck_runCompensation : Keeps (Stuck plan) (runCompensation w plan) := by
  refine keeps_iff.mpr fun h fs hh => ?_
  obtain ⟨k, n, hk, hn, hjournaled⟩ := hh
  have hcheck : (check fun _ : Host => compensationProgram w plan
      ⟨plan, applyPhases.take k ++ nondestructiveCompensationPhases.take n⟩).run h fs =
        ⟨.done ((applyPhases.take k).map recordedStep ++
          compensationSteps w plan nondestructiveCompensationPhases), h, fs⟩ :=
    run_check_of_ok (compensationProgram_nondestructive hk hn)
  unfold runCompensation
  rw [run_get_bind, hjournaled.pending hk hn]
  rw [run_bind_done hcheck, run_bind, dispatch_compensation hk hn hjournaled.journal, ← run_bind]
  refine Meets.state (I := Stuck plan) (Meets.bind (halts_compensation hk hn) fun _ => ?_)
    (fun _ _ hfalse => hfalse) (fun _ _ hh => hh) (fun _ hh => hh) (fun _ _ => trivial) hjournaled
  exact fun _ _ _ hfalse => hfalse.elim

lemma stuck_recover (hkind : plan.operationKind = .apply) :
    Keeps (Stuck plan) (recoverOperation w) := by
  refine keeps_iff.mpr fun h fs hh => ?_
  obtain ⟨k, n, hk, hn, hjournaled⟩ := hh
  have hstuck : Stuck plan h := ⟨k, n, hk, hn, hjournaled⟩
  unfold recoverOperation
  rw [run_get_bind, hjournaled.pending hk hn]
  simp only
  split
  · exact stuck_runCompensation.run hstuck fs
  exact (keeps_runOperation (stuck_dispatch hkind) stuck_runCompensation
    fun _ => keeps_pure _).run hstuck fs

/-- `recover` is called once for each list of fates. -/
def recoveries (w : World) (calls : List (List Fate)) (h : Host) : Host :=
  calls.foldl (fun h fs => ((recoverOperation w).run h fs).state) h

lemma stuck_recoveries (hkind : plan.operationKind = .apply) (calls : List (List Fate))
    (hh : Stuck plan h) : Stuck plan (recoveries w calls h) := by
  induction calls generalizing h with
  | nil => exact hh
  | cons fs calls ih => exact ih ((stuck_recover hkind).run hh fs)

/-- The compensation has come to its end, on the predecessor. -/
structure Compensated (p : SelectedGeneration) (h : Host) : Prop where
  finished : pendingOperation h = none
  failed : ∃ op, h.journal = some op ∧ op.phases.getLast? = some .failed
  selected : ∃ a, h.store.active = some a ∧ a.generation = p.generation
  services : ∃ nonce, h.services = some ⟨p.generation, nonce⟩
  database : h.database = p.generation.databaseRevision

/-- However an apply fails and however often it is recovered, its compensation does not come to its
end. -/
theorem compensation_never_terminates (w : World) (plan : Plan) (p : SelectedGeneration) (o : Host)
    (hkind : plan.operationKind = .apply) (hnew : NewOperation plan o) (fs : List Fate)
    (calls : List (List Fate)) :
    ¬Compensated p (recoveries w calls ((runOperation w plan raise).run (started plan o) fs).state) := by
  have hstarted : Stuck plan (started plan o) :=
    ⟨0, 0, by decide, by decide, rfl, hnew.unstaged, hnew.nonces⟩
  have hrun : Keeps (Stuck plan) (runOperation w plan raise) :=
    keeps_runOperation (stuck_dispatch hkind) stuck_runCompensation fun e => keeps_raise e
  intro hcompensated
  exact (stuck_recoveries hkind calls (hrun.run hstarted fs)).pending hcompensated.finished

lemma newOperation_over : NewOperation overPlan predecessorHost := by
  refine ⟨fun _ hnone => ?_, ⟨fun a ha => ?_, fun _ hnone => ?_⟩, fun _ => rfl⟩
  · cases hnone
  · obtain rfl := Option.some.inj ha
    decide
  cases hnone

/-- A failed apply over a predecessor, recovered twice. -/
theorem over_predecessor_not_compensated : ¬Compensated ⟨firstSelection, 1⟩ (recoveries plainWorld
    [[], []] ((runOperation plainWorld overPlan raise).run (started overPlan predecessorHost) []).state) :=
  compensation_never_terminates plainWorld overPlan ⟨firstSelection, 1⟩ predecessorHost rfl
    newOperation_over [] [[], []]

/-- An apply over a predecessor: the staging fails, the compensation does not end, and neither does
its recovery, which leaves the journal as it is. -/
theorem compensation_stalls :
    let applied := ((apply plainWorld overPlan).run predecessorHost []).state
    ((apply plainWorld overPlan).run predecessorHost []).outcome =
      .raised (.recoveryRequired "failed did not establish an exact effect") ∧
    (pendingOperation applied).isSome = true ∧
    ((recoverOperation plainWorld).run applied []).outcome =
      .raised (.recoveryRequired "failed did not establish an exact effect") ∧
    ((recoverOperation plainWorld).run applied []).state.journal = applied.journal ∧
    ((apply plainWorld (firstPlan "op-3" 9)).run applied []).outcome =
      .raised (.recoveryRequired "a pending host operation must be recovered before apply") := by
  decide +kernel

end VonkForge.HostUpgrade
