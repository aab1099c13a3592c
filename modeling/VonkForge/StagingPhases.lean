import VonkForge.UpgradeInvariants
import VonkForge.SelectionRuns

/-!
# Staging again

No history of applies and recoveries stages a generation: on a host without a staged tree the
phase `generation-staged` never ends, whatever ran before.
-/

namespace VonkForge.HostUpgrade

open HostState Program

variable {h : Host} {e : HostError} {plan : Plan} {s : Store} {w : World}

/-! ### The phase -/

/-- No staging receipt of the plan is on the host. -/
def Unstaged (plan : Plan) (s : Store) : Prop :=
  ∀ receipt, (s.staging plan.generationId).bind (·.staging) = some (.whole receipt) →
    receipt.planDigest ≠ plan.planDigest

lemma Unstaged.of_staging {t : Store} (hs : Unstaged plan s) (ht : t.staging = s.staging) :
    Unstaged plan t := by
  intro receipt hfile
  rw [ht] at hfile
  exact hs receipt hfile

def stagedDisposition (plan : Plan) (s : Store) : Disposition :=
  match probeStaged plan s with
  | .ok d => d
  | .error _ => .conflict

lemma probeStaged_error (he : probeStaged plan s = .error e) : ∃ m, e = .conflict m := by
  unfold probeStaged at he
  split at he
  · cases he
  · exact ⟨_, (Except.error.inj he).symm⟩
  split at he
  · cases he
  split at he
  · split at he <;> cases he
  exact ⟨_, (Except.error.inj he).symm⟩

lemma probePhase_staged (w : World) (plan : Plan) (h : Host) (fs : List Fate) :
    (probePhase w plan .generationStaged).run h fs =
      ⟨.done (stagedDisposition plan h.store), h, fs⟩ := by
  unfold probePhase stagedDisposition
  cases hp : probeStaged plan h.store with
  | ok => exact run_recover_of_done (run_check_of_ok hp)
  | error =>
    obtain ⟨m, rfl⟩ := probeStaged_error hp
    exact run_recover_of_raised (run_check_of_error hp) rfl

lemma Unstaged.not_exact (hs : Unstaged plan s) : stagedDisposition plan s ≠ .exact := by
  unfold stagedDisposition probeStaged
  cases hfile : (s.staging plan.generationId).bind (·.staging) with
  | none => simp
  | some file =>
    cases file with
    | part => simp
    | whole receipt =>
      -- the receipt of another plan is a conflict
      have hother : receipt ≠ ⟨plan.generation.deploymentBundleDigest, plan.generationId,
          plan.planDigest, receipt.renderedComposeSha256⟩ := by
        intro heq
        exact hs receipt hfile (congrArg StagingReceipt.planDigest heq)
      simp [hother]

/-- The phase never ends on a host without a staging receipt of the plan. -/
theorem blocked_staged :
    Blocked (fun h => Unstaged plan h.store) (runStep (boundaryStep w plan .generationStaged)) :=
  blocked_runStep
    (meets_of_done fun h fs hh => ⟨_, probePhase_staged w plan h fs, hh, hh.not_exact⟩)
    (.inr (blocked_stageGeneration.mono fun _ _ => trivial).mapError)

/-! ### Hosts without a staged tree -/

/-- No generation is staged. -/
def Bare (s : Store) : Prop := ∀ id, s.staging id = none

abbrev HostBare (h : Host) : Prop := Bare h.store

lemma Bare.unstaged (hs : Bare s) (plan : Plan) : Unstaged plan s := by
  intro receipt hfile
  rw [hs] at hfile
  cases hfile

lemma Bare.updateStaging (hs : Bare s) (id : String) (f : Tree → Tree) :
    Bare (updateStaging id f s) := by
  intro other
  by_cases hid : other = id
  · subst hid
    simp [HostState.updateStaging, setStaging, hs other]
  simp [HostState.updateStaging, setStaging, Function.update_of_ne hid, hs other]

lemma Bare.dropStaging (hs : Bare s) (id : String) : Bare (setStaging id none s) := by
  intro other
  by_cases hid : other = id
  · subst hid
    simp [setStaging]
  simp [setStaging, Function.update_of_ne hid, hs other]

lemma bare_loadActive : Keeps HostBare (loadActive w) :=
  keeps_loadActive fun h s hs hh id => by rw [hs]; exact hh id

lemma bare_commitGeneration (receipt : GenerationReceipt) : Keeps Bare (commitGeneration receipt) := by
  refine keeps_get.bind fun t => ?_
  cases t.staging receipt.generationId with
  | none => exact keeps_raise _
  | some =>
    refine Keeps.ite_raise fun _ => Keeps.ite_raise fun _ => ?_
    refine (keeps_effect _ fun s hs => hs.updateStaging _ _).bind fun _ => ?_
    refine (keeps_effect _ fun s hs => hs.updateStaging _ _).bind fun _ => ?_
    exact Keeps.ite_raise fun _ => keeps_effect _ fun s hs => hs.dropStaging _

section Performing

lemma bare_migrate : Keeps HostBare (migrate plan) := by
  have hmigration : ∀ file, Keeps HostBare
      (effect (setMigration plan file) (HostError.failed "migration receipt")) :=
    fun file => keeps_effect _ fun h hh => hh.updateStaging _ _
  refine (keeps_check _).bind fun _ => Keeps.bind (keeps_effect _ fun _ hh => hh) fun _ => ?_
  refine keeps_get.bind fun h => Keeps.ite_raise fun _ => ?_
  exact (hmigration _).bind fun _ => hmigration _

lemma bare_stopAndMigrate : Keeps HostBare (stopAndMigrate w plan) := by
  have hfirst : Keeps HostBare (do
      check (requireStaged plan)
      command (.failed "docker compose up postgres")
      migrate plan) :=
    (keeps_check _).bind fun _ => Keeps.bind (keeps_effect _ fun _ hh => hh) fun _ => bare_migrate
  refine bare_loadActive.bind fun active => ?_
  cases active with
  | none =>
    refine keeps_get.bind fun h => ?_
    cases (h.store.staging plan.generationId).bind (·.migration) with
    | none => exact hfirst
    | some file => cases file with
      | part => exact keeps_raise _
      | whole => exact Keeps.ite_pure fun _ => hfirst
  | some =>
    refine (keeps_check _).bind fun _ => Keeps.bind (keeps_effect _ fun _ hh => hh) fun _ => ?_
    refine Keeps.bind (keeps_effect _ fun _ hh => hh) fun _ => ?_
    refine (keeps_databaseRevision bare_loadActive).bind fun _ => ?_
    exact Keeps.ite_pure fun _ => Keeps.ite_raise fun _ => bare_migrate

lemma bare_startCandidate : Keeps HostBare (startCandidate plan) := by
  refine Keeps.bind ?_ fun _ => ?_
  · refine keeps_get.bind fun h => ?_
    cases h.candidates plan.operationId with
    | none => exact keeps_effect _ fun _ hh => hh
    | some => exact Keeps.ite_raise fun _ => keeps_pure _
  refine Keeps.bind (Keeps.attempt (keeps_effect _ fun _ hh => hh)) fun _ => ?_
  refine (keeps_check _).bind fun _ => ?_
  refine keeps_get.bind fun h => Keeps.ite_raise fun _ => ?_
  refine Keeps.bind (keeps_effect _ fun _ hh => hh) fun _ => ?_
  exact Keeps.bind (keeps_effect _ fun _ hh => hh) fun _ => keeps_check _

lemma bare_runtimeNonce (operation generation : String) :
    Keeps HostBare (selectedRuntimeNonce w operation generation) := by
  refine keeps_get.bind fun h => ?_
  cases h.nonces operation generation with
  | some => exact keeps_pure _
  | none => exact Keeps.bind (keeps_effect _ fun _ hh => hh) fun _ => keeps_pure _

lemma bare_startServices (id : Option String) : Keeps HostBare (startServices w plan id) := by
  cases id with
  | none => exact keeps_raise _
  | some id =>
    refine (keeps_selectedForGeneration bare_loadActive id).bind fun _ => ?_
    refine (bare_runtimeNonce _ _).bind fun _ => (keeps_check _).bind fun _ => ?_
    exact keeps_effect _ fun _ hh => hh

lemma bare_selectGeneration (id : Option String) : Keeps HostBare (selectGeneration w plan id) := by
  cases id with
  | none => exact keeps_raise _
  | some id =>
    refine (keeps_check _).bind fun _ => bare_loadActive.bind fun _ => ?_
    refine Keeps.bind (keeps_onStore ?_) fun _ => keeps_pure _
    exact keeps_select (fun _ _ hs => hs) (fun _ _ hs => hs) (fun _ _ hs => hs) (fun _ hs => hs) _

lemma bare_stopServices : Keeps HostBare (stopServices w) := by
  refine bare_loadActive.bind fun active => ?_
  cases active with
  | none => exact keeps_pure _
  | some => exact (keeps_check _).bind fun _ => keeps_effect _ fun _ hh => hh

lemma bare_awaitWorker : Keeps HostBare (awaitWorker w plan) := by
  refine bare_loadActive.bind fun active => ?_
  cases active with
  | none => exact keeps_raise _
  | some =>
    refine (bare_runtimeNonce _ _).bind fun _ => (keeps_check _).bind fun _ => ?_
    refine keeps_get.bind fun h => Keeps.ite_raise fun _ => ?_
    exact Keeps.bind (keeps_effect _ fun _ hh => hh) fun _ => keeps_check _

lemma bare_cleanCandidate : Keeps HostBare (cleanCandidate plan) := by
  refine Keeps.bind (Keeps.attempt (keeps_effect _ fun _ hh => hh)) fun _ => ?_
  exact keeps_effectUnless _ fun _ hh => hh

lemma bare_restoreBackup : Keeps HostBare (restoreBackup w plan) := by
  unfold restoreBackup
  cases plan.previous with
  | none => exact keeps_raise _
  | some =>
    refine keeps_get.bind fun h => ?_
    cases h.backups plan.operationId with
    | none => exact keeps_raise _
    | some =>
      refine (keeps_selectedForGeneration bare_loadActive _).bind fun _ => ?_
      refine (keeps_check _).bind fun _ => Keeps.ite_raise fun _ => ?_
      refine Keeps.bind (keeps_effect _ fun _ hh => hh) fun _ => ?_
      exact Keeps.ite_raise fun _ => keeps_effect _ fun _ hh => hh

lemma bare_perform (phase : Phase) : Keeps HostBare (perform w plan phase) := by
  cases phase with
  | bundleImagesAcquired => exact keeps_acquireBundle fun _ _ _ hh => hh
  | generationStaged =>
    exact keeps_stageGeneration (fun _ id f _ hs => hs.updateStaging id f)
      fun _ id hs => hs.dropStaging id
  | backupCompleted =>
    refine bare_loadActive.bind fun active => ?_
    cases active with
    | none => cases plan.previous with
      | none => exact keeps_pure _
      | some => exact keeps_raise _
    | some =>
      refine Keeps.ite_raise fun _ => ?_
      exact (keeps_check _).bind fun _ => keeps_effect _ fun _ hh => hh
  | servicesStoppedDatabaseMigrated => exact bare_stopAndMigrate
  | candidateReady => exact bare_startCandidate
  | generationCommitted => exact keeps_onStore (bare_commitGeneration _)
  | generationSelected => exact bare_selectGeneration (some plan.generationId)
  | predecessorSelected => exact bare_selectGeneration plan.previousGeneration
  | backupRestored => exact bare_restoreBackup
  | servicesStarted => exact bare_startServices (some plan.generationId)
  | predecessorServicesStarted => exact bare_startServices plan.previousGeneration
  | servicesStopped | compensationServicesStopped => exact bare_stopServices
  | candidateCleaned | completed => exact bare_cleanCandidate
  | workerReady | predecessorWorkerReady => exact bare_awaitWorker
  | predecessorVerified | rolledBack | failed => exact keeps_pure _
  | authorized | compensationStarted => exact keeps_raise _

end Performing

/-! ### Histories -/

lemma bare_boundary (phase : Phase) :
    Keeps HostBare (probePhase w plan phase) ∧ Keeps HostBare (performPhase w plan phase) :=
  ⟨keeps_probePhase bare_loadActive phase, (bare_perform phase).mapError⟩

lemma bare_requireRollbackPredecessor : Keeps HostBare (requireRollbackPredecessor w plan) := by
  refine bare_loadActive.bind fun active => ?_
  cases active with
  | none => exact keeps_raise _
  | some =>
    refine Keeps.ite_raise fun _ => (keeps_check _).bind fun _ => ?_
    exact Keeps.ite_pure fun _ => keeps_raise _

lemma bare_phaseProgram {step : PhaseStep} (hstep : step ∈ phaseProgram w plan) :
    Keeps HostBare step.probe ∧ Keeps HostBare step.perform := by
  unfold phaseProgram at hstep
  cases hkind : plan.operationKind with
  | apply =>
    rw [hkind] at hstep
    rcases List.mem_cons.mp hstep with rfl | hstep
    · exact ⟨keeps_pure _, keeps_pure _⟩
    obtain ⟨phase, -, rfl⟩ := List.mem_map.mp hstep
    exact bare_boundary phase
  | rollback =>
    rw [hkind] at hstep
    rcases List.mem_cons.mp hstep with rfl | hstep
    · exact ⟨keeps_pure _, keeps_pure _⟩
    rcases List.mem_cons.mp hstep with rfl | hstep
    · have hprobe : Keeps HostBare
          (requireRollbackPredecessor w plan >>= fun _ => pure Disposition.exact) :=
        bare_requireRollbackPredecessor.bind fun _ => keeps_pure _
      rw [rollbackStep_probe]
      exact ⟨hprobe.recover, keeps_pure _⟩
    obtain ⟨phase, -, rfl⟩ := List.mem_map.mp hstep
    exact bare_boundary phase

lemma bare_runCompensation : Keeps HostBare (runCompensation w plan) :=
  keeps_runCompensation (fun _ _ hh => hh) bare_boundary

lemma bare_runOperation {compensated : HostError → Program Host HostError Unit}
    (hcompensated : ∀ e, Keeps HostBare (compensated e)) :
    Keeps HostBare (runOperation w plan compensated) :=
  keeps_runOperation (keeps_dispatch (fun _ _ hh => hh) fun _ hs => bare_phaseProgram hs)
    bare_runCompensation hcompensated

/-- A call of the host. -/
inductive HostCall
  | apply (plan : Plan)
  | recover

def HostCall.program (w : World) : HostCall → Program Host HostError Unit
  | .apply plan => HostUpgrade.apply w plan
  | .recover => recoverOperation w

/-- The host after calls, each with the fates of its effects. -/
def afterCalls (w : World) (history : List (HostCall × List Fate)) (h : Host) : Host :=
  history.foldl (fun h call => ((call.1.program w).run h call.2).state) h

lemma bare_call (call : HostCall) : Keeps HostBare (call.program w) := by
  cases call with
  | apply plan =>
    have hsnapshot : Keeps HostBare (requireNewPlanSnapshot w plan) := by
      refine Keeps.ite_raise fun _ => (keeps_databaseRevision bare_loadActive).bind fun _ => ?_
      refine (keeps_runningControlIdentities bare_loadActive).bind fun _ => ?_
      refine bare_loadActive.bind fun _ => keeps_get.bind fun _ => ?_
      exact Keeps.ite_pure fun _ => keeps_raise _
    refine keeps_get.bind fun h => Keeps.ite_raise fun _ => hsnapshot.bind fun _ => ?_
    have hrun : Keeps HostBare (do
        Program.modify fun h => { h with journal := some ⟨plan, []⟩ }
        runOperation w plan raise) := by
      refine Keeps.bind (meets_modify fun _ hh => hh) fun _ => ?_
      exact bare_runOperation fun e => keeps_raise e
    refine Keeps.ite (fun _ => ?_) fun _ => hrun
    exact bare_requireRollbackPredecessor.bind fun _ => hrun
  | recover =>
    refine keeps_get.bind fun h => ?_
    cases pendingOperation h with
    | none => exact keeps_raise _
    | some op =>
      exact Keeps.ite (fun _ => bare_runCompensation) fun _ =>
        bare_runOperation fun _ => keeps_pure _

lemma bare_afterCalls (history : List (HostCall × List Fate)) (hh : Bare h.store) :
    Bare (afterCalls w history h).store := by
  induction history generalizing h with
  | nil => exact hh
  | cons call history ih => exact ih ((bare_call call.1).run hh call.2)

/-- The phase `generation-staged` ends, with its effect. -/
def StagedExactly (w : World) (plan : Plan) (h : Host) : Prop :=
  ∃ t, (runStep (boundaryStep w plan .generationStaged)).run h [] = ⟨.done (), t, []⟩ ∧
    probeStaged plan t.store = .ok .exact

/-- After every history of applies and recoveries, killed and failing ones among them, no plan
stages its generation. -/
theorem generation_never_staged (w : World) (plan : Plan) (history : List (HostCall × List Fate))
    (h : Host) (hbare : Bare h.store) : ¬StagedExactly w plan (afterCalls w history h) := by
  rintro ⟨t, hrun, -⟩
  have hunstaged := (bare_afterCalls (w := w) history hbare).unstaged plan
  exact blocked_staged (w := w) _ [] () hunstaged (congrArg Ending.outcome hrun)

def plainWorld : World :=
  { sizes := smallDocuments, bundleImages := fun _ => ["postgres"], bundleBytes := fun _ => 1
    rendered := fun _ => 5, authorized := fun _ => true, authorizesRollback := fun _ _ => true
    nonce := fun _ _ => 11 }

def firstPlan (operation : String) (digest : Digest) : Plan :=
  { operationId := operation, planDigest := digest, operationKind := .apply, startNonce := 3
    generation := firstGeneration, currentDatabaseRevision := "uninitialized", previous := none
    siteConfigurationDigest := 0, running := none, requiredBytes := 0 }

/-- An apply that is killed while it stages, a recovery of it, and another plan for the release. -/
theorem killed_apply_not_staged :
    ¬StagedExactly plainWorld (firstPlan "op-2" 8)
      (afterCalls plainWorld [(.apply (firstPlan "op-1" 7), killAfter 6), (.recover, [])] {}) :=
  generation_never_staged plainWorld (firstPlan "op-2" 8) _ {} fun _ => rfl

def phaseOutcome (plan : Plan) (phase : Phase) (h : Host) : Outcome HostError Unit :=
  ((runStep (boundaryStep plainWorld plan phase)).run h []).outcome

/-- A first install, its recovery and another plan for the release: every command succeeds, and the
staging fails each time. -/
theorem staging_fails_again :
    let applied := afterCalls plainWorld [(.apply (firstPlan "op-1" 7), [])] {}
    let recovered := afterCalls plainWorld [(.apply (firstPlan "op-1" 7), []), (.recover, [])] {}
    (loadBundle plainWorld (firstPlan "op-1" 7) applied).isOk = true ∧
    phaseOutcome (firstPlan "op-1" 7) .generationStaged applied =
      .raised (.upgrade "upgrade phase command failed safely") ∧
    phaseOutcome (firstPlan "op-1" 7) .generationStaged recovered =
      .raised (.upgrade "upgrade phase command failed safely") ∧
    phaseOutcome (firstPlan "op-2" 8) .generationStaged recovered =
      .raised (.upgrade "upgrade phase command failed safely") := by
  decide +kernel

end VonkForge.HostUpgrade
