import VonkForge.DispatcherSteps

/-!
# What the boundary keeps

Probes change nothing but the selection files, which `load_active` completes; a staging never
comes to its end, and a committed generation is never changed.
-/

namespace VonkForge.HostUpgrade

open HostState Program

variable {w : World} {plan : Plan}

/-! ### The selection files -/

section Selection

variable {P : Store → Prop} {sizes : DocumentSizes}

lemma keeps_completeSelection {intended : SelectedGeneration}
    (hactive : ∀ s, P s → P (writeActive intended s))
    (hpointer : ∀ s, P s → P (writePointer intended s)) (hintent : ∀ s, P s → P (unlinkIntent s)) :
    Keeps P (completeSelection intended) :=
  (keeps_effectUnless _ hactive).bind fun _ => (keeps_effectUnless _ hpointer).bind fun _ =>
    keeps_effect _ hintent

lemma keeps_reconcileSelection (hactive : ∀ s i, P s → P (writeActive i s))
    (hpointer : ∀ s i, P s → P (writePointer i s)) (hintent : ∀ s, P s → P (unlinkIntent s)) :
    Keeps P (reconcileSelection sizes) := by
  refine (keeps_check _).bind fun active => (keeps_check _).bind fun intent => ?_
  refine keeps_get.bind fun s => ?_
  cases intent with
  | none => exact Keeps.ite_pure fun _ => keeps_raise _
  | some i =>
    refine Keeps.ite (fun _ => ?_) fun _ => Keeps.ite_pure fun _ => keeps_raise _
    exact (keeps_completeSelection (hactive · i) (hpointer · i) hintent).bind fun _ => keeps_pure _

/-- What depends on the staging alone is kept by everything that is done to the selection. -/
theorem keeps_select (hactive : ∀ s i, P s → P (writeActive i s))
    (hpointer : ∀ s i, P s → P (writePointer i s)) (hbegin : ∀ s i, P s → P (writeIntent i s))
    (hintent : ∀ s, P s → P (unlinkIntent s)) (receipt : SelectionReceipt) :
    Keeps P (select sizes receipt) := by
  refine (keeps_check _).bind fun g => Keeps.ite_raise fun _ => ?_
  refine (keeps_reconcileSelection hactive hpointer hintent).bind fun current => ?_
  refine Keeps.bind ?_ fun _ => ?_
  · refine keeps_get.bind fun s => ?_
    cases s.intent with
    | none => exact keeps_effect _ fun s hs => hbegin s _ hs
    | some => exact Keeps.ite_raise fun _ => keeps_pure _
  refine (keeps_effect _ fun s hs => hactive s _ hs).bind fun _ => ?_
  refine (keeps_effect _ fun s hs => hpointer s _ hs).bind fun _ => ?_
  exact (keeps_effect _ hintent).bind fun _ => keeps_pure _

lemma readBounded_cases {α : Type} {label : String} {size : ℕ} {content a : α}
    (h : readBounded label size content = .ok a) : a = content := by
  unfold readBounded at h
  split at h
  · cases h
  exact (Except.ok.inj h).symm

lemma loadIdentityActive_cases {s : Store} {a : Option SelectedGeneration}
    (h : loadIdentityActive sizes s = .ok a) : a = s.active := by
  unfold loadIdentityActive at h
  cases hs : s.active with
  | none =>
    rw [hs] at h
    exact (Except.ok.inj h).symm
  | some active =>
    rw [hs] at h
    cases hr : readBounded "active identity projection" (sizes.active active) active with
    | error => simp [hr] at h
    | ok b =>
      obtain rfl := readBounded_cases hr
      simpa [hr, eq_comm] using h

lemma loadSelectionIntent_cases {s : Store} {a : Option SelectedGeneration}
    (h : loadSelectionIntent sizes s = .ok a) : a = s.intent := by
  unfold loadSelectionIntent at h
  cases hs : s.intent with
  | none =>
    rw [hs] at h
    exact (Except.ok.inj h).symm
  | some intent =>
    rw [hs] at h
    cases hr : readBounded "selection intent" (sizes.intent intent) intent with
    | error => simp [hr] at h
    | ok b =>
      obtain rfl := readBounded_cases hr
      simpa [hr, eq_comm] using h

end Selection

lemma keeps_onStore {α : Type} {P : Store → Prop} {x : Program Store HostError α} (hx : Keeps P x) :
    Keeps (fun h : Host => P h.store) (onStore x) :=
  Meets.zoom hx fun _ _ => rfl

/-- `load_active` keeps what does not depend on the selection files. -/
theorem keeps_loadActive {P : Host → Prop}
    (hP : ∀ h s, s.staging = h.store.staging → P h → P { h with store := s }) :
    Keeps P (loadActive w) := by
  refine Keeps.zoom (R := fun s t => t.staging = s.staging) (fun s fs => ?_)
    fun h s hh hs => hP h s hs hh
  exact (keeps_reconcileSelection (P := fun t => t.staging = s.staging) (fun _ _ ht => ht)
    (fun _ _ ht => ht) fun _ ht => ht).run rfl fs

/-! ### Probes -/

section Probes

variable {P : Host → Prop} (hact : Keeps P (loadActive w))

include hact

lemma keeps_databaseRevision : Keeps P (databaseRevision w) := by
  refine hact.bind fun active => ?_
  cases active with
  | none => exact keeps_pure _
  | some => exact (keeps_check _).bind fun _ => keeps_get.bind fun _ => keeps_pure _

lemma keeps_runningControlIdentities : Keeps P (runningControlIdentities w) := by
  refine hact.bind fun active => ?_
  cases active with
  | none => exact keeps_pure _
  | some =>
    refine (keeps_check _).bind fun _ => keeps_get.bind fun h => ?_
    cases h.services with
    | none => exact keeps_pure _
    | some => exact Keeps.ite_pure fun _ => keeps_raise _

lemma keeps_selectedForGeneration (id : String) : Keeps P (selectedForGeneration w id) := by
  refine hact.bind fun active => ?_
  cases active with
  | none => exact keeps_check _
  | some => exact Keeps.ite_pure fun _ => keeps_check _

lemma keeps_probeSelection (expected : Option String) (exact : SelectedGeneration → Bool) :
    Keeps P (probeSelection w expected exact) := by
  refine hact.bind fun active => ?_
  cases active with
  | none => exact keeps_pure _
  | some =>
    refine Keeps.ite_pure fun _ => ?_
    exact Keeps.ite_pure fun _ => keeps_pure _

lemma keeps_probeWorker (expected : Option String) (clean : Bool) :
    Keeps P (probeWorker w plan expected clean) := by
  refine hact.bind fun active => ?_
  cases active with
  | none => exact keeps_pure _
  | some a =>
    refine Keeps.ite_pure fun _ => keeps_get.bind fun h => ?_
    cases h.nonces plan.operationId a.generationId with
    | none => exact keeps_pure _
    | some =>
      refine (keeps_check _).bind fun _ => Keeps.ite_raise fun _ => ?_
      refine (keeps_check _).bind fun _ => ?_
      exact Keeps.ite_pure fun _ => keeps_pure _

lemma keeps_services {c : Option Running → Prop} [∀ running, Decidable (c running)]
    (d d' : Disposition) :
    Keeps P (do
      let running ← runningControlIdentities w
      if c running then pure d else pure d') :=
  (keeps_runningControlIdentities hact).bind fun _ => Keeps.ite_pure fun _ => keeps_pure _

/-- A probe keeps what `load_active` keeps. -/
theorem keeps_probe (phase : Phase) : Keeps P (probe w plan phase) := by
  cases phase with
  | bundleImagesAcquired =>
    refine keeps_get.bind fun h => ?_
    cases h.bundles plan.generation.deploymentBundleDigest with
    | none => exact keeps_pure _
    | some =>
      refine (keeps_check _).bind fun _ => Keeps.ite_pure fun _ => ?_
      exact Keeps.ite_pure fun _ => keeps_pure _
  | generationStaged => exact keeps_check _
  | backupCompleted =>
    unfold probe
    cases plan.previous with
    | none => exact keeps_pure _
    | some =>
      refine keeps_get.bind fun h => ?_
      cases h.backups plan.operationId with
      | none => exact keeps_pure _
      | some => exact Keeps.ite_pure fun _ => keeps_pure _
  | servicesStoppedDatabaseMigrated =>
    unfold probe
    cases plan.previous with
    | none => exact keeps_check _
    | some =>
      refine (keeps_databaseRevision hact).bind fun _ =>
        (keeps_runningControlIdentities hact).bind fun _ => ?_
      refine Keeps.ite_pure fun _ => ?_
      exact Keeps.ite_pure fun _ => keeps_pure _
  | candidateReady =>
    refine keeps_get.bind fun h => ?_
    cases h.candidates plan.operationId with
    | none => exact keeps_pure _
    | some => exact Keeps.ite_pure fun _ => keeps_check _
  | generationCommitted =>
    refine keeps_get.bind fun h => ?_
    cases h.store.generations plan.generationId with
    | none =>
      exact (keeps_check _).bind fun _ => Keeps.ite_pure fun _ => keeps_pure _
    | some =>
      refine (keeps_selectedForGeneration hact _).bind fun _ => ?_
      exact Keeps.ite_pure fun _ => keeps_pure _
  | backupRestored =>
    refine keeps_get.bind fun h => ?_
    cases h.backups plan.operationId with
    | none => exact keeps_pure _
    | some =>
      cases plan.previous with
      | none => exact keeps_pure _
      | some =>
        refine (keeps_selectedForGeneration hact _).bind fun _ => ?_
        refine Keeps.ite_pure fun _ => (keeps_check _).bind fun _ => ?_
        exact Keeps.ite_pure fun _ => keeps_raise _
  | generationSelected | predecessorSelected => exact keeps_probeSelection hact _ _
  | servicesStarted | predecessorServicesStarted | servicesStopped | compensationServicesStopped =>
    exact keeps_services hact _ _
  | workerReady | completed | rolledBack | predecessorWorkerReady | failed =>
    exact keeps_probeWorker hact _ _
  | candidateCleaned =>
    refine keeps_get.bind fun h => ?_
    exact Keeps.ite_pure fun _ => keeps_pure _
  | authorized | predecessorVerified | compensationStarted => exact keeps_pure _

lemma keeps_probePhase (phase : Phase) : Keeps P (probePhase w plan phase) :=
  (keeps_probe hact phase).recover

end Probes

/-! ### Bundles and stagings -/

section Staging

variable {P : Host → Prop}

lemma keeps_acquireBundle
    (hP : ∀ h bundles images, P h → P { h with bundles := bundles, images := images }) :
    Keeps P (acquireBundle w plan) := by
  have hset : ∀ d dir h, P h → P (setBundle d dir h) :=
    fun d dir h hh => hP h (Function.update h.bundles d dir) h.images hh
  refine (keeps_effect _ fun _ hh => hh).bind fun _ => keeps_get.bind fun h => ?_
  have hpull : Keeps P ((references w plan).forM fun image =>
      effectUnless (fun h => h.images image) (addImage image) (HostError.failed "docker pull")) :=
    Keeps.forM fun image _ => keeps_effectUnless _ fun h hh => hP h h.bundles _ hh
  cases h.bundles plan.generation.deploymentBundleDigest with
  | some =>
    refine (keeps_check _).bind fun _ => ?_
    exact Keeps.ite (fun _ => (keeps_raise _).bind fun _ => hpull) fun _ => hpull
  | none =>
    refine Keeps.bind ?_ fun _ => hpull
    refine (keeps_effect _ fun _ hh => hh).bind fun _ => ?_
    refine (keeps_effect _ (hset _ _)).bind fun _ => Keeps.onRaise ?_ ?_
    · refine (keeps_effect _ (hset _ _)).bind fun _ => ?_
      refine (keeps_effect _ (hset _ _)).bind fun _ => ?_
      exact (keeps_effect _ (hset _ _)).bind fun _ => keeps_effect _ (hset _ _)
    exact (keeps_effect _ (hset _ _)).attempt

end Staging

section Trees

variable {P : Store → Prop} (hclear : ∀ s id (f : Tree → Tree),
  (∀ t, (f t).staging = t.staging ∨ (f t).staging = none) → P s → P (updateStaging id f s))
  (hdrop : ∀ s id, P s → P (setStaging id none s))

include hclear hdrop

lemma keeps_clearStaging (id : String) : Keeps P (clearStaging id) := by
  refine keeps_get.bind fun t => ?_
  cases t.staging id with
  | none => exact keeps_pure _
  | some =>
    have hfile : ∀ f : Tree → Tree, (∀ t, (f t).staging = t.staging ∨ (f t).staging = none) →
        Keeps P (effect (updateStaging id f) (HostError.failed "staging entry")) :=
      fun f hf => keeps_effect _ fun s hs => hclear s id f hf hs
    refine Keeps.bind (Keeps.forM fun name _ => ?_) fun _ => ?_
    · exact hfile _ fun _ => .inl rfl
    refine Keeps.bind ?_ fun _ => Keeps.bind ?_ fun _ => Keeps.bind ?_ fun _ => ?_
    · exact hfile _ fun _ => .inl rfl
    · exact hfile _ fun _ => .inl rfl
    · exact hfile _ fun _ => .inl rfl
    refine Keeps.bind ?_ fun _ => ?_
    · exact hfile _ fun _ => .inr rfl
    exact keeps_effect _ fun s hs => hdrop s id hs

omit hclear hdrop in
/-- The extraction of the bundle opens the parent of its destination without following the symbolic
link that it is, so that nothing is staged. -/
theorem populateStaging_raises (receipt : StagingReceipt) (s : Store) (fs : List Fate) :
    (populateStaging receipt .symbolicLink).run s fs =
      ⟨.raised (.bundle "deployment destination must be a new directory"), s, fs⟩ := rfl

lemma keeps_prepareStaging (receipt : StagingReceipt) :
    Keeps P (prepareStaging receipt.generationId (populateStaging receipt)) := by
  have hcleared := keeps_clearStaging hclear hdrop receipt.generationId
  refine keeps_get.bind fun t => Keeps.ite_raise fun _ => hcleared.bind fun _ => ?_
  refine Keeps.onRaise ?_ hcleared
  exact (keeps_raise _).of_run_eq fun s fs _ => populateStaging_raises receipt s fs

lemma keeps_stageGeneration : Keeps (fun h : Host => P h.store) (stageGeneration w plan) :=
  (keeps_check _).bind fun _ => keeps_onStore (keeps_prepareStaging hclear hdrop
    ⟨plan.generation.deploymentBundleDigest, plan.generationId, plan.planDigest, w.rendered plan⟩)

end Trees

lemma keeps_true {σ ε α : Type} (x : Program σ ε α) : Keeps (fun _ => True) x :=
  keeps_iff.mpr fun _ _ _ => trivial

/-- No staging comes to its end. -/
theorem blocked_stageGeneration : Blocked (fun _ => True) (stageGeneration w plan) := by
  refine (keeps_true _).blocked_bind fun _ => Blocked.zoom ?_
  refine (keeps_true _).blocked_bind fun t => ?_
  split
  · exact blocked_raise _
  refine (keeps_true _).blocked_bind fun _ => Blocked.onRaise fun s fs a _ => ?_
  rw [populateStaging_raises]
  simp

/-! ### Committed generations -/

/-- The store differs in its staging only. -/
def StagingOnly (s t : Store) : Prop := t = { s with staging := t.staging }

lemma stagingOnly_setStaging {s t : Store} (id : String) (tree : Option Tree)
    (h : StagingOnly s t) : StagingOnly s (setStaging id tree t) := by
  rw [h]
  rfl

/-- A committed generation stays as it is while any generation is staged or committed, whatever
fails and wherever the call is killed. -/
theorem committed_generation_kept (staged : StagingReceipt) (receipt : GenerationReceipt) (s : Store)
    (fs : List Fate) (id : String) :
    ((prepareStaging staged.generationId (populateStaging staged)).run s fs).state.generations =
      s.generations ∧
    (s.generations id = none ∨
      ((commitGeneration receipt).run s fs).state.generations id = s.generations id) := by
  have hself : StagingOnly s s := rfl
  have hstaged := (keeps_prepareStaging (P := StagingOnly s)
    (fun _ id _ _ ht => stagingOnly_setStaging id _ ht)
    (fun _ id ht => stagingOnly_setStaging id none ht) staged).run hself fs
  refine ⟨congrArg (·.generations) hstaged, ?_⟩
  cases htree : s.generations id with
  | none => exact .inl rfl
  | some tree =>
    right
    have hupdate : ∀ f (t : Store), t.generations id = some tree →
        (updateStaging receipt.generationId f t).generations id = some tree := fun _ _ ht => ht
    unfold commitGeneration
    simp only
    rw [run_get_bind]
    refine Keeps.run (P := fun t : Store => t.generations id = some tree) ?_ htree fs
    cases s.staging receipt.generationId with
    | none => exact keeps_raise _
    | some staging =>
      refine Keeps.ite_raise fun _ => Keeps.ite_raise fun _ => ?_
      refine (keeps_effect _ (hupdate _)).bind fun _ => (keeps_effect _ (hupdate _)).bind fun _ => ?_
      refine Keeps.ite_raise fun hfree => ?_
      -- the generation that is renamed did not exist before
      have hne : id ≠ receipt.generationId := by
        rintro rfl
        simp [htree] at hfree
      exact keeps_effect _ fun _ ht => (Function.update_of_ne hne _ _).trans ht

end VonkForge.HostUpgrade
