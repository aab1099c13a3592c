import VonkForge.StagingPhases

/-!
# Which upgrades complete

None does: an apply ends at its staging, and a rollback at its selection, since another operation
selected the generation it starts from.
-/

namespace VonkForge.HostUpgrade

open HostState Program

variable {w : World} {plan : Plan} {h : Host} {sizes : DocumentSizes}

/-! ### Selections of other operations -/

/-- The selection, and one that was begun, are of other operations. -/
structure Foreign (plan : Plan) (s : Store) : Prop where
  active : ∀ a, s.active = some a → a.selection.operationId ≠ plan.operationId
  intent : ∀ i, s.intent = some i → i.selection.operationId ≠ plan.operationId

lemma foreign_completeSelection {i : SelectedGeneration}
    (hi : i.selection.operationId ≠ plan.operationId) :
    Meets (fun _ => True) (Foreign plan) (completeSelection i)
      (fun _ s => Foreign plan s ∧ s.active = some i) (fun _ => Foreign plan) (Foreign plan) := by
  have hwrite : ∀ s, Foreign plan s → Foreign plan (writeActive i s) := by
    intro s hs
    refine ⟨fun a ha => ?_, hs.intent⟩
    obtain rfl := Option.some.inj ha
    exact hi
  have hunlink : ∀ s, Foreign plan s → Foreign plan (unlinkIntent s) :=
    fun s hs => ⟨hs.active, fun _ hnone => by cases hnone⟩
  refine Meets.bind (Q := fun _ s => Foreign plan s ∧ s.active = some i) ?_ fun _ => ?_
  · refine meets_effectUnless (fun s hs hsame => ⟨hs, by simpa using hsame⟩)
      (fun s hs => ⟨hwrite s hs, rfl⟩) (fun _ _ hs => hs) (fun _ => hwrite) fun _ _ hs => hs
  refine Meets.bind (Q := fun _ s => Foreign plan s ∧ s.active = some i) ?_ fun _ => ?_
  · have hpointer : ∀ s, Foreign plan s → Foreign plan (writePointer i s) :=
      fun s hs => ⟨hs.active, hs.intent⟩
    exact meets_effectUnless (fun s hs _ => hs) (fun s hs => ⟨hpointer s hs.1, hs.2⟩)
      (fun _ _ hs => hs.1) (fun _ s hs => hpointer s hs.1) fun _ _ hs => hs.1
  exact meets_effect (fun s hs => ⟨hunlink s hs.1, hs.2⟩) (fun _ _ hs => hs.1)
    (fun _ s hs => hunlink s hs.1) fun _ _ hs => hs.1

/-- Reading the selection keeps it with other operations, and returns what is then selected. -/
theorem foreign_reconcileSelection :
    Meets (fun _ => True) (Foreign plan) (reconcileSelection sizes)
      (fun a s => Foreign plan s ∧ s.active = a) (fun _ => Foreign plan) (Foreign plan) := by
  refine Meets.bind (Q := fun a s => Foreign plan s ∧ s.active = a) ?_ fun active => ?_
  · exact meets_check (fun s a hs ha => ⟨hs, (loadIdentityActive_cases ha).symm⟩) fun _ _ hs _ => hs
  refine Meets.bind (Q := fun i s => Foreign plan s ∧ s.active = active ∧ s.intent = i) ?_
    fun intent => ?_
  · exact meets_check (fun s i hs hi => ⟨hs.1, hs.2, (loadSelectionIntent_cases hi).symm⟩)
      fun _ _ hs _ => hs.1
  refine Meets.bind (Q := fun _ s => Foreign plan s ∧ s.active = active ∧ s.intent = intent)
    (meets_get fun _ hs => hs) fun s => ?_
  have hsame : Meets (fun _ => True)
      (fun s => Foreign plan s ∧ s.active = active ∧ s.intent = intent)
      (pure active : Program Store HostError _) (fun a s => Foreign plan s ∧ s.active = a)
      (fun _ => Foreign plan) (Foreign plan) := meets_pure fun s hs => ⟨hs.1, hs.2.1⟩
  have hraise : ∀ e, Meets (fun _ => True)
      (fun s => Foreign plan s ∧ s.active = active ∧ s.intent = intent)
      (raise e : Program Store HostError (Option SelectedGeneration))
      (fun a s => Foreign plan s ∧ s.active = a) (fun _ => Foreign plan) (Foreign plan) :=
    fun e => meets_raise fun s hs => hs.1
  cases intent with
  | none =>
    simp only
    split
    · exact hsame
    exact hraise _
  | some i =>
    simp only
    split
    · intro t fs hA ht
      -- the selection that was begun is of another operation, and is completed
      have hi := ht.1.intent i ht.2.2
      have hcomplete : Meets (fun _ => True) (Foreign plan)
          (completeSelection i >>= fun _ => pure (some i))
          (fun a s => Foreign plan s ∧ s.active = a) (fun _ => Foreign plan) (Foreign plan) :=
        (foreign_completeSelection hi).bind fun _ => meets_pure fun s hs => hs
      exact hcomplete t fs hA ht.1
    split
    · exact hsame
    exact hraise _

lemma foreign_loadActive :
    Meets (fun _ => True) (fun h : Host => Foreign plan h.store) (loadActive w)
      (fun a h => Foreign plan h.store ∧ h.store.active = a) (fun _ h => Foreign plan h.store)
      (fun h => Foreign plan h.store) :=
  Meets.zoom foreign_reconcileSelection fun _ _ => rfl

/-- Another operation selected a generation. -/
def SelectedElsewhere (plan : Plan) (h : Host) : Prop :=
  Foreign plan h.store ∧ h.store.active ≠ none

lemma elsewhere_loadActive :
    Meets (fun _ => True) (SelectedElsewhere plan) (loadActive w)
      (fun a h => SelectedElsewhere plan h ∧ h.store.active = a) (fun _ => SelectedElsewhere plan)
      (SelectedElsewhere plan) := by
  have hsome : Keeps (fun h : Host => h.store.active ≠ none) (loadActive w) :=
    keeps_onStore (keeps_reconcileSelection (P := fun s => s.active ≠ none)
      (fun _ _ _ => Option.some_ne_none _) (fun _ _ hs => hs) fun _ hs => hs)
  exact (foreign_loadActive.and hsome).mono (fun _ hh => hh) (fun _ _ hh => ⟨⟨hh.1.1, hh.2⟩, hh.1.2⟩)
    (fun _ _ hh => hh) fun _ hh => hh

lemma elsewhere_keeps : Keeps (SelectedElsewhere plan) (loadActive w) :=
  elsewhere_loadActive.mono (fun _ hh => hh) (fun _ _ hh => hh.1) (fun _ _ hh => hh) fun _ hh => hh

/-! ### Rollbacks -/

/-- A selection of another operation is a conflict for the plan. -/
theorem conflict_selected :
    Meets (fun _ => True) (SelectedElsewhere plan) (probePhase w plan .generationSelected)
      (fun d _ => d = .conflict ∨ d = .ambiguous) (fun _ _ => True) (fun _ => True) := by
  have hprobe : Meets (fun _ => True) (SelectedElsewhere plan) (probe w plan .generationSelected)
      (fun d _ => d = .conflict ∨ d = .ambiguous) (fun _ => SelectedElsewhere plan)
      (SelectedElsewhere plan) := by
    refine elsewhere_loadActive.bind fun active => ?_
    cases active with
    | none => exact meets_pure fun h hh => absurd hh.2 hh.1.2
    | some a =>
      simp only
      split
      · exact meets_pure fun h hh => .inl rfl
      split
      · next hsel =>
        refine meets_pure fun h hh => ?_
        simp [selectedByPlan, hh.1.1.active a hh.2] at hsel
      exact meets_pure fun h hh => .inl rfl
  refine (hprobe.mono (fun _ hh => hh) (fun _ _ hd => hd) (fun _ _ _ => trivial)
    fun _ _ => trivial).recover (fun e d h _ hd => ?_) fun _ _ _ _ _ => trivial
  cases e with
  | ambiguousMigration => exact .inr (Except.ok.inj hd).symm
  | bundle => cases hd
  | _ => exact .inl (Except.ok.inj hd).symm

lemma meets_rollbackStep :
    Meets (fun _ => True) (fun h : Host => Foreign plan h.store) (runStep (rollbackStep w plan))
      (fun _ => SelectedElsewhere plan) (fun _ h => Foreign plan h.store)
      (fun h => Foreign plan h.store) := by
  have hrequire : Meets (fun _ => True) (fun h : Host => Foreign plan h.store)
      (requireRollbackPredecessor w plan) (fun _ => SelectedElsewhere plan)
      (fun _ h => Foreign plan h.store) (fun h => Foreign plan h.store) := by
    refine foreign_loadActive.bind fun active => ?_
    cases active with
    | none => exact meets_raise fun h hh => hh.1
    | some a =>
      simp only
      split
      · exact meets_raise fun h hh => hh.1
      have helse : ∀ h : Host, Foreign plan h.store ∧ h.store.active = some a →
          SelectedElsewhere plan h := by
        rintro h ⟨hf, ha⟩
        exact ⟨hf, by simp [ha]⟩
      refine Meets.bind (Q := fun _ => SelectedElsewhere plan) ?_ fun receipt => ?_
      · exact meets_check (fun h _ hh _ => helse h hh) fun _ _ hh _ => hh.1
      split
      · exact meets_pure fun h hh => hh
      exact meets_raise fun h hh => hh.1
  refine meets_runStep (keeps_pure _) ?_
  rw [rollbackStep_probe]
  refine Meets.recover (Meets.bind hrequire fun _ => ?_) (fun _ d h hh hd => ⟨hh, ?_⟩)
    fun _ _ _ _ hd => by cases hd
  · exact meets_pure fun h hh => ⟨hh.1, fun _ => hh⟩
  rintro rfl
  cases hd

/-! ### Every plan -/

/-- Nothing on the host is of the operation of the plan yet: no staging receipt, no selection and no
nonce. -/
structure NewOperation (plan : Plan) (h : Host) : Prop where
  unstaged : Unstaged plan h.store
  foreign : Foreign plan h.store
  nonces : ∀ id, h.nonces plan.operationId id = none

/-- The host with the journal of a new operation. -/
def started (plan : Plan) (h : Host) : Host := { h with journal := some ⟨plan, []⟩ }

lemma blocked_apply :
    Blocked (fun h : Host => Unstaged plan h.store)
      ((authorizationStep w plan :: applyPhases.tail.map (boundaryStep w plan)).forM runStep) := by
  have hstaging : Keeps (fun h : Host => Unstaged plan h.store) (loadActive w) :=
    keeps_loadActive fun h s hs hh => hh.of_staging hs
  refine Keeps.blocked_bind (keeps_runStep (fun _ _ hh => hh) (keeps_pure _) (keeps_pure _))
    fun _ => ?_
  refine Keeps.blocked_bind (keeps_runStep (fun _ _ hh => hh) (keeps_probePhase hstaging _) ?_)
    fun _ => blocked_staged.bind
  exact Keeps.mapError (keeps_acquireBundle fun _ _ _ hh => hh)

lemma blocked_rollback :
    Blocked (fun h : Host => Foreign plan h.store)
      ((authorizationStep w plan :: rollbackStep w plan ::
        (rollbackPhases.drop 2).map (boundaryStep w plan)).forM runStep) := by
  refine Keeps.blocked_bind (keeps_runStep (fun _ _ hh => hh) (keeps_pure _) (keeps_pure _))
    fun _ => meets_rollbackStep.blocked_bind fun _ => ?_
  have hservices : Keeps (SelectedElsewhere plan) (stopServices w) := by
    refine elsewhere_keeps.bind fun active => ?_
    cases active with
    | none => exact keeps_pure _
    | some => exact (keeps_check _).bind fun _ => keeps_effect _ fun _ hh => hh
  refine Keeps.blocked_bind (keeps_runStep (fun _ _ hh => hh)
    (keeps_probePhase elsewhere_keeps _) hservices.mapError) fun _ => ?_
  exact (blocked_of_conflict conflict_selected).bind

/-- `PhaseDispatcher.run` over the program of the plan performs and journals all phases, and ends
with the generation of the plan selected. -/
def Completes (w : World) (plan : Plan) (h : Host) : Prop :=
  ∃ t, (dispatch (phaseProgram w plan)).run (started plan h) [] = ⟨.done (), t, []⟩ ∧
    t.journal = some ⟨plan, (phaseProgram w plan).map (·.phase)⟩ ∧
    ∃ a, t.store.active = some a ∧ matchesPlan a.generation plan = true

/-- No plan of a new operation completes, on any host. -/
theorem upgrade_never_completes (w : World) (plan : Plan) (h : Host) (hnew : NewOperation plan h) :
    ¬Completes w plan h := by
  rintro ⟨t, hrun, -⟩
  have hdispatch : (dispatch (phaseProgram w plan)).run (started plan h) [] =
      ((phaseProgram w plan).forM runStep).run (started plan h) [] := by
    unfold dispatch
    rw [run_get_bind]
    rfl
  rw [hdispatch] at hrun
  have hdone := congrArg Ending.outcome hrun
  unfold phaseProgram at hdone
  cases hkind : plan.operationKind with
  | apply =>
    rw [hkind] at hdone
    exact blocked_apply (started plan h) [] () hnew.unstaged hdone
  | rollback =>
    rw [hkind] at hdone
    exact blocked_rollback (started plan h) [] () hnew.foreign hdone

lemma newOperation_empty (plan : Plan) : NewOperation plan {} := by
  refine ⟨fun _ hnone => ?_, ⟨fun _ hnone => ?_, fun _ hnone => ?_⟩, fun _ => rfl⟩ <;> cases hnone

theorem first_install_incomplete : ¬Completes plainWorld (firstPlan "op-1" 7) {} :=
  upgrade_never_completes plainWorld (firstPlan "op-1" 7) {} (newOperation_empty _)

def firstSelection : SelectionReceipt := ⟨"op-1", 7, firstGeneration, none⟩

/-- A host that serves the first generation. -/
def predecessorHost : Host :=
  { store :=
      { generations := fun id =>
          if id = "gen-a" then
            some { assets := ["compose.yaml"], generation := some (.whole firstGeneration) }
          else none
        active := some ⟨firstSelection, 1⟩
        pointer := some "gen-a" }
    database := "r1"
    services := some ⟨firstGeneration, 5⟩ }

/-- An upgrade over the first generation. -/
def overPlan : Plan :=
  { firstPlan "op-2" 8 with
    generation := secondGeneration
    currentDatabaseRevision := "r1"
    previous := some ⟨firstSelection, 1⟩
    running := some ⟨firstGeneration, 5⟩ }

/-- The second generation is selected over the first one. -/
def secondHost : Host :=
  { predecessorHost with
    store :=
      { generations := fun id =>
          if id = "gen-b" then
            some { assets := ["compose.yaml"], generation := some (.whole secondGeneration) }
          else predecessorHost.store.generations id
        active := some ⟨⟨"op-2", 8, secondGeneration, some "gen-a"⟩, 2⟩
        pointer := some "gen-b" }
    services := some ⟨secondGeneration, 12⟩ }

def rollbackPlan : Plan :=
  { firstPlan "op-3" 9 with
    operationKind := .rollback
    currentDatabaseRevision := "r1"
    previous := some ⟨⟨"op-2", 8, secondGeneration, some "gen-a"⟩, 2⟩
    running := some ⟨secondGeneration, 12⟩ }

/-- A first install, an upgrade over a predecessor and a rollback: the snapshot holds, every command
succeeds, and none completes. -/
theorem upgrades_fail :
    ((requireNewPlanSnapshot plainWorld (firstPlan "op-1" 7)).run {} []).outcome = .done () ∧
    ((dispatch (phaseProgram plainWorld (firstPlan "op-1" 7))).run
        (started (firstPlan "op-1" 7) {}) []).outcome =
      .raised (.upgrade "upgrade phase command failed safely") ∧
    ((requireNewPlanSnapshot plainWorld overPlan).run predecessorHost []).outcome = .done () ∧
    ((dispatch (phaseProgram plainWorld overPlan)).run
        (started overPlan predecessorHost) []).outcome =
      .raised (.upgrade "upgrade phase command failed safely") ∧
    ((requireNewPlanSnapshot plainWorld rollbackPlan).run secondHost []).outcome = .done () ∧
    ((dispatch (phaseProgram plainWorld rollbackPlan)).run
        (started rollbackPlan secondHost) []).outcome =
      .raised (.conflict "generation-selected exact probe conflicted") := by
  decide +kernel

end VonkForge.HostUpgrade
