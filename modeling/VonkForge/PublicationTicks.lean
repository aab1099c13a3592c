import VonkForge.PublicationOwner

/-!
# The publisher calls of a tick

Every branch of the tick, by the rules for calls and the effects of the routines
between them.
-/

namespace VonkForge.AgentReconciliation

open AgentJobs LeaseHandoff Logged

variable {view : TickView} {db db' : Database} {r : Reconciliation} {job : Job}
  {plan : ResolvedPlan} {now : Time} {auto released : Bool}

lemma Publishes.of_known {γ : Type} {x : Logged JobError PublisherCall (γ × Database)}
    (h : Known r db → Publishes r db x) : Publishes r db x := fun hk => h hk hk

lemma Steady.owner_self (h : Steady db db') (ho : AgentReconciliation.owner db = some r.id) :
    AgentReconciliation.owner db' = some r.id := h.owner_eq.trans ho

lemma steady_updatePublication (id : Uuid) (f : RoutePublication → RoutePublication)
    (hf : ∀ p, Keyed.key (f p) = Keyed.key p) : Steady db (updatePublication db id f hf) :=
  steady_of_tables rfl rfl

variable {c : ReconciliationCancellation} {reason : String} {out : Bool × Database}
  {p : RoutePublication} {id : Uuid}

lemma steady_storeMarker {marker : ActivationMarker} {state : PublicationState}
    (h : storeMarker db id marker state = .ok db') : Steady db db' := by
  unfold storeMarker at h
  split at h
  · cases h
  cases h
  exact steady_updatePublication id _ _

/-- The withdrawal takes the ownership over from an earlier reconciliation. -/
theorem publishes_maintenanceWithdrawal : Publishes r db (maintenanceWithdrawal view db r plan) := by
  apply Publishes.of_known
  intro hk
  have hm : Moves r db (ownsPublication db r true).2 := moves_ownsPublication true
  have hc := @Known.mayCall_of_owns true db r hk
  unfold maintenanceWithdrawal
  generalize ownsPublication db r true = out at hm hc ⊢
  obtain ⟨owns, d⟩ := out
  simp only at hm hc ⊢
  split
  · exact publishes_pure hm
  next howns =>
  apply Publishes.after hm
  apply publishes_bind
  intro _ _
  apply publishes_call
  · exact fun _ => hc (by simpa using howns)
  intro marker
  apply closes_bind
  intro e he
  obtain ⟨hmove, ho⟩ := transferPublicationOwner_owner he
  apply Closes.after hmove
  apply closes_bind
  intro f hf
  have hs := (steady_storeMarker hf).trans (steady_setPhase r.id .routesWithdrawn)
  exact closes_pure hs.moves (hs.owner_self ho)

/-- Without authority the routes are withdrawn by their owner only. -/
theorem publishes_loseAuthority : Publishes r db (loseAuthority view db r job plan reason) := by
  have hm : Moves r db (publicationOwner db).2 := moves_publicationOwner
  have howner := @owner_publicationOwner db
  unfold loseAuthority
  generalize publicationOwner db = out at hm howner ⊢
  obtain ⟨row, d⟩ := out
  have hm' : Moves r d (ownsPublication d r false).2 := moves_ownsPublication false
  have hself := @ownsPublication_self d r
  simp only at hm howner ⊢
  generalize ownsPublication d r false = out at hm' hself ⊢
  obtain ⟨owns, e⟩ := out
  apply Publishes.after (hm.trans hm')
  split
  · next hcond =>
    -- an authorization without a right to supersede is the ownership itself
    have ho : owner e = some r.id := by
      rcases hcond.1 with howns | hrow
      · exact hself howns
      exact hm'.owner_self (howner.trans hrow)
    apply publishes_bind
    intro leased hleased
    have hs := steady_ensureLease hleased
    apply Publishes.after hs.moves
    obtain ⟨leased, f⟩ := leased
    split
    · exact publishes_pure (.refl r f)
    apply publishes_bind
    intro _ _
    apply publishes_call
    · exact fun hk => hk.mayCall (hs.owner_self ho)
    intro marker
    apply closes_bind
    intro g hg
    apply closes_bind
    intro h hh
    have hs' := (steady_storeMarker hg).trans (settled_quiesceForUnavailableTarget hh).toSteady
    exact closes_pure hs'.moves (hs'.owner_self (hs.owner_self ho))
  apply publishes_bind
  intro f hf
  exact publishes_pure (settled_quiesceForUnavailableTarget hf).toSteady.moves

lemma steady_startReconciliation (h : startReconciliation view db r job plan = .ok out) :
    Steady db out.2 := by
  unfold startReconciliation at h
  split at h
  · cases h
  obtain ⟨⟨leased, d⟩, hd, h⟩ := of_bind_ok h
  have hlease : Steady db d := by
    unfold startLease at hd
    split at hd
    · cases hd
      exact .refl db
    exact steady_ensureLease hd
  simp only at h
  split at h
  · cases h
    exact hlease
  split at h
  · cases h
  next publications _ =>
  cases h
  have hinsert : Steady d { d with publications := publications } := steady_of_tables rfl rfl
  exact ((hlease.trans hinsert).trans (steady_setReconciliation _ _ _ _)).trans
    (steady_setJob _ _ _ _)

lemma steady_recordCompletion (h : recordCompletion db r = .ok db') : Steady db db' := by
  unfold recordCompletion at h
  have hdone : Steady db (setReconciliation db r.id .completed .succeeded r.terminalReason) :=
    steady_setReconciliation _ _ _ _
  split at h
  · cases h
    exact hdone
  obtain ⟨⟨generation, d⟩, hd, h⟩ := of_bind_ok h
  cases h
  unfold nextCompletionGeneration at hd
  split at hd
  · cases hd
    exact hdone.trans ⟨keeps_updateReconciliations fun _ => rfl, rfl⟩
  cases hd

/-- A phase that needs its authority may lose it instead. -/
theorem publishes_whileActive {step : Logged JobError PublisherCall (Bool × Database)}
    (h : Publishes r db step) :
    Publishes r db (whileActive view db r job plan reason step) := by
  unfold whileActive
  split
  · exact h
  apply publishes_bind
  intro d hd
  exact publishes_pure (settled_quiesceForUnavailableTarget hd).toSteady.moves

lemma steady_acceptEvidence (h : acceptEvidence view db r = .ok out) : Steady db out.2 := by
  obtain ⟨digest, _, h⟩ := of_bind_ok h
  cases h
  exact (steady_updatePublication r.id _ _).trans (steady_setPhase _ _)

lemma steady_finishCancelled : Steady db (finishCancelled db now r job c reason) :=
  ((steady_setReconciliation _ _ _ _).trans (steady_setJob _ _ _ _)).trans
    (steady_setCancellationState _ _)

lemma steady_cancelWaiting : Steady db (cancelWaiting db now r job reason) :=
  (steady_waitForOperator _ _ _).trans (steady_setCancellationState _ _)

lemma steady_cancelHistorical (h : cancelHistorical db now r job plan c = .ok db') :
    Steady db db' := by
  obtain ⟨⟨uncertain, d⟩, hd, h⟩ := of_bind_ok h
  have hq := steady_quiesceRoles hd
  simp only at h
  split at h
  · cases h
    exact hq.trans steady_cancelWaiting
  cases h
  exact hq.trans steady_finishCancelled

lemma steady_cancelOwner (h : cancelOwner db now r job plan c = .ok db') : Steady db db' := by
  obtain ⟨unsafePrimary, _, ⟨uncertain, d⟩, hd, h⟩ := of_bind_ok₂ h
  have hq := steady_quiesceRoles hd
  obtain ⟨mutated, _, compensatable, _, h⟩ := of_bind_ok₂ h
  split at h
  · cases h
    exact hq.trans steady_cancelWaiting
  split at h
  · cases h
    exact hq.trans (((steady_setReconciliation _ _ _ _).trans (steady_setJob _ _ _ _)).trans
      (steady_setCancellationState _ _))
  split at h
  · cases h
    exact hq.trans steady_cancelWaiting
  cases h
  exact hq.trans steady_finishCancelled

lemma moves_applyCancellation (h : applyCancellation db now r job plan c = .ok db') :
    Moves r db db' := by
  have hm : Moves r db (ownsPublication db r false).2 := moves_ownsPublication false
  unfold applyCancellation at h
  generalize ownsPublication db r false = out at h hm
  obtain ⟨owns, d⟩ := out
  simp only at h hm
  split at h
  · exact hm.trans (steady_cancelHistorical h).moves
  split at h
  · obtain ⟨⟨_, e⟩, he, h⟩ := of_bind_ok h
    cases h
    exact hm.trans ((steady_quiesceRoles he).trans (steady_setCancellationState _ _)).moves
  exact hm.trans (steady_cancelOwner h).moves

section

variable (ho : owner db = some r.id)

include ho

lemma publishes_publishRoutes : Publishes r db (publishRoutes view db r job plan p) := by
  apply publishes_bind
  intro request _
  apply publishes_call
  · exact fun hk => hk.mayCall ho
  intro marker
  apply closes_bind
  intro d hd
  apply closes_bind
  intro e he
  apply closes_bind
  intro f hf
  have hs := ((steady_storeMarker hd).trans (steady_recordCompletion he)).trans
    ((steady_setJob job.id .succeeded none view.now).trans (settled_markReleasing hf).toSteady)
  exact closes_pure hs.moves (hs.owner_self ho)

lemma publishes_renewLease : Publishes r db (renewLease view auto released db r job plan p) := by
  unfold renewLease
  split
  · exact publishes_pure (.refl r db)
  apply publishes_bind
  intro out hout
  have hs := steady_ensureLease hout
  apply Publishes.after hs.moves
  obtain ⟨leased, d⟩ := out
  simp only at hs ⊢
  split
  · exact publishes_pure (.refl r d)
  apply publishes_call
  · exact fun hk => hk.mayCall (hs.owner_self ho)
  intro marker
  apply closes_bind
  intro e he
  have hs' := (steady_storeMarker he).trans
    ((steady_setReconciliation r.id .accepting .running r.terminalReason).trans
      (steady_setJob job.id .running job.statusReason view.now))
  exact closes_pure hs'.moves (hs'.owner_self (hs.owner_self ho))

lemma publishes_advancePhase :
    Publishes r db (advancePhase view auto released db r job plan p) := by
  unfold advancePhase
  split
  · have hs : Steady db (setPhase (planProjections db r plan) r.id .dispatching) :=
      ⟨(steady_setPhase r.id .dispatching).keeps, rfl⟩
    exact publishes_whileActive (publishes_pure hs.moves)
  · exact publishes_whileActive (publishes_lift fun _ h => (steady_dispatch h).moves)
  · exact publishes_whileActive (publishes_lift fun _ h => (steady_acceptEvidence h).moves)
  · exact publishes_whileActive (publishes_publishRoutes ho)
  · exact publishes_renewLease ho
  · exact publishes_whileActive (publishes_lift fun _ h => (steady_compensate h).moves)
  exact publishes_lift fun _ h => (by cases h)

lemma publishes_cancelWithdrawal : Publishes r db (cancelWithdrawal view db r plan) := by
  unfold cancelWithdrawal
  split
  · exact publishes_lift fun _ h => (by cases h)
  apply publishes_bind
  intro _ _
  apply publishes_call
  · exact fun hk => hk.mayCall ho
  intro marker
  apply closes_bind
  intro d hd
  have hs := (steady_storeMarker hd).trans (steady_setCancellationState r.id .withdrawn)
  exact closes_pure hs.moves (hs.owner_self ho)

end

lemma publishes_tickOwner : Publishes r db (tickOwner view auto released db r job plan) := by
  have hm : Moves r db (ownsPublication db r (r.currentPhase = .planned)).2 :=
    moves_ownsPublication _
  have hself : r.currentPhase ≠ .planned →
      (ownsPublication db r (r.currentPhase = .planned)).1 = true →
      owner (ownsPublication db r (r.currentPhase = .planned)).2 = some r.id := by
    intro hphase howns
    rw [decide_eq_false hphase] at howns ⊢
    exact ownsPublication_self howns
  unfold tickOwner
  generalize ownsPublication db r (r.currentPhase = .planned) = out at hm hself ⊢
  obtain ⟨owns, d⟩ := out
  simp only at hm hself ⊢
  split
  · exact publishes_pure hm
  next howns =>
  apply Publishes.after hm
  split
  · exact publishes_lift fun _ h => (steady_startReconciliation h).moves
  next hphase =>
  apply publishes_bind
  intro p _
  exact publishes_advancePhase (hself hphase (by simpa using howns))

lemma publishes_tickPhase : Publishes r db (tickPhase view auto released db r job plan) := by
  unfold tickPhase
  split
  · exact publishes_pure (.refl r db)
  apply publishes_bind
  intro out hout
  have hs := (settled_sweepExpiredMutations hout).toSteady
  apply Publishes.after hs.moves
  obtain ⟨swept, d⟩ := out
  simp only at hs ⊢
  split
  · exact publishes_pure (.refl r d)
  have hm : Moves r d (publicationOwner d).2 := moves_publicationOwner
  generalize publicationOwner d = out at hm ⊢
  obtain ⟨row, e⟩ := out
  apply Publishes.after hm
  split
  · exact publishes_maintenanceWithdrawal
  split
  · exact publishes_loseAuthority
  split
  · exact publishes_maintenanceWithdrawal
  exact publishes_tickOwner

lemma publishes_advanceCancellation :
    Publishes r db (advanceCancellation view db r job plan c) := by
  have hm : Moves r db (ownsPublication db r false).2 := moves_ownsPublication false
  have hself := @ownsPublication_self db r
  have hset : ∀ (d : Database) (state : CancellationState),
      Moves r d (setCancellationState d r.id state) :=
    fun d state => (steady_setCancellationState r.id state).moves
  unfold advanceCancellation
  split
  · generalize ownsPublication db r false = out at hm ⊢
    obtain ⟨owns, d⟩ := out
    simp only
    split
    · exact publishes_pure hm
    split <;> exact publishes_pure (hm.trans (hset d _))
  · generalize ownsPublication db r false = out at hm hself ⊢
    obtain ⟨owns, d⟩ := out
    simp only at hself ⊢
    split
    · next howns => exact .after hm (publishes_cancelWithdrawal (hself howns))
    split
    · exact publishes_pure hm
    exact publishes_pure (hm.trans (hset d _))
  iterate 2
    · exact publishes_bind fun d hd => publishes_pure (moves_applyCancellation hd)
  · split
    · exact publishes_pure (hset db _)
    · exact publishes_pure (hset db _)
    exact publishes_pure (.refl r db)
  · exact publishes_pure (.refl r db)
  exact publishes_pure (.refl r db)

lemma moves_cancellationLease (h : cancellationLease view db r c = .ok out) : Moves r db out.2 := by
  have hm : Moves r db (ownsPublication db r false).2 := moves_ownsPublication false
  unfold cancellationLease at h
  split at h
  · generalize ownsPublication db r false = out at hm h
    obtain ⟨owns, d⟩ := out
    simp only at h
    split at h
    · exact hm.trans (steady_ensureLease h).moves
    cases h
    exact hm
  cases h
  exact .refl r db

lemma publishes_tickCancellation : Publishes r db (tickCancellation view db r job plan) := by
  unfold tickCancellation
  split
  · exact publishes_pure (.refl r db)
  apply publishes_bind
  intro out hout
  apply Publishes.after (moves_cancellationLease hout)
  obtain ⟨leased, d⟩ := out
  simp only
  split
  · exact publishes_pure (.refl r d)
  apply publishes_advanceCancellation.bind
  intro out
  obtain ⟨answer, e⟩ := out
  split
  · exact publishes_pure (.refl r e)
  apply publishes_bind
  intro f hf
  unfold markCancelled at hf
  split at hf
  · exact publishes_pure (settled_markReleasing hf).toSteady.moves
  cases hf
  exact publishes_pure (.refl r e)

/-- A tick calls the publisher for its own reconciliation, while no later one is the owner. -/
theorem publishes_tickCandidate (hr : db.reconciliations.get? id = some r) :
    Publishes r db (tickCandidate view auto db id) := by
  apply publishes_bind
  intro context hcontext
  obtain ⟨r', job, plan⟩ := context
  have hr' : r' = r := by
    unfold lockedContext at hcontext
    rw [hr] at hcontext
    obtain ⟨plan', _, hcontext⟩ := of_bind_ok hcontext
    split at hcontext
    · cases hcontext
    cases hcontext
    rfl
  subst hr'
  apply publishes_bind
  intro out hout
  apply Publishes.after (steady_of_leases (leasesOnly_settleLeases hout)).moves
  obtain ⟨⟨released, ended⟩, d⟩ := out
  simp only
  split
  · exact publishes_pure (.refl _ d)
  apply publishes_tickCancellation.bind
  intro out
  obtain ⟨answer, e⟩ := out
  split
  · exact publishes_pure (.refl _ e)
  exact publishes_tickPhase

end VonkForge.AgentReconciliation
