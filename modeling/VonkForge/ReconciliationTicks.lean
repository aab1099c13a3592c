import VonkForge.DispatchSteps

/-!
# A tick as one step

Every branch of a tick advances the life of its reconciliation by one step.
-/

namespace VonkForge.AgentReconciliation

open AgentJobs Logged

variable {owns : Bool} {db mid : Database} {H : EvidenceDigest} {r : Reconciliation}
  {plan : ResolvedPlan} {reason : String} {view : TickView}

section

variable (H : List (GraphId × Digest × Digest) → Digest) (db : Database)

/-- The request publishes all graph nodes of the reconciliation, accepted with both digests, and the
evidence digest is theirs. -/
def PublishSound (id : Uuid) (request : RouteBundleRequest) : Prop :=
  ∃ l evidence, lifeOf db id = some l ∧
    (∀ n ∈ l.plan.nodes, ∃ p, l.rows n.operationId .primary = some p ∧ p.state = .accepted ∧
      p.resultDigest.isSome = true ∧ p.evidenceDigest.isSome = true) ∧
    l.evidenceOf = some evidence ∧ request.evidenceSetDigest = H evidence

def Published (call : PublisherCall) : Prop :=
  ∀ request, call.action = .publish request → PublishSound H db call.caller.id request

/-- Only accepted work is published, and the tick is one step. -/
def Ticks (owns : Bool) (r : Reconciliation) (db : Database) {γ : Type}
    (x : Logged JobError PublisherCall (γ × Database)) : Prop :=
  Ensures (Published H db) (fun _ out => Advances H owns r.id db out.2) x

end

section Rules

variable {α γ : Type}

lemma Still.published {call : PublisherCall} (h : Still db mid) (hp : Published H mid call) :
    Published H db call := by
  intro request hr
  obtain ⟨l, evidence, hl, hrest⟩ := hp request hr
  exact ⟨l, evidence, (h.life _) ▸ hl, hrest⟩

lemma Ticks.after {x : Logged JobError PublisherCall (γ × Database)} (hs : Still db mid)
    (h : Ticks H owns r mid x) : Ticks H owns r db x :=
  h.mono (fun _ => hs.published) fun _ _ => hs.advances

lemma ticks_pure {g : γ} {d : Database} (h : Advances H owns r.id db d) :
    Ticks H owns r db (pure (g, d) : Logged JobError PublisherCall (γ × Database)) :=
  ensures_pure h

lemma ticks_lift {x : Except JobError (γ × Database)}
    (h : ∀ out, x = .ok out → Advances H owns r.id db out.2) :
    Ticks H owns r db (.lift x : Logged JobError PublisherCall (γ × Database)) :=
  ensures_lift h

lemma ticks_bind {x : Except JobError α} {f : α → Logged JobError PublisherCall (γ × Database)}
    (h : ∀ a, x = .ok a → Ticks H owns r db (f a)) :
    Ticks H owns r db ((.lift x : Logged JobError PublisherCall α) >>= f) :=
  ensures_lift_bind h

lemma ticks_call {action : PublisherAction}
    {f : ActivationMarker → Logged JobError PublisherCall (γ × Database)}
    (ha : Published H db ⟨r, action⟩) (h : ∀ marker, Ticks H owns r db (f marker)) :
    Ticks H owns r db (callPublisher view r action >>= f) := by
  unfold callPublisher
  split
  · exact ensures_lift_bind fun a ha => (by cases ha)
  exact ensures_call_bind ha fun marker _ => h marker

lemma ticks_withdraw {f : ActivationMarker → Logged JobError PublisherCall (γ × Database)}
    (h : ∀ marker, Ticks H owns r db (f marker)) :
    Ticks H owns r db (withdraw view r plan reason >>= f) :=
  ticks_call (fun request hr => by cases hr) h

end Rules

section Phases

variable {db' : Database} {job : Job} {auto released : Bool}

lemma still_publicationOwner (db : Database) : Still db (publicationOwner db).2 := by
  exact ⟨rfl, rfl, rfl, rfl, rfl, rfl⟩

lemma still_ownsPublication (db : Database) (r : Reconciliation) (maySupersede : Bool) :
    Still db (ownsPublication db r maySupersede).2 := by
  rw [ownsPublication_db]
  exact still_publicationOwner db

variable {p : RoutePublication} {out : Bool × Database} {id : Uuid} {marker : ActivationMarker}
  {state : PublicationState}

lemma publication_of_ok (h : publicationOf db id = .ok p) : db.publications.get? id = some p := by
  unfold publicationOf at h
  split at h
  · next q hq =>
    cases h
    exact hq
  cases h

lemma storeMarker_tables (h : storeMarker db id marker state = .ok db') :
    ∃ publications, db' = { db with publications := publications } := by
  unfold storeMarker at h
  split at h
  · cases h
  cases h
  exact ⟨_, rfl⟩

lemma still_transferPublicationOwner (h : transferPublicationOwner db r = .ok db') :
    Still db db' := by
  unfold transferPublicationOwner at h
  have hs := still_publicationOwner db
  generalize publicationOwner db = out at h hs
  obtain ⟨owner, d⟩ := out
  simp only at h hs
  have hset : ∀ n, Still db (setOwner d r.id n) := fun n =>
    hs.trans ⟨rfl, rfl, rfl, rfl, rfl, rfl⟩
  split at h
  · cases h
    exact hs
  split at h
  · cases h
  split at h
  · cases h
    exact hset _
  split at h
  · cases h
  cases h
  exact hset _

section

variable (h : Context H db r job plan)

include h

lemma ticks_maintenanceWithdrawal (hphase : r.currentPhase = .withdrawalPending) :
    Ticks H owns r db (maintenanceWithdrawal view db r plan) := by
  have hs := still_ownsPublication db r true
  unfold maintenanceWithdrawal
  generalize ownsPublication db r true = out at hs ⊢
  obtain ⟨granted, d⟩ := out
  simp only at hs ⊢
  split
  · exact ticks_pure (h.idle hs)
  apply Ticks.after hs
  have h := h.still hs
  apply ticks_bind
  intro p hp
  apply ticks_withdraw
  intro marker
  apply ticks_bind
  intro e he
  have hse := still_transferPublicationOwner he
  apply ticks_bind
  intro f hf
  have h := h.still hse
  apply ticks_pure
  apply hse.advances
  have hpub : (e.publications.get? r.id).isSome = true := by
    rw [hse.publications, publication_of_ok hp]
    rfl
  obtain ⟨publications, rfl⟩ := storeMarker_tables hf
  refine h.advances (h.working.of_tables rfl rfl rfl) (f := fun l =>
    { l with phase := .routesWithdrawn, evidence := some marker.evidenceSetDigest }) ?_
    (.withdraw hphase) rfl
  intro k
  rw [lifeOf_setPhase, lifeOf_storeMarker hf hpub, map_write_map]

lemma advances_storeMarker_quiesce (hphase : ended r.currentPhase = false) {jobId : Uuid}
    {now : Time} (hpub : (db.publications.get? r.id).isSome = true)
    (hm : storeMarker db r.id marker state = .ok mid)
    (hq : quiesceForUnavailableTarget mid now r jobId plan reason = .ok db') :
    Advances H owns r.id db db' := by
  have hstored := lifeOf_storeMarker hm hpub
  obtain ⟨publications, rfl⟩ := storeMarker_tables hm
  obtain ⟨d, hd, hq⟩ := of_bind_ok hq
  have hw := h.working.publications publications
  obtain ⟨hf, hc⟩ := fences_quiesceBoth hw hd
  refine Advances.still ?_ (still_of_leases (leasesOnly_markReleasing hq))
  -- the marker is written first, and the fences do not look at it
  refine h.advancesRows (hf.working.waitForOperator _ _ _) (f := fun l =>
    { l with
      rows := fun g role => d.projections.get? (r.id, g, role)
      phase := .waitingForOperator
      status := .failed
      evidence := some marker.evidenceSetDigest }) ?_ ?_ hf.foreign
    (fun k p i hp hi => .inl (hf.hadOperation hp hi))
  · intro k
    rw [lifeOf_waitForOperator, hf.life, hstored, map_write_map, map_write_map]
  exact .fence (fun g role => (hf.rows (r.id, g, role)).imp_right And.right)
    (fun g role q hq => hc role g q hq) (.park hphase)

lemma ticks_loseAuthority (hphase : ended r.currentPhase = false) :
    Ticks H owns r db (loseAuthority view db r job plan reason) := by
  have hs : Still db (ownsPublication (publicationOwner db).2 r false).2 :=
    (still_publicationOwner db).trans (still_ownsPublication _ r false)
  unfold loseAuthority
  generalize publicationOwner db = out at hs ⊢
  obtain ⟨owner, d⟩ := out
  simp only at hs ⊢
  generalize ownsPublication d r false = out at hs ⊢
  obtain ⟨granted, e⟩ := out
  apply Ticks.after hs
  have h := h.still hs
  split
  · apply ticks_bind
    intro out hout
    have hsl := still_of_leases (leasesOnly_ensureLease hout)
    obtain ⟨leased, f⟩ := out
    apply Ticks.after hsl
    have h := h.still hsl
    split
    · exact ticks_pure (h.idle (.refl f))
    apply ticks_bind
    intro p hp
    apply ticks_withdraw
    intro marker
    apply ticks_bind
    intro g hg
    apply ticks_bind
    intro d' hd'
    apply ticks_pure
    refine advances_storeMarker_quiesce h hphase ?_ hg hd'
    rw [publication_of_ok hp]
    rfl
  apply ticks_bind
  intro f hf
  exact ticks_pure (advances_quiesceForUnavailableTarget h hphase hf)

lemma advances_startReconciliation (hphase : r.currentPhase = .planned)
    (hs : startReconciliation view db r job plan = .ok out) : Advances H owns r.id db out.2 := by
  unfold startReconciliation at hs
  split at hs
  · cases hs
  obtain ⟨⟨leased, d⟩, hd, hs⟩ := of_bind_ok hs
  have hlease : Still db d := by
    unfold startLease at hd
    split at hd
    · cases hd
      exact .refl db
    exact still_of_leases (leasesOnly_ensureLease hd)
  simp only at hs
  have h := h.still hlease
  split at hs
  · cases hs
    exact hlease.advances (h.idle (.refl d))
  split at hs
  · cases hs
  next publications hpub =>
  cases hs
  apply hlease.advances
  have hw := h.working.publications publications
  refine h.advances ((hw.setReconciliation _ _ _ _).setJob _ _ _ _) (f := fun l =>
    { l with phase := .withdrawalPending, status := .running, evidence := none }) ?_
    (.start hphase) rfl
  intro k
  rw [lifeOf_setJob, lifeOf_setReconciliation, lifeOf_insertPublication hpub rfl, map_write_map]

end

lemma nextCompletionGeneration_still {out : ℕ × Database}
    (h : nextCompletionGeneration db = .ok out) : Still db out.2 := by
  unfold nextCompletionGeneration at h
  split at h
  · cases h
    exact ⟨rfl, rfl, rfl, rfl, rfl, rfl⟩
  cases h

lemma recordCompletion_effect (hw : Working none db) (h : recordCompletion db r = .ok db') :
    Working none db' ∧ db'.projections = db.projections ∧
      ∀ k, lifeOf db' k = (lifeOf db k).map fun l =>
        if k = r.id then { l with phase := .completed, status := .succeeded } else l := by
  unfold recordCompletion at h
  split at h
  · cases h
    exact ⟨hw.setReconciliation _ _ _ _, rfl, lifeOf_setReconciliation _ _ _ _⟩
  obtain ⟨⟨generation, d⟩, hd, h⟩ := of_bind_ok h
  cases h
  have hs := nextCompletionGeneration_still hd
  refine ⟨(hs.working (hw.setReconciliation _ _ _ _)).of_tables rfl rfl rfl, hs.projections, ?_⟩
  intro k
  refine (@lifeOf_updateReconciliation d r.id
    (fun q => { q with completionGeneration := some generation }) (fun _ => rfl)
    (fun phase => phase) (fun status => status) (fun _ => ⟨rfl, rfl, rfl⟩) k).trans ?_
  rw [hs.life, lifeOf_setReconciliation, map_write_map]

section

variable (h : Context H db r job plan)

include h

section

variable (hphase : r.currentPhase = .publicationPending) (hcan : ¬ (lifeRow db r plan).applies)
  (hp : db.publications.get? r.id = some p)

include hphase hcan hp

/-- A request is built from accepted rows only. -/
theorem publishSound_of_request {request : RouteBundleRequest}
    (hr : publicationRequest view db r plan p = .ok request) : PublishSound H db r.id request := by
  have hevidence : p.evidenceDigest = some request.evidenceSetDigest := by
    unfold publicationRequest at hr
    split at hr
    · cases hr
    next evidence hev =>
    split at hr
    · cases hr
    obtain ⟨endpoints, -, hr⟩ := of_bind_ok hr
    cases hr
    exact hev
  have hpending := h.sound.pending hphase (fun hc => hcan (.inl hc)) (fun hc => hcan (.inr hc))
  have hstored : (lifeRow db r plan).evidence = some request.evidenceSetDigest := by
    simp only [lifeRow, hp, Option.bind_some, hevidence]
  rw [hstored] at hpending
  obtain ⟨evidence, hev, hdigest⟩ := Option.map_eq_some_iff.mp hpending.symm
  refine ⟨lifeRow db r plan, evidence, h.life, ?_, hev, hdigest.symm⟩
  intro n hn
  have hacc := h.sound.accepted (by
    rw [show (lifeRow db r plan).phase = .publicationPending from hphase]
    rfl) n hn
  cases hrow : (lifeRow db r plan).rows n.operationId .primary with
  | none =>
    simp only [Life.isAccepted, hrow] at hacc
    cases hacc
  | some q =>
    have hs : q.state = .accepted := by simpa [Life.isAccepted, hrow] using hacc
    exact ⟨q, rfl, hs, h.sound.digests _ q hrow hs⟩

lemma ticks_publishRoutes : Ticks H owns r db (publishRoutes view db r job plan p) := by
  apply ticks_bind
  intro request hrequest
  apply ticks_call
  · intro request' hr'
    cases hr'
    exact publishSound_of_request h hphase hcan hp hrequest
  intro marker
  apply ticks_bind
  intro d hd
  apply ticks_bind
  intro e he
  apply ticks_bind
  intro f hf
  apply ticks_pure
  have hmarker := lifeOf_storeMarker hd (by rw [hp]; rfl)
  obtain ⟨publications, rfl⟩ := storeMarker_tables hd
  have hw := h.working.publications publications
  refine Advances.still ?_ (still_of_leases (leasesOnly_markReleasing hf))
  obtain ⟨hwe, hproj, hdone⟩ := recordCompletion_effect hw he
  refine h.advances (hwe.setJob _ _ _ _) (f := fun l =>
    { l with
      phase := .completed
      status := .succeeded
      evidence := some marker.evidenceSetDigest }) ?_ (.publish hphase) hproj
  intro k
  rw [lifeOf_setJob, hdone, hmarker, map_write_map]

end

lemma ticks_renewLease (hphase : r.currentPhase = .completed)
    (hp : db.publications.get? r.id = some p) :
    Ticks H owns r db (renewLease view auto released db r job plan p) := by
  unfold renewLease
  split
  · exact ticks_pure (h.idle (.refl db))
  apply ticks_bind
  intro out hout
  have hs := still_of_leases (leasesOnly_ensureLease hout)
  obtain ⟨leased, d⟩ := out
  simp only at hs ⊢
  apply Ticks.after hs
  have h := h.still hs
  have hpub : (d.publications.get? r.id).isSome = true := by
    rw [hs.publications, hp]
    rfl
  split
  · exact ticks_pure (h.idle (.refl d))
  apply ticks_withdraw
  intro marker
  apply ticks_bind
  intro e he
  apply ticks_pure
  have hmarker := lifeOf_storeMarker he hpub
  obtain ⟨publications, rfl⟩ := storeMarker_tables he
  have hw := h.working.publications publications
  refine h.advances ((hw.setReconciliation _ _ _ _).setJob _ _ _ _) (f := fun l =>
    { l with
      phase := .accepting
      status := .running
      evidence := some marker.evidenceSetDigest }) ?_ (.renew hphase) rfl
  intro k
  rw [lifeOf_setJob, lifeOf_setReconciliation, hmarker, map_write_map]

lemma ticks_whileActive (hphase : ended r.currentPhase = false)
    {step : Logged JobError PublisherCall (Bool × Database)} (hstep : Ticks H owns r db step) :
    Ticks H owns r db (whileActive view db r job plan reason step) := by
  unfold whileActive
  split
  · exact hstep
  apply ticks_bind
  intro d hd
  exact ticks_pure (advances_quiesceForUnavailableTarget h hphase hd)

lemma advances_dispatch (hphase : r.currentPhase = .dispatching)
    (hd : dispatch view db r job plan = .ok out) : Advances H owns r.id db out.2 := by
  obtain ⟨⟨notify, d⟩, hd', hd⟩ := of_bind_ok hd
  cases hd
  exact advances_dispatchPrimary h hphase hd'

variable (hview : view.evidenceSetDigest = H) (hcan : ¬ (lifeRow db r plan).applies)

include hview hcan

lemma ticks_advancePhase (hp : db.publications.get? r.id = some p) :
    Ticks H owns r db (advancePhase view auto released db r job plan p) := by
  unfold advancePhase
  split
  · next hphase =>
    exact ticks_whileActive h (by rw [hphase]; rfl) (ticks_pure (advances_planProjections h hphase))
  · next hphase =>
    exact ticks_whileActive h (by rw [hphase]; rfl)
      (ticks_lift fun _ hd => advances_dispatch h hphase hd)
  · next hphase =>
    exact ticks_whileActive h (by rw [hphase]; rfl)
      (ticks_lift fun _ ha => advances_acceptEvidence h hview hphase (by rw [hp]; rfl) ha)
  · next hphase =>
    exact ticks_whileActive h (by rw [hphase]; rfl) (ticks_publishRoutes h hphase hcan hp)
  · next hphase => exact ticks_renewLease h hphase hp
  · next hphase =>
    exact ticks_whileActive h (by rw [hphase]; rfl)
      (ticks_lift fun _ hc => advances_compensate h hphase hc)
  exact ticks_lift fun _ he => (by cases he)

lemma ticks_tickOwner : Ticks H owns r db (tickOwner view auto released db r job plan) := by
  have hs := still_ownsPublication db r (r.currentPhase = .planned)
  unfold tickOwner
  generalize ownsPublication db r (r.currentPhase = .planned) = out at hs ⊢
  obtain ⟨granted, d⟩ := out
  simp only at hs ⊢
  apply Ticks.after hs
  have h := h.still hs
  split
  · exact ticks_pure (h.idle (.refl d))
  split
  · next hphase => exact ticks_lift fun _ hstart => advances_startReconciliation h hphase hstart
  apply ticks_bind
  intro p hp
  exact ticks_advancePhase h hview (by rw [hs.lifeRow]; exact hcan) (publication_of_ok hp)

end

lemma ended_eq_false {phase : ReconciliationPhase}
    (h : ¬ (phase = .failed ∨ phase = .cancelled ∨ phase = .waitingForOperator)) :
    ended phase = false := by
  cases phase <;> simp_all [ended]

lemma ticks_tickPhase (h : Context H db r job plan) (hview : view.evidenceSetDigest = H)
    (hcan : ¬ (lifeRow db r plan).applies) :
    Ticks H owns r db (tickPhase view auto released db r job plan) := by
  unfold tickPhase
  split
  · exact ticks_pure (h.idle (.refl db))
  next hphase =>
  have hended := ended_eq_false hphase
  apply ticks_bind
  intro out hout
  obtain ⟨swept, d⟩ := out
  rcases @advances_sweepExpiredMutations db d r plan job.id H owns job view.now h hended swept hout
    with ⟨rfl, rfl⟩ | ⟨rfl, hadv⟩
  · simp only [Bool.false_eq_true, if_false]
    have hs := still_publicationOwner d
    generalize publicationOwner d = out at hs ⊢
    obtain ⟨owner, e⟩ := out
    apply Ticks.after hs
    have h := h.still hs
    split
    · next hw => exact ticks_maintenanceWithdrawal h hw.1
    split
    · exact ticks_loseAuthority h hended
    split
    · next hw => exact ticks_maintenanceWithdrawal h hw
    exact ticks_tickOwner h hview (by rw [hs.lifeRow]; exact hcan)
  simp only [if_true]
  exact ticks_pure hadv

end Phases

end VonkForge.AgentReconciliation
