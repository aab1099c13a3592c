import VonkForge.ReconciliationTicks

/-!
# A cancellation as steps

A cancellation advances on its own row until it is applied to its reconciliation.
-/

namespace VonkForge.AgentReconciliation

open AgentJobs Logged

variable {mid d : Database} {H : EvidenceDigest} {now : Time} {id : Uuid}

section Filter

variable {α ε : Type} {f : α → Except ε Bool}

lemma filterAuxM_ok {l acc out : List α} (h : l.filterAuxM f acc = .ok out) :
    (∀ a ∈ acc, a ∈ out) ∧ ∀ a ∈ l, ∃ b, f a = .ok b ∧ (b = true → a ∈ out) := by
  induction l generalizing acc with
  | nil =>
    cases h
    exact ⟨fun a ha => ha, fun a ha => by cases ha⟩
  | cons x l ih =>
    obtain ⟨b, hb, h⟩ := of_bind_ok h
    obtain ⟨hacc, hl⟩ := ih h
    constructor
    · intro a ha
      cases b
      · exact hacc a ha
      exact hacc a (.tail _ ha)
    intro a ha
    rcases List.mem_cons.mp ha with rfl | ha
    · refine ⟨b, hb, ?_⟩
      rintro rfl
      exact hacc a List.mem_cons_self
    exact hl a ha

lemma filterM_nil {l : List α} (h : l.filterM f = .ok []) : ∀ a ∈ l, f a = .ok false := by
  obtain ⟨out, hout, h⟩ := of_bind_ok h
  have hnil : out = [] := by
    have : out.reverse = [] := Except.ok.inj h
    simpa using this
  subst hnil
  intro a ha
  obtain ⟨b, hb, hmem⟩ := (filterAuxM_ok hout).2 a ha
  cases b
  · exact hb
  cases hmem rfl

end Filter

section Apply

variable {owns : Bool} {db db' : Database} {r : Reconciliation} {job : Job} {plan : ResolvedPlan}
  {c : ReconciliationCancellation}

lemma Working.setCancellationState {skip : Option Uuid} (h : Working skip db) (id : Uuid)
    (state : CancellationState) : Working skip (setCancellationState db id state) :=
  h.of_tables rfl rfl rfl

lemma lifeRow_cancellation (hc : db.cancellations.get? r.id = some c) :
    (lifeRow db r plan).cancellation = some c.state := by
  simp only [lifeRow, hc, Option.map_some]

lemma applies_iff (hc : db.cancellations.get? r.id = some c) :
    (lifeRow db r plan).applies ↔ c.state = .withdrawn ∨ c.state = .processing := by
  unfold Life.applies
  rw [lifeRow_cancellation hc, Option.some_inj, Option.some_inj]

/-- A cancellation that is applied: work is fenced off, and one fencing move is made. -/
theorem Context.applied (h : Context H db r job plan) (hf : Fences r.id db mid)
    (hcl : ∀ role, Cleared r.id role mid) (hc : db.cancellations.get? r.id = some c)
    {written : Database} (hw : Working none written) {phase : ReconciliationPhase}
    {status : ReconciliationStatus} {state : CancellationState}
    (hlife : ∀ k, lifeOf written k = (lifeOf mid k).map fun l =>
      if k = r.id then { l with phase := phase, status := status } else l)
    (hmove : FenceMove owns (lifeRow db r plan) phase status (some state))
    (hproj : written.projections = mid.projections) :
    Advances H owns r.id db (setCancellationState written r.id state) := by
  have hlife' : ∀ k, lifeOf (setCancellationState written r.id state) k =
      (lifeOf mid k).map fun l => if k = r.id then
        { l with
          phase := phase
          status := status
          cancellation := l.cancellation.map fun _ => state } else l := by
    intro k
    rw [lifeOf_setCancellationState, hlife, map_write_map]
  refine h.fenced hf hcl (hw.setCancellationState _ _) hlife' ?_ hmove hproj
  intro rows
  simp only [lifeRow_cancellation hc, Option.map_some]

/-- No accepted row is a mutation: there is nothing to compensate. -/
theorem not_accepted_of_mutated (h : Context H db r job plan) (hf : Fences r.id db mid)
    (hm : (projectionsOf mid r.id [.primary]).filterM (fun p =>
      if p.state = .accepted then mutationProjection plan p else .ok false) = .ok []) :
    ∀ n ∈ plan.nodes, mutation n.kind = true →
      (lifeRow db r plan).isAccepted n.operationId = false := by
  intro n hn hmut
  by_contra hacc
  simp only [Life.isAccepted, lifeRow, Bool.not_eq_false] at hacc
  cases hget : db.projections.get? (r.id, n.operationId, .primary) with
  | none =>
    rw [hget] at hacc
    cases hacc
  | some p =>
    rw [hget] at hacc
    have hstate : p.state = .accepted := by simpa using hacc
    -- an accepted projection is not fenced
    have hmid : mid.projections.get? (r.id, n.operationId, .primary) = some p := by
      obtain ⟨q, hq, -, rfl | hfenced⟩ := hf.row hget
      · exact hq
      exfalso
      rcases hfenced.pending with hp | hp | hp | hp <;> rw [hstate] at hp <;> cases hp
    obtain ⟨hp, hg⟩ := row_of_get? hmid
    have hrejected := filterM_nil hm p hp
    rw [if_pos hstate] at hrejected
    obtain ⟨node, hnode, hkind⟩ := of_bind_ok hrejected
    obtain ⟨hmem, hid⟩ := graphNode_eq_ok hnode
    obtain rfl : node = n :=
      List.inj_on_of_nodup_map (orderedNodes_nodup (orderedNodes_of_validPlan h.sound.plan)) hmem hn
        (hid.trans hg)
    rw [hmut] at hkind
    cases hkind

variable (h : Context H db r job plan) (hc : db.cancellations.get? r.id = some c)
  (hs : c.state = .withdrawn ∨ c.state = .processing)

include h hc hs

lemma advances_cancelWaiting (hf : Fences r.id db mid) (hcl : ∀ role, Cleared r.id role mid)
    (reason : String) :
    Advances H owns r.id db (cancelWaiting mid now r job reason) :=
  h.applied hf hcl hc (hf.working.waitForOperator _ _ _)
    (fun k => lifeOf_waitForOperator _ _ _ _ k) (.cancelPark ((applies_iff hc).mpr hs)) rfl

lemma advances_finishCancelled (hf : Fences r.id db mid) (hcl : ∀ role, Cleared r.id role mid)
    (hphase : owns = true → r.currentPhase ≠ .waitingForOperator)
    (hsafe : owns = true → ∀ n ∈ plan.nodes, mutation n.kind = true →
      (lifeRow db r plan).isAccepted n.operationId = false) (reason : String) :
    Advances H owns r.id db (finishCancelled mid now r job c reason) := by
  refine h.applied hf hcl hc ((hf.working.setReconciliation _ _ _ _).setJob _ _ _ _) ?_
    (.cancelDone ((applies_iff hc).mpr hs) hphase hsafe) rfl
  intro k
  rw [lifeOf_setJob, lifeOf_setReconciliation]

lemma advances_cancelHistorical (ha : cancelHistorical db now r job plan c = .ok db') :
    Advances H false r.id db db' := by
  obtain ⟨⟨uncertain, d⟩, hd, ha⟩ := of_bind_ok ha
  obtain ⟨hf, hcl⟩ := fences_quiesceRoles h.working hd
  simp only at ha
  split at ha
  · cases ha
    exact advances_cancelWaiting h hc hs hf hcl _
  cases ha
  exact advances_finishCancelled h hc hs hf hcl (fun ho => by cases ho) (fun ho => by cases ho) _

lemma advances_cancelOwner (hphase : r.currentPhase ≠ .waitingForOperator)
    (ha : cancelOwner db now r job plan c = .ok db') : Advances H owns r.id db db' := by
  obtain ⟨unsafePrimary, -, ⟨uncertain, d⟩, hd, ha⟩ := of_bind_ok₂ ha
  obtain ⟨mutated, hmut, compensatable, -, ha⟩ := of_bind_ok₂ ha
  obtain ⟨hf, hcl⟩ := fences_quiesceRoles h.working hd
  split at ha
  · cases ha
    exact advances_cancelWaiting h hc hs hf hcl _
  split at ha
  · cases ha
    refine h.applied hf hcl hc ((hf.working.setReconciliation _ _ _ _).setJob _ _ _ _) ?_
      (.cancelCompensate ((applies_iff hc).mpr hs) hphase) rfl
    intro k
    rw [lifeOf_setJob, lifeOf_setReconciliation]
  split at ha
  · cases ha
    exact advances_cancelWaiting h hc hs hf hcl _
  next hnil =>
  cases ha
  obtain rfl : mutated = [] := not_not.mp hnil
  exact advances_finishCancelled h hc hs hf hcl (fun _ => hphase)
    (fun _ => not_accepted_of_mutated h hf hmut) _

/-- Applied by the owner of the publication or for another one, it is one step. -/
theorem advances_applyCancellation (ha : applyCancellation db now r job plan c = .ok db') :
    Advances H (ownsPublication db r false).1 r.id db db' := by
  have hst := still_ownsPublication db r false
  unfold applyCancellation at ha
  generalize ownsPublication db r false = out at ha hst ⊢
  obtain ⟨granted, d⟩ := out
  simp only at ha hst ⊢
  apply hst.advances
  have h := h.still hst
  rw [← hst.cancellations] at hc
  split at ha
  · next hgranted =>
    rw [hgranted]
    exact advances_cancelHistorical h hc hs ha
  split at ha
  · next hphase =>
    obtain ⟨⟨uncertain, e⟩, he, ha⟩ := of_bind_ok ha
    cases ha
    obtain ⟨hf, hcl⟩ := fences_quiesceRoles h.working he
    refine h.fenced hf hcl (hf.working.setCancellationState _ _)
      (fun k => lifeOf_setCancellationState _ _ k) ?_
      (.cancelParked ((applies_iff hc).mpr hs) hphase) rfl
    intro rows
    simp only [lifeRow_cancellation hc, Option.map_some]
    simp only [lifeRow, hphase]
  next hphase => exact advances_cancelOwner h hc hs hphase ha

end Apply

section Advance

variable {owns : Bool} {db db' : Database} {r : Reconciliation} {job : Job} {plan : ResolvedPlan}
  {c : ReconciliationCancellation} {view : TickView} {auto : Bool}

/-- A cancellation that leaves the tick to the phase moves no life; otherwise it is the step. -/
def Answers (H : List (GraphId × Digest × Digest) → Digest) (owns : Bool) (r : Reconciliation)
    (plan : ResolvedPlan) (db : Database) (out : Option Bool × Database) : Prop :=
  (out.1 = none → Still db out.2 ∧ ¬ (lifeRow db r plan).applies) ∧
    (out.1 ≠ none → Advances H owns r.id db out.2)

lemma answers_some {b : Bool} (h : Advances H owns r.id db d) :
    Answers H owns r plan db (some b, d) :=
  ⟨fun hn => (by cases hn), fun _ => h⟩

lemma answers_none (h : Still db d) (ha : ¬ (lifeRow db r plan).applies) :
    Answers H owns r plan db (none, d) :=
  ⟨fun _ => ⟨h, ha⟩, fun hn => absurd rfl hn⟩

lemma leases_cancellationLease {out : Bool × Database}
    (h : cancellationLease view db r c = .ok out) :
    Still db out.2 ∧ (c.state = .withdrawn ∨ c.state = .processing → out.2 = db) := by
  unfold cancellationLease at h
  split at h
  · next hs =>
    have hst := still_ownsPublication db r false
    generalize ownsPublication db r false = owned at h hst
    obtain ⟨granted, d⟩ := owned
    simp only at h hst
    refine ⟨?_, fun hw => ?_⟩
    · split at h
      · exact hst.trans (still_of_leases (leasesOnly_ensureLease h))
      cases h
      exact hst
    rcases hw with hw | hw <;> rw [hw] at hs <;> simp at hs
  cases h
  exact ⟨.refl db, fun _ => rfl⟩

lemma still_markCancelled (h : markCancelled db now r = .ok db') : Still db db' := by
  unfold markCancelled at h
  split at h
  · exact still_of_leases (leasesOnly_markReleasing h)
  cases h
  exact .refl db

section

variable (h : Context H db r job plan)

include h

/-- The cancellation advances on its own row. -/
theorem Context.cancellation (hst : Still db mid) (hc : db.cancellations.get? r.id = some c)
    {state : CancellationState} (hadv : CancellationAdvances (lifeRow db r plan) state) :
    Advances H owns r.id db (setCancellationState mid r.id state) := by
  apply hst.advances
  have h := h.still hst
  rw [← hst.cancellations] at hc
  rw [← hst.lifeRow] at hadv
  refine h.advances (h.working.setCancellationState _ _)
    (fun k => lifeOf_setCancellationState _ _ k) ?_ rfl
  rw [lifeRow_cancellation hc]
  exact .advance hadv

lemma ticks_cancelWithdrawal (hc : db.cancellations.get? r.id = some c)
    (hs : c.state = .withdrawalPending) :
    Ensures (Published H db) (fun _ out => Answers H owns r plan db out)
      (cancelWithdrawal view db r plan) := by
  unfold cancelWithdrawal
  split
  · exact ensures_lift fun _ he => (by cases he)
  apply ensures_lift_bind
  intro p hp
  have hpub : (db.publications.get? r.id).isSome = true := by
    rw [publication_of_ok hp]
    rfl
  unfold withdraw callPublisher
  split
  · exact ensures_lift_bind fun _ he => (by cases he)
  apply ensures_call_bind
  · intro request hr
    cases hr
  intro marker _
  apply ensures_lift_bind
  intro d hd
  apply ensures_pure
  apply answers_some
  have hmarker := lifeOf_storeMarker hd hpub
  obtain ⟨publications, rfl⟩ := storeMarker_tables hd
  have hw := h.working.publications publications
  refine h.advances (hw.setCancellationState _ _) (f := fun l =>
    { l with
      cancellation := l.cancellation.map fun _ => .withdrawn
      evidence := some marker.evidenceSetDigest }) ?_ ?_ rfl
  · intro k
    rw [lifeOf_setCancellationState, hmarker, map_write_map]
  rw [lifeRow_cancellation hc]
  exact .cancelWithdraw (by rw [lifeRow_cancellation hc, hs])

lemma ticks_advanceCancellation (hc : db.cancellations.get? r.id = some c)
    (howns : c.state = .withdrawn ∨ c.state = .processing → (ownsPublication db r false).1 = owns) :
    Ensures (Published H db) (fun _ out => Answers H owns r plan db out)
      (advanceCancellation view db r job plan c) := by
  have hadv : ∀ {state}, CancellationAdvances (lifeRow db r plan) state ↔ _ :=
    fun {state} => by rw [CancellationAdvances, lifeRow_cancellation hc]
  have hno : c.state ≠ .withdrawn → c.state ≠ .processing → ¬ (lifeRow db r plan).applies :=
    fun hw hp ha => ((applies_iff hc).mp ha).elim hw hp
  have hst := still_ownsPublication db r false
  unfold advanceCancellation
  split
  · next hs =>
    generalize ownsPublication db r false = out at hst ⊢
    obtain ⟨granted, d⟩ := out
    simp only at hst ⊢
    split
    · exact ensures_pure (answers_some (h.idle hst))
    split
    · exact ensures_pure (answers_some (h.cancellation hst hc (hadv.mpr (by
        rw [hs]
        exact .inl rfl))))
    exact ensures_pure (answers_some (h.cancellation hst hc (hadv.mpr (by
      rw [hs]
      exact .inr rfl))))
  · next hs =>
    generalize ownsPublication db r false = out at hst ⊢
    obtain ⟨granted, d⟩ := out
    simp only at hst ⊢
    split
    · have hw := @ticks_cancelWithdrawal H owns d r job plan c view (h.still hst)
        (hst.cancellations ▸ hc) hs
      refine hw.mono (fun _ => hst.published) ?_
      intro _ out ha
      exact ⟨fun hn => ⟨hst.trans (ha.1 hn).1, hst.lifeRow r plan ▸ (ha.1 hn).2⟩,
        fun hn => hst.advances (ha.2 hn)⟩
    split
    · exact ensures_pure (answers_some (h.idle hst))
    exact ensures_pure (answers_some (h.cancellation hst hc (hadv.mpr (by rw [hs]))))
  · next hs =>
    apply ensures_lift_bind
    intro d hd
    apply ensures_pure
    apply answers_some
    rw [← howns (.inl hs)]
    exact advances_applyCancellation h hc (.inl hs) hd
  · next hs =>
    apply ensures_lift_bind
    intro d hd
    apply ensures_pure
    apply answers_some
    rw [← howns (.inr hs)]
    exact advances_applyCancellation h hc (.inr hs) hd
  · next hs =>
    split
    · next hphase =>
      exact ensures_pure (answers_some (h.cancellation (.refl db) hc (hadv.mpr (by
        rw [hs]
        exact .inl ⟨hphase, rfl⟩))))
    · next hphase =>
      exact ensures_pure (answers_some (h.cancellation (.refl db) hc (hadv.mpr (by
        rw [hs]
        exact .inr ⟨hphase, rfl⟩))))
    exact ensures_pure (answers_none (.refl db) (hno (by simp [hs]) (by simp [hs])))
  all_goals next hs => exact ensures_pure (answers_none (.refl db) (hno (by simp [hs]) (by simp [hs])))

lemma ticks_tickCancellation
    (howns : (lifeRow db r plan).applies → (ownsPublication db r false).1 = owns) :
    Ensures (Published H db) (fun _ out => Answers H owns r plan db out)
      (tickCancellation view db r job plan) := by
  unfold tickCancellation
  split
  · next hnone =>
    refine ensures_pure (answers_none (.refl db) ?_)
    simp [Life.applies, lifeRow, hnone]
  next c hc =>
  apply ensures_lift_bind
  intro out hout
  obtain ⟨hst, hsame⟩ := leases_cancellationLease hout
  obtain ⟨leased, d⟩ := out
  simp only at hst hsame ⊢
  split
  · exact ensures_pure (answers_some (h.idle hst))
  have hd := h.still hst
  have hcd : d.cancellations.get? r.id = some c := hst.cancellations ▸ hc
  have hadvance := @ticks_advanceCancellation H owns d r job plan c view hd hcd (by
    intro hs
    rw [hsame hs]
    exact howns ((applies_iff hc).mpr hs))
  refine Ensures.bind (hadvance.mono (fun _ => hst.published) fun _ _ ha => ha) ?_
  rintro l ⟨answer, e⟩ ha
  cases answer with
  | none =>
    obtain ⟨hse, hno⟩ := ha.1 rfl
    exact ensures_pure (answers_none (hst.trans hse) (hst.lifeRow r plan ▸ hno))
  | some b =>
    apply ensures_lift_bind
    intro f hf
    have hadv := ha.2 (by simp)
    exact ensures_pure (answers_some (hst.advances (hadv.still (still_markCancelled hf))))

end

lemma ownsPublication_fst (db : Database) (r : Reconciliation) :
    (ownsPublication db r false).1 =
      (decide ((publicationOwner db).1.reconciliationId = some r.id) &&
        decide (pendingPublicationHandoff (publicationOwner db).2 = none ∨
          pendingPublicationHandoff (publicationOwner db).2 = some r.id)) := by
  unfold ownsPublication
  simp only
  by_cases ho : (publicationOwner db).1.reconciliationId = some r.id
  · simp [ho]
  rw [if_neg ho, decide_eq_false ho, Bool.false_and]
  repeat' split
  all_goals first
    | rfl
    | simp_all

lemma ownsPublication_of_leases (h : LeaseHandoff.LeasesOnly db db') :
    (ownsPublication db' r false).1 = (ownsPublication db r false).1 := by
  rw [ownsPublication_fst, ownsPublication_fst]
  obtain ⟨leases, rfl⟩ := h
  rfl

/-- Whether the reconciliation owns the publication when the tick begins. -/
def ownsNow (db : Database) (id : Uuid) : Bool :=
  (db.reconciliations.get? id).any fun r => (ownsPublication db r false).1

lemma lockedContext_eq_ok (hl : lockedContext db id = .ok (r, job, plan)) :
    r.id = id ∧ db.reconciliations.get? r.id = some r ∧ r.plan = some plan ∧
      db.jobs.get? job.id = some job ∧ job.reconciliationId = some r.id := by
  unfold lockedContext at hl
  split at hl
  · cases hl
  next q hq =>
  obtain ⟨plan', hplan, hl⟩ := of_bind_ok hl
  split at hl
  · cases hl
  next j hj =>
  cases hl
  have hid : r.id = id := Table.get?_key hq
  have hmem := List.mem_of_head? hj
  rw [Table.mem_select] at hmem
  subst hid
  refine ⟨rfl, hq, ?_, Table.get?_of_mem hmem.1, by simpa using hmem.2⟩
  unfold planOf at hplan
  split at hplan
  · next p hp =>
    cases hplan
    exact hp
  cases hplan

/-- A tick is one step of the life of its reconciliation. -/
theorem ticks_tickCandidate (hw : Working none db) (hsound : ∀ l, lifeOf db id = some l → Sound H l)
    (hview : view.evidenceSetDigest = H) :
    Ensures (Published H db) (fun _ out => Advances H (ownsNow db id) id db out.2)
      (tickCandidate view auto db id) := by
  apply ensures_lift_bind
  rintro ⟨r, job, plan⟩ hlocked
  obtain ⟨rfl, hrow, hplan, hjob, hparent⟩ := lockedContext_eq_ok hlocked
  have h : Context H db r job plan :=
    ⟨hw, hrow, hplan, hjob, hparent, hsound _ (lifeOf_row hrow hplan)⟩
  have hnow : ownsNow db r.id = (ownsPublication db r false).1 := by simp [ownsNow, hrow]
  apply ensures_lift_bind
  rintro ⟨⟨released, answer⟩, d⟩ hsettle
  have hleases := leasesOnly_settleLeases hsettle
  have hst := still_of_leases hleases
  have hd := h.still hst
  cases answer with
  | some b => exact ensures_pure (h.idle hst)
  | none =>
    have hcancel := @ticks_tickCancellation H (ownsNow db r.id) d r job plan view hd (by
      intro _
      rw [hnow]
      exact ownsPublication_of_leases hleases)
    refine Ensures.bind (hcancel.mono (fun _ => hst.published) fun _ _ ha => ha) ?_
    rintro l ⟨answer, e⟩ ha
    cases answer with
    | some b => exact ensures_pure (hst.advances (ha.2 (by simp)))
    | none =>
      obtain ⟨hse, hno⟩ := ha.1 rfl
      have hphase := @ticks_tickPhase (ownsNow db r.id) e H r plan view job auto released
        (hd.still hse) hview (by rw [hse.lifeRow]; exact hno)
      exact hphase.after (hst.trans hse)

end Advance

end VonkForge.AgentReconciliation
