import VonkForge.RolloutMoves
import VonkForge.WorkerFairness

/-!
# A rollout that its preflight stopped

The worker passes over a paused rollout unless the routes of its batch are withdrawn.
-/

namespace VonkForge.Updates

open AgentJobs Table

variable {answer : RenewalAnswer} {f : RouteFence} {s s' : System}
  {r : System × Except JobError Unit} {u u' : UpdateRollout} {id : Uuid} {key : Uuid × ℕ}

/-- The routes of a batch are withdrawn only while the batch is in work, or after one of its nodes
left `pending`. -/
structure RecordsAgree (s : System) : Prop where
  later : ∀ u, s.db.rollouts.get? u.id = some u → ∀ b, u.currentBatch < b →
    s.fence.records.get? (u.id, b) = none
  quiet : ∀ u, s.db.rollouts.get? u.id = some u → u.state ∈ [RolloutState.planned, .paused] →
    ¬ Stopped s.db u → Inactive s.fence (u.id, u.currentBatch)
  waiting : ∀ u, s.db.rollouts.get? u.id = some u → u.state = .waitingForApproval →
    Inactive s.fence (u.id, u.currentBatch)
  compensating : ∀ u, s.db.rollouts.get? u.id = some u → u.state = .compensatingWithdrawal →
    Stopped s.db u
  known : ∀ k r, s.fence.records.get? k = some r → (s.db.rollouts.get? k.1).isSome

section Agree

variable {db db' : Database} {view : TickView} {f' : RouteFence} {issuer : GrantIssuer}
  {reason : String} {plan : UpdatePlan} {jobId : Uuid} {grant : Option AdminGrant}

lemma Inactive.of_eq (h : Inactive f key) (heq : f'.records.get? key = f.records.get? key) :
    Inactive f' key := by
  intro r hr
  rw [heq] at hr
  exact h r hr

lemma Inactive.of_none (h : f.records.get? key = none) : Inactive f key := by
  intro r hr
  rw [h] at hr
  cases hr

lemma stopped_congr (h : OthersKept id db db') (hne : u.id ≠ id) :
    Stopped db' u ↔ Stopped db u := by
  unfold Stopped
  simp only [h.nodes u.id _ hne]

lemma renewActive_cases {r : Except JobError RenewalStatus}
    (h : renewActive f key answer = (f', r)) :
    f' = f ∨ f' = setRecord f key .superseded ∧ ∃ e, r = .error e := by
  cases answer with
  | done =>
    cases h
    exact .inl rfl
  | failed e superseded =>
    cases superseded with
    | false =>
      cases h
      exact .inl rfl
    | true =>
      cases h
      exact .inr ⟨rfl, e, rfl⟩

lemma renewIfActive_cases {r : Except JobError RenewalStatus}
    (h : renewIfActive f key answer = (f', r)) :
    f' = f ∨ f' = setRecord f key .superseded ∧ ¬ Inactive f key ∧ ∃ e, r = .error e := by
  unfold renewIfActive at h
  split at h
  · split at h <;> cases h <;> exact .inl rfl
  next record hrecord =>
  split at h
  · cases h
    exact .inl rfl
  split at h
  · cases h
    exact .inl rfl
  split at h
  · cases h
    exact .inl rfl
  · cases h
    exact .inl rfl
  next hrestored _ =>
  split at h
  · rcases renewActive_cases h with hsame | ⟨hset, hraised⟩
    · exact .inl hsame
    exact .inr ⟨hset, fun hinactive => hrestored (hinactive record hrecord), hraised⟩
  cases h
  exact .inl rfl

lemma stopped_iff : Stopped db u ↔ ∃ n ∈ batchRows db u, n.state ≠ .pending := by
  constructor
  · rintro ⟨n, r, hr, hbatch, hstate⟩
    refine ⟨r, mem_batchRows.mpr ⟨mem_of_get? hr, ?_, hbatch⟩, hstate⟩
    exact congrArg Prod.fst (get?_key hr)
  rintro ⟨n, hn, hstate⟩
  obtain ⟨hrow, hid, hbatch⟩ := mem_batchRows.mp hn
  refine ⟨n.nodeId, n, ?_, hbatch, hstate⟩
  have hget := get?_of_mem hrow
  rw [key_rolloutNode, hid] at hget
  exact hget

lemma refresh_eq_ok {now : Time} {batch : ℕ} {targets : List NodeId}
    (hu : db.rollouts.get? id = some u)
    (h : refreshUpdateGrant issuer now db id batch targets = .ok db') :
    ¬ Stopped db u ∧ (db' = db ∨ ∃ grant : AdminGrant, db' = setRollout db id fun r =>
      { r with updateAdminGrant := some grant }) := by
  unfold refreshUpdateGrant at h
  split_ifs at h
  rw [hu] at h
  simp only at h
  split at h
  · cases h
  split_ifs at h with hstate hnodes hreuse
  all_goals rw [stopped_iff]
  · cases h
    exact ⟨fun hstopped => hnodes (.inr hstopped), .inl rfl⟩
  obtain ⟨grant, -, h⟩ := of_bind_ok h
  cases h
  exact ⟨fun hstopped => hnodes (.inr hstopped), .inr ⟨grant, rfl⟩⟩

lemma callOrchestrator_advance (h : u.state ≠ .paused) :
    callOrchestrator view s u = advance (view.call u.id) s u.id := by
  unfold callOrchestrator
  exact if_neg fun hpaused => h hpaused.1

lemma callOrchestrator_moves {A : SignerRequest → Prop} (hu : s.db.rollouts.get? u.id = some u')
    (hid : u'.id = u.id)
    (hasks : ∀ op r, Asks (view.call u'.id).toReserveView u' op r → A r) :
    CallMoves A s (callOrchestrator view s u).1 u' := by
  unfold callOrchestrator
  rw [← hid] at hu ⊢
  split_ifs
  · exact moves_beginRollback hu (hasks .agentRollback)
  exact moves_advance hu (hasks .agentUpdate)

lemma approved_row {view : RolloutView}
    (h : adminApproveResume view issuer db id reason = .ok db') :
    ∃ u, u.id = id ∧ db.rollouts.get? u.id = some u := by
  cases hu : db.rollouts.get? id with
  | none =>
    unfold adminApproveResume at h
    rw [hu] at h
    cases h
  | some u =>
    obtain rfl : u.id = id := get?_key hu
    exact ⟨u, rfl, hu⟩

lemma approve_cases {view : RolloutView} (hu : db.rollouts.get? u.id = some u)
    (h : adminApproveResume view issuer db u.id reason = .ok db') :
    (u.state = .paused ∧ ∃ jobId nodes grant, u.jobId = some jobId ∧
        rollbackGrantFactory issuer view.now u.id jobId nodes = .ok grant ∧
        db' = setRollout db u.id fun r => { r with rollbackAdminGrant := some grant }) ∨
      u.state = .waitingForApproval ∧ ∃ u', Writes (fun _ => False) db db' u u' ∧
        u'.state = .planned ∧ u'.currentBatch = u.currentBatch := by
  unfold adminApproveResume at h
  rw [hu] at h
  simp only at h
  split at h
  · next hpaused =>
    obtain ⟨⟨u', failed⟩, hcandidates, h⟩ := of_bind_ok h
    obtain ⟨rfl, -⟩ := pausedCandidates_ok hu hcandidates
    simp only at h
    split at h
    · cases h
    next jobId hjob =>
    obtain ⟨grant, hgrant, h⟩ := of_bind_ok h
    cases h
    exact .inl ⟨hpaused, jobId, _, grant, hjob, hgrant, rfl⟩
  · next hwaiting =>
    unfold approveResume at h
    split_ifs at h
    obtain ⟨u', hu', h⟩ := of_bind_ok h
    obtain rfl := eq_of_rolloutOf hu hu'
    split_ifs at h
    obtain ⟨nodes, hnodes, h⟩ := of_bind_ok h
    split_ifs at h
    obtain ⟨projected, hproject, h⟩ := of_bind_ok h
    cases h
    exact .inr ⟨hwaiting, _, (((Writes.refl hu).setRollout _ _ fun _ => by rfl).rowsKept
      (rowsKept_projectJob hproject)).setNodes (rolloutId_of_batch hnodes) _ _, rfl, rfl⟩
  cases h

lemma approve_others {view : RolloutView} (hu : db.rollouts.get? u.id = some u)
    (h : adminApproveResume view issuer db u.id reason = .ok db') : OthersKept u.id db db' := by
  rcases approve_cases hu h with ⟨-, -, -, grant, -, -, rfl⟩ | ⟨-, u', hwrites, -⟩
  · exact .setRollout _ _
  exact hwrites.others

lemma rolloutId_of_plannedRows {d : Digests} {n : UpdateRolloutNode}
    (hn : n ∈ plannedRows d id u) : n.rolloutId = id := by
  unfold plannedRows at hn
  rw [List.mem_append, List.mem_flatMap, List.mem_map] at hn
  rcases hn with ⟨b, -, hn⟩ | ⟨m, -, rfl⟩
  · obtain ⟨m, -, rfl⟩ := List.mem_map.mp hn
    rfl
  rfl

lemma create_cases {view : RolloutView} (h : create view db plan id jobId grant = .ok db') :
    db' = db ∨ db.rollouts.get? id = none ∧ OthersKept id db db' ∧ db'.intents = db.intents ∧
      db'.rollouts.get? id = some { plan with
        id := id, jobId := some jobId, updateAdminGrant := grant, createdAt := view.now } := by
  unfold create at h
  split_ifs at h
  · cases h
    exact .inl rfl
  right
  simp only at h
  split at h
  · next rollouts jobs hrollouts hjobs =>
    cases h
    refine ⟨(insert_eq_some.mp hrollouts).1, ⟨?_, ?_⟩, rfl,
      (get?_insert hrollouts id).trans (if_pos rfl)⟩
    · intro k hk
      exact (get?_insert hrollouts k).trans (if_neg hk)
    intro k n hk
    rw [get?_insertAllIgnore, List.find?_eq_none.mpr, Option.or_none]
    intro r hr hkey
    rw [decide_eq_true_eq] at hkey
    exact hk ((congrArg Prod.fst hkey).symm.trans (rolloutId_of_plannedRows hr))
  cases h

section

variable (h : RecordsAgree s)

include h

lemma RecordsAgree.of_others (hothers : OthersKept id s.db s'.db)
    (hrecords : ∀ k, k.1 ≠ id → s'.fence.records.get? k = s.fence.records.get? k)
    (hown : ∀ u, u.id = id → s'.db.rollouts.get? id = some u →
      (∀ b, u.currentBatch < b → s'.fence.records.get? (id, b) = none) ∧
      (u.state ∈ [RolloutState.planned, .paused] → ¬ Stopped s'.db u →
        Inactive s'.fence (id, u.currentBatch)) ∧
      (u.state = .waitingForApproval → Inactive s'.fence (id, u.currentBatch)) ∧
      (u.state = .compensatingWithdrawal → Stopped s'.db u))
    (hsome : (s'.db.rollouts.get? id).isSome) : RecordsAgree s' := by
  have hget {u : UpdateRollout} (hid : u.id ≠ id) (hu : s'.db.rollouts.get? u.id = some u) :
      s.db.rollouts.get? u.id = some u := by
    rw [← hothers.rollouts u.id hid]
    exact hu
  refine ⟨?_, ?_, ?_, ?_, ?_⟩
  · intro u hu b hb
    by_cases hid : u.id = id
    · rw [hid] at hu ⊢
      exact (hown u hid hu).1 b hb
    rw [hrecords _ hid]
    exact h.later u (hget hid hu) b hb
  · intro u hu hstate hstopped
    by_cases hid : u.id = id
    · rw [hid] at hu ⊢
      exact (hown u hid hu).2.1 hstate hstopped
    rw [stopped_congr hothers hid] at hstopped
    exact (h.quiet u (hget hid hu) hstate hstopped).of_eq (hrecords _ hid)
  · intro u hu hstate
    by_cases hid : u.id = id
    · rw [hid] at hu ⊢
      exact (hown u hid hu).2.2.1 hstate
    exact (h.waiting u (hget hid hu) hstate).of_eq (hrecords _ hid)
  · intro u hu hstate
    by_cases hid : u.id = id
    · rw [hid] at hu
      exact (hown u hid hu).2.2.2 hstate
    rw [stopped_congr hothers hid]
    exact h.compensating u (hget hid hu) hstate
  intro k r hr
  by_cases hid : k.1 = id
  · rw [hid]
    exact hsome
  rw [hothers.rollouts k.1 hid]
  rw [hrecords k hid] at hr
  exact h.known k r hr

lemma RecordsAgree.setGrant (hu : s.db.rollouts.get? u.id = some u)
    (f : UpdateRollout → UpdateRollout) (hf : ∀ u, (f u).id = u.id)
    (hkept : (f u).state = u.state ∧ (f u).currentBatch = u.currentBatch) :
    RecordsAgree { s with db := setRollout s.db u.id f hf } := by
  have hrow := get?_setRollout_self hu f hf
  refine h.of_others (.setRollout f hf) (fun _ _ => rfl) ?_ (by rw [hrow]; rfl)
  intro v _ hv
  obtain rfl : f u = v := Option.mem_unique hrow hv
  rw [hkept.1, hkept.2]
  have hstopped : Stopped (setRollout s.db u.id f hf) (f u) ↔ Stopped s.db u :=
    ⟨fun hs => hs.kept (.of_eq rfl) (hf u).symm hkept.2.symm,
      fun hs => hs.kept (.of_eq rfl) (hf u) hkept.2⟩
  exact ⟨h.later u hu, fun hstate hnot => h.quiet u hu hstate fun hs => hnot (hstopped.mpr hs),
    h.waiting u hu, fun hstate => hstopped.mpr (h.compensating u hu hstate)⟩

lemma RecordsAgree.call {A : SignerRequest → Prop} (hu : s.db.rollouts.get? u.id = some u)
    (hcall : CallMoves A s s' u) :
    RecordsAgree s' := by
  obtain ⟨⟨u', hwrites, hmove⟩, hrecords⟩ := hcall
  have hid : u'.id = u.id := get?_key hwrites.own
  have hstopped (hkept : StatesKept u.id s.db s'.db) (hbatch : u'.currentBatch = u.currentBatch)
      (hbefore : Stopped s.db u) : Stopped s'.db u' := hbefore.kept hkept hid hbatch
  have hlater : ∀ b, u.currentBatch < b → s'.fence.records.get? (u.id, b) = none := by
    intro b hb
    rw [hrecords (u.id, b) (fun heq => (Nat.ne_of_gt hb) (congrArg Prod.snd heq))]
    exact h.later u hu b hb
  refine h.of_others hwrites.others
    (fun k hk => hrecords k (fun heq => hk (congrArg Prod.fst heq))) ?_ (by rw [hwrites.own]; rfl)
  intro v hvid hv
  obtain rfl : u' = v := Option.mem_unique hwrites.own hv
  cases hmove with
  | busy hstate hbatch =>
    rw [hbatch]
    simp only [restStates, List.mem_cons, List.not_mem_nil, or_false, not_or] at hstate
    refine ⟨hlater, ?_, fun hv => absurd hv hstate.2.2.1, fun hv => absurd hv hstate.2.2.2⟩
    intro hv
    simp only [List.mem_cons, List.not_mem_nil, or_false] at hv
    exact absurd hv (not_or.mpr ⟨hstate.1, hstate.2.1⟩)
  | next hstate hbatch =>
    rw [hbatch, hstate]
    refine ⟨fun b hb => hlater b (by omega), fun _ _ => .of_none (hlater _ (by omega)),
      by simp, by simp⟩
  | kept hstate hbatch hkept hrecord =>
    rw [hbatch]
    refine ⟨hlater, ?_, ?_, ?_⟩
    · intro hv hnot
      have hbefore : u.state ∈ [RolloutState.planned, .paused] := by
        rcases hstate with hsame | ⟨-, hbefore⟩
        · rw [← hsame]
          exact hv
        exact hbefore
      exact (h.quiet u hu hbefore fun hs => hnot (hstopped hkept hbatch hs)).of_eq hrecord
    · intro hv
      rcases hstate with hsame | ⟨hafter, -⟩
      · exact (h.waiting u hu (hsame.symm.trans hv)).of_eq hrecord
      rw [hv] at hafter
      simp at hafter
    intro hv
    rcases hstate with hsame | ⟨hafter, -⟩
    · exact hstopped hkept hbatch (h.compensating u hu (hsame.symm.trans hv))
    rw [hv] at hafter
    simp at hafter
  | stopped hstate hbatch hnodes =>
    rw [hbatch]
    have hafter := hnodes.kept (.of_eq rfl) hid hbatch
    refine ⟨hlater, fun _ hnot => absurd hafter hnot, ?_, fun _ => hafter⟩
    intro hv
    rw [hv] at hstate
    simp at hstate
  | restored hstate hbatch hrecord =>
    rw [hbatch]
    refine ⟨hlater, fun _ _ => hrecord, fun _ => hrecord, ?_⟩
    intro hv
    rw [hv] at hstate
    simp at hstate
  | compensating hbefore hstate hbatch hkept =>
    rw [hbatch]
    have hafter := hstopped hkept hbatch (h.compensating u hu hbefore)
    refine ⟨hlater, fun _ hnot => absurd hafter hnot, ?_, fun _ => hafter⟩
    intro hv
    rw [hv] at hstate
    simp at hstate

lemma RecordsAgree.superseded (hu : s.db.rollouts.get? u.id = some u)
    (hactive : ¬ Inactive s.fence (u.id, u.currentBatch)) :
    RecordsAgree { s with fence := setRecord s.fence (u.id, u.currentBatch) .superseded } := by
  have hkept : RecordsKept (u.id, u.currentBatch) s.fence
      (setRecord s.fence (u.id, u.currentBatch) .superseded) := recordsKept_setRecord .superseded
  refine h.of_others (.refl u.id s.db) (fun k hk => hkept k (fun heq => hk (congrArg Prod.fst heq)))
    ?_ (by change (s.db.rollouts.get? u.id).isSome = true; rw [hu]; rfl)
  intro v hvid hv
  obtain rfl : u = v := Option.mem_unique hu hv
  refine ⟨?_, fun hstate hnot => absurd (h.quiet u hu hstate hnot) hactive,
    fun hstate => absurd (h.waiting u hu hstate) hactive, fun hstate => h.compensating u hu hstate⟩
  intro b hb
  have hne : (u.id, b) ≠ (u.id, u.currentBatch) := fun heq =>
    (Nat.ne_of_gt hb) (congrArg Prod.snd heq)
  exact (hkept (u.id, b) hne).trans (h.later u hu b hb)

omit h in
lemma tickRollout_cases (h : tickRollout view s id = some r) :
    ∃ u, s.db.rollouts.get? id = some u ∧
      (r.1 = s ∨
        (r.1 = { s with fence := setRecord s.fence (id, u.currentBatch) .superseded } ∧
          ¬ Inactive s.fence (id, u.currentBatch)) ∨
        (u.state = .planned ∧ ∃ targets db,
          refreshUpdateGrant view.issuer view.now s.db id u.currentBatch targets = .ok db ∧
          r = callOrchestrator view { s with db := db } u) ∨
        (u.state ≠ .planned ∧ r = callOrchestrator view s u ∧
          (u.state = .paused → ∃ answer,
            renewIfActive s.fence (id, u.currentBatch) answer = (s.fence, .ok .renewed)))) := by
  unfold tickRollout at h
  split_ifs at h
  split at h
  · cases h
  next u targets hsnapshot =>
  refine ⟨u, (snapshot_eq_some hsnapshot).1, ?_⟩
  split_ifs at h with hplanned
  · split at h
    · cases h
      exact .inl rfl
    next db hdb =>
    cases h
    exact .inr (.inr (.inl ⟨hplanned, targets, db, hdb, rfl⟩))
  split at h
  · next fence e hrenew =>
    cases h
    rcases renewIfActive_cases hrenew with rfl | ⟨rfl, hactive, -⟩
    · exact .inl rfl
    exact .inr (.inl ⟨rfl, hactive⟩)
  next fence status hrenew =>
  rcases renewIfActive_cases hrenew with rfl | ⟨-, -, e, he⟩
  · split_ifs at h with hpassed hmust hnot
    · cases h
      exact .inl rfl
    · cases h
      exact .inl rfl
    cases h
    refine .inr (.inr (.inr ⟨hplanned, rfl, ?_⟩))
    intro hpaused
    have hstatus : status = .renewed := by
      by_contra hne
      exact hnot ⟨hpaused, hne⟩
    rw [← hstatus]
    exact ⟨_, hrenew⟩
  cases he

lemma RecordsAgree.tickRollout (hr : Updates.tickRollout view s id = some r) :
    RecordsAgree r.1 := by
  have hasks {v : UpdateRollout} : ∀ op r, Asks (view.call v.id).toReserveView v op r → True :=
    fun _ _ _ => trivial
  obtain ⟨u, hu, hcases⟩ := tickRollout_cases hr
  obtain rfl : u.id = id := get?_key hu
  rcases hcases with hsame | ⟨hset, hactive⟩ | ⟨-, targets, db, hrefresh, rfl⟩ | ⟨-, rfl, -⟩
  · rw [hsame]
    exact h
  · rw [hset]
    exact h.superseded hu hactive
  · rcases (refresh_eq_ok hu hrefresh).2 with rfl | ⟨grant, rfl⟩
    · exact h.call hu (callOrchestrator_moves hu rfl hasks)
    have hgrant := h.setGrant hu
      (fun r => { r with updateAdminGrant := some grant }) (fun _ => rfl) ⟨rfl, rfl⟩
    have hu' := get?_setRollout_self hu (fun r => { r with updateAdminGrant := some grant })
      fun _ => rfl
    exact hgrant.call hu' (callOrchestrator_moves hu' rfl hasks)
  exact h.call hu (callOrchestrator_moves hu rfl hasks)

lemma RecordsAgree.approve {view : RolloutView} (hu : s.db.rollouts.get? u.id = some u)
    (happrove : adminApproveResume view issuer s.db u.id reason = .ok db) :
    RecordsAgree { s with db := db } := by
  rcases approve_cases hu happrove with
    ⟨-, -, -, grant, -, -, rfl⟩ | ⟨hwaiting, u', hwrites, hplanned, hbatch⟩
  · exact h.setGrant hu _ _ ⟨rfl, rfl⟩
  exact h.call hu (.of_session ⟨u', hwrites,
    .restored (by simp [hplanned]) hbatch (h.waiting u hu hwaiting)⟩)

lemma RecordsAgree.create {view : RolloutView}
    (hcreate : Updates.create view s.db plan id jobId grant = .ok db) :
    RecordsAgree { s with db := db } := by
  rcases create_cases hcreate with rfl | ⟨hnone, hothers, -, hu⟩
  · exact h
  have hrecord (b : ℕ) : s.fence.records.get? (id, b) = none := by
    cases hget : s.fence.records.get? (id, b) with
    | none => rfl
    | some r =>
      have hknown := h.known (id, b) r hget
      rw [hnone] at hknown
      cases hknown
  refine h.of_others hothers (fun _ _ => rfl) ?_ (by rw [hu]; rfl)
  intro v _ hv
  obtain rfl := Option.mem_unique hu hv
  exact ⟨fun b _ => hrecord b, fun _ _ => .of_none (hrecord _), by simp, by simp⟩

lemma RecordsAgree.step (event : WorkerEvent) : RecordsAgree (workerStep s event) := by
  cases event with
  | tick view =>
    change RecordsAgree (Updates.tick view s).1
    unfold Updates.tick
    split
    · exact h
    next hhandled => exact h.tickRollout (firstHandled_mem hhandled).2
  | approveResume =>
    simp only [workerStep]
    split
    · next db hdb =>
      obtain ⟨u, rfl, hget⟩ := approved_row hdb
      exact h.approve hget hdb
    exact h
  | create =>
    simp only [workerStep]
    split
    · next hdb => exact h.create hdb
    exact h
  | environment => exact ⟨h.later, h.quiet, h.waiting, h.compensating, h.known⟩

lemma RecordsAgree.run (events : List WorkerEvent) : RecordsAgree (workerRun s events) := by
  induction events generalizing s with
  | nil => exact h
  | cons event events ih => exact ih (h.step event)

end

lemma tickRollout_others (h : tickRollout view s id = some r) : OthersKept id s.db r.1.db ∧
      ∀ k, k.1 ≠ id → r.1.fence.records.get? k = s.fence.records.get? k := by
  have hcall {s s' : System} {u : UpdateRollout} (h : CallMoves (fun _ => True) s s' u) :
      OthersKept u.id s.db s'.db ∧
        ∀ k, k.1 ≠ u.id → s'.fence.records.get? k = s.fence.records.get? k := by
    obtain ⟨⟨u', hwrites, -⟩, hrecords⟩ := h
    exact ⟨hwrites.others, fun k hk => hrecords k fun heq => hk (congrArg Prod.fst heq)⟩
  obtain ⟨u, hu, hcases⟩ := tickRollout_cases h
  obtain rfl : u.id = id := get?_key hu
  rcases hcases with hsame | ⟨hset, -⟩ | ⟨-, targets, db, hrefresh, rfl⟩ | ⟨-, rfl, -⟩
  · rw [hsame]
    exact ⟨.refl u.id s.db, fun _ _ => rfl⟩
  · rw [hset]
    refine ⟨.refl u.id s.db, fun k hk => ?_⟩
    exact recordsKept_setRecord .superseded k fun heq => hk (congrArg Prod.fst heq)
  · rcases (refresh_eq_ok hu hrefresh).2 with rfl | ⟨grant, rfl⟩
    · exact hcall (callOrchestrator_moves hu rfl fun _ _ _ => trivial)
    have hu' := get?_setRollout_self hu (fun r => { r with updateAdminGrant := some grant })
      fun _ => rfl
    obtain ⟨hothers, hrecords⟩ := hcall (@callOrchestrator_moves
      { s with db := setRollout s.db u.id fun r => { r with updateAdminGrant := some grant } } u _
      view _ hu' rfl fun _ _ _ => trivial)
    exact ⟨(OthersKept.setRollout _ _).trans hothers, hrecords⟩
  exact hcall (callOrchestrator_moves hu rfl fun _ _ _ => trivial)

def startWorker (tables : Database) : System :=
  { db := { tables with rollouts := .empty, rolloutNodes := .empty } }

lemma RecordsAgree.start (tables : Database) : RecordsAgree (startWorker tables) := by
  refine ⟨?_, ?_, ?_, ?_, ?_⟩
  iterate 4
    · intro u hu
      cases hu
  intro k r hr
  cases hr

/-- In every history of the worker and the administrators no batch ahead of the current one has a
record, and the routes of a batch at rest are withdrawn only after one of its nodes left `pending`. -/
theorem withdrawn_only_in_work (tables : Database) (events : List WorkerEvent) :
    let s := workerRun (startWorker tables) events
    (∀ k r, s.fence.records.get? k = some r →
      ∃ u, s.db.rollouts.get? k.1 = some u ∧ k.2 ≤ u.currentBatch) ∧
    ∀ u, s.db.rollouts.get? u.id = some u →
      u.state = .waitingForApproval ∨ u.state ∈ [RolloutState.planned, .paused] ∧ ¬ Stopped s.db u →
      Inactive s.fence (u.id, u.currentBatch) := by
  intro s
  have h : RecordsAgree s := (RecordsAgree.start tables).run events
  constructor
  · rintro ⟨id, b⟩ r hr
    obtain ⟨u, hu⟩ := Option.isSome_iff_exists.mp (h.known _ r hr)
    obtain rfl : u.id = id := get?_key hu
    refine ⟨u, hu, not_lt.mp fun hlt => ?_⟩
    rw [h.later u hu b hlt] at hr
    cases hr
  rintro u hu (hstate | ⟨hstate, hpending⟩)
  · exact h.waiting u hu hstate
  exact h.quiet u hu hstate hpending

end Agree

structure PausedUnbegun (s : System) (u : UpdateRollout) : Prop where
  row : s.db.rollouts.get? u.id = some u
  state : u.state = .paused
  nodes : ¬ Stopped s.db u
  record : Inactive s.fence (u.id, u.currentBatch)

section Stopped

variable {v : UpdateRollout}

lemma renewIfActive_inactive (h : Inactive f key) :
    renewIfActive f key answer ≠ (f, .ok .renewed) := by
  unfold renewIfActive
  split
  · split
    · simp
    split_ifs <;> simp
  next record hrecord =>
  have hrestored := h record hrecord
  rw [hrestored]
  split_ifs <;> simp

lemma PausedUnbegun.others (h : PausedUnbegun s u) (hothers : OthersKept id s.db s'.db)
    (hne : u.id ≠ id)
    (hrecord : s'.fence.records.get? (u.id, u.currentBatch) =
      s.fence.records.get? (u.id, u.currentBatch)) : PausedUnbegun s' u := by
  refine ⟨?_, h.state, ?_, h.record.of_eq hrecord⟩
  · rw [hothers.rollouts u.id hne]
    exact h.row
  rw [stopped_congr hothers hne]
  exact h.nodes

lemma PausedUnbegun.tickRollout {view : TickView} (h : PausedUnbegun s u)
    (hr : Updates.tickRollout view s id = some r) : PausedUnbegun r.1 u := by
  by_cases hid : u.id = id
  · subst hid
    obtain ⟨v, hv, hcases⟩ := tickRollout_cases hr
    obtain rfl : u = v := Option.mem_unique h.row hv
    rcases hcases with hsame | ⟨-, hactive⟩ | ⟨hplanned, -⟩ | ⟨-, -, hrenew⟩
    · rw [hsame]
      exact h
    · exact absurd h.record hactive
    · exact absurd (hplanned.symm.trans h.state) (by simp)
    obtain ⟨answer, hanswer⟩ := hrenew h.state
    exact absurd hanswer (renewIfActive_inactive h.record)
  obtain ⟨hothers, hrecords⟩ := tickRollout_others hr
  exact h.others hothers hid (hrecords _ hid)

lemma pausedUnbegun_of_tick {view : TickView} (hagree : RecordsAgree s)
    (hu : s.db.rollouts.get? u.id = some u) (hplanned : u.state = .planned)
    (hu' : (tick view s).1.db.rollouts.get? u.id = some u') (hpaused : u'.state = .paused) :
    PausedUnbegun (tick view s).1 u' := by
  have hsame : ¬ (tick view s).1.db.rollouts.get? u.id = some u := by
    intro hsame
    obtain rfl : u = u' := Option.mem_unique hsame hu'
    exact absurd (hplanned.symm.trans hpaused) (by simp)
  revert hsame hu'
  unfold tick
  split
  · intro _ hsame
    exact absurd hu hsame
  next id s' result hhandled =>
  intro hu' hsame
  have hr := (firstHandled_mem hhandled).2
  by_cases hid : u.id = id
  · subst hid
    obtain ⟨v, hv, hcases⟩ := tickRollout_cases hr
    obtain rfl : u = v := Option.mem_unique hu hv
    rcases hcases with hs' | ⟨hs', -⟩ | ⟨-, targets, db, hrefresh, hcall⟩ | ⟨hnot, -⟩
    · exact absurd (by rw [hs']; exact hu) hsame
    · exact absurd (by rw [hs']; exact hu) hsame
    · obtain ⟨hpending, hdb⟩ := refresh_eq_ok hu hrefresh
      have hrefreshed : ∃ v, db.rollouts.get? u.id = some v ∧ v.id = u.id ∧ v.state = .planned ∧
          v.currentBatch = u.currentBatch ∧ db.rolloutNodes = s.db.rolloutNodes := by
        rcases hdb with rfl | ⟨grant, rfl⟩
        · exact ⟨u, hu, rfl, hplanned, rfl, rfl⟩
        exact ⟨_, get?_setRollout_self hu _ _, rfl, hplanned, rfl, rfl⟩
      obtain ⟨v, hv, hvid, hvstate, hvbatch, hvnodes⟩ := hrefreshed
      rw [callOrchestrator_advance (by simp [hplanned]), ← hvid] at hcall
      rw [← hvid] at hv hu'
      obtain ⟨hfence, v', hv', hnodes, hbatch, -⟩ :=
        @advance_planned_kept v (view.call v.id) { s with db := db } hv hvstate
      rw [← hcall] at hfence hv' hnodes
      obtain rfl : v' = u' := Option.mem_unique hv' hu'
      have hid' : v'.id = u.id := (get?_key hv').trans hvid
      have hbatch' : v'.currentBatch = u.currentBatch := hbatch.trans hvbatch
      refine ⟨?_, hpaused, ?_, ?_⟩
      · rw [hid', ← hvid]
        exact hu'
      · intro hstopped
        exact hpending (hstopped.kept (.of_eq (hnodes.trans hvnodes).symm) hid'.symm hbatch'.symm)
      rw [hid', hbatch']
      have hinactive := hagree.quiet u hu (by simp [hplanned]) hpending
      exact hinactive.of_eq (by rw [hfence])
    exact absurd hplanned hnot
  refine absurd ?_ hsame
  exact ((tickRollout_others hr).1.rollouts u.id hid).trans hu

lemma PausedUnbegun.step (h : PausedUnbegun s u) (event : WorkerEvent) :
    ∃ u', u'.id = u.id ∧ PausedUnbegun (workerStep s event) u' := by
  cases event with
  | tick view =>
    refine ⟨u, rfl, ?_⟩
    change PausedUnbegun (Updates.tick view s).1 u
    unfold Updates.tick
    split
    · exact h
    next hhandled => exact h.tickRollout (firstHandled_mem hhandled).2
  | approveResume view issuer id =>
    simp only [workerStep]
    split
    · next db hdb =>
      obtain ⟨v, rfl, hget⟩ := approved_row hdb
      by_cases hid : u.id = v.id
      · have hsame : v = u := by
          rw [← hid] at hget
          exact Option.mem_unique hget h.row
        subst hsame
        rcases approve_cases hget hdb with ⟨-, -, -, grant, -, -, rfl⟩ | ⟨hwaiting, -⟩
        · have hrow := get?_setRollout_self h.row
            (fun r => { r with rollbackAdminGrant := some grant }) fun _ => rfl
          exact ⟨{ v with rollbackAdminGrant := some grant }, rfl, hrow, h.state, h.nodes, h.record⟩
        exact absurd (hwaiting.symm.trans h.state) (by simp)
      exact ⟨u, rfl, h.others (approve_others hget hdb) hid rfl⟩
    exact ⟨u, rfl, h⟩
  | create =>
    refine ⟨u, rfl, ?_⟩
    simp only [workerStep]
    split
    · next db hdb =>
      rcases create_cases hdb with rfl | ⟨hnone, hothers, -⟩
      · exact h
      refine h.others hothers ?_ rfl
      rintro rfl
      rw [h.row] at hnone
      cases hnone
    exact h
  | environment => exact ⟨u, rfl, h.row, h.state, h.nodes, h.record⟩

lemma PausedUnbegun.run (h : PausedUnbegun s u) (events : List WorkerEvent) :
    ∃ u', u'.id = u.id ∧ PausedUnbegun (workerRun s events) u' := by
  induction events generalizing s u with
  | nil => exact ⟨u, rfl, h⟩
  | cons event events ih =>
    obtain ⟨u₁, hid, h₁⟩ := h.step event
    obtain ⟨u₂, hid', h₂⟩ := ih h₁
    exact ⟨u₂, hid'.trans hid, h₂⟩

end Stopped

structure Approval where
  view : RolloutView
  issuer : GrantIssuer
  id : Uuid
  reason : String

def Approval.event (a : Approval) : WorkerEvent := .approveResume a.view a.issuer a.id a.reason

def stateOf (s : System) (id : Uuid) : Option RolloutState := (s.db.rollouts.get? id).map (·.state)

lemma stateOf_eq_some {state : RolloutState} :
    stateOf s id = some state ↔ ∃ u, s.db.rollouts.get? id = some u ∧ u.state = state :=
  Option.map_eq_some_iff

lemma approval_paused (a : Approval) (h : stateOf s id = some .paused) :
    stateOf (workerStep s a.event) id = some .paused := by
  simp only [Approval.event, workerStep]
  split
  · next db hdb =>
    obtain ⟨u, hu, hpaused⟩ := stateOf_eq_some.mp h
    obtain ⟨v, hv, hget⟩ := approved_row hdb
    rw [← hv] at hdb
    rw [stateOf_eq_some]
    by_cases hid : id = v.id
    · subst hid
      obtain rfl : u = v := Option.mem_unique hu hget
      rcases approve_cases hget hdb with ⟨-, -, -, grant, -, -, rfl⟩ | ⟨hwaiting, -⟩
      · exact ⟨_, get?_setRollout_self hget _ _, hpaused⟩
      exact absurd (hwaiting.symm.trans hpaused) (by simp)
    refine ⟨u, ?_, hpaused⟩
    exact ((approve_others hget hdb).rollouts id hid).trans hu
  exact h

lemma approvals_paused (calls : List Approval) (h : stateOf s id = some .paused) :
    stateOf (workerRun s (calls.map Approval.event)) id = some .paused := by
  induction calls generalizing s with
  | nil => exact h
  | cons a calls ih => exact ih (approval_paused a h)

lemma paused_forever {tables : Database} {before after : List WorkerEvent} {view : TickView}
    (hplanned : stateOf (workerRun (startWorker tables) before) id = some .planned)
    (hpaused : stateOf (workerRun (startWorker tables) (before ++ [.tick view])) id =
      some .paused) :
    stateOf (workerRun (startWorker tables) (before ++ .tick view :: after)) id = some .paused := by
  obtain ⟨u, hu, hstate⟩ := stateOf_eq_some.mp hplanned
  obtain ⟨u', hu', hstate'⟩ := stateOf_eq_some.mp hpaused
  unfold workerRun at hu'
  rw [List.foldl_append] at hu'
  have hagree : RecordsAgree (workerRun (startWorker tables) before) :=
    (RecordsAgree.start tables).run before
  obtain rfl : u.id = id := get?_key hu
  obtain ⟨v, hv, hlast⟩ :=
    (pausedUnbegun_of_tick hagree hu hstate hu' hstate').run after
  rw [stateOf_eq_some]
  refine ⟨v, ?_, hlast.state⟩
  have hid : u'.id = u.id := get?_key hu'
  rw [hid] at hv
  rw [← hv]
  unfold workerRun
  rw [List.foldl_append]
  exact hlast.row

theorem paused_rollout_never_resumes (id : Uuid) :
    (∀ (tables : Database) (before after : List WorkerEvent) (view : TickView),
      stateOf (workerRun (startWorker tables) before) id = some .planned →
      stateOf (workerRun (startWorker tables) (before ++ [.tick view])) id = some .paused →
      stateOf (workerRun (startWorker tables) (before ++ .tick view :: after)) id = some .paused) ∧
    ∀ (s : System) (calls : List Approval), stateOf s id = some .paused →
      stateOf (workerRun s (calls.map Approval.event)) id = some .paused :=
  ⟨fun _ _ _ _ => paused_forever, fun _ calls => approvals_paused calls⟩

namespace TwoAgents

lemma key_seen (t : ℕ) (n : AgentNode) :
    Keyed.key { n with lastSeenAt := some (seconds t) } = Keyed.key n := rfl

def contacted (t : ℕ) (s : System) : WorkerEvent :=
  .environment { s.db with
    nodes := s.db.nodes.updateWhere (fun n => decide (n.nodeId = 1))
      (fun n => { n with lastSeenAt := some (seconds t) }) (key_seen t) }

def failedAt (t : ℕ) (s : System) : WorkerEvent :=
  .environment { s.db with
    operations := s.db.operations.updateWhere (fun _ => true) fun o =>
      { o with state := .failed, updatedAt := seconds t } }

def created : List WorkerEvent :=
  [.create (callAt 11).toRolloutView (plan 1) (uuid4 9) (uuid4 3) none]

/-- The agent was not seen for more than five minutes when its batch was due. -/
def stopped : System := workerRun (startWorker enrolled) (created ++ [.tick (tickAt 400 .done)])

def seenAgain : System := workerStep stopped (contacted 401 stopped)

def dispatched : System :=
  workerRun (startWorker enrolled) (created ++ [.tick (tickAt 12 .done), .tick (tickAt 13 .done)])

def failedBatch : System :=
  workerRun dispatched [failedAt 20 dispatched, .tick (tickAt 21 .done)]

def sourceKept : System := workerStep failedBatch (contacted 22 failedBatch)

def failedRollout : UpdateRollout :=
  { older with state := .paused, failureReason := some "agent update failed" }

def failedNode : UpdateRolloutNode :=
  { rolloutId := uuid4 9, nodeId := 1, batchIndex := 0, nodeOrder := 0, state := .failed,
    operationId := some 1001, sourceIdentityDigest := 5, targetArtifactDigest := 11,
    failureReason := some "agent update failed", dispatchAt := some (seconds 13),
    activationDeadline := some (seconds 613) }

end TwoAgents

open TwoAgents

/-- The rollout of an agent that was away, and one whose operation failed. -/
theorem stopped_rollouts_never_resume :
    (∀ after, stateOf (workerRun (startWorker enrolled)
      (created ++ .tick (tickAt 400 .done) :: after)) (uuid4 9) = some .paused) ∧
    ∀ calls : List Approval,
      stateOf (workerRun sourceKept (calls.map Approval.event)) (uuid4 9) = some .paused := by
  obtain ⟨hstopped, hfailed⟩ := paused_rollout_never_resumes (uuid4 9)
  refine ⟨fun after => ?_, fun calls => ?_⟩
  · exact hstopped enrolled created after (tickAt 400 .done) (by decide +kernel) (by decide +kernel)
  exact hfailed sourceKept calls (by decide +kernel)

/-- The agent that was away is back on its source, the failed one still runs its own, and both
rollouts stay paused. -/
theorem recovered_agents_stay_paused :
    (stateOf stopped (uuid4 9) = some .paused ∧
      stateOf (advance (callAt 403) (advance (callAt 402) seenAgain (uuid4 9)).1 (uuid4 9)).1
        (uuid4 9) = some .withdrawing ∧
      ∀ after, stateOf (workerRun seenAgain after) (uuid4 9) = some .paused) ∧
    (batchNodes OneAgent.digests sourceKept.db failedRollout = .ok [failedNode] ∧
      sourceIsUnchanged sourceKept.db failedRollout failedNode (seconds 23) true = true ∧
      ∀ calls : List Approval,
        stateOf (workerRun sourceKept (calls.map Approval.event)) (uuid4 9) = some .paused) := by
  refine ⟨⟨by decide +kernel, by decide +kernel, ?_⟩, by decide +kernel, by decide +kernel, ?_⟩
  · intro after
    have hforever := @paused_forever (uuid4 9) enrolled created (contacted 401 stopped :: after)
      (tickAt 400 .done) (by decide +kernel) (by decide +kernel)
    exact hforever
  intro calls
  exact approvals_paused calls (by decide +kernel)

end VonkForge.Updates
