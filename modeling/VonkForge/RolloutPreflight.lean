import VonkForge.RolloutRuns

/-!
# Preflight and signing admission

`_execution_block_reason` accepts an agent that runs its planned source under the planned generation
or under a later one.
-/

namespace VonkForge.Updates

open AgentJobs NodeLeases AgentReconciliation

variable {node : AgentNode} {db : Database} {now : Time} {u : UpdateRollout} {id : Uuid}

/-- Why a reservation is refused when the agent does not report the planned identity. -/
def identityChanged : JobError := .valueError "planned update source identity changed"

/-- The agents, the plan and the recorded digests of a rollout are as they were. -/
structure SourcesKept (id : Uuid) (db db' : Database) : Prop where
  nodes : db'.nodes = db.nodes
  jobs : ∀ k, (db'.jobs.get? k).isSome = (db.jobs.get? k).isSome
  rollout : ∀ u, db.rollouts.get? id = some u → ∃ v, db'.rollouts.get? id = some v ∧
    v.toUpdatePlan = u.toUpdatePlan ∧ v.jobId = u.jobId
  rows : ∀ n r, db.rolloutNodes.get? (id, n) = some r →
    ∃ r', db'.rolloutNodes.get? (id, n) = some r' ∧ r'.sourceIdentityDigest = r.sourceIdentityDigest

section Kept

variable {db' db'' : Database}

lemma SourcesKept.refl (id : Uuid) (db : Database) : SourcesKept id db db :=
  ⟨rfl, fun _ => rfl, fun u hu => ⟨u, hu, rfl, rfl⟩, fun _ r hr => ⟨r, hr, rfl⟩⟩

lemma SourcesKept.trans (h : SourcesKept id db db') (h' : SourcesKept id db' db'') :
    SourcesKept id db db'' := by
  refine ⟨h'.nodes.trans h.nodes, fun k => (h'.jobs k).trans (h.jobs k), ?_, ?_⟩
  · intro u hu
    obtain ⟨v, hv, hplan, hjob⟩ := h.rollout u hu
    obtain ⟨w, hw, hplan', hjob'⟩ := h'.rollout v hv
    exact ⟨w, hw, hplan'.trans hplan, hjob'.trans hjob⟩
  intro n r hr
  obtain ⟨r', hr', hdigest⟩ := h.rows n r hr
  obtain ⟨r'', hr'', hdigest'⟩ := h'.rows n r' hr'
  exact ⟨r'', hr'', hdigest'.trans hdigest⟩

lemma SourcesKept.of_eq (hnodes : db'.nodes = db.nodes) (hjobs : db'.jobs = db.jobs)
    (hrollouts : db'.rollouts = db.rollouts) (hrows : db'.rolloutNodes = db.rolloutNodes) :
    SourcesKept id db db' := by
  refine ⟨hnodes, fun k => by rw [hjobs], ?_, ?_⟩
  · intro u hu
    rw [hrollouts]
    exact ⟨u, hu, rfl, rfl⟩
  intro n r hr
  rw [hrows]
  exact ⟨r, hr, rfl⟩

lemma SourcesKept.setRollout (k : Uuid) (f : UpdateRollout → UpdateRollout)
    (hf : ∀ u, (f u).id = u.id)
    (hplan : ∀ u, (f u).toUpdatePlan = u.toUpdatePlan ∧ (f u).jobId = u.jobId) :
    SourcesKept id db (setRollout db k f hf) := by
  refine ⟨rfl, fun _ => rfl, ?_, fun _ r hr => ⟨r, hr, rfl⟩⟩
  intro u hu
  rw [get?_setRollout, hu, Option.map_some]
  refine ⟨_, rfl, ?_⟩
  split_ifs
  · exact hplan u
  exact ⟨rfl, rfl⟩

lemma SourcesKept.projectJob {state : JobState} {reason : Option String}
    (h : projectJob db u state reason now = .ok db') : SourcesKept id db db' := by
  unfold Updates.projectJob at h
  split at h
  · cases h
  cases h
  refine ⟨rfl, ?_, fun u hu => ⟨u, hu, rfl, rfl⟩, fun _ r hr => ⟨r, hr, rfl⟩⟩
  intro k
  simp only [setJob, Table.get?_updateWhere, Option.isSome_map]

lemma SourcesKept.pauseRollout {reason : String} (h : pauseRollout db u reason now = .ok db') :
    SourcesKept id db db' := by
  refine SourcesKept.trans ?_ (.projectJob h)
  exact .setRollout _ _ _ fun _ => ⟨rfl, rfl⟩

lemma SourcesKept.advance_planned {view : CallView} {s : System}
    (hu : s.db.rollouts.get? u.id = some u) (hplanned : u.state = .planned) :
    SourcesKept u.id s.db (advance view s u.id).1.db := by
  have hsession (db' : Database) (h : advanceInSession view.toRolloutView s.db u.id = .ok db') :
      SourcesKept u.id s.db db' := by
    obtain ⟨u', hu', h⟩ := of_bind_ok h
    simp only [rolloutOf, hu] at hu'
    cases hu'
    obtain ⟨nodes, hnodes, h⟩ := of_bind_ok h
    simp only [hplanned, advancePlanned] at h
    split at h
    · exact .pauseRollout h
    split_ifs at h
    · exact .pauseRollout h
    split at h
    · next grant db₁ hacquire =>
      cases h
      obtain ⟨g, -, hg⟩ := group_of_batch hnodes
      have hheld := acquired_held (g := g) (by rw [hg]; exact hacquire)
      have hacquired : SourcesKept u.id s.db db₁ := by
        rw [hheld.2]
        exact .of_eq rfl rfl rfl rfl
      exact hacquired.trans (.setRollout _ _ _ fun _ => ⟨rfl, rfl⟩)
    · exact .pauseRollout h
    cases h
  unfold advance rolloutOf
  rw [hu]
  cases hnodes : batchNodes view.digests s.db u with
  | error =>
    simp only [bind, Except.bind, hnodes]
    exact .refl _ _
  | ok =>
    simp only [bind, Except.bind, hnodes, hplanned]
    split
    · exact .refl _ _
    next db' h => exact hsession db' h

end Kept

section Refusal

variable {view : ReserveView} {n : NodeId} {payload : Option NodePayload} {release : Option Digest}

lemma reserveIntent_not_identityChanged (request : SignerRequest) :
    reserveIntent view db request ≠ .error identityChanged := by
  intro h
  unfold reserveIntent insertIntent identityChanged at h
  split at h
  · split at h <;> cases h
  split_ifs at h
  split at h <;> cases h

lemma admit_identityChanged_iff {rn : UpdateRolloutNode} {parent : Job} :
    admitAuthorization view db u rn node parent .agentUpdate payload release =
        .error identityChanged ↔
      (∃ source, signerSource node = .ok source) ∧
        plannedSourceHolds view.digests u rn node = false := by
  unfold admitAuthorization
  cases hsource : signerSource node with
  | error e =>
    have he : e = .valueError "agent update source identity is unavailable" := by
      unfold signerSource at hsource
      split at hsource
      · split_ifs at hsource
        cases hsource
        rfl
      cases hsource
      rfl
    simp [bind, Except.bind, he, identityChanged]
  | ok =>
    cases hplanned : plannedSourceHolds view.digests u rn node with
    | false => simp [bind, Except.bind, identityChanged]
    | true =>
      simp only [bind, Except.bind, Bool.true_eq_false, and_false, if_false, iff_false]
      intro h
      split_ifs at h with hauthority
      · simp [identityChanged] at h
      cases hstate : authorizationState u rn parent .agentUpdate payload release with
      | error =>
        unfold authorizationState at hstate
        rw [if_pos rfl] at hstate
        split_ifs at hstate with hstale
        cases hstate
        simp [authorizationState, hstale, identityChanged] at h
      | ok =>
        rw [hstate] at h
        unfold adminGrant identityChanged at h
        cases hgrant : u.updateAdminGrant <;> simp [hgrant] at h

lemma reserve_identityChanged_iff :
    reserveUpdateAuthorization view db id n .agentUpdate payload release = .error identityChanged ↔
      view.signer = true ∧ ∃ u rn node parent, db.rollouts.get? id = some u ∧
        db.rolloutNodes.get? (id, n) = some rn ∧ db.nodes.get? n = some node ∧
        u.jobId.bind db.jobs.get? = some parent ∧ (∃ source, signerSource node = .ok source) ∧
        plannedSourceHolds view.digests u rn node = false := by
  unfold reserveUpdateAuthorization
  cases hsigner : view.signer with
  | false => simp [identityChanged]
  | true =>
    rw [if_neg (by simp), if_neg (by decide)]
    cases hu : db.rollouts.get? id with
    | none => simp [identityChanged]
    | some u =>
      cases hrn : db.rolloutNodes.get? (id, n) with
      | none => simp [identityChanged]
      | some rn =>
        have hkey : (rn.rolloutId, rn.nodeId) = (id, n) := Table.get?_key hrn
        have hnode : rn.nodeId = n := congrArg Prod.snd hkey
        simp only [hnode]
        cases hget : db.nodes.get? n with
        | none => simp [identityChanged]
        | some node =>
          cases hjob : u.jobId.bind db.jobs.get? with
          | none => simp [identityChanged, hjob]
          | some parent =>
            have hgranted : (do
                let request ← admitAuthorization view db u rn node parent .agentUpdate payload release
                reserveIntent view db request) = .error identityChanged ↔
                admitAuthorization view db u rn node parent .agentUpdate payload release =
                  .error identityChanged := by
              cases ha : admitAuthorization view db u rn node parent .agentUpdate payload release with
              | error => simp [bind, Except.bind]
              | ok request =>
                simp only [bind, Except.bind, reduceCtorEq, iff_false]
                exact reserveIntent_not_identityChanged request
            simp only [hgranted, admit_identityChanged_iff]
            constructor
            · intro h
              exact ⟨trivial, u, rn, node, parent, rfl, rfl, rfl, hjob, h⟩
            rintro ⟨-, u', rn', node', parent', hu', hrn', hnode', -, h⟩
            cases hu'
            cases hrn'
            cases hnode'
            exact h

lemma signerSource_isOk (h : node.state = .active) :
    (∃ source, signerSource node = .ok source) ↔
      node.runtime.isSome = true ∧ node.revokedAt = none := by
  unfold signerSource
  cases hr : node.runtime with
  | none => simp
  | some =>
    cases hrevoked : node.revokedAt with
    | none => simp [h]
    | some => simp

end Refusal

/-- The reservation fails before it looks at the agent, or the agent runs as planned and the planned
observation has one digest in both encodings. -/
def AdmissionAgrees (view : ReserveView) (db : Database) (u : UpdateRollout)
    (n : UpdateRolloutNode) : Prop :=
  view.signer = true → (u.jobId.bind db.jobs.get?).isSome = true →
    ∀ node, db.nodes.get? n.nodeId = some node → node.runtime.isSome = true →
      node.revokedAt = none → plannedGeneration db u n = true ∧
        ∀ s, plannedSource u n.nodeId = some s → view.digests.signerSource s = view.digests.source s

lemma sourceReady_source {d : Digests} {n : UpdateRolloutNode}
    (h : sourceReady d db u now n = true) :
    ∃ source running, plannedSource u n.nodeId = some source ∧
      db.nodes.get? n.nodeId = some running ∧ running.state = .active ∧
      sameSource (sourceIdentity running) source.identity = true := by
  simp only [sourceReady, Bool.and_eq_true, Bool.or_eq_true] at h
  obtain ⟨hcurrent, hsource⟩ := h
  unfold sourceIsUnchanged sourceIsRunning at hsource
  cases hs : plannedSource u n.nodeId with
  | none => simp [hs] at hsource
  | some source =>
    cases hr : db.nodes.get? n.nodeId with
    | none => simp [hs, hr] at hsource
    | some running =>
      simp only [hs, hr, Bool.and_eq_true, decide_eq_true_eq, Option.any_some] at hsource hcurrent
      have hactive : running.state = .active := by
        simp only [agentIsCurrent, Bool.and_eq_true, decide_eq_true_eq] at hcurrent
        exact hcurrent.1.1
      refine ⟨source, running, rfl, rfl, hactive, ?_⟩
      rcases hsource with h | h
      · exact ((identity_eq_iff _ _).mp h.1.2).1
      exact h.1.2

/-- After a passed preflight no reservation of the batch reports a changed source just when the
admission agrees for each of its nodes. -/
theorem preflight_admission_iff (view : RolloutView) (view' : ReserveView) (db db' : Database)
    (u : UpdateRollout) (nodes : List UpdateRolloutNode) (payload : NodeId → Option NodePayload)
    (release : Option Digest) (hu : db.rollouts.get? u.id = some u)
    (hnodes : batchNodes view.digests db u = .ok nodes) (hdigests : view'.digests = view.digests)
    (hpreflight : executionBlockReason view db u nodes = none) (hkept : SourcesKept u.id db db') :
    (∀ n ∈ nodes, reserveUpdateAuthorization view' db' u.id n.nodeId .agentUpdate
        (payload n.nodeId) release ≠ .error identityChanged) ↔
      ∀ n ∈ nodes, AdmissionAgrees view' db u n := by
  have hready : nodes.all (sourceReady view.digests db u view.now) = true := by
    unfold executionBlockReason at hpreflight
    split_ifs at hpreflight with h
    exact Bool.eq_true_of_not_eq_false h
  refine forall₂_congr fun n hn => ?_
  obtain ⟨source, running, hs, hr, hactive, hsame⟩ :=
    sourceReady_source (List.all_eq_true.mp hready n hn)
  obtain ⟨v, hv, hplan, hjob⟩ := hkept.rollout u hu
  obtain ⟨hid, hrow⟩ := get?_of_batch hnodes hn
  obtain ⟨rn, hrn, hdigest⟩ := hkept.rows n.nodeId n hrow
  have hkey : running.nodeId = n.nodeId := Table.get?_key hr
  have hbound := (batchNodes_eq_ok.mp hnodes).2.2.2 n hn
  simp only [nodeBound, hs, Option.any_some, Bool.and_eq_true, decide_eq_true_eq] at hbound
  have hsv : plannedSource v running.nodeId = some source := by
    rw [hkey, ← hs]
    unfold plannedSource
    rw [hplan]
  have hholds : plannedSourceHolds view'.digests v rn running = true ↔
      view'.digests.signerSource source = view'.digests.source source ∧
        plannedGeneration db u n = true := by
    simp only [plannedSourceHolds, hsv, hdigest, hbound.1, hdigests, plannedGeneration, hs, hr,
      Bool.and_eq_true, decide_eq_true_eq, identity_eq_iff, hsame, true_and]
  have hjobs : (v.jobId.bind db'.jobs.get?).isSome = (u.jobId.bind db.jobs.get?).isSome := by
    rw [hjob]
    cases u.jobId with
    | none => rfl
    | some k => exact hkept.jobs k
  have hrunning : db'.nodes.get? n.nodeId = some running := by
    rw [hkept.nodes]
    exact hr
  rw [ne_eq, reserve_identityChanged_iff]
  constructor
  · intro h hsigner hparent node hnode hruntime hrevoked
    obtain rfl : running = node := Option.mem_unique hr hnode
    rw [← hjobs] at hparent
    obtain ⟨parent, hparent⟩ := Option.isSome_iff_exists.mp hparent
    have htrue : plannedSourceHolds view'.digests v rn running = true := by
      by_contra hfalse
      exact h ⟨hsigner, v, rn, running, parent, hv, hrn, hrunning, hparent,
        (signerSource_isOk hactive).mpr ⟨hruntime, hrevoked⟩, Bool.eq_false_iff.mpr hfalse⟩
    obtain ⟨hencodings, hgeneration⟩ := hholds.mp htrue
    refine ⟨hgeneration, ?_⟩
    intro s hs'
    obtain rfl : source = s := Option.mem_unique hs hs'
    exact hencodings
  rintro hagrees ⟨hsigner, v', rn', node, parent, hv', hrn', hnode, hparent, hsource, hfalse⟩
  obtain rfl : v = v' := Option.mem_unique hv hv'
  obtain rfl : rn = rn' := Option.mem_unique hrn hrn'
  obtain rfl : running = node := Option.mem_unique hrunning hnode
  obtain ⟨hruntime, hrevoked⟩ := (signerSource_isOk hactive).mp hsource
  have hsome : (u.jobId.bind db.jobs.get?).isSome = true := by
    rw [← hjobs, hparent]
    rfl
  obtain ⟨hgeneration, hencodings⟩ := hagrees hsigner hsome running hr hruntime hrevoked
  rw [hholds.mpr ⟨hencodings source hs, hgeneration⟩] at hfalse
  cases hfalse

namespace OneAgent

/-- The agent reaches the target too late, is rolled back, comes back under the third generation,
and the operator approves. -/
def rolledBack : List RolloutEvent :=
  timedOut ++
    [contact 201 (target 2 second_generation) 51,
      .beginRollback (viewAt 202 300) 9 (some rollbackGrant),
      contact 203 (target 2 second_generation) 52, success 204 (4 * 2 ^ 76 + 2 ^ 63 + 1300),
      contact 205 (source 3 (by decide)) 53, .advance (viewAt 206 400) 9,
      .advance (viewAt 207 400) 9, .approveResume (viewAt 208 400).toRolloutView 9 "retry"]

def resumedSystem : System := rolloutRun { db := enrolled } rolledBack

def createdSystem : System := rolloutRun { db := enrolled } (timedOut.take 1)

/-- The rollout as it was created and, up to its grant, as it is after the resumption. -/
def plannedRollout (rollback : Option AdminGrant) : UpdateRollout :=
  { plan with
    id := 9, jobId := some 3, state := .planned, updateAdminGrant := some updateGrant,
    rollbackAdminGrant := rollback, createdAt := seconds 11 }

def pendingNode : UpdateRolloutNode :=
  { rolloutId := 9, nodeId := 1, batchIndex := 0, nodeOrder := 0, sourceIdentityDigest := 5,
    targetArtifactDigest := 11 }

end OneAgent

open OneAgent

/-- A rollout that was just created agrees. -/
theorem created_admission_iff :
    (∀ n ∈ [pendingNode], reserveUpdateAuthorization (viewAt 12 100).toReserveView createdSystem.db 9
        n.nodeId .agentUpdate none none ≠ .error identityChanged) ↔
      ∀ n ∈ [pendingNode],
        AdmissionAgrees (viewAt 12 100).toReserveView createdSystem.db (plannedRollout none) n :=
  preflight_admission_iff (viewAt 12 100).toRolloutView (viewAt 12 100).toReserveView
    createdSystem.db createdSystem.db (plannedRollout none) [pendingNode] (fun _ => none) none
    (by decide +kernel) (by decide +kernel) rfl (by decide +kernel) (.refl _ _)

/-- The agent that was rolled back passes the preflight; the batch is locked, and then its
reservation is refused, so that `advance` fails. -/
theorem rolledBack_refused :
    resumedSystem.db.rollouts.get? 9 = some (plannedRollout (some rollbackGrant)) ∧
    batchNodes digests resumedSystem.db (plannedRollout (some rollbackGrant)) = .ok [pendingNode] ∧
    executionBlockReason (viewAt 209 500).toRolloutView resumedSystem.db
      (plannedRollout (some rollbackGrant)) [pendingNode] = none ∧
    SourcesKept 9 resumedSystem.db (advance (viewAt 209 500) resumedSystem 9).1.db ∧
    reserveUpdateAuthorization (viewAt 210 600).toReserveView
      (advance (viewAt 209 500) resumedSystem 9).1.db 9 1 .agentUpdate none none =
        .error identityChanged ∧
    (advance (viewAt 210 600) (advance (viewAt 209 500) resumedSystem 9).1 9).2 =
      .error identityChanged := by
  have hu : resumedSystem.db.rollouts.get? 9 = some (plannedRollout (some rollbackGrant)) := by
    decide +kernel
  have hkept := @SourcesKept.advance_planned (plannedRollout (some rollbackGrant))
    (viewAt 209 500) resumedSystem hu rfl
  exact ⟨hu, by decide +kernel, by decide +kernel, hkept, by decide +kernel, by decide +kernel⟩

end VonkForge.Updates
