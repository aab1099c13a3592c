import VonkForge.QueueProgress

/-!
# Claims of a node with an expired mutation

A claim returns a claim or finishes an operation when nothing that blocks precedes the expired
mutation; an earlier creation time than that of a running one wedges the queue.
-/

namespace VonkForge.AgentJobs

open Transactions Table

variable {db db' : Database} {nodeId : NodeId} {e : StoredOperation} {now : Time}

section Selection

variable {call : Call} {op : StoredOperation}

lemma updateClaimBinding_eq_some {node : AgentNode} {fence : Uuid} {deadline : Time}
    (h : updateClaimBinding op node now = some (fence, deadline)) :
    op.currentAttempt = 0 ∧ ∃ receipt, op.payload.receipt = some receipt ∧
      fence = receipt.fence ∧ deadline = seconds receipt.claimDeadline := by
  unfold updateClaimBinding at h
  split at h
  · cases h
  split at h
  · cases h
  next receipt hr =>
  simp only at h
  split_ifs at h with hbound
  cases h
  exact ⟨hbound.1, receipt, hr, rfl, rfl⟩

lemma claimSelected_succeeds (hl : Linked db) (hf : Fenced db) (hp : Paired db)
    (ho : db.operations.get? op.id = some op) {req : ClaimRequest} {fence : Uuid}
    (hfence : Unused db fence)
    (hreceipt : op.currentAttempt = 0 → ∀ receipt, op.payload.receipt = some receipt →
      Unused db receipt.fence) (node : AgentNode) :
    ∃ r d, claimSelected call req fence node db op = .ok (r, d) ∧
      (advertisesOperation req op.kind = true →
        (op.kind.mutating = true → activeMutation db op = false) →
          r.isSome = true ∨ Finished d op.id) := by
  have hstart : ∀ fence deadline, Unused db fence → ∃ r d,
      startAttempt (expirePrevious db op) call.now op req.certificateSerial fence deadline =
        .ok (r, d) ∧ r.isSome = true := by
    intro fence deadline hu
    obtain ⟨c, d, hd⟩ := @startAttempt_succeeds db op call.now hf ho req.certificateSerial fence
      deadline hu
    exact ⟨some c, d, hd, rfl⟩
  unfold claimSelected
  split
  · next hadv => exact ⟨_, _, rfl, fun h => by rw [hadv] at h; cases h⟩
  split
  · next hact =>
    refine ⟨_, _, rfl, fun _ h => ?_⟩
    rw [h hact.1] at hact
    cases hact.2
  simp only
  split
  · obtain ⟨d, hd, hfin⟩ := @quarantine_succeeds db op call.now hl hp ho
    exact ⟨none, d, hd, fun _ _ => .inr hfin⟩
  split
  · next receiptFence deadline hbind =>
    obtain ⟨hfirst, receipt, hr, rfl, -⟩ := updateClaimBinding_eq_some hbind
    obtain ⟨r, d, hd, hsome⟩ := hstart receipt.fence deadline (hreceipt hfirst receipt hr)
    exact ⟨r, d, hd, fun _ _ => .inl hsome⟩
  split
  · obtain ⟨job, hjob⟩ := hl.parent op.id op ho
    obtain ⟨d, hd⟩ := @aggregateParent_succeeds (parkOperation (expirePrevious db op) call.now op.id)
      call.now job op.parentJobId (by rw [jobs_park_expirePrevious, hjob])
    rw [hd, ok_bind]
    have hfin := (finished_park_expirePrevious ho).calm (quiet_aggregateParent hd).toCalm
    exact ⟨none, d, rfl, fun _ _ => .inr hfin⟩
  obtain ⟨r, d, hd, hsome⟩ := hstart fence (call.now + seconds req.leaseSeconds) hfence
  exact ⟨r, d, hd, fun _ _ => .inl hsome⟩

structure ExpiredMutation (db : Database) (now : Time) (nodeId : NodeId) (e : StoredOperation) :
    Prop where
  stored : db.operations.get? e.id = some e
  onNode : e.nodeId = nodeId
  mutating : e.kind.mutating = true
  running : e.state = .running
  expired : expiredAttempt db now e = true

/-- No operation that blocks the expired mutation comes before it: none that was answered, and none
outside reconciliations whose parent is terminal. -/
structure Unobstructed (db : Database) (nodeId : NodeId) (e : StoredOperation) : Prop where
  answered : ∀ id x, db.operations.get? id = some x → x.nodeId = nodeId →
    x.state = .waitingForOperator → retryRequested x = true → queueOrder e < queueOrder x
  parents : ∀ id x job, db.operations.get? id = some x → x.nodeId = nodeId →
    x.state.unfinished = true → x.kind.signed = false → queueOrder x ≤ queueOrder e →
    db.jobs.get? x.parentJobId = some job → job.reconciliationId = none →
      terminalParent job.state = false

variable {o : StoredOperation}

lemma ExpiredMutation.first (he : ExpiredMutation db now nodeId e) (hinv : QueueInv db)
    (hfree : Unobstructed db nodeId e) (ho : db.operations.get? o.id = some o)
    (hnode : o.nodeId = nodeId) (helig : eligible db now o = true)
    (hle : queueOrder o ≤ queueOrder e) :
    o.state.unfinished = true ∧ (o.kind.mutating = true → o.id = e.id) := by
  simp only [eligible, Bool.or_eq_true, Bool.and_eq_true, decide_eq_true_eq] at helig
  rcases helig with (⟨hq, _⟩ | ⟨hr, _⟩) | ⟨hw, ha⟩
  · refine ⟨(unfinished_iff _).mpr (.inl hq), fun hm => ?_⟩
    have hlt := hinv.inOrder e.id o.id e o he.stored ho (he.onNode.trans hnode.symm) he.mutating
      he.running hm hq
    exact absurd hle (not_le_of_gt hlt)
  · refine ⟨(unfinished_iff _).mpr (.inr hr), fun hm => ?_⟩
    exact hinv.exclusive o.id e.id o e ho he.stored (hnode.trans he.onNode.symm) hm he.mutating hr
      he.running
  exact absurd hle (not_le_of_gt (hfree.answered o.id o ho hnode hw ha))

def Settled (nodeId : NodeId) (db db' : Database) : Prop :=
  ∃ o, db.operations.get? o.id = some o ∧ o.nodeId = nodeId ∧ o.state.unfinished = true ∧
    Finished db' o.id

lemma Settled.calm {db'' : Database} (h : Settled nodeId db db') (hc : Calm db' db'') :
    Settled nodeId db db'' := by
  obtain ⟨o, ho, hn, hu, hf⟩ := h
  exact ⟨o, ho, hn, hu, hf.calm hc⟩

lemma activeMutation_eq_false (hinv : QueueInv db) (ho : db.operations.get? o.id = some o)
    (hm : o.kind.mutating = true) (hr : o.state = .running) : activeMutation db o = false := by
  rw [activeMutation, List.any_eq_false]
  intro x hx hblock
  simp only [Bool.and_eq_true, decide_eq_true_eq] at hblock
  obtain ⟨⟨⟨hnode, hne⟩, hxm⟩, hxr⟩ := hblock
  exact hne (hinv.exclusive x.id o.id x o (get?_of_mem hx) ho hnode hxm hm hxr hr)

lemma selectOperation_progress (hinv : QueueInv db) (hl : Linked db)
    (he : ExpiredMutation db call.now nodeId e) (hfree : Unobstructed db nodeId e) (rounds : ℕ) :
    ∃ selected d, selectOperation call nodeId (rounds + 1) [] db = .ok (selected, d) ∧
      (Settled nodeId db d ∨
        ∃ o, selected = some o ∧ d.operations = db.operations ∧ o.nodeId = nodeId ∧
          o.state.unfinished = true ∧ (o.kind.mutating = true → activeMutation db o = false)) := by
  have hcand : e.nodeId = nodeId ∧ eligible db call.now e = true := by
    refine ⟨he.onNode, ?_⟩
    simp [eligible, he.running, he.expired]
  unfold selectOperation
  split
  · next hnone =>
    have hmiss := Table.firstBy_eq_none.mp hnone e (mem_of_get? he.stored)
    simp [hcand.1, hcand.2] at hmiss
  next o hfirst =>
  obtain ⟨hmem, hsel⟩ := mem_of_firstBy hfirst
  simp only [Bool.and_eq_true, decide_eq_true_eq] at hsel
  have ho := get?_of_mem hmem
  have hle : queueOrder o ≤ queueOrder e := by
    apply Table.firstBy_le hfirst (mem_of_get? he.stored)
    simp [hcand.1, hcand.2]
  obtain ⟨hun, hsame⟩ := he.first hinv hfree ho hsel.1.1 hsel.2 hle
  obtain ⟨authority, d, hauth, hkeep, hlost⟩ :=
    @claimHasAuthority_succeeds db call o hl hinv.paired ho
  rw [hauth, ok_bind]
  simp only
  split
  · next htrue =>
    refine ⟨_, _, rfl, .inr ⟨o, rfl, ((claimHasAuthority_effect hauth).2 htrue).1, hsel.1.1,
      hun, ?_⟩⟩
    intro hm
    have hoe : o = e := eq_of_key hmem (mem_of_get? he.stored) (hsame hm)
    subst hoe
    exact activeMutation_eq_false hinv ho hm he.running
  next hfalse =>
  have hfalse : authority = false := by simpa using hfalse
  split
  · next hsigned =>
    have hd := hkeep hfalse hsigned
    subst hd
    have hpark : Settled nodeId d (parkOperation d call.now o.id) :=
      ⟨o, ho, hsel.1.1, hun, finished_setOperation ho rfl⟩
    obtain ⟨selected, d', hd', _⟩ := @selectOperation_succeeds (parkOperation d call.now o.id) call
      (hl.park call.now o.id) (hinv.paired.quiet (quiet_parkOperation call.now o.id)) nodeId rounds
      ([] ++ [o.id])
    refine ⟨selected, d', hd', .inl (hpark.calm ?_)⟩
    refine (selectOperation_effect ?_ ?_ hd').1.toCalm
    · intro id hid x hx
      rw [List.nil_append, List.mem_singleton] at hid
      rw [hid, parkOperation, get?_setOperation] at hx
      obtain ⟨y, _, rfl⟩ := Option.map_eq_some_iff.mp hx
      simp
    intro id hid
    rw [List.nil_append, List.mem_singleton] at hid
    obtain ⟨x, hx, _⟩ := (@quiet_parkOperation d call.now o.id).toCalm.operation_to ho
    rw [hid]
    exact ⟨x, hx⟩
  next hunsigned =>
  have hunsigned : o.kind.signed = false := by simpa using hunsigned
  refine ⟨_, _, rfl, .inl ⟨o, ho, hsel.1.1, hun, hlost hfalse hunsigned ?_⟩⟩
  intro job hjob hr
  exact hfree.parents o.id o job ho hsel.1.1 hun hunsigned hle hjob hr

end Selection

section Admission

variable {call : Call}

structure SameQueue (db db' : Database) : Prop where
  operations : db'.operations = db.operations
  attempts : db'.attempts = db.attempts
  jobs : db'.jobs = db.jobs
  reconciliations : db'.reconciliations = db.reconciliations
  projections : db'.projections = db.projections

variable {d : Database} {node : AgentNode} {certificate : AgentCertificate}
  {advertised : Option AgentImplementation} {protocolVersion : Option ℕ}
  {capabilities : Option (List Capability)} {cfg : Config} {req : ClaimRequest} {fence : Uuid}

lemma exists_setNode {k : NodeId} {f : AgentNode → AgentNode}
    {hf : ∀ node, (f node).nodeId = node.nodeId} (h : db.nodes.get? nodeId = some node) :
    ∃ node', (setNode db k f hf).nodes.get? nodeId = some node' := by
  simp only [setNode, get?_updateWhere, h, Option.map_some]
  exact ⟨_, rfl⟩

lemma lockIdentity_node {serial : Serial}
    (h : lockIdentity db nodeId serial = some (node, certificate)) :
    db.nodes.get? nodeId = some node := by
  obtain ⟨n, hn, h⟩ := Option.bind_eq_some_iff.mp h
  obtain ⟨c, _, h⟩ := Option.bind_eq_some_iff.mp h
  split at h
  · cases h
    exact hn
  cases h

lemma negotiateImplementation_node {node₀ : AgentNode}
    (h : negotiateImplementation db now node certificate advertised protocolVersion capabilities =
      .ok d) (hget : db.nodes.get? nodeId = some node₀) :
    ∃ node', d.nodes.get? nodeId = some node' := by
  unfold negotiateImplementation at h
  simp only at h
  repeat' split at h
  all_goals cases h
  all_goals first
    | exact exists_setNode hget
    | exact ⟨node₀, hget⟩

lemma QueueInv.same (h : QueueInv db) (hs : SameQueue db d) : QueueInv d := by
  have hquiet := quiet_of_tables hs.operations hs.attempts
  refine ⟨h.fenced.calm hquiet.toCalm, h.exclusive.calm hquiet.toCalm,
    h.unstarted.calm hquiet.toCalm, h.paired.quiet hquiet, h.inOrder.calm hquiet.toCalm ?_⟩
  intro x hx hnone
  rw [hs.operations] at hx
  have hget : db.operations.get? x.id = some x := get?_of_mem hx
  rw [hnone] at hget
  cases hget

lemma Linked.same (h : Linked db) (hs : SameQueue db d) : Linked d := by
  constructor
  · rw [hs.operations, hs.jobs]
    exact h.parent
  · rw [hs.operations, hs.jobs]
    exact h.unsigned
  · rw [hs.operations, hs.jobs, hs.reconciliations, hs.projections]
    exact h.reconciled
  rw [hs.operations, hs.jobs, hs.reconciliations, hs.projections]
  exact h.projected

lemma ExpiredMutation.same (h : ExpiredMutation db now nodeId e) (hs : SameQueue db d) :
    ExpiredMutation d now nodeId e := by
  refine ⟨by rw [hs.operations]; exact h.stored, h.onNode, h.mutating, h.running, ?_⟩
  rw [expiredAttempt, hs.attempts]
  exact h.expired

lemma Unobstructed.same (h : Unobstructed db nodeId e) (hs : SameQueue db d) :
    Unobstructed d nodeId e := by
  constructor
  · rw [hs.operations]
    exact h.answered
  rw [hs.operations, hs.jobs]
  exact h.parents

/-- A valid claim by an active identity that advertises every operation, under a new fence. -/
structure Admitted (cfg : Config) (call : Call) (req : ClaimRequest) (fence : Uuid)
    (db : Database) : Prop where
  lease : req.leaseSeconds ≠ 0
  protocol : ∃ v, req.protocolVersion = some v ∧ 2 ≤ v ∧ v ≤ 2147483647
  capabilities : ∃ l, req.capabilities = some l ∧ l.Nodup ∧ ∀ k, Capability.operation k ∈ l
  implementation : req.agentImplementation ≠ some .pending
  identity : ∃ node certificate,
    lockIdentity db req.nodeId req.certificateSerial = some (node, certificate) ∧
    identityIsActive node certificate call.now = true ∧
    (∃ d, negotiateImplementation db call.now node certificate req.agentImplementation
      req.protocolVersion req.capabilities = .ok d) ∧
    consumeContact cfg req.source node certificate = .ok ()
  fence : Unused db fence
  receipts : ∀ id o receipt, db.operations.get? id = some o → o.nodeId = req.nodeId →
    o.currentAttempt = 0 → o.payload.receipt = some receipt → Unused db receipt.fence
  targets : ∀ id o job, db.operations.get? id = some o → o.nodeId = req.nodeId →
    db.jobs.get? o.parentJobId = some job → job.reconciliationId.isSome = true →
      job.targets ≠ [] ∧ job.targets.Nodup ∧ ∀ n ∈ job.targets, ∃ node, db.nodes.get? n = some node

lemma map_nodeId_filterMap {l : List NodeId} (h : ∀ n ∈ l, ∃ node, db.nodes.get? n = some node) :
    (l.filterMap db.nodes.get?).map (·.nodeId) = l := by
  induction l with
  | nil => rfl
  | cons n l ih =>
    obtain ⟨node, hnode⟩ := h n List.mem_cons_self
    have hid : node.nodeId = n := get?_key hnode
    rw [List.filterMap_cons_some hnode, List.map_cons, hid,
      ih fun m hm => h m (.tail _ hm)]

lemma Admitted.lock (h : Admitted cfg call req fence db) :
    lockReconciliationHint db req.nodeId = .ok () := by
  unfold lockReconciliationHint
  split
  · next hint hhint =>
    obtain ⟨hmem, hsel⟩ := mem_of_firstBy hhint
    simp only [Bool.and_eq_true, decide_eq_true_eq] at hsel
    have hget := get?_of_mem hmem
    unfold lockReconciliationTargets
    split
    · rfl
    next job hjob =>
    rw [key_operation] at hget
    rw [hget, Option.bind_some] at hjob
    split
    · rfl
    next hrec =>
    have hsome : job.reconciliationId.isSome = true := by
      cases hr : job.reconciliationId <;> simp [hr] at hrec ⊢
    obtain ⟨hne, hnodup, hreg⟩ := h.targets hint.id hint job hget hsel.1.1 hjob hsome
    have hsorted : ∀ n ∈ job.targets.insertionSort (· ≤ ·),
        ∃ node, db.nodes.get? n = some node := by
      intro n hn
      exact hreg n ((List.mem_insertionSort _).mp hn)
    simp [hne, hnodup, map_nodeId_filterMap hsorted]
  rfl

lemma claim_progress (hadm : Admitted cfg call req fence db) (hinv : QueueInv db) (hl : Linked db)
    (he : ExpiredMutation db call.now req.nodeId e) (hfree : Unobstructed db req.nodeId e) :
    ∃ r d, claim cfg call req fence db = .ok (r, d) ∧
      (r.isSome = true ∨ Settled req.nodeId db d) := by
  obtain ⟨v, hv, hv2, hvmax⟩ := hadm.protocol
  obtain ⟨l, hcaps, hnodup, hall⟩ := hadm.capabilities
  obtain ⟨node, certificate, hlock, hactive, ⟨d₁, hneg⟩, hcontact⟩ := hadm.identity
  have hl₀ : l ≠ [] := List.ne_nil_of_mem (hall .nodeProbe)
  unfold claim
  rw [if_neg (by simp [hadm.lease, hv]; omega), if_neg (by simp [hcaps, hl₀, hnodup]),
    if_neg hadm.implementation]
  unfold claimOnce
  rw [hadm.lock, ok_bind, hlock]
  simp only [hactive, Bool.true_eq_false, if_false, hneg, ok_bind, hcontact]
  -- everything the selection reads is as before the contact
  generalize hd₂ : recordContact cfg d₁ req.nodeId certificate call.now req.protocolVersion
    req.capabilities req.runtimeIdentity = d₂
  have hsame : SameQueue db d₂ := by
    obtain ⟨_, _, rfl⟩ := negotiateImplementation_eq hneg
    rw [← hd₂]
    exact ⟨rfl, rfl, rfl, rfl, rfl⟩
  obtain ⟨node₂, hnode₂⟩ : ∃ node₂, d₂.nodes.get? req.nodeId = some node₂ := by
    obtain ⟨node₁, hnode₁⟩ := negotiateImplementation_node hneg (lockIdentity_node hlock)
    rw [← hd₂]
    exact exists_setNode hnode₁
  have hrows : ∃ rounds, d₂.operations.rows.length = rounds + 1 := by
    have hmem := mem_of_get? (he.same hsame).stored
    exact Nat.exists_eq_succ_of_ne_zero (List.length_pos_of_mem hmem).ne'
  obtain ⟨rounds, hrounds⟩ := hrows
  have hinv₂ := hinv.same hsame
  have hl₂ := hl.same hsame
  obtain ⟨selected, d, hsel, hprog⟩ := selectOperation_progress hinv₂ hl₂ (he.same hsame)
    (hfree.same hsame) rounds
  obtain ⟨selected', d', hsel', hlinked⟩ := @selectOperation_succeeds d₂ call hl₂ hinv₂.paired
    req.nodeId (rounds + 1) []
  rw [hsel] at hsel'
  cases hsel'
  obtain ⟨hquiet, hfound⟩ := selectOperation_effect (fun _ hid => by cases hid)
    (fun _ hid => by cases hid) hsel
  have hsettled : ∀ x, Settled req.nodeId d₂ x → Settled req.nodeId db x := by
    rintro x ⟨o, ho, hrest⟩
    exact ⟨o, by rw [← hsame.operations]; exact ho, hrest⟩
  rw [hrounds, hsel, ok_bind]
  simp only [hnode₂]
  cases selected with
  | none =>
    refine ⟨none, d, rfl, .inr (hsettled d ?_)⟩
    rcases hprog with hset | ⟨o, ho, _⟩
    · exact hset
    cases ho
  | some o =>
    obtain ⟨hld, o₀, ho₀, hnode₀, hattempt, hpay⟩ := hlinked o rfl
    have hstored := (hfound o rfl).stored
    have hunused : ∀ f, Unused db f → Unused d f := by
      intro f hf a ha
      obtain ⟨b, hb, hcl⟩ := hquiet.toCalm.attempt_of (get?_of_mem ha)
      rw [hcl.fence]
      rw [hsame.attempts] at hb
      exact hf b (mem_of_get? hb)
    have hreceipt : o.currentAttempt = 0 → ∀ receipt, o.payload.receipt = some receipt →
        Unused d receipt.fence := by
      intro hfirst receipt hr
      rw [hsame.operations] at ho₀
      rw [← hpay] at hr
      exact hunused _ (hadm.receipts o.id o₀ receipt ho₀ hnode₀ (hattempt.trans hfirst) hr)
    obtain ⟨r, d'', hclaim, hmade⟩ := @claimSelected_succeeds d call o hld
      (hinv₂.fenced.calm hquiet.toCalm) (hinv₂.paired.quiet hquiet) hstored req fence
      (hunused fence hadm.fence) hreceipt node₂
    refine ⟨r, d'', hclaim, ?_⟩
    rcases hprog with hset | ⟨o', ho', hops, hnode', hun, hact⟩
    · cases r with
      | some c => exact .inl rfl
      | none =>
        have heff := claimSelected_effect (hfound o rfl) hclaim
        exact .inr (hsettled d'' (hset.calm heff.toCalm))
    cases ho'
    have hadv : advertisesOperation req o.kind = true := by
      simp [advertisesOperation, hcaps, hv, hall o.kind, hv2]
    have hfree' : o.kind.mutating = true → activeMutation d o = false := by
      intro hm
      rw [activeMutation, hops]
      exact hact hm
    rcases hmade hadv hfree' with hsome | hfin
    · exact .inl hsome
    rw [hops] at hstored
    exact .inr (hsettled d'' ⟨o, hstored, hnode', hun, hfin⟩)

end Admission

def StateChanged (nodeId : NodeId) (db db' : Database) : Prop :=
  ∃ o ∈ db.operations.rows, o.nodeId = nodeId ∧
    ∃ o', db'.operations.get? o.id = some o' ∧ o'.state ≠ o.state

lemma Settled.stateChanged (h : Settled nodeId db db') : StateChanged nodeId db db' := by
  obtain ⟨o, ho, hnode, hun, o', ho', hfin⟩ := h
  refine ⟨o, mem_of_get? ho, hnode, o', ho', ?_⟩
  intro he
  rw [he, hun] at hfin
  cases hfin

lemma not_stateChanged (h : db'.operations = db.operations) : ¬ StateChanged nodeId db db' := by
  rintro ⟨o, ho, _, o', ho', hne⟩
  rw [h, ← key_operation, get?_of_mem ho] at ho'
  cases ho'
  exact hne rfl

/-- In a run that stores no mutation ahead of one running on its node, an expired mutation that
nothing else obstructs does not wedge its node. -/
theorem run_claim_progress (cfg : Config) {events : List (Time × QueueEvent)}
    (horder : Along (queueStep cfg) (StoresInOrder cfg) .initial events)
    {delay : Time} {commit : Option CommitView} {req : ClaimRequest} {fence : Uuid}
    {e : StoredOperation}
    (hadm : Admitted cfg ⟨(run (queueStep cfg) .initial events).clock + delay, commit⟩ req fence
      (run (queueStep cfg) .initial events).db)
    (hlinked : Linked (run (queueStep cfg) .initial events).db)
    (he : ExpiredMutation (run (queueStep cfg) .initial events).db
      ((run (queueStep cfg) .initial events).clock + delay) req.nodeId e)
    (hfree : Unobstructed (run (queueStep cfg) .initial events).db req.nodeId e) :
    ∃ t output, queueStep cfg (run (queueStep cfg) .initial events)
        (delay, .claim commit req fence) = .ok (t, output) ∧
      ((∃ c, output = .claimed c) ∨
        StateChanged req.nodeId (run (queueStep cfg) .initial events).db t.db) := by
  obtain ⟨r, d, hclaim, hprog⟩ := claim_progress hadm (queueInv_run cfg horder) hlinked he hfree
  simp only [queueStep, queueWrites, hclaim, ok_bind]
  refine ⟨_, _, rfl, ?_⟩
  rcases hprog with hsome | hset
  · obtain ⟨c, rfl⟩ := Option.isSome_iff_exists.mp hsome
    exact .inl ⟨c, rfl⟩
  exact .inr hset.stateChanged

def oneNode : Database where
  nodes := .single { nodeId := 1 }
  certificates := .single
    { serial := 7, nodeId := 1, notBefore := 0, notAfter := seconds 86400, fingerprint := 9 }
  jobs := .single { id := 5, targets := [1] }

def startOperation (id : Uuid) : NewOperation :=
  ⟨id, 5, 1, .workloadStart, 0, { canonicalDigest := 3 }⟩

def pollNode : ClaimRequest where
  nodeId := 1
  certificateSerial := 7
  leaseSeconds := 30
  protocolVersion := some 2
  capabilities := some (AgentOperation.all.map .operation)

def expiredRun : List (Time × QueueEvent) :=
  [(0, .environment oneNode), (2, .enqueue 2 (startOperation 20) false),
    (1, .claim none pollNode 100)]

def startedStart : StoredOperation where
  id := 20
  parentJobId := 5
  nodeId := 1
  kind := .workloadStart
  payloadDigest := 3
  payload := { canonicalDigest := 3 }
  state := .running
  currentAttempt := 1
  createdAt := 2
  updatedAt := 3

/-- The same, but a second mutation is stored after the claim with the time at which its
transaction began, before that of the first one. -/
def wedgedRun : List (Time × QueueEvent) :=
  expiredRun ++ [(1, .enqueue 1 (startOperation 21) false)]

section Instances

lemma linked_of_unreconciled (hparent : ∀ o ∈ db.operations.rows,
      (db.jobs.get? o.parentJobId).isSome = true)
    (hjobs : ∀ job ∈ db.jobs.rows, job.reconciliationId = none)
    (hprojections : db.projections.rows = []) : Linked db where
  parent id o ho := Option.isSome_iff_exists.mp (hparent o (mem_of_get? ho))
  unsigned id o job _ hjob hr := by simp [hjobs job (mem_of_get? hjob)] at hr
  reconciled id o job r _ hjob hr := by simp [hjobs job (mem_of_get? hjob)] at hr
  projected p hp := by simp [hprojections] at hp

lemma admitted_pollNode {call : Call} {fence : Uuid}
    (hidentity : ∃ node certificate,
      lockIdentity db pollNode.nodeId pollNode.certificateSerial = some (node, certificate) ∧
      identityIsActive node certificate call.now = true ∧ node.agentImplementation = .python)
    (hfence : Unused db fence)
    (hreceipts : ∀ o ∈ db.operations.rows, o.payload.receipt = none)
    (hjobs : ∀ job ∈ db.jobs.rows, job.reconciliationId = none) :
    Admitted {} call pollNode fence db where
  lease := by decide
  protocol := ⟨2, rfl, by decide, by decide⟩
  capabilities := ⟨_, rfl, by decide, fun k => List.mem_map_of_mem (AgentOperation.mem_all k)⟩
  implementation := by decide
  identity := by
    obtain ⟨node, certificate, hlock, hactive, hpython⟩ := hidentity
    refine ⟨node, certificate, hlock, hactive, ?_, rfl⟩
    simp [negotiateImplementation, hpython, pollNode]
  fence := hfence
  receipts id o receipt ho _ _ hr := by simp [hreceipts o (mem_of_get? ho)] at hr
  targets id o job _ _ hjob hr := by simp [hjobs job (mem_of_get? hjob)] at hr

end Instances

/-- A minute after its claim the mutation is quarantined. -/
theorem expiredRun_claim_progress :
    ∃ t output, queueStep {} (run (queueStep {}) .initial expiredRun)
        (seconds 60, .claim none pollNode 101) = .ok (t, output) ∧
      ((∃ c, output = .claimed c) ∨
        StateChanged 1 (run (queueStep {}) .initial expiredRun).db t.db) := by
  apply @run_claim_progress {} expiredRun (by decide) (seconds 60) none pollNode 101 startedStart
  · apply admitted_pollNode
    · exact ⟨_, _, rfl, by decide, rfl⟩
    · show ∀ a ∈ _, _
      decide
    · decide
    decide
  · apply linked_of_unreconciled <;> decide
  · exact ⟨by decide, rfl, rfl, rfl, by decide⟩
  constructor
  · intro id x hx _ hw
    have hrun : ∀ o ∈ (run (queueStep {}) .initial expiredRun).db.operations.rows,
        o.state = .running := by decide
    rw [hrun x (mem_of_get? hx)] at hw
    cases hw
  intro id x job _ _ _ _ _ hjob _
  have hstate : ∀ job ∈ (run (queueStep {}) .initial expiredRun).db.jobs.rows,
      terminalParent job.state = false := by decide
  exact hstate job (mem_of_get? hjob)

/-- The claim finds the earlier stored mutation first, which the expired one blocks, and returns
nothing. -/
theorem wedgedRun_blocks :
    (∃ e, ExpiredMutation (run (queueStep {}) .initial wedgedRun).db
      ((run (queueStep {}) .initial wedgedRun).clock + seconds 60) 1 e) ∧
    Admitted {} ⟨(run (queueStep {}) .initial wedgedRun).clock + seconds 60, none⟩ pollNode 101
      (run (queueStep {}) .initial wedgedRun).db ∧
    Linked (run (queueStep {}) .initial wedgedRun).db ∧
    ∃ t, queueStep {} (run (queueStep {}) .initial wedgedRun)
        (seconds 60, .claim none pollNode 101) = .ok (t, .done) ∧
      ¬ StateChanged 1 (run (queueStep {}) .initial wedgedRun).db t.db := by
  refine ⟨⟨startedStart, by decide, rfl, rfl, rfl, by decide⟩, ?_, ?_, _, rfl, ?_⟩
  · apply admitted_pollNode
    · exact ⟨_, _, rfl, by decide, rfl⟩
    · show ∀ a ∈ _, _
      decide
    · decide
    decide
  · apply linked_of_unreconciled <;> decide
  apply not_stateChanged
  decide

end VonkForge.AgentJobs
