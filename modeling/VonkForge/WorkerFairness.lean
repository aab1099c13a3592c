import VonkForge.UpdateWorker
import VonkForge.RolloutRuns

/-!
# Which rollout a tick handles

A tick handles exactly the oldest rollout that it does not pass over.
-/

namespace VonkForge.Updates

open AgentJobs NodeLeases AgentReconciliation Table

def OlderPassedOver (view : TickView) (s : System) (u : UpdateRollout) : Prop :=
  ∀ w ∈ candidates s.db, rolloutOrder w < rolloutOrder u → tickRollout view s w.id = none

section Tick

variable {view : TickView} {s : System} {db : Database} {u a b : UpdateRollout} {id : Uuid}
  {r : System × Except JobError Unit} {l : List UpdateRollout}

lemma mem_candidates_iff : u ∈ candidates db ↔ u ∈ db.rollouts.rows ∧ u.state ∈ advanceStates := by
  unfold candidates
  rw [List.mem_insertionSort, mem_select, decide_eq_true_eq]

lemma candidate_eq (ha : a ∈ candidates db) (hb : b ∈ candidates db) (h : a.id = b.id) : a = b :=
  eq_of_key (mem_candidates_iff.mp ha).1 (mem_candidates_iff.mp hb).1 h

lemma firstHandled_mem (h : firstHandled view s l = some (id, r)) :
    (∃ u ∈ l, u.id = id) ∧ tickRollout view s id = some r := by
  induction l with
  | nil => cases h
  | cons v l ih =>
    unfold firstHandled at h
    cases hv : tickRollout view s v.id with
    | some r' =>
      rw [hv] at h
      cases h
      exact ⟨⟨v, List.mem_cons_self, rfl⟩, hv⟩
    | none =>
      rw [hv] at h
      obtain ⟨⟨u, hu, hid⟩, hr⟩ := ih h
      exact ⟨⟨u, .tail _ hu, hid⟩, hr⟩

lemma firstHandled_eq_some (hsorted : l.Pairwise fun a b => rolloutOrder a ≤ rolloutOrder b)
    (hinj : ∀ a ∈ l, ∀ b ∈ l, a.id = b.id → a = b) (hu : u ∈ l) :
    firstHandled view s l = some (u.id, r) ↔ tickRollout view s u.id = some r ∧
      ∀ w ∈ l, rolloutOrder w < rolloutOrder u → tickRollout view s w.id = none := by
  induction l with
  | nil => cases hu
  | cons v l ih =>
    obtain ⟨hfirst, hrest⟩ := List.pairwise_cons.mp hsorted
    have hleast : ∀ w ∈ v :: l, rolloutOrder v ≤ rolloutOrder w := by
      intro w hw
      rcases List.mem_cons.mp hw with rfl | hw
      · exact le_refl _
      exact hfirst w hw
    cases hv : tickRollout view s v.id with
    | some r' =>
      simp only [firstHandled, hv, Option.some.injEq, Prod.mk.injEq]
      constructor
      · rintro ⟨hid, rfl⟩
        obtain rfl := hinj v List.mem_cons_self u hu hid
        exact ⟨hv, fun w hw hlt => absurd hlt (not_lt.mpr (hleast w hw))⟩
      rintro ⟨hr, hpassed⟩
      -- an older rollout at the head would have been passed over
      have hle : rolloutOrder u ≤ rolloutOrder v := by
        by_contra hlt
        rw [hpassed v List.mem_cons_self (not_le.mp hlt)] at hv
        cases hv
      have hid : v.id = u.id :=
        (Prod.ext_iff.mp (toLex.injective (le_antisymm (hleast u hu) hle))).2
      rw [← hid, hv] at hr
      exact ⟨hid, Option.some.inj hr⟩
    | none =>
      simp only [firstHandled, hv]
      rcases List.mem_cons.mp hu with rfl | hmem
      · rw [hv]
        constructor
        · intro h
          rw [(firstHandled_mem h).2] at hv
          cases hv
        rintro ⟨hr, -⟩
        cases hr
      rw [ih hrest (fun a ha b hb => hinj a (.tail _ ha) b
        (.tail _ hb)) hmem]
      apply and_congr_right
      intro _
      constructor
      · intro h w hw hlt
        rcases List.mem_cons.mp hw with rfl | hw
        · exact hv
        exact h w hw hlt
      intro h w hw
      exact h w (.tail _ hw)

lemma tick_eq_iff (hu : u ∈ candidates s.db) {s' : System} {result : Except JobError Unit} :
    tick view s = (s', some (u.id, result)) ↔
      tickRollout view s u.id = some (s', result) ∧ OlderPassedOver view s u := by
  have hiff := @firstHandled_eq_some view s u (s', result) (candidates s.db)
    (List.pairwise_insertionSort _ _)
    (fun a ha b hb => candidate_eq ha hb) hu
  unfold OlderPassedOver
  rw [← hiff]
  unfold tick
  cases h : firstHandled view s (candidates s.db) with
  | none => simp
  | some x =>
    obtain ⟨id, s₁, result₁⟩ := x
    simp only [Prod.mk.injEq, Option.some.injEq]
    tauto

lemma snapshot_eq_some {x : UpdateRollout × List NodeId} (h : snapshot db id = some x) :
    db.rollouts.get? id = some x.1 ∧ x.1.state ∈ advanceStates := by
  unfold snapshot at h
  split at h
  · cases h
  next u hu =>
  simp only at h
  split_ifs at h with hstate
  cases h
  exact ⟨hu, hstate⟩

lemma candidate_of_tickRollout (h : tickRollout view s id = some r) :
    ∃ u ∈ candidates s.db, u.id = id := by
  unfold tickRollout at h
  split_ifs at h
  split at h
  · cases h
  next u targets hsnapshot =>
  obtain ⟨hu, hstate⟩ := snapshot_eq_some hsnapshot
  exact ⟨u, mem_candidates_iff.mpr ⟨mem_of_get? hu, hstate⟩, get?_key hu⟩

end Tick

/-- Ticks without end; between two of them other components may write the system. -/
structure WorkerRun where
  state : ℕ → System
  view : ℕ → TickView
  environment : ℕ → System → System
  next : ∀ n, state (n + 1) = environment n (tick (view n) (state n)).1

namespace WorkerRun

variable (run : WorkerRun) (n : ℕ) (id : Uuid)

/-- The rollout is gone or in a state in which no tick advances it. -/
def Ended : Prop := ∀ u ∈ candidates (run.state n).db, u.id ≠ id

def WouldSucceed : Prop := ∃ s', tickRollout (run.view n) (run.state n) id = some (s', .ok ())

def Advances : Prop := ∃ s', tick (run.view n) (run.state n) = (s', some (id, .ok ()))

/-- Every rollout that the worker takes before this one is passed over. -/
def OldersPassedOver : Prop :=
  ∀ u ∈ candidates (run.state n).db, u.id = id → OlderPassedOver (run.view n) (run.state n) u

end WorkerRun

/-- A rollout whose next step would succeed is advanced infinitely often, or ends, just when
infinitely often every older one is passed over, or it ends. -/
theorem worker_advances_iff (run : WorkerRun) (id : Uuid)
    (hready : ∀ n, run.Ended n id ∨ run.WouldSucceed n id) :
    (∀ m, ∃ n, m ≤ n ∧ (run.Ended n id ∨ run.Advances n id)) ↔
      ∀ m, ∃ n, m ≤ n ∧ (run.Ended n id ∨ run.OldersPassedOver n id) := by
  have hstep (n : ℕ) : run.Ended n id ∨ run.Advances n id ↔
      run.Ended n id ∨ run.OldersPassedOver n id := by
    rcases hready n with hended | ⟨s', hs'⟩
    · exact iff_of_true (.inl hended) (.inl hended)
    obtain ⟨u, hu, rfl⟩ := candidate_of_tickRollout hs'
    apply or_congr_right
    constructor
    · rintro ⟨t, ht⟩ w hw hid
      obtain rfl := candidate_eq hw hu hid
      exact ((tick_eq_iff hu).mp ht).2
    intro h
    exact ⟨s', (tick_eq_iff hu).mpr ⟨hs', h u hu rfl⟩⟩
  simp only [hstep]

namespace TwoAgents

open OneAgent (digests source capabilities answer)

section

variable (n : NodeId) (t : ℕ)

def uuid4 (n : ℕ) : Uuid := 4 * 2 ^ 76 + 2 ^ 63 + n

def agent : AgentNode :=
  { nodeId := n, runtime := some (source 1 OneAgent.first_generation), protocolVersion := some 3,
    capabilities := capabilities, lastSeenAt := some (seconds 10) }

def enrolled : Database :=
  { nodes := ⟨[agent 1, agent 2], by decide⟩ }

def plan : UpdatePlan :=
  { planDigest := n, batches := [⟨[n], by simp, by simp⟩],
    sources := [⟨n, sourceIdentity (agent n), 0⟩], payloads := [(n, { payloadSha256 := 11 })],
    targetPlatformVersion := ⟨2, 0, 0⟩, targetBuildDigest := 21, protocolRange := (1, 5) }

def issuer : GrantIssuer := ⟨0, uuid4 77, fun _ => 0, fun _ _ => true⟩

def callAt : CallView :=
  { now := seconds t, digests := digests, fresh := fun n => ⟨1000 * n, 1000 * n + 1, uuid4 (1000 * n)⟩,
    fence := 5, withdrawal := .done ⟨uuid4 9, 0, [1], seconds t, seconds (t + 1)⟩,
    restoration := .done (), sign := fun r => .ok (answer r) }

def tickAt (renewal : RenewalAnswer) : TickView :=
  { now := seconds t, issuer := issuer, renewal := fun _ => renewal, call := fun _ => callAt t }

/-- The first agent's rollout is dispatched, then the publication has a new owner; the second
agent's rollout is created after that. -/
def supersededRun : List WorkerEvent :=
  [.create (callAt 11).toRolloutView (plan 1) (uuid4 9) (uuid4 3) none,
    .tick (tickAt 12 .done), .tick (tickAt 13 .done),
    .tick (tickAt 14 (.failed (.runtimeError "route publication was superseded") true)),
    .create (callAt 15).toRolloutView (plan 2) (uuid4 10) (uuid4 4) none]

def blocked : System := workerRun { db := enrolled } supersededRun

def olderGrant : AdminGrant :=
  ⟨⟨.agentUpdate, 3612, uuid4 77, [1], uuid4 3, uuid4 9, some 0⟩, 0, 0⟩

def older : UpdateRollout :=
  { plan 1 with
    id := uuid4 9, jobId := some (uuid4 3), state := .updating,
    updateAdminGrant := some olderGrant, createdAt := seconds 11 }

def newer : UpdateRollout :=
  { plan 2 with id := uuid4 10, jobId := some (uuid4 4), createdAt := seconds 15 }

def newerNode : UpdateRolloutNode :=
  { rolloutId := uuid4 10, nodeId := 2, batchIndex := 0, nodeOrder := 0, sourceIdentityDigest := 5,
    targetArtifactDigest := 11 }

def pollNodes (nodes : Table AgentNode) : Table AgentNode :=
  nodes.updateWhere (fun n => decide (n.nodeId = 2)) fun n => { n with lastSeenAt := some (seconds t) }

def polled (s : System) : System :=
  { s with db := { s.db with nodes := pollNodes t s.db.nodes } }

lemma polled_polled (t' : ℕ) (s : System) : polled t (polled t' s) = polled t s := by
  have hnodes : pollNodes t (pollNodes t' s.db.nodes) = pollNodes t s.db.nodes := by
    apply ext_rows
    simp only [pollNodes, Table.updateWhere, List.map_map]
    apply List.map_congr_left
    intro n _
    by_cases hn : n.nodeId = 2 <;> simp [hn]
  simp only [polled, hnodes]

lemma candidates_polled (s : System) : candidates (polled t s).db = candidates s.db := rfl

def superseded : JobError := .runtimeError "route update boundary was superseded"

structure Starving (s : System) : Prop where
  older : older ∈ candidates s.db
  newer : newer ∈ candidates s.db
  first : ∀ w ∈ candidates s.db, ¬ rolloutOrder w < rolloutOrder TwoAgents.older
  olderSnapshot : snapshot s.db (uuid4 9) = some (TwoAgents.older, [1])
  renewal : renewIfActive s.fence (uuid4 9, 0) .done = (s.fence, .error superseded)
  newerSnapshot : snapshot s.db (uuid4 10) = some (TwoAgents.newer, [2])
  stored : s.db.rollouts.get? (uuid4 10) = some TwoAgents.newer
  rows : batchRows s.db TwoAgents.newer = [newerNode]
  batch : batchNodes digests s.db TwoAgents.newer = .ok [newerNode]
  agent : s.db.nodes.get? 2 = some (agent 2)
  free : s.db.leases.get? 2 = none
  idle : mutationIsRunning s.db [newerNode] = false

lemma blocked_starving : Starving blocked :=
  ⟨by decide +kernel, by decide +kernel, by decide +kernel, by decide +kernel, by decide +kernel,
    by decide +kernel, by decide +kernel, by decide +kernel, by decide +kernel, by decide +kernel,
    by decide +kernel, by decide +kernel⟩

variable {s : System}

lemma tick_starving (h : Starving s) (t : ℕ) : tick (tickAt t .done) (polled t s) =
    (polled t s, some (uuid4 9, .error superseded)) := by
  have hmem : older ∈ candidates (polled t s).db := h.older
  refine (tick_eq_iff hmem).mpr ⟨?_, ?_⟩
  · have hsnapshot : snapshot (polled t s).db (uuid4 9) = some (older, [1]) := h.olderSnapshot
    have hrenew : renewIfActive (polled t s).fence (uuid4 9, 0) .done =
        ((polled t s).fence, .error superseded) := h.renewal
    change tickRollout (tickAt t .done) (polled t s) (uuid4 9) = _
    unfold tickRollout
    rw [if_neg Bool.noConfusion, hsnapshot]
    simp only [older, tickAt, reduceCtorEq, if_false, hrenew]
  intro w hw hlt
  exact absurd hlt (h.first w hw)

def newerGrant : AdminGrant :=
  ⟨⟨.agentUpdate, epoch (seconds t) + 3600, uuid4 77, [2], uuid4 4, uuid4 10, some 0⟩, 0, 0⟩

lemma refresh_newer (h : Starving s) (t : ℕ) :
    refreshUpdateGrant issuer (seconds t) (polled t s).db (uuid4 10) 0 [2] =
      .ok (setRollout (polled t s).db (uuid4 10) fun r =>
        { r with updateAdminGrant := some (newerGrant t) }) := by
  have hget : (polled t s).db.rollouts.get? (uuid4 10) = some newer := h.stored
  have hrows : batchRows (polled t s).db newer = [newerNode] := h.rows
  have hissue : issueGrant issuer (seconds t) .agentUpdate (uuid4 10) (uuid4 4) [2] (some 0)
      (epoch (seconds t) + 3600) = .ok (newerGrant t) := by
    unfold issueGrant
    rw [if_neg (by decide), if_neg (by decide), if_neg (by decide), if_neg (by omega),
      if_neg (by decide)]
    rfl
  unfold refreshUpdateGrant
  rw [if_neg (by decide), if_neg (by decide), hget]
  change (let nodes := batchRows (polled t s).db newer
    if newer.state ≠ .planned ∨ newer.currentBatch ≠ 0 then _ else _) = _
  simp only [hrows]
  change (do
    let grant ← issueGrant issuer (seconds t) .agentUpdate (uuid4 10) (uuid4 4) [2] (some 0)
      (epoch (seconds t) + 3600)
    _) = _
  rw [hissue]
  rfl

lemma sourceIdentity_polled (node : AgentNode) (t : Option Time) :
    sourceIdentity { node with lastSeenAt := t } = sourceIdentity node := rfl

lemma agent_current (t : Time) : agentIsCurrent { agent n with lastSeenAt := some t } t = true := by
  have hfresh : t ≤ t + seconds 300 := Nat.le_add_right _ _
  unfold agentIsCurrent
  rw [Bool.and_eq_true, Option.any_some, decide_eq_true_eq]
  exact ⟨by rfl, hfresh⟩

end

lemma newer_would_succeed (h : Starving s) (t : ℕ) :
    ∃ s', tickRollout (tickAt t .done) (polled t s) (uuid4 10) = some (s', .ok ()) := by
  let u : UpdateRollout := { newer with updateAdminGrant := some (newerGrant t) }
  let s₁ : System := { polled t s with
    db := setRollout (polled t s).db (uuid4 10) fun r =>
      { r with updateAdminGrant := some (newerGrant t) } }
  have hsnapshot : snapshot (polled t s).db (uuid4 10) = some (newer, [2]) := h.newerSnapshot
  have hget : (polled t s).db.rollouts.get? newer.id = some newer := h.stored
  have hu : s₁.db.rollouts.get? u.id = some u :=
    get?_setRollout_self hget (fun r => { r with updateAdminGrant := some (newerGrant t) })
      (fun _ => rfl)
  have hnodes : batchNodes digests s₁.db u = .ok [newerNode] := by
    rw [← h.batch]
    exact batchNodes_congr rfl rfl rfl rfl
  have hagent : s₁.db.nodes.get? 2 = some { agent 2 with lastSeenAt := some (seconds t) } := by
    change (pollNodes t s.db.nodes).get? 2 = _
    rw [pollNodes, get?_updateWhere, h.agent]
    rfl
  have hsource : ∀ n ∈ [newerNode], sourceIsUnchanged s₁.db u n (seconds t) false = true := by
    intro n hn
    rw [List.mem_singleton.mp hn]
    unfold sourceIsUnchanged
    rw [show plannedSource u newerNode.nodeId = some ⟨2, sourceIdentity (agent 2), 0⟩ from rfl,
      show s₁.db.nodes.get? newerNode.nodeId = _ from hagent]
    simp only [agent_current, sourceIdentity_polled, decide_true, Bool.not_false, Bool.true_or,
      Bool.and_self]
  have hidle : mutationIsRunning s₁.db [newerNode] = false := h.idle
  have hleases : ∃ grant db', acquireInSession s₁.db (seconds t) 5 ([newerNode].map (·.nodeId))
      .updateRollout u.id = .ok (grant, db') := by
    have hacquire := @acquire_of_free ⟨[2], by simp, by simp⟩ s₁.db .updateRollout u.id 5 (seconds t)
      (fun n hn => by
        rw [mem_groupNodes, List.mem_singleton] at hn
        rw [hn]
        exact h.free)
      (fun n hn => by
        rw [mem_groupNodes, List.mem_singleton] at hn
        rw [hn]
        exact ⟨_, hagent⟩)
    exact ⟨_, _, hacquire⟩
  obtain ⟨db₁, fence, -, -, hadvance⟩ := @advance_planned (callAt t) u [newerNode] s₁
    ⟨hu, rfl, hnodes, hsource, rfl, hidle, hleases⟩
  have htick : tickRollout (tickAt t .done) (polled t s) (uuid4 10) =
      some (advance (callAt t) s₁ u.id) := by
    unfold tickRollout
    rw [if_neg Bool.noConfusion, hsnapshot]
    have hrefresh : refreshUpdateGrant (tickAt t .done).issuer (tickAt t .done).now (polled t s).db
        (uuid4 10) newer.currentBatch [2] = .ok s₁.db := refresh_newer h t
    dsimp only
    rw [hrefresh]
    rfl
  rw [hadvance] at htick
  exact ⟨_, htick⟩

def starved : WorkerRun where
  state n := polled (16 + n) blocked
  view n := tickAt (16 + n) .done
  environment n := polled (16 + (n + 1))
  next n := by
    rw [tick_starving blocked_starving]
    exact (polled_polled _ _ _).symm

end TwoAgents

open TwoAgents

theorem starved_advances_iff :
    (∀ m, ∃ n, m ≤ n ∧ (starved.Ended n newer.id ∨ starved.Advances n newer.id)) ↔
      ∀ m, ∃ n, m ≤ n ∧ (starved.Ended n newer.id ∨ starved.OldersPassedOver n newer.id) :=
  worker_advances_iff starved newer.id fun n => .inr (newer_would_succeed blocked_starving (16 + n))

/-- The older of two rollouts fails at every renewal, and the newer one is never advanced although
its step would succeed. -/
theorem starved_never_advances :
    (∀ n, older ∈ candidates (starved.state n).db ∧ newer ∈ candidates (starved.state n).db) ∧
    older.batches.map (·.nodes) = [[1]] ∧ newer.batches.map (·.nodes) = [[2]] ∧
    (∀ n, starved.WouldSucceed n newer.id) ∧ ∀ n, ¬ starved.Advances n newer.id := by
  refine ⟨?_, rfl, rfl, fun n => newer_would_succeed blocked_starving (16 + n), ?_⟩
  · intro n
    change older ∈ candidates (polled _ blocked).db ∧ newer ∈ candidates (polled _ blocked).db
    rw [candidates_polled]
    exact ⟨blocked_starving.older, blocked_starving.newer⟩
  rintro n ⟨s', h⟩
  have ht := tick_starving blocked_starving (16 + n)
  change tick (starved.view n) (starved.state n) = _ at ht
  rw [ht] at h
  simp only [Prod.mk.injEq, Option.some.injEq] at h
  cases h.2.2

end VonkForge.Updates
