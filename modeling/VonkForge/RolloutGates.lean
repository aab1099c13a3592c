import VonkForge.QueueDispatch
import VonkForge.RolloutMoves
import VonkForge.RolloutRuns

/-!
# Mutations on the nodes of a batch

The orchestrator looks for running mutations once, by a list of its own; what agents claim
afterwards is not held back.
-/

namespace VonkForge.Updates

open AgentJobs AgentReconciliation Table

/-- Nothing that the queue counts as a mutation is running on a node of the batch. -/
def Idle (db : Database) (g : NodeGroup) : Prop := ∀ n ∈ g.nodes, runningMutations db n = []

/-- Every mutation that is running there is of a kind that `_mutation_is_running` names. -/
def Observed (db : Database) (g : NodeGroup) : Prop :=
  ∀ n ∈ g.nodes, ∀ o ∈ runningMutations db n,
    o.kind ∈ [AgentOperation.agentRollback, .agentUpdate, .releaseInstall, .workloadPrepare,
      .workloadStart, .workloadStop]

def claimOf (cfg : Config) (now : Time) (db : Database) (e : QueueEvent) : Option AgentClaim :=
  match queueWrites cfg now db e with
  | .ok (_, .claimed c) => some c
  | _ => none

/-- A call of `advance`, or a transaction of the queue that starts no mutation on the batch. -/
def Spares (g : NodeGroup) (s : System) : RolloutEvent → Prop
  | .advance _ _ => True
  | .agent cfg now e =>
    ∀ c ∈ claimOf cfg now s.db e, c.operation.mutating = true → c.nodeId ∉ g.nodes
  | _ => False

def Throughout (P : System → RolloutEvent → Prop) : System → List RolloutEvent → Prop
  | _, [] => True
  | s, e :: events => P s e ∧ Throughout P (rolloutStep s e) events

section Gate

variable {db db' : Database} {g : NodeGroup} {s : System}

lemma runningMutations_eq_nil {n : NodeId} : runningMutations db n = [] ↔
    ∀ id o, db.operations.get? id = some o → o.nodeId = n → o.kind.mutating = true →
      o.state ≠ .running := by
  unfold runningMutations Table.select
  rw [List.filter_eq_nil_iff]
  constructor
  · intro h id o ho hn hm hr
    exact h o (mem_of_get? ho) (by simp [hn, hm, hr])
  intro h o ho hp
  simp only [Bool.and_eq_true, decide_eq_true_eq] at hp
  exact h _ o (get?_of_mem ho) hp.1.1 hp.1.2 hp.2

lemma Idle.calm (h : Idle db g) (hc : Calm db db') : Idle db' g := by
  intro n hn
  rw [runningMutations_eq_nil]
  intro id o' ho' hnode hm hrun
  obtain ⟨o, ho, hs, hr⟩ := hc.running_of ho' hrun
  exact runningMutations_eq_nil.mp (h n hn) id o ho (hs.nodeId ▸ hnode) (hs.kind ▸ hm) hr

lemma Idle.dispatch {call : Call} {nodeId : NodeId} {c : AgentClaim} (h : Idle db g)
    (hd : Dispatch call nodeId c db db') (hc : c.operation.mutating = true → c.nodeId ∉ g.nodes) :
    Idle db' g := by
  obtain ⟨mid, x, quiet, selected, -, -, hstarted, hops⟩ := hd.started
  have hmid := h.calm quiet.toCalm
  intro n hn
  rw [runningMutations_eq_nil]
  intro id o' ho' hnode hm hrun
  rw [hops] at ho'
  obtain ⟨o, ho, rfl⟩ := Option.map_eq_some_iff.mp ho'
  by_cases hid : id = x.id
  · -- the operation of the claim itself
    subst hid
    obtain rfl : x = o := Option.mem_unique selected.stored ho
    rw [if_pos rfl] at hnode hm
    have hnode' : c.nodeId = n := hstarted.nodeId.trans hnode
    exact hc (hstarted.kind ▸ hm) (hnode' ▸ hn)
  rw [if_neg hid] at hnode hm hrun
  exact runningMutations_eq_nil.mp (hmid n hn) id o ho hnode hm hrun

lemma Idle.step {e : RolloutEvent} (h : Idle s.db g) (he : Spares g s e) :
    Idle (rolloutStep s e).db g := by
  cases e with
  | create | beginRollback | approveResume => exact he.elim
  | advance view id =>
    cases hu : s.db.rollouts.get? id with
    | none => simpa [rolloutStep, advance, rolloutOf, hu, bind, Except.bind] using h
    | some u =>
      obtain rfl : u.id = id := get?_key hu
      obtain ⟨⟨u', hwrites, -⟩, -⟩ := @moves_advance u (fun _ => True) view s hu
        fun _ _ => trivial
      exact h.calm hwrites.toCalm
  | agent =>
    unfold rolloutStep
    simp only
    split
    · next db out hwrites =>
      obtain hcalm | ⟨_, _, c, hd, rfl⟩ := (queueWrites_effect hwrites).calm_or_dispatch
      · exact h.calm hcalm
      exact h.dispatch hd (he c (by simp [claimOf, hwrites]))
    exact h

lemma Idle.run (events : List RolloutEvent) (h : Idle s.db g)
    (he : Throughout (Spares g) s events) : Idle (rolloutRun s events).db g := by
  induction events generalizing s with
  | nil => exact h
  | cons e events ih => exact ih (h.step he.1) he.2

lemma idle_iff_observed {nodes : List UpdateRolloutNode} (hnodes : g.nodes = nodes.map (·.nodeId))
    (hgate : mutationIsRunning db nodes = false) : Idle db g ↔ Observed db g := by
  constructor
  · intro h n hn o ho
    rw [h n hn] at ho
    cases ho
  intro h n hn
  rw [List.eq_nil_iff_forall_not_mem]
  intro o ho
  have hkind := h n hn o ho
  simp only [runningMutations, mem_select, Bool.and_eq_true, decide_eq_true_eq] at ho
  obtain ⟨hmem, ⟨rfl, -⟩, hrun⟩ := ho
  have hnot := List.any_eq_false.mp hgate o hmem
  rw [hnodes] at hn
  simp [hn, hrun, hkind] at hnot

end Gate

/-- When the leases of a batch are taken, its nodes are idle, and stay so up to the dispatch of the
updates, exactly if the gate sees every mutation of them. -/
theorem batch_idle_iff_observed (view : CallView) (s : System) (u u' : UpdateRollout)
    (g : NodeGroup) (hu : s.db.rollouts.get? u.id = some u) (hplanned : u.state = .planned)
    (hg : u.batches[u.currentBatch]? = some g)
    (hu' : (advance view s u.id).1.db.rollouts.get? u.id = some u')
    (hleased : u'.state = .withdrawing) :
    (Idle s.db g ↔ Observed s.db g) ∧
      ∀ events, Observed s.db g → Throughout (Spares g) (advance view s u.id).1 events →
        Idle (rolloutRun (advance view s u.id).1 events).db g := by
  obtain ⟨-, v, hv, -, -, hgate⟩ := @advance_planned_kept u view s hu hplanned
  obtain rfl : u' = v := Option.mem_unique hu' hv
  obtain ⟨nodes, hnodes, hgate⟩ := hgate hleased
  obtain ⟨g', hg', hids⟩ := group_of_batch hnodes
  obtain rfl : g = g' := Option.mem_unique hg hg'
  have hiff := idle_iff_observed hids hgate
  refine ⟨hiff, ?_⟩
  intro events hseen hspares
  obtain ⟨⟨v', hwrites, -⟩, -⟩ := @moves_advance u (fun _ => True) view s hu
    fun _ _ => trivial
  exact Idle.run events ((hiff.mpr hseen).calm hwrites.toCalm) hspares

open OneAgent

def agentAt (t : ℕ) (e : QueueEvent) : RolloutEvent :=
  .agent { contactDigest := digests.contact } (seconds t) e

/-- The agent takes up the start of a recipe before the rollout is created. -/
def recipeStarts : List RolloutEvent :=
  [agentAt 10 (.environment { enrolled with jobs := .single { id := 70, targets := [1] } }),
    agentAt 10 (.enqueue (seconds 10) ⟨71, 70, 1, .recipeStart, 0, { canonicalDigest := 0 }⟩ false),
    agentAt 10 (.claim none
      { nodeId := 1, certificateSerial := 7, leaseSeconds := 60, protocolVersion := some 3,
        capabilities := some (.operation .recipeStart :: capabilities),
        runtimeIdentity := some (source 1 first_generation) } 50)]

def plannedAfter (events : List RolloutEvent) : System :=
  rolloutRun { db := enrolled }
    (events ++ [.create (viewAt 11 100).toRolloutView plan 9 3 (some updateGrant)])

/-- The events from the acquisition of the leases to the dispatch. -/
def dispatchEvents : List RolloutEvent :=
  [contact 12 (source 1 first_generation) 51, .advance (viewAt 13 100) 9]

/-- Without the recipe the node is idle when its update is dispatched. -/
theorem batch_stays_idle : let s := (advance (viewAt 12 100) (plannedAfter []) 9).1
    Idle (rolloutRun s dispatchEvents).db ⟨[1], by decide, by decide⟩ ∧
      ((rolloutRun s dispatchEvents).db.rollouts.get? 9).map (·.state) = some .updating ∧
      (rolloutRun s dispatchEvents).db.operations.rows.map (fun o => (o.kind, o.state)) =
        [(.agentUpdate, .queued)] := by
  refine ⟨?_, by decide +kernel, by decide +kernel⟩
  refine (batch_idle_iff_observed (viewAt 12 100) (plannedAfter [])
    { plan with
      id := 9, jobId := some 3, updateAdminGrant := some updateGrant, createdAt := seconds 11 }
    _ _ (by decide +kernel) rfl rfl rfl (by decide +kernel)).2 _ ?_ ⟨?_, trivial, trivial⟩
  · unfold Observed
    decide +kernel
  simp only [Spares, contact]
  decide +kernel

/-- With it, the leases are taken and the update is dispatched beside the running recipe. -/
theorem recipe_overlaps_update : let s := plannedAfter recipeStarts
    let t := (advance (viewAt 12 100) s 9).1
    let v := (advance (viewAt 13 100) t 9).1
    [s, t, v].map (fun x => (x.db.rollouts.get? 9).map (·.state)) =
        [some .planned, some .withdrawing, some .updating] ∧
      [s, t].map (fun x => (runningMutations x.db 1).map (·.kind)) =
        [[.recipeStart], [.recipeStart]] := by
  decide +kernel

end VonkForge.Updates
