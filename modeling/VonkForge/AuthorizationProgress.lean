import VonkForge.RolloutCalls

/-!
# Authorizations go through

When the checks of a reservation admit every node of a batch and no earlier intent is open,
reserving, signing and finalizing it succeeds.
-/

namespace VonkForge.Updates

open AgentJobs Table
open Keyed (key)

variable {op : AgentOperation} {db db' : Database} {nodes : List UpdateRolloutNode}
  {request : NodeId → SignerRequest} {response : NodeId → SignerResponse} {release : Option Digest}
  {view : ReserveView} {r : ReservedUpdateAuthorization} {t' : Table UpdateAuthorizationIntent}
  {u : UpdateRollout} {n m : UpdateRolloutNode} {id : Uuid} {k : Uuid × NodeId}

section Rows

variable (f : UpdateRolloutNode → UpdateRolloutNode) (hf : ∀ n, key (f n) = key n)

lemma get?_setRollout (db : Database) (id k : Uuid) (f : UpdateRollout → UpdateRollout)
    (hf : ∀ u, (f u).id = u.id) :
    (setRollout db id f hf).rollouts.get? k =
      (db.rollouts.get? k).map fun u => if u.id = id then f u else u := by
  simp only [setRollout, get?_updateWhere, decide_eq_true_eq]

lemma get?_setRollout_self (hu : db.rollouts.get? u.id = some u)
    (f : UpdateRollout → UpdateRollout) (hf : ∀ u, (f u).id = u.id) :
    (setRollout db u.id f hf).rollouts.get? u.id = some (f u) := by
  rw [get?_setRollout, hu, Option.map_some, if_pos rfl]

lemma get?_setNodes (db : Database) (nodes : List UpdateRolloutNode)
    (f : UpdateRolloutNode → UpdateRolloutNode) (hf : ∀ n, key (f n) = key n)
    (k : Uuid × NodeId) :
    (setNodes db nodes f hf).rolloutNodes.get? k =
      (db.rolloutNodes.get? k).map fun n =>
        if key n ∈ nodes.map key then f n else n := by
  simp only [setNodes, get?_updateWhere, decide_eq_true_eq]

lemma get?_setNodes_of_notMem (hk : k ∉ nodes.map key) :
    (setNodes db nodes f hf).rolloutNodes.get? k = db.rolloutNodes.get? k := by
  rw [get?_setNodes]
  cases hget : db.rolloutNodes.get? k with
  | none => rfl
  | some n =>
    have hkey := get?_key hget
    rw [Option.map_some, hkey, if_neg hk]

lemma get?_setNodes_of_mem (hget : db.rolloutNodes.get? k = some n) (hk : k ∈ nodes.map key) :
    (setNodes db nodes f hf).rolloutNodes.get? k = some (f n) := by
  have hkey := get?_key hget
  rw [get?_setNodes, hget, Option.map_some, hkey, if_pos hk]

lemma nodeId_ne_of_nodup (hnodup : ((n :: nodes).map key).Nodup)
    (hid : ∀ x ∈ n :: nodes, x.rolloutId = id) (hm : m ∈ nodes) : m.nodeId ≠ n.nodeId := by
  intro he
  have hkey : key m = key n := by
    rw [key_rolloutNode, key_rolloutNode, he, hid m (.tail _ hm),
      hid n List.mem_cons_self]
  have hnot := (List.nodup_cons.mp hnodup).1
  rw [← hkey] at hnot
  exact hnot (List.mem_map_of_mem hm)

end Rows

def Admitted (view : ReserveView) (db : Database) (id : Uuid) (n : NodeId) (op : AgentOperation)
    (payload : Option NodePayload) (release : Option Digest) (request : SignerRequest) : Prop :=
  view.signer = true ∧ op.signed = true ∧ ∃ u rolloutNode node parent,
    db.rollouts.get? id = some u ∧ db.rolloutNodes.get? (id, n) = some rolloutNode ∧
    db.nodes.get? rolloutNode.nodeId = some node ∧ u.jobId.bind db.jobs.get? = some parent ∧
    admitAuthorization view db u rolloutNode node parent op payload release = .ok request

def Spent (db : Database) (now : Time) (id : Uuid) (n : NodeId) (op : AgentOperation) : Prop :=
  ∀ i ∈ db.intents.rows, i.request.rolloutId = id → i.request.nodeId = n →
    i.request.action = op → i.state ≠ .stale → intentCurrent db now i = false

def newIntent (view : ReserveView) (request : SignerRequest) : UpdateAuthorizationIntent :=
  { id := request.intentId, request := request, requestDigest := view.digests.request request,
    state := .reserved, expiresAt := view.now + seconds 600, createdAt := view.now }

section Reserve

variable {n : NodeId} {payload : Option NodePayload} {request : SignerRequest}

lemma leaseHeld_congr (h : db'.leases = db.leases) (id : Uuid) (n : NodeId) :
    leaseHeld db' id n = leaseHeld db id n := by
  unfold leaseHeld
  rw [h]

lemma admit_eq_ok {rn : UpdateRolloutNode} {node : AgentNode} {parent : Job}
    (h : admitAuthorization view db u rn node parent op payload release = .ok request) :
    ∃ source grant, signerSource node = .ok source ∧
      ¬ (op = .agentUpdate ∧ plannedSourceHolds view.digests u rn node = false) ∧
      leaseHeld db u.id rn.nodeId = true ∧
      authorizationState u rn parent op payload release = .ok () ∧
      adminGrant u op = .ok grant ∧
      request = signerRequest view u rn.nodeId parent source grant op payload release := by
  obtain ⟨source, hsource, h⟩ := of_bind_ok h
  split_ifs at h with hplanned hauthority
  obtain ⟨_, hstate, grant, hgrant, h⟩ := of_bind_ok₂ h
  cases h
  simp only [not_or, Bool.not_eq_false] at hauthority
  exact ⟨source, grant, hsource, hplanned, hauthority.2.2.2, hstate, hgrant, rfl⟩

section

variable (h : Admitted view db id n op payload release request)

include h

lemma Admitted.frame (hrollout : db'.rollouts.get? id = db.rollouts.get? id)
    (hnode : db'.rolloutNodes.get? (id, n) = db.rolloutNodes.get? (id, n))
    (hnodes : db'.nodes = db.nodes) (hjobs : db'.jobs = db.jobs)
    (hleases : db'.leases = db.leases) :
    Admitted view db' id n op payload release request := by
  obtain ⟨hs, hop, u, rn, node, parent, hu, hrn, hn, hp, hgranted⟩ := h
  refine ⟨hs, hop, u, rn, node, parent, hrollout.trans hu, hnode.trans hrn, ?_, ?_, ?_⟩
  · rw [hnodes]
    exact hn
  · rw [hjobs]
    exact hp
  unfold admitAuthorization at hgranted ⊢
  rw [leaseHeld_congr hleases]
  exact hgranted

lemma Admitted.request_eq :
    request.rolloutId = id ∧ request.nodeId = n ∧ request.action = op ∧
      request.intentId = (view.fresh n).intentId ∧
      request.operationId = (view.fresh n).operationId := by
  obtain ⟨_, _, u, rn, node, parent, hu, hrn, _, _, hgranted⟩ := h
  obtain ⟨source, grant, _, _, _, _, _, hreq⟩ := admit_eq_ok hgranted
  have hid : u.id = id := get?_key hu
  have hkey : (rn.rolloutId, rn.nodeId) = (id, n) := get?_key hrn
  have hn : rn.nodeId = n := congrArg Prod.snd hkey
  subst hreq
  rw [← hid, ← hn]
  exact ⟨rfl, rfl, rfl, rfl, rfl⟩

lemma reserve_of_admitted :
    reserveUpdateAuthorization view db id n op payload release = reserveIntent view db request := by
  obtain ⟨hs, hop, u, rn, node, parent, hu, hrn, hn, hp, hgranted⟩ := h
  unfold reserveUpdateAuthorization
  rw [if_neg (by simp [hs]), if_neg (by simp [hop])]
  simp only [hu, hrn, hn, hp, hgranted]
  rfl

end

/-- A new intent is inserted, and at most one row of the same node has become stale. -/
structure IntentAdded (view : ReserveView) (request : SignerRequest) (t t' : Table
    UpdateAuthorizationIntent) : Prop where
  added : t'.get? request.intentId = some (newIntent view request)
  kept : ∀ k i, t.get? k = some i → i.request.nodeId ≠ request.nodeId → t'.get? k = some i
  source : ∀ j ∈ t'.rows, j = newIntent view request ∨
    ∃ i ∈ t.rows, j = i ∨ j = { i with state := .stale }

lemma intentAdded_insert {t : Table UpdateAuthorizationIntent}
    (h : t.insert (newIntent view request) = some t') : IntentAdded view request t t' := by
  refine ⟨?_, fun k i hi _ => get?_insert_of_some h hi, ?_⟩
  · have hkey : request.intentId = key (newIntent view request) := rfl
    rw [get?_insert h, if_pos hkey]
  intro j hj
  rcases (mem_insert h).mp hj with hj | rfl
  · exact .inr ⟨j, hj, .inl rfl⟩
  exact .inl rfl

lemma intentAdded_replace {i : UpdateAuthorizationIntent} (hi : i ∈ db.intents.rows)
    (hnode : i.request.nodeId = request.nodeId)
    (h : (setIntent db i.id .stale).intents.insert (newIntent view request) = some t') :
    IntentAdded view request db.intents t' := by
  have hadd := intentAdded_insert h
  refine ⟨hadd.added, ?_, ?_⟩
  · intro k j hj hne
    apply hadd.kept k j _ hne
    have hkey : j.id ≠ i.id := by
      intro he
      have := eq_of_key (mem_of_get? hj) hi he
      rw [this] at hne
      exact hne hnode
    simp only [setIntent, get?_updateWhere, hj, Option.map_some, hkey, decide_false,
      Bool.false_eq_true, if_false]
  intro j hj
  rcases hadd.source j hj with hj | ⟨x, hx, hj⟩
  · exact .inl hj
  simp only [setIntent, mem_updateWhere] at hx
  rcases hx with ⟨y, hy, _, rfl⟩ | ⟨hx, _⟩
  · exact .inr ⟨y, hy, .inr (hj.elim id id)⟩
  exact .inr ⟨x, hx, hj⟩

lemma reserveIntent_of_spent (hspent : Spent db view.now request.rolloutId request.nodeId
      request.action)
    (hfresh : db.intents.get? request.intentId = none) :
    ∃ t', IntentAdded view request db.intents t' ∧
      reserveIntent view db request =
        .ok (⟨request.intentId, request⟩, { db with intents := t' }) := by
  unfold reserveIntent
  cases hexisting : existingIntent db request.rolloutId request.nodeId request.action with
  | none =>
    obtain ⟨t', ht'⟩ := exists_insert
      (show db.intents.get? (key (newIntent view request)) = none from hfresh)
    refine ⟨t', intentAdded_insert ht', ?_⟩
    simp only [insertIntent]
    unfold newIntent at ht'
    rw [ht']
  | some i =>
    obtain ⟨hi, hmatch⟩ := mem_of_firstBy hexisting
    simp only [Bool.and_eq_true, decide_eq_true_eq] at hmatch
    obtain ⟨⟨⟨hid, hn⟩, hop⟩, hstate⟩ := hmatch
    have hcurrent := hspent i hi hid hn hop hstate
    have hfresh' : (setIntent db i.id .stale).intents.get?
        (key (newIntent view request)) = none := by
      simp only [setIntent, get?_updateWhere, Option.map_eq_none_iff]
      exact hfresh
    obtain ⟨t', ht'⟩ := exists_insert hfresh'
    refine ⟨t', intentAdded_replace hi hn ht', ?_⟩
    simp only [hcurrent, Bool.false_eq_true, if_false, insertIntent]
    unfold newIntent at ht'
    rw [ht']
    rfl

/-- The database in which a new intent is inserted: the one it replaces is stale. -/
def retireIntent (db : Database) (id : Uuid) (n : NodeId) (op : AgentOperation) : Database :=
  match existingIntent db id n op with
  | none => db
  | some i => setIntent db i.id .stale

variable (h : reserveUpdateAuthorization view db id n op payload release = .ok (r, db'))

include h

lemma reserve_cases :
    ∃ request, Admitted view db id n op payload release request ∧
      ((∃ i, existingIntent db id n op = some i ∧ intentCurrent db view.now i = true ∧
          r = ⟨i.id, i.request⟩ ∧ db' = db) ∨
        (∀ i, existingIntent db id n op = some i → intentCurrent db view.now i = false) ∧
          r = ⟨request.intentId, request⟩ ∧ db' = { db with intents := db'.intents } ∧
          (retireIntent db id n op).intents.insert (newIntent view request) = some db'.intents) := by
  have hinsert {db₀ : Database} {request : SignerRequest}
      (h : insertIntent view db₀ request = .ok (r, db')) :
      r = ⟨request.intentId, request⟩ ∧ db' = { db₀ with intents := db'.intents } ∧
        db₀.intents.insert (newIntent view request) = some db'.intents := by
    unfold insertIntent at h
    split at h
    · next t ht =>
      cases h
      exact ⟨rfl, rfl, ht⟩
    cases h
  unfold reserveUpdateAuthorization at h
  split_ifs at h with hs hop
  rw [Bool.not_eq_false] at hs hop
  split at h
  · next u rn hu hrn =>
    split at h
    · next node parent hnode hparent =>
      obtain ⟨request, hgranted, h⟩ := of_bind_ok h
      have hadmitted : Admitted view db id n op payload release request :=
        ⟨hs, hop, u, rn, node, parent, hu, hrn, hnode, hparent, hgranted⟩
      obtain ⟨hid, hn, haction, -⟩ := hadmitted.request_eq
      refine ⟨request, hadmitted, ?_⟩
      unfold reserveIntent at h
      rw [hid, hn, haction] at h
      unfold retireIntent
      cases hexisting : existingIntent db id n op with
      | none =>
        rw [hexisting] at h
        obtain ⟨hr, hdb, ht⟩ := hinsert h
        exact .inr ⟨fun i hi => (by cases hi), hr, hdb, ht⟩
      | some i =>
        rw [hexisting] at h
        simp only at h
        split_ifs at h with hcurrent
        · cases h
          exact .inl ⟨i, rfl, hcurrent, rfl, rfl⟩
        obtain ⟨hr, hdb, ht⟩ := hinsert h
        refine .inr ⟨?_, hr, hdb, ht⟩
        intro j hj
        cases hj
        simpa using hcurrent
    cases h
  cases h

lemma reserve_intents : db' = { db with intents := db'.intents } := by
  obtain ⟨request, -, ⟨i, -, -, -, rfl⟩ | ⟨-, -, hdb, -⟩⟩ := reserve_cases h
  · rfl
  exact hdb

end Reserve

/-- What a batch needs to be reserved: for each node an admitted request, no open intent, and an
unused identifier that no other node draws. -/
structure Reservable (view : RolloutView) (u : UpdateRollout) (op : AgentOperation)
    (f : UpdateRolloutNode → UpdateRolloutNode) (hf : ∀ n, key (f n) = key n)
    (db : Database) (nodes : List UpdateRolloutNode) (request : NodeId → SignerRequest) : Prop where
  nodup : (nodes.map key).Nodup
  rollout : ∀ n ∈ nodes, n.rolloutId = u.id
  admitted : ∀ n ∈ nodes, Admitted view.toReserveView (setNodes db [n] f hf) u.id n.nodeId op
    (if op = .agentUpdate then nodePayload u n.nodeId else none)
    (if op = .agentUpdate then some u.releaseDigest else none) (request n.nodeId)
  spent : ∀ n ∈ nodes, Spent db view.now u.id n.nodeId op
  fresh : ∀ n ∈ nodes, db.intents.get? (view.fresh n.nodeId).intentId = none
  distinct : ∀ m n, (view.fresh m).intentId = (view.fresh n).intentId → m = n

structure SameAuthority (db db' : Database) : Prop where
  rollouts : db'.rollouts = db.rollouts
  nodes : db'.nodes = db.nodes
  jobs : db'.jobs = db.jobs
  leases : db'.leases = db.leases
  operations : db'.operations = db.operations

section Batch

variable {view : RolloutView} {f : UpdateRolloutNode → UpdateRolloutNode}
  {hf : ∀ n, key (f n) = key n}

lemma Reservable.nodeId_ne (h : Reservable view u op f hf db (n :: nodes) request)
    (hm : m ∈ nodes) : m.nodeId ≠ n.nodeId :=
  nodeId_ne_of_nodup h.nodup h.rollout hm

lemma Reservable.tail (h : Reservable view u op f hf db (n :: nodes) request)
    (hadd : IntentAdded view.toReserveView (request n.nodeId) db.intents t') :
    Reservable view u op f hf { setNodes db [n] f hf with intents := t' } nodes request := by
  have hreq := (h.admitted n List.mem_cons_self).request_eq
  refine ⟨(List.nodup_cons.mp h.nodup).2, fun m hm => h.rollout m (.tail _ hm),
    ?_, ?_, ?_, h.distinct⟩
  · intro m hm
    have hk : (u.id, m.nodeId) ∉ [n].map key := by
      intro hk
      rw [List.map_singleton, List.mem_singleton] at hk
      exact h.nodeId_ne hm (congrArg Prod.snd hk)
    have hrow : (setNodes { setNodes db [n] f hf with intents := t' } [m] f hf).rolloutNodes.get?
        (u.id, m.nodeId) = (setNodes db [m] f hf).rolloutNodes.get? (u.id, m.nodeId) := by
      rw [get?_setNodes, get?_setNodes_of_notMem f hf hk, ← get?_setNodes]
    exact (h.admitted m (.tail _ hm)).frame rfl hrow rfl rfl rfl
  · intro m hm i hi hid hn hop hstate
    -- an open intent of another node is an old one
    rcases hadd.source i hi with rfl | ⟨j, hj, rfl | rfl⟩
    · exact absurd (hn.symm.trans hreq.2.1) (h.nodeId_ne hm)
    · exact h.spent m (.tail _ hm) i hj hid hn hop hstate
    exact absurd rfl hstate
  intro m hm
  have hold := h.fresh m (.tail _ hm)
  cases hget : t'.get? (view.fresh m.nodeId).intentId with
  | none => rfl
  | some i =>
    have hkey : i.id = (view.fresh m.nodeId).intentId := get?_key hget
    rcases hadd.source i (mem_of_get? hget) with rfl | ⟨j, hj, hij⟩
    · have he : (view.fresh n.nodeId).intentId = (view.fresh m.nodeId).intentId :=
        hreq.2.2.2.1.symm.trans hkey
      exact absurd (h.distinct _ _ he).symm (h.nodeId_ne hm)
    have hid : j.id = (view.fresh m.nodeId).intentId := by
      rcases hij with rfl | rfl
      · exact hkey
      exact hkey
    exact absurd hid (get?_eq_none.mp hold j hj)

lemma reserveNodes_succeeds (h : Reservable view u op f hf db nodes request) :
    ∃ db', reserveNodes view u op f hf db nodes =
        .ok (nodes.map fun n => (n, ⟨(request n.nodeId).intentId, request n.nodeId⟩), db') ∧
      SameAuthority db db' ∧
      (∀ k, k ∉ nodes.map key → db'.rolloutNodes.get? k = db.rolloutNodes.get? k) ∧
      (∀ n ∈ nodes, db'.rolloutNodes.get? (key n) =
        (setNodes db [n] f hf).rolloutNodes.get? (key n)) ∧
      (∀ n ∈ nodes, db'.intents.get? (request n.nodeId).intentId =
        some (newIntent view.toReserveView (request n.nodeId))) ∧
      ∀ k i, db.intents.get? k = some i → (∀ n ∈ nodes, i.request.nodeId ≠ n.nodeId) →
        db'.intents.get? k = some i := by
  induction nodes generalizing db with
  | nil =>
    refine ⟨db, rfl, ⟨rfl, rfl, rfl, rfl, rfl⟩, fun _ _ => rfl, ?_, ?_, fun _ _ hi _ => hi⟩
    · intro n hn
      cases hn
    intro n hn
    cases hn
  | cons n nodes ih =>
    have hadmitted := h.admitted n List.mem_cons_self
    obtain ⟨hid, hn, hop, hintent, -⟩ := hadmitted.request_eq
    have hspent : Spent (setNodes db [n] f hf) view.now (request n.nodeId).rolloutId
        (request n.nodeId).nodeId (request n.nodeId).action := by
      rw [hid, hn, hop]
      exact h.spent n List.mem_cons_self
    have hfresh : (setNodes db [n] f hf).intents.get? (request n.nodeId).intentId = none := by
      rw [hintent]
      exact h.fresh n List.mem_cons_self
    obtain ⟨t', hadd, hreserve⟩ := reserveIntent_of_spent hspent hfresh
    obtain ⟨db', hrest, hsame, hother, hrows, hintents, hkept⟩ := ih (h.tail hadd)
    have hnotMem : key n ∉ nodes.map key := (List.nodup_cons.mp h.nodup).1
    refine ⟨db', ?_, ⟨hsame.rollouts, hsame.nodes, hsame.jobs, hsame.leases, hsame.operations⟩,
      ?_, ?_, ?_, ?_⟩
    · unfold reserveNodes
      dsimp only
      rw [reserve_of_admitted hadmitted, hreserve]
      change (reserveNodes view u op f hf _ nodes >>= _) = _
      rw [hrest]
      rfl
    · intro k hk
      rw [List.map_cons, List.mem_cons, not_or] at hk
      rw [hother k hk.2]
      exact get?_setNodes_of_notMem f hf (by simpa using hk.1)
    · intro m hm
      rcases List.mem_cons.mp hm with rfl | hm
      · exact hother _ hnotMem
      rw [hrows m hm]
      have hk : key m ∉ [n].map key := by
        rw [List.map_singleton, List.mem_singleton]
        intro he
        rw [← he] at hnotMem
        exact hnotMem (List.mem_map_of_mem hm)
      rw [get?_setNodes, get?_setNodes_of_notMem f hf hk, ← get?_setNodes]
    · intro m hm
      rcases List.mem_cons.mp hm with rfl | hm
      · apply hkept _ _ hadd.added
        intro x hx he
        exact h.nodeId_ne hx (he.symm.trans hn)
      exact hintents m hm
    intro k i hi hne
    apply hkept k i (hadd.kept k i hi ?_)
    · intro m hm
      exact hne m (.tail _ hm)
    rw [hn]
    exact hne n List.mem_cons_self

end Batch

def Answers (d : Digests) (request : SignerRequest) (response : SignerResponse) : Prop :=
  response.intentId = request.intentId ∧ response.requestDigest = d.request request ∧
    ∃ r, response.signedPayload.receipt = some r ∧
      response.signedPayload.update = request.target.map (·.payload) ∧
      r.operationId = request.operationId ∧ r.fence = request.fence ∧
      r.nodeId = request.nodeId ∧ r.attempt = 1 ∧ r.claimDeadline = request.claimDeadline ∧
      r.expiresAt = request.expiresAt ∧ r.sourceSlot = request.source.slot ∧
      r.sourceSha256 = request.source.sha256 ∧
      r.sourceGeneration = request.source.generation ∧
      r.operatorRollback = request.target.isNone ∧
      r.platformTarget = request.target.map fun t =>
        ⟨t.platformTargetName, t.expectedTufTargetSha256, t.expectedTufTargetsVersion⟩

section Finalize

variable {request : SignerRequest} {response : SignerResponse}

def Deadlines (view : ReserveView) (request : SignerRequest) : Prop :=
  request.claimDeadline = epoch (view.now + seconds 600) ∧
    request.expiresAt = epoch (view.now + seconds 600)

lemma responseExact_newIntent (hdeadline : Deadlines view request)
    (h : Answers view.digests request response) :
    responseExact view.now (newIntent view request) ⟨request.intentId, request⟩ response = true := by
  obtain ⟨hintent, hdigest, r, hr, hupdate, h1, h2, h3, h4, h5, h6, h7, h8, h9, h10, h11⟩ := h
  have hnow : view.now < view.now + seconds 600 := Nat.lt_add_of_pos_right (by decide)
  have hreceipt : exactReceipt (newIntent view request) response.signedPayload = true := by
    simp only [exactReceipt, newIntent, hr, Option.any_some, h1, h2, h3, h4, h5, h6, h7, h8, h9,
      hdeadline.1, hdeadline.2, decide_true, Bool.true_and]
    cases htarget : request.target with
    | none => simp [h10, htarget]
    | some t => simp [h10, h11, hupdate, htarget]
  simp only [responseExact, hreceipt]
  simp [newIntent, hnow, hintent, hdigest]

lemma authorityUnchanged_congr (db db' : Database) (i : UpdateAuthorizationIntent)
    (hrollouts : db'.rollouts = db.rollouts)
    (hnode : db'.rolloutNodes.get? (i.request.rolloutId, i.request.nodeId) =
      db.rolloutNodes.get? (i.request.rolloutId, i.request.nodeId))
    (hnodes : db'.nodes = db.nodes) (hjobs : db'.jobs = db.jobs)
    (hleases : db'.leases = db.leases) : authorityUnchanged db' i = authorityUnchanged db i := by
  unfold authorityUnchanged
  rw [hrollouts, hnode, hnodes, hjobs]
  simp only [leaseHeld_congr hleases]

lemma signerSource_eq_ok {node : AgentNode} {source : SignerSource}
    (h : signerSource node = .ok source) :
    ∃ running, node.runtime = some running ∧ running.activeSlot = source.slot ∧
      running.agentSha256 = source.sha256 ∧ running.supervisorGeneration = source.generation := by
  unfold signerSource at h
  split at h
  · next running hrunning =>
    split_ifs at h
    cases h
    exact ⟨running, hrunning, rfl, rfl, rfl⟩
  cases h

lemma authorityUnchanged_of_admitted {id : Uuid} {n : NodeId} {op : AgentOperation}
    {payload : Option NodePayload} {release : Option Digest}
    (h : Admitted view db id n op payload release request)
    (hpayload : op = .agentUpdate → payload.isSome = true)
    (hrunning : op = .agentUpdate → ∀ u, db.rollouts.get? id = some u →
      ∀ job, u.jobId.bind db.jobs.get? = some job → job.state = .running) :
    authorityUnchanged db (newIntent view request) = true ∧ Deadlines view request := by
  obtain ⟨-, hop, u, rn, node, parent, hu, hrn, hn, hp, hgranted⟩ := h
  obtain ⟨source, grant, hsource, -, hlease, hstate, -, rfl⟩ := admit_eq_ok hgranted
  have hid : u.id = id := get?_key hu
  have hkey : (rn.rolloutId, rn.nodeId) = (id, n) := get?_key hrn
  have hnode : rn.nodeId = n := congrArg Prod.snd hkey
  obtain ⟨jobId, hjob, hparent⟩ := Option.bind_eq_some_iff.mp hp
  have hjobId : parent.id = jobId := get?_key hparent
  refine ⟨?_, rfl, rfl⟩
  obtain ⟨r, hr, hslot, hsha, hgeneration⟩ := signerSource_eq_ok hsource
  subst hid
  subst hnode
  subst hjobId
  simp only [authorityUnchanged, newIntent, signerRequest, hu, hrn, hn, hparent, hjob, hlease,
    hr, hslot, hsha, hgeneration, Option.any_some, decide_true, Bool.true_and]
  unfold authorizationState at hstate
  split_ifs at hstate with hupdate hbad hbad
  · simp only [not_or, not_not] at hbad
    obtain ⟨p, hpl⟩ := Option.isSome_iff_exists.mp (hpayload hupdate)
    have hrun := hrunning hupdate u hu parent hp
    simp [hupdate, hbad.1, hbad.2.1, hbad.2.2, hpl, hrun]
  simp only [not_or, not_not, Bool.not_eq_true, Option.isSome_eq_false_iff] at hbad
  simp [hupdate, hbad.1, hbad.2.1, hbad.2.2.2.2]

lemma finalize_newIntent (hi : db.intents.get? request.intentId = some (newIntent view request))
    (hu : db.rollouts.get? request.rolloutId = some u)
    (hauthority : authorityUnchanged db (newIntent view request) = true)
    (hdeadline : Deadlines view request) (hanswer : Answers view.digests request response)
    (hfresh : db.operations.get? request.operationId = none) :
    ∃ operations, finalizeUpdateAuthorization db view.now ⟨request.intentId, request⟩ response =
        .ok (some request.operationId,
          setIntent { db with operations := operations } request.intentId .queued) ∧
      ∀ k, k ≠ request.operationId → operations.get? k = db.operations.get? k := by
  have hexact := responseExact_newIntent hdeadline hanswer
  obtain ⟨operations, hins⟩ := exists_insert
    (show db.operations.get? (key (StoredOperation.mk request.operationId request.parentJobId
      request.nodeId request.action response.signedPayload.canonicalDigest response.signedPayload
      u.baseCommit .queued 0 none none view.now view.now)) = none from hfresh)
  refine ⟨operations, ?_, ?_⟩
  · unfold finalizeUpdateAuthorization
    simp only [hi]
    rw [if_neg (by simp [newIntent]), if_neg (by simp [hexact, hauthority])]
    simp only [newIntent, hu, insertOperation, hins]
    rfl
  intro k hk
  rw [get?_insert hins]
  exact if_neg hk

end Finalize

structure Finalizable (view : RolloutView) (u : UpdateRollout) (db : Database)
    (nodes : List UpdateRolloutNode) (request : NodeId → SignerRequest)
    (response : NodeId → SignerResponse) : Prop where
  nodup : (nodes.map key).Nodup
  rollout : ∀ n ∈ nodes, n.rolloutId = u.id ∧ (request n.nodeId).rolloutId = u.id ∧
    (request n.nodeId).nodeId = n.nodeId
  stored : ∃ v, db.rollouts.get? u.id = some v
  intent : ∀ n ∈ nodes, db.intents.get? (request n.nodeId).intentId =
    some (newIntent view.toReserveView (request n.nodeId))
  authority : ∀ n ∈ nodes,
    authorityUnchanged db (newIntent view.toReserveView (request n.nodeId)) = true
  deadlines : ∀ n ∈ nodes, Deadlines view.toReserveView (request n.nodeId)
  answers : ∀ n ∈ nodes, Answers view.digests (request n.nodeId) (response n.nodeId)
  fresh : ∀ n ∈ nodes, db.operations.get? (request n.nodeId).operationId = none
  distinct : ∀ m ∈ nodes, ∀ n ∈ nodes,
    (request m.nodeId).intentId = (request n.nodeId).intentId ∨
      (request m.nodeId).operationId = (request n.nodeId).operationId → m.nodeId = n.nodeId

section Batch

variable {view : RolloutView}

lemma Finalizable.nodeId_ne (h : Finalizable view u db (n :: nodes) request response)
    (hm : m ∈ nodes) : m.nodeId ≠ n.nodeId :=
  nodeId_ne_of_nodup h.nodup (fun x hx => (h.rollout x hx).1) hm

lemma Finalizable.tail (h : Finalizable view u db (n :: nodes) request response)
    {operations : Table StoredOperation}
    (hops : ∀ k, k ≠ (request n.nodeId).operationId → operations.get? k = db.operations.get? k)
    (g : UpdateRolloutNode → UpdateRolloutNode) (hg : ∀ n, key (g n) = key n) :
    Finalizable view u
      (setNodes (setIntent { db with operations := operations } (request n.nodeId).intentId .queued)
        [n] g hg) nodes request response := by
  have hmem {m : UpdateRolloutNode} (hm : m ∈ nodes) : m ∈ n :: nodes := .tail _ hm
  have hne {m : UpdateRolloutNode} (hm : m ∈ nodes) :
      (request m.nodeId).intentId ≠ (request n.nodeId).intentId ∧
        (request m.nodeId).operationId ≠ (request n.nodeId).operationId := by
    constructor
    · intro he
      exact h.nodeId_ne hm (h.distinct m (hmem hm) n List.mem_cons_self (.inl he))
    intro he
    exact h.nodeId_ne hm (h.distinct m (hmem hm) n List.mem_cons_self (.inr he))
  refine ⟨(List.nodup_cons.mp h.nodup).2, fun m hm => h.rollout m (hmem hm), h.stored, ?_, ?_,
    fun m hm => h.deadlines m (hmem hm), fun m hm => h.answers m (hmem hm), ?_,
    fun a ha b hb => h.distinct a (hmem ha) b (hmem hb)⟩
  · intro m hm
    have hkey : (newIntent view.toReserveView (request m.nodeId)).id ≠
        (request n.nodeId).intentId := (hne hm).1
    change (setIntent { db with operations := operations } _ _).intents.get? _ = _
    simp only [setIntent, get?_updateWhere, h.intent m (hmem hm), Option.map_some, hkey,
      decide_false, Bool.false_eq_true, if_false]
  · intro m hm
    obtain ⟨-, hid, hnode⟩ := h.rollout m (hmem hm)
    have hk : ((request m.nodeId).rolloutId, (request m.nodeId).nodeId) ∉ [n].map key := by
      rw [List.map_singleton, List.mem_singleton, hnode]
      intro he
      exact h.nodeId_ne hm (congrArg Prod.snd he)
    rw [authorityUnchanged_congr db]
    · exact h.authority m (hmem hm)
    · rfl
    · exact get?_setNodes_of_notMem g hg hk
    · rfl
    · rfl
    rfl
  intro m hm
  exact (hops _ (hne hm).2).trans (h.fresh m (hmem hm))

lemma finalizeNodes_succeeds (h : Finalizable view u db nodes request response)
    (g : Uuid → UpdateRolloutNode → UpdateRolloutNode)
    (hg : ∀ op n, key (g op n) = key n) :
    ∃ db', finalizeNodes view.now g hg db (nodes.map fun n =>
        (n, ⟨(request n.nodeId).intentId, request n.nodeId⟩, response n.nodeId)) = .ok db' ∧
      db'.rollouts = db.rollouts ∧ db'.jobs = db.jobs := by
  induction nodes generalizing db with
  | nil => exact ⟨db, rfl, rfl, rfl⟩
  | cons n nodes ih =>
    obtain ⟨v, hv⟩ := h.stored
    have hmem : n ∈ n :: nodes := List.mem_cons_self
    have hrollout : db.rollouts.get? (request n.nodeId).rolloutId = some v := by
      rw [(h.rollout n hmem).2.1]
      exact hv
    obtain ⟨operations, hfinal, hops⟩ := finalize_newIntent (h.intent n hmem) hrollout
      (h.authority n hmem) (h.deadlines n hmem) (h.answers n hmem) (h.fresh n hmem)
    obtain ⟨db', hrest, hrollouts, hjobs⟩ :=
      ih (h.tail hops (g (request n.nodeId).operationId) (hg _))
    refine ⟨db', ?_, hrollouts, hjobs⟩
    simp only [List.map_cons, finalizeNodes]
    rw [hfinal]
    exact hrest

end Batch

lemma signNodes_succeeds {view : CallView}
    (h : ∀ n ∈ nodes, view.sign (request n.nodeId) = .ok (response n.nodeId)) :
    signNodes view (nodes.map fun n => (n, ⟨(request n.nodeId).intentId, request n.nodeId⟩)) =
      .ok (nodes.map fun n =>
        (n, ⟨(request n.nodeId).intentId, request n.nodeId⟩, response n.nodeId)) := by
  induction nodes with
  | nil => rfl
  | cons n nodes ih =>
    have hrest := ih fun m hm => h m (.tail _ hm)
    unfold signNodes at hrest ⊢
    rw [List.map_cons, List.mapM_cons, h n List.mem_cons_self, hrest]
    rfl

lemma authorize_succeeds {view : CallView} {u : UpdateRollout} {op : AgentOperation}
    {f : UpdateRolloutNode → UpdateRolloutNode} {hf : ∀ n, key (f n) = key n}
    {db : Database} {nodes : List UpdateRolloutNode} {request : NodeId → SignerRequest}
    (h : Reservable view.toRolloutView u op f hf db nodes request)
    (hpayload : op = .agentUpdate → ∀ n ∈ nodes, (nodePayload u n.nodeId).isSome = true)
    (hrunning : op = .agentUpdate → ∀ v, db.rollouts.get? u.id = some v →
      ∀ job, v.jobId.bind db.jobs.get? = some job → job.state = .running)
    (hanswers : ∀ n ∈ nodes, ∃ response, view.sign (request n.nodeId) = .ok response ∧
      Answers view.digests (request n.nodeId) response)
    (hfresh : ∀ n ∈ nodes, db.operations.get? (view.fresh n.nodeId).operationId = none)
    (hdistinct : ∀ m n, (view.fresh m).operationId = (view.fresh n).operationId → m = n)
    (hne : nodes ≠ [])
    (g : Uuid → UpdateRolloutNode → UpdateRolloutNode)
    (hg : ∀ op n, key (g op n) = key n) :
    ∃ reserved db₁ signed db₂,
      reserveNodes view.toRolloutView u op f hf db nodes = .ok (reserved, db₁) ∧
      signNodes view reserved = .ok signed ∧
      finalizeNodes view.now g hg db₁ signed = .ok db₂ ∧
      db₁.rollouts = db.rollouts ∧ db₁.jobs = db.jobs ∧
      db₂.rollouts = db.rollouts ∧ db₂.jobs = db.jobs := by
  obtain ⟨db₁, hreserve, hsame, -, hrows, hintents, -⟩ := reserveNodes_succeeds h
  have hrequest {n : UpdateRolloutNode} (hn : n ∈ nodes) := (h.admitted n hn).request_eq
  let response (k : NodeId) : SignerResponse :=
    match view.sign (request k) with
    | .ok response => response
    | .error _ => ⟨0, 0, { canonicalDigest := 0 }⟩
  have hresponse : ∀ n ∈ nodes, view.sign (request n.nodeId) = .ok (response n.nodeId) ∧
      Answers view.digests (request n.nodeId) (response n.nodeId) := by
    intro n hn
    obtain ⟨r, hr, hanswer⟩ := hanswers n hn
    have he : response n.nodeId = r := by
      simp only [response, hr]
    rw [he]
    exact ⟨hr, hanswer⟩
  have hsigned := signNodes_succeeds fun n hn => (hresponse n hn).1
  have hadmitted : ∀ n ∈ nodes,
      authorityUnchanged db₁ (newIntent view.toReserveView (request n.nodeId)) = true ∧
        Deadlines view.toReserveView (request n.nodeId) := by
    intro n hn
    obtain ⟨hauthority, hdeadline⟩ := authorityUnchanged_of_admitted (h.admitted n hn)
      (fun hop => by rw [if_pos hop]; exact hpayload hop n hn) (fun hop => hrunning hop)
    refine ⟨?_, hdeadline⟩
    obtain ⟨hid, hnode, -⟩ := hrequest hn
    have hkey : (u.id, n.nodeId) = key n := by
      rw [key_rolloutNode, h.rollout n hn]
    rw [authorityUnchanged_congr (setNodes db [n] f hf)]
    · exact hauthority
    · exact hsame.rollouts
    · change db₁.rolloutNodes.get? ((request n.nodeId).rolloutId, (request n.nodeId).nodeId) = _
      rw [hid, hnode, hkey, hrows n hn]
      change _ = (setNodes db [n] f hf).rolloutNodes.get?
        ((request n.nodeId).rolloutId, (request n.nodeId).nodeId)
      rw [hid, hnode, hkey]
    · exact hsame.nodes
    · exact hsame.jobs
    exact hsame.leases
  obtain ⟨n₀, hn₀⟩ := List.exists_mem_of_ne_nil nodes hne
  obtain ⟨-, -, v, -, -, -, hv, -⟩ := h.admitted n₀ hn₀
  have hfinal : Finalizable view.toRolloutView u db₁ nodes request response := by
    refine ⟨h.nodup, ?_, ⟨v, ?_⟩, hintents, fun n hn => (hadmitted n hn).1,
      fun n hn => (hadmitted n hn).2, fun n hn => (hresponse n hn).2, ?_, ?_⟩
    · intro n hn
      exact ⟨h.rollout n hn, (hrequest hn).1, (hrequest hn).2.1⟩
    · rw [hsame.rollouts]
      exact hv
    · intro n hn
      rw [hsame.operations, (hrequest hn).2.2.2.2]
      exact hfresh n hn
    intro a ha b hb he
    rcases he with he | he
    · exact h.distinct _ _ ((hrequest ha).2.2.2.1.symm.trans (he.trans (hrequest hb).2.2.2.1))
    exact hdistinct _ _ ((hrequest ha).2.2.2.2.symm.trans (he.trans (hrequest hb).2.2.2.2))
  obtain ⟨db₂, hfinalize, hrollouts, hjobs⟩ := finalizeNodes_succeeds hfinal g hg
  exact ⟨_, db₁, _, db₂, hreserve, hsigned, hfinalize, hsame.rollouts, hsame.jobs,
    hrollouts.trans hsame.rollouts, hjobs.trans hsame.jobs⟩

end VonkForge.Updates
