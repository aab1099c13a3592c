import VonkForge.LeaseHandoff

/-!
# Lease groups are all or nothing

Every row stands for the complete target set of its owner, under one fence and in one state.
-/

namespace VonkForge.LeaseHandoff

open NodeLeases Transactions Table

def targetsOf (db : Database) : LeaseOwnerKind → Uuid → Option NodeGroup
  | .reconciliation, id => (db.reconciliations.get? id).map (·.targets)
  | .updateRollout, id => (db.rollouts.get? id).bind fun u => u.batches[u.currentBatch]?

/-- The row at `n` is part of the whole group of its owner. -/
def GroupWhole (db : Database) (n : NodeId) (row : NodeMutationLease) : Prop :=
  ∃ g, targetsOf db row.ownerKind row.ownerId = some g ∧ n ∈ g.nodes ∧
    GroupAt db.leases g.nodes row.ownerKind row.ownerId row.fence row.state

structure LeaseInv (db : Database) : Prop where
  whole : ∀ n row, db.leases.get? n = some row → GroupWhole db n row
  known : ∀ n row, db.leases.get? n = some row → ∃ node, db.nodes.get? n = some node

def GroupClosed (db : Database) (nodes : List NodeId) : Prop :=
  ∀ n ∈ nodes, ∀ row, db.leases.get? n = some row →
    ∀ g, targetsOf db row.ownerKind row.ownerId = some g → ∀ m ∈ g.nodes, m ∈ nodes

variable {db db' : Database} {now : Time} {fence owner held : Uuid} {r p : Reconciliation}
  {g : NodeGroup} {o : Option NodeLeaseGrant} {u : UpdateRollout} {grant : NodeLeaseGrant}
  {nodes : List NodeId} {kind : LeaseOwnerKind} {state : LeaseState} {b : Bool}

lemma get?_setLeaseState (t : Table NodeMutationLease) (nodes : List NodeId) (state : LeaseState)
    (now : Time) (n : NodeId) :
    (setLeaseState t nodes state now).get? n =
      (t.get? n).map fun row =>
        if n ∈ nodes then { row with state := state, updatedAt := now } else row := by
  rw [setLeaseState, get?_updateWhere]
  cases hrow : t.get? n with
  | none => rfl
  | some row =>
    have hkey : row.nodeId = n := get?_key hrow
    simp [hkey]

lemma get?_deleteNodes (t : Table NodeMutationLease) (nodes : List NodeId) (n : NodeId) :
    (deleteNodes t nodes).get? n = if n ∈ nodes then none else t.get? n := by
  rw [deleteNodes, get?_deleteWhere]
  cases hrow : t.get? n with
  | none => simp
  | some row =>
    have hkey : row.nodeId = n := get?_key hrow
    by_cases hn : n ∈ nodes <;> simp [Option.filter, hkey, hn]

lemma groupClosed_of_owner {p : NodeMutationLease → Prop}
    (hrows : ∀ n ∈ nodes, ∃ row, db.leases.get? n = some row ∧
      (row.ownerKind = kind ∧ row.ownerId = owner) ∧ p row)
    (hsub : ∀ g, targetsOf db kind owner = some g → ∀ m ∈ g.nodes, m ∈ nodes) :
    GroupClosed db nodes := by
  intro n hn row hrow g hg m hm
  obtain ⟨row', hrow', ⟨hk, ho⟩, -⟩ := hrows n hn
  rw [hrow] at hrow'
  cases hrow'
  rw [hk, ho] at hg
  exact hsub g hg m hm

/-- A successor's targets are a proper part of those of the terminal predecessor that
`_ensure_node_lease` would release on them. -/
def StrictHandoff (db : Database) (r p : Reconciliation) : Prop :=
  db.reconciliations.get? p.id = some p ∧ terminalPhase p.currentPhase = true ∧
  (∃ n ∈ r.targets.nodes, ∃ row, db.leases.get? n = some row ∧
    row.ownerKind = .reconciliation ∧ row.ownerId = p.id ∧
    (row.state = .releasing ∨ cancellationWithdrawing db p = true)) ∧
  (∀ n ∈ r.targets.nodes, n ∈ p.targets.nodes) ∧ ∃ n ∈ p.targets.nodes, n ∉ r.targets.nodes

/-- The step is not a hand-off that leaves a part of the predecessor's group behind. -/
def HandoffWhole (db : Database) : LeaseEvent → Prop
  | .ensureNodeLease _ _ id =>
    ∀ r, db.reconciliations.get? id = some r → ∀ p, ¬ StrictHandoff db r p
  | _ => True

lemma targetsOf_reconciliation (hr : db.reconciliations.get? r.id = some r) :
    targetsOf db .reconciliation r.id = some r.targets := by
  simp [targetsOf, hr]

section

variable (hinv : LeaseInv db)

include hinv

lemma LeaseInv.frame (hleases : db'.leases = db.leases)
    (htargets : ∀ n row g, db.leases.get? n = some row →
      targetsOf db row.ownerKind row.ownerId = some g →
      targetsOf db' row.ownerKind row.ownerId = some g)
    (hnodes : ∀ n node, db.nodes.get? n = some node → ∃ node', db'.nodes.get? n = some node') :
    LeaseInv db' := by
  constructor
  · intro n row hrow
    rw [hleases] at hrow
    obtain ⟨g, hg, hn, hall⟩ := hinv.whole n row hrow
    exact ⟨g, htargets n row g hrow hg, hn, hleases ▸ hall⟩
  intro n row hrow
  rw [hleases] at hrow
  obtain ⟨node, hnode⟩ := hinv.known n row hrow
  exact hnodes n node hnode

lemma LeaseInv.not_mem_closed (hclosed : GroupClosed db nodes) {n : NodeId}
    {row : NodeMutationLease} (hrow : db.leases.get? n = some row) (hn : n ∉ nodes)
    (hg : targetsOf db row.ownerKind row.ownerId = some g) : ∀ m ∈ g.nodes, m ∉ nodes := by
  intro m hm hmem
  obtain ⟨g', hg', hn', hall⟩ := hinv.whole n row hrow
  rw [hg] at hg'
  cases hg'
  obtain ⟨row', hrow', ⟨hk, ho, -⟩, -⟩ := hall m hm
  have htargets : targetsOf db row'.ownerKind row'.ownerId = some g := by rw [hk, ho, hg]
  exact hn (hclosed m hmem row' hrow' g htargets n hn')

lemma LeaseInv.take (hg : targetsOf db kind owner = some g)
    (hfree : ∀ n ∈ groupNodes g, db.leases.get? n = none)
    (hknown : ∀ n ∈ groupNodes g, ∃ node, db.nodes.get? n = some node) :
    LeaseInv { db with
      leases := db.leases.insertAllIgnore (heldRows (groupNodes g) kind owner fence now) } := by
  have hget := @get?_heldRows (groupNodes g) db.leases kind owner fence now hfree
  constructor
  · intro n row hrow
    rw [hget] at hrow
    split at hrow
    · next hn =>
      cases hrow
      refine ⟨g, hg, mem_groupNodes.mp hn, ?_⟩
      intro m hm
      refine ⟨⟨m, kind, owner, fence, .held, now, now⟩, ?_, ⟨rfl, rfl, rfl⟩, rfl⟩
      exact (hget m).trans (if_pos (mem_groupNodes.mpr hm))
    obtain ⟨g', hg', hn', hall⟩ := hinv.whole n row hrow
    refine ⟨g', hg', hn', ?_⟩
    intro m hm
    obtain ⟨row', hrow', hr⟩ := hall m hm
    refine ⟨row', ?_, hr⟩
    have hm' : m ∉ groupNodes g := by
      intro hmem
      rw [hfree m hmem] at hrow'
      cases hrow'
    exact ((hget m).trans (if_neg hm')).trans hrow'
  intro n row hrow
  rw [hget] at hrow
  split at hrow
  · next hn => exact hknown n hn
  exact hinv.known n row hrow

lemma LeaseInv.setState (hclosed : GroupClosed db nodes) (state : LeaseState) (now : Time) :
    LeaseInv { db with leases := setLeaseState db.leases nodes state now } := by
  have hget := get?_setLeaseState db.leases nodes state now
  constructor
  · intro n row hrow
    rw [hget] at hrow
    obtain ⟨old, hold, rfl⟩ := Option.map_eq_some_iff.mp hrow
    obtain ⟨g, hg, hng, hall⟩ := hinv.whole n old hold
    by_cases hn : n ∈ nodes
    · simp only [hn, if_true]
      refine ⟨g, hg, hng, ?_⟩
      intro m hm
      obtain ⟨row', hrow', hf, -⟩ := hall m hm
      have hmem := hclosed n hn old hold g hg m hm
      refine ⟨{ row' with state := state, updatedAt := now }, ?_, hf, rfl⟩
      exact (hget m).trans (by rw [hrow', Option.map_some, if_pos hmem])
    simp only [hn, if_false]
    refine ⟨g, hg, hng, ?_⟩
    intro m hm
    obtain ⟨row', hrow', hr⟩ := hall m hm
    have hmem := hinv.not_mem_closed hclosed hold hn hg m hm
    refine ⟨row', ?_, hr⟩
    exact (hget m).trans (by rw [hrow', Option.map_some, if_neg hmem])
  intro n row hrow
  rw [hget] at hrow
  obtain ⟨old, hold, -⟩ := Option.map_eq_some_iff.mp hrow
  exact hinv.known n old hold

lemma LeaseInv.delete (hclosed : GroupClosed db nodes) :
    LeaseInv { db with leases := deleteNodes db.leases nodes } := by
  have hget := get?_deleteNodes db.leases nodes
  constructor
  · intro n row hrow
    rw [hget] at hrow
    split at hrow
    · cases hrow
    next hn =>
    obtain ⟨g, hg, hng, hall⟩ := hinv.whole n row hrow
    refine ⟨g, hg, hng, ?_⟩
    intro m hm
    obtain ⟨row', hrow', hr⟩ := hall m hm
    have hmem := hinv.not_mem_closed hclosed hrow hn hg m hm
    exact ⟨row', ((hget m).trans (if_neg hmem)).trans hrow', hr⟩
  intro n row hrow
  rw [hget] at hrow
  split at hrow
  · cases hrow
  exact hinv.known n row hrow

lemma LeaseInv.acquire (hg : targetsOf db kind owner = some g)
    (h : acquireInSession db now fence g.nodes kind owner = .ok (grant, db')) : LeaseInv db' := by
  rcases acquire_cases h with ⟨rfl, -⟩ | ⟨hfree, hknown, -, rfl⟩
  · exact hinv
  exact hinv.take hg hfree hknown

end

lemma groupClosed_of_own {g' : NodeGroup} (hg : targetsOf db kind owner = some g')
    (hsub : ∀ n ∈ g'.nodes, n ∈ g.nodes)
    (hrows : ∀ n ∈ groupNodes g, ∃ row, db.leases.get? n = some row ∧
      FencedBy kind owner fence row) : GroupClosed db (groupNodes g) := by
  apply groupClosed_of_owner
  · intro n hn
    obtain ⟨row, hrow, hk, ho, hf⟩ := hrows n hn
    exact ⟨row, hrow, ⟨hk, ho⟩, hf⟩
  intro g₁ hg₁ m hm
  rw [hg] at hg₁
  cases hg₁
  exact mem_groupNodes.mpr (hsub m hm)

section

variable (hinv : LeaseInv db) (hn : grant.nodeIds = groupNodes g)
  (hg : targetsOf db grant.ownerKind grant.ownerId = some g)

include hinv hn hg

lemma LeaseInv.markOwn (h : markReleasingInSession db now grant = .ok db') : LeaseInv db' := by
  obtain ⟨hrows, rfl⟩ := (markReleasing_eq_ok hn).mp h
  exact hinv.setState (groupClosed_of_own hg (fun _ hm => hm) hrows) .releasing now

lemma LeaseInv.releaseOwn (h : releaseInSession db grant = .ok db') : LeaseInv db' := by
  obtain ⟨hall, rfl⟩ := (release_eq_ok hn).mp h
  exact hinv.delete (groupClosed_of_own hg (fun _ hm => hm) hall.fenced)

end

lemma takeOver_covers (hn : grant.nodeIds = groupNodes r.targets)
    (h : takeOver db now fence r grant = .ok (o, db')) :
    ∀ n ∈ groupNodes r.targets, ∃ row, db.leases.get? n = some row ∧
      FencedBy grant.ownerKind grant.ownerId grant.fence row := by
  obtain ⟨marked, hmark, h⟩ := of_bind_ok h
  unfold markHeld at hmark
  split_ifs at hmark
  · exact ((markReleasing_eq_ok hn).mp hmark).1
  cases hmark
  obtain ⟨released, hrel, -⟩ := of_bind_ok h
  exact ((release_eq_ok hn).mp hrel).1.fenced

lemma LeaseInv.takeOver (hinv : LeaseInv db) (hr : db.reconciliations.get? r.id = some r)
    (hp : db.reconciliations.get? p.id = some p) (hsub : ∀ n ∈ p.targets.nodes, n ∈ r.targets.nodes)
    (h : LeaseHandoff.takeOver db now fence r
      ⟨.reconciliation, p.id, held, groupNodes r.targets, state⟩ = .ok (o, db')) :
    LeaseInv db' := by
  -- Every state between the two rows' deletion keeps the reconciliations, hence the targets.
  have hclosed (d : Database) (hd : d.reconciliations = db.reconciliations)
      (hrows : ∀ n ∈ groupNodes r.targets, ∃ row, d.leases.get? n = some row ∧
        FencedBy .reconciliation p.id held row) : GroupClosed d (groupNodes r.targets) :=
    groupClosed_of_own (targetsOf_reconciliation (hd ▸ hp)) hsub hrows
  obtain ⟨marked, hmark, h⟩ := of_bind_ok h
  have hmarked : LeaseInv marked ∧ marked.reconciliations = db.reconciliations := by
    unfold markHeld at hmark
    split_ifs at hmark
    · obtain ⟨hrows, rfl⟩ := (markReleasing_eq_ok rfl).mp hmark
      exact ⟨hinv.setState (hclosed db rfl hrows) .releasing now, rfl⟩
    cases hmark
    exact ⟨hinv, rfl⟩
  obtain ⟨released, hrel, h⟩ := of_bind_ok h
  obtain ⟨hall, rfl⟩ := (release_eq_ok rfl).mp hrel
  have hdel : LeaseInv
      { marked with leases := deleteNodes marked.leases (groupNodes r.targets) } :=
    hmarked.1.delete (hclosed marked hmarked.2 hall.fenced)
  split at h
  · next grant db'' hacq =>
    cases h
    refine hdel.acquire ?_ hacq
    apply targetsOf_reconciliation
    rw [hmarked.2, hr]
  · cases h
    exact hdel
  cases h

/-- The reconciliation whose rows on the targets of `r` the handler of the conflict releases. -/
structure Predecessor (db : Database) (r p : Reconciliation) (held : Uuid) (state : LeaseState) :
    Prop where
  stored : db.reconciliations.get? p.id = some p
  terminal : terminalPhase p.currentPhase = true
  rows : leaseRows db.leases (groupNodes r.targets) ≠ []
  fenced : ∀ row ∈ leaseRows db.leases (groupNodes r.targets),
    FencedBy .reconciliation p.id held row
  anyHeld : state = .held ↔ ∃ row ∈ leaseRows db.leases (groupNodes r.targets), row.state = .held
  withdrawing : state = .held → cancellationWithdrawing db p = true

lemma Predecessor.releasing (h : Predecessor db r p held state) (hs : state = .releasing) :
    ∀ row ∈ leaseRows db.leases (groupNodes r.targets), row.state = .releasing := by
  intro row hrow
  cases hst : row.state with
  | held => rw [h.anyHeld.mpr ⟨row, hrow, hst⟩] at hs; cases hs
  | releasing => rfl

lemma Predecessor.handOff_eq (h : Predecessor db r p held state) :
    handOff db now fence r =
      takeOver db now fence r ⟨.reconciliation, p.id, held, groupNodes r.targets, state⟩ := by
  have howners : ((leaseRows db.leases (groupNodes r.targets)).map
      fun row => (row.ownerKind, row.ownerId, row.fence)).dedup =
        [(LeaseOwnerKind.reconciliation, p.id, held)] := by
    refine dedup_map_eq_singleton.mpr ⟨h.rows, fun row hrow => ?_⟩
    obtain ⟨hk, ho, hf⟩ := h.fenced row hrow
    rw [hk, ho, hf]
  have hany : (leaseRows db.leases (groupNodes r.targets)).any (·.state = .held) =
      decide (state = .held) := by
    rw [Bool.eq_iff_iff, List.any_eq_true, decide_eq_true_iff, h.anyHeld]
    simp only [decide_eq_true_eq]
  unfold handOff
  simp only [howners, h.stored, hany]
  rw [if_neg (by simp [h.terminal]), if_neg]
  · cases state <;> rfl
  rintro ⟨hs, hc⟩
  rw [h.withdrawing (of_decide_eq_true hs)] at hc
  cases hc

lemma handOff_of_forall_not (h : ∀ p held state, ¬ Predecessor db r p held state) :
    handOff db now fence r = .ok (none, db) := by
  unfold handOff
  simp only []
  split
  · next owner held hown =>
    obtain ⟨hrows, hfenced⟩ := dedup_map_eq_singleton.mp hown
    split
    · rfl
    next p hp =>
    obtain rfl : p.id = owner := get?_key hp
    have hf : ∀ row ∈ leaseRows db.leases (groupNodes r.targets),
        FencedBy .reconciliation p.id held row := by
      intro row hrow
      simpa [FencedBy] using hfenced row hrow
    split_ifs with hterm hheld hany
    · rfl
    · rfl
    · refine absurd ⟨hp, by simpa using hterm, hrows, hf, ?_, ?_⟩ (h p held .held)
      · simpa using hany
      simpa [hany] using hheld
    refine absurd ⟨hp, by simpa using hterm, hrows, hf, ?_, ?_⟩ (h p held .releasing)
    · simpa using hany
    simp
  rfl

lemma handOff_cases (h : handOff db now fence r = .ok (o, db')) :
    (o = none ∧ db' = db) ∨ ∃ p held state, Predecessor db r p held state ∧
      takeOver db now fence r
        ⟨.reconciliation, p.id, held, groupNodes r.targets, state⟩ = .ok (o, db') := by
  by_cases hpred : ∃ p held state, Predecessor db r p held state
  · obtain ⟨p, held, state, hpred⟩ := hpred
    exact .inr ⟨p, held, state, hpred, hpred.handOff_eq ▸ h⟩
  push Not at hpred
  rw [handOff_of_forall_not hpred] at h
  cases h
  exact .inl ⟨rfl, rfl⟩

lemma strictHandoff_of_takeOver (hinv : LeaseInv db) (hp : Predecessor db r p held state)
    (h : takeOver db now fence r
      ⟨.reconciliation, p.id, held, groupNodes r.targets, state⟩ = .ok (o, db'))
    (hout : ∃ n ∈ p.targets.nodes, n ∉ r.targets.nodes) : StrictHandoff db r p := by
  have hrows := takeOver_covers rfl h
  refine ⟨hp.stored, hp.terminal, ?_, ?_, hout⟩
  · obtain ⟨n, hn⟩ := List.exists_mem_of_ne_nil _ (groupNodes_ne_nil r.targets)
    obtain ⟨row, hrow, hk, ho, -⟩ := hrows n hn
    refine ⟨n, mem_groupNodes.mp hn, row, hrow, hk, ho, ?_⟩
    cases state with
    | held => exact .inr (hp.withdrawing rfl)
    | releasing =>
      have hkey : row.nodeId = n := get?_key hrow
      exact .inl (hp.releasing rfl row (mem_leaseRows.mpr ⟨hkey ▸ hn, hkey ▸ hrow⟩))
  intro n hn
  obtain ⟨row, hrow, hk, ho, -⟩ := hrows n (mem_groupNodes.mpr hn)
  obtain ⟨g, hg, hmem, -⟩ := hinv.whole n row hrow
  rw [hk, ho, targetsOf_reconciliation hp.stored] at hg
  cases hg
  exact hmem

section

variable (hinv : LeaseInv db) (hr : db.reconciliations.get? r.id = some r)

include hinv hr

lemma LeaseInv.handOff (hwhole : ∀ p, ¬ StrictHandoff db r p)
    (h : LeaseHandoff.handOff db now fence r = .ok (o, db')) : LeaseInv db' := by
  rcases handOff_cases h with ⟨-, rfl⟩ | ⟨p, held, state, hp, htake⟩
  · exact hinv
  apply hinv.takeOver hr hp.stored ?_ htake
  by_contra hout
  push Not at hout
  exact hwhole p (strictHandoff_of_takeOver hinv hp htake hout)

lemma LeaseInv.ensureNodeLease (hwhole : ∀ p, ¬ StrictHandoff db r p)
    (h : LeaseHandoff.ensureNodeLease db now fence r = .ok (o, db')) : LeaseInv db' := by
  unfold LeaseHandoff.ensureNodeLease at h
  split at h
  · cases h
    exact hinv
  · split at h
    · next grant db'' hacq =>
      cases h
      exact hinv.acquire (targetsOf_reconciliation hr) hacq
    · exact hinv.handOff hr hwhole h
    cases h
  · exact hinv.handOff hr hwhole h
  cases h

lemma LeaseInv.releasePending (h : releasePendingNodeLease db r = .ok (b, db')) : LeaseInv db' := by
  unfold releasePendingNodeLease at h
  split at h
  · next grant hgrant =>
    obtain ⟨heq, -⟩ := ownedGrant_eq_some.mp hgrant
    split_ifs at h
    · split at h
      · next db'' hrel =>
        cases h
        rw [heq] at hrel
        exact hinv.releaseOwn rfl (targetsOf_reconciliation hr) hrel
      · cases h
        exact hinv
      cases h
    cases h
    exact hinv
  · cases h
    exact hinv
  · cases h
    exact hinv
  cases h

lemma LeaseInv.markNode (h : markNodeLeaseReleasing db now r = .ok (b, db')) : LeaseInv db' := by
  unfold markNodeLeaseReleasing at h
  split at h
  · next grant hgrant =>
    obtain ⟨heq, -⟩ := ownedGrant_eq_some.mp hgrant
    split_ifs at h
    · obtain ⟨db'', hmark, h⟩ := of_bind_ok h
      cases h
      rw [heq] at hmark
      exact hinv.markOwn rfl (targetsOf_reconciliation hr) hmark
    cases h
    exact hinv
  · cases h
    exact hinv
  · cases h
    exact hinv
  cases h

end

lemma targetsOf_rollout (hu : db.rollouts.get? u.id = some u) (hg : batchNodes u = .ok g) :
    targetsOf db .updateRollout u.id = some g := by
  unfold batchNodes at hg
  split at hg
  · next g' hb =>
    cases hg
    simp [targetsOf, hu, hb]
  cases hg

lemma batchGrant_eq_ok (h : batchGrant db u g = .ok grant) :
    grant = ⟨.updateRollout, u.id, grant.fence, groupNodes g, grant.state⟩ ∧
      GroupAt db.leases (groupNodes g) .updateRollout u.id grant.fence grant.state := by
  obtain ⟨og, hog, h⟩ := of_bind_ok h
  cases og with
  | none => cases h
  | some grant' =>
    cases h
    exact ownedGrant_eq_some.mp hog

variable (hinv : LeaseInv db) (hu : db.rollouts.get? u.id = some u)

include hinv hu

lemma LeaseInv.acquireBatch (h : LeaseHandoff.acquireBatch db now fence u = .ok db') :
    LeaseInv db' := by
  obtain ⟨g, hg, h⟩ := of_bind_ok h
  split at h
  · next grant db'' hacq =>
    cases h
    exact hinv.acquire (targetsOf_rollout hu hg) hacq
  · cases h
    exact hinv
  cases h

lemma LeaseInv.markBatch (h : markBatchReleasing db now u = .ok db') : LeaseInv db' := by
  obtain ⟨g, hg, grant, hgrant, h⟩ := of_bind_ok₂ h
  rw [(batchGrant_eq_ok hgrant).1] at h
  exact hinv.markOwn rfl (targetsOf_rollout hu hg) h

lemma LeaseInv.reholdBatch (h : LeaseHandoff.reholdBatch db now u = .ok db') : LeaseInv db' := by
  obtain ⟨g, hg, grant, hgrant, h⟩ := of_bind_ok₂ h
  obtain ⟨-, hall⟩ := batchGrant_eq_ok hgrant
  have hrows := hall.fenced
  split_ifs at h
  · unfold reholdLeaseInSession at h
    simp only [] at h
    split_ifs at h
    cases h
    rw [map_nodeId_of_covered hrows]
    exact hinv.setState (groupClosed_of_own (targetsOf_rollout hu hg) (fun _ hm => hm) hrows) .held now
  cases h
  exact hinv

lemma LeaseInv.releaseBatch {accepted : Bool}
    (h : LeaseHandoff.releaseBatch db u accepted = .ok db') : LeaseInv db' := by
  obtain ⟨g, hg, grant, hgrant, h⟩ := of_bind_ok₂ h
  split at h
  · cases h
  obtain ⟨db'', hrel, h⟩ := of_bind_ok h
  have hgrant' := (batchGrant_eq_ok hgrant).1
  rw [hgrant'] at hrel
  have htargets := targetsOf_rollout hu hg
  have hinv' : LeaseInv db'' := hinv.releaseOwn rfl htargets hrel
  obtain ⟨-, rfl⟩ := (release_eq_ok rfl).mp hrel
  split_ifs at h
  · cases h
    refine hinv'.frame rfl ?_ fun n node hnode => ⟨node, hnode⟩
    intro n row g' hrow hg'
    -- A row left in the table is not one of this rollout: its nodes were deleted.
    have hother : ¬ (row.ownerKind = .updateRollout ∧ row.ownerId = u.id) := by
      rintro ⟨hk, ho⟩
      obtain ⟨g'', hg'', hn, -⟩ := hinv'.whole n row hrow
      rw [hk, ho] at hg''
      have hgg : some g'' = some g := hg''.symm.trans htargets
      cases hgg
      have hgone := get?_deleteNodes db.leases (groupNodes g) n
      rw [if_pos (mem_groupNodes.mpr hn)] at hgone
      rw [hgone] at hrow
      cases hrow
    cases hk : row.ownerKind with
    | reconciliation =>
      rw [hk] at hg'
      exact hg'
    | updateRollout =>
      rw [hk] at hg'
      have hne : row.ownerId ≠ u.id := fun ho => hother ⟨hk, ho⟩
      simp only [targetsOf, moveCursor, get?_updateWhere] at hg' ⊢
      obtain ⟨v, hv, hb⟩ := Option.bind_eq_some_iff.mp hg'
      have hid : v.id = row.ownerId := get?_key hv
      rw [hv]
      simp only [Option.map_some, Option.bind_some, hid, hne, decide_false]
      exact hb
  cases h
  exact hinv'

end VonkForge.LeaseHandoff
