import VonkForge.Models
import VonkForge.Transactions
import Mathlib.Data.List.Dedup

/-!
# Atomic durable ownership of node mutations

`NodeLeaseService`: a lease group is one row for each of its nodes.  Every operation raises before
it has written anything.
-/

namespace VonkForge.NodeLeases

open Table

variable {nodes : List NodeId} {row : NodeMutationLease} {t : Table NodeMutationLease}

inductive LeaseError
  | conflict (nodeIds : List NodeId)
  | invalidTargets
  | unknownNodes (missing : List NodeId)
  | unknownRow
  | leaseAbsent
  deriving DecidableEq

structure NodeLeaseGrant where
  ownerKind : LeaseOwnerKind
  (ownerId fence : Uuid)
  nodeIds : List NodeId
  state : LeaseState
  deriving DecidableEq

/-- `_nodes`: sorted, none of them twice, and at least one. -/
def leaseNodes (values : List NodeId) : Except LeaseError (List NodeId) :=
  let nodes := values.insertionSort (· ≤ ·)
  if nodes = [] ∨ ¬ nodes.Nodup then .error .invalidTargets else .ok nodes

def leaseRows (t : Table NodeMutationLease) (nodes : List NodeId) : List NodeMutationLease :=
  nodes.filterMap t.get?

def ownedBy (kind : LeaseOwnerKind) (owner : Uuid) (row : NodeMutationLease) : Bool :=
  row.ownerKind = kind && row.ownerId = owner

/-- The owner holds all of the nodes already, under one fence. -/
def matchingGrant (rows : List NodeMutationLease) (nodes : List NodeId)
    (kind : LeaseOwnerKind) (owner : Uuid) : Option NodeLeaseGrant :=
  match (rows.map (·.fence)).dedup with
  | [fence] =>
    if rows.length = nodes.length ∧ rows.map (·.nodeId) = nodes ∧
        ∀ row ∈ rows, ownedBy kind owner row = true ∧ row.state = .held then
      some ⟨kind, owner, fence, nodes, .held⟩
    else none
  | _ => none

def heldRows (nodes : List NodeId) (kind : LeaseOwnerKind) (owner fence : Uuid) (now : Time) :
    List NodeMutationLease :=
  nodes.map fun n => ⟨n, kind, owner, fence, .held, now, now⟩

/-- All of the nodes are taken or none; an owner that holds them gets its grant again. -/
def acquireInSession (db : Database) (now : Time) (fence : Uuid) (values : List NodeId)
    (kind : LeaseOwnerKind) (owner : Uuid) : Except LeaseError (NodeLeaseGrant × Database) := do
  let nodes ← leaseNodes values
  let existing := leaseRows db.leases nodes
  match matchingGrant existing nodes kind owner with
  | some grant => .ok (grant, db)
  | none =>
    let known := nodes.filter fun n => (db.nodes.get? n).isSome
    let inserted := nodes.filter fun n => (db.leases.get? n).isNone
    if existing ≠ [] then .error (.conflict (existing.map (·.nodeId)))
    else if known ≠ nodes then .error (.unknownNodes (nodes.filter fun n => n ∉ known))
    -- A partial insertion is deleted again before the conflict is raised.
    else if inserted.length ≠ nodes.length then
      .error (.conflict (nodes.filter fun n => (db.leases.get? n).isSome))
    else .ok (⟨kind, owner, fence, nodes, .held⟩,
      { db with leases := db.leases.insertAllIgnore (heldRows nodes kind owner fence now) })

/-- The grant that the owner has over the nodes, held or releasing. -/
def ownedGrantInSession (db : Database) (values : List NodeId) (kind : LeaseOwnerKind)
    (owner : Uuid) : Except LeaseError (Option NodeLeaseGrant) := do
  let nodes ← leaseNodes values
  let rows := leaseRows db.leases nodes
  if rows = [] then .ok none
  else
    match (rows.map (·.fence)).dedup, (rows.map (·.state)).dedup with
    | [fence], [state] =>
      if rows.length ≠ nodes.length ∨ rows.map (·.nodeId) ≠ nodes ∨
          ¬ ∀ row ∈ rows, ownedBy kind owner row = true then
        .error (.conflict (rows.map (·.nodeId)))
      else .ok (some ⟨kind, owner, fence, nodes, state⟩)
    | _, _ => .error (.conflict (rows.map (·.nodeId)))

/-- The rows of a grant whose fence is not stale. -/
def grantRows (db : Database) (grant : NodeLeaseGrant) :
    Except LeaseError (List NodeMutationLease) := do
  let nodes ← leaseNodes grant.nodeIds
  let rows := leaseRows db.leases nodes
  if rows.length ≠ nodes.length ∨
      ¬ ∀ row ∈ rows, ownedBy grant.ownerKind grant.ownerId row = true ∧
        row.fence = grant.fence then
    .error (.conflict nodes)
  else .ok rows

def setLeaseState (t : Table NodeMutationLease) (nodes : List NodeId) (state : LeaseState)
    (now : Time) : Table NodeMutationLease :=
  t.updateWhere (fun row => decide (row.nodeId ∈ nodes))
    fun row => { row with state := state, updatedAt := now }

def deleteNodes (t : Table NodeMutationLease) (nodes : List NodeId) : Table NodeMutationLease :=
  t.deleteWhere fun row => decide (row.nodeId ∈ nodes)

def markReleasingInSession (db : Database) (now : Time) (grant : NodeLeaseGrant) :
    Except LeaseError Database := do
  let rows ← grantRows db grant
  .ok { db with leases := setLeaseState db.leases (rows.map (·.nodeId)) .releasing now }

/-- Only a group that was marked as releasing is deleted. -/
def releaseInSession (db : Database) (grant : NodeLeaseGrant) : Except LeaseError Database := do
  let rows ← grantRows db grant
  if ∃ row ∈ rows, row.state ≠ .releasing then .error (.conflict grant.nodeIds)
  else .ok { db with leases := deleteNodes db.leases (rows.map (·.nodeId)) }

def groupNodes (g : NodeGroup) : List NodeId := g.nodes.insertionSort (· ≤ ·)

variable {g : NodeGroup} {db db' : Database} {kind : LeaseOwnerKind} {owner fence : Uuid}
  {grant : NodeLeaseGrant} {now : Time}

lemma mem_groupNodes {n : NodeId} : n ∈ groupNodes g ↔ n ∈ g.nodes :=
  List.mem_insertionSort _

lemma groupNodes_ne_nil (g : NodeGroup) : groupNodes g ≠ [] := by
  intro h
  have hl := (List.perm_insertionSort (· ≤ ·) g.nodes).length_eq
  change (groupNodes g).length = _ at hl
  rw [h] at hl
  exact g.ne_nil (List.length_eq_zero_iff.mp hl.symm)

lemma leaseNodes_group (g : NodeGroup) : leaseNodes g.nodes = .ok (groupNodes g) := by
  have hbad : ¬ (groupNodes g = [] ∨ ¬ (groupNodes g).Nodup) := by
    intro h
    rcases h with h | h
    · exact groupNodes_ne_nil g h
    exact h ((List.perm_insertionSort _ _).nodup_iff.mpr g.nodup)
  exact if_neg hbad

lemma leaseNodes_groupNodes (g : NodeGroup) : leaseNodes (groupNodes g) = .ok (groupNodes g) := by
  have hsort : (groupNodes g).insertionSort (· ≤ ·) = groupNodes g :=
    (List.pairwise_insertionSort (· ≤ ·) g.nodes).insertionSort_eq
  rw [← leaseNodes_group]
  unfold leaseNodes
  simp only [hsort]
  rfl

section Rows

lemma mem_leaseRows :
    row ∈ leaseRows t nodes ↔ row.nodeId ∈ nodes ∧ t.get? row.nodeId = some row := by
  constructor
  · intro h
    obtain ⟨n, hn, hrow⟩ := List.mem_filterMap.mp h
    have hkey : row.nodeId = n := get?_key hrow
    subst hkey
    exact ⟨hn, hrow⟩
  intro h
  exact List.mem_filterMap.mpr ⟨row.nodeId, h.1, h.2⟩

lemma leaseRows_eq_nil : leaseRows t nodes = [] ↔ ∀ n ∈ nodes, t.get? n = none :=
  List.filterMap_eq_nil_iff

lemma map_nodeId_leaseRows :
    (leaseRows t nodes).map (·.nodeId) = nodes.filter fun n => (t.get? n).isSome := by
  induction nodes with
  | nil => rfl
  | cons n nodes ih =>
    cases h : t.get? n with
    | none => simpa [leaseRows, h] using ih
    | some row =>
      have hkey : row.nodeId = n := get?_key h
      simpa [leaseRows, h, hkey] using ih

lemma map_nodeId_leaseRows_eq :
    (leaseRows t nodes).map (·.nodeId) = nodes ↔ ∀ n ∈ nodes, ∃ row, t.get? n = some row := by
  rw [map_nodeId_leaseRows, List.filter_eq_self]
  simp only [Option.isSome_iff_exists]

lemma covered_iff {P : NodeMutationLease → Prop} :
    (∀ n ∈ nodes, ∃ row, t.get? n = some row ∧ P row) ↔
      (∀ n ∈ nodes, ∃ row, t.get? n = some row) ∧ ∀ row ∈ leaseRows t nodes, P row := by
  constructor
  · intro h
    refine ⟨fun n hn => (h n hn).imp fun _ hr => hr.1, fun row hrow => ?_⟩
    obtain ⟨hn, hget⟩ := mem_leaseRows.mp hrow
    obtain ⟨row', hget', hr⟩ := h row.nodeId hn
    rw [hget] at hget'
    cases hget'
    exact hr
  rintro ⟨hstored, hrows⟩ n hn
  obtain ⟨row, hrow⟩ := hstored n hn
  have hkey : row.nodeId = n := get?_key hrow
  exact ⟨row, hrow, hrows row (mem_leaseRows.mpr ⟨hkey ▸ hn, hkey ▸ hrow⟩)⟩

lemma length_leaseRows_eq :
    (leaseRows t nodes).length = nodes.length ↔ ∀ n ∈ nodes, ∃ row, t.get? n = some row := by
  rw [← map_nodeId_leaseRows_eq]
  constructor
  · intro h
    rw [← List.length_map (·.nodeId), map_nodeId_leaseRows] at h
    rw [map_nodeId_leaseRows]
    exact List.filter_sublist.eq_of_length h
  intro h
  have hl := congrArg List.length h
  rwa [List.length_map] at hl

lemma dedup_map_eq_singleton {α β : Type} [DecidableEq α] {l : List β} {f : β → α} {a : α} :
    (l.map f).dedup = [a] ↔ l ≠ [] ∧ ∀ b ∈ l, f b = a := by
  constructor
  · intro h
    have hmem : ∀ c, c ∈ l.map f ↔ c = a := by
      intro c
      rw [← List.mem_dedup, h, List.mem_singleton]
    refine ⟨?_, fun b hb => (hmem _).mp (List.mem_map_of_mem hb)⟩
    rintro rfl
    cases h
  rintro ⟨hne, hall⟩
  rw [List.map_congr_left hall, List.map_const']
  exact List.replicate_dedup (mt List.length_eq_zero_iff.mp hne)

end Rows

def FencedBy (kind : LeaseOwnerKind) (owner fence : Uuid) (row : NodeMutationLease) : Prop :=
  row.ownerKind = kind ∧ row.ownerId = owner ∧ row.fence = fence

/-- Every node has its row, of this owner and fence and in this state. -/
def GroupAt (t : Table NodeMutationLease) (nodes : List NodeId) (kind : LeaseOwnerKind)
    (owner fence : Uuid) (state : LeaseState) : Prop :=
  ∀ n ∈ nodes, ∃ row, t.get? n = some row ∧ FencedBy kind owner fence row ∧ row.state = state

lemma GroupAt.fenced {nodes : List NodeId} {fence : Uuid} {state : LeaseState}
    (h : GroupAt t nodes kind owner fence state) :
    ∀ n ∈ nodes, ∃ row, t.get? n = some row ∧ FencedBy kind owner fence row := by
  intro n hn
  obtain ⟨row, hrow, hf, -⟩ := h n hn
  exact ⟨row, hrow, hf⟩

lemma ownedBy_eq_true :
    ownedBy kind owner row = true ↔ row.ownerKind = kind ∧ row.ownerId = owner := by
  simp [ownedBy]

lemma matchingGrant_eq_some
    (h : matchingGrant (leaseRows t nodes) nodes kind owner = some grant) :
    grant = ⟨kind, owner, grant.fence, nodes, .held⟩ ∧
      GroupAt t nodes kind owner grant.fence .held := by
  unfold matchingGrant at h
  split at h
  · next fence hf =>
    split at h
    · next hc =>
      obtain ⟨-, hnodes, hrows⟩ := hc
      cases h
      refine ⟨rfl, covered_iff.mpr ⟨map_nodeId_leaseRows_eq.mp hnodes, fun row hmem => ?_⟩⟩
      have hown := ownedBy_eq_true.mp (hrows row hmem).1
      have hfence := (dedup_map_eq_singleton.mp hf).2 row hmem
      exact ⟨⟨hown.1, hown.2, hfence⟩, (hrows row hmem).2⟩
    cases h
  cases h

/-- An acquisition finds the group of its owner, or inserts it over free nodes. -/
theorem acquire_cases (h : acquireInSession db now fence g.nodes kind owner = .ok (grant, db')) :
    (db' = db ∧ GroupAt db.leases (groupNodes g) kind owner grant.fence .held) ∨
    ((∀ n ∈ groupNodes g, db.leases.get? n = none) ∧
      (∀ n ∈ groupNodes g, ∃ node, db.nodes.get? n = some node) ∧ grant.fence = fence ∧
      db' = { db with leases :=
        db.leases.insertAllIgnore (heldRows (groupNodes g) kind owner fence now) }) := by
  obtain ⟨nodes, hnodes, h⟩ := of_bind_ok h
  rw [leaseNodes_group] at hnodes
  cases hnodes
  simp only [] at h
  split at h
  · next grant' hm =>
    cases h
    exact .inl ⟨rfl, (matchingGrant_eq_some hm).2⟩
  split_ifs at h with hex hknown hins
  cases h
  refine .inr ⟨leaseRows_eq_nil.mp (not_not.mp hex), ?_, rfl, rfl⟩
  intro n hn
  have hk := List.filter_eq_self.mp (not_not.mp hknown) n hn
  exact Option.isSome_iff_exists.mp hk

section

variable (hfree : ∀ n ∈ groupNodes g, db.leases.get? n = none)

include hfree

lemma acquire_free :
    acquireInSession db now fence g.nodes kind owner =
      let known := (groupNodes g).filter fun n => (db.nodes.get? n).isSome
      if known ≠ groupNodes g then .error (.unknownNodes ((groupNodes g).filter fun n => n ∉ known))
      else .ok (⟨kind, owner, fence, groupNodes g, .held⟩, { db with
        leases := db.leases.insertAllIgnore (heldRows (groupNodes g) kind owner fence now) }) := by
  have hrows : leaseRows db.leases (groupNodes g) = [] := leaseRows_eq_nil.mpr hfree
  have hmatch : matchingGrant ([] : List NodeMutationLease) (groupNodes g) kind owner = none := rfl
  have hins : (groupNodes g).filter (fun n => (db.leases.get? n).isNone) = groupNodes g := by
    apply List.filter_eq_self.mpr
    intro n hn
    rw [hfree n hn]
    rfl
  unfold acquireInSession
  rw [leaseNodes_group]
  change (match matchingGrant (leaseRows _ _) _ _ _ with | some _ => _ | none => _) = _
  rw [hrows, hmatch]
  simp only [hins, ne_eq, not_true_eq_false, if_false]

lemma acquire_of_free (hknown : ∀ n ∈ groupNodes g, ∃ node, db.nodes.get? n = some node) :
    acquireInSession db now fence g.nodes kind owner =
      .ok (⟨kind, owner, fence, groupNodes g, .held⟩, { db with
        leases := db.leases.insertAllIgnore (heldRows (groupNodes g) kind owner fence now) }) := by
  have hk : (groupNodes g).filter (fun n => (db.nodes.get? n).isSome) = groupNodes g := by
    apply List.filter_eq_self.mpr
    intro n hn
    exact Option.isSome_iff_exists.mpr (hknown n hn)
  rw [acquire_free hfree]
  exact if_neg (not_not.mpr hk)

lemma acquire_unknown (hunknown : ¬ ∀ n ∈ groupNodes g, ∃ node, db.nodes.get? n = some node) :
    ∃ missing, acquireInSession db now fence g.nodes kind owner =
      .error (.unknownNodes missing) := by
  rw [acquire_free hfree]
  refine ⟨_, if_pos fun hk => hunknown fun n hn => ?_⟩
  exact Option.isSome_iff_exists.mp (List.filter_eq_self.mp hk n hn)

end

lemma get?_heldRows (hfree : ∀ n ∈ nodes, t.get? n = none) (n : NodeId) :
    (t.insertAllIgnore (heldRows nodes kind owner fence now)).get? n =
      if n ∈ nodes then some ⟨n, kind, owner, fence, .held, now, now⟩ else t.get? n := by
  rw [get?_insertAllIgnore]
  have hfind : (heldRows nodes kind owner fence now).find? (fun r => decide (Keyed.key r = n)) =
      if n ∈ nodes then some ⟨n, kind, owner, fence, .held, now, now⟩ else none := by
    clear hfree
    induction nodes with
    | nil => rfl
    | cons m nodes ih =>
      by_cases hm : m = n
      · simp [heldRows, hm]
      have hn : n ≠ m := fun h => hm h.symm
      simp only [heldRows, List.map_cons, List.find?_cons, key_lease, hm, decide_false,
        List.mem_cons, hn, false_or]
      exact ih
  rw [hfind]
  by_cases hn : n ∈ nodes
  · simp [hn, hfree n hn]
  simp [hn]

lemma map_nodeId_of_covered {p : NodeMutationLease → Prop}
    (h : ∀ n ∈ nodes, ∃ row, db.leases.get? n = some row ∧ p row) :
    (leaseRows db.leases nodes).map (·.nodeId) = nodes := by
  apply map_nodeId_leaseRows_eq.mpr
  intro n hn
  obtain ⟨row, hrow, -⟩ := h n hn
  exact ⟨row, hrow⟩

lemma ownedGrant_eq_none :
    ownedGrantInSession db g.nodes kind owner = .ok none ↔
      ∀ n ∈ groupNodes g, db.leases.get? n = none := by
  unfold ownedGrantInSession
  rw [leaseNodes_group]
  change (if _ then _ else _) = _ ↔ _
  constructor
  · intro h
    split at h
    · next hnil => exact leaseRows_eq_nil.mp hnil
    split at h
    · split at h <;> cases h
    cases h
  intro h
  rw [if_pos (leaseRows_eq_nil.mpr h)]

lemma ownedGrant_error {e : LeaseError}
    (h : ownedGrantInSession db g.nodes kind owner = .error e) :
    ∃ nodes, e = .conflict nodes := by
  unfold ownedGrantInSession at h
  rw [leaseNodes_group] at h
  change (if _ then _ else _) = _ at h
  split at h
  · cases h
  split at h
  · split at h
    · cases h
      exact ⟨_, rfl⟩
    cases h
  cases h
  exact ⟨_, rfl⟩

lemma ownedGrant_eq_some :
    ownedGrantInSession db g.nodes kind owner = .ok (some grant) ↔
      grant = ⟨kind, owner, grant.fence, groupNodes g, grant.state⟩ ∧
      GroupAt db.leases (groupNodes g) kind owner grant.fence grant.state := by
  unfold ownedGrantInSession
  rw [leaseNodes_group]
  change (if _ then _ else _) = _ ↔ _
  constructor
  · intro h
    split at h
    · cases h
    split at h
    · next fence state hf hs =>
      split_ifs at h with hc
      cases h
      simp only [not_or, not_not] at hc
      obtain ⟨-, hnodes, hown⟩ := hc
      refine ⟨rfl, covered_iff.mpr ⟨map_nodeId_leaseRows_eq.mp hnodes, fun row hmem => ?_⟩⟩
      have ho := ownedBy_eq_true.mp (hown row hmem)
      have hfence := (dedup_map_eq_singleton.mp hf).2 row hmem
      have hstate := (dedup_map_eq_singleton.mp hs).2 row hmem
      exact ⟨⟨ho.1, ho.2, hfence⟩, hstate⟩
    cases h
  rintro ⟨hgrant, hall⟩
  have hrow := (covered_iff.mp hall).2
  have hnodes := map_nodeId_of_covered hall
  have hnil : leaseRows db.leases (groupNodes g) ≠ [] := by
    intro hnil
    rw [hnil] at hnodes
    exact groupNodes_ne_nil g hnodes.symm
  have hf : ((leaseRows db.leases (groupNodes g)).map (·.fence)).dedup = [grant.fence] :=
    dedup_map_eq_singleton.mpr ⟨hnil, fun row hmem => (hrow row hmem).1.2.2⟩
  have hs : ((leaseRows db.leases (groupNodes g)).map (·.state)).dedup = [grant.state] :=
    dedup_map_eq_singleton.mpr ⟨hnil, fun row hmem => (hrow row hmem).2⟩
  have hlen : (leaseRows db.leases (groupNodes g)).length = (groupNodes g).length := by
    simpa only [List.length_map] using congrArg List.length hnodes
  rw [if_neg hnil, hf, hs]
  change (if _ then _ else _) = _
  rw [if_neg, ← hgrant]
  simp only [not_or, not_not]
  refine ⟨hlen, hnodes, ?_⟩
  intro row hmem
  have hr := (hrow row hmem).1
  exact ownedBy_eq_true.mpr ⟨hr.1, hr.2.1⟩

variable (hg : grant.nodeIds = groupNodes g)

include hg

lemma grantRows_eq_ok {rows : List NodeMutationLease} :
    grantRows db grant = .ok rows ↔ rows = leaseRows db.leases (groupNodes g) ∧
      ∀ n ∈ groupNodes g, ∃ row, db.leases.get? n = some row ∧
        FencedBy grant.ownerKind grant.ownerId grant.fence row := by
  have hcond : ((leaseRows db.leases (groupNodes g)).length ≠ (groupNodes g).length ∨
      ¬ ∀ row ∈ leaseRows db.leases (groupNodes g),
        ownedBy grant.ownerKind grant.ownerId row = true ∧ row.fence = grant.fence) ↔
      ¬ ∀ n ∈ groupNodes g, ∃ row, db.leases.get? n = some row ∧
        FencedBy grant.ownerKind grant.ownerId grant.fence row := by
    rw [← not_and_or, not_iff_not, length_leaseRows_eq, covered_iff]
    simp only [FencedBy, ownedBy_eq_true, and_assoc]
  unfold grantRows
  rw [hg, leaseNodes_groupNodes]
  change (if _ then _ else _) = _ ↔ _
  by_cases hall : ∀ n ∈ groupNodes g, ∃ row, db.leases.get? n = some row ∧
      FencedBy grant.ownerKind grant.ownerId grant.fence row
  · rw [if_neg (fun hc => hcond.mp hc hall)]
    constructor
    · intro h
      cases h
      exact ⟨rfl, hall⟩
    intro h
    rw [h.1]
  rw [if_pos (hcond.mpr hall)]
  simp [hall]

lemma markReleasing_eq_ok :
    markReleasingInSession db now grant = .ok db' ↔
      (∀ n ∈ groupNodes g, ∃ row, db.leases.get? n = some row ∧
        FencedBy grant.ownerKind grant.ownerId grant.fence row) ∧
      db' = { db with leases := setLeaseState db.leases (groupNodes g) .releasing now } := by
  unfold markReleasingInSession
  constructor
  · intro h
    obtain ⟨rows, hrows, h⟩ := of_bind_ok h
    obtain ⟨rfl, hall⟩ := (grantRows_eq_ok hg).mp hrows
    rw [map_nodeId_of_covered hall] at h
    cases h
    exact ⟨hall, rfl⟩
  rintro ⟨hall, rfl⟩
  rw [(grantRows_eq_ok hg).mpr ⟨rfl, hall⟩]
  change Except.ok _ = _
  rw [map_nodeId_of_covered hall]

lemma release_eq_ok :
    releaseInSession db grant = .ok db' ↔
      GroupAt db.leases (groupNodes g) grant.ownerKind grant.ownerId grant.fence .releasing ∧
      db' = { db with leases := deleteNodes db.leases (groupNodes g) } := by
  unfold releaseInSession
  constructor
  · intro h
    obtain ⟨rows, hrows, h⟩ := of_bind_ok h
    obtain ⟨rfl, hall⟩ := (grantRows_eq_ok hg).mp hrows
    split_ifs at h with hstate
    rw [map_nodeId_of_covered hall] at h
    cases h
    obtain ⟨hstored, hfenced⟩ := covered_iff.mp hall
    refine ⟨covered_iff.mpr ⟨hstored, fun row hmem => ⟨hfenced row hmem, ?_⟩⟩, rfl⟩
    by_contra hne
    exact hstate ⟨row, hmem, hne⟩
  rintro ⟨hall, rfl⟩
  have hfenced := hall.fenced
  have hstate : ¬ ∃ row ∈ leaseRows db.leases (groupNodes g), row.state ≠ .releasing := by
    rintro ⟨row, hmem, hne⟩
    exact hne ((covered_iff.mp hall).2 row hmem).2
  rw [(grantRows_eq_ok hg).mpr ⟨rfl, hfenced⟩]
  change (if _ then _ else _) = _
  rw [if_neg hstate, map_nodeId_of_covered hfenced]

end VonkForge.NodeLeases
