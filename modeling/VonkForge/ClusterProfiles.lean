import Mathlib.Data.List.Induction
import Mathlib.Data.List.Sort
import Mathlib.Data.String.Basic
import VonkForge.Transactions

/-!
# Cluster profiles

The placement planner over a fleet of nodes, and the order of the workloads of a profile.
-/

namespace VonkForge.ClusterProfiles

open Transactions

structure ClusterProfile where
  placements : List (String × List String)
  endpoints : List (String × String) := []
  nodup : (placements.map Prod.fst).Nodup

def ClusterProfile.nodes (p : ClusterProfile) : List (String × List String) :=
  p.placements.insertionSort fun a b => a.1 ≤ b.1

def appendNew (identifiers : List String) (identifier : String) : List String :=
  if identifier ∈ identifiers then identifiers else identifiers ++ [identifier]

def ClusterProfile.workloadOrder (p : ClusterProfile) (reverse : Bool) : List String :=
  -- No two nodes are equal: sorted with `reverse`, they are the reverse of the sorted ones.
  (if reverse then p.nodes else p.nodes.reverse).foldl (fun identifiers node =>
    (if reverse then node.2.reverse else node.2).foldl appendNew identifiers) []

/-- All placements in the order of a start. -/
def ClusterProfile.placed (p : ClusterProfile) : List String :=
  p.nodes.reverse.flatMap Prod.snd

section Order

variable {l : List String} {p : ClusterProfile} {w : String}

lemma workloadOrder_eq (reverse : Bool) :
    p.workloadOrder reverse =
      (if reverse then p.placed.reverse else p.placed).foldl appendNew [] := by
  unfold ClusterProfile.workloadOrder ClusterProfile.placed
  cases reverse
  · exact (List.foldl_flatMap ..).symm
  rw [if_pos rfl, if_pos rfl, List.reverse_flatMap, List.foldl_flatMap, List.reverse_reverse]
  rfl

end Order

inductive WorkloadTopology
  | single | distributed
  deriving DecidableEq

/-- The part of `WorkloadDefinition` that placement looks at, with the last check of
`_require_rank_orders`. -/
structure WorkloadDefinition where
  id : String
  topology : WorkloadTopology
  (placementClass coLocation : String)
  (nodes conflicts : List String)
  single_node : topology = .single → nodes.length = 1

def validPlacementDeclarations : List (WorkloadTopology × String × String) :=
  [(.distributed, "dual-exclusive", "exclusive"),
    (.distributed, "dual-pipeline-experimental", "exclusive"),
    (.single, "single-exclusive", "exclusive"), (.single, "single-shareable", "accepted")]

def WorkloadDefinition.canCoLocate (d : WorkloadDefinition) : Bool :=
  d.topology = .single && d.placementClass = "single-shareable" && d.coLocation = "accepted"

def knownNodes : List String := ["node1", "node2"]

section Admission

variable (p : ClusterProfile) (definitions : String → Option WorkloadDefinition)

def ClusterProfile.placedOn (node : String) : List String := (p.placements.lookup node).getD []

def ClusterProfile.perNode (node : String) : List WorkloadDefinition :=
  (p.placedOn node).filterMap definitions

def ClusterProfile.assigned (identifier : String) : List String :=
  knownNodes.filter fun node => identifier ∈ p.placedOn node

def declarationErrors (identifier : String) (d : WorkloadDefinition) : List String :=
  (if (d.topology, d.placementClass, d.coLocation) ∈ validPlacementDeclarations then []
    else ["inconsistent workload placement declaration: " ++ identifier]) ++
  match d.topology with
  | .distributed =>
    if p.assigned identifier ⊆ d.nodes ∧ d.nodes ⊆ p.assigned identifier then []
    else ["distributed reservation is partial for " ++ identifier]
  | .single =>
    if p.assigned identifier ⊆ d.nodes then []
    else ["single workload placement is invalid for " ++ identifier]

def coLocationErrors (node : String) (ds : List WorkloadDefinition) : List String :=
  let incompatible := (ds.filter (!·.canCoLocate)).map (·.id)
  (if 1 < ds.length ∧ incompatible ≠ [] then
    ["incompatible co-location on " ++ node ++ ": " ++
      ", ".intercalate (incompatible.insertionSort (· ≤ ·))] else []) ++
  (ds.filter fun d => ds.any (·.id ∈ d.conflicts)).map fun d =>
    "conflicting workloads on " ++ node ++ ": " ++ d.id

/-- The errors of `_placement_policy`, before they are sorted. -/
def placementErrors : List String :=
  (if p.placements.map Prod.fst ⊆ knownNodes ∧ knownNodes ⊆ p.placements.map Prod.fst then []
    else ["profile must specify placements for node1 and node2"]) ++
  knownNodes.flatMap (fun node => (p.placedOn node).flatMap fun identifier =>
    match definitions identifier with
    | none => ["unknown workload: " ++ identifier]
    | some d => declarationErrors p identifier d) ++
  knownNodes.flatMap (fun node => coLocationErrors node (p.perNode definitions node)) ++
  p.endpoints.flatMap fun e =>
    if (definitions e.2).isNone then
      ["endpoint " ++ e.1 ++ " references unknown workload: " ++ e.2]
    else if p.assigned e.2 = [] then
      ["endpoint " ++ e.1 ++ " targets unassigned workload: " ++ e.2]
    else []

end Admission

section Admitted

variable {p : ClusterProfile} {definitions : String → Option WorkloadDefinition}

lemma nodes_of_admitted (h : placementErrors p definitions = []) :
    p.nodes = [("node1", p.placedOn "node1"), ("node2", p.placedOn "node2")] := by
  simp only [placementErrors, List.append_eq_nil_iff] at h
  have hkeys : p.placements.map Prod.fst ⊆ knownNodes ∧ knownNodes ⊆ p.placements.map Prod.fst := by
    by_contra hnot
    simp [hnot] at h
  have hperm : (p.placements.map Prod.fst).Perm knownNodes :=
    (List.perm_ext_iff_of_nodup p.nodup (by decide)).mpr fun a =>
      ⟨fun ha => hkeys.1 ha, fun ha => hkeys.2 ha⟩
  have hlength : p.placements.length = 2 := by simpa [knownNodes] using hperm.length_eq
  obtain ⟨⟨k, l⟩, ⟨k', l'⟩, hplacements⟩ := List.length_eq_two.mp hlength
  have hnodup := p.nodup
  have hknown := hkeys.1
  rw [hplacements] at hnodup hknown
  have hk : k = "node1" ∨ k = "node2" := by simpa [knownNodes] using hknown List.mem_cons_self
  have hk' : k' = "node1" ∨ k' = "node2" := by
    simpa [knownNodes] using hknown (.tail _ List.mem_cons_self)
  have hle : "node1" ≤ "node2" := by decide
  have hnot : ¬"node2" ≤ "node1" := by decide
  unfold ClusterProfile.nodes ClusterProfile.placedOn
  rw [hplacements]
  rcases hk with rfl | rfl <;> rcases hk' with rfl | rfl
  · simp at hnodup
  · simp [hle, List.lookup_cons]
  · simp [List.orderedInsert, hnot, List.lookup_cons]
  simp at hnodup

lemma definition_of_admitted (h : placementErrors p definitions = []) {node identifier : String}
    (hnode : node ∈ knownNodes) (hmem : identifier ∈ p.placedOn node) :
    ∃ d, definitions identifier = some d ∧ declarationErrors p identifier d = [] := by
  simp only [placementErrors, List.append_eq_nil_iff, List.flatMap_eq_nil_iff] at h
  have herrors := h.1.1.2 node hnode identifier hmem
  cases hd : definitions identifier with
  | none => simp [hd] at herrors
  | some d => exact ⟨d, rfl, by simpa [hd] using herrors⟩

lemma alone_of_distributed (h : placementErrors p definitions = []) {node identifier : String}
    {d : WorkloadDefinition} (hnode : node ∈ knownNodes) (hmem : identifier ∈ p.placedOn node)
    (hd : definitions identifier = some d) (hdistributed : d.topology = .distributed) :
    p.placedOn node = [identifier] := by
  have hknown : (p.perNode definitions node).length = (p.placedOn node).length := by
    unfold ClusterProfile.perNode
    rw [List.length_filterMap_eq_countP, List.countP_eq_length]
    intro other hother
    obtain ⟨d', hd', -⟩ := definition_of_admitted h hnode hother
    simp [hd']
  have hcolocated : coLocationErrors node (p.perNode definitions node) = [] := by
    simp only [placementErrors, List.append_eq_nil_iff, List.flatMap_eq_nil_iff] at h
    exact h.1.2 node hnode
  have hdmem : d ∈ p.perNode definitions node := List.mem_filterMap.mpr ⟨identifier, hmem, hd⟩
  have hone : ¬1 < (p.perNode definitions node).length := by
    intro hmany
    have hincompatible : ((p.perNode definitions node).filter (!·.canCoLocate)).map (·.id) ≠ [] := by
      have hfilter : d ∈ (p.perNode definitions node).filter (!·.canCoLocate) :=
        List.mem_filter.mpr ⟨hdmem, by simp [WorkloadDefinition.canCoLocate, hdistributed]⟩
      exact List.ne_nil_of_mem (List.mem_map_of_mem hfilter)
    unfold coLocationErrors at hcolocated
    rw [List.append_eq_nil_iff, if_pos ⟨hmany, hincompatible⟩] at hcolocated
    cases hcolocated.1
  rw [hknown] at hone
  obtain ⟨other, hother⟩ := List.length_eq_one_iff.mp
    (le_antisymm (not_lt.mp hone) (List.length_pos_of_mem hmem))
  rw [hother] at hmem ⊢
  rw [List.mem_singleton.mp hmem]

lemma foldl_appendNew_of_nodup {l : List String} (h : l.Nodup) : l.foldl appendNew [] = l := by
  induction l using List.reverseRecOn with
  | nil => rfl
  | append_singleton l a ih =>
    have hnot : a ∉ l := fun ha => (List.nodup_append.mp h).2.2 a ha a (List.mem_singleton_self a) rfl
    rw [List.foldl_append, ih (List.nodup_append.mp h).1, List.foldl_cons, List.foldl_nil, appendNew,
      if_neg hnot]

/-- A workload on both nodes is distributed, and the only one on each. -/
theorem alone_of_both (h : placementErrors p definitions = []) {identifier : String}
    (h1 : identifier ∈ p.placedOn "node1") (h2 : identifier ∈ p.placedOn "node2") :
    p.placedOn "node1" = [identifier] ∧ p.placedOn "node2" = [identifier] := by
  obtain ⟨d, hd, herrors⟩ := definition_of_admitted h (by decide) h1
  have hassigned : p.assigned identifier = knownNodes := by
    simp [ClusterProfile.assigned, knownNodes, h1, h2]
  have hdistributed : d.topology = .distributed := by
    cases htopology : d.topology with
    | distributed => rfl
    | single =>
      -- a single workload has one node
      have hlength := d.single_node htopology
      have hsubset : knownNodes ⊆ d.nodes := by
        by_contra hnot
        simp [declarationErrors, htopology, hassigned, hnot] at herrors
      obtain ⟨node, hnode⟩ := List.length_eq_one_iff.mp hlength
      rw [hnode] at hsubset
      have hfirst : "node1" = node := List.mem_singleton.mp (hsubset List.mem_cons_self)
      have hsecond : "node2" = node :=
        List.mem_singleton.mp (hsubset (.tail _ List.mem_cons_self))
      exact absurd (hfirst.trans hsecond.symm) (by decide)
  exact ⟨alone_of_distributed h (by decide) h1 hd hdistributed,
    alone_of_distributed h (by decide) h2 hd hdistributed⟩

/-- A profile that admission accepts, with no workload twice on a node as its schema asks, stops in
the reverse of its start order. -/
theorem admitted_stops_in_reverse (h : placementErrors p definitions = [])
    (hunique : ∀ node ∈ knownNodes, (p.placedOn node).Nodup) :
    p.workloadOrder true = (p.workloadOrder false).reverse := by
  have hplaced : p.placed = p.placedOn "node2" ++ p.placedOn "node1" := by
    simp [ClusterProfile.placed, nodes_of_admitted h]
  simp only [workloadOrder_eq, if_true, Bool.false_eq_true, if_false, hplaced]
  by_cases hboth : ∃ identifier ∈ p.placedOn "node2", identifier ∈ p.placedOn "node1"
  · obtain ⟨identifier, h2, h1⟩ := hboth
    obtain ⟨hone, htwo⟩ := alone_of_both h h1 h2
    rw [hone, htwo]
    simp [appendNew]
  have hnodup : (p.placedOn "node2" ++ p.placedOn "node1").Nodup := by
    refine List.nodup_append.mpr ⟨hunique _ (by decide), hunique _ (by decide), ?_⟩
    rintro a ha b hb rfl
    exact hboth ⟨a, ha, hb⟩
  rw [foldl_appendNew_of_nodup hnodup, foldl_appendNew_of_nodup (List.nodup_reverse.mpr hnodup)]

end Admitted

structure PlacementRequirement where
  (name definitionHash : String)
  (nodeCount minMemoryBytes minDiskBytes : ℕ)
  requiredLabels : List (String × String)
  (exclusive distributed modelSupportsDistributed : Bool)
  preferredNodeIds : List String
  positive : 0 < nodeCount
  preferred_nodup : preferredNodeIds.Nodup
  distributed_eq : distributed = decide (1 < nodeCount)

inductive NodeLifecycle
  | discovered | installing | ready | quarantined | draining | retired
  deriving DecidableEq

def NodeLifecycle.text : NodeLifecycle → String
  | .discovered => "discovered"
  | .installing => "installing"
  | .ready => "ready"
  | .quarantined => "quarantined"
  | .draining => "draining"
  | .retired => "retired"

structure NodeRecord where
  id : String
  labels : List (String × String)
  lifecycle : NodeLifecycle

structure Fleet where
  nodes : List NodeRecord
  nodup : (nodes.map NodeRecord.id).Nodup

structure Link where
  (id kind : String)
  accepted : Bool
  endpoints : List String

structure Topology where
  nodes : List String
  links : List Link

structure NodeObservation where
  nodeId : String
  (healthy occupied availableForPlacement : Bool)
  (memoryAvailableBytes diskAvailableBytes : ℕ)

structure PlacementPlan where
  (requirement definitionHash : String)
  nodes : List String
  reasons : List (String × List String)
  inputDigest : String
  deriving DecidableEq

def validateLinks (nodes : List String) (seen : List String) : List Link → Except String Unit
  | [] => .ok ()
  | link :: links => do
    require (link.id ∉ seen) ("duplicate link id: " ++ link.id)
    link.endpoints.forM fun n =>
      require (n ∈ nodes) ("link " ++ link.id ++ " references unknown node " ++ n)
    validateLinks nodes (link.id :: seen) links

def validateTopologyReferences (topology : Topology) : Except String Unit :=
  validateLinks topology.nodes [] topology.links

def Link.acceptedRdma (link : Link) : Bool :=
  link.accepted && link.kind ∈ ["direct-rdma", "switched-rdma"]

/-- `_accepted_group`. -/
def acceptedGroup (nodes : List String) (topology : Topology) : Bool :=
  topology.links.any fun link => link.acceptedRdma && nodes ⊆ link.endpoints

section Plan

variable (validNodeId : String → Bool) (r : PlacementRequirement) (fleet : Fleet)
  (topology : Topology) (observations : List NodeObservation)

/-- The checks of `plan` before it looks at a node. -/
def checkInputs : Except String Unit := do
  require (r.distributed = true → r.modelSupportsDistributed = true)
    "model definition does not support distributed placement"
  validateTopologyReferences topology
  let ids := fleet.nodes.map NodeRecord.id
  require (topology.nodes ⊆ ids ∧ ids ⊆ topology.nodes) "topology nodes must exactly match the fleet"
  let observed := observations.map NodeObservation.nodeId
  require observed.Nodup "duplicate node observation"
  require (observed ⊆ ids ∧ ids ⊆ observed) "observations must exactly cover the fleet"
  r.preferredNodeIds.forM fun text => do
    require (validNodeId text) "preferred node ID is invalid"
    require (text ∈ ids) "preferred node is not in the fleet"

def rejected (record : NodeRecord) (o : NodeObservation) : List String :=
  (if record.lifecycle ≠ .ready then ["lifecycle:" ++ record.lifecycle.text] else []) ++
  (if o.availableForPlacement then [] else ["unavailable"]) ++
  (if o.healthy then [] else ["unhealthy"]) ++
  (if o.memoryAvailableBytes < r.minMemoryBytes then ["memory"] else []) ++
  (if o.diskAvailableBytes < r.minDiskBytes then ["disk"] else []) ++
  (if r.exclusive && o.occupied then ["occupied"] else []) ++
  (if r.requiredLabels.any fun l => record.labels.lookup l.1 ≠ some l.2 then ["labels"] else [])

/-- The rejections of a node, whose observation the checks have found. -/
def rejections (record : NodeRecord) : Option (List String) :=
  (observations.find? (·.nodeId = record.id)).map (rejected r record)

/-- The eligible nodes, those with a preference first and in its order. -/
def ranked : List String :=
  let rank := fun n => r.preferredNodeIds.idxOf n
  ((fleet.nodes.filter (rejections r observations · = some [])).map NodeRecord.id).insertionSort
    fun a b => rank a < rank b ∨ rank a = rank b ∧ a ≤ b

def selected : List String := (ranked r fleet observations).take r.nodeCount

def reasons : List (String × List String) :=
  (fleet.nodes.map fun record => (record.id,
    if record.id ∈ selected r fleet observations then ["selected"]
    else match rejections r observations record with
      | some (x :: xs) => x :: xs
      | _ => ["eligible"])).insertionSort fun a b => a.1 ≤ b.1

def plan (digest : PlacementRequirement → Fleet → Topology → List NodeObservation → String) :
    Except String PlacementPlan := do
  checkInputs validNodeId r fleet topology observations
  require (r.nodeCount ≤ (ranked r fleet observations).length)
    "insufficient eligible nodes for requirement"
  let nodes := selected r fleet observations
  require (r.distributed = true → acceptedGroup nodes topology = true)
    "distributed placement requires accepted topology"
  .ok ⟨r.name, r.definitionHash, nodes, reasons r fleet observations,
    digest r fleet topology observations⟩

/-- No check rejects the node. -/
def Eligible (n : String) : Prop :=
  ∃ record ∈ fleet.nodes, record.id = n ∧ rejections r observations record = some []

instance (n : String) : Decidable (Eligible r fleet observations n) :=
  inferInstanceAs (Decidable (∃ record ∈ fleet.nodes, _ ∧ _))

def Suitable (nodes : List String) : Prop :=
  nodes.Nodup ∧ nodes.length = r.nodeCount ∧ ∀ n ∈ nodes, Eligible r fleet observations n

/-- The order of the preferences, in which the others come last, and then of the identifiers. -/
def Before (a b : String) : Prop :=
  r.preferredNodeIds.idxOf a < r.preferredNodeIds.idxOf b ∨
    r.preferredNodeIds.idxOf a = r.preferredNodeIds.idxOf b ∧ a < b

instance : DecidableRel (Before r) := fun _ _ => inferInstanceAs (Decidable (_ ∨ _))

/-- The number of eligible nodes before a node. -/
def earlier (n : String) : ℕ :=
  fleet.nodes.countP fun record => decide (Before r record.id n) &&
    decide (rejections r observations record = some [])

end Plan

section Placement

variable {validNodeId : String → Bool} {r : PlacementRequirement} {fleet : Fleet}
  {topology : Topology} {observations : List NodeObservation}

lemma mem_ranked {n : String} :
    n ∈ ranked r fleet observations ↔ Eligible r fleet observations n := by
  simp only [Eligible, ranked, List.mem_insertionSort, List.mem_map, List.mem_filter, decide_eq_true_eq]
  grind

lemma nodup_ranked : (ranked r fleet observations).Nodup :=
  (List.perm_insertionSort _ _).nodup_iff.mpr (fleet.nodup.sublist (List.filter_sublist.map _))

lemma Suitable.length_le {nodes : List String} (h : Suitable r fleet observations nodes) :
    r.nodeCount ≤ (ranked r fleet observations).length := by
  obtain ⟨hnodup, hlength, hall⟩ := h
  rw [← hlength]
  exact (List.subperm_of_subset hnodup fun n hn => mem_ranked.mpr (hall n hn)).length_le

lemma suitable_selected (h : r.nodeCount ≤ (ranked r fleet observations).length) :
    Suitable r fleet observations (selected r fleet observations) :=
  ⟨nodup_ranked.sublist (List.take_sublist _ _), List.length_take_of_le h,
    fun _ hn => mem_ranked.mp (List.mem_of_mem_take hn)⟩

/-- The number of elements before one in a strictly ordered list is its place. -/
theorem countP_eq_idxOf {α : Type*} [DecidableEq α] {R : α → α → Prop} [DecidableRel R]
    (hirrefl : ∀ a, ¬R a a) (hasymm : ∀ a b, R a b → ¬R b a) {l : List α} (h : l.Pairwise R)
    {n : α} (hn : n ∈ l) : l.countP (R · n) = l.idxOf n := by
  induction l with
  | nil => cases hn
  | cons a l ih =>
    obtain ⟨hfirst, hrest⟩ := List.pairwise_cons.mp h
    by_cases ha : a = n
    · subst ha
      have hnone : l.countP (R · a) = 0 :=
        List.countP_eq_zero.mpr fun b hb => by simpa using hasymm a b (hfirst b hb)
      rw [List.countP_cons_of_neg (by simpa using hirrefl a), hnone, List.idxOf_cons_self]
    have hmem : n ∈ l := (List.mem_cons.mp hn).resolve_left (Ne.symm ha)
    rw [List.countP_cons_of_pos (by simpa using hfirst n hmem), ih hrest hmem,
      List.idxOf_cons_ne _ ha]

lemma mem_take_iff {α : Type*} [DecidableEq α] {l : List α} {n : α} {k : ℕ} :
    n ∈ l.take k ↔ n ∈ l ∧ l.idxOf n < k := by
  constructor
  · intro h
    refine ⟨List.mem_of_mem_take h, ?_⟩
    have hlt := List.idxOf_lt_length_of_mem h
    rw [← List.take_append_drop k l, List.idxOf_append_of_mem h]
    exact hlt.trans_le (List.length_take_le k l)
  rintro ⟨hmem, hlt⟩
  have hlength := List.idxOf_lt_length_of_mem hmem
  exact List.mem_take_iff_getElem.mpr ⟨l.idxOf n, lt_min hlt hlength, List.getElem_idxOf hlength⟩

lemma before_irrefl (a : String) : ¬Before r a a := by
  simp [Before]

lemma before_asymm (a b : String) (h : Before r a b) : ¬Before r b a := by
  rcases h with h | ⟨h, hlt⟩ <;> rintro (h' | ⟨h', hlt'⟩)
  · omega
  · omega
  · omega
  exact lt_asymm hlt hlt'

/-- The ranking is in the order of the preferences, and of the identifiers among equals. -/
theorem pairwise_ranked : (ranked r fleet observations).Pairwise (Before r) := by
  have htotal : Std.Total fun a b : String =>
      r.preferredNodeIds.idxOf a < r.preferredNodeIds.idxOf b ∨
        r.preferredNodeIds.idxOf a = r.preferredNodeIds.idxOf b ∧ a ≤ b := by
    refine ⟨fun a b => ?_⟩
    rcases lt_trichotomy (r.preferredNodeIds.idxOf a) (r.preferredNodeIds.idxOf b) with h | h | h
    · exact .inl (.inl h)
    · exact (le_total a b).imp (fun hle => .inr ⟨h, hle⟩) fun hle => .inr ⟨h.symm, hle⟩
    exact .inr (.inl h)
  have htrans : IsTrans String fun a b : String =>
      r.preferredNodeIds.idxOf a < r.preferredNodeIds.idxOf b ∨
        r.preferredNodeIds.idxOf a = r.preferredNodeIds.idxOf b ∧ a ≤ b := by
    refine ⟨fun a b c hab hbc => ?_⟩
    rcases hab with h | ⟨h, hle⟩ <;> rcases hbc with h' | ⟨h', hle'⟩
    · exact .inl (h.trans h')
    · exact .inl (h.trans_eq h')
    · exact .inl (h.trans_lt h')
    exact .inr ⟨h.trans h', hle.trans hle'⟩
  have hsorted : (ranked r fleet observations).Pairwise fun a b : String =>
      r.preferredNodeIds.idxOf a < r.preferredNodeIds.idxOf b ∨
        r.preferredNodeIds.idxOf a = r.preferredNodeIds.idxOf b ∧ a ≤ b :=
    List.pairwise_insertionSort _ _
  refine (hsorted.and nodup_ranked).imp fun {a b} h => ?_
  obtain ⟨hlt | ⟨heq, hle⟩, hne⟩ := h
  · exact .inl hlt
  exact .inr ⟨heq, lt_of_le_of_ne hle hne⟩

lemma countP_ranked (n : String) :
    (ranked r fleet observations).countP (Before r · n) = earlier r fleet observations n := by
  rw [ranked, (List.perm_insertionSort _ _).countP_eq, List.countP_map, List.countP_filter]
  rfl

/-- A node is selected when it is eligible, and fewer eligible ones are before it than are
required. -/
theorem mem_selected {n : String} :
    n ∈ selected r fleet observations ↔
      Eligible r fleet observations n ∧ earlier r fleet observations n < r.nodeCount := by
  rw [selected, mem_take_iff, mem_ranked]
  refine and_congr_right fun hn => ?_
  rw [← countP_eq_idxOf before_irrefl before_asymm pairwise_ranked (mem_ranked.mpr hn),
    countP_ranked]

lemma acceptedGroup_selected :
    acceptedGroup (selected r fleet observations) topology = true ↔
      ∃ link ∈ topology.links, link.acceptedRdma = true ∧ ∀ n, Eligible r fleet observations n →
        earlier r fleet observations n < r.nodeCount → n ∈ link.endpoints := by
  simp only [acceptedGroup, List.any_eq_true, Bool.and_eq_true, decide_eq_true_eq]
  refine exists_congr fun link => and_congr_right fun _ => and_congr_right fun _ => ?_
  constructor
  · intro h n hn hlt
    exact h (mem_selected.mpr ⟨hn, hlt⟩)
  intro h n hn
  obtain ⟨hn, hlt⟩ := mem_selected.mp hn
  exact h n hn hlt

/-- Placement finds a group within an accepted link exactly when one accepted link holds all
eligible nodes with fewer than the required number before them, in the order of the preferences and
the identifiers. -/
theorem plan_complete_iff (digest)
    (hchecks : checkInputs validNodeId r fleet topology observations = .ok ()) :
    ((∀ group, Suitable r fleet observations group → acceptedGroup group topology = true →
        ∃ p, plan validNodeId r fleet topology observations digest = .ok p) ∧
      ∀ p, plan validNodeId r fleet topology observations digest = .ok p →
        Suitable r fleet observations p.nodes ∧
          (r.distributed = true → acceptedGroup p.nodes topology = true)) ↔
      ((∃ group, Suitable r fleet observations group ∧ acceptedGroup group topology = true) →
        r.distributed = true → ∃ link ∈ topology.links, link.acceptedRdma = true ∧
          ∀ n, Eligible r fleet observations n → earlier r fleet observations n < r.nodeCount →
            n ∈ link.endpoints) := by
  have hplan : ∀ p, plan validNodeId r fleet topology observations digest = .ok p ↔
      r.nodeCount ≤ (ranked r fleet observations).length ∧
      (r.distributed = true → acceptedGroup (selected r fleet observations) topology = true) ∧
      p = ⟨r.name, r.definitionHash, selected r fleet observations, reasons r fleet observations,
        digest r fleet topology observations⟩ := by
    intro p
    rw [plan, hchecks, ok_bind, require_bind_ok, require_bind_ok, Except.ok.injEq, eq_comm (b := p)]
  simp only [hplan, ← acceptedGroup_selected]
  constructor
  · rintro ⟨h, -⟩ ⟨group, hgroup, haccepted⟩
    obtain ⟨p, -, hlinked, -⟩ := h group hgroup haccepted
    exact hlinked
  intro h
  refine ⟨fun group hgroup haccepted =>
    ⟨_, hgroup.length_le, h ⟨group, hgroup, haccepted⟩, rfl⟩, ?_⟩
  rintro p ⟨hcount, hlinked, rfl⟩
  exact ⟨suitable_selected hcount, hlinked⟩

end Placement

/-- Three idle nodes, of which the last two are linked. -/
def idleFleet : Fleet := ⟨["a", "b", "c"].map fun id => ⟨id, [], .ready⟩, by decide⟩

def idleTopology : Topology := ⟨["a", "b", "c"], [⟨"link", "direct-rdma", true, ["b", "c"]⟩]⟩

def idleObservations : List NodeObservation :=
  ["a", "b", "c"].map fun id => ⟨id, true, false, true, 0, 0⟩

def pair (preferred : List String) (nodup : preferred.Nodup := by decide) : PlacementRequirement :=
  ⟨"model", "hash", 2, 0, 0, [], false, true, true, preferred, by decide, nodup, by decide⟩

theorem preferred_pair_placed :
    checkInputs (fun _ => true) (pair ["b", "c"]) idleFleet idleTopology idleObservations = .ok () ∧
      ∃ p, plan (fun _ => true) (pair ["b", "c"]) idleFleet idleTopology idleObservations
        (fun _ _ _ _ => "") = .ok p := by
  refine ⟨by decide +kernel, ((plan_complete_iff (fun _ _ _ _ => "") (by decide +kernel)).mpr
    (fun _ _ => ⟨_, List.mem_singleton.mpr rfl, by decide +kernel, fun n hn => ?_⟩)).1 ["b", "c"] ?_
    (by decide +kernel)⟩
  · obtain ⟨record, hrecord, rfl, -⟩ := hn
    revert record
    decide +kernel
  exact ⟨by decide, rfl, by decide +kernel⟩

theorem linked_pair_not_placed :
    Suitable (pair []) idleFleet idleObservations ["b", "c"] ∧
      acceptedGroup ["b", "c"] idleTopology = true ∧
      plan (fun _ => true) (pair []) idleFleet idleTopology idleObservations (fun _ _ _ _ => "") =
        .error "distributed placement requires accepted topology" :=
  ⟨⟨by decide, rfl, by decide +kernel⟩, by decide +kernel, by decide +kernel⟩

end VonkForge.ClusterProfiles
