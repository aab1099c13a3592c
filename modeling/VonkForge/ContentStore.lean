import Mathlib.Algebra.Order.BigOperators.Group.List
import Mathlib.Algebra.Order.Ring.Nat
import VonkForge.KeyedTable
import VonkForge.Transactions

/-!
# The content store of an agent

The journal of `ContentStore` with its files.  A kill may stop an operation between the change of a
file and the transaction that journals it.  The checks of `begin_operation` and `assert_binding` are
left out: they only refuse calls.
-/

namespace VonkForge.ContentStore

open Table Transactions

structure Owner where
  (operationId attempt fence : ℕ)
  deriving DecidableEq

structure Descriptor where
  digest : ℕ
  name : String
  size : ℕ
  kind : String
  deriving DecidableEq

/-- A file among the partial ones; device, inode and ctime are its `stamp`. -/
structure PartialFile where
  (size stamp : ℕ)
  /-- `promote_component` has taken the permission to write. -/
  readOnly : Bool := false

def PartialFile.write (f : PartialFile) (offset bytes stamp : ℕ) : PartialFile :=
  { f with size := if offset = 0 then bytes else max f.size (offset + bytes), stamp }

/-- The journal of a component and the files that it names; `partials` has the same owner. -/
structure Progress where
  /-- Of a partial component; nobody owns a complete one. -/
  owner : Option Owner
  /-- `bytes_written` and the stamp that is journaled with it. -/
  (written stamp : ℕ)
  file : Option PartialFile
  /-- There is an object under the digest. -/
  object : Bool

def Progress.new (o : Owner) (stamp : ℕ) : Progress := ⟨some o, 0, stamp, some ⟨0, stamp, false⟩, false⟩

def Progress.complete (size : ℕ) : Progress := ⟨none, size, 0, none, true⟩

structure Component extends Descriptor, Progress

def Component.bytes (c : Component) : ℕ :=
  (c.file.map (·.size)).getD 0 + if c.object then c.size else 0

instance : Keyed Component ℕ := ⟨fun c => c.digest⟩

structure Reservation where
  owner : Owner
  bytes : ℕ
  deriving DecidableEq

instance : Keyed Reservation ℕ := ⟨fun r => r.owner.operationId⟩

structure Store where
  capacity : ℕ
  /-- `_available_bytes` of the file system. -/
  available : ℕ
  components : Table Component := .empty
  reservations : Table Reservation := .empty

variable (s : Store) (o : Owner) (r : Reservation) (d : Descriptor) (digest bytes stamp : ℕ)

def committed : ℕ := ((s.components.select fun c => c.owner = none).map (·.size)).sum

def reserved : ℕ := (s.reservations.rows.map (·.bytes)).sum

def requireCapacity : Except String Unit := do
  require (committed s + reserved s + bytes ≤ s.capacity) "package store capacity is insufficient"
  require (bytes ≤ s.available) "package store filesystem is full"

def addReservation : Store × Reservation :=
  ({ s with reservations := s.reservations.insertIgnore ⟨o, bytes⟩ }, ⟨o, bytes⟩)

def addComponent : Store :=
  { s with components := s.components.insertIgnore ⟨d, .new o stamp⟩ }

def setComponent (p : Progress) : Store :=
  { s with components := s.components.updateWhere (fun c => c.digest = digest) fun c =>
      ⟨c.toDescriptor, p⟩ }

/-- A later attempt of an operation drops the reservation of the earlier one. -/
def beginOperation : Store :=
  { s with reservations := s.reservations.deleteWhere fun r =>
      r.owner.operationId = o.operationId ∧ r.owner.attempt < o.attempt }

def reserve : Except String (Store × Reservation) :=
  match s.reservations.get? o.operationId with
  | some r => do
    require (r = ⟨o, bytes⟩) "capacity reservation disagrees with operation fence"
    .ok (s, r)
  | none => do
    requireCapacity s bytes
    .ok (addReservation s o bytes)

def reserveComponent : Except String (Store × Reservation) :=
  match s.reservations.get? o.operationId with
  | some r => do
    require (r.owner = o) "capacity reservation disagrees with operation fence"
    .ok (s, r)
  | none =>
    match s.components.get? d.digest with
    | some c => do
      require (c.toDescriptor = d) "component digest metadata is inconsistent"
      if c.owner.all fun x => (s.reservations.get? x.operationId).isSome then
        .ok (addReservation s o 0)
      else do
        requireCapacity s d.size
        .ok (addReservation (setComponent s d.digest { c.toProgress with owner := some o }) o d.size)
    | none => do
      requireCapacity s d.size
      .ok (addReservation (addComponent s o d stamp) o d.size)

/-- `_open_partial`. -/
def openPartial (c : Component) : Except String PartialFile := do
  let f ← fetch c.file "component partial is missing or unsafe"
  require (f.readOnly = false) "component partial is unsafe"
  require (f.stamp = c.stamp) "component partial inode changed"
  .ok f

inductive DownloadState
  | complete
  | partly
  | shared

def beginComponent : Except String (Store × DownloadState) := do
  require (s.reservations.get? r.owner.operationId = some r)
    "package reservation ownership is invalid"
  match s.components.get? d.digest with
  | none => do
    require (d.size ≤ r.bytes) "component exceeds its capacity reservation"
    .ok (addComponent s r.owner d stamp, .partly)
  | some c => do
    require (c.size = d.size ∧ c.kind = d.kind) "component digest metadata is inconsistent"
    match c.owner with
      | none => .ok (s, .complete)
      | some x =>
        if x = r.owner then .ok (s, .partly)
        else if x.operationId = r.owner.operationId ∧ x.attempt < r.owner.attempt then do
          let _ ← openPartial c
          .ok (setComponent s d.digest { c.toProgress with owner := some r.owner }, .partly)
        else .ok (s, .shared)

/-- The component that the owner may write, with its file. -/
def partialRow : Except String (Component × PartialFile) := do
  let c ← fetch ((s.components.get? digest).filter (·.owner = some o))
    "component partial ownership is invalid"
  let f ← openPartial c
  .ok (c, f)

/-- `append_partial`; a kill before its commit leaves what was written of the file. -/
def appendPartial (killed : Bool) : Except String Store := do
  let (c, f) ← partialRow s o digest
  require (c.written + bytes ≤ c.size) "component partial offset is invalid"
  let p := { c.toProgress with file := some (f.write c.written bytes stamp) }
  .ok (setComponent s digest (if killed then p else { p with written := c.written + bytes, stamp }))

/-- The old file goes to the quarantine; a kill before the commit leaves none under its name. -/
def resetPartial (killed : Bool) : Except String Store := do
  let (c, _) ← partialRow s o digest
  .ok (setComponent s digest (if killed then { c.toProgress with file := none } else .new o stamp))

/-- Where a kill stops `promote_component`. -/
inductive PromotionKill
  | afterChmod
  | afterRename

def promoteComponent (killed : Option PromotionKill) : Except String Store := do
  let (c, f) ← partialRow s o digest
  require (f.size = c.size) "component partial size is invalid"
  .ok (setComponent s digest (match killed with
    | none => .complete c.size
    | some .afterChmod => { c.toProgress with file := some { f with stamp, readOnly := true } }
    | some .afterRename => { c.toProgress with file := none, object := true }))

def releaseReservation : Except String Store :=
  match s.reservations.get? r.owner.operationId with
  | none => .ok s
  | some x => do
    require (x = r) "capacity reservation disagrees with operation fence"
    .ok { s with reservations := s.reservations.deleteWhere fun x =>
        x.owner.operationId = r.owner.operationId }

def deleteUnreachable : Store :=
  { s with components := s.components.deleteWhere fun c => c.digest = digest ∧ c.owner = none }

/-- One partial component in `_recover`. -/
def checkPartial (c : Component) : Except String Unit :=
  if c.owner = none ∨ c.object = true then .ok () else do
    let f ← fetch c.file "journaled component bytes are missing"
    require (f.readOnly = false) "component partial is unsafe"
    require (f.stamp = c.stamp) "journaled component partial inode changed"

/-- A promotion that was killed after its rename is completed. -/
def recovered : Store :=
  { s with components := s.components.updateWhere (fun c => c.owner.isSome && c.object) fun c =>
      ⟨c.toDescriptor, .complete c.size⟩ }

/-- `_recover`, which opens the store. -/
def recover : Except String Store := do
  s.components.rows.forM checkPartial
  .ok (recovered s)

inductive Call
  | space (available : ℕ)
  | beginOperation (o : Owner)
  | reserve (o : Owner) (bytes : ℕ)
  | reserveComponent (o : Owner) (d : Descriptor) (stamp : ℕ)
  | beginComponent (r : Reservation) (d : Descriptor) (stamp : ℕ)
  | appendPartial (o : Owner) (digest bytes stamp : ℕ) (killed : Bool)
  | resetPartial (o : Owner) (digest stamp : ℕ) (killed : Bool)
  | promoteComponent (o : Owner) (digest stamp : ℕ) (killed : Option PromotionKill)
  | releaseReservation (r : Reservation)
  | deleteUnreachable (digest : ℕ)
  | restart

def perform : Call → Except String Store
  | .space available => .ok { s with available }
  | .beginOperation o => .ok (beginOperation s o)
  | .reserve o bytes => do return (← reserve s o bytes).1
  | .reserveComponent o d stamp => do return (← reserveComponent s o d stamp).1
  | .beginComponent r d stamp => do return (← beginComponent s r d stamp).1
  | .appendPartial o digest bytes stamp killed => appendPartial s o digest bytes stamp killed
  | .resetPartial o digest stamp killed => resetPartial s o digest stamp killed
  | .promoteComponent o digest stamp killed => promoteComponent s o digest stamp killed
  | .releaseReservation r => releaseReservation s r
  | .deleteUnreachable digest => .ok (deleteUnreachable s digest)
  | .restart => recover s

def step (c : Call) : Except String (Store × Unit) := do return (← perform s c, ())

/-- The bytes of the files. -/
def stored : ℕ := (s.components.rows.map (·.bytes)).sum

def sizes : ℕ := (s.components.rows.map (·.size)).sum

/-- A component is created while the other ones are complete or reserved; by `begin_component` while
also its own size is, and the complete ones and the reservations fit. -/
def accounted : Call → Bool
  | .reserveComponent _ d _ => (s.components.get? d.digest).isSome ||
    decide (sizes s ≤ committed s + reserved s)
  | .beginComponent _ d _ => (s.components.get? d.digest).isSome ||
    decide (sizes s + d.size ≤ committed s + reserved s ∧ committed s + reserved s ≤ s.capacity)
  | _ => true

/-- The files of a component have at most its size together. -/
def Component.Within (c : Component) : Prop :=
  ∀ f ∈ c.file, f.size ≤ c.size ∧ c.object = false

structure Kept (n : ℕ) : Prop where
  capacity : s.capacity = n
  fits : sizes s ≤ n
  within : ∀ c ∈ s.components.rows, c.Within

variable {s o r d digest bytes stamp} {n : ℕ} {t : Store} {x : Store × Reservation}

lemma Component.Within.bytes_le {c : Component} (h : c.Within) : c.bytes ≤ c.size := by
  unfold Component.bytes
  cases hf : c.file with
  | none => split <;> simp
  | some f =>
    obtain ⟨hsize, hobject⟩ := h f hf
    simpa [hobject] using hsize

lemma Kept.stored_le (h : Kept s n) : stored s ≤ n :=
  (List.sum_le_sum fun c hc => (h.within c hc).bytes_le).trans h.fits

lemma openPartial_ok {c : Component} {f : PartialFile} :
    openPartial c = .ok f ↔ c.file = some f ∧ f.readOnly = false ∧ f.stamp = c.stamp := by
  unfold openPartial
  simp only [fetch_bind_ok, require_bind_ok, Except.ok.injEq]
  constructor
  · rintro ⟨_, hf, hmode, hstamp, rfl⟩
    exact ⟨hf, hmode, hstamp⟩
  rintro ⟨hf, hmode, hstamp⟩
  exact ⟨f, hf, hmode, hstamp, rfl⟩

lemma partialRow_ok {c : Component} {f : PartialFile} (h : partialRow s o digest = .ok (c, f)) :
    s.components.get? digest = some c ∧ c.file = some f := by
  obtain ⟨c', hc, h⟩ := fetch_bind_ok.mp h
  obtain ⟨f', hf, h⟩ := of_bind_ok h
  cases h
  exact ⟨(Option.filter_eq_some_iff.mp hc).1, (openPartial_ok.mp hf).1⟩

section Kept

variable (h : Kept s n)

include h

lemma Kept.setComponent {p : Progress} {c : Component} (hc : s.components.get? digest = some c)
    (hp : Component.Within ⟨c.toDescriptor, p⟩) : Kept (setComponent s digest p) n := by
  refine ⟨h.capacity, ?_, ?_⟩
  · refine le_of_eq_of_le (congrArg List.sum ?_) h.fits
    simp only [ContentStore.setComponent, updateWhere, List.map_map]
    refine List.map_congr_left fun x _ => ?_
    by_cases hx : x.digest = digest <;> simp [hx]
  intro x hx
  simp only [ContentStore.setComponent, mem_updateWhere, decide_eq_true_eq] at hx
  rcases hx with ⟨y, hy, rfl, rfl⟩ | ⟨hx, _⟩
  · cases (get?_of_mem hy).symm.trans hc
    exact hp
  exact h.within x hx

lemma Kept.addComponent (hc : s.components.get? d.digest = none) (hfits : sizes s + d.size ≤ n) :
    Kept (addComponent s o d stamp) n := by
  have hrows := rows_insertIgnore (r := (⟨d, .new o stamp⟩ : Component)) hc
  refine ⟨h.capacity, ?_, ?_⟩
  · simpa [sizes, ContentStore.addComponent, hrows] using hfits
  intro c hm
  rw [ContentStore.addComponent, hrows, List.mem_append, List.mem_singleton] at hm
  rcases hm with hm | rfl
  · exact h.within c hm
  rintro f ⟨⟩
  exact ⟨Nat.zero_le _, rfl⟩

lemma Kept.reserveComponent (ha : accounted s (.reserveComponent o d stamp) = true)
    (hr : reserveComponent s o d stamp = .ok x) : Kept x.1 n := by
  unfold ContentStore.reserveComponent at hr
  split at hr
  · cases (require_bind_ok.mp hr).2
    exact h
  split at hr
  · next c hc =>
    obtain ⟨_, hr⟩ := require_bind_ok.mp hr
    split_ifs at hr
    · cases hr
      exact ⟨h.capacity, h.fits, h.within⟩
    obtain ⟨_, _, hr⟩ := of_bind_ok hr
    cases hr
    have hk : Kept (ContentStore.setComponent s _ { c.toProgress with owner := some o }) n :=
      h.setComponent hc (h.within c (mem_of_get? hc))
    exact ⟨hk.capacity, hk.fits, hk.within⟩
  next hc =>
  obtain ⟨_, hfits, hr⟩ := of_bind_ok hr
  cases hr
  have hsizes : sizes s ≤ committed s + reserved s := by simpa [accounted, hc] using ha
  have hroom := (require_bind_ok.mp hfits).1
  rw [h.capacity] at hroom
  have hk : Kept (ContentStore.addComponent s o d stamp) n := h.addComponent hc (by omega)
  exact ⟨hk.capacity, hk.fits, hk.within⟩

lemma Kept.beginComponent {y : Store × DownloadState}
    (ha : accounted s (.beginComponent r d stamp) = true)
    (hb : beginComponent s r d stamp = .ok y) : Kept y.1 n := by
  obtain ⟨_, hb⟩ := require_bind_ok.mp hb
  cases hc : s.components.get? d.digest with
  | none =>
    simp only [hc] at hb
    cases (require_bind_ok.mp hb).2
    have hroom : sizes s + d.size ≤ committed s + reserved s ∧
        committed s + reserved s ≤ s.capacity := by simpa [accounted, hc] using ha
    rw [h.capacity] at hroom
    exact h.addComponent hc (hroom.1.trans hroom.2)
  | some c =>
    simp only [hc] at hb
    obtain ⟨_, hb⟩ := require_bind_ok.mp hb
    split at hb
    · cases hb
      exact h
    split_ifs at hb
    · cases hb
      exact h
    · obtain ⟨_, -, hb⟩ := of_bind_ok hb
      cases hb
      exact h.setComponent hc (h.within c (mem_of_get? hc))
    cases hb
    exact h

lemma Kept.file {c : Component} {f : PartialFile} (hrow : partialRow s o digest = .ok (c, f)) :
    s.components.get? digest = some c ∧ f.size ≤ c.size ∧ c.object = false := by
  obtain ⟨hc, hf⟩ := partialRow_ok hrow
  exact ⟨hc, h.within c (mem_of_get? hc) f hf⟩

lemma Kept.perform {c : Call} (ha : accounted s c = true) (hp : perform s c = .ok t) :
    Kept t n := by
  cases c with
  | space | beginOperation =>
    cases hp
    exact ⟨h.capacity, h.fits, h.within⟩
  | reserve =>
    obtain ⟨x, hx, hp⟩ := of_bind_ok hp
    cases hp
    unfold ContentStore.reserve at hx
    split at hx
    · cases (require_bind_ok.mp hx).2
      exact h
    obtain ⟨_, _, hx⟩ := of_bind_ok hx
    cases hx
    exact ⟨h.capacity, h.fits, h.within⟩
  | reserveComponent =>
    obtain ⟨x, hx, hp⟩ := of_bind_ok hp
    cases hp
    exact h.reserveComponent ha hx
  | beginComponent =>
    obtain ⟨y, hy, hp⟩ := of_bind_ok hp
    cases hp
    exact h.beginComponent ha hy
  | appendPartial o digest bytes stamp killed =>
    obtain ⟨⟨c, f⟩, hrow, hp⟩ := of_bind_ok hp
    obtain ⟨hc, hsize, hobject⟩ := h.file hrow
    obtain ⟨hw, hp⟩ := require_bind_ok.mp hp
    cases hp
    refine h.setComponent hc ?_
    have hwrite : (f.write c.written bytes stamp).size ≤ c.size := by
      unfold PartialFile.write
      dsimp only
      split <;> omega
    cases killed
    all_goals
      rintro _ ⟨⟩
      exact ⟨hwrite, hobject⟩
  | resetPartial o digest stamp killed =>
    obtain ⟨⟨c, f⟩, hrow, hp⟩ := of_bind_ok hp
    obtain ⟨hc, hsize, hobject⟩ := h.file hrow
    cases hp
    refine h.setComponent hc ?_
    cases killed
    all_goals rintro _ ⟨⟩
    exact ⟨Nat.zero_le _, rfl⟩
  | promoteComponent o digest stamp killed =>
    obtain ⟨⟨c, f⟩, hrow, hp⟩ := of_bind_ok hp
    obtain ⟨hc, hsize, hobject⟩ := h.file hrow
    cases (require_bind_ok.mp hp).2
    refine h.setComponent hc ?_
    rcases killed with _ | _ | _
    all_goals rintro _ ⟨⟩
    exact ⟨hsize, hobject⟩
  | releaseReservation =>
    simp only [ContentStore.perform, ContentStore.releaseReservation] at hp
    split at hp
    · cases hp
      exact h
    cases (require_bind_ok.mp hp).2
    exact ⟨h.capacity, h.fits, h.within⟩
  | deleteUnreachable =>
    cases hp
    refine ⟨h.capacity, ?_, fun c hc => h.within c (mem_deleteWhere.mp hc).1⟩
    exact ((List.filter_sublist.map _).sum_le_sum fun _ _ => Nat.zero_le _).trans h.fits
  | restart =>
    obtain ⟨_, -, hp⟩ := of_bind_ok hp
    cases hp
    refine ⟨h.capacity, ?_, fun c hc => ?_⟩
    · refine le_of_eq_of_le (congrArg List.sum ?_) h.fits
      simp only [recovered, updateWhere, List.map_map]
      refine List.map_congr_left fun x _ => ?_
      simp only [Function.comp_apply]
      split <;> rfl
    simp only [recovered, mem_updateWhere] at hc
    rcases hc with ⟨c', -, -, rfl⟩ | ⟨hc, -⟩
    · rintro _ ⟨⟩
    exact h.within c hc

end Kept

/-- While components are accounted for, no interleaving stores more than the capacity, wherever
operations are killed. -/
theorem stored_le_capacity (capacity available : ℕ) (cs : List Call)
    (h : Along step (fun s c => accounted s c = true) ⟨capacity, available, .empty, .empty⟩ cs) :
    stored (run step ⟨capacity, available, .empty, .empty⟩ cs) ≤ capacity := by
  have hstart : Kept ⟨capacity, available, .empty, .empty⟩ capacity :=
    ⟨rfl, Nat.zero_le _, fun _ hc => by cases hc⟩
  have hstep : ∀ s c t u, Kept s capacity → accounted s c = true → step s c = .ok (t, u) →
      Kept t capacity := by
    intro s c t u hk ha hs
    obtain ⟨v, hv, hs⟩ := of_bind_ok hs
    cases hs
    exact hk.perform ha hv
  exact (run_preserves_of_along hstep hstart h).stored_le

/-- A component is promoted and released beside the download of another one, which is killed within
a write. -/
theorem released_download_fits :
    let downloads : List Call :=
      [.reserveComponent ⟨1, 1, 1⟩ ⟨7, "weights", 6, "model"⟩ 1, .appendPartial ⟨1, 1, 1⟩ 7 6 2 false,
        .reserve ⟨2, 1, 2⟩ 4, .beginComponent ⟨⟨2, 1, 2⟩, 4⟩ ⟨8, "adapter", 4, "model"⟩ 3,
        .promoteComponent ⟨1, 1, 1⟩ 7 4 none, .releaseReservation ⟨⟨1, 1, 1⟩, 6⟩,
        .appendPartial ⟨2, 1, 2⟩ 8 3 5 true]
    stored (run step ⟨10, 10, .empty, .empty⟩ downloads) = 9 ∧
      stored (run step ⟨10, 10, .empty, .empty⟩ downloads) ≤ 10 :=
  ⟨by decide, stored_le_capacity 10 10 _ (by decide)⟩

/-- The first download stops with an error, which releases its reservation. -/
theorem released_partial_overcommits : stored (run step ⟨10, 10, .empty, .empty⟩
    [.reserveComponent ⟨1, 1, 1⟩ ⟨7, "weights", 6, "model"⟩ 1, .appendPartial ⟨1, 1, 1⟩ 7 5 2 false,
      .releaseReservation ⟨⟨1, 1, 1⟩, 6⟩, .reserveComponent ⟨2, 1, 2⟩ ⟨8, "adapter", 6, "model"⟩ 3,
      .appendPartial ⟨2, 1, 2⟩ 8 6 4 false]) = 11 := by
  decide

end VonkForge.ContentStore
