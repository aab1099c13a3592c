import VonkForge.ContentStore

/-!
# Acquisition of components

`AcquisitionEngine.fetch` over the content store after a restart, by an operation that is the only
live one.
-/

namespace VonkForge.ContentStore

open Table Transactions

variable (s : Store) (o : Owner) (r : Reservation) (d : Descriptor) (digest stamp : ℕ)

/-- A working source serves what the partial file lacks; the owner of a shared component is dead. -/
def download : Except String Store := do
  match ← beginComponent s r d stamp with
  | (s, .complete) => releaseReservation s r
  | (s, .partly) => do
    let (c, f) ← partialRow s r.owner d.digest
    require (f.size = c.written) "component partial exceeds its checkpoint"
    releaseReservation (setComponent s d.digest (.complete d.size)) r
  | (_, .shared) => .error "component acquisition owner did not complete"

/-- By a new operation, which `begin_operation` only journals. -/
def fetchComponent : Except String Store :=
  match (s.components.get? d.digest).filter (·.owner = none) with
  | some c => do
    require (c.size = d.size) "verified component size is inconsistent"
    .ok s
  | none => do
    let (s, r) ← reserveComponent s o d stamp
    download s r d stamp

/-- The store is opened again, and the component is fetched. -/
def acquire : Except String Store := do
  let s ← recover s
  fetchComponent s o d stamp

/-- The component is complete, or its promotion was killed after the rename. -/
def Finished : Prop :=
  ∃ c, s.components.get? digest = some c ∧ (c.owner = none ∨ c.object = true)

def finishedBytes : ℕ :=
  ((s.components.select fun c => c.owner = none || c.object).map (·.size)).sum

/-- The partial file is as it was journaled: nobody was killed between a change of it and the
commit. -/
def Intact (c : Component) : Prop :=
  c.owner = none ∨ c.object = true ∨ ∃ f, c.file = some f ∧ f.readOnly = false ∧ f.stamp = c.stamp

/-- No dead operation stands in the way: not with a partial file that changed after its last
checkpoint, nor as the owner of the component, nor with the bytes that it has reserved. -/
structure Recoverable : Prop where
  intact : ∀ c ∈ s.components.rows, Intact c
  free : Finished s d.digest ∨ (finishedBytes s + reserved s + d.size ≤ s.capacity ∧
    ∀ c x, s.components.get? d.digest = some c → c.owner = some x →
      s.reservations.get? x.operationId = none ∧ ∀ f ∈ c.file, f.size = c.written)

variable {s o r d digest stamp}

section Restart

end Restart

section Fetch

end Fetch

end VonkForge.ContentStore
