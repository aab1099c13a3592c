import Mathlib.Order.Bounds.Defs
import VonkForge.AgentSlots
import VonkForge.KeyedTable

/-!
# Agent receipts

`StateStore` of the agent: one row for each operation, running or completed with a result; and
`backoff_delay`.
-/

namespace VonkForge.AgentReceipts

open Transactions Table
open AgentSlots (lowerHex)

variable {now : Time} {fence : Uuid} {n : ℕ}

variable {V B : Type}

inductive StateError
  | database
  | protocol
  | identity
  | expired
  | stale
  | busy
  | resultState

structure AgentClaim (V : Type) where
  attempt : ℕ
  baseCommit : String
  deadline : Time
  (fence jobId : Uuid)
  nodeId : NodeId
  operation : AgentOperation
  operationId : Uuid
  payload : V
  payloadDigest : Digest
  schemaVersion : ℕ

structure AgentResult (V : Type) where
  attempt : ℕ
  deadline : Time
  (fence jobId : Uuid)
  nodeId : NodeId
  operationId : Uuid
  result : V
  schemaVersion : ℕ
  state : String

/-- The node of the store and what the libraries give: JSON values `V`, their bytes `B`, hashes. -/
structure Env (V B : Type) where
  nodeId : NodeId
  validNodeId : NodeId → Bool
  object : String → String → V
  hexSha256 : V → Digest
  canonicalJson : AgentResult V → B
  parseStrict : B → Except StateError (AgentResult V)

def AgentClaim.validate (env : Env V B) (c : AgentClaim V) : Bool :=
  c.schemaVersion = 1 && c.attempt ≠ 0 && env.validNodeId c.nodeId && lowerHex c.baseCommit 40 &&
    c.operation ∈ ([.recipeBuild, .recipeImageImport, .recipeInstall, .recipeStart, .recipeStop,
      .recipeUninstall] : List AgentOperation) &&
    env.hexSha256 c.payload = c.payloadDigest

def resultStates : List String := ["succeeded", "failed", "waiting-for-operator"]

def AgentResult.validate (env : Env V B) (r : AgentResult V) : Bool :=
  r.schemaVersion = 1 && r.attempt ≠ 0 && env.validNodeId r.nodeId && r.state ∈ resultStates

/-- What `canonical_json` writes of a result that may be stored, `parse_strict` reads. -/
def Env.Lossless (env : Env V B) : Prop :=
  ∀ r, r.validate env = true → env.parseStrict (env.canonicalJson r) = .ok r

/-- The columns `state`, `result_json` and `result_acknowledged`: by the table's constraint there
is a result exactly when the operation is completed. -/
inductive Progress (B : Type)
  | running
  | completed (resultJson : B) (acknowledged : Bool)

structure Operation (B : Type) where
  (operationId jobId : Uuid)
  nodeId : NodeId
  attempt : ℕ
  fence : Uuid
  deadline : Time
  progress : Progress B

instance : Keyed (Operation B) Uuid := ⟨Operation.operationId⟩

abbrev StateStore (B : Type) := Table (Operation B)

def Operation.running (r : Operation B) : Bool :=
  match r.progress with
  | .running => true
  | .completed .. => false

/-- The row is the one that a `WHERE` with an operation, an attempt and a fence selects. -/
def Operation.held (operationId : Uuid) (attempt : ℕ) (fence : Uuid) (r : Operation B) : Bool :=
  r.operationId = operationId && r.attempt = attempt && r.fence = fence

def Operation.complete (body : B) (r : Operation B) : Operation B :=
  { r with progress := .completed body false }

def Operation.acknowledge (r : Operation B) : Operation B :=
  match r.progress with
  | .running => r
  | .completed body _ => { r with progress := .completed body true }

def started (operationId : Uuid) (c : AgentClaim V) : Operation B :=
  ⟨operationId, c.jobId, c.nodeId, c.attempt, c.fence, c.deadline, .running⟩

inductive BeginDecision (V : Type)
  | execute
  | replay (result : AgentResult V)

variable (env : Env V B) (s : StateStore B)

def begin (claim : AgentClaim V) (now : Time) :
    Except StateError (StateStore B × BeginDecision V) := do
  require (claim.validate env) .protocol
  require (claim.nodeId = env.nodeId) .identity
  require (now < claim.deadline) .expired
  match s.get? claim.operationId with
  | none => do
    let t ← fetch (s.insert (started claim.operationId claim)) .database
    .ok (t, .execute)
  | some stored =>
    if claim.attempt < stored.attempt then .error .stale
    else if claim.attempt = stored.attempt then do
      require (stored.fence = claim.fence) .stale
      match stored.progress with
      | .running => .error .busy
      | .completed body _ => do
        let result ← env.parseStrict body
        .ok (s, .replay result)
    else
      .ok (s.updateWhere (fun r => r.operationId = claim.operationId)
        fun r => started r.operationId claim, .execute)

def resultOf (claim : AgentClaim V) (state : String) (value : V) : AgentResult V :=
  ⟨claim.attempt, claim.deadline, claim.fence, claim.jobId, claim.nodeId, claim.operationId, value,
    claim.schemaVersion, state⟩

def finish (claim : AgentClaim V) (state : String) (value : V) :
    Except StateError (StateStore B × AgentResult V) := do
  require (state ∈ resultStates) .resultState
  let result := resultOf claim state value
  require (result.validate env) .protocol
  let p := fun r : Operation B => r.held claim.operationId claim.attempt claim.fence && r.running
  -- `changed != 1` rolls the update back.
  require (s.rows.any p) .stale
  .ok (s.updateWhere p (Operation.complete (env.canonicalJson result)), result)

def Operation.unacknowledged (r : Operation B) : Option B :=
  match r.progress with
  | .completed body false => some body
  | _ => none

def pendingResults : Except StateError (List (AgentResult V)) :=
  (s.rows.filterMap Operation.unacknowledged).mapM env.parseStrict

lemma Operation.key_acknowledge (r : Operation B) :
    r.acknowledge.operationId = r.operationId ∧ r.acknowledge.attempt = r.attempt := by
  unfold Operation.acknowledge
  split <;> exact ⟨rfl, rfl⟩

def acknowledge (result : AgentResult V) : Except StateError (StateStore B) := do
  require (result.validate env) .protocol
  let p := fun r : Operation B =>
    r.held result.operationId result.attempt result.fence && !r.running
  require (s.rows.any p) .stale
  .ok (s.updateWhere p Operation.acknowledge fun r => r.key_acknowledge.1)

def interrupted (r : Operation B) : AgentResult V :=
  ⟨r.attempt, r.deadline, r.fence, r.jobId, r.nodeId, r.operationId,
    env.object "reason" "agent restarted with an operation in progress", 1, "waiting-for-operator"⟩

def recoverInterrupted : Except StateError (StateStore B) := do
  (s.select Operation.running).forM fun r => require ((interrupted env r).validate env) .protocol
  .ok (s.updateWhere Operation.running fun r => r.complete (env.canonicalJson (interrupted env r)))

inductive Call (V : Type)
  | begin (claim : AgentClaim V) (now : Time)
  | finish (claim : AgentClaim V) (state : String) (value : V)
  | pendingResults
  | acknowledge (result : AgentResult V)
  | restart

inductive Answer (V : Type)
  | decision (decision : BeginDecision V)
  | result (result : AgentResult V)
  | results (results : List (AgentResult V))
  | done

def step : Call V → Except StateError (StateStore B × Answer V)
  | .begin claim now => do
    let (t, decision) ← begin env s claim now
    .ok (t, .decision decision)
  | .finish claim state value => do
    let (t, result) ← finish env s claim state value
    .ok (t, .result result)
  | .pendingResults => do
    let results ← pendingResults env s
    .ok (s, .results results)
  | .acknowledge result => do
    let t ← acknowledge env s result
    .ok (t, .done)
  | .restart => do
    let t ← recoverInterrupted env s
    .ok (t, .done)

def executed : Call V × Answer V → Option (Uuid × ℕ)
  | (.begin claim _, .decision .execute) => some (claim.operationId, claim.attempt)
  | _ => none

def acknowledged : Call V × Answer V → Option (Uuid × ℕ)
  | (.acknowledge result, _) => some (result.operationId, result.attempt)
  | _ => none

def Stored (id : Uuid) (n : ℕ) (r : AgentResult V) : Prop :=
  r.validate env = true ∧ ∃ row ack, s.get? id = some row ∧ row.attempt = n ∧
    row.progress = .completed (env.canonicalJson r) ack

inductive Moves (s t : StateStore B) (x : Call V × Answer V) (id : Uuid) : Prop
  | same (h : t.get? id = s.get? id)
  | executes (n : ℕ) (row : Operation B) (hx : executed x = some (id, n))
      (hold : ∀ old, s.get? id = some old → old.attempt < n)
      (h : t.get? id = some row) (hn : row.attempt = n) (hrow : row.progress = .running)
  | completes (row : Operation B) (r : AgentResult V) (hs : s.get? id = some row)
      (hrow : row.progress = .running) (hvalid : r.validate env = true)
      (h : t.get? id = some (row.complete (env.canonicalJson r)))
  | acknowledges (row : Operation B) (body : B) (ack : Bool) (hs : s.get? id = some row)
      (hrow : row.progress = .completed body ack)
      (h : t.get? id = some { row with progress := .completed body true })
      (hack : acknowledged x = some (id, row.attempt))

variable {env s} {t : StateStore B} {id : Uuid}

/-- Attempts of an operation only grow, and an attempt that was told to execute is reached. -/
def Reached (s : StateStore B) (k : Uuid × ℕ) : Prop :=
  ∃ row, s.get? k.1 = some row ∧ k.2 ≤ row.attempt

lemma Env.Lossless.injective (hcodec : env.Lossless) {r r' : AgentResult V}
    (hr : r.validate env = true) (hr' : r'.validate env = true)
    (h : env.canonicalJson r = env.canonicalJson r') : r = r' := by
  have hparse := (hcodec r hr).symm.trans (h ▸ hcodec r' hr')
  exact Except.ok.inj hparse

section

variable (hcodec : env.Lossless)

include hcodec

lemma Stored.unique {r r' : AgentResult V} (h : Stored env s id n r) (h' : Stored env s id n r') :
    r' = r := by
  obtain ⟨hvalid, row, ack, hrow, -, hbody⟩ := h
  obtain ⟨hvalid', row', ack', hrow', -, hbody'⟩ := h'
  cases hrow.symm.trans hrow'
  exact hcodec.injective hvalid' hvalid (Progress.completed.inj (hbody'.symm.trans hbody)).1

end

def u64Max : ℕ := 2 ^ 64 - 1

def saturatingMul (a b : ℕ) : ℕ := min (a * b) u64Max

def checkedAdd (a b : ℕ) : Option ℕ := if a + b ≤ u64Max then some (a + b) else none

section Backoff

variable (attempt minimum maximum : ℕ)

-- `checked_shl` fails from a shift of 64 bits on.
def base : ℕ :=
  let shift := min attempt 62
  min (saturatingMul minimum (if shift < 64 then 2 ^ shift else u64Max)) maximum

def lower : ℕ := max (saturatingMul (base attempt minimum maximum) 3 / 4) minimum

def upper : ℕ :=
  max (min (saturatingMul (base attempt minimum maximum) 5 / 4) maximum)
    (lower attempt minimum maximum)

end Backoff

/-- A failed assertion, an overflow and a division by zero panic, with `none`. -/
def backoffDelay (attempt : UInt32) (entropy minimum maximum : UInt64) : Option ℕ := do
  guard (0 < minimum ∧ minimum ≤ maximum)
  let lower := lower attempt.toNat minimum.toNat maximum.toNat
  let upper := upper attempt.toNat minimum.toNat maximum.toNat
  guard (lower ≤ upper)
  let span ← checkedAdd (upper - lower) 1
  guard (span ≠ 0)
  checkedAdd lower (entropy.toNat % span)

lemma lower_mono {i j : ℕ} (hij : i ≤ j) (minimum maximum : ℕ) :
    lower i minimum maximum ≤ lower j minimum maximum := by
  have hlt (n : ℕ) : min n 62 < 64 := by omega
  have hshift : min i 62 ≤ min j 62 := by omega
  have hmul := Nat.mul_le_mul_left minimum (Nat.pow_le_pow_right (n := 2) (by decide) hshift)
  simp only [lower, base, saturatingMul, if_pos (hlt _)]
  omega

lemma upper_le {attempt minimum maximum : ℕ} (h : minimum ≤ maximum) :
    upper attempt minimum maximum ≤ maximum := by
  have hbase : base attempt minimum maximum ≤ maximum := min_le_right _ _
  simp only [upper, lower, saturatingMul]
  omega

section Delays

variable {minimum maximum : UInt64} (hpos : 0 < minimum) (hle : minimum ≤ maximum)

include hpos hle

lemma backoffDelay_eq (attempt : UInt32) (entropy : UInt64) :
    let least := lower attempt.toNat minimum.toNat maximum.toNat
    let most := upper attempt.toNat minimum.toNat maximum.toNat
    let delay := least + entropy.toNat % (most - least + 1)
    backoffDelay attempt entropy minimum maximum = some delay ∧ delay ≤ most := by
  intro least most delay
  have hmin : 0 < least := (UInt64.lt_iff_toNat_lt.mp hpos).trans_le (le_max_right _ _)
  have horder : least ≤ most := le_max_right _ _
  have htop : most ≤ u64Max := (upper_le hle).trans (Nat.le_pred_of_lt maximum.toNat_lt)
  have hmod : entropy.toNat % (most - least + 1) < most - least + 1 := Nat.mod_lt _ (by omega)
  have hspan : checkedAdd (most - least) 1 = some (most - least + 1) := if_pos (by omega)
  have hsum : checkedAdd least (entropy.toNat % (most - least + 1)) = some delay :=
    if_pos (by omega)
  exact ⟨by simp [backoffDelay, guard, hpos, hle, horder, least, most, hspan, hsum], by omega⟩

theorem backoffDelay_in_range :
    (∀ attempt entropy, ∃ delay, backoffDelay attempt entropy minimum maximum = some delay ∧
      minimum.toNat ≤ delay ∧ delay ≤ maximum.toNat) ∧
    ∃ smallest : UInt32 → ℕ, (∀ i j, i ≤ j → smallest i ≤ smallest j) ∧ ∀ attempt,
      IsLeast {delay | ∃ entropy, backoffDelay attempt entropy minimum maximum = some delay}
        (smallest attempt) := by
  refine ⟨fun attempt entropy => ?_, fun attempt => lower attempt.toNat minimum.toNat maximum.toNat,
    fun i j hij => lower_mono hij _ _, fun attempt => ⟨⟨0, ?_⟩, ?_⟩⟩
  · obtain ⟨heq, hmost⟩ := backoffDelay_eq hpos hle attempt entropy
    exact ⟨_, heq, (le_max_right _ _).trans (Nat.le_add_right _ _), hmost.trans (upper_le hle)⟩
  · simpa using (backoffDelay_eq hpos hle attempt 0).1
  rintro delay ⟨entropy, hdelay⟩
  rw [(backoffDelay_eq hpos hle attempt entropy).1] at hdelay
  exact Option.some.inj hdelay ▸ Nat.le_add_right _ _

end Delays

theorem polling_delay_returns : ∃ delay, backoffDelay 40 7 2 60 = some delay :=
  ((backoffDelay_in_range (by decide) (by decide)).1 40 7).imp fun _ h => h.1

end VonkForge.AgentReceipts
