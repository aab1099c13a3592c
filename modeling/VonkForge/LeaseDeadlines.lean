import VonkForge.ClaimProgress

/-!
# Deadlines of attempt leases

A claim sets the deadline of an attempt; heartbeats move it, never past that of the receipt.
-/

namespace VonkForge.AgentJobs

open Table

variable {cfg : Config} {call : Call} {req : ClaimRequest} {token : Uuid} {op : StoredOperation}
  {db db' : Database} {c : AgentClaim} {a : AgentOperationAttempt} {t : Time} {k : Uuid × ℕ}

/-- A signed operation has a receipt whose claim deadline is not before `t`. -/
def WithinReceipt (op : StoredOperation) (t : Time) : Prop :=
  op.kind.signed = true → ∃ receipt, op.payload.receipt = some receipt ∧
    t ≤ seconds receipt.claimDeadline

/-- While the attempt `k` is running its lease ends at `t` or later, within the receipt. -/
def LeaseSince (t : Time) (k : Uuid × ℕ) (db : Database) : Prop :=
  ∀ a, db.attempts.get? k = some a → a.state = .running → t ≤ a.leaseDeadline ∧
    ∀ op, db.operations.get? k.1 = some op → WithinReceipt op a.leaseDeadline

/-- A heartbeat is accepted, or something happens that leaves the deadline of the running attempt
`k` and its operation alone. -/
inductive Beat (k : Uuid × ℕ) (db db' : Database) : Prop
  | heartbeat {cfg : Config} {call : Call} {later : Time} {fence : AgentFence} {leaseSeconds : ℕ}
      {source : Option AgentSource} {a : AgentOperationAttempt}
      (accepted : heartbeat cfg call later db fence leaseSeconds source = .ok (a, db'))
  | other
      (attempt : ∀ b, db'.attempts.get? k = some b → b.state = .running →
        ∃ a, db.attempts.get? k = some a ∧ a.state = .running ∧ a.leaseDeadline = b.leaseDeadline)
      (operation : ∀ o', db'.operations.get? k.1 = some o' →
        ∃ o, db.operations.get? k.1 = some o ∧ o'.kind = o.kind ∧ o'.payload = o.payload)

lemma heartbeatDeadline_spec {later : Time} {leaseSeconds : ℕ}
    (h : heartbeatDeadline later op a leaseSeconds = .ok t) :
    a.leaseDeadline ≤ t ∧ WithinReceipt op t := by
  unfold heartbeatDeadline at h
  split at h
  · next hsigned =>
    cases h
    exact ⟨le_max_left _ _, fun hs => by rw [hsigned] at hs; cases hs⟩
  split at h
  · cases h
  next receipt hr =>
  split_ifs at h with hexpires hexceeded
  cases h
  refine ⟨le_min (le_max_left _ _) (not_lt.mp hexceeded), fun _ => ⟨receipt, hr, ?_⟩⟩
  exact min_le_right _ _

lemma WithinReceipt.of_eq {o o' : StoredOperation} (h : WithinReceipt o t)
    (hk : o'.kind = o.kind) (hp : o'.payload = o.payload) : WithinReceipt o' t := by
  unfold WithinReceipt
  rwa [hk, hp]

lemma LeaseSince.heartbeat {later : Time} {fence : AgentFence} {leaseSeconds : ℕ}
    {source : Option AgentSource} (h : LeaseSince t k db)
    (hbeat : heartbeat cfg call later db fence leaseSeconds source = .ok (a, db')) :
    LeaseSince t k db' := by
  unfold AgentJobs.heartbeat at hbeat
  split at hbeat
  · cases hbeat
  obtain ⟨⟨op, attempt, d⟩, hact, hbeat⟩ := of_bind_ok hbeat
  obtain ⟨deadline, hdeadline, hbeat⟩ := of_bind_ok hbeat
  cases hbeat
  obtain ⟨-, hmem, -, hop, -, -, -, nodes, rfl⟩ := active_spec hact
  obtain ⟨hle, hcap⟩ := heartbeatDeadline_spec hdeadline
  have hid : op.id = a.operationId := get?_key hop
  intro b hb hrun
  simp only [setOperation, setAttempt, get?_updateWhere, hid] at hb
  obtain ⟨x, hx, rfl⟩ := Option.map_eq_some_iff.mp hb
  -- the operation row is only touched
  suffices hdue : t ≤ _ ∧ ∀ o, db.operations.get? k.1 = some o → WithinReceipt o _ by
    refine ⟨hdue.1, fun o' ho' => ?_⟩
    rw [get?_setOperation] at ho'
    obtain ⟨o, ho, rfl⟩ := Option.map_eq_some_iff.mp ho'
    apply (hdue.2 o ho).of_eq <;> split <;> rfl
  by_cases hxa : x.operationId = a.operationId ∧ x.attempt = a.attempt
  · obtain rfl : x = a := by
      have hkey : (x.operationId, x.attempt) = k := get?_key hx
      have ha : db.attempts.get? (a.operationId, a.attempt) = some a := get?_of_mem hmem
      rw [← hxa.1, ← hxa.2, hkey, hx] at ha
      exact Option.some.inj ha
    obtain rfl : (x.operationId, x.attempt) = k := get?_key hx
    simp only [and_self, decide_true, if_true] at hrun ⊢
    refine ⟨(h x hx hrun).1.trans hle, fun o ho => ?_⟩
    rw [hop] at ho
    exact Option.some.inj ho ▸ hcap
  simp only [hxa, decide_false, Bool.false_eq_true, if_false] at hrun ⊢
  exact h x hx hrun

lemma LeaseSince.beat (h : LeaseSince t k db) (hb : Beat k db db') : LeaseSince t k db' := by
  cases hb with
  | heartbeat accepted => exact h.heartbeat accepted
  | other attempt operation =>
    intro b hb hrun
    obtain ⟨a, ha, har, hd⟩ := attempt b hb hrun
    obtain ⟨hle, hcap⟩ := h a ha har
    refine ⟨hd ▸ hle, fun o' ho' => ?_⟩
    obtain ⟨o, ho, hk, hp⟩ := operation o' ho'
    exact hd ▸ (hcap o ho).of_eq hk hp

lemma LeaseSince.beats (h : LeaseSince t k db) (hb : Relation.ReflTransGen (Beat k) db db') :
    LeaseSince t k db' := by
  induction hb with
  | refl => exact h
  | tail _ hstep ih => exact ih.beat hstep

lemma claimSelected_starts {node : AgentNode}
    (h : claimSelected call req token node db op = .ok (some c, db')) :
    ∃ fence deadline, startAttempt (expirePrevious db op) call.now op req.certificateSerial fence
      deadline = .ok (some c, db') ∧ WithinReceipt op deadline := by
  unfold claimSelected at h
  split at h
  · cases h
  split at h
  · cases h
  split at h
  · cases (quarantine_effect h).1
  split at h
  · next hbinding =>
    obtain ⟨-, receipt, hr, rfl, rfl⟩ := updateClaimBinding_eq_some hbinding
    exact ⟨_, _, h, fun _ => ⟨receipt, hr, le_rfl⟩⟩
  split at h
  · obtain ⟨d, -, h⟩ := of_bind_ok h
    cases h
  next hsigned => exact ⟨_, _, h, fun hs => absurd hs hsigned⟩

lemma LeaseSince.claim (h : claim cfg call req token db = .ok (some c, db')) :
    LeaseSince c.deadline (c.operationId, c.attempt) db' := by
  rcases claim_cases h with ⟨hnone, -⟩ | ⟨_, _, _, mid, hsel, ⟨hnone, -⟩ | ⟨op, node, rfl, hc⟩⟩
  · cases hnone
  · cases hnone
  obtain ⟨-, hop⟩ := selectOperation_effect (fun _ hid => by cases hid)
    (fun _ hid => by cases hid) hsel
  obtain ⟨fence, deadline, hstart, hcap⟩ := claimSelected_starts hc
  obtain ⟨hid, hattempt, -, -, -, -, hops, serial, hatts⟩ := startAttempt_started hstart
  obtain rfl : c.deadline = deadline := by
    obtain ⟨_, -, hstart⟩ := of_bind_ok hstart
    cases hstart
    rfl
  intro a ha _
  rw [hid, hattempt, hatts, if_pos rfl] at ha
  cases ha
  refine ⟨le_rfl, fun o ho => ?_⟩
  simp only [hid, hops, operations_expirePrevious, (hop op rfl).stored, Option.map_some,
    if_true] at ho
  cases ho
  exact hcap.of_eq rfl rfl

/-- From the claim through every heartbeat the deadline of a running attempt does not decrease,
within its receipt. -/
theorem heartbeats_keep_deadline {db₀ db₁ db₂ : Database} {b : AgentOperationAttempt}
    (hclaim : claim cfg call req token db = .ok (some c, db₀))
    (h₁ : Relation.ReflTransGen (Beat (c.operationId, c.attempt)) db₀ db₁)
    (h₂ : Relation.ReflTransGen (Beat (c.operationId, c.attempt)) db₁ db₂)
    (ha : db₁.attempts.get? (c.operationId, c.attempt) = some a)
    (hb : db₂.attempts.get? (c.operationId, c.attempt) = some b) (hrun : b.state = .running) :
    a.leaseDeadline ≤ b.leaseDeadline ∧
      ∀ op, db₂.operations.get? c.operationId = some op → WithinReceipt op b.leaseDeadline := by
  have hsince := (LeaseSince.claim hclaim).beats h₁
  have hfrom : LeaseSince a.leaseDeadline (c.operationId, c.attempt) db₁ := by
    intro a' ha' hrun'
    rw [ha] at ha'
    cases ha'
    exact ⟨le_rfl, (hsince a ha hrun').2⟩
  exact hfrom.beats h₂ b hb hrun

/-- An update of one node that is signed until second 100. -/
def signedUpdate : Database :=
  let receipt : UpdateReceipt :=
    ⟨20, 4 * 2 ^ 76 + 2 ^ 63, 1, 1, 100, 100, false, .a, 8, 1, none⟩
  let identity : RuntimeIdentity :=
    ⟨.linuxArm64, ⟨1, 0, 0⟩, 0, .a, 8, 1, true, true, by decide, by decide⟩
  { oneNode with
    nodes := .single { nodeId := 1, runtime := some identity }
    operations := .single ⟨20, 5, 1, .agentUpdate, 3,
      { canonicalDigest := 3, receipt := some receipt }, 0, .queued, 0, none, none, 0, 0⟩ }

/-- Claimed at second 0, with a heartbeat at second 90 that asks for 60 more. -/
theorem signedUpdate_keeps_deadline : ∃ c db₀ a db₁ b,
    claim {} ⟨0, none⟩ pollNode 9 signedUpdate = .ok (some c, db₀) ∧
    heartbeat {} ⟨seconds 90, none⟩ (seconds 90) db₀ (.bare c.fence) 60 none = .ok (a, db₁) ∧
    db₁.attempts.get? (c.operationId, c.attempt) = some b ∧
    a.leaseDeadline ≤ b.leaseDeadline := by
  obtain ⟨c, db₀, hc, a, db₁, hbeat, ha, b, hb, hrun⟩ : ∃ c db₀,
      claim {} ⟨0, none⟩ pollNode 9 signedUpdate = .ok (some c, db₀) ∧ ∃ a db₁,
      heartbeat {} ⟨seconds 90, none⟩ (seconds 90) db₀ (.bare c.fence) 60 none = .ok (a, db₁) ∧
      db₀.attempts.get? (c.operationId, c.attempt) = some a ∧ ∃ b,
      db₁.attempts.get? (c.operationId, c.attempt) = some b ∧ b.state = .running :=
    ⟨_, _, rfl, _, _, rfl, rfl, _, rfl, rfl⟩
  refine ⟨c, db₀, a, db₁, b, hc, hbeat, hb, ?_⟩
  exact (heartbeats_keep_deadline hc .refl (.single (.heartbeat hbeat)) ha hb hrun).1

end VonkForge.AgentJobs
