import VonkForge.AgentSlots

/-!
# Runs of the agent slots

What one operation can make of the stored state, and what a supervisor finds after a crash.
-/

namespace VonkForge.AgentSlots

open Transactions

variable {value : Challenge} {d : Disk} {now : Int64} {op : Operation} {x : Option SupervisorState}
  {sha : Sha256} {slot : Slot} {claims : SlotManifestClaims} {digest reason : String}
  {s t : SupervisorState} {attempts : ℕ}

section Loading

variable {expected : Option String}

lemma loadUnlocked_ok : loadUnlocked d = .ok s ↔ d.state = some s ∧ s.validate = true := by
  unfold loadUnlocked
  simp only [fetch_bind_ok, require_bind_ok, Except.ok.injEq]
  constructor
  · rintro ⟨_, hs, hv, rfl⟩
    exact ⟨hs, hv⟩
  rintro ⟨hs, hv⟩
  exact ⟨s, hs, hv, rfl⟩

lemma eq_of_load (hd : d.state = some t) (hs : loadUnlocked d = .ok s) : s = t :=
  (Option.some.inj (hd.symm.trans (loadUnlocked_ok.mp hs).1)).symm

lemma verifySlot_ok : verifySlot d slot expected = .ok claims ↔
    ∃ files, d.files slot = some files ∧ files.claims = claims ∧ claims.slot = slot ∧
      files.signed = true ∧ claims.validate = true ∧ (∀ x ∈ expected, x = claims.artifactSha256) ∧
      files.executable = true := by
  unfold verifySlot
  simp only [fetch_bind_ok, require_bind_ok, Except.ok.injEq, Option.all_eq_true, decide_eq_true_eq]
  constructor
  · rintro ⟨files, hfiles, ⟨hslot, hsigned, hv⟩, ⟨hdigest, hexec⟩, rfl⟩
    exact ⟨files, hfiles, rfl, hslot, hsigned, hv, hdigest, hexec⟩
  rintro ⟨files, hfiles, rfl, hslot, hsigned, hv, hdigest, hexec⟩
  exact ⟨files, hfiles, ⟨hslot, hsigned, hv⟩, ⟨hdigest, hexec⟩, rfl⟩

lemma reads_of_verifySlot (h : verifySlot d slot expected = .ok claims) :
    claims.Reads claims.writesStateSchema ∧ claims.writesStateSchema ≠ 0 := by
  obtain ⟨_, -, -, -, -, hv, -⟩ := verifySlot_ok.mp h
  unfold SlotManifestClaims.validate at hv
  simp only [Bool.and_eq_true, decide_eq_true_eq] at hv
  obtain ⟨⟨⟨⟨-, hwrites⟩, -⟩, hmin⟩, hmax⟩ := hv
  exact ⟨⟨hmin, hmax⟩, hwrites⟩

lemma verifySlot_own (h : verifySlot d slot expected = .ok claims) :
    verifySlot d slot (some claims.artifactSha256) = .ok claims := by
  obtain ⟨f, hf, hclaims, hslot, hsigned, hvalid, -, hexec⟩ := verifySlot_ok.mp h
  exact verifySlot_ok.mpr
    ⟨f, hf, hclaims, hslot, hsigned, hvalid, fun x hx => (Option.some.inj hx).symm, hexec⟩

lemma admitActivation_ok {previous candidate : SlotManifestClaims}
    (h : admitActivation d now slot digest = .ok (s, previous, candidate)) :
    loadUnlocked d = .ok s ∧ s.status = .stable ∧ slot ≠ s.activeSlot ∧
      verifySlot d s.activeSlot (some s.activeArtifactSha256) = .ok previous ∧
      verifySlot d slot (some digest) = .ok candidate ∧
      previous.Reads candidate.writesStateSchema := by
  obtain ⟨s', hload, h⟩ := of_bind_ok h
  rw [require_bind_ok] at h
  obtain ⟨⟨hstable, hne, -⟩, h⟩ := h
  obtain ⟨previous', hprevious, candidate', hcandidate, h⟩ := of_bind_ok₂ h
  rw [require_bind_ok] at h
  obtain ⟨⟨-, hreads⟩, h⟩ := h
  cases h
  exact ⟨hload, hstable, hne, hprevious, hcandidate, hreads⟩

lemma admitRollback_ok :
    admitRollback d s = .ok (slot, digest, claims) ↔ s.previousSlot = some slot ∧
      s.previousArtifactSha256 = some digest ∧ verifySlot d slot (some digest) = .ok claims ∧
      claims.Reads s.stateSchema := by
  unfold admitRollback
  simp only [fetch_bind_ok]
  constructor
  · rintro ⟨_, hslot, _, hdigest, h⟩
    obtain ⟨_, hverify, h⟩ := of_bind_ok h
    rw [require_bind_ok] at h
    cases h.2
    exact ⟨hslot, hdigest, hverify, h.1⟩
  rintro ⟨hslot, hdigest, hverify, hreads⟩
  refine ⟨slot, hslot, digest, hdigest, ?_⟩
  rw [hverify, ok_bind, require_bind_ok]
  exact ⟨hreads, rfl⟩

end Loading

inductive Change (sha : Sha256) (d : Disk) (now : Int64) (value : Challenge) (op : Operation) :
    Option SupervisorState → Prop
  | same : Change sha d now value op d.state
  | starts (s : SupervisorState) (hnone : d.state = none) (hstable : s.status = .stable)
      (hv : s.validate = true) : Change sha d now value op (some s)
  | activates (slot : Slot) (digest : String) (s : SupervisorState)
      (previous candidate : SlotManifestClaims) (hop : op = .activate slot digest)
      (hgrant : admitActivation d now slot digest = .ok (s, previous, candidate))
      (hv : (activated sha now value s slot previous candidate).validate = true) :
      Change sha d now value op (some (activated sha now value s slot previous candidate))
  | becomesReady (s : SupervisorState) (r : ReadinessEvidence) (hop : op = .observeReadiness r)
      (hs : loadUnlocked d = .ok s) (hpending : s.status = .pending)
      (htime : now ≤ s.activationDeadline.getD 0) (hproves : Proves sha r s)
      (hv : SupervisorState.validate
        { s with status := .stable, activationDeadline := none, bootAttempts := 0 } = true) :
      Change sha d now value op
        (some { s with status := .stable, activationDeadline := none, bootAttempts := 0 })
  | counts (s : SupervisorState) (hs : loadUnlocked d = .ok s) (hpending : s.status = .pending)
      (hlt : s.bootAttempts + 1 < maxBootAttempts)
      (hv : SupervisorState.validate { s with bootAttempts := s.bootAttempts + 1 } = true) :
      Change sha d now value op (some { s with bootAttempts := s.bootAttempts + 1 })
  | rollsBack (s : SupervisorState) (slot : Slot) (digest : String) (previous : SlotManifestClaims)
      (reason : String) (hs : loadUnlocked d = .ok s) (hpending : s.status = .pending)
      (hno : s.rollbackPerformed = false) (hgrant : admitRollback d s = .ok (slot, digest, previous))
      (hv : (rolledBack sha now value s slot digest previous reason).validate = true) :
      Change sha d now value op (some (rolledBack sha now value s slot digest previous reason))
  | fails (s : SupervisorState) (attempts : ℕ) (reason : String) (hs : loadUnlocked d = .ok s)
      (hpending : s.status = .pending) (hdone : s.rollbackPerformed = true)
      (hv : SupervisorState.validate
        { s with
          status := .failed, activationDeadline := none, bootAttempts := attempts
          reason := some reason } = true) :
      Change sha d now value op (some { s with
        status := .failed, activationDeadline := none, bootAttempts := attempts
        reason := some reason })

section Changes

lemma publishFailure_change (hs : loadUnlocked d = .ok s) (hpending : s.status = .pending)
    (hdone : s.rollbackPerformed = true) :
    Change sha d now value op
      (d.after (publishFailure now { s with bootAttempts := attempts } reason).writes).state := by
  unfold publishFailure publishState
  split_ifs with hv
  · exact .fails s attempts reason hs hpending hdone hv
  exact .same

lemma rollbackOrFail_change (hs : loadUnlocked d = .ok s) (hpending : s.status = .pending) :
    Change sha d now value op
      (d.after (rollbackOrFail sha d now value { s with bootAttempts := attempts } reason).writes).state := by
  unfold rollbackOrFail
  split_ifs with hdone
  · exact publishFailure_change hs hpending hdone
  split
  · exact .same
  next slot digest previous hgrant =>
  unfold publishState
  split_ifs with hv
  · exact .rollsBack s slot digest previous reason hs hpending (by simpa using hdone) hgrant hv
  exact .same

lemma attempt_change (sha : Sha256) (d : Disk) (now : Int64) (value : Challenge) (op : Operation) :
    Change sha d now value op (d.after (attempt sha d now value op).writes).state := by
  cases op with
  | initializeSlot =>
    unfold attempt initializeSlot
    split_ifs with hsome
    · exact .same
    dsimp only
    split
    · exact .same
    unfold publishState removePrevious
    split_ifs with hv hprevious
    · exact .starts _ (by simpa using hsome) rfl hv
    · exact .starts _ (by simpa using hsome) rfl hv
    exact .same
  | activate slot digest =>
    unfold attempt activate
    dsimp only
    split
    · exact .same
    next s previous candidate hgrant =>
    unfold publishState
    split_ifs with hv
    · exact .activates slot digest s previous candidate rfl hgrant hv
    exact .same
  | recover =>
    unfold attempt recover
    dsimp only
    split
    · exact .same
    next s hs =>
    split
    · split_ifs with hpending
      · exact rollbackOrFail_change (s := s) hs hpending
      exact .same
    unfold removePrevious
    split
    · exact .same
    split_ifs <;> exact .same
  | observeReadiness r =>
    unfold attempt observeReadiness
    dsimp only
    split
    · exact .same
    next s hs =>
    split_ifs with hpending htime hvalid hproves
    · exact .same
    · exact .same
    · split
      · exact .same
      unfold publishState
      split_ifs with hv
      · exact .becomesReady s r rfl hs (not_not.mp hpending) htime hproves hv
      exact .same
    · exact .same
    exact rollbackOrFail_change (s := s) hs (not_not.mp hpending)
  | recordAgentFailure =>
    unfold attempt recordAgentFailure
    dsimp only
    split
    · exact .same
    next s hs =>
    split_ifs with hpending hlt hdone
    · exact .same
    · unfold publishState
      split_ifs with hv
      · exact .counts s hs (not_not.mp hpending) hlt hv
      exact .same
    · exact publishFailure_change hs (not_not.mp hpending) hdone
    exact rollbackOrFail_change hs (not_not.mp hpending)
  | checkDeadline =>
    unfold attempt checkDeadline
    dsimp only
    split
    · exact .same
    next s hs =>
    split_ifs with hpending htime
    · exact .same
    · exact .same
    exact rollbackOrFail_change (s := s) hs (not_not.mp hpending)

end Changes

/-! ### The life of an activation -/

def Activates (sha : Sha256) (d : Disk) : Event → Prop
  | .operation now value (.activate slot digest) =>
    (activate sha d now value slot digest).answer = .ok none
  | _ => False

/-- After an activation from `s` to `t₀` the new agent is still active, or was rolled back to the
one before. -/
def Episode (s t₀ : SupervisorState) (Schema : ℕ → Prop) (t : SupervisorState) : Prop :=
  (t.rollbackPerformed = false ∧ t.generation = t₀.generation ∧ t.activeSlot = t₀.activeSlot ∧
    t.activeArtifactSha256 = t₀.activeArtifactSha256 ∧ t.previousSlot = some s.activeSlot ∧
    t.previousArtifactSha256 = some s.activeArtifactSha256 ∧ t.stateSchema = t₀.stateSchema) ∨
  (t.rollbackPerformed = true ∧ t.generation = t₀.generation + 1 ∧ t.activeSlot = s.activeSlot ∧
    t.activeArtifactSha256 = s.activeArtifactSha256 ∧ Schema t.stateSchema)

section Episodes

variable {t₀ : SupervisorState} {Schema : ℕ → Prop}

lemma Change.episode (h : Change sha d now value op x) (hd : d.state = some t)
    (hno : ∀ slot digest, op = .activate slot digest →
      (activate sha d now value slot digest).answer ≠ .ok none)
    (hschema : ∀ claims, verifySlot d s.activeSlot (some s.activeArtifactSha256) = .ok claims →
      Schema claims.writesStateSchema)
    (hepisode : Episode s t₀ Schema t) : ∃ t', x = some t' ∧ Episode s t₀ Schema t' := by
  cases h with
  | same => exact ⟨t, hd, hepisode⟩
  | starts u hnone =>
    rw [hd] at hnone
    cases hnone
  | activates slot digest u previous candidate hop hgrant hv =>
    refine absurd ?_ (hno slot digest hop)
    simp only [activate, hgrant, publishState, if_pos hv, publishChallenge]
  | becomesReady _ _ _ hs | counts _ hs | fails _ _ _ hs =>
    cases eq_of_load hd hs
    exact ⟨_, rfl, hepisode⟩
  | rollsBack u slot digest previous reason hs hpending hnot hgrant =>
    cases eq_of_load hd hs
    refine ⟨_, rfl, .inr ?_⟩
    rcases hepisode with ⟨-, hgeneration, -, -, hslot, hdigest, -⟩ | ⟨hdone, -⟩
    · obtain ⟨hslot', hdigest', hverify, -⟩ := admitRollback_ok.mp hgrant
      rw [hslot] at hslot'
      rw [hdigest] at hdigest'
      cases hslot'
      cases hdigest'
      exact ⟨rfl, congrArg (· + 1) hgeneration, rfl, rfl, hschema previous hverify⟩
    rw [hnot] at hdone
    cases hdone

lemma episode_of_activates (h : (activate sha d now value slot digest).answer = .ok none) :
    ∃ s t₀ previous, d.state = some s ∧
      (d.after (activate sha d now value slot digest).writes).state = some t₀ ∧
      (d.after (activate sha d now value slot digest).writes).files = d.files ∧
      verifySlot d s.activeSlot (some s.activeArtifactSha256) = .ok previous ∧
      previous.Reads t₀.stateSchema ∧ t₀.generation = s.generation + 1 ∧
      t₀.activeSlot ≠ s.activeSlot ∧ t₀.status = .pending ∧
      ∀ Schema, Episode s t₀ Schema t₀ := by
  unfold activate at h ⊢
  split at h
  · cases h
  next s previous candidate hgrant =>
  obtain ⟨hload, -, hne, hprevious, -, hreads⟩ := admitActivation_ok hgrant
  unfold publishState at h ⊢
  split_ifs at h ⊢ with hv
  · obtain ⟨_, -, -, -, -, -, hdigest, -⟩ := verifySlot_ok.mp hprevious
    refine ⟨s, _, previous, (loadUnlocked_ok.mp hload).1, rfl, rfl, hprevious, hreads, rfl, hne,
      rfl, fun Schema => .inl ⟨rfl, rfl, rfl, rfl, rfl, ?_, rfl⟩⟩
    exact congrArg some (hdigest _ rfl).symm
  cases h

lemma episode_run (hd : d.state = some t) (hepisode : Episode s t₀ Schema t) {events : List Event}
    (hevents : Along (step sha) (fun d' e => ¬ Activates sha d' e ∧ ∀ claims,
      verifySlot d' s.activeSlot (some s.activeArtifactSha256) = .ok claims →
        Schema claims.writesStateSchema) d events) :
    ∃ t', (run (step sha) d events).state = some t' ∧ Episode s t₀ Schema t' := by
  refine @run_preserves_of_along _ _ _ _ (step sha) _
    (fun d' => ∃ t', d'.state = some t' ∧ Episode s t₀ Schema t') ?_ d events ⟨t, hd, hepisode⟩ hevents
  rintro d' e d'' a ⟨t', hstate, hep⟩ ⟨hno, hschema⟩ he
  cases e with
  | files =>
    cases he
    exact ⟨t', hstate, hep⟩
  | operation now value op =>
    cases he
    refine (attempt_change sha d' now value op).episode hstate ?_ hschema hep
    rintro slot digest rfl hanswer
    exact hno hanswer

end Episodes

lemma files_after (d : Disk) (writes : List Write) : (d.after writes).files = d.files := by
  induction writes generalizing d with
  | nil => rfl
  | cons w writes ih =>
    refine (ih (w.apply d)).trans ?_
    cases w <;> rfl

/-! ### Two slots -/

def ones : Challenge :=
  ⟨"1111111111111111111111111111111111111111111111111111111111111111", by decide +kernel⟩

def twos : Challenge :=
  ⟨"2222222222222222222222222222222222222222222222222222222222222222", by decide +kernel⟩

def twoHashes : Sha256 where
  digest value := if value = ones.1 then ones.1 else twos.1
  hex value := by
    split_ifs
    · exact ones.2
    exact twos.2

def twoSlots : List Event :=
  [.files fun slot => some { claims :=
      { slot, artifactSha256 := ones.1, writesStateSchema := 1, minReadableStateSchema := 1
        maxReadableStateSchema := 1 } },
    .operation 1 ones (.initializeSlot .a)]

def activation : Event := .operation 1 twos (.activate .b ones.1)

def failure (now : Int64) : Event := .operation now ones .recordAgentFailure

def twoActive : Disk := run (step twoHashes) {} twoSlots

/-- The disk when an activation of the second slot stops after so many writes. -/
def stopped (k : ℕ) : Disk :=
  twoActive.after ((activate twoHashes twoActive 1 twos .b ones.1).writes.take k)

def twoPending : Disk := commit (step twoHashes) twoActive activation

lemma commit_operation (sha : Sha256) (d : Disk) (now : Int64) (value : Challenge) (op : Operation) :
    commit (step sha) d (.operation now value op) = d.after (attempt sha d now value op).writes := rfl

lemma twoPending_eq : twoPending = run (step twoHashes) {} (twoSlots ++ [activation]) := by
  rw [run_append, run_cons, run_nil, twoPending, twoActive]

lemma activation_ok : (activate twoHashes twoActive 1 twos .b ones.1).answer = .ok none := by
  decide +kernel

lemma publishState_answer_ne {rest : List Write} {a : Option Transition} :
    (publishState s rest a).answer ≠ .error .invalidTransition := by
  unfold publishState
  split_ifs
  · exact nofun
  exact nofun

/-- A rollback is never refused for its schema while the files of the slot it goes back to are those
of the activation, and its agent reads the recorded schema. -/
theorem rollback_never_refused (sha : Sha256) (before after : List Event) (now : Int64)
    (value : Challenge) (slot : Slot) (digest : String) (d d' : Disk) (s t : SupervisorState)
    (hd : d = run (step sha) {} before) (hs : d.state = some s)
    (hactivates : Activates sha d (.operation now value (.activate slot digest)))
    (hafter : Along (step sha)
      (fun x e => ¬ Activates sha x e ∧ x.files s.activeSlot = d.files s.activeSlot)
      (commit (step sha) d (.operation now value (.activate slot digest))) after)
    (hd' : d' = run (step sha) {} (before ++ .operation now value (.activate slot digest) :: after))
    (hkept : d'.files s.activeSlot = d.files s.activeSlot) (ht : d'.state = some t) :
    (t.status = .pending → ∀ now' value' attempts reason,
      (rollbackOrFail sha d' now' value' { t with bootAttempts := attempts } reason).answer ≠
        .error .invalidTransition) ∧
    (t.status = .stable → t.rollbackPerformed = true →
      ∃ files, d'.files t.activeSlot = some files ∧ files.claims.Reads t.stateSchema) := by
  obtain ⟨s', t₀, previous, hs', ht₀, -, hprevious, hreads, -, -, -, hbegin⟩ :=
    episode_of_activates hactivates
  rw [hs] at hs'
  cases hs'
  rw [run_append, run_cons, ← hd] at hd'
  -- the slot verifies with the manifest of the activation as long as its files are those
  have hverify : ∀ (x : Disk) (claims : SlotManifestClaims),
      x.files s.activeSlot = d.files s.activeSlot →
      verifySlot x s.activeSlot (some s.activeArtifactSha256) = .ok claims → claims = previous := by
    intro x claims hsame hclaims
    obtain ⟨f, hf, rfl, -⟩ := verifySlot_ok.mp hclaims
    obtain ⟨f', hf', rfl, -⟩ := verifySlot_ok.mp hprevious
    rw [hsame, hf'] at hf
    cases hf
    rfl
  have hepisodes : Along (step sha) (fun x e => ¬ Activates sha x e ∧ ∀ claims,
      verifySlot x s.activeSlot (some s.activeArtifactSha256) = .ok claims →
        claims.writesStateSchema = previous.writesStateSchema)
      (commit (step sha) d (.operation now value (.activate slot digest))) after := by
    refine hafter.mono fun x e hx => ⟨hx.1, fun claims hclaims => ?_⟩
    rw [hverify x claims hx.2 hclaims]
  obtain ⟨t', ht', hepisode⟩ : ∃ t', d'.state = some t' ∧
      Episode s t₀ (· = previous.writesStateSchema) t' :=
    hd' ▸ episode_run ht₀ (hbegin _) hepisodes
  cases ht.symm.trans ht'
  have hprevious' : verifySlot d' s.activeSlot (some s.activeArtifactSha256) = .ok previous := by
    obtain ⟨f, hf, hrest⟩ := verifySlot_ok.mp hprevious
    exact verifySlot_ok.mpr ⟨f, hkept.trans hf, hrest⟩
  refine ⟨fun _ now' value' attempts reason => ?_, fun _ hdone => ?_⟩
  · unfold rollbackOrFail
    split_ifs with hdone
    · exact publishState_answer_ne
    rcases hepisode with ⟨-, -, -, -, hslot, hdigest, hschema⟩ | ⟨hdone', -⟩
    · have hgrant : admitRollback d' { t with bootAttempts := attempts } =
          .ok (s.activeSlot, s.activeArtifactSha256, previous) :=
        admitRollback_ok.mpr ⟨hslot, hdigest, hprevious', hschema ▸ hreads⟩
      rw [hgrant]
      exact publishState_answer_ne
    exact absurd hdone' hdone
  rcases hepisode with ⟨hno, -⟩ | ⟨-, -, hslot, -, hschema⟩
  · rw [hdone] at hno
    cases hno
  obtain ⟨f, hf, hclaims, -⟩ := verifySlot_ok.mp hprevious'
  refine ⟨f, hslot ▸ hf, ?_⟩
  rw [hclaims, hschema]
  exact (reads_of_verifySlot hprevious').1

lemma activation_pending : ∃ s t, twoActive.state = some s ∧ twoPending.state = some t ∧
    twoPending.files = twoActive.files ∧ t.status = .pending ∧ t.generation = s.generation + 1 := by
  obtain ⟨s, t, -, hs, ht, hfiles, -, -, hgeneration, -, hpending, -⟩ :=
    episode_of_activates activation_ok
  refine ⟨s, t, hs, ?_, ?_, hpending, hgeneration⟩
  · rw [twoPending, activation, commit_operation, attempt, ht]
  rw [twoPending, activation, commit_operation, attempt, hfiles]

theorem activation_rolls_back :
    ∃ t, twoPending.state = some t ∧ t.status = .pending ∧
      (rollbackOrFail twoHashes twoPending 3 ones t "agent-crash-loop").answer ≠
        .error .invalidTransition := by
  obtain ⟨s, t, hs, ht, hfiles, hpending, -⟩ := activation_pending
  exact ⟨t, ht, hpending, (rollback_never_refused twoHashes twoSlots [] 1 twos .b ones.1 twoActive
    twoPending s t rfl hs activation_ok trivial twoPending_eq (congrFun hfiles _) ht).1 hpending
      3 ones t.bootAttempts _⟩

section EveryRun

variable {d' : Disk}

lemma toNat_add_one {n : UInt64} (h : n + 1 ≠ 0) : (n + 1).toNat = n.toNat + 1 := by
  have hne : (n + 1).toNat ≠ 0 := fun h0 => h (UInt64.toNat_inj.mp h0)
  have hlt := n.toNat_lt
  rw [UInt64.toNat_add] at hne ⊢
  simp only [UInt64.reduceToNat] at hne ⊢
  omega

lemma generation_ne_of_validate (hv : s.validate = true) : s.generation ≠ 0 := by
  simp only [SupervisorState.validate, Bool.and_eq_true, decide_eq_true_eq] at hv
  exact hv.1.1.1.1.1.1.1.1.2

lemma Change.validate (h : Change sha d now value op x)
    (hd : ∀ s, d.state = some s → s.validate = true) : ∀ t, x = some t → t.validate = true := by
  intro t ht
  cases h with
  | same => exact hd t ht
  | starts _ _ _ hv | activates _ _ _ _ _ _ _ hv | becomesReady _ _ _ _ _ _ _ hv | counts _ _ _ _ hv
  | rollsBack _ _ _ _ _ _ _ _ _ hv | fails _ _ _ _ _ _ hv => exact Option.some.inj ht ▸ hv

lemma Change.moves (h : Change sha d now value op x) (hd : d.state = some s) (hx : x = some t) :
    (t.generation.toNat = s.generation.toNat + 1 ∧ t.activeSlot ≠ s.activeSlot ∨
      t.generation = s.generation ∧ t.activeSlot = s.activeSlot) ∧
    (s.status = .pending → t.status = .stable → ∃ r, op = .observeReadiness r ∧ Proves sha r s ∧
      now ≤ s.activationDeadline.getD 0) ∧
    (s.status = .failed → t = s) := by
  cases h with
  | same =>
    cases hd.symm.trans hx
    exact ⟨.inr ⟨rfl, rfl⟩, fun hp hs => (nomatch hp.symm.trans hs), fun _ => rfl⟩
  | starts _ hnone => exact nomatch hnone.symm.trans hd
  | activates slot digest u previous candidate hop hgrant hv =>
    obtain ⟨hs, hstable, hne, -⟩ := admitActivation_ok hgrant
    cases eq_of_load hd hs
    cases hx
    exact ⟨.inl ⟨toNat_add_one (generation_ne_of_validate hv), hne⟩, fun _ => nofun,
      fun hf => (nomatch hf.symm.trans hstable)⟩
  | becomesReady u r hop hs hpending htime hproves =>
    cases eq_of_load hd hs
    cases hx
    exact ⟨.inr ⟨rfl, rfl⟩, fun _ _ => ⟨r, hop, hproves, htime⟩,
      fun hf => (nomatch hf.symm.trans hpending)⟩
  | counts u hs hpending =>
    cases eq_of_load hd hs
    cases hx
    exact ⟨.inr ⟨rfl, rfl⟩, fun hp ht => (nomatch hp.symm.trans ht),
      fun hf => (nomatch hf.symm.trans hpending)⟩
  | fails u attempts reason hs hpending =>
    cases eq_of_load hd hs
    cases hx
    exact ⟨.inr ⟨rfl, rfl⟩, fun _ => nofun, fun hf => (nomatch hf.symm.trans hpending)⟩
  | rollsBack u slot digest previous reason hs hpending hno hgrant hv =>
    obtain ⟨hslot, -⟩ := admitRollback_ok.mp hgrant
    have hvalid := (loadUnlocked_ok.mp hs).2
    cases eq_of_load hd hs
    cases hx
    refine ⟨.inl ⟨toNat_add_one (generation_ne_of_validate hv), fun heq => ?_⟩,
      fun hp ht => (nomatch hp.symm.trans ht), fun hf => (nomatch hf.symm.trans hpending)⟩
    -- a valid state never names its active slot as the previous one
    change slot = s.activeSlot at heq
    simp [SupervisorState.validate, hslot, heq] at hvalid

/-- A pending agent has attempts left, and can be rolled back if it was not yet. -/
def Ready (d : Disk) : Prop :=
  ∀ s, d.state = some s → s.validate = true ∧ (s.status = .pending →
    s.bootAttempts < maxBootAttempts ∧
      (s.rollbackPerformed = false → ∃ a, admitRollback d s = .ok a))

/-- The files of the slots change only while no agent is pending, and a failure is recorded at a
time with a deadline after it, in a generation that has a next. -/
def Calm (d : Disk) : Event → Prop
  | .files _ => ∀ s ∈ d.state, s.status ≠ .pending
  | .operation now _ .recordAgentFailure =>
    ∀ s ∈ d.state, s.status = .pending → ¬ deadline now ≤ 0 ∧ s.generation + 1 ≠ 0
  | _ => True

instance (d : Disk) : ∀ e, Decidable (Calm d e)
  | .files _ => inferInstanceAs (Decidable (∀ s ∈ d.state, s.status ≠ .pending))
  | .operation now _ .recordAgentFailure => inferInstanceAs
      (Decidable (∀ s ∈ d.state, s.status = .pending → ¬ deadline now ≤ 0 ∧ s.generation + 1 ≠ 0))
  | .operation _ _ (.initializeSlot ..) | .operation _ _ (.activate ..) | .operation _ _ .recover
  | .operation _ _ (.observeReadiness _) | .operation _ _ .checkDeadline => .isTrue trivial

lemma Change.ready (h : Change sha d now value op d'.state) (hready : Ready d)
    (hfiles : d'.files = d.files) : Ready d' := by
  have hgrants : ∀ u, admitRollback d' u = admitRollback d u := by
    intro u
    unfold admitRollback verifySlot
    rw [hfiles]
  intro t ht
  refine ⟨h.validate (fun s hs => (hready s hs).1) t ht, fun hpending => ?_⟩
  rw [hgrants t]
  rw [ht] at h
  generalize hx : some t = x at h
  cases h with
  | same => exact (hready t hx.symm).2 hpending
  | starts _ _ hstable =>
    cases hx
    exact nomatch hstable.symm.trans hpending
  | activates slot digest u previous candidate hop hgrant =>
    cases hx
    obtain ⟨-, -, -, hprevious, -, hreads⟩ := admitActivation_ok hgrant
    exact ⟨(by decide : 0 < maxBootAttempts),
      fun _ => ⟨_, admitRollback_ok.mpr ⟨rfl, rfl, verifySlot_own hprevious, hreads⟩⟩⟩
  | becomesReady => cases hx; cases hpending
  | counts u hs hp hlt =>
    cases hx
    exact ⟨hlt, ((hready u (loadUnlocked_ok.mp hs).1).2 hp).2⟩
  | rollsBack =>
    cases hx
    exact ⟨(by decide : 0 < maxBootAttempts), nofun⟩
  | fails => cases hx; cases hpending

/-- The failures that a pending agent, and the one that it is rolled back to, can still have. -/
def budget (s : SupervisorState) : ℕ :=
  (if s.rollbackPerformed then maxBootAttempts else 2 * maxBootAttempts) - s.bootAttempts

lemma Change.spends (h : Change sha d now value op x) (hready : Ready d) (hd : d.state = some s)
    (hx : x = some t) (hpending : t.status = .pending) (hs : s.status = .pending) :
    t = s ∨ budget t < budget s := by
  cases h with
  | same => exact .inl (Option.mem_unique hx hd)
  | starts _ hnone => exact nomatch hnone.symm.trans hd
  | activates slot digest u previous candidate hop hgrant =>
    obtain ⟨hu, hstable, -⟩ := admitActivation_ok hgrant
    cases eq_of_load hd hu
    exact nomatch hstable.symm.trans hs
  | becomesReady | fails => cases hx; cases hpending
  | counts u hu hp hlt =>
    cases eq_of_load hd hu
    cases hx
    refine .inr ?_
    simp only [budget, maxBootAttempts] at hlt ⊢
    split_ifs <;> omega
  | rollsBack u slot digest previous reason hu hp hno =>
    cases eq_of_load hd hu
    cases hx
    have hlt := ((hready s hd).2 hs).1
    refine .inr ?_
    simp only [budget, rolledBack, hno, maxBootAttempts] at hlt ⊢
    simp only [Bool.false_eq_true, if_true, if_false]
    omega

lemma failure_changes (hready : Ready d) (hd : d.state = some s) (hs : s.status = .pending)
    (hcalm : Calm d (.operation now value .recordAgentFailure)) :
    (d.after (recordAgentFailure sha d now value).writes).state ≠ some s := by
  obtain ⟨hv, hpending⟩ := hready s hd
  obtain ⟨hattempts, hgrants⟩ := hpending hs
  obtain ⟨htime, hnext⟩ := hcalm s hd hs
  have hfields := hv
  simp only [SupervisorState.validate, hs, Bool.and_eq_true, decide_eq_true_eq] at hfields
  obtain ⟨⟨⟨⟨⟨⟨⟨⟨⟨hversion, -⟩, -⟩, hactive⟩, -⟩, -⟩, -⟩, hne⟩, -⟩, -⟩ := hfields
  unfold recordAgentFailure
  rw [loadUnlocked_ok.mpr ⟨hd, hv⟩]
  dsimp only
  rw [if_neg (not_not.mpr hs)]
  split_ifs with hlt hdone
  · -- the attempt is counted
    have hv' : SupervisorState.validate { s with bootAttempts := s.bootAttempts + 1 } = true := by
      simp only [SupervisorState.validate, hs, Bool.and_eq_true, decide_eq_true_eq] at hv ⊢
      exact ⟨⟨hv.1.1, hlt.le⟩, hv.2⟩
    unfold publishState
    rw [if_pos hv']
    intro heq
    have hcount := congrArg SupervisorState.bootAttempts (Option.some.inj heq)
    simp only at hcount
    omega
  · -- the agent that was rolled back to has failed
    have hv' : SupervisorState.validate
        { s with
          status := .failed, activationDeadline := none, bootAttempts := s.bootAttempts + 1
          reason := some "rollback-target-failed" } = true := by
      simp only [SupervisorState.validate, hs, Bool.and_eq_true, decide_eq_true_eq] at hv ⊢
      exact ⟨⟨hv.1.1, hattempts⟩, rfl⟩
    unfold publishFailure publishState
    rw [if_pos hv']
    intro heq
    exact nomatch hs.symm.trans (congrArg SupervisorState.status (Option.some.inj heq)).symm
  -- the rollback is admitted, and its state is a valid one
  obtain ⟨⟨slot, digest, previous⟩, hgrant⟩ := hgrants (by simpa using hdone)
  obtain ⟨hslot, hdigest, hverify, -⟩ := admitRollback_ok.mp hgrant
  obtain ⟨-, hwrites⟩ := reads_of_verifySlot hverify
  obtain ⟨_, -, -, -, -, hmanifest, heq, -⟩ := verifySlot_ok.mp hverify
  have hhex : lowerHex digest 64 = true := by
    rw [heq digest rfl]
    simp only [SlotManifestClaims.validate, Bool.and_eq_true] at hmanifest
    exact hmanifest.1.1.1.1.1.1.2
  have hv' : (rolledBack sha now value { s with bootAttempts := s.bootAttempts + 1 } slot digest
      previous "agent-crash-loop").validate = true := by
    rw [hslot] at hne
    simp only [SupervisorState.validate, rolledBack, hs, Bool.and_eq_true, decide_eq_true_eq]
    refine ⟨⟨⟨⟨⟨⟨⟨⟨⟨hversion, hnext⟩, hwrites⟩, hhex⟩, sha.hex _⟩, hactive⟩, rfl⟩, ?_⟩, by simp⟩,
      by simpa using htime⟩
    exact fun hsome => hne (hsome.symm)
  have hgrant' : admitRollback d { s with bootAttempts := s.bootAttempts + 1 } =
      .ok (slot, digest, previous) := hgrant
  unfold rollbackOrFail
  rw [if_neg hdone, hgrant']
  dsimp only
  unfold publishChallenge publishState
  rw [if_pos hv']
  intro hsome
  exact hdone (congrArg SupervisorState.rollbackPerformed (Option.some.inj hsome)).symm

def Event.isFailure : Event → Bool
  | .operation _ _ .recordAgentFailure => true
  | _ => false

def Pending (d : Disk) : Prop := d.state.map (·.status) = some .pending

instance (d : Disk) : Decidable (Pending d) := inferInstanceAs (Decidable (_ = _))

lemma ready_step (sha : Sha256) {e : Event} (hready : Ready d) (hcalm : Calm d e) :
    Ready (commit (step sha) d e) := by
  cases e with
  | files =>
    intro s hs
    exact ⟨(hready s hs).1, fun hpending => absurd hpending (hcalm s hs)⟩
  | operation now value op => exact (attempt_change sha d now value op).ready hready (files_after d _)

lemma failures_le {events : List Event} (hready : Ready d) (hd : d.state = some s)
    (hcalm : Along (step sha) Calm d events) (hpending : Along (step sha) (fun x _ => Pending x) d events) :
    events.countP Event.isFailure ≤ budget s := by
  induction events generalizing d s with
  | nil => exact Nat.zero_le _
  | cons e events ih =>
    obtain ⟨hp, hlater⟩ := hpending
    obtain ⟨s', hs', hs⟩ := Option.map_eq_some_iff.mp hp
    cases hd.symm.trans hs'
    have hattempts := ((hready s hd).2 hs).1
    have hnext := ready_step sha hready hcalm.1
    cases events with
    | nil =>
      -- the last event of the run: one failure is always within the budget
      have hone : 1 ≤ budget s := by
        simp only [budget, maxBootAttempts] at hattempts ⊢
        split_ifs <;> omega
      exact (List.countP_le_length).trans hone
    | cons =>
      obtain ⟨t, ht, htp⟩ := Option.map_eq_some_iff.mp hlater.1
      have hrest := ih hnext ht hcalm.2 hlater
      rw [List.countP_cons]
      cases e with
      | files =>
        cases hd.symm.trans ht
        exact hrest
      | operation now value op =>
        rcases (attempt_change sha d now value op).spends hready hd ht htp hs with rfl | hlt
        · -- nothing changed, so that the event was not a failure
          cases op with
          | recordAgentFailure => exact absurd ht (failure_changes hready hd hs hcalm.1)
          | _ => exact hrest
        have hle : (if (Event.operation now value op).isFailure = true then 1 else 0) ≤ 1 := by
          split_ifs <;> decide
        omega

end EveryRun

/-- The generation `t` is as many switches after `s` as the generations differ by. -/
structure Follows (s t : SupervisorState) : Prop where
  generation : s.generation.toNat ≤ t.generation.toNat
  slot : t.activeSlot = s.activeSlot ↔ Even (t.generation.toNat - s.generation.toNat)

lemma Change.follows (h : Change sha d now value op x) (hd : d.state = some t) (hs : Follows s t) :
    ∃ t', x = some t' ∧ Follows s t' := by
  have hsome : ∃ t', x = some t' := by
    cases h with
    | same => exact ⟨t, hd⟩
    | _ => exact ⟨_, rfl⟩
  obtain ⟨t', rfl⟩ := hsome
  obtain ⟨hle, hslot⟩ := hs
  refine ⟨t', rfl, ?_⟩
  rcases (h.moves hd rfl).1 with ⟨hg, hne⟩ | ⟨hg, heq⟩
  · refine ⟨by omega, ?_⟩
    rw [hg, Nat.sub_add_comm hle, Nat.even_add_one, ← hslot]
    revert hne
    generalize t'.activeSlot = x, t.activeSlot = y, s.activeSlot = z
    cases x <;> cases y <;> cases z <;> simp
  rw [← hg] at hle hslot
  exact ⟨hle, heq ▸ hslot⟩

/-! ### Crashes -/

/-- An event that runs to its end, or an operation that a crash stops after its first `k` durable
writes. -/
inductive CrashEvent
  | event (e : Event)
  | crash (now : Int64) (value : Challenge) (op : Operation) (k : ℕ)

def crashStep (sha : Sha256) (d : Disk) :
    CrashEvent → Except SupervisorError (Disk × Except SupervisorError (Option Transition))
  | .event e => step sha d e
  | .crash now value op k => .ok (d.after ((attempt sha d now value op).writes.take k), .ok none)

def Write.isState : Write → Bool
  | .state _ => true
  | _ => false

section Crashes

variable {a : Attempt} {answer : Option Transition} {writes rest : List Write}

lemma state_after_eq (hnone : writes.countP Write.isState = 0) :
    (d.after writes).state = d.state := by
  induction writes generalizing d with
  | nil => rfl
  | cons w writes ih =>
    rw [List.countP_cons] at hnone
    refine (ih (by omega)).trans ?_
    cases w with
    | state => simp [Write.isState] at hnone
    | _ => rfl

/-- With one write of the state at most, a crash leaves the old state or the new one. -/
theorem state_after_take (honce : writes.countP Write.isState ≤ 1) (k : ℕ) :
    (d.after (writes.take k)).state = d.state ∨
      (d.after (writes.take k)).state = (d.after writes).state := by
  induction writes generalizing d k with
  | nil => exact .inl (by rw [List.take_nil]; rfl)
  | cons w writes ih =>
    cases k with
    | zero => exact .inl rfl
    | succ k =>
      rw [List.take_succ_cons]
      rw [List.countP_cons] at honce
      cases w with
      | state t =>
        have hrest : writes.countP Write.isState = 0 := by
          simp only [Write.isState, if_true] at honce
          omega
        have htake : (writes.take k).countP Write.isState = 0 :=
          Nat.eq_zero_of_le_zero (hrest ▸ (List.take_sublist k writes).countP_le)
        exact .inr ((state_after_eq htake).trans (state_after_eq hrest).symm)
      | _ => exact ih (d := Write.apply d _) honce k

lemma publishState_once (hrest : rest.countP Write.isState = 0) :
    (publishState s rest answer).writes.countP Write.isState ≤ 1 := by
  unfold publishState
  split
  · rw [List.countP_cons, hrest]
    exact le_rfl
  exact Nat.zero_le 1

lemma publishChallenge_once (h : a.writes.countP Write.isState ≤ 1) :
    (publishChallenge value a).writes.countP Write.isState ≤ 1 := by
  simpa [publishChallenge, Write.isState] using h

lemma removePrevious_countP : (removePrevious d).countP Write.isState = 0 := by
  unfold removePrevious
  split <;> rfl

lemma rollbackOrFail_once :
    (rollbackOrFail sha d now value s reason).writes.countP Write.isState ≤ 1 := by
  unfold rollbackOrFail
  split
  · exact publishState_once rfl
  split
  · exact Nat.zero_le 1
  exact publishChallenge_once (publishState_once rfl)

lemma attempt_once (sha : Sha256) (d : Disk) (now : Int64) (value : Challenge) (op : Operation) :
    (attempt sha d now value op).writes.countP Write.isState ≤ 1 := by
  cases op with
  | initializeSlot =>
    unfold attempt initializeSlot
    dsimp only
    split
    · exact Nat.zero_le 1
    split
    · exact Nat.zero_le 1
    refine publishChallenge_once (publishState_once ?_)
    simpa [Write.isState] using @removePrevious_countP d
  | activate =>
    unfold attempt activate
    dsimp only
    split
    · exact Nat.zero_le 1
    exact publishChallenge_once (publishState_once rfl)
  | recover =>
    unfold attempt recover
    dsimp only
    split
    · exact Nat.zero_le 1
    split
    · split
      · exact rollbackOrFail_once
      exact Nat.zero_le 1
    split
    · exact Nat.zero_le 1
    simp [Write.isState, removePrevious_countP]
  | observeReadiness =>
    unfold attempt observeReadiness
    dsimp only
    split
    · exact Nat.zero_le 1
    split_ifs
    · exact Nat.zero_le 1
    · exact Nat.zero_le 1
    · split
      · exact Nat.zero_le 1
      exact publishState_once rfl
    · exact Nat.zero_le 1
    exact rollbackOrFail_once
  | recordAgentFailure =>
    unfold attempt recordAgentFailure
    dsimp only
    split
    · exact Nat.zero_le 1
    split_ifs
    · exact Nat.zero_le 1
    · exact publishState_once rfl
    · exact publishState_once rfl
    exact rollbackOrFail_once
  | checkDeadline =>
    unfold attempt checkDeadline
    dsimp only
    split
    · exact Nat.zero_le 1
    split_ifs
    · exact Nat.zero_le 1
    · exact Nat.zero_le 1
    exact rollbackOrFail_once

end Crashes

/-- Over every run, with crashes after any durable write, the generation never decreases, and its
parity tells which slot is active. -/
theorem slot_of_generation (sha : Sha256) (before after : List CrashEvent) :
    (run (crashStep sha) {} before).state = none ∨
    ∃ s t, (run (crashStep sha) {} before).state = some s ∧
      (run (crashStep sha) {} (before ++ after)).state = some t ∧ Follows s t := by
  rw [run_append]
  cases hs : (run (crashStep sha) {} before).state with
  | none => exact .inl rfl
  | some s =>
    have hrun := @run_preserves _ _ _ _ (crashStep sha) (fun d => ∃ t, d.state = some t ∧ Follows s t)
      ?_ _ ⟨s, hs, le_rfl, by simp⟩ after
    · obtain ⟨t, ht, hfollows⟩ := hrun
      exact .inr ⟨s, t, rfl, ht, hfollows⟩
    rintro d e d' a ⟨t, ht, hfollows⟩ he
    cases e with
    | event e =>
      cases e with
      | files files =>
        cases he
        exact ⟨t, ht, hfollows⟩
      | operation now value op =>
        cases he
        exact (attempt_change sha d now value op).follows ht hfollows
    | crash now value op k =>
      cases he
      rcases @state_after_take d _ (attempt_once sha d now value op) k with hold | hnew
      · exact ⟨t, hold.trans ht, hfollows⟩
      rw [hnew]
      exact (attempt_change sha d now value op).follows ht hfollows

/-- The machine of the slots over every run; under `Calm` two agents fail three times at most. -/
theorem slot_machine (sha : Sha256) (events : List Event) (d : Disk)
    (hd : d = run (step sha) {} events) :
    (∀ s, d.state = some s → s.validate = true) ∧
    (∀ now value op s t, d.state = some s →
      (commit (step sha) d (.operation now value op)).state = some t →
      (t.generation.toNat = s.generation.toNat + 1 ∧ t.activeSlot ≠ s.activeSlot ∨
        t.generation = s.generation ∧ t.activeSlot = s.activeSlot) ∧
      (s.status = .pending → t.status = .stable → ∃ r, op = .observeReadiness r ∧ Proves sha r s ∧
        now ≤ s.activationDeadline.getD 0) ∧
      (s.status = .failed → t = s)) ∧
    (∀ e after s, d.state = some s → Activates sha d e →
      Along (step sha) (fun x e => ¬ Activates sha x e) (commit (step sha) d e) after →
      ∃ t₀ t, (commit (step sha) d e).state = some t₀ ∧
        (run (step sha) (commit (step sha) d e) after).state = some t ∧
        Episode s t₀ (fun _ => True) t) ∧
    (∀ pending, Along (step sha) Calm {} (events ++ pending) →
      Along (step sha) (fun x _ => Pending x) d pending →
      pending.countP Event.isFailure ≤ 2 * maxBootAttempts) := by
  subst hd
  refine ⟨?_, fun now value op s t hs ht => (attempt_change sha _ now value op).moves hs ht, ?_, ?_⟩
  · let Inv : Disk → Prop := fun x => ∀ s, x.state = some s → s.validate = true
    have hstep : ∀ (x : Disk) (e : Event) (y : Disk) (a : Except SupervisorError (Option Transition)),
        Inv x → step sha x e = .ok (y, a) → Inv y := by
      intro x e y a hx he
      cases e with
      | files files =>
        cases he
        exact hx
      | operation now value op =>
        cases he
        exact (attempt_change sha x now value op).validate hx
    exact run_preserves hstep (fun _ hs => by cases hs) events
  · intro e after s hs hactivates hafter
    cases e with
    | files => cases hactivates
    | operation now value op =>
      cases op with
      | initializeSlot | recover | observeReadiness | recordAgentFailure | checkDeadline =>
        cases hactivates
      | activate slot digest =>
      obtain ⟨s', t₀, -, hs', ht₀, -, -, -, -, -, -, hbegin⟩ := episode_of_activates hactivates
      cases hs.symm.trans hs'
      obtain ⟨t, ht, hepisode⟩ := episode_run ht₀ (hbegin fun _ => True)
        (hafter.mono fun x e hx => ⟨hx, fun _ _ => trivial⟩)
      exact ⟨t₀, t, ht₀, ht, hepisode⟩
  intro pending hcalm hpending
  rw [along_append] at hcalm
  have hready : Ready (run (step sha) {} events) := by
    have hstep : ∀ (x : Disk) (e : Event) (y : Disk)
        (a : Except SupervisorError (Option Transition)),
        Ready x → Calm x e → step sha x e = .ok (y, a) → Ready y := by
      intro x e y a hx he hy
      have hnext := ready_step sha hx he
      rw [commit, hy] at hnext
      exact hnext
    exact run_preserves_of_along hstep (fun _ hs => by cases hs) hcalm.1
  cases pending with
  | nil => exact Nat.zero_le _
  | cons e pending =>
    obtain ⟨s, hs, -⟩ := Option.map_eq_some_iff.mp hpending.1
    refine (failures_le hready hs hcalm.2 hpending).trans ?_
    unfold budget
    split_ifs <;> simp only [maxBootAttempts] <;> omega

/-- Six failures, the fourth to sixth of them after a rollback. -/
theorem failure_within_budget :
    Along (step twoHashes) (fun x _ => Pending x) twoPending (List.replicate 6 (failure 2)) ∧
    (List.replicate 6 (failure 2)).countP Event.isFailure ≤ 2 * maxBootAttempts := by
  have hpending : Along (step twoHashes) (fun x _ => Pending x) twoPending
      (List.replicate 6 (failure 2)) := by decide +kernel
  refine ⟨hpending, (slot_machine twoHashes (twoSlots ++ [activation]) twoPending
    twoPending_eq).2.2.2 _ ?_ hpending⟩
  decide +kernel

/-- At a time before 1970 the third failure starts no rollback, and so does none after it. -/
theorem rollback_refused_by_clock :
    Along (step twoHashes) (fun x _ => Pending x) twoPending (List.replicate 7 (failure (-200))) ∧
    ¬ (List.replicate 7 (failure (-200))).countP Event.isFailure ≤ 2 * maxBootAttempts := by
  decide +kernel

/-! ### Crashes -/

/-- What a supervisor needs to go on: `recover` succeeds, and leaves a state, the challenge that the
state names, and pointers to its slots. -/
def Resumes (sha : Sha256) (d : Disk) (now : Int64) (value : Challenge) : Prop :=
  (∃ answer, (recover sha d now value).answer = .ok answer) ∧
    ∃ s, (d.after (recover sha d now value).writes).state = some s ∧
      (d.after (recover sha d now value).writes).challenge.map (sha.digest ·.1) =
        some s.challengeSha256 ∧
      (d.after (recover sha d now value).writes).current = some s.activeSlot ∧
      (d.after (recover sha d now value).writes).previous = s.previousSlot

section Crashes

lemma after_pointers (d : Disk) (slot : Slot) (previous : Option Slot) {writes : List Write}
    (hwrites : writes = .current slot :: (match previous with
      | some slot => [.previous (some slot)]
      | none => removePrevious d)) :
    (d.after writes).state = d.state ∧ (d.after writes).challenge = d.challenge ∧
      (d.after writes).current = some slot ∧ (d.after writes).previous = previous := by
  subst hwrites
  cases previous with
  | some => exact ⟨rfl, rfl, rfl, rfl⟩
  | none =>
    unfold removePrevious
    split_ifs with hsome
    · exact ⟨rfl, rfl, rfl, rfl⟩
    exact ⟨rfl, rfl, rfl, Option.not_isSome_iff_eq_none.mp hsome⟩

lemma resumes_verified (hs : loadUnlocked d = .ok s)
    (hverify : verifySlot d s.activeSlot (some s.activeArtifactSha256) = .ok claims) :
    Resumes sha d now value ↔ d.challenge.map (sha.digest ·.1) = some s.challengeSha256 := by
  have hstate := (loadUnlocked_ok.mp hs).1
  unfold Resumes recover
  rw [hs]
  dsimp only
  rw [hverify]
  generalize hwrites : Write.current s.activeSlot :: _ = writes
  obtain ⟨hst, hch, hcu, hpr⟩ := after_pointers d s.activeSlot s.previousSlot hwrites.symm
  rw [hst, hch, hcu, hpr]
  constructor
  · rintro ⟨-, t, ht, hc, -⟩
    cases hstate.symm.trans ht
    exact hc
  intro hc
  exact ⟨⟨_, rfl⟩, s, hstate, hc, rfl, rfl⟩

lemma resumes_unverified {e : SupervisorError} (hs : loadUnlocked d = .ok s)
    (hverify : verifySlot d s.activeSlot (some s.activeArtifactSha256) = .error e) :
    Resumes sha d now value ↔ (recover sha d now value).answer = .ok (some .rollbackStarted) ∨
      s.status = .pending ∧ s.rollbackPerformed = true ∧
        d.challenge.map (sha.digest ·.1) = some s.challengeSha256 ∧
        d.current = some s.activeSlot ∧ d.previous = s.previousSlot := by
  obtain ⟨hstate, hv⟩ := loadUnlocked_ok.mp hs
  unfold Resumes recover
  rw [hs]
  dsimp only
  rw [hverify]
  dsimp only
  by_cases hpending : s.status = .pending
  · unfold rollbackOrFail
    split_ifs with hdone
    · have hv' : SupervisorState.validate
          { s with
            status := .failed, activationDeadline := none
            reason := some "active-slot-invalid" } = true := by
        simp only [SupervisorState.validate, hpending, Bool.and_eq_true] at hv ⊢
        exact ⟨hv.1, rfl⟩
      unfold publishFailure publishState
      rw [if_pos hv']
      constructor
      · rintro ⟨-, t, ht, hc, hcu, hpr⟩
        cases ht
        exact .inr ⟨hpending, hdone, hc, hcu, hpr⟩
      rintro (h | ⟨-, -, hc, hcu, hpr⟩)
      · cases h
      exact ⟨⟨_, rfl⟩, _, rfl, hc, hcu, hpr⟩
    split
    · constructor
      · rintro ⟨⟨_, h⟩, -⟩
        cases h
      rintro (h | ⟨-, h, -⟩)
      · cases h
      exact absurd h hdone
    unfold publishState
    split_ifs with hv'
    · exact ⟨fun _ => .inl rfl, fun _ => ⟨⟨_, rfl⟩, _, rfl, rfl, rfl, rfl⟩⟩
    constructor
    · rintro ⟨⟨_, h⟩, -⟩
      cases h
    rintro (h | ⟨-, h, -⟩)
    · cases h
    exact absurd h hdone
  rw [if_neg hpending]
  constructor
  · rintro ⟨⟨_, h⟩, -⟩
    cases h
  rintro (h | ⟨h, -⟩)
  · cases h
  exact absurd h hpending

lemma publishes_state {a : Attempt} {slot : Slot} {digest reason : String}
    (ha : a = initializeSlot sha d value slot ∨ a = activate sha d now value slot digest ∨
      a = rollbackOrFail sha d now value s reason)
    (hchallenge : .challenge value ∈ a.writes) :
    a.writes = [.challenge value] ∨ ∃ t claims rest, a.writes = .challenge value :: .state t :: rest ∧
      t.validate = true ∧ t.challengeSha256 = sha.digest value.1 ∧
      verifySlot d t.activeSlot (some t.activeArtifactSha256) = .ok claims ∧
      ∀ n, (d.after (.challenge value :: .state t :: rest.take n)).state = some t ∧
        (d.after (.challenge value :: .state t :: rest.take n)).challenge = some value := by
  rcases ha with rfl | rfl | rfl
  · unfold initializeSlot at hchallenge ⊢
    split_ifs at hchallenge ⊢
    · simp [Attempt.refuse] at hchallenge
    split at hchallenge
    · simp [Attempt.refuse] at hchallenge
    next manifest hverify =>
    unfold publishChallenge publishState removePrevious
    split_ifs with hv hprevious
    · refine .inr ⟨_, manifest, _, rfl, hv, rfl, verifySlot_own hverify, fun n => ?_⟩
      rcases n with _ | _ | _ | n <;> exact ⟨rfl, rfl⟩
    · refine .inr ⟨_, manifest, _, rfl, hv, rfl, verifySlot_own hverify, fun n => ?_⟩
      rcases n with _ | _ | n <;> exact ⟨rfl, rfl⟩
    exact .inl rfl
  · unfold activate at hchallenge ⊢
    split at hchallenge
    · simp [Attempt.refuse] at hchallenge
    next u previous candidate hgrant =>
    obtain ⟨-, -, -, -, hcandidate, -⟩ := admitActivation_ok hgrant
    unfold publishChallenge publishState
    split_ifs with hv
    · refine .inr ⟨_, candidate, _, rfl, hv, rfl, verifySlot_own hcandidate, fun n => ?_⟩
      rcases n with _ | _ | _ | n <;> exact ⟨rfl, rfl⟩
    exact .inl rfl
  unfold rollbackOrFail at hchallenge ⊢
  split_ifs at hchallenge ⊢
  · unfold publishFailure publishState at hchallenge
    split_ifs at hchallenge <;> simp [Attempt.refuse] at hchallenge
  split at hchallenge
  · simp [Attempt.refuse] at hchallenge
  next slot digest previous hgrant =>
  obtain ⟨-, -, hverify, -⟩ := admitRollback_ok.mp hgrant
  unfold publishChallenge publishState
  split_ifs with hv
  · refine .inr ⟨_, previous, _, rfl, hv, rfl, hverify, fun n => ?_⟩
    rcases n with _ | _ | _ | _ | n <;> exact ⟨rfl, rfl⟩
  exact .inl rfl

/-- The state of before can be taken up under the new challenge: it is rolled back at once, or it
names that challenge by chance. -/
def Salvaged (sha : Sha256) (d : Disk) (value : Challenge) (later : Int64) (fresh : Challenge) : Prop :=
  (recover sha d later fresh).answer = .ok (some .rollbackStarted) ∨
    ∃ t, loadUnlocked d = .ok t ∧ sha.digest value.1 = t.challengeSha256 ∧
      ((∃ claims, verifySlot d t.activeSlot (some t.activeArtifactSha256) = .ok claims) ∨
        t.status = .pending ∧ t.rollbackPerformed = true ∧ d.current = some t.activeSlot ∧
          d.previous = t.previousSlot)

lemma resumes_challenge (later : Int64) (fresh : Challenge) :
    Resumes sha (d.after [.challenge value]) later fresh ↔ Salvaged sha d value later fresh := by
  have hload : loadUnlocked (d.after [.challenge value]) = loadUnlocked d := rfl
  have hverifies : verifySlot (d.after [.challenge value]) = verifySlot d := rfl
  have hrecover : recover sha (d.after [.challenge value]) later fresh =
      recover sha d later fresh := rfl
  unfold Salvaged
  cases ht : loadUnlocked d with
  | error e =>
    have hanswer : (recover sha d later fresh).answer = .error e := by
      unfold recover
      rw [ht]
      rfl
    refine iff_of_false (fun ⟨⟨_, h⟩, _⟩ => ?_) ?_
    · rw [hrecover, hanswer] at h
      cases h
    rintro (h | ⟨_, h, -⟩)
    · rw [hanswer] at h
      cases h
    cases h
  | ok t =>
    cases hverify : verifySlot d t.activeSlot (some t.activeArtifactSha256) with
    | ok claims =>
      rw [resumes_verified (hload.trans ht) (by rw [hverifies]; exact hverify)]
      have hanswer : (recover sha d later fresh).answer ≠ .ok (some .rollbackStarted) := by
        unfold recover
        rw [ht]
        dsimp only
        rw [hverify]
        cases t.status <;> simp
      constructor
      · intro h
        exact .inr ⟨t, rfl, Option.some.inj h, .inl ⟨claims, hverify⟩⟩
      rintro (h | ⟨_, ⟨⟩, h, -⟩)
      · exact absurd h hanswer
      exact congrArg some h
    | error =>
      rw [resumes_unverified (hload.trans ht) (by rw [hverifies]; exact hverify), hrecover]
      refine or_congr_right ⟨?_, ?_⟩
      · rintro ⟨hp, hdone, hc, hrest⟩
        exact ⟨t, rfl, Option.some.inj hc, .inr ⟨hp, hdone, hrest⟩⟩
      rintro ⟨_, ⟨⟩, hc, ⟨claims, h⟩ | ⟨hp, hdone, hrest⟩⟩
      · rw [hverify] at h
        cases h
      exact ⟨hp, hdone, congrArg some hc, hrest⟩

/-- After a crash in `initialize`, `activate` or a rollback, with the slots' files as they were, a
supervisor goes on exactly when the state was written, or the one before is salvaged. -/
theorem resumes_after_crash (sha : Sha256) (d : Disk) (now later : Int64) (value fresh : Challenge)
    (a : Attempt) (slot : Slot) (digest reason : String) (s : SupervisorState) (k : ℕ)
    (ha : a = initializeSlot sha d value slot ∨ a = activate sha d now value slot digest ∨
      a = rollbackOrFail sha d now value s reason)
    (hchallenge : .challenge value ∈ a.writes) (hk : 0 < k) :
    Resumes sha (d.after (a.writes.take k)) later fresh ↔
      (∃ t, .state t ∈ a.writes.take k) ∨ Salvaged sha d value later fresh := by
  have honly : (∃ t, Write.state t ∈ [Write.challenge value]) ↔ False := by simp
  rcases publishes_state ha hchallenge with hwrites | ⟨t, claims, rest, hwrites, hv, hc, hverify, hafter⟩
  · obtain ⟨n, rfl⟩ := Nat.exists_eq_add_of_lt hk
    rw [hwrites, List.take_of_length_le (by simp), honly, false_or]
    exact resumes_challenge later fresh
  match k, hk with
  | 1, _ =>
    rw [hwrites, List.take_succ_cons, List.take_zero, honly, false_or]
    exact resumes_challenge later fresh
  | n + 2, _ =>
    rw [hwrites, List.take_succ_cons, List.take_succ_cons]
    obtain ⟨hstate, hvalue⟩ := hafter n
    -- the state that was written names the challenge, and its slot is the one that was verified
    have hslot : verifySlot (d.after (.challenge value :: .state t :: rest.take n)) t.activeSlot
        (some t.activeArtifactSha256) = .ok claims := by
      unfold verifySlot at hverify ⊢
      rw [files_after]
      exact hverify
    refine iff_of_true ?_ (.inl ⟨t, by simp⟩)
    rw [resumes_verified (loadUnlocked_ok.mpr ⟨hstate, hv⟩) hslot, hvalue, hc]
    rfl

lemma activate_writes (h : (activate sha d now value slot digest).answer = .ok none) :
    ∃ t rest, (activate sha d now value slot digest).writes =
      .challenge value :: .state t :: rest := by
  unfold activate at h ⊢
  split at h
  · cases h
  unfold publishState at h ⊢
  split_ifs at h ⊢
  · exact ⟨_, _, rfl⟩
  cases h

end Crashes

theorem activation_resumes : Resumes twoHashes (stopped 2) 2 ones := by
  obtain ⟨t, rest, hwrites⟩ := activate_writes activation_ok
  exact (resumes_after_crash twoHashes twoActive 1 2 twos ones _ .b ones.1 "" t 2 (.inr (.inl rfl))
    (by rw [hwrites]; simp) (by decide)).mpr (.inl ⟨t, by rw [hwrites]; simp⟩)

/-- An activation that stops between the challenge and the state: the state of before names the old
challenge, and the supervisor does not go on. -/
theorem crash_between_challenge_and_state :
    (activate twoHashes twoActive 1 twos .b ones.1).answer = .ok none ∧
      ¬ Resumes twoHashes (stopped 1) 2 ones := by
  refine ⟨activation_ok, fun ⟨_, s, hs, hc, _⟩ => ?_⟩
  have hne : ((stopped 1).after (recover twoHashes (stopped 1) 2 ones).writes).challenge.map
      (twoHashes.digest ·.1) ≠ ((stopped 1).after (recover twoHashes (stopped 1) 2 ones).writes).state.map
        (·.challengeSha256) := by decide +kernel
  rw [hs] at hne
  exact hne hc

end VonkForge.AgentSlots
