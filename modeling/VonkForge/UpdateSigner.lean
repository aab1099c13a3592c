import VonkForge.UpdateAuthorizations

/-!
# The update signer

The dedicated signer checks the control release, the administrator's grant, and the target of an
update against that release.
-/

namespace VonkForge.UpdateSigner

open AgentJobs

inductive SignerError
  | upgradeConflict (text : String)
  | updateAuthorization (text : String)

/-- A release as it is parsed from its target: its digest, its identity, the images of the control
plane, and the payloads of the agents that it publishes. -/
structure PlatformRelease where
  (digest buildDigest : Digest)
  platformVersion : PlatformVersion
  (deploymentBundleDigest apiImage workerImage : Digest)
  databaseRevision : ℕ
  payloads : List NodePayload
  deriving DecidableEq

structure TargetFile where
  sha256 : Digest
  release : PlatformRelease

structure Publication where
  version : ℕ
  target : TargetName → Option TargetFile

structure SelectedGeneration where
  platformTargetName : TargetName
  platformTargetSha256 : Digest
  tufTargetsVersion : ℕ
  (releaseDigest buildDigest : Digest)
  platformVersion : PlatformVersion
  (deploymentBundleDigest apiImage workerImage : Digest)
  databaseRevision : ℕ

structure SignerRunningIdentity where
  (releaseDigest buildDigest : Digest)
  platformVersion : PlatformVersion
  processImage : Digest

/-- What the signer reads: the projection, the publication, its identity, the key of the grants, and
digests. -/
structure Signer where
  selected : Option SelectedGeneration
  publication : Publication
  running : SignerRunningIdentity
  keyId : Digest
  verify : GrantClaims → ℕ → Bool
  payloadDigest : UpdateReceipt → Option NodePayload → Digest

def refresh (p : Publication) (name : TargetName) : Except SignerError (TargetFile × ℕ) :=
  match p.target name with
  | none => .error (.updateAuthorization "platform TUF authorization failed")
  | some file =>
    if p.version < 1 ∨ 2147483647 < p.version then
      .error (.updateAuthorization "platform TUF targets version is invalid")
    else if name.digest ≠ file.sha256 then
      .error (.updateAuthorization "platform TUF target name digest is invalid")
    else .ok (file, p.version)

def targetIdentityValid (release : PlatformRelease) (name : TargetName) (sha256 : Digest) : Bool :=
  name.platformVersion = release.platformVersion && name.digest = sha256

def projectionAgrees (g : SelectedGeneration) (file : TargetFile) (version : ℕ) : Bool :=
  g.platformTargetSha256 = file.sha256 && g.tufTargetsVersion = version &&
    g.releaseDigest = file.release.digest && g.buildDigest = file.release.buildDigest &&
    g.platformVersion = file.release.platformVersion &&
    g.deploymentBundleDigest = file.release.deploymentBundleDigest &&
    g.apiImage = file.release.apiImage && g.workerImage = file.release.workerImage &&
    g.databaseRevision = file.release.databaseRevision

def runningAgrees (r : SignerRunningIdentity) (g : SelectedGeneration) : Bool :=
  r.releaseDigest = g.releaseDigest && r.buildDigest = g.buildDigest &&
    r.platformVersion = g.platformVersion && r.processImage = g.workerImage

section

variable (σ : Signer) (now : Time) (r : SignerRequest)

def load : Except SignerError SelectedGeneration :=
  match σ.selected with
  | none =>
    .error (.upgradeConflict "active control identity projection is unavailable or unsafe")
  | some g =>
    match refresh σ.publication g.platformTargetName with
    | .error _ =>
      .error (.upgradeConflict "active control verified platform release is unavailable")
    | .ok (file, version) =>
      if targetIdentityValid file.release g.platformTargetName file.sha256 = false then
        .error (.upgradeConflict "active control verified platform release is invalid")
      else if projectionAgrees g file version = false then
        .error (.upgradeConflict "active control identity disagrees with verified platform release")
      else if runningAgrees σ.running g = false then
        .error (.upgradeConflict "signer running identity disagrees with active control identity")
      else .ok g

/-- `_request`: the fields of the document. -/
def validRequest : Except SignerError Unit :=
  if (r.action ≠ .agentUpdate ∧ r.action ≠ .agentRollback) ∨
      (r.target.isSome ↔ r.action = .agentRollback) ∨ r.attempt ≠ 1 ∨
      r.claimDeadline ≠ r.expiresAt ∨ r.source.generation < 1 ∨
      999999999 < r.source.generation then
    .error (.updateAuthorization "signer request fields are invalid")
  else if isVersion4 r.intentId = false then
    .error (.updateAuthorization "signer intent id is invalid")
  else if isVersion4 r.operationId = false then
    .error (.updateAuthorization "signer operation id is invalid")
  else if isVersion4 r.fence = false then .error (.updateAuthorization "signer fence is invalid")
  else if isVersion4 r.parentJobId = false then
    .error (.updateAuthorization "signer parent job id is invalid")
  else if isVersion4 r.rolloutId = false then
    .error (.updateAuthorization "signer rollout id is invalid")
  else if r.target.any fun t => t.platformTargetName.digest ≠ t.expectedTufTargetSha256 ||
      t.expectedTufTargetsVersion < 1 then
    .error (.updateAuthorization "signer update target is invalid")
  else .ok ()

def grantAuthorizes (claims : GrantClaims) (r : SignerRequest) : Bool :=
  r.action = claims.action && r.rolloutId = claims.rolloutId &&
    r.parentJobId = claims.parentJobId && r.nodeId ∈ claims.nodeIds &&
    r.target.map (·.targetReleaseDigest) = claims.targetReleaseDigest &&
    r.expiresAt ≤ claims.expiresAt

def verifyGrant : Except SignerError Unit :=
  let claims := r.adminGrant.claims
  if (claims.action ≠ .agentUpdate ∧ claims.action ≠ .agentRollback) ∨ claims.nodeIds = [] ∨
      ¬ claims.nodeIds.Nodup ∨ claims.nodeIds.insertionSort (· ≤ ·) ≠ claims.nodeIds then
    .error (.updateAuthorization "admin action grant claims are invalid")
  else if isVersion4 claims.nonce = false ∨ isVersion4 claims.parentJobId = false ∨
      isVersion4 claims.rolloutId = false then
    .error (.updateAuthorization "admin action grant identity is invalid")
  else if claims.expiresAt ≤ epoch now ∨ epoch now + 3600 < claims.expiresAt ∨
      (claims.action = .agentUpdate ∧ claims.targetReleaseDigest = none) ∨
      (claims.action = .agentRollback ∧ claims.targetReleaseDigest ≠ none) then
    .error (.updateAuthorization "admin action grant expiry or target is invalid")
  else if r.adminGrant.keyId ≠ σ.keyId ∨ σ.verify claims r.adminGrant.signature = false then
    .error (.updateAuthorization "admin action grant signature is invalid")
  else if grantAuthorizes claims r = false then
    .error (.updateAuthorization "admin action grant does not authorize signer request")
  else .ok ()

def receiptFor (target : Option PlatformTarget) : UpdateReceipt where
  operationId := r.operationId
  fence := r.fence
  attempt := r.attempt
  nodeId := r.nodeId
  claimDeadline := r.claimDeadline
  expiresAt := r.expiresAt
  operatorRollback := r.target.isNone
  sourceSlot := r.source.slot
  sourceSha256 := r.source.sha256
  sourceGeneration := r.source.generation
  platformTarget := target

def receiptExpiryValid : Bool :=
  epoch now < r.expiresAt && r.expiresAt ≤ epoch now + 600

def signedPayload (target : Option PlatformTarget) : Payload :=
  let receipt := receiptFor r target
  let update := r.target.map (·.payload)
  { canonicalDigest := σ.payloadDigest receipt update, receipt := some receipt, update := update }

def refreshAndValidate (p : Publication) (payload : NodePayload) (name : TargetName) :
    Except SignerError (TargetFile × ℕ) := do
  let (file, version) ← refresh p name
  if targetIdentityValid file.release name file.sha256 = false then
    .error (.updateAuthorization "platform release target identity is invalid")
  else if payload ∉ file.release.payloads then
    .error (.updateAuthorization "agent update payload disagrees with TUF platform release")
  else .ok (file, version)

def authorizeUpdate (active : SelectedGeneration) (t : SignerTarget) : Except SignerError
    Payload := do
  let (file, version) ← refreshAndValidate σ.publication t.payload t.platformTargetName
  if file.release.digest ≠ t.targetReleaseDigest ∨ active.releaseDigest ≠ t.targetReleaseDigest ∨
      file.release.platformVersion ≠ active.platformVersion ∨
      file.release.buildDigest ≠ active.buildDigest then
    .error (.updateAuthorization "signer target release disagrees with active control release")
  else if file.sha256 ≠ t.expectedTufTargetSha256 ∨ version ≠ t.expectedTufTargetsVersion then
    .error (.updateAuthorization "signer TUF target identity disagrees with request")
  else if receiptExpiryValid now r = false then
    .error (.updateAuthorization "update authorization expiry is invalid")
  else .ok (signedPayload σ r (some ⟨t.platformTargetName, file.sha256, version⟩))

def authorize : Except SignerError Payload := do
  let _ ← validRequest r
  let active ← load σ
  let _ ← verifyGrant σ now r
  match r.target with
  | none =>
    if receiptExpiryValid now r = false then
      .error (.updateAuthorization "rollback claim binding is invalid")
    else .ok (signedPayload σ r none)
  | some t => authorizeUpdate σ now r active t

def answerRequest (d : Digests) (now : Time) (r : SignerRequest) : Except JobError SignerResponse :=
  match authorize σ now r with
  | .ok payload => .ok ⟨r.intentId, d.request r, payload⟩
  | .error _ => .error (.runtimeError "signer message bounds are invalid")

end

/-- The control plane runs a published release and the signer runs with it.  The version of the
target set is left open. -/
structure Deployed (σ : Signer) (g : SelectedGeneration) (file : TargetFile) : Prop where
  selected : σ.selected = some g
  published : σ.publication.target g.platformTargetName = some file
  versions : 1 ≤ σ.publication.version ∧ σ.publication.version ≤ 2147483647
  name : g.platformTargetName = ⟨file.release.platformVersion, file.sha256⟩
  projection : projectionAgrees { g with tufTargetsVersion := σ.publication.version } file
    σ.publication.version = true
  running : runningAgrees σ.running g = true

/-- The grant was signed for the action of the rollout.  Its nodes and its expiry are left open. -/
structure GrantFor (σ : Signer) (u : UpdateRollout) (jobId : Uuid) (op : AgentOperation)
    (grant : AdminGrant) : Prop where
  key : grant.keyId = σ.keyId
  signature : σ.verify grant.claims grant.signature = true
  action : grant.claims.action = op
  rollout : grant.claims.rolloutId = u.id
  job : grant.claims.parentJobId = jobId
  nonempty : grant.claims.nodeIds ≠ []
  nodup : grant.claims.nodeIds.Nodup
  sorted : grant.claims.nodeIds.insertionSort (· ≤ ·) = grant.claims.nodeIds
  target : grant.claims.targetReleaseDigest =
    if op = .agentUpdate then some u.releaseDigest else none
  identities : isVersion4 grant.claims.nonce = true ∧ isVersion4 u.id = true ∧
    isVersion4 jobId = true

def DrawsVersion4 (view : ReserveView) : Prop :=
  ∀ n, isVersion4 (view.fresh n).intentId = true ∧ isVersion4 (view.fresh n).operationId = true ∧
    isVersion4 (view.fresh n).fence = true

/-- The rollout's own target is the release that the control plane runs, and it publishes the
payloads of the nodes. -/
structure TargetServed (file : TargetFile) (u : UpdateRollout) (payloads : List NodePayload) :
    Prop where
  name : (⟨u.targetPlatformVersion, u.releaseDigest⟩ : TargetName) =
    ⟨file.release.platformVersion, file.sha256⟩
  digest : file.release.digest = u.releaseDigest
  payloads : ∀ p ∈ payloads, p ∈ file.release.payloads

/-- The grant names the node and covers the deadline, which has not passed. -/
def Lasts (now : Time) (grant : AdminGrant) (n : NodeId) (deadline : ℕ) : Prop :=
  n ∈ grant.claims.nodeIds ∧ epoch now < deadline ∧ deadline ≤ grant.claims.expiresAt

lemma epoch_add_seconds (t : Time) (n : ℕ) : epoch (t + seconds n) = epoch t + n := by
  unfold epoch seconds
  omega

lemma epoch_mono {t t' : Time} (h : t ≤ t') : epoch t ≤ epoch t' := Nat.div_le_div_right h

variable {σ : Signer} {g : SelectedGeneration} {file : TargetFile} {now : Time} {r : SignerRequest}

lemma Deployed.refresh_eq (h : Deployed σ g file) :
    refresh σ.publication g.platformTargetName = .ok (file, σ.publication.version) := by
  have hversions := h.versions
  unfold refresh
  rw [h.published, h.name]
  simp only
  rw [if_neg (by omega), if_neg (by simp)]

lemma Deployed.targetIdentity (h : Deployed σ g file) :
    targetIdentityValid file.release g.platformTargetName file.sha256 = true := by
  rw [h.name]
  simp [targetIdentityValid]

lemma Deployed.load_eq (h : Deployed σ g file) : load σ =
    if g.tufTargetsVersion = σ.publication.version then .ok g
    else .error (.upgradeConflict
      "active control identity disagrees with verified platform release") := by
  have hprojection := h.projection
  unfold load
  rw [h.selected]
  simp only [h.refresh_eq, h.targetIdentity, h.running, Bool.true_eq_false, if_false]
  simp only [projectionAgrees, Bool.and_eq_true, decide_eq_true_eq, and_true] at hprojection
  split_ifs with hagrees hversion hversion
  · have hfalse : projectionAgrees g file σ.publication.version = true := by
      simp only [projectionAgrees, Bool.and_eq_true, decide_eq_true_eq]
      tauto
    rw [hagrees] at hfalse
    cases hfalse
  · rfl
  · rfl
  simp only [projectionAgrees, Bool.and_eq_true, decide_eq_true_eq, Bool.not_eq_false] at hagrees
  tauto

section Request

variable {view : ReserveView} {u : UpdateRollout} {n : NodeId} {job : Job}
  {source : SignerSource} {grant : AdminGrant} {op : AgentOperation} {payload : Option NodePayload}
  {release : Option Digest}

lemma receiptExpiry_iff (hafter : view.now ≤ now) :
    receiptExpiryValid now (signerRequest view u n job source grant op payload release) = true ↔
      epoch now < epoch view.now + 600 := by
  have hepoch := epoch_mono hafter
  have hdeadline : (signerRequest view u n job source grant op payload release).expiresAt =
      epoch view.now + 600 := epoch_add_seconds view.now 600
  simp only [receiptExpiryValid, hdeadline, Bool.and_eq_true, decide_eq_true_eq]
  omega

section

variable (hop : op = .agentUpdate ∧ (∃ p, payload = some p) ∧ release = some u.releaseDigest ∨
  op = .agentRollback ∧ payload = none ∧ release = none)

include hop

lemma verifyGrant_eq_ok (hgrant : GrantFor σ u job.id op grant)
    (hhour : grant.claims.expiresAt ≤ epoch now + 3600) :
    verifyGrant σ now (signerRequest view u n job source grant op payload release) = .ok () ↔
      epoch now < grant.claims.expiresAt ∧ n ∈ grant.claims.nodeIds ∧
        epoch view.now + 600 ≤ grant.claims.expiresAt := by
  have hexpiry : (signerRequest view u n job source grant op payload release).expiresAt =
      epoch view.now + 600 := epoch_add_seconds view.now 600
  have hidentities := hgrant.identities
  have htarget : (signerRequest view u n job source grant op payload release).target.map
      (·.targetReleaseDigest) = grant.claims.targetReleaseDigest := by
    rw [hgrant.target]
    rcases hop with ⟨rfl, ⟨p, rfl⟩, rfl⟩ | ⟨rfl, rfl, rfl⟩ <;> rfl
  have hauthorizes : grantAuthorizes grant.claims
      (signerRequest view u n job source grant op payload release) = true ↔
        n ∈ grant.claims.nodeIds ∧ epoch view.now + 600 ≤ grant.claims.expiresAt := by
    unfold grantAuthorizes
    rw [htarget, hexpiry, hgrant.action, hgrant.rollout, hgrant.job]
    simp only [signerRequest, decide_true, Bool.true_and, Bool.and_eq_true, decide_eq_true_eq,
      and_true]
    exact and_congr_left fun _ => decide_eq_true_iff
  have hclaims : ¬ ((grant.claims.action ≠ .agentUpdate ∧ grant.claims.action ≠ .agentRollback) ∨
      grant.claims.nodeIds = [] ∨ ¬ grant.claims.nodeIds.Nodup ∨
      grant.claims.nodeIds.insertionSort (· ≤ ·) ≠ grant.claims.nodeIds) := by
    rw [hgrant.action, hgrant.sorted]
    rcases hop with ⟨rfl, -⟩ | ⟨rfl, -⟩ <;> simp [hgrant.nonempty, hgrant.nodup]
  have hids : ¬ (isVersion4 grant.claims.nonce = false ∨
      isVersion4 grant.claims.parentJobId = false ∨ isVersion4 grant.claims.rolloutId = false) := by
    rw [hgrant.job, hgrant.rollout]
    simp [hidentities.1, hidentities.2.1, hidentities.2.2]
  have hdigest : ¬ ((grant.claims.action = .agentUpdate ∧ grant.claims.targetReleaseDigest = none) ∨
      (grant.claims.action = .agentRollback ∧ grant.claims.targetReleaseDigest ≠ none)) := by
    rw [hgrant.action, hgrant.target]
    rcases hop with ⟨rfl, -⟩ | ⟨rfl, -⟩ <;> simp
  have hkey : ¬ (grant.keyId ≠ σ.keyId ∨ σ.verify grant.claims grant.signature = false) := by
    simp [hgrant.key, hgrant.signature]
  have hadmin : (signerRequest view u n job source grant op payload release).adminGrant = grant := rfl
  generalize signerRequest view u n job source grant op payload release = r at *
  unfold verifyGrant
  simp only [hadmin]
  rw [if_neg hclaims, if_neg hids, if_neg hkey, ← hauthorizes]
  by_cases hlive : epoch now < grant.claims.expiresAt
  · rw [if_neg (by intro h; rcases h with h | h | h <;> first | omega | exact hdigest h)]
    cases grantAuthorizes grant.claims r <;> simp [hlive]
  rw [if_pos (.inl (not_lt.mp hlive))]
  simp [hlive]

lemma validRequest_signerRequest (hdraws : DrawsVersion4 view)
    (hids : isVersion4 u.id = true ∧ isVersion4 job.id = true)
    (hsource : 1 ≤ source.generation ∧ source.generation ≤ 999999999) :
    validRequest (signerRequest view u n job source grant op payload release) =
      if op = .agentUpdate ∧ u.tufTargetsVersion < 1 then
        .error (.updateAuthorization "signer update target is invalid")
      else .ok () := by
  obtain ⟨hintent, hoperation, hfence⟩ := hdraws n
  have hfirst : source.generation ≠ 0 := Nat.one_le_iff_ne_zero.mp hsource.1
  have hlast : ¬ 999999999 < source.generation := not_lt.mpr hsource.2
  rcases hop with ⟨rfl, ⟨p, rfl⟩, rfl⟩ | ⟨rfl, rfl, rfl⟩
  · simp [validRequest, signerRequest, hintent, hoperation, hfence, hids.1, hids.2, hfirst, hlast]
  simp [validRequest, signerRequest, hintent, hoperation, hfence, hids.1, hids.2, hfirst, hsource.2]

end

variable (hdeployed : Deployed σ g file) (hgrant : GrantFor σ u job.id op grant)
  (hdraws : DrawsVersion4 view) (hsource : 1 ≤ source.generation ∧ source.generation ≤ 999999999)
  (hafter : view.now ≤ now) (hhour : grant.claims.expiresAt ≤ epoch now + 3600)

include hdeployed hgrant hdraws hsource hhour

lemma authorize_iff
    (hop : op = .agentUpdate ∧ (∃ p, payload = some p) ∧ release = some u.releaseDigest ∨
      op = .agentRollback ∧ payload = none ∧ release = none)
    {next : SelectedGeneration → Except SignerError Payload}
    (hnext : authorize σ now (signerRequest view u n job source grant op payload release) = (do
      let _ ← validRequest (signerRequest view u n job source grant op payload release)
      let active ← load σ
      let _ ← verifyGrant σ now (signerRequest view u n job source grant op payload release)
      next active)) :
    (∃ x, authorize σ now (signerRequest view u n job source grant op payload release) = .ok x) ↔
      ¬ (op = .agentUpdate ∧ u.tufTargetsVersion < 1) ∧
      g.tufTargetsVersion = σ.publication.version ∧
      (epoch now < grant.claims.expiresAt ∧ n ∈ grant.claims.nodeIds ∧
        epoch view.now + 600 ≤ grant.claims.expiresAt) ∧ ∃ x, next g = .ok x := by
  have hverify : verifyGrant σ now (signerRequest view u n job source grant op payload release) =
      .ok () ↔ _ := verifyGrant_eq_ok hop hgrant hhour
  rw [hnext, validRequest_signerRequest hop hdraws hgrant.identities.2 hsource, hdeployed.load_eq]
  constructor
  · rintro ⟨x, h⟩
    obtain ⟨_, hvalid, active, hactive, h⟩ := of_bind_ok₂ h
    obtain ⟨⟨⟩, hgranted, h⟩ := of_bind_ok h
    split_ifs at hvalid with htargets
    split_ifs at hactive with hversion
    cases hactive
    exact ⟨htargets, hversion, hverify.mp hgranted, x, h⟩
  rintro ⟨htargets, hversion, hlasts, x, h⟩
  rw [if_neg htargets, if_pos hversion, hverify.mpr hlasts]
  exact ⟨x, h⟩

include hafter

lemma update_accepted_iff (hop : op = .agentUpdate) {p : NodePayload}
    (hserved : TargetServed file u [p]) :
    (∃ payload, authorize σ now (signerRequest view u n job source grant .agentUpdate (some p)
        (some u.releaseDigest)) = .ok payload) ↔
      g.tufTargetsVersion = σ.publication.version ∧
      u.tufTargetsVersion = σ.publication.version ∧
      Lasts now grant n (epoch view.now + 600) := by
  subst hop
  let request := signerRequest view u n job source grant .agentUpdate (some p)
    (some u.releaseDigest)
  have hversions := hdeployed.versions
  have hexpiry : receiptExpiryValid now request = true ↔ _ := receiptExpiry_iff hafter
  obtain ⟨hname, hdigest, hpayloads⟩ := hserved
  have hprojection := hdeployed.projection
  simp only [projectionAgrees, Bool.and_eq_true, decide_eq_true_eq, and_true] at hprojection
  have hprepared : refreshAndValidate σ.publication p ⟨u.targetPlatformVersion, u.releaseDigest⟩ =
      .ok (file, σ.publication.version) := by
    rw [hname, ← hdeployed.name]
    unfold refreshAndValidate
    rw [hdeployed.refresh_eq, ok_bind]
    simp only [hdeployed.targetIdentity, Bool.true_eq_false, if_false]
    rw [if_neg (not_not.mpr (hpayloads p (List.mem_singleton_self p)))]
  have hsha : u.releaseDigest = file.sha256 := congrArg TargetName.digest hname
  have hupdate : authorizeUpdate σ now request g ⟨p, ⟨u.targetPlatformVersion, u.releaseDigest⟩,
        u.releaseDigest, u.releaseDigest, u.tufTargetsVersion⟩ =
      if σ.publication.version ≠ u.tufTargetsVersion then
        .error (.updateAuthorization "signer TUF target identity disagrees with request")
      else if receiptExpiryValid now request = false then
        .error (.updateAuthorization "update authorization expiry is invalid")
      else .ok (signedPayload σ request (some ⟨⟨u.targetPlatformVersion, u.releaseDigest⟩,
        file.sha256, σ.publication.version⟩)) := by
    unfold authorizeUpdate
    rw [hprepared, ok_bind]
    simp only
    rw [if_neg (by simp [hprojection, hdigest])]
    simp only [← hsha, ne_eq, not_true_eq_false, false_or]
  rw [authorize_iff hdeployed hgrant hdraws hsource hhour (.inl ⟨rfl, ⟨p, rfl⟩, rfl⟩) rfl]
  change _ ∧ _ ∧ _ ∧ (∃ x, authorizeUpdate σ now request g _ = .ok x) ↔ _
  rw [hupdate]
  constructor
  · rintro ⟨-, hversion, ⟨-, hnode, hlasts⟩, x, h⟩
    split_ifs at h with htargets htime
    rw [Bool.not_eq_false, hexpiry] at htime
    exact ⟨hversion, (not_not.mp htargets).symm, hnode, htime, hlasts⟩
  rintro ⟨hversion, htargets, hnode, htime, hlasts⟩
  rw [if_neg (by simp [htargets]), if_neg (by rw [hexpiry.mpr htime]; simp)]
  exact ⟨by omega, hversion, ⟨htime.trans_le hlasts, hnode, hlasts⟩, _, rfl⟩

lemma rollback_accepted_iff (hop : op = .agentRollback) :
    (∃ payload, authorize σ now (signerRequest view u n job source grant .agentRollback none none) =
        .ok payload) ↔
      g.tufTargetsVersion = σ.publication.version ∧ Lasts now grant n (epoch view.now + 600) := by
  subst hop
  have hexpiry : receiptExpiryValid now
      (signerRequest view u n job source grant .agentRollback none none) = true ↔ _ :=
    receiptExpiry_iff hafter
  rw [authorize_iff hdeployed hgrant hdraws hsource hhour (.inr ⟨rfl, rfl, rfl⟩) rfl]
  have htarget : (signerRequest view u n job source grant .agentRollback none none).target = none :=
    rfl
  simp only [htarget]
  constructor
  · rintro ⟨-, hversion, ⟨-, hnode, hlasts⟩, x, h⟩
    split_ifs at h with htime
    rw [Bool.not_eq_false, hexpiry] at htime
    exact ⟨hversion, hnode, htime, hlasts⟩
  rintro ⟨hversion, hnode, htime, hlasts⟩
  rw [if_neg (by rw [hexpiry.mpr htime]; simp)]
  exact ⟨by simp, hversion, ⟨htime.trans_le hlasts, hnode, hlasts⟩, _, rfl⟩

end Request

end VonkForge.UpdateSigner
