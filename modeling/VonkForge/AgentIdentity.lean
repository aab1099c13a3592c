import VonkForge.Models
import VonkForge.Transactions

/-!
# Authenticated agent identities

How a claim or a result finds its locked node and certificate, and negotiates the implementation.
-/

namespace VonkForge.AgentJobs

inductive JobError
  | staleAttempt (text : String)
  | valueError (text : String)
  | typeError (text : String)
  | runtimeError (text : String)
  | keyError (id : ℕ)
  | integrityError
  deriving DecidableEq

structure ContactObservation where
  certificateFingerprint : Digest
  certificateSerial : Serial
  nodeId : NodeId
  observedAt : Time
  runtimeIdentity : RuntimeIdentity

structure AgentSource where
  nodeId : NodeId
  certificateSerial : Serial
  certificateFingerprint : Digest
  verified : Bool
  deriving DecidableEq

structure Config where
  contactDigest : ContactObservation → Digest := fun _ => 0
  contactConsumer : Option (AgentSource → Bool) := none

variable (db : Database) (node : AgentNode) (nodeId : NodeId) (certificate : AgentCertificate)
  (now : Time)

def lockIdentity (serial : Serial) : Option (AgentNode × AgentCertificate) := do
  let node ← db.nodes.get? nodeId
  let certificate ← db.certificates.get? serial
  if certificate.nodeId = nodeId then some (node, certificate) else none

def identityIsActive : Bool :=
  node.state = .active && node.revokedAt.isNone && certificate.state = .active &&
    certificate.revokedAt.isNone && certificate.notBefore ≤ now && now < certificate.notAfter

def rustReady (advertised : Option AgentImplementation) (protocolVersion : Option ℕ)
    (capabilities : Option (List Capability)) : Bool :=
  advertised = some .rust && protocolVersion.any (3 ≤ ·) &&
    capabilities.any (Capability.agentRuntimeRustV1 ∈ ·)

def setNode (f : AgentNode → AgentNode)
    (hf : ∀ node, (f node).nodeId = node.nodeId := by intro _; rfl) : Database :=
  { db with nodes := db.nodes.updateWhere (fun node => decide (node.nodeId = nodeId)) f hf }

/-- The other certificates of a node that migrated to the Rust agent are revoked. -/
def revokeOthers (serial : Serial) (now : Time) : Database :=
  { db with
    certificates := db.certificates.updateWhere
      (fun c => decide (c.nodeId = nodeId ∧ c.serial ≠ serial ∧
        (c.state = .active ∨ c.state = .staged)))
      (fun c => { c with state := .revoked, revokedAt := c.revokedAt <|> some now }) }

def migrated : AgentNode :=
  { node with agentImplementation := .rust, migrationState := .complete }

def negotiateImplementation (node : AgentNode) (certificate : AgentCertificate)
    (advertised : Option AgentImplementation) (protocolVersion : Option ℕ)
    (capabilities : Option (List Capability)) : Except JobError Database :=
  let ready := rustReady advertised protocolVersion capabilities
  match node.agentImplementation with
  | .pending =>
    if ready then .ok (setNode db node.nodeId migrated)
    else .error (.valueError "new enrollment requires the Rust agent")
  | .python =>
    if advertised ≠ some .rust then
      .ok (setNode db node.nodeId fun n => { n with migrationState := .required })
    else if !ready then
      .error (.valueError "Rust agent capability negotiation is incomplete")
    else
      match db.migrations.get? certificate.serial with
      | some enrollment =>
        if enrollment.nodeId = node.nodeId then
          .ok (setNode (revokeOthers db node.nodeId certificate.serial now) node.nodeId migrated)
        else .error (.valueError "Rust migration requires a dedicated migration certificate")
      | none => .error (.valueError "Rust migration requires a dedicated migration certificate")
  | .rust =>
    if !ready then
      .error (.valueError "a migrated node cannot downgrade to the Python agent")
    else if node.migrationState ≠ .complete then
      .error (.valueError "agent migration state is invalid")
    else .ok db

def consumeContact (cfg : Config) (source : Option AgentSource) (node : AgentNode)
    (certificate : AgentCertificate) : Except JobError Unit :=
  match source with
  | none => .ok ()
  | some peer =>
    if peer.nodeId ≠ node.nodeId ∨ peer.certificateSerial ≠ certificate.serial ∨
        peer.certificateFingerprint ≠ certificate.fingerprint ∨ peer.verified = false then
      .error (.valueError "agent contact source does not match its locked identity")
    else
      match cfg.contactConsumer with
      | none => .error (.runtimeError "agent contact consumer is not configured")
      | some accepts =>
        if accepts peer then .ok () else .error (.valueError "agent contact source is invalid")

def lastSeen : Time :=
  match node.lastSeenAt with
  | none => now
  | some current => max current now

def recordContact (cfg : Config) (db : Database) (nodeId : NodeId)
    (certificate : AgentCertificate) (now : Time) (protocolVersion : Option ℕ)
    (capabilities : Option (List Capability)) (runtime : Option RuntimeIdentity) : Database :=
  setNode db nodeId fun node =>
    { node with
      lastSeenAt := some (lastSeen node now)
      protocolVersion := protocolVersion <|> node.protocolVersion
      capabilities := capabilities.getD node.capabilities
      runtime := runtime <|> node.runtime
      contactCertificateSerial :=
        if runtime.isSome then some certificate.serial else node.contactCertificateSerial
      contactObservationDigest :=
        match runtime with
        | some identity => some (cfg.contactDigest
            ⟨certificate.fingerprint, certificate.serial, node.nodeId, lastSeen node now, identity⟩)
        | none => node.contactObservationDigest }

end VonkForge.AgentJobs
