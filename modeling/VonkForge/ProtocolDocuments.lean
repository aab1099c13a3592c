import VonkForge.AgentSlots

/-!
# Protocol documents

`_validate_bounded_document`, the filter of every payload, progress and result: the keys and the
string leaves that a document may have, and the frozen copy that is kept of it.
-/

namespace VonkForge.ProtocolDocuments

open Transactions
open AgentSlots (lowerHex)

inductive Json (N : Type)
  | null
  | bool (b : Bool)
  | num (n : N)
  | str (s : String)
  | arr (items : List (Json N))
  | obj (members : List (String × Json N))

variable {N : Type}

inductive Step
  | key (k : String)
  | item

/-- `Occurs document path value`: the value at a path, with the nearest step first. -/
inductive Occurs (document : Json N) : List Step → Json N → Prop
  | root : Occurs document [] document
  | key {path members k value} : Occurs document path (.obj members) → (k, value) ∈ members →
      Occurs document (.key k :: path) value
  | item {path items value} : Occurs document path (.arr items) → value ∈ items →
      Occurs document (.item :: path) value

/-- A letter of a pattern with `re.IGNORECASE`.  Three letters have forms outside ASCII: the long s,
the Kelvin sign, and the i without a dot and the capital one with a dot. -/
def sameLetter (p c : Char) : Bool :=
  c.toLower = p ||
    (p, c) ∈ [('s', '\u017f'), ('k', '\u212a'), ('i', '\u0131'), ('i', '\u0130')]

def wordAt (word : String) (cs : List Char) : Bool :=
  word.length ≤ cs.length && (word.toList.zipWith sameLetter cs).all id

/-- `UNSAFE_KEY.search`. -/
def unsafeKey (key : String) : Bool :=
  key.toList.tails.any fun cs =>
    ["password", "secret", "token", "authorization", "command", "shell", "environment"].any
      (wordAt · cs) ||
    -- `private.?key`
    wordAt "private" cs && (wordAt "key" (cs.drop 7) ||
      (cs.drop 7).head?.any (· ≠ '\n') && wordAt "key" (cs.drop 8))

def pathKeyTokens : List String := ["path", "file", "filename", "filepath", "directory", "folder"]

-- `(?:$|[_-]|[A-Z])`
def termEnds : List Char → Bool
  | [] | ['\n'] => true
  | c :: _ => c = '_' || c = '-' || c.isUpper

def termAt (cs : List Char) : Bool :=
  pathKeyTokens.any fun token =>
    (cs.take token.length).map Char.toLower = token.toList && termEnds (cs.drop token.length)

def isPathKey (key : String) : Bool :=
  termAt key.toList || key.toList.tails.any fun
    | [] => false
    | p :: cs => termAt cs &&
      (p = '_' || p = '-' || (p.isLower || p.isDigit) && cs.head?.any Char.isUpper)

def canonicalNumber (cs : List Char) : Bool :=
  cs = ['0'] || cs.all Char.isDigit && cs.head?.any (· ≠ '0')

def versionedPlatformTarget (value : String) : Bool :=
  match value.toList.splitOn '/' with
  | [a, b, version, file] =>
    a = "platform".toList && b = "releases".toList && (version.splitOn '.').length = 3 &&
      (version.splitOn '.').all canonicalNumber &&
      lowerHex (String.ofList (file.take 64)) 64 && file.drop 64 = ".json".toList
  | _ => false

mutual

def validateSafeKeys (fieldName : Option String) (allowSecretRefs secretValue : Bool) :
    Json N → Except String Unit
  | .obj members => validateMembers fieldName allowSecretRefs members
  | .arr items => validateItems allowSecretRefs secretValue items
  | .str value =>
    if secretValue then
      require ("secret://".toList <+: value.toList) "secret reference is not canonical"
    else if fieldName = some "platform_target_name" then
      require (versionedPlatformTarget value) "platform target identifier is not canonical"
    else
      require ('/' ∉ value.toList ∧ '\\' ∉ value.toList) "filesystem path values are not allowed"
  | _ => .ok ()

def validateMembers (fieldName : Option String) (allowSecretRefs : Bool) :
    List (String × Json N) → Except String Unit
  | [] => .ok ()
  | (key, item) :: members => do
    require (isPathKey key = false) ("filesystem path key is not allowed: " ++ key)
    require (unsafeKey key = true →
      allowSecretRefs = true ∧ (key = "secrets" ∨ fieldName = some "secrets"))
      ("unsafe protocol key: " ++ key)
    validateSafeKeys (some key) (allowSecretRefs || key = "deployment")
      (fieldName = some "secrets") item
    validateMembers fieldName allowSecretRefs members

def validateItems (allowSecretRefs secretValue : Bool) : List (Json N) → Except String Unit
  | [] => .ok ()
  | item :: items => do
    validateSafeKeys none allowSecretRefs secretValue item
    validateItems allowSecretRefs secretValue items

end

/-- Python's `json`: what is read back from a text has its keys and strings where the value has. -/
structure Codec (N : Type) where
  dumps : Json N → Option (List UInt8)
  loads : List UInt8 → Json N
  occurs {value bytes path copy} : dumps value = some bytes → Occurs (loads bytes) path copy →
    ∃ original, Occurs value path original ∧ ∀ s, copy = .str s → original = .str s

def maxDocumentBytes : ℕ := 64 * 1024

/-- `_freeze` leaves the value as it is. -/
def validateBoundedDocument (codec : Codec N) (value : Json N) (name : String) :
    Except String (Json N) := do
  let .obj _ := value | .error (name ++ " must be a JSON object")
  validateSafeKeys none false false value
  let message ← fetch (codec.dumps value) (name ++ " must be JSON")
  let copied := codec.loads message
  let bytes ← fetch (codec.dumps copied) "message must contain JSON values"
  require (bytes.length ≤ maxDocumentBytes) (name ++ " is too large")
  pure copied

/-- The path of a `secrets` key below a `deployment` key. -/
def DeploymentSecrets (path : List Step) : Prop :=
  ∃ above, path = .key "secrets" :: above ∧ .key "deployment" ∈ above

structure Safe (document : Json N) : Prop where
  keys {k path value} : Occurs document (.key k :: path) value → isPathKey k = false ∧
    (unsafeKey k = true → DeploymentSecrets (.key k :: path) ∨ DeploymentSecrets path)
  strings {path s} : Occurs document path (.str s) → '/' ∈ s.toList ∨ '\\' ∈ s.toList →
    (∃ above, path = .key "platform_target_name" :: above ∧ versionedPlatformTarget s = true) ∨
    "secret://".toList <+: s.toList ∧ ∃ n k above,
      path = List.replicate n .item ++ .key k :: above ∧ DeploymentSecrets above

-- The arguments that `_validate_safe_keys` has at a path.
def fieldOf : List Step → Option String
  | .key k :: _ => some k
  | _ => none

def secretOf : List Step → Bool
  | [] => false
  | .key _ :: path => fieldOf path = some "secrets"
  | .item :: path => secretOf path

def allowOf : List Step → Bool
  | [] => false
  | .key k :: path => allowOf path || k = "deployment"
  | .item :: path => allowOf path

lemma allowOf_iff {path : List Step} : allowOf path = true ↔ .key "deployment" ∈ path := by
  induction path with
  | nil => simp [allowOf]
  | cons step path ih => cases step <;> simp [allowOf, ih, or_comm, eq_comm (a := "deployment")]

lemma fieldOf_eq_some {path : List Step} {k : String} (h : fieldOf path = some k) :
    ∃ above, path = .key k :: above := by
  unfold fieldOf at h
  split at h
  · exact ⟨_, by rw [Option.some.inj h]⟩
  cases h

lemma of_secretOf {path : List Step} (h : secretOf path = true) :
    ∃ n k above, path = List.replicate n .item ++ .key k :: .key "secrets" :: above := by
  induction path with
  | nil => cases h
  | cons step path ih =>
    cases step with
    | key k =>
      obtain ⟨above, rfl⟩ := fieldOf_eq_some (of_decide_eq_true h)
      exact ⟨0, k, above, rfl⟩
    | item =>
      obtain ⟨n, k, above, rfl⟩ := ih h
      exact ⟨n + 1, k, above, rfl⟩

lemma of_validateItems {allow secret : Bool} {items : List (Json N)}
    (h : validateItems allow secret items = .ok ()) {value : Json N} (hmem : value ∈ items) :
    validateSafeKeys none allow secret value = .ok () := by
  induction items with
  | nil => cases hmem
  | cons item items ih =>
    obtain ⟨⟨⟩, hitem, hrest⟩ := of_bind_ok h
    rcases List.mem_cons.mp hmem with rfl | hmem
    · exact hitem
    exact ih hrest hmem

lemma of_validateMembers {field : Option String} {allow : Bool} {members : List (String × Json N)}
    (h : validateMembers field allow members = .ok ()) {k : String} {value : Json N}
    (hmem : (k, value) ∈ members) :
    isPathKey k = false ∧
      (unsafeKey k = true → allow = true ∧ (k = "secrets" ∨ field = some "secrets")) ∧
      validateSafeKeys (some k) (allow || k = "deployment") (field = some "secrets") value =
        .ok () := by
  induction members with
  | nil => cases hmem
  | cons member members ih =>
    obtain ⟨hpath, h⟩ := require_bind_ok.mp h
    obtain ⟨hsecret, h⟩ := require_bind_ok.mp h
    obtain ⟨⟨⟩, hitem, hrest⟩ := of_bind_ok h
    rcases List.mem_cons.mp hmem with rfl | hmem
    · exact ⟨hpath, hsecret, hitem⟩
    exact ih hrest hmem

variable {document : Json N}

lemma validateSafeKeys_of_occurs (h : validateSafeKeys none false false document = .ok ())
    {path : List Step} {value : Json N} (hocc : Occurs document path value) :
    validateSafeKeys (fieldOf path) (allowOf path) (secretOf path) value = .ok () := by
  induction hocc with
  | root => exact h
  | key _ hmem ih => exact (of_validateMembers (by rwa [validateSafeKeys] at ih) hmem).2.2
  | item _ hmem ih => exact of_validateItems (by rwa [validateSafeKeys] at ih) hmem

lemma Occurs.of_append {front path : List Step} {value : Json N}
    (h : Occurs document (front ++ path) value) : ∃ above, Occurs document path above := by
  induction front generalizing value with
  | nil => exact ⟨value, h⟩
  | cons step front ih =>
    cases h with
    | key hocc _ => exact ih hocc
    | item hocc _ => exact ih hocc

lemma key_of_occurs (h : validateSafeKeys none false false document = .ok ()) {k : String}
    {path : List Step} {value : Json N} (hocc : Occurs document (.key k :: path) value) :
    isPathKey k = false ∧
      (unsafeKey k = true → DeploymentSecrets (.key k :: path) ∨ DeploymentSecrets path) := by
  cases hocc with
  | key hocc hmem =>
    have hmembers := validateSafeKeys_of_occurs h hocc
    rw [validateSafeKeys] at hmembers
    obtain ⟨hpath, hsecret, -⟩ := of_validateMembers hmembers hmem
    refine ⟨hpath, fun hk => ?_⟩
    obtain ⟨hallow, hsecrets⟩ := hsecret hk
    have hbelow := allowOf_iff.mp hallow
    rcases hsecrets with rfl | hfield
    · exact .inl ⟨path, rfl, hbelow⟩
    obtain ⟨above, rfl⟩ := fieldOf_eq_some hfield
    exact .inr ⟨above, rfl, by simpa using hbelow⟩

lemma safe_of_validateSafeKeys (h : validateSafeKeys none false false document = .ok ()) :
    Safe document := by
  refine ⟨key_of_occurs h, fun {path s} hocc hslash => ?_⟩
  have hs := validateSafeKeys_of_occurs h hocc
  rw [validateSafeKeys] at hs
  split_ifs at hs with hsecret hfield
  · refine .inr ⟨require_ok.mp hs, ?_⟩
    obtain ⟨n, k, above, rfl⟩ := of_secretOf hsecret
    refine ⟨n, k, _, rfl, above, rfl, ?_⟩
    -- `secrets` is itself an unsafe key, accepted below a deployment only.
    rw [List.append_cons] at hocc
    obtain ⟨value, hocc⟩ := hocc.of_append
    rcases (key_of_occurs h hocc).2 (by decide) with ⟨_, heq, hbelow⟩ | ⟨_, rfl, hbelow⟩
    · cases heq
      exact hbelow
    exact .tail _ hbelow
  · obtain ⟨above, rfl⟩ := fieldOf_eq_some hfield
    exact .inl ⟨above, rfl, require_ok.mp hs⟩
  exact absurd hslash (not_or.mpr (require_ok.mp hs))

/-- Neither an accepted document nor its copy has a path key, an unsafe key or a path, but for the
secrets of a deployment and the platform target. -/
theorem accepted_document_safe (codec : Codec N) (value : Json N) (name : String)
    (copied : Json N) (h : validateBoundedDocument codec value name = .ok copied) :
    Safe value ∧ Safe copied := by
  unfold validateBoundedDocument at h
  split at h
  · obtain ⟨⟨⟩, hkeys, h⟩ := of_bind_ok h
    obtain ⟨message, hmessage, h⟩ := fetch_bind_ok.mp h
    obtain ⟨_, _, h⟩ := fetch_bind_ok.mp h
    obtain ⟨_, h⟩ := require_bind_ok.mp h
    cases h
    have hsafe := safe_of_validateSafeKeys hkeys
    refine ⟨hsafe, fun hocc => ?_, fun hocc => ?_⟩
    · obtain ⟨_, hocc, -⟩ := codec.occurs hmessage hocc
      exact hsafe.keys hocc
    obtain ⟨_, hocc, heq⟩ := codec.occurs hmessage hocc
    cases heq _ rfl
    exact hsafe.strings hocc
  cases h

-- a token key spelled with the Kelvin sign
example (codec : Codec ℕ) :
    validateBoundedDocument codec (.obj [("to\u212aen", .null)]) "payload" =
      .error "unsafe protocol key: to\u212aen" := rfl

def secretDocument : Json ℕ :=
  .obj [("deployment", .obj [("secrets", .obj [("token", .arr [.str "secret://a"])])])]

/-- The canonical text of the document. -/
def secretText : List UInt8 :=
  "\x7b\"deployment\":\x7b\"secrets\":\x7b\"token\":[\"secret://a\"]\x7d\x7d\x7d".toList.map
    fun c => c.toNat.toUInt8

/-- It writes one document only. -/
def oneCodec : Codec ℕ where
  dumps
    | .obj [("deployment", .obj [("secrets", .obj [("token", .arr [.str "secret://a"])])])] =>
      some secretText
    | _ => none
  loads _ := secretDocument
  occurs h hocc := by
    split at h
    · exact ⟨_, hocc, fun _ => id⟩
    cases h

theorem secret_document_safe :
    Safe secretDocument :=
  (accepted_document_safe oneCodec secretDocument "payload" secretDocument rfl).1

end VonkForge.ProtocolDocuments
