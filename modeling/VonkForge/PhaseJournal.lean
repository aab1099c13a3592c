import VonkForge.Interruptible
import VonkForge.KeyedTable
import VonkForge.AgentProtocol
import Mathlib.Data.List.Sort

/-!
# The phase journal of host operations

`PhaseJournal`: a directory for each operation, with the plan and a chain of phase files.
-/

namespace VonkForge.HostState

structure HostStateConflict where
  message : String
  deriving DecidableEq

section

variable (enc : Encoding)

inductive File (α : Type)
  | whole (content : α)
  | part
  deriving DecidableEq

/-- `_read_file_at` and the parse of what it read: a part of a canonical document never parses. -/
def readFile {α : Type} (label : String) : Option (File α) → Except HostStateConflict α
  | none => .error ⟨label ++ " is missing or unsafe"⟩
  | some .part => .error ⟨label ++ " is not valid JSON"⟩
  | some (.whole content) => .ok content

def maxDocumentBytes : ℕ := 64 * 1024

def lowerAlphanumeric (c : Char) : Bool := c.isLower || c.isDigit

/-- `[a-z0-9](?:X{0,n}[a-z0-9])?` for a class `X` that has `[a-z0-9]` in it. -/
def edged (inner : Char → Bool) (n : ℕ) (s : String) : Bool :=
  s.toList.length ≤ n + 2 && s.toList.all inner && s.toList.head?.any lowerAlphanumeric &&
    s.toList.getLast?.any lowerAlphanumeric

def validIdentifier : String → Bool :=
  edged (fun c => lowerAlphanumeric c || c = '.' || c = '_' || c = '-') 126

def validPhase : String → Bool := edged (fun c => lowerAlphanumeric c || c = '-') 62

def terminalPhases : List String := ["completed", "failed", "rolled-back"]

/-- The files of phases: `{sequence:04d}-{phase}.json`, and the temporary file before it. -/
inductive EntryName
  | entry (sequence : ℕ) (phase : String)
  | temporary (sequence : ℕ) (phase : String) (token : ℕ)
  deriving DecidableEq

/-- `_ENTRY_NAME`. A number of more than four digits does not match, nor does the leading dot of a
temporary file. -/
def EntryName.sequence? : EntryName → Option ℕ
  | entry sequence phase =>
    if sequence < 10000 ∧ phase.toList.length ≤ 64 ∧ phase.toList.head?.any lowerAlphanumeric ∧
        phase.toList.all (fun c => lowerAlphanumeric c || c = '-') then some sequence
    else none
  | temporary .. => none

/-- The directories of operations: the journal, and the one that `create` prepares. -/
inductive DirectoryName
  | operation (id : String)
  | creating (id : String)
  deriving DecidableEq

/-- The text by which `sorted` orders directories. -/
def DirectoryName.text : DirectoryName → String
  | operation id => id
  | creating id => "." ++ id ++ ".creating"

/-- The document of a plan; `content` stands for the fields that the journal does not read, and
`size` is the length of its canonical text. -/
structure PlanDocument where
  operationId : String
  planDigest : Digest
  content : ℕ := 0
  size : ℕ := 1
  deriving DecidableEq

def PlanDocument.valid (plan : PlanDocument) : Bool :=
  validIdentifier plan.operationId && 0 < plan.size && plan.size ≤ maxDocumentBytes

structure EntryCore where
  evidence : ℕ
  (operationId phase : String)
  planDigest : Digest
  previousEntryDigest : Option Digest
  sequence : ℕ
  timestamp : String
  deriving DecidableEq

structure JournalEntry extends EntryCore where
  entryDigest : Digest
  deriving DecidableEq

/-- The canonical encoding: the digest of a core and the length of a document. -/
structure Encoding where
  digest : EntryCore → Digest
  size : JournalEntry → ℕ

structure JournalState where
  plan : PlanDocument
  entries : List JournalEntry
  deriving DecidableEq

def JournalState.terminal (j : JournalState) : Bool :=
  j.entries.getLast?.any (·.phase ∈ terminalPhases)

structure EntryFile where
  name : EntryName
  file : File JournalEntry
  deriving DecidableEq

instance : Keyed EntryFile EntryName := ⟨EntryFile.name⟩

structure Directory where
  name : DirectoryName
  plan : Option (File PlanDocument) := none
  entries : Table EntryFile := .empty
  deriving DecidableEq

instance : Keyed Directory DirectoryName := ⟨Directory.name⟩

@[simp] lemma key_directory (d : Directory) : Keyed.key d = d.name := rfl

inductive Publication
  | plan (plan : PlanDocument)
  | entry (entry : JournalEntry)
  deriving DecidableEq

/-- The host state root, its `operations` directory and what is in it. -/
structure Disk where
  root : Bool := false
  operations : Bool := false
  directories : Table Directory := .empty
  /-- The publications in their order.  This history is not on the disk; no program reads it. -/
  published : List Publication := []
  deriving DecidableEq

def checkEntry (plan : PlanDocument) (expected : ℕ) (previous : Option Digest) (e : JournalEntry) :
    Except HostStateConflict Unit :=
  if e.entryDigest ≠ enc.digest e.toEntryCore then .error ⟨"journal entry digest is invalid"⟩
  else if e.operationId = plan.operationId ∧ e.planDigest = plan.planDigest ∧
      e.sequence = expected ∧ validPhase e.phase ∧ e.previousEntryDigest = previous ∧
      1 ≤ e.timestamp.length ∧ e.timestamp.length ≤ 64 then .ok ()
  else .error ⟨"journal phase chain is invalid"⟩

/-- The loop of `_load_operation` over the sorted entry files. -/
def loadEntries (enc : Encoding) (plan : PlanDocument) :
    ℕ → Option Digest → List EntryFile → Except HostStateConflict (List JournalEntry)
  | _, _, [] => .ok []
  | expected, previous, f :: rest => do
    if f.name.sequence? ≠ some expected then .error ⟨"journal phases are not contiguous"⟩
    else do
      let e ← readFile "operation phase entry" (some f.file)
      checkEntry enc plan expected previous e
      if f.name ≠ .entry e.sequence e.phase then .error ⟨"journal phase chain is invalid"⟩
      else do
        let entries ← loadEntries enc plan (expected + 1) (some e.entryDigest) rest
        .ok (e :: entries)

/-- The order of four-digit names is the order of their numbers; a name that does not match comes
first, where it is met as one that is not contiguous. -/
def entryOrder (a b : EntryFile) : Prop := a.name.sequence?.getD 0 ≤ b.name.sequence?.getD 0

instance : DecidableRel entryOrder := fun _ _ => inferInstanceAs (Decidable (_ ≤ _))

def loadOperation (d : Directory) (id : String) : Except HostStateConflict JournalState := do
  let plan ← readFile "operation plan" d.plan
  if plan.valid = false then .error ⟨"host operation plan is invalid"⟩
  else if plan.operationId ≠ id then .error ⟨"operation plan binding is invalid"⟩
  else do
    let entries ← loadEntries enc plan 1 none (d.entries.rows.insertionSort entryOrder)
    .ok ⟨plan, entries⟩

def directoryOrder (a b : Directory) : Prop := a.name.text ≤ b.name.text

instance : DecidableRel directoryOrder := fun _ _ => inferInstanceAs (Decidable (_ ≤ _))

def loadNamed (d : Directory) : Except HostStateConflict JournalState :=
  match d.name with
  | .creating _ => .error ⟨"incomplete operation journal publication exists"⟩
  | .operation id =>
    if validIdentifier id = false then .error ⟨"operation journal name is invalid"⟩
    else loadOperation enc d id

def loadPending (disk : Disk) : Except HostStateConflict (Option JournalState) :=
  if disk.root = false ∨ disk.operations = false then .ok none
  else do
    let states ← (disk.directories.rows.insertionSort directoryOrder).mapM (loadNamed enc)
    match states.filter (!·.terminal) with
    | [] => .ok none
    | [state] => .ok (some state)
    | _ => .error ⟨"multiple pending host operations exist"⟩

end

open Program

def layout : Program Disk HostStateConflict Unit := do
  effectUnless (·.root) (fun d => { d with root := true })
    ⟨"host state root cannot be created safely"⟩
  effectUnless (·.operations) (fun d => { d with operations := true })
    ⟨"host operations directory cannot be created safely"⟩

def addDirectory (dir : Directory) (d : Disk) : Disk :=
  { d with directories := d.directories.insertIgnore dir }

def removeDirectory (name : DirectoryName) (d : Disk) : Disk :=
  { d with directories := d.directories.deleteWhere fun dir => dir.name = name }

def updateDirectory (name : DirectoryName) (f : Directory → Directory)
    (hf : ∀ dir, (f dir).name = dir.name) (d : Disk) : Disk :=
  { d with directories := d.directories.updateWhere (fun dir => dir.name = name) f hf }

def setPlan (name : DirectoryName) (plan : Option (File PlanDocument)) : Disk → Disk :=
  updateDirectory name (fun dir => { dir with plan }) fun _ => rfl

section

variable (enc : Encoding) (id : String)

variable (plan : PlanDocument) (phase : String) (evidence : ℕ) (timestamp : String) (disk : Disk)

/-- The existing directories of `create`: every journal loads, and no other one is pending. -/
def checkOthers : Except HostStateConflict Unit :=
  (disk.directories.rows.insertionSort directoryOrder).forM fun dir =>
    match dir.name with
    | .creating _ => .ok ()
    | .operation name => do
      let state ← loadOperation enc dir name
      if name ≠ id ∧ state.terminal = false then .error ⟨"another host operation is pending"⟩
      else .ok ()

/-- What an interrupted `create` left of the operation is removed. -/
def clearCreating : Program Disk HostStateConflict Unit := do
  let d ← get
  match d.directories.get? (.creating id) with
  | none => pure ()
  | some dir => do
    if dir.plan.isSome then
      effect (setPlan (.creating id) none) ⟨"staging entry cannot be removed"⟩
    effect (removeDirectory (.creating id)) ⟨"staging directory cannot be removed"⟩

def publishPlan (d : Disk) : Disk :=
  let renamed := addDirectory { name := .operation plan.operationId, plan := some (.whole plan) }
    (removeDirectory (.creating plan.operationId) d)
  { renamed with published := d.published ++ [.plan plan] }

def writePlan : Program Disk HostStateConflict JournalState := do
  clearCreating plan.operationId
  effect (addDirectory { name := .creating plan.operationId })
    ⟨"operation journal staging directory cannot be created"⟩
  effect (setPlan (.creating plan.operationId) (some .part))
    ⟨"operation plan already exists or is unsafe"⟩
  effect (setPlan (.creating plan.operationId) (some (.whole plan)))
    ⟨"host state write was incomplete"⟩
  effect (publishPlan plan) ⟨"operation journal cannot be published"⟩
  pure ⟨plan, []⟩

def createJournal : Program Disk HostStateConflict JournalState := do
  check (checkOthers enc plan.operationId)
  let d ← get
  match d.directories.get? (.operation plan.operationId) with
  | none => writePlan plan
  | some dir => check fun _ => do
    let existing ← loadOperation enc dir plan.operationId
    if existing.plan ≠ plan then .error ⟨"operation journal already exists"⟩
    else .ok existing

def create : Program Disk HostStateConflict JournalState :=
  if plan.valid = false then raise ⟨"host operation plan is invalid"⟩
  else do
    layout
    createJournal enc plan

def updateEntries (f : Table EntryFile → Table EntryFile) : Disk → Disk :=
  updateDirectory (.operation id) (fun dir => { dir with entries := f dir.entries }) fun _ => rfl

def putFile (file : EntryFile) (t : Table EntryFile) : Table EntryFile :=
  (t.deleteWhere fun f => f.name = file.name).insertIgnore file

def publishEntry (e : JournalEntry) (token : ℕ) (d : Disk) : Disk :=
  let renamed := updateEntries e.operationId (fun t =>
    putFile ⟨.entry e.sequence e.phase, .whole e⟩
      (t.deleteWhere fun f => f.name = .temporary e.sequence e.phase token)) d
  { renamed with published := d.published ++ [.entry e] }

def nextEntry (state : JournalState) (phase : String) (evidence : ℕ) (timestamp : String) :
    JournalEntry :=
  let core : EntryCore :=
    { evidence, operationId := state.plan.operationId, phase, planDigest := state.plan.planDigest
      previousEntryDigest := state.entries.getLast?.map (·.entryDigest)
      sequence := state.entries.length + 1, timestamp }
  { core with entryDigest := enc.digest core }

def loadJournal : Except HostStateConflict JournalState :=
  match disk.directories.get? (.operation id) with
  | none => .error ⟨"operation journal directory is missing or unsafe"⟩
  | some dir => loadOperation enc dir id

def prepareEntry : Except HostStateConflict JournalEntry := do
  let state ← loadJournal enc id disk
  if state.terminal then .error ⟨"operation journal is already terminal"⟩
  else if timestamp.length = 0 ∨ 64 < timestamp.length then
    .error ⟨"journal timestamp is invalid"⟩
  else if maxDocumentBytes < enc.size (nextEntry enc state phase evidence timestamp) then
    .error ⟨"journal phase entry exceeds its size bound"⟩
  else .ok (nextEntry enc state phase evidence timestamp)

/-- `_write_new_atomic_at`; `token` is the random part of the temporary name. -/
def writeEntry (e : JournalEntry) (token : ℕ) : Program Disk HostStateConflict Unit := do
  effect (updateEntries e.operationId (putFile ⟨.temporary e.sequence e.phase token, .part⟩))
    ⟨"operation phase entry already exists or is unsafe"⟩
  effect (updateEntries e.operationId (putFile ⟨.temporary e.sequence e.phase token, .whole e⟩))
    ⟨"host state write was incomplete"⟩
  effect (publishEntry e token) ⟨"operation phase entry cannot be published"⟩

def append (token : ℕ) : Program Disk HostStateConflict JournalState :=
  if validPhase phase = false then raise ⟨"journal phase is invalid"⟩
  else do
    layout
    let e ← check (prepareEntry enc id phase evidence timestamp)
    writeEntry e token
    check (loadJournal enc id)

end

end VonkForge.HostState
