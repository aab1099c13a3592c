import VonkForge.PhaseJournal
import VonkForge.Transactions
import Mathlib.Data.List.Perm.Basic

/-!
# The phase journal through kills

Calls of `create` and `append`, each of which may be killed after any number of its effects.
-/

namespace VonkForge.HostState

open Program Transactions

variable {d : Disk} {enc : Encoding} {j : JournalState} {es : List JournalEntry}
  {js : List JournalState} {previous : Option Digest} {plan : PlanDocument}
  {phase id timestamp : String} {expected n evidence : ℕ}

/-! ### The published journal -/

def publish (js : List JournalState) : Publication → List JournalState
  | .plan plan => js ++ [⟨plan, []⟩]
  | .entry e => js.map fun j =>
      if j.plan.operationId = e.operationId then { j with entries := j.entries ++ [e] } else j

def journalsOf (ps : List Publication) : List JournalState := ps.foldl publish []

def pendingOf (js : List JournalState) : Option JournalState := js.find? (!·.terminal)

def Chained (enc : Encoding) (plan : PlanDocument) : ℕ → Option Digest → List JournalEntry → Prop
  | _, _, [] => True
  | expected, previous, e :: rest =>
    checkEntry enc plan expected previous e = .ok () ∧ expected < 10000 ∧
      Chained enc plan (expected + 1) (some e.entryDigest) rest

structure ValidJournal (enc : Encoding) (j : JournalState) : Prop where
  plan : j.plan.valid = true
  entries : Chained enc j.plan 1 none j.entries

section Chains

variable {e : JournalEntry}

lemma checkEntry_ok_iff : checkEntry enc plan expected previous e = .ok () ↔
    e.entryDigest = enc.digest e.toEntryCore ∧ e.operationId = plan.operationId ∧
      e.planDigest = plan.planDigest ∧ e.sequence = expected ∧ validPhase e.phase = true ∧
      e.previousEntryDigest = previous ∧ 1 ≤ e.timestamp.length ∧ e.timestamp.length ≤ 64 := by
  unfold checkEntry
  split
  · next h => simp [h]
  next h =>
  split
  · next hrest => simp [not_not.mp h, hrest]
  next hrest => simp [hrest]

variable (h : Chained enc plan expected previous es)

include h

lemma Chained.sequences : ∀ e ∈ es, expected ≤ e.sequence ∧ e.sequence < expected + es.length := by
  induction es generalizing expected previous with
  | nil => simp
  | cons e es ih =>
    intro x hx
    obtain ⟨hcheck, -, hrest⟩ := h
    rw [List.length_cons]
    rcases List.mem_cons.mp hx with rfl | hx
    · rw [(checkEntry_ok_iff.mp hcheck).2.2.2.1]
      omega
    have := ih hrest x hx
    omega

lemma Chained.append
    (hcheck : checkEntry enc plan (expected + es.length)
      ((es.getLast?.map (·.entryDigest)).or previous) e = .ok ())
    (hlt : expected + es.length < 10000) : Chained enc plan expected previous (es ++ [e]) := by
  induction es generalizing expected previous with
  | nil => exact ⟨by simpa using hcheck, by simpa using hlt, trivial⟩
  | cons x es ih =>
    obtain ⟨hx, hxlt, hrest⟩ := h
    refine ⟨hx, hxlt, ih hrest ?_ ?_⟩
    · rw [List.length_cons, ← add_assoc, add_right_comm] at hcheck
      cases es with
      | nil => simpa using hcheck
      | cons => simpa [List.getLast?_cons_cons, List.getLast?_cons] using hcheck
    simp only [List.length_cons] at hlt
    omega

end Chains

/-! ### What the disk holds -/

def entryFile (e : JournalEntry) : EntryFile := ⟨.entry e.sequence e.phase, .whole e⟩

structure Holds (dir : Directory) (j : JournalState) : Prop where
  name : dir.name = .operation j.plan.operationId
  plan : dir.plan = some (.whole j.plan)
  entries : dir.entries.rows = j.entries.map entryFile

structure Mirrors (enc : Encoding) (d : Disk) (js : List JournalState) : Prop where
  published : js = journalsOf d.published
  files : List.Forall₂ Holds d.directories.rows js
  valid : ∀ j ∈ js, ValidJournal enc j
  pending : (js.filter (!·.terminal)).length ≤ 1
  laidOut : js ≠ [] → d.root = true ∧ d.operations = true

section Loading

variable {dir : Directory}

lemma sequence?_entry {sequence : ℕ} (hlt : sequence < 10000) (hphase : validPhase phase = true) :
    (EntryName.entry sequence phase).sequence? = some sequence := by
  simp only [validPhase, edged, Bool.and_eq_true, decide_eq_true_eq] at hphase
  obtain ⟨⟨⟨hlen, hall⟩, hhead⟩, -⟩ := hphase
  simp only [EntryName.sequence?, hlt, hlen, hhead, hall, and_self, if_true]

variable {dirs : List Directory}

section

variable (h : Chained enc plan expected previous es)

include h

lemma loadEntries_map : loadEntries enc plan expected previous (es.map entryFile) = .ok es := by
  induction es generalizing expected previous with
  | nil => rfl
  | cons e es ih =>
    obtain ⟨hcheck, hlt, hrest⟩ := h
    obtain ⟨-, -, -, hseq, hphase, -⟩ := checkEntry_ok_iff.mp hcheck
    have hname : (entryFile e).name.sequence? = some expected := by
      rw [← hseq] at hlt ⊢
      exact sequence?_entry hlt hphase
    rw [List.map_cons, loadEntries, if_neg (not_not.mpr hname)]
    simp only [entryFile, readFile, ok_bind, hcheck, ne_eq, not_true_eq_false, if_false]
    rw [ih hrest]
    rfl

lemma Chained.read_back : ∀ e ∈ es, (entryFile e).name.sequence? = some e.sequence := by
  induction es generalizing expected previous with
  | nil => simp
  | cons e es ih =>
    obtain ⟨hcheck, hlt, hrest⟩ := h
    obtain ⟨-, -, -, hseq, hphase, -⟩ := checkEntry_ok_iff.mp hcheck
    intro x hx
    rcases List.mem_cons.mp hx with rfl | hx
    · exact sequence?_entry (hseq ▸ hlt) hphase
    exact ih hrest x hx

lemma entryFile_pairwise : (es.map entryFile).Pairwise entryOrder := by
  induction es generalizing expected previous with
  | nil => exact List.Pairwise.nil
  | cons e es ih =>
    have hread := h.read_back
    obtain ⟨hcheck, -, hrest⟩ := h
    have hseq := (checkEntry_ok_iff.mp hcheck).2.2.2.1
    refine List.pairwise_cons.mpr ⟨?_, ih hrest⟩
    intro f hf
    obtain ⟨x, hx, rfl⟩ := List.mem_map.mp hf
    have hlater := hrest.sequences x hx
    unfold entryOrder
    rw [hread e List.mem_cons_self, hread x (.tail _ hx), Option.getD_some,
      Option.getD_some]
    omega

end

lemma loadOperation_of_holds (h : Holds dir j) (hv : ValidJournal enc j) :
    loadOperation enc dir j.plan.operationId = .ok j := by
  unfold loadOperation
  rw [h.plan]
  simp only [readFile, ok_bind, hv.plan, Bool.true_eq_false, if_false, ne_eq, not_true_eq_false]
  rw [h.entries, (entryFile_pairwise hv.entries).insertionSort_eq, loadEntries_map hv.entries]
  rfl

lemma loadNamed_of_holds (h : Holds dir j) (hv : ValidJournal enc j) :
    loadNamed enc dir = .ok j := by
  have hid : validIdentifier j.plan.operationId = true := by
    have hplan := hv.plan
    simp only [PlanDocument.valid, Bool.and_eq_true] at hplan
    exact hplan.1.1
  unfold loadNamed
  rw [h.name]
  simp only [hid, Bool.true_eq_false, if_false]
  exact loadOperation_of_holds h hv

lemma forall₂_sorted (h : List.Forall₂ Holds d.directories.rows js) :
    ∃ js', List.Forall₂ Holds (d.directories.rows.insertionSort directoryOrder) js' ∧
      js'.Perm js := by
  obtain ⟨js', hjs', hperm⟩ :=
    List.perm_comp_forall₂ (List.perm_insertionSort directoryOrder d.directories.rows) h
  exact ⟨js', hjs', hperm⟩

lemma filter_pending (hone : (js.filter (!·.terminal)).length ≤ 1) :
    js.filter (!·.terminal) = (pendingOf js).toList := by
  unfold pendingOf
  rw [← List.head?_filter]
  match hf : js.filter (!·.terminal) with
  | [] => rw [hf]; rfl
  | [j] => rw [hf]; rfl
  | j :: k :: rest =>
    rw [hf] at hone
    simp at hone

section

variable (h : List.Forall₂ Holds dirs js)

include h

lemma mapM_loadNamed (hv : ∀ j ∈ js, ValidJournal enc j) : dirs.mapM (loadNamed enc) = .ok js := by
  induction h with
  | nil => rfl
  | @cons dir j dirs js hdir hrest ih =>
    rw [List.mapM_cons, loadNamed_of_holds hdir (hv j List.mem_cons_self), ok_bind,
      ih fun x hx => hv x (.tail _ hx)]
    rfl

lemma exists_holds : ∀ dir ∈ dirs, ∃ j ∈ js, Holds dir j := by
  induction h with
  | nil => simp
  | @cons x y xs ys hxy _ ih =>
    intro dir hdir
    rcases List.mem_cons.mp hdir with rfl | hdir
    · exact ⟨y, List.mem_cons_self, hxy⟩
    obtain ⟨j, hj, hh⟩ := ih dir hdir
    exact ⟨j, .tail _ hj, hh⟩

lemma holds_and_mem : List.Forall₂ (fun dir j => Holds dir j ∧ j ∈ js) dirs js := by
  induction h with
  | nil => exact .nil
  | cons hxy _ ih =>
    refine .cons ⟨hxy, List.mem_cons_self⟩ (ih.imp ?_)
    exact fun _ _ hj => ⟨hj.1, .tail _ hj.2⟩

lemma names_of_holds : dirs.map (·.name) = js.map fun j => .operation j.plan.operationId := by
  induction h with
  | nil => rfl
  | cons hxy _ ih => rw [List.map_cons, List.map_cons, hxy.name, ih]

end

variable (h : Mirrors enc d js)

include h

lemma Mirrors.loadPending : loadPending enc d = .ok (pendingOf js) := by
  unfold HostState.loadPending
  split
  · next hmissing =>
    cases js with
    | nil => rfl
    | cons =>
      obtain ⟨hroot, hops⟩ := h.laidOut (by simp)
      simp [hroot, hops] at hmissing
  obtain ⟨js', hjs', hperm⟩ := forall₂_sorted h.files
  rw [mapM_loadNamed hjs' fun j hj => h.valid j (hperm.mem_iff.mp hj), ok_bind]
  have hlen : (js'.filter (!·.terminal)).length ≤ 1 :=
    (hperm.filter _).length_eq ▸ h.pending
  -- a list of one element at most has one order
  have hsame : js'.filter (!·.terminal) = (pendingOf js).toList := by
    have hp := hperm.filter (fun j => !j.terminal)
    rw [filter_pending h.pending] at hp
    cases hpend : pendingOf js with
    | none =>
      rw [hpend] at hp
      exact List.perm_nil.mp hp
    | some =>
      rw [hpend] at hp
      exact List.perm_singleton.mp hp
  rw [hsame]
  cases pendingOf js <;> rfl

lemma Mirrors.get? (hdir : d.directories.get? (.operation id) = some dir) :
    ∃ j ∈ js, j.plan.operationId = id ∧ Holds dir j := by
  have hkey : dir.name = .operation id := Table.get?_key hdir
  obtain ⟨j, hj, hholds⟩ := exists_holds h.files dir (Table.mem_of_get? hdir)
  refine ⟨j, hj, ?_, hholds⟩
  rw [hholds.name] at hkey
  exact DirectoryName.operation.inj hkey

lemma Mirrors.not_creating (id : String) : ∀ dir ∈ d.directories.rows, dir.name ≠ .creating id := by
  intro dir hdir hname
  obtain ⟨j, -, hholds⟩ := exists_holds h.files dir hdir
  rw [hholds.name] at hname
  cases hname

lemma Mirrors.eq_of_id {k : JournalState} (hj : j ∈ js) (hk : k ∈ js)
    (hid : j.plan.operationId = k.plan.operationId) : j = k := by
  have hnodup : (js.map fun j => DirectoryName.operation j.plan.operationId).Nodup := by
    rw [← names_of_holds h.files]
    exact d.directories.nodup_keys
  exact List.inj_on_of_nodup_map hnodup hj hk (by rw [hid])

lemma Mirrors.get?_eq_none :
    d.directories.get? (.operation id) = none ↔ ∀ j ∈ js, j.plan.operationId ≠ id := by
  have hnames := names_of_holds h.files
  rw [Table.get?_eq_none]
  constructor
  · intro hnone j hj hid
    have hmem : DirectoryName.operation id ∈ d.directories.rows.map (·.name) := by
      rw [hnames]
      exact List.mem_map.mpr ⟨j, hj, by rw [hid]⟩
    obtain ⟨dir, hdir, hname⟩ := List.mem_map.mp hmem
    exact hnone dir hdir hname
  intro hnone dir hdir hname
  obtain ⟨j, hj, hholds⟩ := exists_holds h.files dir hdir
  rw [key_directory, hholds.name] at hname
  exact hnone j hj (DirectoryName.operation.inj hname)

lemma Mirrors.of_disk {t : Disk} (hdirs : t.directories = d.directories)
    (hpub : t.published = d.published) (hflags : js ≠ [] → t.root = true ∧ t.operations = true) :
    Mirrors enc t js := by
  refine ⟨?_, ?_, h.valid, h.pending, hflags⟩
  · rw [hpub]
    exact h.published
  rw [hdirs]
  exact h.files

lemma Mirrors.loadJournal (hj : j ∈ js) : loadJournal enc j.plan.operationId d = .ok j := by
  unfold HostState.loadJournal
  cases hdir : d.directories.get? (.operation j.plan.operationId) with
  | none => exact absurd rfl (h.get?_eq_none.mp hdir j hj)
  | some =>
    obtain ⟨k, hk, hid, hholds⟩ := h.get? hdir
    obtain rfl := h.eq_of_id hk hj hid
    exact loadOperation_of_holds hholds (h.valid k hk)

lemma Mirrors.checkOthers_ok_iff :
    checkOthers enc id d = .ok () ↔ ∀ j ∈ js, j.plan.operationId ≠ id → j.terminal = true := by
  unfold checkOthers
  rw [forM_ok_iff]
  have hone : ∀ dir j, j ∈ js → Holds dir j →
      ((do
        let state ← loadOperation enc dir j.plan.operationId
        if j.plan.operationId ≠ id ∧ state.terminal = false then
          .error ⟨"another host operation is pending"⟩
        else .ok ()) = (Except.ok () : Except HostStateConflict Unit) ↔
        (j.plan.operationId ≠ id → j.terminal = true)) := by
    intro dir j hj hholds
    simp only [loadOperation_of_holds hholds (h.valid j hj), ok_bind]
    split
    · next hbad => simp [hbad]
    next hgood => simpa using hgood
  constructor
  · intro hall j hj hid
    have hmem : DirectoryName.operation j.plan.operationId ∈ d.directories.rows.map (·.name) := by
      rw [names_of_holds h.files]
      exact List.mem_map.mpr ⟨j, hj, rfl⟩
    obtain ⟨dir, hdir, hname⟩ := List.mem_map.mp hmem
    obtain ⟨k, hk, hholds⟩ := exists_holds h.files dir hdir
    have hkj : k = j := by
      refine h.eq_of_id hk hj ?_
      rw [hholds.name] at hname
      exact DirectoryName.operation.inj hname
    subst hkj
    have hok := hall dir ((List.mem_insertionSort directoryOrder).mpr hdir)
    rw [hholds.name] at hok
    exact (hone dir k hk hholds).mp hok hid
  intro hterm dir hdir
  obtain ⟨j, hj, hholds⟩ := exists_holds h.files dir
    ((List.mem_insertionSort directoryOrder).mp hdir)
  rw [hholds.name]
  exact (hone dir j hj hholds).mpr (hterm j hj)

end Loading

section Layout

def layoutEffects (d : Disk) : ℕ :=
  (if d.root then 0 else 1) + if d.operations then 0 else 1

def laidOut (d : Disk) : Disk := { d with root := true, operations := true }

lemma layout_done (d : Disk) {kill : Option ℕ} (h : ∀ n, kill = some n → layoutEffects d ≤ n) :
    layout.run d (fatesOf kill) =
      ⟨.done (), laidOut d, fatesOf (kill.map (· - layoutEffects d))⟩ := by
  obtain ⟨root, operations, directories, published⟩ := d
  cases kill with
  | none => cases root <;> cases operations <;> rfl
  | some n =>
    have hn := h n rfl
    cases root <;> cases operations <;> simp only [layoutEffects] at hn
    iterate 3
      · obtain ⟨m, rfl⟩ := Nat.exists_eq_add_of_le' hn
        rfl
    rfl

lemma layout_killed (d : Disk) (h : n < layoutEffects d) :
    ∃ t fs, layout.run d (killAfter n) = ⟨.killed, t, fs⟩ ∧ t.directories = d.directories ∧
      t.published = d.published := by
  obtain ⟨root, operations, directories, published⟩ := d
  cases root <;> cases operations <;> simp [layoutEffects] at h
  · obtain rfl | rfl : n = 0 ∨ n = 1 := by omega
    · exact ⟨_, _, rfl, rfl, rfl⟩
    exact ⟨_, _, rfl, rfl, rfl⟩
  · subst h
    exact ⟨_, _, rfl, rfl, rfl⟩
  subst h
  exact ⟨_, _, rfl, rfl, rfl⟩

end Layout

section Publication

variable (e : JournalEntry) (token : ℕ)

lemma mirrors_laidOut (h : Mirrors enc d js) : Mirrors enc (laidOut d) js :=
  h.of_disk rfl rfl fun _ => ⟨rfl, rfl⟩

def created (plan : PlanDocument) (d : Disk) : Disk :=
  publishPlan plan (setPlan (.creating plan.operationId) (some (.whole plan))
    (setPlan (.creating plan.operationId) (some .part)
      (addDirectory { name := .creating plan.operationId } d)))

lemma created_rows {plan : PlanDocument} (h : Mirrors enc d js)
    (hnew : ∀ j ∈ js, j.plan.operationId ≠ plan.operationId) :
    (created plan d).directories.rows = d.directories.rows ++
      [{ name := .operation plan.operationId, plan := some (.whole plan) }] := by
  have hhidden : ∀ dir ∈ d.directories.rows, dir.name ≠ .creating plan.operationId :=
    h.not_creating _
  have hadd : (d.directories.insertIgnore { name := .creating plan.operationId }).rows =
      d.directories.rows ++ [{ name := .creating plan.operationId }] :=
    Table.rows_insertIgnore (Table.get?_eq_none.mpr hhidden)
  -- the hidden directory is the last row, and the rename takes it away
  have hkept : ((((d.directories.insertIgnore { name := .creating plan.operationId }).updateWhere
      (fun dir => dir.name = .creating plan.operationId)
      (fun dir => { dir with plan := some .part }) (fun _ => rfl)).updateWhere
      (fun dir => dir.name = .creating plan.operationId)
      (fun dir => { dir with plan := some (.whole plan) }) (fun _ => rfl)).deleteWhere
      fun dir => dir.name = .creating plan.operationId).rows = d.directories.rows := by
    simp only [Table.deleteWhere, Table.updateWhere, hadd, List.map_append, List.map_map,
      List.filter_append]
    rw [List.filter_eq_self.mpr, List.filter_eq_nil_iff.mpr, List.append_nil]
    · conv_rhs => rw [← List.map_id d.directories.rows]
      refine List.map_congr_left fun dir hdir => ?_
      simp [hhidden dir hdir]
    · simp
    intro x hx
    obtain ⟨dir, hdir, rfl⟩ := List.mem_map.mp hx
    simp [hhidden dir hdir]
  have hfree : ∀ t : Table Directory, t.rows = d.directories.rows →
      t.get? (.operation plan.operationId) = none := by
    intro t ht
    have hnone := h.get?_eq_none.mpr hnew
    rw [Table.get?_eq_none] at hnone ⊢
    rw [ht]
    exact hnone
  unfold created publishPlan addDirectory
  rw [Table.rows_insertIgnore (hfree _ hkept)]
  exact congrArg (· ++ _) hkept

lemma journalsOf_append (ps : List Publication) (p : Publication) :
    journalsOf (ps ++ [p]) = publish (journalsOf ps) p := by
  unfold journalsOf
  rw [List.foldl_append]
  rfl

lemma mirrors_created (h : Mirrors enc d js) (hvalid : plan.valid = true)
    (hnew : ∀ j ∈ js, j.plan.operationId ≠ plan.operationId) (hterm : ∀ j ∈ js, j.terminal = true)
    (hroot : d.root = true) (hops : d.operations = true) :
    Mirrors enc (created plan d) (js ++ [⟨plan, []⟩]) where
  published := by
    have hpub : (created plan d).published = d.published ++ [.plan plan] := rfl
    rw [hpub, journalsOf_append, ← h.published]
    rfl
  files := by
    rw [created_rows h hnew]
    refine List.rel_append h.files (.cons ⟨rfl, rfl, rfl⟩ .nil)
  valid := by
    intro j hj
    rcases List.mem_append.mp hj with hj | hj
    · exact h.valid j hj
    rw [List.mem_singleton.mp hj]
    exact ⟨hvalid, trivial⟩
  pending := by
    rw [List.filter_append, List.filter_eq_nil_iff.mpr]
    · exact List.length_filter_le _ _
    intro j hj
    simp [hterm j hj]
  laidOut := fun _ => ⟨hroot, hops⟩

def appended (t : Table EntryFile) : Table EntryFile :=
  putFile ⟨.entry e.sequence e.phase, .whole e⟩
    ((putFile ⟨.temporary e.sequence e.phase token, .whole e⟩
      (putFile ⟨.temporary e.sequence e.phase token, .part⟩ t)).deleteWhere
        fun f => f.name = .temporary e.sequence e.phase token)

lemma appended_rows {e : JournalEntry} {token : ℕ} {t : Table EntryFile}
    (ht : t.rows = es.map entryFile) (hfresh : ∀ x ∈ es, x.sequence ≠ e.sequence) :
    (appended e token t).rows = (es ++ [e]).map entryFile := by
  have hplace : ∀ (file : EntryFile) (u : Table EntryFile),
      (putFile file u).rows = (u.rows.filter fun f => !(f.name = file.name : Bool)) ++ [file] := by
    intro file u
    unfold putFile
    rw [Table.rows_insertIgnore]
    · rfl
    refine Table.get?_eq_none.mpr fun f hf => ?_
    simpa [Keyed.key] using (Table.mem_deleteWhere.mp hf).2
  -- neither the temporary name nor the name of the entry is taken
  have htemp : ∀ f ∈ es.map entryFile, f.name ≠ .temporary e.sequence e.phase token := by
    intro f hf
    obtain ⟨x, -, rfl⟩ := List.mem_map.mp hf
    simp [entryFile]
  have hname : ∀ f ∈ es.map entryFile, f.name ≠ .entry e.sequence e.phase := by
    intro f hf
    obtain ⟨x, hx, rfl⟩ := List.mem_map.mp hf
    simp [entryFile, hfresh x hx]
  have hkeep : ∀ {name : EntryName}, (∀ f ∈ es.map entryFile, f.name ≠ name) →
      (es.map entryFile).filter (fun f => !(f.name = name : Bool)) = es.map entryFile := by
    intro name hnone
    refine List.filter_eq_self.mpr fun f hf => ?_
    simp [hnone f hf]
  unfold appended
  simp only [Table.deleteWhere, hplace, ht, List.filter_append, hkeep htemp, hkeep hname]
  simp [entryFile]

lemma updateEntries_comp (id : String) (f g : Table EntryFile → Table EntryFile) (d : Disk) :
    (updateEntries id f (updateEntries id g d)).directories =
      (updateEntries id (fun t => f (g t)) d).directories := by
  refine Table.ext_rows ?_
  simp only [updateEntries, updateDirectory, Table.updateWhere, List.map_map]
  refine List.map_congr_left fun dir _ => ?_
  by_cases hname : dir.name = .operation id <;> simp [hname]

def appendedTo (d : Disk) : Disk :=
  publishEntry e token (updateEntries e.operationId
    (putFile ⟨.temporary e.sequence e.phase token, .whole e⟩)
    (updateEntries e.operationId (putFile ⟨.temporary e.sequence e.phase token, .part⟩) d))

lemma appendedTo_directories (d : Disk) :
    (appendedTo e token d).directories.rows = d.directories.rows.map fun dir =>
      if dir.name = .operation e.operationId then
        { dir with entries := appended e token dir.entries }
      else dir := by
  have h : (appendedTo e token d).directories =
      (updateEntries e.operationId (appended e token) d).directories := by
    unfold appendedTo publishEntry
    rw [updateEntries_comp]
    exact updateEntries_comp _ _ _ _
  rw [h]
  simp [updateEntries, updateDirectory, Table.updateWhere]

lemma mirrors_appended {j : JournalState} {e : JournalEntry} (token : ℕ)
    (h : Mirrors enc d js) (hj : j ∈ js) (hopen : j.terminal = false)
    (hcheck : checkEntry enc j.plan (1 + j.entries.length)
      (j.entries.getLast?.map (·.entryDigest)) e = .ok ())
    (hlt : 1 + j.entries.length < 10000) (hroot : d.root = true) (hops : d.operations = true) :
    Mirrors enc (appendedTo e token d) (publish js (.entry e)) := by
  obtain ⟨-, hid, -, hseq, -⟩ := checkEntry_ok_iff.mp hcheck
  have hchain := (h.valid j hj).entries
  have hself : ∀ k ∈ js, k.plan.operationId = e.operationId → k = j := by
    intro k hk hkid
    exact h.eq_of_id hk hj (hkid.trans hid)
  refine ⟨?_, ?_, ?_, ?_, fun _ => ⟨hroot, hops⟩⟩
  · have hpub : (appendedTo e token d).published = d.published ++ [.entry e] := rfl
    rw [hpub, journalsOf_append, ← h.published]
  · rw [appendedTo_directories]
    unfold publish
    rw [List.forall₂_map_left_iff, List.forall₂_map_right_iff]
    refine (holds_and_mem h.files).imp ?_
    rintro dir k ⟨hholds, hk⟩
    by_cases hkid : k.plan.operationId = e.operationId
    · obtain rfl := hself k hk hkid
      have hname : dir.name = .operation e.operationId := by rw [hholds.name, hkid]
      rw [if_pos hname, if_pos hkid]
      refine ⟨hholds.name, hholds.plan, appended_rows hholds.entries ?_⟩
      intro x hx
      have := hchain.sequences x hx
      omega
    have hname : dir.name ≠ .operation e.operationId := by
      rw [hholds.name]
      exact fun heq => hkid (DirectoryName.operation.inj heq)
    rw [if_neg hname, if_neg hkid]
    exact hholds
  · intro k hk
    obtain ⟨k', hk', rfl⟩ := List.mem_map.mp hk
    split
    · next hkid =>
      obtain rfl := hself k' hk' hkid
      exact ⟨(h.valid k' hk').plan, hchain.append (by simpa using hcheck) hlt⟩
    exact h.valid k' hk'
  rw [← List.countP_eq_length_filter]
  unfold publish
  rw [List.countP_map]
  refine le_trans (List.countP_mono_left ?_) (List.countP_eq_length_filter (p := _) ▸ h.pending)
  intro k hk hpend
  simp only [Function.comp_apply] at hpend
  split at hpend
  · next hkid =>
    rw [hself k hk hkid, hopen]
    rfl
  exact hpend

end Publication

/-! ### Calls and runs -/

inductive JournalCall
  | create (plan : PlanDocument)
  | append (id phase : String) (evidence : ℕ) (timestamp : String) (token : ℕ)

/-- A call whose process is killed after some number of effects, or not at all. -/
structure JournalEvent where
  call : JournalCall
  kill : Option ℕ := none

section

variable (enc : Encoding) (d : Disk)

def JournalCall.program : JournalCall → Program Disk HostStateConflict JournalState
  | create plan => HostState.create enc plan
  | append id phase evidence timestamp token => HostState.append enc id phase evidence timestamp token

def journalStep (e : JournalEvent) : Except Empty (Disk × Outcome HostStateConflict JournalState) :=
  let ending := (e.call.program enc).run d (fatesOf e.kill)
  .ok (ending.state, ending.outcome)

def journalRun (events : List JournalEvent) : Disk :=
  run (journalStep enc) {} events

/-- The kill comes before the effects number `first`, …, `first + n`, or after all of them. -/
def outside (kill : Option ℕ) (first n : ℕ) : Bool :=
  kill.all fun k => k ≤ first || first + n ≤ k

def JournalCall.writes : JournalCall → Bool
  | create plan => plan.valid && (checkOthers enc plan.operationId d).toBool &&
      (d.directories.get? (.operation plan.operationId)).isNone
  | append id phase evidence timestamp _ =>
      validPhase phase && (prepareEntry enc id phase evidence timestamp d).toBool

/-- No kill falls between the first trace of a new journal or entry and its rename, and a new entry
has a number of four digits. -/
def spares (e : JournalEvent) : Bool :=
  !e.call.writes enc d ||
    match e.call with
    | .create _ => outside e.kill (layoutEffects d) 4
    | .append id phase evidence timestamp _ =>
      outside e.kill (layoutEffects d) 3 &&
        (e.kill.any (· ≤ layoutEffects d) ||
          (prepareEntry enc id phase evidence timestamp d).toOption.all (·.sequence < 10000))

end

section Calls

variable {kill : Option ℕ}

lemma outside_cases {first : ℕ} (h : outside kill first n = true)
    (hle : ∀ k, kill = some k → first ≤ k) :
    kill.any (· ≤ first) = true ∧ kill.map (· - first) = some 0 ∨
      kill.map (· - first) = none ∨ ∃ k, kill.map (· - first) = some (k + n) := by
  cases kill with
  | none => exact .inr (.inl rfl)
  | some k =>
    simp only [outside, Option.all_some, Bool.or_eq_true, decide_eq_true_eq] at h
    simp only [Option.any_some, Option.map_some, decide_eq_true_eq]
    rcases h with h | h
    · exact .inl ⟨h, by rw [Nat.sub_eq_zero_of_le h]⟩
    refine .inr (.inr ⟨k - (first + n), ?_⟩)
    congr 1
    omega

/-! #### `create` -/

lemma createJournal_new {fs : List Fate} (hcheck : checkOthers enc plan.operationId d = .ok ())
    (hnew : d.directories.get? (.operation plan.operationId) = none) :
    (createJournal enc plan).run d fs = (writePlan plan).run d fs := by
  unfold createJournal
  rw [run_bind_done (run_check_of_ok hcheck), run_get_bind, hnew]

lemma createJournal_state (fs : List Fate) (hw : checkOthers enc plan.operationId d = .ok () →
      d.directories.get? (.operation plan.operationId) ≠ none) :
    ((createJournal enc plan).run d fs).state = d := by
  unfold createJournal
  cases hcheck : checkOthers enc plan.operationId d with
  | error => rw [run_bind_of_raised (run_check_of_error hcheck)]
  | ok =>
    rw [run_bind_done (run_check_of_ok hcheck), run_get_bind]
    cases hdir : d.directories.get? (.operation plan.operationId) with
    | none => exact absurd hdir (hw hcheck)
    | some => exact run_check_state _

/-! #### `append` -/

lemma prepareEntry_ok {e : JournalEntry}
    (h : prepareEntry enc id phase evidence timestamp d = .ok e) :
    ∃ state, loadJournal enc id d = .ok state ∧ state.terminal = false ∧
      (1 ≤ timestamp.length ∧ timestamp.length ≤ 64) ∧
      e = nextEntry enc state phase evidence timestamp := by
  obtain ⟨state, hload, h⟩ := of_bind_ok h
  split at h
  · cases h
  next hopen =>
  split at h
  · cases h
  next htime =>
  split at h
  · cases h
  refine ⟨state, hload, by simpa using hopen, by omega, ?_⟩
  exact (Except.ok.inj h).symm

lemma checkEntry_nextEntry (state : JournalState) (evidence : ℕ)
    (hphase : validPhase phase = true) (htime : 1 ≤ timestamp.length ∧ timestamp.length ≤ 64) :
    checkEntry enc state.plan (1 + state.entries.length)
      (state.entries.getLast?.map (·.entryDigest))
      (nextEntry enc state phase evidence timestamp) = .ok () :=
  checkEntry_ok_iff.mpr ⟨rfl, rfl, rfl, Nat.add_comm _ _, hphase, rfl, htime.1, htime.2⟩

lemma writeEntry_run (e : JournalEntry) (token : ℕ)
    (hkill : kill = none ∨ ∃ k, kill = some (k + 3)) :
    (writeEntry e token).run d (fatesOf kill) =
      ⟨.done (), appendedTo e token d, fatesOf (kill.map (· - 3))⟩ := by
  rcases hkill with rfl | ⟨k, rfl⟩
  · rfl
  rfl

variable (h : Mirrors enc d js)

include h

lemma mirrors_layout {α : Type} {f : Unit → Program Disk HostStateConflict α}
    (hf : (∀ k, kill = some k → layoutEffects d ≤ k) → ∃ js', Mirrors enc
      ((f ()).run (laidOut d) (fatesOf (kill.map (· - layoutEffects d)))).state js') :
    ∃ js', Mirrors enc ((layout >>= f).run d (fatesOf kill)).state js' := by
  by_cases hle : ∀ k, kill = some k → layoutEffects d ≤ k
  · rw [run_bind_done (layout_done d hle)]
    exact hf hle
  push Not at hle
  obtain ⟨k, rfl, hlt⟩ := hle
  obtain ⟨t, fs, hrun, hdirs, hpub⟩ := layout_killed d hlt
  rw [fatesOf, run_bind_of_killed hrun]
  refine ⟨js, h.of_disk hdirs hpub fun hne => ?_⟩
  -- a journal is there, so the directories were there
  obtain ⟨hroot, hops⟩ := h.laidOut hne
  simp [layoutEffects, hroot, hops] at hlt

lemma clearCreating_run (id : String) (fs : List Fate) :
    (clearCreating id).run d fs = ⟨.done (), d, fs⟩ := by
  have hnone := Table.get?_eq_none.mpr (h.not_creating id)
  unfold clearCreating
  rw [run_get_bind, hnone]
  rfl

lemma writePlan_killed : ((writePlan plan).run d (killAfter 0)).state = d := by
  unfold writePlan
  rw [run_bind_done (clearCreating_run h _ _)]
  rfl

lemma writePlan_run (hkill : kill = none ∨ ∃ k, kill = some (k + 4)) :
    (writePlan plan).run d (fatesOf kill) =
      ⟨.done ⟨plan, []⟩, created plan d, fatesOf (kill.map (· - 4))⟩ := by
  unfold writePlan
  rw [run_bind_done (clearCreating_run h _ _)]
  rcases hkill with rfl | ⟨k, rfl⟩
  · rfl
  rfl

lemma mirrors_create (hs : spares enc d ⟨.create plan, kill⟩ = true) :
    ∃ js', Mirrors enc ((create enc plan).run d (fatesOf kill)).state js' := by
  unfold create
  cases hvalid : plan.valid with
  | false => exact ⟨js, h⟩
  | true =>
    refine mirrors_layout h fun hle => ?_
    have hl := mirrors_laidOut h
    by_cases hw : checkOthers enc plan.operationId d = .ok () ∧
        d.directories.get? (.operation plan.operationId) = none
    · obtain ⟨hcheck, hnew⟩ := hw
      have hout : outside kill (layoutEffects d) 4 = true := by
        simpa [spares, JournalCall.writes, hvalid, hcheck, hnew, Except.toBool] using hs
      rw [createJournal_new (d := laidOut d) hcheck hnew]
      rcases outside_cases hout hle with ⟨-, hzero⟩ | hkill
      · rw [hzero, fatesOf, writePlan_killed hl]
        exact ⟨js, hl⟩
      rw [writePlan_run hl hkill]
      have hothers := h.get?_eq_none.mp hnew
      exact ⟨_, mirrors_created hl hvalid hothers
        (fun j hj => h.checkOthers_ok_iff.mp hcheck j hj (hothers j hj)) rfl rfl⟩
    rw [createJournal_state (d := laidOut d) _ fun hcheck hnew => hw ⟨hcheck, hnew⟩]
    exact ⟨js, hl⟩

lemma Mirrors.of_loadJournal {state : JournalState}
    (hload : HostState.loadJournal enc id d = .ok state) :
    state ∈ js ∧ state.plan.operationId = id := by
  unfold HostState.loadJournal at hload
  cases hdir : d.directories.get? (.operation id) with
  | none => simp [hdir] at hload
  | some =>
    obtain ⟨j, hj, rfl, hholds⟩ := h.get? hdir
    simp only [hdir, loadOperation_of_holds hholds (h.valid j hj), Except.ok.injEq] at hload
    subst hload
    exact ⟨hj, rfl⟩

lemma mirrors_append {token : ℕ}
    (hs : spares enc d ⟨.append id phase evidence timestamp token, kill⟩ = true) :
    ∃ js', Mirrors enc
      ((append enc id phase evidence timestamp token).run d (fatesOf kill)).state js' := by
  unfold append
  cases hphase : validPhase phase with
  | false => exact ⟨js, h⟩
  | true =>
    refine mirrors_layout h fun hle => ?_
    have hl := mirrors_laidOut h
    cases hprep : prepareEntry enc id phase evidence timestamp d with
    | error x =>
      have hsame : prepareEntry enc id phase evidence timestamp (laidOut d) = .error x := hprep
      rw [run_bind_of_raised (run_check_of_error hsame)]
      exact ⟨js, hl⟩
    | ok e =>
      have hsame : prepareEntry enc id phase evidence timestamp (laidOut d) = .ok e := hprep
      rw [run_bind_done (run_check_of_ok hsame)]
      have hcond : outside kill (layoutEffects d) 3 = true ∧
          (kill.any (· ≤ layoutEffects d) = true ∨ e.sequence < 10000) := by
        simpa [spares, JournalCall.writes, hphase, hprep, Except.toBool, Except.toOption] using hs
      obtain ⟨hout, hseq⟩ := hcond
      obtain ⟨state, hload, hopen, htime, rfl⟩ := prepareEntry_ok hprep
      obtain ⟨hmem, -⟩ := h.of_loadJournal hload
      rcases outside_cases hout hle with ⟨-, hzero⟩ | hkill
      · rw [hzero]
        exact ⟨js, hl⟩
      rw [run_bind_done (writeEntry_run _ token hkill), run_check_state]
      refine ⟨_, mirrors_appended _ hl hmem hopen (checkEntry_nextEntry state _ hphase htime) ?_
        rfl rfl⟩
      rcases hseq with hearly | hlt
      · -- a kill before the first effect is not one after the last
        cases kill with
        | none => simp at hearly
        | some =>
          simp only [Option.any_some, decide_eq_true_eq] at hearly
          simp only [Option.map_some, reduceCtorEq, Option.some.injEq, false_or] at hkill
          omega
      exact lt_of_eq_of_lt (Nat.add_comm _ _) hlt

lemma mirrors_step {e : JournalEvent} (hs : spares enc d e = true) :
    ∃ js', Mirrors enc ((e.call.program enc).run d (fatesOf e.kill)).state js' := by
  obtain ⟨call, kill⟩ := e
  cases call with
  | create => exact mirrors_create h hs
  | append => exact mirrors_append h hs

end Calls

/-! ### A journal that can be used -/

/-- The pending operation is the one that was published, and the next call does its work. -/
structure Usable (enc : Encoding) (d : Disk) : Prop where
  pending : loadPending enc d = .ok (pendingOf (journalsOf d.published))
  create : pendingOf (journalsOf d.published) = none → ∀ plan : PlanDocument, plan.valid = true →
    (∀ j ∈ journalsOf d.published, j.plan.operationId = plan.operationId → j.plan = plan) →
    ((HostState.create enc plan).run d []).outcome =
      .done (((journalsOf d.published).find? (·.plan = plan)).getD ⟨plan, []⟩)
  append : ∀ j, pendingOf (journalsOf d.published) = some j → j.entries.length < 9999 →
    ∀ phase evidence timestamp token, validPhase phase = true →
    1 ≤ timestamp.length ∧ timestamp.length ≤ 64 →
    enc.size (nextEntry enc j phase evidence timestamp) ≤ maxDocumentBytes →
    ((HostState.append enc j.plan.operationId phase evidence timestamp token).run d []).outcome =
      .done ⟨j.plan, j.entries ++ [nextEntry enc j phase evidence timestamp]⟩

section Usable

lemma layout_done_nil (d : Disk) : layout.run d [] = ⟨.done (), laidOut d, []⟩ :=
  @layout_done d none fun _ h => nomatch h

lemma Mirrors.create_done (h : Mirrors enc d js) (hterm : ∀ j ∈ js, j.terminal = true)
    (hvalid : plan.valid = true)
    (hsame : ∀ j ∈ js, j.plan.operationId = plan.operationId → j.plan = plan) :
    ((HostState.create enc plan).run d []).outcome =
      .done ((js.find? (·.plan = plan)).getD ⟨plan, []⟩) := by
  have hl := mirrors_laidOut h
  have hcheck : checkOthers enc plan.operationId (HostState.laidOut d) = .ok () :=
    hl.checkOthers_ok_iff.mpr fun j hj _ => hterm j hj
  unfold HostState.create
  rw [if_neg (by simp [hvalid]), run_bind_done (layout_done_nil d)]
  cases hdir : (HostState.laidOut d).directories.get? (.operation plan.operationId) with
  | none =>
    have hnone : js.find? (·.plan = plan) = none := by
      rw [List.find?_eq_none]
      intro j hj hplan
      exact hl.get?_eq_none.mp hdir j hj (by rw [of_decide_eq_true hplan])
    rw [createJournal_new hcheck hdir, hnone]
    exact congrArg Ending.outcome (writePlan_run hl (.inl rfl))
  | some =>
    obtain ⟨j, hj, hid, hholds⟩ := hl.get? hdir
    have hplan := hsame j hj hid
    have hfind : js.find? (·.plan = plan) = some j := by
      cases hfind : js.find? (·.plan = plan) with
      | none => exact absurd hplan (by simpa using List.find?_eq_none.mp hfind j hj)
      | some k =>
        have hk : k.plan = plan := by simpa using List.find?_some hfind
        rw [h.eq_of_id (List.mem_of_find?_eq_some hfind) hj (by rw [hk, hplan])]
    unfold createJournal
    rw [run_bind_done (run_check_of_ok hcheck), run_get_bind, hdir, hfind, Option.getD_some]
    have hload := loadOperation_of_holds hholds (h.valid j hj)
    rw [hid] at hload
    refine congrArg Ending.outcome (run_check_of_ok ?_)
    rw [hload, ok_bind, if_neg (not_not.mpr hplan)]

lemma Mirrors.append_done (h : Mirrors enc d js) (hj : j ∈ js) (hopen : j.terminal = false)
    (hlen : j.entries.length < 9999) (token : ℕ) (hphase : validPhase phase = true)
    (htime : 1 ≤ timestamp.length ∧ timestamp.length ≤ 64)
    (hsize : enc.size (nextEntry enc j phase evidence timestamp) ≤ maxDocumentBytes) :
    ((HostState.append enc j.plan.operationId phase evidence timestamp token).run d []).outcome =
      .done ⟨j.plan, j.entries ++ [nextEntry enc j phase evidence timestamp]⟩ := by
  have hl := mirrors_laidOut h
  have hprep : prepareEntry enc j.plan.operationId phase evidence timestamp (HostState.laidOut d) =
      .ok (nextEntry enc j phase evidence timestamp) := by
    unfold prepareEntry
    rw [hl.loadJournal hj, ok_bind, if_neg (by simp [hopen]), if_neg (by omega),
      if_neg (not_lt.mpr hsize)]
  have hnext := mirrors_appended token hl hj hopen
    (checkEntry_nextEntry j evidence hphase htime) (by omega) rfl rfl
  have hmem : (⟨j.plan, j.entries ++ [nextEntry enc j phase evidence timestamp]⟩ : JournalState) ∈
      publish js (.entry (nextEntry enc j phase evidence timestamp)) :=
    List.mem_map.mpr ⟨j, hj, if_pos rfl⟩
  have hwrite : (writeEntry (nextEntry enc j phase evidence timestamp) token).run
      (HostState.laidOut d) [] =
      ⟨.done (), appendedTo (nextEntry enc j phase evidence timestamp) token
        (HostState.laidOut d), []⟩ :=
    writeEntry_run _ token (.inl rfl)
  unfold HostState.append
  rw [if_neg (by simp [hphase]), run_bind_done (layout_done_nil d),
    run_bind_done (run_check_of_ok hprep), run_bind_done hwrite]
  exact congrArg Ending.outcome (run_check_of_ok (hnext.loadJournal hmem))

lemma Mirrors.usable (h : Mirrors enc d js) : Usable enc d := by
  obtain rfl := h.published
  refine ⟨h.loadPending, ?_, ?_⟩
  · intro hnone plan hvalid hsame
    exact h.create_done (by simpa [pendingOf] using hnone) hvalid hsame
  intro j hj hlen phase evidence timestamp token hphase htime hsize
  have hopen : j.terminal = false := by simpa using List.find?_some hj
  exact h.append_done (List.mem_of_find?_eq_some hj) hopen hlen token hphase htime hsize

end Usable

/-- After every run whose kills fall outside of the publications, the journal can be used. -/
theorem run_journal_usable (enc : Encoding) (events : List JournalEvent)
    (h : Along (journalStep enc) (fun d e => spares enc d e = true) {} events) :
    Usable enc (journalRun enc events) := by
  have hrun : ∃ js, Mirrors enc (journalRun enc events) js := by
    refine @run_preserves_of_along _ _ _ _ (journalStep enc) (fun d e => spares enc d e = true)
      (fun d => ∃ js, Mirrors enc d js) ?_ _ _ ⟨[], rfl, .nil, by simp, by simp, nofun⟩ h
    intro d e d' out hinv hs hstep
    obtain ⟨js, hjs⟩ := hinv
    cases hstep
    exact mirrors_step hjs hs
  obtain ⟨js, hjs⟩ := hrun
  exact hjs.usable

def plainEncoding : Encoding := ⟨fun core => core.sequence, fun _ => 1⟩

def upgradePlan (id : String) : PlanDocument := { operationId := id, planDigest := 7 }

def appendTo (id phase : String) : JournalCall := .append id phase 0 "2026-01-01T00:00:00Z" 5

/-- A finished operation, and one of which two calls were killed outside of their publications. -/
def interruptedCalls : List JournalEvent :=
  [⟨.create (upgradePlan "first"), some 1⟩, ⟨.create (upgradePlan "first"), none⟩,
    ⟨appendTo "first" "completed", some 0⟩, ⟨appendTo "first" "completed", some 3⟩,
    ⟨.create (upgradePlan "second"), some 4⟩, ⟨appendTo "second" "authorized", none⟩]

theorem interrupted_calls_usable :
    Along (journalStep plainEncoding) (fun d e => spares plainEncoding d e = true) {}
      interruptedCalls ∧ Usable plainEncoding (journalRun plainEncoding interruptedCalls) :=
  ⟨by decide +kernel, run_journal_usable plainEncoding interruptedCalls (by decide +kernel)⟩

/-- A `create` killed after its hidden directory, and an `append` killed after its temporary file:
nothing can be loaded, and the `append` fails for ever. -/
theorem killed_publication_locks_out :
    loadPending plainEncoding (journalRun plainEncoding [⟨.create (upgradePlan "first"), some 3⟩]) =
      .error ⟨"incomplete operation journal publication exists"⟩ ∧
    (let d := journalRun plainEncoding
      [⟨.create (upgradePlan "first"), none⟩, ⟨appendTo "first" "authorized", some 1⟩]
    loadPending plainEncoding d = .error ⟨"journal phases are not contiguous"⟩ ∧
      ((appendTo "first" "authorized").program plainEncoding).run d [] =
        ⟨.raised ⟨"journal phases are not contiguous"⟩, d, []⟩ ∧
      pendingOf (journalsOf d.published) = some ⟨upgradePlan "first", []⟩) := by
  decide +kernel

end VonkForge.HostState
