import VonkForge.AgentSlots
import VonkForge.Logged

/-!
# Model downloads

`download_huggingface`: the files of a snapshot, one transfer after another, each
limited to the bytes that the ones before it have left.
-/

namespace VonkForge.ModelDownloads

open Transactions Logged
open AgentSlots (lowerHex)

inductive OciError
  | artifact
  | io
  | json
  deriving DecidableEq

/-- The components of a relative path. -/
abbrev Path := List (List Char)

def safeRelativePath (value : String) : Option Path :=
  let parts := value.toList.splitOn '/'
  if value = "" ∨ 512 < value.utf8ByteSize ∨ '\x00' ∈ value.toList ∨ '\\' ∈ value.toList ∨
      32 < parts.length then none
  -- A root, a leading `.` and every `..` are components; other empty and `.` parts are not.
  else if parts.head? = some [] ∨ parts.head? = some ['.'] ∨ ['.', '.'] ∈ parts then none
  else some (parts.filter (· ∉ [[], ['.']]))

structure HuggingFaceFile where
  rfilename : String
  sha256 : Option String

/-- What `curl` and the hash function answer for bytes `B`; redirects are followed in `curl`. -/
structure Source (B : Type) where
  curl : Path → ℕ → Option B
  size : B → ℕ
  sha256 : B → String

/-- The files below the staging directory, the latest first. -/
abbrev Tree (B : Type) := List (Path × B)

variable {B : Type} (src : Source B)

/-- The transfer is in the log with the limit that `curl` is given. -/
def downloadHttps (t : Tree B) (destination : Path) (maximumBytes : ℕ) :
    Logged OciError (Path × ℕ) B := do
  lift (require (maximumBytes ≠ 0) .artifact)
  -- `curl` cannot write to a directory.
  let body ← call (destination, maximumBytes) (fetch
    (if ∃ f ∈ t, f.1 ≠ destination ∧ destination <+: f.1 then none
      else src.curl destination maximumBytes) .artifact)
  lift (require (src.size body ≤ maximumBytes) .artifact)
  pure body

def downloadFiles : List HuggingFaceFile → ℕ → Tree B → Logged OciError (Path × ℕ) (Tree B)
  | [], _, t => pure t
  | file :: files, remaining, t => do
    let relative ← lift (fetch (safeRelativePath file.rfilename) .artifact)
    -- `create_dir_all` of the parent.
    lift (require (∀ f ∈ t, f.1 = relative ∨ ¬ f.1 <+: relative) .io)
    let body ← downloadHttps src t relative remaining
    lift (require (src.size body ≤ remaining) .artifact)
    lift (require (∀ digest ∈ file.sha256, lowerHex digest 64 = true ∧ src.sha256 body = digest)
      .artifact)
    downloadFiles files (remaining - src.size body)
      ((relative, body) :: t.filter (·.1 ≠ relative))

/-- `metadata` is the list that was downloaded and parsed before. -/
def downloadHuggingface (metadata : Except OciError (List HuggingFaceFile)) (downloadBytes : ℕ) :
    Logged OciError (Path × ℕ) (Tree B) := do
  let siblings ← lift metadata
  lift (require (siblings ≠ [] ∧ siblings.length ≤ 20000) .artifact)
  downloadFiles src siblings downloadBytes []

/-- Safe paths of which none is another or a directory of it, with contents that `curl` transfers
within every limit that they are within. -/
structure Served (file : HuggingFaceFile → Path × B) (files : List HuggingFaceFile) : Prop where
  path : ∀ f ∈ files, safeRelativePath f.rfilename = some (file f).1
  apart : files.Pairwise fun f g => ¬ (file f).1 <+: (file g).1 ∧ ¬ (file g).1 <+: (file f).1
  digest : ∀ f ∈ files, ∀ digest ∈ f.sha256,
    lowerHex digest 64 = true ∧ src.sha256 (file f).2 = digest
  curl : ∀ f ∈ files, ∀ n, src.size (file f).2 ≤ n → src.curl (file f).1 n = some (file f).2

variable {src} {file : HuggingFaceFile → Path × B} {files : List HuggingFaceFile}

lemma downloadFiles_cons {f : HuggingFaceFile} (h : Served src file (f :: files)) {n : ℕ}
    (hsize : src.size (file f).2 ≤ n) {t : Tree B}
    (ht : ∀ e ∈ t, ¬ e.1 <+: (file f).1 ∧ ¬ (file f).1 <+: e.1) :
    downloadFiles src (f :: files) n t = if n = 0 then ⟨[], .error .artifact⟩ else
      let x := downloadFiles src files (n - src.size (file f).2) (file f :: t)
      ⟨((file f).1, n) :: x.log, x.result⟩ := by
  have hfilter : t.filter (·.1 ≠ (file f).1) = t :=
    List.filter_eq_self.mpr fun e he =>
      decide_eq_true fun heq => (ht e he).1 (heq ▸ List.prefix_rfl)
  have hparent : ∀ e ∈ t, e.1 = (file f).1 ∨ ¬ e.1 <+: (file f).1 := fun e he => Or.inr (ht e he).1
  have htarget : ¬ ∃ e ∈ t, e.1 ≠ (file f).1 ∧ (file f).1 <+: e.1 :=
    fun ⟨e, he, _, hprefix⟩ => (ht e he).2 hprefix
  have hpath := h.path f List.mem_cons_self
  have hdigest := h.digest f List.mem_cons_self
  have hcurl := h.curl f List.mem_cons_self n hsize
  rw [downloadFiles, hpath]
  split_ifs with hn
  · simp only [downloadHttps, fetch, lift, bind, require, if_pos hparent, hn, ne_eq,
      not_true_eq_false, if_false, List.nil_append]
  simp only [downloadHttps, fetch, lift, bind, require, if_pos hparent, if_pos hn,
    if_neg htarget, hcurl, call, if_pos hsize, if_pos hdigest, hfilter, pure]
  rfl

lemma downloadFiles_served (h : Served src file files) {n : ℕ}
    (hsum : (files.map fun f => src.size (file f).2).sum = n) {t : Tree B}
    (ht : ∀ e ∈ t, ∀ f ∈ files, ¬ e.1 <+: (file f).1 ∧ ¬ (file f).1 <+: e.1) :
    ((∃ u, (downloadFiles src files n t).result = .ok u) ↔
        ∀ f ∈ files.getLast?, src.size (file f).2 ≠ 0) ∧
      (∀ u, (downloadFiles src files n t).result = .ok u → u = (files.map file).reverse ++ t) ∧
      ∀ k c, (downloadFiles src files n t).log[k]? = some c →
        c.2 + ((files.take k).map fun f => src.size (file f).2).sum = n := by
  induction files generalizing n t with
  | nil =>
    refine ⟨by simp [downloadFiles, pure], fun u hu => ?_, fun k c hc => by cases hc⟩
    cases hu
    rfl
  | cons f files ih =>
    obtain ⟨hf, hfiles⟩ := List.pairwise_cons.mp h.apart
    have hrest : Served src file files :=
      ⟨fun g hg => h.path g (.tail _ hg), hfiles, fun g hg => h.digest g (.tail _ hg),
        fun g hg => h.curl g (.tail _ hg)⟩
    rw [downloadFiles_cons h (by simp at hsum; omega) fun e he => ht e he f List.mem_cons_self]
    split_ifs with hn
    · -- Nothing is left, so that all the files are empty.
      have hempty : src.size (file ((f :: files).getLast (by simp))).2 = 0 := by
        rw [hn, List.sum_eq_zero_iff_forall_eq_nat, List.forall_mem_map] at hsum
        exact hsum _ (List.getLast_mem _)
      refine ⟨iff_of_false (by simp) fun hlast => ?_, fun u hu => (by cases hu),
        fun k c hc => by cases hc⟩
      exact hlast _ (List.getLast?_eq_some_getLast _) hempty
    rw [List.map_cons, List.sum_cons] at hsum
    have hfree : ∀ e ∈ file f :: t, ∀ g ∈ files, ¬ e.1 <+: (file g).1 ∧ ¬ (file g).1 <+: e.1 := by
      intro e he g hg
      rcases List.mem_cons.mp he with rfl | he
      · exact hf g hg
      exact ht e he g (.tail _ hg)
    obtain ⟨hok, hfound, hlog⟩ := ih hrest (Nat.eq_sub_of_add_eq' hsum) hfree
    refine ⟨hok.trans ?_, fun u hu => ?_, fun k c hc => ?_⟩
    · cases files with
      | nil => simp [← hsum] at hn ⊢; exact hn
      | cons g files => rw [List.getLast?_cons_cons]
    · rw [hfound u hu]
      simp
    cases k with
    | zero => cases hc; rfl
    | succ k =>
      have hk := hlog k c hc
      simp only [List.take_succ_cons, List.map_cons, List.sum_cons]
      omega

/-- The files of a snapshot are downloaded exactly when there are some, not too many, and the last
one is not empty. -/
theorem download_iff_last_nonempty (h : Served src file files) (downloadBytes : ℕ)
    (hsum : (files.map fun f => src.size (file f).2).sum = downloadBytes) :
    ((∃ t, (downloadHuggingface src (.ok files) downloadBytes).result = .ok t ∧
        t.Perm (files.map file)) ∧
      ∀ k c, (downloadHuggingface src (.ok files) downloadBytes).log[k]? = some c →
        c.2 + ((files.take k).map fun f => src.size (file f).2).sum = downloadBytes) ↔
      files ≠ [] ∧ files.length ≤ 20000 ∧ ∀ f ∈ files.getLast?, src.size (file f).2 ≠ 0 := by
  obtain ⟨hok, hfound, hlog⟩ := downloadFiles_served h hsum (t := []) (fun e he => (nomatch he))
  have heq : downloadHuggingface src (.ok files) downloadBytes =
      if files ≠ [] ∧ files.length ≤ 20000 then downloadFiles src files downloadBytes []
      else ⟨[], .error .artifact⟩ := by
    simp only [downloadHuggingface, require, lift, bind]
    split_ifs <;> rfl
  rw [heq, ← and_assoc]
  split_ifs with hcount
  · rw [and_iff_left hlog, and_iff_right hcount, ← hok]
    refine exists_congr fun t => and_iff_left_of_imp fun ht => ?_
    rw [hfound t ht, List.append_nil]
    exact List.reverse_perm _
  simp [hcount]

def hostFile (f : HuggingFaceFile) : Path × String :=
  if f.rfilename = "a" then ([['a']], "") else ([['b']], "weights")

def host : Source String where
  curl path limit :=
    let body := if path = [['a']] then "" else "weights"
    if body.length ≤ limit then some body else none
  size := String.length
  sha256 _ := ""

theorem empty_file_first :
    ∃ t, (downloadHuggingface host (.ok [⟨"a", none⟩, ⟨"b", none⟩]) 7).result = .ok t ∧
      t.Perm [([['a']], ""), ([['b']], "weights")] := by
  have hserved : Served host hostFile [⟨"a", none⟩, ⟨"b", none⟩] := by
    refine ⟨by decide, by decide, by simp, fun f hf n hn => ?_⟩
    rcases List.mem_pair.mp hf with rfl | rfl <;> exact if_pos (c := _ ≤ n) (e := none) hn
  exact ((download_iff_last_nonempty hserved 7 rfl).mpr (by decide)).1

theorem empty_file_last_rejected :
    (downloadHuggingface host (.ok [⟨"b", none⟩, ⟨"a", none⟩]) 7).result = .error .artifact := by
  decide

end VonkForge.ModelDownloads
