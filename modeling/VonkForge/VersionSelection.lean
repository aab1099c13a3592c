import Mathlib.Data.List.Lex
import Mathlib.Data.List.Pairwise
import Mathlib.Data.List.Sort
import Mathlib.Data.String.Basic
import Mathlib.Data.Sum.Order
import Mathlib.Order.WithBot
import VonkForge.KeyedTable
import VonkForge.Transactions

/-!
# Selection of versions

`PackageResolver.select_latest` over the candidates of a family, with the key that it sorts by; and
`_at_least`, which compares the versions of a node with those that a release asks for.
-/

namespace VonkForge.VersionSelection

open Transactions

structure DiscoveryCandidate where
  (id familyId upstreamVersion : String)
  deriving DecidableEq

instance : Keyed DiscoveryCandidate String := ⟨DiscoveryCandidate.id⟩

/-- The groups of the version pattern. -/
structure Match where
  (major minor patch : List Char)
  (pre build : Option (List Char))

def cut (c : Char) (cs : List Char) : List Char × Option (List Char) :=
  (cs.takeWhile (· ≠ c), (cs.dropWhile (· ≠ c)).tail?)

/-- `re.fullmatch` with `v?(\d+)\.(\d+)\.(\d+)(?:-([^+]+))?(?:\+.*)?`, on ASCII digits. -/
def fullmatch (version : String) : Option Match :=
  let cs := version.toList
  let (text, build) := cut '+' (if cs.head? = some 'v' then cs.tail else cs)
  let (core, pre) := cut '-' text
  match core.splitOn '.' with
  | [major, minor, patch] =>
    if (∀ n ∈ [major, minor, patch], n ≠ [] ∧ n.all Char.isDigit) ∧ pre ≠ some [] ∧
      ∀ b ∈ build, '\n' ∉ b then some ⟨major, minor, patch, pre, build⟩ else none
  | _ => none

def decimal (digits : List Char) : ℕ := digits.foldl (fun n c => 10 * n + (c.toNat - '0'.toNat)) 0

namespace Match

def core (m : Match) : ℕ ×ₗ ℕ ×ₗ ℕ :=
  toLex (decimal m.major, toLex (decimal m.minor, decimal m.patch))

def key (m : Match) (id : String) : (ℕ ×ₗ ℕ ×ₗ ℕ) ×ₗ ℤ ×ₗ String :=
  toLex (m.core, toLex (if m.pre = none then 0 else -1, id))

end Match

structure ResolutionError where
  (code reason : String)
  deriving DecidableEq

/-- `unordered` is the scheme of opaque versions. -/
inductive Scheme
  | unordered
  | semver
  | pep440

def candidates (store : Table DiscoveryCandidate) (familyId : String) : List DiscoveryCandidate :=
  (store.select (·.familyId = familyId)).insertionSort (·.id ≤ ·.id)

def sortedBy {K : Type} [LinearOrder K] (key : DiscoveryCandidate → Except ResolutionError K)
    (values : List DiscoveryCandidate) : Except ResolutionError (List DiscoveryCandidate) := do
  let keyed ← values.mapM fun item => do return (← key item, item)
  return (keyed.insertionSort fun a b => b.1 ≤ a.1).map Prod.snd

def semverKey (item : DiscoveryCandidate) :
    Except ResolutionError ((ℕ ×ₗ ℕ ×ₗ ℕ) ×ₗ ℤ ×ₗ String) := do
  let m ← fetch (fullmatch item.upstreamVersion) ⟨"resolution_unsupported", "invalid SemVer"⟩
  return m.key item.id

/-- `version` is `packaging.version.Version`. -/
def selectLatest {V : Type} [LinearOrder V] (version : String → Option V)
    (store : Table DiscoveryCandidate) (familyId : String) :
    Scheme → Except ResolutionError (List DiscoveryCandidate)
  | .unordered => .error ⟨"resolution_unsupported", "opaque versions have no ordering"⟩
  | .semver => sortedBy semverKey (candidates store familyId)
  | .pep440 => sortedBy (fun item =>
      fetch (version item.upstreamVersion) ⟨"resolution_unsupported", "invalid PEP 440"⟩)
      (candidates store familyId)

def identifier (cs : List Char) : ℕ ⊕ₗ String :=
  if cs.all Char.isDigit then Sum.inlₗ (decimal cs) else Sum.inrₗ (String.ofList cs)

/-- The precedence of semantic versions: a release is above its pre-releases. -/
def Match.precedence (m : Match) : (ℕ ×ₗ ℕ ×ₗ ℕ) ×ₗ WithTop (List (ℕ ⊕ₗ String)) :=
  toLex (m.core, m.pre.elim ⊤ fun pre => ((pre.splitOn '.').map identifier : List (ℕ ⊕ₗ String)))

def NotBelow (a b : DiscoveryCandidate) : Prop :=
  ∀ m ∈ fullmatch a.upstreamVersion, ∀ n ∈ fullmatch b.upstreamVersion,
    n.precedence ≤ m.precedence

instance : DecidableRel NotBelow := fun a b => by delta NotBelow; infer_instance

def Siblings (a b : DiscoveryCandidate) : Prop :=
  ∀ m ∈ fullmatch a.upstreamVersion, ∀ n ∈ fullmatch b.upstreamVersion,
    m.core = n.core ∧ m.pre ≠ none ∧ n.pre ≠ none

instance : DecidableRel Siblings := fun a b => by delta Siblings; infer_instance

lemma perm_candidates (store : Table DiscoveryCandidate) (familyId : String) :
    (candidates store familyId).Perm (store.select (·.familyId = familyId)) :=
  List.perm_insertionSort _ _

lemma mem_candidates {store : Table DiscoveryCandidate} {familyId : String}
    {c : DiscoveryCandidate} (h : c ∈ candidates store familyId) : c ∈ store.rows :=
  (Table.mem_select.mp ((perm_candidates store familyId).subset h)).1

lemma candidates_congr {store store' : Table DiscoveryCandidate}
    (h : store'.rows.Perm store.rows) (familyId : String) :
    candidates store' familyId = candidates store familyId := by
  have hperm := (h.filter _).trans (perm_candidates store familyId).symm
  refine ((perm_candidates store' familyId).trans hperm).eq_of_pairwise
    (fun a b ha hb hab hba => ?_) (List.pairwise_insertionSort _ _)
    (List.pairwise_insertionSort _ _)
  exact Table.eq_of_key (h.subset (mem_candidates ha)) (mem_candidates hb) (le_antisymm hab hba)

lemma semverKey_eq {c : DiscoveryCandidate} {m : Match}
    (h : fullmatch c.upstreamVersion = some m) : semverKey c = .ok (m.key c.id) := by
  rw [semverKey, h]
  rfl

lemma sortedBy_spec {K : Type} [LinearOrder K]
    {key : DiscoveryCandidate → Except ResolutionError K} {values : List DiscoveryCandidate}
    (h : ∀ c ∈ values, ∃ k, key c = .ok k) :
    ∃ result, sortedBy key values = .ok result ∧ result.Perm values ∧
      result.Pairwise fun a b => ∀ k l, key a = .ok k → key b = .ok l → l ≤ k := by
  have hkeyed : ∃ keyed, (values.mapM fun item => do return (← key item, item)) = .ok keyed ∧
      keyed.map Prod.snd = values ∧ ∀ p ∈ keyed, key p.2 = .ok p.1 := by
    induction values with
    | nil => exact ⟨[], rfl, rfl, by simp⟩
    | cons c values ih =>
      obtain ⟨k, hk⟩ := h c List.mem_cons_self
      obtain ⟨keyed, hkeyed, hmap, hkeys⟩ := ih fun c hc => h c (.tail _ hc)
      refine ⟨(k, c) :: keyed, ?_, by rw [List.map_cons, hmap], List.forall_mem_cons.mpr ⟨hk, hkeys⟩⟩
      rw [List.mapM_cons, hk, hkeyed]
      rfl
  obtain ⟨keyed, hkeyed, hmap, hkeys⟩ := hkeyed
  have hperm := List.perm_insertionSort (fun a b : K × DiscoveryCandidate => b.1 ≤ a.1) keyed
  refine ⟨_, by rw [sortedBy, hkeyed]; rfl, hmap ▸ hperm.map _, List.pairwise_map.mpr ?_⟩
  refine (List.pairwise_insertionSort _ keyed).imp_of_mem fun ha hb hle k l hk hl => ?_
  cases (hkeys _ (hperm.subset ha)).symm.trans hk
  cases (hkeys _ (hperm.subset hb)).symm.trans hl
  exact hle

/-- For candidates in the order of their keys: the precedence follows, unless the identifiers of two
pre-releases of one version decide against it. -/
theorem precedence_le_of_key_le {m n : Match} {a b : String} (h : n.key b ≤ m.key a)
    (hpre : m.core = n.core → m.pre ≠ none → n.pre ≠ none → b ≤ a → n.precedence ≤ m.precedence) :
    n.precedence ≤ m.precedence := by
  rcases Prod.Lex.toLex_le_toLex.mp h with hcore | ⟨hcore, hrest⟩
  · exact Prod.Lex.toLex_le_toLex.mpr (.inl hcore)
  cases hm : m.pre with
  | none => exact Prod.Lex.toLex_le_toLex.mpr (.inr ⟨hcore, by simp [hm]⟩)
  | some pre =>
    have hn : n.pre ≠ none := fun hn => by simp [Prod.Lex.toLex_le_toLex, hm, hn] at hrest
    refine hpre hcore.symm (by simp [hm]) hn ?_
    simpa [Prod.Lex.toLex_le_toLex, hm, hn] using hrest

lemma key_lt_of_id_lt {m n : Match} {a b : String} (hcore : m.core = n.core)
    (hm : m.pre ≠ none) (hn : n.pre ≠ none) (h : a < b) : m.key a < n.key b := by
  refine Prod.Lex.toLex_lt_toLex.mpr (.inr ⟨hcore, Prod.Lex.toLex_lt_toLex.mpr (.inr ⟨?_, h⟩)⟩)
  simp [hm, hn]

/-- Every candidate is returned, in an order that does not depend on the store; it is that of
precedence exactly when the identifiers order pre-releases so. -/
theorem selectLatest_precedence_iff {V : Type} [LinearOrder V] (version : String → Option V)
    (store : Table DiscoveryCandidate) (familyId : String)
    (hvalid : ∀ c ∈ candidates store familyId, (fullmatch c.upstreamVersion).isSome) :
    (∃ result, (∀ store' : Table DiscoveryCandidate, store'.rows.Perm store.rows →
        selectLatest version store' familyId .semver = .ok result) ∧
      result.Perm (store.select (·.familyId = familyId)) ∧ result.Pairwise NotBelow) ↔
    ∀ a ∈ candidates store familyId, ∀ b ∈ candidates store familyId,
      a.id < b.id → Siblings a b → NotBelow b a := by
  obtain ⟨result, hresult, hperm, hsorted⟩ :=
    sortedBy_spec fun c hc =>
      (Option.isSome_iff_exists.mp (hvalid c hc)).elim fun m hm => ⟨_, semverKey_eq hm⟩
  have hselect : ∀ store' : Table DiscoveryCandidate, store'.rows.Perm store.rows →
      selectLatest version store' familyId .semver = .ok result := fun store' hstore => by
    rw [selectLatest, candidates_congr hstore, hresult]
  constructor
  · rintro ⟨_, hall, -, hbelow⟩ a ha b hb hid hsiblings n hn m hm
    cases (hall store (.refl _)).symm.trans (hselect store (.refl _))
    -- One of the two comes first, and by its key it is `b`.
    let S := fun a b => (∀ k l, semverKey a = .ok k → semverKey b = .ok l → l ≤ k) ∧ NotBelow a b
    have hsymm : Std.Symm fun a b => S a b ∨ S b a := ⟨fun _ _ => Or.symm⟩
    have hpair : result.Pairwise fun a b => S a b ∨ S b a := (hsorted.and hbelow).imp .inl
    obtain ⟨hcore, hma, hnb⟩ := hsiblings m hm n hn
    rcases hpair.forall (hperm.symm.subset ha) (hperm.symm.subset hb) fun heq => (heq ▸ hid).ne rfl
      with ⟨hkey, -⟩ | ⟨-, hnot⟩
    · exact absurd (hkey _ _ (semverKey_eq hm) (semverKey_eq hn))
        (key_lt_of_id_lt hcore hma hnb hid).not_ge
    exact hnot n hn m hm
  intro hids
  refine ⟨result, hselect, hperm.trans (perm_candidates store familyId), ?_⟩
  refine hsorted.imp_of_mem fun {a b} ha hb hkey m hm n hn => ?_
  have hle := hkey _ _ (semverKey_eq hm) (semverKey_eq hn)
  refine precedence_le_of_key_le hle fun hcore hma hnb hid => ?_
  have hb := hperm.subset hb
  have ha := hperm.subset ha
  rcases hid.lt_or_eq with hid | hid
  · refine hids b hb a ha hid (fun n' hn' m' hm' => ?_) m hm n hn
    cases Option.mem_unique hn hn'
    cases Option.mem_unique hm hm'
    exact ⟨hcore.symm, hnb, hma⟩
  cases Table.eq_of_key (mem_candidates hb) (mem_candidates ha) hid
  cases Option.mem_unique hm hn
  exact le_rfl

def preReleases (a b : String) : Table DiscoveryCandidate :=
  ⟨[⟨"0a", "engine", a⟩, ⟨"0b", "engine", b⟩], by simp [Keyed.key]⟩

theorem ordered_preReleases : ∃ result,
    (∀ store' : Table DiscoveryCandidate,
      store'.rows.Perm (preReleases "1.0.0-rc.1" "1.0.0").rows →
        selectLatest (fun _ => some 0) store' "engine" .semver = .ok result) ∧
      result.Perm ((preReleases "1.0.0-rc.1" "1.0.0").select (·.familyId = "engine")) ∧
      result.Pairwise NotBelow :=
  (selectLatest_precedence_iff _ _ _ (by decide)).mpr (by decide)

theorem alpha_before_beta :
    selectLatest (fun _ => some 0) (preReleases "1.0.0-beta" "1.0.0-alpha") "engine" .semver =
      .ok [⟨"0b", "engine", "1.0.0-alpha"⟩, ⟨"0a", "engine", "1.0.0-beta"⟩] ∧
    ¬ NotBelow ⟨"0b", "engine", "1.0.0-alpha"⟩ ⟨"0a", "engine", "1.0.0-beta"⟩ := by
  decide

/-! ### `_at_least` -/

/-- What Python's `str` and `int` know of characters, with their laws on ASCII digits. -/
structure Unicode where
  (isSpace isDigit : Char → Bool)
  int : List Char → Option ℕ
  lower : List Char → List Char
  isDigit_eq {c : Char} : c.isDigit = true → isDigit c = true
  int_eq {cs : List Char} {n : ℕ} : (∀ c ∈ cs, c.isDigit = true) → int cs = some n → n = decimal cs

section Versions

variable (py : Unicode)

def parts (value : String) : List (List Char) :=
  let text := ((value.toList.dropWhile py.isSpace).reverse.dropWhile py.isSpace).reverse
  if text = [] then [] else text.splitOnP (· ∈ ['.', '_', '+', '-'])

-- `int` raises `ValueError` for a digit that is no decimal, and for too many of them.
def component (part : List Char) : Option (ℕ ⊕ List Char) :=
  if part ≠ [] ∧ part.all py.isDigit then (py.int part).map .inl else some (.inr (py.lower part))

def version (value : String) : Option (List (ℕ ⊕ List Char)) :=
  (parts py value).mapM (component py)

-- `>=` raises `TypeError` for a number and a word.
def componentGe : ℕ ⊕ List Char → ℕ ⊕ List Char → Option Bool
  | .inl m, .inl n => some (n ≤ m)
  | .inr s, .inr t => some (t ≤ s)
  | _, _ => none

def tupleGe : List (ℕ ⊕ List Char) → List (ℕ ⊕ List Char) → Option Bool
  | _, [] => some true
  | [], _ :: _ => some false
  | a :: left, b :: right => if a = b then tupleGe left right else componentGe a b

def atLeast : Option String → Option String → Option Bool
  | some actual, some minimum => do
    let left ← version py actual
    let right ← version py minimum
    return (tupleGe left right).getD (minimum ≤ actual)
  | _, _ => some false

abbrev AtLeast (actual minimum : String) : Prop := atLeast py (some actual) (some minimum) = some true

def Decimal (value : String) : Prop :=
  ∀ part ∈ parts py value, part ≠ [] ∧ ∀ c ∈ part, c.isDigit = true

structure Ordered (S : Set String) : Prop where
  returns : ∀ a ∈ S, ∀ b ∈ S, (atLeast py (some a) (some b)).isSome
  refl : ∀ a ∈ S, a ≠ "" → AtLeast py a a
  trans : ∀ a ∈ S, ∀ b ∈ S, ∀ c ∈ S, AtLeast py a b → AtLeast py b c → AtLeast py a c
  total : ∀ a ∈ S, ∀ b ∈ S, AtLeast py a b ∨ AtLeast py b a
  numeric : ∀ a ∈ S, ∀ b ∈ S, Decimal py a → Decimal py b →
    (AtLeast py a b ↔ (parts py b).map decimal ≤ (parts py a).map decimal)

/-- Every part of digits is read; and where the keys order `a` and `b` against their texts, no text
between the two has a key that can be compared with neither. -/
structure Consistent (S : Set String) : Prop where
  reads : ∀ a ∈ S, ∀ part ∈ parts py a, part ≠ [] → part.all py.isDigit = true →
    (py.int part).isSome
  between : ∀ a ∈ S, ∀ b ∈ S, ∀ c ∈ S, ∀ k ∈ version py a, ∀ l ∈ version py b,
    ∀ m ∈ version py c, tupleGe k l = some true → tupleGe k m = none → tupleGe l m = none →
      ¬(a ≤ c ∧ c ≤ b)

end Versions

variable {py : Unicode} {a b : String} {k l m : List (ℕ ⊕ List Char)}

lemma tupleGe_self (k : List (ℕ ⊕ List Char)) : tupleGe k k = some true := by
  induction k with
  | nil => rfl
  | cons a k ih => simpa [tupleGe] using ih

lemma tupleGe_eq_none_iff :
    tupleGe k l = none ↔ ¬tupleGe k l = some true ∧ ¬tupleGe l k = some true := by
  induction k generalizing l with
  | nil => cases l <;> simp [tupleGe]
  | cons a k ih =>
    cases l with
    | nil => simp [tupleGe]
    | cons b =>
      by_cases hab : a = b
      · simpa [tupleGe, hab] using ih
      rcases a with a | a <;> rcases b with b | b <;>
        simp [tupleGe, componentGe, hab, Ne.symm hab] <;> exact le_of_lt

lemma tupleGe_trans (hkl : tupleGe k l = some true) (hlm : tupleGe l m = some true) :
    tupleGe k m = some true := by
  induction k generalizing l m with
  | nil =>
    cases l with
    | nil => exact hlm
    | cons => cases hkl
  | cons a =>
    cases m with
    | nil => rfl
    | cons c =>
      cases l with
      | nil => cases hlm
      | cons b =>
        simp only [tupleGe] at hkl hlm ⊢
        rcases a with a | a <;> rcases b with b | b <;> rcases c with c | c <;> grind [componentGe]

lemma tupleGe_numbers (ns ms : List ℕ) :
    tupleGe (ns.map .inl) (ms.map .inl) = some (decide ¬ns < ms) := by
  induction ns generalizing ms with
  | nil => cases ms <;> simp [tupleGe]
  | cons n ns ih =>
    cases ms with
    | nil => simp [tupleGe]
    | cons m =>
      by_cases hnm : n = m
      · simp [tupleGe, hnm, ih]
      · simp [tupleGe, componentGe, hnm, List.cons_lt_cons_iff]

lemma version_isSome_iff : (version py a).isSome ↔
    ∀ part ∈ parts py a, part ≠ [] → part.all py.isDigit = true → (py.int part).isSome := by
  unfold version
  induction parts py a with
  | nil => simp
  | cons part rest ih =>
    rw [List.mapM_cons, List.forall_mem_cons, ← ih]
    have hpart : (component py part).isSome ↔
        (part ≠ [] → part.all py.isDigit = true → (py.int part).isSome) := by
      unfold component
      split_ifs with hdigits
      · simp [hdigits]
      simpa using fun hne hall => absurd ⟨hne, List.all_eq_true.mpr hall⟩ hdigits
    rw [← hpart]
    cases component py part <;> cases rest.mapM (component py) <;> simp

lemma version_decimal (ha : Decimal py a) (hk : version py a = some k) :
    k = ((parts py a).map decimal).map .inl := by
  unfold Decimal at ha
  unfold version at hk
  generalize parts py a = ps at ha hk ⊢
  induction ps generalizing k with
  | nil =>
    cases hk
    rfl
  | cons part rest ih =>
    obtain ⟨⟨hne, hdigit⟩, hrest⟩ := List.forall_mem_cons.mp ha
    rw [List.mapM_cons] at hk
    obtain ⟨p, hp, hk⟩ := Option.bind_eq_some_iff.mp hk
    obtain ⟨ps, hps, hk⟩ := Option.bind_eq_some_iff.mp hk
    cases hk
    have hall : part.all py.isDigit = true :=
      List.all_eq_true.mpr fun c hc => py.isDigit_eq (hdigit c hc)
    rw [component, if_pos ⟨hne, hall⟩] at hp
    obtain ⟨n, hn, rfl⟩ := Option.map_eq_some_iff.mp hp
    rw [ih hrest hps, py.int_eq hdigit hn]
    rfl

lemma atLeast_iff (ha : version py a = some k) (hb : version py b = some l) :
    AtLeast py a b ↔ tupleGe k l = some true ∨ tupleGe k l = none ∧ b ≤ a := by
  cases h : tupleGe k l <;> simp [AtLeast, atLeast, ha, hb, h]

/-- `_at_least` orders a set of versions exactly when the set is consistent. -/
theorem ordered_iff_consistent (py : Unicode) (S : Set String) :
    Ordered py S ↔ Consistent py S := by
  constructor
  · intro h
    refine ⟨fun a ha => ?_, ?_⟩
    · have hreturns := h.returns a ha a ha
      rw [← version_isSome_iff]
      cases hk : version py a <;> simp_all [atLeast]
    · rintro a ha b hb c hc k hk l hl m hm hkl hkm hlm ⟨hac, hcb⟩
      have hab : AtLeast py a b := (atLeast_iff hk hl).mpr (.inl hkl)
      have hbc : AtLeast py b c := (atLeast_iff hl hm).mpr (.inr ⟨hlm, hcb⟩)
      rcases (atLeast_iff hk hm).mp (h.trans a ha b hb c hc hab hbc) with hge | ⟨-, hca⟩
      · cases hkm.symm.trans hge
      obtain rfl := le_antisymm hac hca
      cases Option.mem_unique hk hm
      cases hkm.symm.trans (tupleGe_self k)
  · intro h
    have hkey (a) (ha : a ∈ S) : ∃ k, version py a = some k :=
      Option.isSome_iff_exists.mp (version_isSome_iff.mpr (h.reads a ha))
    refine ⟨fun a ha b hb => ?_, fun a ha _ => ?_, fun a ha b hb c hc => ?_, fun a ha b hb => ?_,
      fun a ha b hb hda hdb => ?_⟩ <;> obtain ⟨k, hk⟩ := hkey a ha
    · obtain ⟨l, hl⟩ := hkey b hb
      simp [atLeast, hk, hl]
    · exact (atLeast_iff hk hk).mpr (.inl (tupleGe_self k))
    · obtain ⟨l, hl⟩ := hkey b hb
      obtain ⟨m, hm⟩ := hkey c hc
      -- Only one of the three comparisons can be by the keys and the others by the texts.
      have hab := h.between a ha b hb c hc k hk l hl m hm
      have hbc := h.between b hb c hc a ha l hl m hm k hk
      have hca := h.between c hc a ha b hb m hm k hk l hl
      have hac := le_total a c
      rw [atLeast_iff hk hl, atLeast_iff hl hm, atLeast_iff hk hm]
      simp only [tupleGe_eq_none_iff] at *
      grind [tupleGe_trans, le_trans]
    · obtain ⟨l, hl⟩ := hkey b hb
      have hab := le_total a b
      rw [atLeast_iff hk hl, atLeast_iff hl hk, tupleGe_eq_none_iff, tupleGe_eq_none_iff]
      tauto
    · obtain ⟨l, hl⟩ := hkey b hb
      obtain rfl := version_decimal hda hk
      obtain rfl := version_decimal hdb hl
      rw [atLeast_iff hk hl, tupleGe_numbers, ← not_lt]
      simp

/-- ASCII, and a digit that is no decimal. -/
def ascii : Unicode where
  isSpace := (· ∈ [' ', '\t', '\n', '\r'])
  isDigit c := c.isDigit || c = '²'
  int cs := if cs.all Char.isDigit then some (decimal cs) else none
  lower := List.map Char.toLower
  isDigit_eq h := by simp [h]
  int_eq _ hint := by simp_all

theorem raised_version_refused :
    AtLeast ascii "9" "1a" ∧ AtLeast ascii "10" "9" ∧ ¬AtLeast ascii "10" "1a" ∧
      atLeast ascii (some "²") (some "1") = none := by
  decide

end VonkForge.VersionSelection
