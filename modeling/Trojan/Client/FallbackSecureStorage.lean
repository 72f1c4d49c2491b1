import Mathlib.Data.List.AList
import Trojan.Util.Machine
import Trojan.Util.Text

/-!
# Secrets in a storage that may fail, and a fallback for them

`FallbackSecureStorage` (`client/lib/platform/secure_storage`) keeps the secrets
of the client in a *primary* storage, the one of the platform, each operation of
which may fail. What the primary refuses goes to a *fallback* storage in memory.
A later call first *promotes* what the fallback holds: it copies the secrets to
the primary. Only if its own operation on the primary succeeds too are they
deleted from the fallback.

Calls come one after the other here, so that the lock which keeps two promotions
apart is never found taken, and it is left out. What the operations of the
primary do during a call is part of the call: the list of their outcomes.
-/

/-- The secrets a storage holds. -/
abbrev Secrets : Type := AList (fun _ : Text => Text)

/-- The storage in memory (`memory_secure_storage.dart`), whose operations do
not fail. -/
structure MemorySecureStorage where
  secrets : Secrets
  deriving DecidableEq

namespace MemorySecureStorage

def deleteSecret (m : MemorySecureStorage) (key : Text) : MemorySecureStorage :=
  ⟨m.secrets.erase key⟩

def listKeys (m : MemorySecureStorage) : List Text := Text.sorted m.secrets.keys

def readSecret (m : MemorySecureStorage) (key : Text) : Option Text := m.secrets.lookup key

def writeSecret (m : MemorySecureStorage) (key value : Text) : MemorySecureStorage :=
  ⟨m.secrets.insert key value⟩

@[simp] theorem readSecret_deleteSecret (m : MemorySecureStorage) (key k : Text) :
    (m.deleteSecret key).readSecret k = if k = key then none else m.readSecret k := by
  unfold readSecret deleteSecret
  split
  · subst k
    exact AList.lookup_erase _ _
  · exact AList.lookup_erase_ne ‹_›

@[simp] theorem readSecret_writeSecret (m : MemorySecureStorage) (key value k : Text) :
    (m.writeSecret key value).readSecret k = if k = key then some value else m.readSecret k := by
  unfold readSecret writeSecret
  split
  · subst k
    exact AList.lookup_insert _
  · exact AList.lookup_insert_ne ‹_›

theorem nodup_listKeys (m : MemorySecureStorage) : m.listKeys.Nodup :=
  Text.nodup_sorted.mpr m.secrets.keys_nodup

/-- The keys that are listed are those that can be read. -/
@[simp] theorem mem_listKeys {m : MemorySecureStorage} {k : Text} :
    k ∈ m.listKeys ↔ m.readSecret k ≠ none := by
  rw [listKeys, Text.mem_sorted, ← AList.mem_keys, readSecret, Ne, AList.lookup_eq_none,
    not_not]

/-- A storage that lists no keys holds nothing. -/
theorem listKeys_isEmpty {m : MemorySecureStorage} :
    m.listKeys.isEmpty = true ↔ ∀ k, m.readSecret k = none := by
  rw [List.isEmpty_iff, List.eq_nil_iff_forall_not_mem]
  exact forall_congr' (fun k => by rw [mem_listKeys, not_not])

/-- Deleting keys one after the other deletes them all. -/
theorem readSecret_foldl_deleteSecret (keys : List Text) (m : MemorySecureStorage) (k : Text) :
    (keys.foldl deleteSecret m).readSecret k = if k ∈ keys then none else m.readSecret k := by
  induction keys generalizing m with
  | nil => rfl
  | cons key keys ih =>
    rw [List.foldl_cons, ih, readSecret_deleteSecret]
    by_cases hk : k = key <;> by_cases hmem : k ∈ keys <;> simp [hk, hmem]

end MemorySecureStorage

/-- The primary storage: what it holds, and what its operations will do. An
operation that fails has no effect, and one that the list says nothing about
succeeds. -/
structure PrimaryStorage where
  memory : MemorySecureStorage
  outcomes : List Bool := []
  deriving DecidableEq

namespace PrimaryStorage

/-- Whether the next operation succeeds. -/
def succeeds (p : PrimaryStorage) : Bool := p.outcomes.headD true

/-- The storage after an operation: its outcome is used up. -/
def attempted (p : PrimaryStorage) : PrimaryStorage :=
  { p with outcomes := p.outcomes.tail }

def deleteSecret (p : PrimaryStorage) (key : Text) : Option Unit × PrimaryStorage :=
  if p.succeeds then (some (), { p.attempted with memory := p.memory.deleteSecret key })
  else (none, p.attempted)

def listKeys (p : PrimaryStorage) : Option (List Text) × PrimaryStorage :=
  (if p.succeeds then some p.memory.listKeys else none, p.attempted)

def readSecret (p : PrimaryStorage) (key : Text) : Option (Option Text) × PrimaryStorage :=
  (if p.succeeds then some (p.memory.readSecret key) else none, p.attempted)

def writeSecret (p : PrimaryStorage) (key value : Text) : Option Unit × PrimaryStorage :=
  if p.succeeds then (some (), { p.attempted with memory := p.memory.writeSecret key value })
  else (none, p.attempted)

end PrimaryStorage

/-- The storage of the client. Of its status only the field that changes is
kept. -/
structure FallbackSecureStorage where
  primary : PrimaryStorage
  fallback : MemorySecureStorage
  promotionNeeded : Bool := false
  fallbackActive : Bool := false
  deriving DecidableEq

namespace FallbackSecureStorage

def markPrimaryHealthy (s : FallbackSecureStorage) : FallbackSecureStorage :=
  { s with fallbackActive := false }

def markPrimaryFailed (s : FallbackSecureStorage) : FallbackSecureStorage :=
  { s with promotionNeeded := true, fallbackActive := true }

/-- The loop of a promotion: the secrets of the fallback are written to the
primary, up to the first write that fails. -/
def copyKeys (fallback : MemorySecureStorage) :
    List Text → PrimaryStorage → PrimaryStorage
  | [], primary => primary
  | key :: keys, primary =>
    match fallback.readSecret key with
    | none => copyKeys fallback keys primary
    | some value =>
      match primary.writeSecret key value with
      | (some (), primary) => copyKeys fallback keys primary
      | (none, primary) => primary

def attemptFallbackPromotion (s : FallbackSecureStorage) : FallbackSecureStorage :=
  if !s.promotionNeeded then s
  else if s.fallback.listKeys.isEmpty then { s with promotionNeeded := false }
  else { s with primary := copyKeys s.fallback s.fallback.listKeys s.primary }

def finalizeFallbackPromotion (s : FallbackSecureStorage) : FallbackSecureStorage :=
  if !s.promotionNeeded then s
  else if s.fallback.listKeys.isEmpty then { s with promotionNeeded := false }
  else { s with
    fallback := s.fallback.listKeys.foldl MemorySecureStorage.deleteSecret s.fallback
    promotionNeeded := false }

def deleteSecret (s : FallbackSecureStorage) (key : Text) : FallbackSecureStorage :=
  let (result, primary) := s.primary.deleteSecret key
  let s := { s with primary := primary, fallback := s.fallback.deleteSecret key }
  match result with
  | none => s.markPrimaryFailed
  | some () => s.markPrimaryHealthy

def listKeys (s : FallbackSecureStorage) : List Text × FallbackSecureStorage :=
  let s := s.attemptFallbackPromotion
  let (result, primary) := s.primary.listKeys
  let s := { s with primary := primary }
  match result with
  | some keys => (keys, s.finalizeFallbackPromotion.markPrimaryHealthy)
  | none => (s.markPrimaryFailed.fallback.listKeys, s.markPrimaryFailed)

def readSecret (s : FallbackSecureStorage) (key : Text) :
    Option Text × FallbackSecureStorage :=
  let s := s.attemptFallbackPromotion
  let (result, primary) := s.primary.readSecret key
  let s := { s with primary := primary }
  match result with
  | some value => (value, s.finalizeFallbackPromotion.markPrimaryHealthy)
  | none => (s.markPrimaryFailed.fallback.readSecret key, s.markPrimaryFailed)

def writeSecret (s : FallbackSecureStorage) (key value : Text) : FallbackSecureStorage :=
  let s := s.attemptFallbackPromotion
  let (result, primary) := s.primary.writeSecret key value
  let s := { s with primary := primary }
  match result with
  | some () => s.finalizeFallbackPromotion.markPrimaryHealthy
  | none =>
    { s.markPrimaryFailed with fallback := s.markPrimaryFailed.fallback.writeSecret key value }

/-! ## What a promotion does -/

/-- The first of `n` operations that fails. -/
def firstFailure (n : ℕ) (outcomes : List Bool) : Option ℕ :=
  (outcomes.take n).findIdx? (fun outcome => !outcome)

theorem firstFailure_zero (outcomes : List Bool) : firstFailure 0 outcomes = none := rfl

/-- The first failure is the next operation, or one of those after it. -/
theorem firstFailure_succ (n : ℕ) (outcomes : List Bool) :
    firstFailure (n + 1) outcomes =
      if outcomes.headD true then (firstFailure n outcomes.tail).map (· + 1) else some 0 := by
  match outcomes with
  | [] => simp [firstFailure]
  | true :: outcomes => simp [firstFailure, List.findIdx?_cons]
  | false :: outcomes => simp [firstFailure, List.findIdx?_cons]

/-- How many of `n` keys a promotion copies. -/
def copied (n : ℕ) (outcomes : List Bool) : ℕ := (firstFailure n outcomes).getD n

/-- How many operations the promotion of `n` keys attempts. -/
def attempts (n : ℕ) (outcomes : List Bool) : ℕ :=
  (firstFailure n outcomes).elim n (· + 1)

theorem copied_succ (n : ℕ) (outcomes : List Bool) :
    copied (n + 1) outcomes =
      if outcomes.headD true then copied n outcomes.tail + 1 else 0 := by
  unfold copied
  rw [firstFailure_succ]
  split
  · cases firstFailure n outcomes.tail <;> rfl
  · rfl

theorem attempts_succ (n : ℕ) (outcomes : List Bool) :
    attempts (n + 1) outcomes =
      if outcomes.headD true then attempts n outcomes.tail + 1 else 1 := by
  unfold attempts
  rw [firstFailure_succ]
  split
  · cases firstFailure n outcomes.tail <;> rfl
  · rfl

/-- A promotion goes on after a write that succeeds, and is abandoned at one that
fails. -/
theorem copyKeys_cons {fallback : MemorySecureStorage} {key value : Text}
    (hvalue : fallback.readSecret key = some value) (keys : List Text)
    (primary : PrimaryStorage) :
    copyKeys fallback (key :: keys) primary =
      if primary.outcomes.headD true then
        copyKeys fallback keys
          { primary.attempted with memory := primary.memory.writeSecret key value }
      else primary.attempted := by
  rw [copyKeys, hvalue]
  unfold PrimaryStorage.writeSecret PrimaryStorage.succeeds
  cases primary.outcomes.headD true <;> rfl

/-- **What the loop of a promotion does**: each key up to the first write that
fails has the value of the fallback in the primary, and the others are left as
they were. -/
theorem copyKeys_spec (fallback : MemorySecureStorage) (keys : List Text)
    (primary : PrimaryStorage) (hkeys : ∀ k ∈ keys, fallback.readSecret k ≠ none) :
    (copyKeys fallback keys primary).outcomes
        = primary.outcomes.drop (attempts keys.length primary.outcomes) ∧
    ∀ k, (copyKeys fallback keys primary).memory.readSecret k
        = if k ∈ keys.take (copied keys.length primary.outcomes) then fallback.readSecret k
          else primary.memory.readSecret k := by
  induction keys generalizing primary with
  | nil => exact ⟨rfl, fun k => rfl⟩
  | cons key keys ih =>
    obtain ⟨value, hvalue⟩ := Option.ne_none_iff_exists'.mp (hkeys key List.mem_cons_self)
    have htail : ∀ k ∈ keys, fallback.readSecret k ≠ none :=
      fun k hk => hkeys k (List.mem_cons_of_mem key hk)
    rw [copyKeys_cons hvalue, List.length_cons, attempts_succ, copied_succ]
    cases primary.outcomes.headD true with
    | false => exact ⟨(List.drop_one).symm, fun k => rfl⟩
    | true =>
      obtain ⟨hout, hread⟩ :=
        ih { primary.attempted with memory := primary.memory.writeSecret key value } htail
      rw [if_pos rfl, if_pos rfl, if_pos rfl]
      refine ⟨hout.trans ?_, fun k => (hread k).trans ?_⟩
      · show primary.outcomes.tail.drop (attempts keys.length primary.outcomes.tail) = _
        rw [← List.drop_one, List.drop_drop, Nat.add_comm]
      · show (if k ∈ keys.take (copied keys.length primary.outcomes.tail) then _ else
          (primary.memory.writeSecret key value).readSecret k) = _
        rw [List.take_succ_cons, MemorySecureStorage.readSecret_writeSecret]
        by_cases hk : k = key
        · rw [if_pos hk, hk, hvalue, ite_self, if_pos List.mem_cons_self]
        · rw [if_neg hk]
          exact if_congr (by simp [hk]) rfl rfl

/-- The storage at a call: the primary is about to have these outcomes. -/
def facing (s : FallbackSecureStorage) (outcomes : List Bool) : FallbackSecureStorage :=
  { s with primary := { s.primary with outcomes := outcomes } }

/-- What the primary holds after the promotion of a call. -/
def promotedRead (s : FallbackSecureStorage) (k : Text) : Option Text :=
  if s.promotionNeeded ∧
      k ∈ s.fallback.listKeys.take (copied s.fallback.listKeys.length s.primary.outcomes) then
    s.fallback.readSecret k
  else s.primary.memory.readSecret k

/-- The outcome of the operation on the primary that a call is about, after those
of its promotion. -/
def ownOutcome (s : FallbackSecureStorage) : Bool :=
  if s.promotionNeeded then
    s.primary.outcomes.getD (attempts s.fallback.listKeys.length s.primary.outcomes) true
  else s.primary.outcomes.headD true

/-- Secrets are in the fallback only as long as a promotion is due. -/
def Consistent (s : FallbackSecureStorage) : Prop :=
  s.promotionNeeded = false → ∀ k, s.fallback.readSecret k = none

section Promotion

variable (s : FallbackSecureStorage)

/-- **What a promotion does**, whether it is due or not. -/
theorem attemptFallbackPromotion_spec :
    s.attemptFallbackPromotion.fallback = s.fallback ∧
    (s.attemptFallbackPromotion.promotionNeeded = false →
      s.promotionNeeded = false ∨ s.fallback.listKeys.isEmpty = true) ∧
    s.attemptFallbackPromotion.primary.succeeds = s.ownOutcome ∧
    ∀ k, s.attemptFallbackPromotion.primary.memory.readSecret k = s.promotedRead k := by
  unfold attemptFallbackPromotion ownOutcome promotedRead
  cases hneeded : s.promotionNeeded with
  | false => simp [hneeded, PrimaryStorage.succeeds]
  | true =>
    cases hempty : s.fallback.listKeys.isEmpty with
    | true =>
      rw [List.isEmpty_iff.mp hempty]
      cases houtcomes : s.primary.outcomes <;>
        simp [PrimaryStorage.succeeds, attempts, firstFailure_zero, houtcomes]
    | false =>
      obtain ⟨hout, hread⟩ := copyKeys_spec s.fallback s.fallback.listKeys s.primary
        (fun k hk => MemorySecureStorage.mem_listKeys.mp hk)
      refine ⟨rfl, fun h => absurd h (by simp), ?_, fun k => ?_⟩
      · show (copyKeys _ _ _).succeeds = _
        rw [PrimaryStorage.succeeds, hout]
        simp [List.headD_eq_head?_getD]
      · refine (hread k).trans ?_
        simp

/-- Finalizing empties the fallback, and does not touch the primary. -/
theorem finalizeFallbackPromotion_spec (h : s.Consistent) :
    s.finalizeFallbackPromotion.primary = s.primary ∧
    s.finalizeFallbackPromotion.promotionNeeded = false ∧
    ∀ k, s.finalizeFallbackPromotion.fallback.readSecret k = none := by
  unfold finalizeFallbackPromotion
  cases hneeded : s.promotionNeeded with
  | false => exact ⟨rfl, hneeded, h hneeded⟩
  | true =>
    cases hempty : s.fallback.listKeys.isEmpty with
    | true => exact ⟨rfl, rfl, MemorySecureStorage.listKeys_isEmpty.mp hempty⟩
    | false =>
      refine ⟨rfl, rfl, fun k => ?_⟩
      show (List.foldl _ s.fallback s.fallback.listKeys).readSecret k = none
      rw [MemorySecureStorage.readSecret_foldl_deleteSecret]
      exact ite_eq_left_iff.mpr (fun hk => by simpa using hk)

end Promotion

end FallbackSecureStorage

/-! ## Calls -/

/-- The calls of the storage. -/
inductive StorageCall where
  | deleteSecret (key : Text)
  | listKeys
  | readSecret (key : Text)
  | writeSecret (key value : Text)
  deriving DecidableEq

namespace StorageCall

/-- The value that a call writes for a key. -/
def writes (k : Text) : StorageCall → Option Text
  | .writeSecret key value => if k = key then some value else none
  | _ => none

end StorageCall

namespace FallbackSecureStorage

/-- A call and what it does to the storage. -/
def call (s : FallbackSecureStorage) : StorageCall → FallbackSecureStorage
  | .deleteSecret key => s.deleteSecret key
  | .listKeys => s.listKeys.2
  | .readSecret key => (s.readSecret key).2
  | .writeSecret key value => s.writeSecret key value

section Call

variable (s : FallbackSecureStorage)

/-- **A call whose own operation succeeds** leaves the primary as its promotion
has made it, with what it writes itself, and the fallback empty. -/
theorem call_of_success {c : StorageCall} (h : s.Consistent) (hc : ∀ key, c ≠ .deleteSecret key)
    (hown : s.ownOutcome = true) :
    (s.call c).promotionNeeded = false ∧
    (∀ k, (s.call c).fallback.readSecret k = none) ∧
    ∀ k, (s.call c).primary.memory.readSecret k = (c.writes k).or (s.promotedRead k) := by
  obtain ⟨hfall, hneeded, hsucc, hread⟩ := s.attemptFallbackPromotion_spec
  rw [hown] at hsucc
  -- the promotion keeps the storage consistent, whatever it has copied
  have hcons (p : PrimaryStorage) :
      ({ s.attemptFallbackPromotion with primary := p } : FallbackSecureStorage).Consistent := by
    intro hn k
    show s.attemptFallbackPromotion.fallback.readSecret k = none
    rw [hfall]
    rcases hneeded hn with hs | hs
    · exact h hs k
    · exact MemorySecureStorage.listKeys_isEmpty.mp hs k
  cases c with
  | deleteSecret key => exact absurd rfl (hc key)
  | listKeys =>
    obtain ⟨hp, hn, hf⟩ :=
      finalizeFallbackPromotion_spec _ (hcons s.attemptFallbackPromotion.primary.attempted)
    simp only [call, listKeys, PrimaryStorage.listKeys, hsucc, if_true]
    refine ⟨hn, hf, fun k => ?_⟩
    refine (congrArg (fun p => p.memory.readSecret k) hp).trans (hread k)
  | readSecret key =>
    obtain ⟨hp, hn, hf⟩ :=
      finalizeFallbackPromotion_spec _ (hcons s.attemptFallbackPromotion.primary.attempted)
    simp only [call, readSecret, PrimaryStorage.readSecret, hsucc, if_true]
    refine ⟨hn, hf, fun k => ?_⟩
    exact (congrArg (fun p => p.memory.readSecret k) hp).trans (hread k)
  | writeSecret key value =>
    obtain ⟨hp, hn, hf⟩ := finalizeFallbackPromotion_spec _
      (hcons { s.attemptFallbackPromotion.primary.attempted with
        memory := s.attemptFallbackPromotion.primary.memory.writeSecret key value })
    simp only [call, writeSecret, PrimaryStorage.writeSecret, hsucc, if_true]
    refine ⟨hn, hf, fun k => ?_⟩
    refine (congrArg (fun p => p.memory.readSecret k) hp).trans ?_
    show (s.attemptFallbackPromotion.primary.memory.writeSecret key value).readSecret k = _
    rw [MemorySecureStorage.readSecret_writeSecret, hread, StorageCall.writes]
    by_cases hk : k = key <;> simp [hk]

/-- **A call whose own operation fails** leaves the primary as its promotion has
made it, and what it writes itself goes to the fallback. -/
theorem call_of_failure {c : StorageCall} (hc : ∀ key, c ≠ .deleteSecret key)
    (hown : s.ownOutcome = false) :
    (s.call c).promotionNeeded = true ∧
    (∀ k, (s.call c).fallback.readSecret k = (c.writes k).or (s.fallback.readSecret k)) ∧
    ∀ k, (s.call c).primary.memory.readSecret k = s.promotedRead k := by
  obtain ⟨hfall, -, hsucc, hread⟩ := s.attemptFallbackPromotion_spec
  rw [hown] at hsucc
  cases c with
  | deleteSecret key => exact absurd rfl (hc key)
  | listKeys =>
    simp only [call, listKeys, PrimaryStorage.listKeys, hsucc, Bool.false_eq_true, if_false]
    exact ⟨rfl, fun k => congrArg (fun m => m.readSecret k) hfall, hread⟩
  | readSecret key =>
    simp only [call, readSecret, PrimaryStorage.readSecret, hsucc, Bool.false_eq_true, if_false]
    exact ⟨rfl, fun k => congrArg (fun m => m.readSecret k) hfall, hread⟩
  | writeSecret key value =>
    simp only [call, writeSecret, PrimaryStorage.writeSecret, hsucc, Bool.false_eq_true, if_false]
    refine ⟨rfl, fun k => ?_, hread⟩
    show (s.attemptFallbackPromotion.fallback.writeSecret key value).readSecret k = _
    rw [MemorySecureStorage.readSecret_writeSecret, hfall, StorageCall.writes]
    by_cases hk : k = key <;> simp [hk]

/-- **Deleting** removes the secret from the fallback, and from the primary if the
primary lets it. -/
theorem call_deleteSecret (key : Text) :
    (s.call (.deleteSecret key)).promotionNeeded
        = (s.promotionNeeded || !s.primary.outcomes.headD true) ∧
    (∀ k, (s.call (.deleteSecret key)).fallback.readSecret k
        = if k = key then none else s.fallback.readSecret k) ∧
    ∀ k, (s.call (.deleteSecret key)).primary.memory.readSecret k
        = if k = key ∧ s.primary.outcomes.headD true = true then none
          else s.primary.memory.readSecret k := by
  unfold call deleteSecret PrimaryStorage.deleteSecret PrimaryStorage.succeeds
  cases s.primary.outcomes.headD true with
  | true =>
    refine ⟨(Bool.or_false _).symm, fun k => ?_, fun k => ?_⟩
    · exact MemorySecureStorage.readSecret_deleteSecret _ _ _
    · refine (MemorySecureStorage.readSecret_deleteSecret _ _ _).trans ?_
      simp
  | false =>
    refine ⟨(Bool.or_true _).symm, fun k => ?_, fun k => ?_⟩
    · exact MemorySecureStorage.readSecret_deleteSecret _ _ _
    · simp [markPrimaryFailed, PrimaryStorage.attempted]

/-- What a read returns: what the primary holds after the promotion, or, if the
primary fails, what the fallback holds. -/
theorem readSecret_fst (key : Text) :
    (s.readSecret key).1
      = if s.ownOutcome then s.promotedRead key else s.fallback.readSecret key := by
  obtain ⟨hfall, -, hsucc, hread⟩ := s.attemptFallbackPromotion_spec
  rw [← hsucc, ← hread key, ← hfall]
  cases hnext : s.attemptFallbackPromotion.primary.succeeds <;>
    simp [readSecret, PrimaryStorage.readSecret, hnext, markPrimaryFailed]

/-- What is listed: the keys of what the primary holds after the promotion, or, if
the primary fails, of what the fallback holds. -/
theorem mem_listKeys_fst (k : Text) :
    k ∈ s.listKeys.1
      ↔ (if s.ownOutcome then s.promotedRead k else s.fallback.readSecret k) ≠ none := by
  obtain ⟨hfall, -, hsucc, hread⟩ := s.attemptFallbackPromotion_spec
  rw [← hsucc, ← hread k, ← hfall]
  cases hnext : s.attemptFallbackPromotion.primary.succeeds <;>
    simp [listKeys, PrimaryStorage.listKeys, hnext, markPrimaryFailed]

end Call

end FallbackSecureStorage
