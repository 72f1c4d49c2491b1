import Trojan.Client.FallbackSecureStorage

/-!
# What becomes of the secrets

Two laws a storage of secrets should obey, over every sequence of calls and
every pattern of failures of the primary:

* a secret that was written, and not deleted since, is still there
  (`StorageHistory.Durable`);
* a secret that was deleted, and not written since, is gone
  (`StorageHistory.Gone`).

`FallbackSecureStorage` obeys neither. A promotion stops at the first write that
fails, and says so to nobody: if the operation that the call is about then
succeeds, the fallback is emptied, and the secrets that were not copied are lost
(`StorageHistory.lost_after_partial_promotion`). And a deletion that the primary
refuses is not tried again: the secret comes back with the primary
(`StorageHistory.back_after_failed_deletion`). `StorageHistory.durable_iff` and
`StorageHistory.gone_iff` say that these are the only ways.
-/

namespace StorageCall

/-- What a call says about a key, if it writes or deletes it: the value it is to
have from then on. -/
def settles (k : Text) : StorageCall → Option (Option Text)
  | .deleteSecret key => if k = key then some none else none
  | .writeSecret key value => if k = key then some (some value) else none
  | _ => none

/-- What the last call that wrote or deleted a key has said about it. -/
def lastOn (k : Text) (calls : List StorageCall) : Option (Option Text) :=
  calls.reverse.findSome? (settles k)

theorem lastOn_concat (k : Text) (calls : List StorageCall) (c : StorageCall) :
    lastOn k (calls ++ [c]) = (c.settles k).or (lastOn k calls) := by
  rw [lastOn, List.reverse_append, List.reverse_singleton, List.singleton_append,
    List.findSome?_cons]
  cases c.settles k <;> rfl

/-- A call that is not a deletion settles what it writes. -/
theorem settles_eq_writes {c : StorageCall} (hc : ∀ key, c ≠ .deleteSecret key) (k : Text) :
    c.settles k = (c.writes k).map some := by
  cases c with
  | deleteSecret key => exact absurd rfl (hc key)
  | listKeys => rfl
  | readSecret key => rfl
  | writeSecret key value =>
    show (if k = key then some (some value) else none)
      = (if k = key then some value else none).map some
    split <;> rfl

end StorageCall

namespace FallbackSecureStorage

/-- What the storage is to have for a key: the fallback holds what is newer. -/
def held (s : FallbackSecureStorage) (k : Text) : Option Text :=
  (s.fallback.readSecret k).or (s.primary.memory.readSecret k)

/-- A promotion changes nothing of what is held. -/
theorem or_promotedRead (s : FallbackSecureStorage) (k : Text) :
    (s.fallback.readSecret k).or (s.promotedRead k) = s.held k := by
  unfold promotedRead held
  split
  · rename_i hk
    obtain ⟨v, hv⟩ := Option.ne_none_iff_exists'.mp
      (MemorySecureStorage.mem_listKeys.mp (List.mem_of_mem_take hk.2))
    rw [hv]
    rfl
  · rfl

theorem firstFailure_of_success {n : ℕ} {outcomes : List Bool}
    (h : ∀ outcome ∈ outcomes, outcome = true) : firstFailure n outcomes = none := by
  refine List.findIdx?_eq_none_iff.mpr (fun outcome ho => ?_)
  rw [h outcome (List.mem_of_mem_take ho)]
  rfl

/-- An operation of the primary succeeds if all of them do. -/
theorem getD_of_success {outcomes : List Bool} (h : ∀ outcome ∈ outcomes, outcome = true)
    (i : ℕ) : outcomes.getD i true = true := by
  rw [List.getD_eq_getElem?_getD]
  cases hi : outcomes[i]? with
  | none => rfl
  | some outcome => exact h outcome (List.mem_of_getElem? hi)

/-- **A read during which the primary does not fail** returns what is held. -/
theorem readSecret_of_success {s : FallbackSecureStorage} (hs : s.Consistent)
    {outcomes : List Bool} (h : ∀ outcome ∈ outcomes, outcome = true) (k : Text) :
    ((s.facing outcomes).readSecret k).1 = s.held k := by
  have hown : (s.facing outcomes).ownOutcome = true := by
    unfold ownOutcome
    split
    · exact getD_of_success h _
    · rw [List.headD_eq_head?_getD, List.head?_eq_getElem?, ← List.getD_eq_getElem?_getD]
      exact getD_of_success h 0
  rw [readSecret_fst, hown, if_pos rfl]
  cases hneeded : s.promotionNeeded with
  | false => simp [promotedRead, held, facing, hneeded, hs hneeded k]
  | true =>
    have hall : copied s.fallback.listKeys.length outcomes = s.fallback.listKeys.length := by
      rw [copied, firstFailure_of_success h]
      rfl
    simp only [promotedRead, held, facing, hneeded, hall, List.take_length,
      MemorySecureStorage.mem_listKeys]
    cases s.fallback.readSecret k <;> simp

end FallbackSecureStorage

/-- A call, with the outcomes of the operations of the primary during it. -/
structure StorageEvent where
  call : StorageCall
  outcomes : List Bool := []
  deriving DecidableEq

/-- The storage and the calls it has had. -/
structure StorageHistory where
  storage : FallbackSecureStorage
  calls : List StorageCall := []

namespace StorageHistory

/-- A storage that is new: the platform may hold secrets, the memory holds none. -/
def initial (primary : MemorySecureStorage) : StorageHistory where
  storage := { primary := { memory := primary }, fallback := ⟨∅⟩ }

def step (s : StorageHistory) (e : StorageEvent) : Option StorageHistory :=
  some ⟨(s.storage.facing e.outcomes).call e.call, s.calls ++ [e.call]⟩

/-- **What was written is kept**: one of the two storages holds it, and a read
during which the primary does not fail returns it. -/
def Durable (s : StorageHistory) : Prop :=
  ∀ k v, StorageCall.lastOn k s.calls = some (some v) →
    (s.storage.primary.memory.readSecret k = some v ∨
      s.storage.fallback.readSecret k = some v) ∧
    ∀ outcomes, (∀ outcome ∈ outcomes, outcome = true) →
      ((s.storage.facing outcomes).readSecret k).1 = some v

/-- **What was deleted is gone**: no read returns it and no listing shows it,
whatever the primary does. -/
def Gone (s : StorageHistory) : Prop :=
  ∀ k, StorageCall.lastOn k s.calls = some none →
    ∀ outcomes, ((s.storage.facing outcomes).readSecret k).1 = none ∧
      k ∉ (s.storage.facing outcomes).listKeys.1

/-- A promotion that fails at a write, in a call that goes on to succeed, leaves
behind only secrets that the primary holds already, or that the call writes. -/
def LeavesNothing (s : StorageHistory) (e : StorageEvent) : Prop :=
  s.storage.promotionNeeded = true → (∀ key, e.call ≠ .deleteSecret key) →
    ∀ i, FallbackSecureStorage.firstFailure s.storage.fallback.listKeys.length e.outcomes = some i →
      e.outcomes.getD (i + 1) true = true →
      ∀ k ∈ s.storage.fallback.listKeys.drop i,
        s.storage.primary.memory.readSecret k = s.storage.fallback.readSecret k ∨
          e.call.writes k ≠ none

/-- A deletion finds the primary willing, or without the secret. -/
def DeletesFromPrimary (s : StorageHistory) (e : StorageEvent) : Prop :=
  ∀ key, e.call = .deleteSecret key →
    e.outcomes.headD true = true ∨ s.storage.primary.memory.readSecret key = none

/-! ## What holds in every run -/

/-- What the fallback holds is what was written last, and it holds nothing unless
a promotion is due. -/
structure Sound (s : StorageHistory) : Prop where
  consistent : s.storage.Consistent
  latest : ∀ k v, s.storage.fallback.readSecret k = some v →
    StorageCall.lastOn k s.calls = some (some v)

theorem sound_initial (primary : MemorySecureStorage) : (initial primary).Sound :=
  ⟨fun _ _ => rfl, fun _ _ h => nomatch h⟩

/-- A call keeps the storage sound: what it writes to the fallback is what it is
called with, and what it deletes there it deletes for good. -/
theorem sound_step {s t : StorageHistory} {e : StorageEvent} (h : s.Sound)
    (hstep : step s e = some t) : t.Sound := by
  obtain rfl := Option.some.inj hstep
  by_cases hc : ∀ key, e.call ≠ .deleteSecret key
  · cases hown : (s.storage.facing e.outcomes).ownOutcome with
    | true =>
      obtain ⟨-, hfall, -⟩ := (s.storage.facing e.outcomes).call_of_success h.consistent hc hown
      exact ⟨fun _ => hfall, fun k v hv => absurd ((hfall k).symm.trans hv) (by simp)⟩
    | false =>
      obtain ⟨hneeded, hfall, -⟩ := (s.storage.facing e.outcomes).call_of_failure hc hown
      refine ⟨fun hn => absurd (hneeded.symm.trans hn) (by simp), fun k v hv => ?_⟩
      have hv := (hfall k).symm.trans hv
      rw [StorageCall.lastOn_concat, StorageCall.settles_eq_writes hc]
      cases hw : e.call.writes k with
      | none =>
        rw [hw] at hv
        exact h.latest k v hv
      | some w =>
        rw [hw] at hv
        exact congrArg some hv
  · push Not at hc
    obtain ⟨key, hkey⟩ := hc
    rw [hkey]
    obtain ⟨hneeded, hfall, -⟩ := (s.storage.facing e.outcomes).call_deleteSecret key
    refine ⟨fun hn k => ?_, fun k v hv => ?_⟩
    · have hs : s.storage.promotionNeeded = false := by
        have := hneeded.symm.trans hn
        exact (Bool.or_eq_false_iff.mp this).1
      rw [hfall k]
      exact ite_eq_left_iff.mpr (fun _ => h.consistent hs k)
    · have hv := (hfall k).symm.trans hv
      rw [StorageCall.lastOn_concat]
      by_cases hk : k = key
      · rw [if_pos hk] at hv
        exact nomatch hv
      · rw [if_neg hk] at hv
        have hsettles : (StorageCall.deleteSecret key).settles k = none := if_neg hk
        rw [hsettles]
        exact h.latest k v hv

/-! ## What was written -/

/-- What the calls have written is what is held. -/
def Holds (s : StorageHistory) : Prop :=
  ∀ k v, StorageCall.lastOn k s.calls = some (some v) → s.storage.held k = some v

/-- The secrets are kept exactly when what is held is what was written. -/
theorem durable_iff_held {s : StorageHistory} (h : s.Sound) :
    s.Durable ↔ s.Holds := by
  refine forall_congr' (fun k => forall_congr' (fun v => imp_congr_right (fun _ => ?_)))
  constructor
  · rintro ⟨-, hread⟩
    have hnil : ∀ outcome ∈ ([] : List Bool), outcome = true := List.forall_mem_nil _
    rw [← hread [] hnil]
    exact (FallbackSecureStorage.readSecret_of_success h.consistent hnil k).symm
  · intro hheld
    refine ⟨?_, fun outcomes hall => ?_⟩
    · rcases Option.or_eq_some_iff.mp hheld with hf | ⟨-, hp⟩
      · exact .inr hf
      · exact .inl hp
    · rw [FallbackSecureStorage.readSecret_of_success h.consistent hall]
      exact hheld

/-- A call whose own operation fails keeps what is held, and holds what it
writes. -/
theorem held_of_failure {s : StorageHistory} {e : StorageEvent}
    (hc : ∀ key, e.call ≠ .deleteSecret key)
    (hown : (s.storage.facing e.outcomes).ownOutcome = false) (k : Text) :
    ((s.storage.facing e.outcomes).call e.call).held k
      = (e.call.writes k).or (s.storage.held k) := by
  obtain ⟨-, hfall, hprim⟩ := (s.storage.facing e.outcomes).call_of_failure hc hown
  rw [FallbackSecureStorage.held, hfall, hprim, Option.or_assoc,
    FallbackSecureStorage.or_promotedRead]
  rfl

/-- A call whose own operation succeeds holds what its promotion has copied, and
what it writes. -/
theorem held_of_success {s : StorageHistory} {e : StorageEvent} (h : s.Sound)
    (hc : ∀ key, e.call ≠ .deleteSecret key)
    (hown : (s.storage.facing e.outcomes).ownOutcome = true) (k : Text) :
    ((s.storage.facing e.outcomes).call e.call).held k
      = (e.call.writes k).or ((s.storage.facing e.outcomes).promotedRead k) := by
  obtain ⟨-, hfall, hprim⟩ :=
    (s.storage.facing e.outcomes).call_of_success h.consistent hc hown
  rw [FallbackSecureStorage.held, hfall, hprim]
  rfl

/-- A deletion keeps what is held for the other keys. -/
theorem held_of_deleteSecret (s : StorageHistory) (outcomes : List Bool) {key k : Text}
    (hk : k ≠ key) :
    ((s.storage.facing outcomes).call (.deleteSecret key)).held k = s.storage.held k := by
  obtain ⟨-, hfall, hprim⟩ := (s.storage.facing outcomes).call_deleteSecret key
  rw [FallbackSecureStorage.held, hfall, hprim, if_neg hk, if_neg (fun h => hk h.1)]
  rfl

/-- A promotion keeps what is held for a key exactly when it copies it, or the
primary holds it already. -/
theorem promotedRead_eq_held_iff {s : FallbackSecureStorage} (h : s.Consistent) (k : Text) :
    s.promotedRead k = s.held k ↔
      (s.promotionNeeded = true →
        k ∈ s.fallback.listKeys.drop
          (FallbackSecureStorage.copied s.fallback.listKeys.length s.primary.outcomes) →
        s.primary.memory.readSecret k = s.fallback.readSecret k) := by
  unfold FallbackSecureStorage.promotedRead FallbackSecureStorage.held
  generalize FallbackSecureStorage.copied s.fallback.listKeys.length s.primary.outcomes = m
  have hmem := MemorySecureStorage.mem_listKeys (m := s.fallback) (k := k)
  cases hneeded : s.promotionNeeded with
  | false =>
    rw [h hneeded k]
    simp
  | true =>
    cases hv : s.fallback.readSecret k with
    | none =>
      have hdrop : k ∉ s.fallback.listKeys.drop m :=
        fun hk => hmem.mp (List.mem_of_mem_drop hk) hv
      have htake : k ∉ s.fallback.listKeys.take m :=
        fun hk => hmem.mp (List.mem_of_mem_take hk) hv
      simp [hdrop, htake]
    | some v =>
      have hk : k ∈ s.fallback.listKeys := hmem.mpr (by simp [hv])
      have hnodup := s.fallback.nodup_listKeys
      rw [← List.take_append_drop m s.fallback.listKeys] at hk hnodup
      have hdisj := List.disjoint_of_nodup_append hnodup
      rcases List.mem_append.mp hk with htake | hdrop
      · have hdrop : k ∉ s.fallback.listKeys.drop m := fun hd => hdisj htake hd
        simp [htake, hdrop]
      · have htake : k ∉ s.fallback.listKeys.take m := fun ht => hdisj ht hdrop
        simp [hdrop, htake]

/-- What a promotion does not copy, when the call goes on to succeed: the keys
from its first failure on. -/
theorem mem_drop_copied_iff {s : FallbackSecureStorage} (hneeded : s.promotionNeeded = true)
    (hown : s.ownOutcome = true) (k : Text) :
    k ∈ s.fallback.listKeys.drop
        (FallbackSecureStorage.copied s.fallback.listKeys.length s.primary.outcomes) ↔
      ∃ i, FallbackSecureStorage.firstFailure s.fallback.listKeys.length s.primary.outcomes
          = some i ∧
        s.primary.outcomes.getD (i + 1) true = true ∧ k ∈ s.fallback.listKeys.drop i := by
  unfold FallbackSecureStorage.ownOutcome FallbackSecureStorage.attempts at hown
  rw [if_pos hneeded] at hown
  unfold FallbackSecureStorage.copied
  cases hfail :
      FallbackSecureStorage.firstFailure s.fallback.listKeys.length s.primary.outcomes with
  | none => simp
  | some i =>
    rw [hfail] at hown
    refine ⟨fun hk => ⟨i, rfl, hown, hk⟩, ?_⟩
    rintro ⟨j, hj, -, hk⟩
    exact Option.some.inj hj ▸ hk

/-- A call that is not a deletion keeps what is held if it holds what it writes,
and for the other keys what was held before. -/
theorem holds_call_iff {s : StorageHistory} {e : StorageEvent} {t : FallbackSecureStorage}
    {f : Text → Option Text} (hc : ∀ key, e.call ≠ .deleteSecret key) (hs : s.Holds)
    (hheld : ∀ k, t.held k = (e.call.writes k).or (f k)) :
    Holds ⟨t, s.calls ++ [e.call]⟩ ↔
      ∀ k v, e.call.writes k = none → StorageCall.lastOn k s.calls = some (some v) →
        f k = s.storage.held k := by
  refine forall_congr' (fun k => forall_congr' (fun v => ?_))
  rw [StorageCall.lastOn_concat, StorageCall.settles_eq_writes hc, hheld]
  cases e.call.writes k with
  | some w =>
    refine iff_of_true (fun hv => ?_) (fun hw => nomatch hw)
    exact Option.some.inj hv
  | none =>
    refine ⟨fun h _ hv => (h hv).trans (hs k v hv).symm, fun h hv => ?_⟩
    exact (h rfl hv).trans (hs k v hv)

/-- A call whose own operation fails keeps everything, and there is nothing it
could leave behind. -/
theorem holds_of_failure {s : StorageHistory} {e : StorageEvent}
    (hc : ∀ key, e.call ≠ .deleteSecret key)
    (hown : (s.storage.facing e.outcomes).ownOutcome = false) (hs : s.Holds) :
    Holds ⟨(s.storage.facing e.outcomes).call e.call, s.calls ++ [e.call]⟩ ∧
      s.LeavesNothing e := by
  refine ⟨(holds_call_iff hc hs (held_of_failure hc hown)).mpr (fun k v _ _ => rfl), ?_⟩
  intro hneeded _ i hi hnext
  -- the outcome after the first failure is that of the call's own operation
  have hneeded : (s.storage.facing e.outcomes).promotionNeeded = true := hneeded
  have hi : FallbackSecureStorage.firstFailure
      (s.storage.facing e.outcomes).fallback.listKeys.length
      (s.storage.facing e.outcomes).primary.outcomes = some i := hi
  rw [FallbackSecureStorage.ownOutcome, if_pos hneeded, FallbackSecureStorage.attempts, hi] at hown
  exact absurd (hnext.symm.trans hown) (by simp)

/-- A call whose own operation succeeds keeps everything exactly when its
promotion leaves nothing behind. -/
theorem holds_of_success_iff {s : StorageHistory} {e : StorageEvent} (h : s.Sound)
    (hc : ∀ key, e.call ≠ .deleteSecret key)
    (hown : (s.storage.facing e.outcomes).ownOutcome = true) (hs : s.Holds) :
    Holds ⟨(s.storage.facing e.outcomes).call e.call, s.calls ++ [e.call]⟩ ↔
      s.LeavesNothing e := by
  have hpromoted := promotedRead_eq_held_iff (s := s.storage.facing e.outcomes) h.consistent
  have hdrop (hneeded : s.storage.promotionNeeded = true) :=
    mem_drop_copied_iff (s := s.storage.facing e.outcomes) hneeded hown
  rw [holds_call_iff hc hs (held_of_success h hc hown)]
  constructor
  · intro hall hneeded _ i hi hnext k hk
    by_cases hw : e.call.writes k = none
    · obtain ⟨v, hv⟩ := Option.ne_none_iff_exists'.mp
        (MemorySecureStorage.mem_listKeys.mp (List.mem_of_mem_drop hk))
      have hsame := hall k v hw (h.latest k v hv)
      exact .inl ((hpromoted k).mp hsame hneeded ((hdrop hneeded k).mpr ⟨i, hi, hnext, hk⟩))
    · exact .inr hw
  · intro hleaves k v hw hv
    refine (hpromoted k).mpr (fun hneeded hk => ?_)
    obtain ⟨i, hi, hnext, hk⟩ := (hdrop hneeded k).mp hk
    exact (hleaves hneeded hc i hi hnext k hk).resolve_right (fun hne => hne hw)

/-- A deletion keeps everything that is not deleted. -/
theorem holds_of_deleteSecret {s : StorageHistory} (hs : s.Holds) (key : Text)
    (outcomes : List Bool) :
    Holds ⟨(s.storage.facing outcomes).call (.deleteSecret key),
      s.calls ++ [.deleteSecret key]⟩ := by
  intro k v hv
  rw [StorageCall.lastOn_concat] at hv
  by_cases hk : k = key
  · rw [show (StorageCall.deleteSecret key).settles k = some none from if_pos hk] at hv
    exact nomatch hv
  · rw [show (StorageCall.deleteSecret key).settles k = none from if_neg hk] at hv
    rw [held_of_deleteSecret s outcomes hk]
    exact hs k v hv

/-- **One call**: from a storage that holds what was written, it leads to one that
does exactly when its promotion leaves nothing behind. -/
theorem durable_step_iff {s t : StorageHistory} {e : StorageEvent} (h : s.Sound)
    (hs : s.Durable) (hstep : step s e = some t) : t.Durable ↔ s.LeavesNothing e := by
  have ht : t.Sound := sound_step h hstep
  have hs : s.Holds := (durable_iff_held h).mp hs
  refine (durable_iff_held ht).trans ?_
  obtain rfl := Option.some.inj hstep
  by_cases hc : ∀ key, e.call ≠ .deleteSecret key
  · cases hown : (s.storage.facing e.outcomes).ownOutcome with
    | false =>
      obtain ⟨hholds, hleaves⟩ := holds_of_failure hc hown hs
      exact iff_of_true hholds hleaves
    | true => exact holds_of_success_iff h hc hown hs
  · refine iff_of_true ?_ (fun _ hc' => absurd hc' hc)
    push Not at hc
    obtain ⟨key, hkey⟩ := hc
    rw [hkey]
    exact holds_of_deleteSecret hs key e.outcomes

theorem run_eq_some (s : StorageHistory) (es : List StorageEvent) :
    ∃ t, Machine.run step s es = some t := by
  induction es generalizing s with
  | nil => exact ⟨s, rfl⟩
  | cons e es ih => exact ih _

/-- **Written secrets are kept** along the runs in which no promotion that fails
leaves anything behind in a call that succeeds, and along no others. -/
theorem durable_iff (primary : MemorySecureStorage) (es : List StorageEvent) :
    (∀ t, Machine.Visits step (initial primary) es t → t.Durable) ↔
      Machine.Along step LeavesNothing (initial primary) es := by
  obtain ⟨u, hrun⟩ := run_eq_some (initial primary) es
  refine Machine.forall_visits_iff_along (I := Sound) (fun s e t hI _ hstep _ => ?_)
    (fun s e t hI hP hstep => durable_step_iff hI hP hstep) (sound_initial primary) ?_ hrun
  · exact sound_step hI hstep
  · exact fun k v hv => nomatch hv

/-- The secret of one key is written while the primary fails, then that of
another. The promotion of the second call fails, the call itself succeeds, and
the first secret is in neither storage. -/
theorem lost_after_partial_promotion :
    ¬ ∀ primary es t, Machine.Visits step (initial primary) es t → t.Durable := by
  intro h
  have hlost := (h ⟨∅⟩
    [⟨.writeSecret [1] [10], [false]⟩, ⟨.writeSecret [2] [20], [false, true]⟩] _
    ⟨_, List.prefix_refl _, rfl⟩) [1] [10] rfl
  rcases hlost.1 with hp | hf
  · exact absurd hp (by decide +kernel)
  · exact absurd hf (by decide +kernel)

/-! ## What was deleted -/

/-- The fallback does not hold what was deleted. -/
theorem fallback_of_deleted {s : StorageHistory} (h : s.Sound) {k : Text}
    (hk : StorageCall.lastOn k s.calls = some none) :
    s.storage.fallback.readSecret k = none := by
  by_contra hne
  obtain ⟨v, hv⟩ := Option.ne_none_iff_exists'.mp hne
  exact absurd (hk.symm.trans (h.latest k v hv)) (by simp)

/-- What was deleted is gone exactly when the primary does not hold it. -/
theorem gone_iff_primary {s : StorageHistory} (h : s.Sound) :
    s.Gone ↔ ∀ k, StorageCall.lastOn k s.calls = some none →
      s.storage.primary.memory.readSecret k = none := by
  refine forall_congr' (fun k => forall_congr' (fun hk => ?_))
  have hfall := fallback_of_deleted h hk
  constructor
  · intro hgone
    have hnil : ∀ outcome ∈ ([] : List Bool), outcome = true := List.forall_mem_nil _
    have hread := FallbackSecureStorage.readSecret_of_success h.consistent hnil k
    rw [(hgone []).1, FallbackSecureStorage.held, hfall] at hread
    exact hread.symm
  · intro hprim outcomes
    have hpromoted : (s.storage.facing outcomes).promotedRead k = none := by
      unfold FallbackSecureStorage.promotedRead
      split
      · exact hfall
      · exact hprim
    have hnone : (if (s.storage.facing outcomes).ownOutcome then
        (s.storage.facing outcomes).promotedRead k
        else (s.storage.facing outcomes).fallback.readSecret k) = none := by
      split
      · exact hpromoted
      · exact hfall
    rw [FallbackSecureStorage.readSecret_fst, FallbackSecureStorage.mem_listKeys_fst, hnone]
    exact ⟨rfl, fun hne => hne rfl⟩

/-- A call that is not a deletion brings back nothing that is gone. -/
theorem primary_call_of_settled {s : StorageHistory} {e : StorageEvent} (h : s.Sound)
    (hc : ∀ key, e.call ≠ .deleteSecret key) {k : Text}
    (hk : StorageCall.lastOn k (s.calls ++ [e.call]) = some none)
    (hprim : StorageCall.lastOn k s.calls = some none →
      s.storage.primary.memory.readSecret k = none) :
    ((s.storage.facing e.outcomes).call e.call).primary.memory.readSecret k = none := by
  rw [StorageCall.lastOn_concat, StorageCall.settles_eq_writes hc] at hk
  cases hw : e.call.writes k with
  | some w =>
    rw [hw] at hk
    exact nomatch hk
  | none =>
    rw [hw] at hk
    have hpromoted : (s.storage.facing e.outcomes).promotedRead k = none := by
      unfold FallbackSecureStorage.promotedRead
      split
      · exact fallback_of_deleted h hk
      · exact hprim hk
    cases hown : (s.storage.facing e.outcomes).ownOutcome with
    | true =>
      obtain ⟨-, -, hread⟩ :=
        (s.storage.facing e.outcomes).call_of_success h.consistent hc hown
      rw [hread, hw, hpromoted]
      rfl
    | false =>
      obtain ⟨-, -, hread⟩ := (s.storage.facing e.outcomes).call_of_failure hc hown
      rw [hread, hpromoted]

/-- **One call**: from a storage without what was deleted, it leads to one without
it exactly when a deletion is not refused by a primary that holds the secret. -/
theorem gone_step_iff {s t : StorageHistory} {e : StorageEvent} (h : s.Sound)
    (hs : s.Gone) (hstep : step s e = some t) : t.Gone ↔ s.DeletesFromPrimary e := by
  have ht : t.Sound := sound_step h hstep
  rw [gone_iff_primary h] at hs
  rw [gone_iff_primary ht]
  obtain rfl := Option.some.inj hstep
  by_cases hc : ∀ key, e.call ≠ .deleteSecret key
  · refine iff_of_true (fun k hk => primary_call_of_settled h hc hk (hs k)) ?_
    exact fun key hkey => absurd hkey (hc key)
  · push Not at hc
    obtain ⟨key, hkey⟩ := hc
    obtain ⟨-, -, hread⟩ := (s.storage.facing e.outcomes).call_deleteSecret key
    have hout : (s.storage.facing e.outcomes).primary.outcomes = e.outcomes := rfl
    have hmem : (s.storage.facing e.outcomes).primary.memory = s.storage.primary.memory := rfl
    rw [hout, hmem] at hread
    rw [DeletesFromPrimary, hkey]
    simp only [hread, StorageCall.lastOn_concat]
    constructor
    · intro hgone k hk
      obtain rfl := StorageCall.deleteSecret.inj hk
      have hkey := hgone key (by simp [StorageCall.settles])
      by_cases hnext : e.outcomes.headD true = true
      · exact .inl hnext
      · rw [if_neg (fun h => hnext h.2)] at hkey
        exact .inr hkey
    · intro hdel k hk
      by_cases hkk : k = key
      · subst hkk
        rcases hdel k rfl with hnext | hnone
        · exact if_pos ⟨rfl, hnext⟩
        · exact ite_eq_left_iff.mpr (fun _ => hnone)
      · rw [show (StorageCall.deleteSecret key).settles k = none from if_neg hkk] at hk
        rw [if_neg (fun h => hkk h.1)]
        exact hs k hk

/-- **Deleted secrets stay deleted** along the runs in which the primary refuses
no deletion of a secret it holds, and along no others. -/
theorem gone_iff (primary : MemorySecureStorage) (es : List StorageEvent) :
    (∀ t, Machine.Visits step (initial primary) es t → t.Gone) ↔
      Machine.Along step DeletesFromPrimary (initial primary) es := by
  obtain ⟨u, hrun⟩ := run_eq_some (initial primary) es
  refine Machine.forall_visits_iff_along (I := Sound) (fun s e t hI _ hstep _ => ?_)
    (fun s e t hI hP hstep => gone_step_iff hI hP hstep) (sound_initial primary) ?_ hrun
  · exact sound_step hI hstep
  · exact fun k hk => nomatch hk

/-- A secret of the platform is deleted while the primary fails. The deletion
returns as if it had been done, and the next read shows the secret. -/
theorem back_after_failed_deletion :
    ¬ ∀ primary es t, Machine.Visits step (initial primary) es t → t.Gone := by
  intro h
  have hback := (h ⟨AList.singleton [1] [10]⟩ [⟨.deleteSecret [1], [false]⟩] _
    ⟨_, List.prefix_refl _, rfl⟩) [1] rfl []
  exact absurd hback.1 (by decide +kernel)

end StorageHistory
