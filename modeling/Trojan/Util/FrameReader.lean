import Mathlib.Data.List.Induction
import Trojan.Util.FrameStream
import Trojan.Util.Machine

/-!
# Reading one frame

A program that reads frames off a stream does something else after each read –
it waits, it delivers, it gives up – and which of these it does is decided by
`FrameCode.next` on what it holds. A `FrameReader` is such a program, seen from
the moment it waits for a frame: only its reads matter, and of its states only
what it holds, or that it has delivered, or given up.

A reader and a writer *agree* on a frame (`FrameReader.Agrees`) when every way
of cutting the frame into reads gets it delivered, and no beginning of it makes
the reader give up. A reader that takes `limit` symbols of an incomplete frame
agrees on exactly the frames of at most `limit + 1` symbols
(`FrameReader.agrees_iff`). A longer frame may well arrive – in one read, or in
reads that end elsewhere; what it depends on is where the stream is cut.
-/

/-- **A program that reads frames**, with a limit on what it holds of an
incomplete frame and room for reads of some length. -/
structure FrameReader {A F V : Type} (c : FrameCode A F V) (limit room : ℕ) (S : Type) where
  /-- A read of some symbols. -/
  read : S → List A → Option S
  /-- The program waits for a frame of which it holds some symbols. -/
  Holds : List A → S → Prop
  /-- It has delivered the frame at the front of some symbols. -/
  Delivered : List A → S → Prop
  /-- It has given up. -/
  GaveUp : S → Prop
  reads : ∀ buf s p, Holds buf s → p.length ≤ room → ∃ t, read s p = some t
  waits : ∀ buf s p t, Holds buf s → read s p = some t →
    c.next limit (buf ++ p) = .wait → Holds (buf ++ p) t
  delivers : ∀ buf s p t v rest, Holds buf s → read s p = some t →
    c.next limit (buf ++ p) = .deliver v rest → Delivered (buf ++ p) t
  givesUp : ∀ buf s p t, Holds buf s → read s p = some t →
    c.next limit (buf ++ p) = .overflow → GaveUp t
  not_gaveUp_of_holds : ∀ buf s, Holds buf s → ¬ GaveUp s
  not_gaveUp_of_delivered : ∀ buf s, Delivered buf s → ¬ GaveUp s

namespace FrameReader

variable {A F V S : Type} {c : FrameCode A F V} {limit room : ℕ}
  (r : FrameReader c limit room S)

/-- **The reader agrees on a frame**: however a beginning of it is cut into
reads, the reader has not given up, and if it is the whole frame, has delivered
it; and it can be read, in pieces that there is room for. -/
def Agrees (s : S) (f : F) : Prop :=
  ∀ pieces : List (List A), (∀ p ∈ pieces, p ≠ []) → pieces.flatten <+: c.encode f →
    (∀ t, Machine.run r.read s pieces = some t →
      ¬ r.GaveUp t ∧ (pieces.flatten = c.encode f → r.Delivered (c.encode f) t))
    ∧ ((∀ p ∈ pieces, p.length ≤ room) → ∃ t, Machine.run r.read s pieces = some t)

/-- The next move on a beginning of a frame: deliver it if it is whole, else
wait, as long as it is within the limit. -/
theorem next_of_beginning {f : F} {buf : List A} (hpre : buf <+: c.encode f)
    (hlimit : buf = c.encode f ∨ buf.length ≤ limit) :
    (buf = c.encode f ∧ c.next limit buf = .deliver (c.value f) [])
      ∨ (buf ≠ c.encode f ∧ c.next limit buf = .wait) := by
  by_cases hwhole : buf = c.encode f
  · refine .inl ⟨hwhole, ?_⟩
    rw [FrameCode.next, hwhole, c.decode_encode]
    show FrameCode.Next.deliver _ (List.drop _ _) = _
    rw [List.drop_length]
  · refine .inr ⟨hwhole, ?_⟩
    rw [FrameCode.next, c.decode_of_proper hpre hwhole]
    exact if_neg (Nat.not_lt.mpr (hlimit.resolve_left hwhole))

/-- **A run of reads of a beginning of a frame** that stays within the limit
until the frame is whole. -/
theorem run_of_beginning {f : F} {s t : S} {buf : List A} {pieces : List (List A)}
    (hs : r.Holds buf s) (hproper : buf ≠ c.encode f) (hne : ∀ p ∈ pieces, p ≠ [])
    (hpre : buf ++ pieces.flatten <+: c.encode f)
    (hlimit : (c.encode f).length ≤ limit + 1 ∨ (buf ++ pieces.flatten).length ≤ limit)
    (hrun : Machine.run r.read s pieces = some t) :
    (buf ++ pieces.flatten ≠ c.encode f ∧ r.Holds (buf ++ pieces.flatten) t)
      ∨ (buf ++ pieces.flatten = c.encode f ∧ r.Delivered (c.encode f) t) := by
  induction pieces generalizing s buf with
  | nil =>
    obtain rfl := Option.some.inj hrun
    rw [List.flatten_nil, List.append_nil]
    exact .inl ⟨hproper, hs⟩
  | cons p pieces ih =>
    obtain ⟨u, hu, hrest⟩ := Machine.run_cons.mp hrun
    rw [List.flatten_cons, ← List.append_assoc] at hpre hlimit ⊢
    have hbuf : buf ++ p <+: c.encode f := (List.prefix_append _ _).trans hpre
    have hwithin : buf ++ p = c.encode f ∨ (buf ++ p).length ≤ limit := by
      rcases hlimit with hshort | hlong
      · by_cases hwhole : buf ++ p = c.encode f
        · exact .inl hwhole
        · have := c.length_lt_of_proper hbuf hwhole
          exact .inr (by omega)
      · rw [List.length_append] at hlong
        exact .inr (by omega)
    rcases next_of_beginning hbuf hwithin with ⟨hwhole, hnext⟩ | ⟨hproper', hnext⟩
    · -- the frame is whole: there is nothing left to read
      have hnil : pieces.flatten = [] := by
        have hlength := hpre.length_le
        rw [← hwhole, List.length_append] at hlength
        exact List.length_eq_zero_iff.mp (by omega)
      have hempty : pieces = [] := by
        cases pieces with
        | nil => rfl
        | cons q pieces =>
          rw [List.flatten_cons, List.append_eq_nil_iff] at hnil
          exact absurd hnil.1 (hne q (List.mem_cons_of_mem _ List.mem_cons_self))
      subst hempty
      obtain rfl := Option.some.inj hrest
      rw [List.flatten_nil, List.append_nil]
      exact .inr ⟨hwhole, hwhole ▸ r.delivers buf s p u _ _ hs hu hnext⟩
    · exact ih (r.waits buf s p u hs hu hnext) hproper'
        (fun q hq => hne q (List.mem_cons_of_mem _ hq)) hpre hlimit hrest

/-- A frame that the reader agrees on can be read. -/
theorem exists_run {f : F} {s : S} {buf : List A} {pieces : List (List A)}
    (hs : r.Holds buf s) (hproper : buf ≠ c.encode f) (hne : ∀ p ∈ pieces, p ≠ [])
    (hpre : buf ++ pieces.flatten <+: c.encode f)
    (hlimit : (c.encode f).length ≤ limit + 1) (hroom : ∀ p ∈ pieces, p.length ≤ room) :
    ∃ t, Machine.run r.read s pieces = some t := by
  induction pieces using List.reverseRecOn with
  | nil => exact ⟨s, rfl⟩
  | append_singleton pieces p ih =>
    rw [List.flatten_append, ← List.append_assoc] at hpre
    have hbefore : buf ++ pieces.flatten <+: c.encode f := (List.prefix_append _ _).trans hpre
    obtain ⟨t, ht⟩ := ih (fun q hq => hne q (List.mem_append_left _ hq)) hbefore
      (fun q hq => hroom q (List.mem_append_left _ hq))
    have hp : p ∈ pieces ++ [p] := List.mem_append_right _ List.mem_cons_self
    rcases r.run_of_beginning hs hproper (fun q hq => hne q (List.mem_append_left _ hq)) hbefore
      (.inl hlimit) ht with ⟨-, ht'⟩ | ⟨hwhole, -⟩
    · obtain ⟨u, hu⟩ := r.reads _ t p ht' (hroom p hp)
      exact ⟨u, Machine.run_concat.mpr ⟨t, ht, hu⟩⟩
    · -- a piece that is not empty does not fit behind the whole frame
      have hlength := hpre.length_le
      rw [← hwhole, List.length_append, List.flatten_singleton] at hlength
      exact absurd (List.length_eq_zero_iff.mp (by omega)) (hne p hp)

/-- **When a reader agrees on a frame**: exactly when the frame is at most one
symbol longer than the reader's limit. -/
theorem agrees_iff {s : S} (hs : r.Holds [] s) (hpos : 0 < limit) (hle : limit ≤ room) (f : F) :
    r.Agrees s f ↔ (c.encode f).length ≤ limit + 1 := by
  have hnil : [] ≠ c.encode f := by
    intro h
    have hlength := c.encode_length_pos f
    rw [← h] at hlength
    exact absurd hlength (by simp)
  constructor
  · -- a longer frame: the reader gives up after `limit` symbols, and then one
    intro hagrees
    by_contra hlong
    have hlong : limit + 1 < (c.encode f).length := Nat.lt_of_not_le hlong
    obtain ⟨x, hx⟩ : ∃ x, (c.encode f).take (limit + 1) = (c.encode f).take limit ++ [x] :=
      ⟨_, List.take_succ_eq_append_getElem (by omega)⟩
    have hfirst : ((c.encode f).take limit).length = limit :=
      List.length_take_of_le (by omega)
    have hflat : [(c.encode f).take limit, [x]].flatten = (c.encode f).take (limit + 1) := by
      rw [hx]
      rfl
    have hne : ∀ p ∈ [(c.encode f).take limit, [x]], p ≠ [] := by
      intro p hp
      rcases List.mem_cons.mp hp with rfl | hp
      · exact List.ne_nil_of_length_pos (by omega)
      · rw [List.mem_singleton.mp hp]
        simp
    obtain ⟨hgood, hruns⟩ := hagrees _ hne (hflat ▸ List.take_prefix _ _)
    obtain ⟨t, ht⟩ := hruns (fun p hp => by
      rcases List.mem_cons.mp hp with rfl | hp
      · omega
      · rw [List.mem_singleton.mp hp]
        exact Nat.le_trans hpos hle)
    refine (hgood t ht).1 ?_
    obtain ⟨u, hu, hrest⟩ := Machine.run_cons.mp ht
    obtain ⟨v, hv, hend⟩ := Machine.run_cons.mp hrest
    obtain rfl := Option.some.inj hend
    have hproper : (c.encode f).take limit ≠ c.encode f := by
      intro h
      rw [h] at hfirst
      omega
    have hwait : c.next limit ([] ++ (c.encode f).take limit) = .wait := by
      have hpre := List.take_prefix limit (c.encode f)
      rcases next_of_beginning hpre (.inr (Nat.le_of_eq hfirst)) with h | h
      · exact absurd h.1 hproper
      · exact h.2
    have hheld := r.waits [] s _ u hs hu hwait
    refine r.givesUp _ u [x] v hheld hv ?_
    rw [List.nil_append, ← hx]
    exact c.next_of_long hlong
  · intro hshort pieces hne hpre
    refine ⟨fun t ht => ?_, fun hroom => ?_⟩
    · rcases r.run_of_beginning hs hnil hne hpre (.inl hshort) ht with ⟨hproper, ht⟩ | ⟨-, ht⟩
      · exact ⟨r.not_gaveUp_of_holds _ t ht, fun hwhole => absurd hwhole hproper⟩
      · exact ⟨r.not_gaveUp_of_delivered _ t ht, fun _ => ht⟩
    · exact r.exists_run hs hnil hne hpre hshort hroom

end FrameReader
