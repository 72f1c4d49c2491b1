import Mathlib.Data.List.Basic
import Mathlib.Data.List.Count
import Mathlib.Data.List.Infix

/-!
# Operations in flight

A program written against an event loop *begins* operations and is called back
when they *end*. Between the two an operation is in flight, and the buffers it
was given belong to it: the program must leave them alone. Nothing in such a
program says which operations are in flight, so it is read off a history.

A history is a list of marks, the newest first. What a program has read or
written in total is a reading of it (`Flight.collect`, `Flight.total`), and a
law about the order of events is one that each mark obeys with respect to what
came before it (`Flight.Throughout`). `Flight.inFlight` is what has begun and
not ended, and `Flight.Undisturbed` says that no buffer was ever modified under
an operation that uses it.
-/

namespace Flight

/-- What a history records: that an operation began or ended, that a buffer
was modified, or anything else worth noting. -/
inductive Mark (O B A : Type) where
  | began (op : O)
  | ended (op : O)
  | modified (b : B)
  | noted (a : A)
  deriving DecidableEq

/-! ## Readings of a history -/

section Readings

variable {M C : Type}

/-- What a reading of the marks collects from a history, in the order of
time. -/
def collect (f : M → List C) : List M → List C
  | [] => []
  | m :: h => collect f h ++ f m

/-- What a reading of the marks adds up to over a history. -/
def total (f : M → ℕ) : List M → ℕ
  | [] => 0
  | m :: h => total f h + f m

/-- A law about each mark and what came before it, throughout a history. -/
def Throughout (P : M → List M → Prop) : List M → Prop
  | [] => True
  | m :: h => P m h ∧ Throughout P h

variable {f : M → List C} {g : M → ℕ} {P : M → List M → Prop} {m : M} {new h : List M}

@[simp] theorem collect_cons : collect f (m :: h) = collect f h ++ f m := rfl

@[simp] theorem total_cons : total g (m :: h) = total g h + g m := rfl

@[simp] theorem throughout_cons : Throughout P (m :: h) ↔ P m h ∧ Throughout P h := Iff.rfl

/-- Newer marks add what they say. -/
theorem collect_append : collect f (new ++ h) = collect f h ++ collect f new := by
  induction new with
  | nil => exact (List.append_nil _).symm
  | cons m new ih =>
    rw [List.cons_append, collect_cons, ih, List.append_assoc, collect_cons]

/-- Marks that a reading does not see add nothing to it. -/
theorem collect_append_of_silent (hsilent : ∀ m ∈ new, f m = []) :
    collect f (new ++ h) = collect f h := by
  induction new with
  | nil => rfl
  | cons m new ih =>
    rw [List.cons_append, collect_cons, hsilent m List.mem_cons_self, List.append_nil,
      ih (fun m hm => hsilent m (List.mem_cons_of_mem _ hm))]

/-- What is read off a history stays read as it grows. -/
theorem collect_prefix_of_suffix (hh : h <:+ new) : collect f h <+: collect f new := by
  obtain ⟨more, rfl⟩ := hh
  rw [collect_append]
  exact List.prefix_append _ _

theorem total_append_of_silent (hsilent : ∀ m ∈ new, g m = 0) :
    total g (new ++ h) = total g h := by
  induction new with
  | nil => rfl
  | cons m new ih =>
    rw [List.cons_append, total_cons, hsilent m List.mem_cons_self, Nat.add_zero,
      ih (fun m hm => hsilent m (List.mem_cons_of_mem _ hm))]

/-- Two readings that agree on every mark of a history add up to the same. -/
theorem total_congr {g' : M → ℕ} (heq : ∀ m ∈ h, g m = g' m) : total g h = total g' h := by
  induction h with
  | nil => rfl
  | cons m h ih =>
    rw [total_cons, total_cons, heq m List.mem_cons_self,
      ih (fun m hm => heq m (List.mem_cons_of_mem _ hm))]

/-- Two readings that agree on every mark of a history collect the same. -/
theorem collect_congr {f' : M → List C} (heq : ∀ m ∈ h, f m = f' m) :
    collect f h = collect f' h := by
  induction h with
  | nil => rfl
  | cons m h ih =>
    rw [collect_cons, collect_cons, heq m List.mem_cons_self,
      ih (fun m hm => heq m (List.mem_cons_of_mem _ hm))]

/-- Marks that a law does not mind do not change whether it holds. -/
theorem throughout_append_iff (hfree : ∀ m ∈ new, ∀ older, P m older) :
    Throughout P (new ++ h) ↔ Throughout P h := by
  induction new with
  | nil => exact Iff.rfl
  | cons m new ih =>
    rw [List.cons_append, throughout_cons, ih (fun m hm => hfree m (List.mem_cons_of_mem _ hm))]
    exact and_iff_right (hfree m List.mem_cons_self _)

/-- A law holds throughout a history exactly when it holds at every place in
it. -/
theorem throughout_iff :
    Throughout P h ↔ ∀ newer m older, h = newer ++ m :: older → P m older := by
  induction h with
  | nil => simp [Throughout]
  | cons m h ih =>
    rw [throughout_cons, ih]
    constructor
    · rintro ⟨hm, hall⟩ newer m' older hh
      cases newer with
      | nil =>
        obtain ⟨rfl, rfl⟩ := List.cons.inj hh
        exact hm
      | cons n newer =>
        obtain ⟨-, hrest⟩ := List.cons.inj hh
        exact hall newer m' older hrest
    · intro hall
      refine ⟨hall [] m h rfl, fun newer m' older hh => ?_⟩
      exact hall (m :: newer) m' older (by rw [hh]; rfl)

/-! ### The end of a history

Some mark says that a program is done. What it does after that mark, it should
not have done. -/

/-- **A history that is settled**: the program is over exactly when the final
mark is there, and there is no active mark after it. -/
structure Settled (final : M) (active : M → Bool) (finished : Prop) (h : List M) : Prop where
  finished : final ∈ h ↔ finished
  quiet : Throughout (fun m older => active m = true → final ∉ older) h

namespace Settled

variable {final : M} {active : M → Bool} {finished finished' : Prop}

/-- A program that is not over can do anything. -/
theorem goesOn {h' : List M} (hh : Settled final active finished h) (new : List M)
    (hh' : h' = new ++ h) (hfinished : ¬ finished) (hfinished' : ¬ finished') (hnew : final ∉ new) :
    Settled final active finished' h' := by
  subst hh'
  have hnone {older : List M} (holder : older <:+ new) : final ∉ older ++ h := by
    intro hmem
    rcases List.mem_append.mp hmem with hmem | hmem
    · exact hnew (holder.subset hmem)
    · exact hfinished (hh.finished.mp hmem)
  refine ⟨iff_of_false (hnone List.suffix_rfl) hfinished', ?_⟩
  induction new with
  | nil => exact hh.quiet
  | cons m new ih =>
    refine ⟨fun _ => hnone (List.suffix_cons m new), ih (fun hmem => ?_) (fun holder => ?_)⟩
    · exact hnew (List.mem_cons_of_mem _ hmem)
    · exact hnone (holder.trans (List.suffix_cons m new))

/-- What is not active can be done at any time. -/
theorem rests {h' : List M} (hh : Settled final active finished h) (new : List M)
    (hh' : h' = new ++ h) (hfinished : finished' ↔ finished)
    (hnew : ∀ m ∈ new, active m = false ∧ m ≠ final) : Settled final active finished' h' := by
  subst hh'
  refine ⟨?_, (throughout_append_iff (fun m hm older hactive => ?_)).mpr hh.quiet⟩
  · rw [hfinished, ← hh.finished, List.mem_append]
    exact or_iff_right (fun hmem => (hnew final hmem).2 rfl)
  · exact absurd (hactive.symm.trans (hnew m hm).1) (by simp)

/-- A program ends with marks that are not active. -/
theorem ends {h' : List M} (hh : Settled final active finished h) (new : List M)
    (hh' : h' = new ++ h) (hfinished : finished') (hfinal : final ∈ new)
    (hnew : ∀ m ∈ new, active m = false) : Settled final active finished' h' := by
  subst hh'
  refine ⟨iff_of_true (List.mem_append_left _ hfinal) hfinished,
    (throughout_append_iff (fun m hm older hactive => ?_)).mpr hh.quiet⟩
  exact absurd (hactive.symm.trans (hnew m hm)) (by simp)

end Settled

end Readings

/-! ## Operations and buffers -/

variable {O B A : Type} [DecidableEq O]

/-- **The operations in flight** after a history, which has its newest mark
first. -/
def inFlight : List (Mark O B A) → List O
  | [] => []
  | .began op :: h => op :: inFlight h
  | .ended op :: h => (inFlight h).erase op
  | .modified _ :: h => inFlight h
  | .noted _ :: h => inFlight h

@[simp] theorem inFlight_nil : inFlight ([] : List (Mark O B A)) = [] := rfl

@[simp] theorem inFlight_began (op : O) (h : List (Mark O B A)) :
    inFlight (.began op :: h) = op :: inFlight h := rfl

@[simp] theorem inFlight_ended (op : O) (h : List (Mark O B A)) :
    inFlight (.ended op :: h) = (inFlight h).erase op := rfl

@[simp] theorem inFlight_modified (b : B) (h : List (Mark O B A)) :
    inFlight (.modified b :: h) = inFlight h := rfl

@[simp] theorem inFlight_noted (a : A) (h : List (Mark O B A)) :
    inFlight (.noted a :: h) = inFlight h := rfl

/-- What is in flight has begun. -/
theorem began_of_mem_inFlight {op : O} {h : List (Mark O B A)} (hop : op ∈ inFlight h) :
    .began op ∈ h := by
  induction h with
  | nil => exact absurd hop List.not_mem_nil
  | cons m h ih =>
    cases m with
    | began op' =>
      rcases List.mem_cons.mp hop with rfl | hop
      · exact List.mem_cons_self
      · exact List.mem_cons_of_mem _ (ih hop)
    | ended op' => exact List.mem_cons_of_mem _ (ih (List.mem_of_mem_erase hop))
    | modified b => exact List.mem_cons_of_mem _ (ih hop)
    | noted a => exact List.mem_cons_of_mem _ (ih hop)

/-- Marks of other operations do not change whether an operation is in
flight. -/
theorem mem_inFlight_append {op : O} {new h : List (Mark O B A)}
    (hnew : ∀ m ∈ new, m ≠ .began op ∧ m ≠ .ended op) :
    op ∈ inFlight (new ++ h) ↔ op ∈ inFlight h := by
  induction new with
  | nil => exact Iff.rfl
  | cons m new ih =>
    have hrest := ih (fun m hm => hnew m (List.mem_cons_of_mem _ hm))
    obtain ⟨hbegan, hended⟩ := hnew m List.mem_cons_self
    cases m with
    | began op' =>
      rw [← hrest]
      exact List.mem_cons.trans (or_iff_right (fun h => hbegan (by rw [h])))
    | ended op' =>
      rw [← hrest]
      exact List.mem_erase_of_ne (fun h => hended (by rw [h]))
    | modified b => exact hrest
    | noted a => exact hrest

/-- Notes do not change what is in flight. -/
theorem inFlight_map_noted (l : List A) (h : List (Mark O B A)) :
    inFlight (l.map .noted ++ h) = inFlight h := by
  induction l with
  | nil => rfl
  | cons a l ih => exact ih

/-- Operations that begin are in flight. -/
theorem inFlight_map_began (l : List O) (h : List (Mark O B A)) :
    inFlight (l.map .began ++ h) = l ++ inFlight h := by
  induction l with
  | nil => rfl
  | cons op l ih => exact congrArg (op :: ·) ih

/-- Of the operations of a kind, if only one is in flight, an operation of that
kind that ends is the one, and none is left. -/
theorem filter_erase_of_eq_singleton {p : O → Bool} {op x : O} {l : List O}
    (hl : l.filter p = [x]) (hop : op ∈ l) (hp : p op = true) :
    op = x ∧ (l.erase op).filter p = [] := by
  have hmem : op ∈ l.filter p := List.mem_filter.mpr ⟨hop, hp⟩
  rw [hl] at hmem
  obtain rfl := List.mem_singleton.mp hmem
  refine ⟨rfl, ?_⟩
  rw [← List.erase_filter, hl, List.erase_cons_head]

/-- An operation of another kind that ends changes nothing. -/
theorem filter_erase_of_not {p : O → Bool} {op : O} (l : List O) (hp : p op = false) :
    (l.erase op).filter p = l.filter p := by
  rw [← List.erase_filter]
  refine List.erase_of_not_mem (fun hmem => ?_)
  exact absurd ((List.mem_filter.mp hmem).2.symm.trans hp) (by simp)

/-- **Ending an operation frees its place**: of the operations of any kind in
flight, one fewer is in flight if the operation is of that kind. -/
theorem countP_erase_add (p : O → Bool) {op : O} {l : List O} (h : op ∈ l) :
    (l.erase op).countP p + (if p op then 1 else 0) = l.countP p := by
  rw [List.countP_erase]
  by_cases hp : p op = true
  · have hpos : 0 < l.countP p := List.countP_pos_iff.mpr ⟨op, h, hp⟩
    rw [if_pos ⟨h, hp⟩, if_pos hp]
    omega
  · rw [if_neg (fun hc => hp hc.2), if_neg hp]
    omega

/-- Ending an operation that is in flight. -/
theorem countP_inFlight_ended (p : O → Bool) {op : O} {h : List (Mark O B A)}
    (hop : op ∈ inFlight h) :
    (inFlight (.ended op :: h)).countP p = (inFlight h).countP p - (p op).toNat := by
  rw [inFlight_ended, ← countP_erase_add p hop]
  cases p op with
  | true => exact (Nat.add_sub_cancel _ _).symm
  | false => rfl

/-- Marks that begin no operation of a kind leave in flight those that were, at most. -/
theorem countP_inFlight_append_le {p : O → Bool} {new h : List (Mark O B A)}
    (hnew : ∀ op, .began op ∈ new → p op = false) :
    (inFlight (new ++ h)).countP p ≤ (inFlight h).countP p := by
  induction new with
  | nil => exact Nat.le_refl _
  | cons m new ih =>
    have hrest := ih (fun op hop => hnew op (List.mem_cons_of_mem _ hop))
    cases m with
    | began op =>
      rw [List.cons_append, inFlight_began, List.countP_cons, hnew op List.mem_cons_self]
      exact hrest
    | ended op => exact Nat.le_trans (List.erase_sublist.countP_le) hrest
    | _ => exact hrest

/-- What is read off the operations that begin. -/
def begun {C : Type} (k : O → List C) : Mark O B A → List C
  | .began op => k op
  | _ => []

/-- Marks that end nothing leave in flight what was, and what they begin. -/
theorem perm_inFlight_append {C : Type} (k : O → List C) {new h : List (Mark O B A)}
    (hnew : ∀ op, .ended op ∉ new) :
    ((inFlight (new ++ h)).flatMap k).Perm (collect (begun k) new ++ (inFlight h).flatMap k) := by
  induction new with
  | nil => exact List.Perm.refl _
  | cons m new ih =>
    have hrest := ih (fun op hop => hnew op (List.mem_cons_of_mem _ hop))
    cases m with
    | began op =>
      rw [List.cons_append, inFlight_began, List.flatMap_cons, collect_cons, begun,
        List.append_assoc]
      exact (hrest.append_left _).trans (List.perm_append_comm_assoc _ _ _)
    | ended op => exact absurd List.mem_cons_self (hnew op)
    | _ =>
      show List.Perm _ ((collect (begun k) new ++ []) ++ _)
      rw [List.append_nil]
      exact hrest

/-- An operation that ends is no longer among those in flight. -/
theorem perm_inFlight_ended {C : Type} (k : O → List C) {op : O} {h : List (Mark O B A)}
    (hop : op ∈ inFlight h) :
    ((inFlight h).flatMap k).Perm (k op ++ (inFlight (.ended op :: h)).flatMap k) := by
  rw [inFlight_ended, ← List.flatMap_cons]
  exact (List.perm_cons_erase hop).flatMap_right k

/-- An operation of a kind begins while no other one is in flight. -/
def Alone (p : O → Bool) : Mark O B A → List (Mark O B A) → Prop
  | .began op, h => p op = true → ∀ other ∈ inFlight h, p other = false
  | _, _ => True

/-- How many operations of a kind were begun while another one was in flight. -/
def overlaps (p : O → Bool) : List (Mark O B A) → ℕ
  | [] => 0
  | .began op :: h =>
    overlaps p h + if p op then (if 0 < (inFlight h).countP p then 1 else 0) else 0
  | .ended _ :: h => overlaps p h
  | .modified _ :: h => overlaps p h
  | .noted _ :: h => overlaps p h

/-- None overlap exactly when each was alone. -/
theorem overlaps_eq_zero {p : O → Bool} {h : List (Mark O B A)} :
    overlaps p h = 0 ↔ Throughout (Alone p) h := by
  induction h with
  | nil => exact iff_of_true rfl trivial
  | cons m h ih =>
    cases m with
    | began op =>
      rw [throughout_cons, ← ih, overlaps, Nat.add_eq_zero_iff, and_comm]
      refine and_congr_left (fun _ => ?_)
      have hnone : ¬ 0 < (inFlight h).countP p ↔ ∀ other ∈ inFlight h, p other = false := by
        rw [Nat.not_lt, Nat.le_zero, List.countP_eq_zero]
        exact forall_congr' (fun other => forall_congr' (fun _ => Bool.not_eq_true _ ▸ Iff.rfl))
      rw [Alone, ← hnone]
      cases p op with
      | true => simp
      | false => simp
    | ended op => exact ih.trans (iff_of_eq (true_and _)).symm
    | modified b => exact ih.trans (iff_of_eq (true_and _)).symm
    | noted a => exact ih.trans (iff_of_eq (true_and _)).symm

section Undisturbed

variable (uses : O → B → Prop)

/-- **No buffer was modified while an operation that uses it was in
flight.** -/
def Undisturbed : List (Mark O B A) → Prop
  | [] => True
  | .modified b :: h => (∀ op ∈ inFlight h, ¬ uses op b) ∧ Undisturbed h
  | .began _ :: h => Undisturbed h
  | .ended _ :: h => Undisturbed h
  | .noted _ :: h => Undisturbed h

/-- Nothing in flight uses the buffer that a mark says is modified. -/
def Spares : Mark O B A → List (Mark O B A) → Prop
  | .modified b, h => ∀ op ∈ inFlight h, ¬ uses op b
  | _, _ => True

variable {uses}

/-- Being undisturbed is a law about each mark. -/
theorem undisturbed_iff_throughout {h : List (Mark O B A)} :
    Undisturbed uses h ↔ Throughout (Spares uses) h := by
  induction h with
  | nil => exact Iff.rfl
  | cons m h ih =>
    cases m with
    | modified b => exact and_congr_right (fun _ => ih)
    | began op => exact ih.trans (iff_of_eq (true_and _)).symm
    | ended op => exact ih.trans (iff_of_eq (true_and _)).symm
    | noted a => exact ih.trans (iff_of_eq (true_and _)).symm

/-- A history is undisturbed exactly when, wherever it has a buffer modified,
nothing in flight there uses the buffer. -/
theorem undisturbed_iff {h : List (Mark O B A)} :
    Undisturbed uses h ↔
      ∀ newer b older, h = newer ++ .modified b :: older →
        ∀ op ∈ inFlight older, ¬ uses op b := by
  rw [undisturbed_iff_throughout, throughout_iff]
  refine ⟨fun hall newer b older hh => hall newer _ older hh, fun hall newer m older hh => ?_⟩
  cases m with
  | modified b => exact hall newer b older hh
  | began op => trivial
  | ended op => trivial
  | noted a => trivial

/-- Notes disturb nothing. -/
theorem undisturbed_map_noted {l : List A} {h : List (Mark O B A)} :
    Undisturbed uses (l.map .noted ++ h) ↔ Undisturbed uses h := by
  rw [undisturbed_iff_throughout, undisturbed_iff_throughout]
  refine throughout_append_iff (fun m hm older => ?_)
  obtain ⟨a, -, rfl⟩ := List.mem_map.mp hm
  trivial

/-- Beginning an operation disturbs nothing. -/
theorem undisturbed_map_began {l : List O} {h : List (Mark O B A)} :
    Undisturbed uses (l.map .began ++ h) ↔ Undisturbed uses h := by
  rw [undisturbed_iff_throughout, undisturbed_iff_throughout]
  refine throughout_append_iff (fun m hm older => ?_)
  obtain ⟨op, -, rfl⟩ := List.mem_map.mp hm
  trivial

end Undisturbed

end Flight
