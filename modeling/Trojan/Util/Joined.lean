import Mathlib.Data.List.Infix
import Trojan.Util.Machine

/-!
# Two machines and a wire

Two machines that talk over a reliable connection, one that neither loses nor
reorders what is put on it, and delivers it in pieces of any size and at any
time. Each is a `Party`: a machine with two readings of its states, what it has
put on the wire so far and what it has taken off it. In the joined machine
(`Party.join`) the parties take their steps in any order, and the wire has one
law: what a party has taken off is a prefix of what the other has put on.

A run of the joined machine is a run of each party (`Party.run_lefts`,
`Party.run_rights`), so what is known of a party alone is known of it here. What
the wire adds is that the law holds in every state (`Party.wired_run`), provided
that the parties never take back what they have put on it.
-/

/-- **A party to a connection**, with what its states have sent and received. -/
structure Party (S E α : Type) where
  step : S → E → Option S
  sent : S → List α
  received : S → List α

namespace Party

variable {S T E F α : Type} [DecidableEq α] (p : Party S E α) (q : Party T F α)

/-- **The joined machine**: either party takes a step, unless it were to receive
what was not sent. -/
def join (x : S × T) : E ⊕ F → Option (S × T)
  | .inl e => ((p.step x.1 e).filter (fun s => p.received s <+: q.sent x.2)).map (·, x.2)
  | .inr f => ((q.step x.2 f).filter (fun t => q.received t <+: p.sent x.1)).map (x.1, ·)

/-- The events of the two parties. -/
def lefts (es : List (E ⊕ F)) : List E := es.filterMap Sum.getLeft?

def rights (es : List (E ⊕ F)) : List F := es.filterMap Sum.getRight?

variable {p q} {x y : S × T} {es : List (E ⊕ F)}

/-- A step of the party on the left. -/
theorem join_inl {e : E} :
    p.join q x (.inl e) = some y
      ↔ p.step x.1 e = some y.1 ∧ y.2 = x.2 ∧ p.received y.1 <+: q.sent x.2 := by
  obtain ⟨s, t⟩ := y
  simp only [join, Option.map_eq_some_iff, Option.filter_eq_some_iff, decide_eq_true_eq,
    Prod.mk.injEq]
  constructor
  · rintro ⟨s', ⟨hstep, hreceived⟩, rfl, rfl⟩
    exact ⟨hstep, rfl, hreceived⟩
  · rintro ⟨hstep, rfl, hreceived⟩
    exact ⟨s, ⟨hstep, hreceived⟩, rfl, rfl⟩

/-- A step of the party on the right. -/
theorem join_inr {f : F} :
    p.join q x (.inr f) = some y
      ↔ q.step x.2 f = some y.2 ∧ y.1 = x.1 ∧ q.received y.2 <+: p.sent x.1 := by
  obtain ⟨s, t⟩ := y
  simp only [join, Option.map_eq_some_iff, Option.filter_eq_some_iff, decide_eq_true_eq,
    Prod.mk.injEq]
  constructor
  · rintro ⟨t', ⟨hstep, hreceived⟩, rfl, rfl⟩
    exact ⟨hstep, rfl, hreceived⟩
  · rintro ⟨hstep, rfl, hreceived⟩
    exact ⟨t, ⟨hstep, hreceived⟩, rfl, rfl⟩

/-- **A run of the joined machine is a run of the party on the left**. -/
theorem run_lefts (h : Machine.run (p.join q) x es = some y) :
    Machine.run p.step x.1 (lefts es) = some y.1 := by
  induction es generalizing x with
  | nil => rw [← Option.some.inj h]; rfl
  | cons e es ih =>
    obtain ⟨z, hz, hrest⟩ := Machine.run_cons.mp h
    cases e with
    | inl e => exact Machine.run_cons.mpr ⟨z.1, (join_inl.mp hz).1, ih hrest⟩
    | inr f =>
      have hsame := (join_inr.mp hz).2.1
      rw [← hsame]
      exact ih hrest

/-- **A run of the joined machine is a run of the party on the right**. -/
theorem run_rights (h : Machine.run (p.join q) x es = some y) :
    Machine.run q.step x.2 (rights es) = some y.2 := by
  induction es generalizing x with
  | nil => rw [← Option.some.inj h]; rfl
  | cons e es ih =>
    obtain ⟨z, hz, hrest⟩ := Machine.run_cons.mp h
    cases e with
    | inl e =>
      have hsame := (join_inl.mp hz).2.1
      rw [← hsame]
      exact ih hrest
    | inr f => exact Machine.run_cons.mpr ⟨z.2, (join_inr.mp hz).1, ih hrest⟩

/-- A condition on the steps of the party on the left, along a run of the joined machine. -/
theorem along_lefts {C : S × T → E ⊕ F → Prop} {D : S → E → Prop}
    (hCD : ∀ z e, C z (.inl e) → D z.1 e) (h : Machine.run (p.join q) x es = some y)
    (hC : Machine.Along (p.join q) C x es) : Machine.Along p.step D x.1 (lefts es) := by
  induction es generalizing x with
  | nil => trivial
  | cons e es ih =>
    obtain ⟨z, hz, hrest⟩ := Machine.run_cons.mp h
    obtain ⟨hnow, hlater⟩ := (Machine.along_cons hz).mp hC
    cases e with
    | inl e =>
      exact (Machine.along_cons (join_inl.mp hz).1).mpr ⟨hCD _ _ hnow, ih hrest hlater⟩
    | inr f =>
      have hsame := (join_inr.mp hz).2.1
      rw [← hsame]
      exact ih hrest hlater

/-- What a party has sent stays sent. -/
def KeepsSent (p : Party S E α) : Prop :=
  ∀ s e t, p.step s e = some t → p.sent s <+: p.sent t

/-- The law of the wire. -/
structure Wired (p : Party S E α) (q : Party T F α) (x : S × T) : Prop where
  left : p.received x.1 <+: q.sent x.2
  right : q.received x.2 <+: p.sent x.1

/-- **The law of the wire holds in every state of every run.** -/
theorem wired_run (hp : p.KeepsSent) (hq : q.KeepsSent) (hx : Wired p q x)
    (h : Machine.run (p.join q) x es = some y) : Wired p q y := by
  refine Machine.run_invariant (P := Wired p q) (fun u e v hu hstep => ?_) hx h
  cases e with
  | inl e =>
    obtain ⟨hleft, hsame, hreceived⟩ := join_inl.mp hstep
    refine ⟨hsame ▸ hreceived, ?_⟩
    rw [hsame]
    exact hu.right.trans (hp _ _ _ hleft)
  | inr f =>
    obtain ⟨hright, hsame, hreceived⟩ := join_inr.mp hstep
    refine ⟨?_, hsame ▸ hreceived⟩
    rw [hsame]
    exact hu.left.trans (hq _ _ _ hright)

end Party
