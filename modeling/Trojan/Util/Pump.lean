import Mathlib.Data.List.Basic
import Mathlib.Data.Nat.Notation

/-!
# Pumps

A pump carries data from a source to a sink. It reads, writes what it has read,
and reads again when the write is done: of the two operations one is outstanding
at any time. Before it can start, the sink has to be opened, which is a chain of
operations of its own; and while that goes on the pump reads once, ahead of time,
so that the first data goes out together with a header. When the sink opens, the
read ahead is cancelled, unless it has brought something.

A pump knows nothing of the operations but how many there are. A read that was
cancelled is still in flight, and it can still end with data; such a read is
*stale*. A pump that takes the data of a stale read has a write more than it
should have, and the balance is lost for good. It is lost as well when a read
ends and nothing is begun in its place, or when something that was not read is
taken for the read ahead. `Pump.Sound.act` says that these are all, and
`Pump.Sound.balanced_act_iff` that each of them does lose it.
-/

/-- The phases of a pump. -/
inductive Pump.Phase where
  | idle
  | opening
  | flowing
  | closed
  deriving DecidableEq, Repr

/-- **A pump**, by the numbers of its operations in flight and by what it has
carried. -/
structure Pump (α : Type) where
  phase : Pump.Phase
  /-- Operations that open the sink. -/
  opening : ℕ
  reads : ℕ
  /-- How many of the reads were cancelled. -/
  stale : ℕ
  writes : ℕ
  /-- How many writes were begun while another was in flight. -/
  overlaps : ℕ
  /-- Something has come before the sink was open. -/
  early : Bool
  opened : Bool
  header : List α
  /-- What is to be written when the sink opens. -/
  buffer : List α
  submitted : List α
  carried : List α

namespace Pump

variable {α : Type}

/-- The operation of a pump that ends in a step, if any. -/
inductive Ended where
  | other
  | read (stale : Bool)
  | opening
  | write
  deriving DecidableEq

/-- **What a pump can do.** -/
inductive Act (α : Type) where
  | rest
  /-- Before the pump is set up, its source is read for other purposes. -/
  | idle (reads : ℕ) (header buffer : List α)
  | begins (header : List α)
  /-- The read ahead has brought something. -/
  | keeps (stale : Bool) (data : List α)
  /-- Something else has, and is taken for the read ahead. -/
  | marks (data : List α)
  /-- A read ends, and nothing comes of it. -/
  | drops (stale : Bool)
  | forwards (stale : Bool) (data : List α)
  | opens
  /-- A write ends, and a read begins. -/
  | refills
  /-- Something ends, and the pump is closed. -/
  | closes (ended : Ended)

/-- A read ends, either one that was cancelled or one that was not. -/
def endRead (p : Pump α) (stale : Bool) : Pump α :=
  { p with reads := p.reads - 1, stale := p.stale - stale.toNat }

/-- An operation ends. -/
def ends (p : Pump α) : Ended → Pump α
  | .other => p
  | .read stale => p.endRead stale
  | .opening => { p with opening := p.opening - 1 }
  | .write => { p with writes := p.writes - 1 }

/-- A write begins. -/
def writing (p : Pump α) (data : List α) : Pump α :=
  { p with
      writes := p.writes + 1
      overlaps := p.overlaps + (if 0 < p.writes then 1 else 0)
      submitted := p.submitted ++ data }

/-- **The pump after it has acted.** -/
def act (p : Pump α) : Act α → Pump α
  | .rest => p
  | .idle reads header buffer => { p with reads := reads, header := header, buffer := buffer }
  | .begins header =>
    { p with phase := .opening, opening := 1, reads := 1, header := header, buffer := header }
  | .keeps stale data =>
    { p.endRead stale with
        early := true, buffer := p.buffer ++ data, carried := p.carried ++ data }
  | .marks data =>
    { p with early := true, buffer := p.buffer ++ data, carried := p.carried ++ data }
  | .drops stale => p.endRead stale
  | .forwards stale data => { (p.endRead stale).writing data with carried := p.carried ++ data }
  | .opens =>
    { p.writing p.buffer with
        phase := .flowing
        opening := p.opening - 1
        stale := if p.early then p.stale else p.reads
        opened := true }
  | .refills => { p with writes := p.writes - 1, reads := p.reads + 1 }
  | .closes ended =>
    let p := p.ends ended
    if p.phase = .closed then p else { p with phase := .closed, stale := p.reads }

/-- The read that ends is in flight. -/
def HasRead (p : Pump α) : Bool → Prop
  | true => 0 < p.stale
  | false => p.stale < p.reads

/-- The operation that ends is in flight. -/
def Has (p : Pump α) : Ended → Prop
  | .other => True
  | .read stale => p.HasRead stale
  | .opening => 0 < p.opening
  | .write => 0 < p.writes

/-- When a pump can act. -/
def Allows (p : Pump α) : Act α → Prop
  | .rest => True
  | .idle reads _ _ => p.phase = .idle ∧ reads ≤ 1
  | .begins _ => p.phase = .idle ∧ p.reads = 0
  | .keeps stale _ => p.phase = .opening ∧ p.HasRead stale
  | .marks _ => p.phase = .opening
  | .drops stale => p.phase ≠ .idle ∧ p.HasRead stale
  | .forwards stale _ => p.phase = .flowing ∧ p.HasRead stale
  | .opens => 0 < p.opening
  | .refills => p.phase = .flowing ∧ 0 < p.writes
  | .closes ended => p.Has ended

/-- **When an act keeps the balance**: a read that ends brings data unless it is
stale, only a read that is not stale does, and a sink that opens finds no read
that something else was taken for. -/
def Fine (p : Pump α) : Act α → Prop
  | .drops stale => stale = true ∨ p.phase ≠ .flowing
  | .forwards stale _ => stale = false
  | .opens => ¬ (p.early = true ∧ p.stale < p.reads)
  | _ => True

/-- **The balance**: while data flows, one operation is outstanding, a read that
was not cancelled or a write. -/
def Balanced (p : Pump α) : Prop := p.phase = .flowing → p.reads + p.writes = p.stale + 1

/-- What there is in each phase. A pump that is closed while its sink is being
opened can flow yet, so it must be ready to. -/
def Steady (p : Pump α) : Prop :=
  match p.phase with
  | .idle =>
    p.opening = 0 ∧ p.reads ≤ 1 ∧ p.stale = 0 ∧ p.writes = 0 ∧ p.early = false
      ∧ p.opened = false ∧ p.submitted = [] ∧ p.carried = []
  | .opening =>
    p.opening = 1 ∧ p.reads ≤ 1 ∧ p.stale = 0 ∧ p.writes = 0 ∧ p.opened = false
      ∧ p.submitted = [] ∧ p.buffer = p.header ++ p.carried
  | .flowing =>
    p.opening = 0 ∧ p.reads + p.writes = p.stale + 1 ∧ p.opened = true
      ∧ p.submitted = p.header ++ p.carried
  | .closed =>
    p.reads = p.stale
      ∧ (p.opening = 0
        ∨ p.opening = 1 ∧ p.writes = 0 ∧ p.opened = false ∧ p.buffer = p.header ++ p.carried)
      ∧ p.submitted = if p.opened then p.header ++ p.carried else []

/-- **The invariant of a pump.** -/
structure Sound (p : Pump α) : Prop where
  bounded : p.stale ≤ p.reads
  alone : p.overlaps = 0
  steady : p.Steady

namespace Sound

variable {p : Pump α}

/-- A sound pump is balanced. -/
theorem balanced (hp : Sound p) : Balanced p := by
  intro hphase
  have hsteady := hp.steady
  rw [Steady, hphase] at hsteady
  exact hsteady.2.1

/-- **Closing** keeps a pump sound, whatever has ended. -/
theorem closes (hp : Sound p) {ended : Ended} (h : p.Has ended) : Sound (p.act (.closes ended)) := by
  have hbounded := hp.bounded
  have halone := hp.alone
  have hsteady := hp.steady
  have hends : (p.ends ended).phase = p.phase ∧ (p.ends ended).overlaps = 0 := by
    cases ended <;> exact ⟨rfl, halone⟩
  unfold Pump.act
  dsimp only
  cases hphase : p.phase with
  | closed =>
    rw [if_pos (hends.1.trans hphase)]
    simp only [Steady, hphase] at hsteady
    cases ended with
    | other => exact hp
    | read stale =>
      cases stale with
      | true =>
        have hstale : 0 < p.stale := h
        refine ⟨?_, halone, ?_⟩
        · show p.stale - 1 ≤ p.reads - 1
          omega
        · simp only [Steady, ends, endRead, hphase, Bool.toNat_true]
          exact ⟨by omega, hsteady.2⟩
      | false =>
        have hlive : p.stale < p.reads := h
        omega
    | opening =>
      have hopening : 0 < p.opening := h
      refine ⟨hbounded, halone, ?_⟩
      simp only [Steady, ends, hphase]
      exact ⟨hsteady.1, .inl (by omega), hsteady.2.2⟩
    | write =>
      have hwrites : 0 < p.writes := h
      refine ⟨hbounded, halone, ?_⟩
      simp only [Steady, ends, hphase]
      refine ⟨hsteady.1, .inl ?_, hsteady.2.2⟩
      omega
  | idle =>
    rw [if_neg (by rw [hends.1, hphase]; exact Phase.noConfusion)]
    refine ⟨Nat.le_refl _, hends.2, ?_⟩
    simp only [Steady, hphase] at hsteady
    obtain ⟨hopening, -, -, hwrites, -, hopened, hsubmitted, -⟩ := hsteady
    cases ended <;> simp [Steady, ends, endRead, hopening, hopened, hsubmitted]
  | opening =>
    rw [if_neg (by rw [hends.1, hphase]; exact Phase.noConfusion)]
    refine ⟨Nat.le_refl _, hends.2, ?_⟩
    simp only [Steady, hphase] at hsteady
    obtain ⟨hopening, -, -, hwrites, hopened, hsubmitted, hbuffer⟩ := hsteady
    cases ended <;> simp [Steady, ends, endRead, hopening, hwrites, hopened, hsubmitted, hbuffer]
  | flowing =>
    rw [if_neg (by rw [hends.1, hphase]; exact Phase.noConfusion)]
    refine ⟨Nat.le_refl _, hends.2, ?_⟩
    simp only [Steady, hphase] at hsteady
    obtain ⟨hopening, -, hopened, hsubmitted⟩ := hsteady
    cases ended <;> simp [Steady, ends, endRead, hopening, hopened, hsubmitted]

/-- **Opening the sink** keeps a pump sound, if no read is left that should have
been cancelled. -/
theorem opens (hp : Sound p) (h : 0 < p.opening) (hfine : p.Fine .opens) :
    Sound (p.act .opens) := by
  obtain ⟨hbounded, halone, hsteady⟩ := hp
  have hready : p.opening = 1 ∧ p.writes = 0 ∧ p.submitted = []
      ∧ p.buffer = p.header ++ p.carried := by
    cases hphase : p.phase with
    | idle =>
      simp only [Steady, hphase] at hsteady
      omega
    | opening =>
      simp only [Steady, hphase] at hsteady
      exact ⟨hsteady.1, hsteady.2.2.2.1, hsteady.2.2.2.2.2⟩
    | flowing =>
      simp only [Steady, hphase] at hsteady
      omega
    | closed =>
      simp only [Steady, hphase] at hsteady
      obtain ⟨-, hzero | ⟨hone, hwrites, hopened, hbuffer⟩, hsubmitted⟩ := hsteady
      · omega
      · rw [hopened, if_neg Bool.false_ne_true] at hsubmitted
        exact ⟨hone, hwrites, hsubmitted, hbuffer⟩
  obtain ⟨hone, hwrites, hsubmitted, hbuffer⟩ := hready
  have hstale : p.reads = if p.early then p.stale else p.reads := by
    split
    · rename_i hearly
      exact Nat.le_antisymm (Nat.le_of_not_lt (fun hlt => hfine ⟨hearly, hlt⟩)) hbounded
    · rfl
  refine ⟨?_, ?_, ?_⟩
  · show (if p.early then p.stale else p.reads) ≤ p.reads
    omega
  · simp [Pump.act, writing, halone, hwrites]
  · simp only [Steady, Pump.act, writing, hone, hwrites, hsubmitted, hbuffer]
    refine ⟨trivial, ?_, trivial, List.nil_append _⟩
    omega

/-- **Every act that is fine keeps a pump sound.** -/
theorem act (hp : Sound p) {a : Act α} (ha : p.Allows a) (hfine : p.Fine a) :
    Sound (p.act a) := by
  have hbounded := hp.bounded
  have halone := hp.alone
  have hsteady := hp.steady
  cases a with
  | rest => exact hp
  | closes ended => exact hp.closes ha
  | opens => exact hp.opens ha hfine
  | idle reads header buffer =>
    obtain ⟨hphase, hreads⟩ := ha
    simp only [Steady, hphase] at hsteady
    obtain ⟨hopening, -, hstale, hrest⟩ := hsteady
    refine ⟨?_, halone, ?_⟩
    · show p.stale ≤ reads
      omega
    · simp only [Steady, Pump.act, hphase]
      exact ⟨hopening, hreads, hstale, hrest⟩
  | begins header =>
    obtain ⟨hphase, hreads⟩ := ha
    simp only [Steady, hphase] at hsteady
    obtain ⟨-, -, hstale, hwrites, -, hopened, hsubmitted, hcarried⟩ := hsteady
    refine ⟨?_, halone, ?_⟩
    · show p.stale ≤ 1
      omega
    · simp [Steady, Pump.act, hstale, hwrites, hopened, hsubmitted, hcarried]
  | keeps stale data =>
    obtain ⟨hphase, hread⟩ := ha
    simp only [Steady, hphase] at hsteady
    obtain ⟨hopening, hreads, hstale, hwrites, hopened, hsubmitted, hbuffer⟩ := hsteady
    refine ⟨?_, halone, ?_⟩
    · show p.stale - stale.toNat ≤ p.reads - 1
      omega
    · simp only [Steady, Pump.act, endRead, hphase]
      refine ⟨hopening, by omega, by omega, hwrites, hopened, hsubmitted, ?_⟩
      rw [hbuffer, List.append_assoc]
  | marks data =>
    have hphase : p.phase = .opening := ha
    simp only [Steady, hphase] at hsteady
    obtain ⟨hopening, hreads, hstale, hwrites, hopened, hsubmitted, hbuffer⟩ := hsteady
    refine ⟨hbounded, halone, ?_⟩
    simp only [Steady, Pump.act, hphase]
    refine ⟨hopening, hreads, hstale, hwrites, hopened, hsubmitted, ?_⟩
    rw [hbuffer, List.append_assoc]
  | drops stale =>
    obtain ⟨hidle, hread⟩ := ha
    refine ⟨?_, halone, ?_⟩
    · cases stale with
      | true =>
        have hstale : 0 < p.stale := hread
        show p.stale - 1 ≤ p.reads - 1
        omega
      | false =>
        have hlive : p.stale < p.reads := hread
        show p.stale - 0 ≤ p.reads - 1
        omega
    · cases hphase : p.phase with
      | idle => exact absurd hphase hidle
      | opening =>
        simp only [Steady, hphase] at hsteady
        simp only [Steady, Pump.act, endRead, hphase]
        exact ⟨hsteady.1, by omega, by omega, hsteady.2.2.2⟩
      | flowing =>
        obtain rfl : stale = true := hfine.resolve_right (fun hne => hne hphase)
        have hstale : 0 < p.stale := hread
        simp only [Steady, hphase] at hsteady
        simp only [Steady, Pump.act, endRead, hphase, Bool.toNat_true]
        exact ⟨hsteady.1, by omega, hsteady.2.2⟩
      | closed =>
        simp only [Steady, hphase] at hsteady
        simp only [Steady, Pump.act, endRead, hphase]
        refine ⟨?_, hsteady.2⟩
        cases stale with
        | true => exact congrArg (· - 1) hsteady.1
        | false => exact absurd hread (by simp [HasRead, hsteady.1])
  | forwards stale data =>
    obtain ⟨hphase, hread⟩ := ha
    obtain rfl : stale = false := hfine
    have hlive : p.stale < p.reads := hread
    simp only [Steady, hphase] at hsteady
    obtain ⟨hopening, hbalance, hopened, hsubmitted⟩ := hsteady
    have hwrites : p.writes = 0 := by omega
    refine ⟨?_, ?_, ?_⟩
    · show p.stale - 0 ≤ p.reads - 1
      omega
    · simp [Pump.act, writing, endRead, halone, hwrites]
    · simp only [Steady, Pump.act, writing, endRead, hphase, Bool.toNat_false]
      refine ⟨hopening, by omega, hopened, ?_⟩
      rw [hsubmitted, List.append_assoc]
  | refills =>
    obtain ⟨hphase, hwrites⟩ := ha
    simp only [Steady, hphase] at hsteady
    obtain ⟨hopening, hbalance, hrest⟩ := hsteady
    refine ⟨?_, halone, ?_⟩
    · show p.stale ≤ p.reads + 1
      omega
    · simp only [Steady, Pump.act, hphase]
      exact ⟨hopening, by omega, hrest⟩

/-- **An act keeps the balance exactly when it is fine.** -/
theorem balanced_act_iff (hp : Sound p) {a : Act α} (ha : p.Allows a) :
    Balanced (p.act a) ↔ p.Fine a := by
  refine ⟨fun hbalanced => ?_, fun hfine => (hp.act ha hfine).balanced⟩
  have hsteady := hp.steady
  cases a with
  | drops stale =>
    obtain ⟨-, hread⟩ := ha
    by_contra hnot
    obtain ⟨hstale, hphase⟩ := not_or.mp hnot
    rw [not_not] at hphase
    obtain rfl := Bool.eq_false_iff.mpr hstale
    have hlive : p.stale < p.reads := hread
    have hbalance : p.reads - 1 + p.writes = p.stale - 0 + 1 := hbalanced hphase
    simp only [Steady, hphase] at hsteady
    omega
  | forwards stale data =>
    obtain ⟨hphase, hread⟩ := ha
    cases stale with
    | false => rfl
    | true =>
      have hstale : 0 < p.stale := hread
      have hbalance : p.reads - 1 + (p.writes + 1) = p.stale - 1 + 1 := hbalanced hphase
      simp only [Steady, hphase] at hsteady
      omega
  | opens =>
    rintro ⟨hearly, hlive⟩
    have hbalance : p.reads + (p.writes + 1) = (if p.early then p.stale else p.reads) + 1 :=
      hbalanced rfl
    rw [if_pos hearly] at hbalance
    omega
  | _ => trivial

end Sound

/-! ## Pumps that read nothing else

A pump that is given nothing but what it reads never takes something else for
the read ahead, so the one thing that can disturb it is a stale read. -/

/-- Acts of such a pump, in which no stale read brings data. -/
def Act.Clean : Act α → Prop
  | .marks _ => False
  | .drops stale => stale = true
  | .forwards stale _ => stale = false
  | _ => True

/-- What comes before the sink is open is the read ahead. -/
def Prompt (p : Pump α) : Prop := p.phase = .opening → p.early = true → p.reads = 0

/-- **A clean act keeps such a pump sound.** -/
theorem Sound.act_of_clean {p : Pump α} (hp : Sound p) (hprompt : Prompt p) {a : Act α}
    (ha : p.Allows a) (hclean : a.Clean) : Sound (p.act a) ∧ Prompt (p.act a) := by
  have hsteady := hp.steady
  have hfine : p.Fine a := by
    cases a with
    | drops stale => exact .inl hclean
    | forwards stale data => exact hclean
    | opens =>
      rintro ⟨hearly, hlive⟩
      cases hphase : p.phase with
      | opening =>
        have hzero := hprompt hphase hearly
        omega
      | closed =>
        simp only [Steady, hphase] at hsteady
        omega
      | idle =>
        have hopening : 0 < p.opening := ha
        simp only [Steady, hphase] at hsteady
        omega
      | flowing =>
        have hopening : 0 < p.opening := ha
        simp only [Steady, hphase] at hsteady
        omega
    | _ => trivial
  refine ⟨hp.act ha hfine, fun hphase hearly => ?_⟩
  cases a with
  | rest => exact hprompt hphase hearly
  | idle reads header buffer => exact absurd (ha.1.symm.trans hphase) Phase.noConfusion
  | begins header =>
    simp only [Steady, ha.1] at hsteady
    exact absurd (hsteady.2.2.2.2.1.symm.trans hearly) Bool.false_ne_true
  | keeps stale data =>
    simp only [Steady, ha.1] at hsteady
    show p.reads - 1 = 0
    omega
  | marks data => exact hclean.elim
  | drops stale =>
    have hzero := hprompt hphase hearly
    show p.reads - 1 = 0
    omega
  | forwards stale data => exact absurd (ha.1.symm.trans hphase) Phase.noConfusion
  | opens => exact absurd hphase Phase.noConfusion
  | refills => exact absurd (ha.1.symm.trans hphase) Phase.noConfusion
  | closes ended =>
    revert hphase
    unfold Pump.act
    dsimp only
    split
    · rename_i hclosed
      intro hphase
      exact absurd (hclosed.symm.trans hphase) Phase.noConfusion
    · exact fun hphase => absurd hphase Phase.noConfusion

/-- All but one of the reads of a sound pump were cancelled. -/
theorem Sound.reads_le {p : Pump α} (hp : Sound p) : p.reads ≤ p.stale + 1 := by
  have hsteady := hp.steady
  cases hphase : p.phase <;>
    (simp only [Steady, hphase] at hsteady; omega)

/-- **A sound pump has carried everything**: what was submitted is the header and
what was read, in that order, as soon as the sink is open. -/
theorem Sound.submitted_eq {p : Pump α} (hp : Sound p) :
    p.submitted = if p.opened then p.header ++ p.carried else [] := by
  have hsteady := hp.steady
  cases hphase : p.phase with
  | idle =>
    simp only [Steady, hphase] at hsteady
    rw [hsteady.2.2.2.2.2.1]
    exact hsteady.2.2.2.2.2.2.1
  | opening =>
    simp only [Steady, hphase] at hsteady
    rw [hsteady.2.2.2.2.1]
    exact hsteady.2.2.2.2.2.1
  | flowing =>
    simp only [Steady, hphase] at hsteady
    rw [hsteady.2.2.1]
    exact hsteady.2.2.2
  | closed =>
    simp only [Steady, hphase] at hsteady
    exact hsteady.2.2

end Pump
