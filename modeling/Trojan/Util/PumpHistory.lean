import Trojan.Util.Cancellation
import Trojan.Util.Flight
import Trojan.Util.Pump

/-!
# Programs with a pump

The operations of a program are in its history (`Trojan.Util.Flight`), and which
of them were cancelled is known to an observer (`Trojan.Util.Cancellation`). A
`Pump.Reading` says which operations are those of a pump, and what the notes tell
of it; `Pump.Reading.pump` is the pump at the end of a history. A `Pump.Program`
is a program with such a reading.

A step of the program ends an operation, makes a note of it, and then adds the
marks of its handler. The lemmas of the last section say which act of the pump
that is, for each kind of handler. To show that a program has a pump is then to
say for each of its handlers which one it is.
-/

namespace Pump

open Flight

/-- What an operation is to a pump. -/
inductive Kind (α : Type) where
  | other
  | opening
  | read
  | write (data : List α)

namespace Kind

variable {α : Type}

def isOpening : Kind α → Bool
  | opening => true
  | _ => false

def isRead : Kind α → Bool
  | read => true
  | _ => false

def isWrite : Kind α → Bool
  | write _ => true
  | _ => false

def data : Kind α → List α
  | write data => data
  | _ => []

/-- What ends with an operation, a read that was cancelled or not. -/
def ended (cancelled : Bool) : Kind α → Ended
  | other => .other
  | opening => .opening
  | read => .read cancelled
  | write _ => .write

end Kind

/-- **How a pump is read off a history**: what each operation is to it, and what
the notes tell of it. -/
structure Reading (O A α : Type) where
  kind : O → Kind α
  opens : A → Bool
  header : A → List α
  brings : A → List α

namespace Reading

variable {O A B α : Type} [DecidableEq O] (r : Reading O A α)

def isOpening (op : O) : Bool := (r.kind op).isOpening

def isRead (op : O) : Bool := (r.kind op).isRead

def isWrite (op : O) : Bool := (r.kind op).isWrite

/-- What a mark says was submitted. -/
def submits : Mark O B A → List α
  | .began op => (r.kind op).data
  | _ => []

/-- What a mark says by its note. -/
def byNote (f : A → List α) : Mark O B A → List α
  | .noted n => f n
  | _ => []

/-- A mark says that the sink is open. -/
def isOpen : Mark O B A → Bool
  | .noted n => r.opens n
  | _ => false

/-- **The pump after a history**, with what the history does not tell. -/
def pump (phase : Phase) (early : Bool) (buffer : List α) (stale : ℕ) (h : List (Mark O B A)) :
    Pump α where
  phase := phase
  opening := (inFlight h).countP r.isOpening
  reads := (inFlight h).countP r.isRead
  stale := stale
  writes := (inFlight h).countP r.isWrite
  overlaps := Flight.overlaps r.isWrite h
  early := early
  opened := h.any r.isOpen
  header := collect (byNote r.header) h
  buffer := buffer
  submitted := collect r.submits h
  carried := collect (byNote r.brings) h

/-- Marks that say nothing about the pump. -/
def neutral : Mark O B A → Bool
  | .began op =>
    match r.kind op with
    | .other => true
    | _ => false
  | .ended _ => false
  | .modified _ => true
  | .noted n => !r.opens n && (r.header n).isEmpty && (r.brings n).isEmpty

variable {r} {phase : Phase} {early : Bool} {buffer : List α} {stale : ℕ} {op : O}
  {new h : List (Mark O B A)}

omit [DecidableEq O] in
/-- A note that says nothing about the pump. -/
theorem neutral_noted {n : A} :
    r.neutral (.noted n : Mark O B A) = true
      ↔ r.opens n = false ∧ r.header n = [] ∧ r.brings n = [] := by
  simp only [neutral, Bool.and_eq_true, Bool.not_eq_true', List.isEmpty_iff, and_assoc]

/-- **An operation begins**, other than a write. -/
theorem pump_began (hwrite : r.isWrite op = false) :
    r.pump phase early buffer stale (.began op :: h)
      = { r.pump phase early buffer stale h with
          opening := (r.pump phase early buffer stale h).opening + (r.isOpening op).toNat
          reads := (r.pump phase early buffer stale h).reads + (r.isRead op).toNat } := by
  have hdata : (r.kind op).data = [] := by
    unfold isWrite Kind.isWrite at hwrite
    unfold Kind.data
    split
    · rename_i hkind
      rw [hkind] at hwrite
      exact absurd hwrite (by simp)
    · rfl
  unfold pump
  rw [inFlight_began, List.countP_cons, List.countP_cons, List.countP_cons_of_neg (by simp [hwrite])]
  have hcount (b : Bool) : (if b = true then 1 else 0) = b.toNat := by cases b <;> rfl
  simp [Flight.overlaps, submits, byNote, isOpen, hdata, hwrite, hcount]

/-- **A write begins.** -/
theorem pump_written {data : List α} (hwrite : r.kind op = .write data) :
    r.pump phase early buffer stale (.began op :: h)
      = (r.pump phase early buffer stale h).writing data := by
  unfold pump Pump.writing
  simp [Flight.overlaps, submits, byNote, isOpen, isOpening, isRead, isWrite, hwrite,
    Kind.isOpening, Kind.isRead, Kind.isWrite, Kind.data]

/-- **The sink is open.** -/
theorem pump_opened {n : A} (hopens : r.opens n = true) (hheader : r.header n = [])
    (hbrings : r.brings n = []) :
    r.pump phase early buffer stale (.noted n :: h)
      = { r.pump phase early buffer stale h with opened := true } := by
  simp [pump, Flight.overlaps, submits, byNote, isOpen, hopens, hheader, hbrings]

/-- **Marks that say nothing about the pump** change nothing. -/
theorem pump_append_of_neutral (hnew : new.all r.neutral = true) :
    r.pump phase early buffer stale (new ++ h) = r.pump phase early buffer stale h := by
  induction new with
  | nil => rfl
  | cons m new ih =>
    obtain ⟨hm, hrest⟩ := Bool.and_eq_true_iff.mp hnew
    rw [← ih hrest, List.cons_append]
    cases m with
    | began op =>
      cases hkind : r.kind op with
      | other =>
        rw [pump_began (by rw [isWrite, hkind]; rfl), isOpening, isRead, hkind]
        rfl
      | _ => simp [neutral, hkind] at hm
    | ended op => exact absurd hm Bool.false_ne_true
    | modified b => simp [pump, Flight.overlaps, submits, byNote, isOpen]
    | noted n =>
      obtain ⟨hopens, hheader, hbrings⟩ := neutral_noted.mp hm
      simp [pump, Flight.overlaps, submits, byNote, isOpen, hopens, hheader, hbrings]

/-- **A completion**: an operation has ended, and the note of it may tell
something. -/
theorem pump_completed {n : A} (cancelled : Bool) (hop : op ∈ inFlight h)
    (hopens : r.opens n = false) (hcancelled : r.isRead op = false → cancelled = false) :
    r.pump phase early buffer (stale - cancelled.toNat) (.ended op :: .noted n :: h)
      = { (r.pump phase early buffer stale h).ends ((r.kind op).ended cancelled) with
          header := collect (byNote r.header) h ++ r.header n
          carried := collect (byNote r.brings) h ++ r.brings n } := by
  have hcount (p : O → Bool) :
      (inFlight (.ended op :: .noted n :: h : List (Mark O B A))).countP p
        = (inFlight h).countP p - (p op).toNat := countP_inFlight_ended p hop
  unfold pump
  rw [hcount, hcount, hcount, isOpening, isRead, isWrite]
  cases hkind : r.kind op with
  | read =>
    simp [Flight.overlaps, submits, byNote, isOpen, hopens, Kind.ended, Pump.ends, Pump.endRead,
      Kind.isOpening, Kind.isRead, Kind.isWrite]
  | _ =>
    obtain rfl := hcancelled (by rw [isRead, hkind]; rfl)
    simp [Flight.overlaps, submits, byNote, isOpen, hopens, Kind.ended, Pump.ends,
      Kind.isOpening, Kind.isRead, Kind.isWrite]

end Reading

/-- **A program with a pump**: how the pump is read off the history of its
states, with what the states themselves say; and how its events complete
operations. -/
structure Program (S E O B A α : Type) where
  reading : Reading O A α
  history : S → List (Mark O B A)
  phase : S → Phase
  early : S → Bool
  buffer : S → List α
  operation : E → Option O
  /-- The note of an event. -/
  note : S → E → A
  aborted : E → Bool
  /-- The event opens the sink. -/
  opens : S → E → Bool

namespace Program

variable {S E O B A α : Type} [DecidableEq O] (g : Program S E O B A α)

/-- The pump of a state, of whose reads some are cancelled. -/
def pump (s : S) (stale : ℕ) : Pump α :=
  g.reading.pump (g.phase s) (g.early s) (g.buffer s) stale (g.history s)

/-- **The reads of the pump.** They are cancelled when the pump is closed, and when
the sink opens before anything has come. -/
def reads : Watch S E where
  inFlight s := (inFlight (g.history s)).countP g.reading.isRead
  completes e := (g.operation e).any g.reading.isRead
  aborted := g.aborted
  cancels s e t :=
    g.phase s ≠ .closed && g.phase t = .closed || g.opens s e && !g.early s

/-- How many reads are cancelled after a step. -/
def staleAfter (s : S) (stale : ℕ) (e : E) (cancelled : Bool) (t : S) : ℕ :=
  if g.reads.cancels s e t then g.reads.inFlight t else stale - cancelled.toNat

/-- **A step is an act of the pump**, and leaves marks. -/
structure Does (s : S) (stale : ℕ) (e : E) (cancelled : Bool) (t : S) (a : Act α) : Prop where
  allows : (g.pump s stale).Allows a
  pump_eq : g.pump t (g.staleAfter s stale e cancelled t) = (g.pump s stale).act a
  marks : g.history t ≠ []

/-- **An operation completes**: it was in flight, and the observer agrees on
whether it was cancelled. -/
structure Completes (s : S) (stale : ℕ) (e : E) (cancelled : Bool) (op : O) : Prop where
  operation : g.operation e = some op
  mem : op ∈ inFlight (g.history s)
  admits : g.reads.admits ⟨s, stale⟩ e cancelled = true

/-- The marks of a step: the completion, and what the handler has added. -/
def Adds (s : S) (e : E) (op : O) (t : S) (new : List (Mark O B A)) : Prop :=
  g.history t = new ++ .ended op :: .noted (g.note s e) :: g.history s

/-- What a handler leaves as it is. -/
structure Keeps (s t : S) : Prop where
  phase : g.phase t = g.phase s
  early : g.early t = g.early s
  buffer : g.buffer t = g.buffer s

variable {g} {s t : S} {stale : ℕ} {e : E} {cancelled : Bool} {op : O}

omit [DecidableEq O] in
theorem Adds.ne_nil {new : List (Mark O B A)} (h : g.Adds s e op t new) : g.history t ≠ [] := by
  rw [h]
  simp

/-- Nothing is cancelled while the pump stays as it is. -/
theorem staleAfter_of_phase (hphase : g.phase t = g.phase s) (hopens : g.opens s e = false) :
    g.staleAfter s stale e cancelled t = stale - cancelled.toNat := by
  have hnot : g.reads.cancels s e t = false := by
    simp [reads, hphase, hopens]
  rw [staleAfter, hnot, if_neg Bool.false_ne_true]

namespace Completes

theorem completes (h : g.Completes s stale e cancelled op) :
    g.reads.completes e = g.reading.isRead op := by
  show (g.operation e).any g.reading.isRead = _
  rw [h.operation]
  rfl

/-- Only a read is known to be cancelled. -/
theorem other (h : g.Completes s stale e cancelled op) (hop : g.reading.isRead op = false) :
    cancelled = false := Watch.stale_of_not_completes h.admits (h.completes.trans hop)

/-- What ends is in flight. -/
theorem has (h : g.Completes s stale e cancelled op) :
    (g.pump s stale).Has ((g.reading.kind op).ended cancelled) := by
  have hpos {p : O → Bool} (hp : p op = true) : 0 < (inFlight (g.history s)).countP p :=
    List.countP_pos_iff.mpr ⟨op, h.mem, hp⟩
  cases hkind : g.reading.kind op with
  | other => trivial
  | opening => exact hpos (by rw [Reading.isOpening, hkind]; rfl)
  | write data => exact hpos (by rw [Reading.isWrite, hkind]; rfl)
  | read =>
    have hcompletes : g.reads.completes e = true :=
      h.completes.trans (by rw [Reading.isRead, hkind]; rfl)
    cases cancelled with
    | true => exact Watch.stale_of_admits h.admits hcompletes
    | false => exact (Watch.live_of_admits h.admits hcompletes).1

/-- **The pump after a completion**, and after marks of the handler that say
nothing about it. -/
theorem pump_adds (h : g.Completes s stale e cancelled op) {mid : List (Mark O B A)}
    (hmid : mid.all g.reading.neutral = true) (hnote : g.reading.opens (g.note s e) = false)
    (phase : Phase) (early : Bool) (buffer : List α) :
    g.reading.pump phase early buffer (stale - cancelled.toNat)
        (mid ++ .ended op :: .noted (g.note s e) :: g.history s)
      = { (g.reading.pump phase early buffer stale (g.history s)).ends
            ((g.reading.kind op).ended cancelled) with
          header := collect (Reading.byNote g.reading.header) (g.history s)
            ++ g.reading.header (g.note s e)
          carried := collect (Reading.byNote g.reading.brings) (g.history s)
            ++ g.reading.brings (g.note s e) } := by
  rw [Reading.pump_append_of_neutral hmid]
  exact Reading.pump_completed cancelled h.mem hnote h.other

/-- The same, of a completion that brings nothing. -/
theorem pump_ends (h : g.Completes s stale e cancelled op) {mid : List (Mark O B A)}
    (hmid : mid.all g.reading.neutral = true)
    (hnote : g.reading.neutral (.noted (g.note s e) : Mark O B A) = true)
    (phase : Phase) (early : Bool) (buffer : List α) :
    g.reading.pump phase early buffer (stale - cancelled.toNat)
        (mid ++ .ended op :: .noted (g.note s e) :: g.history s)
      = (g.reading.pump phase early buffer stale (g.history s)).ends
          ((g.reading.kind op).ended cancelled) := by
  obtain ⟨hopens, hheader, hbrings⟩ := Reading.neutral_noted.mp hnote
  rw [h.pump_adds hmid hopens, hheader, hbrings, List.append_nil, List.append_nil]
  cases (g.reading.kind op).ended cancelled <;> rfl

/-! ### Handlers -/

/-- A handler that does nothing for the pump. -/
theorem rests (h : g.Completes s stale e cancelled op) (hkind : g.reading.kind op = .other)
    (new : List (Mark O B A)) (ht : g.Adds s e op t new) (hkeeps : g.Keeps s t)
    (hopens : g.opens s e = false) (hnew : new.all g.reading.neutral = true)
    (hnote : g.reading.neutral (.noted (g.note s e) : Mark O B A) = true) :
    g.Does s stale e cancelled t .rest := by
  refine ⟨trivial, ?_, ht.ne_nil⟩
  rw [staleAfter_of_phase hkeeps.phase hopens, pump, ht, h.pump_ends hnew hnote, hkind,
    hkeeps.phase, hkeeps.early, hkeeps.buffer]
  rfl

/-- **A handler that closes the pump**, or finds it closed. -/
theorem closes (h : g.Completes s stale e cancelled op) (new : List (Mark O B A))
    (ht : g.Adds s e op t new) (hphase : g.phase t = .closed) (hearly : g.early t = g.early s)
    (hbuffer : g.buffer t = g.buffer s) (hopens : g.opens s e = false)
    (hnew : new.all g.reading.neutral = true)
    (hnote : g.reading.neutral (.noted (g.note s e) : Mark O B A) = true) :
    g.Does s stale e cancelled t (.closes ((g.reading.kind op).ended cancelled)) := by
  refine ⟨h.has, ?_, ht.ne_nil⟩
  have hends (phase : Phase) :
      g.reading.pump phase (g.early t) (g.buffer t) (stale - cancelled.toNat) (g.history t)
        = { (g.pump s stale).ends ((g.reading.kind op).ended cancelled) with phase := phase } := by
    rw [ht, h.pump_ends hnew hnote, hearly, hbuffer]
    cases (g.reading.kind op).ended cancelled <;> rfl
  have hsame : ((g.pump s stale).ends ((g.reading.kind op).ended cancelled)).phase = g.phase s := by
    cases (g.reading.kind op).ended cancelled <;> rfl
  unfold Pump.act
  dsimp only
  by_cases hclosed : g.phase s = .closed
  · rw [if_pos (hsame.trans hclosed), staleAfter_of_phase (hphase.trans hclosed.symm) hopens, pump,
      hends, hphase, ← hclosed, ← hsame]
  · have hcancels : g.reads.cancels s e t = true := by
      simp [reads, hclosed, hphase]
    rw [if_neg (fun hc => hclosed (hsame.symm.trans hc)), staleAfter, if_pos hcancels]
    have hall := congrArg (fun p : Pump α => { p with stale := p.reads }) (hends .closed)
    rw [pump, hphase]
    exact hall

/-- The sink is opened in several steps, and one follows another. -/
theorem advances {next : O} (h : g.Completes s stale e cancelled op)
    (hkind : g.reading.kind op = .opening) (mid : List (Mark O B A))
    (ht : g.Adds s e op t (.began next :: mid)) (hnext : g.reading.kind next = .opening)
    (hkeeps : g.Keeps s t) (hopens : g.opens s e = false)
    (hmid : mid.all g.reading.neutral = true)
    (hnote : g.reading.neutral (.noted (g.note s e) : Mark O B A) = true) :
    g.Does s stale e cancelled t .rest := by
  have hpos : 0 < (g.pump s stale).opening := by
    have hhas := h.has
    rwa [hkind] at hhas
  refine ⟨trivial, ?_, ht.ne_nil⟩
  rw [staleAfter_of_phase hkeeps.phase hopens, pump, ht, List.cons_append,
    Reading.pump_began (by rw [Reading.isWrite, hnext]; rfl), h.pump_ends hmid hnote, hkind,
    hkeeps.phase, hkeeps.early, hkeeps.buffer, Reading.isOpening, Reading.isRead, hnext]
  show { g.pump s stale with opening := (g.pump s stale).opening - 1 + 1 } = g.pump s stale
  rw [Nat.sub_add_cancel hpos]

/-- **The handler that opens the sink**, and leaves it to the observer which reads
it has cancelled. -/
theorem opensSink {w : O} {n : A} (h : g.Completes s stale e cancelled op)
    (hkind : g.reading.kind op = .opening) (mid : List (Mark O B A))
    (ht : g.Adds s e op t (.began w :: (mid ++ [.noted n])))
    (hw : g.reading.kind w = .write (g.buffer s))
    (hn : g.reading.opens n = true ∧ g.reading.header n = [] ∧ g.reading.brings n = [])
    (hphase : g.phase t = .flowing) (hearly : g.early t = g.early s)
    (hbuffer : g.buffer t = g.buffer s) (hopens : g.opens s e = true)
    (hmid : mid.all g.reading.neutral = true)
    (hnote : g.reading.neutral (.noted (g.note s e) : Mark O B A) = true) :
    g.Does s stale e cancelled t .opens := by
  obtain rfl := h.other (by rw [Reading.isRead, hkind]; rfl)
  have hhas : (g.pump s stale).Has .opening := by
    have hhas := h.has
    rwa [hkind] at hhas
  -- which reads are stale is known once the others are counted
  have hpump (stale' : ℕ) : g.pump t stale'
      = { (g.pump s stale).writing (g.buffer s) with
          phase := .flowing, opening := (g.pump s stale).opening - 1, stale := stale'
          opened := true } := by
    have hends : g.reading.pump .flowing (g.early s) (g.buffer s) stale
          ([] ++ .ended op :: .noted (g.note s e) :: g.history s)
        = (g.reading.pump .flowing (g.early s) (g.buffer s) stale (g.history s)).ends .opening := by
      have hends := h.pump_ends (List.all_nil) hnote .flowing (g.early s)
        (g.buffer s)
      rwa [hkind] at hends
    have hall : g.pump t stale
        = { (g.pump s stale).writing (g.buffer s) with
            phase := .flowing, opening := (g.pump s stale).opening - 1, opened := true } := by
      rw [pump, ht, hphase, hearly, hbuffer, List.cons_append, List.append_assoc,
        Reading.pump_written hw, Reading.pump_append_of_neutral hmid, List.singleton_append,
        Reading.pump_opened hn.1 hn.2.1 hn.2.2]
      exact congrArg (fun p : Pump α => ({ p with opened := true } : Pump α).writing (g.buffer s))
        hends
    exact congrArg (fun p : Pump α => { p with stale := stale' }) hall
  have hreads : g.reads.inFlight t = (g.pump s stale).reads := congrArg Pump.reads (hpump stale)
  have hstale : g.staleAfter s stale e false t
      = if g.early s then stale else (g.pump s stale).reads := by
    rw [staleAfter, hreads]
    cases hfirst : g.early s with
    | true => simp [reads, hfirst, hphase]
    | false => simp [reads, hfirst, hopens]
  refine ⟨hhas, ?_, ht.ne_nil⟩
  rw [hstale, hpump]
  rfl

/-- The read ahead has brought something. -/
theorem keeps (h : g.Completes s stale e cancelled op) (hkind : g.reading.kind op = .read)
    (new : List (Mark O B A)) (ht : g.Adds s e op t new) (hphase : g.phase s = .opening)
    (hphase' : g.phase t = .opening) (hearly : g.early t = true)
    (hbuffer : g.buffer t = g.buffer s ++ g.reading.brings (g.note s e))
    (hopens : g.opens s e = false) (hnew : new.all g.reading.neutral = true)
    (hnote : g.reading.opens (g.note s e) = false) (hheader : g.reading.header (g.note s e) = []) :
    g.Does s stale e cancelled t (.keeps cancelled (g.reading.brings (g.note s e))) := by
  have hhas : (g.pump s stale).Has (.read cancelled) := by
    have hhas := h.has
    rwa [hkind] at hhas
  refine ⟨⟨hphase, hhas⟩, ?_, ht.ne_nil⟩
  rw [staleAfter_of_phase (hphase'.trans hphase.symm) hopens, pump, ht, h.pump_adds hnew hnote,
    hkind, hphase', ← hphase, hearly, hbuffer, hheader, List.append_nil]
  rfl

/-- Something else has, and the handler takes it for the read ahead. -/
theorem marks (h : g.Completes s stale e cancelled op) (hkind : g.reading.kind op = .other)
    (new : List (Mark O B A)) (ht : g.Adds s e op t new) (hphase : g.phase s = .opening)
    (hphase' : g.phase t = .opening) (hearly : g.early t = true)
    (hbuffer : g.buffer t = g.buffer s ++ g.reading.brings (g.note s e))
    (hopens : g.opens s e = false) (hnew : new.all g.reading.neutral = true)
    (hnote : g.reading.opens (g.note s e) = false) (hheader : g.reading.header (g.note s e) = []) :
    g.Does s stale e cancelled t (.marks (g.reading.brings (g.note s e))) := by
  refine ⟨hphase, ?_, ht.ne_nil⟩
  rw [staleAfter_of_phase (hphase'.trans hphase.symm) hopens, pump, ht, h.pump_adds hnew hnote,
    hkind, hphase', ← hphase, hearly, hbuffer, hheader, List.append_nil]
  rfl

/-- A read ends, and the handler does nothing. -/
theorem drops (h : g.Completes s stale e cancelled op) (hkind : g.reading.kind op = .read)
    (new : List (Mark O B A)) (ht : g.Adds s e op t new) (hidle : g.phase s ≠ .idle)
    (hkeeps : g.Keeps s t) (hopens : g.opens s e = false)
    (hnew : new.all g.reading.neutral = true)
    (hnote : g.reading.neutral (.noted (g.note s e) : Mark O B A) = true) :
    g.Does s stale e cancelled t (.drops cancelled) := by
  have hhas : (g.pump s stale).Has (.read cancelled) := by
    have hhas := h.has
    rwa [hkind] at hhas
  refine ⟨⟨hidle, hhas⟩, ?_, ht.ne_nil⟩
  rw [staleAfter_of_phase hkeeps.phase hopens, pump, ht, h.pump_ends hnew hnote, hkind,
    hkeeps.phase, hkeeps.early, hkeeps.buffer]
  rfl

/-- **A handler that forwards** what was read. -/
theorem forwards {w : O} (h : g.Completes s stale e cancelled op)
    (hkind : g.reading.kind op = .read) (mid : List (Mark O B A))
    (ht : g.Adds s e op t (.began w :: mid))
    (hw : g.reading.kind w = .write (g.reading.brings (g.note s e)))
    (hphase : g.phase s = .flowing) (hkeeps : g.Keeps s t) (hopens : g.opens s e = false)
    (hmid : mid.all g.reading.neutral = true)
    (hnote : g.reading.opens (g.note s e) = false) (hheader : g.reading.header (g.note s e) = []) :
    g.Does s stale e cancelled t (.forwards cancelled (g.reading.brings (g.note s e))) := by
  have hhas : (g.pump s stale).Has (.read cancelled) := by
    have hhas := h.has
    rwa [hkind] at hhas
  refine ⟨⟨hphase, hhas⟩, ?_, ht.ne_nil⟩
  rw [staleAfter_of_phase hkeeps.phase hopens, pump, ht, List.cons_append, Reading.pump_written hw,
    h.pump_adds hmid hnote, hkind, hkeeps.phase, hkeeps.early, hkeeps.buffer, hheader,
    List.append_nil]
  rfl

/-- **A handler that reads again**, when a write is done. -/
theorem refills {next : O} (h : g.Completes s stale e cancelled op) {data : List α}
    (hkind : g.reading.kind op = .write data) (mid : List (Mark O B A))
    (ht : g.Adds s e op t (.began next :: mid)) (hnext : g.reading.kind next = .read)
    (hphase : g.phase s = .flowing) (hkeeps : g.Keeps s t) (hopens : g.opens s e = false)
    (hmid : mid.all g.reading.neutral = true)
    (hnote : g.reading.neutral (.noted (g.note s e) : Mark O B A) = true) :
    g.Does s stale e cancelled t .refills := by
  obtain rfl := h.other (by rw [Reading.isRead, hkind]; rfl)
  have hhas : (g.pump s stale).Has .write := by
    have hhas := h.has
    rwa [hkind] at hhas
  refine ⟨⟨hphase, hhas⟩, ?_, ht.ne_nil⟩
  rw [staleAfter_of_phase hkeeps.phase hopens, pump, ht, List.cons_append,
    Reading.pump_began (by rw [Reading.isWrite, hnext]; rfl), h.pump_ends hmid hnote, hkind,
    hkeeps.phase, hkeeps.early, hkeeps.buffer, Reading.isOpening, Reading.isRead, hnext]
  rfl

/-- Nothing was cancelled before the pump is set up. -/
theorem live (h : g.Completes s 0 e cancelled op) : cancelled = false := by
  cases hread : g.reading.isRead op with
  | false => exact h.other hread
  | true =>
    cases cancelled with
    | false => rfl
    | true => exact absurd (Watch.stale_of_admits h.admits (h.completes.trans hread)) (by simp)

/-- **A handler before the pump is set up.** -/
theorem idles (h : g.Completes s 0 e cancelled op)
    (hkind : g.reading.kind op = .other ∨ g.reading.kind op = .read) (new : List (Mark O B A))
    (ht : g.Adds s e op t new) (hphase : g.phase s = .idle) (hphase' : g.phase t = .idle)
    (hearly : g.early t = g.early s) (hopens : g.opens s e = false)
    (hnew : new.all g.reading.neutral = true) (hnote : g.reading.opens (g.note s e) = false)
    (hbrings : g.reading.brings (g.note s e) = []) (hreads : (g.pump t 0).reads ≤ 1) :
    g.Does s 0 e cancelled t
      (.idle (g.pump t 0).reads (g.pump t 0).header (g.pump t 0).buffer) := by
  obtain rfl := h.live
  refine ⟨⟨hphase, hreads⟩, ?_, ht.ne_nil⟩
  have hpump := h.pump_adds hnew hnote (g.phase t) (g.early t) (g.buffer t)
  rw [← ht] at hpump
  change g.pump t 0 = _ at hpump
  rw [staleAfter_of_phase (hphase'.trans hphase.symm) hopens]
  show g.pump t 0 = _
  rw [hpump, hphase', ← hphase, hearly, hbrings, List.append_nil]
  rcases hkind with hkind | hkind <;> (rw [hkind]; rfl)

/-- A handler that reads, before the pump is set up. -/
theorem idlesReading {next : O} (h : g.Completes s 0 e cancelled op)
    (hkind : g.reading.kind op = .other) (mid : List (Mark O B A))
    (ht : g.Adds s e op t (.began next :: mid))
    (hnext : g.reading.kind next = .other ∨ g.reading.kind next = .read)
    (hphase : g.phase s = .idle) (hphase' : g.phase t = .idle)
    (hearly : g.early t = g.early s) (hopens : g.opens s e = false)
    (hmid : mid.all g.reading.neutral = true) (hnote : g.reading.opens (g.note s e) = false)
    (hbrings : g.reading.brings (g.note s e) = []) (hreads : (g.pump t 0).reads ≤ 1) :
    g.Does s 0 e cancelled t
      (.idle (g.pump t 0).reads (g.pump t 0).header (g.pump t 0).buffer) := by
  obtain rfl := h.live
  have hwrite : g.reading.isWrite next = false := by
    rcases hnext with hnext | hnext <;> (rw [Reading.isWrite, hnext]; rfl)
  have hopening : g.reading.isOpening next = false := by
    rcases hnext with hnext | hnext <;> (rw [Reading.isOpening, hnext]; rfl)
  refine ⟨⟨hphase, hreads⟩, ?_, ht.ne_nil⟩
  have hpump : g.pump t 0 = g.reading.pump (g.phase t) (g.early t) (g.buffer t)
      (0 - false.toNat) (.began next :: (mid ++ .ended op :: .noted (g.note s e) :: g.history s)) := by
    rw [pump, ht]
    rfl
  rw [Reading.pump_began hwrite, h.pump_adds hmid hnote] at hpump
  rw [staleAfter_of_phase (hphase'.trans hphase.symm) hopens]
  show g.pump t 0 = _
  rw [hpump, hphase', ← hphase, hearly, hkind, hopening, hbrings, List.append_nil]
  rfl

/-- **The handler that sets the pump up.** -/
theorem begins {opening read : O} (h : g.Completes s 0 e cancelled op)
    (hkind : g.reading.kind op = .other) (mid : List (Mark O B A))
    (ht : g.Adds s e op t (.began opening :: .began read :: mid))
    (hopening : g.reading.kind opening = .opening) (hread : g.reading.kind read = .read)
    (hphase : g.phase s = .idle) (hphase' : g.phase t = .opening)
    (hearly : g.early t = g.early s) (hopens : g.opens s e = false)
    (hmid : mid.all g.reading.neutral = true)
    (hnote : g.reading.neutral (.noted (g.note s e) : Mark O B A) = true)
    (hzero : (g.pump s 0).opening = 0 ∧ (g.pump s 0).reads = 0)
    (hbuffer : g.buffer t = (g.pump s 0).header) :
    g.Does s 0 e cancelled t (.begins (g.pump s 0).header) := by
  obtain rfl := h.live
  refine ⟨⟨hphase, hzero.2⟩, ?_, ht.ne_nil⟩
  have hstale : g.staleAfter s 0 e false t = 0 - false.toNat := by
    have hnot : g.reads.cancels s e t = false := by
      simp [reads, hphase', hopens]
    rw [staleAfter, hnot, if_neg Bool.false_ne_true]
  rw [hstale, pump, ht, List.cons_append, List.cons_append,
    Reading.pump_began (by rw [Reading.isWrite, hopening]; rfl),
    Reading.pump_began (by rw [Reading.isWrite, hread]; rfl), h.pump_ends hmid hnote, hkind,
    hphase', hearly, hbuffer, Reading.isOpening, Reading.isRead, Reading.isOpening, Reading.isRead,
    hopening, hread]
  show { g.pump s 0 with
    phase := Phase.opening, opening := (g.pump s 0).opening + 0 + 1
    reads := (g.pump s 0).reads + 1 + 0, buffer := (g.pump s 0).header } = _
  rw [hzero.1, hzero.2]
  rfl

end Completes

/-! ### What was carried -/

variable (g)

/-- The header of what the pump carries, what it was given to carry so far, and
what it has submitted. -/
def header (s : S) : List α := collect (Reading.byNote g.reading.header) (g.history s)

def carried (s : S) : List α := collect (Reading.byNote g.reading.brings) (g.history s)

def submitted (s : S) : List α := collect g.reading.submits (g.history s)

/-- The sink has been opened. -/
def opened (s : S) : Bool := (g.history s).any g.reading.isOpen

/-- **A pump that is in order**: no write was begun while another was in flight,
one read at most is in flight and not cancelled, and what was read goes out
behind the header. -/
structure InOrder (x : Watched S) : Prop where
  alone : Throughout (Alone g.reading.isWrite) (g.history x.state)
  atMostOne : g.reads.inFlight x.state ≤ x.stale + 1
  kept : g.phase x.state = .opening → g.buffer x.state = g.header x.state ++ g.carried x.state
  submitted : g.submitted x.state
    = if g.opened x.state then g.header x.state ++ g.carried x.state else []

variable {g}

/-- A sound pump is in order. -/
theorem inOrder_of_sound {x : Watched S} (hx : (g.pump x.state x.stale).Sound) : g.InOrder x where
  alone := overlaps_eq_zero.mp hx.alone
  atMostOne := hx.reads_le
  kept hphase := by
    have hsteady := hx.steady
    have hopening : (g.pump x.state x.stale).phase = .opening := hphase
    simp only [Steady, hopening] at hsteady
    exact hsteady.2.2.2.2.2.2
  submitted := hx.submitted_eq

end Program

end Pump
