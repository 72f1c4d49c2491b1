import Trojan.Service
import Trojan.Util.Machine

/-!
# The accept loops of a service

A service accepts in loops: `async_accept` begins an accept, and the handler of
the accept, when it is done with the connection, calls `async_accept` again
(`core/service.cpp`). There is one loop for each acceptor – the public one and
that of the trusted front, or one for each worker when every worker has its own
`io_context`. A loop ends when its accept is cancelled.

`reload_cert` relies on that: it cancels the accept of each public acceptor and
begins a new one, which is to replace it. But an accept that has completed, and
whose handler is only waiting for its turn, cannot be cancelled any more. Its
handler accepts again, and the acceptor has two loops from then on
(`Acceptors.two_loops`), and one more for each reload that meets such a handler.
`Acceptors.one_loop_iff` says that this is the only way.
-/

/-- The acceptors of a service. -/
inductive Acceptor where
  | socketAcceptor
  | trustedFrontAcceptor
  /-- The acceptor of a worker, in the mode with an `io_context` for each. -/
  | worker (i : ℕ)
  deriving DecidableEq, Repr

/-- How the constructor of a service has laid out its acceptors. -/
structure Layout where
  useMultiIoContext : Bool := false
  /-- `workers.size()`. -/
  workers : ℕ := 0

/-- **What `handle_accept_completion` returns**: whether to accept again. -/
def AcceptCompletion.acceptsAgain : AcceptCompletion → Bool
  | aborted => false
  | failed => true
  | accepted _ _ => true

/-- Whatever the service does with a connection, it accepts again. -/
theorem Service.handleAcceptCompletion_snd (config : Config) (now : ℤ) (env : ServerSession.Env)
    (svc : Service) (listener : Listener) (session : ServerSession)
    (completion : AcceptCompletion) :
    (svc.handleAcceptCompletion config now env listener session completion).2
      = completion.acceptsAgain := by
  rcases completion with _ | _ | ⟨_ | endpoint, startFails⟩
  · rfl
  · rfl
  · rfl
  · cases listener with
    | standard => rfl
    | trustedFront =>
      unfold Service.handleAcceptCompletion
      dsimp only
      split
      · rfl
      · rfl

/-- **The accepts of one acceptor**: how many are waiting for a connection, and
the completions of others whose handlers have not run yet. -/
structure Accepts where
  outstanding : ℕ := 0
  queued : List AcceptCompletion := []

namespace Accepts

/-- `async_accept`. -/
def asyncAccept (a : Accepts) : Accepts := { a with outstanding := a.outstanding + 1 }

/-- `acceptor.cancel`: what is waiting is aborted. What is queued stays. -/
def cancel (a : Accepts) : Accepts where
  outstanding := 0
  queued := List.replicate a.outstanding .aborted ++ a.queued

/-- An accept completes, and its handler is queued. -/
def complete (a : Accepts) (completion : AcceptCompletion) : Accepts where
  outstanding := a.outstanding - 1
  queued := completion :: a.queued

/-- The handler of an accept runs. -/
def handle (a : Accepts) (completion : AcceptCompletion) : Accepts :=
  let a := { a with queued := a.queued.erase completion }
  if completion.acceptsAgain then a.asyncAccept else a

/-- The loops of an acceptor: the accepts that wait, and the handlers in the
queue that will accept again. -/
def loops (a : Accepts) : ℕ := a.outstanding + a.queued.countP AcceptCompletion.acceptsAgain

/-- **The acceptor has one loop**: one accept is waiting and no handler in the
queue will accept again, or none is waiting and one handler will. -/
def OneLoop (a : Accepts) : Prop :=
  (a.outstanding = 1 ∧ a.queued.countP AcceptCompletion.acceptsAgain = 0)
    ∨ (a.outstanding = 0 ∧ a.queued.countP AcceptCompletion.acceptsAgain = 1)

theorem oneLoop_iff {a : Accepts} : a.OneLoop ↔ a.loops = 1 := by
  unfold OneLoop loops
  omega

/-- A completion that is not a cancellation hands the loop to the queue. -/
theorem loops_complete {a : Accepts} {completion : AcceptCompletion} (h : 0 < a.outstanding)
    (hagain : completion.acceptsAgain = true) : (a.complete completion).loops = a.loops := by
  unfold loops complete
  rw [List.countP_cons_of_pos hagain]
  show a.outstanding - 1 + _ = _
  omega

/-- A handler takes its loop out of the queue and goes on with it, if it has
one. -/
theorem loops_handle {a : Accepts} {completion : AcceptCompletion} (h : completion ∈ a.queued) :
    (a.handle completion).loops = a.loops := by
  have hcount := Flight.countP_erase_add AcceptCompletion.acceptsAgain h
  unfold loops handle
  dsimp only
  split
  · rename_i hagain
    rw [if_pos hagain] at hcount
    show a.outstanding + 1 + (a.queued.erase completion).countP _ = _
    omega
  · rename_i hagain
    rw [if_neg hagain] at hcount
    show a.outstanding + (a.queued.erase completion).countP _ = _
    omega

/-- **A reload begins one loop**, besides those it finds in the queue. -/
theorem loops_asyncAccept_cancel (a : Accepts) :
    a.cancel.asyncAccept.loops = 1 + a.queued.countP AcceptCompletion.acceptsAgain := by
  unfold loops cancel asyncAccept
  dsimp only
  rw [List.countP_append, List.countP_replicate]
  simp [AcceptCompletion.acceptsAgain]

end Accepts

/-- **The accept loops of a service.** -/
structure Acceptors where
  accepts : Acceptor → Accepts
  stopped : Bool := false

namespace Acceptors

variable (config : Config) (layout : Layout)

/-- **What can happen**: an accept completes, the handler of one runs, or a
signal asks for a reload or for the end. -/
inductive Event where
  | complete (acceptor : Acceptor) (completion : AcceptCompletion)
  | handle (acceptor : Acceptor) (completion : AcceptCompletion)
  | reloadCert
  | stop
  deriving DecidableEq

/-- The acceptors that `reload_cert` cancels, and `run` starts: those of the
workers, or the public one. -/
def reloaded : List Acceptor :=
  if layout.useMultiIoContext then (List.range layout.workers).map .worker else [.socketAcceptor]

/-- The acceptors that accept. That of the trusted front is there in one mode
only. -/
def running : List Acceptor :=
  reloaded layout ++
    if Service.hasTrustedFrontListener config && !layout.useMultiIoContext then
      [.trustedFrontAcceptor] else []

/-- `Service::run` begins an accept on every acceptor. -/
def run : Acceptors where
  accepts a := if a ∈ running config layout then Accepts.asyncAccept {} else {}

/-- `Service::reload_cert`. -/
def reloadCert (s : Acceptors) : Acceptors :=
  if config.runType = .server then
    { s with
        accepts := fun a =>
          if a ∈ reloaded layout then (s.accepts a).cancel.asyncAccept else s.accepts a }
  else s

/-- `Service::stop`. No handler runs after it. -/
def stop (s : Acceptors) : Acceptors where
  accepts a := if a ∈ running config layout then (s.accepts a).cancel else s.accepts a
  stopped := true

/-- Whether an event can happen. An accept ends as aborted only when it is
cancelled. -/
def accepted (s : Acceptors) : Event → Bool
  | .complete a completion => 0 < (s.accepts a).outstanding && completion.acceptsAgain
  | .handle a completion => completion ∈ (s.accepts a).queued
  | .reloadCert => true
  | .stop => true

/-- What an event does. -/
def next (s : Acceptors) : Event → Acceptors
  | .complete a completion =>
    { s with accepts := Function.update s.accepts a ((s.accepts a).complete completion) }
  | .handle a completion =>
    { s with accepts := Function.update s.accepts a ((s.accepts a).handle completion) }
  | .reloadCert => s.reloadCert config layout
  | .stop => s.stop config layout

/-- **One step.** -/
def step (s : Acceptors) (e : Event) : Option Acceptors :=
  if !s.stopped && s.accepted e then some (s.next config layout e) else none

/-- **Every acceptor has one loop**, until the service is stopped. -/
def OneLoopEach (s : Acceptors) : Prop :=
  s.stopped = true ∨ ∀ a ∈ running config layout, (s.accepts a).OneLoop

/-- **A reload finds no handler that will accept again** in the queue of an
acceptor that it cancels. -/
def noneQueued (s : Acceptors) : Event → Bool
  | .reloadCert =>
    config.runType ≠ .server || (reloaded layout).all (fun a =>
      (s.accepts a).queued.all (fun completion => !completion.acceptsAgain))
  | _ => true

variable {config layout}

/-- Changing the accepts of one acceptor, without changing its loops. -/
theorem oneLoop_update {s : Acceptors} {a : Acceptor} {accepts : Accepts}
    (h : accepts.loops = (s.accepts a).loops) (b : Acceptor) :
    (Function.update s.accepts a accepts b).OneLoop ↔ (s.accepts b).OneLoop := by
  rw [Accepts.oneLoop_iff, Accepts.oneLoop_iff]
  by_cases hb : b = a
  · subst hb
    rw [Function.update_self, h]
  · rw [Function.update_of_ne hb]

/-- **A reload keeps one loop each** exactly when it finds no handler that will
accept again. -/
theorem oneLoop_reloadCert {s : Acceptors}
    (hs : ∀ a ∈ running config layout, (s.accepts a).OneLoop) :
    (∀ a ∈ running config layout, ((s.reloadCert config layout).accepts a).OneLoop)
      ↔ noneQueued config layout s .reloadCert = true := by
  unfold reloadCert noneQueued
  by_cases hserver : config.runType = .server
  · simp only [hserver, if_true, ne_eq, not_true_eq_false, decide_false, Bool.false_or,
      List.all_eq_true, Bool.not_eq_true']
    constructor
    · intro hone a ha completion hcompletion
      have hloop := hone a (List.mem_append_left _ ha)
      rw [if_pos ha, Accepts.oneLoop_iff, Accepts.loops_asyncAccept_cancel] at hloop
      have hzero : (s.accepts a).queued.countP AcceptCompletion.acceptsAgain = 0 := by omega
      exact Bool.eq_false_iff.mpr (List.countP_eq_zero.mp hzero completion hcompletion)
    · intro hnone a ha
      split
      · rename_i hreloaded
        rw [Accepts.oneLoop_iff, Accepts.loops_asyncAccept_cancel, List.countP_eq_zero.mpr]
        intro completion hcompletion
        exact Bool.eq_false_iff.mp (hnone a hreloaded completion hcompletion)
      · exact hs a ha
  · rw [if_neg hserver]
    exact iff_of_true hs (by simp [hserver])

/-- **One step** keeps one loop each exactly when it is no reload that finds a
handler in the queue. -/
theorem oneLoopEach_step {s t : Acceptors} {e : Event} (hs : OneLoopEach config layout s)
    (h : step config layout s e = some t) :
    OneLoopEach config layout t ↔ noneQueued config layout s e = true := by
  unfold step at h
  split at h
  · rename_i haccepted
    obtain ⟨hstopped, haccepted⟩ := Bool.and_eq_true_iff.mp haccepted
    have hrunning : s.stopped = false := by simpa using hstopped
    have hone := hs.resolve_left (by rw [hrunning]; exact Bool.false_ne_true)
    obtain rfl := Option.some.inj h
    cases e with
    | complete a completion =>
      obtain ⟨hpos, hagain⟩ := Bool.and_eq_true_iff.mp haccepted
      have hloops := Accepts.loops_complete (of_decide_eq_true hpos) hagain
      exact iff_of_true (.inr (fun b hb => (oneLoop_update hloops b).mpr (hone b hb))) rfl
    | handle a completion =>
      have hloops := Accepts.loops_handle (of_decide_eq_true haccepted)
      exact iff_of_true (.inr (fun b hb => (oneLoop_update hloops b).mpr (hone b hb))) rfl
    | reloadCert =>
      have hkeeps : (s.reloadCert config layout).stopped = s.stopped := by
        unfold reloadCert
        split
        · rfl
        · rfl
      rw [← oneLoop_reloadCert hone]
      exact or_iff_right (by rw [next, hkeeps, hrunning]; exact Bool.false_ne_true)
    | stop => exact iff_of_true (.inl rfl) rfl
  · exact absurd h (by simp)

/-- When a service starts, every acceptor has one loop. -/
theorem oneLoopEach_run : OneLoopEach config layout (run config layout) := by
  refine .inr (fun a ha => .inl ?_)
  have haccept : (run config layout).accepts a = Accepts.asyncAccept {} := if_pos ha
  rw [haccept]
  exact ⟨rfl, rfl⟩

/-- **When every acceptor has one accept loop.** In every run of a service, in
whatever order the accepts complete, their handlers run and the certificate is
reloaded, every acceptor has exactly one loop between any two handlers until the
service is stopped, exactly when no reload finds in the queue of an acceptor
that it cancels a handler that will accept again. -/
theorem one_loop_iff {es : List Event} {s : Acceptors}
    (hrun : Machine.run (step config layout) (run config layout) es = some s) :
    (∀ t, Machine.Visits (step config layout) (run config layout) es t →
        t.stopped = false → ∀ a ∈ running config layout, (t.accepts a).OneLoop)
      ↔ Machine.Along (step config layout) (fun t e => noneQueued config layout t e = true)
        (run config layout) es := by
  rw [← Machine.forall_visits_iff_along (I := fun _ => True) (fun _ _ _ _ _ _ _ => trivial)
    (fun s e t _ hs h => oneLoopEach_step hs h) trivial oneLoopEach_run hrun]
  refine forall_congr' (fun t => forall_congr' (fun _ => ?_))
  unfold OneLoopEach
  cases t.stopped with
  | true => simp
  | false => simp

/-- A connection is accepted, and the certificate reloaded after it. -/
def lateReload : List Event :=
  [.complete .socketAcceptor (.accepted (some {}) false),
    .handle .socketAcceptor (.accepted (some {}) false), .reloadCert,
    .handle .socketAcceptor .aborted]

/-- A reload between two connections replaces the accept. -/
theorem one_loop_of_late_reload :
    ∃ s, Machine.run (step {} {}) (run {} {}) lateReload = some s
      ∧ (s.accepts .socketAcceptor).OneLoop := by
  have hrun : (Machine.run (step {} {}) (run {} {}) lateReload).any (fun s => !s.stopped)
      = true := by
    decide +kernel
  obtain ⟨s, hs, hall⟩ := Option.any_eq_true _ _ |>.mp hrun
  refine ⟨s, hs, ?_⟩
  exact (one_loop_iff hs).mpr (by decide +kernel) s ⟨lateReload, List.prefix_rfl, hs⟩
    (by simpa using hall) _ (by decide)

/-- A connection is accepted, and the certificate reloaded before the handler
has run. -/
def earlyReload : List Event :=
  [.complete .socketAcceptor (.accepted (some {}) false), .reloadCert,
    .handle .socketAcceptor (.accepted (some {}) false)]

/-- **Two accept loops**: the handler accepts again, beside the accept that the
reload has begun. -/
theorem two_loops :
    ∃ s, Machine.run (step {} {}) (run {} {}) earlyReload = some s
      ∧ s.stopped = false ∧ (s.accepts .socketAcceptor).outstanding = 2
      ∧ ¬ (s.accepts .socketAcceptor).OneLoop := by
  have hrun : (Machine.run (step {} {}) (run {} {}) earlyReload).any
      (fun s => s.stopped = false ∧ (s.accepts .socketAcceptor).outstanding = 2) = true := by
    decide +kernel
  obtain ⟨s, hs, hall⟩ := Option.any_eq_true _ _ |>.mp hrun
  obtain ⟨hstopped, htwo⟩ := of_decide_eq_true hall
  refine ⟨s, hs, hstopped, htwo, ?_⟩
  unfold Accepts.OneLoop
  omega

end Acceptors
