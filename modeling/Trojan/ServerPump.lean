import Trojan.ServerSession

/-!
# The pump discipline of a server session

The member buffers of a session are reused by every operation without a queue.
What makes that safe is nowhere written down in the source: in each direction
there is never more than one operation in flight, and each handler begins the
next one. Upwards – from the client to its target, with the whole bootstrap –
the operations are reads from the client and writes to the target; downwards
they are reads from the target and writes to the client.

The proof keeps accounts. A session *owes* operations (`Owes s u d`) when `u`
more upward and `d` more downward operations would put it in order. Ending an
operation makes a session owe one of that direction
(`Owes.receives`), beginning one pays (`Owes.begins`), and each handler pays
exactly what the operation it handles left owing. The main result is
`ServerSession.pump_discipline`.
-/

namespace ServerSession

open Flight

/-- The upward operations, the bootstrap among them. -/
def Operation.isUp : Operation → Bool
  | tlsHandshake | plainHttpWrite | trustedFrontRead | tcpResolve _ | tcpConnect _ _ => true
  | inRead | outWrite _ _ | udpResolve _ | udpSend _ _ _ => true
  | _ => false

/-- The downward operations. -/
def Operation.isDown : Operation → Bool
  | outRead | inWrite _ | udpReceive => true
  | _ => false

/-- The operations that come before the handshake payload. -/
def Operation.isBootstrap : Operation → Bool
  | tlsHandshake | plainHttpWrite | trustedFrontRead | inRead => true
  | _ => false

/-- The operations that can be in flight in a status. -/
def Status.allows : Status → Operation → Bool
  | handshake, .tcpResolve _ | handshake, .tcpConnect _ _ => true
  | handshake, op => op.isBootstrap
  | forward, .inRead | forward, .outWrite _ _ | forward, .outRead | forward, .inWrite _ => true
  | forward, _ => false
  | udpForward, .inRead | udpForward, .udpResolve _ | udpForward, .udpSend _ _ _ => true
  | udpForward, .udpReceive | udpForward, .inWrite _ => true
  | udpForward, _ => false
  | destroy, .tlsHandshake | destroy, .plainHttpWrite | destroy, .trustedFrontRead => false
  | destroy, .tcpResolve _ | destroy, .tcpConnect _ _ => false
  | destroy, _ => true

/-- An operation that a destroyed session cannot have left is one of the handshake. -/
theorem Status.eq_handshake_of_allows {status : Status} {op : Operation}
    (h : status.allows op = true) (hop : Status.destroy.allows op = false) :
    status = .handshake := by
  cases status with
  | handshake => rfl
  | destroy => exact absurd h (by simp [hop])
  | _ => cases op <;> simp [Status.allows] at h hop

/-- An operation of a TCP relay only is in flight in one, or is left by it. -/
theorem Status.forward_or_destroy_of_allows {status : Status} {op : Operation}
    (h : status.allows op = true) (hhandshake : Status.handshake.allows op = false)
    (hudp : Status.udpForward.allows op = false) : status = .forward ∨ status = .destroy := by
  cases status with
  | handshake => exact absurd h (by simp [hhandshake])
  | udpForward => exact absurd h (by simp [hudp])
  | forward => exact .inl rfl
  | destroy => exact .inr rfl

/-- An operation of a UDP relay only is in flight in one, or is left by it. -/
theorem Status.udpForward_or_destroy_of_allows {status : Status} {op : Operation}
    (h : status.allows op = true) (hhandshake : Status.handshake.allows op = false)
    (hforward : Status.forward.allows op = false) :
    status = .udpForward ∨ status = .destroy := by
  cases status with
  | handshake => exact absurd h (by simp [hhandshake])
  | forward => exact absurd h (by simp [hforward])
  | udpForward => exact .inl rfl
  | destroy => exact .inr rfl

/-- The operation uses the buffer. -/
def Operation.uses (op : Operation) (b : Buffer) : Prop := op.buffer = some b

/-- The number of upward operations in flight. -/
def upward (s : ServerSession) : ℕ := s.pending.countP Operation.isUp

/-- The number of downward operations in flight. -/
def downward (s : ServerSession) : ℕ := s.pending.countP Operation.isDown

/-- The mark of a run of `handle_handshake_payload`. -/
def isPayload : Mark Operation Buffer Note → Bool
  | .noted (.handshakePayload _) => true
  | _ => false

/-- How often `handle_handshake_payload` has run. -/
def payloads (s : ServerSession) : ℕ := s.history.countP isPayload

/-- A session that is destroyed does not look at a payload. -/
theorem not_payload_of_farewell {env : Env} {s : ServerSession} {n : Note}
    (h : n ∈ s.farewellNotes env) : ∀ data, n ≠ .handshakePayload data := by
  rintro data rfl
  simpa using mem_farewellNotes h

/-- **A session owes operations**: with `u` more upward and `d` more downward
operations in flight it would be in order. A destroyed session is in order with
fewer, too. -/
structure Owes (s : ServerSession) (u d : ℕ) : Prop where
  allowed : ∀ op ∈ s.pending, s.status.allows op = true
  atHandshake : s.status = .handshake → s.upward + u = 1 ∧ s.downward + d = 0
  atForward : s.status = .forward → s.upward + u = 1 ∧ s.downward + d = 1
  atUdpForward : s.status = .udpForward →
    s.upward + u = 1 ∧ s.downward + d = if s.udpSocketOpen then 1 else 0
  atDestroy : s.status = .destroy → s.upward + u ≤ 1 ∧ s.downward + d ≤ 1
    ∧ ((∃ r, .udpResolve r ∈ s.pending) → s.downward + d = 0)
  undisturbed : Undisturbed Operation.uses s.history
  closed : s.status = .handshake → s.udpSocketOpen = false
  once : s.payloads ≤ 1
  unread : s.status = .handshake → (∃ op ∈ s.pending, op.isBootstrap = true) → s.payloads = 0

namespace Owes

variable {s : ServerSession} {u d : ℕ}

/-- Whatever the status, at most one upward operation is in flight or owed,
and at most one downward. -/
theorem le_one (h : Owes s u d) : s.upward + u ≤ 1 ∧ s.downward + d ≤ 1 := by
  cases hs : s.status with
  | handshake => have := h.atHandshake hs; omega
  | forward => have := h.atForward hs; omega
  | udpForward =>
    have hud := h.atUdpForward hs
    split at hud <;> omega
  | destroy => exact ⟨(h.atDestroy hs).1, (h.atDestroy hs).2.1⟩

/-- A session that owes an upward operation has none in flight. -/
theorem not_isUp (h : Owes s 1 d) {op : Operation} (hop : op ∈ s.pending) :
    op.isUp = false := by
  have hzero : s.upward = 0 := by have := h.le_one; omega
  exact Bool.eq_false_iff.mpr (List.countP_eq_zero.mp hzero op hop)

/-- A session that owes a downward operation has none in flight. -/
theorem not_isDown (h : Owes s u 1) {op : Operation} (hop : op ∈ s.pending) :
    op.isDown = false := by
  have hzero : s.downward = 0 := by have := h.le_one; omega
  exact Bool.eq_false_iff.mpr (List.countP_eq_zero.mp hzero op hop)

/-- Only one upward operation is in flight at a time. -/
theorem eq_of_isUp (h : Owes s u d) {op op' : Operation} (hop : op ∈ s.pending)
    (hop' : op' ∈ s.pending) (hup : op.isUp = true) (hup' : op'.isUp = true) : op = op' := by
  by_contra hne
  have hcount := countP_erase_add Operation.isUp hop
  rw [if_pos hup] at hcount
  have hpos : 0 < (s.pending.erase op).countP Operation.isUp :=
    List.countP_pos_iff.mpr ⟨op', (List.mem_erase_of_ne (Ne.symm hne)).mpr hop', hup'⟩
  have hle : s.pending.countP Operation.isUp + u ≤ 1 := h.le_one.1
  omega

/-- A handshake that owes its operation has nothing in flight. -/
theorem pending_eq_nil (h : Owes s 1 d) (hs : s.status = .handshake) : s.pending = [] := by
  refine List.eq_nil_iff_forall_not_mem.mpr (fun op hop => ?_)
  have hall := h.allowed op hop
  have hup := h.not_isUp hop
  rw [hs] at hall
  cases op <;> simp [Status.allows, Operation.isBootstrap, Operation.isUp] at hall hup

/-- What a session owes depends on its status, on what is in flight and on
whether the UDP socket is open. -/
theorem of_eq {t : ServerSession} (h : Owes s u d) (hstatus : t.status = s.status)
    (hopen : t.udpSocketOpen = s.udpSocketOpen) (hpending : t.pending = s.pending)
    (hpay : t.payloads = s.payloads) (hund : Undisturbed Operation.uses t.history) :
    Owes t u d where
  allowed := by rw [hstatus, hpending]; exact h.allowed
  atHandshake := by rw [hstatus, upward, downward, hpending]; exact h.atHandshake
  atForward := by rw [hstatus, upward, downward, hpending]; exact h.atForward
  atUdpForward := by rw [hstatus, hopen, upward, downward, hpending]; exact h.atUdpForward
  atDestroy := by rw [hstatus, upward, downward, hpending]; exact h.atDestroy
  undisturbed := hund
  closed := by rw [hstatus, hopen]; exact h.closed
  once := by rw [hpay]; exact h.once
  unread := by rw [hstatus, hpending, hpay]; exact h.unread

/-- **Ending an operation leaves it owing.** -/
theorem receives (h : Owes s 0 0) {e : Event} {op : Operation} (he : e.operation = some op)
    (hop : op ∈ s.pending) :
    Owes (s.receives e) op.isUp.toNat op.isDown.toNat := by
  have hrec : s.receives e
      = { s with history := .ended op :: .noted (.handled s.status e) :: s.history } := by
    rw [ServerSession.receives, he]
  have hup : (s.receives e).upward + op.isUp.toNat = s.upward := by
    have hcount := countP_erase_add Operation.isUp hop
    rw [hrec]
    cases hu : op.isUp <;> rw [hu] at hcount <;> exact hcount
  have hdown : (s.receives e).downward + op.isDown.toNat = s.downward := by
    have hcount := countP_erase_add Operation.isDown hop
    rw [hrec]
    cases hd : op.isDown <;> rw [hd] at hcount <;> exact hcount
  have hmem {o : Operation} (ho : o ∈ (s.receives e).pending) : o ∈ s.pending := by
    rw [hrec] at ho
    exact List.mem_of_mem_erase ho
  have hstatus : (s.receives e).status = s.status := by rw [hrec]
  have hopen : (s.receives e).udpSocketOpen = s.udpSocketOpen := by rw [hrec]
  have hpay : (s.receives e).payloads = s.payloads := by rw [hrec]; rfl
  refine ⟨fun o ho => hstatus ▸ h.allowed o (hmem ho), ?_, ?_, ?_, ?_, ?_,
    hstatus ▸ hopen ▸ h.closed, hpay ▸ h.once, fun hs ⟨o, ho, hb⟩ => ?_⟩
  · rw [hstatus, hup, hdown]
    exact h.atHandshake
  · rw [hstatus, hup, hdown]
    exact h.atForward
  · rw [hstatus, hup, hdown, hopen]
    exact h.atUdpForward
  · rw [hstatus, hup, hdown]
    intro hs
    exact ⟨(h.atDestroy hs).1, (h.atDestroy hs).2.1,
      fun ⟨r, hr⟩ => (h.atDestroy hs).2.2 ⟨r, hmem hr⟩⟩
  · rw [hrec]
    exact h.undisturbed
  · rw [hpay]
    exact h.unread (hstatus ▸ hs) ⟨o, hmem ho, hb⟩

/-- **Beginning an operation pays for it.** -/
theorem begins {op : Operation} (h : Owes s (u + op.isUp.toNat) (d + op.isDown.toNat))
    (hallow : s.status.allows op = true)
    (hres : s.status = .destroy → ∀ r, op ≠ .udpResolve r)
    (hboot : s.status = .handshake → op.isBootstrap = true → s.payloads = 0) :
    Owes (s.begins op) u d := by
  have hup : (s.begins op).upward + u = s.upward + (u + op.isUp.toNat) := by
    rw [upward, pending_begins, List.countP_cons, ← upward]
    cases op.isUp <;> simp; omega
  have hdown : (s.begins op).downward + d = s.downward + (d + op.isDown.toNat) := by
    rw [downward, pending_begins, List.countP_cons, ← downward]
    cases op.isDown <;> simp; omega
  refine ⟨fun o ho => ?_, ?_, ?_, ?_, ?_, h.undisturbed, h.closed, h.once,
    fun hs ⟨o, ho, hb⟩ => ?_⟩
  · rcases List.mem_cons.mp ho with rfl | ho
    · exact hallow
    · exact h.allowed o ho
  · rw [hup, hdown]
    exact h.atHandshake
  · rw [hup, hdown]
    exact h.atForward
  · rw [hup, hdown]
    exact h.atUdpForward
  · rw [hup, hdown]
    intro hs
    obtain ⟨hu, hd, hr⟩ := h.atDestroy hs
    refine ⟨hu, hd, fun ⟨r, hmem⟩ => ?_⟩
    rcases List.mem_cons.mp hmem with hr' | hmem
    · exact absurd hr'.symm (hres hs r)
    · exact hr ⟨r, hmem⟩
  · rcases List.mem_cons.mp ho with rfl | ho
    · exact hboot hs hb
    · exact h.unread hs ⟨o, ho, hb⟩

/-- A buffer that nothing in flight uses may be modified. -/
theorem modifies (h : Owes s u d) {b : Buffer} (hb : ∀ op ∈ s.pending, op.buffer ≠ some b) :
    Owes { s with history := .modified b :: s.history } u d :=
  h.of_eq rfl rfl rfl rfl ⟨hb, h.undisturbed⟩

/-- The buffers of the upward direction are free when it owes its
operation. -/
theorem free_of_up (h : Owes s 1 d) {b : Buffer}
    (hb : b = .inReadBuf ∨ b = .outWriteData ∨ b = .udpWriteData) :
    ∀ op ∈ s.pending, op.buffer ≠ some b := by
  intro op hop hbuf
  have hup := h.not_isUp hop
  rcases hb with rfl | rfl | rfl <;> cases op <;>
    simp [Operation.buffer, Operation.isUp] at hbuf hup

/-- The buffers of the downward direction are free when it owes its
operation. -/
theorem free_of_down (h : Owes s u 1) {b : Buffer}
    (hb : b = .outReadBuf ∨ b = .inWriteData ∨ b = .udpReadBuf) :
    ∀ op ∈ s.pending, op.buffer ≠ some b := by
  intro op hop hbuf
  have hdown := h.not_isDown hop
  rcases hb with rfl | rfl | rfl <;> cases op <;>
    simp [Operation.buffer, Operation.isDown] at hbuf hdown

/-- A destroyed session need not pay. -/
theorem settled (h : Owes s u d) (hs : s.status = .destroy) : Owes s 0 0 := by
  obtain ⟨hu, hd, hr⟩ := h.atDestroy hs
  refine ⟨h.allowed, fun h' => ?_, fun h' => ?_, fun h' => ?_, fun _ => ?_, h.undisturbed,
    h.closed, h.once, h.unread⟩
  · exact absurd (hs.symm.trans h') (by simp)
  · exact absurd (hs.symm.trans h') (by simp)
  · exact absurd (hs.symm.trans h') (by simp)
  · exact ⟨by omega, by omega, fun hex => by have := hr hex; omega⟩

/-- **Being destroyed settles every debt.** -/
theorem destroy (h : Owes s u d) (hone : 1 ≤ u + d) (env : Env) :
    Owes (s.destroy env) 0 0 := by
  by_cases hs : s.status = .destroy
  · rw [destroy_of_destroy env s hs]
    exact h.settled hs
  · have hpend : (s.destroy env).pending = s.farewellOperations ++ s.pending := by
      rw [destroy_eq env s hs, pending, farewell, List.append_assoc, inFlight_map_began,
        inFlight_map_noted]
      rfl
    have hclosing : ∀ op ∈ s.farewellOperations, op = .shutdownTimer ∨ op = .tlsShutdown := by
      intro op hop
      unfold farewellOperations at hop
      split at hop
      · simpa using hop
      · exact absurd hop List.not_mem_nil
    have hup : (s.destroy env).upward = s.upward := by
      rw [upward, hpend, List.countP_append, List.countP_eq_zero.mpr, Nat.zero_add, ← upward]
      intro op hop
      rcases hclosing op hop with rfl | rfl <;> simp [Operation.isUp]
    have hdown : (s.destroy env).downward = s.downward := by
      rw [downward, hpend, List.countP_append, List.countP_eq_zero.mpr, Nat.zero_add,
        ← downward]
      intro op hop
      rcases hclosing op hop with rfl | rfl <;> simp [Operation.isDown]
    have hpay : (s.destroy env).payloads = s.payloads := by
      rw [payloads, destroy_eq env s hs, farewell, List.countP_append, List.countP_append,
        List.countP_map, List.countP_map, List.countP_eq_zero.mpr, List.countP_eq_zero.mpr,
        Nat.zero_add, payloads]
      · intro n hn
        have hnot := not_payload_of_farewell hn
        cases n <;> simp_all [isPayload]
      · intro op _
        simp [isPayload]
    refine ⟨fun op hop => ?_, by simp, by simp, by simp, fun _ => ?_, ?_, by simp,
      hpay ▸ h.once, by simp⟩
    · -- what a relay has in flight may stay in flight; a handshake has nothing
      rw [status_destroy]
      rw [hpend] at hop
      rcases List.mem_append.mp hop with hop | hop
      · rcases hclosing op hop with rfl | rfl <;> rfl
      · have hall := h.allowed op hop
        cases hst : s.status with
        | handshake =>
          have hu : u = 1 := by have := h.atHandshake hst; omega
          subst hu
          rw [h.pending_eq_nil hst] at hop
          exact absurd hop List.not_mem_nil
        | forward =>
          rw [hst] at hall
          cases op <;> first | rfl | exact absurd hall (by simp [Status.allows])
        | udpForward =>
          rw [hst] at hall
          cases op <;> first | rfl | exact absurd hall (by simp [Status.allows])
        | destroy => exact absurd hst hs
    · have hle := h.le_one
      rw [hup, hdown]
      refine ⟨by omega, by omega, fun hresolve => ?_⟩
      obtain ⟨r, hr⟩ := hresolve
      rw [hpend] at hr
      -- a resolve in flight means that it was the downward side that failed
      have hmem : .udpResolve r ∈ s.pending := by
        rcases List.mem_append.mp hr with hr | hr
        · rcases hclosing _ hr with hr | hr <;> exact absurd hr (by simp)
        · exact hr
      have hpos : 0 < s.upward := List.countP_pos_iff.mpr ⟨_, hmem, rfl⟩
      omega
    · rw [destroy_eq env s hs, farewell, List.append_assoc]
      exact undisturbed_map_began.mpr (undisturbed_map_noted.mpr h.undisturbed)

/-! ### The handlers pay what they owe -/

theorem inAsyncRead (h : Owes s 1 d) (hs : s.status ≠ .destroy)
    (hpay : s.status = .handshake → s.payloads = 0) : Owes s.inAsyncRead 0 d := by
  refine begins h ?_ (fun hd => absurd hd hs) (fun hh _ => hpay hh)
  cases hst : s.status with
  | handshake => rfl
  | forward => rfl
  | udpForward => rfl
  | destroy => exact absurd hst hs

theorem outAsyncWriteBuffer (h : Owes s 1 d) (hs : s.status = .forward) (data : Bytes)
    (account : Bool) : Owes (s.outAsyncWriteBuffer data account) 0 d := by
  have hmod := h.modifies (b := .outWriteData) (h.free_of_up (.inr (.inl rfl)))
  refine begins (hmod.of_eq rfl rfl rfl rfl hmod.undisturbed) ?_ ?_ ?_
  · show s.status.allows _ = true
    rw [hs]
    rfl
  · simp
  · simp [Operation.isBootstrap]

theorem inAsyncWriteBuffer (h : Owes s u 1)
    (hs : s.status = .forward ∨ s.status = .udpForward) (data : Bytes) :
    Owes (s.inAsyncWriteBuffer data) u 0 := by
  have hmod := h.modifies (b := .inWriteData) (h.free_of_down (.inr (.inl rfl)))
  refine begins (hmod.of_eq rfl rfl rfl rfl hmod.undisturbed) ?_ ?_ ?_
  · show s.status.allows _ = true
    rcases hs with hs | hs <;> rw [hs] <;> rfl
  · simp
  · simp [Operation.isBootstrap]

theorem udpAsyncWrite (h : Owes s 1 d)
    (hs : s.status = .udpForward ∨ s.status = .destroy) (data : Bytes)
    (endpoint : UdpEndpoint) (accounted : ℕ) :
    Owes (s.udpAsyncWrite data endpoint accounted) 0 d := by
  have hmod := h.modifies (b := .udpWriteData) (h.free_of_up (.inr (.inr rfl)))
  refine begins (hmod.of_eq rfl rfl rfl rfl hmod.undisturbed) ?_ ?_ ?_
  · show s.status.allows _ = true
    rcases hs with hs | hs <;> rw [hs] <;> rfl
  · simp
  · simp [Operation.isBootstrap]

theorem udpSent (h : Owes s 1 0) (hs : s.status = .udpForward ∨ s.status = .destroy)
    (env : Env) : Owes (s.udpSent env) 0 0 := by
  rcases hs with hs | hs
  · rw [ServerSession.udpSent, if_pos hs, tryParseUdpPacket]
    rcases ({} : UDPPacket).parse s.udpDataBuf with ⟨p, _ | n⟩
    · by_cases hlong : s.udpDataBuf.length > maxLength
      · simp only [if_pos hlong]
        exact h.destroy (by omega) env
      · simp only [if_neg hlong]
        exact h.inAsyncRead (by rw [hs]; simp) (by rw [hs]; simp)
    · have h' : Owes { s with udpDataBuf := s.udpDataBuf.drop n } 1 0 :=
        h.of_eq rfl rfl rfl rfl h.undisturbed
      refine begins h' ?_ ?_ ?_
      · show s.status.allows _ = true
        rw [hs]
        rfl
      · simp [hs]
      · simp [Operation.isBootstrap]
  · rw [ServerSession.udpSent, if_neg (by rw [hs]; simp)]
    exact h.settled hs

/-- Opening the UDP socket makes a session owe a receive. -/
theorem opensUdp (h : Owes s 1 0) (hopen : s.udpSocketOpen = false)
    (hs : s.status = .udpForward ∨ (s.status = .destroy ∧ s.downward = 0)) :
    Owes { s.notes .openedUdpSocket with udpSocketOpen := true } 1 1 := by
  refine ⟨h.allowed, ?_, ?_, ?_, ?_, h.undisturbed, ?_, h.once, h.unread⟩
  · intro hst
    change s.status = _ at hst
    rcases hs with hs | ⟨hs, -⟩ <;> exact absurd (hs.symm.trans hst) (by simp)
  · intro hst
    change s.status = _ at hst
    rcases hs with hs | ⟨hs, -⟩ <;> exact absurd (hs.symm.trans hst) (by simp)
  · intro hst
    have hud := h.atUdpForward hst
    rw [hopen] at hud
    exact ⟨hud.1, by rw [if_pos rfl]; exact congrArg (· + 1) hud.2⟩
  · intro hst
    obtain ⟨hu, -, -⟩ := h.atDestroy hst
    rcases hs with hs | ⟨-, hdown⟩
    · exact absurd (hs.symm.trans hst) (by simp)
    · refine ⟨hu, Nat.le_of_eq (congrArg (· + 1) hdown), fun ⟨r, hr⟩ => ?_⟩
      exact absurd (h.not_isUp hr) (by simp [Operation.isUp])
  · intro hst
    change s.status = _ at hst
    rcases hs with hs | ⟨hs, -⟩ <;> exact absurd (hs.symm.trans hst) (by simp)

theorem dispatchUdpPayload (h : Owes s 1 0)
    (hs : s.status = .udpForward ∨ (s.status = .destroy ∧ s.downward = 0)) (env : Env)
    (payload : Bytes) (packetLength : ℕ) (endpoint : UdpEndpoint) (openError : Bool) :
    Owes (s.dispatchUdpPayload env payload packetLength endpoint openError) 0 0 := by
  have hs' : s.status = .udpForward ∨ s.status = .destroy := hs.imp_right And.left
  unfold ServerSession.dispatchUdpPayload ensureUdpSocketOpen
  cases hopen : s.udpSocketOpen with
  | true =>
    simp only [if_true, hopen, Bool.not_true, Bool.false_eq_true, if_false]
    exact h.udpAsyncWrite hs' payload endpoint packetLength
  | false =>
    cases openError with
    | true =>
      have hclosed : (s.destroy env).udpSocketOpen = false := by
        by_cases hd : s.status = .destroy
        · rw [destroy_of_destroy env s hd, hopen]
        · rw [destroy_eq env s hd]
      simp only [Bool.false_eq_true, if_false, if_true, hclosed, Bool.not_false]
      exact h.destroy (by omega) env
    | false =>
      simp only [Bool.false_eq_true, if_false, udpAsyncRead, udpSocketOpen_begins,
        Bool.not_true]
      have hread : Owes ({ s.notes .openedUdpSocket with udpSocketOpen := true }.begins
          .udpReceive) 1 0 := by
        refine begins (h.opensUdp hopen hs) ?_ ?_ ?_
        · show s.status.allows _ = true
          rcases hs' with hs | hs <;> rw [hs] <;> rfl
        · simp
        · simp [Operation.isBootstrap]
      exact hread.udpAsyncWrite hs' payload endpoint packetLength

theorem connectOutbound (h : Owes s 1 0) (hs : s.status = .handshake) (env : Env)
    (target : ConnectTarget) (requiresFallbackSlot granted : Bool) :
    Owes (s.connectOutbound env target requiresFallbackSlot granted) 0 0 := by
  have hresolve {t : ServerSession} (ht : Owes t 1 0) (hst : t.status = .handshake) :
      Owes (t.begins (.tcpResolve target)) 0 0 :=
    begins ht (by rw [hst]; rfl) (by simp) (by simp [Operation.isBootstrap])
  have hslot : Owes (s.tryAcquireFallbackSlot granted) 1 0 :=
    h.of_eq rfl rfl rfl rfl h.undisturbed
  unfold ServerSession.connectOutbound
  split
  · dsimp only
    split
    · exact hresolve hslot hs
    · exact hslot.destroy (by omega) env
  · exact hresolve h hs

theorem tcpResolved (h : Owes s 1 0) (hs : s.status = .handshake) (env : Env)
    (target : ConnectTarget) (results : Option (List IpAddress)) (openError : Bool) :
    Owes (s.tcpResolved env target results openError) 0 0 := by
  unfold ServerSession.tcpResolved
  split
  · exact h.destroy (by omega) env
  · split
    · exact h.destroy (by omega) env
    · refine begins (u := 0) (d := 0) (h.of_eq rfl rfl rfl rfl h.undisturbed) ?_ ?_ ?_
      · show s.status.allows _ = true
        rw [hs]
        rfl
      · simp
      · simp [Operation.isBootstrap]

/-- A handshake that leads to a relay starts it with nothing in flight. -/
theorem entersForward (h : Owes s 1 0) (hs : s.status = .handshake) :
    Owes { s.notes .tunnelEstablished with status := .forward } 1 1 := by
  have hnil := h.pending_eq_nil hs
  have hup : { s.notes .tunnelEstablished with status := .forward }.upward = 0 := by
    show s.pending.countP _ = 0
    rw [hnil]
    rfl
  have hdown : { s.notes .tunnelEstablished with status := .forward }.downward = 0 := by
    show s.pending.countP _ = 0
    rw [hnil]
    rfl
  refine ⟨fun op hop => ?_, by simp, fun _ => by rw [hup, hdown]; exact ⟨rfl, rfl⟩, by simp,
    by simp, h.undisturbed, by simp, h.once, by simp⟩
  change op ∈ s.pending at hop
  rw [hnil] at hop
  exact absurd hop List.not_mem_nil

/-- The same for a UDP relay, whose socket is not open yet. -/
theorem entersUdpForward (h : Owes s 1 0) (hs : s.status = .handshake) :
    Owes { s with status := .udpForward } 1 0 := by
  have hnil := h.pending_eq_nil hs
  have hup : ({ s with status := .udpForward } : ServerSession).upward = 0 := by
    show s.pending.countP _ = 0
    rw [hnil]
    rfl
  have hdown : ({ s with status := .udpForward } : ServerSession).downward = 0 := by
    show s.pending.countP _ = 0
    rw [hnil]
    rfl
  refine ⟨fun op hop => ?_, by simp, by simp, fun _ => ?_, by simp, h.undisturbed, by simp,
    h.once, by simp⟩
  · change op ∈ s.pending at hop
    rw [hnil] at hop
    exact absurd hop List.not_mem_nil
  · rw [hup, hdown, h.closed hs]
    exact ⟨rfl, rfl⟩

theorem tcpConnected (h : Owes s 1 0) (hs : s.status = .handshake) (env : Env) (error : Bool) :
    Owes (s.tcpConnected env error) 0 0 := by
  unfold ServerSession.tcpConnected
  split
  · exact h.destroy (by omega) env
  · have hread : Owes { s.notes .tunnelEstablished with status := .forward }.outAsyncRead 1 0 :=
      begins (h.entersForward hs) rfl (by simp) (by simp)
    dsimp only
    split
    · exact hread.outAsyncWriteBuffer rfl _ _
    · exact hread.inAsyncRead (by simp [outAsyncRead]) (by simp [outAsyncRead])

theorem executePlan (h : Owes s 1 0) (hs : s.status = .handshake) (env : Env)
    (plan : RelayExecutionPlan) (granted : Bool) : Owes (s.executePlan env plan granted) 0 0 := by
  unfold ServerSession.executePlan
  split
  · refine udpSent ?_ (.inl rfl) env
    exact (h.entersUdpForward hs).of_eq rfl rfl rfl rfl h.undisturbed
  · refine connectOutbound ?_ ?_ env _ _ _
    · exact h.of_eq rfl rfl rfl rfl h.undisturbed
    · exact hs
  · refine destroy (u := 1) (d := 0) ?_ (by omega) env
    exact h.of_eq rfl rfl rfl rfl h.undisturbed

/-- Looking at the payload, for the first time. -/
theorem looksAtPayload (h : Owes s 1 0) (hs : s.status = .handshake) (hpay : s.payloads = 0)
    (data : Bytes) : Owes (s.notes (.handshakePayload data)) 1 0 := by
  have hone : (s.notes (.handshakePayload data)).payloads = 1 := by
    rw [payloads, history_notes, List.countP_cons_of_pos rfl, ← payloads, hpay]
  refine ⟨h.allowed, h.atHandshake, h.atForward, h.atUdpForward, h.atDestroy, h.undisturbed,
    h.closed, Nat.le_of_eq hone, fun _ ⟨op, hop, _⟩ => ?_⟩
  change op ∈ s.pending at hop
  rw [h.pending_eq_nil hs] at hop
  exact absurd hop List.not_mem_nil

theorem handleHandshakePayload (h : Owes s 1 0) (hs : s.status = .handshake)
    (hpay : s.payloads = 0) (env : Env) (data : Bytes) (granted : Bool) :
    Owes (s.handleHandshakePayload env data granted) 0 0 := by
  have hlook := h.looksAtPayload hs hpay data
  obtain ⟨context, hgate⟩ := exists_gateResult env (s.notes (.handshakePayload data)) data
  unfold ServerSession.handleHandshakePayload
  simp only [hgate]
  generalize SessionGate.evaluate env.config env.auth ⟨context, data⟩ = decision
  have happly : Owes ((s.notes (.handshakePayload data)).applyAuthResult decision) 1 0
      ∧ ((s.notes (.handshakePayload data)).applyAuthResult decision).status = .handshake := by
    unfold applyAuthResult
    split
    · split
      · exact ⟨hlook.of_eq rfl rfl rfl rfl h.undisturbed, hs⟩
      · exact ⟨hlook.of_eq rfl rfl rfl rfl h.undisturbed, hs⟩
    · split
      · exact ⟨hlook.of_eq rfl rfl rfl rfl h.undisturbed, hs⟩
      · exact ⟨hlook, hs⟩
  exact happly.1.executePlan happly.2 env _ granted

theorem inRecv (h : Owes s 1 0) (hpay : s.status = .handshake → s.payloads = 0) (env : Env)
    (length : ℕ) (granted : Bool) : Owes (s.inRecv env length granted) 0 0 := by
  have hmod := h.modifies (b := .inReadBuf) (h.free_of_up (.inl rfl))
  have hgrow : Owes (s.growInReadBuf length) 1 0 := hmod.of_eq rfl rfl rfl rfl hmod.undisturbed
  unfold ServerSession.inRecv
  dsimp only
  split
  · rename_i hs
    exact hgrow.handleHandshakePayload hs (hpay hs) env _ granted
  · rename_i hs
    exact hgrow.outAsyncWriteBuffer hs _ _
  · rename_i hs
    refine udpSent ?_ (.inl ?_) env
    · exact hgrow.of_eq rfl rfl rfl rfl hgrow.undisturbed
    · exact hs
  · rename_i hs
    exact hgrow.settled hs

theorem inSent (h : Owes s 0 1) (hs : s.status ≠ .handshake) : Owes s.inSent 0 0 := by
  unfold ServerSession.inSent
  split
  · rename_i hst
    exact begins h (by rw [hst]; rfl) (by simp) (by simp [hst])
  · rename_i hst
    exact begins h (by rw [hst]; rfl) (by simp) (by simp [hst])
  · rename_i hf hu
    cases hst : s.status with
    | handshake => exact absurd hst hs
    | forward => exact absurd hst hf
    | udpForward => exact absurd hst hu
    | destroy => exact h.settled hst

theorem outRecv (h : Owes s 0 1) (hs : s.status = .forward ∨ s.status = .destroy)
    (length : ℕ) : Owes (s.outRecv length) 0 0 := by
  have hmod := h.modifies (b := .outReadBuf) (h.free_of_down (.inl rfl))
  have hgrow : Owes (s.growOutReadBuf length) 0 1 := hmod.of_eq rfl rfl rfl rfl hmod.undisturbed
  unfold ServerSession.outRecv
  dsimp only
  rcases hs with hs | hs
  · rw [if_pos (show (s.growOutReadBuf length).status = .forward from hs)]
    refine inAsyncWriteBuffer ?_ (.inl ?_) _
    · exact hgrow.of_eq rfl rfl rfl rfl hgrow.undisturbed
    · exact hs
  · rw [if_neg (show (s.growOutReadBuf length).status ≠ .forward by
      show s.status ≠ _
      rw [hs]
      simp)]
    exact hgrow.settled hs

theorem udpRecv (h : Owes s 0 1) (hs : s.status = .udpForward ∨ s.status = .destroy)
    (length : ℕ) (endpoint : UdpEndpoint) : Owes (s.udpRecv length endpoint) 0 0 := by
  have hmod := h.modifies (b := .udpReadBuf) (h.free_of_down (.inr (.inr rfl)))
  have hgrow : Owes (s.growUdpReadBuf length) 0 1 := hmod.of_eq rfl rfl rfl rfl hmod.undisturbed
  unfold ServerSession.udpRecv
  dsimp only
  rcases hs with hs | hs
  · rw [if_pos (show (s.growUdpReadBuf length).status = .udpForward from hs)]
    refine inAsyncWriteBuffer ?_ (.inr ?_) _
    · exact hgrow.of_eq rfl rfl rfl rfl hgrow.undisturbed
    · exact hs
  · rw [if_neg (show (s.growUdpReadBuf length).status ≠ .udpForward by
      show s.status ≠ _
      rw [hs]
      simp)]
    exact hgrow.settled hs

theorem outSent (h : Owes s 1 0) (hs : s.status = .forward ∨ s.status = .destroy) :
    Owes s.outSent 0 0 := by
  rcases hs with hs | hs
  · rw [ServerSession.outSent, if_pos hs]
    exact h.inAsyncRead (by simp [hs]) (by simp [hs])
  · rw [ServerSession.outSent, if_neg (by simp [hs])]
    exact h.settled hs

theorem trustedFrontRecv (h : Owes s 1 0) (hs : s.status = .handshake) (hpay : s.payloads = 0)
    (env : Env) (length : ℕ) (granted : Bool) :
    Owes (s.trustedFrontRecv env length granted) 0 0 := by
  unfold ServerSession.trustedFrontRecv
  dsimp only
  split
  · refine handleHandshakePayload ?_ ?_ ?_ env _ granted
    · exact h.of_eq rfl rfl rfl rfl h.undisturbed
    · exact hs
    · exact hpay
  · split
    · refine begins (u := 0) (d := 0) (h.of_eq rfl rfl rfl rfl h.undisturbed) ?_ ?_ ?_
      · show s.status.allows _ = true
        rw [hs]
        rfl
      · simp
      · exact fun _ _ => hpay
    · refine destroy (u := 1) (d := 0) ?_ (by omega) env
      exact h.of_eq rfl rfl rfl rfl h.undisturbed

theorem tlsHandshaken (h : Owes s 1 0) (hs : s.status = .handshake) (hpay : s.payloads = 0)
    (env : Env) (error : Option Bytes) : Owes (s.tlsHandshaken env error) 0 0 := by
  have hread : Owes s.inAsyncRead 0 0 := h.inAsyncRead (by simp [hs]) (fun _ => hpay)
  unfold ServerSession.tlsHandshaken
  split
  · exact begins h (by rw [hs]; rfl) (by simp) (fun _ _ => hpay)
  · exact h.destroy (by omega) env
  · exact hread
  · split
    · refine begins (u := 0) (d := 0) (h.of_eq rfl rfl rfl rfl h.undisturbed) ?_ ?_ ?_
      · show s.status.allows _ = true
        rw [hs]
        rfl
      · simp
      · exact fun _ _ => hpay
    · exact h.destroy (by omega) env

theorem sslShutdownCb (h : Owes s u d) (aborted : Bool) : Owes (s.sslShutdownCb aborted) u d := by
  unfold ServerSession.sslShutdownCb
  split
  · exact h
  · exact h.of_eq rfl rfl rfl rfl h.undisturbed

/-- **Every handler pays what its operation left owing.** -/
theorem handle {op : Operation} {e : Event} (h : Owes s op.isUp.toNat op.isDown.toNat)
    (he : e.operation = some op) (hallow : s.status.allows op = true)
    (hpay : s.status = .handshake → op.isBootstrap = true → s.payloads = 0)
    (hdown : s.status = .destroy → (∃ r, op = .udpResolve r) → s.downward = 0) (env : Env) :
    Owes (s.handle env e) 0 0 := by
  cases e with
  | start remoteEndpoint => exact absurd he (by simp [Event.operation])
  | tlsHandshake error =>
    obtain rfl := Option.some.inj he
    have hs : s.status = .handshake := Status.eq_handshake_of_allows hallow rfl
    exact tlsHandshaken h hs (hpay hs rfl) env error
  | plainHttpWrite =>
    obtain rfl := Option.some.inj he
    exact destroy h (by simp [Operation.isUp]) env
  | trustedFrontRead data granted =>
    obtain rfl := Option.some.inj he
    have hs : s.status = .handshake := Status.eq_handshake_of_allows hallow rfl
    cases data with
    | none => exact destroy h (by simp [Operation.isUp]) env
    | some data =>
      refine trustedFrontRecv ?_ ?_ ?_ env _ granted
      · exact h.of_eq rfl rfl rfl rfl h.undisturbed
      · exact hs
      · exact hpay hs rfl
  | inRead data granted =>
    obtain rfl := Option.some.inj he
    cases data with
    | none => exact destroy h (by simp [Operation.isUp]) env
    | some data =>
      refine inRecv ?_ ?_ env _ granted
      · exact h.of_eq rfl rfl rfl rfl h.undisturbed
      · exact fun hs => hpay hs rfl
  | inWrite data error =>
    obtain rfl := Option.some.inj he
    cases error with
    | true => exact destroy h (by simp [Operation.isDown]) env
    | false =>
      refine inSent h ?_
      intro hs
      rw [hs] at hallow
      simp [Status.allows, Operation.isBootstrap] at hallow
  | outRead data =>
    obtain rfl := Option.some.inj he
    have hs : s.status = .forward ∨ s.status = .destroy :=
      Status.forward_or_destroy_of_allows hallow rfl rfl
    cases data with
    | none => exact destroy h (by simp [Operation.isDown]) env
    | some data =>
      refine outRecv ?_ ?_ _
      · exact h.of_eq rfl rfl rfl rfl h.undisturbed
      · exact hs
  | outWrite data account error =>
    obtain rfl := Option.some.inj he
    have hs : s.status = .forward ∨ s.status = .destroy :=
      Status.forward_or_destroy_of_allows hallow rfl rfl
    cases error with
    | true => exact destroy h (by simp [Operation.isUp]) env
    | false =>
      cases account with
      | true =>
        refine outSent ?_ ?_
        · exact h.of_eq rfl rfl rfl rfl h.undisturbed
        · exact hs
      | false => exact outSent h hs
  | tcpResolve target results openError =>
    obtain rfl := Option.some.inj he
    have hs : s.status = .handshake := Status.eq_handshake_of_allows hallow rfl
    exact tcpResolved h hs env target results openError
  | tcpConnect target endpoint error =>
    obtain rfl := Option.some.inj he
    have hs : s.status = .handshake := Status.eq_handshake_of_allows hallow rfl
    exact tcpConnected h hs env error
  | udpResolve request results openError =>
    obtain rfl := Option.some.inj he
    have hs : s.status = .udpForward ∨ (s.status = .destroy ∧ s.downward = 0) :=
      (Status.udpForward_or_destroy_of_allows hallow rfl rfl).imp_right
        (fun hd => ⟨hd, hdown hd ⟨request, rfl⟩⟩)
    show Owes (s.udpResolved env request results openError) 0 0
    unfold udpResolved
    split
    · exact destroy h (by simp [Operation.isUp]) env
    · exact dispatchUdpPayload h hs env _ _ _ openError
  | udpSend data endpoint accounted error =>
    obtain rfl := Option.some.inj he
    have hs : s.status = .udpForward ∨ s.status = .destroy :=
      Status.udpForward_or_destroy_of_allows hallow rfl rfl
    cases error with
    | true => exact destroy h (by simp [Operation.isUp]) env
    | false =>
      show Owes (if accounted > 0 then _ else _) 0 0
      split
      · refine udpSent ?_ ?_ env
        · exact h.of_eq rfl rfl rfl rfl h.undisturbed
        · exact hs
      · exact udpSent h hs env
  | udpReceive received =>
    obtain rfl := Option.some.inj he
    have hs : s.status = .udpForward ∨ s.status = .destroy :=
      Status.udpForward_or_destroy_of_allows hallow rfl rfl
    rcases received with _ | ⟨data, endpoint⟩
    · exact destroy h (by simp [Operation.isDown]) env
    · refine udpRecv ?_ ?_ _ endpoint
      · exact h.of_eq rfl rfl rfl rfl h.undisturbed
      · exact hs
  | tlsShutdown aborted =>
    obtain rfl := Option.some.inj he
    exact h.sslShutdownCb aborted
  | shutdownTimer aborted =>
    obtain rfl := Option.some.inj he
    exact h.sslShutdownCb aborted

end Owes

/-- **A started session that owes nothing**: the invariant of the pump. -/
structure Pump (s : ServerSession) : Prop where
  owes : Owes s 0 0
  started : s.history ≠ []

theorem status_receives (s : ServerSession) (e : Event) : (s.receives e).status = s.status := by
  unfold receives
  split <;> rfl

theorem payloads_receives (s : ServerSession) (e : Event) :
    (s.receives e).payloads = s.payloads := by
  unfold receives
  split <;> rfl

/-- What is in the history stays there. -/
theorem mem_receives {s : ServerSession} {m : Mark Operation Buffer Note} (e : Event)
    (h : m ∈ s.history) : m ∈ (s.receives e).history := by
  unfold receives
  split
  · exact List.mem_cons_of_mem _ h
  · exact List.mem_cons_of_mem _ (List.mem_cons_of_mem _ h)

theorem accepts_iff {s : ServerSession} {e : Event} {op : Operation}
    (he : e.operation = some op) :
    s.accepts e = true ↔ op ∈ s.pending ∧ e.fits s = true := by
  simp [accepts, he]

/-- A step of a session that has been started completes an operation in
flight. -/
theorem exists_operation_of_step {env : Env} {s t : ServerSession} {e : Event}
    (hne : s.history ≠ []) (h : step env s e = some t) :
    ∃ op, e.operation = some op ∧ op ∈ s.pending ∧ e.fits s = true
      ∧ t = (s.receives e).handle env e := by
  unfold step at h
  split at h
  · rename_i hacc
    cases he : e.operation with
    | none =>
      rw [accepts, he] at hacc
      exact absurd (List.isEmpty_iff.mp hacc) hne
    | some op =>
      obtain ⟨hop, hfits⟩ := (accepts_iff he).mp hacc
      exact ⟨op, rfl, hop, hfits, (Option.some.inj h).symm⟩
  · exact absurd h (by simp)

/-- **A step of the pump.** -/
theorem Pump.step {env : Env} {s t : ServerSession} {e : Event} (h : Pump s)
    (hstep : ServerSession.step env s e = some t) : Pump t := by
  refine ⟨?_, fun hnil => ?_⟩
  · obtain ⟨op, he, hop, -, rfl⟩ := exists_operation_of_step h.started hstep
    have hrec := h.owes.receives he hop
    have hpay := payloads_receives s e
    refine hrec.handle he ?_ (fun hs hb => ?_) (fun hs ⟨r, hr⟩ => ?_) env
    · rw [status_receives]
      exact h.owes.allowed op hop
    · rw [hpay]
      exact h.owes.unread (status_receives s e ▸ hs) ⟨op, hop, hb⟩
    · -- the resolve was in flight, and so nothing was in flight downwards
      have hzero := (h.owes.atDestroy (status_receives s e ▸ hs)).2.2 ⟨r, hr ▸ hop⟩
      have hcount := countP_erase_add Operation.isDown hop
      have heq : (s.receives e).downward = (s.pending.erase op).countP Operation.isDown := by
        rw [receives, he]
        rfl
      rw [heq]
      change s.pending.countP Operation.isDown + 0 = 0 at hzero
      omega
  · obtain ⟨new, hnew, -⟩ := remembers_step hstep
    rw [hnil] at hnew
    exact absurd hnew (by simp)

/-! ### The course of a session -/

/-- The status is kept, or the session is destroyed. -/
def KeepsStatus (s t : ServerSession) : Prop := t.status = s.status ∨ t.status = .destroy

theorem keepsStatus_destroy (env : Env) (s : ServerSession) : KeepsStatus s (s.destroy env) :=
  .inr (status_destroy env s)

theorem keepsStatus_udpSent (env : Env) (s : ServerSession) : KeepsStatus s (s.udpSent env) := by
  unfold udpSent tryParseUdpPacket
  split
  · rcases ({} : UDPPacket).parse s.udpDataBuf with ⟨p, _ | n⟩
    · by_cases hlong : s.udpDataBuf.length > maxLength
      · simp only [if_pos hlong]
        exact keepsStatus_destroy env s
      · simp only [if_neg hlong]
        exact .inl rfl
    · exact .inl rfl
  · exact .inl rfl

theorem keepsStatus_dispatchUdpPayload (env : Env) (s : ServerSession) (payload : Bytes)
    (packetLength : ℕ) (endpoint : UdpEndpoint) (openError : Bool) :
    KeepsStatus s (s.dispatchUdpPayload env payload packetLength endpoint openError) := by
  have hensure : KeepsStatus s (s.ensureUdpSocketOpen env openError) := by
    unfold ensureUdpSocketOpen
    split
    · exact .inl rfl
    · split
      · exact keepsStatus_destroy env s
      · exact .inl rfl
  unfold dispatchUdpPayload
  dsimp only
  split
  · exact hensure
  · exact hensure

/-- **A session does not go back.** Once the handshake is over, a step keeps
the status or destroys the session. -/
theorem Pump.keepsStatus {env : Env} {s t : ServerSession} {e : Event} (h : Pump s)
    (hs : s.status ≠ .handshake) (hstep : ServerSession.step env s e = some t) :
    KeepsStatus s t := by
  obtain ⟨op, he, hop, -, rfl⟩ := exists_operation_of_step h.started hstep
  have hallow := h.owes.allowed op hop
  have hst := status_receives s e
  rw [← hst] at hs hallow
  show _ = s.status ∨ _
  rw [← hst]
  generalize s.receives e = r at hs hallow ⊢
  change KeepsStatus r _
  cases e with
  | start remoteEndpoint => exact absurd he (by simp [Event.operation])
  | tlsHandshake error =>
    obtain rfl := Option.some.inj he
    cases hr : r.status <;> simp [hr, Status.allows] at hallow hs
  | plainHttpWrite => exact keepsStatus_destroy env r
  | trustedFrontRead data granted =>
    obtain rfl := Option.some.inj he
    cases hr : r.status <;> simp [hr, Status.allows] at hallow hs
  | inRead data granted =>
    cases data with
    | none => exact keepsStatus_destroy env r
    | some data =>
      show KeepsStatus r (inRecv env _ data.length granted)
      unfold inRecv
      dsimp only
      split
      · rename_i hr
        exact absurd hr hs
      · exact .inl rfl
      · exact keepsStatus_udpSent env _
      · exact .inl rfl
  | inWrite data error =>
    cases error with
    | true => exact keepsStatus_destroy env r
    | false =>
      show KeepsStatus r r.inSent
      unfold inSent
      split <;> exact .inl rfl
  | outRead data =>
    cases data with
    | none => exact keepsStatus_destroy env r
    | some data =>
      show KeepsStatus r (outRecv _ data.length)
      unfold outRecv
      dsimp only
      split <;> exact .inl rfl
  | outWrite data account error =>
    have hsent {u : ServerSession} : KeepsStatus u u.outSent := by
      unfold outSent
      split <;> exact .inl rfl
    cases error with
    | true => exact keepsStatus_destroy env r
    | false =>
      cases account with
      | true => exact hsent
      | false => exact hsent
  | tcpResolve target results openError =>
    obtain rfl := Option.some.inj he
    cases hr : r.status <;> simp [hr, Status.allows] at hallow hs
  | tcpConnect target endpoint error =>
    obtain rfl := Option.some.inj he
    cases hr : r.status <;> simp [hr, Status.allows] at hallow hs
  | udpResolve request results openError =>
    show KeepsStatus r (r.udpResolved env request results openError)
    unfold udpResolved
    split
    · exact keepsStatus_destroy env r
    · exact keepsStatus_dispatchUdpPayload env r _ _ _ openError
  | udpSend data endpoint accounted error =>
    cases error with
    | true => exact keepsStatus_destroy env r
    | false =>
      show KeepsStatus r (if accounted > 0 then _ else _)
      split
      · exact keepsStatus_udpSent env _
      · exact keepsStatus_udpSent env r
  | udpReceive received =>
    rcases received with _ | ⟨data, endpoint⟩
    · exact keepsStatus_destroy env r
    · show KeepsStatus r (udpRecv _ data.length endpoint)
      unfold udpRecv
      dsimp only
      split <;> exact .inl rfl
  | tlsShutdown aborted =>
    show KeepsStatus r (r.sslShutdownCb aborted)
    unfold sslShutdownCb
    split <;> exact .inl rfl
  | shutdownTimer aborted =>
    show KeepsStatus r (r.sslShutdownCb aborted)
    unfold sslShutdownCb
    split <;> exact .inl rfl

/-- A session that has just been started is in order. -/
theorem pump_start (env : Env) (mode : BootstrapMode) (handoff : Option ExternalFrontHandoff)
    {remoteEndpoint : Option TcpEndpoint} {t : ServerSession}
    (h : ServerSession.step env (create mode handoff) (.start remoteEndpoint) = some t) :
    Pump t := by
  have ht : t = ((create mode handoff).receives (.start remoteEndpoint)).start env
      remoteEndpoint := (Option.some.inj h).symm
  -- before its start a session owes the first operation of its bootstrap
  have hfresh : Owes ((create mode handoff).receives (.start remoteEndpoint)) 1 0 := by
    refine ⟨?_, fun _ => ⟨rfl, rfl⟩, ?_, ?_, ?_, trivial, fun _ => rfl, Nat.zero_le 1, ?_⟩
    · intro op hop
      exact absurd hop List.not_mem_nil
    · exact fun hs => absurd hs (by simp [create, receives, Event.operation])
    · exact fun hs => absurd hs (by simp [create, receives, Event.operation])
    · exact fun hs => absurd hs (by simp [create, receives, Event.operation])
    · exact fun _ _ => rfl
  refine ⟨?_, fun hnil => ?_⟩
  · rw [ht]
    unfold ServerSession.start
    cases remoteEndpoint with
    | none =>
      refine Owes.destroy (u := 1) (d := 0) ?_ (by omega) env
      exact hfresh.of_eq rfl rfl rfl rfl hfresh.undisturbed
    | some endpoint =>
      dsimp only
      split
      · refine Owes.begins (u := 0) (d := 0) ?_ rfl (by simp) (fun _ _ => rfl)
        exact hfresh.of_eq rfl rfl rfl rfl hfresh.undisturbed
      · refine Owes.begins (u := 0) (d := 0) ?_ rfl (by simp) (fun _ _ => rfl)
        exact hfresh.of_eq rfl rfl rfl rfl hfresh.undisturbed
  · obtain ⟨new, hnew, -⟩ := remembers_step h
    rw [hnil] at hnew
    exact absurd hnew (by simp)

/-- **Every session that has been started is in order.** -/
theorem pump_run {env : Env} {mode : BootstrapMode} {handoff : Option ExternalFrontHandoff}
    {remoteEndpoint : Option TcpEndpoint} {es : List Event} {t : ServerSession}
    (h : Machine.run (ServerSession.step env) (create mode handoff)
      (.start remoteEndpoint :: es) = some t) : Pump t := by
  obtain ⟨u, hu, hrest⟩ := Machine.run_cons.mp h
  exact Machine.run_invariant (fun s e t hs hst => Pump.step hs hst)
    (pump_start env mode handoff hu) hrest

/-- The pump of a TCP relay from the client to its target. -/
def Operation.inForwardUp : Operation → Bool
  | inRead | outWrite _ _ => true
  | _ => false

/-- The pump of a TCP relay from the target to the client. -/
def Operation.inForwardDown : Operation → Bool
  | outRead | inWrite _ => true
  | _ => false

/-- The pump of a UDP relay from the client to its targets. -/
def Operation.inUdpUp : Operation → Bool
  | inRead | udpResolve _ | udpSend _ _ _ => true
  | _ => false

/-- The pump of a UDP relay from its targets to the client. -/
def Operation.inUdpDown : Operation → Bool
  | udpReceive | inWrite _ => true
  | _ => false

/-- In a status, an operation of a direction is one of that status's pump. -/
theorem Owes.countP_eq {s : ServerSession} {u d : ℕ} (h : Owes s u d) {p q : Operation → Bool}
    (hpq : ∀ op, s.status.allows op = true → p op = q op) :
    s.pending.countP p = s.pending.countP q :=
  List.countP_congr (fun op hop => by rw [hpq op (h.allowed op hop)])

/-- In the handshake, one operation is in flight: every operation it allows is
an upward one. -/
theorem Owes.length_pending {s : ServerSession} (h : Owes s 0 0) (hs : s.status = .handshake) :
    s.pending.length = 1 := by
  have hall : ∀ op ∈ s.pending, op.isUp = true := by
    intro op hop
    have hallow := h.allowed op hop
    rw [hs] at hallow
    cases op <;> first | rfl | simp [Status.allows, Operation.isBootstrap] at hallow
  rw [← List.countP_eq_length.mpr hall]
  exact (h.atHandshake hs).1

/-- **The pump discipline.** Take any run of a session from its start, with its
operations completing in any order, with success or error. In the handshake one
operation is in flight. A TCP relay has one in flight in each direction. A UDP
relay has one upwards and, once its socket is open, one downwards. At no point
of the run was a buffer modified while an operation in flight used it, and the
handshake payload was handled at most once. -/
theorem pump_discipline {env : Env} {mode : BootstrapMode}
    {handoff : Option ExternalFrontHandoff} {remoteEndpoint : Option TcpEndpoint}
    {es : List Event} {t : ServerSession}
    (h : Machine.run (ServerSession.step env) (create mode handoff)
      (.start remoteEndpoint :: es) = some t) :
    (t.status = .handshake → t.pending.length = 1)
      ∧ (t.status = .forward → t.pending.countP Operation.inForwardUp = 1
        ∧ t.pending.countP Operation.inForwardDown = 1)
      ∧ (t.status = .udpForward → t.pending.countP Operation.inUdpUp = 1
        ∧ (t.udpSocketOpen = true → t.pending.countP Operation.inUdpDown = 1))
      ∧ (∀ newer b older, t.history = newer ++ .modified b :: older →
        ∀ op ∈ Flight.inFlight older, op.buffer ≠ some b)
      ∧ t.payloads ≤ 1 := by
  have howes := (pump_run h).owes
  refine ⟨howes.length_pending, fun hs => ⟨?_, ?_⟩, fun hs => ⟨?_, fun hopen => ?_⟩,
    undisturbed_iff.mp howes.undisturbed, howes.once⟩
  · rw [howes.countP_eq (q := Operation.isUp) (fun op hop => ?_)]
    · exact (howes.atForward hs).1
    · rw [hs] at hop
      cases op <;> first | rfl | simp [Status.allows] at hop
  · rw [howes.countP_eq (q := Operation.isDown) (fun op hop => ?_)]
    · exact (howes.atForward hs).2
    · rw [hs] at hop
      cases op <;> first | rfl | simp [Status.allows] at hop
  · rw [howes.countP_eq (q := Operation.isUp) (fun op hop => ?_)]
    · exact (howes.atUdpForward hs).1
    · rw [hs] at hop
      cases op <;> first | rfl | simp [Status.allows] at hop
  · rw [howes.countP_eq (q := Operation.isDown) (fun op hop => ?_)]
    · have hdown := (howes.atUdpForward hs).2
      rwa [hopen, if_pos rfl] at hdown
    · rw [hs] at hop
      cases op <;> first | rfl | simp [Status.allows] at hop

/-- A server without passwords: every client is a stranger. -/
def strangerEnv : Env := { config := {}, readJson := fun _ => none }

/-- A stranger is connected to the fallback server, with its first byte on the
way. -/
def strangerEvents : List Event :=
  [.tlsHandshake none, .inRead (some [0]) true,
    .tcpResolve { isFallback := true } (some [.v4 (Vector.replicate 4 0)]) false,
    .tcpConnect { isFallback := true } (.v4 (Vector.replicate 4 0)) false]

/-- The pump of a stranger's relay. -/
theorem pump_discipline_forward :
    ∃ t : ServerSession, t.status = .forward
      ∧ t.pending.countP Operation.inForwardUp = 1
      ∧ t.pending.countP Operation.inForwardDown = 1 := by
  have hrun : (Machine.run (ServerSession.step strangerEnv) (create .standardTls none)
      (.start (some {}) :: strangerEvents)).any (fun t => t.status = .forward) = true := by
    decide +kernel
  obtain ⟨t, ht, hs⟩ := Option.any_eq_true _ _ |>.mp hrun
  exact ⟨t, of_decide_eq_true hs, (pump_discipline ht).2.1 (of_decide_eq_true hs)⟩

end ServerSession
