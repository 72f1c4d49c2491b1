import Trojan.FallbackController
import Trojan.ServerPump

/-!
# The fallback budget

The fallback slots of a service pass through many hands: a session asks for one
when the gate has sent it to the fallback server, remembers in a flag that it
holds one, and gives it back when it is destroyed – on whichever of its many
ways to fail. The controller only counts.

What a session does with its slot is read off its history
(`ServerSession.slotCalls`), and there are only four courses that can take
(`ServerSession.SlotCourse`): it never asks, it is refused, it holds a slot, it
has given it back. The sessions of a service, with the controller they share,
are the machine of `FallbackBudget.step`, and `FallbackBudget.budget_kept` is
the law of that machine.
-/

namespace ServerSession

open Flight

/-- The event, with the service's answer in place of the one it has. -/
def Event.answered (granted : Bool) : Event → Event
  | trustedFrontRead data _ => trustedFrontRead data granted
  | inRead data _ => inRead data granted
  | e => e

@[simp] theorem Event.operation_answered (granted : Bool) (e : Event) :
    (e.answered granted).operation = e.operation := by
  cases e <;> rfl

/-- The calls of a session to the fallback controller. -/
inductive SlotCall where
  | ask (granted : Bool)
  | release
  deriving DecidableEq, Repr

/-- The call that a mark records. -/
def slotCall : Mark Operation Buffer Note → List SlotCall
  | .noted (.fallbackSlot granted) => [.ask granted]
  | .noted .releasedFallbackSlot => [.release]
  | _ => []

/-- **What a session has asked of the fallback controller**, in the order of
time. -/
def slotCalls (s : ServerSession) : List SlotCall := collect slotCall s.history

/-- The session has authenticated. -/
def HasAuthenticated (s : ServerSession) : Prop := .noted .authSuccess ∈ s.history

/-- The marks that have nothing to do with slots: no call, no payload, no
authentication. -/
def isPlain : Mark Operation Buffer Note → Bool
  | .noted (.fallbackSlot _) | .noted .releasedFallbackSlot => false
  | .noted (.handshakePayload _) | .noted .authSuccess => false
  | _ => true

/-- **The courses a slot can take**: the calls of the session, its flag, and
its status. -/
inductive SlotCourse : List SlotCall → Bool → Status → Prop
  | idle (status : Status) : SlotCourse [] false status
  | refused : SlotCourse [.ask false] false .destroy
  | held {status : Status} (h : status ≠ .destroy) : SlotCourse [.ask true] true status
  | returned : SlotCourse [.ask true, .release] false .destroy

/-- **A session is in order with its slot.** It is on one of the courses, its
last calls were answered with `granted`, and before it has looked at a payload,
or if it authenticates, it asks for nothing. -/
structure Slotted (granted : Bool) (old : List SlotCall) (s : ServerSession) : Prop where
  course : SlotCourse s.slotCalls s.fallbackSlotAcquired s.status
  answered : ∃ new, s.slotCalls = old ++ new ∧ ∀ b, .ask b ∈ new → b = granted
  honest : s.HasAuthenticated → s.slotCalls = []
  unread : s.payloads = 0 → s.slotCalls = [] ∧ ¬ s.HasAuthenticated

/-- Plain marks are no calls, no payloads and no authentications. -/
theorem slotCalls_of_plain {s t : ServerSession} {new : History}
    (ht : t.history = new ++ s.history) (hplain : ∀ m ∈ new, isPlain m = true) :
    t.slotCalls = s.slotCalls ∧ t.payloads = s.payloads
      ∧ (t.HasAuthenticated ↔ s.HasAuthenticated) := by
  refine ⟨?_, ?_, ?_⟩
  · rw [slotCalls, ht, collect_append_of_silent, ← slotCalls]
    intro m hm
    have hm' := hplain m hm
    unfold slotCall
    split
    · exact absurd hm' (by simp [isPlain])
    · exact absurd hm' (by simp [isPlain])
    · rfl
  · rw [payloads, ht, List.countP_append, List.countP_eq_zero.mpr, Nat.zero_add, ← payloads]
    intro m hm hp
    have hm' := hplain m hm
    unfold isPayload at hp
    split at hp
    · exact absurd hm' (by simp [isPlain])
    · exact absurd hp (by simp)
  · unfold HasAuthenticated
    rw [ht, List.mem_append]
    refine or_iff_right (fun hm => ?_)
    exact absurd (hplain _ hm) (by simp [isPlain])

/-- **Of a destruction, only the release of the slot concerns slots.** -/
theorem slotCalls_destroy (env : Env) {s : ServerSession} (h : s.status ≠ .destroy) :
    (s.destroy env).slotCalls
        = s.slotCalls ++ (if s.fallbackSlotAcquired then [.release] else [])
      ∧ (s.destroy env).payloads = s.payloads
      ∧ ((s.destroy env).HasAuthenticated ↔ s.HasAuthenticated) := by
  have hhist : (s.destroy env).history = s.farewell env ++ s.history := by
    rw [destroy_eq env s h]
  refine ⟨?_, ?_, ?_⟩
  · rw [slotCalls, hhist, slotCalls]
    unfold farewell farewellNotes usageNotes releaseNotes farewellOperations
    split <;> split <;> split <;> split <;> simp [slotCall]
  · rw [payloads, hhist, List.countP_append, List.countP_eq_zero.mpr, Nat.zero_add, payloads]
    unfold farewell farewellNotes usageNotes releaseNotes farewellOperations
    split <;> split <;> split <;> split <;> simp [isPayload]
  · unfold HasAuthenticated
    rw [hhist, List.mem_append]
    refine or_iff_right ?_
    unfold farewell farewellNotes usageNotes releaseNotes farewellOperations
    split <;> split <;> split <;> split <;> simp

namespace Slotted

variable {granted : Bool} {old : List SlotCall} {s : ServerSession}

/-- **What has nothing to do with slots** leaves them in order. -/
theorem marks {t : ServerSession} (h : Slotted granted old s) (new : History)
    (ht : t.history = new ++ s.history) (hplain : ∀ m ∈ new, isPlain m = true)
    (hflag : t.fallbackSlotAcquired = s.fallbackSlotAcquired)
    (hstatus : t.status = s.status ∨ (s.status ≠ .destroy ∧ t.status ≠ .destroy)) :
    Slotted granted old t := by
  obtain ⟨hcalls, hpay, hauth⟩ := slotCalls_of_plain ht hplain
  refine ⟨?_, hcalls ▸ h.answered, fun ha => hcalls ▸ h.honest (hauth.mp ha), fun hp => ?_⟩
  · rw [hcalls, hflag]
    rcases hstatus with hst | ⟨hs, hst⟩
    · rw [hst]
      exact h.course
    · -- only a slot that is held, or was never asked for, can be there
      have hcourse := h.course
      generalize s.slotCalls = calls, s.fallbackSlotAcquired = flag, s.status = status
        at hcourse hs ⊢
      cases hcourse with
      | idle => exact .idle _
      | refused => exact absurd rfl hs
      | held _ => exact .held hst
      | returned => exact absurd rfl hs
  · rw [hcalls]
    obtain ⟨hnil, hnot⟩ := h.unread (hpay ▸ hp)
    exact ⟨hnil, fun ha => hnot (hauth.mp ha)⟩

/-- **Being destroyed gives back the slot**, if the session holds one. -/
theorem destroy (h : Slotted granted old s) (env : Env) : Slotted granted old (s.destroy env) := by
  by_cases hd : s.status = .destroy
  · rw [destroy_of_destroy env s hd]
    exact h
  have hflag : (s.destroy env).fallbackSlotAcquired = false := by rw [destroy_eq env s hd]
  obtain ⟨hcalls, hpay, hauth⟩ := slotCalls_destroy env hd
  obtain ⟨new, hnew, hans⟩ := h.answered
  have hcourse := h.course
  cases hheld : s.fallbackSlotAcquired with
  | false =>
    rw [hheld, if_neg Bool.false_ne_true, List.append_nil] at hcalls
    refine ⟨?_, ⟨new, hcalls.trans hnew, hans⟩, fun ha => hcalls ▸ h.honest (hauth.mp ha),
      fun hp => ?_⟩
    · rw [hcalls, hflag, status_destroy]
      rw [hheld] at hcourse
      generalize s.slotCalls = calls, s.status = status at hcourse hd ⊢
      cases hcourse with
      | idle => exact .idle _
      | refused => exact .refused
      | returned => exact .returned
    · rw [hcalls]
      obtain ⟨hnil, hnot⟩ := h.unread (hpay ▸ hp)
      exact ⟨hnil, fun ha => hnot (hauth.mp ha)⟩
  | true =>
    rw [hheld, if_pos rfl] at hcalls
    have hasked : s.slotCalls = [.ask true] := by
      rw [hheld] at hcourse
      generalize s.slotCalls = calls, s.status = status at hcourse ⊢
      cases hcourse with
      | held _ => rfl
    refine ⟨?_, ⟨new ++ [.release], ?_, ?_⟩, fun ha => ?_, fun hp => ?_⟩
    · rw [hcalls, hasked, hflag, status_destroy]
      exact .returned
    · rw [hcalls, hnew, List.append_assoc]
    · intro b hb
      rcases List.mem_append.mp hb with hb | hb
      · exact hans b hb
      · exact absurd hb (by simp)
    · -- a session that authenticated has asked for nothing
      have hnil := h.honest (hauth.mp ha)
      rw [hasked] at hnil
      exact absurd hnil (by simp)
    · have hnil := (h.unread (hpay ▸ hp)).1
      rw [hasked] at hnil
      exact absurd hnil (by simp)

/-- **Asking for a slot.** A stranger that has asked for nothing yet is granted
a slot and holds it, or is refused and destroyed. -/
theorem asks (h : Slotted granted old s) (hnil : s.slotCalls = []) (hauth : ¬ s.HasAuthenticated)
    (hpay : s.payloads ≠ 0) (hs : s.status ≠ .destroy) (env : Env) (target : ConnectTarget) :
    Slotted granted old (s.connectOutbound env target true granted) := by
  obtain ⟨new, hnew, -⟩ := h.answered
  obtain ⟨rfl, rfl⟩ := List.append_eq_nil_iff.mp (hnew.symm.trans hnil)
  have hasked : (s.tryAcquireFallbackSlot granted).slotCalls = [.ask granted] := by
    show s.slotCalls ++ [_] = _
    rw [hnil, List.nil_append]
  have hauth' : ¬ (s.tryAcquireFallbackSlot granted).HasAuthenticated := by
    intro ha
    rcases List.mem_cons.mp ha with ha | ha
    · exact absurd ha (by simp)
    · exact hauth ha
  have hans : ∃ new, [SlotCall.ask granted] = [] ++ new ∧ ∀ b, .ask b ∈ new → b = granted :=
    ⟨[.ask granted], rfl, fun b hb => by simpa using hb⟩
  unfold ServerSession.connectOutbound
  rw [if_pos rfl]
  dsimp only
  cases granted with
  | true =>
    rw [if_pos rfl]
    have hcalls : ((s.tryAcquireFallbackSlot true).begins (.tcpResolve target)).slotCalls
        = [.ask true] := (List.append_nil _).trans hasked
    refine ⟨?_, ?_, fun ha => ?_, fun hp => absurd hp hpay⟩
    · rw [hcalls]
      exact .held hs
    · rw [hcalls]
      exact hans
    · rcases List.mem_cons.mp ha with ha | ha
      · exact absurd ha (by simp)
      · exact absurd ha hauth'
  | false =>
    rw [if_neg Bool.false_ne_true]
    have hs' : (s.tryAcquireFallbackSlot false).status ≠ .destroy := hs
    obtain ⟨hcalls, hpay', ha'⟩ := slotCalls_destroy env hs'
    have hflag : ((s.tryAcquireFallbackSlot false).destroy env).fallbackSlotAcquired = false := by
      rw [destroy_eq env _ hs']
    rw [hasked, if_neg (by simp [tryAcquireFallbackSlot]), List.append_nil] at hcalls
    refine ⟨?_, ?_, fun ha => absurd (ha'.mp ha) hauth', fun hp => absurd (hpay' ▸ hp) hpay⟩
    · rw [hcalls, hflag, status_destroy]
      exact .refused
    · rw [hcalls]
      exact hans

/-! ### The handlers keep the slot in order -/

theorem udpSent (h : Slotted granted old s) (env : Env) : Slotted granted old (s.udpSent env) := by
  unfold ServerSession.udpSent tryParseUdpPacket
  split
  · rcases ({} : UDPPacket).parse s.udpDataBuf with ⟨p, _ | n⟩
    · by_cases hlong : s.udpDataBuf.length > maxLength
      · simp only [if_pos hlong]
        exact h.destroy env
      · simp only [if_neg hlong]
        exact h.marks [_] rfl (by simp [isPlain]) rfl (.inl rfl)
    · exact h.marks [_] rfl (by simp [isPlain]) rfl (.inl rfl)
  · exact h

theorem dispatchUdpPayload (h : Slotted granted old s) (env : Env) (payload : Bytes)
    (packetLength : ℕ) (endpoint : UdpEndpoint) (openError : Bool) :
    Slotted granted old (s.dispatchUdpPayload env payload packetLength endpoint openError) := by
  have hensure : Slotted granted old (s.ensureUdpSocketOpen env openError) := by
    unfold ensureUdpSocketOpen
    split
    · exact h
    · split
      · exact h.destroy env
      · exact h.marks [_, _] rfl (by simp [isPlain]) rfl (.inl rfl)
  unfold ServerSession.dispatchUdpPayload
  dsimp only
  split
  · exact hensure
  · exact hensure.marks [_, _] rfl (by simp [isPlain]) rfl (.inl rfl)

theorem executePlan (h : Slotted granted old s) (hs : s.status = .handshake) (env : Env)
    (plan : RelayExecutionPlan)
    (hslot : plan.requiresFallbackSlot = true →
      s.slotCalls = [] ∧ ¬ s.HasAuthenticated ∧ s.payloads ≠ 0) :
    Slotted granted old (s.executePlan env plan granted) := by
  unfold ServerSession.executePlan
  split
  · refine udpSent ?_ env
    exact h.marks [] rfl (by simp) rfl (.inr ⟨by simp [hs], by simp⟩)
  · have hplan : Slotted granted old { s with outWriteBuf := plan.initialOutboundPayload } :=
      h.marks [] rfl (by simp) rfl (.inl rfl)
    cases hreq : plan.requiresFallbackSlot with
    | true =>
      obtain ⟨hnil, hauth, hpay⟩ := hslot hreq
      exact hplan.asks hnil hauth hpay (by simp [hs]) env plan.target
    | false => exact hplan.marks [_] rfl (by simp [isPlain]) rfl (.inl rfl)
  · refine destroy ?_ env
    exact h.marks [] rfl (by simp) rfl (.inl rfl)

/-- **The handshake payload.** A session that authenticates needs no slot, and
one that does not has not asked for any yet. -/
theorem handleHandshakePayload (h : Slotted granted old s) (hs : s.status = .handshake)
    (hpay : s.payloads = 0) (env : Env) (data : Bytes) :
    Slotted granted old (s.handleHandshakePayload env data granted) := by
  obtain ⟨hnil, hauth⟩ := h.unread hpay
  obtain ⟨context, hgate⟩ := exists_gateResult env (s.notes (.handshakePayload data)) data
  unfold ServerSession.handleHandshakePayload
  simp only [hgate]
  have hcarries := SessionGate.planCarries_evaluate env.config env.auth ⟨context, data⟩
  generalize SessionGate.evaluate env.config env.auth ⟨context, data⟩ = decision at hcarries ⊢
  -- looking at the payload, and applying the result, makes no call
  have hmarks : ∃ new : History, ((s.notes (.handshakePayload data)).applyAuthResult
        decision).history = new ++ .noted (.handshakePayload data) :: s.history
      ∧ (∀ m ∈ new, isPlain m = true ∨ (m = .noted .authSuccess ∧ decision.authenticated = true))
      := by
    unfold applyAuthResult
    split
    · rename_i hd
      rw [Bool.and_eq_true] at hd
      split
      · exact ⟨[_], rfl, by simp [hd.2]⟩
      · exact ⟨[_], rfl, by simp [hd.2]⟩
    · split
      · exact ⟨[_], rfl, by simp [isPlain]⟩
      · exact ⟨[], rfl, by simp⟩
  have hkeep : ((s.notes (.handshakePayload data)).applyAuthResult decision).status = .handshake
      ∧ ((s.notes (.handshakePayload data)).applyAuthResult decision).fallbackSlotAcquired
        = s.fallbackSlotAcquired := by
    unfold applyAuthResult
    split
    · split <;> exact ⟨hs, rfl⟩
    · split <;> exact ⟨hs, rfl⟩
  generalize (s.notes (.handshakePayload data)).applyAuthResult decision = u at hmarks hkeep ⊢
  obtain ⟨new, hnew, hplain⟩ := hmarks
  have hcalls : u.slotCalls = [] := by
    rw [slotCalls, hnew, collect_append_of_silent]
    · exact (List.append_nil _).trans hnil
    · intro m hm
      rcases hplain m hm with hm' | ⟨rfl, -⟩
      · unfold slotCall
        split
        · exact absurd hm' (by simp [isPlain])
        · exact absurd hm' (by simp [isPlain])
        · rfl
      · rfl
  have hread : u.payloads ≠ 0 := by
    have hpos : 0 < u.history.countP isPayload := by
      refine List.countP_pos_iff.mpr ⟨.noted (.handshakePayload data), ?_, rfl⟩
      rw [hnew]
      exact List.mem_append_right _ List.mem_cons_self
    exact Nat.pos_iff_ne_zero.mp hpos
  have hstranger : decision.authenticated = false → ¬ u.HasAuthenticated := by
    intro hd ha
    unfold HasAuthenticated at ha
    rw [hnew] at ha
    rcases List.mem_append.mp ha with ha | ha
    · rcases hplain _ ha with ha | ⟨-, ha⟩
      · exact absurd ha (by simp [isPlain])
      · exact absurd (hd.symm.trans ha) (by simp)
    · rcases List.mem_cons.mp ha with ha | ha
      · exact absurd ha (by simp)
      · exact hauth ha
  have hslotted : Slotted granted old u := by
    obtain ⟨rest, hrest, hans⟩ := h.answered
    refine ⟨?_, ⟨rest, by rw [hcalls, ← hnil, hrest], hans⟩, fun _ => hcalls,
      fun hp => absurd hp hread⟩
    have hcourse := h.course
    rw [hnil] at hcourse
    rw [hcalls, hkeep.2]
    generalize s.fallbackSlotAcquired = flag, s.status = status at hcourse ⊢
    cases hcourse with
    | idle => exact .idle _
  refine hslotted.executePlan hkeep.1 env _ (fun hreq => ⟨hcalls, ?_, hread⟩)
  cases hd : decision.authenticated with
  | true => exact absurd (hreq.symm.trans (hcarries.authenticated hd).2) (by simp)
  | false => exact hstranger hd

theorem tlsHandshaken (h : Slotted granted old s) (env : Env) (error : Option Bytes) :
    Slotted granted old (s.tlsHandshaken env error) := by
  unfold ServerSession.tlsHandshaken
  split
  · exact h.marks [_] rfl (by simp [isPlain]) rfl (.inl rfl)
  · exact h.destroy env
  · exact h.marks [_] rfl (by simp [isPlain]) rfl (.inl rfl)
  · split
    · exact h.marks [_] rfl (by simp [isPlain]) rfl (.inl rfl)
    · exact h.destroy env

theorem trustedFrontRecv (h : Slotted granted old s) (hs : s.status = .handshake)
    (hpay : s.payloads = 0) (env : Env) (length : ℕ) :
    Slotted granted old (s.trustedFrontRecv env length granted) := by
  unfold ServerSession.trustedFrontRecv
  dsimp only
  split
  · refine handleHandshakePayload ?_ ?_ ?_ env _
    · exact h.marks [] rfl (by simp) rfl (.inl rfl)
    · exact hs
    · exact hpay
  · split
    · exact h.marks [_] rfl (by simp [isPlain]) rfl (.inl rfl)
    · refine destroy ?_ env
      exact h.marks [] rfl (by simp) rfl (.inl rfl)

theorem inRecv (h : Slotted granted old s) (hpay : s.status = .handshake → s.payloads = 0)
    (env : Env) (length : ℕ) : Slotted granted old (s.inRecv env length granted) := by
  unfold ServerSession.inRecv
  dsimp only
  split
  · rename_i hs
    refine handleHandshakePayload ?_ ?_ ?_ env _
    · exact h.marks [_] rfl (by simp [isPlain]) rfl (.inl rfl)
    · exact hs
    · exact hpay hs
  · exact h.marks [_, _, _] rfl (by simp [isPlain]) rfl (.inl rfl)
  · refine udpSent ?_ env
    exact h.marks [_] rfl (by simp [isPlain]) rfl (.inl rfl)
  · exact h.marks [_] rfl (by simp [isPlain]) rfl (.inl rfl)

theorem inSent (h : Slotted granted old s) : Slotted granted old s.inSent := by
  unfold ServerSession.inSent
  split
  · exact h.marks [_] rfl (by simp [isPlain]) rfl (.inl rfl)
  · exact h.marks [_] rfl (by simp [isPlain]) rfl (.inl rfl)
  · exact h

theorem outRecv (h : Slotted granted old s) (length : ℕ) : Slotted granted old (s.outRecv length) := by
  unfold ServerSession.outRecv
  dsimp only
  split
  · exact h.marks [_, _, _] rfl (by simp [isPlain]) rfl (.inl rfl)
  · exact h.marks [_] rfl (by simp [isPlain]) rfl (.inl rfl)

theorem outSent (h : Slotted granted old s) : Slotted granted old s.outSent := by
  unfold ServerSession.outSent
  split
  · exact h.marks [_] rfl (by simp [isPlain]) rfl (.inl rfl)
  · exact h

theorem tcpResolved (h : Slotted granted old s) (env : Env) (target : ConnectTarget)
    (results : Option (List IpAddress)) (openError : Bool) :
    Slotted granted old (s.tcpResolved env target results openError) := by
  unfold ServerSession.tcpResolved
  split
  · exact h.destroy env
  · split
    · exact h.destroy env
    · exact h.marks [_, _] rfl (by simp [isPlain]) rfl (.inl rfl)

theorem tcpConnected (h : Slotted granted old s) (hs : s.status = .handshake) (env : Env)
    (error : Bool) : Slotted granted old (s.tcpConnected env error) := by
  unfold ServerSession.tcpConnected
  split
  · exact h.destroy env
  · dsimp only
    split
    · exact h.marks [_, _, _, _] rfl (by simp [isPlain]) rfl (.inr ⟨by simp [hs], by
        simp [outAsyncWrite, outAsyncWriteBuffer, outAsyncRead]⟩)
    · exact h.marks [_, _, _] rfl (by simp [isPlain]) rfl (.inr ⟨by simp [hs], by
        simp [inAsyncRead, outAsyncRead]⟩)

theorem udpResolved (h : Slotted granted old s) (env : Env) (request : UdpDispatchRequest)
    (results : Option (List UdpEndpoint)) (openError : Bool) :
    Slotted granted old (s.udpResolved env request results openError) := by
  unfold ServerSession.udpResolved
  split
  · exact h.destroy env
  · exact h.dispatchUdpPayload env _ _ _ openError

theorem udpRecv (h : Slotted granted old s) (length : ℕ) (endpoint : UdpEndpoint) :
    Slotted granted old (s.udpRecv length endpoint) := by
  unfold ServerSession.udpRecv
  dsimp only
  split
  · exact h.marks [_, _, _] rfl (by simp [isPlain]) rfl (.inl rfl)
  · exact h.marks [_] rfl (by simp [isPlain]) rfl (.inl rfl)

theorem sslShutdownCb (h : Slotted granted old s) (aborted : Bool) :
    Slotted granted old (s.sslShutdownCb aborted) := by
  unfold ServerSession.sslShutdownCb
  split
  · exact h
  · exact h.marks [] rfl (by simp) rfl (.inl rfl)

/-- **A handler keeps the slot in order**, when the answer it is given is the
controller's. -/
theorem handle (h : Slotted granted old s) {e : Event} {op : Operation}
    (he : e.operation = some op) (hallow : s.status.allows op = true)
    (hpay : s.status = .handshake → op.isBootstrap = true → s.payloads = 0) (env : Env) :
    Slotted granted old (s.handle env (e.answered granted)) := by
  -- what a completed operation brings, a buffer or a count, is nothing to the slot
  have hbrings {t : ServerSession} (hhistory : t.history = s.history)
      (hflag : t.fallbackSlotAcquired = s.fallbackSlotAcquired) (hst : t.status = s.status) :
      Slotted granted old t := by
    exact h.marks [] hhistory (by simp) hflag (.inl hst)
  cases e with
  | start remoteEndpoint => exact absurd he (by simp [Event.operation])
  | tlsHandshake error => exact h.tlsHandshaken env error
  | plainHttpWrite => exact h.destroy env
  | trustedFrontRead data _ =>
    obtain rfl := Option.some.inj he
    have hs : s.status = .handshake := Status.eq_handshake_of_allows hallow rfl
    cases data with
    | none => exact h.destroy env
    | some data =>
      refine trustedFrontRecv ?_ ?_ ?_ env data.length
      · exact hbrings rfl rfl rfl
      · exact hs
      · exact hpay hs rfl
  | inRead data _ =>
    obtain rfl := Option.some.inj he
    cases data with
    | none => exact h.destroy env
    | some data =>
      refine inRecv ?_ ?_ env data.length
      · exact hbrings rfl rfl rfl
      · exact fun hs => hpay hs rfl
  | inWrite data error =>
    cases error with
    | true => exact h.destroy env
    | false => exact h.inSent
  | outRead data =>
    cases data with
    | none => exact h.destroy env
    | some data =>
      refine outRecv ?_ data.length
      exact hbrings rfl rfl rfl
  | outWrite data account error =>
    cases error with
    | true => exact h.destroy env
    | false =>
      cases account with
      | true =>
        refine outSent ?_
        exact hbrings rfl rfl rfl
      | false => exact h.outSent
  | tcpResolve target results openError => exact h.tcpResolved env target results openError
  | tcpConnect target endpoint error =>
    obtain rfl := Option.some.inj he
    have hs : s.status = .handshake := Status.eq_handshake_of_allows hallow rfl
    exact h.tcpConnected hs env error
  | udpResolve request results openError => exact h.udpResolved env request results openError
  | udpSend data endpoint accounted error =>
    cases error with
    | true => exact h.destroy env
    | false =>
      show Slotted granted old (if accounted > 0 then _ else _)
      split
      · refine udpSent ?_ env
        exact hbrings rfl rfl rfl
      · exact h.udpSent env
  | udpReceive received =>
    rcases received with _ | ⟨data, endpoint⟩
    · exact h.destroy env
    · refine udpRecv ?_ data.length endpoint
      exact hbrings rfl rfl rfl
  | tlsShutdown aborted => exact h.sslShutdownCb aborted
  | shutdownTimer aborted => exact h.sslShutdownCb aborted

end Slotted

/-- **A session of a service**: as it was created, or started, with its pump
and its slot in order. -/
def InOrder (s : ServerSession) : Prop :=
  (∃ mode handoff, s = create mode handoff) ∨ (Pump s ∧ ∃ granted old, Slotted granted old s)

/-- What a session owes the fallback controller, it owes whatever the answers
will be. -/
theorem Slotted.since {granted : Bool} {old : List SlotCall} {s : ServerSession}
    (h : Slotted granted old s) (granted' : Bool) : Slotted granted' s.slotCalls s :=
  ⟨h.course, ⟨[], (List.append_nil _).symm, fun _ hb => absurd hb List.not_mem_nil⟩,
    h.honest, h.unread⟩

/-- A session that has just been started has made no call. -/
theorem slotted_start (granted : Bool) (env : Env) (mode : BootstrapMode)
    (handoff : Option ExternalFrontHandoff) {remoteEndpoint : Option TcpEndpoint}
    {t : ServerSession}
    (h : step env (create mode handoff) (.start remoteEndpoint) = some t) :
    Slotted granted [] t := by
  have hfresh : Slotted granted [] ((create mode handoff).receives (.start remoteEndpoint)) :=
    ⟨.idle _, ⟨[], rfl, fun _ hb => absurd hb List.not_mem_nil⟩, fun _ => rfl,
      fun _ => ⟨rfl, by simp [HasAuthenticated, receives, Event.operation, create]⟩⟩
  have ht : t = ((create mode handoff).receives (.start remoteEndpoint)).start env
      remoteEndpoint := (Option.some.inj h).symm
  rw [ht]
  unfold ServerSession.start
  cases remoteEndpoint with
  | none =>
    refine Slotted.destroy ?_ env
    exact hfresh.marks [] rfl (by simp) rfl (.inl rfl)
  | some endpoint =>
    dsimp only
    split
    · exact hfresh.marks [_] rfl (by simp [isPlain]) rfl (.inl rfl)
    · exact hfresh.marks [_] rfl (by simp [isPlain]) rfl (.inl rfl)

/-- **A step of a session** with the controller's answer keeps it in order, and
what it asks meanwhile is answered so. -/
theorem InOrder.step {env : Env} {s t : ServerSession} {e : Event} {granted : Bool}
    (h : InOrder s) (hstep : ServerSession.step env s (e.answered granted) = some t) :
    Pump t ∧ Slotted granted s.slotCalls t := by
  rcases h with ⟨mode, handoff, rfl⟩ | ⟨hp, _, _, hs⟩
  · -- nothing is in flight before the start
    cases e with
    | start remoteEndpoint =>
      exact ⟨pump_start env mode handoff hstep, slotted_start granted env mode handoff hstep⟩
    | _ => exact absurd hstep (by simp [ServerSession.step, accepts, Event.answered,
        Event.operation, pending, create])
  · refine ⟨hp.step hstep, ?_⟩
    obtain ⟨op, he, hop, -, rfl⟩ := exists_operation_of_step hp.started hstep
    have hst := status_receives s (e.answered granted)
    refine Slotted.handle ?_ (e.operation_answered granted ▸ he) ?_ (fun hh hb => ?_) env
    · have hsince := hs.since granted
      unfold receives
      split
      · exact hsince.marks [_] rfl (by simp [isPlain]) rfl (.inl rfl)
      · exact hsince.marks [_, _] rfl (by simp [isPlain]) rfl (.inl rfl)
    · rw [hst]
      exact hp.owes.allowed op hop
    · rw [payloads_receives]
      exact hp.owes.unread (hst ▸ hh) ⟨op, hop, hb⟩

end ServerSession

/-! ## The sessions of a service -/

open ServerSession

/-- **The sessions of a service, and the metrics they share.** -/
structure FallbackBudget where
  runtimeMetrics : RuntimeMetrics := {}
  sessions : List ServerSession := []

namespace FallbackBudget

/-- What can happen: a session is created, or something happens to a session,
which is given by its place. -/
inductive Event where
  | created (mode : BootstrapMode) (handoff : Option ExternalFrontHandoff)
  | session (i : ℕ) (e : ServerSession.Event)

/-- A call of a session to `Service::record_fallback_connection` or
`Service::release_fallback_slot`, at the controller. -/
def call (config : AbuseControlConfig) (m : RuntimeMetrics) : SlotCall → RuntimeMetrics
  | .ask _ => (FallbackController.tryAcquireSlot config m).2
  | .release => FallbackController.releaseSlot m

variable (config : AbuseControlConfig) (env : ℕ → Env)

/-- **One step of the service.** The handler that runs is answered by the
controller, and the calls it makes, which are the new ones of its session, go
to the controller. -/
def step (b : FallbackBudget) : Event → Option FallbackBudget
  | .created mode handoff => some { b with sessions := b.sessions ++ [create mode handoff] }
  | .session i e => do
    let s ← b.sessions[i]?
    let granted := (FallbackController.tryAcquireSlot config b.runtimeMetrics).1
    let t ← ServerSession.step (env i) s (e.answered granted)
    some
      { runtimeMetrics :=
          (t.slotCalls.drop s.slotCalls.length).foldl (call config) b.runtimeMetrics
        sessions := b.sessions.set i t }

/-- The sessions that hold a slot. -/
def holders (b : FallbackBudget) : ℕ := b.sessions.countP (·.fallbackSlotAcquired)

/-- **The invariant**: every session is in order, the controller counts the
sessions that hold a slot, and a limited budget is not exceeded. -/
structure Kept (b : FallbackBudget) : Prop where
  inOrder : ∀ s ∈ b.sessions, s.InOrder
  counted : b.runtimeMetrics.activeFallbackSessions = b.holders
  bounded : FallbackController.isLimited config = true →
    b.runtimeMetrics.activeFallbackSessions ≤ config.fallbackMaxActive.toNat

variable {config}

/-- **The calls of a step, at the controller**: it counts one more if the
session now holds a slot, and one less if it no longer does. -/
theorem foldl_call {m : RuntimeMetrics} {old calls new : List SlotCall} {flag flag' : Bool}
    {status status' : Status} (hs : SlotCourse old flag status)
    (ht : SlotCourse calls flag' status') (hnew : calls = old ++ new)
    (hans : ∀ b, .ask b ∈ new → b = (FallbackController.tryAcquireSlot config m).1)
    (hpos : flag = true → 0 < m.activeFallbackSessions) :
    (new.foldl (call config) m).activeFallbackSessions + flag.toNat
        = m.activeFallbackSessions + flag'.toNat
      ∧ (FallbackController.isLimited config = true →
        m.activeFallbackSessions ≤ config.fallbackMaxActive.toNat →
        (new.foldl (call config) m).activeFallbackSessions
          ≤ config.fallbackMaxActive.toNat) := by
  have hasks : (FallbackController.tryAcquireSlot config m).2.activeFallbackSessions = _ ∧ _ :=
    FallbackController.active_tryAcquireSlot
  -- a course goes on to itself, or from the first to any, or from the held slot to its return
  cases hs with
  | idle =>
    rw [List.nil_append] at hnew
    subst hnew
    cases ht with
    | idle => exact ⟨rfl, fun _ hle => hle⟩
    | refused =>
      rw [← hans false List.mem_cons_self] at hasks
      exact ⟨hasks.1, fun _ hle => hasks.1.le.trans hle⟩
    | held _ =>
      rw [← hans true List.mem_cons_self] at hasks
      exact ⟨hasks.1, fun hlimited _ => hasks.1.le.trans (hasks.2 hlimited rfl)⟩
    | returned =>
      rw [← hans true List.mem_cons_self] at hasks
      have hback : ([.ask true, .release].foldl (call config) m).activeFallbackSessions
          = m.activeFallbackSessions := by
        show (FallbackController.releaseSlot
          (FallbackController.tryAcquireSlot config m).2).activeFallbackSessions = _
        rw [FallbackController.active_releaseSlot, hasks.1]
        rfl
      exact ⟨hback, fun _ hle => hback.le.trans hle⟩
  | refused =>
    cases ht with
    | refused =>
      obtain rfl : new = [] := by simpa using hnew
      exact ⟨rfl, fun _ hle => hle⟩
    | _ => exact absurd hnew (by simp)
  | held _ =>
    cases ht with
    | held _ =>
      obtain rfl : new = [] := by simpa using hnew
      exact ⟨rfl, fun _ hle => hle⟩
    | returned =>
      obtain rfl : new = [.release] := by simpa using hnew.symm
      have hpos := hpos rfl
      have hback : ([.release].foldl (call config) m).activeFallbackSessions
          = m.activeFallbackSessions - 1 := FallbackController.active_releaseSlot
      rw [hback]
      exact ⟨Nat.sub_add_cancel hpos, fun _ hle => (Nat.sub_le _ _).trans hle⟩
    | _ => exact absurd hnew (by simp)
  | returned =>
    cases ht with
    | returned =>
      obtain rfl : new = [] := by simpa using hnew
      exact ⟨rfl, fun _ hle => hle⟩
    | _ => exact absurd hnew (by simp)

variable {env}

/-- The course of a session that is in order. -/
theorem course_of_inOrder {s : ServerSession} (h : s.InOrder) :
    SlotCourse s.slotCalls s.fallbackSlotAcquired s.status := by
  rcases h with ⟨mode, handoff, rfl⟩ | ⟨-, _, _, hs⟩
  · exact .idle _
  · exact hs.course

/-- **A step keeps the budget.** -/
theorem Kept.step {b b' : FallbackBudget} (h : Kept config b) {e : Event}
    (hstep : FallbackBudget.step config env b e = some b') : Kept config b' := by
  cases e with
  | created mode handoff =>
    obtain rfl := Option.some.inj hstep
    refine ⟨fun s hs => ?_, ?_, h.bounded⟩
    · rcases List.mem_append.mp hs with hs | hs
      · exact h.inOrder s hs
      · exact .inl ⟨mode, handoff, List.mem_singleton.mp hs⟩
    · rw [holders, List.countP_append]
      exact h.counted
  | session i e =>
    obtain ⟨s, hs, hrest⟩ := Option.bind_eq_some_iff.mp hstep
    obtain ⟨t, ht, hb⟩ := Option.bind_eq_some_iff.mp hrest
    obtain rfl := Option.some.inj hb
    have hsmem : s ∈ b.sessions := List.mem_of_getElem? hs
    obtain ⟨hpump, hslot⟩ := (h.inOrder s hsmem).step ht
    obtain ⟨new, hnew, hans⟩ := hslot.answered
    have hpos : s.fallbackSlotAcquired = true →
        0 < b.runtimeMetrics.activeFallbackSessions := by
      intro hheld
      rw [h.counted]
      exact List.countP_pos_iff.mpr ⟨s, hsmem, hheld⟩
    obtain ⟨hcount, hbound⟩ :=
      foldl_call (course_of_inOrder (h.inOrder s hsmem)) hslot.course hnew hans hpos
    have hdrop : t.slotCalls.drop s.slotCalls.length = new := by
      rw [hnew, List.drop_left]
    refine ⟨fun u hu => ?_, ?_, fun hlimited => ?_⟩
    · rcases List.mem_or_eq_of_mem_set hu with hu | rfl
      · exact h.inOrder u hu
      · exact .inr ⟨hpump, _, _, hslot⟩
    · have hset := Machine.countP_set_add hs t (·.fallbackSlotAcquired)
      have hcounted : _ = b.sessions.countP (·.fallbackSlotAcquired) := h.counted
      show RuntimeMetrics.activeFallbackSessions (List.foldl _ _ (t.slotCalls.drop _))
        = (b.sessions.set i t).countP (·.fallbackSlotAcquired)
      rw [hdrop]
      omega
    · rw [hdrop]
      exact hbound hlimited (h.bounded hlimited)

/-- **The fallback budget.** Take any run of a service: sessions created at any
time, their handlers run in any order and with any results. The controller
counts the sessions whose flag is set, and a limited budget is never exceeded.
A session that was granted a slot and is destroyed has given it back exactly
once, one that was refused has given nothing back, and one that has
authenticated has never asked for a slot and holds none. -/
theorem budget_kept {es : List Event} {b : FallbackBudget}
    (h : Machine.run (FallbackBudget.step config env) {} es = some b) :
    b.runtimeMetrics.activeFallbackSessions = b.sessions.countP (·.fallbackSlotAcquired)
      ∧ (config.enabled = true → 0 < config.fallbackMaxActive →
        (b.runtimeMetrics.activeFallbackSessions : ℤ) ≤ config.fallbackMaxActive)
      ∧ ∀ s ∈ b.sessions,
        (.ask true ∈ s.slotCalls → s.status = .destroy → s.slotCalls.count .release = 1)
        ∧ (.ask false ∈ s.slotCalls → .release ∉ s.slotCalls)
        ∧ (.noted .authSuccess ∈ s.history →
          s.slotCalls = [] ∧ s.fallbackSlotAcquired = false) := by
  have hkept : Kept config b := by
    refine Machine.run_invariant (fun b e b' hb hstep => Kept.step hb hstep) ?_ h
    exact ⟨fun s hs => absurd hs List.not_mem_nil, rfl, fun _ => Nat.zero_le _⟩
  refine ⟨hkept.counted, fun henabled hpos => ?_, fun s hs => ?_⟩
  · have hlimited : FallbackController.isLimited config = true := by
      rw [FallbackController.isLimited, henabled, Bool.true_and, decide_eq_true hpos]
    have hle := hkept.bounded hlimited
    omega
  · have hcourse := course_of_inOrder (hkept.inOrder s hs)
    have hhonest : s.HasAuthenticated → s.slotCalls = [] := by
      rcases hkept.inOrder s hs with ⟨mode, handoff, rfl⟩ | ⟨-, _, _, hs⟩
      · exact fun _ => rfl
      · exact hs.honest
    have hflag : s.slotCalls = [] → s.fallbackSlotAcquired = false := by
      intro hnil
      rw [hnil] at hcourse
      generalize s.fallbackSlotAcquired = flag, s.status = status at hcourse ⊢
      cases hcourse with
      | idle => rfl
    refine ⟨fun hask hd => ?_, fun hask => ?_, fun ha => ⟨hhonest ha, hflag (hhonest ha)⟩⟩
    · rw [hd] at hcourse
      generalize s.slotCalls = calls, s.fallbackSlotAcquired = flag at hcourse hask ⊢
      cases hcourse with
      | idle => exact absurd hask (by simp)
      | refused => exact absurd hask (by simp)
      | held hd => exact absurd rfl hd
      | returned => decide
    · generalize s.slotCalls = calls, s.fallbackSlotAcquired = flag, s.status = status
        at hcourse hask ⊢
      cases hcourse with
      | idle => exact absurd hask (by simp)
      | refused => decide
      | held hd => exact absurd hask (by simp)
      | returned => exact absurd hask (by simp)

/-- Two strangers come to a service with a single fallback slot: the first
takes it, the second is refused. The first one's target cannot be resolved. -/
def rivalEvents : List Event :=
  [.created .standardTls none, .created .standardTls none,
    .session 0 (.start (some {})), .session 0 (.tlsHandshake none),
    .session 0 (.inRead (some [0]) false),
    .session 1 (.start (some {})), .session 1 (.tlsHandshake none),
    .session 1 (.inRead (some [0]) false),
    .session 0 (.tcpResolve { isFallback := true } none false)]

/-- The slot of the first stranger is returned, and both sessions are gone. -/
theorem budget_kept_rivals :
    ∃ b : FallbackBudget, b.runtimeMetrics.rejectedFallbackTotal = 1
      ∧ b.runtimeMetrics.fallbackConnectionsTotal = 1
      ∧ b.runtimeMetrics.activeFallbackSessions
        = b.sessions.countP (·.fallbackSlotAcquired)
      ∧ b.sessions.map (·.slotCalls) = [[.ask true, .release], [.ask false]] := by
  have hrun : (Machine.run (FallbackBudget.step { fallbackMaxActive := 1 } (fun _ => strangerEnv))
      {} rivalEvents).any (fun b => b.runtimeMetrics.rejectedFallbackTotal = 1
        ∧ b.runtimeMetrics.fallbackConnectionsTotal = 1
        ∧ b.sessions.map (·.slotCalls) = [[.ask true, .release], [.ask false]]) = true := by
    decide +kernel
  obtain ⟨b, hb, hall⟩ := Option.any_eq_true _ _ |>.mp hrun
  obtain ⟨hrejected, hgranted, hcalls⟩ := of_decide_eq_true hall
  exact ⟨b, hrejected, hgranted, (budget_kept hb).1, hcalls⟩

end FallbackBudget
