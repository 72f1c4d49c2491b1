import Trojan.UdpForwardSession

/-!
# The uplink of a UDP forward session

The datagrams of the local peer come whenever they come: before the tunnel is
there, while it is written to, and in between. A session has one buffer for
those it cannot write yet, and a flag, the status `FORWARDING`, that says
whether it can. What is sent through the tunnel should be the request and then
the frames of the datagrams, as they came.

Up to the destruction of the session one operation at a time carries the uplink:
a step of the connection, and then a write (`UDPForwardSession.Ordered`). The
status says which, and with it what was submitted and what is in the buffer
stays in order.
-/

namespace UDPForwardSession

open Flight

/-- The operations that carry the uplink: those that connect the tunnel, and
the writes to it. -/
def Operation.isUplink : Operation → Bool
  | resolve | tcpConnect _ | tlsHandshake | outWrite _ => true
  | _ => false

/-- The operations of the uplink that are in flight. -/
def uplink (s : UDPForwardSession) : List Operation := s.pending.filter Operation.isUplink

/-- The tunnel writes. -/
def Operation.isOutWrite : Operation → Bool
  | outWrite _ => true
  | _ => false

/-- The bytes that a mark says were submitted to the tunnel. -/
def submittedBytes : Mark Operation Buffer Note → Bytes
  | .began (.outWrite data) => data
  | _ => []

/-- **What was submitted to the tunnel**, in the order of time. -/
def submitted (s : UDPForwardSession) : Bytes := collect submittedBytes s.history

/-- The datagram that a mark says was processed for a peer. -/
def processedDatagram (peer : UdpEndpoint) : Mark Operation Buffer Note → List Bytes
  | .noted (.handled _ (.process endpoint data)) => if endpoint = peer then [data] else []
  | _ => []

/-- **The datagrams of the peer that were processed**, in the order of time. -/
def processed (s : UDPForwardSession) : List Bytes :=
  collect (processedDatagram s.udpRecvEndpoint) s.history

variable (config : Config)

/-- The Trojan request of a session. -/
def requestHeader : Bytes :=
  TrojanRequest.generate config.firstPassword config.targetAddr config.targetPort false

/-- The frame of a datagram. -/
def frameOf (data : Bytes) : Bytes :=
  UDPPacket.generateDomain config.targetAddr config.targetPort data

/-- **What a status says about the uplink.** -/
def Status.Carries : Status → List Operation → Bytes → Prop
  | .connect, ops, _ => ∃ op, ops = [op] ∧ op.isOutWrite = false
  | .forward, ops, outWriteBuf => ops = [] ∧ outWriteBuf = []
  | .forwarding, ops, _ => ∃ data, ops = [.outWrite data]
  | .destroy, _, _ => False

/-- **A session's uplink is in order.** -/
structure Ordered (s : UDPForwardSession) : Prop where
  started : s.history ≠ []
  carries : s.status.Carries s.uplink s.outWriteBuf
  bytes : s.submitted ++ s.outWriteBuf = requestHeader config ++ s.processed.flatMap (frameOf config)

variable {config} {s t : UDPForwardSession}

/-- A mark that the uplink does not see. -/
def isAside : Mark Operation Buffer Note → Bool
  | .began op | .ended op => !op.isUplink
  | .noted (.handled _ (.process _ _)) => false
  | _ => true

theorem uplink_of_aside {new : History} (ht : t.history = new ++ s.history)
    (haside : ∀ m ∈ new, isAside m = true) : t.uplink = s.uplink := by
  rw [uplink, pending, ht, uplink, pending]
  clear ht
  induction new with
  | nil => rfl
  | cons m new ih =>
    have hrest := ih (fun m hm => haside m (List.mem_cons_of_mem _ hm))
    have hm := haside m List.mem_cons_self
    cases m with
    | began op =>
      have hop : op.isUplink = false := by simpa [isAside] using hm
      rw [List.cons_append, inFlight_began, List.filter_cons_of_neg (by simp [hop]), hrest]
    | ended op =>
      have hop : op.isUplink = false := by simpa [isAside] using hm
      rw [List.cons_append, inFlight_ended, filter_erase_of_not _ hop, hrest]
    | modified b => exact hrest
    | noted n => exact hrest

/-- What the uplink does not see, its readings do not see. -/
theorem readings_of_aside {new : History} (ht : t.history = new ++ s.history)
    (haside : ∀ m ∈ new, isAside m = true) (hpeer : t.udpRecvEndpoint = s.udpRecvEndpoint) :
    t.submitted = s.submitted ∧ t.processed = s.processed := by
  constructor
  · rw [submitted, ht, collect_append_of_silent, ← submitted]
    intro m hm
    have hm' := haside m hm
    unfold submittedBytes
    split
    · exact absurd hm' (by simp [isAside, Operation.isUplink])
    · rfl
  · rw [processed, ht, hpeer, collect_append_of_silent, ← processed]
    intro m hm
    have hm' := haside m hm
    unfold processedDatagram
    split
    · exact absurd hm' (by simp [isAside])
    · rfl

theorem ne_nil_of_append {new : History} (ht : t.history = new ++ s.history)
    (h : s.history ≠ []) : t.history ≠ [] := by
  rw [ht]
  exact fun hnil => h (List.append_eq_nil_iff.mp hnil).2

/-- What the uplink does not see leaves it in order. -/
theorem Ordered.aside (h : Ordered config s) (new : History) (ht : t.history = new ++ s.history)
    (haside : ∀ m ∈ new, isAside m = true) (hstatus : t.status = s.status)
    (hbuf : t.outWriteBuf = s.outWriteBuf) (hpeer : t.udpRecvEndpoint = s.udpRecvEndpoint) :
    Ordered config t := by
  obtain ⟨hsubmitted, hprocessed⟩ := readings_of_aside ht haside hpeer
  refine ⟨ne_nil_of_append ht h.started, ?_, ?_⟩
  · rw [hstatus, uplink_of_aside ht haside, hbuf]
    exact h.carries
  · rw [hsubmitted, hbuf, hprocessed]
    exact h.bytes

theorem Ordered.alive (h : Ordered config s) : s.status ≠ .destroy := by
  intro hs
  have hcarries := h.carries
  rw [hs] at hcarries
  exact hcarries

/-- **A session whose uplink is free**: what carried it has ended, and what
comes next has not begun. -/
structure Freed (config : Config) (s : UDPForwardSession) : Prop where
  started : s.history ≠ []
  free : s.uplink = []
  bytes : s.submitted ++ s.outWriteBuf = requestHeader config ++ s.processed.flatMap (frameOf config)

/-- **An operation of the uplink ends**: it was the only one, and the status was
the one it belongs to. -/
theorem Ordered.receives (h : Ordered config s) {e : Event} {op : Operation}
    (he : e.operation = some op) (hop : op ∈ s.pending) (hup : op.isUplink = true) :
    Freed config (s.receives e)
      ∧ s.status = if op.isOutWrite then .forwarding else .connect := by
  have hmem : op ∈ s.uplink := List.mem_filter.mpr ⟨hop, hup⟩
  have honly : s.uplink = [op] ∧ s.status = if op.isOutWrite then .forwarding else .connect := by
    have hcarries := h.carries
    cases hs : s.status with
    | connect =>
      rw [hs] at hcarries
      obtain ⟨op', hop', hnot⟩ := hcarries
      rw [hop'] at hmem ⊢
      obtain rfl := List.mem_singleton.mp hmem
      rw [hnot]
      exact ⟨rfl, rfl⟩
    | forward =>
      rw [hs] at hcarries
      rw [hcarries.1] at hmem
      exact absurd hmem List.not_mem_nil
    | forwarding =>
      rw [hs] at hcarries
      obtain ⟨data, hdata⟩ := hcarries
      rw [hdata] at hmem ⊢
      obtain rfl := List.mem_singleton.mp hmem
      exact ⟨rfl, rfl⟩
    | destroy =>
      rw [hs] at hcarries
      exact hcarries.elim
  have hreceives : s.receives e
      = { s with history := .ended op :: .noted (.handled s.status e) :: s.history } := by
    unfold UDPForwardSession.receives
    rw [he]
  have hnot (peer : UdpEndpoint) : processedDatagram peer (.noted (.handled s.status e)) = [] := by
    cases e with
    | process endpoint data => exact absurd he (by simp [Event.operation])
    | _ => rfl
  rw [hreceives]
  refine ⟨⟨List.cons_ne_nil _ _, ?_, ?_⟩, honly.2⟩
  · exact (filter_erase_of_eq_singleton honly.1 hop hup).2
  · show (s.submitted ++ [] ++ []) ++ s.outWriteBuf
      = requestHeader config ++ (s.processed ++ processedDatagram s.udpRecvEndpoint
        (.noted (.handled s.status e)) ++ []).flatMap (frameOf config)
    rw [hnot, List.append_nil, List.append_nil, List.append_nil, List.append_nil]
    exact h.bytes

namespace Freed

theorem aside (h : Freed config s) (new : History) (ht : t.history = new ++ s.history)
    (haside : ∀ m ∈ new, isAside m = true) (hbuf : t.outWriteBuf = s.outWriteBuf)
    (hpeer : t.udpRecvEndpoint = s.udpRecvEndpoint) : Freed config t := by
  obtain ⟨hsubmitted, hprocessed⟩ := readings_of_aside ht haside hpeer
  refine ⟨ne_nil_of_append ht h.started, (uplink_of_aside ht haside).trans h.free, ?_⟩
  rw [hsubmitted, hbuf, hprocessed]
  exact h.bytes

/-- The connection of the tunnel goes on. -/
theorem connects (h : Freed config s) (hs : s.status = .connect) {op : Operation}
    (hup : op.isUplink = true) (hnot : op.isOutWrite = false) (hnew : t = s.begins op) :
    Ordered config t := by
  subst hnew
  refine ⟨List.cons_ne_nil _ _, ?_, ?_⟩
  · rw [show (s.begins op).status = .connect from hs]
    refine ⟨op, ?_, hnot⟩
    show List.filter Operation.isUplink (op :: s.pending) = [op]
    rw [List.filter_cons_of_pos hup]
    exact congrArg (op :: ·) h.free
  · have hbegan : submittedBytes (.began op) = [] := by
      cases op <;> first | rfl | exact absurd hnot (by simp [Operation.isOutWrite])
    show (s.submitted ++ submittedBytes (.began op)) ++ s.outWriteBuf
      = requestHeader config ++ (s.processed ++ []).flatMap (frameOf config)
    rw [hbegan, List.append_nil, List.append_nil]
    exact h.bytes

/-- **The buffer is written.** -/
theorem writes (h : Freed config s) (hs : s.status = .forwarding) :
    Ordered config { s.outAsyncWrite s.outWriteBuf with outWriteBuf := [] } := by
  refine ⟨List.cons_ne_nil _ _, ?_, ?_⟩
  · rw [show UDPForwardSession.status { s.outAsyncWrite s.outWriteBuf with outWriteBuf := [] }
      = .forwarding from hs]
    refine ⟨s.outWriteBuf, ?_⟩
    show List.filter Operation.isUplink (.outWrite s.outWriteBuf :: s.pending) = _
    rw [List.filter_cons_of_pos rfl]
    exact congrArg (_ :: ·) h.free
  · show (s.submitted ++ [] ++ s.outWriteBuf) ++ []
      = requestHeader config ++ (s.processed ++ [] ++ []).flatMap (frameOf config)
    rw [List.append_nil, List.append_nil, List.append_nil, List.append_nil]
    exact h.bytes

/-- With nothing to write, the session waits for datagrams. -/
theorem waits (h : Freed config s) (hbuf : s.outWriteBuf = []) :
    Ordered config { s with status := .forward } :=
  ⟨h.started, ⟨h.free, hbuf⟩, h.bytes⟩

end Freed

/-- **A datagram is processed**: its frame is written, or goes to the end of the
buffer. -/
theorem Ordered.process (h : Ordered config s) (endpoint : UdpEndpoint) (data : Bytes) :
    Ordered config ((s.receives (.process endpoint data)).process config endpoint data).2 := by
  unfold UDPForwardSession.process
  by_cases hpeer : endpoint = s.udpRecvEndpoint
  · have hcarries := h.carries
    have hnot : ¬ endpoint ≠ (s.receives (.process endpoint data)).udpRecvEndpoint :=
      not_not.mpr hpeer
    have halive : ¬ (s.receives (.process endpoint data)).status = .destroy := h.alive
    have hframes : requestHeader config ++ (s.processed ++ [data]).flatMap (frameOf config)
        = (s.submitted ++ s.outWriteBuf) ++ frameOf config data := by
      rw [List.flatMap_append, ← List.append_assoc, ← h.bytes, List.flatMap_cons,
        List.flatMap_nil, List.append_nil]
    have hprocessed : processedDatagram s.udpRecvEndpoint
        (.noted (.handled s.status (.process endpoint data))) = [data] := if_pos hpeer
    rw [if_neg hnot]
    show Ordered config (inRecv config _ data)
    unfold inRecv
    rw [if_neg halive]
    dsimp only
    split
    · -- the uplink is free, and the buffer is empty
      rename_i hforward
      rw [show s.status = .forward from hforward] at hcarries
      refine ⟨List.cons_ne_nil _ _, ⟨frameOf config data, ?_⟩, ?_⟩
      · show List.filter Operation.isUplink (.outWrite _ :: .timer :: s.pending) = _
        rw [List.filter_cons_of_pos rfl, List.filter_cons_of_neg (by simp [Operation.isUplink])]
        exact congrArg (_ :: ·) hcarries.1
      · show (s.submitted ++ [] ++ [] ++ [] ++ frameOf config data) ++ s.outWriteBuf
          = requestHeader config ++ (s.processed ++ processedDatagram s.udpRecvEndpoint
            (.noted (.handled s.status (.process endpoint data))) ++ [] ++ [] ++ []).flatMap
              (frameOf config)
        rw [hprocessed, List.append_nil, List.append_nil, List.append_nil, List.append_nil,
          List.append_nil, List.append_nil, hframes, hcarries.2, List.append_nil, List.append_nil]
    · rename_i hnotforward
      refine ⟨List.cons_ne_nil _ _, ?_, ?_⟩
      · have haside : UDPForwardSession.uplink
            ((s.receives (.process endpoint data)).timerAsyncWait) = s.uplink := by
          show List.filter Operation.isUplink (.timer :: s.pending) = _
          exact List.filter_cons_of_neg (by simp [Operation.isUplink])
        show s.status.Carries (UDPForwardSession.uplink
          ((s.receives (.process endpoint data)).timerAsyncWait)) _
        rw [haside]
        cases hs : s.status with
        | forward => exact absurd hs hnotforward
        | connect => rw [hs] at hcarries; exact hcarries
        | forwarding => rw [hs] at hcarries; exact hcarries
        | destroy => rw [hs] at hcarries; exact hcarries
      · show (s.submitted ++ [] ++ []) ++ (s.outWriteBuf ++ frameOf config data)
          = requestHeader config ++ (s.processed ++ processedDatagram s.udpRecvEndpoint
            (.noted (.handled s.status (.process endpoint data))) ++ []).flatMap (frameOf config)
        rw [hprocessed, List.append_nil, List.append_nil, List.append_nil, hframes,
          List.append_assoc]
  · -- the datagram is somebody else's
    have hother : endpoint ≠ (s.receives (.process endpoint data)).udpRecvEndpoint := hpeer
    rw [if_pos hother]
    refine ⟨List.cons_ne_nil _ _, h.carries, ?_⟩
    show (s.submitted ++ []) ++ s.outWriteBuf = requestHeader config ++ (s.processed
      ++ processedDatagram s.udpRecvEndpoint
        (.noted (.handled s.status (.process endpoint data)))).flatMap (frameOf config)
    rw [show processedDatagram s.udpRecvEndpoint
      (.noted (.handled s.status (.process endpoint data))) = [] from if_neg hpeer,
      List.append_nil, List.append_nil]
    exact h.bytes

/-- The loop of `out_recv` does not concern the uplink, unless it destroys the
session. -/
theorem Ordered.takeFrames (h : Ordered config s) :
    .noted .destroyed ∈ s.takeFrames.history ∨ Ordered config s.takeFrames := by
  obtain ⟨payloads, rest, len, heq | heq⟩ := exists_takeFrames s
  · rw [heq]
    refine .inl (destroyed_mem_destroy ?_)
    exact h.alive
  · rw [heq]
    refine .inr (h.aside (.began .outRead
      :: (payloads.map (.inWrite s.udpRecvEndpoint)).map .noted) rfl (fun m hm => ?_) rfl rfl rfl)
    rcases List.mem_cons.mp hm with rfl | hm
    · rfl
    · obtain ⟨n, hn, rfl⟩ := List.mem_map.mp hm
      obtain ⟨payload, -, rfl⟩ := List.mem_map.mp hn
      rfl

/-- A read from the tunnel does not concern it either. -/
theorem Ordered.outRecv (h : Ordered config s) (length : ℕ) :
    .noted .destroyed ∈ (s.outRecv length).history ∨ Ordered config (s.outRecv length) := by
  unfold UDPForwardSession.outRecv
  dsimp only
  split
  · refine Ordered.takeFrames ?_
    exact h.aside [_, _] rfl (by simp [isAside, Operation.isUplink]) rfl rfl rfl
  · exact .inr (h.aside [_] rfl (by simp [isAside]) rfl rfl rfl)

/-- **A step keeps the uplink in order**, or destroys the session. -/
theorem Ordered.step (h : Ordered config s) {e : Event}
    (hstep : UDPForwardSession.step config s e = some t) :
    .noted .destroyed ∈ t.history ∨ Ordered config t := by
  unfold UDPForwardSession.step at hstep
  split at hstep
  case isFalse => exact absurd hstep (by simp)
  rename_i haccepts
  obtain rfl := Option.some.inj hstep
  have hdestroy {r : UDPForwardSession} (hr : r.status = s.status) :
      .noted .destroyed ∈ r.destroy.history ∨ Ordered config r.destroy :=
    .inl (destroyed_mem_destroy (hr ▸ h.alive))
  have hshutdown {r : UDPForwardSession} (hr : Ordered config r) (aborted : Bool) :
      Ordered config (r.sslShutdownCb aborted) := by
    unfold sslShutdownCb
    split
    · exact hr
    · exact hr.aside [] rfl (by simp) rfl rfl rfl
  cases e with
  | start => exact absurd (List.isEmpty_iff.mp haccepts) h.started
  | resolve results openError =>
    obtain ⟨hfreed, hs⟩ := h.receives (e := .resolve results openError) rfl
      (mem_pending_of_accepts rfl haccepts) rfl
    show _ ∈ (UDPForwardSession.resolved _ results openError).history
      ∨ Ordered config (UDPForwardSession.resolved _ results openError)
    unfold resolved
    split
    · exact hdestroy rfl
    · split
      · exact hdestroy rfl
      · have hopened : Freed config { notes (s.receives (.resolve results openError))
            .openedOutSocket with outSocketOpen := true } :=
          hfreed.aside [_] rfl (by simp [isAside]) rfl rfl
        exact .inr (hopened.connects hs rfl rfl rfl)
  | tcpConnect endpoint error =>
    obtain ⟨hfreed, hs⟩ := h.receives (e := .tcpConnect endpoint error) rfl
      (mem_pending_of_accepts rfl haccepts) rfl
    cases error with
    | true => exact hdestroy (r := s.receives (.tcpConnect endpoint true)) rfl
    | false => exact .inr (hfreed.connects hs rfl rfl rfl)
  | tlsHandshake error =>
    obtain ⟨hfreed, -⟩ := h.receives (e := .tlsHandshake error) rfl
      (mem_pending_of_accepts rfl haccepts) rfl
    cases error with
    | true => exact hdestroy (r := s.receives (.tlsHandshake true)) rfl
    | false =>
      have hreads : Freed config (outAsyncRead { notes (s.receives (.tlsHandshake false))
          .tunnelEstablished with status := .forwarding }) :=
        hfreed.aside [_, _] rfl (by simp [isAside, Operation.isUplink]) rfl rfl
      exact .inr (hreads.writes rfl)
  | process endpoint data => exact .inr (h.process endpoint data)
  | outRead data =>
    have hreceives : Ordered config (s.receives (.outRead data)) :=
      h.aside [_, _] rfl (by simp [isAside, Operation.isUplink]) rfl rfl rfl
    cases data with
    | none => exact hdestroy (r := s.receives (.outRead none)) rfl
    | some data =>
      refine Ordered.outRecv ?_ data.length
      exact hreceives.aside [] rfl (by simp) rfl rfl rfl
  | outWrite data error =>
    obtain ⟨hfreed, hs⟩ := h.receives (e := .outWrite data error) rfl
      (mem_pending_of_accepts rfl haccepts) rfl
    cases error with
    | true => exact hdestroy (r := s.receives (.outWrite data true)) rfl
    | false =>
      have hforwarding : (s.receives (.outWrite data false)).status = .forwarding := hs
      show _ ∈ (outSent _).history ∨ Ordered config (outSent _)
      unfold outSent
      rw [if_pos hforwarding]
      split
      · rename_i hempty
        exact .inr (hfreed.waits (List.eq_nil_of_length_eq_zero hempty))
      · exact .inr (hfreed.writes hforwarding)
  | timer error =>
    cases error with
    | true => exact .inr (h.aside [_, _] rfl (by simp [isAside, Operation.isUplink]) rfl rfl rfl)
    | false => exact hdestroy (r := s.receives (.timer false)) rfl
  | tlsShutdown aborted =>
    refine .inr (hshutdown ?_ aborted)
    exact h.aside [_, _] rfl (by simp [isAside, Operation.isUplink]) rfl rfl rfl
  | shutdownTimer aborted =>
    refine .inr (hshutdown ?_ aborted)
    exact h.aside [_, _] rfl (by simp [isAside, Operation.isUplink]) rfl rfl rfl

/-- **A run keeps the uplink in order**, up to the destruction of the session. -/
theorem Ordered.run {es : List Event} (h : Ordered config s)
    (hrun : Machine.run (UDPForwardSession.step config) s es = some t)
    (halive : .noted .destroyed ∉ t.history) : Ordered config t := by
  have hkeeps : .noted .destroyed ∈ t.history ∨ Ordered config t := by
    refine Machine.run_invariant (P := fun u => .noted .destroyed ∈ u.history ∨ Ordered config u)
      (fun u e v hu hstep => ?_) (.inr h) hrun
    rcases hu with hdestroyed | hordered
    · exact .inl ((follows_step hstep).suffix.subset hdestroyed)
    · exact hordered.step hstep
  exact hkeeps.resolve_left halive

/-- A session that was started is in order. -/
theorem ordered_start (config : Config) (peer : UdpEndpoint) :
    Ordered config (((create peer).receives .start).start config) where
  started := List.cons_ne_nil _ _
  carries := ⟨.resolve, rfl, rfl⟩
  bytes := (List.append_nil _).symm

/-- **The uplink of a UDP forward session.** In every run, until the session is
destroyed: at most one tunnel write is outstanding; the status is `FORWARDING`
exactly when one is; and what was submitted to the tunnel, followed by the
buffer, is the Trojan request followed by the frames of the datagrams that were
processed for the session's peer, in the order in which they came. -/
theorem uplink_in_order {config : Config} {peer : UdpEndpoint} {e : Event} {es : List Event}
    {s : UDPForwardSession}
    (hrun : Machine.run (UDPForwardSession.step config) (create peer) (e :: es) = some s)
    (halive : .noted .destroyed ∉ s.history) :
    s.pending.countP Operation.isOutWrite ≤ 1
      ∧ (s.status = .forwarding ↔ ∃ data, .outWrite data ∈ s.pending)
      ∧ s.submitted ++ s.outWriteBuf
        = requestHeader config ++ s.processed.flatMap (frameOf config) := by
  obtain ⟨t, hstep, hrest⟩ := Machine.run_cons.mp hrun
  have hstart : t = ((create peer).receives .start).start config := by
    unfold UDPForwardSession.step at hstep
    split at hstep
    · rename_i haccepts
      cases e with
      | start => exact (Option.some.inj hstep).symm
      | _ => exact absurd haccepts (by simp [accepts, Event.operation, create, pending])
    · exact absurd hstep (by simp)
  have hordered : Ordered config s := (hstart ▸ ordered_start config peer).run hrest halive
  have hwrites : s.pending.countP Operation.isOutWrite = s.uplink.countP Operation.isOutWrite := by
    rw [uplink, List.countP_filter]
    refine List.countP_congr (fun op _ => ?_)
    cases op <;> simp [Operation.isOutWrite, Operation.isUplink]
  have hmem (data : Bytes) : .outWrite data ∈ s.pending ↔ .outWrite data ∈ s.uplink := by
    rw [uplink, List.mem_filter]
    exact (and_iff_left rfl).symm
  have hcarries := hordered.carries
  refine ⟨?_, ?_, hordered.bytes⟩
  · rw [hwrites]
    cases hs : s.status with
    | connect =>
      rw [hs] at hcarries
      obtain ⟨op, hop, hnot⟩ := hcarries
      rw [hop, List.countP_singleton, hnot]
      exact Nat.zero_le 1
    | forward =>
      rw [hs] at hcarries
      rw [hcarries.1]
      exact Nat.zero_le 1
    | forwarding =>
      rw [hs] at hcarries
      obtain ⟨data, hdata⟩ := hcarries
      rw [hdata]
      exact Nat.le_refl 1
    | destroy => exact absurd hs hordered.alive
  · simp only [hmem]
    cases hs : s.status with
    | connect =>
      rw [hs] at hcarries
      obtain ⟨op, hop, hnot⟩ := hcarries
      refine iff_of_false Status.noConfusion (fun hwrite => ?_)
      obtain ⟨data, hdata⟩ := hwrite
      rw [hop, List.mem_singleton] at hdata
      rw [← hdata] at hnot
      exact absurd hnot (by simp [Operation.isOutWrite])
    | forward =>
      rw [hs] at hcarries
      refine iff_of_false Status.noConfusion (fun hwrite => ?_)
      obtain ⟨data, hdata⟩ := hwrite
      rw [hcarries.1] at hdata
      exact absurd hdata List.not_mem_nil
    | forwarding =>
      rw [hs] at hcarries
      obtain ⟨data, hdata⟩ := hcarries
      exact iff_of_true rfl ⟨data, hdata ▸ List.mem_cons_self⟩
    | destroy => exact absurd hs hordered.alive

/-- A peer, and a server behind the tunnel. -/
def samplePeer : UdpEndpoint := ⟨.v4 (IpAddress.example4 1), 5353⟩

/-- A datagram before the tunnel is there, and one while it is written to. -/
def sampleEvents : List Event :=
  [.start, .process samplePeer [1], .resolve (some [.v4 (IpAddress.example4 2)]) false,
    .tcpConnect (.v4 (IpAddress.example4 2)) false, .tlsHandshake false, .process samplePeer [2]]

/-- The two datagrams are in order. -/
theorem uplink_in_order_two_datagrams :
    ∃ s, Machine.run (UDPForwardSession.step {}) (create samplePeer) sampleEvents = some s
      ∧ s.outWriteBuf = frameOf {} [2]
      ∧ s.submitted ++ s.outWriteBuf = requestHeader {} ++ [[1], [2]].flatMap (frameOf {}) := by
  have hrun : (Machine.run (UDPForwardSession.step {}) (create samplePeer) sampleEvents).any
      (fun s => .noted .destroyed ∉ s.history ∧ s.outWriteBuf = frameOf {} [2]
        ∧ s.processed = [[1], [2]]) = true := by
    decide +kernel
  obtain ⟨s, hs, hall⟩ := Option.any_eq_true _ _ |>.mp hrun
  obtain ⟨halive, hbuf, hprocessed⟩ := of_decide_eq_true hall
  obtain ⟨-, -, hbytes⟩ := uplink_in_order hs halive
  exact ⟨s, hs, hbuf, hprocessed ▸ hbytes⟩

end UDPForwardSession
