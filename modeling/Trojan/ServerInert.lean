import Trojan.ServerPump

/-!
# A destroyed session

`destroy` cancels whatever is in flight, but a completion that was already
queued is still delivered, with success. What a destroyed session does with it
is up to each handler, and only some of them look at the status first.

`ServerSession.Inert` is what one would have of a destroyed session: that it
stays destroyed, opens no socket, begins nothing, calls no one, and keeps its
byte counts. Three handlers do not keep to it. A write to the target and a UDP
send still add to `sent_len`, after the usage has been recorded; and a UDP
resolve that succeeds reopens the UDP socket, starts a receive on it and sends
the payload. `ServerSession.inert_iff` says that these are all: along a run
after `destroy` the session is inert exactly when no step of the run is one of
the three.
-/

namespace ServerSession

open Flight

/-- A mark that leaves no trace outside the session. -/
def isQuiet : Mark Operation Buffer Note → Bool
  | .ended _ => true
  | .modified _ => true
  | .noted (.handled _ _) => true
  | _ => false

/-- **Nothing has come of a destroyed session** between two states: it is
destroyed, its byte counts are what they were, its sockets are as they were,
and nothing was begun and no one called. -/
structure Inert (s t : ServerSession) : Prop where
  status : t.status = .destroy
  sentLen : t.sentLen = s.sentLen
  recvLen : t.recvLen = s.recvLen
  outSocket : t.outSocketOpen = s.outSocketOpen
  udpSocket : t.udpSocketOpen = s.udpSocketOpen
  quiet : ∃ marks, t.history = marks ++ s.history ∧ ∀ m ∈ marks, isQuiet m = true

/-- **The completions a destroyed session can take**: not a write to the target
that is accounted for, not a UDP send that is, and not a UDP resolve with a
result, unless the socket fails to open. -/
def harmless (s : ServerSession) : Event → Bool
  | .outWrite data true false => data.isEmpty
  | .udpSend _ _ accountedLength false => accountedLength == 0
  | .udpResolve _ (some (_ :: _)) openError => !s.udpSocketOpen && openError
  | _ => true

namespace Inert

variable {s t u : ServerSession}

/-- A session that has only received an event is inert. -/
theorem receives (hs : s.status = .destroy) (e : Event) : Inert s (s.receives e) := by
  unfold ServerSession.receives
  split
  · exact ⟨hs, rfl, rfl, rfl, rfl, [_], rfl, by simp [isQuiet]⟩
  · exact ⟨hs, rfl, rfl, rfl, rfl, [_, _], rfl, by simp [isQuiet]⟩

/-- Quiet marks, and changes to what is not observed, keep a session inert. -/
theorem updates (h : Inert s t) (marks : History) (hu : u.history = marks ++ t.history)
    (hquiet : ∀ m ∈ marks, isQuiet m = true) (hstatus : u.status = .destroy)
    (hsent : u.sentLen = t.sentLen) (hrecv : u.recvLen = t.recvLen)
    (hout : u.outSocketOpen = t.outSocketOpen) (hudp : u.udpSocketOpen = t.udpSocketOpen) :
    Inert s u := by
  obtain ⟨old, hold, holdq⟩ := h.quiet
  refine ⟨hstatus, hsent.trans h.sentLen, hrecv.trans h.recvLen,
    hout.trans h.outSocket, hudp.trans h.udpSocket, marks ++ old, ?_, ?_⟩
  · rw [hu, hold, List.append_assoc]
  · intro m hm
    rcases List.mem_append.mp hm with hm | hm
    · exact hquiet m hm
    · exact holdq m hm

/-- Destroying a destroyed session changes nothing. -/
theorem destroy (h : Inert s t) (env : Env) : Inert s (t.destroy env) := by
  rw [destroy_of_destroy env t h.status]
  exact h

theorem trans (h : Inert s t) (h' : Inert t u) : Inert s u := by
  obtain ⟨marks, hu, hquiet⟩ := h'.quiet
  exact h.updates marks hu hquiet h'.status h'.sentLen h'.recvLen
    h'.outSocket h'.udpSocket

/-- Where nothing has come of a session up to two states of which the second
follows the first, nothing has come of it between them. -/
theorem between (h : Inert s t) (h' : Inert s u) (hrem : t.history <:+ u.history) :
    Inert t u := by
  refine ⟨h'.status, h'.sentLen.trans h.sentLen.symm, h'.recvLen.trans h.recvLen.symm,
    h'.outSocket.trans h.outSocket.symm, h'.udpSocket.trans h.udpSocket.symm, ?_⟩
  obtain ⟨marks, ht, -⟩ := h.quiet
  obtain ⟨marks', hu, hquiet⟩ := h'.quiet
  obtain ⟨new, hnew⟩ := hrem
  refine ⟨new, hnew.symm, fun m hm => hquiet m ?_⟩
  have hsplit : new ++ marks = marks' := by
    rw [ht, hu, ← List.append_assoc] at hnew
    exact List.append_cancel_right hnew
  rw [← hsplit]
  exact List.mem_append_left _ hm

/-- An inert session has begun nothing. -/
theorem not_began_of (h : Inert s t) (newer : History) (op : Operation) (mid old : History)
    (ht : t.history = newer ++ .began op :: (mid ++ (old ++ s.history))) : False := by
  obtain ⟨marks, hmarks, hquiet⟩ := h.quiet
  have happend : marks ++ s.history = (newer ++ .began op :: (mid ++ old)) ++ s.history := by
    rw [← hmarks, ht]
    simp only [List.append_assoc, List.cons_append]
  have hsplit := List.append_cancel_right happend
  have hop := hquiet (.began op) (by rw [hsplit]; simp)
  exact absurd hop (by simp [isQuiet])

end Inert

section Destroyed

variable {s : ServerSession}

theorem inRecv_of_destroy (env : Env) (h : s.status = .destroy) (length : ℕ) (granted : Bool) :
    s.inRecv env length granted = s.growInReadBuf length := by
  have hgrow : (s.growInReadBuf length).status = .destroy := h
  simp only [inRecv, hgrow]

theorem outRecv_of_destroy (h : s.status = .destroy) (length : ℕ) :
    s.outRecv length = s.growOutReadBuf length := by
  have hgrow : (s.growOutReadBuf length).status ≠ .forward := by
    show s.status ≠ _
    rw [h]
    simp
  exact if_neg hgrow

theorem udpRecv_of_destroy (h : s.status = .destroy) (length : ℕ) (endpoint : UdpEndpoint) :
    s.udpRecv length endpoint = s.growUdpReadBuf length := by
  have hgrow : (s.growUdpReadBuf length).status ≠ .udpForward := by
    show s.status ≠ _
    rw [h]
    simp
  exact if_neg hgrow

end Destroyed

/-- What a resolve makes of a destroyed session: nothing, if the socket is
closed and fails to open, else a send. -/
theorem inert_dispatch_iff {s r : ServerSession} (h : Inert s r) (env : Env) (payload : Bytes)
    (packetLength : ℕ) (endpoint : UdpEndpoint) (openError : Bool) :
    Inert s (r.dispatchUdpPayload env payload packetLength endpoint openError)
      ↔ (!s.udpSocketOpen && openError) = true := by
  obtain ⟨old, hold, -⟩ := h.quiet
  unfold dispatchUdpPayload ensureUdpSocketOpen
  rw [← h.udpSocket]
  cases hopen : r.udpSocketOpen with
  | true =>
    simp only [if_true, hopen, Bool.not_true, Bool.false_eq_true, if_false, Bool.false_and,
      iff_false]
    intro hin
    exact hin.not_began_of [] (.udpSend payload endpoint packetLength) [.modified .udpWriteData]
      old (by rw [← hold]; rfl)
  | false =>
    cases openError with
    | true =>
      rw [destroy_of_destroy env r h.status]
      simp only [Bool.false_eq_true, if_false, if_true, hopen, Bool.not_false, Bool.true_and,
        iff_true]
      exact h
    | false =>
      simp only [Bool.false_eq_true, if_false, udpAsyncRead, udpSocketOpen_begins, Bool.not_true,
        Bool.and_false, iff_false]
      intro hin
      exact hin.not_began_of [] (.udpSend payload endpoint packetLength)
        [.modified .udpWriteData, .began .udpReceive, .noted .openedUdpSocket] old
        (by rw [← hold]; rfl)

/-- **One step of a destroyed session**: it stays inert exactly when the
completion is a harmless one. -/
theorem inert_step_iff {env : Env} {s t : ServerSession} {e : Event} (hp : Pump s)
    (hs : s.status = .destroy) (hstep : step env s e = some t) :
    Inert s t ↔ s.harmless e = true := by
  obtain ⟨op, he, hop, -, rfl⟩ := exists_operation_of_step hp.started hstep
  have hallow := hp.owes.allowed op hop
  rw [hs] at hallow
  have hr : Inert s (s.receives e) := Inert.receives hs e
  have hrs := hr.status
  -- each handler finds the session destroyed
  cases e with
  | start remoteEndpoint => exact absurd he (by simp [Event.operation])
  | tlsHandshake error => exact absurd (Option.some.inj he ▸ hallow) (by simp [Status.allows])
  | plainHttpWrite => exact absurd (Option.some.inj he ▸ hallow) (by simp [Status.allows])
  | trustedFrontRead data granted =>
    exact absurd (Option.some.inj he ▸ hallow) (by simp [Status.allows])
  | tcpResolve target results openError =>
    exact absurd (Option.some.inj he ▸ hallow) (by simp [Status.allows])
  | tcpConnect target endpoint error =>
    exact absurd (Option.some.inj he ▸ hallow) (by simp [Status.allows])
  | inRead data granted =>
    refine iff_of_true ?_ rfl
    cases data with
    | none => exact hr.destroy env
    | some data =>
      show Inert s (inRecv env _ data.length granted)
      rw [inRecv_of_destroy env (by exact hrs)]
      exact hr.updates [_] rfl (by simp [isQuiet]) hrs rfl rfl rfl rfl
  | inWrite data error =>
    refine iff_of_true ?_ rfl
    cases error with
    | true => exact hr.destroy env
    | false =>
      show Inert s (inSent _)
      unfold inSent
      simp only [hrs]
      exact hr
  | outRead data =>
    refine iff_of_true ?_ rfl
    cases data with
    | none => exact hr.destroy env
    | some data =>
      show Inert s (outRecv _ data.length)
      rw [outRecv_of_destroy (by exact hrs)]
      exact hr.updates [_] rfl (by simp [isQuiet]) hrs rfl rfl rfl rfl
  | outWrite data account error =>
    cases error with
    | true => exact iff_of_true (hr.destroy env) (by cases account <;> rfl)
    | false =>
      cases account with
      | false =>
        refine iff_of_true ?_ rfl
        show Inert s (outSent _)
        rw [outSent, if_neg (by rw [hrs]; simp)]
        exact hr
      | true =>
        show Inert s (outSent _) ↔ data.isEmpty = true
        rw [outSent, if_neg (by simp [hrs]), List.isEmpty_iff]
        constructor
        · intro hin
          have hsent := hin.sentLen.trans hr.sentLen.symm
          exact List.length_eq_zero_iff.mp (Nat.add_eq_left.mp hsent)
        · rintro rfl
          exact hr.updates [] rfl (by simp) hrs rfl rfl rfl rfl
  | udpResolve request results openError =>
    show Inert s (udpResolved env _ request results openError) ↔ _
    unfold udpResolved
    rcases results with _ | _ | ⟨x, xs⟩
    · exact iff_of_true (hr.destroy env) rfl
    · rw [Option.bind_some, chooseEndpoint_eq_none.mpr rfl]
      exact iff_of_true (hr.destroy env) rfl
    · rw [Option.bind_some]
      cases hc : chooseEndpoint env.config.tcp.preferIpv4 (fun x => x.address.isV4) (x :: xs) with
      | none => exact absurd (chooseEndpoint_eq_none.mp hc) (by simp)
      | some endpoint => exact inert_dispatch_iff hr env _ _ endpoint openError
  | udpSend data endpoint accounted error =>
    cases error with
    | true => exact iff_of_true (hr.destroy env) rfl
    | false =>
      show Inert s (if accounted > 0 then _ else _) ↔ (accounted == 0) = true
      rw [beq_iff_eq]
      split
      · rename_i hpos
        rw [udpSent, if_neg (by simp [hrs])]
        constructor
        · intro hin
          exact Nat.add_eq_left.mp (hin.sentLen.trans hr.sentLen.symm)
        · intro hzero
          omega
      · rename_i hzero
        rw [udpSent, if_neg (by simp [hrs])]
        exact iff_of_true hr (by omega)
  | udpReceive received =>
    refine iff_of_true ?_ rfl
    rcases received with _ | ⟨data, endpoint⟩
    · exact hr.destroy env
    · show Inert s (udpRecv _ data.length endpoint)
      rw [udpRecv_of_destroy (by exact hrs)]
      exact hr.updates [_] rfl (by simp [isQuiet]) hrs rfl rfl rfl rfl
  | tlsShutdown aborted =>
    refine iff_of_true ?_ rfl
    show Inert s (sslShutdownCb _ aborted)
    unfold sslShutdownCb
    split
    · exact hr
    · exact hr.updates [] rfl (by simp) hrs rfl rfl rfl rfl
  | shutdownTimer aborted =>
    refine iff_of_true ?_ rfl
    show Inert s (sslShutdownCb _ aborted)
    unfold sslShutdownCb
    split
    · exact hr
    · exact hr.updates [] rfl (by simp) hrs rfl rfl rfl rfl

/-- **When a destroyed session is inert.** Take a run that has destroyed a
session, and any run of the completions that follow. Nothing comes of the
session in any state that the run visits exactly when every completion is a
harmless one as it is delivered. -/
theorem inert_iff {env : Env} {mode : BootstrapMode} {handoff : Option ExternalFrontHandoff}
    {remoteEndpoint : Option TcpEndpoint} {es fs : List Event} {s t : ServerSession}
    (hreach : Machine.run (step env) (create mode handoff) (.start remoteEndpoint :: es) = some s)
    (hs : s.status = .destroy) (hrun : Machine.run (step env) s fs = some t) :
    (∀ u, Machine.Visits (step env) s fs u → Inert s u)
      ↔ Machine.Along (step env) (fun u e => u.harmless e = true) s fs := by
  have hpump := pump_run hreach
  constructor
  · intro hall
    refine Machine.along_iff.mpr (fun pre e hpre v hv => ?_)
    obtain ⟨u, hu⟩ := Machine.exists_run_of_beginning hrun hpre
    obtain ⟨v', hv', hstep⟩ := Machine.run_concat.mp hu
    obtain rfl : v' = v := Option.some.inj (hv'.symm.trans hv)
    have hpv : Pump v' :=
      Machine.run_invariant (fun _ _ _ hp hst => Pump.step hp hst) hpump hv
    have hiv := hall v' ⟨pre, (List.prefix_append pre [e]).trans hpre, hv⟩
    have hiu := hall u ⟨pre ++ [e], hpre, hu⟩
    exact (inert_step_iff hpv hiv.status hstep).mp
      (hiv.between hiu (suffix_step hstep))
  · rintro halong u ⟨pre, hpre, hu⟩
    have hself : Inert s s := ⟨hs, rfl, rfl, rfl, rfl, [], rfl, by simp⟩
    refine (Machine.run_invariant_along (P := fun v => Pump v ∧ Inert s v) ?_ ⟨hpump, hself⟩
      (halong.beginning hpre) hu).2
    rintro v e w ⟨hpv, hiv⟩ hharm hstep
    exact ⟨hpv.step hstep, hiv.trans ((inert_step_iff hpv hiv.status hstep).mpr hharm)⟩

/-! ### A late resolve -/

/-- A server with one password. -/
def lateEnv : Env := { config := { password := [([112], [112])] }, readJson := fun _ => none }

/-- The request in a frame for `127.0.0.1`, port 53, with a payload of one
byte. -/
def lateRequest : UdpDispatchRequest := ⟨[7], 1, ascii "127.0.0.1", 53⟩

/-- Where it resolves to. -/
def lateEndpoint : UdpEndpoint := ⟨.v4 IpAddress.loopback, 53⟩

/-- A client associates, and sends two frames. The first is on its way; the
second is being resolved as the UDP socket fails, and the session is
destroyed. -/
def lateEvents : List Event :=
  [.tlsHandshake none,
    .inRead (some (TrojanRequest.header [112] .udpAssociate (.v4 IpAddress.unspecified) 0
      ++ UDPPacket.generate lateEndpoint [7] ++ UDPPacket.generate lateEndpoint [7])) true,
    .udpResolve lateRequest (some [lateEndpoint]) false,
    .udpSend [7] lateEndpoint 1 false,
    .udpReceive none]

/-- The resolve fails after all: nothing comes of the session. -/
theorem inert_of_failed_resolve :
    ∃ s t, Machine.run (step lateEnv) (create .standardTls none) (.start (some {}) :: lateEvents)
        = some s
      ∧ Machine.run (step lateEnv) s [.udpResolve lateRequest none false] = some t
      ∧ Inert s t := by
  have hrun : (Machine.run (step lateEnv) (create .standardTls none)
      (.start (some {}) :: lateEvents)).any
      (fun s => s.status = .destroy ∧
        (Machine.run (step lateEnv) s [.udpResolve lateRequest none false]).isSome) = true := by
    decide +kernel
  obtain ⟨s, hs, hcond⟩ := Option.any_eq_true _ _ |>.mp hrun
  obtain ⟨hd, hsome⟩ := of_decide_eq_true hcond
  obtain ⟨t, ht⟩ := Option.isSome_iff_exists.mp hsome
  exact ⟨s, t, hs, ht, (inert_iff hs hd ht).mpr ⟨rfl, fun _ _ => trivial⟩ t
    ⟨_, List.prefix_rfl, ht⟩⟩

/-- **A late success is acted on.** The resolve that was queued as the session
was destroyed reopens the UDP socket. -/
theorem not_inert_of_late_resolve :
    ¬ ∀ (env : Env) (mode : BootstrapMode) (handoff : Option ExternalFrontHandoff)
      (remoteEndpoint : Option TcpEndpoint) (es fs : List Event) (s u : ServerSession),
      Machine.run (step env) (create mode handoff) (.start remoteEndpoint :: es) = some s →
        s.status = .destroy → Machine.run (step env) s fs = some u → Inert s u := by
  intro hall
  have hrun : (Machine.run (step lateEnv) (create .standardTls none)
      (.start (some {}) :: lateEvents)).any
      (fun s => s.status = .destroy ∧ s.udpSocketOpen = false ∧
        (Machine.run (step lateEnv) s
          [.udpResolve lateRequest (some [lateEndpoint]) false]).any
            (fun u => u.udpSocketOpen)) = true := by
    decide +kernel
  obtain ⟨s, hs, hcond⟩ := Option.any_eq_true _ _ |>.mp hrun
  obtain ⟨hd, hclosed, hlate⟩ := of_decide_eq_true hcond
  obtain ⟨u, hu, hopen⟩ := Option.any_eq_true _ _ |>.mp hlate
  have hin := hall lateEnv .standardTls none (some {}) lateEvents _ s u hs hd hu
  exact absurd (hopen.symm.trans (hin.udpSocket.trans hclosed)) (by simp)

end ServerSession
