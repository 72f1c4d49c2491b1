import Trojan.ClientSession
import Trojan.ForwardSession
import Trojan.UdpForwardSession

/-!
# Destroyed client sessions

The sessions on the client's side – `ClientSession`, `ForwardSession`,
`NATSession` and `UDPForwardSession` – open their tunnel with three operations,
one after the other: a resolve, a connect and a TLS handshake. `destroy` cancels
what is in flight, but it cannot cancel an operation that has completed and
whose handler is in the queue. Most handlers look at the status and leave a
destroyed session alone. The handler of the TLS handshake does not: it sets the
status, begins to read from the tunnel and writes the request to it, and the
session is back (`ClientSession.revived_by_handshake`).

`stays_destroyed_iff` says that in all four classes nothing else brings a
destroyed session back.
-/

open Flight (Mark Settled)

namespace ClientSession

/-- Marks of a read or a write that begins. -/
def isActive : Mark Operation Buffer Note → Bool
  | .began .inRead => true
  | .began (.inWrite _) => true
  | .began .outRead => true
  | .began (.outWrite _) => true
  | .began .udpReceive => true
  | .began (.udpSend _ _) => true
  | _ => false

/-- **The session is inert once it is destroyed**: its status is `DESTROY`
exactly when `destroy` has run, and no read or write has begun after that. -/
def Inert (s : ClientSession) : Prop :=
  Settled (.noted .destroyed) isActive (s.status = .destroy) s.history

/-- A TLS handshake that succeeds for a session that is destroyed. -/
def revives (s : ClientSession) (e : Event) : Bool :=
  s.status = .destroy && e = .tlsHandshake false

namespace Inert

variable {s : ClientSession}

theorem destroy (hs : Inert s) : Inert s.destroy := by
  unfold ClientSession.destroy
  split
  · exact hs
  · dsimp only
    split
    · exact hs.ends [_, _, _] rfl rfl (by simp) (by simp [isActive])
    · exact hs.ends [_] rfl rfl (by simp) (by simp [isActive])

theorem recvGreeting (hs : Inert s) (halive : s.status ≠ .destroy) (data : Bytes) :
    Inert (s.recvGreeting data) := by
  unfold ClientSession.recvGreeting
  split
  · exact hs.destroy
  · split
    · exact hs.goesOn [_, _] rfl halive halive (by simp)
    · exact hs.goesOn [_, _] rfl halive (by simp) (by simp)

theorem recvRequest (hs : Inert s) (halive : s.status ≠ .destroy) (config : Config) (data : Bytes)
    (bound : Option UdpEndpoint) : Inert (s.recvRequest config data bound) := by
  unfold ClientSession.recvRequest
  split
  · exact hs.destroy
  · dsimp only
    split
    · exact hs.goesOn [_, _] rfl halive (by simp) (by simp)
    · split
      · split
        · refine destroy ?_
          exact hs
        · exact hs.goesOn [_, _, _] rfl halive halive (by simp)
      · exact hs.goesOn [_, _] rfl halive halive (by simp)

theorem inRecv (hs : Inert s) (config : Config) (length : ℕ) (bound : Option UdpEndpoint) :
    Inert (s.inRecv config length bound) := by
  have hmodified : Inert
      { s with
          inReadBuf := growAfterRead s.inReadBuf length
          history := .modified .inReadBuf :: s.history } :=
    hs.rests [_] rfl Iff.rfl (by simp [isActive])
  unfold ClientSession.inRecv
  dsimp only
  split
  · rename_i hstatus
    exact hmodified.recvGreeting (by simp [hstatus]) _
  · rename_i hstatus
    exact hmodified.recvRequest (by simp [hstatus]) _ _ _
  · exact hmodified
  · rename_i hstatus
    exact hmodified.goesOn [_, _] rfl (by simp [hstatus])
      (by simp [hstatus, outAsyncWriteBuffer, begins]) (by simp)
  · exact hmodified.destroy
  · exact hmodified

theorem inSent (hs : Inert s) : Inert s.inSent := by
  unfold ClientSession.inSent
  dsimp only
  split
  · rename_i hstatus
    exact hs.goesOn [_] rfl (by simp [hstatus]) (by simp [inAsyncRead, begins]) (by simp)
  · rename_i hstatus
    split
    · exact hs.goesOn [_, _, _] rfl (by simp [hstatus])
        (by simp [inAsyncRead, udpAsyncRead, begins]) (by simp)
    · exact hs.goesOn [_, _] rfl (by simp [hstatus]) (by simp [inAsyncRead, begins]) (by simp)
  · rename_i hstatus
    exact hs.goesOn [_] rfl (by simp [hstatus]) (by simp [hstatus, outAsyncRead, begins]) (by simp)
  · exact hs.destroy
  · exact hs

theorem resolved (hs : Inert s) (results : Option (List IpAddress)) (openError : Bool) :
    Inert (s.resolved results openError) := by
  unfold ClientSession.resolved
  split
  · exact hs.destroy
  · split
    · exact hs.destroy
    · exact hs.rests [_, _] rfl Iff.rfl (by simp [isActive])

/-- The one handler that does not look at the status. -/
theorem handshaken (hs : Inert s) (error : Bool) (h : error = false → s.status ≠ .destroy) :
    Inert (s.handshaken error) := by
  unfold ClientSession.handshaken
  split
  · exact hs.destroy
  · rename_i herror
    refine hs.goesOn [_, _, _, _] rfl (h (by simpa using herror)) ?_ (by simp)
    dsimp only [outAsyncWrite, outAsyncWriteBuffer, outAsyncRead, begins]
    split <;> simp

theorem udpSent (hs : Inert s) : Inert s.udpSent := by
  unfold ClientSession.udpSent
  split
  · rename_i hstatus
    have halive : s.status ≠ .destroy := by simp [hstatus]
    split
    · split
      · exact hs.destroy
      · exact hs.goesOn [_] rfl halive halive (by simp)
    · split
      · exact hs.destroy
      · exact hs.goesOn [_, _] rfl halive halive (by simp)
  · exact hs

theorem outRecv (hs : Inert s) (length : ℕ) : Inert (s.outRecv length) := by
  have hmodified : Inert
      { s with
          outReadBuf := growAfterRead s.outReadBuf length
          history := .modified .outReadBuf :: s.history } :=
    hs.rests [_] rfl Iff.rfl (by simp [isActive])
  unfold ClientSession.outRecv
  dsimp only
  split
  · rename_i hstatus
    have halive : s.status ≠ .destroy := by simp [hstatus]
    exact hmodified.goesOn [_, _] rfl halive halive (by simp)
  · split
    · refine udpSent ?_
      exact hmodified
    · exact hmodified

theorem outSent (hs : Inert s) : Inert s.outSent := by
  unfold ClientSession.outSent
  split
  · rename_i hstatus
    have halive : s.status ≠ .destroy := by simp [hstatus]
    exact hs.goesOn [_] rfl halive halive (by simp)
  · split
    · rename_i hstatus
      have halive : s.status ≠ .destroy := by simp [hstatus]
      exact hs.goesOn [_] rfl halive halive (by simp)
    · exact hs

theorem udpRecv (hs : Inert s) (length : ℕ) : Inert (s.udpRecv length) := by
  have hmodified : Inert
      { s with
          udpReadBuf := growAfterRead s.udpReadBuf length
          history := .modified .udpReadBuf :: s.history } :=
    hs.rests [_] rfl Iff.rfl (by simp [isActive])
  unfold ClientSession.udpRecv
  dsimp only
  split
  · exact hmodified
  · split
    · exact hmodified.destroy
    · split
      · exact hmodified
      · split
        · rename_i hstatus
          have halive : s.status ≠ .destroy := by simp [hstatus]
          exact hmodified.goesOn [_, _] rfl halive halive (by simp)
        · exact hmodified

theorem sslShutdownCb (hs : Inert s) (aborted : Bool) : Inert (s.sslShutdownCb aborted) := by
  unfold ClientSession.sslShutdownCb
  split
  · exact hs
  · exact hs

/-- **A handler leaves a destroyed session inert**, unless it revives it. -/
theorem handle (hs : Inert s) (config : Config) (e : Event)
    (hstart : e.operation = none → s.status ≠ .destroy) (h : s.revives e = false) :
    Inert (s.handle config e) := by
  cases e with
  | start remoteEndpoint =>
    cases remoteEndpoint with
    | none => exact hs.destroy
    | some _ => exact hs.goesOn [_] rfl (hstart rfl) (hstart rfl) (by simp)
  | inRead data bound =>
    cases data with
    | aborted => exact hs
    | failed => exact hs.destroy
    | success data =>
      refine inRecv ?_ config data.length bound
      exact hs
  | inWrite data error =>
    cases error with
    | true => exact hs.destroy
    | false => exact hs.inSent
  | resolve results openError => exact hs.resolved results openError
  | tcpConnect endpoint error =>
    cases error with
    | true => exact hs.destroy
    | false => exact hs.rests [_] rfl Iff.rfl (by simp [isActive])
  | tlsHandshake error =>
    refine hs.handshaken error (fun herror hdestroy => ?_)
    rw [herror] at h
    exact absurd h (by simp [revives, hdestroy])
  | outRead data =>
    cases data with
    | none => exact hs.destroy
    | some data =>
      refine outRecv ?_ data.length
      exact hs
  | outWrite data error =>
    cases error with
    | true => exact hs.destroy
    | false => exact hs.outSent
  | udpReceive received =>
    cases received with
    | aborted => exact hs
    | failed => exact hs.destroy
    | success received =>
      refine udpRecv ?_ received.1.length
      exact hs
  | udpSend data endpoint error =>
    cases error with
    | true => exact hs.destroy
    | false => exact hs.udpSent
  | tlsShutdown aborted => exact hs.sslShutdownCb aborted
  | shutdownTimer aborted => exact hs.sslShutdownCb aborted

theorem receives (hs : Inert s) (e : Event) : Inert (s.receives e) := by
  unfold ClientSession.receives
  split
  · exact hs.rests [_] rfl Iff.rfl (by simp [isActive])
  · exact hs.rests [_, _] rfl Iff.rfl (by simp [isActive])

end Inert

/-- **One step** leaves the session inert exactly when it does not revive it. -/
theorem inert_step_iff {config : Config} {s t : ClientSession} {e : Event} (hs : Inert s)
    (h : step config s e = some t) : Inert t ↔ s.revives e = false := by
  unfold step at h
  split at h
  · rename_i haccepts
    obtain rfl := Option.some.inj h
    have hstatus : (s.receives e).status = s.status := by
      unfold receives
      split
      · rfl
      · rfl
    constructor
    · intro ht
      refine Bool.eq_false_iff.mpr (fun hrevives => ?_)
      obtain ⟨hdestroy, he⟩ := Bool.and_eq_true_iff.mp hrevives
      obtain rfl := of_decide_eq_true he
      -- `destroy` has run, and the handshake has set the status
      have hfinal : .noted .destroyed ∈ s.history := hs.finished.mpr (of_decide_eq_true hdestroy)
      have hfinished := ht.finished.mp (List.mem_append_right [_, _, _, _, _, _] hfinal)
      revert hfinished
      show (if s.isUdp then Status.udpForward else Status.forward) ≠ .destroy
      split
      · exact Status.noConfusion
      · exact Status.noConfusion
    · intro hrevives
      refine (hs.receives e).handle config e (fun hnone hdestroy => ?_) ?_
      · have hfinal := hs.finished.mpr (hstatus.symm.trans hdestroy)
        rw [accepts, hnone] at haccepts
        rw [List.isEmpty_iff.mp haccepts] at hfinal
        exact absurd hfinal List.not_mem_nil
      · rw [revives, hstatus]
        exact hrevives
  · exact absurd h (by simp)

/-- A session that was not started is inert. -/
theorem inert_create : Inert create := ⟨iff_of_false List.not_mem_nil Status.noConfusion, trivial⟩

end ClientSession

namespace ForwardSession

/-- Marks of a read or a write that begins. -/
def isActive : Mark Operation Buffer Note → Bool
  | .began .inRead => true
  | .began (.inWrite _) => true
  | .began .outRead => true
  | .began (.outWrite _) => true
  | _ => false

/-- **The session is inert once it is destroyed.** -/
def Inert (s : ForwardSession) : Prop :=
  Settled (.noted .destroyed) isActive (s.status = .destroy) s.history

/-- A TLS handshake that succeeds for a session that is destroyed. -/
def revives (s : ForwardSession) (e : Event) : Bool :=
  s.status = .destroy && e = .tlsHandshake false

namespace Inert

variable {s : ForwardSession}

theorem destroy (hs : Inert s) : Inert s.destroy := by
  unfold ForwardSession.destroy
  split
  · exact hs
  · dsimp only
    split
    · exact hs.ends [_, _, _] rfl rfl (by simp) (by simp [isActive])
    · exact hs.ends [_] rfl rfl (by simp) (by simp [isActive])

theorem start (hs : Inert s) (halive : s.status ≠ .destroy) (config : Config) (kind : Kind)
    (remoteEndpoint : Option TcpEndpoint) (target : Bytes × UInt16) :
    Inert (s.start config kind remoteEndpoint target) := by
  have hopens (target : Bytes × UInt16) : Inert (s.opensTunnel config target) :=
    hs.goesOn [_, _] rfl halive halive (by simp)
  unfold ForwardSession.start
  split
  · exact hs.destroy
  · exact hopens _
  · split
    · exact hs.destroy
    · exact hopens _

theorem resolved (hs : Inert s) (results : Option (List IpAddress)) (openError : Bool) :
    Inert (s.resolved results openError) := by
  unfold ForwardSession.resolved
  split
  · exact hs.destroy
  · split
    · exact hs.destroy
    · exact hs.rests [_, _] rfl Iff.rfl (by simp [isActive])

/-- The one handler that does not look at the status. -/
theorem handshaken (hs : Inert s) (error : Bool) (h : error = false → s.status ≠ .destroy) :
    Inert (s.handshaken error) := by
  cases error with
  | true => exact hs.destroy
  | false => exact hs.goesOn [_, _, _, _] rfl (h rfl) Status.noConfusion (by simp)

theorem inRecv (hs : Inert s) (length : ℕ) : Inert (s.inRecv length) := by
  have hmodified : Inert
      { s with
          inReadBuf := growAfterRead s.inReadBuf length
          history := .modified .inReadBuf :: s.history } :=
    hs.rests [_] rfl Iff.rfl (by simp [isActive])
  unfold ForwardSession.inRecv
  dsimp only
  split
  · exact hmodified
  · rename_i hstatus
    have halive : s.status ≠ .destroy := by simp [hstatus]
    exact hmodified.goesOn [_, _] rfl halive halive (by simp)
  · exact hmodified

theorem inSent (hs : Inert s) : Inert s.inSent := by
  unfold ForwardSession.inSent
  split
  · rename_i hstatus
    have halive : s.status ≠ .destroy := by simp [hstatus]
    exact hs.goesOn [_] rfl halive halive (by simp)
  · exact hs

theorem outRecv (hs : Inert s) (length : ℕ) : Inert (s.outRecv length) := by
  have hmodified : Inert
      { s with
          outReadBuf := growAfterRead s.outReadBuf length
          history := .modified .outReadBuf :: s.history } :=
    hs.rests [_] rfl Iff.rfl (by simp [isActive])
  unfold ForwardSession.outRecv
  dsimp only
  split
  · rename_i hstatus
    have halive : s.status ≠ .destroy := by simp [hstatus]
    exact hmodified.goesOn [_, _] rfl halive halive (by simp)
  · exact hmodified

theorem outSent (hs : Inert s) : Inert s.outSent := by
  unfold ForwardSession.outSent
  split
  · rename_i hstatus
    have halive : s.status ≠ .destroy := by simp [hstatus]
    exact hs.goesOn [_] rfl halive halive (by simp)
  · exact hs

theorem sslShutdownCb (hs : Inert s) (aborted : Bool) : Inert (s.sslShutdownCb aborted) := by
  unfold ForwardSession.sslShutdownCb
  split
  · exact hs
  · exact hs

/-- **A handler leaves a destroyed session inert**, unless it revives it. -/
theorem handle (hs : Inert s) (config : Config) (kind : Kind) (e : Event)
    (hstart : e.operation = none → s.status ≠ .destroy) (h : s.revives e = false) :
    Inert (s.handle config kind e) := by
  cases e with
  | start remoteEndpoint target => exact hs.start (hstart rfl) config kind remoteEndpoint target
  | inRead data =>
    cases data with
    | aborted => exact hs
    | failed => exact hs.destroy
    | success data =>
      refine inRecv ?_ data.length
      exact hs
  | inWrite data error =>
    cases error with
    | true => exact hs.destroy
    | false => exact hs.inSent
  | resolve results openError => exact hs.resolved results openError
  | tcpConnect endpoint error =>
    cases error with
    | true => exact hs.destroy
    | false => exact hs.rests [_] rfl Iff.rfl (by simp [isActive])
  | tlsHandshake error =>
    refine hs.handshaken error (fun herror hdestroy => ?_)
    rw [herror] at h
    exact absurd h (by simp [revives, hdestroy])
  | outRead data =>
    cases data with
    | none => exact hs.destroy
    | some data =>
      refine outRecv ?_ data.length
      exact hs
  | outWrite data error =>
    cases error with
    | true => exact hs.destroy
    | false => exact hs.outSent
  | tlsShutdown aborted => exact hs.sslShutdownCb aborted
  | shutdownTimer aborted => exact hs.sslShutdownCb aborted

theorem receives (hs : Inert s) (e : Event) : Inert (s.receives e) := by
  unfold ForwardSession.receives
  split
  · exact hs.rests [_] rfl Iff.rfl (by simp [isActive])
  · exact hs.rests [_, _] rfl Iff.rfl (by simp [isActive])

end Inert

/-- **One step** leaves the session inert exactly when it does not revive it. -/
theorem inert_step_iff {config : Config} {kind : Kind} {s t : ForwardSession} {e : Event}
    (hs : Inert s) (h : step config kind s e = some t) : Inert t ↔ s.revives e = false := by
  unfold step at h
  split at h
  · rename_i haccepts
    obtain rfl := Option.some.inj h
    have hstatus : (s.receives e).status = s.status := by
      unfold receives
      split
      · rfl
      · rfl
    constructor
    · intro ht
      refine Bool.eq_false_iff.mpr (fun hrevives => ?_)
      obtain ⟨hdestroy, he⟩ := Bool.and_eq_true_iff.mp hrevives
      obtain rfl := of_decide_eq_true he
      have hfinal : .noted .destroyed ∈ s.history := hs.finished.mpr (of_decide_eq_true hdestroy)
      exact absurd (ht.finished.mp (List.mem_append_right [_, _, _, _, _, _] hfinal))
        Status.noConfusion
    · intro hrevives
      refine (hs.receives e).handle config kind e (fun hnone hdestroy => ?_) ?_
      · have hfinal := hs.finished.mpr (hstatus.symm.trans hdestroy)
        rw [accepts, hnone] at haccepts
        rw [List.isEmpty_iff.mp haccepts] at hfinal
        exact absurd hfinal List.not_mem_nil
      · rw [revives, hstatus]
        exact hrevives
  · exact absurd h (by simp)

/-- A session that was not started is inert. -/
theorem inert_create : Inert create := ⟨iff_of_false List.not_mem_nil Status.noConfusion, trivial⟩

end ForwardSession

namespace UDPForwardSession

/-- Marks of a read or a write that begins, and of a write to the service's
socket. -/
def isActive : Mark Operation Buffer Note → Bool
  | .began .outRead => true
  | .began (.outWrite _) => true
  | .noted (.inWrite _ _) => true
  | _ => false

/-- **The session is inert once it is destroyed.** -/
def Inert (s : UDPForwardSession) : Prop :=
  Settled (.noted .destroyed) isActive (s.status = .destroy) s.history

/-- A TLS handshake that succeeds for a session that is destroyed. -/
def revives (s : UDPForwardSession) (e : Event) : Bool :=
  s.status = .destroy && e = .tlsHandshake false

namespace Inert

variable {s : UDPForwardSession}

theorem destroy (hs : Inert s) : Inert s.destroy := by
  unfold UDPForwardSession.destroy
  split
  · exact hs
  · dsimp only
    split
    · exact hs.ends [_, _, _] rfl rfl (by simp) (by simp [isActive])
    · exact hs.ends [_] rfl rfl (by simp) (by simp [isActive])

theorem resolved (hs : Inert s) (results : Option (List IpAddress)) (openError : Bool) :
    Inert (s.resolved results openError) := by
  unfold UDPForwardSession.resolved
  split
  · exact hs.destroy
  · split
    · exact hs.destroy
    · exact hs.rests [_, _] rfl Iff.rfl (by simp [isActive])

/-- The one handler that does not look at the status. -/
theorem handshaken (hs : Inert s) (error : Bool) (h : error = false → s.status ≠ .destroy) :
    Inert (s.handshaken error) := by
  cases error with
  | true => exact hs.destroy
  | false => exact hs.goesOn [_, _, _, _] rfl (h rfl) Status.noConfusion (by simp)

theorem process (hs : Inert s) (config : Config) (endpoint : UdpEndpoint) (data : Bytes) :
    Inert (s.process config endpoint data).2 := by
  unfold UDPForwardSession.process
  split
  · exact hs
  · show Inert (inRecv config s data)
    unfold inRecv
    dsimp only
    split
    · exact hs
    · rename_i halive
      split
      · exact hs.goesOn [_, _, _] rfl halive Status.noConfusion (by simp)
      · exact hs.goesOn [_] rfl halive halive (by simp)

theorem takeFrames (hs : Inert s) (halive : s.status ≠ .destroy) : Inert s.takeFrames := by
  obtain ⟨payloads, rest, len, heq | heq⟩ := exists_takeFrames s
  · rw [heq]
    refine destroy ?_
    exact hs.goesOn _ rfl halive halive (by simp)
  · rw [heq]
    exact hs.goesOn (.began .outRead :: (payloads.map (.inWrite s.udpRecvEndpoint)).map .noted) rfl
      halive halive (by simp)

theorem outRecv (hs : Inert s) (length : ℕ) : Inert (s.outRecv length) := by
  unfold UDPForwardSession.outRecv
  dsimp only
  split
  · rename_i hstatus
    have halive : s.status ≠ .destroy := by
      rcases hstatus with hstatus | hstatus
      · simp [hstatus]
      · simp [hstatus]
    refine takeFrames ?_ halive
    exact hs.goesOn [_, _] rfl halive halive (by simp)
  · exact hs.rests [_] rfl Iff.rfl (by simp [isActive])

theorem outSent (hs : Inert s) : Inert s.outSent := by
  unfold UDPForwardSession.outSent
  split
  · rename_i hstatus
    have halive : s.status ≠ .destroy := by simp [hstatus]
    split
    · exact hs.goesOn [] rfl halive Status.noConfusion (by simp)
    · exact hs.goesOn [_, _] rfl halive halive (by simp)
  · exact hs

theorem sslShutdownCb (hs : Inert s) (aborted : Bool) : Inert (s.sslShutdownCb aborted) := by
  unfold UDPForwardSession.sslShutdownCb
  split
  · exact hs
  · exact hs

/-- **A handler leaves a destroyed session inert**, unless it revives it. -/
theorem handle (hs : Inert s) (config : Config) (e : Event) (h : s.revives e = false) :
    Inert (s.handle config e) := by
  cases e with
  | start => exact hs.rests [_, _] rfl Iff.rfl (by simp [isActive])
  | resolve results openError => exact hs.resolved results openError
  | tcpConnect endpoint error =>
    cases error with
    | true => exact hs.destroy
    | false => exact hs.rests [_] rfl Iff.rfl (by simp [isActive])
  | tlsHandshake error =>
    refine hs.handshaken error (fun herror hdestroy => ?_)
    rw [herror] at h
    exact absurd h (by simp [revives, hdestroy])
  | process endpoint data => exact hs.process config endpoint data
  | outRead data =>
    cases data with
    | none => exact hs.destroy
    | some data =>
      refine outRecv ?_ data.length
      exact hs
  | outWrite data error =>
    cases error with
    | true => exact hs.destroy
    | false => exact hs.outSent
  | timer error =>
    cases error with
    | true => exact hs
    | false => exact hs.destroy
  | tlsShutdown aborted => exact hs.sslShutdownCb aborted
  | shutdownTimer aborted => exact hs.sslShutdownCb aborted

theorem receives (hs : Inert s) (e : Event) : Inert (s.receives e) := by
  unfold UDPForwardSession.receives
  split
  · exact hs.rests [_] rfl Iff.rfl (by simp [isActive])
  · exact hs.rests [_, _] rfl Iff.rfl (by simp [isActive])

end Inert

/-- **One step** leaves the session inert exactly when it does not revive it. -/
theorem inert_step_iff {config : Config} {s t : UDPForwardSession} {e : Event} (hs : Inert s)
    (h : step config s e = some t) : Inert t ↔ s.revives e = false := by
  unfold step at h
  split at h
  · obtain rfl := Option.some.inj h
    have hstatus : (s.receives e).status = s.status := by
      unfold receives
      split
      · rfl
      · rfl
    constructor
    · intro ht
      refine Bool.eq_false_iff.mpr (fun hrevives => ?_)
      obtain ⟨hdestroy, he⟩ := Bool.and_eq_true_iff.mp hrevives
      obtain rfl := of_decide_eq_true he
      have hfinal : .noted .destroyed ∈ s.history := hs.finished.mpr (of_decide_eq_true hdestroy)
      exact absurd (ht.finished.mp (List.mem_append_right [_, _, _, _, _, _] hfinal))
        Status.noConfusion
    · intro hrevives
      refine (hs.receives e).handle config e ?_
      rw [revives, hstatus]
      exact hrevives
  · exact absurd h (by simp)

/-- A session that was not started is inert. -/
theorem inert_create (peer : UdpEndpoint) : Inert (create peer) :=
  ⟨iff_of_false List.not_mem_nil Status.noConfusion, trivial⟩

end UDPForwardSession

/-- **When destroyed sessions stay destroyed.** In every run of a session of any
of the four classes, the session is inert once it is destroyed, at every moment,
exactly when no TLS handshake that has succeeded is handled after `destroy`. -/
theorem stays_destroyed_iff (config : Config) :
    (∀ es s, Machine.run (ClientSession.step config) .create es = some s →
        ((∀ t, Machine.Visits (ClientSession.step config) .create es t → t.Inert)
          ↔ Machine.Along (ClientSession.step config) (fun t e => t.revives e = false) .create es))
      ∧ (∀ kind es s, Machine.run (ForwardSession.step config kind) .create es = some s →
        ((∀ t, Machine.Visits (ForwardSession.step config kind) .create es t → t.Inert)
          ↔ Machine.Along (ForwardSession.step config kind) (fun t e => t.revives e = false)
            .create es))
      ∧ (∀ peer es s, Machine.run (UDPForwardSession.step config) (.create peer) es = some s →
        ((∀ t, Machine.Visits (UDPForwardSession.step config) (.create peer) es t → t.Inert)
          ↔ Machine.Along (UDPForwardSession.step config) (fun t e => t.revives e = false)
            (.create peer) es)) := by
  refine ⟨fun es s hrun => ?_, fun kind es s hrun => ?_, fun peer es s hrun => ?_⟩
  · exact Machine.forall_visits_iff_along (I := fun _ => True) (fun _ _ _ _ _ _ _ => trivial)
      (fun s e t _ hs h => ClientSession.inert_step_iff hs h) trivial ClientSession.inert_create
      hrun
  · exact Machine.forall_visits_iff_along (I := fun _ => True) (fun _ _ _ _ _ _ _ => trivial)
      (fun s e t _ hs h => ForwardSession.inert_step_iff hs h) trivial ForwardSession.inert_create
      hrun
  · exact Machine.forall_visits_iff_along (I := fun _ => True) (fun _ _ _ _ _ _ _ => trivial)
      (fun s e t _ hs h => UDPForwardSession.inert_step_iff hs h) trivial
      (UDPForwardSession.inert_create peer) hrun

namespace ClientSession

/-- An application that asks for a connection, and a server that answers. -/
def openingEvents : List Event :=
  [.start (some {}), .inRead (.success [5, 1, 0]) none, .inWrite [5, 0] false,
    .inRead (.success [5, 1, 0, 1, 192, 0, 2, 9, 0, 80]) none,
    .inWrite [5, 0, 0, 1, 0, 0, 0, 0, 0, 0] false,
    .resolve (some [.v4 (IpAddress.example4 2)]) false,
    .tcpConnect (.v4 (IpAddress.example4 2)) false]

/-- The application goes, and its session is inert. -/
theorem stays_destroyed_of_failed_handshake :
    ∃ s, Machine.run (step {}) create
        (openingEvents ++ [.inRead .failed none, .tlsHandshake true]) = some s
      ∧ s.status = .destroy ∧ s.Inert := by
  have hrun : (Machine.run (step {}) create
      (openingEvents ++ [.inRead .failed none, .tlsHandshake true])).any
      (fun s => s.status = .destroy) = true := by
    decide +kernel
  obtain ⟨s, hs, hall⟩ := Option.any_eq_true _ _ |>.mp hrun
  refine ⟨s, hs, of_decide_eq_true hall, ?_⟩
  exact ((stays_destroyed_iff {}).1 _ s hs).mpr (by decide +kernel) s ⟨_, List.prefix_rfl, hs⟩

/-- **A destroyed session comes back**: the application goes while the TLS
handshake is in flight, and the handshake succeeds. The session forwards again,
and has written to the tunnel. -/
theorem revived_by_handshake :
    ∃ s, Machine.run (step {}) create
        (openingEvents ++ [.inRead .failed none, .tlsHandshake false]) = some s
      ∧ .noted .destroyed ∈ s.history ∧ s.status = .forward
      ∧ .outWrite s.outWriteBuf ∈ s.pending ∧ ¬ s.Inert := by
  have hrun : (Machine.run (step {}) create
      (openingEvents ++ [.inRead .failed none, .tlsHandshake false])).any
      (fun s => .noted .destroyed ∈ s.history ∧ s.status = .forward
        ∧ .outWrite s.outWriteBuf ∈ s.pending) = true := by
    decide +kernel
  obtain ⟨s, hs, hall⟩ := Option.any_eq_true _ _ |>.mp hrun
  obtain ⟨hdestroyed, hstatus, hwrite⟩ := of_decide_eq_true hall
  refine ⟨s, hs, hdestroyed, hstatus, hwrite, fun hinert => ?_⟩
  exact absurd ((hinert.finished.mp hdestroyed).symm.trans hstatus) Status.noConfusion

end ClientSession
