import Trojan.Socks5Dialogue
import Trojan.UplinkFrames

/-!
# What an application is told

Everything a client session writes to the connection of its application is either
an answer in SOCKS5 – one to the greeting, one to the request – or what it has read
from the tunnel. `ClientSession.Speaks` says in which order: once the request is
accepted, the application has been sent the two answers and then, byte for byte,
what was read from the tunnel while it was relayed. A session keeps to this also
through the faults of its uplink, since nothing that goes wrong there writes to the
application.

The same invariant remembers which request was accepted, and that there was one.
-/

namespace ClientSession

open Flight

/-! ## Readings of the history -/

/-- The bytes of a read from the tunnel, whatever becomes of it. -/
def fromTunnel : Mark Operation Buffer Note → Bytes
  | .noted (.handled _ (.outRead (some data))) => data
  | _ => []

/-- The bytes of a read from the tunnel in a status. Those that are read in `FORWARD` are
relayed to the application. -/
def returned (status : Status) : Mark Operation Buffer Note → Bytes
  | .noted (.handled status' (.outRead (some data))) => if status' = status then data else []
  | _ => []

/-- What a mark adds to the request. -/
def asked (config : Config) : Mark Operation Buffer Note → Bytes :=
  Pump.Reading.byNote (reading config false).header

/-- The marks that tell the application nothing. -/
def isMute : Mark Operation Buffer Note → Bool
  | .noted (.handled _ _) => false
  | .began (.inWrite _) => false
  | _ => true

/-- The marks that do not open the tunnel either. -/
def isIdle : Mark Operation Buffer Note → Bool
  | .noted .tunnelEstablished => false
  | .began op => !op.opensTunnel && isMute (.began op)
  | m => isMute m

theorem isMute_of_isIdle {m : Mark Operation Buffer Note} (h : isIdle m = true) :
    isMute m = true := by
  cases m with
  | noted n => cases n <;> first | exact h | rfl
  | began op => exact (Bool.and_eq_true_iff.mp h).2
  | _ => exact h

/-- What mute marks are to the readings. -/
theorem readings_of_isMute (config : Config) {m : Mark Operation Buffer Note}
    (h : isMute m = true) :
    fromTunnel m = [] ∧ (∀ status, returned status m = []) ∧ asked config m = []
      ∧ answering m = [] := by
  cases m with
  | noted n =>
    cases n with
    | handled status e => exact absurd h Bool.false_ne_true
    | _ => exact ⟨rfl, fun _ => rfl, rfl, rfl⟩
  | began op =>
    cases op with
    | inWrite data => exact absurd h Bool.false_ne_true
    | _ => exact ⟨rfl, fun _ => rfl, rfl, rfl⟩
  | _ => exact ⟨rfl, fun _ => rfl, rfl, rfl⟩

/-- **A session goes on without a word** to the application, or to a tunnel that is
not open. -/
structure Idles (s t : ClientSession) : Prop where
  marks : ∃ new, t.history = new ++ s.history ∧ (∀ m ∈ new, isIdle m = true)
    ∧ (.began .outRead ∈ new → s.status = .forward ∨ s.status = .udpForward)
  status : t.status = s.status ∨ t.status = .destroy
  isUdp : t.isUdp = s.isUdp

namespace Idles

variable {r s t : ClientSession}

theorem refl (s : ClientSession) : Idles s s := ⟨⟨[], rfl, by simp, by simp⟩, .inl rfl, rfl⟩

theorem adds (hs : Idles r s) (new : History) (ht : t.history = new ++ s.history)
    (hnew : ∀ m ∈ new, isIdle m = true)
    (hreads : .began .outRead ∈ new → s.status = .forward ∨ s.status = .udpForward)
    (hstatus : t.status = s.status ∨ t.status = .destroy) (hudp : t.isUdp = s.isUdp) :
    Idles r t := by
  obtain ⟨old, hold, hidle, hread⟩ := hs.marks
  refine ⟨⟨new ++ old, by rw [ht, hold, List.append_assoc], fun m hm => ?_, fun hm => ?_⟩, ?_,
    hudp.trans hs.isUdp⟩
  · exact (List.mem_append.mp hm).elim (hnew m) (hidle m)
  · rcases List.mem_append.mp hm with hm | hm
    · -- the session was not destroyed then, and so had its status before
      have hforward := hreads hm
      rcases hs.status with h | h
      · rwa [h] at hforward
      · exact absurd hforward (by rw [h]; simp)
    · exact hread hm
  · rcases hstatus with h | h
    · rw [h]
      exact hs.status
    · exact .inr h

theorem destroy (hs : Idles r s) : Idles r s.destroy := by
  unfold ClientSession.destroy
  split
  · exact hs
  · dsimp only
    split
    · exact hs.adds [_, _, _] rfl (by simp [isIdle, isMute, Operation.opensTunnel]) (by simp)
        (.inr rfl) rfl
    · exact hs.adds [_] rfl (by simp [isIdle, isMute]) (by simp) (.inr rfl) rfl

theorem udpSent (hs : Idles r s) : Idles r s.udpSent := by
  unfold ClientSession.udpSent
  dsimp only
  split
  · rename_i hforward
    split
    · split
      · exact hs.destroy
      · exact hs.adds [_] rfl (by simp [isIdle, isMute, Operation.opensTunnel])
          (fun _ => .inr hforward) (.inl rfl) rfl
    · split
      · exact hs.destroy
      · exact hs.adds [_, _] rfl (by simp [isIdle, isMute, Operation.opensTunnel]) (by simp)
          (.inl rfl) rfl
  · exact hs

/-- A read from the application, once the request is answered. -/
theorem inRecv (hs : Idles r s) (hphase : s.phase ≠ .idle) (config : Config) (length : ℕ)
    (bound : Option UdpEndpoint) : Idles r (s.inRecv config length bound) := by
  have hmodified : Idles r
      { s with
          inReadBuf := growAfterRead s.inReadBuf length
          history := .modified .inReadBuf :: s.history } :=
    hs.adds [_] rfl (by simp [isIdle, isMute]) (by simp) (.inl rfl) rfl
  unfold ClientSession.inRecv
  dsimp only
  split
  · rename_i hstatus
    exact absurd (by rw [phase, hstatus]) hphase
  · rename_i hstatus
    exact absurd (by rw [phase, hstatus]) hphase
  · exact hmodified.adds [] rfl (by simp) (by simp) (.inl rfl) rfl
  · exact hmodified.adds [_, _] rfl (by simp [isIdle, isMute, Operation.opensTunnel]) (by simp)
      (.inl rfl) rfl
  · exact hmodified.destroy
  · exact hmodified

theorem inSent (hs : Idles r s) (hphase : s.phase ≠ .idle) : Idles r s.inSent := by
  unfold ClientSession.inSent
  dsimp only
  split
  · rename_i hstatus
    exact absurd (by rw [phase, hstatus]) hphase
  · rename_i hstatus
    exact absurd (by rw [phase, hstatus]) hphase
  · rename_i hforward
    exact hs.adds [_] rfl (by simp [isIdle, isMute, Operation.opensTunnel])
      (fun _ => .inl hforward) (.inl rfl) rfl
  · exact hs.destroy
  · exact hs

theorem outSent (hs : Idles r s) : Idles r s.outSent := by
  unfold ClientSession.outSent
  split
  · exact hs.adds [_] rfl (by simp [isIdle, isMute, Operation.opensTunnel]) (by simp) (.inl rfl)
      rfl
  · split
    · exact hs.adds [_] rfl (by simp [isIdle, isMute, Operation.opensTunnel]) (by simp)
        (.inl rfl) rfl
    · exact hs

theorem udpRecv (hs : Idles r s) (length : ℕ) : Idles r (s.udpRecv length) := by
  have hmodified : Idles r
      { s with
          udpReadBuf := growAfterRead s.udpReadBuf length
          history := .modified .udpReadBuf :: s.history } :=
    hs.adds [_] rfl (by simp [isIdle, isMute]) (by simp) (.inl rfl) rfl
  unfold ClientSession.udpRecv
  dsimp only
  split
  · exact hmodified
  · split
    · exact hmodified.destroy
    · split
      · exact hmodified.adds [] rfl (by simp) (by simp) (.inl rfl) rfl
      · split
        · exact hmodified.adds [_, _] rfl (by simp [isIdle, isMute, Operation.opensTunnel])
            (by simp) (.inl rfl) rfl
        · exact hmodified.adds [] rfl (by simp) (by simp) (.inl rfl) rfl

/-- A read from the tunnel that is not relayed. -/
theorem outRecv (hs : Idles r s) (hforward : s.status ≠ .forward) (length : ℕ) :
    Idles r (s.outRecv length) := by
  have hmodified : Idles r
      { s with
          outReadBuf := growAfterRead s.outReadBuf length
          history := .modified .outReadBuf :: s.history } :=
    hs.adds [_] rfl (by simp [isIdle, isMute]) (by simp) (.inl rfl) rfl
  unfold ClientSession.outRecv
  dsimp only
  split
  · rename_i hstatus
    exact absurd hstatus hforward
  · split
    · refine udpSent ?_
      exact hmodified.adds [] rfl (by simp) (by simp) (.inl rfl) rfl
    · exact hmodified

/-- **A session past its request idles**, unless it opens the tunnel or relays what
it has read from it. -/
theorem handle {e : Event} {op : Operation} (hs : Idles r s) (config : Config)
    (hop : e.operation = some op) (hphase : s.phase ≠ .idle) (hopens : op.opensTunnel = false)
    (hread : ∀ data, e = .outRead (some data) → s.status ≠ .forward) :
    Idles r (s.handle config e) := by
  cases e with
  | start remoteEndpoint => exact absurd hop (by simp [Event.operation])
  | inRead data bound =>
    cases data with
    | aborted => exact hs
    | failed => exact hs.destroy
    | success data =>
      refine inRecv ?_ ?_ config _ _
      · exact hs.adds [] rfl (by simp) (by simp) (.inl rfl) rfl
      · exact hphase
  | inWrite data error =>
    cases error with
    | true => exact hs.destroy
    | false => exact hs.inSent hphase
  | outRead data =>
    cases data with
    | none => exact hs.destroy
    | some data =>
      refine outRecv ?_ ?_ _
      · exact hs.adds [] rfl (by simp) (by simp) (.inl rfl) rfl
      · exact hread data rfl
  | outWrite data error =>
    cases error with
    | true => exact hs.destroy
    | false => exact hs.outSent
  | udpReceive received =>
    cases received with
    | aborted => exact hs
    | failed => exact hs.destroy
    | success received =>
      refine udpRecv ?_ _
      exact hs.adds [] rfl (by simp) (by simp) (.inl rfl) rfl
  | udpSend data endpoint error =>
    cases error with
    | true => exact hs.destroy
    | false => exact hs.udpSent
  | tlsShutdown aborted =>
    cases aborted with
    | true => exact hs
    | false => exact hs.adds [] rfl (by simp) (by simp) (.inl rfl) rfl
  | shutdownTimer aborted =>
    cases aborted with
    | true => exact hs
    | false => exact hs.adds [] rfl (by simp) (by simp) (.inl rfl) rfl
  | _ => obtain rfl := Option.some.inj hop; exact absurd hopens (by simp [Operation.opensTunnel])

end Idles

/-! ## What the application has been told -/

/-- The answer to a request that is accepted. -/
def Granted (udp : Bool) (reply : Bytes) : Prop :=
  if udp then ∃ endpoint, reply = [5, 0, 0] ++ SOCKS5Address.generate endpoint
  else reply = [5, 0, 0, 1, 0, 0, 0, 0, 0, 0]

theorem granted_tcp {udp : Bool} (h : ¬ udp = true) :
    Granted udp [5, 0, 0, 1, 0, 0, 0, 0, 0, 0] := by
  rw [Granted, if_neg h]

theorem granted_udp {udp : Bool} (h : udp = true) (endpoint : UdpEndpoint) :
    Granted udp ([5, 0, 0] ++ SOCKS5Address.generate endpoint) := by
  rw [Granted, if_pos h]
  exact ⟨endpoint, rfl⟩

/-- **A session serves its application**: it has made the request, and sent the two
answers and then what it was to relay. -/
def Serves (config : Config) (s : ClientSession) : Prop :=
  collect (asked config) s.history ≠ []
    ∧ ∃ reply, Granted s.isUdp reply
      ∧ s.answers.flatten = [5, 0] ++ reply ++ collect (returned .forward) s.history

/-- A history has the request that was accepted, or none was. -/
def Asked (config : Config) (h : History) : Prop :=
  collect (asked config) h = []
    ∨ ∃ data bound, .noted (.handled .request (.inRead (.success data) bound)) ∈ h
      ∧ acceptedRequest config data bound = some (collect (asked config) h)

/-- It keeps the request, unless another one is accepted. -/
theorem Asked.mono {config : Config} {h h' : History} (hs : Asked config h) (hsuffix : h <:+ h')
    (heq : collect (asked config) h' = collect (asked config) h) : Asked config h' := by
  unfold Asked
  rw [heq]
  refine hs.imp_right (fun hsome => ?_)
  obtain ⟨data, bound, hmem, haccepted⟩ := hsome
  exact ⟨data, bound, hsuffix.subset hmem, haccepted⟩

/-- **What a session has told its application**, and which request it has
accepted. -/
structure Speaks (config : Config) (s : ClientSession) : Prop where
  asked : Asked config s.history
  unreturned : s.phase = .idle → collect (returned .forward) s.history = []
  unopened : s.phase = .idle → .noted .tunnelEstablished ∉ s.history
  greeted : s.status = .handshake →
    (.inRead ∈ s.pending → s.answers = [])
      ∧ ∀ data, .inWrite data ∈ s.pending → s.answers = [[5, 0]]
  requesting : s.status = .request →
    (.inRead ∈ s.pending → s.answers = [[5, 0]])
      ∧ ∀ data, .inWrite data ∈ s.pending → collect (ClientSession.asked config) s.history ≠ []
        ∧ ∃ reply, Granted s.isUdp reply ∧ s.answers = [[5, 0], reply]
  serves : (s.status = .connect ∨ s.status = .forward ∨ s.status = .udpForward)
      ∨ (∃ op ∈ s.pending, op.opensTunnel = true)
      ∨ .noted .tunnelEstablished ∈ s.history → Serves config s

variable {config : Config} {s t u : ClientSession} {e : Event} {op : Operation}

/-- A reading of what follows a completion. -/
theorem collect_of_completion {α : Type} {f : Mark Operation Buffer Note → List α}
    (hop : e.operation = some op) {new : History} (ht : t.history = new ++ (s.receives e).history)
    (hended : f (.ended op) = []) :
    collect f t.history
      = collect f s.history ++ f (.noted (.handled s.status e)) ++ collect f new := by
  rw [ht, collect_append, receives, hop]
  show collect f (.ended op :: .noted (.handled s.status e) :: s.history) ++ _ = _
  rw [collect_cons, collect_cons, hended, List.append_nil]

/-- A completion keeps what has happened. -/
theorem suffix_of_completion (hop : e.operation = some op) {new : History}
    (ht : t.history = new ++ (s.receives e).history) : s.history <:+ t.history := by
  rw [ht, receives, hop]
  exact ⟨new ++ [.ended op, .noted (.handled s.status e)], List.append_assoc _ _ _⟩

/-- Mute marks add nothing to a reading of this module. -/
theorem collect_eq_nil {α : Type} {f : Mark Operation Buffer Note → List α} {new : History}
    (hnew : ∀ m ∈ new, f m = []) : collect f new = [] :=
  (congrArg (collect f) (List.append_nil new).symm).trans (collect_append_of_silent hnew)

/-- What is in flight after a completion was in flight, or has begun. -/
theorem mem_pending_of_completion {o : Operation} (hop : e.operation = some op) {new : History}
    (ht : t.history = new ++ (s.receives e).history)
    (hnew : ∀ m ∈ new, m ≠ .began o) (hmem : o ∈ t.pending) : o ∈ s.pending := by
  have hbegan (new : History) (h : History) (hnew : ∀ m ∈ new, m ≠ .began o)
      (hmem : o ∈ inFlight (new ++ h)) : o ∈ inFlight h := by
    induction new with
    | nil => exact hmem
    | cons m new ih =>
      refine ih (fun m hm => hnew m (List.mem_cons_of_mem _ hm)) ?_
      cases m with
      | began o' =>
        rcases List.mem_cons.mp hmem with rfl | hmem
        · exact absurd rfl (hnew _ List.mem_cons_self)
        · exact hmem
      | ended o' => exact List.mem_of_mem_erase hmem
      | _ => exact hmem
  have hrest := hbegan new _ hnew (by rw [← ht]; exact hmem)
  rw [receives, hop] at hrest
  exact List.mem_of_mem_erase hrest

/-- The note of a completion says that the tunnel is there only if it was. -/
theorem mem_of_established (hop : e.operation = some op) {new : History}
    (ht : t.history = new ++ (s.receives e).history)
    (hnew : .noted .tunnelEstablished ∉ new) (hmem : .noted .tunnelEstablished ∈ t.history) :
    .noted .tunnelEstablished ∈ s.history := by
  rw [ht, receives, hop, List.mem_append] at hmem
  rcases hmem with hmem | hmem
  · exact absurd hmem hnew
  · simpa using hmem

/-- The completions that add to the request. -/
theorem asked_handled (hstatus : s.status ≠ .request) (e : Event) :
    asked config (.noted (.handled s.status e)) = [] := by
  show (reading config false).header (.handled s.status e) = []
  unfold reading
  dsimp only
  split
  · rename_i heq
    obtain ⟨rfl, -⟩ := Note.handled.inj heq
    exact if_neg hstatus
  · rfl

/-- The completions that bring something back. -/
theorem returned_handled {status : Status}
    (h : ∀ data, e = .outRead (some data) → s.status ≠ status) :
    returned status (.noted (.handled s.status e)) = [] := by
  unfold returned
  split
  · rename_i heq
    obtain ⟨rfl, he⟩ := Note.handled.inj (Mark.noted.inj heq)
    exact if_neg (h _ he)
  · rfl

/-- **A session past its request goes on without a word.** -/
theorem Speaks.idles (hs : Speaks config s) (hop : e.operation = some op)
    (hphase : s.phase ≠ .idle) (hrelays : t.phase ≠ .idle) (hidles : Idles (s.receives e) t)
    (hread : ∀ data, e = .outRead (some data) → s.status ≠ .forward) : Speaks config t := by
  obtain ⟨new, hnew, hidle, -⟩ := hidles.marks
  have hmute (m) (hm : m ∈ new) := readings_of_isMute config (isMute_of_isIdle (hidle m hm))
  have hstatus : t.status = s.status ∨ t.status = .destroy := by
    have hst : (s.receives e).status = s.status := by rw [receives, hop]
    rw [← hst]
    exact hidles.status
  have hudp : t.isUdp = s.isUdp := hidles.isUdp.trans (by rw [receives, hop])
  have hasked : collect (ClientSession.asked config) t.history
      = collect (ClientSession.asked config) s.history := by
    rw [collect_of_completion hop hnew rfl, collect_eq_nil (fun m hm => (hmute m hm).2.2.1),
      asked_handled (fun h => hphase (by rw [phase, h])), List.append_nil, List.append_nil]
  have hreturned : collect (returned .forward) t.history
      = collect (returned .forward) s.history := by
    rw [collect_of_completion hop hnew rfl, collect_eq_nil (fun m hm => (hmute m hm).2.1 .forward),
      returned_handled hread, List.append_nil, List.append_nil]
  have hanswers : t.answers = s.answers := by
    show collect answering t.history = collect answering s.history
    rw [collect_of_completion hop hnew rfl, collect_eq_nil (fun m hm => (hmute m hm).2.2.2),
      List.append_nil]
    exact List.append_nil _
  refine ⟨hs.asked.mono (suffix_of_completion hop hnew) hasked, fun h => absurd h hrelays,
    fun h => absurd h hrelays,
    fun h => absurd (by rw [phase, h]) hrelays, fun h => absurd (by rw [phase, h]) hrelays,
    fun h => ?_⟩
  have hserves : Serves config s := by
    refine hs.serves ?_
    rcases h with h | ⟨o, ho, hopens⟩ | h
    · left
      rcases hstatus with hst | hst
      · rw [← hst]
        exact h
      · rw [hst] at h
        exact absurd h (by simp)
    · refine .inr (.inl ⟨o, mem_pending_of_completion hop hnew (fun m hm => ?_) ho, hopens⟩)
      rintro rfl
      exact absurd (Bool.and_eq_true_iff.mp (hidle _ hm)).1 (by simp [hopens])
    · refine .inr (.inr (mem_of_established hop hnew (fun hm => ?_) h))
      exact absurd (hidle _ hm) Bool.false_ne_true
  obtain ⟨hmade, reply, hgranted, hsaid⟩ := hserves
  exact ⟨hasked ▸ hmade, reply, hudp ▸ hgranted, by rw [hanswers, hreturned, hsaid]⟩

/-- **A session that serves** goes on opening the tunnel, or relays a read. -/
theorem Speaks.serving (hs : Speaks config s) (hserves : Serves config s)
    (hop : e.operation = some op) (hphase : s.phase ≠ .idle) (hrelays : t.phase ≠ .idle)
    (hudp : t.isUdp = s.isUdp) (new : History) (ht : t.history = new ++ (s.receives e).history)
    (hasked : collect (ClientSession.asked config) new = [])
    (hreturned : collect (returned .forward) new = [])
    (htold : (collect answering new).flatten = returned .forward (.noted (.handled s.status e))) :
    Speaks config t where
  asked := by
    refine hs.asked.mono (suffix_of_completion hop ht) ?_
    rw [collect_of_completion hop ht rfl, hasked,
      asked_handled (fun h => hphase (by rw [phase, h])), List.append_nil, List.append_nil]
  unreturned h := absurd h hrelays
  unopened h := absurd h hrelays
  greeted h := absurd (by rw [phase, h]) hrelays
  requesting h := absurd (by rw [phase, h]) hrelays
  serves _ := by
    obtain ⟨hmade, reply, hgranted, hsaid⟩ := hserves
    refine ⟨?_, reply, hudp ▸ hgranted, ?_⟩
    · rw [collect_of_completion hop ht rfl, List.append_assoc]
      exact List.append_ne_nil_of_left_ne_nil hmade _
    have hanswers : t.answers = s.answers ++ collect answering new := by
      show collect answering t.history = _
      rw [collect_of_completion hop ht rfl]
      exact congrArg (· ++ _) (List.append_nil _)
    rw [hanswers, List.flatten_append, hsaid, htold, collect_of_completion hop ht rfl, hreturned,
      List.append_nil, List.append_assoc]

/-- The handlers that open the tunnel tell the application nothing. -/
theorem mute_of_opens (config : Config) (u : ClientSession) (hop : e.operation = some op)
    (hopens : op.opensTunnel = true) :
    ∃ new, (u.handle config e).history = new ++ u.history ∧ ∀ m ∈ new, isMute m = true := by
  have hdestroy :
      ∃ new, u.destroy.history = new ++ u.history ∧ ∀ m ∈ new, isMute m = true := by
    obtain ⟨new, hnew, hidle, -⟩ := (Idles.refl u).destroy.marks
    exact ⟨new, hnew, fun m hm => isMute_of_isIdle (hidle m hm)⟩
  cases e with
  | resolve results openError =>
    show ∃ new, (u.resolved results openError).history = new ++ u.history ∧ _
    unfold resolved
    split
    · exact hdestroy
    · split
      · exact hdestroy
      · exact ⟨[_, _], rfl, by simp [isMute]⟩
  | tcpConnect endpoint error =>
    cases error with
    | true => exact hdestroy
    | false => exact ⟨[_], rfl, by simp [isMute]⟩
  | tlsHandshake error =>
    cases error with
    | true => exact hdestroy
    | false => exact ⟨[_, _, _, _], rfl, by simp [isMute]⟩
  | start remoteEndpoint => exact absurd hop (by simp [Event.operation])
  | _ => obtain rfl := Option.some.inj hop; exact absurd hopens (by simp [Operation.opensTunnel])

/-- **A session past its request**, step by step. -/
theorem Speaks.relays (hs : Speaks config s) (hrelays : Relays s.isUdp s)
    (hop : e.operation = some op) (hmem : op ∈ s.pending) :
    Speaks config ((s.receives e).handle config e) := by
  have hphase := hrelays.phase_ne_idle
  have hnext : Relays s.isUdp ((s.receives e).handle config e) :=
    (hrelays.receives e).handle config (by rw [hop]; exact Option.some_ne_none op)
  have hphase' := hnext.phase_ne_idle
  have hrphase : (s.receives e).phase ≠ .idle := by
    rw [receives, hop]
    exact hphase
  by_cases hopens : op.opensTunnel = true
  · have hserves : Serves config s := hs.serves (.inr (.inl ⟨op, hmem, hopens⟩))
    obtain ⟨new, hnew, hall⟩ := mute_of_opens config (s.receives e) hop hopens
    have hmute (m) (hm : m ∈ new) := readings_of_isMute config (hall m hm)
    refine hs.serving hserves hop hphase hphase' hnext.isUdp new hnew
      (collect_eq_nil (fun m hm => (hmute m hm).2.2.1))
      (collect_eq_nil (fun m hm => (hmute m hm).2.1 .forward)) ?_
    rw [collect_eq_nil (fun m hm => (hmute m hm).2.2.2), returned_handled]
    · rfl
    · rintro data rfl
      obtain rfl := Option.some.inj hop
      exact absurd hopens Bool.false_ne_true
  · have hopens := Bool.eq_false_iff.mpr hopens
    by_cases hread : ∃ data, e = .outRead (some data) ∧ s.status = .forward
    · obtain ⟨data, rfl, hforward⟩ := hread
      have hhistory : ((s.receives (.outRead (some data))).handle config
          (.outRead (some data))).history = [.began (.inWrite data), .modified .inWriteData,
            .modified .outReadBuf] ++ (s.receives (.outRead (some data))).history := by
        show (outRecv { s.receives (.outRead (some data)) with
          outReadBuf := fillBuffer s.outReadBuf data } data.length).history = _
        unfold outRecv
        dsimp only
        rw [if_pos (by exact hforward), take_growAfterRead]
        rfl
      refine hs.serving (hs.serves (.inl (.inr (.inl hforward)))) hop hphase hphase' hnext.isUdp _
        hhistory rfl rfl ?_
      rw [hforward]
      exact List.append_nil data
    · have hread (data : Bytes) (he : e = .outRead (some data)) : s.status ≠ .forward :=
        fun hforward => hread ⟨data, he, hforward⟩
      refine hs.idles hop hphase hphase' ((Idles.refl _).handle config hop hrphase hopens ?_) hread
      intro data he
      rw [receives, hop]
      exact hread data he

/-! ### The dialogue -/

/-- **A session that speaks SOCKS5 answers, or ends.** -/
theorem Speaks.answering (hs : Speaks config s) (hgreets : Greets config s)
    (hop : e.operation = some op) (new : History) (ht : t.history = new ++ (s.receives e).history)
    (hnew : ∀ m ∈ new, isIdle m = true ∨ ∃ data, m = .began (.inWrite data))
    (hstatus : ¬ (t.status = .connect ∨ t.status = .forward ∨ t.status = .udpForward))
    (hasked : ClientSession.asked config (.noted (.handled s.status e)) = []
      ∨ collect (ClientSession.asked config) s.history = [] ∧ s.status = .request
        ∧ ∃ data bound, e = .inRead (.success data) bound ∧ acceptedRequest config data bound
          = some (ClientSession.asked config (.noted (.handled s.status e))))
    (hgreeted : t.status = .handshake → (.inRead ∈ t.pending → t.answers = [])
      ∧ ∀ data, .inWrite data ∈ t.pending → t.answers = [[5, 0]])
    (hrequesting : t.status = .request → (.inRead ∈ t.pending → t.answers = [[5, 0]])
      ∧ ∀ data, .inWrite data ∈ t.pending → collect (ClientSession.asked config) t.history ≠ []
        ∧ ∃ reply, Granted t.isUdp reply ∧ t.answers = [[5, 0], reply]) : Speaks config t := by
  have hphase := hgreets.phase_eq
  have hsilent (m) (hm : m ∈ new) :
      returned .forward m = [] ∧ ClientSession.asked config m = [] := by
    rcases hnew m hm with hidle | ⟨data, rfl⟩
    · have hmute := readings_of_isMute config (isMute_of_isIdle hidle)
      exact ⟨hmute.2.1 .forward, hmute.2.2.1⟩
    · exact ⟨rfl, rfl⟩
  have hforward : s.status ≠ .forward := by
    intro hforward
    rw [phase, hforward] at hphase
    exact absurd hphase Pump.Phase.noConfusion
  have hest (hmem : .noted .tunnelEstablished ∈ t.history) : False := by
    refine hs.unopened hphase (mem_of_established hop ht (fun hm => ?_) hmem)
    rcases hnew _ hm with hidle | ⟨data, hdata⟩
    · exact absurd hidle Bool.false_ne_true
    · exact absurd hdata (by simp)
  refine ⟨?_, fun _ => ?_, fun _ hmem => hest hmem, hgreeted, hrequesting, fun h => ?_⟩
  · have hcollect : collect (ClientSession.asked config) t.history
        = collect (ClientSession.asked config) s.history
          ++ ClientSession.asked config (.noted (.handled s.status e)) := by
      rw [collect_of_completion hop ht rfl, collect_eq_nil (fun m hm => (hsilent m hm).2),
        List.append_nil]
    rcases hasked with hnone | ⟨hnone, hrequest, data, bound, rfl, haccepted⟩
    · exact hs.asked.mono (suffix_of_completion hop ht) (by rw [hcollect, hnone, List.append_nil])
    · refine .inr ⟨data, bound, ?_, by rw [hcollect, hnone, List.nil_append]; exact haccepted⟩
      rw [ht, receives, hop, ← hrequest]
      simp
  · rw [collect_of_completion hop ht rfl, collect_eq_nil (fun m hm => (hsilent m hm).1),
      returned_handled (fun _ _ => hforward), hs.unreturned hphase]
    rfl
  · rcases h with h | ⟨o, ho, hopens⟩ | h
    · exact absurd h hstatus
    · have hold : o ∈ s.pending := by
        refine mem_pending_of_completion hop ht (fun m hm => ?_) ho
        rintro rfl
        rcases hnew _ hm with hidle | ⟨data, hdata⟩
        · exact absurd (Bool.and_eq_true_iff.mp hidle).1 (by simp [hopens])
        · obtain rfl := Mark.began.inj hdata
          exact absurd hopens Bool.false_ne_true
      rcases hgreets.pending_eq with hp | hp | ⟨data, hp⟩
      · exact absurd (hp ▸ hold) List.not_mem_nil
      · obtain rfl := List.mem_singleton.mp (hp ▸ hold)
        exact absurd hopens Bool.false_ne_true
      · obtain rfl := List.mem_singleton.mp (hp ▸ hold)
        exact absurd hopens Bool.false_ne_true
    · exact absurd h hest

/-- **A session that speaks SOCKS5 and is destroyed.** -/
theorem Speaks.ends (hs : Speaks config s) (hgreets : Greets config s)
    (hop : e.operation = some op) (new : History)
    (hu : u.history = new ++ (s.receives e).history) (hnew : ∀ m ∈ new, isIdle m = true)
    (hasked : ClientSession.asked config (.noted (.handled s.status e)) = []
      ∨ collect (ClientSession.asked config) s.history = [] ∧ s.status = .request
        ∧ ∃ data bound, e = .inRead (.success data) bound ∧ acceptedRequest config data bound
          = some (ClientSession.asked config (.noted (.handled s.status e)))) :
    Speaks config u.destroy := by
  obtain ⟨more, hmore, hidle, -⟩ := (Idles.refl u).destroy.marks
  have hstatus := status_destroy u
  refine hs.answering hgreets hop (more ++ new) ?_ (fun m hm => .inl ?_) ?_ hasked ?_ ?_
  · rw [hmore, hu, List.append_assoc]
  · exact (List.mem_append.mp hm).elim (hidle m) (hnew m)
  · rw [hstatus]
    simp
  · rw [hstatus]
    exact Status.noConfusion
  · rw [hstatus]
    exact Status.noConfusion

/-- What a session answers with one write. -/
theorem answers_of_write {answer : Bytes} (hop : e.operation = some op) (new : History)
    (ht : t.history = new ++ (s.receives e).history) (hnew : collect ClientSession.answering new
      = [answer]) : t.answers = s.answers ++ [answer] := by
  show collect ClientSession.answering t.history = _
  rw [collect_of_completion hop ht rfl, hnew]
  exact congrArg (· ++ _) (List.append_nil _)

theorem Speaks.recvGreeting {data : Bytes} {bound : Option UdpEndpoint} (hs : Speaks config s)
    (hgreets : Greets config s) (hstatus : s.status = .handshake) (hmem : .inRead ∈ s.pending) :
    Speaks config ((s.received data bound).recvGreeting data) := by
  have hp : s.pending = [.inRead] := by
    rcases hgreets.pending_eq with hp | hp | ⟨data, hp⟩ <;> simp_all
  have hasked : ClientSession.asked config
      (.noted (.handled s.status (.inRead (.success data) bound))) = [] :=
    asked_handled (by rw [hstatus]; exact Status.noConfusion) _
  have hnone := (hs.greeted hstatus).1 hmem
  have hnoread (answer : Bytes) :
      .inRead ∉ Operation.inWrite answer :: s.pending.erase .inRead := by
    rw [hp]
    simp
  unfold ClientSession.recvGreeting
  split
  · exact hs.ends hgreets rfl [_] rfl (by simp [isIdle, isMute]) (.inl hasked)
  · split
    · refine hs.answering hgreets rfl [_, _, _] rfl (by simp [isIdle, isMute]) ?_ (.inl hasked)
        (fun _ => ⟨fun hread => absurd hread (hnoread _), fun _ _ => ?_⟩) ?_
      · show ¬ (s.status = _ ∨ s.status = _ ∨ s.status = _)
        rw [hstatus]
        simp
      · rw [answers_of_write (e := .inRead (.success data) bound) rfl [_, _, _] rfl rfl,
          hnone]
        rfl
      · intro hrequest
        exact absurd (hstatus.symm.trans hrequest) Status.noConfusion
    · exact hs.answering hgreets rfl [_, _, _] rfl (by simp [isIdle, isMute]) (by simp)
        (.inl hasked) Status.noConfusion Status.noConfusion

theorem Speaks.recvRequest {data : Bytes} {bound : Option UdpEndpoint} (hs : Speaks config s)
    (hgreets : Greets config s) (hstatus : s.status = .request) (hmem : .inRead ∈ s.pending) :
    Speaks config (recvRequest config (s.received data bound) data bound) := by
  have hp : s.pending = [.inRead] := by
    rcases hgreets.pending_eq with hp | hp | ⟨data, hp⟩ <;> simp_all
  have hnoread (answer : Bytes) :
      .inRead ∉ Operation.inWrite answer :: s.pending.erase .inRead := by
    rw [hp]
    simp
  have hheader : ClientSession.asked config
      (.noted (.handled s.status (.inRead (.success data) bound)))
        = (acceptedRequest config data bound).getD [] := if_pos hstatus
  have hasked : ClientSession.asked config
        (.noted (.handled s.status (.inRead (.success data) bound))) = []
      ∨ collect (ClientSession.asked config) s.history = [] ∧ s.status = .request
        ∧ ∃ data' bound', Event.inRead (.success data) bound = .inRead (.success data') bound'
          ∧ acceptedRequest config data' bound' = some (ClientSession.asked config
            (.noted (.handled s.status (.inRead (.success data) bound)))) := by
    rw [hheader]
    cases haccepted : acceptedRequest config data bound with
    | none => exact .inl rfl
    | some request => exact .inr ⟨(hgreets.asks hp).2, hstatus, data, bound, rfl, haccepted⟩
  -- an answer after which the session waits for it to be sent
  have hanswers {t : ClientSession} {reply : Bytes} (new : History)
      (ht : t.history = new ++ (s.receives (.inRead (.success data) bound)).history)
      (hnew : ∀ m ∈ new, isIdle m = true ∨ ∃ data, m = .began (.inWrite data))
      (htold : collect ClientSession.answering new = [reply]) (htstatus : t.status = .request)
      (hnot : .inRead ∉ t.pending) (hgranted : Granted t.isUdp reply)
      (haccepted : acceptedRequest config data bound = some (requestBuffer config data)) :
      Speaks config t := by
    refine hs.answering hgreets rfl new ht hnew ?_ hasked ?_
      (fun _ => ⟨fun hread => absurd hread hnot, fun _ _ => ⟨?_, reply, hgranted, ?_⟩⟩)
    · rw [htstatus]
      simp
    · intro hhandshake
      exact absurd (htstatus.symm.trans hhandshake) Status.noConfusion
    · rw [collect_of_completion (e := .inRead (.success data) bound) rfl ht rfl, hheader,
        haccepted]
      simp [requestBuffer, crlf]
    · rw [answers_of_write (e := .inRead (.success data) bound) rfl _ ht htold,
        (hs.requesting hstatus).1 hmem]
      rfl
  unfold ClientSession.recvRequest
  dsimp only
  split
  · exact hs.ends hgreets rfl [_] rfl (by simp [isIdle, isMute]) hasked
  · rename_i hwellFormed
    split
    · exact hs.answering hgreets rfl [_, _, _] rfl (by simp [isIdle, isMute]) (by simp) hasked
        Status.noConfusion Status.noConfusion
    · rename_i hparse
      split
      · split
        · exact hs.ends hgreets rfl [_] rfl (by simp [isIdle, isMute]) hasked
        · rename_i hudp _ endpoint
          refine hanswers [_, _, _, _] rfl (by simp [isIdle, isMute]) rfl hstatus (hnoread _)
            (granted_udp hudp endpoint) ?_
          rw [acceptedRequest, if_neg hwellFormed, hparse]
          exact if_neg (fun h => absurd h.2 (Option.some_ne_none _))
      · rename_i hudp
        refine hanswers [_, _, _] rfl (by simp [isIdle, isMute]) rfl hstatus (hnoread _)
          (granted_tcp hudp) ?_
        rw [acceptedRequest, if_neg hwellFormed, hparse]
        exact if_neg (fun h => hudp (decide_eq_true h.1))

/-- **The answer to the greeting is sent**, and the session reads the request. -/
theorem Speaks.asksAgain {data : Bytes} (hs : Speaks config s) (hgreets : Greets config s)
    (hstatus : s.status = .handshake) (hmem : .inWrite data ∈ s.pending)
    (ht : t.history = [.began .inRead] ++ (s.receives (.inWrite data false)).history)
    (htstatus : t.status = .request) : Speaks config t := by
  have hp : s.pending = [.inWrite data] := by
    rcases hgreets.pending_eq with hp | hp | ⟨data, hp⟩ <;> simp_all
  refine hs.answering hgreets rfl _ ht (by simp [isIdle, isMute, Operation.opensTunnel]) ?_
    (.inl rfl) ?_ (fun _ => ⟨fun _ => ?_, fun data' hwrite => ?_⟩)
  · rw [htstatus]
    simp
  · intro hhandshake
    exact absurd (htstatus.symm.trans hhandshake) Status.noConfusion
  · rw [← (hs.greeted hstatus).2 data hmem]
    show collect ClientSession.answering t.history = _
    rw [ht]
    exact (List.append_nil _).trans ((List.append_nil _).trans (List.append_nil _))
  · have hpending : t.pending = .inRead :: s.pending.erase (.inWrite data) := by
      rw [pending, ht]
      rfl
    rw [hpending, hp] at hwrite
    simp at hwrite

/-- **The answer to the request is sent**, and the session serves. -/
theorem Speaks.connects {data : Bytes} (hs : Speaks config s) (hgreets : Greets config s)
    (hstatus : s.status = .request) (hmem : .inWrite data ∈ s.pending) (new : History)
    (ht : t.history = new ++ (s.receives (.inWrite data false)).history)
    (hnew : ∀ m ∈ new, isMute m = true) (htstatus : t.status = .connect)
    (hudp : t.isUdp = s.isUdp) : Speaks config t := by
  obtain ⟨hmade, reply, hgranted, hsaid⟩ := (hs.requesting hstatus).2 data hmem
  have hmute (m) (hm : m ∈ new) := readings_of_isMute config (hnew m hm)
  have hphase : t.phase ≠ .idle := by
    rw [phase, htstatus]
    exact Pump.Phase.noConfusion
  have hanswers : t.answers = s.answers := by
    show collect ClientSession.answering t.history = collect ClientSession.answering s.history
    rw [collect_of_completion rfl ht rfl, collect_eq_nil (fun m hm => (hmute m hm).2.2.2),
      List.append_nil]
    exact List.append_nil _
  have hreturned : collect (returned .forward) t.history = [] := by
    rw [collect_of_completion rfl ht rfl, collect_eq_nil (fun m hm => (hmute m hm).2.1 .forward),
      hs.unreturned hgreets.phase_eq, hstatus]
    rfl
  have hasked : collect (ClientSession.asked config) t.history
      = collect (ClientSession.asked config) s.history := by
    rw [collect_of_completion rfl ht rfl, collect_eq_nil (fun m hm => (hmute m hm).2.2.1),
      List.append_nil]
    exact List.append_nil _
  refine ⟨hs.asked.mono (suffix_of_completion (e := .inWrite data false) rfl ht) hasked,
    fun h => absurd h hphase, fun h => absurd h hphase,
    fun h => absurd (htstatus.symm.trans h) Status.noConfusion,
    fun h => absurd (htstatus.symm.trans h) Status.noConfusion,
    fun _ => ⟨hasked ▸ hmade, reply, hudp ▸ hgranted, ?_⟩⟩
  · rw [hanswers, hsaid, hreturned]
    simp

/-- **A session that speaks SOCKS5**, step by step. -/
theorem Speaks.speaks (hs : Speaks config s) (hgreets : Greets config s)
    (hop : e.operation = some op) (hmem : op ∈ s.pending) :
    Speaks config ((s.receives e).handle config e) := by
  have hcases : op = .inRead ∨ ∃ data, op = .inWrite data := by
    rcases hgreets.pending_eq with hp | hp | ⟨data, hp⟩
    · exact absurd (hp ▸ hmem) List.not_mem_nil
    · exact .inl (List.mem_singleton.mp (hp ▸ hmem))
    · exact .inr ⟨data, List.mem_singleton.mp (hp ▸ hmem)⟩
  rcases hcases with rfl | ⟨data, rfl⟩
  · have hp : s.pending = [.inRead] := by
      rcases hgreets.pending_eq with hp | hp | ⟨data, hp⟩ <;> simp_all
    obtain ⟨hstatus, -⟩ := hgreets.asks hp
    cases e with
    | inRead received bound =>
      have hasked (received : Outcome Bytes) (hnot : ∀ data, received ≠ .success data) :
          ClientSession.asked config (.noted (.handled s.status (.inRead received bound)))
            = [] := by
        cases received with
        | success data => exact absurd rfl (hnot data)
        | _ => rfl
      cases received with
      | failed =>
        exact hs.ends hgreets rfl [] rfl (by simp) (.inl (hasked _ (by simp)))
      | aborted =>
        have hnone : (s.receives (.inRead .aborted bound)).pending = [] := by
          show s.pending.erase .inRead = []
          rw [hp]
          rfl
        have hvacuous {o : Operation} (ho : o ∈ (s.receives (.inRead .aborted bound)).pending) :
            False := by
          rw [hnone] at ho
          exact List.not_mem_nil ho
        refine hs.answering hgreets rfl [] rfl (by simp) ?_ (.inl (hasked _ (by simp)))
          (fun _ => ⟨fun h => (hvacuous h).elim, fun _ h => (hvacuous h).elim⟩)
          (fun _ => ⟨fun h => (hvacuous h).elim, fun _ h => (hvacuous h).elim⟩)
        show ¬ (s.status = _ ∨ s.status = _ ∨ s.status = _)
        rcases hstatus with h | h <;> rw [h] <;> simp
      | success data =>
        have htake := take_growAfterRead s.inReadBuf data
        rcases hstatus with hstatus | hstatus
        · have heq : (s.receives (.inRead (.success data) bound)).handle config
              (.inRead (.success data) bound) = (s.received data bound).recvGreeting data :=
            (inRecv_handshake (s := s.filled data bound) hstatus data.length).trans
              (congrArg (s.received data bound).recvGreeting htake)
          rw [heq]
          exact hs.recvGreeting hgreets hstatus hmem
        · have heq : (s.receives (.inRead (.success data) bound)).handle config
              (.inRead (.success data) bound)
                = ClientSession.recvRequest config (s.received data bound) data bound :=
            (inRecv_request (s := s.filled data bound) hstatus data.length).trans
              (congrArg (ClientSession.recvRequest config (s.received data bound) · bound) htake)
          rw [heq]
          exact hs.recvRequest hgreets hstatus hmem
    | _ => exact absurd hop (by simp [Event.operation])
  · cases e with
    | inWrite data' error =>
      obtain rfl : data' = data := by simpa [Event.operation] using hop
      have hnone : ClientSession.asked config (.noted (.handled s.status (.inWrite data' error)))
          = [] := rfl
      cases error with
      | true => exact hs.ends hgreets rfl [] rfl (by simp) (.inl hnone)
      | false =>
        show Speaks config (s.receives (.inWrite data' false)).inSent
        have hreceives : (s.receives (.inWrite data' false)).status = s.status := rfl
        unfold inSent
        rw [hreceives]
        rcases hgreets.status_eq with hstatus | hstatus | hstatus
        · rw [hstatus]
          dsimp only
          exact hs.asksAgain hgreets hstatus hmem rfl rfl
        · rw [hstatus]
          dsimp only
          split
          · exact hs.connects hgreets hstatus hmem [_, _, _] rfl (by simp [isMute]) rfl rfl
          · exact hs.connects hgreets hstatus hmem [_, _] rfl (by simp [isMute]) rfl rfl
        · rw [hstatus]
          exact hs.ends hgreets rfl [] rfl (by simp) (.inl hnone)
    | _ => exact absurd hop (by simp [Event.operation])

/-! ## What is read from the tunnel -/

/-- **What a session reads from the tunnel** it reads in one status, in which it relays,
and nothing is read before the tunnel is established. What it reads once it is
destroyed, it has no one to tell. -/
structure Returns (status : Status) (s : ClientSession) : Prop where
  opening : s.openings ≤ 1
  settled : s.status = .forward ∨ s.status = .udpForward ∨ .outRead ∈ s.pending →
    s.openings = 0
  fresh : s.phase = .idle ∨ 0 < s.openings → collect fromTunnel s.history = []
  behind : ∃ missed, collect fromTunnel s.history = collect (returned status) s.history ++ missed
    ∧ (missed ≠ [] → s.status ≠ status ∧ s.openings = 0)

section Returns

variable {status : Status}

/-- What is relayed is a prefix of what was read. -/
theorem Returns.prefix_returned (hs : Returns status s) :
    collect (returned status) s.history <+: collect fromTunnel s.history := by
  obtain ⟨missed, hmissed, -⟩ := hs.behind
  rw [hmissed]
  exact List.prefix_append _ _

/-- A session that relays has relayed all that it has read. -/
theorem Returns.fromTunnel_eq (hs : Returns status s) (hstatus : s.status = status) :
    collect fromTunnel s.history = collect (returned status) s.history := by
  obtain ⟨missed, hmissed, hlate⟩ := hs.behind
  by_cases hsome : missed = []
  · rw [hmissed, hsome, List.append_nil]
  · exact absurd hstatus (hlate hsome).1

/-- A session that has read nothing has relayed nothing. -/
theorem Returns.returned_eq_nil (hs : Returns status s)
    (hnone : collect fromTunnel s.history = []) : collect (returned status) s.history = [] := by
  have hprefix := hs.prefix_returned
  rw [hnone] at hprefix
  exact List.prefix_nil.mp hprefix

/-- A session that has read nothing. -/
theorem returns_of_none (hopening : t.openings ≤ 1)
    (hsettled : t.status = .forward ∨ t.status = .udpForward ∨ .outRead ∈ t.pending →
      t.openings = 0)
    (hnone : collect fromTunnel t.history = [])
    (hnone' : collect (returned status) t.history = []) : Returns status t :=
  ⟨hopening, hsettled, fun _ => hnone, [], by rw [hnone, hnone']; rfl, fun h => absurd rfl h⟩

/-- Only a read from the tunnel brings something from it. -/
theorem fromTunnel_handled (h : ∀ data, e ≠ .outRead (some data)) (status : Status) :
    fromTunnel (.noted (.handled status e)) = [] := by
  unfold fromTunnel
  split
  · rename_i heq
    exact absurd (Note.handled.inj (Mark.noted.inj heq)).2 (h _)
  · rfl

/-- A read in the status of the relay is relayed. -/
theorem returned_of_status (hst : s.status = status) :
    returned status (.noted (.handled s.status e)) = fromTunnel (.noted (.handled s.status e)) := by
  cases e with
  | outRead data =>
    cases data with
    | none => rfl
    | some data => exact if_pos hst
  | _ => rfl

/-- **A session goes on**, and relays what it reads if it has the status for it. -/
theorem Returns.goes (hs : Returns status s) (hop : e.operation = some op) (hmem : op ∈ s.pending)
    (hopens : op.opensTunnel = false) (new : History)
    (ht : t.history = new ++ (s.receives e).history)
    (hnew : ∀ m ∈ new, fromTunnel m = [] ∧ returned status m = []
      ∧ ∀ o, m = .began o → o.opensTunnel = false)
    (hbegins : .began .outRead ∈ new → s.status = .forward ∨ s.status = .udpForward)
    (hstatus : t.status = s.status ∨ t.status = .destroy) (hrelays : t.phase ≠ .idle)
    (hne : status ≠ .destroy) : Returns status t := by
  have hopen : t.openings ≤ s.openings := by
    refine Nat.le_trans ?_ (Nat.le_of_eq (?_ : (s.receives e).openings = s.openings))
    · rw [openings, pending, ht]
      exact countP_inFlight_append_le (fun o ho => (hnew _ ho).2.2 o rfl)
    · rw [openings_receives hop hmem, hopens]
      rfl
  have hfrom : collect fromTunnel t.history
      = collect fromTunnel s.history ++ fromTunnel (.noted (.handled s.status e)) := by
    rw [collect_of_completion hop ht rfl, collect_eq_nil (fun m hm => (hnew m hm).1),
      List.append_nil]
  have hreturned : collect (returned status) t.history
      = collect (returned status) s.history ++ returned status (.noted (.handled s.status e)) := by
    rw [collect_of_completion hop ht rfl, collect_eq_nil (fun m hm => (hnew m hm).2.1),
      List.append_nil]
  -- a read that completes was begun with the tunnel in place
  have hread : fromTunnel (.noted (.handled s.status e)) = [] ∨ s.openings = 0 := by
    by_cases hdata : ∃ data, e = .outRead (some data)
    · obtain ⟨data, rfl⟩ := hdata
      obtain rfl := Option.some.inj hop
      exact .inr (hs.settled (.inr (.inr hmem)))
    · exact .inl (fromTunnel_handled (fun data he => hdata ⟨data, he⟩) _)
  refine ⟨Nat.le_trans hopen hs.opening, fun h => ?_, fun h => ?_, ?_⟩
  · refine Nat.le_zero.mp (Nat.le_trans hopen (Nat.le_of_eq (hs.settled ?_)))
    rcases h with h | h | h
    · exact .inl ((hstatus.resolve_right (by rw [h]; exact Status.noConfusion)).symm.trans h)
    · exact .inr (.inl ((hstatus.resolve_right
        (by rw [h]; exact Status.noConfusion)).symm.trans h))
    · by_cases hbegan : .began .outRead ∈ new
      · exact (hbegins hbegan).elim .inl (fun h => .inr (.inl h))
      · refine .inr (.inr (mem_pending_of_completion hop ht (fun m hm heq => ?_) h))
        exact hbegan (heq ▸ hm)
  · have hpos : 0 < s.openings := Nat.lt_of_lt_of_le (h.resolve_left hrelays) hopen
    rw [hfrom, hs.fresh (.inr hpos)]
    exact hread.resolve_right (by omega)
  · by_cases hst : s.status = status
    · -- so far it has relayed everything
      refine ⟨[], ?_, fun h => absurd rfl h⟩
      rw [hfrom, hreturned, hs.fromTunnel_eq hst, List.append_nil, returned_of_status hst]
    · obtain ⟨missed, hmissed, hlate⟩ := hs.behind
      refine ⟨missed ++ fromTunnel (.noted (.handled s.status e)), ?_, fun h => ?_⟩
      · rw [hfrom, hreturned, returned_handled (fun _ _ => hst), hmissed, List.append_nil,
          List.append_assoc]
      · have hzero : s.openings = 0 := by
          rcases hread with hnone | hzero
          · rw [hnone, List.append_nil] at h
            exact (hlate h).2
          · exact hzero
        refine ⟨?_, by omega⟩
        rcases hstatus with h | h
        · rw [h]
          exact hst
        · rw [h]
          exact hne.symm

/-- **The tunnel is opened further**, or established, or that fails. -/
theorem Returns.opens (hs : Returns status s) (hop : e.operation = some op) (hmem : op ∈ s.pending)
    (hopens : op.opensTunnel = true) (new : History)
    (ht : t.history = new ++ (s.receives e).history) (hnew : ∀ m ∈ new, isMute m = true)
    (hnext : t.openings = 0 ∨ t.openings = s.openings ∧ t.status = s.status
      ∧ (.outRead ∈ t.pending → .outRead ∈ s.pending)) : Returns status t := by
  have hmute (m) (hm : m ∈ new) := readings_of_isMute {} (hnew m hm)
  have hpos : 0 < s.openings := List.countP_pos_iff.mpr ⟨op, hmem, hopens⟩
  have hnone := hs.fresh (.inr hpos)
  have hread (data : Bytes) : e ≠ .outRead (some data) := by
    rintro rfl
    obtain rfl := Option.some.inj hop
    exact absurd hopens Bool.false_ne_true
  refine returns_of_none ?_ (fun h => ?_) ?_ ?_
  · have hone := hs.opening
    omega
  · rcases hnext with hzero | ⟨-, hstatus, hreads⟩
    · exact hzero
    · -- it is not in place yet, and nothing is read from it
      refine absurd (hs.settled ?_) (by omega)
      rw [hstatus] at h
      exact h.imp_right (fun h => h.imp_right hreads)
  · rw [collect_of_completion hop ht rfl, collect_eq_nil (fun m hm => (hmute m hm).1), hnone,
      fromTunnel_handled hread]
    rfl
  · rw [collect_of_completion hop ht rfl, collect_eq_nil (fun m hm => (hmute m hm).2.1 status),
      hs.returned_eq_nil hnone, returned_handled (fun data he => absurd he (hread data))]
    rfl

/-- **A session that speaks SOCKS5** reads nothing from the tunnel. -/
theorem Returns.dialogue (hs : Returns status s) (hgreets : Greets config s)
    (hop : e.operation = some op) (hmem : op ∈ s.pending) (new : History)
    (ht : t.history = new ++ (s.receives e).history)
    (hnew : ∀ m ∈ new, isIdle m = true ∧ m ≠ .began .outRead
      ∨ (∃ data, m = .began (.inWrite data)) ∨ m = .began .resolve)
    (hopen : t.openings ≤ 1) (hstatus : ¬ (t.status = .forward ∨ t.status = .udpForward)) :
    Returns status t := by
  have hsilent (m) (hm : m ∈ new) :
      fromTunnel m = [] ∧ returned status m = [] ∧ m ≠ .began .outRead := by
    rcases hnew m hm with ⟨hidle, hne⟩ | ⟨data, rfl⟩ | rfl
    · have hmute := readings_of_isMute {} (isMute_of_isIdle hidle)
      exact ⟨hmute.1, hmute.2.1 status, hne⟩
    · exact ⟨rfl, rfl, by simp⟩
    · exact ⟨rfl, rfl, by simp⟩
  have hquiet : .outRead ∉ s.pending := by
    rcases hgreets.pending_eq with hp | hp | ⟨data, hp⟩ <;> simp [hp]
  have hread (data : Bytes) : e ≠ .outRead (some data) := by
    rintro rfl
    obtain rfl := Option.some.inj hop
    exact hquiet hmem
  have hnone := hs.fresh (.inl hgreets.phase_eq)
  refine returns_of_none hopen (fun h => ?_) ?_ ?_
  · rcases h with h | h | h
    · exact absurd (.inl h) hstatus
    · exact absurd (.inr h) hstatus
    · exact absurd (mem_pending_of_completion hop ht (fun m hm => (hsilent m hm).2.2) h) hquiet
  · rw [collect_of_completion hop ht rfl, collect_eq_nil (fun m hm => (hsilent m hm).1), hnone,
      fromTunnel_handled hread]
    rfl
  · rw [collect_of_completion hop ht rfl, collect_eq_nil (fun m hm => (hsilent m hm).2.1),
      hs.returned_eq_nil hnone, returned_handled (fun data he => absurd he (hread data))]
    rfl

theorem Greets.not_forward (hgreets : Greets config s) :
    ¬ (s.status = .forward ∨ s.status = .udpForward) := by
  rcases hgreets.status_eq with h | h | h <;> simp [h]

/-- Nothing is opened in a dialogue. -/
theorem Greets.openings_receives (hgreets : Greets config s) (hop : e.operation = some op)
    (hmem : op ∈ s.pending) : (s.receives e).openings = 0 := by
  have hone : s.openings = 0 := by
    rcases hgreets.pending_eq with hp | hp | ⟨data, hp⟩ <;> simp [openings, hp,
      Operation.opensTunnel]
  rw [ClientSession.openings_receives hop hmem, hone]
  exact Nat.zero_sub _

/-- A dialogue that goes on. -/
theorem Returns.converses (hs : Returns status s) (hgreets : Greets config s)
    (hop : e.operation = some op) (hmem : op ∈ s.pending) (new : History)
    (ht : t.history = new ++ (s.receives e).history)
    (hnew : ∀ m ∈ new, isIdle m = true ∧ m ≠ .began .outRead
      ∨ ∃ data, m = .began (.inWrite data))
    (hstatus : ¬ (t.status = .forward ∨ t.status = .udpForward)) : Returns status t := by
  refine hs.dialogue hgreets hop hmem new ht (fun m hm => (hnew m hm).imp_right .inl) ?_ hstatus
  refine Nat.le_trans ?_ (Nat.le_trans (Nat.le_of_eq (hgreets.openings_receives hop hmem))
    (Nat.zero_le 1))
  rw [openings, pending, ht]
  refine countP_inFlight_append_le (fun o ho => ?_)
  rcases hnew _ ho with ⟨hidle, -⟩ | ⟨data, hdata⟩
  · simpa using (Bool.and_eq_true_iff.mp hidle).1
  · obtain rfl := Mark.began.inj hdata
    rfl

/-- A dialogue that ends. -/
theorem Returns.closes (hs : Returns status s) (hgreets : Greets config s)
    (hop : e.operation = some op) (hmem : op ∈ s.pending) {u : ClientSession} (new : History)
    (hu : u.history = new ++ (s.receives e).history)
    (hnew : ∀ m ∈ new, isIdle m = true ∧ m ≠ .began .outRead)
    (hstatus : ¬ (u.status = .forward ∨ u.status = .udpForward)) : Returns status u.destroy := by
  obtain ⟨more, hmore, hidle, hbegins⟩ := (Idles.refl u).destroy.marks
  refine hs.converses hgreets hop hmem (more ++ new) (by rw [hmore, hu, List.append_assoc])
    (fun m hm => .inl ?_) ?_
  · rcases List.mem_append.mp hm with hm | hm
    · exact ⟨hidle m hm, fun heq => hstatus (hbegins (heq ▸ hm))⟩
    · exact hnew m hm
  · rw [status_destroy]
    simp

/-- The greeting or the request is read. -/
theorem Returns.reads (hs : Returns status s) (hgreets : Greets config s) {data : Bytes}
    {bound : Option UdpEndpoint} (hmem : .inRead ∈ s.pending) :
    Returns status (inRecv config { s.receives (.inRead (.success data) bound) with
      inReadBuf := fillBuffer s.inReadBuf data } data.length bound) := by
  have hop : (Event.inRead (.success data) bound).operation = some .inRead := rfl
  have hforward := hgreets.not_forward
  have hreceives : (s.receives (.inRead (.success data) bound)).status = s.status := rfl
  have hgoes {t : ClientSession} := hs.converses (t := t) hgreets hop hmem
  have hends {u : ClientSession} := hs.closes (u := u) hgreets hop hmem
  unfold inRecv recvGreeting recvRequest
  dsimp only
  split
  · split
    · exact hends [_] rfl (by simp [isIdle, isMute]) hforward
    · split
      · exact hgoes [_, _, _] rfl (by simp [isIdle, isMute]) hforward
      · exact hgoes [_, _, _] rfl (by simp [isIdle, isMute]) (by simp)
  · split
    · exact hends [_] rfl (by simp [isIdle, isMute]) hforward
    · split
      · exact hgoes [_, _, _] rfl (by simp [isIdle, isMute]) (by simp)
      · split
        · split
          · exact hends [_] rfl (by simp [isIdle, isMute]) hforward
          · exact hgoes [_, _, _, _] rfl (by simp [isIdle, isMute]) hforward
        · exact hgoes [_, _, _] rfl (by simp [isIdle, isMute]) hforward
  · exact hgoes [_] rfl (by simp [isIdle, isMute]) hforward
  · rename_i hstatus
    exact absurd (.inl (hreceives.symm.trans hstatus)) hforward
  · rename_i hstatus
    exact absurd (.inr (hreceives.symm.trans hstatus)) hforward
  · exact hgoes [_] rfl (by simp [isIdle, isMute]) hforward

/-- An answer is written, and after the last of them the tunnel is opened, once. -/
theorem Returns.writes (hs : Returns status s) (hgreets : Greets config s) {data : Bytes}
    (hmem : .inWrite data ∈ s.pending) :
    Returns status (s.receives (.inWrite data false)).inSent := by
  have hop : (Event.inWrite data false).operation = some (.inWrite data) := rfl
  have hforward := hgreets.not_forward
  have hreceived := hgreets.openings_receives hop hmem
  have hreceives : (s.receives (.inWrite data false)).status = s.status := rfl
  have hgoes {t : ClientSession} := hs.converses (t := t) hgreets hop hmem
  have hopened {t : ClientSession} (reads : List Operation)
      (ht : t.pending = .resolve :: reads ++ (s.receives (.inWrite data false)).pending)
      (hreads : reads.countP Operation.opensTunnel = 0) : t.openings ≤ 1 := by
    rw [openings, ht, List.countP_append, List.countP_cons_of_pos rfl, hreads]
    exact Nat.le_of_eq (congrArg (0 + 1 + ·) hreceived)
  unfold inSent
  dsimp only
  split
  · exact hgoes [_] rfl (by simp [isIdle, isMute, Operation.opensTunnel])
      (by simp [inAsyncRead, begins])
  · split
    · exact hs.dialogue hgreets hop hmem [_, _, _] rfl
        (by simp [isIdle, isMute, Operation.opensTunnel])
        (hopened [.udpReceive, .inRead] rfl rfl)
        (by simp [begins, udpAsyncRead, inAsyncRead])
    · exact hs.dialogue hgreets hop hmem [_, _] rfl
        (by simp [isIdle, isMute, Operation.opensTunnel])
        (hopened [.inRead] rfl rfl) (by simp [begins, inAsyncRead])
  · rename_i hstatus
    exact absurd (.inl (hreceives.symm.trans hstatus)) hforward
  · exact hs.closes hgreets hop hmem [] rfl (by simp) hforward
  · exact hgoes [] rfl (by simp) hforward

/-- **A dialogue**, step by step. -/
theorem Returns.speaks (hs : Returns status s) (hgreets : Greets config s)
    (hop : e.operation = some op) (hmem : op ∈ s.pending) :
    Returns status ((s.receives e).handle config e) := by
  have hforward : ¬ ((s.receives e).status = .forward ∨ (s.receives e).status = .udpForward) := by
    rw [receives, hop]
    exact hgreets.not_forward
  have hcases : op = .inRead ∨ ∃ data, op = .inWrite data := by
    rcases hgreets.pending_eq with hp | hp | ⟨data, hp⟩
    · exact absurd (hp ▸ hmem) List.not_mem_nil
    · exact .inl (List.mem_singleton.mp (hp ▸ hmem))
    · exact .inr ⟨data, List.mem_singleton.mp (hp ▸ hmem)⟩
  rcases hcases with rfl | ⟨data, rfl⟩
  · cases e with
    | inRead received bound =>
      cases received with
      | failed => exact hs.closes hgreets hop hmem [] rfl (by simp) hforward
      | aborted => exact hs.converses hgreets hop hmem [] rfl (by simp) hforward
      | success data => exact hs.reads hgreets hmem
    | _ => exact absurd hop (by simp [Event.operation])
  · cases e with
    | inWrite data' error =>
      cases error with
      | true => exact hs.closes hgreets hop hmem [] rfl (by simp) hforward
      | false =>
        obtain rfl : data' = data := Operation.inWrite.inj (Option.some.inj hop)
        exact hs.writes hgreets hmem
    | _ => exact absurd hop (by simp [Event.operation])

/-- **A session past its request**, step by step. -/
theorem Returns.relays (hs : Returns status s) (hrelays : Relays s.isUdp s)
    (hop : e.operation = some op) (hmem : op ∈ s.pending) (hne : status ≠ .destroy) :
    Returns status ((s.receives e).handle config e) := by
  have hphase := hrelays.phase_ne_idle
  have hnext : Relays s.isUdp ((s.receives e).handle config e) :=
    (hrelays.receives e).handle config (by rw [hop]; exact Option.some_ne_none op)
  have hrphase : (s.receives e).phase ≠ .idle := by
    rw [receives, hop]
    exact hphase
  by_cases hopens : op.opensTunnel = true
  · obtain ⟨new, hnew, hall⟩ := mute_of_opens config (s.receives e) hop hopens
    have hpos : 0 < s.openings := List.countP_pos_iff.mpr ⟨op, hmem, hopens⟩
    have hended : (s.receives e).openings = 0 := by
      have hone := hs.opening
      rw [openings_receives hop hmem, hopens]
      show s.openings - 1 = 0
      omega
    have hfails (u : ClientSession) (hu : u.openings = 0) : u.destroy.openings = 0 := by
      obtain ⟨more, hmore, hidle, -⟩ := (Idles.refl u).destroy.marks
      refine Nat.le_zero.mp (Nat.le_trans ?_ (Nat.le_of_eq hu))
      rw [openings, pending, hmore]
      refine countP_inFlight_append_le (fun o ho => ?_)
      simpa using (Bool.and_eq_true_iff.mp (hidle _ ho)).1
    refine hs.opens hop hmem hopens new hnew hall ?_
    cases e with
    | resolve results openError =>
      obtain rfl := Option.some.inj hop
      have hhandled : (s.receives (.resolve results openError)).handle config
          (.resolve results openError) = (s.receives (.resolve results openError)).resolved results
            openError := rfl
      rw [hhandled]
      unfold resolved
      split
      · exact .inl (hfails _ hended)
      · split
        · exact .inl (hfails _ hended)
        · exact .inr ⟨openings_advance (e := .resolve results openError) rfl hmem rfl rfl rfl,
            rfl, fun h => List.mem_of_mem_erase (List.mem_of_ne_of_mem (by simp) h)⟩
    | tcpConnect endpoint error =>
      obtain rfl := Option.some.inj hop
      cases error with
      | true => exact .inl (hfails _ hended)
      | false =>
        exact .inr ⟨openings_advance (e := .tcpConnect endpoint false) rfl hmem rfl rfl rfl, rfl,
          fun h => List.mem_of_mem_erase (List.mem_of_ne_of_mem (by simp) h)⟩
    | tlsHandshake error =>
      obtain rfl := Option.some.inj hop
      cases error with
      | true => exact .inl (hfails _ hended)
      | false => exact .inl hended
    | start remoteEndpoint => exact absurd hop (by simp [Event.operation])
    | _ => obtain rfl := Option.some.inj hop; exact absurd hopens (by simp [Operation.opensTunnel])
  · have hopens := Bool.eq_false_iff.mpr hopens
    by_cases hread : ∃ data, e = .outRead (some data) ∧ s.status = .forward
    · obtain ⟨data, rfl, hforward⟩ := hread
      obtain rfl := Option.some.inj hop
      have hhandled : (s.receives (.outRead (some data))).handle config (.outRead (some data))
          = outRecv { s.receives (.outRead (some data)) with
              outReadBuf := fillBuffer s.outReadBuf data } data.length := rfl
      rw [hhandled] at hnext ⊢
      refine hs.goes (e := .outRead (some data)) rfl hmem hopens [.began (.inWrite data),
        .modified .inWriteData, .modified .outReadBuf] ?_ ?_ (by simp) ?_ hnext.phase_ne_idle hne
      · unfold outRecv
        dsimp only
        rw [if_pos (by exact hforward), take_growAfterRead]
        rfl
      · simp [fromTunnel, returned, Operation.opensTunnel]
      · unfold outRecv
        dsimp only
        rw [if_pos (by exact hforward)]
        exact .inl rfl
    · have hidles := (Idles.refl (s.receives e)).handle config hop hrphase hopens
        (fun data he hforward => hread ⟨data, he, by rw [← hforward, receives, hop]⟩)
      obtain ⟨new, hnew, hidle, hbegins⟩ := hidles.marks
      have hsame : (s.receives e).status = s.status := by rw [receives, hop]
      rw [hsame] at hbegins
      refine hs.goes hop hmem hopens new hnew (fun m hm => ?_) hbegins (hsame ▸ hidles.status)
        hnext.phase_ne_idle hne
      have hmute := readings_of_isMute config (isMute_of_isIdle (hidle m hm))
      refine ⟨hmute.1, hmute.2.1 status, ?_⟩
      rintro o rfl
      simpa using (Bool.and_eq_true_iff.mp (hidle _ hm)).1

end Returns

/-! ## Runs -/

/-- A session that is not started. -/
theorem speaks_create : Speaks config create where
  asked := .inl rfl
  unreturned _ := rfl
  unopened _ := List.not_mem_nil
  greeted _ := ⟨fun h => absurd h List.not_mem_nil, fun _ h => absurd h List.not_mem_nil⟩
  requesting h := absurd h Status.noConfusion
  serves h := by
    rcases h with h | ⟨o, ho, -⟩ | h
    · exact absurd h (by simp [create])
    · exact absurd ho List.not_mem_nil
    · exact absurd h List.not_mem_nil

/-- A session that starts waits for a greeting, or is destroyed. -/
theorem speaks_start (remoteEndpoint : Option TcpEndpoint) :
    Speaks config ((create.receives (.start remoteEndpoint)).handle config
      (.start remoteEndpoint)) := by
  cases remoteEndpoint with
  | none =>
    refine ⟨.inl rfl, fun h => absurd h Pump.Phase.noConfusion,
      fun h => absurd h Pump.Phase.noConfusion, Status.noConfusion, Status.noConfusion,
      fun h => ?_⟩
    rcases h with h | ⟨o, ho, -⟩ | h
    · exact absurd h (by simp [handle, start, status_destroy])
    · exact absurd ho List.not_mem_nil
    · exact absurd h (by simp [handle, start, destroy, receives, notes, create, Event.operation])
  | some endpoint =>
    refine ⟨.inl rfl, fun _ => rfl, fun _ => ?_, fun _ => ⟨fun _ => rfl, fun data h => ?_⟩,
      Status.noConfusion, fun h => ?_⟩
    · show _ ∉ ([.began .inRead, .noted _] : History)
      simp
    · have h : .inWrite data ∈ [Operation.inRead] := h
      exact absurd h (by simp)
    · rcases h with h | ⟨o, ho, hopens⟩ | h
      · have h : Status.handshake = .connect ∨ Status.handshake = .forward
            ∨ Status.handshake = .udpForward := h
        exact absurd h (by simp)
      · have ho : o ∈ [Operation.inRead] := ho
        rw [List.mem_singleton.mp ho] at hopens
        exact absurd hopens Bool.false_ne_true
      · have h : .noted .tunnelEstablished ∈ ([.began .inRead, .noted (.handled .handshake
            (.start (some endpoint)))] : History) := h
        exact absurd h (by simp)

/-- **One step of a session.** -/
theorem Speaks.step (hs : Speaks config s) (hacc : Accounted config s)
    (h : ClientSession.step config s e = some t) : Speaks config t := by
  cases hop : e.operation with
  | none =>
    have hstart : s.history = [] ∧ (s.receives e).handle config e = t := by
      unfold ClientSession.step accepts at h
      rw [hop] at h
      simpa using h
    obtain ⟨hnil, rfl⟩ := hstart
    obtain rfl := hacc.fresh hnil
    cases e with
    | start remoteEndpoint => exact speaks_start remoteEndpoint
    | _ => exact absurd hop (by simp [Event.operation])
  | some op =>
    obtain ⟨hmem, rfl⟩ := mem_of_step h hop
    rcases hacc.orderly with hgreets | hrelays
    · exact hs.speaks hgreets hop hmem
    · exact hs.relays hrelays hop hmem

/-- **One step**, for what is read from the tunnel. -/
theorem Returns.step {status : Status} (hs : Returns status s) (hacc : Accounted config s)
    (h : ClientSession.step config s e = some t) (hne : status ≠ .destroy) : Returns status t := by
  cases hop : e.operation with
  | none =>
    have hstart : s.history = [] ∧ (s.receives e).handle config e = t := by
      unfold ClientSession.step accepts at h
      rw [hop] at h
      simpa using h
    obtain ⟨hnil, rfl⟩ := hstart
    obtain rfl := hacc.fresh hnil
    cases e with
    | start remoteEndpoint =>
      cases remoteEndpoint with
      | none => exact returns_of_none (Nat.zero_le _) (fun _ => rfl) rfl rfl
      | some endpoint => exact returns_of_none (Nat.zero_le _) (fun _ => rfl) rfl rfl
    | _ => exact absurd hop (by simp [Event.operation])
  | some op =>
    obtain ⟨hmem, rfl⟩ := mem_of_step h hop
    rcases hacc.orderly with hgreets | hrelays
    · exact hs.speaks hgreets hop hmem
    · exact hs.relays hrelays hop hmem hne

/-- **Every session speaks to its application as it should**, and relays what it reads
from the tunnel. -/
theorem speaks_run {es : List Event}
    (h : Machine.run (ClientSession.step config) create es = some t) :
    Accounted config t ∧ Speaks config t ∧ ∀ status, status ≠ .destroy → Returns status t :=
  Machine.run_invariant
    (P := fun s => Accounted config s ∧ Speaks config s
      ∧ ∀ status, status ≠ .destroy → Returns status s)
    (fun _ _ _ hs hstep =>
      ⟨(hs.1.step hstep).1, hs.2.1.step hs.1 hstep,
        fun _ hne => (hs.2.2 _ hne).step hs.1 hstep hne⟩)
    ⟨accounted_create, speaks_create,
      fun _ _ => returns_of_none (Nat.zero_le _) (fun _ => rfl) rfl rfl⟩ h

end ClientSession
