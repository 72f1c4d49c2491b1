import Trojan.ServerStream
import Trojan.UdpRoundTrip

/-!
# The datagrams of a server session

A session that relays datagrams takes the frames of its stream off a buffer, one at a
time: it asks where a frame is to go, sends the payload there, and goes on with the
buffer, or reads on when there is no frame in it. Each of these steps can fail, and a
session that is destroyed may still have one of them in flight. Whatever happens, what a
session has asked for are the frames at the beginning of its stream, in order and without
a gap; it has been answered in that order; and it has sent what it was answered, in that
order, to the endpoint that it chooses of the results (`ServerSession.Dispatches`).

What a stream with the header of an association becomes of this is
`ServerSession.dispatches_stream`. A session that waits for a read has asked for all the
frames that it has read.
-/

namespace ServerSession

open Flight

/-! ## The payload -/

/-- **What a relay over UDP has of a payload** before it reads on. -/
def Begins (env : Env) (data first : Bytes) : Prop :=
  ∃ context, first
    = if (buildExecutionPlan (SessionGate.evaluate env.config env.auth ⟨context, data⟩)).mode
        = .startUdpForward then
        (buildExecutionPlan (SessionGate.evaluate env.config env.auth
          ⟨context, data⟩)).initialOutboundPayload
      else []

/-- **A payload is for a relay over UDP.** -/
def ForUdp (env : Env) (data : Bytes) : Prop :=
  ∀ context, (buildExecutionPlan (SessionGate.evaluate env.config env.auth ⟨context, data⟩)).mode
    = .startUdpForward

/-- **A payload is for something else.** -/
def NotForUdp (env : Env) (data : Bytes) : Prop :=
  ∀ context, (buildExecutionPlan (SessionGate.evaluate env.config env.auth ⟨context, data⟩)).mode
    ≠ .startUdpForward

/-- The books of a result do not touch the datagrams. -/
theorem datagrams_applyAuthResult (s : ServerSession) (decision : SessionGate.SessionDecision) :
    (s.applyAuthResult decision).udpDataBuf = s.udpDataBuf
      ∧ (s.applyAuthResult decision).status = s.status
      ∧ (s.applyAuthResult decision).pending = s.pending
      ∧ collect requested (s.applyAuthResult decision).history = collect requested s.history
      ∧ collect dispatched (s.applyAuthResult decision).history
        = collect dispatched s.history := by
  unfold ServerSession.applyAuthResult
  split
  · split <;> exact ⟨rfl, rfl, rfl, List.append_nil _, List.append_nil _⟩
  · split
    · exact ⟨rfl, rfl, rfl, List.append_nil _, List.append_nil _⟩
    · exact ⟨rfl, rfl, rfl, rfl, rfl⟩

/-- **A session has taken frames** off what it has of a payload, and sent nothing. -/
structure Starts (s t : ServerSession) (first : Bytes) : Prop where
  takes : ∃ fs, collect requested t.history = collect requested s.history ++ fs.map requestOf
    ∧ first = udpFrameCode.stream fs ++ t.udpDataBuf
  sends : collect dispatched t.history = collect dispatched s.history
  waits : t.status = .udpForward → .inRead ∈ t.pending →
    .inRead ∈ s.pending ∨ udpFrameCode.decode t.udpDataBuf = none

/-- **The handler of a payload and the datagrams** in it: a relay over UDP takes frames
off what it has of the payload. -/
theorem datagrams_of_payload (env : Env) {s : ServerSession} (hnone : s.udpDataBuf = [])
    (data : Bytes) (granted : Bool) :
    ∃ first, Begins env data first ∧ Starts s (s.handleHandshakePayload env data granted) first
      ∧ (ForUdp env data → (s.handleHandshakePayload env data granted).status = .udpForward
        ∨ (s.handleHandshakePayload env data granted).status = .destroy)
      ∧ (NotForUdp env data → (s.handleHandshakePayload env data granted).status = .udpForward →
        s.status = .udpForward) := by
  obtain ⟨context, hgate⟩ := exists_gateResult env (s.notes (.handshakePayload data)) data
  unfold handleHandshakePayload
  simp only [hgate]
  obtain ⟨hubuf, hustatus, hupending, hureq, husent⟩ := datagrams_applyAuthResult
    (s.notes (.handshakePayload data)) (SessionGate.evaluate env.config env.auth ⟨context, data⟩)
  have hureq := hureq.trans (List.append_nil _)
  have husent := husent.trans (List.append_nil _)
  have hubuf := hubuf.trans hnone
  generalize (s.notes (.handshakePayload data)).applyAuthResult
    (SessionGate.evaluate env.config env.auth ⟨context, data⟩) = u
    at hubuf hustatus hupending hureq husent ⊢
  have hstarts {v w : ServerSession} {first : Bytes} (hv : v.history = u.history)
      (hvbuf : v.udpDataBuf = first) (hw : Beside [] [] v w) : Starts s w first := by
    obtain ⟨fs, hfs, hstream, -⟩ := hw.takes
    refine ⟨⟨fs, by rw [hfs, hv, hureq], by rw [← hstream, hvbuf, List.append_nil]⟩, ?_,
      fun hudp hread => (hw.waits hudp hread).imp_left (fun hmem => ?_)⟩
    · rw [hw.sends, hv, husent, List.append_nil]
    · rw [pending, hv, ← pending, hupending] at hmem
      exact hmem
  have hdials {v w : ServerSession} (hw : Beside [] [] u w) (target : ConnectTarget)
      (hv : v = w.begins (.tcpResolve target)) :
      Starts s v [] ∧ (v.status = .udpForward → u.status = .udpForward) := by
    obtain ⟨⟨fs, hfs, hstream⟩, hsends, hwaits⟩ := hstarts rfl hubuf hw
    rw [hv]
    refine ⟨⟨⟨fs, (List.append_nil _).trans hfs, hstream⟩, (List.append_nil _).trans hsends,
      fun hudp hread => hwaits hudp ?_⟩, hw.udp⟩
    exact (List.mem_cons.mp hread).resolve_left Operation.noConfusion
  -- nothing of the payload is kept for a relay over TCP
  have hempty {w : ServerSession}
      (hmode : (buildExecutionPlan (SessionGate.evaluate env.config env.auth
        ⟨context, data⟩)).mode ≠ .startUdpForward)
      (hw : Starts s w [] ∧ (w.status = .udpForward → u.status = .udpForward)) :
      ∃ first, Begins env data first ∧ Starts s w first
        ∧ (ForUdp env data → w.status = .udpForward ∨ w.status = .destroy)
        ∧ (NotForUdp env data → w.status = .udpForward → s.status = .udpForward) :=
    ⟨[], ⟨context, (if_neg hmode).symm⟩, hw.1, fun hudp => absurd (hudp context) hmode,
      fun _ hudp => hustatus.symm.trans (hw.2 hudp)⟩
  unfold executePlan
  split
  · rename_i hmode
    obtain ⟨v, hv⟩ : ∃ v : ServerSession, v = { u with
        outWriteBuf := (buildExecutionPlan (SessionGate.evaluate env.config env.auth
          ⟨context, data⟩)).initialOutboundPayload
        status := .udpForward
        udpDataBuf := (buildExecutionPlan (SessionGate.evaluate env.config env.auth
          ⟨context, data⟩)).initialOutboundPayload } := ⟨_, rfl⟩
    unfold startUdpForward
    rw [← hv]
    refine ⟨v.udpDataBuf, ⟨context, ?_⟩, hstarts (by rw [hv]) rfl (Beside.refl v).udpSent,
      fun _ => (keepsStatus_udpSent env v).imp_left (fun hk => hk.trans (by rw [hv])),
      fun hnot => absurd hmode (hnot context)⟩
    rw [if_pos hmode, hv]
  · rename_i hmode
    refine hempty (by rw [hmode]; exact RelayMode.noConfusion) ?_
    unfold connectOutbound
    split
    · dsimp only
      have hslot := (Beside.refl u).adds (t := { u with
        outWriteBuf := (buildExecutionPlan (SessionGate.evaluate env.config env.auth
          ⟨context, data⟩)).initialOutboundPayload }.tryAcquireFallbackSlot granted)
        [_] rfl (by simp [isAside, requested, dispatched]) rfl id rfl
      split
      · exact hdials hslot _ rfl
      · exact ⟨hstarts rfl hubuf hslot.destroy, hslot.destroy.udp⟩
    · exact hdials ((Beside.refl u).adds (t := { u with
        outWriteBuf := (buildExecutionPlan (SessionGate.evaluate env.config env.auth
          ⟨context, data⟩)).initialOutboundPayload }) [] rfl (by simp) rfl id rfl) _ rfl
  · rename_i hmode
    refine hempty (by rw [hmode]; exact RelayMode.noConfusion) ?_
    have hdestroy := @Beside.destroy env _ _ _ _ ((Beside.refl u).adds (t := { u with
      outWriteBuf := (buildExecutionPlan (SessionGate.evaluate env.config env.auth
        ⟨context, data⟩)).initialOutboundPayload }) [] rfl (by simp) rfl id rfl)
    exact ⟨hstarts rfl hubuf hdestroy, hdestroy.udp⟩

/-! ## Every session and its datagrams -/

/-- What an operation resolves. -/
def resolving : Operation → List UdpDispatchRequest
  | .udpResolve request => [request]
  | _ => []

/-- The packets a session has begun to resolve are those of its operations. -/
theorem requested_eq_begun : requested = begun resolving := by
  funext m
  cases m with
  | began op => cases op <;> rfl
  | _ => rfl

/-- **The datagrams of a session**: those it has taken off its stream, those it has been
answered about, and those it has sent. -/
structure Dispatches (env : Env) (s : ServerSession) : Prop where
  taken : ∃ first fs, collect requested s.history = fs.map requestOf
    ∧ first ++ collect buffered s.history = udpFrameCode.stream fs ++ s.udpDataBuf
    ∧ (s.handshakePayloads = [] → first = [])
    ∧ ∀ data, s.handshakePayloads = [data] → Begins env data first
  outstanding : (collect requested s.history).Perm
    ((collect answered s.history).map Prod.fst ++ s.pending.flatMap resolving)
  inOrder : (collect answered s.history).map Prod.fst <+: collect requested s.history
  sent : (collect dispatched s.history).map some = (collect answered s.history).map (dispatchOf env)
    ∨ s.status = .destroy ∧ s.pending.flatMap resolving = []
      ∧ (collect dispatched s.history).map some
        <+: (collect answered s.history).map (dispatchOf env)
  waits : s.status = .udpForward → .inRead ∈ s.pending → udpFrameCode.decode s.udpDataBuf = none
  udp : ∀ data, s.handshakePayloads = [data] → ForUdp env data →
    (s.status = .udpForward ∨ s.status = .destroy)
      ∧ collect relayed s.history = collect buffered s.history
  other : ∀ data, s.handshakePayloads = [data] → NotForUdp env data →
    s.status ≠ .udpForward ∧ collect buffered s.history = []

/-- What such marks are to the readings of the datagrams. -/
theorem datagrams_of_isAside {m : Mark Operation Buffer Note} (h : isAside m = true) :
    buffered m = [] ∧ answered m = [] ∧ ∀ op, m ≠ .ended op := by
  have hreadings : buffered m = [] ∧ answered m = [] := by
    cases m with
    | noted n =>
      cases n with
      | handled status e => exact absurd h Bool.false_ne_true
      | _ => exact ⟨rfl, rfl⟩
    | _ => exact ⟨rfl, rfl⟩
  refine ⟨hreadings.1, hreadings.2, ?_⟩
  rintro op rfl
  exact absurd h Bool.false_ne_true

/-- A completion answers what its operation resolves. -/
theorem answered_handled (status : Status) {e : Event} {op : Operation}
    (he : e.operation = some op) :
    (answered (.noted (.handled status e))).map Prod.fst = resolving op := by
  cases e with
  | start remoteEndpoint => exact absurd he (by simp [Event.operation])
  | _ =>
    rw [← Option.some.inj he]
    rfl

/-- A session asks for one packet at a time. -/
theorem Pump.length_resolving {s : ServerSession} (h : Pump s) :
    (s.pending.flatMap resolving).length ≤ 1 := by
  refine Nat.le_trans ?_ h.owes.le_one.1
  show _ ≤ s.pending.countP Operation.isUp
  induction s.pending with
  | nil => exact Nat.le_refl _
  | cons op l ih =>
    rw [List.flatMap_cons, List.length_append, List.countP_cons]
    cases op with
    | udpResolve request =>
      show 1 + _ ≤ _ + 1
      omega
    | _ =>
      show 0 + _ ≤ _
      omega

/-- **What is outstanding** when a handler has left its marks. -/
theorem Dispatches.outstanding_of_marks {env : Env} {s t : ServerSession} {e : Event}
    {op : Operation} (hs : Dispatches env s) (he : e.operation = some op) (hop : op ∈ s.pending)
    {new : History} (ht : t.history = new ++ (s.receives e).history)
    (hnew : ∀ m ∈ new, answered m = [] ∧ ∀ op, m ≠ .ended op) :
    (collect requested t.history).Perm
        ((collect answered t.history).map Prod.fst ++ t.pending.flatMap resolving)
      ∧ (collect answered t.history).map Prod.fst
        = (collect answered s.history).map Prod.fst ++ resolving op := by
  have hanswered : collect answered t.history
      = collect answered s.history ++ answered (.noted (.handled s.status e)) :=
    collect_of_beside he ht (fun m hm => (hnew m hm).1) rfl
  have hrequested : collect requested t.history
      = collect requested s.history ++ collect requested new := by
    rw [ht, collect_append, receives, he]
    show collect requested s.history ++ [] ++ [] ++ _ = _
    rw [List.append_nil, List.append_nil]
  have hpending : (t.pending.flatMap resolving).Perm
      (collect requested new ++ (s.receives e).pending.flatMap resolving) := by
    rw [pending, ht, requested_eq_begun]
    exact perm_inFlight_append resolving (fun op hmem => (hnew _ hmem).2 op rfl)
  have hended : (s.pending.flatMap resolving).Perm
      (resolving op ++ (s.receives e).pending.flatMap resolving) := by
    rw [receives, he]
    exact perm_inFlight_ended resolving (h := .noted (.handled s.status e) :: s.history) hop
  have hfirst : (collect answered t.history).map Prod.fst
      = (collect answered s.history).map Prod.fst ++ resolving op := by
    rw [hanswered, List.map_append, answered_handled s.status he]
  refine ⟨?_, hfirst⟩
  rw [hrequested, hfirst]
  refine (hs.outstanding.append_right _).trans ?_
  refine (((hended.append_left _).append_right _).trans ?_).trans (hpending.symm.append_left _)
  rw [List.append_assoc, List.append_assoc, List.append_assoc]
  exact (List.perm_append_comm.append_left _).append_left _

/-- What ends is what is outstanding. -/
theorem Pump.resolving_eq {s : ServerSession} (h : Pump s) {request : UdpDispatchRequest}
    (hop : .udpResolve request ∈ s.pending) : s.pending.flatMap resolving = [request] := by
  have hlength := h.length_resolving
  have hmem : request ∈ s.pending.flatMap resolving :=
    List.mem_flatMap.mpr ⟨_, hop, List.mem_singleton_self _⟩
  cases hl : s.pending.flatMap resolving with
  | nil => exact absurd (hl ▸ hmem) List.not_mem_nil
  | cons r l =>
    rw [hl] at hlength hmem
    obtain rfl : l = [] :=
      List.eq_nil_of_length_eq_zero (Nat.le_zero.mp (Nat.le_of_succ_le_succ hlength))
    rw [List.mem_singleton.mp hmem]

/-- **A packet is answered in its turn.** -/
theorem Dispatches.answers {env : Env} {s : ServerSession} (hs : Dispatches env s) (hp : Pump s)
    {op : Operation} (hop : op ∈ s.pending) :
    (collect answered s.history).map Prod.fst ++ resolving op <+: collect requested s.history := by
  cases op with
  | udpResolve request =>
    obtain ⟨rest, hrest⟩ := hs.inOrder
    have hperm := hs.outstanding
    rw [← hrest, hp.resolving_eq hop, List.perm_append_left_iff, List.perm_singleton] at hperm
    rw [← hrest, hperm]
    exact List.prefix_rfl
  | _ =>
    show _ ++ [] <+: _
    rw [List.append_nil]
    exact hs.inOrder

/-- A session that begins to relay datagrams has only read its payload. -/
theorem collect_buffered_of_relayed {h : History} (hnone : collect relayed h = []) :
    collect buffered h = [] := by
  induction h with
  | nil => rfl
  | cons m h ih =>
    rw [collect_cons, List.append_eq_nil_iff] at hnone ⊢
    refine ⟨ih hnone.1, ?_⟩
    have hm := hnone.2
    unfold buffered
    split
    · split
      · rename_i hudp
        rw [hudp] at hm
        exact hm
      · rfl
    · rfl

/-- A relay over UDP relays what it buffers. -/
theorem relayed_eq_buffered {status : Status} (h : status = .udpForward ∨ status = .destroy)
    (e : Event) : relayed (.noted (.handled status e)) = buffered (.noted (.handled status e)) := by
  cases e with
  | inRead data granted => cases data <;> rcases h with rfl | rfl <;> rfl
  | _ => rcases h with rfl | rfl <;> rfl

/-- **What has been sent** when a completion is handled: what it was answered, or
nothing, and then the session is destroyed and asks for no more. -/
theorem Dispatches.sends {env : Env} {s t : ServerSession} {op : Operation}
    {answer : List (UdpDispatchRequest × Option (List UdpEndpoint))}
    {sent : List (Bytes × UdpEndpoint)} {fs : List UdpFrame} (hs : Dispatches env s)
    (hp : Pump s) (hop : op ∈ s.pending) (hanswer : answer.map Prod.fst = resolving op)
    (hanswered : collect answered t.history = collect answered s.history ++ answer)
    (hdispatched : collect dispatched t.history = collect dispatched s.history ++ sent)
    (houtstanding : (collect requested t.history).Perm
      ((collect answered t.history).map Prod.fst ++ t.pending.flatMap resolving))
    (hrequested : collect requested t.history = collect requested s.history ++ fs.map requestOf)
    (hquiet : s.status = .destroy → fs = [] ∧ t.status = .destroy)
    (hsent : sent.map some = answer.map (dispatchOf env)
      ∨ sent = [] ∧ t.status = .destroy ∧ (resolving op ≠ [] → fs = [])) :
    (collect dispatched t.history).map some = (collect answered t.history).map (dispatchOf env)
      ∨ t.status = .destroy ∧ t.pending.flatMap resolving = []
        ∧ (collect dispatched t.history).map some
          <+: (collect answered t.history).map (dispatchOf env) := by
  have hnothing (hnone : resolving op = []) : answer = [] :=
    List.map_eq_nil_iff.mp (hanswer.trans hnone)
  -- nothing more is outstanding, if no packet was asked for and the last one is answered
  have hsettled (hfs : fs = [])
      (hlast : (s.pending.flatMap resolving).length = (resolving op).length) :
      t.pending.flatMap resolving = [] := by
    have hbefore := hs.outstanding.length_eq
    have hafter := houtstanding.length_eq
    have hlength := congrArg List.length hanswer
    rw [hrequested, hanswered, hfs] at hafter
    simp only [List.length_append, List.length_map, List.map_nil, List.length_nil]
      at hbefore hafter hlength
    exact List.eq_nil_of_length_eq_zero (by omega)
  rw [hanswered, hdispatched, List.map_append, List.map_append]
  rcases hs.sent with hall | ⟨hdestroy, hpending, hprefix⟩
  · rcases hsent with hsome | ⟨rfl, ht, hfs⟩
    · exact .inl (by rw [hall, hsome])
    · by_cases hnone : resolving op = []
      · exact .inl (by rw [hall, hnothing hnone, List.map_nil, List.map_nil])
      · refine .inr ⟨ht, hsettled (hfs hnone) ?_, ?_⟩
        · cases op with
          | udpResolve request => rw [hp.resolving_eq hop, resolving]
          | _ => exact absurd rfl hnone
        · rw [hall, List.map_nil, List.append_nil]
          exact List.prefix_append _ _
  · -- no packet was left to be answered
    have hnone : resolving op = [] := List.flatMap_eq_nil_iff.mp hpending op hop
    have hsilent : sent = [] := by
      rcases hsent with hsome | ⟨hnil, -, -⟩
      · rw [hnothing hnone] at hsome
        exact List.map_eq_nil_iff.mp hsome
      · exact hnil
    obtain ⟨hfs, ht⟩ := hquiet hdestroy
    refine .inr ⟨ht, hsettled hfs (by rw [hpending, hnone]), ?_⟩
    rw [hsilent, hnothing hnone, List.map_nil, List.map_nil, List.append_nil, List.append_nil]
    exact hprefix

/-- Frames that leave a buffer as it was are none. -/
theorem eq_nil_of_stream {fs : List UdpFrame} (buf : Bytes)
    (h : buf = udpFrameCode.stream fs ++ buf) : fs = [] := by
  cases fs with
  | nil => rfl
  | cons f fs =>
    have hlength := congrArg List.length h
    have hpos := udpFrameCode.encode_length_pos f
    rw [FrameCode.stream_cons, List.length_append, List.length_append] at hlength
    omega

/-- **A step beside the stream.** -/
theorem Dispatches.beside {env : Env} {s t : ServerSession} {e : Event} {op : Operation}
    {sent : List (Bytes × UdpEndpoint)} (hs : Dispatches env s) (hord : Orderly env s)
    (hstep : ServerSession.step env s e = some t) (he : e.operation = some op)
    (hop : op ∈ s.pending)
    (hbeside : Beside (buffered (.noted (.handled s.status e))) sent (s.receives e) t)
    (hsent : sent.map some = (answered (.noted (.handled s.status e))).map (dispatchOf env)
      ∨ sent = [] ∧ t.status = .destroy ∧ t.udpDataBuf = s.udpDataBuf) : Dispatches env t := by
  obtain ⟨new, hnew, haside⟩ := hbeside.marks
  obtain ⟨fs, hfs, hstream, hquiet⟩ := hbeside.takes
  have hwire (m) (hm : m ∈ new) := readings_of_isAside (haside m hm)
  have hmarks (m) (hm : m ∈ new) := datagrams_of_isAside (haside m hm)
  have hpayloads : t.handshakePayloads = s.handshakePayloads :=
    (collect_of_beside he hnew (fun m hm => (hwire m hm).2.2.1) rfl).trans (List.append_nil _)
  have hbuffered := collect_of_beside (f := buffered) he hnew (fun m hm => (hmarks m hm).1) rfl
  have hrelayed := collect_of_beside (f := relayed) he hnew (fun m hm => (hwire m hm).2.1) rfl
  have hanswered := collect_of_beside (f := answered) he hnew (fun m hm => (hmarks m hm).2.1) rfl
  have hbuf : (s.receives e).udpDataBuf = s.udpDataBuf := by rw [receives, he]
  have hreads {α : Type} (f : Mark Operation Buffer Note → List α) (hended : f (.ended op) = [])
      (hnote : f (.noted (.handled s.status e)) = []) :
      collect f (s.receives e).history = collect f s.history := by
    rw [receives, he]
    show collect f (.ended op :: .noted (.handled s.status e) :: s.history) = _
    rw [collect_cons, collect_cons, hended, hnote, List.append_nil, List.append_nil]
  rw [hreads requested rfl rfl] at hfs
  rw [hbuf] at hstream
  obtain ⟨houtstanding, hfirst⟩ := hs.outstanding_of_marks he hop hnew
    (fun m hm => (hmarks m hm).2)
  have hdispatched := hbeside.sends
  rw [hreads dispatched rfl rfl] at hdispatched
  refine ⟨?_, houtstanding, ?_, ?_, ?_, ?_, ?_⟩
  · obtain ⟨first, done, hdone, hall, hnone, hbegins⟩ := hs.taken
    refine ⟨first, done ++ fs, by rw [hfs, hdone, List.map_append], ?_,
      by rw [hpayloads]; exact hnone, by rw [hpayloads]; exact hbegins⟩
    rw [hbuffered, ← List.append_assoc, hall, List.append_assoc, hstream]
    simp only [FrameCode.stream, List.flatMap_append, List.append_assoc]
  · rw [hfirst, hfs]
    exact (hs.answers hord.pump hop).trans (List.prefix_append _ _)
  · refine hs.sends hord.pump hop (answered_handled s.status he) hanswered hdispatched houtstanding
      hfs (fun hdestroy => ⟨hquiet ((status_receives s e).trans hdestroy), ?_⟩) (hsent.imp_right ?_)
    · refine (hord.pump.keepsStatus (by rw [hdestroy]; exact Status.noConfusion) hstep).elim
        (fun hk => hk.trans hdestroy) id
    · rintro ⟨hnone, hdestroy, hsame⟩
      refine ⟨hnone, hdestroy, fun hresolve => ?_⟩
      cases e with
      | udpResolve request results openError =>
        rw [hsame] at hstream
        exact eq_nil_of_stream _ ((List.append_nil _).symm.trans hstream)
      | start remoteEndpoint => exact absurd he (by simp [Event.operation])
      | _ =>
        rw [← Option.some.inj he] at hresolve
        exact absurd rfl hresolve
  · intro hudp hread
    refine (hbeside.waits hudp hread).elim (fun hmem => ?_) id
    -- it was waiting before, and has not read
    have hup : op.isUp = false := by
      cases hup : op.isUp with
      | false => rfl
      | true =>
        have howes := hord.pump.owes.receives he hop
        rw [hup] at howes
        exact absurd (howes.not_isUp hmem) (by simp [Operation.isUp])
    have hbefore : .inRead ∈ s.pending := by
      rw [receives, he] at hmem
      exact List.mem_of_mem_erase hmem
    have hnone := hs.waits ((status_receives s e).symm.trans (hbeside.udp hudp)) hbefore
    have hquiet : buffered (.noted (.handled s.status e)) = [] := by
      cases e with
      | inRead data granted =>
        rw [← Option.some.inj he] at hup
        exact absurd hup (by simp [Operation.isUp])
      | _ => rfl
    rw [hquiet, List.append_nil] at hstream
    cases fs with
    | nil => rwa [hstream] at hnone
    | cons f fs =>
      rw [hstream, FrameCode.stream_cons, List.append_assoc,
        udpFrameCode.decode_encode_append] at hnone
      exact absurd hnone (by simp)
  · intro data hdata hfor
    obtain ⟨hstatus, hsame⟩ := hs.udp data (hpayloads.symm.trans hdata) hfor
    refine ⟨?_, by rw [hrelayed, hbuffered, hsame, relayed_eq_buffered hstatus]⟩
    have hne : s.status ≠ .handshake := by
      rcases hstatus with hstatus | hstatus <;> rw [hstatus] <;> exact Status.noConfusion
    rcases hord.pump.keepsStatus hne hstep with hk | hk
    · exact hstatus.imp hk.trans hk.trans
    · exact .inr hk
  · intro data hdata hnot
    obtain ⟨hstatus, hnone⟩ := hs.other data (hpayloads.symm.trans hdata) hnot
    refine ⟨fun hudp => hstatus ((status_receives s e).symm.trans (hbeside.udp hudp)), ?_⟩
    rw [hbuffered, hnone, List.nil_append]
    cases e with
    | inRead data granted => cases data <;> simp [buffered, hstatus]
    | _ => rfl

/-- **The read of the payload.** -/
theorem Dispatches.payload {env : Env} {s t : ServerSession} {data : Bytes} {granted : Bool}
    (hs : Dispatches env s) (hstreams : Streams env s) (hord : Orderly env s)
    (hop : .inRead ∈ s.pending) (hstatus : s.status = .handshake) (hnone : s.handshakePayloads = [])
    (ht : t = (s.receives (.inRead (some data) granted)).handle env (.inRead (some data) granted)) :
    Dispatches env t := by
  have hrelayed := (hstreams.unrelayed hnone).1
  have hbuffered := collect_buffered_of_relayed hrelayed
  -- nothing has been taken before
  obtain ⟨hrequested, hempty⟩ : collect requested s.history = [] ∧ s.udpDataBuf = [] := by
    obtain ⟨first, fs, hfs, hall, hfirst, -⟩ := hs.taken
    rw [hfirst hnone, hbuffered, List.append_nil] at hall
    obtain ⟨hstream, hbuf⟩ := List.append_eq_nil_iff.mp hall.symm
    obtain rfl : fs = [] := eq_nil_of_stream [] (by rw [hstream]; rfl)
    exact ⟨hfs, hbuf⟩
  obtain ⟨u, new, hu, hustatus, hubuf, huhistory, hhistory, -, hof⟩ := exists_of_payload hstatus ht
  have hpayloads := handshakePayloads_of_payload hnone hhistory hof
  have he : (Event.inRead (some data) granted).operation = some .inRead := rfl
  have ht' : t.history = (new ++ [.noted (.handshakePayload data), .modified .inReadBuf])
      ++ (s.receives (.inRead (some data) granted)).history := by
    rw [hhistory, receives, he, hstatus, List.append_assoc]
    rfl
  have hmarks : ∀ m ∈ new ++ [.noted (.handshakePayload data), .modified .inReadBuf],
      relayed m = [] ∧ buffered m = [] ∧ answered m = [] ∧ ∀ op, m ≠ .ended op := by
    intro m hm
    rcases List.mem_append.mp hm with hm | hm
    · refine ⟨(readings_of_ofPayload (hof m hm)).2.1, ?_⟩
      rcases hof m hm with haside | ⟨-, target, rfl, -⟩
      · exact datagrams_of_isAside haside
      · exact ⟨rfl, rfl, by simp⟩
    · rcases List.mem_cons.mp hm with rfl | hm
      · exact ⟨rfl, rfl, rfl, by simp⟩
      · rw [List.mem_singleton.mp hm]
        exact ⟨rfl, rfl, rfl, by simp⟩
  obtain ⟨houtstanding, hfirst⟩ := hs.outstanding_of_marks he hop ht'
    (fun m hm => (hmarks m hm).2.2)
  have hquiet {α : Type} (f : Mark Operation Buffer Note → List α)
      (hsilent : ∀ m ∈ new ++ [.noted (.handshakePayload data), .modified .inReadBuf], f m = [])
      (hended : f (.ended .inRead) = [])
      (hnote : f (.noted (.handled .handshake (.inRead (some data) granted))) = []) :
      collect f t.history = collect f s.history := by
    rw [collect_of_beside he ht' hsilent hended, hstatus, hnote, List.append_nil]
  have hrelayed' : collect relayed t.history = [] := by
    rw [hquiet relayed (fun m hm => (hmarks m hm).1) rfl rfl, hrelayed]
  have hbuffered' : collect buffered t.history = [] := by
    rw [hquiet buffered (fun m hm => (hmarks m hm).2.1) rfl rfl, hbuffered]
  have hanswered := hquiet answered (fun m hm => (hmarks m hm).2.2.1) rfl rfl
  have hu' {α : Type} (f : Mark Operation Buffer Note → List α)
      (hbuf : f (.modified .inReadBuf) = [])
      (hended : f (.ended .inRead) = [])
      (hnote : f (.noted (.handled .handshake (.inRead (some data) granted))) = []) :
      collect f u.history = collect f s.history := by
    rw [huhistory, receives, he, hstatus]
    show collect f s.history ++ f _ ++ f _ ++ f _ = _
    rw [hbuf, hended, hnote, List.append_nil, List.append_nil, List.append_nil]
  obtain ⟨first, hbegins, ⟨⟨fs, hfs, hstream⟩, hsends, hwaits⟩, hudp, hother⟩ :=
    datagrams_of_payload env (hubuf.trans hempty) data granted
  rw [← hu] at hfs hstream hsends hwaits hudp hother
  rw [hu' requested rfl rfl rfl, hrequested, List.nil_append] at hfs
  rw [hu' dispatched rfl rfl rfl] at hsends
  refine ⟨⟨first, fs, hfs, by rw [hbuffered', List.append_nil, hstream], fun hnil => ?_,
    fun data' hdata' => ?_⟩, houtstanding, ?_, ?_, fun hst hread => ?_, fun data' hdata' hfor => ?_,
    fun data' hdata' hnot => ?_⟩
  · exact absurd (hpayloads.symm.trans hnil) (List.cons_ne_nil _ _)
  · obtain rfl : data = data' := List.singleton_inj.mp (hpayloads.symm.trans hdata')
    exact hbegins
  · have horder := hs.inOrder
    rw [hrequested] at horder
    rw [hanswered, List.prefix_nil.mp horder]
    exact List.nil_prefix
  · rw [hsends, hanswered]
    refine .inl (hs.sent.resolve_right (fun hdestroy => ?_))
    exact Status.noConfusion (hstatus.symm.trans hdestroy.1)
  · refine (hwaits hst hread).resolve_left (fun hmem => ?_)
    have howes := hord.pump.owes.receives he hop
    rw [pending, huhistory] at hmem
    exact absurd (howes.not_isUp hmem) (by simp [Operation.isUp])
  · obtain rfl : data = data' := List.singleton_inj.mp (hpayloads.symm.trans hdata')
    exact ⟨hudp hfor, hrelayed'.trans hbuffered'.symm⟩
  · obtain rfl : data = data' := List.singleton_inj.mp (hpayloads.symm.trans hdata')
    refine ⟨fun hst => Status.noConfusion (hustatus.symm.trans (hother hnot hst)), hbuffered'⟩

/-- **A step of a session.** -/
theorem Dispatches.step {env : Env} {s t : ServerSession} {e : Event} (hs : Dispatches env s)
    (hstreams : Streams env s) (hord : Orderly env s)
    (hstep : ServerSession.step env s e = some t) : Dispatches env t := by
  rcases hstreams.step_cases hord hstep with ⟨data, granted, rfl, hstatus, hnone, ht⟩
    | ⟨⟨op, he, hop⟩, -, sent, hbeside, hsent⟩
  · obtain ⟨op, he, hop, -, -⟩ := exists_operation_of_step hord.pump.started hstep
    obtain rfl : Operation.inRead = op := Option.some.inj he
    exact hs.payload hstreams hord hop hstatus hnone ht
  · exact hs.beside hord hstep he hop hbeside hsent

/-- A session that has read nothing has asked for nothing. -/
theorem dispatches_of_silent {env : Env} {s : ServerSession} (hudp : s.status ≠ .udpForward)
    (hbuf : s.udpDataBuf = []) (hpayloads : s.handshakePayloads = [])
    (hrequested : collect requested s.history = []) (hanswered : collect answered s.history = [])
    (hdispatched : collect dispatched s.history = []) (hbuffered : collect buffered s.history = [])
    (hpending : s.pending.flatMap resolving = []) : Dispatches env s := by
  refine ⟨⟨[], [], hrequested, by rw [hbuffered, hbuf]; rfl, fun _ => rfl, fun data hdata => ?_⟩,
    ?_, ?_, .inl ?_, fun hst => absurd hst hudp, fun data hdata => ?_, fun data hdata => ?_⟩
  · exact absurd (hpayloads.symm.trans hdata) (List.cons_ne_nil _ _).symm
  · rw [hrequested, hanswered, hpending]
    exact List.Perm.refl _
  · rw [hanswered]
    exact List.nil_prefix
  · rw [hdispatched, hanswered]
    rfl
  all_goals exact absurd (hpayloads.symm.trans hdata) (List.cons_ne_nil _ _).symm

/-- It holds of a session that starts. -/
theorem dispatches_start {env : Env} {handoff : Option ExternalFrontHandoff}
    {remoteEndpoint : Option TcpEndpoint} {t : ServerSession}
    (h : step env (create .standardTls handoff) (.start remoteEndpoint) = some t) :
    Dispatches env t := by
  have hbeside := beside_start h
  obtain ⟨new, hnew, haside⟩ := hbeside.marks
  obtain ⟨fs, hfs, hstream, -⟩ := hbeside.takes
  have hmarks (m) (hm : m ∈ new) := datagrams_of_isAside (haside m hm)
  have hempty := List.append_eq_nil_iff.mp hstream.symm
  obtain rfl : fs = [] := eq_nil_of_stream [] (by rw [hempty.1]; rfl)
  have hpending : (t.pending.flatMap resolving).Perm (collect requested new ++ []) := by
    rw [pending, hnew, requested_eq_begun]
    exact perm_inFlight_append resolving (fun op hmem => (hmarks _ hmem).2.2 op rfl)
  have hrequested : collect requested t.history = collect requested new := by
    rw [hnew, collect_append]
    rfl
  refine dispatches_of_silent (fun hst => Status.noConfusion (hbeside.udp hst)) hempty.2 ?_ hfs ?_
    hbeside.sends ?_ ?_
  · show collect payloadData t.history = []
    rw [hnew, collect_append_of_silent (fun m hm => (readings_of_isAside (haside m hm)).2.2.1)]
    rfl
  · rw [hnew, collect_append_of_silent (fun m hm => (hmarks m hm).2.1)]
    rfl
  · rw [hnew, collect_append_of_silent (fun m hm => (hmarks m hm).1)]
    rfl
  · rw [← hrequested, hfs] at hpending
    exact hpending.eq_nil

/-! ## A stream of datagrams -/

/-- **The gate lets an association through** if the server accepts its password, and hands
on what is behind the header. -/
theorem evaluate_association (env : Env) {password : Bytes} (hfree : CrlfFree password)
    (haccepts : Accepts env password = true) (host : Host) (port : UInt16) (payload : Bytes)
    (context : SessionContext) :
    (buildExecutionPlan (SessionGate.evaluate env.config env.auth
        ⟨context, TrojanRequest.header password .udpAssociate host port ++ payload⟩)).mode
          = .startUdpForward
      ∧ (buildExecutionPlan (SessionGate.evaluate env.config env.auth
        ⟨context, TrojanRequest.header password .udpAssociate host port ++ payload⟩)
          ).initialOutboundPayload = payload := by
  have hauth : (SessionGate.authenticate env.config env.auth
      (TrojanRequest.header password .udpAssociate host port ++ payload)).authenticated = true := by
    rw [authenticate_header env hfree]
    exact haccepts
  have hrequest : (SessionGate.authenticate env.config env.auth
      (TrojanRequest.header password .udpAssociate host port ++ payload)).request
        = ⟨password, some .udpAssociate, SOCKS5Address.ofHost host port, payload⟩ := by
    rw [(SessionGate.authenticate_request env.config env.auth _).1,
      TrojanRequest.parse_header_append _ hfree]
  have heval := @SessionGate.evaluate_of_authenticated env.config env.auth ⟨context,
    TrojanRequest.header password .udpAssociate host port ++ payload⟩ hauth
  rw [heval, hrequest]
  exact ⟨rfl, rfl⟩

/-- What the gate makes of the payload of an association. -/
theorem begins_of_stream (env : Env) {password : Bytes} (hfree : CrlfFree password) {host : Host}
    {port : UInt16} {data rest first : Bytes}
    (hdata : data <+: TrojanRequest.header password .udpAssociate host port ++ rest)
    (hfirst : Begins env data first) :
    (Accepts env password = true ∧ ForUdp env data
        ∧ data = TrojanRequest.header password .udpAssociate host port ++ first)
      ∨ first = [] ∧ NotForUdp env data := by
  obtain ⟨context, hfirst⟩ := hfirst
  have hiff := authenticated_iff env hfree .udpAssociate host port hdata
  cases hauth : (SessionGate.authenticate env.config env.auth data).authenticated with
  | true =>
    obtain ⟨haccepts, payload, rfl⟩ := hiff.mp hauth
    have hplan := evaluate_association env hfree haccepts host port payload
    refine .inl ⟨haccepts, fun context => (hplan context).1, ?_⟩
    rw [hfirst, if_pos (hplan context).1, (hplan context).2]
  | false =>
    have heval (context : SessionContext) :=
      @SessionGate.evaluate_of_not_authenticated env.config env.auth ⟨context, data⟩ hauth
    have hmode : NotForUdp env data := by
      intro context
      rw [heval]
      exact RelayMode.noConfusion
    exact .inr ⟨by rw [hfirst, if_neg (hmode context)], hmode⟩

/-- **Frames that look alike are the same.** -/
theorem bytes_injective : Function.Injective UdpFrame.bytes := by
  intro f g h
  have hf := UDPPacket.parse_bytes {} f []
  rw [h, UDPPacket.parse_bytes {} g []] at hf
  obtain ⟨haddress, -, hpayload⟩ := UDPPacket.mk.inj (Prod.mk.inj hf).1
  obtain ⟨htype, htext, hport⟩ := SOCKS5Address.mk.inj haddress
  have hhost : some g.host = some f.host := by
    rw [← Host.ofText_text, ← Host.ofText_text, htext, Option.some.inj htype]
  obtain ⟨host, port, payload, hfits⟩ := f
  obtain rfl : g.host = host := Option.some.inj hhost
  obtain rfl : g.port = port := hport
  obtain rfl : g.payload = payload := hpayload
  rfl

/-- **What a session does with a stream of datagrams** behind the header of an
association, of which `unread` is still to come. It asks for the frames in the order of
the stream, and only if it accepts the password. It sends to the endpoints that it
chooses of the results, in that order. And when it waits for a read and has read
everything, it has asked for all the frames. -/
theorem dispatches_stream {env : Env} {t : ServerSession} (hord : Orderly env t)
    (hs : Streams env t) (hd : Dispatches env t) {password : Bytes} (hfree : CrlfFree password)
    {host : Host} {port : UInt16} {gs : List UdpFrame} {unread : Bytes}
    (hwire : collect fromWire t.history ++ unread
      = TrojanRequest.header password .udpAssociate host port ++ udpFrameCode.stream gs) :
    collect requested t.history <+: gs.map requestOf
      ∧ (collect requested t.history ≠ [] → Accepts env password = true)
      ∧ (t.status = .udpForward → .inRead ∈ t.pending → unread = [] →
        collect requested t.history = gs.map requestOf) := by
  obtain ⟨first, fs, hrequested, htaken, hnone, hbegins⟩ := hd.taken
  have hlength : t.handshakePayloads.length ≤ 1 := by
    rw [length_handshakePayloads]
    exact hord.pump.owes.once
  -- a session that takes nothing asks for nothing
  have hsilent (hfirst : first = []) (hbuffered : collect buffered t.history = []) :
      collect requested t.history = [] := by
    rw [hfirst, hbuffered, List.append_nil] at htaken
    obtain rfl : fs = [] := eq_nil_of_stream []
      (by rw [(List.append_eq_nil_iff.mp htaken.symm).1]; rfl)
    exact hrequested
  cases hpayloads : t.handshakePayloads with
  | nil =>
    obtain ⟨hrelayed, hudp⟩ := hs.unrelayed hpayloads
    rw [hsilent (hnone hpayloads) (collect_buffered_of_relayed hrelayed)]
    exact ⟨List.nil_prefix, fun hne => absurd rfl hne, fun hst => absurd hst hudp⟩
  | cons data rest =>
    obtain rfl : rest = [] := by
      rw [hpayloads] at hlength
      exact List.eq_nil_of_length_eq_zero (Nat.le_zero.mp (Nat.le_of_succ_le_succ hlength))
    obtain ⟨late, hlate, halive⟩ := hs.read data hpayloads
    rw [hlate] at hwire
    have hdata : data <+: TrojanRequest.header password .udpAssociate host port
        ++ udpFrameCode.stream gs :=
      ⟨_, by rw [← hwire, List.append_assoc, List.append_assoc]⟩
    rcases begins_of_stream env hfree hdata (hbegins data hpayloads) with
      ⟨haccepts, hfor, hwhole⟩ | ⟨hfirst, hnot⟩
    · rw [(hd.udp data hpayloads hfor).2, hwhole, List.append_assoc, List.append_assoc,
        List.append_assoc, List.append_cancel_left_eq, ← List.append_assoc, htaken,
        List.append_assoc] at hwire
      obtain ⟨more, rfl, hmore⟩ := udpFrameCode.exists_of_stream_append bytes_injective hwire
      rw [hrequested]
      refine ⟨by rw [List.map_append]; exact List.prefix_append _ _, fun _ => haccepts,
        fun hudp hread hall => ?_⟩
      rw [halive (by rw [hudp]; exact Status.noConfusion), hall, List.append_nil,
        List.append_nil] at hmore
      rw [(udpFrameCode.stream_eq_nil_of_wait hmore (hd.waits hudp hread)).1, List.append_nil]
    · obtain ⟨hudp, hbuffered⟩ := hd.other data hpayloads hnot
      rw [hsilent hfirst hbuffered]
      exact ⟨List.nil_prefix, fun hne => absurd rfl hne, fun hst => absurd hst hudp⟩

/-! ## What comes back -/

/-- The datagrams that come from the targets, with their senders. -/
def receivedFrom : Mark Operation Buffer Note → List (Bytes × UdpEndpoint)
  | .noted (.handled .udpForward (.udpReceive (some (data, endpoint)))) => [(data, endpoint)]
  | _ => []

/-- **What comes to a session** of its targets: what it receives are datagrams, and a relay
over UDP reads nothing else. -/
structure Hears (env : Env) (s : ServerSession) : Prop where
  sized : ∀ status data endpoint,
    .noted (.handled status (.udpReceive (some (data, endpoint)))) ∈ s.history →
      isDatagram data = true
  fresh : s.handshakePayloads = [] → collect fromTarget s.history = []
  udp : ∀ data, s.handshakePayloads = [data] → ForUdp env data →
    collect fromTarget s.history = []

/-- What such marks are to a relay. -/
theorem hears_of_isAside {m : Mark Operation Buffer Note} (h : isAside m = true) :
    fromTarget m = [] ∧ ∀ status e, m ≠ .noted (.handled status e) := by
  refine ⟨?_, ?_⟩
  · cases m with
    | noted n =>
      cases n with
      | handled status e => exact absurd h Bool.false_ne_true
      | _ => rfl
    | _ => rfl
  · rintro status e rfl
    exact absurd h Bool.false_ne_true

/-- **A step of a session.** -/
theorem Hears.step {env : Env} {s t : ServerSession} {e : Event} (hs : Hears env s)
    (hd : Dispatches env s) (hstreams : Streams env s) (hord : Orderly env s)
    (hstep : ServerSession.step env s e = some t) : Hears env t := by
  obtain ⟨op, he, hop, hfits, -⟩ := exists_operation_of_step hord.pump.started hstep
  have hmarks : ∃ new, t.history = new ++ (s.receives e).history
      ∧ (∀ m ∈ new, fromTarget m = [] ∧ ∀ status e, m ≠ .noted (.handled status e))
      ∧ (s.status = .handshake ∧ s.handshakePayloads = []
        ∨ t.handshakePayloads = s.handshakePayloads) := by
    rcases hstreams.step_cases hord hstep with ⟨data, granted, rfl, hstatus, hnone, ht⟩
      | ⟨-, -, sent, hbeside, -⟩
    · obtain ⟨u, new, -, -, -, -, hhistory, -, hof⟩ := exists_of_payload hstatus ht
      refine ⟨new ++ [.noted (.handshakePayload data), .modified .inReadBuf], ?_, fun m hm => ?_,
        .inl ⟨hstatus, hnone⟩⟩
      · rw [hhistory, receives, he, hstatus, List.append_assoc, ← Option.some.inj he]
        rfl
      · rcases List.mem_append.mp hm with hm | hm
        · rcases hof m hm with haside | ⟨-, target, rfl, -⟩
          · exact hears_of_isAside haside
          · exact ⟨rfl, by simp⟩
        · rcases List.mem_cons.mp hm with rfl | hm
          · exact ⟨rfl, by simp⟩
          · rw [List.mem_singleton.mp hm]
            exact ⟨rfl, by simp⟩
    · obtain ⟨new, hnew, haside⟩ := hbeside.marks
      refine ⟨new, hnew, fun m hm => hears_of_isAside (haside m hm), .inr ?_⟩
      exact (collect_of_beside he hnew (fun m hm => (readings_of_isAside (haside m hm)).2.2.1)
        rfl).trans (List.append_nil _)
  obtain ⟨new, hnew, hquiet, hpayloads⟩ := hmarks
  have hfrom := collect_of_beside (f := fromTarget) he hnew (fun m hm => (hquiet m hm).1) rfl
  have hnothing (hforward : s.status ≠ .forward) :
      fromTarget (.noted (.handled s.status e)) = [] := by
    unfold fromTarget
    split
    · rename_i heq
      exact absurd (Note.handled.inj (Mark.noted.inj heq)).1 hforward
    · rfl
  refine ⟨fun status data endpoint hm => ?_, fun hnone => ?_, fun data hdata hfor => ?_⟩
  · rw [hnew, List.mem_append] at hm
    rcases hm with hm | hm
    · exact absurd rfl ((hquiet _ hm).2 status _)
    · rw [receives, he] at hm
      rcases List.mem_cons.mp ((List.mem_cons.mp hm).resolve_left (by simp)) with heq | hm
      · obtain ⟨rfl, rfl⟩ := Note.handled.inj (Mark.noted.inj heq)
        exact (Bool.and_eq_true_iff.mp hfits).2
      · exact hs.sized status data endpoint hm
  · have hbefore : s.handshakePayloads = [] := by
      rcases hpayloads with ⟨-, hbefore⟩ | hsame
      · exact hbefore
      · exact hsame.symm.trans hnone
    rw [hfrom, hs.fresh hbefore, hnothing (fun hst => hord.handshakePayloads_ne_nil hst hbefore)]
    rfl
  · rcases hpayloads with ⟨hstatus, hnone⟩ | hsame
    · rw [hfrom, hs.fresh hnone, hnothing (by rw [hstatus]; exact Status.noConfusion)]
      rfl
    · have hdata := hsame.symm.trans hdata
      rw [hfrom, hs.udp data hdata hfor, hnothing (fun hst => ?_)]
      · rfl
      · rcases (hd.udp data hdata hfor).1 with hudp | hudp
        all_goals exact Status.noConfusion (hst.symm.trans hudp)

/-- It holds of a session that starts. -/
theorem hears_start {env : Env} {handoff : Option ExternalFrontHandoff}
    {remoteEndpoint : Option TcpEndpoint} {t : ServerSession}
    (h : step env (create .standardTls handoff) (.start remoteEndpoint) = some t) :
    Hears env t := by
  obtain ⟨new, hnew, haside⟩ := (beside_start h).marks
  have hfrom : collect fromTarget t.history = [] := by
    rw [hnew, collect_append_of_silent (fun m hm => (hears_of_isAside (haside m hm)).1)]
    rfl
  refine ⟨fun status data endpoint hm => ?_, fun _ => hfrom, fun _ _ _ => hfrom⟩
  rw [hnew, List.mem_append] at hm
  rcases hm with hm | hm
  · exact absurd rfl ((hears_of_isAside (haside _ hm)).2 status _)
  · exact absurd (List.mem_singleton.mp hm) (by simp)

/-- **A session of datagrams**, in any run. -/
theorem datagrams_run {env : Env} {handoff : Option ExternalFrontHandoff} {es : List Event}
    {t : ServerSession}
    (h : Machine.run (step env) (create .standardTls handoff) es = some t) :
    t = create .standardTls handoff
      ∨ Orderly env t ∧ Streams env t ∧ Dispatches env t ∧ Hears env t := by
  cases es with
  | nil => exact .inl (Option.some.inj h).symm
  | cons e es =>
    obtain ⟨u, hu, hrest⟩ := Machine.run_cons.mp h
    cases e with
    | start remoteEndpoint =>
      refine .inr (Machine.run_invariant
        (P := fun u => Orderly env u ∧ Streams env u ∧ Dispatches env u ∧ Hears env u)
        (fun v e w hv hstep => ⟨hv.1.step hstep, hv.2.1.step hv.1 hstep,
          hv.2.2.1.step hv.2.1 hv.1 hstep, hv.2.2.2.step hv.2.2.1 hv.2.1 hv.1 hstep⟩)
        ⟨?_, streams_start hu, dispatches_start hu, hears_start hu⟩ hrest)
      exact @orderly_run _ _ _ _ [] _ (Machine.run_cons.mpr ⟨u, hu, rfl⟩)
    | _ => simp [step, accepts, Event.operation, pending, create] at hu

/-- What a relay over UDP has of its targets are frames. -/
theorem fromTargets_eq_stream {h : History}
    (hsized : ∀ status data endpoint,
      .noted (.handled status (.udpReceive (some (data, endpoint)))) ∈ h → isDatagram data = true)
    (hnone : collect fromTarget h = []) :
    ∃ fs : List UdpFrame, collect fromTargets h = udpFrameCode.stream fs
      ∧ fs.map (fun f => f.host.wire f.port ++ f.payload)
        = (collect receivedFrom h).map (fun r => SOCKS5Address.generate r.2 ++ r.1) := by
  induction h with
  | nil => exact ⟨[], rfl, rfl⟩
  | cons m h ih =>
    rw [collect_cons, List.append_eq_nil_iff] at hnone
    obtain ⟨fs, hstream, hfs⟩ := ih
      (fun status data endpoint hm => hsized status data endpoint (List.mem_cons_of_mem _ hm))
      hnone.1
    have hone : ∃ gs : List UdpFrame, fromTargets m = udpFrameCode.stream gs
        ∧ gs.map (fun f => f.host.wire f.port ++ f.payload)
          = (receivedFrom m).map (fun r => SOCKS5Address.generate r.2 ++ r.1) := by
      by_cases hm : ∃ data endpoint,
          m = .noted (.handled .udpForward (.udpReceive (some (data, endpoint))))
      · obtain ⟨data, endpoint, rfl⟩ := hm
        have hfits : data.length < 65536 :=
          of_decide_eq_true (hsized _ data endpoint List.mem_cons_self)
        refine ⟨[UdpFrame.ofEndpoint endpoint data hfits], ?_, ?_⟩
        · show UDPPacket.generate endpoint data = _
          rw [UDPPacket.generate_eq_bytes endpoint data hfits]
          exact (List.append_nil _).symm
        · show [_] = [SOCKS5Address.generate endpoint ++ data]
          rw [SOCKS5Address.generate_eq_wire]
          rfl
      · have hfrom : fromTargets m = [] := by
          unfold fromTargets
          split
          · exact absurd ⟨_, _, rfl⟩ hm
          · exact hnone.2
        have hreceived : receivedFrom m = [] := by
          unfold receivedFrom
          split
          · exact absurd ⟨_, _, rfl⟩ hm
          · rfl
        exact ⟨[], hfrom, by rw [hreceived]; rfl⟩
    obtain ⟨gs, hgs, hmap⟩ := hone
    refine ⟨fs ++ gs, ?_, by rw [collect_cons, List.map_append, List.map_append, hfs, hmap]⟩
    rw [collect_cons, hstream, hgs, FrameCode.stream, FrameCode.stream, FrameCode.stream,
      List.flatMap_append]

/-- **What comes back to the client** of a relay over UDP are the frames of the datagrams
that have come from the targets. -/
theorem toClient_eq_stream {env : Env} {t : ServerSession} (hord : Orderly env t)
    (hh : Hears env t) {data : Bytes} (hdata : t.handshakePayloads = [data])
    (hfor : ForUdp env data) :
    ∃ fs : List UdpFrame, collect toClient t.history = udpFrameCode.stream fs
      ∧ fs.map (fun f => f.host.wire f.port ++ f.payload)
        = (collect receivedFrom t.history).map (fun r => SOCKS5Address.generate r.2 ++ r.1) := by
  have hclient : collect toClient t.history = collect fromTargets t.history := by
    rw [hord.ledger.downward, List.append_nil]
  rw [hclient]
  exact fromTargets_eq_stream hh.sized (hh.udp data hdata hfor)

end ServerSession
