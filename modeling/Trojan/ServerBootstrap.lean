import Trojan.ServerPump

/-!
# The bootstrap of a session behind the trusted front

A session that was accepted for the trusted front reads the front's frame
before it looks at a handshake payload. The frame comes in pieces, as the
network cuts it, and after every piece all that has come is parsed again: an
incomplete frame is read on, a parsed one is handed over, and any other result
destroys the session.

How the frame was cut should not matter. It does in one place: a beginning that
ends exactly with the envelope is not incomplete to the parser, it lacks its
payload, and so the session is destroyed although the payload may be on its
way. `ServerSession.bootstrap_iff` says that this is the only place.
-/

namespace ServerSession

open Flight TrustedFrontIngressParser

/-- The payload that a mark says was handled. -/
def payloadData : Mark Operation Buffer Note → List Bytes
  | .noted (.handshakePayload data) => [data]
  | _ => []

/-- **What `handle_handshake_payload` was called with**, call by call. -/
def handshakePayloads (s : ServerSession) : List Bytes := collect payloadData s.history

theorem length_handshakePayloads (s : ServerSession) :
    s.handshakePayloads.length = s.payloads := by
  unfold handshakePayloads payloads
  induction s.history with
  | nil => rfl
  | cons m h ih =>
    have hone : (payloadData m).length = if isPayload m then 1 else 0 := by
      cases m with
      | noted n => cases n <;> rfl
      | _ => rfl
    rw [collect_cons, List.length_append, ih, List.countP_cons, hone]

/-- A payload that was handled is never forgotten, and stays the only one. -/
theorem handshakePayloads_eq {s : ServerSession} {data : Bytes} (hp : Pump s)
    (hmem : .noted (.handshakePayload data) ∈ s.history) : s.handshakePayloads = [data] := by
  have hlength : s.handshakePayloads.length ≤ 1 := by
    rw [length_handshakePayloads]
    exact hp.owes.once
  have hdata : data ∈ s.handshakePayloads := by
    unfold handshakePayloads
    generalize s.history = h at hmem
    induction h with
    | nil => exact absurd hmem List.not_mem_nil
    | cons m h ih =>
      rw [collect_cons, List.mem_append]
      rcases List.mem_cons.mp hmem with rfl | hmem
      · exact .inr List.mem_cons_self
      · exact .inl (ih hmem)
  match hlist : s.handshakePayloads with
  | [] => rw [hlist] at hdata; exact absurd hdata List.not_mem_nil
  | [d] => rw [hlist, List.mem_singleton] at hdata; rw [hdata]
  | d :: d' :: rest => rw [hlist] at hlength; exact absurd hlength (by simp)

/-- **A session in the bootstrap**, with the bytes it has of the frame and what
it has in flight. -/
structure Awaits (s : ServerSession) (received : Bytes) (ops : List Operation) : Prop where
  status : s.status = .handshake
  pending : s.pending = ops
  buffer : s.trustedFrontBootstrapBuffer = received
  room : s.inReadBuf.length = defaultBufferSize
  unread : s.handshakePayloads = []
  alive : .noted .destroyed ∉ s.history

/-- What is done with what the parser says. -/
def onParsed (env : Env) (s : ServerSession) (result : TrustedFrontIngressParseResult)
    (granted : Bool) : ServerSession :=
  if result.isParsed then
    { s with
        trustedFrontBootstrapBuffer := []
        externalFrontHandoff := result.handoff }.handleHandshakePayload env
      result.downstreamPayload granted
  else if result.status = .rejectedIncompleteFrame then s.trustedFrontIngressAsyncRead
  else s.destroy env

/-- **A piece of the frame** is added to what is there, and all of it is parsed. -/
theorem Awaits.step {s : ServerSession} {received : Bytes}
    (h : Awaits s received [.trustedFrontRead]) {piece : Bytes}
    (hpiece : piece.length ≤ defaultBufferSize) (env : Env) (granted : Bool) :
    ∃ u, Awaits u (received ++ piece) []
      ∧ ServerSession.step env s (.trustedFrontRead (some piece) granted)
        = some (u.onParsed env (parse env.readJson (received ++ piece)) granted) := by
  have haccepts : s.accepts (.trustedFrontRead (some piece) granted) = true := by
    refine (accepts_iff rfl).mpr ⟨by rw [h.pending]; exact List.mem_cons_self, ?_⟩
    show decide (piece.length ≤ s.inReadBuf.length) = true
    rw [h.room]
    exact decide_eq_true hpiece
  have htake : (fillBuffer s.inReadBuf piece).take piece.length = piece := List.take_left
  refine ⟨{ s.receives (.trustedFrontRead (some piece) granted) with
      inReadBuf := fillBuffer s.inReadBuf piece
      trustedFrontBootstrapBuffer := received ++ piece }, ⟨h.status, ?_, rfl, ?_, ?_, ?_⟩, ?_⟩
  · show s.pending.erase _ = []
    rw [h.pending]
    rfl
  · have hroom := h.room
    show (piece ++ s.inReadBuf.drop piece.length).length = _
    rw [List.length_append, List.length_drop]
    omega
  · show (s.handshakePayloads ++ []) ++ [] = []
    rw [h.unread]
    rfl
  · intro hmem
    simp only [receives, Event.operation, List.mem_cons, reduceCtorEq, Mark.noted.injEq,
      false_or] at hmem
    exact h.alive hmem
  · rw [ServerSession.step, if_pos haccepts]
    show some (trustedFrontRecv env _ piece.length granted) = _
    unfold trustedFrontRecv onParsed
    dsimp only
    have hbuffer : (s.receives (.trustedFrontRead (some piece) granted)).trustedFrontBootstrapBuffer
        ++ (fillBuffer (s.receives (.trustedFrontRead (some piece) granted)).inReadBuf
          piece).take piece.length = received ++ piece := by
      show s.trustedFrontBootstrapBuffer ++ (fillBuffer s.inReadBuf piece).take piece.length = _
      rw [htake, h.buffer]
    rw [hbuffer]
    rfl

/-- The reads of some pieces. -/
def readEvents (pieces : List Bytes) (granted : Bool) : List Event :=
  pieces.map (fun piece => .trustedFrontRead (some piece) granted)

variable {env : Env} {s : ServerSession} {received : Bytes} {pieces : List Bytes} {granted : Bool}

/-- Two beginnings of a list are told apart by their lengths. -/
theorem eq_head_or_exists (f : TrustedFrontFrame env.readJson) {rest : Bytes}
    (h : received ++ rest = f.bytes) :
    received.length < f.head.length ∨ received = f.head
      ∨ ∃ q, q ≠ [] ∧ received = f.head ++ q ∧ q ++ rest = f.payload := by
  rcases List.append_eq_append_iff.mp h with ⟨r, hr, -⟩ | ⟨q, hq, hpayload⟩
  · -- the bytes end within the head
    cases r with
    | nil => exact .inr (.inl (by rw [hr, List.append_nil]))
    | cons b r =>
      refine .inl ?_
      rw [hr, List.length_append, List.length_cons]
      omega
  · by_cases hnil : q = []
    · refine .inr (.inl ?_)
      rw [hq, hnil, List.append_nil]
    · exact .inr (.inr ⟨q, hnil, hq, hpayload.symm⟩)

/-- A session that reads on is in the bootstrap. -/
theorem Awaits.readsOn {u : ServerSession} (h : Awaits u received []) :
    Awaits u.trustedFrontIngressAsyncRead received [.trustedFrontRead] := by
  refine ⟨h.status, congrArg _ h.pending, h.buffer, h.room, ?_, fun hmem => ?_⟩
  · exact (List.append_nil _).trans h.unread
  · rcases List.mem_cons.mp hmem with hmem | hmem
    · exact absurd hmem (by simp)
    · exact h.alive hmem

/-- **A frame of which no cut is at the end of the envelope** is handed over,
whole: after some of its pieces the payload is handled, with what has come of
it, and the rest of it is what the other pieces bring. -/
theorem Awaits.handsOver (f : TrustedFrontFrame env.readJson) (granted : Bool)
    (h : Awaits s received [.trustedFrontRead]) (hbytes : received ++ pieces.flatten = f.bytes)
    (hshort : received.length < f.head.length)
    (hfit : ∀ piece ∈ pieces, piece.length ≤ defaultBufferSize)
    (hcut : ∀ j, received ++ (pieces.take j).flatten ≠ f.head) :
    ∃ k q u, Machine.run (ServerSession.step env) s (readEvents (pieces.take k) granted)
        = some (u.handleHandshakePayload env q granted)
      ∧ Awaits u [] [] ∧ u.externalFrontHandoff = some f.handoff
      ∧ q ++ (pieces.drop k).flatten = f.payload := by
  induction pieces generalizing s received with
  | nil =>
    -- a beginning shorter than the head is not the frame
    rw [List.flatten_nil, List.append_nil] at hbytes
    rw [hbytes, TrustedFrontFrame.bytes, List.length_append] at hshort
    omega
  | cons piece pieces ih =>
    obtain ⟨u, hu, hstep⟩ := h.step (hfit piece List.mem_cons_self) env granted
    rw [List.flatten_cons, ← List.append_assoc] at hbytes
    rcases eq_head_or_exists f hbytes with hlt | hhead | ⟨q, hq, hreceived, hpayload⟩
    · -- read on
      have hparse := parse_of_short f ⟨pieces.flatten, hbytes⟩ hlt
      rw [hparse] at hstep
      obtain ⟨k, q, v, hrun, hv⟩ := ih hu.readsOn hbytes hlt
        (fun p hp => hfit p (List.mem_cons_of_mem _ hp))
        (fun j => by
          have hj := hcut (j + 1)
          rwa [List.take_succ_cons, List.flatten_cons, ← List.append_assoc] at hj)
      exact ⟨k + 1, q, v, Machine.run_cons.mpr ⟨_, hstep, hrun⟩, hv⟩
    · have hone := hcut 1
      rw [List.take_succ_cons, List.take_zero, List.flatten_cons, List.flatten_nil,
        List.append_nil] at hone
      exact absurd hhead hone
    · -- the envelope is there, and something of the payload
      rw [hreceived, parse_head_append f hq] at hstep
      refine ⟨1, q, _, Machine.run_cons.mpr ⟨_, hstep, rfl⟩, ?_, rfl, hpayload⟩
      exact ⟨hu.status, hu.pending, rfl, hu.room, hu.unread, hu.alive⟩

/-- A session that is destroyed in the bootstrap handles no payload, and reads
no more of the frame. -/
theorem Awaits.destroy {u : ServerSession} (h : Awaits u received []) (env : Env) :
    (u.destroy env).handshakePayloads = []
      ∧ .trustedFrontRead ∉ (u.destroy env).pending := by
  have hs : u.status ≠ .destroy := by
    rw [h.status]
    simp
  have hhist : (u.destroy env).history = u.farewell env ++ u.history := by
    rw [destroy_eq env u hs]
  constructor
  · rw [handshakePayloads, hhist, collect_append_of_silent, ← handshakePayloads, h.unread]
    intro m hm
    rcases List.mem_append.mp hm with hm | hm
    · obtain ⟨op, -, rfl⟩ := List.mem_map.mp hm
      rfl
    · obtain ⟨n, hn, rfl⟩ := List.mem_map.mp hm
      cases n with
      | handshakePayload data => exact absurd rfl (not_payload_of_farewell hn data)
      | _ => rfl
  · have hpending : (u.destroy env).pending = u.farewellOperations ++ [] := by
      rw [ServerSession.pending, hhist, farewell, List.append_assoc, inFlight_map_began,
        inFlight_map_noted, ← ServerSession.pending, h.pending]
    rw [hpending, List.append_nil]
    unfold farewellOperations
    split <;> simp

/-- **A cut at the end of the envelope** destroys the session: however many of
the pieces are read, no payload is handled. -/
theorem Awaits.loses (f : TrustedFrontFrame env.readJson)
    (h : Awaits s received [.trustedFrontRead]) (hbytes : received ++ pieces.flatten = f.bytes)
    (hshort : received.length < f.head.length)
    (hfit : ∀ piece ∈ pieces, piece.length ≤ defaultBufferSize) {j : ℕ}
    (hcut : received ++ (pieces.take j).flatten = f.head) {k : ℕ} {t : ServerSession}
    (hrun : Machine.run (ServerSession.step env) s (readEvents (pieces.take k) granted) = some t) :
    t.handshakePayloads = [] := by
  induction pieces generalizing s received j k with
  | nil =>
    rw [List.take_nil, List.flatten_nil, List.append_nil] at hcut
    rw [hcut] at hshort
    exact absurd hshort (Nat.lt_irrefl _)
  | cons piece pieces ih =>
    cases j with
    | zero =>
      rw [List.take_zero, List.flatten_nil, List.append_nil] at hcut
      rw [hcut] at hshort
      exact absurd hshort (Nat.lt_irrefl _)
    | succ j =>
      rw [List.take_succ_cons, List.flatten_cons, ← List.append_assoc] at hcut
      rw [List.flatten_cons, ← List.append_assoc] at hbytes
      cases k with
      | zero =>
        obtain rfl := Option.some.inj hrun
        exact h.unread
      | succ k =>
        obtain ⟨u, hu, hstep⟩ := h.step (hfit piece List.mem_cons_self) env granted
        obtain ⟨v, hv, hrest⟩ := Machine.run_cons.mp hrun
        obtain rfl := Option.some.inj (hstep.symm.trans hv)
        rcases eq_head_or_exists f hbytes with hlt | hhead | ⟨q, hq, hreceived, -⟩
        · rw [parse_of_short f ⟨pieces.flatten, hbytes⟩ hlt] at hrest
          refine ih ?_ hbytes hlt (fun p hp => hfit p (List.mem_cons_of_mem _ hp)) hcut hrest
          exact hu.readsOn
        · -- the session is destroyed, and does not read on
          rw [hhead, parse_head f] at hrest
          obtain ⟨hnone, hnot⟩ := hu.destroy env
          cases hps : pieces.take k with
          | nil =>
            rw [hps] at hrest
            obtain rfl := Option.some.inj hrest
            exact hnone
          | cons p ps =>
            rw [hps] at hrest
            obtain ⟨w, hw, -⟩ := Machine.run_cons.mp hrest
            have hrefused : (u.destroy env).accepts (.trustedFrontRead (some p) granted)
                ≠ true := fun hacc => hnot ((accepts_iff rfl).mp hacc).1
            change ServerSession.step env (u.destroy env) _ = _ at hw
            rw [ServerSession.step, if_neg hrefused] at hw
            exact absurd hw (by simp)
        · -- what has come is longer than the head already
          have hlength := congrArg List.length hcut
          rw [hreceived, List.length_append, List.length_append] at hlength
          have hpos := List.length_pos_iff.mpr hq
          omega

/-- What happens to a session of the trusted front before the frame. -/
def bootEvents (mode : BootstrapMode) (endpoint : TcpEndpoint) : List Event :=
  match mode with
  | .trustedFrontIngress => [.start (some endpoint)]
  | _ => [.start (some endpoint), .tlsHandshake none]

theorem awaits_boot (env : Env) {mode : BootstrapMode} (hmode : mode ≠ .standardTls)
    (endpoint : TcpEndpoint) :
    ∃ s, Machine.run (ServerSession.step env) (create mode none) (bootEvents mode endpoint) = some s
      ∧ Awaits s [] [.trustedFrontRead] := by
  have hroom : (List.replicate defaultBufferSize (0 : UInt8)).length = defaultBufferSize :=
    List.length_replicate
  cases mode with
  | standardTls => exact absurd rfl hmode
  | trustedFrontIngress =>
    refine ⟨_, rfl, rfl, rfl, rfl, hroom, rfl, ?_⟩
    show Mark.noted Note.destroyed ∉ ([.began .trustedFrontRead,
      .noted (.handled .handshake (.start (some endpoint)))] : History)
    simp
  | trustedFrontIngressMtls =>
    refine ⟨_, rfl, rfl, rfl, rfl, hroom, rfl, ?_⟩
    show Mark.noted Note.destroyed ∉ ([.began .trustedFrontRead, .ended .tlsHandshake,
      .noted (.handled .handshake (.tlsHandshake none)), .began .tlsHandshake,
      .noted (.handled .handshake (.start (some endpoint)))] : History)
    simp

/-- **When a frame survives its segmentation.** Take a well-formed frame, cut in
any way into reads that fit the buffer. Some of the reads lead to a call of
`handle_handshake_payload`, by a session that was not destroyed and has the
frame's handoff; that call is the only one ever; and what it gets, with what the
other reads bring, is the frame's payload: all this exactly when no read ends
where the envelope ends. -/
theorem bootstrap_iff (f : TrustedFrontFrame env.readJson) (mode : BootstrapMode)
    (hmode : mode ≠ .standardTls) (endpoint : TcpEndpoint)
    (hbytes : pieces.flatten = f.bytes)
    (hfit : ∀ piece ∈ pieces, piece.length ≤ defaultBufferSize) :
    (∃ (k : ℕ) (q : Bytes) (u : ServerSession),
        Machine.run (ServerSession.step env) (create mode none)
          (bootEvents mode endpoint ++ readEvents (pieces.take k) granted)
          = some (u.handleHandshakePayload env q granted)
        ∧ u.status = .handshake ∧ .noted .destroyed ∉ u.history
        ∧ u.externalFrontHandoff = some f.handoff
        ∧ (∀ es t, Machine.run (ServerSession.step env)
          (u.handleHandshakePayload env q granted) es = some t → t.handshakePayloads = [q])
        ∧ q ++ (pieces.drop k).flatten = f.payload)
      ↔ ∀ j, (pieces.take j).flatten ≠ f.head := by
  obtain ⟨s, hs, hawaits⟩ := awaits_boot env hmode endpoint
  have hshort : ([] : Bytes).length < f.head.length := by
    rw [TrustedFrontFrame.head, List.length_append, List.length_cons]
    exact Nat.lt_add_left _ (Nat.succ_pos _)
  constructor
  · rintro ⟨k, q, u, hrun, -, -, -, honce, -⟩ j hcut
    rw [Machine.run_append, hs, Option.bind_some] at hrun
    have hnone := hawaits.loses f hbytes hshort hfit hcut hrun
    rw [honce [] _ rfl] at hnone
    exact absurd hnone (by simp)
  · intro hcut
    obtain ⟨k, q, u, hrun, hu, hhandoff, hpayload⟩ :=
      hawaits.handsOver f granted hbytes hshort hfit hcut
    have hall : Machine.run (ServerSession.step env) (create mode none)
        (bootEvents mode endpoint ++ readEvents (pieces.take k) granted)
        = some (u.handleHandshakePayload env q granted) := by
      rw [Machine.run_append, hs, Option.bind_some, hrun]
    refine ⟨k, q, u, hall, hu.status, hu.alive, hhandoff, fun es t ht => ?_, hpayload⟩
    -- the payload is in the history, and the pump has room for one
    have hpump : Pump t := by
      obtain ⟨rest, hrest⟩ : ∃ rest, bootEvents mode endpoint = .start (some endpoint) :: rest := by
        cases mode <;> exact ⟨_, rfl⟩
      have hlong : Machine.run (ServerSession.step env) (create mode none)
          (bootEvents mode endpoint ++ readEvents (pieces.take k) granted ++ es) = some t := by
        rw [Machine.run_append, hall, Option.bind_some, ht]
      rw [hrest, List.cons_append, List.cons_append] at hlong
      exact pump_run hlong
    refine handshakePayloads_eq hpump ?_
    obtain ⟨new, hnew, -⟩ := Remembers.notesPayload u env q granted
    refine (suffix_run ht).subset ?_
    rw [hnew]
    exact List.mem_append_right _ List.mem_cons_self

/-- An envelope. -/
def sampleEnvelope : Bytes :=
  ascii "\x7b\"source_name\":\"front\",\"trusted_front_id\":\"f1\","
    ++ ascii "\"original_client_ip\":\"192.0.2.1\","
    ++ ascii "\"tls_terminated_by_front\":true,\"metadata_verified\":true\x7d"

/-- A reader that reads that envelope. -/
def sampleReader : JsonReader := fun text =>
  if text = sampleEnvelope then
    some
      { getString := fun key =>
          [("source_name", ascii "front"), ("trusted_front_id", ascii "f1"),
            ("original_client_ip", ascii "192.0.2.1")].lookup key
        getInt := fun _ => none
        getBool := fun key =>
          [("tls_terminated_by_front", true), ("metadata_verified", true)].lookup key }
  else none

/-- A server that reads envelopes with that reader. -/
def sampleEnv : Env := { config := {}, readJson := sampleReader }

/-- A frame with that envelope, and one byte from the client. -/
def sampleFrame : TrustedFrontFrame sampleEnv.readJson where
  digits := ascii "136"
  digits_ne := by decide
  all_digits := by decide +kernel
  envelope := sampleEnvelope
  length_eq := by decide +kernel
  small := by decide +kernel
  input :=
    { sourceName := ascii "front"
      trustedFrontId := ascii "f1"
      originalClientIp := ascii "192.0.2.1"
      tlsTerminatedByFront := true
      metadataVerified := true }
  accepted := by decide +kernel
  payload := [0]
  payload_ne := by decide

/-- A frame that is cut within its length survives. -/
theorem bootstrap_of_early_cut :
    ∃ (k : ℕ) (q : Bytes) (u : ServerSession),
      Machine.run (ServerSession.step sampleEnv) (create .trustedFrontIngress none)
          (bootEvents .trustedFrontIngress {}
            ++ readEvents ([sampleFrame.bytes.take 1, sampleFrame.bytes.drop 1].take k) true)
          = some (u.handleHandshakePayload sampleEnv q true)
        ∧ u.externalFrontHandoff = some sampleFrame.handoff := by
  have hbytes : [sampleFrame.bytes.take 1, sampleFrame.bytes.drop 1].flatten
      = sampleFrame.bytes := by
    decide +kernel
  have hcut (j : ℕ) : ([sampleFrame.bytes.take 1, sampleFrame.bytes.drop 1].take j).flatten
      ≠ sampleFrame.head := by
    rcases j with _ | _ | j
    · decide +kernel
    · decide +kernel
    · rw [List.take_of_length_le (by simp)]
      decide +kernel
  obtain ⟨k, q, u, hrun, -, -, hhandoff, -⟩ :=
    (bootstrap_iff sampleFrame .trustedFrontIngress (by decide) {} hbytes
      (by decide +kernel)).mpr hcut
  exact ⟨k, q, u, hrun, hhandoff⟩

/-- A frame whose first read ends with the envelope does not: the session is
destroyed while the payload is on its way. -/
theorem not_bootstrap_of_cut_behind_envelope :
    ∃ t, Machine.run (ServerSession.step sampleEnv) (create .trustedFrontIngress none)
        (bootEvents .trustedFrontIngress {} ++ readEvents [sampleFrame.head] true) = some t
      ∧ sampleFrame.bytes = sampleFrame.head ++ [0]
      ∧ t.status = .destroy ∧ t.handshakePayloads = [] := by
  have hrun : (Machine.run (ServerSession.step sampleEnv) (create .trustedFrontIngress none)
      (bootEvents .trustedFrontIngress {} ++ readEvents [sampleFrame.head] true)).any
      (fun t => t.status = .destroy ∧ t.handshakePayloads = []) = true := by
    decide +kernel
  obtain ⟨t, ht, hall⟩ := Option.any_eq_true _ _ |>.mp hrun
  exact ⟨t, ht, rfl, of_decide_eq_true hall⟩

end ServerSession
