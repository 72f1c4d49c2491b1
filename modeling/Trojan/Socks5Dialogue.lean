import Trojan.ClientSession
import Trojan.ConfigLoader

/-!
# Speaking SOCKS5

The two messages an application has for a client session before its bytes are relayed: a
greeting, which lists methods of authentication, and a request, with a command and an
address. A session answers each of them with one write, and what it does next depends on
its status when that write is completed: it goes on, or it ends.

Both messages have a grammar, and in both the session is at odds with it. The loop over
the methods reads their number as a signed `char`, so from 128 methods on it finds none
(`answersGreeting_iff`). And a request is checked by the parser for Trojan requests, with
a `CRLF` behind it: an application that sends a `CRLF` of its own behind the address may
send anything after that (`answersRequest_iff`).
-/

namespace ClientSession

open Flight

/-- A write to the application, in a history. -/
def answering : Mark Operation Buffer Note → List Bytes
  | .began (.inWrite data) => [data]
  | _ => []

/-- **What a session has answered**, in the order of time. -/
def answers (s : ClientSession) : List Bytes := collect answering s.history

/-- **A session answers and goes on**: when the answer has been sent, it is in a status
and waits for the application. -/
def GoesOn (config : Config) (s t : ClientSession) (answer : Bytes) (next : Status) : Prop :=
  t.answers = s.answers ++ [answer] ∧
    ∃ u, step config t (.inWrite answer false) = some u ∧ u.status = next ∧ .inRead ∈ u.pending

/-- **A session answers and ends**: it is destroyed when the answer has been sent. -/
def Ends (config : Config) (s t : ClientSession) (answer : Bytes) : Prop :=
  t.answers = s.answers ++ [answer] ∧
    ∃ u, step config t (.inWrite answer false) = some u ∧ u.status = .destroy

/-- **A session is destroyed without an answer**. -/
def EndsSilently (s t : ClientSession) : Prop :=
  t.answers = s.answers ∧ t.status = .destroy

variable {config : Config} {s t u : ClientSession} {e : Event} {answer data : Bytes}
  {bound : Option UdpEndpoint}

/-! ## What a session answers -/

theorem answers_destroy (s : ClientSession) : s.destroy.answers = s.answers := by
  unfold destroy
  split
  · rfl
  · dsimp only
    split
    · exact (List.append_nil _).trans ((List.append_nil _).trans (List.append_nil _))
    · exact List.append_nil _

/-- The session is destroyed. -/
theorem endsSilently_destroy (hu : u.answers = s.answers) : EndsSilently s u.destroy :=
  ⟨(answers_destroy u).trans hu, status_destroy u⟩

/-- The answer's completion is what comes next. -/
theorem step_answered (ht : t.history = .began (.inWrite answer) :: .modified .inWriteData
      :: u.history) :
    step config t (.inWrite answer false)
      = some ((t.receives (.inWrite answer false)).inSent) := by
  refine if_pos ?_
  have hmem : Operation.inWrite answer ∈ t.pending := by
    unfold pending
    rw [ht]
    exact List.mem_cons_self
  exact (Bool.and_eq_true _ _).mpr ⟨decide_eq_true hmem, rfl⟩

/-- A session that has begun a write has answered. -/
theorem answers_began (ht : t.history = .began (.inWrite answer) :: .modified .inWriteData
      :: u.history) (hu : u.answers = s.answers) : t.answers = s.answers ++ [answer] := by
  unfold answers
  rw [ht, collect_cons, collect_cons]
  exact congrArg (· ++ [answer]) ((List.append_nil _).trans hu)

/-- The session answers in `HANDSHAKE`. -/
theorem goesOn_handshake (ht : t.history = .began (.inWrite answer) :: .modified .inWriteData
      :: u.history) (hu : u.answers = s.answers) (hstatus : t.status = .handshake) :
    GoesOn config s t answer .request := by
  refine ⟨answers_began ht hu, _, step_answered ht, ?_⟩
  have hreceives : (t.receives (.inWrite answer false)).status = .handshake := hstatus
  unfold inSent
  rw [hreceives]
  exact ⟨rfl, List.mem_cons_self⟩

/-- The session answers in `REQUEST`. -/
theorem goesOn_request (ht : t.history = .began (.inWrite answer) :: .modified .inWriteData
      :: u.history) (hu : u.answers = s.answers) (hstatus : t.status = .request) :
    GoesOn config s t answer .connect := by
  refine ⟨answers_began ht hu, _, step_answered ht, ?_⟩
  have hreceives : (t.receives (.inWrite answer false)).status = .request := hstatus
  unfold inSent
  rw [hreceives]
  dsimp only
  -- an association also waits for datagrams, but both read on
  split
  · exact ⟨rfl, List.mem_cons_of_mem _ (List.mem_cons_of_mem _ List.mem_cons_self)⟩
  · exact ⟨rfl, List.mem_cons_of_mem _ List.mem_cons_self⟩

/-- The session answers and is `INVALID`. -/
theorem ends_invalid (ht : t.history = .began (.inWrite answer) :: .modified .inWriteData
      :: u.history) (hu : u.answers = s.answers) (hstatus : t.status = .invalid) :
    Ends config s t answer := by
  refine ⟨answers_began ht hu, _, step_answered ht, ?_⟩
  have hreceives : (t.receives (.inWrite answer false)).status = .invalid := hstatus
  unfold inSent
  rw [hreceives]
  exact status_destroy _

/-- Two answers are one only if they are the same. -/
theorem answer_unique {other : Bytes} (h : t.answers = s.answers ++ [answer])
    (h' : t.answers = s.answers ++ [other]) : answer = other :=
  List.singleton_inj.mp (List.append_cancel_left (h.symm.trans h'))

/-- No answer is not an answer. -/
theorem answers_ne (h : t.answers = s.answers) : t.answers ≠ s.answers ++ [answer] := by
  intro h'
  have hlength := congrArg List.length (h.symm.trans h')
  rw [List.length_append, List.length_singleton] at hlength
  omega

/-! ## What the application sends -/

/-- The session as the read leaves it. -/
def filled (s : ClientSession) (data : Bytes) (bound : Option UdpEndpoint) : ClientSession :=
  { s.receives (.inRead (.success data) bound) with inReadBuf := fillBuffer s.inReadBuf data }

/-- The session as `in_recv` looks at what was read. -/
def received (s : ClientSession) (data : Bytes) (bound : Option UdpEndpoint) : ClientSession :=
  { s.receives (.inRead (.success data) bound) with
      inReadBuf := growAfterRead (fillBuffer s.inReadBuf data) data.length
      history := .modified .inReadBuf :: (s.receives (.inRead (.success data) bound)).history }

theorem answers_received (s : ClientSession) (data : Bytes) (bound : Option UdpEndpoint) :
    (s.received data bound).answers = s.answers :=
  (List.append_nil _).trans ((List.append_nil _).trans (List.append_nil _))

theorem inRecv_handshake (hstatus : s.status = .handshake) (length : ℕ) :
    inRecv config s length bound
      = ({ s with
            inReadBuf := growAfterRead s.inReadBuf length
            history := .modified .inReadBuf :: s.history }).recvGreeting
          ((growAfterRead s.inReadBuf length).take length) := by
  cases s
  cases hstatus
  rfl

theorem inRecv_request (hstatus : s.status = .request) (length : ℕ) :
    inRecv config s length bound
      = recvRequest config { s with
            inReadBuf := growAfterRead s.inReadBuf length
            history := .modified .inReadBuf :: s.history }
          ((growAfterRead s.inReadBuf length).take length) bound := by
  cases s
  cases hstatus
  rfl

/-- A read is a step of `in_recv`. -/
theorem step_inRead (h : step config s (.inRead (.success data) bound) = some t) :
    t = inRecv config (s.filled data bound) data.length bound := by
  unfold step at h
  split at h
  · exact (Option.some.inj h).symm
  · cases h

/-- A read that is in flight may bring anything that its buffer has room for. -/
theorem exists_step_inRead (hmem : .inRead ∈ s.pending)
    (hroom : data.length ≤ s.inReadBuf.length) :
    ∃ t, step config s (.inRead (.success data) bound) = some t :=
  ⟨_, if_pos ((Bool.and_eq_true _ _).mpr ⟨decide_eq_true hmem, decide_eq_true hroom⟩)⟩

theorem step_handshake (hstatus : s.status = .handshake)
    (h : step config s (.inRead (.success data) bound) = some t) :
    t = (s.received data bound).recvGreeting data :=
  calc t = _ := step_inRead h
    _ = _ := inRecv_handshake (s := s.filled data bound) hstatus data.length
    _ = _ := congrArg (s.received data bound).recvGreeting (take_growAfterRead s.inReadBuf data)

theorem step_request (hstatus : s.status = .request)
    (h : step config s (.inRead (.success data) bound) = some t) :
    t = recvRequest config (s.received data bound) data bound :=
  calc t = _ := step_inRead h
    _ = _ := inRecv_request (s := s.filled data bound) hstatus data.length
    _ = _ := congrArg (recvRequest config (s.received data bound) · bound)
      (take_growAfterRead s.inReadBuf data)

/-! ## The greeting -/

/-- **A greeting**: version 5, the number of methods, the methods. -/
def IsGreeting (n : UInt8) (methods data : Bytes) : Prop :=
  data = 5 :: n :: methods ∧ methods.length = n.toNat

/-- A greeting has one reading. -/
theorem IsGreeting.unique {n n' : UInt8} {methods methods' : Bytes}
    (h : IsGreeting n methods data) (h' : IsGreeting n' methods' data) :
    n = n' ∧ methods = methods' := by
  obtain ⟨hn, hmethods⟩ := List.cons.inj (List.cons.inj (h.1.symm.trans h'.1)).2
  exact ⟨hn, hmethods⟩

/-- What the check of `in_recv` lets through is a greeting. -/
theorem exists_isGreeting_iff :
    (∃ n methods, IsGreeting n methods data) ↔ ¬ (data.length < 2 ∨ data.getD 0 0 ≠ 5
      ∨ data.length ≠ (data.getD 1 0).toNat + 2) := by
  constructor
  · rintro ⟨n, methods, rfl, hlength⟩
    simp [hlength]
  · intro h
    obtain ⟨hlong, hversion, hlength⟩ := not_or.mp h |>.imp_right not_or.mp
    match data with
    | [] => exact absurd Nat.zero_lt_two hlong
    | [_] => exact absurd Nat.one_lt_two hlong
    | version :: n :: methods =>
      obtain rfl : version = 5 := not_not.mp hversion
      have htwo : methods.length + 2 = n.toNat + 2 := not_not.mp hlength
      exact ⟨n, methods, rfl, Nat.add_right_cancel htwo⟩

/-- The methods that the loop looks at: all of them, if its bound is not negative. -/
theorem take_signedChar {n : UInt8} {methods : Bytes} (h : methods.length = n.toNat) :
    methods.take (signedChar n).toNat = if n < 128 then methods else [] := by
  unfold signedChar
  split
  · rw [Int.toNat_natCast, ← h, List.take_length]
  · -- the bound is negative, and the loop ends before it begins
    have hn := n.toNat_lt
    rw [Int.toNat_of_nonpos (by omega), List.take_zero]

/-- **What the loop finds**: the method, if there are less than 128. -/
theorem hasMethod_iff {n : UInt8} {methods : Bytes} (h : IsGreeting n methods data) :
    hasMethod data = true ↔ n < 128 ∧ 0 ∈ methods := by
  obtain ⟨rfl, hlength⟩ := h
  show (methods.take (signedChar n).toNat).any (· == 0) = true ↔ _
  rw [take_signedChar hlength]
  split
  · rename_i hn
    simp [hn]
  · rename_i hn
    simp [hn]

/-- **What a session does with a greeting.** -/
theorem handshake_cases (hstatus : s.status = .handshake)
    (h : step config s (.inRead (.success data) bound) = some t) :
    (EndsSilently s t ∧ ∀ n methods, ¬ IsGreeting n methods data)
      ∨ ∃ n methods, IsGreeting n methods data
        ∧ (GoesOn config s t [5, 0] .request ∧ n < 128 ∧ 0 ∈ methods
          ∨ Ends config s t [5, 255] ∧ ¬ (n < 128 ∧ 0 ∈ methods)) := by
  obtain rfl := step_handshake hstatus h
  unfold recvGreeting
  split
  · rename_i hmalformed
    refine .inl ⟨endsSilently_destroy (answers_received s data bound),
      fun n methods hgreeting => ?_⟩
    exact exists_isGreeting_iff.mp ⟨n, methods, hgreeting⟩ hmalformed
  · rename_i hwell
    obtain ⟨n, methods, hgreeting⟩ := exists_isGreeting_iff.mpr hwell
    refine .inr ⟨n, methods, hgreeting, ?_⟩
    split
    · rename_i hmethod
      exact .inl ⟨goesOn_handshake rfl (answers_received s data bound) hstatus,
        (hasMethod_iff hgreeting).mp hmethod⟩
    · rename_i hmethod
      exact .inr ⟨ends_invalid rfl (answers_received s data bound) rfl,
        fun hzero => hmethod ((hasMethod_iff hgreeting).mpr hzero)⟩

/-- **A greeting is answered** as SOCKS5 has it: the session goes on exactly if no
authentication is among the methods, ends exactly if it is not, and is destroyed by
anything that is no greeting. -/
structure AnswersGreeting (config : Config) (s t : ClientSession) (data : Bytes) : Prop where
  goesOn : GoesOn config s t [5, 0] .request
    ↔ ∃ n methods, IsGreeting n methods data ∧ 0 ∈ methods
  ends : Ends config s t [5, 255] ↔ ∃ n methods, IsGreeting n methods data ∧ 0 ∉ methods
  silent : (∀ n methods, ¬ IsGreeting n methods data) → EndsSilently s t

/-- **When a greeting is answered as SOCKS5 has it**: exactly if it does not have the method
among 128 methods or more. -/
theorem answersGreeting_iff (hstatus : s.status = .handshake)
    (h : step config s (.inRead (.success data) bound) = some t) :
    AnswersGreeting config s t data
      ↔ ∀ n methods, IsGreeting n methods data → 0 ∈ methods → n < 128 := by
  rcases handshake_cases hstatus h with ⟨hsilent, hnone⟩ | ⟨n, methods, hgreeting, hcase⟩
  · refine ⟨fun _ n methods hgreeting => absurd hgreeting (hnone n methods), fun _ => ?_⟩
    exact ⟨⟨fun hgoes => absurd hgoes.1 (answers_ne hsilent.1),
        fun ⟨n, methods, hgreeting, _⟩ => absurd hgreeting (hnone n methods)⟩,
      ⟨fun hends => absurd hends.1 (answers_ne hsilent.1),
        fun ⟨n, methods, hgreeting, _⟩ => absurd hgreeting (hnone n methods)⟩,
      fun _ => hsilent⟩
  constructor
  · -- a session that ends has answered, and its answer is not that of one that goes on
    intro hanswers n' methods' hgreeting' hzero
    obtain ⟨rfl, rfl⟩ := hgreeting.unique hgreeting'
    rcases hcase with ⟨-, hn, -⟩ | ⟨hends, -⟩
    · exact hn
    · have hgoes := hanswers.goesOn.mpr ⟨n, methods, hgreeting, hzero⟩
      exact absurd (answer_unique hgoes.1 hends.1) (by decide)
  · intro hsmall
    have hsome : ¬ ∀ n methods, ¬ IsGreeting n methods data :=
      fun hnone => hnone n methods hgreeting
    rcases hcase with ⟨hgoes, -, hzero⟩ | ⟨hends, hnot⟩
    · refine ⟨⟨fun _ => ⟨n, methods, hgreeting, hzero⟩, fun _ => hgoes⟩, ⟨fun hends => ?_, ?_⟩,
        fun hnone => absurd hnone hsome⟩
      · exact absurd (answer_unique hgoes.1 hends.1) (by decide)
      · rintro ⟨n', methods', hgreeting', hnone⟩
        obtain ⟨rfl, rfl⟩ := hgreeting.unique hgreeting'
        exact absurd hzero hnone
    · have hnozero : 0 ∉ methods := fun hzero => hnot ⟨hsmall n methods hgreeting hzero, hzero⟩
      refine ⟨⟨fun hgoes => ?_, ?_⟩, ⟨fun _ => ⟨n, methods, hgreeting, hnozero⟩, fun _ => hends⟩,
        fun hnone => absurd hnone hsome⟩
      · exact absurd (answer_unique hgoes.1 hends.1) (by decide)
      · rintro ⟨n', methods', hgreeting', hzero⟩
        obtain ⟨rfl, rfl⟩ := hgreeting.unique hgreeting'
        exact absurd hzero hnozero

/-- A session that has been started. -/
def started : ClientSession := (create.receives (.start (some {}))).start (some {})

theorem step_started : step config create (.start (some {})) = some started := rfl

/-- The application may send anything of a moderate length. -/
theorem exists_step_started (hroom : data.length ≤ defaultBufferSize) :
    ∃ t, step config started (.inRead (.success data) bound) = some t := by
  refine exists_step_inRead List.mem_cons_self ?_
  show data.length ≤ (List.replicate defaultBufferSize (0 : UInt8)).length
  rw [List.length_replicate]
  exact hroom

/-- A greeting with two methods, the second of which is no authentication. -/
theorem answersGreeting_two :
    ∃ t, step {} started (.inRead (.success [5, 2, 2, 0]) none) = some t
      ∧ AnswersGreeting {} started t [5, 2, 2, 0] := by
  obtain ⟨t, ht⟩ := @exists_step_started {} [5, 2, 2, 0] none (by decide)
  refine ⟨t, ht, (answersGreeting_iff rfl ht).mpr (fun n methods hgreeting _ => ?_)⟩
  have htwo : IsGreeting 2 [2, 0] [5, 2, 2, 0] := ⟨rfl, rfl⟩
  rw [(hgreeting.unique htwo).1]
  decide

/-- **A greeting with 128 methods**, all of them no authentication, is told that none of
them will do. -/
theorem not_answersGreeting_128 :
    IsGreeting 128 (List.replicate 128 0) (5 :: 128 :: List.replicate 128 0) ∧
    step {} create (.start (some {})) = some started ∧
    ∃ t, step {} started (.inRead (.success (5 :: 128 :: List.replicate 128 0)) none) = some t
      ∧ Ends {} started t [5, 255]
      ∧ ¬ AnswersGreeting {} started t (5 :: 128 :: List.replicate 128 0) := by
  have hgreeting : IsGreeting 128 (List.replicate 128 0) (5 :: 128 :: List.replicate 128 0) :=
    ⟨rfl, rfl⟩
  obtain ⟨t, ht⟩ := @exists_step_started {} (5 :: 128 :: List.replicate 128 0) none
    (by simp [defaultBufferSize])
  refine ⟨hgreeting, step_started, t, ht, ?_⟩
  rcases handshake_cases rfl ht with ⟨-, hnone⟩ | ⟨n, methods, hgreeting', ⟨-, hn, -⟩ | ⟨hends, -⟩⟩
  · exact absurd hgreeting (hnone _ _)
  · rw [(hgreeting'.unique hgreeting).1] at hn
    exact absurd hn (by decide)
  · refine ⟨hends, fun hanswers => ?_⟩
    have hgoes := hanswers.goesOn.mpr ⟨128, _, hgreeting, List.mem_cons_self⟩
    exact absurd (answer_unique hgoes.1 hends.1) (by decide)

/-! ## The request -/

/-- **A SOCKS5 request**: version 5, the command, a zero, a complete address. -/
def socksRequest (command : TrojanRequest.Command) (host : Host) (port : UInt16) : Bytes :=
  5 :: command.byte :: 0 :: host.wire port

/-- The socket that a command needs, if it needs one, can be opened. -/
def Opens (command : TrojanRequest.Command) (bound : Option UdpEndpoint) : Prop :=
  command = .udpAssociate → bound ≠ none

/-- **What may stand behind a request**, as far as `in_recv` is concerned: nothing, or a
`CRLF` and anything. -/
def IsTail (tail : Bytes) : Prop := tail = [] ∨ ∃ rest, tail = crlf ++ rest

/-- **A request is accepted**: the session answers that it succeeded, and goes on. -/
def Accepts (config : Config) (s t : ClientSession) : Prop :=
  ∃ address, GoesOn config s t ([5, 0, 0] ++ address) .connect

/-- A list in front of a `CRLF`, cut at another one: they are the same, or the other lies
before it. They do not overlap. -/
theorem append_crlf_cases {front wire payload : Bytes}
    (h : front ++ crlf = wire ++ (crlf ++ payload)) :
    (payload = [] ∧ front = wire)
      ∨ ∃ rest, front = wire ++ (crlf ++ rest) ∧ payload = rest ++ crlf := by
  rcases List.append_eq_append_iff.mp h with ⟨middle, rfl, hmiddle⟩ | ⟨middle, rfl, hmiddle⟩
  · -- the cut would lie behind the end
    have hlength := congrArg List.length hmiddle
    simp only [List.length_append, crlf, List.length_cons, List.length_nil] at hlength
    obtain rfl := List.eq_nil_of_length_eq_zero (by omega : middle.length = 0)
    obtain rfl := List.eq_nil_of_length_eq_zero (by omega : payload.length = 0)
    exact .inl ⟨rfl, (List.append_nil front).symm⟩
  · -- one byte of overlap would have to be a newline and a carriage return
    rcases middle with _ | ⟨cr, _ | ⟨lf, rest⟩⟩
    · exact .inl ⟨List.append_cancel_left (hmiddle.trans (List.append_nil crlf).symm),
        List.append_nil wire⟩
    · exact absurd (List.cons.inj (List.cons.inj hmiddle).2).1 (by decide)
    · obtain ⟨rfl, hlf⟩ := List.cons.inj hmiddle
      obtain ⟨rfl, hrest⟩ := List.cons.inj hlf
      exact .inr ⟨rest, rfl, hrest⟩

/-- The wire form of an address is never shorter than five bytes. -/
theorem four_lt_length_wire (host : Host) (port : UInt16) : 4 < (host.wire port).length := by
  rw [Host.length_wire]
  cases host with
  | v4 bytes =>
    show 4 < (1 :: bytes.toList).length + 2
    rw [List.length_cons, Vector.length_toList]
    omega
  | v6 bytes =>
    show 4 < (4 :: bytes.toList).length + 2
    rw [List.length_cons, Vector.length_toList]
    omega
  | domain name pos _ =>
    show 4 < (3 :: UInt8.ofNat name.length :: name).length + 2
    rw [List.length_cons, List.length_cons]
    omega

/-- What is sent for a request with something behind it. -/
theorem requestBuffer_append (config : Config) (command : TrojanRequest.Command) (host : Host)
    (port : UInt16) (tail : Bytes) :
    requestBuffer config (socksRequest command host port ++ tail)
      = config.firstPassword
        ++ (crlf ++ (command.byte :: (host.wire port ++ (tail ++ crlf)))) := by
  show config.firstPassword ++ crlf ++ [command.byte] ++ (host.wire port ++ tail) ++ crlf = _
  simp only [List.append_assoc, List.cons_append, List.nil_append]

/-- **A request with nothing behind it is sent as a header**, and of a `CRLF` and the rest
the header takes the `CRLF`. -/
theorem exists_payload (config : Config) (command : TrojanRequest.Command) (host : Host)
    (port : UInt16) {tail : Bytes} (htail : IsTail tail) :
    ∃ payload, requestBuffer config (socksRequest command host port ++ tail)
        = TrojanRequest.header config.firstPassword command host port ++ payload
      ∧ tail ++ crlf = crlf ++ payload := by
  rcases htail with rfl | ⟨rest, rfl⟩
  · refine ⟨[], ?_, rfl⟩
    rw [requestBuffer_append]
    simp only [TrojanRequest.header, List.append_assoc, List.cons_append, List.nil_append,
      List.append_nil]
  · refine ⟨rest ++ crlf, ?_, List.append_assoc _ _ _⟩
    rw [requestBuffer_append]
    simp only [TrojanRequest.header, List.append_assoc, List.cons_append, List.nil_append]

/-- The check for a "bad request". -/
theorem not_bad_of_socksRequest (command : TrojanRequest.Command) (host : Host) (port : UInt16)
    (tail : Bytes) :
    ¬ ((socksRequest command host port ++ tail).length < 7
      ∨ (socksRequest command host port ++ tail).getD 0 0 ≠ 5
      ∨ (socksRequest command host port ++ tail).getD 2 0 ≠ 0) := by
  rintro (hshort | hversion | hreserved)
  · have hwire := four_lt_length_wire host port
    simp only [socksRequest, List.cons_append, List.length_cons, List.length_append] at hshort
    omega
  · exact hversion rfl
  · exact hreserved rfl

/-- What passes the check starts with a version, a byte and a zero. -/
theorem exists_cons_of_not_bad
    (h : ¬ (data.length < 7 ∨ data.getD 0 0 ≠ 5 ∨ data.getD 2 0 ≠ 0)) :
    ∃ b rest, data = 5 :: b :: 0 :: rest := by
  obtain ⟨hlong, hversion, hreserved⟩ := not_or.mp h |>.imp_right not_or.mp
  match data with
  | [] => exact absurd (by decide) hlong
  | [_] => exact absurd (by simp) hlong
  | [_, _] => exact absurd (by simp) hlong
  | version :: b :: reserved :: rest =>
    obtain rfl : version = 5 := not_not.mp hversion
    obtain rfl : reserved = 0 := not_not.mp hreserved
    exact ⟨b, rest, rfl⟩

/-- A string without `CRLF` in front of the first `CRLF` is determined. -/
theorem crlfFree_append_inj {password password' rest rest' : Bytes} (h : CrlfFree password)
    (h' : CrlfFree password') (heq : password ++ (crlf ++ rest) = password' ++ (crlf ++ rest')) :
    password = password' ∧ rest = rest' := by
  have hlength : password.length = password'.length := by
    refine Option.some.inj ?_
    rw [← findCrlf_append h rest, heq, findCrlf_append h' rest']
  obtain ⟨hpassword, hrest⟩ := List.append_inj heq hlength
  exact ⟨hpassword, List.append_cancel_left hrest⟩

/-- **What the parser accepts** is a request, with nothing or a `CRLF` behind it. -/
theorem exists_socksRequest_of_parse (hfree : CrlfFree config.firstPassword)
    (hwell : ¬ (data.length < 7 ∨ data.getD 0 0 ≠ 5 ∨ data.getD 2 0 ≠ 0))
    {request : TrojanRequest} {n : ℕ}
    (h : ({} : TrojanRequest).parse (requestBuffer config data) = (request, some n)) :
    ∃ command host port tail, data = socksRequest command host port ++ tail ∧ IsTail tail
      ∧ request.command = some command := by
  obtain ⟨b, rest, rfl⟩ := exists_cons_of_not_bad hwell
  obtain ⟨command, host, port, hdata, hcommand, -⟩ := TrojanRequest.eq_header_append_of_parse h
  have hbuffer : config.firstPassword ++ (crlf ++ (b :: (rest ++ crlf)))
      = request.password
        ++ (crlf ++ (command.byte :: (host.wire port ++ (crlf ++ request.payload)))) := by
    calc config.firstPassword ++ (crlf ++ (b :: (rest ++ crlf)))
        = config.firstPassword ++ crlf ++ [b] ++ rest ++ crlf := by
          simp only [List.append_assoc, List.cons_append, List.nil_append]
      _ = TrojanRequest.header request.password command host port ++ request.payload := hdata
      _ = _ := by
          simp only [TrojanRequest.header, List.append_assoc, List.cons_append, List.nil_append]
  -- neither password has a `CRLF`, so the first one ends both
  obtain ⟨-, hrest⟩ := crlfFree_append_inj hfree
    (TrojanRequest.crlfFree_password_of_parse h) hbuffer
  obtain ⟨rfl, hwire⟩ := List.cons.inj hrest
  rcases append_crlf_cases hwire with ⟨-, rfl⟩ | ⟨rest', rfl, -⟩
  · exact ⟨command, host, port, [], (List.append_nil _).symm, .inl rfl, hcommand⟩
  · exact ⟨command, host, port, crlf ++ rest', rfl, .inr ⟨rest', rfl⟩, hcommand⟩

/-- The parser takes a request with a tail for what it is. -/
theorem parse_socksRequest (hfree : CrlfFree config.firstPassword)
    (command : TrojanRequest.Command) (host : Host) (port : UInt16) {tail : Bytes}
    (htail : IsTail tail) :
    ∃ payload, tail ++ crlf = crlf ++ payload ∧ ∀ request : TrojanRequest,
      request.parse (requestBuffer config (socksRequest command host port ++ tail))
        = (⟨config.firstPassword, some command, SOCKS5Address.ofHost host port, payload⟩,
          some (requestBuffer config (socksRequest command host port ++ tail)).length) := by
  obtain ⟨payload, hbuffer, hpayload⟩ := exists_payload config command host port htail
  refine ⟨payload, hpayload, fun request => ?_⟩
  rw [hbuffer]
  exact TrojanRequest.parse_header_append request hfree command host port payload

/-- The second byte of a request says what is asked. -/
theorem command_unique {command command' : TrojanRequest.Command} {host host' : Host}
    {port port' : UInt16} {tail tail' : Bytes}
    (h : socksRequest command host port ++ tail = socksRequest command' host' port' ++ tail') :
    command = command' := by
  have hbyte : command.byte = command'.byte := (List.cons.inj (List.cons.inj h).2).1
  rw [← Option.some.injEq, ← TrojanRequest.Command.ofByte_byte command, hbyte,
    TrojanRequest.Command.ofByte_byte]

/-- Without an answer, nothing is accepted. -/
theorem not_accepts_of_answers (h : t.answers = s.answers) : ¬ Accepts config s t :=
  fun ⟨_, hgoes⟩ => answers_ne h hgoes.1

/-- **What a session does with a request.** -/
theorem request_cases (hfree : CrlfFree config.firstPassword) (hstatus : s.status = .request)
    (h : step config s (.inRead (.success data) bound) = some t) :
    (Accepts config s t ∧ t.outWriteBuf = requestBuffer config data ∧
        ∃ command host port tail, data = socksRequest command host port ++ tail ∧ IsTail tail
          ∧ Opens command bound)
      ∨ (¬ Accepts config s t ∧ ∀ command host port tail,
          data = socksRequest command host port ++ tail → IsTail tail → ¬ Opens command bound) := by
  obtain rfl := step_request hstatus h
  have hanswers := answers_received s data bound
  unfold recvRequest
  split
  · rename_i hbad
    refine .inr ⟨not_accepts_of_answers ((answers_destroy _).trans hanswers), ?_⟩
    rintro command host port tail rfl - -
    exact not_bad_of_socksRequest command host port tail hbad
  rename_i hwell
  dsimp only
  split
  · rename_i hparse
    refine .inr ⟨fun ⟨address, hgoes⟩ => ?_, ?_⟩
    · -- the answer is 05 07
      have hanswer := answer_unique (answers_began rfl hanswers) hgoes.1
      exact absurd (List.cons.inj (List.cons.inj hanswer).2).1 (by decide)
    · rintro command host port tail rfl htail -
      obtain ⟨payload, -, haccepted⟩ := parse_socksRequest hfree command host port htail
      rw [haccepted] at hparse
      exact absurd (Prod.mk.inj hparse).2 nofun
  · rename_i request n hparse
    obtain ⟨command, host, port, tail, rfl, htail, hcommand⟩ :=
      exists_socksRequest_of_parse hfree hwell hparse
    split
    · rename_i hudp
      obtain rfl : command = .udpAssociate :=
        Option.some.inj (hcommand.symm.trans (of_decide_eq_true hudp))
      split
      · -- the socket cannot be opened
        refine .inr ⟨not_accepts_of_answers ((answers_destroy _).trans hanswers), ?_⟩
        intro command' host' port' tail' heq _ hopens
        exact hopens (command_unique heq).symm rfl
      · refine .inl ⟨⟨_, goesOn_request rfl ?_ hstatus⟩, rfl, _, host, port, tail, rfl, htail,
          fun _ => nofun⟩
        exact (List.append_nil _).trans hanswers
    · rename_i htcp
      refine .inl ⟨⟨_, goesOn_request rfl hanswers hstatus⟩, rfl, command, host, port, tail, rfl,
        htail, ?_⟩
      rintro rfl
      exact absurd (decide_eq_true hcommand) htcp

/-- An address tells where it ends. -/
theorem wire_append_unique {host host' : Host} {port port' : UInt16} {rest rest' : Bytes}
    (h : host.wire port ++ rest = host'.wire port' ++ rest') : rest = rest' := by
  have hparse := congrArg (fun data => (({} : SOCKS5Address).parse data).2) h
  beta_reduce at hparse
  rw [SOCKS5Address.parse_wire, SOCKS5Address.parse_wire] at hparse
  exact (List.append_inj h (Option.some.inj hparse)).2

/-- The first password of a configuration that was loaded has no `CRLF`. -/
theorem crlfFree_firstPassword {digest : Bytes → Bytes} {tree : Ptree}
    (hload : Config.populate digest tree = some config) : CrlfFree config.firstPassword := by
  intro hwithin
  have hmem : (13 : UInt8) ∈ config.firstPassword := hwithin.subset List.mem_cons_self
  unfold Config.firstPassword at hmem
  cases hpassword : config.password with
  | nil =>
    rw [hpassword] at hmem
    exact List.not_mem_nil hmem
  | cons entry rest =>
    rw [hpassword] at hmem
    have hentry : entry ∈ config.password := hpassword ▸ List.mem_cons_self
    exact Config.ne_cr_of_mem_password hload hentry hmem rfl

/-- **A request is answered** as SOCKS5 has it: it is accepted exactly if it is a request
and nothing more, and the socket that it asks for, if it does, can be opened; and the
server takes what is sent for the same command and address, under the configured
password and with nothing to relay. -/
structure AnswersRequest (config : Config) (s t : ClientSession) (data : Bytes)
    (bound : Option UdpEndpoint) : Prop where
  accepts : Accepts config s t
    ↔ ∃ command host port, data = socksRequest command host port ∧ Opens command bound
  parsed : Accepts config s t → ∃ command host port, data = socksRequest command host port
    ∧ ∀ request : TrojanRequest, request.parse t.outWriteBuf
      = (⟨config.firstPassword, some command, SOCKS5Address.ofHost host port, []⟩,
        some t.outWriteBuf.length)

/-- **When a request is answered as SOCKS5 has it**: exactly if it is not one that would be
accepted without the `CRLF` behind it and the bytes behind that. -/
theorem answersRequest_iff {digest : Bytes → Bytes} {tree : Ptree}
    (hload : Config.populate digest tree = some config) (hstatus : s.status = .request)
    (h : step config s (.inRead (.success data) bound) = some t) :
    AnswersRequest config s t data bound
      ↔ ¬ ∃ command host port rest, data = socksRequest command host port ++ (crlf ++ rest)
        ∧ Opens command bound := by
  have hfree := crlfFree_firstPassword hload
  rcases request_cases hfree hstatus h with ⟨haccepts, hbuffer, hrequest⟩ | ⟨hnot, hnone⟩
  · obtain ⟨command, host, port, tail, rfl, htail, hopens⟩ := hrequest
    constructor
    · -- an address tells where it ends, so no second request begins like this one
      rintro hanswers ⟨command', host', port', rest, hdata, -⟩
      obtain ⟨command'', host'', port'', hexact, -⟩ := hanswers.accepts.mp haccepts
      rw [hdata] at hexact
      have hwire : host'.wire port' ++ (crlf ++ rest) = host''.wire port'' ++ [] := by
        rw [List.append_nil]
        exact (List.cons.inj (List.cons.inj (List.cons.inj hexact).2).2).2
      exact absurd (wire_append_unique hwire) nofun
    · intro hclean
      have hexact : tail = [] := htail.resolve_right
        fun ⟨rest, hrest⟩ => hclean ⟨command, host, port, rest, by rw [hrest], hopens⟩
      subst hexact
      obtain ⟨payload, hpayload, hparse⟩ := parse_socksRequest hfree command host port htail
      obtain rfl : payload = [] :=
        (List.append_cancel_left ((List.append_nil crlf).trans hpayload)).symm
      refine ⟨⟨fun _ => ⟨command, host, port, List.append_nil _, hopens⟩, fun _ => haccepts⟩,
        fun _ => ⟨command, host, port, List.append_nil _, fun request => ?_⟩⟩
      rw [hbuffer]
      exact hparse request
  · refine ⟨?_, fun _ => ⟨⟨fun haccepts => absurd haccepts hnot, ?_⟩,
      fun haccepts => absurd haccepts hnot⟩⟩
    · rintro - ⟨command, host, port, rest, hdata, hopens⟩
      exact hnone command host port (crlf ++ rest) hdata (.inr ⟨rest, rfl⟩) hopens
    · rintro ⟨command, host, port, hdata, hopens⟩
      exact absurd hopens (hnone command host port [] (hdata.trans (List.append_nil _).symm)
        (.inl rfl))

/-- A configuration with a password. -/
def passwordTree : Ptree :=
  .node [] [(ascii "password", .node [] [([], .node (ascii "secret") [])])]

/-- The configuration of a client, with a digest that leaves strings as they are. -/
def passwordConfig : Config where
  runType := .client
  password := [(Config.sha224 id (ascii "secret"), ascii "secret")]

theorem populate_passwordTree : Config.populate id passwordTree = some passwordConfig := rfl

theorem inReadBuf_inSent (s : ClientSession) : s.inSent.inReadBuf = s.inReadBuf := by
  have hdestroy : s.destroy.inReadBuf = s.inReadBuf := by
    unfold destroy
    split
    · rfl
    · dsimp only
      split <;> rfl
  unfold inSent
  split
  · rfl
  · dsimp only
    split <;> rfl
  · rfl
  · exact hdestroy
  · rfl

/-- A session that has been greeted waits for a request. -/
theorem exists_greeted (config : Config) (hstatus : s.status = .handshake)
    (hmem : .inRead ∈ s.pending) (hroom : 3 ≤ s.inReadBuf.length) :
    ∃ t u, step config s (.inRead (.success [5, 1, 0]) none) = some t
      ∧ step config t (.inWrite [5, 0] false) = some u ∧ u.status = .request
      ∧ .inRead ∈ u.pending ∧ s.inReadBuf.length ≤ u.inReadBuf.length := by
  obtain ⟨t, ht⟩ := @exists_step_inRead config s [5, 1, 0] none hmem hroom
  have hgreeted := step_handshake hstatus ht
  have hhistory : t.history = .began (.inWrite [5, 0]) :: .modified .inWriteData
      :: (s.received [5, 1, 0] none).history := by
    rw [hgreeted]
    rfl
  have hbuf : t.inReadBuf = growAfterRead (fillBuffer s.inReadBuf [5, 1, 0]) 3 := by
    rw [hgreeted]
    rfl
  have hthandshake : t.status = .handshake := by
    rw [hgreeted]
    exact hstatus
  obtain ⟨-, u, hu, hurequest, humem⟩ : GoesOn config s t [5, 0] .request :=
    goesOn_handshake hhistory (answers_received s _ none) hthandshake
  refine ⟨t, u, ht, hu, hurequest, humem, ?_⟩
  obtain rfl := Option.some.inj ((step_answered hhistory).symm.trans hu)
  rw [inReadBuf_inSent]
  show s.inReadBuf.length ≤ t.inReadBuf.length
  rw [hbuf]
  calc s.inReadBuf.length = (fillBuffer s.inReadBuf [5, 1, 0]).length :=
        (@length_fillBuffer s.inReadBuf [5, 1, 0] hroom).symm
    _ ≤ (growAfterRead (fillBuffer s.inReadBuf [5, 1, 0]) 3).length := length_le_growAfterRead _ _

/-- A session that has been started and greeted. -/
theorem exists_asked (config : Config) :
    ∃ t u, step config started (.inRead (.success [5, 1, 0]) none) = some t
      ∧ step config t (.inWrite [5, 0] false) = some u ∧ u.status = .request
      ∧ .inRead ∈ u.pending ∧ defaultBufferSize ≤ u.inReadBuf.length := by
  have hbuf : started.inReadBuf.length = defaultBufferSize := by
    show (List.replicate defaultBufferSize (0 : UInt8)).length = defaultBufferSize
    exact List.length_replicate
  rw [← hbuf]
  refine exists_greeted config rfl List.mem_cons_self ?_
  rw [hbuf]
  decide

/-- A `CONNECT` to an address, which is five bytes long and more. -/
theorem answersRequest_connect :
    ∃ t u v, step passwordConfig started (.inRead (.success [5, 1, 0]) none) = some t
      ∧ step passwordConfig t (.inWrite [5, 0] false) = some u
      ∧ step passwordConfig u (.inRead (.success [5, 1, 0, 1, 127, 0, 0, 1, 0, 80]) none) = some v
      ∧ AnswersRequest passwordConfig u v [5, 1, 0, 1, 127, 0, 0, 1, 0, 80] none := by
  obtain ⟨t, u, ht, hu, hstatus, hmem, hroom⟩ := exists_asked passwordConfig
  obtain ⟨v, hv⟩ := @exists_step_inRead passwordConfig u [5, 1, 0, 1, 127, 0, 0, 1, 0, 80] none
    hmem (le_trans (by decide) hroom)
  refine ⟨t, u, v, ht, hu, hv, (answersRequest_iff populate_passwordTree hstatus hv).mpr ?_⟩
  rintro ⟨command, host, port, rest, hdata, -⟩
  have hrequest : [5, 1, 0, 1, 127, 0, 0, 1, 0, 80]
      = socksRequest .connect (.v4 #v[127, 0, 0, 1]) 80 := rfl
  have hwire : (Host.v4 #v[127, 0, 0, 1]).wire 80 ++ [] = host.wire port ++ (crlf ++ rest) := by
    rw [List.append_nil]
    exact (List.cons.inj (List.cons.inj (List.cons.inj (hrequest.symm.trans hdata)).2).2).2
  exact absurd (wire_append_unique hwire) nofun

/-- **A `CONNECT` with a `CRLF` and a letter behind it** is accepted, and the letter goes to
the server in front of what the application will have relayed. -/
theorem not_answersRequest_trailing :
    ∃ t u v, step passwordConfig started (.inRead (.success [5, 1, 0]) none) = some t
      ∧ step passwordConfig t (.inWrite [5, 0] false) = some u
      ∧ step passwordConfig u
          (.inRead (.success [5, 1, 0, 1, 127, 0, 0, 1, 0, 80, 13, 10, 65]) none) = some v
      ∧ Accepts passwordConfig u v
      ∧ (({} : TrojanRequest).parse v.outWriteBuf).1.payload = [65, 13, 10]
      ∧ ¬ AnswersRequest passwordConfig u v [5, 1, 0, 1, 127, 0, 0, 1, 0, 80, 13, 10, 65] none := by
  obtain ⟨t, u, ht, hu, hstatus, hmem, hroom⟩ := exists_asked passwordConfig
  obtain ⟨v, hv⟩ := @exists_step_inRead passwordConfig u
    [5, 1, 0, 1, 127, 0, 0, 1, 0, 80, 13, 10, 65] none hmem (le_trans (by decide) hroom)
  refine ⟨t, u, v, ht, hu, hv, ?_⟩
  have hfree := crlfFree_firstPassword populate_passwordTree
  have htail : IsTail [13, 10, 65] := .inr ⟨[65], rfl⟩
  have hdata : [5, 1, 0, 1, 127, 0, 0, 1, 0, 80, 13, 10, 65]
      = socksRequest .connect (.v4 #v[127, 0, 0, 1]) 80 ++ [13, 10, 65] := rfl
  rcases request_cases hfree hstatus hv with ⟨haccepts, hbuffer, -⟩ | ⟨-, hnone⟩
  · obtain ⟨payload, hpayload, hparse⟩ := @parse_socksRequest passwordConfig hfree .connect
      (.v4 #v[127, 0, 0, 1]) 80 _ htail
    obtain rfl : payload = [65, 13, 10] :=
      (List.append_cancel_left (show crlf ++ [65, 13, 10] = crlf ++ payload from hpayload)).symm
    have hpayload' : (({} : TrojanRequest).parse v.outWriteBuf).1.payload = [65, 13, 10] := by
      rw [hbuffer, hdata, hparse]
    refine ⟨haccepts, hpayload', fun hanswers => ?_⟩
    obtain ⟨_, _, _, -, hempty⟩ := hanswers.parsed haccepts
    rw [hempty] at hpayload'
    exact absurd hpayload' nofun
  · exact absurd (nofun : Opens .connect none) (hnone _ _ _ _ hdata htail)

end ClientSession
