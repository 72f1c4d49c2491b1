import Trojan.ServerPump

/-!
# What a server session relays, and what it accounts for

A relay forwards each read straight out of the read buffer, which the same
callback may have resized; and it adds to its byte counts in three places,
where a write completes, where a read is handled, and for good in `destroy`,
which reports them to the authenticator.

Everything is read off the history. What was submitted to the target
(`toTarget`) and to the client (`toClient`) is compared with what completed
reads delivered (`fromClient`, `fromTargets`), and the counts with the
completions they should add up (`sentBytes`, `receivedBytes`). The two sides
differ only between a completion and the end of its handler, by what that
completion has brought: `Ledger` keeps the difference as four debts, each
handler pays the debts of its completion, and after every step there is none
left (`Ledger.step`). For a session that relays over TCP this is
`ServerSession.relay_transparent`.
-/

namespace ServerSession

open Flight

/-! ## Readings of the history -/

/-- The bytes submitted to the target. -/
def toTarget : Mark Operation Buffer Note → Bytes
  | .began (.outWrite data _) => data
  | _ => []

/-- The bytes submitted to the client. -/
def toClient : Mark Operation Buffer Note → Bytes
  | .began (.inWrite data) => data
  | _ => []

/-- The bytes of an inbound read of a TCP relay. -/
def fromClient : Mark Operation Buffer Note → Bytes
  | .noted (.handled .forward (.inRead (some data) _)) => data
  | _ => []

/-- The bytes of an outbound read of a TCP relay. -/
def fromTarget : Mark Operation Buffer Note → Bytes
  | .noted (.handled .forward (.outRead (some data))) => data
  | _ => []

/-- What an outbound read, or a datagram, is to bring the client. -/
def fromTargets : Mark Operation Buffer Note → Bytes
  | .noted (.handled .udpForward (.udpReceive (some (data, endpoint)))) =>
    UDPPacket.generate endpoint data
  | m => fromTarget m

/-- The length of a write to the target that has completed. -/
def writtenBytes : Mark Operation Buffer Note → ℕ
  | .noted (.handled _ (.outWrite data _ false)) => data.length
  | _ => 0

/-- What a completed write, or a sent datagram, adds to `sent_len`. -/
def sentBytes : Mark Operation Buffer Note → ℕ
  | .noted (.handled _ (.outWrite data true false)) => data.length
  | .noted (.handled _ (.udpSend _ _ accountedLength false)) => accountedLength
  | _ => 0

/-- What a read, a datagram, or an answer in plain HTTP adds to `recv_len`. -/
def receivedBytes (env : Env) : Mark Operation Buffer Note → ℕ
  | .noted (.handled .udpForward (.udpReceive (some (data, _)))) => data.length
  | .began .plainHttpWrite => env.plainHttpResponse.length
  | m => (fromTarget m).length

/-- Whether the outbound connection has been there. -/
def established (h : History) : Prop := .noted .tunnelEstablished ∈ h

/-- The marks of a session that is connecting, or has been connected. -/
def isDial : Mark Operation Buffer Note → Bool
  | .began (.tcpResolve _) | .began (.tcpConnect _ _) | .noted .tunnelEstablished => true
  | _ => false

/-- The mark of a usage record. -/
def isUsage : Mark Operation Buffer Note → Bool
  | .noted (.recordedUsage _ _ _) => true
  | _ => false

/-- The mark of a slot given back. -/
def isRelease : Mark Operation Buffer Note → Bool
  | .noted .releasedFallbackSlot | .noted (.releasedConnectionSlot _) => true
  | _ => false

/-- The marks that none of the readings sees. -/
def isSilent : Mark Operation Buffer Note → Bool
  | .ended _ | .modified _ => true
  | .began op =>
    match op with
    | .outWrite _ _ | .inWrite _ | .plainHttpWrite | .tcpResolve _ | .tcpConnect _ _ => false
    | _ => true
  | .noted n =>
    match n with
    | .handled _ _ | .tunnelEstablished | .recordedUsage _ _ _ => false
    | _ => true

/-- What a silent mark is to the readings. -/
theorem readings_of_isSilent (env : Env) {m : Mark Operation Buffer Note}
    (h : isSilent m = true) :
    toTarget m = [] ∧ toClient m = [] ∧ fromClient m = [] ∧ fromTargets m = [] ∧ sentBytes m = 0
      ∧ receivedBytes env m = 0 ∧ isDial m = false ∧ isUsage m = false := by
  match m, h with
  | .ended _, _ => exact ⟨rfl, rfl, rfl, rfl, rfl, rfl, rfl, rfl⟩
  | .modified _, _ => exact ⟨rfl, rfl, rfl, rfl, rfl, rfl, rfl, rfl⟩
  | .began op, h =>
    cases op <;> first
      | exact ⟨rfl, rfl, rfl, rfl, rfl, rfl, rfl, rfl⟩
      | exact absurd h (by simp [isSilent])
  | .noted n, h =>
    cases n <;> first
      | exact ⟨rfl, rfl, rfl, rfl, rfl, rfl, rfl, rfl⟩
      | exact absurd h (by simp [isSilent])

/-- **A password that an authentication set**: the session's first bytes were a
request with that password, and the external authenticator let it in. -/
def Authenticated (env : Env) (h : History) (password : Bytes) : Prop :=
  password ≠ [] ∧ .noted .authSuccess ∈ h ∧ ∃ data, .noted (.handshakePayload data) ∈ h
    ∧ (SessionGate.authenticate env.config env.auth data).authenticated = true
    ∧ (SessionGate.authenticate env.config env.auth data).usedExternalAuthenticator = true
    ∧ (SessionGate.authenticate env.config env.auth data).authRecordPassword = password

/-- **A usage record is right**: it is made in `destroy`, with the counts that
the completions before it add up to, for a password an authentication set. -/
def RecordsUsage (env : Env) : Mark Operation Buffer Note → History → Prop
  | .noted (.recordedUsage password download upload), h =>
    download = total (receivedBytes env) h ∧ upload = total sentBytes h
      ∧ Authenticated env h password
      ∧ ∃ releases before, h = releases ++ .noted .destroyed :: before
        ∧ ∀ m ∈ releases, isRelease m = true
  | _, _ => True

/-- **The books of a session**, with what it still owes: bytes not counted yet
as sent and as received, and bytes not submitted yet to the target and to the
client. -/
structure Ledger (env : Env) (s : ServerSession) (sent received : ℕ) (up down : Bytes) :
    Prop where
  sentLen : total sentBytes s.history = s.sentLen + sent
  recvLen : total (receivedBytes env) s.history = s.recvLen + received
  upward : established s.history →
    s.outWriteBuf ++ collect fromClient s.history = collect toTarget s.history ++ up
  before : ¬ established s.history →
    collect fromClient s.history = [] ∧ collect toTarget s.history = []
  downward : collect fromTargets s.history = collect toClient s.history ++ down
  atHandshake : s.status = .handshake → ¬ established s.history
  atForward : s.status = .forward → established s.history
  /-- What is relayed first is what the gate said. -/
  origin : (∃ m ∈ s.history, isDial m = true) →
    ∃ data context, .noted (.handshakePayload data) ∈ s.history
      ∧ s.outWriteBuf = (buildExecutionPlan (SessionGate.evaluate env.config env.auth
        ⟨context, data⟩)).initialOutboundPayload
  password : s.authPassword ≠ [] → Authenticated env s.history s.authPassword
  usage : Throughout (RecordsUsage env) s.history
  unrecorded : s.status ≠ .destroy → s.history.countP isUsage = 0
  once : s.history.countP isUsage ≤ 1

/-- What has been authenticated stays so. -/
theorem Authenticated.mono {env : Env} {h : History} {password : Bytes}
    (ha : Authenticated env h password) (new : History) :
    Authenticated env (new ++ h) password := by
  obtain ⟨hne, hsuccess, data, hdata, hauth⟩ := ha
  exact ⟨hne, List.mem_append_right _ hsuccess, data, List.mem_append_right _ hdata, hauth⟩

namespace Ledger

variable {env : Env} {s t : ServerSession} {sent received : ℕ} {up down : Bytes}

/-- **Silent marks do not touch the books**, nor does leaving the handshake or
the TCP relay for good. -/
theorem silent (h : Ledger env s sent received up down) (new : History)
    (ht : t.history = new ++ s.history) (hsilent : ∀ m ∈ new, isSilent m = true)
    (hstatus : t.status = s.status ∨ t.status = .destroy
      ∨ (t.status = .udpForward ∧ s.status ≠ .destroy))
    (hsent : t.sentLen = s.sentLen) (hrecv : t.recvLen = s.recvLen)
    (hbuf : t.outWriteBuf = s.outWriteBuf) (hpass : t.authPassword = s.authPassword) :
    Ledger env t sent received up down := by
  have hread (m) (hm : m ∈ new) := readings_of_isSilent env (hsilent m hm)
  have hcount : (new ++ s.history).countP isUsage = s.history.countP isUsage := by
    rw [List.countP_append, List.countP_eq_zero.mpr, Nat.zero_add]
    intro m hm
    rw [(hread m hm).2.2.2.2.2.2.2]
    simp
  have hest : established (new ++ s.history) ↔ established s.history := by
    refine ⟨fun hmem => ?_, List.mem_append_right _⟩
    rcases List.mem_append.mp hmem with hmem | hmem
    · exact absurd (hsilent _ hmem) (by simp [isSilent])
    · exact hmem
  have htarget : collect toTarget (new ++ s.history) = collect toTarget s.history :=
    collect_append_of_silent (fun m hm => (hread m hm).1)
  have hclient : collect toClient (new ++ s.history) = collect toClient s.history :=
    collect_append_of_silent (fun m hm => (hread m hm).2.1)
  have hfromc : collect fromClient (new ++ s.history) = collect fromClient s.history :=
    collect_append_of_silent (fun m hm => (hread m hm).2.2.1)
  have hfromt : collect fromTargets (new ++ s.history) = collect fromTargets s.history :=
    collect_append_of_silent (fun m hm => (hread m hm).2.2.2.1)
  constructor
  · rw [ht, hsent, total_append_of_silent (fun m hm => (hread m hm).2.2.2.2.1)]
    exact h.sentLen
  · rw [ht, hrecv, total_append_of_silent (fun m hm => (hread m hm).2.2.2.2.2.1)]
    exact h.recvLen
  · rw [ht, hbuf, hest, htarget, hfromc]
    exact h.upward
  · rw [ht, hest, htarget, hfromc]
    exact h.before
  · rw [ht, hclient, hfromt]
    exact h.downward
  · rw [ht, hest]
    intro hst
    rcases hstatus with hs | hs | ⟨hs, -⟩
    · exact h.atHandshake (hs.symm.trans hst)
    · exact absurd (hs.symm.trans hst) (by simp)
    · exact absurd (hs.symm.trans hst) (by simp)
  · rw [ht, hest]
    intro hst
    rcases hstatus with hs | hs | ⟨hs, -⟩
    · exact h.atForward (hs.symm.trans hst)
    · exact absurd (hs.symm.trans hst) (by simp)
    · exact absurd (hs.symm.trans hst) (by simp)
  · rintro ⟨m, hm, hdial⟩
    rw [ht] at hm
    rcases List.mem_append.mp hm with hm | hm
    · exact absurd hdial (by rw [(hread m hm).2.2.2.2.2.2.1]; simp)
    · obtain ⟨data, context, hdata, hplan⟩ := h.origin ⟨m, hm, hdial⟩
      exact ⟨data, context, ht ▸ List.mem_append_right _ hdata, hbuf.trans hplan⟩
  · intro hne
    rw [hpass] at hne ⊢
    rw [ht]
    exact (h.password hne).mono new
  · rw [ht]
    refine (throughout_append_iff (fun m hm older => ?_)).mpr h.usage
    have hm' := (hread m hm).2.2.2.2.2.2.2
    unfold RecordsUsage
    split
    · exact absurd hm' (by simp [isUsage])
    · trivial
  · rw [ht, hcount]
    intro hst
    rcases hstatus with hs | hs | ⟨-, hs⟩
    · exact h.unrecorded (hs ▸ hst)
    · exact absurd hs hst
    · exact h.unrecorded hs
  · rw [ht, hcount]
    exact h.once

/-- Beginning an operation that the readings do not see. -/
theorem begins (h : Ledger env s sent received up down) {op : Operation}
    (hop : isSilent (.began op) = true) : Ledger env (s.begins op) sent received up down :=
  h.silent [_] rfl (by simpa using hop) (.inl rfl) rfl rfl rfl rfl

/-- **The usage report is what the books say.** -/
theorem reports (h : Ledger env s 0 0 [] []) (hs : s.status ≠ .destroy)
    (hpass : s.authPassword ≠ [])
    (hplace : ∃ releases before, s.history = releases ++ .noted .destroyed :: before
      ∧ ∀ m ∈ releases, isRelease m = true) :
    Ledger env
      { s.notes (.recordedUsage s.authPassword s.recvLen s.sentLen) with status := .destroy }
      0 0 [] [] where
  sentLen := h.sentLen
  recvLen := h.recvLen
  upward hest := by
    have hup := h.upward (List.mem_of_ne_of_mem (by simp) hest)
    show s.outWriteBuf ++ _ = _
    simpa [toTarget, fromClient] using hup
  before hest := by
    have hbefore := h.before (fun hmem => hest (List.mem_cons_of_mem _ hmem))
    simpa [toTarget, fromClient] using hbefore
  downward := by simpa [toClient, fromTargets, fromTarget] using h.downward
  atHandshake := by simp
  atForward := by simp
  origin := by
    rintro ⟨m, hm, hdial⟩
    rcases List.mem_cons.mp hm with rfl | hm
    · exact absurd hdial (by simp [isDial])
    · obtain ⟨data, context, hdata, hplan⟩ := h.origin ⟨m, hm, hdial⟩
      exact ⟨data, context, List.mem_cons_of_mem _ hdata, hplan⟩
  password hne := (h.password hne).mono [_]
  usage := by
    refine ⟨⟨?_, ?_, h.password hpass, hplace⟩, h.usage⟩
    · exact h.recvLen.symm
    · exact h.sentLen.symm
  unrecorded := by simp
  once := by
    show (_ :: s.history).countP isUsage ≤ 1
    rw [List.countP_cons, h.unrecorded hs]
    simp [isUsage]

/-- **Being destroyed closes the books.** -/
theorem destroy (h : Ledger env s 0 0 [] []) : Ledger env (s.destroy env) 0 0 [] [] := by
  by_cases hs : s.status = .destroy
  · rw [destroy_of_destroy env s hs]
    exact h
  have hrel : ∀ n ∈ s.releaseNotes,
      n = .releasedFallbackSlot ∨ n = .releasedConnectionSlot s.inEndpoint := by
    intro n hn
    unfold releaseNotes at hn
    simp only [List.mem_append, List.mem_ite_nil_right, List.mem_singleton] at hn
    exact hn.imp And.right And.right
  -- the session is destroyed and gives back its slots
  have hrest : Ledger env
      { s with history := s.releaseNotes.map .noted ++ .noted .destroyed :: s.history }
      0 0 [] [] := by
    refine h.silent (s.releaseNotes.map .noted ++ [.noted .destroyed]) (by simp) (fun m hm => ?_)
      (.inl rfl) rfl rfl rfl rfl
    rcases List.mem_append.mp hm with hm | hm
    · obtain ⟨n, hn, rfl⟩ := List.mem_map.mp hm
      rcases hrel n hn with rfl | rfl <;> rfl
    · rw [List.mem_singleton.mp hm]
      rfl
  have hplace : ∃ releases before,
      s.releaseNotes.map .noted ++ .noted .destroyed :: s.history
        = releases ++ .noted .destroyed :: before ∧ ∀ m ∈ releases, isRelease m = true := by
    refine ⟨_, _, rfl, fun m hm => ?_⟩
    obtain ⟨n, hn, rfl⟩ := List.mem_map.mp hm
    rcases hrel n hn with rfl | rfl <;> rfl
  -- it reports its usage, if it has any to report
  have husage : Ledger env
      { s with
          status := .destroy
          history := (s.usageNotes env).map .noted
            ++ (s.releaseNotes.map .noted ++ .noted .destroyed :: s.history) } 0 0 [] [] := by
    unfold usageNotes
    split
    · rename_i hpass
      exact (hrest.reports hs hpass.2 hplace).silent [] rfl (by simp) (.inl rfl) rfl rfl rfl rfl
    · exact hrest.silent [] rfl (by simp) (.inr (.inl rfl)) rfl rfl rfl rfl
  -- and its TLS layer is shut down
  rw [destroy_eq env s hs]
  refine husage.silent (s.farewellOperations.map .began) ?_ (fun m hm => ?_) (.inl rfl) rfl rfl rfl
    rfl
  · simp [farewell, farewellNotes]
  · obtain ⟨op, hop, rfl⟩ := List.mem_map.mp hm
    unfold farewellOperations at hop
    split at hop
    · rcases List.mem_cons.mp hop with rfl | hop
      · rfl
      · rw [List.mem_singleton.mp hop]
        rfl
    · exact absurd hop List.not_mem_nil

/-- **A completion is entered in the books as a debt.** -/
theorem receives (h : Ledger env s 0 0 [] []) (e : Event) :
    Ledger env (s.receives e) (sentBytes (.noted (.handled s.status e)))
      (receivedBytes env (.noted (.handled s.status e)))
      (fromClient (.noted (.handled s.status e)))
      (fromTargets (.noted (.handled s.status e))) := by
  have hnote : Ledger env (s.notes (.handled s.status e))
      (sentBytes (.noted (.handled s.status e)))
      (receivedBytes env (.noted (.handled s.status e)))
      (fromClient (.noted (.handled s.status e)))
      (fromTargets (.noted (.handled s.status e))) := by
    constructor
    · exact congrArg (· + _) h.sentLen
    · exact congrArg (· + _) h.recvLen
    · intro hest
      have hup := h.upward (List.mem_of_ne_of_mem (by simp) hest)
      rw [List.append_nil] at hup
      show s.outWriteBuf ++ (_ ++ _) = _ ++ [] ++ _
      rw [← List.append_assoc, hup, List.append_nil]
    · intro hest
      have hest' : ¬ established s.history := fun hmem => hest (List.mem_cons_of_mem _ hmem)
      obtain ⟨hfrom, hto⟩ := h.before hest'
      -- before the connection is there, no read is a relay's
      have hnone : fromClient (.noted (.handled s.status e)) = [] := by
        unfold fromClient
        split
        · rename_i heq
          obtain ⟨hst, -⟩ := Note.handled.inj (Mark.noted.inj heq)
          exact absurd (h.atForward hst) hest'
        · rfl
      refine ⟨?_, ?_⟩
      · rw [history_notes, collect_cons, hfrom, hnone]
        rfl
      · rw [history_notes, collect_cons, hto]
        rfl
    · show _ ++ _ = _ ++ [] ++ _
      rw [h.downward]
    · exact fun hst hmem => h.atHandshake hst (List.mem_of_ne_of_mem (by simp) hmem)
    · exact fun hst => List.mem_cons_of_mem _ (h.atForward hst)
    · rintro ⟨m, hm, hdial⟩
      rcases List.mem_cons.mp hm with rfl | hm
      · exact absurd hdial (by simp [isDial])
      · obtain ⟨data, context, hdata, hplan⟩ := h.origin ⟨m, hm, hdial⟩
        exact ⟨data, context, List.mem_cons_of_mem _ hdata, hplan⟩
    · exact fun hne => (h.password hne).mono [_]
    · exact ⟨trivial, h.usage⟩
    · intro hst
      rw [history_notes, List.countP_cons_of_neg (by simp [isUsage]), h.unrecorded hst]
    · rw [history_notes, List.countP_cons_of_neg (by simp [isUsage])]
      exact h.once
  unfold ServerSession.receives
  split
  · exact hnote
  · exact hnote.silent [_] rfl (by simp [isSilent]) (.inl rfl) rfl rfl rfl rfl

/-! ### Paying -/

theorem paysSent (h : Ledger env s sent received up down) :
    Ledger env { s with sentLen := s.sentLen + sent } 0 received up down :=
  { h with sentLen := h.sentLen }

theorem paysReceived (h : Ledger env s sent received up down) :
    Ledger env { s with recvLen := s.recvLen + received } sent 0 up down :=
  { h with recvLen := h.recvLen }

/-- A write to the target pays what is owed upwards. -/
theorem outAsyncWriteBuffer (h : Ledger env s sent received up down)
    (hest : established s.history) (account : Bool) :
    Ledger env (s.outAsyncWriteBuffer up account) sent received [] down where
  sentLen := h.sentLen
  recvLen := h.recvLen
  upward _ := by
    have hup := h.upward hest
    show s.outWriteBuf ++ (_ ++ [] ++ []) = _ ++ [] ++ up ++ []
    simpa using hup
  before hnot := absurd (List.mem_cons_of_mem _ (List.mem_cons_of_mem _ hest)) hnot
  downward := by
    show _ ++ [] ++ [] = _ ++ [] ++ [] ++ down
    simpa using h.downward
  atHandshake hst := absurd hest (h.atHandshake hst)
  atForward _ := List.mem_cons_of_mem _ (List.mem_cons_of_mem _ hest)
  origin := by
    rintro ⟨m, hm, hdial⟩
    obtain ⟨data, context, hdata, hplan⟩ := h.origin ⟨_, hest, rfl⟩
    exact ⟨data, context, List.mem_cons_of_mem _ (List.mem_cons_of_mem _ hdata), hplan⟩
  password hne := (h.password hne).mono [_, _]
  usage := ⟨trivial, trivial, h.usage⟩
  unrecorded := h.unrecorded
  once := h.once

/-- A write to the client pays what is owed downwards. -/
theorem inAsyncWriteBuffer (h : Ledger env s sent received up down) :
    Ledger env (s.inAsyncWriteBuffer down) sent received up [] where
  sentLen := h.sentLen
  recvLen := h.recvLen
  upward hest := by
    have hup := h.upward (List.mem_of_ne_of_mem (by simp) (List.mem_of_ne_of_mem (by simp) hest))
    show s.outWriteBuf ++ (_ ++ [] ++ []) = _ ++ [] ++ [] ++ up
    simpa using hup
  before hnot := by
    have hbefore := h.before
      (fun hmem => hnot (List.mem_cons_of_mem _ (List.mem_cons_of_mem _ hmem)))
    show _ ++ [] ++ [] = _ ∧ _ ++ [] ++ [] = _
    simpa using hbefore
  downward := by
    show _ ++ [] ++ [] = _ ++ [] ++ down ++ []
    simpa using h.downward
  atHandshake hst hest :=
    h.atHandshake hst (List.mem_of_ne_of_mem (by simp) (List.mem_of_ne_of_mem (by simp) hest))
  atForward hst := List.mem_cons_of_mem _ (List.mem_cons_of_mem _ (h.atForward hst))
  origin := by
    rintro ⟨m, hm, hdial⟩
    rcases List.mem_cons.mp hm with rfl | hm
    · exact absurd hdial (by simp [isDial])
    rcases List.mem_cons.mp hm with rfl | hm
    · exact absurd hdial (by simp [isDial])
    obtain ⟨data, context, hdata, hplan⟩ := h.origin ⟨m, hm, hdial⟩
    exact ⟨data, context, List.mem_cons_of_mem _ (List.mem_cons_of_mem _ hdata), hplan⟩
  password hne := (h.password hne).mono [_, _]
  usage := ⟨trivial, trivial, h.usage⟩
  unrecorded := h.unrecorded
  once := h.once

/-! ### The handlers pay what they owe -/

theorem udpSent (h : Ledger env s 0 0 [] []) : Ledger env (s.udpSent env) 0 0 [] [] := by
  unfold ServerSession.udpSent tryParseUdpPacket
  split
  · rcases ({} : UDPPacket).parse s.udpDataBuf with ⟨p, _ | n⟩
    · by_cases hlong : s.udpDataBuf.length > maxLength
      · simp only [if_pos hlong]
        exact h.destroy
      · simp only [if_neg hlong]
        exact h.begins rfl
    · exact h.silent [_] rfl (by simp [isSilent]) (.inl rfl) rfl rfl rfl rfl
  · exact h

theorem dispatchUdpPayload (h : Ledger env s 0 0 [] []) (payload : Bytes) (packetLength : ℕ)
    (endpoint : UdpEndpoint) (openError : Bool) :
    Ledger env (s.dispatchUdpPayload env payload packetLength endpoint openError) 0 0 [] [] := by
  have hensure : Ledger env (s.ensureUdpSocketOpen env openError) 0 0 [] [] := by
    unfold ensureUdpSocketOpen
    split
    · exact h
    · split
      · exact h.destroy
      · exact h.silent [_, _] rfl (by simp [isSilent]) (.inl rfl) rfl rfl rfl rfl
  unfold ServerSession.dispatchUdpPayload
  dsimp only
  split
  · exact hensure
  · exact hensure.silent [_, _] rfl (by simp [isSilent]) (.inl rfl) rfl rfl rfl rfl

/-- Dialling, once it is known where the first bytes come from. -/
theorem dials (h : Ledger env s 0 0 [] []) {op : Operation}
    (hop : (∃ target, op = .tcpResolve target) ∨ ∃ target endpoint, op = .tcpConnect target endpoint)
    (horigin : ∃ data context, .noted (.handshakePayload data) ∈ s.history
      ∧ s.outWriteBuf = (buildExecutionPlan (SessionGate.evaluate env.config env.auth
        ⟨context, data⟩)).initialOutboundPayload) :
    Ledger env (s.begins op) 0 0 [] [] := by
  have hne : Mark.noted Note.tunnelEstablished ≠ (.began op : Mark Operation Buffer Note) := by
    simp
  have hread : toTarget (.began op) = [] ∧ toClient (.began op) = []
      ∧ receivedBytes env (.began op) = 0 := by
    rcases hop with ⟨target, rfl⟩ | ⟨target, endpoint, rfl⟩ <;> exact ⟨rfl, rfl, rfl⟩
  refine ⟨h.sentLen, ?_, fun hest => ?_, fun hnot => ?_, ?_, fun hst hest => ?_, fun hst => ?_,
    fun _ => ?_, fun hpw => ?_, ⟨trivial, h.usage⟩, h.unrecorded, h.once⟩
  · rw [history_begins, total_cons, hread.2.2]
    exact h.recvLen
  · rw [history_begins, collect_cons, collect_cons, hread.1]
    show s.outWriteBuf ++ (_ ++ []) = _ ++ [] ++ []
    have hup := h.upward (List.mem_of_ne_of_mem hne hest)
    simpa using hup
  · rw [history_begins, collect_cons, collect_cons, hread.1]
    have hbefore := h.before (fun hmem => hnot (List.mem_cons_of_mem _ hmem))
    show _ ++ [] = _ ∧ _ ++ [] = _
    simpa using hbefore
  · rw [history_begins, collect_cons, collect_cons, hread.2.1]
    show _ ++ [] = _ ++ [] ++ []
    simpa using h.downward
  · exact h.atHandshake hst (List.mem_of_ne_of_mem hne hest)
  · exact List.mem_cons_of_mem _ (h.atForward hst)
  · obtain ⟨data, context, hdata, hplan⟩ := horigin
    exact ⟨data, context, List.mem_cons_of_mem _ hdata, hplan⟩
  · exact (h.password hpw).mono [_]

theorem connectOutbound (h : Ledger env s 0 0 [] []) (target : ConnectTarget)
    (requiresFallbackSlot granted : Bool)
    (horigin : ∃ data context, .noted (.handshakePayload data) ∈ s.history
      ∧ s.outWriteBuf = (buildExecutionPlan (SessionGate.evaluate env.config env.auth
        ⟨context, data⟩)).initialOutboundPayload) :
    Ledger env (s.connectOutbound env target requiresFallbackSlot granted) 0 0 [] [] := by
  have hslot : Ledger env (s.tryAcquireFallbackSlot granted) 0 0 [] [] :=
    h.silent [_] rfl (by simp [isSilent]) (.inl rfl) rfl rfl rfl rfl
  unfold ServerSession.connectOutbound
  split
  · dsimp only
    split
    · obtain ⟨data, context, hdata, hplan⟩ := horigin
      exact hslot.dials (.inl ⟨target, rfl⟩)
        ⟨data, context, List.mem_cons_of_mem _ hdata, hplan⟩
    · exact hslot.destroy
  · exact h.dials (.inl ⟨target, rfl⟩) horigin

theorem tcpResolved (h : Ledger env s 0 0 [] []) (hdial : ∃ m ∈ s.history, isDial m = true)
    (target : ConnectTarget) (results : Option (List IpAddress)) (openError : Bool) :
    Ledger env (s.tcpResolved env target results openError) 0 0 [] [] := by
  unfold ServerSession.tcpResolved
  split
  · exact h.destroy
  · split
    · exact h.destroy
    · rename_i endpoint _ _
      have hopen : Ledger env { s.notes .openedOutSocket with outSocketOpen := true } 0 0 [] [] :=
        h.silent [_] rfl (by simp [isSilent]) (.inl rfl) rfl rfl rfl rfl
      obtain ⟨data, context, hdata, hplan⟩ := h.origin hdial
      exact hopen.dials (.inr ⟨target, endpoint, rfl⟩)
        ⟨data, context, List.mem_cons_of_mem _ hdata, hplan⟩

/-- Where the connection is there, the first bytes are owed to the target. -/
theorem establishes (h : Ledger env s 0 0 [] []) (hs : s.status = .handshake)
    (hdial : ∃ m ∈ s.history, isDial m = true) :
    Ledger env { s.notes .tunnelEstablished with status := .forward } 0 0 s.outWriteBuf [] where
  sentLen := h.sentLen
  recvLen := h.recvLen
  upward _ := by
    obtain ⟨hfrom, hto⟩ := h.before (h.atHandshake hs)
    show s.outWriteBuf ++ (collect fromClient s.history ++ [])
      = collect toTarget s.history ++ [] ++ s.outWriteBuf
    rw [hfrom, hto]
    simp
  before hnot := absurd List.mem_cons_self hnot
  downward := by
    show _ ++ [] = _ ++ [] ++ []
    simpa using h.downward
  atHandshake := by simp
  atForward _ := List.mem_cons_self
  origin _ := by
    obtain ⟨data, context, hdata, hplan⟩ := h.origin hdial
    exact ⟨data, context, List.mem_cons_of_mem _ hdata, hplan⟩
  password hne := (h.password hne).mono [_]
  usage := ⟨trivial, h.usage⟩
  unrecorded _ := h.unrecorded (by rw [hs]; simp)
  once := h.once

theorem tcpConnected (h : Ledger env s 0 0 [] []) (hs : s.status = .handshake)
    (hdial : ∃ m ∈ s.history, isDial m = true) (error : Bool) :
    Ledger env (s.tcpConnected env error) 0 0 [] [] := by
  unfold ServerSession.tcpConnected
  split
  · exact h.destroy
  · have hread : Ledger env
        { s.notes .tunnelEstablished with status := .forward }.outAsyncRead 0 0 s.outWriteBuf [] :=
      (h.establishes hs hdial).begins rfl
    dsimp only
    split
    · exact hread.outAsyncWriteBuffer (List.mem_cons_of_mem _ List.mem_cons_self) true
    · rename_i hnil
      have hempty : s.outWriteBuf = [] := not_not.mp hnil
      rw [hempty] at hread
      exact hread.begins rfl

/-- The first bytes are set by the plan, before anything is dialled. -/
theorem plans (h : Ledger env s 0 0 [] []) (hdial : ¬ ∃ m ∈ s.history, isDial m = true)
    (payload : Bytes) : Ledger env { s with outWriteBuf := payload } 0 0 [] [] :=
  { h with
    upward := fun hest => absurd ⟨_, hest, rfl⟩ hdial
    origin := fun hex => absurd hex hdial }

/-- A session that has not seen a payload has not dialled. -/
theorem not_dial (h : Ledger env s sent received up down) (hpay : s.payloads = 0) :
    ¬ ∃ m ∈ s.history, isDial m = true := by
  intro hdial
  obtain ⟨data, -, hdata, -⟩ := h.origin hdial
  have hzero := List.countP_eq_zero.mp hpay _ hdata
  exact absurd rfl hzero

/-- The password a session keeps is one that was authenticated. -/
theorem applyAuthResult {data : Bytes} {context : SessionContext}
    (h : Ledger env s 0 0 [] []) (hdata : .noted (.handshakePayload data) ∈ s.history) :
    Ledger env (s.applyAuthResult (SessionGate.evaluate env.config env.auth ⟨context, data⟩))
      0 0 [] [] := by
  obtain ⟨hauth, hused, hrecord⟩ :=
    SessionGate.evaluate_authenticated env.config env.auth ⟨context, data⟩
  unfold ServerSession.applyAuthResult
  split
  · rename_i hvalid
    have hsuccess : Ledger env (s.notes .authSuccess) 0 0 [] [] :=
      h.silent [_] rfl (by simp [isSilent]) (.inl rfl) rfl rfl rfl rfl
    split
    · rename_i hext
      refine { hsuccess with password := fun hne => ?_ }
      refine ⟨hne, List.mem_cons_self, data, List.mem_cons_of_mem _ hdata, ?_, ?_, hrecord.symm⟩
      · exact hauth.symm.trans (Bool.and_eq_true_iff.mp hvalid).2
      · exact hused.symm.trans hext
    · exact hsuccess
  · split
    · exact h.silent [_] rfl (by simp [isSilent]) (.inl rfl) rfl rfl rfl rfl
    · exact h

theorem handleHandshakePayload (h : Ledger env s 0 0 [] []) (hs : s.status = .handshake)
    (hpay : s.payloads = 0) (data : Bytes) (granted : Bool) :
    Ledger env (s.handleHandshakePayload env data granted) 0 0 [] [] := by
  have hlook : Ledger env (s.notes (.handshakePayload data)) 0 0 [] [] :=
    h.silent [_] rfl (by simp [isSilent]) (.inl rfl) rfl rfl rfl rfl
  obtain ⟨context, hgate⟩ := exists_gateResult env (s.notes (.handshakePayload data)) data
  have hnodial := h.not_dial hpay
  unfold ServerSession.handleHandshakePayload
  simp only [hgate]
  have happly : Ledger env ((s.notes (.handshakePayload data)).applyAuthResult
      (SessionGate.evaluate env.config env.auth ⟨context, data⟩)) 0 0 [] [] :=
    hlook.applyAuthResult List.mem_cons_self
  -- applying the result neither dials nor leaves the handshake
  have hmarks : ∃ new : History, ((s.notes (.handshakePayload data)).applyAuthResult
        (SessionGate.evaluate env.config env.auth ⟨context, data⟩)).history
        = new ++ .noted (.handshakePayload data) :: s.history
      ∧ ∀ m ∈ new, isDial m = false := by
    unfold ServerSession.applyAuthResult
    split
    · split
      · exact ⟨[_], rfl, by simp [isDial]⟩
      · exact ⟨[_], rfl, by simp [isDial]⟩
    · split
      · exact ⟨[_], rfl, by simp [isDial]⟩
      · exact ⟨[], rfl, by simp⟩
  have hstatus : ((s.notes (.handshakePayload data)).applyAuthResult
      (SessionGate.evaluate env.config env.auth ⟨context, data⟩)).status = .handshake := by
    unfold ServerSession.applyAuthResult
    split
    · split <;> exact hs
    · split <;> exact hs
  generalize (s.notes (.handshakePayload data)).applyAuthResult
    (SessionGate.evaluate env.config env.auth ⟨context, data⟩) = u at happly hmarks hstatus ⊢
  obtain ⟨new, hnew, hnot⟩ := hmarks
  have hudial : ¬ ∃ m ∈ u.history, isDial m = true := by
    rintro ⟨m, hm, hdial⟩
    rw [hnew] at hm
    rcases List.mem_append.mp hm with hm | hm
    · exact absurd (hnot m hm) (by rw [hdial]; simp)
    · rcases List.mem_cons.mp hm with rfl | hm
      · exact absurd hdial (by simp [isDial])
      · exact hnodial ⟨m, hm, hdial⟩
  have hplan := happly.plans hudial
    (buildExecutionPlan (SessionGate.evaluate env.config env.auth
      ⟨context, data⟩)).initialOutboundPayload
  unfold executePlan
  split
  · refine udpSent ?_
    exact hplan.silent [] rfl (by simp) (.inr (.inr ⟨rfl, by simp [hstatus]⟩)) rfl rfl rfl rfl
  · refine hplan.connectOutbound _ _ granted ⟨data, context, ?_, rfl⟩
    show _ ∈ u.history
    rw [hnew]
    exact List.mem_append_right _ List.mem_cons_self
  · exact hplan.destroy

theorem inRecv {data : Bytes}
    (h : Ledger env s 0 0 (if s.status = .forward then data else []) [])
    (hpay : s.status = .handshake → s.payloads = 0) (granted : Bool)
    (hbuf : (growAfterRead s.inReadBuf data.length).take data.length = data) :
    Ledger env (s.inRecv env data.length granted) 0 0 [] [] := by
  have hgrow : Ledger env (s.growInReadBuf data.length) 0 0
      (if s.status = .forward then data else []) [] :=
    h.silent [_] rfl (by simp [isSilent]) (.inl rfl) rfl rfl rfl rfl
  have htake : (s.growInReadBuf data.length).inReadBuf.take data.length = data := hbuf
  unfold ServerSession.inRecv
  dsimp only
  split
  · rename_i hs
    have hs' : s.status = .handshake := hs
    rw [if_neg (by rw [hs']; simp)] at hgrow
    exact hgrow.handleHandshakePayload hs (hpay hs) _ granted
  · rename_i hs
    have hs' : s.status = .forward := hs
    rw [if_pos hs'] at hgrow
    rw [htake]
    exact hgrow.outAsyncWriteBuffer (hgrow.atForward hs) true
  · rename_i hs
    have hs' : s.status = .udpForward := hs
    rw [if_neg (by rw [hs']; simp)] at hgrow
    refine udpSent ?_
    exact hgrow.silent [] rfl (by simp) (.inl rfl) rfl rfl rfl rfl
  · rename_i hs
    have hs' : s.status = .destroy := hs
    rw [if_neg (by rw [hs']; simp)] at hgrow
    exact hgrow

theorem outRecv {data : Bytes}
    (h : Ledger env s 0 (if s.status = .forward then data.length else 0) []
      (if s.status = .forward then data else []))
    (hbuf : (growAfterRead s.outReadBuf data.length).take data.length = data) :
    Ledger env (s.outRecv data.length) 0 0 [] [] := by
  have hgrow : Ledger env (s.growOutReadBuf data.length) 0
      (if s.status = .forward then data.length else 0) []
      (if s.status = .forward then data else []) :=
    h.silent [_] rfl (by simp [isSilent]) (.inl rfl) rfl rfl rfl rfl
  have htake : (s.growOutReadBuf data.length).outReadBuf.take data.length = data := hbuf
  unfold ServerSession.outRecv
  dsimp only
  split
  · rename_i hs
    have hs' : s.status = .forward := hs
    rw [if_pos hs', if_pos hs'] at hgrow
    rw [htake]
    exact hgrow.paysReceived.inAsyncWriteBuffer
  · rename_i hs
    have hs' : s.status ≠ .forward := hs
    rw [if_neg hs', if_neg hs'] at hgrow
    exact hgrow

theorem udpRecv {data : Bytes} {endpoint : UdpEndpoint}
    (h : Ledger env s 0 (if s.status = .udpForward then data.length else 0) []
      (if s.status = .udpForward then UDPPacket.generate endpoint data else []))
    (hbuf : (growAfterRead s.udpReadBuf data.length).take data.length = data) :
    Ledger env (s.udpRecv data.length endpoint) 0 0 [] [] := by
  have hgrow : Ledger env (s.growUdpReadBuf data.length) 0
      (if s.status = .udpForward then data.length else 0) []
      (if s.status = .udpForward then UDPPacket.generate endpoint data else []) :=
    h.silent [_] rfl (by simp [isSilent]) (.inl rfl) rfl rfl rfl rfl
  have htake : (s.growUdpReadBuf data.length).udpReadBuf.take data.length = data := hbuf
  unfold ServerSession.udpRecv
  dsimp only
  split
  · rename_i hs
    have hs' : s.status = .udpForward := hs
    rw [if_pos hs', if_pos hs'] at hgrow
    rw [htake]
    exact hgrow.paysReceived.inAsyncWriteBuffer
  · rename_i hs
    have hs' : s.status ≠ .udpForward := hs
    rw [if_neg hs', if_neg hs'] at hgrow
    exact hgrow

theorem trustedFrontRecv (h : Ledger env s 0 0 [] []) (hs : s.status = .handshake)
    (hpay : s.payloads = 0) (length : ℕ) (granted : Bool) :
    Ledger env (s.trustedFrontRecv env length granted) 0 0 [] [] := by
  unfold ServerSession.trustedFrontRecv
  dsimp only
  split
  · refine handleHandshakePayload ?_ ?_ ?_ _ granted
    · exact h.silent [] rfl (by simp) (.inl rfl) rfl rfl rfl rfl
    · exact hs
    · exact hpay
  · split
    · exact h.silent [_] rfl (by simp [isSilent]) (.inl rfl) rfl rfl rfl rfl
    · refine destroy ?_
      exact h.silent [] rfl (by simp) (.inl rfl) rfl rfl rfl rfl

/-- The answer in plain HTTP is counted as received. -/
theorem answersHttp (h : Ledger env s 0 0 [] []) :
    Ledger env ({ s with recvLen := s.recvLen + env.plainHttpResponse.length }.begins
      .plainHttpWrite) 0 0 [] [] where
  sentLen := h.sentLen
  recvLen := congrArg (· + env.plainHttpResponse.length) h.recvLen
  upward hest := by
    have hup := h.upward (List.mem_of_ne_of_mem (by simp) hest)
    show s.outWriteBuf ++ (_ ++ []) = _ ++ [] ++ []
    simpa using hup
  before hnot := by
    have hbefore := h.before (fun hmem => hnot (List.mem_cons_of_mem _ hmem))
    show _ ++ [] = _ ∧ _ ++ [] = _
    simpa using hbefore
  downward := by
    show _ ++ [] = _ ++ [] ++ []
    simpa using h.downward
  atHandshake hst hest := h.atHandshake hst (List.mem_of_ne_of_mem (by simp) hest)
  atForward hst := List.mem_cons_of_mem _ (h.atForward hst)
  origin := by
    rintro ⟨m, hm, hdial⟩
    rcases List.mem_cons.mp hm with rfl | hm
    · exact absurd hdial (by simp [isDial])
    obtain ⟨data, context, hdata, hplan⟩ := h.origin ⟨m, hm, hdial⟩
    exact ⟨data, context, List.mem_cons_of_mem _ hdata, hplan⟩
  password hne := (h.password hne).mono [_]
  usage := ⟨trivial, h.usage⟩
  unrecorded := h.unrecorded
  once := h.once

theorem inSent (h : Ledger env s 0 0 [] []) : Ledger env s.inSent 0 0 [] [] := by
  unfold ServerSession.inSent
  split
  · exact h.begins rfl
  · exact h.begins rfl
  · exact h

theorem outSent (h : Ledger env s 0 0 [] []) : Ledger env s.outSent 0 0 [] [] := by
  unfold ServerSession.outSent
  split
  · exact h.begins rfl
  · exact h

theorem udpResolved (h : Ledger env s 0 0 [] []) (request : UdpDispatchRequest)
    (results : Option (List UdpEndpoint)) (openError : Bool) :
    Ledger env (s.udpResolved env request results openError) 0 0 [] [] := by
  unfold ServerSession.udpResolved
  split
  · exact h.destroy
  · exact h.dispatchUdpPayload _ _ _ openError

theorem sslShutdownCb (h : Ledger env s 0 0 [] []) (aborted : Bool) :
    Ledger env (s.sslShutdownCb aborted) 0 0 [] [] := by
  unfold ServerSession.sslShutdownCb
  split
  · exact h
  · exact h.silent [] rfl (by simp) (.inl rfl) rfl rfl rfl rfl

theorem tlsHandshaken (h : Ledger env s 0 0 [] []) (error : Option Bytes) :
    Ledger env (s.tlsHandshaken env error) 0 0 [] [] := by
  unfold ServerSession.tlsHandshaken
  split
  · exact h.begins rfl
  · exact h.destroy
  · exact h.begins rfl
  · split
    · exact h.answersHttp
    · exact h.destroy

end Ledger

/-- The events that bring nothing: no byte is read or written by them. -/
def Event.isFree : Event → Bool
  | .inRead (some _) _ | .outRead (some _) | .udpReceive (some _) => false
  | .outWrite _ true false | .udpSend _ _ _ false => false
  | _ => true

theorem readings_of_isFree (env : Env) (status : Status) {e : Event} (h : e.isFree = true) :
    sentBytes (.noted (.handled status e)) = 0
      ∧ receivedBytes env (.noted (.handled status e)) = 0
      ∧ fromClient (.noted (.handled status e)) = []
      ∧ fromTargets (.noted (.handled status e)) = [] := by
  refine ⟨?_, ?_, ?_, ?_⟩
  · unfold sentBytes
    split
    · rename_i heq
      cases heq
      exact absurd h (by simp [Event.isFree])
    · rename_i heq
      cases heq
      exact absurd h (by simp [Event.isFree])
    · rfl
  · unfold receivedBytes fromTarget
    split
    · rename_i heq
      cases heq
      exact absurd h (by simp [Event.isFree])
    · rename_i heq
      cases heq
    · split
      · rename_i heq
        cases heq
        exact absurd h (by simp [Event.isFree])
      · rfl
  · unfold fromClient
    split
    · rename_i heq
      cases heq
      exact absurd h (by simp [Event.isFree])
    · rfl
  · unfold fromTargets fromTarget
    split
    · rename_i heq
      cases heq
      exact absurd h (by simp [Event.isFree])
    · split
      · rename_i heq
        cases heq
        exact absurd h (by simp [Event.isFree])
      · rfl

namespace Ledger

variable {env : Env} {s t : ServerSession}

theorem receives_of_isFree (h : Ledger env s 0 0 [] []) {e : Event} (he : e.isFree = true) :
    Ledger env (s.receives e) 0 0 [] [] := by
  have hrec := h.receives e
  obtain ⟨hsent, hreceived, hup, hdown⟩ := readings_of_isFree env s.status he
  rwa [hsent, hreceived, hup, hdown] at hrec

/-- What an inbound read brings is a debt of a TCP relay. -/
theorem receives_inRead (h : Ledger env s 0 0 [] []) (data : Bytes) (granted : Bool) :
    Ledger env (s.receives (.inRead (some data) granted)) 0 0
      (if (s.receives (.inRead (some data) granted)).status = .forward then data else []) [] := by
  have hrec := h.receives (.inRead (some data) granted)
  rw [status_receives]
  cases hst : s.status <;> rw [hst] at hrec <;> exact hrec

/-- What an outbound read brings is a debt of a TCP relay. -/
theorem receives_outRead (h : Ledger env s 0 0 [] []) (data : Bytes) :
    Ledger env (s.receives (.outRead (some data))) 0
      (if (s.receives (.outRead (some data))).status = .forward then data.length else 0) []
      (if (s.receives (.outRead (some data))).status = .forward then data else []) := by
  have hrec := h.receives (.outRead (some data))
  rw [status_receives]
  cases hst : s.status <;> rw [hst] at hrec <;> exact hrec

/-- What a datagram brings is a debt of a UDP relay. -/
theorem receives_udpReceive (h : Ledger env s 0 0 [] []) (data : Bytes) (endpoint : UdpEndpoint) :
    Ledger env (s.receives (.udpReceive (some (data, endpoint)))) 0
      (if (s.receives (.udpReceive (some (data, endpoint)))).status = .udpForward then
        data.length else 0) []
      (if (s.receives (.udpReceive (some (data, endpoint)))).status = .udpForward then
        UDPPacket.generate endpoint data else []) := by
  have hrec := h.receives (.udpReceive (some (data, endpoint)))
  rw [status_receives]
  cases hst : s.status <;> rw [hst] at hrec <;> exact hrec

/-- A write that is to be counted is still to be counted. -/
theorem receives_outWrite (h : Ledger env s 0 0 [] []) (data : Bytes) :
    Ledger env (s.receives (.outWrite data true false)) data.length 0 [] [] := by
  have hrec := h.receives (.outWrite data true false)
  cases hst : s.status <;> rw [hst] at hrec <;> exact hrec

/-- A datagram that was sent is still to be counted. -/
theorem receives_udpSend (h : Ledger env s 0 0 [] []) (data : Bytes) (endpoint : UdpEndpoint)
    (accounted : ℕ) :
    Ledger env (s.receives (.udpSend data endpoint accounted false)) accounted 0 [] [] := by
  have hrec := h.receives (.udpSend data endpoint accounted false)
  cases hst : s.status <;> rw [hst] at hrec <;> exact hrec

/-- **A step leaves the books in order.** -/
theorem step (hp : Pump s) (h : Ledger env s 0 0 [] []) {e : Event}
    (hstep : ServerSession.step env s e = some t) : Ledger env t 0 0 [] [] := by
  obtain ⟨op, he, hop, -, rfl⟩ := exists_operation_of_step hp.started hstep
  have hallow := hp.owes.allowed op hop
  have hst : (s.receives e).status = s.status := status_receives s e
  have hpay : (s.receives e).payloads = s.payloads := payloads_receives s e
  have hunread : s.status = .handshake → op.isBootstrap = true → (s.receives e).payloads = 0 :=
    fun hs hb => hpay.trans (hp.owes.unread hs ⟨op, hop, hb⟩)
  have hdial : isDial (.began op) = true → ∃ m ∈ (s.receives e).history, isDial m = true :=
    fun hd => ⟨_, mem_receives e (began_of_mem_inFlight hop), hd⟩
  cases e with
  | start remoteEndpoint => exact absurd he (by simp [Event.operation])
  | tlsHandshake error => exact (h.receives_of_isFree rfl).tlsHandshaken error
  | plainHttpWrite => exact (h.receives_of_isFree rfl).destroy
  | trustedFrontRead data granted =>
    obtain rfl := Option.some.inj he
    have hs : s.status = .handshake := Status.eq_handshake_of_allows hallow rfl
    have hrec : Ledger env (s.receives (.trustedFrontRead data granted)) 0 0 [] [] :=
      h.receives_of_isFree (by cases data <;> rfl)
    cases data with
    | none => exact hrec.destroy
    | some data =>
      refine trustedFrontRecv ?_ ?_ ?_ _ granted
      · exact hrec.silent [] rfl (by simp) (.inl rfl) rfl rfl rfl rfl
      · exact hst.trans hs
      · exact hunread hs rfl
  | inRead data granted =>
    obtain rfl := Option.some.inj he
    cases data with
    | none => exact (h.receives_of_isFree rfl).destroy
    | some data =>
      refine inRecv ?_ ?_ granted (take_growAfterRead _ data)
      · exact (h.receives_inRead data granted).silent [] rfl (by simp) (.inl rfl) rfl rfl rfl rfl
      · exact fun hs => hunread (hst.symm.trans hs) rfl
  | inWrite data error =>
    cases error with
    | true => exact (h.receives_of_isFree rfl).destroy
    | false => exact (h.receives_of_isFree rfl).inSent
  | outRead data =>
    cases data with
    | none => exact (h.receives_of_isFree rfl).destroy
    | some data =>
      refine outRecv ?_ (take_growAfterRead _ data)
      exact (h.receives_outRead data).silent [] rfl (by simp) (.inl rfl) rfl rfl rfl rfl
  | outWrite data account error =>
    cases error with
    | true => exact (h.receives_of_isFree (by cases account <;> rfl)).destroy
    | false =>
      cases account with
      | true => exact outSent (h.receives_outWrite data).paysSent
      | false => exact (h.receives_of_isFree rfl).outSent
  | tcpResolve target results openError =>
    obtain rfl := Option.some.inj he
    exact (h.receives_of_isFree rfl).tcpResolved (hdial rfl) target results openError
  | tcpConnect target endpoint error =>
    obtain rfl := Option.some.inj he
    have hs : s.status = .handshake := Status.eq_handshake_of_allows hallow rfl
    exact (h.receives_of_isFree rfl).tcpConnected (hst.trans hs) (hdial rfl) error
  | udpResolve request results openError =>
    exact (h.receives_of_isFree rfl).udpResolved request results openError
  | udpSend data endpoint accounted error =>
    cases error with
    | true => exact (h.receives_of_isFree rfl).destroy
    | false =>
      have hrec := h.receives_udpSend data endpoint accounted
      show Ledger env (if accounted > 0 then _ else _) 0 0 [] []
      split
      · exact udpSent hrec.paysSent
      · rename_i hzero
        obtain rfl : accounted = 0 := by omega
        exact hrec.udpSent
  | udpReceive received =>
    rcases received with _ | ⟨data, endpoint⟩
    · exact (h.receives_of_isFree rfl).destroy
    · refine udpRecv ?_ (take_growAfterRead _ data)
      exact (h.receives_udpReceive data endpoint).silent [] rfl (by simp) (.inl rfl) rfl rfl rfl
        rfl
  | tlsShutdown aborted => exact (h.receives_of_isFree rfl).sslShutdownCb aborted
  | shutdownTimer aborted => exact (h.receives_of_isFree rfl).sslShutdownCb aborted

end Ledger

/-- A session that has just been started has its books in order. -/
theorem ledger_start (env : Env) (mode : BootstrapMode) (handoff : Option ExternalFrontHandoff)
    {remoteEndpoint : Option TcpEndpoint} {t : ServerSession}
    (h : step env (create mode handoff) (.start remoteEndpoint) = some t) :
    Ledger env t 0 0 [] [] := by
  have hnone {m : Mark Operation Buffer Note} : ¬ m ∈ (create mode handoff).history :=
    List.not_mem_nil
  have hfresh : Ledger env (create mode handoff) 0 0 [] [] :=
    ⟨rfl, rfl, fun hest => absurd hest hnone, fun _ => ⟨rfl, rfl⟩, rfl, fun _ => hnone,
      fun hs => absurd hs (by simp [create]), fun ⟨m, hm, _⟩ => absurd hm hnone,
      fun hne => absurd rfl hne, trivial, fun _ => rfl, Nat.zero_le 1⟩
  have hrec : Ledger env ((create mode handoff).receives (.start remoteEndpoint)) 0 0 [] [] :=
    hfresh.receives_of_isFree rfl
  rw [← Option.some.inj h]
  show Ledger env (start env _ remoteEndpoint) 0 0 [] []
  unfold start
  cases remoteEndpoint with
  | none =>
    refine Ledger.destroy ?_
    exact hrec.silent [] rfl (by simp) (.inl rfl) rfl rfl rfl rfl
  | some endpoint =>
    dsimp only
    split
    · exact hrec.silent [_] rfl (by simp [isSilent]) (.inl rfl) rfl rfl rfl rfl
    · exact hrec.silent [_] rfl (by simp [isSilent]) (.inl rfl) rfl rfl rfl rfl

/-! ## Sessions that relay over TCP -/

/-- The marks a session makes that relays over TCP. -/
def isTcp : Mark Operation Buffer Note → Bool
  | .began (.outWrite _ account) => account
  | .began .plainHttpWrite | .began (.udpResolve _) => false
  | .began (.udpSend _ _ _) | .began .udpReceive => false
  | .noted (.handled .udpForward _) => false
  | .noted (.handled _ (.outWrite _ account _)) => account
  | .noted (.handled _ (.udpResolve _ _ _)) | .noted (.handled _ (.udpSend _ _ _ _)) => false
  | .noted (.handled _ (.udpReceive _)) => false
  | _ => true

/-- The readings of a mark of a TCP relay. -/
theorem readings_of_isTcp (env : Env) {m : Mark Operation Buffer Note} (h : isTcp m = true) :
    sentBytes m = writtenBytes m ∧ receivedBytes env m = (fromTarget m).length
      ∧ fromTargets m = fromTarget m := by
  refine ⟨?_, ?_, ?_⟩
  · unfold sentBytes
    split
    · rfl
    · rename_i status _ _ _
      cases status <;> exact absurd h (by simp [isTcp])
    · unfold writtenBytes
      split
      · rename_i status data account hnot _
        cases account with
        | true => exact absurd rfl (hnot status data)
        | false => cases status <;> exact absurd h (by simp [isTcp])
      · rfl
  · unfold receivedBytes
    split
    · exact absurd h (by simp [isTcp])
    · exact absurd h (by simp [isTcp])
    · rfl
  · unfold fromTargets
    split
    · exact absurd h (by simp [isTcp])
    · rfl

/-- **A session that relays over TCP**, if it relays: nothing in its history is
of another kind. -/
def TcpOnly (s : ServerSession) : Prop := ∀ m ∈ s.history, isTcp m = true

namespace TcpOnly

variable {env : Env} {s t : ServerSession}

theorem marks (h : TcpOnly s) (new : History) (ht : t.history = new ++ s.history)
    (hnew : ∀ m ∈ new, isTcp m = true) : TcpOnly t := by
  intro m hm
  rw [ht] at hm
  rcases List.mem_append.mp hm with hm | hm
  · exact hnew m hm
  · exact h m hm

theorem destroy (h : TcpOnly s) : TcpOnly (s.destroy env) := by
  by_cases hs : s.status = .destroy
  · rw [destroy_of_destroy env s hs]
    exact h
  · rw [destroy_eq env s hs]
    refine h.marks _ rfl (fun m hm => ?_)
    rcases List.mem_append.mp hm with hm | hm
    · obtain ⟨op, hop, rfl⟩ := List.mem_map.mp hm
      unfold farewellOperations at hop
      split at hop
      · rcases List.mem_cons.mp hop with rfl | hop
        · rfl
        · rw [List.mem_singleton.mp hop]
          rfl
      · exact absurd hop List.not_mem_nil
    · obtain ⟨n, hn, rfl⟩ := List.mem_map.mp hm
      rcases mem_farewellNotes hn with rfl | rfl | rfl | rfl <;> rfl

theorem connectOutbound (h : TcpOnly s) (target : ConnectTarget)
    (requiresFallbackSlot granted : Bool) :
    TcpOnly (s.connectOutbound env target requiresFallbackSlot granted) := by
  have hslot : TcpOnly (s.tryAcquireFallbackSlot granted) := h.marks [_] rfl (by simp [isTcp])
  unfold ServerSession.connectOutbound
  split
  · dsimp only
    split
    · exact hslot.marks [_] rfl (by simp [isTcp])
    · exact hslot.destroy
  · exact h.marks [_] rfl (by simp [isTcp])

theorem applyAuthResult (h : TcpOnly s) (decision : SessionGate.SessionDecision) :
    TcpOnly (s.applyAuthResult decision) := by
  unfold ServerSession.applyAuthResult
  split
  · split
    · exact h.marks [_] rfl (by simp [isTcp])
    · exact h.marks [_] rfl (by simp [isTcp])
  · split
    · exact h.marks [_] rfl (by simp [isTcp])
    · exact h

/-- The payload may lead to a UDP relay, or to a TCP relay. -/
theorem handleHandshakePayload (h : TcpOnly s) (data : Bytes) (granted : Bool) :
    (s.handleHandshakePayload env data granted).status = .udpForward
      ∨ TcpOnly (s.handleHandshakePayload env data granted) := by
  have hlook : TcpOnly (s.notes (.handshakePayload data)) := h.marks [_] rfl (by simp [isTcp])
  unfold ServerSession.handleHandshakePayload
  dsimp only
  split
  · exact .inr hlook
  · rename_i decision _
    unfold executePlan
    split
    · unfold startUdpForward udpSent tryParseUdpPacket
      rw [if_pos rfl]
      dsimp only
      rcases ({} : UDPPacket).parse (buildExecutionPlan decision).initialOutboundPayload with
        ⟨p, _ | n⟩
      · by_cases hlong : (buildExecutionPlan decision).initialOutboundPayload.length > maxLength
        · simp only [if_pos hlong]
          refine .inr (destroy ?_)
          exact hlook.applyAuthResult decision
        · simp only [if_neg hlong]
          exact .inl rfl
      · exact .inl rfl
    · refine .inr (connectOutbound ?_ _ _ granted)
      exact hlook.applyAuthResult decision
    · refine .inr (destroy ?_)
      exact hlook.applyAuthResult decision

theorem tlsHandshaken (h : TcpOnly s) (error : Option Bytes) :
    TcpOnly (s.tlsHandshaken env error)
      ∨ .plainHttpWrite ∈ (s.tlsHandshaken env error).pending := by
  unfold ServerSession.tlsHandshaken
  split
  · exact .inl (h.marks [_] rfl (by simp [isTcp]))
  · exact .inl h.destroy
  · exact .inl (h.marks [_] rfl (by simp [isTcp]))
  · split
    · exact .inr List.mem_cons_self
    · exact .inl h.destroy

theorem trustedFrontRecv (h : TcpOnly s) (length : ℕ) (granted : Bool) :
    (s.trustedFrontRecv env length granted).status = .udpForward
      ∨ TcpOnly (s.trustedFrontRecv env length granted) := by
  unfold ServerSession.trustedFrontRecv
  dsimp only
  split
  · refine handleHandshakePayload ?_ _ granted
    exact h
  · split
    · exact .inr (h.marks [_] rfl (by simp [isTcp]))
    · refine .inr (destroy ?_)
      exact h

theorem inRecv (h : TcpOnly s) (hs : s.status ≠ .udpForward) (length : ℕ) (granted : Bool) :
    (s.status = .handshake ∧ (s.inRecv env length granted).status = .udpForward)
      ∨ TcpOnly (s.inRecv env length granted) := by
  have hgrow : TcpOnly (s.growInReadBuf length) := h.marks [_] rfl (by simp [isTcp])
  unfold ServerSession.inRecv
  dsimp only
  split
  · rename_i hh
    exact (hgrow.handleHandshakePayload _ granted).imp_left (fun hu => ⟨hh, hu⟩)
  · exact .inr (h.marks [_, _, _] rfl (by simp [isTcp]))
  · rename_i hu
    exact absurd hu hs
  · exact .inr hgrow

theorem inSent (h : TcpOnly s) (hs : s.status ≠ .udpForward) : TcpOnly s.inSent := by
  unfold ServerSession.inSent
  split
  · exact h.marks [_] rfl (by simp [isTcp])
  · rename_i hu
    exact absurd hu hs
  · exact h

theorem outRecv (h : TcpOnly s) (length : ℕ) : TcpOnly (s.outRecv length) := by
  unfold ServerSession.outRecv
  dsimp only
  split
  · exact h.marks [_, _, _] rfl (by simp [isTcp])
  · exact h.marks [_] rfl (by simp [isTcp])

theorem outSent (h : TcpOnly s) : TcpOnly s.outSent := by
  unfold ServerSession.outSent
  split
  · exact h.marks [_] rfl (by simp [isTcp])
  · exact h

theorem tcpResolved (h : TcpOnly s) (target : ConnectTarget)
    (results : Option (List IpAddress)) (openError : Bool) :
    TcpOnly (s.tcpResolved env target results openError) := by
  unfold ServerSession.tcpResolved
  split
  · exact h.destroy
  · split
    · exact h.destroy
    · exact h.marks [_, _] rfl (by simp [isTcp])

theorem tcpConnected (h : TcpOnly s) (error : Bool) : TcpOnly (s.tcpConnected env error) := by
  unfold ServerSession.tcpConnected
  split
  · exact h.destroy
  · dsimp only
    split
    · exact h.marks [_, _, _, _] rfl (by simp [isTcp])
    · exact h.marks [_, _, _] rfl (by simp [isTcp])

theorem sslShutdownCb (h : TcpOnly s) (aborted : Bool) : TcpOnly (s.sslShutdownCb aborted) := by
  unfold ServerSession.sslShutdownCb
  split <;> exact h

/-- A completion of an operation of a TCP relay is one of a TCP relay. -/
theorem receives (h : TcpOnly s) (hs : s.status ≠ .udpForward) {e : Event} {op : Operation}
    (he : e.operation = some op) (htcp : isTcp (.began op) = true) : TcpOnly (s.receives e) := by
  have hhandled : isTcp (.noted (.handled s.status e)) = true := by
    cases hst : s.status with
    | udpForward => exact absurd hst hs
    | _ =>
      cases e <;> first
        | rfl
        | (obtain rfl := Option.some.inj he; exact htcp)
  unfold ServerSession.receives
  split
  · exact h.marks [_] rfl (by simpa using hhandled)
  · exact h.marks [_, _] rfl (by simpa using ⟨rfl, hhandled⟩)

/-- **A step of a TCP session**, which may turn out to be a UDP session, or be
answered in plain HTTP, as long as it is in the handshake. -/
theorem step (hp : Pump s) (h : TcpOnly s) (hs : s.status ≠ .udpForward) {e : Event}
    (hstep : ServerSession.step env s e = some t) :
    TcpOnly t ∨ (s.status = .handshake ∧ (t.status = .udpForward ∨ .plainHttpWrite ∈ t.pending))
    := by
  obtain ⟨op, he, hop, -, rfl⟩ := exists_operation_of_step hp.started hstep
  have hallow := hp.owes.allowed op hop
  have htcp : isTcp (.began op) = true := h _ (began_of_mem_inFlight hop)
  have hrec : TcpOnly (s.receives e) := h.receives hs he htcp
  have hst := status_receives s e
  have hs' : (s.receives e).status ≠ .udpForward := hst.trans_ne hs
  cases e with
  | start remoteEndpoint => exact absurd he (by simp [Event.operation])
  | tlsHandshake error =>
    obtain rfl := Option.some.inj he
    have hh : s.status = .handshake := Status.eq_handshake_of_allows hallow rfl
    exact (hrec.tlsHandshaken error).imp_right (fun hhttp => ⟨hh, .inr hhttp⟩)
  | plainHttpWrite => exact .inl hrec.destroy
  | trustedFrontRead data granted =>
    obtain rfl := Option.some.inj he
    have hh : s.status = .handshake := Status.eq_handshake_of_allows hallow rfl
    cases data with
    | none => exact .inl hrec.destroy
    | some data =>
      refine Or.symm (Or.imp_left (fun hu => ⟨hh, .inl hu⟩)
        (trustedFrontRecv ?_ data.length granted))
      exact hrec
  | inRead data granted =>
    cases data with
    | none => exact .inl hrec.destroy
    | some data =>
      refine Or.symm (Or.imp_left (fun hu => ⟨hst.symm.trans hu.1, .inl hu.2⟩)
        (inRecv ?_ ?_ data.length granted))
      · exact hrec
      · exact hs'
  | inWrite data error =>
    cases error with
    | true => exact .inl hrec.destroy
    | false => exact .inl (hrec.inSent hs')
  | outRead data =>
    cases data with
    | none => exact .inl hrec.destroy
    | some data =>
      refine .inl (outRecv ?_ data.length)
      exact hrec
  | outWrite data account error =>
    cases error with
    | true => exact .inl hrec.destroy
    | false =>
      cases account with
      | true =>
        refine .inl (outSent ?_)
        exact hrec
      | false => exact .inl hrec.outSent
  | tcpResolve target results openError => exact .inl (hrec.tcpResolved target results openError)
  | tcpConnect target endpoint error => exact .inl (hrec.tcpConnected error)
  | udpResolve request results openError =>
    obtain rfl := Option.some.inj he
    exact absurd htcp (by simp [isTcp])
  | udpSend data endpoint accounted error =>
    obtain rfl := Option.some.inj he
    exact absurd htcp (by simp [isTcp])
  | udpReceive received =>
    obtain rfl := Option.some.inj he
    exact absurd htcp (by simp [isTcp])
  | tlsShutdown aborted => exact .inl (hrec.sslShutdownCb aborted)
  | shutdownTimer aborted => exact .inl (hrec.sslShutdownCb aborted)

end TcpOnly

/-- A session in the handshake that answers in plain HTTP does nothing else. -/
theorem Pump.eq_plainHttpWrite {s : ServerSession} (h : Pump s) (hs : s.status = .handshake)
    {op : Operation} (hhttp : .plainHttpWrite ∈ s.pending) (hop : op ∈ s.pending) :
    op = .plainHttpWrite := by
  obtain ⟨o, ho⟩ := List.length_eq_one_iff.mp (h.owes.length_pending hs)
  rw [ho] at hhttp hop
  exact (List.mem_singleton.mp hop).trans (List.mem_singleton.mp hhttp).symm

/-- A session whose pump and books are in order, and that relays over TCP or
not at all as long as it can still do either. -/
structure Orderly (env : Env) (s : ServerSession) : Prop where
  pump : Pump s
  ledger : Ledger env s 0 0 [] []
  tcp : s.status = .handshake ∨ s.status = .forward → .plainHttpWrite ∈ s.pending ∨ TcpOnly s

theorem Orderly.step {env : Env} {s t : ServerSession} {e : Event} (h : Orderly env s)
    (hstep : ServerSession.step env s e = some t) : Orderly env t := by
  refine ⟨h.pump.step hstep, h.ledger.step h.pump hstep, fun ht => ?_⟩
  have hs : s.status = .handshake ∨ s.status = .forward := by
    by_cases hh : s.status = .handshake
    · exact .inl hh
    · rcases h.pump.keepsStatus hh hstep with hk | hk
      · exact hk ▸ ht
      · exact absurd ht (by rw [hk]; simp)
  have hudp : s.status ≠ .udpForward := by rcases hs with hs | hs <;> rw [hs] <;> simp
  rcases h.tcp hs with hhttp | htcp
  · obtain ⟨op, he, hop, -, rfl⟩ := exists_operation_of_step h.pump.started hstep
    have hallow := h.pump.owes.allowed _ hhttp
    have hh : s.status = .handshake := by
      rcases hs with hs | hs
      · exact hs
      · exact absurd hallow (by rw [hs]; simp [Status.allows])
    -- the answer is written, and the session destroyed
    obtain rfl := h.pump.eq_plainHttpWrite hh hhttp hop
    cases e with
    | plainHttpWrite =>
      have hd : (ServerSession.handle env (s.receives .plainHttpWrite) .plainHttpWrite).status
          = .destroy := status_destroy env _
      exact absurd ht (by rw [hd]; simp)
    | _ => exact absurd he (by simp [Event.operation])
  · rcases TcpOnly.step h.pump htcp hudp hstep with htcp | ⟨-, hu | hhttp⟩
    · exact .inr htcp
    · exact absurd ht (by rw [hu]; simp)
    · exact .inl hhttp

/-- **Every session that has been started is orderly.** -/
theorem orderly_run {env : Env} {mode : BootstrapMode} {handoff : Option ExternalFrontHandoff}
    {remoteEndpoint : Option TcpEndpoint} {es : List Event} {t : ServerSession}
    (h : Machine.run (ServerSession.step env) (create mode handoff)
      (.start remoteEndpoint :: es) = some t) : Orderly env t := by
  obtain ⟨u, hu, hrest⟩ := Machine.run_cons.mp h
  have htcp : TcpOnly u := by
    rw [← Option.some.inj hu]
    have hrec : TcpOnly ((create mode handoff).receives (.start remoteEndpoint)) := by
      intro m hm
      rw [List.mem_singleton.mp hm]
      rfl
    show TcpOnly (start env _ remoteEndpoint)
    unfold start
    cases remoteEndpoint with
    | none =>
      refine TcpOnly.destroy ?_
      exact hrec
    | some endpoint =>
      dsimp only
      split
      · exact hrec.marks [_] rfl (by simp [isTcp])
      · exact hrec.marks [_] rfl (by simp [isTcp])
  have hfirst : Orderly env u :=
    ⟨pump_start env mode handoff hu, ledger_start env mode handoff hu, fun _ => .inr htcp⟩
  exact Machine.run_invariant (fun _ _ _ hs hst => Orderly.step hs hst) hfirst hrest

/-- **A TCP relay is transparent, and its accounts are right.** Take any run of
a session that reaches `FORWARD`, and any run that follows, with reads of any
lengths completing in any order and buffers growing as they do. Then:

* the bytes submitted to the target are those the plan made of the session's
  first bytes, followed by the inbound reads in order;
* the bytes submitted to the client are the outbound reads in order;
* `sent_len` is the total length of the writes to the target that have
  completed, and `recv_len` that of the outbound reads;
* the usage is recorded at most once, in `destroy`, with these totals, and for
  a password that a successful authentication has set. -/
theorem relay_transparent {env : Env} {mode : BootstrapMode}
    {handoff : Option ExternalFrontHandoff} {remoteEndpoint : Option TcpEndpoint}
    {es fs : List Event} {s t : ServerSession}
    (hreach : Machine.run (ServerSession.step env) (create mode handoff)
      (.start remoteEndpoint :: es) = some s)
    (hs : s.status = .forward) (hrun : Machine.run (ServerSession.step env) s fs = some t) :
    (∃ data context, .noted (.handshakePayload data) ∈ t.history
        ∧ collect toTarget t.history
          = (buildExecutionPlan (SessionGate.evaluate env.config env.auth
              ⟨context, data⟩)).initialOutboundPayload ++ collect fromClient t.history)
      ∧ collect toClient t.history = collect fromTarget t.history
      ∧ t.sentLen = total writtenBytes t.history
      ∧ t.recvLen = total (fun m => (fromTarget m).length) t.history
      ∧ t.history.countP isUsage ≤ 1
      ∧ ∀ newer password download upload older,
        t.history = newer ++ .noted (.recordedUsage password download upload) :: older →
          download = total (fun m => (fromTarget m).length) older
            ∧ upload = total writtenBytes older
            ∧ Authenticated env older password
            ∧ ∃ releases before, older = releases ++ .noted .destroyed :: before
              ∧ ∀ m ∈ releases, isRelease m = true := by
  have hord := orderly_run hreach
  have htcp : TcpOnly s := by
    rcases hord.tcp (.inr hs) with hhttp | htcp
    · exact absurd (hord.pump.owes.allowed _ hhttp) (by rw [hs]; simp [Status.allows])
    · exact htcp
  -- from here on the session is a TCP relay, or was one
  obtain ⟨hend, htcpt, hstat, hest⟩ :
      Orderly env t ∧ TcpOnly t ∧ (t.status = .forward ∨ t.status = .destroy)
        ∧ established t.history := by
    refine Machine.run_invariant (P := fun u => Orderly env u ∧ TcpOnly u
      ∧ (u.status = .forward ∨ u.status = .destroy) ∧ established u.history)
      ?_ ⟨hord, htcp, .inl hs, hord.ledger.atForward hs⟩ hrun
    rintro u e v ⟨hou, htu, hsu, heu⟩ hstep
    have hhand : u.status ≠ .handshake := by rcases hsu with h | h <;> rw [h] <;> simp
    refine ⟨hou.step hstep, ?_, ?_, (suffix_step hstep).subset heu⟩
    · have hudp : u.status ≠ .udpForward := by rcases hsu with h | h <;> rw [h] <;> simp
      rcases TcpOnly.step hou.pump htu hudp hstep with htv | ⟨hh, -⟩
      · exact htv
      · exact absurd hh hhand
    · rcases hou.pump.keepsStatus hhand hstep with hk | hk
      · exact hk ▸ hsu
      · exact .inr hk
  have hledger := hend.ledger
  have hread (m) (hm : m ∈ t.history) := readings_of_isTcp env (htcpt m hm)
  refine ⟨?_, ?_, ?_, ?_, hledger.once, ?_⟩
  · obtain ⟨data, context, hdata, hplan⟩ := hledger.origin ⟨_, hest, rfl⟩
    refine ⟨data, context, hdata, ?_⟩
    have hup := hledger.upward hest
    rw [List.append_nil] at hup
    rw [← hup, hplan]
  · have hdown := hledger.downward
    rw [List.append_nil] at hdown
    rw [← hdown]
    exact collect_congr (fun m hm => (hread m hm).2.2)
  · rw [← total_congr (fun m hm => (hread m hm).1)]
    exact hledger.sentLen.symm
  · rw [← total_congr (fun m hm => (hread m hm).2.1)]
    exact hledger.recvLen.symm
  · intro newer password download upload older hhist
    have hsub : ∀ m ∈ older, m ∈ t.history := by
      intro m hm
      rw [hhist]
      exact List.mem_append_right _ (List.mem_cons_of_mem _ hm)
    obtain ⟨hd, hu, hauth, hplace⟩ := throughout_iff.mp hledger.usage newer _ older hhist
    refine ⟨?_, ?_, hauth, hplace⟩
    · rw [hd]
      exact total_congr (fun m hm => (hread m (hsub m hm)).2.1)
    · rw [hu]
      exact total_congr (fun m hm => (hread m (hsub m hm)).1)

/-- A stranger's relay: its first byte and the two that follow are submitted to
the fallback server. -/
theorem relay_transparent_stranger :
    ∃ t : ServerSession, collect toTarget t.history = [0, 1, 2]
      ∧ collect toClient t.history = collect fromTarget t.history := by
  have hrun : (Machine.run (ServerSession.step strangerEnv) (create .standardTls none)
      (.start (some {}) :: strangerEvents)).any (fun s => s.status = .forward ∧
        (Machine.run (ServerSession.step strangerEnv) s
          [.outWrite [0] true false, .inRead (some [1, 2]) true]).any
            (fun t => collect toTarget t.history = [0, 1, 2])) = true := by
    decide +kernel
  obtain ⟨s, hs, hcond⟩ := Option.any_eq_true _ _ |>.mp hrun
  obtain ⟨hforward, hrest⟩ := of_decide_eq_true hcond
  obtain ⟨t, ht, hbytes⟩ := Option.any_eq_true _ _ |>.mp hrest
  exact ⟨t, of_decide_eq_true hbytes, (relay_transparent hs hforward ht).2.1⟩

end ServerSession
