import Trojan.Client.DesktopInstanceGuard

/-!
# Only one instance, and the right one asked

Whatever the processes do, and wherever they crash, at most one of them has got past the
lock and not given it back (`DesktopInstanceGuard.single_instance`). It is the only one to
touch the endpoint file in that time, since a process deletes the file before it unlocks;
so as long as a primary instance serves, the file says where.

The file may still be that of a primary instance that has crashed, and its port may be that
of the next one by then. It is the nonce that keeps the requests apart: one that is served
was made by a process that read the file while the server had the lock
(`DesktopInstanceGuard.focused_by_own`). And a process that is started beside a primary
instance gets its window shown, if nothing comes in between
(`DesktopInstanceGuard.second_instance_focuses`).
-/

namespace DesktopInstanceGuard

/-! ## Texts -/

section Texts

/-- A digit is neither white space nor a colon. -/
theorem isWhitespace_digit {d : ℕ} (h : d < 36) :
    Text.isWhitespace (digit d) = false ∧ digit d ≠ 0x3A := by
  have hall : ∀ d < 36, Text.isWhitespace (digit d) = false ∧ digit d ≠ 0x3A := by decide
  exact hall d h

/-- A number is written in digits. -/
theorem mem_toRadixString {radix n : ℕ} (hradix : 1 < radix) (hfew : radix ≤ 36) {unit : UInt16}
    (h : unit ∈ toRadixString radix n) : Text.isWhitespace unit = false ∧ unit ≠ 0x3A := by
  unfold toRadixString at h
  split at h
  · rw [List.mem_singleton.mp h]
    decide
  · obtain ⟨d, hd, rfl⟩ := List.mem_map.mp h
    have hlt := Nat.digits_lt_base hradix (List.mem_reverse.mp hd)
    exact isWhitespace_digit (Nat.lt_of_lt_of_le hlt hfew)

theorem toRadixString_ne_nil (radix n : ℕ) : toRadixString radix n ≠ [] := by
  unfold toRadixString
  split
  · exact List.cons_ne_nil _ _
  · rename_i hn
    intro hnil
    exact hn (Nat.digits_eq_nil_iff_eq_zero.mp (List.reverse_eq_nil_iff.mp
      (List.map_eq_nil_iff.mp hnil)))

theorem mem_nonceOf {microseconds pid : ℕ} {unit : UInt16} (h : unit ∈ nonceOf microseconds pid) :
    Text.isWhitespace unit = false ∧ unit ≠ 0x3A :=
  (List.mem_append.mp h).elim (mem_toRadixString (by decide) (by decide))
    (mem_toRadixString (by decide) (by decide))

theorem nonceOf_ne_nil (microseconds pid : ℕ) : nonceOf microseconds pid ≠ [] :=
  List.append_ne_nil_of_left_ne_nil (toRadixString_ne_nil _ _) _

/-- Two words with a colon between them. -/
theorem splitOn_trim_colon {front back : Text}
    (hfront : ∀ unit ∈ front, Text.isWhitespace unit = false ∧ unit ≠ 0x3A)
    (hback : ∀ unit ∈ back, Text.isWhitespace unit = false ∧ unit ≠ 0x3A) :
    (front ++ [0x3A] ++ back).trim.splitOn 0x3A = [front, back] := by
  have htrim : (front ++ [0x3A] ++ back).trim = front ++ [0x3A] ++ back := by
    refine Text.trim_of_forall (fun unit hunit => ?_)
    rcases List.mem_append.mp hunit with hunit | hunit
    · rcases List.mem_append.mp hunit with hunit | hunit
      · exact (hfront unit hunit).1
      · rw [List.mem_singleton.mp hunit]
        decide
    · exact (hback unit hunit).1
  rw [htrim, List.append_assoc, List.singleton_append,
    List.splitOn_append_cons_self_of_not_mem (fun hmem => (hfront _ hmem).2 rfl),
    List.splitOn_eq_singleton (fun hmem => (hback _ hmem).2 rfl)]

/-- **The endpoint file is read as it was written.** -/
theorem parseEndpoint_endpointOf {parseInt : Text → Option ℤ} {port microseconds pid : ℕ}
    (hparse : parseInt (toRadixString 10 port) = some port) :
    parseEndpoint parseInt (endpointOf port (nonceOf microseconds pid))
      = some ((port : ℤ), nonceOf microseconds pid) := by
  unfold parseEndpoint
  rw [endpointOf, splitOn_trim_colon (fun _ h => mem_toRadixString (by decide) (by decide) h)
    (fun _ h => mem_nonceOf h)]
  dsimp only
  rw [if_neg (nonceOf_ne_nil _ _), hparse]
  rfl

/-- A request is taken for one where its nonce is. -/
theorem isRequest_messageOf {microseconds pid : ℕ}
    (hshort : (nonceOf microseconds pid).length ≤ 250) :
    isRequest (some (nonceOf microseconds pid)) (messageOf (nonceOf microseconds pid)) = true := by
  have hfocus : ∀ unit ∈ Text.ofString "focus",
      Text.isWhitespace unit = false ∧ unit ≠ 0x3A := by
    have hall : (Text.ofString "focus").all
        (fun unit => !Text.isWhitespace unit && unit != 0x3A) = true := by decide
    intro unit hunit
    simpa using List.all_eq_true.mp hall unit hunit
  have hlength : ¬ (messageOf (nonceOf microseconds pid)).length > 256 := by
    have hfive : (Text.ofString "focus").length = 5 := by decide
    rw [messageOf, List.length_append, List.length_append, hfive, List.length_singleton]
    omega
  rw [isRequest, if_neg hlength, messageOf, splitOn_trim_colon hfocus (fun _ h => mem_nonceOf h)]
  simp

/-- Without a nonce nothing is a request. -/
theorem isRequest_none (payload : Text) : isRequest none payload = false := by
  unfold isRequest
  dsimp only
  split
  · exact Bool.and_false _
  · rfl

/-- **What is taken for a request has the nonce**: a beginning of a message is none, unless
the nonce of the server is the beginning of the one that was sent. -/
theorem prefix_of_isRequest {nonce sent : Text} {length : ℕ}
    (h : isRequest (some nonce) ((messageOf sent).take length) = true) : nonce <+: sent := by
  obtain ⟨payload, hpayload⟩ : ∃ payload : Text, payload <+: messageOf sent
      ∧ ∃ front back, payload.trim.splitOn 0x3A = [front, back]
        ∧ front = Text.ofString "focus" ∧ back = nonce := by
    unfold isRequest at h
    dsimp only at h
    split at h
    · rename_i front back heq
      have hboth := Bool.and_eq_true_iff.mp h
      refine ⟨_, ?_, front, back, heq, of_decide_eq_true hboth.1,
        Option.some.inj (of_decide_eq_true hboth.2)⟩
      split
      · exact List.nil_prefix
      · exact List.take_prefix _ _
    · exact absurd h Bool.false_ne_true
  obtain ⟨hbegins, front, back, hsplit, rfl, rfl⟩ := hpayload
  have hwhole : payload.trim = messageOf back := by
    have hjoin := @List.intercalate_splitOn _ payload.trim _ _ 0x3A
    rw [hsplit] at hjoin
    rw [← hjoin]
    simp [List.intercalate, messageOf]
  -- nothing is trimmed in front, where the message begins
  have hfront : payload.dropWhile Text.isWhitespace = payload := by
    refine Text.dropWhile_of_beginning _ ?_ hbegins
    rfl
  have htrimmed : messageOf back <+: messageOf sent := by
    rw [← hwhole, Text.trim, hfront]
    exact (List.rdropWhile_prefix _ _).trans hbegins
  exact (List.prefix_append_right_inj (Text.ofString "focus" ++ [0x3A])).mp htrimmed

/-- `int.tryParse`, of a number that is written in digits. -/
def parseDigits (text : Text) : Option ℤ :=
  if text ≠ [] ∧ text.all (fun unit => 0x30 ≤ unit && unit ≤ 0x39) = true then
    some (Nat.ofDigits 10 (text.reverse.map (fun unit => unit.toNat - 0x30)) : ℕ)
  else none

/-- A number that is written in digits is read back. -/
theorem parseDigits_toRadixString (n : ℕ) : parseDigits (toRadixString 10 n) = some (n : ℤ) := by
  have hdigit : ∀ d < 10, (0x30 ≤ digit d && digit d ≤ 0x39) = true
      ∧ (digit d).toNat - 0x30 = d := by decide
  have hsmall (d : ℕ) (hd : d ∈ Nat.digits 10 n) : d < 10 := Nat.digits_lt_base (by decide) hd
  by_cases hn : n = 0
  · rw [hn]
    decide
  · have hdigits : toRadixString 10 n = (Nat.digits 10 n).reverse.map digit := if_neg hn
    have hall : (toRadixString 10 n).all (fun unit => 0x30 ≤ unit && unit ≤ 0x39) = true := by
      rw [hdigits, List.all_map, List.all_reverse]
      exact List.all_eq_true.mpr (fun d hd => (hdigit d (hsmall d hd)).1)
    have hback : (Nat.digits 10 n).map ((fun unit => unit.toNat - 0x30) ∘ digit)
        = Nat.digits 10 n :=
      (List.map_congr_left (fun d hd => (hdigit d (hsmall d hd)).2)).trans (List.map_id _)
    rw [parseDigits, if_pos ⟨toRadixString_ne_nil 10 n, hall⟩, hdigits, ← List.map_reverse,
      List.reverse_reverse, List.map_map, hback, Nat.ofDigits_digits]

end Texts

/-! ## A tenure -/

/-- **The phases of a process that has the lock**, from its `lock` to its `unlock`. -/
def Phase.holds {Pid : Type} : Phase Pid → Bool
  | binding => true
  | writing => true
  | primary => true
  | closingServer => true
  | deleting => true
  | unlocking => true
  | _ => false

/-- The phases in which a process may have a server. -/
def Phase.servesFocus {Pid : Type} : Phase Pid → Bool
  | writing => true
  | primary => true
  | _ => false

/-- The phases of a process that has nothing of the world. -/
def Phase.quiet {Pid : Type} : Phase Pid → Bool
  | apart => true
  | opening => true
  | locking => true
  | refused => true
  | looking => true
  | reading => true
  | connecting _ _ _ => true
  | secondary => true
  | failed => true
  | _ => false

theorem Phase.holds_of_servesFocus {Pid : Type} {phase : Phase Pid}
    (h : phase.servesFocus = true) : phase.holds = true := by
  cases phase with
  | writing => rfl
  | primary => rfl
  | _ => exact absurd h Bool.false_ne_true

/-- A process in a quiet phase has neither the lock nor a server. -/
theorem Phase.spec_of_quiet {Pid : Type} {phase : Phase Pid} (h : phase.quiet = true) :
    phase.holds = false ∧ phase.servesFocus = false ∧ phase ≠ .closing ∧ phase ≠ .released := by
  cases phase with
  | binding => exact absurd h Bool.false_ne_true
  | writing => exact absurd h Bool.false_ne_true
  | primary => exact absurd h Bool.false_ne_true
  | closingServer => exact absurd h Bool.false_ne_true
  | deleting => exact absurd h Bool.false_ne_true
  | unlocking => exact absurd h Bool.false_ne_true
  | closing => exact absurd h Bool.false_ne_true
  | released => exact absurd h Bool.false_ne_true
  | crashed => exact absurd h Bool.false_ne_true
  | _ => exact ⟨rfl, rfl, by simp, by simp⟩

variable {Pid : Type} [DecidableEq Pid] {platform : Platform Pid} {x y : World Pid} {p q : Pid}
  {e : Event Pid}

/-- **A process and what it has of the world.** A process that holds the lock is the owner,
and an owner that does not has tried to give it back. Its server and its nonce are there
as long as it may serve, and if it listens, the endpoint file says so. -/
structure Tenure (platform : Platform Pid) (x : World Pid) (p : Pid) : Prop where
  holder : (x.process p).phase.holds = true → x.lockOwner = some p
  owner : x.lockOwner = some p → (x.process p).phase.holds = true
    ∨ (x.process p).phase = .closing ∨ (x.process p).phase = .released
  server : ∀ port, (x.process p).focusServer = some port →
    x.server port = some p ∧ (x.process p).phase.servesFocus = true
  nonce : ∀ n, (x.process p).focusNonce = some n →
    (x.process p).phase.servesFocus = true ∧ ∃ microseconds, n = nonceOf microseconds (platform.pid p)
  mute : (x.process p).phase.quiet = true ∨ (x.process p).phase = .binding
    ∨ (x.process p).phase = .writing → (x.process p).listens = false
  writes : (x.process p).phase = .writing →
    ∃ port n, (x.process p).focusServer = some port ∧ (x.process p).focusNonce = some n
  serves : (x.process p).phase = .primary → (x.process p).listens = true →
    ∃ port n, (x.process p).focusServer = some port ∧ (x.process p).focusNonce = some n
      ∧ x.endpoint = some (endpointOf port n)

/-- **What a step leaves to the others**: their fields, their lock and their ports; and the
endpoint file, unless the process that takes the step has the lock. -/
structure Spares (p : Pid) (x y : World Pid) : Prop where
  process : ∀ q, q ≠ p → y.process q = x.process q
  lockOwner : ∀ q, q ≠ p → (y.lockOwner = some q ↔ x.lockOwner = some q)
  server : ∀ q, q ≠ p → ∀ port, x.server port = some q → y.server port = some q
  endpoint : y.endpoint = x.endpoint ∨ x.lockOwner = some p

namespace Spares

omit [DecidableEq Pid] in
theorem refl (p : Pid) (x : World Pid) : Spares p x x :=
  ⟨fun _ _ => rfl, fun _ _ => Iff.rfl, fun _ _ _ h => h, .inl rfl⟩

theorem put (h : Spares p x y) (g : DesktopInstanceGuard Pid) : Spares p x (y.put p g) where
  process q hq := (World.process_put_of_ne y p g hq).trans (h.process q hq)
  lockOwner := h.lockOwner
  server := h.server
  endpoint := h.endpoint

theorem unlock (h : Spares p x y) : Spares p x (y.unlock p) where
  process := h.process
  lockOwner q hq := by
    rw [← h.lockOwner q hq]
    show (if y.lockOwner = some p then none else y.lockOwner) = some q ↔ _
    split
    · rename_i howner
      rw [howner]
      exact ⟨fun hnone => absurd hnone (by simp), fun hsome => absurd (Option.some.inj hsome).symm hq⟩
    · exact Iff.rfl
  server := h.server
  endpoint := h.endpoint

theorem closePorts (h : Spares p x y) : Spares p x (y.closePorts p) where
  process := h.process
  lockOwner := h.lockOwner
  server q hq port hport := by
    show (if y.server port = some p then none else y.server port) = some q
    rw [h.server q hq port hport, if_neg (fun heq => hq (Option.some.inj heq))]
  endpoint := h.endpoint

omit [DecidableEq Pid] in
/-- The endpoint file is written, or deleted, by who has the lock. -/
theorem edits (howner : x.lockOwner = some p) (endpoint : Option Text) :
    Spares p x { x with endpoint := endpoint } :=
  ⟨fun _ _ => rfl, fun _ _ => Iff.rfl, fun _ _ _ h => h, .inr howner⟩

end Spares

/-! ## What a step does -/

/-- **What the steps of a process do**, and the event of the one that makes a nonce. -/
inductive Does (platform : Platform Pid) (x : World Pid) (e : Event Pid) (p : Pid) :
    World Pid → Prop where
  /-- It goes on among the quiet phases, and has read nothing. -/
  | quiet (phase : Phase Pid) (hfrom : (x.process p).phase.quiet = true)
      (hto : phase.quiet = true) (hread : ∀ port nonce seen, phase ≠ .connecting port nonce seen) :
      Does platform x e p (x.goes p phase)
  | reads (port : ℤ) (nonce : Text) (hphase : (x.process p).phase = .reading) :
      Does platform x e p (x.goes p (.connecting port nonce x.lockOwner))
  | sends (port : ℤ) (nonce : Text) (seen : Option Pid) (server : Pid)
      (hphase : (x.process p).phase = .connecting port nonce seen) :
      Does platform x e p
        ({ x with requests := x.requests ++ [Request.mk p server nonce seen] }.goes p .secondary)
  | locks (hphase : (x.process p).phase = .locking) (hfree : x.lockOwner = none) :
      Does platform x e p ({ x with lockOwner := some p }.put p
        { x.process p with phase := .binding, lockHandle := true })
  | binds (port microseconds : ℕ) (hphase : (x.process p).phase = .binding)
      (hfree : x.server port = none) (hevent : e = .bound p (some port) microseconds) :
      Does platform x e p ({ x with server := Function.update x.server port (some p) }.put p
        { x.process p with
            phase := .writing
            focusServer := some port
            focusNonce := some (nonceOf microseconds (platform.pid p)) })
  /-- It could not open a port. -/
  | unbound (hphase : (x.process p).phase = .binding) : Does platform x e p (x.goes p .primary)
  | writes (length : ℕ) (hphase : (x.process p).phase = .writing) :
      Does platform x e p { x with endpoint := some ((x.endpointFor p).take length) }
  | wrote (hphase : (x.process p).phase = .writing) :
      Does platform x e p ({ x with endpoint := some (x.endpointFor p) }.put p
        { x.process p with phase := .primary, listens := true })
  /-- It could not write the endpoint, and does not listen. -/
  | unwritten (hphase : (x.process p).phase = .writing) : Does platform x e p (x.goes p .primary)
  | handles (hphase : (x.process p).phase = .primary) :
      Does platform x e p (x.put p { x.process p with focusRequestHandler := true })
  | receives (request length : ℕ) (r : Request Pid) (hlistens : (x.process p).listens = true)
      (hr : x.requests[request]? = some r) (hserver : r.server = p) :
      Does platform x e p
        ({ x with requests := x.requests.eraseIdx request }.requestReceived p r length)
  | releases (hphase : (x.process p).phase = .primary) : Does platform x e p (x.released p)
  | closesServer (hphase : (x.process p).phase = .closingServer) :
      Does platform x e p
        ((x.closePorts p).put p { x.process p with phase := .deleting, listens := false })
  | deletes (endpoint : Option Text) (hphase : (x.process p).phase = .deleting) :
      Does platform x e p ({ x with endpoint := endpoint }.goes p .unlocking)
  | unlocks (hphase : (x.process p).phase = .unlocking) :
      Does platform x e p ((x.unlock p).goes p .closing)
  /-- The lock is left to `close`. -/
  | holdsOn (hphase : (x.process p).phase = .unlocking) : Does platform x e p (x.goes p .closing)
  | closes (hphase : (x.process p).phase = .closing) :
      Does platform x e p ((x.unlock p).goes p .released)
  | leaves (hphase : (x.process p).phase = .closing) : Does platform x e p (x.goes p .released)
  | crashes : Does platform x e p (((x.unlock p).closePorts p).put p
      { x.process p with
          phase := .crashed
          lockHandle := false
          focusServer := none
          focusNonce := none
          listens := false })

/-- **A step does one of these.** -/
theorem does_of_step (h : World.step platform x e = some y) : Does platform x e e.process y := by
  have hquiet {p : Pid} {phase : Phase Pid} (hphase : (x.process p).phase = phase)
      (h : phase.quiet = true) : (x.process p).phase.quiet = true := by
    rw [hphase]
    exact h
  cases e with
  | tryAcquirePrimaryLock p =>
    obtain ⟨hphase, h⟩ := Option.ite_none_right_eq_some.mp h
    obtain rfl := Option.some.inj h
    exact .quiet .opening (hquiet hphase rfl) rfl (by simp)
  | opened p error =>
    obtain ⟨hphase, h⟩ := Option.ite_none_right_eq_some.mp h
    obtain rfl := Option.some.inj h
    cases error with
    | true => exact .quiet .failed (hquiet hphase rfl) rfl (by simp)
    | false => exact .quiet .locking (hquiet hphase rfl) rfl (by simp)
  | locked p error =>
    obtain ⟨hphase, h⟩ := Option.ite_none_right_eq_some.mp h
    have hrefused : Does platform x (.locked p error) p (x.goes p .refused) :=
      .quiet .refused (hquiet hphase rfl) rfl (by simp)
    unfold World.lockReturned at h
    split at h
    · rename_i hfree
      split at h
      · exact Option.some.inj h ▸ hrefused
      · obtain rfl := Option.some.inj h
        exact .locks hphase hfree
    · obtain ⟨-, h⟩ := Option.ite_none_right_eq_some.mp h
      exact Option.some.inj h ▸ hrefused
  | closedRefused p =>
    obtain ⟨hphase, h⟩ := Option.ite_none_right_eq_some.mp h
    obtain rfl := Option.some.inj h
    exact .quiet .looking (hquiet hphase rfl) rfl (by simp)
  | looked p =>
    obtain ⟨hphase, h⟩ := Option.ite_none_right_eq_some.mp h
    obtain rfl := Option.some.inj h
    refine .quiet _ (hquiet hphase rfl) ?_ ?_
    · split <;> rfl
    · split <;> simp
  | read p =>
    obtain ⟨hphase, h⟩ := Option.ite_none_right_eq_some.mp h
    split at h
    · obtain rfl := Option.some.inj h
      exact .quiet .failed (hquiet hphase rfl) rfl (by simp)
    · split at h
      · obtain rfl := Option.some.inj h
        exact .quiet .secondary (hquiet hphase rfl) rfl (by simp)
      · obtain rfl := Option.some.inj h
        exact .reads _ _ hphase
  | connected p reached =>
    unfold World.step at h
    dsimp only at h
    split at h
    · rename_i port nonce seen hphase
      unfold World.connectReturned at h
      split at h
      · obtain rfl := Option.some.inj h
        exact .quiet .secondary (hquiet hphase rfl) rfl (by simp)
      · split at h
        · exact absurd h (by simp)
        · obtain ⟨server, -, rfl⟩ := Option.map_eq_some_iff.mp h
          exact .sends port nonce seen server hphase
    · exact absurd h (by simp)
  | bound p port microseconds =>
    obtain ⟨hphase, h⟩ := Option.ite_none_right_eq_some.mp h
    unfold World.bindReturned at h
    split at h
    · obtain rfl := Option.some.inj h
      exact .unbound hphase
    · obtain ⟨hfree, h⟩ := Option.ite_none_left_eq_some.mp h
      obtain rfl := Option.some.inj h
      exact .binds _ microseconds hphase (not_ne_iff.mp hfree) rfl
  | wroteSome p length =>
    obtain ⟨hphase, h⟩ := Option.ite_none_right_eq_some.mp h
    obtain rfl := Option.some.inj h
    exact .writes length hphase
  | wrote p error =>
    obtain ⟨hphase, h⟩ := Option.ite_none_right_eq_some.mp h
    split at h
    · obtain rfl := Option.some.inj h
      exact .unwritten hphase
    · obtain rfl := Option.some.inj h
      exact .wrote hphase
  | setFocusRequestHandler p =>
    obtain ⟨hphase, h⟩ := Option.ite_none_right_eq_some.mp h
    obtain rfl := Option.some.inj h
    exact .handles hphase
  | received p request length =>
    obtain ⟨hlistens, h⟩ := Option.ite_none_right_eq_some.mp h
    split at h
    · exact absurd h (by simp)
    · rename_i r hr
      obtain ⟨hserver, h⟩ := Option.ite_none_right_eq_some.mp h
      obtain rfl := Option.some.inj h
      exact .receives request length r hlistens hr hserver
  | release p =>
    obtain ⟨hphase, h⟩ := Option.ite_none_right_eq_some.mp h
    obtain rfl := Option.some.inj h
    exact .releases hphase
  | closedServer p =>
    obtain ⟨hphase, h⟩ := Option.ite_none_right_eq_some.mp h
    obtain rfl := Option.some.inj h
    exact .closesServer hphase
  | deleted p error =>
    obtain ⟨hphase, h⟩ := Option.ite_none_right_eq_some.mp h
    split at h
    · obtain rfl := Option.some.inj h
      exact .deletes x.endpoint hphase
    · obtain rfl := Option.some.inj h
      exact .deletes none hphase
  | unlocked p error =>
    obtain ⟨hphase, h⟩ := Option.ite_none_right_eq_some.mp h
    obtain rfl := Option.some.inj h
    cases error with
    | true => exact .holdsOn hphase
    | false => exact .unlocks hphase
  | closed p error =>
    obtain ⟨hphase, h⟩ := Option.ite_none_right_eq_some.mp h
    obtain rfl := Option.some.inj h
    cases error with
    | true => exact .leaves hphase
    | false => exact .closes hphase
  | crash p =>
    obtain rfl := Option.some.inj h
    exact .crashes

/-- **Every step spares the other processes.** -/
theorem Does.spares (h : Does platform x e p y)
    (hx : (x.process p).phase.holds = true → x.lockOwner = some p) : Spares p x y := by
  have hholds {phase : Phase Pid} (hphase : (x.process p).phase = phase)
      (h : phase.holds = true) : x.lockOwner = some p := by
    refine hx ?_
    rw [hphase]
    exact h
  have hhere := Spares.refl p x
  cases h with
  | quiet phase hfrom hto hread => exact hhere.put _
  | reads port nonce hphase => exact hhere.put _
  | sends port nonce seen server hphase =>
    have hsent : Spares p x { x with requests := x.requests ++ [Request.mk p server nonce seen] } :=
      ⟨fun _ _ => rfl, fun _ _ => Iff.rfl, fun _ _ _ h => h, .inl rfl⟩
    exact hsent.put _
  | locks hphase hfree =>
    have hlocked : Spares p x { x with lockOwner := some p } := by
      refine ⟨fun _ _ => rfl, fun q hq => ?_, fun _ _ _ h => h, .inl rfl⟩
      rw [hfree]
      exact ⟨fun h => absurd (Option.some.inj h).symm hq, fun h => absurd h (by simp)⟩
    exact hlocked.put _
  | binds port microseconds hphase hfree hevent =>
    have hbound : Spares p x { x with server := Function.update x.server port (some p) } := by
      refine ⟨fun _ _ => rfl, fun _ _ => Iff.rfl, fun q hq port' h => ?_, .inl rfl⟩
      have hne : port' ≠ port := by
        rintro rfl
        rw [hfree] at h
        exact absurd h (by simp)
      exact (Function.update_of_ne hne _ _).trans h
    exact hbound.put _
  | unbound hphase => exact hhere.put _
  | writes length hphase => exact Spares.edits (hholds hphase rfl) _
  | wrote hphase => exact (Spares.edits (hholds hphase rfl) _).put _
  | unwritten hphase => exact hhere.put _
  | handles hphase => exact hhere.put _
  | receives request length r hlistens hr hserver =>
    have hfewer : Spares p x { x with requests := x.requests.eraseIdx request } :=
      ⟨fun _ _ => rfl, fun _ _ => Iff.rfl, fun _ _ _ h => h, .inl rfl⟩
    unfold World.requestReceived
    dsimp only
    split
    · exact hfewer.put _
    · exact hfewer
  | releases hphase => exact hhere.put _
  | closesServer hphase => exact hhere.closePorts.put _
  | deletes endpoint hphase => exact (Spares.edits (hholds hphase rfl) _).put _
  | unlocks hphase => exact hhere.unlock.put _
  | holdsOn hphase => exact hhere.put _
  | closes hphase => exact hhere.unlock.put _
  | leaves hphase => exact hhere.put _
  | crashes => exact hhere.unlock.closePorts.put _

omit [DecidableEq Pid] in
/-- A process that is spared keeps its tenure. -/
theorem Tenure.of_spares (hq : Tenure platform x q) (hne : q ≠ p) (h : Spares p x y) :
    Tenure platform y q := by
  have hprocess := h.process q hne
  refine ⟨fun hholds => ?_, fun howner => ?_, fun port hport => ?_, fun n hn => ?_,
    fun hphase => ?_, fun hphase => ?_, fun hphase hlistens => ?_⟩
  · rw [hprocess] at hholds
    exact (h.lockOwner q hne).mpr (hq.holder hholds)
  · rw [hprocess]
    exact hq.owner ((h.lockOwner q hne).mp howner)
  · rw [hprocess] at hport ⊢
    obtain ⟨hserver, hserves⟩ := hq.server port hport
    exact ⟨h.server q hne port hserver, hserves⟩
  · rw [hprocess] at hn ⊢
    exact hq.nonce n hn
  · rw [hprocess] at hphase ⊢
    exact hq.mute hphase
  · rw [hprocess] at hphase ⊢
    exact hq.writes hphase
  · rw [hprocess] at hphase hlistens ⊢
    obtain ⟨port, n, hport, hn, hendpoint⟩ := hq.serves hphase hlistens
    have howner := hq.holder (by rw [hphase]; rfl)
    refine ⟨port, n, hport, hn, ?_⟩
    rcases h.endpoint with hsame | hother
    · rw [hsame, hendpoint]
    · rw [howner] at hother
      exact absurd (Option.some.inj hother) hne

omit [DecidableEq Pid] in
/-- A process whose phase is not one of a server has none. -/
theorem Tenure.no_server (hp : Tenure platform x p) {phase : Phase Pid}
    (hphase : (x.process p).phase = phase) (hserves : phase.servesFocus = false) :
    (x.process p).focusServer = none ∧ (x.process p).focusNonce = none := by
  subst hphase
  refine ⟨?_, ?_⟩
  · cases hport : (x.process p).focusServer with
    | none => rfl
    | some port => exact absurd ((hp.server port hport).2.symm.trans hserves) Bool.noConfusion
  · cases hn : (x.process p).focusNonce with
    | none => rfl
    | some n => exact absurd ((hp.nonce n hn).1.symm.trans hserves) Bool.noConfusion

/-- A process without a server, whose phase says who has the lock. -/
theorem tenure_of_no_server {g : DesktopInstanceGuard Pid} (hport : g.focusServer = none)
    (hn : g.focusNonce = none) (hwriting : g.phase ≠ .writing)
    (hmute : g.phase.quiet = true ∨ g.phase = .binding ∨ g.phase = .primary → g.listens = false)
    (hholder : g.phase.holds = true → x.lockOwner = some p)
    (howner : x.lockOwner = some p → g.phase.holds = true ∨ g.phase = .closing
      ∨ g.phase = .released) : Tenure platform (x.put p g) p := by
  refine ⟨?_, ?_, ?_, ?_, ?_, ?_, ?_⟩
  · rw [World.process_put]
    exact hholder
  · rw [World.process_put]
    exact howner
  · rw [World.process_put, hport]
    exact fun _ h => absurd h (by simp)
  · rw [World.process_put, hn]
    exact fun _ h => absurd h (by simp)
  · rw [World.process_put]
    rintro (h | h | h)
    · exact hmute (.inl h)
    · exact hmute (.inr (.inl h))
    · exact absurd h hwriting
  · rw [World.process_put]
    exact fun h => absurd h hwriting
  · rw [World.process_put]
    exact fun h hl => absurd ((hmute (.inr (.inr h))).symm.trans hl) Bool.noConfusion

/-- A process that changes nothing of this. -/
theorem Tenure.same (hp : Tenure platform x p) {g : DesktopInstanceGuard Pid}
    (hphase : g.phase = (x.process p).phase) (hport : g.focusServer = (x.process p).focusServer)
    (hn : g.focusNonce = (x.process p).focusNonce) (hlistens : g.listens = (x.process p).listens) :
    Tenure platform (x.put p g) p := by
  refine ⟨?_, ?_, ?_, ?_, ?_, ?_, ?_⟩
  · rw [World.process_put, hphase]
    exact hp.holder
  · rw [World.process_put, hphase]
    exact hp.owner
  · rw [World.process_put, hphase, hport]
    exact hp.server
  · rw [World.process_put, hphase, hn]
    exact hp.nonce
  · rw [World.process_put, hphase, hlistens]
    exact hp.mute
  · rw [World.process_put, hphase, hport, hn]
    exact hp.writes
  · rw [World.process_put, hphase, hport, hn, hlistens]
    exact hp.serves

/-- A process that has written the endpoint, or has failed to. -/
theorem Tenure.toPrimary (hp : Tenure platform x p) (hphase : (x.process p).phase = .writing)
    {listens : Bool} (hlistens : listens = true → x.endpoint = some (x.endpointFor p)) :
    Tenure platform (x.put p { x.process p with phase := .primary, listens := listens }) p := by
  have howner := hp.holder (by rw [hphase]; rfl)
  obtain ⟨port, n, hport, hn⟩ := hp.writes hphase
  refine ⟨fun _ => howner, fun _ => ?_, ?_, ?_, ?_, ?_, ?_⟩
  · rw [World.process_put]
    exact .inl rfl
  · rw [World.process_put]
    exact fun port' hport' => ⟨(hp.server port' hport').1, rfl⟩
  · rw [World.process_put]
    exact fun n' hn' => ⟨rfl, (hp.nonce n' hn').2⟩
  · rw [World.process_put]
    exact fun h => absurd h (by simp [Phase.quiet])
  · rw [World.process_put]
    exact fun h => absurd h (by simp)
  · rw [World.process_put]
    refine fun _ hlistening => ⟨port, n, hport, hn, ?_⟩
    show x.endpoint = _
    rw [hlistens hlistening, World.endpointFor, hport, hn]

omit [DecidableEq Pid] in
theorem Tenure.owns (hp : Tenure platform x p) {phase : Phase Pid}
    (hphase : (x.process p).phase = phase) (h : phase.holds = true) : x.lockOwner = some p :=
  hp.holder (hphase ▸ h)

omit [DecidableEq Pid] in
theorem Tenure.silent (hp : Tenure platform x p) {phase : Phase Pid}
    (hphase : (x.process p).phase = phase)
    (h : phase.quiet = true ∨ phase = .binding ∨ phase = .writing) :
    (x.process p).listens = false :=
  hp.mute (hphase ▸ h)

omit [DecidableEq Pid] in
/-- A process that has not got past the lock does not have it. -/
theorem Tenure.not_owner (hp : Tenure platform x p) {phase : Phase Pid}
    (hphase : (x.process p).phase = phase) (h : phase.quiet = true) :
    x.lockOwner ≠ some p := by
  intro howner
  obtain ⟨hnot, -, hclosing, hreleased⟩ := Phase.spec_of_quiet h
  have hcases := hp.owner howner
  rw [hphase, hnot] at hcases
  exact hcases.elim Bool.false_ne_true (fun h => h.elim hclosing hreleased)

theorem lockOwner_unlock_ne (x : World Pid) (p : Pid) : (x.unlock p).lockOwner ≠ some p := by
  show (if x.lockOwner = some p then none else x.lockOwner) ≠ some p
  split
  · simp
  · assumption

/-- **A step keeps the tenure of its process.** -/
theorem Does.tenure (h : Does platform x e p y) (hp : Tenure platform x p) :
    Tenure platform y p := by
  cases h with
  | quiet phase hfrom hto hread =>
    obtain ⟨hport, hn⟩ := hp.no_server rfl (Phase.spec_of_quiet hfrom).2.1
    refine tenure_of_no_server hport hn ?_ (fun _ => hp.silent rfl (.inl hfrom))
      (fun hholds => absurd ((Phase.spec_of_quiet hto).1.symm.trans hholds) Bool.noConfusion)
      (fun howner => absurd howner (hp.not_owner rfl hfrom))
    rintro rfl
    exact Bool.false_ne_true hto
  | reads port nonce hphase =>
    obtain ⟨hport, hn⟩ := hp.no_server hphase rfl
    exact tenure_of_no_server hport hn (by simp) (fun _ => hp.silent hphase (.inl rfl))
      (fun h => absurd h Bool.false_ne_true) (fun howner => absurd howner (hp.not_owner hphase rfl))
  | sends port nonce seen server hphase =>
    obtain ⟨hport, hn⟩ := hp.no_server hphase rfl
    exact tenure_of_no_server (x := { x with
        requests := x.requests ++ [Request.mk p server nonce seen] }) hport hn (by simp)
      (fun _ => hp.silent hphase (.inl rfl)) (fun h => absurd h Bool.false_ne_true)
      (fun howner => absurd howner (hp.not_owner hphase rfl))
  | locks hphase hfree =>
    obtain ⟨hport, hn⟩ := hp.no_server hphase rfl
    exact tenure_of_no_server (x := { x with lockOwner := some p }) hport hn (by simp)
      (fun _ => hp.silent hphase (.inl rfl)) (fun _ => rfl) (fun _ => .inl rfl)
  | binds port microseconds hphase hfree hevent =>
    have howner := hp.owns hphase rfl
    refine ⟨fun _ => howner, fun _ => ?_, ?_, ?_, ?_, ?_, ?_⟩
    · rw [World.process_put]
      exact .inl rfl
    · rw [World.process_put]
      rintro port' hport
      obtain rfl := Option.some.inj hport
      exact ⟨Function.update_self _ _ _, rfl⟩
    · rw [World.process_put]
      rintro n hn
      exact ⟨rfl, microseconds, (Option.some.inj hn).symm⟩
    · rw [World.process_put]
      exact fun _ => hp.silent hphase (.inr (.inl rfl))
    · rw [World.process_put]
      exact fun _ => ⟨port, _, rfl, rfl⟩
    · rw [World.process_put]
      exact fun h => absurd h (by simp)
  | unbound hphase =>
    obtain ⟨hport, hn⟩ := hp.no_server hphase rfl
    exact tenure_of_no_server hport hn (by simp) (fun _ => hp.silent hphase (.inr (.inl rfl)))
      (fun _ => hp.owns hphase rfl) (fun _ => .inl rfl)
  | writes length hphase =>
    exact ⟨hp.holder, hp.owner, hp.server, hp.nonce, hp.mute, hp.writes,
      fun h => absurd (hphase.symm.trans h) (by simp)⟩
  | wrote hphase =>
    have hwritten : Tenure platform { x with endpoint := some (x.endpointFor p) } p :=
      ⟨hp.holder, hp.owner, hp.server, hp.nonce, hp.mute, hp.writes,
        fun h => absurd (hphase.symm.trans h) (by simp)⟩
    exact hwritten.toPrimary hphase (fun _ => rfl)
  | unwritten hphase =>
    have hsilent := hp.silent hphase (.inr (.inr rfl))
    exact hp.toPrimary hphase (fun h => absurd (hsilent.symm.trans h) Bool.noConfusion)
  | handles hphase => exact hp.same rfl rfl rfl rfl
  | receives request length r hlistens hr hserver =>
    have hfewer : Tenure platform { x with requests := x.requests.eraseIdx request } p :=
      ⟨hp.holder, hp.owner, hp.server, hp.nonce, hp.mute, hp.writes, hp.serves⟩
    unfold World.requestReceived
    dsimp only
    split
    · exact hfewer.same rfl rfl rfl rfl
    · exact hfewer
  | releases hphase =>
    have howner := hp.owns hphase rfl
    refine tenure_of_no_server rfl rfl ?_ ?_ (fun _ => howner) (fun _ => .inl ?_)
    · dsimp only
      split <;> simp
    · dsimp only
      split <;> simp [Phase.quiet]
    · dsimp only
      split <;> rfl
  | closesServer hphase =>
    obtain ⟨hport, hn⟩ := hp.no_server hphase rfl
    exact tenure_of_no_server (x := x.closePorts p) hport hn (by simp) (fun _ => rfl)
      (fun _ => hp.owns hphase rfl) (fun _ => .inl rfl)
  | deletes endpoint hphase =>
    obtain ⟨hport, hn⟩ := hp.no_server hphase rfl
    exact tenure_of_no_server (x := { x with endpoint := endpoint }) hport hn (by simp)
      (by simp [Phase.quiet]) (fun _ => hp.owns hphase rfl) (fun _ => .inl rfl)
  | unlocks hphase =>
    obtain ⟨hport, hn⟩ := hp.no_server hphase rfl
    exact tenure_of_no_server (x := x.unlock p) hport hn (by simp) (by simp [Phase.quiet])
      (fun h => absurd h Bool.false_ne_true) (fun _ => .inr (.inl rfl))
  | holdsOn hphase =>
    obtain ⟨hport, hn⟩ := hp.no_server hphase rfl
    exact tenure_of_no_server hport hn (by simp) (by simp [Phase.quiet])
      (fun h => absurd h Bool.false_ne_true) (fun _ => .inr (.inl rfl))
  | closes hphase =>
    obtain ⟨hport, hn⟩ := hp.no_server hphase rfl
    exact tenure_of_no_server (x := x.unlock p) hport hn (by simp) (by simp [Phase.quiet])
      (fun h => absurd h Bool.false_ne_true) (fun _ => .inr (.inr rfl))
  | leaves hphase =>
    obtain ⟨hport, hn⟩ := hp.no_server hphase rfl
    exact tenure_of_no_server hport hn (by simp) (by simp [Phase.quiet])
      (fun h => absurd h Bool.false_ne_true) (fun _ => .inr (.inr rfl))
  | crashes =>
    exact tenure_of_no_server (x := (x.unlock p).closePorts p) rfl rfl (by simp) (fun _ => rfl)
      (fun h => absurd h Bool.false_ne_true) (fun howner => absurd howner (lockOwner_unlock_ne x p))

/-! ## Runs -/

/-- **One step** keeps all the tenures. -/
theorem tenure_step (hx : ∀ p, Tenure platform x p) (h : World.step platform x e = some y) :
    ∀ p, Tenure platform y p := by
  have hdoes := does_of_step h
  intro q
  by_cases hq : q = e.process
  · rw [hq]
    exact hdoes.tenure (hx _)
  · exact (hx q).of_spares hq (hdoes.spares (hx _).holder)

omit [DecidableEq Pid] in
theorem tenure_initial (endpoint : Option Text) (p : Pid) :
    Tenure platform (World.initial endpoint) p where
  holder h := absurd h Bool.false_ne_true
  owner h := absurd h (by simp [World.initial])
  server _ h := absurd h (by simp [World.initial])
  nonce _ h := absurd h (by simp [World.initial])
  mute _ := rfl
  writes h := absurd h (by simp [World.initial])
  serves h := absurd h (by simp [World.initial])

theorem tenure_run {endpoint : Option Text} {es : List (Event Pid)}
    (h : Machine.run (World.step platform) (World.initial endpoint) es = some y) (p : Pid) :
    Tenure platform y p :=
  Machine.run_invariant (P := fun x => ∀ p, Tenure platform x p)
    (fun _ _ _ hx hstep => tenure_step hx hstep) (tenure_initial endpoint) h p

/-- Two processes. -/
def sampleDesktop : Platform (Fin 2) where
  parseInt := parseDigits
  pid p := 4000 + p

/-- A process gets the lock, and serves. -/
def startEvents (p : Fin 2) : List (Event (Fin 2)) :=
  [.tryAcquirePrimaryLock p, .opened p false, .locked p false,
    .bound p (some 40000) 1700000000000000, .wrote p false, .setFocusRequestHandler p]

/-- **At most one instance**, in every run of any number of processes, whatever fails or
crashes. Two processes that have the lock, from `lock` to `unlock`, are the same; a process
that has crashed does not have it; and while a primary instance listens, its server is
where the endpoint file says, with the nonce that it says. -/
theorem single_instance {endpoint : Option Text} {es : List (Event Pid)}
    (h : Machine.run (World.step platform) (World.initial endpoint) es = some y) :
    (∀ p q, (y.process p).phase.holds = true → (y.process q).phase.holds = true → p = q)
      ∧ (∀ p, (y.process p).phase = .crashed → y.lockOwner ≠ some p)
      ∧ ∀ p, (y.process p).phase = .primary → (y.process p).listens = true →
        ∃ port n, y.endpoint = some (endpointOf port n) ∧ y.server port = some p
          ∧ (y.process p).focusNonce = some n := by
  have hall := tenure_run h
  refine ⟨fun p q hp hq => ?_, fun p hp howner => ?_, fun p hp hlistens => ?_⟩
  · exact Option.some.inj (((hall p).holder hp).symm.trans ((hall q).holder hq))
  · have hcases := (hall p).owner howner
    rw [hp] at hcases
    exact absurd hcases (by simp [Phase.holds])
  · obtain ⟨port, n, hport, hn, hendpoint⟩ := (hall p).serves hp hlistens
    exact ⟨port, n, hendpoint, ((hall p).server port hport).1, hn⟩

/-- The first process crashes, and the second one is the instance. -/
theorem single_instance_of_crash :
    ∃ y, Machine.run (World.step sampleDesktop) (World.initial none)
        (startEvents 0 ++ .crash 0 :: startEvents 1) = some y
      ∧ (y.process 1).phase = .primary
      ∧ (∀ p q, (y.process p).phase.holds = true → (y.process q).phase.holds = true → p = q)
      ∧ y.lockOwner ≠ some 0
      ∧ ∃ port n, y.endpoint = some (endpointOf port n) ∧ y.server port = some 1
        ∧ (y.process 1).focusNonce = some n := by
  have hany : (Machine.run (World.step sampleDesktop) (World.initial none)
      (startEvents 0 ++ .crash 0 :: startEvents 1)).any (fun y =>
        decide ((y.process 0).phase = .crashed ∧ (y.process 1).phase = .primary
          ∧ (y.process 1).listens = true)) = true := by
    decide +kernel
  obtain ⟨y, hy, hphases⟩ := (Option.any_eq_true _ _).mp hany
  obtain ⟨hcrashed, hprimary, hlistens⟩ := of_decide_eq_true hphases
  obtain ⟨hone, hgone, hserves⟩ := single_instance hy
  exact ⟨y, hy, hprimary, hone, hgone 0 hcrashed, hserves 1 hprimary hlistens⟩

/-! ## Whose requests are served -/

/-- A nonce that a process has read, and the owner of the lock at that time. -/
def Phase.known {Pid : Type} : Phase Pid → Option (Text × Option Pid)
  | connecting _ nonce seen => some (nonce, seen)
  | _ => none

/-- **What is known of a nonce was read from its owner**: whoever is to send a nonce that
begins with it has read it while the owner had the lock. -/
def OwnedBy (x : World Pid) (p : Pid) (nonce : Text) : Prop :=
  (∀ q sent seen, (x.process q).phase.known = some (sent, seen) → nonce <+: sent → seen = some p)
    ∧ ∀ r ∈ x.requests, nonce <+: r.nonce → r.seen = some p

/-- **A nonce is fresh**: nobody is to send one that begins with it. -/
def IsFresh (platform : Platform Pid) (x : World Pid) : Event Pid → Prop
  | .bound p (some _) microseconds =>
    (∀ q, ((x.process q).phase.known.any
        (fun known => nonceOf microseconds (platform.pid p) <+: known.1)) = false)
      ∧ ∀ r ∈ x.requests, ¬ nonceOf microseconds (platform.pid p) <+: r.nonce
  | _ => True

/-- Whether a nonce is fresh can be computed, among finitely many processes. -/
instance {n : ℕ} (platform : Platform (Fin n)) (x : World (Fin n)) :
    DecidablePred (IsFresh platform x) := fun e =>
  match e with
  | .bound p (some _) microseconds =>
    inferInstanceAs (Decidable ((∀ q, ((x.process q).phase.known.any
        (fun known => nonceOf microseconds (platform.pid p) <+: known.1)) = false)
      ∧ ∀ r ∈ x.requests, ¬ nonceOf microseconds (platform.pid p) <+: r.nonce))
  | .bound _ none _ | .tryAcquirePrimaryLock _ | .opened _ _ | .locked _ _ | .closedRefused _
  | .looked _ | .read _ | .connected _ _ | .wroteSome _ _ | .wrote _ _
  | .setFocusRequestHandler _ | .received _ _ _ | .release _ | .closedServer _ | .deleted _ _
  | .unlocked _ _ | .closed _ _ | .crash _ => .isTrue trivial

/-- **What a step adds to what is known**: the nonce that its process reads, which it reads
from the owner of the lock, and a request with a nonce that was known. -/
theorem Does.known (h : Does platform x e p y) :
    (∀ q sent seen, (y.process q).phase.known = some (sent, seen) →
      (x.process q).phase.known = some (sent, seen) ∨ seen = x.lockOwner)
      ∧ ∀ r ∈ y.requests, r ∈ x.requests
        ∨ ∃ q, (x.process q).phase.known = some (r.nonce, r.seen) := by
  -- a process that goes on to a phase in which it has no nonce to send
  have hput {z : World Pid} (hz : z.process = x.process) {g : DesktopInstanceGuard Pid}
      (hg : g.phase.known = none ∨ g.phase = (x.process p).phase) (q : Pid) (sent : Text)
      (seen : Option Pid) (hknown : ((z.put p g).process q).phase.known = some (sent, seen)) :
      (x.process q).phase.known = some (sent, seen) ∨ seen = x.lockOwner := by
    by_cases hq : q = p
    · rw [hq, World.process_put] at hknown
      rcases hg with hnone | hsame
      · rw [hnone] at hknown
        exact absurd hknown (by simp)
      · rw [hsame] at hknown
        exact .inl (hq ▸ hknown)
    · rw [World.process_put_of_ne _ _ _ hq, hz] at hknown
      exact .inl hknown
  have hold (r : Request Pid) (hr : r ∈ x.requests) : r ∈ x.requests
      ∨ ∃ q, (x.process q).phase.known = some (r.nonce, r.seen) := .inl hr
  cases h with
  | quiet phase hfrom hto hread =>
    refine ⟨hput rfl (.inl ?_), hold⟩
    show phase.known = none
    cases phase with
    | connecting port nonce seen => exact absurd rfl (hread port nonce seen)
    | _ => rfl
  | reads port nonce hphase =>
    refine ⟨fun q sent seen hknown => ?_, hold⟩
    by_cases hq : q = p
    · rw [hq, World.goes, World.process_put] at hknown
      exact .inr (Prod.mk.inj (Option.some.inj hknown)).2.symm
    · rw [World.goes, World.process_put_of_ne _ _ _ hq] at hknown
      exact .inl hknown
  | sends port nonce seen server hphase =>
    refine ⟨hput rfl (.inl rfl), fun r hr => ?_⟩
    rcases List.mem_append.mp hr with hr | hr
    · exact .inl hr
    · obtain rfl := List.mem_singleton.mp hr
      exact .inr ⟨p, by rw [hphase]; rfl⟩
  | locks hphase hfree => exact ⟨hput rfl (.inl rfl), hold⟩
  | binds port microseconds hphase hfree hevent => exact ⟨hput rfl (.inl rfl), hold⟩
  | unbound hphase => exact ⟨hput rfl (.inl rfl), hold⟩
  | writes length hphase => exact ⟨fun _ _ _ hknown => .inl hknown, hold⟩
  | wrote hphase => exact ⟨hput rfl (.inl rfl), hold⟩
  | unwritten hphase => exact ⟨hput rfl (.inl rfl), hold⟩
  | handles hphase => exact ⟨hput rfl (.inr rfl), hold⟩
  | receives request length r hlistens hr hserver =>
    unfold World.requestReceived
    dsimp only
    split
    · exact ⟨hput rfl (.inr rfl), fun r hr => .inl (List.mem_of_mem_eraseIdx hr)⟩
    · exact ⟨fun _ _ _ hknown => .inl hknown, fun r hr => .inl (List.mem_of_mem_eraseIdx hr)⟩
  | releases hphase =>
    refine ⟨hput rfl (.inl ?_), hold⟩
    dsimp only
    split <;> rfl
  | closesServer hphase => exact ⟨hput rfl (.inl rfl), hold⟩
  | deletes endpoint hphase => exact ⟨hput rfl (.inl rfl), hold⟩
  | unlocks hphase => exact ⟨hput rfl (.inl rfl), hold⟩
  | holdsOn hphase => exact ⟨hput rfl (.inl rfl), hold⟩
  | closes hphase => exact ⟨hput rfl (.inl rfl), hold⟩
  | leaves hphase => exact ⟨hput rfl (.inl rfl), hold⟩
  | crashes => exact ⟨hput rfl (.inl rfl), hold⟩

/-- **What a step does to the nonce and the handler of its process**: it makes a nonce, or
leaves or forgets it; and it calls the handler for a request that has the nonce. -/
theorem Does.focus (h : Does platform x e p y) :
    (∀ n, (y.process p).focusNonce = some n → (x.process p).focusNonce = some n
      ∨ ∃ port microseconds, e = .bound p (some port) microseconds
        ∧ n = nonceOf microseconds (platform.pid p))
      ∧ ((y.process p).focused = (x.process p).focused
        ∨ ∃ r ∈ x.requests, ∃ n, (x.process p).focusNonce = some n ∧ n <+: r.nonce
          ∧ (y.process p).focused = (r.sender, r.seen) :: (x.process p).focused) := by
  have hput {z : World Pid} {g : DesktopInstanceGuard Pid}
      (hn : g.focusNonce = (x.process p).focusNonce ∨ g.focusNonce = none)
      (hfocused : g.focused = (x.process p).focused) :
      (∀ n, ((z.put p g).process p).focusNonce = some n → (x.process p).focusNonce = some n
        ∨ ∃ port microseconds, e = .bound p (some port) microseconds
          ∧ n = nonceOf microseconds (platform.pid p))
        ∧ (((z.put p g).process p).focused = (x.process p).focused
          ∨ ∃ r ∈ x.requests, ∃ n, (x.process p).focusNonce = some n ∧ n <+: r.nonce
            ∧ ((z.put p g).process p).focused = (r.sender, r.seen) :: (x.process p).focused) := by
    rw [World.process_put]
    refine ⟨fun n hsome => .inl ?_, .inl hfocused⟩
    rcases hn with hsame | hnone
    · rw [← hsame, hsome]
    · rw [hnone] at hsome
      exact absurd hsome (by simp)
  cases h with
  | quiet phase hfrom hto hread => exact hput (.inl rfl) rfl
  | reads port nonce hphase => exact hput (.inl rfl) rfl
  | sends port nonce seen server hphase => exact hput (.inl rfl) rfl
  | locks hphase hfree => exact hput (.inl rfl) rfl
  | binds port microseconds hphase hfree hevent =>
    rw [World.process_put]
    exact ⟨fun n hn => .inr ⟨port, microseconds, hevent, (Option.some.inj hn).symm⟩, .inl rfl⟩
  | unbound hphase => exact hput (.inl rfl) rfl
  | writes length hphase => exact ⟨fun n hn => .inl hn, .inl rfl⟩
  | wrote hphase => exact hput (.inl rfl) rfl
  | unwritten hphase => exact hput (.inl rfl) rfl
  | handles hphase => exact hput (.inl rfl) rfl
  | receives request length r hlistens hr hserver =>
    unfold World.requestReceived
    dsimp only
    split
    · rename_i hcalls
      rw [World.process_put]
      refine ⟨fun n hn => .inl hn, .inr ⟨r, List.mem_of_getElem? hr, ?_⟩⟩
      have hrequest := (Bool.and_eq_true_iff.mp hcalls).1
      cases hn : (x.process p).focusNonce with
      | none =>
        rw [hn, isRequest_none] at hrequest
        exact absurd hrequest Bool.false_ne_true
      | some n =>
        rw [hn] at hrequest
        exact ⟨n, rfl, prefix_of_isRequest hrequest, rfl⟩
    · exact ⟨fun n hn => .inl hn, .inl rfl⟩
  | releases hphase => exact hput (.inr rfl) rfl
  | closesServer hphase => exact hput (.inl rfl) rfl
  | deletes endpoint hphase => exact hput (.inl rfl) rfl
  | unlocks hphase => exact hput (.inl rfl) rfl
  | holdsOn hphase => exact hput (.inl rfl) rfl
  | closes hphase => exact hput (.inl rfl) rfl
  | leaves hphase => exact hput (.inl rfl) rfl
  | crashes => exact hput (.inr rfl) rfl

/-- **The processes and their requests.** -/
structure Asked (platform : Platform Pid) (x : World Pid) : Prop where
  tenure : ∀ p, Tenure platform x p
  owned : ∀ p n, (x.process p).focusNonce = some n → OwnedBy x p n
  focused : ∀ p, ∀ f ∈ (x.process p).focused, f.2 = some p

/-- **One step**, if the nonce that it makes is fresh. -/
theorem Asked.step (hx : Asked platform x) (h : World.step platform x e = some y)
    (hfresh : IsFresh platform x e) : Asked platform y := by
  have hdoes := does_of_step h
  have hspares := hdoes.spares (hx.tenure _).holder
  obtain ⟨hknown, hrequests⟩ := hdoes.known
  obtain ⟨hnonces, hcalls⟩ := hdoes.focus
  -- a nonce that was there is still owned
  have howned (p : Pid) (n : Text) (hn : (x.process p).focusNonce = some n) : OwnedBy y p n := by
    obtain ⟨hphases, hsent⟩ := hx.owned p n hn
    have howner := (hx.tenure p).holder
      (Phase.holds_of_servesFocus ((hx.tenure p).nonce n hn).1)
    refine ⟨fun q sent seen hq hprefix => ?_, fun r hr hprefix => ?_⟩
    · rcases hknown q sent seen hq with hold | rfl
      · exact hphases q sent seen hold hprefix
      · exact howner
    · rcases hrequests r hr with hold | ⟨q, hq⟩
      · exact hsent r hold hprefix
      · exact hphases q _ _ hq hprefix
  refine ⟨tenure_step hx.tenure h, fun p n hn => ?_, fun p f hf => ?_⟩
  · by_cases hp : p = e.process
    · rw [hp] at hn
      rcases hnonces n hn with hold | ⟨port, microseconds, hevent, rfl⟩
      · exact hp ▸ howned _ n hold
      · rw [← hp] at hevent
        rw [hevent] at hfresh h
        obtain ⟨hphase, -⟩ := Option.ite_none_right_eq_some.mp h
        obtain ⟨hunknown, hunsent⟩ := hfresh
        have hnobody {q : Pid} {sent : Text} {seen : Option Pid}
            (hq : (x.process q).phase.known = some (sent, seen)) :
            ¬ nonceOf microseconds (platform.pid p) <+: sent := by
          have hnot := hunknown q
          rw [hq] at hnot
          exact of_decide_eq_false hnot
        rw [← hp]
        refine ⟨fun q sent seen hq hprefix => ?_, fun r hr hprefix => ?_⟩
        · rcases hknown q sent seen hq with hold | rfl
          · exact absurd hprefix (hnobody hold)
          · exact (hx.tenure p).holder (by rw [hphase]; rfl)
        · rcases hrequests r hr with hold | ⟨q, hq⟩
          · exact absurd hprefix (hunsent r hold)
          · exact absurd hprefix (hnobody hq)
    · rw [hspares.process p hp] at hn
      exact howned p n hn
  · by_cases hp : p = e.process
    · rw [hp] at hf ⊢
      rcases hcalls with hsame | ⟨r, hr, n, hn, hprefix, hcons⟩
      · exact hx.focused _ f (hsame ▸ hf)
      · rw [hcons] at hf
        rcases List.mem_cons.mp hf with rfl | hf
        · exact (hx.owned _ n hn).2 r hr hprefix
        · exact hx.focused _ f hf
    · rw [hspares.process p hp] at hf
      exact hx.focused p f hf

/-- **A request is served by the instance that was meant**, if every nonce is fresh when it
is made: the process that has sent it has read the nonce while the one that serves it had
the lock, and not from a file that was left behind. -/
theorem focused_by_own {endpoint : Option Text} {es : List (Event Pid)}
    (hfresh : Machine.Along (World.step platform) (IsFresh platform) (World.initial endpoint) es)
    (h : Machine.run (World.step platform) (World.initial endpoint) es = some y) {p : Pid}
    {sender : Pid} {seen : Option Pid} (hf : (sender, seen) ∈ (y.process p).focused) :
    seen = some p := by
  have hasked : Asked platform y := by
    refine Machine.run_invariant_along (P := Asked platform)
      (fun x e z hx hnow hstep => hx.step hstep hnow) ?_ hfresh h
    refine ⟨tenure_initial endpoint, fun p n hn => ?_, fun p f hf => ?_⟩
    · exact absurd hn (by simp [World.initial])
    · exact absurd hf List.not_mem_nil
  exact hasked.focused p _ hf

/-- What a process that is started beside a primary instance goes through. -/
def secondEvents (q : Pid) : List (Event Pid) :=
  [.tryAcquirePrimaryLock q, .opened q false, .locked q true, .closedRefused q, .looked q,
    .read q, .connected q true]

/-- The second process has the window of the first one shown. -/
theorem focused_by_own_of_two :
    ∃ y, Machine.run (World.step sampleDesktop) (World.initial none)
        (startEvents 0 ++ (secondEvents 1 ++ [.received 0 0 256])) = some y
      ∧ ∃ seen, (1, seen) ∈ (y.process 0).focused ∧ seen = some 0 := by
  have hfresh : Machine.Along (World.step sampleDesktop) (IsFresh sampleDesktop)
      (World.initial none) (startEvents 0 ++ (secondEvents 1 ++ [.received 0 0 256])) := by
    decide +kernel
  have hany : (Machine.run (World.step sampleDesktop) (World.initial none)
      (startEvents 0 ++ (secondEvents 1 ++ [.received 0 0 256]))).any (fun y =>
        decide ((1, some 0) ∈ (y.process 0).focused)) = true := by
    decide +kernel
  obtain ⟨y, hy, hserved⟩ := (Option.any_eq_true _ _).mp hany
  exact ⟨y, hy, _, of_decide_eq_true hserved,
    focused_by_own hfresh hy (of_decide_eq_true hserved)⟩

/-! ## A second instance -/

theorem goes_goes (x : World Pid) (p : Pid) (a b : Phase Pid) :
    (x.goes p a).goes p b = x.goes p b := by
  simp [World.goes, World.put, Function.update_idem]

theorem phase_goes (x : World Pid) (p : Pid) (a : Phase Pid) :
    ((x.goes p a).process p).phase = a := by
  rw [World.goes, World.process_put]

/-- **A process that is started beside the owner of the lock** reads the endpoint file, and
sends the owner its nonce. -/
theorem run_secondEvents {port : ℕ} {nonce : Text} (hq : (y.process q).phase = .apart)
    (howner : y.lockOwner = some p) (hserver : y.server port = some p)
    (hendpoint : y.endpoint = some (endpointOf port nonce))
    (hread : parseEndpoint platform.parseInt (endpointOf port nonce) = some ((port : ℤ), nonce)) :
    Machine.run (World.step platform) y (secondEvents q)
      = some ({ y with requests := y.requests ++ [Request.mk q p nonce (some p)] }.goes q
        .secondary) := by
  have hcall : World.step platform y (.tryAcquirePrimaryLock q) = some (y.goes q .opening) :=
    if_pos hq
  have hopen : World.step platform (y.goes q .opening) (.opened q false)
      = some (y.goes q .locking) := by
    rw [← goes_goes y q .opening .locking]
    exact if_pos (phase_goes _ _ _)
  have hlock : World.step platform (y.goes q .locking) (.locked q true)
      = some (y.goes q .refused) := by
    rw [← goes_goes y q .locking .refused]
    refine (if_pos (phase_goes _ _ _)).trans ?_
    have howner' : (y.goes q .locking).lockOwner = some p := howner
    rw [World.lockReturned, howner']
    rfl
  have hclose : World.step platform (y.goes q .refused) (.closedRefused q)
      = some (y.goes q .looking) := by
    rw [← goes_goes y q .refused .looking]
    exact if_pos (phase_goes _ _ _)
  have hlook : World.step platform (y.goes q .looking) (.looked q)
      = some (y.goes q .reading) := by
    rw [← goes_goes y q .looking .reading]
    refine (if_pos (phase_goes _ _ _)).trans ?_
    have hthere : (y.goes q .looking).endpoint.isSome = true := by
      show y.endpoint.isSome = true
      rw [hendpoint]
      rfl
    rw [if_pos hthere]
  have hreads : World.step platform (y.goes q .reading) (.read q)
      = some (y.goes q (.connecting port nonce (some p))) := by
    rw [← goes_goes y q .reading (.connecting port nonce (some p))]
    refine (if_pos (phase_goes _ _ _)).trans ?_
    have hcontent : (y.goes q .reading).endpoint = some (endpointOf port nonce) := hendpoint
    have howner' : (y.goes q .reading).lockOwner = some p := howner
    rw [hcontent]
    dsimp only
    rw [hread, howner']
  have hconnect : World.step platform (y.goes q (.connecting port nonce (some p)))
        (.connected q true)
      = some ({ y with requests := y.requests ++ [Request.mk q p nonce (some p)] }.goes q
        .secondary) := by
    have hthere : (y.goes q (.connecting port nonce (some p))).server port = some p := hserver
    rw [← goes_goes _ q (.connecting port nonce (some p)) .secondary]
    unfold World.step
    dsimp only
    rw [phase_goes]
    dsimp only
    rw [World.connectReturned, Int.toNat_natCast, hthere, if_neg (by simp), if_neg (by omega)]
    rfl
  exact Machine.run_cons.mpr ⟨_, hcall, Machine.run_cons.mpr ⟨_, hopen, Machine.run_cons.mpr
    ⟨_, hlock, Machine.run_cons.mpr ⟨_, hclose, Machine.run_cons.mpr ⟨_, hlook,
      Machine.run_cons.mpr ⟨_, hreads, Machine.run_cons.mpr ⟨_, hconnect, rfl⟩⟩⟩⟩⟩⟩⟩

/-- **A second instance shows the window of the first.** In every state that a run reaches
in which a primary instance listens, has its handler, and has made a nonce that fits, a
process that has not been started can be started, and if nothing comes in between it exits
and the handler of the primary instance is called for it. -/
theorem second_instance_focuses {endpoint : Option Text} {es : List (Event Pid)}
    (hparse : ∀ port : ℕ, platform.parseInt (toRadixString 10 port) = some (port : ℤ))
    (h : Machine.run (World.step platform) (World.initial endpoint) es = some y)
    (hprimary : (y.process p).phase = .primary) (hlistens : (y.process p).listens = true)
    (hhandler : (y.process p).focusRequestHandler = true)
    (hshort : ∀ n, (y.process p).focusNonce = some n → n.length ≤ 250)
    (hq : (y.process q).phase = .apart) :
    ∃ z, Machine.run (World.step platform) y
        (secondEvents q ++ [.received p y.requests.length 256]) = some z
      ∧ (z.process q).phase = .secondary
      ∧ (z.process p).focused = (q, some p) :: (y.process p).focused := by
  have hp := tenure_run h p
  have howner : y.lockOwner = some p := hp.holder (by rw [hprimary]; rfl)
  obtain ⟨port, n, hport, hn, hendpoint⟩ := hp.serves hprimary hlistens
  obtain ⟨-, microseconds, hnonce⟩ := hp.nonce n hn
  have hne : p ≠ q := by
    rintro rfl
    rw [hprimary] at hq
    exact absurd hq (by simp)
  have hasked := run_secondEvents hq howner (hp.server port hport).1 hendpoint
    (by rw [hnonce]; exact parseEndpoint_endpointOf (hparse port))
  have hrequest : isRequest (some n) ((messageOf n).take 256) = true := by
    have hlength := hshort n hn
    have hfits : (messageOf n).length ≤ 256 := by
      have hfive : (Text.ofString "focus").length = 5 := by decide
      rw [messageOf, List.length_append, List.length_append, hfive, List.length_singleton]
      omega
    rw [List.take_of_length_le hfits]
    rw [hnonce] at hlength ⊢
    exact isRequest_messageOf hlength
  obtain ⟨u, hu⟩ : ∃ u : World Pid, u = { y with
      requests := y.requests ++ [Request.mk q p n (some p)] }.goes q .secondary := ⟨_, rfl⟩
  have hprocess : u.process p = y.process p := by
    rw [hu, World.goes, World.process_put_of_ne _ _ _ hne]
  have hphase : (u.process q).phase = .secondary := by
    rw [hu, phase_goes]
  have hthere : u.requests[y.requests.length]? = some (Request.mk q p n (some p)) := by
    rw [hu]
    exact List.getElem?_concat_length
  have hreceived : World.step platform u (.received p y.requests.length 256)
      = some ({ u with requests := u.requests.eraseIdx y.requests.length }.put p
        { u.process p with focused := (q, some p) :: (u.process p).focused }) := by
    refine (if_pos (by rw [hprocess, hlistens])).trans ?_
    rw [hthere]
    dsimp only
    rw [if_pos rfl, World.requestReceived]
    dsimp only
    rw [if_pos (by rw [hprocess, hn, hrequest, hhandler]; rfl)]
  refine ⟨_, Machine.run_concat.mpr ⟨u, hu ▸ hasked, hreceived⟩, ?_, ?_⟩
  · rw [World.process_put_of_ne _ _ _ hne.symm]
    exact hphase
  · rw [World.process_put]
    show _ :: (u.process p).focused = _
    rw [hprocess]

theorem second_instance_focuses_of_two :
    ∃ y z, Machine.run (World.step sampleDesktop) (World.initial none) (startEvents 0) = some y
      ∧ Machine.run (World.step sampleDesktop) y
        (secondEvents 1 ++ [.received 0 y.requests.length 256]) = some z
      ∧ (z.process 1).phase = .secondary
      ∧ (z.process 0).focused = (1, some 0) :: (y.process 0).focused := by
  have hany : (Machine.run (World.step sampleDesktop) (World.initial none)
      (startEvents 0)).any (fun y =>
        decide ((y.process 0).phase = .primary ∧ (y.process 0).listens = true
          ∧ (y.process 0).focusRequestHandler = true
          ∧ (∀ n ∈ (y.process 0).focusNonce, n.length ≤ 250)
          ∧ (y.process 1).phase = .apart)) = true := by
    decide +kernel
  obtain ⟨y, hy, hready⟩ := (Option.any_eq_true _ _).mp hany
  obtain ⟨hprimary, hlistens, hhandler, hshort, hq⟩ := of_decide_eq_true hready
  obtain ⟨z, hz⟩ := second_instance_focuses parseDigits_toRadixString hy hprimary hlistens hhandler
    (fun n hn => hshort n hn) hq
  exact ⟨y, z, hy, hz⟩

end DesktopInstanceGuard
