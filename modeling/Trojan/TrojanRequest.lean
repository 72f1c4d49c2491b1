import Trojan.Socks5Address

/-!
# Trojan requests

The first bytes a client sends through the tunnel (`proto/trojanrequest.cpp`):
a password, `CRLF`, a command byte, a SOCKS5 address, `CRLF`, and then whatever
the client wants relayed. `TrojanRequest.parse` keeps the source's in-place
updates, so the object it leaves behind on a failure is the one the source
leaves behind.

What a successful parse has found is a *header* – everything up to the second
`CRLF` – and the bytes after it, and nothing is lost or moved between the two
(`TrojanRequest.eq_header_append_of_parse`). Conversely every header is parsed,
and so headers are what the grammar of requests is about
(`TrojanRequest.request_grammar`).
-/

/-- The position of the first `CRLF`: `find("\r\n")`. -/
def findCrlf : Bytes → Option ℕ
  | [] => none
  | b :: rest =>
    if b = 13 ∧ rest.head? = some 10 then some 0 else (findCrlf rest).map (· + 1)

/-- What is found is a `CRLF`. -/
theorem eq_append_crlf_of_findCrlf {data : Bytes} {i : ℕ} (h : findCrlf data = some i) :
    data = data.take i ++ (crlf ++ data.drop (i + 2)) := by
  induction data generalizing i with
  | nil => exact absurd h (by simp [findCrlf])
  | cons b rest ih =>
    unfold findCrlf at h
    split at h
    · rename_i hb
      obtain ⟨rfl, hhead⟩ := hb
      obtain ⟨tail, rfl⟩ := List.head?_eq_some_iff.mp hhead
      rw [← Option.some.inj h]
      rfl
    · obtain ⟨j, hj, rfl⟩ := Option.map_eq_some_iff.mp h
      exact congrArg (b :: ·) (ih hj)

namespace TrojanRequest

/-- The commands of a request. -/
inductive Command where
  | connect
  | udpAssociate
  deriving DecidableEq, Repr

namespace Command

/-- The byte of a command. -/
def byte : Command → UInt8
  | connect => 1
  | udpAssociate => 3

/-- The command byte `1` or `3`. -/
def ofByte (b : UInt8) : Option Command :=
  if b = 1 then some connect else if b = 3 then some udpAssociate else none

theorem byte_of_ofByte {b : UInt8} {c : Command} (h : ofByte b = some c) : b = c.byte := by
  unfold ofByte at h
  split at h
  · rename_i h1
    rw [h1, ← Option.some.inj h, byte]
  · split at h
    · rename_i h3
      rw [h3, ← Option.some.inj h, byte]
    · exact absurd h (by simp)

end Command

end TrojanRequest

/-- A Trojan request object. `TrojanRequest()` is zero-initialised, so its
command is neither of the two. -/
structure TrojanRequest where
  password : Bytes := []
  command : Option TrojanRequest.Command := none
  address : SOCKS5Address := {}
  payload : Bytes := []
  deriving DecidableEq

namespace TrojanRequest

/-- **`TrojanRequest::parse`**: the object as the call leaves it, and the
returned length, `none` being `-1`. -/
def parse (self : TrojanRequest) (data : Bytes) : TrojanRequest × Option ℕ :=
  match findCrlf data with
  | none => (self, none)
  | some first =>
    let self := { self with password := data.take first, payload := data.drop (first + 2) }
    match self.payload.head?.bind Command.ofByte with
    | none => (self, none)
    | some command =>
      let self := { self with command := some command }
      match self.address.parse (self.payload.drop 1) with
      | (address, none) => ({ self with address := address }, none)
      | (address, some addressLen) =>
        let self := { self with address := address }
        if self.payload.length < addressLen + 3
            ∨ (self.payload.drop (addressLen + 1)).take 2 ≠ crlf then (self, none)
        else ({ self with payload := self.payload.drop (addressLen + 3) }, some data.length)

/-- **`TrojanRequest::generate`**. -/
def generate (password domainname : Bytes) (port : UInt16) (tcp : Bool) : Bytes :=
  password ++ crlf ++ [if tcp then 1 else 3] ++ [3, UInt8.ofNat domainname.length]
    ++ domainname ++ wordBytes port.toNat ++ crlf

/-- **The header of a request**: everything the parser reads before the bytes
to be relayed. -/
def header (password : Bytes) (command : Command) (host : Host) (port : UInt16) : Bytes :=
  password ++ crlf ++ [command.byte] ++ host.wire port ++ crlf

/-- **A parsed request is its header and what follows it.** The parser finds a
password, a command, a complete address and two `CRLF`s; the payload is every
byte behind the second one. -/
theorem eq_header_append_of_parse {self request : TrojanRequest} {data : Bytes} {n : ℕ}
    (h : self.parse data = (request, some n)) :
    ∃ command host port,
      data = header request.password command host port ++ request.payload
        ∧ request.command = some command
        ∧ request.address = SOCKS5Address.ofHost host port ∧ n = data.length := by
  unfold parse at h
  split at h
  · exact absurd (Prod.mk.inj h).2 (by simp)
  rename_i first hfirst
  have hdata := eq_append_crlf_of_findCrlf hfirst
  dsimp only at h
  split at h
  · exact absurd (Prod.mk.inj h).2 (by simp)
  rename_i command hcommand
  split at h
  · exact absurd (Prod.mk.inj h).2 (by simp)
  rename_i address addressLen haddr
  split at h
  · exact absurd (Prod.mk.inj h).2 (by simp)
  rename_i hok
  obtain ⟨rfl, hn⟩ := Prod.mk.inj h
  obtain ⟨-, hcrlf⟩ := not_or.mp hok
  generalize hp : data.drop (first + 2) = payload at *
  cases payload with
  | nil => exact absurd hcommand (by simp)
  | cons b rest =>
    obtain ⟨host, port, tail, hrest, rfl, rfl⟩ := SOCKS5Address.exists_wire_of_parse haddr
    refine ⟨command, host, port, ?_, rfl, rfl, (Option.some.inj hn).symm⟩
    have hb : b = command.byte := Command.byte_of_ofByte hcommand
    have hr : rest = host.wire port ++ tail := hrest
    subst hr hb
    -- behind the address the parser has checked for `CRLF`
    have htail : tail = crlf ++ tail.drop 2 := by
      rw [← not_not.mp hcrlf, List.drop_succ_cons, List.drop_left, List.take_append_drop]
    simp only [List.drop_succ_cons, List.drop_length_add_append]
    calc data = data.take first ++ (crlf ++ command.byte :: (host.wire port ++ tail)) := hdata
      _ = data.take first
            ++ (crlf ++ command.byte :: (host.wire port ++ (crlf ++ tail.drop 2))) := by
          rw [← htail]
      _ = header (data.take first) command host port ++ tail.drop 2 := by
          simp only [header, List.append_assoc, List.cons_append, List.nil_append]

end TrojanRequest

/-! ## The grammar of requests -/

/-- A string without `CRLF`, which may still end in `CR`. -/
def CrlfFree (bytes : Bytes) : Prop := ¬ crlf <:+: bytes

instance (bytes : Bytes) : Decidable (CrlfFree bytes) :=
  inferInstanceAs (Decidable (¬ crlf <:+: bytes))

theorem CrlfFree.tail {b : UInt8} {bytes : Bytes} (h : CrlfFree (b :: bytes)) : CrlfFree bytes :=
  fun hwithin => h (hwithin.trans (List.suffix_cons b bytes).isInfix)

/-- **The first `CRLF` behind a string without `CRLF` is the one that follows
it**, also if the string ends in `CR`. -/
theorem findCrlf_append {pw : Bytes} (h : CrlfFree pw) (rest : Bytes) :
    findCrlf (pw ++ (crlf ++ rest)) = some pw.length := by
  induction pw with
  | nil => rfl
  | cons b pw ih =>
    have hnot : ¬ (b = 13 ∧ (pw ++ (crlf ++ rest)).head? = some 10) := by
      rintro ⟨rfl, hhead⟩
      cases pw with
      | nil => exact absurd hhead (by simp [crlf])
      | cons c pw =>
        obtain rfl : c = 10 := Option.some.inj hhead
        exact h ⟨[], pw, rfl⟩
    rw [List.cons_append, findCrlf, if_neg hnot, ih h.tail]
    rfl

/-- What is before the first `CRLF` has none. -/
theorem crlfFree_take_of_findCrlf {data : Bytes} {i : ℕ} (h : findCrlf data = some i) :
    CrlfFree (data.take i) := by
  induction data generalizing i with
  | nil => exact absurd h (by simp [findCrlf])
  | cons b rest ih =>
    unfold findCrlf at h
    split at h
    · rw [← Option.some.inj h]
      exact fun hwithin => absurd (List.infix_nil.mp hwithin) (by simp [crlf])
    · rename_i hnot
      obtain ⟨j, hj, rfl⟩ := Option.map_eq_some_iff.mp h
      intro hwithin
      rw [List.take_succ_cons, List.infix_cons_iff] at hwithin
      rcases hwithin with ⟨tail, htail⟩ | hwithin
      · -- a `CRLF` at the very front would have been found there
        obtain ⟨hb, hrest⟩ := List.cons.inj htail
        refine hnot ⟨hb.symm, ?_⟩
        have hhead : (rest.take j).head? = some 10 := by rw [← hrest]; rfl
        rw [List.head?_take] at hhead
        split at hhead
        · exact absurd hhead (by simp)
        · exact hhead
      · exact ih hj hwithin

namespace TrojanRequest

theorem Command.ofByte_byte (c : Command) : ofByte c.byte = some c := by
  cases c <;> rfl

/-- The password a parse has found has no `CRLF`. -/
theorem crlfFree_password_of_parse {self request : TrojanRequest} {data : Bytes} {n : ℕ}
    (h : self.parse data = (request, some n)) : CrlfFree request.password := by
  unfold parse at h
  split at h
  · exact absurd (Prod.mk.inj h).2 (by simp)
  rename_i first hfirst
  dsimp only at h
  split at h
  · exact absurd (Prod.mk.inj h).2 (by simp)
  split at h
  · exact absurd (Prod.mk.inj h).2 (by simp)
  split at h
  · exact absurd (Prod.mk.inj h).2 (by simp)
  obtain ⟨rfl, -⟩ := Prod.mk.inj h
  exact crlfFree_take_of_findCrlf hfirst

/-- **A header is parsed to its parts**, and what follows it is the payload. -/
theorem parse_header_append (self : TrojanRequest) {password : Bytes} (h : CrlfFree password)
    (command : Command) (host : Host) (port : UInt16) (payload : Bytes) :
    self.parse (header password command host port ++ payload)
      = (⟨password, some command, SOCKS5Address.ofHost host port, payload⟩,
        some (header password command host port ++ payload).length) := by
  have hbytes : header password command host port ++ payload
      = password ++ (crlf ++ (command.byte :: (host.wire port ++ (crlf ++ payload)))) := by
    simp only [header, List.append_assoc, List.cons_append, List.nil_append]
  have hdrop : (password ++ (crlf ++ (command.byte :: (host.wire port ++ (crlf ++ payload))))).drop
      (password.length + 2) = command.byte :: (host.wire port ++ (crlf ++ payload)) := by
    rw [List.drop_length_add_append]
    rfl
  rw [hbytes, parse, findCrlf_append h]
  dsimp only
  rw [List.take_left, hdrop, List.head?_cons, Option.bind_some, Command.ofByte_byte]
  dsimp only
  rw [List.drop_succ_cons, List.drop_zero, SOCKS5Address.parse_wire]
  dsimp only
  rw [List.drop_succ_cons, List.drop_left, List.drop_succ_cons, List.drop_length_add_append,
    if_neg]
  · rfl
  · rintro (hshort | hcrlf)
    · simp only [List.length_cons, List.length_append, crlf, List.length_nil] at hshort
      omega
    · exact hcrlf rfl

/-- What `generate` writes is the header of a request for a domain. -/
theorem generate_eq_header (password : Bytes) {domainname : Bytes} (hpos : 1 ≤ domainname.length)
    (hshort : domainname.length ≤ 255) (port : UInt16) (tcp : Bool) :
    generate password domainname port tcp
      = header password (if tcp then .connect else .udpAssociate)
        (.domain domainname hpos hshort) port := by
  cases tcp with
  | true => simp [generate, header, Host.wire, Host.header, Command.byte]
  | false => simp [generate, header, Host.wire, Host.header, Command.byte]

/-- **The grammar of Trojan requests, and the round trip.** A byte string is
parsed exactly when it is the header of a request – a password without `CRLF`,
so that the `CRLF` behind it is the first, a command, a complete address,
`CRLF` – and any bytes behind it; the request then has exactly these parts. And
what `generate` writes for a domain, followed by any bytes, is parsed to its
arguments and these bytes. -/
theorem request_grammar (self : TrojanRequest) :
    (∀ data, (self.parse data).2.isSome = true ↔
      ∃ password command host port payload, CrlfFree password
        ∧ data = header password command host port ++ payload)
      ∧ (∀ password command host port payload, CrlfFree password →
        self.parse (header password command host port ++ payload)
          = (⟨password, some command, SOCKS5Address.ofHost host port, payload⟩,
            some (header password command host port ++ payload).length))
      ∧ ∀ password domainname port tcp payload, CrlfFree password →
        1 ≤ domainname.length → domainname.length ≤ 255 →
        (self.parse (generate password domainname port tcp ++ payload)).1
            = ⟨password, some (if tcp then .connect else .udpAssociate),
              ⟨some .domainname, domainname, port⟩, payload⟩
          ∧ (self.parse (generate password domainname port tcp ++ payload)).2.isSome = true := by
  refine ⟨fun data => ⟨fun h => ?_, ?_⟩, ?_, ?_⟩
  · obtain ⟨n, hn⟩ := Option.isSome_iff_exists.mp h
    have hparse : self.parse data = ((self.parse data).1, some n) := Prod.ext rfl hn
    obtain ⟨command, host, port, hdata, -⟩ := eq_header_append_of_parse hparse
    exact ⟨_, command, host, port, _, crlfFree_password_of_parse hparse, hdata⟩
  · rintro ⟨password, command, host, port, payload, hfree, rfl⟩
    rw [parse_header_append self hfree]
    rfl
  · intro password command host port payload hfree
    exact parse_header_append self hfree command host port payload
  · intro password domainname port tcp payload hfree hpos hshort
    rw [generate_eq_header password hpos hshort, parse_header_append self hfree]
    exact ⟨rfl, rfl⟩

/-- A request with a password that ends in `CR`, for the domain `a`. -/
theorem request_grammar_domain :
    (({} : TrojanRequest).parse (generate [112, 13] [97] 80 true ++ [1, 2])).1
      = ⟨[112, 13], some .connect, ⟨some .domainname, [97], 80⟩, [1, 2]⟩ :=
  ((request_grammar {}).2.2 [112, 13] [97] 80 true [1, 2] (by decide) (by decide)
    (by decide)).1

end TrojanRequest
