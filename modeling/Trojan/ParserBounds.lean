import Trojan.ClientSession
import Trojan.Util.Views

/-!
# The parsers and the ends of their views

The parsers of the protocol get views of bytes that came from the network, and the
models of them in `Trojan.Socks5Address`, `Trojan.UdpPacket` and `Trojan.TrojanRequest`
say what they make of these bytes, with a zero for a byte that is not there. Here every
read of the source is made in the order of the source, and one outside its view is a
fault.

Where there is no fault the two agree, so the zeros are never seen. The one read that is
made before its bound is checked is that of the length of a domain: a view that ends
behind the type of the address is read past its end. Each parser has the inputs that end
so, and no others (`parsers_stayInside_iff`).
-/

open Views

namespace SOCKS5Address

/-- **`SOCKS5Address::parse`**, with its reads. -/
def parseChecked (self : SOCKS5Address) (data : Bytes) : Checked (SOCKS5Address × Option ℕ) :=
  if data.length = 0 then .ok (self, none)
  else do
    let type ← read data 0
    match AddressType.ofByte type with
    | none => .ok (self, none)
    | some .ipv4 =>
      let self := { self with addressType := some .ipv4 }
      if data.length > 4 + 2 then do
        let bytes ← readRange data 1 4
        let hi ← read data 5
        let lo ← read data 6
        .ok ({ self with address := dotted bytes, port := UInt16.ofNat (word hi lo) },
          some (1 + 4 + 2))
      else .ok (self, none)
    | some .domainname => do
      let self := { self with addressType := some .domainname }
      -- the other types check the length of the view first
      let domainLen ← read data 1
      -- invalid domain len
      if domainLen.toNat = 0 then .ok (self, none)
      else if data.length > 1 + domainLen.toNat + 2 then do
        let name ← substr data 2 domainLen.toNat
        let hi ← read data (domainLen.toNat + 2)
        let lo ← read data (domainLen.toNat + 3)
        .ok ({ self with address := name, port := UInt16.ofNat (word hi lo) },
          some (1 + 1 + domainLen.toNat + 2))
      else .ok (self, none)
    | some .ipv6 =>
      let self := { self with addressType := some .ipv6 }
      if data.length > 16 + 2 then do
        let bytes ← readRange data 1 16
        let hi ← read data 17
        let lo ← read data 18
        .ok ({ self with address := colonHex bytes, port := UInt16.ofNat (word hi lo) },
          some (1 + 16 + 2))
      else .ok (self, none)

/-- The view that ends behind the type of a domain is read past its end. -/
theorem parseChecked_type (self : SOCKS5Address) :
    self.parseChecked [3] = .error (.outside 1 1) := rfl

/-- **Any other view is read as far as it goes**, and what is made of it is what `parse`
makes of it. -/
theorem parseChecked_eq (self : SOCKS5Address) {data : Bytes} (h : data ≠ [3]) :
    self.parseChecked data = .ok (self.parse data) := by
  cases data with
  | nil => rfl
  | cons type rest =>
    unfold parseChecked parse
    rw [if_neg (by simp), read_cons_zero, ok_bind, List.head?_cons, Option.bind_some]
    cases htype : AddressType.ofByte type with
    | none => rfl
    | some ty =>
      cases ty with
      | ipv4 =>
        dsimp only
        split
        · rename_i hlong
          rw [readRange_eq (by omega), read_eq_getD (by omega) 0, read_eq_getD (by omega) 0]
          rfl
        · rfl
      | domainname =>
        dsimp only
        -- a domain that is not the whole view has a byte behind its type
        have hpresent : 1 < (type :: rest).length := by
          refine Nat.lt_of_le_of_ne (Nat.succ_pos _) (fun hone => h ?_)
          obtain ⟨rest', hcons⟩ := AddressType.exists_cons_of_ofByte
            (show (type :: rest).head?.bind AddressType.ofByte = _ from htype)
          obtain rfl := List.eq_nil_of_length_eq_zero (Nat.succ.inj hone.symm)
          exact congrArg (fun b => [b]) (List.cons.inj hcons).1
        rw [read_eq_getD hpresent 0, ok_bind]
        split
        · rfl
        · split
          · rename_i hlong
            rw [substr_eq (by omega), read_eq_getD (by omega) 0, read_eq_getD (by omega) 0]
            rfl
          · rfl
      | ipv6 =>
        dsimp only
        split
        · rename_i hlong
          rw [readRange_eq (by omega), read_eq_getD (by omega) 0, read_eq_getD (by omega) 0]
          rfl
        · rfl

/-- A complete address lies inside the view. -/
theorem le_length_of_parse {self x : SOCKS5Address} {data : Bytes} {n : ℕ}
    (h : self.parse data = (x, some n)) : n ≤ data.length := by
  obtain ⟨host, port, rest, rfl, -, rfl⟩ := SOCKS5Address.exists_wire_of_parse h
  rw [List.length_append]
  exact Nat.le_add_right _ _

theorem staysInside_parseChecked_iff (self : SOCKS5Address) (data : Bytes) :
    StaysInside (self.parseChecked data) ↔ data ≠ [3] :=
  staysInside_iff (fun h => h ▸ self.parseChecked_type) self.parseChecked_eq

end SOCKS5Address

namespace UDPPacket

/-- **`UDPPacket::parse`**, with its reads. -/
def parseChecked (self : UDPPacket) (data : Bytes) : Checked (UDPPacket × Option ℕ) :=
  if data.length ≤ 0 then .ok (self, none)
  else do
    let (address, addressLen) ← self.address.parseChecked data
    let self := { self with address := address }
    match addressLen with
    | none => .ok (self, none)
    | some addressLen =>
      if data.length < addressLen + 2 then .ok (self, none)
      else do
        let hi ← read data addressLen
        let lo ← read data (addressLen + 1)
        let self := { self with length := word hi lo }
        if data.length < addressLen + 4 + self.length then .ok (self, none)
        else do
          let mark ← substr data (addressLen + 2) 2
          if mark ≠ crlf then .ok (self, none)
          else do
            let payload ← substr data (addressLen + 4) self.length
            .ok ({ self with payload := payload }, some (addressLen + 4 + self.length))

theorem parseChecked_type (self : UDPPacket) :
    self.parseChecked [3] = .error (.outside 1 1) := rfl

/-- **Behind the address nothing is read unchecked.** -/
theorem parseChecked_eq (self : UDPPacket) {data : Bytes} (h : data ≠ [3]) :
    self.parseChecked data = .ok (self.parse data) := by
  unfold parseChecked parse
  rw [self.address.parseChecked_eq h, ok_bind]
  split
  · rfl
  obtain ⟨address, addressLen⟩ := self.address.parse data
  cases addressLen with
  | none => rfl
  | some addressLen =>
    dsimp only
    split
    · rfl
    rename_i hlength
    rw [read_eq_getD (by omega) 0, ok_bind, read_eq_getD (by omega) 0, ok_bind]
    split
    · rename_i hshort
      rw [if_pos (.inl hshort)]
    · rename_i hroom
      rw [substr_eq (by omega), ok_bind]
      split
      · rename_i hmark
        rw [if_pos (.inr hmark)]
      · rename_i hmark
        rw [substr_eq (by omega), ok_bind, if_neg (not_or.mpr ⟨hroom, hmark⟩)]

theorem staysInside_parseChecked_iff (self : UDPPacket) (data : Bytes) :
    StaysInside (self.parseChecked data) ↔ data ≠ [3] :=
  staysInside_iff (fun h => h ▸ self.parseChecked_type) self.parseChecked_eq

end UDPPacket

namespace TrojanRequest

/-- **`TrojanRequest::parse`**, with its reads. -/
def parseChecked (self : TrojanRequest) (data : Bytes) : Checked (TrojanRequest × Option ℕ) :=
  match findCrlf data with
  | none => .ok (self, none)
  | some first => do
    let password ← substr data 0 first
    let payload ← substrFrom data (first + 2)
    let self := { self with password := password, payload := payload }
    if payload.length = 0 then .ok (self, none)
    else do
      let command ← read payload 0
      match Command.ofByte command with
      | none => .ok (self, none)
      | some command => do
        let self := { self with command := some command }
        let view ← substrFrom payload 1
        let (address, addressLen) ← self.address.parseChecked view
        let self := { self with address := address }
        match addressLen with
        | none => .ok (self, none)
        | some addressLen =>
          if payload.length < addressLen + 3 then .ok (self, none)
          else do
            let mark ← substr payload (addressLen + 1) 2
            if mark ≠ crlf then .ok (self, none)
            else do
              let rest ← substrFrom payload (addressLen + 3)
              .ok ({ self with payload := rest }, some data.length)

/-- **A request that ends behind the type** of an address that is a domain. -/
def EndsAtType (data : Bytes) : Prop :=
  ∃ password command, CrlfFree password ∧ data = password ++ (crlf ++ [Command.byte command, 3])

/-- A `CRLF` that is found lies inside. -/
theorem add_two_le_of_findCrlf {data : Bytes} {first : ℕ} (h : findCrlf data = some first) :
    first + 2 ≤ data.length := by
  have hlength := congrArg List.length (eq_append_crlf_of_findCrlf h)
  simp only [List.length_append, List.length_take, List.length_drop, crlf, List.length_cons,
    List.length_nil] at hlength
  omega

/-- It is read past its end. -/
theorem parseChecked_type (self : TrojanRequest) {data : Bytes} (h : EndsAtType data) :
    self.parseChecked data = .error (.outside 1 1) := by
  obtain ⟨password, command, hfree, rfl⟩ := h
  have hfirst := findCrlf_append hfree [command.byte, 3]
  have hdrop : (password ++ (crlf ++ [command.byte, 3])).drop (password.length + 2)
      = [command.byte, 3] := by
    rw [List.drop_length_add_append]
    rfl
  unfold parseChecked
  rw [hfirst]
  dsimp only
  rw [substr_eq (Nat.zero_le _), ok_bind, substrFrom_eq (add_two_le_of_findCrlf hfirst), ok_bind,
    hdrop, if_neg nofun, read_cons_zero, ok_bind, Command.ofByte_byte]
  rfl

/-- **Behind the address nothing is read unchecked.** -/
theorem parseChecked_eq (self : TrojanRequest) {data : Bytes} (h : ¬ EndsAtType data) :
    self.parseChecked data = .ok (self.parse data) := by
  unfold parseChecked parse
  cases hfirst : findCrlf data with
  | none => rfl
  | some first =>
    have hdata := eq_append_crlf_of_findCrlf hfirst
    have hfree := crlfFree_take_of_findCrlf hfirst
    dsimp only
    rw [substr_eq (Nat.zero_le _), ok_bind, substrFrom_eq (add_two_le_of_findCrlf hfirst),
      ok_bind, List.drop_zero]
    generalize data.drop (first + 2) = payload at *
    cases payload with
    | nil => rfl
    | cons b rest =>
      rw [if_neg nofun, read_cons_zero, ok_bind, List.head?_cons, Option.bind_some]
      cases hcommand : Command.ofByte b with
      | none => rfl
      | some command =>
        -- the view that the address is parsed from ends where the request ends
        have hrest : rest ≠ [3] := by
          rintro rfl
          refine h ⟨_, command, hfree, ?_⟩
          rw [← Command.byte_of_ofByte hcommand]
          exact hdata
        dsimp only
        rw [substrFrom_eq (by simp), ok_bind, List.drop_succ_cons, List.drop_zero,
          self.address.parseChecked_eq hrest, ok_bind]
        cases haddress : self.address.parse rest with
        | mk address addressLen =>
        cases addressLen with
        | none => rfl
        | some addressLen =>
          have hinside := SOCKS5Address.le_length_of_parse haddress
          dsimp only
          split
          · rename_i hshort
            rw [if_pos (.inl hshort)]
          · rename_i hroom
            rw [substr_eq (by simp; omega), ok_bind]
            split
            · rename_i hmark
              rw [if_pos (.inr hmark)]
            · rename_i hmark
              rw [substrFrom_eq (by omega), ok_bind, if_neg (not_or.mpr ⟨hroom, hmark⟩)]

theorem staysInside_parseChecked_iff (self : TrojanRequest) (data : Bytes) :
    StaysInside (self.parseChecked data) ↔ ¬ EndsAtType data :=
  staysInside_iff self.parseChecked_type self.parseChecked_eq

end TrojanRequest

namespace ClientSession

/-- The frame `udp_recv` makes of a datagram, with its reads. -/
def framePacketChecked (data : Bytes) : Checked (Option (ℕ × Bytes)) :=
  if data.length < 3 then .ok none
  else do
    let first ← read data 0
    if first ≠ 0 then .ok none
    else do
      let second ← read data 1
      if second ≠ 0 then .ok none
      else do
        let third ← read data 2
        if third ≠ 0 then .ok none
        else do
          let view ← substrFrom data 3
          let (_, addressLen) ← ({} : SOCKS5Address).parseChecked view
          match addressLen with
          | none => .ok none
          | some addressLen => do
            -- what is left of the datagram, whatever it is
            let packetLength := data.length - 3 - addressLen
            let address ← substr data 3 addressLen
            let payload ← substrFrom data (addressLen + 3)
            .ok (some (packetLength, address ++ wordBytes packetLength ++ crlf ++ payload))

/-- **`udp_recv`**, with its reads. -/
def udpRecvChecked (s : ClientSession) (length : ℕ) : Checked ClientSession :=
  let s :=
    { s with
        udpReadBuf := growAfterRead s.udpReadBuf length
        history := .modified .udpReadBuf :: s.history }
  if length = 0 then .ok s
  else do
    match ← framePacketChecked (s.udpReadBuf.take length) with
    | none => .ok s.destroy
    | some (packetLength, packet) =>
      let s := { s with sentLen := s.sentLen + packetLength }
      if s.status = .connect then
        .ok { s with firstPacketRecv := true, outWriteBuf := s.outWriteBuf ++ packet }
      else if s.status = .udpForward then .ok (s.outAsyncWrite packet)
      else .ok s

theorem framePacketChecked_type : framePacketChecked [0, 0, 0, 3] = .error (.outside 1 1) := rfl

/-- A view behind three zeros. -/
theorem eq_of_drop_three {data : Bytes} (hfirst : data.getD 0 0 = 0) (hsecond : data.getD 1 0 = 0)
    (hthird : data.getD 2 0 = 0) (hrest : data.drop 3 = [3]) : data = [0, 0, 0, 3] := by
  match data with
  | [] => cases hrest
  | [_] => cases hrest
  | [_, _] => cases hrest
  | first :: second :: third :: rest =>
    obtain rfl : first = 0 := hfirst
    obtain rfl : second = 0 := hsecond
    obtain rfl : third = 0 := hthird
    obtain rfl : rest = [3] := hrest
    rfl

/-- **Behind the address nothing is read unchecked.** -/
theorem framePacketChecked_eq {data : Bytes} (h : data ≠ [0, 0, 0, 3]) :
    framePacketChecked data = .ok (framePacket data) := by
  unfold framePacketChecked framePacket
  split
  · rename_i hshort
    rw [if_pos (.inl hshort)]
  rename_i hlong
  rw [read_eq_getD (by omega) 0, ok_bind]
  split
  · rename_i hfirst
    rw [if_pos (.inr (.inl hfirst))]
  rename_i hfirst
  rw [read_eq_getD (by omega) 0, ok_bind]
  split
  · rename_i hsecond
    rw [if_pos (.inr (.inr (.inl hsecond)))]
  rename_i hsecond
  rw [read_eq_getD (by omega) 0, ok_bind]
  split
  · rename_i hthird
    rw [if_pos (.inr (.inr (.inr hthird)))]
  rename_i hthird
  have hrest : data.drop 3 ≠ [3] := fun hrest =>
    h (eq_of_drop_three (not_not.mp hfirst) (not_not.mp hsecond) (not_not.mp hthird) hrest)
  rw [if_neg (not_or.mpr ⟨hlong, not_or.mpr ⟨hfirst, not_or.mpr ⟨hsecond, hthird⟩⟩⟩),
    substrFrom_eq (by omega), ok_bind, SOCKS5Address.parseChecked_eq _ hrest, ok_bind]
  cases haddress : ({} : SOCKS5Address).parse (data.drop 3) with
  | mk address addressLen =>
  cases addressLen with
  | none => rfl
  | some addressLen =>
    have hinside := SOCKS5Address.le_length_of_parse haddress
    rw [List.length_drop] at hinside
    dsimp only
    rw [substr_eq (by omega), ok_bind, substrFrom_eq (by omega), ok_bind]

variable {s : ClientSession} {data : Bytes}

/-- The session as a datagram leaves it. -/
def datagramRead (s : ClientSession) (data : Bytes) : ClientSession :=
  { s with udpReadBuf := fillBuffer s.udpReadBuf data }

/-- The datagram that ends behind the type of a domain. -/
theorem udpRecvChecked_type (h : data = [0, 0, 0, 3]) :
    (s.datagramRead data).udpRecvChecked data.length = .error (.outside 1 1) := by
  have hview : (growAfterRead (s.datagramRead data).udpReadBuf data.length).take data.length
      = data := take_growAfterRead s.udpReadBuf data
  have hne : data.length ≠ 0 := by
    rw [h]
    decide
  unfold udpRecvChecked
  dsimp only
  rw [if_neg hne, hview, h, framePacketChecked_type]
  rfl

/-- **Any other datagram** is read as far as it goes. -/
theorem udpRecvChecked_eq (h : data ≠ [0, 0, 0, 3]) :
    (s.datagramRead data).udpRecvChecked data.length
      = .ok ((s.datagramRead data).udpRecv data.length) := by
  have hview : (growAfterRead (s.datagramRead data).udpReadBuf data.length).take data.length
      = data := take_growAfterRead s.udpReadBuf data
  unfold udpRecvChecked udpRecv
  dsimp only
  split
  · rfl
  rw [hview, framePacketChecked_eq h, ok_bind]
  cases framePacket data with
  | none => rfl
  | some frame =>
    dsimp only
    split
    · rfl
    · split <;> rfl

end ClientSession

/-- **When the parsers stay inside their views**: always, but for the input that ends behind
the type of an address that is a domain. For `SOCKS5Address` and `UDPPacket` that is the
one byte `3`, for `TrojanRequest` a password, `CRLF`, a command and that byte, and for
`udp_recv` the datagram of three zeros and that byte. -/
theorem parsers_stayInside_iff (data : Bytes) :
    (∀ address : SOCKS5Address, StaysInside (address.parseChecked data) ↔ data ≠ [3])
      ∧ (∀ packet : UDPPacket, StaysInside (packet.parseChecked data) ↔ data ≠ [3])
      ∧ (∀ request : TrojanRequest, StaysInside (request.parseChecked data)
        ↔ ¬ TrojanRequest.EndsAtType data)
      ∧ ∀ s : ClientSession, StaysInside ((s.datagramRead data).udpRecvChecked data.length)
        ↔ data ≠ [0, 0, 0, 3] :=
  ⟨fun address => address.staysInside_parseChecked_iff data,
    fun packet => packet.staysInside_parseChecked_iff data,
    fun request => request.staysInside_parseChecked_iff data,
    fun _ => staysInside_iff ClientSession.udpRecvChecked_type ClientSession.udpRecvChecked_eq⟩

/-- **Each of them reads outside**, on an input from the network: the byte behind the end of
a view of one byte. -/
theorem parsers_read_outside :
    ({} : SOCKS5Address).parseChecked [3] = .error (.outside 1 1)
      ∧ ({} : UDPPacket).parseChecked [3] = .error (.outside 1 1)
      ∧ ({} : TrojanRequest).parseChecked (ascii "secret" ++ (crlf ++ [1, 3]))
        = .error (.outside 1 1)
      ∧ (ClientSession.create.datagramRead [0, 0, 0, 3]).udpRecvChecked 4
        = .error (.outside 1 1) :=
  ⟨rfl, rfl, TrojanRequest.parseChecked_type {} ⟨ascii "secret", .connect, by decide, rfl⟩,
    ClientSession.udpRecvChecked_type rfl⟩
