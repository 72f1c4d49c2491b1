import Trojan.ClientSession

/-!
# Datagrams that are written and read again

The two overloads of `UDPPacket::generate` write a frame piece by piece, and
`UDPPacket::parse` reads one. The client does neither: `udp_recv` cuts a SOCKS5
datagram and puts the pieces together as a frame, and `udp_sent` goes the other
way, both with lengths of their own. All four agree. What `generate` writes is
parsed to what it was written for, and no beginning of it is parsed at all
(`UDPPacket.parse_generated`); what the client writes is parsed to what the
datagram says, and what it sends on is what it would have received
(`ClientSession.udp_translated`).

The parser keeps an address as a text. `Host.ofText` reads it as the program that
is given it would: four decimal numbers with dots, eight groups of four
hexadecimal digits with colons, or a name.
-/

/-! ## What the text of an address means -/

/-- The value of a decimal digit. -/
def decimalDigit (c : UInt8) : Option ℕ :=
  if 48 ≤ c ∧ c ≤ 57 then some (c.toNat - 48) else none

/-- The value of a hexadecimal digit. -/
def hexDigit (c : UInt8) : Option ℕ :=
  if 97 ≤ c ∧ c ≤ 102 then some (c.toNat - 87) else decimalDigit c

/-- The byte that a decimal number stands for. -/
def readByte : Bytes → Option UInt8
  | [] => none
  | c :: cs => do
    let n ← (c :: cs).foldlM (fun n c => (decimalDigit c).map (10 * n + ·)) 0
    if n < 256 then some (UInt8.ofNat n) else none

/-- The two bytes that a group of four hexadecimal digits stands for. -/
def readGroup : Bytes → Option (UInt8 × UInt8)
  | [a, b, c, d] => do
    let a ← hexDigit a
    let b ← hexDigit b
    let c ← hexDigit c
    let d ← hexDigit d
    return (UInt8.ofNat (16 * a + b), UInt8.ofNat (16 * c + d))
  | _ => none

/-- The four bytes of a dotted text. -/
def readDotted (text : Bytes) : Option (Vector UInt8 4) :=
  match (text.splitOn 46).mapM readByte with
  | some [a, b, c, d] => some #v[a, b, c, d]
  | _ => none

/-- The sixteen bytes of a text with colons, in which nothing is left out. -/
def readColonHex (text : Bytes) : Option (Vector UInt8 16) :=
  match (text.splitOn 58).mapM readGroup with
  | some [(a0, a1), (a2, a3), (a4, a5), (a6, a7), (a8, a9), (a10, a11), (a12, a13), (a14, a15)] =>
    some #v[a0, a1, a2, a3, a4, a5, a6, a7, a8, a9, a10, a11, a12, a13, a14, a15]
  | _ => none

namespace Host

/-- **The host that a text names**, given the type of the address. -/
def ofText (ty : AddressType) (text : Bytes) : Option Host :=
  match ty with
  | .ipv4 => (readDotted text).map .v4
  | .ipv6 => (readColonHex text).map .v6
  | .domainname =>
    if h : 1 ≤ text.length ∧ text.length ≤ 255 then some (.domain text h.1 h.2) else none

/-- The host that an IP address is. -/
def ofIp : IpAddress → Host
  | .v4 b => .v4 b
  | .v6 b => .v6 b

end Host

theorem readByte_decimal (b : UInt8) : readByte (decimal b.toNat) = some b := by
  have hall : (List.range 256).all (fun n => readByte (decimal n) == some (UInt8.ofNat n))
      = true := by
    decide +kernel
  have hread := List.all_eq_true.mp hall b.toNat (List.mem_range.mpr b.toNat_lt)
  rw [eq_of_beq hread, UInt8.ofNat_toNat]

theorem not_dot_of_mem_decimal (b c : UInt8) (h : c ∈ decimal b.toNat) : (c == 46) = false := by
  have hall : (List.range 256).all (fun n => (decimal n).all (fun c => !(c == 46))) = true := by
    decide +kernel
  have hbyte := List.all_eq_true.mp hall b.toNat (List.mem_range.mpr b.toNat_lt)
  simpa using List.all_eq_true.mp hbyte c h

/-- The numbers of a dotted text. -/
theorem splitOn_dotted (b : UInt8) (bs : Bytes) :
    (dotted (b :: bs)).splitOn 46 = (b :: bs).map (fun b => decimal b.toNat) := by
  induction bs generalizing b with
  | nil => exact List.splitOnP_eq_singleton (not_dot_of_mem_decimal b)
  | cons c bs ih =>
    rw [List.map_cons, ← ih c, dotted]
    exact List.splitOnP_append_cons_of_forall_mem (not_dot_of_mem_decimal b) 46 rfl _

theorem mapM_readByte (bs : Bytes) :
    (bs.map (fun b => decimal b.toNat)).mapM readByte = some bs := by
  induction bs with
  | nil => rfl
  | cons b bs ih =>
    rw [List.map_cons, List.mapM_cons, readByte_decimal, ih]
    rfl

theorem readGroup_hex2 (a b : UInt8) : readGroup (hex2 a ++ hex2 b) = some (a, b) := by
  have hall : (List.range 256).all (fun n => (hexDigit ((hex2 (UInt8.ofNat n)).getD 0 0)).bind
      (fun hi => (hexDigit ((hex2 (UInt8.ofNat n)).getD 1 0)).map (fun lo => 16 * hi + lo))
        == some n) = true := by
    decide +kernel
  have hbyte (b : UInt8) : ∃ hi lo, hexDigit ((hex2 b).getD 0 0) = some hi
      ∧ hexDigit ((hex2 b).getD 1 0) = some lo ∧ UInt8.ofNat (16 * hi + lo) = b := by
    have hread := eq_of_beq (List.all_eq_true.mp hall b.toNat (List.mem_range.mpr b.toNat_lt))
    rw [UInt8.ofNat_toNat] at hread
    obtain ⟨hi, hhi, hread⟩ := Option.bind_eq_some_iff.mp hread
    obtain ⟨lo, hlo, heq⟩ := Option.map_eq_some_iff.mp hread
    exact ⟨hi, lo, hhi, hlo, by rw [heq, UInt8.ofNat_toNat]⟩
  obtain ⟨ah, al, hah, hal, ha⟩ := hbyte a
  obtain ⟨bh, bl, hbh, hbl, hb⟩ := hbyte b
  have hcons (b : UInt8) : hex2 b = [(hex2 b).getD 0 0, (hex2 b).getD 1 0] := rfl
  rw [hcons a, hcons b]
  simp only [readGroup, List.cons_append, List.nil_append, hah, hal, hbh, hbl, ha, hb, bind,
    Option.bind, pure]

theorem not_colon_of_mem_hex2 (a b c : UInt8) (h : c ∈ hex2 a ++ hex2 b) : (c == 58) = false := by
  have hall : (List.range 256).all (fun n => (hex2 (UInt8.ofNat n)).all (fun c => !(c == 58)))
      = true := by
    decide +kernel
  have hbyte (b : UInt8) (h : c ∈ hex2 b) : (c == 58) = false := by
    have hdigits := List.all_eq_true.mp hall b.toNat (List.mem_range.mpr b.toNat_lt)
    rw [UInt8.ofNat_toNat] at hdigits
    simpa using List.all_eq_true.mp hdigits c h
  rcases List.mem_append.mp h with h | h
  · exact hbyte a h
  · exact hbyte b h

/-- The first group of a text with colons. -/
theorem splitOn_colonHex (a b c : UInt8) (rest : Bytes) :
    (colonHex (a :: b :: c :: rest)).splitOn 58
      = (hex2 a ++ hex2 b) :: (colonHex (c :: rest)).splitOn 58 :=
  List.splitOnP_append_cons_of_forall_mem (not_colon_of_mem_hex2 a b) 58 rfl _

theorem splitOn_colonHex_last (a b : UInt8) :
    (colonHex [a, b]).splitOn 58 = [hex2 a ++ hex2 b] :=
  List.splitOnP_eq_singleton (not_colon_of_mem_hex2 a b)

/-- **The text of a host names it.** -/
theorem Host.ofText_text (h : Host) : ofText h.addressType h.text = some h := by
  cases h with
  | v4 b =>
    obtain ⟨⟨l⟩, hl⟩ := b
    match l, hl with
    | [a, b, c, d], _ =>
      show (readDotted (dotted [a, b, c, d])).map Host.v4 = _
      rw [readDotted, splitOn_dotted, mapM_readByte]
      rfl
  | v6 b =>
    obtain ⟨⟨l⟩, hl⟩ := b
    match l, hl with
    | [a0, a1, a2, a3, a4, a5, a6, a7, a8, a9, a10, a11, a12, a13, a14, a15], _ =>
      show (readColonHex (colonHex [a0, a1, a2, a3, a4, a5, a6, a7, a8, a9, a10, a11, a12, a13,
        a14, a15])).map Host.v6 = _
      simp only [readColonHex, splitOn_colonHex, splitOn_colonHex_last, List.mapM_cons,
        List.mapM_nil, readGroup_hex2]
      rfl
  | domain name pos short => exact dif_pos ⟨pos, short⟩

/-! ## Frames -/

namespace UDPPacket

/-- **A frame carries a datagram**: whatever follows it and whatever object parses
it, the address, the port and the payload are found, and the frame is taken whole;
a part of the frame is not parsed. -/
structure Carries (frame : Bytes) (host : Host) (port : UInt16) (payload : Bytes) : Prop where
  parsed : ∀ (self : UDPPacket) (r : Bytes), ∃ packet,
    self.parse (frame ++ r) = (packet, some frame.length)
      ∧ packet.address.addressType = some host.addressType
      ∧ Host.ofText host.addressType packet.address.address = some host
      ∧ packet.address.port = port ∧ packet.length = payload.length ∧ packet.payload = payload
  proper : ∀ (self : UDPPacket) (p : Bytes), p <+: frame → p ≠ frame → (self.parse p).2 = none

/-- A proper beginning of a frame is not parsed. -/
theorem parse_of_proper (self : UDPPacket) {f : UdpFrame} {p : Bytes} (hp : p <+: f.bytes)
    (hne : p ≠ f.bytes) : (self.parse p).2 = none := by
  rcases h : self.parse p with ⟨packet, _ | n⟩
  · rfl
  · obtain ⟨g, r, rfl, rfl, rfl⟩ := exists_bytes_of_parse h
    have hdecoded : udpFrameCode.decode (g.bytes ++ r) = some (g.packet, g.bytes.length) :=
      udpFrameCode.decode_encode_append g r
    exact nomatch hdecoded.symm.trans (udpFrameCode.decode_of_proper hp hne)

theorem carries_bytes (f : UdpFrame) : Carries f.bytes f.host f.port f.payload where
  parsed self r := ⟨f.packet, parse_bytes self f r, rfl, f.host.ofText_text, rfl, rfl, rfl⟩
  proper self _ hp hne := parse_of_proper self hp hne

/-- **What `generate` writes is parsed to what it was written for**, by both
overloads: an endpoint with an address, or a domain with a port. -/
theorem parse_generated :
    (∀ (endpoint : UdpEndpoint) (payload : Bytes),
      endpoint.address.isUnspecified = false → payload.length ≤ 65535 →
        Carries (generate endpoint payload) (.ofIp endpoint.address) endpoint.port payload)
    ∧ ∀ (name : Bytes) (pos : 1 ≤ name.length) (short : name.length ≤ 255) (port : UInt16)
        (payload : Bytes), payload.length ≤ 65535 →
        Carries (generateDomain name port payload) (.domain name pos short) port payload := by
  constructor
  · intro endpoint payload haddress hfits
    have hhost : Host.ofEndpoint endpoint = .ofIp endpoint.address := by
      rw [Host.ofEndpoint, haddress]
      cases endpoint.address <;> rfl
    have hport : Host.portOfEndpoint endpoint = endpoint.port := by
      rw [Host.portOfEndpoint, haddress]
      rfl
    have hcarries := carries_bytes (UdpFrame.ofEndpoint endpoint payload (by omega))
    rw [← generate_eq_bytes] at hcarries
    rw [← hhost, ← hport]
    exact hcarries
  · intro name pos short port payload hfits
    rw [generateDomain_eq_bytes name pos short port payload (by omega)]
    exact carries_bytes (UdpFrame.ofDomain name pos short port payload (by omega))

/-- A datagram of two bytes to `192.0.2.1`, and an empty one to `a.b`. -/
theorem parse_generated_sample :
    Carries (generate ⟨.v4 #v[192, 0, 2, 1], 53⟩ [104, 105]) (.v4 #v[192, 0, 2, 1]) 53 [104, 105]
    ∧ Carries (generateDomain [97, 46, 98] 443 []) (.domain [97, 46, 98] (by decide) (by decide))
      443 [] :=
  ⟨parse_generated.1 ⟨.v4 #v[192, 0, 2, 1], 53⟩ [104, 105] (by decide) (by decide),
    parse_generated.2 [97, 46, 98] (by decide) (by decide) 443 [] (by decide)⟩

end UDPPacket

/-! ## The client -/

namespace ClientSession

/-- The frame that is made of a datagram, when there is one. -/
theorem framePacket_eq_some {data : Bytes} {n : ℕ} {frame : Bytes} :
    framePacket data = some (n, frame) ↔
      ∃ (host : Host) (port : UInt16) (payload : Bytes),
        data = [0, 0, 0] ++ host.wire port ++ payload ∧ n = payload.length
          ∧ frame = host.wire port ++ wordBytes payload.length ++ crlf ++ payload := by
  constructor
  · intro h
    unfold framePacket at h
    split at h
    · exact nomatch h
    · rename_i hzeros
      split at h
      · exact nomatch h
      · rename_i address addressLen hparse
        obtain ⟨host, port, payload, hdata, -, rfl⟩ := SOCKS5Address.exists_wire_of_parse hparse
        match data, hzeros with
        | [], hzeros => exact absurd (.inl (by decide)) hzeros
        | [_], hzeros => exact absurd (.inl (by simp)) hzeros
        | [_, _], hzeros => exact absurd (.inl (by simp)) hzeros
        | a :: b :: c :: rest, hzeros =>
          simp only [List.getD_cons_zero, List.getD_cons_succ, not_or, not_not] at hzeros
          obtain ⟨-, rfl, rfl, rfl⟩ := hzeros
          obtain rfl : rest = host.wire port ++ payload := hdata
          obtain ⟨rfl, rfl⟩ := Prod.mk.inj (Option.some.inj h)
          refine ⟨host, port, payload, rfl, ?_, ?_⟩
          · simp
          · simp [List.drop_append]
  · rintro ⟨host, port, payload, rfl, rfl, rfl⟩
    have hparse := SOCKS5Address.parse_wire {} host port payload
    simp [framePacket, hparse]

/-- What `udp_recv` does with a datagram that it accepts. -/
theorem handle_udpReceive (config : Config) (s : ClientSession) {data frame : Bytes} {n : ℕ}
    (endpoint : UdpEndpoint) (h : framePacket data = some (n, frame)) :
    (s.status = .connect → (s.handle config (.udpReceive (.success (data, endpoint)))).outWriteBuf
        = s.outWriteBuf ++ frame)
    ∧ (s.status = .udpForward →
        (s.handle config (.udpReceive (.success (data, endpoint)))).history
          = .began (.outWrite frame) :: .modified .outWriteData :: .modified .udpReadBuf
            :: s.history) := by
  have hne : data.length ≠ 0 := by
    intro hzero
    rw [List.length_eq_zero_iff.mp hzero] at h
    exact nomatch h
  have hrecv : s.handle config (.udpReceive (.success (data, endpoint)))
      = { s with udpReadBuf := fillBuffer s.udpReadBuf data, udpRecvEndpoint := endpoint }.udpRecv
        data.length := rfl
  rw [hrecv, udpRecv]
  dsimp only
  rw [if_neg hne, take_growAfterRead, h]
  refine ⟨fun hstatus => ?_, fun hstatus => ?_⟩
  · dsimp only
    rw [if_pos hstatus]
  · dsimp only
    rw [if_neg (by simp [hstatus]), if_pos hstatus]
    rfl

/-- What `udp_sent` does with a frame that it consumes: the datagram that goes to the
application is the frame of the address and the payload, and would be framed as that
frame again. -/
theorem udpSent_of_parse {s : ClientSession} {packet : UDPPacket} {packetLen : ℕ}
    (hstatus : s.status = .udpForward)
    (h : ({} : UDPPacket).parse s.udpDataBuf = (packet, some packetLen)) :
    ∃ addressLen,
      s.udpSent.history
          = .began (.udpSend ([0, 0, 0] ++ s.udpDataBuf.take addressLen ++ packet.payload)
            s.udpRecvEndpoint) :: .modified .udpWriteData :: s.history
      ∧ s.udpSent.udpDataBuf = s.udpDataBuf.drop packetLen
      ∧ ({} : SOCKS5Address).parse (s.udpDataBuf.take addressLen ++ packet.payload)
        = (packet.address, some addressLen)
      ∧ (s.udpDataBuf.take addressLen ++ packet.payload).drop addressLen = packet.payload
      ∧ framePacket ([0, 0, 0] ++ s.udpDataBuf.take addressLen ++ packet.payload)
        = some (packet.length, s.udpDataBuf.take packetLen) := by
  obtain ⟨f, rest, hbuf, rfl, rfl⟩ := UDPPacket.exists_bytes_of_parse h
  have haddress : ({} : SOCKS5Address).parse s.udpDataBuf
      = (SOCKS5Address.ofHost f.host f.port, some (f.host.wire f.port).length) := by
    rw [hbuf, UdpFrame.bytes, List.append_assoc]
    exact SOCKS5Address.parse_wire {} f.host f.port _
  have htake : s.udpDataBuf.take (f.host.wire f.port).length = f.host.wire f.port := by
    rw [hbuf, UdpFrame.bytes, List.append_assoc, List.take_left]
  refine ⟨(f.host.wire f.port).length, ?_, ?_, ?_, ?_, ?_⟩
  · rw [udpSent, if_pos hstatus, h]
    dsimp only
    rw [haddress]
    rfl
  · rw [udpSent, if_pos hstatus, h]
    dsimp only
    rw [haddress]
    rfl
  · rw [htake]
    exact SOCKS5Address.parse_wire {} f.host f.port f.payload
  · rw [htake, List.drop_left]
  · rw [htake]
    refine framePacket_eq_some.mpr ⟨f.host, f.port, f.payload, rfl, rfl, ?_⟩
    rw [hbuf, List.take_left, UdpFrame.bytes, List.append_assoc, List.append_assoc]

/-- **The client translates exactly.** The frame that `udp_recv` makes of a datagram
is parsed to the address and the payload of the datagram, and to its end. The datagram
that `udp_sent` makes of a frame has the address of the frame verbatim and its payload;
`udp_recv` would find this address and this payload in it. -/
theorem udp_translated (config : Config) :
    (∀ (s : ClientSession) (data : Bytes) (endpoint : UdpEndpoint) (address : SOCKS5Address)
        (addressLen : ℕ), data.take 3 = [0, 0, 0] →
      ({} : SOCKS5Address).parse (data.drop 3) = (address, some addressLen) →
      (data.drop (3 + addressLen)).length ≤ 65535 →
      ∃ frame,
        (s.status = .connect →
          (s.handle config (.udpReceive (.success (data, endpoint)))).outWriteBuf
            = s.outWriteBuf ++ frame)
        ∧ (s.status = .udpForward →
          (s.handle config (.udpReceive (.success (data, endpoint)))).history
            = .began (.outWrite frame) :: .modified .outWriteData :: .modified .udpReadBuf
              :: s.history)
        ∧ ∀ self : UDPPacket, self.parse frame
            = (⟨address, (data.drop (3 + addressLen)).length, data.drop (3 + addressLen)⟩,
              some frame.length))
    ∧ ∀ (s : ClientSession) (packet : UDPPacket) (packetLen : ℕ), s.status = .udpForward →
      ({} : UDPPacket).parse s.udpDataBuf = (packet, some packetLen) →
      ∃ addressLen,
        s.udpSent.history
            = .began (.udpSend ([0, 0, 0] ++ s.udpDataBuf.take addressLen ++ packet.payload)
              s.udpRecvEndpoint) :: .modified .udpWriteData :: s.history
        ∧ s.udpSent.udpDataBuf = s.udpDataBuf.drop packetLen
        ∧ ({} : SOCKS5Address).parse (s.udpDataBuf.take addressLen ++ packet.payload)
          = (packet.address, some addressLen)
        ∧ (s.udpDataBuf.take addressLen ++ packet.payload).drop addressLen = packet.payload
        ∧ framePacket ([0, 0, 0] ++ s.udpDataBuf.take addressLen ++ packet.payload)
          = some (packet.length, s.udpDataBuf.take packetLen) := by
  refine ⟨?_, fun s packet packetLen hstatus h => udpSent_of_parse hstatus h⟩
  intro s data endpoint address addressLen hzeros hparse hfits
  obtain ⟨host, port, payload, hdata, rfl, rfl⟩ := SOCKS5Address.exists_wire_of_parse hparse
  have hwhole : data = [0, 0, 0] ++ host.wire port ++ payload := by
    rw [List.append_assoc, ← hdata, ← hzeros, List.take_append_drop]
  have hpayload : data.drop (3 + (host.wire port).length) = payload := by
    rw [← List.drop_drop, hdata, List.drop_left]
  rw [hpayload] at hfits
  have hframe := framePacket_eq_some.mpr ⟨host, port, payload, hwhole, rfl, rfl⟩
  obtain ⟨hconnect, hforward⟩ := handle_udpReceive config s endpoint hframe
  refine ⟨_, hconnect, hforward, fun self => ?_⟩
  have hbytes := UDPPacket.parse_bytes self ⟨host, port, payload, by omega⟩ []
  simp only [List.append_nil, UdpFrame.bytes, UdpFrame.packet] at hbytes
  rw [List.append_assoc, List.append_assoc, hpayload]
  exact hbytes

/-- A datagram of two bytes to `192.0.2.1`, on its way out and on its way in. -/
theorem udp_translated_sample :
    (∃ frame, (({ status := .udpForward } : ClientSession).handle {}
          (.udpReceive (.success ([0, 0, 0, 1, 192, 0, 2, 1, 0, 53, 104, 105],
            ⟨.v4 #v[127, 0, 0, 1], 40000⟩)))).history
        = [.began (.outWrite frame), .modified .outWriteData, .modified .udpReadBuf]
      ∧ ∀ self : UDPPacket, self.parse frame
          = (⟨⟨some .ipv4, ascii "192.0.2.1", 53⟩, 2, [104, 105]⟩, some frame.length))
    ∧ ∃ addressLen, framePacket ([0, 0, 0] ++
        [1, 192, 0, 2, 1, 0, 53, 0, 2, 13, 10, 104, 105].take addressLen ++ [104, 105])
          = some (2, [1, 192, 0, 2, 1, 0, 53, 0, 2, 13, 10, 104, 105]) := by
  obtain ⟨frame, -, hhistory, hparse⟩ := (udp_translated {}).1 { status := .udpForward }
    [0, 0, 0, 1, 192, 0, 2, 1, 0, 53, 104, 105] ⟨.v4 #v[127, 0, 0, 1], 40000⟩
    ⟨some .ipv4, ascii "192.0.2.1", 53⟩ 7 rfl (by decide) (by decide)
  obtain ⟨addressLen, -, -, -, -, hframe⟩ := (udp_translated {}).2
    { status := .udpForward, udpDataBuf := [1, 192, 0, 2, 1, 0, 53, 0, 2, 13, 10, 104, 105] }
    ⟨⟨some .ipv4, ascii "192.0.2.1", 53⟩, 2, [104, 105]⟩ 13 rfl (by decide)
  exact ⟨⟨frame, hhistory rfl, hparse⟩, addressLen, hframe⟩

end ClientSession
