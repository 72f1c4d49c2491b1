import Trojan.Socks5Address
import Trojan.Util.FrameStream

/-!
# UDP frames of the tunnel

A datagram travels inside the tunnel as a frame (`proto/udppacket.cpp`): a
SOCKS5 address, the payload length in two bytes, `CRLF`, the payload. The
frame is self-delimiting, and this is what makes the tunnel's readers
independent of how the stream is cut into reads.

`UDPPacket.parse` is the source's decoder; `UdpFrame` is a well-formed frame,
which cannot be built with a payload its length field cannot count, nor – its
host being a `Host` – with a domain its length byte cannot count. A decoder
that succeeds has found such a frame and nothing else
(`UDPPacket.exists_bytes_of_parse`), and so the frames are a `FrameCode`
(`udpFrameCode`).
-/

/-- A UDP packet object. -/
structure UDPPacket where
  address : SOCKS5Address := {}
  length : ℕ := 0
  payload : Bytes := []
  deriving DecidableEq

namespace UDPPacket

/-- **`UDPPacket::parse`**: the object as the call leaves it, and the length
of the frame where it succeeds. -/
def parse (self : UDPPacket) (data : Bytes) : UDPPacket × Option ℕ :=
  if data.length ≤ 0 then (self, none)
  else match self.address.parse data with
  | (address, none) => ({ self with address := address }, none)
  | (address, some addressLen) =>
    let self := { self with address := address }
    if data.length < addressLen + 2 then (self, none)
    else
      let self :=
        { self with length := word (data.getD addressLen 0) (data.getD (addressLen + 1) 0) }
      if data.length < addressLen + 4 + self.length
          ∨ (data.drop (addressLen + 2)).take 2 ≠ crlf then (self, none)
      else
        ({ self with payload := (data.drop (addressLen + 4)).take self.length },
          some (addressLen + 4 + self.length))

/-- **`UDPPacket::generate`** for an endpoint. -/
def generate (endpoint : UdpEndpoint) (payload : Bytes) : Bytes :=
  SOCKS5Address.generate endpoint ++ wordBytes payload.length ++ crlf ++ payload

/-- **`UDPPacket::generate`** for a domain. -/
def generateDomain (domainname : Bytes) (port : UInt16) (payload : Bytes) : Bytes :=
  3 :: UInt8.ofNat domainname.length :: domainname ++ wordBytes port.toNat
    ++ wordBytes payload.length ++ crlf ++ payload

end UDPPacket

/-- **A well-formed frame**: a host with a port, and a payload its two length
bytes can count. -/
structure UdpFrame where
  host : Host
  port : UInt16
  payload : Bytes
  fits : payload.length < 65536

namespace UdpFrame

/-- The bytes of a frame. -/
def bytes (f : UdpFrame) : Bytes :=
  f.host.wire f.port ++ (wordBytes f.payload.length ++ (crlf ++ f.payload))

/-- The packet a frame is parsed to. -/
def packet (f : UdpFrame) : UDPPacket :=
  ⟨SOCKS5Address.ofHost f.host f.port, f.payload.length, f.payload⟩

theorem length_bytes (f : UdpFrame) :
    f.bytes.length = (f.host.wire f.port).length + 4 + f.payload.length := by
  simp only [bytes, List.length_append, length_wordBytes, crlf, List.length_cons,
    List.length_nil]
  omega

/-- The frame of a datagram from an endpoint. -/
def ofEndpoint (e : UdpEndpoint) (payload : Bytes) (fits : payload.length < 65536) :
    UdpFrame :=
  ⟨Host.ofEndpoint e, Host.portOfEndpoint e, payload, fits⟩

/-- The frame of a datagram to a domain. -/
def ofDomain (name : Bytes) (pos : 1 ≤ name.length) (short : name.length ≤ 255)
    (port : UInt16) (payload : Bytes) (fits : payload.length < 65536) : UdpFrame :=
  ⟨.domain name pos short, port, payload, fits⟩

end UdpFrame

namespace UDPPacket

/-- What `generate` writes for an endpoint is a frame. -/
theorem generate_eq_bytes (e : UdpEndpoint) (payload : Bytes)
    (fits : payload.length < 65536) :
    generate e payload = (UdpFrame.ofEndpoint e payload fits).bytes := by
  rw [generate, SOCKS5Address.generate_eq_wire, List.append_assoc, List.append_assoc]
  rfl

/-- What `generate` writes for a domain is a frame. -/
theorem generateDomain_eq_bytes (name : Bytes) (pos : 1 ≤ name.length)
    (short : name.length ≤ 255) (port : UInt16) (payload : Bytes)
    (fits : payload.length < 65536) :
    generateDomain name port payload
      = (UdpFrame.ofDomain name pos short port payload fits).bytes := by
  simp only [generateDomain, UdpFrame.ofDomain, UdpFrame.bytes, Host.wire, Host.header,
    List.append_assoc, List.cons_append]

/-- **Parsing past the address.** After a complete address the parser reads
the length, `CRLF` and the payload of what follows. -/
theorem parse_wire_append (self : UDPPacket) (host : Host) (port : UInt16) (rest : Bytes) :
    self.parse (host.wire port ++ rest)
      = if rest.length < 2 then
          ({ self with address := SOCKS5Address.ofHost host port }, none)
        else if rest.length < 4 + word (rest.getD 0 0) (rest.getD 1 0)
            ∨ (rest.drop 2).take 2 ≠ crlf then
          (⟨SOCKS5Address.ofHost host port, word (rest.getD 0 0) (rest.getD 1 0),
            self.payload⟩, none)
        else
          (⟨SOCKS5Address.ofHost host port, word (rest.getD 0 0) (rest.getD 1 0),
              (rest.drop 4).take (word (rest.getD 0 0) (rest.getD 1 0))⟩,
            some ((host.wire port).length + 4 + word (rest.getD 0 0) (rest.getD 1 0))) := by
  have haddr := SOCKS5Address.parse_wire self.address host port rest
  have hpos : ¬ (host.wire port ++ rest).length ≤ 0 := by
    rw [List.length_append, Host.length_wire]
    omega
  have hget (k : ℕ) :
      (host.wire port ++ rest).getD ((host.wire port).length + k) 0 = rest.getD k 0 := by
    rw [List.getD_append_right _ _ _ _ (Nat.le_add_right _ _), Nat.add_sub_cancel_left]
  have hshort (k : ℕ) : (host.wire port ++ rest).length < (host.wire port).length + k
      ↔ rest.length < k := by
    rw [List.length_append]
    exact Nat.add_lt_add_iff_left
  unfold parse
  rw [if_neg hpos, haddr]
  simp only [hshort, Nat.add_assoc, List.drop_length_add_append, hget]
  rw [show (host.wire port ++ rest).getD (host.wire port).length 0 = rest.getD 0 0 from hget 0]

/-- **A frame is parsed to its packet**, whatever follows it. -/
theorem parse_bytes (self : UDPPacket) (f : UdpFrame) (r : Bytes) :
    self.parse (f.bytes ++ r) = (f.packet, some f.bytes.length) := by
  have hword : word ((wordBytes f.payload.length ++ (crlf ++ f.payload) ++ r).getD 0 0)
      ((wordBytes f.payload.length ++ (crlf ++ f.payload) ++ r).getD 1 0)
      = f.payload.length := word_wordBytes f.fits
  have hlength : ¬ (wordBytes f.payload.length ++ (crlf ++ f.payload) ++ r).length < 2 := by
    rw [List.length_append, List.length_append, length_wordBytes]
    omega
  rw [f.length_bytes, UdpFrame.bytes, List.append_assoc, parse_wire_append, hword,
    if_neg hlength, if_neg (by simp [wordBytes, crlf]; omega)]
  simp [wordBytes, crlf, UdpFrame.packet]

/-- **Only frames are parsed.** A parse that succeeds has found a frame at the
front of its input, and its result is that frame's packet. -/
theorem exists_bytes_of_parse {self p : UDPPacket} {data : Bytes} {n : ℕ}
    (h : self.parse data = (p, some n)) :
    ∃ f r, data = UdpFrame.bytes f ++ r ∧ p = f.packet ∧ n = f.bytes.length := by
  have haddr : ∃ x k, self.address.parse data = (x, some k) := by
    unfold parse at h
    split at h
    · exact absurd (Prod.mk.inj h).2 (by simp)
    · split at h
      · exact absurd (Prod.mk.inj h).2 (by simp)
      · exact ⟨_, _, by assumption⟩
  obtain ⟨x, k, hk⟩ := haddr
  obtain ⟨host, port, rest, rfl, -, -⟩ := SOCKS5Address.exists_wire_of_parse hk
  rw [parse_wire_append] at h
  split at h
  · exact absurd (Prod.mk.inj h).2 (by simp)
  split at h
  · exact absurd (Prod.mk.inj h).2 (by simp)
  rename_i hshort hok
  obtain ⟨hlong, hcrlf⟩ := not_or.mp hok
  obtain ⟨rfl, hn⟩ := Prod.mk.inj h
  have hpay : ((rest.drop 4).take (word (rest.getD 0 0) (rest.getD 1 0))).length
      = word (rest.getD 0 0) (rest.getD 1 0) := by
    rw [List.length_take_of_le]
    rw [List.length_drop]
    omega
  -- what follows the address is the length, `CRLF` and the payload
  have hrest : rest = wordBytes (word (rest.getD 0 0) (rest.getD 1 0))
      ++ (crlf ++ ((rest.drop 4).take (word (rest.getD 0 0) (rest.getD 1 0))
        ++ (rest.drop 4).drop (word (rest.getD 0 0) (rest.getD 1 0)))) := by
    rw [wordBytes_word, List.take_append_drop, ← not_not.mp hcrlf,
      show rest.drop 4 = (rest.drop 2).drop 2 by rw [List.drop_drop], List.take_append_drop]
    exact take_pair_drop (k := 0) (by omega)
  refine ⟨⟨host, port, (rest.drop 4).take (word (rest.getD 0 0) (rest.getD 1 0)), ?_⟩,
    (rest.drop 4).drop (word (rest.getD 0 0) (rest.getD 1 0)), ?_, ?_, ?_⟩
  · rw [hpay]
    exact word_lt _ _
  · simp only [UdpFrame.bytes, hpay, List.append_assoc]
    exact congrArg _ hrest
  · simp only [UdpFrame.packet, hpay]
  · simp only [UdpFrame.length_bytes, hpay]
    exact (Option.some.inj hn).symm

end UDPPacket

/-- The frame at the front of a buffer, with its length: what a fresh packet
object makes of the buffer. -/
def UDPPacket.decode (data : Bytes) : Option (UDPPacket × ℕ) :=
  match ({} : UDPPacket).parse data with
  | (p, some n) => some (p, n)
  | (_, none) => none

theorem UDPPacket.decode_eq_some {data : Bytes} {p : UDPPacket} {n : ℕ} :
    decode data = some (p, n) ↔ ({} : UDPPacket).parse data = (p, some n) := by
  unfold decode
  rcases ({} : UDPPacket).parse data with ⟨q, _ | m⟩
  · simp
  · simp

/-- **The frames of the tunnel are a self-delimiting code**, with the source's
parser as decoder. -/
def udpFrameCode : FrameCode UInt8 UdpFrame UDPPacket where
  encode := UdpFrame.bytes
  decode := UDPPacket.decode
  value := UdpFrame.packet
  decode_encode f := by
    have h := UDPPacket.parse_bytes {} f []
    rw [List.append_nil] at h
    exact UDPPacket.decode_eq_some.mpr h
  decode_append p v n r h := by
    obtain ⟨f, rest, rfl, rfl, rfl⟩ :=
      UDPPacket.exists_bytes_of_parse (UDPPacket.decode_eq_some.mp h)
    rw [List.append_assoc]
    exact UDPPacket.decode_eq_some.mpr (UDPPacket.parse_bytes {} f _)
  decode_le p v n h := by
    obtain ⟨f, rest, rfl, -, rfl⟩ :=
      UDPPacket.exists_bytes_of_parse (UDPPacket.decode_eq_some.mp h)
    rw [List.length_append]
    exact Nat.le_add_right _ _
  decode_pos p v n h := by
    obtain ⟨f, rest, -, -, rfl⟩ :=
      UDPPacket.exists_bytes_of_parse (UDPPacket.decode_eq_some.mp h)
    rw [f.length_bytes]
    omega

/-- The next move of a reader of frames, in the words of the parser. -/
theorem udpFrameCode_next (limit : ℕ) (data : Bytes) :
    udpFrameCode.next limit data = match ({} : UDPPacket).parse data with
      | (packet, some n) => .deliver packet (data.drop n)
      | (_, none) => if data.length > limit then .overflow else .wait := by
  have hdecode : udpFrameCode.decode data = UDPPacket.decode data := rfl
  rw [FrameCode.next, hdecode, UDPPacket.decode]
  rcases ({} : UDPPacket).parse data with ⟨packet, _ | n⟩ <;> rfl
