import Mathlib.Data.List.GetD

/-!
# SOCKS5 addresses

The address form shared by Trojan requests and by the UDP frames of the
tunnel (`proto/socks5address.cpp`): a type byte, an address whose length the
type or a length byte gives, and two bytes of port.

`SOCKS5Address.parse` follows the source branch by branch and keeps its
in-place updates: the object it returns is the object the C++ method leaves
behind, whether it succeeds or not. A failed parse is therefore not a missing
value but an object with some fields set, which is what a session's decision
carries around.

`Host` is what an address *means* – four bytes, sixteen bytes, or a domain of
one to 255 bytes – with its wire form and the text the code shows for it. The
two are tied together by `SOCKS5Address.parse_wire`.
-/

/-- A C++ byte string. -/
abbrev Bytes := List UInt8

/-- The bytes of an ASCII literal. -/
def ascii (s : String) : Bytes := s.toList.map (fun c => UInt8.ofNat c.toNat)

/-- `CRLF`. -/
def crlf : Bytes := [13, 10]

/-- `to_string` of an unsigned number. -/
def decimal (n : ℕ) : Bytes := (Nat.toDigits 10 n).map (fun c => UInt8.ofNat c.toNat)

/-- The two lower-case hexadecimal digits `%02x` prints for a byte. -/
def hex2 (b : UInt8) : Bytes :=
  [b / 16, b % 16].map (fun d => if d < 10 then 48 + d else 87 + d)

/-- The 16-bit number two bytes stand for, high byte first. -/
def word (hi lo : UInt8) : ℕ := hi.toNat * 256 + lo.toNat

theorem word_lt (hi lo : UInt8) : word hi lo < 65536 := by
  have hhi := hi.toNat_lt
  have hlo := lo.toNat_lt
  unfold word
  omega

/-- The two bytes of a length or port, high byte first: `uint8_t(n >> 8)` and
`uint8_t(n & 0xFF)`. -/
def wordBytes (n : ℕ) : Bytes := [UInt8.ofNat (n / 256), UInt8.ofNat (n % 256)]

@[simp] theorem length_wordBytes (n : ℕ) : (wordBytes n).length = 2 := rfl

/-- A number below `2 ^ 16` is read back from its two bytes. -/
theorem word_wordBytes {n : ℕ} (h : n < 65536) :
    word (UInt8.ofNat (n / 256)) (UInt8.ofNat (n % 256)) = n := by
  simp only [word, UInt8.toNat_ofNat']
  omega

/-- The address types of a SOCKS5 address. -/
inductive AddressType where
  | ipv4
  | domainname
  | ipv6
  deriving DecidableEq, Repr

/-- The type byte `1`, `3` or `4`. -/
def AddressType.ofByte (b : UInt8) : Option AddressType :=
  if b = 1 then some .ipv4
  else if b = 3 then some .domainname
  else if b = 4 then some .ipv6
  else none

/-- The byte that announces an address type. -/
def AddressType.byte : AddressType → UInt8
  | ipv4 => 1
  | domainname => 3
  | ipv6 => 4

/-- An input whose first byte announces a type starts with that type's
byte. -/
theorem AddressType.exists_cons_of_ofByte {data : Bytes} {ty : AddressType}
    (h : data.head?.bind ofByte = some ty) : ∃ rest, data = ty.byte :: rest := by
  cases data with
  | nil => exact absurd h (by simp)
  | cons b rest =>
    refine ⟨rest, congrArg (· :: rest) ?_⟩
    have hb : ofByte b = some ty := h
    unfold ofByte at hb
    split at hb
    · rename_i h1
      rw [h1, ← Option.some.inj hb, byte]
    · split at hb
      · rename_i h3
        rw [h3, ← Option.some.inj hb, byte]
      · split at hb
        · rename_i h4
          rw [h4, ← Option.some.inj hb, byte]
        · exact absurd hb (by simp)

/-- An IP address, as its bytes in network order. -/
inductive IpAddress where
  | v4 (bytes : Vector UInt8 4)
  | v6 (bytes : Vector UInt8 16)
  deriving DecidableEq

namespace IpAddress

/-- The local host. -/
def loopback : Vector UInt8 4 := #v[127, 0, 0, 1]

/-- The address that says nothing. -/
def unspecified : Vector UInt8 4 := #v[0, 0, 0, 0]

/-- An address of the network that is kept for examples. -/
def example4 (host : UInt8) : Vector UInt8 4 := #v[192, 0, 2, host]

/-- The bytes of an address. -/
def toBytes : IpAddress → Bytes
  | v4 b => b.toList
  | v6 b => b.toList

/-- `is_v4`. -/
def isV4 : IpAddress → Bool
  | v4 _ => true
  | v6 _ => false

/-- `is_unspecified`: `0.0.0.0` or `::`. -/
def isUnspecified (a : IpAddress) : Bool := a.toBytes.all (· == 0)

end IpAddress

/-- A UDP endpoint. -/
structure UdpEndpoint where
  address : IpAddress
  port : UInt16
  deriving DecidableEq

/-- A SOCKS5 address object. Before a parse has set it, the type is
unset. -/
structure SOCKS5Address where
  addressType : Option AddressType := none
  address : Bytes := []
  port : UInt16 := 0
  deriving DecidableEq

/-- The text of four bytes: decimal numbers with dots. -/
def dotted : Bytes → Bytes
  | [] => []
  | [a] => decimal a.toNat
  | a :: b :: rest => decimal a.toNat ++ 46 :: dotted (b :: rest)

/-- The text of sixteen bytes: eight groups of four hexadecimal digits with
colons, nothing left out. -/
def colonHex : Bytes → Bytes
  | [] => []
  | [a] => hex2 a
  | [a, b] => hex2 a ++ hex2 b
  | a :: b :: c :: rest => hex2 a ++ hex2 b ++ 58 :: colonHex (c :: rest)

namespace SOCKS5Address

/-- **`SOCKS5Address::parse`**: the object as the call leaves it, and the
length of the address where it succeeds.

`data.getD 1 0` in the domain case stands for `data[1]`, which the source
reads without checking that it is there; whatever is read past a one-byte
view, the length check below it fails. -/
def parse (self : SOCKS5Address) (data : Bytes) : SOCKS5Address × Option ℕ :=
  match data.head?.bind AddressType.ofByte with
  | none => (self, none)
  | some .ipv4 =>
    let self := { self with addressType := some .ipv4 }
    if data.length > 4 + 2 then
      ({ self with
          address := dotted ((data.drop 1).take 4)
          port := UInt16.ofNat (word (data.getD 5 0) (data.getD 6 0)) },
        some (1 + 4 + 2))
    else (self, none)
  | some .domainname =>
    let self := { self with addressType := some .domainname }
    let domainLen := (data.getD 1 0).toNat
    -- invalid domain len
    if domainLen = 0 then (self, none)
    else if data.length > 1 + domainLen + 2 then
      ({ self with
          address := (data.drop 2).take domainLen
          port := UInt16.ofNat
            (word (data.getD (domainLen + 2) 0) (data.getD (domainLen + 3) 0)) },
        some (1 + 1 + domainLen + 2))
    else (self, none)
  | some .ipv6 =>
    let self := { self with addressType := some .ipv6 }
    if data.length > 16 + 2 then
      ({ self with
          address := colonHex ((data.drop 1).take 16)
          port := UInt16.ofNat (word (data.getD 17 0) (data.getD 18 0)) },
        some (1 + 16 + 2))
    else (self, none)

/-- **`SOCKS5Address::generate`**. The unspecified address, of either family,
is written as `0.0.0.0` with port `0`. -/
def generate (endpoint : UdpEndpoint) : Bytes :=
  if endpoint.address.isUnspecified then [1, 0, 0, 0, 0, 0, 0]
  else
    (match endpoint.address with
      | .v4 b => 1 :: b.toList
      | .v6 b => 4 :: b.toList)
    ++ wordBytes endpoint.port.toNat

end SOCKS5Address

/-! ## What an address means -/

/-- **A host**: what a complete SOCKS5 address names, apart from the port. A
domain has one to 255 bytes, which is what its length byte can say. -/
inductive Host where
  | v4 (bytes : Vector UInt8 4)
  | v6 (bytes : Vector UInt8 16)
  | domain (name : Bytes) (pos : 1 ≤ name.length) (short : name.length ≤ 255)
  deriving DecidableEq

namespace Host

/-- The type of the address that names a host. -/
def addressType : Host → AddressType
  | v4 _ => .ipv4
  | v6 _ => .ipv6
  | domain _ _ _ => .domainname

/-- The text the code keeps for a host. -/
def text : Host → Bytes
  | v4 b => dotted b.toList
  | v6 b => colonHex b.toList
  | domain name _ _ => name

/-- The wire form of a host, up to its port. -/
def header : Host → Bytes
  | v4 b => 1 :: b.toList
  | v6 b => 4 :: b.toList
  | domain name _ _ => 3 :: UInt8.ofNat name.length :: name

/-- **The wire form** of a host with a port. -/
def wire (h : Host) (port : UInt16) : Bytes := h.header ++ wordBytes port.toNat

theorem length_wire (h : Host) (port : UInt16) :
    (h.wire port).length = h.header.length + 2 := by
  rw [wire, List.length_append, length_wordBytes]

/-- The host and port `SOCKS5Address::generate` writes for an endpoint. -/
def ofEndpoint (e : UdpEndpoint) : Host :=
  if e.address.isUnspecified then .v4 (Vector.replicate 4 0)
  else match e.address with
    | .v4 b => .v4 b
    | .v6 b => .v6 b

/-- The port `SOCKS5Address::generate` writes for an endpoint. -/
def portOfEndpoint (e : UdpEndpoint) : UInt16 :=
  if e.address.isUnspecified then 0 else e.port

end Host

namespace SOCKS5Address

/-- The address object of a host with a port. -/
def ofHost (h : Host) (port : UInt16) : SOCKS5Address :=
  ⟨some h.addressType, h.text, port⟩

/-- What `generate` writes is the wire form of a host. -/
theorem generate_eq_wire (e : UdpEndpoint) :
    generate e = (Host.ofEndpoint e).wire (Host.portOfEndpoint e) := by
  unfold generate Host.ofEndpoint Host.portOfEndpoint
  by_cases hu : e.address.isUnspecified = true
  · rw [if_pos hu, if_pos hu, if_pos hu]
    rfl
  · rw [if_neg hu, if_neg hu, if_neg hu]
    cases e.address with
    | v4 b => rfl
    | v6 b => rfl

end SOCKS5Address

/-- A word and its bytes, the other way round. -/
theorem wordBytes_word (hi lo : UInt8) : wordBytes (word hi lo) = [hi, lo] := by
  have hhi := hi.toNat_lt
  have hlo := lo.toNat_lt
  have h1 : (hi.toNat * 256 + lo.toNat) / 256 = hi.toNat := by omega
  have h2 : (hi.toNat * 256 + lo.toNat) % 256 = lo.toNat := by omega
  rw [wordBytes, word, h1, h2, UInt8.ofNat_toNat, UInt8.ofNat_toNat]

/-- A port read from two bytes is written as these two bytes. -/
theorem wordBytes_port (hi lo : UInt8) :
    wordBytes (UInt16.ofNat (word hi lo)).toNat = [hi, lo] := by
  rw [UInt16.toNat_ofNat', Nat.mod_eq_of_lt (word_lt hi lo), wordBytes_word]

/-- A port is read back from its two bytes. -/
theorem ofNat_word_port (port : UInt16) :
    UInt16.ofNat (word (UInt8.ofNat (port.toNat / 256)) (UInt8.ofNat (port.toNat % 256)))
      = port := by
  rw [word_wordBytes port.toNat_lt, UInt16.ofNat_toNat]

/-- A list that reaches past position `k + 1` is what is before `k`, the two
bytes there, and the rest. -/
theorem take_pair_drop {data : Bytes} {k : ℕ} (h : k + 1 < data.length) :
    data = data.take k ++ ([data.getD k 0, data.getD (k + 1) 0] ++ data.drop (k + 2)) := by
  have hk : data.drop k = data.getD k 0 :: data.getD (k + 1) 0 :: data.drop (k + 2) := by
    rw [List.drop_eq_getElem_cons (by omega : k < data.length),
      List.drop_eq_getElem_cons h, List.getD_eq_getElem _ _ (by omega : k < data.length),
      List.getD_eq_getElem _ _ h]
  calc data = data.take k ++ data.drop k := (List.take_append_drop k data).symm
    _ = _ := by rw [hk]; rfl

/-- **Reading an address off its header.** Where the bytes before position `k`
are a host's header and two more follow, the input starts with the host's wire
form, the port being these two bytes. -/
theorem Host.eq_wire_of_header (host : Host) (data : Bytes) {k : ℕ}
    (hhead : data.take k = host.header) (h : k + 1 < data.length) :
    data = host.wire (UInt16.ofNat (word (data.getD k 0) (data.getD (k + 1) 0)))
        ++ data.drop (k + 2)
      ∧ ∀ port, (host.wire port).length = k + 2 := by
  constructor
  · rw [wire, wordBytes_port, ← hhead, List.append_assoc]
    exact take_pair_drop h
  · intro port
    rw [length_wire, ← hhead, List.length_take_of_le (by omega)]

namespace SOCKS5Address

/-- **A complete address is parsed to what it names**, whatever follows
it. -/
theorem parse_wire (self : SOCKS5Address) (h : Host) (port : UInt16) (r : Bytes) :
    self.parse (h.wire port ++ r) = (ofHost h port, some (h.wire port).length) := by
  cases h with
  | v4 b =>
    obtain ⟨⟨l⟩, hl⟩ := b
    match l, hl with
    | [a, b, c, d], _ =>
      simp [parse, AddressType.ofByte, Host.wire, Host.header, ofHost, Host.text,
        Host.addressType, wordBytes, Vector.toList, ofNat_word_port]
  | v6 b =>
    obtain ⟨⟨l⟩, hl⟩ := b
    match l, hl with
    | [a0, a1, a2, a3, a4, a5, a6, a7, a8, a9, a10, a11, a12, a13, a14, a15], _ =>
      simp [parse, AddressType.ofByte, Host.wire, Host.header, ofHost, Host.text,
        Host.addressType, wordBytes, Vector.toList, ofNat_word_port]
  | domain name pos short =>
    have hlen : (UInt8.ofNat name.length).toNat = name.length := by
      rw [UInt8.toNat_ofNat']
      omega
    have hne : name ≠ [] := List.ne_nil_of_length_pos pos
    have hroom : 1 + name.length < name.length + (r.length + 1 + 1) := by omega
    have hsum : 2 + name.length + 2 = name.length + 2 + 1 + 1 := by omega
    simp [parse, AddressType.ofByte, Host.wire, Host.header, ofHost, Host.text,
      Host.addressType, wordBytes, hlen, hne, hroom, hsum, ofNat_word_port]

/-- **Only complete addresses are parsed.** A parse that succeeds has found
the wire form of a host with a port at the front of its input, and its result
is what that form names. -/
theorem exists_wire_of_parse {self x : SOCKS5Address} {data : Bytes} {n : ℕ}
    (h : self.parse data = (x, some n)) :
    ∃ host port r, data = Host.wire host port ++ r ∧ x = ofHost host port
      ∧ n = (host.wire port).length := by
  unfold parse at h
  split at h
  · exact absurd (Prod.mk.inj h).2 (by simp)
  · rename_i hty
    obtain ⟨rest, rfl⟩ := AddressType.exists_cons_of_ofByte hty
    split at h
    · rename_i hlong
      obtain ⟨rfl, hn⟩ := Prod.mk.inj h
      have hl : ((rest.take 4).toArray).size = 4 := by
        simp only [List.length_cons] at hlong
        simp
        omega
      obtain ⟨hdata, hwire⟩ := Host.eq_wire_of_header (k := 5)
        (.v4 ⟨(rest.take 4).toArray, hl⟩) _ rfl hlong
      exact ⟨_, _, _, hdata, rfl, by rw [← Option.some.inj hn, hwire]⟩
    · exact absurd (Prod.mk.inj h).2 (by simp)
  · rename_i hty
    obtain ⟨rest, rfl⟩ := AddressType.exists_cons_of_ofByte hty
    dsimp only at h
    split at h
    · exact absurd (Prod.mk.inj h).2 (by simp)
    · rename_i hzero
      split at h
      · rename_i hlong
        obtain ⟨rfl, hn⟩ := Prod.mk.inj h
        cases rest with
        | nil => exact absurd rfl hzero
        | cons b rest =>
          simp only [List.getD_cons_succ, List.getD_cons_zero] at hzero hlong hn ⊢
          have hb := b.toNat_lt
          have hname : (rest.take b.toNat).length = b.toNat := by
            rw [List.length_take_of_le]
            simp only [List.length_cons] at hlong
            omega
          obtain ⟨hdata, hwire⟩ := Host.eq_wire_of_header (k := b.toNat + 2)
            (.domain (rest.take b.toNat) (by omega) (by omega))
            (AddressType.domainname.byte :: b :: rest)
            (by
              show _ :: b :: rest.take b.toNat = _ :: UInt8.ofNat _ :: _
              rw [hname, UInt8.ofNat_toNat]
              rfl)
            (by omega)
          refine ⟨_, _, _, hdata, rfl, ?_⟩
          rw [← Option.some.inj hn, hwire]
          omega
      · exact absurd (Prod.mk.inj h).2 (by simp)
  · rename_i hty
    obtain ⟨rest, rfl⟩ := AddressType.exists_cons_of_ofByte hty
    split at h
    · rename_i hlong
      obtain ⟨rfl, hn⟩ := Prod.mk.inj h
      have hl : ((rest.take 16).toArray).size = 16 := by
        simp only [List.length_cons] at hlong
        simp
        omega
      obtain ⟨hdata, hwire⟩ := Host.eq_wire_of_header (k := 17)
        (.v6 ⟨(rest.take 16).toArray, hl⟩) _ rfl hlong
      exact ⟨_, _, _, hdata, rfl, by rw [← Option.some.inj hn, hwire]⟩
    · exact absurd (Prod.mk.inj h).2 (by simp)

end SOCKS5Address
