import Trojan.Client.RoutingDecisionEngine
import Trojan.Util.BitPrefix

/-!
# Addresses in a network

A rule can ask for the address of a request to be in a network. The network is a text: an
address, a slash, and how many bits of the address count. The engine looks at bytes, under
a mask where fewer than eight bits are left to compare (`RoutingPlatform.sameNetwork`).
What it finds out is whether the first bits of the two addresses are the same, and the bits
of the network's address behind them do not matter (`RoutingPlatform.ipInCidr_iff_share`).

The loop is over the bytes of the one address, and the other is as long because it is of
the same kind. That an address has the length of its kind is what the platform promises
(`RoutingPlatform.SizedAddresses`).
-/

/-- The bytes of an address of a kind. -/
def InternetAddressType.byteCount : InternetAddressType → ℕ
  | .ipv4 => 4
  | .ipv6 => 16

namespace RoutingPlatform

variable (platform : RoutingPlatform)

/-- The addresses that are read from texts have as many bytes as their kind says. -/
def SizedAddresses : Prop :=
  ∀ text address, platform.parseAddress text = some address →
    address.rawAddress.length = address.type.byteCount

/-- **A text gives a network**: an address and a number of bits, with the first slash of
the text between them and something on both sides of it. -/
def GivesNetwork (cidrValue : Text) (network : InternetAddress) (prefixBits : ℤ) : Prop :=
  ∃ networkValue prefixValue : Text, cidrValue = networkValue ++ 0x2F :: prefixValue
    ∧ 0x2F ∉ networkValue ∧ networkValue ≠ [] ∧ prefixValue ≠ []
    ∧ platform.parseAddress networkValue.trim = some network
    ∧ platform.parseInt prefixValue.trim = some prefixBits

/-! ## The loop over the bytes -/

/-- **The loop compares the first bits** of two addresses that are equally long. -/
theorem sameNetwork_iff_share (bytes networks : List UInt8) (remaining : ℤ)
    (hlength : bytes.length = networks.length) :
    sameNetwork bytes networks remaining = true ↔ Bits.Share remaining.toNat bytes networks := by
  induction bytes generalizing networks remaining with
  | nil =>
    obtain rfl := List.length_eq_zero_iff.mp hlength.symm
    simp [sameNetwork, Bits.Share]
  | cons byte bytes ih =>
    obtain ⟨network, networks, rfl⟩ := List.exists_cons_of_length_eq_add_one hlength.symm
    have hrest : bytes.length = networks.length := by simpa using hlength
    unfold sameNetwork
    by_cases hdone : remaining ≤ 0
    · rw [if_pos hdone, Int.toNat_of_nonpos hdone]
      exact iff_of_true rfl Bits.share_zero
    · rw [if_neg hdone]
      by_cases hfull : 8 ≤ remaining
      · have hall (b : UInt8) : b &&& 0xFF = b := UInt8.and_neg_one
        have hrestBits : remaining.toNat - 8 = (remaining - 8).toNat := by omega
        rw [Bits.share_cons_iff_of_le (by omega), hrestBits, ← ih networks (remaining - 8) hrest]
        simp only [if_pos hfull, hall]
        by_cases heq : byte = network <;> simp [heq]
      · -- these are the last bits, and the loop stops at the next byte
        have hmask : (0xFF : UInt8) <<< (8 - remaining).toNat.toUInt8
            = Bits.mask remaining.toNat := by
          have hshift : (8 - remaining).toNat = 8 - remaining.toNat := by omega
          rw [Bits.mask, hshift]
        have hstop := ih networks (remaining - 8) hrest
        rw [Int.toNat_of_nonpos (by omega)] at hstop
        rw [Bits.share_cons_iff_of_lt (by omega), ← Bits.and_mask_eq_iff (by omega) (by omega)]
        simp only [if_neg hfull, hmask, hstop.mpr Bits.share_zero]
        by_cases heq : byte &&& Bits.mask remaining.toNat = network &&& Bits.mask remaining.toNat
          <;> simp [heq]

/-! ## The text of a network -/

/-- The first slash is where it is found. -/
theorem idxOf_slash {networkValue prefixValue : Text} (h : 0x2F ∉ networkValue) :
    (networkValue ++ 0x2F :: prefixValue : Text).idxOf 0x2F = networkValue.length := by
  rw [List.idxOf_append_of_notMem h, List.idxOf_cons_self, Nat.add_zero]

variable {platform}

/-- A text gives one network at most. -/
theorem GivesNetwork.unique {cidrValue : Text} {network network' : InternetAddress}
    {prefixBits prefixBits' : ℤ} (h : platform.GivesNetwork cidrValue network prefixBits)
    (h' : platform.GivesNetwork cidrValue network' prefixBits') :
    network = network' ∧ prefixBits = prefixBits' := by
  obtain ⟨networkValue, prefixValue, rfl, hslash, -, -, hnetwork, hbegins⟩ := h
  obtain ⟨networkValue', prefixValue', htext, hslash', -, -, hnetwork', hbegins'⟩ := h'
  have hlength := congrArg (List.idxOf 0x2F) htext
  rw [idxOf_slash hslash, idxOf_slash hslash'] at hlength
  obtain ⟨rfl, hcons⟩ := List.append_inj htext hlength
  obtain rfl := List.tail_eq_of_cons_eq hcons
  exact ⟨Option.some_inj.mp (hnetwork.symm.trans hnetwork'),
    Option.some_inj.mp (hbegins.symm.trans hbegins')⟩

/-- Nothing is in a text without a slash. -/
theorem ipInCidr_of_not_mem {cidrValue : Text} (h : 0x2F ∉ cidrValue) (ipValue : Text) :
    platform.ipInCidr ipValue cidrValue = false :=
  if_pos (.inl (List.idxOf_eq_length h))

/-- A text is cut at its first slash. -/
theorem ipInCidr_append_slash {networkValue prefixValue : Text} (h : 0x2F ∉ networkValue)
    (ipValue : Text) :
    platform.ipInCidr ipValue (networkValue ++ 0x2F :: prefixValue) = true ↔
      networkValue ≠ [] ∧ prefixValue ≠ [] ∧ ∃ ip network prefixBits,
        platform.parseAddress ipValue.trim = some ip
          ∧ platform.parseAddress networkValue.trim = some network
          ∧ platform.parseInt prefixValue.trim = some prefixBits ∧ ip.type = network.type
          ∧ 0 ≤ prefixBits ∧ prefixBits ≤ ip.rawAddress.length * 8
          ∧ sameNetwork ip.rawAddress network.rawAddress prefixBits = true := by
  have hends : (networkValue.length = (networkValue ++ 0x2F :: prefixValue : Text).length
      ∨ networkValue.length = 0
      ∨ networkValue.length = (networkValue ++ 0x2F :: prefixValue : Text).length - 1)
      ↔ networkValue = [] ∨ prefixValue = [] := by
    rw [List.length_append, List.length_cons, ← List.length_eq_zero_iff,
      ← List.length_eq_zero_iff]
    omega
  have hdrop : (networkValue ++ 0x2F :: prefixValue : Text).drop (networkValue.length + 1)
      = prefixValue := by
    rw [List.append_cons]
    exact List.drop_left' (by simp)
  rw [← and_assoc, ← not_or, ipInCidr]
  simp only [idxOf_slash h, hends, List.take_left, hdrop]
  constructor
  · intro htrue
    split at htrue
    · cases htrue
    · rename_i hnotEnds
      split at htrue
      · rename_i prefixBits ip network hbegins hip hnetwork
        split_ifs at htrue with htype hrange
        rw [not_or, not_lt, not_lt] at hrange
        exact ⟨hnotEnds, ip, network, prefixBits, hip, hnetwork, hbegins, not_not.mp htype,
          hrange.1, hrange.2, htrue⟩
      · cases htrue
  · rintro ⟨hnotEnds, ip, network, prefixBits, hip, hnetwork, hbegins, htype, hnonneg, hle, hsame⟩
    rw [if_neg hnotEnds, hbegins, hip, hnetwork]
    dsimp only
    rw [if_neg (not_not.mpr htype), if_neg (by omega), hsame]

/-- **What is compared**: an address that is read, and one of its kind with a number of
bits that it has. -/
theorem ipInCidr_eq_true_iff {ipValue cidrValue : Text} :
    platform.ipInCidr ipValue cidrValue = true ↔
      ∃ ip network prefixBits, platform.parseAddress ipValue.trim = some ip
        ∧ platform.GivesNetwork cidrValue network prefixBits ∧ ip.type = network.type
        ∧ 0 ≤ prefixBits ∧ prefixBits ≤ ip.rawAddress.length * 8
        ∧ sameNetwork ip.rawAddress network.rawAddress prefixBits = true := by
  constructor
  · intro h
    by_cases hmem : 0x2F ∈ cidrValue
    · obtain ⟨networkValue, prefixValue, rfl, hslash⟩ := List.eq_append_cons_of_mem hmem
      obtain ⟨hfront, hback, ip, network, prefixBits, hip, hnetwork, hbegins, hcompared⟩ :=
        (ipInCidr_append_slash hslash ipValue).mp h
      exact ⟨ip, network, prefixBits, hip, ⟨networkValue, prefixValue, rfl, hslash, hfront, hback,
        hnetwork, hbegins⟩, hcompared⟩
    · rw [ipInCidr_of_not_mem hmem] at h
      cases h
  · rintro ⟨ip, network, prefixBits, hip, ⟨networkValue, prefixValue, rfl, hslash, hfront, hback,
      hnetwork, hbegins⟩, hcompared⟩
    exact (ipInCidr_append_slash hslash ipValue).mpr
      ⟨hfront, hback, ip, network, prefixBits, hip, hnetwork, hbegins, hcompared⟩

/-- **An address is in a network exactly if they share the bits** that the network gives.
For an address that is read and a network of its kind, with a number of bits that the
address has, it is so whatever the other bits are. Where the address is not read, the text
gives no network, the kinds differ or there are not so many bits, it is in no network. -/
theorem ipInCidr_iff_share (hsized : platform.SizedAddresses) (ipValue cidrValue : Text) :
    (∀ ip network prefixBits, platform.parseAddress ipValue.trim = some ip →
        platform.GivesNetwork cidrValue network prefixBits → ip.type = network.type →
        0 ≤ prefixBits → prefixBits ≤ ip.type.byteCount * 8 →
        (platform.ipInCidr ipValue cidrValue = true ↔
          Bits.Share prefixBits.toNat ip.rawAddress network.rawAddress))
      ∧ ((¬ ∃ ip network prefixBits, platform.parseAddress ipValue.trim = some ip
          ∧ platform.GivesNetwork cidrValue network prefixBits ∧ ip.type = network.type
          ∧ 0 ≤ prefixBits ∧ prefixBits ≤ ip.type.byteCount * 8) →
        platform.ipInCidr ipValue cidrValue = false) := by
  constructor
  · intro ip network prefixBits hip hnetwork htype hnonneg hle
    have hlengthIp := hsized _ ip hip
    have hlength : ip.rawAddress.length = network.rawAddress.length := by
      obtain ⟨networkValue, _, _, _, _, _, hparsed, _⟩ := hnetwork
      rw [hlengthIp, htype, hsized _ network hparsed]
    rw [ipInCidr_eq_true_iff, ← sameNetwork_iff_share _ _ _ hlength]
    constructor
    · rintro ⟨ip', network', prefixBits', hip', hnetwork', -, -, -, hsame⟩
      obtain rfl := Option.some_inj.mp (hip.symm.trans hip')
      obtain ⟨rfl, rfl⟩ := hnetwork.unique hnetwork'
      exact hsame
    · intro hsame
      rw [← hlengthIp] at hle
      exact ⟨ip, network, prefixBits, hip, hnetwork, htype, hnonneg, hle, hsame⟩
  · intro hnone
    refine Bool.eq_false_iff.mpr (fun h => hnone ?_)
    obtain ⟨ip, network, prefixBits, hip, hnetwork, htype, hnonneg, hle, -⟩ :=
      ipInCidr_eq_true_iff.mp h
    rw [hsized _ ip hip] at hle
    exact ⟨ip, network, prefixBits, hip, hnetwork, htype, hnonneg, hle⟩

/-! ## A platform that reads two addresses -/

def officeAddress : Text := Text.ofString "10.20.37.4"

def officeNetwork : Text := Text.ofString "10.20.32.9/20"

/-- A platform that reads the address `10.20.37.4`, and the address and the number of bits
of the network `10.20.32.9/20`. -/
def officePlatform : RoutingPlatform where
  sorter := Sorter.insertion
  toLowerCase := Text.asciiLower
  toLowerCase_nil := Text.asciiLower_nil
  hasMatch _ _ := none
  parseInt text := if text = Text.ofString "20" then some 20 else none
  parseAddress text :=
    if text = officeAddress then some ⟨.ipv4, [10, 20, 37, 4]⟩
    else if text = Text.ofString "10.20.32.9" then some ⟨.ipv4, [10, 20, 32, 9]⟩
    else none

/-- The first twenty bits of two addresses are the same, and the others are not. -/
theorem ipInCidr_iff_share_office :
    officePlatform.SizedAddresses
      ∧ officePlatform.ipInCidr officeAddress officeNetwork = true := by
  have hsized : officePlatform.SizedAddresses := by
    intro text address h
    unfold officePlatform at h
    dsimp only at h
    split_ifs at h <;> cases h <;> rfl
  have hnetwork : officePlatform.GivesNetwork officeNetwork ⟨.ipv4, [10, 20, 32, 9]⟩ 20 :=
    ⟨Text.ofString "10.20.32.9", Text.ofString "20", by decide +kernel⟩
  refine ⟨hsized, ((ipInCidr_iff_share hsized officeAddress officeNetwork).1
    ⟨.ipv4, [10, 20, 37, 4]⟩ ⟨.ipv4, [10, 20, 32, 9]⟩ 20 (by decide +kernel) hnetwork rfl
    (by decide) (by decide)).mpr ?_⟩
  decide

end RoutingPlatform
