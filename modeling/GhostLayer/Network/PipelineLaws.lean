import GhostLayer.Network.Pipeline
import GhostLayer.Network.Prefix

/-! # What goes out over the tunnel

The packets that are accepted, and the destinations that they are sent to: those
outside all of the networks that are kept for the local system or for groups.
-/

namespace Network

open Foundation

/-! ## Packets -/

namespace NetworkPacket

/-- The length of an IPv4 header, as its first byte gives it. -/
def headerLength (bytes : Bytes) : Nat := (bytes.getD 0 0 &&& 15).toNat * 4

/-- The bytes have the header of a type of packets. -/
def HasHeader (bytes : Bytes) : PacketType → Prop
  | .ipv4 => bytes.getD 0 0 >>> 4 = 4 ∧ 20 ≤ headerLength bytes ∧ headerLength bytes ≤ bytes.length
  | .ipv6 => bytes.getD 0 0 >>> 4 = 6 ∧ 40 ≤ bytes.length

theorem new_eq_ok {bytes : Bytes} {maximumSize mtu : Nat} {packet : NetworkPacket} :
    NetworkPacket.new bytes maximumSize mtu = .ok packet ↔
      (maximumSize ≠ 0 ∧ mtu ≠ 0) ∧ (bytes.length ≤ maximumSize ∧ bytes.length ≤ mtu) ∧
        HasHeader bytes packet.packetType ∧ packet.bytes = bytes := by
  obtain ⟨contents, packetType⟩ := packet
  cases bytes with
  | nil => cases packetType <;> simp [NetworkPacket.new, HasHeader, Check.bind_eq_ok]
  | cons first rest =>
      simp only [NetworkPacket.new, Check.bind_eq_ok, Check.failWhen_eq_ok, not_or, not_lt,
        exists_const]
      refine and_congr_right fun _ => ?_
      rw [← and_assoc]
      refine and_congr_right fun _ => ?_
      split_ifs with hfour hsix
      · simp only [Check.bind_eq_ok, Check.failWhen_eq_ok, not_or, not_lt, exists_const]
        cases packetType <;> simp [HasHeader, headerLength, hfour, pure, Except.pure, eq_comm]
      · simp only [Check.bind_eq_ok, Check.failWhen_eq_ok, not_lt, exists_const]
        cases packetType <;> simp [HasHeader, hsix, pure, Except.pure, eq_comm]
      · cases packetType <;> simp [HasHeader, hfour, hsix]

end NetworkPacket

/-! ## Reserved networks -/

theorem exists_octets (octets : Vector UInt8 4) :
    ∃ first second third fourth, octets = ⟨#[first, second, third, fourth], rfl⟩ :=
  ⟨octets[0], octets[1], octets[2], octets[3], Vector.ext fun index hindex => by
    interval_cases index <;> rfl⟩

/-- A network of IPv4 addresses, from its octets. -/
def networkV4 (first second third fourth prefixLength : UInt8) : IpPrefix :=
  ⟨.v4 (Ipv4Addr.new first second third fourth), prefixLength⟩

/-- A network of IPv6 addresses, from the first two octets and the last one. -/
def networkV6 (first second last prefixLength : UInt8) : IpPrefix :=
  ⟨.v6 ⟨#[first, second, 0, 0, 0, 0, 0, 0, 0, 0, 0, 0, 0, 0, 0, last], rfl⟩, prefixLength⟩

/-- The loopback, private, link-local, multicast, broadcast and unspecified addresses. -/
def reservedV4 : List IpPrefix :=
  [networkV4 127 0 0 0 8, networkV4 10 0 0 0 8, networkV4 172 16 0 0 12, networkV4 192 168 0 0 16,
    networkV4 169 254 0 0 16, networkV4 224 0 0 0 4, networkV4 255 255 255 255 32,
    networkV4 0 0 0 0 32]

/-- The loopback, unique-local, link-local, multicast and unspecified addresses. -/
def reservedV6 : List IpPrefix :=
  [networkV6 0 0 1 128, networkV6 0xfc 0 0 7, networkV6 0xfe 0x80 0 10, networkV6 0xff 0 0 8,
    networkV6 0 0 0 128]

def IsReserved (address : IpAddr) : Prop :=
  ∃ network ∈ reservedV4 ++ reservedV6, network.contains address = true

namespace IpAddr

variable {first second : IpAddr} {count remaining : Nat}

/-- Addresses of one family begin with the same bits when they begin with the same octets and the
bits behind these are the same. -/
theorem agree_iff (hlength : first.octets.length = second.octets.length)
    (hremaining : remaining ≤ 8) :
    (∀ index < 8 * count + remaining, first.bit index = second.bit index) ↔
      first.octets.take count = second.octets.take count ∧
        ∀ offset < remaining, (first.octets.getD count 0).toBitVec.getMsbD offset =
          (second.octets.getD count 0).toBitVec.getMsbD offset := by
  have hposition (byte offset : Nat) (hoffset : offset < 8) :
      (8 * byte + offset) / 8 = byte ∧ (8 * byte + offset) % 8 = offset := by omega
  constructor
  · intro hbits
    constructor
    · refine List.ext_getElem (by simp [hlength]) fun byte hfirst hsecond => ?_
      rw [List.length_take] at hfirst hsecond
      rw [List.getElem_take, List.getElem_take]
      refine octet_eq_of_bits fun offset hoffset => ?_
      obtain ⟨hdiv, hmod⟩ := hposition byte offset hoffset
      have hbit := hbits (8 * byte + offset) (by omega)
      rwa [bit, bit, hdiv, hmod, List.getD_eq_getElem?_getD, List.getD_eq_getElem?_getD,
        List.getElem?_eq_getElem (by omega), List.getElem?_eq_getElem (by omega),
        Option.getD_some, Option.getD_some] at hbit
    · intro offset hoffset
      obtain ⟨hdiv, hmod⟩ := hposition count offset (by omega)
      simpa only [bit, hdiv, hmod] using hbits (8 * count + offset) (by omega)
  · rintro ⟨hoctets, hoffsets⟩ index hindex
    by_cases hbyte : index / 8 < count
    · have hoctet := congrArg (·[index / 8]?) hoctets
      simp only [List.getElem?_take_of_lt hbyte] at hoctet
      rw [bit, bit, List.getD_eq_getElem?_getD, List.getD_eq_getElem?_getD, hoctet]
    · obtain hcount : index / 8 = count := by omega
      rw [bit, bit, hcount]
      exact hoffsets _ (by omega)

end IpAddr

theorem IpAddr.length_octets {first second : IpAddr} (hfamily : first.isIpv4 = second.isIpv4) :
    first.octets.length = second.octets.length := by
  cases first <;> cases second <;> first | (cases hfamily; done) |
    simp only [octets, Vector.length_toList]

/-- A network contains the addresses of its family that begin with its octets and bits. -/
theorem IpPrefix.contains_iff {network : IpPrefix} {other : IpAddr}
    (hnetwork : network.IsNetwork) (hfamily : other.isIpv4 = network.address.isIpv4)
    (count remaining : Nat) (hlength : network.prefixLength.toNat = 8 * count + remaining)
    (hremaining : remaining ≤ 8) :
    network.contains other = true ↔
      other.octets.take count = network.address.octets.take count ∧
        ∀ offset < remaining, (other.octets.getD count 0).toBitVec.getMsbD offset =
          (network.address.octets.getD count 0).toBitVec.getMsbD offset := by
  rw [hnetwork.contains_iff, hlength, IpAddr.agree_iff (IpAddr.length_octets hfamily) hremaining]
  exact and_iff_right hfamily

theorem not_contains_of_family {network : IpPrefix} {other : IpAddr}
    (hfamily : other.isIpv4 ≠ network.address.isIpv4) : network.contains other = false :=
  if_pos (Ne.symm hfamily)

/-- A property of all octets is checked on their bits. -/
theorem octets_forall {property : UInt8 → Prop}
    (hall : ∀ bits : BitVec 8, property (.ofBitVec bits)) (octet : UInt8) : property octet :=
  hall octet.toBitVec

/-! ### IPv4 -/

theorem contains_networkV4 {first second third fourth prefixLength : UInt8} (a b c d : UInt8)
    (hnetwork : (networkV4 first second third fourth prefixLength).IsNetwork)
    (count remaining : Nat) (hlength : prefixLength.toNat = 8 * count + remaining)
    (hremaining : remaining ≤ 8) :
    (networkV4 first second third fourth prefixLength).contains (.v4 ⟨#[a, b, c, d], rfl⟩) = true ↔
      [a, b, c, d].take count = [first, second, third, fourth].take count ∧
        ∀ offset < remaining, ([a, b, c, d].getD count 0).toBitVec.getMsbD offset =
          ([first, second, third, fourth].getD count 0).toBitVec.getMsbD offset := by
  have hfamily : (IpAddr.v4 ⟨#[a, b, c, d], rfl⟩).isIpv4 =
      (networkV4 first second third fourth prefixLength).address.isIpv4 := rfl
  rw [IpPrefix.contains_iff hnetwork hfamily count remaining hlength hremaining]
  rfl

theorem high_private (octet : UInt8) :
    (∀ offset < 4, octet.toBitVec.getMsbD offset = (16#8).getMsbD offset) ↔
      octet ≥ 16 ∧ octet ≤ 31 := by
  revert octet
  exact octets_forall (by decide +kernel)

theorem high_multicast (octet : UInt8) :
    (∀ offset < 4, octet.toBitVec.getMsbD offset = (224#8).getMsbD offset) ↔
      octet >>> 4 = 14 := by
  revert octet
  exact octets_forall (by decide +kernel)

theorem isReserved_v4 {address : IpAddr} (hfamily : address.isIpv4 = true) :
    IsReserved address ↔ ∃ network ∈ reservedV4, network.contains address = true := by
  have hother : ∀ network ∈ reservedV6, network.address.isIpv4 = false := by decide
  simp only [IsReserved, List.mem_append, or_and_right, exists_or, or_iff_left_iff_imp]
  rintro ⟨network, hmem, hcontains⟩
  rw [not_contains_of_family (by rw [hfamily, hother network hmem]; decide)] at hcontains
  cases hcontains

theorem ite_eq_public {condition : Prop} [Decidable condition] {class' rest : DestinationClass}
    (hclass : class' ≠ .public') :
    (if condition then class' else rest) = .public' ↔ ¬ condition ∧ rest = .public' := by
  split_ifs with hcondition <;> simp [hcondition, hclass]

/-- The public IPv4 addresses are those outside the reserved networks. -/
theorem classifyV4_eq_public (octets : Vector UInt8 4) :
    classifyV4 octets = .public' ↔ ¬ IsReserved (.v4 octets) := by
  obtain ⟨a, b, c, d, rfl⟩ := exists_octets octets
  have hloopback := @contains_networkV4 127 0 0 0 8 a b c d (by decide) 1 0 rfl (by decide)
  have hten := @contains_networkV4 10 0 0 0 8 a b c d (by decide) 1 0 rfl (by decide)
  have htwelve := (@contains_networkV4 172 16 0 0 12 a b c d (by decide) 1 4 rfl
    (by decide)).trans (and_congr_right' (high_private _))
  have hsixteen := @contains_networkV4 192 168 0 0 16 a b c d (by decide) 2 0 rfl (by decide)
  have hlocal := @contains_networkV4 169 254 0 0 16 a b c d (by decide) 2 0 rfl (by decide)
  have hgroup := (@contains_networkV4 224 0 0 0 4 a b c d (by decide) 0 4 rfl (by decide)).trans
    (and_congr_right' (high_multicast _))
  have hall := @contains_networkV4 255 255 255 255 32 a b c d (by decide) 4 0 rfl (by decide)
  have hnone := @contains_networkV4 0 0 0 0 32 a b c d (by decide) 4 0 rfl (by decide)
  rw [isReserved_v4 rfl]
  simp only [reservedV4, List.exists_mem_cons_iff, hloopback, hten, htwelve, hsixteen, hlocal,
    hgroup, hall, hnone]
  simp only [classifyV4, ite_eq_public, ne_eq, reduceCtorEq, not_false_eq_true]
  simp only [Ipv4Addr.isPrivate, Ipv4Addr.isLinkLocal, decide_eq_true_eq]
  simp [IpAddr.isLoopback, IpAddr.isMulticast, IpAddr.isBroadcast, IpAddr.isUnspecified, and_assoc]

/-! ### IPv6 -/

theorem contains_networkV6 {first second last prefixLength : UInt8} (octets : Vector UInt8 16)
    (hnetwork : (networkV6 first second last prefixLength).IsNetwork)
    (count remaining : Nat) (hlength : prefixLength.toNat = 8 * count + remaining)
    (hremaining : remaining ≤ 8) :
    (networkV6 first second last prefixLength).contains (.v6 octets) = true ↔
      octets.toList.take count =
          [first, second, 0, 0, 0, 0, 0, 0, 0, 0, 0, 0, 0, 0, 0, last].take count ∧
        ∀ offset < remaining, (octets.toList.getD count 0).toBitVec.getMsbD offset =
          ([first, second, 0, 0, 0, 0, 0, 0, 0, 0, 0, 0, 0, 0, 0, last].getD count
            0).toBitVec.getMsbD offset := by
  have hfamily : (IpAddr.v6 octets).isIpv4 =
      (networkV6 first second last prefixLength).address.isIpv4 := rfl
  rw [IpPrefix.contains_iff hnetwork hfamily count remaining hlength hremaining]
  rfl

theorem high_uniqueLocal (octet : UInt8) :
    (∀ offset < 7, octet.toBitVec.getMsbD offset = (252#8).getMsbD offset) ↔
      octet &&& 0xfe = 0xfc := by
  revert octet
  exact octets_forall (by decide +kernel)

theorem high_linkLocal (octet : UInt8) :
    (∀ offset < 2, octet.toBitVec.getMsbD offset = (128#8).getMsbD offset) ↔
      octet &&& 0xc0 = 0x80 := by
  revert octet
  exact octets_forall (by decide +kernel)

theorem isReserved_v6 {address : IpAddr} (hfamily : address.isIpv4 = false) :
    IsReserved address ↔ ∃ network ∈ reservedV6, network.contains address = true := by
  have hother : ∀ network ∈ reservedV4, network.address.isIpv4 = true := by decide
  simp only [IsReserved, List.mem_append, or_and_right, exists_or, or_iff_right_iff_imp]
  rintro ⟨network, hmem, hcontains⟩
  rw [not_contains_of_family (by rw [hfamily, hother network hmem]; decide)] at hcontains
  cases hcontains

/-- The public IPv6 addresses are those outside the reserved networks. -/
theorem classifyV6_eq_public (octets : Vector UInt8 16) :
    classifyV6 octets = .public' ↔ ¬ IsReserved (.v6 octets) := by
  have hloopback := @contains_networkV6 0 0 1 128 octets (by decide) 16 0 rfl (by decide)
  have hlocal := (@contains_networkV6 0xfc 0 0 7 octets (by decide) 0 7 rfl (by decide)).trans
    (and_congr_right' (high_uniqueLocal _))
  have hlink := (@contains_networkV6 0xfe 0x80 0 10 octets (by decide) 1 2 rfl (by decide)).trans
    (and_congr_right' (high_linkLocal _))
  have hgroup := @contains_networkV6 0xff 0 0 8 octets (by decide) 1 0 rfl (by decide)
  have hnone := @contains_networkV6 0 0 0 128 octets (by decide) 16 0 rfl (by decide)
  have hwhole : octets.toList.take 16 = octets.toList := List.take_of_length_le (by simp)
  have hone : octets.toList.take 1 = [octets[0]] := by
    refine List.ext_getElem (by simp) fun index hfirst hsecond => ?_
    obtain rfl : index = 0 := by simpa using hsecond
    simp
  have hzero : octets.toList.all (· == 0) = true ↔ octets.toList = List.replicate 16 0 := by
    simp only [List.all_eq_true, beq_iff_eq, List.eq_replicate_iff, Vector.length_toList, true_and]
  rw [isReserved_v6 rfl]
  simp only [reservedV6, List.exists_mem_cons_iff, hloopback, hlocal, hlink, hgroup, hnone,
    hwhole, hone]
  simp only [classifyV6, ite_eq_public, ne_eq, reduceCtorEq, not_false_eq_true,
    IpAddr.isMulticast, IpAddr.isUnspecified, hzero]
  simp [IpAddr.isLoopback, Ipv6Addr.isUniqueLocal, Ipv6Addr.isUnicastLinkLocal]

/-! ### Destinations of packets -/

namespace NetworkPacket

/-- The destination in the header of a packet. -/
def destination (packet : NetworkPacket) : IpAddr :=
  match packet.packetType with
  | .ipv4 => .v4 (Vector.ofFn fun index => packet.octet (16 + index))
  | .ipv6 => .v6 (Vector.ofFn fun index => packet.octet (24 + index))

/-- A packet that was accepted goes out when its destination is not reserved. -/
theorem classifyDestination_eq_public {bytes : Bytes} {maximumSize mtu : Nat}
    {packet : NetworkPacket} (hnew : NetworkPacket.new bytes maximumSize mtu = .ok packet) :
    classifyDestination packet = .ok .public' ↔ ¬ IsReserved packet.destination := by
  obtain ⟨-, -, hheader, rfl⟩ := new_eq_ok.mp hnew
  obtain ⟨bytes, packetType⟩ := packet
  cases packetType with
  | ipv4 =>
      obtain ⟨-, htwenty, hfits⟩ := hheader
      simp only at htwenty hfits
      have hgood : ¬ (bytes.length < 20 ∨ headerLength bytes > bytes.length) := by omega
      rw [destination, ← classifyV4_eq_public, classifyDestination]
      simp only [Check.bind_eq_ok, Check.failWhen_eq_ok, octet, ← headerLength.eq_def, hgood,
        not_false_eq_true, exists_const, true_and]
      exact ⟨fun hclass => Except.ok.inj hclass, fun hclass => congrArg Except.ok hclass⟩
  | ipv6 =>
      obtain ⟨-, hforty⟩ := hheader
      rw [destination, ← classifyV6_eq_public, classifyDestination]
      simp only [Check.bind_eq_ok, Check.failWhen_eq_ok, not_lt.mpr hforty, not_false_eq_true,
        exists_const, true_and]
      exact ⟨fun hclass => Except.ok.inj hclass, fun hclass => congrArg Except.ok hclass⟩

end NetworkPacket

end Network
