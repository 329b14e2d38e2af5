import GhostLayer.Network.Config

/-! # Prefixes of addresses, bit by bit

A prefix keeps the first bits of an address and clears the others, so it
contains the addresses of its family that begin with the same bits. An IPv4
address is masked as one number, an IPv6 address byte by byte.
-/

namespace Network

open Foundation

namespace IpAddr

def isIpv4 : IpAddr → Bool
  | .v4 _ => true
  | .v6 _ => false

def octets : IpAddr → List UInt8
  | .v4 octets => octets.toList
  | .v6 octets => octets.toList

/-- The bits of an address, the most significant first. -/
def bit (address : IpAddr) (index : Nat) : Bool :=
  (address.octets.getD (index / 8) 0).toBitVec.getMsbD (index % 8)

end IpAddr

def IpPrefix.contains (network : IpPrefix) (address : IpAddr) : Bool :=
  if network.address.isIpv4 ≠ address.isIpv4 then false
  else match IpPrefix.new address network.prefixLength with
    | .ok candidate => candidate.address = network.address
    | .error _ => false

namespace IpAddr

/-! ## Bits of octets -/

theorem bit_v4 (octets : Vector UInt8 4) {index : Nat} (hindex : index / 8 < 4) :
    (IpAddr.v4 octets).bit index = octets[index / 8].toBitVec.getMsbD (index % 8) := by
  simp only [bit, IpAddr.octets, List.getD_eq_getElem?_getD, Vector.getElem?_toList,
    Vector.getElem?_eq_getElem hindex, Option.getD_some]

theorem bit_v6 (octets : Vector UInt8 16) {index : Nat} (hindex : index / 8 < 16) :
    (IpAddr.v6 octets).bit index = octets[index / 8].toBitVec.getMsbD (index % 8) := by
  simp only [bit, IpAddr.octets, List.getD_eq_getElem?_getD, Vector.getElem?_toList,
    Vector.getElem?_eq_getElem hindex, Option.getD_some]

/-- There are no bits behind the last octet. -/
theorem bit_beyond {address : IpAddr} {index : Nat}
    (hindex : address.octets.length ≤ index / 8) : address.bit index = false := by
  rw [bit, List.getD_eq_getElem?_getD, List.getElem?_eq_none hindex]
  simp

theorem octet_eq_of_bits {first second : UInt8}
    (hbits : ∀ offset < 8, first.toBitVec.getMsbD offset = second.toBitVec.getMsbD offset) :
    first = second := by
  apply UInt8.toBitVec_inj.mp
  exact BitVec.eq_of_getMsbD_eq fun offset hoffset => hbits offset hoffset

/-- An address is its family and its bits. -/
theorem eq_of_bits {first second : IpAddr} (hfamily : first.isIpv4 = second.isIpv4)
    (hbits : ∀ index, first.bit index = second.bit index) : first = second := by
  have hposition (byte offset : Nat) (hoffset : offset < 8) :
      (8 * byte + offset) / 8 = byte ∧ (8 * byte + offset) % 8 = offset := by omega
  cases first with
  | v4 first =>
      cases second with
      | v6 second => cases hfamily
      | v4 second =>
          congr 1
          refine Vector.ext fun byte hbyte => octet_eq_of_bits fun offset hoffset => ?_
          obtain ⟨hdiv, hmod⟩ := hposition byte offset hoffset
          have hbit := hbits (8 * byte + offset)
          rw [bit_v4 first (by omega), bit_v4 second (by omega)] at hbit
          simpa only [hdiv, hmod] using hbit
  | v6 first =>
      cases second with
      | v4 second => cases hfamily
      | v6 second =>
          congr 1
          refine Vector.ext fun byte hbyte => octet_eq_of_bits fun offset hoffset => ?_
          obtain ⟨hdiv, hmod⟩ := hposition byte offset hoffset
          have hbit := hbits (8 * byte + offset)
          rw [bit_v6 first (by omega), bit_v6 second (by omega)] at hbit
          simpa only [hdiv, hmod] using hbit

end IpAddr

namespace IpPrefix

variable {prefixLength : UInt8} {index : Nat}

/-! ## IPv4 -/

/-- The number of an IPv4 address has the bits of the address. -/
theorem bit_number (octets : Vector UInt8 4) (hindex : index < 32) :
    (UInt32.ofNat (Bytes.toNat octets.toList)).toBitVec.getMsbD index =
      (IpAddr.v4 octets).bit index := by
  have hbyte : index / 8 < 4 := by omega
  have hsmall : Bytes.toNat octets.toList < 2 ^ 32 := by
    simpa using Bytes.toNat_lt octets.toList
  have hdiv : (31 - index) / 8 = 3 - index / 8 := by omega
  have hmod : (31 - index) % 8 = 7 - index % 8 := by omega
  have hoctet : octets.toList.reverse.getD (3 - index / 8) 0 = octets[index / 8] := by
    rw [List.getD_eq_getElem?_getD, List.getElem?_reverse (by simp; omega)]
    simp [show 4 - 1 - (3 - index / 8) = index / 8 by omega, hbyte]
  rw [IpAddr.bit_v4 octets hbyte, BitVec.getMsbD_eq_getLsbD, BitVec.getMsbD_eq_getLsbD,
    ← BitVec.testBit_toNat, ← BitVec.testBit_toNat, UInt32.toNat_toBitVec, UInt32.toNat_ofNat',
    Nat.mod_eq_of_lt hsmall, Bytes.testBit_toNat, show 32 - 1 - index = 31 - index from rfl, hdiv,
    hmod, hoctet]
  simp [hindex, show index % 8 < 8 by omega]

/-- The octets of a number have its bits. -/
theorem bit_octets (number : UInt32) (hindex : index < 32) :
    (IpAddr.v4 (Vector.ofFn fun byte =>
      (number >>> UInt32.ofNat (8 * (3 - byte))).toUInt8)).bit index =
        number.toBitVec.getMsbD index := by
  have hbyte : index / 8 < 4 := by omega
  have hshift : ((UInt32.ofNat (8 * (3 - index / 8))).toBitVec % 32).toNat =
      8 * (3 - index / 8) := by
    rw [BitVec.toNat_umod, UInt32.toNat_toBitVec, UInt32.toNat_ofNat']
    simp
    omega
  rw [IpAddr.bit_v4 _ hbyte, Vector.getElem_ofFn, BitVec.getMsbD_eq_getLsbD,
    BitVec.getMsbD_eq_getLsbD, UInt32.toBitVec_toUInt8, BitVec.getLsbD_setWidth,
    UInt32.toBitVec_shiftRight, BitVec.ushiftRight_eq', BitVec.getLsbD_ushiftRight, hshift,
    show 8 * (3 - index / 8) + (8 - 1 - index % 8) = 32 - 1 - index by omega]
  simp [hindex, show index % 8 < 8 by omega, show 7 - index % 8 < 8 by omega]

theorem bit_mask (hlow : 1 ≤ prefixLength.toNat) (hhigh : prefixLength.toNat ≤ 32) :
    (if prefixLength = 32 then 0xFFFFFFFF
      else 0xFFFFFFFF <<< (32 - prefixLength.toUInt32) : UInt32).toBitVec.getMsbD index =
        decide (index < prefixLength.toNat) := by
  have hones : (0xFFFFFFFF : UInt32).toBitVec = BitVec.allOnes 32 := rfl
  split_ifs with hwhole
  · subst hwhole
    rw [hones, BitVec.getMsbD_allOnes]
    rfl
  · have hne : prefixLength.toNat ≠ 32 := fun hsame => hwhole (UInt8.toNat_inj.mp hsame)
    have hsub : (32 - prefixLength.toUInt32).toNat = 32 - prefixLength.toNat := by
      rw [UInt32.toNat_sub_of_le]
      · simp
      · rw [UInt32.le_iff_toNat_le]
        simpa using hhigh
    have hshift : ((32 - prefixLength.toUInt32).toBitVec % 32).toNat =
        32 - prefixLength.toNat := by
      rw [BitVec.toNat_umod, UInt32.toNat_toBitVec, hsub]
      simp
      omega
    rw [UInt32.toBitVec_shiftLeft, hones, BitVec.shiftLeft_eq', BitVec.getMsbD_shiftLeft, hshift,
      BitVec.getMsbD_allOnes]
    exact decide_eq_decide.mpr (by omega)

theorem bit_maskV4 (octets : Vector UInt8 4) (hlow : 1 ≤ prefixLength.toNat)
    (hhigh : prefixLength.toNat ≤ 32) :
    (IpAddr.v4 (maskV4 octets prefixLength)).bit index =
      (decide (index < prefixLength.toNat) && (IpAddr.v4 octets).bit index) := by
  by_cases hindex : index < 32
  · rw [maskV4, bit_octets _ hindex, UInt32.toBitVec_and, BitVec.getMsbD_and,
      bit_number octets hindex, bit_mask hlow hhigh, Bool.and_comm]
  · have hbeyond (octets : Vector UInt8 4) : (IpAddr.v4 octets).bit index = false :=
      IpAddr.bit_beyond (by simp [IpAddr.octets]; omega)
    simp [hbeyond]

/-! ## IPv6 -/

theorem bit_remaining (octet remaining : UInt8) (hlow : remaining ≠ 0) (hhigh : remaining.toNat < 8)
    (offset : Nat) :
    (octet &&& (0xff <<< (8 - remaining))).toBitVec.getMsbD offset =
      (decide (offset < remaining.toNat) && octet.toBitVec.getMsbD offset) := by
  have hones : (0xff : UInt8).toBitVec = BitVec.allOnes 8 := rfl
  have hpositive : remaining.toNat ≠ 0 := fun hzero => hlow (UInt8.toNat_inj.mp hzero)
  have hsub : (8 - remaining).toNat = 8 - remaining.toNat := by
    rw [UInt8.toNat_sub_of_le]
    · rfl
    · rw [UInt8.le_iff_toNat_le]
      exact hhigh.le
  have hshift : ((8 - remaining).toBitVec % 8).toNat = 8 - remaining.toNat := by
    rw [BitVec.toNat_umod, UInt8.toNat_toBitVec, hsub]
    simp
    omega
  rw [UInt8.toBitVec_and, BitVec.getMsbD_and, UInt8.toBitVec_shiftLeft, hones, BitVec.shiftLeft_eq',
    BitVec.getMsbD_shiftLeft, hshift, BitVec.getMsbD_allOnes, Bool.and_comm]
  congr 1
  exact decide_eq_decide.mpr (by omega)

theorem bit_maskV6 (octets : Vector UInt8 16) :
    (IpAddr.v6 (maskV6 octets prefixLength)).bit index =
      (decide (index < prefixLength.toNat) && (IpAddr.v6 octets).bit index) := by
  by_cases hindex : index < 128
  swap
  · have hbeyond (octets : Vector UInt8 16) : (IpAddr.v6 octets).bit index = false :=
      IpAddr.bit_beyond (by simp [IpAddr.octets]; omega)
    simp [hbeyond]
  have hbyte : index / 8 < 16 := by omega
  have hfull : (prefixLength / 8).toNat = prefixLength.toNat / 8 := UInt8.toNat_div _ _
  have hremaining : (prefixLength % 8).toNat = prefixLength.toNat % 8 := UInt8.toNat_mod _ _
  have hzero : prefixLength % 8 = 0 ↔ prefixLength.toNat % 8 = 0 := by
    rw [← UInt8.toNat_inj, hremaining]
    rfl
  rw [IpAddr.bit_v6 _ hbyte, IpAddr.bit_v6 _ hbyte, maskV6, Vector.getElem_ofFn]
  simp only [hfull]
  split_ifs with hwhole hpart
  · rw [decide_eq_true (by omega), Bool.true_and]
    rfl
  · rw [bit_remaining _ _ hpart.2 (by omega), hremaining]
    congr 1
    exact decide_eq_decide.mpr (by omega)
  · rw [not_and_or, not_not, hzero] at hpart
    rw [decide_eq_false (by omega), Bool.false_and]
    simp

/-! ## Both families -/

/-- An address without the bits behind a length. -/
def networkOf (address : IpAddr) (prefixLength : UInt8) : IpAddr :=
  match address with
  | .v4 octets => .v4 (maskV4 octets prefixLength)
  | .v6 octets => .v6 (maskV6 octets prefixLength)

/-- A length from one bit to the whole address. -/
def Fits (address : IpAddr) (prefixLength : UInt8) : Prop :=
  1 ≤ prefixLength.toNat ∧ prefixLength.toNat ≤ if address.isIpv4 then 32 else 128

theorem isIpv4_networkOf (address : IpAddr) (prefixLength : UInt8) :
    (networkOf address prefixLength).isIpv4 = address.isIpv4 := by
  cases address <;> rfl

theorem new_eq_ok {address : IpAddr} {result : IpPrefix} :
    new address prefixLength = .ok result ↔
      Fits address prefixLength ∧ result = ⟨networkOf address prefixLength, prefixLength⟩ := by
  have hfits : ¬ (prefixLength = 0 ∨ prefixLength > maximum address) ↔
      Fits address prefixLength := by
    have hzero : prefixLength = 0 ↔ prefixLength.toNat = 0 := UInt8.toNat_inj.symm
    have hmaximum : (maximum address).toNat = if address.isIpv4 then 32 else 128 := by
      cases address <;> rfl
    rw [Fits, ← hmaximum, not_or, hzero, gt_iff_lt, UInt8.lt_iff_toNat_lt]
    omega
  simp only [new, Check.bind_eq_ok, Check.failWhen_eq_ok, hfits, exists_const]
  cases address <;> simp [networkOf, pure, Except.pure, eq_comm]

theorem bit_networkOf {address : IpAddr} (hfits : Fits address prefixLength) (index : Nat) :
    (networkOf address prefixLength).bit index =
      (decide (index < prefixLength.toNat) && address.bit index) := by
  cases address with
  | v4 octets => exact bit_maskV4 octets hfits.1 hfits.2
  | v6 octets => exact bit_maskV6 octets

theorem networkOf_eq_iff {first second : IpAddr} (hfirst : Fits first prefixLength)
    (hfamily : first.isIpv4 = second.isIpv4) :
    networkOf first prefixLength = networkOf second prefixLength ↔
      ∀ index < prefixLength.toNat, first.bit index = second.bit index := by
  have hsecond : Fits second prefixLength := by rwa [Fits, ← hfamily]
  constructor
  · intro hsame index hindex
    have hbit := congrArg (IpAddr.bit · index) hsame
    simpa only [bit_networkOf hfirst, bit_networkOf hsecond, hindex, decide_true,
      Bool.true_and] using hbit
  · intro hbits
    refine IpAddr.eq_of_bits ?_ fun index => ?_
    · rw [isIpv4_networkOf, isIpv4_networkOf, hfamily]
    · rw [bit_networkOf hfirst, bit_networkOf hsecond]
      by_cases hindex : index < prefixLength.toNat
      · rw [hbits index hindex]
      · simp [hindex]

theorem contains_eq_true {address other : IpAddr} (hfits : Fits address prefixLength) :
    contains ⟨networkOf address prefixLength, prefixLength⟩ other = true ↔
      other.isIpv4 = address.isIpv4 ∧
        ∀ index < prefixLength.toNat, other.bit index = address.bit index := by
  unfold contains
  rw [isIpv4_networkOf]
  by_cases hfamily : other.isIpv4 = address.isIpv4
  · have hother : Fits other prefixLength := by rwa [Fits, hfamily]
    rw [if_neg (not_not.mpr hfamily.symm), new_eq_ok.mpr ⟨hother, rfl⟩]
    simp only [decide_eq_true_eq, networkOf_eq_iff hother hfamily, hfamily, true_and]
  · rw [if_pos (Ne.symm hfamily)]
    simp [hfamily]

/-- A length that fits, and no bits behind it. -/
def IsNetwork (network : IpPrefix) : Prop :=
  (1 ≤ network.prefixLength.toNat ∧
    network.prefixLength.toNat ≤ if network.address.isIpv4 then 32 else 128) ∧
  networkOf network.address network.prefixLength = network.address

instance : DecidablePred IsNetwork := fun _ => inferInstanceAs (Decidable (_ ∧ _))

theorem isNetwork_of_new {address : IpAddr} {result : IpPrefix}
    (hnew : new address prefixLength = .ok result) : result.IsNetwork := by
  obtain ⟨hfits, rfl⟩ := new_eq_ok.mp hnew
  have hfamily := isIpv4_networkOf address prefixLength
  have hagain : Fits (networkOf address prefixLength) prefixLength := by rwa [Fits, hfamily]
  refine ⟨hagain, (networkOf_eq_iff hagain hfamily).mpr fun index hindex => ?_⟩
  rw [bit_networkOf hfits, decide_eq_true hindex, Bool.true_and]

/-- A network contains the addresses of its family that begin with its bits. -/
theorem IsNetwork.contains_iff {network : IpPrefix}
    (hnetwork : network.IsNetwork) (other : IpAddr) :
    network.contains other = true ↔ other.isIpv4 = network.address.isIpv4 ∧
      ∀ index < network.prefixLength.toNat, other.bit index = network.address.bit index := by
  have hcontains := @contains_eq_true network.prefixLength network.address other hnetwork.1
  rwa [hnetwork.2] at hcontains

/-- When a prefix can be made, the bits it keeps, and the addresses it contains. -/
theorem new_laws (address : IpAddr) (prefixLength : UInt8) :
    ((∃ result, new address prefixLength = .ok result) ↔ 1 ≤ prefixLength.toNat ∧
      prefixLength.toNat ≤ if address.isIpv4 then 32 else 128) ∧
    ∀ result, new address prefixLength = .ok result →
      result.prefixLength = prefixLength ∧
      result.address.isIpv4 = address.isIpv4 ∧
      (∀ index, result.address.bit index =
        (decide (index < prefixLength.toNat) && address.bit index)) ∧
      new result.address prefixLength = .ok result ∧
      ∀ other, result.contains other = true ↔ other.isIpv4 = address.isIpv4 ∧
        ∀ index < prefixLength.toNat, other.bit index = address.bit index := by
  constructor
  · simp only [new_eq_ok, Fits, exists_and_left, exists_eq, and_true]
  · intro result hnew
    obtain ⟨hfits, rfl⟩ := new_eq_ok.mp hnew
    have hnetwork := isNetwork_of_new hnew
    exact ⟨rfl, isIpv4_networkOf address prefixLength, bit_networkOf hfits,
      new_eq_ok.mpr ⟨hnetwork.1, by rw [hnetwork.2]⟩, fun other => contains_eq_true hfits⟩

end IpPrefix

end Network
