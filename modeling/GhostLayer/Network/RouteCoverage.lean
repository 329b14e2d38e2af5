import GhostLayer.Foundation.Coverings
import GhostLayer.Network.ConfigLaws
import GhostLayer.Network.Prefix
import GhostLayer.Network.Reference

/-! # How much the configured routes cover

Every prefix is checked alone, so none of them is a default route. Together they
take the addresses that begin with the bits of one of the outermost prefixes, and
they leave an address of a family when the sizes of these do not add up to the
whole family.
-/

namespace Network

open Foundation

namespace IpAddr

/-- The bits of an address of a family. -/
def width (isIpv4 : Bool) : Nat := if isIpv4 then 32 else 128

def word (isIpv4 : Bool) (address : IpAddr) : Fin (width isIpv4) → Bool :=
  fun index => address.bit index

/-- The octet of eight bits, the most significant first. -/
def octetOf (bit : Nat → Bool) : UInt8 :=
  ⟨BitVec.ofBoolListBE [bit 0, bit 1, bit 2, bit 3, bit 4, bit 5, bit 6, bit 7]⟩

theorem getMsbD_octetOf (bit : Nat → Bool) {offset : Nat} (hoffset : offset < 8) :
    (octetOf bit).toBitVec.getMsbD offset = bit offset := by
  rw [octetOf, BitVec.getMsbD_ofBoolListBE]
  interval_cases offset <;> rfl

/-- The address of a family that has given bits. -/
def ofBits (isIpv4 : Bool) (bit : Nat → Bool) : IpAddr :=
  if isIpv4 then .v4 (Vector.ofFn fun byte => octetOf fun offset => bit (8 * byte + offset))
  else .v6 (Vector.ofFn fun byte => octetOf fun offset => bit (8 * byte + offset))

theorem isIpv4_ofBits (isIpv4 : Bool) (bit : Nat → Bool) :
    (ofBits isIpv4 bit).isIpv4 = isIpv4 := by
  cases isIpv4 <;> rfl

theorem bit_ofBits {isIpv4 : Bool} (bits : Nat → Bool) {index : Nat}
    (hindex : index < width isIpv4) : (ofBits isIpv4 bits).bit index = bits index := by
  have hoffset : index % 8 < 8 := Nat.mod_lt _ (by decide)
  cases isIpv4 with
  | true =>
      have hbyte : index / 8 < 4 := by simp only [width, if_true] at hindex; omega
      rw [ofBits, if_pos rfl, bit_v4 _ hbyte, Vector.getElem_ofFn, getMsbD_octetOf _ hoffset,
        Nat.div_add_mod]
  | false =>
      have hbyte : index / 8 < 16 := by
        simp only [width, Bool.false_eq_true, if_false] at hindex
        omega
      rw [ofBits, if_neg Bool.false_ne_true, bit_v6 _ hbyte, Vector.getElem_ofFn,
        getMsbD_octetOf _ hoffset, Nat.div_add_mod]

/-- Every word is the bits of an address. -/
theorem exists_word (isIpv4 : Bool) (bits : Fin (width isIpv4) → Bool) :
    ∃ address : IpAddr, address.isIpv4 = isIpv4 ∧ address.word isIpv4 = bits := by
  refine ⟨ofBits isIpv4 fun index => if hindex : index < width isIpv4 then bits ⟨index, hindex⟩
    else false, isIpv4_ofBits _ _, funext fun index => ?_⟩
  rw [word, bit_ofBits _ index.isLt, dif_pos index.isLt]

end IpAddr

namespace IpPrefix

/-- Whether a prefix lies in another one. -/
def Within (inner outer : IpPrefix) : Prop :=
  outer.prefixLength ≤ inner.prefixLength ∧ outer.contains inner.address = true

instance : DecidableRel Within := fun _ _ => inferInstanceAs (Decidable (_ ∧ _))

/-- The number of the addresses in a prefix. -/
def size (network : IpPrefix) : Nat :=
  2 ^ (IpAddr.width network.address.isIpv4 - network.prefixLength.toNat)

/-- The words of the addresses in a prefix of a family. -/
def words (isIpv4 : Bool) (network : IpPrefix) : Finset (Fin (IpAddr.width isIpv4) → Bool) :=
  Word.cylinder (network.address.word isIpv4) network.prefixLength.toNat

variable {isIpv4 : Bool} {network first second : IpPrefix} {address : IpAddr}

theorem IsNetwork.length_le (hnetwork : network.IsNetwork)
    (hfamily : network.address.isIpv4 = isIpv4) :
    network.prefixLength.toNat ≤ IpAddr.width isIpv4 := by
  rw [← hfamily]
  exact hnetwork.1.2

theorem mem_words_iff (hnetwork : network.IsNetwork) (hfamily : network.address.isIpv4 = isIpv4)
    (haddress : address.isIpv4 = isIpv4) :
    address.word isIpv4 ∈ network.words isIpv4 ↔ network.contains address = true := by
  have hlength := hnetwork.length_le hfamily
  rw [hnetwork.contains_iff, words, Word.mem_cylinder]
  constructor
  · intro hbits
    refine ⟨haddress.trans hfamily.symm, fun index hindex => ?_⟩
    exact hbits ⟨index, hindex.trans_le hlength⟩ hindex
  · rintro ⟨-, hbits⟩ index hindex
    exact hbits index hindex

theorem card_words (hnetwork : network.IsNetwork) (hfamily : network.address.isIpv4 = isIpv4) :
    (network.words isIpv4).card = network.size := by
  rw [words, Word.card_cylinder _ (hnetwork.length_le hfamily), Fintype.card_bool, size, hfamily]

theorem within_iff (hfirst : first.IsNetwork) (hsecond : second.IsNetwork)
    (hfirstFamily : first.address.isIpv4 = isIpv4)
    (hsecondFamily : second.address.isIpv4 = isIpv4) :
    first.Within second ↔ first.words isIpv4 ⊆ second.words isIpv4 := by
  rw [Within, UInt8.le_iff_toNat_le, ← mem_words_iff hsecond hsecondFamily hfirstFamily, words,
    words, Word.cylinder_subset_iff (hfirst.length_le hfirstFamily)
      (hsecond.length_le hsecondFamily), Word.mem_cylinder]

/-- A network is its length and the bits that it keeps. -/
theorem eq_of_within (hfirst : first.IsNetwork) (hsecond : second.IsNetwork)
    (hinside : first.Within second) (haround : second.Within first) : first = second := by
  obtain ⟨hfamily, hbits⟩ := (hsecond.contains_iff first.address).mp hinside.2
  obtain ⟨firstAddress, prefixLength⟩ := first
  obtain ⟨secondAddress, _⟩ := second
  obtain rfl : prefixLength = _ := UInt8.le_antisymm haround.1 hinside.1
  have hsame := (networkOf_eq_iff hfirst.1 hfamily).mpr hbits
  rw [hfirst.2, hsecond.2] at hsame
  rw [show firstAddress = secondAddress from hsame]

end IpPrefix

/-- The prefixes of a family. -/
def routesOf (isIpv4 : Bool) (routes : List IpPrefix) : Finset IpPrefix :=
  (routes.filter fun network => network.address.isIpv4 = isIpv4).toFinset

variable {isIpv4 : Bool} {routes : List IpPrefix}

theorem mem_routesOf {network : IpPrefix} :
    network ∈ routesOf isIpv4 routes ↔ network ∈ routes ∧ network.address.isIpv4 = isIpv4 := by
  simp [routesOf]

theorem routes_laminar (hnetworks : ∀ network ∈ routes, network.IsNetwork) :
    Laminar (IpPrefix.words isIpv4) IpPrefix.Within (routesOf isIpv4 routes) where
  within_iff := by
    intro first hfirst second hsecond
    rw [mem_routesOf] at hfirst hsecond
    exact IpPrefix.within_iff (hnetworks _ hfirst.1) (hnetworks _ hsecond.1) hfirst.2 hsecond.2
  injective := by
    intro first hfirst second hsecond hsame
    rw [mem_routesOf] at hfirst hsecond
    have hfirstNetwork := hnetworks _ hfirst.1
    have hsecondNetwork := hnetworks _ hsecond.1
    apply IpPrefix.eq_of_within hfirstNetwork hsecondNetwork
    · rw [IpPrefix.within_iff hfirstNetwork hsecondNetwork hfirst.2 hsecond.2, hsame]
    · rw [IpPrefix.within_iff hsecondNetwork hfirstNetwork hsecond.2 hfirst.2, hsame]
  nested := fun _ _ _ _ => Word.cylinder_nested _ _ _ _

/-- The outermost prefixes of a family do not add up to the whole family. -/
def LeavesAddresses (isIpv4 : Bool) (routes : List IpPrefix) : Prop :=
  ∑ network ∈ outermost IpPrefix.Within (routesOf isIpv4 routes), network.size <
    2 ^ IpAddr.width isIpv4

instance : Decidable (LeavesAddresses isIpv4 routes) := inferInstanceAs (Decidable (_ < _))

theorem exists_outside_iff (hnetworks : ∀ network ∈ routes, network.IsNetwork) :
    (∃ address : IpAddr, address.isIpv4 = isIpv4 ∧
      ∀ network ∈ routes, network.contains address = false) ↔ LeavesAddresses isIpv4 routes := by
  have hsizes : ∑ network ∈ outermost IpPrefix.Within (routesOf isIpv4 routes), network.size =
      ∑ network ∈ outermost IpPrefix.Within (routesOf isIpv4 routes),
        (network.words isIpv4).card := by
    refine Finset.sum_congr rfl fun network houter => ?_
    obtain ⟨hlisted, hfamily⟩ := mem_routesOf.mp (Finset.mem_filter.mp houter).1
    exact (IpPrefix.card_words (hnetworks _ hlisted) hfamily).symm
  have hfamilySize : 2 ^ IpAddr.width isIpv4 = Fintype.card (Fin (IpAddr.width isIpv4) → Bool) := by
    simp
  rw [LeavesAddresses, hsizes, hfamilySize, ← (routes_laminar hnetworks).exists_uncovered_iff]
  constructor
  · rintro ⟨address, haddress, houtside⟩
    refine ⟨address.word isIpv4, fun network hnetwork hinside => ?_⟩
    obtain ⟨hlisted, hfamily⟩ := mem_routesOf.mp hnetwork
    rw [IpPrefix.mem_words_iff (hnetworks _ hlisted) hfamily haddress,
      houtside _ hlisted] at hinside
    exact Bool.false_ne_true hinside
  · rintro ⟨bits, houtside⟩
    obtain ⟨address, haddress, rfl⟩ := IpAddr.exists_word isIpv4 bits
    refine ⟨address, haddress, fun network hlisted => Bool.eq_false_iff.mpr fun hcontains => ?_⟩
    -- A prefix contains addresses of its own family only.
    have hfamily := (((hnetworks _ hlisted).contains_iff address).mp hcontains).1
    rw [haddress] at hfamily
    refine houtside network (mem_routesOf.mpr ⟨hlisted, hfamily.symm⟩) ?_
    rwa [IpPrefix.mem_words_iff (hnetworks _ hlisted) hfamily.symm haddress]

/-! ## The routes of an environment -/

section Environments

variable {ext : Externals} {parseIp : String → Option IpAddr}
  {parseMultiaddr : String → Option Multiaddr} {values : Environment} {config : NodeConfig}

/-- The prefixes that the environment lists. -/
def listedRoutes (parseIp : String → Option IpAddr) (values : Environment) : List IpPrefix :=
  (((optional values Key.osRoutes).map items).getD []).filterMap fun route =>
    (IpPrefix.fromStr parseIp route).toOption

theorem listedRoutes_of_parse {routes : List IpPrefix}
    (hread : NodeConfig.parseOsRoutes parseIp values = .ok routes) :
    listedRoutes parseIp values = routes := by
  rw [NodeConfig.parseOsRoutes] at hread
  rw [listedRoutes]
  cases hraw : optional values Key.osRoutes with
  | none =>
      rw [hraw] at hread
      exact Except.ok.inj hread
  | some raw =>
      rw [hraw] at hread
      rw [← Check.filterMap_of_mapM hread, Option.map_some, Option.getD_some]
      refine List.filterMap_congr fun route _ => ?_
      cases IpPrefix.fromStr parseIp route <;> rfl

theorem IpPrefix.isNetwork_of_fromStr {text : String} {network : IpPrefix}
    (hread : fromStr parseIp text = .ok network) : network.IsNetwork := by
  obtain ⟨_, -, hread⟩ := Check.bind_eq_ok.mp hread
  obtain ⟨_, -, hread⟩ := Check.bind_eq_ok.mp hread
  obtain ⟨_, -, hnew⟩ := Check.bind_eq_ok.mp hread
  exact isNetwork_of_new hnew

theorem listedRoutes_networks : ∀ network ∈ listedRoutes parseIp values, network.IsNetwork := by
  intro network hlisted
  obtain ⟨text, -, htext⟩ := List.mem_filterMap.mp hlisted
  cases hread : IpPrefix.fromStr parseIp text with
  | error reason =>
      rw [hread] at htext
      cases htext
  | ok read =>
      rw [hread] at htext
      obtain rfl := Option.some.inj htext
      exact IpPrefix.isNetwork_of_fromStr hread

/-! ### One half and both -/

def parseHalf (text : String) : Option IpAddr :=
  [("0.0.0.0", IpAddr.v4 (Ipv4Addr.new 0 0 0 0)),
    ("128.0.0.0", IpAddr.v4 (Ipv4Addr.new 128 0 0 0))].lookup text

/-- A node that captures what the listed routes contain. -/
def capturing (routes : String) : Environment := fun key => List.lookup key [
  (Key.listenAddress, "/ip4/0.0.0.0/udp/9000/quic-v1"),
  (Key.tunEnabled, "true"),
  (Key.osRoutingEnabled, "true"),
  (Key.osRoutes, routes),
  (Key.vpnMode, "true")]

def half (first : UInt8) : IpPrefix := ⟨.v4 (Ipv4Addr.new first 0 0 0), 1⟩

theorem capturing_one : (NodeConfig.fromMap reference parseHalf (fun _ => none)
    (capturing "0.0.0.0/1")).map NodeConfig.osRoutes = .ok [half 0] := by
  rfl

theorem capturing_both : (NodeConfig.fromMap reference parseHalf (fun _ => none)
    (capturing "0.0.0.0/1,128.0.0.0/1")).map NodeConfig.osRoutes = .ok [half 0, half 128] := by
  rfl

/-- An accepted configuration leaves an address of each family out of its routes exactly when the
outermost prefixes that the environment lists do not add up to a whole family. -/
theorem osRoutes_leave_addresses
    (haccepted : NodeConfig.fromMap ext parseIp parseMultiaddr values = .ok config) :
    (∀ isIpv4, ∃ address : IpAddr, address.isIpv4 = isIpv4 ∧
      ∀ route ∈ config.osRoutes, route.contains address = false) ↔
        ∀ isIpv4, LeavesAddresses isIpv4 (listedRoutes parseIp values) := by
  have hread := NodeConfig.readFrom_of_readFields (NodeConfig.fromMap_eq_ok.mp haccepted).1
  rw [← listedRoutes_of_parse hread.osRoutes]
  exact forall_congr' fun _ => exists_outside_iff listedRoutes_networks

/-- One half of the addresses leaves the other. -/
theorem osRoutes_leave_addresses_half : ∃ config,
    NodeConfig.fromMap reference parseHalf (fun _ => none) (capturing "0.0.0.0/1") = .ok config ∧
      ∀ isIpv4, ∃ address : IpAddr, address.isIpv4 = isIpv4 ∧
        ∀ route ∈ config.osRoutes, route.contains address = false := by
  obtain ⟨config, haccepted, -⟩ := Check.map_eq_ok.mp capturing_one
  have hlisted : listedRoutes parseHalf (capturing "0.0.0.0/1") = [half 0] := by decide +kernel
  refine ⟨config, haccepted, (osRoutes_leave_addresses haccepted).mpr ?_⟩
  rw [hlisted]
  decide +kernel

/-- Both halves are accepted, and take every IPv4 address. -/
theorem osRoutes_take_halves : ∃ config,
    NodeConfig.fromMap reference parseHalf (fun _ => none)
        (capturing "0.0.0.0/1,128.0.0.0/1") = .ok config ∧
      ∀ address : IpAddr, address.isIpv4 = true →
        ∃ route ∈ config.osRoutes, route.contains address = true := by
  obtain ⟨config, haccepted, hroutes⟩ := Check.map_eq_ok.mp capturing_both
  refine ⟨config, haccepted, fun address hfamily => ?_⟩
  have hnetworks : ∀ network ∈ [half 0, half 128], network.IsNetwork := by decide
  have hwhole : ¬ LeavesAddresses true [half 0, half 128] := by decide +kernel
  rw [← exists_outside_iff hnetworks] at hwhole
  rw [hroutes]
  by_contra houtside
  simp only [not_exists, not_and, Bool.not_eq_true] at houtside
  exact hwhole ⟨address, hfamily, houtside⟩

end Environments

end Network
