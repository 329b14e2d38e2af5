import GhostLayer.Foundation.Segments
import GhostLayer.Network.ConfigLaws
import GhostLayer.Network.OsRouting
import GhostLayer.Network.Reference

/-! # Addresses of a production environment

An address is a list of components, each of them printed as a name with a value
behind it where it has one. The checks of a production environment search the
printed address, and find a loopback address when it is one of two and another
component is behind it.
-/

namespace Network

open Foundation

/-! ## Texts of addresses -/

namespace IpAddr

def characters : List Char := "0123456789abcdef.:".toList

theorem characters_of_all {text : List Char} (hall : text.all (· ∈ characters) = true) :
    ∀ letter ∈ text, letter ∈ characters := by
  simpa only [List.all_eq_true, decide_eq_true_eq] using hall

theorem digitChar_characters : ∀ digit < 16, Nat.digitChar digit ∈ characters := by decide

theorem toDigits_characters {base : Nat} (hbase : 1 < base) (hsmall : base ≤ 16) (number : Nat) :
    ∀ letter ∈ Nat.toDigits base number, letter ∈ characters := by
  induction number using Nat.strongRecOn with
  | ind number inductionHypothesis =>
      intro letter hletter
      rw [Nat.toDigits_eq_if hbase] at hletter
      split_ifs at hletter with hdigit
      · obtain rfl := List.mem_singleton.mp hletter
        exact digitChar_characters _ (by omega)
      · rcases List.mem_append.mp hletter with hhigh | hlow
        · exact inductionHypothesis _ (Nat.div_lt_self (by omega) hbase) letter hhigh
        · obtain rfl := List.mem_singleton.mp hlow
          have hremainder := Nat.mod_lt number (by omega : base > 0)
          exact digitChar_characters _ (by omega)

theorem dotted_characters (octets : List UInt8) :
    ∀ letter ∈ dotted octets, letter ∈ characters := by
  apply Segments.forall_mem_intercalate
  · exact characters_of_all (by decide)
  · intro item hitem
    obtain ⟨octet, -, rfl⟩ := List.mem_map.mp hitem
    exact toDigits_characters (by decide) (by decide) _

theorem colons_characters (segments : List Nat) :
    ∀ letter ∈ colons segments, letter ∈ characters := by
  apply Segments.forall_mem_intercalate
  · exact characters_of_all (by decide)
  · intro item hitem
    obtain ⟨segment, -, rfl⟩ := List.mem_map.mp hitem
    exact toDigits_characters (by decide) (by decide) _

theorem text_characters (address : IpAddr) :
    ∀ letter ∈ address.text.toList, letter ∈ characters := by
  have hmapped : ∀ letter ∈ "::ffff:".toList, letter ∈ characters :=
    characters_of_all (by decide)
  have hgap : ∀ letter ∈ "::".toList, letter ∈ characters := characters_of_all (by decide)
  intro letter hletter
  cases address with
  | v4 octets =>
      rw [text, String.toList_ofList] at hletter
      exact dotted_characters _ letter hletter
  | v6 octets =>
      simp only [text] at hletter
      split_ifs at hletter
      · rw [String.toList_ofList, List.mem_append] at hletter
        exact hletter.elim (hmapped letter) (dotted_characters _ letter)
      · rw [String.toList_ofList, List.mem_append, List.mem_append] at hletter
        rcases hletter with (hbefore | hbetween) | hbehind
        · exact colons_characters _ letter hbefore
        · exact hgap letter hbetween
        · exact colons_characters _ letter hbehind
      · rw [String.toList_ofList] at hletter
        exact colons_characters _ letter hletter

end IpAddr

/-! ## Components -/

namespace Multiaddr

/-- A protocol that the checks do not look for, with its value. -/
structure OtherProtocol where
  name : String
  value : Option String
  named : name ∉ ["ip4", "ip6", "udp"] ∧ ¬ "quic-v1".toList <+: name.toList
  segments_clean : '/' ∉ name.toList ∧ ∀ text ∈ value, '/' ∉ text.toList

inductive Component where
  | ip4 (octets : Vector UInt8 4)
  | ip6 (octets : Vector UInt8 16)
  | udp (port : UInt16)
  | quicV1
  | other (protocol : OtherProtocol)

namespace Component

/-- A name, and the value behind it. -/
def segments : Component → List (List Char)
  | ip4 octets => ["ip4".toList, (IpAddr.v4 octets).text.toList]
  | ip6 octets => ["ip6".toList, (IpAddr.v6 octets).text.toList]
  | udp port => ["udp".toList, Nat.toDigits 10 port.toNat]
  | quicV1 => ["quic-v1".toList]
  | other protocol => protocol.name.toList :: protocol.value.toList.map String.toList

def IsLoopback : Component → Prop
  | ip4 octets => (IpAddr.v4 octets).isLoopback = true
  | ip6 octets => (IpAddr.v6 octets).isLoopback = true
  | udp _ | quicV1 | other _ => False

instance : DecidablePred IsLoopback
  | ip4 _ | ip6 _ => inferInstanceAs (Decidable (_ = _))
  | udp _ | quicV1 | other _ => inferInstanceAs (Decidable False)

/-- The loopback addresses that are searched for. -/
def sought : List Component :=
  [.ip4 (Ipv4Addr.new 127 0 0 1), .ip6 ⟨#[0, 0, 0, 0, 0, 0, 0, 0, 0, 0, 0, 0, 0, 0, 0, 1], rfl⟩]

/-- Another component is behind the component. -/
def Followed (component : Component) (components : List Component) : Prop :=
  ∃ before next after, components = before ++ component :: next :: after

end Component

/-- The address that is printed from its components. -/
def ofComponents (components : List Component) : Multiaddr :=
  ⟨.ofList (Segments.joined '/' (components.flatMap Component.segments))⟩

theorem toList_ofComponents (components : List Component) : (ofComponents components).text.toList =
    Segments.joined '/' (components.flatMap Component.segments) :=
  String.toList_ofList

variable {components : List Component} {component : Component} {text : List Char}

theorem notMem_of_characters {part : List Char} {letter : Char} (hletter : letter ∈ part)
    (hforeign : letter ∉ IpAddr.characters) (htext : ∀ letter ∈ text, letter ∈ IpAddr.characters) :
    ¬ part <+: text :=
  fun hbegins => hforeign (htext letter (hbegins.subset hletter))

/-- The values of addresses and ports. -/
theorem value_characters (hvalue : text ∈ component.segments.tail)
    (hother : ∀ protocol, component ≠ .other protocol) :
    ∀ letter ∈ text, letter ∈ IpAddr.characters := by
  cases component with
  | ip4 octets =>
      obtain rfl := List.mem_singleton.mp hvalue
      exact IpAddr.text_characters _
  | ip6 octets =>
      obtain rfl := List.mem_singleton.mp hvalue
      exact IpAddr.text_characters _
  | udp port =>
      obtain rfl := List.mem_singleton.mp hvalue
      exact IpAddr.toDigits_characters (by decide) (by decide) _
  | quicV1 => cases hvalue
  | other protocol => exact absurd rfl (hother protocol)

namespace Component

theorem clean : ∀ segment ∈ component.segments, '/' ∉ segment := by
  intro segment hsegment
  have hvalue (hmember : segment ∈ component.segments.tail)
      (hother : ∀ protocol, component ≠ .other protocol) : '/' ∉ segment :=
    fun hslash => absurd (value_characters hmember hother _ hslash) (by decide)
  cases component with
  | ip4 octets =>
      rcases List.mem_cons.mp hsegment with rfl | hrest
      · decide
      · exact hvalue hrest nofun
  | ip6 octets =>
      rcases List.mem_cons.mp hsegment with rfl | hrest
      · decide
      · exact hvalue hrest nofun
  | udp port =>
      rcases List.mem_cons.mp hsegment with rfl | hrest
      · decide
      · exact hvalue hrest nofun
  | quicV1 =>
      obtain rfl := List.mem_singleton.mp hsegment
      decide
  | other protocol =>
      rcases List.mem_cons.mp hsegment with rfl | hrest
      · exact protocol.segments_clean.1
      · obtain ⟨text, htext, rfl⟩ := List.mem_map.mp hrest
        exact protocol.segments_clean.2 text (Option.mem_toList.mp htext)

/-- A name that one of the protocols of the checks has, or the value of another protocol. -/
theorem begins_cases {part segment : List Char} (hsegment : segment ∈ component.segments)
    (hbegins : part <+: segment) {letter : Char} (hletter : letter ∈ part)
    (hforeign : letter ∉ IpAddr.characters) :
    (∃ name, component.segments.head? = some name ∧ segment = name) ∨
      ∃ protocol value, component = .other protocol ∧ protocol.value = some value ∧
        segment = value.toList := by
  rcases hnames : component.segments with _ | ⟨name, values⟩
  · rw [hnames] at hsegment
    cases hsegment
  rw [hnames] at hsegment
  rcases List.mem_cons.mp hsegment with rfl | hvalue
  · exact .inl ⟨segment, rfl, rfl⟩
  · by_cases hother : ∃ protocol, component = .other protocol
    · obtain ⟨protocol, rfl⟩ := hother
      obtain ⟨-, rfl⟩ := List.cons.inj hnames
      obtain ⟨text, htext, rfl⟩ := List.mem_map.mp hvalue
      exact .inr ⟨protocol, text, rfl, Option.mem_toList.mp htext, rfl⟩
    · have hmember : segment ∈ component.segments.tail := by rwa [hnames]
      have htext := value_characters hmember (not_exists.mp hother)
      exact absurd hbegins (notMem_of_characters hletter hforeign htext)

theorem udp_cases (hsegment : "udp".toList ∈ component.segments) :
    (∃ port, component = .udp port) ∨
      ∃ protocol, component = .other protocol ∧ protocol.value = some "udp" := by
  rcases begins_cases hsegment (List.prefix_refl _) (by decide : 'u' ∈ "udp".toList) (by decide)
    with ⟨name, hname, rfl⟩ | ⟨protocol, value, hother, hvalue, hsame⟩
  · cases component with
    | ip4 _ | ip6 _ | quicV1 => exact absurd (Option.some.inj hname) (by decide)
    | udp port => exact .inl ⟨port, rfl⟩
    | other protocol =>
        have hnamed : protocol.name = "udp" := String.toList_injective (Option.some.inj hname)
        exact absurd protocol.named.1 (by simp [hnamed])
  · obtain rfl := String.toList_injective hsame
    exact .inr ⟨protocol, hother, hvalue⟩

theorem quic_cases {segment : List Char} (hsegment : segment ∈ component.segments)
    (hbegins : "quic-v1".toList <+: segment) :
    component = .quicV1 ∨ ∃ protocol value, component = .other protocol ∧
      protocol.value = some value ∧ "quic-v1".toList <+: value.toList := by
  rcases begins_cases hsegment hbegins (by decide : 'q' ∈ "quic-v1".toList) (by decide)
    with ⟨name, hname, rfl⟩ | ⟨protocol, value, hother, hvalue, rfl⟩
  · cases component with
    | ip4 _ | ip6 _ | udp _ =>
        obtain rfl := Option.some.inj hname
        exact absurd hbegins (by decide)
    | quicV1 => exact .inl rfl
    | other protocol =>
        obtain rfl := Option.some.inj hname
        exact absurd hbegins protocol.named.2
  · exact .inr ⟨protocol, value, hother, hvalue, hbegins⟩

end Component

/-! ## What the searches find -/

theorem clean_segments : ∀ segment ∈ components.flatMap Component.segments, '/' ∉ segment := by
  intro segment hsegment
  obtain ⟨component, -, hmember⟩ := List.mem_flatMap.mp hsegment
  exact component.clean segment hmember

theorem udp_of_contains (hfound : contains (ofComponents components).text "/udp/" = true) :
    (∃ port, .udp port ∈ components) ∨
      ∃ protocol, .other protocol ∈ components ∧ protocol.value = some "udp" := by
  rw [contains_eq_true, toList_ofComponents] at hfound
  have hsegment : "udp".toList ∈ components.flatMap Component.segments :=
    Segments.mem_of_infix clean_segments (by decide) hfound
  obtain ⟨component, hcomponent, hmember⟩ := List.mem_flatMap.mp hsegment
  rcases component.udp_cases hmember with ⟨port, rfl⟩ | ⟨protocol, rfl, hvalue⟩
  · exact .inl ⟨port, hcomponent⟩
  · exact .inr ⟨protocol, hcomponent, hvalue⟩

theorem quic_of_contains (hfound : contains (ofComponents components).text "/quic-v1" = true) :
    .quicV1 ∈ components ∨ ∃ protocol value, .other protocol ∈ components ∧
      protocol.value = some value ∧ "quic-v1".toList <+: value.toList := by
  rw [contains_eq_true, toList_ofComponents] at hfound
  obtain ⟨segment, hsegment, hbegins⟩ :=
    Segments.exists_begins clean_segments (by decide : '/' ∉ "quic-v1".toList) hfound
  obtain ⟨component, hcomponent, hmember⟩ := List.mem_flatMap.mp hsegment
  rcases component.quic_cases hmember hbegins with rfl | ⟨protocol, value, rfl, hvalue, hbegins⟩
  · exact .inl hcomponent
  · exact .inr ⟨protocol, value, hcomponent, hvalue, hbegins⟩

/-- A QUIC component is found. -/
theorem contains_quic (hquic : .quicV1 ∈ components) :
    contains (ofComponents components).text "/quic-v1" = true := by
  have hsegment : "quic-v1".toList ∈ components.flatMap Component.segments :=
    List.mem_flatMap.mpr ⟨_, hquic, List.mem_singleton_self _⟩
  rw [contains_eq_true, toList_ofComponents]
  exact List.infix_of_mem_flatten (List.mem_map_of_mem hsegment)

/-- No value of another protocol stands for a QUIC component that is missing. -/
def ShowsQuic (components : List Component) : Prop :=
  (∃ protocol value, .other protocol ∈ components ∧ protocol.value = some value ∧
    "quic-v1".toList <+: value.toList) → .quicV1 ∈ components

theorem showsQuic_iff (hfound : contains (ofComponents components).text "/quic-v1" = true) :
    ShowsQuic components ↔ .quicV1 ∈ components :=
  ⟨fun hshows => (quic_of_contains hfound).elim id hshows, fun hquic _ => hquic⟩

/-- A component with another one behind it is found with the separators around it. -/
theorem contains_of_followed (hfollowed : component.Followed components) {part : String}
    (hpart : part.toList = Segments.joined '/' component.segments ++ ['/']) :
    contains (ofComponents components).text part = true := by
  obtain ⟨before, next, after, rfl⟩ := hfollowed
  obtain ⟨name, values, hnext⟩ : ∃ name values, next.segments = name :: values := by
    cases next <;> exact ⟨_, _, rfl⟩
  rw [contains_eq_true, toList_ofComponents, hpart, List.flatMap_append,
    List.flatMap_cons, List.flatMap_cons, hnext, ← List.append_assoc, List.cons_append]
  exact Segments.infix_joined _ _ _ _

/-- No loopback component, and QUIC directly over UDP. -/
structure PublicQuic (components : List Component) : Prop where
  remote : ∀ component ∈ components, ¬ component.IsLoopback
  quic : ∃ port, [Component.udp port, .quicV1] <:+: components

/-- The searches tell what the components are: loopback components are those that are searched for
and have a component behind them, no value of another protocol stands for a protocol that is
missing, and QUIC is over UDP where both are there. -/
structure Searchable (components : List Component) : Prop where
  loopback : ∀ component ∈ components, component.IsLoopback →
    component ∈ Component.sought ∧ component.Followed components
  udp : (∃ protocol, .other protocol ∈ components ∧ protocol.value = some "udp") →
    ∃ port, .udp port ∈ components
  quic : (∃ protocol value, .other protocol ∈ components ∧ protocol.value = some value ∧
    "quic-v1".toList <+: value.toList) → .quicV1 ∈ components
  overUdp : (∃ port, .udp port ∈ components) → .quicV1 ∈ components →
    ∃ port, [Component.udp port, .quicV1] <:+: components

theorem found_of_sought (hsought : component ∈ Component.sought)
    (hfollowed : component.Followed components) :
    (contains (ofComponents components).text "/ip4/127.0.0.1/" ||
      contains (ofComponents components).text "/ip6/::1/") = true := by
  rw [Bool.or_eq_true]
  rcases List.mem_cons.mp hsought with rfl | hsought
  · exact .inl (contains_of_followed hfollowed (by decide +kernel))
  · obtain rfl := List.mem_singleton.mp hsought
    exact .inr (contains_of_followed hfollowed (by decide +kernel))

theorem publicQuic_iff
    (hudp : contains (ofComponents components).text "/udp/" = true)
    (hquic : contains (ofComponents components).text "/quic-v1" = true)
    (hloopback : (contains (ofComponents components).text "/ip4/127.0.0.1/" ||
      contains (ofComponents components).text "/ip6/::1/") = false) :
    PublicQuic components ↔ Searchable components := by
  constructor
  · rintro ⟨hremote, port, hover⟩
    have hudp : .udp port ∈ components := hover.subset List.mem_cons_self
    have hquic : .quicV1 ∈ components := hover.subset (by simp)
    exact {
      loopback := fun component hcomponent hlocal => absurd hlocal (hremote component hcomponent)
      udp := fun _ => ⟨port, hudp⟩
      quic := fun _ => hquic
      overUdp := fun _ _ => ⟨port, hover⟩ }
  · intro hsearchable
    constructor
    · intro component hcomponent hlocal
      obtain ⟨hsought, hfollowed⟩ := hsearchable.loopback component hcomponent hlocal
      rw [found_of_sought hsought hfollowed] at hloopback
      cases hloopback
    · apply hsearchable.overUdp
      · exact (udp_of_contains hudp).elim id hsearchable.udp
      · exact (showsQuic_iff hquic).mp hsearchable.quic

end Multiaddr

/-! ## Accepted environments -/

section Environments

variable {ext : Externals} {parseIp : String → Option IpAddr}
  {parse : String → Option (List Multiaddr.Component)} {values : Environment} {config : NodeConfig}

/-- An address that passed the checks. -/
theorem publicQuic_iff_of_validate {address key : String}
    (hvalid : NodeConfig.validateQuicMultiaddr
      (fun text => (parse text).map Multiaddr.ofComponents) address key = .ok false) :
    (∃ components, parse address = some components ∧ Multiaddr.PublicQuic components) ↔
      ∀ components, parse address = some components → Multiaddr.Searchable components := by
  obtain ⟨multiaddr, hparse, hudp, hquic, hloopback⟩ :=
    NodeConfig.validateQuicMultiaddr_eq_ok.mp hvalid
  obtain ⟨components, hcomponents, rfl⟩ := Option.map_eq_some_iff.mp hparse
  have hsame := Multiaddr.publicQuic_iff hudp hquic hloopback
  simp only [hcomponents, Option.some.injEq, exists_eq_left', forall_eq', hsame]

/-! ### A public address and a loopback address -/

def quicOn (octets : Vector UInt8 4) : List Multiaddr.Component :=
  [.ip4 octets, .udp 7000, .quicV1]

theorem searchable_quicOn {octets : Vector UInt8 4}
    (hremote : (IpAddr.v4 octets).isLoopback = false) : Multiaddr.Searchable (quicOn octets) where
  loopback := by
    intro component hcomponent hlocal
    simp only [quicOn, List.mem_cons, List.not_mem_nil, or_false] at hcomponent
    rcases hcomponent with rfl | rfl | rfl
    · exact absurd (hremote.symm.trans hlocal) Bool.false_ne_true
    · exact hlocal.elim
    · exact hlocal.elim
  udp := fun _ => ⟨7000, by simp [quicOn]⟩
  quic := fun _ => by simp [quicOn]
  overUdp := fun _ _ => ⟨7000, [.ip4 octets], [], rfl⟩

/-- The addresses of the environments below as they are parsed. -/
def parseQuic (text : String) : Option (List Multiaddr.Component) :=
  [("/ip4/0.0.0.0/udp/7000/quic-v1", quicOn (Ipv4Addr.new 0 0 0 0)),
    ("/ip4/127.0.0.2/udp/7000/quic-v1", quicOn (Ipv4Addr.new 127 0 0 2)),
    ("/ip4/203.0.113.7/udp/7000/quic-v1", quicOn (Ipv4Addr.new 203 0 113 7))].lookup text

def advertising (advertised : String) : Environment := fun key => List.lookup key [
  (Key.listenAddress, "/ip4/0.0.0.0/udp/7000/quic-v1"),
  (Key.advertisedAddress, advertised),
  (Key.networkEnvironment, "production")]

/-- Both environments are accepted. -/
theorem advertising_accepted {advertised : String} (hadvertised : advertised ∈
    ["/ip4/127.0.0.2/udp/7000/quic-v1", "/ip4/203.0.113.7/udp/7000/quic-v1"]) :
    ∃ config, NodeConfig.fromMap reference (fun _ => none)
        (fun text => (parseQuic text).map Multiaddr.ofComponents) (advertising advertised) =
          .ok config ∧
      config.networkEnvironment = .production ∧ config.advertisedAddress = some advertised := by
  simp only [List.mem_cons, List.not_mem_nil, or_false] at hadvertised
  rcases hadvertised with rfl | rfl
  · exact ⟨_, rfl, rfl, rfl⟩
  · exact ⟨_, rfl, rfl, rfl⟩

/-- In an accepted production environment an advertised address is present, and both addresses are
free of loopback components and use QUIC over UDP exactly when the searches tell what their
components are. -/
theorem production_public
    (haccepted : NodeConfig.fromMap ext parseIp
      (fun text => (parse text).map Multiaddr.ofComponents) values = .ok config)
    (hproduction : config.networkEnvironment = .production) :
    (∃ advertised, config.advertisedAddress = some advertised ∧
      ∀ address ∈ [config.listenAddress, advertised],
        ∃ components, parse address = some components ∧ Multiaddr.PublicQuic components) ↔
      ∀ key ∈ [Key.listenAddress, Key.advertisedAddress], ∀ text ∈ optional values key,
        ∀ components, parse text = some components → Multiaddr.Searchable components := by
  obtain ⟨hfields, hvalid⟩ := NodeConfig.fromMap_eq_ok.mp haccepted
  have hread := NodeConfig.readFrom_of_readFields hfields
  obtain ⟨hlisten, advertised, hadvertised, hadvertise⟩ :=
    NodeConfig.validate_production hproduction hvalid
  have hlistenText : optional values Key.listenAddress = some config.listenAddress :=
    Check.orThrow_eq_ok.mp hread.listenAddress
  have hadvertisedText : optional values Key.advertisedAddress = some advertised :=
    hread.advertisedAddress.trans hadvertised
  simp only [hadvertised, Option.some.injEq, exists_eq_left', List.forall_mem_cons,
    List.not_mem_nil, false_implies, implies_true, and_true, hlistenText, hadvertisedText,
    Option.mem_def, forall_eq', publicQuic_iff_of_validate hlisten,
    publicQuic_iff_of_validate hadvertise]

/-- A node that advertises a public address. -/
theorem production_public_advertised : ∃ config, NodeConfig.fromMap reference (fun _ => none)
      (fun text => (parseQuic text).map Multiaddr.ofComponents)
      (advertising "/ip4/203.0.113.7/udp/7000/quic-v1") = .ok config ∧
    config.networkEnvironment = .production ∧
    ∃ advertised, config.advertisedAddress = some advertised ∧
      ∀ address ∈ [config.listenAddress, advertised],
        ∃ components, parseQuic address = some components ∧ Multiaddr.PublicQuic components := by
  obtain ⟨config, haccepted, hproduction, -⟩ := advertising_accepted
    (by decide : "/ip4/203.0.113.7/udp/7000/quic-v1" ∈ _)
  refine ⟨config, haccepted, hproduction, (production_public haccepted hproduction).mpr ?_⟩
  have hlisten : optional (advertising "/ip4/203.0.113.7/udp/7000/quic-v1") Key.listenAddress =
    some "/ip4/0.0.0.0/udp/7000/quic-v1" := by decide +kernel
  have hadvertised : optional (advertising "/ip4/203.0.113.7/udp/7000/quic-v1")
    Key.advertisedAddress = some "/ip4/203.0.113.7/udp/7000/quic-v1" := by decide +kernel
  intro key hkey text htext components hparse
  simp only [List.mem_cons, List.not_mem_nil, or_false] at hkey
  rcases hkey with rfl | rfl
  · rw [hlisten] at htext
    obtain rfl := Option.some.inj htext
    obtain rfl := Option.some.inj hparse
    exact searchable_quicOn (by decide)
  · rw [hadvertised] at htext
    obtain rfl := Option.some.inj htext
    obtain rfl := Option.some.inj hparse
    exact searchable_quicOn (by decide)

/-- A node may advertise a loopback address that is not searched for. -/
theorem production_advertises_loopback : ∃ config advertised components component,
    NodeConfig.fromMap reference (fun _ => none)
      (fun text => (parseQuic text).map Multiaddr.ofComponents)
      (advertising "/ip4/127.0.0.2/udp/7000/quic-v1") = .ok config ∧
    config.networkEnvironment = .production ∧ config.advertisedAddress = some advertised ∧
    parseQuic advertised = some components ∧ component ∈ components ∧ component.IsLoopback := by
  obtain ⟨config, haccepted, hproduction, hadvertised⟩ := advertising_accepted
    (by decide : "/ip4/127.0.0.2/udp/7000/quic-v1" ∈ _)
  exact ⟨config, _, _, .ip4 (Ipv4Addr.new 127 0 0 2), haccepted, hproduction, hadvertised, rfl,
    List.mem_cons_self, by decide⟩

end Environments

end Network
