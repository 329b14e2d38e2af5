import GhostLayer.Client.Program
import GhostLayer.Network.DnsWire
import GhostLayer.Network.PipelineLaws

/-! # DNS queries and IP packets of a client

A query that a client makes of a name is read back at the exit relay. In the
tunnel, queries are taken out of the packets of the TUN device and the responses
are put into packets again.
-/

namespace Client

open Foundation Network NetworkPacket

/-! ## The query for a name -/

/-- A name is its labels with dots between them. -/
structure IsDotted (name : String) (labels : List String) : Prop where
  nonempty : labels ≠ []
  undotted : ∀ label ∈ labels, '.' ∉ label.toList
  joined : name = ".".intercalate labels

theorem IsDotted.split_eq {name : String} {labels : List String} (hname : IsDotted name labels) :
    split '.' name = labels := by
  have htexts : ∀ text ∈ labels.map String.toList, '.' ∉ text := by
    intro text htext
    obtain ⟨label, hlabel, rfl⟩ := List.mem_map.mp htext
    exact hname.undotted label hlabel
  have hchars : name.toList = ['.'].intercalate (labels.map String.toList) := by
    rw [hname.joined, String.toList_intercalate]
    rfl
  rw [split, hchars, List.splitOn_intercalate '.' htexts (by simpa using hname.nonempty),
    List.map_map]
  simp [Function.comp_def]

namespace Program

/-- What a query has before its name: a fixed transaction id and one question. -/
def queryHeader : Bytes := [0x12, 0x34, 0x01, 0x00, 0x00, 0x01, 0, 0, 0, 0, 0, 0]

@[simp] theorem length_queryHeader : queryHeader.length = 12 := rfl

theorem dnsQuery_eq {name : String} {labels : List String} (hname : IsDotted name labels) :
    dnsQuery name =
      queryHeader ++ (wireLabels (labels.map Bytes.ofText) ++ 0 :: [0, 1, 0, 1]) := by
  rw [dnsQuery, hname.split_eq, wireLabels, queryHeader, List.flatMap_map, List.append_assoc]

/-- The query for a name is accepted as one for its addresses, and its labels are read back, with
only the type and the class behind them. -/
theorem dnsQuery_reads_back {σ : Type} {name : String} {labels : List String}
    (hname : IsDotted name labels) (hfit : ∀ label ∈ labels, FitsLabel (Bytes.ofText label))
    (state : σ) :
    (∀ maximumSize, (dnsQuery name).length ≤ maximumSize →
      DnsQuery.parse (dnsQuery name) maximumSize state =
        (.ok { transactionId := 0x1234, recordType := .a }, state)) ∧
    ∃ stop, skipLabels (dnsQuery name) (dnsQuery name).length 12 state = (.ok stop, state) ∧
      (∀ read stop', LabelWalk (dnsQuery name) 12 read stop' ↔
        read = labels.map Bytes.ofText ∧ stop' = stop) ∧
      (dnsQuery name).drop stop = 0 :: [0, 1, 0, 1] := by
  have hfits : ∀ label ∈ labels.map Bytes.ofText, FitsLabel label := by
    intro label hlabel
    obtain ⟨text, htext, rfl⟩ := List.mem_map.mp hlabel
    exact hfit text htext
  have hquery := dnsQuery_eq hname
  have hwalk := @LabelWalk.of_wire (labels.map Bytes.ofText) queryHeader [0, 1, 0, 1] hfits
  rw [← hquery] at hwalk
  refine ⟨fun maximumSize hmaximum => DnsQuery.parse_of_isQuery ?_,
    (queryHeader ++ wireLabels (labels.map Bytes.ofText)).length, ?_, ?_, ?_⟩
  · have hlong : 12 ≤ (dnsQuery name).length := by
      rw [hquery, List.length_append, length_queryHeader]
      omega
    refine ⟨⟨hlong, hmaximum⟩, ⟨0x01, by rw [hquery]; rfl, by decide⟩, ?_, ?_, ?_⟩
    · rw [hquery]
      rfl
    · exact ⟨labels.map Bytes.ofText, [0, 1], hfits, le_rfl, by rw [hquery]; rfl⟩
    · rw [hquery]
      rfl
  · exact (skipLabels_eq_ok (Nat.le_add_left _ _)).mpr ⟨⟨_, hwalk⟩, rfl⟩
  · intro read stop'
    constructor
    · exact fun hread => hread.unique hwalk
    · rintro ⟨rfl, rfl⟩
      exact hwalk
  · rw [hquery, ← List.append_assoc, List.drop_left]

theorem dnsQuery_reads_back_two :
    DnsQuery.parse (dnsQuery "exit.test") 512 () =
        (.ok { transactionId := 0x1234, recordType := .a }, ()) ∧
      ∃ stop, LabelWalk (dnsQuery "exit.test") 12 (["exit", "test"].map Bytes.ofText) stop := by
  have hname : IsDotted "exit.test" ["exit", "test"] := ⟨by decide, by decide, by decide⟩
  obtain ⟨hparse, stop, -, hwalk, -⟩ := dnsQuery_reads_back hname (by decide) ()
  exact ⟨hparse 512 (by decide), stop, (hwalk _ _).mpr ⟨rfl, rfl⟩⟩

end Program

/-! ## Queries in packets -/

/-- A well-formed IPv4 packet with a UDP datagram to the port of DNS. -/
structure CarriesQuery (packet : Bytes) (destination : Vector UInt8 4) (sourcePort : UInt16)
    (query : Bytes) : Prop where
  ipv4 : NetworkPacket.new packet packet.length packet.length = .ok ⟨packet, .ipv4⟩
  udp : packet[9]? = some 17
  destination : (packet.drop 16).take 4 = destination.toList
  datagram : ∃ lengthAndChecksum, lengthAndChecksum.length = 4 ∧
    packet.drop (headerLength packet) = Bytes.bigEndian 2 sourcePort.toNat ++
      (Bytes.bigEndian 2 53 ++ (lengthAndChecksum ++ query))

/-- The header is said to be shorter than one can be, and 53 is found where the port would be. -/
def IsUndersized (packet : Bytes) : Prop :=
  28 ≤ packet.length ∧ byteAt packet 0 >>> 4 = 4 ∧ byteAt packet 9 = 17 ∧
    headerLength packet < 20 ∧ portAt packet (headerLength packet + 2) = 53

instance : DecidablePred IsUndersized := fun _ => inferInstanceAs (Decidable (_ ∧ _))

variable {packet : Bytes} {index : Nat} {result : SocketAddr × UInt16 × Bytes}

theorem byteAt_eq (hindex : index < packet.length) : byteAt packet index = packet[index] := by
  rw [byteAt, List.getD_eq_getElem?_getD, List.getElem?_eq_getElem hindex, Option.getD_some]

theorem portAt_eq_iff {port : UInt16} (hindex : index + 1 < packet.length) :
    portAt packet index = port ↔
      (packet.drop index).take 2 = Bytes.bigEndian 2 port.toNat := by
  rw [portAt, byteAt_eq (by omega), byteAt_eq hindex, ← bigEndian_two,
    take_two_eq_iff.mpr ⟨List.getElem?_eq_getElem _, List.getElem?_eq_getElem _⟩]

theorem toList_destinationIp (hlong : 20 ≤ packet.length) :
    (destinationIp packet).toList = (packet.drop 16).take 4 := by
  rw [List.drop_eq_getElem_cons (by omega), List.drop_eq_getElem_cons (by omega),
    List.drop_eq_getElem_cons (by omega), List.drop_eq_getElem_cons (by omega)]
  simp only [destinationIp, Vector.toList_mk, byteAt_eq (show 16 < packet.length by omega),
    byteAt_eq (show 17 < packet.length by omega), byteAt_eq (show 18 < packet.length by omega),
    byteAt_eq (show 19 < packet.length by omega), List.take_succ_cons, List.take_zero]

theorem extractDnsPayload_iff :
    extractDnsPayload packet = some result ↔
      (28 ≤ packet.length ∧ byteAt packet 0 >>> 4 = 4 ∧ byteAt packet 9 = 17 ∧
        headerLength packet + 8 ≤ packet.length ∧ portAt packet (headerLength packet + 2) = 53) ∧
      (.v4 (destinationIp packet) 53, portAt packet (headerLength packet),
        packet.drop (headerLength packet + 8)) = result := by
  simp only [extractDnsPayload, Option.ite_none_left_eq_some, not_ne_iff, Option.some.injEq, not_lt,
    and_assoc]
  rfl

theorem carriesQuery_iff :
    (∃ destination sourcePort query, CarriesQuery packet destination sourcePort query ∧
      result = (.v4 destination 53, sourcePort, query)) ↔
        20 ≤ headerLength packet ∧ extractDnsPayload packet = some result := by
  have hbehind (count : Nat) : packet.drop (headerLength packet + count) =
      (packet.drop (headerLength packet)).drop count := by
    rw [List.drop_drop]
  rw [extractDnsPayload_iff]
  constructor
  · rintro ⟨destination, sourcePort, query, ⟨hipv4, hudp, hdestination, others, hfour, hdatagram⟩,
      rfl⟩
    obtain ⟨-, -, ⟨hversion, hheader, -⟩, -⟩ := new_eq_ok.mp hipv4
    have hroom := congrArg List.length hdatagram
    simp only [List.length_drop, List.length_append, Bytes.length_bigEndian, hfour] at hroom
    refine ⟨hheader, ⟨by omega, hversion, ?_, by omega, ?_⟩, ?_⟩
    · rw [byteAt, List.getD_eq_getElem?_getD, hudp, Option.getD_some]
    · rw [portAt_eq_iff (by omega), hbehind, hdatagram]
      rfl
    · rw [Vector.toList_inj.mp ((toList_destinationIp (by omega)).trans hdestination),
        (portAt_eq_iff (by omega)).mpr (by rw [hdatagram]; rfl), hbehind, hdatagram,
        ← List.append_assoc, ← List.append_assoc, List.drop_left' (by simp [hfour])]
  · rintro ⟨hheader, ⟨hlong, hversion, hudp, hroom, hport⟩, rfl⟩
    refine ⟨_, _, _, ⟨new_eq_ok.mpr ⟨⟨by omega, by omega⟩, ⟨le_rfl, le_rfl⟩,
      ⟨hversion, hheader, by omega⟩, rfl⟩, ?_, (toList_destinationIp (by omega)).symm,
      (packet.drop (headerLength packet + 4)).take 4, ?_, ?_⟩, rfl⟩
    · rw [← hudp, byteAt_eq (by omega), List.getElem?_eq_getElem]
    · rw [List.length_take, List.length_drop]
      omega
    · have hbytes := (portAt_eq_iff (by omega)).mp hport
      rw [← (portAt_eq_iff (by omega)).mp rfl, show (53 : Nat) = UInt16.toNat 53 from rfl, ← hbytes,
        hbehind 2, hbehind 4, hbehind 8]
      generalize packet.drop (headerLength packet) = datagram
      have hfour : datagram.drop 4 = (datagram.drop 2).drop 2 := by rw [List.drop_drop]
      have hbody : datagram.drop 8 = (datagram.drop 4).drop 4 := by rw [List.drop_drop]
      rw [hbody, List.take_append_drop, hfour, List.take_append_drop, List.take_append_drop]

/-- Exactly the queries in well-formed packets are taken out, unless the header is undersized. -/
theorem extractDnsPayload_exact (packet : Bytes) :
    (∀ result, extractDnsPayload packet = some result ↔
      ∃ destination sourcePort query, CarriesQuery packet destination sourcePort query ∧
        result = (.v4 destination 53, sourcePort, query)) ↔ ¬ IsUndersized packet := by
  simp only [carriesQuery_iff, iff_and_self]
  constructor
  · rintro hsized ⟨hlong, hversion, hudp, hheader, hport⟩
    have hfound := extractDnsPayload_iff.mpr ⟨⟨hlong, hversion, hudp, by omega, hport⟩, rfl⟩
    exact absurd (hsized _ hfound) (by omega)
  · intro hsized result hfound
    obtain ⟨⟨hlong, hversion, hudp, _, hport⟩, -⟩ := extractDnsPayload_iff.mp hfound
    by_contra hheader
    exact hsized ⟨hlong, hversion, hudp, by omega, hport⟩

/-- A packet that is said to have no header: what would be its total length is read as the port. -/
def undersizedPacket : Bytes :=
  [0x40, 0, 0, 53, 0, 0, 0, 0, 64, 17, 0, 0, 10, 8, 0, 1, 8, 8, 8, 8, 0, 0, 0, 0, 0, 0, 0, 0]

theorem extractDnsPayload_undersized :
    extractDnsPayload undersizedPacket = some (.v4 ⟨#[8, 8, 8, 8], rfl⟩ 53, 0x4000,
        [64, 17, 0, 0, 10, 8, 0, 1, 8, 8, 8, 8, 0, 0, 0, 0, 0, 0, 0, 0]) ∧
      ∀ destination sourcePort query,
        ¬ CarriesQuery undersizedPacket destination sourcePort query := by
  refine ⟨by decide, fun destination sourcePort query hcarries => ?_⟩
  have hrefused : NetworkPacket.new undersizedPacket undersizedPacket.length
      undersizedPacket.length = .error .malformed := by decide
  exact nomatch hrefused.symm.trans hcarries.ipv4

/-! ## Responses in packets -/

theorem foldCarries_mod (sum : Nat) : foldCarries sum % 65535 = sum % 65535 := by
  induction sum using foldCarries.induct with
  | case1 sum hcarry ih =>
      rw [foldCarries, if_pos hcarry, ih]
      omega
  | case2 sum hcarry => rw [foldCarries, if_neg hcarry]

theorem foldCarries_lt (sum : Nat) : foldCarries sum < 65536 := by
  induction sum using foldCarries.induct with
  | case1 sum hcarry ih => rwa [foldCarries, if_pos hcarry]
  | case2 sum hcarry =>
      rw [foldCarries, if_neg hcarry]
      omega

theorem foldCarries_pos {sum : Nat} (hpositive : 0 < sum) : 0 < foldCarries sum := by
  induction sum using foldCarries.induct with
  | case1 sum hcarry ih =>
      rw [foldCarries, if_pos hcarry]
      exact ih (by omega)
  | case2 sum hcarry => rwa [foldCarries, if_neg hcarry]

theorem sumWords_append {front rest : Bytes} (heven : front.length % 2 = 0) :
    sumWords (front ++ rest) = sumWords front + sumWords rest := by
  induction front using sumWords.induct with
  | case1 high low front ih =>
      simp only [List.length_cons] at heven
      rw [List.cons_append, List.cons_append, sumWords, sumWords, ih (by omega)]
      omega
  | case2 high => simp at heven
  | case3 => simp [sumWords]

theorem sumWords_twoBytes {value : Nat} (hfits : value < 65536) :
    sumWords (twoBytes value) = value := by
  simp [twoBytes, sumWords]
  omega

/-- A checksum makes up for what the rest of the header folds to. -/
theorem foldCarries_checksum {front rest : Bytes} (heven : front.length % 2 = 0)
    (hnonzero : 0 < sumWords front) :
    foldCarries (sumWords
      (front ++ twoBytes (ipv4Checksum (front ++ [0, 0] ++ rest)).toNat ++ rest)) = 0xffff := by
  have hzero : sumWords (front ++ [0, 0] ++ rest) = sumWords front + sumWords rest := by
    rw [sumWords_append (by simp [heven]), sumWords_append heven]
    rfl
  have hfold := foldCarries_lt (sumWords front + sumWords rest)
  have hmod := foldCarries_mod (sumWords front + sumWords rest)
  have hchecksum : (ipv4Checksum (front ++ [0, 0] ++ rest)).toNat =
      65535 - foldCarries (sumWords front + sumWords rest) := by
    rw [ipv4Checksum, hzero, UInt16.toNat_not, UInt16.toNat_ofNat', Nat.mod_eq_of_lt hfold]
    rfl
  rw [hchecksum, sumWords_append (by simp [twoBytes]; omega), sumWords_append heven,
    sumWords_twoBytes (by omega)]
  -- Modulo 65535 a sum is what it folds to, and only a sum of zero folds to zero.
  generalize hfolded : foldCarries (sumWords front + sumWords rest) = folded at hfold hmod ⊢
  have hlt := foldCarries_lt (sumWords front + (65535 - folded) + sumWords rest)
  have hsum := foldCarries_mod (sumWords front + (65535 - folded) + sumWords rest)
  have hpos := @foldCarries_pos (sumWords front + (65535 - folded) + sumWords rest) (by omega)
  omega

/-- An IPv4 packet between two hosts with a right header and a UDP datagram around a payload. -/
structure IsUdpPacket (source destination : Vector UInt8 4) (sourcePort destinationPort : UInt16)
    (packet payload : Bytes) : Prop where
  protocol : packet.getD 9 0 = 17
  source : (packet.drop 12).take 4 = source.toList
  destination : (packet.drop 16).take 4 = destination.toList
  sourcePort : Bytes.toNat ((packet.drop 20).take 2) = sourcePort.toNat
  destinationPort : Bytes.toNat ((packet.drop 22).take 2) = destinationPort.toNat
  totalLength : Bytes.toNat ((packet.drop 2).take 2) = packet.length
  udpLength : Bytes.toNat ((packet.drop 24).take 2) = (packet.drop 20).length
  checksum : foldCarries (sumWords (packet.take 20)) = 0xffff
  accepted : ∀ maximumSize mtu, packet.length ≤ maximumSize → packet.length ≤ mtu →
    NetworkPacket.new packet maximumSize mtu = .ok ⟨packet, .ipv4⟩
  payload : packet.drop 28 = payload

theorem toNat_twoBytes {value : Nat} (hfits : value < 65536) :
    Bytes.toNat (twoBytes value) = value :=
  @Bytes.toNat_bigEndian_of_lt 2 value (by simpa using hfits)

/-- A response that fits in a datagram is put into a valid packet, and is taken out of it again. -/
theorem buildDnsResponsePacket_valid (response : Bytes) (source destination : Vector UInt8 4)
    (sourcePort destinationPort : UInt16) (hfits : response.length ≤ 65507) :
    IsUdpPacket source destination sourcePort destinationPort
        (buildDnsResponsePacket response source destination sourcePort destinationPort) response ∧
      (destinationPort = 53 →
        extractDnsPayload (buildDnsResponsePacket response source destination sourcePort
          destinationPort) = some (.v4 destination 53, sourcePort, response)) := by
  obtain ⟨_, _, _, _, rfl⟩ := exists_octets source
  obtain ⟨_, _, _, _, rfl⟩ := exists_octets destination
  unfold buildDnsResponsePacket
  extract_lets udpLength totalLength beforeChecksum afterChecksum checksum
  set packet := beforeChecksum ++ twoBytes checksum.toNat ++ afterChecksum ++
    twoBytes sourcePort.toNat ++ twoBytes destinationPort.toNat ++ twoBytes udpLength ++
    [0x00, 0x00] ++ response with hpacket
  have hudp : udpLength = 8 + response.length := rfl
  have htotal : totalLength = 20 + udpLength := rfl
  -- The lengths in the headers are the lengths of what was written.
  have hlength : packet.length = totalLength := by
    simp [hpacket, beforeChecksum, afterChecksum, twoBytes, htotal, hudp]
    omega
  have hfirst : packet.getD 0 0 = 0x45 := rfl
  have hheader : headerLength packet = 20 := by
    rw [headerLength, hfirst]
    rfl
  have hsource := toNat_twoBytes sourcePort.toNat_lt
  have hdestination := toNat_twoBytes destinationPort.toNat_lt
  refine ⟨⟨rfl, rfl, rfl, hsource, hdestination, ?_, ?_, ?_, ?_, rfl⟩, ?_⟩
  · rw [hlength]
    exact toNat_twoBytes (by omega)
  · rw [List.length_drop, hlength, htotal, Nat.add_sub_cancel_left]
    exact toNat_twoBytes (by omega)
  · exact @foldCarries_checksum beforeChecksum afterChecksum
      (by simp [beforeChecksum, twoBytes]) (by simp [beforeChecksum, twoBytes, sumWords])
  · intro maximumSize mtu hmaximum hmtu
    refine new_eq_ok.mpr ⟨⟨by omega, by omega⟩, ⟨hmaximum, hmtu⟩, ⟨?_, by omega, by omega⟩, rfl⟩
    rw [hfirst]
    rfl
  · rintro rfl
    refine extractDnsPayload_iff.mpr ⟨⟨by omega, ?_, rfl, by omega, ?_⟩, ?_⟩
    · rw [byteAt, hfirst]
      rfl
    · rw [hheader, portAt_eq_iff (by omega)]
      rfl
    · rw [hheader, (portAt_eq_iff (by omega)).mpr rfl]
      rfl

theorem buildDnsResponsePacket_valid_three :
    extractDnsPayload
        (buildDnsResponsePacket [1, 2, 3] Engine.tunnelIp ⟨#[8, 8, 8, 8], rfl⟩ 5353 53) =
      some (.v4 ⟨#[8, 8, 8, 8], rfl⟩ 53, 5353, [1, 2, 3]) :=
  (buildDnsResponsePacket_valid [1, 2, 3] Engine.tunnelIp ⟨#[8, 8, 8, 8], rfl⟩ 5353 53
    (by decide)).2 rfl

end Client
