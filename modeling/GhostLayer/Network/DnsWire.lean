import GhostLayer.Network.Packet

/-! # Queries on the wire

The name in a DNS query is its labels one behind the other, each behind a byte
with its length, and then a zero byte. The walk of the parser over them reads
back what was written, and the parser accepts exactly the queries of this form.
-/

namespace Network

open Foundation

/-! ## Labels -/

/-- The lengths that a label can have. -/
def FitsLabel (label : Bytes) : Prop := 0 < label.length ∧ label.length ≤ 63

instance : DecidablePred FitsLabel := fun _ => inferInstanceAs (Decidable (_ ∧ _))

def wireLabels (labels : List Bytes) : Bytes :=
  labels.flatMap fun label => UInt8.ofNat label.length :: label

@[simp] theorem wireLabels_nil : wireLabels [] = [] := rfl

@[simp] theorem wireLabels_cons (label : Bytes) (labels : List Bytes) :
    wireLabels (label :: labels) = UInt8.ofNat label.length :: (label ++ wireLabels labels) := rfl

/-- The labels that the walk passes from one index to another. -/
inductive LabelWalk (packet : Bytes) : Nat → List Bytes → Nat → Prop
  | done (index : Nat) (ends : ∀ size ∈ packet[index]?, size = 0) : LabelWalk packet index [] index
  | label (index : Nat) (size : UInt8) (labels : List Bytes) (stop : Nat)
      (found : packet[index]? = some size) (nonzero : size ≠ 0) (short : size.toNat ≤ 63)
      (room : index + size.toNat + 1 < packet.length)
      (rest : LabelWalk packet (index + size.toNat + 1) labels stop) :
      LabelWalk packet index ((packet.drop (index + 1)).take size.toNat :: labels) stop

variable {packet : Bytes} {index stop fuel : Nat} {labels : List Bytes} {σ : Type}
  {state final : σ}

theorem LabelWalk.iff_done (ends : ∀ size ∈ packet[index]?, size = 0) :
    LabelWalk packet index labels stop ↔ labels = [] ∧ index = stop := by
  constructor
  · intro hwalk
    cases hwalk with
    | done => exact ⟨rfl, rfl⟩
    | label _ size _ _ found nonzero => exact absurd (ends size found) nonzero
  · rintro ⟨rfl, rfl⟩
    exact .done index ends

theorem LabelWalk.iff_label {size : UInt8} (found : packet[index]? = some size)
    (nonzero : size ≠ 0) :
    LabelWalk packet index labels stop ↔
      (size.toNat ≤ 63 ∧ index + size.toNat + 1 < packet.length) ∧ ∃ rest,
        labels = (packet.drop (index + 1)).take size.toNat :: rest ∧
        LabelWalk packet (index + size.toNat + 1) rest stop := by
  constructor
  · intro hwalk
    cases hwalk with
    | done _ ends => exact absurd (ends size found) nonzero
    | label _ size' rest _ found' _ short room hrest =>
        obtain rfl := Option.some.inj (found.symm.trans found')
        exact ⟨⟨short, room⟩, rest, rfl, hrest⟩
  · rintro ⟨⟨short, room⟩, rest, rfl, hrest⟩
    exact .label index size rest stop found nonzero short room hrest

/-- The parser walks over labels to a zero byte or to the end of the packet. -/
theorem skipLabels_eq_ok (henough : packet.length ≤ index + fuel) :
    skipLabels packet fuel index state = (.ok stop, final) ↔
      (∃ labels, LabelWalk packet index labels stop) ∧ state = final := by
  induction fuel generalizing index with
  | zero =>
      have hends : ∀ size ∈ packet[index]?, size = 0 := by
        rw [Nat.add_zero] at henough
        simp [List.getElem?_eq_none henough]
      simp [skipLabels, LabelWalk.iff_done hends]
  | succ fuel ih =>
      rw [skipLabels]
      cases hsize : packet[index]? with
      | none =>
          have hends : ∀ size ∈ packet[index]?, size = 0 := by simp [hsize]
          simp [LabelWalk.iff_done hends]
      | some size =>
          by_cases hzero : size = 0
          · have hends : ∀ size ∈ packet[index]?, size = 0 := by simp [hsize, hzero]
            simp [LabelWalk.iff_done hends, hzero]
          · simp only [hzero, if_false, Fallible.bind_eq_ok, Fallible.failWhen_eq_ok, not_or,
              not_lt, not_le, LabelWalk.iff_label hsize hzero]
            constructor
            · rintro ⟨_, _, ⟨hgood, rfl⟩, hrest⟩
              obtain ⟨⟨rest, hwalk⟩, rfl⟩ := (ih (by omega)).mp hrest
              exact ⟨⟨_, hgood, rest, rfl, hwalk⟩, rfl⟩
            · rintro ⟨⟨_, hgood, rest, rfl, hwalk⟩, rfl⟩
              exact ⟨(), state, ⟨hgood, rfl⟩, (ih (by omega)).mpr ⟨⟨rest, hwalk⟩, rfl⟩⟩

theorem skipLabels_ne_panic : (skipLabels packet fuel index state).1 ≠ .panic := by
  induction fuel generalizing index with
  | zero => nofun
  | succ fuel ih =>
      rw [skipLabels]
      cases packet[index]? with
      | none => nofun
      | some size =>
          by_cases hzero : size = 0
          · simp [hzero]
          · simp only [hzero, if_false]
            exact Fallible.failWhen_bind_ne_panic fun _ => ih

/-- The walk passes what is written before it stops. -/
theorem LabelWalk.spec (hwalk : LabelWalk packet index labels stop) :
    (∀ label ∈ labels, FitsLabel label) ∧
      packet.drop index = wireLabels labels ++ packet.drop stop ∧
      ∀ size ∈ packet[stop]?, size = 0 := by
  induction hwalk with
  | done index ends => exact ⟨by simp, rfl, ends⟩
  | label index size labels stop found nonzero short room rest ih =>
      obtain ⟨hfit, hdrop, hends⟩ := ih
      have hpositive : 0 < size.toNat := by
        rw [Nat.pos_iff_ne_zero, ← UInt8.toNat_zero, ne_eq, UInt8.toNat_inj]
        exact nonzero
      have hlength : ((packet.drop (index + 1)).take size.toNat).length = size.toNat := by
        rw [List.length_take, List.length_drop]
        omega
      refine ⟨?_, ?_, hends⟩
      · intro label hlabel
        rcases List.mem_cons.mp hlabel with rfl | hlabel
        · exact ⟨by rw [hlength]; exact hpositive, by rw [hlength]; exact short⟩
        · exact hfit label hlabel
      · obtain ⟨hindex, hvalue⟩ := List.getElem?_eq_some_iff.mp found
        have hbehind : packet.drop (index + size.toNat + 1) =
            (packet.drop (index + 1)).drop size.toNat := by
          rw [List.drop_drop]
          congr 1
          omega
        rw [List.drop_eq_getElem_cons hindex, hvalue, wireLabels_cons, hlength, UInt8.ofNat_toNat,
          List.cons_append, List.append_assoc, ← hdrop, hbehind, List.take_append_drop]

/-- Labels that were written are walked over, up to the zero byte behind them. -/
theorem LabelWalk.of_wire {front rest : Bytes} (hfit : ∀ label ∈ labels, FitsLabel label) :
    LabelWalk (front ++ (wireLabels labels ++ 0 :: rest)) front.length labels
      (front ++ wireLabels labels).length := by
  induction labels generalizing front with
  | nil => exact (LabelWalk.iff_done (by simp)).mpr ⟨rfl, by simp⟩
  | cons label labels ih =>
      obtain ⟨hpositive, hshort⟩ := hfit label List.mem_cons_self
      have hsize : (UInt8.ofNat label.length).toNat = label.length := by
        rw [UInt8.toNat_ofNat', Nat.mod_eq_of_lt (by omega)]
      have hrest := @ih (front ++ UInt8.ofNat label.length :: label)
        (fun other hother => hfit other (List.mem_cons_of_mem _ hother))
      have hfound : (front ++ (wireLabels (label :: labels) ++ 0 :: rest))[front.length]? =
          some (UInt8.ofNat label.length) := by simp
      refine (LabelWalk.iff_label hfound ?_).mpr ⟨⟨by omega, ?_⟩, labels, ?_, ?_⟩
      · intro hzero
        rw [hzero] at hsize
        simp at hsize
        omega
      · simp [hsize]
        omega
      · rw [hsize]
        simp
      · rw [hsize]
        simpa [Nat.add_assoc, Nat.add_comm 1] using hrest

/-- What is walked over from an index is determined by the packet. -/
theorem LabelWalk.unique {labels' : List Bytes} {stop' : Nat}
    (hwalk : LabelWalk packet index labels stop) (hwalk' : LabelWalk packet index labels' stop') :
    labels = labels' ∧ stop = stop' := by
  induction hwalk generalizing labels' stop' with
  | done index ends =>
      obtain ⟨rfl, rfl⟩ := (LabelWalk.iff_done ends).mp hwalk'
      exact ⟨rfl, rfl⟩
  | label index size labels stop found nonzero short room rest ih =>
      obtain ⟨_, rest', rfl, hrest⟩ := (LabelWalk.iff_label found nonzero).mp hwalk'
      obtain ⟨rfl, rfl⟩ := ih hrest
      exact ⟨rfl, rfl⟩

/-! ## Queries -/

def DnsRecordType.code : DnsRecordType → UInt16
  | .a => 1
  | .aaaa => 28

/-- A packet with one question for the addresses of a name. -/
structure IsQuery (packet : Bytes) (maximumSize : Nat) (query : DnsQuery) : Prop where
  size : 12 ≤ packet.length ∧ packet.length ≤ maximumSize
  request : ∃ flags, packet[2]? = some flags ∧ flags &&& 128 = 0
  questions : (packet.drop 4).take 2 = Bytes.bigEndian 2 1
  question : ∃ labels rest, (∀ label ∈ labels, FitsLabel label) ∧ 2 ≤ rest.length ∧
    packet.drop 12 =
      wireLabels labels ++ 0 :: (Bytes.bigEndian 2 query.recordType.code.toNat ++ rest)
  transactionId : packet.take 2 = Bytes.bigEndian 2 query.transactionId.toNat

theorem byteAt_eq_ok {byte : UInt8} :
    byteAt packet index state = (.ok byte, final) ↔ packet[index]? = some byte ∧ state = final :=
  Fallible.orPanic_eq_ok

/-- Two bytes and the number that they are the bytes of. -/
theorem bigEndian_two {high low : UInt8} {value : UInt16} :
    [high, low] = Bytes.bigEndian 2 value.toNat ↔
      UInt16.ofNat (high.toNat * 256 + low.toNat) = value := by
  have hhigh : high.toNat < 256 := high.toNat_lt
  have hlow : low.toNat < 256 := low.toNat_lt
  have hvalue : value.toNat < 65536 := value.toNat_lt
  simp only [Bytes.bigEndian, List.nil_append, List.cons_append, List.cons.injEq, and_true,
    ← UInt8.toNat_inj, ← UInt16.toNat_inj, UInt8.toNat_ofNat', UInt16.toNat_ofNat']
  omega

theorem take_two_eq_iff {high low : UInt8} :
    (packet.drop index).take 2 = [high, low] ↔
      packet[index]? = some high ∧ packet[index + 1]? = some low := by
  rw [← List.getElem?_drop, ← Nat.add_zero index, ← List.getElem?_drop, Nat.add_zero]
  rcases packet.drop index with _ | ⟨first, _ | ⟨second, rest⟩⟩ <;> simp

theorem u16At_eq_ok {value : UInt16} :
    u16At packet index state = (.ok value, final) ↔
      (packet.drop index).take 2 = Bytes.bigEndian 2 value.toNat ∧ state = final := by
  simp only [u16At, Fallible.bind_eq_ok, byteAt_eq_ok, Fallible.pure_eq_ok]
  constructor
  · rintro ⟨high, _, ⟨hhigh, rfl⟩, low, _, ⟨hlow, rfl⟩, rfl, rfl⟩
    exact ⟨(take_two_eq_iff.mpr ⟨hhigh, hlow⟩).trans (bigEndian_two.mpr rfl), rfl⟩
  · rintro ⟨hbytes, rfl⟩
    obtain ⟨hhigh, hlow⟩ := take_two_eq_iff.mp hbytes
    exact ⟨_, state, ⟨hhigh, rfl⟩, _, state, ⟨hlow, rfl⟩, bigEndian_two.mp rfl, rfl⟩

theorem DnsRecordType.code_injective : Function.Injective DnsRecordType.code := by
  intro first second hcode
  cases first <;> cases second <;> first | rfl | cases hcode

namespace DnsQuery

variable {maximumSize : Nat} {query : DnsQuery}

/-- The parser goes on with the record type that has the code. -/
theorem recordType_eq_ok {code : UInt16} {rest : DnsRecordType → Fallible σ DnsError DnsQuery} :
    (if code = 1 then pure .a >>= rest else if code = 28 then pure .aaaa >>= rest
      else Fallible.throw .malformedRequest >>= rest) state = (.ok query, final) ↔
        ∃ recordType, recordType.code = code ∧ rest recordType state = (.ok query, final) := by
  split_ifs with hfour hsix
  · subst hfour
    refine ⟨fun hrest => ⟨.a, rfl, hrest⟩, ?_⟩
    rintro ⟨recordType, hcode, hrest⟩
    obtain rfl : recordType = .a := DnsRecordType.code_injective hcode
    exact hrest
  · subst hsix
    refine ⟨fun hrest => ⟨.aaaa, rfl, hrest⟩, ?_⟩
    rintro ⟨recordType, hcode, hrest⟩
    obtain rfl : recordType = .aaaa := DnsRecordType.code_injective hcode
    exact hrest
  · constructor
    · intro hrest
      cases hrest
    · rintro ⟨_ | _, hcode, _⟩
      · exact absurd hcode.symm hfour
      · exact absurd hcode.symm hsix

theorem parse_eq_ok :
    DnsQuery.parse packet maximumSize state = (.ok query, final) ↔
      (12 ≤ packet.length ∧ packet.length ≤ maximumSize) ∧
      (∃ flags, packet[2]? = some flags ∧ flags &&& 128 = 0) ∧
      (packet[4]? = some 0 ∧ packet[5]? = some 1) ∧
      (∃ labels stop, LabelWalk packet 12 labels stop ∧ stop + 4 < packet.length ∧
        (packet.drop (stop + 1)).take 2 = Bytes.bigEndian 2 query.recordType.code.toNat) ∧
      packet.take 2 = Bytes.bigEndian 2 query.transactionId.toNat ∧ state = final := by
  simp only [DnsQuery.parse, Fallible.bind_eq_ok, Fallible.failWhen_eq_ok, byteAt_eq_ok,
    u16At_eq_ok, recordType_eq_ok, skipLabels_eq_ok (Nat.le_add_left _ _), Fallible.pure_eq_ok]
  constructor
  · rintro ⟨_, _, ⟨hlong, rfl⟩, _, _, ⟨hfits, rfl⟩, flags, _, ⟨hflags, rfl⟩, high, _, ⟨hhigh, rfl⟩,
      low, _, ⟨hlow, rfl⟩, _, _, ⟨hheader, rfl⟩, stop, _,
        ⟨⟨labels, hwalk⟩, rfl⟩, _, _, ⟨hroom, rfl⟩,
      code, _, ⟨hcode, rfl⟩, recordType, rfl, transactionId, _, ⟨hid, rfl⟩, rfl, rfl⟩
    push Not at hlong hfits hheader hroom
    obtain ⟨hrequest, rfl, rfl⟩ := hheader
    exact ⟨⟨hlong, hfits⟩, ⟨flags, hflags, hrequest⟩, ⟨hhigh, hlow⟩, ⟨labels, stop, hwalk, hroom,
      hcode⟩, hid, rfl⟩
  · rintro ⟨⟨hlong, hfits⟩, ⟨flags, hflags, hrequest⟩, ⟨hhigh, hlow⟩, ⟨labels, stop, hwalk, hroom,
      hcode⟩, hid, rfl⟩
    exact ⟨(), state, ⟨by omega, rfl⟩, (), state, ⟨by omega, rfl⟩, flags, state, ⟨hflags, rfl⟩, 0,
      state, ⟨hhigh, rfl⟩, 1, state, ⟨hlow, rfl⟩, (), state, ⟨by simp [hrequest], rfl⟩, stop, state,
      ⟨⟨labels, hwalk⟩, rfl⟩, (), state, ⟨by omega, rfl⟩, _, state, ⟨hcode, rfl⟩, query.recordType,
      rfl, query.transactionId, state, ⟨hid, rfl⟩, rfl, rfl⟩

/-- Every read of the parser is in range. -/
theorem parse_ne_panic : (DnsQuery.parse packet maximumSize state).1 ≠ .panic := by
  refine Fallible.failWhen_bind_ne_panic fun hlong => ?_
  refine Fallible.failWhen_bind_ne_panic fun _ => ?_
  have hread (index : Nat) (hindex : index < packet.length) :
      byteAt (σ := σ) packet index = pure packet[index] := by
    rw [byteAt, List.getElem?_eq_getElem hindex, Fallible.orPanic_some]
  have hnumber (index : Nat) (hindex : index + 1 < packet.length) :
      ∃ value, u16At (σ := σ) packet index = pure value :=
    ⟨_, by rw [u16At, hread index (by omega), hread (index + 1) hindex]; rfl⟩
  rw [hread 2 (by omega), hread 4 (by omega), hread 5 (by omega)]
  refine Fallible.failWhen_bind_ne_panic fun _ => ?_
  refine Fallible.bind_ne_panic skipLabels_ne_panic fun stop next _ => ?_
  refine Fallible.failWhen_bind_ne_panic fun hroom => ?_
  obtain ⟨code, hcode⟩ := hnumber (stop + 1) (by omega)
  obtain ⟨transactionId, hid⟩ := hnumber 0 (by omega)
  rw [hcode, hid]
  simp only [Fallible.pure_bind_run]
  split_ifs <;> nofun

/-- What the parser accepts is a query, with the record type and the transaction id of its bytes. -/
theorem isQuery_of_parse (hparse : DnsQuery.parse packet maximumSize state = (.ok query, final)) :
    IsQuery packet maximumSize query := by
  obtain ⟨hsize, hrequest, ⟨hhigh, hlow⟩, ⟨labels, stop, hwalk, hroom, hcode⟩, hid, -⟩ :=
    parse_eq_ok.mp hparse
  obtain ⟨hfit, hdrop, hends⟩ := hwalk.spec
  have hzero : packet[stop] = 0 := hends _ (List.getElem?_eq_getElem (by omega))
  refine ⟨hsize, hrequest, ?_, ⟨labels, packet.drop (stop + 3), hfit, ?_, ?_⟩, hid⟩
  · exact take_two_eq_iff.mpr ⟨hhigh, hlow⟩
  · rw [List.length_drop]
    omega
  · have hbehind : packet.drop (stop + 3) = (packet.drop (stop + 1)).drop 2 := by
      rw [List.drop_drop]
    rw [hdrop, List.drop_eq_getElem_cons (by omega), hzero, hbehind, ← hcode,
      List.take_append_drop]

theorem parse_of_isQuery (hquery : IsQuery packet maximumSize query) :
    DnsQuery.parse packet maximumSize state = (.ok query, state) := by
  obtain ⟨hsize, hrequest, hquestions, ⟨labels, rest, hfit, htwo, hdrop⟩, hid⟩ := hquery
  have hfront : (packet.take 12).length = 12 := by
    rw [List.length_take]
    omega
  have hpacket : packet = packet.take 12 ++ (wireLabels labels ++
      0 :: (Bytes.bigEndian 2 query.recordType.code.toNat ++ rest)) := by
    rw [← hdrop, List.take_append_drop]
  have hwalk := @LabelWalk.of_wire labels (packet.take 12)
    (Bytes.bigEndian 2 query.recordType.code.toNat ++ rest) hfit
  rw [← hpacket, hfront] at hwalk
  have hbehind : packet.drop ((packet.take 12 ++ wireLabels labels).length + 1) =
      Bytes.bigEndian 2 query.recordType.code.toNat ++ rest := by
    rw [← List.drop_drop]
    nth_rewrite 2 [hpacket]
    rw [← List.append_assoc, List.drop_left]
    rfl
  refine parse_eq_ok.mpr ⟨hsize, hrequest, take_two_eq_iff.mp hquestions,
    ⟨labels, _, hwalk, ?_, ?_⟩, hid, rfl⟩
  · have hlength := congrArg List.length hbehind
    simp only [List.length_drop, List.length_append, Bytes.length_bigEndian] at hlength ⊢
    omega
  · rw [hbehind, List.take_left' (Bytes.length_bigEndian _ _)]

/-- The parser comes to an end without a read out of range, and accepts exactly the queries. -/
theorem parse_exact (packet : Bytes) (maximumSize : Nat) (state : σ) :
    (DnsQuery.parse packet maximumSize state).1 ≠ .panic ∧
      ∀ query, (DnsQuery.parse packet maximumSize state).1 = .ok query ↔
        IsQuery packet maximumSize query := by
  refine ⟨parse_ne_panic, fun query => ⟨fun hparse => ?_, fun hquery => ?_⟩⟩
  · exact isQuery_of_parse (Prod.ext hparse rfl)
  · rw [parse_of_isQuery hquery]

end DnsQuery

end Network
