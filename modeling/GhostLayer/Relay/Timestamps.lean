import GhostLayer.Network.Reference
import GhostLayer.Relay.Routing

/-! # Times in the metadata of others

A relay's metadata carries times as numbers of seconds. Every `u64` is read, and
the addition to the epoch panics from `2 ^ 63` on. Which documents get the
reader there is told from their fields.
-/

namespace Relay.RelayMetadata

open Foundation Network

variable {ext : Externals} {name : String} {value : Json}

/-! ## One field -/

def timeFields : List String := ["timestamp", "last_heartbeat"]

/-- A number of seconds that a `u64` holds and a time does not. -/
def Overflowing (value : Json) : Prop :=
  ∃ seconds, value = .num seconds ∧ 2 ^ 63 ≤ seconds ∧ seconds < 2 ^ 64

def Seconds (value : Json) : Prop := ∃ seconds, value = .num seconds ∧ seconds < 2 ^ 63

/-- What a field of a name may hold. Fields with other names may hold anything. -/
def Fits (ext : Externals) (name : String) (value : Json) : Prop :=
  match name with
  | "peer_id" => (peerFromJson ext value).isSome
  | "protocol_version" | "software_version" => (Serde.text value).isSome
  | "supported_transports" | "capabilities" => (Serde.seq Serde.text value).isSome
  | "listening_address" | "advertised_address" => (Serde.nullable Serde.text value).isSome
  | "status" => (RelayStatus.fromJson value).isSome
  | "health" => (HealthClass.fromJson value).isSome
  | "latency_ms" => (Serde.nullable Serde.u64 value).isSome
  | "timestamp" => Seconds value
  | "last_heartbeat" => value = .null ∨ Seconds value
  | _ => True

theorem u64_eq_some {seconds : UInt64} :
    Serde.u64 value = some seconds ↔ value = .num seconds.toNat := by
  constructor
  · intro hread
    obtain ⟨number, hnumber, rfl⟩ := Option.map_eq_some_iff.mp hread
    cases value with
    | num held =>
        have hfits : held < 2 ^ 64 ∧ held = number := by simpa [Serde.natBelow] using hnumber
        obtain ⟨hlt, rfl⟩ := hfits
        rw [UInt64.toNat_ofNat_of_lt' hlt]
    | _ => cases hnumber
  · rintro rfl
    exact Serde.u64_num seconds

theorem seconds_iff :
    Seconds value ↔ ∃ seconds, Serde.u64 value = some seconds ∧ ¬ timestampOverflows seconds := by
  simp only [u64_eq_some, timestampOverflows, decide_eq_true_eq, not_le]
  constructor
  · rintro ⟨seconds, rfl, hlt⟩
    refine ⟨UInt64.ofNat seconds, ?_⟩
    rw [UInt64.toNat_ofNat_of_lt' (hlt.trans (by decide))]
    exact ⟨rfl, hlt⟩
  · rintro ⟨seconds, rfl, hlt⟩
    exact ⟨seconds.toNat, rfl, hlt⟩

theorem overflowing_iff :
    Overflowing value ↔ ∃ seconds, Serde.u64 value = some seconds ∧ timestampOverflows seconds := by
  simp only [u64_eq_some, timestampOverflows, decide_eq_true_eq]
  constructor
  · rintro ⟨seconds, rfl, hge, hlt⟩
    refine ⟨UInt64.ofNat seconds, ?_⟩
    rw [UInt64.toNat_ofNat_of_lt' hlt]
    exact ⟨rfl, hge⟩
  · rintro ⟨seconds, rfl, hge⟩
    exact ⟨seconds.toNat, rfl, hge, seconds.toNat_lt⟩

theorem readField_timestamp_eq_ok : readField ext "timestamp" value = .ok () ↔ Seconds value := by
  rw [seconds_iff, readField]
  cases hread : Serde.u64 value with
  | none => simp
  | some seconds => by_cases hlate : timestampOverflows seconds <;> simp [hlate]

theorem readField_timestamp_eq_panic :
    readField ext "timestamp" value = .panic ↔ Overflowing value := by
  rw [overflowing_iff, readField]
  cases hread : Serde.u64 value with
  | none => simp
  | some seconds => by_cases hlate : timestampOverflows seconds <;> simp [hlate]

/-- A heartbeat is read as a time is, unless there is none. -/
theorem readField_lastHeartbeat (hvalue : value ≠ .null) :
    readField ext "last_heartbeat" value = readField ext "timestamp" value := by
  cases value with
  | null => exact absurd rfl hvalue
  | num seconds =>
      show readField ext "last_heartbeat" (.num seconds) = readField ext "timestamp" (.num seconds)
      unfold readField
      simp only [Serde.nullable]
  | _ => rfl

theorem checked (fits : Prop) [Decidable fits] :
    fits ∧ (if fits then .ok () else .error () : Outcome Unit Unit) = .ok () ∨
      ¬ fits ∧ (if fits then .ok () else .error () : Outcome Unit Unit) = .error () := by
  by_cases hfits : fits
  · exact .inl ⟨hfits, if_pos hfits⟩
  · exact .inr ⟨hfits, if_neg hfits⟩

variable (ext value) in
/-- A field without a time is accepted if it fits, and refused otherwise. -/
theorem readField_of_not_time (htime : name ∉ timeFields) :
    Fits ext name value ∧ readField ext name value = .ok () ∨
      ¬ Fits ext name value ∧ readField ext name value = .error () := by
  unfold Fits readField
  split
  -- The fields with a time are the last two of those with a name.
  case h_11 | h_12 => exact absurd (by decide) htime
  case h_13 => exact .inl ⟨trivial, by simp [*]⟩
  all_goals exact checked _

theorem readField_eq_ok : readField ext name value = .ok () ↔ Fits ext name value := by
  by_cases htime : name ∈ timeFields
  · rcases List.mem_pair.mp htime with rfl | rfl
    · exact readField_timestamp_eq_ok
    · cases value with
      | null => simp [readField, Fits]
      | _ => simp [readField_lastHeartbeat, readField_timestamp_eq_ok, Fits]
  · rcases readField_of_not_time ext value htime with
      ⟨hfits, hread⟩ | ⟨hfits, hread⟩ <;> simp [hfits, hread]

variable (ext name value) in
theorem readField_eq_panic :
    readField ext name value = .panic ↔ name ∈ timeFields ∧ Overflowing value := by
  by_cases htime : name ∈ timeFields
  · rcases List.mem_pair.mp htime with rfl | rfl
    · simp [readField_timestamp_eq_panic, htime]
    · cases value with
      | null => simp [readField, Overflowing]
      | _ => simp [readField_lastHeartbeat, readField_timestamp_eq_panic, htime]
  · rcases readField_of_not_time ext value htime with
      ⟨-, hread⟩ | ⟨-, hread⟩ <;> simp [htime, hread]

/-! ## The fields of a document -/

/-- The fields in the order in which they are read. -/
def documentFields : Json → List (String × Json)
  | .obj fields => fields
  | .arr items => fieldNames.zip items
  | _ => []

/-- No field of metadata is named twice. -/
def Distinct (names : List String) : Prop := (names.filter (· ∈ fieldNames)).Nodup

theorem Distinct.of_append {left right : List String} (hdistinct : Distinct (left ++ right)) :
    Distinct right := by
  rw [Distinct, List.filter_append] at hdistinct
  exact hdistinct.of_append_right

theorem distinct_cons {names : List String} :
    Distinct (name :: names) ↔ ¬ (name ∈ fieldNames ∧ name ∈ names) ∧ Distinct names := by
  by_cases hknown : name ∈ fieldNames
  · simp [Distinct, hknown]
  · simp [Distinct, hknown]

/-- A time that overflows is reached after some names were seen: what comes before it fits, and no
field comes twice. -/
def ReachesAfter (ext : Externals) (seen : List String) (fields : List (String × Json)) : Prop :=
  ∃ before name value after, fields = before ++ (name, value) :: after ∧
    name ∈ timeFields ∧ Overflowing value ∧ (∀ field ∈ before, Fits ext field.1 field.2) ∧
    Distinct (name :: ((before.map Prod.fst).reverse ++ seen))

section Reading

variable {seen : List String} {fields : List (String × Json)}

theorem ReachesAfter.distinct (hreaches : ReachesAfter ext seen fields) : Distinct seen := by
  obtain ⟨before, name, value, after, -, -, -, -, hdistinct⟩ := hreaches
  exact (distinct_cons.mp hdistinct).2.of_append

theorem not_reachesAfter_nil : ¬ ReachesAfter ext seen [] := by
  rintro ⟨before, name, value, after, hsplit, -⟩
  simp at hsplit

/-- It is the first field, or the first one fits and it is reached after that. -/
theorem reachesAfter_cons :
    ReachesAfter ext seen ((name, value) :: fields) ↔
      (name ∈ timeFields ∧ Overflowing value ∧ Distinct (name :: seen)) ∨
      (Fits ext name value ∧ ReachesAfter ext (name :: seen) fields) := by
  constructor
  · rintro ⟨before, late, seconds, after, hsplit, htime, hoverflow, hfits, hdistinct⟩
    cases before with
    | nil =>
        cases hsplit
        exact .inl ⟨htime, hoverflow, hdistinct⟩
    | cons first before =>
        obtain ⟨rfl, rfl⟩ := List.cons.inj hsplit
        obtain ⟨hfirst, hfits⟩ := List.forall_mem_cons.mp hfits
        refine .inr ⟨hfirst, before, late, seconds, after, rfl, htime, hoverflow, hfits, ?_⟩
        simpa using hdistinct
  · rintro (⟨htime, hoverflow, hdistinct⟩ |
      ⟨hfirst, before, late, seconds, after, rfl, htime, hoverflow, hfits, hdistinct⟩)
    · exact ⟨[], name, value, fields, rfl, htime, hoverflow, List.forall_mem_nil _, hdistinct⟩
    · refine ⟨(name, value) :: before, late, seconds, after, rfl, htime, hoverflow, ?_, ?_⟩
      · exact List.forall_mem_cons.mpr ⟨hfirst, hfits⟩
      · simpa using hdistinct

theorem readFields_eq_panic (hseen : Distinct seen) :
    readFields ext fields seen = .panic ↔ ReachesAfter ext seen fields := by
  induction fields generalizing seen with
  | nil => simp [readFields, not_reachesAfter_nil]
  | cons field fields ih =>
      obtain ⟨name, value⟩ := field
      rw [reachesAfter_cons, ← readField_eq_ok]
      by_cases hrepeated : name ∈ fieldNames ∧ name ∈ seen
      · -- The reader stops here, before the value.
        have hnot : ¬ Distinct (name :: seen) := fun hdistinct =>
          (distinct_cons.mp hdistinct).1 hrepeated
        have hafter : ¬ ReachesAfter ext (name :: seen) fields := fun hreaches =>
          hnot hreaches.distinct
        simp [readFields, hrepeated, hnot, hafter]
      · have hnew : Distinct (name :: seen) := distinct_cons.mpr ⟨hrepeated, hseen⟩
        have hpanic := readField_eq_panic ext name value
        rw [readFields, if_neg hrepeated]
        cases hread : readField ext name value with
        | ok result => simp_all
        | error reason => simp_all
        | panic => simp_all

end Reading

/-! ## Whole documents -/

/-- A time that overflows is reached: every field before it fits, and no field came twice. -/
def Reaches (ext : Externals) (json : Json) : Prop :=
  ∃ before name value after, documentFields json = before ++ (name, value) :: after ∧
    name ∈ timeFields ∧ Overflowing value ∧
    (∀ field ∈ before, Fits ext field.1 field.2) ∧ Distinct (name :: (before.map Prod.fst).reverse)

theorem reaches_iff {json : Json} :
    Reaches ext json ↔ ReachesAfter ext [] (documentFields json) := by
  simp only [Reaches, ReachesAfter, List.append_nil]

/-- Only reading a field panics. -/
theorem decode_eq_panic {json : Json} :
    decode ext json = .panic ↔ readFields ext (documentFields json) [] = .panic := by
  cases hread : readFields ext (documentFields json) [] with
  | panic =>
      refine iff_of_true ?_ rfl
      cases json <;>
      · dsimp only [documentFields] at hread
        simp only [decode, hread]
  | ok | error =>
      refine iff_of_false ?_ (by simp)
      cases json <;>
      · dsimp only [documentFields] at hread
        simp only [decode, hread]
        -- Without a panic the fields are read again by name.
        cases fromJson ext _ <;> simp

/-- Where no time is reached that overflows, the report is the one that the fields hold. -/
theorem decode_of_not_reaches {json : Json} {metadata : RelayMetadata}
    (hreturns : ¬ Reaches ext json) (hjson : fromJson ext json = some metadata) :
    decode ext json = .ok metadata := by
  have hempty : Distinct [] := List.nodup_nil
  rw [reaches_iff, ← readFields_eq_panic hempty] at hreturns
  cases hread : readFields ext (documentFields json) [] with
  | panic => exact absurd hread hreturns
  | ok | error =>
      cases json <;>
      · dsimp only [documentFields] at hread
        simp only [decode, hread, hjson]

/-- Decoding metadata returns, with a report or without, just when no time is reached that
overflows. -/
theorem decode_returns_iff (ext : Externals) (json : Json) :
    decode ext json ≠ .panic ↔ ¬ Reaches ext json := by
  have hempty : Distinct [] := List.nodup_nil
  rw [Ne, decode_eq_panic, readFields_eq_panic hempty, reaches_iff]

/-- A time from which an `i64` cannot count, and nothing else. -/
theorem decode_overflows :
    decode reference (.obj [("timestamp", .num (2 ^ 63))]) = .panic := by
  rfl

end Relay.RelayMetadata
