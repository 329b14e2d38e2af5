import GhostLayer.Relay.ForwardingLaws
import GhostLayer.Relay.Timestamps

/-! # Metadata is read back

A metadata request is read back as itself. A report loses the parts of a second
in its times and nothing else, as long as its times are not before the epoch;
reading it never panics, since every time that the platform can hold is short of
the one that overflows.
-/

namespace Relay

open Foundation Network

variable {ext : Externals}

/-! ## Requests -/

theorem RelayMetadataRequest.fromJson_toJson (request : RelayMetadataRequest) :
    RelayMetadataRequest.fromJson request.toJson = some request := rfl

theorem RelayMetadataRequest.readable_toJson (request : RelayMetadataRequest) :
    Json.readable 127 request.toJson = true := by
  simp [RelayMetadataRequest.toJson, RelayMetadataRequest.fieldNames, Json.readable,
    Json.readableFields]

/-! ## Times -/

/-- A time of the platform that is not before the epoch. -/
structure PostEpoch (time : Int) : Prop where
  nonneg : 0 ≤ time
  held : time < 2 ^ 63 * 10 ^ 9

/-- The seconds that a time is written as. -/
def secondsOf (time : Int) : Nat := time.toNat / 10 ^ 9

def wholeSeconds (time : Int) : Int := time / 10 ^ 9 * 10 ^ 9

theorem PostEpoch.secondsOf_lt {time : Int} (htime : PostEpoch time) : secondsOf time < 2 ^ 63 := by
  have hheld := htime.held
  have hnonneg := htime.nonneg
  unfold secondsOf
  omega

theorem PostEpoch.unixTimestamp {time : Int} (htime : PostEpoch time) :
    unixTimestamp time = some (.num (secondsOf time)) := if_pos htime.nonneg

theorem PostEpoch.u64_secondsOf {time : Int} (htime : PostEpoch time) :
    Serde.u64 (.num (secondsOf time)) = some (UInt64.ofNat (secondsOf time)) := by
  have hlt : secondsOf time < 2 ^ 64 := lt_trans htime.secondsOf_lt (by decide)
  simp only [Serde.u64, Serde.natBelow, if_pos hlt, Option.map_some]

theorem PostEpoch.toNat_secondsOf {time : Int} (htime : PostEpoch time) :
    (UInt64.ofNat (secondsOf time)).toNat = secondsOf time := by
  have hlt : secondsOf time < 2 ^ 64 := lt_trans htime.secondsOf_lt (by decide)
  rw [UInt64.toNat_ofNat', Nat.mod_eq_of_lt hlt]

theorem PostEpoch.fromUnixTimestamp {time : Int} (htime : PostEpoch time) :
    fromUnixTimestamp (UInt64.ofNat (secondsOf time)) = wholeSeconds time := by
  have hnonneg := htime.nonneg
  rw [Relay.fromUnixTimestamp, htime.toNat_secondsOf, secondsOf, wholeSeconds]
  omega

theorem PostEpoch.not_overflowing {time : Int} (htime : PostEpoch time) :
    ¬ RelayMetadata.Overflowing (.num (secondsOf time)) := by
  intro hoverflow
  obtain ⟨seconds, hseconds, hlarge, -⟩ := hoverflow
  cases hseconds
  exact absurd htime.secondsOf_lt (Nat.not_lt.mpr hlarge)

/-! ## Reports -/

theorem RelayStatus.fromJson_toJson (status : RelayStatus) :
    RelayStatus.fromJson status.toJson = some status := by
  cases status <;> rfl

theorem HealthClass.fromJson_toJson (health : HealthClass) :
    HealthClass.fromJson health.toJson = some health := by
  cases health <;> rfl

namespace RelayMetadata

/-- A report all of whose times can be written. -/
structure Writable (metadata : RelayMetadata) : Prop where
  timestamp : PostEpoch metadata.timestamp
  lastHeartbeat : ∀ heartbeat ∈ metadata.lastHeartbeat, PostEpoch heartbeat

def truncated (metadata : RelayMetadata) : RelayMetadata :=
  { metadata with
    timestamp := wholeSeconds metadata.timestamp
    lastHeartbeat := metadata.lastHeartbeat.map wholeSeconds }

/-- The values of the fields in their order. -/
def values (ext : Externals) (metadata : RelayMetadata) : List Json := [
  .str (ext.peerText metadata.peerId),
  .str metadata.protocolVersion,
  .str metadata.softwareVersion,
  .arr (metadata.supportedTransports.map .str),
  .arr (metadata.capabilities.map .str),
  Serde.ofNullable .str metadata.listeningAddress,
  Serde.ofNullable .str metadata.advertisedAddress,
  metadata.status.toJson,
  metadata.health.toJson,
  Serde.ofNullable (fun latency => .num latency.toNat) metadata.latencyMs,
  .num (secondsOf metadata.timestamp),
  Serde.ofNullable (fun heartbeat => .num (secondsOf heartbeat)) metadata.lastHeartbeat]

variable {metadata : RelayMetadata}

theorem Writable.toJson (hwritable : metadata.Writable) :
    metadata.toJson ext = some (.obj (fieldNames.zip (metadata.values ext))) := by
  have htimestamp := hwritable.timestamp.unixTimestamp
  cases hheartbeat : metadata.lastHeartbeat with
  | none => simp [RelayMetadata.toJson, values, htimestamp, hheartbeat, Serde.ofNullable]
  | some heartbeat =>
      have htime := (hwritable.lastHeartbeat heartbeat (by simp [hheartbeat])).unixTimestamp
      simp [RelayMetadata.toJson, values, htimestamp, hheartbeat, htime, Serde.ofNullable]

theorem seq_text (texts : List String) : Serde.seq Serde.text
    (.arr (texts.map .str)) = some texts :=
  Serde.mapM_map_of_inverse Serde.text_str texts

theorem peerFromJson_peerText (hreads : ext.ReadsIdentities) (peer : PeerId) :
    peerFromJson ext (.str (ext.peerText peer)) = some peer := hreads.peer peer

/-- A time that may be missing is read back in whole seconds. -/
theorem Writable.heartbeat (hwritable : metadata.Writable) :
    (Serde.nullable Serde.u64
      (Serde.ofNullable (fun heartbeat => .num (secondsOf heartbeat)) metadata.lastHeartbeat)).map
        (fun heartbeat => heartbeat.map fromUnixTimestamp) =
      some (metadata.lastHeartbeat.map wholeSeconds) := by
  cases hheartbeat : metadata.lastHeartbeat with
  | none => rfl
  | some heartbeat =>
      have htime := hwritable.lastHeartbeat heartbeat (by simp [hheartbeat])
      simp [Serde.ofNullable, Serde.nullable, htime.u64_secondsOf, htime.fromUnixTimestamp]

theorem Writable.fromJson_values (hreads : ext.ReadsIdentities) (hwritable : metadata.Writable) :
    RelayMetadata.fromJson ext (.obj (fieldNames.zip (metadata.values ext))) =
      some metadata.truncated := by
  have hlistening := Serde.nullable_ofNullable Serde.text_str nofun metadata.listeningAddress
  have hadvertised := Serde.nullable_ofNullable Serde.text_str nofun metadata.advertisedAddress
  have hlatency := Serde.nullable_ofNullable Serde.u64_num nofun metadata.latencyMs
  obtain ⟨heartbeat, hheartbeat, htruncated⟩ := Option.map_eq_some_iff.mp hwritable.heartbeat
  rw [RelayMetadata.fromJson, Serde.record_zip 1 (by decide) rfl]
  -- One step for each field, in the order of the record.
  refine Option.bind_eq_some_iff.mpr ⟨_, rfl, ?_⟩
  refine Option.bind_eq_some_iff.mpr ⟨_, peerFromJson_peerText hreads metadata.peerId, ?_⟩
  refine Option.bind_eq_some_iff.mpr ⟨_, Serde.text_str metadata.protocolVersion, ?_⟩
  refine Option.bind_eq_some_iff.mpr ⟨_, Serde.text_str metadata.softwareVersion, ?_⟩
  refine Option.bind_eq_some_iff.mpr ⟨_, seq_text metadata.supportedTransports, ?_⟩
  refine Option.bind_eq_some_iff.mpr ⟨_, seq_text metadata.capabilities, ?_⟩
  refine Option.bind_eq_some_iff.mpr ⟨_, hlistening, ?_⟩
  refine Option.bind_eq_some_iff.mpr ⟨_, hadvertised, ?_⟩
  refine Option.bind_eq_some_iff.mpr ⟨_, RelayStatus.fromJson_toJson metadata.status, ?_⟩
  refine Option.bind_eq_some_iff.mpr ⟨_, HealthClass.fromJson_toJson metadata.health, ?_⟩
  refine Option.bind_eq_some_iff.mpr ⟨_, hlatency, ?_⟩
  refine Option.bind_eq_some_iff.mpr ⟨_, hwritable.timestamp.u64_secondsOf, ?_⟩
  refine Option.bind_eq_some_iff.mpr ⟨_, hheartbeat, ?_⟩
  rw [htruncated, hwritable.timestamp.fromUnixTimestamp]
  rfl

/-- The times of a written report are short of the one that overflows. -/
theorem Writable.not_reaches (hwritable : metadata.Writable) :
    ¬ Reaches ext (.obj (fieldNames.zip (metadata.values ext))) := by
  have hheartbeat : ¬ Overflowing (Serde.ofNullable
      (fun heartbeat => .num (secondsOf heartbeat)) metadata.lastHeartbeat) := by
    cases hheartbeat : metadata.lastHeartbeat with
    | none => simp [Overflowing, Serde.ofNullable]
    | some heartbeat =>
        exact (hwritable.lastHeartbeat heartbeat (by simp [hheartbeat])).not_overflowing
  have hfields : ∀ field ∈ fieldNames.zip (metadata.values ext),
      field.1 ∈ timeFields → ¬ Overflowing field.2 := by
    simp only [fieldNames, values, List.zip_cons_cons, List.zip_nil_right, List.forall_mem_cons]
    refine ⟨?_, ?_, ?_, ?_, ?_, ?_, ?_, ?_, ?_, ?_, ?_, ?_, List.forall_mem_nil _⟩
    iterate 10 exact fun hname => absurd hname (by decide)
    · exact fun _ => hwritable.timestamp.not_overflowing
    · exact fun _ => hheartbeat
  intro hreaches
  obtain ⟨before, name, value, after, hsplit, hname, hoverflow, -⟩ := hreaches
  have hmem : (name, value) ∈ fieldNames.zip (metadata.values ext) := by
    rw [show fieldNames.zip (metadata.values ext) = _ from hsplit]
    exact List.mem_append_right _ (List.mem_cons_self ..)
  exact hfields _ hmem hname hoverflow

theorem Writable.decode_values (hreads : ext.ReadsIdentities) (hwritable : metadata.Writable) :
    decode ext (.obj (fieldNames.zip (metadata.values ext))) = .ok metadata.truncated :=
  decode_of_not_reaches hwritable.not_reaches (hwritable.fromJson_values hreads)

theorem readable_status (depth : Nat) (status : RelayStatus) :
    Json.readable depth status.toJson = true := by
  cases status <;> simp [RelayStatus.toJson, Json.readable]

theorem readable_health (depth : Nat) (health : HealthClass) :
    Json.readable depth health.toJson = true := by
  cases health <;> simp [HealthClass.toJson, Json.readable]

theorem readable_secondsOf {time : Int} (depth : Nat) (htime : PostEpoch time) :
    Json.readable depth (.num (secondsOf time)) = true := by
  rw [← htime.toNat_secondsOf]
  exact Serde.readable_u64 depth _

theorem Writable.readable_values (hwritable : metadata.Writable) :
    Json.readable 127 (.obj (fieldNames.zip (metadata.values ext))) = true := by
  have htext : ∀ text : Option String, Json.readable 126 (Serde.ofNullable .str text) = true :=
    fun text => Serde.readable_ofNullable fun _ _ => by simp [Json.readable]
  have hlatency : Json.readable 126
      (Serde.ofNullable (fun latency => .num latency.toNat) metadata.latencyMs) = true :=
    Serde.readable_ofNullable fun latency _ => Serde.readable_u64 126 latency
  have htimestamp := readable_secondsOf 126 hwritable.timestamp
  have hheartbeat : Json.readable 126 (Serde.ofNullable
      (fun heartbeat => .num (secondsOf heartbeat)) metadata.lastHeartbeat) = true :=
    Serde.readable_ofNullable fun heartbeat hmem =>
      readable_secondsOf 126 (hwritable.lastHeartbeat heartbeat hmem)
  have hstrings : ∀ texts : List String, Json.readable 126 (.arr (texts.map .str)) = true :=
    Serde.readableItems_texts 125
  have hstring : ∀ text : String, Json.readable 126 (.str text) = true := fun _ => by
    simp [Json.readable]
  change Json.readableFields 126 _ = true
  simp only [values, fieldNames, List.zip_cons_cons, List.zip_nil_right,
    Json.readableFields, hstring,
    hstrings, htext, readable_status, readable_health, hlatency, htimestamp, hheartbeat,
    Bool.and_self]

/-- A report is read back in whole seconds. -/
theorem Writable.fromSlice_toJson {json : Json} (hparse : ext.ParsesJson)
    (hreads : ext.ReadsIdentities) (hwritable : metadata.Writable)
    (hwritten : metadata.toJson ext = some json) :
    RelayMetadata.fromSlice ext json.render = .ok metadata.truncated := by
  rw [hwritable.toJson] at hwritten
  cases hwritten
  simp only [RelayMetadata.fromSlice, hparse _ hwritable.readable_values,
    hwritable.decode_values hreads]

end RelayMetadata

end Relay
