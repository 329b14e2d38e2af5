import GhostLayer.App.BackendBridge

/-! # What the app shows of its backend

The state and the label of a status never disagree. Both count a backend that is
only alive as connected, unless its status text says otherwise, so a payload is
shown as protected without a report that it is ready or healthy.
-/

namespace App

variable {mapping : CaseMapping} {json : JsonMap}

/-! ## The state and the label -/

/-- The label of a state. -/
def BackendRuntimeConnectionState.label : BackendRuntimeConnectionState → Text
  | .disconnected => ascii "Disconnected"
  | .connecting => ascii "Connecting"
  | .connected => ascii "Protected"
  | .disconnecting => ascii "Disconnecting"
  | .error => ascii "Error"

theorem BackendRuntimeConnectionState.label_injective :
    Function.Injective BackendRuntimeConnectionState.label := by
  intro first second hlabel
  cases first <;> cases second <;> first | rfl | exact absurd hlabel (by decide)

namespace BackendConnectionStatus

variable {status : BackendConnectionStatus}

/-- The text of a status is about a connection that is not there, or not there yet. -/
def Unconnected (mapping : CaseMapping) (text : Text) : Prop :=
  ∃ word ∈ ["disconnecting", "disconnected", "connecting"],
    names (mapping.toLowerCase (trim text)) word = true

/-- The status text of a backend that is alive is never shown itself. -/
theorem statusLabel_eq_label (mapping : CaseMapping) (status : BackendConnectionStatus) :
    status.statusLabel mapping = (status.uiState mapping).label := by
  unfold statusLabel uiState
  dsimp only
  split_ifs with _ _ _ hconnected _ halive
  all_goals first | rfl | simp_all

theorem unconnected_iff {text : Text} : Unconnected mapping text ↔
    names (mapping.toLowerCase (trim text)) "disconnecting" = true ∨
      names (mapping.toLowerCase (trim text)) "disconnected" = true ∨
      names (mapping.toLowerCase (trim text)) "connecting" = true := by
  simp only [Unconnected, List.exists_mem_cons_iff, List.not_mem_nil, false_and, exists_false,
    or_false]

/-- On ASCII every mapping reads a text alike. -/
theorem unconnected_of_ascii {text : Text} (hascii : (trim text).all isAscii = true) :
    Unconnected mapping text ↔
      names ((trim text).map lowerUnit) "disconnecting" = true ∨
        names ((trim text).map lowerUnit) "disconnected" = true ∨
        names ((trim text).map lowerUnit) "connecting" = true := by
  rw [unconnected_iff, mapping.onAscii _ hascii]

theorem uiState_eq_connected :
    status.uiState mapping = .connected ↔ ¬ Unconnected mapping status.status ∧
      (status.ready = true ∨ status.healthy mapping = true ∨ status.alive = true) := by
  rw [unconnected_iff]
  unfold uiState normalizedStatus
  dsimp only
  split_ifs with hdisconnecting hdisconnected hconnecting hconnected
  · simp [hdisconnecting]
  · simp [hdisconnected]
  · simp [hconnecting]
  · simpa [hdisconnecting, hdisconnected, hconnecting, or_assoc] using hconnected
  all_goals simpa [hdisconnecting, hdisconnected, hconnecting, or_assoc] using hconnected

theorem statusLabel_eq_protected :
    status.statusLabel mapping = ascii "Protected" ↔ status.uiState mapping = .connected := by
  rw [statusLabel_eq_label]
  exact BackendRuntimeConnectionState.label_injective.eq_iff' rfl

/-! ## Payloads -/

def ReportsAlive (json : JsonMap) : Prop := field json "alive" = .bool true

def ReportsReady (json : JsonMap) : Prop := field json "ready" = .bool true

def ReportsHealthy (mapping : CaseMapping) (json : JsonMap) : Prop :=
  ∃ text, (field json "health").asString = some text ∧ mapping.toLowerCase text = ascii "healthy"

theorem reportsHealthy_iff : ReportsHealthy mapping json ↔
    ((field json "health").asString.map mapping.toLowerCase).getD [] = ascii "healthy" := by
  have hnil : [] ≠ ascii "healthy" := by decide
  cases htext : (field json "health").asString with
  | none => simp [ReportsHealthy, htext, hnil]
  | some text => simp [ReportsHealthy, htext]

theorem reportsReady_iff : ReportsReady json ↔ (field json "ready").isTrue = true :=
  JsonValue.isTrue_iff.symm

theorem reportsAlive_iff : ReportsAlive json ↔ (field json "alive").isTrue = true :=
  JsonValue.isTrue_iff.symm

theorem toLowerCase_unavailable : mapping.toLowerCase (ascii "unavailable") ≠ ascii "healthy" := by
  rw [mapping.onAscii _ (by decide)]
  decide

theorem unconnected_disconnected : Unconnected mapping (ascii "disconnected") := by
  rw [unconnected_of_ascii (by decide)]
  decide

/-- Of a payload that reports neither readiness nor health, only whether the backend is alive and
what its status text is are left. -/
theorem fromJson_unready (hready : ¬ ReportsReady json) (hhealthy : ¬ ReportsHealthy mapping json)
    (hstatus : fromJson mapping json = some status) :
    status.ready = false ∧ status.healthy mapping = false ∧
      status.alive = (field json "alive").isTrue ∧
      status.status = (field json "status").asString.getD
        (if status.alive then ascii "disconnected" else ascii "unavailable") := by
  rw [reportsReady_iff, Bool.not_eq_true] at hready
  rw [reportsHealthy_iff, ← ne_eq, ← beq_eq_false_iff_ne] at hhealthy
  simp only [fromJson, hready, hhealthy, Option.bind_eq_bind, Option.bind_eq_some_iff,
    Option.pure_def, Option.some.injEq] at hstatus
  obtain ⟨latencyMs, -, rfl⟩ := hstatus
  refine ⟨rfl, ?_, by simp, by simp⟩
  -- The health that is shown is the one of the payload, or the default.
  cases htext : (field json "health").asString with
  | none => simpa [healthy] using toLowerCase_unavailable
  | some text => simpa [healthy, htext] using hhealthy

/-- What a decoded status has of its payload. -/
theorem fromJson_fields (hstatus : fromJson mapping json = some status) :
    status.ready = (field json "ready").isTrue ∧
      (∀ text, (field json "health").asString = some text → status.health = text) ∧
      ∀ text, (field json "status").asString = some text → status.status = text := by
  simp only [fromJson, Option.bind_eq_bind, Option.bind_eq_some_iff, Option.pure_def,
    Option.some.injEq] at hstatus
  obtain ⟨latencyMs, -, rfl⟩ := hstatus
  refine ⟨rfl, ?_, ?_⟩ <;>
  · intro text htext
    simp [htext]

theorem fromJson_healthy (hhealthy : ReportsHealthy mapping json)
    (hstatus : fromJson mapping json = some status) :
    status.alive = true ∧ status.healthy mapping = true ∧
      status.status = (field json "status").asString.getD (ascii "connected") := by
  have hflag := reportsHealthy_iff.mp hhealthy
  obtain ⟨text, htext, hlower⟩ := hhealthy
  simp only [fromJson, hflag, beq_self_eq_true, Bool.true_or, Bool.or_true, if_true,
    Option.bind_eq_bind, Option.bind_eq_some_iff, Option.pure_def, Option.some.injEq] at hstatus
  obtain ⟨latencyMs, -, rfl⟩ := hstatus
  exact ⟨rfl, by simp [healthy, htext, hlower], rfl⟩

theorem milliseconds_eq_none {value : JsonValue} :
    milliseconds value = none ↔ value = .num (.double .infinite) := by
  constructor
  · intro hthrows
    unfold milliseconds at hthrows
    split at hthrows
    · unfold Num.toInt at hthrows
      split at hthrows <;> simp_all
    · cases hthrows
    · cases hthrows
  · rintro rfl
    rfl

/-- Only an infinite latency keeps a payload from being decoded. -/
theorem fromJson_isSome : (∃ status, fromJson mapping json = some status) ↔
    latency json ≠ .num (.double .infinite) := by
  rw [Ne, ← milliseconds_eq_none, Option.eq_none_iff_forall_ne_some]
  simp only [fromJson, Option.bind_eq_bind, Option.bind_eq_some_iff, Option.pure_def]
  constructor
  · rintro ⟨_, value, hvalue, -⟩ hnone
    exact hnone value hvalue
  · intro hsome
    obtain ⟨value, hvalue⟩ := not_forall_not.mp hsome
    exact ⟨_, value, hvalue, rfl⟩

/-! ## Who is shown as protected -/

/-- Nothing but being alive is reported. -/
structure MerelyAlive (mapping : CaseMapping) (json : JsonMap) : Prop where
  alive : ReportsAlive json
  unready : ¬ ReportsReady json
  unhealthy : ¬ ReportsHealthy mapping json

/-- What is shown of a payload is what it reports. -/
structure Truthful (mapping : CaseMapping) (json : JsonMap) : Prop where
  reported : ∀ status, fromJson mapping json = some status →
    status.uiState mapping = .connected ∨ status.statusLabel mapping = ascii "Protected" →
      ReportsReady json ∨ ReportsHealthy mapping json
  notAlone : MerelyAlive mapping json → ∀ status, fromJson mapping json = some status →
    status.statusLabel mapping ≠ ascii "Protected"
  alike : ∀ status, fromJson mapping json = some status →
    status.statusLabel mapping = (status.uiState mapping).label

/-- A backend that is merely alive comes with a status text of its own that does not tell of a
missing connection. -/
structure Overrated (mapping : CaseMapping) (json : JsonMap) : Prop where
  merelyAlive : MerelyAlive mapping json
  text : ∃ text, (field json "status").asString = some text ∧ ¬ Unconnected mapping text
  decoded : latency json ≠ .num (.double .infinite)

/-- Just the payloads of such a backend are shown as connected without a report. -/
theorem connected_unreported (hready : ¬ ReportsReady json)
    (hhealthy : ¬ ReportsHealthy mapping json) (hstatus : fromJson mapping json = some status) :
    status.uiState mapping = .connected ↔ Overrated mapping json := by
  obtain ⟨hunready, hunhealthy, halive, htext⟩ := fromJson_unready hready hhealthy hstatus
  rw [uiState_eq_connected, hunready, hunhealthy]
  simp only [Bool.false_eq_true, false_or]
  constructor
  · rintro ⟨hconnected, hup⟩
    refine ⟨⟨reportsAlive_iff.mpr (halive ▸ hup), hready, hhealthy⟩, ?_,
      fromJson_isSome.mp ⟨status, hstatus⟩⟩
    cases hown : (field json "status").asString with
    | none =>
        -- The default of a backend that is alive is that it is disconnected.
        rw [htext, hown, hup, Option.getD_none, if_pos rfl] at hconnected
        exact absurd unconnected_disconnected hconnected
    | some text =>
        rw [htext, hown, Option.getD_some] at hconnected
        exact ⟨text, rfl, hconnected⟩
  · rintro ⟨hmerely, ⟨text, hown, hconnected⟩, -⟩
    rw [htext, hown, Option.getD_some]
    exact ⟨hconnected, halive.trans (reportsAlive_iff.mp hmerely.alive)⟩

theorem earned (hfair : ¬ Overrated mapping json) (hstatus : fromJson mapping json = some status)
    (hconnected : status.uiState mapping = .connected) :
    ReportsReady json ∨ ReportsHealthy mapping json := by
  by_contra hreports
  obtain ⟨hready, hhealthy⟩ := not_or.mp hreports
  exact hfair ((connected_unreported hready hhealthy hstatus).mp hconnected)

theorem truthful_iff (mapping : CaseMapping) (json : JsonMap) :
    Truthful mapping json ↔ ¬ Overrated mapping json := by
  constructor
  · intro htruthful hoverrated
    obtain ⟨status, hstatus⟩ := fromJson_isSome.mpr hoverrated.decoded
    have hmerely := hoverrated.merelyAlive
    have hconnected := (connected_unreported hmerely.unready hmerely.unhealthy hstatus).mpr
      hoverrated
    exact htruthful.notAlone hmerely status hstatus (statusLabel_eq_protected.mpr hconnected)
  · intro hfair
    refine ⟨?_, ?_, fun status _ => statusLabel_eq_label mapping status⟩
    · intro status hstatus hshown
      exact earned hfair hstatus (hshown.elim id statusLabel_eq_protected.mp)
    · intro hmerely status hstatus hlabel
      have hreports := earned hfair hstatus (statusLabel_eq_protected.mp hlabel)
      exact hreports.elim hmerely.unready hmerely.unhealthy

/-- A backend that is alive and tells of an error is shown as protected. -/
theorem not_truthful_error : ¬ Truthful .asciiOnly
    [(ascii "alive", .bool true), (ascii "status", .str (ascii "error"))] := by
  intro htruthful
  refine htruthful.notAlone ⟨rfl, ?_, ?_⟩ _ rfl (by decide)
  · rw [reportsReady_iff]
    decide
  · rw [reportsHealthy_iff]
    decide

end BackendConnectionStatus

/-! ## What is fetched -/

namespace RealLayerBackendBridge

open BackendConnectionStatus

variable {jsonDecode : Text → Option JsonValue} {get : Text → Option Text}

/-- A payload that an endpoint serves. -/
def Serves (jsonDecode : Text → Option JsonValue) (get : Text → Option Text) (endpoint : Text)
    (json : JsonMap) : Prop :=
  (get endpoint).bind (decodePayload jsonDecode) = some json

/-- The first endpoint decides where its status tells something. -/
theorem fetchFrom_first {endpoint : Text} {rest : List Text} {json : JsonMap}
    {status : BackendConnectionStatus} (hserves : Serves jsonDecode get endpoint json)
    (hstatus : fromJson mapping json = some status)
    (htells : status.alive = true ∨ status.health ≠ ascii "unavailable") :
    fetchFrom mapping jsonDecode get (endpoint :: rest) = status := by
  unfold Serves at hserves
  have hreturns :
      (status.alive || status.ready || status.health != ascii "unavailable") = true := by
    rcases htells with halive | hhealth
    · simp [halive]
    · simp [hhealth]
  simp only [fetchFrom, hserves, Option.bind_some, hstatus, hreturns, if_true]

end RealLayerBackendBridge

end App
