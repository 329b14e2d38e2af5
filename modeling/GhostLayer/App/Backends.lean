import GhostLayer.App.StatusLaws
import GhostLayer.Foundation.Transition

/-! # The backends that the app asks

A client serves one record of its state under every path, a relay answers each
path from a signal of its own. Of both the app shows what they are, since they
never call themselves anything else while they are only alive.
-/

namespace App

open Foundation BackendConnectionStatus RealLayerBackendBridge

variable {mapping : CaseMapping} {jsonDecode : Text → Option JsonValue}
  {get : Text → Option Text} {resolvedBaseUrl : Text}

/-! ## Clients -/

/-- The state that a client serves. -/
structure ClientState where
  alive : Bool
  ready : Bool
  health : Text
  status : Text
  route : Text

namespace ClientState

def default : ClientState where
  alive := true
  ready := false
  health := ascii "unhealthy"
  status := ascii "disconnected"
  route := ascii "none"

/-- A channel was opened to the first relay of a route. -/
def opened (state : ClientState) (route : Text) : ClientState :=
  { state with
    ready := true
    health := ascii "healthy"
    status := ascii "online"
    route }

/-- The first relay of the route disconnected. -/
def lost (state : ClientState) : ClientState :=
  { state with
    ready := false
    health := ascii "unhealthy"
    status := ascii "disconnected"
    route := ascii "none" }

def toJson (state : ClientState) : JsonMap := [
  (ascii "alive", .bool state.alive),
  (ascii "ready", .bool state.ready),
  (ascii "health", .str state.health),
  (ascii "status", .str state.status),
  (ascii "route", .str state.route)]

/-- The engine of the client. -/
def engine : System ClientState where
  init state := state = default
  step state next := (∃ route, next = state.opened route) ∨ next = state.lost

/-- A client is as at the start, or it is connected over a route. -/
theorem shapes {state : ClientState} (hreach : engine.Reachable state) :
    state = default ∨ ∃ route, state = default.opened route := by
  refine System.Reachable.invariant
    (fun state => state = default ∨ ∃ route, state = default.opened route) ?_ ?_ hreach
  · intro state hinit
    exact .inl hinit
  · intro state next _ hshape hstep
    have halive : state.alive = true := by
      rcases hshape with rfl | ⟨_, rfl⟩ <;> rfl
    rcases hstep with ⟨route, rfl⟩ | rfl
    · exact .inr ⟨route, by rw [opened, halive]; rfl⟩
    · exact .inl (by rw [lost, halive]; rfl)

/-- What is fetched from a client that says how it is. -/
theorem fetched {state : ClientState} (hhealth : state.health ≠ ascii "unavailable")
    (hserves : ∀ endpoint ∈ endpoints resolvedBaseUrl,
      Serves jsonDecode get endpoint state.toJson) :
    fromJson mapping state.toJson = some (fetchStatus mapping jsonDecode resolvedBaseUrl get) ∧
      (fetchStatus mapping jsonDecode resolvedBaseUrl get).ready = state.ready ∧
      (fetchStatus mapping jsonDecode resolvedBaseUrl get).status = state.status := by
  have hlatency : latency state.toJson ≠ .num (.double .infinite) := by
    rw [show latency state.toJson = .num (.int 0) from rfl]
    simp
  have hdecoded : ∃ status, fromJson mapping state.toJson = some status :=
    fromJson_isSome.mpr hlatency
  obtain ⟨status, hstatus⟩ := hdecoded
  obtain ⟨hready, hown, htext⟩ := fromJson_fields hstatus
  have htells : status.health ≠ ascii "unavailable" := by
    rw [hown state.health rfl]
    exact hhealth
  have hfirst : fetchStatus mapping jsonDecode resolvedBaseUrl get = status :=
    fetchFrom_first (hserves _ List.mem_cons_self) hstatus (.inr htells)
  rw [hfirst]
  exact ⟨hstatus, hready, htext state.status rfl⟩

theorem not_unconnected_online : ¬ Unconnected mapping (ascii "online") := by
  rw [unconnected_of_ascii (by decide)]
  decide

/-- A client is shown as connected while it has a channel, and only then. -/
theorem shown_iff {state : ClientState} (hreach : engine.Reachable state)
    (hserves : ∀ endpoint ∈ endpoints resolvedBaseUrl,
      Serves jsonDecode get endpoint state.toJson) :
    (fetchStatus mapping jsonDecode resolvedBaseUrl get).uiState mapping = .connected ↔
      state.ready = true := by
  rw [uiState_eq_connected]
  rcases shapes hreach with rfl | ⟨route, rfl⟩
  · obtain ⟨-, hready, htext⟩ := fetched (by decide) hserves
    -- A client that waits for a channel says that it is disconnected.
    have hunconnected : Unconnected mapping
        (fetchStatus mapping jsonDecode resolvedBaseUrl get).status := by
      rw [htext]
      exact unconnected_disconnected
    exact iff_of_false (fun hshown => hshown.1 hunconnected) Bool.false_ne_true
  · have hhealth : ascii "healthy" ≠ ascii "unavailable" := by decide
    obtain ⟨-, hready, htext⟩ := fetched hhealth hserves
    refine iff_of_true ⟨?_, .inl hready⟩ rfl
    rw [htext]
    exact not_unconnected_online

end ClientState

/-! ## Relays -/

/-- The signals of a relay. -/
structure HealthSignals where
  ready : Bool
  healthy : Bool

namespace HealthSignals

/-- The body of the answer for a path. -/
def body (signals : HealthSignals) : String → JsonMap
  | "/live" => [(ascii "alive", .bool true)]
  | "/ready" => [(ascii "ready", .bool signals.ready)]
  | "/health" =>
      [(ascii "health", .str (if signals.healthy then ascii "healthy" else ascii "unhealthy"))]
  | _ => [(ascii "error", .str (ascii "not_found"))]

theorem reportsHealthy_body {signals : HealthSignals} :
    ReportsHealthy mapping (signals.body "/health") ↔ signals.healthy = true := by
  have hfield : (field (signals.body "/health") "health").asString =
      some (if signals.healthy then ascii "healthy" else ascii "unhealthy") := rfl
  rw [reportsHealthy_iff, hfield, Option.map_some, Option.getD_some]
  cases signals.healthy with
  | false =>
      rw [mapping.onAscii _ (by decide)]
      decide
  | true =>
      rw [mapping.onAscii _ (by decide)]
      decide

theorem not_unconnected_connected : ¬ Unconnected mapping (ascii "connected") := by
  rw [unconnected_of_ascii (by decide)]
  decide

/-- The status that the app makes of the health of a relay. -/
theorem decoded_body {signals : HealthSignals} {status : BackendConnectionStatus}
    (hstatus : fromJson mapping (signals.body "/health") = some status) :
    status.alive = signals.healthy ∧
      (status.uiState mapping = .connected ↔ signals.healthy = true) := by
  by_cases hhealthy : signals.healthy = true
  · obtain ⟨halive, hshown, htext⟩ := fromJson_healthy (reportsHealthy_body.mpr hhealthy) hstatus
    refine ⟨halive.trans hhealthy.symm, iff_of_true ?_ hhealthy⟩
    rw [uiState_eq_connected, htext]
    exact ⟨not_unconnected_connected, .inr (.inl hshown)⟩
  · have hunready : ¬ ReportsReady (signals.body "/health") := by
      rw [reportsReady_iff, show field (signals.body "/health") "ready" = .null from rfl]
      decide
    obtain ⟨hready, hshown, halive, -⟩ :=
      fromJson_unready hunready (mt reportsHealthy_body.mp hhealthy) hstatus
    have hoffline : status.alive = false := halive
    refine ⟨hoffline.trans (Bool.eq_false_iff.mpr hhealthy).symm, iff_of_false ?_ hhealthy⟩
    rw [uiState_eq_connected, hready, hshown, hoffline]
    simp

/-- The endpoints are served by a relay with these signals. -/
def Answered (jsonDecode : Text → Option JsonValue) (get : Text → Option Text)
    (resolvedBaseUrl : Text) (signals : HealthSignals) : Prop :=
  ∀ path ∈ ["/health", "/ready", "/live"],
    Serves jsonDecode get (resolvedBaseUrl ++ ascii path) (signals.body path)

/-- The first endpoint of a relay tells something, and nobody asks the others. -/
theorem fetched {signals : HealthSignals}
    (hanswered : Answered jsonDecode get resolvedBaseUrl signals) :
    fromJson mapping (signals.body "/health") =
      some (fetchStatus mapping jsonDecode resolvedBaseUrl get) := by
  have hserves := hanswered "/health" List.mem_cons_self
  have hlatency : latency (signals.body "/health") ≠ .num (.double .infinite) := by
    rw [show latency (signals.body "/health") = .num (.int 0) from rfl]
    simp
  have hdecoded : ∃ status, fromJson mapping (signals.body "/health") = some status :=
    fromJson_isSome.mpr hlatency
  obtain ⟨status, hstatus⟩ := hdecoded
  obtain ⟨-, hown, -⟩ := fromJson_fields hstatus
  have htells : status.health ≠ ascii "unavailable" := by
    rw [hown _ rfl]
    split_ifs <;> decide
  have hfirst : fetchStatus mapping jsonDecode resolvedBaseUrl get = status :=
    fetchFrom_first hserves hstatus (.inr htells)
  rw [hfirst, hstatus]

/-- A relay is shown as connected while it is healthy, and as offline while it is not. -/
theorem shown_iff {signals : HealthSignals}
    (hanswered : Answered jsonDecode get resolvedBaseUrl signals) :
    (fetchStatus mapping jsonDecode resolvedBaseUrl get).alive = signals.healthy ∧
      ((fetchStatus mapping jsonDecode resolvedBaseUrl get).uiState mapping = .connected ↔
        signals.healthy = true) :=
  decoded_body (fetched hanswered)

end HealthSignals

end App
