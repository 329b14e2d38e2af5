import GhostLayer.App.Dart

/-! # The bridge from the app to its backend

The app asks the backend for its status over HTTP. A payload is decoded with
defaults for what is missing, and the decoded status is shown as a state and as
a label, each by a chain of decisions of its own. What was fetched is given, and
so is the decoder of JSON texts.
-/

namespace App

inductive BackendRuntimeConnectionState where
  | disconnected
  | connecting
  | connected
  | disconnecting
  | error
  deriving DecidableEq

structure BackendConnectionStatus where
  alive : Bool
  ready : Bool
  health : Text
  latencyMs : Int64
  status : Text
  message : Option Text
  deriving DecidableEq

/-- The word is all of a text, or it is set off by a blank at one of the ends. -/
def names (normalizedStatus : Text) (word : String) : Bool :=
  normalizedStatus == ascii word || startsWith normalizedStatus (ascii (word ++ " ")) ||
    endsWith normalizedStatus (ascii (" " ++ word))

namespace BackendConnectionStatus

def empty : BackendConnectionStatus where
  alive := false
  ready := false
  health := ascii "unavailable"
  latencyMs := 0
  status := ascii "disconnected"
  message := none

section Decisions

variable (mapping : CaseMapping)

/-- The latency of a payload, under one of two names. -/
def latency (json : JsonMap) : JsonValue :=
  ((field json "latency_ms").orElse (field json "latencyMs")).orElse (.num (.int 0))

/-- The conversion of an infinite number throws. -/
def milliseconds : JsonValue → Option Int64
  | .num value => value.toInt
  | .str text => some ((tryParse text).getD 0)
  | _ => some 0

/-- Nothing where the conversion of the latency throws. -/
def fromJson (json : JsonMap) : Option BackendConnectionStatus := do
  let rawHealth := (field json "health").asString
  let rawStatus := (field json "status").asString
  let ready := (field json "ready").isTrue
  let healthValue := (rawHealth.map mapping.toLowerCase).getD []
  let healthy := healthValue == ascii "healthy" || ready
  let alive := (field json "alive").isTrue || ready || healthy
  let latencyMs ← milliseconds (latency json)
  return {
    alive
    ready
    health := rawHealth.getD (if ready || healthy then ascii "healthy" else ascii "unavailable")
    latencyMs
    status := rawStatus.getD
      (if ready || healthy then ascii "connected"
      else if alive then ascii "disconnected"
      else ascii "unavailable")
    message := (field json "message").asString }

variable (status : BackendConnectionStatus)

def healthy : Bool := mapping.toLowerCase status.health == ascii "healthy"

def normalizedStatus : Text := mapping.toLowerCase (trim status.status)

def uiState : BackendRuntimeConnectionState :=
  let normalizedStatus := status.normalizedStatus mapping
  if names normalizedStatus "disconnecting" then .disconnecting
  else if names normalizedStatus "disconnected" then .disconnected
  else if names normalizedStatus "connecting" then .connecting
  else if status.ready || status.healthy mapping || status.alive then .connected
  else if contains normalizedStatus (ascii "error") then .error
  else .disconnected

def statusLabel : Text :=
  let normalizedStatus := status.normalizedStatus mapping
  if names normalizedStatus "disconnecting" then ascii "Disconnecting"
  else if names normalizedStatus "disconnected" then ascii "Disconnected"
  else if names normalizedStatus "connecting" then ascii "Connecting"
  else if status.ready || status.healthy mapping || status.alive then ascii "Protected"
  else if contains normalizedStatus (ascii "error") then ascii "Error"
  else if !status.alive then ascii "Disconnected"
  else if status.status ≠ [] then status.status
  else ascii "Unavailable"

end Decisions

end BackendConnectionStatus

/-! ## Fetching -/

namespace RealLayerBackendBridge

open BackendConnectionStatus

variable (mapping : CaseMapping) (jsonDecode : Text → Option JsonValue)

def decodePayload (rawBody : Text) : Option JsonMap :=
  let trimmed := trim rawBody
  if trimmed = [] then none
  else match jsonDecode trimmed with
    | some (.map entries) => some entries
    | _ => none

def endpoints (resolvedBaseUrl : Text) : List Text :=
  ["/health", "/ready", "/live"].map (resolvedBaseUrl ++ ascii ·)

/-- The status of the first endpoint that tells something. A request that throws has no body. -/
def fetchFrom (get : Text → Option Text) : List Text → BackendConnectionStatus
  | [] => empty
  | endpoint :: rest =>
      let payload := (get endpoint).bind (decodePayload jsonDecode)
      match payload.bind (fromJson mapping) with
      | some status =>
          if status.alive || status.ready || status.health != ascii "unavailable" then status
          else fetchFrom get rest
      | none => fetchFrom get rest

def fetchStatus (resolvedBaseUrl : Text) (get : Text → Option Text) : BackendConnectionStatus :=
  fetchFrom mapping jsonDecode get (endpoints resolvedBaseUrl)

end RealLayerBackendBridge

end App
