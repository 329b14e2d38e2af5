import GhostLayer.App.Backends
import GhostLayer.Network.Reference
import GhostLayer.Relay.HealthServer

/-! # The answers of a relay in the app

The app asks a relay over HTTP and decodes the body of the answer, whatever the
status of the answer is. The decoder is the one of its language; it is only asked
to read objects of flags and plain texts, since that is what a relay answers with.
-/

namespace App

open Foundation Relay RealLayerBackendBridge

variable {jsonDecode : Text → Option JsonValue} {get : Text → Option Text} {resolvedBaseUrl : Text}

/-! ## Bodies -/

/-- The text of a body. A relay answers in ASCII. -/
def textOf (bytes : Bytes) : Text := bytes.map UInt8.toUInt16

def plain (text : String) : Bool := text.toList.all fun character => character.toNat < 0x80

def scalarOf : Json → Option JsonValue
  | .bool value => some (.bool value)
  | .str text => if plain text then some (.str (ascii text)) else none
  | .null | .num _ | .other | .arr _ | .obj _ => none

/-- An entry with a flag or a plain text, as the app has it. -/
def entryOf (field : String × Json) : Option (Text × JsonValue) :=
  if plain field.1 then (scalarOf field.2).map fun value => (ascii field.1, value) else none

/-- The decoder reads the objects that have such entries only. -/
def ReadsObjects (jsonDecode : Text → Option JsonValue) : Prop :=
  ∀ fields entries, fields.mapM entryOf = some entries →
    jsonDecode (textOf (Json.obj fields).render) = some (.map entries)

/-! ## Answers -/

/-- What a relay tells the paths of its health endpoint. -/
def signalsOf (service : Service) : HealthSignals :=
  ⟨service.signals.ready, service.signals.healthy⟩

/-- The app gets the body of an answer for each path. -/
def Fetches (get : Text → Option Text) (resolvedBaseUrl : Text) (signals : Relay.HealthSignals) :
    Prop :=
  ∀ path ∈ ["/health", "/ready", "/live"], ∃ request bytes message,
    HealthServer.path (HealthServer.bytesRead (some request)) = path ∧
    HealthServer.answer signals (some request) = some bytes ∧
    Http.read HealthServer.contentLength bytes = some (message, []) ∧
    get (resolvedBaseUrl ++ ascii path) = some (textOf message.body)

theorem body_of_answer {signals : Relay.HealthSignals} {request bytes : Bytes}
    {message : Http.Message}
    (hanswer : HealthServer.answer signals (some request) = some bytes)
    (hread : Http.read HealthServer.contentLength bytes = some (message, [])) :
    message.body = Bytes.ofText (HealthServer.statusAndBody signals
      (HealthServer.path (HealthServer.bytesRead (some request)))).2 := by
  have hsome : HealthServer.bytesRead (some request) ≠ [] := by
    intro hnothing
    rw [HealthServer.answer_nothing hnothing] at hanswer
    cases hanswer
  rw [HealthServer.answer_something hsome] at hanswer
  obtain rfl := Option.some.inj hanswer
  rw [← List.append_nil (HealthServer.httpResponse _ _), HealthServer.read_httpResponse] at hread
  obtain ⟨rfl, -⟩ := Prod.mk.inj (Option.some.inj hread)
  rfl

theorem decodePayload_obj (hreads : ReadsObjects jsonDecode) {fields : List (String × Json)}
    {entries : JsonMap} (hentries : fields.mapM entryOf = some entries)
    (htrim : trim (textOf (Json.obj fields).render) = textOf (Json.obj fields).render) :
    decodePayload jsonDecode (textOf (Json.obj fields).render) = some entries := by
  have hnonempty : textOf (Json.obj fields).render ≠ [] := by
    rcases fields with _ | ⟨⟨name, value⟩, rest⟩ <;> simp [textOf, Json.render]
  simp only [decodePayload, htrim, if_neg hnonempty, hreads fields entries hentries]

/-- What the app decodes from the body for a path. -/
theorem decodePayload_told {service : Service} {path : String} (hreads : ReadsObjects jsonDecode)
    (hsignals : service.Signals) (hpath : path ∈ ["/health", "/ready", "/live"]) :
    decodePayload jsonDecode (textOf (HealthServer.told service path).render) =
      some ((signalsOf service).body path) := by
  have hready : decide (service.node.core.lifecycle = .ready) = service.signals.ready :=
    Bool.eq_iff_iff.mpr (decide_eq_true_iff.trans hsignals.ready.symm)
  simp only [List.mem_cons, List.not_mem_nil, or_false] at hpath
  rcases hpath with rfl | rfl | rfl
  · show decodePayload jsonDecode (textOf (Json.obj [("health", .str
      (if service.signals.healthy then "healthy" else "unhealthy"))]).render) = _
    cases hhealthy : service.signals.healthy <;>
      exact decodePayload_obj hreads (by simp only [signalsOf, hhealthy]; rfl) (by decide +kernel)
  · show decodePayload jsonDecode (textOf (Json.obj [("ready", .bool
      (decide (service.node.core.lifecycle = .ready)))]).render) = _
    rw [hready]
    cases hup : service.signals.ready <;>
      exact decodePayload_obj hreads (by simp only [signalsOf, hup]; rfl) (by decide +kernel)
  · exact decodePayload_obj hreads rfl (by decide +kernel)

/-- A relay that answers the app serves its endpoints with what it signals. -/
theorem answered_of_fetches {ext : Network.Externals} {setup : Relay.Setup ext} {service : Service}
    (hreach : (Service.run ext setup).Reachable service) (hreads : ReadsObjects jsonDecode)
    (hfetches : Fetches get resolvedBaseUrl service.signals) :
    HealthSignals.Answered jsonDecode get resolvedBaseUrl (signalsOf service) := by
  have hsignals := Service.signals_of_reachable hreach
  intro path hpath
  obtain ⟨request, bytes, message, hasked, hanswer, hread, hget⟩ := hfetches path hpath
  have htells := (HealthServer.statusAndBody_tells hsignals path).body
  rw [Serves, hget, Option.bind_some, body_of_answer hanswer hread, hasked, htells]
  exact decodePayload_told hreads hsignals hpath

/-! ## A relay and an app -/

/-- The decoder of what was printed. -/
noncomputable def referenceDecode (text : Text) : Option JsonValue :=
  (Network.invert (textOf ∘ Json.render) text).bind fun
    | .obj fields => (fields.mapM entryOf).map .map
    | _ => none

theorem textOf_injective : Function.Injective textOf :=
  List.map_injective_iff.mpr fun first second hsame => by
    have hvalue := congrArg UInt16.toNat hsame
    rwa [UInt8.toNat_toUInt16, UInt8.toNat_toUInt16, UInt8.toNat_inj] at hvalue

theorem referenceDecode_reads : ReadsObjects referenceDecode := by
  intro fields entries hentries
  have hprinted : Network.invert (textOf ∘ Json.render) (textOf (Json.obj fields).render) =
      some (.obj fields) :=
    Network.invert_apply (textOf_injective.comp Json.render_injective) _
  rw [referenceDecode, hprinted]
  exact congrArg (Option.map JsonValue.map) hentries

def requestFor (path : String) : Bytes := HealthServer.probe "GET" path "HTTP/1.1\r\n\r\n"

/-- The body that a relay answers a request with. -/
def pageOf (signals : Relay.HealthSignals) (path : String) : Text :=
  ((HealthServer.answer signals (some (requestFor path))).bind
    (Http.read HealthServer.contentLength)).elim [] fun read => textOf read.1.body

theorem fetches_pages {signals : Relay.HealthSignals}
    (hget : ∀ path ∈ ["/health", "/ready", "/live"],
      get (resolvedBaseUrl ++ ascii path) = some (pageOf signals path)) :
    Fetches get resolvedBaseUrl signals := by
  intro path hpath
  obtain ⟨hword, hwhole, hsome⟩ : HealthServer.Word path ∧
      HealthServer.bytesRead (some (requestFor path)) = requestFor path ∧
      HealthServer.bytesRead (some (requestFor path)) ≠ [] := by
    simp only [List.mem_cons, List.not_mem_nil, or_false] at hpath
    rcases hpath with rfl | rfl | rfl <;>
      exact ⟨⟨by simp, by simp [Network.isWhiteSpace]⟩, rfl, by decide⟩
  have hread := HealthServer.read_httpResponse
    (HealthServer.statusAndBody signals
      (HealthServer.path (HealthServer.bytesRead (some (requestFor path))))).1
    (HealthServer.statusAndBody signals
      (HealthServer.path (HealthServer.bytesRead (some (requestFor path))))).2 []
  rw [List.append_nil] at hread
  refine ⟨requestFor path, _, _, ?_, HealthServer.answer_something hsome, hread, ?_⟩
  · rw [hwhole]
    exact HealthServer.path_probe ⟨by simp, by simp [Network.isWhiteSpace]⟩ hword _
  · rw [hget path hpath, pageOf, HealthServer.answer_something hsome, Option.bind_some, hread,
      Option.elim_some]

end App
