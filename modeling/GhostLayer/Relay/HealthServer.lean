import GhostLayer.Foundation.Http
import GhostLayer.Foundation.Utf8
import GhostLayer.Relay.Service

/-! # The health endpoint of a relay

What one read of the connection takes is the request, and its second word is the path.
The answer is a whole message: its headers tell a reader where it ends, and its status
and its body tell the same of the relay.
-/

namespace Relay

open Foundation Network

namespace HealthServer

/-! ## Requests -/

def splitWhitespace (text : String) : List String :=
  ((text.toList.splitOnP isWhiteSpace).filter (· ≠ [])).map String.ofList

/-- What a read brings into the buffer, which is nothing when it fails. -/
def bytesRead (readRes : Option Bytes) : Bytes := (readRes.getD []).take 512

def path (request : Bytes) : String :=
  ((splitWhitespace (Utf8.fromUtf8Lossy request))[1]?).getD "/"

/-- A text that stands between blanks. -/
def Word (text : String) : Prop :=
  text.toList ≠ [] ∧ ∀ character ∈ text.toList, isWhiteSpace character = false

/-- The request of a client for a path, whatever headers it has. -/
def probe (method target rest : String) : Bytes :=
  Bytes.ofText (method ++ " " ++ target ++ " " ++ rest)

theorem path_probe {method target : String} (hmethod : Word method) (htarget : Word target)
    (rest : String) : path (probe method target rest) = target := by
  have hwords : (method ++ " " ++ target ++ " " ++ rest).toList =
      method.toList ++ ' ' :: (target.toList ++ ' ' :: rest.toList) := by
    simp
  have hsplit : (method ++ " " ++ target ++ " " ++ rest).toList.splitOnP isWhiteSpace =
      method.toList :: target.toList :: rest.toList.splitOnP isWhiteSpace := by
    rw [hwords, List.splitOnP_append_cons_of_forall_mem hmethod.2 ' ' rfl,
      List.splitOnP_append_cons_of_forall_mem htarget.2 ' ' rfl]
  have hkept : (method.toList :: target.toList :: rest.toList.splitOnP isWhiteSpace).filter
      (· ≠ []) = method.toList :: target.toList ::
        (rest.toList.splitOnP isWhiteSpace).filter (· ≠ []) := by
    simp only [List.filter_cons, hmethod.1, htarget.1, ne_eq, not_false_eq_true, decide_true,
      if_true]
  rw [path, probe, Utf8.fromUtf8Lossy_ofText, splitWhitespace, hsplit, hkept]
  exact String.ofList_toList

/-! ## Answers -/

def statusText : Nat → String
  | 200 => "OK"
  | 404 => "Not Found"
  | 503 => "Service Unavailable"
  | _ => "OK"

def httpResponse (statusCode : Nat) (body : String) : Bytes :=
  let bodyBytes := Bytes.ofText body
  Bytes.ofText "HTTP/1.1 " ++ Json.renderNat statusCode ++ Bytes.ofText " " ++
    Bytes.ofText (statusText statusCode) ++ Bytes.ofText "\r\n" ++
    Bytes.ofText "Content-Type: application/json\r\n" ++
    Bytes.ofText "Content-Length: " ++ Json.renderNat bodyBytes.length ++ Bytes.ofText "\r\n" ++
    Bytes.ofText "Connection: close\r\n\r\n" ++ bodyBytes

/-- The text of an object, its fields between braces. -/
def braced (fields : String) : String := String.singleton '{' ++ fields ++ String.singleton '}'

def statusAndBody (signals : HealthSignals) : String → Nat × String
  | "/live" => (200, braced "\"alive\":true")
  | "/ready" =>
      if signals.ready then (200, braced "\"ready\":true") else (503, braced "\"ready\":false")
  | "/health" =>
      if signals.healthy then (200, braced "\"health\":\"healthy\"")
      else (503, braced "\"health\":\"unhealthy\"")
  | _ => (404, braced "\"error\":\"not_found\"")

/-- The answer on a connection, which is none when nothing was read. -/
def answer (signals : HealthSignals) (readRes : Option Bytes) : Option Bytes :=
  let request := bytesRead readRes
  if request = [] then none
  else
    let (status, body) := statusAndBody signals (path request)
    some (httpResponse status body)

theorem answer_nothing {signals : HealthSignals} {readRes : Option Bytes}
    (hnothing : bytesRead readRes = []) : answer signals readRes = none := by
  rw [answer, if_pos hnothing]

theorem answer_something {signals : HealthSignals} {readRes : Option Bytes}
    (hsome : bytesRead readRes ≠ []) : answer signals readRes =
      some (httpResponse (statusAndBody signals (path (bytesRead readRes))).1
        (statusAndBody signals (path (bytesRead readRes))).2) := by
  rw [answer, if_neg hsome]

/-! ## What a client reads -/

def contentLength : Bytes := Bytes.ofText "Content-Length: "

/-- The message of an answer. -/
def message (statusCode : Nat) (body : String) : Http.Message where
  firstLine := Bytes.ofText "HTTP/1.1 " ++ (Json.renderNat statusCode ++ (Bytes.ofText " " ++
    Bytes.ofText (statusText statusCode)))
  headers := [Bytes.ofText "Content-Type: application/json",
    contentLength ++ Json.renderNat (Bytes.ofText body).length, Bytes.ofText "Connection: close"]
  body := Bytes.ofText body

theorem httpResponse_eq (statusCode : Nat) (body : String) :
    httpResponse statusCode body = (message statusCode body).render := by
  have htype : Bytes.ofText "Content-Type: application/json\r\n" =
      Bytes.ofText "Content-Type: application/json" ++ Http.lineBreak := rfl
  have hclose : Bytes.ofText "Connection: close\r\n\r\n" =
      Bytes.ofText "Connection: close" ++ (Http.lineBreak ++ Http.lineBreak) := rfl
  have hbreak : Bytes.ofText "\r\n" = Http.lineBreak := rfl
  rw [httpResponse, htype, hclose, hbreak]
  simp only [Http.Message.render, message, contentLength, List.flatMap_cons, List.flatMap_nil,
    List.append_assoc, List.append_nil]

theorem renderNat_clean (value : Nat) : 13 ∉ Json.renderNat value := by
  intro hbreak
  have hdigit : 48 ≤ (13 : UInt8) := (Json.renderNat_digits value 13 hbreak).1
  exact absurd hdigit (by decide)

theorem statusText_clean (statusCode : Nat) : 13 ∉ Bytes.ofText (statusText statusCode) := by
  unfold statusText
  split <;> decide

theorem message_framed (statusCode : Nat) (body : String) :
    (message statusCode body).Framed contentLength where
  firstLine := by
    simp only [message, List.mem_append, not_or]
    exact ⟨by decide, renderNat_clean statusCode, by decide, statusText_clean statusCode⟩
  headers := by
    simp only [message, List.forall_mem_cons]
    refine ⟨⟨by decide, by decide⟩, ⟨?_, ?_⟩, ⟨by decide, by decide⟩, fun _ hnone => ?_⟩
    · rw [List.mem_append, not_or]
      exact ⟨by decide, renderNat_clean _⟩
    · exact List.append_ne_nil_of_left_ne_nil (by decide) _
    · cases hnone
  announced := by
    have htype : ¬ contentLength <+: Bytes.ofText "Content-Type: application/json" := by decide
    have hlength := List.prefix_append contentLength (Json.renderNat (Bytes.ofText body).length)
    simp only [Http.announced, message, List.findSome?_cons, if_neg htype, if_pos hlength,
      List.drop_left, Http.readNat_renderNat]

/-- What a client reads off an answer, whatever else it has read with it. -/
theorem read_httpResponse (statusCode : Nat) (body : String) (behind : Bytes) :
    Http.read contentLength (httpResponse statusCode body ++ behind) =
      some (message statusCode body, behind) := by
  rw [httpResponse_eq]
  exact (message_framed statusCode body).read_render behind

/-- The status in the first line of a message. -/
def statusOf (message : Http.Message) : Option Nat :=
  Http.readNat ((message.firstLine.drop 9).take 3)

/-- What a path asks of a relay. -/
def Holds (service : Service) (path : String) : Prop :=
  path = "/live" ∨ path = "/ready" ∧ service.node.core.lifecycle = .ready ∨
    path = "/health" ∧ service.signals.healthy = true

/-- What the body tells of a relay. -/
def told (service : Service) (path : String) : Json :=
  if path = "/live" then .obj [("alive", .bool true)]
  else if path = "/ready" then
    .obj [("ready", .bool (decide (service.node.core.lifecycle = .ready)))]
  else if path = "/health" then
    .obj [("health", .str (if service.signals.healthy then "healthy" else "unhealthy"))]
  else .obj [("error", .str "not_found")]

variable {ext : Externals} {setup : Setup ext} {service : Service}

theorem statusAndBody_other {signals : HealthSignals} {path : String}
    (hother : path ∉ ["/live", "/ready", "/health"]) :
    statusAndBody signals path = (404, braced "\"error\":\"not_found\"") := by
  simp only [List.mem_cons, List.not_mem_nil, or_false, not_or] at hother
  obtain ⟨hlive, hready, hhealth⟩ := hother
  unfold statusAndBody
  split
  · exact absurd rfl hlive
  · exact absurd rfl hready
  · exact absurd rfl hhealth
  · rfl

/-- The status of an answer and its body tell the same. -/
structure Tells (service : Service) (path : String) (statusCode : Nat) (body : String) : Prop where
  ok : statusCode = 200 ↔ Holds service path
  notFound : statusCode = 404 ↔ path ∉ ["/live", "/ready", "/health"]
  known : statusCode = 200 ∨ statusCode = 404 ∨ statusCode = 503
  body : Bytes.ofText body = Json.render (told service path)

/-- A signal decides between two answers. -/
theorem Tells.of_signal {path : String} {shown : Bool} {up down : String}
    (hpath : path ∈ ["/live", "/ready", "/health"]) (hholds : shown = true ↔ Holds service path)
    (hbody : Bytes.ofText (if shown then up else down) = Json.render (told service path)) :
    Tells service path (if shown then (200, up) else (503, down)).1
      (if shown then (200, up) else (503, down)).2 := by
  cases shown with
  | true =>
      simp only [if_true] at hbody ⊢
      exact ⟨iff_of_true rfl (hholds.mp rfl), iff_of_false (by decide) (not_not.mpr hpath),
        .inl rfl, hbody⟩
  | false =>
      simp only [Bool.false_eq_true, if_false] at hbody ⊢
      exact ⟨iff_of_false (by decide) (mt hholds.mpr Bool.false_ne_true),
        iff_of_false (by decide) (not_not.mpr hpath), .inr (.inr rfl), hbody⟩

theorem statusAndBody_tells (hsignals : service.Signals) (path : String) :
    Tells service path (statusAndBody service.signals path).1
      (statusAndBody service.signals path).2 := by
  by_cases hother : path ∉ ["/live", "/ready", "/health"]
  · rw [statusAndBody_other hother]
    have hunknown := hother
    simp only [List.mem_cons, List.not_mem_nil, or_false, not_or] at hunknown
    obtain ⟨hlive, hready, hhealth⟩ := hunknown
    refine ⟨iff_of_false (by decide) ?_, iff_of_true rfl hother, .inr (.inl rfl), ?_⟩
    · simp [Holds, hlive, hready, hhealth]
    · rw [told, if_neg hlive, if_neg hready, if_neg hhealth]
      rfl
  have hknown := not_not.mp hother
  simp only [List.mem_cons, List.not_mem_nil, or_false, not_not] at hother
  rcases hother with rfl | rfl | rfl
  · have hanswer : statusAndBody service.signals "/live" =
        (200, braced "\"alive\":true") := rfl
    rw [hanswer]
    exact ⟨iff_of_true rfl (.inl rfl), iff_of_false (by decide) (not_not.mpr hknown), .inl rfl, rfl⟩
  · have hanswer : statusAndBody service.signals "/ready" = if service.signals.ready
        then (200, braced "\"ready\":true") else (503, braced "\"ready\":false") := rfl
    have hsignal : decide (service.node.core.lifecycle = .ready) = service.signals.ready :=
      Bool.eq_iff_iff.mpr (decide_eq_true_iff.trans hsignals.ready.symm)
    rw [hanswer]
    refine .of_signal hknown (by simp [Holds, hsignals.ready]) ?_
    simp only [told, hsignal]
    cases service.signals.ready <;> rfl
  · have hanswer : statusAndBody service.signals "/health" = if service.signals.healthy
        then (200, braced "\"health\":\"healthy\"")
        else (503, braced "\"health\":\"unhealthy\"") := rfl
    rw [hanswer]
    refine .of_signal hknown (by simp [Holds]) ?_
    simp only [told]
    cases service.signals.healthy <;> rfl

theorem statusOf_message {statusCode : Nat}
    (hknown : statusCode = 200 ∨ statusCode = 404 ∨ statusCode = 503) (body : String) :
    statusOf (message statusCode body) = some statusCode := by
  have hversion : (Bytes.ofText "HTTP/1.1 ").length = 9 := rfl
  have hdigits : (Json.renderNat statusCode).length = 3 := by
    rcases hknown with rfl | rfl | rfl <;> simp [Json.renderNat]
  rw [statusOf, message, List.drop_left' hversion, List.take_left' hdigits,
    Http.readNat_renderNat]

/-- A relay answers every request that it can read, and what a client reads is the whole answer
and nothing behind it. The status is that of the path: a relay is ready exactly while it takes part,
and one that is healthy is online or degraded. -/
theorem health_answers (hreach : (Service.run ext setup).Reachable service)
    (readRes : Option Bytes) :
    (answer service.signals readRes = none ↔ bytesRead readRes = []) ∧
    (service.signals.healthy = true →
      service.node.state.status = .online ∨ service.node.state.status = .degraded) ∧
    ∀ bytes, answer service.signals readRes = some bytes → ∃ message,
      (∀ behind, Http.read contentLength (bytes ++ behind) = some (message, behind)) ∧
      (statusOf message = some 200 ↔ Holds service (path (bytesRead readRes))) ∧
      (statusOf message = some 404 ↔
        path (bytesRead readRes) ∉ ["/live", "/ready", "/health"]) ∧
      (statusOf message = some 200 ∨ statusOf message = some 404 ∨ statusOf message = some 503) ∧
      message.body = Json.render (told service (path (bytesRead readRes))) := by
  have hsignals := Service.signals_of_reachable hreach
  refine ⟨⟨fun hnone => ?_, answer_nothing⟩, hsignals.healthy, fun bytes hanswer => ?_⟩
  · by_contra hsome
    rw [answer_something hsome] at hnone
    cases hnone
  · have hsome : bytesRead readRes ≠ [] := by
      intro hnothing
      rw [answer_nothing hnothing] at hanswer
      cases hanswer
    rw [answer_something hsome] at hanswer
    obtain rfl := Option.some.inj hanswer
    obtain ⟨hok, hnotFound, hknown, hbody⟩ :=
      statusAndBody_tells hsignals (path (bytesRead readRes))
    refine ⟨_, read_httpResponse _ _, ?_⟩
    rw [statusOf_message hknown]
    simp only [Option.some_inj]
    exact ⟨hok, hnotFound, hknown, hbody⟩

section Probes

open ReferenceRelay

/-- A relay that listens tells a probe that it is ready. -/
theorem health_answers_ready : ∃ service bytes message,
    (Service.run reference (ReferenceRelay.setup .exit (bounds 8 8 8))).Reachable service ∧
      answer service.signals (some (probe "GET" "/ready" "HTTP/1.1\r\n\r\n")) = some bytes ∧
      Http.read contentLength bytes = some (message, []) ∧ statusOf message = some 200 := by
  have hstarted : (Service.run reference (ReferenceRelay.setup .exit (bounds 8 8 8))).Reachable
      ⟨started .exit (bounds 8 8 8), .new⟩ := .of_init ⟨isStarted _ _, rfl⟩
  have hready : (Service.run reference (ReferenceRelay.setup .exit (bounds 8 8 8))).Reachable
      ⟨ready .exit (bounds 8 8 8), ⟨true, true, true⟩⟩ := hstarted.tail
    ⟨ReferenceRelay.inputs 0, .network (.listening ""), Service.handle_eq_ok.mpr ⟨rfl, rfl⟩⟩
  have hread : bytesRead (some (probe "GET" "/ready" "HTTP/1.1\r\n\r\n")) =
      probe "GET" "/ready" "HTTP/1.1\r\n\r\n" := rfl
  have hpath : path (bytesRead (some (probe "GET" "/ready" "HTTP/1.1\r\n\r\n"))) = "/ready" := by
    rw [hread]
    exact path_probe ⟨by simp, by simp [isWhiteSpace]⟩ ⟨by simp, by simp [isWhiteSpace]⟩ _
  obtain ⟨hanswers, -, htells⟩ := health_answers hready
    (some (probe "GET" "/ready" "HTTP/1.1\r\n\r\n"))
  obtain ⟨bytes, hbytes⟩ := Option.ne_none_iff_exists'.mp (mt hanswers.mp (by decide))
  obtain ⟨message, hmessage, hok, -⟩ := htells bytes hbytes
  refine ⟨_, bytes, message, hready, hbytes, ?_, hok.mpr ?_⟩
  · rw [← hmessage [], List.append_nil]
  · rw [hpath]
    exact .inr (.inl ⟨rfl, rfl⟩)

end Probes

end HealthServer

end Relay
