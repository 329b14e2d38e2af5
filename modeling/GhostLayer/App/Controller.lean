import GhostLayer.App.Endpoints
import GhostLayer.Foundation.Interleaving

/-! # The screen of the app

The screen polls its backend and takes taps on its button. Each poll and each tap
is a method that is suspended while it waits for an answer, and any number of
them are under way at once: between two parts of one the others go on. The screen
may be left at any time; what comes back later finds it gone.
-/

namespace App

open Foundation RealLayerBackendBridge

/-- What is shown, and what the screen and its bridge remember. -/
structure Screen where
  status : BackendConnectionStatus
  connectionState : BackendRuntimeConnectionState
  userDisconnected : Bool
  mounted : Bool
  /-- The bridge is connecting. -/
  connecting : Bool

/-- What a method waits for. -/
inductive Task where
  | idle
  /-- The status of the backend. -/
  | refreshing
  /-- The animation of the button. -/
  | tapped
  /-- The tunnel of the platform, to be stopped and then to be started. -/
  | stopping
  | starting
  /-- The bridge. -/
  | disconnecting
  | connecting
  | concluding (result : Except Text BackendConnectionStatus)
  | done
  /-- The bridge has connected for a user who has disconnected since. -/
  | overtaken
  /-- The bridge threw when it was to disconnect. -/
  | thrown

/-- What a method goes on with. -/
inductive Resumption where
  | tick
  | tap
  | leave
  | fetched (updated : BackendConnectionStatus)
  | animated
  | answered
  | disconnected
  | attempted (attempt : Attempt)
  | threw (error : Text)
  | returned

namespace Screen

section Methods

variable (mapping : CaseMapping) (resolvedBaseUrl : Text)

def new : Screen := ⟨.empty, .disconnected, true, true, false⟩

/-- The rest of `_refreshBackendStatus`. -/
def refreshBackendStatus (updated : BackendConnectionStatus) (screen : Screen) : Screen :=
  if screen.mounted = false then screen
  else if screen.userDisconnected = true ∧ updated.uiState mapping = .connected then
    { screen with status := updated, connectionState := .disconnected }
  else { screen with status := updated, connectionState := updated.uiState mapping }

/-- `_onConnectTap` up to its first call of the platform. -/
def onConnectTap (screen : Screen) : Screen × Task :=
  if screen.connectionState = .connecting ∨ screen.connectionState = .disconnecting then
    (screen, .done)
  else if screen.connectionState = .connected then
    ({ screen with userDisconnected := true, connectionState := .disconnecting }, .stopping)
  else ({ screen with userDisconnected := false, connectionState := .connecting }, .starting)

/-- The text of an error of the bridge. -/
def errorText : ConnectError → Text
  | .alreadyInProgress => ascii "Bad state: connection already in progress"
  | .notReachable => ascii "Bad state: backend not reachable at " ++ resolvedBaseUrl
  | .timeout => ascii "Bad state: backend timeout while establishing a secure session"

def failed (error : Text) : BackendConnectionStatus where
  alive := false
  ready := false
  health := ascii "unavailable"
  latencyMs := 0
  status := ascii "error"
  message := some error

/-- `connect` of the bridge up to its first request. -/
def connect (screen : Screen) : Screen × Task :=
  if screen.connecting = true then
    (screen, .concluding (.error (errorText resolvedBaseUrl .alreadyInProgress)))
  else ({ screen with connecting := true }, .connecting)

/-- `_onConnectTap` after its call of `connect`. -/
def conclude (result : Except Text BackendConnectionStatus) (screen : Screen) : Screen × Task :=
  if screen.mounted = false then (screen, .done)
  else match result with
    | .ok status =>
        ({ screen with status, connectionState := status.uiState mapping },
          if screen.userDisconnected then .overtaken else .done)
    | .error error => ({ screen with status := failed error, connectionState := .error }, .done)

/-- A method goes on until it waits again. -/
def resume (screen : Screen) : Task → Resumption → Option (Screen × Task)
  | .idle, .tick => if screen.mounted then some (screen, .refreshing) else none
  | .idle, .tap => if screen.mounted then some (screen, .tapped) else none
  | .idle, .leave =>
      if screen.mounted then some ({ screen with mounted := false }, .done) else none
  | .refreshing, .fetched updated =>
      some (screen.refreshBackendStatus mapping updated, .done)
  -- The animation of a screen that was left does not end.
  | .tapped, .animated => if screen.mounted then some screen.onConnectTap else none
  | .stopping, .answered => some (screen, .disconnecting)
  | .disconnecting, .disconnected => some (screen, .refreshing)
  | .disconnecting, .threw _ =>
      some (if screen.mounted then { screen with connectionState := .error } else screen, .thrown)
  | .starting, .answered => some (screen.connect resolvedBaseUrl)
  | .connecting, .attempted attempt =>
      some ({ screen with connecting := false },
        .concluding ((RealLayerBackendBridge.connect mapping false attempt).mapError
          (errorText resolvedBaseUrl)))
  | .connecting, .threw error =>
      some ({ screen with connecting := false }, .concluding (.error error))
  | .concluding result, .returned => some (screen.conclude mapping result)
  | _, _ => none

/-- The statuses that a method goes on with. -/
def statuses : Resumption → List BackendConnectionStatus
  | .fetched updated => [updated]
  | .attempted attempt => attempt.statuses
  | _ => []

/-- The methods of a screen that is told such statuses. -/
def routine (told : BackendConnectionStatus → Prop) : Routine Screen Task :=
  .driven (fun task => task = .idle) (fun resumption => ∀ status ∈ statuses resumption, told status)
    fun resumption screen task => screen.resume mapping resolvedBaseUrl task resumption

def run (told : BackendConnectionStatus → Prop) : System (Interleaved Nat Screen Task) :=
  (routine mapping resolvedBaseUrl told).interleaved Nat fun screen => screen = new

end Methods

/-! ## What a method does -/

section Moves

variable {mapping : CaseMapping} {resolvedBaseUrl : Text} {told : BackendConnectionStatus → Prop}
  {screen screen' : Screen} {task task' : Task}

/-- A screen that connects or disconnects ignores its button. -/
def Busy (screen : Screen) : Prop :=
  screen.connectionState = .connecting ∨ screen.connectionState = .disconnecting

def showing (screen : Screen) (status : BackendConnectionStatus)
    (connectionState : BackendRuntimeConnectionState) : Screen :=
  { screen with status, connectionState }

/-- What is shown of a status that was fetched. -/
def shownState (mapping : CaseMapping) (screen : Screen) (updated : BackendConnectionStatus) :
    BackendRuntimeConnectionState :=
  if screen.userDisconnected = true ∧ updated.uiState mapping = .connected then .disconnected
  else updated.uiState mapping

/-- What a part of a method can do. -/
inductive Move (mapping : CaseMapping) (told : BackendConnectionStatus → Prop) (screen : Screen) :
    Task → Screen → Task → Prop
  | begins (task' : Task) (first : task' = .refreshing ∨ task' = .tapped) :
      Move mapping told screen .idle screen task'
  | leaves (mounted : screen.mounted = true) :
      Move mapping told screen .idle { screen with mounted := false } .done
  /-- The screen was left. -/
  | gone (task task' : Task) (left : screen.mounted = false)
      (ends : (task = .refreshing ∨ ∃ result, task = .concluding result) ∧ task' = .done ∨
        task = .disconnecting ∧ task' = .thrown) :
      Move mapping told screen task screen task'
  | refreshes (updated : BackendConnectionStatus) (mounted : screen.mounted = true)
      (fetched : told updated) :
      Move mapping told screen .refreshing
        (screen.showing updated (screen.shownState mapping updated)) .done
  | ignores (busy : screen.Busy) : Move mapping told screen .tapped screen .done
  | disconnects (mounted : screen.mounted = true)
      (connected : screen.connectionState = .connected) :
      Move mapping told screen .tapped
        { screen with userDisconnected := true, connectionState := .disconnecting } .stopping
  | connects (mounted : screen.mounted = true) (idle : ¬ screen.Busy)
      (unconnected : screen.connectionState ≠ .connected) :
      Move mapping told screen .tapped
        { screen with userDisconnected := false, connectionState := .connecting } .starting
  | stops : Move mapping told screen .stopping screen .disconnecting
  | disconnected : Move mapping told screen .disconnecting screen .refreshing
  | throws (mounted : screen.mounted = true) :
      Move mapping told screen .disconnecting { screen with connectionState := .error } .thrown
  | refused (error : Text) (busy : screen.connecting = true) :
      Move mapping told screen .starting screen (.concluding (.error error))
  | attempts (free : screen.connecting = false) :
      Move mapping told screen .starting { screen with connecting := true } .connecting
  | attempted (result : Except Text BackendConnectionStatus)
      (fetched : ∀ status, result = .ok status → told status) :
      Move mapping told screen .connecting { screen with connecting := false }
        (.concluding result)
  | concludes (status : BackendConnectionStatus) (mounted : screen.mounted = true) :
      Move mapping told screen (.concluding (.ok status))
        (screen.showing status (status.uiState mapping))
        (if screen.userDisconnected then .overtaken else .done)
  | fails (error : Text) (mounted : screen.mounted = true) :
      Move mapping told screen (.concluding (.error error)) (screen.showing (failed error) .error)
        .done

theorem refreshBackendStatus_move (updated : BackendConnectionStatus) (hfetched : told updated) :
    Move mapping told screen .refreshing (screen.refreshBackendStatus mapping updated) .done := by
  unfold refreshBackendStatus
  by_cases hleft : screen.mounted = false
  · rw [if_pos hleft]
    exact .gone _ _ hleft (.inl ⟨.inl rfl, rfl⟩)
  · have hmove : Move mapping told screen .refreshing _ .done :=
      .refreshes updated (Bool.not_eq_false _ ▸ hleft) hfetched
    rw [if_neg hleft]
    split_ifs with hguard
    · rwa [shownState, if_pos hguard] at hmove
    · rwa [shownState, if_neg hguard] at hmove

theorem onConnectTap_move (hmounted : screen.mounted = true) :
    Move mapping told screen .tapped screen.onConnectTap.1 screen.onConnectTap.2 := by
  unfold onConnectTap
  split_ifs with hbusy hconnected
  · exact .ignores hbusy
  · exact .disconnects hmounted hconnected
  · exact .connects hmounted hbusy hconnected

theorem connect_move : Move mapping told screen .starting (screen.connect resolvedBaseUrl).1
    (screen.connect resolvedBaseUrl).2 := by
  unfold connect
  split_ifs with hbusy
  · exact .refused _ hbusy
  · exact .attempts (Bool.not_eq_true _ ▸ hbusy)

theorem conclude_move (result : Except Text BackendConnectionStatus) :
    Move mapping told screen (.concluding result) (screen.conclude mapping result).1
      (screen.conclude mapping result).2 := by
  unfold conclude
  by_cases hleft : screen.mounted = false
  · rw [if_pos hleft]
    exact .gone _ _ hleft (.inl ⟨.inr ⟨result, rfl⟩, rfl⟩)
  · have hmounted : screen.mounted = true := Bool.not_eq_false _ ▸ hleft
    rw [if_neg hleft]
    cases result with
    | ok status => exact .concludes status hmounted
    | error error => exact .fails error hmounted

theorem move_of_resume {resumption : Resumption}
    (htold : ∀ status ∈ statuses resumption, told status)
    (hresume : screen.resume mapping resolvedBaseUrl task resumption = some (screen', task')) :
    Move mapping told screen task screen' task' := by
  unfold resume at hresume
  split at hresume
  · obtain ⟨-, hnext⟩ := Option.ite_none_right_eq_some.mp hresume
    cases hnext
    exact .begins _ (.inl rfl)
  · obtain ⟨-, hnext⟩ := Option.ite_none_right_eq_some.mp hresume
    cases hnext
    exact .begins _ (.inr rfl)
  · obtain ⟨hmounted, hnext⟩ := Option.ite_none_right_eq_some.mp hresume
    cases hnext
    exact .leaves hmounted
  · cases hresume
    exact refreshBackendStatus_move _ (htold _ (List.mem_singleton_self _))
  · obtain ⟨hmounted, hnext⟩ := Option.ite_none_right_eq_some.mp hresume
    obtain ⟨rfl, rfl⟩ := Prod.ext_iff.mp (Option.some.inj hnext)
    exact onConnectTap_move hmounted
  · cases hresume
    exact .stops
  · cases hresume
    exact .disconnected
  · cases hresume
    split_ifs with hmounted
    · exact .throws hmounted
    · exact .gone _ _ (Bool.not_eq_true _ ▸ hmounted) (.inr ⟨rfl, rfl⟩)
  · obtain ⟨rfl, rfl⟩ := Prod.ext_iff.mp (Option.some.inj hresume)
    exact connect_move
  · rename_i attempt
    cases hresume
    refine .attempted _ fun status hstatus => ?_
    cases hconnect : RealLayerBackendBridge.connect mapping false attempt with
    | error error =>
        rw [hconnect] at hstatus
        cases hstatus
    | ok found =>
        rw [hconnect] at hstatus
        cases hstatus
        exact htold _ (connect_secured hconnect).2.1
  · cases hresume
    exact .attempted _ nofun
  · obtain ⟨rfl, rfl⟩ := Prod.ext_iff.mp (Option.some.inj hresume)
    exact conclude_move _
  · cases hresume

end Moves

/-! ## Why something is shown -/

section Laws

variable {mapping : CaseMapping} {resolvedBaseUrl : Text} {told : BackendConnectionStatus → Prop}
  {screen screen' : Screen} {task task' : Task}

theorem uiState_empty : BackendConnectionStatus.empty.uiState mapping = .disconnected := by
  have htext : BackendConnectionStatus.empty.normalizedStatus mapping = ascii "disconnected" := by
    rw [BackendConnectionStatus.normalizedStatus, mapping.onAscii _ (by decide)]
    decide
  unfold BackendConnectionStatus.uiState
  rw [htext]
  rfl

theorem uiState_failed (error : Text) : (failed error).uiState mapping = .error := by
  have htext : (failed error).normalizedStatus mapping = ascii "error" := by
    change mapping.toLowerCase (trim (ascii "error")) = ascii "error"
    rw [mapping.onAscii _ (by decide)]
    decide
  have hhealthy : (failed error).healthy mapping = false := by
    simpa [BackendConnectionStatus.healthy, failed] using
      BackendConnectionStatus.toLowerCase_unavailable
  unfold BackendConnectionStatus.uiState
  rw [htext, hhealthy]
  rfl

/-- The status comes from the backend, or stands for an error or for nothing. -/
def Known (told : BackendConnectionStatus → Prop) (status : BackendConnectionStatus) : Prop :=
  status = .empty ∨ (∃ error, status = failed error) ∨ told status

/-- What is shown without a method under way is what the status says. -/
structure Consistent (mapping : CaseMapping) (told : BackendConnectionStatus → Prop)
    (screen : Screen) : Prop where
  known : Known told screen.status
  connected : screen.connectionState = .connected → screen.status.uiState mapping = .connected
  disconnected : screen.connectionState = .disconnected →
    screen.status.uiState mapping = .disconnected ∨
      screen.userDisconnected = true ∧ screen.status.uiState mapping = .connected

theorem consistent_new : Consistent mapping told new := by
  refine ⟨.inl rfl, nofun, fun _ => .inl uiState_empty⟩

theorem Move.consistent (htold : ∀ status, task = .concluding (.ok status) → told status)
    (hconsistent : Consistent mapping told screen)
    (hmove : Move mapping told screen task screen' task') : Consistent mapping told screen' := by
  cases hmove with
  | begins | gone | ignores | stops | disconnected | refused => exact hconsistent
  | leaves | attempts | attempted => exact { hconsistent with }
  | disconnects | connects | throws => exact ⟨hconsistent.known, nofun, nofun⟩
  | refreshes updated mounted fetched =>
      refine ⟨.inr (.inr fetched), fun hstate => ?_, fun hstate => ?_⟩
      · simp only [showing, shownState] at hstate ⊢
        split_ifs at hstate
        exact hstate
      · simp only [showing, shownState] at hstate ⊢
        split_ifs at hstate with hguard
        · exact .inr hguard
        · exact .inl hstate
  | concludes status mounted =>
      exact ⟨.inr (.inr (htold status rfl)), id, .inl⟩
  | fails error mounted => exact ⟨.inr (.inl ⟨error, rfl⟩), nofun, nofun⟩

/-- What a method holds while it waits. -/
def Holds (told : BackendConnectionStatus → Prop) (screen : Screen) : Task → Prop
  | .concluding (.ok status) => told status
  | .connecting => screen.connecting = true
  | _ => True

def outline (mapping : CaseMapping) (told : BackendConnectionStatus → Prop) :
    Routine.Outline Screen Task where
  shared := Consistent mapping told
  own := Holds told
  apart first second := ¬ (first = .connecting ∧ second = .connecting)

theorem Move.holds (hholds : Holds told screen task)
    (hmove : Move mapping told screen task screen' task') : Holds told screen' task' := by
  cases hmove with
  | begins task' first => rcases first with rfl | rfl <;> trivial
  | gone task task' left ends => rcases ends with ⟨-, rfl⟩ | ⟨-, rfl⟩ <;> trivial
  | attempted result fetched =>
      cases result with
      | ok status => exact fetched status rfl
      | error error => trivial
  | attempts => rfl
  | concludes =>
      split_ifs <;> trivial
  | _ => trivial

/-- Another method that waits for the bridge has it for itself. -/
theorem Move.undisturbed {other : Task} (hother : Holds told screen other)
    (hapart : ¬ (task = .connecting ∧ other = .connecting))
    (hmove : Move mapping told screen task screen' task') :
    Holds told screen' other ∧ ¬ (task' = .connecting ∧ other = .connecting) := by
  by_cases hbusy : other = .connecting
  · subst hbusy
    have hlocked : screen.connecting = true := hother
    have hfree : task ≠ .connecting := fun htask => hapart ⟨htask, rfl⟩
    cases hmove with
    | begins task' first => exact ⟨hlocked, by rcases first with rfl | rfl <;> nofun⟩
    | gone task task' left ends =>
        exact ⟨hlocked, by rcases ends with ⟨-, rfl⟩ | ⟨-, rfl⟩ <;> nofun⟩
    | attempts free =>
        rw [hlocked] at free
        cases free
    | attempted => exact absurd rfl hfree
    | concludes =>
        refine ⟨hlocked, ?_⟩
        split_ifs <;> nofun
    | _ => exact ⟨hlocked, nofun⟩
  · refine ⟨?_, fun hboth => hbusy hboth.2⟩
    cases other with
    | connecting => exact absurd rfl hbusy
    | concluding result => cases result <;> exact hother
    | _ => exact hother

theorem outline_stable : (outline mapping told).Stable (routine mapping resolvedBaseUrl told) where
  symm _ _ hapart hboth := hapart ⟨hboth.2, hboth.1⟩
  own screen task screen' task' hconsistent hholds := by
    rintro ⟨resumption, htold, hresume⟩
    have hmove := move_of_resume htold hresume
    refine ⟨hmove.consistent (fun status htask => ?_) hconsistent, hmove.holds hholds⟩
    rwa [htask] at hholds
  other screen task screen' task' other _ _ hother hapart := by
    rintro ⟨resumption, htold, hresume⟩
    exact (move_of_resume htold hresume).undisturbed hother hapart

/-! ## Which method it is because of -/

/-- A method that is about to connect. -/
def Connects : Task → Prop
  | .starting | .connecting | .concluding _ => True
  | _ => False

/-- A method that is about to disconnect, or to show what came of it. -/
def Parts : Task → Prop
  | .stopping | .disconnecting | .refreshing => True
  | _ => False

theorem caused {state : Interleaved Nat Screen Task} (fact : Screen → Prop) (cause : Task → Prop)
    (hnew : ¬ fact new)
    (hmoves : ∀ {screen task screen' task'}, Move mapping told screen task screen' task' →
      fact screen' → cause task' ∨ fact screen ∧ (cause task → cause task'))
    (hreach : (run mapping resolvedBaseUrl told).Reachable state) :
    fact state.shared → ∃ method, cause (state.process method) := by
  refine Routine.caused fact cause (fun screen hstart => ?_) ?_ hreach
  · rwa [show screen = new from hstart]
  · rintro screen task screen' task' ⟨resumption, htold, hresume⟩
    exact hmoves (move_of_resume htold hresume)

/-- The screen waits for a connection that its status does not speak of. -/
def Connecting (mapping : CaseMapping) (screen : Screen) : Prop :=
  screen.mounted = true ∧ screen.connectionState = .connecting ∧
    screen.status.uiState mapping ≠ .connecting

def Disconnecting (mapping : CaseMapping) (screen : Screen) : Prop :=
  screen.mounted = true ∧ screen.connectionState = .disconnecting ∧
    screen.status.uiState mapping ≠ .disconnecting

variable (screen) in
theorem shownState_of_ne {updated : BackendConnectionStatus}
    {connectionState : BackendRuntimeConnectionState}
    (hshown : screen.shownState mapping updated = connectionState)
    (hne : connectionState ≠ .disconnected) :
    updated.uiState mapping = connectionState := by
  unfold shownState at hshown
  split_ifs at hshown
  · exact absurd hshown.symm hne
  · exact hshown

theorem Move.connecting (hmove : Move mapping told screen task screen' task')
    (hfact : screen'.Connecting mapping) :
    Connects task' ∨
      screen.Connecting mapping ∧ (Connects task → Connects task') := by
  cases hmove with
  | begins | ignores | stops | disconnected => exact .inr ⟨hfact, False.elim⟩
  | leaves | disconnects | throws => exact absurd hfact (by simp [Connecting])
  | gone task task' left ends => exact absurd (hfact.1.symm.trans left) nofun
  | refreshes updated mounted fetched =>
      exact absurd (shownState_of_ne screen hfact.2.1 nofun) hfact.2.2
  | connects | refused | attempts | attempted => exact .inl trivial
  | concludes status mounted => exact absurd hfact.2.1 hfact.2.2
  | fails => exact absurd hfact.2.1 nofun

theorem Move.disconnecting (hmove : Move mapping told screen task screen' task')
    (hfact : screen'.Disconnecting mapping) :
    Parts task' ∨
      screen.Disconnecting mapping ∧ (Parts task → Parts task') := by
  cases hmove with
  | begins | ignores | refused => exact .inr ⟨hfact, False.elim⟩
  | attempts | attempted => exact .inr ⟨hfact, False.elim⟩
  | leaves | connects | throws => exact absurd hfact (by simp [Disconnecting])
  | gone task task' left ends => exact absurd (hfact.1.symm.trans left) nofun
  | refreshes updated mounted fetched =>
      exact absurd (shownState_of_ne screen hfact.2.1 nofun) hfact.2.2
  | disconnects | stops | disconnected => exact .inl trivial
  | concludes status mounted => exact absurd hfact.2.1 hfact.2.2
  | fails => exact absurd hfact.2.1 nofun

/-- An error that is not in the status is one of the bridge when it was to disconnect. -/
theorem Move.error (hmove : Move mapping told screen task screen' task')
    (hfact : screen'.connectionState = .error ∧ screen'.status.uiState mapping ≠ .error) :
    task' = .thrown ∨ (screen.connectionState = .error ∧ screen.status.uiState mapping ≠ .error) ∧
      (task = .thrown → task' = .thrown) := by
  cases hmove with
  | gone task task' left ends =>
      rcases ends with ⟨rfl | ⟨result, rfl⟩, rfl⟩ | ⟨-, rfl⟩
      · exact .inr ⟨hfact, nofun⟩
      · exact .inr ⟨hfact, nofun⟩
      · exact .inl rfl
  | throws => exact .inl rfl
  | refreshes updated mounted fetched =>
      exact absurd (shownState_of_ne screen hfact.1 nofun) hfact.2
  | concludes status mounted => exact absurd hfact.1 hfact.2
  | fails error mounted => exact absurd (uiState_failed error) hfact.2
  | disconnects | connects => exact absurd hfact.1 nofun
  | _ => exact .inr ⟨hfact, nofun⟩

/-- Who has disconnected is shown as connected only after the bridge has connected for him none the
less. -/
theorem Move.overtaken (hmove : Move mapping told screen task screen' task')
    (hfact : screen'.userDisconnected = true ∧ screen'.connectionState = .connected) :
    task' = .overtaken ∨ (screen.userDisconnected = true ∧ screen.connectionState = .connected) ∧
      (task = .overtaken → task' = .overtaken) := by
  cases hmove with
  | gone task task' left ends =>
      rcases ends with ⟨rfl | ⟨result, rfl⟩, rfl⟩ | ⟨rfl, rfl⟩ <;> exact .inr ⟨hfact, nofun⟩
  | refreshes updated mounted fetched =>
      have hguard : screen.userDisconnected = true := hfact.1
      have hstate := shownState_of_ne screen hfact.2 nofun
      have hshown : screen.shownState mapping updated = .connected := hfact.2
      rw [shownState, if_pos ⟨hguard, hstate⟩] at hshown
      cases hshown
  | concludes status mounted => exact .inl (if_pos hfact.1)
  | disconnects | connects | throws | fails => exact absurd hfact.2 nofun
  | _ => exact .inr ⟨hfact, nofun⟩

theorem Move.locked (hmove : Move mapping told screen task screen' task')
    (hfact : screen'.connecting = true) :
    task' = .connecting ∨ screen.connecting = true ∧
      (task = .connecting → task' = .connecting) := by
  cases hmove with
  | gone task task' left ends =>
      rcases ends with ⟨rfl | ⟨result, rfl⟩, rfl⟩ | ⟨rfl, rfl⟩ <;> exact .inr ⟨hfact, nofun⟩
  | attempts => exact .inl rfl
  | attempted => cases hfact
  | _ => exact .inr ⟨hfact, nofun⟩

/-- What is shown, and for whom. -/
def view (screen : Screen) : BackendConnectionStatus × BackendRuntimeConnectionState × Bool :=
  (screen.status, screen.connectionState, screen.userDisconnected)

/-- Nothing is shown differently on a screen that was left. -/
theorem Move.left (hmove : Move mapping told screen task screen' task')
    (hleft : screen.mounted = false) : screen'.mounted = false ∧ screen'.view = screen.view := by
  cases hmove with
  | refreshes updated mounted | leaves mounted | disconnects mounted | connects mounted
  | throws mounted | concludes status mounted | fails error mounted =>
      rw [hleft] at mounted
      cases mounted
  | _ => exact ⟨hleft, rfl⟩

/-! ## Runs -/

variable {state next : Interleaved Nat Screen Task}

theorem left_stays (hsteps : (run mapping resolvedBaseUrl told).Steps state next)
    (hleft : state.shared.mounted = false) : next.shared.view = state.shared.view := by
  have hstep (before after : Interleaved Nat Screen Task)
      (hkept : before.shared.mounted = false ∧ before.shared.view = state.shared.view)
      (htaken : (run mapping resolvedBaseUrl told).step before after) :
      after.shared.mounted = false ∧ after.shared.view = state.shared.view := by
    obtain ⟨method, screen, task, ⟨resumption, htold, hresume⟩, rfl⟩ := htaken
    obtain ⟨hgone, hview⟩ := (move_of_resume htold hresume).left hkept.1
    exact ⟨hgone, hview.trans hkept.2⟩
  exact (System.Steps.preserves hstep hsteps ⟨hleft, rfl⟩).2

theorem outline_of_reachable (hreach : (run mapping resolvedBaseUrl told).Reachable state) :
    (outline mapping told).Holds state := by
  refine outline_stable.reachable ?_ ?_ ?_ hreach
  · rintro screen rfl
    exact consistent_new
  · rintro screen task - rfl
    trivial
  · rintro first second rfl rfl ⟨hfirst, -⟩
    cases hfirst

/-- A screen is connected only for what its backend told it. -/
theorem told_of_connected (hreach : (run mapping resolvedBaseUrl told).Reachable state)
    (hconnected : state.shared.connectionState = .connected) :
    told state.shared.status ∧ state.shared.status.uiState mapping = .connected := by
  obtain ⟨hconsistent, -, -⟩ := outline_of_reachable hreach
  have hshown := hconsistent.connected hconnected
  refine ⟨?_, hshown⟩
  rcases hconsistent.known with hempty | ⟨error, hfailed⟩ | htold
  · rw [hempty, uiState_empty] at hshown
    cases hshown
  · rw [hfailed, uiState_failed] at hshown
    cases hshown
  · exact htold

/-- Why a screen shows what it shows. A method that is under way, or one that has failed, accounts
for what the status does not say. -/
structure Explained (mapping : CaseMapping) (told : BackendConnectionStatus → Prop)
    (state : Interleaved Nat Screen Task) : Prop where
  connected : state.shared.connectionState = .connected →
    told state.shared.status ∧ state.shared.status.uiState mapping = .connected
  overtaken : state.shared.connectionState = .connected → state.shared.userDisconnected = true →
    ∃ method, state.process method = .overtaken
  connecting : state.shared.mounted = true → state.shared.connectionState = .connecting →
    state.shared.status.uiState mapping = .connecting ∨ ∃ method, Connects (state.process method)
  disconnecting : state.shared.mounted = true → state.shared.connectionState = .disconnecting →
    state.shared.status.uiState mapping = .disconnecting ∨ ∃ method, Parts (state.process method)
  error : state.shared.connectionState = .error →
    state.shared.status.uiState mapping = .error ∨ ∃ method, state.process method = .thrown
  disconnected : state.shared.connectionState = .disconnected →
    state.shared.status.uiState mapping = .disconnected ∨
      state.shared.userDisconnected = true ∧ state.shared.status.uiState mapping = .connected
  locked : state.shared.connecting = true ↔ ∃ method, state.process method = .connecting
  single : ∀ first second, state.process first = .connecting →
    state.process second = .connecting → first = second

/-- Whatever is under way on a screen, it shows nothing without a reason: it is connected only for a
status that its backend told it, and for a user who has disconnected only after the bridge has
connected for him none the less. At most one method has the bridge connect at a time. A screen that
was left shows nothing new. -/
theorem screen_laws (hreach : (run mapping resolvedBaseUrl told).Reachable state) :
    Explained mapping told state ∧ (state.shared.mounted = false →
      ∀ next, (run mapping resolvedBaseUrl told).Steps state next →
        next.shared.view = state.shared.view) := by
  obtain ⟨hconsistent, hholds, hapart⟩ := outline_of_reachable hreach
  refine ⟨?_, fun hleft next hsteps => left_stays hsteps hleft⟩
  constructor
  case connected => exact told_of_connected hreach
  case overtaken =>
    intro hconnected hguard
    exact caused _ _ (by simp [new]) Move.overtaken hreach ⟨hguard, hconnected⟩
  case connecting =>
    intro hmounted hstate
    by_cases hsays : state.shared.status.uiState mapping = .connecting
    · exact .inl hsays
    · exact .inr (caused (Connecting mapping) _ (by simp [Connecting, new]) Move.connecting hreach
        ⟨hmounted, hstate, hsays⟩)
  case disconnecting =>
    intro hmounted hstate
    by_cases hsays : state.shared.status.uiState mapping = .disconnecting
    · exact .inl hsays
    · exact .inr (caused (Disconnecting mapping) _ (by simp [Disconnecting, new])
        Move.disconnecting hreach ⟨hmounted, hstate, hsays⟩)
  case error =>
    intro hstate
    by_cases hsays : state.shared.status.uiState mapping = .error
    · exact .inl hsays
    · exact .inr (caused _ _ (by simp [new]) Move.error hreach ⟨hstate, hsays⟩)
  case disconnected => exact hconsistent.disconnected
  case locked =>
    constructor
    · exact caused (fun screen => screen.connecting = true) _ (by simp [new]) Move.locked hreach
    · rintro ⟨method, hmethod⟩
      have hown := hholds method
      rw [hmethod] at hown
      exact hown
  case single =>
    intro first second hfirst hsecond
    by_contra hne
    exact hapart first second hne ⟨hfirst, hsecond⟩

end Laws

/-! ## Which backend it is connected to -/

section Backends

open Foundation Network Relay

variable {mapping : CaseMapping} {jsonDecode : Text → Option JsonValue} {resolvedBaseUrl : Text}
  {ext : Externals} {routeText : RouteBinding → Text} {clientSetup : Client.Setup}
  {programSetup : Client.Program.Setup} {relaySetup : Relay.Setup ext}
  {state : Interleaved Nat Screen Task}

variable (mapping jsonDecode resolvedBaseUrl ext routeText clientSetup programSetup relaySetup) in
/-- A status that a backend told, or the one that stands for no answer. -/
def Fetched (status : BackendConnectionStatus) : Prop :=
  status = .empty ∨ Told mapping jsonDecode resolvedBaseUrl ext routeText clientSetup programSetup
    relaySetup status

end Backends

/-! ## A screen that is connected -/

section Reference

def healthyStatus : BackendConnectionStatus where
  alive := true
  ready := true
  health := ascii "healthy"
  latencyMs := 1
  status := ascii "online"
  message := none

/-- The status that is polled first is not shown; then the button is tapped, and the bridge finds
the backend healthy. -/
def tapping (status : BackendConnectionStatus) : List (Nat × Resumption) :=
  [(0, .tick), (0, .fetched status), (1, .tap), (1, .animated), (1, .answered),
    (1, .attempted ⟨status, true, [], status⟩), (1, .returned)]

/-- What is shown in the end, and for whom. -/
def shownAfter (inputs : List (Nat × Resumption)) :
    Option (BackendRuntimeConnectionState × Bool) :=
  (Routine.play (fun resumption screen task =>
    Screen.resume .asciiOnly localBaseUrl screen task resumption) ⟨new, fun _ => .idle⟩
      inputs).map fun state : Interleaved Nat Screen Task =>
        (state.shared.connectionState, state.shared.userDisconnected)

theorem run_of_shownAfter (told : BackendConnectionStatus → Prop)
    {status : BackendConnectionStatus} (htold : told status)
    {shown : BackendRuntimeConnectionState × Bool}
    (hshown : shownAfter (tapping status) = some shown) :
    ∃ state, (run .asciiOnly localBaseUrl told).Reachable state ∧
      (state.shared.connectionState, state.shared.userDisconnected) = shown := by
  obtain ⟨state, hstate, hshown⟩ := Option.map_eq_some_iff.mp hshown
  refine ⟨state, ⟨⟨new, fun _ => .idle⟩, ⟨rfl, fun _ => rfl⟩, ?_⟩, hshown⟩
  exact Routine.play_steps (by simp [tapping, statuses, Attempt.statuses, htold]) hstate

/-- What is shown when the bridge has connected was told by the backend. -/
theorem screen_laws_connected : ∃ state : Interleaved Nat Screen Task,
    (run .asciiOnly localBaseUrl (· = healthyStatus)).Reachable state ∧
      state.shared.connectionState = .connected ∧ state.shared.userDisconnected = false ∧
      state.shared.status = healthyStatus := by
  have hplays : shownAfter (tapping healthyStatus) = some (.connected, false) := by
    decide +kernel
  obtain ⟨state, hreach, hshown⟩ := run_of_shownAfter (· = healthyStatus) rfl hplays
  obtain ⟨hconnected, hguard⟩ := Prod.ext_iff.mp hshown
  exact ⟨state, hreach, hconnected, hguard, ((screen_laws hreach).1.connected hconnected).1⟩

def clientDecode : Text → Option JsonValue :=
  decodePage [(clientText, connectedClient.toJson)]

def clientGet : Text → Option Text :=
  getPage ((endpoints localBaseUrl).map fun endpoint => (endpoint, clientText))

end Reference

end Screen

end App
