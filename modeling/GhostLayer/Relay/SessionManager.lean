import GhostLayer.Foundation.Operations
import GhostLayer.Foundation.Tables
import GhostLayer.Network.Session

/-! # The manager of sessions

A bounded table of authenticated sessions that are to be dropped when they have
been idle for too long. Insertions and cleanups drop them, a lookup does not
look at the clock. Instants and durations are counted in nanoseconds.
-/

namespace Relay

open Foundation Network

structure SessionBinding where
  sessionId : SessionId
  authenticatedPeer : PeerId
  route : RouteBinding
  entryPeer : PeerId
  exitPeer : PeerId
  createdAt : Nat
  lastActivity : Nat
  deriving DecidableEq

inductive SessionManagerError where
  | limit
  | duplicate
  | unknown
  deriving DecidableEq

structure SessionManager where
  sessions : AList (fun _ : SessionId => SessionBinding)
  maximumSessions : Nat
  timeout : Nat

/-- A session has been idle for longer than the timeout. The time since an activity that lies ahead
is zero. -/
def SessionBinding.Expired (binding : SessionBinding) (timeout now : Nat) : Prop :=
  timeout < now - binding.lastActivity

instance (binding : SessionBinding) (timeout now : Nat) : Decidable (binding.Expired timeout now) :=
  inferInstanceAs (Decidable (_ < _))

namespace SessionManager

def new (maximumSessions timeout : Nat) : Except SessionManagerError SessionManager := do
  Check.failWhen (maximumSessions = 0 ∨ timeout = 0) .limit
  return { sessions := ∅, maximumSessions, timeout }

def cleanup (now : Nat) (manager : SessionManager) : SessionManager :=
  { manager with
    sessions := retain (fun _ session => now - session.lastActivity ≤ manager.timeout)
      manager.sessions }

/-- `now` is the time of the cleanup that comes first. -/
def insert (now : Nat) (binding : SessionBinding) :
    Fallible SessionManager SessionManagerError Unit := do
  Fallible.modify (cleanup now)
  let manager ← Fallible.get
  Fallible.failWhen (binding.sessionId ∈ manager.sessions) .duplicate
  Fallible.failWhen (manager.sessions.entries.length ≥ manager.maximumSessions) .limit
  Fallible.modify fun manager =>
    { manager with sessions := manager.sessions.insert binding.sessionId binding }

def get (sessionId : SessionId) (manager : SessionManager) : Option SessionBinding :=
  manager.sessions.lookup sessionId

def remove (sessionId : SessionId) : Fallible SessionManager SessionManagerError Unit := do
  let manager ← Fallible.get
  let _ ← Fallible.orThrow (manager.sessions.lookup sessionId) .unknown
  Fallible.modify fun manager => { manager with sessions := manager.sessions.erase sessionId }

variable {manager final : SessionManager} {now : Nat} {binding : SessionBinding}
  {sessionId : SessionId}

/-! ## One operation -/

theorem cleanup_lookup :
    (manager.cleanup now).sessions.lookup sessionId = some binding ↔
      manager.sessions.lookup sessionId = some binding ∧ ¬ binding.Expired manager.timeout now := by
  rw [cleanup, lookup_retain_eq_some, SessionBinding.Expired, Nat.not_lt, decide_eq_true_eq]

/-- The manager with one more session. -/
def holding (manager : SessionManager) (binding : SessionBinding) : SessionManager :=
  { manager with sessions := manager.sessions.insert binding.sessionId binding }

theorem insert_cases (now : Nat) (binding : SessionBinding) (manager : SessionManager) :
    (binding.sessionId ∉ (manager.cleanup now).sessions ∧
        (manager.cleanup now).sessions.entries.length < manager.maximumSessions ∧
        insert now binding manager = (.ok (), (manager.cleanup now).holding binding)) ∨
      ∃ reason, insert now binding manager = (.error reason, manager.cleanup now) := by
  simp only [insert, Fallible.modify_bind_run, Fallible.get_bind_run, Fallible.failWhen_bind_run,
    Fallible.modify_run]
  by_cases hknown : binding.sessionId ∈ (manager.cleanup now).sessions
  · exact .inr ⟨.duplicate, if_pos hknown⟩
  rw [if_neg hknown]
  by_cases hfull : (manager.cleanup now).sessions.entries.length ≥
      (manager.cleanup now).maximumSessions
  · exact .inr ⟨.limit, if_pos hfull⟩
  · exact .inl ⟨hknown, Nat.lt_of_not_le hfull, if_neg hfull⟩

theorem remove_run (sessionId : SessionId) (manager : SessionManager) :
    remove sessionId manager =
      match manager.sessions.lookup sessionId with
      | some _ => (.ok (), { manager with sessions := manager.sessions.erase sessionId })
      | none => (.error .unknown, manager) := by
  rw [remove, Fallible.get_bind_run]
  cases manager.sessions.lookup sessionId <;> rfl

end SessionManager

/-! ## Runs under a clock -/

/-- A manager and the reading of the clock. -/
structure ClockedSessions where
  manager : SessionManager
  clock : Nat

namespace ClockedSessions

/-- What happens to a manager. Time passes between the calls and never goes back. -/
inductive Operation where
  | wait (elapsed : Nat)
  | insert (binding : SessionBinding)
  | remove (sessionId : SessionId)
  | cleanup

def onManager (routine : Fallible SessionManager SessionManagerError Unit) :
    Fallible ClockedSessions SessionManagerError Unit :=
  Fallible.zoom ClockedSessions.manager (fun manager sessions => { sessions with manager }) routine

def perform : Operation → Fallible ClockedSessions SessionManagerError Unit
  | .wait elapsed =>
      Fallible.modify fun sessions => { sessions with clock := sessions.clock + elapsed }
  | .insert binding => do
      let sessions ← Fallible.get
      onManager (SessionManager.insert sessions.clock binding)
  | .remove sessionId => onManager (SessionManager.remove sessionId)
  | .cleanup => do
      let sessions ← Fallible.get
      onManager (Fallible.modify (SessionManager.cleanup sessions.clock))

abbrev Made := Call ClockedSessions SessionManagerError Operation

/-- A session that was inserted and not removed since. It is swept when an insertion or a cleanup
ran while it was expired. -/
structure Standing where
  binding : SessionBinding
  swept : Bool

def Standing.sweep (timeout now : Nat) (standing : Standing) : Standing :=
  { standing with swept := standing.swept || decide (standing.binding.Expired timeout now) }

/-- What a call does to the session that stands under an id. -/
def afterCall (sessionId : SessionId) (standing : Option Standing) (made : Made) :
    Option Standing :=
  let swept := standing.map (Standing.sweep made.before.manager.timeout made.before.clock)
  match made.operation, made.outcome with
  | .wait _, _ => standing
  | .insert binding, .ok () =>
      if binding.sessionId = sessionId then some ⟨binding, false⟩ else swept
  | .insert _, _ => swept
  | .remove removed, .ok () => if removed = sessionId then none else standing
  | .remove _, _ => standing
  | .cleanup, _ => swept

/-- The session that was inserted last under an id and not removed since. -/
def standing (sessionId : SessionId) (history : List Made) : Option Standing :=
  history.foldl (afterCall sessionId) none

theorem standing_concat (sessionId : SessionId) (history : List Made) (made : Made) :
    standing sessionId (history ++ [made]) =
      afterCall sessionId (standing sessionId history) made := by
  rw [standing, List.foldl_append]
  rfl

/-- The session of a standing insertion, as long as it was not swept. -/
def Standing.held (standing : Standing) : Option SessionBinding :=
  if standing.swept then none else some standing.binding

theorem Standing.held_eq_some {standing : Standing} {binding : SessionBinding} :
    standing.held = some binding ↔ standing.swept = false ∧ standing.binding = binding := by
  unfold Standing.held
  cases standing.swept <;> simp

theorem Standing.held_sweep {standing : Standing} {timeout now : Nat} {binding : SessionBinding} :
    (standing.sweep timeout now).held = some binding ↔
      standing.held = some binding ∧ ¬ binding.Expired timeout now := by
  rw [Standing.held_eq_some, Standing.held_eq_some, Standing.sweep, Bool.or_eq_false_iff,
    decide_eq_false_iff_not]
  constructor
  · intro hswept
    obtain ⟨⟨hbefore, hlive⟩, rfl⟩ := hswept
    exact ⟨⟨hbefore, rfl⟩, hlive⟩
  · intro hheld
    obtain ⟨⟨hbefore, rfl⟩, hlive⟩ := hheld
    exact ⟨⟨hbefore, hlive⟩, rfl⟩

variable {maximumSessions timeout : Nat} {stands : SessionId → Option Standing}
  {sessions : ClockedSessions} {sessionId : SessionId}

/-- The table holds the standing sessions that were not swept, within its limit; what was swept is
expired. -/
structure Tracks (maximumSessions timeout : Nat) (stands : SessionId → Option Standing)
    (sessions : ClockedSessions) : Prop where
  limit_eq : sessions.manager.maximumSessions = maximumSessions
  timeout_eq : sessions.manager.timeout = timeout
  size : sessions.manager.sessions.entries.length ≤ maximumSessions
  lookup : ∀ sessionId, sessions.manager.sessions.lookup sessionId =
    (stands sessionId).bind Standing.held
  swept : ∀ sessionId standing, stands sessionId = some standing → standing.swept = true →
    standing.binding.Expired timeout sessions.clock

theorem Tracks.wait (htracks : Tracks maximumSessions timeout stands sessions) (elapsed : Nat) :
    Tracks maximumSessions timeout stands { sessions with clock := sessions.clock + elapsed } :=
  { htracks with
    swept := fun sessionId standing hstands hswept =>
      lt_of_lt_of_le (htracks.swept sessionId standing hstands hswept)
        (Nat.sub_le_sub_right (Nat.le_add_right _ _) _) }

/-- Dropping the expired sessions sweeps them. -/
theorem Tracks.cleanup (htracks : Tracks maximumSessions timeout stands sessions) :
    Tracks maximumSessions timeout
      (fun sessionId => (stands sessionId).map (Standing.sweep timeout sessions.clock))
      { sessions with manager := sessions.manager.cleanup sessions.clock } where
  limit_eq := htracks.limit_eq
  timeout_eq := htracks.timeout_eq
  size := (List.length_filter_le _ _).trans htracks.size
  lookup sessionId := by
    apply Option.ext
    intro binding
    rw [SessionManager.cleanup_lookup, htracks.timeout_eq, htracks.lookup]
    cases stands sessionId with
    | none => simp
    | some standing => exact Standing.held_sweep.symm
  swept sessionId standing hstands hswept := by
    obtain ⟨earlier, hearlier, rfl⟩ := Option.map_eq_some_iff.mp hstands
    rcases Bool.or_eq_true_iff.mp hswept with hbefore | hexpired
    · exact htracks.swept sessionId earlier hearlier hbefore
    · exact of_decide_eq_true hexpired

theorem Tracks.holding (htracks : Tracks maximumSessions timeout stands sessions)
    {binding : SessionBinding} (hnew : binding.sessionId ∉ sessions.manager.sessions)
    (hroom : sessions.manager.sessions.entries.length < maximumSessions) :
    Tracks maximumSessions timeout
      (fun sessionId => if binding.sessionId = sessionId then some ⟨binding, false⟩
        else stands sessionId)
      { sessions with manager := sessions.manager.holding binding } where
  limit_eq := htracks.limit_eq
  timeout_eq := htracks.timeout_eq
  size := by
    show (sessions.manager.sessions.insert _ _).entries.length ≤ _
    rw [AList.entries_insert_of_notMem hnew, List.length_cons]
    exact hroom
  lookup sessionId := by
    show (sessions.manager.sessions.insert _ _).lookup sessionId = _
    by_cases hsame : binding.sessionId = sessionId
    · rw [if_pos hsame, ← hsame, AList.lookup_insert]
      rfl
    · rw [if_neg hsame, AList.lookup_insert_ne (Ne.symm hsame)]
      exact htracks.lookup sessionId
  swept sessionId standing hstands hswept := by
    split_ifs at hstands with hsame
    · cases hstands
      cases hswept
    · exact htracks.swept sessionId standing hstands hswept

theorem Tracks.erase (htracks : Tracks maximumSessions timeout stands sessions)
    (removed : SessionId) :
    Tracks maximumSessions timeout
      (fun sessionId => if removed = sessionId then none else stands sessionId)
      { sessions with
        manager := { sessions.manager with
          sessions := sessions.manager.sessions.erase removed } } where
  limit_eq := htracks.limit_eq
  timeout_eq := htracks.timeout_eq
  size :=
    (List.kerase_sublist removed sessions.manager.sessions.entries).length_le.trans htracks.size
  lookup sessionId := by
    by_cases hsame : removed = sessionId
    · rw [if_pos hsame, ← hsame]
      exact AList.lookup_erase _ _
    · rw [if_neg hsame, ← htracks.lookup sessionId]
      exact AList.lookup_erase_ne (Ne.symm hsame)
  swept sessionId standing hstands hswept := by
    split_ifs at hstands with hsame
    exact htracks.swept sessionId standing hstands hswept

/-- One call changes the table as it changes what stands. -/
theorem Tracks.call (htracks : Tracks maximumSessions timeout stands sessions)
    (operation : Operation) :
    Tracks maximumSessions timeout
      (fun sessionId =>
        afterCall sessionId (stands sessionId) (Foundation.call perform operation sessions))
      (perform operation sessions).2 := by
  have htimeout := htracks.timeout_eq
  subst htimeout
  cases operation with
  | wait elapsed => exact htracks.wait elapsed
  | cleanup => exact htracks.cleanup
  | insert binding =>
      -- An insertion sweeps first, also where it is refused.
      have hclean := htracks.cleanup
      rcases SessionManager.insert_cases sessions.clock binding sessions.manager with
        ⟨hnew, hroom, hrun⟩ | ⟨reason, hrun⟩
      · rw [htracks.limit_eq] at hroom
        have hperform : perform (.insert binding) sessions = (.ok (), { sessions with
            manager := (sessions.manager.cleanup sessions.clock).holding binding }) := by
          simp only [perform, Fallible.get_bind_run, onManager, Fallible.zoom, hrun]
        rw [Foundation.call, hperform]
        exact hclean.holding hnew hroom
      · have hperform : perform (.insert binding) sessions = (.error reason, { sessions with
            manager := sessions.manager.cleanup sessions.clock }) := by
          simp only [perform, Fallible.get_bind_run, onManager, Fallible.zoom, hrun]
        rw [Foundation.call, hperform]
        exact hclean
  | remove removed =>
      have hrun := SessionManager.remove_run removed sessions.manager
      cases hheld : sessions.manager.sessions.lookup removed with
      | none =>
          rw [hheld] at hrun
          have hperform : perform (.remove removed) sessions = (.error .unknown, sessions) := by
            simp only [perform, onManager, Fallible.zoom, hrun]
          rw [Foundation.call, hperform]
          exact htracks
      | some binding =>
          rw [hheld] at hrun
          have hperform : perform (.remove removed) sessions = (.ok (), { sessions with
              manager := { sessions.manager with
                sessions := sessions.manager.sessions.erase removed } }) := by
            simp only [perform, onManager, Fallible.zoom, hrun]
          rw [Foundation.call, hperform]
          exact htracks.erase removed

variable {manager : SessionManager}

theorem tracks (hnew : SessionManager.new maximumSessions timeout = .ok manager) (clock : Nat)
    (operations : List Operation) :
    Tracks maximumSessions timeout
      (fun sessionId => standing sessionId (calls perform operations ⟨manager, clock⟩))
      (stateAfterAll perform operations ⟨manager, clock⟩) := by
  obtain ⟨_, -, hmade⟩ := Check.bind_eq_ok.mp hnew
  obtain rfl := Except.ok.inj hmade
  refine history_induction (motive := fun _ history sessions =>
    Tracks maximumSessions timeout (fun sessionId => standing sessionId history) sessions)
    ?_ ?_ operations
  · exact ⟨rfl, rfl, Nat.zero_le _, fun _ => rfl, fun _ _ hstands => by cases hstands⟩
  · intro _ operation history sessions htracks
    simp only [standing_concat]
    exact htracks.call operation

/-- A lookup returns exactly the session that stands and is not expired, and the sessions are within
the limit. -/
def Exact (maximumSessions timeout : Nat) (sessionId : SessionId) (history : List Made)
    (sessions : ClockedSessions) : Prop :=
  (∀ binding, sessions.manager.get sessionId = some binding ↔
    ∃ stands, standing sessionId history = some stands ∧ stands.binding = binding ∧
      ¬ binding.Expired timeout sessions.clock) ∧
  sessions.manager.sessions.entries.length ≤ maximumSessions

/-- A lookup is exact at the end of a run exactly when the session that stands is not expired, or
was swept since it expired. -/
theorem get_exact_iff (hnew : SessionManager.new maximumSessions timeout = .ok manager)
    (clock : Nat) (operations : List Operation) (sessionId : SessionId) :
    Exact maximumSessions timeout sessionId (calls perform operations ⟨manager, clock⟩)
        (stateAfterAll perform operations ⟨manager, clock⟩) ↔
      ∀ stands, standing sessionId (calls perform operations ⟨manager, clock⟩) = some stands →
        stands.binding.Expired timeout (stateAfterAll perform operations ⟨manager, clock⟩).clock →
        stands.swept = true := by
  have htracks := tracks hnew clock operations
  constructor
  · intro hexact stands hstands hexpired
    by_contra hswept
    -- What was not swept is still held, and a lookup does not look at the time.
    have hheld : stands.held = some stands.binding :=
      Standing.held_eq_some.mpr ⟨Bool.eq_false_iff.mpr hswept, rfl⟩
    have hget : (stateAfterAll perform operations ⟨manager, clock⟩).manager.get sessionId =
        some stands.binding := by
      rw [SessionManager.get, htracks.lookup, hstands]
      exact hheld
    obtain ⟨_, -, -, hlive⟩ := (hexact.1 stands.binding).mp hget
    exact hlive hexpired
  · intro hsweeps
    refine ⟨?_, htracks.size⟩
    intro binding
    rw [SessionManager.get, htracks.lookup]
    constructor
    · intro hfound
      obtain ⟨stands, hstands, hheld⟩ := Option.bind_eq_some_iff.mp hfound
      obtain ⟨hswept, rfl⟩ := Standing.held_eq_some.mp hheld
      refine ⟨stands, hstands, rfl, ?_⟩
      intro hexpired
      rw [hsweeps stands hstands hexpired] at hswept
      cases hswept
    · intro hstanding
      obtain ⟨stands, hstands, rfl, hlive⟩ := hstanding
      refine Option.bind_eq_some_iff.mpr ⟨stands, hstands, Standing.held_eq_some.mpr ⟨?_, rfl⟩⟩
      by_contra hswept
      exact hlive (htracks.swept sessionId stands hstands (Bool.eq_true_of_not_eq_false hswept))

def sampleBinding : SessionBinding where
  sessionId := ⟨Vector.replicate 16 1⟩
  authenticatedPeer := ⟨[1]⟩
  route := .twoHop ⟨[2]⟩ ⟨[3]⟩ "/ip4/10.0.0.3"
  entryPeer := ⟨[2]⟩
  exitPeer := ⟨[3]⟩
  createdAt := 0
  lastActivity := 0

/-- A session expires and a cleanup drops it. -/
theorem get_exact_cleaned :
    Exact 1 10 sampleBinding.sessionId
      (calls perform [.insert sampleBinding, .wait 20, .cleanup] ⟨⟨∅, 1, 10⟩, 0⟩)
      (stateAfterAll perform [.insert sampleBinding, .wait 20, .cleanup] ⟨⟨∅, 1, 10⟩, 0⟩) := by
  refine (get_exact_iff rfl 0 _ _).mpr ?_
  intro stands hstands _
  cases hstands
  rfl

/-- An expired session is returned as long as no insertion and no cleanup has run. -/
theorem get_expired :
    SessionManager.new 1 10 = .ok ⟨∅, 1, 10⟩ ∧
    ¬ Exact 1 10 sampleBinding.sessionId
      (calls perform [.insert sampleBinding, .wait 20] ⟨⟨∅, 1, 10⟩, 0⟩)
      (stateAfterAll perform [.insert sampleBinding, .wait 20] ⟨⟨∅, 1, 10⟩, 0⟩) := by
  refine ⟨rfl, ?_⟩
  intro hexact
  obtain ⟨_, -, -, hlive⟩ := (hexact.1 sampleBinding).mp rfl
  exact hlive (by decide)

end ClockedSessions

end Relay
