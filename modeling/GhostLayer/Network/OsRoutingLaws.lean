import Mathlib.Data.Set.Insert
import Mathlib.Tactic.Tauto
import GhostLayer.Network.OsRouting

/-! # Installing routes

What an installation leaves behind when it fails, for every manager whose
removals succeed.
-/

namespace Network

open Foundation

namespace RouteManager

variable {σ : Type} {manager : RouteManager σ} {table owned : σ → Set OwnedRoute}

/-- Inspections and additions may fail, and then change nothing. A route that an inspection does
not find is not there, and owned routes can be removed. -/
structure Lawful (manager : RouteManager σ) (table owned : σ → Set OwnedRoute) : Prop where
  inspect_keeps : ∀ route state, table (manager.inspect route state).2 = table state ∧
    owned (manager.inspect route state).2 = owned state
  inspect_absent : ∀ route state, (manager.inspect route state).1 = .ok false → route ∉ table state
  add_ok : ∀ route state, (manager.add route state).1 = .ok () →
    table (manager.add route state).2 = insert route (table state) ∧
      owned (manager.add route state).2 = insert route (owned state)
  add_error : ∀ route state reason, (manager.add route state).1 = .error reason →
    table (manager.add route state).2 = table state ∧
      owned (manager.add route state).2 = owned state
  remove_ok : ∀ route state, route ∈ owned state → (manager.remove route state).1 = .ok () ∧
    table (manager.remove route state).2 = table state \ {route} ∧
      owned (manager.remove route state).2 = owned state \ {route}

/-- No inspection fails once a route was added. -/
def inspectsBeforeAdding (manager : RouteManager σ) :
    List OwnedRoute → List OwnedRoute → σ → Bool
  | [], _, _ => true
  | route :: rest, added, state =>
      match manager.inspect route state with
      | (.error _, _) => added = []
      | (.panic, _) => true
      | (.ok true, next) => inspectsBeforeAdding manager rest added next
      | (.ok false, next) =>
          match manager.add route next with
          | (.ok (), next) => inspectsBeforeAdding manager rest (added ++ [route]) next
          | (.error _, _) | (.panic, _) => true

/-! ## Rolling back -/

theorem rollBack_cons (installed : OwnedRoute) (rest : List OwnedRoute) {state next : σ}
    (hremove : manager.remove installed state = (.ok (), next)) :
    manager.rollBack (installed :: rest) state = manager.rollBack rest next := by
  rw [rollBack]
  exact Fallible.bind_ok (Fallible.attempt_ok hremove)

/-- Rolling back takes exactly the given routes away. -/
theorem Lawful.rollBack (hlawful : Lawful manager table owned) {installed : List OwnedRoute}
    {state : σ} (hnodup : installed.Nodup) (howned : ∀ route ∈ installed, route ∈ owned state) :
    ∃ final, manager.rollBack installed state = (.ok (), final) ∧
      table final = table state \ {route | route ∈ installed} ∧
      owned final = owned state \ {route | route ∈ installed} := by
  induction installed generalizing state with
  | nil => exact ⟨state, rfl, by simp, by simp⟩
  | cons route rest ih =>
      obtain ⟨hroute, hrest⟩ := List.nodup_cons.mp hnodup
      obtain ⟨hok, htable, howned'⟩ := hlawful.remove_ok route state (howned route (by simp))
      have hstill : ∀ other ∈ rest, other ∈ owned (manager.remove route state).2 := by
        intro other hother
        rw [howned']
        refine ⟨howned other (by simp [hother]), ?_⟩
        rintro rfl
        exact hroute hother
      obtain ⟨final, hrun, hfinal, hfinalOwned⟩ := ih hrest hstill
      refine ⟨final, ?_, ?_, ?_⟩
      · rw [rollBack_cons route rest (Prod.ext hok rfl), hrun]
      · rw [hfinal, htable, Set.sdiff_sdiff]
        congr 1
        ext other
        simp
      · rw [hfinalOwned, howned', Set.sdiff_sdiff]
        congr 1
        ext other
        simp

/-! ## One route after the other -/

/-- The routes added so far are new, and nothing else has changed. -/
structure Added (table owned : σ → Set OwnedRoute) (start : σ) (added : List OwnedRoute)
    (state : σ) : Prop where
  nodup : added.Nodup
  new : ∀ route ∈ added, route ∉ table start
  table_eq : table state = table start ∪ {route | route ∈ added}
  owned_eq : owned state = owned start ∪ {route | route ∈ added}

variable {start state : σ} {added : List OwnedRoute}

theorem Added.refl (start : σ) : Added table owned start [] start where
  nodup := List.nodup_nil
  new := by simp
  table_eq := by simp
  owned_eq := by simp

theorem Added.inspect (hadded : Added table owned start added state)
    (hlawful : Lawful manager table owned) (route : OwnedRoute) :
    Added table owned start added (manager.inspect route state).2 where
  nodup := hadded.nodup
  new := hadded.new
  table_eq := (hlawful.inspect_keeps route state).1.trans hadded.table_eq
  owned_eq := (hlawful.inspect_keeps route state).2.trans hadded.owned_eq

theorem Added.add (hadded : Added table owned start added state)
    (hlawful : Lawful manager table owned) {route : OwnedRoute} (habsent : route ∉ table state)
    (hok : (manager.add route state).1 = .ok ()) :
    Added table owned start (added ++ [route]) (manager.add route state).2 := by
  obtain ⟨htable, howned⟩ := hlawful.add_ok route state hok
  rw [hadded.table_eq, Set.mem_union, not_or] at habsent
  refine ⟨?_, ?_, ?_, ?_⟩
  · rw [List.nodup_append]
    refine ⟨hadded.nodup, List.nodup_singleton route, fun other hother last hlast hsame => ?_⟩
    obtain rfl := List.mem_singleton.mp hlast
    exact habsent.2 (hsame ▸ hother)
  · intro other hother
    rcases List.mem_append.mp hother with hother | hother
    · exact hadded.new other hother
    · rw [List.mem_singleton.mp hother]
      exact habsent.1
  · rw [htable, hadded.table_eq]
    ext other
    simp only [Set.mem_insert_iff, Set.mem_union, Set.mem_ofPred_eq, List.mem_append,
      List.mem_singleton]
    tauto
  · rw [howned, hadded.owned_eq]
    ext other
    simp only [Set.mem_insert_iff, Set.mem_union, Set.mem_ofPred_eq, List.mem_append,
      List.mem_singleton]
    tauto

/-- Nothing has changed exactly when nothing was added. -/
theorem Added.unchanged_iff (hadded : Added table owned start added state) :
    (table state = table start ∧ owned state = owned start) ↔ added = [] := by
  constructor
  · rintro ⟨htable, -⟩
    apply List.eq_nil_iff_forall_not_mem.mpr
    intro route hroute
    refine hadded.new route hroute (htable ▸ ?_)
    rw [hadded.table_eq]
    exact .inr hroute
  · rintro rfl
    exact ⟨by simpa using hadded.table_eq, by simpa using hadded.owned_eq⟩

/-- Rolling back the routes added so far restores the start. -/
theorem Added.rollBack (hadded : Added table owned start added state)
    (hlawful : Lawful manager table owned) (hstart : owned start ⊆ table start) :
    ∃ final, manager.rollBack added.reverse state = (.ok (), final) ∧
      table final = table start ∧ owned final = owned start := by
  have howned : ∀ route ∈ added.reverse, route ∈ owned state := by
    intro route hroute
    rw [hadded.owned_eq]
    exact .inr (List.mem_reverse.mp hroute)
  obtain ⟨final, hrun, htable, hfinal⟩ :=
    hlawful.rollBack (List.nodup_reverse.mpr hadded.nodup) howned
  have hrestored (set : Set OwnedRoute) (hset : set ⊆ table start) :
      (set ∪ {route | route ∈ added}) \ {route | route ∈ added.reverse} = set := by
    ext route
    simp only [Set.mem_sdiff, Set.mem_union, Set.mem_ofPred_eq, List.mem_reverse]
    constructor
    · rintro ⟨hroute | hroute, hnot⟩
      · exact hroute
      · exact absurd hroute hnot
    · intro hroute
      exact ⟨.inl hroute, fun hadd => hadded.new route hadd (hset hroute)⟩
  refine ⟨final, hrun, ?_, ?_⟩
  · rw [htable, hadded.table_eq]
    exact hrestored _ Set.Subset.rfl
  · rw [hfinal, hadded.owned_eq]
    exact hrestored _ hstart

/-! ## Installing -/

section Installing

variable {route : OwnedRoute} {rest : List OwnedRoute} {next : σ}

theorem installRoutes_inspect_error {reason : RouteError}
    (hinspect : manager.inspect route state = (.error reason, next)) :
    manager.installRoutes (route :: rest) added state = (.error reason, next) := by
  rw [installRoutes]
  exact Fallible.bind_error hinspect

theorem installRoutes_inspect_panic (hinspect : manager.inspect route state = (.panic, next)) :
    manager.installRoutes (route :: rest) added state = (.panic, next) := by
  rw [installRoutes, Fallible.bind_run, hinspect]

theorem installRoutes_present (hinspect : manager.inspect route state = (.ok true, next)) :
    manager.installRoutes (route :: rest) added state = manager.installRoutes rest added next := by
  rw [installRoutes, Fallible.bind_ok hinspect]
  rfl

theorem installRoutes_add {next' : σ} (hinspect : manager.inspect route state = (.ok false, next))
    (hadd : manager.add route next = (.ok (), next')) :
    manager.installRoutes (route :: rest) added state =
      manager.installRoutes rest (added ++ [route]) next' := by
  rw [installRoutes, Fallible.bind_ok hinspect]
  exact Fallible.bind_ok (Fallible.attempt_ok hadd)

theorem installRoutes_add_error {next' final : σ} {reason : RouteError}
    (hinspect : manager.inspect route state = (.ok false, next))
    (hadd : manager.add route next = (.error reason, next'))
    (hback : manager.rollBack added.reverse next' = (.ok (), final)) :
    manager.installRoutes (route :: rest) added state = (.error reason, final) := by
  rw [installRoutes, Fallible.bind_ok hinspect]
  refine (Fallible.bind_ok (Fallible.attempt_error hadd)).trans ?_
  exact Fallible.bind_ok hback

theorem installRoutes_add_panic {next' : σ}
    (hinspect : manager.inspect route state = (.ok false, next))
    (hadd : manager.add route next = (.panic, next')) :
    manager.installRoutes (route :: rest) added state = (.panic, next') := by
  rw [installRoutes, Fallible.bind_ok hinspect]
  simp [Fallible.bind_run, Fallible.attempt, hadd]

end Installing

/-- From any point of an installation on. -/
theorem Lawful.installRoutes (hlawful : Lawful manager table owned)
    (hstart : owned start ⊆ table start) (routes : List OwnedRoute)
    (hadded : Added table owned start added state) :
    (∀ reason final, manager.installRoutes routes added state = (.error reason, final) →
        table final = table start ∧ owned final = owned start) ↔
      inspectsBeforeAdding manager routes added state = true := by
  induction routes generalizing added state with
  | nil => simp [RouteManager.installRoutes, inspectsBeforeAdding]
  | cons route rest ih =>
      have hinspected := hadded.inspect hlawful route
      have habsent := hlawful.inspect_absent route state
      rw [← (hlawful.inspect_keeps route state).1] at habsent
      rw [inspectsBeforeAdding]
      rcases hinspect : manager.inspect route state with ⟨answer, next⟩
      rw [hinspect] at hinspected habsent
      match answer with
      -- An inspection that fails does not roll back, so it must come before the first addition.
      | .error reason =>
          rw [installRoutes_inspect_error hinspect, decide_eq_true_iff, ← hinspected.unchanged_iff]
          simp
      | .panic =>
          rw [installRoutes_inspect_panic hinspect]
          simp
      | .ok true =>
          rw [installRoutes_present hinspect]
          exact ih hinspected
      | .ok false =>
          have hok := hinspected.add hlawful (habsent rfl)
          have herror := hlawful.add_error route next
          rcases hadd : manager.add route next with ⟨answer, next'⟩
          rw [hadd] at hok herror
          match answer with
          | .ok () =>
              rw [installRoutes_add hinspect hadd, ih (hok rfl)]
              simp only [hadd]
          | .error reason =>
              obtain ⟨htable, howned⟩ := herror reason rfl
              have hadded' : Added table owned start added next' :=
                ⟨hinspected.nodup, hinspected.new, htable.trans hinspected.table_eq,
                  howned.trans hinspected.owned_eq⟩
              obtain ⟨final, hback, hrestored⟩ := hadded'.rollBack hlawful hstart
              rw [installRoutes_add_error hinspect hadd hback]
              simpa [hadd] using hrestored
          | .panic =>
              rw [installRoutes_add_panic hinspect hadd]
              simp [hadd]

end RouteManager

/-! ## Commands of `netsh` -/

/-- The text is a field of the line: white space or an end of the line is on both of its sides. -/
def HasField (line text : String) : Prop :=
  ∃ before after, line.toList = before ++ text.toList ++ after ∧
    (∀ character ∈ before.getLast?, isWhiteSpace character) ∧
    ∀ character ∈ after.head?, isWhiteSpace character

theorem HasField.contains {line text : String} (hfield : HasField line text) :
    Network.contains line text = true := by
  obtain ⟨before, after, hline, -⟩ := hfield
  exact contains_eq_true.mpr ⟨before, after, hline.symm⟩

namespace Netsh

def Succeeds (netsh : Netsh) (command : NetshCommand) (table : List OwnedRoute) : Prop :=
  ∃ output, netsh.output command table = .ok output ∧ output.success = true

/-- Behind its header, a listing has the routes of one family, each on a line of its own with its
prefix and its interface as fields. -/
def ListsRoutes (netsh : Netsh) : Prop :=
  ∀ route table output, netsh.output (.showRoute route) table = .ok output →
    output.success = true → ∃ (header : List String) (line : OwnedRoute → String),
      (∀ text ∈ header, '/' ∉ text.toList) ∧
      (∀ row ∈ table, HasField (line row) row.destination.text ∧
        HasField (line row) row.interfaceName) ∧
      output.stdout = header ++ (table.filter fun row =>
        WindowsRouteManager.family row = WindowsRouteManager.family route).map line

/-- One line for each route, and a failure of some of the commands. -/
def printing (fails : NetshCommand → Bool) : Netsh where
  output command table :=
    if fails command then .ok ⟨false, [], "The parameter is incorrect."⟩
    else match command with
      | .showRoute route => .ok ⟨true, (table.filter fun row =>
          WindowsRouteManager.family row = WindowsRouteManager.family route).map fun row =>
            .ofList ("No Manual 256 ".toList ++ row.destination.text.toList ++ " 12 ".toList ++
              row.interfaceName.toList), ""⟩
      | .addRoute _ | .deleteRoute _ => .ok ⟨true, [], ""⟩

theorem printing_lists (fails : NetshCommand → Bool) : (printing fails).ListsRoutes := by
  intro route table output houtput hsuccess
  simp only [printing] at houtput
  split at houtput
  · cases houtput
    cases hsuccess
  · cases houtput
    have hblank : ∀ character ∈ some ' ', isWhiteSpace character = true := by
      rintro _ ⟨⟩
      decide
    refine ⟨[], _, by simp, fun row _ => ⟨?_, ?_⟩, rfl⟩
    · refine ⟨"No Manual 256 ".toList, " 12 ".toList ++ row.interfaceName.toList, ?_, ?_, ?_⟩
      · simp
      · have hlast : "No Manual 256 ".toList.getLast? = some ' ' := by decide
        rw [hlast]
        exact hblank
      · have hfirst : " 12 ".toList.head? = some ' ' := by decide
        rw [List.head?_append, hfirst, Option.some_or]
        exact hblank
    · refine ⟨"No Manual 256 ".toList ++ row.destination.text.toList ++ " 12 ".toList, [], ?_, ?_,
        by simp⟩
      · simp
      · have hlast : " 12 ".toList.getLast? = some ' ' := by decide
        rw [List.getLast?_append, hlast, Option.some_or]
        exact hblank

theorem printing_succeeds {fails : NetshCommand → Bool} {command : NetshCommand}
    (hgood : fails command = false) (table : List OwnedRoute) :
    (printing fails).Succeeds command table := by
  cases command <;> simp [Succeeds, printing, hgood]

end Netsh

namespace WindowsRouteManager

variable {netsh : Netsh} {manager : WindowsRouteManager} {route : OwnedRoute}

/-- A command is carried out, or noted as failed. -/
theorem runChecked_cases (netsh : Netsh) (command : NetshCommand)
    (manager : WindowsRouteManager) :
    (∃ output, netsh.output command manager.table = .ok output ∧ output.success = true ∧
      runChecked netsh command manager = (.ok output, manager.carryOut command)) ∨
    ¬ netsh.Succeeds command manager.table ∧
      ∃ reason, runChecked netsh command manager =
        (.error (.routeOperationFailed reason), manager.noteFailure command) := by
  unfold runChecked
  rw [Fallible.bind_run]
  unfold runNetsh
  cases houtput : netsh.output command manager.table with
  | error error =>
      refine .inr ⟨?_, error, rfl⟩
      rintro ⟨output, hsame, -⟩
      rw [houtput] at hsame
      cases hsame
  | ok output =>
      cases hsuccess : output.success with
      | true => exact .inl ⟨output, rfl, hsuccess, by simp [hsuccess]⟩
      | false =>
          refine .inr ⟨?_, trim output.stderr, by simp [hsuccess, Fallible.bind_run]⟩
          rintro ⟨output', hsame, hsuccess'⟩
          rw [houtput] at hsame
          cases hsame
          rw [hsuccess] at hsuccess'
          cases hsuccess'

/-- An inspection reads the listing of the table, or fails. -/
theorem inspect_cases (netsh : Netsh) (route : OwnedRoute) (manager : WindowsRouteManager) :
    (∃ output, netsh.output (.showRoute route) manager.table = .ok output ∧
      output.success = true ∧
      inspect netsh route manager = (.ok (listed route output.stdout), manager)) ∨
    ∃ reason, inspect netsh route manager =
      (.error (.routeOperationFailed reason), manager.noteFailure (.showRoute route)) := by
  unfold inspect
  rcases runChecked_cases netsh (.showRoute route) manager with
    ⟨output, houtput, hsuccess, hrun⟩ | ⟨-, reason, hrun⟩
  · exact .inl ⟨output, houtput, hsuccess, Fallible.bind_ok hrun⟩
  · exact .inr ⟨reason, Fallible.bind_error hrun⟩

theorem add_cases (netsh : Netsh) (route : OwnedRoute) (manager : WindowsRouteManager) :
    add netsh route manager = (.ok (), (manager.carryOut (.addRoute route)).own route) ∨
    ∃ reason, add netsh route manager =
      (.error (.routeOperationFailed reason), manager.noteFailure (.addRoute route)) := by
  unfold add
  rcases runChecked_cases netsh (.addRoute route) manager with
    ⟨output, -, -, hrun⟩ | ⟨-, reason, hrun⟩
  · exact .inl (Fallible.bind_ok hrun)
  · exact .inr ⟨reason, Fallible.bind_error hrun⟩

theorem remove_foreign (netsh : Netsh) (hforeign : route ∉ manager.ownedRoutes) :
    remove netsh route manager = (.ok (), manager) := by
  simp [remove, hforeign]

/-- A route that was owned is not owned afterwards, whether it was deleted or not. -/
theorem remove_cases (netsh : Netsh) (howned : route ∈ manager.ownedRoutes) :
    remove netsh route manager =
      (.ok (), (manager.disown route).carryOut (.deleteRoute route)) ∨
    ¬ netsh.Succeeds (.deleteRoute route) manager.table ∧
      ∃ reason, remove netsh route manager = (.error (.routeOperationFailed reason),
        (manager.disown route).noteFailure (.deleteRoute route)) := by
  have hremove : remove netsh route manager =
      (runChecked netsh (.deleteRoute route) >>= fun _ => pure ()) (manager.disown route) := by
    simp [remove, howned]
  rw [hremove]
  rcases runChecked_cases netsh (.deleteRoute route) (manager.disown route) with
    ⟨output, -, -, hrun⟩ | ⟨hfails, reason, hrun⟩
  · exact .inl (Fallible.bind_ok hrun)
  · exact .inr ⟨hfails, reason, Fallible.bind_error hrun⟩

/-- The routes of the system. -/
def routes (manager : WindowsRouteManager) : Set OwnedRoute := {route | route ∈ manager.table}

def owned (manager : WindowsRouteManager) : Set OwnedRoute := {route | route ∈ manager.ownedRoutes}

/-- A route of the table is seen. -/
theorem listed_of_mem {output : Output} {table : List OwnedRoute} (hlists : netsh.ListsRoutes)
    (houtput : netsh.output (.showRoute route) table = .ok output)
    (hsuccess : output.success = true) (hroute : route ∈ table) :
    listed route output.stdout = true := by
  obtain ⟨header, line, -, hfields, hstdout⟩ := hlists route table output houtput hsuccess
  obtain ⟨hdestination, hinterface⟩ := hfields route hroute
  refine List.any_eq_true.mpr ⟨line route, ?_, ?_⟩
  · rw [hstdout]
    refine List.mem_append_right _ (List.mem_map_of_mem ?_)
    exact List.mem_filter.mpr ⟨hroute, by simp⟩
  · rw [hdestination.contains, hinterface.contains]
    rfl

/-- While its deletions succeed, `netsh` is a manager whose removals do. -/
theorem lawful (hlists : netsh.ListsRoutes)
    (hdelete : ∀ route table, netsh.Succeeds (.deleteRoute route) table)
    (order : Finset OwnedRoute → List OwnedRoute) :
    (routeManager netsh order).Lawful routes owned where
  inspect_keeps route manager := by
    rcases inspect_cases netsh route manager with ⟨output, -, -, hrun⟩ | ⟨reason, hrun⟩
    · exact ⟨congrArg (routes ·.2) hrun, congrArg (owned ·.2) hrun⟩
    · exact ⟨congrArg (routes ·.2) hrun, congrArg (owned ·.2) hrun⟩
  inspect_absent route manager habsent hroute := by
    rcases inspect_cases netsh route manager with ⟨output, houtput, hsuccess, hrun⟩ | ⟨reason, hrun⟩
    · have hfalse : Outcome.ok (listed route output.stdout) = Outcome.ok false :=
        (congrArg Prod.fst hrun).symm.trans habsent
      rw [listed_of_mem hlists houtput hsuccess hroute] at hfalse
      cases hfalse
    · cases (congrArg Prod.fst hrun).symm.trans habsent
  add_ok route manager hok := by
    rcases add_cases netsh route manager with hrun | ⟨reason, hrun⟩
    · refine ⟨(congrArg (routes ·.2) hrun).trans ?_, (congrArg (owned ·.2) hrun).trans ?_⟩
      · ext other
        simp [routes, own, carryOut]
      · ext other
        simp [owned, own, carryOut]
    · cases (congrArg Prod.fst hrun).symm.trans hok
  add_error route manager reason herror := by
    rcases add_cases netsh route manager with hrun | ⟨reason', hrun⟩
    · cases (congrArg Prod.fst hrun).symm.trans herror
    · exact ⟨congrArg (routes ·.2) hrun, congrArg (owned ·.2) hrun⟩
  remove_ok route manager howned := by
    rcases remove_cases netsh howned with hrun | ⟨hfails, -⟩
    · refine ⟨congrArg Prod.fst hrun, (congrArg (routes ·.2) hrun).trans ?_,
        (congrArg (owned ·.2) hrun).trans ?_⟩
      · ext other
        simp [routes, disown, carryOut]
      · ext other
        simp [owned, disown, carryOut, and_comm]
    · exact absurd (hdelete route manager.table) hfails

end WindowsRouteManager

/-! ## Failing installations -/

namespace RouteManager

variable {σ : Type} {manager : RouteManager σ} {table owned : σ → Set OwnedRoute} {start : σ}

end RouteManager

/-- A route that can be added. -/
def sampleRoute : OwnedRoute := ⟨⟨.v4 #v[10, 0, 0, 0], 8⟩, "ghost0"⟩

/-- Another one, with a policy for both. -/
def otherRoute : OwnedRoute := ⟨⟨.v4 #v[192, 168, 1, 0], 24⟩, "ghost0"⟩

def samplePolicy : RoutingPolicy := .explicit [sampleRoute.destination, otherRoute.destination]

def sampleOrder (owned : Finset OwnedRoute) : List OwnedRoute :=
  [sampleRoute, otherRoute].filter (· ∈ owned)

end Network
