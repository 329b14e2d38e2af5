import GhostLayer.Foundation.Frames
import GhostLayer.Foundation.Transition
import GhostLayer.Network.OsRoutingLaws

/-! # Routes that a process adds to Windows

A manager decides by the text of a listing whether a route is there, and it
gives up a route before it asks for its deletion. So the text of one route must
not be found in the line of another, and no deletion may fail.
-/

namespace Network

open Foundation

/-! ## Routes of a policy -/

namespace RoutingPolicy

theorem collect_ok {interfaceName : String} {prefixes : List IpPrefix}
    {collected routes : List OwnedRoute}
    (hcollect : collect interfaceName prefixes collected = .ok routes)
    (hcollected : (collected.map OwnedRoute.destination).Nodup) :
    (routes.map OwnedRoute.destination).Nodup := by
  induction prefixes generalizing collected with
  | nil =>
      cases hcollect
      exact hcollected
  | cons destination rest ih =>
      obtain ⟨⟨⟩, hnew, hrest⟩ := Check.bind_eq_ok.mp hcollect
      rw [Check.failWhen_eq_ok] at hnew
      refine ih hrest ?_
      rw [List.map_append, List.nodup_append]
      refine ⟨hcollected, List.nodup_singleton _, fun first hfirst last hlast hsame => hnew ?_⟩
      obtain ⟨route, hroute, rfl⟩ := List.mem_map.mp hfirst
      obtain rfl := List.mem_singleton.mp hlast
      exact List.any_eq_true.mpr ⟨route, hroute, decide_eq_true hsame⟩

/-- No route is there twice. -/
theorem routes_nodup {policy : RoutingPolicy} {interfaceName : String} {routes : List OwnedRoute}
    (hroutes : policy.routes interfaceName = .ok routes) : routes.Nodup := by
  obtain ⟨⟨⟩, -, hroutes⟩ := Check.bind_eq_ok.mp hroutes
  cases policy with
  | disabled =>
      cases hroutes
      exact List.nodup_nil
  | explicit prefixes => exact (collect_ok hroutes List.nodup_nil).of_map _
  | controlledTest network => exact (collect_ok hroutes List.nodup_nil).of_map _

end RoutingPolicy

/-! ## Successful installations -/

namespace RouteManager

variable {σ : Type} {manager : RouteManager σ} {state final : σ}

theorem installRoutes_cons_ok {route : OwnedRoute} {rest added : List OwnedRoute}
    (hinstall : manager.installRoutes (route :: rest) added state = (.ok (), final)) :
    (∃ next, manager.inspect route state = (.ok true, next) ∧
      manager.installRoutes rest added next = (.ok (), final)) ∨
    ∃ next next', manager.inspect route state = (.ok false, next) ∧
      manager.add route next = (.ok (), next') ∧
      manager.installRoutes rest (added ++ [route]) next' = (.ok (), final) := by
  obtain ⟨present, next, hinspect, hrest⟩ := Fallible.bind_eq_ok.mp hinstall
  cases present with
  | true => exact .inl ⟨next, hinspect, hrest⟩
  | false =>
      obtain ⟨result, next', hadd, hrest⟩ := Fallible.bind_eq_ok.mp hrest
      rw [Fallible.attempt_eq_ok] at hadd
      cases result with
      | ok value => exact .inr ⟨next, next', hinspect, hadd, hrest⟩
      | error reason =>
          obtain ⟨⟨⟩, last, -, hthrow⟩ := Fallible.bind_eq_ok.mp hrest
          cases hthrow

theorem install_ok {policy : RoutingPolicy} {interfaceName : String} {routes : List OwnedRoute}
    (hroutes : policy.routes interfaceName = .ok routes) :
    manager.install policy interfaceName state = manager.installRoutes routes [] state := by
  rw [install, hroutes]
  rfl

end RouteManager

/-- A line of the listing of a table has the texts of the route. -/
def Netsh.Finds (netsh : Netsh) (route : OwnedRoute) (table : List OwnedRoute) : Prop :=
  ∃ output, netsh.output (.showRoute route) table = .ok output ∧
    WindowsRouteManager.listed route output.stdout = true

namespace WindowsRouteManager

variable {netsh : Netsh} {order : Finset OwnedRoute → List OwnedRoute}
  {host final : WindowsRouteManager} {routes added : List OwnedRoute}

/-- A route is skipped when it is found, and added when it is not. -/
theorem installRoutes_cons_cases {route : OwnedRoute} {rest : List OwnedRoute}
    (hinstall : (routeManager netsh order).installRoutes (route :: rest) added host =
      (.ok (), final)) :
    (netsh.Finds route host.table ∧
      (routeManager netsh order).installRoutes rest added host = (.ok (), final)) ∨
    ¬ netsh.Finds route host.table ∧ ∃ next, next.table = host.table.insert route ∧
      (routeManager netsh order).installRoutes rest (added ++ [route]) next = (.ok (), final) := by
  have hfound {present : Bool} {next : WindowsRouteManager}
      (hinspect : inspect netsh route host = (.ok present, next)) :
      next = host ∧ (netsh.Finds route host.table ↔ present = true) := by
    rcases inspect_cases netsh route host with ⟨output, houtput, -, hrun⟩ | ⟨reason, hrun⟩
    · cases hinspect.symm.trans hrun
      refine ⟨rfl, fun ⟨output', houtput', hlisted⟩ => ?_, fun hlisted =>
        ⟨output, houtput, hlisted⟩⟩
      cases houtput.symm.trans houtput'
      exact hlisted
    · cases hinspect.symm.trans hrun
  rcases RouteManager.installRoutes_cons_ok hinstall with
    ⟨next, hinspect, hrest⟩ | ⟨next, next', hinspect, hadd, hrest⟩
  · obtain ⟨rfl, hfinds⟩ := hfound hinspect
    exact .inl ⟨hfinds.mpr rfl, hrest⟩
  · obtain ⟨rfl, hfinds⟩ := hfound hinspect
    refine .inr ⟨fun hfind => Bool.false_ne_true (hfinds.mp hfind), next', ?_, hrest⟩
    rcases add_cases netsh route next with hrun | ⟨reason, hrun⟩
    · cases hadd.symm.trans hrun
      rfl
    · cases hadd.symm.trans hrun

/-- An installation takes no route away and adds no route but its own. -/
theorem installRoutes_table
    (hinstall : (routeManager netsh order).installRoutes routes added host = (.ok (), final)) :
    (∀ route ∈ host.table, route ∈ final.table) ∧
      ∀ route ∈ final.table, route ∈ host.table ∨ route ∈ routes := by
  induction routes generalizing added host with
  | nil =>
      cases hinstall
      exact ⟨fun _ hroute => hroute, fun _ hroute => .inl hroute⟩
  | cons first rest ih =>
      rcases installRoutes_cons_cases hinstall with ⟨-, hrest⟩ | ⟨-, next, htable, hrest⟩
      · obtain ⟨hkeeps, hfrom⟩ := ih hrest
        refine ⟨hkeeps, fun route hroute => (hfrom route hroute).imp_right ?_⟩
        exact List.mem_cons_of_mem first
      · obtain ⟨hkeeps, hfrom⟩ := ih hrest
        rw [htable] at hkeeps hfrom
        refine ⟨fun route hroute => hkeeps route (List.mem_insert_of_mem hroute), ?_⟩
        intro route hroute
        rcases hfrom route hroute with hroute | hroute
        · rcases List.mem_insert_iff.mp hroute with rfl | hroute
          · exact .inr List.mem_cons_self
          · exact .inl hroute
        · exact .inr (List.mem_cons_of_mem first hroute)

/-- A table with more routes. -/
def withRoutes (table routes : List OwnedRoute) : List OwnedRoute :=
  routes.foldl (fun table route => table.insert route) table

theorem installRoutes_present_iff (hnodup : routes.Nodup)
    (hinstall : (routeManager netsh order).installRoutes routes added host = (.ok (), final)) :
    (∀ route ∈ routes, route ∈ final.table) ↔
      ∀ before route after, routes = before ++ route :: after →
        route ∈ host.table ∨ ¬ netsh.Finds route (withRoutes host.table before) := by
  induction routes generalizing added host with
  | nil => simp
  | cons first rest ih =>
      obtain ⟨hfirst, hnodup⟩ := List.nodup_cons.mp hnodup
      -- The splits at the first route, and those behind it.
      have hsplits : (∀ before route after, first :: rest = before ++ route :: after →
          route ∈ host.table ∨ ¬ netsh.Finds route (withRoutes host.table before)) ↔
          (first ∈ host.table ∨ ¬ netsh.Finds first host.table) ∧
            ∀ before route after, rest = before ++ route :: after → route ∈ host.table ∨
              ¬ netsh.Finds route (withRoutes (host.table.insert first) before) := by
        constructor
        · intro hall
          refine ⟨hall [] first rest rfl, fun before route after hrest => ?_⟩
          exact hall (first :: before) route after (by rw [hrest]; rfl)
        · rintro ⟨hhead, htail⟩ before route after hsplit
          cases before with
          | nil =>
              cases hsplit
              exact hhead
          | cons first' before =>
              cases hsplit
              exact htail before route after rfl
      rw [hsplits]
      rcases installRoutes_cons_cases hinstall with ⟨hfinds, hrest⟩ | ⟨hnot, next, htable, hrest⟩
      · obtain ⟨hkeeps, hfrom⟩ := installRoutes_table hrest
        constructor
        · intro hpresent
          have hthere : first ∈ host.table :=
            (hfrom first (hpresent first List.mem_cons_self)).resolve_right hfirst
          refine ⟨.inl hthere, ?_⟩
          rw [List.insert_of_mem hthere]
          exact (ih hnodup hrest).mp fun route hroute => hpresent route (.tail _ hroute)
        · rintro ⟨hhead, htail⟩
          have hthere : first ∈ host.table := hhead.resolve_right (not_not_intro hfinds)
          rw [List.insert_of_mem hthere] at htail
          refine List.forall_mem_cons.mpr ⟨hkeeps first hthere, ?_⟩
          exact (ih hnodup hrest).mpr htail
      · obtain ⟨hkeeps, hfrom⟩ := installRoutes_table hrest
        rw [htable] at hkeeps
        rw [List.forall_mem_cons, ih hnodup hrest, htable]
        have hhead : first ∈ final.table := hkeeps first List.mem_insert_self
        have hsame {route : OwnedRoute} (hroute : route ∈ rest) :
            route ∈ host.table.insert first ↔ route ∈ host.table := by
          rw [List.mem_insert_iff]
          refine ⟨fun hor => hor.resolve_left ?_, .inr⟩
          rintro rfl
          exact hfirst hroute
        constructor
        · rintro ⟨-, htail⟩
          refine ⟨.inr hnot, fun before route after hsplit => ?_⟩
          exact (htail before route after hsplit).imp_left (hsame (by simp [hsplit])).mp
        · rintro ⟨-, htail⟩
          refine ⟨hhead, fun before route after hsplit => ?_⟩
          exact (htail before route after hsplit).imp_left (hsame (by simp [hsplit])).mpr

/-- After a successful installation the table has every route of the policy exactly when no route
that was missing is found in the listing, with the routes before it in the table. -/
theorem install_present_iff {policy : RoutingPolicy} {interfaceName : String}
    (hroutes : policy.routes interfaceName = .ok routes)
    (hinstall : (routeManager netsh order).install policy interfaceName host = (.ok (), final)) :
    (∀ route ∈ routes, route ∈ final.table) ↔
      ∀ before route after, routes = before ++ route :: after →
        route ∈ host.table ∨ ¬ netsh.Finds route (withRoutes host.table before) := by
  rw [RouteManager.install_ok hroutes] at hinstall
  exact installRoutes_present_iff (RoutingPolicy.routes_nodup hroutes) hinstall

/-- Two routes are added to an empty table. -/
theorem install_present_both : ∃ final : WindowsRouteManager,
    (routeManager (.printing fun _ => false) sampleOrder).install samplePolicy "ghost0" (.new []) =
      (.ok (), final) ∧
    (∀ route ∈ [sampleRoute, otherRoute], route ∈ final.table) ∧
    ∀ before route after, [sampleRoute, otherRoute] = before ++ route :: after →
      route ∈ (new []).table ∨
        ¬ (Netsh.printing fun _ => false).Finds route (withRoutes (new []).table before) := by
  have hinstall : (routeManager (.printing fun _ => false) sampleOrder).install samplePolicy
      "ghost0" (.new []) = (.ok (), ⟨{otherRoute, sampleRoute}, [otherRoute, sampleRoute],
        {otherRoute, sampleRoute}, []⟩) := by decide +kernel
  have hpresent : ∀ route ∈ [sampleRoute, otherRoute], route ∈ [otherRoute, sampleRoute] := by
    decide
  exact ⟨_, hinstall, hpresent, (install_present_iff rfl hinstall).mp hpresent⟩

/-- The route to 110.0.0.0/8 is taken for the one to 10.0.0.0/8. -/
theorem install_skips_route : ∃ netsh : Netsh, netsh.ListsRoutes ∧ ∃ host final,
    (routeManager netsh sampleOrder).install (.controlledTest sampleRoute.destination) "ghost0"
      host = (.ok (), final) ∧
    RoutingPolicy.routes (.controlledTest sampleRoute.destination) "ghost0" = .ok [sampleRoute] ∧
    sampleRoute ∉ final.table := by
  refine ⟨_, Netsh.printing_lists fun _ => false, .new [⟨⟨.v4 #v[110, 0, 0, 0], 8⟩, "ghost0"⟩],
    .new [⟨⟨.v4 #v[110, 0, 0, 0], 8⟩, "ghost0"⟩], ?_, ?_, ?_⟩
  · decide
  · rfl
  · decide

end WindowsRouteManager

/-! ## Owned routes over a run -/

inductive RouteOperation where
  | install (policy : RoutingPolicy) (interfaceName : String)
  | remove (route : OwnedRoute)
  | removeOwned

def RouteOperation.run {σ : Type} (manager : RouteManager σ) :
    RouteOperation → Fallible σ RouteError Unit
  | install policy interfaceName => manager.install policy interfaceName
  | remove route => manager.remove route
  | removeOwned => manager.removeOwned

/-- The operations of a manager on some table, whatever `netsh` answers to each of them. -/
def windowsRuns : System WindowsRouteManager where
  init host := ∃ table, host = .new table
  step host next := ∃ (netsh : Netsh) (order : Finset OwnedRoute → List OwnedRoute)
      (operation : RouteOperation),
    (∀ owned, (order owned).Nodup ∧ (order owned).toFinset = owned) ∧
      (operation.run (WindowsRouteManager.routeManager netsh order) host).2 = next

namespace RouteManager

variable {σ : Type} {manager : RouteManager σ} {good : σ → Prop}

theorem rollBack_preserves (hremove : ∀ route, Fallible.Preserves good (manager.remove route))
    (installed : List OwnedRoute) : Fallible.Preserves good (manager.rollBack installed) := by
  induction installed with
  | nil => exact fun _ hgood => hgood
  | cons route rest ih => exact (hremove route).attempt.bind fun _ => ih

/-- What the steps of an installation keep, the installation keeps. -/
theorem installRoutes_preserves
    (hinspect : ∀ route, Fallible.Preserves good (manager.inspect route))
    (hadd : ∀ route, Fallible.Preserves good (manager.add route))
    (hremove : ∀ route, Fallible.Preserves good (manager.remove route))
    (routes added : List OwnedRoute) :
    Fallible.Preserves good (manager.installRoutes routes added) := by
  induction routes generalizing added with
  | nil => exact fun _ hgood => hgood
  | cons route rest ih =>
      refine (hinspect route).bind fun present => ?_
      cases present with
      | true => exact ih added
      | false =>
          refine (hadd route).attempt.bind fun result => ?_
          cases result with
          | ok value => exact ih (added ++ [route])
          | error reason =>
              exact (rollBack_preserves hremove _).bind fun _ _ hgood => hgood

theorem install_preserves (hinspect : ∀ route, Fallible.Preserves good (manager.inspect route))
    (hadd : ∀ route, Fallible.Preserves good (manager.add route))
    (hremove : ∀ route, Fallible.Preserves good (manager.remove route)) (policy : RoutingPolicy)
    (interfaceName : String) : Fallible.Preserves good (manager.install policy interfaceName) := by
  rw [install]
  cases policy.routes interfaceName with
  | error reason => exact fun _ hgood => hgood
  | ok routes => exact installRoutes_preserves hinspect hadd hremove routes []

end RouteManager

namespace WindowsRouteManager

variable {netsh : Netsh} {host : WindowsRouteManager} {route : OwnedRoute}

/-- No deletion has failed so far. -/
def DeletesSucceeded (host : WindowsRouteManager) : Prop :=
  ∀ route, NetshCommand.deleteRoute route ∉ host.failed

/-- Owned routes were added and are there, and as long as no deletion failed there are no others. -/
structure Tracked (host : WindowsRouteManager) : Prop where
  owned : ∀ route ∈ host.ownedRoutes, route ∈ host.added ∧ route ∈ host.table
  complete : host.DeletesSucceeded → ∀ route ∈ host.added, route ∈ host.table →
    route ∈ host.ownedRoutes

theorem Tracked.new (table : List OwnedRoute) : Tracked (new table) where
  owned := by simp [WindowsRouteManager.new]
  complete := by simp [WindowsRouteManager.new]

theorem Tracked.noteFailure (htracked : Tracked host) (command : NetshCommand) :
    Tracked (host.noteFailure command) where
  owned := htracked.owned
  complete hnone := htracked.complete fun route hfailed => hnone route (.tail _ hfailed)

theorem Tracked.add (htracked : Tracked host) (route : OwnedRoute) :
    Tracked ((host.carryOut (.addRoute route)).own route) where
  owned other hother := by
    rcases Finset.mem_insert.mp hother with rfl | hother
    · exact ⟨Finset.mem_insert_self _ _, List.mem_insert_self⟩
    · obtain ⟨hadded, htable⟩ := htracked.owned other hother
      exact ⟨Finset.mem_insert_of_mem hadded, List.mem_insert_of_mem htable⟩
  complete hnone other hadded htable := by
    by_cases hsame : other = route
    · exact hsame ▸ Finset.mem_insert_self _ _
    · have hadded' := Finset.mem_of_mem_insert_of_ne hadded hsame
      have htable' := (List.mem_insert_iff.mp htable).resolve_left hsame
      exact Finset.mem_insert_of_mem (htracked.complete hnone other hadded' htable')

theorem Tracked.delete (htracked : Tracked host) (route : OwnedRoute) :
    Tracked ((host.disown route).carryOut (.deleteRoute route)) where
  owned other hother := by
    obtain ⟨hne, hother⟩ := Finset.mem_erase.mp hother
    obtain ⟨hadded, htable⟩ := htracked.owned other hother
    exact ⟨hadded, List.mem_filter.mpr ⟨htable, decide_eq_true hne⟩⟩
  complete hnone other hadded htable := by
    obtain ⟨htable, hne⟩ := List.mem_filter.mp htable
    refine Finset.mem_erase.mpr ⟨of_decide_eq_true hne, ?_⟩
    exact htracked.complete hnone other hadded htable

/-- A failed deletion gives the route up and leaves it there. -/
theorem Tracked.strand (htracked : Tracked host) (route : OwnedRoute) :
    Tracked ((host.disown route).noteFailure (.deleteRoute route)) where
  owned other hother := htracked.owned other (Finset.mem_of_mem_erase hother)
  complete hnone := absurd List.mem_cons_self (hnone route)

theorem inspect_tracked (netsh : Netsh) (route : OwnedRoute) :
    Fallible.Preserves Tracked (inspect netsh route) := by
  intro host htracked
  rcases inspect_cases netsh route host with ⟨output, -, -, hrun⟩ | ⟨reason, hrun⟩
  · rwa [hrun]
  · rw [hrun]
    exact htracked.noteFailure _

theorem add_tracked (netsh : Netsh) (route : OwnedRoute) :
    Fallible.Preserves Tracked (add netsh route) := by
  intro host htracked
  rcases add_cases netsh route host with hrun | ⟨reason, hrun⟩
  · rw [hrun]
    exact htracked.add route
  · rw [hrun]
    exact htracked.noteFailure _

theorem remove_tracked (netsh : Netsh) (route : OwnedRoute) :
    Fallible.Preserves Tracked (remove netsh route) := by
  intro host htracked
  by_cases howned : route ∈ host.ownedRoutes
  · rcases remove_cases netsh howned with hrun | ⟨-, reason, hrun⟩
    · rw [hrun]
      exact htracked.delete route
    · rw [hrun]
      exact htracked.strand route
  · rwa [remove_foreign netsh howned]

theorem removeAll_tracked (netsh : Netsh) (routes : List OwnedRoute) :
    Fallible.Preserves Tracked (removeAll netsh routes) := by
  induction routes with
  | nil => exact fun _ htracked => htracked
  | cons route rest ih => exact (remove_tracked netsh route).bind fun _ => ih

theorem run_tracked (netsh : Netsh) (order : Finset OwnedRoute → List OwnedRoute)
    (operation : RouteOperation) :
    Fallible.Preserves Tracked (operation.run (routeManager netsh order)) := by
  cases operation with
  | install policy interfaceName =>
      exact RouteManager.install_preserves (inspect_tracked netsh) (add_tracked netsh)
        (remove_tracked netsh) policy interfaceName
  | remove route => exact remove_tracked netsh route
  | removeOwned => exact fun host htracked => removeAll_tracked netsh _ host htracked

theorem tracked_of_reachable (hreach : windowsRuns.Reachable host) : Tracked host := by
  refine hreach.invariant Tracked ?_ ?_
  · rintro _ ⟨table, rfl⟩
    exact .new table
  · rintro host _ - htracked ⟨netsh, order, operation, -, rfl⟩
    exact run_tracked netsh order operation host htracked

/-- In every run in which no deletion fails, the owned routes are those that the process added and
that are still there. -/
theorem owned_iff (hreach : windowsRuns.Reachable host) (hdeletes : host.DeletesSucceeded)
    (route : OwnedRoute) :
    route ∈ host.ownedRoutes ↔ route ∈ host.added ∧ route ∈ host.table := by
  have htracked := tracked_of_reachable hreach
  exact ⟨htracked.owned route, fun ⟨hadded, htable⟩ =>
    htracked.complete hdeletes route hadded htable⟩

theorem order_toList (owned : Finset OwnedRoute) :
    owned.toList.Nodup ∧ owned.toList.toFinset = owned :=
  ⟨owned.nodup_toList, owned.toList_toFinset⟩

/-- One installation of one route. -/
theorem reachable_installed :
    windowsRuns.Reachable ⟨{sampleRoute}, [sampleRoute], {sampleRoute}, []⟩ := by
  have hstart : windowsRuns.Reachable (.new []) := .of_init ⟨[], rfl⟩
  refine hstart.tail ⟨.printing fun _ => false, Finset.toList,
    .install (.controlledTest sampleRoute.destination) "ghost0", order_toList, ?_⟩
  decide +kernel

/-- The route of an installation is owned. -/
theorem owned_installed : ∃ host, windowsRuns.Reachable host ∧ host.DeletesSucceeded ∧
    sampleRoute ∈ host.ownedRoutes := by
  have hnone : DeletesSucceeded ⟨{sampleRoute}, [sampleRoute], {sampleRoute}, []⟩ := by
    simp [DeletesSucceeded]
  exact ⟨_, reachable_installed, hnone,
    (owned_iff reachable_installed hnone sampleRoute).mpr (by simp)⟩

/-- A route whose deletion failed is still there, is no longer owned, and is not deleted by a later
removal of the owned routes. -/
theorem failed_deletion_not_owned : ∃ host, windowsRuns.Reachable host ∧
    sampleRoute ∈ host.added ∧ sampleRoute ∈ host.table ∧ sampleRoute ∉ host.ownedRoutes ∧
    (removeOwned (.printing fun _ => false) Finset.toList host) = (.ok (), host) := by
  refine ⟨⟨∅, [sampleRoute], {sampleRoute}, [.deleteRoute sampleRoute]⟩, ?_, ?_, ?_, ?_, ?_⟩
  · refine reachable_installed.tail ?_
    refine ⟨.printing fun command => command = .deleteRoute sampleRoute, Finset.toList,
      .remove sampleRoute, order_toList, ?_⟩
    decide +kernel
  · simp
  · simp
  · simp
  · simp [removeOwned, removeAll]

end WindowsRouteManager

end Network
