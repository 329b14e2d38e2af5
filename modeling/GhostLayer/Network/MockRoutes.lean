import Mathlib.Data.Finset.Lattice.Lemmas
import GhostLayer.Network.OsRoutingLaws

/-! # Routes of a table in memory

An available manager keeps the routes it was given apart from those it added
itself, whatever policies are installed and however often.
-/

namespace Network

open Foundation

namespace MockRouteManager

variable {manager : MockRouteManager} {route : OwnedRoute}

/-! ## One route -/

/-- Add a route that is missing. -/
def ensure (manager : MockRouteManager) (route : OwnedRoute) : MockRouteManager :=
  if route ∈ manager.routes then manager else manager.own route

theorem mem_ensure {other : OwnedRoute} :
    other ∈ (manager.ensure route).routes ↔ other = route ∨ other ∈ manager.routes := by
  unfold ensure
  split_ifs with hroute
  · refine ⟨.inr, fun hor => hor.elim ?_ id⟩
    rintro rfl
    exact hroute
  · exact Finset.mem_insert

theorem inspect_run (havailable : manager.available = true) :
    inspect route manager = (.ok (manager.contains route), manager) := by
  simp [inspect, havailable]

theorem add_run (havailable : manager.available = true) (hroute : route ∉ manager.routes) :
    add route manager = (.ok (), manager.own route) := by
  have habsent : ¬ manager.contains route = true := by simp [contains, hroute]
  simp [add, havailable, habsent]

/-! ## Installations -/

/-- An available manager goes through all routes. -/
theorem installRoutes_run (routes added : List OwnedRoute) (havailable : manager.available = true) :
    routeManager.installRoutes routes added manager = (.ok (), routes.foldl ensure manager) := by
  induction routes generalizing added manager with
  | nil => rfl
  | cons route rest ih =>
      have hinspect : routeManager.inspect route manager =
          (.ok (manager.contains route), manager) := inspect_run havailable
      rw [List.foldl_cons]
      by_cases hroute : route ∈ manager.routes
      · have hpresent : manager.contains route = true := decide_eq_true hroute
        rw [hpresent] at hinspect
        have hsame : manager.ensure route = manager := if_pos hroute
        rw [RouteManager.installRoutes_present hinspect, hsame]
        exact ih added havailable
      · have habsent : manager.contains route = false := decide_eq_false hroute
        rw [habsent] at hinspect
        have hown : manager.ensure route = manager.own route := if_neg hroute
        rw [RouteManager.installRoutes_add hinspect (add_run havailable hroute), hown]
        exact ih (added ++ [route]) havailable

theorem install_run {policy : RoutingPolicy} {interfaceName : String} {routes : List OwnedRoute}
    (havailable : manager.available = true) (hroutes : policy.routes interfaceName = .ok routes) :
    routeManager.install policy interfaceName manager = (.ok (), routes.foldl ensure manager) := by
  rw [RouteManager.install, hroutes]
  exact installRoutes_run routes [] havailable

/-- A policy that is refused changes nothing. -/
theorem install_refused {policy : RoutingPolicy} {interfaceName : String} {reason : RouteError}
    (hroutes : policy.routes interfaceName = .error reason) :
    routeManager.install policy interfaceName manager = (.error reason, manager) := by
  rw [RouteManager.install, hroutes]
  rfl

theorem mem_foldl_ensure {routes : List OwnedRoute} {other : OwnedRoute} :
    other ∈ (routes.foldl ensure manager).routes ↔ other ∈ routes ∨ other ∈ manager.routes := by
  induction routes generalizing manager with
  | nil => simp
  | cons route rest ih =>
      rw [List.foldl_cons, ih, mem_ensure, List.mem_cons]
      tauto

/-- Routes that are all there are not added again. -/
theorem foldl_ensure_of_mem {routes : List OwnedRoute}
    (hpresent : ∀ route ∈ routes, route ∈ manager.routes) :
    routes.foldl ensure manager = manager := by
  induction routes with
  | nil => rfl
  | cons route rest ih =>
      obtain ⟨hroute, hrest⟩ := List.forall_mem_cons.mp hpresent
      rw [List.foldl_cons, ensure, if_pos hroute, ih hrest]

/-! ## Seeded routes and added routes -/

/-- A manager that was given some routes. -/
def seeded (seeds : List OwnedRoute) : MockRouteManager :=
  seeds.foldl (fun manager route => manager.seed route) new

theorem foldl_seed (seeds : List OwnedRoute) (manager : MockRouteManager) :
    (seeds.foldl (fun manager route => manager.seed route) manager).routes =
        seeds.toFinset ∪ manager.routes ∧
      (seeds.foldl (fun manager route => manager.seed route) manager).ownedRoutes =
        manager.ownedRoutes ∧
      (seeds.foldl (fun manager route => manager.seed route) manager).available =
        manager.available := by
  induction seeds generalizing manager with
  | nil => simp
  | cons route rest ih =>
      obtain ⟨hroutes, howned, havailable⟩ := ih (manager.seed route)
      refine ⟨?_, howned, havailable⟩
      rw [List.foldl_cons, hroutes]
      ext other
      simp only [seed, Finset.mem_union, Finset.mem_insert, List.mem_toFinset, List.mem_cons]
      tauto

theorem seeded_spec (seeds : List OwnedRoute) :
    (seeded seeds).routes = seeds.toFinset ∧ (seeded seeds).ownedRoutes = ∅ ∧
      (seeded seeds).available = true := by
  obtain ⟨hroutes, howned, havailable⟩ := foldl_seed seeds new
  have hempty : new.routes = ∅ := rfl
  rw [hempty, Finset.union_empty] at hroutes
  exact ⟨hroutes, howned, havailable⟩

/-- The routes are the seeded ones and, apart from them, the owned ones. -/
structure Extends (seeds : List OwnedRoute) (manager : MockRouteManager) : Prop where
  available : manager.available = true
  routes : manager.routes = seeds.toFinset ∪ manager.ownedRoutes
  apart : Disjoint seeds.toFinset manager.ownedRoutes

variable {seeds : List OwnedRoute}

theorem Extends.seeded (seeds : List OwnedRoute) : Extends seeds (seeded seeds) := by
  obtain ⟨hroutes, howned, havailable⟩ := seeded_spec seeds
  refine ⟨havailable, ?_, ?_⟩
  · rw [hroutes, howned, Finset.union_empty]
  · rw [howned]
    exact Finset.disjoint_empty_right _

theorem Extends.ensure (hextends : Extends seeds manager) (route : OwnedRoute) :
    Extends seeds (manager.ensure route) := by
  unfold MockRouteManager.ensure
  split_ifs with hroute
  · exact hextends
  · refine ⟨hextends.available, ?_, ?_⟩
    · show insert route manager.routes = _ ∪ insert route manager.ownedRoutes
      rw [hextends.routes, Finset.union_insert]
    · refine Finset.disjoint_insert_right.mpr ⟨fun hseed => hroute ?_, hextends.apart⟩
      rw [hextends.routes]
      exact Finset.mem_union_left _ hseed

theorem Extends.foldl_ensure (hextends : Extends seeds manager) (routes : List OwnedRoute) :
    Extends seeds (routes.foldl MockRouteManager.ensure manager) := by
  induction routes generalizing manager with
  | nil => exact hextends
  | cons route rest ih => exact ih (hextends.ensure route)

/-- Install some policies, each on its interface, whether they are accepted or not. -/
def installAll (calls : List (RoutingPolicy × String)) (manager : MockRouteManager) :
    MockRouteManager :=
  calls.foldl (fun manager call => (routeManager.install call.1 call.2 manager).2) manager

theorem installAll_cons (call : RoutingPolicy × String) (rest : List (RoutingPolicy × String)) :
    installAll (call :: rest) manager =
      installAll rest (routeManager.install call.1 call.2 manager).2 :=
  List.foldl_cons ..

theorem Extends.install (hextends : Extends seeds manager) (call : RoutingPolicy × String) :
    Extends seeds (routeManager.install call.1 call.2 manager).2 := by
  cases hroutes : call.1.routes call.2 with
  | error reason => rwa [install_refused hroutes]
  | ok routes =>
      rw [install_run hextends.available hroutes]
      exact hextends.foldl_ensure routes

theorem Extends.installAll (hextends : Extends seeds manager)
    (calls : List (RoutingPolicy × String)) :
    Extends seeds (MockRouteManager.installAll calls manager) := by
  induction calls generalizing manager with
  | nil => exact hextends
  | cons call rest ih =>
      rw [installAll_cons]
      exact ih (hextends.install call)

theorem Extends.mem_install (hextends : Extends seeds manager) (call : RoutingPolicy × String)
    (hroute : route ∈ manager.routes) :
    route ∈ (routeManager.install call.1 call.2 manager).2.routes := by
  cases hroutes : call.1.routes call.2 with
  | error reason => rwa [install_refused hroutes]
  | ok routes =>
      rw [install_run hextends.available hroutes]
      exact mem_foldl_ensure.mpr (.inr hroute)

/-- Installations take no route away. -/
theorem Extends.mem_installAll (hextends : Extends seeds manager)
    (calls : List (RoutingPolicy × String)) (hroute : route ∈ manager.routes) :
    route ∈ (MockRouteManager.installAll calls manager).routes := by
  induction calls generalizing manager with
  | nil => exact hroute
  | cons call rest ih =>
      have hinstalled := hextends.mem_install call hroute
      rw [installAll_cons]
      exact ih (hextends.install call) hinstalled

/-- Removing the owned routes goes back to the seeded manager. -/
theorem Extends.removeOwned (hextends : Extends seeds manager) :
    routeManager.removeOwned manager = (.ok (), MockRouteManager.seeded seeds) := by
  obtain ⟨hroutes, howned, havailable⟩ := seeded_spec seeds
  have hrest : manager.routes \ manager.ownedRoutes = seeds.toFinset := by
    rw [hextends.routes, Finset.union_sdiff_right]
    exact Finset.sdiff_eq_self_of_disjoint hextends.apart
  refine Prod.ext rfl ?_
  show MockRouteManager.mk _ _ _ _ = MockRouteManager.mk _ _ _ _
  congr 1
  · exact hrest.trans hroutes.symm
  · exact howned.symm
  · exact hextends.available.trans havailable.symm

/-- After any installations, the routes of each installed policy and all seeded routes are there,
every accepted policy can be installed, again without any change, and removing the owned routes
leaves the seeded ones. -/
theorem installAll_laws (seeds : List OwnedRoute) (calls : List (RoutingPolicy × String)) :
    (∀ before policy interfaceName after, calls = before ++ (policy, interfaceName) :: after →
      (routeManager.install policy interfaceName (installAll before (seeded seeds))).1 = .ok () →
      (∃ routes, policy.routes interfaceName = .ok routes ∧
        ∀ route ∈ routes, route ∈ (installAll calls (seeded seeds)).routes) ∧
      routeManager.install policy interfaceName (installAll calls (seeded seeds)) =
        (.ok (), installAll calls (seeded seeds))) ∧
    (∀ policy interfaceName routes, policy.routes interfaceName = .ok routes →
      (routeManager.install policy interfaceName (installAll calls (seeded seeds))).1 = .ok ()) ∧
    (∀ route ∈ seeds, route ∈ (installAll calls (seeded seeds)).routes) ∧
    routeManager.removeOwned (installAll calls (seeded seeds)) = (.ok (), seeded seeds) ∧
    (seeded seeds).routes = seeds.toFinset := by
  have hextends := (Extends.seeded seeds).installAll calls
  refine ⟨fun before policy interfaceName after hcalls hok => ?_,
    fun policy interfaceName routes hroutes => ?_, fun route hroute => ?_, hextends.removeOwned,
    (seeded_spec seeds).1⟩
  · have hbefore := (Extends.seeded seeds).installAll before
    cases hroutes : policy.routes interfaceName with
    | error reason =>
        rw [install_refused hroutes] at hok
        cases hok
    | ok routes =>
        have hpresent : ∀ route ∈ routes, route ∈ (installAll calls (seeded seeds)).routes := by
          intro route hroute
          have hinstalled := hbefore.install (policy, interfaceName)
          rw [hcalls, installAll, List.foldl_append, List.foldl_cons]
          refine hinstalled.mem_installAll after ?_
          rw [install_run hbefore.available hroutes]
          exact mem_foldl_ensure.mpr (.inl hroute)
        refine ⟨⟨routes, rfl, hpresent⟩, ?_⟩
        rw [install_run hextends.available hroutes, foldl_ensure_of_mem hpresent]
  · rw [install_run hextends.available hroutes]
  · rw [hextends.routes]
    exact Finset.mem_union_left _ (List.mem_toFinset.mpr hroute)

end MockRouteManager

end Network
