import Mathlib.Data.Finset.Basic
import GhostLayer.Network.Prefix

/-! # Routes of the operating system

A policy names the prefixes that a node routes into its interface. A manager
looks for each of them, adds those that are missing and remembers which ones it
added. One manager keeps its table in memory. The other runs `netsh`, whose
answers are given: what it prints, and which of its commands fail.
-/

namespace Network

open Foundation

/-! ## Texts of prefixes -/

namespace IpAddr

/-- A run of segments. -/
structure Span where
  start : Nat
  length : Nat

/-- The longest run of zeros, the first of several. -/
def longestZeros : List Nat → Nat → Span → Span → Span
  | [], _, _, longest => longest
  | segment :: rest, index, current, longest =>
      if segment = 0 then
        let current : Span := ⟨if current.length = 0 then index else current.start,
          current.length + 1⟩
        longestZeros rest (index + 1) current
          (if current.length > longest.length then current else longest)
      else longestZeros rest (index + 1) ⟨0, 0⟩ longest

def segments (octets : Vector UInt8 16) : List Nat :=
  (List.finRange 8).map fun index =>
    256 * octets[2 * index.val].toNat + octets[2 * index.val + 1].toNat

def dotted (octets : List UInt8) : List Char :=
  ['.'].intercalate (octets.map fun octet => Nat.toDigits 10 octet.toNat)

def colons (segments : List Nat) : List Char :=
  [':'].intercalate (segments.map (Nat.toDigits 16))

/-- An address as it is printed. IPv4 addresses inside IPv6 keep their dots, and the longest run of
at least two zero segments is left out. -/
def text : IpAddr → String
  | .v4 octets => .ofList (dotted octets.toList)
  | .v6 octets =>
      if (segments octets).take 6 = [0, 0, 0, 0, 0, 0xffff] then
        .ofList ("::ffff:".toList ++ dotted (octets.toList.drop 12))
      else
        let zeroes := longestZeros (segments octets) 0 ⟨0, 0⟩ ⟨0, 0⟩
        if zeroes.length > 1 then
          .ofList (colons ((segments octets).take zeroes.start) ++ "::".toList ++
            colons ((segments octets).drop (zeroes.start + zeroes.length)))
        else .ofList (colons (segments octets))

end IpAddr

def IpPrefix.text (network : IpPrefix) : String :=
  .ofList (network.address.text.toList ++ '/' :: Nat.toDigits 10 network.prefixLength.toNat)

/-! ## Policies -/

structure OwnedRoute where
  destination : IpPrefix
  interfaceName : String
  deriving DecidableEq

inductive RoutingPolicy where
  | disabled
  | explicit (prefixes : List IpPrefix)
  | controlledTest (network : IpPrefix)
  deriving DecidableEq

namespace RoutingPolicy

/-- Collect the routes of an interface, each destination once. -/
def collect (interfaceName : String) :
    List IpPrefix → List OwnedRoute → Except RouteError (List OwnedRoute)
  | [], routes => .ok routes
  | destination :: rest, routes => do
      Check.failWhen (routes.any fun route => route.destination = destination) .duplicateRoute
      collect interfaceName rest (routes ++ [⟨destination, interfaceName⟩])

def routes (policy : RoutingPolicy) (interfaceName : String) :
    Except RouteError (List OwnedRoute) := do
  Check.failWhen (trim interfaceName = "") .invalidInterface
  match policy with
  | disabled => .ok []
  | explicit prefixes => collect interfaceName prefixes []
  | controlledTest network => collect interfaceName [network] []

end RoutingPolicy

/-! ## Managers -/

/-- The operations of a manager over its state and the routes of the system. -/
structure RouteManager (σ : Type) where
  inspect : OwnedRoute → Fallible σ RouteError Bool
  add : OwnedRoute → Fallible σ RouteError Unit
  remove : OwnedRoute → Fallible σ RouteError Unit
  removeOwned : Fallible σ RouteError Unit

namespace RouteManager

variable {σ : Type} (manager : RouteManager σ)

/-- Remove routes, going on when one of them cannot be removed. -/
def rollBack : List OwnedRoute → Fallible σ RouteError Unit
  | [] => pure ()
  | installed :: rest => do
      let _ ← Fallible.attempt (manager.remove installed)
      rollBack rest

/-- A failing addition is rolled back, a failing inspection is not. -/
def installRoutes : List OwnedRoute → List OwnedRoute → Fallible σ RouteError Unit
  | [], _ => pure ()
  | route :: rest, added => do
      if ← manager.inspect route then
        installRoutes rest added
      else
        match ← Fallible.attempt (manager.add route) with
        | .ok () => installRoutes rest (added ++ [route])
        | .error error => do
            manager.rollBack added.reverse
            Fallible.throw error

def install (policy : RoutingPolicy) (interfaceName : String) : Fallible σ RouteError Unit := do
  let routes ← Fallible.ofExcept (policy.routes interfaceName)
  manager.installRoutes routes []

end RouteManager

/-! ## A table in memory -/

/-- The owned routes are routes of the table. -/
structure MockRouteManager where
  routes : Finset OwnedRoute
  ownedRoutes : Finset OwnedRoute
  available : Bool
  owned : ownedRoutes ⊆ routes

namespace MockRouteManager

def new : MockRouteManager := ⟨∅, ∅, true, Finset.Subset.refl _⟩

def setAvailable (available : Bool) (manager : MockRouteManager) : MockRouteManager :=
  { manager with available }

def seed (route : OwnedRoute) (manager : MockRouteManager) : MockRouteManager :=
  { manager with
    routes := insert route manager.routes
    owned := manager.owned.trans (Finset.subset_insert _ _) }

def contains (manager : MockRouteManager) (route : OwnedRoute) : Bool := route ∈ manager.routes

def unavailable : RouteError := .routeUnavailable "mock route manager unavailable"

def inspect (route : OwnedRoute) : Fallible MockRouteManager RouteError Bool := do
  let manager ← Fallible.get
  Fallible.failWhen (¬ manager.available) unavailable
  return manager.contains route

def own (route : OwnedRoute) (manager : MockRouteManager) : MockRouteManager :=
  { manager with
    routes := insert route manager.routes
    ownedRoutes := insert route manager.ownedRoutes
    owned := Finset.insert_subset_insert _ manager.owned }

def add (route : OwnedRoute) : Fallible MockRouteManager RouteError Unit := do
  let manager ← Fallible.get
  Fallible.failWhen (¬ manager.available) unavailable
  Fallible.failWhen (manager.contains route) .duplicateRoute
  Fallible.modify (own route)

def disown (route : OwnedRoute) (manager : MockRouteManager) : MockRouteManager :=
  { manager with
    routes := manager.routes.erase route
    ownedRoutes := manager.ownedRoutes.erase route
    owned := Finset.erase_subset_erase _ manager.owned }

def remove (route : OwnedRoute) : Fallible MockRouteManager RouteError Unit :=
  Fallible.modify fun manager =>
    if route ∈ manager.ownedRoutes then manager.disown route else manager

def removeOwned : Fallible MockRouteManager RouteError Unit :=
  Fallible.modify fun manager =>
    { manager with
      routes := manager.routes \ manager.ownedRoutes
      ownedRoutes := ∅
      owned := Finset.empty_subset _ }

def routeManager : RouteManager MockRouteManager where
  inspect := inspect
  add := add
  remove := remove
  removeOwned := removeOwned

end MockRouteManager

/-! ## The routes of Windows -/

inductive Family where
  | ipv4
  | ipv6
  deriving DecidableEq

/-- What `netsh` is asked to do, and for which route. -/
inductive NetshCommand where
  | showRoute (route : OwnedRoute)
  | addRoute (route : OwnedRoute)
  | deleteRoute (route : OwnedRoute)
  deriving DecidableEq

/-- How a command ended. The lines of the standard output are apart. -/
structure Output where
  success : Bool
  stdout : List String
  stderr : String

/-- The answers of `netsh` during one operation, in which no command is given twice. A command that
could not be started leaves the text of the failure. -/
structure Netsh where
  output : NetshCommand → List OwnedRoute → Except String Output

/-- A manager and the table of the system it works on, with the routes that it ever added to the
table and the commands that have failed. -/
structure WindowsRouteManager where
  ownedRoutes : Finset OwnedRoute
  table : List OwnedRoute
  added : Finset OwnedRoute
  failed : List NetshCommand
  deriving DecidableEq

namespace WindowsRouteManager

/-- A new manager on a table. -/
def new (table : List OwnedRoute) : WindowsRouteManager := ⟨∅, table, ∅, []⟩

def family (route : OwnedRoute) : Family :=
  if route.destination.address.isIpv4 then .ipv4 else .ipv6

/-- What a command does to the table when it succeeds. -/
def carryOut (manager : WindowsRouteManager) : NetshCommand → WindowsRouteManager
  | .showRoute _ => manager
  | .addRoute route => { manager with
      table := manager.table.insert route
      added := insert route manager.added }
  | .deleteRoute route => { manager with table := manager.table.filter (· ≠ route) }

def noteFailure (manager : WindowsRouteManager) (command : NetshCommand) : WindowsRouteManager :=
  { manager with failed := command :: manager.failed }

def own (route : OwnedRoute) (manager : WindowsRouteManager) : WindowsRouteManager :=
  { manager with ownedRoutes := insert route manager.ownedRoutes }

def disown (route : OwnedRoute) (manager : WindowsRouteManager) : WindowsRouteManager :=
  { manager with ownedRoutes := manager.ownedRoutes.erase route }

variable (netsh : Netsh)

def runNetsh (command : NetshCommand) : Fallible WindowsRouteManager RouteError Output :=
  fun manager =>
    match netsh.output command manager.table with
    | .error error => (.error (.routeOperationFailed error), manager.noteFailure command)
    | .ok output =>
        (.ok output, if output.success then manager.carryOut command
          else manager.noteFailure command)

/-- Run a command, a failing status being an error. -/
def runChecked (command : NetshCommand) : Fallible WindowsRouteManager RouteError Output := do
  let output ← runNetsh netsh command
  Fallible.failWhen (¬ output.success) (.routeOperationFailed (trim output.stderr))
  return output

/-- A line of the output has the texts of the prefix and of the interface somewhere in it. -/
def listed (route : OwnedRoute) (lines : List String) : Bool :=
  lines.any fun line =>
    Network.contains line route.destination.text && Network.contains line route.interfaceName

def inspect (route : OwnedRoute) : Fallible WindowsRouteManager RouteError Bool := do
  let output ← runChecked netsh (.showRoute route)
  return listed route output.stdout

def add (route : OwnedRoute) : Fallible WindowsRouteManager RouteError Unit := do
  let _ ← runChecked netsh (.addRoute route)
  Fallible.modify (own route)

/-- The route is no longer owned when the command is given. -/
def remove (route : OwnedRoute) : Fallible WindowsRouteManager RouteError Unit := do
  let manager ← Fallible.get
  if route ∉ manager.ownedRoutes then return
  Fallible.modify (disown route)
  let _ ← runChecked netsh (.deleteRoute route)

def removeAll : List OwnedRoute → Fallible WindowsRouteManager RouteError Unit
  | [] => pure ()
  | route :: rest => do
      remove netsh route
      removeAll rest

/-- The routes come in the order in which the set is iterated. -/
def removeOwned (order : Finset OwnedRoute → List OwnedRoute) :
    Fallible WindowsRouteManager RouteError Unit := do
  let manager ← Fallible.get
  removeAll netsh (order manager.ownedRoutes)

def routeManager (order : Finset OwnedRoute → List OwnedRoute) :
    RouteManager WindowsRouteManager where
  inspect := inspect netsh
  add := add netsh
  remove := remove netsh
  removeOwned := removeOwned netsh order

end WindowsRouteManager

end Network
