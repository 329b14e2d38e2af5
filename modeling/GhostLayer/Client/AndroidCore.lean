import Mathlib.Data.Finset.Option
import GhostLayer.Foundation.Interleaving
import GhostLayer.Network.ConfigLaws
import GhostLayer.Network.Reference

/-! # The core of the client in an app for Android

A service of the platform establishes a TUN interface and hands its descriptor to
the core, which duplicates it and runs threads on the duplicates: one that reads,
one that writes, and one that loads a configuration and is to run the tunnel loop.
The service takes its commands one after the other; the threads run beside it.
-/

namespace Client

open Foundation Network

namespace AndroidCore

/-! ## The process of the app -/

/-- What is shared by the service and the threads of all cores. -/
structure AppProcess where
  /-- `RUNNING`. -/
  running : Bool
  openFds : Finset Nat
  tunInterface : Option Nat
  /-- Interfaces that the service has forgotten. The platform closes them at some time. -/
  forgotten : Finset Nat
  environment : Environment

/-- The thread that is to run the tunnel loop. -/
inductive Engine where
  | waiting
  | configured
  | serving (config : NodeConfig)
  | failed (error : ConfigError)

/-- A command to the service, and the core that it starts. -/
inductive Core where
  | idle
  /-- A command that starts no core. -/
  | ignored
  | stopped
  | duplicating (fd : Nat)
  | halfway (fd : Nat) (fdRead : Option Nat)
  /-- One of the duplicates is missing, and nobody closes the other. -/
  | leaking (fdRead fdWrite : Option Nat)
  /-- The descriptors of the threads that run. -/
  | started (reader writer : Option Nat) (engine : Engine)

inductive Event where
  /-- The descriptor of the new interface, if it can be established. -/
  | start (established : Option Nat)
  | stop
  | collect (fd : Nat)
  /-- The duplicate, if there can be one. -/
  | duplicate (copy : Option Nat)
  | configure
  | load
  /-- The reader goes on, unless it cannot read, or print, a packet. -/
  | read (fails : Bool)
  /-- The channel of the writer is closed. -/
  | finish

section Routine

/-- The variables that a core sets. -/
def injected : List (String × String) := [
  (Key.nodeId, "android-client-1"),
  (Key.listenAddress, "/ip4/0.0.0.0/udp/0/quic-v1"),
  (Key.advertisedAddress, "/ip4/10.0.2.2/udp/0/quic-v1"),
  (Key.networkEnvironment, "development"),
  (Key.relayRole, "client"),
  (Key.logLevel, "info"),
  (Key.identityPath, "/data/data/com.example.magicblock_app/files/ghost-layer.key"),
  (Key.bootstrapPeers, "/ip4/10.0.2.2/udp/7000/quic-v1/p2p/" ++
    "12D3KooWF9mfD7d2VEabciAStgdfiSA1pXi5rcyYmpSne2aXyDN6"),
  (Key.connectionTimeoutSecs, "30"),
  (Key.heartbeatIntervalSecs, "10"),
  (Key.heartbeatFreshnessSecs, "60"),
  (Key.degradedLatencyMs, "500"),
  (Key.softwareVersion, "0.1.0"),
  (Key.protocolVersion, "1.0"),
  (Key.discoveryRequiredTransport, "quic"),
  (Key.discoveryRequiredCapabilities, "relay"),
  (Key.routeMode, "one-hop")]

def setVariables (environment : Environment) : Environment :=
  injected.foldl (fun values entry => Function.update values entry.1 (some entry.2)) environment

/-- The service establishes an interface in the place of the one that it has. -/
def AppProcess.establish (established : Option Nat) (app : AppProcess) : AppProcess :=
  { app with
    openFds := app.openFds ∪ established.toFinset
    forgotten := app.forgotten ∪ app.tunInterface.toFinset
    tunInterface := established }

def AppProcess.close (fd : Nat) (app : AppProcess) : AppProcess :=
  { app with openFds := app.openFds.erase fd }

def AppProcess.duplicated (copy : Option Nat) (app : AppProcess) : AppProcess :=
  { app with openFds := app.openFds ∪ copy.toFinset }

/-- Descriptors are numbers that are not in use. -/
def AppProcess.Fresh (app : AppProcess) (fd : Option Nat) : Prop :=
  ∀ number ∈ fd, number ∉ app.openFds

instance (app : AppProcess) (fd : Option Nat) : Decidable (app.Fresh fd) :=
  inferInstanceAs (Decidable (∀ number ∈ fd, number ∉ app.openFds))

/-- What an open descriptor can be duplicated to. -/
def AppProcess.Duplicates (app : AppProcess) (fd : Nat) (copy : Option Nat) : Prop :=
  app.Fresh copy ∧ (copy ≠ none → fd ∈ app.openFds)

instance (app : AppProcess) (fd : Nat) (copy : Option Nat) : Decidable (app.Duplicates fd copy) :=
  inferInstanceAs (Decidable (_ ∧ _))

/-- Both duplicates have to be there. -/
def opened : Option Nat → Option Nat → Core
  | some fdRead, some fdWrite => .started fdRead fdWrite .waiting
  | fdRead, fdWrite => .leaking fdRead fdWrite

/-- `startCore`. -/
def startCore (fd : Nat) (app : AppProcess) : AppProcess × Core :=
  if app.running = true then (app, .ignored)
  else ({ app with running := true }, .duplicating fd)

variable (ext : Externals) (parseIp : String → Option IpAddr)
  (parseMultiaddr : String → Option Multiaddr)

def loaded (environment : Environment) : Engine :=
  match NodeConfig.fromMap ext parseIp parseMultiaddr environment with
  | .ok config => .serving config
  | .error error => .failed error

/-- What comes of an event, where it can come. -/
def advance (app : AppProcess) : Core → Event → Option (AppProcess × Core)
  | .idle, .start established =>
      if app.Fresh established then
        match established with
        | none => some (app.establish none, .ignored)
        | some fd => some (startCore fd (app.establish (some fd)))
      else none
  | .idle, .stop =>
      some ({ app with
        running := false
        openFds := app.openFds \ app.tunInterface.toFinset
        tunInterface := none }, .stopped)
  | .idle, .collect fd =>
      if fd ∈ app.forgotten then
        some ({ app.close fd with forgotten := app.forgotten.erase fd }, .ignored)
      else none
  | .duplicating fd, .duplicate copy =>
      if app.Duplicates fd copy then some (app.duplicated copy, .halfway fd copy) else none
  | .halfway fd fdRead, .duplicate copy =>
      if app.Duplicates fd copy then some (app.duplicated copy, opened fdRead copy) else none
  | .started reader writer .waiting, .configure =>
      some ({ app with environment := setVariables app.environment },
        .started reader writer .configured)
  | .started reader writer .configured, .load =>
      some (app, .started reader writer (loaded ext parseIp parseMultiaddr app.environment))
  | .started (some fd) writer engine, .read fails =>
      if app.running = false ∨ fails = true then some (app.close fd, .started none writer engine)
      else some (app, .started (some fd) writer engine)
  | .started reader (some fd) (.failed error), .finish =>
      some (app.close fd, .started reader none (.failed error))
  | _, _ => none

def routine : Routine AppProcess Core :=
  .driven (· = .idle) (fun _ : Event => True)
    fun event app core => advance ext parseIp parseMultiaddr app core event

/-- A process in which the service has not been started yet. -/
def run : System (Interleaved Nat AppProcess Core) :=
  (routine ext parseIp parseMultiaddr).interleaved Nat
    fun app => app.running = false ∧ app.tunInterface = none ∧ app.forgotten = ∅

end Routine

/-! ## The configuration -/

section Refused

variable {ext : Externals} {parseIp : String → Option IpAddr}
  {parseMultiaddr : String → Option Multiaddr} {environment : Environment}

variable (environment) in
theorem setVariables_relayRole : setVariables environment Key.relayRole = some "client" := by
  simp [setVariables, injected, Function.update, Key.relayRole, Key.logLevel, Key.identityPath,
    Key.bootstrapPeers, Key.connectionTimeoutSecs, Key.heartbeatIntervalSecs,
    Key.heartbeatFreshnessSecs, Key.degradedLatencyMs, Key.softwareVersion, Key.protocolVersion,
    Key.discoveryRequiredTransport, Key.discoveryRequiredCapabilities, Key.routeMode]

/-- A relay has another role than a client. -/
theorem loaded_refused (hrole : environment Key.relayRole = some "client") :
    ∃ error, loaded ext parseIp parseMultiaddr environment = .failed error := by
  rw [loaded]
  cases hread : NodeConfig.fromMap ext parseIp parseMultiaddr environment with
  | error error => exact ⟨error, rfl⟩
  | ok config =>
      have hparsed := NodeConfig.relayRole_of_readFields (NodeConfig.fromMap_eq_ok.mp hread).1
      rw [parseOrDefault, hrole] at hparsed
      have hnone : RelayRole.fromStr "client" = .error (.invalid Key.relayRole "client") := by
        decide
      exact absurd (hnone.symm.trans hparsed) nofun

end Refused

/-! ## What a core does -/

section Moves

variable {ext : Externals} {parseIp : String → Option IpAddr}
  {parseMultiaddr : String → Option Multiaddr} {app app' : AppProcess} {core core' : Core}

/-- What an event can do. -/
inductive Move (load : Environment → Engine) (app : AppProcess) : Core → AppProcess → Core → Prop
  | ignored (established : Option Nat) (fresh : app.Fresh established)
      (running : established ≠ none → app.running = true) :
      Move load app .idle (app.establish established) .ignored
  | begins (fd : Nat) (fresh : app.Fresh (some fd)) (idle : app.running = false) :
      Move load app .idle { app.establish (some fd) with running := true } (.duplicating fd)
  | stops : Move load app .idle { app with
      running := false
      openFds := app.openFds \ app.tunInterface.toFinset
      tunInterface := none } .stopped
  | collects (fd : Nat) (forgotten : fd ∈ app.forgotten) :
      Move load app .idle { app.close fd with forgotten := app.forgotten.erase fd } .ignored
  | duplicatesFirst (fd : Nat) (copy : Option Nat) (duplicates : app.Duplicates fd copy) :
      Move load app (.duplicating fd) (app.duplicated copy) (.halfway fd copy)
  | duplicatesSecond (fd : Nat) (fdRead copy : Option Nat) (duplicates : app.Duplicates fd copy) :
      Move load app (.halfway fd fdRead) (app.duplicated copy) (opened fdRead copy)
  | configures (reader writer : Option Nat) :
      Move load app (.started reader writer .waiting)
        { app with environment := setVariables app.environment }
        (.started reader writer .configured)
  | loads (reader writer : Option Nat) :
      Move load app (.started reader writer .configured) app
        (.started reader writer (load app.environment))
  | reads (reader writer : Option Nat) (engine : Engine) :
      Move load app (.started reader writer engine) app (.started reader writer engine)
  | closesReader (fd : Nat) (writer : Option Nat) (engine : Engine) :
      Move load app (.started (some fd) writer engine) (app.close fd)
        (.started none writer engine)
  | closesWriter (reader : Option Nat) (fd : Nat) (error : ConfigError) :
      Move load app (.started reader (some fd) (.failed error)) (app.close fd)
        (.started reader none (.failed error))

theorem startCore_move {fd : Nat} {load : Environment → Engine} (hfresh : app.Fresh (some fd)) :
    Move load app .idle (startCore fd (app.establish (some fd))).1
      (startCore fd (app.establish (some fd))).2 := by
  unfold startCore
  by_cases hrunning : app.running = true
  · rw [if_pos (show (app.establish (some fd)).running = true from hrunning)]
    exact .ignored _ hfresh fun _ => hrunning
  · rw [if_neg (show ¬ (app.establish (some fd)).running = true from hrunning)]
    exact .begins fd hfresh (Bool.not_eq_true _ ▸ hrunning)

theorem move_of_advance {event : Event}
    (hadvance : advance ext parseIp parseMultiaddr app core event = some (app', core')) :
    Move (loaded ext parseIp parseMultiaddr) app core app' core' := by
  unfold advance at hadvance
  split at hadvance
  · rename_i established
    obtain ⟨hfresh, hnext⟩ := Option.ite_none_right_eq_some.mp hadvance
    cases established with
    | none =>
        cases hnext
        exact .ignored none hfresh nofun
    | some fd =>
        obtain ⟨rfl, rfl⟩ := Prod.ext_iff.mp (Option.some.inj hnext)
        exact startCore_move hfresh
  · cases hadvance
    exact .stops
  · obtain ⟨hforgotten, hnext⟩ := Option.ite_none_right_eq_some.mp hadvance
    cases hnext
    exact .collects _ hforgotten
  · obtain ⟨hduplicates, hnext⟩ := Option.ite_none_right_eq_some.mp hadvance
    cases hnext
    exact .duplicatesFirst _ _ hduplicates
  · obtain ⟨hduplicates, hnext⟩ := Option.ite_none_right_eq_some.mp hadvance
    cases hnext
    exact .duplicatesSecond _ _ _ hduplicates
  · cases hadvance
    exact .configures _ _
  · cases hadvance
    exact .loads _ _
  · split_ifs at hadvance
    · cases hadvance
      exact .closesReader _ _ _
    · cases hadvance
      exact .reads _ _ _
  · cases hadvance
    exact .closesWriter _ _ _
  · cases hadvance

end Moves

/-! ## Who closes a descriptor -/

section Descriptors

variable {app app' : AppProcess} {core core' : Core} {load : Environment → Engine}

/-- The descriptors that only the threads of a core use, and close. -/
def Core.Owns (fd : Nat) : Core → Prop
  | .halfway _ fdRead => fd ∈ fdRead
  | .leaking fdRead fdWrite => fd ∈ fdRead ∨ fd ∈ fdWrite
  | .started reader writer _ => fd ∈ reader ∨ fd ∈ writer
  | .idle | .ignored | .stopped | .duplicating _ => False

instance (fd : Nat) : (core : Core) → Decidable (core.Owns fd)
  | .halfway _ fdRead => inferInstanceAs (Decidable (fd ∈ fdRead))
  | .leaking fdRead fdWrite => inferInstanceAs (Decidable (fd ∈ fdRead ∨ fd ∈ fdWrite))
  | .started reader writer _ => inferInstanceAs (Decidable (fd ∈ reader ∨ fd ∈ writer))
  | .idle | .ignored | .stopped | .duplicating _ => .isFalse id

/-- Each thread of a core has a descriptor of its own. -/
def Core.Single : Core → Prop
  | .leaking fdRead fdWrite => ∀ fd ∈ fdRead, fd ∉ fdWrite
  | .started reader writer _ => ∀ fd ∈ reader, fd ∉ writer
  | .idle | .ignored | .stopped | .duplicating _ | .halfway .. => True

/-- The service has its interface, and what it has forgotten is still open. -/
structure Serviced (app : AppProcess) : Prop where
  tunInterface : ∀ fd ∈ app.tunInterface, fd ∈ app.openFds ∧ fd ∉ app.forgotten
  forgotten : app.forgotten ⊆ app.openFds

/-- A descriptor that the service has no part in. -/
structure AppProcess.Private (app : AppProcess) (fd : Nat) : Prop where
  openFds : fd ∈ app.openFds
  tunInterface : fd ∉ app.tunInterface
  forgotten : fd ∉ app.forgotten

structure Owned (app : AppProcess) (core : Core) : Prop where
  owns : ∀ fd, core.Owns fd → app.Private fd
  single : core.Single

/-- What a core has configured, no relay starts with. -/
def Unserved (app : AppProcess) : Core → Prop
  | .started _ _ .configured => app.environment Key.relayRole = some "client"
  | .started _ _ (.serving _) => False
  | _ => True

def Apart (first second : Core) : Prop := ∀ fd, first.Owns fd → ¬ second.Owns fd

theorem owns_opened {fdRead fdWrite : Option Nat} {fd : Nat} :
    (opened fdRead fdWrite).Owns fd ↔ fd ∈ fdRead ∨ fd ∈ fdWrite := by
  cases fdRead <;> cases fdWrite <;> rfl

theorem single_opened {fdRead fdWrite : Option Nat} :
    (opened fdRead fdWrite).Single ↔ ∀ fd ∈ fdRead, fd ∉ fdWrite := by
  cases fdRead <;> cases fdWrite <;> rfl

theorem Serviced.establish {established : Option Nat} (hserviced : Serviced app)
    (hfresh : app.Fresh established) : Serviced (app.establish established) where
  tunInterface fd hfd := by
    have hunused := hfresh fd hfd
    refine ⟨Finset.mem_union_right _ (Option.mem_toFinset.mpr hfd), fun hforgotten => ?_⟩
    rcases Finset.mem_union.mp hforgotten with hold | hreplaced
    · exact hunused (hserviced.forgotten hold)
    · exact hunused (hserviced.tunInterface fd (Option.mem_toFinset.mp hreplaced)).1
  forgotten := by
    refine Finset.union_subset (hserviced.forgotten.trans Finset.subset_union_left) ?_
    intro fd hreplaced
    exact Finset.mem_union_left _ (hserviced.tunInterface fd (Option.mem_toFinset.mp hreplaced)).1

theorem Serviced.duplicated {copy : Option Nat} (hserviced : Serviced app) :
    Serviced (app.duplicated copy) where
  tunInterface fd hfd :=
    ⟨Finset.mem_union_left _ (hserviced.tunInterface fd hfd).1, (hserviced.tunInterface fd hfd).2⟩
  forgotten := hserviced.forgotten.trans Finset.subset_union_left

theorem Serviced.close {fd : Nat} (hserviced : Serviced app) (hprivate : app.Private fd) :
    Serviced (app.close fd) where
  tunInterface other hother := by
    have hne : other ≠ fd := by
      rintro rfl
      exact hprivate.tunInterface hother
    exact ⟨Finset.mem_erase.mpr ⟨hne, (hserviced.tunInterface other hother).1⟩,
      (hserviced.tunInterface other hother).2⟩
  forgotten other hother := by
    have hne : other ≠ fd := by
      rintro rfl
      exact hprivate.forgotten hother
    exact Finset.mem_erase.mpr ⟨hne, hserviced.forgotten hother⟩

theorem Move.serviced (howned : Owned app core) (hserviced : Serviced app)
    (hmove : Move load app core app' core') : Serviced app' := by
  cases hmove with
  | ignored established fresh running => exact hserviced.establish fresh
  | begins fd fresh idle => exact { hserviced.establish fresh with }
  | stops =>
      refine ⟨nofun, fun fd hforgotten => Finset.mem_sdiff.mpr
        ⟨hserviced.forgotten hforgotten, fun hclosed => ?_⟩⟩
      exact (hserviced.tunInterface fd (Option.mem_toFinset.mp hclosed)).2 hforgotten
  | collects fd forgotten =>
      refine ⟨fun other hother => ?_, Finset.erase_subset_erase _ hserviced.forgotten⟩
      obtain ⟨hopen, hkept⟩ := hserviced.tunInterface other hother
      have hne : other ≠ fd := by
        rintro rfl
        exact hkept forgotten
      exact ⟨Finset.mem_erase.mpr ⟨hne, hopen⟩,
        fun herased => hkept (Finset.mem_of_mem_erase herased)⟩
  | duplicatesFirst | duplicatesSecond => exact hserviced.duplicated
  | closesReader fd writer engine => exact hserviced.close (howned.owns fd (.inl rfl))
  | closesWriter reader fd error => exact hserviced.close (howned.owns fd (.inr rfl))
  | configures | loads | reads => exact { hserviced with }

theorem AppProcess.Private.establish {established : Option Nat} {fd : Nat}
    (hprivate : app.Private fd) (hfresh : app.Fresh established) :
    (app.establish established).Private fd where
  openFds := Finset.mem_union_left _ hprivate.openFds
  tunInterface hestablished := hfresh fd hestablished hprivate.openFds
  forgotten hforgotten := by
    rcases Finset.mem_union.mp hforgotten with hold | hreplaced
    · exact hprivate.forgotten hold
    · exact hprivate.tunInterface (Option.mem_toFinset.mp hreplaced)

theorem AppProcess.Private.duplicated {copy : Option Nat} {fd : Nat} (hprivate : app.Private fd) :
    (app.duplicated copy).Private fd :=
  { hprivate with openFds := Finset.mem_union_left _ hprivate.openFds }

theorem AppProcess.Private.close {fd other : Nat} (hprivate : app.Private fd) (hne : fd ≠ other) :
    (app.close other).Private fd :=
  { hprivate with openFds := Finset.mem_erase.mpr ⟨hne, hprivate.openFds⟩ }

/-- A new descriptor is nobody's. -/
theorem Serviced.private_duplicated {copy : Option Nat} {fd : Nat} (hserviced : Serviced app)
    (hfresh : app.Fresh copy) (hcopy : fd ∈ copy) : (app.duplicated copy).Private fd where
  openFds := Finset.mem_union_right _ (Option.mem_toFinset.mpr hcopy)
  tunInterface hfd := hfresh fd hcopy (hserviced.tunInterface fd hfd).1
  forgotten hfd := hfresh fd hcopy (hserviced.forgotten hfd)

/-- A core leaves the descriptors alone that it does not own. -/
theorem Move.private {fd : Nat} (hprivate : app.Private fd) (hothers : ¬ core.Owns fd)
    (hmove : Move load app core app' core') : app'.Private fd ∧ ¬ core'.Owns fd := by
  cases hmove with
  | ignored established fresh running => exact ⟨hprivate.establish fresh, id⟩
  | begins number fresh idle => exact ⟨{ hprivate.establish fresh with }, id⟩
  | stops =>
      refine ⟨⟨Finset.mem_sdiff.mpr ⟨hprivate.openFds, fun hclosed => ?_⟩, nofun,
        hprivate.forgotten⟩, id⟩
      exact hprivate.tunInterface (Option.mem_toFinset.mp hclosed)
  | collects number forgotten =>
      have hne : fd ≠ number := by
        rintro rfl
        exact hprivate.forgotten forgotten
      exact ⟨⟨Finset.mem_erase.mpr ⟨hne, hprivate.openFds⟩, hprivate.tunInterface,
        fun herased => hprivate.forgotten (Finset.mem_of_mem_erase herased)⟩, id⟩
  | duplicatesFirst number copy duplicates =>
      exact ⟨hprivate.duplicated, fun hcopy => duplicates.1 fd hcopy hprivate.openFds⟩
  | duplicatesSecond number fdRead copy duplicates =>
      refine ⟨hprivate.duplicated, fun howns => ?_⟩
      rcases owns_opened.mp howns with hread | hcopy
      · exact hothers hread
      · exact duplicates.1 fd hcopy hprivate.openFds
  | closesReader number writer engine =>
      have hne : fd ≠ number := by
        rintro rfl
        exact hothers (.inl rfl)
      exact ⟨hprivate.close hne, fun howns => hothers (.inr (howns.resolve_left nofun))⟩
  | closesWriter reader number error =>
      have hne : fd ≠ number := by
        rintro rfl
        exact hothers (.inr rfl)
      exact ⟨hprivate.close hne, fun howns => hothers (.inl (howns.resolve_right nofun))⟩
  | configures | loads => exact ⟨{ hprivate with }, hothers⟩
  | reads => exact ⟨hprivate, hothers⟩

theorem Move.owned (hserviced : Serviced app) (howned : Owned app core)
    (hmove : Move load app core app' core') : Owned app' core' := by
  cases hmove with
  | ignored | begins | stops | collects => exact ⟨nofun, trivial⟩
  | duplicatesFirst number copy duplicates =>
      exact ⟨fun fd hcopy => hserviced.private_duplicated duplicates.1 hcopy, trivial⟩
  | duplicatesSecond number fdRead copy duplicates =>
      refine ⟨fun fd howns => ?_, single_opened.mpr fun fd hread hcopy => ?_⟩
      · rcases owns_opened.mp howns with hread | hcopy
        · exact (howned.owns fd hread).duplicated
        · exact hserviced.private_duplicated duplicates.1 hcopy
      · exact duplicates.1 fd hcopy (howned.owns fd hread).openFds
  | closesReader number writer engine =>
      refine ⟨fun fd howns => ?_, nofun⟩
      have hwriter := howns.resolve_left nofun
      have hne : fd ≠ number := by
        rintro rfl
        exact howned.single fd rfl hwriter
      exact (howned.owns fd (.inr hwriter)).close hne
  | closesWriter reader number error =>
      refine ⟨fun fd howns => ?_, fun _ _ => nofun⟩
      have hreader := howns.resolve_right nofun
      have hne : fd ≠ number := by
        rintro rfl
        exact howned.single fd hreader rfl
      exact (howned.owns fd (.inl hreader)).close hne
  | configures | loads =>
      exact ⟨fun fd howns => { howned.owns fd howns with }, howned.single⟩
  | reads => exact howned

/-- The role is either left as it is, or that of a client. -/
theorem Move.relayRole (hmove : Move load app core app' core') :
    app'.environment = app.environment ∨ app'.environment Key.relayRole = some "client" := by
  cases hmove with
  | configures => exact .inr (setVariables_relayRole app.environment)
  | _ => exact .inl rfl

theorem Unserved.kept (hrole : app'.environment = app.environment ∨
    app'.environment Key.relayRole = some "client") (hunserved : Unserved app core) :
    Unserved app' core := by
  cases core with
  | started reader writer engine =>
      cases engine with
      | configured =>
          rcases hrole with hsame | hclient
          · exact (congrFun hsame _).trans hunserved
          · exact hclient
      | _ => exact hunserved
  | _ => trivial

variable {ext : Externals} {parseIp : String → Option IpAddr}
  {parseMultiaddr : String → Option Multiaddr}

theorem Move.unserved (hunserved : Unserved app core)
    (hmove : Move (loaded ext parseIp parseMultiaddr) app core app' core') :
    Unserved app' core' := by
  cases hmove with
  | ignored | begins | stops | collects | duplicatesFirst => trivial
  | duplicatesSecond number fdRead copy duplicates => cases fdRead <;> cases copy <;> trivial
  | configures => exact setVariables_relayRole app.environment
  | loads =>
      obtain ⟨error, hfailed⟩ := loaded_refused hunserved
      rw [hfailed]
      trivial
  | reads => exact hunserved
  | closesReader fd writer engine => cases engine <;> exact hunserved
  | closesWriter => trivial

def outline : Routine.Outline AppProcess Core where
  shared := Serviced
  own app core := Owned app core ∧ Unserved app core
  apart := Apart

theorem outline_stable : outline.Stable (routine ext parseIp parseMultiaddr) where
  symm _ _ hapart fd hsecond hfirst := hapart fd hfirst hsecond
  own _ _ _ _ hserviced hown hstep := by
    obtain ⟨event, -, hadvance⟩ := hstep
    have hmove := move_of_advance hadvance
    exact ⟨hmove.serviced hown.1 hserviced, hmove.owned hserviced hown.1, hmove.unserved hown.2⟩
  other _ _ _ _ other _ _ hother hapart hstep := by
    obtain ⟨event, -, hadvance⟩ := hstep
    have hmove := move_of_advance hadvance
    have hleft {fd : Nat} (howns : other.Owns fd) :=
      hmove.private (hother.1.owns fd howns) fun hcore => hapart fd hcore howns
    exact ⟨⟨⟨fun fd howns => (hleft howns).1, hother.1.single⟩, hother.2.kept hmove.relayRole⟩,
      fun fd hcore howns => (hleft howns).2 hcore⟩

end Descriptors

/-! ## Runs -/

section Runs

variable {ext : Externals} {parseIp : String → Option IpAddr}
  {parseMultiaddr : String → Option Multiaddr} {before after : Interleaved Nat AppProcess Core}

/-- The service has started the core. -/
def Core.Begun : Core → Prop
  | .idle | .ignored | .stopped => False
  | .duplicating _ | .halfway .. | .leaking .. | .started .. => True

instance : (core : Core) → Decidable core.Begun
  | .idle | .ignored | .stopped => .isFalse id
  | .duplicating _ | .halfway .. | .leaking .. | .started .. => .isTrue trivial

theorem begun_opened {fdRead fdWrite : Option Nat} : (opened fdRead fdWrite).Begun := by
  cases fdRead <;> cases fdWrite <;> trivial

/-- Where a core runs, a command begins no other unless it stops the core. -/
theorem Move.begun {load : Environment → Engine} {app app' : AppProcess} {core core' : Core}
    (hrunning : app.running = true) (hstopped : core' ≠ .stopped)
    (hmove : Move load app core app' core') :
    app'.running = true ∧ (core'.Begun ↔ core.Begun) := by
  cases hmove with
  | begins fd fresh idle => exact absurd (idle.symm.trans hrunning) Bool.false_ne_true
  | stops => exact absurd rfl hstopped
  | duplicatesSecond => exact ⟨hrunning, iff_of_true begun_opened trivial⟩
  | _ => exact ⟨hrunning, Iff.rfl⟩

theorem Move.not_stopped {load : Environment → Engine} {app app' : AppProcess} {core core' : Core}
    (hmove : Move load app core app' core') : core ≠ .stopped := by
  cases hmove <;> nofun

/-- `RUNNING` is set by a core that begins. -/
theorem Move.running {load : Environment → Engine} {app app' : AppProcess} {core core' : Core}
    (hmove : Move load app core app' core') (hrunning : app'.running = true) :
    core'.Begun ∨ app.running = true ∧ (core.Begun → core'.Begun) := by
  cases hmove with
  | begins => exact .inl trivial
  | stops => cases hrunning
  | duplicatesSecond => exact .inl begun_opened
  | _ => exact .inr ⟨hrunning, id⟩

theorem outline_of_reachable (hreach : (run ext parseIp parseMultiaddr).Reachable before) :
    outline.Holds before := by
  refine outline_stable.reachable ?_ ?_ ?_ hreach
  · rintro app ⟨-, htun, hforgotten⟩
    refine ⟨?_, ?_⟩
    · rw [htun]
      nofun
    · rw [hforgotten]
      exact Finset.empty_subset _
  · rintro app core - rfl
    exact ⟨⟨nofun, trivial⟩, trivial⟩
  · rintro first second rfl rfl fd howns
    exact False.elim howns

theorem begun_of_running (hreach : (run ext parseIp parseMultiaddr).Reachable before)
    (hrunning : before.shared.running = true) : ∃ index, (before.process index).Begun := by
  refine Routine.caused (fun app => app.running = true) Core.Begun ?_ ?_ hreach hrunning
  · rintro app ⟨hidle, -⟩ hset
    exact Bool.false_ne_true (hidle.symm.trans hset)
  · rintro app core app' core' ⟨event, -, hadvance⟩ hset
    exact (move_of_advance hadvance).running hset

theorem stopped_stays {index : Nat} (hsteps : (run ext parseIp parseMultiaddr).Steps before after)
    (hstopped : before.process index = .stopped) : after.process index = .stopped := by
  have hstep (state next : Interleaved Nat AppProcess Core)
      (hat : state.process index = .stopped)
      (htaken : (run ext parseIp parseMultiaddr).step state next) :
      next.process index = .stopped := by
    obtain ⟨other, app, core, ⟨event, -, hadvance⟩, rfl⟩ := htaken
    have hne : index ≠ other := by
      rintro rfl
      exact (move_of_advance hadvance).not_stopped hat
    simpa [hne] using hat
  exact System.Steps.preserves hstep hsteps hstopped

/-- Until the next command to stop, the cores stay the same, whatever has become of them. -/
theorem running_stays (hsteps : (run ext parseIp parseMultiaddr).Steps before after)
    (hrunning : before.shared.running = true)
    (hstopped : ∀ index, after.process index = .stopped → before.process index = .stopped) :
    after.shared.running = true ∧
      ∀ index, (after.process index).Begun ↔ (before.process index).Begun := by
  induction hsteps with
  | refl => exact ⟨hrunning, fun _ => Iff.rfl⟩
  | @tail state next hsteps hstep ih =>
      have hlast {index : Nat} (hat : state.process index = .stopped) :
          next.process index = .stopped := stopped_stays (.single hstep) hat
      obtain ⟨hset, hsame⟩ := ih fun index hat => hstopped index (hlast hat)
      obtain ⟨index, app, core, ⟨event, -, hadvance⟩, rfl⟩ := hstep
      have hmove := move_of_advance hadvance
      have hgoes : core ≠ .stopped := by
        rintro rfl
        exact hmove.not_stopped (stopped_stays hsteps (hstopped index (by simp)))
      obtain ⟨hkept, hbegun⟩ := hmove.begun hset hgoes
      refine ⟨hkept, fun other => ?_⟩
      by_cases hother : other = index
      · subst hother
        simpa using hbegun.trans (hsame other)
      · simpa [hother] using hsame other

/-- In every run, what the threads of a core own is open, and neither the service nor another thread
closes it. No core ever serves packets, since its own configuration is refused. `RUNNING` is set
only for a core that has begun, and while it is set no other core begins, until a command stops it.
-/
theorem thread_laws (hreach : (run ext parseIp parseMultiaddr).Reachable before)
    (hsteps : (run ext parseIp parseMultiaddr).Steps before after) :
    (∀ index, (after.process index).Single ∧ ∀ fd, (after.process index).Owns fd →
      after.shared.Private fd ∧ ∀ other, (after.process other).Owns fd → other = index) ∧
    (∀ index reader writer config,
      after.process index ≠ .started reader writer (.serving config)) ∧
    (after.shared.running = true → ∃ index, (after.process index).Begun) ∧
    (before.shared.running = true →
      (∀ index, after.process index = .stopped → before.process index = .stopped) →
      after.shared.running = true ∧
        ∀ index, (after.process index).Begun ↔ (before.process index).Begun) := by
  have hafter := hreach.steps hsteps
  obtain ⟨-, hown, hapart⟩ := outline_of_reachable hafter
  refine ⟨fun index => ⟨(hown index).1.single, fun fd howns => ⟨(hown index).1.owns fd howns,
    fun other hother => ?_⟩⟩, fun index reader writer config hserving => ?_,
    begun_of_running hafter, running_stays hsteps⟩
  · by_contra hne
    exact hapart other index hne fd hother howns
  · have hunserved := (hown index).2
    rw [hserving] at hunserved
    exact hunserved

end Runs

/-! ## A core beside a second command -/

section Reference

/-- Nothing runs yet, and no descriptor is open. -/
def launched : Interleaved Nat AppProcess Core :=
  ⟨⟨false, ∅, none, ∅, fun _ => none⟩, fun _ => .idle⟩

/-- The core has its duplicates, sets its variables, and its reader ends. -/
def beginning : List (Nat × Event) :=
  [(0, .start (some 5)), (0, .duplicate (some 6)), (0, .duplicate (some 7)), (0, .configure),
    (0, .read true)]

/-- The service has a second interface in the place of the first, which is closed some time. -/
def restarting : List (Nat × Event) := [(1, .start (some 8)), (2, .collect 5)]

/-- Event after event, without addresses that can be parsed. -/
noncomputable def playOn (state : Interleaved Nat AppProcess Core) (events : List (Nat × Event)) :
    Option (Interleaved Nat AppProcess Core) :=
  Routine.play (fun event app core =>
    advance reference (fun _ => none) (fun _ => none) app core event) state events

theorem playOn_steps {state next : Interleaved Nat AppProcess Core} {events : List (Nat × Event)}
    (hplay : playOn state events = some next) :
    (run reference (fun _ => none) fun _ => none).Steps state next :=
  Routine.play_steps (fun _ _ => trivial) hplay

/-- The writer of the core keeps its descriptor, though the interface it was made of is closed, and
the second command begins no core. -/
theorem thread_laws_beside : ∃ before after : Interleaved Nat AppProcess Core,
    (run reference (fun _ => none) fun _ => none).Reachable before ∧
      (run reference (fun _ => none) fun _ => none).Steps before after ∧
      before.shared.running = true ∧ (after.process 0).Owns 7 ∧ after.shared.Private 7 ∧
      (∀ other, (after.process other).Owns 7 → other = 0) ∧ ¬ (after.process 1).Begun := by
  have hbegins : (playOn launched beginning).map (·.shared.running) = some true := by
    decide +kernel
  have hgoes : ((playOn launched beginning).bind (playOn · restarting)).map (fun state =>
      (decide ((state.process 0).Owns 7), decide (state.process 1).Begun)) =
        some (true, false) := by
    decide +kernel
  obtain ⟨before, hbefore, hrunning⟩ := Option.map_eq_some_iff.mp hbegins
  obtain ⟨after, hafter, hshown⟩ := Option.map_eq_some_iff.mp hgoes
  rw [hbefore, Option.bind_some] at hafter
  obtain ⟨howns, hbegun⟩ := Prod.mk.inj hshown
  have hreach : (run reference (fun _ => none) fun _ => none).Reachable before :=
    ⟨launched, ⟨⟨rfl, rfl, rfl⟩, fun _ => rfl⟩, playOn_steps hbefore⟩
  have hsteps := playOn_steps hafter
  obtain ⟨hown, -⟩ := thread_laws hreach hsteps
  obtain ⟨hprivate, halone⟩ := (hown 0).2 7 (of_decide_eq_true howns)
  exact ⟨before, after, hreach, hsteps, hrunning, of_decide_eq_true howns, hprivate, halone,
    of_decide_eq_false hbegun⟩

end Reference

end AndroidCore

end Client
