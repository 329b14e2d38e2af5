import GhostLayer.Foundation.Bytes
import GhostLayer.Foundation.Interleaving
import GhostLayer.Network.Externals

/-! # The identity of a node

A node loads its key from a file, or generates one and writes it there. Several
nodes may be started on one file: between two calls of one of them the others go
on, and each can be stopped at any call. Nothing else touches the file.
-/

namespace Network

open Foundation

/-- How keys are stored. -/
structure KeypairEncoding where
  toProtobufEncoding : Keypair → Option Bytes
  fromProtobufEncoding : Bytes → Option Keypair

namespace KeypairEncoding

variable (encoding : KeypairEncoding)

/-- A stored key is read back. -/
def Decodes : Prop :=
  ∀ keypair bytes, encoding.toProtobufEncoding keypair = some bytes →
    encoding.fromProtobufEncoding bytes = some keypair

/-- A stored key whose end is missing is not read. -/
def Truncates : Prop :=
  ∀ keypair bytes rest, encoding.toProtobufEncoding keypair = some (bytes ++ rest) → rest ≠ [] →
    encoding.fromProtobufEncoding bytes = none

end KeypairEncoding

namespace NodeIdentity

inductive LoadError where
  | read
  | decode
  | directory
  | encode
  | create
  | write
  | permissions
  deriving DecidableEq

/-- Where a node is in `load_or_generate`. -/
inductive Load where
  | started
  | reading (read : Bytes)
  | preparing
  | generating
  | creating (keypair : Keypair) (bytes : Bytes)
  | writing (keypair : Keypair) (written remaining : Bytes)
  | restricting (keypair : Keypair)
  | loaded (keypair : Keypair)
  | failed (error : LoadError)
  | stopped
  deriving DecidableEq

/-- How the next call of a node ends. -/
inductive Call where
  /-- Whether the path exists. It can be taken for missing when that is not known. -/
  | metadata (found : Bool)
  /-- At least one byte, unless the file ends, and `count` more at most. -/
  | read (count : Nat)
  /-- The directory of the path is there, or there is none in the path. -/
  | directory
  | generate (keypair : Keypair)
  | create
  | write (count : Nat)
  | permissions
  | error
  | stop

section Routine

variable (encoding : KeypairEncoding) (unix : Bool)

/-- Overwrite a part of a file. -/
def writeAt (content : Bytes) (offset : Nat) (chunk : Bytes) : Bytes :=
  content.take offset ++ chunk ++ content.drop (offset + chunk.length)

/-- The file was read to its end. -/
def decoded (bytes : Bytes) : Load :=
  match encoding.fromProtobufEncoding bytes with
  | some keypair => .loaded keypair
  | none => .failed .decode

def encoded (keypair : Keypair) : Load :=
  match encoding.toProtobufEncoding keypair with
  | some bytes => .creating keypair bytes
  | none => .failed .encode

/-- A part of the key was written. The file is protected where there are permissions. -/
def wrote (keypair : Keypair) (written remaining : Bytes) : Load :=
  if remaining ≠ [] then .writing keypair written remaining
  else if unix then .restricting keypair
  else .loaded keypair

/-- What one call does to the file and to the node, where it can end so. -/
def loadOrGenerate : Load → Call → Option Bytes → Option (Option Bytes × Load)
  | .started, .metadata true, some bytes => some (some bytes, .reading [])
  | .started, .metadata false, file => some (file, .preparing)
  | .reading read, .read count, some bytes =>
      let chunk := (bytes.drop read.length).take (count + 1)
      some (some bytes, if chunk = [] then decoded encoding read else .reading (read ++ chunk))
  | .reading _, .error, file => some (file, .failed .read)
  | .preparing, .directory, file => some (file, .generating)
  | .preparing, .error, file => some (file, .failed .directory)
  | .generating, .generate keypair, file => some (file, encoded encoding keypair)
  | .creating keypair bytes, .create, none => some (some [], wrote unix keypair [] bytes)
  | .creating .., .error, file => some (file, .failed .create)
  | .writing keypair written remaining, .write count, some content =>
      let chunk := remaining.take (count + 1)
      some (some (writeAt content written.length chunk),
        wrote unix keypair (written ++ chunk) (remaining.drop (count + 1)))
  | .writing .., .error, file => some (file, .failed .write)
  | .restricting keypair, .permissions, file => some (file, .loaded keypair)
  | .restricting _, .error, file => some (file, .failed .permissions)
  | .loaded _, _, _ | .failed _, _, _ | .stopped, _, _ => none
  | _, .stop, file => some (file, .stopped)
  | _, _, _ => none

def routine : Routine (Option Bytes) Load :=
  .driven (fun load => load = .started) (fun _ : Call => True)
    fun call file load => loadOrGenerate encoding unix load call file

/-- Nodes that are started on one file, whatever is in it. -/
def starts (ι : Type) [DecidableEq ι] : System (Interleaved ι (Option Bytes) Load) :=
  (routine encoding unix).interleaved ι fun _ => True

end Routine

/-! ## What a call does -/

section Step

variable {encoding : KeypairEncoding} {unix : Bool}

/-- What a call can do. -/
inductive Step (encoding : KeypairEncoding) (unix : Bool) : Option Bytes → Load → Option Bytes →
    Load → Prop
  /-- A call that fails, and one that tells the node nothing about the file. -/
  | idle (file : Option Bytes) (load load' : Load)
      (idles : load' = .preparing ∨ load' = .generating ∨ load' = .stopped ∨
        ∃ error, load' = .failed error ∧ error ≠ .decode) :
      Step encoding unix file load file load'
  | found (bytes : Bytes) : Step encoding unix (some bytes) .started (some bytes) (.reading [])
  | reads (bytes read chunk : Bytes) (part : chunk <+: bytes.drop read.length) :
      Step encoding unix (some bytes) (.reading read) (some bytes) (.reading (read ++ chunk))
  | decodes (bytes read : Bytes) (ended : bytes.length ≤ read.length) :
      Step encoding unix (some bytes) (.reading read) (some bytes) (decoded encoding read)
  | generates (file : Option Bytes) (keypair : Keypair) (bytes : Bytes)
      (encodes : encoding.toProtobufEncoding keypair = some bytes) :
      Step encoding unix file .generating file (.creating keypair bytes)
  | creates (keypair : Keypair) (bytes : Bytes) :
      Step encoding unix none (.creating keypair bytes) (some []) (wrote unix keypair [] bytes)
  | writes (content : Bytes) (keypair : Keypair) (written chunk remaining : Bytes) :
      Step encoding unix (some content) (.writing keypair written (chunk ++ remaining))
        (some (writeAt content written.length chunk))
        (wrote unix keypair (written ++ chunk) remaining)
  | restricts (file : Option Bytes) (keypair : Keypair) :
      Step encoding unix file (.restricting keypair) file (.loaded keypair)

theorem step_of_read {count : Nat} {read bytes : Bytes} {file' : Option Bytes} {load' : Load}
    (hcall : loadOrGenerate encoding unix (.reading read) (.read count) (some bytes) =
      some (file', load')) : Step encoding unix (some bytes) (.reading read) file' load' := by
  obtain ⟨rfl, rfl⟩ := Prod.mk.inj (Option.some.inj hcall)
  split_ifs with hend
  · refine .decodes bytes read ?_
    simpa [List.take_eq_nil_iff, List.drop_eq_nil_iff] using hend
  · exact .reads bytes read _ (List.take_prefix _ _)

theorem step_of_call {call : Call} {load load' : Load} {file file' : Option Bytes}
    (hcall : loadOrGenerate encoding unix load call file = some (file', load')) :
    Step encoding unix file load file' load' := by
  cases load with
  | loaded | failed | stopped => cases hcall
  | started =>
      cases call with
      | metadata found =>
          cases found with
          | true =>
              cases file with
              | none => cases hcall
              | some bytes =>
                  cases hcall
                  exact .found bytes
          | false =>
              cases hcall
              exact .idle _ _ _ (.inl rfl)
      | stop =>
          cases hcall
          exact .idle _ _ _ (.inr (.inr (.inl rfl)))
      | _ => cases hcall
  | reading read =>
      cases call with
      | read count =>
          cases file with
          | none => cases hcall
          | some bytes => exact step_of_read hcall
      | error =>
          cases hcall
          exact .idle _ _ _ (by simp)
      | stop =>
          cases hcall
          exact .idle _ _ _ (by simp)
      | _ => cases hcall
  | preparing =>
      cases call with
      | directory | error | stop =>
          cases hcall
          exact .idle _ _ _ (by simp)
      | _ => cases hcall
  | generating =>
      cases call with
      | generate keypair =>
          obtain ⟨rfl, rfl⟩ := Prod.mk.inj (Option.some.inj hcall)
          rw [encoded]
          cases hbytes : encoding.toProtobufEncoding keypair with
          | none => exact .idle _ _ _ (by simp)
          | some bytes => exact .generates _ _ _ hbytes
      | stop =>
          cases hcall
          exact .idle _ _ _ (by simp)
      | _ => cases hcall
  | creating keypair bytes =>
      cases call with
      | create =>
          cases file with
          | none =>
              cases hcall
              exact .creates keypair bytes
          | some content => cases hcall
      | error | stop =>
          cases hcall
          exact .idle _ _ _ (by simp)
      | _ => cases hcall
  | writing keypair written remaining =>
      cases call with
      | write count =>
          cases file with
          | none => cases hcall
          | some content =>
              obtain ⟨rfl, rfl⟩ := Prod.mk.inj (Option.some.inj hcall)
              nth_rewrite 1 [← List.take_append_drop (count + 1) remaining]
              exact .writes content keypair written _ _
      | error | stop =>
          cases hcall
          exact .idle _ _ _ (by simp)
      | _ => cases hcall
  | restricting keypair =>
      cases call with
      | permissions =>
          cases hcall
          exact .restricts _ keypair
      | error | stop =>
          cases hcall
          exact .idle _ _ _ (by simp)
      | _ => cases hcall

end Step

/-! ## What nodes keep of each other -/

section Nodes

variable {encoding : KeypairEncoding} {unix : Bool} {file file' : Option Bytes} {load load' : Load}

def Load.Writes : Load → Prop
  | .writing .. => True
  | _ => False

/-- The file is as far as a node has brought it, or has read of it. -/
def Holds (encoding : KeypairEncoding) (file : Option Bytes) : Load → Prop
  | .reading read => ∃ bytes, file = some bytes ∧ read <+: bytes
  | .creating keypair bytes => encoding.toProtobufEncoding keypair = some bytes
  | .writing keypair written remaining => file = some written ∧ remaining ≠ [] ∧
      encoding.toProtobufEncoding keypair = some (written ++ remaining)
  | .restricting keypair | .loaded keypair =>
      ∃ bytes, file = some bytes ∧ encoding.fromProtobufEncoding bytes = some keypair
  | .started | .preparing | .generating | .failed _ | .stopped => True

theorem holds_decoded {bytes : Bytes} : Holds encoding (some bytes) (decoded encoding bytes) := by
  rw [decoded]
  cases hread : encoding.fromProtobufEncoding bytes with
  | none => trivial
  | some keypair => exact ⟨bytes, rfl, hread⟩

theorem holds_wrote {keypair : Keypair} {written remaining : Bytes} (hdecodes : encoding.Decodes)
    (hencodes : encoding.toProtobufEncoding keypair = some (written ++ remaining)) :
    Holds encoding (some written) (wrote unix keypair written remaining) := by
  rw [wrote]
  by_cases hrest : remaining = []
  · subst hrest
    rw [List.append_nil] at hencodes
    have hread := hdecodes keypair written hencodes
    cases unix <;> exact ⟨written, rfl, hread⟩
  · rw [if_pos hrest]
    exact ⟨rfl, hrest, hencodes⟩

/-- A node writes after everything that is in the file. -/
theorem writeAt_length (content chunk : Bytes) :
    writeAt content content.length chunk = content ++ chunk := by
  simp [writeAt]

theorem Step.holds (hdecodes : encoding.Decodes) (hholds : Holds encoding file load)
    (hstep : Step encoding unix file load file' load') : Holds encoding file' load' := by
  cases hstep with
  | idle _ _ _ idles =>
      rcases idles with rfl | rfl | rfl | ⟨error, rfl, -⟩ <;> trivial
  | found bytes => exact ⟨bytes, rfl, List.nil_prefix⟩
  | reads bytes read chunk part =>
      obtain ⟨_, hfile, rest, rfl⟩ := hholds
      cases hfile
      rw [List.drop_left] at part
      exact ⟨_, rfl, (List.prefix_append_right_inj read).mpr part⟩
  | decodes bytes read ended =>
      obtain ⟨_, hfile, hread⟩ := hholds
      cases hfile
      rw [hread.eq_of_length_le ended]
      exact holds_decoded
  | generates file keypair bytes encodes => exact encodes
  | creates keypair bytes => exact holds_wrote hdecodes hholds
  | writes content keypair written chunk remaining =>
      obtain ⟨hfile, -, hencodes⟩ := hholds
      cases hfile
      rw [writeAt_length]
      exact holds_wrote hdecodes (by rwa [List.append_assoc])
  | restricts => exact hholds

/-- The file of a node that writes holds no key yet. -/
theorem Holds.unread {keypair : Keypair} {written remaining : Bytes}
    (htruncates : encoding.Truncates)
    (hholds : Holds encoding file (.writing keypair written remaining)) {bytes : Bytes}
    (hfile : file = some bytes) : encoding.fromProtobufEncoding bytes = none := by
  obtain ⟨hwritten, hrest, hencodes⟩ := hholds
  obtain rfl := Option.some.inj (hwritten.symm.trans hfile)
  exact htruncates keypair written remaining hencodes hrest

/-- What a node does to the file disturbs no other node, if at most one of them writes. -/
theorem Step.undisturbed {other : Load} (htruncates : encoding.Truncates)
    (hholds : Holds encoding file load) (hother : Holds encoding file other)
    (hsingle : ¬ (load.Writes ∧ other.Writes)) (hstep : Step encoding unix file load file' load') :
    Holds encoding file' other := by
  cases hstep with
  | idle | found | reads | decodes | generates | restricts => exact hother
  | creates keypair bytes =>
      cases other with
      | reading | restricting | loaded =>
          obtain ⟨_, hfile, -⟩ := hother
          cases hfile
      | writing => cases hother.1
      | _ => exact hother
  | writes content keypair written chunk remaining =>
      have hunread := hholds.unread htruncates rfl
      obtain ⟨hfile, -, -⟩ := hholds
      cases hfile
      rw [writeAt_length]
      cases other with
      | reading read =>
          obtain ⟨_, hbytes, hread⟩ := hother
          cases hbytes
          exact ⟨_, rfl, hread.trans (List.prefix_append _ _)⟩
      | writing => exact absurd ⟨trivial, trivial⟩ hsingle
      | restricting other | loaded other =>
          obtain ⟨_, hbytes, hdecoded⟩ := hother
          cases hbytes
          rw [hunread] at hdecoded
          cases hdecoded
      | _ => exact hother

/-- A node that begins to write has created the file, so no other has. -/
theorem Step.single {other : Load} (hother : Holds encoding file other)
    (hsingle : ¬ (load.Writes ∧ other.Writes)) (hstep : Step encoding unix file load file' load') :
    ¬ (load'.Writes ∧ other.Writes) := by
  rintro ⟨hwrites, hbusy⟩
  cases hstep with
  | idle _ _ _ idles => rcases idles with rfl | rfl | rfl | ⟨error, rfl, -⟩ <;> exact hwrites
  | found | reads | generates | restricts => exact hwrites
  | decodes bytes read ended =>
      rw [decoded] at hwrites
      cases hread : encoding.fromProtobufEncoding read <;> simp [hread, Load.Writes] at hwrites
  | creates keypair bytes =>
      cases other with
      | writing => cases hother.1
      | _ => exact hbusy
  | writes content keypair written chunk remaining => exact hsingle ⟨trivial, hbusy⟩

def outline (encoding : KeypairEncoding) : Routine.Outline (Option Bytes) Load where
  shared _ := True
  own := Holds encoding
  apart first second := ¬ (first.Writes ∧ second.Writes)

theorem outline_stable (hdecodes : encoding.Decodes) (htruncates : encoding.Truncates) :
    (outline encoding).Stable (routine encoding unix) where
  symm _ _ hsingle hboth := hsingle ⟨hboth.2, hboth.1⟩
  own _ _ _ _ _ hholds hstep := by
    obtain ⟨call, -, hcall⟩ := hstep
    exact ⟨trivial, (step_of_call hcall).holds hdecodes hholds⟩
  other _ _ _ _ _ _ hholds hother hsingle hstep := by
    obtain ⟨call, -, hcall⟩ := hstep
    exact ⟨(step_of_call hcall).undisturbed htruncates hholds hother hsingle,
      (step_of_call hcall).single hother hsingle⟩

end Nodes

/-! ## Runs -/

section Runs

variable {encoding : KeypairEncoding} {unix : Bool} {ι : Type} [DecidableEq ι]
  {before after : Interleaved ι (Option Bytes) Load} {bytes : Bytes} {keypair : Keypair} {node : ι}

theorem holds_of_reachable (hdecodes : encoding.Decodes) (htruncates : encoding.Truncates)
    (hreach : (starts encoding unix ι).Reachable before) : (outline encoding).Holds before := by
  refine (outline_stable hdecodes htruncates).reachable (fun _ _ => trivial) ?_ ?_ hreach
  · rintro file load - rfl
    trivial
  · rintro first second rfl rfl ⟨hwrites, -⟩
    exact hwrites

/-- A file that no node writes. -/
structure Settled (bytes : Bytes) (state : Interleaved ι (Option Bytes) Load) : Prop where
  file : state.shared = some bytes
  unwritten : ∀ node, ¬ (state.process node).Writes

/-- Nothing is created in the place of a file, so what is in it stays. -/
theorem Settled.step (hsettled : Settled bytes before)
    (hstep : (starts encoding unix ι).step before after) : Settled bytes after := by
  obtain ⟨node, file, load, ⟨call, -, hcall⟩, rfl⟩ := hstep
  have htaken := step_of_call hcall
  have hidle := hsettled.unwritten node
  rw [hsettled.file] at htaken
  have hkept : file = some bytes ∧ ¬ load.Writes := by
    generalize before.process node = held at htaken hidle
    cases htaken with
    | idle _ _ _ idles =>
        exact ⟨rfl, by rcases idles with rfl | rfl | rfl | ⟨error, rfl, -⟩ <;> exact id⟩
    | found | reads | generates | restricts => exact ⟨rfl, id⟩
    | decodes _ read =>
        refine ⟨rfl, ?_⟩
        rw [decoded]
        cases encoding.fromProtobufEncoding read <;> exact id
    | writes => exact absurd trivial hidle
  refine ⟨hkept.1, fun other => ?_⟩
  by_cases hsame : other = node
  · subst hsame
    simpa using hkept.2
  · simpa [hsame] using hsettled.unwritten other

/-- The file of a node that has its key is settled. -/
theorem settled_of_loaded (hdecodes : encoding.Decodes) (htruncates : encoding.Truncates)
    (hreach : (starts encoding unix ι).Reachable before)
    (hloaded : before.process node = .loaded keypair) :
    ∃ bytes, Settled bytes before ∧ encoding.fromProtobufEncoding bytes = some keypair := by
  obtain ⟨-, hholds, -⟩ := holds_of_reachable hdecodes htruncates hreach
  have hown := hholds node
  rw [hloaded] at hown
  obtain ⟨bytes, hfile, hdecoded⟩ := hown
  refine ⟨bytes, ⟨hfile, fun other hwrites => ?_⟩, hdecoded⟩
  have hother := hholds other
  cases hload : before.process other with
  | writing =>
      rw [hload] at hother
      rw [Holds.unread htruncates hother hfile] at hdecoded
      cases hdecoded
  | _ =>
      rw [hload] at hwrites
      exact hwrites

theorem Step.grows {load load' : Load} {file : Option Bytes}
    (hholds : Holds encoding (some bytes) load)
    (hstep : Step encoding unix (some bytes) load file load') :
    ∃ more, file = some (bytes ++ more) := by
  cases hstep with
  | idle | found | reads | decodes | generates | restricts => exact ⟨[], by rw [List.append_nil]⟩
  | writes content keypair written chunk remaining =>
      cases hholds.1
      exact ⟨chunk, by rw [writeAt_length]⟩

theorem grows (hdecodes : encoding.Decodes) (htruncates : encoding.Truncates)
    (hreach : (starts encoding unix ι).Reachable before)
    (hsteps : (starts encoding unix ι).Steps before after) (hfile : before.shared = some bytes) :
    ∃ more, after.shared = some (bytes ++ more) := by
  have hstep (state next : Interleaved ι (Option Bytes) Load)
      (hkept : (outline encoding).Holds state ∧ ∃ more, state.shared = some (bytes ++ more))
      (htaken : (starts encoding unix ι).step state next) :
      (outline encoding).Holds next ∧ ∃ more, next.shared = some (bytes ++ more) := by
    obtain ⟨hholds, more, hmore⟩ := hkept
    refine ⟨(outline_stable hdecodes htruncates).step hholds htaken, ?_⟩
    obtain ⟨node, file, load, ⟨call, -, hcall⟩, rfl⟩ := htaken
    have hown := hholds.2.1 node
    have hmoves := step_of_call hcall
    rw [hmore] at hmoves hown
    obtain ⟨rest, hrest⟩ := hmoves.grows hown
    exact ⟨more ++ rest, by rw [hrest, List.append_assoc]⟩
  exact (System.Steps.preserves hstep hsteps ⟨holds_of_reachable hdecodes htruncates hreach, [],
    by rw [hfile, List.append_nil]⟩).2

theorem Settled.steps (hsettled : Settled bytes before)
    (hsteps : (starts encoding unix ι).Steps before after) : Settled bytes after :=
  System.Steps.preserves (fun _ _ hbefore hstep => hbefore.step hstep) hsteps hsettled

theorem Step.sound {load load' : Load} {file : Option Bytes}
    (hdecoded : encoding.fromProtobufEncoding bytes = some keypair)
    (hholds : Holds encoding (some bytes) load)
    (hstep : Step encoding unix (some bytes) load file load') : load' ≠ .failed .decode := by
  cases hstep with
  | idle _ _ _ idles =>
      rcases idles with rfl | rfl | rfl | ⟨error, rfl, herror⟩
      · nofun
      · nofun
      · nofun
      · exact fun hfailed => herror (Load.failed.inj hfailed)
  | found | reads | generates | restricts => nofun
  | decodes _ read ended =>
      obtain ⟨_, hbytes, hread⟩ := hholds
      cases hbytes
      rw [hread.eq_of_length_le ended, decoded, hdecoded]
      nofun
  | writes content keypair written chunk remaining =>
      rw [wrote]
      split_ifs <;> nofun

/-- A node does not fail on a file with a key in it. -/
theorem Settled.decodes (hdecodes : encoding.Decodes) (htruncates : encoding.Truncates)
    (hreach : (starts encoding unix ι).Reachable before)
    (hsteps : (starts encoding unix ι).Steps before after) (hsettled : Settled bytes before)
    (hdecoded : encoding.fromProtobufEncoding bytes = some keypair)
    (hstarted : before.process node = .started) : after.process node ≠ .failed .decode := by
  have hstep (state next : Interleaved ι (Option Bytes) Load)
      (hkept : (outline encoding).Holds state ∧ Settled bytes state ∧
        state.process node ≠ .failed .decode) (htaken : (starts encoding unix ι).step state next) :
      (outline encoding).Holds next ∧ Settled bytes next ∧
        next.process node ≠ .failed .decode := by
    obtain ⟨hholds, hfile, hsound⟩ := hkept
    refine ⟨(outline_stable hdecodes htruncates).step hholds htaken, hfile.step htaken, ?_⟩
    obtain ⟨other, file, load, ⟨call, -, hcall⟩, rfl⟩ := htaken
    by_cases hsame : node = other
    · subst hsame
      have hown := hholds.2.1 node
      have hmoves := step_of_call hcall
      rw [hfile.file] at hmoves hown
      simpa using hmoves.sound hdecoded hown
    · simpa [hsame] using hsound
  exact (System.Steps.preserves hstep hsteps ⟨holds_of_reachable hdecodes htruncates hreach,
    hsettled, by rw [hstarted]; nofun⟩).2.2

/-- A file with a key only grows, and one that was there before any node was started stays as it is;
only the key in it is loaded. Once a node has its key, the file stays, every node that gets a key
gets the same, and no node that is started afterwards takes the file for broken. -/
theorem load_laws (hdecodes : encoding.Decodes) (htruncates : encoding.Truncates)
    (hreach : (starts encoding unix ι).Reachable before)
    (hsteps : (starts encoding unix ι).Steps before after) :
    (∀ bytes, before.shared = some bytes → ∃ more, after.shared = some (bytes ++ more)) ∧
    (∀ bytes, before.shared = some bytes → (∀ node, before.process node = .started) →
      after.shared = some bytes ∧ ∀ node keypair, after.process node = .loaded keypair →
        encoding.fromProtobufEncoding bytes = some keypair) ∧
    ∀ node keypair, before.process node = .loaded keypair →
      after.shared = before.shared ∧
      (∀ other keypair', after.process other = .loaded keypair' → keypair' = keypair) ∧
      ∀ other, before.process other = .started → after.process other ≠ .failed .decode := by
  have hafter := hreach.steps hsteps
  -- Whoever has a key has the one in the file.
  have hread {bytes : Bytes} (hfile : after.shared = some bytes) {node : ι} {keypair : Keypair}
      (hloaded : after.process node = .loaded keypair) :
      encoding.fromProtobufEncoding bytes = some keypair := by
    obtain ⟨_, hsettled, hdecoded⟩ := settled_of_loaded hdecodes htruncates hafter hloaded
    obtain rfl := Option.some.inj (hsettled.file.symm.trans hfile)
    exact hdecoded
  refine ⟨fun bytes hfile => grows hdecodes htruncates hreach hsteps hfile, ?_, ?_⟩
  · intro bytes hfile hstarted
    have hsettled : Settled bytes before :=
      ⟨hfile, fun node hwrites => by rw [hstarted node] at hwrites; exact hwrites⟩
    have hstays := (hsettled.steps hsteps).file
    exact ⟨hstays, fun node keypair hloaded => hread hstays hloaded⟩
  · intro node keypair hloaded
    obtain ⟨bytes, hsettled, hdecoded⟩ := settled_of_loaded hdecodes htruncates hreach hloaded
    have hstays := (hsettled.steps hsteps).file
    refine ⟨hstays.trans hsettled.file.symm, fun other keypair' hother => ?_,
      fun other hstarted => hsettled.decodes hdecodes htruncates hreach hsteps hdecoded hstarted⟩
    exact Option.some.inj ((hread hstays hother).symm.trans hdecoded)

end Runs

/-! ## Two nodes on one file -/

section Reference

/-- Keys of 64 bytes behind the header of their type and length. -/
def referenceEncoding : KeypairEncoding where
  toProtobufEncoding keypair :=
    if keypair.secret.length = 64 then some ([8, 1, 18, 64] ++ keypair.secret) else none
  fromProtobufEncoding bytes :=
    if bytes.length = 68 ∧ bytes.take 4 = [8, 1, 18, 64] then some ⟨bytes.drop 4⟩ else none

theorem referenceEncoding_decodes : referenceEncoding.Decodes := by
  intro keypair bytes hencodes
  obtain ⟨hlength, hbytes⟩ := Option.ite_none_right_eq_some.mp hencodes
  obtain rfl := Option.some.inj hbytes
  exact if_pos ⟨by simp [hlength], rfl⟩

theorem referenceEncoding_truncates : referenceEncoding.Truncates := by
  intro keypair bytes rest hencodes hrest
  obtain ⟨hlength, hbytes⟩ := Option.ite_none_right_eq_some.mp hencodes
  have htotal := congrArg List.length (Option.some.inj hbytes)
  have hpositive := List.length_pos_of_ne_nil hrest
  simp only [List.length_append, List.length_cons, List.length_nil, hlength] at htotal
  exact if_neg fun hwhole => by omega

/-- Call after call of one node or the other. -/
def play (state : Interleaved Bool (Option Bytes) Load) (calls : List (Bool × Call)) :
    Option (Interleaved Bool (Option Bytes) Load) :=
  Routine.play (fun call file load => loadOrGenerate referenceEncoding true load call file) state
    calls

theorem play_steps {state next : Interleaved Bool (Option Bytes) Load}
    {calls : List (Bool × Call)} (hplay : play state calls = some next) :
    (starts referenceEncoding true Bool).Steps state next :=
  Routine.play_steps (fun _ _ => trivial) hplay

def referenceKeypair : Keypair := ⟨List.replicate 64 1⟩

/-- One node generates a key, and stores it in two parts. -/
def storing : List (Bool × Call) :=
  [(false, .metadata false), (false, .directory), (false, .generate referenceKeypair),
    (false, .create), (false, .write 9), (false, .write 99), (false, .permissions)]

/-- The other node reads the key in two parts. -/
def loading : List (Bool × Call) :=
  [(true, .metadata true), (true, .read 9), (true, .read 99), (true, .read 0)]

def opened : Interleaved Bool (Option Bytes) Load := ⟨none, fun _ => .started⟩

/-- A second node has the key of the first. -/
theorem load_laws_shared : ∃ before after : Interleaved Bool (Option Bytes) Load, ∃ keypair,
    (starts referenceEncoding true Bool).Reachable before ∧
      before.process false = .loaded referenceKeypair ∧ after.process true = .loaded keypair ∧
      after.shared = before.shared ∧ keypair = referenceKeypair := by
  have hstores : (play opened storing).map (·.process false) = some (.loaded referenceKeypair) := by
    decide +kernel
  have hloads : ((play opened storing).bind (play · loading)).map (·.process true) =
      some (.loaded referenceKeypair) := by
    decide +kernel
  obtain ⟨before, hbefore, hfirst⟩ := Option.map_eq_some_iff.mp hstores
  obtain ⟨after, hafter, hsecond⟩ := Option.map_eq_some_iff.mp hloads
  rw [hbefore, Option.bind_some] at hafter
  have hreach : (starts referenceEncoding true Bool).Reachable before :=
    ⟨opened, ⟨trivial, fun _ => rfl⟩, play_steps hbefore⟩
  obtain ⟨-, -, hagree⟩ := load_laws referenceEncoding_decodes referenceEncoding_truncates hreach
    (play_steps hafter)
  obtain ⟨hstays, hsame, -⟩ := hagree false _ hfirst
  exact ⟨before, after, _, hreach, hfirst, hsecond, hstays, hsame true _ hsecond⟩

end Reference

end NodeIdentity

end Network
