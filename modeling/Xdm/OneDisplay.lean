/-
# Operations on one display

Starting, stopping and restarting work on one display through a few moves: they store into
it, remove it, emit events of their own, and ask the kernel for processes.  A relation of
states that these moves respect is respected by the functions of `xdm/dm.c` and
`xdm/server.c` that get a pointer to a display; there is one lemma for each of them.  The
first such relation is `Only`: every other display of the list is there before and after,
as it was.
-/
import Xdm.LifeCycle

namespace Xdm

open Prog

variable {s s' s'' : State} {a : Nat} {w : World} {R : State → State → Prop}

/-- The events of the functions below: signals, stores into removed displays, and `FAILED`
packets with a text that fits the buffer of `send_failed`. -/
def Event.OfDisplay : Event → Prop
  | .kill _ _ | .writeFreed _ => True
  | .send _ (.failed _ status) => status.length ≤ 255
  | .send _ _ => False

/-- The fields of a display that are set when it is entered, by `ParseDisplay` or `manage`,
and by nobody else. -/
structure Identity where
  addr : Nat
  name : Str
  className : Option Str
  displayType : DisplayType
  argv : Option (List Str)
  sessionID : CARD32
  fromAddr : Netaddr
  displayNumber : CARD16
  useChooser : Bool
  clientAddr : ARRAY8
  connectionType : CARD16
  authorizations : List Xauth

def Display.identity (d : Display) : Identity :=
  ⟨d.addr, d.name, d.className, d.displayType, d.argv, d.sessionID, d.fromAddr,
    d.displayNumber, d.useChooser, d.clientAddr, d.connectionType, d.authorizations⟩

/-- The stores that are allowed, `K`, include those of starting and stopping a display. -/
structure StartStop (K : (Display → Display) → Prop) : Prop where
  state : ∀ state, K fun d => { d with state := state }
  status : ∀ status, K fun d => { d with status := status }
  serverPid : ∀ pid, K fun d => { d with serverPid := pid }
  session : ∀ pid, K fun d => { d with pid := pid, status := .running }
  resources : ∀ g : Display → ServerResources, K fun d => { d with resources := g d }

/-- The relation allows the moves of `StopDisplay` on the display at `a`, with stores in `K`. -/
structure MovesBy (K : (Display → Display) → Prop) (a : Nat) (R : State → State → Prop) :
    Prop where
  store : ∀ s f, K f → R s (s.write a f)
  remove : ∀ s, R s (s.remove a)
  emit : ∀ (s : State) e, e.OfDisplay → R s { s with out := s.out ++ [e] }

/-- It allows the moves of `StartDisplay` as well. -/
structure WorksBy (K : (Display → Display) → Prop) (a : Nat) (R : State → State → Prop) : Prop
    extends MovesBy K a R where
  kernel : ∀ (s : State) k, R s { s with kernel := k }

/-- The relation allows the moves of `StopDisplay` on the display at `a`. -/
structure Moves (a : Nat) (R : State → State → Prop) : Prop where
  store : ∀ s f, (∀ d : Display, (f d).identity = d.identity) → R s (s.write a f)
  remove : ∀ s, R s (s.remove a)
  emit : ∀ (s : State) e, e.OfDisplay → R s { s with out := s.out ++ [e] }

/-- It allows the moves of `StartDisplay` as well. -/
structure Works (a : Nat) (R : State → State → Prop) : Prop extends Moves a R where
  kernel : ∀ (s : State) k, R s { s with kernel := k }

/-- The store leaves the identity of every display alone. -/
def KeepsIdentity (f : Display → Display) : Prop := ∀ d, (f d).identity = d.identity

lemma KeepsIdentity.startStop : StartStop KeepsIdentity where
  state := fun _ _ => rfl
  status := fun _ _ => rfl
  serverPid := fun _ _ => rfl
  session := fun _ _ => rfl
  resources := fun _ _ => rfl

lemma Moves.movesBy (hR : Moves a R) : MovesBy KeepsIdentity a R := ⟨hR.store, hR.remove, hR.emit⟩

lemma Works.worksBy (hR : Works a R) : WorksBy KeepsIdentity a R :=
  ⟨hR.toMoves.movesBy, hR.kernel⟩

/-! ### Stores, events and processes -/

lemma respects_readDisplay [Std.Refl R] (b : Nat) : Respects R (readDisplay b) :=
  fun s _ => wlp_readDisplay fun _ _ _ => ⟨trivial, refl s⟩

/-- The text of a `FAILED` packet is cut to the buffer. -/
lemma length_failedStatus (name : Str) (sessionID : CARD32) (reason : Str) :
    (failedStatus name sessionID reason).length ≤ 255 := by
  unfold failedStatus bytesOf
  rw [List.length_map, List.length_take]
  omega

namespace MovesBy

variable {K : (Display → Display) → Prop}

lemma emits (hR : MovesBy K a R) {e : Event} (he : e.OfDisplay) : Respects R (Xdm.emit e) :=
  Keeps.modify fun s _ => ⟨trivial, hR.emit s e he⟩

lemma writeDisplay (hR : MovesBy K a R) {f : Display → Display} (hf : K f) :
    Respects R (Xdm.writeDisplay a f) := fun s _ =>
  wlp_writeDisplay ⟨trivial, hR.store s f hf⟩ fun _ => ⟨trivial, hR.emit s _ trivial⟩

lemma terminateProcess [IsTrans State R] (hR : MovesBy K a R) (pid : Pid) (signal : Int) :
    Respects R (Xdm.terminateProcess pid signal) :=
  Keeps.bind (hR.emits trivial) fun _ => hR.emits trivial

variable [Std.Refl R]

lemma removeDisplay (hR : MovesBy K a R) : Respects R (Xdm.removeDisplay a) := fun s _ =>
  wlp_removeDisplay ⟨trivial, hR.remove s⟩ fun _ => ⟨trivial, refl s⟩

variable [IsTrans State R]

/-! ### Stopping and restarting -/

lemma stopDisplay (hR : MovesBy K a R) (hK : StartStop K) : Respects R (Xdm.stopDisplay a) := by
  refine Keeps.bind (respects_readDisplay a) fun d => ?_
  have hserver : Respects R (if d.serverPid ≠ -1 then
      Xdm.terminateProcess d.serverPid d.resources.termSignal else Xdm.removeDisplay a) :=
    Keeps.ite (fun _ => hR.terminateProcess _ _) fun _ => hR.removeDisplay
  have hpid : Respects R (do
      if d.pid ≠ -1 then Xdm.terminateProcess d.pid sigterm
      if d.serverPid ≠ -1 then Xdm.terminateProcess d.serverPid d.resources.termSignal
      else Xdm.removeDisplay a) :=
    Keeps.ite (fun _ => Keeps.bind (hR.terminateProcess _ _) fun _ => hserver) fun _ => hserver
  exact Keeps.ite (fun _ => Keeps.bind (hR.writeDisplay (hK.status _)) fun _ => hpid)
    fun _ => hpid

lemma restartDisplay (hR : MovesBy K a R) (hK : StartStop K) (forceReserver : Bool) :
    Respects R (Xdm.restartDisplay a forceReserver) := by
  refine Keeps.bind (respects_readDisplay a) fun d => Keeps.ite (fun _ => ?_) fun _ => ?_
  · exact Keeps.bind (hR.terminateProcess _ _) fun _ => hR.writeDisplay (hK.status _)
  · exact hR.writeDisplay (hK.status _)

lemma serverEnded (hR : MovesBy K a R) (hK : StartStop K) : Respects R (Xdm.serverEnded a) := by
  refine Keeps.bind (hR.writeDisplay (hK.serverPid _)) fun _ => ?_
  refine Keeps.bind (respects_readDisplay a) fun d => ?_
  split
  · exact hR.removeDisplay
  · exact hR.writeDisplay (hK.status _)
  · exact Keeps.ite (fun _ => hR.terminateProcess _ _) fun _ => Keeps.pure _
  · exact Keeps.pure _

end MovesBy

namespace Moves

lemma emits (hR : Moves a R) {e : Event} (he : e.OfDisplay) : Respects R (Xdm.emit e) :=
  hR.movesBy.emits he

lemma writeDisplay (hR : Moves a R) {f : Display → Display}
    (hf : ∀ d, (f d).identity = d.identity) :
    Respects R (Xdm.writeDisplay a f) := hR.movesBy.writeDisplay hf

variable [Std.Refl R] [IsTrans State R]

lemma sendFailed (hR : Moves a R) (b : Nat) (reason : Str) : Respects R (Xdm.sendFailed b reason) :=
  Keeps.bind (respects_readDisplay b) fun _ => hR.emits (length_failedStatus _ _ _)

lemma stopDisplay (hR : Moves a R) : Respects R (Xdm.stopDisplay a) :=
  hR.movesBy.stopDisplay KeepsIdentity.startStop

lemma restartDisplay (hR : Moves a R) (forceReserver : Bool) :
    Respects R (Xdm.restartDisplay a forceReserver) :=
  hR.movesBy.restartDisplay KeepsIdentity.startStop forceReserver

/-! ### The end of a process -/

lemma lastStart (hR : Moves a R) : Respects R (Xdm.lastStart a) := by
  refine Keeps.bind (respects_readDisplay a) fun d => Keeps.ite (fun _ => Keeps.pure _) fun _ => ?_
  exact Keeps.bind (hR.writeDisplay fun _ => rfl) fun _ => Keeps.pure _

lemma reserver (hR : Moves a R) (now : Time) : Respects R (Xdm.reserver a now) := by
  have hgo : ∀ (stop : Prop) [Decidable stop], Respects R (do
      if stop then Xdm.stopDisplay a else Xdm.restartDisplay a true
      Xdm.writeDisplay a fun display => { display with lastReserv := now } : M Unit) :=
    fun stop _ => Keeps.ite
      (fun _ => Keeps.bind hR.stopDisplay fun _ => hR.writeDisplay fun _ => rfl)
      fun _ => Keeps.bind (hR.restartDisplay true) fun _ => hR.writeDisplay fun _ => rfl
  refine Keeps.bind (respects_readDisplay a) fun d => Keeps.ite (fun _ => ?_) fun _ => ?_
  · exact Keeps.bind (hR.writeDisplay fun _ => rfl) fun _ => hgo _
  · exact Keeps.bind (hR.writeDisplay fun _ => rfl) fun _ => hgo _

lemma sessionEnded (hR : Moves a R) (val : Int) : Respects R (Xdm.sessionEnded w a val) := by
  have hlast : Respects R (do
      if ← Xdm.lastStart a then Xdm.stopDisplay a else Xdm.restartDisplay a true : M Unit) :=
    Keeps.bind hR.lastStart fun _ => Keeps.ite (fun _ => hR.stopDisplay)
      fun _ => hR.restartDisplay true
  have hclear : Respects R (clearStartTries a) := hR.writeDisplay fun _ => rfl
  refine Keeps.bind (hR.writeDisplay fun _ => rfl) fun _ => ?_
  refine Keeps.bind (respects_readDisplay a) fun d => ?_
  refine Keeps.ite (fun _ => hR.stopDisplay) fun _ => Keeps.ite (fun _ => ?obeysess) fun _ =>
    Keeps.ite (fun _ => ?openfailed) fun _ => Keeps.ite (fun _ => ?reserver) fun _ =>
      Keeps.ite (fun _ => hlast) fun _ => Keeps.ite (fun _ => ?remanage) fun _ => hR.stopDisplay
  case obeysess =>
    refine Keeps.bind hclear fun _ => Keeps.bind (hR.writeDisplay fun _ => rfl) fun _ => ?_
    exact Keeps.ite (fun _ => hR.stopDisplay) fun _ => hR.restartDisplay false
  case openfailed =>
    exact Keeps.ite (fun _ => Keeps.bind (hR.sendFailed a _) fun _ => hlast) fun _ => hlast
  case reserver =>
    exact Keeps.bind hclear fun _ => Keeps.ite (fun _ => hR.stopDisplay)
      fun _ => hR.reserver w.time
  case remanage =>
    exact Keeps.bind hclear fun _ => Keeps.ite (fun _ => hR.stopDisplay)
      fun _ => hR.restartDisplay false

lemma serverEnded (hR : Moves a R) : Respects R (Xdm.serverEnded a) :=
  hR.movesBy.serverEnded KeepsIdentity.startStop

end Moves

/-! ### Starting -/

namespace WorksBy

variable {K : (Display → Display) → Prop}

lemma fork (hR : WorksBy K a R) : Respects R Xdm.fork := fun _ _ =>
  wlp_fork (fun _ _ => ⟨trivial, hR.kernel _ _⟩) fun _ _ _ _ _ => ⟨trivial, hR.kernel _ _⟩

lemma serverPause (hR : WorksBy K a R) (pid : Pid) : Respects R (Xdm.serverPause pid) := fun _ _ =>
  wlp_serverPause (fun _ _ => ⟨trivial, hR.kernel _ _⟩) fun _ _ => ⟨trivial, hR.kernel _ _⟩

variable [Std.Refl R] [IsTrans State R]

lemma startServerOnce (hR : WorksBy K a R) (hK : StartStop K) :
    Respects R (Xdm.startServerOnce a) := by
  refine Keeps.bind hR.fork fun pid => ?_
  cases pid with
  | none => exact Keeps.pure _
  | some pid =>
    refine Keeps.bind (hR.writeDisplay (hK.serverPid _)) fun _ => ?_
    refine Keeps.bind (hR.serverPause pid) fun dead => ?_
    exact Keeps.ite (fun _ => Keeps.pure _) fun _ => Keeps.pure _

lemma startServerLoop (hR : WorksBy K a R) (hK : StartStop K) (n : Nat) :
    ∀ i, Respects R (Xdm.startServerLoop a n i) := by
  induction n with
  | zero => exact fun _ => Keeps.failure
  | succ n ih =>
    intro i
    refine Keeps.bind (respects_readDisplay a) fun display =>
      Keeps.ite (fun _ => ?_) fun _ => Keeps.pure _
    refine Keeps.bind (hR.startServerOnce hK) fun started => ?_
    exact Keeps.ite (fun _ => Keeps.pure _) fun _ => ih (i + 1)

lemma startServer (hR : WorksBy K a R) (hK : StartStop K) : Respects R (Xdm.startServer a) :=
  Keeps.bind Keeps.get fun s => hR.startServerLoop hK (s.kernel.forks.length + 2) 0

lemma startSession (hR : WorksBy K a R) (hK : StartStop K) :
    Respects R (Xdm.startDisplay.startSession a) := by
  refine Keeps.bind hR.fork fun pid => ?_
  cases pid with
  | none => exact Keeps.pure _
  | some pid => exact hR.writeDisplay (hK.session _)

lemma startDisplay (hR : WorksBy K a R) (hK : StartStop K) : Respects R (Xdm.startDisplay w a) := by
  have hserver : ∀ d : Display, Respects R (if d.serverPid = -1 then do
      if ← Xdm.startServer a then Xdm.startDisplay.startSession a else Xdm.removeDisplay a
      else Xdm.startDisplay.startSession a : M Unit) := fun d =>
    Keeps.ite (fun _ => Keeps.bind (hR.startServer hK) fun started =>
      Keeps.ite (fun _ => hR.startSession hK) fun _ => hR.removeDisplay)
      fun _ => hR.startSession hK
  refine Keeps.bind (hR.writeDisplay (hK.resources _)) fun _ => ?_
  refine Keeps.bind (respects_readDisplay a) fun d => ?_
  refine Keeps.ite (fun _ => ?_) fun _ => hR.startSession hK
  exact Keeps.ite (fun _ => Keeps.bind (hR.emits trivial) fun _ => hserver d) fun _ => hserver d

lemma checkDisplayStatus (hR : WorksBy K a R) (hK : StartStop K) :
    Respects R (Xdm.checkDisplayStatus w a) := by
  intro s hs
  unfold Xdm.checkDisplayStatus
  rw [wlp_bind]
  refine wlp_readDisplay fun d _ hda => ?_
  have hstart : Respects R (Xdm.checkDisplayStatus.startIfPermanent w d) := by
    refine Keeps.ite (fun _ => ?_) fun _ => Keeps.pure _
    rw [hda]
    exact hR.startDisplay hK
  refine wlp_ite (fun _ => ?_) fun _ => (wlp_pure _ _ _).2 ⟨trivial, refl s⟩
  split
  · exact hR.stopDisplay hK s hs
  · exact (hR.writeDisplay (hK.state _)).seq hs (refl s) fun _ t ht h => hstart.last ht h
  · exact hstart s hs

lemma addDynamicDisplay (hR : WorksBy K a R) (hK : StartStop K) :
    Respects R (Xdm.addDynamicDisplay w a) :=
  Keeps.bind (respects_readDisplay a) fun _ => Keeps.ite
    (fun _ => Keeps.bind (hR.startDisplay hK) fun _ => Keeps.pure _) fun _ => Keeps.pure _

end WorksBy

namespace Works

variable [Std.Refl R] [IsTrans State R]

lemma startDisplay (hR : Works a R) : Respects R (Xdm.startDisplay w a) :=
  hR.worksBy.startDisplay KeepsIdentity.startStop

lemma checkDisplayStatus (hR : Works a R) : Respects R (Xdm.checkDisplayStatus w a) :=
  hR.worksBy.checkDisplayStatus KeepsIdentity.startStop

lemma addDynamicDisplay (hR : Works a R) : Respects R (Xdm.addDynamicDisplay w a) :=
  hR.worksBy.addDynamicDisplay KeepsIdentity.startStop

end Works

/-! ### The other displays -/

/-- All displays but the one at `a` are as they were. -/
def Only (a : Nat) (s s' : State) : Prop :=
  ∀ x, x.addr ≠ a → (x ∈ s'.displays ↔ x ∈ s.displays)

namespace Only

lemma refl (a : Nat) (s : State) : Only a s s := fun _ _ => Iff.rfl

lemma trans (h : Only a s s') (h' : Only a s' s'') : Only a s s'' :=
  fun x hx => (h' x hx).trans (h x hx)

lemma of_eq (h : s'.displays = s.displays) : Only a s s' := fun _ _ => by rw [h]

instance : Std.Refl (Only a) := ⟨refl a⟩
instance : IsTrans State (Only a) := ⟨fun _ _ _ => trans⟩

/-- Work on the display at `a` changes no other one. -/
lemma works (a : Nat) : Works a (Only a) where
  store := fun _ _ hf _ hx =>
    State.mem_write_of_ne (fun d => congrArg Identity.addr (hf d)) hx
  remove := fun _ _ hx => State.mem_remove.trans (and_iff_left hx)
  emit := fun _ _ _ => of_eq rfl
  kernel := fun _ _ => of_eq rfl

end Only

/-- No display has been entered in between. -/
def Shrinks (s s' : State) : Prop :=
  (s'.displays.map Display.identity).Sublist (s.displays.map Display.identity)

namespace Shrinks

lemma of_eq (h : s'.displays = s.displays) : Shrinks s s' := by
  rw [Shrinks, h]

instance : Std.Refl Shrinks := ⟨fun _ => of_eq rfl⟩
instance : IsTrans State Shrinks := ⟨fun _ _ _ h h' => List.Sublist.trans h' h⟩

lemma write {f : Display → Display} (hf : ∀ d, (f d).identity = d.identity) :
    Shrinks s (s.write a f) := by
  have hmap : (s.write a f).displays.map Display.identity = s.displays.map Display.identity :=
    Keyed.map_modify fun d _ _ => hf d
  rw [Shrinks, hmap]

lemma works (a : Nat) : Works a Shrinks where
  store := fun _ _ hf => write hf
  remove := fun _ => List.filter_sublist.map _
  emit := fun _ _ _ => of_eq rfl
  kernel := fun _ _ => of_eq rfl

/-- Whoever is there has been there. -/
lemma mem (h : Shrinks s s') {d' : Display} (hd' : d' ∈ s'.displays) :
    ∃ d ∈ s.displays, d.identity = d'.identity :=
  List.mem_map.1 (h.subset (List.mem_map_of_mem hd'))

end Shrinks

/-- The kernel has not been asked in between. -/
def SameKernel (s s' : State) : Prop := s'.kernel = s.kernel

instance : Std.Refl SameKernel := ⟨fun _ => rfl⟩
instance : IsTrans State SameKernel := ⟨fun _ _ _ h h' => Eq.trans h' h⟩

lemma SameKernel.moves (a : Nat) : Moves a SameKernel :=
  ⟨fun _ _ _ => rfl, fun _ => rfl, fun _ _ _ => rfl⟩

end Xdm
