/-
The list of known displays (`xdm/dpylist.c`).
-/
import Xdm.State

namespace Xdm

/-! ### Walking the list -/

/-- Call `f` on every display.  The displays are those in the list at the start: `f` may
unlink only the one it is called on. -/
def forEachDisplay (f : Nat → M Unit) : M Unit := do
  let s ← get
  (s.displays.map Display.addr).forM f

/-- Call `f` on the displays `ds` until one call returns true. -/
def untilDisplayLoop (f : Nat → M Bool) : List Nat → M Bool
  | [] => pure false
  | d :: ds => do
    if ← f d then pure true else untilDisplayLoop f ds

def untilDisplay (f : Nat → M Bool) : M Bool := do
  let s ← get
  untilDisplayLoop f (s.displays.map Display.addr)

/-! ### Finding a display -/

def findDisplayByName (name : Str) (displays : List Display) : Option Display :=
  displays.find? fun d => name = d.name

def findDisplayByPid (pid : Pid) (displays : List Display) : Option Display :=
  displays.find? fun d => pid = d.pid

def findDisplayByServerPid (serverPid : Pid) (displays : List Display) : Option Display :=
  displays.find? fun d => serverPid = d.serverPid

def findDisplayBySessionID (sessionID : CARD32) (displays : List Display) :
    Option Display :=
  displays.find? fun d => sessionID = d.sessionID

def findDisplayByAddress (addr : Netaddr) (displayNumber : CARD16)
    (displays : List Display) : Option Display :=
  displays.find? fun d => d.displayType.origin = .fromXDMCP ∧
    d.displayNumber = displayNumber ∧ addressEqual d.fromAddr addr

section

variable {displays : List Display} {d : Display}

lemma findDisplayByPid_some {pid : Pid} (h : findDisplayByPid pid displays = some d) :
    d ∈ displays ∧ d.pid = pid := by
  have hd := List.find?_some h
  exact ⟨List.mem_of_find?_eq_some h, (of_decide_eq_true hd).symm⟩

lemma findDisplayByPid_none {pid : Pid} (h : findDisplayByPid pid displays = none) :
    ∀ d ∈ displays, d.pid ≠ pid :=
  fun d hd hp => List.find?_eq_none.1 h d hd (decide_eq_true hp.symm)

lemma findDisplayByServerPid_some {pid : Pid}
    (h : findDisplayByServerPid pid displays = some d) : d ∈ displays ∧ d.serverPid = pid := by
  have hd := List.find?_some h
  exact ⟨List.mem_of_find?_eq_some h, (of_decide_eq_true hd).symm⟩

lemma findDisplayByServerPid_none {pid : Pid}
    (h : findDisplayByServerPid pid displays = none) : ∀ d ∈ displays, d.serverPid ≠ pid :=
  fun d hd hp => List.find?_eq_none.1 h d hd (decide_eq_true hp.symm)

end

/-! ### Removing and creating -/

def removeDisplay (old : Nat) : M Unit := do
  let s ← get
  match Keyed.find Display.addr old s.displays with
  | some _ => set { s with displays := eraseAt old s.displays, freed := old :: s.freed }
  | none => pure ()

/-- The resources of a display before `LoadServerResources` has run. -/
def noResources : ServerResources :=
  ⟨0, 0, 0, false, 0, 0, false, false⟩

/-- The structure `NewDisplay` fills in at the address `addr`. -/
def newDisplayAt (addr : Nat) (name : Str) (className : Option Str) : Display where
  addr := addr
  name := name
  className := className
  displayType := ⟨.foreign, .transient, .fromXDMCP⟩
  argv := none
  status := .notRunning
  pid := -1
  serverPid := -1
  state := .newEntry
  startTries := 0
  lastReserv := 0
  reservTries := 0
  sessionID := 0
  fromAddr := ⟨.unspec, 0⟩
  displayNumber := 0
  useChooser := false
  clientAddr := []
  connectionType := 0
  xdmcpFd := -1
  authorizations := []
  resources := noResources

/-- Put a new display in front of the list and return its address. -/
def newDisplay (name : Str) (className : Option Str) : M Nat := do
  let s ← get
  set { s with
    displays := newDisplayAt s.nextAddr name className :: s.displays
    nextAddr := s.nextAddr + 1 }
  pure s.nextAddr

end Xdm
