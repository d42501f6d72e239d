/-
The daemon as a machine: `main` calls one of the operations below, over and over, and what
the rest of the world does while the operation runs comes with its input.

An operation starts only if no display in the list has been freed; what a daemon does that
walks over such a display cannot be said.
-/
import Xdm.Lib.Run
import Xdm.Xdmcp.Process

namespace Xdm

/-- The operations of the main loop and of the signal handlers.  `main` takes `startUp`
first and once. -/
inductive Input
  | startUp (w : World)
  | rescanServers (w : World)
  | addDisplay (w : World)
  | startDisplays (w : World)
  | stopAll
  | waitForChild (w : World) (exits : List Exit)
  | datagram (w : World) (fd : Int) (sender : Netaddr) (bytes : ARRAY8)
  | registerIndirectChoice (w : World) (clientAddress : ARRAY8) (connectionType : CARD16)
      (choice : ARRAY8)

/-- The answers of `fork` and the outcomes of `serverPause` during an operation. -/
def Input.kernel : Input → List (Option Pid) × List Bool
  | .stopAll => ([], [])
  | .startUp w | .rescanServers w | .addDisplay w | .startDisplays w | .waitForChild w _
  | .datagram w _ _ _ | .registerIndirectChoice w _ _ _ => (w.forks, w.pauses)

/-- The worlds of an input. -/
def Input.worlds : Input → List World
  | .stopAll => []
  | .waitForChild w exits => w :: exits.map Exit.world
  | .startUp w | .rescanServers w | .addDisplay w | .startDisplays w
  | .datagram w _ _ _ | .registerIndirectChoice w _ _ _ => [w]

def startUp (w : World) : M Unit := do
  loadConfig w
  loadDatabase w
  scanServers w
  startDisplays w

def Input.operation : Input → M Unit
  | .startUp w => Xdm.startUp w
  | .rescanServers w => Xdm.rescanServers w
  | .addDisplay w => Xdm.addDisplay w
  | .startDisplays w => Xdm.startDisplays w
  | .stopAll => Xdm.stopAll
  | .waitForChild w exits => Xdm.waitForChild w exits
  | .datagram w fd sender bytes => processRequestSocket w fd sender bytes
  | .registerIndirectChoice w clientAddress connectionType choice =>
    Xdm.registerIndirectChoice w clientAddress connectionType choice

/-- Whether the list still holds a display that has been freed. -/
def State.dangling (s : State) : Bool := s.displays.any fun d => d.addr ∈ s.freed

/-- The state in which an operation starts: nothing done yet, the answers to come known. -/
def State.begin (i : Input) (s : State) : State :=
  { s with
    out := []
    kernel := { s.kernel with forks := i.kernel.1, pauses := i.kernel.2 } }

def step (i : Input) : M Unit := do
  let s ← get
  if s.dangling then failure
  else
    set (s.begin i)
    i.operation

/-- The daemon before it has started anything; `globalSessionID` is random. -/
def State.initial (config : Config) (globalSessionID : Nat) : State where
  config := config
  database := []
  displays := []
  protoDisplays := []
  globalSessionID := globalSessionID
  indirectUsers := []
  choices := []
  kernel := ⟨[], [], []⟩
  nextAddr := 0
  freed := []
  out := []

/-- The runs of the daemon. -/
abbrev DaemonRun (config : Config) (globalSessionID : Nat) :
    List (Prog.Step State Input) → State → Prop :=
  Prog.Run step (State.initial config globalSessionID)

/-! ### A small network -/

/-- A display at the address `10.0.0.2`. -/
def Netaddr.guest : Netaddr := ⟨.inet ⟨[0x80, 0], rfl⟩ ⟨[10, 0, 0, 2], rfl⟩, 16⟩

/-- What a display with this number asks for. -/
def Request.plain (displayNumber : CARD16) (authorizationNames : List ARRAY8) : Request where
  displayNumber := displayNumber
  connectionTypes := [familyInternet]
  connectionAddresses := [[10, 0, 0, 2]]
  authenticationName := []
  authenticationData := []
  authorizationNames := authorizationNames
  manufacturerDisplayID := []

/-- A configuration that admits everybody. -/
def Config.open : Config := { Config.plain with accessFile := [] }

/-- A world with the network of the display, in which `fork` returns `pid` and the random
bytes are all `cookie`. -/
def World.lan (pid : Pid) (cookie : UInt8) : World :=
  { World.silent with
    config := Config.open
    inetNtop := fun _ _ => some "10.0.0.2".toList
    forks := [some pid]
    generateAuthData := fun n => some (List.replicate n cookie) }

def Input.request (w : World) (sender : Netaddr) (r : Request) : Input :=
  .datagram w 3 sender r.datagram

def Input.manage (w : World) (sender : Netaddr) (m : Manage) : Input :=
  .datagram w 3 sender m.datagram

end Xdm
