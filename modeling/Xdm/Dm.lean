/-
The display manager (`xdm/dm.c`): starting, stopping and restarting displays, scanning the
servers file, and reacting to the deaths of sessions and servers.
-/
import Xdm.File
import Xdm.Server
import Xdm.Xdmcp.Replies

namespace Xdm

/-! ### Starting, stopping and restarting a display -/

/-- `StartDisplay`, in the daemon.  The session itself runs in the child. -/
def startDisplay (w : World) (d : Nat) : M Unit := do
  writeDisplay d fun display => { display with
    resources := w.serverResources display.name display.className }
  let display ← readDisplay d
  if display.displayType.location = .localHost then
    if display.resources.authorize ∧ display.serverPid ≠ -1 ∧
        display.resources.resetForAuth ∧ display.resources.resetSignal ≠ 0 then
      emit (.kill display.serverPid display.resources.resetSignal)
    if display.serverPid = -1 then
      if ← startServer d then startSession d
      else removeDisplay d
    else startSession d
  else startSession d
where
  startSession (d : Nat) : M Unit := do
    match ← fork with
    | none => pure ()
    | some pid => writeDisplay d fun display => { display with
        pid := pid, status := .running }

/-- Transition from running to zombie or deleted. -/
def stopDisplay (d : Nat) : M Unit := do
  let display ← readDisplay d
  if display.serverPid ≠ -1 then
    writeDisplay d fun display => { display with status := .zombie }
  if display.pid ≠ -1 then
    terminateProcess display.pid sigterm
  if display.serverPid ≠ -1 then
    terminateProcess display.serverPid display.resources.termSignal
  else
    removeDisplay d

/-- Transition from running to phoenix or notRunning. -/
def restartDisplay (d : Nat) (forceReserver : Bool) : M Unit := do
  let display ← readDisplay d
  if display.serverPid ≠ -1 ∧ (forceReserver ∨ display.resources.terminateServer) then
    terminateProcess display.serverPid display.resources.termSignal
    writeDisplay d fun display => { display with status := .phoenix }
  else
    writeDisplay d fun display => { display with status := .notRunning }

def checkDisplayStatus (w : World) (d : Nat) : M Unit := do
  let display ← readDisplay d
  if display.displayType.origin = .fromFile then
    match display.state with
    | .missingEntry => stopDisplay d
    | .newEntry =>
      writeDisplay d fun display => { display with state := .oldEntry }
      startIfPermanent display
    | .oldEntry => startIfPermanent display
where
  startIfPermanent (display : Display) : M Unit :=
    if display.displayType.lifetime = .permanent ∧ display.status = .notRunning then
      startDisplay w display.addr
    else pure ()

def startDisplays (w : World) : M Unit := forEachDisplay (checkDisplayStatus w)

def addDynamicDisplay (w : World) (d : Nat) : M Bool := do
  let display ← readDisplay d
  if display.displayType.origin = .fromFile ∧ display.displayType.lifetime = .transient ∧
      display.status = .notRunning then
    startDisplay w d
    pure true
  else pure false

def addDisplay (w : World) : M Unit := do
  let _ ← untilDisplay (addDynamicDisplay w)
  pure ()

/-- The handler of `SIGTERM` and `SIGINT` in the daemon itself. -/
def stopAll : M Unit := forEachDisplay stopDisplay

/-! ### The servers file -/

def scanServers (w : World) : M Unit := do
  let s ← get
  if s.config.servers.head? = some '/' then
    match w.serversText with
    | none => pure ()
    | some lines => lines.forM parseDisplay
  else parseDisplay s.config.servers

def markDisplay (d : Nat) : M Unit :=
  writeDisplay d fun display => { display with state := .missingEntry }

/-- `ReinitResources` and `LoadDMResources`. -/
def loadConfig (w : World) : M Unit := modify fun s => { s with config := w.config }

def loadDatabase (w : World) : M Unit :=
  modify fun s => { s with database := scanAccessDatabase w s.config }

def rescanServers (w : World) : M Unit := do
  forEachDisplay markDisplay
  loadConfig w
  scanServers w
  loadDatabase w
  startDisplays w

def rescanIfMod (w : World) : M Unit := do
  if w.configChanged then loadConfig w
  let s ← get
  if s.config.servers.head? = some '/' ∧ w.serversChanged then
    forEachDisplay markDisplay
    scanServers w
  if s.config.accessFile ≠ [] ∧ w.accessChanged then loadDatabase w

/-! ### Deaths of children -/

/-- The status that `waitpid` delivers for a child that has ended. -/
inductive WaitStatus
  | exited (code : UInt8)
  | signaled (signal : Nat)
deriving DecidableEq

/-- `waitVal (status)`. -/
def WaitStatus.val : WaitStatus → Int
  | .exited code => code.toNat
  | .signaled signal => signal * 256

def obeysessDisplay : Int := 0
def remanageDisplay : Int := 1
def unmanageDisplay : Int := 2
def reserverDisplay : Int := 3
def openfailedDisplay : Int := 4

/-- `XDM_BROKEN_INTERVAL`. -/
def xdmBrokenInterval : Time := 120

/-- `d->displayType.origin == FromXDMCP || d->status == zombie ||
++d->startTries >= d->startAttempts`. -/
def lastStart (d : Nat) : M Bool := do
  let display ← readDisplay d
  if display.displayType.origin = .fromXDMCP ∨ display.status = .zombie then pure true
  else
    writeDisplay d fun display => { display with startTries := display.startTries + 1 }
    pure (decide (display.resources.startAttempts ≤ display.startTries + 1))

/-- The case `RESERVER_DISPLAY` for a display that may be started again.  The store at
the end follows the pointer even if `StopDisplay` has freed the display. -/
def reserver (d : Nat) (now : Time) : M Unit := do
  let display ← readDisplay d
  let crash : Bool := display.lastReserv ≠ 0 ∧ now - display.lastReserv < xdmBrokenInterval
  if crash then
    writeDisplay d fun display => { display with reservTries := display.reservTries + 1 }
  else
    writeDisplay d fun display => { display with reservTries := 0 }
  if crash ∧ display.resources.reservAttempts ≤ display.reservTries + 1 then stopDisplay d
  else restartDisplay d true
  writeDisplay d fun display => { display with lastReserv := now }

def clearStartTries (d : Nat) : M Unit :=
  writeDisplay d fun display => { display with startTries := 0 }

/-- What `WaitForChild` does when the session of the display `d` has ended. -/
def sessionEnded (w : World) (d : Nat) (val : Int) : M Unit := do
  writeDisplay d fun display => { display with pid := -1 }
  let display ← readDisplay d
  if val = unmanageDisplay then stopDisplay d
  else if val = obeysessDisplay then
    clearStartTries d
    writeDisplay d fun display => { display with reservTries := 0 }
    if display.displayType.lifetime ≠ .permanent ∨ display.status = .zombie then
      stopDisplay d
    else restartDisplay d false
  else if val = openfailedDisplay then
    if display.displayType.origin = .fromXDMCP then
      sendFailed d "Cannot open display".toList
    if ← lastStart d then stopDisplay d else restartDisplay d true
  else if val = reserverDisplay then
    clearStartTries d
    if display.displayType.origin = .fromXDMCP ∨ display.status = .zombie then stopDisplay d
    else reserver d w.time
  else if val = sigterm * 256 then
    if ← lastStart d then stopDisplay d else restartDisplay d true
  else if val = remanageDisplay then
    clearStartTries d
    if display.displayType.origin = .fromXDMCP ∨ display.status = .zombie then stopDisplay d
    else restartDisplay d false
  else stopDisplay d

/-- What `WaitForChild` does when the server of the display `d` has ended. -/
def serverEnded (d : Nat) : M Unit := do
  writeDisplay d fun display => { display with serverPid := -1 }
  let display ← readDisplay d
  match display.status with
  | .zombie => removeDisplay d
  | .phoenix => writeDisplay d fun display => { display with status := .notRunning }
  | .running => if display.pid ≠ -1 then terminateProcess display.pid sigterm
  | .notRunning => pure ()

/-- A child that `waitpid` reports, and the world at that moment. -/
structure Exit where
  pid : Pid
  status : WaitStatus
  world : World

/-- The part of the loop that finds the display whose session or server has ended. -/
def displayEnded (e : Exit) : M Unit := do
  let s ← get
  match findDisplayByPid e.pid s.displays with
  | some d => sessionEnded e.world d.addr e.status.val
  | none =>
    match findDisplayByServerPid e.pid s.displays with
    | some d => serverEnded d.addr
    | none => pure ()

/-- One turn of the loop of `WaitForChild`.  Only a child that has been forked and not
been waited for can be reported. -/
def childEnded (e : Exit) : M Unit := do
  let s ← get
  if e.pid ∈ s.kernel.children then
    reap e.pid
    if s.config.autoRescan then rescanIfMod e.world
    displayEnded e
  else failure

def waitForChild (w : World) (exits : List Exit) : M Unit := do
  exits.forM childEnded
  startDisplays w

end Xdm
