/-
Starting the X server of a local display (`xdm/server.c`), and the process calls that the
daemon makes.
-/
import Xdm.Dpylist

namespace Xdm

/-! ### Processes -/

/-- `fork` in the daemon: a process id that no child still to be waited for has, or a
failure.  The program has no outcome when the script of the kernel's answers gives a pid
that `fork` cannot return. -/
def fork : M (Option Pid) := do
  let s ← get
  match s.kernel.forks with
  | [] => failure
  | none :: forks =>
    set { s with kernel := { s.kernel with forks := forks } }
    pure none
  | some pid :: forks =>
    if 0 < pid ∧ pid ∉ s.kernel.children then
      set { s with kernel := { s.kernel with
        forks := forks, children := pid :: s.kernel.children } }
      pure (some pid)
    else failure

/-- The kernel forgets a child that has been waited for. -/
def reap (pid : Pid) : M Unit :=
  modify fun s => { s with kernel := { s.kernel with
    children := s.kernel.children.filter (· ≠ pid) } }

def terminateProcess (pid : Pid) (signal : Int) : M Unit := do
  emit (.kill pid signal)
  emit (.kill pid sigcont)

/-! ### `StartServer` -/

/-- Wait for the server to come up.  Returns true if the server is dead; its exit status
has then been collected. -/
def serverPause (serverPid : Pid) : M Bool := do
  let s ← get
  match s.kernel.pauses with
  | [] => failure
  | dead :: pauses =>
    set { s with kernel := { s.kernel with pauses := pauses } }
    if dead then reap serverPid
    pure dead

def startServerOnce (d : Nat) : M Bool := do
  match ← fork with
  | none => pure false
  | some pid =>
    writeDisplay d fun display => { display with serverPid := pid }
    if ← serverPause pid then pure false else pure true

/-- The loop of `StartServer`; `i` is the number of attempts made.  The fuel is larger
than the number of answers of `fork` that are left, so it does not run out first. -/
def startServerLoop (d : Nat) : Nat → Int → M Bool
  | 0, _ => failure
  | n + 1, i => do
    let display ← readDisplay d
    let serverAttempts := display.resources.serverAttempts
    if serverAttempts = 0 ∨ i < serverAttempts then
      if ← startServerOnce d then pure true else startServerLoop d n (i + 1)
    else pure false

def startServer (d : Nat) : M Bool := do
  let s ← get
  startServerLoop d (s.kernel.forks.length + 2) 0

end Xdm
