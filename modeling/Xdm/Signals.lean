/-
# Signals and the main loop

The handlers of `SIGHUP`, `SIGUSR2` and `SIGCHLD` set a flag each; `main`, `WaitForSomething` and
`WaitForChild` test the flags, clear them and do the work.  Here these functions are taken
statement by statement, and between any two statements a signal may be sent.

A flag that is cleared after its work takes a signal along that has come meanwhile, and a flag
that is tested before `select` or `sigsuspend` and not again may be set when the daemon blocks.
This file says that nothing else loses a signal.
-/
import Xdm.Base
import Xdm.Lib.Run

namespace Xdm

open Prog

/-! ### The statements -/

/-- The statement that is executed next.  `RescanServers`, `AddDisplay`, the service of the
sockets, the loop body of `WaitForChild` and `StartDisplays` count as one statement, in which
children may be waited for. -/
inductive Point
  -- `main`
  /-- `while (AnyWellKnownSockets () || AnyDisplaysLeft ())` -/
  | whileLeft
  /-- `if (Rescan)` -/
  | testRescan
  /-- `RescanServers ()`, before it reads -/
  | callRescan
  | rescanServers
  /-- `Rescan = 0` -/
  | clearRescan
  /-- `if (AddOne)` -/
  | testAddOne
  | callAdd
  | addDisplay
  /-- `AddOne = 0` -/
  | clearAddOne
  -- `WaitForSomething`
  /-- `AnyWellKnownSockets () && ..` -/
  | testSockets
  /-- `.. && !ChildReady` -/
  | testReady
  /-- `reads = WellKnownSocketsMask` -/
  | copyMask
  /-- `select`, before it blocks -/
  | callSelect
  | inSelect
  /-- `ProcessChooserSocket`, `ProcessListenSockets` -/
  | serve
  /-- `if (ChildReady) WaitForChild ()` -/
  | testReadyAgain
  -- `WaitForChild`
  /-- `sigprocmask (SIG_BLOCK, ..)` -/
  | blockSignals
  /-- `if (!ChildReady && !Rescan)` -/
  | testQuiet
  /-- `sigsuspend`, before it blocks -/
  | callSuspend
  | inSuspend
  /-- `ChildReady = 0` -/
  | clearReady
  /-- `sigprocmask (SIG_SETMASK, ..)` -/
  | unblockSignals
  /-- `while ((pid = waitpid (-1, &status, WNOHANG)) > 0)` -/
  | waitpid
  | childEnded
  | startDisplays
  -- `exit (0)`
  | exits
deriving DecidableEq, Repr

/-- The flags, the signals that are held back, and what is still to be done. -/
structure MainLoop where
  point : Point
  /-- `Rescan` -/
  rescan : Bool
  /-- `AddOne` -/
  addOne : Bool
  /-- `ChildReady` -/
  childReady : Bool
  /-- `SIGCHLD` and `SIGHUP` are blocked. -/
  blocked : Bool
  /-- A `SIGHUP` has been sent while it was blocked. -/
  hangupPending : Bool
  /-- Children that have ended while `SIGCHLD` was blocked and have not been waited for. -/
  pending : List Pid
  /-- Children that have ended, whose `SIGCHLD` has been delivered, and that have not been waited
  for. -/
  ended : List Pid
  /-- A signal has been delivered since the daemon has blocked. -/
  woken : Bool
  /-- A `SIGHUP` has been delivered since `RescanServers` last began to read. -/
  rescanDue : Bool
  /-- A `SIGUSR2` has been delivered since `AddDisplay` last began. -/
  addDue : Bool
deriving DecidableEq

/-- A statement is executed, or a signal is sent. -/
inductive Act
  /-- The next statement.  `answer` is the value of a test that others decide: whether sockets are
  open, displays left, sockets ready; `waitpid` returns `pid` if a child has ended. -/
  | run (answer : Bool) (pid : Pid)
  /-- Code inside the next statement waits for the child `pid`, which has ended. -/
  | collect (pid : Pid)
  | sighup
  | sigusr2
  /-- The child `pid` ends. -/
  | sigchld (pid : Pid)

/-! ### The handlers -/

namespace MainLoop

/-- `RescanNotify`. -/
def rescanNotify (s : MainLoop) : MainLoop :=
  { s with rescan := true, rescanDue := true, woken := true }

/-- `AddRequest`. -/
def addRequest (s : MainLoop) : MainLoop :=
  { s with addOne := true, addDue := true, woken := true }

/-- `ChildNotify`, for the children `pids`. -/
def childNotify (s : MainLoop) (pids : List Pid) : MainLoop :=
  { s with childReady := true, ended := pids ++ s.ended, woken := true }

/-- The signals that have been held back are delivered, and their handlers run. -/
def unblock (s : MainLoop) : MainLoop :=
  { s with
    blocked := false
    hangupPending := false
    pending := []
    rescan := s.hangupPending || s.rescan
    rescanDue := s.hangupPending || s.rescanDue
    childReady := !s.pending.isEmpty || s.childReady
    ended := s.pending ++ s.ended
    woken := s.hangupPending || !s.pending.isEmpty || s.woken }

/-- The child `pid` has been waited for. -/
def forget (s : MainLoop) (pid : Pid) : MainLoop :=
  { s with pending := s.pending.erase pid, ended := s.ended.erase pid }

def goto (s : MainLoop) (point : Point) : MainLoop := { s with point := point }

/-! ### The main loop -/

/-- The statement at the point.  There is no next state where the daemon is blocked and nothing
has happened, where `waitpid` is said to return a child that has not ended, and after `exit`. -/
def run (s : MainLoop) (answer : Bool) (pid : Pid) : Option MainLoop :=
  match s.point with
  | .whileLeft => some (s.goto (if answer then .testRescan else .exits))
  | .testRescan => some (s.goto (if s.rescan then .callRescan else .testAddOne))
  | .callRescan => some { s with point := .rescanServers, rescanDue := false }
  | .rescanServers => some (s.goto .clearRescan)
  | .clearRescan => some { s with point := .testAddOne, rescan := false }
  | .testAddOne => some (s.goto (if s.addOne then .callAdd else .testSockets))
  | .callAdd => some { s with point := .addDisplay, addDue := false }
  | .addDisplay => some (s.goto .clearAddOne)
  | .clearAddOne => some { s with point := .testSockets, addOne := false }
  | .testSockets => some (s.goto (if answer then .testReady else .blockSignals))
  | .testReady => some (s.goto (if s.childReady then .blockSignals else .copyMask))
  | .copyMask => some (s.goto .callSelect)
  | .callSelect => some { s with point := .inSelect, woken := false }
  | .inSelect =>
    -- `nready` is positive, or `select` has been interrupted
    if answer then some (s.goto .serve)
    else if s.woken then some (s.goto .testReadyAgain) else none
  | .serve => some (s.goto .testReadyAgain)
  | .testReadyAgain => some (s.goto (if s.childReady then .blockSignals else .whileLeft))
  | .blockSignals => some { s with point := .testQuiet, blocked := true }
  | .testQuiet =>
    some (s.goto (if !s.childReady && !s.rescan then .callSuspend else .clearReady))
  | .callSuspend => some { s with point := .inSuspend, woken := false }.unblock
  | .inSuspend => if s.woken then some { s with point := .clearReady, blocked := true } else none
  | .clearReady => some { s with point := .unblockSignals, childReady := false }
  | .unblockSignals => some { s with point := .waitpid }.unblock
  | .waitpid =>
    if s.ended = [] ∧ s.pending = [] then some (s.goto .startDisplays)
    else if pid ∈ s.ended ∨ pid ∈ s.pending then some ((s.forget pid).goto .childEnded)
    else none
  | .childEnded => some (s.goto .waitpid)
  | .startDisplays => some (s.goto .whileLeft)
  | .exits => none

end MainLoop

/-- The statements whose code may wait for a child. -/
def Point.waits : Point → Bool
  | .rescanServers | .addDisplay | .serve | .childEnded | .startDisplays => true
  | _ => false

def Act.next (s : MainLoop) : Act → Option MainLoop
  | .run answer pid => s.run answer pid
  | .collect pid => if s.point.waits ∧ pid ∈ s.ended then some (s.forget pid) else none
  | .sighup => some (if s.blocked then { s with hangupPending := true } else s.rescanNotify)
  | .sigusr2 => some s.addRequest
  | .sigchld pid =>
    some (if s.blocked then { s with pending := pid :: s.pending } else s.childNotify [pid])

def Act.perform (i : Act) : Prog MainLoop Unit := fun s => (i.next s).map fun s' => ((), s')

/-- The daemon enters the main loop. -/
def MainLoop.start : MainLoop where
  point := .whileLeft
  rescan := false
  addOne := false
  childReady := false
  blocked := false
  hangupPending := false
  pending := []
  ended := []
  woken := false
  rescanDue := false
  addDue := false

/-- Runs of the main loop, with the signals in any order. -/
abbrev MainLoopRun : List (Prog.Step MainLoop Act) → MainLoop → Prop :=
  Prog.Run Act.perform MainLoop.start

/-! ### Work that is due -/

/-- The next statement blocks. -/
def Point.blocks : Point → Bool
  | .callSelect | .callSuspend => true
  | _ => false

/-- A signal has been delivered whose work is still to be done. -/
def MainLoop.Due (s : MainLoop) : Prop := s.rescanDue = true ∨ s.addDue = true ∨ s.ended ≠ []

/-- The daemon is between the test of its flags and `select`. -/
def Point.entersSelect : Point → Bool
  | .copyMask | .callSelect => true
  | _ => false

/-- What keeps the signals from being lost.  No `SIGHUP` comes while `RescanServers` reads or
before its flag is cleared, and no `SIGUSR2` while `AddDisplay` runs or before its flag is cleared;
none comes between the test of `ChildReady` and `select`, and no `SIGUSR2` between the test of the
flags in `WaitForChild` and `sigsuspend`; and the flags that are not tested there are clear when
`ChildReady` sends the daemon to `select`, or the test in `WaitForChild` to `sigsuspend`. -/
def Act.safe (s : MainLoop) : Act → Bool
  | .run _ _ =>
    match s.point with
    | .testReady => s.childReady || !s.rescan && !s.addOne
    | .testQuiet => s.childReady || s.rescan || !s.addOne
    | _ => true
  | .collect _ => true
  | .sighup => s.blocked ||
    !(s.point = .rescanServers || s.point = .clearRescan || s.point.entersSelect)
  | .sigusr2 => !(s.point = .addDisplay || s.point = .clearAddOne || s.point.entersSelect ||
    s.point = .callSuspend)
  | .sigchld _ => s.blocked || !s.point.entersSelect

/-! ### The invariant -/

/-- The loop of `WaitForChild` has still to ask for children. -/
def Point.asks : Point → Bool
  | .unblockSignals | .waitpid | .childEnded => true
  | _ => false

/-- `SIGCHLD` and `SIGHUP` are blocked. -/
def Point.masks : Point → Bool
  | .testQuiet | .callSuspend | .clearReady | .unblockSignals => true
  | _ => false

/-- What is due is in the flags, or is about to be done. -/
structure MainLoop.Kept (s : MainLoop) : Prop where
  blocked : s.blocked = s.point.masks
  rescan : s.rescanDue = true →
    s.rescan = true ∧ s.point ≠ .rescanServers ∧ s.point ≠ .clearRescan
  addOne : s.addDue = true → s.addOne = true ∧ s.point ≠ .addDisplay ∧ s.point ≠ .clearAddOne
  ended : s.ended ≠ [] → s.childReady = true ∨ s.point.asks = true
  select : s.point.entersSelect = true →
    s.rescan = false ∧ s.addOne = false ∧ s.childReady = false
  suspend : s.point = .callSuspend →
    s.rescan = false ∧ s.addOne = false ∧ s.childReady = false

variable {s s' : MainLoop} {i : Act} {h : List (Step MainLoop Act)}

lemma kept_start : MainLoop.start.Kept :=
  ⟨rfl, by simp [MainLoop.start], by simp [MainLoop.start], by simp [MainLoop.start],
    by simp [MainLoop.start, Point.entersSelect], by simp [MainLoop.start]⟩

/-- When the daemon is about to block all flags are clear, and nothing is due. -/
lemma MainLoop.Kept.not_due (hs : s.Kept) (hblocks : s.point.blocks = true) : ¬ s.Due := by
  have hclear : s.rescan = false ∧ s.addOne = false ∧ s.childReady = false ∧
      s.point.asks = false := by
    cases hpoint : s.point <;> simp only [hpoint, Point.blocks, Bool.false_eq_true] at hblocks
    · obtain ⟨h₁, h₂, h₃⟩ := hs.select (by rw [hpoint]; rfl)
      exact ⟨h₁, h₂, h₃, rfl⟩
    · obtain ⟨h₁, h₂, h₃⟩ := hs.suspend hpoint
      exact ⟨h₁, h₂, h₃, rfl⟩
  obtain ⟨hrescan, hadd, hready, hasks⟩ := hclear
  rintro (hdue | hdue | hdue)
  · have := hs.rescan hdue
    simp [hrescan] at this
  · have := hs.addOne hdue
    simp [hadd] at this
  · have := hs.ended hdue
    simp [hready, hasks] at this

/-! ### The signals -/

lemma kept_sighup (hs : s.Kept) (hsafe : Act.safe s .sighup = true)
    (hnext : Act.next s .sighup = some s') : s'.Kept := by
  simp only [Act.next, Option.some.injEq] at hnext
  subst hnext
  split
  · exact ⟨hs.blocked, hs.rescan, hs.addOne, hs.ended, hs.select, hs.suspend⟩
  · next hopen =>
    simp only [Act.safe, hopen, Bool.false_or, Bool.not_eq_true', Bool.or_eq_false_iff,
      decide_eq_false_iff_not] at hsafe
    obtain ⟨⟨h₁, h₂⟩, h₃⟩ := hsafe
    refine ⟨hs.blocked, fun _ => ⟨rfl, h₁, h₂⟩, hs.addOne, hs.ended, fun hpoint => ?_,
      fun hpoint => ?_⟩
    · exact absurd hpoint (by simp [MainLoop.rescanNotify, h₃])
    · -- there the signal would be blocked
      have hblocked := hs.blocked
      simp only [MainLoop.rescanNotify] at hpoint
      rw [hpoint] at hblocked
      exact absurd hblocked hopen

lemma kept_sigusr2 (hs : s.Kept) (hsafe : Act.safe s .sigusr2 = true)
    (hnext : Act.next s .sigusr2 = some s') : s'.Kept := by
  simp only [Act.next, Option.some.injEq] at hnext
  subst hnext
  simp only [Act.safe, Bool.not_eq_true', Bool.or_eq_false_iff, decide_eq_false_iff_not] at hsafe
  obtain ⟨⟨⟨h₁, h₂⟩, h₃⟩, h₄⟩ := hsafe
  refine ⟨hs.blocked, hs.rescan, fun _ => ⟨rfl, h₁, h₂⟩, hs.ended, fun hpoint => ?_,
    fun hpoint => absurd hpoint h₄⟩
  exact absurd hpoint (by simp [MainLoop.addRequest, h₃])

lemma kept_sigchld {pid : Pid} (hs : s.Kept) (hsafe : Act.safe s (.sigchld pid) = true)
    (hnext : Act.next s (.sigchld pid) = some s') : s'.Kept := by
  simp only [Act.next, Option.some.injEq] at hnext
  subst hnext
  split
  · exact ⟨hs.blocked, hs.rescan, hs.addOne, hs.ended, hs.select, hs.suspend⟩
  · next hopen =>
    simp only [Act.safe, hopen, Bool.false_or, Bool.not_eq_true'] at hsafe
    refine ⟨hs.blocked, hs.rescan, hs.addOne, fun _ => Or.inl rfl, fun hpoint => ?_,
      fun hpoint => ?_⟩
    · exact absurd hpoint (by simp [MainLoop.childNotify, hsafe])
    · have hblocked := hs.blocked
      simp only [MainLoop.childNotify] at hpoint
      rw [hpoint] at hblocked
      exact absurd hblocked hopen

lemma kept_forget {pid : Pid} (hs : s.Kept) : (s.forget pid).Kept := by
  refine ⟨hs.blocked, hs.rescan, hs.addOne, fun hended => hs.ended fun hnil => hended ?_,
    hs.select, hs.suspend⟩
  simp [MainLoop.forget, hnil]

/-! ### The statements -/

/-- Where none of the flags must be clear, the signals that have been held back set them. -/
lemma kept_unblock (hmasks : s.point.masks = false) (henters : s.point.entersSelect = false)
    (hpoint : s.point ≠ .rescanServers ∧ s.point ≠ .clearRescan)
    (hrescan : s.rescanDue = true → s.rescan = true)
    (hadd : s.addDue = true → s.addOne = true ∧ s.point ≠ .addDisplay ∧ s.point ≠ .clearAddOne)
    (hended : s.ended ≠ [] → s.childReady = true ∨ s.point.asks = true) : s.unblock.Kept where
  blocked := hmasks.symm
  rescan := fun hdue => by
    have hset : (s.hangupPending || s.rescan) = true := by
      rw [MainLoop.unblock, Bool.or_eq_true] at hdue
      rw [Bool.or_eq_true]
      exact hdue.imp_right hrescan
    exact ⟨hset, hpoint⟩
  addOne := hadd
  ended := fun hne => by
    cases hpending : s.pending with
    | nil =>
      have hold : s.ended ≠ [] := by simpa [MainLoop.unblock, hpending] using hne
      refine (hended hold).imp_left fun hready => ?_
      rw [MainLoop.unblock, hready, Bool.or_true]
    | cons pid pids => exact Or.inl (by simp [MainLoop.unblock, hpending])
  select := fun hselect => absurd hselect (by simp [MainLoop.unblock, henters])
  suspend := fun hsuspend => by
    have hpoint : s.point = .callSuspend := hsuspend
    rw [hpoint] at hmasks
    cases hmasks

/-- Points at which flags must be clear, or work has begun whose flag is still set. -/
def Point.special : Point → Bool
  | .rescanServers | .clearRescan | .addDisplay | .clearAddOne | .copyMask | .callSelect
  | .callSuspend => true
  | _ => false

lemma Point.ne_of_special {point : Point} (h : point.special = false) :
    (point ≠ .rescanServers ∧ point ≠ .clearRescan) ∧
      (point ≠ .addDisplay ∧ point ≠ .clearAddOne) ∧
      point.entersSelect = false ∧ point ≠ .callSuspend := by
  cases point <;> simp_all [Point.special, Point.entersSelect]

/-- A statement that leads to another point, and what it may do to the flags. -/
lemma kept_leads (hs : s.Kept) (hblocked : s'.blocked = s'.point.masks)
    (hspecial : s'.point.special = false)
    (hrescan : s'.rescanDue = true → s.rescanDue = true ∧ s'.rescan = s.rescan)
    (hadd : s'.addDue = true → s.addDue = true ∧ s'.addOne = s.addOne)
    (hended : s'.ended ≠ [] → s.ended ≠ [] ∧ (s'.point.asks = true ∨
      s'.childReady = s.childReady ∧ s.point.asks = false)) : s'.Kept := by
  obtain ⟨h₁, h₂, h₃, h₄⟩ := Point.ne_of_special hspecial
  refine ⟨hblocked, fun hdue => ⟨?_, h₁⟩, fun hdue => ⟨?_, h₂⟩, fun hne => ?_,
    fun hselect => ?_, fun hsuspend => absurd hsuspend h₄⟩
  · rw [(hrescan hdue).2]
    exact (hs.rescan (hrescan hdue).1).1
  · rw [(hadd hdue).2]
    exact (hs.addOne (hadd hdue).1).1
  · obtain ⟨hold, hasks | ⟨hready, hasks⟩⟩ := hended hne
    · exact Or.inr hasks
    · rw [hready]
      exact Or.inl ((hs.ended hold).resolve_right (by simp [hasks]))
  · rw [h₃] at hselect
    cases hselect

/-- A statement that only leads to another point. -/
lemma kept_goto {point : Point} (hs : s.Kept) (hmasks : point.masks = s.point.masks)
    (hspecial : point.special = false) (hasks : point.asks = true ∨ s.point.asks = false) :
    (s.goto point).Kept :=
  kept_leads hs (hs.blocked.trans hmasks.symm) hspecial (fun hdue => ⟨hdue, rfl⟩)
    (fun hdue => ⟨hdue, rfl⟩) fun hne => ⟨hne, hasks.imp_right fun h => ⟨rfl, h⟩⟩

/-- Outside the loop of `WaitForChild` an ended child shows in the flag. -/
lemma MainLoop.Kept.ready (hs : s.Kept) (hasks : s.point.asks = false) (hended : s.ended ≠ []) :
    s.childReady = true :=
  (hs.ended hended).resolve_right (by simp [hasks])

/-- No `SIGHUP` has come since `RescanServers` began to read. -/
lemma MainLoop.Kept.not_rescanDue (hs : s.Kept)
    (hpoint : s.point = .rescanServers ∨ s.point = .clearRescan) : s.rescanDue = false := by
  by_contra hdue
  obtain ⟨-, h₁, h₂⟩ := hs.rescan (by simpa using hdue)
  exact hpoint.elim h₁ h₂

lemma MainLoop.Kept.not_addDue (hs : s.Kept)
    (hpoint : s.point = .addDisplay ∨ s.point = .clearAddOne) : s.addDue = false := by
  by_contra hdue
  obtain ⟨-, h₁, h₂⟩ := hs.addOne (by simpa using hdue)
  exact hpoint.elim h₁ h₂

/-- `RescanServers` is at work, or has been and its flag is still set. -/
lemma kept_rescanning {point : Point} (hs : s.Kept) (hmasks : s.point.masks = false)
    (hasks : s.point.asks = false) (hpoint : point = .rescanServers ∨ point = .clearRescan)
    (hs' : s' = { s with point := point, rescanDue := false }) : s'.Kept := by
  subst hs'
  rcases hpoint with rfl | rfl
  all_goals exact ⟨hs.blocked.trans hmasks, by simp, fun hdue => ⟨(hs.addOne hdue).1, by simp⟩,
    fun hended => Or.inl (hs.ready hasks hended), by simp [Point.entersSelect], by simp⟩

lemma kept_adding {point : Point} (hs : s.Kept) (hmasks : s.point.masks = false)
    (hasks : s.point.asks = false) (hpoint : point = .addDisplay ∨ point = .clearAddOne)
    (hs' : s' = { s with point := point, addDue := false }) : s'.Kept := by
  subst hs'
  rcases hpoint with rfl | rfl
  all_goals exact ⟨hs.blocked.trans hmasks, fun hdue => ⟨(hs.rescan hdue).1, by simp⟩, by simp,
    fun hended => Or.inl (hs.ready hasks hended), by simp [Point.entersSelect], by simp⟩

/-- The daemon goes to block with all flags clear. -/
lemma kept_blocking {point : Point} (hs : s.Kept) (hmasks : point.masks = s.point.masks)
    (hasks : s.point.asks = false)
    (hclear : s.rescan = false ∧ s.addOne = false ∧ s.childReady = false) :
    (s.goto point).Kept := by
  obtain ⟨hrescan, hadd, hready⟩ := hclear
  refine ⟨hs.blocked.trans hmasks.symm, fun hdue => ?_, fun hdue => ?_, fun hended => ?_,
    fun _ => ⟨hrescan, hadd, hready⟩, fun _ => ⟨hrescan, hadd, hready⟩⟩
  · have := (hs.rescan hdue).1
    simp [hrescan] at this
  · have := (hs.addOne hdue).1
    simp [hadd] at this
  · have := hs.ready hasks hended
    simp [hready] at this

/-- A statement of the main loop. -/
lemma kept_run {answer : Bool} {pid : Pid} (hs : s.Kept)
    (hsafe : Act.safe s (.run answer pid) = true) (hrun : s.run answer pid = some s') :
    s'.Kept := by
  have hgoto : ∀ point : Point, point.masks = s.point.masks → point.special = false →
      s.point.asks = false → (s.goto point).Kept := fun point h₁ h₂ h₃ =>
    kept_goto hs h₁ h₂ (Or.inr h₃)
  have hblocked := hs.blocked
  unfold Act.safe at hsafe
  unfold MainLoop.run at hrun
  cases hpoint : s.point <;>
    simp only [hpoint, Option.some.injEq, reduceCtorEq] at hrun hsafe hgoto hblocked
  case whileLeft =>
    subst hrun
    cases answer <;> exact hgoto _ rfl rfl rfl
  case testRescan =>
    subst hrun
    cases s.rescan <;> exact hgoto _ rfl rfl rfl
  case callRescan =>
    exact kept_rescanning hs (by rw [hpoint]; rfl) (by rw [hpoint]; rfl) (Or.inl rfl) hrun.symm
  case rescanServers =>
    refine kept_rescanning hs (by rw [hpoint]; rfl) (by rw [hpoint]; rfl) (Or.inr rfl) ?_
    rw [← hrun, ← hs.not_rescanDue (Or.inl hpoint)]
    rfl
  case clearRescan =>
    subst hrun
    have hdue := hs.not_rescanDue (Or.inr hpoint)
    exact kept_leads hs hblocked rfl (by simp [hdue]) (fun hdue => ⟨hdue, rfl⟩)
      fun hne => ⟨hne, Or.inr ⟨rfl, by rw [hpoint]; rfl⟩⟩
  case testAddOne =>
    subst hrun
    cases s.addOne <;> exact hgoto _ rfl rfl rfl
  case callAdd =>
    exact kept_adding hs (by rw [hpoint]; rfl) (by rw [hpoint]; rfl) (Or.inl rfl) hrun.symm
  case addDisplay =>
    refine kept_adding hs (by rw [hpoint]; rfl) (by rw [hpoint]; rfl) (Or.inr rfl) ?_
    rw [← hrun, ← hs.not_addDue (Or.inl hpoint)]
    rfl
  case clearAddOne =>
    subst hrun
    have hdue := hs.not_addDue (Or.inr hpoint)
    exact kept_leads hs hblocked rfl (fun hdue => ⟨hdue, rfl⟩) (by simp [hdue])
      fun hne => ⟨hne, Or.inr ⟨rfl, by rw [hpoint]; rfl⟩⟩
  case testSockets =>
    subst hrun
    cases answer <;> exact hgoto _ rfl rfl rfl
  case testReady =>
    subst hrun
    cases hready : s.childReady with
    | true => exact hgoto _ rfl rfl rfl
    | false =>
      -- the flags that are not tested here are clear
      simp only [hready, Bool.false_or, Bool.and_eq_true, Bool.not_eq_true'] at hsafe
      exact kept_blocking hs (by rw [hpoint]; rfl) (by rw [hpoint]; rfl)
        ⟨hsafe.1, hsafe.2, hready⟩
  case copyMask =>
    subst hrun
    exact kept_blocking hs (by rw [hpoint]; rfl) (by rw [hpoint]; rfl)
      (hs.select (by rw [hpoint]; rfl))
  case callSelect =>
    subst hrun
    exact kept_leads hs hblocked rfl (fun hdue => ⟨hdue, rfl⟩) (fun hdue => ⟨hdue, rfl⟩)
      fun hne => ⟨hne, Or.inr ⟨rfl, by rw [hpoint]; rfl⟩⟩
  case inSelect =>
    cases answer <;> simp only [Bool.false_eq_true, if_false, if_true] at hrun
    · split_ifs at hrun
      obtain rfl := Option.some.inj hrun
      exact hgoto _ rfl rfl rfl
    · obtain rfl := Option.some.inj hrun
      exact hgoto _ rfl rfl rfl
  case serve =>
    subst hrun
    exact hgoto _ rfl rfl rfl
  case testReadyAgain =>
    subst hrun
    cases s.childReady <;> exact hgoto _ rfl rfl rfl
  case blockSignals =>
    subst hrun
    exact kept_leads hs rfl rfl (fun hdue => ⟨hdue, rfl⟩) (fun hdue => ⟨hdue, rfl⟩)
      fun hne => ⟨hne, Or.inr ⟨rfl, by rw [hpoint]; rfl⟩⟩
  case testQuiet =>
    subst hrun
    cases hquiet : !s.childReady && !s.rescan with
    | false => exact hgoto _ rfl rfl rfl
    | true =>
      simp only [Bool.and_eq_true, Bool.not_eq_true'] at hquiet
      simp only [hquiet.1, hquiet.2, Bool.false_or, Bool.not_eq_true'] at hsafe
      exact kept_blocking hs (by rw [hpoint]; rfl) (by rw [hpoint]; rfl)
        ⟨hquiet.2, hsafe, hquiet.1⟩
  case callSuspend =>
    subst hrun
    refine kept_unblock rfl rfl (by simp) (fun hdue => (hs.rescan hdue).1)
      (fun hdue => ⟨(hs.addOne hdue).1, by simp⟩) fun hended => Or.inl ?_
    exact hs.ready (by rw [hpoint]; rfl) hended
  case inSuspend =>
    split_ifs at hrun
    obtain rfl := Option.some.inj hrun
    exact kept_leads hs rfl rfl (fun hdue => ⟨hdue, rfl⟩) (fun hdue => ⟨hdue, rfl⟩)
      fun hne => ⟨hne, Or.inr ⟨rfl, by rw [hpoint]; rfl⟩⟩
  case clearReady =>
    subst hrun
    exact kept_leads hs hblocked rfl (fun hdue => ⟨hdue, rfl⟩) (fun hdue => ⟨hdue, rfl⟩)
      fun hne => ⟨hne, Or.inl rfl⟩
  case unblockSignals =>
    subst hrun
    exact kept_unblock rfl rfl (by simp) (fun hdue => (hs.rescan hdue).1)
      (fun hdue => ⟨(hs.addOne hdue).1, by simp⟩) fun _ => Or.inr rfl
  case waitpid =>
    split_ifs at hrun with hnone hpid
    · -- all children have been waited for
      obtain rfl := Option.some.inj hrun
      exact kept_leads hs hblocked rfl (fun hdue => ⟨hdue, rfl⟩) (fun hdue => ⟨hdue, rfl⟩)
        fun hne => absurd hnone.1 hne
    · obtain rfl := Option.some.inj hrun
      exact kept_goto (kept_forget hs) (by simp [MainLoop.forget, hpoint, Point.masks]) rfl
        (Or.inl rfl)
  case childEnded =>
    subst hrun
    exact kept_goto hs (by rw [hpoint]; rfl) rfl (Or.inl rfl)
  case startDisplays =>
    subst hrun
    exact hgoto _ rfl rfl rfl

/-! ### Runs -/

/-- A statement or a signal, where it does no harm. -/
lemma kept_next (hs : s.Kept) (hsafe : i.safe s = true) (hnext : i.next s = some s') :
    s'.Kept := by
  cases i with
  | run answer pid => exact kept_run hs hsafe hnext
  | collect pid =>
    simp only [Act.next] at hnext
    split_ifs at hnext
    obtain rfl := Option.some.inj hnext
    exact kept_forget hs
  | sighup => exact kept_sighup hs hsafe hnext
  | sigusr2 => exact kept_sigusr2 hs hsafe hnext
  | sigchld pid => exact kept_sigchld hs hsafe hnext

/-- Whatever the order of statements and signals: if all of them are where they do no harm,
nothing is due when the daemon is about to block. -/
theorem no_signal_lost (run : MainLoopRun h s) (hsafe : ∀ x ∈ h, x.input.safe x.pre = true)
    (hblocks : s.point.blocks = true) : ¬ s.Due := by
  have hkept : s.Kept :=
    run.invariant_of (C := fun x => x.input.safe x.pre = true) (I := fun _ s => s.Kept) kept_start
      (fun _ _ _ _ _ hs hstep hsafe => kept_next hs hsafe (next_of_step hstep)) hsafe
  exact hkept.not_due hblocks

/-- The next statement; a test that others decide is true. -/
def Act.yes : Act := .run true 0

/-- The next statement; a test that others decide is false. -/
def Act.no : Act := .run false 0

/-- A `SIGHUP` that comes while `RescanServers` reads. -/
def hangupAgain : List Act :=
  [.sighup, .yes, .yes, .yes, .sighup, .yes, .yes, .yes, .yes, .yes, .yes]

/-- A `SIGUSR2` that comes behind its test, without sockets. -/
def addLate : List Act := [.yes, .yes, .yes, .sigusr2, .no, .yes, .yes]

/-- A child that ends between the test of `ChildReady` and `select`. -/
def childLate : List Act := [.yes, .yes, .yes, .yes, .yes, .sigchld 11, .yes]

/-- The daemon blocks while there is work to do: each of the three signals can be lost. -/
theorem signal_lost :
    (∃ h s, MainLoopRun h s ∧ h.map Step.input = hangupAgain ∧ s.point = .callSelect ∧
      s.rescanDue = true) ∧
    (∃ h s, MainLoopRun h s ∧ h.map Step.input = addLate ∧ s.point = .callSuspend ∧
      s.addDue = true) ∧
    ∃ h s, MainLoopRun h s ∧ h.map Step.input = childLate ∧ s.point = .callSelect ∧
      s.ended = [11] :=
  ⟨exists_run_on _ (by decide +kernel), exists_run_on _ (by decide +kernel),
    exists_run_on _ (by decide +kernel)⟩

/-- Signals that come before they are tested. -/
def inTime : List Act :=
  [.sighup, .sigusr2, .sigchld 11, .yes, .yes, .yes, .collect 11, .yes, .yes, .yes, .yes, .yes,
    .yes, .no, .yes, .yes, .yes, .yes, .yes, .yes, .yes, .yes, .yes, .yes, .yes, .yes]

theorem signals_kept : ∃ h s, MainLoopRun h s ∧ h.map Step.input = inTime ∧
    s.point = .callSelect ∧ ¬ s.Due := by
  obtain ⟨h, s, run, hinputs, hpoint, hsafe⟩ : ∃ h s, MainLoopRun h s ∧
      h.map Step.input = inTime ∧ s.point = .callSelect ∧ ∀ x ∈ h, x.input.safe x.pre = true :=
    exists_run_on _ (by decide +kernel)
  exact ⟨h, s, run, hinputs, hpoint, no_signal_lost run hsafe (by rw [hpoint]; rfl)⟩

end Xdm
