/-
# Waiting for the server, statement by statement

`serverPause` waits until the server is up, which it announces by `SIGUSR1`, until it is dead,
or until an alarm goes off.  The handlers of `SIGUSR1` and `SIGALRM` leave the function by
`Longjmp`.  `serverPause` of the daemon's model has two outcomes only: the server is dead and
has been waited for, or it has not been waited for.  Here is when the code has no other one,
and that it never blocks without an alarm, unless the time to wait is zero.
-/
import Xdm.Server
import Xdm.Lib.Run

namespace Xdm

namespace ServerPause

open Prog

/-! ### The statements -/

/-- The statement that is executed next. -/
inductive Point
  /-- `serverPauseRet = 0; if (!Setjmp (pauseAbort))` -/
  | enter
  /-- `Signal (SIGALRM, serverPauseAbort)` -/
  | catchAlrm
  /-- `Signal (SIGUSR1, serverPauseUsr1)` -/
  | catchUsr1
  /-- `if (!receivedUsr1)`, before the alarm -/
  | testAlarm
  /-- `alarm (t)` -/
  | setAlarm
  /-- `if (!receivedUsr1)`, in the loop -/
  | testWait
  /-- `waitpid (serverPid, 0, 0)` -/
  | waitpid
  /-- `waitpid (serverPid, 0, WNOHANG)` -/
  | waitpidNoHang
  /-- `serverPauseRet = 1` -/
  | store
  /-- `alarm (0)` -/
  | clearAlarm
  /-- `Signal (SIGALRM, SIG_DFL)` -/
  | dropAlrm
  /-- `Signal (SIGUSR1, CatchUsr1)` -/
  | dropUsr1
  | returned
deriving DecidableEq, Repr

/-- The server, as the kernel sees it. -/
inductive Server
  | alive
  | dead
  /-- It is dead, and `waitpid` has returned it. -/
  | collected
deriving DecidableEq, Repr

structure Pause where
  point : Point
  /-- `serverPauseRet` -/
  ret : Bool
  receivedUsr1 : Nat
  /-- The handler of `SIGALRM` is `serverPauseAbort`. -/
  alrmCaught : Bool
  /-- The handler of `SIGUSR1` is `serverPauseUsr1`; else it is `CatchUsr1`. -/
  usr1Jumps : Bool
  /-- An alarm is to go off. -/
  alarm : Bool
  server : Server
deriving DecidableEq

inductive Act
  /-- The next statement. -/
  | run
  /-- The server sends `SIGUSR1`. -/
  | usr1
  /-- The alarm goes off. -/
  | alrm
  /-- A handler that returns has interrupted `waitpid`. -/
  | interrupt
  /-- The server dies. -/
  | dies
deriving DecidableEq, Repr

namespace Pause

def goto (s : Pause) (point : Point) : Pause := { s with point := point }

/-- `waitpid` has returned `serverPid`. -/
def collect (s : Pause) : Pause := { s with point := .store, server := .collected }

/-- The statement at the point.  `waitpid` blocks while the server is alive; where it has been
waited for already `errno` is `ECHILD`. -/
def run (t : Nat) (s : Pause) : Option Pause :=
  match s.point with
  | .enter => some { s with point := .catchAlrm, ret := false }
  | .catchAlrm => some { s with point := .catchUsr1, alrmCaught := true }
  | .catchUsr1 => some { s with point := .testAlarm, usr1Jumps := true }
  | .testAlarm => some (s.goto (if s.receivedUsr1 = 0 then .setAlarm else .testWait))
  | .setAlarm => some { s with point := .testWait, alarm := decide (t ≠ 0) }
  | .testWait => some (s.goto (if s.receivedUsr1 = 0 then .waitpid else .waitpidNoHang))
  | .waitpid => if s.server = .alive then none else some s.collect
  | .waitpidNoHang => some (if s.server = .alive then s.goto .clearAlarm else s.collect)
  | .store => some { s with point := .clearAlarm, ret := true }
  | .clearAlarm => some { s with point := .dropAlrm, alarm := false }
  | .dropAlrm => some { s with point := .dropUsr1, alrmCaught := false }
  | .dropUsr1 => some { s with point := .returned, usr1Jumps := false }
  | .returned => none

/-- `Longjmp (pauseAbort, 1)`. -/
def longjmp (s : Pause) : Pause := s.goto .clearAlarm

/-- `serverPauseUsr1` or `CatchUsr1`; both count the signal. -/
def catchUsr1 (s : Pause) : Pause :=
  let s := { s with receivedUsr1 := s.receivedUsr1 + 1 }
  if s.usr1Jumps then s.longjmp else s

end Pause

/-- What happens next.  Without `serverPauseAbort` an alarm would end the daemon. -/
def Act.next (t : Nat) (s : Pause) : Act → Option Pause
  | .run => s.run t
  | .usr1 => if s.point = .returned then none else some s.catchUsr1
  | .alrm => if s.alarm ∧ s.alrmCaught then some { s with alarm := false }.longjmp else none
  | .interrupt => if s.point = .waitpid then some (s.goto .testWait) else none
  | .dies => if s.server = .alive then some { s with server := .dead } else none

def Act.perform (t : Nat) (i : Act) : Prog Pause Unit := fun s =>
  (i.next t s).map fun s' => ((), s')

/-- `serverPause` is called; the server may have sent its signal already. -/
def Pause.start (receivedUsr1 : Nat) : Pause where
  point := .enter
  ret := false
  receivedUsr1 := receivedUsr1
  alrmCaught := false
  usr1Jumps := false
  alarm := false
  server := .alive

/-- Runs of `serverPause (t, serverPid)`, with the signals at any moment. -/
abbrev PauseRun (t receivedUsr1 : Nat) : List (Prog.Step Pause Act) → Pause → Prop :=
  Prog.Run (Act.perform t) (Pause.start receivedUsr1)

/-! ### The invariant -/

/-- A handler leaves the function after `waitpid` has returned the server, before the result is
stored. -/
def Forgets (x : Prog.Step Pause Act) : Prop :=
  x.pre.point = .store ∧ (x.input = .usr1 ∨ x.input = .alrm)

instance (x : Prog.Step Pause Act) : Decidable (Forgets x) :=
  inferInstanceAs (Decidable (_ ∧ _))

/-- The handlers that jump are installed, and the target of the jump is set. -/
def Point.jumps : Point → Bool
  | .enter | .catchAlrm | .catchUsr1 | .returned => false
  | _ => true

/-- The result has not been stored yet. -/
def Point.early : Point → Bool
  | .clearAlarm | .dropAlrm | .dropUsr1 | .returned => false
  | _ => true

/-- `SIGALRM` is caught, and the alarm has not been set. -/
def Point.catches : Point → Bool
  | .catchUsr1 | .testAlarm | .setAlarm => true
  | _ => false

/-- The alarm may be set. -/
def Point.armed : Point → Bool
  | .testWait | .waitpid | .waitpidNoHang | .store | .clearAlarm => true
  | _ => false

lemma Point.jumps_of_armed {p : Point} (h : p.armed = true) : p.jumps = true := by
  cases p <;> first | rfl | cases h

/-- Between the statements, where `lost` says that a handler has thrown the result away. -/
structure Pause.Kept (t : Nat) (lost : Prop) (s : Pause) : Prop where
  usr1Jumps : s.usr1Jumps = s.point.jumps
  catches : s.point.catches = true → s.alrmCaught = true
  alarm : s.alarm = true → s.alrmCaught = true ∧ s.point.armed = true
  early : s.point.early = true → s.ret = false ∧ ¬ lost
  collected : s.server = .collected ↔ s.point = .store ∨ s.ret = true ∨ lost
  /-- While it may block, the alarm is set. -/
  waits : s.point = .waitpid → s.alarm = decide (t ≠ 0)
  tests : s.point = .testWait → s.receivedUsr1 = 0 → s.alarm = decide (t ≠ 0)
  once : s.ret = true → ¬ lost

variable {t r : Nat} {lost : Prop} {s s' : Pause} {i : Act} {h : List (Step Pause Act)}

lemma kept_start : (Pause.start r).Kept t False :=
  ⟨rfl, nofun, nofun, fun _ => ⟨rfl, id⟩, by simp [Pause.start], nofun, nofun, nofun⟩

/-- What leaves the server and the result alone. -/
lemma Pause.Kept.leads (hs : s.Kept t lost) (hret : s'.ret = s.ret)
    (hserver : s'.server = .collected ↔ s.server = .collected) (hstore : s.point ≠ .store)
    (hstore' : s'.point ≠ .store) (husr1 : s'.usr1Jumps = s'.point.jumps)
    (hcatches : s'.point.catches = true → s'.alrmCaught = true)
    (halarm : s'.alarm = true → s'.alrmCaught = true ∧ s'.point.armed = true)
    (hearly : s'.point.early = true → s.point.early = true)
    (hwaits : s'.point = .waitpid → s'.alarm = decide (t ≠ 0))
    (htests : s'.point = .testWait → s'.receivedUsr1 = 0 → s'.alarm = decide (t ≠ 0)) :
    s'.Kept t lost where
  usr1Jumps := husr1
  catches := hcatches
  alarm := halarm
  early := fun h => hret ▸ hs.early (hearly h)
  collected := by
    rw [hserver, hs.collected, hret, or_iff_right hstore, or_iff_right hstore']
  waits := hwaits
  tests := htests
  once := fun h => hs.once (hret ▸ h)

/-- `waitpid` returns the server. -/
lemma Pause.Kept.collect (hs : s.Kept t lost) (hearly : s.point.early = true)
    (hjumps : s.point.jumps = true) : s.collect.Kept t lost where
  usr1Jumps := hs.usr1Jumps.trans hjumps
  catches := nofun
  alarm := fun h => ⟨(hs.alarm h).1, rfl⟩
  early := fun _ => hs.early hearly
  collected := iff_of_true rfl (Or.inl rfl)
  waits := nofun
  tests := nofun
  once := hs.once

/-- The result is stored. -/
lemma Pause.Kept.store (hs : s.Kept t lost) (hpoint : s.point = .store) :
    Pause.Kept t lost { s with point := .clearAlarm, ret := true } where
  usr1Jumps := hs.usr1Jumps.trans (by rw [hpoint]; rfl)
  catches := nofun
  alarm := fun h => ⟨(hs.alarm h).1, rfl⟩
  early := nofun
  collected := iff_of_true (hs.collected.2 (Or.inl hpoint)) (Or.inr (Or.inl rfl))
  waits := nofun
  tests := nofun
  once := fun _ => (hs.early (by rw [hpoint]; rfl)).2

/-- A statement. -/
lemma kept_run (hs : s.Kept t lost) (hnext : s.run t = some s') : s'.Kept t lost := by
  have hjumps (point : Point) (hpoint : s.point = point) (p : Point)
      (hp : point.jumps = p.jumps) : s.usr1Jumps = p.jumps := by
    rw [hs.usr1Jumps, hpoint, hp]
  have halarm (point : Point) (hpoint : s.point = point) (p : Point)
      (hp : point.armed = true → p.armed = true) (h : s.alarm = true) :
      s.alrmCaught = true ∧ p.armed = true := by
    obtain ⟨hcaught, harmed⟩ := hs.alarm h
    exact ⟨hcaught, hp (hpoint ▸ harmed)⟩
  have hcatches (point : Point) (hpoint : s.point = point) (hp : point.catches = true) :
      s.alrmCaught = true := hs.catches (hpoint ▸ hp)
  unfold Pause.run at hnext
  split at hnext
  case h_1 hpoint =>
    obtain rfl := Option.some.inj hnext
    have hret := (hs.early (by rw [hpoint]; rfl)).1
    exact hs.leads hret.symm Iff.rfl (by simp [hpoint]) nofun (hjumps _ hpoint _ rfl) nofun
      (halarm _ hpoint _ nofun) (fun _ => by rw [hpoint]; rfl) nofun nofun
  case h_2 hpoint =>
    obtain rfl := Option.some.inj hnext
    have hoff (h : s.alarm = true) : False := absurd (halarm _ hpoint .enter nofun h).2 nofun
    exact hs.leads rfl Iff.rfl (by simp [hpoint]) nofun (hjumps _ hpoint _ rfl) (fun _ => rfl)
      (fun h => (hoff h).elim) (fun _ => by rw [hpoint]; rfl) nofun nofun
  case h_3 hpoint =>
    obtain rfl := Option.some.inj hnext
    exact hs.leads rfl Iff.rfl (by simp [hpoint]) nofun rfl (fun _ => hcatches _ hpoint rfl)
      (halarm _ hpoint _ nofun) (fun _ => by rw [hpoint]; rfl) nofun nofun
  case h_4 hpoint =>
    obtain rfl := Option.some.inj hnext
    by_cases hreceived : s.receivedUsr1 = 0
    · rw [if_pos hreceived]
      exact hs.leads rfl Iff.rfl (by simp [hpoint]) nofun (hjumps _ hpoint _ rfl)
        (fun _ => hcatches _ hpoint rfl) (halarm _ hpoint _ nofun)
        (fun _ => by rw [hpoint]; rfl) nofun nofun
    · rw [if_neg hreceived]
      exact hs.leads rfl Iff.rfl (by simp [hpoint]) nofun (hjumps _ hpoint _ rfl) nofun
        (halarm _ hpoint _ nofun) (fun _ => by rw [hpoint]; rfl) nofun
        fun _ hzero => absurd hzero hreceived
  case h_5 hpoint =>
    obtain rfl := Option.some.inj hnext
    exact hs.leads rfl Iff.rfl (by simp [hpoint]) nofun (hjumps _ hpoint _ rfl) nofun
      (fun _ => ⟨hcatches _ hpoint rfl, rfl⟩) (fun _ => by rw [hpoint]; rfl) nofun fun _ _ => rfl
  case h_6 hpoint =>
    obtain rfl := Option.some.inj hnext
    by_cases hreceived : s.receivedUsr1 = 0
    · rw [if_pos hreceived]
      exact hs.leads rfl Iff.rfl (by simp [hpoint]) nofun (hjumps _ hpoint _ rfl) nofun
        (halarm _ hpoint _ fun _ => rfl) (fun _ => by rw [hpoint]; rfl)
        (fun _ => hs.tests hpoint hreceived) nofun
    · rw [if_neg hreceived]
      exact hs.leads rfl Iff.rfl (by simp [hpoint]) nofun (hjumps _ hpoint _ rfl) nofun
        (halarm _ hpoint _ fun _ => rfl) (fun _ => by rw [hpoint]; rfl) nofun nofun
  case h_7 hpoint =>
    split at hnext
    · cases hnext
    · obtain rfl := Option.some.inj hnext
      exact hs.collect (by rw [hpoint]; rfl) (by rw [hpoint]; rfl)
  case h_8 hpoint =>
    obtain rfl := Option.some.inj hnext
    split
    · exact hs.leads rfl Iff.rfl (by simp [hpoint]) nofun (hjumps _ hpoint _ rfl) nofun
        (halarm _ hpoint _ fun _ => rfl) nofun nofun nofun
    · exact hs.collect (by rw [hpoint]; rfl) (by rw [hpoint]; rfl)
  case h_9 hpoint =>
    obtain rfl := Option.some.inj hnext
    exact hs.store hpoint
  case h_10 hpoint =>
    obtain rfl := Option.some.inj hnext
    exact hs.leads rfl Iff.rfl (by simp [hpoint]) nofun (hjumps _ hpoint _ rfl) nofun nofun
      nofun nofun nofun
  case h_11 hpoint =>
    obtain rfl := Option.some.inj hnext
    have hoff (h : s.alarm = true) : False := absurd (halarm _ hpoint .enter nofun h).2 nofun
    exact hs.leads rfl Iff.rfl (by simp [hpoint]) nofun (hjumps _ hpoint _ rfl) nofun
      (fun h => (hoff h).elim) nofun nofun nofun
  case h_12 hpoint =>
    obtain rfl := Option.some.inj hnext
    exact hs.leads rfl Iff.rfl (by simp [hpoint]) nofun rfl nofun (halarm _ hpoint _ nofun)
      nofun nofun nofun
  case h_13 => cases hnext

/-- `Longjmp` out of the function: what `waitpid` has returned is lost unless it is stored. -/
lemma Pause.Kept.longjmp {n : Nat} {alarm : Bool} (hs : s.Kept t lost)
    (hjumps : s.point.jumps = true) (halarm : alarm = true → s.alrmCaught = true) :
    Pause.Kept t (lost ∨ s.point = .store)
      { s with point := .clearAlarm, receivedUsr1 := n, alarm := alarm } where
  usr1Jumps := hs.usr1Jumps.trans hjumps
  catches := nofun
  alarm := fun h => ⟨halarm h, rfl⟩
  early := nofun
  collected := by
    rw [hs.collected]
    tauto
  waits := nofun
  tests := nofun
  once := by
    rintro hret (hlost | hstore)
    · exact hs.once hret hlost
    · have hret' := (hs.early (by rw [hstore]; rfl)).1
      exact absurd (hret'.symm.trans hret) nofun

/-- `SIGUSR1`. -/
lemma kept_usr1 (hs : s.Kept t lost) :
    s.catchUsr1.Kept t (lost ∨ s.point = .store) := by
  by_cases hjumps : s.usr1Jumps = true
  · have heq : s.catchUsr1 = { s with point := .clearAlarm, receivedUsr1 := s.receivedUsr1 + 1 } :=
      if_pos hjumps
    rw [heq]
    exact hs.longjmp (hs.usr1Jumps ▸ hjumps) fun h => (hs.alarm h).1
  · have heq : s.catchUsr1 = { s with receivedUsr1 := s.receivedUsr1 + 1 } := if_neg hjumps
    have hpoint : s.point.jumps = false := by rw [← hs.usr1Jumps]; simpa using hjumps
    have hstore : s.point ≠ .store := by rintro h; rw [h] at hpoint; exact absurd hpoint nofun
    rw [heq, or_iff_left hstore]
    exact hs.leads rfl Iff.rfl hstore hstore hs.usr1Jumps hs.catches hs.alarm id hs.waits
      fun _ h => absurd h (Nat.succ_ne_zero _)

lemma kept_next (hs : s.Kept t lost) (hnext : i.next t s = some s') :
    s'.Kept t (lost ∨ Forgets ⟨s, i, s'⟩) := by
  cases i with
  | run =>
    have hforgets : ¬ Forgets ⟨s, .run, s'⟩ := by simp [Forgets]
    rw [or_iff_left hforgets]
    exact kept_run hs hnext
  | usr1 =>
    have hforgets : Forgets ⟨s, .usr1, s'⟩ ↔ s.point = .store := by simp [Forgets]
    rw [hforgets]
    simp only [Act.next] at hnext
    split at hnext
    · cases hnext
    · obtain rfl := Option.some.inj hnext
      exact kept_usr1 hs
  | alrm =>
    have hforgets : Forgets ⟨s, .alrm, s'⟩ ↔ s.point = .store := by simp [Forgets]
    rw [hforgets]
    simp only [Act.next] at hnext
    split at hnext
    · next halarm =>
      obtain rfl := Option.some.inj hnext
      exact hs.longjmp (Point.jumps_of_armed (hs.alarm halarm.1).2) nofun
    · cases hnext
  | interrupt =>
    have hforgets : ¬ Forgets ⟨s, .interrupt, s'⟩ := by simp [Forgets]
    rw [or_iff_left hforgets]
    simp only [Act.next] at hnext
    split at hnext
    · next hpoint =>
      obtain rfl := Option.some.inj hnext
      exact hs.leads rfl Iff.rfl (by simp [hpoint]) nofun
        (hs.usr1Jumps.trans (by rw [hpoint]; rfl)) nofun
        (fun h => ⟨(hs.alarm h).1, rfl⟩) (fun _ => by rw [hpoint]; rfl) nofun
        fun _ _ => hs.waits hpoint
    · cases hnext
  | dies =>
    have hforgets : ¬ Forgets ⟨s, .dies, s'⟩ := by simp [Forgets]
    rw [or_iff_left hforgets]
    simp only [Act.next] at hnext
    split at hnext
    · next halive =>
      obtain rfl := Option.some.inj hnext
      exact
        { hs with
          collected := by rw [← hs.collected, halive]; exact iff_of_false nofun nofun }
    · cases hnext

lemma kept_of_run (run : PauseRun t r h s) : s.Kept t (∃ x ∈ h, Forgets x) := by
  refine run.invariant_of (C := fun _ => True) (I := fun h s => s.Kept t (∃ x ∈ h, Forgets x))
    (by simpa using kept_start) (fun h u i v _ hu hstep _ => ?_) fun _ _ => trivial
  have hnext := next_of_step hstep
  simpa [or_and_right, exists_or] using kept_next hu hnext

/-! ### Its outcome -/

/-- The outcome of the daemon's model: what the script of the answers says. -/
lemma serverPause_outcome {u : State} {pid : Pid} {dead : Bool} {pauses : List Bool}
    (hpid : pid ∈ u.kernel.children) (hpauses : u.kernel.pauses = dead :: pauses) :
    ∃ u', Xdm.serverPause pid u = some (dead, u') ∧
      (pid ∈ u'.kernel.children ↔ dead = false) := by
  cases dead with
  | false =>
    refine ⟨{ u with kernel := { u.kernel with pauses := pauses } }, ?_, iff_of_true hpid rfl⟩
    simp only [Xdm.serverPause, bind_eq_some]
    exact ⟨u, u, rfl, by rw [hpauses]; rfl⟩
  | true =>
    let children := u.kernel.children.filter (· ≠ pid)
    refine ⟨{ u with kernel := { u.kernel with pauses := pauses, children := children } }, ?_,
      iff_of_false (by simp [children]) nofun⟩
    simp only [Xdm.serverPause, bind_eq_some]
    exact ⟨u, u, rfl, by rw [hpauses]; rfl⟩

/-- Once `serverPause` has returned, the daemon's model has an outcome with the same result in
which the server has been waited for just if it has here, unless a handler has forgotten it. -/
theorem pause_refined (run : PauseRun t r h s) (hreturned : s.point = .returned)
    {u : State} {pid : Pid} {pauses : List Bool} (hpid : pid ∈ u.kernel.children)
    (hpauses : u.kernel.pauses = s.ret :: pauses) :
    (∃ u', Xdm.serverPause pid u = some (s.ret, u') ∧
      (pid ∈ u'.kernel.children ↔ s.server ≠ .collected)) ↔ ∀ x ∈ h, ¬ Forgets x := by
  have hs := kept_of_run run
  have hcollected : s.server = .collected ↔ s.ret = true ∨ ∃ x ∈ h, Forgets x := by
    rw [hs.collected, or_iff_right (by rw [hreturned]; nofun)]
  obtain ⟨u', hu', hchild⟩ := serverPause_outcome hpid hpauses
  constructor
  · rintro ⟨v, hv, hagree⟩ x hx hforgets
    obtain rfl : u' = v := (Prod.mk.inj (Option.some.inj (hu'.symm.trans hv))).2
    have hret : s.ret = false := by
      rw [← Bool.not_eq_true]
      exact fun hret => hs.once hret ⟨x, hx, hforgets⟩
    exact hagree.1 (hchild.2 hret) (hcollected.2 (Or.inr ⟨x, hx, hforgets⟩))
  · intro hkept
    have hnone : ¬ ∃ x ∈ h, Forgets x := fun ⟨x, hx, hforgets⟩ => hkept x hx hforgets
    refine ⟨u', hu', ?_⟩
    rw [hchild, Ne, hcollected, or_iff_left hnone, Bool.not_eq_true]

/-- The server dies, `waitpid` returns it, and the alarm goes off before the result is stored:
`serverPause` says that the server is alive, and nobody will wait for it again. -/
theorem pause_refined_forgotten : ∃ (h : List (Step Pause Act)) (s : Pause),
    PauseRun 5 0 h s ∧ s.point = .returned ∧ s.ret = false ∧
    ∀ (u : State) (pid : Pid) (pauses : List Bool), pid ∈ u.kernel.children →
      u.kernel.pauses = s.ret :: pauses →
      ¬ ∃ u', Xdm.serverPause pid u = some (s.ret, u') ∧
        (pid ∈ u'.kernel.children ↔ s.server ≠ .collected) := by
  obtain ⟨h, s, run, hreturned, hret, hforgets⟩ :
      ∃ h s, PauseRun 5 0 h s ∧ s.point = .returned ∧ s.ret = false ∧ ∃ x ∈ h, Forgets x :=
    exists_run_of_exec [.run, .run, .run, .run, .run, .run, .dies, .run, .alrm, .run, .run, .run]
      (by decide +kernel)
  refine ⟨h, s, run, hreturned, hret, fun u pid pauses hpid hpauses hagree => ?_⟩
  obtain ⟨x, hx, hx'⟩ := hforgets
  exact (pause_refined run hreturned hpid hpauses).1 hagree x hx hx'

/-! ### Its end -/

/-- At most so many statements are left if nothing happens. -/
def Point.rest : Point → Nat
  | .enter => 11
  | .catchAlrm => 10
  | .catchUsr1 => 9
  | .testAlarm => 8
  | .setAlarm => 7
  | .testWait => 6
  | .waitpid | .waitpidNoHang => 5
  | .store => 4
  | .clearAlarm => 3
  | .dropAlrm => 2
  | .dropUsr1 => 1
  | .returned => 0

/-- A statement brings the end nearer. -/
lemma rest_run (hnext : s.run t = some s') : s'.point.rest < s.point.rest := by
  unfold Pause.run at hnext
  split at hnext
  case h_4 hpoint | h_6 hpoint | h_8 hpoint =>
    obtain rfl := Option.some.inj hnext
    rw [hpoint]
    split <;> simp [Pause.goto, Pause.collect, Point.rest]
  case h_7 hpoint =>
    split at hnext
    · cases hnext
    · obtain rfl := Option.some.inj hnext
      simp [hpoint, Pause.collect, Point.rest]
  case h_13 => cases hnext
  all_goals
    next hpoint =>
    obtain rfl := Option.some.inj hnext
    simp [hpoint, Point.rest]

/-- A handler that jumps puts it off by two statements at most. -/
lemma Point.rest_clearAlarm {p : Point} (h : p.jumps = true) :
    Point.clearAlarm.rest ≤ p.rest + 2 := by
  cases p <;> first | decide | cases h

/-- Anything else that happens puts the end off by two statements at most. -/
lemma rest_next (hs : s.Kept t lost) (hi : i ≠ .run) (hnext : i.next t s = some s') :
    s'.point.rest ≤ s.point.rest + 2 := by
  cases i with
  | run => exact absurd rfl hi
  | usr1 =>
    simp only [Act.next] at hnext
    split at hnext
    · cases hnext
    · obtain rfl := Option.some.inj hnext
      by_cases hjumps : s.usr1Jumps = true
      · have hpoint : s.catchUsr1.point = .clearAlarm := by simp [Pause.catchUsr1, hjumps]; rfl
        rw [hpoint]
        exact Point.rest_clearAlarm (hs.usr1Jumps ▸ hjumps)
      · have hpoint : s.catchUsr1.point = s.point := by simp [Pause.catchUsr1, hjumps]
        rw [hpoint]
        exact Nat.le_add_right _ _
  | alrm =>
    simp only [Act.next] at hnext
    split at hnext
    · next halarm =>
      obtain rfl := Option.some.inj hnext
      exact Point.rest_clearAlarm (Point.jumps_of_armed (hs.alarm halarm.1).2)
    · cases hnext
  | interrupt =>
    simp only [Act.next] at hnext
    split at hnext
    · next hpoint =>
      obtain rfl := Option.some.inj hnext
      simp [hpoint, Pause.goto, Point.rest]
    · cases hnext
  | dies =>
    simp only [Act.next] at hnext
    split at hnext
    · obtain rfl := Option.some.inj hnext
      exact Nat.le_add_right _ _
    · cases hnext

/-- The number of statements executed. -/
def executed (h : List (Step Pause Act)) : Nat := h.countP (·.input = .run)

/-- The number of other things that have happened. -/
def happened (h : List (Step Pause Act)) : Nat := h.countP (·.input ≠ .run)

lemma executed_snoc {x : Step Pause Act} :
    executed (h ++ [x]) = executed h + if x.input = .run then 1 else 0 := by
  simp [executed, List.countP_singleton]

lemma happened_snoc {x : Step Pause Act} :
    happened (h ++ [x]) = happened h + if x.input = .run then 0 else 1 := by
  simp [happened, List.countP_singleton]

lemma executed_le (run : PauseRun t r h s) :
    executed h + s.point.rest ≤ 11 + 2 * happened h := by
  induction run with
  | nil => exact Nat.le_refl 11
  | @snoc h u v i run hstep ih =>
    have hnext := next_of_step hstep
    rw [executed_snoc, happened_snoc]
    by_cases hi : i = .run
    · subst hi
      have hrest := rest_run hnext
      rw [if_pos rfl, if_pos rfl]
      omega
    · have hrest := rest_next (kept_of_run run) hi hnext
      rw [if_neg hi, if_neg hi]
      omega

/-- `serverPause` executes at most eleven statements, and two more for each signal and each
death.  Where it has not returned it can go on, unless it waits for a server that lives; then
an alarm is set, if the time to wait is not zero, which ends the wait. -/
theorem pause_ends (run : PauseRun t r h s) :
    executed h + s.point.rest ≤ 11 + 2 * happened h ∧
    (s.point = .returned ∨ (∃ s', s.run t = some s') ∨
      s.point = .waitpid ∧ s.server = .alive ∧
        (t ≠ 0 → ∃ s', Act.next t s .alrm = some s' ∧ s'.point = .clearAlarm)) := by
  have hs := kept_of_run run
  refine ⟨executed_le run, ?_⟩
  cases hpoint : s.point
  case waitpid =>
    by_cases halive : s.server = .alive
    · refine Or.inr (Or.inr ⟨rfl, halive, fun ht => ?_⟩)
      have halarm : s.alarm = true := (hs.waits hpoint).trans (decide_eq_true ht)
      exact ⟨_, if_pos ⟨halarm, (hs.alarm halarm).1⟩, rfl⟩
    · refine Or.inr (Or.inl ⟨s.collect, ?_⟩)
      simp [Pause.run, hpoint, halive]
  case returned => exact Or.inl rfl
  all_goals exact Or.inr (Or.inl ⟨_, by simp only [Pause.run, hpoint]; rfl⟩)

/-- Nobody sends a signal: the alarm ends the wait. -/
theorem pause_ends_alarm : ∃ (h : List (Step Pause Act)) (s : Pause), PauseRun 5 0 h s ∧
    executed h = 6 ∧ s.point = .waitpid ∧
    ∃ s', Act.next 5 s .alrm = some s' ∧ s'.point = .clearAlarm := by
  obtain ⟨h, s, run, hexecuted, hpoint⟩ :
      ∃ h s, PauseRun 5 0 h s ∧ executed h = 6 ∧ s.point = .waitpid ∧ s.server = .alive :=
    exists_run_of_exec [.run, .run, .run, .run, .run, .run] (by decide +kernel)
  obtain ⟨-, hreturned | ⟨s', hnext⟩ | ⟨-, -, halarm⟩⟩ := pause_ends run
  · exact absurd (hpoint.1.symm.trans hreturned) nofun
  · have hblocks : s.run 5 = none := by simp [Pause.run, hpoint.1, hpoint.2]
    exact absurd (hblocks.symm.trans hnext) nofun
  · exact ⟨h, s, run, hexecuted, hpoint.1, halarm (by decide)⟩

end ServerPause

end Xdm
