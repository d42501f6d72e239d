/-
# A session, statement by statement

After a login `ManageSession` forks the client, waits for it, pings the server in between, runs
the reset program and exits.  `SIGTERM` makes it leave whatever it is doing for `AbortClient`,
and `SIGALRM` makes it ping the server, try again to abort the client, or give up an answer of
the server.  In a run of the session process, its client and its reset program, with the signals
at any moment, the client ends before the reset program is run (`client_left` says when it does
not).

`pid_t` has room for the client's process id and zero, which is what `clientPid` is before the
client has been forked.
-/
import Xdm.State
import Xdm.Lib.Run

namespace Xdm

namespace ManageSession

open Prog

/-! ### The statements -/

/-- The statement that is executed next.  `pinged` says that `SessionPingFailed` has called
`AbortClient` and exits, with `RESERVER_DISPLAY`; else `ManageSession` does, with
`OBEYSESS_DISPLAY`.  `round` is the `i` of `AbortClient`. -/
inductive Point
  /-- `clientPid = 0`, `Setjmp (abortSession)` and `Signal (SIGTERM, catchTerm)` -/
  | catchTerm
  /-- `fork ()` of `StartClient` -/
  | fork
  /-- `*pidp = pid` -/
  | store
  /-- `Setjmp (pingTime)`, `Signal (SIGALRM, catchAlrm)`, `alarm (d->pingInterval * 60)` -/
  | setAlarm
  /-- `wait ()` -/
  | wait
  /-- `alarm (0)`, and `if (pid == clientPid) break` -/
  | clearAlarm
  /-- `alarm (0)`; `PingServer` begins, with `Signal (SIGALRM, PingLostSig)` and
  `alarm (d->pingTimeout * 60)`. -/
  | ping
  /-- `XSync ()` of `PingServer`; if the server answers, `Signal (SIGALRM, oldSig)`, `alarm (0)`
  and `if (pid == clientPid) break` -/
  | pingWait
  /-- `alarm (0)` and `Signal (SIGALRM, SIG_DFL)` of `PingServer`, and the test of
  `SessionPingFailed` -/
  | pingLost
  /-- `killpg (pid, sig)` -/
  | kill (round : Nat) (pinged : Bool)
  /-- `Setjmp (tenaciousClient)`, `Signal (SIGALRM, waitAbort)`, `alarm (10)` -/
  | setAbort (round : Nat) (pinged : Bool)
  /-- `wait ()` of `AbortClient` -/
  | waitAbort (round : Nat) (pinged : Bool)
  /-- `alarm (0)`, `Signal (SIGALRM, SIG_DFL)`, and `if (retId == pid) break` -/
  | clearAbort (round : Nat) (pinged : Bool)
  /-- `Signal (SIGALRM, SIG_DFL)` after the alarm -/
  | again (round : Nat) (pinged : Bool)
  /-- `source (verifyInfo.systemEnviron, d->reset)` looks for the reset program. -/
  | reset (pinged : Bool)
  /-- `fork ()` of `runAndWait` -/
  | resetFork (pinged : Bool)
  /-- `wait ()` of `runAndWait` -/
  | resetWait (pinged : Bool)
  /-- `SessionExit` signals the server or calls `ResetServer`; `pseudoReset` begins, with
  `Signal (SIGALRM, abortReset)` and `alarm (30)`. -/
  | sessionExit (pinged : Bool)
  /-- `XSync ()` of `pseudoReset`, `alarm (0)` and `Signal (SIGALRM, SIG_DFL)` -/
  | pseudoReset (pinged : Bool)
  /-- `Signal (SIGALRM, SIG_DFL)` after the alarm -/
  | timeout (pinged : Bool)
  /-- The rest of `SessionExit` -/
  | exit (pinged : Bool)
  | ended (pinged : Bool)
  /-- `IOErrorHandler` has exited, with `RESERVER_DISPLAY`. -/
  | lost
  /-- A signal has ended the process. -/
  | killed
  /-- `Longjmp` into a call that has been left. -/
  | undefined
deriving DecidableEq, Repr

/-- The handler of `SIGALRM`. -/
inductive Alrm
  | dfl
  | catchAlrm
  | waitAbort
  /-- `PingLostSig` -/
  | pingLost
  | abortReset
deriving DecidableEq, Repr

/-- The child of `StartClient`. -/
inductive Client
  | none
  /-- It has not called `setsid`. -/
  | young
  /-- It has a process group. -/
  | grouped
  /-- `StartClient` has returned 0 in the child, which goes on in `ManageSession`. -/
  | back
  /-- It has run the reset program as well. -/
  | reset
  | dead
  /-- It is dead, and `wait` has returned it. -/
  | collected
deriving DecidableEq, Repr

def Client.alive : Client → Bool
  | .young | .grouped | .back | .reset => true
  | _ => false

/-- The child of `runAndWait`. -/
inductive Program
  | none
  | runs
  | dead
deriving DecidableEq, Repr

structure Session where
  point : Point
  /-- `clientPid` is not zero. -/
  clientPid : Bool
  /-- The handler of `SIGTERM` is `catchTerm`. -/
  caught : Bool
  handler : Alrm
  /-- The handler of I/O errors is `PingLostIOErr`. -/
  pingIO : Bool
  alarm : Bool
  /-- The last `wait` for the client has returned it. -/
  got : Bool
  client : Client
  /-- `SIGKILL` has been sent to the client. -/
  doomed : Bool
  program : Program
  /-- How often the process has started the reset program. -/
  resets : Nat
  /-- How often it has signalled the server or called `pseudoReset`. -/
  serverResets : Nat
deriving DecidableEq

/-- What a session reads of its `struct display`. -/
structure Settings where
  pingInterval : Int
  pingTimeout : Int
  reset : Str
  serverPid : Pid
  resetSignal : Int
  /-- `dpy` is not `NULL`. -/
  dpy : Bool
  origin : Origin

/-- `SessionExit` sends the server a signal. -/
def Settings.signals (d : Settings) : Bool := decide (2 ≤ d.serverPid ∧ d.resetSignal ≠ 0)

/-- `ResetServer` calls `pseudoReset`. -/
def Settings.pretends (d : Settings) : Bool := d.dpy && decide (d.origin ≠ .fromXDMCP)

/-- What the kernel or the server answers: `fork`, `fopen` and `killpg` succeed, `wait` returns
the child that is waited for, the server answers. -/
inductive Answer
  | yes
  | no
deriving DecidableEq, Repr

inductive Act
  /-- The next statement of the session process. -/
  | run (answer : Answer)
  /-- `SIGTERM` comes to the session process. -/
  | term
  /-- `SIGALRM` does. -/
  | alrm
  /-- The client calls `setsid`. -/
  | setsid
  /-- A call of the client that sets its credentials fails. -/
  | fails
  /-- The client that has come back starts the reset program. -/
  | childReset
  /-- The client ends. -/
  | dies
  /-- The reset program ends. -/
  | programEnds
  /-- `wait ()` of `runAndWait` returns the client, and is called again. -/
  | collects
deriving DecidableEq, Repr

namespace Session

def goto (s : Session) (point : Point) : Session := { s with point := point }

/-- The next round of the loop of `AbortClient`, or its end. -/
def nextRound (round : Nat) (pinged : Bool) : Point :=
  if round + 1 < 4 then .kill (round + 1) pinged else .reset pinged

/-- `wait` returns the client, or something else: another child, or no child is left. -/
def waits (s : Session) (answer : Answer) (point : Point) : Option Session :=
  match answer with
  | .yes => if s.client = .dead then
      some { s with point := point, got := true, client := .collected } else none
  | .no => some { s with point := point, got := false }

/-- `killpg` with the signal of the round, `SIGTERM` in the first one and `SIGKILL` later.  It
fails for a client that has no process group; if there is one, because it is not permitted. -/
def kill (s : Session) (answer : Answer) (round : Nat) (pinged : Bool) : Option Session :=
  match answer with
  | .yes =>
    if s.client = .none ∨ s.client = .young then none
    else some { s with point := .setAbort round pinged, doomed := s.doomed || decide (round ≠ 0) }
  | .no => some (s.goto (.reset pinged))

/-- The beginning of `SessionExit`. -/
def sessionExit (d : Settings) (pinged : Bool) (s : Session) : Session :=
  if d.signals then
    { s with point := .exit pinged, serverResets := s.serverResets + 1 }
  else if d.pretends then
    { s with
      point := .pseudoReset pinged
      serverResets := s.serverResets + 1
      handler := .abortReset
      alarm := true }
  else s.goto (.exit pinged)

/-- The statement at the point.  With process id zero `killpg` sends the signal to the session
process itself, which handles `SIGTERM` before the call returns. -/
def run (d : Settings) (answer : Answer) (s : Session) : Option Session :=
  match s.point with
  | .catchTerm => some { s with point := .fork, clientPid := false, caught := true }
  | .fork =>
    match answer with
    | .yes => some { s with point := .store, client := .young }
    | .no => some (s.goto (.reset false))
  | .store => some { s with point := .setAlarm, clientPid := true }
  | .setAlarm =>
    some (if d.pingInterval ≠ 0 then
      { s with point := .wait, handler := .catchAlrm, alarm := true } else s.goto .wait)
  | .wait => s.waits answer .clearAlarm
  | .clearAlarm =>
    some { s with
      point := if s.got then .reset false else .setAlarm
      alarm := s.alarm && decide (d.pingInterval = 0) }
  | .ping =>
    some { s with
      point := .pingWait
      handler := .pingLost
      pingIO := true
      alarm := decide (d.pingTimeout ≠ 0) }
  | .pingWait =>
    match answer with
    | .yes =>
      -- only `catchAlrm` leads here
      some { s with
        point := if s.got then .reset false else .setAlarm
        handler := .catchAlrm
        pingIO := false
        alarm := false }
    | .no => some (s.goto .pingLost)
  | .pingLost =>
    some { s with
      point := if s.clientPid then .kill 0 true else .sessionExit true
      handler := .dfl
      pingIO := false
      alarm := false }
  | .kill round pinged =>
    if s.clientPid then s.kill answer round pinged
    else some (s.goto (if round = 0 then .kill 0 false else .killed))
  | .setAbort round pinged =>
    some { s with point := .waitAbort round pinged, handler := .waitAbort, alarm := true }
  | .waitAbort round pinged => s.waits answer (.clearAbort round pinged)
  | .clearAbort round pinged =>
    some { s with
      point := if s.got then .reset pinged else nextRound round pinged
      alarm := false
      handler := .dfl }
  | .again round pinged => some { s with point := nextRound round pinged, handler := .dfl }
  | .reset pinged =>
    some (s.goto (if d.reset ≠ [] ∧ answer = .yes then .resetFork pinged
      else .sessionExit pinged))
  | .resetFork pinged =>
    match answer with
    | .yes =>
      some { s with point := .resetWait pinged, program := .runs, resets := s.resets + 1 }
    | .no => some (s.goto (.sessionExit pinged))
  | .resetWait pinged =>
    match answer with
    | .yes => if s.program = .dead then
        some { s with point := .sessionExit pinged, program := .none } else none
    | .no => some s
  | .sessionExit pinged => some (s.sessionExit d pinged)
  | .pseudoReset pinged =>
    match answer with
    | .yes => some { s with point := .exit pinged, handler := .dfl, alarm := false }
    | .no => some (s.goto (if s.pingIO then .undefined else .lost))
  | .timeout pinged => some { s with point := .exit pinged, handler := .dfl }
  | .exit pinged => some (s.goto (.ended pinged))
  | .ended _ | .lost | .killed | .undefined => none

end Session

/-- The process is there. -/
def Point.live : Point → Bool
  | .ended _ | .lost | .killed | .undefined => false
  | _ => true

/-- Where the handler of `SIGALRM` leads; it can only jump to where its buffer has been set. -/
def Alrm.jump : Alrm → Point → Point
  | .dfl, _ => .killed
  | .catchAlrm, _ => .ping
  | .waitAbort, .waitAbort round pinged | .waitAbort, .clearAbort round pinged =>
    .again round pinged
  | .pingLost, .pingWait => .pingLost
  | .abortReset, .pseudoReset pinged => .timeout pinged
  | _, _ => .undefined

def Act.next (d : Settings) (s : Session) : Act → Option Session
  | .run answer => s.run d answer
  | .term =>
    if s.point.live then some (s.goto (if s.caught then .kill 0 false else .killed)) else none
  | .alrm =>
    if s.point.live ∧ s.alarm then
      some { s with point := s.handler.jump s.point, alarm := false } else none
  | .setsid => if s.client = .young then some { s with client := .grouped } else none
  | .fails => if s.client = .grouped then some { s with client := .back } else none
  | .childReset =>
    if s.client = .back ∧ d.reset ≠ [] then some { s with client := .reset } else none
  | .dies => if s.client.alive then some { s with client := .dead } else none
  | .programEnds => if s.program = .runs then some { s with program := .dead } else none
  | .collects =>
    match s.point with
    | .resetWait _ => if s.client = .dead then some { s with client := .collected } else none
    | _ => none

def Act.perform (d : Settings) (i : Act) : Prog Session Unit := fun s =>
  (i.next d s).map fun s' => ((), s')

/-- A user has logged in. -/
def Session.start : Session where
  point := .catchTerm
  clientPid := false
  caught := false
  handler := .dfl
  pingIO := false
  alarm := false
  got := false
  client := .none
  doomed := false
  program := .none
  resets := 0
  serverResets := 0

/-- Runs of the session. -/
abbrev SessionRun (d : Settings) : List (Prog.Step Session Act) → Session → Prop :=
  Prog.Run (Act.perform d) Session.start

variable {d : Settings} {s s' : Session} {i : Act} {answer : Answer} {point : Point}
  {round : Nat} {pinged : Bool} {h h₁ h₂ : List (Step Session Act)} {x : Step Session Act}

/-! ### What is known between the statements -/

/-- The points at which the client has not been forked. -/
def Point.early : Point → Bool
  | .catchTerm | .fork => true
  | _ => false

/-- The points at which no alarm is set. -/
def Point.silent : Point → Bool
  | .catchTerm | .fork | .timeout _ => true
  | _ => false

/-- The points behind which `clientPid` has been stored. -/
def Point.knows : Point → Bool
  | .setAlarm | .wait | .clearAlarm | .ping | .pingWait | .pingLost | .setAbort ..
  | .waitAbort .. | .clearAbort .. | .again .. => true
  | _ => false

/-- The points of `AbortClient` behind `SIGKILL`. -/
def Point.chases : Point → Bool
  | .setAbort round _ | .waitAbort round _ | .clearAbort round _ | .again round _ => round ≠ 0
  | _ => false

/-- The points where the reset program is to be run, and those behind. -/
def Point.closing : Point → Bool
  | .reset _ | .resetFork _ | .resetWait _ | .sessionExit _ | .pseudoReset _ | .timeout _
  | .exit _ | .ended _ | .lost => true
  | _ => false

/-- `killpg` has failed, and the client lives. -/
def Leaves (x : Prog.Step Session Act) : Prop :=
  ∃ round pinged, x.pre.point = .kill round pinged ∧ x.pre.clientPid = true ∧
    x.input = .run .no ∧ x.pre.client.alive = true

/-- The last round of `AbortClient` has ended, and the client lives, though `SIGKILL` has been
sent to it. -/
def Outlives (x : Prog.Step Session Act) : Prop :=
  ∃ round pinged, 3 ≤ round ∧
    (x.pre.point = .clearAbort round pinged ∨ x.pre.point = .again round pinged) ∧
    x.post.point = .reset pinged ∧ x.pre.client.alive = true ∧ x.pre.doomed = true

/-- The session goes on without the end of its client. -/
def Survived (x : Prog.Step Session Act) : Prop := Leaves x ∨ Outlives x

/-- Between the statements, where `left` says that the session has gone on without the end of
its client. -/
structure Session.Kept (left : Prop) (s : Session) : Prop where
  knows : s.point.knows = true → s.clientPid = true
  /-- Without a client only `pseudoReset` sets the alarm. -/
  alarm : s.alarm = true → s.clientPid = true ∨ s.handler = .abortReset
  got : s.got = true → s.client = .collected
  unborn : s.point.early = true → s.client = .none ∧ s.clientPid = false
  silent : s.point.silent = true → s.alarm = false
  chased : s.point.chases = true → s.client.alive = false ∨ s.doomed = true
  settled : s.point.closing = true → s.client.alive = false ∨ left

variable {left : Prop}

lemma kept_start : Session.start.Kept False :=
  ⟨nofun, nofun, nofun, fun _ => ⟨rfl, rfl⟩, fun _ => rfl, nofun, nofun⟩

lemma Session.Kept.mono {left' : Prop} (hs : s.Kept left) (h : left → left') : s.Kept left' :=
  { hs with settled := fun hpoint => (hs.settled hpoint).imp_right h }

/-- What leaves the client alone when it has been forked. -/
lemma Session.Kept.goes (hs : s.Kept left) (hclient : s'.client = s.client)
    (hgot : s'.got = s.got) (hearly : s'.point.early = false)
    (hsilent : s'.point.silent = false) (hknows : s'.point.knows = true → s'.clientPid = true)
    (halarm : s'.alarm = true → s'.clientPid = true ∨ s'.handler = .abortReset)
    (hchased : s'.point.chases = true → s.client.alive = false ∨ s'.doomed = true)
    (hsettled : s'.point.closing = true → s.client.alive = false ∨ left) : s'.Kept left where
  knows := hknows
  alarm := halarm
  got := fun h => hclient ▸ hs.got (hgot ▸ h)
  unborn := fun h => absurd h (ne_true_of_eq_false hearly)
  silent := fun h => absurd h (ne_true_of_eq_false hsilent)
  chased := fun h => hclient ▸ hchased h
  settled := fun h => hclient ▸ hsettled h

/-- The same when its process id is known and the point is none of those of `chased` and
`settled`. -/
lemma Session.Kept.waiting (hs : s.Kept left) (hclient : s'.client = s.client)
    (hgot : s'.got = s.got) (hpid : s'.clientPid = true) (hearly : s'.point.early = false)
    (hsilent : s'.point.silent = false) (hchases : s'.point.chases = false)
    (hclosing : s'.point.closing = false) : s'.Kept left :=
  hs.goes hclient hgot hearly hsilent (fun _ => hpid) (fun _ => Or.inl hpid)
    (fun h => absurd h (ne_true_of_eq_false hchases))
    fun h => absurd h (ne_true_of_eq_false hclosing)

/-- The same behind the end of the client. -/
lemma Session.Kept.closing (hs : s.Kept left) (hclient : s'.client = s.client)
    (hgot : s'.got = s.got) (hsettled : s.client.alive = false ∨ left)
    (hearly : s'.point.early = false) (hsilent : s'.point.silent = false)
    (hknows : s'.point.knows = false) (hchases : s'.point.chases = false)
    (halarm : s'.alarm = true → s'.clientPid = true ∨ s'.handler = .abortReset) : s'.Kept left :=
  hs.goes hclient hgot hearly hsilent
    (fun h => absurd h (ne_true_of_eq_false hknows)) halarm
    (fun h => absurd h (ne_true_of_eq_false hchases)) fun _ => hsettled

lemma kept_waits (hs : s.Kept left) (hnext : s.waits answer point = some s')
    (hpid : s.clientPid = true) (hearly : point.early = false) (hsilent : point.silent = false)
    (hchased : point.chases = true → s.point.chases = true) (hclosing : point.closing = false) :
    s'.Kept left := by
  unfold Session.waits at hnext
  split at hnext
  · split at hnext
    · obtain rfl := Option.some.inj hnext
      exact ⟨fun _ => hpid, fun _ => Or.inl hpid, fun _ => rfl,
        fun h => absurd h (ne_true_of_eq_false hearly),
        fun h => absurd h (ne_true_of_eq_false hsilent), fun _ => Or.inl rfl,
        fun _ => Or.inl rfl⟩
    · cases hnext
  · obtain rfl := Option.some.inj hnext
    exact ⟨fun _ => hpid, fun _ => Or.inl hpid, nofun,
      fun h => absurd h (ne_true_of_eq_false hearly),
      fun h => absurd h (ne_true_of_eq_false hsilent), fun h => hs.chased (hchased h),
      fun h => absurd h (ne_true_of_eq_false hclosing)⟩

/-- `killpg` for the client. -/
lemma kept_kill (hs : s.Kept left) (hpoint : s.point = .kill round pinged)
    (hpid : s.clientPid = true) (hnext : s.kill answer round pinged = some s') :
    s'.Kept (left ∨ Survived ⟨s, .run answer, s'⟩) := by
  unfold Session.kill at hnext
  split at hnext
  · split at hnext
    · cases hnext
    · obtain rfl := Option.some.inj hnext
      refine (hs.mono Or.inl).goes rfl rfl rfl rfl (fun _ => hpid) (fun _ => Or.inl hpid)
        (fun h => Or.inr ?_) nofun
      have hround : decide (round ≠ 0) = true := h
      rw [hround, Bool.or_true]
  · obtain rfl := Option.some.inj hnext
    refine (hs.mono Or.inl).closing rfl rfl ?_ rfl rfl rfl rfl fun _ => Or.inl hpid
    cases halive : s.client.alive with
    | false => exact Or.inl rfl
    | true => exact Or.inr (Or.inr (Or.inl ⟨round, pinged, hpoint, hpid, rfl, halive⟩))

/-- The loop of `AbortClient` goes on with `SIGKILL`, or has come to its end. -/
lemma nextRound_cases (round : Nat) (pinged : Bool) :
    Session.nextRound round pinged = .kill (round + 1) pinged ∨
      3 ≤ round ∧ Session.nextRound round pinged = .reset pinged := by
  unfold Session.nextRound
  split
  · exact Or.inl rfl
  · exact Or.inr ⟨by omega, rfl⟩

/-- The client has not ended in this round. -/
lemma kept_nextRound (hs : s.Kept left)
    (hpoint : s.point = .clearAbort round pinged ∨ s.point = .again round pinged)
    (hclient : s'.client = s.client) (hgot : s'.got = s.got) (hpid : s'.clientPid = s.clientPid)
    (hnext : s'.point = Session.nextRound round pinged) :
    s'.Kept (left ∨ Survived ⟨s, .run answer, s'⟩) := by
  have hknown : s.clientPid = true := hs.knows (by rcases hpoint with h | h <;> rw [h] <;> rfl)
  rcases nextRound_cases round pinged with hkill | ⟨hround, hreset⟩
  · have hpoint' := hnext.trans hkill
    refine (hs.mono Or.inl).waiting hclient hgot (hpid.trans hknown) ?_ ?_ ?_ ?_ <;>
      rw [hpoint'] <;> rfl
  · have hpoint' := hnext.trans hreset
    have hchased : s.client.alive = false ∨ s.doomed = true := by
      -- the loop ends behind its fourth round, and `SIGKILL` is sent from the second one on
      have hne : round ≠ 0 := by omega
      exact hs.chased (by rcases hpoint with h | h <;> rw [h] <;> exact decide_eq_true hne)
    refine (hs.mono Or.inl).closing hclient hgot ?_ (by rw [hpoint']; rfl) (by rw [hpoint']; rfl)
      (by rw [hpoint']; rfl) (by rw [hpoint']; rfl) fun _ => Or.inl (hpid.trans hknown)
    cases halive : s.client.alive with
    | false => exact Or.inl rfl
    | true =>
      have hdoomed : s.doomed = true :=
        hchased.resolve_left (by rw [halive]; exact Bool.noConfusion)
      exact Or.inr (Or.inr (Or.inr ⟨round, pinged, hround, hpoint, hpoint', halive, hdoomed⟩))

/-- The client has been collected, or the process goes on with it. -/
lemma kept_break (hs : s.Kept left) (hpid : s.clientPid = true) (hclient : s'.client = s.client)
    (hgot : s'.got = s.got) (hpid' : s'.clientPid = s.clientPid)
    (hnext : s'.point = if s.got = true then .reset false else .setAlarm) : s'.Kept left := by
  split at hnext
  · next hcollected =>
    refine hs.closing hclient hgot (Or.inl ?_) (by rw [hnext]; rfl) (by rw [hnext]; rfl)
      (by rw [hnext]; rfl) (by rw [hnext]; rfl) fun _ => Or.inl (hpid'.trans hpid)
    rw [hs.got hcollected]
    rfl
  · refine hs.waiting hclient hgot (hpid'.trans hpid) ?_ ?_ ?_ ?_ <;> rw [hnext] <;> rfl

/-- A statement of the session process. -/
lemma kept_run (hs : s.Kept left) (hnext : s.run d answer = some s') :
    s'.Kept (left ∨ Survived ⟨s, .run answer, s'⟩) := by
  have hknown (hk : s.point.knows = true) : s.clientPid = true := hs.knows hk
  have hclosing (hk : s.point.closing = true) : s.client.alive = false ∨
      left ∨ Survived ⟨s, .run answer, s'⟩ := (hs.settled hk).imp_right Or.inl
  have hs' : s.Kept (left ∨ Survived ⟨s, .run answer, s'⟩) := hs.mono Or.inl
  unfold Session.run at hnext
  cases hpoint : s.point <;> simp only [hpoint] at hnext
  case catchTerm =>
    obtain rfl := Option.some.inj hnext
    obtain ⟨hclient, -⟩ := hs.unborn (by rw [hpoint]; rfl)
    have halarm := hs.silent (by rw [hpoint]; rfl)
    -- nothing has been forked, and no alarm been set
    exact ⟨nofun, fun h => absurd h (ne_true_of_eq_false halarm), hs.got,
      fun _ => ⟨hclient, rfl⟩, fun _ => halarm, nofun, nofun⟩
  case fork =>
    obtain ⟨hclient, -⟩ := hs.unborn (by rw [hpoint]; rfl)
    cases answer with
    | yes =>
      obtain rfl := Option.some.inj hnext
      have hgot : s.got = false := by
        rw [← Bool.not_eq_true]
        exact fun hgot => absurd (hclient.symm.trans (hs.got hgot)) nofun
      exact ⟨nofun, hs.alarm, fun h => absurd h (ne_true_of_eq_false hgot), nofun,
        nofun, nofun, nofun⟩
    | no =>
      obtain rfl := Option.some.inj hnext
      exact hs'.closing rfl rfl (Or.inl (by rw [hclient]; rfl)) rfl rfl rfl rfl hs.alarm
  case store =>
    obtain rfl := Option.some.inj hnext
    exact hs'.waiting rfl rfl rfl rfl rfl rfl rfl
  case setAlarm =>
    have hpid := hknown (by rw [hpoint]; rfl)
    split at hnext <;> obtain rfl := Option.some.inj hnext <;>
      exact hs'.waiting rfl rfl hpid rfl rfl rfl rfl
  case wait =>
    exact kept_waits hs' hnext (hknown (by rw [hpoint]; rfl)) rfl rfl nofun rfl
  case clearAlarm =>
    obtain rfl := Option.some.inj hnext
    exact kept_break hs' (hknown (by rw [hpoint]; rfl)) rfl rfl rfl rfl
  case ping =>
    obtain rfl := Option.some.inj hnext
    exact hs'.waiting rfl rfl (hknown (by rw [hpoint]; rfl)) rfl rfl rfl rfl
  case pingWait =>
    have hpid := hknown (by rw [hpoint]; rfl)
    cases answer with
    | yes =>
      obtain rfl := Option.some.inj hnext
      exact kept_break hs' hpid rfl rfl rfl rfl
    | no =>
      obtain rfl := Option.some.inj hnext
      exact hs'.waiting rfl rfl hpid rfl rfl rfl rfl
  case pingLost =>
    have hpid := hknown (by rw [hpoint]; rfl)
    rw [if_pos hpid] at hnext
    obtain rfl := Option.some.inj hnext
    exact hs'.waiting rfl rfl hpid rfl rfl rfl rfl
  case kill round pinged =>
    split at hnext
    · next hpid => exact kept_kill hs hpoint hpid hnext
    -- the process signals itself, so the client is left alone
    · split at hnext <;> obtain rfl := Option.some.inj hnext <;>
        exact hs'.goes rfl rfl rfl rfl nofun hs.alarm nofun nofun
  case setAbort round pinged =>
    have hpid := hknown (by rw [hpoint]; rfl)
    obtain rfl := Option.some.inj hnext
    exact hs'.goes rfl rfl rfl rfl (fun _ => hpid) (fun _ => Or.inl hpid)
      (fun h => hs.chased (hpoint ▸ h)) nofun
  case waitAbort round pinged =>
    exact kept_waits hs' hnext (hknown (by rw [hpoint]; rfl)) rfl rfl (fun h => hpoint ▸ h) rfl
  case clearAbort round pinged =>
    split at hnext
    · next hgot =>
      obtain rfl := Option.some.inj hnext
      -- `wait` has returned the client
      refine hs'.closing rfl rfl (Or.inl ?_) rfl rfl rfl rfl nofun
      rw [hs.got hgot]
      rfl
    · obtain rfl := Option.some.inj hnext
      exact kept_nextRound hs (Or.inl hpoint) rfl rfl rfl rfl
  case again round pinged =>
    obtain rfl := Option.some.inj hnext
    exact kept_nextRound hs (Or.inr hpoint) rfl rfl rfl rfl
  case reset pinged =>
    split at hnext <;> obtain rfl := Option.some.inj hnext <;>
      exact hs'.closing rfl rfl (hclosing (by rw [hpoint]; rfl)) rfl rfl rfl rfl hs.alarm
  case resetFork pinged =>
    cases answer <;> obtain rfl := Option.some.inj hnext <;>
      exact hs'.closing rfl rfl (hclosing (by rw [hpoint]; rfl)) rfl rfl rfl rfl hs.alarm
  case resetWait pinged =>
    cases answer with
    | yes =>
      simp only at hnext
      split at hnext
      · obtain rfl := Option.some.inj hnext
        exact hs'.closing rfl rfl (hclosing (by rw [hpoint]; rfl)) rfl rfl rfl rfl hs.alarm
      · cases hnext
    | no =>
      obtain rfl := Option.some.inj hnext
      exact hs'
  case sessionExit pinged =>
    have hclosing := hclosing (by rw [hpoint]; rfl)
    unfold Session.sessionExit at hnext
    split at hnext
    · obtain rfl := Option.some.inj hnext
      exact hs'.closing rfl rfl hclosing rfl rfl rfl rfl hs.alarm
    · split at hnext <;> obtain rfl := Option.some.inj hnext
      · exact hs'.closing rfl rfl hclosing rfl rfl rfl rfl fun _ => Or.inr rfl
      · exact hs'.closing rfl rfl hclosing rfl rfl rfl rfl hs.alarm
  case pseudoReset pinged =>
    have hclosing := hclosing (by rw [hpoint]; rfl)
    cases answer with
    | yes =>
      obtain rfl := Option.some.inj hnext
      exact hs'.closing rfl rfl hclosing rfl rfl rfl rfl nofun
    | no =>
      simp only at hnext
      split at hnext <;> obtain rfl := Option.some.inj hnext <;>
        exact hs'.closing rfl rfl hclosing rfl rfl rfl rfl hs.alarm
  case timeout pinged =>
    have halarm := hs.silent (by rw [hpoint]; rfl)
    obtain rfl := Option.some.inj hnext
    exact hs'.closing rfl rfl (hclosing (by rw [hpoint]; rfl)) rfl rfl rfl rfl
      fun h => absurd h (ne_true_of_eq_false halarm)
  case exit pinged =>
    obtain rfl := Option.some.inj hnext
    exact hs'.closing rfl rfl (hclosing (by rw [hpoint]; rfl)) rfl rfl rfl rfl hs.alarm
  case ended | lost | killed | undefined => cases hnext

/-- What a living client does. -/
lemma kept_client {client : Client} (hs : s.Kept left) (halive : s.client.alive = true) :
    Session.Kept left { s with client := client } where
  knows := hs.knows
  alarm := hs.alarm
  got := fun h => by
    rw [hs.got h] at halive
    exact nomatch halive
  unborn := fun h => by
    rw [(hs.unborn h).1] at halive
    exact nomatch halive
  silent := hs.silent
  chased := fun h => Or.inr ((hs.chased h).resolve_left (by rw [halive]; nofun))
  settled := fun h => Or.inr ((hs.settled h).resolve_left (by rw [halive]; nofun))

/-- The act is one of the session process, or a signal for it. -/
def Act.ofSession : Act → Bool
  | .run _ | .term | .alrm => true
  | _ => false

/-- What its children do leaves the session process alone. -/
lemma children_next (hi : i.ofSession = false) (hnext : i.next d s = some s') :
    ∃ client program, s' = { s with client := client, program := program } := by
  cases i with
  | run | term | alrm => exact nomatch hi
  | setsid | fails | childReset | dies | programEnds =>
    simp only [Act.next] at hnext
    split at hnext
    · exact ⟨_, _, (Option.some.inj hnext).symm⟩
    · cases hnext
  | collects =>
    simp only [Act.next] at hnext
    split at hnext
    · split at hnext
      · exact ⟨_, _, (Option.some.inj hnext).symm⟩
      · cases hnext
    · cases hnext

lemma kept_children (hs : s.Kept left) (hi : i.ofSession = false)
    (hnext : i.next d s = some s') : s'.Kept left := by
  cases i with
  | run | term | alrm => exact nomatch hi
  | setsid | fails | childReset | dies =>
    simp only [Act.next] at hnext
    split at hnext
    · next hclient =>
      obtain rfl := Option.some.inj hnext
      refine kept_client hs ?_
      -- the guard of each of these acts has the client alive
      first | exact hclient | rw [hclient]; rfl | rw [hclient.1]; rfl
    · cases hnext
  | programEnds =>
    simp only [Act.next] at hnext
    split at hnext
    · obtain rfl := Option.some.inj hnext
      exact ⟨hs.knows, hs.alarm, hs.got, hs.unborn, hs.silent, hs.chased, hs.settled⟩
    · cases hnext
  | collects =>
    simp only [Act.next] at hnext
    split at hnext
    · next hpoint =>
      split at hnext
      · obtain rfl := Option.some.inj hnext
        refine ⟨hs.knows, hs.alarm, fun _ => rfl, fun h => ?_, hs.silent, fun _ => Or.inl rfl,
          fun _ => Or.inl rfl⟩
        rw [hpoint] at h
        exact nomatch h
      · cases hnext
    · cases hnext

/-- Where `SIGALRM` can lead. -/
inductive Jumps : Alrm → Point → Point → Prop
  | killed (point : Point) : Jumps .dfl point .killed
  | pings (point : Point) : Jumps .catchAlrm point .ping
  | again {point : Point} {round : Nat} {pinged : Bool} :
      point = .waitAbort round pinged ∨ point = .clearAbort round pinged →
        Jumps .waitAbort point (.again round pinged)
  | pingLost : Jumps .pingLost .pingWait .pingLost
  | timeout (pinged : Bool) : Jumps .abortReset (.pseudoReset pinged) (.timeout pinged)
  | undefined (handler : Alrm) (point : Point) : Jumps handler point .undefined

lemma jumps_jump (handler : Alrm) (point : Point) : Jumps handler point (handler.jump point) := by
  unfold Alrm.jump
  split
  · exact .killed _
  · exact .pings _
  · exact .again (Or.inl rfl)
  · exact .again (Or.inr rfl)
  · exact .pingLost
  · exact .timeout _
  · exact .undefined _ _

lemma kept_alrm (hs : s.Kept left) (halarm : s.alarm = true)
    (hjump : Jumps s.handler s.point point) :
    Session.Kept left { s with point := point, alarm := false } := by
  have hpid (hhandler : s.handler ≠ .abortReset) : s.clientPid = true :=
    (hs.alarm halarm).resolve_right hhandler
  generalize hhandler : s.handler = handler at hjump
  generalize hpoint : s.point = before at hjump
  cases hjump with
  -- where the process has ended nothing is claimed of the client
  | killed | undefined =>
    exact hs.goes rfl rfl rfl rfl nofun nofun nofun nofun
  | pings | pingLost =>
    exact hs.waiting rfl rfl (hpid (by rw [hhandler]; nofun)) rfl rfl rfl rfl
  | again hbefore =>
    refine hs.goes rfl rfl rfl rfl (fun _ => hpid (by rw [hhandler]; nofun)) nofun
      (fun h => hs.chased ?_) nofun
    rcases hbefore with rfl | rfl <;> rw [hpoint] <;> exact h
  | timeout pinged =>
    have hsettled := hs.settled (by rw [hpoint]; rfl)
    exact ⟨nofun, nofun, hs.got, nofun, fun _ => rfl, nofun, fun _ => hsettled⟩

/-- A statement, a signal, or what the children do. -/
lemma kept_next (hs : s.Kept left) (hnext : i.next d s = some s') :
    s'.Kept (left ∨ Survived ⟨s, i, s'⟩) := by
  cases i with
  | run answer => exact kept_run hs hnext
  | term =>
    simp only [Act.next] at hnext
    split at hnext
    · obtain rfl := Option.some.inj hnext
      refine Session.Kept.mono ?_ (@Or.inl left _)
      cases s.caught <;> exact hs.goes rfl rfl rfl rfl nofun hs.alarm nofun nofun
    · cases hnext
  | alrm =>
    simp only [Act.next] at hnext
    split at hnext
    · next halarm =>
      obtain rfl := Option.some.inj hnext
      exact (kept_alrm hs halarm.2 (jumps_jump ..)).mono Or.inl
    · cases hnext
  | setsid | fails | childReset | dies | programEnds | collects =>
    exact (kept_children hs rfl hnext).mono Or.inl

lemma kept_of_run (run : SessionRun d h s) : s.Kept (∃ x ∈ h, Survived x) := by
  refine run.invariant_of (C := fun _ => True) (I := fun h s => s.Kept (∃ x ∈ h, Survived x))
    (by simpa using kept_start) (fun h u i v _ hu hstep _ => ?_) fun _ _ => trivial
  have hnext := next_of_step hstep
  simpa [or_and_right, exists_or] using kept_next hu hnext

/-- When the reset program is to be run, and ever after, the client has ended, unless `killpg`
has failed for it (it had no process group yet, or the signal was not permitted), or it has
outlived the rounds of `AbortClient`, with `SIGKILL` in all but the first. -/
theorem client_left (run : SessionRun d h s) (hclosing : s.point.closing = true)
    (halive : s.client.alive = true) : ∃ x ∈ h, Leaves x ∨ Outlives x :=
  ((kept_of_run run).settled hclosing).resolve_left (by rw [halive]; nofun)

/-- A display with a reset program, of which the server is reset by a signal. -/
def Settings.plain : Settings where
  pingInterval := 5
  pingTimeout := 5
  reset := ['r']
  serverPid := 10
  resetSignal := 1
  dpy := true
  origin := .fromFile

/-- `SIGTERM` comes before the client has called `setsid`. -/
theorem client_left_young : ∃ (h : List (Step Session Act)) (s : Session),
    SessionRun .plain h s ∧ s.point = .reset false ∧ s.client = .young ∧
      ∃ x ∈ h, Leaves x ∨ Outlives x := by
  obtain ⟨h, s, run, hreset, hclient⟩ : ∃ h s, SessionRun .plain h s ∧
      s.point = .reset false ∧ s.client = .young :=
    exists_run_of_exec [.run .yes, .run .yes, .run .yes, .term, .run .no] (by decide +kernel)
  exact ⟨h, s, run, hreset, hclient,
    client_left run (by rw [hreset]; rfl) (by rw [hclient]; rfl)⟩

end ManageSession

end Xdm
