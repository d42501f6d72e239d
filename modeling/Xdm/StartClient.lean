/-
# The process of the session

`StartClient` (`xdm/session.c`) forks a child, which becomes the user, writes the user's
authority file, goes to the home directory and executes the session, or else the failsafe client.
If it cannot become the user it returns, as the session process does when it cannot fork.

* `client_runs_as_user`: after `Verify` only the user executes programs and writes files;
* `session_environment`: what the programs find in their environment.

The build modelled is the one for Linux, with PAM or without, and without SELinux.
-/
import Xdm.Environ
import Xdm.Execute
import Xdm.Greeter.Verify

namespace Xdm

namespace StartClient

open Greeter (GreetInfo VerifyInfo Passwd)
open UserAuth (Dir SetAnswers)

/-! ### The state of the child -/

/-- The fields of a `struct display` that are read here. -/
structure Dpy extends UserAuth.Dpy where
  systemPath : Str
  userPath : Str
  systemShell : Str
  authFile : Option Str
  windowPath : Option Str
  session : Option Str
  failsafeClient : Str

/-- The fields that the greeter reads. -/
def Dpy.greeter (d : Dpy) : Greeter.Dpy where
  name := d.name
  systemPath := d.systemPath
  userPath := d.userPath
  systemShell := d.systemShell
  authFile := d.authFile
  windowPath := d.windowPath
  session := d.session

/-- The supplementary groups are those of the daemon until they have been set. -/
structure Creds where
  uid : Nat
  gid : Nat
  groups : Option (List Nat)
deriving DecidableEq

/-- Those of the daemon. -/
def Creds.root : Creds := ⟨0, 0, none⟩

/-- A call of `execve`: the process that makes it, the arguments, and its error. -/
structure Try where
  creds : Creds
  dir : Option Str
  environ : List Str
  args : List Str
  error : Option ExecError

/-- The directory is that of the daemon until it has been changed.  `authority` are the credentials
with which the child has written the authority file. -/
structure Child where
  creds : Creds
  dir : Option Str
  verify : VerifyInfo
  passwd : Str
  files : Dir
  authority : Option Creds
  tries : List Try

/-- After `fork` -/
def Child.forked (verify : VerifyInfo) (passwd : Str) (files : Dir) : Child :=
  ⟨.root, none, verify, passwd, files, none, []⟩

/-- What `pam_setcred` makes of the supplementary groups, unless it fails, and what
`pam_getenvlist` answers. -/
structure Pam where
  setcred : Option (List Nat → List Nat)
  env : Option (List (Str × Memory))

/-- What the kernel and the libraries answer: `initgroups` finds the groups of a user, with the
group given, or fails; there is no handle of PAM, or it has been opened. -/
structure Answers where
  setgid : Bool
  initgroups : Str → Nat → Option (List Nat)
  pam : Option Pam
  setuid : Bool
  files : SetAnswers
  chdir : Str → Bool
  session : ExecAnswers
  failsafe : ExecAnswers

/-- What becomes of the child. -/
inductive Outcome
  | returned
  | replaced (args : List Str)
  | exited
deriving DecidableEq

/-! ### `StartClient` -/

def Child.setuid (a : Answers) (c : Child) : Bool × Child :=
  if a.setuid then (true, { c with creds := { c.creds with uid := c.verify.uid } }) else (false, c)

def Child.setUserEnviron (c : Child) (userEnviron : List Str) : Child :=
  { c with verify := { c.verify with userEnviron := userEnviron } }

/-- The environment with what PAM adds. -/
def Pam.environ (pam : Pam) (l : List Str) : Option (List Str) :=
  (passPamEnv pam.env (some (l.map some ++ [none]))).bind Environ.strings

/-- Set the credentials. -/
def Child.becomeUser (a : Answers) (name : Str) (c : Child) : Option (Bool × Child) :=
  if !a.setgid then some (false, c)
  else
    let c := { c with creds := { c.creds with gid := c.verify.gid } }
    match a.initgroups name c.verify.gid with
    | none => some (false, c)
    | some groups =>
      let c := { c with creds := { c.creds with groups := some groups } }
      match a.pam with
      | none => some (c.setuid a)
      | some pam =>
        match pam.setcred with
        | none => some (false, c)
        | some setcred =>
          let c := { c with creds := { c.creds with groups := some (setcred groups) } }
          (pam.environ c.verify.userEnviron).map fun userEnviron =>
            (c.setUserEnviron userEnviron).setuid a

/-- Prepare the files and the environment of the user. -/
def Child.authorize (w : World) (a : Answers) (d : Dpy) (c : Child) : Child :=
  let c := c.setUserEnviron (Greeter.setEnvOption "WINDOWPATH".toList d.windowPath
    c.verify.userEnviron)
  let set := UserAuth.setUserAuthorization w a.files d.toDpy c.verify.toVerifyInfo c.files
  { c with
    passwd := []
    verify := { c.verify with toVerifyInfo := set.verify }
    files := set.files
    authority := some c.creds }

/-- `chdir`, to `/` if there is no home directory. -/
def Child.enterHome (a : Answers) (c : Child) : Child :=
  match getEnv c.verify.userEnviron "HOME".toList with
  | none => c
  | some home =>
    if a.chdir home then { c with dir := some home }
    else
      { c with dir := if a.chdir ['/'] then some ['/'] else c.dir }.setUserEnviron
        (setEnv "HOME".toList ['/'] c.verify.userEnviron)

def Child.tried (c : Child) (calls : List (List Str × Option ExecError)) : Child :=
  { c with
    tries := c.tries ++ calls.map fun call =>
      ⟨c.creds, c.dir, c.verify.userEnviron, call.1, call.2⟩ }

/-- Execute the session, or else the failsafe client. -/
def Child.run (a : Answers) (d : Dpy) (c : Child) : Outcome × Child :=
  let session := execute a.session c.verify.argv
  match executed session with
  | some args => (.replaced args, c.tried session)
  | none =>
    let failsafe := execute a.failsafe [d.failsafeClient]
    match executed failsafe with
    | some args => (.replaced args, (c.tried session).tried failsafe)
    | none => (.exited, (c.tried session).tried failsafe)

/-- The child of `StartClient`.  There is no outcome if a pointer behind an array is read. -/
def startClient (w : World) (a : Answers) (d : Dpy) (name : Str) (c : Child) :
    Option (Outcome × Child) := do
  let (user, c) ← c.becomeUser a name
  if user then pure (((c.authorize w a d).enterHome a).run a d) else pure (.returned, c)

variable {w : World} {a : Answers} {d : Dpy} {n name : Str} {c : Child} {l : List Str} {t : Try}

/-! ### Becoming the user -/

/-- The calls succeed without which the child does not become the user. -/
structure Answers.Grants (a : Answers) (name : Str) (gid : Nat) : Prop where
  setgid : a.setgid = true
  initgroups : (a.initgroups name gid).isSome = true
  setcred : ∀ pam ∈ a.pam, pam.setcred.isSome = true
  setuid : a.setuid = true

/-- What `pam_setcred` makes of the groups, if there is a handle of PAM. -/
def Answers.setcred (a : Answers) : List Nat → List Nat :=
  ((a.pam.bind Pam.setcred).getD id)

/-- What `pam_getenvlist` has returned, if it has been called. -/
def Answers.pamEnv (a : Answers) : List (Str × Memory) := (a.pam.bind Pam.env).getD []

/-- The credentials of a user: the groups are those that `initgroups` has found, and what
`pam_setcred` has made of them. -/
def userCreds (a : Answers) (name : Str) (uid gid : Nat) : Creds :=
  ⟨uid, gid, (a.initgroups name gid).map a.setcred⟩

/-- The variable keeps its value, unless PAM names it or a call of `putEnv` fails. -/
def Kept (a : Answers) (l l' : List Str) : Prop :=
  ∀ n, '=' ∉ n → ¬ PamNames a.pamEnv n → (∀ p ∈ a.pamEnv, Sets p) → getEnv l' n = getEnv l n

lemma environ_kept {pam : Pam} (hpam : a.pam = some pam) (l : List Str) :
    ∃ l', pam.environ l = some l' ∧ Kept a l l' := by
  have hl : Environ.strings (some (l.map some ++ [none])) = some l :=
    Environ.stringsOf_eq_some.2 ⟨[], rfl⟩
  have hpamEnv : a.pamEnv = pam.env.getD [] := by rw [Answers.pamEnv, hpam, Option.bind_some]
  have hpass : ∀ e, passPamEnv pam.env e = putPamEnv a.pamEnv e := by
    rw [hpamEnv]
    cases pam.env <;> exact fun _ => rfl
  obtain ⟨e, l', hput, he, hkept⟩ := putPamEnv_unnamed a.pamEnv hl
  refine ⟨l', ?_, fun n hn hother hsets => ?_⟩
  · rw [Pam.environ, hpass, hput, Option.bind_some, he]
  · rw [hkept n hn hother, if_pos hsets]

lemma becomeUser_granted (h : a.Grants name c.verify.gid) :
    ∃ l, Kept a c.verify.userEnviron l ∧ c.becomeUser a name = some (true,
      { c with
        creds := userCreds a name c.verify.uid c.verify.gid
        verify := { c.verify with userEnviron := l } }) := by
  obtain ⟨groups, hgroups⟩ := Option.isSome_iff_exists.1 h.initgroups
  have hcreds : userCreds a name c.verify.uid c.verify.gid =
      ⟨c.verify.uid, c.verify.gid, some (a.setcred groups)⟩ := by
    rw [userCreds, hgroups]
    rfl
  unfold Child.becomeUser
  simp only [h.setgid, hgroups, Bool.not_true, Bool.false_eq_true, if_false, hcreds]
  cases hpam : a.pam with
  | none =>
    refine ⟨c.verify.userEnviron, fun _ _ _ _ => rfl, ?_⟩
    simp only [Child.setuid, h.setuid, if_true, Answers.setcred, hpam]
    rfl
  | some pam =>
    obtain ⟨setcred, hsetcred⟩ := Option.isSome_iff_exists.1 (h.setcred pam hpam)
    obtain ⟨l, henviron, hkept⟩ := environ_kept hpam c.verify.userEnviron
    refine ⟨l, hkept, ?_⟩
    simp only [hsetcred, henviron, Child.setuid, Child.setUserEnviron, h.setuid, if_true,
      Answers.setcred, hpam, Option.bind_some]
    rfl

/-- A child that does not become the user keeps the user id of the daemon, and has done nothing. -/
lemma becomeUser_refused (h : ¬ a.Grants name c.verify.gid) :
    ∃ c', c.becomeUser a name = some (false, c') ∧ c'.creds.uid = c.creds.uid ∧
      c'.tries = c.tries ∧ c'.authority = c.authority := by
  unfold Child.becomeUser
  cases hsetgid : a.setgid with
  | false => exact ⟨c, rfl, rfl, rfl, rfl⟩
  | true =>
    simp only [Bool.not_true, Bool.false_eq_true, if_false]
    cases hgroups : a.initgroups name c.verify.gid with
    | none => exact ⟨_, rfl, rfl, rfl, rfl⟩
    | some groups =>
      have hsome : (a.initgroups name c.verify.gid).isSome = true := by rw [hgroups]; rfl
      simp only
      cases hpam : a.pam with
      | none =>
        have hsetuid : a.setuid = false := Bool.not_eq_true _ ▸ fun hsetuid =>
          h ⟨hsetgid, hsome, by simp [hpam], hsetuid⟩
        simp only [Child.setuid, hsetuid, Bool.false_eq_true, if_false]
        exact ⟨_, rfl, rfl, rfl, rfl⟩
      | some pam =>
        cases hsetcred : pam.setcred with
        | none =>
          simp only [hsetcred]
          exact ⟨_, rfl, rfl, rfl, rfl⟩
        | some setcred =>
          have hsetuid : a.setuid = false := Bool.not_eq_true _ ▸ fun hsetuid =>
            h ⟨hsetgid, hsome, by simp [hpam, hsetcred], hsetuid⟩
          obtain ⟨l, henviron, -⟩ := environ_kept hpam c.verify.userEnviron
          simp only [hsetcred, henviron, Child.setuid, hsetuid, Child.setUserEnviron]
          exact ⟨_, rfl, rfl, rfl, rfl⟩

/-! ### The files and the directory -/

/-- Only `XAUTHORITY` is set. -/
lemma setUserAuthorization_environ (ask : SetAnswers) (verify : UserAuth.VerifyInfo) (fs : Dir)
    (hn : '=' ∉ n) (hne : n ≠ "XAUTHORITY".toList) :
    getEnv (UserAuth.setUserAuthorization w ask d.toDpy verify fs).verify.userEnviron n =
      getEnv verify.userEnviron n := by
  have hset : ∀ file, getEnv (verify.setXauthority file).userEnviron n =
      getEnv verify.userEnviron n := fun file =>
    getEnv_setEnv_of_ne hne (by decide) hn file _
  -- whether the file could be written or not, there is one call of `setEnv` at most
  have hopened : ∀ auths file fs, getEnv
      (UserAuth.setOpened w d.toDpy verify auths file fs).verify.userEnviron n =
        getEnv verify.userEnviron n := by
    intro auths file fs
    unfold UserAuth.setOpened
    dsimp only
    split
    · exact hset _
    · split
      · exact hset _
      · rfl
  unfold UserAuth.setUserAuthorization
  split
  · rfl
  · dsimp only
    split
    · exact hopened _ _ _
    · split
      · exact hopened _ _ _
      · rfl

lemma authorize_environ (hn : '=' ∉ n) (hxauthority : n ≠ "XAUTHORITY".toList)
    (hwindowpath : n ≠ "WINDOWPATH".toList) :
    getEnv (c.authorize w a d).verify.userEnviron n = getEnv c.verify.userEnviron n := by
  refine (setUserAuthorization_environ _ _ _ hn hxauthority).trans ?_
  show getEnv (Greeter.setEnvOption _ d.windowPath c.verify.userEnviron) n = _
  unfold Greeter.setEnvOption
  split
  · exact getEnv_setEnv_of_ne hwindowpath (by decide) hn _ _
  · rfl

/-- The home directory, unless it cannot be entered. -/
lemma enterHome_home {home : Str} (hhome : getEnv c.verify.userEnviron "HOME".toList = some home) :
    (a.chdir home = true → (c.enterHome a).dir = some home ∧
      getEnv (c.enterHome a).verify.userEnviron "HOME".toList = some home) ∧
    (a.chdir home = false → (c.enterHome a).dir = (if a.chdir ['/'] then some ['/'] else c.dir) ∧
      getEnv (c.enterHome a).verify.userEnviron "HOME".toList = some ['/']) := by
  unfold Child.enterHome
  simp only [hhome]
  constructor
  · intro h
    rw [if_pos h]
    exact ⟨rfl, hhome⟩
  · intro h
    rw [if_neg (Bool.not_eq_true _ ▸ h)]
    exact ⟨rfl, getEnv_setEnv ..⟩

lemma enterHome_other (hn : '=' ∉ n) (hne : n ≠ "HOME".toList) :
    getEnv (c.enterHome a).verify.userEnviron n = getEnv c.verify.userEnviron n := by
  unfold Child.enterHome
  split
  · rfl
  · split
    · rfl
    · exact getEnv_setEnv_of_ne hne (by decide) hn _ _

/-! ### The programs -/

lemma tried_tries {calls : List (List Str × Option ExecError)} (ht : t ∈ (c.tried calls).tries) :
    t ∈ c.tries ∨ t.creds = c.creds ∧ t.dir = c.dir ∧ t.environ = c.verify.userEnviron := by
  rcases List.mem_append.1 ht with ht | ht
  · exact Or.inl ht
  · obtain ⟨call, -, rfl⟩ := List.mem_map.1 ht
    exact Or.inr ⟨rfl, rfl, rfl⟩

/-- What is executed is executed as the child is. -/
lemma run_tries (ht : t ∈ (c.run a d).2.tries) :
    t ∈ c.tries ∨ t.creds = c.creds ∧ t.dir = c.dir ∧ t.environ = c.verify.userEnviron := by
  unfold Child.run at ht
  dsimp only at ht
  split at ht
  · exact tried_tries ht
  · split at ht
    all_goals
      rcases tried_tries ht with ht | ht
      · exact tried_tries ht
      · exact Or.inr ht

/-- The session replaces the child, or else the failsafe client. -/
lemma run_replaced {args : List Str} : (c.run a d).1 = .replaced args ↔
    executed (execute a.session c.verify.argv) = some args ∨
      executed (execute a.session c.verify.argv) = none ∧
        executed (execute a.failsafe [d.failsafeClient]) = some args := by
  cases hsession : executed (execute a.session c.verify.argv) with
  | some args' => simp [Child.run, hsession]
  | none =>
    cases hfailsafe : executed (execute a.failsafe [d.failsafeClient]) <;>
      simp [Child.run, hsession, hfailsafe]

lemma run_same : (c.run a d).1 ≠ .returned ∧ (c.run a d).2.authority = c.authority := by
  cases hsession : executed (execute a.session c.verify.argv) with
  | some args' => simp [Child.run, hsession, Child.tried]
  | none =>
    cases hfailsafe : executed (execute a.failsafe [d.failsafeClient]) <;>
      simp [Child.run, hsession, hfailsafe, Child.tried]

/-! ### The child -/

/-- The child that has become the user. -/
def Child.asUser (c : Child) (a : Answers) (name : Str) (l : List Str) : Child :=
  { c with
    creds := userCreds a name c.verify.uid c.verify.gid
    verify := { c.verify with userEnviron := l } }

/-- The child before it executes the session. -/
def Child.prepared (c : Child) (w : World) (a : Answers) (d : Dpy) (name : Str) (l : List Str) :
    Child :=
  ((c.asUser a name l).authorize w a d).enterHome a

lemma startClient_granted (h : a.Grants name c.verify.gid) (w : World) (d : Dpy) :
    ∃ l, Kept a c.verify.userEnviron l ∧ startClient w a d name c =
      some (((c.prepared w a d name l).run a d).1, ((c.prepared w a d name l).run a d).2) := by
  obtain ⟨l, hkept, huser⟩ := becomeUser_granted h
  refine ⟨l, hkept, ?_⟩
  rw [startClient, huser]
  rfl

lemma prepared_same :
    (c.prepared w a d name l).creds = userCreds a name c.verify.uid c.verify.gid ∧
    (c.prepared w a d name l).tries = c.tries ∧
    (c.prepared w a d name l).authority = some (userCreds a name c.verify.uid c.verify.gid) ∧
    (c.prepared w a d name l).verify.argv = c.verify.argv := by
  unfold Child.prepared Child.enterHome
  split
  · exact ⟨rfl, rfl, rfl, rfl⟩
  · split <;> exact ⟨rfl, rfl, rfl, rfl⟩

lemma startClient_refused (h : ¬ a.Grants name c.verify.gid) (w : World) (d : Dpy) :
    ∃ c', startClient w a d name c = some (.returned, c') ∧ c'.creds.uid = c.creds.uid ∧
      c'.tries = c.tries ∧ c'.authority = c.authority := by
  obtain ⟨c', huser, hsame⟩ := becomeUser_refused h
  refine ⟨c', ?_, hsame⟩
  rw [startClient, huser]
  rfl

section Login

variable {accounts : Greeter.Accounts} {greet : GreetInfo} {info : VerifyInfo}

/-- What `Verify` finds, in both builds. -/
lemma verified (h : (Greeter.verify accounts d.greeter greet).1 = some info ∨
    (Greeter.verifyPam accounts d.greeter greet).1 = some info) :
    ∃ name p, greet.name = some name ∧ accounts.getpwnam name = some p ∧
      (p.uid = 0 → greet.allowRootLogin = true) ∧
      (Greeter.succeed accounts d.greeter greet name p).1 = some info := by
  cases hknown : Greeter.knownUser accounts greet with
  | none =>
    simp only [Greeter.verify, Greeter.verifyPam, hknown, Greeter.refuse, or_self] at h
    cases h
  | some known =>
    obtain ⟨name, p⟩ := known
    have hentry : greet.name = some name ∧ accounts.getpwnam name = some p := by
      cases hname : greet.name with
      | none => simp [Greeter.knownUser, hname] at hknown
      | some n =>
        obtain ⟨rfl, hp, -⟩ := (Greeter.knownUser_eq_some hname).1 hknown
        exact ⟨rfl, hp⟩
    have hroot : ¬ (p.uid = 0 ∧ (!greet.allowRootLogin) = true) := by
      intro hroot
      simp only [Greeter.verify, Greeter.verifyPam, hknown, if_pos hroot, Greeter.refuse,
        or_self] at h
      cases h
    refine ⟨name, p, hentry.1, hentry.2, fun huid => ?_, ?_⟩
    · simpa [huid] using hroot
    · simp only [Greeter.verify, Greeter.verifyPam, hknown, if_neg hroot] at h
      rcases h with h | h
      · split_ifs at h
        all_goals first | exact h | cases h
      · exact h

/-- For every database of accounts, every user whom `Verify` accepts, in both builds, and all
answers: whatever the child of `StartClient` executes or writes, it does so as the user of the
entry that the name has, with the groups that `initgroups` has found for this user and what
`pam_setcred` has made of them, and so as root only if root logins are allowed.  It executes the
session, or else the failsafe client; it returns exactly if it has not become the user, and is
still root then, but has executed and written nothing. -/
theorem client_runs_as_user
    (h : (Greeter.verify accounts d.greeter greet).1 = some info ∨
      (Greeter.verifyPam accounts d.greeter greet).1 = some info)
    (w : World) (a : Answers) (passwd : Str) (fs : Dir) :
    ∃ name p outcome c, greet.name = some name ∧ accounts.getpwnam name = some p ∧
      startClient w a d name (.forked info passwd fs) = some (outcome, c) ∧
      (p.uid = 0 → greet.allowRootLogin = true) ∧
      (∀ t ∈ c.tries, t.creds = userCreds a name p.uid p.gid) ∧
      (∀ creds ∈ c.authority, creds = userCreds a name p.uid p.gid) ∧
      (outcome = .returned ↔ ¬ a.Grants name p.gid) ∧
      (outcome = .returned → c.creds.uid = 0 ∧ c.tries = [] ∧ c.authority = none) ∧
      ∀ args, outcome = .replaced args ↔ a.Grants name p.gid ∧
        (executed (execute a.session info.argv) = some args ∨
          executed (execute a.session info.argv) = none ∧
            executed (execute a.failsafe [d.failsafeClient]) = some args) := by
  obtain ⟨name, p, hname, hp, hroot, hinfo⟩ := verified h
  have hids : info.uid = p.uid ∧ info.gid = p.gid := by
    rw [← Option.some.inj hinfo]
    exact ⟨rfl, rfl⟩
  have hcreds : userCreds a name info.uid info.gid = userCreds a name p.uid p.gid := by
    rw [hids.1, hids.2]
  -- the child becomes the user, or returns as root
  by_cases hgrants : a.Grants name p.gid
  · obtain ⟨l, -, hstart⟩ :=
      startClient_granted (c := .forked info passwd fs) (hids.2 ▸ hgrants) w d
    obtain ⟨huser, htries, hauthority, hargv⟩ := prepared_same (w := w) (a := a) (d := d)
      (l := l) (c := .forked info passwd fs)
    refine ⟨name, p, _, _, hname, hp, hstart, hroot, fun t ht => ?_, fun creds hcreds' => ?_,
      iff_of_false run_same.1 (not_not_intro hgrants), fun h => absurd h run_same.1,
      fun args => ?_⟩
    -- nothing has been executed before the child is the user
    · obtain ht | ⟨htry, -⟩ := run_tries ht
      · rw [htries] at ht
        exact absurd ht List.not_mem_nil
      · rw [htry, huser]
        exact hcreds
    · rw [run_same.2, hauthority] at hcreds'
      exact (Option.some.inj hcreds').symm.trans hcreds
    · rw [run_replaced, and_iff_right hgrants, hargv]
      rfl
  · obtain ⟨c, hstart, huid, htries, hauthority⟩ :=
      startClient_refused (c := .forked info passwd fs) (hids.2 ▸ hgrants) w d
    refine ⟨name, p, _, c, hname, hp, hstart, hroot, fun t ht => ?_, fun creds hcreds' => ?_,
      iff_of_true rfl hgrants, fun _ => ⟨huid, htries, hauthority⟩, fun args => ?_⟩
    · rw [htries] at ht
      exact absurd ht List.not_mem_nil
    · rw [hauthority] at hcreds'
      cases hcreds'
    · exact iff_of_false Outcome.noConfusion fun h => hgrants h.1

/-- A display with a session. -/
def Dpy.console : Dpy where
  toDpy := UserAuth.Dpy.console
  systemPath := "/bin".toList
  userPath := "/usr/bin".toList
  systemShell := "/bin/sh".toList
  authFile := none
  windowPath := none
  session := some "/etc/X11/Xsession".toList
  failsafeClient := "xterm".toList

/-- There is no home directory, PAM adds a group and sets `LANG`, and the session is a script that
the kernel does not execute. -/
def Answers.script (setuid : Bool) : Answers where
  setgid := true
  initgroups _ gid := some [gid]
  pam := some ⟨some (29 :: ·), some [("LANG=C".toList, .plenty)]⟩
  setuid := setuid
  files := .granted
  chdir _ := false
  session := ⟨some .other, some "#! /bin/sh -e\n".toList, true, none⟩
  failsafe := ⟨none, none, true, none⟩

/-- The child becomes the user, and the shell executes the script. -/
theorem client_runs_as_user_script : ∃ info outcome c,
    startClient World.silent (.script true) Dpy.console ['u'] (.forked info [] fun _ => none) =
      some (outcome, c) ∧
    outcome = .replaced ("/bin/sh".toList :: "-e".toList :: info.argv) ∧
    ∀ t ∈ c.tries, t.creds = ⟨1000, 1000, some [29, 1000]⟩ := by
  have h : (Greeter.verify (Greeter.oneUser ['x'] (some "abpw".toList)) Dpy.console.greeter
      (Greeter.typing "pw".toList)).1.isSome = true := by decide
  obtain ⟨info, hinfo⟩ := Option.isSome_iff_exists.1 h
  obtain ⟨name, p, outcome, c, hname, hp, hstart, -, htries, -, -, -, hreplaced⟩ :=
    client_runs_as_user (Or.inl hinfo) World.silent (.script true) [] fun _ => none
  obtain rfl := Option.some.inj hname
  obtain rfl := Option.some.inj hp
  refine ⟨info, outcome, c, hstart, (hreplaced _).2 ⟨⟨rfl, rfl, ?_, rfl⟩, Or.inl rfl⟩, htries⟩
  exact fun pam hpam => by rw [← Option.some.inj hpam]; rfl

/-- The variables that tell who has logged in, and where. -/
def loginEnv (d : Dpy) (name : Str) (p : Passwd) : List (Str × Str) :=
  [("DISPLAY".toList, d.name), ("LOGNAME".toList, name), ("USER".toList, name),
    ("PATH".toList, if p.uid = 0 then d.systemPath else d.userPath), ("SHELL".toList, p.shell)]

lemma userEnv_login (accounts : Greeter.Accounts) (d : Dpy) (name : Str) (p : Passwd) :
    ∀ e ∈ loginEnv d name p,
      getEnv (Greeter.userEnv accounts d.greeter (p.uid = 0) name p.dir p.shell) e.1 =
        some e.2 := by
  simp only [loginEnv, List.forall_mem_cons, Greeter.userEnv]
  refine ⟨?_, ?_, ?_, ?_, ?_, by simp⟩
  all_goals
    rw [Greeter.getEnv_exportEnv accounts (by decide) (by decide)]
    repeat rw [getEnv_setEnv_of_ne (by decide) (by decide) (by decide)]
    simp [Dpy.greeter]

lemma loginEnv_other {p : Passwd} {e : Str × Str} (he : e ∈ loginEnv d name p) : '=' ∉ e.1 ∧
    e.1 ≠ "HOME".toList ∧ e.1 ≠ "XAUTHORITY".toList ∧ e.1 ≠ "WINDOWPATH".toList := by
  have hnames : ∀ n ∈ ["DISPLAY".toList, "LOGNAME".toList, "USER".toList, "PATH".toList,
      "SHELL".toList], '=' ∉ n ∧ n ≠ "HOME".toList ∧ n ≠ "XAUTHORITY".toList ∧
        n ≠ "WINDOWPATH".toList := by decide
  exact hnames e.1 (List.mem_map_of_mem (f := Prod.fst) he)

/-- The variables that `StartClient` does not set itself. -/
lemma prepared_environ (w : World) (d : Dpy) (name : Str) (hkept : Kept a c.verify.userEnviron l)
    (hsets : ∀ e ∈ a.pamEnv, Sets e) (hn : '=' ∉ n) (hpam : ¬ PamNames a.pamEnv n)
    (hxauthority : n ≠ "XAUTHORITY".toList) (hwindowpath : n ≠ "WINDOWPATH".toList) :
    getEnv ((c.asUser a name l).authorize w a d).verify.userEnviron n =
      getEnv c.verify.userEnviron n :=
  (authorize_environ hn hxauthority hwindowpath).trans (hkept n hn hpam hsets)

/-- For every database of accounts, every user whom `Verify` accepts, in both builds, and all
answers for which no call of `putEnv` fails: each program that the child executes finds the display,
the user, the path and the shell in its environment, unless PAM names the variable; and, unless
PAM names `HOME`, the home directory in it, which it is executed in, or `/` if that cannot be
entered. -/
theorem session_environment
    (h : (Greeter.verify accounts d.greeter greet).1 = some info ∨
      (Greeter.verifyPam accounts d.greeter greet).1 = some info)
    (hsets : ∀ e ∈ a.pamEnv, Sets e) (w : World) (passwd : Str) (fs : Dir) :
    ∃ name p outcome c, greet.name = some name ∧ accounts.getpwnam name = some p ∧
      startClient w a d name (.forked info passwd fs) = some (outcome, c) ∧
      ∀ t ∈ c.tries,
        (∀ e ∈ loginEnv d name p, ¬ PamNames a.pamEnv e.1 → getEnv t.environ e.1 = some e.2) ∧
        (¬ PamNames a.pamEnv "HOME".toList →
          (a.chdir p.dir = true →
            t.dir = some p.dir ∧ getEnv t.environ "HOME".toList = some p.dir) ∧
          (a.chdir p.dir = false →
            t.dir = (if a.chdir ['/'] then some ['/'] else none) ∧
              getEnv t.environ "HOME".toList = some ['/'])) := by
  obtain ⟨name, p, hname, hp, -, hinfo⟩ := verified h
  have henviron : info.userEnviron =
      Greeter.userEnv accounts d.greeter (p.uid = 0) name p.dir p.shell := by
    rw [← Option.some.inj hinfo]
  by_cases hgrants : a.Grants name info.gid
  · obtain ⟨l, hkept, hstart⟩ :=
      startClient_granted (c := .forked info passwd fs) hgrants w d
    refine ⟨name, p, _, _, hname, hp, hstart, fun t ht => ?_⟩
    obtain ht | ⟨-, hdir, ht⟩ := run_tries ht
    · rw [prepared_same.2.1] at ht
      exact absurd ht List.not_mem_nil
    · rw [hdir, ht]
      constructor
      · intro e he hpam
        have hvalue := userEnv_login accounts d name p e he
        rw [← henviron] at hvalue
        obtain ⟨hn, hhome, hxauthority, hwindowpath⟩ := loginEnv_other he
        exact (enterHome_other hn hhome).trans
          ((prepared_environ w d name hkept hsets hn hpam hxauthority hwindowpath).trans hvalue)
      · intro hpam
        have hhome := prepared_environ w d name hkept hsets (by decide) hpam (by decide) (by decide)
        exact enterHome_home (hhome.trans (henviron ▸ Greeter.userEnv_home ..))
  · obtain ⟨c, hstart, -, htries, -⟩ :=
      startClient_refused (c := .forked info passwd fs) hgrants w d
    refine ⟨name, p, _, c, hname, hp, hstart, fun t ht => ?_⟩
    rw [htries] at ht
    exact absurd ht List.not_mem_nil

/-- The shell executes the script in the environment of the user. -/
theorem session_environment_script : ∃ info outcome c,
    startClient World.silent (.script true) Dpy.console ['u'] (.forked info [] fun _ => none) =
      some (outcome, c) ∧
    ∀ t ∈ c.tries, getEnv t.environ "USER".toList = some ['u'] ∧
      getEnv t.environ "HOME".toList = some ['/'] := by
  have h : (Greeter.verify (Greeter.oneUser ['x'] (some "abpw".toList)) Dpy.console.greeter
      (Greeter.typing "pw".toList)).1.isSome = true := by decide
  obtain ⟨info, hinfo⟩ := Option.isSome_iff_exists.1 h
  have hpam : ∀ n, n ≠ "LANG".toList → ¬ PamNames (Answers.script true).pamEnv n := by
    rintro n hn ⟨e, he, -, rfl⟩
    obtain rfl := List.mem_singleton.1 he
    exact hn (by decide)
  obtain ⟨name, p, outcome, c, hname, -, hstart, htries⟩ := session_environment (Or.inl hinfo)
    (a := .script true) (List.forall_mem_singleton.2 ⟨by decide, rfl⟩) World.silent []
    fun _ => none
  obtain rfl := Option.some.inj hname
  refine ⟨info, outcome, c, hstart, fun t ht => ⟨?_, ?_⟩⟩
  · exact (htries t ht).1 ("USER".toList, ['u']) (by simp [loginEnv]) (hpam _ (by decide))
  · exact ((htries t ht).2 (hpam _ (by decide))).2 rfl |>.2

end Login

end StartClient

end Xdm
