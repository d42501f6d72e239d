/-
# Verifying a user

`Verify` (`greeter/verify.c`) decides whether a user may log in, and prepares the environments
of the session.  There are two builds of it on Linux: without PAM it compares the password with
the one of the shadow file, with PAM the password has been checked before.
-/
import Xdm.UserAuth.Authority

namespace Xdm.Greeter

/-! ### Data -/

/-- The fields of a `struct display` that are read here. -/
structure Dpy where
  name : Str
  systemPath : Str
  userPath : Str
  systemShell : Str
  authFile : Option Str
  windowPath : Option Str
  session : Option Str

/-- A `struct greet_info`.  A null pointer is `none`. -/
structure GreetInfo where
  name : Option Str
  password : Option Str
  string : Option Str
  allowNullPasswd : Bool
  allowRootLogin : Bool

structure VerifyInfo extends UserAuth.VerifyInfo where
  uid : Nat
  gid : Nat
  argv : List Str

/-- The fields of a `struct passwd` that are read here. -/
structure Passwd where
  passwd : Str
  uid : Nat
  gid : Nat
  dir : Str
  shell : Str

/-- The two databases, of the second one the passwords only, `crypt`, and the environment and
the list of variables of the daemon. -/
structure Accounts where
  getpwnam : Str → Option Passwd
  getspnam : Str → Option Str
  crypt : Str → Str → Option Str
  getenv : Str → Option Str
  exportList : List Str

/-! ### The environments -/

/-- Set those of the variables that the daemon has. -/
def exportEnv (a : Accounts) (names : List Str) (env : List Str) : List Str :=
  names.foldl (fun env name => match a.getenv name with
    | some value => setEnv name value env
    | none => env) env

def defaultEnv (a : Accounts) : List Str := exportEnv a a.exportList []

/-- Set the variable if there is a value for it. -/
def setEnvOption (name : Str) (value : Option Str) (env : List Str) : List Str :=
  match value with
  | some value => setEnv name value env
  | none => env

/-- `systemEnv`, in a build without `systemd`. -/
def systemEnv (a : Accounts) (d : Dpy) (user home : Option Str) : List Str :=
  let env := setEnv "DISPLAY".toList d.name (defaultEnv a)
  let env := setEnvOption "HOME".toList home env
  let env := setEnvOption "USER".toList user env
  let env := setEnvOption "LOGNAME".toList user env
  let env := setEnv "PATH".toList d.systemPath env
  let env := setEnv "SHELL".toList d.systemShell env
  let env := setEnvOption "XAUTHORITY".toList d.authFile env
  setEnvOption "WINDOWPATH".toList d.windowPath env

def userEnv (a : Accounts) (d : Dpy) (useSystemPath : Bool) (user home shell : Str) : List Str :=
  let env := setEnv "DISPLAY".toList d.name (defaultEnv a)
  let env := setEnv "HOME".toList home env
  let env := setEnv "LOGNAME".toList user env
  let env := setEnv "USER".toList user env
  let env := setEnv "PATH".toList (if useSystemPath then d.systemPath else d.userPath) env
  let env := setEnv "SHELL".toList shell env
  exportEnv a ["TZ".toList] env

/-! ### `Verify` -/

/-- The entry of the user, unless the name is empty or a null pointer. -/
def knownUser (a : Accounts) (greet : GreetInfo) : Option (Str × Passwd) :=
  match greet.name with
  | none => none
  | some name =>
    match a.getpwnam name with
    | none => none
    | some p => if name.length = 0 then none else some (name, p)

/-- Wipe the password and refuse. -/
def refuse (greet : GreetInfo) : Option VerifyInfo × GreetInfo :=
  (none, { greet with password := greet.password.map fun _ => [] })

/-- The end of `Verify`. -/
def succeed (a : Accounts) (d : Dpy) (greet : GreetInfo) (name : Str) (p : Passwd) :
    Option VerifyInfo × GreetInfo :=
  -- a vector without words is not a null pointer
  let argv := d.session.map (parseArgs [])
  let argv := match greet.string with
    | some string => some (parseArgs (argv.getD []) string)
    | none => argv
  (some
    { uid := p.uid
      gid := p.gid
      argv := argv.getD (parseArgs [] "xsession".toList)
      userEnviron := userEnv a d (p.uid = 0) name p.dir p.shell
      systemEnviron := systemEnv a d (some name) (some p.dir) }, greet)

/-- `Verify` in a build with PAM. -/
def verifyPam (a : Accounts) (d : Dpy) (greet : GreetInfo) : Option VerifyInfo × GreetInfo :=
  match knownUser a greet with
  | none => refuse greet
  | some (name, p) =>
    if p.uid = 0 ∧ !greet.allowRootLogin then refuse greet
    else succeed a d greet name p

/-- `user_pass`: the password of the shadow file, if it has one, or else that of `passwd`. -/
def userPass (a : Accounts) (name : Str) (p : Passwd) : Str := (a.getspnam name).getD p.passwd

/-- `crypt` fails, or does not give the password of the user. -/
def cryptDiffers (a : Accounts) (typed userPass : Str) : Bool :=
  match a.crypt typed userPass with
  | none => true
  | some cryptedPass => cryptedPass ≠ userPass

/-- `Verify` in a build with shadow passwords and without PAM.  Here the greeter has set the
name and the password. -/
def verify (a : Accounts) (d : Dpy) (greet : GreetInfo) : Option VerifyInfo × GreetInfo :=
  match knownUser a greet with
  | none => refuse greet
  | some (name, p) =>
    if p.uid = 0 ∧ !greet.allowRootLogin then refuse greet
    else if p.passwd = ['!'] ∨ p.passwd = ['*'] then refuse greet
    else if cryptDiffers a (greet.password.getD []) (userPass a name p) ∧
        (!greet.allowNullPasswd ∨ p.passwd.length > 0) then refuse greet
    else if p.uid = 0 ∧ !greet.allowRootLogin then refuse greet
    else succeed a d greet name p

/-! ### Who is accepted -/

variable {a : Accounts} {d : Dpy} {greet : GreetInfo} {name typed : Str} {p : Passwd}
variable {info : VerifyInfo}

/-- The user is known, is not the superuser unless that is allowed, and is not locked out. -/
structure Eligible (a : Accounts) (greet : GreetInfo) (name : Str) (p : Passwd) : Prop where
  known : a.getpwnam name = some p
  nonempty : name ≠ []
  root : p.uid = 0 → greet.allowRootLogin = true
  unlocked : p.passwd ≠ ['!'] ∧ p.passwd ≠ ['*']

/-- The typed password is the one that is stored. -/
def Matches (a : Accounts) (name typed : Str) (p : Passwd) : Prop :=
  a.crypt typed (userPass a name p) = some (userPass a name p)

lemma knownUser_eq_some (hname : greet.name = some name) {n : Str} :
    knownUser a greet = some (n, p) ↔ n = name ∧ a.getpwnam name = some p ∧ name ≠ [] := by
  unfold knownUser
  rw [hname]
  cases hknown : a.getpwnam name with
  | none => simp [hknown]
  | some q =>
    simp only [hknown, List.length_eq_zero_iff, Option.some.injEq]
    split_ifs with hempty
    · simp [hempty]
    · simp only [Option.some.injEq, Prod.mk.injEq, hempty, ne_eq, not_false_eq_true, and_true]
      rw [eq_comm (a := n)]

lemma cryptDiffers_iff : cryptDiffers a typed (userPass a name p) = true ↔
    ¬ Matches a name typed p := by
  unfold cryptDiffers Matches
  cases a.crypt typed (userPass a name p) <;> simp

@[simp] lemma refuse_isSome (greet : GreetInfo) : (refuse greet).1.isSome = false := rfl

@[simp] lemma succeed_isSome (a : Accounts) (d : Dpy) (greet : GreetInfo) (name : Str)
    (p : Passwd) : (succeed a d greet name p).1.isSome = true := rfl

/-- What `Verify` accepts in the build without PAM. -/
theorem verify_isSome_iff (hname : greet.name = some name) (htyped : greet.password = some typed) :
    (verify a d greet).1.isSome = true ↔ ∃ p, Eligible a greet name p ∧
      (Matches a name typed p ∨ greet.allowNullPasswd = true ∧ p.passwd = []) := by
  unfold verify
  cases hknown : knownUser a greet with
  | none =>
    refine iff_of_false (by simp) ?_
    rintro ⟨p, he, -⟩
    have hsome := (knownUser_eq_some hname).2 ⟨rfl, he.known, he.nonempty⟩
    exact nomatch hknown.symm.trans hsome
  | some known =>
    obtain ⟨n, p⟩ := known
    obtain ⟨rfl, hp, hempty⟩ := (knownUser_eq_some hname).1 hknown
    have honly : ∀ q, Eligible a greet n q → q = p := fun q hq =>
      Option.some.inj (hq.known.symm.trans hp)
    have hdiffers : cryptDiffers a (greet.password.getD []) (userPass a n p) = true ↔
        ¬ Matches a n typed p := by
      rw [htyped]
      exact cryptDiffers_iff
    dsimp only
    split_ifs with hroot hlocked hpassword
    · refine iff_of_false (by simp) ?_
      rintro ⟨q, hq, -⟩
      obtain rfl := honly q hq
      simp [hq.root hroot.1] at hroot
    · refine iff_of_false (by simp) ?_
      rintro ⟨q, hq, -⟩
      obtain rfl := honly q hq
      exact hlocked.elim hq.unlocked.1 hq.unlocked.2
    · refine iff_of_false (by simp) ?_
      rintro ⟨q, hq, hmatches | ⟨hallow, hnull⟩⟩
      · obtain rfl := honly q hq
        exact hdiffers.1 hpassword.1 hmatches
      · obtain rfl := honly q hq
        simp [hallow, hnull] at hpassword
    · refine iff_of_true rfl ⟨p, ⟨hp, hempty, fun hzero => ?_, not_or.1 hlocked⟩, ?_⟩
      · by_contra hallow
        exact hroot ⟨hzero, by simpa using hallow⟩
      · by_cases hmatches : Matches a n typed p
        · exact Or.inl hmatches
        · have haccepted := not_and.1 hpassword (hdiffers.2 hmatches)
          rw [not_or] at haccepted
          refine Or.inr ⟨by simpa using haccepted.1, ?_⟩
          exact List.length_eq_zero_iff.1 (Nat.eq_zero_of_not_pos haccepted.2)

/-- The typed password is right, or none is needed and none is stored. -/
def RightPassword (a : Accounts) (greet : GreetInfo) (name typed : Str) (p : Passwd) : Prop :=
  Matches a name typed p ∨ greet.allowNullPasswd = true ∧ userPass a name p = []

/-- For all databases, names, passwords and settings: `Verify` accepts those who are eligible
and have the right password, and nobody with a wrong one for a password that is not empty, if
and only if the two databases agree on whether the password is empty; that matters for those
only who are eligible and get the password wrong, while `allowNullPasswd` is set. -/
theorem verify_right_iff (hname : greet.name = some name) (htyped : greet.password = some typed) :
    (((verify a d greet).1.isSome = true ↔
        ∃ p, Eligible a greet name p ∧ RightPassword a greet name typed p) ∧
      ∀ p, a.getpwnam name = some p → userPass a name p ≠ [] →
        (verify a d greet).1.isSome = true → Matches a name typed p) ↔
    ∀ p, Eligible a greet name p → ¬ Matches a name typed p → greet.allowNullPasswd = true →
      (p.passwd = [] ↔ userPass a name p = []) := by
  have hunique : ∀ {p q}, Eligible a greet name p → a.getpwnam name = some q → q = p :=
    fun hp hq => Option.some.inj (hq.symm.trans hp.known)
  rw [verify_isSome_iff hname htyped]
  constructor
  · rintro ⟨hiff, -⟩ p hp hdiffers hallow
    constructor
    · intro hnull
      obtain ⟨q, hq, hright⟩ := hiff.1 ⟨p, hp, Or.inr ⟨hallow, hnull⟩⟩
      obtain rfl := hunique hp hq.known
      exact (hright.resolve_left hdiffers).2
    · intro hnull
      obtain ⟨q, hq, hright⟩ := hiff.2 ⟨p, hp, Or.inr ⟨hallow, hnull⟩⟩
      obtain rfl := hunique hp hq.known
      exact (hright.resolve_left hdiffers).2
  · intro hagree
    -- the code's test and the right one give the same for an eligible user
    have hsame : ∀ p, Eligible a greet name p → (RightPassword a greet name typed p ↔
        Matches a name typed p ∨ greet.allowNullPasswd = true ∧ p.passwd = []) := by
      intro p hp
      by_cases hmatches : Matches a name typed p
      · exact iff_of_true (Or.inl hmatches) (Or.inl hmatches)
      · refine or_congr_right (and_congr_right fun hallow => ?_)
        exact (hagree p hp hmatches hallow).symm
    refine ⟨exists_congr fun p => and_congr_right fun hp => (hsame p hp).symm, ?_⟩
    rintro p hknown hstored ⟨q, hq, haccepted⟩
    obtain rfl := hunique hq hknown
    exact ((hsame p hq).2 haccepted).resolve_right fun h => hstored h.2

/-- One user, with these passwords in the two databases; `crypt` keeps the salt and appends the
password. -/
def oneUser (passwd : Str) (shadow : Option Str) : Accounts where
  getpwnam name :=
    if name = ['u'] then some ⟨passwd, 1000, 1000, "/home/u".toList, "/bin/sh".toList⟩ else none
  getspnam name := if name = ['u'] then shadow else none
  crypt typed salt := if salt.length < 2 then none else some (salt.take 2 ++ typed)
  getenv _ := none
  exportList := []

def consoleDpy : Dpy := ⟨":0".toList, [], [], [], none, none, none⟩

/-- The user has typed this password, and null passwords are allowed. -/
def typing (typed : Str) : GreetInfo := ⟨some ['u'], some typed, none, true, false⟩

/-- With a password in the shadow file and a mark for it in the other one. -/
theorem verify_shadowed :
    ((verify (oneUser ['x'] (some "abpw".toList)) consoleDpy (typing "no".toList)).1.isSome = true ↔
      ∃ p, Eligible (oneUser ['x'] (some "abpw".toList)) (typing "no".toList) ['u'] p ∧
        RightPassword (oneUser ['x'] (some "abpw".toList)) (typing "no".toList) ['u'] "no".toList
          p) := by
  have hname : (typing "no".toList).name = some ['u'] := rfl
  have htyped : (typing "no".toList).password = some "no".toList := rfl
  refine ((verify_right_iff hname htyped).2 ?_).1
  rintro p hp - -
  obtain rfl := Option.some.inj hp.known
  decide

/-- With an empty password in the one file and none in the other one, a wrong password is
accepted; the other way round the empty password is not. -/
theorem verify_wrong :
    ((verify (oneUser [] (some "abpw".toList)) consoleDpy (typing "no".toList)).1.isSome = true ∧
      ∀ p, ¬ (Eligible (oneUser [] (some "abpw".toList)) (typing "no".toList) ['u'] p ∧
        RightPassword (oneUser [] (some "abpw".toList)) (typing "no".toList) ['u'] "no".toList
          p)) ∧
    ((verify (oneUser ['x'] (some [])) consoleDpy (typing [])).1.isSome = false ∧
      ∃ p, Eligible (oneUser ['x'] (some [])) (typing []) ['u'] p ∧
        RightPassword (oneUser ['x'] (some [])) (typing []) ['u'] [] p) := by
  refine ⟨⟨by decide, ?_⟩, by decide, ?_⟩
  · rintro p ⟨hp, hright⟩
    obtain rfl := Option.some.inj hp.known
    revert hright
    unfold RightPassword Matches
    decide
  · exact ⟨_, ⟨rfl, by decide, by decide, by decide⟩, Or.inr ⟨rfl, rfl⟩⟩

/-! ### The home directory -/

lemma getEnv_exportEnv (a : Accounts) {names : List Str} (hname : '=' ∉ name)
    (hnames : ∀ n ∈ names, name ≠ n ∧ '=' ∉ n) (env : List Str) :
    getEnv (exportEnv a names env) name = getEnv env name := by
  induction names generalizing env with
  | nil => rfl
  | cons n names ih =>
    obtain ⟨hne, hn⟩ := hnames n (List.mem_cons_self ..)
    refine (ih (fun m hm => hnames m (List.mem_cons_of_mem _ hm)) _).trans ?_
    dsimp only
    split
    · exact getEnv_setEnv_of_ne hne hn hname _ env
    · rfl

/-- The session of a user finds the home directory in `HOME`. -/
lemma userEnv_home (a : Accounts) (d : Dpy) (useSystemPath : Bool) (user home shell : Str) :
    getEnv (userEnv a d useSystemPath user home shell) "HOME".toList = some home := by
  have hhome : '=' ∉ "HOME".toList := by decide
  simp only [userEnv]
  rw [getEnv_exportEnv a hhome (by decide),
    getEnv_setEnv_of_ne (by decide) (by decide) hhome,
    getEnv_setEnv_of_ne (by decide) (by decide) hhome,
    getEnv_setEnv_of_ne (by decide) (by decide) hhome,
    getEnv_setEnv_of_ne (by decide) (by decide) hhome, getEnv_setEnv]

end Xdm.Greeter
