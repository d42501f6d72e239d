/-
# The authority file of a user

`SetUserAuthorization` and `RemoveUserAuthorization` (`xdm/auth.c`).  The first one puts the
entries of the display into `.Xauthority` when the session starts, the second one takes them out
when it has ended; all other entries survive.
-/
import Xdm.Lib.Files
import Xdm.UserAuth.Entries
import Xdm.Util

namespace Xdm.UserAuth

variable {w : World} {d : Dpy} {auths old : List Xauth} {name : Str}

/-! ### Opening the files -/

/-- The files, of which only those with entries matter here. -/
abbrev Dir : Type := Files Str (List Xauth)

/-- `new_name`. -/
def newName (name : Str) : Str := name ++ "-n".toList

/-- Make the new file and open the old one, if it is not open.  Returns the old entries if there
is an old file, or nothing if the new file cannot be made. -/
def openFiles (unlinked : Bool) (name : Str) (oldp : Option (List Xauth)) (fs : Dir) :
    Option (Option (List Xauth)) × Dir :=
  let fs := fs.unlink unlinked (newName name)
  if (fs (newName name)).isSome then (none, fs)
  else
    let fs := fs.put (newName name) []
    (some (oldp.or (fs name)), fs)

structure VerifyInfo where
  userEnviron : List Str
  systemEnviron : List Str

/-- What the library and the kernel answer to `SetUserAuthorization`: whether the locks are
obtained, the six characters that `mkstemp` puts into its template, and the answers to the calls
that replace `.Xauthority` and the backup file. -/
structure SetAnswers where
  lockHome : Bool
  mkstemp : Option { suffix : Str // suffix.length = 6 }
  lockBackup : Bool
  home : Files.Answers
  backup : Files.Answers

/-- The file that `SetUserAuthorization` works on. -/
structure Opened where
  name : Str
  old : List Xauth
  setenv : Bool
  answers : Files.Answers

def homeName (home : Str) : Str := home ++ "/.Xauthority".toList

def backupName (userAuthDir suffix : Str) : Str := userAuthDir ++ "/.Xauth".toList ++ suffix

def openHome (ask : SetAnswers) (verify : VerifyInfo) (fs : Dir) : Option Opened × Dir :=
  match getEnv verify.userEnviron "HOME".toList with
  | none => (none, fs)
  | some home =>
    if ask.lockHome then
      let opened := openFiles ask.home.unlinkTemp (homeName home) none fs
      (opened.1.join.map fun old => ⟨homeName home, old, false, ask.home⟩, opened.2)
    else (none, fs)

/-- `mkstemp` makes a new file, and opens it. -/
def openBackup (ask : SetAnswers) (d : Dpy) (fs : Dir) : Option Opened × Dir :=
  match ask.mkstemp with
  | none => (none, fs)
  | some suffix =>
    let name := backupName d.userAuthDir suffix
    if (fs name).isSome then (none, fs)
    else
      let fs := fs.put name []
      if ask.lockBackup then
        let opened := openFiles ask.backup.unlinkTemp name (some []) fs
        (opened.1.join.map fun old => ⟨name, old, true, ask.backup⟩, opened.2)
      else (none, fs)

def VerifyInfo.setXauthority (verify : VerifyInfo) (name : Str) : VerifyInfo where
  userEnviron := setEnv "XAUTHORITY".toList name verify.userEnviron
  systemEnviron := setEnv "XAUTHORITY".toList name verify.systemEnviron

/-- What `SetUserAuthorization` leaves: the files, the environments of the session, and the
authorizations it has used. -/
structure Session where
  files : Dir
  verify : VerifyInfo
  authorizations : Option (List Xauth)

/-- The part of `SetUserAuthorization` once a file is open. -/
def setOpened (w : World) (d : Dpy) (verify : VerifyInfo) (auths : List Xauth) (file : Opened)
    (fs : Dir) : Session :=
  let written := setEntries w d auths file.old
  let replaced := fs.replace file.answers file.name (newName file.name) written.1.new
  { files := replaced.1
    verify :=
      if !replaced.2 then verify.setXauthority (newName file.name)
      else if file.setenv then verify.setXauthority file.name
      else verify
    authorizations := some written.2 }

def setUserAuthorization (w : World) (ask : SetAnswers) (d : Dpy) (verify : VerifyInfo)
    (fs : Dir) : Session :=
  match d.authorizations with
  | none => ⟨fs, verify, none⟩
  | some auths =>
    let home := openHome ask verify fs
    match home.1 with
    | some file => setOpened w d verify auths file home.2
    | none =>
      let backup := openBackup ask d home.2
      match backup.1 with
      | some file => setOpened w d verify auths file backup.2
      | none => ⟨backup.2, verify, some auths⟩

def removeUserAuthorization (w : World) (lock : Bool) (answers : Files.Answers) (d : Dpy)
    (verify : VerifyInfo) (fs : Dir) : Dir :=
  match d.authorizations with
  | none => fs
  | some auths =>
    match getEnv verify.userEnviron "HOME".toList with
    | none => fs
    | some home =>
      if lock then
        let name := homeName home
        let opened := openFiles answers.unlinkTemp name none fs
        match opened.1 with
        | none => opened.2
        | some old =>
          let written := removeEntries w d auths (old.getD [])
          (opened.2.replace answers name (newName name) written.1.new).1
      else fs

/-! ### The names of the files -/

lemma newName_ne (name : Str) : newName name ≠ name := by
  intro h
  have hlength := congrArg List.length h
  simp [newName] at hlength

lemma newName_injective {a b : Str} (h : newName a = newName b) : a = b :=
  List.append_cancel_right h

/-- The last characters of two equal strings. -/
lemma eq_of_append_eq {a b u v : Str} (h : a ++ u = b ++ v) (hlength : u.length = v.length) :
    a = b ∧ u = v :=
  List.append_inj' h hlength

/-- The name of a backup file is none of the names that are used in the home directory. -/
lemma backupName_ne (dir : Str) (suffix : { suffix : Str // suffix.length = 6 }) (home : Str) :
    backupName dir suffix ≠ homeName home ∧ backupName dir suffix ≠ newName (homeName home) ∧
      newName (backupName dir suffix) ≠ homeName home := by
  have hlast : ∀ {a b : Str} {x y : Char}, a ++ [x] = b ++ [y] → x = y := fun h => by
    simpa using (eq_of_append_eq h rfl).2
  refine ⟨fun h => ?_, fun h => ?_, fun h => ?_⟩
  · have hinit : dir ++ "/.Xaut".toList ++ ['h'] = home ++ "/.Xau".toList ++ ['t'] := by
      have := (eq_of_append_eq (a := dir ++ "/.Xauth".toList) (b := home ++ "/.Xaut".toList)
        (v := "hority".toList) (by simpa [backupName, homeName] using h) (by simp [suffix.2])).1
      simpa using this
    exact absurd (hlast hinit) (by decide)
  · have hinit : dir ++ "/.Xaut".toList ++ ['h'] = home ++ "/.Xauth".toList ++ ['o'] := by
      have := (eq_of_append_eq (a := dir ++ "/.Xauth".toList) (b := home ++ "/.Xautho".toList)
        (v := "rity-n".toList) (by simpa [backupName, homeName, newName] using h)
        (by simp [suffix.2])).1
      simpa using this
    exact absurd (hlast hinit) (by decide)
  · have hinit : backupName dir suffix ++ ['-'] ++ ['n'] =
        home ++ "/.Xauthorit".toList ++ ['y'] := by
      simpa [homeName, newName] using h
    exact absurd (hlast hinit) (by decide)

/-! ### One update -/

/-- The new file can be made. -/
lemma openFiles_made {unlinked : Bool} {oldp : Option (List Xauth)} {fs : Dir}
    (h : fs (newName name) = none ∨ unlinked = true) : openFiles unlinked name oldp fs =
      (some (oldp.or (fs name)), fs.put (newName name) []) := by
  have hfree : (fs.unlink unlinked (newName name) (newName name)).isSome = false := by
    rcases h with h | rfl
    · cases unlinked with
      | true => simp
      | false => simp [h]
    · simp
  unfold openFiles
  simp only [hfree, Bool.false_eq_true, if_false, Files.unlink_put]
  rw [Files.put_of_ne (newName_ne name).symm]

/-- There is a new file already, and it cannot be unlinked. -/
lemma openFiles_stuck {oldp : Option (List Xauth)} {fs : Dir} (h : fs (newName name) ≠ none) :
    openFiles false name oldp fs = (none, fs) := by
  have hthere : (fs.unlink false (newName name) (newName name)).isSome = true :=
    Option.isSome_iff_ne_none.2 h
  unfold openFiles
  exact if_pos hthere

section Home

variable {ask : SetAnswers} {verify : VerifyInfo} {home : Str} {fs : Dir}
variable (hd : d.authorizations = some auths)
  (hhome : getEnv verify.userEnviron "HOME".toList = some home)

include hd hhome

/-- `SetUserAuthorization` works on `.Xauthority` if there is one and the new file can be
made. -/
lemma setUserAuthorization_home (hlock : ask.lockHome = true)
    (hold : fs (homeName home) = some old)
    (hnew : fs (newName (homeName home)) = none ∨ ask.home.unlinkTemp = true) :
    setUserAuthorization w ask d verify fs =
      setOpened w d verify auths ⟨homeName home, old, false, ask.home⟩
        (fs.put (newName (homeName home)) []) := by
  simp only [setUserAuthorization, hd, openHome, hhome, hlock, if_true, openFiles_made hnew, hold,
    Option.none_or, Option.join_some, Option.map_some]

/-- `RemoveUserAuthorization`, when the new file can be made. -/
lemma removeUserAuthorization_made {answers : Files.Answers}
    (hnew : fs (newName (homeName home)) = none ∨ answers.unlinkTemp = true) :
    removeUserAuthorization w true answers d verify fs =
      ((fs.put (newName (homeName home)) []).replace answers (homeName home)
        (newName (homeName home))
        (removeEntries w d auths ((fs (homeName home)).getD [])).1.new).1 := by
  simp only [removeUserAuthorization, hd, hhome, if_true, openFiles_made hnew, Option.none_or]

end Home

/-! ### Login and logout -/

/-- What has been left alone once is left alone again, and nothing else. -/
lemma foreign_allEntries (w : World) (d : Dpy) (auths old : List Xauth) :
    d.foreign w auths (d.allEntries w auths ++ d.foreign w auths old) = d.foreign w auths old := by
  have howned : d.foreign w auths (d.allEntries w auths) = [] :=
    List.filter_eq_nil_iff.2 fun e he => by
      simp only [decide_not, Bool.not_eq_true', decide_eq_false_iff_not, not_not]
      exact ⟨e, he, rfl⟩
  unfold Dpy.foreign at howned ⊢
  rw [List.filter_append, howned, List.nil_append, List.filter_filter]
  simp only [Bool.and_self]

/-- All calls succeed, and the lock of `.Xauthority` is obtained. -/
structure SetAnswers.Granted (ask : SetAnswers) : Prop where
  lockHome : ask.lockHome = true
  home : ask.home = Files.Answers.granted

/-- For every display, every list of authorizations and every `.Xauthority`, when all calls
succeed: `SetUserAuthorization` leaves the entries of the display, those of the first
`MIT-MAGIC-COOKIE-1` before the others, and after them the old entries that are not the
display's, in their order; `RemoveUserAuthorization` with the same interfaces, and with the
authorizations as they were before or as the first function has left them, then leaves the old
entries that are not the display's.  No other file is changed, and the new file is gone. -/
theorem user_authority_restored {ask : SetAnswers} {verify : VerifyInfo} {home : Str} {fs : Dir}
    (w : World) (hd : d.authorizations = some auths)
    (hhome : getEnv verify.userEnviron "HOME".toList = some home) (hask : ask.Granted)
    (hold : fs (homeName home) = some old) :
    (setUserAuthorization w ask d verify fs).files =
      (fs.unlink true (newName (homeName home))).put (homeName home)
        (d.allEntries w auths ++ d.foreign w auths old) ∧
    (setUserAuthorization w ask d verify fs).verify = verify ∧
    ∀ auths', auths' = auths ∨
      some auths' = (setUserAuthorization w ask d verify fs).authorizations →
      removeUserAuthorization w true .granted { d with authorizations := some auths' } verify
        (setUserAuthorization w ask d verify fs).files =
          (fs.unlink true (newName (homeName home))).put (homeName home)
            (d.foreign w auths old) := by
  have hne : homeName home ≠ newName (homeName home) := (newName_ne _).symm
  have hset : setUserAuthorization w ask d verify fs =
      ⟨(fs.unlink true (newName (homeName home))).put (homeName home)
        (d.allEntries w auths ++ d.foreign w auths old), verify,
        some (setEntries w d auths old).2⟩ := by
    rw [setUserAuthorization_home hd hhome hask.lockHome hold
      (Or.inr (by rw [hask.home]; rfl)), setOpened, hask.home]
    simp only [Files.replace_granted hne, Files.unlink_true_put, (setEntries_spec w d auths old).1,
      Bool.not_true, Bool.false_eq_true, if_false]
  rw [hset]
  refine ⟨rfl, rfl, fun auths' hauths' => ?_⟩
  have hused : AllUsed d.name auths auths' := by
    rcases hauths' with rfl | hauths'
    · exact allUsed_refl d.name auths'
    · rw [Option.some.inj hauths']
      exact (setEntries_spec w d auths old).2
  have hremoved := removeEntries_new (w := w) (d := { d with authorizations := some auths' }) hused
    (d.allEntries w auths ++ d.foreign w auths old)
  dsimp only
  rw [removeUserAuthorization_made (d := { d with authorizations := some auths' }) rfl hhome
    (Or.inr rfl), Files.replace_granted hne, Files.unlink_true_put, Files.put_same,
    Option.getD_some, hremoved]
  dsimp only
  rw [Files.unlink_put_comm hne.symm, Files.unlink_unlink, Files.put_put]
  exact congrArg (fun c => Files.put (homeName home) c
    (Files.unlink true (newName (homeName home)) fs)) (foreign_allEntries w d auths old)

/-- A local display with an authorization that has not been used. -/
def Dpy.console : Dpy where
  name := ":0".toList
  location := .localHost
  peer := none
  userAuthDir := "/tmp".toList
  authorizations := some [⟨familyWild, [], [], mitMagicCookie1, [7]⟩]

/-- The user has a cookie of another display of this host, and an old one of this display. -/
def cookies : List Xauth :=
  [⟨familyLocal, bytesOf "localhost".toList, bytesOf "1".toList, mitMagicCookie1, [1]⟩,
    ⟨familyLocal, bytesOf "localhost".toList, bytesOf "0".toList, mitMagicCookie1, [2]⟩]

def VerifyInfo.user : VerifyInfo := ⟨["HOME=/home/u".toList], []⟩

def SetAnswers.granted : SetAnswers := ⟨true, none, true, .granted, .granted⟩

/-- The files of a user with this `.Xauthority`. -/
def Dir.withCookies (entries : List Xauth) : Dir :=
  Files.put (homeName "/home/u".toList) entries fun _ => none

/-- The cookie of the other display survives. -/
theorem cookie_restored :
    removeUserAuthorization World.silent true .granted Dpy.console .user
      (setUserAuthorization World.silent .granted Dpy.console .user (.withCookies cookies)).files
        (homeName "/home/u".toList) = some (cookies.take 1) := by
  have hhome : getEnv VerifyInfo.user.userEnviron "HOME".toList = some "/home/u".toList := by
    decide
  have hold : Dir.withCookies cookies (homeName "/home/u".toList) = some cookies :=
    Files.put_same ..
  have hask : SetAnswers.granted.Granted := ⟨rfl, rfl⟩
  obtain ⟨-, -, hremove⟩ :=
    user_authority_restored World.silent (d := Dpy.console) rfl hhome hask hold
  have hforeign : Dpy.console.foreign World.silent
      [⟨familyWild, [], [], mitMagicCookie1, [7]⟩] cookies = cookies.take 1 := by decide
  exact (congrFun (hremove _ (Or.inl rfl)) _).trans
    ((Files.put_same ..).trans (congrArg some hforeign))

end Xdm.UserAuth
