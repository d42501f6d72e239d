/-
# The authority files of the servers

Before a local server is started, and before each session on it, `StartDisplay` generates new
authorizations and writes them to the file that the server has been given after `-auth`
(`SetLocalAuthorization`, `SaveServerAuthorizations`, `MakeServerAuthFile` of `xdm/auth.c`); for a
display of XDMCP it writes those that the server has been sent.  `RemoveDisplay` unlinks the file.
In a run with any number of displays, and with the kernel refusing what it likes:

* `server_lets_in`: the file of the server holds what xdm connects with;
* `server_locks_out`: unless the file could not be written while the server runs;
* `authority_files_accounted`: which files are left behind, and who may read them.
-/
import Xdm.Auth
import Xdm.Lib.Files
import Xdm.Lib.Run

namespace Xdm

namespace ServerAuth

open Prog

/-! ### Files and displays -/

/-- What is written to an authority file. -/
inductive Piece
  | entry (auth : Xauth)
  /-- An entry that could not be written completely. -/
  | torn (auth : Xauth)
  /-- `dummy_auth` -/
  | dummy
deriving DecidableEq

structure File where
  mode : Nat
  contents : List Piece
deriving DecidableEq

abbrev Dir : Type := Files Str File

/-- The mode of a file that is made with the umask 0077. -/
def authMode : Nat := 0o600

/-- The fields of a `struct display` that are read here.  `clientAuthFile` is empty if it is
`NULL` as well; `server` is what follows `-auth`, if there is a server. -/
structure Dpy where
  name : Str
  location : Location
  clientAuthFile : Str
  authFile : Option Str
  authorizations : Option (List Xauth)
  server : Option (Option Str)
deriving DecidableEq

/-- The result of `stat`. -/
inductive Stat
  | directory
  | other
  | missing
  | failed
deriving DecidableEq

/-- What `LoadServerResources` finds for the display, and `authDir`. -/
structure Resources where
  authDir : Str
  authorize : Bool
  authNames : Option (List Str)
  clientAuthFile : Str

/-- What the kernel and the library answer.  `writes` is for the entries in turn; there is no
error where it ends. -/
structure Answers where
  generateAuthorization : Str → Option Xauth
  authNameLens : Bool
  auths : Bool
  strdup : Bool
  authFile : Bool
  dirs : Fin 3 → Stat × Bool
  mkstemp : Option { suffix : Str // suffix.length = 6 }
  fdopen : Bool
  unlink : Bool
  fopen : Bool
  dummy : Bool
  writes : List Bool
  ftruncate : Bool
  startServer : Bool

/-! ### The functions of `auth.c` -/

/-- `len` counts the characters that are left, with the terminating NUL, which the eighth bit of
a character may hide. -/
def cleanUpFileName (src : Str) (len : Nat) : Str :=
  ((src.take (len - 1)).map fun c =>
    let c := Char.ofNat (c.toNat % 128)
    if c = '/' then '_' else if c = '-' then '.' else c).takeWhile (· ≠ Char.ofNat 0)

def checkServerAuthDir (stat : Stat) (mkdir : Bool) : Int :=
  match stat with
  | .directory => 0
  | .missing => if mkdir then 1 else -1
  | .other | .failed => -1

/-- `authDir/authdir/authfiles/A<name>-XXXXXX` -/
def templateName (authDir name suffix : Str) : Str :=
  authDir ++ "/authdir/authfiles/A".toList ++ cleanUpFileName name 247 ++ "-".toList ++ suffix

/-- The outcome of `MakeServerAuthFile`; `file` is the name of the file that is open. -/
structure Made where
  ret : Bool
  file : Option Str
  display : Dpy
  files : Dir

/-- `unlink` and `fopen` -/
def openAgain (a : Answers) (p : Str) (d : Dpy) (fs : Dir) : Made :=
  let fs := fs.unlink a.unlink p
  if a.fopen then
    let mode := ((fs p).map File.mode).getD authMode
    ⟨true, some p, d, fs.put p ⟨mode, []⟩⟩
  else ⟨true, none, d, fs⟩

/-- `mkstemp` makes a file that has not been there. -/
def makeServerAuthFile (a : Answers) (authDir : Str) (d : Dpy) (fs : Dir) : Option Made :=
  match d.authFile with
  | some p => some (openAgain a p d fs)
  | none =>
    if d.clientAuthFile ≠ [] then
      if a.strdup then
        some (openAgain a d.clientAuthFile { d with authFile := some d.clientAuthFile } fs)
      else some ⟨false, none, d, fs⟩
    else if a.authFile ∧ ∀ i, 0 ≤ checkServerAuthDir (a.dirs i).1 (a.dirs i).2 then
      match a.mkstemp with
      | none => some ⟨false, none, d, fs⟩
      | some suffix =>
        let p := templateName authDir d.name suffix
        if (fs p).isSome then none
        else
          some ⟨true, if a.fdopen then some p else none, { d with authFile := some p },
            fs.put p ⟨authMode, []⟩⟩
    else some ⟨false, none, d, fs⟩

/-- The entries with data, and whether all of them could be written. -/
def writeEntries : List Bool → List Xauth → List Piece × Bool
  | _, [] => ([], true)
  | writes, auth :: auths =>
    if auth.data = [] then writeEntries writes auths
    else
      let ok := writes.headD true
      let rest := writeEntries writes.tail auths
      ((if ok then .entry auth else .torn auth) :: rest.1, ok && rest.2)

/-- Write to the open file; `dummy_auth` stays if it cannot be truncated. -/
def writeAuths (a : Answers) (auths : List Xauth) : List Piece × Bool :=
  if auths = [] then (if a.ftruncate then [] else [.dummy], a.dummy)
  else writeEntries a.writes auths

def saveServerAuthorizations (a : Answers) (authDir : Str) (d : Dpy) (auths : List Xauth)
    (fs : Dir) : Option (Bool × Dpy × Dir) :=
  (makeServerAuthFile a authDir d fs).map fun made =>
    if made.ret then
      match made.file with
      | none => (false, { made.display with authFile := none }, made.files)
      | some p =>
        let mode := ((made.files p).map File.mode).getD authMode
        let fs := made.files.put p ⟨mode, (writeAuths a auths).1⟩
        if (writeAuths a auths).2 then (true, made.display, fs)
        else (false, { made.display with authFile := none }, fs)
    else (false, made.display, made.files)

/-- The old authorizations are disposed of, whatever comes of the new ones. -/
def setLocalAuthorization (a : Answers) (r : Resources) (d : Dpy) (fs : Dir) :
    Option (Dpy × Dir) :=
  let d := { d with authorizations := none }
  match r.authNames with
  | none => some (d, fs)
  | some names =>
    if a.authNameLens ∧ a.auths then
      let auths := names.filterMap a.generateAuthorization
      (saveServerAuthorizations a r.authDir d auths fs).map fun saved =>
        (if saved.1 then { saved.2.1 with authorizations := some auths } else saved.2.1, saved.2.2)
    else some (d, fs)

/-! ### Displays -/

/-- The displays by their address. -/
structure State where
  displays : Nat → Option Dpy
  files : Dir

namespace State

def write (id : Nat) (d : Dpy) (fs : Dir) (s : State) : State :=
  { displays := Function.update s.displays id (some d), files := fs }

/-- `RemoveDisplay` -/
def remove (unlink : Bool) (id : Nat) (d : Dpy) (fs : Dir) (s : State) : State :=
  { displays := Function.update s.displays id none
    files := match d.authFile with
      | some p => fs.unlink unlink p
      | none => fs }

/-- `StartDisplay`, up to the fork of the session. -/
def startDisplay (a : Answers) (r : Resources) (id : Nat) (d : Dpy) (s : State) : Option State :=
  let d := { d with clientAuthFile := r.clientAuthFile }
  match d.location with
  | .localHost =>
    (if r.authorize then setLocalAuthorization a r d s.files else some (d, s.files)).map fun set =>
      if set.1.server.isSome then s.write id set.1 set.2
      else if a.startServer then
        s.write id { set.1 with server := some set.1.authFile } set.2
      else s.remove a.unlink id set.1 set.2
  | .foreign =>
    match d.authorizations with
    | some auths =>
      (saveServerAuthorizations a r.authDir d auths s.files).map fun saved =>
        s.write id saved.2.1 saved.2.2
    | none => some (s.write id d s.files)

end State

inductive Act
  /-- `NewDisplay`; for XDMCP, `manage` hands the authorization over. -/
  | enter (id : Nat) (name : Str) (location : Location) (auths : Option (List Xauth))
  | start (id : Nat) (r : Resources) (a : Answers)
  /-- The server dies. -/
  | dies (id : Nat)
  /-- `RemoveDisplay` -/
  | remove (id : Nat) (unlink : Bool)

def Act.next (s : State) : Act → Option State
  | .enter id name location auths =>
    if (s.displays id).isSome then none
    else
      let auths := if location = .localHost then none else auths
      some (s.write id ⟨name, location, [], none, auths, none⟩ s.files)
  | .start id r a => (s.displays id).bind fun d => s.startDisplay a r id d
  | .dies id => (s.displays id).map fun d => s.write id { d with server := none } s.files
  | .remove id unlink => (s.displays id).map fun d => s.remove unlink id d s.files

def Act.perform (i : Act) : Prog State Unit := fun s => (i.next s).map fun s' => ((), s')

/-- Runs of the daemon from the files that are there. -/
abbrev AuthRun (fs : Dir) : List (Prog.Step State Act) → State → Prop :=
  Prog.Run Act.perform ⟨fun _ => none, fs⟩

variable {a : Answers} {r : Resources} {authDir : Str} {d d' : Dpy} {auths : List Xauth}
  {fs fs' fs₀ : Dir} {s s' : State} {i : Act} {id : Nat} {p q : Str} {made : Made}
  {h h₁ h₂ : List (Step State Act)} {x : Step State Act}

/-! ### One file -/

/-- The entries that a server reads. -/
def entries (auths : List Xauth) : List Piece :=
  (auths.filter fun auth => auth.data ≠ []).map .entry

/-- The kernel lets the file be opened and written. -/
def Answers.writable (a : Answers) : Bool := a.fopen && a.dummy && a.writes.all (·)

/-- It refuses nothing. -/
def Answers.granted (a : Answers) : Bool := a.fdopen && a.unlink && a.writable

lemma writeEntries_of_all : ∀ {writes : List Bool} (auths : List Xauth),
    writes.all (·) = true → writeEntries writes auths = (entries auths, true)
  | _, [], _ => rfl
  | writes, auth :: auths, hall => by
    have hhead : writes.headD true = true := by
      cases writes with
      | nil => rfl
      | cons b writes => exact (Bool.and_eq_true_iff.1 hall).1
    have htail : writes.tail.all (·) = true := by
      cases writes with
      | nil => rfl
      | cons b writes => exact (Bool.and_eq_true_iff.1 hall).2
    unfold writeEntries
    split
    · next hdata =>
      rw [writeEntries_of_all auths hall, entries, entries, List.filter_cons_of_neg]
      simpa using hdata
    · next hdata =>
      rw [writeEntries_of_all auths htail, hhead, entries, entries, List.filter_cons_of_pos]
      · rfl
      · simpa using hdata

/-- What has been written without an error is complete. -/
lemma writeEntries_ok : ∀ {writes : List Bool} {auths : List Xauth},
    (writeEntries writes auths).2 = true → (writeEntries writes auths).1 = entries auths
  | _, [], _ => rfl
  | writes, auth :: auths, hok => by
    unfold writeEntries at hok ⊢
    split
    · next hdata =>
      rw [if_pos hdata] at hok
      rw [writeEntries_ok hok, entries, entries, List.filter_cons_of_neg]
      simpa using hdata
    · next hdata =>
      rw [if_neg hdata] at hok
      obtain ⟨hhead, hrest⟩ := Bool.and_eq_true_iff.1 hok
      dsimp only
      rw [hhead, writeEntries_ok hrest, entries, entries, List.filter_cons_of_pos]
      · rfl
      · simpa using hdata

lemma writeAuths_ok (hok : (writeAuths a auths).2 = true) (hne : auths ≠ []) :
    (writeAuths a auths).1 = entries auths := by
  unfold writeAuths at hok ⊢
  rw [if_neg hne] at hok ⊢
  exact writeEntries_ok hok

lemma writeAuths_writable (hwritable : a.writable = true) : (writeAuths a auths).2 = true := by
  obtain ⟨hopen, hall⟩ := Bool.and_eq_true_iff.1 hwritable
  unfold writeAuths
  split
  · exact (Bool.and_eq_true_iff.1 hopen).2
  · rw [writeEntries_of_all auths hall]

/-- Only this file is changed, and if it is there already it keeps its mode. -/
structure Touches (p : Str) (fs fs' : Dir) : Prop where
  other : ∀ q, q ≠ p → fs' q = fs q
  mode : ∀ f, fs' p = some f → f.mode = authMode ∨ ∃ f₀, fs p = some f₀ ∧ f₀.mode = f.mode

/-- The file that is written for the display. -/
def Target (d : Dpy) (fs : Dir) (p : Str) : Prop :=
  d.authFile = some p ∨ d.authFile = none ∧ (d.clientAuthFile = p ∨ fs p = none)

lemma touches_unlink (ok : Bool) : Touches p fs (fs.unlink ok p) where
  other := fun _ h => Files.unlink_of_ne h
  mode := fun f h => by
    cases ok with
    | true =>
      rw [Files.unlink_true] at h
      cases h
    | false => exact Or.inr ⟨f, h, rfl⟩

lemma Touches.put {c : List Piece} (ht : Touches p fs fs') :
    Touches p fs (fs'.put p ⟨((fs' p).map File.mode).getD authMode, c⟩) where
  other := fun q h => (Files.put_of_ne h).trans (ht.other q h)
  mode := fun f h => by
    rw [Files.put_same] at h
    obtain rfl := Option.some.inj h
    cases hp : fs' p with
    | none => exact Or.inl rfl
    | some f' => exact ht.mode f' hp

lemma touches_fresh {c : List Piece} : Touches p fs (fs.put p ⟨authMode, c⟩) where
  other := fun _ h => Files.put_of_ne h
  mode := fun f h => by
    rw [Files.put_same] at h
    exact Or.inl (by rw [← Option.some.inj h])

/-- What `MakeServerAuthFile` has done when it returns `TRUE`. -/
structure Made.Opens (made : Made) (a : Answers) (d : Dpy) (fs : Dir) (p : Str) : Prop where
  target : Target d fs p
  ret : made.ret = true
  display : made.display = { d with authFile := some p }
  touches : Touches p fs made.files
  file : made.file = none ∧ a.granted = false ∨ made.file = some p
  opened : d.authFile = some p → a.fopen = true → made.file = some p

lemma opens_openAgain (htarget : Target d fs p) :
    (openAgain a p { d with authFile := some p } fs).Opens a d fs p := by
  unfold openAgain
  dsimp only
  split
  · next hopen =>
    exact ⟨htarget, rfl, rfl, (touches_unlink a.unlink).put, Or.inr rfl, fun _ _ => rfl⟩
  · next hopen =>
    refine ⟨htarget, rfl, rfl, touches_unlink a.unlink, Or.inl ⟨rfl, ?_⟩,
      fun _ h => absurd h hopen⟩
    simp only [Answers.granted, Answers.writable, Bool.not_eq_true _ ▸ hopen, Bool.false_and,
      Bool.and_false]

/-- `mkstemp` has made the file. -/
lemma opens_mkstemp (hfile : d.authFile = none) (hfresh : fs p = none) :
    Made.Opens ⟨true, if a.fdopen then some p else none, { d with authFile := some p },
      fs.put p ⟨authMode, []⟩⟩ a d fs p where
  target := Or.inr ⟨hfile, Or.inr hfresh⟩
  ret := rfl
  display := rfl
  touches := touches_fresh
  file := by
    cases hopen : a.fdopen with
    | true => exact Or.inr rfl
    | false => exact Or.inl ⟨rfl, by simp [Answers.granted, hopen]⟩
  opened := fun h => by
    rw [hfile] at h
    cases h

lemma makeServerAuthFile_cases (hmade : makeServerAuthFile a authDir d fs = some made) :
    made = ⟨false, none, d, fs⟩ ∧ d.authFile = none ∨ ∃ p, made.Opens a d fs p := by
  unfold makeServerAuthFile at hmade
  split at hmade
  · next p hfile =>
    obtain rfl := Option.some.inj hmade
    have hd : d = { d with authFile := some p } := by rw [← hfile]
    rw [hd]
    exact Or.inr ⟨p, opens_openAgain (d := { d with authFile := some p }) (Or.inl rfl)⟩
  · next hfile =>
    split at hmade
    · split at hmade
      · obtain rfl := Option.some.inj hmade
        exact Or.inr ⟨_, opens_openAgain (Or.inr ⟨hfile, Or.inl rfl⟩)⟩
      · obtain rfl := Option.some.inj hmade
        exact Or.inl ⟨rfl, hfile⟩
    · split at hmade
      · split at hmade
        · obtain rfl := Option.some.inj hmade
          exact Or.inl ⟨rfl, hfile⟩
        · next suffix _ =>
          dsimp only at hmade
          split at hmade
          · cases hmade
          · next hfresh =>
            obtain rfl := Option.some.inj hmade
            have hnone : fs (templateName authDir d.name suffix) = none := by simpa using hfresh
            exact Or.inr ⟨_, opens_mkstemp hfile hnone⟩
      · obtain rfl := Option.some.inj hmade
        exact Or.inl ⟨rfl, hfile⟩

/-- What `SaveServerAuthorizations` has done.  `p` is the file it has worked on. -/
structure Saves (a : Answers) (auths : List Xauth) (d : Dpy) (fs : Dir) (p : Str) (ret : Bool)
    (fs' : Dir) : Prop where
  target : Target d fs p
  touches : Touches p fs fs'
  failed : ret = false → a.granted = false
  contents : ret = true → auths ≠ [] → ∃ mode, fs' p = some ⟨mode, entries auths⟩
  written : d.authFile = some p → a.writable = true → ret = true
  opened : d.authFile = some p → a.fopen = true → (fs' p).isSome = true

lemma save_cases {saved : Bool × Dpy × Dir}
    (hsave : saveServerAuthorizations a authDir d auths fs = some saved) :
    saved = (false, d, fs) ∧ d.authFile = none ∨
    ∃ p, Saves a auths d fs p saved.1 saved.2.2 ∧
      saved.2.1 = { d with authFile := if saved.1 then some p else none } := by
  obtain ⟨made, hmade, hsaved⟩ := Option.map_eq_some_iff.1 hsave
  obtain ⟨rfl, hfile⟩ | ⟨p, hopens⟩ := makeServerAuthFile_cases hmade
  · exact Or.inl ⟨hsaved.symm, hfile⟩
  · refine Or.inr ⟨p, ?_⟩
    rw [if_pos hopens.ret, hopens.display] at hsaved
    obtain ⟨hnone, hgranted⟩ | hsome := hopens.file
    · rw [hnone] at hsaved
      obtain rfl := hsaved
      refine ⟨⟨hopens.target, hopens.touches, fun _ => hgranted,
        fun h => absurd h Bool.false_ne_true, fun h hw => ?_, fun h hopen => ?_⟩, rfl⟩
      · have hopen : a.fopen = true := by
          simp only [Answers.writable, Bool.and_eq_true] at hw
          exact hw.1.1
        exact absurd ((hopens.opened h hopen).symm.trans hnone) (Option.some_ne_none _)
      · exact absurd ((hopens.opened h hopen).symm.trans hnone) (Option.some_ne_none _)
    · rw [hsome] at hsaved
      dsimp only at hsaved
      split at hsaved
      · next hok =>
        obtain rfl := hsaved
        exact ⟨⟨hopens.target, hopens.touches.put, fun h => absurd h.symm Bool.false_ne_true,
          fun _ hne => ⟨_, (Files.put_same ..).trans (by rw [writeAuths_ok hok hne])⟩,
          fun _ _ => rfl,
          fun _ _ => Option.isSome_iff_exists.2 ⟨_, Files.put_same ..⟩⟩, rfl⟩
      · next hok =>
        obtain rfl := hsaved
        refine ⟨⟨hopens.target, hopens.touches.put, fun _ => ?_,
          fun h => absurd h Bool.false_ne_true,
          fun _ hw => absurd (writeAuths_writable hw) hok,
          fun _ _ => Option.isSome_iff_exists.2 ⟨_, Files.put_same ..⟩⟩, rfl⟩
        rw [← Bool.not_eq_true]
        intro hgranted
        exact hok (writeAuths_writable (Bool.and_eq_true_iff.1 hgranted).2)

/-! ### One step -/

/-- What `StartDisplay` does to the display and the files before it starts the server. -/
inductive Sets (a : Answers) (r : Resources) (d : Dpy) (fs : Dir) : Dpy → Dir → Prop
  | kept : (d.location = .localHost → r.authorize = false) →
      Sets a r d fs { d with clientAuthFile := r.clientAuthFile } fs
  | dropped : Sets a r d fs { d with clientAuthFile := r.clientAuthFile, authorizations := none } fs
  | saved {auths : List Xauth} {p : Str} {ret : Bool} {fs' : Dir} :
      Saves a auths { d with clientAuthFile := r.clientAuthFile } fs p ret fs' →
      Sets a r d fs
        { d with
          clientAuthFile := r.clientAuthFile
          authFile := if ret then some p else none
          authorizations := if ret then some auths else none } fs'
  | foreign {auths : List Xauth} {p : Str} {ret : Bool} {fs' : Dir} :
      d.location = .foreign →
      Saves a auths { d with clientAuthFile := r.clientAuthFile } fs p ret fs' →
      Sets a r d fs
        { d with
          clientAuthFile := r.clientAuthFile
          authFile := if ret then some p else none } fs'

lemma Sets.server (hsets : Sets a r d fs d' fs') : d'.server = d.server := by
  cases hsets <;> rfl

lemma Sets.location (hsets : Sets a r d fs d' fs') : d'.location = d.location := by
  cases hsets <;> rfl

lemma setLocalAuthorization_sets {set : Dpy × Dir}
    (hset : setLocalAuthorization a r { d with clientAuthFile := r.clientAuthFile } fs = some set) :
    Sets a r d fs set.1 set.2 := by
  unfold setLocalAuthorization at hset
  dsimp only at hset
  split at hset
  · obtain rfl := Option.some.inj hset
    exact .dropped
  · split at hset
    · obtain ⟨saved, hsave, rfl⟩ := Option.map_eq_some_iff.1 hset
      obtain ⟨rfl, -⟩ | ⟨p, hsaves, hd⟩ := save_cases hsave
      · exact .dropped
      · have hsets := Sets.saved (r := r) (d := d) ⟨hsaves.target, hsaves.touches, hsaves.failed,
          hsaves.contents, hsaves.written, hsaves.opened⟩
        rw [hd]
        cases hret : saved.1 with
        | true => simpa only [hret, if_true] using hsets
        | false => simpa only [hret, Bool.false_eq_true, if_false] using hsets
    · obtain rfl := Option.some.inj hset
      exact .dropped

/-- What becomes of the display then. -/
lemma startDisplay_cases (hstart : s.startDisplay a r id d = some s') :
    ∃ d' fs', Sets a r d s.files d' fs' ∧
      ((d.server.isSome = true ∨ d.location = .foreign) ∧ s' = s.write id d' fs' ∨
        d.server = none ∧ (s' = s.write id { d' with server := some d'.authFile } fs' ∨
          s' = s.remove a.unlink id d' fs')) := by
  unfold State.startDisplay at hstart
  dsimp only at hstart
  split at hstart
  · next hlocal =>
    obtain ⟨set, hset, hs'⟩ := Option.map_eq_some_iff.1 hstart
    have hsets : Sets a r d s.files set.1 set.2 := by
      split at hset
      · exact setLocalAuthorization_sets hset
      · next hauthorize =>
        obtain rfl := Option.some.inj hset
        exact .kept fun _ => by simpa using hauthorize
    refine ⟨set.1, set.2, hsets, ?_⟩
    rw [hsets.server] at hs'
    split at hs'
    · next h => exact Or.inl ⟨Or.inl h, hs'.symm⟩
    · next h =>
      refine Or.inr ⟨by simpa using h, ?_⟩
      split at hs'
      · exact Or.inl hs'.symm
      · exact Or.inr hs'.symm
  · next hforeign =>
    split at hstart
    · obtain ⟨saved, hsave, rfl⟩ := Option.map_eq_some_iff.1 hstart
      refine ⟨saved.2.1, saved.2.2, ?_, Or.inl ⟨Or.inr hforeign, rfl⟩⟩
      obtain ⟨rfl, -⟩ | ⟨p, hsaves, hd⟩ := save_cases hsave
      · exact .kept fun h => absurd (h.symm.trans hforeign) nofun
      · rw [hd]
        exact .foreign hforeign hsaves
    · obtain rfl := Option.some.inj hstart
      exact ⟨_, _, .kept fun h => absurd (h.symm.trans hforeign) nofun,
        Or.inl ⟨Or.inr hforeign, rfl⟩⟩

namespace Act

/-- The display that a step is about. -/
def display : Act → Nat
  | .enter id .. | .start id .. | .dies id | .remove id _ => id

/-- The server of the display ends, or the display. -/
def ends : Act → Bool
  | .dies _ | .remove .. => true
  | _ => false

def writable : Act → Bool
  | .start _ _ a => a.writable
  | _ => true

/-- The file is the one that the configuration names for the display. -/
def configures (p : Str) : Act → Bool
  | .start _ r _ => r.clientAuthFile = p
  | _ => false

end Act

/-- The file is that of the display the step is about, or is configured for it. -/
def uses (p : Str) (x : Prog.Step State Act) : Bool :=
  (x.pre.displays x.input.display).any (·.authFile = some p) || x.input.configures p

lemma Target.ne (htarget : Target { d with clientAuthFile := r.clientAuthFile } fs q)
    (hfile : d.authFile ≠ some p) (hconf : r.clientAuthFile ≠ p) (hp : (fs p).isSome = true) :
    p ≠ q := by
  rintro rfl
  obtain h | ⟨-, h | h⟩ := htarget
  · exact hfile h
  · exact hconf h
  · rw [show fs p = none from h] at hp
    cases hp

/-- A file that is not the display's is left alone. -/
lemma Sets.other (hsets : Sets a r d fs d' fs') (hfile : d.authFile ≠ some p)
    (hconf : r.clientAuthFile ≠ p) (hp : (fs p).isSome = true) :
    fs' p = fs p ∧ d'.authFile ≠ some p := by
  cases hsets with
  | kept => exact ⟨rfl, hfile⟩
  | dropped => exact ⟨rfl, hfile⟩
  | saved hsaves =>
    have hne := hsaves.target.ne hfile hconf hp
    refine ⟨hsaves.touches.other p hne, ?_⟩
    dsimp only
    split
    · exact fun h => hne (Option.some.inj h).symm
    · exact nofun
  | foreign _ hsaves =>
    have hne := hsaves.target.ne hfile hconf hp
    refine ⟨hsaves.touches.other p hne, ?_⟩
    dsimp only
    split
    · exact fun h => hne (Option.some.inj h).symm
    · exact nofun

lemma Target.eq (htarget : Target d fs q) (hfile : d.authFile = some p) : p = q := by
  obtain h | ⟨h, -⟩ := htarget
  · exact Option.some.inj (hfile.symm.trans h)
  · exact absurd (hfile.symm.trans h) nofun

lemma State.write_same : (s.write id d fs).displays id = some d := Function.update_self ..

lemma State.remove_same {unlink : Bool} : (s.remove unlink id d fs).displays id = none :=
  Function.update_self ..

lemma State.write_other {id' : Nat} (h : id' ≠ id) :
    (s.write id d fs).displays id' = s.displays id' := Function.update_of_ne h ..

lemma State.remove_other {unlink : Bool} {id' : Nat} (h : id' ≠ id) :
    (s.remove unlink id d fs).displays id' = s.displays id' := Function.update_of_ne h ..

lemma State.remove_files {unlink : Bool} (h : d.authFile ≠ some p) :
    (s.remove unlink id d fs).files p = fs p := by
  unfold State.remove
  cases hq : d.authFile with
  | none => rfl
  | some q =>
    refine Files.unlink_of_ne ?_
    rintro rfl
    exact h hq

/-- A step of another display that does not use the file. -/
lemma next_other (hnext : x.input.next x.pre = some x.post) (hother : x.input.display ≠ id)
    (huses : uses p x = false) :
    x.post.displays id = x.pre.displays id ∧
      ((x.pre.files p).isSome = true → x.post.files p = x.pre.files p) := by
  obtain ⟨s, i, s'⟩ := x
  obtain ⟨hfile, hconf⟩ := Bool.or_eq_false_iff.1 huses
  dsimp only at hnext hother ⊢
  have hauth (d : Dpy) (hd : s.displays i.display = some d) : d.authFile ≠ some p := by
    rw [hd] at hfile
    simpa using hfile
  cases i with
  | enter id' name location auths =>
    simp only [Act.next] at hnext
    split at hnext
    · cases hnext
    · obtain rfl := Option.some.inj hnext
      exact ⟨State.write_other hother.symm, fun _ => rfl⟩
  | start id' r a =>
    obtain ⟨d, hd, hstart⟩ := Option.bind_eq_some_iff.1 hnext
    obtain ⟨d', fs', hsets, hs'⟩ := startDisplay_cases hstart
    have hne := fun hp => hsets.other (hauth d hd) (by simpa [Act.configures] using hconf) hp
    obtain ⟨-, rfl⟩ | ⟨-, rfl | rfl⟩ := hs'
    · exact ⟨State.write_other hother.symm, fun hp => (hne hp).1⟩
    · exact ⟨State.write_other hother.symm, fun hp => (hne hp).1⟩
    · exact ⟨State.remove_other hother.symm,
        fun hp => (State.remove_files (hne hp).2).trans (hne hp).1⟩
  | dies id' =>
    obtain ⟨d, hd, rfl⟩ := Option.map_eq_some_iff.1 hnext
    exact ⟨State.write_other hother.symm, fun _ => rfl⟩
  | remove id' unlink =>
    obtain ⟨d, hd, rfl⟩ := Option.map_eq_some_iff.1 hnext
    exact ⟨State.remove_other hother.symm, fun _ => State.remove_files (hauth d hd)⟩

/-! ### What the server lets in -/

/-- Something may go wrong with the file: another display uses it, the display is restarted
while the kernel refuses to write, or its server ends. -/
def disturbs (id : Nat) (p : Str) (x : Prog.Step State Act) : Bool :=
  if x.input.display = id then x.input.ends || !x.input.writable else uses p x

/-- The server of the display reads the file, and xdm connects with what is in it. -/
def State.Reads (s : State) (id : Nat) (p : Str) : Prop :=
  ∃ d, s.displays id = some d ∧ d.location = .localHost ∧ d.server = some (some p) ∧
    d.authFile = some p ∧
    ∀ auths, d.authorizations = some auths → auths ≠ [] →
      ∃ mode, s.files p = some ⟨mode, entries auths⟩

/-- The display is started again. -/
lemma reads_start (hs : s.Reads id p) (hwritable : a.writable = true)
    (hnext : (Act.start id r a).next s = some s') : s'.Reads id p := by
  obtain ⟨d, hd, hlocal, hserver, hfile, hauths⟩ := hs
  obtain ⟨d₁, hd₁, hstart⟩ := Option.bind_eq_some_iff.1 hnext
  obtain rfl := Option.some.inj (hd.symm.trans hd₁)
  obtain ⟨d', fs', hsets, ⟨-, rfl⟩ | ⟨hnone, -⟩⟩ := startDisplay_cases hstart
  · refine ⟨d', State.write_same, hsets.location.trans hlocal,
      hsets.server.trans hserver, ?_⟩
    cases hsets with
    | kept => exact ⟨hfile, hauths⟩
    | dropped => exact ⟨hfile, nofun⟩
    | @saved auths q ret _ hsaves =>
      obtain rfl : p = q := hsaves.target.eq hfile
      obtain rfl := hsaves.written hfile hwritable
      refine ⟨rfl, fun auths' h => ?_⟩
      obtain rfl := Option.some.inj h
      exact hsaves.contents rfl
    | foreign hforeign => exact absurd (hlocal.symm.trans hforeign) nofun
  · exact absurd (hserver.symm.trans hnone) nofun

lemma reads_next (hs : x.pre.Reads id p) (hnext : x.input.next x.pre = some x.post)
    (hkept : disturbs id p x = false) : x.post.Reads id p := by
  unfold disturbs at hkept
  split at hkept
  · next hid =>
    obtain ⟨s, i, s'⟩ := x
    obtain ⟨hends, hwritable⟩ := Bool.or_eq_false_iff.1 hkept
    cases i with
    | enter id' name location auths =>
      obtain ⟨d, hd, -⟩ := hs
      obtain rfl : id' = id := hid
      rw [Act.next, hd] at hnext
      cases hnext
    | start id' r a =>
      obtain rfl : id' = id := hid
      exact reads_start hs (by simpa [Act.writable] using hwritable) hnext
    | dies => cases hends
    | remove => cases hends
  · next hother =>
    obtain ⟨d, hd, hlocal, hserver, hfile, hauths⟩ := hs
    obtain ⟨hdisplays, hfiles⟩ := next_other hnext hother hkept
    refine ⟨d, hdisplays.trans hd, hlocal, hserver, hfile, fun auths h hne => ?_⟩
    obtain ⟨mode, hp⟩ := hauths auths h hne
    exact ⟨mode, (hfiles (by rw [hp]; rfl)).trans hp⟩

/-- From the moment at which the server has been given the file of the display. -/
lemma reads_run (run : AuthRun fs (h₁ ++ x :: h₂) s) (hx : x.input = .start id r a)
    (hauthorize : r.authorize = true) (hd : x.post.displays id = some d)
    (hlocal : d.location = .localHost) (hserver : d.server = some (some p))
    (hfile : d.authFile = some p) (hkept : ∀ y ∈ h₂, disturbs id p y = false) : s.Reads id p := by
  obtain ⟨-, hstep⟩ := run.before
  have hnext := next_of_step hstep
  have hreads : x.post.Reads id p := by
    refine ⟨d, hd, hlocal, hserver, hfile, fun auths hauths hne => ?_⟩
    rw [hx] at hnext
    obtain ⟨d₀, -, hstart⟩ := Option.bind_eq_some_iff.1 hnext
    obtain ⟨d', fs', hsets, hs'⟩ := startDisplay_cases hstart
    have hfiles : x.post.files = fs' ∧ d'.authFile = some p ∧ d'.authorizations = some auths ∧
        d'.location = .localHost := by
      obtain ⟨-, hs'⟩ | ⟨-, hs' | hs'⟩ := hs' <;> rw [hs'] at hd ⊢
      · obtain rfl := Option.some.inj (State.write_same.symm.trans hd)
        exact ⟨rfl, hfile, hauths, hlocal⟩
      · obtain rfl := Option.some.inj (State.write_same.symm.trans hd)
        exact ⟨rfl, hfile, hauths, hlocal⟩
      · exact absurd (State.remove_same.symm.trans hd) nofun
    obtain ⟨hfs, hfile, hauths, hlocal⟩ := hfiles
    rw [hfs]
    cases hsets with
    | kept h => exact absurd (hauthorize.symm.trans (h hlocal)) nofun
    | dropped => cases hauths
    | @saved auths' q ret _ hsaves =>
      cases ret with
      | false => cases hfile
      | true =>
        obtain rfl := Option.some.inj hfile
        obtain rfl := Option.some.inj hauths
        exact hsaves.contents rfl hne
    | foreign hforeign => exact absurd (hlocal.symm.trans hforeign) nofun
  refine run.after (P := fun _ t => t.Reads id p) hreads fun l y hy hpre hstep => ?_
  have hnext := next_of_step hstep
  exact reads_next hpre hnext (hkept y hy)

/-- A local display that has been started with `authorize`, and whose server has been given its
authority file: as long as no other display uses the file, the server lives and the kernel does
not refuse to write, through all later sessions, the file that the server reads holds exactly the
authorizations that xdm has for the display, those without data left out. -/
theorem server_lets_in (run : AuthRun fs (h₁ ++ x :: h₂) s) (hx : x.input = .start id r a)
    (hauthorize : r.authorize = true) (hd : x.post.displays id = some d)
    (hlocal : d.location = .localHost) (hserver : d.server = some (some p))
    (hfile : d.authFile = some p) (hkept : ∀ y ∈ h₂, disturbs id p y = false) :
    ∃ d', s.displays id = some d' ∧ d'.server = some (some p) ∧ d'.authFile = some p ∧
      ∀ auths, d'.authorizations = some auths → auths ≠ [] →
        ∃ mode, s.files p = some ⟨mode, entries auths⟩ := by
  obtain ⟨d', hd', -, hread⟩ := reads_run run hx hauthorize hd hlocal hserver hfile hkept
  exact ⟨d', hd', hread⟩

/-- `authorize`, with one authorization name. -/
def Resources.magic : Resources where
  authDir := "/var/xdm".toList
  authorize := true
  authNames := some ["MIT-MAGIC-COOKIE-1".toList]
  clientAuthFile := []

/-- The cookie that is generated, and the name that `mkstemp` chooses; `ok` says whether the
cookie can be written. -/
def Answers.cookie (n : UInt8) (suffix : { suffix : Str // suffix.length = 6 }) (ok : Bool) :
    Answers where
  generateAuthorization _ := some ⟨mitMagicCookie1, [n]⟩
  authNameLens := true
  auths := true
  strdup := true
  authFile := true
  dirs _ := (.directory, false)
  mkstemp := some suffix
  fdopen := true
  unlink := true
  fopen := true
  dummy := true
  writes := [ok]
  ftruncate := true
  startServer := true

def firstSuffix : { suffix : Str // suffix.length = 6 } := ⟨"aaaaaa".toList, rfl⟩

def secondSuffix : { suffix : Str // suffix.length = 6 } := ⟨"bbbbbb".toList, rfl⟩

/-- The authority file of the first display. -/
def firstFile : Str := templateName "/var/xdm".toList ":0".toList "aaaaaa".toList

/-- A second session on the same server, with a new cookie. -/
theorem server_lets_in_again : ∃ (h : List (Step State Act)) (s : State) (d : Dpy),
    AuthRun (fun _ => none) h s ∧ s.displays 0 = some d ∧
      d.authorizations = some [⟨mitMagicCookie1, [8]⟩] ∧
      d.server = some (some firstFile) ∧
      ∃ mode, s.files firstFile =
        some ⟨mode, [.entry ⟨mitMagicCookie1, [8]⟩]⟩ := by
  obtain ⟨h₁, x, h₂, s, run, hx, ⟨d, hd, hlocal, hserver, hfile⟩, hkept, hauths⟩ :
      ∃ (h₁ : List (Step State Act)) (x : Step State Act) (h₂ : List (Step State Act)) (s : State),
        AuthRun (fun _ => none) (h₁ ++ x :: h₂) s ∧
        x.input = .start 0 .magic (.cookie 7 firstSuffix true) ∧
        (∃ d, x.post.displays 0 = some d ∧ d.location = .localHost ∧
          d.server = some (some firstFile) ∧ d.authFile = some firstFile) ∧
        (∀ y ∈ h₂, disturbs 0 firstFile y = false) ∧
        ∃ d, s.displays 0 = some d ∧
          d.authorizations = some [⟨mitMagicCookie1, [8]⟩] :=
    ⟨[_], _, [_], _, ((Run.nil.snoc (i := .enter 0 ":0".toList .localHost none) rfl).snoc
      (i := .start 0 .magic (.cookie 7 firstSuffix true)) rfl).snoc
      (i := .start 0 .magic (.cookie 8 secondSuffix true)) rfl, rfl,
      ⟨_, rfl, rfl, rfl, rfl⟩, fun y hy => by obtain rfl := List.mem_singleton.1 hy; rfl,
      ⟨_, rfl, rfl⟩⟩
  obtain ⟨d', hd', hserver', -, hread⟩ :=
    server_lets_in run hx rfl hd hlocal hserver hfile hkept
  obtain ⟨d₁, hd₁, hauths⟩ := hauths
  obtain rfl := Option.some.inj (hd'.symm.trans hd₁)
  exact ⟨_, s, d', run, hd', hauths, hserver', hread _ hauths (List.cons_ne_nil _ _)⟩

/-- The file is configured for a display, or another one uses it; or the server of the display
ends. -/
def revives (id : Nat) (p : Str) (x : Prog.Step State Act) : Bool :=
  if x.input.display = id then x.input.ends || x.input.configures p else uses p x

/-- The server of the display reads a file, and what xdm connects with, if anything, is in
another one. -/
def State.Apart (s : State) (id : Nat) (p : Str) : Prop :=
  ∃ d, s.displays id = some d ∧ d.location = .localHost ∧ d.server = some (some p) ∧
    d.authFile ≠ some p ∧ (d.authorizations.isSome = true → d.authFile.isSome = true) ∧
    (s.files p).isSome = true

lemma apart_start (hs : s.Apart id p) (hconf : r.clientAuthFile ≠ p)
    (hnext : (Act.start id r a).next s = some s') : s'.Apart id p := by
  obtain ⟨d, hd, hlocal, hserver, hfile, hauths, hp⟩ := hs
  obtain ⟨d₁, hd₁, hstart⟩ := Option.bind_eq_some_iff.1 hnext
  obtain rfl := Option.some.inj (hd.symm.trans hd₁)
  obtain ⟨d', fs', hsets, ⟨-, rfl⟩ | ⟨hnone, -⟩⟩ := startDisplay_cases hstart
  · obtain ⟨hfiles, hfile'⟩ := hsets.other hfile hconf hp
    refine ⟨d', State.write_same, hsets.location.trans hlocal, hsets.server.trans hserver, hfile',
      ?_, ?_⟩
    · cases hsets with
      | kept => exact hauths
      | dropped => exact nofun
      | @saved _ _ ret => cases ret <;> exact fun h => h
      | foreign hforeign => exact absurd (hlocal.symm.trans hforeign) nofun
    · exact (congrArg Option.isSome hfiles).trans hp
  · exact absurd (hserver.symm.trans hnone) nofun

lemma apart_next (hs : x.pre.Apart id p) (hnext : x.input.next x.pre = some x.post)
    (hkept : revives id p x = false) : x.post.Apart id p := by
  unfold revives at hkept
  split at hkept
  · next hid =>
    obtain ⟨s, i, s'⟩ := x
    obtain ⟨hends, hconf⟩ := Bool.or_eq_false_iff.1 hkept
    cases i with
    | enter id' name location auths =>
      obtain ⟨d, hd, -⟩ := hs
      obtain rfl : id' = id := hid
      rw [Act.next, hd] at hnext
      cases hnext
    | start id' r a =>
      obtain rfl : id' = id := hid
      exact apart_start hs (by simpa [Act.configures] using hconf) hnext
    | dies => cases hends
    | remove => cases hends
  · next hother =>
    obtain ⟨d, hd, hlocal, hserver, hfile, hauths, hp⟩ := hs
    obtain ⟨hdisplays, hfiles⟩ := next_other hnext hother hkept
    exact ⟨d, hdisplays.trans hd, hlocal, hserver, hfile, hauths,
      (congrArg Option.isSome (hfiles hp)).trans hp⟩

/-- If the authority file of a local display has been opened but could not be written while its
server runs, then the server is locked: in all later sessions, until it is started again, xdm has
no authorizations for the display, or they are in a file that the server does not read.  This is
so unless the file is configured, and so used again, or another display uses it. -/
theorem server_locks_out (run : AuthRun fs (h₁ ++ x :: h₂) s) (hx : x.input = .start id r a)
    (hd : x.pre.displays id = some d) (hlocal : d.location = .localHost)
    (hserver : d.server = some (some p)) (hfile : d.authFile = some p) (hopen : a.fopen = true)
    (hfailed : ∀ d', x.post.displays id = some d' → d'.authFile = none)
    (hkept : ∀ y ∈ h₂, revives id p y = false) :
    ∃ d', s.displays id = some d' ∧ d'.server = some (some p) ∧
      ∀ auths, d'.authorizations = some auths → ∃ q, d'.authFile = some q ∧ q ≠ p := by
  obtain ⟨-, hstep⟩ := run.before
  have hnext := next_of_step hstep
  have hapart : x.post.Apart id p := by
    rw [hx] at hnext
    obtain ⟨d₁, hd₁, hstart⟩ := Option.bind_eq_some_iff.1 hnext
    obtain rfl := Option.some.inj (hd.symm.trans hd₁)
    obtain ⟨d', fs', hsets, ⟨-, hs'⟩ | ⟨hnone, -⟩⟩ := startDisplay_cases hstart
    · have hnone : d'.authFile = none := hfailed d' (hs' ▸ State.write_same)
      rw [hs']
      refine ⟨d', State.write_same, hsets.location.trans hlocal, hsets.server.trans hserver,
        by rw [hnone]; nofun, ?_⟩
      cases hsets with
      | kept => exact absurd (hfile.symm.trans hnone) nofun
      | dropped => exact absurd (hfile.symm.trans hnone) nofun
      | @saved _ q ret _ hsaves =>
        obtain rfl : p = q := hsaves.target.eq hfile
        cases ret with
        | true => cases hnone
        | false => exact ⟨nofun, hsaves.opened hfile hopen⟩
      | foreign hforeign => exact absurd (hlocal.symm.trans hforeign) nofun
    · exact absurd (hserver.symm.trans hnone) nofun
  obtain ⟨d', hd', -, hserver', hfile', hauths, -⟩ : s.Apart id p := by
    refine run.after (P := fun _ t => t.Apart id p) hapart fun l y hy hpre hstep => ?_
    have hnext := next_of_step hstep
    exact apart_next hpre hnext (hkept y hy)
  refine ⟨d', hd', hserver', fun auths h => ?_⟩
  obtain ⟨q, hq⟩ := Option.isSome_iff_exists.1 (hauths (by rw [h]; rfl))
  exact ⟨q, hq, fun heq => hfile' (by rw [hq, heq])⟩

/-- The cookie of the second session cannot be written; that of the third one is written to
another file. -/
theorem server_locks_out_full : ∃ (h : List (Step State Act)) (s : State) (d : Dpy),
    AuthRun (fun _ => none) h s ∧ s.displays 0 = some d ∧ d.server = some (some firstFile) ∧
      d.authorizations = some [⟨mitMagicCookie1, [9]⟩] ∧
      ∃ q, d.authFile = some q ∧ q ≠ firstFile := by
  obtain ⟨h₁, x, h₂, s, run, hx, ⟨d, hd, hlocal, hserver, hfile⟩, hfailed, hkept, d', hd', hauths⟩ :
      ∃ (h₁ : List (Step State Act)) (x : Step State Act) (h₂ : List (Step State Act)) (s : State),
        AuthRun (fun _ => none) (h₁ ++ x :: h₂) s ∧
        x.input = .start 0 .magic (.cookie 8 secondSuffix false) ∧
        (∃ d, x.pre.displays 0 = some d ∧ d.location = .localHost ∧
          d.server = some (some firstFile) ∧ d.authFile = some firstFile) ∧
        (∀ d', x.post.displays 0 = some d' → d'.authFile = none) ∧
        (∀ y ∈ h₂, revives 0 firstFile y = false) ∧
        ∃ d, s.displays 0 = some d ∧ d.authorizations = some [⟨mitMagicCookie1, [9]⟩] :=
    ⟨[_, _], _, [_], _, (((Run.nil.snoc (i := .enter 0 ":0".toList .localHost none) rfl).snoc
      (i := .start 0 .magic (.cookie 7 firstSuffix true)) rfl).snoc
      (i := .start 0 .magic (.cookie 8 secondSuffix false)) rfl).snoc
      (i := .start 0 .magic (.cookie 9 secondSuffix true)) rfl, rfl,
      ⟨_, rfl, rfl, rfl, rfl⟩, fun d' hd' => by obtain rfl := Option.some.inj hd'; rfl,
      fun y hy => by obtain rfl := List.mem_singleton.1 hy; rfl, ⟨_, rfl, rfl⟩⟩
  obtain ⟨d₁, hd₁, hserver₁, hapart⟩ :=
    server_locks_out run hx hd hlocal hserver hfile rfl hfailed hkept
  obtain rfl := Option.some.inj (hd'.symm.trans hd₁)
  exact ⟨_, s, d', run, hd', hserver₁, hauths, hapart _ hauths⟩

/-! ### What is left behind -/

/-- The step leaves the file of its display behind, because the kernel has refused something. -/
def abandons (p : Str) (x : Prog.Step State Act) : Bool :=
  let owned := (x.pre.displays x.input.display).any (·.authFile = some p)
  (x.post.files p).isSome && !(x.post.displays x.input.display).any (·.authFile = some p) &&
    match x.input with
    | .start _ _ a => !a.granted && (owned || (x.pre.files p).isNone)
    | .remove _ unlink => !unlink && owned
    | _ => false

/-- The files, when there were `fs₀`. -/
structure State.Accounted (fs₀ : Dir) (h : List (Prog.Step State Act)) (s : State) : Prop where
  owner : ∀ p f, s.files p = some f → fs₀ p = none →
    (∃ id d, s.displays id = some d ∧ d.authFile = some p) ∨ ∃ x ∈ h, abandons p x = true
  mode : ∀ p f, s.files p = some f →
    f.mode = authMode ∨ ∃ f₀, fs₀ p = some f₀ ∧ f₀.mode = f.mode

lemma State.remove_some {unlink : Bool} {f : File}
    (hp : (s.remove unlink id d fs).files p = some f) :
    fs p = some f ∧ (d.authFile = some p → unlink = false) := by
  by_cases hfile : d.authFile = some p
  · simp only [State.remove, hfile] at hp
    cases unlink with
    | true => simp at hp
    | false => exact ⟨hp, fun _ => rfl⟩
  · exact ⟨(State.remove_files hfile).symm.trans hp, fun h => absurd h hfile⟩

/-- A file that is there belongs to the display, or has been left behind now, or was there
before, and not the display's. -/
lemma Sets.owner (hsets : Sets a r d fs d' fs') (hp : (fs' p).isSome = true) :
    d'.authFile = some p ∨ a.granted = false ∧ (d.authFile = some p ∨ fs p = none) ∨
      (fs p).isSome = true ∧ d.authFile ≠ some p := by
  by_cases hfile : d.authFile = some p
  · refine (or_iff_not_imp_left.2 fun hlost => Or.inl ⟨?_, Or.inl hfile⟩)
    cases hsets with
    | kept => exact absurd hfile hlost
    | dropped => exact absurd hfile hlost
    | @saved _ q ret _ hsaves | @foreign _ q ret _ _ hsaves =>
      obtain rfl : p = q := hsaves.target.eq hfile
      cases ret with
      | true => exact absurd rfl hlost
      | false => exact hsaves.failed rfl
  · cases hthere : fs p with
    | some f => exact Or.inr (Or.inr ⟨rfl, hfile⟩)
    | none =>
      refine (or_iff_not_imp_left.2 fun hlost => Or.inl ⟨?_, Or.inr rfl⟩)
      cases hsets with
      | kept => exact absurd (hthere ▸ hp) nofun
      | dropped => exact absurd (hthere ▸ hp) nofun
      | @saved _ q ret _ hsaves | @foreign _ q ret _ _ hsaves =>
        by_cases hq : p = q
        · subst hq
          cases ret with
          | true => exact absurd rfl hlost
          | false => exact hsaves.failed rfl
        · rw [hsaves.touches.other p hq, hthere] at hp
          cases hp

lemma Sets.mode {f : File} (hsets : Sets a r d fs d' fs') (hp : fs' p = some f) :
    f.mode = authMode ∨ ∃ f₀, fs p = some f₀ ∧ f₀.mode = f.mode := by
  cases hsets with
  | kept => exact Or.inr ⟨f, hp, rfl⟩
  | dropped => exact Or.inr ⟨f, hp, rfl⟩
  | @saved _ q ret _ hsaves | @foreign _ q ret _ _ hsaves =>
    by_cases hq : p = q
    · subst hq
      exact hsaves.touches.mode f hp
    · exact Or.inr ⟨f, (hsaves.touches.other p hq).symm.trans hp, rfl⟩

/-- Where a file that is there comes from. -/
lemma next_file {f : File} (hnext : x.input.next x.pre = some x.post)
    (hp : x.post.files p = some f) :
    (f.mode = authMode ∨ ∃ f₀, x.pre.files p = some f₀ ∧ f₀.mode = f.mode) ∧
    ((∃ d, x.post.displays x.input.display = some d ∧ d.authFile = some p) ∨
      abandons p x = true ∨ (x.pre.files p).isSome = true ∧
        ∀ d, x.pre.displays x.input.display = some d → d.authFile ≠ some p) ∧
    ∀ id', id' ≠ x.input.display → x.post.displays id' = x.pre.displays id' := by
  obtain ⟨s, i, s'⟩ := x
  dsimp only at hnext hp ⊢
  cases i with
  | enter id' name location auths =>
    simp only [Act.next] at hnext
    split at hnext
    · cases hnext
    · next hnone =>
      obtain rfl := Option.some.inj hnext
      refine ⟨Or.inr ⟨f, hp, rfl⟩, Or.inr (Or.inr ⟨Option.isSome_iff_exists.2 ⟨f, hp⟩, ?_⟩),
        fun _ h => State.write_other h⟩
      intro d hd
      exact absurd (Option.isSome_iff_exists.2 ⟨d, hd⟩) hnone
  | start id' r a =>
    obtain ⟨d, hd, hstart⟩ := Option.bind_eq_some_iff.1 hnext
    obtain ⟨d', fs', hsets, hs'⟩ := startDisplay_cases hstart
    have habandons (hrefused : a.granted = false)
        (howned : d.authFile = some p ∨ s.files p = none)
        (hpost : ∀ d, s'.displays id' = some d → d.authFile ≠ some p) :
        abandons p ⟨s, .start id' r a, s'⟩ = true := by
      have hlost : (s'.displays id').any (·.authFile = some p) = false := by
        cases hd' : s'.displays id' with
        | none => rfl
        | some d => simpa using hpost d hd'
      rcases howned with howned | hnone
      · simp [abandons, Act.display, hp, hlost, hd, howned, hrefused]
      · simp [abandons, Act.display, hp, hlost, hnone, hrefused]
    -- Without an owner the file has been left behind, unless it has been another display's.
    have hfrom (hfs : fs' p = some f)
        (hpost : ∀ d, s'.displays id' = some d → d.authFile ≠ some p)
        (hrefused : d'.authFile = some p → a.granted = false) :
        abandons p ⟨s, .start id' r a, s'⟩ = true ∨ (s.files p).isSome = true ∧
          ∀ d, s.displays id' = some d → d.authFile ≠ some p := by
      by_cases howned : d.authFile = some p ∨ s.files p = none
      · refine Or.inl (habandons ?_ howned hpost)
        obtain h | ⟨h, -⟩ | ⟨hsome, hne⟩ := hsets.owner (Option.isSome_iff_exists.2 ⟨f, hfs⟩)
        · exact hrefused h
        · exact h
        · obtain h | h := howned
          · exact absurd h hne
          · rw [h] at hsome
            cases hsome
      · obtain ⟨hfile, hthere⟩ := not_or.1 howned
        refine Or.inr ⟨Option.isSome_iff_ne_none.2 hthere, fun d₁ hd₁ => ?_⟩
        obtain rfl := Option.some.inj (hd.symm.trans hd₁)
        exact hfile
    have hwrite (d₂ : Dpy) (hfile : d₂.authFile = d'.authFile) (hs' : s' = s.write id' d₂ fs') :
        (f.mode = authMode ∨ ∃ f₀, s.files p = some f₀ ∧ f₀.mode = f.mode) ∧
        ((∃ d, s'.displays id' = some d ∧ d.authFile = some p) ∨
          abandons p ⟨s, .start id' r a, s'⟩ = true ∨ (s.files p).isSome = true ∧
            ∀ d, s.displays id' = some d → d.authFile ≠ some p) ∧
        ∀ id₁, id₁ ≠ id' → s'.displays id₁ = s.displays id₁ := by
      have hfs : fs' p = some f := by rwa [hs'] at hp
      refine ⟨hsets.mode hfs, ?_, fun _ h => hs' ▸ State.write_other h⟩
      by_cases howns : d'.authFile = some p
      · exact Or.inl ⟨d₂, hs' ▸ State.write_same, hfile.trans howns⟩
      · refine Or.inr (hfrom hfs (fun d₁ hd₁ => ?_) fun h => absurd h howns)
        rw [hs'] at hd₁
        obtain rfl := Option.some.inj (State.write_same.symm.trans hd₁)
        exact hfile ▸ howns
    obtain ⟨-, hs'⟩ | ⟨-, hs' | hs'⟩ := hs'
    · exact hwrite d' rfl hs'
    · exact hwrite { d' with server := some d'.authFile } rfl hs'
    · obtain ⟨hfs, hunlink⟩ := State.remove_some (hs' ▸ hp)
      refine ⟨hsets.mode hfs, Or.inr (hfrom hfs (fun d₁ hd₁ => ?_) fun h => ?_),
        fun _ h => hs' ▸ State.remove_other h⟩
      · rw [hs'] at hd₁
        exact absurd (State.remove_same.symm.trans hd₁) nofun
      · simp [Answers.granted, hunlink h]
  | dies id' =>
    obtain ⟨d, hd, rfl⟩ := Option.map_eq_some_iff.1 hnext
    refine ⟨Or.inr ⟨f, hp, rfl⟩, ?_, fun _ h => State.write_other h⟩
    by_cases hfile : d.authFile = some p
    · exact Or.inl ⟨_, State.write_same, hfile⟩
    · refine Or.inr (Or.inr ⟨Option.isSome_iff_exists.2 ⟨f, hp⟩, fun d₁ hd₁ => ?_⟩)
      obtain rfl := Option.some.inj (hd.symm.trans hd₁)
      exact hfile
  | remove id' unlink =>
    obtain ⟨d, hd, rfl⟩ := Option.map_eq_some_iff.1 hnext
    obtain ⟨hpre, hunlink⟩ := State.remove_some hp
    refine ⟨Or.inr ⟨f, hpre, rfl⟩, Or.inr ?_, fun _ h => State.remove_other h⟩
    by_cases hfile : d.authFile = some p
    · refine Or.inl ?_
      obtain rfl := hunlink hfile
      simp [abandons, Act.display, hp, State.remove_same, hd, hfile]
    · refine Or.inr ⟨Option.isSome_iff_exists.2 ⟨f, hpre⟩, fun d₁ hd₁ => ?_⟩
      obtain rfl := Option.some.inj (hd.symm.trans hd₁)
      exact hfile

lemma accounted_next (hs : x.pre.Accounted fs₀ h) (hnext : x.input.next x.pre = some x.post) :
    x.post.Accounted fs₀ (h ++ [x]) where
  owner := fun p f hp hnew => by
    obtain ⟨-, hfrom, hothers⟩ := next_file hnext hp
    obtain ⟨d, hd, hfile⟩ | habandons | ⟨hthere, hnot⟩ := hfrom
    · exact Or.inl ⟨_, d, hd, hfile⟩
    · exact Or.inr ⟨x, by simp, habandons⟩
    · obtain ⟨f₁, hf₁⟩ := Option.isSome_iff_exists.1 hthere
      obtain ⟨id, d, hd, hfile⟩ | ⟨y, hy, habandons⟩ := hs.owner p f₁ hf₁ hnew
      · have hne : id ≠ x.input.display := by
          rintro rfl
          exact hnot d hd hfile
        exact Or.inl ⟨id, d, (hothers id hne).trans hd, hfile⟩
      · exact Or.inr ⟨y, List.mem_append_left _ hy, habandons⟩
  mode := fun p f hp => by
    obtain ⟨hmode | ⟨f₁, hf₁, hmode⟩, -, -⟩ := next_file hnext hp
    · exact Or.inl hmode
    · rw [← hmode]
      exact hs.mode p f₁ hf₁

/-- In every run a file that has not been there at the start belongs to a display, or has been
left behind by a step in which the kernel has refused to open, write or unlink it; and a file
that nobody but root may read is what every file is that has been made since. -/
theorem authority_files_accounted {f : File} (run : AuthRun fs₀ h s) (hp : s.files p = some f) :
    (fs₀ p = none → (∃ id d, s.displays id = some d ∧ d.authFile = some p) ∨
      ∃ x ∈ h, abandons p x = true) ∧
    (f.mode = authMode ∨ ∃ f₀, fs₀ p = some f₀ ∧ f₀.mode = f.mode) := by
  have hs : s.Accounted fs₀ h := by
    refine run.invariant_of (C := fun _ => True) (I := fun h s => s.Accounted fs₀ h)
      ⟨fun p f hp hnew => absurd (hnew.symm.trans hp) nofun, fun p f hp => Or.inr ⟨f, hp, rfl⟩⟩
      (fun h u i v _ hu hstep _ => ?_) fun _ _ => trivial
    have hnext := next_of_step hstep
    exact accounted_next (x := ⟨u, i, v⟩) hu hnext
  exact ⟨hs.owner p f hp, hs.mode p f hp⟩

/-- The first file is still there after the second session, whose cookie could not be written. -/
theorem authority_files_accounted_full : ∃ (h : List (Step State Act)) (s : State) (f : File),
    AuthRun (fun _ => none) h s ∧ s.files firstFile = some f ∧ f.mode = authMode ∧
      ((∃ id d, s.displays id = some d ∧ d.authFile = some firstFile) ∨
        ∃ x ∈ h, abandons firstFile x = true) := by
  obtain ⟨h, s, f, run, hp, hmode⟩ :
      ∃ (h : List (Step State Act)) (s : State) (f : File), AuthRun (fun _ => none) h s ∧
        s.files firstFile = some f ∧ f.mode = authMode :=
    ⟨_, _, _, ((Run.nil.snoc (i := .enter 0 ":0".toList .localHost none) rfl).snoc
      (i := .start 0 .magic (.cookie 7 firstSuffix true)) rfl).snoc
      (i := .start 0 .magic (.cookie 8 secondSuffix false)) rfl, rfl, rfl⟩
  obtain ⟨howner, -⟩ := authority_files_accounted run hp
  exact ⟨h, s, f, run, hp, hmode, howner rfl⟩

end ServerAuth

end Xdm
