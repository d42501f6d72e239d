/-
# Resources

`LoadDMResources`, `LoadServerResources` and `LoadSessionResources` (`xdm/resource.c`) read the
variables of the daemon and the fields of a display from the resource database, and read them
again whenever the configuration has changed.  A string is freed and copied again, and a boolean
whose text says neither yes nor no is left as it is.

* `reload_is_restart_iff`: when loading again gives what starting again would give;
* `loads_undefined_iff`: when a string is read that has been freed;
* `resources_shared_iff`: which displays have the same resources.

The build modelled has `arc4random`, and the paths that `resource.c` itself gives.  Of the
resource database only its answers matter: the text for the components of a name and of a class.
-/
import Xdm.Base
import Xdm.Util
import Mathlib.Data.List.Induction

namespace Xdm

namespace Resources

/-! ### Values -/

/-- `DM_STRING`, `DM_INT`, `DM_BOOL` and `DM_ARGV` -/
inductive ValueType
  | string
  | int
  | bool
  | argv
deriving DecidableEq

structure Resource where
  name : Str
  className : Str
  type : ValueType
  default : Str
deriving DecidableEq

/-- A variable.  A string is a pointer, to nothing or to a text; `freed` is one to a text that
has been freed. -/
inductive Value
  | string (text : Option Str)
  | freed
  | int (n : Int)
  | argv (args : List Str)
deriving DecidableEq

/-- The components of a name, between periods and asterisks. -/
def components (name : Str) : List Str :=
  (name.splitOnP fun c => c = '.' ∨ c = '*').filter (· ≠ [])

/-- What the resource database has for the components of a name and of a class. -/
abbrev Database : Type := List Str → List Str → Option Str

def xrmGetResource (db : Database) (name className : Str) : Option Str :=
  db (components name) (components className)

/-- One load: the database, and for which resources `calloc` succeeds. -/
structure Load where
  db : Database
  alloc : Str → Bool

/-! ### `GetResource` -/

/-- `XmuCopyISOLatin1Lowered` -/
def lowered (s : Str) : Str :=
  s.map fun c =>
    if ('A' ≤ c ∧ c ≤ 'Z') ∨ (0xC0 ≤ c.toNat ∧ c.toNat ≤ 0xDE ∧ c.toNat ≠ 0xD7) then
      Char.ofNat (c.toNat + 32)
    else c

def atoi (s : Str) : Int := (strtol s).bmod (2 ^ 32)

/-- The text of a boolean, if it says anything. -/
def boolOf (s : Str) : Option Int :=
  if s = "true".toList ∨ s = "on".toList ∨ s = "yes".toList then some 1
  else if s = "false".toList ∨ s = "off".toList ∨ s = "no".toList then some 0
  else none

/-- The size of a value in the database includes the NUL, that of a default does not. -/
def getResource (l : Load) (name className : Str) (r : Resource) (v : Value) : Option Value :=
  let (string, len) := match xrmGetResource l.db name className with
    | some text => (text, text.length + 1)
    | none => (r.default, r.default.length)
  match r.type with
  | .string =>
    match v with
    | .freed => none
    | .string (some old) =>
      if old.length = len ∧ old.take len = string.take len then some v
      else some (if l.alloc r.name then .string (some string) else .freed)
    | _ => some (if l.alloc r.name then .string (some string) else v)
  | .int => some (.int (atoi (string.take 49)))
  | .bool => some (((boolOf (lowered (string.take 49))).map Value.int).getD v)
  | .argv => some (.argv (parseArgs [] string))

/-! ### The tables -/

def dmResources : List Resource :=
  [⟨"servers".toList, "Servers".toList, .string, ":0 local /usr/bin/X11/X :0".toList⟩,
    ⟨"requestPort".toList, "RequestPort".toList, .int, "177".toList⟩,
    ⟨"debugLevel".toList, "DebugLevel".toList, .int, "0".toList⟩,
    ⟨"errorLogFile".toList, "ErrorLogFile".toList, .string, []⟩,
    ⟨"daemonMode".toList, "DaemonMode".toList, .bool, "true".toList⟩,
    ⟨"pidFile".toList, "PidFile".toList, .string, []⟩,
    ⟨"lockPidFile".toList, "LockPidFile".toList, .bool, "true".toList⟩,
    ⟨"authDir".toList, "authDir".toList, .string, "/usr/lib/X11/xdm".toList⟩,
    ⟨"autoRescan".toList, "AutoRescan".toList, .bool, "true".toList⟩,
    ⟨"removeDomainname".toList, "RemoveDomainname".toList, .bool, "true".toList⟩,
    ⟨"keyFile".toList, "KeyFile".toList, .string, []⟩,
    ⟨"accessFile".toList, "AccessFile".toList, .string, []⟩,
    ⟨"exportList".toList, "ExportList".toList, .argv, []⟩,
    ⟨"greeterLib".toList, "GreeterLib".toList, .string,
      "/usr/lib/X11/xdm/libXdmGreet.so".toList⟩,
    ⟨"choiceTimeout".toList, "ChoiceTimeout".toList, .int, "15".toList⟩,
    ⟨"sourceAddress".toList, "SourceAddress".toList, .bool, "false".toList⟩,
    ⟨"willing".toList, "Willing".toList, .string, []⟩]

def serverResources : List Resource :=
  [⟨"serverAttempts".toList, "ServerAttempts".toList, .int, "1".toList⟩,
    ⟨"openDelay".toList, "OpenDelay".toList, .int, "15".toList⟩,
    ⟨"openRepeat".toList, "OpenRepeat".toList, .int, "5".toList⟩,
    ⟨"openTimeout".toList, "OpenTimeout".toList, .int, "120".toList⟩,
    ⟨"startAttempts".toList, "StartAttempts".toList, .int, "4".toList⟩,
    ⟨"reservAttempts".toList, "ReservAttempts".toList, .int, "2".toList⟩,
    ⟨"pingInterval".toList, "PingInterval".toList, .int, "5".toList⟩,
    ⟨"pingTimeout".toList, "PingTimeout".toList, .int, "5".toList⟩,
    ⟨"terminateServer".toList, "TerminateServer".toList, .bool, "false".toList⟩,
    ⟨"grabServer".toList, "GrabServer".toList, .bool, "false".toList⟩,
    ⟨"grabTimeout".toList, "GrabTimeout".toList, .int, "3".toList⟩,
    ⟨"resetSignal".toList, "Signal".toList, .int, "1".toList⟩,
    ⟨"termSignal".toList, "Signal".toList, .int, "15".toList⟩,
    ⟨"resetForAuth".toList, "ResetForAuth".toList, .bool, "false".toList⟩,
    ⟨"authorize".toList, "Authorize".toList, .bool, "true".toList⟩,
    ⟨"authComplain".toList, "AuthComplain".toList, .bool, "true".toList⟩,
    ⟨"authName".toList, "AuthName".toList, .argv, "MIT-MAGIC-COOKIE-1".toList⟩,
    ⟨"authFile".toList, "AuthFile".toList, .string, []⟩]

def sessionResources : List Resource :=
  [⟨"resources".toList, "Resources".toList, .string, []⟩,
    ⟨"xrdb".toList, "Xrdb".toList, .string, "/usr/bin/X11/xrdb".toList⟩,
    ⟨"setup".toList, "Setup".toList, .string, []⟩,
    ⟨"startup".toList, "Startup".toList, .string, []⟩,
    ⟨"reset".toList, "Reset".toList, .string, []⟩,
    ⟨"session".toList, "Session".toList, .string, "/usr/bin/X11/xterm -ls".toList⟩,
    ⟨"userPath".toList, "Path".toList, .string, ":/bin:/usr/bin:/usr/bin/X11:/usr/ucb".toList⟩,
    ⟨"systemPath".toList, "Path".toList, .string,
      "/etc:/bin:/usr/bin:/usr/bin/X11:/usr/ucb".toList⟩,
    ⟨"systemShell".toList, "Shell".toList, .string, "/bin/sh".toList⟩,
    ⟨"failsafeClient".toList, "FailsafeClient".toList, .string, "/usr/bin/X11/xterm".toList⟩,
    ⟨"userAuthDir".toList, "UserAuthDir".toList, .string, "/tmp".toList⟩,
    ⟨"chooser".toList, "Chooser".toList, .string, "/usr/lib/X11/xdm/chooser".toList⟩,
    ⟨"greeter".toList, "Greeter".toList, .string, []⟩]

/-! ### Loading -/

/-- Where the names of a table are looked up. -/
structure Scope where
  name : Str → Str
  className : Str → Str

/-- The scope of `LoadDMResources` -/
def dmScope : Scope :=
  ⟨fun n => ("DisplayManager.".toList ++ n).take 1023,
    fun c => ("DisplayManager.".toList ++ c).take 1023⟩

/-- `len` counts the characters that are left, with the terminating NUL. -/
def cleanUpName (src : Str) (len : Nat) : Str :=
  (src.take (len - 1)).map fun c => if c = ':' ∨ c = '.' then '_' else c

/-- The scope of `LoadDisplayResources` for a display with this name and class -/
def displayScope (name : Str) (className : Option Str) : Scope :=
  let dpyName := cleanUpName name 512
  let dpyClass := cleanUpName (className.getD name) 512
  ⟨fun n => ("DisplayManager.".toList ++ dpyName ++ ['.'] ++ n).take 1023,
    fun c => ("DisplayManager.".toList ++ dpyClass ++ ['.'] ++ c).take 1023⟩

/-- The variables of a table. -/
abbrev Variables : Type := List (Resource × Value)

/-- Load one variable. -/
def loadOne (scope : Scope) (l : Load) (e : Resource × Value) : Option (Resource × Value) :=
  (getResource l (scope.name e.1.name) (scope.className e.1.className) e.1 e.2).map (e.1, ·)

/-- The loop of `LoadDMResources` and `LoadDisplayResources`. -/
def loadResources (scope : Scope) (l : Load) (vs : Variables) : Option Variables :=
  vs.mapM (loadOne scope l)

/-- One load after the other. -/
def loads (scope : Scope) : Variables → List Load → Option Variables
  | vs, [] => some vs
  | vs, l :: ls => (loadResources scope l vs).bind fun vs => loads scope vs ls

/-- Variables that have not been loaded yet. -/
def Resource.zero (r : Resource) : Value :=
  match r.type with
  | .string => .string none
  | .int | .bool => .int 0
  | .argv => .argv []

def fresh (table : List Resource) : Variables := table.map fun r => (r, r.zero)

variable {scope : Scope} {l : Load} {ls l₁ l₂ : List Load} {r : Resource} {v : Value}
  {e : Resource × Value} {vs : Variables} {old : Str}

lemma fresh_ne_freed {table : List Resource} : ∀ e ∈ fresh table, e.2 ≠ .freed := by
  intro e he
  obtain ⟨r, -, rfl⟩ := List.mem_map.1 he
  unfold Resource.zero
  cases r.type <;> exact Value.noConfusion

lemma fresh_string {table : List Resource} :
    ∀ e ∈ fresh table, e.1.type = .string → e.2 = .string none := by
  intro e he htype
  obtain ⟨r, -, rfl⟩ := List.mem_map.1 he
  have htype : r.type = .string := htype
  unfold Resource.zero
  rw [htype]

/-! ### The last text -/

def Load.text (scope : Scope) (l : Load) (r : Resource) : Str :=
  (xrmGetResource l.db (scope.name r.name) (scope.className r.className)).getD r.default

/-- What the text of a resource says; only that of a boolean may say nothing. -/
def Load.read (scope : Scope) (l : Load) (r : Resource) : Option Value :=
  match r.type with
  | .string => some (.string (some (l.text scope r)))
  | .int => some (.int (atoi ((l.text scope r).take 49)))
  | .bool => (boolOf (lowered ((l.text scope r).take 49))).map .int
  | .argv => some (.argv (parseArgs [] (l.text scope r)))

/-- The database names the resource, or the default is not the text that is there. -/
def Load.replaces (scope : Scope) (l : Load) (r : Resource) (old : Str) : Bool :=
  (xrmGetResource l.db (scope.name r.name) (scope.className r.className)).isSome ||
    decide (old ≠ r.default)

/-- A text is kept if it is the default again, and else replaced: the size that comes from the
database is never its length. -/
lemma getResource_string (htype : r.type = .string) :
    getResource l (scope.name r.name) (scope.className r.className) r (.string (some old)) =
      some (if l.replaces scope r old then
        if l.alloc r.name then .string (some (l.text scope r)) else .freed
      else .string (some old)) := by
  unfold getResource Load.replaces Load.text
  simp only [htype]
  cases xrmGetResource l.db (scope.name r.name) (scope.className r.className) with
  | some t =>
    have hne : ¬ (old.length = t.length + 1 ∧ old.take (t.length + 1) = t.take (t.length + 1)) := by
      rintro ⟨hlength, htake⟩
      rw [List.take_of_length_le (Nat.le_of_eq hlength),
        List.take_of_length_le (Nat.le_succ _)] at htake
      rw [htake] at hlength
      exact absurd hlength (Nat.ne_of_lt (Nat.lt_succ_self _))
    simp only [if_neg hne, Option.isSome_some, Bool.true_or, if_true, Option.getD_some]
  | none =>
    by_cases hold : old = r.default
    · simp [hold]
    · have hne : ¬ (old.length = r.default.length ∧
          old.take r.default.length = r.default.take r.default.length) := by
        rintro ⟨hlength, htake⟩
        rw [List.take_of_length_le (Nat.le_of_eq hlength), List.take_length] at htake
        exact hold htake
      simp only [if_neg hne, Option.isSome_none, Bool.false_or, decide_eq_true hold, if_true,
        Option.getD_none]

lemma getResource_null (htype : r.type = .string) :
    getResource l (scope.name r.name) (scope.className r.className) r (.string none) =
      some (if l.alloc r.name then .string (some (l.text scope r)) else .string none) := by
  unfold getResource Load.text
  simp only [htype]
  cases xrmGetResource l.db (scope.name r.name) (scope.className r.className) <;> rfl

/-- If there is memory, the variable has what the text says, or what it had. -/
lemma getResource_read (halloc : l.alloc r.name = true) (hv : v ≠ .freed) :
    getResource l (scope.name r.name) (scope.className r.className) r v =
      some ((l.read scope r).getD v) := by
  cases htype : r.type with
  | string =>
    have hread : l.read scope r = some (.string (some (l.text scope r))) := by
      simp only [Load.read, htype]
    rw [hread, Option.getD_some]
    cases v with
    | string text =>
      cases text with
      | none => rw [getResource_null htype, if_pos halloc]
      | some old =>
        rw [getResource_string htype, if_pos halloc]
        split
        · rfl
        · next hkept =>
          obtain ⟨hdb, hold⟩ := Bool.or_eq_false_iff.1 (Bool.not_eq_true _ ▸ hkept)
          have hold : old = r.default := by simpa using hold
          rw [Load.text, Option.isSome_eq_false_iff.1 hdb |> Option.isNone_iff_eq_none.1, hold]
          rfl
    | freed => exact absurd rfl hv
    | int n =>
      unfold getResource Load.text
      simp only [htype, halloc]
      cases xrmGetResource l.db (scope.name r.name) (scope.className r.className) <;> rfl
    | argv args =>
      unfold getResource Load.text
      simp only [htype, halloc]
      cases xrmGetResource l.db (scope.name r.name) (scope.className r.className) <;> rfl
  | int | bool | argv =>
    unfold getResource Load.read Load.text
    simp only [htype]
    cases xrmGetResource l.db (scope.name r.name) (scope.className r.className) <;> rfl

lemma read_ne_freed (hread : l.read scope r = some v) : v ≠ .freed := by
  unfold Load.read at hread
  split at hread
  · obtain rfl := Option.some.inj hread
    exact nofun
  · obtain rfl := Option.some.inj hread
    exact nofun
  · obtain ⟨n, -, rfl⟩ := Option.map_eq_some_iff.1 hread
    exact nofun
  · obtain rfl := Option.some.inj hread
    exact nofun

/-! ### One variable -/

/-- One load of the variable after the other. -/
def loadsOne (scope : Scope) : Resource × Value → List Load → Option (Resource × Value)
  | e, [] => some e
  | e, l :: ls => (loadOne scope l e).bind fun e => loadsOne scope e ls

/-- What the last text that says something has said. -/
def lastRead (scope : Scope) (r : Resource) (v : Value) (ls : List Load) : Value :=
  ((ls.filterMap fun l => l.read scope r).getLast?).getD v

lemma mapM_bind {α β γ : Type} {f : α → Option β} {g : β → Option γ} (as : List α) :
    (as.mapM f).bind (fun bs => bs.mapM g) = as.mapM fun a => (f a).bind g := by
  induction as with
  | nil => rfl
  | cons a as ih =>
    simp only [List.mapM_cons, Option.bind_eq_bind, Option.pure_def]
    rw [← ih]
    cases f a with
    | none => rfl
    | some b =>
      cases as.mapM f with
      | none => cases hg : g b <;> simp [hg]
      | some bs => simp

lemma mapM_congr {α β : Type} {f g : α → Option β} {as : List α} (h : ∀ a ∈ as, f a = g a) :
    as.mapM f = as.mapM g := by
  induction as with
  | nil => rfl
  | cons a as ih =>
    obtain ⟨ha, has⟩ := List.forall_mem_cons.1 h
    rw [List.mapM_cons, List.mapM_cons, ha, ih has]

/-- The variables do not depend on each other. -/
lemma loads_eq : loads scope vs ls = vs.mapM fun e => loadsOne scope e ls := by
  induction ls generalizing vs with
  | nil =>
    exact ((List.mapM_pure (f := id)).trans (congrArg some (List.map_id vs))).symm
  | cons l ls ih =>
    simp only [loads, loadsOne, ih]
    exact mapM_bind vs

lemma loadsOne_append (e : Resource × Value) :
    loadsOne scope e (ls ++ [l]) = (loadsOne scope e ls).bind (loadOne scope l) := by
  induction ls generalizing e with
  | nil => simp [loadsOne]
  | cons l' ls ih =>
    simp only [List.cons_append, loadsOne, ih]
    cases loadOne scope l' e <;> rfl

lemma lastRead_append : lastRead scope r v (ls ++ [l]) =
    (l.read scope r).getD (lastRead scope r v ls) := by
  unfold lastRead
  rw [List.filterMap_append]
  cases hread : l.read scope r with
  | none => simp [hread]
  | some v' => simp [hread]

lemma lastRead_ne_freed (hv : v ≠ .freed) : lastRead scope r v ls ≠ .freed := by
  unfold lastRead
  cases hlast : (ls.filterMap fun l => l.read scope r).getLast? with
  | none => exact hv
  | some v' =>
    obtain ⟨l, -, hread⟩ := List.mem_filterMap.1 (List.mem_of_getLast? hlast)
    exact read_ne_freed hread

/-- If there is memory, the last text that says something counts. -/
lemma loadsOne_read (halloc : ∀ l ∈ ls, l.alloc r.name = true) (hv : v ≠ .freed) :
    loadsOne scope (r, v) ls = some (r, lastRead scope r v ls) := by
  induction ls using List.reverseRecOn with
  | nil => rfl
  | append_singleton ls l ih =>
    rw [loadsOne_append, ih fun l hl => halloc l (List.mem_append_left _ hl), Option.bind_some,
      loadOne, getResource_read (halloc l (by simp)) (lastRead_ne_freed hv), lastRead_append]
    rfl

lemma loads_read (halloc : ∀ l ∈ ls, ∀ e ∈ vs, l.alloc e.1.name = true)
    (hv : ∀ e ∈ vs, e.2 ≠ .freed) :
    loads scope vs ls = some (vs.map fun e => (e.1, lastRead scope e.1 e.2 ls)) := by
  rw [loads_eq]
  induction vs with
  | nil => rfl
  | cons e vs ih =>
    have hone : loadsOne scope e ls = some (e.1, lastRead scope e.1 e.2 ls) :=
      loadsOne_read (r := e.1) (v := e.2) (fun l hl => halloc l hl e (by simp)) (hv e (by simp))
    rw [List.mapM_cons, hone, ih (fun l hl e he => halloc l hl e (List.mem_cons_of_mem _ he))
      fun e he => hv e (List.mem_cons_of_mem _ he)]
    rfl

/-- A boolean whose text says neither yes nor no. -/
def Load.unclear (scope : Scope) (l : Load) (r : Resource) : Bool :=
  r.type = .bool && (boolOf (lowered ((l.text scope r).take 49))).isNone

lemma read_eq_none : l.read scope r = none ↔ l.unclear scope r = true := by
  unfold Load.read Load.unclear
  cases r.type <;> simp

/-- For every table, every sequence of loads and every database, if there is memory: loading the
variables again gives what a daemon that is started now would have, exactly if each boolean whose
text says neither yes nor no has been left by the last text that did as it was before all. -/
theorem reload_is_restart_iff (halloc : ∀ l' ∈ ls ++ [l], ∀ e ∈ vs, l'.alloc e.1.name = true)
    (hv : ∀ e ∈ vs, e.2 ≠ .freed) :
    (loads scope vs (ls ++ [l])).isSome = true ∧
    (loads scope vs (ls ++ [l]) = loads scope vs [l] ↔
      ∀ e ∈ vs, l.unclear scope e.1 = true → lastRead scope e.1 e.2 ls = e.2) := by
  have hlast : ∀ l' ∈ [l], ∀ e ∈ vs, l'.alloc e.1.name = true := fun l' hl' =>
    halloc l' (List.mem_append_right _ hl')
  rw [loads_read halloc hv, loads_read hlast hv, Option.some_inj, List.map_inj_left]
  refine ⟨rfl, forall₂_congr fun e _ => ?_⟩
  rw [lastRead_append, ← List.nil_append [l], lastRead_append, ← read_eq_none]
  cases hread : l.read scope e.1 with
  | none =>
    rw [Option.getD_none, Option.getD_none, Prod.mk.injEq]
    exact ⟨fun h _ => h.2, fun h => ⟨rfl, h rfl⟩⟩
  | some v => exact iff_of_true rfl fun h => absurd h (Option.some_ne_none v)

/-- The database says this about `daemonMode`, and nothing else. -/
def saysDaemonMode (text : Str) : Load where
  db n _ := if n = components "DisplayManager.daemonMode".toList then some text else none
  alloc _ := true

/-- A daemon that has read `yes` keeps it when it reads `perhaps`; one that is started then does
not have it. -/
theorem reload_is_restart_unclear :
    loads dmScope (fresh dmResources)
        ([saysDaemonMode "yes".toList] ++ [saysDaemonMode "perhaps".toList]) ≠
      loads dmScope (fresh dmResources) [saysDaemonMode "perhaps".toList] := by
  intro h
  have halloc : ∀ l ∈ [saysDaemonMode "yes".toList] ++ [saysDaemonMode "perhaps".toList],
      ∀ e ∈ fresh dmResources, l.alloc e.1.name = true := by
    intro l hl e _
    rcases List.mem_pair.1 hl with rfl | rfl <;> rfl
  have hkept := (reload_is_restart_iff halloc fresh_ne_freed).2.1 h
    (⟨"daemonMode".toList, "DaemonMode".toList, .bool, "true".toList⟩, .int 0)
    (by decide +kernel) (by decide +kernel)
  revert hkept
  decide +kernel

/-! ### Memory -/

/-- The text of the variable, which was `NULL` at first, if no text has been freed. -/
def lastText (scope : Scope) (r : Resource) (ls : List Load) : Option Str :=
  ((ls.filter fun l => l.alloc r.name).getLast?).map fun l => l.text scope r

/-- The text is freed, and there is no memory for the new one. -/
def Frees (scope : Scope) (r : Resource) (ls : List Load) (l : Load) : Prop :=
  l.alloc r.name = false ∧ ∃ old, lastText scope r ls = some old ∧ l.replaces scope r old = true

lemma lastText_append : lastText scope r (ls ++ [l]) =
    if l.alloc r.name then some (l.text scope r) else lastText scope r ls := by
  unfold lastText
  cases halloc : l.alloc r.name with
  | true => simp [List.filter_append, halloc]
  | false => simp [List.filter_append, halloc]

/-- In some load the text is freed, and there is no memory for the new one. -/
def Freed (scope : Scope) (r : Resource) (ls : List Load) : Prop :=
  ∃ l₁ l l₂, ls = l₁ ++ l :: l₂ ∧ Frees scope r l₁ l

lemma freed_append : Freed scope r (ls ++ [l]) ↔ Freed scope r ls ∨ Frees scope r ls l := by
  constructor
  · rintro ⟨l₁, l', l₂, heq, hfrees⟩
    -- the load that frees is the last one, or comes before it
    rcases List.eq_nil_or_concat l₂ with rfl | ⟨l₃, l'', rfl⟩
    · obtain ⟨rfl, hl⟩ := List.append_inj' heq rfl
      obtain rfl := List.singleton_inj.1 hl
      exact Or.inr hfrees
    · rw [List.concat_eq_append, ← List.cons_append, ← List.append_assoc] at heq
      exact Or.inl ⟨l₁, l', l₃, (List.append_inj' heq rfl).1, hfrees⟩
  · rintro (⟨l₁, l', l₂, rfl, hfrees⟩ | hfrees)
    · exact ⟨l₁, l', l₂ ++ [l], by simp, hfrees⟩
    · exact ⟨ls, l, [], rfl, hfrees⟩

lemma loadOne_frees (htype : r.type = .string) (hfrees : Frees scope r ls l) :
    loadOne scope l (r, .string (lastText scope r ls)) = some (r, .freed) := by
  obtain ⟨halloc, old, hold, hreplaces⟩ := hfrees
  rw [hold, loadOne, getResource_string htype, if_pos hreplaces, halloc]
  rfl

lemma loadOne_keeps (htype : r.type = .string) (hkept : ¬ Frees scope r ls l) :
    loadOne scope l (r, .string (lastText scope r ls)) =
      some (r, .string (lastText scope r (ls ++ [l]))) := by
  rw [lastText_append]
  cases hold : lastText scope r ls with
  | none =>
    rw [loadOne, getResource_null htype]
    split <;> rfl
  | some old =>
    rw [loadOne, getResource_string htype]
    cases halloc : l.alloc r.name with
    | true =>
      split
      · rfl
      · next hsame =>
        obtain ⟨hdb, hdefault⟩ := Bool.or_eq_false_iff.1 (Bool.not_eq_true _ ▸ hsame)
        have htext : l.text scope r = old := by
          have hold : old = r.default := by simpa using hdefault
          rw [Load.text, Option.isSome_eq_false_iff.1 hdb |> Option.isNone_iff_eq_none.1, hold]
          rfl
        rw [if_pos rfl, htext]
        rfl
    | false =>
      rw [if_neg fun h => hkept ⟨halloc, old, hold, h⟩]
      rfl

/-- As long as no text has been freed, the last one is there for which there was memory. -/
lemma loadsOne_kept (htype : r.type = .string) (hkept : ¬ Freed scope r ls) :
    loadsOne scope (r, .string none) ls = some (r, .string (lastText scope r ls)) := by
  induction ls using List.reverseRecOn with
  | nil => rfl
  | append_singleton ls l ih =>
    obtain ⟨hkept, hfrees⟩ := not_or.1 (mt freed_append.2 hkept)
    rw [loadsOne_append, ih hkept, Option.bind_some, loadOne_keeps htype hfrees]

lemma loadOne_freed (htype : r.type = .string) : loadOne scope l (r, .freed) = none := by
  unfold loadOne getResource
  simp only [htype, Option.map_none]

/-- Once a text has been freed, it is freed until it is read. -/
lemma loadsOne_freed (htype : r.type = .string) (hfreed : Freed scope r ls) :
    loadsOne scope (r, .string none) ls = some (r, .freed) ∨
      loadsOne scope (r, .string none) ls = none := by
  induction ls using List.reverseRecOn with
  | nil =>
    obtain ⟨l₁, l, l₂, heq, -⟩ := hfreed
    simp at heq
  | append_singleton ls l ih =>
    rw [loadsOne_append]
    by_cases hbefore : Freed scope r ls
    -- the freed text is read now, if no load before has read it
    · obtain h | h := ih hbefore
      · exact Or.inr (by rw [h, Option.bind_some, loadOne_freed htype])
      · exact Or.inr (by rw [h, Option.bind_none])
    · have hfrees := (freed_append.1 hfreed).resolve_left hbefore
      rw [loadsOne_kept htype hbefore, Option.bind_some, loadOne_frees htype hfrees]
      exact Or.inl rfl

/-- Only strings are freed. -/
lemma loadOne_other (htype : e.1.type ≠ .string) : (loadOne scope l e).isSome = true := by
  unfold loadOne getResource
  cases h : e.1.type with
  | string => exact absurd h htype
  | int | bool | argv =>
    cases xrmGetResource l.db (scope.name e.1.name) (scope.className e.1.className) <;> rfl

lemma loadOne_resource {e' : Resource × Value} (h : loadOne scope l e = some e') : e'.1 = e.1 := by
  obtain ⟨v, -, rfl⟩ := Option.map_eq_some_iff.1 h
  rfl

lemma loadsOne_other (htype : e.1.type ≠ .string) : (loadsOne scope e ls).isSome = true := by
  induction ls generalizing e with
  | nil => rfl
  | cons l ls ih =>
    have hsome : (loadOne scope l e).isSome = true := loadOne_other htype
    obtain ⟨e', he'⟩ := Option.isSome_iff_exists.1 hsome
    rw [loadsOne, he', Option.bind_some]
    exact ih (by rwa [loadOne_resource he'])

lemma mapM_eq_none {α β : Type} {f : α → Option β} {as : List α} :
    as.mapM f = none ↔ ∃ a ∈ as, f a = none := by
  induction as with
  | nil => simp
  | cons a as ih =>
    rw [List.mapM_cons]
    cases hf : f a with
    | none => simp [hf]
    | some b =>
      cases has : as.mapM f with
      | none =>
        obtain ⟨a', ha', hnone⟩ := ih.1 has
        exact iff_of_true rfl ⟨a', List.mem_cons_of_mem _ ha', hnone⟩
      | some bs =>
        refine iff_of_false nofun ?_
        rintro ⟨a', ha', hnone⟩
        obtain rfl | ha' := List.mem_cons.1 ha'
        · exact absurd (hf.symm.trans hnone) nofun
        · exact absurd (has.symm.trans (ih.2 ⟨a', ha', hnone⟩)) nofun

/-- For every table, every sequence of loads and every database, from strings that are `NULL`: a
load reads a string that has been freed exactly if there is one which an earlier load has freed,
because the database names it or the text was not the default, and for which there was no memory
then. -/
theorem loads_undefined_iff
    (hnull : ∀ e ∈ vs, e.1.type = .string → e.2 = .string none) :
    loads scope vs (ls ++ [l]) = none ↔
      ∃ e ∈ vs, e.1.type = .string ∧ Freed scope e.1 ls := by
  rw [loads_eq, mapM_eq_none]
  refine exists_congr fun e => and_congr_right fun he => ?_
  by_cases htype : e.1.type = .string
  · obtain ⟨r, v⟩ := e
    obtain rfl := hnull _ he htype
    rw [and_iff_right htype, loadsOne_append]
    constructor
    · intro hnone
      by_contra hkept
      rw [loadsOne_kept htype hkept, Option.bind_some] at hnone
      -- the last load may free the text, but reads none that has been freed
      by_cases hfrees : Frees scope r ls l
      · exact absurd ((loadOne_frees htype hfrees).symm.trans hnone) nofun
      · exact absurd ((loadOne_keeps htype hfrees).symm.trans hnone) nofun
    · intro hfreed
      obtain h | h := loadsOne_freed htype hfreed
      · rw [h, Option.bind_some, loadOne_freed htype]
      · rw [h, Option.bind_none]
  · refine iff_of_false (fun hnone => ?_) fun h => htype h.1
    have hsome : (loadsOne scope e (ls ++ [l])).isSome = true := loadsOne_other htype
    rw [hnone] at hsome
    cases hsome

/-- The database names `servers`, and there is memory or none. -/
def namesServers (memory : Bool) : Load where
  db n _ :=
    if n = components "DisplayManager.servers".toList then some "/etc/X11/Xservers".toList
    else none
  alloc _ := memory

/-- The second load frees the text and has no memory for it, and the third reads it. -/
theorem loads_undefined_third :
    loads dmScope (fresh dmResources) ([namesServers true, namesServers false] ++
      [namesServers true]) = none :=
  (loads_undefined_iff fresh_string).2
    ⟨(⟨"servers".toList, "Servers".toList, .string, ":0 local /usr/bin/X11/X :0".toList⟩,
      .string none), by decide +kernel, rfl, [namesServers true], namesServers false, [], rfl,
      rfl, "/etc/X11/Xservers".toList, by decide +kernel, by decide +kernel⟩

/-! ### Displays -/

section Displays

variable {n n₁ n₂ c : Str} {c₁ c₂ : Option Str} {rest table : List Resource}

/-- The two displays load the variables of this table from the same entries. -/
def Shared (table : List Resource) (n₁ n₂ : Str) (c₁ c₂ : Option Str) : Prop :=
  ∀ (l : Load) (vs : Variables), vs.map Prod.fst = table →
    loadResources (displayScope n₁ c₁) l vs = loadResources (displayScope n₂ c₂) l vs

/-- The names of the two displays are the same for the resource database, and their classes. -/
def SameName (n₁ n₂ : Str) (c₁ c₂ : Option Str) : Prop :=
  components (cleanUpName n₁ 512) = components (cleanUpName n₂ 512) ∧
    components (cleanUpName (c₁.getD n₁) 512) = components (cleanUpName (c₂.getD n₂) 512)

lemma components_append (a b : Str) :
    components (a ++ '.' :: b) = components a ++ components b := by
  rw [components, List.splitOnP_append_cons _ _ (by decide), List.filter_append]
  rfl

lemma length_cleanUpName : (cleanUpName n 512).length ≤ 511 := by
  unfold cleanUpName
  rw [List.length_map]
  exact List.length_take_le _ _

/-- The buffers are large enough for a short name. -/
lemma take_scope (hshort : c.length ≤ 400) :
    ("DisplayManager.".toList ++ cleanUpName n 512 ++ ['.'] ++ c).take 1023 =
      "DisplayManager.".toList ++ cleanUpName n 512 ++ ['.'] ++ c := by
  have hlength := length_cleanUpName (n := n)
  have hmanager : "DisplayManager.".toList.length = 15 := rfl
  apply List.take_of_length_le
  simp only [List.length_append, hmanager, List.length_singleton]
  omega

lemma components_scope (hshort : c.length ≤ 400) :
    components (("DisplayManager.".toList ++ cleanUpName n 512 ++ ['.'] ++ c).take 1023) =
      components "DisplayManager".toList ++ (components (cleanUpName n 512) ++ components c) := by
  rw [take_scope hshort, ← components_append, ← components_append]
  simp

lemma scope_inj (hshort : c.length ≤ 400) :
    components (("DisplayManager.".toList ++ cleanUpName n₁ 512 ++ ['.'] ++ c).take 1023) =
      components (("DisplayManager.".toList ++ cleanUpName n₂ 512 ++ ['.'] ++ c).take 1023) ↔
    components (cleanUpName n₁ 512) = components (cleanUpName n₂ 512) := by
  rw [components_scope hshort, components_scope hshort, List.append_cancel_left_eq,
    List.append_cancel_right_eq]

/-- A database with one entry. -/
def one (scope : Scope) (r : Resource) (text : Str) : Load where
  db n c :=
    if n = components (scope.name r.name) ∧ c = components (scope.className r.className) then
      some text
    else none
  alloc _ := true

lemma loadResources_read (halloc : ∀ n, l.alloc n = true) (hv : ∀ e ∈ vs, e.2 ≠ .freed) :
    loadResources scope l vs = some (vs.map fun e => (e.1, (l.read scope e.1).getD e.2)) := by
  have hmemory : ∀ l' ∈ [l], ∀ e ∈ vs, l'.alloc e.1.name = true := by
    intro l' hl' e _
    rw [List.mem_singleton.1 hl', halloc]
  have h : loads scope vs [l] = some _ := loads_read hmemory hv
  rw [loads, show (fun vs => loads scope vs []) = some from rfl, Option.bind_fun_some] at h
  rw [h]
  refine congrArg some (List.map_congr_left fun e _ => ?_)
  rw [← List.nil_append [l], lastRead_append]
  rfl

/-- An entry for the first variable of the table tells the displays apart. -/
lemma sameName_of_shared (text : Str) (hname : r.name.length ≤ 400)
    (hclass : r.className.length ≤ 400)
    (htext : ∀ (s₁ s₂ : Scope) (l : Load), l.text s₁ r = text → l.text s₂ r = r.default →
      (l.read s₁ r).getD r.zero ≠ (l.read s₂ r).getD r.zero)
    (hshared : Shared (r :: rest) n₁ n₂ c₁ c₂) : SameName n₁ n₂ c₁ c₂ := by
  by_contra hdiffer
  have hfst : (fresh (r :: rest)).map Prod.fst = r :: rest := by
    rw [fresh, List.map_map]
    exact List.map_id _
  -- the entry is for the first display only, so the second one has the default
  have hload := hshared (one (displayScope n₁ c₁) r text) _ hfst
  rw [loadResources_read (fun _ => rfl) fresh_ne_freed,
    loadResources_read (fun _ => rfl) fresh_ne_freed, Option.some_inj, List.map_inj_left] at hload
  have hfirst := congrArg Prod.snd (hload (r, r.zero) List.mem_cons_self)
  refine htext _ _ _ ?_ ?_ hfirst
  · have hthere : xrmGetResource (one (displayScope n₁ c₁) r text).db
        ((displayScope n₁ c₁).name r.name) ((displayScope n₁ c₁).className r.className) =
          some text := if_pos ⟨rfl, rfl⟩
    rw [Load.text, hthere, Option.getD_some]
  · have hnone : xrmGetResource (one (displayScope n₁ c₁) r text).db
        ((displayScope n₂ c₂).name r.name) ((displayScope n₂ c₂).className r.className) = none :=
      if_neg fun h => hdiffer ⟨((scope_inj hname).1 h.1).symm, ((scope_inj hclass).1 h.2).symm⟩
    rw [Load.text, hnone, Option.getD_none]

lemma shared_of_sameName (hshort : ∀ r ∈ table, r.name.length ≤ 400 ∧ r.className.length ≤ 400)
    (hsame : SameName n₁ n₂ c₁ c₂) : Shared table n₁ n₂ c₁ c₂ := by
  rintro l vs rfl
  refine mapM_congr fun e he => ?_
  obtain ⟨hname, hclass⟩ := hshort e.1 (List.mem_map_of_mem he)
  have hfound : xrmGetResource l.db ((displayScope n₁ c₁).name e.1.name)
        ((displayScope n₁ c₁).className e.1.className) =
      xrmGetResource l.db ((displayScope n₂ c₂).name e.1.name)
        ((displayScope n₂ c₂).className e.1.className) :=
    congrArg₂ l.db ((scope_inj hname).2 hsame.1) ((scope_inj hclass).2 hsame.2)
  unfold loadOne getResource
  rw [hfound]

/-- Nothing separates components but periods and asterisks, and no periods are left. -/
lemma components_cleanUpName (hstar : '*' ∉ n) :
    components (cleanUpName n 512) =
      if cleanUpName n 512 = [] then [] else [cleanUpName n 512] := by
  have hplain : ∀ c ∈ cleanUpName n 512, (decide (c = '.' ∨ c = '*')) = false := by
    intro c hc
    obtain ⟨c', hc', rfl⟩ := List.mem_map.1 hc
    have hne : c' ≠ '*' := fun h => hstar (h ▸ List.mem_of_mem_take hc')
    simp only [decide_eq_false_iff_not, not_or]
    split_ifs with hspecial
    · exact ⟨by decide, by decide⟩
    · exact ⟨fun h => hspecial (Or.inr h), hne⟩
  rw [components, List.splitOnP_eq_singleton hplain]
  split_ifs with hnil
  · rw [hnil]
    rfl
  · rw [List.filter_cons_of_pos (by simpa using hnil), List.filter_nil]

lemma components_inj (h₁ : '*' ∉ n₁) (h₂ : '*' ∉ n₂) :
    components (cleanUpName n₁ 512) = components (cleanUpName n₂ 512) ↔
      cleanUpName n₁ 512 = cleanUpName n₂ 512 := by
  refine ⟨fun h => ?_, congrArg components⟩
  rw [components_cleanUpName h₁, components_cleanUpName h₂] at h
  split_ifs at h with hnil₁ hnil₂ hnil₂
  · rw [hnil₁, hnil₂]
  · exact List.singleton_inj.1 h

/-- For every two displays: they load the same server resources from every database, whatever is
there before, exactly if the first 511 characters of their names and of their classes have the
same components up to `:`, `.` and `_`; and so for the session resources.  Without asterisks they
are the same characters. -/
theorem resources_shared_iff (n₁ n₂ : Str) (c₁ c₂ : Option Str) :
    (Shared serverResources n₁ n₂ c₁ c₂ ↔ SameName n₁ n₂ c₁ c₂) ∧
    (Shared sessionResources n₁ n₂ c₁ c₂ ↔ SameName n₁ n₂ c₁ c₂) ∧
    ('*' ∉ n₁ → '*' ∉ n₂ → '*' ∉ c₁.getD n₁ → '*' ∉ c₂.getD n₂ →
      (SameName n₁ n₂ c₁ c₂ ↔ cleanUpName n₁ 512 = cleanUpName n₂ 512 ∧
        cleanUpName (c₁.getD n₁) 512 = cleanUpName (c₂.getD n₂) 512)) := by
  refine ⟨⟨sameName_of_shared "7".toList (by decide) (by decide) ?_,
    shared_of_sameName (by decide)⟩, ⟨sameName_of_shared "7".toList (by decide) (by decide) ?_,
    shared_of_sameName (by decide)⟩, fun h₁ h₂ hc₁ hc₂ =>
      and_congr (components_inj h₁ h₂) (components_inj hc₁ hc₂)⟩
  · intro s₁ s₂ l h₁ h₂
    unfold Load.read
    rw [h₁, h₂]
    decide
  · intro s₁ s₂ l h₁ h₂
    unfold Load.read
    rw [h₁, h₂]
    decide

/-- The display `:0` of this host, and one whose name is `.0` -/
example : SameName ":0".toList ".0".toList none none := ⟨by decide, by decide⟩

end Displays

end Resources

end Xdm
