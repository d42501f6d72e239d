/-
# The process-id file

`StorePid` creates the file `pidFile` exclusively and writes its process id there; `main` goes
on only if that has succeeded, and `RemovePid` unlinks the file when it exits.  Any number of
daemons are started on the same machine and take their steps in any order; they may be killed,
they fork, and each call of the kernel may fail.

* `pid_exclusive`: at most one daemon goes on with a file, and the file has its process id;
* `pid_abandoned`: once a daemon has gone without removing its file, no other goes on with it.

Both fail where a daemon reads another name for the file from its configuration while it runs,
and where a process gets the process id of a daemon that has been its ancestor.
-/
import Xdm.File
import Xdm.Access.Reader
import Xdm.Lib.Run

namespace Xdm

namespace PidFile

open Prog

/-! ### The contents of the file -/

/-- `pidstr`, which has room for ten digits. -/
def pidstr (pid : Pid) : Str := (Nat.toDigits 10 pid.toNat).take 10

/-- What `fprintf` writes. -/
def pidText (pid : Pid) : Str := pidstr pid ++ ['\n']

def dropSign : Str → Str
  | '-' :: s => s
  | '+' :: s => s
  | s => s

/-- `fscanf (pidFilePtr, "%ld\n", &oldpid)`; `-1` where there is no number. -/
def scanPid (s : Str) : Int :=
  if (dropSign (s.dropWhile isSpace)).head?.any Char.isDigit then strtol s else -1

/-- `int oldpid` of `main`, of which it tests whether it is zero. -/
def truncated (oldpid : Int) : Int := oldpid.bmod (2 ^ 32)

/-- A daemon that reads this in the file does not go on. -/
def Blocks (s : Str) : Prop := truncated (scanPid s) ≠ 0

instance (s : Str) : Decidable (Blocks s) := inferInstanceAs (Decidable (_ ≠ _))

/-! ### The processes -/

/-- The statement a process executes next. -/
inductive Point
  /-- `open (pidFile, O_WRONLY|O_CREAT|O_EXCL, 0666)` -/
  | create
  /-- `mkdir (pidDir, 0755)` -/
  | mkdir
  /-- `open`, once more -/
  | recreate
  /-- `fopen (pidFile, "r")` -/
  | fopen
  /-- `fscanf (pidFilePtr, "%ld\n", &oldpid)` -/
  | fscanf
  /-- `fdopen (pidFd, "w")` -/
  | fdopen
  /-- `fprintf (pidFilePtr, "%s\n", pidstr)`, and `fflush` -/
  | write
  /-- `if ((oldpid = StorePid ()))` of `main` -/
  | check
  /-- `atexit (RemovePid)` -/
  | atexit
  /-- What comes before `parent_pid = getpid ()`, and this. -/
  | setup
  /-- The rest of `main` -/
  | main
  /-- A child of the daemon, or a child of one -/
  | child
deriving DecidableEq, Repr

/-- A process of the daemon, or of its children. -/
structure Process where
  point : Point
  pidFile : Str
  /-- `parent_pid` -/
  parentPid : Pid
  /-- `RemovePid` is called by `exit`. -/
  atexit : Bool
  /-- The result of `StorePid`. -/
  oldpid : Int
  /-- The file that `pidFd` or `pidFilePtr` is open on. -/
  file : Option Nat
deriving DecidableEq

/-- The names of files are those of a directory after the links have been resolved; the files
themselves are numbered, and those below `used` have been created. -/
structure System where
  names : Str → Option Nat
  contents : Nat → Str
  used : Nat
  procs : Pid → Option Process

/-- What the kernel answers to a call. -/
inductive Answer
  | granted
  /-- `ENOENT` -/
  | noEntry
  | refused
  /-- Only so many characters are written; `fflush` fails. -/
  | short (n : Nat)
deriving DecidableEq, Repr

inductive Act
  /-- A daemon is started whose configuration names this file. -/
  | start (p : Pid) (pidFile : Str)
  /-- The next statement of a process. -/
  | run (p : Pid) (answer : Answer)
  | fork (p child : Pid)
  /-- `LoadDMResources`, after the configuration has changed. -/
  | reload (p : Pid) (pidFile : Str)
  /-- `exit` -/
  | exit (p : Pid)
  /-- The process ends, and `exit` is not called. -/
  | kill (p : Pid)
deriving DecidableEq, Repr

namespace System

def put (s : System) (p : Pid) (q : Process) : System :=
  { s with procs := Function.update s.procs p (some q) }

def drop (s : System) (p : Pid) : System := { s with procs := Function.update s.procs p none }

/-- A new file, which is empty. -/
def create (s : System) (name : Str) : System :=
  { s with
    names := Function.update s.names name (some s.used)
    contents := Function.update s.contents s.used []
    used := s.used + 1 }

def unlink (s : System) (name : Str) : System :=
  { s with names := Function.update s.names name none }

def write (s : System) (file : Nat) (text : Str) : System :=
  { s with contents := Function.update s.contents file text }

end System

/-- `StorePid` returns. -/
def Process.returns (q : Process) (oldpid : Int) : Process :=
  { q with point := .check, oldpid := oldpid }

def Process.goto (q : Process) (point : Point) : Process := { q with point := point }

/-- A daemon that is about to call `StorePid`, which does nothing if there is no name. -/
def Process.start (pidFile : Str) : Process where
  point := if pidFile = [] then .check else .create
  pidFile := pidFile
  parentPid := -1
  atexit := false
  oldpid := 0
  file := none

/-- `open` creates the file, or there is one already. -/
def openExclusive (s : System) (p : Pid) (q : Process) : System :=
  match s.names q.pidFile with
  | none => (s.create q.pidFile).put p { q with point := .fdopen, file := some s.used }
  | some _ => s.put p (q.goto .fopen)

/-- The statement at the point of a process. -/
def Process.run (s : System) (p : Pid) (answer : Answer) (q : Process) : Option System :=
  match q.point with
  | .create =>
    match answer with
    | .granted => some (openExclusive s p q)
    | .noEntry => some (s.put p (q.goto .mkdir))
    | _ => some (s.put p (q.returns (-1)))
  | .mkdir => some (s.put p (q.goto .recreate))
  | .recreate =>
    match answer with
    | .granted => some (openExclusive s p q)
    | _ => some (s.put p (q.returns (-1)))
  | .fopen =>
    match answer, s.names q.pidFile with
    | .granted, some file => some (s.put p { q with point := .fscanf, file := some file })
    | _, _ => some (s.put p (q.returns (-1)))
  | .fscanf => q.file.map fun file => s.put p (q.returns (scanPid (s.contents file)))
  | .fdopen =>
    match answer with
    | .granted => some (s.put p (q.goto .write))
    | _ => some (s.put p (q.returns (-1)))
  | .write =>
    match answer with
    | .granted => q.file.map fun file => (s.write file (pidText p)).put p (q.returns 0)
    | .short n => q.file.map fun file => (s.write file ((pidText p).take n)).put p (q.returns 0)
    | _ => some (s.put p (q.returns (-1)))
  | .check =>
    if truncated q.oldpid = 0 then some (s.put p (q.goto .atexit)) else some (s.drop p)
  | .atexit => some (s.put p { q with point := .setup, atexit := decide (answer = .granted) })
  | .setup => some (s.put p { q with point := .main, parentPid := p })
  | .main | .child => none

/-- `RemovePid` -/
def removePid (s : System) (p : Pid) (q : Process) : System :=
  if q.parentPid = p then s.unlink q.pidFile else s

def Act.next (s : System) : Act → Option System
  | .start p pidFile =>
    if (0 < p ∧ p < 2 ^ 31) ∧ s.procs p = none then some (s.put p (.start pidFile)) else none
  | .run p answer => (s.procs p).bind fun q => q.run s p answer
  | .fork p child =>
    if (0 < child ∧ child < 2 ^ 31) ∧ s.procs child = none then
      (s.procs p).map fun q => s.put child (q.goto .child)
    else none
  | .reload p pidFile =>
    (s.procs p).bind fun q =>
      if q.point = .main then some (s.put p { q with pidFile := pidFile }) else none
  | .exit p =>
    (s.procs p).map fun q => (if q.atexit then removePid s p q else s).drop p
  | .kill p => (s.procs p).map fun _ => s.drop p

def Act.perform (i : Act) : Prog System Unit := fun s => (i.next s).map fun s' => ((), s')

/-- No daemon has been started. -/
def System.initial (names : Str → Option Nat) (contents : Nat → Str) (used : Nat) : System where
  names := names
  contents := contents
  used := used
  procs := fun _ => none

/-- Runs of all daemons and their children. -/
abbrev PidRun (names : Str → Option Nat) (contents : Nat → Str) (used : Nat) :
    List (Prog.Step System Act) → System → Prop :=
  Prog.Run Act.perform (System.initial names contents used)

/-! ### The number in the file -/

/-- The digits at the start of a number give a smaller number, but not zero. -/
lemma ofDigitChars_prefix {n : Nat} (hn : 0 < n) {l : Str} (hl : l <+: Nat.toDigits 10 n)
    (hne : l ≠ []) : 0 < Nat.ofDigitChars 10 l 0 ∧ Nat.ofDigitChars 10 l 0 ≤ n := by
  induction n using Nat.strongRecOn with
  | ind n ih =>
    by_cases hlt : n < 10
    · rw [Nat.toDigits_of_lt_base hlt] at hl
      have hl' : l = [n.digitChar] := by
        rcases List.prefix_cons_iff.1 hl with rfl | ⟨t, rfl, ht⟩
        · exact absurd rfl hne
        · rw [List.prefix_nil.1 ht]
      rw [hl', Nat.ofDigitChars_cons_digitChar_of_lt_ten hlt, Nat.ofDigitChars_nil]
      omega
    · rw [Nat.toDigits_of_base_le (by omega) (by omega)] at hl
      rcases List.prefix_concat_iff.1 hl with rfl | hl
      · rw [← Nat.toDigits_of_base_le (by omega) (by omega), Nat.ofDigitChars_ten_toDigits]
        exact ⟨hn, Nat.le_refl n⟩
      · obtain ⟨hpos, hle⟩ := ih (n / 10) (by omega) (by omega) hl
        exact ⟨hpos, Nat.le_trans hle (Nat.div_le_self n 10)⟩

lemma toNat_of_isDigit {c : Char} (hc : c.isDigit = true) : 48 ≤ c.toNat ∧ c.toNat ≤ 57 := by
  simpa [Char.isDigit, UInt32.le_iff_toNat_le] using hc

lemma ne_of_isDigit {c c' : Char} (hc : c.isDigit = true) (hc' : c'.isDigit = false) : c ≠ c' := by
  rintro rfl
  rw [hc'] at hc
  exact nomatch hc

lemma isSpace_of_isDigit {c : Char} (hc : c.isDigit = true) : isSpace c = false := by
  obtain ⟨hge, -⟩ := toNat_of_isDigit hc
  have hspace : c ≠ ' ' := ne_of_isDigit hc rfl
  have hreturn : ¬ c ≤ '\r' := fun hle => by
    have hnat : c.toNat ≤ 13 := UInt32.le_iff_toNat_le.1 hle
    omega
  simp [isSpace, hspace, hreturn]

/-- The sum of `strtol`. -/
lemma foldl_digits {l : Str} (hl : ∀ c ∈ l, c.isDigit = true) (n : Nat) :
    l.foldl (fun (n : Int) c => 10 * n + ((c.toNat : Int) - 48)) (n : Int) =
      (Nat.ofDigitChars 10 l n : Nat) := by
  induction l generalizing n with
  | nil => rfl
  | cons c l ih =>
    obtain ⟨hge, -⟩ := toNat_of_isDigit (hl c List.mem_cons_self)
    have hcast : 10 * (n : Int) + ((c.toNat : Int) - 48) =
        ((10 * n + (c.toNat - 48) : Nat) : Int) := by
      omega
    rw [List.foldl_cons, hcast, ih fun c hc => hl c (List.mem_cons_of_mem _ hc),
      Nat.ofDigitChars_cons]
    rfl

/-- A number of which the digits come first. -/
lemma scanPid_digits {l rest : Str} (hl : ∀ c ∈ l, c.isDigit = true) (hne : l ≠ [])
    (hrest : ∀ c ∈ rest.head?, c.isDigit = false) (hlt : Nat.ofDigitChars 10 l 0 < 2 ^ 31) :
    scanPid (l ++ rest) = (Nat.ofDigitChars 10 l 0 : Nat) := by
  obtain ⟨c, l', rfl⟩ := List.exists_cons_of_ne_nil hne
  have hc := hl c List.mem_cons_self
  have hminus : c ≠ '-' := ne_of_isDigit hc rfl
  have hplus : c ≠ '+' := ne_of_isDigit hc rfl
  have hdrop : (c :: (l' ++ rest)).dropWhile isSpace = c :: (l' ++ rest) := by
    rw [List.dropWhile_cons_of_neg (by simp [isSpace_of_isDigit hc])]
  have htake : (c :: (l' ++ rest)).takeWhile Char.isDigit = c :: l' := by
    rw [← List.cons_append, List.takeWhile_append_of_pos hl]
    cases rest with
    | nil => simp
    | cons d rest => simp [hrest d rfl]
  have hstrtol : strtol (c :: (l' ++ rest)) = (Nat.ofDigitChars 10 (c :: l') 0 : Nat) := by
    have hdrop' : (c :: (l' ++ rest)).dropWhile (fun c => decide (c = ' ' ∨ '\t' ≤ c ∧ c ≤ '\r'))
        = c :: (l' ++ rest) := hdrop
    simp only [strtol, hdrop']
    split
    case h_1 heq => exact absurd (List.cons.inj heq).1 hminus
    case h_2 heq => exact absurd (List.cons.inj heq).1 hplus
    case h_3 =>
      have hsum := foldl_digits hl 0
      rw [Int.natCast_zero] at hsum
      simp only [Bool.false_eq_true, if_false, htake, hsum]
      omega
  have hdigits : dropSign (c :: (l' ++ rest)) = c :: (l' ++ rest) := by
    unfold dropSign
    split
    case h_1 hcons => exact absurd (List.cons.inj hcons).1 hminus
    case h_2 hcons => exact absurd (List.cons.inj hcons).1 hplus
    case h_3 => rfl
  rw [List.cons_append, scanPid, hdrop, hdigits, if_pos (by simpa using hc), hstrtol]

/-- What has been written of a number is no number or one that `main` sees. -/
lemma blocks_of_prefix {n : Nat} (hn : 0 < n ∧ n < 2 ^ 31) {s : Str}
    (hs : s <+: (Nat.toDigits 10 n).take 10 ++ ['\n']) : Blocks s := by
  obtain ⟨l, rest, rfl, hl, hrest⟩ : ∃ l rest, s = l ++ rest ∧ l <+: Nat.toDigits 10 n ∧
      (rest = [] ∨ rest = ['\n']) := by
    rcases List.prefix_concat_iff.1 hs with rfl | hs
    · exact ⟨_, ['\n'], rfl, List.take_prefix 10 _, Or.inr rfl⟩
    · exact ⟨s, [], (List.append_nil s).symm, hs.trans (List.take_prefix 10 _), Or.inl rfl⟩
  unfold Blocks
  by_cases hne : l = []
  · subst hne
    rcases hrest with rfl | rfl <;> decide
  · obtain ⟨hpos, hle⟩ := ofDigitChars_prefix hn.1 hl hne
    have hdigits : ∀ c ∈ l, c.isDigit = true := fun c hc =>
      Nat.isDigit_of_mem_toDigits (by omega) (by omega) (hl.subset hc)
    have hend : ∀ c ∈ rest.head?, c.isDigit = false := by
      rcases hrest with rfl | rfl <;> simp
    rw [scanPid_digits hdigits hne hend (by omega), truncated,
      Int.bmod_eq_of_le (by omega) (by omega)]
    omega

/-! ### Who has the file -/

/-- `RemovePid` of a daemon that has read another name, or of a process that has got the process
id of a daemon it comes from, would unlink the file of somebody else. -/
def careful (x : Prog.Step System Act) : Bool :=
  match x.input with
  | .reload p pidFile => (x.pre.procs p).all (·.pidFile = pidFile)
  | .fork p child => (x.pre.procs p).all (·.parentPid ≠ child)
  | _ => true

/-- The points at which the file has been created. -/
def Point.created : Point → Bool
  | .fdopen | .write | .atexit | .setup | .main => true
  | _ => false

/-- The points inside `StorePid`. -/
def Point.storing : Point → Bool
  | .create | .mkdir | .recreate | .fopen | .fscanf | .fdopen | .write => true
  | _ => false

/-- The points behind the test in `main`. -/
def Point.holds : Point → Bool
  | .atexit | .setup | .main => true
  | _ => false

def Process.Created (q : Process) : Prop :=
  q.point.created = true ∨ q.point = .check ∧ truncated q.oldpid = 0

/-- The process has created the file and has not failed. -/
def System.Owns (s : System) (p : Pid) (name : Str) : Prop :=
  ∃ q, s.procs p = some q ∧ q.pidFile = name ∧ q.Created

/-- The process is a daemon that has gone on with the file. -/
def System.Holds (s : System) (p : Pid) (name : Str) : Prop :=
  ∃ q, s.procs p = some q ∧ q.pidFile = name ∧ q.point.holds = true

/-- There is a file, and nobody who would remove it. -/
structure System.Stale (s : System) (name : Str) : Prop where
  exists_file : s.names name ≠ none
  not_owns : ∀ p, ¬ s.Owns p name

/-- What is known of a process. -/
structure Process.Good (s : System) (p : Pid) (q : Process) : Prop where
  pos : 0 < p ∧ p < 2 ^ 31
  named : q.point.storing = true → q.pidFile ≠ []
  /-- Its file has no other name, and nothing but its process id. -/
  own : q.Created → q.pidFile ≠ [] → ∃ file, q.file = some file ∧
    s.names q.pidFile = some file ∧ (∀ name, s.names name = some file → name = q.pidFile) ∧
    s.contents file <+: pidText p
  reads : q.point = .fscanf → ∃ file < s.used, q.file = some file
  /-- Only the daemon removes the file. -/
  parent : q.parentPid = p → q.point = .main

structure System.Kept (s : System) : Prop where
  bound : ∀ name file, s.names name = some file → file < s.used
  blocks : ∀ file < s.used, Blocks (s.contents file)
  good : ∀ p q, s.procs p = some q → q.Good s p
  unique : ∀ p p' name, name ≠ [] → s.Owns p name → s.Owns p' name → p = p'

/-- What a step does, if all are careful. -/
inductive Effect (s : System) : System → Prop
  /-- A process is started or goes on. -/
  | put (p : Pid) (q' : Process) : q'.Good s p →
      (q'.Created → q'.pidFile ≠ [] → s.Owns p q'.pidFile) → Effect s (s.put p q')
  | create (p : Pid) (q : Process) : s.procs p = some q → s.names q.pidFile = none →
      q.pidFile ≠ [] → q.parentPid ≠ p →
      Effect s ((s.create q.pidFile).put p { q with point := .fdopen, file := some s.used })
  | write (p : Pid) (q : Process) (file : Nat) (text : Str) : s.procs p = some q →
      q.point = .write → q.file = some file → text <+: pidText p →
      Effect s ((s.write file text).put p (q.returns 0))
  | drop (p : Pid) : Effect s (s.drop p)
  | remove (p : Pid) (q : Process) : s.procs p = some q → q.point = .main →
      Effect s ((s.unlink q.pidFile).drop p)

variable {s s' : System} {i : Act} {p p' : Pid} {q q' : Process} {name : Str} {answer : Answer}

namespace System

@[simp] lemma put_same (s : System) (p : Pid) (q : Process) : (s.put p q).procs p = some q :=
  Function.update_self ..

lemma put_of_ne (h : p' ≠ p) : (s.put p q).procs p' = s.procs p' := Function.update_of_ne h ..

@[simp] lemma drop_same (s : System) (p : Pid) : (s.drop p).procs p = none :=
  Function.update_self ..

lemma drop_of_ne (h : p' ≠ p) : (s.drop p).procs p' = s.procs p' := Function.update_of_ne h ..

lemma owns_put_same : (s.put p q).Owns p name ↔ q.pidFile = name ∧ q.Created := by
  simp [Owns]

lemma owns_put_of_ne (h : p' ≠ p) : (s.put p q).Owns p' name ↔ s.Owns p' name := by
  simp [Owns, put_of_ne h]

lemma owns_of_drop (h : (s.drop p).Owns p' name) : p' ≠ p ∧ s.Owns p' name := by
  obtain ⟨q, hq, hrest⟩ := h
  have hne : p' ≠ p := by
    rintro rfl
    rw [drop_same] at hq
    exact nomatch hq
  rw [drop_of_ne hne] at hq
  exact ⟨hne, q, hq, hrest⟩

end System

lemma created_of_point (h : q.point = .write ∨ q.point = .main) : q.Created := by
  rcases h with h | h <;> exact Or.inl (by rw [h]; rfl)

lemma owns_of_holds (h : s.Holds p name) : s.Owns p name := by
  obtain ⟨q, hq, hfile, hholds⟩ := h
  refine ⟨q, hq, hfile, Or.inl ?_⟩
  cases hpoint : q.point <;> rw [hpoint] at hholds <;> first | rfl | exact nomatch hholds

/-- A process that owns the file has created it under this name only. -/
lemma System.Kept.own (hs : s.Kept) (hp : s.procs p = some q) (hq : q.Created)
    (hname : q.pidFile ≠ []) : ∃ file, q.file = some file ∧ s.names q.pidFile = some file ∧
      (∀ name, s.names name = some file → name = q.pidFile) ∧ s.contents file <+: pidText p :=
  (hs.good p q hp).own hq hname

lemma System.Kept.names_of_owns (hs : s.Kept) (hname : name ≠ []) (h : s.Owns p name) :
    s.names name ≠ none := by
  obtain ⟨q, hp, rfl, hq⟩ := h
  obtain ⟨file, -, hfile, -⟩ := hs.own hp hq hname
  rw [hfile]
  nofun

lemma toNat_pid (hp : 0 < p ∧ p < 2 ^ 31) : 0 < p.toNat ∧ p.toNat < 2 ^ 31 := by
  obtain ⟨hpos, hlt⟩ := hp
  exact ⟨Int.pos_iff_toNat_pos.1 hpos, (Int.toNat_lt (Int.le_of_lt hpos)).2 (by exact_mod_cast hlt)⟩

/-! ### One step -/

lemma kept_put (hs : s.Kept) (hgood : q'.Good s p)
    (howns : q'.Created → q'.pidFile ≠ [] → s.Owns p q'.pidFile) : (s.put p q').Kept where
  bound := hs.bound
  blocks := hs.blocks
  good := by
    intro p' r hr
    by_cases hp : p' = p
    · subst hp
      rw [System.put_same] at hr
      obtain rfl := Option.some.inj hr
      exact ⟨hgood.pos, hgood.named, hgood.own, hgood.reads, hgood.parent⟩
    · rw [System.put_of_ne hp] at hr
      have h := hs.good p' r hr
      exact ⟨h.pos, h.named, h.own, h.reads, h.parent⟩
  unique := by
    have hback (p' : Pid) (name : Str) (hname : name ≠ []) (h : (s.put p q').Owns p' name) :
        s.Owns p' name := by
      by_cases hp : p' = p
      · subst hp
        obtain ⟨rfl, hq⟩ := System.owns_put_same.1 h
        exact howns hq hname
      · exact (System.owns_put_of_ne hp).1 h
    exact fun p₁ p₂ name hname h₁ h₂ =>
      hs.unique p₁ p₂ name hname (hback p₁ name hname h₁) (hback p₂ name hname h₂)

lemma kept_create (hs : s.Kept) (hp : s.procs p = some q) (hfree : s.names q.pidFile = none)
    (hname : q.pidFile ≠ []) (hparent : q.parentPid ≠ p) :
    ((s.create q.pidFile).put p { q with point := .fdopen, file := some s.used }).Kept := by
  have hnames (name : Str) (hne : name ≠ q.pidFile) :
      (s.create q.pidFile).names name = s.names name := Function.update_of_ne hne ..
  have hcontents (file : Nat) (hlt : file < s.used) :
      (s.create q.pidFile).contents file = s.contents file :=
    Function.update_of_ne (Nat.ne_of_lt hlt) ..
  have hnew : (s.create q.pidFile).names q.pidFile = some s.used := Function.update_self ..
  have hempty : (s.create q.pidFile).contents s.used = [] := Function.update_self ..
  refine ⟨fun name file h => ?_, fun file hlt => ?_, fun p' r hr => ?_, ?_⟩
  · by_cases hne : name = q.pidFile
    · subst hne
      obtain rfl := Option.some.inj (hnew.symm.trans h)
      exact Nat.lt_succ_self _
    · exact Nat.lt_succ_of_lt (hs.bound name file ((hnames name hne).symm.trans h))
  · rcases Nat.lt_succ_iff_lt_or_eq.1 hlt with hlt | rfl
    · exact (hcontents file hlt).symm ▸ hs.blocks file hlt
    · change Blocks ((s.create q.pidFile).contents s.used)
      rw [hempty]
      decide
  · by_cases hp' : p' = p
    · subst hp'
      rw [System.put_same] at hr
      obtain rfl := Option.some.inj hr
      refine ⟨(hs.good p' q hp).pos, fun _ => hname, fun _ _ => ?_, nofun,
        fun h => absurd h hparent⟩
      refine ⟨s.used, rfl, hnew, fun name h => ?_, ?_⟩
      · by_contra hne
        exact Nat.lt_irrefl _ (hs.bound name _ ((hnames name hne).symm.trans h))
      · change (s.create q.pidFile).contents s.used <+: _
        rw [hempty]
        exact List.nil_prefix
    · rw [System.put_of_ne hp'] at hr
      have h := hs.good p' r hr
      refine ⟨h.pos, h.named, fun hr' hname' => ?_, fun hpoint => ?_, h.parent⟩
      · obtain ⟨file, hfile, hnamed, honly, htext⟩ := h.own hr' hname'
        have hlt := hs.bound _ _ hnamed
        have hne : r.pidFile ≠ q.pidFile := by
          rintro heq
          rw [heq, hfree] at hnamed
          exact nomatch hnamed
        refine ⟨file, hfile, (hnames _ hne).trans hnamed, fun name hn => ?_,
          (hcontents file hlt).symm ▸ htext⟩
        by_cases heq : name = q.pidFile
        · subst heq
          obtain rfl := Option.some.inj (hnew.symm.trans hn)
          exact absurd hlt (Nat.lt_irrefl _)
        · exact honly name ((hnames name heq).symm.trans hn)
      · obtain ⟨file, hlt, hfile⟩ := h.reads hpoint
        exact ⟨file, Nat.lt_succ_of_lt hlt, hfile⟩
  · have hback (p' : Pid) (name : Str) (hname : name ≠ [])
        (h : ((s.create q.pidFile).put p
          { q with point := .fdopen, file := some s.used }).Owns p' name) :
        p' = p ∧ name = q.pidFile ∨ name ≠ q.pidFile ∧ s.Owns p' name := by
      by_cases hp' : p' = p
      · subst hp'
        exact Or.inl ⟨rfl, (System.owns_put_same.1 h).1.symm⟩
      · have h' : s.Owns p' name := (System.owns_put_of_ne hp').1 h
        refine Or.inr ⟨?_, h'⟩
        rintro rfl
        exact hs.names_of_owns hname h' hfree
    rintro p₁ p₂ name hname h₁ h₂
    rcases hback p₁ name hname h₁ with ⟨rfl, rfl⟩ | ⟨hne, h₁⟩
    · rcases hback p₂ _ hname h₂ with ⟨rfl, -⟩ | ⟨hne, -⟩
      · rfl
      · exact absurd rfl hne
    · rcases hback p₂ name hname h₂ with ⟨-, heq⟩ | ⟨-, h₂⟩
      · exact absurd heq hne
      · exact hs.unique p₁ p₂ name hname h₁ h₂

lemma kept_write {file : Nat} {text : Str} (hs : s.Kept) (hp : s.procs p = some q)
    (hpoint : q.point = .write) (hfile : q.file = some file) (htext : text <+: pidText p) :
    ((s.write file text).put p (q.returns 0)).Kept := by
  have hq : q.Created := created_of_point (Or.inl hpoint)
  have hgood := hs.good p q hp
  have hname : q.pidFile ≠ [] := hgood.named (by rw [hpoint]; rfl)
  obtain ⟨file', hfile', hnamed, honly, -⟩ := hgood.own hq hname
  obtain rfl := Option.some.inj (hfile.symm.trans hfile')
  have hcontents (file' : Nat) (hne : file' ≠ file) :
      (s.write file text).contents file' = s.contents file' := Function.update_of_ne hne ..
  have hwritten : (s.write file text).contents file = text := Function.update_self ..
  have howns : s.Owns p q.pidFile := ⟨q, hp, rfl, hq⟩
  refine ⟨hs.bound, fun file' hlt => ?_, fun p' r hr => ?_, ?_⟩
  · by_cases hne : file' = file
    · subst hne
      change Blocks ((s.write file' text).contents file')
      rw [hwritten]
      exact blocks_of_prefix (toNat_pid hgood.pos) htext
    · exact (hcontents file' hne).symm ▸ hs.blocks file' hlt
  · by_cases hp' : p' = p
    · subst hp'
      rw [System.put_same] at hr
      obtain rfl := Option.some.inj hr
      refine ⟨hgood.pos, nofun, fun _ _ => ⟨file, hfile, hnamed, honly, ?_⟩, nofun, fun h => ?_⟩
      · change (s.write file text).contents file <+: _
        rwa [hwritten]
      · exact absurd (hpoint.symm.trans (hgood.parent h)) nofun
    · rw [System.put_of_ne hp'] at hr
      have h := hs.good p' r hr
      refine ⟨h.pos, h.named, fun hr' hname' => ?_, h.reads, h.parent⟩
      obtain ⟨file', hfile', hnamed', honly', htext'⟩ := h.own hr' hname'
      refine ⟨file', hfile', hnamed', honly', ?_⟩
      have hne : file' ≠ file := by
        rintro rfl
        have heq : r.pidFile = q.pidFile := honly _ hnamed'
        exact hp' (hs.unique p' p q.pidFile hname ⟨r, hr, heq, hr'⟩ howns)
      exact (hcontents file' hne).symm ▸ htext'
  · have hback (p' : Pid) (name : Str)
        (h : ((s.write file text).put p (q.returns 0)).Owns p' name) : s.Owns p' name := by
      by_cases hp' : p' = p
      · subst hp'
        obtain ⟨rfl, -⟩ := System.owns_put_same.1 h
        exact howns
      · exact (System.owns_put_of_ne hp').1 h
    exact fun p₁ p₂ name hname h₁ h₂ =>
      hs.unique p₁ p₂ name hname (hback p₁ name h₁) (hback p₂ name h₂)

lemma kept_drop (hs : s.Kept) : (s.drop p).Kept where
  bound := hs.bound
  blocks := hs.blocks
  good := by
    intro p' r hr
    by_cases hp : p' = p
    · subst hp
      rw [System.drop_same] at hr
      exact nomatch hr
    · rw [System.drop_of_ne hp] at hr
      have h := hs.good p' r hr
      exact ⟨h.pos, h.named, h.own, h.reads, h.parent⟩
  unique := fun p₁ p₂ name hname h₁ h₂ =>
    hs.unique p₁ p₂ name hname (System.owns_of_drop h₁).2 (System.owns_of_drop h₂).2

/-- The file of a daemon is removed. -/
lemma kept_remove (hs : s.Kept) (hp : s.procs p = some q) (hpoint : q.point = .main) :
    ((s.unlink q.pidFile).drop p).Kept := by
  have howns : s.Owns p q.pidFile := ⟨q, hp, rfl, created_of_point (Or.inr hpoint)⟩
  have hnames (name : Str) (hne : name ≠ q.pidFile) :
      (s.unlink q.pidFile).names name = s.names name := Function.update_of_ne hne ..
  have hgone : (s.unlink q.pidFile).names q.pidFile = none := Function.update_self ..
  have hback (name : Str) (file : Nat) (h : (s.unlink q.pidFile).names name = some file) :
      s.names name = some file := by
    have hne : name ≠ q.pidFile := by
      rintro rfl
      rw [hgone] at h
      exact nomatch h
    rwa [hnames name hne] at h
  refine ⟨fun name file h => hs.bound name file (hback name file h), hs.blocks,
    fun p' r hr => ?_, ?_⟩
  · by_cases hp' : p' = p
    · subst hp'
      rw [System.drop_same] at hr
      exact nomatch hr
    · rw [System.drop_of_ne hp'] at hr
      have h := hs.good p' r hr
      refine ⟨h.pos, h.named, fun hr' hname => ?_, h.reads, h.parent⟩
      obtain ⟨file, hfile, hnamed, honly, htext⟩ := h.own hr' hname
      have hne : r.pidFile ≠ q.pidFile := by
        intro heq
        exact hp' (hs.unique p' p r.pidFile hname ⟨r, hr, rfl, hr'⟩ (heq ▸ howns))
      exact ⟨file, hfile, (hnames _ hne).trans hnamed,
        fun name hn => honly name (hback name file hn), htext⟩
  · intro p₁ p₂ name hname h₁ h₂
    exact hs.unique p₁ p₂ name hname (System.owns_of_drop h₁).2 (System.owns_of_drop h₂).2

lemma Effect.kept (hs : s.Kept) (h : Effect s s') : s'.Kept := by
  cases h with
  | put p q' hgood howns => exact kept_put hs hgood howns
  | create p q hp hfree hname hparent => exact kept_create hs hp hfree hname hparent
  | write p q file text hp hpoint hfile htext => exact kept_write hs hp hpoint hfile htext
  | drop p => exact kept_drop hs
  | remove p q hp hpoint => exact kept_remove hs hp hpoint

/-- Only who creates the file becomes its owner. -/
lemma Effect.owns (hname : name ≠ []) (h : Effect s s') (h' : s'.Owns p' name) :
    s.Owns p' name ∨ s.names name = none := by
  cases h with
  | put p q' _ howns =>
    by_cases hp : p' = p
    · subst hp
      obtain ⟨rfl, hq⟩ := System.owns_put_same.1 h'
      exact Or.inl (howns hq hname)
    · exact Or.inl ((System.owns_put_of_ne hp).1 h')
  | create p q _ hfree _ _ =>
    by_cases hp : p' = p
    · subst hp
      obtain ⟨rfl, -⟩ := System.owns_put_same.1 h'
      exact Or.inr hfree
    · exact Or.inl ((System.owns_put_of_ne hp).1 h')
  | write p q file text hp hpoint _ _ =>
    by_cases hp' : p' = p
    · subst hp'
      obtain ⟨rfl, -⟩ := System.owns_put_same.1 h'
      exact Or.inl ⟨q, hp, rfl, created_of_point (Or.inl hpoint)⟩
    · exact Or.inl ((System.owns_put_of_ne hp').1 h')
  | drop p => exact Or.inl (System.owns_of_drop h').2
  | remove p q _ _ => exact Or.inl (System.owns_of_drop h').2

/-- Only its owner removes it. -/
lemma Effect.names (h : Effect s s') (hfile : s.names name ≠ none) :
    s'.names name ≠ none ∨ ∃ p, s.Owns p name := by
  cases h with
  | put | write | drop => exact Or.inl hfile
  | create p q _ hfree _ _ =>
    have hne : name ≠ q.pidFile := by
      rintro rfl
      exact hfile hfree
    exact Or.inl fun h' => hfile ((Function.update_of_ne hne ..).symm.trans h')
  | remove p q hp hpoint =>
    by_cases hne : name = q.pidFile
    · exact Or.inr ⟨p, q, hp, hne.symm, created_of_point (Or.inr hpoint)⟩
    · exact Or.inl fun h' => hfile ((Function.update_of_ne hne ..).symm.trans h')

/-- Nobody gets a file that is stale. -/
lemma Effect.stale (hname : name ≠ []) (h : Effect s s') (hstale : s.Stale name) :
    s'.Stale name where
  exists_file := (h.names hstale.exists_file).resolve_right fun ⟨p, hp⟩ => hstale.not_owns p hp
  not_owns := fun p hp => by
    rcases h.owns hname hp with hp | hfree
    · exact hstale.not_owns p hp
    · exact hstale.exists_file hfree

/-- An owner that has gone without removing its file leaves it stale. -/
lemma Effect.stale_of_lost (hs : s.Kept) (hname : name ≠ []) (h : Effect s s')
    (hp : s.Owns p name) (hlost : ¬ s'.Owns p name) (hfile : s'.names name ≠ none) :
    s'.Stale name where
  exists_file := hfile
  not_owns := fun p' hp' => by
    rcases h.owns hname hp' with hp'' | hfree
    · obtain rfl := hs.unique p p' name hname hp hp''
      exact hlost hp'
    · exact hs.names_of_owns hname hp hfree

/-! ### Every step has such an effect -/

/-- A process goes on without creating or writing the file. -/
lemma effect_goto (hs : s.Kept) (hp : s.procs p = some q) (hfile : q'.pidFile = q.pidFile)
    (hcreated : q'.Created → q.Created ∧ q'.file = q.file)
    (hnamed : q'.point.storing = true → q.point.storing = true)
    (hreads : q'.point = .fscanf → ∃ file < s.used, q'.file = some file)
    (hparent : q'.parentPid = p → q'.point = .main) : Effect s (s.put p q') := by
  have hgood := hs.good p q hp
  refine .put p q' ⟨hgood.pos, fun h => hfile ▸ hgood.named (hnamed h), fun h hname => ?_,
    hreads, hparent⟩ fun h hname => ?_
  · obtain ⟨hq, heq⟩ := hcreated h
    rw [heq, hfile]
    exact hgood.own hq (hfile ▸ hname)
  · exact ⟨q, hp, hfile.symm, (hcreated h).1⟩

lemma effect_returns (hs : s.Kept) (hp : s.procs p = some q) {oldpid : Int}
    (hblocks : truncated oldpid ≠ 0) (hpoint : q.point ≠ .main) :
    Effect s (s.put p (q.returns oldpid)) := by
  refine effect_goto hs hp rfl ?_ nofun nofun fun h => absurd ((hs.good p q hp).parent h) hpoint
  rintro (h | ⟨-, h⟩)
  · exact nomatch h
  · exact absurd h hblocks

lemma effect_openExclusive (hs : s.Kept) (hp : s.procs p = some q)
    (hpoint : q.point = .create ∨ q.point = .recreate) : Effect s (openExclusive s p q) := by
  have hgood := hs.good p q hp
  have hstoring : q.point.storing = true := by rcases hpoint with h | h <;> (rw [h]; rfl)
  have hmain : q.point ≠ .main := by rcases hpoint with h | h <;> (rw [h]; nofun)
  have hparent (h : q.parentPid = p) : False := hmain (hgood.parent h)
  unfold openExclusive
  split
  · next hfree => exact .create p q hp hfree (hgood.named hstoring) hparent
  · refine effect_goto hs hp rfl ?_ (fun _ => hstoring) nofun fun h => (hparent h).elim
    rintro (h | ⟨h, -⟩) <;> exact nomatch h

lemma effect_run (hs : s.Kept) (hp : s.procs p = some q) (hrun : q.run s p answer = some s') :
    Effect s s' := by
  have hgood := hs.good p q hp
  have hminus : truncated (-1) ≠ 0 := by decide
  have hmain (point : Point) (hpoint : q.point = point) (hne : point ≠ .main) :
      q.point ≠ .main := hpoint ▸ hne
  have hparent (point : Point) (hpoint : q.point = point) (hne : point ≠ .main)
      (h : q.parentPid = p) : False := hmain point hpoint hne (hgood.parent h)
  have hfails (point : Point) (hpoint : q.point = point) (hne : point ≠ .main) :
      Effect s (s.put p (q.returns (-1))) := effect_returns hs hp hminus (hmain point hpoint hne)
  unfold Process.run at hrun
  split at hrun
  case h_1 hpoint =>
    split at hrun <;> obtain rfl := Option.some.inj hrun
    · exact effect_openExclusive hs hp (Or.inl hpoint)
    · refine effect_goto hs hp rfl ?_ (fun _ => by rw [hpoint]; rfl) nofun
        fun h => (hparent _ hpoint nofun h).elim
      rintro (h | ⟨h, -⟩) <;> exact nomatch h
    · exact hfails _ hpoint nofun
  case h_2 hpoint =>
    obtain rfl := Option.some.inj hrun
    refine effect_goto hs hp rfl ?_ (fun _ => by rw [hpoint]; rfl) nofun
      fun h => (hparent _ hpoint nofun h).elim
    rintro (h | ⟨h, -⟩) <;> exact nomatch h
  case h_3 hpoint =>
    split at hrun <;> obtain rfl := Option.some.inj hrun
    · exact effect_openExclusive hs hp (Or.inr hpoint)
    · exact hfails _ hpoint nofun
  case h_4 hpoint =>
    split at hrun
    · next file hfile =>
      obtain rfl := Option.some.inj hrun
      refine effect_goto hs hp rfl ?_ (fun _ => by rw [hpoint]; rfl)
        (fun _ => ⟨file, hs.bound _ _ hfile, rfl⟩) fun h => (hparent _ hpoint nofun h).elim
      rintro (h | ⟨h, -⟩) <;> exact nomatch h
    · obtain rfl := Option.some.inj hrun
      exact hfails _ hpoint nofun
  case h_5 hpoint =>
    obtain ⟨file, hfile, rfl⟩ := Option.map_eq_some_iff.1 hrun
    obtain ⟨file', hlt, hfile'⟩ := hgood.reads hpoint
    obtain rfl := Option.some.inj (hfile.symm.trans hfile')
    exact effect_returns hs hp (hs.blocks file hlt) (hmain _ hpoint nofun)
  case h_6 hpoint =>
    split at hrun <;> obtain rfl := Option.some.inj hrun
    · exact effect_goto hs hp rfl (fun _ => ⟨Or.inl (by rw [hpoint]; rfl), rfl⟩)
        (fun _ => by rw [hpoint]; rfl) nofun fun h => (hparent _ hpoint nofun h).elim
    · exact hfails _ hpoint nofun
  case h_7 hpoint =>
    split at hrun
    · obtain ⟨file, hfile, rfl⟩ := Option.map_eq_some_iff.1 hrun
      exact .write p q file _ hp hpoint hfile List.prefix_rfl
    · obtain ⟨file, hfile, rfl⟩ := Option.map_eq_some_iff.1 hrun
      exact .write p q file _ hp hpoint hfile (List.take_prefix _ _)
    · obtain rfl := Option.some.inj hrun
      exact hfails _ hpoint nofun
  case h_8 hpoint =>
    split at hrun <;> obtain rfl := Option.some.inj hrun
    · next htest =>
      exact effect_goto hs hp rfl (fun _ => ⟨Or.inr ⟨hpoint, htest⟩, rfl⟩) nofun nofun
        fun h => (hparent _ hpoint nofun h).elim
    · exact .drop p
  case h_9 hpoint =>
    obtain rfl := Option.some.inj hrun
    exact effect_goto hs hp rfl (fun _ => ⟨Or.inl (by rw [hpoint]; rfl), rfl⟩) nofun nofun
      fun h => (hparent _ hpoint nofun h).elim
  case h_10 hpoint =>
    obtain rfl := Option.some.inj hrun
    exact effect_goto hs hp rfl (fun _ => ⟨Or.inl (by rw [hpoint]; rfl), rfl⟩) nofun nofun
      fun _ => rfl
  case h_11 => exact nomatch hrun
  case h_12 => exact nomatch hrun

lemma effect_start {pidFile : Str} (hp : 0 < p ∧ p < 2 ^ 31)
    (hparent : (Process.start pidFile).parentPid ≠ p) : Effect s (s.put p (.start pidFile)) := by
  by_cases hname : pidFile = []
  · have hpoint : (Process.start pidFile).point = .check := if_pos hname
    have hstoring : (Process.start pidFile).point.storing = false := by rw [hpoint]; rfl
    exact .put p _ ⟨hp, fun h => absurd (hstoring.symm.trans h) nofun, fun _ h => absurd hname h,
      fun h => absurd (hpoint.symm.trans h) nofun, fun h => absurd h hparent⟩
      fun _ h => absurd hname h
  · have hpoint : (Process.start pidFile).point = .create := if_neg hname
    have hcreated : ¬ (Process.start pidFile).Created := by
      rintro (h | ⟨h, -⟩) <;> (rw [hpoint] at h; exact nomatch h)
    exact .put p _ ⟨hp, fun _ => hname, fun h => absurd h hcreated,
      fun h => absurd (hpoint.symm.trans h) nofun, fun h => absurd h hparent⟩
      fun h => absurd h hcreated

/-- Every step of a careful run. -/
lemma effect_next (hs : s.Kept) (hnext : i.next s = some s')
    (hcareful : careful ⟨s, i, s'⟩ = true) : Effect s s' := by
  cases i with
  | start p pidFile =>
    simp only [Act.next] at hnext
    split at hnext
    · next hp =>
      obtain rfl := Option.some.inj hnext
      have hparent : (Process.start pidFile).parentPid ≠ p := fun h => by
        have hneg : p = -1 := h.symm
        rw [hneg] at hp
        exact absurd hp.1.1 (by decide)
      exact effect_start hp.1 hparent
    · cases hnext
  | run p answer =>
    obtain ⟨q, hp, hrun⟩ := Option.bind_eq_some_iff.1 hnext
    exact effect_run hs hp hrun
  | fork p child =>
    simp only [Act.next] at hnext
    split at hnext
    · next hchild =>
      obtain ⟨q, hp, rfl⟩ := Option.map_eq_some_iff.1 hnext
      have hparent : q.parentPid ≠ child := by simpa [careful, hp] using hcareful
      have hcreated : ¬ (q.goto .child).Created := by
        rintro (h | ⟨h, -⟩) <;> exact nomatch h
      exact .put child _ ⟨hchild.1, nofun, fun h => absurd h hcreated, nofun,
        fun h => absurd h hparent⟩ fun h => absurd h hcreated
    · cases hnext
  | reload p pidFile =>
    obtain ⟨q, hp, hload⟩ := Option.bind_eq_some_iff.1 hnext
    split at hload
    · next hpoint =>
      obtain rfl := Option.some.inj hload
      have hfile : q.pidFile = pidFile := by simpa [careful, hp] using hcareful
      exact effect_goto hs hp hfile.symm (fun h => ⟨h, rfl⟩) id
        (fun h => absurd (hpoint.symm.trans h) nofun) fun _ => hpoint
    · cases hload
  | exit p =>
    obtain ⟨q, hp, rfl⟩ := Option.map_eq_some_iff.1 hnext
    by_cases hexit : q.atexit = true ∧ q.parentPid = p
    · rw [if_pos hexit.1, removePid, if_pos hexit.2]
      exact .remove p q hp ((hs.good p q hp).parent hexit.2)
    · have hnone : (if q.atexit = true then removePid s p q else s) = s := by
        split
        · next hatexit => exact if_neg fun h => hexit ⟨hatexit, h⟩
        · rfl
      rw [hnone]
      exact .drop p
  | kill p =>
    obtain ⟨q, hp, rfl⟩ := Option.map_eq_some_iff.1 hnext
    exact .drop p

/-! ### Runs -/

variable {names : Str → Option Nat} {contents : Nat → Str} {used : Nat}
  {h h₁ h₂ : List (Step System Act)} {x : Step System Act}

lemma kept_initial (hbound : ∀ name file, names name = some file → file < used)
    (hblocks : ∀ file < used, Blocks (contents file)) :
    (System.initial names contents used).Kept where
  bound := hbound
  blocks := hblocks
  good := nofun
  unique := fun _ _ _ _ h => nomatch h.choose_spec.1

lemma kept_of_run (hbound : ∀ name file, names name = some file → file < used)
    (hblocks : ∀ file < used, Blocks (contents file)) (run : PidRun names contents used h s)
    (hcareful : ∀ x ∈ h, careful x = true) : s.Kept :=
  run.invariant_of (C := fun x => careful x = true) (I := fun _ s => s.Kept)
    (kept_initial hbound hblocks)
    (fun _ _ _ _ _ hs hstep hx => (effect_next hs (next_of_step hstep) hx).kept hs) hcareful

/-- If no existing file reads as zero for `main`, no daemon reads another name for its file from
the configuration, and no process gets the process id of a daemon that has forked it or one of
the processes it comes from, then at most one daemon has gone on with a file, and it is the file
that this daemon has created and opened, with nothing but its process id in it. -/
theorem pid_exclusive (hbound : ∀ name file, names name = some file → file < used)
    (hblocks : ∀ file < used, Blocks (contents file)) (run : PidRun names contents used h s)
    (hcareful : ∀ x ∈ h, careful x = true) (hname : name ≠ []) (hp : s.Holds p name) :
    (∀ p', s.Holds p' name → p' = p) ∧
      ∃ q file, s.procs p = some q ∧ q.file = some file ∧ s.names name = some file ∧
        s.contents file <+: pidText p := by
  have hs := kept_of_run hbound hblocks run hcareful
  refine ⟨fun p' hp' => hs.unique p' p name hname (owns_of_holds hp') (owns_of_holds hp), ?_⟩
  obtain ⟨q, hq, rfl, hcreated⟩ := owns_of_holds hp
  obtain ⟨file, hown, hfile, -, htext⟩ := hs.own hq hcreated hname
  exact ⟨q, file, hq, hown, hfile, htext⟩

/-- A daemon goes on; another one is started with the same name, reads the process id and ends. -/
theorem pid_exclusive_second : ∃ (h : List (Step System Act)) (s : System),
    PidRun (fun _ => none) (fun _ => []) 0 h s ∧ .exit 100 ∉ h.map Step.input ∧
      (.start 200 ['p'] : Act) ∈ h.map Step.input ∧ s.Holds 100 ['p'] ∧
      ∀ p', s.Holds p' ['p'] → p' = 100 := by
  obtain ⟨h, s, run, hinputs, hcareful, hholds⟩ :
      ∃ h s, PidRun (fun _ => none) (fun _ => []) 0 h s ∧
        (.exit 100 ∉ h.map Step.input ∧ (.start 200 ['p'] : Act) ∈ h.map Step.input) ∧
        (∀ x ∈ h, careful x = true) ∧
        (s.procs 100).any (fun q => q.pidFile = ['p'] ∧ q.point.holds = true) = true :=
    exists_run_of_exec
      [.start 100 ['p'], .start 200 ['p'], .run 100 .noEntry, .run 100 .granted,
        .run 100 .granted, .run 200 .granted, .run 100 .granted, .run 100 .granted,
        .run 200 .granted, .run 200 .granted, .run 200 .granted, .run 100 .granted,
        .run 100 .granted] (by decide +kernel)
  obtain ⟨q, hq, htest⟩ := (Option.any_eq_true _ _).1 hholds
  obtain ⟨hfile, hpoint⟩ := of_decide_eq_true htest
  have hp : s.Holds 100 ['p'] := ⟨q, hq, hfile, hpoint⟩
  have hexclusive := pid_exclusive (fun _ _ h => absurd h (Option.some_ne_none _).symm)
    (fun file h => absurd h (Nat.not_lt_zero file)) run hcareful (List.cons_ne_nil 'p' []) hp
  exact ⟨h, s, run, hinputs.1, hinputs.2, hp, hexclusive.1⟩

/-- A daemon that has created the file loses it without removing it: it fails, it is killed, or
`exit` is called before `parent_pid` is set.  Then the file stays, and no daemon ever goes on
with it. -/
theorem pid_abandoned (hbound : ∀ name file, names name = some file → file < used)
    (hblocks : ∀ file < used, Blocks (contents file))
    (run : PidRun names contents used (h₁ ++ x :: h₂) s)
    (hcareful : ∀ y ∈ h₁ ++ x :: h₂, careful y = true) (hname : name ≠ [])
    (hp : x.pre.Owns p name) (hlost : ¬ x.post.Owns p name) (hfile : x.post.names name ≠ none) :
    s.names name ≠ none ∧ ∀ p', ¬ s.Holds p' name := by
  obtain ⟨hrun, hstep⟩ := run.before
  have hpre : x.pre.Kept :=
    kept_of_run hbound hblocks hrun fun y hy => hcareful y (List.mem_append_left _ hy)
  have hx : Effect x.pre x.post :=
    effect_next hpre (next_of_step hstep) (hcareful x (by simp))
  have hstale : s.Stale name ∧ s.Kept := by
    refine run.after (P := fun _ t => t.Stale name ∧ t.Kept)
      ⟨hx.stale_of_lost hpre hname hp hlost hfile, hx.kept hpre⟩ fun l y hy ⟨hst, hk⟩ hy' => ?_
    have hmem : y ∈ h₁ ++ x :: h₂ := List.mem_append_right _ (List.mem_cons_of_mem x hy)
    have hey := effect_next hk (next_of_step hy') (hcareful y hmem)
    exact ⟨hey.stale hname hst, hey.kept hk⟩
  exact ⟨hstale.1.exists_file, fun p' hp' => hstale.1.not_owns p' (owns_of_holds hp')⟩

/-- A daemon is killed; another one finds its file, reads its process id and ends. -/
theorem pid_abandoned_killed : ∃ (h : List (Step System Act)) (s : System),
    PidRun (fun _ => none) (fun _ => []) 0 h s ∧ (.kill 100 : Act) ∈ h.map Step.input ∧
      s.names ['p'] ≠ none ∧ ∀ p', ¬ s.Holds p' ['p'] := by
  obtain ⟨h, s, run, hinputs, hcareful, x, hx, hholds, hgone, hfile⟩ :
      ∃ h s, PidRun (fun _ => none) (fun _ => []) 0 h s ∧
        (.kill 100 : Act) ∈ h.map Step.input ∧ (∀ x ∈ h, careful x = true) ∧
        ∃ x ∈ h, (x.pre.procs 100).any (fun q => q.pidFile = ['p'] ∧ q.point.holds = true) = true ∧
          x.post.procs 100 = none ∧ x.post.names ['p'] ≠ none :=
    exists_run_of_exec
      [.start 100 ['p'], .run 100 .granted, .run 100 .granted, .run 100 .granted,
        .run 100 .granted, .run 100 .granted, .run 100 .granted, .kill 100, .start 200 ['p'],
        .run 200 .granted, .run 200 .granted, .run 200 .granted, .run 200 .granted]
      (by decide +kernel)
  obtain ⟨h₁, h₂, rfl⟩ := List.append_of_mem hx
  obtain ⟨q, hq, htest⟩ := (Option.any_eq_true _ _).1 hholds
  obtain ⟨hname, hpoint⟩ := of_decide_eq_true htest
  have hlost : ¬ x.post.Owns 100 ['p'] := by
    rintro ⟨r, hr, -⟩
    exact absurd (hgone.symm.trans hr) nofun
  exact ⟨_, s, run, hinputs, pid_abandoned (fun _ _ h => absurd h (Option.some_ne_none _).symm)
    (fun file h => absurd h (Nat.not_lt_zero file)) run hcareful (List.cons_ne_nil 'p' [])
    (owns_of_holds ⟨q, hq, hname, hpoint⟩) hlost hfile⟩

end PidFile

end Xdm
