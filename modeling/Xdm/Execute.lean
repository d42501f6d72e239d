/-
# Executing a program

`execute` (`xdm/session.c`) replaces the process by a program.  If the kernel does not execute the
file although it is there, `execute` emulates what a kernel does with a script: it reads the first
line, which may name an interpreter and one argument, and executes that, or else the shell.

* `interpreter_iff`: the lines that name an interpreter and an argument;
* `execute_iff`: the program that is executed in the end.
-/
import Mathlib.Data.List.TakeWhile
import Xdm.File

namespace Xdm

/-! ### The first line of a script -/

/-- `fgets`, with a buffer for `n` characters and the NUL. -/
def fgets : Nat → Str → Str
  | 0, _ => []
  | _ + 1, [] => []
  | n + 1, c :: s => if c = '\n' then [c] else c :: fgets n s

/-- A C string ends at the first NUL. -/
def cString (s : Str) : Str := s.takeWhile (· ≠ '\x00')

def chopNewline (program : Str) : Str :=
  if program.getLast? = some '\n' then program.dropLast else program

/-- `program`, when the first line has been read, unless there is none. -/
def readProgram (file : Str) : Option Str :=
  if file = [] then none
  else
    let program := cString (fgets 1022 file)
    if program = [] then none else some (chopNewline program)

/-- The name at `p`, and what is behind it and the blanks. -/
def splitName (p : Str) : Str × Option Str :=
  match p.dropWhile (!isSpace ·) with
  | [] => (p.takeWhile (!isSpace ·), none)
  | _ :: optarg => (p.takeWhile (!isSpace ·), some (optarg.dropWhile isSpace))

/-- `p` and `optarg` -/
def interpreter (program : Str) : Str × Option Str :=
  if program.take 2 = "#!".toList then splitName ((program.drop 2).dropWhile isSpace)
  else ("/bin/sh".toList, none)

/-! ### `execute` -/

/-- The errors of `execve` -/
inductive ExecError
  | enoent
  | other
deriving DecidableEq

/-- What the kernel and the library answer: the errors of the two calls of `execve`, if they fail,
the text of the file, if it can be opened, and whether `calloc` succeeds. -/
structure ExecAnswers where
  execve : Option ExecError
  file : Option Str
  calloc : Bool
  interpreted : Option ExecError

/-- `newargv` -/
def scriptArgs (program : Str) (argv : List Str) : List Str :=
  (interpreter program).1 :: (interpreter program).2.toList ++ argv

/-- The arguments of each call of `execve`, and its error. -/
def execute (a : ExecAnswers) (argv : List Str) : List (List Str × Option ExecError) :=
  (argv, a.execve) ::
    match a.execve, a.file.bind readProgram with
    | some .other, some program =>
      if a.calloc then [(scriptArgs program argv, a.interpreted)] else []
    | _, _ => []

/-- The program that replaces the process, with its arguments, unless `execute` returns. -/
def executed (calls : List (List Str × Option ExecError)) : Option (List Str) :=
  (calls.find? fun call => call.2.isNone).map Prod.fst

/-! ### The interpreter -/

/-- The lines that name an interpreter, and perhaps an argument: it is all that is behind the
blanks after the name, and may be empty.  Any other line is for the shell. -/
inductive ScriptLine : Str → Str → Option Str → Prop
  | alone {blanks name : Str} (hblanks : ∀ c ∈ blanks, isSpace c = true)
      (hname : ∀ c ∈ name, isSpace c = false) :
      ScriptLine ("#!".toList ++ (blanks ++ name)) name none
  | argument {blanks name gap word : Str} (hblanks : ∀ c ∈ blanks, isSpace c = true)
      (hname : ∀ c ∈ name, isSpace c = false) (hnonempty : name ≠ [])
      (hgap : ∀ c ∈ gap, isSpace c = true) (hne : gap ≠ [])
      (hword : ∀ c ∈ word.head?, isSpace c = false) :
      ScriptLine ("#!".toList ++ (blanks ++ (name ++ (gap ++ word)))) name (some word)
  | shell {line : Str} (hline : line.take 2 ≠ "#!".toList) : ScriptLine line "/bin/sh".toList none

variable {line name : Str} {arg : Option Str}

/-- A stretch of characters that satisfy `p` ends before one that does not. -/
lemma span_append {p : Char → Bool} {s t : Str} (hs : ∀ c ∈ s, p c = true)
    (ht : ∀ c ∈ t.head?, p c = false) :
    (s ++ t).takeWhile p = s ∧ (s ++ t).dropWhile p = t := by
  rw [List.takeWhile_append_of_pos hs, List.dropWhile_append_of_pos hs]
  cases t with
  | nil => exact ⟨List.append_nil s, rfl⟩
  | cons c t =>
    have hc : ¬ p c = true := Bool.not_eq_true _ ▸ ht c rfl
    exact ⟨by rw [List.takeWhile_cons_of_neg hc, List.append_nil], List.dropWhile_cons_of_neg hc⟩

lemma head_dropWhile {p : Char → Bool} (s : Str) : ∀ c ∈ (s.dropWhile p).head?, p c = false := by
  intro c hc
  have h := List.head?_dropWhile_not p s
  rw [Option.mem_def.1 hc] at h
  exact h

lemma interpreter_script (s : Str) :
    interpreter ("#!".toList ++ s) = splitName (s.dropWhile isSpace) := rfl

lemma interpreter_of_scriptLine (h : ScriptLine line name arg) :
    interpreter line = (name, arg) := by
  cases h with
  | alone hblanks hname =>
    have hhead : ∀ c ∈ name.head?, isSpace c = false := fun c hc =>
      hname c (List.mem_of_mem_head? hc)
    have hstretch := span_append (p := fun c => !isSpace c) (s := name) (t := [])
      (by simpa using hname) (by simp)
    rw [List.append_nil] at hstretch
    rw [interpreter_script, (span_append hblanks hhead).2, splitName, hstretch.2, hstretch.1]
  | argument hblanks hname hnonempty hgap hne hword =>
    rename_i blanks gap word
    have hhead : ∀ c ∈ (name ++ (gap ++ word)).head?, isSpace c = false := by
      intro c hc
      rw [List.head?_append_of_ne_nil _ hnonempty] at hc
      exact hname c (List.mem_of_mem_head? hc)
    have hgapHead : ∀ c ∈ (gap ++ word).head?, (!isSpace c) = false := by
      intro c hc
      rw [List.head?_append_of_ne_nil _ hne] at hc
      rw [hgap c (List.mem_of_mem_head? hc)]
      rfl
    have hstretch := span_append (p := fun c => !isSpace c) (by simpa using hname) hgapHead
    obtain ⟨b, gap, rfl⟩ := List.exists_cons_of_ne_nil hne
    have hrest := span_append (fun c hc => hgap c (List.mem_cons_of_mem _ hc)) hword
    rw [interpreter_script, (span_append hblanks hhead).2, splitName, hstretch.2, hstretch.1]
    exact congrArg (fun word => (name, some word)) hrest.2
  | shell hline => exact if_neg hline

lemma scriptLine_splitName {blanks rest : Str} (hblanks : ∀ c ∈ blanks, isSpace c = true)
    (hrest : ∀ c ∈ rest.head?, isSpace c = false) :
    ScriptLine ("#!".toList ++ (blanks ++ rest)) (splitName rest).1 (splitName rest).2 := by
  have hsplit := List.takeWhile_append_dropWhile (p := fun c => !isSpace c) (l := rest)
  have hname : ∀ c ∈ rest.takeWhile (!isSpace ·), isSpace c = false := fun c hc => by
    simpa using List.mem_takeWhile_imp hc
  unfold splitName
  cases htail : rest.dropWhile (!isSpace ·) with
  | nil =>
    rw [htail, List.append_nil] at hsplit
    rw [hsplit] at hname ⊢
    exact .alone hblanks hname
  | cons b optarg =>
    rw [htail] at hsplit
    have hb : isSpace b = true := by
      have h := head_dropWhile (p := fun c => !isSpace c) rest b
      rw [htail] at h
      simpa using h rfl
    have hnonempty : rest.takeWhile (!isSpace ·) ≠ [] := by
      intro hempty
      rw [hempty, List.nil_append] at hsplit
      have h := hrest b (hsplit ▸ rfl)
      rw [hb] at h
      cases h
    have hgap : ∀ c ∈ b :: optarg.takeWhile isSpace, isSpace c = true :=
      List.forall_mem_cons.2 ⟨hb, fun c hc => List.mem_takeWhile_imp hc⟩
    have h := ScriptLine.argument hblanks hname hnonempty hgap (List.cons_ne_nil _ _)
      (head_dropWhile optarg)
    rw [List.cons_append, List.takeWhile_append_dropWhile, hsplit] at h
    exact h

lemma scriptLine_interpreter (line : Str) :
    ScriptLine line (interpreter line).1 (interpreter line).2 := by
  unfold interpreter
  split
  · next hscript =>
    have hblanks : ∀ c ∈ (line.drop 2).takeWhile isSpace, isSpace c = true := fun c hc =>
      List.mem_takeWhile_imp hc
    have h := scriptLine_splitName hblanks (head_dropWhile (line.drop 2))
    rwa [List.takeWhile_append_dropWhile, ← hscript, List.take_append_drop] at h
  · next hline => exact .shell hline

/-- For every line: it names exactly the interpreter and the argument with which it is of one of
these shapes. -/
theorem interpreter_iff (line name : Str) (arg : Option Str) :
    interpreter line = (name, arg) ↔ ScriptLine line name arg := by
  refine ⟨fun h => ?_, interpreter_of_scriptLine⟩
  have hline := scriptLine_interpreter line
  rwa [h] at hline

/-- What is behind the name is an argument, even if it is empty: here because the line ends in a
carriage return. -/
example : interpreter "#!/bin/sh\r".toList = ("/bin/sh".toList, some []) := by decide

/-! ### The program -/

/-- The first line of a file, of which at most 1022 characters are read, up to a NUL. -/
def firstLine (file : Str) : Str := cString ((file.takeWhile (· ≠ '\n')).take 1022)

lemma cString_cons {c : Char} (hc : c ≠ '\x00') (s : Str) : cString (c :: s) = c :: cString s :=
  List.takeWhile_cons_of_pos (by simpa using hc)

lemma chopNewline_cons {c : Char} (hc : c ≠ '\n') (s : Str) :
    chopNewline (c :: s) = c :: chopNewline s := by
  unfold chopNewline
  cases s with
  | nil => simp [hc]
  | cons d s =>
    rw [List.getLast?_cons_cons, List.dropLast_cons_of_ne_nil (List.cons_ne_nil _ _)]
    split <;> rfl

lemma chopNewline_fgets (n : Nat) (s : Str) :
    chopNewline (cString (fgets n s)) = cString ((s.takeWhile (· ≠ '\n')).take n) := by
  induction n generalizing s with
  | zero => rfl
  | succ n ih =>
    cases s with
    | nil => rfl
    | cons c s =>
      by_cases hc : c = '\n'
      · subst hc
        rfl
      · rw [fgets, if_neg hc, List.takeWhile_cons_of_pos (by simpa using hc), List.take_succ_cons]
        by_cases hnul : c = '\x00'
        · subst hnul
          rfl
        · rw [cString_cons hnul, cString_cons hnul, chopNewline_cons hc, ih]

/-- Nothing is read of a file that is empty or starts with a NUL. -/
lemma readProgram_eq_some {file line : Str} : readProgram file = some line ↔
    (∃ c ∈ file.head?, c ≠ '\x00') ∧ firstLine file = line := by
  unfold readProgram firstLine
  cases file with
  | nil => simp
  | cons c s =>
    rw [if_neg (List.cons_ne_nil _ _)]
    by_cases hc : c = '\x00'
    · subst hc
      simp [fgets, cString]
    · have hne : cString (fgets 1022 (c :: s)) ≠ [] := by
        rw [fgets]
        split
        · next hnewline =>
          subst hnewline
          decide
        · simp [cString, hc]
      simp only [if_neg hne, chopNewline_fgets]
      simp [hc]

/-- The calls, if the kernel refuses to execute the file. -/
lemma executed_script {a : ExecAnswers} {argv args : List Str} (hexecve : a.execve = some .other) :
    executed (execute a argv) = some args ↔ a.calloc = true ∧ a.interpreted = none ∧
      ∃ file line, a.file = some file ∧ readProgram file = some line ∧
        args = scriptArgs line argv := by
  unfold execute executed
  cases hfile : a.file.bind readProgram with
  | none =>
    refine iff_of_false (by simp [hexecve]) ?_
    rintro ⟨-, -, file, line, h, hline, -⟩
    rw [h, Option.bind_some, hline] at hfile
    cases hfile
  | some line =>
    obtain ⟨file, h, hline⟩ := Option.bind_eq_some_iff.1 hfile
    rw [hexecve, h]
    cases a.calloc <;> cases a.interpreted <;> simp [hline, eq_comm]

/-- For all answers: the program that replaces the process is the one given, or the kernel has
refused to execute its file for an error other than `ENOENT`, and the first line names the one that
is executed instead, with the argument of the line, if it has one, in front of the others. -/
theorem execute_iff (a : ExecAnswers) (argv args : List Str) :
    executed (execute a argv) = some args ↔
      a.execve = none ∧ args = argv ∨
      a.execve = some .other ∧ a.calloc = true ∧ a.interpreted = none ∧
        ∃ file name arg, a.file = some file ∧ (∃ c ∈ file.head?, c ≠ '\x00') ∧
          ScriptLine (firstLine file) name arg ∧ args = name :: arg.toList ++ argv := by
  cases hexecve : a.execve with
  | none =>
    have h : executed (execute a argv) = some argv := by simp [execute, executed, hexecve]
    rw [h, Option.some_inj]
    constructor
    · rintro rfl
      exact Or.inl ⟨rfl, rfl⟩
    · rintro (⟨-, rfl⟩ | ⟨h, -⟩)
      · rfl
      · cases h
  | some error =>
    cases error with
    | enoent => simp [execute, executed, hexecve]
    | other =>
      rw [executed_script hexecve]
      constructor
      · rintro ⟨hcalloc, hnone, file, line, hfile, hline, rfl⟩
        obtain ⟨hhead, rfl⟩ := readProgram_eq_some.1 hline
        exact Or.inr ⟨rfl, hcalloc, hnone, file, _, _, hfile, hhead, scriptLine_interpreter _, rfl⟩
      · rintro (⟨h, -⟩ | ⟨-, hcalloc, hnone, file, name, arg, hfile, hhead, hline, rfl⟩)
        · cases h
        · refine ⟨hcalloc, hnone, file, _, hfile, readProgram_eq_some.2 ⟨hhead, rfl⟩, ?_⟩
          rw [scriptArgs, interpreter_of_scriptLine hline]

end Xdm
