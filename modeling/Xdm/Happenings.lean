/-
# Scans of the servers file and deaths of children

The operations that scan the servers file and react to deaths are put together from a few
parts: the scan, the end of one child, and `StartDisplays`.  Here the parts are the steps of a
machine, so that a run has them in any order, and every run of the daemon with these operations
is one of its runs.
-/
import Xdm.Unique

namespace Xdm

open Prog

variable {config : Config} {g : Nat} {s s' : State} {i : Input}

/-! ### The machine -/

/-- What happens to the list while the servers file is scanned and children die. -/
inductive Happening
  /-- An operation begins; the answers of the kernel come with it. -/
  | begins (i : Input)
  /-- The scan at the start of the daemon. -/
  | firstScan (w : World)
  /-- What `RescanServers` does before `StartDisplays`. -/
  | rescan (w : World)
  /-- A child is waited for; with `autoRescan` a file that has changed is read first. -/
  | child (e : Exit)
  | starts (w : World)

def Happening.perform : Happening → M Unit
  | .begins i => modify (State.begin i)
  | .firstScan w => do
    loadConfig w
    loadDatabase w
    scanServers w
  | .rescan w => do
    forEachDisplay markDisplay
    loadConfig w
    scanServers w
    loadDatabase w
  | .child e => childEnded e
  | .starts w => startDisplays w

/-- Scans and deaths in any order. -/
abbrev HappeningRun (config : Config) (globalSessionID : Nat) :
    List (Prog.Step State Happening) → State → Prop :=
  Prog.Run Happening.perform (State.initial config globalSessionID)

/-! ### The operations -/

/-- The parts of an operation that scans the servers file or reacts to deaths. -/
def Input.happenings? : Input → Option (List Happening)
  | .startUp w => some [.firstScan w, .starts w]
  | .rescanServers w => some [.rescan w, .starts w]
  | .waitForChild w exits => some (exits.map Happening.child ++ [.starts w])
  | .startDisplays w => some [.starts w]
  | _ => none

lemma operation_happenings {es : List Happening} (hi : i.happenings? = some es) :
    i.operation = es.forM Happening.perform := by
  cases i with
  | startUp w =>
    obtain rfl := Option.some.inj hi
    simp [Input.operation, startUp, Happening.perform]
  | rescanServers w =>
    obtain rfl := Option.some.inj hi
    simp [Input.operation, rescanServers, Happening.perform]
  | waitForChild w exits =>
    obtain rfl := Option.some.inj hi
    simp [Input.operation, waitForChild, Happening.perform, List.forM_append]
  | startDisplays w =>
    obtain rfl := Option.some.inj hi
    simp [Input.operation, Happening.perform]
  | _ => cases hi

/-- What happens in a step of the daemon. -/
def Input.happenings (i : Input) : List Happening := .begins i :: i.happenings?.getD []

lemma step_happenings (hi : i.happenings?.isSome = true) (hstep : step i s = some ((), s')) :
    i.happenings.forM Happening.perform s = some ((), s') := by
  obtain ⟨es, hes⟩ := Option.isSome_iff_exists.1 hi
  have hop := operation_of_step hstep
  rw [operation_happenings hes] at hop
  rw [Input.happenings, hes, Option.getD_some]
  exact hop

/-- A run of the daemon whose operations scan and react to deaths is a run of scans and
deaths. -/
theorem happenings_of_run {h : List (Step State Input)} (run : DaemonRun config g h s)
    (hall : ∀ x ∈ h, x.input.happenings?.isSome = true) :
    ∃ es, HappeningRun config g es s ∧ es.map Step.input = h.flatMap fun x =>
      x.input.happenings := by
  refine run.invariant_of (C := fun x => x.input.happenings?.isSome = true)
    (I := fun h s => ∃ es, HappeningRun config g es s ∧ es.map Step.input =
      h.flatMap fun x => x.input.happenings) ⟨[], .nil, rfl⟩ ?_ hall
  rintro h s i s' - ⟨es, hrun, hes⟩ hstep hi
  obtain ⟨es', hrun', hes'⟩ := hrun.forM (step_happenings hi hstep)
  exact ⟨es ++ es', hrun', by simp [hes, hes']⟩

/-! ### What scans and deaths keep -/

lemma later_perform (x : Happening) (hs : s.Sound [] none) :
    Wlp x.perform (fun _ t => t.Sound [] none ∧ Later s t) s := by
  have hkeeps : ∀ {m : M Unit}, Keeps (State.Sound [] none) Quiet m →
      Wlp m (fun _ t => t.Sound [] none ∧ Later s t) s := fun hm =>
    (hm s hs).mono fun _ _ h => ⟨h.1, h.2.toLater⟩
  cases x with
  | begins i => exact (wlp_modify _ _ _).2 ⟨hs.begin i, Later.of_eq rfl (Nat.le_refl _)⟩
  | firstScan w =>
    exact hkeeps (Keeps.bind (keeps_loadConfig w) fun _ =>
      Keeps.bind (keeps_loadDatabase w) fun _ => keeps_scanServers w)
  | rescan w =>
    exact hkeeps (Keeps.bind (keeps_forEachDisplay keeps_markDisplay) fun _ =>
      Keeps.bind (keeps_loadConfig w) fun _ => Keeps.bind (keeps_scanServers w) fun _ =>
        keeps_loadDatabase w)
  | child e => exact hkeeps (keeps_childEnded e)
  | starts w => exact hkeeps (keeps_startDisplays w)

lemma sound_perform (x : Happening) (hs : s.Sound [] none) :
    Wlp x.perform (fun _ t => t.Sound [] none) s :=
  (later_perform x hs).mono fun _ _ h => h.1

lemma unique_perform (x : Happening) : KeepsUnique x.perform := by
  have hoperates := operates_unique
  cases x with
  | begins i => exact Keeps.modify fun _ hs => ⟨hs.congr rfl, trivial⟩
  | firstScan w =>
    exact Keeps.bind (hoperates.loadConfig w) fun _ =>
      Keeps.bind (hoperates.loadDatabase w) fun _ => hoperates.scanServers w
  | rescan w =>
    exact Keeps.bind (keeps_forEachDisplay hoperates.markDisplay) fun _ =>
      Keeps.bind (hoperates.loadConfig w) fun _ => Keeps.bind (hoperates.scanServers w) fun _ =>
        hoperates.loadDatabase w
  | child e => exact hoperates.childEnded e
  | starts w => exact hoperates.startDisplays w

/-- The invariants of the display list, along scans and deaths. -/
theorem happening_invariants {es : List (Step State Happening)} (run : HappeningRun config g es s) :
    s.Sound [] none ∧ s.UniqueNames := by
  refine run.invariant (I := fun s => s.Sound [] none ∧ s.UniqueNames) ⟨?_, List.nodup_nil⟩
    fun s x s' hs hstep => ⟨sound_perform x hs.1 _ _ hstep, (unique_perform x s hs.2 _ _ hstep).1⟩
  exact run_sound .nil

end Xdm
