/-
# The actions of the daemon

`StopAll` is the handler of `SIGTERM`, and nothing blocks this signal while `WaitForChild`
collects one child after the other.  So the children it collects are steps of their own here,
and whatever else the daemon does may come in between.  Every run of the daemon is a run of
actions.
-/
import Xdm.Managing

namespace Xdm

open Prog

variable {config : Config} {g : Nat} {s s' : State} {i : Input}

/-- Operations that the daemon does in one go. -/
def Input.inOneGo : Input → Bool
  | .waitForChild .. => false
  | _ => true

/-- What the daemon does next. -/
inductive Action
  /-- An operation begins; the answers of the kernel come with it. -/
  | begins (i : Input)
  | operation (i : { i : Input // i.inOneGo = true })
  /-- A child is waited for, and its display is dealt with. -/
  | child (e : Exit)

def Action.perform : Action → M Unit
  | .begins i => modify (State.begin i)
  | .operation i => i.val.operation
  | .child e => childEnded e

/-- Actions in any order. -/
abbrev ActionRun (config : Config) (globalSessionID : Nat) :
    List (Prog.Step State Action) → State → Prop :=
  Prog.Run Action.perform (State.initial config globalSessionID)

/-- `StartDisplays` at the end of `WaitForChild`. -/
def Action.starts (w : World) : Action := .operation ⟨.startDisplays w, rfl⟩

/-- What an operation does once it has begun. -/
def Input.parts : Input → List Action
  | .waitForChild w exits => exits.map Action.child ++ [.starts w]
  | .startUp w => [.operation ⟨.startUp w, rfl⟩]
  | .rescanServers w => [.operation ⟨.rescanServers w, rfl⟩]
  | .addDisplay w => [.operation ⟨.addDisplay w, rfl⟩]
  | .startDisplays w => [.starts w]
  | .stopAll => [.operation ⟨.stopAll, rfl⟩]
  | .datagram w fd sender bytes => [.operation ⟨.datagram w fd sender bytes, rfl⟩]
  | .registerIndirectChoice w addr connectionType choice =>
    [.operation ⟨.registerIndirectChoice w addr connectionType choice, rfl⟩]

/-- The actions of an operation. -/
def Input.actions (i : Input) : List Action := .begins i :: i.parts

lemma operation_parts (i : Input) : i.operation = i.parts.forM Action.perform := by
  cases i with
  | waitForChild w exits =>
    simp [Input.operation, waitForChild, Input.parts, Action.perform, Action.starts,
      List.forM_append]
  | _ => simp [Input.parts, Action.perform, Action.starts]

lemma step_actions (hstep : step i s = some ((), s')) :
    i.actions.forM Action.perform s = some ((), s') := by
  have hop := operation_of_step hstep
  rw [operation_parts] at hop
  exact hop

/-- A run of the daemon is a run of its actions. -/
theorem actions_of_run {h : List (Step State Input)} (run : DaemonRun config g h s) :
    ∃ as, ActionRun config g as s ∧ as.map Step.input = h.flatMap fun x => x.input.actions := by
  refine run.invariant_of (C := fun _ => True)
    (I := fun h s => ∃ as, ActionRun config g as s ∧ as.map Step.input =
      h.flatMap fun x => x.input.actions) ⟨[], .nil, rfl⟩ ?_ fun _ _ => trivial
  rintro h s i s' - ⟨as, hrun, has⟩ hstep -
  obtain ⟨as', hrun', has'⟩ := hrun.forM (step_actions hstep)
  exact ⟨as ++ as', hrun', by simp [has, has']⟩

/-! ### The display list -/

/-- Every operation keeps the invariant of the display list. -/
lemma sound_operation (i : Input) (hs : s.Sound [] none) :
    Wlp i.operation (fun _ t => t.Sound [] none) s := by
  cases hr : i.request? with
  | some p =>
    obtain ⟨w, sender, r⟩ := p
    rw [operation_of_request hr]
    refine wlp_answerRequest.mono fun _ t h => ?_
    have hu := h.undisturbed
    exact hs.congr hu.displays (by rw [hu.kernel]) hu.nextAddr
  | none =>
    cases hm : i.manage? with
    | none => exact (keeps_operation hr hm s hs).mono fun _ t h => h.1
    | some p =>
      obtain ⟨w, sender, m⟩ := p
      obtain ⟨fd, hfd⟩ := operation_of_manage hm
      rw [hfd]
      exact (wlp_answerManage hs).mono fun _ t h => h.1

end Xdm
