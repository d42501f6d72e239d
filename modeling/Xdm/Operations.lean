/-
# What the parts of an operation respect, the operation respects

The operations of the main loop other than the answers to datagrams are put together from a
few parts: `checkDisplayStatus` and its like, which work on one display, the lines of the
servers file, and the loading of a file.  `Operates` lists the parts; what they all keep is
kept by the operations.
-/
import Xdm.OneDisplay
import Xdm.Runs

namespace Xdm

open Prog

variable {I : State → Prop} {R R' : State → State → Prop} {i : Input}

/-- All parts of the operations keep `I` and move the state only along `R`. -/
structure Operates (I : State → Prop) (R : State → State → Prop) : Prop where
  checkDisplayStatus : ∀ w a, Keeps I R (checkDisplayStatus w a)
  addDynamicDisplay : ∀ w a, Keeps I R (addDynamicDisplay w a)
  stopDisplay : ∀ a, Keeps I R (stopDisplay a)
  markDisplay : ∀ a, Keeps I R (markDisplay a)
  sessionEnded : ∀ w a val, Keeps I R (sessionEnded w a val)
  serverEnded : ∀ a, Keeps I R (serverEnded a)
  reap : ∀ pid, Keeps I R (reap pid)
  parseDisplay : ∀ source, Keeps I R (parseDisplay source)
  loadConfig : ∀ w, Keeps I R (loadConfig w)
  loadDatabase : ∀ w, Keeps I R (loadDatabase w)

/-- Operations that answer no datagram and register no choice. -/
def Input.isInternal : Input → Bool
  | .datagram .. | .registerIndirectChoice .. => false
  | _ => true

namespace Operates

/-- If the moves on one display respect `R'`, and `R'` keeps `I` and stays within `R`, only
the servers file and the loading of files are left to look at. -/
lemma of_works [Std.Refl R'] [IsTrans State R'] (hworks : ∀ a, Works a R')
    (hI : ∀ s s', I s → R' s s' → I s' ∧ R s s')
    (parseDisplay : ∀ source, Keeps I R (Xdm.parseDisplay source))
    (loadConfig : ∀ w, Keeps I R (Xdm.loadConfig w))
    (loadDatabase : ∀ w, Keeps I R (Xdm.loadDatabase w)) : Operates I R := by
  have hlift : ∀ {α : Type} {m : M α}, Respects R' m → Keeps I R m := fun hm s hs =>
    (hm s trivial).mono fun _ s' h => hI s s' hs h.2
  exact
    { checkDisplayStatus := fun _ a => hlift (hworks a).checkDisplayStatus
      addDynamicDisplay := fun _ a => hlift (hworks a).addDynamicDisplay
      stopDisplay := fun a => hlift (hworks a).stopDisplay
      markDisplay := fun a => hlift ((hworks a).writeDisplay fun _ => rfl)
      sessionEnded := fun _ a val => hlift ((hworks a).sessionEnded val)
      serverEnded := fun a => hlift (hworks a).serverEnded
      reap := fun _ => Keeps.modify fun s hs => hI s _ hs ((hworks 0).kernel s _)
      parseDisplay := parseDisplay
      loadConfig := loadConfig
      loadDatabase := loadDatabase }

variable [Std.Refl R] [IsTrans State R]

lemma startDisplays (h : Operates I R) (w : World) : Keeps I R (Xdm.startDisplays w) :=
  keeps_forEachDisplay fun a => h.checkDisplayStatus w a

lemma scanServers (h : Operates I R) (w : World) : Keeps I R (Xdm.scanServers w) :=
  keeps_scanServers_of w h.parseDisplay

lemma startUp (h : Operates I R) (w : World) : Keeps I R (Xdm.startUp w) :=
  Keeps.bind (h.loadConfig w) fun _ => Keeps.bind (h.loadDatabase w) fun _ =>
    Keeps.bind (h.scanServers w) fun _ => h.startDisplays w

lemma rescanServers (h : Operates I R) (w : World) : Keeps I R (Xdm.rescanServers w) :=
  Keeps.bind (keeps_forEachDisplay h.markDisplay) fun _ => Keeps.bind (h.loadConfig w) fun _ =>
    Keeps.bind (h.scanServers w) fun _ => Keeps.bind (h.loadDatabase w) fun _ => h.startDisplays w

lemma rescanIfMod (h : Operates I R) (w : World) : Keeps I R (Xdm.rescanIfMod w) :=
  keeps_rescanIfMod_of (h.loadConfig w) (keeps_forEachDisplay h.markDisplay) (h.scanServers w)
    (h.loadDatabase w)

lemma addDisplay (h : Operates I R) (w : World) : Keeps I R (Xdm.addDisplay w) :=
  Keeps.bind (keeps_untilDisplay fun a => h.addDynamicDisplay w a) fun _ => Keeps.pure _

lemma displayEnded (h : Operates I R) (e : Exit) : Keeps I R (Xdm.displayEnded e) := by
  refine Keeps.bind Keeps.get fun s => ?_
  split
  · next d _ => exact h.sessionEnded e.world d.addr e.status.val
  · split
    · next d _ => exact h.serverEnded d.addr
    · exact Keeps.pure _

lemma childEnded (h : Operates I R) (e : Exit) : Keeps I R (Xdm.childEnded e) := by
  refine Keeps.bind Keeps.get fun s => Keeps.ite (fun _ => ?_) fun _ => Keeps.failure
  refine Keeps.bind (h.reap e.pid) fun _ => Keeps.ite (fun _ => ?_) fun _ => h.displayEnded e
  exact Keeps.bind (h.rescanIfMod e.world) fun _ => h.displayEnded e

lemma waitForChild (h : Operates I R) (w : World) (exits : List Exit) :
    Keeps I R (Xdm.waitForChild w exits) :=
  Keeps.bind (Keeps.forM fun e _ => h.childEnded e) fun _ => h.startDisplays w

/-- The rule for the operations. -/
theorem operation (h : Operates I R) (hi : i.isInternal = true) : Keeps I R i.operation := by
  cases i with
  | startUp w => exact h.startUp w
  | rescanServers w => exact h.rescanServers w
  | addDisplay w => exact h.addDisplay w
  | startDisplays w => exact h.startDisplays w
  | stopAll => exact keeps_forEachDisplay h.stopDisplay
  | waitForChild w exits => exact h.waitForChild w exits
  | datagram w fd sender bytes => cases hi
  | registerIndirectChoice w addr connectionType choice => cases hi

end Operates

/-- What answers a datagram other than a `MANAGE`, and the chooser's socket, leave the
displays alone. -/
lemma step_displays {s s' : State} (hi : i.isInternal = false) (hm : i.manage? = none)
    (hstep : step i s = some ((), s')) : s'.displays = s.displays := by
  have hop := operation_of_step hstep
  cases i with
  | datagram w fd sender bytes =>
    cases hr : requestIn bytes with
    | none =>
      have htalk := talks_processRequestSocket w fd sender hr (Option.map_eq_none_iff.1 hm)
      exact (htalk _ trivial _ _ hop).2.displays
    | some r =>
      have hrequest : (Input.datagram w fd sender bytes).request? = some (w, sender, r) := by
        rw [Input.request?, hr, Option.map_some]
      rw [operation_of_request hrequest] at hop
      exact (wlp_answerRequest _ _ hop).undisturbed.displays
  | registerIndirectChoice w addr type choice =>
    obtain ⟨-, rfl⟩ := Prod.mk.inj (Option.some.inj hop)
    dsimp only
    split_ifs <;> rfl
  | _ => cases hi

end Xdm
