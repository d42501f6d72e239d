/-
# Orphans and the end of the daemon

A child that no display of the list has any more has been asked to end, and is not forgotten:
its death is still waited for.  After `StopAll` nothing is started, as long as the servers file
is left alone; the displays wait for the ends of their processes and go, and with the last
child the list is empty, so that the main loop ends.
-/
import Xdm.Supervision
import Mathlib.Data.Finset.Card

namespace Xdm

open Prog

variable {config : Config} {g : Nat} {s s' s₀ : State} {a : Nat} {p : Pid} {w : World}
variable {h : List (Step State Action)}

/-! ### A child that is waited for -/

/-- Whom a child action waits for. -/
def Action.waitsFor (p : Pid) : Action → Prop
  | .child e => e.pid = p
  | _ => False

/-- A child that is waited for is no child any more, and no other one comes or goes. -/
lemma children_childEnded (e : Exit) (s : State) :
    Wlp (childEnded e) (fun _ s' => e.pid ∈ s.kernel.children ∧
      s'.kernel.children = s.kernel.children.filter (· ≠ e.pid)) s := by
  unfold childEnded
  rw [wlp_bind, wlp_get]
  refine wlp_ite (fun hchild => ?_) fun _ => by simp
  rw [reap, wlp_bind, wlp_modify]
  have hended : ∀ t : State, t.kernel.children = s.kernel.children.filter (· ≠ e.pid) →
      Wlp (displayEnded e) (fun _ s' => e.pid ∈ s.kernel.children ∧
        s'.kernel.children = s.kernel.children.filter (· ≠ e.pid)) t := fun t ht =>
    (sameKernel_displayEnded e t trivial).mono fun _ u hu =>
      ⟨hchild, by rw [show u.kernel = t.kernel from hu.2, ht]⟩
  refine wlp_ite (fun _ => ?_) fun _ => hended _ rfl
  rw [wlp_bind]
  exact (sameKernel_rescanIfMod e.world _ trivial).mono fun _ u hu =>
    hended u (congrArg Kernel.children hu.2)

/-! ### Orphans -/

/-- The process has been sent the signals of `TerminateProcess`, and has not been waited for
since. -/
def Asked (h : List (Step State Action)) (p : Pid) : Prop :=
  ∃ h₁ x h₂ sig, h = h₁ ++ x :: h₂ ∧ [(p, sig), (p, sigcont)] <:+: newSignals x ∧
    ∀ y ∈ h₂, ¬ y.input.waitsFor p

lemma Asked.snoc {x : Step State Action} (hp : Asked h p) (hx : ¬ x.input.waitsFor p) :
    Asked (h ++ [x]) p := by
  obtain ⟨h₁, y, h₂, sig, rfl, hsig, hlater⟩ := hp
  refine ⟨h₁, y, h₂ ++ [x], sig, by simp, hsig, fun z hz => ?_⟩
  rcases List.mem_append.1 hz with hz | hz
  · exact hlater z hz
  · rwa [List.mem_singleton.1 hz]

lemma infix_of_asks {acts : List (Supervisor.Act Pid Int)} {act : Supervisor.Act Pid Int}
    (hact : act ∈ acts) (hasks : act.asks p) :
    ∃ sig, [(p, sig), (p, sigcont)] <:+: acts.flatMap actSignals := by
  cases act with
  | terminate q sig =>
    obtain rfl : q = p := hasks
    obtain ⟨acts₁, acts₂, rfl⟩ := List.append_of_mem hact
    exact ⟨sig, acts₁.flatMap actSignals, acts₂.flatMap actSignals, by simp [actSignals]⟩
  | _ => cases hasks

/-- Along a run a supervisor stands for the daemon that knows who has been asked. -/
lemma asked_run (run : ActionRun config g h s) :
    Kept [] s ∧ ∃ t, StandsFor s t ∧ ∀ p ∈ t.told, Asked h p := by
  refine run.invariant_of (C := fun _ => True)
    (I := fun h s => Kept [] s ∧ ∃ t, StandsFor s t ∧ ∀ p ∈ t.told, Asked h p)
    ?_ ?_ fun _ _ => trivial
  · exact ⟨(supervised_run .nil).1, _, standsFor_initial config g, fun p hp => absurd hp id⟩
  · rintro h s x s' - ⟨hs, t, ht, htold⟩ hstep -
    obtain ⟨hs', acts, t', hpath, ht', hperforms⟩ := kept_action hs ht hstep
    refine ⟨hs', t', ht', fun p hp => ?_⟩
    rcases Supervisor.told_of_path hpath hp with ⟨act, hact, hasks⟩ | hold
    · obtain ⟨sig, hsig⟩ := infix_of_asks hact hasks
      exact ⟨h, ⟨s, x, s'⟩, [], sig, rfl, hperforms.newSignals ▸ hsig, by simp⟩
    · refine (htold p hold).snoc fun hwaits => ?_
      -- a child that is waited for cannot be a child afterwards
      have hmem : p ∈ s'.kernel.children := (ht'.children p).1 (t'.told_subset hp)
      cases x with
      | child e =>
        obtain rfl : e.pid = p := hwaits
        have hchildren := (children_childEnded e s _ _ hstep).2
        simp [hchildren] at hmem
      | _ => exact hwaits

/-- No child is lost: in every state, after whatever actions in whatever order, a child that has
not been waited for is a process of a display of the list, or has been asked to end. -/
theorem children_accounted (run : ActionRun config g h s) :
    ∀ p ∈ s.kernel.children, s.Owns p ∨ Asked h p := by
  intro p hp
  obtain ⟨-, t, ht, htold⟩ := asked_run run
  by_cases howns : s.Owns p
  · exact Or.inl howns
  · refine Or.inr (htold p ((t.accounted ((ht.children p).2 hp)).resolve_left fun howned => ?_))
    exact howns ((ht.owned p).1 howned).2

/-- The server of the display dies, and the daemon is stopped: the session is not of any
display any more, and has been asked to end. -/
theorem children_accounted_orphan : ∃ h s, ActionRun Config.plain 0 h s ∧
    s.displays.length = 0 ∧ s.kernel.children = [11] ∧ Asked h 11 := by
  obtain ⟨h, s, run, hdisplays, hchildren⟩ : ∃ h s, ActionRun Config.plain 0 h s ∧
      s.displays.length = 0 ∧ s.kernel.children = [11] :=
    exists_run_of_exec ((Input.startUp World.solo).actions ++
      [.child ⟨10, .exited 1, World.solo⟩] ++ Input.stopAll.actions) (by decide +kernel)
  refine ⟨h, s, run, hdisplays, hchildren, ?_⟩
  refine (children_accounted run 11 (by simp [hchildren])).resolve_left fun ⟨d, hd, _⟩ => ?_
  simp [List.length_eq_zero_iff.1 hdisplays] at hd

/-! ### After `StopAll` -/

/-- All displays wait for the end of their servers. -/
def State.AllZombie (s : State) : Prop := ∀ d ∈ s.displays, d.status = .zombie

/-- Operations of the main loop that read no file. -/
def Input.winds : Input → Prop
  | .addDisplay _ | .startDisplays _ | .stopAll => True
  | _ => False

/-- What the daemon does when it has been stopped, its sockets are closed and nobody touches
the servers file: it waits for children. -/
def Action.winds (s : State) : Action → Prop
  | .begins _ => True
  | .child e => s.config.autoRescan = true → e.world.serversChanged = false
  | .operation i => i.val.winds

lemma shrinks_modify {f : State → State} (hf : ∀ s, (f s).displays = s.displays) :
    Respects Shrinks (modify f : M Unit) := Keeps.modify fun s _ => ⟨trivial, Shrinks.of_eq (hf s)⟩

/-- With the servers file as it was, reading the files again enters no display. -/
lemma shrinks_rescanIfMod (hw : w.serversChanged = false) : Respects Shrinks (rescanIfMod w) := by
  have haccess : ∀ c : State, Respects Shrinks (if c.config.servers.head? = some '/' ∧
      w.serversChanged = true then do
        forEachDisplay markDisplay
        scanServers w
        if c.config.accessFile ≠ [] ∧ w.accessChanged = true then loadDatabase w
      else if c.config.accessFile ≠ [] ∧ w.accessChanged = true then loadDatabase w
        else pure () : M Unit) := fun c => by
    rw [if_neg (by simp [hw])]
    exact Keeps.ite (fun _ => shrinks_modify fun _ => rfl) fun _ => Keeps.pure _
  unfold rescanIfMod
  exact Keeps.ite (fun _ => Keeps.bind (shrinks_modify fun _ => rfl) fun _ =>
    Keeps.bind Keeps.get haccess) fun _ => Keeps.bind Keeps.get haccess

lemma shrinks_displayEnded (e : Exit) : Respects Shrinks (displayEnded e) := by
  refine Keeps.bind Keeps.get fun s => ?_
  split
  · next d _ => exact (Shrinks.works d.addr).toMoves.sessionEnded _
  · split
    · next d _ => exact (Shrinks.works d.addr).toMoves.serverEnded
    · exact Keeps.pure _

lemma shrinks_childEnded {e : Exit} (hw : s.config.autoRescan = true →
    e.world.serversChanged = false) : Wlp (childEnded e) (fun _ s' => Shrinks s s') s := by
  unfold childEnded
  rw [wlp_bind, wlp_get]
  refine wlp_ite (fun _ => ?_) fun _ => by simp
  rw [reap, wlp_bind, wlp_modify]
  have hreaped : Shrinks s { s with kernel := { s.kernel with
      children := s.kernel.children.filter (· ≠ e.pid) } } := Shrinks.of_eq rfl
  refine wlp_ite (fun hauto => ?_) fun _ => ?_
  · exact (shrinks_rescanIfMod (hw hauto)).seq trivial hreaped fun _ t ht h =>
      ((shrinks_displayEnded e).last ht h).mono fun _ _ h => h.2
  · exact ((shrinks_displayEnded e).last trivial hreaped).mono fun _ _ h => h.2

/-- Zombies stay zombies, and nobody comes. -/
lemma State.AllZombie.of_later (hz : s.AllZombie) (hs : s.Sound [] none) (hl : Later s s')
    (hsh : Shrinks s s') : s'.AllZombie := by
  intro d' hd'
  obtain ⟨d, hd, hid⟩ := hsh.mem hd'
  have haddr : d'.addr = d.addr := (congrArg Identity.addr hid).symm
  obtain ⟨x, hx, hsucc⟩ := hl.old d' hd' (haddr ▸ hs.bound d hd)
  exact hsucc.zombie (hz x hx)

/-- The invariant of the shutdown. -/
abbrev Winding (s : State) : Prop := s.Sound [] none ∧ s.AllZombie

/-- What leaves the kernel alone and enters no display. -/
def Rests (s s' : State) : Prop := Later s s' ∧ Shrinks s s' ∧ SameKernel s s'

instance : Std.Refl Rests := ⟨fun s => ⟨Later.of_eq rfl (Nat.le_refl _), refl s, refl s⟩⟩
instance : IsTrans State Rests :=
  ⟨fun _ _ _ h h' => ⟨h.1.trans h'.1, IsTrans.trans _ _ _ h.2.1 h'.2.1,
    IsTrans.trans _ _ _ h.2.2 h'.2.2⟩⟩

lemma winding_of {m : M Unit} (hquiet : Keeps (State.Sound [] none) Quiet m)
    (hrests : ∀ s, Winding s → Wlp m (fun _ s' => Shrinks s s' ∧ SameKernel s s') s) :
    Keeps Winding Rests m := by
  intro s hs
  refine ((hquiet s hs.1).and (hrests s hs)).mono fun _ s' ⟨⟨hs', hq⟩, hsh, hk⟩ => ?_
  exact ⟨⟨hs', hs.2.of_later hs.1 hq.toLater hsh⟩, hq.toLater, hsh, hk⟩

lemma winding_stopDisplay (a : Nat) : Keeps Winding Rests (stopDisplay a) :=
  winding_of (keeps_stopDisplay a) fun s _ =>
    (((Shrinks.works a).toMoves.stopDisplay s trivial).and
      ((SameKernel.moves a).stopDisplay s trivial)).mono fun _ _ h => ⟨h.1.2, h.2.2⟩

/-- Nothing is started for a zombie. -/
lemma winding_checkDisplayStatus (w : World) (a : Nat) :
    Keeps Winding Rests (checkDisplayStatus w a) := by
  refine winding_of (keeps_checkDisplayStatus w a) fun s hs => ?_
  unfold checkDisplayStatus
  rw [wlp_bind]
  refine wlp_readDisplay fun d hd hda => wlp_ite (fun _ => ?_) fun _ =>
    (wlp_pure _ _ _).2 ⟨refl s, refl s⟩
  have hidle : ∀ t, SameKernel s t → Shrinks s t →
      Wlp (checkDisplayStatus.startIfPermanent w d)
        (fun _ s' => Shrinks s s' ∧ SameKernel s s') t := fun t hk hsh =>
    wlp_ite (fun hc => by simp [hs.2 d hd] at hc) fun _ => (wlp_pure _ _ _).2 ⟨hsh, hk⟩
  split
  · exact ((winding_stopDisplay a) s hs).mono fun _ _ h => h.2.2
  · rw [wlp_bind]
    refine wlp_writeDisplay (hidle _ rfl (Shrinks.write fun _ => rfl)) fun hnone => ?_
    exact absurd hda (hnone d hd)
  · exact hidle s rfl (refl s)

lemma winding_addDynamicDisplay (w : World) (a : Nat) :
    Keeps Winding Rests (addDynamicDisplay w a) := by
  refine fun s hs => ?_
  unfold addDynamicDisplay
  rw [wlp_bind]
  exact wlp_readDisplay fun d hd _ => wlp_ite (fun hc => by simp [hs.2 d hd] at hc) fun _ =>
    (wlp_pure _ _ _).2 ⟨hs, refl s⟩

lemma winding_operation {i : Input} (hi : i.winds) : Keeps Winding Rests i.operation := by
  cases i with
  | addDisplay w =>
    exact Keeps.bind (keeps_untilDisplay (winding_addDynamicDisplay w)) fun _ => Keeps.pure _
  | startDisplays w => exact keeps_forEachDisplay (winding_checkDisplayStatus w)
  | stopAll => exact keeps_forEachDisplay winding_stopDisplay
  | _ => exact absurd hi id

/-- `StopAll` leaves zombies only, and the children to be waited for. -/
lemma wlp_stopAll (hs : s.Sound [] none) :
    Wlp stopAll (fun _ s' => Winding s' ∧ SameKernel s s') s := by
  unfold stopAll forEachDisplay
  rw [wlp_bind, wlp_get]
  let I (l : List Nat) (t : State) : Prop :=
    t.Sound [] none ∧ SameKernel s t ∧ ∀ d ∈ t.displays, d.addr ∈ l ∨ d.status = .zombie
  have hturn : ∀ a l t, I (a :: l) t → Wlp (stopDisplay a) (fun _ => I l) t := by
    rintro a l t ⟨ht, hk, hz⟩
    refine ((keeps_stopDisplay a t ht).and (wlp_stopDisplay_of ht
      (Q := fun _ t' => SameKernel s t' ∧ ∀ d ∈ t'.displays, d.addr ∈ l ∨ d.status = .zombie)
      fun d hd hda => ⟨?_, ?_⟩)).mono fun _ _ h => ⟨h.1.1, h.2⟩
    · exact (State.stopped_kernel t d).trans hk
    · subst hda
      intro x hx
      unfold State.stopped at hx
      split_ifs at hx
      · rcases State.mem_write.1 hx with ⟨y, -, -, rfl⟩ | ⟨hx, hxa⟩
        · exact Or.inr rfl
        · exact (hz x hx).imp_left fun h => (List.mem_cons.1 h).resolve_left hxa
      · obtain ⟨hx, hxa⟩ := State.mem_remove.1 hx
        exact (hz x hx).imp_left fun h => (List.mem_cons.1 h).resolve_left hxa
  have hstart : I (s.displays.map Display.addr) s :=
    ⟨hs, rfl, fun d hd => Or.inl (List.mem_map_of_mem hd)⟩
  exact (wlp_forM_rest hturn hstart).mono fun _ t ht =>
    ⟨⟨ht.1, fun d hd => (ht.2.2 d hd).resolve_left List.not_mem_nil⟩, ht.2.1⟩

def Action.isChild : Action → Bool
  | .child _ => true
  | _ => false

/-- One action of the shutdown: it keeps the invariant, and waits for one child or for none. -/
lemma winding_action {x : Action} (hx : x.winds s) (hs : Winding s)
    (hstep : x.perform s = some ((), s')) :
    Winding s' ∧ (∀ p ∈ s'.kernel.children, p ∈ s.kernel.children) ∧
      s'.kernel.children.toFinset.card + (if x.isChild = true then 1 else 0) =
        s.kernel.children.toFinset.card := by
  cases x with
  | begins i =>
    obtain ⟨-, rfl⟩ := Prod.mk.inj (Option.some.inj hstep)
    exact ⟨⟨hs.1.begin i, hs.2⟩, fun _ hp => hp, rfl⟩
  | operation i =>
    obtain ⟨hs', -, -, hk⟩ := winding_operation hx s hs _ _ hstep
    have hchildren : s'.kernel.children = s.kernel.children := congrArg Kernel.children hk
    exact ⟨hs', fun _ hp => hchildren ▸ hp, by rw [hchildren]; rfl⟩
  | child e =>
    obtain ⟨hs', hq⟩ := keeps_childEnded e s hs.1 _ _ hstep
    obtain ⟨hmem, hchildren⟩ := children_childEnded e s _ _ hstep
    have hsh : Shrinks s s' := shrinks_childEnded hx _ _ hstep
    refine ⟨⟨hs', hs.2.of_later hs.1 hq.toLater hsh⟩, fun p hp => ?_, ?_⟩
    · rw [hchildren] at hp
      exact (List.mem_filter.1 hp).1
    · have herase : s'.kernel.children.toFinset = s.kernel.children.toFinset.erase e.pid := by
        ext p
        simp [hchildren, and_comm]
      rw [herase]
      exact Finset.card_erase_add_one (List.mem_toFinset.2 hmem)

/-- The shutdown is complete and final: after `StopAll`, as long as the sockets are closed and
the servers file is left alone, nothing is started, every child has been asked to end, each
death makes the children one fewer, and the list is empty when none is left. -/
theorem shutdown_complete {h₁ h₂ : List (Step State Action)} {x : Step State Action}
    (run : ActionRun config g (h₁ ++ x :: h₂) s)
    (hstop : x.input = .operation ⟨.stopAll, rfl⟩) (hwinds : ∀ y ∈ h₂, y.input.winds y.pre) :
    (∀ d ∈ s.displays, d.status = .zombie ∧ d.serverPid ∈ s.kernel.children) ∧
      (∀ p ∈ s.kernel.children, p ∈ x.pre.kernel.children ∧ Asked (h₁ ++ x :: h₂) p) ∧
      s.kernel.children.toFinset.card + h₂.countP (fun y => y.input.isChild) =
        x.pre.kernel.children.toFinset.card ∧
      (s.kernel.children = [] → s.displays = []) := by
  obtain ⟨hrun, hstep⟩ := run.before
  obtain ⟨⟨hsound, -⟩, -⟩ := asked_run hrun
  rw [hstop] at hstep
  obtain ⟨hpost, hk⟩ := wlp_stopAll hsound _ _ hstep
  have hchildren : x.post.kernel.children = x.pre.kernel.children := congrArg Kernel.children hk
  obtain ⟨hs, hsub, hcount⟩ := run.after (P := fun l t => Winding t ∧
    (∀ p ∈ t.kernel.children, p ∈ x.pre.kernel.children) ∧
      t.kernel.children.toFinset.card + l.countP (fun y => y.input.isChild) =
        x.pre.kernel.children.toFinset.card)
    ⟨hpost, fun _ hp => hchildren ▸ hp, by rw [hchildren]; rfl⟩ <| by
      rintro l y hy ⟨hpre, hsub, hcount⟩ hstep
      obtain ⟨hpost, hsub', hcard⟩ := winding_action (hwinds y hy) hpre hstep
      refine ⟨hpost, fun p hp => hsub p (hsub' p hp), ?_⟩
      rw [List.countP_append, List.countP_singleton]
      omega
  have hserver : ∀ d ∈ s.displays, d.serverPid ∈ s.kernel.children := fun d hd =>
    hs.1.proc_mem hd (r := .server) ((hs.1.ok d hd (by simp)).zombie (hs.2 d hd))
  refine ⟨fun d hd => ⟨hs.2 d hd, hserver d hd⟩, fun p hp => ⟨hsub p hp, ?_⟩, hcount,
    fun hnone => List.eq_nil_iff_forall_not_mem.2 fun d hd => ?_⟩
  · obtain ⟨-, t, ht, htold⟩ := asked_run run
    refine htold p (((t.accounted ((ht.children p).2 hp)).elim fun howned => ?_) id)
    obtain ⟨-, d, hd, r, rfl⟩ := (ht.owned p).1 howned
    exact ht.told d hd (Or.inl (hs.2 d hd)) r hp
  · have hmem := hserver d hd
    rw [hnone] at hmem
    exact List.not_mem_nil hmem

/-- The daemon is stopped, its session and its server die, and nothing is left. -/
theorem shutdown_complete_solo : ∃ h s, ActionRun Config.plain 0 h s ∧
    h.length = 5 ∧ s.kernel.children = [] ∧ s.displays = [] := by
  obtain ⟨h, s, run, hinputs, hlength, hnone⟩ : ∃ h s, ActionRun Config.plain 0 h s ∧
      h.map Step.input = (Input.startUp World.solo).actions ++ .operation ⟨.stopAll, rfl⟩ ::
        [.child ⟨11, .signaled 15, World.solo⟩, .child ⟨10, .exited 0, World.solo⟩] ∧
      h.length = 5 ∧ s.kernel.children = [] := exists_run_on _ (by decide +kernel)
  obtain ⟨h₁, l, rfl, -, hl⟩ := List.map_eq_append_iff.1 hinputs
  obtain ⟨x, h₂, rfl, hx, hh₂⟩ := List.map_eq_cons_iff.1 hl
  have hwinds : ∀ y ∈ h₂, y.input.winds y.pre := by
    intro y hy
    have hmem : y.input ∈ h₂.map Step.input := List.mem_map_of_mem hy
    rw [hh₂, List.mem_cons, List.mem_singleton] at hmem
    rcases hmem with hy | hy <;> rw [hy] <;> exact fun _ => rfl
  exact ⟨_, s, run, hlength, hnone, (shutdown_complete run hx hwinds).2.2.2 hnone⟩

end Xdm
