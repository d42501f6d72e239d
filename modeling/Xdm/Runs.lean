/-
# Runs of the daemon

A step of the daemon is quiet, or it answers a `REQUEST`, or it answers a `MANAGE`.  From
this rule follows that `State.Sound` holds in every reachable state, and with it the life
cycle of a display.
-/
import Xdm.Xdmcp.Negotiation

namespace Xdm

open Prog

variable {s s' : State} {i : Input}

/-! ### One step -/

/-- The `REQUEST` of an input, with the world and the sender. -/
def Input.request? : Input → Option (World × Netaddr × Request)
  | .datagram w _ sender bytes => (requestIn bytes).map fun r => (w, sender, r)
  | _ => none

/-- The `REQUEST` of an ordinary display, as it is read. -/
lemma request?_plain {w w' : World} {sender sender' : Netaddr} {r : Request}
    (hreq : (Input.request w sender (Request.plain 0 [])).request? = some (w', sender', r)) :
    w' = w ∧ sender' = sender ∧ r = Request.plain 0 [] := by
  have hplain : (Input.request w sender (Request.plain 0 [])).request? =
      some (w, sender, Request.plain 0 []) := rfl
  simpa using hreq.symm.trans hplain

/-- The `MANAGE` of an input, with the world and the sender. -/
def Input.manage? : Input → Option (World × Netaddr × Manage)
  | .datagram w _ sender bytes => (manageIn bytes).map fun m => (w, sender, m)
  | _ => none

lemma operation_of_request {w : World} {sender : Netaddr} {r : Request}
    (h : i.request? = some (w, sender, r)) : i.operation = answerRequest w sender r := by
  cases i with
  | datagram w' fd sender' bytes =>
    obtain ⟨r', hr', heq⟩ := Option.map_eq_some_iff.1 h
    obtain ⟨rfl, rfl, rfl⟩ := heq
    exact processRequestSocket_request _ fd _ hr'
  | _ => exact nomatch h

lemma operation_of_manage {w : World} {sender : Netaddr} {m : Manage}
    (h : i.manage? = some (w, sender, m)) :
    ∃ fd, i.operation = answerManage w fd sender m := by
  cases i with
  | datagram w' fd sender' bytes =>
    obtain ⟨m', hm', heq⟩ := Option.map_eq_some_iff.1 h
    obtain ⟨rfl, rfl, rfl⟩ := heq
    exact ⟨fd, processRequestSocket_manage _ fd _ hm'⟩
  | _ => exact nomatch h

lemma mem_worlds_of_manage {w : World} {sender : Netaddr} {m : Manage}
    (h : i.manage? = some (w, sender, m)) : w ∈ i.worlds := by
  cases i with
  | datagram w' fd sender' bytes =>
    obtain ⟨m', -, heq⟩ := Option.map_eq_some_iff.1 h
    obtain ⟨rfl, -⟩ := Prod.mk.inj heq
    exact List.mem_singleton.2 rfl
  | _ => exact nomatch h

lemma mem_worlds_of_request {w : World} {sender : Netaddr} {r : Request}
    (h : i.request? = some (w, sender, r)) : w ∈ i.worlds := by
  cases i with
  | datagram w' fd sender' bytes =>
    obtain ⟨r', -, heq⟩ := Option.map_eq_some_iff.1 h
    obtain ⟨rfl, -⟩ := Prod.mk.inj heq
    exact List.mem_singleton.2 rfl
  | _ => exact nomatch h

lemma manage?_of_request? {p : World × Netaddr × Request} (h : i.request? = some p) :
    i.manage? = none := by
  cases i with
  | datagram w fd sender bytes =>
    obtain ⟨r, hr, -⟩ := Option.map_eq_some_iff.1 h
    simp [Input.manage?, manageIn_of_requestIn hr]
  | _ => rfl

/-- What is no `REQUEST` and no `MANAGE` is quiet. -/
lemma keeps_operation (hr : i.request? = none) (hm : i.manage? = none) :
    Keeps (State.Sound [] none) Quiet i.operation := by
  have htalk : ∀ {m : M Unit}, Talks m → Keeps (State.Sound [] none) Quiet m :=
    fun hm t ht => (hm t trivial).mono fun _ _ h => ⟨h.2.sound ht, h.2.quiet⟩
  cases i with
  | startUp w => exact keeps_startUp w
  | rescanServers w => exact keeps_rescanServers w
  | addDisplay w => exact keeps_addDisplay w
  | startDisplays w => exact keeps_startDisplays w
  | stopAll => exact keeps_stopAll
  | waitForChild w exits => exact keeps_waitForChild w exits
  | datagram w fd sender bytes =>
    exact htalk (talks_processRequestSocket w fd sender (Option.map_eq_none_iff.1 hr)
      (Option.map_eq_none_iff.1 hm))
  | registerIndirectChoice w addr type choice =>
    refine htalk (Keeps.modify fun t _ => ⟨trivial, ?_⟩)
    split <;> exact ⟨rfl, rfl, rfl, rfl, rfl, rfl, rfl, rfl, [], by simp⟩

lemma State.Sound.begin {dead : List Pid} (h : s.Sound dead none) (i : Input) :
    (s.begin i).Sound dead none :=
  h.congr rfl rfl (Nat.le_refl _)

/-- A step is its operation, on a list without freed displays. -/
lemma operation_of_step (hstep : step i s = some ((), s')) :
    i.operation (s.begin i) = some ((), s') := by
  have hwlp : Wlp (step i) (fun _ t => i.operation (s.begin i) = some ((), t)) s := by
    unfold step
    simp only [wlp_bind, wlp_get]
    refine wlp_ite (fun _ => by simp) fun _ => ?_
    simp only [wlp_bind, wlp_set]
    exact fun _ _ h => h
  exact hwlp _ _ hstep

/-- What a step may be. -/
inductive StepKind (i : Input) (s s' : State) : Prop
  | quiet : i.request? = none → i.manage? = none → Quiet (s.begin i) s' → StepKind i s s'
  | request (w : World) (sender : Netaddr) (r : Request) :
      i.request? = some (w, sender, r) → Answered w sender r (s.begin i) s' → StepKind i s s'
  | manage (w : World) (sender : Netaddr) (m : Manage) :
      i.manage? = some (w, sender, m) → Dealt w sender m (s.begin i) s' → StepKind i s s'

/-- The rule for steps. -/
theorem step_kind (hs : s.Sound [] none) (hstep : step i s = some ((), s')) :
    s'.Sound [] none ∧ StepKind i s s' := by
  have hbegin := hs.begin i
  have hop := operation_of_step hstep
  cases hr : i.request? with
  | some p =>
    obtain ⟨w, sender, r⟩ := p
    rw [operation_of_request hr] at hop
    have h := wlp_answerRequest _ _ hop
    have hu := h.undisturbed
    exact ⟨hbegin.congr hu.displays (by rw [hu.kernel]) hu.nextAddr, .request w sender r hr h⟩
  | none =>
    cases hm : i.manage? with
    | none =>
      obtain ⟨hs', hq⟩ := keeps_operation hr hm _ hbegin _ _ hop
      exact ⟨hs', .quiet hr hm hq⟩
    | some p =>
      obtain ⟨w, sender, m⟩ := p
      obtain ⟨fd, hfd⟩ := operation_of_manage hm
      rw [hfd] at hop
      obtain ⟨hs', hd⟩ := wlp_answerManage hbegin _ _ hop
      exact ⟨hs', .manage w sender m hm hd⟩

/-- A `REQUEST` is answered, and nothing else is done. -/
lemma StepKind.answered (hk : StepKind i s s') {w : World} {sender : Netaddr} {r : Request}
    (hreq : i.request? = some (w, sender, r)) : Answered w sender r (s.begin i) s' := by
  cases hk with
  | quiet hnone _ _ => simp [hnone] at hreq
  | manage _ _ _ hman _ => simp [manage?_of_request? hreq] at hman
  | request w' sender' r' hreq' hr =>
    obtain ⟨rfl, rfl, rfl⟩ : w' = w ∧ sender' = sender ∧ r' = r := by
      simpa using hreq'.symm.trans hreq
    exact hr

/-- A `MANAGE` is dealt with, and nothing else is done. -/
lemma StepKind.dealt (hk : StepKind i s s') {w : World} {sender : Netaddr} {m : Manage}
    (hman : i.manage? = some (w, sender, m)) : Dealt w sender m (s.begin i) s' := by
  cases hk with
  | quiet _ hnone _ => simp [hnone] at hman
  | request _ _ _ hreq _ => simp [manage?_of_request? hreq] at hman
  | manage w' sender' m' hman' hd =>
    obtain ⟨rfl, rfl, rfl⟩ : w' = w ∧ sender' = sender ∧ m' = m := by
      simpa using hman'.symm.trans hman
    exact hd

/-! ### The display list -/

lemma Later.of_eq (hd : s'.displays = s.displays) (hn : s.nextAddr ≤ s'.nextAddr) :
    Later s s' :=
  ⟨hn, fun d h _ => ⟨d, hd ▸ h, Display.Successor.refl d⟩⟩

/-- No structure comes back. -/
lemma StepKind.later (h : StepKind i s s') : Later s s' := by
  have hbegin : ∀ {t}, Later (s.begin i) t → Later s t := fun h => ⟨h.nextAddr, h.old⟩
  cases h with
  | quiet _ _ hq => exact hbegin hq.toLater
  | request _ _ _ _ h => exact hbegin (Later.of_eq h.undisturbed.displays h.undisturbed.nextAddr)
  | manage _ _ _ _ h =>
    cases h with
    | stale _ _ _ h => exact Later.of_eq (by rw [h]; rfl) (by rw [h]; exact Nat.le_refl _)
    | unknown _ _ h => exact Later.of_eq (by rw [h]; rfl) (by rw [h]; exact Nat.le_refl _)
    | ignored _ _ _ _ h => exact Later.of_eq (by rw [h]; rfl) (by rw [h]; exact Nat.le_refl _)
    | managed _ _ _ h =>
      cases h with
      | failed hq _ => exact hbegin hq.toLater
      | started _ hst _ => exact hbegin hst.toLater
      | leaked _ _ hst _ _ => exact hbegin hst.toLater

theorem run_sound {config : Config} {g : Nat} {h : List (Step State Input)}
    (run : DaemonRun config g h s) : s.Sound [] none := by
  refine run.invariant ?_ fun s i s' hs hstep => (step_kind hs hstep).1
  exact
    { distinct := List.nodup_nil
      bound := by simp [State.initial]
      ok := by simp [State.initial]
      positive := by simp [State.initial]
      child := by simp [State.initial]
      owner := by simp [State.initial] }

/-- The life cycle of a display, in every reachable state: a zombie and a phoenix have a
server still to be waited for, a running display has a session process, no two displays
share one, and whoever has been a zombie after a step is one as long as it is there. -/
theorem display_life_cycle {config : Config} {g : Nat} {h : List (Step State Input)}
    (run : DaemonRun config g h s) :
    (∀ d ∈ s.displays,
      (d.status = .zombie ∨ d.status = .phoenix →
        d.serverPid ≠ -1 ∧ d.serverPid ∈ s.kernel.children) ∧
      (d.status = .running → d.pid ≠ -1 ∧ d.pid ∈ s.kernel.children)) ∧
    s.displays.Pairwise (fun d d' => (d.pid = d'.pid → d.pid = -1) ∧
      (d.serverPid = d'.serverPid → d.serverPid = -1)) ∧
    ∀ x ∈ h, ∀ d ∈ x.post.displays, d.status = .zombie →
      ∀ d' ∈ s.displays, d'.addr = d.addr → d'.status = .zombie := by
  have hs := run_sound run
  refine ⟨fun d hd => ?_, ?_, ?_⟩
  · have hok := hs.ok d hd (by simp)
    refine ⟨fun hstatus => ?_, fun hstatus => ?_⟩
    · have hpid : d.serverPid ≠ -1 := hstatus.elim hok.zombie hok.phoenix
      exact ⟨hpid, (hs.child d hd .server hpid : _)⟩
    · have hpid := hok.running hstatus
      exact ⟨hpid, (hs.child d hd .session hpid : _)⟩
  · have hne : s.displays.Pairwise fun d d' => d.addr ≠ d'.addr := List.pairwise_map.1 hs.distinct
    refine hne.imp_of_mem fun {d d'} hd hd' hne => ⟨fun heq => ?_, fun heq => ?_⟩
    · by_contra hpid
      exact hne (hs.owner d hd d' hd' .session .session hpid heq).1
    · by_contra hpid
      exact hne (hs.owner d hd d' hd' .server .server hpid heq).1
  · -- along the run: a zombie is older than the state, and still a zombie
    have hinv : ∀ x ∈ h, ∀ d ∈ x.post.displays, d.status = .zombie →
        d.addr < s.nextAddr ∧ ∀ d' ∈ s.displays, d'.addr = d.addr → d'.status = .zombie := by
      refine run.invariant_of (C := fun _ => True) (I := fun h s => ∀ x ∈ h,
        ∀ d ∈ x.post.displays, d.status = .zombie → d.addr < s.nextAddr ∧
          ∀ d' ∈ s.displays, d'.addr = d.addr → d'.status = .zombie) (by simp) ?_
        fun _ _ => trivial
      intro h s i s' hrun hI hstep _ x hx d hd hz
      obtain ⟨hs', hkind⟩ := step_kind (run_sound hrun) hstep
      have hlater := hkind.later
      rcases List.mem_append.1 hx with hx | hx
      · obtain ⟨hlt, hold⟩ := hI x hx d hd hz
        refine ⟨Nat.lt_of_lt_of_le hlt hlater.nextAddr, fun d' hd' ha => ?_⟩
        obtain ⟨d₀, hd₀, hsucc⟩ := hlater.old d' hd' (by omega)
        exact hsucc.zombie (hold d₀ hd₀ (hsucc.addr.symm.trans ha))
      · obtain rfl : x = ⟨s, i, s'⟩ := by simpa using hx
        refine ⟨hs'.bound d hd, fun d' hd' ha => ?_⟩
        rw [hs'.distinct.eq_of_mem hd' hd ha]
        exact hz
    exact fun x hx d hd hz => (hinv x hx d hd hz).2

/-- A world with one local display, whose server and session start. -/
def World.solo : World :=
  { World.silent with
    config := { Config.plain with servers := ":0 local /usr/bin/X :0".toList }
    forks := [some 10, some 11]
    pauses := [false] }

/-- The display of a daemon that is stopped waits for the end of its server. -/
theorem display_life_cycle_stopped : ∃ h s, DaemonRun Config.plain 0 h s ∧
    s.displays.map Display.status = [.zombie] ∧
    ∀ d ∈ s.displays, d.serverPid ∈ s.kernel.children := by
  obtain ⟨h, s, run, hstatus⟩ : ∃ h s, DaemonRun Config.plain 0 h s ∧
      s.displays.map Display.status = [.zombie] :=
    exists_run_of_exec [.startUp World.solo, .stopAll] (by decide +kernel)
  refine ⟨h, s, run, hstatus, fun d hd => ?_⟩
  have hz : d.status ∈ s.displays.map Display.status := List.mem_map_of_mem hd
  rw [hstatus, List.mem_singleton] at hz
  exact (((display_life_cycle run).1 d hd).1 (Or.inl hz)).2

end Xdm
