/-
# A `MANAGE` that fails

Each allocation of `manage` has a clean-up of its own.  They leave no trace but one: where
there is no memory for the list of the authorizations, the display that has been entered is
freed and stays in the list.
-/
import Xdm.Managing

namespace Xdm

open Prog

variable {config : Config} {g : Nat} {h : List (Step State Input)} {s s' t : State} {i : Input}
variable {w : World} {fd : Int} {sender : Netaddr} {m : Manage} {pdpy : ProtoDisplay} {name : Str}

/-- The event is a `FAILED` packet. -/
def Event.isFailed : Event → Bool
  | .send _ (.failed ..) => true
  | _ => false

/-- `MANAGE` has been answered with `FAILED`. -/
def State.answeredFailed (s : State) : Bool := s.out.any Event.isFailed

/-- There is memory for all that the `MANAGE` allocates, the name can be computed, and `fork`
returns `p`. -/
structure Manageable (w : World) (sender : Netaddr) (m : Manage) (s : State) (p : Pid) : Prop where
  alloc : w.alloc = Alloc.ok
  name : ∀ pdpy, findProtoDisplay sender m.displayNumber s.protoDisplays = some pdpy →
    (nameOf w s.config sender pdpy).isSome = true
  fork : w.forks.head? = some (some p)
  positive : 0 < p
  fresh : p ∉ s.kernel.children

/-- What a `MANAGE` leaves behind that has been answered with `FAILED`. -/
structure NoDebris (sender : Netaddr) (m : Manage) (s s' : State) : Prop where
  /-- No display has been created. -/
  old : ∀ d ∈ s'.displays, ∃ x ∈ s.displays, x.addr = d.addr ∧ x.name = d.name
  alive : ∀ d ∈ s'.displays, d.addr ∉ s'.freed
  pending : ∃ pdpy, findProtoDisplay sender m.displayNumber s'.protoDisplays = some pdpy ∧
    pdpy.sessionID = m.sessionID
  /-- The same packet can be sent again, and may succeed. -/
  again : ∀ w fd datagram p, manageIn datagram = some m → Manageable w sender m s' p →
    ∃ t, step (.datagram w fd sender datagram) s' = some ((), t) ∧
      ∃ d ∈ t.displays, d.sessionID = m.sessionID ∧ d.pid = p ∧ d.status = .running

/-- The `MANAGE` enters a display for which it cannot allocate the authorizations. -/
def leaksDisplay (w : World) (sender : Netaddr) (m : Manage) (s : State) : Bool :=
  match findProtoDisplay sender m.displayNumber s.protoDisplays with
  | none => false
  | some pdpy => decide (pdpy.sessionID = m.sessionID) &&
    (nameOf w s.config sender pdpy).isSome && w.alloc.display && losesAuthorization w pdpy

/-! ### The events of a `MANAGE` -/

lemma isFailed_stopSignals (d : Display) : d.stopSignals.any Event.isFailed = false := by
  unfold Display.stopSignals terminated
  split_ifs <;> rfl

lemma answeredFailed_terminated (s : State) (name : Str) :
    (s.terminated name).answeredFailed = s.answeredFailed := by
  unfold State.terminated State.answeredFailed
  split
  · rw [State.stopped_out, List.any_append, isFailed_stopSignals, Bool.or_false]
  · rfl

lemma answeredFailed_failed (s : State) (name : Str) :
    (s.failed sender m name).answeredFailed = true := by
  unfold State.answeredFailed State.failed State.sent
  rw [List.any_append]
  exact Bool.or_true _

lemma answeredFailed_askedChooser (s : State) (addr : ARRAY8) (connectionType : CARD16) :
    (s.askedChooser w addr connectionType).answeredFailed = s.answeredFailed := by
  unfold State.askedChooser State.askedChoice State.answeredFailed
  dsimp only
  split_ifs <;> rfl

/-! ### A `MANAGE` that succeeds -/

lemma State.terminated_protoDisplays (s : State) (name : Str) :
    (s.terminated name).protoDisplays = s.protoDisplays := by
  unfold State.terminated
  split
  · exact State.stopped_protoDisplays s _
  · rfl

lemma State.terminated_kernel (s : State) (name : Str) :
    (s.terminated name).kernel = s.kernel := by
  unfold State.terminated
  split
  · exact State.stopped_kernel s _
  · rfl

lemma State.askedChooser_kernel (s : State) (addr : ARRAY8) (connectionType : CARD16) :
    (s.askedChooser w addr connectionType).kernel = s.kernel := by
  unfold State.askedChooser State.askedChoice
  dsimp only
  split_ifs <;> rfl

lemma State.settled_kernel (s : State) (name : Str) :
    ((s.terminated name).settled w sender pdpy).kernel = s.kernel :=
  (State.askedChooser_kernel ..).trans (State.terminated_kernel s name)

/-- With memory and a process id a pending session is started. -/
lemma startManaged_succeeds {p : Pid} (hs : s.Sound [] none)
    (hname : (nameOf w s.config sender pdpy).isSome = true) (halloc : w.alloc = Alloc.ok)
    (hforks : s.kernel.forks.head? = some (some p)) (hp : 0 < p) (hnew : p ∉ s.kernel.children) :
    ∃ t, startManaged w fd sender m pdpy s = some ((), t) ∧
      ∃ d ∈ t.displays, d.sessionID = pdpy.sessionID ∧ d.pid = p ∧ d.status = .running := by
  obtain ⟨q, t, hways, heq⟩ : ∃ q t, ManagePath w fd sender m pdpy s q t ∧
    startManaged w fd sender m pdpy s = q t := startManaged_eq hs
  cases hways with
  | noName hnone => simp [hnone] at hname
  | noMemory name _ hno => simp [Alloc.display, halloc, Alloc.ok] at hno
  | leaked name _ _ hloses => simp [losesAuthorization, halloc, Alloc.ok] at hloses
  | ready name _ _ _ =>
    obtain ⟨forks, hforks⟩ : ∃ forks, s.kernel.forks = some p :: forks :=
      List.head?_eq_some_iff.1 hforks
    have hkernel : ((s.terminated name).settled w sender pdpy).kernel = s.kernel :=
      State.settled_kernel s name
    obtain ⟨k, hstart⟩ : ∃ k, startDisplay w s.nextAddr
        ((s.terminated name).ready w fd sender m pdpy name) = some ((), State.enter _ _) :=
      startRemote_eq (State.settled_fresh hs name) (State.terminated_nextAddr s name) rfl
        (hkernel ▸ hforks) hp (hkernel ▸ hnew)
    exact ⟨_, heq.trans hstart, _, List.mem_cons_self .., rfl, rfl, rfl⟩

lemma step_eq (hs : s.dangling = false) : step i s = i.operation (s.begin i) := by
  unfold step
  rw [get_bind, if_neg (by simp [hs])]
  rfl

/-- A pending session can be started, unless a freed display is in the way. -/
lemma manage_succeeds {datagram : ARRAY8} {p : Pid} (hs : s.Sound [] none)
    (halive : s.dangling = false)
    (hfind : findProtoDisplay sender m.displayNumber s.protoDisplays = some pdpy)
    (hid : pdpy.sessionID = m.sessionID) (hm : manageIn datagram = some m)
    (hw : Manageable w sender m s p) :
    ∃ t, step (.datagram w fd sender datagram) s = some ((), t) ∧
      ∃ d ∈ t.displays, d.sessionID = m.sessionID ∧ d.pid = p ∧ d.status = .running := by
  have hop : (Input.datagram w fd sender datagram).operation = answerManage w fd sender m :=
    processRequestSocket_manage w fd sender hm
  rw [step_eq halive, hop, answerManage_eq (s := s.begin _) hfind hid, ← hid]
  exact startManaged_succeeds (hs.begin _) (hw.name pdpy hfind) hw.alloc hw.fork hw.positive
    hw.fresh

/-! ### A `MANAGE` that fails -/

/-- A step starts on a list without freed displays. -/
lemma not_dangling (hstep : step i s = some ((), s')) : s.dangling = false := by
  by_contra hdangling
  unfold step at hstep
  rw [get_bind, if_pos (by simpa using hdangling)] at hstep
  cases hstep

lemma not_mem_freed (hs : s.dangling = false) : ∀ d ∈ s.displays, d.addr ∉ s.freed := by
  intro d hd hfreed
  have hany : s.displays.any (fun d => d.addr ∈ s.freed) = true :=
    List.any_eq_true.2 ⟨d, hd, decide_eq_true hfreed⟩
  rw [State.dangling, hany] at hs
  exact absurd hs (by simp)

lemma dangling_eq_false (hs : ∀ d ∈ s.displays, d.addr ∉ s.freed) : s.dangling = false := by
  rw [State.dangling, List.any_eq_false]
  exact fun d hd => by simpa using hs d hd

lemma noDebris (hs' : s'.Sound [] none)
    (hfind : findProtoDisplay sender m.displayNumber s.protoDisplays = some pdpy)
    (hid : pdpy.sessionID = m.sessionID) (hproto : s'.protoDisplays = s.protoDisplays)
    (hold : ∀ d ∈ s'.displays, ∃ x ∈ s.displays, x.addr = d.addr ∧ x.name = d.name)
    (halive : ∀ d ∈ s'.displays, d.addr ∉ s'.freed) : NoDebris sender m s s' where
  old := hold
  alive := halive
  pending := ⟨pdpy, hproto ▸ hfind, hid⟩
  again := fun _ _ _ _ hm hw =>
    manage_succeeds hs' (dangling_eq_false halive) (hproto ▸ hfind) hid hm hw

/-- The events of the state before do not matter. -/
lemma noDebris_begin : NoDebris sender m (s.begin i) s' ↔ NoDebris sender m s s' :=
  ⟨fun ⟨h₁, h₂, h₃, h₄⟩ => ⟨h₁, h₂, h₃, h₄⟩, fun ⟨h₁, h₂, h₃, h₄⟩ => ⟨h₁, h₂, h₃, h₄⟩⟩

lemma mem_terminated {x : Display} (hx : x ∈ (s.terminated name).displays) :
    ∃ y ∈ s.displays, y.addr = x.addr ∧ y.name = x.name := by
  unfold State.terminated at hx
  split at hx
  · exact State.mem_stopped hx
  · exact ⟨x, hx, rfl, rfl⟩

lemma not_mem_terminated_freed (hs : s.dangling = false) {x : Display}
    (hx : x ∈ (s.terminated name).displays) : x.addr ∉ (s.terminated name).freed := by
  obtain ⟨y, hy, hyx, -⟩ := mem_terminated hx
  have hfreed : x.addr ∉ s.freed := hyx ▸ not_mem_freed hs y hy
  unfold State.terminated at hx ⊢
  split at hx
  · exact State.not_mem_stopped_freed hx hfreed
  · exact hfreed

/-- The ways through `manage`: it leaves debris, or a session that was not asked to fail. -/
lemma startManaged_debris (hs : s.Sound [] none) (halive : s.dangling = false)
    (hout : s.answeredFailed = false)
    (hfind : findProtoDisplay sender m.displayNumber s.protoDisplays = some pdpy)
    (hid : pdpy.sessionID = m.sessionID)
    (hrun : startManaged w fd sender m pdpy s = some ((), s')) :
    (s'.answeredFailed = true → NoDebris sender m s s') ↔
      ((nameOf w s.config sender pdpy).isSome && w.alloc.display &&
        losesAuthorization w pdpy) = false := by
  obtain ⟨q, t, hways, hrun⟩ := managePath_of_run hs hrun
  cases hways with
  | noName hname =>
    obtain ⟨-, rfl⟩ := Prod.mk.inj (Option.some.inj hrun)
    rw [hname, Option.isSome_none, Bool.false_and, Bool.false_and]
    refine iff_of_true (fun _ => ?_) rfl
    exact noDebris (hs.emit _) hfind hid rfl (fun d hd => ⟨d, hd, rfl, rfl⟩) (not_mem_freed halive)
  | noMemory name hname hdisplay =>
    obtain ⟨-, rfl⟩ := Prod.mk.inj (Option.some.inj hrun)
    rw [hdisplay, Bool.and_false, Bool.false_and]
    refine iff_of_true (fun _ => ?_) rfl
    exact noDebris ((hs.terminated name).emit _) hfind hid (State.terminated_protoDisplays s name)
      (fun d hd => mem_terminated hd) fun d hd => not_mem_terminated_freed halive hd
  | leaked name hname hdisplay hloses =>
    obtain ⟨-, rfl⟩ := Prod.mk.inj (Option.some.inj hrun)
    rw [hname, hdisplay, hloses, Option.isSome_some, Bool.and_true, Bool.and_true]
    refine iff_of_false (fun hclean => ?_) (by simp)
    -- the display in front is the one that has been freed
    refine (hclean (answeredFailed_failed _ name)).alive
      (managedDisplay w fd sender m pdpy name (s.terminated name)) ?_ ?_
    · exact List.mem_cons_self ..
    · exact List.mem_cons_self ..
  | ready name hname hdisplay hloses =>
    rw [hloses, Bool.and_false]
    refine iff_of_true (fun hfailed => absurd hfailed ?_) rfl
    obtain ⟨k, y, rfl, -⟩ := wlp_startReady hs _ _ hrun
    have hsame := (answeredFailed_askedChooser (w := w) (s.terminated name)
      (clientAddress sender.sa).1 (clientAddress sender.sa).2.2).trans
        (answeredFailed_terminated s name)
    rw [hout] at hsame
    exact Bool.not_eq_true _ ▸ hsame

/-- In every reachable state: a `MANAGE` that is answered with `FAILED` leaves no display that
it has created and no freed one, and the pending session is still there and can be started, if
and only if it is not one that enters a display and then has no memory for the list of its
authorizations. -/
theorem failed_manage_clean_iff (run : DaemonRun config g h s)
    (hm : i.manage? = some (w, sender, m)) (hstep : step i s = some ((), s')) :
    (s'.answeredFailed = true → NoDebris sender m s s') ↔ leaksDisplay w sender m s = false := by
  have hs := run_sound run
  have hop := operation_of_step hstep
  obtain ⟨fd, hfd⟩ := operation_of_manage hm
  rw [hfd] at hop
  -- every other answer is fine
  have hother : ∀ {u}, u.answeredFailed = false →
      ((u.answeredFailed = true → NoDebris sender m s u) ↔ True) := fun hno =>
    iff_of_true (fun hfailed => absurd (hno.symm.trans hfailed) (by simp)) trivial
  have hrefused : ((s.begin i).sent sender.sa (.refuse m.sessionID)).answeredFailed = false := rfl
  unfold leaksDisplay
  cases (wlp_answerManage (hs.begin i) _ _ hop).2 with
  | stale pdpy hfind hid heq =>
    rw [State.begin] at hfind
    subst heq
    simp only [hfind, hid, decide_false, Bool.false_and]
    exact hother hrefused
  | unknown hfind _ heq =>
    rw [State.begin] at hfind
    subst heq
    simp only [hfind]
    exact hother hrefused
  | ignored d hfind _ _ heq =>
    rw [State.begin] at hfind
    subst heq
    simp only [hfind]
    exact hother (u := s.begin i) rfl
  | managed pdpy hfind hid _ =>
    rw [answerManage_eq hfind hid] at hop
    have halive : s.dangling = false := not_dangling hstep
    have hways := startManaged_debris (hs.begin i) (halive : _) rfl hfind hid hop
    rw [State.begin] at hfind
    simp only [hfind, hid, decide_true, Bool.true_and]
    rwa [noDebris_begin] at hways

/-! ### Running out of memory -/

/-- The world of a display when these allocations succeed. -/
def World.short (alloc : Alloc) : World := { World.lan 20 7 with alloc := alloc }

/-- A `REQUEST` that is granted a cookie, and its `MANAGE`. -/
def scarce (alloc : Alloc) : List Input :=
  [.request (World.lan 20 7) Netaddr.guest (Request.plain 0 [mitMagicCookie1]),
    .manage (World.short alloc) Netaddr.guest ⟨1, 0, []⟩]

/-- Without memory for the list of the authorizations the freed display stays. -/
theorem failed_manage_debris : ∃ h s, DaemonRun Config.open 0 h s ∧
    h.map Step.input = scarce { Alloc.ok with authorizations := false } ∧
    s.answeredFailed = true ∧ ∃ d ∈ s.displays, d.addr ∈ s.freed :=
  exists_run_on _ (by decide +kernel)

/-- Without memory for the class there is no debris. -/
theorem failed_manage_clean : ∃ h s i s', DaemonRun Config.open 0 h s ∧
    step i s = some ((), s') ∧ s'.answeredFailed = true ∧
    NoDebris Netaddr.guest ⟨1, 0, []⟩ s s' := by
  obtain ⟨h, s, run, hinputs, x, hx, hsome, hfailed, hleaks⟩ : ∃ h s,
      DaemonRun Config.open 0 h s ∧
      h.map Step.input = scarce { Alloc.ok with className := false } ∧
      ∃ x ∈ h, x.input.manage?.isSome = true ∧ x.post.answeredFailed = true ∧ leaksDisplay
        (World.short { Alloc.ok with className := false }) Netaddr.guest ⟨1, 0, []⟩ x.pre = false :=
    exists_run_on _ (by decide +kernel)
  obtain ⟨h₁, h₂, -, hrun, hstep⟩ := run.split hx
  have hinput : x.input ∈ scarce { Alloc.ok with className := false } :=
    hinputs ▸ List.mem_map_of_mem hx
  have hmanage : x.input.manage? = some
      (World.short { Alloc.ok with className := false }, Netaddr.guest, ⟨1, 0, []⟩) := by
    rcases List.mem_cons.1 hinput with hrequest | hmanage
    · rw [hrequest] at hsome
      exact absurd hsome (by decide +kernel)
    · rw [List.mem_singleton.1 hmanage]
      rfl
  exact ⟨h₁, x.pre, x.input, x.post, hrun, hstep, hfailed,
    (failed_manage_clean_iff hrun hmanage hstep).2 hleaks hfailed⟩

end Xdm
