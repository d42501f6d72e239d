/-
# Local displays and the packets of XDMCP

A `MANAGE` terminates the active session of the display whose name it computes from the
connection address in the client's `REQUEST`.  The display is looked up by that name alone,
so it may be one of the servers file.  This file says which display a datagram disturbs,
and that it leaves every other one as it is.
-/
import Xdm.Refuse

namespace Xdm

open Prog

variable {config : Config} {g : Nat} {h : List (Step State Input)} {s s' t : State} {i : Input}
variable {w : World} {fd : Int} {sender : Netaddr} {m : Manage} {a : Nat} {d : Display}

/-! ### Stopping a display -/

/-- The state after some events. -/
def State.after (s : State) (es : List Event) : State := { s with out := s.out ++ es }

@[simp] lemma State.after_nil (s : State) : s.after [] = s := by
  rw [State.after, List.append_nil]

/-- Signals among the events go to processes of the display `d` only. -/
def Display.Bears (d : Display) (es : List Event) : Prop :=
  ∀ pid signal, Event.kill pid signal ∈ es → ∃ r, d.proc r ≠ -1 ∧ pid = d.proc r

lemma Display.bears_nil (d : Display) : d.Bears [] := fun _ _ hmem => by simp at hmem

lemma Display.Bears.append {es es' : List Event} (h : d.Bears es) (h' : d.Bears es') :
    d.Bears (es ++ es') :=
  fun pid signal hmem => (List.mem_append.1 hmem).elim (h pid signal) (h' pid signal)

/-- What `StopDisplay` does to the display `d`, and that it does nothing else. -/
structure Stopped (d : Display) (s t : State) : Prop where
  kept : ∀ x, x.addr ≠ d.addr → (x ∈ t.displays ↔ x ∈ s.displays)
  nextAddr : t.nextAddr = s.nextAddr
  harmed : d.serverPid = -1 ∧ (∀ x ∈ t.displays, x.addr ≠ d.addr) ∨
    d.serverPid ≠ -1 ∧ ∃ signal, Event.kill d.serverPid signal ∈ t.out
  out : ∃ es, t.out = s.out ++ es ∧ d.Bears es

/-- The signals that `TerminateProcess` sends. -/
def termination (pid : Pid) (signal : Int) : List Event := [.kill pid signal, .kill pid sigcont]

lemma Display.bears_termination {r : Role} (hr : d.proc r ≠ -1) (signal : Int) :
    d.Bears (termination (d.proc r) signal) := by
  intro pid signal' hmem
  simp only [termination, List.mem_cons, List.not_mem_nil, or_false, Event.kill.injEq] at hmem
  exact ⟨r, hr, hmem.elim And.left And.left⟩

lemma wlp_terminateProcess {pid : Pid} {signal : Int} {Q : Unit → State → Prop}
    (h : Q () (s.after (termination pid signal))) : Wlp (terminateProcess pid signal) Q s := by
  unfold terminateProcess emit
  simp only [wlp_bind, wlp_modify]
  simpa [State.after, termination] using h

lemma wlp_stopDisplay_of_mem (hs : s.Sound [] none) (hd : d ∈ s.displays) :
    Wlp (stopDisplay d.addr) (fun _ t => Stopped d s t) s := by
  unfold stopDisplay
  rw [wlp_bind]
  refine wlp_readDisplay fun x hx hxa => ?_
  obtain rfl := hs.distinct.eq_of_mem hx hd hxa
  by_cases hserver : x.serverPid = -1
  · -- without a server the display is unlinked
    have hremove : ∀ es, x.Bears es →
        Wlp (removeDisplay x.addr) (fun _ t => Stopped x s t) (s.after es) := fun es hes =>
      wlp_removeDisplay
        { kept := fun y hy => State.mem_remove.trans (and_iff_left hy)
          nextAddr := rfl
          harmed := Or.inl ⟨hserver, fun y hy => (State.mem_remove.1 hy).2⟩
          out := ⟨es, rfl, hes⟩ }
        fun hnone => absurd rfl (hnone x hd)
    by_cases hpid : x.pid = -1
    · simpa [hserver, hpid] using hremove [] x.bears_nil
    · simp only [hserver, hpid, ne_eq, not_true_eq_false, not_false_eq_true, if_true, if_false,
        wlp_bind]
      exact wlp_terminateProcess (hremove _ (x.bears_termination (r := .session) hpid _))
  · -- with one it becomes a zombie, and the server is sent a signal
    have hzombie : ∀ es, x.Bears es →
        Wlp (terminateProcess x.serverPid x.resources.termSignal) (fun _ t => Stopped x s t)
          ((s.write x.addr fun y => { y with status := .zombie }).after es) := fun es hes =>
      wlp_terminateProcess
        { kept := fun y hy => State.mem_write_of_ne (fun _ => rfl) hy
          nextAddr := rfl
          harmed := Or.inr ⟨hserver, x.resources.termSignal, by simp [State.after, termination]⟩
          out := ⟨es ++ termination x.serverPid x.resources.termSignal, List.append_assoc ..,
            hes.append (x.bears_termination (r := .server) hserver _)⟩ }
    simp only [hserver, ne_eq, not_false_eq_true, if_true, wlp_bind]
    refine wlp_writeDisplay ?_ fun hnone => absurd rfl (hnone x hd)
    by_cases hpid : x.pid = -1
    · simpa [hpid] using hzombie [] x.bears_nil
    · simp only [hpid, not_false_eq_true, if_true, wlp_bind]
      exact wlp_terminateProcess (hzombie _ (x.bears_termination (r := .session) hpid _))

/-! ### Starting a remote display -/

/-- All displays but the one at `a` are as they were, and no process has been sent a
signal. -/
structure Spares (a : Nat) (s s' : State) : Prop where
  kept : ∀ x, x.addr ≠ a → (x ∈ s'.displays ↔ x ∈ s.displays)
  out : ∃ es, s'.out = s.out ++ es ∧ ∀ pid signal, Event.kill pid signal ∉ es

namespace Spares

lemma refl (a : Nat) (s : State) : Spares a s s := ⟨fun _ _ => Iff.rfl, [], by simp⟩

lemma trans {s'' : State} (h : Spares a s s') (h' : Spares a s' s'') : Spares a s s'' where
  kept := fun x hx => (h'.kept x hx).trans (h.kept x hx)
  out := by
    obtain ⟨es, hes, hk⟩ := h.out
    obtain ⟨es', hes', hk'⟩ := h'.out
    refine ⟨es ++ es', by rw [hes', hes, List.append_assoc], fun pid signal hmem => ?_⟩
    exact (List.mem_append.1 hmem).elim (hk pid signal) (hk' pid signal)

instance : Std.Refl (Spares a) := ⟨refl a⟩
instance : IsTrans State (Spares a) := ⟨fun _ _ _ => trans⟩

lemma of_eq (hd : s'.displays = s.displays)
    (ho : ∃ es, s'.out = s.out ++ es ∧ ∀ pid signal, Event.kill pid signal ∉ es) :
    Spares a s s' :=
  ⟨fun _ _ => by rw [hd], ho⟩

lemma of_talk (h : Talk s s') : Spares a s s' := by
  obtain ⟨es, hes, htalk⟩ := h.out
  exact of_eq h.displays ⟨es, hes, fun pid signal hmem => nomatch htalk _ hmem⟩

end Spares

/-- What is known of a new display: no server of this host belongs to it. -/
def Remote (a : Nat) (s : State) : Prop := s.Where a fun d => d.displayType.location = .foreign

/-- The program works on the display at `a` only, and that display is a remote one. -/
abbrev Spares.By {α : Type} (a : Nat) (m : M α) : Prop := Keeps (Remote a) (Spares a) m

lemma spares_modify {f : State → State} (hd : ∀ s, (f s).displays = s.displays)
    (ho : ∀ s, (f s).out = s.out) : Spares.By a (modify f : M PUnit) :=
  Keeps.modify fun s hs => ⟨fun d hmem => hs d (hd s ▸ hmem),
    Spares.of_eq (hd s) ⟨[], by simp [ho]⟩⟩

lemma spares_emit {e : Event} (he : ∀ pid signal, e ≠ .kill pid signal) :
    Spares.By a (emit e) :=
  Keeps.modify fun _ hs => ⟨hs, Spares.of_eq rfl ⟨[e], rfl, fun pid signal hmem =>
    he pid signal (List.mem_singleton.1 hmem).symm⟩⟩

lemma spares_of_talks {α : Type} {m : M α} (hm : Keeps (fun _ => True) Talk m) :
    Spares.By a m :=
  fun s hs => (hm s trivial).mono fun _ _ h =>
    ⟨fun d hd => hs d (h.2.displays ▸ hd), Spares.of_talk h.2⟩

lemma spares_writeDisplay {f : Display → Display} (hf : ∀ d, (f d).addr = d.addr)
    (hl : ∀ d, d.displayType.location = .foreign → (f d).displayType.location = .foreign) :
    Spares.By a (writeDisplay a f) := by
  intro s hs
  refine wlp_writeDisplay ⟨fun d hd hda => ?_, fun x hx => State.mem_write_of_ne hf hx, [], ?_⟩
    fun _ => ⟨hs, Spares.of_eq rfl ⟨[.writeFreed a], rfl, by simp⟩⟩
  · rcases State.mem_write.1 hd with ⟨x, hx, hxa, rfl⟩ | ⟨-, hne⟩
    · exact hl x (hs x hx hxa)
    · exact absurd hda hne
  · simp [State.write]

lemma spares_fork : Spares.By a fork := fun s hs =>
  wlp_fork (fun _ _ => ⟨hs, Spares.of_eq rfl ⟨[], by simp⟩⟩)
    fun _ _ _ _ _ => ⟨hs, Spares.of_eq rfl ⟨[], by simp⟩⟩

/-- No server is started for a remote display, and none is reset. -/
lemma spares_startDisplay (w : World) : Spares.By a (startDisplay w a) := by
  have hsession : Spares.By a (startDisplay.startSession a) := by
    refine Keeps.bind spares_fork fun pid => ?_
    cases pid with
    | none => exact Keeps.pure _
    | some pid => exact spares_writeDisplay (fun _ => rfl) fun _ => id
  refine Keeps.bind (spares_writeDisplay (fun _ => rfl) fun _ => id) fun _ s hs => ?_
  rw [wlp_bind]
  refine wlp_readDisplay fun d hd hda => ?_
  rw [if_neg (by simp [hs d hd hda])]
  exact hsession s hs

lemma spares_chooserFor (w : World) (addr : ARRAY8) (type : CARD16) :
    Spares.By a (chooserFor w addr type) := by
  refine Keeps.bind Keeps.get fun s => Keeps.ite (fun _ => ?_) fun _ => Keeps.pure _
  have hforget := respects_forgetIndirectClient (Talk.speaks w) addr type
  have hchoice := respects_choiceFor (Talk.speaks w) addr type
  refine Keeps.bind (spares_of_talks hforget) fun _ => ?_
  refine Keeps.bind (spares_of_talks hchoice) fun choice => ?_
  exact Keeps.bind Keeps.get fun _ => Keeps.pure _

lemma spares_installAuthorization (w : World) (sender : Netaddr) (sid : CARD32) (name : Str)
    (pdpy : ProtoDisplay) : Spares.By a (installAuthorization w sender sid name a pdpy) := by
  unfold installAuthorization
  split
  · exact Keeps.pure _
  · refine Keeps.ite (fun _ => ?_) fun _ => ?_
    · exact Keeps.bind (spares_writeDisplay (fun _ => rfl) fun _ => id) fun _ => Keeps.pure _
    · refine Keeps.bind (spares_modify (fun _ => rfl) fun _ => rfl) fun _ => ?_
      exact Keeps.bind (spares_emit (by simp)) fun _ => Keeps.pure _

/-! ### The display that a datagram disturbs -/

/-- The display that `manage` terminates before it starts another one of the same name. -/
def displacedBy (w : World) (sender : Netaddr) (m : Manage) (s : State) : Option Display :=
  match findProtoDisplay sender m.displayNumber s.protoDisplays with
  | none => none
  | some pdpy =>
    if pdpy.sessionID = m.sessionID then
      (nameOf w s.config sender pdpy).bind fun name => findDisplayByName name s.displays
    else none

lemma mem_of_displacedBy (h : displacedBy w sender m s = some d) : d ∈ s.displays := by
  unfold displacedBy at h
  split at h
  · exact nomatch h
  · split_ifs at h
    obtain ⟨name, -, hname⟩ := Option.bind_eq_some_iff.1 h
    exact List.mem_of_find?_eq_some hname

/-- From `s` to `s'` the display `o` has been stopped, if it is one, and no other display
that was in the list has been touched. -/
inductive Displaced (s s' : State) : Option Display → Prop
  | nobody : Spares s.nextAddr s s' → Displaced s s' none
  | display {d : Display} {t : State} :
      Stopped d s t → Spares s.nextAddr t s' → Displaced s s' (some d)

/-- What `manage` does after it has terminated the active session. -/
lemma spares_startNew {pdpy : ProtoDisplay} {name : Str} (hs : ∀ x ∈ s.displays,
    x.addr < s.nextAddr) :
    Wlp (do
      if w.alloc.className ∧ w.alloc.fromSave ∧ w.alloc.newDisplay then
        let d ← newDisplay name (classOf m.displayClass)
        writeDisplay d (fillDisplay fd sender pdpy)
        let (addr, _, connectionType) := clientAddress sender.sa
        let chooser ← chooserFor w addr connectionType
        writeDisplay d fun display => { display with
          useChooser := chooser
          clientAddr := addr
          connectionType := connectionType }
        if ← installAuthorization w sender m.sessionID name d pdpy then
          disposeProtoDisplay pdpy.addr
          startDisplay w d
      else sendFailedTo sender name m.sessionID "out of memory".toList)
      (fun _ s' => Spares s.nextAddr s s') s := by
  refine wlp_ite (fun _ => ?_) fun _ => ?_
  swap
  · simp only [sendFailedTo, emit, wlp_modify]
    exact Spares.of_eq rfl ⟨_, rfl, by simp⟩
  rw [wlp_bind]
  refine Opened.wlp_newDisplay fun v hv => ?_
  have hremote : Remote s.nextAddr v := by
    intro x hx hxa
    rcases List.mem_cons.1 (hv.displays ▸ hx) with rfl | hx
    · rfl
    · have := hs x hx
      omega
  have hspares : Spares s.nextAddr s v := by
    refine ⟨fun x hx => ?_, [], by simp [hv.out]⟩
    rw [hv.displays, List.mem_cons]
    exact or_iff_right fun hxe => hx (hxe ▸ hv.addr)
  refine Wlp.mono ?_ fun _ s' (h : Remote s.nextAddr s' ∧ Spares s.nextAddr s s') => h.2
  refine Keeps.last ?_ hremote hspares
  refine Keeps.bind (spares_writeDisplay (fun _ => rfl) fun _ _ => rfl) fun _ => ?_
  refine Keeps.bind (spares_chooserFor _ _ _) fun chooser => ?_
  refine Keeps.bind (spares_writeDisplay (fun _ => rfl) fun _ => id) fun _ => ?_
  refine Keeps.bind (spares_installAuthorization _ _ _ _ _) fun installed => ?_
  refine Keeps.ite (fun _ => ?_) fun _ => Keeps.pure _
  exact Keeps.bind (spares_modify (fun _ => rfl) fun _ => rfl) fun _ => spares_startDisplay w

lemma wlp_answerManage_displaced (hs : s.Sound [] none) :
    Wlp (answerManage w fd sender m)
      (fun _ s' => Displaced s s' (displacedBy w sender m s)) s := by
  have hsent : ∀ message, Displaced s (s.sent sender.sa message) none :=
    fun message => .nobody (Spares.of_eq rfl ⟨[.send sender.sa message], rfl, by simp⟩)
  unfold answerManage
  simp only [wlp_bind, wlp_get]
  unfold displacedBy
  split
  · next pdpy hfind =>
    simp only [hfind]
    refine wlp_ite (fun hid => ?_) fun hid => ?_
    swap
    · rw [if_neg hid]
      simp only [sendRefuse, emit, wlp_modify]
      exact hsent _
    rw [if_pos hid]
    unfold startManaged
    simp only [wlp_bind, wlp_get]
    split
    · next hnone =>
      rw [hnone, Option.bind_none]
      simp only [sendFailedTo, emit, wlp_modify]
      exact hsent _
    next name hname =>
    rw [hname, Option.bind_some]
    unfold terminateActive
    simp only [wlp_bind, wlp_get]
    cases hd : findDisplayByName name s.displays with
    | none =>
      simp only [wlp_pure]
      exact (spares_startNew hs.bound).mono fun _ s' h => .nobody h
    | some d =>
      have hmem : d ∈ s.displays := List.mem_of_find?_eq_some hd
      refine Wlp.mono (((wlp_stopDisplay_of_mem hs hmem).and (keeps_stopDisplay d.addr s hs)))
        fun _ t h => ?_
      obtain ⟨hstop, ht, -⟩ := h
      refine Wlp.mono (spares_startNew ht.bound) fun _ s' h => .display hstop ?_
      rwa [hstop.nextAddr] at h
  · next hnone =>
    simp only [hnone]
    split
    · refine wlp_ite (fun _ => (wlp_pure _ _ _).2 (.nobody (Spares.refl _ _))) fun _ => ?_
      simp only [sendRefuse, emit, wlp_modify]
      exact hsent _
    · simp only [sendRefuse, emit, wlp_modify]
      exact hsent _

/-! ### Datagrams in a run -/

/-- The input is a packet of XDMCP. -/
def Input.isDatagram : Input → Bool
  | .datagram .. => true
  | _ => false

/-- The display that the datagram of the step disturbs. -/
def displaced (x : Step State Input) : Option Display :=
  match x.input.manage? with
  | none => none
  | some (w, sender, m) => displacedBy w sender m x.pre

/-- After the step `x` the display `d` is in the list with its status and its processes, and
no process of it has been sent a signal. -/
structure Unharmed (x : Step State Input) (d : Display) : Prop where
  kept : ∃ d' ∈ x.post.displays, d'.addr = d.addr ∧ d'.status = d.status ∧ d'.pid = d.pid ∧
    d'.serverPid = d.serverPid
  spared : ∀ r signal, d.proc r ≠ -1 → Event.kill (d.proc r) signal ∉ x.post.out

lemma mem_of_displaced {x : Step State Input} (h : displaced x = some d) :
    d ∈ x.pre.displays := by
  unfold displaced at h
  split at h
  · exact nomatch h
  · exact mem_of_displacedBy h

/-- A datagram touches the display it displaces, and no other one. -/
lemma displaced_of_step (hs : s.Sound [] none) (hstep : step i s = some ((), s'))
    (hi : i.isDatagram = true) : Displaced (s.begin i) s' (displaced ⟨s, i, s'⟩) := by
  have hop := operation_of_step hstep
  have hbegin := hs.begin i
  cases hm : i.manage? with
  | some p =>
    obtain ⟨w, sender, m⟩ := p
    obtain ⟨fd, hfd⟩ := operation_of_manage hm
    rw [hfd] at hop
    simp only [displaced, hm]
    exact wlp_answerManage_displaced hbegin _ _ hop
  | none =>
    simp only [displaced, hm]
    cases hr : i.request? with
    | some p =>
      obtain ⟨w, sender, r⟩ := p
      rw [operation_of_request hr] at hop
      have h := (wlp_answerRequest _ _ hop).undisturbed
      obtain ⟨es, hes, hsend⟩ := h.out
      refine .nobody (Spares.of_eq h.displays ⟨es, hes, fun pid signal hmem => ?_⟩)
      obtain ⟨_, _, heq⟩ := hsend _ hmem
      exact nomatch heq
    | none =>
      cases i with
      | datagram w fd sender bytes =>
        have h := talks_processRequestSocket w fd sender (Option.map_eq_none_iff.1 hr)
          (Option.map_eq_none_iff.1 hm) _ trivial _ _ hop
        exact .nobody (Spares.of_talk h.2)
      | _ => exact nomatch hi

/-- Every display that is not displaced stays as it is. -/
lemma unharmed_of_ne (hs : s.Sound [] none) (hstep : step i s = some ((), s'))
    (hi : i.isDatagram = true) (hd : d ∈ s.displays)
    (hne : ∀ e, displaced ⟨s, i, s'⟩ = some e → e.addr ≠ d.addr) :
    d ∈ s'.displays ∧ Unharmed ⟨s, i, s'⟩ d := by
  have hlt := hs.bound d hd
  have hfresh : d.addr ≠ (s.begin i).nextAddr := Nat.ne_of_lt hlt
  suffices h : d ∈ s'.displays ∧ ∀ r signal, d.proc r ≠ -1 →
      Event.kill (d.proc r) signal ∉ s'.out from
    ⟨h.1, ⟨d, h.1, rfl, rfl, rfl, rfl⟩, h.2⟩
  have hdisp := displaced_of_step hs hstep hi
  have hold : ∀ e, displaced ⟨s, i, s'⟩ = some e → e ∈ s.displays := fun e he =>
    mem_of_displaced he
  generalize displaced ⟨s, i, s'⟩ = o at hdisp hne hold
  cases hdisp with
  | nobody h =>
    obtain ⟨es, hes, hk⟩ := h.out
    refine ⟨(h.kept d hfresh).2 hd, fun r signal _ hmem => ?_⟩
    rw [hes] at hmem
    exact hk _ _ (by simpa [State.begin] using hmem)
  | @display e t hstop h =>
    obtain ⟨es, hes, hbears⟩ := hstop.out
    obtain ⟨es', hes', hk⟩ := h.out
    have hea := hne e rfl
    refine ⟨(h.kept d hfresh).2 ((hstop.kept d hea.symm).2 hd), fun r signal hr hmem => ?_⟩
    rw [hes', hes] at hmem
    have hmem : Event.kill (d.proc r) signal ∈ es := by
      simpa [State.begin, hk] using hmem
    -- two displays share no process
    obtain ⟨r', -, heq⟩ := hbears _ _ hmem
    exact hea (hs.owner d hd e (hold e rfl) r r' hr heq).1.symm

/-- The display that is displaced does not stay as it is. -/
lemma harmed_of_displaced (hs : s.Sound [] none) (hstep : step i s = some ((), s'))
    (hi : i.isDatagram = true) (hd : displaced ⟨s, i, s'⟩ = some d) :
    ¬ Unharmed ⟨s, i, s'⟩ d := by
  have hlt := hs.bound d (mem_of_displaced hd)
  rintro ⟨⟨d', hd', ha, -⟩, hspared⟩
  have hdisp := displaced_of_step hs hstep hi
  rw [hd] at hdisp
  cases hdisp with
  | display hstop h =>
    rcases hstop.harmed with ⟨-, hgone⟩ | ⟨hserver, signal, hkill⟩
    · have hfresh : d'.addr ≠ (s.begin i).nextAddr := ha ▸ Nat.ne_of_lt hlt
      exact hgone d' ((h.kept d' hfresh).1 hd') ha
    · obtain ⟨es, hes, -⟩ := h.out
      exact hspared .server signal hserver (hes ▸ List.mem_append_left _ hkill)

/-- A datagram harms no local display if and only if the display it displaces, if there is
one, is not local; and as long as this is so for each of them, the local displays stay in
the list as they are, whatever the datagrams. -/
theorem local_displays_unharmed_iff (run : DaemonRun config g h s) :
    (∀ x ∈ h, x.input.isDatagram = true →
      ((∀ d ∈ x.pre.displays, d.displayType.origin = .fromFile → Unharmed x d) ↔
        ∀ d, displaced x = some d → d.displayType.origin ≠ .fromFile)) ∧
    ∀ h₁ x h₂, h = h₁ ++ x :: h₂ →
      (∀ y ∈ x :: h₂, y.input.isDatagram = true ∧
        ∀ d, displaced y = some d → d.displayType.origin ≠ .fromFile) →
      ∀ d ∈ x.pre.displays, d.displayType.origin = .fromFile →
        d ∈ s.displays ∧ ∀ y ∈ x :: h₂, Unharmed y d := by
  have hspared : ∀ x ∈ h, x.input.isDatagram = true →
      (∀ d, displaced x = some d → d.displayType.origin ≠ .fromFile) →
      ∀ d ∈ x.pre.displays, d.displayType.origin = .fromFile →
        d ∈ x.post.displays ∧ Unharmed x d := by
    intro x hx hi hnot d hd ho
    obtain ⟨h₁, h₂, -, hrun, hstep⟩ := run.split hx
    have hs := run_sound hrun
    refine unharmed_of_ne hs hstep hi hd fun e he ha => hnot e he ?_
    rwa [hs.distinct.eq_of_mem (mem_of_displaced he) hd ha]
  refine ⟨fun x hx hi => ⟨fun hall d hd ho => ?_, fun hnot d hd ho =>
    (hspared x hx hi hnot d hd ho).2⟩, ?_⟩
  · obtain ⟨h₁, h₂, -, hrun, hstep⟩ := run.split hx
    exact harmed_of_displaced (run_sound hrun) hstep hi hd (hall d (mem_of_displaced hd) ho)
  · rintro h₁ x h₂ rfl hall d hd ho
    have hstep : ∀ y ∈ x :: h₂, d ∈ y.pre.displays → d ∈ y.post.displays ∧ Unharmed y d :=
      fun y hy hmem => hspared y (List.mem_append_right _ hy) (hall y hy).1 (hall y hy).2 d hmem ho
    obtain ⟨hpre, hs⟩ := run.stable (P := fun t => d ∈ t.displays) hd fun y hy hmem =>
      (hstep y hy hmem).1
    exact ⟨hs, fun y hy => (hstep y hy (hpre y hy)).2⟩

/-! ### A local display that a remote client stops -/

/-- A world with one local display and without access control. -/
def World.office : World :=
  { World.solo with config := { Config.open with servers := ":0 local /usr/bin/X :0".toList } }

/-- The start of the daemon, and a session for a display of another host, whose `REQUEST`
has a connection of this type. -/
def visit (connectionType : CARD16) : List Input :=
  [.startUp World.office,
    .request (World.lan 20 7) Netaddr.guest
      { Request.plain 0 [] with connectionTypes := [connectionType] },
    .manage (World.lan 20 7) Netaddr.guest ⟨1, 0, []⟩]

/-- The connection type `FamilyLocal` gives the display of another host the name `:0`. -/
theorem local_display_stopped : ∃ h s, DaemonRun Config.open 0 h s ∧
    h.map Step.input = visit familyLocal ∧ ∃ x ∈ h, x.input.isDatagram = true ∧
      ∃ d ∈ x.pre.displays, d.displayType.origin = .fromFile ∧ d.status = .running ∧
        ∃ d' ∈ x.post.displays, d'.addr = d.addr ∧ d'.status = .zombie := by
  obtain ⟨h, s, run, hinputs, x, hx, htest⟩ : ∃ h s, DaemonRun Config.open 0 h s ∧
      h.map Step.input = visit familyLocal ∧ ∃ x ∈ h,
      (x.input.isDatagram && x.pre.displays.any fun d =>
        decide (d.displayType.origin = .fromFile) && decide (d.status = .running) &&
          x.post.displays.any fun d' =>
            decide (d'.addr = d.addr) && decide (d'.status = .zombie)) = true :=
    exists_run_on _ (by decide +kernel)
  refine ⟨h, s, run, hinputs, x, hx, ?_⟩
  simpa [and_assoc] using htest

/-- With a connection of the client's own the local display goes on. -/
theorem local_display_unharmed : ∃ h s, DaemonRun Config.open 0 h s ∧
    h.map Step.input = visit familyInternet ∧ ∃ x ∈ h, x.input.manage?.isSome = true ∧
      ∃ d ∈ x.pre.displays, d.displayType.origin = .fromFile ∧ Unharmed x d := by
  obtain ⟨h, s, run, hinputs, x, hx, htest⟩ : ∃ h s, DaemonRun Config.open 0 h s ∧
      h.map Step.input = visit familyInternet ∧ ∃ x ∈ h,
      (x.input.isDatagram && (x.input.manage?.isSome && ((displaced x).isNone &&
        x.pre.displays.any fun d => decide (d.displayType.origin = .fromFile)))) = true :=
    exists_run_on _ (by decide +kernel)
  simp only [Bool.and_eq_true, List.any_eq_true, decide_eq_true_eq,
    Option.isNone_iff_eq_none] at htest
  obtain ⟨hi, hm, hnone, d, hd, ho⟩ := htest
  have hall := ((local_displays_unharmed_iff run).1 x hx hi).2 (by simp [hnone])
  exact ⟨h, s, run, hinputs, x, hx, hm, d, hd, ho, hall d hd ho⟩

end Xdm
