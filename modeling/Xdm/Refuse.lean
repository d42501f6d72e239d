/-
# `REFUSE` and live sessions

A display that has not seen the answer to its `MANAGE` sends it again.  `manage` means to
ignore such a duplicate, and does so unless another `REQUEST` of the client has made a new
proto-display, or an older display of the client stands before the one with the session.
-/
import Xdm.Sessions

namespace Xdm

open Prog

variable {config : Config} {g : Nat} {h : List (Step State Input)} {s s' : State} {i : Input}

/-- The display `d` has the session that the packet names, with the client it is from. -/
def Display.isSessionOf (sender : Netaddr) (m : Manage) (d : Display) : Bool :=
  d.isXDMCP && d.sessionID == m.sessionID && addressEqual d.fromAddr sender &&
    d.displayNumber == m.displayNumber

/-- No proto-display is pending for the client, and the first of its displays in the list
is the one with the session. -/
def FirstServed (s : State) (sender : Netaddr) (m : Manage) : Prop :=
  findProtoDisplay sender m.displayNumber s.protoDisplays = none ∧
    ∀ d, findDisplayByAddress sender m.displayNumber s.displays = some d →
      d.sessionID = m.sessionID

instance (s : State) (sender : Netaddr) (m : Manage) : Decidable (FirstServed s sender m) :=
  decidable_of_iff ((findProtoDisplay sender m.displayNumber s.protoDisplays).isNone = true ∧
    (findDisplayByAddress sender m.displayNumber s.displays).all
      (fun d => d.sessionID == m.sessionID) = true) <| by
    simp only [FirstServed, Option.isNone_iff_eq_none, Option.all_eq_true, beq_iff_eq]

/-- The `MANAGE` of a step that names a session which its client has. -/
def liveManage (x : Step State Input) : Option (Netaddr × Manage) :=
  match x.input.manage? with
  | none => none
  | some (_, sender, m) =>
    if x.pre.displays.any (Display.isSessionOf sender m) then some (sender, m) else none

/-- In the step `x` a client has been refused a session that it has. -/
def refusesLive (x : Step State Input) : Bool :=
  (liveManage x).any fun p => Event.send p.1.sa (.refuse p.2.sessionID) ∈ x.post.out

lemma liveManage_eq_some {x : Step State Input} {sender : Netaddr} {m : Manage}
    (h : liveManage x = some (sender, m)) : ∃ w, x.input.manage? = some (w, sender, m) ∧
      ∃ d ∈ x.pre.displays, d.isSessionOf sender m = true := by
  unfold liveManage at h
  split at h
  · exact nomatch h
  · next w sender' m' hm =>
    split_ifs at h with hany
    obtain ⟨rfl, rfl⟩ := Prod.mk.inj (Option.some.inj h)
    exact ⟨w, hm, by simpa using hany⟩

lemma refuse_notMem_of_quiet {t : State} {dest : SockAddr} {sid : CARD32}
    (ho : ∃ es, s'.out = (t.begin i).out ++ es ∧ ∀ e ∈ es, e.isQuiet = true) :
    Event.send dest (.refuse sid) ∉ s'.out := by
  obtain ⟨es, hes, hq⟩ := ho
  intro hmem
  rw [hes] at hmem
  exact absurd (hq _ (by simpa [State.begin] using hmem)) (by simp [Event.isQuiet])

/-- A client gets a `REFUSE` only in answer to its `MANAGE`. -/
lemma StepKind.refuse (hk : StepKind i s s') {dest : SockAddr} {sid : CARD32}
    (hmem : Event.send dest (.refuse sid) ∈ s'.out) :
    ∃ w sender m, i.manage? = some (w, sender, m) ∧ dest = sender.sa ∧ sid = m.sessionID := by
  cases hk with
  | quiet _ _ hq => exact absurd hmem (refuse_notMem_of_quiet hq.out)
  | request _ _ _ _ hr =>
    have hpending : ∀ {w sender r pdpy t}, Pending w sender r (s.begin i) pdpy t →
        t.out = [] := by
      rintro w sender r pdpy t (_ | _) <;> rfl
    cases hr with
    | refused => simp [State.sent, State.begin] at hmem
    | outOfMemory => simp [State.sent, State.timeout, State.begin] at hmem
    | declined _ _ hp _ => simp [State.sent, State.dispose, hpending hp] at hmem
    | accepted _ hp => simp [State.sent, State.authorize, acceptMessage, hpending hp] at hmem
  | manage w sender m hm hd =>
    have hsent : s' = (s.begin i).sent sender.sa (.refuse m.sessionID) →
        dest = sender.sa ∧ sid = m.sessionID := by
      rintro rfl
      simpa [State.sent, State.begin] using hmem
    cases hd with
    | stale _ _ _ h => exact ⟨w, sender, m, hm, hsent h⟩
    | unknown _ _ h => exact ⟨w, sender, m, hm, hsent h⟩
    | ignored _ _ _ _ h => exact absurd hmem (by simp [h, State.begin])
    | managed _ _ _ h =>
      cases h with
      | failed hq _ => exact absurd hmem (refuse_notMem_of_quiet hq.out)
      | started _ hst _ => exact absurd hmem (refuse_notMem_of_quiet hst.out)
      | leaked _ _ hst _ _ => exact absurd hmem (refuse_notMem_of_quiet hst.out)

/-- When a `MANAGE` for a live session is ignored. -/
lemma StepKind.ignored_iff (hk : StepKind i s s') {w : World} {sender : Netaddr} {m : Manage}
    (hm : i.manage? = some (w, sender, m)) {d : Display} (hd : d ∈ s.displays)
    (hlive : d.isSessionOf sender m = true) :
    (Event.send sender.sa (.refuse m.sessionID) ∉ s'.out ∧ s' = s.begin i) ↔
      FirstServed s sender m := by
  have hrefused : s' = (s.begin i).sent sender.sa (.refuse m.sessionID) →
      ¬ FirstServed s sender m →
      ((Event.send sender.sa (.refuse m.sessionID) ∉ s'.out ∧ s' = s.begin i) ↔
        FirstServed s sender m) := by
    rintro rfl hnot
    exact iff_of_false (fun hc => hc.1 (by simp [State.sent])) hnot
  cases hk.dealt hm with
  | stale pdpy hfind _ h =>
    exact hrefused h fun hc => absurd (hfind.symm.trans hc.1) (by simp)
  | unknown hnone hother h =>
    refine hrefused h fun hc => ?_
    cases hfound : findDisplayByAddress sender m.displayNumber s.displays with
    | some d' => exact hother d' hfound (hc.2 d' hfound)
    | none =>
      -- the display with the session is one that the search finds
      simp only [Display.isSessionOf, Display.isXDMCP, Bool.and_eq_true, beq_iff_eq,
        decide_eq_true_eq] at hlive
      have := List.find?_eq_none.1 hfound d hd
      simp [hlive] at this
  | ignored d' hnone hfound hid h =>
    refine iff_of_true ⟨by simp [h, State.begin], h⟩ ⟨hnone, fun d'' hd'' => ?_⟩
    exact Option.some.inj (hfound.symm.trans hd'') ▸ hid
  | managed pdpy hfind _ h =>
    refine iff_of_false (fun hc => h.ne hc.2) fun hc => ?_
    exact absurd (hfind.symm.trans hc.1) (by simp)

/-- In every run: `REFUSE` answers a `MANAGE`, and a `MANAGE` for a session that its client
has is ignored exactly when nothing stands before the display with this session. -/
theorem live_session_refused_iff (run : DaemonRun config g h s) :
    ∀ x ∈ h, (∀ dest sid, Event.send dest (.refuse sid) ∈ x.post.out →
        ∃ w sender m, x.input.manage? = some (w, sender, m) ∧ dest = sender.sa ∧
          sid = m.sessionID) ∧
      ∀ w sender m, x.input.manage? = some (w, sender, m) →
        ∀ d ∈ x.pre.displays, d.isSessionOf sender m = true →
          ((Event.send sender.sa (.refuse m.sessionID) ∉ x.post.out ∧
            x.post = x.pre.begin x.input) ↔ FirstServed x.pre sender m) := by
  intro x hx
  obtain ⟨h₁, h₂, -, hrun, hstep⟩ := run.split hx
  have hk := (step_kind (run_sound hrun) hstep).2
  exact ⟨fun dest sid hmem => hk.refuse hmem, fun w sender m hm d hd hlive =>
    hk.ignored_iff hm hd hlive⟩

/-- The packets of a client whose `REQUEST` and `MANAGE` both arrive twice. -/
def doubled : List Input :=
  [.request (World.lan 20 7) Netaddr.guest (Request.plain 0 []),
    .manage (World.lan 20 7) Netaddr.guest ⟨1, 0, []⟩,
    .request (World.lan 21 7) Netaddr.guest (Request.plain 0 []),
    .manage (World.lan 21 7) Netaddr.guest ⟨1, 0, []⟩]

/-- A client whose `REQUEST` is repeated late is refused the session that it has. -/
theorem live_session_refused : ∃ h s, DaemonRun Config.open 0 h s ∧
    h.map Step.input = doubled ∧ ∃ x ∈ h, refusesLive x = true :=
  exists_run_on _ (by decide +kernel)

/-- Without the second `REQUEST` the repeated `MANAGE` is ignored. -/
theorem live_session_ignored : ∃ h s, DaemonRun Config.open 0 h s ∧
    ∃ x ∈ h, (liveManage x).isSome = true ∧ x.post = x.pre.begin x.input := by
  obtain ⟨h, s, run, x, hx, hfirst⟩ : ∃ h s, DaemonRun Config.open 0 h s ∧
      ∃ x ∈ h, (liveManage x).any (fun p => FirstServed x.pre p.1 p.2) = true :=
    exists_run_of_exec [.request (World.lan 20 7) Netaddr.guest (Request.plain 0 []),
      .manage (World.lan 20 7) Netaddr.guest ⟨1, 0, []⟩,
      .manage (World.lan 21 7) Netaddr.guest ⟨1, 0, []⟩] (by decide +kernel)
  obtain ⟨⟨sender, m⟩, hlive, hfirst⟩ := (Option.any_eq_true _ _).1 hfirst
  obtain ⟨w, hm, d, hd, hsession⟩ := liveManage_eq_some hlive
  refine ⟨h, s, run, x, hx, by simp [hlive], ?_⟩
  exact (((live_session_refused_iff run x hx).2 w sender m hm d hd hsession).2
    (of_decide_eq_true hfirst)).2

end Xdm
