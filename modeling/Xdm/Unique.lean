/-
# The names of the displays

`ParseDisplay` and `manage` look for a display by its name before they enter one.  What
`manage` finds it stops; but a display with a server stays in the list until the server has
ended, and then there are two displays with the name.
-/
import Xdm.Managing
import Xdm.Operations

namespace Xdm

open Prog

variable {config : Config} {g : Nat} {h : List (Step State Input)} {s s' t : State} {i : Input}
variable {w : World} {fd : Int} {sender : Netaddr} {m : Manage} {pdpy : ProtoDisplay} {name : Str}
variable {d x : Display}

/-- No two displays have the same name. -/
def State.UniqueNames (s : State) : Prop := Keyed.Distinct Display.name s.displays

instance (s : State) : Decidable s.UniqueNames :=
  inferInstanceAs (Decidable (s.displays.map Display.name).Nodup)

/-- `FindDisplayByName` finds the only display with the name. -/
lemma State.UniqueNames.find (hs : s.UniqueNames) (hd : d ∈ s.displays) :
    findDisplayByName d.name s.displays = some d := by
  unfold findDisplayByName
  cases hfind : s.displays.find? fun x => decide (d.name = x.name) with
  | none => simpa using List.find?_eq_none.1 hfind d hd
  | some x =>
    have hname : d.name = x.name := by simpa using List.find?_some hfind
    rw [hs.eq_of_mem (List.mem_of_find?_eq_some hfind) hd hname.symm]

lemma State.UniqueNames.congr (hs : s.UniqueNames) (hd : s'.displays = s.displays) :
    s'.UniqueNames := by
  rw [State.UniqueNames, hd]
  exact hs

lemma uniqueNames_write {a : Nat} {f : Display → Display} (hs : s.UniqueNames)
    (hf : ∀ d, (f d).name = d.name) : (s.write a f).UniqueNames := by
  have hnames : (s.write a f).displays.map Display.name = s.displays.map Display.name :=
    Keyed.map_modify fun d _ _ => hf d
  rw [State.UniqueNames, Keyed.Distinct, hnames]
  exact hs

/-- A display that is entered in front of the list. -/
lemma uniqueNames_cons (hs : s'.displays = x :: t.displays) :
    s'.UniqueNames ↔ (∀ d ∈ t.displays, d.name ≠ x.name) ∧ t.UniqueNames := by
  unfold State.UniqueNames Keyed.Distinct
  rw [hs, List.map_cons, List.nodup_cons, List.mem_map]
  refine and_congr_left fun _ => ?_
  constructor
  · exact fun hno d hd hname => hno ⟨d, hd, hname⟩
  · rintro hno ⟨d, hd, hname⟩
    exact hno d hd hname

/-! ### The operations of the main loop -/

/-- Whatever the states. -/
def AnyStates (_ _ : State) : Prop := True

instance : Std.Refl AnyStates := ⟨fun _ => trivial⟩
instance : IsTrans State AnyStates := ⟨fun _ _ _ _ _ => trivial⟩

/-- The program keeps the names of the displays distinct. -/
abbrev KeepsUnique (p : M Unit) : Prop := Keeps State.UniqueNames AnyStates p

lemma Shrinks.uniqueNames (h : Shrinks s s') (hs : s.UniqueNames) : s'.UniqueNames := by
  have hnames : (s'.displays.map Display.name).Sublist (s.displays.map Display.name) := by
    have := h.map Identity.name
    rwa [List.map_map, List.map_map] at this
  exact List.Nodup.sublist hnames hs

/-- A line of the servers file enters a display only if there is none with its name. -/
lemma keepsUnique_parseDisplay (source : Str) : KeepsUnique (parseDisplay source) := by
  intro s hs
  refine wlp_parseDisplay_of source ⟨hs, trivial⟩
    (fun _ _ => ⟨uniqueNames_write hs fun _ => rfl, trivial⟩)
    fun {name _ className _} _ hfresh => ⟨?_, trivial⟩
  have henter : (s.enter (newDisplayAt s.nextAddr name className)).UniqueNames :=
    (uniqueNames_cons rfl).2 ⟨hfresh, hs⟩
  exact uniqueNames_write henter fun _ => rfl

lemma operates_unique : Operates State.UniqueNames AnyStates :=
  Operates.of_works Shrinks.works (fun _ _ hs h => ⟨h.uniqueNames hs, trivial⟩)
    keepsUnique_parseDisplay (fun _ => Keeps.modify fun _ hs => ⟨hs.congr rfl, trivial⟩)
    fun _ => Keeps.modify fun _ hs => ⟨hs.congr rfl, trivial⟩

/-! ### `MANAGE` -/

/-- The display found by the name has a server, and stays in the list as a zombie. -/
def staysBehind (name : Str) (displays : List Display) : Bool :=
  (findDisplayByName name displays).any fun d => decide (d.serverPid ≠ -1)

/-- The name is free once the active session has been terminated, unless its display has a
server. -/
lemma name_free_iff (hu : s.UniqueNames) :
    (∀ d ∈ (s.terminated name).displays, d.name ≠ name) ↔
      staysBehind name s.displays = false := by
  unfold State.terminated staysBehind
  cases hfind : findDisplayByName name s.displays with
  | none =>
    refine iff_of_true (fun d hd hname => ?_) rfl
    simpa [hname] using List.find?_eq_none.1 hfind d hd
  | some d =>
    have hd : d ∈ s.displays := List.mem_of_find?_eq_some hfind
    have hname : name = d.name := by simpa using List.find?_some hfind
    simp only [Option.any_some]
    by_cases hserver : d.serverPid = -1
    · rw [decide_eq_false (not_not.2 hserver)]
      refine iff_of_true (fun x hx hxname => ?_) rfl
      unfold State.stopped at hx
      rw [if_neg (not_not.2 hserver)] at hx
      obtain ⟨hx, hne⟩ := State.mem_remove.1 hx
      exact hne (congrArg Display.addr (hu.eq_of_mem hx hd (hxname.trans hname)))
    · rw [decide_eq_true hserver]
      refine iff_of_false (fun hno => ?_) (by simp)
      refine hno { d with status := .zombie } ?_ hname.symm
      unfold State.stopped
      rw [if_pos hserver]
      exact State.mem_write.2 (Or.inl ⟨d, hd, rfl, rfl⟩)

/-- The `MANAGE` enters a display under the name of one that stays behind. -/
def collides (w : World) (sender : Netaddr) (m : Manage) (s : State) : Bool :=
  match findProtoDisplay sender m.displayNumber s.protoDisplays with
  | none => false
  | some pdpy => decide (pdpy.sessionID = m.sessionID) && w.alloc.display &&
    (nameOf w s.config sender pdpy).any fun name => staysBehind name s.displays

lemma Display.StartsAs.name_eq {y : Display} (h : x.StartsAs y) : y.name = x.name := by
  cases h <;> rfl

lemma startManaged_unique (hs : s.Sound [] none) (hu : s.UniqueNames)
    (hrun : startManaged w fd sender m pdpy s = some ((), s')) :
    s'.UniqueNames ↔ (w.alloc.display &&
      (nameOf w s.config sender pdpy).any fun name => staysBehind name s.displays) = false := by
  obtain ⟨q, t, hways, hrun⟩ := managePath_of_run hs hrun
  have hterminated : ∀ name, (s.terminated name).UniqueNames := fun name =>
    (shrinks_terminated s name).uniqueNames hu
  -- a display with the name in front of what is left
  have hfront : ∀ {name x}, nameOf w s.config sender pdpy = some name →
      w.alloc.display = true → x.name = name →
      s'.displays = x :: (s.terminated name).displays →
      (s'.UniqueNames ↔ (w.alloc.display &&
        (nameOf w s.config sender pdpy).any fun name => staysBehind name s.displays) = false) := by
    rintro name x hname hdisplay rfl hdisplays
    rw [hname, hdisplay, Bool.true_and, Option.any_some, ← name_free_iff hu,
      uniqueNames_cons hdisplays]
    exact and_iff_left (hterminated _)
  cases hways with
  | noName hname =>
    obtain ⟨-, rfl⟩ := Prod.mk.inj (Option.some.inj hrun)
    rw [hname, Option.any_none, Bool.and_false]
    exact iff_of_true (hu.congr rfl) rfl
  | noMemory name hname hdisplay =>
    obtain ⟨-, rfl⟩ := Prod.mk.inj (Option.some.inj hrun)
    rw [hdisplay, Bool.false_and]
    exact iff_of_true ((hterminated name).congr rfl) rfl
  | leaked name hname hdisplay _ =>
    obtain ⟨-, rfl⟩ := Prod.mk.inj (Option.some.inj hrun)
    exact hfront hname hdisplay (x := managedDisplay w fd sender m pdpy name
      (s.terminated name)) rfl (congrArg _ (State.askedChooser_displays ..))
  | ready name hname hdisplay _ =>
    obtain ⟨k, y, rfl, hy⟩ := wlp_startReady hs _ _ hrun
    exact hfront hname hdisplay hy.name_eq
      (congrArg _ (State.settled_displays _ w sender pdpy))

/-! ### Runs -/

/-- The step is a `MANAGE` that enters a display under the name of one that stays behind. -/
def nameTaken (x : Step State Input) : Bool :=
  x.input.manage?.any fun p => collides p.1 p.2.1 p.2.2 x.pre

/-- The rule for steps. -/
lemma step_unique_iff (hs : s.Sound [] none) (hu : s.UniqueNames)
    (hstep : step i s = some ((), s')) :
    s'.UniqueNames ↔ nameTaken ⟨s, i, s'⟩ = false := by
  unfold nameTaken
  cases hm : i.manage? with
  | none =>
    refine iff_of_true ?_ rfl
    cases hi : i.isInternal with
    | false => exact hu.congr (step_displays hi hm hstep)
    | true =>
      exact (operates_unique.operation hi (s.begin i) (hu.congr rfl) _ _
        (operation_of_step hstep)).1
  | some p =>
    obtain ⟨w, sender, m⟩ := p
    have hop := operation_of_step hstep
    obtain ⟨fd, hfd⟩ := operation_of_manage hm
    rw [hfd] at hop
    change s'.UniqueNames ↔ collides w sender m s = false
    unfold collides
    cases (wlp_answerManage (hs.begin i) _ _ hop).2 with
    | stale pdpy hfind hid heq =>
      rw [State.begin] at hfind
      subst heq
      simp only [hfind, hid, decide_false, Bool.false_and]
      exact iff_of_true (hu.congr rfl) trivial
    | unknown hfind _ heq =>
      rw [State.begin] at hfind
      subst heq
      simp only [hfind]
      exact iff_of_true (hu.congr rfl) trivial
    | ignored d hfind _ _ heq =>
      rw [State.begin] at hfind
      subst heq
      simp only [hfind]
      exact iff_of_true (hu.congr rfl) trivial
    | managed pdpy hfind hid _ =>
      rw [answerManage_eq hfind hid] at hop
      rw [State.begin] at hfind
      simp only [hfind, hid, decide_true, Bool.true_and]
      exact startManaged_unique (s := s.begin i) (hs.begin i) (hu.congr rfl) hop

/-- In every run the names of the displays are pairwise distinct after each operation, so that
`FindDisplayByName` finds the only display with a name, if and only if no `MANAGE` enters a
display under the name of one that has a server and so stays in the list. -/
theorem display_names_unique_iff (run : DaemonRun config g h s) :
    (∀ x ∈ h, x.post.UniqueNames ∧
      ∀ d ∈ x.post.displays, findDisplayByName d.name x.post.displays = some d) ↔
    ∀ x ∈ h, nameTaken x = false := by
  have hinit : (State.initial config g).UniqueNames := List.nodup_nil
  constructor
  · intro hposts x hx
    obtain ⟨h₁, h₂, rfl, hrun, hstep⟩ := run.split hx
    have hpre : x.pre.UniqueNames := hrun.reached hinit fun y hy =>
      (hposts y (List.mem_append_left _ hy)).1
    exact (step_unique_iff (run_sound hrun) hpre hstep).1 (hposts x hx).1
  · intro hfree
    have hinv : s.UniqueNames ∧ ∀ x ∈ h, x.post.UniqueNames := by
      refine run.invariant_of (C := fun x => nameTaken x = false)
        (I := fun h s => s.UniqueNames ∧ ∀ x ∈ h, x.post.UniqueNames) ⟨hinit, by simp⟩ ?_ hfree
      intro h s i s' hrun hI hstep hC
      have hs' : s'.UniqueNames := (step_unique_iff (run_sound hrun) hI.1 hstep).2 hC
      refine ⟨hs', fun x hx => ?_⟩
      rcases List.mem_append.1 hx with hx | hx
      · exact hI.2 x hx
      · rw [List.mem_singleton.1 hx]
        exact hs'
    exact fun x hx => ⟨hinv.2 x hx, fun d hd => (hinv.2 x hx).find hd⟩

/-! ### A name that is taken -/

/-- The world of a host with a local display that has the name of a remote one. -/
def World.namesake : World :=
  { World.lan 20 7 with
    config := { Config.open with servers := "10.0.0.2:0 local /usr/bin/X :0".toList }
    forks := [some 10, some 11]
    pauses := [false] }

/-- A daemon with this display gets a `REQUEST` and a `MANAGE` from the remote one. -/
def namesakes : List Input :=
  [.startUp World.namesake, .request (World.lan 20 7) Netaddr.guest (Request.plain 0 []),
    .manage (World.lan 21 7) Netaddr.guest ⟨1, 0, []⟩]

/-- The local display has been stopped, and the remote one has its name. -/
theorem display_names_clash : ∃ h s, DaemonRun Config.open 0 h s ∧
    h.map Step.input = namesakes ∧ ¬ s.UniqueNames ∧
    s.displays.map Display.status = [.running, .zombie] :=
  exists_run_on _ (by decide +kernel)

/-- Without the `MANAGE` the names are distinct. -/
theorem display_names_unique : ∃ h s, DaemonRun Config.open 0 h s ∧ h.length = 2 ∧
    ∀ x ∈ h, x.post.UniqueNames ∧
      ∀ d ∈ x.post.displays, findDisplayByName d.name x.post.displays = some d := by
  obtain ⟨h, s, run, hlength, hfree⟩ : ∃ h s, DaemonRun Config.open 0 h s ∧ h.length = 2 ∧
      ∀ x ∈ h, nameTaken x = false :=
    exists_run_of_exec (namesakes.take 2) (by decide +kernel)
  exact ⟨h, s, run, hlength, (display_names_unique_iff run).2 hfree⟩

end Xdm
