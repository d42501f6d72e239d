/-
# Missing fields of a display

A display that `MANAGE` has entered has no argument vector, and a line of the servers file
may enter one without a class.  `ParseDisplay` follows both pointers when it finds a display
by its name.  Here its lines may come at any point of a run: between two operations of the
daemon, and in the middle of one.
-/
import Xdm.Happenings
import Xdm.ServersFile

namespace Xdm

open Prog

variable {config : Config} {g : Nat} {s s' t : State} {w : World} {fd : Int} {sender : Netaddr}
variable {m : Manage} {pdpy : ProtoDisplay} {i : Input} {d x : Display} {e : Entry} {line : Str}

/-! ### Where a line may be parsed -/

/-- What may have happened when a line is parsed: whole operations, and of the operation on
its way the deaths it has dealt with, the displays it has marked, and the lines before. -/
inductive Before
  | operation (i : Input)
  | child (e : Exit)
  | mark (d : Nat)
  | line (source : Str)

def Before.perform : Before → M Unit
  | .operation i => step i
  | .child e => childEnded e
  | .mark d => markDisplay d
  | .line source => parseDisplay source

/-- The runs up to the points where a line may be parsed. -/
abbrev LineRun (config : Config) (globalSessionID : Nat) :
    List (Prog.Step State Before) → State → Prop :=
  Prog.Run Before.perform (State.initial config globalSessionID)

/-- The daemon between two operations is at such a point. -/
theorem lineRun_of_run {h : List (Step State Input)} (run : DaemonRun config g h s) :
    ∃ hs, LineRun config g hs s ∧ hs.map Step.input = h.map fun x => .operation x.input := by
  induction run with
  | nil => exact ⟨[], .nil, rfl⟩
  | @snoc h s s' i _ hstep ih =>
    obtain ⟨hs, hrun, hinputs⟩ := ih
    have hmove : (Before.operation i).perform s = some ((), s') := hstep
    exact ⟨hs ++ [⟨s, .operation i, s'⟩], hrun.snoc hmove, by simp [hinputs]⟩

/-! ### Who has no argument vector -/

/-- The displays of XDMCP, and no others, have no argument vector. -/
def State.Sourced (s : State) : Prop :=
  ∀ d ∈ s.displays, d.argv = none ↔ d.displayType.origin = .fromXDMCP

lemma State.Sourced.congr (hs : s.Sourced) (hd : s'.displays = s.displays) : s'.Sourced := by
  intro d hd'
  exact hs d (hd ▸ hd')

/-- Who is there has been there, or has what `P` says. -/
lemma State.Sourced.of_old (hs : s.Sourced)
    (hold : ∀ x ∈ s'.displays, (∃ y ∈ s.displays, y.identity = x.identity) ∨
      (x.argv = none ↔ x.displayType.origin = .fromXDMCP)) : s'.Sourced := by
  intro x hx
  rcases hold x hx with ⟨y, hy, hid⟩ | hnew
  · rw [← show y.argv = x.argv from congrArg Identity.argv hid,
      ← show y.displayType = x.displayType from congrArg Identity.displayType hid]
    exact hs y hy
  · exact hnew

/-- A display is as it was, or comes from a line. -/
lemma wlp_parseDisplay_members (source : Str) (s : State) : Wlp (parseDisplay source)
    (fun _ t => ∀ x ∈ t.displays, x ∈ s.displays ∨
      x.argv ≠ none ∧ x.displayType.origin = .fromFile) s := by
  -- a store of the line into a list of old displays and those the line is stored into
  have hstored : ∀ (u : State) (a : Nat) (f : Display → Display),
      (∀ x ∈ u.displays, x ∈ s.displays ∨ x.addr = a) →
      (∀ x, (f x).argv ≠ none ∧ (f x).displayType.origin = .fromFile) →
      ∀ x ∈ (u.write a f).displays, x ∈ s.displays ∨
        x.argv ≠ none ∧ x.displayType.origin = .fromFile := by
    intro u a f hu hf x hx
    rcases State.mem_write.1 hx with ⟨y, -, -, rfl⟩ | ⟨hx, hne⟩
    · exact Or.inr (hf y)
    · exact Or.inl ((hu x hx).resolve_right hne)
  refine wlp_parseDisplay_of source (fun x hx => Or.inl hx)
    (fun horigin _ => hstored s _ _ (fun x hx => Or.inl hx) fun _ => ⟨nofun, horigin⟩)
    fun horigin _ => hstored _ _ _ (fun x hx => ?_) fun _ => ⟨nofun, horigin⟩
  rcases List.mem_cons.1 hx with rfl | hx
  · exact Or.inr rfl
  · exact Or.inl hx

lemma sourced_parseDisplay (source : Str) :
    Keeps State.Sourced AnyStates (parseDisplay source) := by
  intro s hs
  refine (wlp_parseDisplay_members source s).mono fun _ t ht => ⟨hs.of_old fun x hx => ?_, trivial⟩
  rcases ht x hx with hold | ⟨hargv, horigin⟩
  · exact Or.inl ⟨x, hold, rfl⟩
  · refine Or.inr (iff_of_false hargv ?_)
    rw [horigin]
    exact nofun

lemma operates_sourced : Operates State.Sourced AnyStates :=
  Operates.of_works Shrinks.works
    (fun _ _ hs h => ⟨hs.of_old fun _ hx => Or.inl (h.mem hx), trivial⟩)
    sourced_parseDisplay (fun _ => Keeps.modify fun _ hs => ⟨hs.congr rfl, trivial⟩)
    fun _ => Keeps.modify fun _ hs => ⟨hs.congr rfl, trivial⟩

/-- The display that `manage` enters is a display of XDMCP, and has no argument vector. -/
lemma startManaged_sourced (hs : s.Sound [] none) (hsourced : s.Sourced)
    (hrun : startManaged w fd sender m pdpy s = some ((), s')) : s'.Sourced := by
  obtain ⟨q, t, hways, hrun⟩ := managePath_of_run hs hrun
  have hold : ∀ name, ∀ x ∈ (s.terminated name).displays,
      ∃ y ∈ s.displays, y.identity = x.identity :=
    fun name x hx => (shrinks_terminated s name).mem hx
  cases hways with
  | noName =>
    obtain ⟨-, rfl⟩ := Prod.mk.inj (Option.some.inj hrun)
    exact hsourced.congr rfl
  | noMemory name =>
    obtain ⟨-, rfl⟩ := Prod.mk.inj (Option.some.inj hrun)
    exact hsourced.of_old fun x hx => Or.inl (hold name x hx)
  | leaked name =>
    obtain ⟨-, rfl⟩ := Prod.mk.inj (Option.some.inj hrun)
    refine hsourced.of_old fun x hx => ?_
    rcases List.mem_cons.1 hx with rfl | hx
    · exact Or.inr (iff_of_true rfl rfl)
    · rw [State.askedChooser_displays] at hx
      exact Or.inl (hold name x hx)
  | ready name =>
    obtain ⟨k, y, rfl, hy⟩ := wlp_startReady hs _ _ hrun
    refine hsourced.of_old fun x hx => ?_
    rcases List.mem_cons.1 hx with rfl | hx
    · have hid := hy.identity_eq
      refine Or.inr (iff_of_true ?_ ?_)
      · exact congrArg Identity.argv hid
      · exact congrArg (fun i : Identity => i.displayType.origin) hid
    · rw [State.settled_displays] at hx
      exact Or.inl (hold name x hx)

lemma step_sourced (hs : s.Sound [] none) (hsourced : s.Sourced)
    (hstep : step i s = some ((), s')) : s'.Sourced := by
  have hop := operation_of_step hstep
  have hbegin : (s.begin i).Sourced := hsourced
  cases hm : i.manage? with
  | none =>
    cases hi : i.isInternal with
    | false => exact hsourced.congr (step_displays hi hm hstep)
    | true => exact (operates_sourced.operation hi _ hbegin _ _ hop).1
  | some p =>
    obtain ⟨w, sender, m⟩ := p
    obtain ⟨fd, hfd⟩ := operation_of_manage hm
    rw [hfd] at hop
    cases (wlp_answerManage (hs.begin i) _ _ hop).2 with
    | stale _ _ _ heq => exact heq ▸ hsourced.congr rfl
    | unknown _ _ heq => exact heq ▸ hsourced.congr rfl
    | ignored _ _ _ _ heq => exact heq ▸ hsourced.congr rfl
    | managed pdpy hfind hid _ =>
      rw [answerManage_eq hfind hid] at hop
      exact startManaged_sourced (hs.begin i) hbegin hop

/-- At every point where a line may be parsed. -/
theorem lineRun_sourced {h : List (Step State Before)} (run : LineRun config g h s) :
    s.Sound [] none ∧ s.Sourced := by
  refine run.invariant (I := fun s => s.Sound [] none ∧ s.Sourced)
    ⟨run_sound .nil, List.forall_mem_nil _⟩ ?_
  rintro s x s' ⟨hs, hsourced⟩ hmove
  cases x with
  | operation i => exact ⟨(step_kind hs hmove).1, step_sourced hs hsourced hmove⟩
  | child e =>
    exact ⟨(keeps_childEnded e s hs _ _ hmove).1,
      (operates_sourced.childEnded e s hsourced _ _ hmove).1⟩
  | mark a =>
    exact ⟨(keeps_markDisplay a s hs _ _ hmove).1,
      (operates_sourced.markDisplay a s hsourced _ _ hmove).1⟩
  | line source =>
    exact ⟨(keeps_parseDisplay source s hs _ _ hmove).1,
      (sourced_parseDisplay source s hsourced _ _ hmove).1⟩

/-! ### The lines that go astray -/

/-- The line is about a display of XDMCP, or gives a class to a display that has none. -/
def lacksField (line : Str) (displays : List Display) : Bool :=
  (entryOfLine line).any fun e => (findDisplayByName e.name displays).any fun d =>
    decide (d.displayType.origin = .fromXDMCP ∨ e.className.isSome ∧ d.className = none)

/-- A line without a name and a type does nothing. -/
lemma parseDisplay_skips (hline : entryOfLine line = none) (s : State) :
    parseDisplay line s = some ((), s) := by
  unfold entryOfLine at hline
  rcases hwords : splitIntoWords line with _ | ⟨name, _ | ⟨type, rest⟩⟩
  · simp only [parseDisplay, hwords]
    rfl
  · simp only [parseDisplay, hwords]
    rfl
  · simp only [hwords] at hline
    cases hline

/-- A store returns. -/
lemma writeDisplay_isSome (a : Nat) (f : Display → Display) (s : State) :
    (writeDisplay a f s).isSome = true := by
  unfold writeDisplay
  rw [get_bind]
  cases Keyed.find Display.addr a s.displays with
  | none => rfl
  | some d => rfl

/-- `ParseDisplay` has an outcome unless it follows a null pointer. -/
lemma parseDisplay_isSome (hline : entryOfLine line = some e) (s : State) :
    (parseDisplay line s).isSome = true ↔ ∀ d, findDisplayByName e.name s.displays = some d →
      ¬ (e.className.isSome ∧ d.className = none) ∧ d.argv ≠ none := by
  cases hfind : findDisplayByName e.name s.displays with
  | none =>
    refine iff_of_true ?_ fun d hd => by cases hd
    rw [parseDisplay_missing hline hfind]
    exact writeDisplay_isSome ..
  | some d =>
    rw [parseDisplay_found hline hfind]
    constructor
    · intro hreturns d' hd'
      obtain rfl := Option.some.inj hd'
      by_contra hnull
      rw [if_pos (by tauto)] at hreturns
      cases hreturns
    · intro hfields
      rw [if_neg (by have := hfields d rfl; tauto)]
      exact writeDisplay_isSome ..

/-- For every list of displays at a point of a run where a line may be parsed, and every line:
`ParseDisplay` follows no null pointer if and only if the line is not about a display of
XDMCP, and does not give a class to a display that has none. -/
theorem parseDisplay_fields_iff {h : List (Step State Before)} (run : LineRun config g h s)
    (hlist : t.displays = s.displays) (line : Str) :
    (parseDisplay line t).isSome = true ↔ lacksField line t.displays = false := by
  have hsourced : t.Sourced := (lineRun_sourced run).2.congr hlist
  unfold lacksField
  cases hline : entryOfLine line with
  | none => exact iff_of_true (by rw [parseDisplay_skips hline, Option.isSome_some]) rfl
  | some e =>
    rw [parseDisplay_isSome hline, Option.any_some]
    cases hfind : findDisplayByName e.name t.displays with
    | none => exact iff_of_true (fun d hd => by cases hd) rfl
    | some d =>
      have hargv := hsourced d (List.mem_of_find?_eq_some hfind)
      rw [Option.any_some, decide_eq_false_iff_not]
      constructor
      · intro hfields
        obtain ⟨hclass, hargs⟩ := hfields d rfl
        rintro (horigin | hnull)
        · exact hargs (hargv.2 horigin)
        · exact hclass hnull
      · intro hgood d' hd'
        obtain rfl := Option.some.inj hd'
        exact ⟨fun hnull => hgood (Or.inr hnull), fun hnull => hgood (Or.inl (hargv.1 hnull))⟩

/-- A servers file names a display that `MANAGE` has entered, and another one gives a class to a
display that it has entered without one: both lines are read through a null pointer. -/
theorem parseDisplay_astray :
    (∃ h s, DaemonRun Config.open 0 h s ∧
      s.displays.map Display.argv = [none] ∧
      parseDisplay "10.0.0.2:0 foreign".toList s = none) ∧
    ∃ h s, DaemonRun Config.plain 0 h s ∧
      s.displays.map Display.className = [none] ∧
      parseDisplay ":0 Visual local /usr/bin/X :0".toList s = none := by
  have hnone : ∀ {line s}, (parseDisplay line s).isNone = true → parseDisplay line s = none :=
    fun h => Option.isNone_iff_eq_none.1 h
  constructor
  · obtain ⟨h, s, run, hargv, hline⟩ : ∃ h s, DaemonRun Config.open 0 h s ∧
        s.displays.map Display.argv = [none] ∧
        (parseDisplay "10.0.0.2:0 foreign".toList s).isNone = true :=
      exists_run_of_exec [.request (World.lan 20 7) Netaddr.guest (Request.plain 0 []),
        .manage (World.lan 21 7) Netaddr.guest ⟨1, 0, []⟩] (by decide +kernel)
    exact ⟨h, s, run, hargv, hnone hline⟩
  · obtain ⟨h, s, run, hclass, hline⟩ : ∃ h s, DaemonRun Config.plain 0 h s ∧
        s.displays.map Display.className = [none] ∧
        (parseDisplay ":0 Visual local /usr/bin/X :0".toList s).isNone = true :=
      exists_run_of_exec [.startUp World.solo] (by decide +kernel)
    exact ⟨h, s, run, hclass, hnone hline⟩

/-- The line of a display that it has entered can be read again. -/
theorem parseDisplay_fields : ∃ h s, LineRun Config.plain 0 h s ∧
    s.displays.map Display.name = [":0".toList] ∧
    (parseDisplay ":0 local /usr/bin/X :0 -terminate".toList s).isSome = true := by
  obtain ⟨h, s, run, hname, hfields⟩ : ∃ h s, DaemonRun Config.plain 0 h s ∧
      s.displays.map Display.name = [":0".toList] ∧
      lacksField ":0 local /usr/bin/X :0 -terminate".toList s.displays = false :=
    exists_run_of_exec [.startUp World.solo] (by decide +kernel)
  obtain ⟨hs, hrun, -⟩ := lineRun_of_run run
  exact ⟨hs, s, hrun, hname, (parseDisplay_fields_iff hrun rfl _).2 hfields⟩

end Xdm
