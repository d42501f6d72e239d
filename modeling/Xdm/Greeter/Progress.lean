/-
# Progress of the login loop

One step of the loop is one PAM call.  The calls of a pass are followed by the next pass, or by an
end of the loop, as long as PAM can start and end its handles.  Otherwise the error macro jumps
back to `pam_done` for ever.
-/
import Xdm.Greeter.Greet
import Xdm.Lib.LeadsTo

namespace Xdm.Greeter

/-! ### Handles -/

/-- What `*pamhp` points to. -/
inductive Handle
  | null
  | live
  | ended
deriving DecidableEq

/-- After `pam_end` the handle is no longer valid, whatever it has returned. -/
def Call.leaves (result : PamResult) (handle : Handle) : Call → Handle
  | pamStart _ => if result = .success then .live else .null
  | pamEnd _ => .ended
  | _ => handle

def Call.usesHandle : Call → Bool
  | pamStart _ => false
  | _ => true

/-! ### Executions -/

/-- `code` is the exit code of the greeter, a static variable of `greeter/greet.c`. -/
structure Loop where
  state : State
  handle : Handle
  code : Int

def Loop.initial (allowNullPasswd allowRootLogin : Bool) : Loop :=
  ⟨.initial allowNullPasswd allowRootLogin, .null, 0⟩

/-- The call that the loop makes now, unless it has come to an end. -/
def Loop.call (d : Dpy) (l : Loop) : Option Call := l.state.point.call d l.state

/-- One call, and the code up to the next one. -/
def Loop.next (d : Dpy) (l : Loop) (a : Answer) : Loop :=
  match l.call d with
  | none => l
  | some c => ⟨l.state.point.resume d a (l.state.answered c a), c.leaves a.result l.handle, a.code⟩

/-- A call on a null pointer or an ended handle fails.  Only modules of PAM talk to the user, which
may set the exit code. -/
def Loop.Possible (d : Dpy) (l : Loop) (a : Answer) : Prop :=
  ∀ c, l.call d = some c →
    (c.usesHandle = true → l.handle ≠ .live → a.result ≠ .success) ∧
      (c.runsModules = false → a.code = l.code)

/-- The loop after this many calls. -/
def loopAt (d : Dpy) (answers : ℕ → Answer) (l : Loop) : ℕ → Loop
  | 0 => l
  | n + 1 => (loopAt d answers l n).next d (answers n)

/-- `SessionExit` has been called, or the loop has been left. -/
def Point.isEnd : Point → Bool
  | sessionExit _ | loggedIn _ => true
  | _ => false

/-- `pam_chauthtok` is called again. -/
def PamResult.retried (result : PamResult) : Bool := result = .authtokErr ∨ result = .tryAgain

variable {d : Dpy} {a : Answer} {s : State} {l : Loop}

/-- The machine is that of the passes. -/
lemma Loop.next_step (hcall : l.call d ≠ none) :
    step d a l.state = some ((), (l.next d a).state) := by
  obtain ⟨c, hc⟩ := Option.ne_none_iff_exists'.1 hcall
  have hc' : l.state.point.call d l.state = some c := hc
  rw [step, hc', Loop.next, hc]
  rfl

lemma Loop.next_eq {c : Call} (hc : l.call d = some c) : l.next d a =
    ⟨l.state.point.resume d a (l.state.answered c a), c.leaves a.result l.handle, a.code⟩ := by
  rw [next, hc]

/-! ### One call -/

/-- The points in the order in which a pass comes to them. -/
def Point.rank : Point → ℕ
  | start => 9
  | setPrompt _ => 8
  | setHost => 7
  | authenticate => 6
  | acctMgmt => 5
  | chauthtok => 4
  | setcred => 3
  | getUser => 2
  | getFailed => 1
  | finish => 0
  | sessionExit _ | loggedIn _ => 0

lemma rank_le (point : Point) : point.rank ≤ 9 := by cases point <;> simp [Point.rank]

/-- Where the code at `pam_done` goes on. -/
def State.failedPoint (s : State) : Point := if s.greet.name = none then .getFailed else .finish

/-- What there is at `pam_done`. -/
structure AtDone (a : Answer) (s s' : State) : Prop where
  pass : s'.pass = s.pass
  point : s'.point.isEnd = true ∨ a.code = 0 ∧ s'.point = s'.failedPoint
  failed : s.pamError ≠ .success → a.code = 0 → s'.point = s'.failedPoint

lemma atDone_pamDone (d : Dpy) (a : Answer) (s : State) : AtDone a s (s.pamDone d a) := by
  unfold State.pamDone
  by_cases hcode : a.code ≠ 0
  · rw [if_pos hcode]
    exact ⟨rfl, Or.inl rfl, fun _ h => absurd h hcode⟩
  have hcode' := not_not.1 hcode
  rw [if_neg hcode]
  -- nobody is verified after a call that has failed
  have hverified : s.pamError ≠ .success → (if s.pamError = .success then
      verifyPam a.accounts d s.greet else (none, s.greet)).1 = none := by
    intro hfailed
    rw [if_neg hfailed]
  generalize (if s.pamError = .success then verifyPam a.accounts d s.greet
    else (none, s.greet)) = verified at hverified
  obtain ⟨verify, greet⟩ := verified
  cases verify with
  | some verify =>
    exact ⟨rfl, Or.inl rfl, fun hfailed _ => (Option.some_ne_none _ (hverified hfailed)).elim⟩
  | none =>
    dsimp only
    cases hname : greet.name with
    | none =>
      have h : Point.getFailed = if greet.name = none then .getFailed else .finish := by
        rw [if_pos hname]
      exact ⟨rfl, Or.inr ⟨hcode', h⟩, fun _ _ => h⟩
    | some name =>
      have h : Point.finish = if greet.name = none then .getFailed else .finish := by
        rw [if_neg (hname ▸ Option.some_ne_none name)]
      exact ⟨rfl, Or.inr ⟨hcode', h⟩, fun _ _ => h⟩

/-- Where the exit code has been looked at, and no module has run since, it is zero.  The handle is
asked for the name of the user if there is none. -/
structure Loop.Steady (l : Loop) : Prop where
  code : l.state.point = .start ∨ l.state.point.isLate = true → l.code = 0
  named : l.state.point = .getFailed → l.state.greet.name = none

/-- The loop has come to an end, or to its next pass, or further in this one. -/
def Advanced (s s' : State) : Prop :=
  s'.point.isEnd = true ∨ s'.pass = s.pass + 1 ∨ s'.pass = s.pass ∧ s'.point.rank < s.point.rank

/-- The same call is made again. -/
def Loop.Repeats (l : Loop) (a : Answer) : Prop :=
  l.state.point = .chauthtok ∧ a.result.retried = true ∨
    l.state.point = .getFailed ∧ a.result ≠ .success

/-- There is no handle, or it has not been ended well. -/
def Loop.Jams (l : Loop) (a : Answer) : Prop :=
  (l.state.point = .start ∨ l.state.point = .finish) ∧ a.result ≠ .success

variable {s' t : State} {handle : Handle}

lemma failedPoint_late (s : State) : s.failedPoint.isLate = true ∧ s.failedPoint.rank < 2 ∧
    (s.failedPoint = .getFailed → s.greet.name = none) := by
  unfold State.failedPoint
  split_ifs with hname
  · exact ⟨rfl, by decide, fun _ => hname⟩
  · exact ⟨rfl, by decide, fun h => by cases h⟩

lemma not_late_of_end {point : Point} (h : point.isEnd = true) :
    ¬ (point = .start ∨ point.isLate = true) ∧ point ≠ .getFailed := by
  cases point with
  | sessionExit code => simp [Point.isLate]
  | loggedIn verify => simp [Point.isLate]
  | _ => cases h

lemma steady_of_done (h : AtDone a s s') : Loop.Steady ⟨s', handle, a.code⟩ := by
  rcases h.point with hend | ⟨hcode, hpoint⟩
  · exact ⟨fun h => absurd h (not_late_of_end hend).1, fun h => absurd h (not_late_of_end hend).2⟩
  · exact ⟨fun _ => hcode, fun h => (failedPoint_late s').2.2 (hpoint ▸ h)⟩

lemma advanced_of_done (h : AtDone a t s') (hpass : t.pass = s.pass)
    (hrank : 2 ≤ s.point.rank) : Advanced s s' := by
  rcases h.point with hend | ⟨-, hpoint⟩
  · exact Or.inl hend
  · refine Or.inr (Or.inr ⟨h.pass.trans hpass, ?_⟩)
    rw [hpoint]
    exact (failedPoint_late s').2.1.trans_le hrank

/-- A point to which a pass goes on before `pam_done`. -/
lemma steady_goto {point : Point} (hearly : point.isEarly = true) (hstart : point ≠ .start)
    {code : Int} : Loop.Steady ⟨s.goto point, handle, code⟩ where
  code h := by
    rcases h with h | h
    · exact absurd h hstart
    · exact absurd (not_isLate hearly) (by rw [show point.isLate = true from h]; decide)
  named h := by
    obtain rfl : point = .getFailed := h
    cases hearly

lemma advanced_goto {point point' : Point} (hpoint : s.point = point')
    (hpass : t.pass = s.pass) (hlt : point.rank < point'.rank) : Advanced s (t.goto point) :=
  Or.inr (Or.inr ⟨hpass, hpoint ▸ hlt⟩)

/-- A call that is checked. -/
lemma goes_check {point point' : Point} (hpoint : l.state.point = point') (c : Call)
    (hearly : point.isEarly = true) (hlt : point.rank < point'.rank)
    (hrank : 2 ≤ point.rank) :
    Loop.Steady ⟨(l.state.answered c a).runAndCheck d a fun s => s.goto point, handle, a.code⟩ ∧
    Advanced l.state ((l.state.answered c a).runAndCheck d a fun s => s.goto point) := by
  subst hpoint
  have hstart : point ≠ .start := by
    rintro rfl
    exact absurd (hlt.trans_le (rank_le l.state.point)) (by decide)
  unfold State.runAndCheck
  split_ifs with hresult
  · have hdone := atDone_pamDone d a (l.state.answered c a)
    exact ⟨steady_of_done hdone, advanced_of_done hdone rfl (hrank.trans hlt.le)⟩
  · exact ⟨steady_goto hearly hstart, advanced_goto rfl rfl hlt⟩

lemma hostPoint_early (d : Dpy) (a : Answer) : (hostPoint d a).isEarly = true ∧
    2 ≤ (hostPoint d a).rank ∧ (hostPoint d a).rank < 8 := by
  unfold hostPoint
  split_ifs
  · exact ⟨rfl, by decide, by decide⟩
  · exact ⟨rfl, by decide, by decide⟩

lemma call_eq_none : l.call d = none ↔ l.state.point.isEnd = true := by
  unfold Loop.call
  cases l.state.point <;> simp [Point.call, Point.isEnd]

/-- One call keeps the loop steady, and advances it unless it is repeated or jams. -/
lemma loop_next (hl : l.Steady) (ha : l.Possible d a) : (l.next d a).Steady ∧
    (l.state.point.isEnd = false → ¬ l.Repeats a → ¬ l.Jams a →
      Advanced l.state (l.next d a).state) := by
  cases hc : l.call d with
  | none =>
    rw [Loop.next, hc]
    exact ⟨hl, fun hend => by simp [call_eq_none.1 hc] at hend⟩
  | some c =>
    obtain ⟨hhost, hrank, hlt⟩ := hostPoint_early d a
    rw [Loop.next_eq hc]
    cases hpoint : l.state.point with
    | start =>
      rw [Point.resume]
      cases a.loginPrompt with
      | some loginPrompt =>
        exact (goes_check hpoint c rfl (by simp [Point.rank]) (by simp [Point.rank])).imp_right
          fun h _ _ _ => h
      | none =>
        exact (goes_check hpoint c hhost (hlt.trans (by decide)) hrank).imp_right fun h _ _ _ => h
    | setPrompt loginPrompt =>
      exact (goes_check hpoint c hhost hlt hrank).imp_right fun h _ _ _ => h
    | setHost =>
      exact (goes_check hpoint c rfl (by decide) (by decide)).imp_right fun h _ _ _ => h
    | authenticate =>
      exact (goes_check hpoint c rfl (by decide) (by decide)).imp_right fun h _ _ _ => h
    | acctMgmt =>
      rw [Point.resume]
      split_ifs
      · exact ⟨steady_goto rfl (by simp), fun _ _ _ => advanced_goto hpoint rfl (by decide)⟩
      · exact (goes_check hpoint c rfl (by decide) (by decide)).imp_right fun h _ _ _ => h
    | chauthtok =>
      rw [Point.resume]
      split_ifs with hretried
      · refine ⟨steady_goto rfl (by simp), fun _ hrepeats => ?_⟩
        exact absurd (Or.inl ⟨hpoint, decide_eq_true hretried⟩) hrepeats
      · exact (goes_check hpoint c rfl (by decide) (by decide)).imp_right fun h _ _ _ => h
    | setcred =>
      exact (goes_check hpoint c rfl (by decide) (by decide)).imp_right fun h _ _ _ => h
    | getUser =>
      rw [Point.resume, State.runAndCheck]
      have hrank : 2 ≤ l.state.point.rank := by rw [hpoint]; decide
      split_ifs
      · have hdone := atDone_pamDone d a (l.state.answered c a)
        exact ⟨steady_of_done hdone, fun _ _ _ => advanced_of_done hdone rfl hrank⟩
      · have hdone := atDone_pamDone d a (l.state.answered c a).takeName
        refine ⟨steady_of_done hdone, fun _ _ _ => advanced_of_done hdone ?_ hrank⟩
        unfold State.takeName
        split <;> rfl
    | getFailed =>
      rw [Point.resume, State.runAndCheck]
      have hcode : a.code = 0 := by
        obtain rfl : Call.pamGetUser = c := by simpa [Loop.call, hpoint, Point.call] using hc
        exact ((ha _ hc).2 rfl).trans (hl.code (Or.inr (by rw [hpoint]; rfl)))
      split_ifs with hresult
      · exact ⟨steady_of_done (atDone_pamDone d a _), fun _ hrepeats =>
          absurd (Or.inr ⟨hpoint, hresult⟩) hrepeats⟩
      · exact ⟨⟨fun _ => hcode, fun h => by cases h⟩, fun _ _ _ =>
          advanced_goto hpoint rfl (by decide)⟩
    | finish =>
      rw [Point.resume, State.runAndCheck]
      have hcode : a.code = 0 := by
        obtain rfl : Call.pamEnd l.state.pamError = c := by
          simpa [Loop.call, hpoint, Point.call] using hc
        exact ((ha _ hc).2 rfl).trans (hl.code (Or.inr (by rw [hpoint]; rfl)))
      split_ifs with hresult
      · exact ⟨steady_of_done (atDone_pamDone d a _), fun _ _ hjams =>
          absurd ⟨Or.inr hpoint, hresult⟩ hjams⟩
      · exact ⟨⟨fun _ => hcode, fun h => by cases h⟩, fun _ _ _ => Or.inr (Or.inl rfl)⟩
    | sessionExit code => simp [Loop.call, hpoint, Point.call] at hc
    | loggedIn verify => simp [Loop.call, hpoint, Point.call] at hc

/-- A call that has no modules run has failed: the code at `pam_done` comes to another call of
`pam_get_item` or `pam_end`. -/
structure Loop.Failed (l l' : Loop) : Prop where
  pass : l'.state.pass = l.state.pass
  point : l'.state.point = l'.state.failedPoint
  name : l'.state.greet.name = l.state.greet.name
  handle : l'.handle = .live → l.state.point = .getFailed ∧ l.handle = .live

lemma runAndCheck_failed (hresult : a.result ≠ .success) {c : Call} {f : State → State} :
    (s.answered c a).runAndCheck d a f = (s.answered c a).pamDone d a := if_pos hresult

lemma failed_next (hl : l.Steady) (ha : l.Possible d a)
    (hpoint : l.state.point = .start ∨ l.state.point.isLate = true)
    (hresult : a.result ≠ .success) : l.Failed (l.next d a) := by
  have hfails : ∀ {c : Call}, l.call d = some c → c.runsModules = false →
      l.state.point.resume d a (l.state.answered c a) = (l.state.answered c a).pamDone d a →
      (c.leaves a.result l.handle = .live → l.state.point = .getFailed ∧ l.handle = .live) →
      l.Failed (l.next d a) := by
    intro c hc hmodules hresume hhandle
    have hcode : a.code = 0 := ((ha c hc).2 hmodules).trans (hl.code hpoint)
    rw [Loop.next_eq hc, hresume]
    exact ⟨(done_pamDone d a _).pass, (atDone_pamDone d a _).failed hresult hcode,
      (done_pamDone d a _).name, hhandle⟩
  cases h : l.state.point with
  | start =>
    refine hfails (c := .pamStart "xdm".toList) (by rw [Loop.call, h]; rfl) rfl ?_ ?_
    · rw [h, Point.resume, runAndCheck_failed hresult]
    · rw [Call.leaves, if_neg hresult]
      exact fun h => by cases h
  | getFailed =>
    refine hfails (c := .pamGetUser) (by rw [Loop.call, h]; rfl) rfl ?_ fun hlive => ⟨h, hlive⟩
    rw [h, Point.resume, runAndCheck_failed hresult]
  | finish =>
    refine hfails (c := .pamEnd l.state.pamError) (by rw [Loop.call, h]; rfl) rfl ?_ ?_
    · rw [h, Point.resume, runAndCheck_failed hresult]
    · exact fun h => by cases h
  | _ => simp [h, Point.isLate] at hpoint

lemma chauthtok_again (hpoint : l.state.point = .chauthtok) (hresult : a.result.retried = true) :
    (l.next d a).state.point = .chauthtok ∧ (l.next d a).state.pass = l.state.pass := by
  have hc : l.call d = some .pamChauthtok := by rw [Loop.call, hpoint]; rfl
  have hretried : (l.state.answered .pamChauthtok a).pamError = .authtokErr ∨
      (l.state.answered .pamChauthtok a).pamError = .tryAgain := of_decide_eq_true hresult
  rw [Loop.next_eq hc, hpoint, Point.resume, if_pos hretried]
  exact ⟨rfl, rfl⟩

/-- There is no handle, and what is left of the pass needs one. -/
structure Loop.Stuck (pass : ℕ) (l : Loop) : Prop where
  late : l.state.point.isLate = true
  handle : l.handle ≠ .live
  pass : l.state.pass = pass

lemma stuck_next {pass : ℕ} (hl : l.Steady) (ha : l.Possible d a) (h : l.Stuck pass) :
    (l.next d a).Stuck pass := by
  have hresult : a.result ≠ .success := by
    have hlate := h.late
    cases hpoint : l.state.point with
    | getFailed => exact (ha .pamGetUser (by rw [Loop.call, hpoint]; rfl)).1 rfl h.handle
    | finish =>
      exact (ha (.pamEnd l.state.pamError) (by rw [Loop.call, hpoint]; rfl)).1 rfl h.handle
    | _ => simp [hpoint, Point.isLate] at hlate
  have hfailed := failed_next hl ha (Or.inr h.late) hresult
  exact ⟨hfailed.point ▸ (failedPoint_late _).1, fun hlive => h.handle (hfailed.handle hlive).2,
    hfailed.pass.trans h.pass⟩

/-! ### Passes -/

variable {answers : ℕ → Answer} {k : ℕ}

/-- From each call on the loop comes to an end, or its pass does. -/
def Progresses (d : Dpy) (answers : ℕ → Answer) (l : Loop) : Prop :=
  ∀ n, ∃ m, n ≤ m ∧ ((loopAt d answers l m).state.point.isEnd = true ∨
    (loopAt d answers l n).state.pass < (loopAt d answers l m).state.pass)

/-- All answers are ones that PAM and the user can give. -/
def AllPossible (d : Dpy) (answers : ℕ → Answer) (l : Loop) : Prop :=
  ∀ n, (loopAt d answers l n).Possible d (answers n)

lemma steady_loopAt (hpossible : AllPossible d answers l) (hl : l.Steady) (n : ℕ) :
    (loopAt d answers l n).Steady := by
  induction n with
  | zero => exact hl
  | succ n ih => exact (loop_next ih (hpossible n)).1

/-- A pass that is stuck has no end. -/
lemma not_progresses_of_stuck (hpossible : AllPossible d answers l) (hl : l.Steady) {n : ℕ}
    (hend : (loopAt d answers l n).state.point.isEnd = false)
    (hstuck : (loopAt d answers l (n + 1)).Stuck (loopAt d answers l n).state.pass) :
    ¬ Progresses d answers l := by
  intro hprogress
  obtain ⟨m, hle, hm⟩ := hprogress n
  rcases Nat.lt_or_eq_of_le hle with hlt | rfl
  · have hstuck' : (loopAt d answers l m).Stuck (loopAt d answers l n).state.pass :=
      holds_after (P := fun m => (loopAt d answers l m).Stuck (loopAt d answers l n).state.pass)
        (fun m h => stuck_next (steady_loopAt hpossible hl m) (hpossible m) h) hstuck hlt
    rcases hm with hm | hm
    · exact (not_late_of_end hm).1 (Or.inr hstuck'.late)
    · exact Nat.lt_irrefl _ (hstuck'.pass ▸ hm)
  · rcases hm with hm | hm
    · rw [hend] at hm
      cases hm
    · exact Nat.lt_irrefl _ hm

/-- `pam_chauthtok` returns another code in the end. -/
def Settles (d : Dpy) (answers : ℕ → Answer) (l : Loop) : Prop :=
  ∀ n, (loopAt d answers l n).state.point = .chauthtok →
    ∃ m, n ≤ m ∧ (answers m).result.retried = false

/-- PAM starts a handle for each pass and ends it, and gives the name of a user who has been
refused in the end. -/
structure Handles (d : Dpy) (answers : ℕ → Answer) (l : Loop) : Prop where
  starts : ∀ n, (loopAt d answers l n).state.point = .start → (answers n).result = .success
  ends : ∀ n, (loopAt d answers l n).state.point = .finish → (answers n).result = .success
  names : ∀ n, (loopAt d answers l n).state.point = .getFailed →
    ∃ m, n ≤ m ∧ (answers m).result = .success

lemma handles_of_progresses (hpossible : AllPossible d answers l) (hl : l.Steady)
    (hprogress : Progresses d answers l) : Handles d answers l := by
  have hsteady := steady_loopAt hpossible hl
  have hjam : ∀ n, ((loopAt d answers l n).state.point = .start ∨
      (loopAt d answers l n).state.point = .finish) → (answers n).result = .success := by
    intro n hpoint
    by_contra hresult
    have hlate : (loopAt d answers l n).state.point = .start ∨
        (loopAt d answers l n).state.point.isLate = true :=
      hpoint.imp_right fun h => by rw [h]; rfl
    have hfailed := failed_next (hsteady n) (hpossible n) hlate hresult
    refine not_progresses_of_stuck hpossible hl (n := n) ?_ ⟨?_, fun hlive => ?_, hfailed.pass⟩
      hprogress
    · rcases hpoint with h | h <;> rw [h] <;> rfl
    · exact hfailed.point ▸ (failedPoint_late _).1
    · have h := (hfailed.handle hlive).1
      rcases hpoint with h' | h' <;> exact nomatch h'.symm.trans h
  refine ⟨fun n h => hjam n (Or.inl h), fun n h => hjam n (Or.inr h), fun n hpoint => ?_⟩
  by_contra hnever
  -- the name is asked for again and again
  have hagain : ∀ m, n ≤ m → (loopAt d answers l m).state.point = .getFailed ∧
      (loopAt d answers l m).state.pass = (loopAt d answers l n).state.pass := by
    intro m hle
    induction m, hle using Nat.le_induction with
    | base => exact ⟨hpoint, rfl⟩
    | succ m hle ih =>
      have hfailed := failed_next (hsteady m) (hpossible m) (Or.inr (by rw [ih.1]; rfl))
        fun h => hnever ⟨m, hle, h⟩
      refine ⟨?_, hfailed.pass.trans ih.2⟩
      rw [loopAt, hfailed.point, State.failedPoint, hfailed.name,
        if_pos ((hsteady m).named ih.1)]
  obtain ⟨m, hle, hm⟩ := hprogress n
  obtain ⟨hpoint, hpass⟩ := hagain m hle
  rcases hm with hm | hm
  · rw [hpoint] at hm
    cases hm
  · exact Nat.lt_irrefl _ (hpass ▸ hm)

lemma progresses_of_handles (hpossible : AllPossible d answers l) (hl : l.Steady)
    (hsettles : Settles d answers l) (hhandles : Handles d answers l) :
    Progresses d answers l := by
  have hsteady := steady_loopAt hpossible hl
  -- a pass comes to its end: from each point on it comes to one of a lower rank
  have hpass : ∀ k, LeadsTo
      (fun n => (loopAt d answers l n).state.point.isEnd = false ∧
        (loopAt d answers l n).state.pass = k)
      (fun n => (loopAt d answers l n).state.point.isEnd = true ∨
        k < (loopAt d answers l n).state.pass) := by
    intro k
    refine LeadsTo.of_rank (fun n => (loopAt d answers l n).state.point.rank) fun r n hn => ?_
    obtain ⟨⟨hend, hk⟩, hrank⟩ := hn
    generalize hp : (loopAt d answers l n).state.point = p at hend hrank
    refine LeadsTo.waits (P := fun n => (loopAt d answers l n).state.point = p ∧
        (loopAt d answers l n).state.pass = k)
      (E := fun n => ¬ (p = .chauthtok ∧ (answers n).result.retried = true ∨
        p = .getFailed ∧ (answers n).result ≠ .success)) ?_ ?_ ?_ n ⟨hp, hk⟩
    · rintro m ⟨hm, rfl⟩ hrepeats
      rcases not_not.1 hrepeats with ⟨rfl, hretried⟩ | ⟨rfl, hresult⟩
      · exact chauthtok_again hm hretried
      · have hfailed := failed_next (hsteady m) (hpossible m) (Or.inr (by rw [hm]; rfl)) hresult
        refine ⟨?_, hfailed.pass⟩
        rw [loopAt, hfailed.point, State.failedPoint, hfailed.name,
          if_pos ((hsteady m).named hm)]
    · rintro m ⟨rfl, rfl⟩ hrepeats
      have hjams : ¬ (loopAt d answers l m).Jams (answers m) := by
        rintro ⟨h | h, hresult⟩
        · exact hresult (hhandles.starts m h)
        · exact hresult (hhandles.ends m h)
      have hadvanced := (loop_next (hsteady m) (hpossible m)).2 hend hrepeats hjams
      by_cases hend' : (loopAt d answers l (m + 1)).state.point.isEnd = true
      · exact Or.inl (Or.inl hend')
      · rcases hadvanced with h | h | ⟨h, hlt⟩
        · exact absurd h hend'
        · exact Or.inl (Or.inr (Nat.lt_of_succ_le h.ge))
        · exact Or.inr ⟨⟨Bool.eq_false_iff.2 hend', h⟩, hrank ▸ hlt⟩
    · rintro m ⟨hm, rfl⟩
      by_cases hchauthtok : p = .chauthtok
      · obtain ⟨m', hle, hretried⟩ := hsettles m (hm.trans hchauthtok)
        exact ⟨m', hle, by simp [hchauthtok, hretried]⟩
      · by_cases hnamed : p = .getFailed
        · obtain ⟨m', hle, hresult⟩ := hhandles.names m (hm.trans hnamed)
          exact ⟨m', hle, by simp [hnamed, hresult]⟩
        · exact ⟨m, le_rfl, by simp [hchauthtok, hnamed]⟩
  intro n
  by_cases hend : (loopAt d answers l n).state.point.isEnd = true
  · exact ⟨n, le_rfl, Or.inl hend⟩
  · exact hpass _ n ⟨Bool.eq_false_iff.2 hend, rfl⟩

/-- For every execution of the loop, in which calls on a null pointer or an ended handle fail and
`pam_chauthtok` is not retried for ever: each pass comes to its end, or the loop does, if and only
if each `pam_start` and each `pam_end` succeeds and each `pam_get_item` for the log does in the
end. -/
theorem loop_progresses_iff {allowNullPasswd allowRootLogin : Bool}
    (hpossible : AllPossible d answers (.initial allowNullPasswd allowRootLogin))
    (hsettles : Settles d answers (.initial allowNullPasswd allowRootLogin)) :
    Progresses d answers (.initial allowNullPasswd allowRootLogin) ↔
      Handles d answers (.initial allowNullPasswd allowRootLogin) := by
  have hsteady : (Loop.initial allowNullPasswd allowRootLogin).Steady :=
    ⟨fun _ => rfl, fun h => by cases h⟩
  exact ⟨handles_of_progresses hpossible hsteady,
    progresses_of_handles hpossible hsteady hsettles⟩

lemma loopAt_of_end {n m : ℕ} (hend : (loopAt d answers l n).state.point.isEnd = true)
    (hle : n ≤ m) : loopAt d answers l m = loopAt d answers l n := by
  refine holds_after (P := fun m => loopAt d answers l m = loopAt d answers l n)
    (fun m h => ?_) rfl hle
  rw [loopAt, h, Loop.next, call_eq_none.2 hend]

/-- The answers when a user logs in. -/
def loginAnswers (_ : ℕ) : Answer := .named ['u'] (oneUser [] none)

theorem loop_progresses_login :
    Progresses consoleDpy loginAnswers (.initial false false) := by
  have hbegin : ∀ n < 7,
      (loopAt consoleDpy loginAnswers (.initial false false) (n + 1)).handle = .live ∧
      (loopAt consoleDpy loginAnswers (.initial false false) (n + 1)).code = 0 := by
    decide +kernel
  have hlive : ∀ n,
      (loopAt consoleDpy loginAnswers (.initial false false) (n + 1)).handle = .live ∧
      (loopAt consoleDpy loginAnswers (.initial false false) (n + 1)).code = 0 := by
    intro n
    rcases Nat.lt_or_ge n 7 with hlt | hge
    · exact hbegin n hlt
    · rw [loopAt_of_end (n := 7) (by decide +kernel) (Nat.le_succ_of_le hge)]
      exact hbegin 6 (by decide)
  have hpossible : AllPossible consoleDpy loginAnswers (.initial false false) := by
    intro n c hc
    cases n with
    | zero =>
      obtain rfl := Option.some.inj hc
      exact ⟨fun h => absurd h (by decide), fun _ => rfl⟩
    | succ n => exact ⟨fun _ h => absurd (hlive n).1 h, fun _ => (hlive n).2.symm⟩
  exact (loop_progresses_iff hpossible fun n _ => ⟨n, le_rfl, rfl⟩).2
    ⟨fun _ _ => rfl, fun _ _ => rfl, fun n _ => ⟨n, le_rfl, rfl⟩⟩

/-- PAM cannot be started: `pam_get_item` is called on a null pointer for ever. -/
theorem loop_jams : AllPossible consoleDpy (fun _ => .failed []) (.initial false false) ∧
    Settles consoleDpy (fun _ => .failed []) (.initial false false) ∧
    ¬ Progresses consoleDpy (fun _ => .failed []) (.initial false false) := by
  have hcode : ∀ n,
      (loopAt consoleDpy (fun _ => .failed []) (.initial false false) n).code = 0 := by
    intro n
    induction n with
    | zero => rfl
    | succ n ih =>
      rw [loopAt, Loop.next]
      split
      · exact ih
      · rfl
  have hpossible : AllPossible consoleDpy (fun _ => .failed []) (.initial false false) :=
    fun n c _ => ⟨fun _ _ => by simp [Answer.failed], fun _ => (hcode n).symm⟩
  refine ⟨hpossible, fun n _ => ⟨n, le_rfl, rfl⟩, ?_⟩
  exact not_progresses_of_stuck hpossible ⟨fun _ => rfl, fun h => by cases h⟩ (n := 0) rfl
    ⟨rfl, by decide, rfl⟩

end Xdm.Greeter
