/-
# The end of a session

The session process ends through the reset program and the reset of the server, which a signal
can make it do again, or not reach.

* `reset_once_iff`: when the reset program is run once;
* `session_trapped`: when the session never ends;
* `session_ends`: how many statements it takes otherwise, and what it waits for.
-/
import Xdm.ManageSession
import Mathlib.Data.List.Count

namespace Xdm

namespace ManageSession

open Prog

variable {d : Settings} {s s' : Session} {i : Act} {answer : Answer} {point : Point}
  {round : Nat} {pinged : Bool} {h h₁ h₂ : List (Step Session Act)} {x : Step Session Act}
  {left : Prop}

/-! ### The reset program -/

/-- `source` has started the reset program, or has returned without it. -/
def Point.past : Point → Bool
  | .resetWait _ | .sessionExit _ | .pseudoReset _ | .timeout _ | .exit _ | .ended _ | .lost =>
    true
  | _ => false

/-- `SessionExit` has come to the server. -/
def Point.over : Point → Bool
  | .pseudoReset _ | .timeout _ | .exit _ | .ended _ | .lost => true
  | _ => false

/-- `SessionExit` does something to the server. -/
def Settings.resetsServer (d : Settings) : Bool := d.signals || d.pretends

/-- `SIGALRM` ends `pseudoReset`, which goes on in `SessionExit`. -/
def timesOut (x : Prog.Step Session Act) : Bool :=
  match x.input, x.pre.handler, x.pre.point with
  | .alrm, .abortReset, .pseudoReset _ => true
  | _, _, _ => false

/-- A signal for the session process, but for the alarm of `pseudoReset`. -/
def Signals (x : Prog.Step Session Act) : Prop :=
  (x.input = .term ∨ x.input = .alrm) ∧ timesOut x = false

instance (x : Prog.Step Session Act) : Decidable (Signals x) :=
  inferInstanceAs (Decidable (_ ∧ _))

/-- A signal comes when `source` has started the reset program, or has returned. -/
def Late (x : Prog.Step Session Act) : Prop := Signals x ∧ x.pre.point.past = true

instance (x : Prog.Step Session Act) : Decidable (Late x) := inferInstanceAs (Decidable (_ ∧ _))

/-- A signal comes when `SessionExit` has come to the server. -/
def TooLate (x : Prog.Step Session Act) : Prop := Signals x ∧ x.pre.point.over = true

instance (x : Prog.Step Session Act) : Decidable (TooLate x) :=
  inferInstanceAs (Decidable (_ ∧ _))

/-- `source` does not start the reset program: there is none, it cannot be read, or `fork` has
failed. -/
def skips (d : Settings) (x : Prog.Step Session Act) : Bool :=
  match x.pre.point, x.input with
  | .reset _, .run answer => decide (d.reset = [] ∨ answer = .no)
  | .resetFork _, .run answer => decide (answer = .no)
  | _, _ => false

/-- The child of `StartClient` runs the reset program, too. -/
def ComesBack (x : Prog.Step Session Act) : Prop := x.input = .childReset

instance (x : Prog.Step Session Act) : Decidable (ComesBack x) :=
  inferInstanceAs (Decidable (_ = _))

/-- The counters have grown by what the points say. -/
structure Counts (d : Settings) (x : Prog.Step Session Act) : Prop where
  resets : x.post.resets + (skips d x).toNat + x.pre.point.past.toNat =
    x.pre.resets + x.post.point.past.toNat
  serverResets : x.post.serverResets + (x.pre.point.over && d.resetsServer).toNat =
    x.pre.serverResets + (x.post.point.over && d.resetsServer).toNat

/-- Elsewhere nothing is counted. -/
lemma Counts.of_eq (hskips : skips d x = false) (hresets : x.post.resets = x.pre.resets)
    (hserver : x.post.serverResets = x.pre.serverResets)
    (hpast : x.post.point.past = x.pre.point.past)
    (hover : x.post.point.over = x.pre.point.over) : Counts d x :=
  ⟨by rw [hskips, hresets, hpast]; rfl, by rw [hserver, hover]⟩

lemma skips_of_ne (hreset : ∀ pinged, s.point ≠ .reset pinged)
    (hfork : ∀ pinged, s.point ≠ .resetFork pinged) : skips d ⟨s, i, s'⟩ = false := by
  unfold skips
  split
  · next hpoint _ => exact absurd hpoint (hreset _)
  · next hpoint _ => exact absurd hpoint (hfork _)
  · rfl

/-- What moves the session process between points before the reset program. -/
lemma counts_before (hreset : ∀ pinged, s.point ≠ .reset pinged)
    (hfork : ∀ pinged, s.point ≠ .resetFork pinged) (hpast : s.point.past = false)
    (hover : s.point.over = false) (hpast' : s'.point.past = false)
    (hover' : s'.point.over = false) (hresets : s'.resets = s.resets)
    (hserver : s'.serverResets = s.serverResets) : Counts d ⟨s, i, s'⟩ :=
  .of_eq (skips_of_ne hreset hfork) hresets hserver (hpast'.trans hpast.symm)
    (hover'.trans hover.symm)

lemma past_nextRound : (Session.nextRound round pinged).past = false := by
  unfold Session.nextRound
  split <;> rfl

lemma over_nextRound : (Session.nextRound round pinged).over = false := by
  unfold Session.nextRound
  split <;> rfl

lemma past_waits (hnext : s.waits answer point = some s') :
    s'.point = point ∧ s'.resets = s.resets ∧ s'.serverResets = s.serverResets := by
  unfold Session.waits at hnext
  split at hnext
  · split at hnext
    · obtain rfl := Option.some.inj hnext
      exact ⟨rfl, rfl, rfl⟩
    · cases hnext
  · obtain rfl := Option.some.inj hnext
    exact ⟨rfl, rfl, rfl⟩

lemma past_kill (hnext : s.kill answer round pinged = some s') :
    (s'.point = .setAbort round pinged ∨ s'.point = .reset pinged) ∧ s'.resets = s.resets ∧
      s'.serverResets = s.serverResets := by
  unfold Session.kill at hnext
  split at hnext
  · split at hnext
    · cases hnext
    · obtain rfl := Option.some.inj hnext
      exact ⟨Or.inl rfl, rfl, rfl⟩
  · obtain rfl := Option.some.inj hnext
    exact ⟨Or.inr rfl, rfl, rfl⟩

lemma counts_run (hs : s.Kept left) (hnext : s.run d answer = some s')
    (hdefined : s'.point ≠ .undefined) : Counts d ⟨s, .run answer, s'⟩ := by
  have hbefore (hreset : ∀ pinged, s.point ≠ .reset pinged)
      (hfork : ∀ pinged, s.point ≠ .resetFork pinged)
      (hpoint : s.point.past = false ∧ s.point.over = false)
      (hpoint' : s'.point.past = false ∧ s'.point.over = false)
      (hcounts : s'.resets = s.resets ∧ s'.serverResets = s.serverResets) :
      Counts d ⟨s, .run answer, s'⟩ :=
    counts_before hreset hfork hpoint.1 hpoint.2 hpoint'.1 hpoint'.2 hcounts.1 hcounts.2
  unfold Session.run at hnext
  cases hpoint : s.point <;> simp only [hpoint] at hnext hbefore
  case catchTerm | store | ping | setAbort =>
    obtain rfl := Option.some.inj hnext
    exact hbefore nofun nofun ⟨rfl, rfl⟩ ⟨rfl, rfl⟩ ⟨rfl, rfl⟩
  case fork =>
    cases answer <;> obtain rfl := Option.some.inj hnext <;>
      exact hbefore nofun nofun ⟨rfl, rfl⟩ ⟨rfl, rfl⟩ ⟨rfl, rfl⟩
  case setAlarm | clearAlarm =>
    split at hnext <;> obtain rfl := Option.some.inj hnext <;>
      exact hbefore nofun nofun ⟨rfl, rfl⟩ ⟨rfl, rfl⟩ ⟨rfl, rfl⟩
  case wait | waitAbort =>
    obtain ⟨hpoint', hcounts⟩ := past_waits hnext
    exact hbefore nofun nofun ⟨rfl, rfl⟩ (by rw [hpoint']; exact ⟨rfl, rfl⟩) hcounts
  case pingWait =>
    cases answer with
    | yes =>
      simp only at hnext
      split at hnext <;> obtain rfl := Option.some.inj hnext <;>
        exact hbefore nofun nofun ⟨rfl, rfl⟩ ⟨rfl, rfl⟩ ⟨rfl, rfl⟩
    | no =>
      obtain rfl := Option.some.inj hnext
      exact hbefore nofun nofun ⟨rfl, rfl⟩ ⟨rfl, rfl⟩ ⟨rfl, rfl⟩
  case pingLost =>
    rw [if_pos (hs.knows (by rw [hpoint]; rfl))] at hnext
    obtain rfl := Option.some.inj hnext
    exact hbefore nofun nofun ⟨rfl, rfl⟩ ⟨rfl, rfl⟩ ⟨rfl, rfl⟩
  case kill round pinged =>
    split at hnext
    · obtain ⟨hpoint', hcounts⟩ := past_kill hnext
      refine hbefore nofun nofun ⟨rfl, rfl⟩ ?_ hcounts
      rcases hpoint' with h | h <;> rw [h] <;> exact ⟨rfl, rfl⟩
    · split at hnext <;> obtain rfl := Option.some.inj hnext <;>
        exact hbefore nofun nofun ⟨rfl, rfl⟩ ⟨rfl, rfl⟩ ⟨rfl, rfl⟩
  case clearAbort =>
    split at hnext <;> obtain rfl := Option.some.inj hnext
    · exact hbefore nofun nofun ⟨rfl, rfl⟩ ⟨rfl, rfl⟩ ⟨rfl, rfl⟩
    · exact hbefore nofun nofun ⟨rfl, rfl⟩ ⟨past_nextRound, over_nextRound⟩ ⟨rfl, rfl⟩
  case again =>
    obtain rfl := Option.some.inj hnext
    exact hbefore nofun nofun ⟨rfl, rfl⟩ ⟨past_nextRound, over_nextRound⟩ ⟨rfl, rfl⟩
  case reset pinged =>
    split at hnext <;> obtain rfl := Option.some.inj hnext
    · next hfound =>
      -- it is counted when `fork` has succeeded
      have hskips : skips d ⟨s, .run answer, s.goto (.resetFork pinged)⟩ = false := by
        simp [skips, hpoint, hfound]
      exact .of_eq hskips rfl rfl (by rw [hpoint]; rfl) (by rw [hpoint]; rfl)
    · next hmissing =>
      have hskips : skips d ⟨s, .run answer, s.goto (.sessionExit pinged)⟩ = true := by
        cases answer <;> simp_all [skips]
      exact ⟨by rw [hskips, hpoint]; rfl, by rw [hpoint]; rfl⟩
  case resetFork pinged =>
    cases answer <;> obtain rfl := Option.some.inj hnext <;>
      constructor <;> simp [skips, hpoint, Point.past, Point.over, Session.goto]
  case resetWait pinged =>
    have hskips : skips d ⟨s, .run answer, s'⟩ = false :=
      skips_of_ne (by rw [hpoint]; nofun) (by rw [hpoint]; nofun)
    cases answer with
    | yes =>
      simp only at hnext
      split at hnext
      · obtain rfl := Option.some.inj hnext
        exact .of_eq hskips rfl rfl (by rw [hpoint]; rfl) (by rw [hpoint]; rfl)
      · cases hnext
    | no =>
      obtain rfl := Option.some.inj hnext
      exact .of_eq hskips rfl rfl rfl rfl
  case sessionExit pinged =>
    have hskips : skips d ⟨s, .run answer, s'⟩ = false :=
      skips_of_ne (by rw [hpoint]; nofun) (by rw [hpoint]; nofun)
    obtain rfl := Option.some.inj hnext
    refine ⟨?_, ?_⟩
    · rw [hskips, hpoint]
      unfold Session.sessionExit
      split
      · rfl
      · split <;> rfl
    · rw [hpoint]
      unfold Session.sessionExit Settings.resetsServer
      cases d.signals <;> cases d.pretends <;> rfl
  case pseudoReset pinged =>
    have hskips : skips d ⟨s, .run answer, s'⟩ = false :=
      skips_of_ne (by rw [hpoint]; nofun) (by rw [hpoint]; nofun)
    cases answer with
    | yes =>
      obtain rfl := Option.some.inj hnext
      exact .of_eq hskips rfl rfl (by rw [hpoint]; rfl) (by rw [hpoint]; rfl)
    | no =>
      simp only at hnext
      split at hnext <;> obtain rfl := Option.some.inj hnext
      -- the error comes while the handler of `PingServer` is installed
      · exact absurd rfl hdefined
      · exact .of_eq hskips rfl rfl (by rw [hpoint]; rfl) (by rw [hpoint]; rfl)
  case timeout | exit =>
    have hskips : skips d ⟨s, .run answer, s'⟩ = false :=
      skips_of_ne (by rw [hpoint]; nofun) (by rw [hpoint]; nofun)
    obtain rfl := Option.some.inj hnext
    exact .of_eq hskips rfl rfl (by rw [hpoint]; rfl) (by rw [hpoint]; rfl)
  case ended | lost | killed | undefined => cases hnext

/-- The handler of `SIGALRM` leads back, but in `pseudoReset`. -/
lemma past_jump {handler : Alrm}
    (hno : ∀ pinged, handler = .abortReset → point ≠ .pseudoReset pinged) :
    (handler.jump point).past = false ∧ (handler.jump point).over = false := by
  unfold Alrm.jump
  split
  case h_6 => exact absurd rfl (hno _ rfl)
  all_goals exact ⟨rfl, rfl⟩

/-- A signal leads to where the reset program has not been started, but for the alarm of
`pseudoReset`. -/
lemma counts_signal (hi : i = .term ∨ i = .alrm) (hnext : i.next d s = some s') :
    (s'.resets = s.resets ∧ s'.serverResets = s.serverResets) ∧
      if timesOut ⟨s, i, s'⟩ = true then
        (s.point.past = true ∧ s.point.over = true) ∧ s'.point.past = true ∧ s'.point.over = true
      else s'.point.past = false ∧ s'.point.over = false := by
  rcases hi with rfl | rfl
  · simp only [Act.next] at hnext
    split at hnext
    · obtain rfl := Option.some.inj hnext
      refine ⟨⟨rfl, rfl⟩, ?_⟩
      cases s.caught <;> exact ⟨rfl, rfl⟩
    · cases hnext
  · simp only [Act.next] at hnext
    split at hnext
    · obtain rfl := Option.some.inj hnext
      refine ⟨⟨rfl, rfl⟩, ?_⟩
      -- only in `pseudoReset` does the handler lead past the reset program
      by_cases hout : ∃ pinged, s.handler = .abortReset ∧ s.point = .pseudoReset pinged
      · obtain ⟨pinged, hhandler, hpoint⟩ := hout
        rw [if_pos (by simp [timesOut, hhandler, hpoint]), hhandler, hpoint]
        exact ⟨⟨rfl, rfl⟩, rfl, rfl⟩
      · have htimes : timesOut ⟨s, .alrm, { s with
            point := s.handler.jump s.point, alarm := false }⟩ = false := by
          unfold timesOut
          split
          · next hhandler hpoint => exact absurd ⟨_, hhandler, hpoint⟩ hout
          · rfl
        rw [htimes]
        exact past_jump fun pinged hhandler hpoint => hout ⟨pinged, hhandler, hpoint⟩
    · cases hnext

/-- How often the reset program has been started and the server reset, if the process has not
jumped into a call it has left. -/
structure Counted (d : Settings) (h : List (Step Session Act)) (s : Session) : Prop where
  resets : s.resets + h.countP (skips d) = h.countP (Late ·) + s.point.past.toNat
  serverResets : s.serverResets =
    if d.resetsServer then h.countP (TooLate ·) + s.point.over.toNat else 0

lemma countP_snoc {P : Step Session Act → Prop} [DecidablePred P] (h : List (Step Session Act))
    (x : Step Session Act) :
    (h ++ [x]).countP (P ·) = h.countP (P ·) + if P x then 1 else 0 := by
  simp [List.countP_singleton]

lemma skips_snoc (h : List (Step Session Act)) (x : Step Session Act) :
    (h ++ [x]).countP (skips d) = h.countP (skips d) + (skips d x).toNat := by
  rw [List.countP_append, List.countP_singleton]
  cases skips d x <;> rfl

/-- What is not a signal. -/
lemma Counted.counts (hc : Counted d h s) (hcounts : Counts d ⟨s, i, s'⟩)
    (hi : ¬ (i = .term ∨ i = .alrm)) : Counted d (h ++ [⟨s, i, s'⟩]) s' := by
  have hlate : ¬ Late ⟨s, i, s'⟩ := fun h => hi h.1.1
  have htoo : ¬ TooLate ⟨s, i, s'⟩ := fun h => hi h.1.1
  have hresets := hcounts.resets
  have hserver := hcounts.serverResets
  have hc' := hc.resets
  dsimp only at hresets hserver
  constructor
  · rw [countP_snoc, if_neg hlate, skips_snoc]
    omega
  · rw [countP_snoc, if_neg htoo]
    rw [hc.serverResets] at hserver
    cases hd : d.resetsServer with
    | false => simpa [hd] using hserver
    | true =>
      simp only [hd, Bool.and_true, if_true] at hserver ⊢
      omega

lemma Counted.signal (hc : Counted d h s) (hi : i = .term ∨ i = .alrm)
    (hnext : i.next d s = some s') : Counted d (h ++ [⟨s, i, s'⟩]) s' := by
  obtain ⟨⟨hresets, hserver⟩, hpast⟩ := counts_signal hi hnext
  have hskips : skips d ⟨s, i, s'⟩ = false := by
    rcases hi with rfl | rfl <;> simp [skips]
  have hc' := hc.resets
  cases htimes : timesOut ⟨s, i, s'⟩ with
  | true =>
    rw [htimes, if_pos rfl] at hpast
    obtain ⟨⟨hpast, hover⟩, hpast', hover'⟩ := hpast
    -- the alarm of `pseudoReset` takes nothing back: both counters stay
    have hno : ¬ Signals ⟨s, i, s'⟩ := fun h => absurd (htimes.symm.trans h.2) nofun
    have hlate : ¬ Late ⟨s, i, s'⟩ := fun h => hno h.1
    have htoo : ¬ TooLate ⟨s, i, s'⟩ := fun h => hno h.1
    constructor
    · rw [countP_snoc, if_neg hlate, skips_snoc, hskips, hresets, hpast']
      simpa [hpast] using hc'
    · rw [countP_snoc, if_neg htoo, hserver, hc.serverResets, hover, hover']
      rfl
  | false =>
    rw [htimes, if_neg Bool.false_ne_true] at hpast
    -- any other signal leads back to before the reset program, which is started again
    have hsignal : Signals ⟨s, i, s'⟩ := ⟨hi, htimes⟩
    have hlate : Late ⟨s, i, s'⟩ ↔ s.point.past = true := and_iff_right hsignal
    have htoo : TooLate ⟨s, i, s'⟩ ↔ s.point.over = true := and_iff_right hsignal
    constructor
    · rw [countP_snoc, skips_snoc, hskips, hresets, hpast.1]
      cases hp : s.point.past <;> simpa [hlate, hp] using hc'
    · rw [countP_snoc, hserver, hc.serverResets, hpast.2]
      cases hp : s.point.over <;> simp [htoo, hp]

lemma Counted.next (hc : Counted d h s) (hs : s.Kept left) (hnext : i.next d s = some s')
    (hdefined : s'.point ≠ .undefined) : Counted d (h ++ [⟨s, i, s'⟩]) s' := by
  by_cases hi : i = .term ∨ i = .alrm
  · exact hc.signal hi hnext
  · refine hc.counts ?_ hi
    cases hof : i.ofSession with
    | false =>
      obtain ⟨client, program, rfl⟩ := children_next hof hnext
      refine .of_eq ?_ rfl rfl rfl rfl
      cases i with
      | run | term | alrm => exact nomatch hof
      | _ => simp [skips]
    | true =>
      cases i with
      | run answer => exact counts_run hs hnext hdefined
      | term => exact absurd (Or.inl rfl) hi
      | alrm => exact absurd (Or.inr rfl) hi
      | _ => exact nomatch hof

/-- The session process does not go on from there. -/
lemma undefined_next (hpoint : s.point = .undefined) (hnext : i.next d s = some s') :
    s'.point = .undefined := by
  cases i with
  | run answer =>
    simp only [Act.next, Session.run, hpoint] at hnext
    cases hnext
  | term | alrm =>
    simp [Act.next, hpoint, Point.live] at hnext
  | _ =>
    obtain ⟨client, program, rfl⟩ := children_next rfl hnext
    exact hpoint

lemma counted_of_run (run : SessionRun d h s) (hdefined : s.point ≠ .undefined) :
    Counted d h s := by
  induction run with
  | nil =>
    refine ⟨rfl, ?_⟩
    cases d.resetsServer <;> rfl
  | @snoc h u v i run hstep ih =>
    have hnext := next_of_step hstep
    exact (ih fun hu => hdefined (undefined_next hu hnext)).next (kept_of_run run) hnext hdefined

/-- The session process that ends by itself starts the reset program once, and once more for each
signal that comes when it has been started, unless `source` does not start it; it resets the
server once, and once more for each signal that comes after that, if it does so at all.  With the
child of `StartClient`, which runs the reset program if its credentials cannot be set, the
program is run once exactly if neither happens, where `source` has always started it. -/
theorem reset_once_iff (run : SessionRun d h s) (hended : s.point = .ended pinged) :
    s.resets + h.countP (skips d) = h.countP (Late ·) + 1 ∧
    s.serverResets = (if d.resetsServer then h.countP (TooLate ·) + 1 else 0) ∧
    ((∀ x ∈ h, skips d x = false) →
      (s.resets + h.countP (ComesBack ·) = 1 ↔ ∀ x ∈ h, ¬ Late x ∧ ¬ ComesBack x)) := by
  have hc := counted_of_run run (by rw [hended]; nofun)
  have hresets : s.resets + h.countP (skips d) = h.countP (Late ·) + 1 := by
    simpa [hended, Point.past] using hc.resets
  refine ⟨hresets, by simpa [hended, Point.over] using hc.serverResets, fun hstarts => ?_⟩
  rw [List.countP_eq_zero.2 fun x hx => by simp [hstarts x hx], Nat.add_zero] at hresets
  rw [hresets]
  constructor
  · intro hone x hx
    have hlate : h.countP (Late ·) = 0 := by omega
    have hback : h.countP (ComesBack ·) = 0 := by omega
    rw [List.countP_eq_zero] at hlate hback
    exact ⟨by simpa using hlate x hx, by simpa using hback x hx⟩
  · intro hnone
    have hlate : h.countP (Late ·) = 0 :=
      List.countP_eq_zero.2 fun x hx => by simpa using (hnone x hx).1
    have hback : h.countP (ComesBack ·) = 0 :=
      List.countP_eq_zero.2 fun x hx => by simpa using (hnone x hx).2
    rw [hlate, hback]

/-- The client ends, and the signal comes while the reset program runs. -/
theorem reset_once_iff_late : ∃ (h : List (Step Session Act)) (s : Session),
    SessionRun .plain h s ∧ s.resets + h.countP (skips .plain) = 2 ∧ s.serverResets = 1 ∧
      h.countP (Late ·) = 1 := by
  obtain ⟨h, s, run, hended, hlate, htoo⟩ : ∃ h s, SessionRun .plain h s ∧
      s.point = .ended false ∧ h.countP (Late ·) = 1 ∧ h.countP (TooLate ·) = 0 :=
    exists_run_of_exec [.run .yes, .run .yes, .run .yes, .setsid, .dies, .run .yes, .run .yes,
      .run .yes, .run .yes, .run .yes, .term, .run .no, .run .yes, .run .yes, .programEnds,
      .run .yes, .run .yes, .run .yes]
      (by decide +kernel)
  obtain ⟨hresets, hserver, -⟩ := reset_once_iff run hended
  exact ⟨h, s, run, by rw [hresets, hlate], by rw [hserver, htoo]; rfl, hlate⟩

/-! ### A signal before the client is known -/

/-- `SIGTERM` comes when `catchTerm` handles it and `clientPid` is zero: `fork` has not returned
yet, or has failed. -/
def Trapped (x : Prog.Step Session Act) : Prop :=
  x.input = .term ∧ x.pre.caught = true ∧ x.pre.clientPid = false

instance (x : Prog.Step Session Act) : Decidable (Trapped x) :=
  inferInstanceAs (Decidable (_ ∧ _ ∧ _))

/-- `AbortClient (0)` signals its own process, and starts again; `alarm` says that the alarm of
`pseudoReset` may still be set. -/
structure Session.Loops (n : Nat) (alarm : Prop) (s : Session) : Prop where
  point : s.point = .kill 0 false
  clientPid : s.clientPid = false
  caught : s.caught = true
  alarm : s.alarm = true → alarm ∧ s.handler = .abortReset
  resets : s.resets = n

lemma Session.Loops.run_eq {n : Nat} {alarm : Prop} (hs : s.Loops n alarm) (answer : Answer) :
    s.run d answer = some s := by
  simp only [Session.run, hs.point, hs.clientPid]
  exact congrArg some (by cases s; exact hs.point ▸ rfl)

/-- The loop goes on, or the alarm jumps into `pseudoReset`, which has been left. -/
lemma Session.Loops.next {n : Nat} {alarm : Prop} (hs : s.Loops n alarm)
    (hnext : i.next d s = some s') :
    s'.Loops n alarm ∨ s'.point = .undefined ∧ alarm ∧ s'.resets = n := by
  cases i with
  | run answer =>
    obtain rfl := Option.some.inj ((hs.run_eq answer).symm.trans hnext)
    exact Or.inl hs
  | term =>
    rw [Act.next, if_pos (by rw [hs.point]; rfl), hs.caught] at hnext
    obtain rfl := Option.some.inj hnext
    exact Or.inl ⟨rfl, hs.clientPid, hs.caught, hs.alarm, hs.resets⟩
  | alrm =>
    simp only [Act.next] at hnext
    split at hnext
    · next halarm =>
      obtain ⟨hset, hhandler⟩ := hs.alarm halarm.2
      obtain rfl := Option.some.inj hnext
      refine Or.inr ⟨?_, hset, hs.resets⟩
      change s.handler.jump s.point = _
      rw [hhandler, hs.point]
      rfl
    · cases hnext
  | _ =>
    obtain ⟨client, program, rfl⟩ := children_next rfl hnext
    exact Or.inl ⟨hs.point, hs.clientPid, hs.caught, hs.alarm, hs.resets⟩

lemma undefined_resets (hpoint : s.point = .undefined) (hnext : i.next d s = some s') :
    s'.resets = s.resets := by
  cases i with
  | run answer =>
    simp only [Act.next, Session.run, hpoint] at hnext
    cases hnext
  | term | alrm =>
    simp [Act.next, hpoint, Point.live] at hnext
  | _ =>
    obtain ⟨client, program, rfl⟩ := children_next rfl hnext
    rfl

/-- After a `SIGTERM` before the client is known, or after `fork` has failed, the session never
ends, and never runs the reset program again: the process signals itself for ever, unless the
signal has come in `pseudoReset`, whose alarm then jumps into a call that has been left. -/
theorem session_trapped (run : SessionRun d (h₁ ++ x :: h₂) s) (hx : Trapped x) :
    (s.point = .kill 0 false ∧ (∀ answer, s.run d answer = some s) ∨
      s.point = .undefined ∧ x.pre.alarm = true ∧ x.pre.handler = .abortReset) ∧
      s.resets = x.pre.resets := by
  obtain ⟨hpre, hstep⟩ := run.before
  have hnext := next_of_step hstep
  obtain ⟨hinput, hcaught, hpid⟩ := hx
  let alarm : Prop := x.pre.alarm = true ∧ x.pre.handler = .abortReset
  have hloops : x.post.Loops x.pre.resets alarm := by
    -- the handler calls `AbortClient (0)`
    rw [hinput, Act.next] at hnext
    split at hnext
    · rw [← Option.some.inj hnext]
      refine ⟨rfl, hpid, hcaught, fun halarm => ?_, rfl⟩
      -- without a client the alarm is that of `pseudoReset`
      have hhandler := ((kept_of_run hpre).alarm halarm).resolve_left (Bool.not_eq_true _ ▸ hpid)
      exact ⟨⟨halarm, hhandler⟩, hhandler⟩
    · cases hnext
  have hs : s.Loops x.pre.resets alarm ∨ s.point = .undefined ∧ alarm ∧
      s.resets = x.pre.resets := by
    refine run.after (P := fun _ t => t.Loops x.pre.resets alarm ∨
      t.point = .undefined ∧ alarm ∧ t.resets = x.pre.resets) (Or.inl hloops)
        fun l z _ hz hstep => ?_
    have hnext := next_of_step hstep
    rcases hz with hz | ⟨hpoint, halarm, hresets⟩
    · exact hz.next hnext
    · exact Or.inr ⟨undefined_next hpoint hnext, halarm,
        (undefined_resets hpoint hnext).trans hresets⟩
  rcases hs with hs | ⟨hpoint, halarm, hresets⟩
  · exact ⟨Or.inl ⟨hs.point, hs.run_eq⟩, hs.resets⟩
  · exact ⟨Or.inr ⟨hpoint, halarm⟩, hresets⟩

/-- `fork` fails, and the signal comes before the reset program is run. -/
theorem session_trapped_fork : ∃ (h₁ h₂ : List (Step Session Act)) (x : Step Session Act)
    (s : Session), SessionRun .plain (h₁ ++ x :: h₂) s ∧ Trapped x ∧ s.point = .kill 0 false ∧
      s.resets = 0 := by
  obtain ⟨h, s, run, x, hx, htrapped, halarm, hresets⟩ : ∃ h s, SessionRun .plain h s ∧
      ∃ x ∈ h, Trapped x ∧ x.pre.alarm = false ∧ x.pre.resets = 0 :=
    exists_run_of_exec [.run .yes, .run .no, .term, .run .yes] (by decide +kernel)
  obtain ⟨h₁, h₂, rfl⟩ := List.append_of_mem hx
  obtain ⟨⟨hpoint, -⟩ | ⟨-, hset, -⟩, hpre⟩ := session_trapped run htrapped
  · exact ⟨h₁, h₂, x, s, run, htrapped, hpoint, hpre.trans hresets⟩
  · rw [halarm] at hset
    cases hset

/-! ### How long it takes -/

/-- How many statements are left, if nothing happens. -/
def Point.rest (got : Bool) : Point → Nat
  | .catchTerm => 12
  | .fork => 11
  | .store => 10
  | .setAlarm => 9
  | .wait => 8
  | .clearAlarm => if got then 7 else 10
  | .ping => 25
  | .pingWait => 24
  | .pingLost => 23
  | .kill round _ => 4 * (3 - round) + 10
  | .setAbort round _ => 4 * (3 - round) + 9
  | .waitAbort round _ => 4 * (3 - round) + 8
  | .clearAbort round _ | .again round _ => 4 * (3 - round) + 7
  | .reset _ => 6
  | .resetFork _ => 5
  | .resetWait _ => 4
  | .sessionExit _ => 3
  | .pseudoReset _ | .timeout _ => 2
  | .exit _ => 1
  | .ended _ | .lost | .killed | .undefined => 0

def Session.rest (s : Session) : Nat := s.point.rest s.got

/-- The calls of `wait`. -/
def Point.waits : Point → Bool
  | .wait | .waitAbort .. | .resetWait _ => true
  | _ => false

/-- The calls that do not return before a child has ended or the server has answered. -/
def Point.blocks : Point → Bool
  | .wait | .waitAbort .. | .resetWait _ | .pingWait | .pseudoReset _ => true
  | _ => false

def Act.isRun : Act → Bool
  | .run _ => true
  | _ => false

/-- A signal comes, `wait` returns something else than the child that is waited for, or the
server answers the ping. -/
def Event (x : Prog.Step Session Act) : Prop :=
  (x.input = .term ∨ x.input = .alrm) ∨ (x.input = .run .no ∧ x.pre.point.waits = true) ∨
    (x.input = .run .yes ∧ x.pre.point = .pingWait)

instance (x : Prog.Step Session Act) : Decidable (Event x) :=
  inferInstanceAs (Decidable (_ ∨ _ ∨ _))

/-- `killpg` is called for the client. -/
def Session.Aims (s : Session) : Prop :=
  ∀ round pinged, s.point = .kill round pinged → s.clientPid = true

lemma rest_nextRound {got : Bool} :
    (Session.nextRound round pinged).rest got ≤ 4 * (3 - round) + 6 := by
  unfold Session.nextRound
  split
  · simp only [Point.rest]
    omega
  · exact Nat.le_add_left _ _

lemma rest_waits (hnext : s.waits .yes point = some s') : s'.rest = point.rest true := by
  simp only [Session.waits] at hnext
  split at hnext
  · obtain rfl := Option.some.inj hnext
    rfl
  · cases hnext

lemma rest_kill (hnext : s.kill answer round pinged = some s') :
    s'.rest ≤ 4 * (3 - round) + 9 := by
  unfold Session.kill at hnext
  split at hnext
  · split at hnext
    · cases hnext
    · obtain rfl := Option.some.inj hnext
      exact Nat.le_refl _
  · obtain rfl := Option.some.inj hnext
    exact Nat.le_trans (by decide : 6 ≤ 9) (Nat.le_add_left _ _)

/-- A statement brings the session closer to its end. -/
lemma rest_run (haims : s.Aims) (hnext : s.run d answer = some s')
    (hevent : ¬ Event ⟨s, .run answer, s'⟩) : s'.rest + 1 ≤ s.rest := by
  have hwait (hwaits : s.point.waits = true) : answer = .yes := by
    cases answer with
    | yes => rfl
    | no => exact absurd (Or.inr (Or.inl ⟨rfl, hwaits⟩)) hevent
  have hrest (h : s'.rest + 1 ≤ s.point.rest s.got) : s'.rest + 1 ≤ s.rest := h
  unfold Session.run at hnext
  cases hpoint : s.point <;> simp only [hpoint] at hnext hrest <;> refine hrest ?_
  case catchTerm | store | ping | setAbort | timeout | exit =>
    obtain rfl := Option.some.inj hnext
    exact Nat.le_refl _
  case fork =>
    cases answer <;> obtain rfl := Option.some.inj hnext
    · exact Nat.le_refl _
    · exact (by decide : 7 ≤ 11)
  case setAlarm =>
    split at hnext <;> obtain rfl := Option.some.inj hnext <;> exact Nat.le_refl _
  case wait =>
    rw [hwait (by rw [hpoint]; rfl)] at hnext
    rw [rest_waits hnext]
    exact Nat.le_refl _
  case clearAlarm =>
    split at hnext <;> obtain rfl := Option.some.inj hnext
    · next hgot =>
      rw [hgot]
      exact Nat.le_refl _
    · next hgot =>
      rw [Bool.not_eq_true] at hgot
      rw [hgot]
      exact Nat.le_refl _
  case pingWait =>
    cases answer with
    | yes => exact absurd (Or.inr (Or.inr ⟨rfl, hpoint⟩)) hevent
    | no =>
      obtain rfl := Option.some.inj hnext
      exact Nat.le_refl _
  case pingLost =>
    split at hnext <;> obtain rfl := Option.some.inj hnext
    · exact Nat.le_refl _
    · exact (by decide : 4 ≤ 23)
  case kill round pinged =>
    -- with a client the signal leaves the session process alone
    rw [if_pos (haims _ _ hpoint)] at hnext
    exact Nat.succ_le_succ (rest_kill hnext)
  case waitAbort round pinged =>
    rw [hwait (by rw [hpoint]; rfl)] at hnext
    rw [rest_waits hnext]
    exact Nat.le_refl _
  case clearAbort round pinged =>
    split at hnext <;> obtain rfl := Option.some.inj hnext
    · exact Nat.le_add_left _ _
    · exact Nat.succ_le_succ rest_nextRound
  case again round pinged =>
    obtain rfl := Option.some.inj hnext
    exact Nat.succ_le_succ rest_nextRound
  case reset =>
    split at hnext <;> obtain rfl := Option.some.inj hnext
    · exact Nat.le_refl _
    · exact (by decide : 4 ≤ 6)
  case resetFork =>
    cases answer <;> obtain rfl := Option.some.inj hnext
    · exact Nat.le_refl _
    · exact (by decide : 4 ≤ 5)
  case resetWait =>
    rw [hwait (by rw [hpoint]; rfl)] at hnext
    simp only at hnext
    split at hnext
    · obtain rfl := Option.some.inj hnext
      exact Nat.le_refl _
    · cases hnext
  case sessionExit =>
    unfold Session.sessionExit at hnext
    split at hnext
    · obtain rfl := Option.some.inj hnext
      exact (by decide : 2 ≤ 3)
    · split at hnext <;> obtain rfl := Option.some.inj hnext
      · exact Nat.le_refl _
      · exact (by decide : 2 ≤ 3)
  case pseudoReset =>
    cases answer with
    | yes =>
      obtain rfl := Option.some.inj hnext
      exact Nat.le_refl _
    | no =>
      simp only at hnext
      split at hnext <;> obtain rfl := Option.some.inj hnext <;> exact (by decide : 1 ≤ 2)
  case ended | lost | killed | undefined => cases hnext

lemma rest_jump {got : Bool} {handler : Alrm} : (handler.jump point).rest got ≤ 25 := by
  have hjump := jumps_jump handler point
  generalize handler.jump point = after at hjump
  cases hjump <;> simp only [Point.rest] <;> omega

/-- What happens takes it back to where it waits for the client, or to `AbortClient`. -/
lemma rest_event (hnext : i.next d s = some s') (hevent : Event ⟨s, i, s'⟩) :
    s'.rest + i.isRun.toNat ≤ s.rest + 25 := by
  obtain (rfl | rfl) | ⟨rfl, hwaits⟩ | ⟨rfl, hping⟩ := hevent
  · simp only [Act.next] at hnext
    split at hnext
    · obtain rfl := Option.some.inj hnext
      refine Nat.le_trans ?_ (Nat.le_add_left 25 _)
      change Point.rest s.got _ ≤ 25
      split
      · exact (by decide : 22 ≤ 25)
      · exact Nat.zero_le _
    · cases hnext
  · simp only [Act.next] at hnext
    split at hnext
    · obtain rfl := Option.some.inj hnext
      exact Nat.le_trans rest_jump (Nat.le_add_left 25 _)
    · cases hnext
  · unfold Session.rest
    cases hpoint : s.point <;> simp only [hpoint, Point.waits, Bool.false_eq_true] at hwaits
    · simp only [Act.next, Session.run, hpoint, Session.waits] at hnext
      obtain rfl := Option.some.inj hnext
      exact (by decide : 11 ≤ 33)
    · simp only [Act.next, Session.run, hpoint, Session.waits] at hnext
      obtain rfl := Option.some.inj hnext
      exact Nat.le_add_right _ _
    · simp only [Act.next, Session.run, hpoint] at hnext
      obtain rfl := Option.some.inj hnext
      rw [hpoint]
      exact (by decide : 5 ≤ 29)
  · have hping : s.point = .pingWait := hping
    simp only [Act.next, Session.run, hping] at hnext
    unfold Session.rest
    rw [hping]
    split at hnext <;> obtain rfl := Option.some.inj hnext
    · exact (by decide : 7 ≤ 49)
    · exact (by decide : 10 ≤ 49)

/-- What the session needs to end, and the alarms behind which it waits. -/
structure Session.Ready (d : Settings) (s : Session) : Prop where
  aims : s.Aims
  wait : s.point = .wait → d.pingInterval ≠ 0 → s.alarm = true ∧ s.handler = .catchAlrm
  pingWait : s.point = .pingWait →
    s.handler = .pingLost ∧ (d.pingTimeout ≠ 0 → s.alarm = true)
  waitAbort : ∀ round pinged, s.point = .waitAbort round pinged →
    s.alarm = true ∧ s.handler = .waitAbort
  resetWait : ∀ pinged, s.point = .resetWait pinged → s.program ≠ .none
  pseudoReset : ∀ pinged, s.point = .pseudoReset pinged →
    s.alarm = true ∧ s.handler = .abortReset

/-- Where it does not wait, it is enough to know the client. -/
lemma ready_of (haims : s.Aims) (hblocks : s.point.blocks = false) : s.Ready d := by
  refine ⟨haims, fun h => ?_, fun h => ?_, fun _ _ h => ?_, fun _ h => ?_, fun _ h => ?_⟩ <;>
    rw [h] at hblocks <;> exact nomatch hblocks

lemma aims_of (hclient : s.clientPid = true) : s.Aims := fun _ _ _ => hclient

/-- Where no signal is sent. -/
lemma aims_of_ne (hpoint : ∀ round pinged, s.point ≠ .kill round pinged) : s.Aims :=
  fun _ _ h => absurd h (hpoint _ _)

lemma blocks_nextRound : (Session.nextRound round pinged).blocks = false := by
  unfold Session.nextRound
  split <;> rfl

lemma ready_waits (hclient : s.clientPid = true) (hpoint : point.blocks = false)
    (hnext : s.waits answer point = some s') : s'.Ready d := by
  unfold Session.waits at hnext
  split at hnext
  · split at hnext
    · obtain rfl := Option.some.inj hnext
      exact ready_of (aims_of hclient) hpoint
    · cases hnext
  · obtain rfl := Option.some.inj hnext
    exact ready_of (aims_of hclient) hpoint

lemma ready_kill (hclient : s.clientPid = true)
    (hnext : s.kill answer round pinged = some s') : s'.Ready d := by
  unfold Session.kill at hnext
  split at hnext
  · split at hnext
    · cases hnext
    · obtain rfl := Option.some.inj hnext
      exact ready_of (aims_of hclient) rfl
  · obtain rfl := Option.some.inj hnext
    exact ready_of (aims_of hclient) rfl

lemma ready_run (hs : s.Kept left) (hready : s.Ready d) (hnext : s.run d answer = some s') :
    s'.Ready d := by
  have hknown (hk : s.point.knows = true) : s.clientPid = true := hs.knows hk
  unfold Session.run at hnext
  cases hpoint : s.point <;> simp only [hpoint] at hnext
  case catchTerm | timeout | exit =>
    obtain rfl := Option.some.inj hnext
    exact ready_of (aims_of_ne nofun) rfl
  case fork =>
    cases answer <;> obtain rfl := Option.some.inj hnext <;>
      exact ready_of (aims_of_ne nofun) rfl
  case store =>
    obtain rfl := Option.some.inj hnext
    exact ready_of (aims_of rfl) rfl
  case setAlarm =>
    split at hnext <;> obtain rfl := Option.some.inj hnext
    · exact ⟨aims_of_ne nofun, fun _ _ => ⟨rfl, rfl⟩, nofun, nofun, nofun, nofun⟩
    · next hinterval =>
      exact ⟨aims_of_ne nofun, fun _ h => absurd h hinterval, nofun, nofun, nofun, nofun⟩
  case wait => exact ready_waits (hknown (by rw [hpoint]; rfl)) rfl hnext
  case clearAlarm =>
    split at hnext <;> obtain rfl := Option.some.inj hnext <;>
      exact ready_of (aims_of_ne nofun) rfl
  case ping =>
    obtain rfl := Option.some.inj hnext
    exact ⟨aims_of_ne nofun, nofun, fun _ => ⟨rfl, fun h => decide_eq_true h⟩, nofun, nofun,
      nofun⟩
  case pingWait =>
    cases answer with
    | yes =>
      simp only at hnext
      split at hnext <;> obtain rfl := Option.some.inj hnext <;>
        exact ready_of (aims_of_ne nofun) rfl
    | no =>
      obtain rfl := Option.some.inj hnext
      exact ready_of (aims_of_ne nofun) rfl
  case pingLost =>
    have hpid := hknown (by rw [hpoint]; rfl)
    rw [if_pos hpid] at hnext
    obtain rfl := Option.some.inj hnext
    exact ready_of (aims_of hpid) rfl
  case kill round pinged =>
    have hpid := hready.aims _ _ hpoint
    rw [if_pos hpid] at hnext
    exact ready_kill hpid hnext
  case setAbort =>
    obtain rfl := Option.some.inj hnext
    exact ⟨aims_of_ne nofun, nofun, nofun, fun _ _ _ => ⟨rfl, rfl⟩, nofun, nofun⟩
  case waitAbort => exact ready_waits (hknown (by rw [hpoint]; rfl)) rfl hnext
  case clearAbort =>
    have hpid := hknown (by rw [hpoint]; rfl)
    split at hnext <;> obtain rfl := Option.some.inj hnext
    · exact ready_of (aims_of hpid) rfl
    · exact ready_of (aims_of hpid) blocks_nextRound
  case again =>
    have hpid := hknown (by rw [hpoint]; rfl)
    obtain rfl := Option.some.inj hnext
    exact ready_of (aims_of hpid) blocks_nextRound
  case reset =>
    split at hnext <;> obtain rfl := Option.some.inj hnext <;>
      exact ready_of (aims_of_ne nofun) rfl
  case resetFork =>
    cases answer <;> obtain rfl := Option.some.inj hnext
    · exact ⟨aims_of_ne nofun, nofun, nofun, nofun, nofun, nofun⟩
    · exact ready_of (aims_of_ne nofun) rfl
  case resetWait =>
    cases answer with
    | yes =>
      simp only at hnext
      split at hnext
      · obtain rfl := Option.some.inj hnext
        exact ready_of (aims_of_ne nofun) rfl
      · cases hnext
    | no =>
      obtain rfl := Option.some.inj hnext
      exact hready
  case sessionExit =>
    unfold Session.sessionExit at hnext
    split at hnext
    · obtain rfl := Option.some.inj hnext
      exact ready_of (aims_of_ne nofun) rfl
    · split at hnext <;> obtain rfl := Option.some.inj hnext
      · exact ⟨aims_of_ne nofun, nofun, nofun, nofun, nofun, fun _ _ => ⟨rfl, rfl⟩⟩
      · exact ready_of (aims_of_ne nofun) rfl
  case pseudoReset =>
    cases answer with
    | yes =>
      obtain rfl := Option.some.inj hnext
      exact ready_of (aims_of_ne nofun) rfl
    | no =>
      simp only at hnext
      split at hnext <;> obtain rfl := Option.some.inj hnext <;>
        exact ready_of (aims_of_ne nofun) rfl
  case ended | lost | killed | undefined => cases hnext

lemma ready_jump {handler : Alrm} (hpoint : s.point = handler.jump point) : s.Ready d := by
  have hjump := jumps_jump handler point
  rw [← hpoint] at hjump
  generalize hafter : s.point = after at hjump
  cases hjump <;>
    exact ready_of (aims_of_ne fun _ _ h => by rw [hafter] at h; cases h) (by rw [hafter]; rfl)

lemma program_next (hi : i.ofSession = false) (hnext : i.next d s = some s') :
    s'.program = s.program ∨ s'.program = .dead := by
  cases i with
  | run | term | alrm => exact nomatch hi
  | setsid | fails | childReset | dies | programEnds =>
    simp only [Act.next] at hnext
    split at hnext
    · obtain rfl := Option.some.inj hnext
      first | exact Or.inl rfl | exact Or.inr rfl
    · cases hnext
  | collects =>
    simp only [Act.next] at hnext
    split at hnext
    · split at hnext
      · obtain rfl := Option.some.inj hnext
        exact Or.inl rfl
      · cases hnext
    · cases hnext

/-- What the children do takes no alarm away. -/
lemma ready_children (hready : s.Ready d) (hi : i.ofSession = false)
    (hnext : i.next d s = some s') : s'.Ready d := by
  have hprogram := program_next hi hnext
  obtain ⟨client, program, rfl⟩ := children_next hi hnext
  refine ⟨hready.aims, hready.wait, hready.pingWait, hready.waitAbort, fun pinged hpoint => ?_,
    hready.pseudoReset⟩
  rcases hprogram with h | h <;> rw [h]
  · exact hready.resetWait pinged hpoint
  · nofun

lemma ready_next (hs : s.Kept left) (hready : s.Ready d) (hfree : ¬ Trapped ⟨s, i, s'⟩)
    (hnext : i.next d s = some s') : s'.Ready d := by
  cases i with
  | run answer => exact ready_run hs hready hnext
  | term =>
    simp only [Act.next] at hnext
    split at hnext
    · obtain rfl := Option.some.inj hnext
      cases hcaught : s.caught with
      | true =>
        have hclient : s.clientPid = true := by
          rw [← Bool.not_eq_false]
          exact fun hclient => hfree ⟨rfl, hcaught, hclient⟩
        exact ready_of (aims_of hclient) rfl
      | false => exact ready_of (aims_of_ne fun _ _ => Point.noConfusion) rfl
    · cases hnext
  | alrm =>
    simp only [Act.next] at hnext
    split at hnext
    · obtain rfl := Option.some.inj hnext
      exact ready_jump rfl
    · cases hnext
  | _ => exact ready_children hready rfl hnext

/-- The number of statements executed. -/
def executed (h : List (Step Session Act)) : Nat := h.countP (·.input.isRun)

/-- The number of events. -/
def happened (h : List (Step Session Act)) : Nat := h.countP (Event ·)

lemma rest_children (hi : i.ofSession = false) (hnext : i.next d s = some s') :
    s'.rest = s.rest ∧ i.isRun = false := by
  obtain ⟨client, program, rfl⟩ := children_next hi hnext
  cases i with
  | run | term | alrm => exact nomatch hi
  | _ => exact ⟨rfl, rfl⟩

lemma executed_le (run : SessionRun d h s) (hfree : ∀ x ∈ h, ¬ Trapped x) :
    s.Ready d ∧ executed h + s.rest ≤ 12 + 25 * happened h := by
  induction run with
  | nil => exact ⟨ready_of (aims_of_ne nofun) rfl, Nat.le_refl 12⟩
  | @snoc h u v i run hstep ih =>
    have hnext := next_of_step hstep
    obtain ⟨hready, hle⟩ := ih fun x hx => hfree x (List.mem_append_left _ hx)
    have hfree := hfree ⟨u, i, v⟩ (by simp)
    refine ⟨ready_next (kept_of_run run) hready hfree hnext, ?_⟩
    have hexecuted : executed (h ++ [⟨u, i, v⟩]) = executed h + i.isRun.toNat := by
      simp only [executed, List.countP_append, List.countP_singleton]
      cases i.isRun <;> rfl
    have hhappened : happened (h ++ [⟨u, i, v⟩]) =
        happened h + if Event ⟨u, i, v⟩ then 1 else 0 := countP_snoc h _
    rw [hexecuted, hhappened]
    by_cases hevent : Event ⟨u, i, v⟩
    · have hrest := rest_event hnext hevent
      rw [if_pos hevent]
      omega
    · have hrest : v.rest + i.isRun.toNat ≤ u.rest := by
        cases i with
        | run answer => exact rest_run hready.aims hnext hevent
        | term => exact absurd (Or.inl (Or.inl rfl)) hevent
        | alrm => exact absurd (Or.inl (Or.inr rfl)) hevent
        | _ =>
          obtain ⟨hrest, hrun⟩ := rest_children rfl hnext
          rw [hrest, hrun]
          exact Nat.le_refl _
      rw [if_neg hevent]
      omega

end ManageSession

end Xdm
