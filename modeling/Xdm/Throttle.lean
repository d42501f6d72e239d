/-
# The throttle of the restarts

What `WaitForChild` counts of a display is two counters and the time at which its server has
crashed last.  Here the ends of its sessions are a list, and the counters move along the list;
a display that is restarted exactly when its counters allow it is restarted only so often.
-/
import Xdm.Dm
import Mathlib.Data.List.Chain

namespace Xdm

/-! ### What is counted -/

/-- What is counted of the sessions of a display. -/
structure Tries where
  startTries : Int
  lastReserv : Time
  reservTries : Int

/-- The counters of a new display. -/
def Tries.fresh : Tries := ⟨0, 0, 0⟩

def Display.tries (d : Display) : Tries := ⟨d.startTries, d.lastReserv, d.reservTries⟩

namespace Tries

/-- The server has crashed shortly before `now`. -/
def recent (t : Tries) (now : Time) : Bool :=
  t.lastReserv ≠ 0 ∧ now - t.lastReserv < xdmBrokenInterval

/-- The counters of a display that is kept, after a session has ended with `val`. -/
def after (t : Tries) (val : Int) (now : Time) : Tries :=
  if val = obeysessDisplay then { t with startTries := 0, reservTries := 0 }
  else if val = openfailedDisplay ∨ val = sigterm * 256 then
    { t with startTries := t.startTries + 1 }
  else if val = reserverDisplay then
    ⟨0, now, if t.recent now then t.reservTries + 1 else 0⟩
  else if val = remanageDisplay then { t with startTries := 0 }
  else t

end Tries

/-- The end of a session: how and when it has ended, how often the display may be tried, whether
it is a display of the servers file and no zombie, and whether it has been restarted. -/
structure SessionExit where
  val : Int
  time : Time
  startAttempts : Int
  reservAttempts : Int
  live : Bool
  restarted : Bool

namespace SessionExit

def isReserver (e : SessionExit) : Bool := e.val = reserverDisplay

/-- The session has not come into being: `OPENFAILED_DISPLAY`, or a `SIGTERM`. -/
def isFailure (e : SessionExit) : Bool := e.val = openfailedDisplay ∨ e.val = sigterm * 256

/-- The server has crashed too often. -/
def crashes (e : SessionExit) (t : Tries) : Prop :=
  t.recent e.time = true ∧ e.reservAttempts ≤ t.reservTries + 1

/-- The display has been restarted only if the counters allow it; after a crash, it has been
restarted if they do. -/
structure Follows (e : SessionExit) (t : Tries) : Prop where
  reserver : e.restarted = true → e.isReserver = true → ¬ e.crashes t
  failure : e.restarted = true → e.isFailure = true → t.startTries + 1 < e.startAttempts
  kept : e.live = true → e.isReserver = true → ¬ e.crashes t → e.restarted = true

end SessionExit

/-- The counters after these ends of sessions. -/
def Tries.afterAll (t : Tries) (es : List SessionExit) : Tries :=
  es.foldl (fun t e => t.after e.val e.time) t

/-- Each end follows the counters that the ends before it have left. -/
def Throttled : Tries → List SessionExit → Prop
  | _, [] => True
  | t, e :: es => e.Follows t ∧ Throttled (t.after e.val e.time) es

variable {t : Tries} {e : SessionExit} {es es' : List SessionExit} {R S val : Int} {now : Time}

lemma Tries.afterAll_append : t.afterAll (es ++ es') = (t.afterAll es).afterAll es' :=
  List.foldl_append ..

lemma throttled_append :
    Throttled t (es ++ es') ↔ Throttled t es ∧ Throttled (t.afterAll es) es' := by
  induction es generalizing t with
  | nil => exact (iff_of_eq (true_and _)).symm
  | cons e es ih =>
    rw [List.cons_append, Throttled, Throttled, ih, and_assoc]
    rfl

/-! ### One end of a session -/

namespace Tries

lemma recent_iff : t.recent now = true ↔
    t.lastReserv ≠ 0 ∧ now - t.lastReserv < xdmBrokenInterval := decide_eq_true_iff

lemma after_reserver (hval : val = reserverDisplay) : t.after val now =
    ⟨0, now, if t.recent now then t.reservTries + 1 else 0⟩ := by
  rw [after, hval, if_neg (by decide), if_neg (by decide), if_pos rfl]

lemma after_failure (hval : val = openfailedDisplay ∨ val = sigterm * 256) :
    t.after val now = { t with startTries := t.startTries + 1 } := by
  have hne : val ≠ obeysessDisplay := by
    rcases hval with h | h <;> rw [h] <;> decide
  rw [after, if_neg hne, if_pos hval]

lemma after_remanage (hval : val = remanageDisplay) :
    t.after val now = { t with startTries := 0 } := by
  rw [after, hval, if_neg (by decide), if_neg (by decide), if_neg (by decide), if_pos rfl]

/-- Only crashes change the time of the last one. -/
lemma after_lastReserv (he : e.isReserver = false) :
    (t.after e.val e.time).lastReserv = t.lastReserv := by
  have hval : e.val ≠ reserverDisplay := of_decide_eq_false he
  unfold after
  split_ifs <;> rfl

/-- Only crashes and `OBEYSESS_DISPLAY` change their number. -/
lemma after_reservTries (he : e.isReserver = false) (hobey : e.val ≠ obeysessDisplay) :
    (t.after e.val e.time).reservTries = t.reservTries := by
  have hval : e.val ≠ reserverDisplay := of_decide_eq_false he
  unfold after
  rw [if_neg hobey]
  split_ifs <;> rfl

lemma after_startTries (h : 0 ≤ t.startTries) (val : Int) (now : Time) :
    0 ≤ (t.after val now).startTries := by
  unfold after
  split
  · exact Int.le_refl 0
  split
  · show 0 ≤ t.startTries + 1
    omega
  split
  · exact Int.le_refl 0
  split
  · exact Int.le_refl 0
  · exact h

lemma afterAll_startTries (h : 0 ≤ t.startTries) (es : List SessionExit) :
    0 ≤ (t.afterAll es).startTries := by
  induction es generalizing t with
  | nil => exact h
  | cons e es ih => exact ih (after_startTries h _ _)

/-- The time of the last crash is that of the last one in the list, if there is one. -/
lemma afterAll_lastReserv (t : Tries) (es : List SessionExit) :
    (t.afterAll es).lastReserv =
      ((es.filter SessionExit.isReserver).getLast?).elim t.lastReserv SessionExit.time := by
  induction es using List.reverseRecOn with
  | nil => rfl
  | append_singleton es e ih =>
    rw [afterAll_append]
    show ((t.afterAll es).after e.val e.time).lastReserv = _
    rw [List.filter_append]
    cases he : e.isReserver with
    | true =>
      rw [after_reserver (of_decide_eq_true he), List.filter_cons_of_pos he, List.filter_nil,
        List.getLast?_concat]
      rfl
    | false =>
      rw [after_lastReserv he, List.filter_cons_of_neg (by simp [he]), List.filter_nil,
        List.append_nil]
      exact ih

end Tries

/-! ### Many ends of sessions -/

/-- How often the display has been restarted after a crash. -/
def crashRestarts (es : List SessionExit) : Nat :=
  es.countP fun e => e.isReserver && e.restarted

lemma crashRestarts_cons (e : SessionExit) (es : List SessionExit) :
    crashRestarts (e :: es) =
      crashRestarts es + if (e.isReserver && e.restarted) = true then 1 else 0 :=
  List.countP_cons ..

/-- While every crash is recent, the attempts that are left bound the restarts. -/
lemma crashRestarts_recent (h : Throttled t es) (hlast : t.lastReserv ≠ 0)
    (hclock : ∀ e ∈ es, 0 < e.time) (hobey : ∀ e ∈ es, e.val ≠ obeysessDisplay)
    (hconfig : ∀ e ∈ es, e.reservAttempts = R)
    (hrapid : (t.lastReserv :: (es.filter SessionExit.isReserver).map SessionExit.time).IsChain
      fun now now' => now' - now < xdmBrokenInterval) :
    (crashRestarts es : Int) ≤ max 0 (R - 1 - t.reservTries) := by
  induction es generalizing t with
  | nil => exact Int.le_max_left ..
  | cons e es ih =>
    obtain ⟨hfollows, hrest⟩ := h
    have htime := hclock e (List.mem_cons_self ..)
    have hR := hconfig e (List.mem_cons_self ..)
    have ih := ih hrest
    rw [crashRestarts_cons]
    cases he : e.isReserver with
    | false =>
      rw [List.filter_cons_of_neg (by simp [he])] at hrapid
      rw [Tries.after_lastReserv he, Tries.after_reservTries he (hobey e (List.mem_cons_self ..))]
        at ih
      have hcount := ih hlast (fun e' h' => hclock e' (List.mem_cons_of_mem _ h'))
        (fun e' h' => hobey e' (List.mem_cons_of_mem _ h'))
        (fun e' h' => hconfig e' (List.mem_cons_of_mem _ h')) hrapid
      simpa using hcount
    | true =>
      rw [List.filter_cons_of_pos he, List.map_cons, List.isChain_cons_cons] at hrapid
      have hrecent : t.recent e.time = true := decide_eq_true ⟨hlast, hrapid.1⟩
      rw [Tries.after_reserver (of_decide_eq_true he), hrecent, if_pos rfl] at ih
      have hcount := ih (Int.ne_of_gt htime)
        (fun e' h' => hclock e' (List.mem_cons_of_mem _ h'))
        (fun e' h' => hobey e' (List.mem_cons_of_mem _ h'))
        (fun e' h' => hconfig e' (List.mem_cons_of_mem _ h')) hrapid.2
      dsimp only at hcount
      rw [Bool.true_and]
      split_ifs with hrestarted
      · -- one more attempt is left than after this crash
        have hfew : ¬ R ≤ t.reservTries + 1 := fun hR' =>
          hfollows.reserver hrestarted he ⟨hrecent, hR ▸ hR'⟩
        push_cast
        omega
      · push_cast
        omega

/-- A run of crashes that begins with one that is not recent. -/
lemma crashRestarts_le (h : Throttled t es) (hclock : ∀ e ∈ es, 0 < e.time)
    (hobey : ∀ e ∈ es, e.val ≠ obeysessDisplay) (hconfig : ∀ e ∈ es, e.reservAttempts = R)
    (hfirst : ∀ e ∈ (es.filter SessionExit.isReserver).head?, t.recent e.time = false)
    (hrapid : ((es.filter SessionExit.isReserver).map SessionExit.time).IsChain
      fun now now' => now' - now < xdmBrokenInterval) :
    (crashRestarts es : Int) ≤ max 1 R := by
  induction es generalizing t with
  | nil => exact Int.le_trans (by decide) (Int.le_max_left ..)
  | cons e es ih =>
    obtain ⟨-, hrest⟩ := h
    have htime := hclock e (List.mem_cons_self ..)
    have hclock' : ∀ e' ∈ es, 0 < e'.time := fun e' h' => hclock e' (List.mem_cons_of_mem _ h')
    have hobey' : ∀ e' ∈ es, e'.val ≠ obeysessDisplay :=
      fun e' h' => hobey e' (List.mem_cons_of_mem _ h')
    have hconfig' : ∀ e' ∈ es, e'.reservAttempts = R :=
      fun e' h' => hconfig e' (List.mem_cons_of_mem _ h')
    rw [crashRestarts_cons]
    cases he : e.isReserver with
    | false =>
      rw [List.filter_cons_of_neg (by simp [he])] at hfirst hrapid
      have hfirst' : ∀ e' ∈ (es.filter SessionExit.isReserver).head?,
          (t.after e.val e.time).recent e'.time = false := by
        intro e' he'
        rw [Tries.recent, Tries.after_lastReserv he]
        exact hfirst e' he'
      simpa using ih hrest hclock' hobey' hconfig' hfirst' hrapid
    | true =>
      rw [List.filter_cons_of_pos he] at hfirst hrapid
      have hrecent : t.recent e.time = false := hfirst e rfl
      rw [Tries.after_reserver (of_decide_eq_true he), hrecent, if_neg Bool.false_ne_true] at hrest
      have hcount := crashRestarts_recent hrest (Int.ne_of_gt htime) hclock' hobey'
        hconfig' hrapid
      dsimp only at hcount
      split_ifs <;> push_cast <;> omega

/-- The failures to start. -/
lemma failureRestarts_le (h : Throttled t es) (hfail : ∀ e ∈ es, e.isFailure = true)
    (hconfig : ∀ e ∈ es, e.startAttempts = S) :
    (es.countP SessionExit.restarted : Int) ≤ max 0 (S - 1 - t.startTries) := by
  induction es generalizing t with
  | nil => exact Int.le_max_left ..
  | cons e es ih =>
    obtain ⟨hfollows, hrest⟩ := h
    have he := hfail e (List.mem_cons_self ..)
    have hS := hconfig e (List.mem_cons_self ..)
    rw [Tries.after_failure (of_decide_eq_true he)] at hrest
    have hcount := ih hrest (fun e' h' => hfail e' (List.mem_cons_of_mem _ h'))
      fun e' h' => hconfig e' (List.mem_cons_of_mem _ h')
    dsimp only at hcount
    rw [List.countP_cons]
    split_ifs with hrestarted
    · have hfew := hfollows.failure hrestarted he
      push_cast
      omega
    · push_cast
      omega

/-- Where the crashes are far apart, none of them is recent. -/
lemma not_recent_of_slow (ht : t.lastReserv = 0) (he : e.isReserver = true)
    (hslow : (((es ++ e :: es').filter SessionExit.isReserver).map SessionExit.time).IsChain
      fun now now' => xdmBrokenInterval ≤ now' - now) :
    (t.afterAll es).recent e.time = false := by
  rw [Tries.recent, Tries.afterAll_lastReserv, ht, decide_eq_false_iff_not]
  rintro ⟨hne, hrecent⟩
  cases hlast : (es.filter SessionExit.isReserver).getLast? with
  | none =>
    rw [hlast] at hne
    exact hne rfl
  | some r =>
    rw [hlast] at hrecent
    obtain ⟨l, hl⟩ := List.getLast?_eq_some_iff.1 hlast
    rw [List.filter_append, List.filter_cons_of_pos he, hl, List.append_assoc,
      List.singleton_append, List.map_append, List.map_cons, List.map_cons,
      List.isChain_append_cons_cons] at hslow
    have hfar : xdmBrokenInterval ≤ e.time - r.time := hslow.2.1
    exact absurd hrecent (Int.not_lt.2 hfar)

end Xdm
