/-
# The restarts of a display

Along a run the ends of the sessions of each display are throttled: what `WaitForChild` has
counted of a display is what the ends of its sessions have left, and nothing but these ends
changes it.  The steps here are the operations of the daemon, those that scan the servers file
and react to deaths taken apart into their parts.
-/
import Xdm.Readded
import Xdm.Throttle

namespace Xdm

open Prog

variable {config : Config} {g : Nat} {s s' t u : State} {w : World} {a : Nat} {d x : Display}
variable {dead : List Pid} {val : Int} {P Q : Display → Prop}

/-! ### The end of a session -/

/-- The display is restarted when its session ends with `val`. -/
def Display.restarts (d : Display) (val : Int) (now : Time) : Bool :=
  if val = obeysessDisplay then
    d.displayType.lifetime = .permanent ∧ d.status ≠ .zombie
  else d.displayType.origin ≠ .fromXDMCP ∧ d.status ≠ .zombie ∧ d.givenUp now val = false

/-- What decides about a restart. -/
structure Display.SameCase (d x : Display) : Prop where
  displayType : x.displayType = d.displayType
  status : x.status = d.status
  resources : x.resources = d.resources

/-- What holds when the end of the session has been dealt with. -/
def Decided (a : Nat) (restarts : Bool) (tries : Tries) (t : State) : Prop :=
  if restarts = true then ListedWhere a (fun x => x.status ≠ .zombie ∧ x.tries = tries) t
  else t.Where a fun x => x.status = .zombie

lemma wlp_writeWhere {f : Display → Display} (hs : ListedWhere a P s)
    (haddr : ∀ d, (f d).addr = d.addr) (hf : ∀ d, P d → Q (f d)) :
    Wlp (writeDisplay a f) (fun _ t => ListedWhere a Q t) s := by
  refine (wp_writeDisplay hs.1 ⟨hs.1.write haddr, fun d hd hda => ?_⟩).wlp
  rcases State.mem_write.1 hd with ⟨x, hx, hxa, rfl⟩ | ⟨-, hne⟩
  · exact hf x (hs.2 x hx hxa)
  · exact absurd hda hne

/-- A stopped display is a zombie, or gone. -/
lemma wlp_stopDisplay_zombie (a : Nat) (s : State) :
    Wlp (stopDisplay a) (fun _ t => t.Where a fun x => x.status = .zombie) s := by
  have hwrite : ∀ {t : State} {m : M Unit}, (∀ u : State, u.Where a (fun x => x.status = .zombie) →
      Wlp m (fun _ v => v.Where a fun x => x.status = .zombie) u) →
      Wlp (do writeDisplay a fun display => { display with status := .zombie }; m)
        (fun _ v => v.Where a fun x => x.status = .zombie) t := by
    intro t m hm
    rw [wlp_bind]
    refine wlp_writeDisplay (hm _ fun x hx hxa => ?_) fun hno => hm _ fun x hx hxa =>
      (hno x hx hxa).elim
    rcases State.mem_write.1 hx with ⟨y, -, -, rfl⟩ | ⟨-, hne⟩
    · rfl
    · exact absurd hxa hne
  have hkill : ∀ {t : State} (pid : Pid) (signal : Int) {m : M Unit}
      (_ : ∀ u : State, u.displays = t.displays →
        Wlp m (fun _ v => v.Where a fun x => x.status = .zombie) u),
      Wlp (do terminateProcess pid signal; m)
        (fun _ v => v.Where a fun x => x.status = .zombie) t := by
    intro t pid signal m hm
    rw [wlp_bind]
    exact wlp_terminateProcess (hm _ rfl)
  have hremove : ∀ t : State, Wlp (removeDisplay a)
      (fun _ v => v.Where a fun x => x.status = .zombie) t := fun t => by
    refine wlp_removeDisplay (fun x hx hxa => ?_) fun hno x hx hxa => (hno x hx hxa).elim
    exact absurd hxa (State.mem_remove.1 hx).2
  unfold stopDisplay
  rw [wlp_bind]
  refine wlp_readDisplay fun d _ _ => ?_
  by_cases hserver : d.serverPid = -1
  · simp only [hserver, ne_eq, not_true_eq_false, if_false]
    exact wlp_ite (fun _ => hkill _ _ fun u _ => hremove u) fun _ => hremove s
  · simp only [hserver, ne_eq, not_false_eq_true, if_true]
    have hlast : ∀ t : State, t.Where a (fun x => x.status = .zombie) →
        Wlp (terminateProcess d.serverPid d.resources.termSignal)
          (fun _ v => v.Where a fun x => x.status = .zombie) t := fun t ht =>
      wlp_terminateProcess ht
    refine hwrite fun t ht => wlp_ite (fun _ => ?_) fun _ => hlast t ht
    exact hkill _ _ fun u hu => hlast u fun x hx => ht x (hu ▸ hx)

lemma wlp_restartDisplay_tries {tries : Tries} (hs : ListedWhere a (fun x => x.tries = tries) s)
    (force : Bool) : Wlp (restartDisplay a force)
      (fun _ t => ListedWhere a (fun x => x.status ≠ .zombie ∧ x.tries = tries) t) s := by
  have hstatus : ∀ status, status ≠ .zombie → ∀ t : State,
      ListedWhere a (fun x => x.tries = tries) t →
      Wlp (writeDisplay a fun display => { display with status := status })
        (fun _ u => ListedWhere a (fun x => x.status ≠ .zombie ∧ x.tries = tries) u) t :=
    fun status hne t ht => wlp_writeWhere ht (fun _ => rfl) fun _ hd => ⟨hne, hd⟩
  unfold restartDisplay
  rw [wlp_bind]
  refine wlp_readDisplay fun d _ _ => wlp_ite (fun _ => ?_) fun _ => hstatus _ (by simp) s hs
  rw [wlp_bind]
  exact wlp_terminateProcess (hstatus _ (by simp) _ hs)

lemma wlp_stop_decided (s : State) (tries : Tries) :
    Wlp (stopDisplay a) (fun _ t => Decided a false tries t) s :=
  (wlp_stopDisplay_zombie a s).mono fun _ _ ht => ht

lemma wlp_restart_decided {tries : Tries} (hs : ListedWhere a (fun x => x.tries = tries) s)
    (force : Bool) : Wlp (restartDisplay a force) (fun _ t => Decided a true tries t) s :=
  (wlp_restartDisplay_tries hs force).mono fun _ _ ht => ht

/-- The end of `OPENFAILED_DISPLAY`, and of a session that a `SIGTERM` has ended. -/
lemma wlp_lastStart_decided
    (hs : ListedWhere a (fun x => d.SameCase x ∧ x.tries = d.tries) s) : Wlp (do
      if ← lastStart a then stopDisplay a else restartDisplay a true)
      (fun _ t => Decided a (decide (d.displayType.origin ≠ .fromXDMCP ∧ d.status ≠ .zombie ∧
        ¬ d.resources.startAttempts ≤ d.startTries + 1))
        { d.tries with startTries := d.startTries + 1 } t) s := by
  unfold lastStart
  simp only [wlp_bind]
  refine wlp_readDisplay fun x hx hxa => ?_
  obtain ⟨hcase, htries⟩ := hs.2 x hx hxa
  have hstart : x.startTries = d.startTries := congrArg Tries.startTries htries
  rw [hcase.displayType, hcase.status, hcase.resources, hstart]
  refine wlp_ite (fun hdead => ?_) fun halive => ?_
  · rw [wlp_pure, if_pos rfl, decide_eq_false (by tauto)]
    exact wlp_stop_decided s _
  · rw [not_or] at halive
    rw [wlp_bind]
    refine Wlp.mono (wlp_writeWhere (Q := fun x => x.tries =
      { d.tries with startTries := d.startTries + 1 }) hs ?_ ?_) fun _ t ht => ?_
    · exact fun _ => rfl
    · rintro y ⟨-, hy⟩
      show (⟨y.startTries + 1, y.lastReserv, y.reservTries⟩ : Tries) =
        ⟨d.startTries + 1, d.lastReserv, d.reservTries⟩
      rw [show y.startTries = d.startTries from congrArg Tries.startTries hy,
        show y.lastReserv = d.lastReserv from congrArg Tries.lastReserv hy,
        show y.reservTries = d.reservTries from congrArg Tries.reservTries hy]
    · rw [wlp_pure]
      by_cases hfew : d.resources.startAttempts ≤ d.startTries + 1
      · rw [if_pos (decide_eq_true hfew), decide_eq_false (by tauto)]
        exact wlp_stop_decided t _
      · rw [if_neg (by simpa using hfew), decide_eq_true ⟨halive.1, halive.2, hfew⟩]
        exact wlp_restart_decided ht true

/-- The end of `RESERVER_DISPLAY`, with the counter of starts cleared. -/
lemma wlp_reserver_decided {now : Time} (hs : ListedWhere a (fun x => d.SameCase x ∧
      x.tries = { d.tries with startTries := 0 }) s) :
    Wlp (reserver a now) (fun _ t => Decided a (!d.crashes now)
      ⟨0, now, if d.tries.recent now then d.reservTries + 1 else 0⟩ t) s := by
  have hnote : ∀ {restarts n} {t : State}, Decided a restarts ⟨0, d.lastReserv, n⟩ t →
      Wlp (writeDisplay a fun display => { display with lastReserv := now })
        (fun _ u => Decided a restarts ⟨0, now, n⟩ u) t := by
    intro restarts n t ht
    cases restarts with
    | true =>
      refine Wlp.mono (wlp_writeWhere ht ?_ ?_) fun _ _ hu => hu
      · exact fun _ => rfl
      rintro x ⟨hstatus, htries⟩
      refine ⟨hstatus, ?_⟩
      show (⟨x.startTries, now, x.reservTries⟩ : Tries) = _
      rw [show x.startTries = 0 from congrArg Tries.startTries htries,
        show x.reservTries = n from congrArg Tries.reservTries htries]
    | false =>
      refine wlp_writeDisplay (fun x hx hxa => ?_) fun hno x hx hxa => (hno x hx hxa).elim
      rcases State.mem_write.1 hx with ⟨y, hy, hya, rfl⟩ | ⟨-, hne⟩
      · exact ht y hy hya
      · exact absurd hxa hne
  -- the counter of crashes has been stored, whatever it is
  have hrest : ∀ {n : Int} {t : State} {stop : Prop} [Decidable stop],
      ListedWhere a (fun x => x.tries = ⟨0, d.lastReserv, n⟩) t →
      (stop ↔ d.crashes now = true) → Wlp (do
        if stop then stopDisplay a else restartDisplay a true
        writeDisplay a fun display => { display with lastReserv := now })
        (fun _ u => Decided a (!d.crashes now) ⟨0, now, n⟩ u) t := by
    intro n t stop _ ht hstop
    refine wlp_ite (fun hc => ?_) fun hc => ?_
    · rw [hstop.1 hc, wlp_bind]
      exact (wlp_stop_decided t _).mono fun _ _ hu => hnote hu
    · rw [Bool.eq_false_iff.2 fun hcrash => hc (hstop.2 hcrash), wlp_bind]
      exact (wlp_restart_decided ht true).mono fun _ _ hu => hnote hu
  unfold reserver
  rw [wlp_bind]
  refine wlp_readDisplay fun x hx hxa => ?_
  obtain ⟨hcase, htries⟩ := hs.2 x hx hxa
  have hlast : x.lastReserv = d.lastReserv := congrArg Tries.lastReserv htries
  have hcount : x.reservTries = d.reservTries := congrArg Tries.reservTries htries
  have hcrashes : d.crashes now = true ↔ d.tries.recent now = true ∧
      d.resources.reservAttempts ≤ d.reservTries + 1 := by
    rw [Tries.recent_iff, and_assoc]
    exact decide_eq_true_iff
  have hstore : ∀ (f : Display → Int) n, (∀ y : Display,
      y.tries = { d.tries with startTries := 0 } → f y = n) →
      Wlp (writeDisplay a fun display => { display with reservTries := f display })
        (fun _ t => ListedWhere a (fun y => y.tries = ⟨0, d.lastReserv, n⟩) t) s := by
    intro f n hf
    refine wlp_writeWhere hs ?_ ?_
    · exact fun _ => rfl
    rintro y ⟨-, hy⟩
    show (⟨y.startTries, y.lastReserv, f y⟩ : Tries) = _
    rw [hf y hy, show y.startTries = 0 from congrArg Tries.startTries hy,
      show y.lastReserv = d.lastReserv from congrArg Tries.lastReserv hy]
  have hrecent : (decide (x.lastReserv ≠ 0 ∧ now - x.lastReserv < xdmBrokenInterval)) =
      d.tries.recent now := by
    rw [hlast]
    rfl
  rw [hrecent, hcase.resources, hcount]
  refine wlp_ite (fun hc => ?_) fun hc => ?_
  · rw [if_pos hc, wlp_bind]
    refine (hstore _ (d.reservTries + 1) fun y hy => ?_).mono fun _ t ht => hrest ht hcrashes.symm
    show y.reservTries + 1 = _
    rw [show y.reservTries = d.reservTries from congrArg Tries.reservTries hy]
  · rw [if_neg hc, wlp_bind]
    exact (hstore _ 0 fun _ _ => rfl).mono fun _ t ht => hrest ht hcrashes.symm

namespace Display

variable {now : Time}

lemma restarts_failure (hval : val = openfailedDisplay ∨ val = sigterm * 256) :
    d.restarts val now = decide (d.displayType.origin ≠ .fromXDMCP ∧ d.status ≠ .zombie ∧
      ¬ d.resources.startAttempts ≤ d.startTries + 1) := by
  have hne : val ≠ obeysessDisplay := by
    rcases hval with h | h <;> rw [h] <;> decide
  have hne' : ¬ (val = obeysessDisplay ∨ val = remanageDisplay) := by
    rcases hval with h | h <;> rw [h] <;> decide
  rw [restarts, if_neg hne, givenUp, if_neg hne', if_pos hval]
  simp only [decide_eq_false_iff_not]

lemma restarts_reserver (hval : val = reserverDisplay) :
    d.restarts val now = (decide (d.displayType.origin ≠ .fromXDMCP ∧ d.status ≠ .zombie) &&
      !d.crashes now) := by
  rw [restarts, hval, if_neg (by decide), givenUp, if_neg (by decide), if_neg (by decide),
    if_pos rfl]
  simp only [Bool.decide_and, Bool.and_assoc, Bool.decide_eq_false]

lemma restarts_remanage (hval : val = remanageDisplay) :
    d.restarts val now = decide (d.displayType.origin ≠ .fromXDMCP ∧ d.status ≠ .zombie) := by
  rw [restarts, hval, if_neg (by decide), givenUp, if_pos (by decide)]
  simp

lemma restarts_other (h₁ : val ≠ obeysessDisplay) (h₂ : val ≠ openfailedDisplay)
    (h₃ : val ≠ reserverDisplay) (h₄ : val ≠ sigterm * 256) (h₅ : val ≠ remanageDisplay) :
    d.restarts val now = false := by
  rw [restarts, if_neg h₁, givenUp, if_neg (not_or.2 ⟨h₁, h₅⟩), if_neg (not_or.2 ⟨h₂, h₄⟩),
    if_neg h₃]
  simp

/-- A zombie is not restarted. -/
lemma alive_of_restarts (h : d.restarts val now = true) : d.status ≠ .zombie := by
  unfold restarts at h
  split_ifs at h
  · exact (of_decide_eq_true h).2
  · exact (of_decide_eq_true h).2.1

end Display

/-- For every display and every exit status: what `restarts` says is what happens, and the
counters of a display that is restarted move on. -/
lemma wlp_sessionEnded_decided (hs : ListedWhere a (fun x => x = d) s) (val : Int) :
    Wlp (sessionEnded w a val)
      (fun _ t => Decided a (d.restarts val w.time) (d.tries.after val w.time) t) s := by
  unfold sessionEnded
  rw [wlp_bind]
  refine Wlp.mono (wlp_writeWhere (Q := fun x => d.SameCase x ∧ x.tries = d.tries) hs ?_ ?_)
    fun _ t ht => ?_
  · exact fun _ => rfl
  · rintro x rfl
    exact ⟨⟨rfl, rfl, rfl⟩, rfl⟩
  rw [wlp_bind]
  refine wlp_readDisplay fun x hx hxa => ?_
  obtain ⟨hcase, -⟩ := ht.2 x hx hxa
  rw [hcase.displayType, hcase.status]
  have hclear : Wlp (clearStartTries a) (fun _ u => ListedWhere a (fun x => d.SameCase x ∧
      x.tries = { d.tries with startTries := 0 }) u) t := by
    refine wlp_writeWhere ht ?_ ?_
    · exact fun _ => rfl
    rintro y ⟨hy, htries⟩
    exact ⟨⟨hy.displayType, hy.status, hy.resources⟩, by rw [← htries]; rfl⟩
  refine wlp_ite (fun hval => ?unmanage) fun h₀ => wlp_ite (fun hval => ?obeysess) fun h₁ =>
    wlp_ite (fun hval => ?openfailed) fun h₂ => wlp_ite (fun hval => ?reserver) fun h₃ =>
      wlp_ite (fun hval => ?sigterm) fun h₄ => wlp_ite (fun hval => ?remanage) fun h₅ => ?other
  case unmanage =>
    rw [hval, Display.restarts_other (by decide) (by decide) (by decide) (by decide) (by decide)]
    exact wlp_stop_decided t _
  case obeysess =>
    rw [wlp_bind]
    refine hclear.mono fun _ u hu => ?_
    rw [wlp_bind]
    refine Wlp.mono (wlp_writeWhere (Q := fun x => x.tries = d.tries.after val w.time) hu ?_ ?_)
      fun _ v hv => ?_
    · exact fun _ => rfl
    · rintro y ⟨-, hy⟩
      rw [Tries.after, if_pos hval]
      show (⟨y.startTries, y.lastReserv, 0⟩ : Tries) = ⟨0, d.lastReserv, 0⟩
      rw [show y.startTries = 0 from congrArg Tries.startTries hy,
        show y.lastReserv = d.lastReserv from congrArg Tries.lastReserv hy]
    · rw [Display.restarts, if_pos hval]
      by_cases hstop : d.displayType.lifetime ≠ .permanent ∨ d.status = .zombie
      · rw [if_pos hstop, decide_eq_false (by tauto)]
        exact wlp_stop_decided v _
      · rw [if_neg hstop, decide_eq_true (by tauto)]
        exact wlp_restart_decided hv false
  case openfailed =>
    rw [Display.restarts_failure (Or.inl hval), Tries.after_failure (Or.inl hval)]
    refine wlp_ite (fun _ => ?_) fun _ => wlp_lastStart_decided ht
    unfold sendFailed sendFailedTo emit
    simp only [wlp_bind, wlp_modify]
    exact wlp_readDisplay fun _ _ _ => (wlp_bind _ _ _ _).1 (wlp_lastStart_decided ht)
  case reserver =>
    rw [Display.restarts_reserver hval, Tries.after_reserver hval, wlp_bind]
    refine hclear.mono fun _ u hu => wlp_ite (fun hdead => ?_) fun halive => ?_
    · rw [decide_eq_false (by tauto), Bool.false_and]
      exact wlp_stop_decided u _
    · rw [decide_eq_true (by tauto), Bool.true_and]
      exact wlp_reserver_decided hu
  case sigterm =>
    rw [Display.restarts_failure (Or.inr hval), Tries.after_failure (Or.inr hval)]
    exact wlp_lastStart_decided ht
  case remanage =>
    rw [Display.restarts_remanage hval, Tries.after_remanage hval, wlp_bind]
    refine hclear.mono fun _ u hu => wlp_ite (fun hdead => ?_) fun halive => ?_
    · rw [decide_eq_false (by tauto)]
      exact wlp_stop_decided u _
    · rw [decide_eq_true (by tauto)]
      exact wlp_restart_decided ⟨hu.1, fun y hy hya => (hu.2 y hy hya).2⟩ false
  case other =>
    rw [Display.restarts_other h₁ h₂ h₃ h₄ h₅]
    exact wlp_stop_decided t _

/-! ### What else happens to the counters -/

/-- Displays have their counters as before, but for the one at `but`, or are new. -/
structure Tallied (but : Option Nat) (s s' : State) : Prop where
  nextAddr : s.nextAddr ≤ s'.nextAddr
  old : ∀ x ∈ s'.displays, but ≠ some x.addr →
    (∃ d ∈ s.displays, d.addr = x.addr ∧ d.tries = x.tries) ∨
      s.nextAddr ≤ x.addr ∧ x.tries = .fresh

/-- The store leaves the counters of every display alone. -/
def KeepsTries (f : Display → Display) : Prop := ∀ d, (f d).addr = d.addr ∧ (f d).tries = d.tries

lemma KeepsTries.startStop : StartStop KeepsTries where
  state := fun _ _ => ⟨rfl, rfl⟩
  status := fun _ _ => ⟨rfl, rfl⟩
  serverPid := fun _ _ => ⟨rfl, rfl⟩
  session := fun _ _ => ⟨rfl, rfl⟩
  resources := fun _ _ => ⟨rfl, rfl⟩

namespace Tallied

lemma of_eq (hd : s'.displays = s.displays) (hn : s.nextAddr ≤ s'.nextAddr) :
    Tallied none s s' :=
  ⟨hn, fun x hx _ => Or.inl ⟨x, hd ▸ hx, rfl, rfl⟩⟩

lemma trans (h : Tallied none s t) (h' : Tallied none t u) : Tallied none s u := by
  refine ⟨Nat.le_trans h.nextAddr h'.nextAddr, fun x hx _ => ?_⟩
  rcases h'.old x hx nofun with ⟨y, hy, hyx, htries⟩ | ⟨hnew, htries⟩
  · rcases h.old y hy nofun with ⟨d, hd, hdy, hdtries⟩ | ⟨hnew, hfresh⟩
    · exact Or.inl ⟨d, hd, hdy.trans hyx, hdtries.trans htries⟩
    · exact Or.inr ⟨hyx ▸ hnew, htries ▸ hfresh⟩
  · exact Or.inr ⟨Nat.le_trans h.nextAddr hnew, htries⟩

instance : Std.Refl (Tallied none) := ⟨fun _ => of_eq rfl (Nat.le_refl _)⟩
instance : IsTrans State (Tallied none) := ⟨fun _ _ _ => trans⟩

lemma works (a : Nat) : WorksBy KeepsTries a (Tallied none) where
  store := fun s f hf => by
    refine ⟨Nat.le_refl _, fun x hx _ => Or.inl ?_⟩
    rcases State.mem_write.1 hx with ⟨y, hy, -, rfl⟩ | ⟨hx, -⟩
    · exact ⟨y, hy, (hf y).1.symm, (hf y).2.symm⟩
    · exact ⟨x, hx, rfl, rfl⟩
  remove := fun s => ⟨Nat.le_refl _, fun x hx _ => Or.inl ⟨x, (State.mem_remove.1 hx).1, rfl, rfl⟩⟩
  emit := fun _ _ _ => of_eq rfl (Nat.le_refl _)
  kernel := fun _ _ => of_eq rfl (Nat.le_refl _)

end Tallied

/-- The display is `d`, but for what a line of the servers file says. -/
structure Display.Reread (d x : Display) : Prop where
  addr : x.addr = d.addr
  pid : x.pid = d.pid
  status : x.status = d.status
  resources : x.resources = d.resources
  tries : x.tries = d.tries
  origin : d.displayType.origin = .fromFile → x.displayType.origin = .fromFile

lemma Display.Reread.refl (d : Display) : d.Reread d := ⟨rfl, rfl, rfl, rfl, rfl, id⟩

lemma Display.Reread.trans {y : Display} (h : d.Reread x) (h' : x.Reread y) : d.Reread y :=
  ⟨h'.addr.trans h.addr, h'.pid.trans h.pid, h'.status.trans h.status,
    h'.resources.trans h.resources, h'.tries.trans h.tries, h'.origin ∘ h.origin⟩

/-- Files have been read: every display is still there, and the others are new. -/
structure Reread (s s' : State) : Prop where
  nextAddr : s.nextAddr ≤ s'.nextAddr
  new : ∀ x ∈ s'.displays, (∃ d ∈ s.displays, d.Reread x) ∨
    s.nextAddr ≤ x.addr ∧ x.pid = -1 ∧ x.tries = .fresh
  kept : ∀ d ∈ s.displays, ∃ x ∈ s'.displays, d.Reread x

namespace Reread

lemma of_eq (hd : s'.displays = s.displays) (hn : s.nextAddr ≤ s'.nextAddr) : Reread s s' :=
  ⟨hn, fun x hx => Or.inl ⟨x, hd ▸ hx, .refl x⟩, fun d hd' => ⟨d, hd.symm ▸ hd', .refl d⟩⟩

lemma trans (h : Reread s t) (h' : Reread t u) : Reread s u := by
  refine ⟨Nat.le_trans h.nextAddr h'.nextAddr, fun x hx => ?_, fun d hd => ?_⟩
  · rcases h'.new x hx with ⟨y, hy, hyx⟩ | ⟨hnew, hpid, htries⟩
    · rcases h.new y hy with ⟨d, hd, hdy⟩ | ⟨hnew, hpid, htries⟩
      · exact Or.inl ⟨d, hd, hdy.trans hyx⟩
      · exact Or.inr ⟨hyx.addr ▸ hnew, hyx.pid.trans hpid, hyx.tries.trans htries⟩
    · exact Or.inr ⟨Nat.le_trans h.nextAddr hnew, hpid, htries⟩
  · obtain ⟨x, hx, hdx⟩ := h.kept d hd
    obtain ⟨y, hy, hxy⟩ := h'.kept x hx
    exact ⟨y, hy, hdx.trans hxy⟩

instance : Std.Refl Reread := ⟨fun _ => of_eq rfl (Nat.le_refl _)⟩
instance : IsTrans State Reread := ⟨fun _ _ _ => trans⟩

lemma write {f : Display → Display} (hf : ∀ d : Display, d.Reread (f d)) :
    Reread s (s.write a f) := by
  refine ⟨Nat.le_refl _, fun x hx => Or.inl ?_, fun d hd => ?_⟩
  · rcases State.mem_write.1 hx with ⟨y, hy, -, rfl⟩ | ⟨hx, -⟩
    · exact ⟨y, hy, hf y⟩
    · exact ⟨x, hx, .refl x⟩
  · by_cases hda : d.addr = a
    · exact ⟨f d, State.mem_write.2 (Or.inl ⟨d, hd, hda, rfl⟩), hf d⟩
    · exact ⟨d, State.mem_write.2 (Or.inr ⟨hd, hda⟩), .refl d⟩

lemma tallied (h : Reread s s') : Tallied none s s' := by
  refine ⟨h.nextAddr, fun x hx _ => ?_⟩
  rcases h.new x hx with ⟨d, hd, hdx⟩ | ⟨hnew, -, htries⟩
  · exact Or.inl ⟨d, hd, hdx.addr.symm, hdx.tries.symm⟩
  · exact Or.inr ⟨hnew, htries⟩

lemma markDisplay (b : Nat) : Respects Reread (Xdm.markDisplay b) := fun _ _ =>
  wlp_writeDisplay ⟨trivial, write fun _ => ⟨rfl, rfl, rfl, rfl, rfl, id⟩⟩
    fun _ => ⟨trivial, of_eq rfl (Nat.le_refl _)⟩

lemma parseDisplay (source : Str) : Respects Reread (Xdm.parseDisplay source) := by
  intro s _
  refine wlp_parseDisplay_of source ⟨trivial, of_eq rfl (Nat.le_refl _)⟩
    (fun horigin _ => ⟨trivial, write fun _ => ⟨rfl, rfl, rfl, rfl, rfl, fun _ => horigin⟩⟩)
    fun {name _ className _} horigin _ => ⟨trivial, ?_⟩
  have henter : Reread s (s.enter (newDisplayAt s.nextAddr name className)) := by
    refine ⟨Nat.le_succ _, fun x hx => ?_, fun d hd => ⟨d, List.mem_cons_of_mem _ hd, .refl d⟩⟩
    rcases List.mem_cons.1 hx with rfl | hx
    · exact Or.inr ⟨Nat.le_refl _, rfl, rfl⟩
    · exact Or.inl ⟨x, hx, .refl x⟩
  exact henter.trans (write fun _ => ⟨rfl, rfl, rfl, rfl, rfl, fun _ => horigin⟩)

lemma loadConfig (w : World) : Respects Reread (Xdm.loadConfig w) :=
  Keeps.modify fun _ _ => ⟨trivial, of_eq rfl (Nat.le_refl _)⟩

lemma loadDatabase (w : World) : Respects Reread (Xdm.loadDatabase w) :=
  Keeps.modify fun _ _ => ⟨trivial, of_eq rfl (Nat.le_refl _)⟩

lemma scanServers (w : World) : Respects Reread (Xdm.scanServers w) :=
  keeps_scanServers_of w parseDisplay

lemma rescanIfMod (w : World) : Respects Reread (Xdm.rescanIfMod w) :=
  keeps_rescanIfMod_of (loadConfig w) (keeps_forEachDisplay markDisplay) (scanServers w)
    (loadDatabase w)

lemma noticeChild (e : Exit) : Respects Reread (Xdm.noticeChild e) :=
  Keeps.bind Keeps.get fun _ =>
    Keeps.bind (Keeps.modify fun _ _ => ⟨trivial, of_eq rfl (Nat.le_refl _)⟩) fun _ =>
      Keeps.ite (fun _ => rescanIfMod e.world) fun _ => Keeps.pure _

end Reread

/-! ### The machine -/

/-- The operations of the daemon; those that scan the servers file and react to deaths happen
in their parts. -/
inductive Moment
  | part (x : Happening)
  | operation (i : Input)

def Moment.perform : Moment → M Unit
  | .part x => x.perform
  | .operation i => if i.happenings?.isSome then failure else step i

/-- Runs of the daemon, taken apart. -/
abbrev MomentRun (config : Config) (globalSessionID : Nat) :
    List (Prog.Step State Moment) → State → Prop :=
  Prog.Run Moment.perform (State.initial config globalSessionID)

/-- The moments of an operation. -/
def Input.moments (i : Input) : List Moment :=
  if i.happenings?.isSome then i.happenings.map .part else [.operation i]

lemma forM_parts (es : List Happening) :
    (es.map Moment.part).forM Moment.perform = es.forM Happening.perform := by
  induction es with
  | nil => rfl
  | cons e es ih =>
    show (do Happening.perform e; (es.map Moment.part).forM Moment.perform) = _
    rw [ih]
    rfl

lemma step_moments {i : Input} (hstep : step i s = some ((), s')) :
    i.moments.forM Moment.perform s = some ((), s') := by
  unfold Input.moments
  split_ifs with hi
  · rw [forM_parts]
    exact step_happenings hi hstep
  · have hmoment : Moment.perform (.operation i) = step i := if_neg hi
    refine bind_eq_some.2 ⟨(), s', ?_, rfl⟩
    rw [hmoment]
    exact hstep

/-- Every run of the daemon is such a run. -/
theorem momentRun_of_run {h : List (Step State Input)} (run : DaemonRun config g h s) :
    ∃ hs, MomentRun config g hs s ∧ hs.map Step.input = h.flatMap fun x => x.input.moments := by
  induction run with
  | nil => exact ⟨[], .nil, rfl⟩
  | @snoc h s s' i _ hstep ih =>
    obtain ⟨hs, hrun, hinputs⟩ := ih
    obtain ⟨hs', hrun', hinputs'⟩ := hrun.forM (step_moments hstep)
    exact ⟨hs ++ hs', hrun', by simp [hinputs, hinputs']⟩

/-! ### The ends of the sessions of a display -/

/-- The session of the display at `a` that ends in this step. -/
def exitAt (a : Nat) (x : Step State Moment) : Option SessionExit :=
  match x.input with
  | .part (.child e) =>
    (x.pre.displays.find? fun d => decide (d.addr = a ∧ d.pid = e.pid)).map fun d =>
      { val := e.status.val
        time := e.world.time
        startAttempts := d.resources.startAttempts
        reservAttempts := d.resources.reservAttempts
        live := decide (d.displayType.origin = .fromFile ∧ d.status ≠ .zombie)
        restarted := x.post.displays.any fun d => decide (d.addr = a ∧ d.status ≠ .zombie) }
  | _ => none

/-- The sessions of the display at `a` that have ended. -/
def exitsOf (a : Nat) (h : List (Step State Moment)) : List SessionExit := h.filterMap (exitAt a)

lemma exitsOf_append {h h' : List (Step State Moment)} :
    exitsOf a (h ++ h') = exitsOf a h ++ exitsOf a h' := List.filterMap_append

/-- What a step is for the counters: no session ends in it, or the session of one display, which
follows its counters. -/
inductive MomentKind (x : Step State Moment) : Prop
  | calm : Tallied none x.pre x.post → (∀ a, exitAt a x = none) → MomentKind x
  | ended (d : Display) (e : SessionExit) : d ∈ x.pre.displays → exitAt d.addr x = some e →
      (∀ a ≠ d.addr, exitAt a x = none) → Tallied (some d.addr) x.pre x.post →
      e.Follows d.tries →
      (∀ y ∈ x.post.displays, y.addr = d.addr → y.status ≠ .zombie →
        d.status ≠ .zombie ∧ y.tries = d.tries.after e.val e.time) →
      (d.status = .zombie → e.live = false ∧ e.restarted = false) → MomentKind x

/-! ### One step -/

variable {e : Exit}

/-- Whoever has had the child has it when its display is looked for. -/
lemma exitAt_eq_none (ht : Reread s t) (hown : ∀ y ∈ t.displays, y.pid = e.pid → y.addr ≠ a) :
    exitAt a ⟨s, .part (.child e), s'⟩ = none := by
  show Option.map _ (s.displays.find? _) = none
  rw [Option.map_eq_none_iff, List.find?_eq_none]
  intro d hd hdec
  obtain ⟨hda, hdp⟩ := of_decide_eq_true hdec
  obtain ⟨y, hy, hdy⟩ := ht.kept d hd
  exact hown y hy (hdy.pid.trans hdp) (hdy.addr.trans hda)

/-- The session that has ended, as it is recorded. -/
lemma exitAt_eq_some (hs : s.Sound [] none) (hd : d ∈ s.displays) (hpid : d.pid = e.pid) :
    exitAt d.addr ⟨s, .part (.child e), s'⟩ = some
      { val := e.status.val
        time := e.world.time
        startAttempts := d.resources.startAttempts
        reservAttempts := d.resources.reservAttempts
        live := decide (d.displayType.origin = .fromFile ∧ d.status ≠ .zombie)
        restarted := s'.displays.any fun x => decide (x.addr = d.addr ∧ x.status ≠ .zombie) } := by
  have hfind : s.displays.find? (fun x => decide (x.addr = d.addr ∧ x.pid = e.pid)) = some d := by
    cases hfind : s.displays.find? (fun x => decide (x.addr = d.addr ∧ x.pid = e.pid)) with
    | none => exact absurd (decide_eq_true ⟨rfl, hpid⟩) (List.find?_eq_none.1 hfind d hd)
    | some x =>
      have hx : x.addr = d.addr ∧ x.pid = e.pid := by simpa using List.find?_some hfind
      rw [hs.distinct.eq_of_mem (List.mem_of_find?_eq_some hfind) hd hx.1]
  show Option.map _ (s.displays.find? _) = _
  rw [hfind]
  rfl

/-- Whether the display has been restarted can be seen from the list. -/
lemma restarted_eq {restarts : Bool} {tries : Tries} (h : Decided a restarts tries s') :
    (s'.displays.any fun x => decide (x.addr = a ∧ x.status ≠ .zombie)) = restarts := by
  cases restarts with
  | true =>
    obtain ⟨⟨x, hx, hxa⟩, hwhere⟩ := h
    exact List.any_eq_true.2 ⟨x, hx, decide_eq_true ⟨hxa, (hwhere x hx hxa).1⟩⟩
  | false =>
    rw [List.any_eq_false]
    intro x hx hdec
    obtain ⟨hxa, hstatus⟩ := of_decide_eq_true hdec
    exact hstatus (h x hx hxa)

/-- The decision follows the counters, which a file that is read leaves alone. -/
lemma follows_of_restarts {r : SessionExit} (hread : d.Reread x)
    (hS : r.startAttempts = d.resources.startAttempts)
    (hR : r.reservAttempts = d.resources.reservAttempts)
    (hlive : r.live = decide (d.displayType.origin = .fromFile ∧ d.status ≠ .zombie))
    (hrestarted : r.restarted = x.restarts r.val r.time) : r.Follows d.tries := by
  have hcrashes : x.crashes r.time = true ↔ r.crashes d.tries := by
    rw [SessionExit.crashes, hR, ← hread.tries, ← hread.resources, Tries.recent_iff, and_assoc]
    exact decide_eq_true_iff
  refine ⟨fun hyes hval hcrash => ?_, fun hyes hval => ?_, fun hyes hval hno => ?_⟩
  · rw [hrestarted, Display.restarts_reserver (of_decide_eq_true hval), hcrashes.2 hcrash,
      Bool.not_true, Bool.and_false] at hyes
    cases hyes
  · rw [hrestarted, Display.restarts_failure (of_decide_eq_true hval), decide_eq_true_iff,
      hread.resources] at hyes
    have hstart : x.startTries = d.startTries := congrArg Tries.startTries hread.tries
    rw [hS]
    show d.startTries + 1 < _
    omega
  · rw [hlive, decide_eq_true_iff] at hyes
    rw [hrestarted, Display.restarts_reserver (of_decide_eq_true hval),
      Bool.eq_false_iff.2 fun hcrash => hno (hcrashes.1 hcrash), hread.origin hyes.1, hread.status]
    simp [hyes.2]

/-- The end of a child. -/
lemma childEnded_kind (hs : s.Sound [] none) (hrun : childEnded e s = some ((), s')) :
    MomentKind ⟨s, .part (.child e), s'⟩ := by
  obtain ⟨t, hchild, hnotice, hend⟩ := childEnded_some hrun
  have hpid : 0 < e.pid := hs.positive _ hchild
  have ht := (wlp_noticeChild e hs _ _ hnotice).1
  have hread := (Reread.noticeChild e s trivial _ _ hnotice).2
  unfold displayEnded at hend
  rw [get_bind] at hend
  cases hfind : findDisplayByPid e.pid t.displays with
  | none =>
    -- the server of a display, or nobody's child
    simp only [hfind] at hend
    have hnobody := findDisplayByPid_none hfind
    refine .calm ?_ fun a => exitAt_eq_none hread fun y hy hyp => absurd hyp (hnobody y hy)
    cases hserver : findDisplayByServerPid e.pid t.displays with
    | none =>
      simp only [hserver] at hend
      obtain ⟨-, rfl⟩ := Prod.mk.inj (Option.some.inj hend)
      exact hread.tallied
    | some y =>
      simp only [hserver] at hend
      refine hread.tallied.trans ?_
      exact ((Tallied.works y.addr).serverEnded KeepsTries.startStop t trivial _ _ hend).2
  | some x =>
    simp only [hfind] at hend
    obtain ⟨hx, hxp⟩ := findDisplayByPid_some hfind
    have hdecided := wlp_sessionEnded_decided ⟨⟨x, hx, rfl⟩, ht.where_of_mem hx rfl rfl⟩
      e.status.val _ _ hend
    have honly := ((Only.works x.addr).sessionEnded e.status.val t trivial _ _ hend).2
    have hnext := (keeps_childEnded e s hs _ _ hrun).2.nextAddr
    rcases hread.new x hx with ⟨d, hd, hdx⟩ | ⟨-, hnone, -⟩
    · have hda : x.addr = d.addr := hdx.addr
      rw [hda] at hdecided honly
      have hdp : d.pid = e.pid := hdx.pid.symm.trans hxp
      have hfollows := follows_of_restarts (r := ⟨e.status.val, e.world.time,
        d.resources.startAttempts, d.resources.reservAttempts,
        decide (d.displayType.origin = .fromFile ∧ d.status ≠ .zombie),
        x.restarts e.status.val e.world.time⟩) hdx rfl rfl rfl rfl
      rw [← restarted_eq hdecided] at hfollows
      refine .ended d _ hd (exitAt_eq_some hs hd hdp) (fun a ha => ?others) ⟨hnext, ?counters⟩
        hfollows ?own ?zombie
      case others =>
        refine exitAt_eq_none hread fun y hy hyp hya => ha ?_
        have hne : y.pid ≠ -1 := hyp ▸ pid_ne hpid
        have hyx := (ht.owner y hy x hx .session .session hne (hyp.trans hxp.symm)).1
        rw [← hya, hyx, hda]
      case counters =>
        intro y hy hne
        have hold : y ∈ t.displays := (honly y fun hya => hne (congrArg some hya.symm)).1 hy
        exact hread.tallied.old y hold nofun
      case own =>
        intro y hy hya hstatus
        unfold Decided at hdecided
        split_ifs at hdecided with hyes
        · obtain ⟨-, htries⟩ := hdecided.2 y hy hya
          refine ⟨fun hzombie => ?_, htries.trans (hdx.tries ▸ rfl)⟩
          exact Display.alive_of_restarts hyes (hdx.status.trans hzombie)
        · exact absurd (hdecided y hy hya) hstatus
      case zombie =>
        intro hzombie
        rw [restarted_eq hdecided]
        refine ⟨decide_eq_false fun hlive => hlive.2 hzombie, Bool.eq_false_iff.2 fun hyes => ?_⟩
        exact Display.alive_of_restarts hyes (hdx.status.trans hzombie)
    · exact absurd (hxp.symm.trans hnone) (pid_ne hpid)

/-- The display that `manage` enters is new, and the others keep their counters. -/
lemma startManaged_tallied {fd : Int} {sender : Netaddr} {m : Manage} {pdpy : ProtoDisplay}
    (hs : s.Sound [] none) (hnext : s.nextAddr ≤ s'.nextAddr)
    (hrun : startManaged w fd sender m pdpy s = some ((), s')) : Tallied none s s' := by
  obtain ⟨q, t, hways, hrun⟩ := managePath_of_run hs hrun
  have hterminated : ∀ name, Tallied none s (s.terminated name) := by
    intro name
    have hactive : Respects (Tallied none) (terminateActive name) :=
      Keeps.bind Keeps.get fun s => by
        split
        · next d _ => exact (Tallied.works d.addr).stopDisplay KeepsTries.startStop
        · exact Keeps.pure _
    exact (hactive s trivial _ _ (terminateActive_eq hs name)).2
  -- a new display in front of what is left
  have hfront : ∀ {name y}, y.addr = s.nextAddr → y.tries = .fresh →
      s'.displays = y :: (s.terminated name).displays → Tallied none s s' := by
    intro name y hya hfresh hdisplays
    refine ⟨hnext, fun x hx _ => ?_⟩
    rw [hdisplays] at hx
    rcases List.mem_cons.1 hx with rfl | hx
    · exact Or.inr ⟨hya.ge, hfresh⟩
    · exact (hterminated name).old x hx nofun
  cases hways with
  | noName =>
    obtain ⟨-, rfl⟩ := Prod.mk.inj (Option.some.inj hrun)
    exact Tallied.of_eq rfl (Nat.le_refl _)
  | noMemory name =>
    obtain ⟨-, rfl⟩ := Prod.mk.inj (Option.some.inj hrun)
    exact (hterminated name).trans (Tallied.of_eq rfl (Nat.le_refl _))
  | leaked name =>
    obtain ⟨-, rfl⟩ := Prod.mk.inj (Option.some.inj hrun)
    exact hfront (y := managedDisplay w fd sender m pdpy name (s.terminated name))
      (State.terminated_nextAddr s name) rfl (congrArg _ (State.askedChooser_displays ..))
  | ready name =>
    obtain ⟨k, y, rfl, hy⟩ := wlp_startReady hs _ _ hrun
    have hfresh : y.tries = .fresh := by cases hy <;> rfl
    have hya : y.addr = (s.terminated name).nextAddr := congrArg Identity.addr hy.identity_eq
    exact hfront (hya.trans (State.terminated_nextAddr s name)) hfresh
      (congrArg _ (State.settled_displays _ w sender pdpy))

lemma step_tallied {i : Input} (hs : s.Sound [] none) (hi : i.happenings? = none)
    (hstep : step i s = some ((), s')) : Tallied none s s' := by
  have hop := operation_of_step hstep
  have hnext := (step_kind hs hstep).2.later.nextAddr
  have hbegin : Tallied none s (s.begin i) := Tallied.of_eq rfl (Nat.le_refl _)
  cases hm : i.manage? with
  | none =>
    cases i with
    | addDisplay w =>
      refine hbegin.trans ((Keeps.bind (keeps_untilDisplay fun a => ?_) fun _ => Keeps.pure _ :
        Respects (Tallied none) (addDisplay w)) _ trivial _ _ hop).2
      exact (Tallied.works a).addDynamicDisplay KeepsTries.startStop
    | stopAll =>
      refine hbegin.trans ((keeps_forEachDisplay fun a => ?_ :
        Respects (Tallied none) stopAll) _ trivial _ _ hop).2
      exact (Tallied.works a).stopDisplay KeepsTries.startStop
    | datagram => exact Tallied.of_eq (step_displays rfl hm hstep) hnext
    | registerIndirectChoice => exact Tallied.of_eq (step_displays rfl hm hstep) hnext
    | _ => cases hi
  | some p =>
    obtain ⟨w, sender, m⟩ := p
    obtain ⟨fd, hfd⟩ := operation_of_manage hm
    rw [hfd] at hop
    refine hbegin.trans ?_
    cases (wlp_answerManage (hs.begin i) _ _ hop).2 with
    | stale _ _ _ heq => exact heq ▸ Tallied.of_eq rfl (Nat.le_refl _)
    | unknown _ _ heq => exact heq ▸ Tallied.of_eq rfl (Nat.le_refl _)
    | ignored _ _ _ _ heq => exact heq ▸ Tallied.of_eq rfl (Nat.le_refl _)
    | managed pdpy hfind hid _ =>
      rw [answerManage_eq hfind hid] at hop
      exact startManaged_tallied (hs.begin i) hnext hop

/-- The rule for steps. -/
lemma moment_kind {m : Moment} (hs : s.Sound [] none) (hstep : m.perform s = some ((), s')) :
    s'.Sound [] none ∧ Later s s' ∧ MomentKind ⟨s, m, s'⟩ := by
  cases m with
  | operation i =>
    change (if i.happenings?.isSome then failure else step i : M Unit) s = _ at hstep
    split_ifs at hstep with hi
    · cases hstep
    · obtain ⟨hs', hkind⟩ := step_kind hs hstep
      have htallied := step_tallied hs (by simpa using hi) hstep
      exact ⟨hs', hkind.later, .calm htallied fun _ => rfl⟩
  | part p =>
    obtain ⟨hs', hlater⟩ := later_perform p hs _ _ hstep
    refine ⟨hs', hlater, ?_⟩
    cases p with
    | child e => exact childEnded_kind hs hstep
    | begins i =>
      obtain ⟨-, rfl⟩ := Prod.mk.inj (Option.some.inj hstep)
      exact .calm (Tallied.of_eq rfl (Nat.le_refl _)) fun _ => rfl
    | firstScan w =>
      have hread : Respects Reread (Happening.firstScan w).perform :=
        Keeps.bind (Reread.loadConfig w) fun _ => Keeps.bind (Reread.loadDatabase w) fun _ =>
          Reread.scanServers w
      exact .calm (hread s trivial _ _ hstep).2.tallied fun _ => rfl
    | rescan w =>
      have hread : Respects Reread (Happening.rescan w).perform :=
        Keeps.bind (keeps_forEachDisplay Reread.markDisplay) fun _ =>
          Keeps.bind (Reread.loadConfig w) fun _ => Keeps.bind (Reread.scanServers w) fun _ =>
            Reread.loadDatabase w
      exact .calm (hread s trivial _ _ hstep).2.tallied fun _ => rfl
    | starts w =>
      have hstarts : Respects (Tallied none) (startDisplays w) := keeps_forEachDisplay fun a =>
        (Tallied.works a).checkDisplayStatus KeepsTries.startStop
      exact .calm (hstarts s trivial _ _ hstep).2 fun _ => rfl

/-! ### Runs -/

/-- What holds along a run: the counters of a display are what the ends of its sessions have
left, and they are throttled. -/
structure Counted (h : List (Step State Moment)) (s : State) : Prop where
  sound : s.Sound [] none
  tries : ∀ d ∈ s.displays, d.status ≠ .zombie → d.tries = Tries.fresh.afterAll (exitsOf d.addr h)
  unused : ∀ a, s.nextAddr ≤ a → exitsOf a h = []
  throttled : ∀ a, Throttled .fresh (exitsOf a h)

lemma SessionExit.Follows.of_idle {r : SessionExit} (hlive : r.live = false)
    (hrestarted : r.restarted = false) (tries : Tries) : r.Follows tries where
  reserver := fun hyes => absurd (hrestarted.symm.trans hyes) Bool.false_ne_true
  failure := fun hyes => absurd (hrestarted.symm.trans hyes) Bool.false_ne_true
  kept := fun hyes => absurd (hlive.symm.trans hyes) Bool.false_ne_true

lemma exitsOf_snoc {h : List (Step State Moment)} {x : Step State Moment} :
    exitsOf a (h ++ [x]) = exitsOf a h ++ (exitAt a x).toList := by
  rw [exitsOf_append]
  cases hx : exitAt a x <;> simp [exitsOf, hx]

lemma Counted.initial (config : Config) (g : Nat) : Counted [] (State.initial config g) where
  sound := run_sound .nil
  tries := List.forall_mem_nil _
  unused := fun _ _ => rfl
  throttled := fun _ => trivial

/-- A step carries the counters on. -/
lemma Counted.step {h : List (Step State Moment)} {m : Moment} (hc : Counted h s)
    (hstep : m.perform s = some ((), s')) : Counted (h ++ [⟨s, m, s'⟩]) s' := by
  obtain ⟨hs', hlater, hkind⟩ := moment_kind hc.sound hstep
  -- a display that keeps its counters, and is no zombie, has been one that was none
  have hkept : ∀ {but : Option Nat} {x : Display}, Tallied but s s' → x ∈ s'.displays →
      but ≠ some x.addr → x.status ≠ .zombie →
      x.tries = Tries.fresh.afterAll (exitsOf x.addr h) := by
    intro but x htallied hx hne hstatus
    rcases htallied.old x hx hne with ⟨d, hd, hdx, htries⟩ | ⟨hnew, htries⟩
    · have hold : x.addr < s.nextAddr := hdx ▸ hc.sound.bound d hd
      obtain ⟨y, hy, hyx⟩ := hlater.old x hx hold
      obtain rfl := hc.sound.distinct.eq_of_mem hy hd (hyx.addr.symm.trans hdx.symm)
      rw [← htries, ← hdx]
      exact hc.tries y hy fun hzombie => hstatus (hyx.zombie hzombie)
    · rw [htries, hc.unused _ hnew]
      rfl
  cases hkind with
  | calm htallied hnone =>
    have hsame : ∀ a, exitsOf a (h ++ [⟨s, m, s'⟩]) = exitsOf a h := fun a => by
      rw [exitsOf_snoc, hnone a, Option.toList_none, List.append_nil]
    refine ⟨hs', fun x hx hstatus => ?_, fun a ha => ?_, fun a => ?_⟩
    · rw [hsame]
      exact hkept htallied hx nofun hstatus
    · rw [hsame]
      exact hc.unused a (Nat.le_trans htallied.nextAddr ha)
    · rw [hsame]
      exact hc.throttled a
  | ended d r hd hexit hothers htallied hfollows hown hzombie =>
    have hat : exitsOf d.addr (h ++ [⟨s, m, s'⟩]) = exitsOf d.addr h ++ [r] := by
      rw [exitsOf_snoc, hexit, Option.toList_some]
    have hsame : ∀ a ≠ d.addr, exitsOf a (h ++ [⟨s, m, s'⟩]) = exitsOf a h := fun a ha => by
      rw [exitsOf_snoc, hothers a ha, Option.toList_none, List.append_nil]
    refine ⟨hs', fun x hx hstatus => ?_, fun a ha => ?_, fun a => ?_⟩
    · by_cases hxd : x.addr = d.addr
      · obtain ⟨halive, htries⟩ := hown x hx hxd hstatus
        rw [hxd, hat, Tries.afterAll_append, htries, hc.tries d hd halive]
        rfl
      · rw [hsame _ hxd]
        exact hkept htallied hx (fun heq => hxd (Option.some.inj heq).symm) hstatus
    · have hbound := hc.sound.bound d hd
      have hnext : s.nextAddr ≤ a := Nat.le_trans htallied.nextAddr ha
      rw [hsame a (by omega)]
      exact hc.unused a hnext
    · by_cases had : a = d.addr
      · rw [had, hat, throttled_append]
        refine ⟨hc.throttled _, ?_, trivial⟩
        by_cases hdead : d.status = .zombie
        · exact .of_idle (hzombie hdead).1 (hzombie hdead).2 _
        · rw [← hc.tries d hd hdead]
          exact hfollows
      · rw [hsame a had]
        exact hc.throttled a

theorem run_counted {h : List (Step State Moment)} (run : MomentRun config g h s) :
    Counted h s := by
  refine run.invariant_of (C := fun _ => True) (I := Counted) (Counted.initial config g) ?_
    fun _ _ => trivial
  exact fun h s m s' _ hc hstep _ => hc.step hstep

/-! ### How often a display is restarted -/

/-- A run of crashes, after these ends of sessions: no session has ended with `OBEYSESS_DISPLAY`,
the first crash is not shortly after an earlier one, and each of the others is shortly after
the one before. -/
structure CrashRun (before es : List SessionExit) : Prop where
  noObeysess : ∀ e ∈ es, e.val ≠ obeysessDisplay
  first : ∀ r ∈ before, r.isReserver = true → ∀ e ∈ (es.filter SessionExit.isReserver).head?,
    xdmBrokenInterval ≤ e.time - r.time
  rapid : ((es.filter SessionExit.isReserver).map SessionExit.time).IsChain
    fun now now' => now' - now < xdmBrokenInterval

/-- The crashes are far apart. -/
def SlowCrashes (es : List SessionExit) : Prop :=
  ((es.filter SessionExit.isReserver).map SessionExit.time).IsChain
    fun now now' => xdmBrokenInterval ≤ now' - now

lemma CrashRun.not_recent {before es : List SessionExit} (h : CrashRun before es) :
    ∀ r ∈ (es.filter SessionExit.isReserver).head?,
      (Tries.fresh.afterAll before).recent r.time = false := by
  intro r hr
  rw [Tries.recent, Tries.afterAll_lastReserv, decide_eq_false_iff_not]
  rintro ⟨hne, hrecent⟩
  cases hlast : (before.filter SessionExit.isReserver).getLast? with
  | none =>
    rw [hlast] at hne
    exact hne rfl
  | some r' =>
    rw [hlast] at hrecent
    obtain ⟨hmem, hreserver⟩ := List.mem_filter.1 (List.mem_of_getLast? hlast)
    exact absurd hrecent (Int.not_lt.2 (h.first r' hmem hreserver r hr))

/-- For every display and every run in which its sessions end at positive times, under one
configuration: in a run of crashes it is restarted at most as often as `reservAttempts` says,
or once; while its sessions end with `OPENFAILED_DISPLAY` or a `SIGTERM`, and not otherwise, it
is restarted less often than `startAttempts` says; and where all crashes are far apart, none
of them stops it. -/
theorem restarts_throttled {h : List (Step State Moment)} (run : MomentRun config g h s)
    {R S : Int} (hclock : ∀ e ∈ exitsOf a h, 0 < e.time)
    (hconfig : ∀ e ∈ exitsOf a h, e.startAttempts = S ∧ e.reservAttempts = R) :
    (∀ before es after, exitsOf a h = before ++ es ++ after → CrashRun before es →
      (crashRestarts es : Int) ≤ max 1 R) ∧
    (∀ before es after, exitsOf a h = before ++ es ++ after → (∀ e ∈ es, e.isFailure = true) →
      (es.countP SessionExit.restarted : Int) ≤ max 0 (S - 1)) ∧
    (SlowCrashes (exitsOf a h) → ∀ e ∈ exitsOf a h, e.live = true → e.isReserver = true →
      e.restarted = true) := by
  have hthrottled := (run_counted run).throttled a
  -- a part of the list, with what is known of all of it
  have hpart : ∀ {before es after}, exitsOf a h = before ++ es ++ after →
      Throttled (Tries.fresh.afterAll before) es ∧ ∀ e ∈ es, e ∈ exitsOf a h := by
    intro before es after heq
    rw [heq, throttled_append, throttled_append] at hthrottled
    refine ⟨hthrottled.1.2, fun e he => ?_⟩
    rw [heq]
    exact List.mem_append_left _ (List.mem_append_right _ he)
  refine ⟨fun before es after heq hcrash => ?_, fun before es after heq hfail => ?_,
    fun hslow e he hlive hreserver => ?_⟩
  · obtain ⟨hes, hmem⟩ := hpart heq
    exact crashRestarts_le hes (fun e he => hclock e (hmem e he)) hcrash.noObeysess
      (fun e he => (hconfig e (hmem e he)).2) hcrash.not_recent hcrash.rapid
  · obtain ⟨hes, hmem⟩ := hpart heq
    have hcount := failureRestarts_le hes hfail fun e he => (hconfig e (hmem e he)).1
    have hstart := Tries.afterAll_startTries (t := .fresh) (Int.le_refl 0) before
    omega
  · obtain ⟨es, es', heq⟩ := List.append_of_mem he
    rw [heq, throttled_append] at hthrottled
    rw [SlowCrashes, heq] at hslow
    refine hthrottled.2.1.kept hlive hreserver fun hcrash => ?_
    have hnot := not_recent_of_slow (t := .fresh) rfl hreserver hslow
    exact absurd (hnot.symm.trans hcrash.1) Bool.false_ne_true

/-- The display is started. -/
def startMoments (forks : List (Option Pid)) : List Moment :=
  let w : World := { World.solo with forks := forks }
  [.part (.begins (.startDisplays w)), .part (.starts w)]

/-- Its session notices that the server has crashed, and then the server has ended. -/
def crashMoments (pid serverPid : Pid) (time : Time) : List Moment :=
  [.part (.child ⟨pid, .exited 3, { World.solo with time := time }⟩),
    .part (.child ⟨serverPid, .signaled 15, World.solo⟩)]

/-- The server of a display crashes three times within two minutes; the display has two
attempts, and is stopped at the third crash. -/
theorem restarts_throttled_twice : ∃ h s, MomentRun Config.plain 0 h s ∧
    (exitsOf 0 h).map SessionExit.restarted = [true, true, false] ∧
    (crashRestarts (exitsOf 0 h) : Int) ≤ max 1 2 := by
  obtain ⟨h, s, run, hrestarted, hclock, hconfig, hvals, hrapid⟩ :
      ∃ h s, MomentRun Config.plain 0 h s ∧
        (exitsOf 0 h).map SessionExit.restarted = [true, true, false] ∧
        (∀ e ∈ exitsOf 0 h, 0 < e.time) ∧
        (∀ e ∈ exitsOf 0 h, e.startAttempts = 4 ∧ e.reservAttempts = 2) ∧
        (∀ e ∈ exitsOf 0 h, e.val ≠ obeysessDisplay) ∧
        ((exitsOf 0 h).filter SessionExit.isReserver).map SessionExit.time = [100, 140, 200] :=
    exists_run_of_exec ([.part (.begins (.startUp World.solo)), .part (.firstScan World.solo)] ++
      startMoments [some 10, some 11] ++ crashMoments 11 10 100 ++
      startMoments [some 20, some 21] ++ crashMoments 21 20 140 ++
      startMoments [some 30, some 31] ++ crashMoments 31 30 200) (by decide +kernel)
  have hcrash : CrashRun [] (exitsOf 0 h) :=
    ⟨hvals, List.forall_mem_nil _, by rw [hrapid]; simp [xdmBrokenInterval]⟩
  refine ⟨h, s, run, hrestarted, ?_⟩
  exact (restarts_throttled run hclock hconfig).1 [] _ [] (by simp) hcrash

end Xdm
