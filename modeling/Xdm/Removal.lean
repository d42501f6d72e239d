/-
# Displays that have been removed

`WaitForChild` goes on with a pointer to a display after `StopDisplay`, which removes the
display when it has no server.  Reading a display that is not in the list has no outcome,
and storing into one leaves a trace among the events; so a part of the daemon that returns
and leaves no such trace has not used a removed display.
-/
import Xdm.OneDisplay
import Xdm.Runs

namespace Xdm

open Prog

variable {config : Config} {g : Nat} {h : List (Step State Input)} {s s' s'' t u : State}
variable {w : World} {a : Nat} {d : Display} {dead : List Pid}

/-! ### What has been stored -/

/-- Nothing has been stored into a removed display in between. -/
def Clean (s s' : State) : Prop :=
  ∃ es, s'.out = s.out ++ es ∧ ∀ a, Event.writeFreed a ∉ es

namespace Clean

lemma refl (s : State) : Clean s s := ⟨[], by simp⟩

lemma trans (h : Clean s s') (h' : Clean s' s'') : Clean s s'' := by
  obtain ⟨es, hes, hno⟩ := h
  obtain ⟨es', hes', hno'⟩ := h'
  refine ⟨es ++ es', by rw [hes', hes, List.append_assoc], fun a hmem => ?_⟩
  exact (List.mem_append.1 hmem).elim (hno a) (hno' a)

/-- A part of what is clean is clean. -/
lemma split (hq : Quiet s s') (hq' : Quiet s' s'') (h : Clean s s'') :
    Clean s s' ∧ Clean s' s'' := by
  obtain ⟨es₁, hes₁, -⟩ := hq.out
  obtain ⟨es₂, hes₂, -⟩ := hq'.out
  obtain ⟨es, hes, hno⟩ := h
  obtain rfl : es₁ ++ es₂ = es := by
    rw [hes₂, hes₁, List.append_assoc] at hes
    exact List.append_cancel_left hes
  exact ⟨⟨es₁, hes₁, fun a hmem => hno a (List.mem_append_left _ hmem)⟩,
    ⟨es₂, hes₂, fun a hmem => hno a (List.mem_append_right _ hmem)⟩⟩

lemma of_eq (h : s'.out = s.out) : Clean s s' := ⟨[], by simp [h]⟩

instance : Std.Refl Clean := ⟨refl⟩
instance : IsTrans State Clean := ⟨fun _ _ _ => trans⟩

end Clean

/-- A display of the list has this address. -/
def State.Listed (s : State) (a : Nat) : Prop := ∃ d ∈ s.displays, d.addr = a

/-- There is a display at `a`, and this much is known of it. -/
abbrev ListedWhere (a : Nat) (P : Display → Prop) (s : State) : Prop :=
  s.Listed a ∧ s.Where a P

/-! ### Work on a listed display -/

lemma wp_readDisplay {Q : Display → State → Prop} (ha : s.Listed a)
    (h : ∀ d ∈ s.displays, d.addr = a → Q d s) : Wp (readDisplay a) Q s := by
  obtain ⟨d, hd, hda⟩ := ha
  unfold readDisplay
  refine wp_bind (wp_get ?_)
  split
  · next x hx => exact wp_pure (h x (Keyed.mem_of_find hx) (Keyed.key_of_find hx))
  · next hnone => exact absurd hda (Keyed.find_eq_none.1 hnone d hd)

lemma wp_writeDisplay {f : Display → Display} {Q : Unit → State → Prop} (ha : s.Listed a)
    (h : Q () (s.write a f)) : Wp (writeDisplay a f) Q s := by
  obtain ⟨d, hd, hda⟩ := ha
  unfold writeDisplay
  refine wp_bind (wp_get ?_)
  split
  · exact wp_set h
  · next hnone => exact absurd hda (Keyed.find_eq_none.1 hnone d hd)

lemma wlp_writeListed {f : Display → Display} (ha : s.Listed a) :
    Wlp (writeDisplay a f) (fun _ s' => Clean s s') s :=
  (wp_writeDisplay ha (Clean.of_eq rfl)).wlp

lemma State.Listed.write {f : Display → Display} (ha : s.Listed a)
    (hf : ∀ d, (f d).addr = d.addr) : (s.write a f).Listed a := by
  obtain ⟨d, hd, hda⟩ := ha
  exact ⟨f d, State.mem_write.2 (Or.inl ⟨d, hd, hda, rfl⟩), (hf d).trans hda⟩

lemma delivers_writeDisplay {P : Display → Prop} {f : Display → Display}
    (hf : ∀ d, (f d).addr = d.addr) (hP : ∀ d, P d → P (f d)) :
    Delivers (ListedWhere a P) Clean (writeDisplay a f) := by
  rintro s ⟨ha, hw⟩
  refine wp_writeDisplay ha ⟨⟨ha.write hf, fun d hd hda => ?_⟩, Clean.of_eq rfl⟩
  rcases State.mem_write.1 hd with ⟨x, hx, hxa, rfl⟩ | ⟨-, hne⟩
  · exact hP x (hw x hx hxa)
  · exact absurd hda hne

lemma Clean.emit (s : State) {e : Event} (he : ∀ a, e ≠ .writeFreed a) :
    Clean s { s with out := s.out ++ [e] } :=
  ⟨[e], rfl, fun a hmem => he a (List.mem_singleton.1 hmem).symm⟩

lemma delivers_emit {P : Display → Prop} {e : Event} (he : ∀ a, e ≠ .writeFreed a) :
    Delivers (ListedWhere a P) Clean (emit e) :=
  Delivers.modify fun s hs => ⟨hs, Clean.emit s he⟩

lemma delivers_terminateProcess {P : Display → Prop} (pid : Pid) (signal : Int) :
    Delivers (ListedWhere a P) Clean (terminateProcess pid signal) :=
  Delivers.bind (delivers_emit (by simp)) fun _ => delivers_emit (by simp)

lemma delivers_sendFailed {P : Display → Prop} (reason : Str) :
    Delivers (ListedWhere a P) Clean (sendFailed a reason) := by
  intro s hs
  refine wp_bind (wp_readDisplay hs.1 fun _ _ _ => ?_)
  exact delivers_emit (by simp) s hs

lemma wp_removeDisplay (ha : s.Listed a) :
    Wp (removeDisplay a) (fun _ s' => s' = s.remove a) s := by
  obtain ⟨d, hd, hda⟩ := ha
  unfold removeDisplay
  refine wp_bind (wp_get ?_)
  split
  · exact wp_set rfl
  · next hnone => exact absurd hda (Keyed.find_eq_none.1 hnone d hd)

/-- `StopDisplay` of a listed display: it is still listed if and only if it has a server. -/
lemma wp_stopDisplay (hs : s.Listed a) :
    Wp (stopDisplay a) (fun _ s' => Clean s s' ∧
      ∃ d ∈ s.displays, d.addr = a ∧ (s'.Listed a ↔ d.serverPid ≠ -1)) s := by
  have hs' : ListedWhere a (fun _ => True) s := ⟨hs, fun _ _ _ => trivial⟩
  have hremove : ∀ t, t.Listed a →
      Wp (removeDisplay a) (fun _ s' => Clean t s' ∧ ¬ s'.Listed a) t := by
    intro t ht
    refine (wp_removeDisplay ht).mono fun _ s' h => ?_
    subst h
    exact ⟨Clean.of_eq rfl, fun ⟨d, hd, hda⟩ => (State.mem_remove.1 hd).2 hda⟩
  unfold stopDisplay
  refine wp_bind (wp_readDisplay hs fun d hd hda => ?_)
  by_cases hserver : d.serverPid = -1
  · simp only [hserver, ne_eq, not_true_eq_false, if_false]
    have hgone : ∀ {s' : State}, ¬ s'.Listed a →
        ∃ d ∈ s.displays, d.addr = a ∧ (s'.Listed a ↔ ¬ d.serverPid = -1) :=
      fun hl => ⟨d, hd, hda, iff_of_false hl (not_not.2 hserver)⟩
    refine wp_ite (fun _ => ?_) fun _ =>
      (hremove s hs).mono fun _ s' h' => ⟨h'.1, hgone h'.2⟩
    refine (delivers_terminateProcess _ _).seq hs' (Clean.refl s) fun _ t ht h => ?_
    exact (hremove t ht.1).mono fun _ s' h' => ⟨h.trans h'.1, hgone h'.2⟩
  · simp only [hserver, ne_eq, not_false_eq_true, if_true]
    have hzombie : Delivers (ListedWhere a fun _ => True) Clean
        (writeDisplay a fun display => { display with status := .zombie }) :=
      delivers_writeDisplay (fun _ => rfl) fun _ => id
    have hlast : ∀ t, ListedWhere a (fun _ => True) t → Clean s t →
        Wp (terminateProcess d.serverPid d.resources.termSignal) (fun _ s' => Clean s s' ∧
          ∃ d ∈ s.displays, d.addr = a ∧ (s'.Listed a ↔ ¬ d.serverPid = -1)) t := fun t ht h =>
      (delivers_terminateProcess _ _ t ht).mono fun _ s' h' =>
        ⟨h.trans h'.2, d, hd, hda, iff_of_true h'.1.1 hserver⟩
    refine hzombie.seq hs' (Clean.refl s) fun _ t ht h => ?_
    refine wp_ite (fun _ => ?_) fun _ => hlast t ht h
    exact (delivers_terminateProcess _ _).seq ht h fun _ u hu h => hlast u hu h

lemma wp_restartDisplay (forceReserver : Bool) (hs : s.Listed a) :
    Wp (restartDisplay a forceReserver) (fun _ s' => Clean s s' ∧ s'.Listed a) s := by
  have hstatus : ∀ status, Delivers (ListedWhere a fun _ => True) Clean
      (writeDisplay a fun display => { display with status := status }) := fun status =>
    delivers_writeDisplay (fun _ => rfl) fun _ => id
  have hlast : ∀ status t, ListedWhere a (fun _ => True) t → Clean s t →
      Wp (writeDisplay a fun display => { display with status := status })
        (fun _ s' => Clean s s' ∧ s'.Listed a) t := fun status t ht h =>
    (hstatus status t ht).mono fun _ s' h' => ⟨h.trans h'.2, h'.1.1⟩
  have hs' : ListedWhere a (fun _ => True) s := ⟨hs, fun _ _ _ => trivial⟩
  unfold restartDisplay
  refine wp_bind (wp_readDisplay hs fun d _ _ => wp_ite (fun _ => ?_) fun _ => ?_)
  · exact (delivers_terminateProcess _ _).seq hs' (Clean.refl s) fun _ t ht h => hlast _ t ht h
  · exact hlast _ s hs' (Clean.refl s)

/-! ### The end of a session -/

/-- What the case `RESERVER_DISPLAY` looks at. -/
structure Display.Alike (d x : Display) : Prop where
  displayType : x.displayType = d.displayType
  status : x.status = d.status
  serverPid : x.serverPid = d.serverPid
  lastReserv : x.lastReserv = d.lastReserv
  reservTries : x.reservTries = d.reservTries
  resources : x.resources = d.resources

lemma Display.Alike.trans {d x y : Display} (h : d.Alike x) (h' : x.Alike y) : d.Alike y :=
  ⟨h'.displayType.trans h.displayType, h'.status.trans h.status, h'.serverPid.trans h.serverPid,
    h'.lastReserv.trans h.lastReserv, h'.reservTries.trans h.reservTries,
    h'.resources.trans h.resources⟩

/-- The server of the display has crashed too often. -/
def Display.crashes (d : Display) (now : Time) : Bool :=
  d.lastReserv ≠ 0 ∧ now - d.lastReserv < xdmBrokenInterval ∧
    d.resources.reservAttempts ≤ d.reservTries + 1

/-- Something has been stored into a removed display in between. -/
def Dirty (s s' : State) : Prop :=
  ∃ es, s'.out = s.out ++ es ∧ ∃ a, Event.writeFreed a ∈ es

lemma Clean.dirty (h : Clean s s') (h' : Dirty s' s'') : Dirty s s'' := by
  obtain ⟨es, hes, -⟩ := h
  obtain ⟨es', hes', a, ha⟩ := h'
  exact ⟨es ++ es', by rw [hes', hes, List.append_assoc], a, List.mem_append_right _ ha⟩

lemma Dirty.not_clean (h : Dirty s s') : ¬ Clean s s' := by
  rintro ⟨es, hes, hno⟩
  obtain ⟨es', hes', a, ha⟩ := h
  obtain rfl : es = es' := List.append_cancel_left (hes.symm.trans hes')
  exact hno a ha

/-- The step is clean, unless `stored` says that it is not. -/
def CleanUnless (stored : Bool) (s s' : State) : Prop :=
  if stored = true then Dirty s s' else Clean s s'

lemma Clean.unless {stored : Bool} (h : Clean s s') (h' : CleanUnless stored s' s'') :
    CleanUnless stored s s'' := by
  unfold CleanUnless at h' ⊢
  split_ifs at h' ⊢
  · exact h.dirty h'
  · exact h.trans h'

lemma wp_writeUnlisted {f : Display → Display} (ha : ¬ s.Listed a) :
    Wp (writeDisplay a f) (fun _ s' => Dirty s s') s := by
  unfold writeDisplay
  refine wp_bind (wp_get ?_)
  split
  · next x hx => exact absurd ⟨x, Keyed.mem_of_find hx, Keyed.key_of_find hx⟩ ha
  · exact wp_modify ⟨[.writeFreed a], rfl, a, by simp⟩

lemma wp_noteReserv {t : State} (now : Time) (ht : t.Listed a) (h : Clean s t) :
    Wp (writeDisplay a fun display => { display with lastReserv := now })
      (fun _ s' => Clean s s') t :=
  wp_writeDisplay ht (h.trans (Clean.of_eq rfl))

/-- The end of `RESERVER_DISPLAY` if the crashes are too frequent, and if they are not. -/
lemma wp_stopOrRestart {now : Time} {stop : Prop} [Decidable stop] {t : State}
    (ht : ListedWhere a (fun x => x.serverPid = d.serverPid) t) (h : Clean s t)
    (hstop : stop ↔ d.crashes now = true) :
    Wp (if stop then do
        stopDisplay a
        writeDisplay a fun display => { display with lastReserv := now }
      else do
        restartDisplay a true
        writeDisplay a fun display => { display with lastReserv := now })
      (fun _ s' => CleanUnless (decide (d.serverPid = -1) && d.crashes now) s s') t := by
  refine wp_ite (fun hc => wp_bind ?_) fun hc => wp_bind ?_
  · rw [hstop.1 hc, Bool.and_true]
    refine (wp_stopDisplay ht.1).mono fun _ v ⟨hv, x, hx, hxa, hlisted⟩ => ?_
    rw [ht.2 x hx hxa] at hlisted
    by_cases hserver : d.serverPid = -1
    · rw [decide_eq_true hserver]
      have hgone : ¬ v.Listed a := fun hl => hlisted.1 hl hserver
      exact (wp_writeUnlisted hgone).mono fun _ s' h' => (h.trans hv).dirty h'
    · rw [decide_eq_false hserver]
      exact wp_noteReserv now (hlisted.2 hserver) (h.trans hv)
  · have hfalse : (decide (d.serverPid = -1) && d.crashes now) = false := by
      rw [Bool.eq_false_iff.2 fun hcrash => hc (hstop.2 hcrash), Bool.and_false]
    rw [hfalse]
    exact (wp_restartDisplay true ht.1).mono fun _ v hv => wp_noteReserv now hv.2 (h.trans hv.1)

/-- The store at the end of `RESERVER_DISPLAY` follows a dangling pointer if and only if the
display has been stopped and had no server. -/
lemma wp_reserver (now : Time) (hs : ListedWhere a d.Alike s) :
    Wp (reserver a now)
      (fun _ s' => CleanUnless (decide (d.serverPid = -1) && d.crashes now) s s') s := by
  unfold reserver
  refine wp_bind (wp_readDisplay hs.1 fun x hx hxa => ?_)
  have hx := hs.2 x hx hxa
  have hserver : ListedWhere a (fun x => x.serverPid = d.serverPid) s :=
    ⟨hs.1, fun y hy hya => (hs.2 y hy hya).serverPid⟩
  have hcrashes : d.crashes now = true ↔ (x.lastReserv ≠ 0 ∧
      now - x.lastReserv < xdmBrokenInterval) ∧ x.resources.reservAttempts ≤ x.reservTries + 1 := by
    simp only [Display.crashes, hx.lastReserv, hx.resources, hx.reservTries, decide_eq_true_eq,
      and_assoc]
  have htries : ∀ tries : Display → Int,
      Delivers (ListedWhere a fun y => y.serverPid = d.serverPid) Clean
        (writeDisplay a fun display => { display with reservTries := tries display }) :=
    fun _ => delivers_writeDisplay (fun _ => rfl) fun _ => id
  refine wp_ite (fun hc => ?_) fun hc => ?_
  · refine (htries _).seq hserver (Clean.refl s) fun _ t ht h => wp_stopOrRestart ht h ?_
    rw [hcrashes, decide_eq_true_eq]
  · refine (htries _).seq hserver (Clean.refl s) fun _ t ht h => wp_stopOrRestart ht h ?_
    rw [hcrashes, decide_eq_true_eq]

/-- Dealing with this end of its session, the source stores into the display after it has
removed it. -/
def Display.storedAfterRemoval (d : Display) (now : Time) (val : Int) : Bool :=
  val = reserverDisplay ∧ d.displayType.origin ≠ .fromXDMCP ∧ d.status ≠ .zombie ∧
    d.serverPid = -1 ∧ d.crashes now

/-- A store that leaves alone what the dealing with a crash looks at. -/
lemma delivers_writeAlike {f : Display → Display} (haddr : ∀ x, (f x).addr = x.addr)
    (halike : ∀ x : Display, x.Alike (f x)) :
    Delivers (ListedWhere a d.Alike) Clean (writeDisplay a f) :=
  delivers_writeDisplay haddr fun x h => h.trans (halike x)

lemma delivers_lastStart : Delivers (ListedWhere a d.Alike) Clean (lastStart a) := by
  intro s hs
  unfold lastStart
  refine wp_bind (wp_readDisplay hs.1 fun x _ _ => ?_)
  refine wp_ite (fun _ => wp_pure ⟨hs, Clean.refl s⟩) fun _ => ?_
  have htries : Delivers (ListedWhere a d.Alike) Clean
      (writeDisplay a fun display => { display with startTries := display.startTries + 1 }) :=
    delivers_writeAlike (fun _ => rfl) fun _ => ⟨rfl, rfl, rfl, rfl, rfl, rfl⟩
  exact htries.seq hs (Clean.refl s) fun _ t ht h => wp_pure ⟨ht, h⟩

lemma delivers_clearStartTries : Delivers (ListedWhere a d.Alike) Clean (clearStartTries a) :=
  delivers_writeAlike (fun _ => rfl) fun _ => ⟨rfl, rfl, rfl, rfl, rfl, rfl⟩

lemma delivers_clearPid : Delivers (ListedWhere a d.Alike) Clean
    (writeDisplay a fun display => { display with pid := -1 }) :=
  delivers_writeAlike (fun _ => rfl) fun _ => ⟨rfl, rfl, rfl, rfl, rfl, rfl⟩

/-- The exit statuses other than `RESERVER_DISPLAY` do not look at the crashes, and store
nothing into the display after it has been stopped. -/
lemma wp_sessionEnded_clean {val : Int} (hs : ListedWhere a d.Alike s)
    (hval : val ≠ reserverDisplay) : Wp (sessionEnded w a val) (fun _ s' => Clean s s') s := by
  have hstop : ∀ t, t.Listed a → Clean s t → Wp (stopDisplay a) (fun _ s' => Clean s s') t :=
    fun t ht h => (wp_stopDisplay ht).mono fun _ s' h' => h.trans h'.1
  have hrestart : ∀ force t, t.Listed a → Clean s t →
      Wp (restartDisplay a force) (fun _ s' => Clean s s') t :=
    fun force t ht h => (wp_restartDisplay force ht).mono fun _ s' h' => h.trans h'.1
  have hlast : ∀ t, ListedWhere a d.Alike t → Clean s t → Wp (do
      if ← lastStart a then stopDisplay a else restartDisplay a true)
      (fun _ s' => Clean s s') t := by
    intro t ht h
    refine delivers_lastStart.seq ht h fun last u hu h => ?_
    exact wp_ite (fun _ => hstop u hu.1 h) fun _ => hrestart true u hu.1 h
  unfold sessionEnded
  refine delivers_clearPid.seq hs (Clean.refl s) fun _ t ht h => ?_
  refine wp_bind (wp_readDisplay ht.1 fun x _ _ => ?_)
  refine wp_ite (fun _ => hstop t ht.1 h) fun _ => wp_ite (fun _ => ?obeysess) fun _ =>
    wp_ite (fun _ => ?openfailed) fun _ => wp_ite (fun hres => absurd hres hval) fun _ =>
      wp_ite (fun _ => hlast t ht h) fun _ => wp_ite (fun _ => ?remanage) fun _ => hstop t ht.1 h
  case obeysess =>
    have htries : Delivers (ListedWhere a fun _ => True) Clean
        (writeDisplay a fun display => { display with reservTries := 0 }) :=
      delivers_writeDisplay (fun _ => rfl) fun _ => id
    refine delivers_clearStartTries.seq ht h fun _ u hu h => ?_
    refine htries.seq ⟨hu.1, fun _ _ _ => trivial⟩ h fun _ v hv h => ?_
    exact wp_ite (fun _ => hstop v hv.1 h) fun _ => hrestart false v hv.1 h
  case openfailed =>
    refine wp_ite (fun _ => ?_) fun _ => hlast t ht h
    exact (delivers_sendFailed _).seq ht h fun _ u hu h => hlast u hu h
  case remanage =>
    refine delivers_clearStartTries.seq ht h fun _ u hu h => ?_
    exact wp_ite (fun _ => hstop u hu.1 h) fun _ => hrestart false u hu.1 h

/-- `RESERVER_DISPLAY` stops a display from XDMCP and one that is a zombie; for the others
the crashes decide. -/
lemma wp_sessionEnded_reserver (hs : ListedWhere a d.Alike s) :
    Wp (sessionEnded w a reserverDisplay)
      (fun _ s' => CleanUnless (d.storedAfterRemoval w.time reserverDisplay) s s') s := by
  have hstatus : reserverDisplay ≠ unmanageDisplay ∧ reserverDisplay ≠ obeysessDisplay ∧
      reserverDisplay ≠ openfailedDisplay := by decide
  unfold sessionEnded
  refine delivers_clearPid.seq hs (Clean.refl s) fun _ t ht h => ?_
  refine wp_bind (wp_readDisplay ht.1 fun x hx hxa => ?_)
  have hx := ht.2 x hx hxa
  rw [if_neg hstatus.1, if_neg hstatus.2.1, if_neg hstatus.2.2, if_pos rfl]
  refine delivers_clearStartTries.seq ht h fun _ u hu h => ?_
  rw [hx.displayType, hx.status]
  refine wp_ite (fun hc => ?_) fun hc => ?_
  · have hstored : d.storedAfterRemoval w.time reserverDisplay = false := by
      simp only [Display.storedAfterRemoval, decide_eq_false_iff_not]
      tauto
    rw [hstored]
    exact (wp_stopDisplay hu.1).mono fun _ s' h' => h.trans h'.1
  · have hstored : d.storedAfterRemoval w.time reserverDisplay =
        (decide (d.serverPid = -1) && d.crashes w.time) := by
      rw [not_or] at hc
      simp [Display.storedAfterRemoval, hc.1, hc.2]
    rw [hstored]
    exact (wp_reserver w.time hu).mono fun _ s' h' => h.unless h'

/-- Whatever the exit status, the source has an outcome, and it is clean unless the display
is one of those that crash too often and have no server. -/
lemma wp_sessionEnded (val : Int) (hs : ListedWhere a (fun x => x = d) s) :
    Wp (sessionEnded w a val)
      (fun _ s' => CleanUnless (d.storedAfterRemoval w.time val) s s') s := by
  have halike : ListedWhere a d.Alike s :=
    ⟨hs.1, fun x hx hxa => by rw [hs.2 x hx hxa]; exact ⟨rfl, rfl, rfl, rfl, rfl, rfl⟩⟩
  by_cases hval : val = reserverDisplay
  · rw [hval]
    exact wp_sessionEnded_reserver halike
  · have hstored : d.storedAfterRemoval w.time val = false := by
      simp [Display.storedAfterRemoval, hval]
    rw [hstored]
    exact wp_sessionEnded_clean halike hval

lemma wp_serverEnded (hs : s.Listed a) :
    Wp (serverEnded a) (fun _ s' => Clean s s') s := by
  have hpid : Delivers (ListedWhere a fun _ => True) Clean
      (writeDisplay a fun display => { display with serverPid := -1 }) :=
    delivers_writeDisplay (fun _ => rfl) fun _ => id
  unfold serverEnded
  refine hpid.seq ⟨hs, fun _ _ _ => trivial⟩ (Clean.refl s) fun _ t ht h => ?_
  refine wp_bind (wp_readDisplay ht.1 fun d _ _ => ?_)
  split
  · exact (wp_removeDisplay ht.1).mono fun _ s' h' => h.trans (Clean.of_eq (by rw [h']; rfl))
  · exact wp_writeDisplay ht.1 (h.trans (Clean.of_eq rfl))
  · refine wp_ite (fun _ => ?_) fun _ => wp_pure h
    exact (delivers_terminateProcess _ _ t ht).mono fun _ s' h' => h.trans h'.2
  · exact wp_pure h

/-! ### One turn of the loop -/

/-- The turn of the loop of `WaitForChild` that starts here stores into a display after it
has removed it: the session that has ended is that of a local display without a server, it
has ended with `RESERVER_DISPLAY`, and the server has crashed too often. -/
def storesAfterRemoval (e : Exit) (s : State) : Bool :=
  (findDisplayByPid e.pid s.displays).any fun d =>
    d.storedAfterRemoval e.world.time e.status.val

lemma wp_displayEnded (e : Exit) (hs : s.Sound dead none) :
    Wp (displayEnded e) (fun _ s' => CleanUnless (storesAfterRemoval e s) s s') s := by
  unfold displayEnded storesAfterRemoval
  refine wp_bind (wp_get ?_)
  split
  · next d hd =>
    have hmem := (findDisplayByPid_some hd).1
    rw [hd, Option.any_some]
    exact wp_sessionEnded _ ⟨⟨d, hmem, rfl⟩, hs.where_of_mem hmem rfl rfl⟩
  · next hnone =>
    rw [hnone, Option.any_none]
    split
    · next d hd => exact wp_serverEnded ⟨d, (findDisplayByServerPid_some hd).1, rfl⟩
    · exact wp_pure (Clean.refl s)

/-- What comes of a state if nothing is stored into a removed display. -/
abbrev KeepsClean (dead : List Pid) {α : Type} (m : M α) : Prop :=
  Keeps (State.Sound dead none) Clean m

lemma keepsClean_of {α : Type} {m : M α} (hk : Keeps (State.Sound dead none) Quiet m)
    (hc : ∀ s, s.Sound dead none → Wlp m (fun _ s' => Clean s s') s) : KeepsClean dead m :=
  fun s hs => ((hk s hs).and (hc s hs)).mono fun _ _ h => ⟨h.1.1, h.2⟩

/-! ### Walking the list -/

/-- In the walk with `f` each display is still in the list when its turn comes. -/
def WalksListed (f : Nat → M Unit) (s : State) : Prop :=
  ∀ l₁ a l₂ t, s.displays.map Display.addr = l₁ ++ a :: l₂ →
    l₁.forM f s = some ((), t) → t.Listed a

lemma listed_of_forM {f : Nat → M Unit} (hw : ∀ a, Respects (Only a) (f a)) {l : List Nat}
    (hs : s.Listed a) (hl : a ∉ l) : Wlp (l.forM f) (fun _ t => t.Listed a) s := by
  refine wlp_forM (fun b hb t ⟨d, hd, hda⟩ => ?_) hs
  exact (hw b t trivial).mono fun _ t' h =>
    ⟨d, (h.2 d fun hdb => hl (hda.symm.trans hdb ▸ hb)).2 hd, hda⟩

lemma walksListed {f : Nat → M Unit} (hw : ∀ a, Respects (Only a) (f a))
    (hs : Keyed.Distinct Display.addr s.displays) : WalksListed f s := by
  intro l₁ a l₂ t hl ht
  have hmem : a ∈ s.displays.map Display.addr := by simp [hl]
  obtain ⟨d, hd, hda⟩ := List.mem_map.1 hmem
  have hnot : a ∉ l₁ := by
    unfold Keyed.Distinct at hs
    rw [hl] at hs
    exact fun ha => (List.nodup_append.1 hs).2.2 a ha a (by simp) rfl
  exact listed_of_forM hw ⟨d, hd, hda⟩ hnot _ _ ht

/-- A walk in which each visit of a listed display is clean. -/
lemma wlp_walk_clean {f : Nat → M Unit} (hw : ∀ a, Respects (Only a) (f a))
    (hf : ∀ a s, s.Listed a → Wlp (f a) (fun _ s' => Clean s s') s) :
    ∀ {l : List Nat} {s : State}, l.Nodup → (∀ a ∈ l, s.Listed a) →
      Wlp (l.forM f) (fun _ s' => Clean s s') s := by
  intro l
  induction l with
  | nil => exact fun _ _ => (wlp_pure _ _ _).2 (Clean.refl _)
  | cons a l ih =>
    intro s hnodup hl
    obtain ⟨ha, hnodup⟩ := List.nodup_cons.1 hnodup
    change Wlp (f a >>= fun _ => l.forM f) _ s
    rw [wlp_bind]
    refine ((hf a s (hl a (by simp))).and (hw a s trivial)).mono fun _ t h => ?_
    refine (ih hnodup fun b hb => ?_).mono fun _ s' h' => h.1.trans h'
    obtain ⟨d, hd, hdb⟩ := hl b (List.mem_cons_of_mem _ hb)
    exact ⟨d, (h.2.2 d fun hda => ha (hda.symm.trans hdb ▸ hb)).2 hd, hdb⟩

lemma wlp_forEachDisplay_clean {f : Nat → M Unit} (hs : s.Sound dead none)
    (hw : ∀ a, Respects (Only a) (f a))
    (hf : ∀ a s, s.Listed a → Wlp (f a) (fun _ s' => Clean s s') s) :
    Wlp (forEachDisplay f) (fun _ s' => Clean s s') s := by
  unfold forEachDisplay
  rw [wlp_bind, wlp_get]
  refine wlp_walk_clean hw hf hs.distinct fun a ha => ?_
  obtain ⟨d, hd, hda⟩ := List.mem_map.1 ha
  exact ⟨d, hd, hda⟩

/-! ### Starting the displays -/

/-- The display at `a` stays in the list, and nothing is stored into a removed one. -/
abbrev KeepsListed {α : Type} (a : Nat) (m : M α) : Prop :=
  Keeps (fun s => s.Listed a) Clean m

lemma keepsListed_writeDisplay {f : Display → Display} (hf : ∀ d, (f d).addr = d.addr) :
    KeepsListed a (writeDisplay a f) :=
  fun _ hs => (wp_writeDisplay hs ⟨hs.write hf, Clean.of_eq rfl⟩).wlp

lemma keepsListed_readDisplay : KeepsListed a (readDisplay a) :=
  fun s hs => wlp_readDisplay fun _ _ _ => ⟨hs, Clean.refl s⟩

lemma keepsListed_fork : KeepsListed a fork := fun _ hs =>
  wlp_fork (fun _ _ => ⟨hs, Clean.of_eq rfl⟩) fun _ _ _ _ _ => ⟨hs, Clean.of_eq rfl⟩

lemma keepsListed_startServerOnce : KeepsListed a (startServerOnce a) := by
  refine Keeps.bind keepsListed_fork fun pid => ?_
  cases pid with
  | none => exact Keeps.pure _
  | some pid =>
    have hpause : KeepsListed a (serverPause pid) := fun _ hs =>
      wlp_serverPause (fun _ _ => ⟨hs, Clean.of_eq rfl⟩) fun _ _ => ⟨hs, Clean.of_eq rfl⟩
    refine Keeps.bind (keepsListed_writeDisplay fun _ => rfl) fun _ => Keeps.bind hpause fun _ => ?_
    exact Keeps.ite (fun _ => Keeps.pure _) fun _ => Keeps.pure _

lemma keepsListed_startServerLoop (n : Nat) : ∀ i, KeepsListed a (startServerLoop a n i) := by
  induction n with
  | zero => exact fun _ => Keeps.failure
  | succ n ih =>
    intro i
    refine Keeps.bind keepsListed_readDisplay fun _ => Keeps.ite (fun _ => ?_) fun _ => Keeps.pure _
    refine Keeps.bind keepsListed_startServerOnce fun _ => ?_
    exact Keeps.ite (fun _ => Keeps.pure _) fun _ => ih (i + 1)

lemma keepsListed_startServer : KeepsListed a (startServer a) :=
  Keeps.bind Keeps.get fun _ => keepsListed_startServerLoop _ 0

lemma keepsListed_startSession : KeepsListed a (startDisplay.startSession a) := by
  refine Keeps.bind keepsListed_fork fun pid => ?_
  cases pid with
  | none => exact Keeps.pure _
  | some pid => exact keepsListed_writeDisplay fun _ => rfl

/-- `StartDisplay` removes the display, if at all, when it is done with it. -/
lemma wlp_startDisplay_clean (hs : s.Listed a) :
    Wlp (startDisplay w a) (fun _ s' => Clean s s') s := by
  have hsession : ∀ t, t.Listed a → Clean s t →
      Wlp (startDisplay.startSession a) (fun _ s' => Clean s s') t := fun t ht h =>
    (keepsListed_startSession.last ht h).mono fun _ _ h' => h'.2
  have hserver : ∀ (d : Display) t, t.Listed a → Clean s t →
      Wlp (if d.serverPid = -1 then do
          if ← startServer a then startDisplay.startSession a else removeDisplay a
        else startDisplay.startSession a) (fun _ s' => Clean s s') t := by
    intro d t ht h
    refine wlp_ite (fun _ => ?_) fun _ => hsession t ht h
    refine keepsListed_startServer.seq ht h fun started u hu h => ?_
    refine wlp_ite (fun _ => hsession u hu h) fun _ => ?_
    exact (wp_removeDisplay hu).wlp.mono fun _ s' h' => h.trans (Clean.of_eq (by rw [h']; rfl))
  have hload : KeepsListed a (writeDisplay a fun display => { display with
      resources := w.serverResources display.name display.className }) :=
    keepsListed_writeDisplay fun _ => rfl
  refine hload.seq hs (Clean.refl s) fun _ t ht h => ?_
  refine keepsListed_readDisplay.seq ht h fun d u hu h => ?_
  refine wlp_ite (fun _ => wlp_ite (fun _ => ?_) fun _ => hserver d u hu h) fun _ =>
    hsession u hu h
  simp only [emit, wlp_bind, wlp_modify]
  exact hserver d _ hu (h.trans (Clean.emit u (by simp)))

lemma wlp_checkDisplayStatus_clean (hs : s.Listed a) :
    Wlp (checkDisplayStatus w a) (fun _ s' => Clean s s') s := by
  have hstart : ∀ (d : Display) t, d.addr = a → t.Listed a → Clean s t →
      Wlp (checkDisplayStatus.startIfPermanent w d) (fun _ s' => Clean s s') t := by
    rintro d t rfl ht h
    refine wlp_ite (fun _ => ?_) fun _ => (wlp_pure _ _ _).2 h
    exact (wlp_startDisplay_clean ht).mono fun _ s' h' => h.trans h'
  unfold checkDisplayStatus
  rw [wlp_bind]
  refine wlp_readDisplay fun d hd hda => wlp_ite (fun _ => ?_) fun _ =>
    (wlp_pure _ _ _).2 (Clean.refl s)
  split
  · exact (wp_stopDisplay hs).wlp.mono fun _ s' h' => h'.1
  · have hold : KeepsListed a (writeDisplay a fun display => { display with state := .oldEntry }) :=
      keepsListed_writeDisplay fun _ => rfl
    exact hold.seq hs (Clean.refl s) fun _ t ht h => hstart d t hda ht h
  · exact hstart d s hda hs (Clean.refl s)

lemma keepsClean_startDisplays (w : World) : KeepsClean [] (startDisplays w) :=
  keepsClean_of (keeps_startDisplays w) fun _ hs =>
    wlp_forEachDisplay_clean hs (fun a => (Only.works a).checkDisplayStatus)
      fun _ _ ha => wlp_checkDisplayStatus_clean ha

/-! ### Reading the servers file again -/

lemma keepsClean_markDisplays : KeepsClean dead (forEachDisplay markDisplay) :=
  keepsClean_of (keeps_forEachDisplay keeps_markDisplay) fun _ hs =>
    wlp_forEachDisplay_clean hs (fun a => (Only.works a).writeDisplay fun _ => rfl)
      fun _ _ ha => wlp_writeListed ha

lemma keepsClean_parseDisplay (source : Str) : KeepsClean dead (parseDisplay source) := by
  refine keepsClean_of (keeps_parseDisplay source) fun s _ => ?_
  unfold parseDisplay
  split
  · next name type rest _ =>
    simp only [wlp_bind, wlp_get]
    split
    · next d hd =>
      refine wlp_ite (fun _ => by simp) fun _ => ?_
      have hmem : d ∈ s.displays := List.mem_of_find?_eq_some hd
      exact wlp_writeListed ⟨d, hmem, rfl⟩
    · unfold newDisplay
      simp only [wlp_bind, wlp_get, wlp_set, wlp_pure]
      refine wlp_writeDisplay (Clean.of_eq rfl) fun hnone => ?_
      exact absurd rfl (hnone _ (List.mem_cons_self ..))
  · exact (wlp_pure _ _ _).2 (Clean.refl s)

lemma keepsClean_rescanIfMod (w : World) : KeepsClean dead (rescanIfMod w) :=
  keeps_rescanIfMod_of
    (keepsClean_of (keeps_loadConfig w) fun _ _ => (wlp_modify _ _ _).2 (Clean.of_eq rfl))
    keepsClean_markDisplays (keeps_scanServers_of w keepsClean_parseDisplay)
    (keepsClean_of (keeps_loadDatabase w) fun _ _ => (wlp_modify _ _ _).2 (Clean.of_eq rfl))

/-! ### The loop of `WaitForChild` -/

/-- What a turn of the loop does before it looks for the display of the child. -/
def noticeChild (e : Exit) : M Unit := do
  let s ← get
  reap e.pid
  if s.config.autoRescan then rescanIfMod e.world

/-- `Turn exits s e u`: in the loop over `exits`, from `s` on, the turn of the child `e`
looks for its display in the state `u`. -/
inductive Turn : List Exit → State → Exit → State → Prop
  | here {e : Exit} {exits : List Exit} {s u : State} :
      e.pid ∈ s.kernel.children → noticeChild e s = some ((), u) → Turn (e :: exits) s e u
  | later {e e' : Exit} {exits : List Exit} {s t u : State} :
      childEnded e' s = some ((), t) → Turn exits t e u → Turn (e' :: exits) s e u

lemma childEnded_eq (e : Exit) (s : State) : childEnded e s =
    if e.pid ∈ s.kernel.children then (noticeChild e >>= fun _ => displayEnded e) s else none := by
  unfold childEnded noticeChild
  rw [get_bind]
  by_cases hchild : e.pid ∈ s.kernel.children
  · rw [if_pos hchild, if_pos hchild, bind_assoc, get_bind, bind_assoc]
    by_cases hrescan : s.config.autoRescan = true
    · simp only [if_pos hrescan]
    · simp only [if_neg hrescan, pure_bind]
  · rw [if_neg hchild, if_neg hchild]
    rfl

lemma wlp_noticeChild (e : Exit) (hs : s.Sound [] none) :
    Wlp (noticeChild e) (fun _ u => u.Sound [e.pid] none ∧ Quiet s u ∧ Clean s u) s := by
  unfold noticeChild
  simp only [reap, wlp_bind, wlp_get, wlp_modify]
  have hreaped := hs.reaped (p := e.pid)
  have hquiet := Quiet.setKernel s { s.kernel with
    children := s.kernel.children.filter (· ≠ e.pid) }
  refine wlp_ite (fun _ => ?_) fun _ => (wlp_pure _ _ _).2 ⟨hreaped, hquiet, Clean.of_eq rfl⟩
  exact ((keeps_rescanIfMod e.world _ hreaped).and (keepsClean_rescanIfMod e.world _ hreaped)).mono
    fun _ u h => ⟨h.1.1, hquiet.trans h.1.2, (Clean.of_eq rfl).trans h.2.2⟩

/-- A turn that has been made noticed its child in the state that `Turn` says. -/
lemma childEnded_some {e : Exit} (hrun : childEnded e s = some ((), t)) :
    ∃ u, e.pid ∈ s.kernel.children ∧ noticeChild e s = some ((), u) ∧
      displayEnded e u = some ((), t) := by
  rw [childEnded_eq] at hrun
  split_ifs at hrun with hchild
  obtain ⟨_, u, hu, hend⟩ := bind_eq_some.1 hrun
  exact ⟨u, hchild, hu, hend⟩

/-- The turns of the loop are clean if and only if none of them stores into a display that
it has removed. -/
lemma wlp_exits (exits : List Exit) (hs : s.Sound [] none) :
    Wlp (exits.forM childEnded)
      (fun _ s' => s'.Sound [] none ∧ Quiet s s' ∧
        (Clean s s' ↔ ∀ e u, Turn exits s e u → storesAfterRemoval e u = false)) s := by
  induction exits generalizing s with
  | nil =>
    refine (wlp_pure _ _ _).2 ⟨hs, Quiet.refl s, iff_of_true (Clean.refl s) ?_⟩
    exact fun _ _ hturn => nomatch hturn
  | cons e exits ih =>
    change Wlp (childEnded e >>= fun _ => exits.forM childEnded) _ s
    rw [wlp_bind]
    intro _ t ht
    obtain ⟨u, hchild, hu, hend⟩ := childEnded_some ht
    obtain ⟨htsound, htquiet⟩ := keeps_childEnded e s hs _ _ ht
    obtain ⟨husound, huquiet, huclean⟩ := wlp_noticeChild e hs _ _ hu
    have hstep := (wp_displayEnded e husound).wlp _ _ hend
    refine (ih htsound).mono fun _ s' ⟨hs', hquiet, hiff⟩ =>
      ⟨hs', htquiet.trans hquiet, ?_⟩
    constructor
    · intro hclean e' u' hturn
      obtain ⟨hfirst, hrest⟩ := hclean.split htquiet hquiet
      cases hturn with
      | here _ hu' =>
        obtain rfl : u = u' := (Prod.mk.inj (Option.some.inj (hu.symm.trans hu'))).2
        unfold CleanUnless at hstep
        split_ifs at hstep with hstored
        · exact absurd hfirst (huclean.dirty hstep).not_clean
        · simpa using hstored
      | later ht' hturn =>
        obtain rfl : t = _ := (Prod.mk.inj (Option.some.inj (ht.symm.trans ht'))).2
        exact hiff.1 hrest _ _ hturn
    · intro hall
      have hstored := hall e u (.here hchild hu)
      rw [CleanUnless, if_neg (by simp [hstored])] at hstep
      refine (huclean.trans hstep).trans (hiff.2 fun e' u' hturn => ?_)
      exact hall e' u' (.later ht hturn)

lemma turn_sound {e : Exit} {exits : List Exit} (hs : s.Sound [] none)
    (hturn : Turn exits s e u) : u.Sound [e.pid] none := by
  induction hturn with
  | here _ hu => exact (wlp_noticeChild _ hs _ _ hu).1
  | later ht _ ih => exact ih (keeps_childEnded _ _ hs _ _ ht).1

/-- In every reachable state, for all children that `waitpid` may report and all times: a turn
of the loop of `WaitForChild` has an outcome, and stores nothing into a removed display, if
and only if it is not one that finds the session of a local display without a server ended
with `RESERVER_DISPLAY` once too often.  Nothing is stored into a removed display in the whole
of `WaitForChild` if and only if this is so of each turn, and what follows the loop visits
displays of the list only. -/
theorem removed_displays_unused_iff (run : DaemonRun config g h s) (w : World)
    (exits : List Exit) :
    (∀ e u, Turn exits (s.begin (.waitForChild w exits)) e u →
      (Wp (displayEnded e) (fun _ v => Clean u v) u ↔ storesAfterRemoval e u = false)) ∧
    (∀ s', waitForChild w exits (s.begin (.waitForChild w exits)) = some ((), s') →
      ((∀ a, Event.writeFreed a ∉ s'.out) ↔
        ∀ e u, Turn exits (s.begin (.waitForChild w exits)) e u →
          storesAfterRemoval e u = false)) ∧
    ∀ v, exits.forM childEnded (s.begin (.waitForChild w exits)) = some ((), v) →
      WalksListed (checkDisplayStatus w) v := by
  have hs := (run_sound run).begin (.waitForChild w exits)
  have hout : (s.begin (.waitForChild w exits)).out = [] := rfl
  generalize s.begin (.waitForChild w exits) = s₀ at hs hout
  refine ⟨fun e u hturn => ?_, fun s' hs' => ?_, fun v hv => ?_⟩
  · have hu : u.Sound [e.pid] none := turn_sound hs hturn
    have hstep := wp_displayEnded e hu
    constructor
    · intro hclean
      obtain ⟨_, v, hv, hclean⟩ := hclean
      have hunless := hstep.wlp _ _ hv
      unfold CleanUnless at hunless
      split_ifs at hunless with hstored
      · exact absurd hclean hunless.not_clean
      · simpa using hstored
    · intro hstored
      refine hstep.mono fun _ v h => ?_
      rwa [CleanUnless, if_neg (by simp [hstored])] at h
  · obtain ⟨_, t, ht, hstart⟩ := bind_eq_some.1 hs'
    obtain ⟨htsound, htquiet, hiff⟩ := wlp_exits exits hs _ _ ht
    have hrest := (keepsClean_startDisplays w t htsound _ _ hstart).2
    have hrestquiet := (keeps_startDisplays w t htsound _ _ hstart).2
    have hclean : (∀ a, Event.writeFreed a ∉ s'.out) ↔ Clean s₀ s' := by
      constructor
      · exact fun hno => ⟨s'.out, by rw [hout, List.nil_append], hno⟩
      · rintro ⟨es, hes, hno⟩ a
        rw [hes, hout, List.nil_append]
        exact hno a
    rw [hclean, ← hiff]
    exact ⟨fun h => (h.split htquiet hrestquiet).1, fun h => h.trans hrest⟩
  · have hv := (wlp_exits exits hs _ _ hv).1
    exact walksListed (fun a => (Only.works a).checkDisplayStatus) hv.distinct

/-! ### A server that crashes -/

/-- A world with one local display, whose next server and session have these pids. -/
def World.restart (server session : Pid) : World :=
  { World.solo with forks := [some server, some session] }

/-- The server of the display crashes, and then its session ends with `RESERVER_DISPLAY`. -/
def crash (server session : Pid) (w : World) : List Exit :=
  [⟨server, .signaled 11, w⟩, ⟨session, .exited 3, w⟩]

/-- The third crash within two minutes: the display is removed, and then its field
`lastReserv` is set. -/
theorem removed_display_used : ∃ h s, DaemonRun Config.plain 0 h s ∧
    h.map Step.input = [.startUp (World.restart 10 11),
      .waitForChild (World.restart 12 13) (crash 10 11 (World.restart 12 13)),
      .waitForChild (World.restart 14 15) (crash 12 13 (World.restart 14 15)),
      .waitForChild (World.restart 16 17) (crash 14 15 (World.restart 16 17))] ∧
    (∀ d ∈ s.displays, d.addr ≠ 0) ∧ Event.writeFreed 0 ∈ s.out :=
  exists_run_on _ (by decide +kernel)

/-- The first crash. -/
theorem removed_displays_unused : ∃ h s, DaemonRun Config.plain 0 h s ∧
    (∃ d ∈ s.displays, d.pid = 11 ∧ d.serverPid = 10) ∧
    ∀ e u, Turn (crash 10 11 (World.restart 12 13))
        (s.begin (.waitForChild (World.restart 12 13) (crash 10 11 (World.restart 12 13)))) e u →
      Wp (displayEnded e) (fun _ v => Clean u v) u := by
  obtain ⟨h, s, run, hd, hout⟩ : ∃ h s, DaemonRun Config.plain 0 h s ∧
      (∃ d ∈ s.displays, d.pid = 11 ∧ d.serverPid = 10) ∧
      (waitForChild (World.restart 12 13) (crash 10 11 (World.restart 12 13))
        (s.begin (.waitForChild (World.restart 12 13) (crash 10 11 (World.restart 12 13))))).any
          (fun p => decide (p.2.out = [.kill 11 sigterm, .kill 11 sigcont])) = true :=
    exists_run_of_exec [.startUp (World.restart 10 11)] (by decide +kernel)
  obtain ⟨⟨_, s'⟩, hs', hout⟩ := (Option.any_eq_true _ _).1 hout
  obtain ⟨hturn, hloop, -⟩ := removed_displays_unused_iff run (World.restart 12 13)
    (crash 10 11 (World.restart 12 13))
  have hno : ∀ a, Event.writeFreed a ∉ s'.out := by
    rw [of_decide_eq_true hout]
    simp
  exact ⟨h, s, run, hd, fun e u ht => (hturn e u ht).2 ((hloop s' hs').1 hno e u ht)⟩

end Xdm
