/-
# The daemon as a supervisor

The processes of the displays are the children on the record of a `Supervisor`: a session or a
server is on it while a display of the list has its process id.  `TerminateProcess` asks a
child to end; `RemoveDisplay` strikes the processes of the display off the record.  Every
action of the daemon is a path of the supervisor that forks the same children, waits for the
same ones and sends the same signals.
-/
import Xdm.Lib.Supervisor
import Xdm.Actions

namespace Xdm

open Prog

variable {config : Config} {g : Nat} {s s' s₀ : State} {t : Supervisor Pid} {a : Nat}
variable {d : Display} {p : Pid} {dead : List Pid} {busy : Option Nat} {w : World}

/-! ### What stands for the daemon -/

/-- A display of the list has the process. -/
def State.Owns (s : State) (p : Pid) : Prop := ∃ d ∈ s.displays, ∃ r, d.proc r = p

/-- The display waits for the end of its processes. -/
def Display.Parting (d : Display) : Prop := d.status = .zombie ∨ d.status = .phoenix

/-- The supervisor `t` stands for the daemon in the state `s`. -/
structure StandsFor (s : State) (t : Supervisor Pid) : Prop where
  children : ∀ p, p ∈ t.children ↔ p ∈ s.kernel.children
  owned : ∀ p, p ∈ t.owned ↔ p ∈ s.kernel.children ∧ s.Owns p
  told : ∀ d ∈ s.displays, d.Parting → ∀ r, d.proc r ∈ s.kernel.children → d.proc r ∈ t.told

def Event.signal? : Event → Option (Pid × Int)
  | .kill pid signal => some (pid, signal)
  | _ => none

/-- The signals that the current operation has sent. -/
def State.signals (s : State) : List (Pid × Int) := s.out.filterMap Event.signal?

/-- The signals of an act; `TerminateProcess` sends two. -/
def actSignals : Supervisor.Act Pid Int → List (Pid × Int)
  | .signal p sig => [(p, sig)]
  | .terminate p sig => [(p, sig), (p, sigcont)]
  | _ => []

/-- The children that an act has forked. -/
def actForks : Supervisor.Act Pid Int → List Pid
  | .spawn p => [p]
  | _ => []

/-- The children that an act has waited for. -/
def actWaits : Supervisor.Act Pid Int → List Pid
  | .collect p => [p]
  | _ => []

/-- The children after an act. -/
def actChildren (children : List Pid) : Supervisor.Act Pid Int → List Pid
  | .spawn p => p :: children
  | .collect p => children.filter (· ≠ p)
  | _ => children

/-- What the daemon has done between the two states are the acts: the answers it has taken to
`fork` are the children they spawn, the deaths that `serverPause` has seen as many as they
collect, and the signals theirs. -/
structure Does (s : State) (acts : List (Supervisor.Act Pid Int)) (s' : State) : Prop where
  forks : ∃ answers, s.kernel.forks = answers ++ s'.kernel.forks ∧
    answers.filterMap id = acts.flatMap actForks
  pauses : ∃ answers, s.kernel.pauses = answers ++ s'.kernel.pauses ∧
    answers.count true = (acts.flatMap actWaits).length
  children : s'.kernel.children = acts.foldl actChildren s.kernel.children
  signals : s'.signals = s.signals ++ acts.flatMap actSignals

/-- The supervisor can follow the daemon from one state to another. -/
abbrev Supervised : State → State → Prop := Lts.Follows Supervisor.Step StandsFor Does

/-- A display whose status says that there is no session has none. -/
def State.Idle (s : State) : Prop :=
  ∀ d ∈ s.displays, d.status = .notRunning ∨ d.status = .phoenix → d.pid = -1

/-! ### What is done -/

/-- Only signals are sent. -/
lemma Does.sends {acts : List (Supervisor.Act Pid Int)} (hacts : ∀ act ∈ acts, act.Sends)
    (hk : s'.kernel = s.kernel) (hs : s'.signals = s.signals ++ acts.flatMap actSignals) :
    Does s acts s' := by
  have hnone : acts.flatMap actForks = [] ∧ acts.flatMap actWaits = [] ∧
      ∀ children, acts.foldl actChildren children = children := by
    clear hs
    induction acts with
    | nil => exact ⟨rfl, rfl, fun _ => rfl⟩
    | cons act acts ih =>
      obtain ⟨hact, hacts⟩ := List.forall_mem_cons.1 hacts
      obtain ⟨hforks, hwaits, hchildren⟩ := ih hacts
      cases act with
      | spawn | collect => exact absurd hact id
      | _ => exact ⟨hforks, hwaits, hchildren⟩
  obtain ⟨hforks, hwaits, hchildren⟩ := hnone
  exact ⟨⟨[], by rw [hk, List.nil_append], hforks.symm⟩,
    ⟨[], by rw [hk, List.nil_append], by rw [hwaits]; rfl⟩, by rw [hk, hchildren], hs⟩

/-- Nothing is done. -/
lemma Does.still (hk : s'.kernel = s.kernel) (hs : s'.signals = s.signals) : Does s [] s' :=
  .sends (by simp) hk (by simpa using hs)

lemma Does.append {s'' : State} {acts acts' : List (Supervisor.Act Pid Int)}
    (h : Does s acts s') (h' : Does s' acts' s'') : Does s (acts ++ acts') s'' where
  forks := by
    obtain ⟨answers, htaken, hacts⟩ := h.forks
    obtain ⟨answers', htaken', hacts'⟩ := h'.forks
    refine ⟨answers ++ answers', by rw [htaken, htaken', List.append_assoc], ?_⟩
    rw [List.filterMap_append, List.flatMap_append, hacts, hacts']
  pauses := by
    obtain ⟨answers, htaken, hacts⟩ := h.pauses
    obtain ⟨answers', htaken', hacts'⟩ := h'.pauses
    refine ⟨answers ++ answers', by rw [htaken, htaken', List.append_assoc], ?_⟩
    rw [List.count_append, List.flatMap_append, List.length_append, hacts, hacts']
  children := by rw [h'.children, h.children, List.foldl_append]
  signals := by rw [h'.signals, h.signals, List.flatMap_append, List.append_assoc]

instance : Lts.Accumulates Does := ⟨fun _ => .still rfl rfl, Does.append⟩

/-! ### Stores -/

lemma State.owns_write {f : Display → Display} (h : ∀ d ∈ s.displays, d.addr = a →
    ((∃ r, (f d).proc r = p) ↔ ∃ r, d.proc r = p)) : (s.write a f).Owns p ↔ s.Owns p := by
  constructor
  · rintro ⟨d, hd, r, hr⟩
    rcases State.mem_write.1 hd with ⟨x, hx, hxa, rfl⟩ | ⟨hd, -⟩
    · exact ⟨x, hx, (h x hx hxa).1 ⟨r, hr⟩⟩
    · exact ⟨d, hd, r, hr⟩
  · rintro ⟨d, hd, hr⟩
    by_cases hda : d.addr = a
    · exact ⟨f d, State.mem_write.2 (Or.inl ⟨d, hd, hda, rfl⟩), (h d hd hda).2 hr⟩
    · exact ⟨d, State.mem_write.2 (Or.inr ⟨hd, hda⟩), hr⟩

/-- The same children, and the same of them on record. -/
lemma StandsFor.congr (h : StandsFor s t) (hc : s'.kernel.children = s.kernel.children)
    (howns : ∀ p ∈ s.kernel.children, s'.Owns p ↔ s.Owns p)
    (htold : ∀ d ∈ s'.displays, d.Parting → ∀ r, d.proc r ∈ s.kernel.children →
      d.proc r ∈ t.told) : StandsFor s' t where
  children := by
    rw [hc]
    exact h.children
  owned := by
    rw [hc]
    intro p
    rw [h.owned p]
    exact and_congr_right fun hp => (howns p hp).symm
  told := by rwa [hc]

/-- Nothing has happened to the displays and the children. -/
lemma StandsFor.of_eq (h : StandsFor s t) (hd : s'.displays = s.displays)
    (hc : s'.kernel.children = s.kernel.children) : StandsFor s' t := by
  refine h.congr hc (fun p _ => ?_) ?_
  · simp only [State.Owns, hd]
  · rw [hd]
    exact h.told

/-- Nor has anything been asked of the kernel, and no signal been sent. -/
lemma supervised_of_eq (hd : s'.displays = s.displays) (hk : s'.kernel = s.kernel)
    (hs : s'.signals = s.signals) : Supervised s s' :=
  .of_stands (fun _ ht => ht.of_eq hd (congrArg Kernel.children hk)) (.still hk hs)

lemma supervised_emit (s : State) {e : Event} (he : e.signal? = none) :
    Supervised s { s with out := s.out ++ [e] } :=
  supervised_of_eq rfl rfl (by simp [State.signals, he])

/-- A store after which the display has the same children, and is not told to go. -/
lemma supervised_write {f : Display → Display}
    (hproc : ∀ d ∈ s.displays, d.addr = a → ∀ p ∈ s.kernel.children,
      ((∃ r, (f d).proc r = p) ↔ ∃ r, d.proc r = p))
    (hparting : ∀ d ∈ s.displays, d.addr = a → (f d).Parting → d.Parting) :
    Supervised s (s.write a f) := by
  refine .of_stands (fun t ht => ht.congr rfl
    (fun p hp => State.owns_write fun d hd hda => hproc d hd hda p hp) ?_) (.still rfl rfl)
  intro d hd hpart r hr
  rcases State.mem_write.1 hd with ⟨x, hx, hxa, rfl⟩ | ⟨hd, -⟩
  · obtain ⟨r', hr'⟩ := (hproc x hx hxa _ hr).1 ⟨r, rfl⟩
    rw [← hr'] at hr ⊢
    exact ht.told x hx (hparting x hx hxa hpart) r' hr
  · exact ht.told d hd hpart r hr

lemma Bookkeeping.supervised {f : Display → Display} (hf : Bookkeeping f) (s : State) (a : Nat) :
    Supervised s (s.write a f) :=
  supervised_write (fun d _ _ p _ => by simp only [hf.proc])
    fun d _ _ h => by simpa only [Display.Parting, hf.status] using h

lemma State.Idle.write {f : Display → Display} (h : s.Idle)
    (hf : ∀ d ∈ s.displays, d.addr = a → (f d).status = .notRunning ∨ (f d).status = .phoenix →
      (f d).pid = -1) : (s.write a f).Idle := by
  intro d hd hstatus
  rcases State.mem_write.1 hd with ⟨x, hx, hxa, rfl⟩ | ⟨hd, -⟩
  · exact hf x hx hxa hstatus
  · exact h d hd hstatus

lemma Bookkeeping.idle {f : Display → Display} (hf : Bookkeeping f) (h : s.Idle) (a : Nat) :
    (s.write a f).Idle :=
  h.write fun d hd _ hstatus => by
    rw [hf.pid]
    exact h d hd (by rwa [hf.status] at hstatus)

lemma State.Idle.remove (h : s.Idle) (a : Nat) : (s.remove a).Idle :=
  fun d hd => h d (State.mem_remove.1 hd).1

/-- What the parts of an operation are to do: keep the sessions accounted for. -/
abbrev Tends (s₀ s : State) : Prop := s.Idle ∧ Supervised s₀ s

/-! ### Stopping and restarting -/

/-- A process of a display is a child. -/
lemma State.Sound.proc_mem {busy : Option Nat} (hs : s.Sound [] busy) (hd : d ∈ s.displays)
    {r : Role} (hr : d.proc r ≠ -1) : d.proc r ∈ s.kernel.children := by
  simpa using hs.child d hd r hr

lemma State.Sound.proc_ne (hs : s.Sound dead busy) {r : Role}
    (hr : d.proc r ∈ s.kernel.children) : d.proc r ≠ -1 :=
  pid_ne (hs.positive _ hr)

/-- One of the processes of a display is asked to end. -/
lemma StandsFor.ask (h : StandsFor s t) (hs : s.Sound [] busy) (hd : d ∈ s.displays) {r : Role}
    (hr : d.proc r ≠ -1) (sig : Int) :
    ∃ t', Supervisor.Step t (.terminate (d.proc r) sig) t' ∧ StandsFor s t' ∧
      d.proc r ∈ t'.told ∧ t.told ⊆ t'.told := by
  have hmem := hs.proc_mem hd hr
  have howned : d.proc r ∈ t.owned := (h.owned _).2 ⟨hmem, d, hd, r, rfl⟩
  refine ⟨t.terminate _ howned, .terminate howned, ⟨h.children, h.owned, ?_⟩,
    Set.mem_insert _ _, Set.subset_insert _ _⟩
  exact fun x hx hpart r' hr' => Set.mem_insert_of_mem _ (h.told x hx hpart r' hr')

/-- Both processes of a display are asked to end, as far as it has them. -/
lemma StandsFor.askAll (h : StandsFor s t) (hs : s.Sound [] busy) (hd : d ∈ s.displays) :
    ∃ acts t', Lts.Path Supervisor.Step t acts t' ∧ StandsFor s t' ∧
      (∀ r, d.proc r ≠ -1 → d.proc r ∈ t'.told) ∧ (∀ act ∈ acts, act.Sends) ∧
      acts.flatMap actSignals = d.stopSignals.filterMap Event.signal? := by
  have hsession : ∃ acts t', Lts.Path Supervisor.Step t acts t' ∧ StandsFor s t' ∧
      (d.pid ≠ -1 → d.pid ∈ t'.told) ∧ (∀ act ∈ acts, act.Sends) ∧ acts.flatMap actSignals =
        (if d.pid ≠ -1 then terminated d.pid sigterm else []).filterMap Event.signal? := by
    by_cases hpid : d.pid = -1
    · exact ⟨[], t, .nil t, h, fun hne => absurd hpid hne, by simp, by simp [hpid]⟩
    · obtain ⟨t', hstep, ht', htold, -⟩ := h.ask hs hd (r := .session) hpid sigterm
      exact ⟨_, t', .single hstep, ht', fun _ => htold, List.forall_mem_singleton.2 trivial, by
        simp [hpid, terminated, Event.signal?, actSignals, Display.proc]⟩
  obtain ⟨acts, t', hpath, ht', htold, hsends, hsig⟩ := hsession
  unfold Display.stopSignals
  by_cases hserver : d.serverPid = -1
  · refine ⟨acts, t', hpath, ht', ?_, hsends, by simpa [hserver] using hsig⟩
    rintro (_ | _) hr
    · exact htold hr
    · exact absurd hserver hr
  · obtain ⟨t'', hstep, ht'', htold', hsub⟩ :=
      ht'.ask hs hd (r := .server) hserver d.resources.termSignal
    refine ⟨acts ++ [_], t'', hpath.append (.single hstep), ht'', ?_, ?_, ?_⟩
    · rintro (_ | _) hr
      · exact hsub (htold hr)
      · exact htold'
    · exact List.forall_mem_append.2 ⟨hsends, List.forall_mem_singleton.2 trivial⟩
    · rw [List.flatMap_append, hsig, List.filterMap_append, if_pos hserver]
      simp [terminated, Event.signal?, actSignals, Display.proc]

lemma State.Owns.of_remove (hs : s.Sound [] busy) (hd : d ∈ s.displays) {p : Pid}
    (hp : p ∈ s.kernel.children) :
    (s.remove d.addr).Owns p ↔ s.Owns p ∧ ∀ r, d.proc r ≠ p := by
  constructor
  · rintro ⟨x, hx, r, rfl⟩
    obtain ⟨hx, hne⟩ := State.mem_remove.1 hx
    refine ⟨⟨x, hx, r, rfl⟩, fun r' hr' => hne ?_⟩
    exact (hs.owner x hx d hd r r' (hs.proc_ne hp) hr'.symm).1
  · rintro ⟨⟨x, hx, r, hr⟩, hno⟩
    refine ⟨x, State.mem_remove.2 ⟨hx, fun hxa => hno r ?_⟩, r, hr⟩
    rwa [hs.distinct.eq_of_mem hx hd hxa] at hr

/-- A display with at most one process goes after this one has been asked to end. -/
lemma StandsFor.remove (h : StandsFor s t) (hs : s.Sound [] busy) (hd : d ∈ s.displays)
    (hserver : d.serverPid ∉ s.kernel.children)
    (htold : d.pid ∈ s.kernel.children → d.pid ∈ t.told) :
    ∃ acts t', Lts.Path Supervisor.Step t acts t' ∧ StandsFor (s.remove d.addr) t' ∧
      (∀ act ∈ acts, act.Sends) ∧ acts.flatMap actSignals = [] := by
  have hparting : ∀ x ∈ (s.remove d.addr).displays, x.Parting → ∀ r,
      x.proc r ∈ s.kernel.children → x.proc r ∈ t.told := fun x hx =>
    h.told x (State.mem_remove.1 hx).1
  -- only the session can still be there: the server has been waited for
  by_cases hpid : d.pid ∈ s.kernel.children
  · refine ⟨[.forget d.pid], t.forget d.pid (htold hpid), .single (.forget _),
      ⟨h.children, fun p => ?_, hparting⟩, List.forall_mem_singleton.2 trivial, rfl⟩
    change p ∈ t.owned \ {d.pid} ↔ p ∈ s.kernel.children ∧ _
    rw [Set.mem_sdiff, Set.mem_singleton_iff, h.owned, and_assoc]
    refine and_congr_right fun hp => ?_
    rw [State.Owns.of_remove hs hd hp]
    refine and_congr_right fun _ => ⟨fun hne => ?_, fun hno hp' => hno .session hp'.symm⟩
    rintro (_ | _) hr
    · exact hne hr.symm
    · exact hserver (by rwa [← hr] at hp)
  · refine ⟨[], t, .nil t, h.congr rfl (fun p hp => ?_) hparting, by simp, rfl⟩
    rw [State.Owns.of_remove hs hd hp]
    refine and_iff_left ?_
    rintro (_ | _) rfl
    · exact hpid hp
    · exact hserver hp

lemma signals_after (es : List Event) :
    State.signals { s with out := s.out ++ es } = s.signals ++ es.filterMap Event.signal? :=
  List.filterMap_append

/-- The supervisor's part of `StopDisplay`. -/
lemma supervised_stopped (hs : s.Sound [] busy) (hd : d ∈ s.displays) :
    Supervised s (s.stopped d) := by
  intro t ht
  obtain ⟨acts, t', hpath, ht', htold, hsends, hsig⟩ := ht.askAll hs hd
  have hdoes : Does s acts (s.stopped d) := by
    refine .sends hsends (State.stopped_kernel s d) ?_
    rw [State.signals, State.stopped_out, List.filterMap_append, hsig]
    rfl
  -- without a server `StopDisplay` removes the display at once
  by_cases hserver : d.serverPid = -1
  · obtain ⟨acts', t'', hpath', ht'', hsends', hsig'⟩ := ht'.remove hs hd
      (fun hmem => hs.proc_ne (r := .server) hmem hserver)
      fun hmem => htold .session (hs.proc_ne (r := .session) hmem)
    refine ⟨acts ++ acts', t'', hpath.append hpath', ?_, hdoes.append ?_⟩
    · unfold State.stopped
      rw [if_neg (by simpa using hserver)]
      exact ht''.congr rfl (fun _ _ => Iff.rfl) ht''.told
    · exact .sends hsends' rfl (by simp [hsig'])
  · refine ⟨acts, t', hpath, ?_, hdoes⟩
    unfold State.stopped
    rw [if_pos hserver]
    refine ht'.congr rfl (fun p _ => State.owns_write fun x _ _ => Iff.rfl)
      fun x hx hpart r hr => ?_
    rcases State.mem_write.1 hx with ⟨y, hy, hya, rfl⟩ | ⟨hx, -⟩
    · obtain rfl := hs.distinct.eq_of_mem hy hd hya
      exact htold r (hs.proc_ne (d := y) (r := r) hr)
    · exact ht'.told x hx hpart r hr

lemma idle_stopped (h : s.Idle) (d : Display) : (s.stopped d).Idle := by
  unfold State.stopped
  split_ifs
  · exact h.write (f := fun x => { x with status := .zombie }) fun _ _ _ hstatus => by
      simp at hstatus
  · exact h.remove d.addr

lemma wlp_stopDisplay_of {Q : Unit → State → Prop} (hs : s.Sound dead busy)
    (h : ∀ d ∈ s.displays, d.addr = a → Q () (s.stopped d)) : Wlp (stopDisplay a) Q s := by
  intro _ s' hrun
  by_cases hlisted : s.Listed a
  · obtain ⟨d, hd, rfl⟩ := hlisted
    obtain ⟨-, rfl⟩ := Prod.mk.inj (Option.some.inj ((stopDisplay_eq hs hd).symm.trans hrun))
    exact h d hd rfl
  · -- without a display there is nothing to read
    have hnone : Wlp (stopDisplay a) (fun _ _ => False) s := by
      unfold stopDisplay
      rw [wlp_bind]
      exact wlp_readDisplay fun d hd hda => absurd ⟨d, hd, hda⟩ hlisted
    exact absurd hrun fun hrun => hnone _ _ hrun

lemma tends_stopDisplay (hs : s.Sound [] busy) (h : Tends s₀ s) :
    Wlp (stopDisplay a) (fun _ s' => Tends s₀ s') s :=
  wlp_stopDisplay_of hs fun d hd _ =>
    ⟨idle_stopped h.1 d, h.2.trans (supervised_stopped hs hd)⟩

/-- The server of a display without a session is asked to end, and the display to wait. -/
lemma supervised_phoenix (hs : s.Sound [] busy) (hd : d ∈ s.displays) (hpid : d.pid = -1)
    (hserver : d.serverPid ≠ -1) (sig : Int) :
    Supervised s (({ s with out := s.out ++ terminated d.serverPid sig } : State).write d.addr
      fun x => { x with status := .phoenix }) := by
  intro t ht
  obtain ⟨t', hstep, ht', htold, -⟩ := ht.ask hs hd (r := .server) hserver sig
  refine ⟨_, t', .single hstep, ?_, .sends (List.forall_mem_singleton.2 trivial) rfl ?_⟩
  · refine ht'.congr rfl (fun p _ => State.owns_write fun x _ _ => Iff.rfl)
      fun x hx hpart r hr => ?_
    rcases State.mem_write.1 hx with ⟨y, hy, hya, rfl⟩ | ⟨hx, -⟩
    · obtain rfl := hs.distinct.eq_of_mem hy hd hya
      cases r with
      | session => exact absurd hpid (hs.proc_ne (d := y) (r := .session) hr)
      | server => exact htold
    · exact ht'.told x hx hpart r hr
  · change List.filterMap _ (s.out ++ _) = _
    rw [List.filterMap_append]
    simp [State.signals, terminated, Event.signal?, actSignals, Display.proc]

lemma tends_restartDisplay (hs : s.Sound [] busy) (h : Tends s₀ s)
    (hpid : s.Where a fun d => d.pid = -1) (forceReserver : Bool) :
    Wlp (restartDisplay a forceReserver) (fun _ s' => Tends s₀ s') s := by
  have hidle : ∀ {t : State} (status : DisplayStatus), t.displays = s.displays →
      (t.write a fun x => { x with status := status }).Idle := by
    intro t status ht
    refine State.Idle.write (fun d hd => h.1 d (ht ▸ hd)) fun x hx hxa _ => ?_
    exact hpid x (ht ▸ hx) hxa
  unfold restartDisplay
  rw [wlp_bind]
  refine wlp_readDisplay fun d hd hda => wlp_ite (fun hc => ?_) fun _ => ?_
  · rw [wlp_bind]
    intro _ t ht
    rw [terminateProcess_eq] at ht
    obtain ⟨-, rfl⟩ := Prod.mk.inj (Option.some.inj ht)
    refine wlp_writeDisplay ⟨hidle _ rfl, h.2.trans ?_⟩ fun hnone => absurd hda (hnone d hd)
    subst hda
    exact supervised_phoenix hs hd (hpid d hd rfl) hc.1 _
  · refine wlp_writeDisplay ⟨hidle _ rfl, h.2.trans ?_⟩ fun hnone => absurd hda (hnone d hd)
    exact supervised_write (fun _ _ _ _ _ => Iff.rfl) fun _ _ _ hpart => by
      simp [Display.Parting] at hpart

/-! ### Starting -/

/-- A display that has neither been started nor asked to go, in a sound list. -/
structure Startable (a : Nat) (s : State) : Prop where
  sound : s.Sound [] none
  idle : s.Idle
  listed : ListedWhere a (fun d => d.status = .notRunning) s

/-- The same while its server is started; a process id of the server may be left of one that
has died. -/
structure Trying (a : Nat) (s : State) : Prop where
  sound : (s.noServer a).Sound [] none
  idle : s.Idle
  listed : ListedWhere a (fun d => d.status = .notRunning) s
  stale : s.Where a fun d => d.serverPid ∉ s.kernel.children

lemma State.Where.write {P Q : Display → Prop} {f : Display → Display} (h : s.Where a P)
    (hf : ∀ d, P d → Q (f d)) : (s.write a f).Where a Q := by
  intro d hd hda
  rcases State.mem_write.1 hd with ⟨x, hx, hxa, rfl⟩ | ⟨-, hne⟩
  · exact hf x (h x hx hxa)
  · exact absurd hda hne

lemma State.Sound.noServer (hs : s.Sound [] none)
    (hidle : s.Where a fun d => d.status = .notRunning) : (s.noServer a).Sound [] none := by
  refine hs.write (by simp) (fun _ => rfl) (fun _ x hx hxa => ?_) fun x _ _ r => ?_
  · have hstatus := hidle x hx hxa
    exact ⟨by simp [hstatus], by simp [hstatus], by simp [hstatus]⟩
  · cases r
    · exact Or.inr rfl
    · exact Or.inl rfl

/-- A new child for the display: it has none in the role `k`, or one that has been waited for. -/
lemma supervised_spawn {forks : List (Option Pid)} {f : Display → Display} {r : Role}
    (hnew : p ∉ s.kernel.children) (hforks : s.kernel.forks = some p :: forks)
    (ha : s.Listed a) (hf : ∀ d ∈ s.displays, d.addr = a → (f d).proc r = p)
    (hother : ∀ d ∈ s.displays, d.addr = a → ∀ r', r' ≠ r → (f d).proc r' = d.proc r')
    (hstale : s.Where a fun d => d.proc r ∉ s.kernel.children)
    (hunowned : ∀ d ∈ s.displays, d.addr ≠ a → ∀ r, d.proc r ≠ p)
    (hparting : ∀ d ∈ s.displays, d.addr = a → ¬ (f d).Parting) :
    Supervised s (({ s with kernel := { s.kernel with
      forks := forks, children := p :: s.kernel.children } } : State).write a f) := by
  intro t ht
  have hp : p ∉ t.children := fun hmem => hnew ((ht.children p).1 hmem)
  refine ⟨_, _, .single (.spawn hp), ⟨fun q => ?_, fun q => ?_, ?_⟩,
    ⟨⟨[some p], hforks, rfl⟩, ⟨[], rfl, rfl⟩, rfl, (List.append_nil _).symm⟩⟩
  · change q ∈ insert p t.children ↔ q ∈ p :: s.kernel.children
    rw [List.mem_cons, Set.mem_insert_iff, ht.children]
  · change q ∈ insert p t.owned ↔ q ∈ p :: s.kernel.children ∧ State.Owns _ q
    rw [List.mem_cons, Set.mem_insert_iff, ht.owned]
    -- the displays keep the children that they had
    by_cases hqp : q = p
    · subst hqp
      obtain ⟨d, hd, hda⟩ := ha
      refine iff_of_true (Or.inl rfl) ⟨Or.inl rfl, f d, State.mem_write.2 ?_, r, hf d hd hda⟩
      exact Or.inl ⟨d, hd, hda, rfl⟩
    · rw [or_iff_right hqp, or_iff_right hqp]
      refine and_congr_right fun hq => (State.owns_write fun d hd hda => ?_).symm
      constructor
      · rintro ⟨r', hr'⟩
        by_cases hrr : r' = r
        · exact absurd ((hf d hd hda).symm.trans (hrr ▸ hr')) fun h => hqp h.symm
        · exact ⟨r', (hother d hd hda r' hrr).symm.trans hr'⟩
      · rintro ⟨r', hr'⟩
        have hrr : r' ≠ r := fun hrr => hstale d hd hda (by rw [← hrr, hr']; exact hq)
        exact ⟨r', (hother d hd hda r' hrr).trans hr'⟩
  · intro d hd hpart r' hr'
    rcases State.mem_write.1 hd with ⟨x, hx, hxa, rfl⟩ | ⟨hd, hda⟩
    · exact absurd hpart (hparting x hx hxa)
    · have hmem : d.proc r' ∈ p :: s.kernel.children := hr'
      have hne := hunowned d hd hda r'
      have hold := (List.mem_cons.1 hmem).resolve_left hne
      exact ⟨ht.told d hd hpart r' hold, hne⟩

/-- A child has died and has been waited for. -/
lemma StandsFor.collect (h : StandsFor s t) {k : Kernel}
    (hk : k.children = s.kernel.children.filter (· ≠ p)) :
    StandsFor { s with kernel := k } (t.collect p) := by
  have hmem : ∀ q, q ∈ k.children ↔ q ∈ s.kernel.children ∧ q ≠ p := by
    simp [hk]
  refine ⟨fun q => ?_, fun q => ?_, fun d hd hpart r hr => ?_⟩
  · rw [hmem, ← h.children]
    rfl
  · change q ∈ t.owned \ {p} ↔ _
    rw [hmem, Set.mem_sdiff, h.owned, Set.mem_singleton_iff, and_right_comm]
    rfl
  · obtain ⟨hr, hne⟩ := (hmem _).1 hr
    exact ⟨h.told d hd hpart r hr, hne⟩

/-- `serverPause` has waited for the new child. -/
lemma supervised_collect {pauses : List Bool} (hp : p ∈ s.kernel.children)
    (hpauses : s.kernel.pauses = true :: pauses) :
    Supervised s { s with kernel := { s.kernel with
      pauses := pauses, children := s.kernel.children.filter (· ≠ p) } } := fun _ ht =>
  ⟨_, _, .single (.collect ((ht.children p).2 hp)), ht.collect rfl,
    ⟨⟨[], rfl, rfl⟩, ⟨[true], hpauses, rfl⟩, rfl, (List.append_nil _).symm⟩⟩

/-- The kernel has answered that there is no new child. -/
lemma supervised_forkFailed {forks : List (Option Pid)} (hforks : s.kernel.forks = none :: forks) :
    Supervised s { s with kernel := { s.kernel with forks := forks } } :=
  .of_stands (fun _ ht => ht.of_eq rfl rfl)
    ⟨⟨[none], hforks, rfl⟩, ⟨[], rfl, rfl⟩, rfl, (List.append_nil _).symm⟩

/-- The kernel has answered that the new child lives. -/
lemma supervised_alive {pauses : List Bool} (hpauses : s.kernel.pauses = false :: pauses) :
    Supervised s { s with kernel := { s.kernel with pauses := pauses } } :=
  .of_stands (fun _ ht => ht.of_eq rfl rfl)
    ⟨⟨[], rfl, rfl⟩, ⟨[false], hpauses, rfl⟩, rfl, (List.append_nil _).symm⟩

/-- A child that is not there yet belongs to no display; a dead server may still have its
process id. -/
lemma Trying.unowned (h : Trying a s) (hp : 0 < p) (hnew : p ∉ s.kernel.children) {d : Display}
    (hd : d ∈ s.displays) {r : Role} (hr : d.proc r = p) : d.addr = a ∧ r = .server := by
  have hno := h.sound.unowned hp hnew
  by_cases hda : d.addr = a
  · refine ⟨hda, ?_⟩
    cases r with
    | server => rfl
    | session =>
      refine absurd hr (hno _ (State.mem_write.2 (Or.inl ⟨d, hd, hda, rfl⟩)) .session)
  · exact absurd hr (hno d (State.mem_write.2 (Or.inr ⟨hd, hda⟩)) r)

lemma supervised_startServerOnce (h : Trying a s) :
    Wlp (startServerOnce a) (fun started s' => s'.Idle ∧ s'.Listed a ∧
      (started = false → s'.Where a fun d => d.serverPid ∉ s'.kernel.children) ∧
      Supervised s s') s := by
  unfold startServerOnce
  rw [wlp_bind]
  refine wlp_fork_answer (fun forks hforks => ?_) fun p forks hp hnew hforks => ?_
  · rw [wlp_pure]
    exact ⟨h.idle, h.listed.1, fun _ => h.stale, supervised_forkFailed hforks⟩
  rw [wlp_bind]
  set k : Kernel := { s.kernel with forks := forks, children := p :: s.kernel.children } with hk
  have hidle : (({ s with kernel := k } : State).write a fun d =>
      { d with serverPid := p }).Idle :=
    State.Idle.write h.idle fun d hd _ => h.idle d hd
  have hlisted : (({ s with kernel := k } : State).write a fun d =>
      { d with serverPid := p }).Listed a := State.Listed.write h.listed.1 fun _ => rfl
  have hspawn : Supervised s (({ s with kernel := k } : State).write a fun d =>
      { d with serverPid := p }) := by
    refine supervised_spawn (r := .server) hnew hforks h.listed.1 (fun _ _ _ => rfl) ?_ h.stale
      (fun d hd hda r hr => hda (h.unowned hp hnew hd hr).1) fun d hd hda hpart => ?_
    · rintro d - - (_ | _) hr
      · rfl
      · exact absurd rfl hr
    · have hstatus : d.status = .notRunning := h.listed.2 d hd hda
      simp [Display.Parting, hstatus] at hpart
  refine wlp_writeDisplay ?_ fun hnone => ?_
  swap
  · obtain ⟨d, hd, hda⟩ := h.listed.1
    exact absurd hda (hnone d hd)
  rw [wlp_bind]
  refine wlp_serverPause_answer (fun pauses hpauses => ?_) fun pauses hpauses => ?_
  · rw [if_neg (by simp), wlp_pure]
    exact ⟨hidle, hlisted, fun hno => by simp at hno, hspawn.trans (supervised_alive hpauses)⟩
  · rw [if_pos rfl, wlp_pure]
    refine ⟨hidle, hlisted, fun _ d hd hda => ?_,
      hspawn.trans (supervised_collect (by simp [hk]) hpauses)⟩
    rcases State.mem_write.1 hd with ⟨x, -, -, rfl⟩ | ⟨-, hne⟩
    · simp
    · exact absurd hda hne

/-- What `StartServer` leaves: a display that can have a session, or one to be removed. -/
def Tried (a : Nat) (s₀ : State) (started : Bool) (s : State) : Prop :=
  (if started then Startable a s else Trying a s) ∧ Supervised s₀ s

lemma tried_startServerOnce (h : Trying a s) (h₀ : Supervised s₀ s) :
    Wlp (startServerOnce a) (Tried a s₀) s := by
  obtain ⟨d, hd, hda⟩ := h.listed.1
  have hsound := wlp_startServerOnce h.sound (Quiet.refl s) h.listed.2 hd hda
  refine (hsound.and (supervised_startServerOnce h)).mono ?_
  rintro started s' ⟨⟨hs, -, hwhere⟩, hidle, hlisted, hstale, hsup⟩
  refine ⟨?_, h₀.trans hsup⟩
  cases started
  · exact ⟨hs, hidle, ⟨hlisted, hwhere⟩, hstale rfl⟩
  · exact ⟨hs, hidle, hlisted, hwhere⟩

lemma tried_startServerLoop (n : Nat) : ∀ {s : State} (i : Int), Trying a s → Supervised s₀ s →
    Wlp (startServerLoop a n i) (Tried a s₀) s := by
  induction n with
  | zero => exact fun _ _ _ => (wlp_failure _ _).2 trivial
  | succ n ih =>
    intro s i h h₀
    unfold startServerLoop
    rw [wlp_bind]
    refine wlp_readDisplay fun d hd hda => wlp_ite (fun _ => ?_) fun _ => ?_
    · rw [wlp_bind]
      refine (tried_startServerOnce h h₀).mono fun started t ht => ?_
      cases started
      · exact ih (i + 1) ht.1 ht.2
      · exact (wlp_pure _ _ _).2 ht
    · exact (wlp_pure _ _ _).2 ⟨h, h₀⟩

lemma tends_startSession (h : Startable a s) (h₀ : Supervised s₀ s) :
    Wlp (startDisplay.startSession a) (fun _ s' => Tends s₀ s') s := by
  have hpid : s.Where a fun d => d.pid = -1 := fun d hd hda =>
    h.idle d hd (Or.inl (h.listed.2 d hd hda))
  unfold startDisplay.startSession
  rw [wlp_bind]
  refine wlp_fork_answer (fun forks hforks => ?_) fun p forks hp hnew hforks => ?_
  · exact (wlp_pure _ _ _).2 ⟨h.idle, h₀.trans (supervised_forkFailed hforks)⟩
  have hunowned := h.sound.unowned hp hnew
  refine wlp_writeDisplay ⟨?_, h₀.trans ?_⟩ fun hnone => ?_
  · exact State.Idle.write h.idle fun _ _ _ hstatus => by simp at hstatus
  · refine supervised_spawn (r := .session) hnew hforks h.listed.1 (fun _ _ _ => rfl) ?_ ?_
      (fun d hd _ => hunowned d hd) fun _ _ _ hpart => by simp [Display.Parting] at hpart
    · rintro d - - (_ | _) hr
      · exact absurd rfl hr
      · rfl
    · exact fun d hd hda hmem => h.sound.proc_ne (d := d) (r := .session) hmem (hpid d hd hda)
  · obtain ⟨d, hd, hda⟩ := h.listed.1
    exact absurd hda (hnone d hd)

/-- A display whose server has failed to start goes, with no process. -/
lemma tends_removeTrying (h : Trying a s) (h₀ : Supervised s₀ s) :
    Wlp (removeDisplay a) (fun _ s' => Tends s₀ s') s := by
  refine wlp_removeDisplay ⟨h.idle.remove a, h₀.trans ?_⟩ fun _ => ⟨h.idle, h₀⟩
  refine .of_stands (fun t ht => ht.congr rfl (fun p hp => ?_) fun d hd =>
    ht.told d (State.mem_remove.1 hd).1) (.still rfl rfl)
  constructor
  · rintro ⟨d, hd, hr⟩
    exact ⟨d, (State.mem_remove.1 hd).1, hr⟩
  · rintro ⟨d, hd, r, rfl⟩
    refine ⟨d, State.mem_remove.2 ⟨hd, fun hda => ?_⟩, r, rfl⟩
    cases r with
    | server => exact h.stale d hd hda hp
    | session =>
      have hpid : d.pid = -1 := h.idle d hd (Or.inl (h.listed.2 d hd hda))
      exact absurd hpid (pid_ne (h.sound.positive _ hp))

/-- A signal to a process of a display. -/
lemma supervised_signal (hs : s.Sound [] busy) (hd : d ∈ s.displays) {r : Role}
    (hr : d.proc r ≠ -1) (sig : Int) :
    Supervised s { s with out := s.out ++ [.kill (d.proc r) sig] } := by
  intro t ht
  have howned : d.proc r ∈ t.owned := (ht.owned _).2 ⟨hs.proc_mem hd hr, d, hd, r, rfl⟩
  have hstep : Supervisor.Step t (.signal (d.proc r) sig) t := .signal howned
  exact ⟨_, t, .single hstep, ht.congr rfl (fun _ _ => Iff.rfl) ht.told,
    .sends (List.forall_mem_singleton.2 trivial) rfl (signals_after _)⟩

lemma tends_startDisplay (w : World) (h : Startable a s) (h₀ : Supervised s₀ s) :
    Wlp (startDisplay w a) (fun _ s' => Tends s₀ s') s := by
  have hbook : Bookkeeping fun d => { d with
      resources := w.serverResources d.name d.className } := by
    constructor <;> intro _ <;> rfl
  -- the rest of `StartDisplay`, when the resources have been loaded
  have hserver : ∀ {u : State}, Startable a u → Supervised s₀ u → ∀ d ∈ u.displays,
      d.addr = a → Wlp (if d.serverPid = -1 then do
          if ← startServer a then startDisplay.startSession a else removeDisplay a
        else startDisplay.startSession a) (fun _ s' => Tends s₀ s') u := by
    intro u hu h₀ d hd hda
    refine wlp_ite (fun hno => ?_) fun _ => tends_startSession hu h₀
    unfold startServer
    simp only [wlp_bind, wlp_get]
    have htrying : Trying a u := by
      -- a display that has no server yet has none that is a child
      refine ⟨hu.sound.noServer hu.listed.2, hu.idle, hu.listed, fun x hx hxa hmem => ?_⟩
      obtain rfl := hu.sound.distinct.eq_of_mem hx hd (hxa.trans hda.symm)
      exact hu.sound.proc_ne (d := x) (r := .server) hmem hno
    refine (tried_startServerLoop _ 0 htrying h₀).mono fun started v hv => ?_
    cases started
    · exact tends_removeTrying hv.1 hv.2
    · exact tends_startSession hv.1 hv.2
  unfold startDisplay
  rw [wlp_bind]
  refine wlp_writeDisplay ?_ fun hnone => ?_
  swap
  · obtain ⟨d, hd, hda⟩ := h.listed.1
    exact absurd hda (hnone d hd)
  have hstart : Startable a (s.write a fun d => { d with
      resources := w.serverResources d.name d.className }) :=
    ⟨hbook.sound h.sound, hbook.idle h.idle a, h.listed.1.write hbook.addr,
      h.listed.2.write fun _ => id⟩
  have hsup := h₀.trans (hbook.supervised s a)
  rw [wlp_bind]
  refine wlp_readDisplay fun d hd hda => wlp_ite (fun _ => ?_) fun _ =>
    tends_startSession hstart hsup
  refine wlp_ite (fun hc => ?_) fun _ => hserver hstart hsup d hd hda
  simp only [emit, wlp_bind, wlp_modify]
  refine hserver ⟨hstart.sound.emit _, hstart.idle, hstart.listed⟩ (hsup.trans ?_) d hd hda
  exact supervised_signal hstart.sound hd (r := .server) hc.2.1 _

/-! ### The functions that walk the list -/

/-- The invariant of the walks. -/
abbrev Kept (dead : List Pid) (s : State) : Prop := s.Sound dead none ∧ s.Idle

/-- What is known of the soundness, and what is known of the children. -/
lemma keeps_kept {α : Type} {m : M α} (hsound : Keeps (State.Sound dead none) Quiet m)
    (htends : ∀ s, Kept dead s → Wlp m (fun _ s' => Tends s s') s) :
    Keeps (Kept dead) Supervised m := by
  intro s hs
  refine ((hsound s hs.1).and (htends s hs)).mono ?_
  rintro a s' ⟨⟨hs', -⟩, hidle, hsup⟩
  exact ⟨⟨hs', hidle⟩, hsup⟩

lemma kept_stopDisplay (a : Nat) : Keeps (Kept []) Supervised (stopDisplay a) :=
  keeps_kept (keeps_stopDisplay a) fun s hs => tends_stopDisplay hs.1 ⟨hs.2, .refl s⟩

lemma kept_bookkeeping {f : Display → Display} (hf : Bookkeeping f) (a : Nat) :
    Keeps (Kept dead) Supervised (writeDisplay a f) := fun s hs =>
  wlp_writeDisplay ⟨⟨hf.sound hs.1, hf.idle hs.2 a⟩, hf.supervised s a⟩
    fun _ => ⟨⟨hs.1.emit _, hs.2⟩, supervised_emit s rfl⟩

lemma kept_markDisplay (a : Nat) : Keeps (Kept dead) Supervised (markDisplay a) :=
  kept_bookkeeping (by constructor <;> intro _ <;> rfl) a

lemma kept_checkDisplayStatus (w : World) (a : Nat) :
    Keeps (Kept []) Supervised (checkDisplayStatus w a) := by
  refine keeps_kept (keeps_checkDisplayStatus w a) fun s hs => ?_
  unfold checkDisplayStatus
  rw [wlp_bind]
  refine wlp_readDisplay fun d hd hda => wlp_ite (fun _ => ?_) fun _ =>
    (wlp_pure _ _ _).2 ⟨hs.2, .refl s⟩
  have hstart : ∀ t, Kept [] t → (ListedWhere a fun x => x.status = d.status) t →
      Supervised s t → Wlp (checkDisplayStatus.startIfPermanent w d)
        (fun _ s' => Tends s s') t := by
    intro t ht hw hsup
    refine wlp_ite (fun hc => ?_) fun _ => (wlp_pure _ _ _).2 ⟨ht.2, hsup⟩
    rw [hda]
    exact tends_startDisplay w ⟨ht.1, ht.2, hw.1, fun x hx hxa => (hw.2 x hx hxa).trans hc.2⟩ hsup
  have hw : ListedWhere a (fun x => x.status = d.status) s :=
    ⟨⟨d, hd, hda⟩, hs.1.where_of_mem hd hda rfl⟩
  split
  · exact tends_stopDisplay hs.1 ⟨hs.2, .refl s⟩
  · have hbook : Bookkeeping fun d => { d with state := .oldEntry } := by
      constructor <;> intro _ <;> rfl
    rw [wlp_bind]
    refine wlp_writeDisplay ?_ fun hnone => absurd hda (hnone d hd)
    exact hstart _ ⟨hbook.sound hs.1, hbook.idle hs.2 a⟩
      ⟨hw.1.write fun _ => rfl, hw.2.write fun _ => id⟩ (hbook.supervised s a)
  · exact hstart s hs hw (.refl s)

lemma kept_addDynamicDisplay (w : World) (a : Nat) :
    Keeps (Kept []) Supervised (addDynamicDisplay w a) := by
  refine keeps_kept (keeps_addDynamicDisplay w a) fun s hs => ?_
  unfold addDynamicDisplay
  rw [wlp_bind]
  refine wlp_readDisplay fun d hd hda => wlp_ite (fun hc => ?_) fun _ =>
    (wlp_pure _ _ _).2 ⟨hs.2, .refl s⟩
  rw [wlp_bind]
  refine (tends_startDisplay w ⟨hs.1, hs.2, ⟨d, hd, hda⟩, hs.1.where_of_mem hd hda hc.2.2⟩
    (.refl s)).mono fun _ t ht => (wlp_pure _ _ _).2 ht

/-! ### Reading the servers file -/

/-- A display without processes. -/
lemma supervised_enter {x : Display} (hs : s.Sound dead none) (hproc : ∀ r, x.proc r = -1)
    (hparting : ¬ x.Parting) : Supervised s (s.enter x) := by
  refine .of_stands (fun t ht => ht.congr rfl (fun p hp => ?_) fun d hd hpart r hr => ?_)
    (.still rfl rfl)
  · constructor
    · rintro ⟨d, hd, r, hr⟩
      rcases List.mem_cons.1 hd with rfl | hd
      · exact absurd ((hproc r).symm.trans hr) (pid_ne (hs.positive p hp)).symm
      · exact ⟨d, hd, r, hr⟩
    · rintro ⟨d, hd, hr⟩
      exact ⟨d, List.mem_cons_of_mem _ hd, hr⟩
  · rcases List.mem_cons.1 hd with rfl | hd
    · exact absurd hpart hparting
    · exact ht.told d hd hpart r hr

lemma State.Idle.enter {x : Display} (h : s.Idle) (hx : x.pid = -1) : (s.enter x).Idle := by
  intro d hd hstatus
  rcases List.mem_cons.1 hd with rfl | hd
  · exact hx
  · exact h d hd hstatus

lemma kept_parseDisplay (source : Str) : Keeps (Kept dead) Supervised (parseDisplay source) := by
  refine keeps_kept (keeps_parseDisplay source) fun s hs => ?_
  refine wlp_parseDisplay_of source ⟨hs.2, .refl s⟩ (fun _ _ => ⟨?_, ?_⟩) fun _ _ => ⟨?_, ?_⟩
  · exact hs.2.write fun d hd _ => hs.2 d hd
  · exact supervised_write (fun _ _ _ _ _ => Iff.rfl) fun _ _ _ h => h
  · exact State.Idle.write (hs.2.enter rfl) fun d hd _ => hs.2.enter rfl d hd
  · exact (supervised_enter hs.1 (by rintro (_ | _) <;> rfl)
      (by simp [Display.Parting, newDisplayAt])).trans
        (supervised_write (fun _ _ _ _ _ => Iff.rfl) fun _ _ _ h => h)

lemma kept_state {f : State → State} (hd : ∀ s, (f s).displays = s.displays)
    (hk : ∀ s, (f s).kernel = s.kernel) (hn : ∀ s, (f s).nextAddr = s.nextAddr)
    (ho : ∀ s, (f s).out = s.out) : Keeps (Kept dead) Supervised (modify f : M Unit) :=
  Keeps.modify fun s hs => ⟨⟨hs.1.congr (hd s) (by rw [hk]) (Nat.le_of_eq (hn s).symm),
    fun d hmem => hs.2 d (hd s ▸ hmem)⟩, supervised_of_eq (hd s) (hk s) (by
      rw [State.signals, ho]
      rfl)⟩

lemma kept_loadConfig (w : World) : Keeps (Kept dead) Supervised (loadConfig w) :=
  kept_state (fun _ => rfl) (fun _ => rfl) (fun _ => rfl) fun _ => rfl

lemma kept_loadDatabase (w : World) : Keeps (Kept dead) Supervised (loadDatabase w) :=
  kept_state (fun _ => rfl) (fun _ => rfl) (fun _ => rfl) fun _ => rfl

lemma kept_rescanIfMod (w : World) : Keeps (Kept dead) Supervised (rescanIfMod w) :=
  keeps_rescanIfMod_of (kept_loadConfig w) (keeps_forEachDisplay kept_markDisplay)
    (keeps_scanServers_of w kept_parseDisplay) (kept_loadDatabase w)

/-! ### Deaths of children -/

/-- The invariant while the end of the session of the display at `a` is dealt with. -/
abbrev Closing (a : Nat) (s : State) : Prop :=
  SoundWhere [] (some a) a (fun d => d.pid = -1) s ∧ s.Idle

lemma closing_bookkeeping {f : Display → Display} (hf : Bookkeeping f) :
    Keeps (Closing a) Supervised (writeDisplay a f) := fun s hs =>
  wlp_writeDisplay ⟨⟨⟨hf.sound hs.1.1, hs.1.2.write fun d hd => (hf.pid d).trans hd⟩,
      hf.idle hs.2 a⟩, hf.supervised s a⟩
    fun _ => ⟨⟨⟨hs.1.1.emit _, hs.1.2⟩, hs.2⟩, supervised_emit s rfl⟩

lemma closing_sendFailed (b : Nat) (reason : Str) :
    Keeps (Closing a) Supervised (sendFailed b reason) := by
  intro s hs
  unfold sendFailed
  rw [wlp_bind]
  refine wlp_readDisplay fun d _ _ => ?_
  simp only [sendFailedTo, emit, wlp_modify]
  exact ⟨⟨⟨hs.1.1.emit _, hs.1.2⟩, hs.2⟩, supervised_emit s rfl⟩

lemma closing_stop (h : Closing a s) (h₀ : Supervised s₀ s) :
    Wlp (stopDisplay a) (fun _ s' => Tends s₀ s') s :=
  tends_stopDisplay h.1.1 ⟨h.2, h₀⟩

lemma closing_restart (h : Closing a s) (h₀ : Supervised s₀ s) (forceReserver : Bool) :
    Wlp (restartDisplay a forceReserver) (fun _ s' => Tends s₀ s') s :=
  tends_restartDisplay h.1.1 ⟨h.2, h₀⟩ h.1.2 forceReserver

lemma closing_lastStart : Keeps (Closing a) Supervised (lastStart a) := by
  intro s hs
  unfold lastStart
  rw [wlp_bind]
  refine wlp_readDisplay fun d _ _ =>
    wlp_ite (fun _ => (wlp_pure _ _ _).2 ⟨hs, .refl s⟩) fun _ => ?_
  have hbook : Bookkeeping fun x => { x with startTries := x.startTries + 1 } := by
    constructor <;> intro _ <;> rfl
  exact (closing_bookkeeping hbook).seq hs (.refl s) fun _ t ht h => (wlp_pure _ _ _).2 ⟨ht, h⟩

lemma tends_reserver (now : Time) (h : Closing a s) (h₀ : Supervised s₀ s) :
    Wlp (reserver a now) (fun _ s' => Tends s₀ s') s := by
  have hstore : ∀ t, Tends s₀ t →
      Wlp (writeDisplay a fun d => { d with lastReserv := now }) (fun _ s' => Tends s₀ s') t := by
    have hbook : Bookkeeping fun d => { d with lastReserv := now } := by
      constructor <;> intro _ <;> rfl
    exact fun t ht => wlp_writeDisplay ⟨hbook.idle ht.1 a, ht.2.trans (hbook.supervised t a)⟩
      fun _ => ⟨ht.1, ht.2.trans (supervised_emit t rfl)⟩
  have hgo : ∀ (stop : Prop) [Decidable stop] t, Closing a t → Supervised s₀ t →
      Wlp (if stop then do
          stopDisplay a
          writeDisplay a fun d => { d with lastReserv := now }
        else do
          restartDisplay a true
          writeDisplay a fun d => { d with lastReserv := now }) (fun _ s' => Tends s₀ s') t := by
    intro stop _ t ht hsup
    refine wlp_ite (fun _ => ?_) fun _ => ?_
    · rw [wlp_bind]
      exact (closing_stop ht hsup).mono fun _ => hstore
    · rw [wlp_bind]
      exact (closing_restart ht hsup true).mono fun _ => hstore
  unfold reserver
  rw [wlp_bind]
  refine wlp_readDisplay fun d _ _ => wlp_ite (fun _ => ?_) fun _ => ?_
  · have hbook : Bookkeeping fun x => { x with reservTries := x.reservTries + 1 } := by
      constructor <;> intro _ <;> rfl
    exact (closing_bookkeeping hbook).seq h h₀ fun _ t => hgo _ t
  · have hbook : Bookkeeping fun x => { x with reservTries := 0 } := by
      constructor <;> intro _ <;> rfl
    exact (closing_bookkeeping hbook).seq h h₀ fun _ t => hgo _ t

/-- A store that drops a process which has been waited for. -/
lemma supervised_drop {f : Display → Display} {r : Role} (hp : p ∉ s.kernel.children)
    (hs : s.Where a fun d => d.proc r = p) (hpos : ∀ q ∈ s.kernel.children, 0 < q)
    (hf : ∀ d, (f d).proc r = -1) (hother : ∀ d r', r' ≠ r → (f d).proc r' = d.proc r')
    (hstatus : ∀ d, (f d).status = d.status) : Supervised s (s.write a f) := by
  refine supervised_write (fun d hd hda q hq => ?_) fun d _ _ h => by
    simpa only [Display.Parting, hstatus] using h
  constructor
  · rintro ⟨r', hr'⟩
    by_cases hrr : r' = r
    · rw [hrr, hf] at hr'
      exact absurd hr'.symm (pid_ne (hpos q hq))
    · exact ⟨r', (hother d r' hrr).symm.trans hr'⟩
  · rintro ⟨r', hr'⟩
    have hrr : r' ≠ r := by
      rintro rfl
      rw [hs d hd hda] at hr'
      exact hp (hr' ▸ hq)
    exact ⟨r', (hother d r' hrr).trans hr'⟩

lemma tends_sessionEnded (w : World) (val : Int) (hs : s.Sound [p] none) (hidle : s.Idle)
    (hp : p ∉ s.kernel.children) (hne : p ≠ -1) (hd : d ∈ s.displays) (hpid : d.pid = p) :
    Wlp (sessionEnded w d.addr val) (fun _ s' => Tends s s') s := by
  unfold sessionEnded
  rw [wlp_bind]
  refine wlp_writeDisplay ?_ fun hnone => absurd rfl (hnone d hd)
  set t : State := s.write d.addr fun x => { x with pid := -1 } with htdef
  have ht : Closing d.addr t := by
    refine ⟨⟨hs.dropped (k := .session) hne hd hpid (fun _ => rfl) (fun _ => rfl) ?_, ?_⟩, ?_⟩
    · rintro x (_ | _) hr
      · exact absurd rfl hr
      · rfl
    · exact State.Where.write (P := fun _ => True) (fun _ _ _ => trivial) fun _ _ => rfl
    · exact hidle.write fun _ _ _ _ => rfl
  have hsup : Supervised s t := by
    refine supervised_drop (r := .session) hp (hs.where_of_mem hd rfl hpid) hs.positive
      (fun _ => rfl) ?_ fun _ => rfl
    rintro x (_ | _) hr
    · exact absurd rfl hr
    · rfl
  clear_value t
  rw [wlp_bind]
  refine wlp_readDisplay fun d' _ _ => ?_
  have hlast : ∀ u, Closing d.addr u → Supervised s u →
      Wlp (do if ← lastStart d.addr then stopDisplay d.addr else restartDisplay d.addr true)
        (fun _ s' => Tends s s') u := fun u hu h =>
    closing_lastStart.seq hu h fun last v hv h => wlp_ite (fun _ => closing_stop hv h)
      fun _ => closing_restart hv h true
  have hclear : Keeps (Closing d.addr) Supervised (clearStartTries d.addr) :=
    closing_bookkeeping (by constructor <;> intro _ <;> rfl)
  refine wlp_ite (fun _ => closing_stop ht hsup) fun _ => ?_
  refine wlp_ite (fun _ => ?obeysess) fun _ => wlp_ite (fun _ => ?openfailed) fun _ =>
    wlp_ite (fun _ => ?reserver) fun _ => wlp_ite (fun _ => hlast t ht hsup) fun _ =>
      wlp_ite (fun _ => ?remanage) fun _ => closing_stop ht hsup
  case obeysess =>
    refine hclear.seq ht hsup fun _ u hu h => ?_
    have hbook : Bookkeeping fun x => { x with reservTries := 0 } := by
      constructor <;> intro _ <;> rfl
    refine (closing_bookkeeping hbook).seq hu h fun _ v hv h => ?_
    exact wlp_ite (fun _ => closing_stop hv h) fun _ => closing_restart hv h false
  case openfailed =>
    refine wlp_ite (fun _ => ?_) fun _ => hlast t ht hsup
    exact (closing_sendFailed _ _).seq ht hsup fun _ u hu h => hlast u hu h
  case reserver =>
    refine hclear.seq ht hsup fun _ u hu h => ?_
    exact wlp_ite (fun _ => closing_stop hu h) fun _ => tends_reserver w.time hu h
  case remanage =>
    refine hclear.seq ht hsup fun _ u hu h => ?_
    exact wlp_ite (fun _ => closing_stop hu h) fun _ => closing_restart hu h false

/-- A display that was told to go, and whose server has been waited for, is removed. -/
lemma supervised_remove (hs : s.Sound [] busy) (hd : d ∈ s.displays) (hparting : d.Parting)
    (hserver : d.serverPid ∉ s.kernel.children) : Supervised s (s.remove d.addr) := by
  intro t ht
  obtain ⟨acts, t', hpath, ht', hsends, hsig⟩ :=
    ht.remove hs hd hserver (ht.told d hd hparting .session)
  refine ⟨acts, t', hpath, ht', .sends hsends rfl ?_⟩
  rw [hsig]
  exact (List.append_nil _).symm

/-- `TerminateProcess` of a process of a display. -/
lemma supervised_terminate (hs : s.Sound [] busy) (hd : d ∈ s.displays) {r : Role}
    (hr : d.proc r ≠ -1) (sig : Int) :
    Supervised s { s with out := s.out ++ terminated (d.proc r) sig } := by
  intro t ht
  obtain ⟨t', hstep, ht', -⟩ := ht.ask hs hd hr sig
  exact ⟨_, t', .single hstep, ht'.congr rfl (fun _ _ => Iff.rfl) ht'.told,
    .sends (List.forall_mem_singleton.2 trivial) rfl (signals_after _)⟩

lemma tends_serverEnded (hs : s.Sound [p] none) (hidle : s.Idle) (hp : p ∉ s.kernel.children)
    (hne : p ≠ -1) (hd : d ∈ s.displays) (hpid : d.serverPid = p) :
    Wlp (serverEnded d.addr) (fun _ s' => Tends s s') s := by
  unfold serverEnded
  rw [wlp_bind]
  refine wlp_writeDisplay ?_ fun hnone => absurd rfl (hnone d hd)
  set t : State := s.write d.addr fun x => { x with serverPid := -1 } with htdef
  have hsound : t.Sound [] (some d.addr) := by
    refine hs.dropped (k := .server) hne hd hpid (fun _ => rfl) (fun _ => rfl) ?_
    rintro x (_ | _) hr
    · rfl
    · exact absurd rfl hr
  have htidle : t.Idle := hidle.write fun x hx _ => hidle x hx
  have hsup : Supervised s t := by
    refine supervised_drop (r := .server) hp (hs.where_of_mem hd rfl hpid) hs.positive
      (fun _ => rfl) ?_ fun _ => rfl
    rintro x (_ | _) hr
    · rfl
    · exact absurd rfl hr
  have hserver : t.Where d.addr fun x => x.serverPid = -1 :=
    State.Where.write (P := fun _ => True) (fun _ _ _ => trivial) fun _ _ => rfl
  clear_value t
  rw [wlp_bind]
  refine wlp_readDisplay fun d' hd' hda' => ?_
  rw [← hda']
  split
  · next hz =>
    refine wlp_removeDisplay ⟨htidle.remove _, hsup.trans ?_⟩ fun _ => ⟨htidle, hsup⟩
    refine supervised_remove hsound hd' (Or.inl hz) fun hmem => ?_
    exact hsound.proc_ne (d := d') (r := .server) hmem (hserver d' hd' hda')
  · next hph =>
    have hpid' : d'.pid = -1 := htidle d' hd' (Or.inr hph)
    refine wlp_writeDisplay ⟨?_, hsup.trans ?_⟩ fun hnone => absurd rfl (hnone d' hd')
    · refine htidle.write fun x hx hxa _ => ?_
      obtain rfl := hsound.distinct.eq_of_mem hx hd' hxa
      exact hpid'
    · exact supervised_write (fun _ _ _ _ _ => Iff.rfl) fun _ _ _ hpart => by
        simp [Display.Parting] at hpart
  · refine wlp_ite (fun hpid' => ?_) fun _ => (wlp_pure _ _ _).2 ⟨htidle, hsup⟩
    intro _ u hu
    rw [terminateProcess_eq] at hu
    obtain ⟨-, rfl⟩ := Prod.mk.inj (Option.some.inj hu)
    exact ⟨htidle, hsup.trans (supervised_terminate hsound hd' (r := .session) hpid' _)⟩
  · exact (wlp_pure _ _ _).2 ⟨htidle, hsup⟩

/-- Reading the files again forks nothing and waits for nobody. -/
lemma sameKernel_rescanIfMod (w : World) : Respects SameKernel (rescanIfMod w) := by
  have hmodify : ∀ {f : State → State}, (∀ s, (f s).kernel = s.kernel) →
      Respects SameKernel (modify f : M Unit) := fun hf => Keeps.modify fun s _ => ⟨trivial, hf s⟩
  have hparse : ∀ source, Respects SameKernel (parseDisplay source) := fun source s _ =>
    wlp_parseDisplay_of source ⟨trivial, refl s⟩ (fun _ _ => ⟨trivial, rfl⟩)
      fun _ _ => ⟨trivial, rfl⟩
  exact keeps_rescanIfMod_of (hmodify fun _ => rfl)
    (keeps_forEachDisplay fun a => (SameKernel.moves a).writeDisplay fun _ => rfl)
    (keeps_scanServers_of w hparse) (hmodify fun _ => rfl)

lemma sameKernel_displayEnded (e : Exit) : Respects SameKernel (displayEnded e) := by
  refine Keeps.bind Keeps.get fun s => ?_
  split
  · next d _ => exact (SameKernel.moves d.addr).sessionEnded _
  · split
    · next d _ => exact (SameKernel.moves d.addr).serverEnded
    · exact Keeps.pure _

/-- The child `p` has been waited for. -/
abbrev State.reaped (s : State) (p : Pid) : State :=
  { s with kernel := { s.kernel with children := s.kernel.children.filter (· ≠ p) } }

/-- Only a child can be waited for; nothing is forked and nobody else waited for. -/
lemma kept_childEnded (e : Exit) (hs : Kept [] s) :
    Wlp (childEnded e) (fun _ s' => e.pid ∈ s.kernel.children ∧ Kept [] s' ∧
      Supervised (s.reaped e.pid) s' ∧ s'.kernel = (s.reaped e.pid).kernel) s := by
  suffices htends : Wlp (childEnded e) (fun _ s' => e.pid ∈ s.kernel.children ∧
      Tends (s.reaped e.pid) s' ∧ s'.kernel = (s.reaped e.pid).kernel) s by
    refine ((keeps_childEnded e s hs.1).and htends).mono ?_
    rintro _ s' ⟨⟨hs', -⟩, hchild, ⟨hidle, hsup⟩, hkernel⟩
    exact ⟨hchild, ⟨hs', hidle⟩, hsup, hkernel⟩
  by_cases hchild : e.pid ∈ s.kernel.children
  swap
  · unfold childEnded
    rw [wlp_bind, wlp_get, if_neg hchild]
    exact (wlp_failure _ _).2 trivial
  refine wlp_childEnded_of (I := fun t => Kept [e.pid] t ∧ Supervised (s.reaped e.pid) t ∧
      SameKernel (s.reaped e.pid) t) hs.1 ⟨⟨hs.1.reaped, hs.2⟩, .refl _, rfl⟩ ?_ ?_
  · rintro t ⟨ht, hsup, hkernel⟩
    refine (((kept_rescanIfMod e.world).last ht hsup).and
      (sameKernel_rescanIfMod e.world t trivial)).mono ?_
    rintro _ u ⟨⟨hu, hsup'⟩, -, hkernel'⟩
    exact ⟨hu, hsup', Eq.trans hkernel' hkernel⟩
  · rintro hne t ⟨ht, hsup, hkernel⟩
    have hgone : e.pid ∉ t.kernel.children := by
      rw [show t.kernel = (s.reaped e.pid).kernel from hkernel]
      simp
    refine (Wlp.and (Q := fun _ s' => Tends (s.reaped e.pid) s') ?_
      (sameKernel_displayEnded e t trivial)).mono
        fun _ u h => ⟨hchild, h.1, Eq.trans h.2.2 hkernel⟩
    unfold displayEnded
    rw [wlp_bind, wlp_get]
    split
    · next d hd =>
      obtain ⟨hd, hpid⟩ := findDisplayByPid_some hd
      exact (tends_sessionEnded _ _ ht.1 ht.2 hgone hne hd hpid).mono fun _ _ h =>
        ⟨h.1, hsup.trans h.2⟩
    · split
      · next d hd =>
        obtain ⟨hd, hpid⟩ := findDisplayByServerPid_some hd
        exact (tends_serverEnded ht.1 ht.2 hgone hne hd hpid).mono fun _ _ h =>
          ⟨h.1, hsup.trans h.2⟩
      · exact (wlp_pure _ _ _).2 ⟨ht.2, hsup⟩

/-! ### Operations -/

lemma supervised_sends {es : List Event} (hd : s'.displays = s.displays)
    (hk : s'.kernel = s.kernel) (hout : s'.out = s.out ++ es) (hes : ∀ e ∈ es, e.signal? = none) :
    Supervised s s' := by
  refine supervised_of_eq hd hk ?_
  rw [State.signals, hout, List.filterMap_append, List.filterMap_eq_nil_iff.2 hes,
    List.append_nil]
  rfl

lemma Talk.tends (h : Talk s s') (hs : s.Idle) : Tends s s' := by
  obtain ⟨es, hout, htalk⟩ := h.out
  refine ⟨fun d hd => hs d (h.displays ▸ hd), supervised_sends h.displays h.kernel hout ?_⟩
  intro e he
  cases e with
  | kill pid signal => exact nomatch htalk _ he
  | _ => rfl

/-- The display that `MANAGE` replaces is stopped. -/
lemma tends_terminated (hs : s.Sound [] none) (hidle : s.Idle) (name : Str) :
    Tends s (s.terminated name) := by
  unfold State.terminated
  split
  · next d hd =>
    exact ⟨idle_stopped hidle d, supervised_stopped hs (List.mem_of_find?_eq_some hd)⟩
  · exact ⟨hidle, .refl s⟩

/-- What `manage` does to the state besides stopping the old display and starting the new one. -/
lemma tends_enter {v : State} {x : Display} (hs : s.Sound [] none) (hidle : s.Idle)
    (hd : v.displays = x :: s.displays) (hk : v.kernel = s.kernel) (ho : v.out = s.out)
    (hproc : ∀ r, x.proc r = -1) (hstatus : x.status = .notRunning) : Tends s v := by
  have henter : Tends s (s.enter x) := ⟨hidle.enter (hproc .session),
    supervised_enter hs hproc (by simp [Display.Parting, hstatus])⟩
  refine ⟨fun d hmem => ?_, henter.2.trans ?_⟩
  · rw [hd] at hmem
    exact henter.1 d hmem
  exact supervised_of_eq hd hk (by rw [State.signals, ho]; rfl)

lemma State.askedChooser_same (t : State) (w : World) (addr : ARRAY8) (connectionType : CARD16) :
    (t.askedChooser w addr connectionType).kernel = t.kernel ∧
      (t.askedChooser w addr connectionType).out = t.out := by
  unfold State.askedChooser State.askedChoice
  dsimp only
  split_ifs <;> exact ⟨rfl, rfl⟩

@[simp] lemma State.askedChooser_nextAddr (t : State) (w : World) (addr : ARRAY8)
    (connectionType : CARD16) : (t.askedChooser w addr connectionType).nextAddr = t.nextAddr := by
  unfold State.askedChooser State.askedChoice
  dsimp only
  split_ifs <;> rfl

lemma tends_startManaged {fd : Int} {sender : Netaddr} {m : Manage} {pdpy : ProtoDisplay}
    (hs : s.Sound [] none) (hidle : s.Idle) :
    Wlp (startManaged w fd sender m pdpy) (fun _ s' => Tends s s') s := by
  intro _ s' hrun
  obtain ⟨q, v, hpath, hq⟩ := managePath_of_run hs hrun
  have hfailed : ∀ {u : State} (text : Str), Tends s u → Tends s (u.failed sender m text) :=
    fun text hu => ⟨hu.1, hu.2.trans (supervised_emit _ rfl)⟩
  have hdone : ∀ {u : State}, Tends s u → (pure () : M Unit) u = some ((), s') → Tends s s' := by
    intro u hu hq
    obtain ⟨-, rfl⟩ := Prod.mk.inj (Option.some.inj hq)
    exact hu
  cases hpath with
  | noName _ => exact hdone (hfailed _ ⟨hidle, .refl s⟩) hq
  | noMemory name _ _ => exact hdone (hfailed _ (tends_terminated hs hidle name)) hq
  | leaked name _ _ _ =>
    have ht := tends_terminated hs hidle name
    have hsame := State.askedChooser_same (s.terminated name) w (clientAddress sender.sa).1
      (clientAddress sender.sa).2.2
    have hleaked := tends_enter (v := (s.terminated name).leaked w fd sender m pdpy name)
      (hs.terminated name) ht.1
      (congrArg (_ :: ·) (State.askedChooser_displays ..)) hsame.1 hsame.2
      (by rintro (_ | _) <;> rfl) rfl
    exact hdone (hfailed _ ⟨hleaked.1, ht.2.trans hleaked.2⟩) hq
  | ready name _ _ _ =>
    have ht := tends_terminated hs hidle name
    have hsame := State.askedChooser_same (s.terminated name) w (clientAddress sender.sa).1
      (clientAddress sender.sa).2.2
    have hready := tends_enter (v := (s.terminated name).ready w fd sender m pdpy name)
      (hs.terminated name) ht.1
      (congrArg (_ :: ·) (State.askedChooser_displays ..)) hsame.1 hsame.2
      (by rintro (_ | _) <;> rfl) rfl
    have hsound : ((s.terminated name).ready w fd sender m pdpy name).Sound [] none := by
      have hsettled : ((s.terminated name).settled w sender pdpy).Sound [] none :=
        (hs.terminated name).congr (State.settled_displays ..) (congrArg _ hsame.1)
          (Nat.le_of_eq (State.askedChooser_nextAddr ..).symm)
      exact hsettled.cons (State.askedChooser_nextAddr ..).symm
        ⟨nofun, nofun, nofun⟩ (by rintro (_ | _) <;> rfl)
    refine tends_startDisplay w ⟨hsound, hready.1, ⟨_, List.mem_cons_self, ?_⟩, ?_⟩
      (ht.2.trans hready.2) _ _ hq
    · exact State.terminated_nextAddr s name
    · refine hsound.where_of_mem List.mem_cons_self ?_ rfl
      exact State.terminated_nextAddr s name

lemma kept_answerManage {fd : Int} {sender : Netaddr} {m : Manage} (hs : Kept [] s) :
    Wlp (answerManage w fd sender m) (fun _ s' => Tends s s') s := by
  have hrefuse : Tends s { s with out := s.out ++ [.send sender.sa (.refuse m.sessionID)] } :=
    ⟨hs.2, supervised_emit s rfl⟩
  unfold answerManage
  rw [wlp_bind, wlp_get]
  split
  · refine wlp_ite (fun _ => tends_startManaged hs.1 hs.2) fun _ => ?_
    simpa only [sendRefuse, emit, wlp_modify] using hrefuse
  · split
    · refine wlp_ite (fun _ => (wlp_pure _ _ _).2 ⟨hs.2, .refl s⟩) fun _ => ?_
      simpa only [sendRefuse, emit, wlp_modify] using hrefuse
    · simpa only [sendRefuse, emit, wlp_modify] using hrefuse

lemma kept_startDisplays (w : World) : Keeps (Kept []) Supervised (startDisplays w) :=
  keeps_forEachDisplay (kept_checkDisplayStatus w)

lemma kept_operation {i : Input} (hi : i.inOneGo = true) :
    Keeps (Kept []) Supervised i.operation := by
  cases i with
  | startUp w =>
    exact Keeps.bind (kept_loadConfig w) fun _ => Keeps.bind (kept_loadDatabase w) fun _ =>
      Keeps.bind (keeps_scanServers_of w kept_parseDisplay) fun _ => kept_startDisplays w
  | rescanServers w =>
    exact Keeps.bind (keeps_forEachDisplay kept_markDisplay) fun _ =>
      Keeps.bind (kept_loadConfig w) fun _ =>
        Keeps.bind (keeps_scanServers_of w kept_parseDisplay) fun _ =>
          Keeps.bind (kept_loadDatabase w) fun _ => kept_startDisplays w
  | addDisplay w =>
    exact Keeps.bind (keeps_untilDisplay (kept_addDynamicDisplay w)) fun _ => Keeps.pure _
  | startDisplays w => exact kept_startDisplays w
  | stopAll => exact keeps_forEachDisplay kept_stopDisplay
  | waitForChild w exits => cases hi
  | registerIndirectChoice w addr connectionType choice =>
    intro s hs
    refine (wlp_modify _ _ _).2 ?_
    have hsame : ∀ choices : List Choice, Kept [] { s with choices := choices } := fun _ =>
      ⟨hs.1.congr rfl rfl (Nat.le_refl _), hs.2⟩
    split <;> exact ⟨hsame _, supervised_of_eq rfl rfl rfl⟩
  | datagram w fd sender bytes =>
    intro s hs
    suffices htends : Wlp (Input.datagram w fd sender bytes).operation (fun _ s' => Tends s s') s
      from ((sound_operation (.datagram w fd sender bytes) hs.1).and htends).mono
        fun _ s' h => ⟨⟨h.1, h.2.1⟩, h.2.2⟩
    cases hr : requestIn bytes with
    | some r =>
      have hrequest : (Input.datagram w fd sender bytes).request? = some (w, sender, r) := by
        rw [Input.request?, hr, Option.map_some]
      rw [operation_of_request hrequest]
      refine wlp_answerRequest.mono fun _ t h => ?_
      have hu := h.undisturbed
      obtain ⟨es, hout, hes⟩ := hu.out
      refine ⟨fun d hd => hs.2 d (hu.displays ▸ hd),
        supervised_sends hu.displays hu.kernel hout fun e he => ?_⟩
      obtain ⟨dest, message, rfl⟩ := hes e he
      rfl
    | none =>
      cases hm : manageIn bytes with
      | none =>
        exact (talks_processRequestSocket w fd sender hr hm s trivial).mono fun _ _ h =>
          h.2.tends hs.2
      | some m =>
        change Wlp (processRequestSocket w fd sender bytes) _ s
        rw [processRequestSocket_manage w fd sender hm]
        exact kept_answerManage hs

/-! ### Runs -/

/-- What an action has done are the acts.  Its beginning does nothing; where a child is waited
for, this comes first, and nothing is asked of the kernel any more. -/
def Action.Performs (s : State) (acts : List (Supervisor.Act Pid Int)) (s' : State) :
    Action → Prop
  | .begins i => acts = [] ∧ s' = s.begin i
  | .operation _ => Does s acts s'
  | .child e => ∃ rest, acts = .collect e.pid :: rest ∧ Does (s.reaped e.pid) rest s' ∧
      s'.kernel = (s.reaped e.pid).kernel

/-- One action: it keeps the invariant, and the supervisor can follow. -/
lemma kept_action {x : Action} (hs : Kept [] s) (ht : StandsFor s t)
    (hstep : x.perform s = some ((), s')) :
    Kept [] s' ∧ ∃ acts t', Lts.Path Supervisor.Step t acts t' ∧ StandsFor s' t' ∧
      x.Performs s acts s' := by
  cases x with
  | begins i =>
    obtain ⟨-, rfl⟩ := Prod.mk.inj (Option.some.inj hstep)
    exact ⟨⟨hs.1.begin i, hs.2⟩, [], t, .nil t, ht.of_eq rfl rfl, rfl, rfl⟩
  | operation i =>
    obtain ⟨hs', hsup⟩ := kept_operation i.property s hs _ _ hstep
    exact ⟨hs', hsup t ht⟩
  | child e =>
    obtain ⟨hchild, hs', hsup, hkernel⟩ := kept_childEnded e hs _ _ hstep
    obtain ⟨rest, t', hpath, ht', hdoes⟩ := hsup _ (ht.collect rfl)
    exact ⟨hs', _, t', .cons (.collect ((ht.children _).2 hchild)) hpath, ht',
      rest, rfl, hdoes, hkernel⟩

/-- The signals that an action has sent. -/
def newSignals (x : Prog.Step State Action) : List (Pid × Int) :=
  x.post.signals.drop x.pre.signals.length

lemma Action.Performs.newSignals {x : Action} {acts : List (Supervisor.Act Pid Int)}
    (h : x.Performs s acts s') : newSignals ⟨s, x, s'⟩ = acts.flatMap actSignals := by
  cases x with
  | begins i =>
    obtain ⟨rfl, rfl⟩ := h
    exact List.drop_nil
  | operation i => rw [Xdm.newSignals, Does.signals h, List.drop_left]
  | child e =>
    obtain ⟨rest, rfl, hdoes, -⟩ := h
    rw [Xdm.newSignals, hdoes.signals]
    exact List.drop_left

lemma standsFor_initial (config : Config) (g : Nat) :
    StandsFor (State.initial config g) Supervisor.idle where
  children := fun _ => iff_of_false id List.not_mem_nil
  owned := fun _ => iff_of_false id fun h => List.not_mem_nil h.1
  told := fun _ hd => absurd hd List.not_mem_nil

/-- A supervisor goes along with the daemon: it stands for it before and after every action, and
what the action does are the acts of its path in between. -/
inductive Supervises : List (Prog.Step State Action) → Supervisor Pid → Prop
  | idle : Supervises [] Supervisor.idle
  | action {h : List (Prog.Step State Action)} {x : Prog.Step State Action}
      {acts : List (Supervisor.Act Pid Int)} {t t' : Supervisor Pid} :
      Supervises h t → StandsFor x.pre t → Lts.Path Supervisor.Step t acts t' →
        x.input.Performs x.pre acts x.post → StandsFor x.post t' → Supervises (h ++ [x]) t'

lemma supervised_run {h : List (Step State Action)} (run : ActionRun config g h s) :
    Kept [] s ∧ ∃ t, Supervises h t ∧ StandsFor s t := by
  refine run.invariant_of (C := fun _ => True)
    (I := fun h s => Kept [] s ∧ ∃ t, Supervises h t ∧ StandsFor s t) ?_ ?_ fun _ _ => trivial
  · exact ⟨⟨run_sound .nil, fun d hd => absurd hd List.not_mem_nil⟩, _, .idle,
      standsFor_initial config g⟩
  · rintro h s x s' - ⟨hs, t, hsup, ht⟩ hstep -
    obtain ⟨hs', acts, t', hpath, ht', hperforms⟩ := kept_action hs ht hstep
    exact ⟨hs', t', .action hsup ht hpath hperforms ht', ht'⟩

/-- The daemon is a supervisor: whatever it does, in any order, is what a supervisor of the
processes of its displays may do. -/
theorem daemon_supervises {h : List (Step State Action)} (run : ActionRun config g h s) :
    ∃ t, Supervises h t ∧ StandsFor s t :=
  (supervised_run run).2

/-- A daemon with one local display is stopped: its session and its server are asked to end. -/
theorem daemon_supervises_stopped : ∃ h s t, ActionRun Config.plain 0 h s ∧
    (h.map newSignals).flatten = [(11, sigterm), (11, sigcont), (10, sigterm), (10, sigcont)] ∧
    s.kernel.children = [11, 10] ∧ Supervises h t ∧ StandsFor s t := by
  obtain ⟨h, s, run, hsignals, hchildren⟩ : ∃ h s, ActionRun Config.plain 0 h s ∧
      (h.map newSignals).flatten =
        [(11, sigterm), (11, sigcont), (10, sigterm), (10, sigcont)] ∧
      s.kernel.children = [11, 10] :=
    exists_run_of_exec ((Input.startUp World.solo).actions ++ Input.stopAll.actions)
      (by decide +kernel)
  obtain ⟨t, hsup, ht⟩ := daemon_supervises run
  exact ⟨h, s, t, run, hsignals, hchildren, hsup, ht⟩

end Xdm
