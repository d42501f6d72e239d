/-
# The life cycle of a display

Every operation keeps `State.Sound`, and only `MANAGE` makes an XDMCP session.  There is
one lemma for each function of `xdm/dm.c`, `xdm/server.c`, `xdm/file.c` and
`xdm/dpylist.c`; those about the end of a child pass through states in which the display
concerned is `busy`.
-/
import Xdm.Sound

namespace Xdm

open Prog

variable {dead : List Pid} {busy : Option Nat} {s s₀ : State} {a : Nat}

/-! ### Stores and reads -/

/-- What is known of the display at `a`. -/
def State.Where (s : State) (a : Nat) (P : Display → Prop) : Prop :=
  ∀ d ∈ s.displays, d.addr = a → P d

lemma State.Sound.where_of_mem {d : Display} {P : Display → Prop} (h : s.Sound dead busy)
    (hd : d ∈ s.displays) (ha : d.addr = a) (hP : P d) : s.Where a P := by
  intro x hx hxa
  rwa [h.distinct.eq_of_mem hx hd (hxa.trans ha.symm)]

lemma wlp_readDisplay {Q : Display → State → Prop}
    (h : ∀ d ∈ s.displays, d.addr = a → Q d s) : Wlp (readDisplay a) Q s := by
  unfold readDisplay
  simp only [wlp_bind, wlp_get]
  split
  · next d hd => simpa using h d (Keyed.mem_of_find hd) (Keyed.key_of_find hd)
  · simp

/-- A store goes to the display, or to freed memory. -/
lemma wlp_writeDisplay {f : Display → Display} {Q : Unit → State → Prop}
    (h : Q () (s.write a f))
    (hfreed : s.Where a (fun _ => False) → Q () { s with out := s.out ++ [.writeFreed a] }) :
    Wlp (writeDisplay a f) Q s := by
  unfold writeDisplay
  simp only [wlp_bind, wlp_get]
  split
  · simpa [State.write] using h
  · next hnone =>
    simpa [emit] using hfreed fun d hd hda => Keyed.find_eq_none.1 hnone d hd hda

lemma wlp_removeDisplay {Q : Unit → State → Prop} (h : Q () (s.remove a))
    (hnone : s.Where a (fun _ => False) → Q () s) : Wlp (removeDisplay a) Q s := by
  unfold removeDisplay
  simp only [wlp_bind, wlp_get]
  split
  · simpa [State.remove] using h
  · next hn => simpa using hnone fun d hd hda => Keyed.find_eq_none.1 hn d hd hda

/-- Stores that concern neither processes, status and type nor the XDMCP session. -/
structure Bookkeeping (f : Display → Display) : Prop where
  addr : ∀ d, (f d).addr = d.addr
  name : ∀ d, (f d).name = d.name
  displayType : ∀ d, (f d).displayType = d.displayType
  status : ∀ d, (f d).status = d.status
  pid : ∀ d, (f d).pid = d.pid
  serverPid : ∀ d, (f d).serverPid = d.serverPid
  sessionID : ∀ d, (f d).sessionID = d.sessionID
  fromAddr : ∀ d, (f d).fromAddr = d.fromAddr
  displayNumber : ∀ d, (f d).displayNumber = d.displayNumber
  authorizations : ∀ d, (f d).authorizations = d.authorizations

namespace Bookkeeping

variable {f : Display → Display}

lemma proc (hf : Bookkeeping f) (d : Display) (r : Role) : (f d).proc r = d.proc r := by
  cases r
  · exact hf.pid d
  · exact hf.serverPid d

lemma ok (hf : Bookkeeping f) {d : Display} (hd : d.Ok) : (f d).Ok := by
  obtain ⟨h₁, h₂, h₃⟩ := hd
  exact ⟨by rwa [hf.status, hf.serverPid], by rwa [hf.status, hf.serverPid],
    by rwa [hf.status, hf.pid]⟩

lemma successor (hf : Bookkeeping f) (d : Display) : d.Successor (f d) where
  addr := hf.addr d
  zombie := by rw [hf.status]; exact id
  session := by
    rw [hf.displayType]
    exact fun ho => ⟨ho, hf.name d, hf.sessionID d, hf.fromAddr d, hf.displayNumber d,
      hf.authorizations d⟩

lemma sound (hf : Bookkeeping f) (h : s.Sound dead busy) : (s.write a f).Sound dead busy :=
  h.write (fun _ hb _ => hb) hf.addr
    (fun hb d hd hda => hf.ok (h.ok d hd (by rwa [hda])))
    (fun d _ _ r => Or.inr (hf.proc d r))

end Bookkeeping

/-- The invariant of the functions below, with what is known of the display at `a`. -/
abbrev SoundWhere (dead : List Pid) (busy : Option Nat) (a : Nat) (P : Display → Prop)
    (s : State) : Prop := s.Sound dead busy ∧ s.Where a P

lemma State.Sound.emit (h : s.Sound dead busy) (es : List Event) :
    State.Sound dead busy { s with out := s.out ++ es } :=
  h.congr rfl rfl (Nat.le_refl _)

lemma Quiet.emit (s : State) {e : Event} (he : e.isQuiet = true) :
    Quiet s { s with out := s.out ++ [e] } :=
  Quiet.of_eq rfl rfl rfl rfl ⟨[e], rfl, by simpa using he⟩

lemma keeps_emit {P : Display → Prop} {e : Event} (he : e.isQuiet = true) :
    Keeps (SoundWhere dead busy a P) Quiet (emit e) :=
  Keeps.modify fun s hs => ⟨⟨hs.1.emit [e], hs.2⟩, Quiet.emit s he⟩

lemma keeps_writeDisplay {P : Display → Prop} {f : Display → Display} (hf : Bookkeeping f)
    (hP : ∀ d, P d → P (f d)) : Keeps (SoundWhere dead busy a P) Quiet (writeDisplay a f) := by
  rintro s ⟨hs, hw⟩
  refine wlp_writeDisplay ⟨⟨hf.sound hs, ?_⟩, Quiet.write fun d _ _ => hf.successor d⟩
    fun _ => ⟨⟨hs.emit _, hw⟩, Quiet.emit s rfl⟩
  intro d hd hda
  rcases State.mem_write.1 hd with ⟨x, hx, hxa, rfl⟩ | ⟨-, hne⟩
  · exact hP x (hw x hx hxa)
  · exact absurd hda hne

lemma keeps_terminateProcess {P : Display → Prop} (pid : Pid) (signal : Int) :
    Keeps (SoundWhere dead busy a P) Quiet (terminateProcess pid signal) :=
  Keeps.bind (keeps_emit rfl) fun _ => keeps_emit rfl

/-- Nothing need be known of the display. -/
lemma keeps_anywhere {α : Type} {m : M α}
    (h : Keeps (SoundWhere dead busy a fun _ => True) Quiet m) :
    Keeps (State.Sound dead busy) Quiet m :=
  fun s hs => (h s ⟨hs, fun _ _ _ => trivial⟩).mono fun _ _ hs' => ⟨hs'.1.1, hs'.2⟩

/-- A busy display that has gone. -/
lemma State.Sound.unbusy (h : s.Sound dead (some a)) (hnone : s.Where a fun _ => False) :
    s.Sound dead none :=
  { h with ok := fun d hd _ => h.ok d hd fun hda => hnone d hd (Option.some.inj hda).symm }

/-! ### Stopping and restarting -/

/-- Storing a status that fits the processes of the display. -/
lemma wlp_setStatus {status : DisplayStatus} (h : s.Sound dead (some a)) (h₀ : Quiet s₀ s)
    (hz : s.Where a fun d => d.status = .zombie → status = .zombie)
    (hok : s.Where a fun d => Display.Ok { d with status := status }) :
    Wlp (writeDisplay a fun d => { d with status := status })
      (fun _ s' => s'.Sound dead none ∧ Quiet s₀ s') s := by
  refine wlp_writeDisplay ⟨?_, h₀.trans ?_⟩ fun hnone => ⟨?_, h₀.trans (Quiet.emit s rfl)⟩
  · exact h.write (by simp +contextual) (fun _ => rfl)
      (fun _ => hok) (fun d _ _ r => Or.inr (by cases r <;> rfl))
  · exact Quiet.write fun d hd hda =>
      ⟨rfl, hz d hd hda, fun ho => ⟨ho, rfl, rfl, rfl, rfl, rfl⟩⟩
  · exact (h.unbusy hnone).emit _

lemma wlp_stopDisplay (h : s.Sound dead (some a)) (h₀ : Quiet s₀ s) :
    Wlp (stopDisplay a) (fun _ s' => s'.Sound dead none ∧ Quiet s₀ s') s := by
  unfold stopDisplay
  simp only [wlp_bind]
  refine wlp_readDisplay fun d hd hda => ?_
  by_cases hserver : d.serverPid = -1
  · -- no server: the display goes, and with it the only one that may be unsound
    have hremove : ∀ t, t.Sound dead (some a) → Quiet s₀ t →
        Wlp (removeDisplay a) (fun _ s' => s'.Sound dead none ∧ Quiet s₀ s') t := by
      intro t ht hq
      exact wlp_removeDisplay ⟨ht.remove (by simp +contextual), hq.trans (Quiet.remove t a)⟩
        fun hnone => ⟨ht.unbusy hnone, hq⟩
    by_cases hpid : d.pid = -1
    · simpa [hserver, hpid] using hremove s h h₀
    · simp only [hserver, hpid, ne_eq, not_true_eq_false, not_false_eq_true, if_true, if_false]
      exact (keeps_anywhere (a := a) (keeps_terminateProcess _ _)).seq h h₀
        fun _ t ht hq => hremove t ht hq
  · -- with a server it becomes a zombie, which is sound
    have hterm : ∀ t, t.Sound dead none → Quiet s₀ t →
        Wlp (if d.pid ≠ -1 then do
            terminateProcess d.pid sigterm
            terminateProcess d.serverPid d.resources.termSignal
          else terminateProcess d.serverPid d.resources.termSignal)
          (fun _ s' => s'.Sound dead none ∧ Quiet s₀ s') t := by
      intro t ht hq
      have hlast : ∀ t, t.Sound dead none → Quiet s₀ t →
          Wlp (terminateProcess d.serverPid d.resources.termSignal)
            (fun _ s' => s'.Sound dead none ∧ Quiet s₀ s') t := fun t ht hq =>
        (keeps_anywhere (a := a) (keeps_terminateProcess _ _)).last ht hq
      refine wlp_ite (fun _ => ?_) fun _ => hlast t ht hq
      exact (keeps_anywhere (a := a) (keeps_terminateProcess _ _)).seq ht hq
        fun _ t ht hq => hlast t ht hq
    simp only [hserver, ne_eq, not_false_eq_true, if_true, wlp_bind]
    refine (wlp_setStatus h h₀ (fun _ _ _ _ => rfl) ?_).mono fun _ t ht => hterm t ht.1 ht.2
    exact h.where_of_mem hd hda ⟨fun _ => hserver, by simp, by simp⟩

lemma wlp_restartDisplay (h : s.Sound dead (some a)) (h₀ : Quiet s₀ s)
    (hz : s.Where a fun d => d.status ≠ .zombie) (forceReserver : Bool) :
    Wlp (restartDisplay a forceReserver)
      (fun _ s' => s'.Sound dead none ∧ Quiet s₀ s') s := by
  unfold restartDisplay
  rw [wlp_bind]
  refine wlp_readDisplay fun d hd hda => wlp_ite (fun hc => ?_) fun _ => ?_
  · have hw : s.Where a fun d => d.status ≠ .zombie ∧ d.serverPid ≠ -1 :=
      h.where_of_mem hd hda ⟨hz d hd hda, hc.1⟩
    refine (keeps_terminateProcess _ _).seq ⟨h, hw⟩ h₀ fun _ t ⟨ht, htw⟩ hq => ?_
    exact wlp_setStatus ht hq (fun x hx hxa hxz => absurd hxz (htw x hx hxa).1)
      fun x hx hxa => ⟨by simp, fun _ => (htw x hx hxa).2, by simp⟩
  · exact wlp_setStatus h h₀ (fun x hx hxa hxz => absurd hxz (hz x hx hxa))
      fun x _ _ => ⟨by simp, by simp, by simp⟩

/-! ### Forking -/

lemma pid_ne {p : Pid} (hp : 0 < p) : p ≠ -1 := by
  rintro rfl
  exact absurd hp (by decide)

/-- `fork` takes the next answer of the kernel. -/
lemma wlp_fork_answer {Q : Option Pid → State → Prop}
    (hnone : ∀ forks, s.kernel.forks = none :: forks →
      Q none { s with kernel := { s.kernel with forks := forks } })
    (hsome : ∀ p forks, 0 < p → p ∉ s.kernel.children → s.kernel.forks = some p :: forks →
      Q (some p) { s with kernel := { s.kernel with
        forks := forks, children := p :: s.kernel.children } }) : Wlp fork Q s := by
  unfold fork
  rw [wlp_bind, wlp_get]
  split
  · simp
  · next forks hforks =>
    simp only [wlp_bind, wlp_set, wlp_pure]
    exact hnone forks hforks
  · next p forks hforks =>
    refine wlp_ite (fun hc => ?_) fun _ => by simp
    simp only [wlp_bind, wlp_set, wlp_pure]
    exact hsome p forks hc.1 hc.2 hforks

lemma wlp_fork {Q : Option Pid → State → Prop}
    (hnone : ∀ k, k.children = s.kernel.children → Q none { s with kernel := k })
    (hsome : ∀ k p, 0 < p → p ∉ s.kernel.children → k.children = p :: s.kernel.children →
      Q (some p) { s with kernel := k }) : Wlp fork Q s :=
  wlp_fork_answer (fun _ _ => hnone _ rfl) fun p _ hp hnew _ => hsome _ p hp hnew rfl

/-- `serverPause` takes the next answer of the kernel: the server has died or it has not. -/
lemma wlp_serverPause_answer {p : Pid} {Q : Bool → State → Prop}
    (halive : ∀ pauses, s.kernel.pauses = false :: pauses →
      Q false { s with kernel := { s.kernel with pauses := pauses } })
    (hdead : ∀ pauses, s.kernel.pauses = true :: pauses →
      Q true { s with kernel := { s.kernel with
        pauses := pauses, children := s.kernel.children.filter (· ≠ p) } }) :
    Wlp (serverPause p) Q s := by
  unfold serverPause
  rw [wlp_bind, wlp_get]
  split
  · simp
  · next dead pauses hpauses =>
    simp only [wlp_bind, wlp_set]
    cases dead
    · simp only [Bool.false_eq_true, if_false, wlp_pure]
      exact halive pauses hpauses
    · simp only [if_true, wlp_bind, reap, wlp_modify, wlp_pure]
      exact hdead pauses hpauses

lemma wlp_serverPause {p : Pid} {Q : Bool → State → Prop}
    (halive : ∀ k, k.children = s.kernel.children → Q false { s with kernel := k })
    (hdead : ∀ k, k.children = s.kernel.children.filter (· ≠ p) →
      Q true { s with kernel := k }) : Wlp (serverPause p) Q s :=
  wlp_serverPause_answer (fun _ _ => halive _ rfl) fun _ _ => hdead _ rfl

namespace State.Sound

lemma setKernel {k : Kernel} (h : s.Sound dead busy)
    (hk : ∀ p ∈ s.kernel.children, p ∈ k.children) (hpos : ∀ p ∈ k.children, 0 < p) :
    State.Sound dead busy { s with kernel := k } :=
  { h with
    positive := hpos
    child := fun d hd r hr => (List.mem_append.1 (h.child d hd r hr)).elim
      (List.mem_append_left _) fun hc => List.mem_append_right _ (hk _ hc) }

lemma forked {k : Kernel} {p : Pid} (h : s.Sound dead busy) (hp : 0 < p)
    (hk : k.children = p :: s.kernel.children) :
    State.Sound dead busy { s with kernel := k } := by
  refine h.setKernel (fun q hq => by simp [hk, hq]) fun q hq => ?_
  rcases List.mem_cons.1 (hk ▸ hq) with rfl | hq
  · exact hp
  · exact h.positive q hq

/-- A child that was not there before has no display. -/
lemma unowned {p : Pid} (h : s.Sound [] busy) (hp : 0 < p) (hnew : p ∉ s.kernel.children) :
    ∀ d ∈ s.displays, ∀ r, d.proc r ≠ p := by
  rintro d hd r rfl
  exact hnew (by simpa using h.child d hd r (pid_ne hp))

end State.Sound

/-! ### Starting a server -/

/-- The state if the display at `a` had no server. -/
abbrev State.noServer (s : State) (a : Nat) : State :=
  s.write a fun d => { d with serverPid := -1 }

lemma Quiet.setKernel (s : State) (k : Kernel) : Quiet s { s with kernel := k } :=
  Quiet.of_eq rfl rfl rfl rfl ⟨[], by simp⟩

/-- What `StartServer` leaves.  If it has failed the display may have the process id of a
dead server. -/
def ServerStarted (a : Nat) (s₀ : State) (started : Bool) (s : State) : Prop :=
  (if started then s.Sound [] none else (s.noServer a).Sound [] none) ∧
    Quiet s₀ s ∧ s.Where a fun d => d.status = .notRunning

lemma wlp_startServerOnce {d : Display} (h : (s.noServer a).Sound [] none) (h₀ : Quiet s₀ s)
    (hidle : s.Where a fun d => d.status = .notRunning) (hd : d ∈ s.displays)
    (hda : d.addr = a) : Wlp (startServerOnce a) (ServerStarted a s₀) s := by
  unfold startServerOnce
  rw [wlp_bind]
  refine wlp_fork (fun k hk => ?_) fun k p hp hnew hk => ?_
  · rw [wlp_pure]
    exact ⟨h.congr rfl hk (Nat.le_refl _), h₀.trans (Quiet.setKernel s k), hidle⟩
  set t : State := { s with kernel := k } with ht
  have hquiet : Quiet s₀ (t.write a fun d => { d with serverPid := p }) :=
    (h₀.trans (Quiet.setKernel s k)).trans
      (Quiet.write fun d _ _ => ⟨rfl, id, fun ho => ⟨ho, rfl, rfl, rfl, rfl, rfl⟩⟩)
  have hwhere : (t.write a fun d => { d with serverPid := p }).Where a
      fun d => d.status = .notRunning := by
    intro x hx hxa
    rcases State.mem_write.1 hx with ⟨y, hy, hya, rfl⟩ | ⟨-, hne⟩
    · exact hidle y hy hya
    · exact absurd hxa hne
  have hdrop : (t.write a fun d => { d with serverPid := p }).noServer a = t.noServer a :=
    State.write_write _ _ _ _ fun _ => rfl
  simp only [wlp_bind]
  refine wlp_writeDisplay ?_ fun hnone => absurd hda (hnone d hd)
  refine wlp_serverPause (fun k' hk' => ?_) fun k' hk' => ?_
  · -- the server is up: its pid is a child that no display has had
    rw [if_neg (by simp), wlp_pure]
    refine ⟨?_, hquiet.trans (Quiet.setKernel _ _), hwhere⟩
    have hnew' := h.unowned hp (by simpa using hnew)
    have hs : ((t.noServer a).write a fun d => { d with serverPid := p }).Sound [] none := by
      have hforked : (t.noServer a).Sound [] none := h.forked hp hk
      refine hforked.assign (k := .server) (p := p) (by simp)
        (Or.inr ⟨by simp [ht, hk], hnew'⟩) (fun _ => rfl)
        (fun _ d hd _ => ?_) fun d _ _ r => ?_
      · have hok := hforked.ok d hd (by simp)
        exact ⟨fun _ => pid_ne hp, fun _ => pid_ne hp, hok.running⟩
      · cases r
        · exact Or.inr (Or.inl rfl)
        · exact Or.inr (Or.inr ⟨rfl, rfl⟩)
    have hfill : (t.noServer a).write a (fun d => { d with serverPid := p }) =
        t.write a fun d => { d with serverPid := p } :=
      State.write_write _ _ _ _ fun _ => rfl
    rw [hfill] at hs
    exact hs.congr rfl hk' (Nat.le_refl _)
  · -- the server has died and been waited for
    rw [if_pos rfl, wlp_pure]
    refine ⟨?_, hquiet.trans (Quiet.setKernel _ _), hwhere⟩
    have hdisplays := congrArg State.displays hdrop
    have hfilter : s.kernel.children.filter (· ≠ p) = s.kernel.children :=
      List.filter_eq_self.2 fun q hq => by simpa using fun hqp : q = p => hnew (hqp ▸ hq)
    refine h.congr hdisplays (hk'.trans ?_) (Nat.le_refl _)
    change k.children.filter (· ≠ p) = s.kernel.children
    rw [hk, List.filter_cons_of_neg (by simp), hfilter]

lemma wlp_startServerLoop (n : Nat) : ∀ {s : State} (i : Int), (s.noServer a).Sound [] none →
    Quiet s₀ s → (s.Where a fun d => d.status = .notRunning) →
    Wlp (startServerLoop a n i) (ServerStarted a s₀) s := by
  induction n with
  | zero => intro s i _ _ _; exact (wlp_failure _ _).2 trivial
  | succ n ih =>
    intro s i h h₀ hidle
    unfold startServerLoop
    rw [wlp_bind]
    refine wlp_readDisplay fun d hd hda => wlp_ite (fun _ => ?_) fun _ => ?_
    · rw [wlp_bind]
      refine (wlp_startServerOnce h h₀ hidle hd hda).mono fun started t ht => ?_
      cases started
      · exact ih (i + 1) ht.1 ht.2.1 ht.2.2
      · exact (wlp_pure _ _ _).2 ht
    · exact (wlp_pure _ _ _).2 ⟨h, h₀, hidle⟩

/-! ### Starting a display -/

lemma wlp_startSession (h : s.Sound [] none) (h₀ : Quiet s₀ s)
    (hidle : s.Where a fun d => d.status = .notRunning) :
    Wlp (startDisplay.startSession a) (fun _ s' => s'.Sound [] none ∧ Quiet s₀ s') s := by
  unfold startDisplay.startSession
  rw [wlp_bind]
  refine wlp_fork (fun k hk => ?_) fun k p hp hnew hk => ?_
  · exact (wlp_pure _ _ _).2
      ⟨h.congr rfl hk (Nat.le_refl _), h₀.trans (Quiet.setKernel s k)⟩
  have hforked := h.forked hp hk
  have hquiet := h₀.trans (Quiet.setKernel s k)
  refine wlp_writeDisplay ⟨?_, hquiet.trans ?_⟩ fun _ =>
    ⟨hforked.emit _, hquiet.trans (Quiet.emit _ rfl)⟩
  · refine hforked.assign (k := .session) (p := p) (by simp)
      (Or.inr ⟨by simp [hk], h.unowned hp hnew⟩) (fun _ => rfl)
      (fun _ d _ _ => ?_) fun d _ _ r => ?_
    · exact ⟨by simp, by simp, fun _ => pid_ne hp⟩
    · cases r
      · exact Or.inr (Or.inr ⟨rfl, rfl⟩)
      · exact Or.inr (Or.inl rfl)
  · exact Quiet.write fun d hd hda => ⟨rfl, fun hz => absurd hz (by simp [hidle d hd hda]),
      fun ho => ⟨ho, rfl, rfl, rfl, rfl, rfl⟩⟩

lemma wlp_startDisplay (w : World) (h : s.Sound [] none) (h₀ : Quiet s₀ s)
    (hidle : s.Where a fun d => d.status = .notRunning) :
    Wlp (startDisplay w a) (fun _ s' => s'.Sound [] none ∧ Quiet s₀ s') s := by
  unfold startDisplay
  have hbook : Bookkeeping fun d => { d with
      resources := w.serverResources d.name d.className } := by
    constructor <;> intro _ <;> rfl
  refine (keeps_writeDisplay hbook fun _ => id).seq ⟨h, hidle⟩ h₀ fun _ t ⟨ht, hw⟩ hq => ?_
  -- the server has failed to start: no display is left to have its pid
  have hgone : ∀ u : State, (u.noServer a).Sound [] none → Quiet s₀ u →
      Wlp (removeDisplay a) (fun _ s' => s'.Sound [] none ∧ Quiet s₀ s') u := by
    intro u hu hq
    have herase : ((u.noServer a).remove a).displays = (u.remove a).displays :=
      Keyed.erase_modify fun _ => rfl
    refine wlp_removeDisplay ⟨?_, hq.trans (Quiet.remove u a)⟩ fun hnone => ⟨?_, hq⟩
    · exact (hu.remove (by simp)).congr herase.symm rfl (Nat.le_refl _)
    · exact hu.congr (Keyed.modify_of_absent fun d hd hda => hnone d hd hda).symm rfl
        (Nat.le_refl _)
  have hserver : ∀ d ∈ t.displays, d.addr = a → ∀ u : State, u.Sound [] none → Quiet s₀ u →
      (u.Where a fun d => d.status = .notRunning) →
      Wlp (if d.serverPid = -1 then do
          if ← startServer a then startDisplay.startSession a else removeDisplay a
        else startDisplay.startSession a)
        (fun _ s' => s'.Sound [] none ∧ Quiet s₀ s') u := by
    intro d _ _ u hu hq hw
    refine wlp_ite (fun _ => ?_) fun _ => wlp_startSession hu hq hw
    unfold startServer
    simp only [wlp_bind, wlp_get]
    have hno : (u.noServer a).Sound [] none := by
      refine hu.write (by simp) (fun _ => rfl) ?_ ?_
      · exact fun _ x hx hxa => ⟨by simp [hw x hx hxa], by simp [hw x hx hxa],
          by simp [hw x hx hxa]⟩
      · intro x _ _ r
        cases r
        · exact Or.inr rfl
        · exact Or.inl rfl
    refine (wlp_startServerLoop _ 0 hno hq hw).mono fun started v hv => ?_
    cases started
    · exact hgone v hv.1 hv.2.1
    · exact wlp_startSession hv.1 hv.2.1 hv.2.2
  simp only [wlp_bind]
  refine wlp_readDisplay fun d hd hda => wlp_ite (fun _ => ?_) fun _ =>
    wlp_startSession ht hq hw
  refine wlp_ite (fun _ => ?_) fun _ => hserver d hd hda t ht hq hw
  exact (keeps_emit rfl).seq ⟨ht, hw⟩ hq fun _ u ⟨hu, huw⟩ hq => hserver d hd hda u hu hq huw

/-! ### The functions that walk the list -/

lemma keeps_forEachDisplay {I : State → Prop} {R : State → State → Prop} [Std.Refl R]
    [IsTrans State R] {f : Nat → M Unit} (h : ∀ a, Keeps I R (f a)) :
    Keeps I R (forEachDisplay f) :=
  Keeps.bind Keeps.get fun _ => Keeps.forM fun a _ => h a

lemma keeps_untilDisplay {I : State → Prop} {R : State → State → Prop} [Std.Refl R]
    [IsTrans State R] {f : Nat → M Bool} (h : ∀ a, Keeps I R (f a)) :
    Keeps I R (untilDisplay f) := by
  refine Keeps.bind Keeps.get fun s => ?_
  induction s.displays.map Display.addr with
  | nil => exact Keeps.pure _
  | cons a l ih => exact Keeps.bind (h a) fun b => Keeps.ite (fun _ => Keeps.pure _) fun _ => ih

lemma keeps_stopDisplay (a : Nat) : Keeps (State.Sound dead none) Quiet (stopDisplay a) :=
  fun s hs => wlp_stopDisplay hs.weaken (Quiet.refl s)

lemma keeps_markDisplay (a : Nat) : Keeps (State.Sound dead none) Quiet (markDisplay a) := by
  have hbook : Bookkeeping fun d => { d with state := .missingEntry } := by
    constructor <;> intro _ <;> rfl
  exact keeps_anywhere (keeps_writeDisplay hbook fun _ _ => trivial)

lemma keeps_checkDisplayStatus (w : World) (a : Nat) :
    Keeps (State.Sound [] none) Quiet (checkDisplayStatus w a) := by
  intro s hs
  unfold checkDisplayStatus
  rw [wlp_bind]
  refine wlp_readDisplay fun d hd hda => wlp_ite (fun _ => ?_) fun _ =>
    (wlp_pure _ _ _).2 ⟨hs, Quiet.refl s⟩
  have hstart : ∀ t, (SoundWhere [] none a fun x => x.status = d.status) t → Quiet s t →
      Wlp (checkDisplayStatus.startIfPermanent w d)
        (fun _ s' => s'.Sound [] none ∧ Quiet s s') t := by
    rintro t ⟨ht, hw⟩ hq
    refine wlp_ite (fun hc => ?_) fun _ => (wlp_pure _ _ _).2 ⟨ht, hq⟩
    rw [hda]
    exact wlp_startDisplay w ht hq fun x hx hxa => (hw x hx hxa).trans hc.2
  have hw : s.Where a fun x => x.status = d.status := hs.where_of_mem hd hda rfl
  split
  · exact keeps_stopDisplay a s hs
  · have hbook : Bookkeeping fun d => { d with state := .oldEntry } := by
      constructor <;> intro _ <;> rfl
    exact (keeps_writeDisplay hbook fun _ => id).seq ⟨hs, hw⟩ (Quiet.refl s)
      fun _ t ht hq => hstart t ht hq
  · exact hstart s ⟨hs, hw⟩ (Quiet.refl s)

lemma keeps_startDisplays (w : World) :
    Keeps (State.Sound [] none) Quiet (startDisplays w) :=
  keeps_forEachDisplay (keeps_checkDisplayStatus w)

lemma keeps_addDynamicDisplay (w : World) (a : Nat) :
    Keeps (State.Sound [] none) Quiet (addDynamicDisplay w a) := by
  intro s hs
  unfold addDynamicDisplay
  rw [wlp_bind]
  refine wlp_readDisplay fun d hd hda => wlp_ite (fun hc => ?_) fun _ =>
    (wlp_pure _ _ _).2 ⟨hs, Quiet.refl s⟩
  rw [wlp_bind]
  refine (wlp_startDisplay w hs (Quiet.refl s) (hs.where_of_mem hd hda hc.2.2)).mono
    fun _ t ht => (wlp_pure _ _ _).2 ht

lemma keeps_addDisplay (w : World) : Keeps (State.Sound [] none) Quiet (addDisplay w) :=
  Keeps.bind (keeps_untilDisplay (keeps_addDynamicDisplay w)) fun _ => Keeps.pure _

lemma keeps_stopAll : Keeps (State.Sound dead none) Quiet stopAll :=
  keeps_forEachDisplay keeps_stopDisplay

/-! ### Reading the servers file -/

lemma keeps_state {I : State → Prop} {g : State → State} (hI : ∀ s, I s → I (g s))
    (hq : ∀ s, Quiet s (g s)) : Keeps I Quiet (modify g : M Unit) :=
  Keeps.modify fun s hs => ⟨hI s hs, hq s⟩

/-- The display types of the servers file are for displays of this file. -/
lemma parseTypeWords_origin (type : Str) (rest : List Str) :
    (parseTypeWords type rest).1.origin = .fromFile := by
  have hparse : ∀ word, (parseDisplayType word).1.origin = .fromFile := by
    intro word
    unfold parseDisplayType
    split
    · next t ht =>
      have hmem := List.mem_of_find?_eq_some ht
      simp only [displayTypes, List.mem_cons, List.not_mem_nil, or_false] at hmem
      rcases hmem with rfl | rfl | rfl <;> rfl
    · rfl
  unfold parseTypeWords
  cases rest with
  | nil => exact hparse type
  | cons type' argv =>
    simp only
    split_ifs
    · exact hparse type'
    · exact hparse type'
    · exact hparse type

lemma newDisplay_eq (name : Str) (className : Option Str) (t : State) :
    newDisplay name className t =
      some (t.nextAddr, t.enter (newDisplayAt t.nextAddr name className)) := rfl

/-- The rule for a line of the servers file: it does nothing, is stored into the display
of its name, or into a new one. -/
lemma wlp_parseDisplay_of {Q : Unit → State → Prop} (source : Str) (hskip : Q () s)
    (hstore : ∀ {d : Display} {displayType : DisplayType} {className : Option Str}
      {argv : List Str}, displayType.origin = .fromFile → d ∈ s.displays →
      Q () (s.write d.addr fun display => { display with
        state := .oldEntry
        className := className.or display.className
        displayType := displayType
        argv := some argv }))
    (henter : ∀ {name : Str} {displayType : DisplayType} {className : Option Str}
      {argv : List Str}, displayType.origin = .fromFile → (∀ d ∈ s.displays, d.name ≠ name) →
      Q () ((s.enter (newDisplayAt s.nextAddr name className)).write s.nextAddr
        fun display => { display with displayType := displayType, argv := some argv })) :
    Wlp (parseDisplay source) Q s := by
  unfold parseDisplay
  split
  · next name type rest _ =>
    have horigin := parseTypeWords_origin type rest
    generalize parseTypeWords type rest = parsed at horigin
    obtain ⟨displayType, className, argv⟩ := parsed
    simp only [wlp_bind, wlp_get]
    split
    · next d hfind =>
      have hd : d ∈ s.displays := List.mem_of_find?_eq_some hfind
      refine wlp_ite (fun _ => by simp) fun _ => ?_
      exact wlp_writeDisplay (hstore horigin hd) fun hnone => absurd rfl (hnone d hd)
    · next hfind =>
      have hfresh : ∀ d ∈ s.displays, d.name ≠ name := fun d hd hname => by
        simpa [hname] using List.find?_eq_none.1 hfind d hd
      rw [wlp_bind]
      intro d t ht
      rw [newDisplay_eq] at ht
      obtain ⟨rfl, rfl⟩ := Prod.mk.inj (Option.some.inj ht)
      exact wlp_writeDisplay (henter horigin hfresh)
        fun hnone => absurd rfl (hnone _ (List.mem_cons_self ..))
  · exact (wlp_pure _ _ _).2 hskip

lemma keeps_parseDisplay (source : Str) :
    Keeps (State.Sound dead none) Quiet (parseDisplay source) := by
  intro s hs
  refine wlp_parseDisplay_of source ⟨hs, Quiet.refl s⟩ (fun horigin _ => ⟨?_, ?_⟩)
    fun {name displayType className argv} horigin _ => ?_
  · exact hs.write (by simp) (fun _ => rfl) (fun _ x hx _ =>
      ⟨(hs.ok x hx (by simp)).zombie, (hs.ok x hx (by simp)).phoenix,
        (hs.ok x hx (by simp)).running⟩)
      (fun x _ _ r => Or.inr (by cases r <;> rfl))
  · exact Quiet.write fun x _ _ => ⟨rfl, id, fun ho => by simp [horigin] at ho⟩
  · -- a display that did not exist: it is new, and from the file when all is done
    have hcons : (s.enter (newDisplayAt s.nextAddr name className)).Sound dead none :=
      hs.cons rfl ⟨by simp [newDisplayAt], by simp [newDisplayAt], by simp [newDisplayAt]⟩
        (by rintro (_ | _) <;> rfl)
    have hsucc : ∀ d' ∈ ((s.enter (newDisplayAt s.nextAddr name className)).write s.nextAddr
        fun display => { display with displayType := displayType, argv := some argv }).displays,
        (d'.addr = s.nextAddr ∧ d'.displayType.origin = .fromFile) ∨ d' ∈ s.displays := by
      intro d' hd'
      rcases State.mem_write.1 hd' with ⟨x, -, hxa, rfl⟩ | ⟨hd', hne⟩
      · exact Or.inl ⟨hxa, horigin⟩
      · rcases List.mem_cons.1 hd' with rfl | hd'
        · exact absurd rfl hne
        · exact Or.inr hd'
    refine ⟨?_, ⟨Nat.le_succ _, fun d' hd' hlt => ?_⟩, rfl, rfl, fun d' hd' ho => ?_, [], ?_⟩
    · exact hcons.write (by simp) (fun _ => rfl) (fun _ x hx _ =>
        ⟨(hcons.ok x hx (by simp)).zombie, (hcons.ok x hx (by simp)).phoenix,
          (hcons.ok x hx (by simp)).running⟩)
        (fun x _ _ r => Or.inr (by cases r <;> rfl))
    · rcases hsucc d' hd' with ⟨ha, -⟩ | hd'
      · omega
      · exact ⟨d', hd', Display.Successor.refl d'⟩
    · rcases hsucc d' hd' with ⟨-, hf⟩ | hd'
      · simp [hf] at ho
      · exact ⟨d', hd', Display.Successor.refl d'⟩
    · simp [State.write, State.enter]

/-- What keeps the lines of the servers file keeps all of it. -/
lemma keeps_scanServers_of {I : State → Prop} {R : State → State → Prop} [Std.Refl R]
    [IsTrans State R] (w : World) (hparse : ∀ source, Keeps I R (parseDisplay source)) :
    Keeps I R (scanServers w) := by
  refine Keeps.bind Keeps.get fun s => Keeps.ite (fun _ => ?_) fun _ => hparse _
  split
  · exact Keeps.pure _
  · exact Keeps.forM fun line _ => hparse line

lemma keeps_scanServers (w : World) : Keeps (State.Sound dead none) Quiet (scanServers w) :=
  keeps_scanServers_of w keeps_parseDisplay

lemma keeps_loadConfig (w : World) : Keeps (State.Sound dead none) Quiet (loadConfig w) :=
  keeps_state (fun _ hs => hs.congr rfl rfl (Nat.le_refl _))
    fun _ => Quiet.of_eq rfl rfl rfl rfl ⟨[], by simp⟩

lemma keeps_loadDatabase (w : World) : Keeps (State.Sound dead none) Quiet (loadDatabase w) :=
  keeps_state (fun _ hs => hs.congr rfl rfl (Nat.le_refl _))
    fun _ => Quiet.of_eq rfl rfl rfl rfl ⟨[], by simp⟩

lemma keeps_rescanServers (w : World) :
    Keeps (State.Sound [] none) Quiet (rescanServers w) :=
  Keeps.bind (keeps_forEachDisplay keeps_markDisplay) fun _ =>
    Keeps.bind (keeps_loadConfig w) fun _ =>
      Keeps.bind (keeps_scanServers w) fun _ =>
        Keeps.bind (keeps_loadDatabase w) fun _ => keeps_startDisplays w

lemma keeps_startUp (w : World) : Keeps (State.Sound [] none) Quiet (startUp w) :=
  Keeps.bind (keeps_loadConfig w) fun _ =>
    Keeps.bind (keeps_loadDatabase w) fun _ =>
      Keeps.bind (keeps_scanServers w) fun _ => keeps_startDisplays w

/-- What keeps the parts of `RescanIfMod` keeps all of it. -/
lemma keeps_rescanIfMod_of {I : State → Prop} {R : State → State → Prop} [Std.Refl R]
    [IsTrans State R] {w : World} (hconfig : Keeps I R (loadConfig w))
    (hmark : Keeps I R (forEachDisplay markDisplay)) (hscan : Keeps I R (scanServers w))
    (hdatabase : Keeps I R (loadDatabase w)) : Keeps I R (rescanIfMod w) := by
  have haccess : ∀ c : State, Keeps I R
      (if c.config.accessFile ≠ [] ∧ w.accessChanged = true then loadDatabase w
        else pure () : M Unit) := fun _ =>
    Keeps.ite (fun _ => hdatabase) fun _ => Keeps.pure _
  have hservers : ∀ c : State, Keeps I R
      (do
        forEachDisplay markDisplay
        scanServers w
        if c.config.accessFile ≠ [] ∧ w.accessChanged = true then loadDatabase w
          else pure () : M Unit) := fun c =>
    Keeps.bind hmark fun _ => Keeps.bind hscan fun _ => haccess c
  unfold rescanIfMod
  refine Keeps.ite (fun _ => ?_) fun _ => ?_
  · exact Keeps.bind hconfig fun _ => Keeps.bind Keeps.get fun c =>
      Keeps.ite (fun _ => hservers c) fun _ => haccess c
  · exact Keeps.bind Keeps.get fun c => Keeps.ite (fun _ => hservers c) fun _ => haccess c

lemma keeps_rescanIfMod (w : World) :
    Keeps (State.Sound dead none) Quiet (rescanIfMod w) :=
  keeps_rescanIfMod_of (keeps_loadConfig w) (keeps_forEachDisplay keeps_markDisplay)
    (keeps_scanServers w) (keeps_loadDatabase w)

/-! ### Deaths of children -/

namespace State.Sound

/-- A child that is waited for, while its display still has its pid. -/
lemma reaped {p : Pid} (h : s.Sound [] none) :
    State.Sound [p] none { s with kernel := { s.kernel with
      children := s.kernel.children.filter (· ≠ p) } } :=
  { h with
    positive := fun q hq => h.positive q (List.mem_filter.1 hq).1
    child := fun d hd r hr => by
      by_cases hp : d.proc r = p
      · simp [hp]
      · exact List.mem_append_right _
          (List.mem_filter.2 ⟨by simpa using h.child d hd r hr, by simp [hp]⟩) }

/-- No display has the dead child any more. -/
lemma bury {p : Pid} (h : s.Sound [p] busy) (hno : ∀ d ∈ s.displays, ∀ r, d.proc r ≠ p) :
    s.Sound [] busy :=
  { h with child := fun d hd r hr => by simpa [hno d hd r] using h.child d hd r hr }

/-- The display that had the dead child in the role `k` has none in this role now. -/
lemma dropped {p : Pid} {f : Display → Display} {k : Role} {d : Display}
    (h : s.Sound [p] none) (hp : p ≠ -1) (hd : d ∈ s.displays) (hk : d.proc k = p)
    (haddr : ∀ x, (f x).addr = x.addr) (hf : ∀ x, (f x).proc k = -1)
    (hother : ∀ x r, r ≠ k → (f x).proc r = x.proc r) :
    (s.write d.addr f).Sound [] (some d.addr) := by
  have hproc : ∀ x : Display, ∀ r, (f x).proc r = -1 ∨ (f x).proc r = x.proc r := by
    intro x r
    by_cases hr : r = k
    · exact Or.inl (hr ▸ hf x)
    · exact Or.inr (hother x r hr)
  refine (h.write (by simp) haddr (by simp) fun x _ _ => hproc x).bury ?_
  intro x hx r hxp
  rcases State.mem_write.1 hx with ⟨y, hy, hya, rfl⟩ | ⟨hx, hxa⟩
  · by_cases hr : r = k
    · exact hp (by rw [← hxp, hr, hf])
    · rw [hother y r hr] at hxp
      exact hr (h.owner y hy d hd r k (by rwa [hxp]) (hxp.trans hk.symm)).2
  · exact hxa (h.owner x hx d hd r k (by rwa [hxp]) (hxp.trans hk.symm)).1

end State.Sound

lemma keeps_sendFailed {P : Display → Prop} (d : Nat) (reason : Str) :
    Keeps (SoundWhere dead busy a P) Quiet (sendFailed d reason) := by
  intro s hs
  unfold sendFailed
  rw [wlp_bind]
  exact wlp_readDisplay fun _ _ _ => keeps_emit rfl s hs

lemma keeps_clearStartTries {P : Display → Prop}
    (hP : ∀ d, P d → P { d with startTries := 0 }) :
    Keeps (SoundWhere dead busy a P) Quiet (clearStartTries a) :=
  keeps_writeDisplay (by constructor <;> intro _ <;> rfl) hP

/-- The invariant while the end of a session is dealt with: nothing is known of the
display but its status. -/
abbrev Ending (a : Nat) (status : DisplayStatus) (s : State) : Prop :=
  SoundWhere [] (some a) a (fun d => d.status = status) s

variable {status : DisplayStatus}

lemma wlp_lastStart (h : Ending a status s) (h₀ : Quiet s₀ s) :
    Wlp (lastStart a) (fun last s' => Ending a status s' ∧ Quiet s₀ s' ∧
      (last = false → status ≠ .zombie)) s := by
  unfold lastStart
  rw [wlp_bind]
  refine wlp_readDisplay fun d hd hda => wlp_ite (fun _ => ?_) fun hc => ?_
  · exact (wlp_pure _ _ _).2 ⟨h, h₀, by simp⟩
  · have hbook : Bookkeeping fun x => { x with startTries := x.startTries + 1 } := by
      constructor <;> intro _ <;> rfl
    refine (keeps_writeDisplay hbook fun _ => id).seq h h₀ fun _ t ht hq => ?_
    refine (wlp_pure _ _ _).2 ⟨ht, hq, fun _ hz => hc (Or.inr ?_)⟩
    exact (h.2 d hd hda).trans hz

lemma wlp_stopEnding (h : Ending a status s) (h₀ : Quiet s₀ s) :
    Wlp (stopDisplay a) (fun _ s' => s'.Sound [] none ∧ Quiet s₀ s') s :=
  wlp_stopDisplay h.1 h₀

lemma wlp_restartEnding (h : Ending a status s) (h₀ : Quiet s₀ s) (hz : status ≠ .zombie)
    (forceReserver : Bool) :
    Wlp (restartDisplay a forceReserver) (fun _ s' => s'.Sound [] none ∧ Quiet s₀ s') s :=
  wlp_restartDisplay h.1 h₀ (fun d hd hda hd' => hz ((h.2 d hd hda).symm.trans hd'))
    forceReserver

lemma wlp_reserver (h : Ending a status s) (h₀ : Quiet s₀ s) (hz : status ≠ .zombie)
    (now : Time) :
    Wlp (reserver a now) (fun _ s' => s'.Sound [] none ∧ Quiet s₀ s') s := by
  have hstore : ∀ t, t.Sound [] none → Quiet s₀ t →
      Wlp (writeDisplay a fun d => { d with lastReserv := now })
        (fun _ s' => s'.Sound [] none ∧ Quiet s₀ s') t := fun t ht hq =>
    (keeps_anywhere (keeps_writeDisplay (by constructor <;> intro _ <;> rfl)
      fun _ _ => trivial)).last ht hq
  -- after the count of crashes, whatever it is
  have hgo : ∀ (stop : Prop) [Decidable stop] t, Ending a status t → Quiet s₀ t →
      Wlp (if stop then do
          stopDisplay a
          writeDisplay a fun d => { d with lastReserv := now }
        else do
          restartDisplay a true
          writeDisplay a fun d => { d with lastReserv := now })
        (fun _ s' => s'.Sound [] none ∧ Quiet s₀ s') t := by
    intro stop _ t ht hq
    refine wlp_ite (fun _ => ?_) fun _ => ?_
    · rw [wlp_bind]
      exact (wlp_stopEnding ht hq).mono fun _ u hu => hstore u hu.1 hu.2
    · rw [wlp_bind]
      exact (wlp_restartEnding ht hq hz true).mono fun _ u hu => hstore u hu.1 hu.2
  unfold reserver
  rw [wlp_bind]
  refine wlp_readDisplay fun d _ _ => wlp_ite (fun _ => ?_) fun _ => ?_
  · have hbook : Bookkeeping fun x => { x with reservTries := x.reservTries + 1 } := by
      constructor <;> intro _ <;> rfl
    refine (keeps_writeDisplay hbook fun _ => id).seq h h₀ fun _ t ht hq => ?_
    exact hgo _ t ht hq
  · have hbook : Bookkeeping fun x => { x with reservTries := 0 } := by
      constructor <;> intro _ <;> rfl
    refine (keeps_writeDisplay hbook fun _ => id).seq h h₀ fun _ t ht hq => ?_
    exact hgo _ t ht hq

lemma wlp_sessionEnded (w : World) {p : Pid} {d : Display} (val : Int)
    (h : s.Sound [p] none) (h₀ : Quiet s₀ s) (hp : p ≠ -1) (hd : d ∈ s.displays)
    (hpid : d.pid = p) :
    Wlp (sessionEnded w d.addr val) (fun _ s' => s'.Sound [] none ∧ Quiet s₀ s') s := by
  unfold sessionEnded
  simp only [wlp_bind]
  refine wlp_writeDisplay ?_ fun hnone => absurd rfl (hnone d hd)
  have hs : (s.write d.addr fun x => { x with pid := -1 }).Sound [] (some d.addr) := by
    refine h.dropped (k := .session) hp hd hpid (fun _ => rfl) (fun _ => rfl) ?_
    rintro x (_ | _) hr
    · exact absurd rfl hr
    · rfl
  have hq : Quiet s₀ (s.write d.addr fun x => { x with pid := -1 }) :=
    h₀.trans (Quiet.write fun x _ _ => ⟨rfl, id, fun ho => ⟨ho, rfl, rfl, rfl, rfl, rfl⟩⟩)
  generalize (s.write d.addr fun x => { x with pid := -1 }) = t at hs hq
  refine wlp_readDisplay fun d' hd' hda' => ?_
  have ht : Ending d.addr d'.status t := ⟨hs, hs.where_of_mem hd' hda' rfl⟩
  have hnot : ∀ {c : Prop}, ¬ (c ∨ d'.status = .zombie) → d'.status ≠ .zombie :=
    fun hc hz => hc (Or.inr hz)
  have hlast : ∀ u, Ending d.addr d'.status u → Quiet s₀ u →
      Wlp (do if ← lastStart d.addr then stopDisplay d.addr else restartDisplay d.addr true)
        (fun _ s' => s'.Sound [] none ∧ Quiet s₀ s') u := by
    intro u hu huq
    rw [wlp_bind]
    refine (wlp_lastStart hu huq).mono fun last v hv => ?_
    cases last
    · exact wlp_restartEnding hv.1 hv.2.1 (hv.2.2 rfl) true
    · exact wlp_stopEnding hv.1 hv.2.1
  refine wlp_ite (fun _ => wlp_stopEnding ht hq) fun _ => ?_
  refine wlp_ite (fun _ => ?obeysess) fun _ => wlp_ite (fun _ => ?openfailed) fun _ =>
    wlp_ite (fun _ => ?reserver) fun _ => wlp_ite (fun _ => hlast t ht hq) fun _ =>
      wlp_ite (fun _ => ?remanage) fun _ => wlp_stopEnding ht hq
  case obeysess =>
    refine (keeps_clearStartTries fun _ => id).seq ht hq fun _ u hu hq => ?_
    have hbook : Bookkeeping fun x => { x with reservTries := 0 } := by
      constructor <;> intro _ <;> rfl
    refine (keeps_writeDisplay hbook fun _ => id).seq hu hq fun _ v hv hq => ?_
    exact wlp_ite (fun _ => wlp_stopEnding hv hq) fun hc =>
      wlp_restartEnding hv hq (hnot hc) false
  case openfailed =>
    refine wlp_ite (fun _ => ?_) fun _ => hlast t ht hq
    exact (keeps_sendFailed _ _).seq ht hq fun _ u hu hq => hlast u hu hq
  case reserver =>
    refine (keeps_clearStartTries fun _ => id).seq ht hq fun _ u hu hq => ?_
    exact wlp_ite (fun _ => wlp_stopEnding hu hq) fun hc => wlp_reserver hu hq (hnot hc) w.time
  case remanage =>
    refine (keeps_clearStartTries fun _ => id).seq ht hq fun _ u hu hq => ?_
    exact wlp_ite (fun _ => wlp_stopEnding hu hq) fun hc =>
      wlp_restartEnding hu hq (hnot hc) false

lemma wlp_serverEnded {p : Pid} {d : Display} (h : s.Sound [p] none) (h₀ : Quiet s₀ s)
    (hp : p ≠ -1) (hd : d ∈ s.displays) (hpid : d.serverPid = p) :
    Wlp (serverEnded d.addr) (fun _ s' => s'.Sound [] none ∧ Quiet s₀ s') s := by
  unfold serverEnded
  simp only [wlp_bind]
  refine wlp_writeDisplay ?_ fun hnone => absurd rfl (hnone d hd)
  have hs : (s.write d.addr fun x => { x with serverPid := -1 }).Sound [] (some d.addr) := by
    refine h.dropped (k := .server) hp hd hpid (fun _ => rfl) (fun _ => rfl) ?_
    rintro x (_ | _) hr
    · rfl
    · exact absurd rfl hr
  have hq : Quiet s₀ (s.write d.addr fun x => { x with serverPid := -1 }) :=
    h₀.trans (Quiet.write fun x _ _ => ⟨rfl, id, fun ho => ⟨ho, rfl, rfl, rfl, rfl, rfl⟩⟩)
  refine wlp_readDisplay fun d' hd' hda' => ?_
  have hd'eq : d' = { d with serverPid := -1 } := by
    rcases State.mem_write.1 hd' with ⟨y, hy, hya, rfl⟩ | ⟨-, hne⟩
    · rw [h.distinct.eq_of_mem hy hd hya]
    · exact absurd hda' hne
  have hok := h.ok d hd (by simp)
  -- what is left is sound if the display is, and it is if it is no zombie and no phoenix
  have hsound : d.status ≠ .zombie → d.status ≠ .phoenix →
      (s.write d.addr fun x => { x with serverPid := -1 }).Sound [] none := by
    intro hz hph
    refine { hs with ok := fun x hx hb => ?_ }
    by_cases hxa : x.addr = d.addr
    · obtain rfl := hs.distinct.eq_of_mem hx hd' (hxa.trans hda'.symm)
      subst hd'eq
      exact ⟨fun hc => absurd hc hz, fun hc => absurd hc hph, hok.running⟩
    · exact hs.ok x hx fun hc => hxa (Option.some.inj hc).symm
  split
  · exact wlp_removeDisplay ⟨hs.remove (by simp +contextual), hq.trans (Quiet.remove _ _)⟩
      fun hnone => ⟨hs.unbusy hnone, hq⟩
  · next hph =>
    refine wlp_setStatus hs hq ?_ fun x _ _ => ⟨by simp, by simp, by simp⟩
    exact hs.where_of_mem hd' hda' fun hz => by simp [hz] at hph
  · next hrun =>
    have hstatus : d.status = .running := by rw [hd'eq] at hrun; exact hrun
    have hsnd := hsound (by simp [hstatus]) (by simp [hstatus])
    refine wlp_ite (fun _ => ?_) fun _ => (wlp_pure _ _ _).2 ⟨hsnd, hq⟩
    exact (keeps_anywhere (a := d.addr) (keeps_terminateProcess _ _)).last hsnd hq
  · next hnot =>
    have hstatus : d.status = .notRunning := by rw [hd'eq] at hnot; exact hnot
    exact (wlp_pure _ _ _).2 ⟨hsound (by simp [hstatus]) (by simp [hstatus]), hq⟩

lemma wlp_displayEnded {e : Exit} (h : s.Sound [e.pid] none) (h₀ : Quiet s₀ s)
    (hp : e.pid ≠ -1) :
    Wlp (displayEnded e) (fun _ s' => s'.Sound [] none ∧ Quiet s₀ s') s := by
  unfold displayEnded
  simp only [wlp_bind, wlp_get]
  split
  · next d hd =>
    obtain ⟨hd, hpid⟩ := findDisplayByPid_some hd
    exact wlp_sessionEnded _ _ h h₀ hp hd hpid
  · next hno =>
    split
    · next d hd =>
      obtain ⟨hd, hpid⟩ := findDisplayByServerPid_some hd
      exact wlp_serverEnded h h₀ hp hd hpid
    · next hno' =>
      refine (wlp_pure _ _ _).2 ⟨h.bury ?_, h₀⟩
      rintro d hd (_ | _) hdp
      · exact findDisplayByPid_none hno d hd hdp
      · exact findDisplayByServerPid_none hno' d hd hdp

/-- The rule for a child that has ended: what holds when it has been waited for is kept by the
rescan, and is enough for what is done about its display. -/
lemma wlp_childEnded_of {e : Exit} {I : State → Prop} {Q : Unit → State → Prop}
    (hs : s.Sound [] none)
    (hreaped : I { s with kernel := { s.kernel with
      children := s.kernel.children.filter (· ≠ e.pid) } })
    (hrescan : ∀ t, I t → Wlp (rescanIfMod e.world) (fun _ t' => I t') t)
    (hended : e.pid ≠ -1 → ∀ t, I t → Wlp (displayEnded e) Q t) : Wlp (childEnded e) Q s := by
  unfold childEnded
  simp only [wlp_bind, wlp_get]
  refine wlp_ite (fun hchild => ?_) fun _ => by simp
  simp only [reap, wlp_bind, wlp_modify]
  have hp := pid_ne (hs.positive _ hchild)
  refine wlp_ite (fun _ => ?_) fun _ => hended hp _ hreaped
  rw [wlp_bind]
  exact (hrescan _ hreaped).mono fun _ t ht => hended hp t ht

lemma keeps_childEnded (e : Exit) : Keeps (State.Sound [] none) Quiet (childEnded e) := by
  intro s hs
  refine wlp_childEnded_of (I := fun t => t.Sound [e.pid] none ∧ Quiet s t) hs
    ⟨hs.reaped, Quiet.setKernel s _⟩ (fun t ht => (keeps_rescanIfMod e.world).last ht.1 ht.2) ?_
  exact fun hp t ht => wlp_displayEnded ht.1 ht.2 hp

lemma keeps_waitForChild (w : World) (exits : List Exit) :
    Keeps (State.Sound [] none) Quiet (waitForChild w exits) :=
  Keeps.bind (Keeps.forM fun e _ => keeps_childEnded e) fun _ => keeps_startDisplays w

end Xdm
