/-
# Displays of XDMCP and their sessions

A display that `manage` has entered is taken out of the list when its session ends, and by
nothing else that a client or a child can do.  `State.Attended` says that each of them has
a session process; the end of a child keeps it, and so does a `MANAGE` unless the display
it enters gets no session.
-/
import Xdm.OneDisplay
import Xdm.LocalDisplays

namespace Xdm

open Prog

variable {config : Config} {g : Nat} {h : List (Step State Input)} {s s' t : State} {i : Input}
variable {w : World} {fd : Int} {sender : Netaddr} {m : Manage} {a : Nat} {d : Display}
variable {dead : List Pid}

/-- The display has a session process and no server of this host, and lasts for one
session. -/
structure Display.Attended (d : Display) : Prop where
  pid : d.pid ≠ -1
  serverPid : d.serverPid = -1
  lifetime : d.displayType.lifetime = .transient

/-- Every display of XDMCP is attended. -/
def State.Attended (s : State) : Prop :=
  ∀ d ∈ s.displays, d.displayType.origin = .fromXDMCP → d.Attended

/-- The invariant of this file, with the one of the display list. -/
abbrev SoundAttended (dead : List Pid) (s : State) : Prop := s.Sound dead none ∧ s.Attended

/-- What comes of a state if nothing disturbs its displays of XDMCP. -/
abbrev KeepsAttended (dead : List Pid) {α : Type} (m : M α) : Prop :=
  Keeps (SoundAttended dead) Quiet m

/-! ### Work on a display of the servers file -/

lemma State.Attended.congr (h : s.Attended) (hd : t.displays = s.displays) : t.Attended :=
  fun d hmem => h d (hd ▸ hmem)

/-- Nothing need be known of the display at `a` if it is no display of XDMCP. -/
lemma State.Attended.only (h : s.Attended) (hq : Quiet s s') (ho : Only a s s')
    (ha : s.Where a fun d => d.displayType.origin ≠ .fromXDMCP) : s'.Attended := by
  intro d' hd' horigin
  obtain ⟨d, hd, hsucc⟩ := hq.session d' hd' horigin
  have hda : d'.addr ≠ a := fun hda => ha d hd (hsucc.addr.symm.trans hda)
    (hsucc.session horigin).origin
  exact h d' ((ho d' hda).1 hd') horigin

lemma keepsAttended_state {g : State → State} (hg : ∀ s, (g s).displays = s.displays)
    (hk : Keeps (State.Sound dead none) Quiet (modify g : M PUnit)) :
    KeepsAttended dead (modify g : M PUnit) := by
  rintro s ⟨hs, ha⟩
  have h := (wlp_modify _ _ _).1 (hk s hs)
  exact (wlp_modify _ _ _).2 ⟨⟨h.1, ha.congr (hg s)⟩, h.2⟩

/-- A program that works on one display keeps the others attended, and it need only be
looked at for a display of XDMCP. -/
lemma keepsAttended_of_only {α : Type} {m : M α}
    (hk : Keeps (State.Sound dead none) Quiet m) (hw : Respects (Only a) m)
    (hx : ∀ s, SoundAttended dead s → ∀ d ∈ s.displays, d.addr = a →
      d.displayType.origin = .fromXDMCP → Wlp m (fun _ s' => s'.Attended) s) :
    KeepsAttended dead m := by
  rintro s ⟨hs, ha⟩
  by_cases hfile : s.Where a fun d => d.displayType.origin ≠ .fromXDMCP
  · exact ((hk s hs).and (hw s trivial)).mono fun _ s' h =>
      ⟨⟨h.1.1, ha.only h.1.2 h.2.2 hfile⟩, h.1.2⟩
  · simp only [State.Where, not_forall, not_not] at hfile
    obtain ⟨d, hd, hda, horigin⟩ := hfile
    exact ((hk s hs).and (hx s ⟨hs, ha⟩ d hd hda horigin)).mono fun _ s' h =>
      ⟨⟨h.1.1, h.2⟩, h.1.2⟩

lemma State.Attended.gone (h : s.Attended) (ho : Only a s s')
    (hgone : s'.Where a fun _ => False) : s'.Attended :=
  fun d hd => h d ((ho d fun hda => hgone d hd hda).1 hd)

lemma keepsAttended_stopDisplay : KeepsAttended [] (stopDisplay a) := by
  refine keepsAttended_of_only (keeps_stopDisplay a) (Only.works a).stopDisplay ?_
  rintro s ⟨hs, ha⟩ d hd rfl horigin
  refine (wlp_stopDisplay_of_mem hs hd).mono fun _ s' h => ?_
  rcases h.harmed with ⟨-, hgone⟩ | ⟨hserver, -⟩
  · exact ha.gone h.kept hgone
  · exact absurd (ha d hd horigin).serverPid hserver

lemma keepsAttended_checkDisplayStatus (w : World) (a : Nat) :
    KeepsAttended [] (checkDisplayStatus w a) := by
  refine keepsAttended_of_only (keeps_checkDisplayStatus w a)
    (Only.works a).checkDisplayStatus ?_
  rintro s ⟨hs, ha⟩ d hd hda horigin
  unfold checkDisplayStatus
  rw [wlp_bind]
  refine wlp_readDisplay fun d' hd' hda' => ?_
  obtain rfl := hs.distinct.eq_of_mem hd' hd (hda'.trans hda.symm)
  rw [if_neg (by simp [horigin]), wlp_pure]
  exact ha

lemma keepsAttended_addDynamicDisplay (w : World) (a : Nat) :
    KeepsAttended [] (addDynamicDisplay w a) := by
  refine keepsAttended_of_only (keeps_addDynamicDisplay w a)
    (Only.works a).addDynamicDisplay ?_
  rintro s ⟨hs, ha⟩ d hd hda horigin
  unfold addDynamicDisplay
  rw [wlp_bind]
  refine wlp_readDisplay fun d' hd' hda' => ?_
  obtain rfl := hs.distinct.eq_of_mem hd' hd (hda'.trans hda.symm)
  rw [if_neg (by simp [horigin]), wlp_pure]
  exact ha

lemma keepsAttended_startDisplays (w : World) : KeepsAttended [] (startDisplays w) :=
  keeps_forEachDisplay (keepsAttended_checkDisplayStatus w)

/-! ### The servers file -/

lemma keepsAttended_markDisplay (a : Nat) : KeepsAttended dead (markDisplay a) := by
  rintro s ⟨hs, ha⟩
  refine ((keeps_markDisplay a s hs).and (wlp_writeDisplay ?_ fun _ => ?_)).mono
    fun _ s' h => ⟨⟨h.1.1, h.2⟩, h.1.2⟩
  · intro d hd horigin
    rcases State.mem_write.1 hd with ⟨x, hx, -, rfl⟩ | ⟨hd, -⟩
    · exact ⟨(ha x hx horigin).pid, (ha x hx horigin).serverPid, (ha x hx horigin).lifetime⟩
    · exact ha d hd horigin
  · exact ha.congr rfl

/-- A line of the servers file concerns a display of this file when all is done. -/
lemma wlp_parseDisplay_file (source : Str) : Wlp (parseDisplay source)
    (fun _ s' => ∀ d ∈ s'.displays, d ∈ s.displays ∨ d.displayType.origin = .fromFile) s := by
  refine wlp_parseDisplay_of source (fun _ hd => Or.inl hd) (fun horigin _ x hx => ?_)
    fun horigin _ x hx => ?_
  · rcases State.mem_write.1 hx with ⟨y, -, -, rfl⟩ | ⟨hx, -⟩
    · exact Or.inr horigin
    · exact Or.inl hx
  · rcases State.mem_write.1 hx with ⟨y, -, -, rfl⟩ | ⟨hx, hxa⟩
    · exact Or.inr horigin
    · exact Or.inl ((List.mem_cons.1 hx).resolve_left fun hxe => hxa (by rw [hxe]; rfl))

lemma keepsAttended_parseDisplay (source : Str) : KeepsAttended dead (parseDisplay source) := by
  rintro s ⟨hs, ha⟩
  refine ((keeps_parseDisplay source s hs).and (wlp_parseDisplay_file source)).mono
    fun _ s' h => ⟨⟨h.1.1, fun d hd horigin => ?_⟩, h.1.2⟩
  rcases h.2 d hd with hd | hfile
  · exact ha d hd horigin
  · exact absurd (horigin.symm.trans hfile) (by simp)

lemma keepsAttended_scanServers (w : World) : KeepsAttended dead (scanServers w) :=
  keeps_scanServers_of w keepsAttended_parseDisplay

lemma keepsAttended_loadConfig (w : World) : KeepsAttended dead (loadConfig w) :=
  keepsAttended_state (fun _ => rfl) (keeps_loadConfig w)

lemma keepsAttended_loadDatabase (w : World) : KeepsAttended dead (loadDatabase w) :=
  keepsAttended_state (fun _ => rfl) (keeps_loadDatabase w)

lemma keepsAttended_rescanIfMod (w : World) : KeepsAttended dead (rescanIfMod w) :=
  keeps_rescanIfMod_of (keepsAttended_loadConfig w)
    (keeps_forEachDisplay keepsAttended_markDisplay) (keepsAttended_scanServers w)
    (keepsAttended_loadDatabase w)

/-! ### The end of a process -/

/-- What is known of a display of XDMCP whose session has ended. -/
structure Display.Transient (d : Display) : Prop where
  origin : d.displayType.origin = .fromXDMCP
  serverPid : d.serverPid = -1
  lifetime : d.displayType.lifetime = .transient

/-- Stores that leave such a display as it is described. -/
lemma keepsTransient_writeDisplay {f : Display → Display}
    (hf : ∀ d, (f d).addr = d.addr) (hP : ∀ d : Display, d.Transient → (f d).Transient) :
    Keeps (fun s => s.Where a Display.Transient) (Only a) (writeDisplay a f) := by
  intro s hs
  refine wlp_writeDisplay ⟨fun d hd hda => ?_, fun _ hx => State.mem_write_of_ne hf hx⟩
    fun _ => ⟨hs, Only.of_eq rfl⟩
  rcases State.mem_write.1 hd with ⟨x, hx, hxa, rfl⟩ | ⟨-, hne⟩
  · exact hP x (hs x hx hxa)
  · exact absurd hda hne

/-- Without a server a display that is stopped is gone. -/
lemma wlp_stopTransient (hs : s.Where a Display.Transient) :
    Wlp (stopDisplay a) (fun _ s' => s'.Where a fun _ => False) s := by
  have hremove : ∀ t : State, Wlp (removeDisplay a) (fun _ s' => s'.Where a fun _ => False) t :=
    fun t => wlp_removeDisplay (fun _ hx hxa => (State.mem_remove.1 hx).2 hxa) id
  unfold stopDisplay
  rw [wlp_bind]
  refine wlp_readDisplay fun d hd hda => ?_
  rw [if_neg (by simp [(hs d hd hda).serverPid])]
  by_cases hpid : d.pid = -1
  · simpa [hpid, (hs d hd hda).serverPid] using hremove s
  · simp only [hpid, (hs d hd hda).serverPid, ne_eq, not_true_eq_false, not_false_eq_true,
      if_true, if_false, wlp_bind]
    exact wlp_terminateProcess (hremove _)

/-- Whatever the exit status, the end of its session is the end of the display. -/
lemma wlp_sessionEnded_transient (val : Int) (hs : s.Where a Display.Transient) :
    Wlp (sessionEnded w a val) (fun _ s' => s'.Where a fun _ => False) s := by
  have hlast : ∀ t : State, t.Where a Display.Transient → Wlp (do
      if ← lastStart a then stopDisplay a else restartDisplay a true)
      (fun _ s' => s'.Where a fun _ => False) t := by
    intro t ht
    unfold lastStart
    simp only [wlp_bind]
    refine wlp_readDisplay fun d hd hda => ?_
    rw [if_pos (Or.inl (ht d hd hda).origin), wlp_pure]
    exact wlp_stopTransient ht
  have hclear : Keeps (fun s => s.Where a Display.Transient) (Only a) (clearStartTries a) :=
    keepsTransient_writeDisplay (fun _ => rfl) fun d hd => ⟨hd.origin, hd.serverPid, hd.lifetime⟩
  have hpid : Keeps (fun s => s.Where a Display.Transient) (Only a)
      (writeDisplay a fun d => { d with pid := -1 }) :=
    keepsTransient_writeDisplay (fun _ => rfl) fun d hd => ⟨hd.origin, hd.serverPid, hd.lifetime⟩
  have hreserv : Keeps (fun s => s.Where a Display.Transient) (Only a)
      (writeDisplay a fun d => { d with reservTries := 0 }) :=
    keepsTransient_writeDisplay (fun _ => rfl) fun d hd => ⟨hd.origin, hd.serverPid, hd.lifetime⟩
  have hfailed : Keeps (fun s => s.Where a Display.Transient) (Only a)
      (sendFailed a "Cannot open display".toList) :=
    Keeps.bind (fun t ht => wlp_readDisplay fun _ _ _ => ⟨ht, Only.refl a t⟩) fun _ =>
      Keeps.modify fun _ ht => ⟨ht, Only.of_eq rfl⟩
  unfold sessionEnded
  refine hpid.seq hs (Only.refl a s) fun _ t ht _ => ?_
  rw [wlp_bind]
  refine wlp_readDisplay fun d hd hda => ?_
  have hd := ht d hd hda
  refine wlp_ite (fun _ => wlp_stopTransient ht) fun _ => wlp_ite (fun _ => ?obeysess) fun _ =>
    wlp_ite (fun _ => ?openfailed) fun _ => wlp_ite (fun _ => ?reserver) fun _ =>
      wlp_ite (fun _ => hlast t ht) fun _ => wlp_ite (fun _ => ?remanage) fun _ =>
        wlp_stopTransient ht
  case obeysess =>
    refine hclear.seq ht (Only.refl a t) fun _ u hu _ => ?_
    refine hreserv.seq hu (Only.refl a u) fun _ v hv _ => ?_
    rw [if_pos (Or.inl (by simp [hd.lifetime]))]
    exact wlp_stopTransient hv
  case openfailed =>
    rw [if_pos hd.origin]
    exact hfailed.seq ht (Only.refl a t) fun _ u hu _ => hlast u hu
  case reserver =>
    refine hclear.seq ht (Only.refl a t) fun _ u hu _ => ?_
    rw [if_pos (Or.inl hd.origin)]
    exact wlp_stopTransient hu
  case remanage =>
    refine hclear.seq ht (Only.refl a t) fun _ u hu _ => ?_
    rw [if_pos (Or.inl hd.origin)]
    exact wlp_stopTransient hu

lemma wlp_displayEnded_attended {e : Exit} (hs : s.Sound [e.pid] none) (ha : s.Attended)
    (hp : e.pid ≠ -1) : Wlp (displayEnded e) (fun _ s' => s'.Attended) s := by
  unfold displayEnded
  simp only [wlp_bind, wlp_get]
  split
  · next d hd =>
    obtain ⟨hd, hpid⟩ := findDisplayByPid_some hd
    by_cases horigin : d.displayType.origin = .fromXDMCP
    · have hwhere : s.Where d.addr Display.Transient :=
        hs.where_of_mem hd rfl ⟨horigin, (ha d hd horigin).serverPid, (ha d hd horigin).lifetime⟩
      have honly : Respects (Only d.addr) (sessionEnded e.world d.addr e.status.val) :=
        (Only.works d.addr).sessionEnded e.status.val
      exact ((wlp_sessionEnded_transient e.status.val hwhere).and (honly s trivial)).mono
        fun _ s' h => ha.gone h.2.2 h.1
    · exact ((wlp_sessionEnded e.world e.status.val hs (Quiet.refl s) hp hd hpid).and
        ((Only.works d.addr).sessionEnded e.status.val s trivial)).mono fun _ s' h =>
          ha.only h.1.2 h.2.2 (hs.where_of_mem hd rfl horigin)
  · split
    · next d hd =>
      obtain ⟨hd, hpid⟩ := findDisplayByServerPid_some hd
      -- what has a server is no display of XDMCP
      have horigin : d.displayType.origin ≠ .fromXDMCP := fun horigin =>
        hp (hpid.symm.trans (ha d hd horigin).serverPid)
      exact ((wlp_serverEnded hs (Quiet.refl s) hp hd hpid).and
        ((Only.works d.addr).serverEnded s trivial)).mono fun _ s' h =>
          ha.only h.1.2 h.2.2 (hs.where_of_mem hd rfl horigin)
    · exact (wlp_pure _ _ _).2 ha

lemma keepsAttended_childEnded (e : Exit) : KeepsAttended [] (childEnded e) := by
  rintro s ⟨hs, ha⟩
  have hattended : Wlp (childEnded e) (fun _ s' => s'.Attended) s := by
    refine wlp_childEnded_of (I := fun t => t.Sound [e.pid] none ∧ t.Attended) hs
      ⟨hs.reaped, ha⟩ (fun t ht => ?_) fun hp t ht => wlp_displayEnded_attended ht.1 ht.2 hp
    exact (keepsAttended_rescanIfMod e.world t ht).mono fun _ _ h => h.1
  exact ((keeps_childEnded e s hs).and hattended).mono fun _ s' h => ⟨⟨h.1.1, h.2⟩, h.1.2⟩

lemma keepsAttended_waitForChild (w : World) (exits : List Exit) :
    KeepsAttended [] (waitForChild w exits) :=
  Keeps.bind (Keeps.forM fun e _ => keepsAttended_childEnded e)
    fun _ => keepsAttended_startDisplays w

/-! ### `MANAGE` -/

/-- The display that `manage` enters for the proto-display gets no session: the list of its
authorizations cannot be allocated, or `fork` fails. -/
def sessionFails (w : World) (cfg : Config) (sender : Netaddr) (pdpy : ProtoDisplay) : Bool :=
  (nameOf w cfg sender pdpy).isSome &&
    (w.alloc.className && w.alloc.fromSave && w.alloc.newDisplay) &&
    ((pdpy.fileAuthorization.isSome && !w.alloc.authorizations) ||
      decide (w.forks.head? = some none))

/-- The `MANAGE` enters a display, which gets no session. -/
def startFails (w : World) (sender : Netaddr) (m : Manage) (s : State) : Bool :=
  match findProtoDisplay sender m.displayNumber s.protoDisplays with
  | none => false
  | some pdpy => decide (pdpy.sessionID = m.sessionID) && sessionFails w s.config sender pdpy

/-- Every display of XDMCP is attended, or one of them has no session, as `fails` says. -/
def State.AttendedUnless (fails : Bool) (s : State) : Prop :=
  if fails = true then ∃ d ∈ s.displays, d.displayType.origin = .fromXDMCP ∧ d.pid = -1
  else s.Attended

lemma wlp_fork_head {Q : Option Pid → State → Prop}
    (hnone : ∀ k, s.kernel.forks.head? = some none → Q none { s with kernel := k })
    (hsome : ∀ k p, s.kernel.forks.head? = some (some p) → p ≠ -1 →
      Q (some p) { s with kernel := k }) : Wlp fork Q s := by
  unfold fork
  rw [wlp_bind, wlp_get]
  split
  · simp
  · next hforks =>
    simp only [wlp_bind, wlp_set, wlp_pure]
    exact hnone _ (by rw [hforks, List.head?_cons])
  · next p forks hforks =>
    refine wlp_ite (fun hc => ?_) fun _ => by simp
    simp only [wlp_bind, wlp_set, wlp_pure]
    exact hsome _ p (by rw [hforks, List.head?_cons]) (pid_ne hc.1)

section

variable {u v : State} {x : Display} {pdpy : ProtoDisplay}

/-- Starting a new remote display changes the session process of this display only. -/
lemma wlp_startNew (ht : t.Sound [] none) (hu : u.displays = x :: t.displays)
    (hx : x.addr = t.nextAddr) (htype : x.displayType.location = .foreign) (hpid : x.pid = -1) :
    Wlp (startDisplay w t.nextAddr) (fun _ s' => ∃ y, s'.displays = y :: t.displays ∧
      y.displayType = x.displayType ∧ y.serverPid = x.serverPid ∧
      (y.pid = -1 ↔ u.kernel.forks.head? = some none)) u := by
  have hmem : x ∈ u.displays := hu ▸ List.mem_cons_self ..
  unfold startDisplay
  rw [wlp_bind]
  refine wlp_writeDisplay ?_ fun hnone => absurd hx (hnone x hmem)
  have hv := ht.write_cons hu hx fun d => { d with
    resources := w.serverResources d.name d.className }
  generalize hveq : (u.write t.nextAddr fun d => { d with
    resources := w.serverResources d.name d.className }) = v at hv
  have hkernel : v.kernel = u.kernel := by rw [← hveq, State.write_kernel]
  rw [wlp_bind]
  refine wlp_readDisplay fun d hd hda => ?_
  obtain rfl := (List.mem_cons.1 (hv ▸ hd)).resolve_right fun hold => by
    have := ht.bound d hold
    omega
  rw [if_neg (by simp [htype])]
  unfold startDisplay.startSession
  rw [wlp_bind]
  refine wlp_fork_head (fun k hhead => ?_) fun k p hhead hp => ?_
  · rw [hkernel] at hhead
    exact (wlp_pure _ _ _).2 ⟨_, hv, rfl, rfl, iff_of_true hpid hhead⟩
  · rw [hkernel] at hhead
    have hput := ht.write_cons (v := { v with kernel := k }) hv hda fun d => { d with
      pid := p, status := .running }
    refine wlp_writeDisplay ⟨_, hput, rfl, rfl, iff_of_false hp (by simp [hhead])⟩
      fun hnone => absurd hda (hnone _ hd)

/-- A list with one display of XDMCP more, which is new. -/
lemma State.Attended.cons_iff {fails : Bool} (ht : t.Attended)
    (hs : s.displays = x :: t.displays) (htype : x.displayType = ⟨.foreign, .transient, .fromXDMCP⟩)
    (hserver : x.serverPid = -1) (hpid : x.pid = -1 ↔ fails = true) : s.AttendedUnless fails := by
  have horigin : x.displayType.origin = .fromXDMCP := by rw [htype]
  unfold State.AttendedUnless
  split_ifs with hf
  · exact ⟨x, hs ▸ List.mem_cons_self .., horigin, hpid.2 hf⟩
  · intro d hd ho
    rcases List.mem_cons.1 (hs ▸ hd) with rfl | hd
    · exact ⟨fun h => hf (hpid.1 h), hserver, by rw [htype]⟩
    · exact ht d hd ho

/-- What `manage` makes of the new display. -/
lemma wlp_finishManaged_attended {name : Str} (ht : SoundAttended [] t) (hv : Opened t x v)
    (hforks : t.kernel.forks = w.forks)
    (htype : x.displayType = ⟨.foreign, .transient, .fromXDMCP⟩) (hproc : ∀ r, x.proc r = -1) :
    Wlp (do
      if ← installAuthorization w sender m.sessionID name t.nextAddr pdpy then
        disposeProtoDisplay pdpy.addr
        startDisplay w t.nextAddr)
      (fun _ s' => s'.AttendedUnless ((pdpy.fileAuthorization.isSome &&
        !w.alloc.authorizations) || decide (w.forks.head? = some none))) v := by
  have hgo : ∀ y u, Opened t y u → y.displayType = x.displayType → (∀ r, y.proc r = -1) →
      Wlp (do
        disposeProtoDisplay pdpy.addr
        startDisplay w t.nextAddr)
        (fun _ s' => s'.AttendedUnless (decide (w.forks.head? = some none))) u := by
    intro y u hu hy hyproc
    simp only [disposeProtoDisplay, wlp_bind, wlp_modify]
    refine (wlp_startNew (u := u.dispose pdpy.addr) ht.1 hu.displays hu.addr
      (by rw [hy, htype]) (hyproc .session)).mono fun _ s' h => ?_
    obtain ⟨z, hz, hztype, hzserver, hzpid⟩ := h
    refine ht.2.cons_iff hz (hztype.trans (hy.trans htype)) (hzserver.trans (hyproc .server)) ?_
    rw [hzpid, decide_eq_true_eq, ← hforks, ← hu.kernel, State.dispose]
  rw [wlp_bind]
  unfold installAuthorization
  split
  · next hnone =>
    rw [wlp_pure, if_pos rfl, hnone, Option.isSome_none, Bool.false_and, Bool.false_or]
    exact hgo x v hv rfl hproc
  · next auth hauth =>
    rw [hauth, Option.isSome_some, Bool.true_and]
    refine wlp_ite (fun halloc => ?_) fun halloc => ?_
    · rw [wlp_bind, halloc, Bool.not_true, Bool.false_or]
      refine hv.wlp_write ht.1 rfl fun v' hv' => ?_
      rw [wlp_pure, if_pos rfl]
      exact hgo _ v' hv' rfl fun r => by cases r <;> [exact hproc .session; exact hproc .server]
    · rw [Bool.not_eq_true] at halloc
      simp only [wlp_bind, wlp_modify, sendFailedTo, emit, wlp_pure, Bool.false_eq_true, if_false,
        halloc, Bool.not_false, Bool.true_or]
      exact ht.2.cons_iff (x := x) hv.displays htype (hproc .server)
        (iff_of_true (hproc .session) rfl)

lemma wlp_startManaged_attended (hs : SoundAttended [] s) (hforks : s.kernel.forks = w.forks) :
    Wlp (startManaged w fd sender m pdpy)
      (fun _ s' => s'.AttendedUnless (sessionFails w s.config sender pdpy)) s := by
  unfold startManaged sessionFails
  simp only [wlp_bind, wlp_get]
  split
  · next hname =>
    simp only [sendFailedTo, emit, wlp_modify, hname]
    exact hs.2
  next name hname =>
  rw [wlp_bind, hname, Option.isSome_some, Bool.true_and]
  have hterminate : Wlp (terminateActive name)
      (fun _ t => SoundAttended [] t ∧ t.kernel = s.kernel) s := by
    unfold terminateActive
    simp only [wlp_bind, wlp_get]
    split
    · next d _ =>
      exact ((keepsAttended_stopDisplay s hs).and ((SameKernel.moves d.addr).stopDisplay s
        trivial)).mono fun _ t h => ⟨h.1.1, h.2.2⟩
    · exact (wlp_pure _ _ _).2 ⟨hs, rfl⟩
  refine hterminate.mono fun _ t hterminated => ?_
  obtain ⟨ht, hkernel⟩ := hterminated
  refine wlp_ite (fun halloc => ?_) fun halloc => ?_
  · obtain ⟨h₁, h₂, h₃⟩ := halloc
    rw [h₁, h₂, h₃, Bool.true_and, Bool.true_and, Bool.true_and, wlp_bind]
    refine Opened.wlp_newDisplay fun v₁ hv₁ => ?_
    simp only [wlp_bind]
    refine hv₁.wlp_write ht.1 rfl fun v₂ hv₂ => hv₂.wlp_chooserFor fun chooser v₃ hv₃ =>
      hv₃.wlp_write ht.1 rfl fun v₄ hv₄ => ?_
    rw [← wlp_bind]
    exact wlp_finishManaged_attended ht hv₄ (hkernel ▸ hforks) rfl (by rintro (_ | _) <;> rfl)
  · have hfalse : (w.alloc.className && w.alloc.fromSave && w.alloc.newDisplay) = false := by
      rw [← Bool.not_eq_true, Bool.and_eq_true, Bool.and_eq_true, and_assoc]
      exact halloc
    simp only [sendFailedTo, emit, wlp_modify, hfalse, Bool.false_and]
    exact ht.2

lemma wlp_answerManage_attended (hs : SoundAttended [] s) (hforks : s.kernel.forks = w.forks) :
    Wlp (answerManage w fd sender m)
      (fun _ s' => s'.AttendedUnless (startFails w sender m s)) s := by
  unfold answerManage startFails
  simp only [wlp_bind, wlp_get]
  have hrefuse : Wlp (sendRefuse sender m.sessionID) (fun _ s' => s'.AttendedUnless false) s :=
    (wlp_modify _ _ _).2 hs.2
  split
  · next pdpy hfind =>
    simp only [hfind]
    refine wlp_ite (fun hid => ?_) fun hid => ?_
    · rw [decide_eq_true hid, Bool.true_and]
      exact wlp_startManaged_attended hs hforks
    · rw [decide_eq_false hid, Bool.false_and]
      exact hrefuse
  · next hnone =>
    simp only [hnone]
    split
    · exact wlp_ite (fun _ => (wlp_pure _ _ _).2 hs.2) fun _ => hrefuse
    · exact hrefuse

end

/-! ### Runs -/

/-- The step is a `MANAGE` that enters a display without a session. -/
def failsToStart (x : Step State Input) : Bool :=
  x.input.manage?.any fun p => startFails p.1 p.2.1 p.2.2 x.pre

/-- Of the operations only `MANAGE` may leave a display without a session. -/
lemma wlp_operation_attended (hm : i.manage? = none) (hs : SoundAttended [] s) :
    Wlp i.operation (fun _ s' => s'.Attended) s := by
  have hkeeps : ∀ {m : M Unit}, KeepsAttended [] m → Wlp m (fun _ s' => s'.Attended) s :=
    fun hk => (hk s hs).mono fun _ _ h => h.1.2
  cases i with
  | startUp w =>
    exact hkeeps (Keeps.bind (keepsAttended_loadConfig w) fun _ =>
      Keeps.bind (keepsAttended_loadDatabase w) fun _ =>
        Keeps.bind (keepsAttended_scanServers w) fun _ => keepsAttended_startDisplays w)
  | rescanServers w =>
    exact hkeeps (Keeps.bind (keeps_forEachDisplay keepsAttended_markDisplay) fun _ =>
      Keeps.bind (keepsAttended_loadConfig w) fun _ =>
        Keeps.bind (keepsAttended_scanServers w) fun _ =>
          Keeps.bind (keepsAttended_loadDatabase w) fun _ => keepsAttended_startDisplays w)
  | addDisplay w =>
    exact hkeeps (Keeps.bind (keeps_untilDisplay (keepsAttended_addDynamicDisplay w))
      fun _ => Keeps.pure _)
  | startDisplays w => exact hkeeps (keepsAttended_startDisplays w)
  | stopAll => exact hkeeps (keeps_forEachDisplay fun a => keepsAttended_stopDisplay)
  | waitForChild w exits => exact hkeeps (keepsAttended_waitForChild w exits)
  | datagram w fd sender bytes =>
    cases hr : requestIn bytes with
    | some r =>
      change Wlp (processRequestSocket w fd sender bytes) _ s
      rw [processRequestSocket_request w fd sender hr]
      exact wlp_answerRequest.mono fun _ s' h => hs.2.congr h.undisturbed.displays
    | none =>
      exact (talks_processRequestSocket w fd sender hr (Option.map_eq_none_iff.1 hm) s
        trivial).mono fun _ s' h => hs.2.congr h.2.displays
  | registerIndirectChoice w addr type choice =>
    refine (wlp_modify _ _ _).2 ?_
    split
    · exact hs.2
    · exact hs.2

lemma forks_of_manage (h : i.manage? = some (w, sender, m)) : i.kernel.1 = w.forks := by
  cases i with
  | datagram w' fd sender' bytes =>
    obtain ⟨_, -, heq⟩ := Option.map_eq_some_iff.1 h
    obtain ⟨rfl, -⟩ := Prod.mk.inj heq
    rfl
  | _ => exact nomatch h

lemma step_attended (hs : SoundAttended [] s) (hstep : step i s = some ((), s')) :
    s'.AttendedUnless (failsToStart ⟨s, i, s'⟩) := by
  have hop := operation_of_step hstep
  have hbegin : SoundAttended [] (s.begin i) := ⟨hs.1.begin i, hs.2⟩
  unfold failsToStart
  cases hm : i.manage? with
  | none => exact wlp_operation_attended hm hbegin _ _ hop
  | some p =>
    obtain ⟨w, sender, m⟩ := p
    obtain ⟨fd, hfd⟩ := operation_of_manage hm
    rw [hfd] at hop
    exact wlp_answerManage_attended hbegin (forks_of_manage hm) _ _ hop

/-- In every run: after each step every display of XDMCP has a session process, if and only
if no step is a `MANAGE` that enters a display for which the list of authorizations cannot be
allocated or `fork` fails. -/
theorem xdmcp_displays_attended_iff (run : DaemonRun config g h s) :
    (∀ x ∈ h, ∀ d ∈ x.post.displays, d.displayType.origin = .fromXDMCP → d.pid ≠ -1) ↔
      ∀ x ∈ h, failsToStart x = false := by
  constructor
  · intro hall
    have hI := run.invariant_of (C := fun x => ∀ d ∈ x.post.displays,
      d.displayType.origin = .fromXDMCP → d.pid ≠ -1)
      (I := fun h s => s.Attended ∧ ∀ x ∈ h, failsToStart x = false)
      ⟨by simp [State.Attended, State.initial], by simp⟩ ?_ hall
    · exact hI.2
    · rintro h s i s' run ⟨ha, hno⟩ hstep hC
      have hstep' := step_attended ⟨run_sound run, ha⟩ hstep
      unfold State.AttendedUnless at hstep'
      split_ifs at hstep' with hf
      · obtain ⟨d, hd, horigin, hpid⟩ := hstep'
        exact absurd hpid (hC d hd horigin)
      · refine ⟨hstep', fun x hx => ?_⟩
        rcases List.mem_append.1 hx with hx | hx
        · exact hno x hx
        · rw [List.mem_singleton.1 hx]
          simpa using hf
  · intro hno x hx d hd horigin
    obtain ⟨h₁, h₂, rfl, hrun, hstep⟩ := run.split hx
    have ha := hrun.invariant_of (C := fun x => failsToStart x = false)
      (I := fun _ s => s.Attended) (by simp [State.Attended, State.initial])
      (fun h s i s' run ha hstep hC => by
        simpa [State.AttendedUnless, hC] using step_attended ⟨run_sound run, ha⟩ hstep)
      fun y hy => hno y (List.mem_append_left _ hy)
    have hpost := step_attended ⟨run_sound hrun, ha⟩ hstep
    rw [State.AttendedUnless, if_neg (by simp [hno x hx])] at hpost
    exact (hpost d hd horigin).pid

/-! ### A failing `fork` -/

/-- A `REQUEST`, and two times the `MANAGE` for it, the first with this answer of `fork`. -/
def managedTwice (pid : Option Pid) : List Input :=
  [.request (World.lan 20 7) Netaddr.guest (Request.plain 0 []),
    .manage { World.lan 20 7 with forks := [pid] } Netaddr.guest ⟨1, 0, []⟩,
    .manage (World.lan 20 7) Netaddr.guest ⟨1, 0, []⟩]

/-- If `fork` fails the display stays in the list without a session, and the client's next
`MANAGE` is ignored. -/
theorem xdmcp_display_unattended : ∃ h s, DaemonRun Config.open 0 h s ∧
    h.map Step.input = managedTwice none ∧ s.out = [] ∧
    ∃ d ∈ s.displays, d.displayType.origin = .fromXDMCP ∧ d.pid = -1 :=
  exists_run_on _ (by decide +kernel)

/-- With a process from `fork` the client has its session. -/
theorem xdmcp_display_attended : ∃ h s, DaemonRun Config.open 0 h s ∧
    h.map Step.input = managedTwice (some 19) ∧
    (∃ d ∈ s.displays, d.displayType.origin = .fromXDMCP) ∧
    ∀ x ∈ h, ∀ d ∈ x.post.displays, d.displayType.origin = .fromXDMCP → d.pid ≠ -1 := by
  obtain ⟨h, s, run, hinputs, hd, hno⟩ : ∃ h s, DaemonRun Config.open 0 h s ∧
      h.map Step.input = managedTwice (some 19) ∧
      (∃ d ∈ s.displays, d.displayType.origin = .fromXDMCP) ∧
      ∀ x ∈ h, failsToStart x = false :=
    exists_run_on _ (by decide +kernel)
  exact ⟨h, s, run, hinputs, hd, (xdmcp_displays_attended_iff run).2 hno⟩

end Xdm
