/-
# Displays that come back

A display whose entry is gone from the servers file is stopped, and stays in the list as a
zombie until its server has ended.  If the entry is back by then, the scan finds the display by
its name and takes it for current; it is removed with its server all the same.  A display that
no scan finds as a zombie comes back: it is in the list from the scan on, and `StartDisplays`
starts it.
-/
import Xdm.Happenings
import Xdm.LocalDisplays
import Xdm.Removal

namespace Xdm

open Prog

variable {config : Config} {g : Nat} {s s' s'' t : State} {w : World} {a : Nat}
variable {name : Str} {d : Display} {dead : List Pid} {lines : List Str} {type : DisplayType}

/-! ### The lines of the servers file -/

/-- The lines that `ScanServers` parses. -/
def scanLines (w : World) (c : Config) : List Str :=
  if c.servers.head? = some '/' then w.serversText.getD [] else [c.servers]

lemma scanServers_eq (w : World) (s : State) :
    scanServers w s = ((scanLines w s.config).forM parseDisplay) s := by
  unfold scanServers scanLines
  rw [get_bind]
  split_ifs
  · cases w.serversText with
    | none => rfl
    | some lines => rfl
  · simp

/-- The display type that a line gives the display `name`, if the line is about it. -/
def lineType (name line : Str) : Option DisplayType :=
  match splitIntoWords line with
  | first :: type :: rest => if first = name then some (parseTypeWords type rest).1 else none
  | _ => none

/-- The display type of `name` after the lines.  The last line about it counts. -/
def typeIn (name : Str) : List Str → Option DisplayType
  | [] => none
  | line :: lines => (typeIn name lines).or (lineType name line)

/-- The display `name` has an entry, and is a permanent display. -/
def permanentIn (name : Str) (lines : List Str) : Bool :=
  (typeIn name lines).any fun type => type.lifetime = .permanent

lemma typeIn_origin (h : typeIn name lines = some type) : type.origin = .fromFile := by
  induction lines with
  | nil => cases h
  | cons line lines ih =>
    rcases Option.or_eq_some_iff.1 h with h | ⟨-, h⟩
    · exact ih h
    · unfold lineType at h
      split at h
      · split_ifs at h
        rw [← Option.some.inj h]
        exact parseTypeWords_origin _ _
      · cases h

/-- The lines that `RescanIfMod` scans, if it scans. -/
def rescannedLines (w : World) (c : Config) : Option (List Str) :=
  let c' := if w.configChanged then w.config else c
  if c'.servers.head? = some '/' ∧ w.serversChanged then some (scanLines w c') else none

/-- The lines that are scanned when this happens, if some are. -/
def Happening.scan? (c : Config) : Happening → Option (List Str)
  | .firstScan w | .rescan w => some (scanLines w w.config)
  | .child e => if c.autoRescan then rescannedLines e.world c else none
  | .begins _ | .starts _ => none

/-- The lines scanned in a step of a run. -/
def scanned (x : Step State Happening) : Option (List Str) := x.input.scan? x.pre.config

/-! ### What a scan does to a display that is there -/

/-- What is counted of the starts of a display. -/
structure Display.SameTries (d x : Display) : Prop where
  startTries : x.startTries = d.startTries
  lastReserv : x.lastReserv = d.lastReserv
  reservTries : x.reservTries = d.reservTries
  resources : x.resources = d.resources

/-- The display is `d`, but for what its entry says. -/
structure Display.Rescanned (d x : Display) : Prop extends d.SameTries x where
  name : x.name = d.name
  pid : x.pid = d.pid
  status : x.status = d.status

lemma Display.Rescanned.refl (d : Display) : d.Rescanned d := ⟨⟨rfl, rfl, rfl, rfl⟩, rfl, rfl, rfl⟩

lemma Display.Rescanned.trans {d x y : Display} (h : d.Rescanned x) (h' : x.Rescanned y) :
    d.Rescanned y where
  startTries := h'.startTries.trans h.startTries
  lastReserv := h'.lastReserv.trans h.lastReserv
  reservTries := h'.reservTries.trans h.reservTries
  resources := h'.resources.trans h.resources
  name := h'.name.trans h.name
  pid := h'.pid.trans h.pid
  status := h'.status.trans h.status

/-- From `s` to `s'` files have been read: displays may have been entered, and are idle, and
nobody has been started or stopped. -/
def Scans (s s' : State) : Prop :=
  ∀ x ∈ s'.displays, x.status = .notRunning ∧ x.pid = -1 ∨
    ∃ d ∈ s.displays, d.Rescanned x

namespace Scans

lemma of_eq (h : s'.displays = s.displays) : Scans s s' :=
  fun x hx => Or.inr ⟨x, h ▸ hx, .refl x⟩

lemma trans (h : Scans s s') (h' : Scans s' s'') : Scans s s'' := by
  intro y hy
  rcases h' y hy with hidle | ⟨x, hx, hsame⟩
  · exact Or.inl hidle
  · rcases h x hx with ⟨hstatus, hpid⟩ | ⟨d, hd, hsame'⟩
    · exact Or.inl ⟨hsame.status.trans hstatus, hsame.pid.trans hpid⟩
    · exact Or.inr ⟨d, hd, hsame'.trans hsame⟩

instance : Std.Refl Scans := ⟨fun _ => of_eq rfl⟩
instance : IsTrans State Scans := ⟨fun _ _ _ => trans⟩

lemma write {f : Display → Display} (hf : ∀ d : Display, d.Rescanned (f d)) :
    Scans s (s.write a f) := by
  intro x hx
  rcases State.mem_write.1 hx with ⟨d, hd, -, rfl⟩ | ⟨hx, -⟩
  · exact Or.inr ⟨d, hd, hf d⟩
  · exact Or.inr ⟨x, hx, .refl x⟩

lemma markDisplay (a : Nat) : Respects Scans (Xdm.markDisplay a) := fun _ _ =>
  wlp_writeDisplay ⟨trivial, write fun _ => ⟨⟨rfl, rfl, rfl, rfl⟩, rfl, rfl, rfl⟩⟩
    fun _ => ⟨trivial, of_eq rfl⟩

lemma parseDisplay (source : Str) : Respects Scans (Xdm.parseDisplay source) := by
  intro s _
  refine wlp_parseDisplay_of source ⟨trivial, of_eq rfl⟩
    (fun _ _ => ⟨trivial, write fun _ => ⟨⟨rfl, rfl, rfl, rfl⟩, rfl, rfl, rfl⟩⟩)
    fun {name _ className _} _ _ => ⟨trivial, ?_⟩
  have henter : Scans s (s.enter (newDisplayAt s.nextAddr name className)) := by
    intro x hx
    rcases List.mem_cons.1 hx with rfl | hx
    · exact Or.inl ⟨rfl, rfl⟩
    · exact Or.inr ⟨x, hx, .refl x⟩
  exact henter.trans (write fun _ => ⟨⟨rfl, rfl, rfl, rfl⟩, rfl, rfl, rfl⟩)

lemma loadConfig (w : World) : Respects Scans (Xdm.loadConfig w) :=
  Keeps.modify fun _ _ => ⟨trivial, of_eq rfl⟩

lemma loadDatabase (w : World) : Respects Scans (Xdm.loadDatabase w) :=
  Keeps.modify fun _ _ => ⟨trivial, of_eq rfl⟩

lemma scanServers (w : World) : Respects Scans (Xdm.scanServers w) :=
  keeps_scanServers_of w parseDisplay

lemma rescanIfMod (w : World) : Respects Scans (Xdm.rescanIfMod w) :=
  keeps_rescanIfMod_of (loadConfig w) (keeps_forEachDisplay markDisplay) (scanServers w)
    (loadDatabase w)

end Scans

/-! ### The display of an entry -/

/-- The display `name` is in the list, with an entry that gives it the type. -/
def State.Entered (s : State) (name : Str) (type : DisplayType) : Prop :=
  ∃ d ∈ s.displays, d.name = name ∧ d.displayType = type ∧ d.state ≠ .missingEntry

/-- A line enters the display it is about, and keeps those entered before. -/
lemma wlp_parseDisplay_entered (hs : s.Sound dead none) (name line : Str) :
    Wlp (parseDisplay line) (fun _ t => ∀ type, lineType name line = some type ∨
      lineType name line = none ∧ s.Entered name type → t.Entered name type) s := by
  have hnothing (hparse : parseDisplay line = pure ()) (htype : lineType name line = none) :
      Wlp (parseDisplay line) (fun _ t => ∀ type, lineType name line = some type ∨
        lineType name line = none ∧ s.Entered name type → t.Entered name type) s := by
    rw [hparse, htype]
    refine (wlp_pure _ _ _).2 ?_
    rintro type (h | ⟨-, h⟩)
    · exact nomatch h
    · exact h
  rcases hwords : splitIntoWords line with _ | ⟨first, _ | ⟨word, rest⟩⟩
  · exact hnothing (by simp only [parseDisplay, hwords]) (by simp only [lineType, hwords])
  · exact hnothing (by simp only [parseDisplay, hwords]) (by simp only [lineType, hwords])
  · simp only [parseDisplay, lineType, hwords]
    generalize parseTypeWords word rest = parsed
    obtain ⟨displayType, className, argv⟩ := parsed
    simp only [wlp_bind, wlp_get]
    split
    · next d hfind =>
      have hd : d ∈ s.displays := List.mem_of_find?_eq_some hfind
      have hname : first = d.name := by simpa using List.find?_some hfind
      refine wlp_ite (fun _ => by simp) fun _ => ?_
      refine wlp_writeDisplay ?_ fun hnone => absurd rfl (hnone d hd)
      rintro type (h | ⟨h, x, hx, hxname, hxtype, hxstate⟩)
      · split_ifs at h with hfirst
        exact ⟨_, State.mem_write.2 (Or.inl ⟨d, hd, rfl, rfl⟩), hname.symm.trans hfirst,
          Option.some.inj h, by simp⟩
      · split_ifs at h with hfirst
        refine ⟨x, State.mem_write.2 (Or.inr ⟨hx, fun hxa => hfirst ?_⟩), hxname, hxtype, hxstate⟩
        rw [hname, ← hs.distinct.eq_of_mem hx hd hxa, hxname]
    · rw [wlp_bind]
      intro d t ht
      rw [newDisplay_eq] at ht
      obtain ⟨rfl, rfl⟩ := Prod.mk.inj (Option.some.inj ht)
      refine wlp_writeDisplay ?_ fun hnone => absurd rfl (hnone _ (List.mem_cons_self ..))
      rintro type (h | ⟨h, x, hx, hxname, hxtype, hxstate⟩)
      · split_ifs at h with hfirst
        exact ⟨_, State.mem_write.2 (Or.inl ⟨_, List.mem_cons_self .., rfl, rfl⟩), hfirst,
          Option.some.inj h, by simp [newDisplayAt]⟩
      · have hbound : x.addr < s.nextAddr := hs.bound x hx
        refine ⟨x, State.mem_write.2 (Or.inr ⟨List.mem_cons_of_mem _ hx, ?_⟩), hxname, hxtype,
          hxstate⟩
        omega

lemma wlp_parseLines_entered (hs : s.Sound dead none) (name : Str) (lines : List Str) :
    Wlp (lines.forM parseDisplay) (fun _ t => ∀ type, typeIn name lines = some type ∨
      typeIn name lines = none ∧ s.Entered name type → t.Entered name type) s := by
  induction lines generalizing s with
  | nil =>
    refine (wlp_pure _ _ _).2 ?_
    rintro type (h | ⟨-, h⟩)
    · cases h
    · exact h
  | cons line lines ih =>
    change Wlp (parseDisplay line >>= fun _ => lines.forM parseDisplay) _ s
    rw [wlp_bind]
    refine ((keeps_parseDisplay line s hs).and (wlp_parseDisplay_entered hs name line)).mono
      fun _ t h => (ih h.1.1).mono fun _ u hu type htype => hu type ?_
    rcases htype with htype | ⟨htype, hentered⟩
    · rcases Option.or_eq_some_iff.1 htype with htype | ⟨hnone, htype⟩
      · exact Or.inl htype
      · exact Or.inr ⟨hnone, h.2 type (Or.inl htype)⟩
    · obtain ⟨hnone, hline⟩ := Option.or_eq_none_iff.1 htype
      exact Or.inr ⟨hnone, h.2 type (Or.inr ⟨hline, hentered⟩)⟩

/-- A permanent display of the servers file that is not about to be removed. -/
structure Display.Kept (name : Str) (d : Display) : Prop where
  name : d.name = name
  state : d.state ≠ .missingEntry
  origin : d.displayType.origin = .fromFile
  lifetime : d.displayType.lifetime = .permanent
  status : d.status ≠ .zombie

/-- The display `name` is in the list, and is not about to be removed. -/
def State.HasKept (s : State) (name : Str) : Prop := ∃ d ∈ s.displays, d.Kept name

/-- No display with this name is a zombie. -/
def State.NoZombie (s : State) (name : Str) : Prop :=
  ∀ d ∈ s.displays, d.name = name → d.status ≠ .zombie

lemma State.HasKept.congr (h : s.HasKept name) (hd : s'.displays = s.displays) :
    s'.HasKept name := by
  rw [State.HasKept, hd]
  exact h

lemma State.NoZombie.scans (h : s.NoZombie name) (hs : Scans s s') : s'.NoZombie name := by
  intro x hx hname
  rcases hs x hx with ⟨hstatus, -⟩ | ⟨d, hd, hsame⟩
  · simp [hstatus]
  · rw [hsame.status]
    exact h d hd (hsame.name.symm.trans hname)

/-- A scan of an entry, unless the display is a zombie. -/
lemma wlp_scanServers_kept (hs : s.Sound dead none) (hno : s.NoZombie name)
    (hentry : permanentIn name (scanLines w s.config) = true) :
    Wlp (scanServers w) (fun _ t => t.HasKept name) s := by
  refine Wlp.mono (((Scans.scanServers w s trivial).and
    ((wlp_parseLines_entered hs name _).of_eq (scanServers_eq w s)))) fun _ t h => ?_
  obtain ⟨type, htype, hlifetime⟩ := (Option.any_eq_true _ _).1 hentry
  obtain ⟨d, hd, hname, rfl, hstate⟩ := h.2 type (Or.inl htype)
  exact ⟨d, hd, hname, hstate, typeIn_origin htype, by simpa using hlifetime,
    hno.scans h.1.2 d hd hname⟩

/-- The configuration has not been loaded in between. -/
def SameConfig (s s' : State) : Prop := s'.config = s.config

instance : Std.Refl SameConfig := ⟨fun _ => rfl⟩
instance : IsTrans State SameConfig := ⟨fun _ _ _ h h' => Eq.trans h' h⟩

lemma wlp_markDisplays (hs : s.Sound dead none) (hno : s.NoZombie name) :
    Wlp (forEachDisplay markDisplay)
      (fun _ t => t.Sound dead none ∧ t.NoZombie name ∧ t.config = s.config) s := by
  have hconfig : ∀ a, Respects SameConfig (markDisplay a) := fun _ _ _ =>
    wlp_writeDisplay ⟨trivial, rfl⟩ fun _ => ⟨trivial, rfl⟩
  refine (((keeps_forEachDisplay keeps_markDisplay s hs).and
    (keeps_forEachDisplay Scans.markDisplay s trivial)).and
      (keeps_forEachDisplay hconfig s trivial)).mono fun _ t h => ?_
  exact ⟨h.1.1.1, hno.scans h.1.2.2, h.2.2⟩

/-- `RescanIfMod` keeps the display of an entry: if it scans, the entry must still be there. -/
lemma wlp_rescanIfMod_kept (hs : s.Sound dead none)
    (hscan : ∀ lines, rescannedLines w s.config = some lines →
      permanentIn name lines = true ∧ s.NoZombie name)
    (hkept : rescannedLines w s.config = none → s.HasKept name) :
    Wlp (rescanIfMod w) (fun _ t => t.HasKept name) s := by
  have hdatabase : ∀ (c : State) {t : State}, t.HasKept name → Wlp
      (if c.config.accessFile ≠ [] ∧ w.accessChanged = true then loadDatabase w
        else pure () : M Unit) (fun _ t => t.HasKept name) t := fun _ t ht =>
    wlp_ite (fun _ => (wlp_modify _ _ _).2 (ht.congr rfl)) fun _ => (wlp_pure _ _ _).2 ht
  -- the rest, once the configuration has been read
  have hrest : ∀ t : State, t.displays = s.displays → t.Sound dead none →
      t.config = (if w.configChanged then w.config else s.config) → Wlp (do
        let s ← get
        if s.config.servers.head? = some '/' ∧ w.serversChanged then
          forEachDisplay markDisplay
          scanServers w
        if s.config.accessFile ≠ [] ∧ w.accessChanged then loadDatabase w : M Unit)
        (fun _ t => t.HasKept name) t := by
    intro t hd ht hconfig
    rw [wlp_bind, wlp_get]
    have hlines : rescannedLines w s.config = if t.config.servers.head? = some '/' ∧
        w.serversChanged = true then some (scanLines w t.config) else none := by
      rw [rescannedLines, hconfig]
    refine wlp_ite (fun hc => ?_) fun hc => ?_
    · rw [if_pos hc] at hlines
      obtain ⟨hentry, hno⟩ := hscan _ hlines
      have hno : t.NoZombie name := fun x hx => hno x (hd ▸ hx)
      rw [wlp_bind]
      refine (wlp_markDisplays ht hno).mono fun _ u hu => ?_
      rw [wlp_bind]
      rw [← hu.2.2] at hentry
      exact (wlp_scanServers_kept hu.1 hu.2.1 hentry).mono fun _ v hv => hdatabase t hv
    · rw [if_neg hc] at hlines
      exact hdatabase t ((hkept hlines).congr hd)
  unfold rescanIfMod
  refine wlp_ite (fun hc => ?_) fun hc => ?_
  · rw [wlp_bind, loadConfig, wlp_modify]
    exact hrest _ rfl (hs.congr rfl rfl (Nat.le_refl _)) (if_pos hc).symm
  · exact hrest s rfl hs (if_neg hc).symm

/-! ### The end of a process -/

/-- The display is given up when its session ends like this: it asks for that, or it has been
started too often, or its server has crashed too often. -/
def Display.givenUp (d : Display) (now : Time) (val : Int) : Bool :=
  if val = obeysessDisplay ∨ val = remanageDisplay then false
  else if val = openfailedDisplay ∨ val = sigterm * 256 then
    d.resources.startAttempts ≤ d.startTries + 1
  else if val = reserverDisplay then d.crashes now
  else true

lemma givenUp_of_sameTries {x : Display} (h : d.SameTries x) (now : Time) (val : Int) :
    x.givenUp now val = d.givenUp now val := by
  simp only [Display.givenUp, Display.crashes, h.startTries, h.lastReserv, h.reservTries,
    h.resources]

/-- The display at `a` is kept, and more is known of it. -/
abbrev KeptAt (name : Str) (a : Nat) (P : Display → Prop) (s : State) : Prop :=
  ListedWhere a (fun d => d.Kept name ∧ P d) s

variable {P Q : Display → Prop}

lemma KeptAt.hasKept (h : KeptAt name a P s) : s.HasKept name := by
  obtain ⟨⟨d, hd, hda⟩, hw⟩ := h
  exact ⟨d, hd, (hw d hd hda).1⟩

lemma KeptAt.mono (h : KeptAt name a P s) (hPQ : ∀ d : Display, P d → Q d) : KeptAt name a Q s :=
  ⟨h.1, fun d hd hda => ⟨(h.2 d hd hda).1, hPQ d (h.2 d hd hda).2⟩⟩

lemma KeptAt.congr (h : KeptAt name a P s) (hd : s'.displays = s.displays) :
    KeptAt name a P s' := by
  rw [KeptAt, ListedWhere, State.Listed, State.Where, hd]
  exact h

lemma wlp_writeKept {f : Display → Display} (hs : KeptAt name a P s)
    (haddr : ∀ d, (f d).addr = d.addr)
    (hf : ∀ d : Display, d.Kept name → P d → (f d).Kept name ∧ Q (f d)) :
    Wlp (writeDisplay a f) (fun _ t => KeptAt name a Q t) s := by
  refine (wp_writeDisplay hs.1 ⟨hs.1.write haddr, fun d hd hda => ?_⟩).wlp
  rcases State.mem_write.1 hd with ⟨x, hx, hxa, rfl⟩ | ⟨-, hne⟩
  · exact hf x (hs.2 x hx hxa).1 (hs.2 x hx hxa).2
  · exact absurd hda hne

lemma wlp_readKept {Q : Display → State → Prop} (hs : KeptAt name a P s)
    (h : ∀ d, d.Kept name → P d → Q d s) : Wlp (readDisplay a) Q s :=
  wlp_readDisplay fun d hd hda => h d (hs.2 d hd hda).1 (hs.2 d hd hda).2

/-- `RestartDisplay` does not remove the display. -/
lemma wlp_restartKept (hs : KeptAt name a P s) (force : Bool) :
    Wlp (restartDisplay a force) (fun _ t => KeptAt name a (fun _ => True) t) s := by
  have hstatus : ∀ status, status ≠ .zombie → ∀ t : State, KeptAt name a P t →
      Wlp (writeDisplay a fun display => { display with status := status })
        (fun _ u => KeptAt name a (fun _ => True) u) t := fun status hne t ht =>
    wlp_writeKept ht (fun _ => rfl) fun d hd _ =>
      ⟨⟨hd.name, hd.state, hd.origin, hd.lifetime, hne⟩, trivial⟩
  unfold restartDisplay
  rw [wlp_bind]
  refine wlp_readKept hs fun d _ _ => wlp_ite (fun _ => ?_) fun _ => hstatus _ (by simp) s hs
  rw [wlp_bind]
  exact wlp_terminateProcess (hstatus _ (by simp) _ hs)

/-- A store that concerns neither the entry nor the status of the display. -/
structure Tally (f : Display → Display) : Prop where
  addr : ∀ d, (f d).addr = d.addr
  name : ∀ d, (f d).name = d.name
  state : ∀ d, (f d).state = d.state
  displayType : ∀ d, (f d).displayType = d.displayType
  status : ∀ d, (f d).status = d.status

lemma Tally.kept {f : Display → Display} (hf : Tally f) (hd : d.Kept name) : (f d).Kept name where
  name := (hf.name d).trans hd.name
  state := hf.state d ▸ hd.state
  origin := hf.displayType d ▸ hd.origin
  lifetime := hf.displayType d ▸ hd.lifetime
  status := hf.status d ▸ hd.status

lemma wlp_tally {f : Display → Display} (hf : Tally f) (hs : KeptAt name a P s)
    (hPQ : ∀ d, P d → Q (f d)) : Wlp (writeDisplay a f) (fun _ t => KeptAt name a Q t) s :=
  wlp_writeKept hs hf.addr fun d hd hP => ⟨hf.kept hd, hPQ d hP⟩

/-- The display is counted, and nothing is known about the counters. -/
lemma wlp_tallied {f : Display → Display} (hf : Tally f) (hs : KeptAt name a P s) :
    Wlp (writeDisplay a f) (fun _ t => KeptAt name a (fun _ => True) t) s :=
  wlp_tally hf hs fun _ _ => trivial

lemma wlp_restart_hasKept (hs : KeptAt name a P s) (force : Bool) :
    Wlp (restartDisplay a force) (fun _ t => t.HasKept name) s :=
  (wlp_restartKept hs force).mono fun _ _ ht => ht.hasKept

/-- The display may be started once more. -/
lemma wlp_lastStart_kept (hs : KeptAt name a d.SameTries s)
    (hfew : ¬ d.resources.startAttempts ≤ d.startTries + 1) : Wlp (do
      if ← lastStart a then stopDisplay a else restartDisplay a true)
      (fun _ t => t.HasKept name) s := by
  unfold lastStart
  simp only [wlp_bind]
  refine wlp_readKept hs fun x hx hsame => ?_
  rw [if_neg (by simp [hx.origin, hx.status]), wlp_bind]
  refine (wlp_tallied ?_ hs).mono fun _ t ht => ?_
  · constructor <;> intro _ <;> rfl
  rw [wlp_pure, hsame.resources, hsame.startTries, decide_eq_false hfew]
  exact wlp_restart_hasKept ht true

/-- What is counted of the crashes of its server. -/
structure Display.SameCrashes (d x : Display) : Prop where
  lastReserv : x.lastReserv = d.lastReserv
  reservTries : x.reservTries = d.reservTries
  resources : x.resources = d.resources

/-- The server may crash once more. -/
lemma wlp_reserver_kept {now : Time} (hs : KeptAt name a d.SameCrashes s)
    (hfew : d.crashes now = false) :
    Wlp (reserver a now) (fun _ t => t.HasKept name) s := by
  have hrest : ∀ {c : Bool} {t : State}, (c = true → ¬ d.resources.reservAttempts ≤
      d.reservTries + 1) → KeptAt name a (fun _ => True) t → Wlp (do
        if c = true ∧ d.resources.reservAttempts ≤ d.reservTries + 1 then stopDisplay a
        else restartDisplay a true
        writeDisplay a fun display => { display with lastReserv := now })
        (fun _ u => u.HasKept name) t := by
    intro c t hc ht
    rw [if_neg fun hboth => hc hboth.1 hboth.2, wlp_bind]
    refine (wlp_restartKept ht true).mono fun _ u hu => ?_
    refine (wlp_tallied ?_ hu).mono fun _ v hv =>
      hv.hasKept
    constructor <;> intro _ <;> rfl
  unfold reserver
  rw [wlp_bind]
  refine wlp_readKept hs fun x hx hsame => ?_
  rw [hsame.lastReserv, hsame.reservTries, hsame.resources]
  simp only [Display.crashes, decide_eq_false_iff_not] at hfew
  refine wlp_ite (fun hc => ?_) fun hc => ?_
  all_goals
    rw [wlp_bind]
    refine (wlp_tallied ?_ hs).mono fun _ t ht => ?_
    · constructor <;> intro _ <;> rfl
    refine hrest (fun hcrash htries => hfew ?_) ht
    rw [decide_eq_true_eq] at hcrash
    exact ⟨hcrash.1, hcrash.2, htries⟩

/-- A session that does not end so that the display is given up. -/
lemma wlp_sessionEnded_kept {val : Int} (hs : KeptAt name a d.SameTries s)
    (hgiven : d.givenUp w.time val = false) :
    Wlp (sessionEnded w a val) (fun _ t => t.HasKept name) s := by
  unfold sessionEnded
  rw [wlp_bind]
  refine Wlp.mono (wlp_tally (Q := d.SameTries) ?_ hs fun x hx => ⟨hx.startTries, hx.lastReserv,
    hx.reservTries, hx.resources⟩) fun _ t ht => ?_
  · constructor <;> intro _ <;> rfl
  rw [wlp_bind]
  refine wlp_readKept ht fun x hx hsame => ?_
  -- the display is permanent, from the servers file, and no zombie
  simp only [hx.origin, hx.lifetime, hx.status, reduceCtorEq, ne_eq, not_true_eq_false, or_self,
    if_false]
  have hclear : Wlp (clearStartTries a) (fun _ u => KeptAt name a d.SameCrashes u) t := by
    refine wlp_tally ?_ ht fun y hy => ⟨hy.lastReserv, hy.reservTries, hy.resources⟩
    constructor <;> intro _ <;> rfl
  unfold Display.givenUp at hgiven
  refine wlp_ite (fun hval => ?unmanage) fun _ => wlp_ite (fun hval => ?obeysess) fun h₁ =>
    wlp_ite (fun hval => ?openfailed) fun h₂ => wlp_ite (fun hval => ?reserver) fun h₃ =>
      wlp_ite (fun hval => ?sigterm) fun h₄ => wlp_ite (fun hval => ?remanage) fun h₅ => ?other
  case unmanage =>
    rw [hval, if_neg (by decide), if_neg (by decide), if_neg (by decide)] at hgiven
    cases hgiven
  case obeysess =>
    rw [wlp_bind]
    refine hclear.mono fun _ u hu => ?_
    rw [wlp_bind]
    refine (wlp_tallied ?_ hu).mono fun _ v hv =>
      wlp_restart_hasKept hv false
    constructor <;> intro _ <;> rfl
  case openfailed =>
    rw [hval, if_neg (by decide), if_pos (by decide), decide_eq_false_iff_not] at hgiven
    exact wlp_lastStart_kept ht hgiven
  case reserver =>
    rw [hval, if_neg (by decide), if_neg (by decide), if_pos rfl] at hgiven
    rw [wlp_bind]
    exact hclear.mono fun _ u hu => wlp_reserver_kept hu hgiven
  case sigterm =>
    rw [hval, if_neg (by decide), if_pos (by decide), decide_eq_false_iff_not] at hgiven
    exact wlp_lastStart_kept ht hgiven
  case remanage =>
    rw [wlp_bind]
    exact hclear.mono fun _ u hu => wlp_restart_hasKept hu false
  case other =>
    rw [if_neg (not_or.2 ⟨h₁, h₅⟩), if_neg (not_or.2 ⟨h₂, h₄⟩), if_neg h₃] at hgiven
    cases hgiven

/-- The end of a server that has not been killed to remove the display. -/
lemma wlp_serverEnded_kept (hs : KeptAt name a P s) :
    Wlp (serverEnded a) (fun _ t => t.HasKept name) s := by
  unfold serverEnded
  rw [wlp_bind]
  refine (wlp_tallied ?_ hs).mono fun _ t ht => ?_
  · constructor <;> intro _ <;> rfl
  rw [wlp_bind]
  refine wlp_readKept ht fun x hx _ => ?_
  split
  · next hzombie => exact absurd hzombie hx.status
  · refine Wlp.mono (wlp_writeKept (Q := fun _ => True) ht ?_ ?_) fun _ u hu => hu.hasKept
    · exact fun _ => rfl
    · exact fun y hy _ => ⟨⟨hy.name, hy.state, hy.origin, hy.lifetime, by simp⟩, trivial⟩
  · refine wlp_ite (fun _ => wlp_terminateProcess ?_) fun _ => (wlp_pure _ _ _).2 ht.hasKept
    exact ht.hasKept.congr rfl
  · exact (wlp_pure _ _ _).2 ht.hasKept

/-- The end of a child, unless the display is given up for it. -/
lemma wlp_displayEnded_kept {e : Exit} (hs : s.Sound dead none) (hkept : s.HasKept name)
    (hgiven : ∀ d ∈ s.displays, d.name = name → d.pid = e.pid →
      d.givenUp e.world.time e.status.val = false) :
    Wlp (displayEnded e) (fun _ t => t.HasKept name) s := by
  obtain ⟨d, hd, hdkept⟩ := hkept
  -- the child is of the display, or of another one
  have hcases : ∀ {x : Display} {m : M Unit}, x ∈ s.displays → Respects (Only x.addr) m →
      (KeptAt name x.addr x.SameTries s → Wlp m (fun _ t => t.HasKept name) s) →
      Wlp m (fun _ t => t.HasKept name) s := by
    intro x m hx honly hown
    by_cases hda : d.addr = x.addr
    · obtain rfl := hs.distinct.eq_of_mem hd hx hda
      exact hown ⟨⟨d, hd, rfl⟩, hs.where_of_mem hd rfl ⟨hdkept, ⟨rfl, rfl, rfl, rfl⟩⟩⟩
    · exact (honly s trivial).mono fun _ t ht => ⟨d, (ht.2 d hda).2 hd, hdkept⟩
  unfold displayEnded
  rw [wlp_bind, wlp_get]
  split
  · next x hfind =>
    obtain ⟨hx, hpid⟩ := findDisplayByPid_some hfind
    refine hcases hx ((Only.works x.addr).sessionEnded _) fun hown => ?_
    exact wlp_sessionEnded_kept hown (hgiven x hx (hown.2 x hx rfl).1.name hpid)
  · split
    · next x hfind =>
      obtain ⟨hx, -⟩ := findDisplayByServerPid_some hfind
      exact hcases hx (Only.works x.addr).serverEnded wlp_serverEnded_kept
    · exact (wlp_pure _ _ _).2 ⟨d, hd, hdkept⟩

/-! ### `StartDisplays` -/

/-- The kernel has no failure in store: `fork` makes processes, and servers come up. -/
def State.Serves (s : State) : Prop := none ∉ s.kernel.forks ∧ true ∉ s.kernel.pauses

instance (s : State) : Decidable s.Serves := inferInstanceAs (Decidable (_ ∧ _))

lemma wlp_fork_serves (hs : s.Serves) :
    Wlp fork (fun p t => p ≠ none ∧ t.Serves ∧ t.displays = s.displays) s := by
  obtain ⟨hforks, hpauses⟩ := hs
  unfold fork
  rw [wlp_bind, wlp_get]
  split
  · exact (wlp_failure _ _).2 trivial
  · next hnone => exact absurd (hnone ▸ List.mem_cons_self ..) hforks
  · next pid forks hsome =>
    refine wlp_ite (fun _ => ?_) fun _ => (wlp_failure _ _).2 trivial
    simp only [wlp_bind, wlp_set, wlp_pure]
    refine ⟨by simp, ⟨fun hmem => hforks ?_, hpauses⟩, trivial⟩
    exact hsome ▸ List.mem_cons_of_mem _ hmem

lemma wlp_serverPause_serves {pid : Pid} (hs : s.Serves) :
    Wlp (serverPause pid) (fun dead t => dead = false ∧ t.Serves ∧ t.displays = s.displays) s := by
  obtain ⟨hforks, hpauses⟩ := hs
  unfold serverPause
  rw [wlp_bind, wlp_get]
  split
  · exact (wlp_failure _ _).2 trivial
  · next dead pauses hpause =>
    have hdead : dead = false := by
      cases dead
      · rfl
      · exact absurd (hpause ▸ List.mem_cons_self ..) hpauses
    subst hdead
    simp only [wlp_bind, wlp_set, Bool.false_eq_true, if_false, wlp_pure]
    exact ⟨trivial, ⟨hforks, fun hmem => hpauses (hpause ▸ List.mem_cons_of_mem _ hmem)⟩, trivial⟩

lemma serves_of_sameKernel {m : M Unit} (hm : Respects SameKernel m) :
    Keeps State.Serves AnyStates m := fun s hs => (hm s trivial).mono fun _ t ht => by
  refine ⟨?_, trivial⟩
  rw [State.Serves, ht.2]
  exact hs

lemma serves_writeDisplay (f : Display → Display) :
    Keeps State.Serves AnyStates (writeDisplay a f) := fun _ hs =>
  wlp_writeDisplay ⟨hs, trivial⟩ fun _ => ⟨hs, trivial⟩

lemma serves_readDisplay (a : Nat) : Keeps State.Serves AnyStates (readDisplay a) := fun _ hs =>
  wlp_readDisplay fun _ _ _ => ⟨hs, trivial⟩

lemma serves_startServerOnce (a : Nat) : Keeps State.Serves AnyStates (startServerOnce a) := by
  intro s hs
  unfold startServerOnce
  rw [wlp_bind]
  refine (wlp_fork_serves hs).mono fun p t ht => ?_
  cases p with
  | none => exact absurd rfl ht.1
  | some pid =>
    dsimp only
    rw [wlp_bind]
    refine (serves_writeDisplay _ t ht.2.1).mono fun _ u hu => ?_
    rw [wlp_bind]
    refine (wlp_serverPause_serves hu.1).mono fun dead v hv => ?_
    rw [hv.1, if_neg (by simp), wlp_pure]
    exact ⟨hv.2.1, trivial⟩

lemma serves_startServerLoop (a n : Nat) : ∀ i,
    Keeps State.Serves AnyStates (startServerLoop a n i) := by
  induction n with
  | zero => exact fun _ => Keeps.failure
  | succ n ih =>
    intro i
    refine Keeps.bind (serves_readDisplay a) fun d => ?_
    refine Keeps.ite (fun _ => ?_) fun _ => Keeps.pure _
    exact Keeps.bind (serves_startServerOnce a) fun started =>
      Keeps.ite (fun _ => Keeps.pure _) fun _ => ih (i + 1)

lemma serves_startSession (a : Nat) :
    Keeps State.Serves AnyStates (startDisplay.startSession a) := by
  intro s hs
  unfold startDisplay.startSession
  rw [wlp_bind]
  refine (wlp_fork_serves hs).mono fun p t ht => ?_
  cases p with
  | none => exact absurd rfl ht.1
  | some pid => exact serves_writeDisplay _ t ht.2.1

lemma serves_startDisplay (w : World) (a : Nat) :
    Keeps State.Serves AnyStates (startDisplay w a) := by
  have hremove : Keeps State.Serves AnyStates (removeDisplay a) :=
    serves_of_sameKernel (SameKernel.moves a).movesBy.removeDisplay
  have hserver : ∀ d : Display, Keeps State.Serves AnyStates (if d.serverPid = -1 then do
      if ← startServer a then startDisplay.startSession a else removeDisplay a
      else startDisplay.startSession a : M Unit) := fun d =>
    Keeps.ite (fun _ => Keeps.bind (Keeps.bind Keeps.get fun s =>
      serves_startServerLoop a (s.kernel.forks.length + 2) 0) fun started =>
        Keeps.ite (fun _ => serves_startSession a) fun _ => hremove)
      fun _ => serves_startSession a
  refine Keeps.bind (serves_writeDisplay _) fun _ => Keeps.bind (serves_readDisplay a) fun d =>
    Keeps.ite (fun _ => ?_) fun _ => serves_startSession a
  exact Keeps.ite (fun _ => Keeps.bind (serves_of_sameKernel ((SameKernel.moves a).emits trivial))
    fun _ => hserver d) fun _ => hserver d

lemma serves_checkDisplayStatus (w : World) (a : Nat) :
    Keeps State.Serves AnyStates (checkDisplayStatus w a) := by
  have hstart : ∀ d : Display, Keeps State.Serves AnyStates
      (checkDisplayStatus.startIfPermanent w d) := fun d =>
    Keeps.ite (fun _ => serves_startDisplay w d.addr) fun _ => Keeps.pure _
  refine Keeps.bind (serves_readDisplay a) fun d => Keeps.ite (fun _ => ?_) fun _ => Keeps.pure _
  split
  · exact serves_of_sameKernel (SameKernel.moves a).stopDisplay
  · exact Keeps.bind (serves_writeDisplay _) fun _ => hstart d
  · exact hstart d

/-- `StartServer` may try to start a server at least once. -/
def mayServe (w : World) (d : Display) : Prop :=
  0 ≤ (w.serverResources d.name d.className).serverAttempts

instance (w : World) (d : Display) : Decidable (mayServe w d) :=
  inferInstanceAs (Decidable (0 ≤ _))

lemma wlp_fork_kept (hs : KeptAt name a P s) (hserves : s.Serves) :
    Wlp fork (fun p t => p ≠ none ∧ t.Serves ∧ KeptAt name a P t) s :=
  (wlp_fork_serves hserves).mono fun _ _ ht => ⟨ht.1, ht.2.1, hs.congr ht.2.2⟩

lemma wlp_startSession_kept (hs : KeptAt name a P s) (hserves : s.Serves)
    (hP : ∀ (d : Display) pid, P d → Q { d with pid := pid, status := .running }) :
    Wlp (startDisplay.startSession a) (fun _ t => KeptAt name a Q t) s := by
  unfold startDisplay.startSession
  rw [wlp_bind]
  refine (wlp_fork_kept hs hserves).mono fun p t ht => ?_
  cases p with
  | none => exact absurd rfl ht.1
  | some pid =>
    refine wlp_writeKept ht.2.2 (fun _ => rfl) fun d hd hP' => ⟨?_, hP d pid hP'⟩
    exact ⟨hd.name, hd.state, hd.origin, hd.lifetime, by simp⟩

lemma wlp_startServer_kept (hs : KeptAt name a P s) (hserves : s.Serves)
    (hattempts : ∀ d, P d → 0 ≤ d.resources.serverAttempts)
    (hP : ∀ (d : Display) pid, P d → Q { d with serverPid := pid }) :
    Wlp (startServer a) (fun started t => started = true ∧ t.Serves ∧ KeptAt name a Q t) s := by
  unfold startServer
  rw [wlp_bind, wlp_get]
  unfold startServerLoop
  rw [wlp_bind]
  refine wlp_readKept hs fun d hd hPd => ?_
  have htry : d.resources.serverAttempts = 0 ∨ 0 < d.resources.serverAttempts := by
    have := hattempts d hPd
    omega
  rw [if_pos htry, wlp_bind]
  unfold startServerOnce
  rw [wlp_bind]
  refine (wlp_fork_kept hs hserves).mono fun p t ht => ?_
  cases p with
  | none => exact absurd rfl ht.1
  | some pid =>
    dsimp only
    rw [wlp_bind]
    refine Wlp.mono ((serves_writeDisplay _ t ht.2.1).and
      (wlp_writeKept (Q := Q) ht.2.2 ?_ ?_)) fun _ u hu => ?_
    · exact fun _ => rfl
    · exact fun d hd hPd => ⟨⟨hd.name, hd.state, hd.origin, hd.lifetime, hd.status⟩, hP d pid hPd⟩
    rw [wlp_bind]
    refine (wlp_serverPause_serves hu.1.1).mono fun dead v hv => ?_
    rw [hv.1, if_neg (by simp), wlp_pure, if_pos rfl, wlp_pure]
    exact ⟨rfl, hv.2.1, hu.2.congr hv.2.2⟩

/-- `StartDisplay` starts the session. -/
lemma wlp_startDisplay_kept (hs : KeptAt name a (mayServe w) s) (hserves : s.Serves) :
    Wlp (startDisplay w a) (fun _ t => KeptAt name a
      (fun d => mayServe w d ∧ d.status = .running) t) s := by
  have hsession : ∀ t : State, KeptAt name a (mayServe w) t → t.Serves →
      Wlp (startDisplay.startSession a) (fun _ u => KeptAt name a
        (fun d => mayServe w d ∧ d.status = .running) u) t := fun t ht hserves =>
    wlp_startSession_kept ht hserves fun d _ hd => ⟨hd, rfl⟩
  have hserver : ∀ (d : Display) (t : State),
      KeptAt name a (fun d => mayServe w d ∧ 0 ≤ d.resources.serverAttempts) t → t.Serves →
      Wlp (if d.serverPid = -1 then do
          if ← startServer a then startDisplay.startSession a else removeDisplay a
        else startDisplay.startSession a : M Unit) (fun _ u => KeptAt name a
          (fun d => mayServe w d ∧ d.status = .running) u) t := by
    intro d t ht hserves
    refine wlp_ite (fun _ => ?_) fun _ => hsession t (ht.mono fun _ hd => hd.1) hserves
    rw [wlp_bind]
    refine (wlp_startServer_kept (Q := mayServe w) ht hserves (fun d hd => hd.2)
      fun d _ hd => hd.1).mono fun started u hu => ?_
    rw [hu.1, if_pos rfl]
    exact hsession u hu.2.2 hu.2.1
  unfold startDisplay
  rw [wlp_bind]
  refine Wlp.mono ((serves_writeDisplay _ s hserves).and (wlp_tally
    (Q := fun d => mayServe w d ∧ 0 ≤ d.resources.serverAttempts) ?_ hs fun d hd => ⟨hd, hd⟩))
    fun _ t ht => ?_
  · constructor <;> intro _ <;> rfl
  obtain ⟨⟨hserves, -⟩, ht⟩ := ht
  have hmay : KeptAt name a (mayServe w) t := ht.mono fun _ hd => hd.1
  rw [wlp_bind]
  refine wlp_readKept ht fun d _ _ => wlp_ite (fun _ => ?_) fun _ => hsession t hmay hserves
  refine wlp_ite (fun _ => ?_) fun _ => hserver d t ht hserves
  rw [wlp_bind, emit, wlp_modify]
  exact hserver d _ ht hserves

/-- The display runs, or waits for the end of its server, to be started then. -/
def Display.started (d : Display) : Prop := d.status = .running ∨ d.status = .phoenix

lemma wlp_checkDisplayStatus_kept (hsound : s.Sound [] none) (hs : KeptAt name a (mayServe w) s)
    (hserves : s.Serves) : Wlp (checkDisplayStatus w a)
      (fun _ t => KeptAt name a (fun d => mayServe w d ∧ d.started) t) s := by
  have hstart : ∀ (d : Display) (t : State), d.addr = a → d.Kept name →
      KeptAt name a (fun x => mayServe w x ∧ x.status = d.status) t → t.Serves →
      Wlp (checkDisplayStatus.startIfPermanent w d)
        (fun _ u => KeptAt name a (fun d => mayServe w d ∧ d.started) u) t := by
    intro d t hda hd ht hserves
    unfold checkDisplayStatus.startIfPermanent
    rw [hda]
    refine wlp_ite (fun _ => ?_) fun hidle => (wlp_pure _ _ _).2 (ht.mono fun x hx => ⟨hx.1, ?_⟩)
    · exact (wlp_startDisplay_kept (ht.mono fun _ hx => hx.1) hserves).mono fun _ u hu =>
        hu.mono fun x hx => ⟨hx.1, Or.inl hx.2⟩
    · rw [Display.started, hx.2]
      have hzombie := hd.status
      cases hstatus : d.status with
      | running => exact Or.inl rfl
      | notRunning => exact absurd ⟨hd.lifetime, hstatus⟩ hidle
      | zombie => exact absurd hstatus hzombie
      | phoenix => exact Or.inr rfl
  unfold checkDisplayStatus
  rw [wlp_bind]
  refine wlp_readDisplay fun d hd hda => ?_
  obtain ⟨hkept, hmay⟩ := hs.2 d hd hda
  have hsame : KeptAt name a (fun x => mayServe w x ∧ x.status = d.status) s :=
    ⟨hs.1, hsound.where_of_mem hd hda ⟨hkept, hmay, rfl⟩⟩
  rw [if_pos hkept.origin]
  split
  · next hmissing => exact absurd hmissing hkept.state
  · rw [wlp_bind]
    refine Wlp.mono ((serves_writeDisplay _ s hserves).and (wlp_writeKept
      (Q := fun x => mayServe w x ∧ x.status = d.status) hsame ?_ ?_)) fun _ t ht =>
        hstart d t hda hkept ht.2 ht.1.1
    · exact fun _ => rfl
    · exact fun x hx hxP => ⟨⟨hx.name, by simp, hx.origin, hx.lifetime, hx.status⟩, hxP⟩
  · exact hstart d s hda hkept hsame hserves

/-- `StartDisplays` starts the display. -/
lemma wlp_startDisplays_kept (hsound : s.Sound [] none) (hs : KeptAt name a (mayServe w) s)
    (hserves : s.Serves) :
    Wlp (startDisplays w) (fun _ t => KeptAt name a (fun d => mayServe w d ∧ d.started) t) s := by
  -- every turn keeps what is known of the display, and its own turn starts it
  have hturn : ∀ {P : Display → Prop} b t, (t.Sound [] none ∧ t.Serves ∧
      KeptAt name a (fun d => mayServe w d ∧ P d) t) →
      (b = a → Wlp (checkDisplayStatus w b) (fun _ u =>
        KeptAt name a (fun d => mayServe w d ∧ P d) u) t) →
      Wlp (checkDisplayStatus w b) (fun _ u => u.Sound [] none ∧ u.Serves ∧
        KeptAt name a (fun d => mayServe w d ∧ P d) u) t := by
    intro P b t ht hown
    refine Wlp.mono (((keeps_checkDisplayStatus w b t ht.1).and
      (serves_checkDisplayStatus w b t ht.2.1)).and ?_) fun _ u hu => ⟨hu.1.1.1, hu.1.2.1, hu.2⟩
    by_cases hb : b = a
    · exact hown hb
    · refine ((Only.works b).checkDisplayStatus t trivial).mono fun _ u hu => ?_
      obtain ⟨⟨d, hd, hda⟩, hwhere⟩ := ht.2.2
      refine ⟨⟨d, (hu.2 d (by omega)).2 hd, hda⟩, fun x hx hxa => hwhere x ?_ hxa⟩
      exact (hu.2 x (by omega)).1 hx
  have hvisit : ∀ {P : Display → Prop} t, (t.Sound [] none ∧ t.Serves ∧
      KeptAt name a (fun d => mayServe w d ∧ P d) t) → Wlp (checkDisplayStatus w a) (fun _ u =>
        KeptAt name a (fun d => mayServe w d ∧ d.started) u) t := fun t ht =>
    wlp_checkDisplayStatus_kept ht.1 (ht.2.2.mono fun _ hd => hd.1) ht.2.1
  unfold startDisplays forEachDisplay
  rw [wlp_bind, wlp_get]
  obtain ⟨d, hd, hda⟩ := hs.1
  refine Wlp.mono (wlp_forM_visit (I := fun t => t.Sound [] none ∧ t.Serves ∧
      KeptAt name a (fun d => mayServe w d ∧ True) t) (J := fun t => t.Sound [] none ∧ t.Serves ∧
      KeptAt name a (fun d => mayServe w d ∧ d.started) t) (a := a) ?_ ?_ ?_ ?_ ?_)
    fun _ t ht => ht.2.2
  · exact fun b t ht => hturn b t ht fun hb => by
      rw [hb]
      exact (hvisit t ht).mono fun _ u hu => hu.mono fun _ hd => ⟨hd.1, trivial⟩
  · exact fun b t ht => hturn b t ht fun hb => by
      rw [hb]
      exact hvisit t ht
  · intro t ht
    exact ((keeps_checkDisplayStatus w a t ht.1).and ((serves_checkDisplayStatus w a t ht.2.1).and
      (hvisit t ht))).mono fun _ u hu => ⟨hu.1.1, hu.2.1.1, hu.2.2⟩
  · exact List.mem_map.2 ⟨d, hd, hda⟩
  · exact ⟨hsound, hserves, hs.mono fun _ hd => ⟨hd, trivial⟩⟩

/-! ### One step -/

variable {x : Step State Happening} {h h' : List (Step State Happening)}

/-- The scan of this step finds an entry of the display, and the display as a zombie. -/
def findsZombie (name : Str) (x : Step State Happening) : Bool :=
  (scanned x).any (fun lines => (typeIn name lines).isSome) &&
    (findDisplayByName name x.pre.displays).any fun d => d.status = .zombie

/-- The display is given up in this step: its session ends so that it is, or the kernel does not
let it be started. -/
def givesUp (name : Str) (x : Step State Happening) : Bool :=
  match x.input with
  | .child e => x.pre.displays.any fun d =>
    d.name = name && d.pid = e.pid && d.givenUp e.world.time e.status.val
  | .starts w => !decide x.pre.Serves || x.pre.displays.any fun d =>
    d.name = name && !decide (mayServe w d)
  | _ => false

lemma noZombie_of_found (hu : x.pre.UniqueNames) (hscan : scanned x = some lines)
    (hentry : permanentIn name lines = true) (hfound : findsZombie name x = false) :
    x.pre.NoZombie name := by
  intro d hd hname
  have hsome : (typeIn name lines).isSome = true := by
    obtain ⟨type, htype, -⟩ := (Option.any_eq_true _ _).1 hentry
    rw [htype, Option.isSome_some]
  rw [findsZombie, hscan, Option.any_some, hsome, Bool.true_and, ← hname, hu.find hd,
    Option.any_some, decide_eq_false_iff_not] at hfound
  exact hfound

/-- In a step that does not give it up `StartDisplays` starts the display. -/
lemma starts_kept (hs : s.Sound [] none) (hkept : s.HasKept name)
    (hgives : givesUp name ⟨s, .starts w, s'⟩ = false) :
    Wlp (startDisplays w) (fun _ t => t.Sound [] none ∧
      ∃ d ∈ t.displays, d.Kept name ∧ d.started) s := by
  obtain ⟨d, hd, hdkept⟩ := hkept
  simp only [givesUp, Bool.or_eq_false_iff, Bool.not_eq_false', decide_eq_true_eq,
    List.any_eq_false] at hgives
  have hmay : mayServe w d := by
    have := hgives.2 d hd
    simpa [hdkept.name] using this
  have hat : KeptAt name d.addr (mayServe w) s :=
    ⟨⟨d, hd, rfl⟩, hs.where_of_mem hd rfl ⟨hdkept, hmay⟩⟩
  refine ((keeps_startDisplays w s hs).and (wlp_startDisplays_kept hs hat hgives.1)).mono
    fun _ t ht => ⟨ht.1.1, ?_⟩
  obtain ⟨⟨x, hx, hxa⟩, hwhere⟩ := ht.2
  exact ⟨x, hx, (hwhere x hx hxa).1, (hwhere x hx hxa).2.2⟩

/-- In a step that does not give it up the display stays, and a scan that finds its entry, and
not a zombie, enters it. -/
lemma step_kept (hs : x.pre.Sound [] none) (hu : x.pre.UniqueNames)
    (hstep : x.input.perform x.pre = some ((), x.post))
    (hentry : ∀ lines, scanned x = some lines → permanentIn name lines = true)
    (hfound : findsZombie name x = false) (hgives : givesUp name x = false)
    (hkept : scanned x = none → x.pre.HasKept name) : x.post.HasKept name := by
  have hscan : ∀ lines, scanned x = some lines →
      permanentIn name lines = true ∧ x.pre.NoZombie name := fun lines hlines =>
    ⟨hentry lines hlines, noZombie_of_found hu hlines (hentry lines hlines) hfound⟩
  obtain ⟨s, i, s'⟩ := x
  suffices hwlp : Wlp i.perform (fun _ t => t.HasKept name) s from hwlp _ _ hstep
  unfold scanned at hscan hkept
  cases i with
  | begins i => exact (wlp_modify _ _ _).2 ((hkept rfl).congr rfl)
  | firstScan w =>
    obtain ⟨hentry, hno⟩ := hscan _ rfl
    simp only [Happening.perform, loadConfig, loadDatabase, wlp_bind, wlp_modify]
    exact wlp_scanServers_kept (hs.congr rfl rfl (Nat.le_refl _)) (fun d hd => hno d hd) hentry
  | rescan w =>
    obtain ⟨hentry, hno⟩ := hscan _ rfl
    simp only [Happening.perform, loadConfig, loadDatabase, wlp_bind, wlp_modify]
    refine (wlp_markDisplays hs hno).mono fun _ t ht => ?_
    exact (wlp_scanServers_kept (s := { t with config := w.config })
      (ht.1.congr rfl rfl (Nat.le_refl _)) (fun d hd => ht.2.1 d hd) hentry).mono
        fun _ u hu => hu.congr rfl
  | child e =>
    simp only [Happening.perform, childEnded, wlp_bind, wlp_get]
    refine wlp_ite (fun hchild => ?_) fun _ => (wlp_failure _ _).2 trivial
    have hpositive : e.pid ≠ -1 := pid_ne (hs.positive _ hchild)
    have hgiven : ∀ t : State, Scans s t → ∀ d ∈ t.displays, d.name = name → d.pid = e.pid →
        d.givenUp e.world.time e.status.val = false := by
      intro t ht d hd hname hpid
      rcases ht d hd with ⟨-, hnone⟩ | ⟨x, hx, hsame⟩
      · exact absurd (hpid.symm.trans hnone) hpositive
      · rw [givenUp_of_sameTries hsame.toSameTries]
        have hno := List.any_eq_false.1 hgives x hx
        simpa [hsame.name.symm.trans hname, hsame.pid.symm.trans hpid] using hno
    simp only [wlp_bind, reap, wlp_modify]
    have hreaped := hs.reaped (p := e.pid)
    refine wlp_ite (fun hauto => ?_) fun hauto => ?_
    · simp only [Happening.scan?, hauto, if_true] at hscan hkept
      rw [wlp_bind]
      refine Wlp.mono (((keeps_rescanIfMod e.world _ hreaped).and
        (Scans.rescanIfMod e.world _ trivial)).and (wlp_rescanIfMod_kept hreaped
          (fun lines hlines => hscan lines hlines) fun hnone => (hkept hnone).congr rfl))
        fun _ t ht => wlp_displayEnded_kept ht.1.1.1 ht.2 (hgiven t ?_)
      exact (Scans.of_eq rfl).trans ht.1.2.2
    · simp only [Happening.scan?, hauto, Bool.false_eq_true, if_false] at hkept
      exact wlp_displayEnded_kept hreaped ((hkept trivial).congr rfl) (hgiven _ (Scans.of_eq rfl))
  | starts w =>
    refine (starts_kept hs (hkept rfl) hgives).mono fun _ t ht => ?_
    obtain ⟨d, hd, hdkept, -⟩ := ht.2
    exact ⟨d, hd, hdkept⟩

/-! ### Runs -/

/-- The scan of this step finds no entry of the display. -/
def leavesOut (name : Str) (x : Step State Happening) : Bool :=
  (scanned x).any fun lines => (typeIn name lines).isNone

/-- The step scans, and the display has an entry. -/
def bringsBack (name : Str) (x : Step State Happening) : Bool := (scanned x).any (permanentIn name)

/-- If the step scans, the display has an entry. -/
def keepsIn (name : Str) (x : Step State Happening) : Bool := (scanned x).all (permanentIn name)

/-- The display is absent in a scan of `h` and present in the one of `x`, and from then on. -/
structure Readded (name : Str) (h : List (Step State Happening)) (x : Step State Happening)
    (h' : List (Step State Happening)) : Prop where
  absent : ∃ y ∈ h, leavesOut name y = true
  present : bringsBack name x = true
  stays : ∀ y ∈ h', keepsIn name y = true

/-- The display is being started, or has been: its session runs, or its server has been killed
to be started anew and is still to be waited for. -/
def StartedIn (s : State) (name : Str) : Prop :=
  ∃ d ∈ s.displays, d.name = name ∧ (d.status = .running ∧ d.pid ∈ s.kernel.children ∨
    d.status = .phoenix ∧ d.serverPid ∈ s.kernel.children)

def Happening.isStarts : Happening → Bool
  | .starts _ => true
  | _ => false

/-- Whatever the scans and deaths and their order: if a permanent display is absent in one scan
and present in a later one, and present from then on, and no scan has found it as a zombie, it
is in the list from the scan on, and started whenever `StartDisplays` has run. -/
theorem readded_display_started (run : HappeningRun config g (h ++ x :: h') s)
    (hback : Readded name h x h') (hgives : ∀ y ∈ x :: h', givesUp name y = false)
    (hfound : ∀ y ∈ x :: h', findsZombie name y = false) :
    (∀ y ∈ x :: h', ∃ d ∈ y.post.displays, d.name = name ∧ d.status ≠ .zombie) ∧
    ∀ y ∈ x :: h', y.input.isStarts = true → StartedIn y.post name := by
  have hstep : ∀ y ∈ x :: h', y.pre.Sound [] none ∧ y.pre.UniqueNames ∧
      y.input.perform y.pre = some ((), y.post) := fun y hy => by
    obtain ⟨_, _, -, hrun, hperform⟩ := run.split (List.mem_append_right h hy)
    exact ⟨(happening_invariants hrun).1, (happening_invariants hrun).2, hperform⟩
  -- the scan of `x` enters the display, and every later step keeps it
  have hx : x.post.HasKept name := by
    obtain ⟨hs, hu, hperform⟩ := hstep x (List.mem_cons_self ..)
    obtain ⟨lines, hlines, hentry⟩ := (Option.any_eq_true _ _).1 hback.present
    refine step_kept hs hu hperform (fun lines' hlines' => ?_) (hfound x (List.mem_cons_self ..))
      (hgives x (List.mem_cons_self ..)) fun hnone => ?_
    · rwa [Option.some.inj (hlines'.symm.trans hlines)]
    · rw [hlines] at hnone
      cases hnone
  have hlater := run.stable_after (P := fun t => t.HasKept name) hx fun y hy hkept => by
    obtain ⟨hs, hu, hperform⟩ := hstep y (List.mem_cons_of_mem _ hy)
    refine step_kept hs hu hperform (fun lines hlines => ?_) (hfound y (List.mem_cons_of_mem _ hy))
      (hgives y (List.mem_cons_of_mem _ hy)) fun _ => hkept
    have hstays := hback.stays y hy
    rwa [keepsIn, hlines, Option.all_some] at hstays
  refine ⟨fun y hy => ?_, fun y hy hstarts => ?_⟩
  · obtain ⟨d, hd, hdkept⟩ : y.post.HasKept name := by
      rcases List.mem_cons.1 hy with rfl | hy
      · exact hx
      · exact (hlater y hy).2
    exact ⟨d, hd, hdkept.name, hdkept.status⟩
  · rcases List.mem_cons.1 hy with rfl | hy'
    · -- the step of the scan is another one
      have hscan := hback.present
      obtain ⟨s, i, s'⟩ := y
      cases i <;> cases hstarts
      cases hscan
    · obtain ⟨hs, -, hperform⟩ := hstep y hy
      have hkept := (hlater y hy').1
      have hgive := hgives y hy
      obtain ⟨s, i, s'⟩ := y
      cases i <;> cases hstarts
      next w =>
      obtain ⟨hsound, d, hd, hdkept, hstarted⟩ := starts_kept hs hkept hgive _ _ hperform
      refine ⟨d, hd, hdkept.name, hstarted.imp (fun hrunning => ?_) fun hphoenix => ?_⟩
      · have hpid := (hsound.ok d hd (by simp)).running hrunning
        exact ⟨hrunning, (hsound.child d hd .session hpid : _)⟩
      · have hpid := (hsound.ok d hd (by simp)).phoenix hphoenix
        exact ⟨hphoenix, (hsound.child d hd .server hpid : _)⟩

/-! ### An entry that comes back early, and one that comes back late -/

/-- A world whose servers file has one local display, or none. -/
def World.listing (present : Bool) (forks : List (Option Pid)) : World :=
  { World.silent with
    config := { Config.plain with servers := "/Xservers".toList }
    serversText := some (if present then [":0 local /usr/bin/X :0".toList] else [])
    forks := forks
    pauses := [false] }

/-- The session and then the server of the display end, on their signals. -/
def bothEnd (present : Bool) : Input :=
  .waitForChild (World.listing present [])
    [⟨11, .signaled 15, World.listing present []⟩, ⟨10, .signaled 15, World.listing present []⟩]

/-- The entry goes, and is back before the processes have ended. -/
def backEarly : List Input :=
  [.startUp (World.listing true [some 10, some 11]), .rescanServers (World.listing false []),
    .rescanServers (World.listing true []), bothEnd true]

/-- The entry is back when the processes have ended. -/
def backLate : List Input :=
  [.startUp (World.listing true [some 10, some 11]), .rescanServers (World.listing false []),
    bothEnd false, .rescanServers (World.listing true [some 20, some 21])]

/-- The step `k` of the history brings the display back, and nothing gives it up. -/
def readdedAt (name : Str) (k : Nat) (h : List (Step State Happening)) : Bool :=
  (h.take k).any (leavesOut name) && h[k]?.any (bringsBack name) &&
    (h.drop (k + 1)).all (keepsIn name) && (h.drop k).all fun y => !givesUp name y

lemma exists_readded {k : Nat} (htest : readdedAt name k h = true) :
    ∃ h₁ x h₂, h = h₁ ++ x :: h₂ ∧ Readded name h₁ x h₂ ∧
      ∀ y ∈ x :: h₂, givesUp name y = false := by
  simp only [readdedAt, Bool.and_eq_true, List.any_eq_true, List.all_eq_true] at htest
  obtain ⟨⟨⟨habsent, hpresent⟩, hstays⟩, hgives⟩ := htest
  obtain ⟨x, hx, hpresent⟩ := (Option.any_eq_true _ _).1 hpresent
  obtain ⟨hk, rfl⟩ := List.getElem?_eq_some_iff.1 hx
  have hdrop : h.drop k = h[k] :: h.drop (k + 1) := (List.getElem_cons_drop hk).symm
  refine ⟨h.take k, h[k], h.drop (k + 1), ?_, ⟨habsent, hpresent, hstays⟩, fun y hy => ?_⟩
  · rw [← hdrop, List.take_append_drop]
  · rw [← hdrop] at hy
    simpa using hgives y hy

/-- The server that has been killed for the missing entry takes the display along that is
listed again. -/
theorem readded_display_removed : ∃ h x h' s, HappeningRun Config.plain 0 (h ++ x :: h') s ∧
    (h ++ x :: h').map Step.input = backEarly.flatMap Input.happenings ∧
    Readded ":0".toList h x h' ∧ (∀ y ∈ x :: h', givesUp ":0".toList y = false) ∧
    s.kernel.children = [] ∧ s.displays.length = 0 := by
  obtain ⟨h, s, run, hinputs, hreadded, hchildren, hdisplays⟩ : ∃ h s,
      HappeningRun Config.plain 0 h s ∧
      h.map Step.input = backEarly.flatMap Input.happenings ∧
      readdedAt ":0".toList 7 h = true ∧ s.kernel.children = [] ∧ s.displays.length = 0 :=
    exists_run_on _ (by decide +kernel)
  obtain ⟨h₁, x, h₂, rfl, hback, hgives⟩ := exists_readded hreadded
  exact ⟨h₁, x, h₂, s, run, hinputs, hback, hgives, hchildren, hdisplays⟩

/-- A display that is listed again when it has gone is started again. -/
theorem readded_display_started_late : ∃ h x h' s,
    HappeningRun Config.plain 0 (h ++ x :: h') s ∧
    (h ++ x :: h').map Step.input = backLate.flatMap Input.happenings ∧
    Readded ":0".toList h x h' ∧ ∃ y ∈ x :: h', StartedIn y.post ":0".toList := by
  obtain ⟨h, s, run, hinputs, hreadded, hfound, hlast⟩ : ∃ h s,
      HappeningRun Config.plain 0 h s ∧
      h.map Step.input = backLate.flatMap Input.happenings ∧
      readdedAt ":0".toList 11 h = true ∧
      (∀ y ∈ h, findsZombie ":0".toList y = false) ∧
      h.getLast?.any (fun y => y.input.isStarts) = true :=
    exists_run_on _ (by decide +kernel)
  obtain ⟨h₁, x, h₂, rfl, hback, hgives⟩ := exists_readded hreadded
  obtain ⟨y, hy, hstarts⟩ := (Option.any_eq_true _ _).1 hlast
  rw [List.getLast?_append_of_ne_nil _ (List.cons_ne_nil x h₂)] at hy
  have hmem : y ∈ x :: h₂ := List.mem_of_getLast? hy
  have hall := readded_display_started run hback hgives fun y hy =>
    hfound y (List.mem_append_right _ hy)
  exact ⟨h₁, x, h₂, s, run, hinputs, hback, y, hmem, hall.2 y hmem hstarts⟩

end Xdm
