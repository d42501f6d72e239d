/-
# The return of `RescanServers`

`ParseDisplay` follows no null pointer on lines that give a class to new displays only and to
those that have one.  What is left that may keep `RescanServers` from coming back is the
kernel: `StartServer` tries until it has a server or is out of attempts.  If there are enough
answers for all the attempts, `RescanServers` comes back, and it has followed the file.
-/
import Xdm.MissingFields

namespace Xdm

open Prog

variable {config : Config} {g : Nat} {h : List (Step State Input)} {s s' t : State}
variable {w : World} {a k m n : Nat} {d x : Display} {e : Entry} {es : List Entry}
variable {lines : List Str} {line : Str} {l : List Nat} {dead : List Pid}

/-! ### Enough answers -/

/-- There are `m` answers of `fork` and `n` of `serverPause` left, and `fork` returns pids of
new processes. -/
structure State.Answers (s : State) (m n : Nat) : Prop where
  forks : m ≤ s.kernel.forks.length
  pauses : n ≤ s.kernel.pauses.length
  distinct : (s.kernel.forks.filterMap id).Nodup
  fresh : ∀ pid, some pid ∈ s.kernel.forks → 0 < pid ∧ pid ∉ s.kernel.children

/-- The answers in a world are enough for `n` displays, if no display asks for more than `k`
attempts of `StartServer`, and none for as many as it takes. -/
structure World.Suffices (w : World) (k n : Nat) (children : List Pid) : Prop where
  attempts : ∀ name className, (w.serverResources name className).serverAttempts ≠ 0 ∧
    (w.serverResources name className).serverAttempts ≤ k
  forks : n * (k + 1) ≤ w.forks.length
  pauses : n * (k + 1) ≤ w.pauses.length
  distinct : (w.forks.filterMap id).Nodup
  fresh : ∀ pid, some pid ∈ w.forks → 0 < pid ∧ pid ∉ children

namespace State.Answers

lemma mono {m' n' : Nat} (hs : s.Answers m n) (hm : m' ≤ m) (hn : n' ≤ n) : s.Answers m' n' :=
  ⟨Nat.le_trans hm hs.forks, Nat.le_trans hn hs.pauses, hs.distinct, hs.fresh⟩

lemma congr (hs : s.Answers m n) (hk : t.kernel = s.kernel) : t.Answers m n := by
  constructor <;> rw [hk]
  exacts [hs.forks, hs.pauses, hs.distinct, hs.fresh]

end State.Answers

/-! ### Programs that return -/

/-- `fork` returns, and uses up an answer. -/
lemma wp_fork (hs : s.Answers (m + 1) n) :
    Wp fork (fun _ s' => s'.displays = s.displays ∧ s'.Answers m n) s := by
  have hforks := hs.forks
  have hdistinct := hs.distinct
  have hfresh := hs.fresh
  unfold fork
  refine wp_bind (wp_get ?_)
  cases hlist : s.kernel.forks with
  | nil => simp [hlist] at hforks
  | cons answer forks =>
    simp only [hlist, List.length_cons, Nat.add_le_add_iff_right] at hforks
    rw [hlist] at hdistinct hfresh
    cases answer with
    | none =>
      refine wp_bind (wp_set (wp_pure ⟨rfl, hforks, hs.pauses, hdistinct, fun pid hpid => ?_⟩))
      exact hfresh pid (List.mem_cons_of_mem _ hpid)
    | some pid =>
      -- the new child has this pid, so none of the later answers may have it
      obtain ⟨hnew, hrest⟩ := List.nodup_cons.1 hdistinct
      refine wp_ite (fun _ => ?_) fun hno => absurd (hfresh pid (List.mem_cons_self ..)) hno
      refine wp_bind (wp_set (wp_pure ⟨rfl, hforks, hs.pauses, hrest, fun p hp => ?_⟩))
      obtain ⟨hpos, hchild⟩ := hfresh p (List.mem_cons_of_mem _ hp)
      refine ⟨hpos, fun hmem => ?_⟩
      rcases List.mem_cons.1 hmem with rfl | hmem
      · exact hnew (List.mem_filterMap.2 ⟨some p, hp, rfl⟩)
      · exact hchild hmem

/-- So does `serverPause`. -/
lemma wp_serverPause {pid : Pid} (hs : s.Answers m (n + 1)) :
    Wp (serverPause pid) (fun _ s' => s'.displays = s.displays ∧ s'.Answers m n) s := by
  have hpauses := hs.pauses
  unfold serverPause
  refine wp_bind (wp_get ?_)
  cases hlist : s.kernel.pauses with
  | nil => simp [hlist] at hpauses
  | cons dead pauses =>
    simp only [hlist, List.length_cons, Nat.add_le_add_iff_right] at hpauses
    refine wp_bind (wp_set ?_)
    cases dead with
    | false => exact wp_bind (wp_pure (wp_pure ⟨rfl, hs.forks, hpauses, hs.distinct, hs.fresh⟩))
    | true =>
      refine wp_bind (wp_modify (wp_pure ⟨rfl, hs.forks, hpauses, hs.distinct, fun p hp => ?_⟩))
      exact (hs.fresh p hp).imp_right fun hchild hmem => hchild (List.mem_filter.1 hmem).1

/-- The display asks for attempts of `StartServer`, but for `k` at most. -/
def Display.Attempts (k : Nat) (d : Display) : Prop :=
  d.resources.serverAttempts ≠ 0 ∧ d.resources.serverAttempts ≤ k

/-- So does every display that has been loaded. -/
def World.Attempts (w : World) (k : Nat) : Prop :=
  ∀ name className, (w.serverResources name className).serverAttempts ≠ 0 ∧
    (w.serverResources name className).serverAttempts ≤ k

/-- A store into a listed display uses up no answer. -/
lemma wp_storeListed {P Q : Display → Prop} {f : Display → Display}
    (hf : ∀ d, (f d).addr = d.addr) (hP : ∀ d, P d → Q (f d)) (hs : s.Answers m n)
    (hl : ListedWhere a P s) :
    Wp (writeDisplay a f) (fun _ s' => ListedWhere a Q s' ∧ s'.Answers m n) s := by
  refine wp_writeDisplay hl.1 ⟨⟨hl.1.write hf, fun d hd hda => ?_⟩, hs.congr rfl⟩
  rcases State.mem_write.1 hd with ⟨x, hx, hxa, rfl⟩ | ⟨-, hne⟩
  · exact hP x (hl.2 x hx hxa)
  · exact absurd hda hne

lemma ListedWhere.congr {P : Display → Prop} (hl : ListedWhere a P s)
    (hd : t.displays = s.displays) : ListedWhere a P t := by
  unfold ListedWhere State.Listed State.Where
  rw [hd]
  exact hl

lemma wp_startServerOnce (hs : s.Answers (m + 1) (n + 1))
    (hl : ListedWhere a (Display.Attempts k) s) : Wp (startServerOnce a)
      (fun _ s' => ListedWhere a (Display.Attempts k) s' ∧ s'.Answers m n) s := by
  unfold startServerOnce
  refine wp_bind ((wp_fork hs).mono fun pid t ht => ?_)
  have htl := hl.congr ht.1
  cases pid with
  | none => exact wp_pure ⟨htl, ht.2.mono (Nat.le_refl _) (Nat.le_succ _)⟩
  | some pid =>
    have hstore := wp_storeListed (Q := Display.Attempts k)
      (f := fun display => { display with serverPid := pid }) (fun _ => rfl) (fun _ => id) ht.2 htl
    refine wp_bind (hstore.mono fun _ u hu => wp_bind ?_)
    refine (wp_serverPause hu.2).mono fun dead v hv => ?_
    have hvl := hu.1.congr hv.1
    exact wp_ite (fun _ => wp_pure ⟨hvl, hv.2⟩) fun _ => wp_pure ⟨hvl, hv.2⟩

/-- The loop of `StartServer` with `r` attempts to go, and fuel for more. -/
lemma wp_startServerLoop {fuel r : Nat} {i : Int} (hr : (k : Int) ≤ i + r) (hfuel : r < fuel)
    (hs : s.Answers (r + m) (r + n)) (hl : ListedWhere a (Display.Attempts k) s) :
    Wp (startServerLoop a fuel i) (fun _ s' => s'.Listed a ∧ s'.Answers m n) s := by
  induction fuel generalizing r i s with
  | zero => omega
  | succ fuel ih =>
    unfold startServerLoop
    refine wp_bind (wp_readDisplay hl.1 fun d hd hda => ?_)
    obtain ⟨hne, hle⟩ := hl.2 d hd hda
    refine wp_ite (fun hmore => ?_) fun _ =>
      wp_pure ⟨hl.1, hs.mono (Nat.le_add_left ..) (Nat.le_add_left ..)⟩
    -- there is an attempt to go
    obtain ⟨r, rfl⟩ : ∃ r', r = r' + 1 := ⟨r - 1, by omega⟩
    have hs' : s.Answers (r + m + 1) (r + n + 1) := by
      rwa [Nat.add_right_comm, Nat.add_right_comm r 1 n] at hs
    refine wp_bind ((wp_startServerOnce hs' hl).mono fun started t ht => ?_)
    refine wp_ite (fun _ => ?_) fun _ => ih (by omega) (by omega) ht.2 ht.1
    exact wp_pure ⟨ht.1.1, ht.2.mono (Nat.le_add_left ..) (Nat.le_add_left ..)⟩

lemma wp_startServer (hs : s.Answers (k + m) (k + n))
    (hl : ListedWhere a (Display.Attempts k) s) :
    Wp (startServer a) (fun _ s' => s'.Listed a ∧ s'.Answers m n) s := by
  have hforks := hs.forks
  unfold startServer
  exact wp_bind (wp_get (wp_startServerLoop (by omega) (by omega) hs hl))

lemma wp_startSession (hs : s.Answers (m + 1) n) (hl : s.Listed a) :
    Wp (startDisplay.startSession a) (fun _ s' => s'.Answers m n) s := by
  unfold startDisplay.startSession
  refine wp_bind ((wp_fork hs).mono fun pid t ht => ?_)
  cases pid with
  | none => exact wp_pure ht.2
  | some pid =>
    obtain ⟨d, hd, hda⟩ := hl
    exact wp_writeDisplay ⟨d, ht.1 ▸ hd, hda⟩ (ht.2.congr rfl)

/-- `StartDisplay` of a listed display returns if there are answers for all the attempts and for
the session. -/
lemma wp_startDisplay (hattempts : w.Attempts k) (hs : s.Answers (k + (m + 1)) (k + n))
    (hl : s.Listed a) :
    Wp (startDisplay w a) (fun _ s' => s'.Answers m n) s := by
  have hsession : ∀ t : State, t.Listed a → t.Answers (k + (m + 1)) (k + n) →
      Wp (startDisplay.startSession a) (fun _ s' => s'.Answers m n) t := fun t htl ht =>
    wp_startSession (ht.mono (Nat.le_add_left ..) (Nat.le_add_left ..)) htl
  have hserver : ∀ (d : Display) t, ListedWhere a (Display.Attempts k) t →
      t.Answers (k + (m + 1)) (k + n) →
      Wp (if d.serverPid = -1 then do
          if ← startServer a then startDisplay.startSession a else removeDisplay a
        else startDisplay.startSession a) (fun _ s' => s'.Answers m n) t := by
    intro d t htl ht
    refine wp_ite (fun _ => ?_) fun _ => hsession t htl.1 ht
    refine wp_bind ((wp_startServer ht htl).mono fun started u hu => ?_)
    refine wp_ite (fun _ => wp_startSession hu.2 hu.1) fun _ => ?_
    -- a display without a server goes, and the answer for its session is left over
    refine (wp_removeDisplay hu.1).mono fun _ s' hs' => ?_
    exact (hu.2.congr (hs' ▸ rfl)).mono (Nat.le_succ _) (Nat.le_refl _)
  unfold startDisplay
  have hload := wp_storeListed (P := fun _ => True) (Q := Display.Attempts k)
    (f := fun display => { display with
      resources := w.serverResources display.name display.className })
    (fun _ => rfl) (fun d _ => hattempts d.name d.className) hs ⟨hl, fun _ _ _ => trivial⟩
  refine wp_bind (hload.mono fun _ t ht => wp_bind (wp_readDisplay ht.1.1 fun d _ _ => ?_))
  refine wp_ite (fun _ => ?_) fun _ => hsession t ht.1.1 ht.2
  refine wp_ite (fun _ => wp_bind (wp_modify ?_)) fun _ => hserver d t ht.1 ht.2
  exact hserver d _ (ht.1.congr rfl) (ht.2.congr rfl)

lemma wp_checkDisplayStatus (hattempts : w.Attempts k) (hs : s.Sound [] none)
    (hx : x ∈ s.displays) (hans : s.Answers (k + (m + 1)) (k + n)) :
    Wp (checkDisplayStatus w x.addr) (fun _ s' => s'.Answers m n) s := by
  have hless : ∀ t : State, t.Answers (k + (m + 1)) (k + n) → t.Answers m n := fun t ht =>
    ht.mono (by omega) (by omega)
  have hstart : ∀ t : State, t.Listed x.addr → t.Answers (k + (m + 1)) (k + n) →
      Wp (checkDisplayStatus.startIfPermanent w x) (fun _ s' => s'.Answers m n) t := fun t htl ht =>
    wp_ite (fun _ => wp_startDisplay hattempts ht htl) fun _ => wp_pure (hless t ht)
  have hread : Wp (readDisplay x.addr) (fun d s' => d = x ∧ s' = s) s :=
    ⟨x, s, readDisplay_eq (hs.find hx), rfl, rfl⟩
  unfold checkDisplayStatus
  refine wp_bind (hread.mono ?_)
  rintro _ _ ⟨rfl, rfl⟩
  refine wp_ite (fun _ => ?_) fun _ => wp_pure (hless _ hans)
  split
  · exact ⟨(), _, stopDisplay_eq hs hx, hless _ (hans.congr (State.stopped_kernel ..))⟩
  · have hstore := wp_storeListed (P := fun _ => True) (Q := fun _ => True)
      (f := fun display => { display with state := .oldEntry }) (fun _ => rfl) (fun _ => id) hans
      ⟨⟨_, hx, rfl⟩, fun _ _ _ => trivial⟩
    exact wp_bind (hstore.mono fun _ t ht => hstart t ht.1.1 ht.2)
  · exact hstart _ ⟨_, hx, rfl⟩ hans

/-- The walk of `StartDisplays`: `k + 1` answers for each display to come. -/
lemma wp_walk (hattempts : w.Attempts k) (hs : s.Sound [] none) (hnodup : l.Nodup)
    (hl : ∀ a ∈ l, s.Listed a)
    (hans : s.Answers (l.length * (k + 1)) (l.length * (k + 1))) :
    Wp (l.forM (checkDisplayStatus w)) (fun _ _ => True) s := by
  induction l generalizing s with
  | nil => exact wp_pure trivial
  | cons a l ih =>
    obtain ⟨ha, hdistinct⟩ := List.nodup_cons.1 hnodup
    obtain ⟨x, hx, rfl⟩ := hl a (List.mem_cons_self ..)
    -- `k` attempts and a session for this display, and the rest for those to come
    have hhere : s.Answers (k + (l.length * (k + 1) + 1)) (k + l.length * (k + 1)) := by
      rw [List.length_cons, Nat.succ_mul] at hans
      exact hans.mono (by omega) (by omega)
    obtain ⟨_, t, hvisit, ht⟩ := wp_checkDisplayStatus hattempts hs hx hhere
    -- a visit touches no other display, so those to come are still listed
    have honly : Only x.addr s t := ((Only.works x.addr).checkDisplayStatus s trivial _ _ hvisit).2
    have hrest : ∀ b ∈ l, t.Listed b := by
      intro b hb
      refine (honly.listed ?_).2 (hl b (List.mem_cons_of_mem _ hb))
      rintro rfl
      exact ha hb
    change Wp (checkDisplayStatus w x.addr >>= fun _ => l.forM (checkDisplayStatus w)) _ s
    have hsound : t.Sound [] none := (keeps_checkDisplayStatus w x.addr s hs _ _ hvisit).1
    exact wp_bind ⟨(), t, hvisit, ih hsound hdistinct hrest ht⟩

/-- `StartDisplays` returns if the answers suffice for all displays of the list. -/
lemma startDisplays_returns (hattempts : w.Attempts k) (hs : s.Sound [] none)
    (hans : s.Answers (s.displays.length * (k + 1)) (s.displays.length * (k + 1))) :
    ∃ s', startDisplays w s = some ((), s') := by
  rw [← List.length_map Display.addr] at hans
  have hlisted : ∀ a ∈ s.displays.map Display.addr, s.Listed a := by
    intro a ha
    obtain ⟨d, hd, rfl⟩ := List.mem_map.1 ha
    exact ⟨d, hd, rfl⟩
  obtain ⟨_, s', hwalk, -⟩ := wp_walk hattempts hs hs.distinct hlisted hans
  exact ⟨s', hwalk⟩

/-! ### The scan -/

/-- The displays that have the name of an entry have what `ParseDisplay` looks at. -/
def Readable (es : List Entry) (s : State) : Prop :=
  ∀ e ∈ es, ∀ d ∈ s.displays, d.name = e.name →
    ¬ (e.className.isSome ∧ d.className = none) ∧ d.argv ≠ none

/-- After a line the displays of the other entries are as they were. -/
lemma readable_line (hs : s.Sound dead none) (hline : entryOfLine line = some e)
    (hfresh : e.name ∉ es.map Entry.name) (hread : Readable (e :: es) s)
    (hrun : parseDisplay line s = some ((), t)) : Readable es t := by
  intro e' he' x hx hname
  have hother : x.name ≠ e.name := by
    rw [hname]
    exact fun heq => hfresh (heq ▸ List.mem_map_of_mem he')
  refine hread e' (List.mem_cons_of_mem _ he') x ?_ hname
  rcases parseDisplay_some hs hline hrun with ⟨d, hd, hdname, rfl⟩ | ⟨-, rfl⟩
  · rcases State.mem_write.1 hx with ⟨y, hy, hyd, rfl⟩ | ⟨hx, -⟩
    · obtain rfl := hs.distinct.eq_of_mem hy hd hyd
      exact absurd hdname hother
    · exact hx
  · rcases List.mem_cons.1 hx with rfl | hx
    · exact absurd rfl hother
    · exact hx

/-- The scan returns, makes no process, and enters no more displays than there are lines. -/
lemma wp_scan (hs : s.Sound dead none) (hfile : lines.map entryOfLine = es.map some)
    (hnodup : (es.map Entry.name).Nodup) (hread : Readable es s) :
    Wp (lines.forM parseDisplay) (fun _ t => t.kernel = s.kernel ∧
      t.displays.length ≤ s.displays.length + es.length) s := by
  induction lines generalizing s es with
  | nil => exact wp_pure ⟨rfl, Nat.le_add_right ..⟩
  | cons line lines ih =>
    cases es with
    | nil => cases hfile
    | cons e es =>
      obtain ⟨hline, hfile⟩ := List.cons.inj hfile
      obtain ⟨hfresh, hnodup⟩ := List.nodup_cons.1 hnodup
      have hreturns : (parseDisplay line s).isSome = true := by
        refine (parseDisplay_isSome hline s).2 fun d hd => ?_
        have hname : e.name = d.name := by simpa using List.find?_some hd
        exact hread e (List.mem_cons_self ..) d (List.mem_of_find?_eq_some hd) hname.symm
      obtain ⟨⟨_, t⟩, hparse⟩ := Option.isSome_iff_exists.1 hreturns
      -- the line has a display found or a new one entered
      have hentry : t.kernel = s.kernel ∧ t.displays.length ≤ s.displays.length + 1 := by
        rcases parseDisplay_some hs hline hparse with ⟨d, -, -, rfl⟩ | ⟨-, rfl⟩
        · exact ⟨rfl, Nat.le_succ_of_le (Nat.le_of_eq (List.length_map ..))⟩
        · exact ⟨rfl, Nat.le_refl _⟩
      have hsound : t.Sound dead none := (keeps_parseDisplay line s hs _ _ hparse).1
      have hrest := ih hsound hfile hnodup (readable_line hs hline hfresh hread hparse)
      refine wp_bind ⟨(), t, hparse, hrest.mono fun _ u hu => ?_⟩
      refine ⟨hu.1.trans hentry.1, ?_⟩
      rw [List.length_cons]
      omega

/-! ### The rescan -/

/-- `RescanServers`, with its calls, is a scan and `StartDisplays`. -/
lemma rescanServersCalls_eq (w : World) : rescanServersCalls w =
    (do (Happening.rescan w).perform; startDisplaysCalls w) := by
  simp only [rescanServersCalls, Happening.perform, bind_assoc]

/-- What a line of a class can ask of the marked displays. -/
lemma readable_marked (hsourced : s.Sourced)
    (hxdmcp : ∀ d ∈ s.displays, d.displayType.origin = .fromXDMCP → ∀ e ∈ es, e.name ≠ d.name)
    (hclass : ∀ d ∈ s.displays, ∀ e ∈ es, e.name = d.name → e.className.isSome = true →
      d.className.isSome = true) (ht : t.displays = s.allMarked.displays) : Readable es t := by
  intro e he x hx hname
  rw [ht] at hx
  obtain ⟨d, hd, rfl⟩ := List.mem_map.1 hx
  refine ⟨?_, fun hargv => ?_⟩
  · rintro ⟨hsome, hnone⟩
    have hhas := hclass d hd e he hname.symm hsome
    rw [show d.className = none from hnone] at hhas
    cases hhas
  · exact hxdmcp d hd ((hsourced d hd).1 hargv) e he hname.symm

/-- In every reachable state without two displays of one name, for every servers file of entries
with distinct names, of which none is the name of an XDMCP display, and which give a class only
to new displays and to those that have one: the scan comes back, and `RescanServers` does if the
answers of the kernel suffice for the displays of the list and of the file.  Whenever it comes
back, it has followed the file. -/
theorem rescan_follows_file (run : DaemonRun config g h s) (hu : s.UniqueNames) (w : World)
    (hfile : (scanLines w w.config).map entryOfLine = es.map some)
    (hnodup : (es.map Entry.name).Nodup)
    (hxdmcp : ∀ d ∈ s.displays, d.displayType.origin = .fromXDMCP → ∀ e ∈ es, e.name ≠ d.name)
    (hclass : ∀ d ∈ s.displays, ∀ e ∈ es, e.name = d.name → e.className.isSome = true →
      d.className.isSome = true) :
    ∃ t, (Happening.rescan w).perform (s.begin (.rescanServers w)) = some ((), t) ∧
      (∀ k, w.Suffices k (s.displays.length + es.length) s.kernel.children →
        ∃ s', rescanServers w (s.begin (.rescanServers w)) = some ((), s')) ∧
      ∀ s', rescanServers w (s.begin (.rescanServers w)) = some ((), s') →
        ∃ calls, rescanServersCalls w (s.begin (.rescanServers w)) = some (calls, s') ∧
          FollowsFile w es s t s' calls := by
  have hs := (run_sound run).begin (.rescanServers w)
  have hs₀ : (s.begin (.rescanServers w)).UniqueNames := hu
  obtain ⟨hs₁, hrun, -⟩ := lineRun_of_run run
  have hsourced := (lineRun_sourced hrun).2
  have hmarks : State.UniqueNames { (s.begin (.rescanServers w)).allMarked with
      config := w.config } := by
    change ((s.displays.map Display.marked).map Display.name).Nodup
    rw [List.map_map]
    exact hu
  have hsound : State.Sound [] none { (s.begin (.rescanServers w)).allMarked with
      config := w.config } := hs.allMarked.congr rfl rfl (Nat.le_refl _)
  have hreadable : Readable es { (s.begin (.rescanServers w)).allMarked with
      config := w.config } := readable_marked hsourced hxdmcp hclass rfl
  obtain ⟨_, u, hread, hkernel, hlength⟩ := wp_scan hsound hfile hnodup hreadable
  have hscan : (Happening.rescan w).perform (s.begin (.rescanServers w)) =
      some ((), { u with database := scanAccessDatabase w u.config }) :=
    rescan_some.2 ⟨u, by rwa [scanServers_eq], rfl⟩
  have ht := sound_perform (.rescan w) hs _ _ hscan
  have htu := (unique_perform (.rescan w) _ hs₀ _ _ hscan).1
  refine ⟨_, hscan, fun k hsuffices => ?_, fun s' hrescan => ?_⟩
  · have hcount : u.displays.length * (k + 1) ≤
        (s.displays.length + es.length) * (k + 1) := by
      refine Nat.mul_le_mul_right _ (Nat.le_trans hlength (Nat.le_of_eq ?_))
      exact congrArg (· + es.length) (List.length_map ..)
    have hans : State.Answers { u with database := scanAccessDatabase w u.config }
        (u.displays.length * (k + 1)) (u.displays.length * (k + 1)) := by
      constructor <;> dsimp only <;> rw [hkernel]
      exacts [Nat.le_trans hcount hsuffices.forks, Nat.le_trans hcount hsuffices.pauses,
        hsuffices.distinct, hsuffices.fresh]
    obtain ⟨s', hstart⟩ := startDisplays_returns hsuffices.attempts ht hans
    refine ⟨s', ?_⟩
    rw [rescanServers_eq, bind_of_eq_some _ hscan, hstart]
  · rw [rescanServers_eq, bind_of_eq_some _ hscan] at hrescan
    obtain ⟨calls, hcalls⟩ := startDisplaysCalls_of hrescan
    have hscanned := scanned_lines hsound hmarks hfile hnodup hread
    have horigin : ∀ e ∈ es, e.displayType.origin = .fromFile := by
      intro e he
      have hmem : some e ∈ (scanLines w w.config).map entryOfLine :=
        hfile ▸ List.mem_map_of_mem he
      obtain ⟨line, -, hline⟩ := List.mem_map.1 hmem
      exact entryOfLine_origin hline
    refine ⟨calls, ?_, followsFile hu ht htu horigin hnodup hxdmcp
      ⟨hscanned.later, hscanned.kept, hscanned.entered, hscanned.origin⟩ hcalls hrescan⟩
    rw [rescanServersCalls_eq, bind_of_eq_some _ hscan, hcalls]

/-- A servers file of two lines; the kernel answers `fork` like this. -/
def World.twoLines (forks : List (Option Pid)) : World :=
  { World.listing true forks with
    serversText := some [":0 local /usr/bin/X :0".toList, "desk:0 foreign".toList] }

/-- The entries of the two lines. -/
def twoEntries : List Entry :=
  [⟨":0".toList, ⟨.localHost, .permanent, .fromFile⟩, none, ["/usr/bin/X".toList, ":0".toList]⟩,
    ⟨"desk:0".toList, ⟨.foreign, .permanent, .fromFile⟩, none, []⟩]

/-- The session of a remote display runs, and no server can be started: the display of the first
line is not in the list afterwards, and the remote display has been marked. -/
theorem rescan_loses_entry : ∃ h s s', DaemonRun Config.open 0 h s ∧
    s.UniqueNames ∧ (∀ d ∈ s.displays, d.status ≠ .zombie) ∧
    (∀ d ∈ s.displays, d.displayType.origin = .fromXDMCP ∧ d.state = .newEntry ∧
      ∀ e ∈ twoEntries, e.name ≠ d.name) ∧
    rescanServers (World.twoLines [some 12, none])
      (s.begin (.rescanServers (World.twoLines [some 12, none]))) = some ((), s') ∧
    s'.displays.map Display.name = ["desk:0".toList, "10.0.0.2:0".toList] ∧
    s'.displays.map Display.state = [.oldEntry, .missingEntry] := by
  obtain ⟨h, s, run, hu, hstatus, hremote, hrescan⟩ : ∃ h s, DaemonRun Config.open 0 h s ∧
      s.UniqueNames ∧ (∀ d ∈ s.displays, d.status ≠ .zombie) ∧
      (∀ d ∈ s.displays, d.displayType.origin = .fromXDMCP ∧ d.state = .newEntry ∧
        ∀ e ∈ twoEntries, e.name ≠ d.name) ∧
      (rescanServers (World.twoLines [some 12, none])
        (s.begin (.rescanServers (World.twoLines [some 12, none])))).any (fun p =>
          decide (p.2.displays.map Display.name = ["desk:0".toList, "10.0.0.2:0".toList] ∧
            p.2.displays.map Display.state = [.oldEntry, .missingEntry])) = true :=
    exists_run_of_exec [.request (World.lan 20 7) Netaddr.guest (Request.plain 0 []),
      .manage (World.lan 21 7) Netaddr.guest ⟨1, 0, []⟩] (by decide +kernel)
  obtain ⟨⟨_, s'⟩, hrun, htest⟩ := (Option.any_eq_true _ _).1 hrescan
  exact ⟨h, s, s', run, hu, hstatus, hremote, hrun, of_decide_eq_true htest⟩

/-- The local display of the first line runs, and the other line is new. -/
theorem rescan_two_lines : ∃ h s t s' calls, DaemonRun Config.plain 0 h s ∧
    s.displays.map Display.status = [.running] ∧
    rescanServersCalls (World.twoLines [some 12])
      (s.begin (.rescanServers (World.twoLines [some 12]))) = some (calls, s') ∧
    FollowsFile (World.twoLines [some 12]) twoEntries s t s' calls := by
  obtain ⟨h, s, run, hu, hstatus, hlocal, hrescan⟩ : ∃ h s, DaemonRun Config.plain 0 h s ∧
      s.UniqueNames ∧ s.displays.map Display.status = [.running] ∧
      (∀ d ∈ s.displays, d.displayType.origin = .fromFile) ∧
      (rescanServers (World.twoLines [some 12])
        (s.begin (.rescanServers (World.twoLines [some 12])))).isSome = true :=
    exists_run_of_exec [.startUp (World.listing true [some 10, some 11])] (by decide +kernel)
  obtain ⟨⟨_, s'⟩, hrun⟩ := Option.isSome_iff_exists.1 hrescan
  have hnone : ∀ d ∈ s.displays, d.displayType.origin = .fromXDMCP →
      ∀ e ∈ twoEntries, e.name ≠ d.name := by
    intro d hd horigin
    rw [hlocal d hd] at horigin
    cases horigin
  have hclass : ∀ d ∈ s.displays, ∀ e ∈ twoEntries, e.name = d.name →
      e.className.isSome = true → d.className.isSome = true := by
    intro d _ e he _ hsome
    have hno : ∀ e ∈ twoEntries, e.className.isSome = false := by decide
    rw [hno e he] at hsome
    cases hsome
  have hfile : (scanLines (World.twoLines [some 12]) (World.twoLines [some 12]).config).map
      entryOfLine = twoEntries.map some := by
    decide +kernel
  obtain ⟨t, -, -, hfollows⟩ := rescan_follows_file run hu (World.twoLines [some 12]) hfile
    (by decide) hnone hclass
  obtain ⟨calls, hcalls, hfollows⟩ := hfollows s' hrun
  exact ⟨h, s, t, s', calls, run, hstatus, hcalls, hfollows⟩

end Xdm
