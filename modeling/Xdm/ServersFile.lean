/-
# The displays of the servers file

A line of the servers file with a name and a type is an entry.  A scan gives the displays whose
names have an entry what their entries say, enters a display for each other entry, and leaves
the rest as it was.  With the sweep of `StartDisplays` a rescan follows the file.
-/
import Xdm.Rescan

namespace Xdm

open Prog

variable {config : Config} {g : Nat} {h : List (Step State Input)} {s s' t u : State}
variable {w : World} {d x : Display} {e : Entry} {es : List Entry} {lines : List Str}
variable {line : Str} {dead : List Pid} {calls : List DisplayCall}

/-! ### Entries -/

/-- What a line of the servers file says. -/
structure Entry where
  name : Str
  displayType : DisplayType
  className : Option Str
  argv : List Str
deriving DecidableEq

/-- The entry of a line that has a name and a type. -/
def entryOfLine (line : Str) : Option Entry :=
  match splitIntoWords line with
  | name :: type :: rest =>
    let parsed := parseTypeWords type rest
    some ⟨name, parsed.1, parsed.2.1, parsed.2.2⟩
  | _ => none

/-- What `ParseDisplay` makes of a display whose name has an entry. -/
def Entry.refill (e : Entry) (d : Display) : Display :=
  { d with
    state := .oldEntry
    className := e.className.or d.className
    displayType := e.displayType
    argv := some e.argv }

/-- The display that `ParseDisplay` enters for an entry. -/
def Entry.display (e : Entry) (addr : Nat) : Display :=
  { newDisplayAt addr e.name e.className with
    displayType := e.displayType
    argv := some e.argv }

lemma entryOfLine_origin (hline : entryOfLine line = some e) :
    e.displayType.origin = .fromFile := by
  unfold entryOfLine at hline
  split at hline
  · rw [← Option.some.inj hline]
    exact parseTypeWords_origin _ _
  · cases hline

lemma entryOfLine_words (hline : entryOfLine line = some e) :
    ∃ type rest, splitIntoWords line = e.name :: type :: rest ∧
      parseTypeWords type rest = (e.displayType, e.className, e.argv) := by
  unfold entryOfLine at hline
  rcases hwords : splitIntoWords line with _ | ⟨name, _ | ⟨type, rest⟩⟩
  · simp only [hwords] at hline
    cases hline
  · simp only [hwords] at hline
    cases hline
  · simp only [hwords] at hline
    obtain rfl := Option.some.inj hline
    exact ⟨type, rest, rfl, rfl⟩

/-- There is a display of this name.  Its class and its arguments are looked at. -/
lemma parseDisplay_found (hline : entryOfLine line = some e)
    (hfind : findDisplayByName e.name s.displays = some d) :
    parseDisplay line s =
      if (e.className.isSome ∧ d.className = none) ∨ d.argv = none then none
      else writeDisplay d.addr e.refill s := by
  obtain ⟨type, rest, hwords, hparsed⟩ := entryOfLine_words hline
  simp only [parseDisplay, hwords, hparsed]
  rw [get_bind, hfind]
  dsimp only
  split
  · rfl
  · rfl

/-- There is none. -/
lemma parseDisplay_missing (hline : entryOfLine line = some e)
    (hfind : findDisplayByName e.name s.displays = none) :
    parseDisplay line s = writeDisplay s.nextAddr (fun display => { display with
      displayType := e.displayType
      argv := some e.argv }) (s.enter (newDisplayAt s.nextAddr e.name e.className)) := by
  obtain ⟨type, rest, hwords, hparsed⟩ := entryOfLine_words hline
  simp only [parseDisplay, hwords, hparsed]
  rw [get_bind, hfind]
  dsimp only
  rw [bind_of_eq_some _ (newDisplay_eq ..)]

/-- A line either refills the display that has its name, or enters one. -/
lemma parseDisplay_some (hs : s.Sound dead none) (hline : entryOfLine line = some e)
    (hrun : parseDisplay line s = some ((), s')) :
    (∃ d ∈ s.displays, d.name = e.name ∧ s' = s.write d.addr e.refill) ∨
      (∀ d ∈ s.displays, d.name ≠ e.name) ∧ s' = s.enter (e.display s.nextAddr) := by
  cases hfind : findDisplayByName e.name s.displays with
  | some d =>
    have hd : d ∈ s.displays := List.mem_of_find?_eq_some hfind
    have hname : e.name = d.name := by simpa using List.find?_some hfind
    rw [parseDisplay_found hline hfind] at hrun
    split_ifs at hrun with hnull
    rw [writeDisplay_eq _ (hs.find hd)] at hrun
    obtain ⟨-, rfl⟩ := Prod.mk.inj (Option.some.inj hrun)
    exact Or.inl ⟨d, hd, hname.symm, rfl⟩
  | none =>
    have hfresh : ∀ d ∈ s.displays, d.name ≠ e.name := fun d hd hname => by
      simpa [hname] using List.find?_eq_none.1 hfind d hd
    have hold : ∀ d ∈ s.displays, d.addr ≠ s.nextAddr := fun d hd => by
      have := hs.bound d hd
      omega
    rw [parseDisplay_missing hline hfind, writeDisplay_enter _ hold rfl] at hrun
    obtain ⟨-, rfl⟩ := Prod.mk.inj (Option.some.inj hrun)
    exact Or.inr ⟨hfresh, rfl⟩

/-! ### A scan -/

/-- A display after a scan of the entries. -/
def afterScan (es : List Entry) (d : Display) : Display :=
  match es.find? fun e => decide (e.name = d.name) with
  | some e => e.refill d
  | none => d

lemma afterScan_of_absent (habsent : ∀ e ∈ es, e.name ≠ d.name) : afterScan es d = d := by
  unfold afterScan
  rw [List.find?_eq_none.2 (by simpa using habsent)]

lemma afterScan_cons (e : Entry) (es : List Entry) (d : Display) :
    afterScan (e :: es) d = if e.name = d.name then e.refill d else afterScan es d := by
  unfold afterScan
  rw [List.find?_cons]
  by_cases hname : e.name = d.name <;> simp [hname]

lemma afterScan_of_mem (hnodup : (es.map Entry.name).Nodup) (he : e ∈ es)
    (hname : e.name = d.name) : afterScan es d = e.refill d := by
  induction es with
  | nil => cases he
  | cons e' es ih =>
    rw [List.map_cons, List.nodup_cons] at hnodup
    rw [afterScan_cons]
    rcases List.mem_cons.1 he with rfl | he
    · rw [if_pos hname]
    · have hne : e'.name ≠ d.name := fun heq =>
        hnodup.1 (heq.trans hname.symm ▸ List.mem_map_of_mem he)
      rw [if_neg hne]
      exact ih hnodup.2 he

/-- No display has the name of the entry. -/
def State.Lacks (s : State) (e : Entry) : Prop := ∀ d ∈ s.displays, d.name ≠ e.name

/-- From `s` to `t` the entries have been scanned. -/
structure Scanned (es : List Entry) (s t : State) : Prop where
  later : s.nextAddr ≤ t.nextAddr
  kept : ∀ d ∈ s.displays, afterScan es d ∈ t.displays
  entered : ∀ e ∈ es, s.Lacks e → ∃ a, s.nextAddr ≤ a ∧ e.display a ∈ t.displays
  origin : ∀ x ∈ t.displays, (∃ d ∈ s.displays, x = afterScan es d) ∨
    ∃ e ∈ es, s.Lacks e ∧ ∃ a, x = e.display a

lemma Scanned.nil (s : State) : Scanned [] s s where
  later := Nat.le_refl _
  kept := fun _ hd => hd
  entered := by simp
  origin := fun x hx => Or.inl ⟨x, hx, rfl⟩

/-- One line. -/
lemma scanned_line (hs : s.Sound dead none) (hu : s.UniqueNames) (hline : entryOfLine line = some e)
    (hrun : parseDisplay line s = some ((), t)) : Scanned [e] s t := by
  have hafter : ∀ d, afterScan [e] d = if e.name = d.name then e.refill d else d := fun d => by
    rw [afterScan_cons]
    rfl
  rcases parseDisplay_some hs hline hrun with ⟨d₀, hd₀, hname₀, rfl⟩ | ⟨hlacks, rfl⟩
  · have hnames : ∀ d ∈ s.displays, e.name = d.name ↔ d.addr = d₀.addr := by
      intro d hd
      constructor
      · exact fun hname =>
          congrArg Display.addr (hu.eq_of_mem hd hd₀ (hname.symm.trans hname₀.symm))
      · intro haddr
        rw [hs.distinct.eq_of_mem hd hd₀ haddr, hname₀]
    refine ⟨Nat.le_refl _, fun d hd => ?_, fun e' he' hlacks => ?_, fun x hx => Or.inl ?_⟩
    · rw [hafter, State.mem_write]
      split_ifs with hname
      · exact Or.inl ⟨d, hd, (hnames d hd).1 hname, rfl⟩
      · exact Or.inr ⟨hd, fun haddr => hname ((hnames d hd).2 haddr)⟩
    · rw [List.mem_singleton.1 he'] at hlacks
      exact absurd hname₀ (hlacks d₀ hd₀)
    · rcases State.mem_write.1 hx with ⟨d, hd, haddr, rfl⟩ | ⟨hx, haddr⟩
      · exact ⟨d, hd, by rw [hafter, if_pos ((hnames d hd).2 haddr)]⟩
      · exact ⟨x, hx, by rw [hafter, if_neg fun hname => haddr ((hnames x hx).1 hname)]⟩
  · refine ⟨Nat.le_succ _, fun d hd => ?_, fun e' he' _ => ?_, fun x hx => ?_⟩
    · rw [hafter, if_neg fun hname => hlacks d hd hname.symm]
      exact List.mem_cons_of_mem _ hd
    · rw [List.mem_singleton.1 he']
      exact ⟨_, Nat.le_refl _, List.mem_cons_self ..⟩
    · rcases List.mem_cons.1 hx with rfl | hx
      · exact Or.inr ⟨e, by simp, hlacks, _, rfl⟩
      · exact Or.inl ⟨x, hx, by rw [hafter, if_neg fun hname => hlacks x hx hname.symm]⟩

/-- The entries after the first one do not concern its display. -/
lemma Scanned.cons (hnodup : e.name ∉ es.map Entry.name) (hline : Scanned [e] s t)
    (hrest : Scanned es t u) : Scanned (e :: es) s u := by
  have habsent : ∀ x : Display, x.name = e.name → afterScan es x = x := fun x hx =>
    afterScan_of_absent fun e' he' hname =>
      hnodup (hname.trans hx ▸ List.mem_map_of_mem he')
  have hafter : ∀ d, afterScan (e :: es) d = afterScan es (afterScan [e] d) := by
    intro d
    rw [afterScan_cons, afterScan_cons]
    split_ifs with hname
    · exact (habsent (e.refill d) hname.symm).symm
    · rfl
  have hname : ∀ d, (afterScan [e] d).name = d.name := by
    intro d
    rw [afterScan_cons]
    split_ifs <;> rfl
  have hlacks : ∀ e' ∈ es, t.Lacks e' ↔ s.Lacks e' := by
    intro e' he'
    constructor
    · exact fun ht d hd => hname d ▸ ht _ (hline.kept d hd)
    · intro hs x hx
      rcases hline.origin x hx with ⟨d, hd, rfl⟩ | ⟨e₁, he₁, -, a, rfl⟩
      · exact (hname d).symm ▸ hs d hd
      · rw [List.mem_singleton.1 he₁]
        intro (heq : e.name = e'.name)
        exact hnodup (heq ▸ List.mem_map_of_mem he')
  refine ⟨Nat.le_trans hline.later hrest.later, fun d hd => ?_, fun e' he' hl => ?_,
    fun x hx => ?_⟩
  · rw [hafter]
    exact hrest.kept _ (hline.kept d hd)
  · rcases List.mem_cons.1 he' with rfl | he'
    · obtain ⟨a, ha, hmem⟩ := hline.entered e' (by simp) hl
      refine ⟨a, ha, ?_⟩
      rw [← habsent (e'.display a) rfl]
      exact hrest.kept _ hmem
    · obtain ⟨a, ha, hmem⟩ := hrest.entered e' he' ((hlacks e' he').2 hl)
      exact ⟨a, Nat.le_trans hline.later ha, hmem⟩
  · rcases hrest.origin x hx with ⟨y, hy, rfl⟩ | ⟨e', he', hl, a, rfl⟩
    · rcases hline.origin y hy with ⟨d, hd, rfl⟩ | ⟨e₁, he₁, hl, a, rfl⟩
      · exact Or.inl ⟨d, hd, (hafter d).symm⟩
      · rw [List.mem_singleton] at he₁
        subst he₁
        exact Or.inr ⟨e₁, List.mem_cons_self .., hl, a, habsent _ rfl⟩
    · exact Or.inr ⟨e', List.mem_cons_of_mem _ he', (hlacks e' he').1 hl, a, rfl⟩

/-- The whole file. -/
lemma scanned_lines (hs : s.Sound dead none) (hu : s.UniqueNames)
    (hfile : lines.map entryOfLine = es.map some) (hnodup : (es.map Entry.name).Nodup)
    (hrun : lines.forM parseDisplay s = some ((), t)) : Scanned es s t := by
  induction lines generalizing s es with
  | nil =>
    obtain rfl : es = [] := by simpa using hfile.symm
    obtain ⟨-, rfl⟩ := Prod.mk.inj (Option.some.inj hrun)
    exact Scanned.nil s
  | cons line lines ih =>
    cases es with
    | nil => cases hfile
    | cons e es =>
      obtain ⟨hline, hfile⟩ := List.cons.inj hfile
      obtain ⟨hfresh, hnodup⟩ := List.nodup_cons.1 hnodup
      change (parseDisplay line >>= fun _ => lines.forM parseDisplay) s = _ at hrun
      obtain ⟨_, u, hparse, hrest⟩ := bind_eq_some.1 hrun
      have hsound : u.Sound dead none := (keeps_parseDisplay line s hs _ _ hparse).1
      have hunique : u.UniqueNames := (keepsUnique_parseDisplay line s hu _ _ hparse).1
      exact Scanned.cons hfresh (scanned_line hs hu hline hparse)
        (ih hsound hunique hfile hnodup hrest)

/-! ### The calls of a rescan -/

/-- The name of the display that is called for. -/
def DisplayCall.name : DisplayCall → Str
  | .stop name | .start name => name

lemma name_of_mem_calls {c : DisplayCall} (hc : c ∈ d.calls) : c.name = d.name := by
  unfold Display.calls at hc
  split_ifs at hc <;> simp_all [DisplayCall.name]

lemma mem_calls_stop {name : Str} : .stop name ∈ d.calls ↔
    d.displayType.origin = .fromFile ∧ d.state = .missingEntry ∧ d.name = name := by
  unfold Display.calls
  split_ifs <;> simp_all [eq_comm]

lemma mem_calls_start {name : Str} : .start name ∈ d.calls ↔
    d.displayType.origin = .fromFile ∧ d.state ≠ .missingEntry ∧
      d.displayType.lifetime = .permanent ∧ d.status = .notRunning ∧ d.name = name := by
  unfold Display.calls
  split_ifs <;> simp_all [eq_comm]

lemma nodup_calls (d : Display) : d.calls.Nodup := by
  unfold Display.calls
  split_ifs <;> simp

/-- Displays with distinct names: nobody is called for twice. -/
lemma nodup_flatMap_calls (hu : t.UniqueNames) : (t.displays.flatMap Display.calls).Nodup := by
  refine List.nodup_flatMap.2 ⟨fun d _ => nodup_calls d, ?_⟩
  refine (List.pairwise_map.1 hu).imp fun hne => ?_
  intro c hc hc'
  exact hne ((name_of_mem_calls hc).symm.trans (name_of_mem_calls hc'))

/-- What becomes of a marked display in the scan. -/
lemma afterScan_marked (hnodup : (es.map Entry.name).Nodup) (d : Display) :
    (∃ e ∈ es, e.name = d.name ∧ afterScan es d.marked = e.refill d.marked) ∨
      (∀ e ∈ es, e.name ≠ d.name) ∧ afterScan es d.marked = d.marked := by
  by_cases hentry : ∃ e ∈ es, e.name = d.name
  · obtain ⟨e, he, hname⟩ := hentry
    exact Or.inl ⟨e, he, hname, afterScan_of_mem hnodup he hname⟩
  · have habsent : ∀ e ∈ es, e.name ≠ d.name := fun e he hname => hentry ⟨e, he, hname⟩
    exact Or.inr ⟨habsent, afterScan_of_absent (d := d.marked) habsent⟩

/-- `StartDisplays`, started in `t`, comes to the display at `a`, and `StartServer` cannot start
a server for it. -/
def lacksServer (w : World) (t : State) (a : Nat) : Bool :=
  (startTurn w a t).any (refusesServer w a)

/-- The rescan from `s` to `s'`, with its calls, has followed the file of these entries; `t` is
the state after the scan. -/
structure FollowsFile (w : World) (es : List Entry) (s t s' : State)
    (calls : List DisplayCall) : Prop where
  /-- `StopDisplay` is called for the displays of the servers file without an entry. -/
  stopped : ∀ name, .stop name ∈ calls ↔
    ∃ d ∈ s.displays, d.displayType.origin = .fromFile ∧ d.name = name ∧ ∀ e ∈ es, e.name ≠ name
  /-- `StartDisplay` is called for the permanent entries whose display was not running, or was
  not there. -/
  started : ∀ name, .start name ∈ calls ↔
    ∃ e ∈ es, e.name = name ∧ e.displayType.lifetime = .permanent ∧
      ∀ d ∈ s.displays, d.name = name → d.status = .notRunning
  once : calls.Nodup
  running : ∀ d ∈ s.displays, (∃ e ∈ es, e.name = d.name) → d.status = .running →
    ∃ x ∈ s'.displays, x.addr = d.addr ∧ x.pid = d.pid ∧ x.serverPid = d.serverPid ∧
      x.status = .running
  /-- A display is entered for every other entry, and removed again if it is a permanent local
  one for which, when `StartDisplays` comes to it, no server can be started. -/
  entered : ∀ e ∈ es, s.Lacks e → ∃ a, s.nextAddr ≤ a ∧ e.display a ∈ t.displays ∧
    if e.displayType.lifetime = .permanent ∧ e.displayType.location = .localHost ∧
      lacksServer w t a = true
    then ∀ d ∈ s'.displays, d.name ≠ e.name
    else (s'.displays.map Display.name).count e.name = 1
  /-- The mark of `MarkDisplay` stays on the displays of XDMCP. -/
  xdmcp : ∀ d ∈ s.displays, d.displayType.origin = .fromXDMCP →
    { d with state := .missingEntry } ∈ s'.displays

section Sweep

variable (hu : s.UniqueNames) (hnodup : (es.map Entry.name).Nodup)
  (hscan : Scanned es s.allMarked t)

include hnodup hscan

/-- A display with an entry, after the scan. -/
lemma refill_mem (hd : d ∈ s.displays) (he : e ∈ es) (hname : e.name = d.name) :
    e.refill d.marked ∈ t.displays := by
  have hmem := hscan.kept d.marked (List.mem_map_of_mem hd)
  rwa [afterScan_of_mem hnodup he (d := d.marked) hname] at hmem

omit hnodup in
/-- A display without an entry, after the scan. -/
lemma marked_mem (hd : d ∈ s.displays) (habsent : ∀ e ∈ es, e.name ≠ d.name) :
    d.marked ∈ t.displays := by
  have hmem := hscan.kept d.marked (List.mem_map_of_mem hd)
  rwa [afterScan_of_absent (d := d.marked) habsent] at hmem

omit hnodup in
/-- The display that has been entered for an entry. -/
lemma entered_mem (he : e ∈ es) (hlacks : s.Lacks e) :
    ∃ a, s.nextAddr ≤ a ∧ e.display a ∈ t.displays := by
  refine hscan.entered e he fun x hx => ?_
  obtain ⟨d, hd, rfl⟩ := List.mem_map.1 hx
  exact hlacks d hd

/-- The displays after the scan. -/
lemma mem_scanned (hx : x ∈ t.displays) :
    (∃ d ∈ s.displays, ∃ e ∈ es, e.name = d.name ∧ x = e.refill d.marked) ∨
    (∃ d ∈ s.displays, (∀ e ∈ es, e.name ≠ d.name) ∧ x = d.marked) ∨
    ∃ e ∈ es, s.Lacks e ∧ ∃ a, x = e.display a := by
  rcases hscan.origin x hx with ⟨y, hy, rfl⟩ | ⟨e, he, hlacks, a, rfl⟩
  · obtain ⟨d, hd, rfl⟩ := List.mem_map.1 hy
    rcases afterScan_marked hnodup d with ⟨e, he, hname, heq⟩ | ⟨habsent, heq⟩
    · exact Or.inl ⟨d, hd, e, he, hname, heq⟩
    · exact Or.inr (Or.inl ⟨d, hd, habsent, heq⟩)
  · exact Or.inr (Or.inr ⟨e, he, fun d hd => hlacks d.marked (List.mem_map_of_mem hd), a, rfl⟩)

lemma stop_iff (name : Str) : .stop name ∈ t.displays.flatMap Display.calls ↔
    ∃ d ∈ s.displays, d.displayType.origin = .fromFile ∧ d.name = name ∧
      ∀ e ∈ es, e.name ≠ name := by
  rw [List.mem_flatMap]
  constructor
  · rintro ⟨x, hx, hc⟩
    obtain ⟨horigin, hstate, rfl⟩ := mem_calls_stop.1 hc
    rcases mem_scanned hnodup hscan hx with ⟨d, -, e, -, -, rfl⟩ | ⟨d, hd, habsent, rfl⟩ |
      ⟨e, -, -, a, rfl⟩
    · exact nomatch hstate
    · exact ⟨d, hd, horigin, rfl, habsent⟩
    · exact nomatch hstate
  · rintro ⟨d, hd, horigin, rfl, habsent⟩
    exact ⟨d.marked, marked_mem hscan hd habsent, mem_calls_stop.2 ⟨horigin, rfl, rfl⟩⟩

include hu

lemma start_iff (horigin : ∀ e ∈ es, e.displayType.origin = .fromFile) (name : Str) :
    .start name ∈ t.displays.flatMap Display.calls ↔
      ∃ e ∈ es, e.name = name ∧ e.displayType.lifetime = .permanent ∧
        ∀ d ∈ s.displays, d.name = name → d.status = .notRunning := by
  rw [List.mem_flatMap]
  constructor
  · rintro ⟨x, hx, hc⟩
    obtain ⟨-, hstate, hlifetime, hstatus, rfl⟩ := mem_calls_start.1 hc
    rcases mem_scanned hnodup hscan hx with ⟨d, hd, e, he, hname, rfl⟩ | ⟨d, -, -, rfl⟩ |
      ⟨e, he, hlacks, a, rfl⟩
    · refine ⟨e, he, hname, hlifetime, fun d' hd' hname' => ?_⟩
      rw [hu.eq_of_mem hd' hd hname']
      exact hstatus
    · exact absurd rfl hstate
    · exact ⟨e, he, rfl, hlifetime, fun d hd hname => absurd hname (hlacks d hd)⟩
  · rintro ⟨e, he, rfl, hlifetime, hstatus⟩
    by_cases hthere : ∃ d ∈ s.displays, d.name = e.name
    · obtain ⟨d, hd, hname⟩ := hthere
      refine ⟨_, refill_mem hnodup hscan hd he hname.symm, mem_calls_start.2 ⟨horigin e he, ?_,
        hlifetime, hstatus d hd hname, hname⟩⟩
      exact fun hstate => nomatch hstate
    · obtain ⟨a, -, hmem⟩ := entered_mem hscan he fun d hd hname => hthere ⟨d, hd, hname⟩
      refine ⟨_, hmem, mem_calls_start.2 ⟨horigin e he, ?_, hlifetime, rfl, rfl⟩⟩
      exact fun hstate => nomatch hstate

end Sweep

/-- The sweep after a scan. -/
lemma followsFile (hu : s.UniqueNames) (ht : t.Sound [] none) (htu : t.UniqueNames)
    (horigin : ∀ e ∈ es, e.displayType.origin = .fromFile) (hnodup : (es.map Entry.name).Nodup)
    (hxdmcp : ∀ d ∈ s.displays, d.displayType.origin = .fromXDMCP → ∀ e ∈ es, e.name ≠ d.name)
    (hscan : Scanned es s.allMarked t) (hrun : startDisplaysCalls w t = some (calls, s'))
    (hstart : startDisplays w t = some ((), s')) : FollowsFile w es s t s' calls := by
  obtain ⟨rfl, houtcome⟩ := startDisplays_outcomes ht hrun
  have hs' : s'.UniqueNames := (operates_unique.startDisplays w t htu _ _ hstart).1
  have hshrinks : Shrinks t s' :=
    (keeps_forEachDisplay (fun a => (Shrinks.works a).checkDisplayStatus) t trivial _ _ hstart).2
  refine ⟨stop_iff hnodup hscan, start_iff hu hnodup hscan horigin, nodup_flatMap_calls htu,
    ?running, ?entered, ?xdmcp⟩
  case running =>
    rintro d hd ⟨e, he, hname⟩ hstatus
    have hmem := refill_mem hnodup hscan hd he hname
    have hcalls : (e.refill d.marked).calls = [] := by
      simp [Display.calls, Entry.refill, Display.marked, hstatus]
    obtain ⟨u, -, ho⟩ := houtcome _ hmem
    have hidle := ho.idle hcalls
    rw [Display.settled_of_ne (by simp [Entry.refill])] at hidle
    exact ⟨_, hidle, rfl, rfl, rfl, hstatus⟩
  case entered =>
    intro e he hlacks
    obtain ⟨a, ha, hmem⟩ := entered_mem hscan he hlacks
    obtain ⟨u, hturn, ho⟩ := houtcome _ hmem
    refine ⟨a, ha, hmem, ?_⟩
    -- whoever has the name is the new display, and the other way round
    have hname : ∀ x ∈ s'.displays, x.name = e.name ↔ x.addr = a := by
      intro x hx
      obtain ⟨y, hy, hid⟩ := hshrinks.mem hx
      have hyname : y.name = x.name := congrArg Identity.name hid
      have hyaddr : y.addr = x.addr := congrArg Identity.addr hid
      rw [← hyname, ← hyaddr]
      constructor
      · exact fun hyn => congrArg Display.addr (htu.eq_of_mem hy hmem hyn)
      · exact fun hya => congrArg Display.name (ht.distinct.eq_of_mem hy hmem hya)
    have hone : s'.Listed a → (s'.displays.map Display.name).count e.name = 1 := by
      rintro ⟨x, hx, hxa⟩
      refine List.count_eq_one_of_mem hs' ?_
      exact List.mem_map.2 ⟨x, hx, (hname x hx).2 hxa⟩
    by_cases hpermanent : e.displayType.lifetime = .permanent
    · have hcalls : (e.display a).calls = [.start e.name] := by
        simp [Display.calls, Entry.display, newDisplayAt, horigin e he, hpermanent]
      have hrefused : lacksServer w t a = refusesServer w a u := by
        unfold lacksServer
        rw [show startTurn w a t = some u from hturn, Option.any_some]
      have hstarted : if e.displayType.location = .localHost ∧ (-1 : Pid) = -1 ∧
          refusesServer w a u = true then ¬ s'.Listed a else s'.Listed a := ho.started hcalls
      simp only [true_and] at hstarted
      simp only [hpermanent, true_and, hrefused]
      split_ifs at hstarted ⊢
      · exact fun x hx hxn => hstarted ⟨x, hx, (hname x hx).1 hxn⟩
      · exact hone hstarted
    · have hcalls : (e.display a).calls = [] := by
        simp [Display.calls, Entry.display, newDisplayAt, hpermanent]
      simp only [hpermanent, false_and, if_false]
      refine hone ⟨_, ho.idle hcalls, ?_⟩
      unfold Display.settled
      split_ifs <;> rfl
  case xdmcp =>
    intro d hd hforeign
    have hmem := marked_mem hscan hd (hxdmcp d hd hforeign)
    have hcalls : d.marked.calls = [] := by
      rw [d.calls_marked, if_neg (by simp [hforeign])]
    obtain ⟨u, -, ho⟩ := houtcome _ hmem
    have hidle := ho.idle hcalls
    rwa [Display.settled_of_ne (by simp [Display.marked])] at hidle

end Xdm
