/-
# The three scans for indirect clients

`ForEachMatchingIndirectHost`, `UseChooser` and `ForEachChooserHost` (`xdm/access.c`) each go
through the database by a loop of their own.  All of them stop at the same entry; what they do
with it is said here by its expanded host list, in which the macros have been replaced.
-/
import Xdm.Access.Control
import Xdm.Choose

namespace Xdm

variable {w : World} {database : List DisplayEntry} {addr : ARRAY8} {connectionType : CARD16}
variable {d : DisplayEntry} {broadcast : Bool}

/-! ### The loops -/

/-- The loop that the three functions share: over entries that are not for the client or have
no host list it goes on, at one that is negated it breaks off, and otherwise `act` is what it
does with the entry. -/
def scanDatabase {α : Type} (w : World) (clientAddress : ARRAY8) (connectionType : CARD16)
    (stop : α) (act : DisplayEntry → α) : List DisplayEntry → α
  | [] => stop
  | d :: ds =>
    if matchesClient w clientAddress connectionType d = false then
      scanDatabase w clientAddress connectionType stop act ds
    else if d.hosts = [] then scanDatabase w clientAddress connectionType stop act ds
    else if d.notAllowed then stop
    else act d

/-- The loop of `ForEachMatchingIndirectHost`.  The argument `choice` is what
`IndirectChoice` returns. -/
def forEachMatchingIndirectHostLoop (w : World) (database : List DisplayEntry)
    (choice : Option ARRAY8) (clientAddress : ARRAY8) (connectionType : CARD16) :
    List DisplayEntry → HostScan :=
  scanDatabase w clientAddress connectionType ⟨false, []⟩ fun d =>
    if d.chooser then
      match choice with
      | none => ⟨true, []⟩
      | some choice =>
        if isLocalAddress w choice connectionType then ⟨true, []⟩ else ⟨false, [choice]⟩
    else scanHostlist w database connectionType 0 false d.hosts

/-- The loop of `UseChooser`. -/
def useChooserLoop (w : World) (choice : Option ARRAY8) (clientAddress : ARRAY8)
    (connectionType : CARD16) : List DisplayEntry → Bool :=
  scanDatabase w clientAddress connectionType false fun d => d.chooser && choice.isNone

/-- The loop of `ForEachChooserHost`. -/
def forEachChooserHostLoop (w : World) (database : List DisplayEntry) (clientAddress : ARRAY8)
    (connectionType : CARD16) : List DisplayEntry → HostScan :=
  scanDatabase w clientAddress connectionType ⟨false, []⟩ fun d =>
    if d.chooser then scanHostlist w database connectionType 0 true d.hosts else ⟨false, []⟩

/-- `getLocalAddress`: the first address of the local host name.  The source keeps it from
the first call on. -/
def getLocalAddress (w : World) : ARRAY8 :=
  match w.getaddrinfo w.localHostname with
  | [] => inaddrLoopback
  | .inet _ addr :: _ => addr.1
  | .inet6 _ addr _ :: _ => addr.1
  | _ :: _ => []

/-- `ForEachChooserHost`: the addresses that it passes to the callback, in order. -/
def forEachChooserHost (w : World) (database : List DisplayEntry) (clientAddress : ARRAY8)
    (connectionType : CARD16) : List ARRAY8 :=
  let scan := forEachChooserHostLoop w database clientAddress connectionType database
  scan.calls ++ if scan.haveLocalhost then [getLocalAddress w] else []

/-! ### The entry at which they stop -/

/-- The entry is no macro and no `LISTEN` line, is for the client, and has a host list. -/
structure Selects (w : World) (clientAddress : ARRAY8) (connectionType : CARD16)
    (d : DisplayEntry) : Prop where
  noMacro : ∀ name, d.entry ≠ .alias name
  noListen : d.entry ≠ .listen
  hosts : d.hosts ≠ []
  client : matchesClient w clientAddress connectionType d = true

lemma selects_iff : Selects w addr connectionType d ↔
    d.hosts ≠ [] ∧ matchesClient w addr connectionType d = true := by
  constructor
  · exact fun h => ⟨h.hosts, h.client⟩
  · rintro ⟨hhosts, hclient⟩
    refine ⟨fun name hname => ?_, fun hlisten => ?_, hhosts, hclient⟩
    · simp [matchesClient, hname] at hclient
    · simp [matchesClient, hlisten] at hclient

/-- The first such entry of the database. -/
def Selected (w : World) (database : List DisplayEntry) (clientAddress : ARRAY8)
    (connectionType : CARD16) (d : DisplayEntry) : Prop :=
  ∃ before after, database = before ++ d :: after ∧ Selects w clientAddress connectionType d ∧
    ∀ e ∈ before, ¬ Selects w clientAddress connectionType e

lemma selected_iff : Selected w database addr connectionType d ↔
    indirectEntry w database addr connectionType = some d := by
  unfold indirectEntry Selected
  simp only [List.find?_eq_some_iff_append, selects_iff, decide_eq_true_eq, Bool.not_eq_true',
    decide_eq_false_iff_not]
  constructor
  · rintro ⟨before, after, hdb, hd, hno⟩
    exact ⟨hd, before, after, hdb, hno⟩
  · rintro ⟨hd, before, after, hdb, hno⟩
    exact ⟨before, after, hdb, hd, hno⟩

/-- The loop does something with the entry that is found, unless it is negated. -/
lemma scanDatabase_eq {α : Type} (stop : α) (act : DisplayEntry → α)
    (database : List DisplayEntry) :
    scanDatabase w addr connectionType stop act database =
      match indirectEntry w database addr connectionType with
      | none => stop
      | some d => if d.notAllowed then stop else act d := by
  induction database with
  | nil => rfl
  | cons d ds ih =>
    unfold scanDatabase indirectEntry
    by_cases hselects : d.hosts ≠ [] ∧ matchesClient w addr connectionType d = true
    · rw [if_neg (by simp [hselects.2]), if_neg hselects.1,
        List.find?_cons_of_pos (by simpa using hselects)]
    · rw [List.find?_cons_of_neg (by simpa using hselects)]
      split_ifs with hclient hhosts
      · exact ih
      · exact ih
      · exact absurd ⟨hhosts, by simpa using hclient⟩ hselects
      · exact absurd ⟨hhosts, by simpa using hclient⟩ hselects

/-- The functions of `Xdm.Access.Control`, which ask for the entry, are the loops. -/
lemma forEachMatchingIndirectHost_eq (choice : Option ARRAY8) :
    forEachMatchingIndirectHostLoop w database choice addr connectionType database =
      forEachMatchingIndirectHost w database choice addr connectionType := by
  unfold forEachMatchingIndirectHostLoop forEachMatchingIndirectHost
  cases hentry : indirectEntry w database addr connectionType with
  | none => simp only [scanDatabase_eq, hentry]
  | some d => cases choice <;> simp only [scanDatabase_eq, hentry]

lemma useChooser_eq (choice : Option ARRAY8) :
    useChooserLoop w choice addr connectionType database =
      useChooser w database choice addr connectionType := by
  unfold useChooserLoop useChooser
  cases hentry : indirectEntry w database addr connectionType with
  | none => simp only [scanDatabase_eq, hentry]
  | some d => cases hallowed : d.notAllowed <;> simp [scanDatabase_eq, hentry, hallowed]

/-! ### Expanded host lists -/

/-- The hosts that one entry of a host list stands for, with `n` macro levels left: a macro
stands for the hosts of all its definitions. -/
def expandHost (w : World) (database : List DisplayEntry) : Nat → HostEntry → List HostEntry
  | n, h =>
    match h.entry, n with
    | .alias _, 0 => []
    | .alias aliasName, n + 1 =>
      (database.filter fun d => match d.entry with
        | .alias name => patternMatch w name aliasName
        | _ => false).flatMap fun d => d.hosts.flatMap (expandHost w database n)
    | _, _ => [h]

/-- The expanded host list of an entry. -/
def expandedHosts (w : World) (database : List DisplayEntry) (d : DisplayEntry) :
    List HostEntry :=
  d.hosts.flatMap (expandHost w database maxDepth)

/-- The host is the local one. -/
def HostEntry.isLocal (w : World) (connectionType : CARD16) (h : HostEntry) : Bool :=
  match h.entry with
  | .address address => isLocalAddress w address connectionType
  | _ => false

/-- What a host is offered as: its address, unless it is local, and `BROADCAST` if that is
wanted. -/
def HostEntry.offered (w : World) (connectionType : CARD16) (broadcast : Bool) (h : HostEntry) :
    Option ARRAY8 :=
  match h.entry with
  | .address address => if isLocalAddress w address connectionType then none else some address
  | .broadcast => if broadcast then some (bytesOf broadcastString) else none
  | _ => none

/-- The scan of a list without macros. -/
def HostScan.ofHosts (w : World) (connectionType : CARD16) (broadcast : Bool)
    (hosts : List HostEntry) : HostScan :=
  ⟨hosts.any (HostEntry.isLocal w connectionType),
    hosts.filterMap (HostEntry.offered w connectionType broadcast)⟩

lemma HostScan.join_ofHosts {α : Type} {f : α → HostScan} {hosts : α → List HostEntry}
    {l : List α} (hf : ∀ x ∈ l, f x = HostScan.ofHosts w connectionType broadcast (hosts x)) :
    HostScan.join (l.map f) =
      HostScan.ofHosts w connectionType broadcast (l.flatMap hosts) := by
  induction l with
  | nil => rfl
  | cons x l ih =>
    have hrest := ih fun y hy => hf y (List.mem_cons_of_mem _ hy)
    unfold HostScan.join at hrest ⊢
    rw [List.map_cons, List.foldr_cons, hrest, hf x (List.mem_cons_self ..), List.flatMap_cons]
    unfold HostScan.ofHosts HostScan.append
    rw [List.any_append, List.filterMap_append]

/-- A host that is no macro stands for itself. -/
lemma scanHost_plain {h : HostEntry} (hplain : ∀ name, h.entry ≠ .alias name) (n : Nat) :
    scanHost w database connectionType broadcast n h =
      HostScan.ofHosts w connectionType broadcast (expandHost w database n h) := by
  obtain ⟨entry, hopCount⟩ := h
  have hself : expandHost w database n ⟨entry, hopCount⟩ = [⟨entry, hopCount⟩] := by
    rcases entry with name | _ | _ | _ | _ | _
    · exact absurd rfl (hplain name)
    all_goals cases n <;> rfl
  rw [hself]
  rcases entry with name | address | _ | _ | _ | _
  · exact absurd rfl (hplain name)
  · unfold scanHost HostScan.ofHosts
    cases hlocal : isLocalAddress w address connectionType <;>
      simp [HostEntry.isLocal, HostEntry.offered, hlocal]
  · cases broadcast <;> cases n <;> rfl
  all_goals cases n <;> rfl

/-- Induction on the macro levels that are left. -/
lemma scanHost_eq (n : Nat) (h : HostEntry) :
    scanHost w database connectionType broadcast n h =
      HostScan.ofHosts w connectionType broadcast (expandHost w database n h) := by
  by_cases hplain : ∀ name, h.entry ≠ .alias name
  · exact scanHost_plain hplain n
  obtain ⟨name, hname⟩ : ∃ name, h.entry = .alias name := by
    simpa using hplain
  induction n generalizing h name with
  | zero =>
    unfold scanHost expandHost
    rw [hname]
    rfl
  | succ n ih =>
    have hall : ∀ h, scanHost w database connectionType broadcast n h =
        HostScan.ofHosts w connectionType broadcast (expandHost w database n h) := by
      intro h
      by_cases hplain : ∀ name, h.entry ≠ .alias name
      · exact scanHost_plain hplain n
      · obtain ⟨name, hname⟩ : ∃ name, h.entry = .alias name := by
          simpa using hplain
        exact ih h hplain name hname
    unfold scanHost expandHost
    rw [hname]
    exact HostScan.join_ofHosts fun d _ => HostScan.join_ofHosts fun h _ => hall h

lemma scanHostlist_eq (d : DisplayEntry) :
    scanHostlist w database connectionType 0 broadcast d.hosts =
      HostScan.ofHosts w connectionType broadcast (expandedHosts w database d) :=
  HostScan.join_ofHosts fun h _ => scanHost_eq maxDepth h

/-! ### What the scans do with the entry -/

/-- The loop of `IndirectChoice` finds nothing if and only if every choice of the client has
timed out. -/
lemma indirectChoiceLoop_eq_none {now choiceTimeout : Time} {choices : List Choice} :
    (indirectChoiceLoop now choiceTimeout addr connectionType choices).2 = none ↔
      ∀ c ∈ choices, c.isFor addr connectionType = true → choiceTimeout < now - c.time := by
  induction choices with
  | nil => simp [indirectChoiceLoop]
  | cons c choices ih =>
    unfold indirectChoiceLoop
    rw [List.forall_mem_cons]
    split_ifs with hexpired hfor
    · rw [ih]
      exact (and_iff_right fun _ => hexpired).symm
    · exact iff_of_false (by simp) fun h => hexpired (h.1 hfor)
    · rw [← ih]
      exact (and_iff_right fun h => absurd h hfor).symm

/-- What `IndirectChoice` returns for a client and a store of choices. -/
def registeredChoice (w : World) (choiceTimeout : Time) (choices : List Choice)
    (clientAddress : ARRAY8) (connectionType : CARD16) : Option ARRAY8 :=
  (indirectChoiceLoop w.time choiceTimeout clientAddress connectionType choices).2

/-- None of the three functions does anything for the client. -/
structure ScansIdle (w : World) (database : List DisplayEntry) (choice : Option ARRAY8)
    (clientAddress : ARRAY8) (connectionType : CARD16) : Prop where
  forEachMatching : forEachMatchingIndirectHostLoop w database choice clientAddress
    connectionType database = ⟨false, []⟩
  useChooser : useChooserLoop w choice clientAddress connectionType database = false
  forEachChooser : forEachChooserHost w database clientAddress connectionType = []

/-- What the three functions do with the entry `d` of the client. -/
structure ScansAgree (w : World) (database : List DisplayEntry) (choices : List Choice)
    (choiceTimeout : Time) (clientAddress : ARRAY8) (connectionType : CARD16)
    (choice : Option ARRAY8) (d : DisplayEntry) : Prop where
  /-- `UseChooser` returns 1 if the entry has `CHOOSER` and all choices of the client have
  timed out. -/
  useChooser : useChooserLoop w choice clientAddress connectionType database = true ↔
    d.chooser = true ∧
      ∀ c ∈ choices, c.isFor clientAddress connectionType = true → choiceTimeout < w.time - c.time
  /-- The query is then forwarded to nobody, and the local host reported. -/
  forEachMatching : useChooserLoop w choice clientAddress connectionType database = true →
    forEachMatchingIndirectHostLoop w database choice clientAddress connectionType database =
      ⟨true, []⟩
  /-- The chooser is offered the expanded host list. -/
  forEachChooser : d.chooser = true →
    forEachChooserHost w database clientAddress connectionType =
      (expandedHosts w database d).filterMap (HostEntry.offered w connectionType true) ++
        if (expandedHosts w database d).any (HostEntry.isLocal w connectionType)
          then [getLocalAddress w] else []
  /-- Without `CHOOSER` there is nothing to offer, and the query goes to the hosts. -/
  noChooser : d.chooser = false →
    forEachChooserHost w database clientAddress connectionType = [] ∧
    forEachMatchingIndirectHostLoop w database choice clientAddress connectionType database =
      ⟨(expandedHosts w database d).any (HostEntry.isLocal w connectionType),
        (expandedHosts w database d).filterMap (HostEntry.offered w connectionType false)⟩

/-- The loops, once it is known at which entry they stop. -/
lemma scansIdle {choice : Option ARRAY8}
    (hidle : ∀ d, indirectEntry w database addr connectionType = some d → d.notAllowed = true) :
    ScansIdle w database choice addr connectionType := by
  have hstop : ∀ {α : Type} (stop : α) act,
      scanDatabase w addr connectionType stop act database = stop := by
    intro α stop act
    rw [scanDatabase_eq]
    cases hentry : indirectEntry w database addr connectionType with
    | none => rfl
    | some d => exact if_pos (hidle d hentry)
  refine ⟨hstop _ _, hstop _ _, ?_⟩
  unfold forEachChooserHost forEachChooserHostLoop
  rw [hstop]
  rfl

lemma scanDatabase_of_selected {α : Type} {stop : α} {act : DisplayEntry → α}
    (hd : Selected w database addr connectionType d) (hallowed : d.notAllowed = false) :
    scanDatabase w addr connectionType stop act database = act d := by
  rw [scanDatabase_eq, selected_iff.1 hd]
  exact if_neg (by simp [hallowed])

lemma scansAgree {choices : List Choice} {choiceTimeout : Time}
    (hd : Selected w database addr connectionType d) (hallowed : d.notAllowed = false) :
    ScansAgree w database choices choiceTimeout addr connectionType
      (registeredChoice w choiceTimeout choices addr connectionType) d := by
  have huse : useChooserLoop w (registeredChoice w choiceTimeout choices addr connectionType)
      addr connectionType database = true ↔ d.chooser = true ∧
        registeredChoice w choiceTimeout choices addr connectionType = none := by
    rw [useChooserLoop, scanDatabase_of_selected hd hallowed, Bool.and_eq_true,
      Option.isNone_iff_eq_none]
  refine ⟨huse.trans (and_congr_right fun _ => indirectChoiceLoop_eq_none), fun h => ?_,
    fun hchooser => ?_, fun hchooser => ⟨?_, ?_⟩⟩
  · obtain ⟨hchooser, hnone⟩ := huse.1 h
    unfold forEachMatchingIndirectHostLoop
    rw [scanDatabase_of_selected hd hallowed, if_pos hchooser, hnone]
  · rw [forEachChooserHost, forEachChooserHostLoop, scanDatabase_of_selected hd hallowed,
      if_pos hchooser, scanHostlist_eq]
    rfl
  · rw [forEachChooserHost, forEachChooserHostLoop, scanDatabase_of_selected hd hallowed,
      if_neg (by simp [hchooser])]
    rfl
  · unfold forEachMatchingIndirectHostLoop
    rw [scanDatabase_of_selected hd hallowed, if_neg (by simp [hchooser]), scanHostlist_eq]
    rfl

/-- For every database, client and store of choices: the three scans stop at the same entry, do
nothing if there is none or it is negated, and otherwise agree on what becomes of the client. -/
theorem indirect_scans_agree (w : World) (database : List DisplayEntry) (choices : List Choice)
    (choiceTimeout : Time) (addr : ARRAY8) (connectionType : CARD16) :
    ((∀ d, ¬ Selected w database addr connectionType d) → ScansIdle w database
      (registeredChoice w choiceTimeout choices addr connectionType) addr connectionType) ∧
    ∀ d, Selected w database addr connectionType d →
      (d.notAllowed = true → ScansIdle w database
        (registeredChoice w choiceTimeout choices addr connectionType) addr connectionType) ∧
      (d.notAllowed = false → ScansAgree w database choices choiceTimeout addr connectionType
        (registeredChoice w choiceTimeout choices addr connectionType) d) := by
  refine ⟨fun hnone => scansIdle fun d hentry => ?_, fun d hd => ⟨fun hnot => ?_, scansAgree hd⟩⟩
  · exact absurd (selected_iff.2 hentry) (hnone d)
  · refine scansIdle fun e hentry => ?_
    rw [selected_iff.1 hd] at hentry
    exact Option.some.inj hentry ▸ hnot

/-! ### A chooser line -/

/-- A host that offers its own address, another one, and a broadcast. -/
def chooserLine : DisplayEntry where
  entry := .pattern wildcardString
  notAllowed := false
  notBroadcast := false
  chooser := true
  hosts := [⟨.address inaddrLoopback, 1⟩, ⟨.broadcast, 1⟩, ⟨.address [10, 0, 0, 3], 1⟩]

/-- A client without a choice is offered all of it. -/
theorem indirect_scans_agree_chooser :
    ScansAgree World.silent [chooserLine] [] 15 [10, 0, 0, 2] familyInternet none chooserLine ∧
    useChooserLoop World.silent none [10, 0, 0, 2] familyInternet [chooserLine] = true ∧
    forEachChooserHost World.silent [chooserLine] [10, 0, 0, 2] familyInternet =
      [bytesOf broadcastString, [10, 0, 0, 3], inaddrLoopback] := by
  have hselected : Selected World.silent [chooserLine] [10, 0, 0, 2] familyInternet chooserLine :=
    selected_iff.2 (by decide +kernel)
  exact ⟨((indirect_scans_agree World.silent [chooserLine] [] 15 [10, 0, 0, 2] familyInternet).2
    chooserLine hselected).2 rfl, by decide +kernel, by decide +kernel⟩

end Xdm
