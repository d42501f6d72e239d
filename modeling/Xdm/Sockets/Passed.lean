/-
# What the `LISTEN` lines pass on

`ForEachListenAddr` goes through the hosts of the lines (`forEachListenAddr_eq`) and passes on the
member `hostAddress` of each, without a look at its type.  `ReadDisplayEntry` keeps macros and
`BROADCAST` on these lines, so the words of the file decide whether there is an address in it
(`forEachListenAddr_addresses_iff`).
-/
import Xdm.Access.Grammar
import Xdm.Sockets.Sweep

namespace Xdm

variable {env : SocketEnv} {γ : Type}
variable {listenfunction mcastfunction : ListenAddr → γ → Prog Sockets γ}
variable {database : List DisplayEntry} {d : DisplayEntry} {closure : γ}
variable {resolver : Str → List SockAddr} {word : Str} {ws : List Str} {m : Option (Octets 16)}

/-! ### The calls -/

/-- The calls of the two functions for the hosts of these lines, in their order. -/
def passLines (env : SocketEnv) (listenfunction mcastfunction : ListenAddr → γ → Prog Sockets γ) :
    List (HostOrAlias × List HostOrAlias) → γ → Prog Sockets γ
  | [], closure => pure closure
  | line :: lines, closure => do
    let closure ← listenfunction (line.1.hostAddress env) closure
    let closure ← line.2.foldlM (fun closure h => mcastfunction (h.hostAddress env) closure) closure
    passLines env listenfunction mcastfunction lines closure

lemma eachGroup_eq (hosts : List HostEntry) :
    forEachListenAddr.eachGroup env mcastfunction hosts closure =
      (hosts.map HostEntry.entry).foldlM
        (fun closure h => mcastfunction (h.hostAddress env) closure) closure := by
  induction hosts generalizing closure with
  | nil => rfl
  | cons h hosts ih =>
    rw [forEachListenAddr.eachGroup, List.map_cons, List.foldlM_cons]
    exact bind_congr fun closure => ih

lemma eachLine_eq :
    forEachListenAddr.eachLine env listenfunction mcastfunction database closure =
      passLines env listenfunction mcastfunction (database.filterMap DisplayEntry.listenLine)
        closure := by
  induction database generalizing closure with
  | nil => rfl
  | cons d database ih =>
    rw [forEachListenAddr.eachLine]
    by_cases hlisten : d.entry = .listen
    · rw [if_pos hlisten]
      cases hhosts : d.hosts with
      | nil =>
        have hline : d.listenLine = none := by rw [DisplayEntry.listenLine, if_pos hlisten, hhosts]
        rw [List.filterMap_cons_none hline, forEachListenAddr.eachHost, pure_bind]
        exact ih
      | cons h hosts =>
        have hline : d.listenLine = some (h.entry, hosts.map HostEntry.entry) := by
          rw [DisplayEntry.listenLine, if_pos hlisten, hhosts]
        rw [List.filterMap_cons_some hline, forEachListenAddr.eachHost, passLines, bind_assoc]
        refine bind_congr fun closure => ?_
        rw [eachGroup_eq]
        exact bind_congr fun closure => ih
    · have hline : d.listenLine = none := by rw [DisplayEntry.listenLine, if_neg hlisten]
      rw [if_neg hlisten, List.filterMap_cons_none hline, pure_bind]
      exact ih

/-- `ForEachListenAddr` makes the calls for the lines, whatever the functions are. -/
lemma forEachListenAddr_eq :
    forEachListenAddr env listenfunction mcastfunction database closure =
      passLines env listenfunction mcastfunction
        (listenLines env.defaultMcastAddress database) closure := by
  rw [forEachListenAddr, eachLine_eq, listenLines]
  by_cases hany : (database.any fun d => d.entry = .listen) = true
  · simp only [if_pos hany, bind_pure]
  · have hempty : database.filterMap DisplayEntry.listenLine = [] := by
      refine List.filterMap_eq_nil_iff.2 fun d hd => if_neg fun hlisten => hany ?_
      exact List.any_eq_true.2 ⟨d, hd, by simpa using hlisten⟩
    simp only [if_neg hany, hempty, passLines, pure_bind]
    refine bind_congr fun closure => ?_
    cases env.defaultMcastAddress with
    | none => rfl
    | some addr =>
      show _ = (mcastfunction (.bytes addr.1) closure >>= pure) >>= pure
      rw [bind_pure, bind_pure]

/-! ### The words -/

/-- The host has its type from an address or a star: `hostAddress` is the member of the union
that has been set. -/
def HostOrAlias.hasAddress : HostOrAlias → Bool
  | .address _ | .anyAddr => true
  | _ => false

/-- The words of each `LISTEN` line. -/
def listenWords (resolver : Str → List SockAddr) : List Token → List (List Str)
  | [] => []
  | .word w :: ks =>
    if displayOf resolver w |>.isNone then listenWords resolver ks
    else
      (if w = listenString then [(lineWords ks).1] else []) ++
        listenWords resolver (lineWords ks).2
  | .endOfLine :: ks => listenWords resolver ks
  | .overlong :: _ => []
  termination_by ks => ks.length
  decreasing_by
    all_goals simp_wf
    all_goals have := length_lineWords ks
    all_goals omega

/-- The word is a macro, or `BROADCAST`. -/
def namesNoAddress (word : Str) : Bool := word.head? = some '%' ∨ word = broadcastString

lemma displayOf_listen {p : DisplayOrAlias × Bool} (hp : displayOf resolver word = some p) :
    p.1 = .listen ↔ word = listenString := by
  unfold displayOf at hp
  split_ifs at hp with halias hlisten
  · obtain rfl := Option.some.inj hp
    refine iff_of_false nofun ?_
    rintro rfl
    exact absurd halias (by decide)
  · obtain rfl := Option.some.inj hp
    exact iff_of_true rfl hlisten
  · refine iff_of_false (fun heq => ?_) hlisten
    dsimp only at hp
    split_ifs at hp
    -- the same for a name that is negated and for one that is not
    iterate 2
      · obtain rfl := Option.some.inj hp
        cases heq
      · obtain ⟨addr, -, rfl⟩ := Option.map_eq_some_iff.1 hp
        cases heq

/-- What a word adds to a `LISTEN` line has an address, or nothing is added. -/
lemma hasAddress_hostEntryOf (resolver : Str → List SockAddr) :
    (∀ h, hostEntryOf resolver word = some h → h.isKept .listen = true →
      h.entry.hasAddress = true) ↔ namesNoAddress word = false := by
  unfold hostEntryOf namesNoAddress
  split_ifs with halias hchooser hbroadcast hno hstar
  · simp [halias, HostEntry.isKept, HostOrAlias.hasAddress]
  · subst hchooser
    simp [HostEntry.isKept]
    decide
  · simp [hbroadcast, HostEntry.isKept, HostOrAlias.hasAddress]
  · subst hno
    simp [HostEntry.isKept]
    decide
  · subst hstar
    simp [HostOrAlias.hasAddress]
    decide
  · refine iff_of_true (fun h hh _ => ?_) (by simpa using ⟨halias, hbroadcast⟩)
    obtain ⟨addr, -, rfl⟩ := Option.map_eq_some_iff.1 hh
    rfl

lemma hasAddress_entryOf {notAllowed : Bool} :
    (∀ h ∈ (entryOf resolver .listen notAllowed ws).hosts, h.entry.hasAddress = true) ↔
      ∀ word ∈ ws, namesNoAddress word = false := by
  simp only [← hasAddress_hostEntryOf resolver, entryOf, List.mem_filter,
    List.mem_filterMap]
  exact ⟨fun h word hword host hhost hkept => h host ⟨⟨word, hword, hhost⟩, hkept⟩,
    fun h host hhost => hhost.1.elim fun word hword => h word hword.1 host hword.2 hhost.2⟩

lemma hasAddress_entriesFrom (ks : List Token) :
    (∀ d ∈ entriesFrom resolver id ks [], d.entry = .listen →
      ∀ h ∈ d.hosts, h.entry.hasAddress = true) ↔
      ∀ ws ∈ listenWords resolver ks, ∀ word ∈ ws, namesNoAddress word = false := by
  fun_induction listenWords resolver ks with
  | case1 => simp [entriesFrom]
  | case2 w ks hw ih => simpa [entriesFrom, Option.isNone_iff_eq_none.1 hw] using ih
  | case3 w ks hw ih =>
    obtain ⟨p, hw⟩ := Option.ne_none_iff_exists'.1 (mt Option.isNone_iff_eq_none.2 hw)
    rw [entriesFrom, hw]
    dsimp only [id]
    rw [List.forall_mem_cons, ih, entryWith_eq, List.forall_mem_append]
    refine and_congr_left fun _ => ?_
    by_cases hlisten : w = listenString
    · rw [if_pos hlisten, List.forall_mem_singleton, (displayOf_listen hw).2 hlisten,
        ← hasAddress_entryOf]
      exact ⟨fun h => h rfl, fun h _ => h⟩
    · rw [if_neg hlisten]
      refine iff_of_true (fun heq => absurd ((displayOf_listen hw).1 heq) hlisten) ?_
      exact fun ws hws => absurd hws List.not_mem_nil
  | case4 ks ih => simpa [entriesFrom] using ih
  | case5 => simp [entriesFrom]

/-! ### Addresses only -/

/-- Only addresses are passed on for these lines. -/
def AddressesOnly (lines : List (HostOrAlias × List HostOrAlias)) : Prop :=
  ∀ line ∈ lines, ∀ h ∈ line.1 :: line.2, h.hasAddress = true

lemma addressesOnly_listenLines : AddressesOnly (listenLines m database) ↔
    ∀ d ∈ database, d.entry = .listen → ∀ h ∈ d.hosts, h.entry.hasAddress = true := by
  -- the line of an entry has its hosts
  have hline : ∀ d : DisplayEntry, (∀ line ∈ d.listenLine, ∀ h ∈ line.1 :: line.2,
      h.hasAddress = true) ↔ (d.entry = .listen → ∀ h ∈ d.hosts, h.entry.hasAddress = true) := by
    intro d
    rw [DisplayEntry.listenLine]
    split_ifs with hlisten
    · cases hhosts : d.hosts with
      | nil => simp
      | cons host hosts => simp [hlisten]
    · simp [hlisten]
  rw [AddressesOnly, listenLines]
  split_ifs with hany
  · constructor
    · intro h d hd
      exact (hline d).1 fun line hmem => h line (List.mem_filterMap.2 ⟨d, hd, hmem⟩)
    · intro h line hmem
      obtain ⟨d, hd, hmem⟩ := List.mem_filterMap.1 hmem
      exact (hline d).2 (h d hd) line hmem
  · refine iff_of_true ?_ fun d hd hlisten => absurd ?_ hany
    · cases m <;> simp [HostOrAlias.hasAddress]
    · exact List.any_eq_true.2 ⟨d, hd, by simpa using hlisten⟩

/-- For every text and every resolver: the calls are those for the lines, and they pass on
addresses only if and only if no `LISTEN` line has a macro or the word `BROADCAST`. -/
theorem forEachListenAddr_addresses_iff (env : SocketEnv) (resolver : Str → List SockAddr)
    (text : Str) :
    let database := readAccessDatabase resolver (text.length + 1) ⟨text, false⟩
    let lines := listenLines env.defaultMcastAddress database
    (∀ (γ : Type) (listenfunction mcastfunction : ListenAddr → γ → Prog Sockets γ) (closure : γ),
      forEachListenAddr env listenfunction mcastfunction database closure =
        passLines env listenfunction mcastfunction lines closure) ∧
    (AddressesOnly lines ↔
      ∀ ws ∈ listenWords resolver (tokens text), ∀ word ∈ ws, namesNoAddress word = false) := by
  intro database lines
  refine ⟨fun γ listenfunction mcastfunction closure => forEachListenAddr_eq, ?_⟩
  have hbefore : Reader.Before false ⟨text, false⟩ (tokens text) := ⟨rfl, by simp⟩
  have hread : database = entriesFrom resolver id (tokens text) [] :=
    readAccessDatabase_read _ hbefore (Nat.lt_succ_of_le (length_tokens text))
  rw [addressesOnly_listenLines, hread]
  exact hasAddress_entriesFrom _

/-- The name of a macro is passed on as if it were an address. -/
theorem forEachListenAddr_alias :
    ¬ AddressesOnly (listenLines none
      (readAccessDatabase (fun _ => []) 17 ⟨"LISTEN * %GROUP\n".toList, false⟩)) := by
  have hread : readAccessDatabase (fun _ => []) 17 ⟨"LISTEN * %GROUP\n".toList, false⟩ =
      [⟨.listen, false, false, false, [⟨.anyAddr, 1⟩, ⟨.alias "%GROUP".toList, 1⟩]⟩] := by
    decide +kernel
  rw [hread]
  intro h
  have hmacro := h (.anyAddr, [.alias "%GROUP".toList]) (List.mem_singleton_self _)
    (.alias "%GROUP".toList) (List.mem_cons_of_mem _ (List.mem_singleton_self _))
  cases hmacro

end Xdm
