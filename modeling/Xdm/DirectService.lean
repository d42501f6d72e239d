/-
# Who gets direct service

The access file grants direct service with a line that has nothing behind its pattern.
`acceptableDisplayAddress` looks for an entry without hosts instead, and the two differ for
a line all of whose further words are dropped while it is read.
-/
import Xdm.Access.Words
import Xdm.Refuse

namespace Xdm

open Prog

variable {w w₀ : World} {cfg : Config} {addr : ARRAY8} {connectionType : CARD16}
variable {resolver : Str → List SockAddr} {line : Str} {d : DisplayEntry}

/-! ### The entry of a line -/

@[simp] lemma addHost_notAllowed (h : HostEntry) (d : DisplayEntry) :
    (d.addHost h).notAllowed = d.notAllowed := by
  unfold DisplayEntry.addHost
  split <;> try rfl
  split <;> rfl

@[simp] lemma entryWith_notAllowed (entry : DisplayOrAlias) (notAllowed : Bool)
    (ws : List Str) : (entryWith resolver entry notAllowed ws).notAllowed = notAllowed := by
  unfold entryWith
  induction ws.filterMap (hostEntryOf resolver) with
  | nil => rfl
  | cons h hs ih => rw [List.foldr_cons, addHost_notAllowed, ih]

/-- A word behind the first one of a line leaves no trace in the hosts of the entry, and is
not `NOBROADCAST`: it is `CHOOSER`, a star, or a name that does not resolve. -/
def isDropped (resolver : Str → List SockAddr) (word : Str) : Bool :=
  match hostEntryOf resolver word with
  | none => true
  | some h => h.entry = .chooser ∨ h.entry = .anyAddr

lemma hostEntryOf_noBroadcast {word : Str} {h : HostEntry} (hw : hostEntryOf resolver word = some h)
    (hh : h.entry = .noBroadcast) : word = noBroadcastString := by
  unfold hostEntryOf at hw
  split_ifs at hw with _ _ _ hword
  all_goals first
    | exact hword
    | (cases hw; simp at hh)
    | skip
  obtain ⟨a, -, rfl⟩ := Option.map_eq_some_iff.1 hw
  simp at hh

lemma isDropped_noBroadcast : isDropped resolver noBroadcastString = false := rfl

/-- A line without hosts whose words are all kept has nothing but `NOBROADCAST`. -/
lemma noBroadcast_of_hosts {entry : DisplayOrAlias} {notAllowed : Bool} {ws : List Str}
    (hhosts : (entryWith resolver entry notAllowed ws).hosts = [])
    (hkept : ∀ word ∈ ws, isDropped resolver word = false) :
    ∀ word ∈ ws, word = noBroadcastString := by
  induction ws with
  | nil => simp
  | cons word ws ih =>
    have hword := hkept word (by simp)
    unfold isDropped at hword
    cases hw : hostEntryOf resolver word with
    | none => simp [hw] at hword
    | some h =>
      simp only [hw, decide_eq_false_iff_not, not_or] at hword
      simp only [entryWith, List.filterMap_cons, hw, List.foldr_cons] at hhosts
      by_cases hh : h.entry = .noBroadcast
      · have hrest : (entryWith resolver entry notAllowed ws).hosts = [] := by
          simpa [entryWith, DisplayEntry.addHost, hh] using hhosts
        intro x hx
        rcases List.mem_cons.1 hx with rfl | hx
        · exact hostEntryOf_noBroadcast hw hh
        · exact ih hrest (fun y hy => hkept y (by simp [hy])) x hx
      · unfold DisplayEntry.addHost at hhosts
        split at hhosts <;> simp_all

/-- Reading the line drops words: its first word is no display that can be resolved, or one
of the others is dropped or does not fit into the buffer. -/
def dropsWords (resolver : Str → List SockAddr) (line : Str) : Bool :=
  match wordsOf line with
  | [] => false
  | word :: ws => (displayOf resolver word).isNone ||
      ws.any fun word => decide (wordMax ≤ word.length) || isDropped resolver word

/-- The line grants direct service to the client, as the access file documents it: its
first word is about the client and not negated, and nothing but `NOBROADCAST` follows. -/
def grantsPlainly (w₀ w : World) (addr : ARRAY8) (connectionType : CARD16) (line : Str) : Bool :=
  match wordsOf line with
  | [] => false
  | word :: ws =>
    (displayOf w₀.getaddrinfo word).any (fun p => !p.2 &&
      matchesClient w addr connectionType (entryWith w₀.getaddrinfo p.1 p.2 ws)) &&
    ws.all (· = noBroadcastString)

lemma lineWords_map (ws : List Str) : lineWords (ws.map .word) = (ws, []) := by
  induction ws with
  | nil => rfl
  | cons w ws ih => simp [lineWords, ih]

/-- An entry comes from a line that has words, and if none of them is dropped it is the
entry for the first one. -/
lemma exists_entryWith (hline : '\n' ∉ line)
    (h : d ∈ entriesFrom resolver id (tokens line) []) : ∃ word ws, wordsOf line = word :: ws ∧
      (dropsWords resolver line = false → ∃ entry notAllowed,
        displayOf resolver word = some (entry, notAllowed) ∧
        d = entryWith resolver entry notAllowed ws) := by
  have htokens : tokens line = (wordsOf line).flatMap chop :=
    lex_eq_chop .plain [] (by simp [wordMax]) hline
  have hshort : (∀ word ∈ wordsOf line, word.length < wordMax) →
      tokens line = (wordsOf line).map .word := fun hshort =>
    htokens.trans (flatMap_chop_short (wordsLoop_ne_nil .plain [] hline) hshort)
  cases hwords : wordsOf line with
  | nil => simp [hshort (by simp [hwords]), hwords, entriesFrom] at h
  | cons word ws =>
    refine ⟨word, ws, rfl, fun hdrops => ?_⟩
    simp only [dropsWords, hwords, Bool.or_eq_false_iff, List.any_eq_false,
      decide_eq_true_eq, Bool.not_eq_true, Bool.or_eq_true, not_or] at hdrops
    obtain ⟨hdisplay, hws⟩ := hdrops
    have hword : word.length < wordMax := by
      by_contra hlong
      rw [htokens, hwords, List.flatMap_cons, chop, if_neg hlong, List.cons_append,
        entriesFrom] at h
      cases h
    rw [hshort (by simpa [hwords] using ⟨hword, fun x hx => Nat.not_le.1 (hws x hx).1⟩), hwords,
      List.map_cons, entriesFrom] at h
    cases hd : displayOf resolver word with
    | none => simp [hd] at hdisplay
    | some p =>
      refine ⟨p.1, p.2, rfl, ?_⟩
      simpa [hd, lineWords_map, entriesFrom] using h

/-! ### Direct service -/

/-- The first line with an entry for the client that has no hosts, and the entry. -/
def directLine (w₀ w : World) (addr : ARRAY8) (connectionType : CARD16) (text : Str) :
    Option (Str × DisplayEntry) :=
  (databaseOf w₀.getaddrinfo (linesOf text)).find? fun p =>
    p.2.hosts = [] ∧ matchesClient w addr connectionType p.2

/-- An entry without hosts admits packets of this type. -/
def DisplayEntry.admits (type : XdmOpCode) (d : DisplayEntry) : Bool :=
  !d.notAllowed && (if type = .broadcastQuery then !d.notBroadcast else true)

/-- The line that grants direct service to the client, when the file has been read in the
world `w₀` and a packet of this type is dealt with in the world `w`. -/
def grantingLine (w₀ w : World) (addr : ARRAY8) (connectionType : CARD16) (type : XdmOpCode)
    (text : Str) : Option Str :=
  ((directLine w₀ w addr connectionType text).filter fun p => p.2.admits type).map Prod.fst

/-- Access is granted by the first line for the client whose entry has no hosts. -/
lemma acceptableDisplayAddress_iff (w : World) (addr : ARRAY8) (connectionType : CARD16)
    (haccess : cfg.accessFile ≠ [])
    (hlines : Uncontinued (w₀.accessText.getD [])) {type : XdmOpCode}
    (htype : type ≠ .indirectQuery) :
    acceptableDisplayAddress w cfg (scanAccessDatabase w₀ cfg) addr connectionType type = true ↔
      ∃ line, grantingLine w₀ w addr connectionType type (w₀.accessText.getD []) = some line := by
  have hdirect : directEntry w (scanAccessDatabase w₀ cfg) addr connectionType =
      (directLine w₀ w addr connectionType (w₀.accessText.getD [])).map Prod.snd := by
    rw [scanAccessDatabase_eq haccess hlines, directEntry, List.find?_map]
    rfl
  unfold acceptableDisplayAddress grantingLine
  rw [if_neg haccess, if_neg htype, hdirect]
  cases directLine w₀ w addr connectionType (w₀.accessText.getD []) with
  | none => simp
  | some p => simp [DisplayEntry.admits, Option.filter]

/-- A granting line grants plainly if and only if no word of it is dropped. -/
lemma grantsPlainly_iff {type : XdmOpCode} {text : Str}
    (h : grantingLine w₀ w addr connectionType type text = some line) :
    line ∈ linesOf text ∧ (grantsPlainly w₀ w addr connectionType line = true ↔
      dropsWords w₀.getaddrinfo line = false) := by
  obtain ⟨⟨line', d⟩, hfilter, rfl⟩ := Option.map_eq_some_iff.1 h
  obtain ⟨hfind, hadmits⟩ := Option.filter_eq_some_iff.1 hfilter
  have hd := List.find?_some hfind
  simp only [decide_eq_true_eq] at hd
  obtain ⟨hhosts, hmatches⟩ := hd
  obtain ⟨hmem, hentry⟩ := mem_databaseOf (List.mem_of_find?_eq_some hfind)
  obtain ⟨word, ws, hwords, hkept⟩ := exists_entryWith (newline_notMem hmem) hentry
  refine ⟨hmem, fun hplain => ?_, fun hdrops => ?_⟩
  · -- a plain line has no word that could be dropped
    simp only [grantsPlainly, hwords, Bool.and_eq_true, List.all_eq_true,
      decide_eq_true_eq] at hplain
    obtain ⟨p, hp, -⟩ := (Option.any_eq_true _ _).1 hplain.1
    simp only [dropsWords, hwords, hp, Option.isNone_some, Bool.false_or, List.any_eq_false]
    intro x hx
    have hlen : ¬ wordMax ≤ noBroadcastString.length := by decide
    rw [hplain.2 x hx]
    simp [hlen, isDropped_noBroadcast]
  · obtain ⟨entry, notAllowed, hdisplay, rfl⟩ := hkept hdrops
    simp only [dropsWords, hwords, hdisplay, Option.isNone_some, Bool.false_or,
      List.any_eq_false, Bool.not_eq_true, Bool.or_eq_false_iff] at hdrops
    have hall := noBroadcast_of_hosts hhosts fun x hx => (hdrops x hx).2
    simp only [DisplayEntry.admits, entryWith_notAllowed, Bool.and_eq_true,
      Bool.not_eq_true'] at hadmits
    obtain rfl : notAllowed = false := hadmits.1
    simp only [grantsPlainly, hwords, hdisplay, Option.any_some, hmatches,
      Bool.and_eq_true, List.all_eq_true, decide_eq_true_eq]
    exact ⟨by simp, hall⟩

/-- Outside `INDIRECT_QUERY` a client is acceptable if and only if a line grants it direct
service; and this line is in the file and has no right hand side, if and only if reading it
drops no words. -/
theorem direct_service_iff (w₀ w : World) (cfg : Config) (addr : ARRAY8)
    (connectionType : CARD16) (haccess : cfg.accessFile ≠ [])
    (hlines : Uncontinued (w₀.accessText.getD [])) {type : XdmOpCode}
    (htype : type ≠ .indirectQuery) :
    (acceptableDisplayAddress w cfg (scanAccessDatabase w₀ cfg) addr connectionType type = true ↔
      ∃ line, grantingLine w₀ w addr connectionType type (w₀.accessText.getD []) = some line) ∧
    ((acceptableDisplayAddress w cfg (scanAccessDatabase w₀ cfg) addr connectionType type = true →
        ∃ line ∈ linesOf (w₀.accessText.getD []),
          grantingLine w₀ w addr connectionType type (w₀.accessText.getD []) = some line ∧
          grantsPlainly w₀ w addr connectionType line = true) ↔
      ∀ line, grantingLine w₀ w addr connectionType type (w₀.accessText.getD []) = some line →
        dropsWords w₀.getaddrinfo line = false) := by
  have haccept := acceptableDisplayAddress_iff w addr connectionType haccess hlines htype
  refine ⟨haccept, fun hplain line hline => ?_, fun hdrops hacc => ?_⟩
  · obtain ⟨line', -, hline', hgrants⟩ := hplain (haccept.2 ⟨line, hline⟩)
    obtain rfl := Option.some.inj (hline'.symm.trans hline)
    exact (grantsPlainly_iff hline).2.1 hgrants
  · obtain ⟨line, hline⟩ := haccept.1 hacc
    obtain ⟨hmem, hiff⟩ := grantsPlainly_iff hline
    exact ⟨line, hmem, hline, hiff.2 (hdrops line hline)⟩

/-- A world in which the access file has this text. -/
def World.withAccess (text : Str) : World := { World.silent with accessText := some text }

/-- A line for the chooser grants direct service. -/
theorem chooser_line_grants :
    acceptableDisplayAddress (World.lan 20 7) Config.plain
      (scanAccessDatabase (World.withAccess "* CHOOSER\n".toList) Config.plain)
      [10, 0, 0, 2] familyInternet .query = true ∧
    ∀ line ∈ linesOf "* CHOOSER\n".toList,
      grantsPlainly (World.withAccess "* CHOOSER\n".toList) (World.lan 20 7) [10, 0, 0, 2]
        familyInternet line = false := by
  decide +kernel

/-- A line with the pattern alone grants it as documented. -/
theorem plain_line_grants : ∃ line ∈ linesOf "* NOBROADCAST\n".toList,
    grantsPlainly (World.withAccess "* NOBROADCAST\n".toList) (World.lan 20 7) [10, 0, 0, 2]
      familyInternet line = true := by
  have huncontinued : Uncontinued "* NOBROADCAST\n".toList := by
    unfold Uncontinued Continued
    decide +kernel
  have hdrops : ∀ line ∈ linesOf "* NOBROADCAST\n".toList,
      dropsWords World.silent.getaddrinfo line = false := by
    decide +kernel
  have hservice := direct_service_iff (World.withAccess "* NOBROADCAST\n".toList)
    (World.lan 20 7) Config.plain [10, 0, 0, 2] familyInternet (by decide) huncontinued
    (show XdmOpCode.query ≠ .indirectQuery by decide)
  obtain ⟨line, hmem, -, hgrants⟩ := hservice.2.2
    (fun line hline => hdrops line (grantsPlainly_iff hline).1) (by decide +kernel)
  exact ⟨line, hmem, hgrants⟩

/-! ### `WILLING` and `REQUEST` -/

/-- What `all_query_respond` sends to a client. -/
def queryAnswer (w : World) (s : State) (sender : Netaddr) (names : List ARRAY8)
    (addr : ARRAY8) (connectionType : CARD16) (type : XdmOpCode) : List Event :=
  let (ret, status) := willing w s.config s.database addr connectionType type
  if ret then
    [.send sender.sa (.willing (chooseAuthentication s.config names) (bytesOf w.localHostname)
      status)]
  else if type = .query then [.send sender.sa (.unwilling (bytesOf w.localHostname) status)]
  else []

/-- The message is a `WILLING`. -/
def Message.isWilling : Message → Bool
  | .willing .. => true
  | _ => false

/-- `all_query_respond` sends its answer, notes or forgets an indirect client, and leaves
the database as it is. -/
lemma allQueryRespond_eq (w : World) (s : State) {sender : Netaddr} (names : List ARRAY8)
    (type : XdmOpCode) (hsender : convertAddr sender.sa = (some connectionType, addr)) :
    ∃ s', allQueryRespond w sender names type s = some ((), s') ∧ s'.config = s.config ∧
      s'.database = s.database ∧
      s'.out = s.out ++ queryAnswer w s sender names addr connectionType type := by
  have hanswer : ∀ t : State, t.config = s.config → t.database = s.database → t.out = s.out →
      ∃ s', answerQuery w sender names addr connectionType type t = some ((), s') ∧
        s'.config = s.config ∧ s'.database = s.database ∧
        s'.out = s.out ++ queryAnswer w s sender names addr connectionType type := by
    intro t hc hd ho
    unfold answerQuery
    rw [Prog.get_bind]
    simp only [hc, hd, queryAnswer]
    split_ifs
    · exact ⟨_, rfl, hc, hd, by simp [ho]⟩
    · exact ⟨_, rfl, hc, hd, by simp [ho]⟩
    · exact ⟨_, rfl, hc, hd, by simp [ho]⟩
  unfold allQueryRespond
  rw [hsender]
  by_cases htype : type = .indirectQuery
  · simp only [htype, if_true] at hanswer ⊢
    unfold rememberIndirectClient
    rw [Prog.modify_bind]
    refine hanswer _ ?_ ?_ ?_ <;> split <;> rfl
  · simp only [htype, if_false]
    unfold forgetIndirectClient
    rw [Prog.modify_bind]
    exact hanswer _ rfl rfl rfl

lemma willing_fst (w : World) (cfg : Config) (database : List DisplayEntry) (addr : ARRAY8)
    (connectionType : CARD16) (type : XdmOpCode) :
    (willing w cfg database addr connectionType type).1 =
      acceptableDisplayAddress w cfg database addr connectionType type := by
  unfold willing
  cases acceptableDisplayAddress w cfg database addr connectionType type with
  | false => rfl
  | true =>
    simp only [if_true]
    split
    · rfl
    · split <;> rfl

/-- A client that a query other than `INDIRECT_QUERY` may be willing for is admitted. -/
lemma acceptable_request {database : List DisplayEntry} {type : XdmOpCode}
    (h : acceptableDisplayAddress w cfg database addr connectionType type = true)
    (htype : type ≠ .indirectQuery) :
    acceptableDisplayAddress w cfg database addr connectionType .request = true := by
  unfold acceptableDisplayAddress at h ⊢
  by_cases haccess : cfg.accessFile = []
  · rw [if_pos haccess]
  · rw [if_neg haccess, if_neg (by decide)]
    rw [if_neg haccess, if_neg htype] at h
    cases hd : directEntry w database addr connectionType with
    | none => simp [hd] at h
    | some d =>
      simp only [hd, Bool.and_eq_true] at h
      simpa using h.1

lemma acceptable_request_iff {database : List DisplayEntry} :
    acceptableDisplayAddress w cfg database addr connectionType .request = true ↔
      cfg.accessFile = [] ∨ ∃ d, directEntry w database addr connectionType = some d ∧
        d.notAllowed = false := by
  unfold acceptableDisplayAddress
  by_cases haccess : cfg.accessFile = []
  · simp [haccess]
  · rw [if_neg haccess, if_neg (by decide)]
    cases directEntry w database addr connectionType <;> simp [haccess]

/-- Whoever `all_query_respond` is willing to manage is not declined as unauthorized when it
sends a `REQUEST`, if and only if the query was not an `INDIRECT_QUERY`, or there is no access
file, or the first entry for the client without hosts is not negated. -/
theorem willing_honoured_iff (w : World) (s : State) (sender : Netaddr) (names : List ARRAY8)
    (type : XdmOpCode) (hsender : convertAddr sender.sa = (some connectionType, addr)) :
    ∃ s' es, allQueryRespond w sender names type s = some ((), s') ∧ s'.out = s.out ++ es ∧
      (((∃ m, Event.send sender.sa m ∈ es ∧ m.isWilling = true) →
          accept w s'.config s'.database addr connectionType = none) ↔
        (type = .indirectQuery → s.config.accessFile = [] ∨
          ∃ d, directEntry w s.database addr connectionType = some d ∧ d.notAllowed = false)) := by
  obtain ⟨s', hrun, hc, hd, hout⟩ := allQueryRespond_eq w s names type hsender
  refine ⟨s', _, hrun, hout, ?_⟩
  have hwilling : (∃ m, Event.send sender.sa m ∈
      queryAnswer w s sender names addr connectionType type ∧ m.isWilling = true) ↔
      acceptableDisplayAddress w s.config s.database addr connectionType type = true := by
    rw [← willing_fst]
    unfold queryAnswer
    obtain ⟨ret, status⟩ := willing w s.config s.database addr connectionType type
    cases ret with
    | true => simp [Message.isWilling]
    | false => by_cases hquery : type = .query <;> simp [hquery, Message.isWilling]
  rw [hwilling, hc, hd, accept_eq_none]
  by_cases htype : type = .indirectQuery
  · subst htype
    have hacc : acceptableDisplayAddress w s.config s.database addr connectionType
        .indirectQuery = true := by
      simp [acceptableDisplayAddress]
    rw [← acceptable_request_iff]
    simp [hacc]
  · exact iff_of_true (fun h => acceptable_request h htype) fun h => absurd h htype

/-- In the step a `WILLING` has been sent to the client. -/
def sendsWilling (client : Netaddr) (x : Step State Input) : Bool :=
  x.post.out.any fun
    | .send dest m => dest = client.sa && m.isWilling
    | _ => false

/-- In the step the client has been declined as unauthorized. -/
def declinesAccess (client : Netaddr) (x : Step State Input) : Bool :=
  x.post.out.any fun
    | .send dest (.decline status _ _) => dest = client.sa && status = noAccessACL
    | _ => false

/-- A host that offers the chooser to everybody, and a client that sends an `INDIRECT_QUERY`
and then a `REQUEST`. -/
def chooserVisit : List Input :=
  [.startUp (World.withAccess "* CHOOSER BROADCAST\n".toList),
    .datagram (World.lan 20 7) 3 Netaddr.guest [0, 1, 0, 3, 0, 1, 0],
    .request (World.lan 20 7) Netaddr.guest (Request.plain 0 [])]

/-- The host is willing to manage the client, and declines it. -/
theorem willing_declined : ∃ h s, DaemonRun Config.plain 0 h s ∧
    h.map Step.input = chooserVisit ∧ ∃ x ∈ h, sendsWilling Netaddr.guest x = true ∧
      ∃ y ∈ h, y.pre.database = x.post.database ∧ declinesAccess Netaddr.guest y = true :=
  exists_run_on _ (by decide +kernel)

/-- Without an access file the client of an `INDIRECT_QUERY` is admitted. -/
theorem willing_honoured_open : ∃ s' es,
    allQueryRespond (World.lan 20 7) Netaddr.guest [] .indirectQuery
      (State.initial Config.open 0) = some ((), s') ∧ s'.out = [] ++ es ∧
    ((∃ m, Event.send Netaddr.guest.sa m ∈ es ∧ m.isWilling = true) →
      accept (World.lan 20 7) s'.config s'.database [10, 0, 0, 2] familyInternet = none) := by
  obtain ⟨s', es, hrun, hout, hiff⟩ := willing_honoured_iff (World.lan 20 7)
    (State.initial Config.open 0) Netaddr.guest [] .indirectQuery
    (show convertAddr Netaddr.guest.sa = (some familyInternet, [10, 0, 0, 2]) from rfl)
  exact ⟨s', es, hrun, hout, hiff.2 fun _ => Or.inl rfl⟩

end Xdm
