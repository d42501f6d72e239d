/-
# One entry for each line of the access file

A line whose first word is no display and cannot be resolved has no entry, and neither has a
blank line; every other line has one, with the hosts that its further words stand for.  So the
manual has it.  `ReadDisplayEntry` goes on with the next word when the first one cannot be
resolved, and `ReadWord` gives up on a word that does not fit into its buffer, in the middle
of the line; `access_grammar_iff` says for which files the two agree.
-/
import Mathlib.Data.List.TakeWhile
import Xdm.Access.Words

namespace Xdm

variable {resolver : Str → List SockAddr} {line : Str} {word : Str} {ws : List Str}

/-! ### What a line stands for -/

def isBlank (c : Char) : Bool := c = ' ' ∨ c = '\t'

/-- The words of a line without backslashes. -/
def plainWords (line : Str) : List Str :=
  ((line.takeWhile fun c => c ≠ '#').splitOnP isBlank).filter fun word => word ≠ []

/-- A host entry that is kept: `CHOOSER` and `NOBROADCAST` are flags, and a star is for `LISTEN`
lines. -/
def HostEntry.isKept (entry : DisplayOrAlias) (h : HostEntry) : Bool :=
  match h.entry with
  | .chooser | .noBroadcast => false
  | .anyAddr => entry = .listen
  | _ => true

/-- The entry for a display with these words behind it on its line. -/
def entryOf (resolver : Str → List SockAddr) (entry : DisplayOrAlias) (notAllowed : Bool)
    (ws : List Str) : DisplayEntry where
  entry := entry
  notAllowed := notAllowed
  notBroadcast := noBroadcastString ∈ ws
  chooser := chooserString ∈ ws
  hosts := (ws.filterMap (hostEntryOf resolver)).filter (HostEntry.isKept entry)

/-- The entry that the words of a line stand for. -/
def wordsEntry (resolver : Str → List SockAddr) : List Str → Option DisplayEntry
  | [] => none
  | word :: ws => (displayOf resolver word).map fun p => entryOf resolver p.1 p.2 ws

/-- The entry that a line stands for. -/
def lineEntry (resolver : Str → List SockAddr) (line : Str) : Option DisplayEntry :=
  wordsEntry resolver (plainWords line)

/-- Only the two words stand for the flags. -/
lemma hostEntryOf_flags {h : HostEntry} (hw : hostEntryOf resolver word = some h)
    (hchooser : word ≠ chooserString) (hno : word ≠ noBroadcastString) :
    h.entry ≠ .chooser ∧ h.entry ≠ .noBroadcast := by
  unfold hostEntryOf at hw
  rw [if_neg hchooser, if_neg hno] at hw
  split_ifs at hw
  · cases hw
    simp
  · cases hw
    simp
  · cases hw
    simp
  · obtain ⟨addr, -, rfl⟩ := Option.map_eq_some_iff.1 hw
    simp

lemma addHost_eq {h : HostEntry} {d : DisplayEntry} (hchooser : h.entry ≠ .chooser)
    (hno : h.entry ≠ .noBroadcast) : d.addHost h =
      { d with hosts := if h.isKept d.entry then h :: d.hosts else d.hosts } := by
  unfold DisplayEntry.addHost HostEntry.isKept
  rcases h with ⟨entry | address | _ | _ | _ | _, hopCount⟩
  · rfl
  · rfl
  · rfl
  · exact absurd rfl hchooser
  · exact absurd rfl hno
  · by_cases hd : d.entry = .listen <;> simp [hd]

lemma entryWith_cons (entry : DisplayOrAlias) (notAllowed : Bool) (word : Str) (ws : List Str) :
    entryWith resolver entry notAllowed (word :: ws) =
      (hostEntryOf resolver word).elim (entryWith resolver entry notAllowed ws) fun h =>
        (entryWith resolver entry notAllowed ws).addHost h := by
  unfold entryWith
  cases hw : hostEntryOf resolver word with
  | none => rw [List.filterMap_cons_none hw, Option.elim_none]
  | some h => rw [List.filterMap_cons_some hw, List.foldr_cons, Option.elim_some]

/-- Reading the words of a line one by one gives the entry for them. -/
lemma entryWith_eq (entry : DisplayOrAlias) (notAllowed : Bool) (ws : List Str) :
    entryWith resolver entry notAllowed ws = entryOf resolver entry notAllowed ws := by
  induction ws with
  | nil => rfl
  | cons word ws ih =>
    rw [entryWith_cons, ih]
    have hflags : ∀ {flag}, word ≠ flag → decide (flag ∈ word :: ws) = decide (flag ∈ ws) := by
      intro flag hne
      simp [Ne.symm hne]
    have hset : ∀ {flag}, word = flag → decide (flag ∈ word :: ws) = true := by
      intro flag heq
      simp [heq]
    by_cases hchooser : word = chooserString
    · have hw : hostEntryOf resolver word = some ⟨.chooser, 1⟩ := hchooser ▸ rfl
      have hno : word ≠ noBroadcastString := fun hno => absurd (hchooser.symm.trans hno) (by decide)
      rw [hw, Option.elim_some]
      simp only [entryOf, DisplayEntry.addHost, hflags hno, List.filterMap_cons_some hw,
        List.filter_cons, HostEntry.isKept, hset hchooser]
      rfl
    by_cases hno : word = noBroadcastString
    · have hw : hostEntryOf resolver word = some ⟨.noBroadcast, 1⟩ := hno ▸ rfl
      rw [hw, Option.elim_some]
      simp only [entryOf, DisplayEntry.addHost, hflags hchooser, List.filterMap_cons_some hw,
        List.filter_cons, HostEntry.isKept, hset hno]
      rfl
    cases hw : hostEntryOf resolver word with
    | none =>
      simp only [Option.elim_none, entryOf, hflags hchooser, hflags hno,
        List.filterMap_cons_none hw]
    | some h =>
      obtain ⟨hc, hn⟩ := hostEntryOf_flags hw hchooser hno
      rw [Option.elim_some, addHost_eq hc hn]
      simp only [entryOf, hflags hchooser, hflags hno, List.filterMap_cons_some hw,
        List.filter_cons]
      rfl

lemma modifyHead_nil_append (l : List Str) : l.modifyHead ([] ++ ·) = l := by
  cases l <;> rfl

lemma wordsLoop_eq (buf : Str) (hline : '\\' ∉ line) : wordsLoop .plain buf line =
    (((line.takeWhile fun c => c ≠ '#').splitOnP isBlank).modifyHead (buf ++ ·)).filter
      fun word => word ≠ [] := by
  induction line generalizing buf with
  | nil => by_cases hbuf : buf = [] <;> simp [wordsLoop, hbuf]
  | cons c cs ih =>
    simp only [List.mem_cons, not_or] at hline
    obtain ⟨hc, hcs⟩ := hline
    by_cases hhash : c = '#'
    · by_cases hbuf : buf = [] <;> simp [wordsLoop, hhash, hbuf]
    have htake : (c :: cs).takeWhile (fun c => c ≠ '#') = c :: cs.takeWhile fun c => c ≠ '#' :=
      List.takeWhile_cons_of_pos (by simpa using hhash)
    rw [htake, List.splitOnP_cons_eq_if_modifyHead]
    by_cases hb : c = ' ' ∨ c = '\t'
    · have hrest := ih [] hcs
      rw [modifyHead_nil_append] at hrest
      rw [if_pos (by simpa [isBlank] using hb), List.modifyHead_cons, List.append_nil]
      by_cases hbuf : buf = []
      · simp [wordsLoop, hhash, hb, hbuf, hrest]
      · simp [wordsLoop, hhash, hb, hbuf, hrest]
    · rw [if_neg (by simpa [isBlank] using hb), List.modifyHead_modifyHead]
      have hgrow := ih (buf ++ [c]) hcs
      simp [wordsLoop, hhash, hb, Ne.symm hc, hgrow, Function.comp_def]

/-- Without backslashes the words are what stands between the blanks. -/
lemma wordsOf_eq (hline : '\\' ∉ line) : wordsOf line = plainWords line := by
  have hwords := wordsLoop_eq [] hline
  rwa [modifyHead_nil_append] at hwords

/-! ### What is read from a line -/

/-- The word fits into the buffer. -/
def fits (word : Str) : Bool := word.length < wordMax

/-- A word that does not fit is met where a display is looked for, and `ReadAccessDatabase`
takes it for the end of the file. -/
def endsDatabase (resolver : Str → List SockAddr) : List Token → Bool
  | [] => false
  | .endOfLine :: ks => endsDatabase resolver ks
  | .overlong :: _ => true
  | .word w :: ks =>
    match displayOf resolver w with
    | none => endsDatabase resolver ks
    | some _ => endsDatabase resolver (lineWords ks).2
  termination_by ks => ks.length
  decreasing_by
    all_goals simp_wf
    have := length_lineWords ks
    omega

lemma entriesFrom_eq (ks : List Token) (after : List DisplayEntry) :
    entriesFrom resolver id ks after =
      entriesFrom resolver id ks [] ++ if endsDatabase resolver ks then [] else after := by
  fun_induction endsDatabase resolver ks with
  | case1 => simp [entriesFrom]
  | case2 ks ih => simpa [entriesFrom] using ih
  | case3 => simp [entriesFrom]
  | case4 w ks hw ih => simpa [entriesFrom, hw] using ih
  | case5 w ks p hw ih => simpa [entriesFrom, hw] using ih

/-- The entries that are read from each of the lines. -/
def entriesOf (resolver : Str → List SockAddr) : List Str → List (List DisplayEntry)
  | [] => []
  | line :: lines => entriesFrom resolver id (tokens line) [] ::
    if endsDatabase resolver (tokens line) then lines.map fun _ => []
    else entriesOf resolver lines

lemma flatten_entriesOf (lines : List Str) :
    (databaseOf resolver lines).map Prod.snd = (entriesOf resolver lines).flatten := by
  induction lines with
  | nil => rfl
  | cons line lines ih =>
    have hmap : ∀ after : List (Str × DisplayEntry),
        (entriesFrom resolver (Prod.mk line) (tokens line) after).map Prod.snd =
          entriesFrom resolver id (tokens line) (after.map Prod.snd) := fun after =>
      map_entriesFrom (Prod.mk line) Prod.snd (tokens line) after
    change (entriesFrom resolver (Prod.mk line) (tokens line) (databaseOf resolver lines)).map _ = _
    rw [hmap, entriesFrom_eq, ih, entriesOf, List.flatten_cons]
    split_ifs
    · simp
    · rfl

/-- Nothing is read from words that stand for no display. -/
lemma entriesFrom_eq_nil_iff {ks : List Token} (hks : Token.endOfLine ∉ ks) :
    entriesFrom resolver id ks [] = [] ↔ ∀ w ∈ (lineWords ks).1, displayOf resolver w = none := by
  induction ks with
  | nil => simp [entriesFrom, lineWords]
  | cons k ks ih =>
    simp only [List.mem_cons, not_or] at hks
    cases k with
    | endOfLine => exact absurd rfl hks.1
    | overlong => simp [entriesFrom, lineWords]
    | word w =>
      cases hw : displayOf resolver w with
      | none => simp [entriesFrom, lineWords, hw, ih hks.2]
      | some p => simp [entriesFrom, lineWords, hw]

/-- The words up to the first that does not fit, and the tokens behind its first piece. -/
lemma lineWords_flatMap_chop (hne : [] ∉ ws) : lineWords (ws.flatMap chop) =
    (ws.takeWhile fits, ((ws.dropWhile fits).flatMap chop).tail) := by
  induction ws with
  | nil => rfl
  | cons word ws ih =>
    simp only [List.mem_cons, not_or] at hne
    rw [List.flatMap_cons]
    by_cases hword : word.length < wordMax
    · have hfits : fits word = true := decide_eq_true hword
      rw [chop_of_short hword, pending_of_ne (Ne.symm hne.1), List.takeWhile_cons_of_pos hfits,
        List.dropWhile_cons_of_pos hfits]
      simp [lineWords, ih hne.2]
    · have hfits : ¬ fits word = true := by simpa [fits] using hword
      rw [List.takeWhile_cons_of_neg hfits, List.dropWhile_cons_of_neg hfits, List.flatMap_cons,
        chop, if_neg hword]
      rfl

/-- The words that are read behind one that does not fit. -/
def wordsBehind (ws : List Str) : List Str :=
  (lineWords ((ws.dropWhile fits).flatMap chop).tail).1

/-- From the line the entry is read that it stands for, if any: if its first word stands for no
display, neither does any other that is looked at; if it does, it fits, what does not fit adds
nothing to the entry, and what is read behind it stands for no display. -/
def KeepsLine (resolver : Str → List SockAddr) (line : Str) : Prop :=
  match plainWords line with
  | [] => True
  | word :: ws =>
    match displayOf resolver word with
    | none => ∀ w ∈ (word :: ws).takeWhile fits, displayOf resolver w = none
    | some p => fits word = true ∧
      entryOf resolver p.1 p.2 (ws.takeWhile fits) = entryOf resolver p.1 p.2 ws ∧
      ∀ w ∈ wordsBehind ws, displayOf resolver w = none

lemma endOfLine_notMem_chop (ws : List Str) : Token.endOfLine ∉ ws.flatMap chop := by
  have hchop : ∀ word, Token.endOfLine ∉ chop word := by
    intro word
    fun_induction chop word with
    | case1 word => unfold pending; split_ifs <;> simp
    | case2 word _ ih => simpa using ih
  intro hmem
  obtain ⟨word, -, hword⟩ := List.mem_flatMap.1 hmem
  exact hchop word hword

lemma entriesFrom_line_iff (hline : '\n' ∉ line) (hplain : '\\' ∉ line) :
    entriesFrom resolver id (tokens line) [] = (lineEntry resolver line).toList ↔
      KeepsLine resolver line := by
  have htokens : tokens line = (plainWords line).flatMap chop := by
    rw [← wordsOf_eq hplain]
    exact lex_eq_chop .plain [] (by simp [wordMax]) hline
  have hne : [] ∉ plainWords line := wordsOf_eq hplain ▸ wordsLoop_ne_nil .plain [] hline
  rw [htokens]
  unfold KeepsLine lineEntry
  generalize plainWords line = ws at hne
  cases ws with
  | nil => simp [entriesFrom, wordsEntry]
  | cons word ws =>
    have hnil : entriesFrom resolver id ((word :: ws).flatMap chop) [] = [] ↔ _ :=
      entriesFrom_eq_nil_iff (endOfLine_notMem_chop (word :: ws))
    rw [lineWords_flatMap_chop hne] at hnil
    dsimp only [wordsEntry]
    cases hword : displayOf resolver word with
    | none => simpa using hnil
    | some p =>
      simp only [Option.map_some, Option.toList_some]
      by_cases hfits : word.length < wordMax
      · simp only [List.mem_cons, not_or] at hne
        have hbehind : Token.endOfLine ∉ ((ws.dropWhile fits).flatMap chop).tail := fun hmem =>
          endOfLine_notMem_chop _ (List.mem_of_mem_tail hmem)
        rw [List.flatMap_cons, chop_of_short hfits, pending_of_ne (Ne.symm hne.1),
          List.singleton_append, entriesFrom, hword]
        simp only [id, lineWords_flatMap_chop hne.2, entryWith_eq, List.cons.injEq,
          entriesFrom_eq_nil_iff hbehind, fits, hfits, decide_true, true_and]
        exact Iff.rfl
      · rw [List.flatMap_cons, chop, if_neg hfits, List.cons_append, entriesFrom]
        simp [fits, hfits]

/-! ### The file -/

/-- From every line the entry is read that it stands for; if a word that does not fit ends the
database, no line behind it stands for one. -/
def Faithful (resolver : Str → List SockAddr) : List Str → Prop
  | [] => True
  | line :: lines => KeepsLine resolver line ∧
    if endsDatabase resolver (tokens line) then ∀ l ∈ lines, lineEntry resolver l = none
    else Faithful resolver lines

lemma endMode_plain (hline : '\\' ∉ line) (mode : WordMode) (hmode : mode ≠ .quoted) :
    endMode mode line ≠ .quoted := by
  induction line generalizing mode with
  | nil => cases mode <;> simp_all [endMode]
  | cons c cs ih =>
    simp only [List.mem_cons, not_or] at hline
    cases mode with
    | comment => simp [endMode]
    | quoted => exact absurd rfl hmode
    | plain =>
      by_cases hhash : c = '#'
      · simp [endMode, hhash]
      · simpa [endMode, hhash, Ne.symm hline.1] using ih hline.2 .plain (by simp)

/-- The lines have no characters that the text has not. -/
lemma notMem_linesOf {c : Char} {text : Str} (hc : c ∉ text) (h : line ∈ linesOf text) :
    c ∉ line := by
  induction text generalizing line with
  | nil => simp_all [linesOf]
  | cons x xs ih =>
    simp only [List.mem_cons, not_or] at hc
    obtain ⟨l, ls, hxs⟩ := exists_linesOf xs
    rw [hxs] at ih
    rw [linesOf_cons, hxs] at h
    split_ifs at h
    · rcases List.mem_cons.1 h with rfl | h
      · simp
      · exact ih hc.2 h
    · rcases List.mem_cons.1 h with rfl | h
      · simpa [hc.1] using ih hc.2 List.mem_cons_self
      · exact ih hc.2 (List.mem_cons_of_mem _ h)

lemma uncontinued {text : Str} (hplain : '\\' ∉ text) : Uncontinued text := fun _ hline =>
  endMode_plain (notMem_linesOf hplain (List.dropLast_subset _ hline)) .plain (by simp)

lemma entriesOf_iff {lines : List Str} (hlines : ∀ line ∈ lines, '\n' ∉ line ∧ '\\' ∉ line) :
    entriesOf resolver lines = lines.map (fun line => (lineEntry resolver line).toList) ↔
      Faithful resolver lines := by
  induction lines with
  | nil => exact iff_of_true rfl trivial
  | cons line lines ih =>
    obtain ⟨⟨hline, hplain⟩, hrest⟩ := List.forall_mem_cons.1 hlines
    rw [entriesOf, List.map_cons, List.cons.injEq, Faithful, entriesFrom_line_iff hline hplain]
    refine and_congr_right fun _ => ?_
    split_ifs
    · rw [List.map_inj_left]
      simp only [eq_comm (a := ([] : List DisplayEntry)), Option.toList_eq_nil_iff]
    · exact ih hrest

lemma readAccessDatabase_plain (resolver : Str → List SockAddr) {text : Str}
    (hplain : '\\' ∉ text) : readAccessDatabase resolver (text.length + 1) ⟨text, false⟩ =
      (entriesOf resolver (linesOf text)).flatten := by
  rw [readAccessDatabase_eq resolver (uncontinued hplain), flatten_entriesOf]

/-- For every text without backslashes: what `ReadAccessDatabase` reads are the entries that are
read from the lines; and from each line the one entry is read that it stands for, or none if
it stands for none, if and only if the lines are faithful. -/
theorem access_grammar_iff (resolver : Str → List SockAddr) (text : Str) (hplain : '\\' ∉ text) :
    readAccessDatabase resolver (text.length + 1) ⟨text, false⟩ =
      (entriesOf resolver (linesOf text)).flatten ∧
    (entriesOf resolver (linesOf text) =
        (linesOf text).map (fun line => (lineEntry resolver line).toList) ↔
      Faithful resolver (linesOf text)) := by
  exact ⟨readAccessDatabase_plain resolver hplain, entriesOf_iff fun line hline =>
    ⟨newline_notMem hline, notMem_linesOf hplain hline⟩⟩

/-! ### Files whose words fit -/

/-- The first word of the line stands for a display, or no word of the line does. -/
def startsWithDisplay (resolver : Str → List SockAddr) (line : Str) : Bool :=
  match plainWords line with
  | [] => true
  | word :: ws => (displayOf resolver word).isSome ||
    ws.all fun word => (displayOf resolver word).isNone

lemma endsDatabase_eq_false {ks : List Token} (hks : Token.overlong ∉ ks) :
    endsDatabase resolver ks = false := by
  have hbehind : ∀ ks : List Token, (lineWords ks).2 ⊆ ks := by
    intro ks
    induction ks with
    | nil => simp [lineWords]
    | cons k ks ih =>
      cases k with
      | word w => exact List.Subset.trans ih (List.subset_cons_self _ _)
      | overlong => exact List.subset_cons_self _ _
      | endOfLine => exact List.Subset.refl _
  fun_induction endsDatabase resolver ks with
  | case1 => rfl
  | case2 ks ih => exact ih fun h => hks (List.mem_cons_of_mem _ h)
  | case3 => simp at hks
  | case4 w ks _ ih => exact ih fun h => hks (List.mem_cons_of_mem _ h)
  | case5 w ks _ _ ih => exact ih fun h => hks (List.mem_cons_of_mem _ (hbehind ks h))

lemma keepsLine_iff_of_fits (hfits : ∀ word ∈ plainWords line, fits word = true) :
    KeepsLine resolver line ↔ startsWithDisplay resolver line = true := by
  unfold KeepsLine startsWithDisplay
  generalize plainWords line = ws at hfits
  cases ws with
  | nil => simp
  | cons word ws =>
    have hws : ∀ word ∈ ws, fits word = true := fun word hword =>
      hfits word (List.mem_cons_of_mem _ hword)
    dsimp only
    cases hword : displayOf resolver word with
    | none =>
      rw [List.takeWhile_eq_self_iff.2 hfits]
      simp [hword]
    | some p =>
      have hnone : wordsBehind ws = [] := by
        rw [wordsBehind, List.dropWhile_eq_nil_iff.2 hws]
        rfl
      simp [hfits word, List.takeWhile_eq_self_iff.2 hws, hnone]

/-- If all words fit, only the first words of the lines matter. -/
theorem faithful_iff_of_fits {lines : List Str} (hlines : ∀ line ∈ lines, '\n' ∉ line ∧
    '\\' ∉ line ∧ ∀ word ∈ plainWords line, fits word = true) :
    Faithful resolver lines ↔ ∀ line ∈ lines, startsWithDisplay resolver line = true := by
  induction lines with
  | nil => exact iff_of_true trivial (by simp)
  | cons line lines ih =>
    obtain ⟨⟨hline, hplain, hfits⟩, hrest⟩ := List.forall_mem_cons.1 hlines
    have htokens : tokens line = (plainWords line).map .word := by
      rw [← wordsOf_eq hplain] at hfits ⊢
      refine (lex_eq_chop .plain [] (by simp [wordMax]) hline).trans
        (flatMap_chop_short (wordsLoop_ne_nil .plain [] hline) fun word hword => ?_)
      exact of_decide_eq_true (hfits word hword)
    have hends : endsDatabase resolver (tokens line) = false :=
      endsDatabase_eq_false (by simp [htokens])
    rw [Faithful, List.forall_mem_cons, keepsLine_iff_of_fits hfits, hends,
      if_neg (by simp), ih hrest]

/-! ### Words that are not found, and words that do not fit -/

/-- The address of a host. -/
def SockAddr.host : SockAddr := .inet ⟨[0, 1], rfl⟩ ⟨[10, 0, 0, 3], rfl⟩

/-- The resolver knows one name. -/
def resolvesOne (name : Str) : List SockAddr :=
  if name = "good".toList then [SockAddr.host] else []

/-- The name behind one that is not found becomes a display, and a word that does not fit ends
the database. -/
theorem access_grammar_slips :
    readAccessDatabase resolvesOne 10 ⟨"bad good\n".toList, false⟩ =
      [entryOf resolvesOne (.address [10, 0, 0, 3] familyInternet) false []] ∧
    (linesOf "bad good\n".toList).filterMap (lineEntry resolvesOne) = [] ∧
    readAccessDatabase resolvesOne 258 ⟨List.replicate 254 'a' ++ "\n*\n".toList, false⟩ = [] ∧
    (linesOf (List.replicate 254 'a' ++ "\n*\n".toList)).filterMap (lineEntry resolvesOne) =
      [entryOf resolvesOne (.pattern "*".toList) false []] := by
  decide +kernel

/-- The lines of a file that is read as it should be. -/
theorem access_grammar_clean :
    (entriesOf resolvesOne (linesOf "* good # all\nbad\ngood\n".toList)).flatten =
      [entryOf resolvesOne (.pattern "*".toList) false ["good".toList],
        entryOf resolvesOne (.address [10, 0, 0, 3] familyInternet) false []] ∧
    entriesOf resolvesOne (linesOf "* good # all\nbad\ngood\n".toList) =
      (linesOf "* good # all\nbad\ngood\n".toList).map
        fun line => (lineEntry resolvesOne line).toList := by
  refine ⟨?_, (access_grammar_iff resolvesOne _ (by decide)).2.2 ?_⟩
  · rw [← (access_grammar_iff resolvesOne _ (by decide)).1]
    decide +kernel
  · exact (faithful_iff_of_fits (by decide +kernel)).2 (by decide +kernel)

end Xdm
