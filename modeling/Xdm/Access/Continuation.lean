/-
# Lines that are continued

A backslash before a newline is to make the newline a blank.  `ReadWord` forgets the backslash
when it returns the word in front of it, and then the newline ends the list: so the words
behind it are the first ones of an entry of their own.
-/
import Xdm.Access.Grammar

namespace Xdm

variable {resolver : Str → List SockAddr} {text : Str} {ws : List Str}

/-! ### Logical lines -/

/-- The text with a blank in the place of every backslash with a newline behind it. -/
def joinLines : Str → Str
  | '\\' :: '\n' :: cs => ' ' :: joinLines cs
  | c :: cs => c :: joinLines cs
  | [] => []

/-- A backslash occurs only directly before a newline, and not inside a comment. -/
def quotesNewlines : (comment : Bool) → Str → Bool
  | _, [] => true
  | comment, c :: cs =>
    if c = '\\' then !comment && cs.head? = some '\n' && quotesNewlines comment cs
    else if c = '\n' then quotesNewlines false cs
    else quotesNewlines (comment || c = '#') cs

/-- A word, and whether a continuation follows it directly. -/
structure MarkedWord where
  word : Str
  continued : Bool

/-- The word that has been read, if there is one. -/
def pendingWord (buf : Str) (continued : Bool) : List MarkedWord :=
  if buf = [] then [] else [⟨buf, continued⟩]

/-- The words of the logical lines of a text; `buf` is what has been read of the first. -/
def markedLines : WordMode → Str → Str → List (List MarkedWord)
  | _, buf, [] => [pendingWord buf false]
  | .quoted, buf, _ :: cs => (markedLines .plain [] cs).modifyHead (pendingWord buf true ++ ·)
  | .comment, buf, c :: cs =>
    if c = '\n' then pendingWord buf false :: markedLines .plain [] cs
    else markedLines .comment buf cs
  | .plain, buf, c :: cs =>
    if c = '\n' then pendingWord buf false :: markedLines .plain [] cs
    else if c = '#' then markedLines .comment buf cs
    else if c = ' ' ∨ c = '\t' then
      (markedLines .plain [] cs).modifyHead (pendingWord buf false ++ ·)
    else if c = '\\' then markedLines .quoted buf cs
    else markedLines .plain (buf ++ [c]) cs

def logicalLines (text : Str) : List (List MarkedWord) := markedLines .plain [] text

/-- The words of a logical line up to the first one that a continuation follows directly. -/
def wordsBefore : List MarkedWord → List Str
  | [] => []
  | m :: ms => m.word :: if m.continued then [] else wordsBefore ms

/-- The rest of a logical line behind this continuation. -/
def restBehind : List MarkedWord → List MarkedWord
  | [] => []
  | m :: ms => if m.continued then ms else restBehind ms

lemma wordsBefore_append (ms : List MarkedWord) :
    wordsBefore ms ++ (restBehind ms).map MarkedWord.word = ms.map MarkedWord.word := by
  induction ms with
  | nil => rfl
  | cons m ms ih =>
    unfold wordsBefore restBehind
    split_ifs
    · rfl
    · rw [List.cons_append, ih, List.map_cons]

/-- Something stands in front of the first line. -/
lemma map_modifyHead (ms : List MarkedWord) (lines : List (List MarkedWord)) :
    (lines.modifyHead (ms ++ ·)).map (List.map MarkedWord.word) =
      (lines.map (List.map MarkedWord.word)).modifyHead (ms.map MarkedWord.word ++ ·) := by
  cases lines with
  | nil => rfl
  | cons line lines =>
    simp only [List.modifyHead_cons, List.map_cons, List.map_append]

lemma map_pendingWord (buf : Str) (continued : Bool) (ws : List Str) :
    (pendingWord buf continued).map MarkedWord.word ++ ws =
      if buf = [] then ws else buf :: ws := by
  unfold pendingWord
  split_ifs <;> rfl

/-- A backslash has a newline behind it. -/
lemma ne_backslash {comment : Bool} {c : Char} {cs : Str}
    (hquotes : quotesNewlines comment (c :: cs) = true)
    (hpair : ∀ cs', c = '\\' → cs = '\n' :: cs' → False) : c ≠ '\\' := by
  rintro rfl
  simp only [quotesNewlines, if_true, Bool.and_eq_true, decide_eq_true_eq] at hquotes
  obtain ⟨cs', hcs'⟩ := List.head?_eq_some_iff.1 hquotes.1.2
  exact hpair cs' rfl hcs'

/-- The words of the logical lines are those of the lines of the joined text. -/
lemma map_markedLines (mode : WordMode) (hmode : mode ≠ .quoted) (buf : Str)
    (hquotes : quotesNewlines (decide (mode = .comment)) text = true) {line : Str}
    {lines : List Str} (h : linesOf (joinLines text) = line :: lines) :
    (markedLines mode buf text).map (List.map MarkedWord.word) =
      wordsLoop mode buf line :: lines.map wordsOf := by
  have hend : ∀ (mode : WordMode) (buf : Str), (pendingWord buf false).map MarkedWord.word =
      wordsLoop mode buf [] := by
    intro mode buf
    have hword := map_pendingWord buf false []
    rw [List.append_nil] at hword
    cases mode <;> exact hword
  fun_induction joinLines text generalizing mode buf line lines with
  | case1 cs ih =>
    obtain ⟨l, ls, hcs⟩ := exists_linesOf (joinLines cs)
    rw [linesOf_cons, hcs] at h
    obtain ⟨rfl, rfl⟩ := List.cons.inj (h : (' ' :: l) :: ls = line :: lines)
    cases mode with
    | quoted => exact absurd rfl hmode
    | comment => simp [quotesNewlines] at hquotes
    | plain =>
      have hrest := ih .plain (by simp) [] (by simpa [quotesNewlines] using hquotes) hcs
      have hmarks : markedLines .plain buf ('\\' :: '\n' :: cs) =
        (markedLines .plain [] cs).modifyHead (pendingWord buf true ++ ·) := by simp [markedLines]
      rw [hmarks, map_modifyHead, hrest, List.modifyHead_cons, map_pendingWord]
      simp [wordsLoop]
  | case2 c cs hpair ih =>
    obtain ⟨l, ls, hcs⟩ := exists_linesOf (joinLines cs)
    rw [linesOf_cons, hcs] at h
    have hc := ne_backslash hquotes hpair
    simp only [quotesNewlines, if_neg hc] at hquotes
    by_cases hnewline : c = '\n'
    · rw [if_pos hnewline] at hquotes h
      obtain ⟨rfl, rfl⟩ := List.cons.inj h
      have hrest := ih .plain (by simp) [] (by simpa using hquotes) hcs
      cases mode with
      | quoted => exact absurd rfl hmode
      | comment => simp [markedLines, hnewline, hrest, hend .comment, wordsOf]
      | plain => simp [markedLines, hnewline, hrest, hend .plain, wordsOf]
    · rw [if_neg hnewline] at hquotes h
      obtain ⟨rfl, rfl⟩ := List.cons.inj (h : (c :: l) :: ls = line :: lines)
      cases mode with
      | quoted => exact absurd rfl hmode
      | comment =>
        have hrest := ih .comment (by simp) buf (by simpa using hquotes) hcs
        have hsame : wordsLoop .comment buf (c :: l) = wordsLoop .comment buf l := by
          cases l <;> rfl
        rw [hsame, ← hrest, markedLines, if_neg hnewline]
      | plain =>
        by_cases hhash : c = '#'
        · have hrest := ih .comment (by simp) buf (by simpa [hhash] using hquotes) hcs
          have hsame : wordsLoop .plain buf (c :: l) = wordsLoop .comment buf l := by
            cases l <;> simp [wordsLoop, hhash]
          rw [hsame, ← hrest, markedLines, if_neg hnewline, if_pos hhash]
        · have hplain : quotesNewlines (decide (WordMode.plain = .comment)) cs = true := by
            simpa [hhash] using hquotes
          by_cases hb : c = ' ' ∨ c = '\t'
          · have hrest := ih .plain (by simp) [] hplain hcs
            rw [markedLines, if_neg hnewline, if_neg hhash, if_pos hb, map_modifyHead, hrest,
              List.modifyHead_cons, map_pendingWord]
            simp [wordsLoop, hhash, hb]
          · have hrest := ih .plain (by simp) (buf ++ [c]) hplain hcs
            rw [markedLines, if_neg hnewline, if_neg hhash, if_neg hb, if_neg hc, hrest]
            simp [wordsLoop, hhash, hb, hc]
  | case3 =>
    obtain ⟨rfl, rfl⟩ := List.cons.inj (h : [[]] = line :: lines)
    cases mode with
    | quoted => exact absurd rfl hmode
    | comment => simp [markedLines, hend .comment]
    | plain => simp [markedLines, hend .plain]

/-! ### The tokens -/

/-- A word as it is read: a continuation behind it ends the line. -/
def MarkedWord.tokens (m : MarkedWord) : List Token :=
  .word m.word :: if m.continued then [.endOfLine] else []

def lineTokens (lines : List (List MarkedWord)) : List Token :=
  match lines with
  | [] => []
  | line :: lines => line.flatMap MarkedWord.tokens ++
    lines.flatMap fun line => .endOfLine :: line.flatMap MarkedWord.tokens

lemma markedLines_ne_nil (mode : WordMode) (buf text : Str) : markedLines mode buf text ≠ [] := by
  fun_induction markedLines mode buf text <;> simp_all

lemma lineTokens_modifyHead (ms : List MarkedWord) {lines : List (List MarkedWord)}
    (h : lines ≠ []) : lineTokens (lines.modifyHead (ms ++ ·)) =
      ms.flatMap MarkedWord.tokens ++ lineTokens lines := by
  cases lines with
  | nil => exact absurd rfl h
  | cons line lines =>
    simp only [List.modifyHead_cons, lineTokens, List.flatMap_append, List.append_assoc]

lemma lineTokens_cons (line : List MarkedWord) {lines : List (List MarkedWord)}
    (h : lines ≠ []) : lineTokens (line :: lines) =
      line.flatMap MarkedWord.tokens ++ .endOfLine :: lineTokens lines := by
  cases lines with
  | nil => exact absurd rfl h
  | cons line' lines => simp only [lineTokens, List.flatMap_cons, List.cons_append]

lemma flatMap_pendingWord (buf : Str) :
    (pendingWord buf false).flatMap MarkedWord.tokens = pending buf := by
  unfold pendingWord pending
  split_ifs <;> rfl

/-- The first word of a line that a word stands in front of. -/
lemma exists_pendingWord {buf : Str} (hbuf : buf ≠ []) (continued : Bool)
    {lines : List (List MarkedWord)} (hlines : lines ≠ []) :
    ∃ line ∈ lines.modifyHead (pendingWord buf continued ++ ·),
      ∃ m ∈ line, buf.length ≤ m.word.length := by
  cases lines with
  | nil => exact absurd rfl hlines
  | cons line lines =>
    exact ⟨_, List.mem_cons_self, ⟨buf, continued⟩, by simp [pendingWord, hbuf], Nat.le_refl _⟩

/-- What has been read of a word is part of one of the words. -/
lemma exists_markedWord (mode : WordMode) {buf : Str} (text : Str) (hbuf : buf ≠ []) :
    ∃ line ∈ markedLines mode buf text, ∃ m ∈ line, buf.length ≤ m.word.length := by
  have hdone : ∀ {buf : Str} (lines), buf ≠ [] → ∃ line ∈ pendingWord buf false :: lines,
      ∃ m ∈ line, buf.length ≤ m.word.length := fun lines hbuf =>
    ⟨_, List.mem_cons_self, ⟨_, false⟩, by simp [pendingWord, hbuf], Nat.le_refl _⟩
  induction text generalizing mode buf with
  | nil => cases mode <;> exact hdone [] hbuf
  | cons c cs ih =>
    cases mode with
    | quoted => exact exists_pendingWord hbuf true (markedLines_ne_nil _ _ _)
    | comment =>
      unfold markedLines
      split_ifs
      · exact hdone _ hbuf
      · exact ih .comment hbuf
    | plain =>
      unfold markedLines
      split_ifs
      · exact hdone _ hbuf
      · exact ih .comment hbuf
      · exact exists_pendingWord hbuf false (markedLines_ne_nil _ _ _)
      · exact ih .quoted hbuf
      · obtain ⟨line, hline, m, hm, hle⟩ := ih .plain (show buf ++ [c] ≠ [] by simp)
        rw [List.length_append] at hle
        exact ⟨line, hline, m, hm, Nat.le_of_add_right_le hle⟩

/-- The tokens of a text are those of its logical lines. -/
lemma lex_eq_lineTokens (mode : WordMode) (hmode : mode ≠ .quoted) (buf : Str)
    (hquotes : quotesNewlines (decide (mode = .comment)) text = true)
    (hfits : ∀ line ∈ markedLines mode buf text, ∀ m ∈ line, m.word.length < wordMax) :
    lex mode buf text = lineTokens (markedLines mode buf text) := by
  have hbehind : ∀ {ms : List MarkedWord} {lines : List (List MarkedWord)},
      (∀ line ∈ lines.modifyHead (ms ++ ·), ∀ m ∈ line, m.word.length < wordMax) →
      ∀ line ∈ lines, ∀ m ∈ line, m.word.length < wordMax := by
    intro ms lines h line hline m hm
    cases lines with
    | nil => cases hline
    | cons l ls =>
      rcases List.mem_cons.1 hline with rfl | hline
      · exact h _ List.mem_cons_self m (List.mem_append_right _ hm)
      · exact h line (List.mem_cons_of_mem _ hline) m hm
  fun_induction joinLines text generalizing mode buf with
  | case1 cs ih =>
    cases mode with
    | quoted => exact absurd rfl hmode
    | comment => simp [quotesNewlines] at hquotes
    | plain =>
      have hmarks : markedLines .plain buf ('\\' :: '\n' :: cs) =
        (markedLines .plain [] cs).modifyHead (pendingWord buf true ++ ·) := by simp [markedLines]
      rw [hmarks] at hfits ⊢
      have hrest := ih .plain (by simp) [] (by simpa [quotesNewlines] using hquotes)
        (hbehind hfits)
      rw [lineTokens_modifyHead _ (markedLines_ne_nil _ _ _), ← hrest]
      by_cases hbuf : buf = [] <;>
        simp [lex, hbuf, pendingWord, pending, MarkedWord.tokens]
  | case2 c cs hpair ih =>
    have hc := ne_backslash hquotes hpair
    simp only [quotesNewlines, if_neg hc] at hquotes
    by_cases hnewline : c = '\n'
    · rw [if_pos hnewline] at hquotes
      have hmarks : markedLines mode buf (c :: cs) =
          pendingWord buf false :: markedLines .plain [] cs := by
        cases mode with
        | quoted => exact absurd rfl hmode
        | _ => simp [markedLines, hnewline]
      rw [hmarks] at hfits ⊢
      have hrest := ih .plain (by simp) [] (by simpa using hquotes)
        fun line hline => hfits line (List.mem_cons_of_mem _ hline)
      rw [lineTokens_cons _ (markedLines_ne_nil _ _ _), flatMap_pendingWord, ← hrest]
      cases mode with
      | quoted => exact absurd rfl hmode
      | _ => simp [lex, hnewline]
    · rw [if_neg hnewline] at hquotes
      cases mode with
      | quoted => exact absurd rfl hmode
      | comment =>
        rw [markedLines, if_neg hnewline] at hfits ⊢
        rw [lex, if_neg hnewline]
        exact ih .comment (by simp) buf (by simpa using hquotes) hfits
      | plain =>
        by_cases hhash : c = '#'
        · rw [markedLines, if_neg hnewline, if_pos hhash] at hfits ⊢
          rw [← ih .comment (by simp) buf (by simpa [hhash] using hquotes) hfits]
          simp [lex, hhash]
        · have hplain : quotesNewlines (decide (WordMode.plain = .comment)) cs = true := by
            simpa [hhash] using hquotes
          by_cases hb : c = ' ' ∨ c = '\t'
          · rw [markedLines, if_neg hnewline, if_neg hhash, if_pos hb] at hfits ⊢
            rw [lineTokens_modifyHead _ (markedLines_ne_nil _ _ _), flatMap_pendingWord,
              ← ih .plain (by simp) [] hplain (hbehind hfits)]
            simp [lex, hnewline, hhash, hb]
          · rw [markedLines, if_neg hnewline, if_neg hhash, if_neg hb, if_neg hc] at hfits ⊢
            -- the word that is being read is not the whole of it
            obtain ⟨line, hline, m, hm, hle⟩ :=
              exists_markedWord .plain cs (show buf ++ [c] ≠ [] by simp)
            have hroom := hfits line hline m hm
            rw [List.length_append, List.length_singleton] at hle
            rw [← ih .plain (by simp) (buf ++ [c]) hplain hfits]
            simp [lex, hnewline, hhash, hb, hc, Nat.lt_of_le_of_lt hle hroom]
  | case3 =>
    have hnil : lineTokens [pendingWord buf false] = pending buf := by
      simp [lineTokens, flatMap_pendingWord]
    cases mode with
    | quoted => exact absurd rfl hmode
    | comment => simp [markedLines, lex, hnil]
    | plain => simp [markedLines, lex, hnil]

/-! ### The entries -/

/-- The entries that are read from a logical line. -/
def readFrom (resolver : Str → List SockAddr) (line : List MarkedWord) : List DisplayEntry :=
  entriesFrom resolver id (line.flatMap MarkedWord.tokens) []

lemma overlong_notMem (line : List MarkedWord) :
    Token.overlong ∉ line.flatMap MarkedWord.tokens := by
  intro hmem
  obtain ⟨m, -, hm⟩ := List.mem_flatMap.1 hmem
  unfold MarkedWord.tokens at hm
  split_ifs at hm <;> simp at hm

lemma entriesFrom_lineTokens (lines : List (List MarkedWord)) :
    entriesFrom resolver id (lineTokens lines) [] = lines.flatMap (readFrom resolver) := by
  induction lines with
  | nil => simp [lineTokens, entriesFrom]
  | cons line lines ih =>
    cases lines with
    | nil => simp [lineTokens, readFrom]
    | cons line' lines =>
      rw [lineTokens_cons line (by simp), entriesFrom_append, ih, entriesFrom_eq,
        endsDatabase_eq_false (overlong_notMem line), if_neg (by simp)]
      rfl

lemma lineWords_marked (resolver : Str → List SockAddr) (line : List MarkedWord) :
    (lineWords (line.flatMap MarkedWord.tokens)).1 = wordsBefore line ∧
      entriesFrom resolver id (lineWords (line.flatMap MarkedWord.tokens)).2 [] =
        readFrom resolver (restBehind line) := by
  induction line with
  | nil => exact ⟨rfl, rfl⟩
  | cons m ms ih =>
    rw [List.flatMap_cons, MarkedWord.tokens, wordsBefore, restBehind]
    by_cases hm : m.continued = true
    · simp [hm, lineWords, entriesFrom, readFrom]
    · simpa [hm, lineWords] using ih

/-- Words that stand for no display leave nothing. -/
lemma readFrom_eq_nil_iff (line : List MarkedWord) :
    readFrom resolver line = [] ↔ ∀ m ∈ line, displayOf resolver m.word = none := by
  unfold readFrom
  induction line with
  | nil => simp [entriesFrom]
  | cons m ms ih =>
    rw [List.flatMap_cons, MarkedWord.tokens, List.cons_append, entriesFrom,
      List.forall_mem_cons]
    cases hword : displayOf resolver m.word with
    | some p => simp
    | none =>
      split_ifs
      · simpa [entriesFrom] using ih
      · simpa using ih

/-- A line whose first word stands for a display. -/
lemma readFrom_cons {m : MarkedWord} {ms : List MarkedWord} {p : DisplayOrAlias × Bool}
    (hword : displayOf resolver m.word = some p) : readFrom resolver (m :: ms) =
      entryOf resolver p.1 p.2 (wordsBefore (m :: ms)).tail ::
        readFrom resolver (restBehind (m :: ms)) := by
  obtain ⟨hbefore, hbehind⟩ := lineWords_marked resolver ms
  unfold readFrom
  rw [List.flatMap_cons, MarkedWord.tokens, List.cons_append, entriesFrom, hword]
  unfold wordsBefore restBehind
  split_ifs
  · simp [lineWords, entryWith_eq, entriesFrom]
  · simp [entryWith_eq, hbefore, hbehind, readFrom]

/-! ### Continuations that do no harm -/

/-- The words behind the first continuation that directly follows a word are `CHOOSER` and
`NOBROADCAST`, have occurred on the line before it, and are no names of displays. -/
def Harmless (resolver : Str → List SockAddr) (line : List MarkedWord) : Prop :=
  ∀ m ∈ restBehind line, (m.word = chooserString ∨ m.word = noBroadcastString) ∧
    m.word ∈ (wordsBefore line).tail ∧ displayOf resolver m.word = none

/-- The first word of a line stands for a display, and the others for hosts or flags. -/
def namesResolve (resolver : Str → List SockAddr) : List Str → Bool
  | [] => true
  | word :: ws => (displayOf resolver word).isSome &&
    ws.all fun word => (hostEntryOf resolver word).isSome

/-- A word that stands for no display and is kept out of the host list is a flag. -/
lemma isFlag {word : Str} {h : HostEntry} {entry : DisplayOrAlias}
    (hw : hostEntryOf resolver word = some h) (hkept : h.isKept entry = false)
    (hdisplay : displayOf resolver word = none) :
    word = chooserString ∨ word = noBroadcastString := by
  by_contra hno
  rw [not_or] at hno
  obtain ⟨hchooser, hnoBroadcast⟩ := hostEntryOf_flags hw hno.1 hno.2
  unfold hostEntryOf at hw
  rw [if_neg hno.1, if_neg hno.2] at hw
  split_ifs at hw with _ _ hstar
  · cases hw
    simp [HostEntry.isKept] at hkept
  · cases hw
    simp [HostEntry.isKept] at hkept
  · -- a star is a pattern
    subst hstar
    cases hdisplay
  · obtain ⟨addr, -, rfl⟩ := Option.map_eq_some_iff.1 hw
    simp [HostEntry.isKept] at hkept

/-- Further words that stand for no display add nothing if and only if they are flags that the
line has already. -/
lemma entryOf_append_iff {entry : DisplayOrAlias} {notAllowed : Bool} {behind : List Str}
    (hhosts : ∀ word ∈ behind, (hostEntryOf resolver word).isSome = true)
    (hdisplay : ∀ word ∈ behind, displayOf resolver word = none) :
    entryOf resolver entry notAllowed ws = entryOf resolver entry notAllowed (ws ++ behind) ↔
      ∀ word ∈ behind, (word = chooserString ∨ word = noBroadcastString) ∧ word ∈ ws := by
  simp only [entryOf, DisplayEntry.mk.injEq, true_and, List.filterMap_append, List.filter_append,
    List.mem_append, decide_eq_decide, List.self_eq_append_right, List.filter_eq_nil_iff,
    List.mem_filterMap]
  constructor
  · rintro ⟨hno, hchooser, hnone⟩ word hword
    obtain ⟨h, hw⟩ := Option.isSome_iff_exists.1 (hhosts word hword)
    have hkept : h.isKept entry = false := by simpa using hnone h ⟨word, hword, hw⟩
    have hflag := isFlag hw hkept (hdisplay word hword)
    refine ⟨hflag, ?_⟩
    rcases hflag with rfl | rfl
    · exact hchooser.2 (Or.inr hword)
    · exact hno.2 (Or.inr hword)
  · intro hflags
    refine ⟨iff_self_or.2 fun h => (hflags _ h).2, iff_self_or.2 fun h => (hflags _ h).2, ?_⟩
    rintro h ⟨word, hword, hw⟩
    rcases (hflags word hword).1 with rfl | rfl <;> cases hw <;> simp [HostEntry.isKept]

lemma tail_wordsBefore_append (m : MarkedWord) (ms : List MarkedWord) :
    (wordsBefore (m :: ms)).tail ++ (restBehind (m :: ms)).map MarkedWord.word =
      ms.map MarkedWord.word :=
  congrArg List.tail (wordsBefore_append (m :: ms))

/-- The entry that a logical line stands for is read from it, if its continuations do no
harm. -/
lemma readFrom_iff {line : List MarkedWord}
    (hnames : namesResolve resolver (line.map MarkedWord.word) = true) :
    readFrom resolver line = (wordsEntry resolver (line.map MarkedWord.word)).toList ↔
      Harmless resolver line := by
  cases line with
  | nil =>
    exact iff_of_true (by simp [readFrom, entriesFrom, wordsEntry])
      (by simp [Harmless, restBehind])
  | cons m ms =>
    simp only [namesResolve, List.map_cons, Bool.and_eq_true, List.all_eq_true] at hnames
    obtain ⟨p, hword⟩ := Option.isSome_iff_exists.1 hnames.1
    have happend := tail_wordsBefore_append m ms
    rw [readFrom_cons hword, List.map_cons, wordsEntry, hword, Option.map_some,
      Option.toList_some, List.cons.injEq, readFrom_eq_nil_iff, ← happend]
    unfold Harmless
    have hhosts : ∀ word ∈ (restBehind (m :: ms)).map MarkedWord.word,
        (hostEntryOf resolver word).isSome = true := fun word hmem =>
      hnames.2 word (happend ▸ List.mem_append_right _ hmem)
    constructor
    · rintro ⟨heq, hdisplay⟩ x hx
      have hflags := (entryOf_append_iff hhosts (by simpa using hdisplay)).1 heq x.word
        (List.mem_map_of_mem hx)
      exact ⟨hflags.1, hflags.2, hdisplay x hx⟩
    · intro hharmless
      have hdisplay : ∀ x ∈ restBehind (m :: ms), displayOf resolver x.word = none :=
        fun x hx => (hharmless x hx).2.2
      refine ⟨(entryOf_append_iff hhosts (by simpa using hdisplay)).2 fun word hmem => ?_,
        hdisplay⟩
      obtain ⟨x, hx, rfl⟩ := List.mem_map.1 hmem
      exact ⟨(hharmless x hx).1, (hharmless x hx).2.1⟩

lemma length_readFrom {line : List MarkedWord}
    (hnames : namesResolve resolver (line.map MarkedWord.word) = true) :
    (wordsEntry resolver (line.map MarkedWord.word)).toList.length ≤
      (readFrom resolver line).length := by
  cases line with
  | nil => exact Nat.zero_le _
  | cons m ms =>
    simp only [namesResolve, List.map_cons, Bool.and_eq_true] at hnames
    obtain ⟨p, hword⟩ := Option.isSome_iff_exists.1 hnames.1
    rw [readFrom_cons hword, List.length_cons, List.map_cons, wordsEntry, hword]
    exact Nat.succ_le_succ (Nat.zero_le _)

/-- Where every list on one side is at least as long as the one on the other, the two are the
same as a whole only if they are one by one. -/
lemma flatMap_eq_iff {α β : Type} {f g : α → List β} {l : List α}
    (hle : ∀ x ∈ l, (g x).length ≤ (f x).length) :
    l.flatMap f = l.flatMap g ↔ ∀ x ∈ l, f x = g x := by
  refine ⟨fun heq => ?_, fun heq => List.flatMap_congr heq⟩
  have hlength : ∀ {l : List α}, (∀ x ∈ l, (g x).length ≤ (f x).length) →
      (l.flatMap g).length ≤ (l.flatMap f).length := by
    intro l hle
    induction l with
    | nil => exact Nat.le_refl _
    | cons x l ih =>
      have hx := hle x List.mem_cons_self
      have hl := ih fun y hy => hle y (List.mem_cons_of_mem _ hy)
      simp only [List.flatMap_cons, List.length_append]
      omega
  induction l with
  | nil => simp
  | cons x l ih =>
    obtain ⟨hx, hl⟩ := List.forall_mem_cons.1 hle
    rw [List.flatMap_cons, List.flatMap_cons] at heq
    have hsum := congrArg List.length heq
    have hrest := hlength hl
    simp only [List.length_append] at hsum
    obtain ⟨hhead, htail⟩ := List.append_inj heq (by omega)
    exact List.forall_mem_cons.2 ⟨hhead, ih hl htail⟩

/-! ### The file -/

lemma backslash_notMem {comment : Bool} (hquotes : quotesNewlines comment text = true) :
    '\\' ∉ joinLines text := by
  fun_induction joinLines text generalizing comment with
  | case1 cs ih =>
    have hcs : comment = false ∧ quotesNewlines false cs = true := by
      simpa [quotesNewlines] using hquotes
    simpa using ih hcs.2
  | case2 c cs hpair ih =>
    have hc := ne_backslash hquotes hpair
    simp only [quotesNewlines, if_neg hc] at hquotes
    have hcs : '\\' ∉ joinLines cs := by
      split_ifs at hquotes
      · exact ih hquotes
      · exact ih hquotes
    simp [Ne.symm hc, hcs]
  | case3 => simp

/-- The words of the logical lines are those of the lines of the joined text. -/
lemma map_logicalLines (hquotes : quotesNewlines false text = true) :
    (logicalLines text).map (List.map MarkedWord.word) =
      (linesOf (joinLines text)).map plainWords := by
  obtain ⟨l, ls, hjoined⟩ := exists_linesOf (joinLines text)
  have hmap := map_markedLines .plain (by simp) [] (by simpa using hquotes) hjoined
  change (logicalLines text).map _ = (l :: ls).map wordsOf at hmap
  rw [hmap, ← hjoined]
  exact List.map_congr_left fun line hline =>
    wordsOf_eq (notMem_linesOf (backslash_notMem hquotes) hline)

lemma exists_line (hquotes : quotesNewlines false text = true) {line : List MarkedWord}
    (hline : line ∈ logicalLines text) :
    ∃ l ∈ linesOf (joinLines text), plainWords l = line.map MarkedWord.word :=
  List.mem_map.1 (map_logicalLines hquotes ▸ List.mem_map_of_mem hline)

/-- What is read from the text, by logical lines. -/
lemma readAccessDatabase_logicalLines (hquotes : quotesNewlines false text = true)
    (hfits : ∀ line ∈ linesOf (joinLines text), ∀ word ∈ plainWords line, fits word = true) :
    readAccessDatabase resolver (text.length + 1) ⟨text, false⟩ =
      (logicalLines text).flatMap (readFrom resolver) := by
  have hbefore : Reader.Before false ⟨text, false⟩ (tokens text) := ⟨rfl, by simp⟩
  have htokens : tokens text = lineTokens (logicalLines text) := by
    refine lex_eq_lineTokens .plain (by simp) [] (by simpa using hquotes) fun line hline m hm => ?_
    obtain ⟨l, hl, hwords⟩ := exists_line hquotes hline
    exact of_decide_eq_true (hfits l hl m.word (hwords ▸ List.mem_map_of_mem hm))
  rw [readAccessDatabase_read _ hbefore (Nat.lt_succ_of_le (length_tokens text)), htokens,
    entriesFrom_lineTokens]

/-- What is read from the joined text, by logical lines. -/
lemma readAccessDatabase_joinLines (hquotes : quotesNewlines false text = true)
    (hfits : ∀ line ∈ linesOf (joinLines text), ∀ word ∈ plainWords line, fits word = true)
    (hnames : ∀ line ∈ linesOf (joinLines text), namesResolve resolver (plainWords line) = true) :
    readAccessDatabase resolver ((joinLines text).length + 1) ⟨joinLines text, false⟩ =
      (logicalLines text).flatMap fun line =>
        (wordsEntry resolver (line.map MarkedWord.word)).toList := by
  have hplain : '\\' ∉ joinLines text := backslash_notMem hquotes
  have hlines : ∀ line ∈ linesOf (joinLines text), '\n' ∉ line ∧ '\\' ∉ line := fun line hline =>
    ⟨newline_notMem hline, notMem_linesOf hplain hline⟩
  have hstarts : ∀ line ∈ linesOf (joinLines text), startsWithDisplay resolver line = true := by
    intro line hline
    have hresolve := hnames line hline
    unfold startsWithDisplay
    cases hwords : plainWords line with
    | nil => rfl
    | cons word ws =>
      rw [hwords, namesResolve, Bool.and_eq_true] at hresolve
      simp only [hresolve.1, Bool.true_or]
  have hfaithful : Faithful resolver (linesOf (joinLines text)) :=
    (faithful_iff_of_fits fun line hline =>
      ⟨(hlines line hline).1, (hlines line hline).2, hfits line hline⟩).2 hstarts
  rw [readAccessDatabase_plain resolver hplain, (entriesOf_iff hlines).2 hfaithful,
    ← List.flatMap_def]
  have hmap : ((linesOf (joinLines text)).map plainWords).flatMap
      (fun ws => (wordsEntry resolver ws).toList) =
      (linesOf (joinLines text)).flatMap fun line => (lineEntry resolver line).toList :=
    List.flatMap_map ..
  rw [← hmap, ← map_logicalLines hquotes, List.flatMap_map]

/-- For every text whose backslashes all stand before newlines, outside comments, whose words
fit, and whose names resolve: the same database is read from it as from the text with blanks in
the place of the continuations, if and only if no continuation that directly follows a word
does harm. -/
theorem continuation_iff (resolver : Str → List SockAddr) (text : Str)
    (hquotes : quotesNewlines false text = true)
    (hfits : ∀ line ∈ linesOf (joinLines text), ∀ word ∈ plainWords line, fits word = true)
    (hnames : ∀ line ∈ linesOf (joinLines text), namesResolve resolver (plainWords line) = true) :
    readAccessDatabase resolver (text.length + 1) ⟨text, false⟩ =
        readAccessDatabase resolver ((joinLines text).length + 1) ⟨joinLines text, false⟩ ↔
      ∀ line ∈ logicalLines text, Harmless resolver line := by
  have hresolve : ∀ line ∈ logicalLines text,
      namesResolve resolver (line.map MarkedWord.word) = true := fun line hline => by
    obtain ⟨l, hl, hwords⟩ := exists_line hquotes hline
    exact hwords ▸ hnames l hl
  rw [readAccessDatabase_logicalLines hquotes hfits,
    readAccessDatabase_joinLines hquotes hfits hnames,
    flatMap_eq_iff fun line hline => length_readFrom (hresolve line hline)]
  exact forall₂_congr fun line hline => readFrom_iff (hresolve line hline)

/-- Every name resolves. -/
def resolvesAll (_ : Str) : List SockAddr := [SockAddr.host]

/-- A list of two hosts that is continued directly behind the first one: the second host gets an
entry of its own. -/
theorem continuation_ends_list :
    quotesNewlines false "* a\\\n b\n".toList = true ∧
    (∀ line ∈ linesOf (joinLines "* a\\\n b\n".toList), ∀ word ∈ plainWords line,
      fits word = true) ∧
    (∀ line ∈ linesOf (joinLines "* a\\\n b\n".toList),
      namesResolve resolvesAll (plainWords line) = true) ∧
    readAccessDatabase resolvesAll 9 ⟨"* a\\\n b\n".toList, false⟩ =
      [entryOf resolvesAll (.pattern "*".toList) false ["a".toList],
        entryOf resolvesAll (.address [10, 0, 0, 3] familyInternet) false []] ∧
    readAccessDatabase resolvesAll 8 ⟨joinLines "* a\\\n b\n".toList, false⟩ =
      [entryOf resolvesAll (.pattern "*".toList) false ["a".toList, "b".toList]] := by
  decide +kernel

/-- With a blank before the backslash the list goes on. -/
theorem continuation_goes_on :
    readAccessDatabase resolvesAll 10 ⟨"* a \\\n b\n".toList, false⟩ =
      readAccessDatabase resolvesAll 9 ⟨joinLines "* a \\\n b\n".toList, false⟩ := by
  refine (continuation_iff resolvesAll "* a \\\n b\n".toList (by decide +kernel)
    (by decide +kernel) (by decide +kernel)).2 ?_
  have hlines : ∀ line ∈ logicalLines "* a \\\n b\n".toList, (restBehind line).isEmpty = true := by
    decide +kernel
  intro line hline m hm
  rw [List.isEmpty_iff.1 (hlines line hline)] at hm
  cases hm

end Xdm
