/-
# The access file, line by line

`ReadWord` is called with and without the flag that stops it at the end of a line, and it
leaves the file in the middle of a line when a word does not fit into its buffer.  Here the
file is a list of tokens, each reading function is a function on that list, and
`scanAccessDatabase_eq` puts the display entries down to the lines that they are read from.
-/
import Xdm.Access.Reader

namespace Xdm

/-! ### Tokens -/

/-- What `ReadWord` can come upon. -/
inductive Token
  | word (w : Str)
  /-- The characters of a word that fill the buffer. -/
  | overlong
  | endOfLine
deriving DecidableEq

/-- The word that has been read, if there is one. -/
def pending (buf : Str) : List Token := if buf = [] then [] else [.word buf]

/-- The tokens of a text; `buf` is what has been read of the first word. -/
def lex : WordMode → Str → Str → List Token
  | _, buf, [] => pending buf
  | .comment, buf, c :: cs =>
    if c = '\n' then pending buf ++ .endOfLine :: lex .plain [] cs else lex .comment buf cs
  | mode, buf, c :: cs =>
    if c = '\n' then
      -- a newline after a backslash is a blank
      if mode = .quoted ∧ buf = [] then lex .plain [] cs
      else pending buf ++ .endOfLine :: lex .plain [] cs
    else if c = '#' ∧ mode ≠ .quoted then lex .comment buf cs
    else if c = ' ' ∨ c = '\t' then pending buf ++ lex .plain [] cs
    else if c = '\\' ∧ mode ≠ .quoted then lex .quoted buf cs
    else if buf.length + 1 < wordMax then lex .plain (buf ++ [c]) cs
    else .overlong :: lex .plain [] cs

/-- The tokens of a text from its start. -/
def tokens (text : Str) : List Token := lex .plain [] text

lemma length_lex (mode : WordMode) (buf text : Str) :
    (lex mode buf text).length ≤ text.length + (pending buf).length := by
  fun_induction lex mode buf text with
  | case1 mode buf => simp
  | _ =>
    simp_all [pending]
    grind

lemma length_tokens (text : Str) : (tokens text).length ≤ text.length :=
  length_lex .plain [] text

/-! ### `ReadWord` -/

/-- The reader `file` has these tokens before it.  With the flag `nextIsEOF` it stands at
the end of the file or, if `eofAtEOL` is set, of a line. -/
structure Reader.Before (eofAtEOL : Bool) (file : Reader) (ks : List Token) : Prop where
  tokens : tokens file.input = ks
  atEnd : file.nextIsEOF = true → ks = [] ∨ eofAtEOL = true ∧ ∃ ks', ks = .endOfLine :: ks'

lemma Reader.Before.line {eofAtEOL : Bool} {file : Reader} {ks : List Token}
    (h : file.Before eofAtEOL ks) : file.Before true ks :=
  ⟨h.tokens, fun he => (h.atEnd he).imp_right fun h => ⟨rfl, h.2⟩⟩

/-- What `ReadWord` returns, and what it leaves, when it comes upon these tokens. -/
inductive WordRead (eofAtEOL : Bool) : List Token → Option Str × Reader → Prop
  | atEnd {ks : List Token} {input : Str} : tokens input = ks →
      (ks = [] ∨ eofAtEOL = true ∧ ∃ ks', ks = .endOfLine :: ks') →
      WordRead eofAtEOL ks (none, ⟨input, false⟩)
  | overlong {ks : List Token} {input : Str} : tokens input = ks →
      WordRead eofAtEOL (.overlong :: ks) (none, ⟨input, false⟩)
  | word {w : Str} {ks : List Token} {file : Reader} : file.Before eofAtEOL ks →
      WordRead eofAtEOL (.word w :: ks) (some w, file)

/-- The tokens that `ReadWord` looks at: without the flag it goes past the ends of lines. -/
def sought (eofAtEOL : Bool) (ks : List Token) : List Token :=
  if eofAtEOL then ks else ks.dropWhile (· = .endOfLine)

@[simp] lemma sought_nil (eofAtEOL : Bool) : sought eofAtEOL [] = [] := by
  cases eofAtEOL <;> rfl

@[simp] lemma sought_word (eofAtEOL : Bool) (w : Str) (ks : List Token) :
    sought eofAtEOL (.word w :: ks) = .word w :: ks := by
  cases eofAtEOL <;> rfl

@[simp] lemma sought_overlong (eofAtEOL : Bool) (ks : List Token) :
    sought eofAtEOL (.overlong :: ks) = .overlong :: ks := by
  cases eofAtEOL <;> rfl

@[simp] lemma sought_endOfLine (ks : List Token) :
    sought true (.endOfLine :: ks) = .endOfLine :: ks := rfl

@[simp] lemma sought_false_endOfLine (ks : List Token) :
    sought false (.endOfLine :: ks) = sought false ks := rfl

lemma pending_of_ne {buf : Str} (h : buf ≠ []) : pending buf = [.word buf] := if_neg h

lemma pending_nil : pending [] = [] := rfl

lemma tokens_newline (cs : Str) : tokens ('\n' :: cs) = .endOfLine :: tokens cs := by
  simp [tokens, lex, pending]

lemma tokens_blank {c : Char} (hc : c = ' ' ∨ c = '\t') (cs : Str) :
    tokens (c :: cs) = tokens cs := by
  rcases hc with rfl | rfl <;> simp [tokens, lex, pending]

lemma endOfList_read (eofAtEOL : Bool) (buf : Str) {input : Str} (h : tokens input = [] ∨
    eofAtEOL = true ∧ ∃ ks, tokens input = .endOfLine :: ks) :
    WordRead eofAtEOL (sought eofAtEOL (pending buf ++ tokens input)) (endOfList buf input) := by
  unfold endOfList
  split
  · next hbuf =>
    rw [hbuf, pending_nil, List.nil_append]
    rcases h with h | ⟨rfl, ks, h⟩
    · rw [h, sought_nil]
      exact .atEnd h (Or.inl rfl)
    · rw [h, sought_endOfLine]
      exact .atEnd h (Or.inr ⟨rfl, ks, rfl⟩)
  · next hbuf =>
    rw [pending_of_ne hbuf, List.singleton_append, sought_word]
    exact .word ⟨rfl, fun _ => h⟩

/-- With a full buffer `ReadWord` gives up. -/
lemma readWordLoop_full (eofAtEOL : Bool) {buf : Str} (h : wordMax ≤ buf.length) (input : Str) :
    readWordLoop eofAtEOL .plain buf input = (none, ⟨input, false⟩) := by
  cases input <;> simp [readWordLoop, h]

lemma readWordLoop_read (eofAtEOL : Bool) (mode : WordMode) (buf input : Str)
    (hbuf : buf.length < wordMax) :
    WordRead eofAtEOL (sought eofAtEOL (lex mode buf input))
      (readWordLoop eofAtEOL mode buf input) := by
  induction input generalizing mode buf with
  | nil =>
    have hnil : tokens [] = [] := rfl
    have hend := endOfList_read eofAtEOL buf (Or.inl hnil)
    rw [hnil, List.append_nil] at hend
    cases mode <;> simpa [readWordLoop, lex, Nat.not_le.2 hbuf] using hend
  | cons c cs ih =>
    -- one more character for the word
    have hadd : WordRead eofAtEOL (sought eofAtEOL (if buf.length + 1 < wordMax then
        lex .plain (buf ++ [c]) cs else .overlong :: lex .plain [] cs))
        (readWordLoop eofAtEOL .plain (buf ++ [c]) cs) := by
      split
      · next hlt => exact ih .plain _ (by simpa using hlt)
      · next hfull =>
        rw [sought_overlong, readWordLoop_full _ (by simpa using hfull)]
        exact .overlong rfl
    -- a blank, or a newline that counts as one, ends the word if there is one
    have hblank : ∀ ks, tokens (c :: cs) = ks → sought eofAtEOL ks = sought eofAtEOL (tokens cs) →
        WordRead eofAtEOL (sought eofAtEOL (pending buf ++ ks))
          (if buf ≠ [] then (some buf, ⟨c :: cs, false⟩)
            else readWordLoop eofAtEOL .plain buf cs) := by
      intro ks hks hskip
      split
      · next hne =>
        rw [pending_of_ne hne, List.singleton_append, sought_word]
        exact .word ⟨hks, by simp⟩
      · next hnil =>
        obtain rfl : buf = [] := not_not.1 hnil
        rw [pending_nil, List.nil_append, hskip]
        exact ih .plain [] hbuf
    -- a newline that is not quoted ends the word as well, and with the flag the list
    have hnewline : c = '\n' →
        WordRead eofAtEOL (sought eofAtEOL (pending buf ++ .endOfLine :: tokens cs))
          (if eofAtEOL = true then endOfList buf (c :: cs)
            else if buf ≠ [] then (some buf, ⟨c :: cs, false⟩)
              else readWordLoop eofAtEOL .plain buf cs) := by
      rintro rfl
      rw [← tokens_newline]
      split
      · next he => exact endOfList_read _ _ (Or.inr ⟨he, _, tokens_newline cs⟩)
      · next he =>
        obtain rfl : eofAtEOL = false := by simpa using he
        exact hblank _ rfl (by rw [tokens_newline, sought_false_endOfLine])
    have hroom := Nat.not_le.2 hbuf
    cases mode with
    | comment =>
      by_cases hc : c = '\n'
      · simpa [readWordLoop, lex, tokens, hc] using hnewline hc
      · simpa [readWordLoop, lex, hc] using ih .comment buf hbuf
    | plain =>
      by_cases hhash : c = '#'
      · simpa [readWordLoop, lex, hhash, hroom] using ih .comment buf hbuf
      by_cases hc : c = '\n'
      · simpa [readWordLoop, lex, tokens, hc, hroom] using hnewline hc
      by_cases hb : c = ' ' ∨ c = '\t'
      · have h := hblank (tokens cs) (tokens_blank hb cs) rfl
        simpa [readWordLoop, lex, tokens, hhash, hc, hb, hroom] using h
      by_cases hq : c = '\\'
      · simpa [readWordLoop, lex, hq, hroom] using ih .quoted buf hbuf
      · simpa [readWordLoop, lex, hhash, hc, hb, hq, hroom] using hadd
    | quoted =>
      by_cases hc : c = '\n'
      · subst hc
        by_cases hnil : buf = []
        · simpa [readWordLoop, lex, hnil, wordMax] using ih .plain [] (by simp [wordMax])
        · have h : WordRead eofAtEOL (.word buf :: .endOfLine :: tokens cs)
              (some buf, ⟨'\n' :: cs, false⟩) := .word ⟨tokens_newline cs, by simp⟩
          simpa [readWordLoop, lex, tokens, hnil, hroom, pending] using h
      by_cases hb : c = ' ' ∨ c = '\t'
      · have hhash : c ≠ '#' := by rcases hb with rfl | rfl <;> decide
        have h := hblank (tokens cs) (tokens_blank hb cs) rfl
        simpa [readWordLoop, lex, tokens, hhash, hc, hb, hroom] using h
      by_cases hhash : c = '#'
      · subst hhash
        simpa [readWordLoop, lex, hroom] using hadd
      · simpa [readWordLoop, lex, hhash, hc, hb, hroom] using hadd

lemma readWord_read (eofAtEOL : Bool) {file : Reader} {ks : List Token}
    (h : file.Before eofAtEOL ks) :
    WordRead eofAtEOL (sought eofAtEOL ks) (readWord eofAtEOL file) := by
  obtain ⟨rfl, hend⟩ := h
  unfold readWord
  split
  · next he =>
    rcases hend he with hnil | ⟨rfl, hline⟩
    · rw [hnil, sought_nil]
      exact .atEnd hnil (Or.inl rfl)
    · exact .atEnd rfl (Or.inr ⟨rfl, hline⟩)
  · exact readWordLoop_read eofAtEOL .plain [] file.input (by simp [wordMax])

/-! ### Host and display entries -/

variable {resolver : Str → List SockAddr}

/-- The words up to the end of a line, or to a word that does not fit, and the rest. -/
def lineWords : List Token → List Str × List Token
  | .word w :: ks =>
    let (ws, rest) := lineWords ks
    (w :: ws, rest)
  | .overlong :: ks => ([], ks)
  | ks => ([], ks)

lemma length_lineWords (ks : List Token) : (lineWords ks).2.length ≤ ks.length := by
  induction ks with
  | nil => simp [lineWords]
  | cons k ks ih =>
    cases k with
    | word w => exact Nat.le_succ_of_le ih
    | overlong => exact Nat.le_succ _
    | endOfLine => exact Nat.le_refl _

/-- The entry for a display with these words behind it. -/
def entryWith (resolver : Str → List SockAddr) (entry : DisplayOrAlias) (notAllowed : Bool)
    (ws : List Str) : DisplayEntry :=
  (ws.filterMap (hostEntryOf resolver)).foldr DisplayEntry.addHost
    ⟨entry, notAllowed, false, false, []⟩

/-- The entries that a list of tokens holds, each seen through `f`, and what comes after
them.  A word that does not fit where a display is looked for ends the database. -/
def entriesFrom {α : Type} (resolver : Str → List SockAddr) (f : DisplayEntry → α) :
    List Token → List α → List α
  | [], after => after
  | .endOfLine :: ks, after => entriesFrom resolver f ks after
  | .overlong :: _, _ => []
  | .word w :: ks, after =>
    match displayOf resolver w with
    | none => entriesFrom resolver f ks after
    | some (entry, notAllowed) =>
      f (entryWith resolver entry notAllowed (lineWords ks).1) ::
        entriesFrom resolver f (lineWords ks).2 after
  termination_by ks => ks.length
  decreasing_by
    all_goals simp_wf
    have := length_lineWords ks
    omega

/-- What `ReadHostEntry` returns and leaves when it comes upon these tokens. -/
def nextHost (resolver : Str → List SockAddr) : List Token → Option HostEntry × List Token
  | .word w :: ks =>
    match hostEntryOf resolver w with
    | some h => (some h, ks)
    | none => nextHost resolver ks
  | .overlong :: ks => (none, ks)
  | ks => (none, ks)

lemma readHostEntry_read (resolver : Str → List SockAddr) (n : Nat) {file : Reader}
    {ks : List Token} (h : file.Before true ks) (hn : ks.length < n) :
    let r := readHostEntry resolver n file
    r.1 = (nextHost resolver ks).1 ∧ r.2.Before true (nextHost resolver ks).2 ∧
      (r.1 = none → r.2.nextIsEOF = false) := by
  induction n generalizing file ks with
  | zero => omega
  | succ n ih =>
    have hread := readWord_read true h
    unfold readHostEntry
    generalize readWord true file = r at hread
    cases hread with
    | @atEnd _ input hks hend =>
      have hnext : nextHost resolver ks = (none, ks) := by
        rcases hend with rfl | ⟨-, ks', rfl⟩ <;> rfl
      rw [hnext]
      exact ⟨rfl, ⟨hks, by simp⟩, fun _ => rfl⟩
    | overlong hks => exact ⟨rfl, ⟨hks, by simp⟩, fun _ => rfl⟩
    | @word w ks' file' hbefore =>
      cases hw : hostEntryOf resolver w with
      | some host => simpa [nextHost, hw] using hbefore
      | none => simpa [nextHost, hw] using ih hbefore (by simpa using hn)

lemma nextHost_some {ks ks' : List Token} {h : HostEntry}
    (hnext : nextHost resolver ks = (some h, ks')) :
    (lineWords ks).1.filterMap (hostEntryOf resolver) =
        h :: (lineWords ks').1.filterMap (hostEntryOf resolver) ∧
      (lineWords ks).2 = (lineWords ks').2 ∧ ks'.length < ks.length := by
  fun_induction nextHost resolver ks with
  | case1 w ks host hw =>
    cases hnext
    simp [lineWords, hw]
  | case2 w ks hw ih =>
    obtain ⟨h₁, h₂, h₃⟩ := ih hnext
    exact ⟨by simpa [lineWords, hw] using h₁, by simpa [lineWords] using h₂,
      Nat.lt_succ_of_lt h₃⟩
  | case3 => simp at hnext
  | case4 => simp at hnext

lemma nextHost_none {ks ks' : List Token} (hnext : nextHost resolver ks = (none, ks')) :
    (lineWords ks).1.filterMap (hostEntryOf resolver) = [] ∧ (lineWords ks).2 = ks' := by
  fun_induction nextHost resolver ks with
  | case1 w ks host hw => simp at hnext
  | case2 w ks hw ih =>
    obtain ⟨h₁, h₂⟩ := ih hnext
    exact ⟨by simpa [lineWords, hw] using h₁, by simpa [lineWords] using h₂⟩
  | case3 ks =>
    cases hnext
    simp [lineWords]
  | case4 ks hword hover =>
    obtain rfl : ks = ks' := (Prod.mk.inj hnext).2
    cases ks with
    | nil => simp [lineWords]
    | cons k ks =>
      cases k with
      | word w => exact absurd rfl (hword w ks)
      | overlong => exact absurd rfl (hover ks)
      | endOfLine => simp [lineWords]

lemma readHosts_read (resolver : Str → List SockAddr) (d : DisplayEntry) (n : Nat)
    {file : Reader} {ks : List Token} (h : file.Before true ks) (hn : ks.length < n) :
    let r := readHosts resolver d n file
    r.1 = ((lineWords ks).1.filterMap (hostEntryOf resolver)).foldr DisplayEntry.addHost d ∧
      r.2.Before true (lineWords ks).2 ∧ r.2.nextIsEOF = false := by
  induction n generalizing file ks with
  | zero => omega
  | succ n ih =>
    have hlen : ks.length < file.input.length + 1 :=
      Nat.lt_succ_of_le (h.tokens ▸ length_tokens file.input)
    obtain ⟨hfirst, hrest, hflag⟩ := readHostEntry_read resolver _ h hlen
    unfold readHosts
    generalize readHostEntry resolver (file.input.length + 1) file = r at hfirst hrest hflag
    obtain ⟨host, file'⟩ := r
    simp only at hfirst hrest hflag
    have hnext : nextHost resolver ks = (host, (nextHost resolver ks).2) := by rw [hfirst]
    cases host with
    | none =>
      obtain ⟨h₁, h₂⟩ := nextHost_none hnext
      exact ⟨by simp [h₁], by rw [h₂]; exact hrest, hflag rfl⟩
    | some host =>
      obtain ⟨h₁, h₂, hlt⟩ := nextHost_some hnext
      obtain ⟨h₃, h₄, h₅⟩ := ih hrest (by omega)
      exact ⟨by simp [h₁, ← h₃], by rw [h₂]; exact h₄, h₅⟩

/-- What `ReadDisplayEntry` returns and leaves when it comes upon these tokens. -/
def nextEntry (resolver : Str → List SockAddr) : List Token → Option DisplayEntry × List Token
  | [] => (none, [])
  | .endOfLine :: ks => nextEntry resolver ks
  | .overlong :: ks => (none, ks)
  | .word w :: ks =>
    match displayOf resolver w with
    | none => nextEntry resolver ks
    | some (entry, notAllowed) =>
      (some (entryWith resolver entry notAllowed (lineWords ks).1), (lineWords ks).2)

lemma nextEntry_sought (ks : List Token) :
    nextEntry resolver (sought false ks) = nextEntry resolver ks := by
  induction ks with
  | nil => rfl
  | cons k ks ih =>
    cases k with
    | endOfLine => simpa [nextEntry] using ih
    | _ => simp

lemma length_sought (ks : List Token) : (sought false ks).length ≤ ks.length :=
  (List.dropWhile_sublist _).length_le

lemma readDisplayEntry_read (resolver : Str → List SockAddr) (n : Nat) {file : Reader}
    {ks : List Token} (h : file.Before false ks) (hn : ks.length < n) :
    let r := readDisplayEntry resolver n file
    r.1 = (nextEntry resolver ks).1 ∧
      (r.1.isSome = true → r.2.Before false (nextEntry resolver ks).2) := by
  induction n generalizing file ks with
  | zero => omega
  | succ n ih =>
    have hread := readWord_read false h
    have hlen := length_sought ks
    rw [← nextEntry_sought]
    unfold readDisplayEntry
    generalize readWord false file = r at hread
    generalize sought false ks = sks at hread hlen
    cases hread with
    | @atEnd _ input hks hend =>
      obtain rfl : sks = [] := hend.resolve_right (by simp)
      simp [nextEntry]
    | overlong hks => simp [nextEntry]
    | @word w ks' file' hbefore =>
      simp only [List.length_cons] at hlen
      cases hw : displayOf resolver w with
      | none => simpa [nextEntry, hw] using ih hbefore (by omega)
      | some entry =>
        have hlen' : ks'.length < file'.input.length + 1 :=
          Nat.lt_succ_of_le (hbefore.tokens ▸ length_tokens file'.input)
        obtain ⟨h₁, h₂, h₃⟩ := readHosts_read resolver
          ⟨entry.1, entry.2, false, false, []⟩ _ hbefore.line hlen'
        simp only [nextEntry, hw, entryWith]
        exact ⟨congrArg some h₁, fun _ => ⟨h₂.tokens, by simp [h₃]⟩⟩

lemma entriesFrom_nextEntry (resolver : Str → List SockAddr) (ks : List Token) :
    match nextEntry resolver ks with
    | (none, _) => entriesFrom resolver id ks [] = []
    | (some d, ks') => entriesFrom resolver id ks [] = d :: entriesFrom resolver id ks' [] ∧
        ks'.length < ks.length := by
  fun_induction nextEntry resolver ks with
  | case1 => simp [entriesFrom]
  | case2 ks ih =>
    rw [entriesFrom]
    split at ih
    · exact ih
    · exact ⟨ih.1, Nat.lt_succ_of_lt ih.2⟩
  | case3 => simp [entriesFrom]
  | case4 w ks hw ih =>
    simp only [entriesFrom, hw]
    split at ih
    · exact ih
    · exact ⟨ih.1, Nat.lt_succ_of_lt ih.2⟩
  | case5 w ks entry notAllowed hw =>
    exact ⟨by simp [entriesFrom, hw], Nat.lt_succ_of_le (length_lineWords ks)⟩

lemma readAccessDatabase_read (n : Nat) {file : Reader} {ks : List Token}
    (h : file.Before false ks) (hn : ks.length < n) :
    readAccessDatabase resolver n file = entriesFrom resolver id ks [] := by
  induction n generalizing file ks with
  | zero => omega
  | succ n ih =>
    have hlen : ks.length < file.input.length + 1 :=
      Nat.lt_succ_of_le (h.tokens ▸ length_tokens file.input)
    obtain ⟨hfirst, hrest⟩ := readDisplayEntry_read resolver _ h hlen
    have hnext := entriesFrom_nextEntry resolver ks
    unfold readAccessDatabase
    generalize readDisplayEntry resolver (file.input.length + 1) file = r at hfirst hrest
    obtain ⟨d, file'⟩ := r
    generalize nextEntry resolver ks = next at hfirst hrest hnext
    obtain ⟨d', ks'⟩ := next
    obtain rfl : d = d' := hfirst
    cases d with
    | none => exact hnext.symm
    | some d =>
      obtain ⟨heq, hlt⟩ := hnext
      rw [heq]
      exact congrArg (d :: ·) (ih (hrest rfl) (by omega))

/-! ### Lines -/

def linesOf (text : Str) : List Str := text.splitOn '\n'

lemma linesOf_cons (c : Char) (cs : Str) : linesOf (c :: cs) =
    if c = '\n' then [] :: linesOf cs else (linesOf cs).modifyHead (c :: ·) := by
  rw [linesOf, List.splitOn_cons_eq_if_modifyHead]
  simp only [beq_iff_eq]
  rfl

lemma exists_linesOf (text : Str) : ∃ line lines, linesOf text = line :: lines :=
  List.exists_cons_of_ne_nil (List.splitOn_ne_nil _ _)

/-- Where `ReadWord` stands at the end of a line. -/
def endMode : WordMode → Str → WordMode
  | mode, [] => mode
  | .comment, _ :: _ => .comment
  | mode, c :: cs =>
    if c = '#' ∧ mode ≠ .quoted then .comment
    else if c = '\\' ∧ mode ≠ .quoted then endMode .quoted cs
    else endMode .plain cs

/-- The line goes on behind its newline: a backslash quotes it. -/
def Continued (line : Str) : Prop := endMode .plain line = .quoted

/-- No line of the file goes on behind its newline. -/
def Uncontinued (text : Str) : Prop := ∀ line ∈ (linesOf text).dropLast, ¬ Continued line

/-- The tokens of a text are those of its lines. -/
lemma lex_lines (mode : WordMode) (buf : Str) {text line : Str} {lines : List Str}
    (h : linesOf text = line :: lines) (hline : lines ≠ [] → endMode mode line ≠ .quoted)
    (hlines : ∀ l ∈ lines.dropLast, ¬ Continued l) :
    lex mode buf text = lex mode buf line ++ lines.flatMap fun l => .endOfLine :: tokens l := by
  induction text generalizing mode buf line lines with
  | nil =>
    obtain ⟨rfl, rfl⟩ := List.cons.inj (h : [[]] = line :: lines)
    simp
  | cons c cs ih =>
    obtain ⟨l, ls, hcs⟩ := exists_linesOf cs
    rw [linesOf_cons, hcs] at h
    by_cases hc : c = '\n'
    · subst hc
      obtain ⟨rfl, rfl⟩ := List.cons.inj (h : [] :: l :: ls = line :: lines)
      have hmode : mode ≠ .quoted := by simpa [endMode] using hline (by simp)
      have hrest : ls ≠ [] → ¬ Continued l := fun hls =>
        hlines l (by simp [List.dropLast_cons_of_ne_nil hls])
      have hlex := ih .plain [] hcs hrest fun l' hl' => hlines l' (by
        have hls : ls ≠ [] := by rintro rfl; simp at hl'
        simp [List.dropLast_cons_of_ne_nil hls, hl'])
      have hbreak : lex mode buf ('\n' :: cs) = pending buf ++ .endOfLine :: lex .plain [] cs := by
        cases mode <;> simp_all [lex]
      rw [hbreak, hlex]
      cases mode <;> simp [lex, tokens]
    · rw [if_neg hc] at h
      obtain ⟨rfl, rfl⟩ := List.cons.inj (h : (c :: l) :: ls = line :: lines)
      have hgo : ∀ mode' buf', endMode mode (c :: l) = endMode mode' l →
          lex mode' buf' cs = lex mode' buf' l ++ ls.flatMap fun l => .endOfLine :: tokens l :=
        fun mode' buf' hmode' => ih mode' buf' hcs (fun hls => hmode' ▸ hline hls) hlines
      have hadd : endMode mode (c :: l) = endMode .plain l →
          (if buf.length + 1 < wordMax then lex .plain (buf ++ [c]) cs
            else .overlong :: lex .plain [] cs) =
          (if buf.length + 1 < wordMax then lex .plain (buf ++ [c]) l
            else .overlong :: lex .plain [] l) ++ ls.flatMap fun l => .endOfLine :: tokens l := by
        intro hmode
        split
        · exact hgo .plain _ hmode
        · rw [hgo .plain [] hmode, List.cons_append]
      have hcomment : endMode .comment l = .comment := by cases l <;> simp [endMode]
      by_cases hb : c = ' ' ∨ c = '\t'
      · have hhash : c ≠ '#' := by rcases hb with rfl | rfl <;> decide
        have hq : c ≠ '\\' := by rcases hb with rfl | rfl <;> decide
        cases mode with
        | comment => simpa [lex, hc] using hgo .comment buf (by simp [endMode, hcomment])
        | _ => simpa [lex, hc, hb, hhash] using hgo .plain [] (by simp [endMode, hhash, hq])
      cases mode with
      | comment => simpa [lex, hc] using hgo .comment buf (by simp [endMode, hcomment])
      | plain =>
        by_cases hhash : c = '#'
        · simpa [lex, hhash] using hgo .comment buf (by simp [endMode, hhash, hcomment])
        by_cases hq : c = '\\'
        · simpa [lex, hq] using hgo .quoted buf (by simp [endMode, hq])
        · simpa [lex, hc, hb, hhash, hq] using hadd (by simp [endMode, hhash, hq])
      | quoted => simpa [lex, hc, hb] using hadd (by simp [endMode])

/-- The entries of the lines, each with the line that it is read from. -/
def databaseOf (resolver : Str → List SockAddr) (lines : List Str) : List (Str × DisplayEntry) :=
  lines.foldr (fun line after => entriesFrom resolver (Prod.mk line) (tokens line) after) []

lemma newline_notMem {text line : Str} (h : line ∈ linesOf text) : '\n' ∉ line := by
  intro hmem
  induction text generalizing line with
  | nil => simp_all [linesOf]
  | cons c cs ih =>
    obtain ⟨l, ls, hcs⟩ := exists_linesOf cs
    rw [hcs] at ih
    rw [linesOf_cons, hcs] at h
    split_ifs at h with hc
    · rcases List.mem_cons.1 h with rfl | h
      · simp at hmem
      · exact ih h hmem
    · rcases List.mem_cons.1 h with rfl | h
      · exact ih List.mem_cons_self ((List.mem_cons.1 hmem).resolve_left (Ne.symm hc))
      · exact ih (List.mem_cons_of_mem _ h) hmem

lemma lineWords_append (ks rest : List Token) : lineWords (ks ++ .endOfLine :: rest) =
    ((lineWords ks).1, (lineWords ks).2 ++ .endOfLine :: rest) := by
  induction ks with
  | nil => simp [lineWords]
  | cons k ks ih =>
    cases k with
    | word w => simp [lineWords, ih]
    | overlong => simp [lineWords]
    | endOfLine => simp [lineWords]

/-- The entries of a line, and those of the lines behind it. -/
lemma entriesFrom_append {α : Type} (f : DisplayEntry → α) (ks rest : List Token)
    (after : List α) : entriesFrom resolver f (ks ++ .endOfLine :: rest) after =
      entriesFrom resolver f ks (entriesFrom resolver f rest after) := by
  generalize hafter : entriesFrom resolver f rest after = after'
  fun_induction entriesFrom resolver f ks after' with
  | case1 => rw [List.nil_append, entriesFrom, hafter]
  | case2 ks after' ih => simpa [entriesFrom] using ih hafter
  | case3 => simp [entriesFrom]
  | case4 w ks after' hw ih => simpa [entriesFrom, hw] using ih hafter
  | case5 w ks after' entry notAllowed hw ih =>
    have hrest := ih hafter
    simp only [List.cons_append, entriesFrom, hw, lineWords_append, hrest]

lemma map_entriesFrom {α β : Type} (f : DisplayEntry → α) (g : α → β) (ks : List Token)
    (after : List α) : (entriesFrom resolver f ks after).map g =
      entriesFrom resolver (g ∘ f) ks (after.map g) := by
  fun_induction entriesFrom resolver f ks after <;> simp_all [entriesFrom]

lemma mem_entriesFrom {α : Type} {f : DisplayEntry → α} {ks : List Token} {after : List α} {x : α}
    (h : x ∈ entriesFrom resolver f ks after) :
    x ∈ after ∨ ∃ d ∈ entriesFrom resolver id ks [], x = f d := by
  fun_induction entriesFrom resolver f ks after with
  | case1 => exact Or.inl h
  | case2 ks after ih => simpa [entriesFrom] using ih h
  | case3 => simp at h
  | case4 w ks after hw ih => simpa [entriesFrom, hw] using ih h
  | case5 w ks after entry notAllowed hw ih =>
    simp only [entriesFrom, hw, id, List.mem_cons, exists_eq_or_imp]
    rcases List.mem_cons.1 h with rfl | h
    · exact Or.inr (Or.inl rfl)
    · exact (ih h).imp_right Or.inr

/-- An entry is read from the tokens of its line. -/
lemma mem_databaseOf {lines : List Str} {line : Str} {d : DisplayEntry}
    (h : (line, d) ∈ databaseOf resolver lines) :
    line ∈ lines ∧ d ∈ entriesFrom resolver id (tokens line) [] := by
  induction lines with
  | nil => simp [databaseOf] at h
  | cons l ls ih =>
    rcases mem_entriesFrom h with h | ⟨d', hd', heq⟩
    · exact ⟨List.mem_cons_of_mem _ (ih h).1, (ih h).2⟩
    · obtain ⟨rfl, rfl⟩ := Prod.mk.inj heq
      exact ⟨List.mem_cons_self, hd'⟩

/-- What `ReadAccessDatabase` reads are the entries of the lines. -/
theorem readAccessDatabase_eq (resolver : Str → List SockAddr) {text : Str}
    (htext : Uncontinued text) :
    readAccessDatabase resolver (text.length + 1) ⟨text, false⟩ =
      (databaseOf resolver (linesOf text)).map Prod.snd := by
  have hbefore : Reader.Before false ⟨text, false⟩ (tokens text) := ⟨rfl, by simp⟩
  rw [readAccessDatabase_read _ hbefore (Nat.lt_succ_of_le (length_tokens text))]
  obtain ⟨line, lines, h⟩ := exists_linesOf text
  rw [Uncontinued, h] at htext
  have hlex : tokens text = tokens line ++ lines.flatMap fun l => .endOfLine :: tokens l := by
    refine lex_lines .plain [] h (fun hls => htext line ?_) fun l hl => htext l ?_
    · simp [List.dropLast_cons_of_ne_nil hls]
    · have hls : lines ≠ [] := by rintro rfl; simp at hl
      simp [List.dropLast_cons_of_ne_nil hls, hl]
  rw [hlex, h]
  clear hlex htext h
  have hmap : ∀ (line : Str) (ks : List Token) (after : List (Str × DisplayEntry)),
      (entriesFrom resolver (Prod.mk line) ks after).map Prod.snd =
        entriesFrom resolver id ks (after.map Prod.snd) := fun line ks after =>
    map_entriesFrom (Prod.mk line) Prod.snd ks after
  induction lines generalizing line with
  | nil => simp [databaseOf, hmap]
  | cons l ls ih =>
    rw [List.flatMap_cons, List.cons_append, entriesFrom_append, ih l]
    exact (hmap line (tokens line) (databaseOf resolver (l :: ls))).symm

/-- What `ScanAccessDatabase` reads are the entries of the lines. -/
theorem scanAccessDatabase_eq {w : World} {cfg : Config} (haccess : cfg.accessFile ≠ [])
    (hlines : Uncontinued (w.accessText.getD [])) : scanAccessDatabase w cfg =
      (databaseOf w.getaddrinfo (linesOf (w.accessText.getD []))).map Prod.snd := by
  unfold scanAccessDatabase
  rw [if_neg haccess]
  cases htext : w.accessText with
  | none => simp [databaseOf, linesOf, tokens, lex, pending, entriesFrom]
  | some text =>
    rw [htext] at hlines
    exact readAccessDatabase_eq w.getaddrinfo hlines

end Xdm
