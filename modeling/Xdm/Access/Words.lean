/-
# The words of the lines of the access file

`ReadWord` gives up on a word that does not fit into its buffer: the characters that fill the
buffer are lost, and those behind them are read as a word of their own.  So the tokens of a
line are the pieces of its words.
-/
import Xdm.Access.Lines

namespace Xdm

variable {resolver : Str → List SockAddr} {line : Str}

/-! ### The words of a line -/

/-- The words of a line, of any length; `buf` is what has been read of the first. -/
def wordsLoop : WordMode → Str → Str → List Str
  | _, buf, [] => if buf = [] then [] else [buf]
  | .comment, buf, _ :: _ => if buf = [] then [] else [buf]
  | mode, buf, c :: cs =>
    if c = '#' ∧ mode ≠ .quoted then if buf = [] then [] else [buf]
    else if c = ' ' ∨ c = '\t' then
      if buf = [] then wordsLoop .plain [] cs else buf :: wordsLoop .plain [] cs
    else if c = '\\' ∧ mode ≠ .quoted then wordsLoop .quoted buf cs
    else wordsLoop .plain (buf ++ [c]) cs

def wordsOf (line : Str) : List Str := wordsLoop .plain [] line

/-- The tokens that a word is read as. -/
def chop (word : Str) : List Token :=
  if word.length < wordMax then pending word else .overlong :: chop (word.drop wordMax)
  termination_by word.length
  decreasing_by
    rename_i hlong
    simp only [List.length_drop, wordMax] at hlong ⊢
    omega

lemma chop_of_short {word : Str} (h : word.length < wordMax) : chop word = pending word := by
  rw [chop, if_pos h]

lemma chop_append {buf : Str} (h : buf.length = wordMax) (word : Str) :
    chop (buf ++ word) = .overlong :: chop word := by
  rw [chop, if_neg (by simp [h]), ← h, List.drop_left]

lemma chop_nil : chop [] = [] := by
  rw [chop_of_short (by simp [wordMax]), pending_nil]

lemma flatMap_chop_pending (buf : Str) (ws : List Str) :
    (if buf = [] then ws else buf :: ws).flatMap chop = chop buf ++ ws.flatMap chop := by
  split_ifs with hbuf
  · rw [hbuf, chop_nil, List.nil_append]
  · rfl

lemma lex_comment (buf : Str) (h : '\n' ∉ line) : lex .comment buf line = pending buf := by
  induction line with
  | nil => rfl
  | cons c cs ih =>
    simp only [List.mem_cons, not_or] at h
    simpa [lex, Ne.symm h.1] using ih h.2

/-- What `lex` and `wordsLoop` do with a line that begins with `c`: the words end here, one
word does, the next character is quoted, or `c` belongs to the word. -/
inductive Lexed (mode : WordMode) (c : Char) (cs : Str) : Prop
  | comment : (∀ buf, lex mode buf (c :: cs) = pending buf) →
      (∀ buf, wordsLoop mode buf (c :: cs) = if buf = [] then [] else [buf]) → Lexed mode c cs
  | blank : (∀ buf, lex mode buf (c :: cs) = pending buf ++ lex .plain [] cs) →
      (∀ buf, wordsLoop mode buf (c :: cs) = if buf = [] then wordsLoop .plain [] cs
        else buf :: wordsLoop .plain [] cs) → Lexed mode c cs
  | backslash : (∀ buf, lex mode buf (c :: cs) = lex .quoted buf cs) →
      (∀ buf, wordsLoop mode buf (c :: cs) = wordsLoop .quoted buf cs) → Lexed mode c cs
  | character : (∀ buf, lex mode buf (c :: cs) = if buf.length + 1 < wordMax then
        lex .plain (buf ++ [c]) cs else .overlong :: lex .plain [] cs) →
      (∀ buf, wordsLoop mode buf (c :: cs) = wordsLoop .plain (buf ++ [c]) cs) → Lexed mode c cs

lemma lexed (mode : WordMode) {c : Char} {cs : Str} (hline : '\n' ∉ c :: cs) :
    Lexed mode c cs := by
  have hc : c ≠ '\n' := fun hc => hline (by simp [hc])
  have hcs : '\n' ∉ cs := fun hcs => hline (List.mem_cons_of_mem _ hcs)
  cases mode with
  | comment => exact .comment (fun buf => lex_comment buf hline) fun _ => rfl
  | plain =>
    by_cases hhash : c = '#'
    · exact .comment (fun buf => by simp [lex, hhash, lex_comment buf hcs])
        fun buf => by simp [wordsLoop, hhash]
    by_cases hb : c = ' ' ∨ c = '\t'
    · exact .blank (fun buf => by simp [lex, hc, hhash, hb])
        fun buf => by simp [wordsLoop, hhash, hb]
    by_cases hq : c = '\\'
    · exact .backslash (fun buf => by simp [lex, hq]) fun buf => by simp [wordsLoop, hq]
    · exact .character (fun buf => by simp [lex, hc, hhash, hb, hq])
        fun buf => by simp [wordsLoop, hhash, hb, hq]
  | quoted =>
    by_cases hb : c = ' ' ∨ c = '\t'
    · exact .blank (fun buf => by simp [lex, hc, hb]) fun buf => by simp [wordsLoop, hb]
    · exact .character (fun buf => by simp [lex, hc, hb]) fun buf => by simp [wordsLoop, hb]

/-- A full buffer is lost. -/
lemma flatMap_chop_full (mode : WordMode) {full : Str} (hfull : full.length = wordMax) (buf : Str)
    (hline : '\n' ∉ line) : (wordsLoop mode (full ++ buf) line).flatMap chop =
      .overlong :: (wordsLoop mode buf line).flatMap chop := by
  have hdone : ∀ buf ws, (if full ++ buf = [] then ws else (full ++ buf) :: ws).flatMap chop =
      .overlong :: (if buf = [] then ws else buf :: ws).flatMap chop := fun buf ws => by
    rw [flatMap_chop_pending, flatMap_chop_pending, chop_append hfull, List.cons_append]
  induction line generalizing mode buf with
  | nil => cases mode <;> exact hdone buf []
  | cons c cs ih =>
    have hcs : '\n' ∉ cs := fun hcs => hline (List.mem_cons_of_mem _ hcs)
    cases lexed mode hline with
    | comment _ hwords => rw [hwords, hwords, hdone]
    | blank _ hwords => rw [hwords, hwords, hdone]
    | backslash _ hwords => rw [hwords, hwords, ih .quoted buf hcs]
    | character _ hwords => rw [hwords, hwords, List.append_assoc, ih .plain (buf ++ [c]) hcs]

/-- The tokens of a line are the pieces of its words. -/
lemma lex_eq_chop (mode : WordMode) (buf : Str) (hbuf : buf.length < wordMax)
    (hline : '\n' ∉ line) : lex mode buf line = (wordsLoop mode buf line).flatMap chop := by
  have hend : ∀ {buf : Str} (ws : List Str), buf.length < wordMax →
      (if buf = [] then ws else buf :: ws).flatMap chop = pending buf ++ ws.flatMap chop :=
    fun ws hbuf => by rw [flatMap_chop_pending, chop_of_short hbuf]
  induction line generalizing mode buf with
  | nil =>
    have hnil := hend [] hbuf
    rw [List.flatMap_nil, List.append_nil] at hnil
    cases mode <;> exact hnil.symm
  | cons c cs ih =>
    have hcs : '\n' ∉ cs := fun hcs => hline (List.mem_cons_of_mem _ hcs)
    cases lexed mode hline with
    | comment hlex hwords => rw [hlex, hwords, hend [] hbuf, List.flatMap_nil, List.append_nil]
    | blank hlex hwords => rw [hlex, hwords, hend _ hbuf, ih .plain [] (by simp [wordMax]) hcs]
    | backslash hlex hwords => rw [hlex, hwords, ih .quoted buf hbuf hcs]
    | character hlex hwords =>
      rw [hlex, hwords]
      split_ifs with hroom
      · exact ih .plain _ (by simpa using hroom) hcs
      · have hfull : (buf ++ [c]).length = wordMax := by
          rw [List.length_append, List.length_singleton]
          omega
        have hrest := flatMap_chop_full .plain hfull [] hcs
        rw [List.append_nil] at hrest
        rw [hrest, ih .plain [] (by simp [wordMax]) hcs]

/-- No word of a line is empty. -/
lemma wordsLoop_ne_nil (mode : WordMode) (buf : Str) (hline : '\n' ∉ line) :
    [] ∉ wordsLoop mode buf line := by
  have hend : ∀ {buf : Str} {ws : List Str}, [] ∉ ws →
      [] ∉ (if buf = [] then ws else buf :: ws) := by
    intro buf ws hws
    split_ifs with hbuf
    · exact hws
    · simp [hws, Ne.symm hbuf]
  induction line generalizing mode buf with
  | nil => cases mode <;> exact hend List.not_mem_nil
  | cons c cs ih =>
    have hcs : '\n' ∉ cs := fun hcs => hline (List.mem_cons_of_mem _ hcs)
    cases lexed mode hline with
    | comment _ hwords =>
      rw [hwords]
      exact hend List.not_mem_nil
    | blank _ hwords =>
      rw [hwords]
      exact hend (ih .plain [] hcs)
    | backslash _ hwords =>
      rw [hwords]
      exact ih .quoted buf hcs
    | character _ hwords =>
      rw [hwords]
      exact ih .plain (buf ++ [c]) hcs

/-- Words that are short enough are read as they are. -/
lemma flatMap_chop_short {ws : List Str} (hne : [] ∉ ws) (h : ∀ word ∈ ws, word.length < wordMax) :
    ws.flatMap chop = ws.map .word := by
  induction ws with
  | nil => rfl
  | cons word ws ih =>
    obtain ⟨hword, hws⟩ := List.forall_mem_cons.1 h
    have hword' : word ≠ [] := fun heq => hne (by simp [heq])
    rw [List.flatMap_cons, chop_of_short hword, pending_of_ne hword',
      ih (fun hmem => hne (List.mem_cons_of_mem _ hmem)) hws]
    rfl

end Xdm
