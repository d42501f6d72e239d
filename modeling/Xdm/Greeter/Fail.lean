/-
# The lines of an error message

`RedrawFail` (`greeter/Login.c`) breaks a message that is too wide into lines.  It does so in a copy
of the message, in which each line is ended by a NUL in the place of the white space that it is
broken at.  Here the lines are compared with those of a message that is broken as it should be.
-/
import Xdm.File
import Xdm.Util

namespace Xdm.Greeter

def nul : Char := '\x00'

/-- The string that starts here. -/
def stringAt (s : List Char) (i : ℕ) : Str := (s.drop i).takeWhile (· ≠ nul)

/-! ### The loop -/

/-- The first character at or behind `i` that is white space or a NUL.  There is no outcome if a
character behind the copy is read. -/
def scanWord : List Char → ℕ → Option ℕ
  | [], _ => none
  | c :: cs, i => if c = nul ∨ isSpace c then some i else scanWord cs (i + 1)

/-- The line has been cut at `next`, unless `next` is where it starts. -/
def putBack (start : ℕ) (tempCopy : List Char) (next : ℕ) (lastspace : Char) :
    Option (List Char) :=
  if next ≠ start then store tempCopy next lastspace else some tempCopy

/-- The inner loop of `RedrawFail`, with the fuel for its passes.  Of `next` a null pointer is
`none`. -/
def fillLine (errorWidth : Str → Int) (maxw : Int) (start : ℕ) :
    ℕ → List Char → ℕ → Char → Option (List Char × Option ℕ × Char)
  | 0, _, _, _ => none
  | fuel + 1, tempCopy, next, lastspace => do
    let tempCopy ← putBack start tempCopy next lastspace
    let next ← scanWord (tempCopy.drop (next + 1)) (next + 1)
    let c ← tempCopy[next]?
    if c = nul then some (tempCopy, none, lastspace)
    else
      let tempCopy ← store tempCopy next nul
      if errorWidth (stringAt tempCopy start) < maxw then
        fillLine errorWidth maxw start fuel tempCopy next c
      else some (tempCopy, some next, c)

/-- What the outer loop carries on, besides `next`, which is `start`. -/
structure FailLoop where
  tempCopy : List Char
  start : ℕ
  lastspace : Char

/-- One pass of the outer loop: the line that is drawn, and the next pass.  Each pass of the inner
loop moves `next` on in the copy. -/
def redrawLine (errorWidth : Str → Int) (maxw : Int) (l : FailLoop) :
    Option (Str × Option FailLoop) := do
  let (tempCopy, next, lastspace) ←
    fillLine errorWidth maxw l.start l.tempCopy.length l.tempCopy l.start l.lastspace
  some (stringAt tempCopy l.start, next.map fun next => ⟨tempCopy, next + 1, lastspace⟩)

def redrawLoop (errorWidth : Str → Int) (maxw : Int) : ℕ → FailLoop → Option (List Str)
  | 0, _ => none
  | fuel + 1, l => do
    let (line, l') ← redrawLine errorWidth maxw l
    match l' with
    | none => some [line]
    | some l' => (redrawLoop errorWidth maxw fuel l').map (line :: ·)

def FailLoop.initial (fail : Str) : FailLoop := ⟨fail ++ [nul], 0, ' '⟩

/-- The lines that are drawn.  If `strdup` fails it is one. -/
def redrawFail (errorWidth : Str → Int) (maxw : Int) (strdup : Bool) (fuel : ℕ) (fail : Str) :
    Option (List Str) :=
  if maxw < errorWidth fail ∧ strdup then redrawLoop errorWidth maxw fuel (.initial fail)
  else some [fail]

/-! ### Lines -/

/-- A first line of a text: it ends in front of white space where it has reached the maximum, or
with the text, and in front of no earlier white space it has.  The first character is not looked
at. -/
structure FirstLine (errorWidth : Str → Int) (maxw : Int) (text line behind : Str) : Prop where
  eq : text = line ++ behind
  ne_nil : line ≠ []
  ends : behind = [] ∨ maxw ≤ errorWidth line ∧ ∃ c rest, behind = c :: rest ∧ isSpace c = true
  first : ∀ line' c rest, line' ≠ [] → text = line' ++ c :: rest → isSpace c = true →
    line'.length < line.length → errorWidth line' < maxw

/-- The lines of a text. -/
inductive Lines (errorWidth : Str → Int) (maxw : Int) : Str → List Str → Prop
  | last {text line : Str} : FirstLine errorWidth maxw text line [] →
      Lines errorWidth maxw text [line]
  | cons {text line behind : Str} {c : Char} {lines : List Str} :
      FirstLine errorWidth maxw text line (c :: behind) → Lines errorWidth maxw behind lines →
      Lines errorWidth maxw text (line :: lines)

variable {errorWidth : Str → Int} {maxw : Int} {text line behind line' behind' before : Str}
  {c : Char} {lines : List Str}

/-! ### One line -/

/-- A part of a text that has no white space is behind no break. -/
lemma mem_of_between {start word rest : Str} (heq : start ++ word ++ rest = line' ++ c :: behind')
    (hle : start.length ≤ line'.length) (hlt : line'.length < start.length + word.length) :
    c ∈ word := by
  have hget : (start ++ word ++ rest)[line'.length]? = some c := by
    rw [heq, List.getElem?_append_right (Nat.le_refl _), Nat.sub_self, List.getElem?_cons_zero]
  rw [List.getElem?_append_left (by rw [List.length_append]; exact hlt),
    List.getElem?_append_right hle] at hget
  exact List.mem_of_getElem? hget

lemma scanWord_word {word : Str} (hnul : nul ∉ word) (hword : ∀ c ∈ word, isSpace c = false)
    (hc : c = nul ∨ isSpace c = true) (rest : List Char) (i : ℕ) :
    scanWord (word ++ c :: rest) i = some (i + word.length) := by
  induction word generalizing i with
  | nil => simp [scanWord, hc]
  | cons d word ih =>
    have hd : ¬ (d = nul ∨ isSpace d = true) := by
      rintro (h | h)
      · exact hnul (h ▸ List.mem_cons_self ..)
      · rw [hword d (List.mem_cons_self ..)] at h
        cases h
    rw [List.cons_append, scanWord, if_neg hd,
      ih (fun h => hnul (List.mem_cons_of_mem _ h)) fun e he => hword e (List.mem_cons_of_mem _ he),
      List.length_cons]
    congr 1
    omega

lemma stringAt_append (hnul : nul ∉ text) (before rest : List Char) :
    stringAt (before ++ (text ++ nul :: rest)) before.length = text := by
  rw [stringAt, List.drop_left, List.takeWhile_append_of_pos]
  · simp
  · intro c hc
    simpa using fun h : c = nul => hnul (h ▸ hc)

lemma exists_word (todo : Str) : ∃ word rest, todo = word ++ rest ∧
    (∀ d ∈ word, isSpace d = false) ∧
      (rest = [] ∨ ∃ d tail, rest = d :: tail ∧ isSpace d = true) := by
  induction todo with
  | nil => exact ⟨[], [], rfl, by simp, Or.inl rfl⟩
  | cons e todo ih =>
    by_cases he : isSpace e = true
    · exact ⟨[], e :: todo, rfl, by simp, Or.inr ⟨e, todo, rfl, he⟩⟩
    · obtain ⟨word, rest, rfl, hword, hrest⟩ := ih
      exact ⟨e :: word, rest, rfl, List.forall_mem_cons.2 ⟨Bool.eq_false_iff.2 he, hword⟩, hrest⟩

/-- How the inner loop ends: with the text, or with a line. -/
def Fills (errorWidth : Str → Int) (maxw : Int) (before text : Str)
    (result : Option (List Char × Option ℕ × Char)) : Prop :=
  (∃ lastspace, result = some (before ++ (text ++ [nul]), none, lastspace) ∧
    FirstLine errorWidth maxw text text []) ∨
  ∃ line c rest, result = some (before ++ (line ++ nul :: (rest ++ [nul])),
      some (before.length + line.length), c) ∧
    FirstLine errorWidth maxw text line (c :: rest)

/-- The inner loop, when it has come to the character `x` of the text and has put it back. -/
lemma fillLine_fills (hnul : nul ∉ text) : ∀ (fuel : ℕ) {start : Str} {x : Char} {todo : Str}
    {tempCopy : List Char} {lastspace : Char}, text = start ++ x :: todo → todo.length < fuel →
    putBack before.length tempCopy (before.length + start.length) lastspace =
      some (before ++ (text ++ [nul])) →
    (∀ line' c rest, line' ≠ [] → text = line' ++ c :: rest → isSpace c = true →
      line'.length ≤ start.length → errorWidth line' < maxw) →
    Fills errorWidth maxw before text (fillLine errorWidth maxw before.length fuel tempCopy
      (before.length + start.length) lastspace)
  | 0, _, _, _, _, _, _, hfuel, _, _ => absurd hfuel (Nat.not_lt_zero _)
  | fuel + 1, start, x, todo, tempCopy, lastspace, htext, hfuel, hput, hearly => by
    simp only [fillLine, hput, Option.bind_eq_bind, Option.bind_some]
    -- the word that comes next, and what is behind it
    obtain ⟨word, rest, rfl, hword, hrest⟩ := exists_word todo
    have hlater : ∀ line' c rest', text = line' ++ c :: rest' → isSpace c = true →
        line'.length < (start ++ x :: word).length → line'.length ≤ start.length := by
      intro line' c rest' heq hc hlt
      by_contra hle
      have heq' : start ++ [x] ++ word ++ rest = line' ++ c :: rest' := by
        rw [← heq, htext]
        simp
      rw [List.length_append, List.length_cons] at hlt
      have hmem := mem_of_between heq' (by rw [List.length_append, List.length_singleton]; omega)
        (by rw [List.length_append, List.length_singleton]; omega)
      rw [hword c hmem] at hc
      cases hc
    have hword' : nul ∉ word := fun h => hnul (by simp [htext, h])
    have hcopy : before ++ (text ++ [nul]) =
        before ++ start ++ [x] ++ (word ++ (rest ++ [nul])) := by
      simp [htext]
    have hdrop : (before ++ (text ++ [nul])).drop (before.length + start.length + 1) =
        word ++ (rest ++ [nul]) := by
      rw [hcopy, List.drop_left' (by simp [Nat.add_assoc])]
    rw [hdrop]
    have hnext : before.length + start.length + 1 + word.length =
        (before ++ start ++ [x] ++ word).length := by
      simp only [List.length_append, List.length_singleton]
    rcases hrest with rfl | ⟨d, tail, rfl, hd⟩
    · rw [List.nil_append, scanWord_word hword' hword (Or.inl rfl), Option.bind_some, hcopy, hnext,
        ← List.append_assoc, List.getElem?_append_right (Nat.le_refl _), Nat.sub_self]
      simp only [List.nil_append, List.getElem?_cons_zero, Option.bind_some, if_true]
      rw [List.append_nil] at htext
      refine Or.inl ⟨lastspace, ?_, ⟨(List.append_nil _).symm, by simp [htext], Or.inl rfl, ?_⟩⟩
      · rw [htext]
        simp
      · intro line' c rest' hne heq hc hlt
        exact hearly line' c rest' hne heq hc (hlater line' c rest' heq hc (htext ▸ hlt))
    · have hnotnul : ¬ d = nul := by
        rintro rfl
        exact absurd hd (by decide)
      have hline : before ++ (text ++ [nul]) =
          before ++ start ++ [x] ++ word ++ d :: (tail ++ [nul]) := by
        rw [hcopy, List.append_assoc _ word, List.cons_append]
      have hcut := store_append (before ++ start ++ [x] ++ word) (tail ++ [nul]) d nul
      have hcopy' : before ++ start ++ [x] ++ word ++ nul :: (tail ++ [nul]) =
          before ++ (start ++ x :: word ++ nul :: (tail ++ [nul])) := by simp
      have hnul' : nul ∉ start ++ x :: word := fun h => hnul (by
        rw [htext]
        simp only [List.mem_append, List.mem_cons] at h ⊢
        tauto)
      rw [List.cons_append, scanWord_word hword' hword (Or.inr hd), Option.bind_some, hline, hnext,
        List.getElem?_append_right (Nat.le_refl _), Nat.sub_self, List.getElem?_cons_zero,
        Option.bind_some, if_neg hnotnul, hcut, Option.bind_some, hcopy',
        stringAt_append hnul']
      have htext' : text = start ++ x :: word ++ d :: tail := by
        rw [htext]
        simp
      have hfirst : ∀ line' c rest', line' ≠ [] → text = line' ++ c :: rest' → isSpace c = true →
          line'.length < (start ++ x :: word).length → errorWidth line' < maxw :=
        fun line' c rest' hne heq hc hlt =>
          hearly line' c rest' hne heq hc (hlater line' c rest' heq hc hlt)
      have hpos : (before ++ start ++ [x] ++ word).length =
          before.length + (start ++ x :: word).length := by
        simp
      rw [hpos]
      split_ifs with hwidth
      · -- the line goes on
        refine fillLine_fills hnul fuel htext' ?_ ?_ fun line' c rest' hne heq hc hle => ?_
        · rw [List.length_append, List.length_cons] at hfuel
          omega
        · rw [putBack, if_pos (by rw [List.length_append, List.length_cons]; omega),
            ← List.append_assoc, ← List.length_append, store_append]
          simp [htext]
        · rcases Nat.lt_or_eq_of_le hle with hlt | hlength
          · exact hfirst line' c rest' hne heq hc hlt
          · obtain ⟨rfl, -⟩ := List.append_inj (heq.symm.trans htext') hlength
            exact hwidth
      · exact Or.inr ⟨start ++ x :: word, d, tail, rfl, htext', by simp,
          Or.inr ⟨Int.not_lt.1 hwidth, d, tail, rfl, hd⟩, hfirst⟩

/-- The pass starts at this text. -/
structure FailLoop.At (text : Str) (l : FailLoop) : Prop where
  copy : ∃ before : List Char, l.tempCopy = before ++ (text ++ [nul]) ∧ l.start = before.length
  nul : nul ∉ text

variable {l l' : FailLoop}

/-- A line that starts at the end of the message: the character behind the NUL is read. -/
lemma redrawLine_nil (h : l.At []) : redrawLine errorWidth maxw l = none := by
  obtain ⟨⟨before, hcopy, hstart⟩, -⟩ := h
  have hdrop : (before ++ [nul]).drop (before.length + 1) = [] := by simp
  rw [List.nil_append] at hcopy
  rw [redrawLine, hcopy, hstart, List.length_append, List.length_singleton]
  simp only [fillLine, putBack, ne_eq, not_true_eq_false, if_false, Option.bind_eq_bind,
    Option.bind_some, hdrop, scanWord, Option.bind_none]

/-- One pass draws a first line of the text, and comes to the text behind it. -/
lemma redrawLine_first (errorWidth : Str → Int) (maxw : Int) (h : l.At text) (hne : text ≠ []) :
    (redrawLine errorWidth maxw l = some (text, none) ∧
      FirstLine errorWidth maxw text text []) ∨
    ∃ line c behind l', redrawLine errorWidth maxw l = some (line, some l') ∧ l'.At behind ∧
      FirstLine errorWidth maxw text line (c :: behind) := by
  obtain ⟨⟨before, hcopy, hstart⟩, hnul⟩ := h
  obtain ⟨x, todo, rfl⟩ := List.exists_cons_of_ne_nil hne
  have hfuel : todo.length < (before ++ (x :: todo ++ [nul])).length := by
    simp only [List.length_append, List.length_cons]
    omega
  have hfills : Fills errorWidth maxw before (x :: todo) (fillLine errorWidth maxw before.length
      (before ++ (x :: todo ++ [nul])).length (before ++ (x :: todo ++ [nul]))
      (before.length + ([] : Str).length) l.lastspace) :=
    fillLine_fills hnul _ (List.nil_append _).symm hfuel (by rw [putBack, if_neg (by simp)])
      fun line' c rest hne _ _ hle => absurd (List.length_eq_zero_iff.1 (Nat.le_zero.1 hle)) hne
  rw [List.length_nil, Nat.add_zero] at hfills
  rw [redrawLine, hcopy, hstart]
  rcases hfills with ⟨lastspace, hresult, hfirst⟩ | ⟨line, c, behind, hresult, hfirst⟩
  · refine Or.inl ⟨?_, hfirst⟩
    rw [hresult, Option.bind_eq_bind, Option.bind_some]
    dsimp only
    rw [stringAt_append hnul]
    rfl
  · have hmem : ∀ d, d ∈ line ∨ d ∈ behind → d ∈ x :: todo := by
      intro d hd
      rw [hfirst.eq, List.mem_append, List.mem_cons]
      exact hd.imp_right Or.inr
    have hnul' : nul ∉ line := fun h => hnul (hmem _ (Or.inl h))
    refine Or.inr ⟨line, c, behind, ⟨before ++ (line ++ nul :: (behind ++ [nul])),
      before.length + line.length + 1, c⟩, ?_, ⟨⟨before ++ line ++ [nul], ?_, ?_⟩, fun h =>
      hnul (hmem _ (Or.inr h))⟩, hfirst⟩
    · rw [hresult, Option.bind_eq_bind, Option.bind_some]
      dsimp only
      rw [stringAt_append hnul', Option.map_some]
    · simp
    · simp [Nat.add_assoc]

/-! ### All lines -/

lemma Lines.ne_nil (h : Lines errorWidth maxw text lines) : text ≠ [] := by
  cases h with
  | last h => rw [h.eq]; simpa using h.ne_nil
  | cons h _ => rw [h.eq]; simp

lemma FirstLine.length_le (h : FirstLine errorWidth maxw text line behind)
    (h' : FirstLine errorWidth maxw text line' behind') : line'.length ≤ line.length := by
  by_contra hlt
  rw [Nat.not_le] at hlt
  rcases h.ends with rfl | ⟨hreached, c, rest, rfl, hc⟩
  · have hlength : (line ++ []).length = (line' ++ behind').length := by rw [← h.eq, ← h'.eq]
    rw [List.append_nil, List.length_append] at hlength
    omega
  · exact absurd (h'.first line c rest h.ne_nil h.eq hc hlt) (Int.not_lt.2 hreached)

/-- A text has one first line. -/
lemma FirstLine.unique (h : FirstLine errorWidth maxw text line behind)
    (h' : FirstLine errorWidth maxw text line' behind') : line = line' ∧ behind = behind' :=
  List.append_inj (h.eq.symm.trans h'.eq) (Nat.le_antisymm (h'.length_le h) (h.length_le h'))

/-- The loop draws the lines of its text, and has enough fuel if there is some for each
character. -/
lemma redrawLoop_lines : ∀ (fuel : ℕ) {text : Str} {l : FailLoop}, l.At text →
    (∀ lines, redrawLoop errorWidth maxw fuel l = some lines →
      Lines errorWidth maxw text lines) ∧
    ∀ lines, Lines errorWidth maxw text lines → text.length < fuel →
      redrawLoop errorWidth maxw fuel l = some lines
  | 0, _, _, _ => ⟨fun _ h => (Option.some_ne_none _ h.symm).elim,
    fun _ _ h => absurd h (Nat.not_lt_zero _)⟩
  | fuel + 1, text, l, h => by
    by_cases hne : text = []
    · subst hne
      refine ⟨fun lines hlines => ?_, fun lines hlines => absurd rfl hlines.ne_nil⟩
      rw [redrawLoop, redrawLine_nil h] at hlines
      cases hlines
    rcases redrawLine_first errorWidth maxw h hne with
      ⟨hline, hfirst⟩ | ⟨line, c, behind, l', hline, hl', hfirst⟩
    · have hdraws : redrawLoop errorWidth maxw (fuel + 1) l = some [text] := by
        rw [redrawLoop, hline]
        rfl
      rw [hdraws]
      refine ⟨fun lines hlines => Option.some.inj hlines ▸ .last hfirst, fun lines hlines _ => ?_⟩
      cases hlines with
      | last hlast => rw [(hlast.unique hfirst).1]
      | cons hcons _ => exact absurd (hcons.unique hfirst).2 (List.cons_ne_nil _ _)
    · have hdraws : redrawLoop errorWidth maxw (fuel + 1) l =
          (redrawLoop errorWidth maxw fuel l').map (line :: ·) := by
        rw [redrawLoop, hline]
        rfl
      obtain ⟨hsound, hcomplete⟩ := redrawLoop_lines fuel hl'
      rw [hdraws]
      constructor
      · intro lines hlines
        obtain ⟨rest, hrest, rfl⟩ := Option.map_eq_some_iff.1 hlines
        exact .cons hfirst (hsound rest hrest)
      · intro lines hlines hfuel
        cases hlines with
        | last hlast => exact absurd (hfirst.unique hlast).2 (List.cons_ne_nil _ _)
        | cons hcons hrest =>
          obtain ⟨rfl, heq⟩ := hcons.unique hfirst
          obtain ⟨rfl, rfl⟩ := List.cons.inj heq
          rw [hfirst.eq, List.length_append, List.length_cons] at hfuel
          rw [hcomplete _ hrest (by omega), Option.map_some]

/-! ### Words and widths -/

/-- The words of a text, between white space. -/
def wordsIn (text : Str) : List Str := (text.splitOnP isSpace).filter (· ≠ [])

lemma wordsIn_append (line behind : Str) (hc : isSpace c = true) :
    wordsIn (line ++ c :: behind) = wordsIn line ++ wordsIn behind := by
  rw [wordsIn, List.splitOnP_append_cons _ _ hc, List.filter_append]
  rfl

lemma FirstLine.isSpace (h : FirstLine errorWidth maxw text line (c :: behind)) :
    isSpace c = true := by
  rcases h.ends with hnil | ⟨-, d, rest, heq, hd⟩
  · exact absurd hnil (List.cons_ne_nil _ _)
  · obtain ⟨rfl, -⟩ := List.cons.inj heq
    exact hd

/-- Each word is drawn, in its place. -/
lemma Lines.words (h : Lines errorWidth maxw text lines) :
    lines.flatMap wordsIn = wordsIn text := by
  induction h with
  | last h => rw [h.eq, List.append_nil, List.flatMap_singleton]
  | cons h _ ih => rw [List.flatMap_cons, ih, h.eq, wordsIn_append _ _ h.isSpace]

/-- No line of more than one word is wider than the maximum. -/
def Fits (errorWidth : Str → Int) (maxw : Int) (lines : List Str) : Prop :=
  ∀ line ∈ lines, 1 < (wordsIn line).length → errorWidth line ≤ maxw

instance (errorWidth : Str → Int) (maxw : Int) (lines : List Str) :
    Decidable (Fits errorWidth maxw lines) :=
  inferInstanceAs (Decidable (∀ line ∈ lines, 1 < (wordsIn line).length → errorWidth line ≤ maxw))

/-- What is left of the message at the beginning of a line. -/
inductive Remains (errorWidth : Str → Int) (maxw : Int) (fail : Str) : Str → Prop
  | all : Remains errorWidth maxw fail fail
  | behind {text line behind : Str} {c : Char} : Remains errorWidth maxw fail text →
      FirstLine errorWidth maxw text line (c :: behind) → Remains errorWidth maxw fail behind

/-- There is some text, and it does not pass the maximum behind its first word: a part of more
words that ends in front of white space, or with the text, is not wider unless a shorter one has
reached the maximum. -/
structure Breakable (errorWidth : Str → Int) (maxw : Int) (text : Str) : Prop where
  ne_nil : text ≠ []
  passes : ∀ line behind, text = line ++ behind →
    (behind = [] ∨ ∃ c rest, behind = c :: rest ∧ Xdm.isSpace c = true) →
    1 < (wordsIn line).length → maxw < errorWidth line →
    ∃ line' c rest, line' ≠ [] ∧ text = line' ++ c :: rest ∧ Xdm.isSpace c = true ∧
      line'.length < line.length ∧ maxw ≤ errorWidth line'

lemma breakable_iff (h : FirstLine errorWidth maxw text line behind) :
    Breakable errorWidth maxw text ↔ (1 < (wordsIn line).length → errorWidth line ≤ maxw) := by
  constructor
  · intro hbreak hwords
    by_contra hwide
    obtain ⟨line', c, rest, hne, heq, hc, hlt, hreached⟩ := hbreak.passes line behind h.eq
      (h.ends.imp_right And.right) hwords (Int.not_le.1 hwide)
    exact absurd (h.first line' c rest hne heq hc hlt) (Int.not_lt.2 hreached)
  · intro hfits
    refine ⟨by rw [h.eq]; simpa using fun hnil => absurd hnil h.ne_nil, ?_⟩
    intro line' behind' heq hends hwords hwide
    rcases Nat.lt_trichotomy line'.length line.length with hlt | hlength | hlt
    · -- it has not reached the maximum
      rcases hends with rfl | ⟨c, rest, rfl, hc⟩
      · have := congrArg List.length (heq.symm.trans h.eq)
        rw [List.append_nil, List.length_append] at this
        omega
      · have hne : line' ≠ [] := by
          rintro rfl
          exact absurd hwords (by decide)
        have := h.first line' c rest hne heq hc hlt
        omega
    · obtain ⟨rfl, -⟩ := List.append_inj (heq.symm.trans h.eq) hlength
      exact absurd (hfits hwords) (Int.not_le.2 hwide)
    · rcases h.ends with rfl | ⟨hreached, c, rest, rfl, hc⟩
      · have := congrArg List.length (heq.symm.trans h.eq)
        rw [List.append_nil, List.length_append] at this
        omega
      · exact ⟨line, c, rest, h.ne_nil, h.eq, hc, hlt, hreached⟩

lemma at_initial {fail : Str} (hnul : nul ∉ fail) : (FailLoop.initial fail).At fail :=
  ⟨⟨[], rfl, rfl⟩, hnul⟩

/-- If the lines fit, so do those of what is left. -/
lemma fits_remains {fail : Str} (hlines : Lines errorWidth maxw fail lines)
    (hfits : Fits errorWidth maxw lines) (h : Remains errorWidth maxw fail text) :
    ∃ lines', Lines errorWidth maxw text lines' ∧ Fits errorWidth maxw lines' := by
  induction h with
  | all => exact ⟨lines, hlines, hfits⟩
  | behind _ hfirst ih =>
    obtain ⟨lines', hlines', hfits'⟩ := ih
    cases hlines' with
    | last hlast => exact absurd (hfirst.unique hlast).2 (List.cons_ne_nil _ _)
    | cons hcons hrest =>
      obtain ⟨-, heq⟩ := hcons.unique hfirst
      obtain ⟨-, rfl⟩ := List.cons.inj heq
      exact ⟨_, hrest, fun line hmem => hfits' line (List.mem_cons_of_mem _ hmem)⟩

lemma Remains.nul {fail : Str} (h : Remains errorWidth maxw fail text) (hnul : nul ∉ fail) :
    nul ∉ text := by
  induction h with
  | all => exact hnul
  | behind _ hfirst ih =>
    rw [hfirst.eq] at ih
    exact fun h => ih (List.mem_append_right _ (List.mem_cons_of_mem _ h))

lemma exists_lines {fail : Str} (hnul : nul ∉ fail)
    (hbreak : ∀ text, Remains errorWidth maxw fail text → Breakable errorWidth maxw text) :
    ∀ (n : ℕ) {text : Str}, text.length < n → Remains errorWidth maxw fail text →
      ∃ lines, Lines errorWidth maxw text lines ∧ Fits errorWidth maxw lines
  | 0, _, hlt, _ => absurd hlt (Nat.not_lt_zero _)
  | n + 1, text, hlt, hremains => by
    have hbreakable := hbreak text hremains
    rcases redrawLine_first errorWidth maxw (at_initial (hremains.nul hnul)) hbreakable.ne_nil with
      ⟨-, hfirst⟩ | ⟨line, c, behind, -, -, -, hfirst⟩
    · exact ⟨[text], .last hfirst,
        List.forall_mem_singleton.2 ((breakable_iff hfirst).1 hbreakable)⟩
    · have hlength : behind.length < n := by
        rw [hfirst.eq, List.length_append, List.length_cons] at hlt
        omega
      obtain ⟨lines, hlines, hfits⟩ := exists_lines hnul hbreak n hlength (.behind hremains hfirst)
      exact ⟨line :: lines, .cons hfirst hlines,
        List.forall_mem_cons.2 ⟨(breakable_iff hfirst).1 hbreakable, hfits⟩⟩

/-- For every message, every width function and every maximum: the loop comes to its end inside
the copy, with lines that have the words of the message and fit, if and only if no line is begun
at the end of the message or passes the maximum behind its first word. -/
theorem redrawLoop_iff (errorWidth : Str → Int) (maxw : Int) {fail : Str} (hnul : nul ∉ fail) :
    (∃ fuel lines, redrawLoop errorWidth maxw fuel (.initial fail) = some lines ∧
      lines.flatMap wordsIn = wordsIn fail ∧ Fits errorWidth maxw lines) ↔
    ∀ text, Remains errorWidth maxw fail text → Breakable errorWidth maxw text := by
  constructor
  · rintro ⟨fuel, lines, hlines, -, hfits⟩ text hremains
    have hlines := (redrawLoop_lines fuel (at_initial hnul)).1 lines hlines
    obtain ⟨lines', hlines', hfits'⟩ := fits_remains hlines hfits hremains
    cases hlines' with
    | last hfirst => exact (breakable_iff hfirst).2 (hfits' _ (List.mem_singleton_self _))
    | cons hfirst _ => exact (breakable_iff hfirst).2 (hfits' _ (List.mem_cons_self ..))
  · intro hbreak
    obtain ⟨lines, hlines, hfits⟩ :=
      exists_lines hnul hbreak (fail.length + 1) fail.length.lt_succ_self .all
    exact ⟨fail.length + 1, lines, (redrawLoop_lines _ (at_initial hnul)).2 lines hlines
      fail.length.lt_succ_self, hlines.words, hfits⟩

/-- In a font of one unit for each character. -/
def fixedWidth (s : Str) : Int := s.length

/-- Two words that are as wide as the maximum. -/
theorem redrawLoop_iff_two : Breakable fixedWidth 3 "new pin".toList :=
  (redrawLoop_iff fixedWidth 3 (by decide)).1
    ⟨8, ["new".toList, "pin".toList], by decide, by decide, by decide⟩ _ .all

lemma redrawLoop_unique {fail : Str} (hnul : nul ∉ fail) {fuel fuel' : ℕ} {lines' : List Str}
    (h : redrawLoop errorWidth maxw fuel (.initial fail) = some lines)
    (h' : redrawLoop errorWidth maxw fuel' (.initial fail) = some lines')
    (hfuel : fail.length < fuel') : lines = lines' := by
  have hlines := (redrawLoop_lines fuel (at_initial hnul)).1 lines h
  have h := (redrawLoop_lines fuel' (at_initial hnul)).2 lines hlines hfuel
  exact Option.some.inj (h.symm.trans h')

/-- A line of two words that is wider than the maximum, and a line that is begun behind the last
character, a blank. -/
theorem redrawFail_wide :
    (¬ ∃ fuel lines, redrawFail fixedWidth 2 true fuel "a b c".toList = some lines ∧
      lines.flatMap wordsIn = wordsIn "a b c".toList ∧ Fits fixedWidth 2 lines) ∧
    redrawFail fixedWidth 2 true 6 "a b c".toList = some ["a b".toList, "c".toList] ∧
    ¬ ∃ fuel lines, redrawFail fixedWidth 1 true fuel "a ".toList = some lines := by
  refine ⟨?_, by decide, ?_⟩
  · rintro ⟨fuel, lines, hlines, -, hfits⟩
    rw [redrawFail, if_pos (by decide)] at hlines
    obtain rfl := redrawLoop_unique (by decide) hlines
      (show redrawLoop fixedWidth 2 6 _ = some ["a b".toList, "c".toList] by decide) (by decide)
    exact absurd hfits (by decide)
  · rintro ⟨fuel, lines, hlines⟩
    rw [redrawFail, if_pos (by decide)] at hlines
    have hlines := (redrawLoop_lines fuel (at_initial (by decide))).1 lines hlines
    cases hlines with
    | last hfirst =>
      refine absurd (hfirst.first ['a'] ' ' [] (by simp) rfl rfl ?_) (by decide)
      have hlength := congrArg List.length hfirst.eq
      rw [List.append_nil] at hlength
      exact hlength ▸ (by decide)
    | cons hfirst hrest =>
      have hlength := congrArg List.length hfirst.eq
      have hpos := List.length_pos_iff.2 hfirst.ne_nil
      rw [List.length_append, List.length_cons] at hlength
      have hshort : "a ".toList.length = 2 := rfl
      exact hrest.ne_nil (List.length_eq_zero_iff.1 (by omega))

end Xdm.Greeter
