/-
# The words of a line of the servers file

`Laid words line` says how a line shows its words: white space before each of them, which
may be missing before the first one only, and after the last one white space and a comment.
`splitIntoWords` is the inverse of every such layout, and a line with a name, perhaps a
class, a display type and arguments enters the display that it describes.
-/
import Xdm.ServersFile

namespace Xdm

open Prog

variable {words : List Str} {line rest word gap comment : Str} {c : Char}

/-! ### Layouts -/

/-- White space. -/
def isWhite (gap : Str) : Prop := ∀ c ∈ gap, isSpace c = true

/-- A word: it is not empty, and has no white space and no `#`. -/
def isWord (word : Str) : Prop := word ≠ [] ∧ ∀ c ∈ word, isSpace c = false ∧ c ≠ '#'

/-- Nothing, or a `#` and whatever follows. -/
def isComment (comment : Str) : Prop := ∀ c ∈ comment.head?, c = '#'

/-- A word may end here: at the end of the line, at white space, or at a comment. -/
def endsWord (rest : Str) : Prop := ∀ c ∈ rest.head?, isSpace c = true ∨ c = '#'

/-- The line consists of these words, white space and a comment. -/
inductive Laid : List Str → Str → Prop
  | nothing {gap comment : Str} : isWhite gap → isComment comment → Laid [] (gap ++ comment)
  | word {gap word rest : Str} {words : List Str} : isWhite gap → isWord word →
      endsWord rest → Laid words rest → Laid (word :: words) (gap ++ word ++ rest)

/-- Two lines differ only in white space and comments. -/
def SameWords (line line' : Str) : Prop := ∃ words, Laid words line ∧ Laid words line'

/-! ### Taking a layout apart -/

lemma isSpace_hash : isSpace '#' = false := by decide

lemma splitIntoWordsLoop_white (hgap : isWhite gap) (rest : Str) :
    splitIntoWordsLoop [] (gap ++ rest) = splitIntoWordsLoop [] rest := by
  induction gap with
  | nil => rfl
  | cons c gap ih =>
    have hc : isSpace c = true := hgap c (List.mem_cons_self ..)
    rw [List.cons_append, splitIntoWordsLoop, if_pos hc, if_pos rfl]
    exact ih fun c' hc' => hgap c' (List.mem_cons_of_mem _ hc')

lemma splitIntoWordsLoop_comment (hcomment : isComment comment) :
    splitIntoWordsLoop [] comment = [] := by
  cases comment with
  | nil => rfl
  | cons c cs =>
    obtain rfl : c = '#' := hcomment c rfl
    rw [splitIntoWordsLoop, isSpace_hash, if_neg Bool.false_ne_true, if_pos rfl, if_pos rfl]

/-- The characters of a word are collected. -/
lemma splitIntoWordsLoop_collect {more : Str} (hmore : ∀ c ∈ more, isSpace c = false ∧ c ≠ '#')
    (word rest : Str) :
    splitIntoWordsLoop word (more ++ rest) = splitIntoWordsLoop (word ++ more) rest := by
  induction more generalizing word with
  | nil => rw [List.nil_append, List.append_nil]
  | cons c more ih =>
    obtain ⟨hspace, hhash⟩ := hmore c (List.mem_cons_self ..)
    rw [List.cons_append, splitIntoWordsLoop, hspace, if_neg Bool.false_ne_true, if_neg hhash,
      ih fun c' hc' => hmore c' (List.mem_cons_of_mem _ hc')]
    rw [List.append_assoc, List.singleton_append]

/-- A word that has begun ends at white space, at a comment and with the line. -/
lemma splitIntoWordsLoop_ends (hword : word ≠ []) (hends : endsWord rest) :
    splitIntoWordsLoop word rest = word :: splitIntoWordsLoop [] rest := by
  cases rest with
  | nil => rw [splitIntoWordsLoop, splitIntoWordsLoop, if_neg hword, if_pos rfl]
  | cons c rest =>
    rcases hends c rfl with hspace | rfl
    · simp only [splitIntoWordsLoop, hspace, if_true, if_neg hword]
    · simp only [splitIntoWordsLoop, isSpace_hash, Bool.false_eq_true, if_false, if_true,
        if_neg hword]

/-- Every layout is taken apart into its words. -/
theorem splitIntoWords_of_laid (h : Laid words line) : splitIntoWords line = words := by
  unfold splitIntoWords
  induction h with
  | nothing hgap hcomment =>
    rw [splitIntoWordsLoop_white hgap]
    exact splitIntoWordsLoop_comment hcomment
  | word hgap hword hends _ ih =>
    rw [List.append_assoc, splitIntoWordsLoop_white hgap,
      splitIntoWordsLoop_collect hword.2, List.nil_append, splitIntoWordsLoop_ends hword.1 hends,
      ih]

/-! ### Every line is a layout -/

/-- White space in front changes no word. -/
lemma Laid.cons (hspace : isSpace c = true) (h : Laid words line) : Laid words (c :: line) := by
  have hwhite : ∀ {gap}, isWhite gap → isWhite (c :: gap) := by
    intro gap hgap c' hc'
    rcases List.mem_cons.1 hc' with rfl | hc'
    · exact hspace
    · exact hgap c' hc'
  cases h with
  | nothing hgap hcomment => exact .nothing (hwhite hgap) hcomment
  | word hgap hword hends hrest => exact .word (hwhite hgap) hword hends hrest

lemma Laid.of_comment (hcomment : isComment comment) : Laid [] comment :=
  show Laid [] ([] ++ comment) from .nothing (List.forall_mem_nil _) hcomment

/-- What has been collected, if anything has, is a word in front of the rest. -/
lemma laid_collected (hword : ∀ c ∈ word, isSpace c = false ∧ c ≠ '#') (hends : endsWord rest)
    (h : Laid words rest) :
    Laid (if word = [] then words else word :: words) (word ++ rest) := by
  split_ifs with hnil
  · rw [hnil]
    exact h
  · show Laid (word :: words) ([] ++ word ++ rest)
    exact .word (List.forall_mem_nil _) ⟨hnil, hword⟩ hends h

lemma laid_splitIntoWordsLoop (hword : ∀ c ∈ word, isSpace c = false ∧ c ≠ '#') (line : Str) :
    Laid (splitIntoWordsLoop word line) (word ++ line) := by
  induction line generalizing word with
  | nil =>
    exact laid_collected hword nofun (Laid.of_comment nofun)
  | cons c line ih =>
    rw [splitIntoWordsLoop]
    by_cases hspace : isSpace c = true
    · have hends : endsWord (c :: line) := fun c' hc' => Or.inl (Option.some.inj hc' ▸ hspace)
      rw [if_pos hspace]
      exact laid_collected hword hends ((ih (List.forall_mem_nil _)).cons hspace)
    · rw [if_neg hspace]
      by_cases hhash : c = '#'
      · have hcomment : isComment (c :: line) := fun c' hc' => Option.some.inj hc' ▸ hhash
        have hends : endsWord (c :: line) := fun c' hc' => Or.inr (hcomment c' hc')
        rw [if_pos hhash]
        exact laid_collected hword hends (Laid.of_comment hcomment)
      · have hmore : ∀ c' ∈ word ++ [c], isSpace c' = false ∧ c' ≠ '#' := by
          intro c' hc'
          rcases List.mem_append.1 hc' with hc' | hc'
          · exact hword c' hc'
          · rw [List.mem_singleton.1 hc']
            exact ⟨Bool.eq_false_iff.2 hspace, hhash⟩
        rw [if_neg hhash]
        have h := ih hmore
        rwa [List.append_assoc, List.singleton_append] at h

/-- Every line is a layout of its words. -/
theorem laid_splitIntoWords (line : Str) : Laid (splitIntoWords line) line :=
  laid_splitIntoWordsLoop (List.forall_mem_nil _) line

lemma sameWords_iff {line line' : Str} :
    SameWords line line' ↔ splitIntoWords line = splitIntoWords line' := by
  constructor
  · rintro ⟨words, h, h'⟩
    rw [splitIntoWords_of_laid h, splitIntoWords_of_laid h']
  · intro heq
    exact ⟨_, laid_splitIntoWords line, heq ▸ laid_splitIntoWords line'⟩

/-! ### The display of a line -/

/-- The words that stand for a display in the servers file. -/
def displayWords (name : Str) (className : Option Str) (type : Str) (argv : List Str) : List Str :=
  name :: className.toList ++ type :: argv

/-- A class that is the name of a display type would be taken for it. -/
def isTypeWord (word : Str) : Bool := displayTypes.any fun t => decide (t.1 = word)

lemma parseDisplayType_of_mem {type : Str} {displayType : DisplayType}
    (htype : (type, displayType) ∈ displayTypes) :
    parseDisplayType type = (displayType, false) := by
  simp only [displayTypes, List.mem_cons, List.not_mem_nil, or_false, Prod.mk.injEq] at htype
  rcases htype with ⟨rfl, rfl⟩ | ⟨rfl, rfl⟩ | ⟨rfl, rfl⟩ <;> rfl

lemma parseDisplayType_of_other (hword : isTypeWord word = false) :
    (parseDisplayType word).2 = true := by
  have hfind : displayTypes.find? (fun t => decide (t.1 = word)) = none := by
    rw [List.find?_eq_none]
    intro t ht heq
    rw [isTypeWord, List.any_eq_false] at hword
    exact hword t ht heq
  unfold parseDisplayType
  rw [hfind]

/-- The entry of a line that shows these words. -/
lemma entryOfLine_laid {name type : Str} {className : Option Str} {argv : List Str}
    {displayType : DisplayType} (hclass : className.all (fun c => !isTypeWord c) = true)
    (htype : (type, displayType) ∈ displayTypes)
    (h : Laid (displayWords name className type argv) line) :
    entryOfLine line = some ⟨name, displayType, className, argv⟩ := by
  have hparse := parseDisplayType_of_mem htype
  unfold entryOfLine
  rw [splitIntoWords_of_laid h]
  cases className with
  | none =>
    -- the second word is the type, and the arguments are all others
    cases argv with
    | nil => simp [displayWords, parseTypeWords, hparse]
    | cons arg argv => simp [displayWords, parseTypeWords, hparse]
  | some className =>
    have hother := parseDisplayType_of_other (Bool.not_eq_true' _ ▸ hclass)
    simp [displayWords, parseTypeWords, hparse, hother]

/-- On an empty list a line enters its display. -/
lemma parseDisplay_enters {e : Entry} {s : State} (hline : entryOfLine line = some e)
    (hempty : s.displays = []) :
    parseDisplay line s = some ((), s.enter (e.display s.nextAddr)) := by
  have hnone : ∀ d ∈ s.displays, d.addr ≠ s.nextAddr := by
    rw [hempty]
    exact List.forall_mem_nil _
  have hfind : findDisplayByName e.name s.displays = none := by rw [hempty]; rfl
  rw [parseDisplay_missing hline hfind, writeDisplay_enter _ hnone rfl]
  rfl

lemma parseDisplay_sameWords {line line' : Str} (h : SameWords line line') (s : State) :
    parseDisplay line s = parseDisplay line' s := by
  unfold parseDisplay
  rw [sameWords_iff.1 h]

/-- For every name, class that is no display type, display type and arguments, and every line
that shows them as its words: on an empty list `ParseDisplay` enters one display, with exactly
these.  Lines that differ only in white space and comments do the same to every list. -/
theorem parseDisplay_round_trip {name type : Str} {className : Option Str} {argv : List Str}
    {displayType : DisplayType} {s : State}
    (hclass : className.all (fun c => !isTypeWord c) = true)
    (htype : (type, displayType) ∈ displayTypes)
    (h : Laid (displayWords name className type argv) line) (hempty : s.displays = []) :
    (∃ s' d, parseDisplay line s = some ((), s') ∧ s'.displays = [d] ∧ d.name = name ∧
      d.className = className ∧ d.displayType = displayType ∧ d.argv = some argv) ∧
    ∀ line₁ line₂ t, SameWords line₁ line₂ → parseDisplay line₁ t = parseDisplay line₂ t := by
  refine ⟨?_, fun line₁ line₂ t hsame => parseDisplay_sameWords hsame t⟩
  have hline := entryOfLine_laid hclass htype h
  refine ⟨_, Entry.display ⟨name, displayType, className, argv⟩ s.nextAddr,
    parseDisplay_enters hline hempty, ?_, rfl, rfl, rfl, rfl⟩
  show _ :: s.displays = _
  rw [hempty]

/-- A dynamic display of a class, with two arguments and a comment. -/
theorem parseDisplay_round_trip_dynamic : ∃ s' d,
    parseDisplay "\t:1  Visual dynamic\t/usr/bin/X :1# second seat".toList
      (State.initial Config.plain 0) = some ((), s') ∧ s'.displays = [d] ∧
    d.className = some "Visual".toList ∧
    d.displayType = ⟨.localHost, .transient, .fromFile⟩ ∧
    d.argv = some ["/usr/bin/X".toList, ":1".toList] := by
  have hlaid := laid_splitIntoWords "\t:1  Visual dynamic\t/usr/bin/X :1# second seat".toList
  have hwords : splitIntoWords "\t:1  Visual dynamic\t/usr/bin/X :1# second seat".toList =
      displayWords ":1".toList (some "Visual".toList) "dynamic".toList
        ["/usr/bin/X".toList, ":1".toList] := by
    decide +kernel
  rw [hwords] at hlaid
  have htype : ("dynamic".toList, ⟨.localHost, .transient, .fromFile⟩) ∈ displayTypes := by
    decide +kernel
  obtain ⟨s', d, hparse, hdisplays, -, hclass, htype, hargv⟩ :=
    (parseDisplay_round_trip (s := State.initial Config.plain 0) (by decide +kernel) htype hlaid
      rfl).1
  exact ⟨s', d, hparse, hdisplays, hclass, htype, hargv⟩

end Xdm
