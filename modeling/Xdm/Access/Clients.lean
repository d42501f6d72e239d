/-
# Which clients an entry is for

An entry of the access file is for the clients that its pattern matches, or for the one that its
host name means.

`patternMatch` (`xdm/access.c`) is the matcher `Glob.scan` on the tokens of its pattern, so that
it is right about every string but those that leave nothing to two stars at the end.  A pattern
that ends in a backslash has no tokens; on some strings `patternMatch` then leaves both of its
arguments.  A host name means the first address that it resolves to, and no other.
-/
import Mathlib.Data.List.Find
import Xdm.Lib.Glob
import Xdm.Access.Macros

namespace Xdm

open Glob (Matches)

variable {w : World} {pattern string p s : Str} {ts : List (Glob.Token Char)}

/-! ### The tokens of a pattern -/

/-- Letters are compared without regard to case. -/
def sameLetter (a b : Char) : Bool := a.toLower == b.toLower

/-- The tokens of a pattern; none if it ends in a backslash that no other one escapes. -/
def patternTokens : Str → Option (List (Glob.Token Char))
  | [] => some []
  | '*' :: ps => (patternTokens ps).map (.star :: ·)
  | '?' :: ps => (patternTokens ps).map (.any :: ·)
  | ['\\'] => none
  | '\\' :: p :: ps => (patternTokens ps).map (.letter p :: ·)
  | p :: ps => (patternTokens ps).map (.letter p :: ·)

lemma patternTokens_eq_nil (h : patternTokens p = some []) : p = [] := by
  unfold patternTokens at h
  split at h
  · rfl
  all_goals simp at h

lemma matchRests_eq (f : Str → Bool) (s : Str) : matchRests f s = Glob.anyRest f s := by
  induction s with
  | nil => rfl
  | cons c s ih => rw [matchRests, Glob.anyRest, ih]

/-- `patternMatch` is the matcher of the library. -/
lemma patternMatch_eq_scan (h : patternTokens p = some ts) :
    patternMatch w p s = Glob.scan sameLetter ts s := by
  induction p using patternTokens.induct generalizing ts s with
  | case1 =>
    obtain rfl := Option.some.inj h
    cases s <;> rfl
  | case2 ps ih =>
    obtain ⟨ts, hts, rfl⟩ := Option.map_eq_some_iff.1 h
    rw [patternMatch]
    split_ifs with hps
    · subst hps
      obtain rfl := Option.some.inj hts
      rfl
    · obtain ⟨t, ts, rfl⟩ := List.exists_cons_of_ne_nil
        (l := ts) (fun hnil => hps (patternTokens_eq_nil (hnil ▸ hts)))
      rw [Glob.scan, matchRests_eq, funext fun s => ih (s := s) hts]
  | case3 ps ih =>
    obtain ⟨ts, hts, rfl⟩ := Option.map_eq_some_iff.1 h
    cases s with
    | nil => rfl
    | cons c s => exact ih hts
  | case4 => cases h
  | case5 q ps ih =>
    obtain ⟨ts, hts, rfl⟩ := Option.map_eq_some_iff.1 h
    cases s with
    | nil => rfl
    | cons c s => rw [patternMatch, Glob.scan, ih hts, sameLetter]
  | case6 q ps hstar hany hlast hslash ih =>
    rw [patternTokens] at h
    · obtain ⟨ts, hts, rfl⟩ := Option.map_eq_some_iff.1 h
      cases s with
      | nil => rw [patternMatch, Glob.scan] <;> assumption
      | cons c s =>
        rw [patternMatch, Glob.scan, ih hts, sameLetter] <;> assumption
    all_goals assumption

/-- For every pattern with tokens and every string: `patternMatch` says whether the pattern
matches the whole string, if and only if the string is not overlooked. -/
theorem patternMatch_right_iff (w : World) (pattern string : Str) (ts : List (Glob.Token Char))
    (h : patternTokens pattern = some ts) :
    (patternMatch w pattern string = true ↔ Matches sameLetter ts string) ↔
      ¬ Glob.Overlooked sameLetter ts string := by
  rw [patternMatch_eq_scan h]
  exact Glob.scan_iff_matches

/-- A star in the middle is matched by the empty sequence too. -/
theorem patternMatch_right_inside :
    patternMatch World.silent "lab*.org".toList "LAB.org".toList = true ↔
      Matches sameLetter (("lab".toList.map .letter ++ .star :: ".org".toList.map .letter))
        "LAB.org".toList := by
  refine (patternMatch_right_iff World.silent "lab*.org".toList "LAB.org".toList _ rfl).2 ?_
  rintro ⟨q, hq, -⟩
  have hlast := congrArg List.getLast? hq
  simp at hlast

/-- Two stars after a host name match it, and `patternMatch` says that they do not. -/
theorem patternMatch_overlooks : ∃ ts, patternTokens "lab**".toList = some ts ∧
    ¬ (patternMatch World.silent "lab**".toList "lab".toList = true ↔
      Matches sameLetter ts "lab".toList) := by
  refine ⟨"lab".toList.map .letter ++ [.star, .star], rfl, fun hiff => ?_⟩
  have hmatches : Matches sameLetter ("lab".toList.map .letter ++ [.star, .star])
      "lab".toList := by
    refine Glob.matches_stars.2 ⟨"lab".toList, List.prefix_refl _, ?_⟩
    exact .letter rfl (.letter rfl (.letter rfl .nil))
  exact absurd (hiff.2 hmatches) (by decide)

/-! ### Leaving the arguments -/

/-- The loop of `patternMatch` after a star; it ends with the first call that leaves its
arguments. -/
def matchRestsIn (f : Str → Option Bool) : Str → Option Bool
  | [] => some false
  | c :: cs =>
    match f (c :: cs) with
    | none => none
    | some true => some true
    | some false => matchRestsIn f cs

/-- `patternMatch` with the reads of its two pointers: `none` if one of them goes behind the
NUL it ends at.  A backslash takes the character behind it, which is the NUL if it is the last
one, and then stands for it; if the string is at its NUL as well the two are the same, and the
next turn reads behind both. -/
def patternMatchIn : (pattern string : Str) → Option Bool
  | [], s => some (s == [])
  | '*' :: ps, s => if ps = [] then some true else matchRestsIn (patternMatchIn ps) s
  | '?' :: _, [] => some false
  | '?' :: ps, _ :: s => patternMatchIn ps s
  | ['\\'], [] => none
  | ['\\'], _ :: _ => some false
  | '\\' :: _ :: _, [] => some false
  | '\\' :: p :: ps, c :: s =>
    if p.toLower == c.toLower then patternMatchIn ps s else some false
  | _ :: _, [] => some false
  | p :: ps, c :: s => if p.toLower == c.toLower then patternMatchIn ps s else some false

lemma matchRestsIn_some {f : Str → Option Bool} {g : Str → Bool} {b : Bool}
    (hf : ∀ s b, f s = some b → g s = b) (h : matchRestsIn f s = some b) :
    matchRests g s = b := by
  induction s with
  | nil => exact Option.some.inj h
  | cons c s ih =>
    rw [matchRestsIn] at h
    rw [matchRests]
    rcases hfc : f (c :: s) with _ | _ | _
    · rw [hfc] at h
      exact nomatch h
    · rw [hfc] at h
      rw [hf _ _ hfc, ih h]
      rfl
    · rw [hfc] at h
      rw [hf _ _ hfc, Bool.true_or]
      exact Option.some.inj h

/-- A letter, escaped or not, in front of a pattern. -/
def letterThen (p : Char) (f : Str → Option Bool) : Str → Option Bool
  | [] => some false
  | c :: s => if p.toLower == c.toLower then f s else some false

lemma patternMatchIn_escaped (q : Char) (ps s : Str) :
    patternMatchIn ('\\' :: q :: ps) s = letterThen q (patternMatchIn ps) s := by
  cases s <;> rfl

lemma patternMatchIn_letter {q : Char} {ps : Str} (hstar : q = '*' → False)
    (hany : q = '?' → False) (hlast : q = '\\' → ps = [] → False)
    (hslash : ∀ p ps', q = '\\' → ps = p :: ps' → False) (s : Str) :
    patternMatchIn (q :: ps) s = letterThen q (patternMatchIn ps) s := by
  cases s <;> rw [patternMatchIn, letterThen] <;> assumption

lemma letterThen_some {f : Str → Option Bool} {g : Str → Bool} {q c : Char} {b : Bool}
    (hf : ∀ b, f s = some b → g s = b) (h : letterThen q f (c :: s) = some b) :
    (q.toLower == c.toLower && g s) = b := by
  rw [letterThen] at h
  split_ifs at h with hq
  · rw [hq, hf b h, Bool.true_and]
  · rw [Bool.not_eq_true] at hq
    rw [hq, Bool.false_and]
    exact Option.some.inj h

/-- A letter adds no result but that there is no match. -/
lemma letterThen_ne {f : Str → Option Bool} {q : Char} {b : Option Bool} (hb : b ≠ some false)
    (hf : ∀ s, f s ≠ b) : letterThen q f s ≠ b := by
  cases s with
  | nil => exact hb.symm
  | cons c s =>
    rw [letterThen]
    split_ifs
    · exact hf s
    · exact hb.symm

lemma letterThen_eq_none {f : Str → Option Bool} {q : Char}
    (hf : ∀ s, f s = none ↔ ts.getLast? ≠ some .star ∧ Matches sameLetter ts s) :
    letterThen q f s = none ↔ (Glob.Token.letter q :: ts).getLast? ≠ some .star ∧
      Matches sameLetter (.letter q :: ts) s := by
  cases s with
  | nil => simp [letterThen]
  | cons c s =>
    rw [letterThen, Glob.matches_letter_cons, sameLetter]
    split_ifs with hq
    · rw [hf]
      cases ts <;> simp [List.getLast?_cons, hq]
    · simp [hq]

/-- Where it stays inside, it is `patternMatch`. -/
lemma patternMatch_of_patternMatchIn {b : Bool} (h : patternMatchIn p s = some b) :
    patternMatch w p s = b := by
  induction p using patternTokens.induct generalizing s b with
  | case1 => exact Option.some.inj h
  | case2 ps ih =>
    rw [patternMatchIn] at h
    rw [patternMatch]
    split_ifs at h ⊢ with hps
    · exact Option.some.inj h
    · exact matchRestsIn_some (fun s b => ih) h
  | case3 ps ih =>
    cases s with
    | nil => exact Option.some.inj h
    | cons c s => exact ih h
  | case4 =>
    cases s with
    | nil => exact nomatch h
    | cons c s => exact Option.some.inj h
  | case5 q ps ih =>
    cases s with
    | nil => exact Option.some.inj h
    | cons c s =>
      rw [patternMatchIn_escaped] at h
      exact letterThen_some (fun b => ih) h
  | case6 q ps hstar hany hlast hslash ih =>
    rw [patternMatchIn_letter hstar hany hlast hslash] at h
    cases s with
    | nil =>
      rw [patternMatch] <;> try assumption
      exact Option.some.inj h
    | cons c s =>
      rw [patternMatch] <;> try assumption
      exact letterThen_some (fun b => ih) h

/-- The tokens in front of an unescaped backslash that ends the pattern; none if there is no
such backslash. -/
def unfinished : Str → Option (List (Glob.Token Char))
  | [] => none
  | '*' :: ps => (unfinished ps).map (.star :: ·)
  | '?' :: ps => (unfinished ps).map (.any :: ·)
  | ['\\'] => some []
  | '\\' :: p :: ps => (unfinished ps).map (.letter p :: ·)
  | p :: ps => (unfinished ps).map (.letter p :: ·)

/-- The pattern ends in a backslash that nothing escapes, what stands in front of it does not
end in a star, and matches the whole string. -/
def Overruns (pattern string : Str) : Prop :=
  ∃ ts, unfinished pattern = some ts ∧ ts.getLast? ≠ some .star ∧ Matches sameLetter ts string

/-- Nothing matches a pattern that ends in such a backslash. -/
lemma patternMatchIn_ne_true (h : unfinished p = some ts) : patternMatchIn p s ≠ some true := by
  induction p using unfinished.induct generalizing ts s with
  | case1 => exact nomatch h
  | case2 ps ih =>
    obtain ⟨ts, hts, rfl⟩ := Option.map_eq_some_iff.1 h
    have hps : ps ≠ [] := fun hps => nomatch hps ▸ hts
    rw [patternMatchIn, if_neg hps]
    induction s with
    | nil => simp [matchRestsIn]
    | cons c s ihs =>
      rw [matchRestsIn]
      rcases hc : patternMatchIn ps (c :: s) with _ | _ | _
      · simp
      · exact ihs
      · exact absurd hc (ih hts)
  | case3 ps ih =>
    obtain ⟨ts, hts, rfl⟩ := Option.map_eq_some_iff.1 h
    cases s with
    | nil => simp [patternMatchIn]
    | cons c s => exact ih hts
  | case4 => cases s <;> simp [patternMatchIn]
  | case5 q ps ih =>
    obtain ⟨ts, hts, rfl⟩ := Option.map_eq_some_iff.1 h
    rw [patternMatchIn_escaped]
    exact letterThen_ne (by simp) fun s => ih hts
  | case6 q ps hstar hany hlast hslash ih =>
    rw [unfinished] at h <;> try assumption
    obtain ⟨ts, hts, rfl⟩ := Option.map_eq_some_iff.1 h
    rw [patternMatchIn_letter hstar hany hlast hslash]
    exact letterThen_ne (by simp) fun s => ih hts

/-- A loop in which no call succeeds leaves the arguments with the first call that does. -/
lemma matchRestsIn_eq_none {f : Str → Option Bool} (hf : ∀ s, f s ≠ some true) :
    matchRestsIn f s = none ↔ ∃ t, t <:+ s ∧ t ≠ [] ∧ f t = none := by
  induction s with
  | nil => simp [matchRestsIn]
  | cons c s ih =>
    rw [matchRestsIn]
    simp only [List.suffix_cons_iff]
    rcases hc : f (c :: s) with _ | _ | _
    · exact iff_of_true rfl ⟨c :: s, Or.inl rfl, by simp, hc⟩
    · refine ih.trans ⟨fun ⟨t, ht, hne, h⟩ => ⟨t, Or.inr ht, hne, h⟩, ?_⟩
      rintro ⟨t, rfl | ht, hne, h⟩
      · exact absurd (hc.symm.trans h) (by simp)
      · exact ⟨t, ht, hne, h⟩
    · exact absurd hc (hf _)

/-- A pattern with no such backslash keeps `patternMatch` inside. -/
lemma patternMatchIn_ne_none (h : unfinished p = none) : patternMatchIn p s ≠ none := by
  induction p using unfinished.induct generalizing s with
  | case1 => simp [patternMatchIn]
  | case2 ps ih =>
    rw [unfinished, Option.map_eq_none_iff] at h
    rw [patternMatchIn]
    split_ifs
    · simp
    · induction s with
      | nil => simp [matchRestsIn]
      | cons c s ihs =>
        rw [matchRestsIn]
        rcases hc : patternMatchIn ps (c :: s) with _ | _ | _
        · exact absurd hc (ih h)
        · exact ihs
        · simp
  | case3 ps ih =>
    rw [unfinished, Option.map_eq_none_iff] at h
    cases s with
    | nil => simp [patternMatchIn]
    | cons c s => exact ih h
  | case4 => exact nomatch h
  | case5 q ps ih =>
    rw [unfinished, Option.map_eq_none_iff] at h
    rw [patternMatchIn_escaped]
    exact letterThen_ne (by simp) fun s => ih h
  | case6 q ps hstar hany hlast hslash ih =>
    rw [unfinished] at h <;> try assumption
    rw [Option.map_eq_none_iff] at h
    rw [patternMatchIn_letter hstar hany hlast hslash]
    exact letterThen_ne (by simp) fun s => ih h

/-- Where there is one, `patternMatch` leaves its arguments on the strings that what stands in
front of it matches. -/
lemma patternMatchIn_eq_none (h : unfinished p = some ts) : patternMatchIn p s = none ↔
    ts.getLast? ≠ some .star ∧ Matches sameLetter ts s := by
  induction p using unfinished.induct generalizing ts s with
  | case1 => exact nomatch h
  | case2 ps ih =>
    obtain ⟨ts, hts, rfl⟩ := Option.map_eq_some_iff.1 h
    have hps : ps ≠ [] := fun hps => nomatch hps ▸ hts
    rw [patternMatchIn, if_neg hps, matchRestsIn_eq_none fun s => patternMatchIn_ne_true hts,
      Glob.matches_star]
    simp only [ih hts, List.getLast?_cons]
    constructor
    · rintro ⟨t, ht, hne, hlast, h⟩
      refine ⟨?_, t, ht, h⟩
      cases ts with
      | nil => exact absurd (Glob.matches_nil.1 h) hne
      | cons a ts => simpa [List.getLast?_cons] using hlast
    · rintro ⟨hlast, t, ht, h⟩
      have hts' : ts ≠ [] := by
        rintro rfl
        simp at hlast
      obtain ⟨a, ha⟩ : ∃ a, ts.getLast? = some a := by
        simpa [List.getLast?_isSome] using Option.isSome_iff_exists.1
          (List.getLast?_isSome.2 hts')
      rw [ha, Option.getD_some] at hlast
      refine ⟨t, ht, ?_, by rwa [ha], h⟩
      rintro rfl
      exact hlast (by rw [Glob.matches_empty.1 h a (List.mem_of_getLast? ha)])
  | case3 ps ih =>
    obtain ⟨ts, hts, rfl⟩ := Option.map_eq_some_iff.1 h
    cases s with
    | nil => simp [patternMatchIn]
    | cons c s =>
      rw [patternMatchIn, ih hts, Glob.matches_any_cons]
      cases ts <;> simp [List.getLast?_cons]
  | case4 =>
    obtain rfl := Option.some.inj h
    cases s <;> simp [patternMatchIn]
  | case5 q ps ih =>
    obtain ⟨ts, hts, rfl⟩ := Option.map_eq_some_iff.1 h
    rw [patternMatchIn_escaped]
    exact letterThen_eq_none fun s => ih hts
  | case6 q ps hstar hany hlast hslash ih =>
    rw [unfinished] at h <;> try assumption
    obtain ⟨ts, hts, rfl⟩ := Option.map_eq_some_iff.1 h
    rw [patternMatchIn_letter hstar hany hlast hslash]
    exact letterThen_eq_none fun s => ih hts

/-- `patternMatch` leaves its arguments if and only if the pattern overruns the string. -/
theorem patternMatchIn_none_iff : patternMatchIn p s = none ↔ Overruns p s := by
  cases h : unfinished p with
  | none =>
    refine iff_of_false (patternMatchIn_ne_none h) ?_
    rintro ⟨ts, hts, -⟩
    exact nomatch h.symm.trans hts
  | some ts =>
    rw [patternMatchIn_eq_none h]
    constructor
    · rintro ⟨hlast, hm⟩
      exact ⟨ts, h, hlast, hm⟩
    · rintro ⟨ts', hts', hlast, hm⟩
      obtain rfl := Option.some.inj (h.symm.trans hts')
      exact ⟨hlast, hm⟩

/-! ### The calls for a client -/

/-- A call of `patternMatch`. -/
structure PatternCall where
  pattern : Str
  string : Str
deriving DecidableEq

/-- The macros that the host lists of the database refer to. -/
def references (database : List DisplayEntry) : List Str :=
  database.flatMap fun d => d.hosts.filterMap fun h =>
    match h.entry with
    | .alias aliasName => some aliasName
    | _ => none

/-- The calls that scans of the database for a client can make: the pattern of an entry is
compared with the name of the client, the name of a macro with a reference. -/
def patternCalls (database : List DisplayEntry) (clientName : Str) : List PatternCall :=
  database.flatMap fun d =>
    match d.entry with
    | .pattern displayPattern => [⟨displayPattern, clientName⟩]
    | .alias aliasName => (references database).map fun reference => ⟨aliasName, reference⟩
    | _ => []

/-- For every access file, resolver and client: the calls stay inside their arguments, if and
only if none of them is for a pattern that overruns its string. -/
theorem patternCalls_inside_iff (w : World) (cfg : Config) (clientName : Str) :
    (∀ c ∈ patternCalls (scanAccessDatabase w cfg) clientName,
      patternMatchIn c.pattern c.string ≠ none) ↔
    ∀ c ∈ patternCalls (scanAccessDatabase w cfg) clientName, ¬ Overruns c.pattern c.string := by
  simp only [ne_eq, patternMatchIn_none_iff]

/-- An access file with the line `*.lab\\\\`, in which the first backslash escapes the second
one. -/
def World.escaping : World :=
  { World.silent with accessText := some "*.lab\\\\\n".toList }

/-- A client whose name ends like that takes `patternMatch` out of both of its arguments. -/
theorem patternCalls_escape : ∃ c ∈ patternCalls (scanAccessDatabase World.escaping Config.plain)
    "x.lab".toList, patternMatchIn c.pattern c.string = none :=
  ⟨⟨"*.lab\\".toList, "x.lab".toList⟩, by decide +kernel, by decide +kernel⟩

/-! ### The scans make no other calls -/

section Calls

variable {database : List DisplayEntry} {addr : ARRAY8} {connectionType : CARD16}
variable {broadcast stray : Bool} {clientName : Str} {d : DisplayEntry}

/-- The world with something else behind the strings. -/
def World.straying (w : World) (stray : Bool) : World := { w with strayMatch := stray }

/-- None of the calls leaves its arguments. -/
def Inside (calls : List PatternCall) : Prop :=
  ∀ c ∈ calls, patternMatchIn c.pattern c.string ≠ none

lemma patternMatch_straying (h : patternMatchIn p s ≠ none) :
    patternMatch (w.straying stray) p s = patternMatch w p s := by
  obtain ⟨b, hb⟩ := Option.ne_none_iff_exists'.1 h
  rw [patternMatch_of_patternMatchIn hb, patternMatch_of_patternMatchIn hb]

lemma matchesClient_straying (hinside : Inside (patternCalls database clientName))
    (hname : (networkAddressToHostname w connectionType addr).getD [] = clientName)
    (hd : d ∈ database) :
    matchesClient (w.straying stray) addr connectionType d =
      matchesClient w addr connectionType d := by
  unfold matchesClient
  split
  case h_3 displayPattern hentry =>
    refine patternMatch_straying (hinside ⟨displayPattern, _⟩ ?_)
    exact List.mem_flatMap.2 ⟨d, hd, by
      rw [hentry]; exact List.mem_singleton.2 (congrArg _ hname)⟩
  all_goals rfl

/-- A macro name is compared with a reference that some host list makes. -/
lemma defines_straying (hinside : Inside (patternCalls database clientName)) {reference : Str}
    (href : reference ∈ references database) (hd : d ∈ database) :
    d.defines (w.straying stray) reference = d.defines w reference := by
  unfold DisplayEntry.defines
  split
  case h_1 aliasName hentry =>
    refine patternMatch_straying (hinside ⟨aliasName, reference⟩ ?_)
    exact List.mem_flatMap.2 ⟨d, hd, by rw [hentry]; exact List.mem_map_of_mem href⟩
  case h_2 => rfl

lemma mem_references {h : HostEntry} {reference : Str} (hd : d ∈ database) (hh : h ∈ d.hosts)
    (hentry : h.entry = .alias reference) : reference ∈ references database :=
  List.mem_flatMap.2 ⟨d, hd, List.mem_filterMap.2 ⟨h, hh, by rw [hentry]⟩⟩

/-- Induction on the macro levels that are left. -/
lemma scanHost_straying (hinside : Inside (patternCalls database clientName)) {n : Nat}
    {h : HostEntry} (hd : d ∈ database) (hh : h ∈ d.hosts) :
    scanHost (w.straying stray) database connectionType broadcast n h =
      scanHost w database connectionType broadcast n h := by
  induction n generalizing d h with
  | zero =>
    unfold scanHost
    cases hentry : h.entry <;> rfl
  | succ n ih =>
    unfold scanHost
    rcases hentry : h.entry with reference | _ | _ | _ | _ | _
    -- the macros that are followed are the same, and so is what their lists give
    · change HostScan.join ((database.filter (DisplayEntry.defines _ reference)).map _) =
        HostScan.join ((database.filter (DisplayEntry.defines w reference)).map _)
      rw [List.filter_congr fun e he =>
        defines_straying hinside (mem_references hd hh hentry) he]
      refine congrArg HostScan.join (List.map_congr_left fun e he => ?_)
      have he : e ∈ database := (List.mem_filter.1 he).1
      exact congrArg HostScan.join (List.map_congr_left fun h hh => ih he hh)
    all_goals rfl

lemma scanHostlist_straying (hinside : Inside (patternCalls database clientName))
    (hd : d ∈ database) :
    scanHostlist (w.straying stray) database connectionType 0 broadcast d.hosts =
      scanHostlist w database connectionType 0 broadcast d.hosts :=
  congrArg HostScan.join (List.map_congr_left fun _ hh => scanHost_straying hinside hd hh)

lemma scanDatabase_straying {α : Type} {stop : α} {act act' : DisplayEntry → α}
    (hinside : Inside (patternCalls database clientName))
    (hname : (networkAddressToHostname w connectionType addr).getD [] = clientName)
    (hact : ∀ d ∈ database, act' d = act d) {rest : List DisplayEntry} (hrest : rest ⊆ database) :
    scanDatabase (w.straying stray) addr connectionType stop act' rest =
      scanDatabase w addr connectionType stop act rest := by
  induction rest with
  | nil => rfl
  | cons d ds ih =>
    obtain ⟨hd, hds⟩ := List.cons_subset.1 hrest
    unfold scanDatabase
    rw [matchesClient_straying hinside hname hd, hact d hd, ih hds]

/-- What the scans for a client answer does not depend on what lies behind the strings, where
the calls of `patternCalls` stay inside: the scans make no others. -/
theorem scans_straying (w : World) (cfg : Config) (database : List DisplayEntry)
    (choice : Option ARRAY8) (addr : ARRAY8) (connectionType : CARD16) (type : XdmOpCode)
    (stray : Bool)
    (hinside : Inside (patternCalls database
      ((networkAddressToHostname w connectionType addr).getD []))) :
    acceptableDisplayAddress (w.straying stray) cfg database addr connectionType type =
      acceptableDisplayAddress w cfg database addr connectionType type ∧
    forEachMatchingIndirectHostLoop (w.straying stray) database choice addr connectionType
        database =
      forEachMatchingIndirectHostLoop w database choice addr connectionType database ∧
    useChooserLoop (w.straying stray) choice addr connectionType database =
      useChooserLoop w choice addr connectionType database ∧
    forEachChooserHost (w.straying stray) database addr connectionType =
      forEachChooserHost w database addr connectionType := by
  refine ⟨?_, ?_, ?_, ?_⟩
  · have hentry : directEntry (w.straying stray) database addr connectionType =
        directEntry w database addr connectionType := by
      refine List.find?_congr fun d hd => ?_
      rw [matchesClient_straying hinside rfl hd]
    unfold acceptableDisplayAddress
    rw [hentry]
  · refine scanDatabase_straying hinside rfl (fun d hd => ?_) (List.Subset.refl _)
    rw [scanHostlist_straying hinside hd]
    rfl
  · exact scanDatabase_straying hinside rfl (fun _ _ => rfl) (List.Subset.refl _)
  · have hloop : forEachChooserHostLoop (w.straying stray) database addr connectionType database =
        forEachChooserHostLoop w database addr connectionType database := by
      refine scanDatabase_straying hinside rfl (fun d hd => ?_) (List.Subset.refl _)
      rw [scanHostlist_straying hinside hd]
    unfold forEachChooserHost
    rw [hloop]
    rfl

end Calls

/-! ### Host names -/

/-- The name in the first word of a line. -/
def hostName (word : Str) : Str := if word.head? = some '!' then word.tail else word

/-- The first word of a line is a host name. -/
def namesHost (word : Str) : Bool :=
  word.head? ≠ some '%' ∧ word ≠ listenString ∧ hasGlobCharacters (hostName word) = false

/-- The IPv4 and IPv6 addresses that a name resolves to. -/
def hostAddresses (resolver : Str → List SockAddr) (name : Str) : List (ARRAY8 × CARD16) :=
  (resolver name).filterMap fun
    | .inet _ addr => some (addr.1, familyInternet)
    | .inet6 _ addr _ => some (addr.1, familyInternet6)
    | _ => none

/-- The entry has been made of this word. -/
def DisplayEntry.MadeOf (resolver : Str → List SockAddr) (word : Str) (d : DisplayEntry) : Prop :=
  displayOf resolver word = some (d.entry, d.notAllowed)

variable {resolver : Str → List SockAddr} {word : Str} {d : DisplayEntry}
variable {addr : ARRAY8} {connectionType : CARD16}

lemma displayOf_host (hhost : namesHost word = true) : displayOf resolver word =
    (firstAddress resolver (hostName word)).map fun a =>
      (DisplayOrAlias.address a.1 a.2, decide (word.head? = some '!')) := by
  simp only [namesHost, decide_eq_true_eq] at hhost
  obtain ⟨hdefined, hlisten, hglob⟩ := hhost
  unfold displayOf hostName at *
  rw [if_neg hdefined, if_neg hlisten]
  by_cases hnot : word.head? = some '!' <;> simp_all

lemma firstAddress_mem {name : Str} {a : ARRAY8 × CARD16}
    (h : firstAddress resolver name = some a) : a ∈ hostAddresses resolver name := by
  unfold firstAddress at h
  unfold hostAddresses
  split at h
  · next hresolves =>
    obtain rfl := Option.some.inj h
    rw [hresolves]
    exact List.mem_cons_self ..
  · next hresolves =>
    obtain rfl := Option.some.inj h
    rw [hresolves]
    exact List.mem_cons_self ..
  · exact nomatch h

/-- Every entry that is read has been made of a word. -/
lemma madeOf_of_readDisplayEntry {n : Nat} {file : Reader}
    (h : (readDisplayEntry resolver n file).1 = some d) : ∃ word, d.MadeOf resolver word := by
  have hhosts : ∀ (d : DisplayEntry) m file,
      (readHosts resolver d m file).1.entry = d.entry ∧
        (readHosts resolver d m file).1.notAllowed = d.notAllowed := by
    intro d m
    induction m with
    | zero => exact fun _ => ⟨rfl, rfl⟩
    | succ m ih =>
      intro file
      unfold readHosts
      rcases hread : readHostEntry resolver (file.input.length + 1) file with ⟨_ | h, file⟩
      · exact ⟨rfl, rfl⟩
      · dsimp only
        unfold DisplayEntry.addHost
        split
        · exact ih file
        · exact ih file
        · split_ifs <;> exact ih file
        · exact ih file
  induction n generalizing file with
  | zero => exact nomatch h
  | succ n ih =>
    unfold readDisplayEntry at h
    rcases hread : readWord false file with ⟨_ | word, file'⟩
    · rw [hread] at h
      exact absurd h (by simp)
    · cases hword : displayOf resolver word with
      | none =>
        simp only [hread, hword] at h
        exact ih h
      | some x =>
        simp only [hread, hword] at h
        obtain rfl := Option.some.inj h
        refine ⟨word, ?_⟩
        rw [DisplayEntry.MadeOf, (hhosts ..).1, (hhosts ..).2]
        exact hword

lemma madeOf_of_readAccessDatabase {n : Nat} {file : Reader}
    (hd : d ∈ readAccessDatabase resolver n file) : ∃ word, d.MadeOf resolver word := by
  induction n generalizing file with
  | zero => exact nomatch hd
  | succ n ih =>
    unfold readAccessDatabase at hd
    rcases hread : readDisplayEntry resolver (file.input.length + 1) file with ⟨_ | e, file'⟩
    · rw [hread] at hd
      exact nomatch hd
    · simp only [hread, List.mem_cons] at hd
      rcases hd with rfl | hd
      · exact madeOf_of_readDisplayEntry (by rw [hread])
      · exact ih hd

/-- So there is a word for each entry of the database. -/
theorem madeOf_of_scanAccessDatabase {w : World} {cfg : Config}
    (hd : d ∈ scanAccessDatabase w cfg) : ∃ word, d.MadeOf w.getaddrinfo word := by
  unfold scanAccessDatabase at hd
  split_ifs at hd
  · exact nomatch hd
  · split at hd
    · exact nomatch hd
    · exact madeOf_of_readAccessDatabase hd

/-- For every resolver and client, and every entry that has been made of a host name: the entry
matches the client if the name resolves to the address of the client, and only then, if and
only if this address is the first one when it is one at all. -/
theorem host_entry_matches_iff (w : World) (addr : ARRAY8) (connectionType : CARD16)
    (d : DisplayEntry) (word : Str) (hword : d.MadeOf w.getaddrinfo word)
    (hhost : namesHost word = true) :
    (matchesClient w addr connectionType d = true ↔
      (addr, connectionType) ∈ hostAddresses w.getaddrinfo (hostName word)) ↔
    ((addr, connectionType) ∈ hostAddresses w.getaddrinfo (hostName word) →
      firstAddress w.getaddrinfo (hostName word) = some (addr, connectionType)) := by
  rw [DisplayEntry.MadeOf, displayOf_host hhost, Option.map_eq_some_iff] at hword
  obtain ⟨a, ha, hentry⟩ := hword
  have hmatches : matchesClient w addr connectionType d = true ↔ a = (addr, connectionType) := by
    rw [matchesClient, ← (Prod.mk.inj hentry).1]
    simp [Prod.ext_iff, and_comm]
  rw [hmatches, ha, Option.some.injEq]
  constructor
  · exact fun hiff => hiff.2
  · intro hfirst
    exact ⟨fun heq => heq ▸ firstAddress_mem ha, hfirst⟩

/-- A network in which a name has two addresses, and a file that excludes this host and admits
everybody else. -/
def World.dual : World :=
  { World.silent with
    getaddrinfo := fun _ => [.inet ⟨[0, 7], rfl⟩ ⟨[10, 0, 0, 5], rfl⟩,
      .inet ⟨[0, 7], rfl⟩ ⟨[10, 0, 0, 6], rfl⟩]
    accessText := some "!lab\n*\n".toList }

/-- The line for the host. -/
def dualEntry : DisplayEntry := ⟨.address [10, 0, 0, 5] familyInternet, true, false, false, []⟩

/-- The host is excluded at its first address. -/
theorem host_entry_matches_first :
    matchesClient World.dual [10, 0, 0, 5] familyInternet dualEntry = true ↔
      ([10, 0, 0, 5], familyInternet) ∈
        hostAddresses World.dual.getaddrinfo (hostName "!lab".toList) :=
  (host_entry_matches_iff World.dual [10, 0, 0, 5] familyInternet dualEntry "!lab".toList rfl
    (by decide +kernel)).2 fun _ => rfl

/-- At its second address it is admitted. -/
theorem host_entry_misses : ∃ d ∈ scanAccessDatabase World.dual Config.plain,
    d.MadeOf World.dual.getaddrinfo "!lab".toList ∧ namesHost "!lab".toList = true ∧
    ([10, 0, 0, 6], familyInternet) ∈ hostAddresses World.dual.getaddrinfo
      (hostName "!lab".toList) ∧
    matchesClient World.dual [10, 0, 0, 6] familyInternet d = false ∧
    acceptableDisplayAddress World.dual Config.plain (scanAccessDatabase World.dual Config.plain)
      [10, 0, 0, 6] familyInternet .query = true := by
  refine ⟨dualEntry, by decide +kernel, rfl, by decide +kernel, by decide +kernel,
    by decide +kernel, by decide +kernel⟩

end Xdm
