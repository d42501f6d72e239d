/-
# Environments in memory

`getEnv`, `setEnv` and `putEnv` of `xdm/util.c` on an array of pointers with a NULL behind the
last string, when allocations may fail, and the loop of `StartClient` that adds what
`pam_getenvlist` returns.  While there is memory such an array is a map.
-/
import Mathlib.Data.List.Induction
import Mathlib.Data.List.Nodup
import Xdm.Util

namespace Xdm

/-! ### Arrays of strings -/

/-- Which allocations of a call succeed: `calloc` of the name, `asprintf` of the string, `calloc`
or `realloc` of the array. -/
structure Memory where
  name : Bool
  string : Bool
  array : Bool

def Memory.plenty : Memory := ⟨true, true, true⟩

/-- An array of pointers.  Of these and of the array itself a null pointer is `none`. -/
abbrev Environ := Option (List (Option Str))

/-- The new cells have no definite value. -/
def realloc (cells : List (Option Str)) (n : Nat) : List (Option Str) :=
  cells.take n ++ List.replicate (n - cells.length) none

/-- The comparison in the loops of `getEnv` and `setEnv`. -/
def isEntryOf (name entry : Str) : Bool :=
  name.length < entry.length ∧ entry.take name.length = name ∧ entry[name.length]? = some '='

namespace Environ

/-- The strings in front of the NULL, unless there is none. -/
def stringsOf : List (Option Str) → Option (List Str)
  | [] => none
  | none :: _ => some []
  | some entry :: cells => (stringsOf cells).map (entry :: ·)

def strings : Environ → Option (List Str)
  | none => some []
  | some cells => stringsOf cells

def getEnvLoop (name : Str) : List (Option Str) → Option (Option Str)
  | [] => none
  | none :: _ => some none
  | some entry :: cells =>
    if isEntryOf name entry then some (some (entry.drop (name.length + 1)))
    else getEnvLoop name cells

/-- There is no outcome if a pointer behind the array is read. -/
def getEnv (e : Environ) (name : Str) : Option (Option Str) :=
  match e with
  | none => some none
  | some cells => getEnvLoop name cells

/-- `old`, as an index, after the loop of `setEnv`. -/
def findOld (name : Str) : List (Option Str) → Option Nat
  | [] => none
  | none :: _ => some 0
  | some entry :: cells =>
    if isEntryOf name entry then some 0 else (findOld name cells).map (· + 1)

/-- The last two assignments of `setEnv`. -/
def endWith (new : List (Option Str)) (envsize : Nat) (newe : Str) :
    Option (List (Option Str)) := do
  let new ← store new envsize (some newe)
  store new (envsize + 1) none

def setEnv (m : Memory) (name value : Str) (e : Environ) : Option Environ :=
  if !m.string then some e
  else match e with
    | none =>
      if !m.array then some e
      else (endWith (List.replicate 2 none) 0 (makeEnv name value)).map some
    | some cells => do
      let old ← findOld name cells
      if (← cells[old]?).isSome then (store cells old (makeEnv name value)).map some
      else if !m.array then some e
      else (endWith (realloc cells (old + 2)) old (makeEnv name value)).map some

def putEnv (m : Memory) (string : Str) (env : Environ) : Option Environ :=
  match string.findIdx? (· = '=') with
  | none => some none
  | some nl =>
    if !m.name then some none else setEnv m (string.take nl) (string.drop (nl + 1)) env

variable {name value entry string : Str} {l l' : List Str} {cells : List (Option Str)}
  {e : Environ} {m : Memory}

/-! ### What the calls do to the strings -/

lemma isEntryOf_eq (name entry : Str) : isEntryOf name entry = isEnv name entry := by
  rw [Bool.eq_iff_iff]
  simp only [isEntryOf, isEnv, List.isPrefixOf_iff_prefix, decide_eq_true_eq]
  constructor
  · rintro ⟨hlength, htake, hequals⟩
    obtain ⟨h, hget⟩ := List.getElem?_eq_some_iff.1 hequals
    refine ⟨entry.drop (name.length + 1), ?_⟩
    calc name ++ ['='] ++ entry.drop (name.length + 1)
        = entry.take name.length ++ (entry[name.length] :: entry.drop (name.length + 1)) := by
          rw [htake, hget, List.append_assoc, List.singleton_append]
      _ = entry := by rw [← List.drop_eq_getElem_cons, List.take_append_drop]
  · rintro ⟨value, rfl⟩
    simp

lemma stringsOf_eq_some :
    stringsOf cells = some l ↔ ∃ rest, cells = l.map some ++ none :: rest := by
  induction cells generalizing l with
  | nil => simp [stringsOf]
  | cons c cells ih =>
    cases c with
    | none => cases l <;> simp [stringsOf]
    | some entry => cases l <;> simp [stringsOf, ih, and_comm]

lemma getEnvLoop_eq (name : Str) (l : List Str) (rest : List (Option Str)) :
    getEnvLoop name (l.map some ++ none :: rest) = some (Xdm.getEnv l name) := by
  induction l with
  | nil => rfl
  | cons entry l ih =>
    rw [List.map_cons, List.cons_append, getEnvLoop, isEntryOf_eq, ih]
    split_ifs with h
    · simp [Xdm.getEnv, h]
    · simp [Xdm.getEnv, h]

lemma findOld_eq (name : Str) (l : List Str) (rest : List (Option Str)) :
    findOld name (l.map some ++ none :: rest) = some (l.findIdx (isEnv name)) := by
  induction l with
  | nil => rfl
  | cons entry l ih =>
    rw [List.map_cons, List.cons_append, findOld, isEntryOf_eq, ih, List.findIdx_cons]
    cases isEnv name entry <;> rfl

/-- An entry is replaced in its place, or there is none and the new one is the last. -/
lemma setEnv_list (name value : Str) (l : List Str) : Xdm.setEnv name value l =
    if l.findIdx (isEnv name) < l.length then l.set (l.findIdx (isEnv name)) (makeEnv name value)
    else l ++ [makeEnv name value] := by
  induction l with
  | nil => rfl
  | cons entry l ih =>
    rw [Xdm.setEnv, List.findIdx_cons]
    cases isEnv name entry with
    | true => simp
    | false =>
      simp only [Bool.false_eq_true, if_false, ih, cond_false, List.length_cons,
        Nat.add_lt_add_iff_right, List.set_cons_succ]
      split_ifs <;> rfl

/-- `getEnv` comes to its end in the array. -/
lemma getEnv_strings (he : e.strings = some l) (name : Str) :
    e.getEnv name = some (Xdm.getEnv l name) := by
  cases e with
  | none =>
    obtain rfl := Option.some.inj he
    rfl
  | some cells =>
    obtain ⟨rest, rfl⟩ := stringsOf_eq_some.1 he
    exact getEnvLoop_eq name l rest

lemma endWith_eq (l : List Str) (c c' : Option Str) (rest : List (Option Str)) (newe : Str) :
    endWith (l.map some ++ c :: c' :: rest) l.length newe =
      some (l.map some ++ some newe :: none :: rest) := by
  simp [endWith, store]

lemma realloc_eq (l : List Str) (rest : List (Option Str)) : ∃ c,
    realloc (l.map some ++ none :: rest) (l.length + 2) = l.map some ++ [none, c] := by
  cases rest with
  | nil => exact ⟨none, by simp [realloc, List.take_of_length_le]⟩
  | cons c rest =>
    refine ⟨c, ?_⟩
    simp [realloc, List.take_append, List.take_of_length_le]

lemma setEnv_found {rest : List (Option Str)} (hstring : m.string = true)
    (hold : l.findIdx (isEnv name) < l.length) (value : Str) :
    setEnv m name value (some (l.map some ++ none :: rest)) = some (some
      ((l.set (l.findIdx (isEnv name)) (makeEnv name value)).map some ++ none :: rest)) := by
  have hlength : l.findIdx (isEnv name) < (l.map some).length := by rwa [List.length_map]
  simp only [setEnv, hstring, findOld_eq, Option.bind_eq_bind, Option.bind_some, Bool.not_true,
    Bool.false_eq_true, if_false, List.getElem?_append_left hlength, List.getElem?_map,
    List.getElem?_eq_getElem hold, Option.map_some, Option.isSome_some, if_true]
  rw [store, if_pos (by rw [List.length_append]; omega), List.set_append_left _ _ hlength,
    List.map_set, Option.map_some]

lemma setEnv_fresh {rest : List (Option Str)} (hstring : m.string = true)
    (hold : ¬ l.findIdx (isEnv name) < l.length) (value : Str) :
    setEnv m name value (some (l.map some ++ none :: rest)) = some (some
      (if m.array then (l ++ [makeEnv name value]).map some ++ [none]
      else l.map some ++ none :: rest)) := by
  have hend : l.findIdx (isEnv name) = l.length :=
    le_antisymm List.findIdx_le_length (not_lt.1 hold)
  obtain ⟨c, hnew⟩ := realloc_eq l rest
  simp only [setEnv, hstring, findOld_eq, Option.bind_eq_bind, Option.bind_some, hend]
  rw [List.getElem?_append_right (List.length_map ..).le, hnew, endWith_eq]
  cases m.array <;> simp

/-- With the strings of before, if something fails, the array is as `setEnv` leaves it. -/
lemma setEnv_strings (he : e.strings = some l) (m : Memory) (name value : Str) :
    ∃ e', e.setEnv m name value = some e' ∧ (e'.strings = some l ∧ m ≠ .plenty
      ∨ e'.strings = some (Xdm.setEnv name value l)) := by
  by_cases hstring : m.string = true
  swap
  · exact ⟨e, by simp [setEnv, hstring], Or.inl ⟨he, by rintro rfl; exact hstring rfl⟩⟩
  rw [setEnv_list]
  cases e with
  | none =>
    obtain rfl := Option.some.inj he
    by_cases harray : m.array = true
    · exact ⟨some [some (makeEnv name value), none],
        by simp [setEnv, hstring, harray, endWith, store], Or.inr rfl⟩
    · exact ⟨none, by simp [setEnv, hstring, harray],
        Or.inl ⟨rfl, by rintro rfl; exact harray rfl⟩⟩
  | some cells =>
    obtain ⟨rest, rfl⟩ := stringsOf_eq_some.1 he
    by_cases hold : l.findIdx (isEnv name) < l.length
    · rw [setEnv_found hstring hold, if_pos hold]
      exact ⟨_, rfl, Or.inr (stringsOf_eq_some.2 ⟨rest, rfl⟩)⟩
    · rw [setEnv_fresh hstring hold, if_neg hold]
      refine ⟨_, rfl, ?_⟩
      by_cases harray : m.array = true
      · rw [if_pos harray]
        exact Or.inr (stringsOf_eq_some.2 ⟨[], rfl⟩)
      · rw [if_neg harray]
        exact Or.inl ⟨he, by rintro rfl; exact harray rfl⟩

end Environ

/-! ### Calls one after the other -/

/-- What is in front of the first equals sign. -/
def envName (entry : Str) : Str := entry.takeWhile (· ≠ '=')

/-- What is behind it. -/
def envValue (entry : Str) : Str := (entry.dropWhile (· ≠ '=')).tail

inductive EnvCall
  | set (name value : Str)
  | put (string : Str)

namespace EnvCall

def name : EnvCall → Str
  | set name _ => name
  | put string => envName string

def value : EnvCall → Str
  | set _ value => value
  | put string => envValue string

/-- The name has no equals sign.  That of a string is in front of its first one. -/
def Named : EnvCall → Prop
  | set name _ => '=' ∉ name
  | put string => '=' ∈ string

def perform (m : Memory) (e : Environ) : EnvCall → Option Environ
  | set name value => e.setEnv m name value
  | put string => e.putEnv m string

end EnvCall

/-- The environment that the calls build from a null pointer. -/
def builtBy (calls : List EnvCall) : Option Environ :=
  calls.foldlM (fun e call => call.perform .plenty e) none

def valueSetLast (calls : List EnvCall) (name : Str) : Option Str :=
  (calls.reverse.find? fun call => call.name = name).map EnvCall.value

/-! ### Names -/

variable {name value entry string : Str} {l l' : List Str} {e : Environ} {m : Memory}

lemma equals_notMem_envName (entry : Str) : '=' ∉ envName entry := by
  intro h
  simpa using List.mem_takeWhile_imp h

lemma makeEnv_envName (hstring : '=' ∈ string) :
    makeEnv (envName string) (envValue string) = string := by
  induction string with
  | nil => exact absurd hstring List.not_mem_nil
  | cons c string ih =>
    by_cases hc : c = '='
    · simp [makeEnv, envName, envValue, hc]
    · have hstring : '=' ∈ string := (List.mem_cons.1 hstring).resolve_left (Ne.symm hc)
      simpa [makeEnv, envName, envValue, hc] using ih hstring

lemma isEnv_iff (hname : '=' ∉ name) (hentry : '=' ∈ entry) :
    isEnv name entry = true ↔ envName entry = name := by
  have hself : isEnv (envName entry) entry = true := by
    have h := isEnv_makeEnv (envName entry) (envValue entry)
    rwa [makeEnv_envName hentry] at h
  constructor
  · intro h
    by_contra hne
    rw [isEnv_other hne (equals_notMem_envName entry) hname hself] at h
    exact Bool.false_ne_true h
  · rintro rfl
    exact hself

lemma envName_makeEnv (hname : '=' ∉ name) (value : Str) : envName (makeEnv name value) = name := by
  refine (isEnv_iff hname ?_).1 (isEnv_makeEnv name value)
  simp [makeEnv]

lemma equals_mem_setEnv (hl : ∀ entry ∈ l, '=' ∈ entry) (name value : Str) :
    ∀ entry ∈ setEnv name value l, '=' ∈ entry := by
  have hnew : '=' ∈ makeEnv name value := by simp [makeEnv]
  induction l with
  | nil => simpa [setEnv] using hnew
  | cons entry l ih =>
    obtain ⟨hentry, hl⟩ := List.forall_mem_cons.1 hl
    rw [setEnv]
    split_ifs
    · exact List.forall_mem_cons.2 ⟨hnew, hl⟩
    · exact List.forall_mem_cons.2 ⟨hentry, ih hl⟩

lemma names_setEnv (hl : ∀ entry ∈ l, '=' ∈ entry) (hname : '=' ∉ name) (value : Str) :
    (setEnv name value l).map envName =
      if name ∈ l.map envName then l.map envName else l.map envName ++ [name] := by
  induction l with
  | nil => simp [setEnv, envName_makeEnv hname]
  | cons entry l ih =>
    obtain ⟨hentry, hl⟩ := List.forall_mem_cons.1 hl
    rw [setEnv]
    split_ifs with henv hmem hmem
    · rw [List.map_cons, List.map_cons, envName_makeEnv hname, (isEnv_iff hname hentry).1 henv]
    · exact absurd (by simp [(isEnv_iff hname hentry).1 henv]) hmem
    · have hne := mt (isEnv_iff hname hentry).2 henv
      rw [List.map_cons, ih hl, if_pos ((List.mem_cons.1 hmem).resolve_left (Ne.symm hne)),
        List.map_cons]
    · rw [List.map_cons, ih hl, if_neg fun h => hmem (List.mem_cons_of_mem _ h), List.map_cons,
        List.cons_append]

lemma filter_setEnv (name value : Str) (l : List Str) :
    (setEnv name value l).filter (fun entry => !isEnv name entry) =
      l.filter (fun entry => !isEnv name entry) := by
  have hnew := isEnv_makeEnv name value
  induction l with
  | nil => simp [setEnv, hnew]
  | cons entry l ih =>
    rw [setEnv]
    split_ifs with henv
    · simp [hnew, henv]
    · simp [henv, ih]

lemma Environ.putEnv_eq (hstring : '=' ∈ string) (m : Memory) (e : Environ) :
    e.putEnv m string = if m.name then e.setEnv m (envName string) (envValue string)
      else some none := by
  have hequals : ∀ {n : Str} (v : Str), '=' ∉ n →
      (makeEnv n v).findIdx? (· = '=') = some n.length ∧
      (makeEnv n v).take n.length = n ∧ (makeEnv n v).drop (n.length + 1) = v := by
    intro n v hn
    have hnone : n.findIdx? (· = '=') = none :=
      List.findIdx?_eq_none_iff.2 fun c hc => by simpa using fun h : c = '=' => hn (h ▸ hc)
    simp [makeEnv, List.findIdx?_append, hnone, List.findIdx?_cons]
  obtain ⟨hfind, htake, hdrop⟩ := hequals (envValue string) (equals_notMem_envName string)
  rw [makeEnv_envName hstring] at hfind htake hdrop
  rw [putEnv, hfind]
  dsimp only
  rw [htake, hdrop]
  cases m.name <;> rfl

lemma EnvCall.perform_strings {call : EnvCall} (hnamed : call.Named) (he : e.strings = some l) :
    ∃ e', call.perform .plenty e = some e' ∧
      e'.strings = some (setEnv call.name call.value l) := by
  have hset : ∀ name value, ∃ e', e.setEnv .plenty name value = some e' ∧
      e'.strings = some (setEnv name value l) := by
    intro name value
    obtain ⟨e', hset, h⟩ := Environ.setEnv_strings he .plenty name value
    exact ⟨e', hset, h.resolve_left fun h => h.2 rfl⟩
  cases call with
  | set name value => exact hset name value
  | put string =>
    rw [perform, Environ.putEnv_eq hnamed]
    exact hset _ _

/-! ### The environment is a map -/

/-- The strings are of the form `name=value`, of each name one, with the value that has been set
last. -/
structure Mapping (calls : List EnvCall) (l : List Str) : Prop where
  equals : ∀ entry ∈ l, '=' ∈ entry
  nodup : (l.map envName).Nodup
  values : ∀ name, '=' ∉ name → getEnv l name = valueSetLast calls name

lemma EnvCall.Named.notMem {call : EnvCall} (hnamed : call.Named) : '=' ∉ call.name := by
  cases call with
  | set name value => exact hnamed
  | put string => exact equals_notMem_envName string

lemma Mapping.snoc {calls : List EnvCall} {call : EnvCall} (hl : Mapping calls l)
    (hnamed : call.Named) : Mapping (calls ++ [call]) (setEnv call.name call.value l) where
  equals := equals_mem_setEnv hl.equals _ _
  nodup := by
    rw [names_setEnv hl.equals hnamed.notMem]
    split_ifs with hmem
    · exact hl.nodup
    · exact List.nodup_append.2 ⟨hl.nodup, List.nodup_singleton _, by
        rintro n hn _ hmem' rfl
        exact hmem (List.mem_singleton.1 hmem' ▸ hn)⟩
  values n hn := by
    rw [valueSetLast, List.reverse_append, List.reverse_singleton, List.singleton_append,
      List.find?_cons]
    by_cases hname : call.name = n
    · subst hname
      simp
    · rw [getEnv_setEnv_of_ne (Ne.symm hname) hnamed.notMem hn, hl.values n hn]
      simp [hname, valueSetLast]

lemma exists_builtBy (calls : List EnvCall) (hnamed : ∀ call ∈ calls, call.Named) :
    ∃ e l, builtBy calls = some e ∧ e.strings = some l ∧ Mapping calls l := by
  induction calls using List.reverseRecOn with
  | nil => exact ⟨none, [], rfl, rfl, by simp, List.nodup_nil, fun _ _ => rfl⟩
  | append_singleton calls call ih =>
    obtain ⟨hcalls, hcall⟩ := List.forall_mem_append.1 hnamed
    have hcall := List.forall_mem_singleton.1 hcall
    obtain ⟨e, l, hbuilt, he, hl⟩ := ih hcalls
    obtain ⟨e', hperform, he'⟩ := EnvCall.perform_strings hcall he
    refine ⟨e', _, ?_, he', hl.snoc hcall⟩
    rw [builtBy, List.foldlM_append]
    exact Option.bind_eq_some_iff.2 ⟨e, hbuilt, by simpa using hperform⟩

/-- For every sequence of calls of `setEnv` and `putEnv`, with names that have no equals sign and
while there is memory: `getEnv` of each name is the value set last, no name occurs twice, and one
more call leaves all entries of other names, and their order. -/
theorem environment_map (calls : List EnvCall) (hnamed : ∀ call ∈ calls, call.Named) :
    ∃ e l, builtBy calls = some e ∧ e.strings = some l ∧
      (∀ name, '=' ∉ name → e.getEnv name = some (valueSetLast calls name)) ∧
      (l.map envName).Nodup ∧
      ∀ call : EnvCall, call.Named → ∃ e' l', call.perform .plenty e = some e' ∧
        e'.strings = some l' ∧
        l'.filter (fun entry => envName entry ≠ call.name) =
          l.filter fun entry => envName entry ≠ call.name := by
  obtain ⟨e, l, hbuilt, he, hl⟩ := exists_builtBy calls hnamed
  refine ⟨e, l, hbuilt, he, fun name hname => ?_, hl.nodup, fun call hcall => ?_⟩
  · rw [Environ.getEnv_strings he, hl.values name hname]
  · obtain ⟨e', hperform, he'⟩ := EnvCall.perform_strings hcall he
    refine ⟨e', _, hperform, he', ?_⟩
    have hothers : ∀ {l : List Str}, (∀ entry ∈ l, '=' ∈ entry) →
        l.filter (fun entry => envName entry ≠ call.name) =
          l.filter fun entry => !isEnv call.name entry := by
      intro l hl
      refine List.filter_congr fun entry hentry => ?_
      rw [Bool.eq_iff_iff, decide_eq_true_eq, Bool.not_eq_true', Ne,
        ← isEnv_iff hcall.notMem (hl entry hentry), Bool.not_eq_true]
    rw [hothers (equals_mem_setEnv hl.equals _ _), filter_setEnv, hothers hl.equals]

theorem environment_map_three :
    ∃ e, builtBy [.set "HOME".toList "/".toList, .put "HOME2=/=".toList, .set "HOME".toList []] =
      some e ∧ e.getEnv "HOME".toList = some (some []) ∧
      e.getEnv "HOME2".toList = some (some "/=".toList) ∧ e.getEnv "HOM".toList = some none := by
  obtain ⟨e, -, hbuilt, -, hvalues, -, -⟩ := environment_map
    [.set "HOME".toList "/".toList, .put "HOME2=/=".toList, .set "HOME".toList []]
    (by simp [EnvCall.Named])
  exact ⟨e, hbuilt, hvalues _ (by decide), hvalues _ (by decide), hvalues _ (by decide)⟩

/-! ### The variables of `libpam` -/

/-- The loop of `StartClient`, on the strings that `pam_getenvlist` has returned.  With each of
them is which allocations of its call of `putEnv` succeed. -/
def putPamEnv : List (Str × Memory) → Environ → Option Environ
  | [], userEnviron => some userEnviron
  | (string, m) :: pamEnv, userEnviron => do
    let userEnviron ← userEnviron.putEnv m string
    putPamEnv pamEnv userEnviron

/-- `pam_getenvlist` may return a null pointer. -/
def passPamEnv (pamEnv : Option (List (Str × Memory))) (userEnviron : Environ) : Option Environ :=
  match pamEnv with
  | none => some userEnviron
  | some pamEnv => putPamEnv pamEnv userEnviron

/-- A string that has an equals sign names what is in front of it. -/
def PamNames (pamEnv : List (Str × Memory)) (name : Str) : Prop :=
  ∃ p ∈ pamEnv, '=' ∈ p.1 ∧ envName p.1 = name

/-- `putEnv` comes to its call of `setEnv`. -/
def Sets (p : Str × Memory) : Prop := '=' ∈ p.1 ∧ p.2.name = true

instance (p : Str × Memory) : Decidable (Sets p) := inferInstanceAs (Decidable (_ ∧ _))

lemma putEnv_unnamed {p : Str × Memory} (he : e.strings = some l) :
    ∃ e' l', e.putEnv p.2 p.1 = some e' ∧ e'.strings = some l' ∧
      ∀ name, '=' ∉ name → ¬ ('=' ∈ p.1 ∧ envName p.1 = name) →
        getEnv l' name = if Sets p then getEnv l name else none := by
  by_cases hsets : Sets p
  · rw [Environ.putEnv_eq hsets.1, if_pos hsets.2]
    obtain ⟨e', hset, h⟩ := Environ.setEnv_strings he p.2 (envName p.1) (envValue p.1)
    rcases h with ⟨he', -⟩ | he'
    · exact ⟨e', l, hset, he', fun name _ _ => (if_pos hsets).symm⟩
    · refine ⟨e', _, hset, he', fun name hname hother => ?_⟩
      rw [if_pos hsets, getEnv_setEnv_of_ne (fun h => hother ⟨hsets.1, h.symm⟩)
        (equals_notMem_envName p.1) hname]
  · refine ⟨none, [], ?_, rfl, fun name _ _ => (if_neg hsets).symm⟩
    by_cases hequals : '=' ∈ p.1
    · rw [Environ.putEnv_eq hequals, if_neg fun h => hsets ⟨hequals, h⟩]
    · have hnone : p.1.findIdx? (· = '=') = none :=
        List.findIdx?_eq_none_iff.2 fun c hc => by simpa using fun h : c = '=' => hequals (h ▸ hc)
      rw [Environ.putEnv, hnone]

/-- A variable that no string names is lost as soon as `putEnv` does not come to its call of
`setEnv`. -/
lemma putPamEnv_unnamed : ∀ (pamEnv : List (Str × Memory)) {e : Environ} {l : List Str},
    e.strings = some l → ∃ e' l', putPamEnv pamEnv e = some e' ∧ e'.strings = some l' ∧
      ∀ name, '=' ∉ name → ¬ PamNames pamEnv name →
        getEnv l' name = if ∀ p ∈ pamEnv, Sets p then getEnv l name else none
  | [], e, l, he => ⟨e, l, rfl, he, by simp⟩
  | p :: pamEnv, e, l, he => by
    obtain ⟨e₁, l₁, hput, he₁, hl₁⟩ := putEnv_unnamed (p := p) he
    obtain ⟨e', l', hrest, he', hl'⟩ := putPamEnv_unnamed pamEnv he₁
    refine ⟨e', l', ?_, he', fun name hname hother => ?_⟩
    · rw [putPamEnv, hput]
      exact hrest
    · have hp : ¬ ('=' ∈ p.1 ∧ envName p.1 = name) := fun h => hother ⟨p, List.mem_cons_self .., h⟩
      have hpamEnv : ¬ PamNames pamEnv name := fun ⟨q, hq, h⟩ =>
        hother ⟨q, List.mem_cons_of_mem _ hq, h⟩
      rw [hl' name hname hpamEnv, hl₁ name hname hp]
      simp only [List.forall_mem_cons]
      split_ifs <;> tauto

end Xdm
