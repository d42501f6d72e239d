/-
# The command line of the chooser

`RunChooser` (`xdm/choose.c`) gives the chooser the address for its answer, the address of the
client and the connection type of the client as words of a command line, both addresses in
hexadecimal, and after them the hosts to offer.  `parseArgs` is in `xdm/util.c`.
-/
import Xdm.Access.Scans
import Xdm.Util

namespace Xdm

/-! ### Addresses in hexadecimal -/

def hexDigit (n : UInt8) : Char := "0123456789abcdef".toList.getD n.toNat '0'

/-- The two digits of a byte. -/
def hexDigits (b : UInt8) : Str := [hexDigit (b >>> 4 &&& 0xf), hexDigit (b &&& 0xf)]

/-- `FormatBytes`: the text in the buffer, without its NUL; none if it does not fit. -/
def formatBytes (data : ARRAY8) (buflen : Nat) : Option Str :=
  if buflen < data.length * 2 + 1 then none else some (data.flatMap hexDigits)

def formatARRAY8 (a : ARRAY8) (buflen : Nat) : Option Str := formatBytes a buflen

/-- The numbers of the address families on Linux. -/
def AddrFamily.number : AddrFamily → Nat
  | .unspec => 0
  | .unix => 1
  | .inet => 2
  | .inet6 => 10
  | .other n => n

/-- The family that `FormatChooserArgument` writes for a local address. -/
def chooserFamily (localAddress : ARRAY8) : AddrFamily :=
  if localAddress.length = 16 then .inet6 else .inet

/-- The bytes that `FormatChooserArgument` puts into `result_buf`: family, port and local
address.  `socket` is the address the chooser socket is bound to. -/
def chooserAddress (w : World) (socket : SockAddr) : Option ARRAY8 :=
  let localAddress := getLocalAddress w
  let netfamily := (chooserFamily localAddress).number
  let result port := (netfamily >>> 8).toUInt8 :: (netfamily &&& 0xff).toUInt8 ::
    (port ++ localAddress)
  match netaddrFamily socket with
  | .inet => some (result (netaddrPort socket))
  | .inet6 => some (result (netaddrPort socket))
  | _ => none

/-- `FormatChooserArgument`; `GetChooserAddr` may fail. -/
def formatChooserArgument (w : World) (socket : Option SockAddr) (len : Nat) : Option Str :=
  match socket with
  | none => none
  | some socket =>
    match chooserAddress w socket with
    | none => none
    | some result => formatBytes result len

/-! ### The command line -/

def array8ToDottedDecimal : ARRAY8 → Option Str
  | [a, b, c, d] =>
    let decimal (n : UInt8) : Str := Nat.toDigits 10 n.toNat
    some (decimal a ++ '.' :: (decimal b ++ '.' :: (decimal c ++ '.' :: decimal d)))
  | _ => none

/-- The text of an address that `AddChooserHost` puts into `hostbuf`. -/
def hostText (w : World) (addr : ARRAY8) : Option Str :=
  if addr.length = 16 ∧ (w.inetNtop .inet6 addr).isSome then w.inetNtop .inet6 addr
  else array8ToDottedDecimal addr

def addChooserHost (w : World) (args : List Str) (addr : ARRAY8) : List Str :=
  if addr = bytesOf broadcastString then parseArgs args broadcastString
  else
    match hostText w addr with
    | some hostbuf => parseArgs args hostbuf
    | none => args

/-- The size of the buffer in which `RunChooser` writes each argument. -/
def argumentSize : Nat := 1024

/-- An option and its value, if the value fits behind it into the buffer. -/
def addArgument (args : List Str) (option : Str) (value : Nat → Option Str) : List Str :=
  match value (argumentSize - (option ++ [' ']).length) with
  | some text => parseArgs args (option ++ [' '] ++ text)
  | none => args

def xdmaddressOption : Str := "-xdmaddress".toList
def clientaddressOption : Str := "-clientaddress".toList
def connectionTypeOption : Str := "-connectionType".toList

/-- The words with which `RunChooser` starts the chooser `chooser` of a display. -/
def runChooser (w : World) (database : List DisplayEntry) (socket : Option SockAddr)
    (chooser : Str) (clientAddr : ARRAY8) (connectionType : CARD16) : List Str :=
  let args := parseArgs [] chooser
  let args := addArgument args xdmaddressOption (formatChooserArgument w socket)
  let args := addArgument args clientaddressOption (formatARRAY8 clientAddr)
  let args := parseArgs args
    (connectionTypeOption ++ [' '] ++ Nat.toDigits 10 connectionType.toNat)
  (forEachChooserHost w database clientAddr connectionType).foldl (addChooserHost w) args

/-! ### What the words are -/

/-- A text that is one word. -/
structure IsWord (word : Str) : Prop where
  nonempty : word ≠ []
  unbroken : ∀ c ∈ word, isBlank c = false

lemma putWord_of_ne {argv : List Str} {word : Str} (hword : word ≠ []) :
    putWord argv word = argv ++ [word] :=
  if_neg hword

/-- Without a blank the word goes on. -/
lemma parseArgsLoop_append {argv : List Str} {word s rest : Str}
    (hs : ∀ c ∈ s, isBlank c = false) :
    parseArgsLoop argv word (s ++ rest) = parseArgsLoop argv (word ++ s) rest := by
  induction s generalizing word with
  | nil => rw [List.nil_append, List.append_nil]
  | cons c s ih =>
    rw [List.forall_mem_cons] at hs
    rw [List.cons_append, parseArgsLoop, if_neg (by simp [hs.1]), ih hs.2, List.append_assoc]
    rfl

lemma parseArgs_word {argv : List Str} {word : Str} (hword : IsWord word) :
    parseArgs argv word = argv ++ [word] := by
  have hloop : parseArgsLoop argv [] (word ++ []) = parseArgsLoop argv ([] ++ word) [] :=
    parseArgsLoop_append hword.unbroken
  rw [List.append_nil] at hloop
  exact hloop.trans (putWord_of_ne hword.nonempty)

lemma parseArgs_two_words {argv : List Str} {option value : Str} (hoption : IsWord option)
    (hvalue : IsWord value) :
    parseArgs argv (option ++ [' '] ++ value) = argv ++ [option, value] := by
  have hrest : parseArgs (argv ++ [option]) value = argv ++ [option] ++ [value] :=
    parseArgs_word hvalue
  rw [parseArgs, List.append_assoc, parseArgsLoop_append hoption.unbroken]
  change parseArgs (putWord argv option) value = _
  rw [putWord_of_ne hoption.nonempty, hrest, List.append_assoc]
  rfl

/-- The words of a text consist of its characters. -/
lemma parseArgsLoop_chars {P : Char → Prop} {argv : List Str} {word s : Str}
    (hword : ∀ c ∈ word, P c) (hs : ∀ c ∈ s, P c) :
    ∃ words, parseArgsLoop argv word s = argv ++ words ∧ ∀ u ∈ words, u ≠ [] ∧ ∀ c ∈ u, P c := by
  have hput (argv : List Str) {word : Str} (hword : ∀ c ∈ word, P c) : ∃ words,
      putWord argv word = argv ++ words ∧ ∀ u ∈ words, u ≠ [] ∧ ∀ c ∈ u, P c := by
    unfold putWord
    split_ifs with hempty
    · exact ⟨[], (List.append_nil argv).symm, by simp⟩
    · exact ⟨[word], rfl, by simpa using ⟨hempty, hword⟩⟩
  induction s generalizing argv word with
  | nil => exact hput argv hword
  | cons c s ih =>
    rw [List.forall_mem_cons] at hs
    unfold parseArgsLoop
    split_ifs with hblank
    · obtain ⟨words, hput, hwords⟩ := hput argv hword
      obtain ⟨words', hloop, hwords'⟩ :=
        @ih (putWord argv word) [] (by simp) hs.2
      refine ⟨words ++ words', ?_, ?_⟩
      · rw [hloop, hput, List.append_assoc]
      · exact List.forall_mem_append.2 ⟨hwords, hwords'⟩
    · exact ih (List.forall_mem_append.2 ⟨hword, by simpa using hs.1⟩) hs.2

/-! ### The digits of a byte -/

lemma toNat_highDigit (b : UInt8) : (b >>> 4 &&& 0xf).toNat = b.toNat / 16 := by
  have hb := b.toNat_lt
  have hand := Nat.and_two_pow_sub_one_eq_mod (b.toNat / 16) 4
  rw [UInt8.toNat_and, UInt8.toNat_shiftRight, Nat.shiftRight_eq_div_pow]
  change b.toNat / 16 &&& 2 ^ 4 - 1 = _
  rw [hand]
  omega

lemma toNat_lowDigit (b : UInt8) : (b &&& 0xf).toNat = b.toNat % 16 := by
  rw [UInt8.toNat_and]
  exact Nat.and_two_pow_sub_one_eq_mod b.toNat 4

lemma hexDigit_mem {n : UInt8} (hn : n.toNat < 16) :
    hexDigit n ∈ "0123456789abcdef".toList := by
  have hlength : "0123456789abcdef".toList.length = 16 := by decide
  unfold hexDigit
  have hget := List.getElem?_eq_getElem (hlength ▸ hn)
  rw [List.getD_eq_getElem?_getD, hget]
  exact List.getElem_mem _

lemma hexDigits_mem {b : UInt8} {c : Char} (hc : c ∈ hexDigits b) :
    c ∈ "0123456789abcdef".toList := by
  have hb := b.toNat_lt
  unfold hexDigits at hc
  rw [List.mem_cons, List.mem_singleton] at hc
  rcases hc with rfl | rfl
  · exact hexDigit_mem (by rw [toNat_highDigit]; omega)
  · exact hexDigit_mem (by rw [toNat_lowDigit]; omega)

lemma formatBytes_eq {data : ARRAY8} {buflen : Nat} (h : data.length * 2 + 1 ≤ buflen) :
    formatBytes data buflen = some (data.flatMap hexDigits) :=
  if_neg (by omega)

/-- The text of some bytes is one word. -/
lemma isWord_hexDigits {data : ARRAY8} (hdata : data ≠ []) :
    IsWord (data.flatMap hexDigits) where
  nonempty := by
    obtain ⟨b, rest, rfl⟩ := List.exists_cons_of_ne_nil hdata
    simp [hexDigits]
  unbroken := by
    have hdigits : "0123456789abcdef".toList.all (!isBlank ·) = true := by decide
    intro c hc
    obtain ⟨b, -, hc⟩ := List.mem_flatMap.1 hc
    simpa using List.all_eq_true.1 hdigits c (hexDigits_mem hc)

lemma isWord_decimal (n : Nat) : IsWord (Nat.toDigits 10 n) where
  nonempty := Nat.toDigits_ne_nil
  unbroken := by
    intro c hc
    have hdigit := Nat.isDigit_of_mem_toDigits (by omega) (by omega) hc
    by_contra hblank
    rw [Bool.not_eq_false, isBlank, decide_eq_true_eq] at hblank
    rcases hblank with rfl | rfl
    · exact absurd hdigit (by decide)
    · exact absurd hdigit (by decide)

/-! ### The command line -/

/-- `inet_ntop` writes an IPv6 address with hexadecimal digits, colons and dots. -/
def World.NtopText (w : World) : Prop :=
  ∀ addr text, w.inetNtop .inet6 addr = some text → ∀ c ∈ text, c ∈ "0123456789abcdef:.".toList

/-- The character begins no option. -/
def isPlain (c : Char) : Bool := c ≠ '-' ∧ c ≠ '+'

/-- A word that is no option, and not the beginning of one. -/
structure IsOperand (word : Str) : Prop where
  nonempty : word ≠ []
  plain : ∀ c ∈ word, isPlain c = true

variable {w : World}

lemma array8ToDottedDecimal_plain {addr : ARRAY8} {text : Str}
    (h : array8ToDottedDecimal addr = some text) : ∀ c ∈ text, isPlain c = true := by
  have hdecimal (n : UInt8) : ∀ c ∈ Nat.toDigits 10 n.toNat, isPlain c = true := by
    intro c hc
    have hdigit := Nat.isDigit_of_mem_toDigits (by omega) (by omega) hc
    refine decide_eq_true ⟨?_, ?_⟩
    · rintro rfl
      exact absurd hdigit (by decide)
    · rintro rfl
      exact absurd hdigit (by decide)
  have hdot : ∀ c ∈ ['.'], isPlain c = true := List.all_eq_true.1 (by decide)
  have happend {s t : Str} (hs : ∀ c ∈ s, isPlain c = true) (ht : ∀ c ∈ t, isPlain c = true) :
      ∀ c ∈ s ++ t, isPlain c = true := List.forall_mem_append.2 ⟨hs, ht⟩
  unfold array8ToDottedDecimal at h
  split at h
  · obtain rfl := Option.some.inj h
    exact happend (hdecimal _) (happend hdot (happend (hdecimal _) (happend hdot
      (happend (hdecimal _) (happend hdot (hdecimal _))))))
  · exact nomatch h

lemma hostText_plain (hntop : w.NtopText) {addr : ARRAY8} {text : Str}
    (h : hostText w addr = some text) : ∀ c ∈ text, isPlain c = true := by
  have hsafe : ∀ c ∈ "0123456789abcdef:.".toList, isPlain c = true :=
    List.all_eq_true.1 (by decide)
  unfold hostText at h
  split_ifs at h
  · exact fun c hc => hsafe c (hntop addr text h c hc)
  · exact array8ToDottedDecimal_plain h

/-- A host to offer is given by words that are no options. -/
lemma addChooserHost_eq (hntop : w.NtopText) (args : List Str) (addr : ARRAY8) :
    ∃ hosts, addChooserHost w args addr = args ++ hosts ∧ ∀ host ∈ hosts, IsOperand host := by
  have hparse {text : Str} (htext : ∀ c ∈ text, isPlain c = true) : ∃ hosts,
      parseArgs args text = args ++ hosts ∧ ∀ host ∈ hosts, IsOperand host := by
    obtain ⟨words, hwords, hchars⟩ :=
      @parseArgsLoop_chars (isPlain · = true) args [] text (by simp) htext
    exact ⟨words, hwords, fun host hhost => ⟨(hchars host hhost).1, (hchars host hhost).2⟩⟩
  have hbroadcast : ∀ c ∈ broadcastString, isPlain c = true := List.all_eq_true.1 (by decide)
  unfold addChooserHost
  split_ifs with his
  · exact hparse hbroadcast
  · cases htext : hostText w addr with
    | some text => exact hparse (hostText_plain hntop htext)
    | none => exact ⟨[], (List.append_nil args).symm, by simp⟩

lemma addChooserHosts_eq (hntop : w.NtopText) (args : List Str) (addrs : List ARRAY8) :
    ∃ hosts, addrs.foldl (addChooserHost w) args = args ++ hosts ∧
      ∀ host ∈ hosts, IsOperand host := by
  induction addrs generalizing args with
  | nil => exact ⟨[], (List.append_nil args).symm, by simp⟩
  | cons addr addrs ih =>
    obtain ⟨hosts, hfirst, hhosts⟩ := addChooserHost_eq hntop args addr
    obtain ⟨hosts', hrest, hhosts'⟩ := ih (args ++ hosts)
    refine ⟨hosts ++ hosts', ?_, List.forall_mem_append.2 ⟨hhosts, hhosts'⟩⟩
    rw [List.foldl_cons, hfirst, hrest, List.append_assoc]

/-- Bytes that fit into the buffer are an argument of two words. -/
lemma addArgument_eq {args : List Str} {option : Str} {value : Nat → Option Str} {data : ARRAY8}
    (hoption : IsWord option) (hvalue : ∀ len, value len = formatBytes data len)
    (hdata : data ≠ []) (hfits : data.length * 2 + 1 ≤ argumentSize - (option ++ [' ']).length) :
    addArgument args option value = args ++ [option, data.flatMap hexDigits] := by
  unfold addArgument
  rw [hvalue, formatBytes_eq hfits]
  exact parseArgs_two_words hoption (isWord_hexDigits hdata)

/-- What the chooser gets for an option. -/
structure Argument where
  option : Str
  value : Str

def Argument.words (a : Argument) : List Str := [a.option, a.value]

/-- The options of the chooser, for the address to answer to, the client and its connection
type. -/
def chooserArguments (result clientAddr : ARRAY8) (connectionType : CARD16) : List Argument :=
  [⟨xdmaddressOption, result.flatMap hexDigits⟩,
    ⟨clientaddressOption, clientAddr.flatMap hexDigits⟩,
    ⟨connectionTypeOption, Nat.toDigits 10 connectionType.toNat⟩]

/-- The chooser is started with its program, the three options and the hosts. -/
lemma runChooser_eq (database : List DisplayEntry) {socket : SockAddr} (chooser : Str)
    {result clientAddr : ARRAY8} (connectionType : CARD16) (hntop : w.NtopText)
    (hresult : chooserAddress w socket = some result)
    (hfitsResult : result.length * 2 + 1 ≤ argumentSize - (xdmaddressOption ++ [' ']).length)
    (hclient : clientAddr ≠ [])
    (hfitsClient : clientAddr.length * 2 + 1 ≤
      argumentSize - (clientaddressOption ++ [' ']).length) :
    ∃ hosts, runChooser w database (some socket) chooser clientAddr connectionType =
        parseArgs [] chooser ++
          (chooserArguments result clientAddr connectionType).flatMap Argument.words ++ hosts ∧
      ∀ host ∈ hosts, IsOperand host := by
  have hoption {option : Str} (hne : option ≠ []) (hblank : option.all (!isBlank ·) = true) :
      IsWord option := ⟨hne, by simpa using hblank⟩
  have hresultNe : result ≠ [] := by
    rintro rfl
    unfold chooserAddress at hresult
    split at hresult
    · exact nomatch Option.some.inj hresult
    · exact nomatch Option.some.inj hresult
    · exact nomatch hresult
  obtain ⟨hosts, hloop, hhosts⟩ := addChooserHosts_eq hntop
    (parseArgs [] chooser ++
      (chooserArguments result clientAddr connectionType).flatMap Argument.words)
    (forEachChooserHost w database clientAddr connectionType)
  have hxdm : addArgument (parseArgs [] chooser) xdmaddressOption
      (formatChooserArgument w (some socket)) = _ :=
    addArgument_eq (hoption (by decide) (by decide))
      (fun len => by simp only [formatChooserArgument, hresult]) hresultNe hfitsResult
  have hclientArgs (args : List Str) : addArgument args clientaddressOption
      (formatARRAY8 clientAddr) = _ :=
    addArgument_eq (hoption (by decide) (by decide)) (fun _ => rfl) hclient hfitsClient
  refine ⟨hosts, ?_, hhosts⟩
  rw [← hloop]
  simp only [runChooser, hxdm, hclientArgs]
  rw [parseArgs_two_words (hoption (by decide) (by decide)) (isWord_decimal _)]
  simp [chooserArguments, Argument.words]

end Xdm
