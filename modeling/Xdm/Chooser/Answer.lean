/-
# The answer of the chooser

The chooser (`chooser/chooser.c`) gets its options from the X toolkit, which is a parameter
here, collects the hosts that have answered it, and sends the one that the user has chosen to
the address given on its command line.  `ProcessChooserSocket` (`xdm/choose.c`) reads the answer.
-/
import Xdm.Chooser.Arguments
import Xdm.Chooser.Packets
import Xdm.Lib.Run

namespace Xdm

open Prog

/-! ### The options of the chooser -/

def isHexDigit (c : Char) : Bool := c.isDigit || ('a' ≤ c && c ≤ 'f')

def hexChar (c : Char) : Int :=
  if '0' ≤ c ∧ c ≤ '9' then c.toNat - '0'.toNat else c.toNat - 'a'.toNat + 10

/-- `FromHex`: the bytes, and whether the string is illegal. -/
def fromHex : Str → ARRAY8 × Bool
  | hi :: lo :: s =>
    let (d, ret) := fromHex s
    (UInt8.ofInt (hexChar hi * 16 + hexChar lo) :: d, !isHexDigit hi || !isHexDigit lo || ret)
  | [_] => ([], true)
  | [] => ([], false)

/-- `CvtStringToARRAY8`, for a value with as many characters as its size says; an array that
is too long is not allocated. -/
def cvtStringToARRAY8 (fromVal : Str) : ARRAY8 :=
  if fromVal.length >>> 1 < 2 ^ 16 then (fromHex fromVal).1 else []

/-- An option with a separate argument, and the resource that it sets. -/
structure XrmOptionDescRec where
  option : Str
  specifier : Str
deriving DecidableEq

/-- The table `options` of the chooser. -/
def options : List XrmOptionDescRec :=
  [⟨"-xdmaddress".toList, "*xdmAddress".toList⟩,
    ⟨"-clientaddress".toList, "*clientAddress".toList⟩,
    ⟨"-connectionType".toList, "*connectionType".toList⟩]

/-- The X toolkit and the resource manager. -/
structure Toolkit where
  /-- The words are a program and options of its own with their arguments, none of which says
  anything about a resource of the table. -/
  isCommand : List XrmOptionDescRec → List Str → Prop
  /-- The value that the resource of a name has after `XtInitialize` has gone through the
  command line. -/
  resource : List XrmOptionDescRec → List Str → Str → Option Str
  /-- The converter from `XtRString` to `XtRInt`. -/
  stringToInt : Str → Option Int

/-- What the manuals say of them: an option takes the next word as its argument, the value of
the resource is this word with its NUL, and decimal digits are converted to their number. -/
structure Toolkit.Documented (xt : Toolkit) : Prop where
  resource : ∀ table command (args : List Argument) (operands : List Str),
    xt.isCommand table command → (∀ o ∈ table, o.option.head? = some '-') →
    (table.map XrmOptionDescRec.option).Nodup → (table.map XrmOptionDescRec.specifier).Nodup →
    (args.map Argument.option).Nodup →
    (∀ a ∈ args, a.option ∈ table.map XrmOptionDescRec.option) →
    (∀ operand ∈ operands, IsOperand operand) →
    ∀ name, ∀ a ∈ args, ⟨a.option, '*' :: name⟩ ∈ table →
      xt.resource table (command ++ args.flatMap Argument.words ++ operands) name =
        some (a.value ++ ['\x00'])
  stringToInt : ∀ n < 2 ^ 31, xt.stringToInt (Nat.toDigits 10 n ++ ['\x00']) = some (n : Int)

/-- `app_resources`, with `none` for a null pointer. -/
structure AppResources where
  xdmAddress : Option ARRAY8
  clientAddress : Option ARRAY8
  connectionType : Int
deriving DecidableEq

/-- The resources of a chooser that has been started with these words. -/
def applicationResources (xt : Toolkit) (argv : List Str) : AppResources where
  xdmAddress := (xt.resource options argv "xdmAddress".toList).map cvtStringToARRAY8
  clientAddress := (xt.resource options argv "clientAddress".toList).map cvtStringToARRAY8
  connectionType :=
    ((xt.resource options argv "connectionType".toList).bind xt.stringToInt).getD 0

/-! ### The hosts -/

/-- A host that has answered; `fullname`, the line shown for it, is a function of the host name
and the status (`HostName.fullname`). -/
structure HostName where
  willing : Bool
  hostname : ARRAY8
  status : ARRAY8
  connectionType : CARD16
  hostaddr : ARRAY8
deriving DecidableEq

/-- The address of a host, and its family. -/
def hostAddress : SockAddr → ARRAY8 × CARD16
  | .inet _ addr => (addr.1, familyInternet)
  | .inet6 _ addr _ => (addr.1, familyInternet6)
  | _ => ([], familyLocal)

/-- The name of a host that is new: the resolver's, if it has sent any. -/
def newHostname (w : World) (hostname : ARRAY8) (addr : SockAddr) : ARRAY8 :=
  if hostname = [] then hostname
  else
    match netaddrFamily addr with
    | .inet | .inet6 =>
      match w.gethostbyaddr (netaddrFamily addr) (hostAddress addr).1 with
      | some host => bytesOf host
      | none => hostname
    | _ => hostname

/-- `AddHostname`. -/
def addHostname (w : World) (report : HostReport) (addr : SockAddr) :
    List HostName → List HostName
  | [] => [⟨report.willing, newHostname w report.hostname addr, report.status,
      (hostAddress addr).2, (hostAddress addr).1⟩]
  | name :: names =>
    if (hostAddress addr).2 = name.connectionType ∧ (hostAddress addr).1 = name.hostaddr then
      if report.status = name.status then name :: names
      else { name with willing := report.willing, status := report.status } :: names
    else name :: addHostname w report addr names

/-- A report with the address it comes from. -/
structure HostPacket where
  report : HostReport
  addr : SockAddr

/-- The hosts after some reports. -/
def hostNamedb (w : World) (packets : List HostPacket) : List HostName :=
  packets.foldl (fun names p => addHostname w p.report p.addr names) []

/-! ### The answer -/

/-- What the chooser sends: the family of its socket, the address it connects to, and what it
writes there. -/
structure Answer where
  family : Int
  address : SockAddr
  message : ARRAY8
deriving DecidableEq

/-- The value of a plain `char`. -/
def charValue (b : UInt8) : Int := b.toInt8.toInt

/-- The family and the address that `Choose` takes from `xdmAddress`; none if the family is
not known or the address ends too early. -/
def answerAddress : ARRAY8 → Option (Int × SockAddr)
  | hi :: lo :: port₀ :: port₁ :: addr =>
    let family := charValue hi * 256 + charValue lo
    if family = AddrFamily.inet.number then
      if h : 4 ≤ addr.length then
        some (family, .inet ⟨[port₀, port₁], rfl⟩ ⟨addr.take 4, List.length_take_of_le h⟩)
      else none
    else if family = AddrFamily.inet6.number then
      if h : 16 ≤ addr.length then
        some (family, .inet6 ⟨[port₀, port₁], rfl⟩ ⟨addr.take 16, List.length_take_of_le h⟩ 0)
      else none
    else none
  | _ => none

/-- The size of the buffer of `Choose`. -/
def answerSize : Nat := 1024

/-- `Choose`, if it has an address to answer to. -/
def choose (W : Writer UInt8 answerSize) (app : AppResources) (h : HostName) : Option Answer :=
  match app.xdmAddress, app.clientAddress with
  | some xdm, some clientAddress =>
    (answerAddress xdm).map fun dest =>
      ⟨dest.1, dest.2, W.write [writeARRAY8 clientAddress,
        writeCARD16 (UInt16.ofInt app.connectionType), writeARRAY8 h.hostaddr]⟩
  | _, _ => none

/-- `ProcessChooserSocket`, for what a read from the accepted connection has given. -/
def processChooserSocket (w : World) (buffer : ARRAY8) : M Unit :=
  if buffer = [] then pure ()
  else
    match readARRAY8 buffer with
    | none => pure ()
    | some (clientAddress, buffer) =>
      match readCARD16 buffer with
      | none => pure ()
      | some (connectionType, buffer) =>
        match readARRAY8 buffer with
        | none => pure ()
        | some (choice, _) => registerIndirectChoice w clientAddress connectionType choice

/-! ### The bytes on the command line -/

lemma ofInt_toNat8 (b : UInt8) : UInt8.ofInt b.toNat = b := by
  have hb := b.toNat_lt
  have hmod : (b.toNat : Int) % 2 ^ 8 = b.toNat := by omega
  rw [UInt8.ofInt, hmod, Int.toNat_natCast, UInt8.ofNat_toNat]

lemma ofInt_toNat16 (n : CARD16) : UInt16.ofInt n.toNat = n := by
  have hn := n.toNat_lt
  have hmod : (n.toNat : Int) % 2 ^ 16 = n.toNat := by omega
  rw [UInt16.ofInt, hmod, Int.toNat_natCast, UInt16.ofNat_toNat]

lemma hexChar_hexDigit {n : UInt8} (hn : n.toNat < 16) : hexChar (hexDigit n) = n.toNat := by
  have hall : ∀ m < 16, hexChar ("0123456789abcdef".toList.getD m '0') = m := by decide
  exact hall n.toNat hn

/-- Two digits are the byte from which they come. -/
lemma ofInt_hexDigits (b : UInt8) :
    UInt8.ofInt (hexChar (hexDigit (b >>> 4 &&& 0xf)) * 16 +
      hexChar (hexDigit (b &&& 0xf))) = b := by
  have hb := b.toNat_lt
  have hhi := toNat_highDigit b
  have hlo := toNat_lowDigit b
  have hvalue : ((b.toNat / 16 : Nat) : Int) * 16 + ((b.toNat % 16 : Nat) : Int) = b.toNat := by
    omega
  rw [hexChar_hexDigit (by omega), hexChar_hexDigit (by omega), hhi, hlo, hvalue,
    ofInt_toNat8]

/-- The text of some bytes is read as these bytes, whatever follows it. -/
lemma fromHex_append (data : ARRAY8) (rest : Str) :
    (fromHex (data.flatMap hexDigits ++ rest)).1 = data ++ (fromHex rest).1 := by
  induction data with
  | nil => rfl
  | cons b data ih =>
    rw [List.flatMap_cons, List.append_assoc]
    change UInt8.ofInt _ :: (fromHex (data.flatMap hexDigits ++ rest)).1 = _
    rw [ih, ofInt_hexDigits]
    rfl

lemma length_hexDigits (data : ARRAY8) : (data.flatMap hexDigits).length = 2 * data.length := by
  induction data with
  | nil => rfl
  | cons b data ih =>
    have hbyte : (hexDigits b).length = 2 := rfl
    rw [List.flatMap_cons, List.length_append, ih, hbyte, List.length_cons]
    omega

/-- The NUL that the size of the value counts is dropped. -/
lemma cvtStringToARRAY8_hexDigits {data : ARRAY8} (hdata : data.length < 2 ^ 16) :
    cvtStringToARRAY8 (data.flatMap hexDigits ++ ['\x00']) = data := by
  have hsize : (data.flatMap hexDigits ++ ['\x00']).length >>> 1 = data.length := by
    rw [List.length_append, length_hexDigits, Nat.shiftRight_eq_div_pow]
    simp only [List.length_cons, List.length_nil]
    omega
  rw [cvtStringToARRAY8, if_pos (by omega), fromHex_append]
  exact List.append_nil data

/-- The resources are the bytes and the number that `RunChooser` has written. -/
lemma applicationResources_eq {xt : Toolkit} (hxt : xt.Documented) {command hosts : List Str}
    {result clientAddr : ARRAY8} {connectionType : CARD16}
    (hcommand : xt.isCommand options command) (hhosts : ∀ host ∈ hosts, IsOperand host)
    (hresult : result.length < 2 ^ 16) (hclient : clientAddr.length < 2 ^ 16) :
    applicationResources xt (command ++
        (chooserArguments result clientAddr connectionType).flatMap Argument.words ++ hosts) =
      ⟨some result, some clientAddr, connectionType.toNat⟩ := by
  have hresource := hxt.resource options command
    (chooserArguments result clientAddr connectionType) hosts hcommand (by decide) (by decide)
    (by decide)
    (by simp [chooserArguments]; decide) (by simp [chooserArguments]; decide) hhosts
  have hoptions : ⟨xdmaddressOption, '*' :: "xdmAddress".toList⟩ ∈ options ∧
      ⟨clientaddressOption, '*' :: "clientAddress".toList⟩ ∈ options ∧
      ⟨connectionTypeOption, '*' :: "connectionType".toList⟩ ∈ options := by decide
  have hxdm := hresource _ ⟨xdmaddressOption, _⟩ (List.mem_cons_self ..) hoptions.1
  have hclientAddress := hresource _ ⟨clientaddressOption, _⟩
    (List.mem_cons_of_mem _ (List.mem_cons_self ..)) hoptions.2.1
  have hconnectionType := hresource _ ⟨connectionTypeOption, _⟩
    (List.mem_cons_of_mem _ (List.mem_cons_of_mem _ (List.mem_cons_self ..))) hoptions.2.2
  have hnumber := hxt.stringToInt connectionType.toNat (by have := connectionType.toNat_lt; omega)
  rw [applicationResources, hxdm, hclientAddress, hconnectionType, Option.bind_some, hnumber,
    Option.map_some, Option.map_some, cvtStringToARRAY8_hexDigits hresult,
    cvtStringToARRAY8_hexDigits hclient, Option.getD_some]

/-! ### From the socket back to the socket -/

/-- The answer goes to a port of an address. -/
structure Answer.IsTo (answer : Answer) (port localAddress : List UInt8) : Prop where
  family : answer.family = (chooserFamily localAddress).number
  netaddrFamily : netaddrFamily answer.address = chooserFamily localAddress
  port : netaddrPort answer.address = port
  address : (hostAddress answer.address).1 = localAddress

/-- The address for the answer is as long as it has to be. -/
lemma chooserAddress_eq {w : World} {socket : SockAddr}
    (hsocket : netaddrFamily socket = .inet ∨ netaddrFamily socket = .inet6) :
    ∃ port : Octets 2, netaddrPort socket = port.1 ∧
      chooserAddress w socket =
        some (((chooserFamily (getLocalAddress w)).number >>> 8).toUInt8 ::
          ((chooserFamily (getLocalAddress w)).number &&& 0xff).toUInt8 ::
          (port.1 ++ getLocalAddress w)) := by
  cases socket with
  | inet port addr => exact ⟨port, rfl, rfl⟩
  | inet6 port addr scope => exact ⟨port, rfl, rfl⟩
  | unspec => simp [netaddrFamily] at hsocket
  | unix path => simp [netaddrFamily] at hsocket
  | other n => simp [netaddrFamily] at hsocket

/-- `Choose` finds in the bytes what `FormatChooserArgument` has put there. -/
lemma answerAddress_eq {localAddress : ARRAY8} (port : Octets 2)
    (hlocal : localAddress.length = 4 ∨ localAddress.length = 16) :
    ∃ dest : Int × SockAddr,
      answerAddress (((chooserFamily localAddress).number >>> 8).toUInt8 ::
        ((chooserFamily localAddress).number &&& 0xff).toUInt8 :: (port.1 ++ localAddress)) =
          some dest ∧
      ∀ message, Answer.IsTo ⟨dest.1, dest.2, message⟩ port.1 localAddress := by
  obtain ⟨port₀, port₁, hport⟩ := List.length_eq_two.1 port.2
  obtain rfl : port = ⟨[port₀, port₁], rfl⟩ := Subtype.ext hport
  rcases hlocal with hlocal | hlocal
  · have hfamily : chooserFamily localAddress = .inet := if_neg (by omega)
    have hle : 4 ≤ localAddress.length := hlocal.ge
    have htake : localAddress.take 4 = localAddress := List.take_of_length_le hlocal.le
    rw [hfamily]
    refine ⟨_, dif_pos hle, fun message => ⟨?_, ?_, rfl, htake⟩⟩
    · rw [hfamily]
      rfl
    · rw [hfamily]
      rfl
  · have hfamily : chooserFamily localAddress = .inet6 := if_pos hlocal
    have hle : 16 ≤ localAddress.length := hlocal.ge
    have htake : localAddress.take 16 = localAddress := List.take_of_length_le hlocal.le
    rw [hfamily]
    refine ⟨_, dif_pos hle, fun message => ⟨?_, ?_, rfl, htake⟩⟩
    · rw [hfamily]
      rfl
    · rw [hfamily]
      rfl

/-- What is on the command line is what the chooser needs. -/
lemma exists_chooserAddress {w : World} {socket : SockAddr}
    (hsocket : netaddrFamily socket = .inet ∨ netaddrFamily socket = .inet6)
    (hlocal : (getLocalAddress w).length = 4 ∨ (getLocalAddress w).length = 16) :
    ∃ (result : ARRAY8) (dest : Int × SockAddr), chooserAddress w socket = some result ∧
      result.length ≤ 20 ∧ answerAddress result = some dest ∧
      ∀ message, Answer.IsTo ⟨dest.1, dest.2, message⟩ (netaddrPort socket)
        (getLocalAddress w) := by
  obtain ⟨port, hport, hresult⟩ := chooserAddress_eq (w := w) hsocket
  obtain ⟨dest, hdest, hto⟩ := answerAddress_eq port hlocal
  have hport' : port.1.length = 2 := port.2
  refine ⟨_, dest, hresult, ?_, hdest, ?_⟩
  · rw [List.length_cons, List.length_cons, List.length_append]
    omega
  · rw [hport]
    exact hto

/-! ### The hosts and the message -/

lemma length_hostAddress (addr : SockAddr) : (hostAddress addr).1.length ≤ 16 := by
  cases addr with
  | inet port addr =>
    have haddr : addr.1.length = 4 := addr.2
    change addr.1.length ≤ 16
    omega
  | inet6 port addr scope => exact addr.2.le
  | unspec => exact Nat.zero_le _
  | unix path => exact Nat.zero_le _
  | other n => exact Nat.zero_le _

lemma length_addHostname {w : World} {p : HostPacket} {names : List HostName}
    (hnames : ∀ h ∈ names, h.hostaddr.length ≤ 16) :
    ∀ h ∈ addHostname w p.report p.addr names, h.hostaddr.length ≤ 16 := by
  induction names with
  | nil => simpa [addHostname] using length_hostAddress p.addr
  | cons name names ih =>
    rw [List.forall_mem_cons] at hnames
    unfold addHostname
    split_ifs with hsame hstatus
    · exact List.forall_mem_cons.2 hnames
    · exact List.forall_mem_cons.2 hnames
    · exact List.forall_mem_cons.2 ⟨hnames.1, ih hnames.2⟩

/-- The addresses of the hosts are those of IPv4, those of IPv6, and the empty one. -/
lemma length_hostaddr {w : World} {packets : List HostPacket} {h : HostName}
    (hh : h ∈ hostNamedb w packets) : h.hostaddr.length ≤ 16 := by
  have hfold (l : List HostPacket) : ∀ names : List HostName,
      (∀ h ∈ names, h.hostaddr.length ≤ 16) →
      ∀ h ∈ l.foldl (fun names p => addHostname w p.report p.addr names) names,
        h.hostaddr.length ≤ 16 := by
    induction l with
    | nil => exact fun _ hnames => hnames
    | cons p l ih => exact fun names hnames => ih _ (length_addHostname hnames)
  exact hfold packets [] (by simp) h hh

/-- The daemon reads what the chooser writes. -/
lemma processChooserSocket_message (W : Writer UInt8 answerSize) (w : World)
    {clientAddress hostaddr : ARRAY8} (connectionType : CARD16)
    (hsize : 6 + clientAddress.length + hostaddr.length ≤ answerSize) :
    processChooserSocket w
        (W.write [writeARRAY8 clientAddress, writeCARD16 connectionType, writeARRAY8 hostaddr]) =
      registerIndirectChoice w clientAddress connectionType hostaddr := by
  rw [answerSize] at hsize
  have hclient : ARRAY8.Fits clientAddress := by
    unfold ARRAY8.Fits
    omega
  have hhost : ARRAY8.Fits hostaddr := by
    unfold ARRAY8.Fits
    omega
  have hwrite : W.write [writeARRAY8 clientAddress, writeCARD16 connectionType,
      writeARRAY8 hostaddr] = writeARRAY8 clientAddress ++
        (writeCARD16 connectionType ++ (writeARRAY8 hostaddr ++ [])) := by
    rw [W.write_eq_flatten]
    · simp
    · simp [answerSize]
      omega
  have hne : writeARRAY8 clientAddress ++
      (writeCARD16 connectionType ++ (writeARRAY8 hostaddr ++ [])) ≠ [] := by
    simp [writeARRAY8, writeCARD16]
  rw [hwrite, processChooserSocket, if_neg hne, codec_readARRAY8.read_write _ _ hclient]
  simp only [codec_readCARD16.read_write _ _ trivial]
  simp only [codec_readARRAY8.read_write _ _ hhost]

end Xdm
