/-
# The format of the packets

Each reader of `Xdm.Xdmcp.Buffer` inverts the writer of the same format, for numbers, for
arrays within the limits of their length fields, and for the fields of every packet that
has a reader.
-/
import Xdm.Lib.Codec
import Xdm.Xdmcp.Buffer

namespace Xdm

open Prog

/-! ### Numbers -/

lemma codec_readCARD8 : Codec (fun _ => True) (fun b => [b]) readCARD8 where
  read_write := fun _ _ _ => rfl
  eq_write := by
    rintro bs b rest hread
    cases bs with
    | nil => exact nomatch hread
    | cons b' bs =>
      obtain ⟨rfl, rfl⟩ := Prod.mk.inj (Option.some.inj hread)
      exact ⟨trivial, rfl⟩

/-- A `CARD16` from its high and its low byte. -/
lemma eq_card16 (n : CARD16) (hi lo : UInt8) :
    n = hi.toUInt16 <<< 8 ||| lo.toUInt16 ↔ (n >>> 8).toUInt8 = hi ∧ n.toUInt8 = lo := by
  have hlo := lo.toNat_lt
  have hhi := hi.toNat_lt
  have hn := n.toNat_lt
  have hor : hi.toNat <<< 8 ||| lo.toNat = hi.toNat * 256 + lo.toNat := by
    rw [← Nat.shiftLeft_add_eq_or_of_lt hlo, Nat.shiftLeft_eq]
  rw [← UInt16.toNat_inj, ← UInt8.toNat_inj, ← UInt8.toNat_inj]
  simp only [UInt16.toNat_or, UInt16.toNat_shiftLeft, UInt8.toNat_toUInt16,
    UInt16.toNat_toUInt8, UInt16.toNat_shiftRight, UInt16.reduceToNat, Nat.reduceMod]
  rw [Nat.mod_eq_of_lt (by rw [Nat.shiftLeft_eq]; omega), hor, Nat.shiftRight_eq_div_pow]
  omega

lemma codec_readCARD16 : Codec (fun _ => True) writeCARD16 readCARD16 := by
  refine codec_readCARD8.bind (fun n : CARD16 => (n >>> 8).toUInt8) (fun _ _ => trivial)
    fun hi _ => ?_
  change Codec _ (fun n : CARD16 => [n.toUInt8] ++ []) _
  refine codec_readCARD8.bind (fun n : CARD16 => n.toUInt8) (fun _ _ => trivial) fun lo _ => ?_
  refine (Codec.pure _).congr (fun n => ?_) fun _ _ => rfl
  rw [eq_card16]
  tauto

/-- A `CARD32` from its high and its low half. -/
lemma eq_card32 (n : CARD32) (hi lo : CARD16) :
    n = hi.toUInt32 <<< 16 ||| lo.toUInt32 ↔
      (n >>> 16).toUInt16 = hi ∧ n.toUInt16 = lo := by
  have hlo := lo.toNat_lt
  have hhi := hi.toNat_lt
  have hn := n.toNat_lt
  have hor : hi.toNat <<< 16 ||| lo.toNat = hi.toNat * 65536 + lo.toNat := by
    rw [← Nat.shiftLeft_add_eq_or_of_lt hlo, Nat.shiftLeft_eq]
  rw [← UInt32.toNat_inj, ← UInt16.toNat_inj, ← UInt16.toNat_inj]
  simp only [UInt32.toNat_or, UInt32.toNat_shiftLeft, UInt16.toNat_toUInt32,
    UInt32.toNat_toUInt16, UInt32.toNat_shiftRight, UInt32.reduceToNat, Nat.reduceMod]
  rw [Nat.mod_eq_of_lt (by rw [Nat.shiftLeft_eq]; omega), hor, Nat.shiftRight_eq_div_pow]
  omega

lemma codec_readCARD32 : Codec (fun _ => True) writeCARD32 readCARD32 := by
  refine codec_readCARD16.bind (fun n : CARD32 => (n >>> 16).toUInt16) (fun _ _ => trivial)
    fun hi _ => ?_
  change Codec _ (fun n : CARD32 => writeCARD16 n.toUInt16 ++ []) _
  refine codec_readCARD16.bind (fun n : CARD32 => n.toUInt16) (fun _ _ => trivial)
    fun lo _ => ?_
  refine (Codec.pure _).congr (fun n => ?_) fun _ _ => rfl
  rw [eq_card32]
  tauto

/-! ### Arrays -/

lemma codec_readMany {α : Type} {valid : α → Prop} {write : α → List UInt8}
    {read : Reading α} (h : Codec valid write read) (n : Nat) :
    Codec (fun l => l.length = n ∧ ∀ a ∈ l, valid a) (fun l => l.flatMap write)
      (readMany read n) :=
  h.many rfl (fun _ => rfl) n

/-- The length of an `ARRAY8` fits its field. -/
def ARRAY8.Fits (a : ARRAY8) : Prop := a.length < 2 ^ 16

lemma codec_readARRAY8 : Codec ARRAY8.Fits writeARRAY8 readARRAY8 := by
  refine codec_readCARD16.bind (fun a : ARRAY8 => a.length.toUInt16) (fun _ _ => trivial)
    fun n _ => ?_
  refine (codec_readMany codec_readCARD8 n.toNat).congr (fun a => ?_) fun a _ => by simp
  have hn := n.toNat_lt
  simp only [ARRAY8.Fits, ← UInt16.toNat_inj, Nat.toUInt16, UInt16.toNat_ofNat']
  constructor
  · rintro ⟨hlen, hfits⟩
    rw [Nat.mod_eq_of_lt hfits] at hlen
    exact ⟨hlen, fun _ _ => trivial⟩
  · rintro ⟨hlen, -⟩
    rw [hlen]
    exact ⟨Nat.mod_eq_of_lt hn, hn⟩

/-- The length of an array, and of what it holds, fits its field. -/
structure FitsArray {α : Type} (valid : α → Prop) (l : List α) : Prop where
  length : l.length < 2 ^ 8
  items : ∀ a ∈ l, valid a

lemma codec_readArray {α : Type} {valid : α → Prop} {write : α → List UInt8}
    {read : Reading α} (h : Codec valid write read) :
    Codec (FitsArray valid) (fun l => l.length.toUInt8 :: l.flatMap write)
      (readCARD8 >>= fun length => readMany read length.toNat) := by
  refine codec_readCARD8.bind (fun l : List α => l.length.toUInt8) (fun _ _ => trivial)
    fun n _ => ?_
  refine (codec_readMany h n.toNat).congr (fun l => ?_) fun _ _ => rfl
  have hn := n.toNat_lt
  simp only [← UInt8.toNat_inj, Nat.toUInt8, UInt8.toNat_ofNat']
  constructor
  · rintro ⟨hlen, hfits⟩
    rw [Nat.mod_eq_of_lt hfits.length] at hlen
    exact ⟨hlen, hfits.items⟩
  · rintro ⟨hlen, hitems⟩
    refine ⟨?_, ?_, hitems⟩
    · rw [hlen, Nat.mod_eq_of_lt hn]
    · rw [hlen]
      exact hn

lemma codec_readARRAY16 : Codec (FitsArray fun _ => True) writeARRAY16 readARRAY16 :=
  codec_readArray codec_readCARD16

/-- An array of `ARRAY8` within the limits of the format. -/
abbrev FitsARRAYofARRAY8 (a : List ARRAY8) : Prop := FitsArray ARRAY8.Fits a

lemma codec_readARRAYofARRAY8 :
    Codec FitsARRAYofARRAY8 writeARRAYofARRAY8 readARRAYofARRAY8 :=
  codec_readArray codec_readARRAY8

/-! ### Sizes -/

@[simp] lemma length_writeCARD16 (n : CARD16) : (writeCARD16 n).length = 2 := rfl

@[simp] lemma length_writeCARD32 (n : CARD32) : (writeCARD32 n).length = 4 := rfl

@[simp] lemma length_writeARRAY8 (a : ARRAY8) : (writeARRAY8 a).length = 2 + a.length := by
  simp [writeARRAY8]

@[simp] lemma length_writeARRAY16 (a : List CARD16) :
    (writeARRAY16 a).length = 1 + 2 * a.length := by
  simp [writeARRAY16, List.length_flatMap]
  omega

@[simp] lemma length_writeARRAYofARRAY8 (a : List ARRAY8) :
    (writeARRAYofARRAY8 a).length = 1 + sizeARRAYofARRAY8 a := by
  simp [writeARRAYofARRAY8, List.length_flatMap, sizeARRAYofARRAY8]
  omega

@[simp] lemma length_writeHeader (opcode : CARD16) (length : Nat) :
    (writeHeader opcode length).length = 6 := rfl

/-! ### The fields of the packets -/

lemma codec_readHeader : Codec (fun _ => True)
    (fun h : XdmcpHeader => writeCARD16 h.version ++ writeCARD16 h.opcode ++
      writeCARD16 h.length) readHeader := by
  suffices h : Codec (fun _ => True) (fun h : XdmcpHeader => writeCARD16 h.version ++
      (writeCARD16 h.opcode ++ (writeCARD16 h.length ++ []))) readHeader from
    h.congr (fun _ => Iff.rfl) fun h _ => by simp
  refine codec_readCARD16.bind XdmcpHeader.version (fun _ _ => trivial) fun version _ => ?_
  refine codec_readCARD16.bind XdmcpHeader.opcode (fun _ _ => trivial) fun opcode _ => ?_
  refine codec_readCARD16.bind XdmcpHeader.length (fun _ _ => trivial) fun length _ => ?_
  refine (Codec.pure _).congr (fun h => ⟨?_, ?_⟩) fun _ _ => rfl
  · rintro ⟨rfl, rfl, rfl, -⟩
    rfl
  · rintro rfl
    exact ⟨rfl, rfl, rfl, trivial⟩

/-- The fields of a `REQUEST`, in their order. -/
def Request.fields (r : Request) : ARRAY8 :=
  writeCARD16 r.displayNumber ++ (writeARRAY16 r.connectionTypes ++
    (writeARRAYofARRAY8 r.connectionAddresses ++ (writeARRAY8 r.authenticationName ++
      (writeARRAY8 r.authenticationData ++ (writeARRAYofARRAY8 r.authorizationNames ++
        (writeARRAY8 r.manufacturerDisplayID ++ []))))))

/-- The arrays of a `REQUEST` are within the limits of the format. -/
structure Request.Fits (r : Request) : Prop where
  connectionTypes : r.connectionTypes.length < 2 ^ 8
  connectionAddresses : FitsARRAYofARRAY8 r.connectionAddresses
  authenticationName : ARRAY8.Fits r.authenticationName
  authenticationData : ARRAY8.Fits r.authenticationData
  authorizationNames : FitsARRAYofARRAY8 r.authorizationNames
  manufacturerDisplayID : ARRAY8.Fits r.manufacturerDisplayID

lemma codec_readRequest : Codec Request.Fits Request.fields readRequest := by
  unfold readRequest
  refine codec_readCARD16.bind Request.displayNumber (fun _ _ => trivial) fun _ _ => ?_
  refine codec_readARRAY16.bind Request.connectionTypes
    (fun r h => ⟨h.2.connectionTypes, fun _ _ => trivial⟩) fun _ htypes => ?_
  refine codec_readARRAYofARRAY8.bind Request.connectionAddresses
    (fun r h => h.2.2.connectionAddresses) fun _ haddresses => ?_
  refine codec_readARRAY8.bind Request.authenticationName
    (fun r h => h.2.2.2.authenticationName) fun _ hname => ?_
  refine codec_readARRAY8.bind Request.authenticationData
    (fun r h => h.2.2.2.2.authenticationData) fun _ hdata => ?_
  refine codec_readARRAYofARRAY8.bind Request.authorizationNames
    (fun r h => h.2.2.2.2.2.authorizationNames) fun _ hnames => ?_
  refine codec_readARRAY8.bind Request.manufacturerDisplayID
    (fun r h => h.2.2.2.2.2.2.manufacturerDisplayID) fun _ hid => ?_
  refine (Codec.pure _).congr (fun r => ⟨?_, ?_⟩) fun _ _ => rfl
  · rintro ⟨rfl, rfl, rfl, rfl, rfl, rfl, rfl, -⟩
    rfl
  · rintro rfl
    exact ⟨rfl, rfl, rfl, rfl, rfl, rfl, rfl, htypes.length, haddresses, hname, hdata, hnames,
      hid⟩

def Manage.fields (m : Manage) : ARRAY8 :=
  writeCARD32 m.sessionID ++ (writeCARD16 m.displayNumber ++ (writeARRAY8 m.displayClass ++ []))

lemma codec_readManage :
    Codec (fun m => ARRAY8.Fits m.displayClass) Manage.fields readManage := by
  unfold readManage
  refine codec_readCARD32.bind Manage.sessionID (fun _ _ => trivial) fun _ _ => ?_
  refine codec_readCARD16.bind Manage.displayNumber (fun _ _ => trivial) fun _ _ => ?_
  refine codec_readARRAY8.bind Manage.displayClass (fun _ h => h.2.2) fun _ hclass => ?_
  refine (Codec.pure _).congr (fun m => ⟨?_, ?_⟩) fun _ _ => rfl
  · rintro ⟨rfl, rfl, rfl, -⟩
    rfl
  · rintro rfl
    exact ⟨rfl, rfl, rfl, hclass⟩

def ForwardQuery.fields (q : ForwardQuery) : ARRAY8 :=
  writeARRAY8 q.clientAddress ++ (writeARRAY8 q.clientPort ++
    (writeARRAYofARRAY8 q.authenticationNames ++ []))

/-- The arrays of a `FORWARD_QUERY` are within the limits of the format. -/
structure ForwardQuery.Fits (q : ForwardQuery) : Prop where
  clientAddress : ARRAY8.Fits q.clientAddress
  clientPort : ARRAY8.Fits q.clientPort
  authenticationNames : FitsARRAYofARRAY8 q.authenticationNames

lemma codec_readForwardQuery :
    Codec ForwardQuery.Fits ForwardQuery.fields readForwardQuery := by
  unfold readForwardQuery
  refine codec_readARRAY8.bind ForwardQuery.clientAddress (fun _ h => h.clientAddress)
    fun _ haddress => ?_
  refine codec_readARRAY8.bind ForwardQuery.clientPort (fun _ h => h.2.clientPort)
    fun _ hport => ?_
  refine codec_readARRAYofARRAY8.bind ForwardQuery.authenticationNames
    (fun _ h => h.2.2.authenticationNames) fun _ hnames => ?_
  refine (Codec.pure _).congr (fun q => ⟨?_, ?_⟩) fun _ _ => rfl
  · rintro ⟨rfl, rfl, rfl, -⟩
    rfl
  · rintro rfl
    exact ⟨rfl, rfl, rfl, haddress, hport, hnames⟩

def KeepAlive.fields (k : KeepAlive) : ARRAY8 :=
  writeCARD16 k.displayNumber ++ (writeCARD32 k.sessionID ++ [])

lemma codec_readKeepAlive : Codec (fun _ => True) KeepAlive.fields readKeepAlive := by
  unfold readKeepAlive
  refine codec_readCARD16.bind KeepAlive.displayNumber (fun _ _ => trivial) fun _ _ => ?_
  refine codec_readCARD32.bind KeepAlive.sessionID (fun _ _ => trivial) fun _ _ => ?_
  refine (Codec.pure _).congr (fun k => ⟨?_, ?_⟩) fun _ _ => rfl
  · rintro ⟨rfl, rfl, -⟩
    rfl
  · rintro rfl
    exact ⟨rfl, rfl, trivial⟩

end Xdm
