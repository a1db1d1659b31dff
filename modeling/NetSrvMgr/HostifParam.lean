import NetSrvMgr.ByteBuffer

namespace NetSrvMgr.Hostif
open ByteBuffer
set_option autoImplicit true

inductive ParamType where
  | stringType | dateTimeType | integerType | unsignedIntType | booleanType | otherType
  deriving DecidableEq

/-- What the compiler and the headers from elsewhere decide. -/
structure Abi where
  nameSize : Nat
  valueSize : Nat
  /-- The type in a message of zero bytes. -/
  zeroType : ParamType
  littleEndian : Bool
  /-- `STRCPY_S` is a function that checks the size, and not `strcpy`. -/
  safec : Bool
  /-- The byte that is stored of a `bool` that has been loaded from a byte. -/
  copyBool : UInt8 → UInt8
  fitsInt : 4 ≤ valueSize
  copyBool_zero : copyBool 0 = 0
  copyBool_one : copyBool 1 = 1

structure HostifMsg where
  paramName : List UInt8
  paramtype : ParamType
  paramValue : List UInt8
  deriving DecidableEq

/-- The string that starts a stretch of memory; `none` where it does not end in it. -/
def stringAt (memory : List UInt8) : Option (List UInt8) :=
  if 0 ∈ memory then some (memory.takeWhile (· ≠ 0)) else none

def overwrite (buff bytes : List UInt8) : List UInt8 := bytes ++ buff.drop bytes.length

section
variable (abi : Abi)

def Abi.intBytes (n : UInt32) : List UInt8 :=
  if abi.littleEndian then (u32Bytes n).reverse else u32Bytes n

def Abi.loadInt (memory : List UInt8) : Option UInt32 :=
  match memory with
  | a :: b :: c :: d :: _ => some (if abi.littleEndian then u32 d c b a else u32 a b c d)
  | _ => none

def putInt (ptr : List UInt8) (val : UInt32) : List UInt8 := overwrite ptr (abi.intBytes val)

def putBoolean (ptr : List UInt8) (val : UInt8) : List UInt8 := overwrite ptr [abi.copyBool val]

def getInt (ptr : List UInt8) : Option UInt32 := abi.loadInt ptr

def getBoolean (ptr : List UInt8) : Option Bool :=
  match ptr with
  | 0 :: _ => some false
  | 1 :: _ => some true
  | _ => none

/-- What `STRCPY_S` leaves; `none` where it writes behind the end. -/
def Abi.strcpyS (ptr source : List UInt8) : Option (List UInt8) :=
  if source.length < ptr.length then some (overwrite ptr (source ++ [0]))
  else if abi.safec then some (overwrite ptr [0])
  else none

/-- The case of a boolean in `setHostifParam`. -/
def booleanCase (value : List UInt8) (param : HostifMsg) : Option HostifMsg :=
  value.head?.map fun byte =>
    { param with paramValue := putBoolean abi param.paramValue byte, paramtype := .booleanType }

/-- The case of the integers, which has no `break`. -/
def integerCase (value : List UInt8) (param : HostifMsg) : Option HostifMsg :=
  (abi.loadInt value).bind fun n =>
    let param :=
      { param with paramValue := putInt abi param.paramValue n, paramtype := .integerType }
    booleanCase abi value param

def stringCase (value : List UInt8) (param : HostifMsg) : Option HostifMsg :=
  (stringAt value).bind fun s =>
    let param := { param with paramtype := .stringType }
    (abi.strcpyS param.paramValue s).map fun paramValue => { param with paramValue }

/-- The `switch` on the type. -/
def fillParam (type : ParamType) (value : List UInt8) (param : HostifMsg) : Option HostifMsg :=
  match type with
  | .stringType => stringCase abi value param
  | .dateTimeType => stringCase abi value param
  | .integerType => integerCase abi value param
  | .unsignedIntType => integerCase abi value param
  | .booleanType => booleanCase abi value param
  | .otherType => some param

/-- The message that is sent, if one is, and the result; `none` where memory is read or written
outside of an object. -/
def setHostifParam (busCallOk : Bool) (name : Option (List UInt8)) (type : ParamType)
    (value : Option (List UInt8)) : Option (Option HostifMsg × Bool) :=
  match name, value with
  | some name, some value =>
    (stringAt name).bind fun paramName =>
    if abi.nameSize < paramName.length + 1 then none
    else
      let param : HostifMsg := ⟨paramName, abi.zeroType, List.replicate abi.valueSize 0⟩
      (fillParam abi type value param).map fun param => (some param, busCallOk)
  | _, _ => some (none, false)

end

/-- A string in memory: its bytes up to the NUL. -/
structure CText where
  bytes : List UInt8
  noNul : 0 ∉ bytes

def CText.memory (s : CText) : List UInt8 := s.bytes ++ [0]

inductive ParamValue where
  | integer (n : Int32)
  | unsignedInt (n : UInt32)
  | boolean (b : Bool)
  | string (s : CText)

namespace ParamValue

def type : ParamValue → ParamType
  | integer _ => .integerType
  | unsignedInt _ => .unsignedIntType
  | boolean _ => .booleanType
  | string _ => .stringType

/-- Both integer kinds are sent as integers. -/
def sentType : ParamValue → ParamType
  | integer _ => .integerType
  | unsignedInt _ => .integerType
  | boolean _ => .booleanType
  | string _ => .stringType

def memory (abi : Abi) : ParamValue → List UInt8
  | integer n => abi.intBytes n.toUInt32
  | unsignedInt n => abi.intBytes n
  | boolean b => [if b then 1 else 0]
  | string s => s.memory

/-- The reader for the kind of value gets the value from the payload. -/
def ReadFrom (abi : Abi) (paramValue : List UInt8) : ParamValue → Prop
  | integer n => (getInt abi paramValue).map UInt32.toInt32 = some n
  | unsignedInt n => getInt abi paramValue = some n
  | boolean b => getBoolean paramValue = some b
  | string s => stringAt paramValue = some s.bytes

end ParamValue

/-- One message is sent, of the type asked for, and the value can be read from it. -/
def Delivers (abi : Abi) (busCallOk : Bool) (name : CText) (value : ParamValue) : Prop :=
  ∃ param, setHostifParam abi busCallOk (some name.memory) value.type (some (value.memory abi)) =
      some (some param, busCallOk) ∧
    param.paramtype = value.sentType ∧ value.ReadFrom abi param.paramValue

/-- Booleans, and strings that fit. -/
def ParamValue.Sendable (abi : Abi) : ParamValue → Prop
  | integer _ => False
  | unsignedInt _ => False
  | boolean _ => True
  | string s => s.bytes.length < abi.valueSize

theorem stringAt_append (s : CText) (rest : List UInt8) :
    stringAt (s.bytes ++ 0 :: rest) = some s.bytes := by
  have hmem : (0 : UInt8) ∈ s.bytes ++ 0 :: rest := List.mem_append_right _ List.mem_cons_self
  have htake : (s.bytes ++ 0 :: rest).takeWhile (· ≠ 0) = s.bytes := by
    rw [List.takeWhile_append_of_pos]
    · rw [List.takeWhile_cons_of_neg (by decide), List.append_nil]
    · intro b hb
      apply decide_eq_true
      intro he
      exact s.noNul (he ▸ hb)
  rw [stringAt, if_pos hmem, htake]

theorem loadInt_intBytes (abi : Abi) (n : UInt32) (rest : List UInt8) :
    abi.loadInt (abi.intBytes n ++ rest) = some n := by
  obtain ⟨a, b, c, d, rfl⟩ := u32_surjective n
  rw [Abi.intBytes, u32Bytes_u32]
  cases hle : abi.littleEndian with
  | true =>
    simp only [if_true, List.reverse_cons, List.reverse_nil, List.nil_append, List.cons_append,
      Abi.loadInt, hle]
  | false =>
    simp only [Bool.false_eq_true, if_false, List.nil_append, List.cons_append, Abi.loadInt, hle]

theorem getBoolean_putBoolean (abi : Abi) (ptr : List UInt8) (b : Bool) :
    getBoolean (putBoolean abi ptr (if b then 1 else 0)) = some b := by
  cases b with
  | true =>
    rw [putBoolean, if_pos rfl, abi.copyBool_one]
    rfl
  | false =>
    rw [putBoolean, if_neg Bool.false_ne_true, abi.copyBool_zero]
    rfl

theorem integerCase_eq (abi : Abi) (n : UInt32) (param : HostifMsg) :
    ∃ byte, (abi.intBytes n).head? = some byte ∧
      integerCase abi (abi.intBytes n) param =
        some { param with
          paramValue := putBoolean abi (putInt abi param.paramValue n) byte
          paramtype := .booleanType } := by
  have hload := loadInt_intBytes abi n []
  rw [List.append_nil] at hload
  obtain ⟨byte, hbyte⟩ : ∃ byte, (abi.intBytes n).head? = some byte := by
    rw [Abi.intBytes]
    cases abi.littleEndian with
    | true => exact ⟨_, rfl⟩
    | false => exact ⟨_, rfl⟩
  refine ⟨byte, hbyte, ?_⟩
  rw [integerCase, hload, Option.bind_some, booleanCase, hbyte]
  rfl

theorem stringCase_eq (abi : Abi) (s : CText) (param : HostifMsg) :
    stringCase abi s.memory param =
      (abi.strcpyS param.paramValue s.bytes).map fun paramValue =>
        { param with paramtype := .stringType, paramValue } := by
  rw [stringCase, CText.memory, stringAt_append]
  rfl

/-- A string that does not fit is cut to nothing, or written behind the end. -/
theorem stringAt_strcpyS_iff (abi : Abi) (s : CText) {ptr : List UInt8} (hptr : ptr ≠ []) :
    (∃ copied, abi.strcpyS ptr s.bytes = some copied ∧ stringAt copied = some s.bytes) ↔
      s.bytes.length < ptr.length := by
  have hempty : stringAt (overwrite ptr [0]) = some [] := stringAt_append ⟨[], by decide⟩ _
  rw [Abi.strcpyS]
  split
  · next hfits =>
    apply iff_of_true _ hfits
    refine ⟨_, rfl, ?_⟩
    rw [overwrite, List.append_assoc]
    exact stringAt_append s _
  · next hfits =>
    apply iff_of_false _ hfits
    rintro ⟨copied, hcopied, hread⟩
    split at hcopied
    · cases hcopied
      rw [hempty, Option.some.injEq] at hread
      rw [← hread] at hfits
      exact hfits (List.length_pos_of_ne_nil hptr)
    · cases hcopied

def zeroMsg (abi : Abi) (name : CText) : HostifMsg :=
  ⟨name.bytes, abi.zeroType, List.replicate abi.valueSize 0⟩

theorem setHostifParam_eq (abi : Abi) (busCallOk : Bool) (name : CText) (type : ParamType)
    (value : List UInt8) :
    setHostifParam abi busCallOk (some name.memory) type (some value) =
      if name.bytes.length < abi.nameSize then
        (fillParam abi type value (zeroMsg abi name)).map fun param => (some param, busCallOk)
      else none := by
  rw [setHostifParam, CText.memory, stringAt_append, Option.bind_some]
  by_cases hname : name.bytes.length < abi.nameSize
  · rw [if_pos hname, if_neg (by omega)]
    rfl
  · rw [if_neg hname, if_pos (by omega)]

theorem delivers_iff_fillParam (abi : Abi) (busCallOk : Bool) (name : CText)
    (value : ParamValue) :
    Delivers abi busCallOk name value ↔ name.bytes.length < abi.nameSize ∧
      ∃ param, fillParam abi value.type (value.memory abi) (zeroMsg abi name) = some param ∧
        param.paramtype = value.sentType ∧ value.ReadFrom abi param.paramValue := by
  rw [Delivers, setHostifParam_eq]
  apply Iff.intro
  · rintro ⟨param, hset, hread⟩
    split at hset
    · next hname =>
      obtain ⟨param', hfill, heq⟩ := Option.map_eq_some_iff.1 hset
      cases heq
      exact ⟨hname, param, hfill, hread⟩
    · cases hset
  · rintro ⟨hname, param, hfill, hread⟩
    refine ⟨param, ?_, hread⟩
    rw [if_pos hname, hfill]
    rfl

theorem integerCase_type (h : integerCase abi (abi.intBytes n) param = some sent) :
    sent.paramtype = .booleanType := by
  obtain ⟨byte, _, heq⟩ := integerCase_eq abi n param
  rw [heq] at h
  cases h
  rfl

/-- A value arrives exactly if it is a boolean or a string that fits; no integer does. -/
theorem setHostifParam_delivers_iff (abi : Abi) (busCallOk : Bool) (name : CText)
    (value : ParamValue) :
    Delivers abi busCallOk name value ↔
      name.bytes.length < abi.nameSize ∧ value.Sendable abi := by
  rw [delivers_iff_fillParam]
  apply and_congr_right
  intro _
  cases value with
  | integer n =>
    apply iff_of_false _ not_false
    rintro ⟨param, hfill, htype, _⟩
    rw [integerCase_type hfill] at htype
    cases htype
  | unsignedInt n =>
    apply iff_of_false _ not_false
    rintro ⟨param, hfill, htype, _⟩
    rw [integerCase_type hfill] at htype
    cases htype
  | boolean b =>
    apply iff_of_true _ trivial
    exact ⟨_, rfl, rfl, getBoolean_putBoolean abi _ b⟩
  | string s =>
    have hptr : (zeroMsg abi name).paramValue ≠ [] := by
      have hsize := abi.fitsInt
      intro he
      have hlen := congrArg List.length he
      rw [zeroMsg, List.length_replicate, List.length_nil] at hlen
      omega
    have hcopy := stringAt_strcpyS_iff abi s hptr
    have hlen : (zeroMsg abi name).paramValue.length = abi.valueSize := List.length_replicate
    have hfill : fillParam abi (ParamValue.string s).type ((ParamValue.string s).memory abi)
        (zeroMsg abi name) =
      (abi.strcpyS (zeroMsg abi name).paramValue s.bytes).map fun paramValue =>
        { zeroMsg abi name with paramtype := .stringType, paramValue } :=
      stringCase_eq abi s (zeroMsg abi name)
    rw [ParamValue.Sendable, ← hlen, ← hcopy, hfill]
    apply Iff.intro
    · rintro ⟨param, hparam, _, hread⟩
      obtain ⟨copied, hcopied, rfl⟩ := Option.map_eq_some_iff.1 hparam
      exact ⟨copied, hcopied, hread⟩
    · rintro ⟨copied, hcopied, hread⟩
      exact ⟨_, Option.map_eq_some_iff.2 ⟨copied, hcopied, rfl⟩, rfl, hread⟩

/-- The compiler's usual choices, with the sizes of a message. -/
def sampleAbi : Abi where
  nameSize := 512
  valueSize := 512
  zeroType := .stringType
  littleEndian := true
  safec := false
  copyBool byte := byte
  fitsInt := by decide
  copyBool_zero := rfl
  copyBool_one := rfl

/-- The reconnect reason 20 arrives as a boolean. -/
theorem setHostifParam_reconnectReason :
    ¬∀ abi busCallOk name value, name.bytes.length < abi.nameSize →
      Delivers abi busCallOk name value := by
  intro h
  obtain ⟨param, hset, htype, _⟩ := h sampleAbi true ⟨[88, 82, 69], by decide⟩ (.integer 20)
    (by decide)
  have hsent : (setHostifParam sampleAbi true (some [88, 82, 69, 0]) .integerType
      (some [20, 0, 0, 0])).bind (fun r => r.1.map HostifMsg.paramtype) =
        some .booleanType := by decide
  have hset' : setHostifParam sampleAbi true (some [88, 82, 69, 0]) .integerType
      (some [20, 0, 0, 0]) = some (some param, true) := hset
  rw [hset', Option.bind_some, Option.map_some, Option.some.injEq, htype] at hsent
  cases hsent

end NetSrvMgr.Hostif
