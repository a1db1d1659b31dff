import NetSrvMgr.ByteBuffer

namespace NetSrvMgr.Stun
open ByteBuffer
set_option autoImplicit true

namespace MessageType

def bindingRequest : UInt16 := 0x001
def bindingResponse : UInt16 := 0x0101

end MessageType

namespace AttributeType

def mappedAddress : UInt16 := 0x001
def changeRequest : UInt16 := 0x0003

end AttributeType

abbrev Buffer := List UInt8

structure Attribute where
  type : UInt16
  length : UInt16
  value : Buffer
  deriving DecidableEq

structure MessageHeader where
  messageType : UInt16
  messageLength : UInt16
  transactionId : List.Vector UInt8 16
  deriving DecidableEq

structure Message where
  header : MessageHeader
  attrs : List Attribute
  deriving DecidableEq

def Message.findAttribute (m : Message) (attrType : UInt16) : Option Attribute :=
  m.attrs.find? fun attr => attrType = attr.type

def encodeU16 (buff : Buffer) (n : UInt16) : Buffer := buff ++ [u16Hi n, u16Lo n]

def encodeAttr (buff : Buffer) (v : Attribute) : Buffer :=
  encodeU16 (encodeU16 buff v.type) v.length ++ v.value

def Message.encode (m : Message) : Buffer :=
  let bytes := encodeU16 [] m.header.messageType
  let bytes := encodeU16 bytes m.header.messageLength
  let bytes := bytes ++ m.header.transactionId.toList
  m.attrs.foldl encodeAttr bytes

/-- The `CHANGE-REQUEST` message of every binding attempt, given its random transaction id. -/
def createBindingRequest (transactionId : List.Vector UInt8 16) : Message where
  header := ⟨MessageType.bindingRequest, 8, transactionId⟩
  attrs := [⟨AttributeType.changeRequest, 4, [0, 0, 0, 0]⟩]

/-- The length field of an attribute is the size of its value. -/
def Attribute.Sized (a : Attribute) : Prop := a.length.toNat = a.value.length

instance (a : Attribute) : Decidable a.Sized := inferInstanceAs (Decidable (_ = _))

def Attribute.bytes (a : Attribute) : Buffer := encodeAttr [] a

def attrBytes (as : List Attribute) : Buffer := as.flatMap Attribute.bytes

@[simp] theorem attrBytes_cons (a : Attribute) (as : List Attribute) :
    attrBytes (a :: as) = a.bytes ++ attrBytes as := rfl

theorem Attribute.bytes_eq (a : Attribute) :
    a.bytes = u16Hi a.type :: u16Lo a.type :: u16Hi a.length :: u16Lo a.length :: a.value := rfl

theorem encodeAttr_eq (buff : Buffer) (a : Attribute) : encodeAttr buff a = buff ++ a.bytes := by
  rw [Attribute.bytes_eq, encodeAttr, encodeU16, encodeU16, List.append_assoc, List.append_assoc]
  rfl

theorem foldl_encodeAttr (buff : Buffer) (as : List Attribute) :
    as.foldl encodeAttr buff = buff ++ attrBytes as := by
  induction as generalizing buff with
  | nil => exact (List.append_nil buff).symm
  | cons a as ih =>
    rw [List.foldl_cons, ih, encodeAttr_eq, List.append_assoc, attrBytes_cons]

theorem Message.encode_eq (m : Message) : m.encode =
    u16Hi m.header.messageType :: u16Lo m.header.messageType ::
    u16Hi m.header.messageLength :: u16Lo m.header.messageLength ::
      (m.header.transactionId.toList ++ attrBytes m.attrs) := by
  rw [Message.encode, foldl_encodeAttr]
  rfl

end NetSrvMgr.Stun
