import NetSrvMgr.CString
import NetSrvMgr.LastWrite
import Mathlib.Logic.Function.Basic

namespace NetSrvMgr.Config
open CString LastWrite
set_option autoImplicit true

/-- `strncasecmp` finds no difference. -/
def strncaseeq (s t : CStr) (n : Nat) : Bool :=
  (s.map Char.toLower).take n = (t.map Char.toLower).take n

def isDigit (c : Char) : Bool := '0' ≤ c ∧ c ≤ '9'

def digitsValue (s : CStr) : Nat :=
  (s.takeWhile isDigit).foldl (fun n c => n * 10 + (c.toNat - '0'.toNat)) 0

/-- `atoi`, through a `long` of 64 bits that stops at its ends. -/
def atoi (s : CStr) : Int :=
  let long (n : Int) : Int :=
    (max (-9223372036854775808) (min n 9223372036854775807)).bmod 4294967296
  match s.dropWhile fun c => isSpace c || c = '\x0b' with
  | '-' :: s => long (-(digitsValue s))
  | '+' :: s => long (digitsValue s)
  | s => long (digitsValue s)

/-- `STRCPY_S` of a string that fits; one that does not leaves nothing that is known. -/
def strcpyS (source : CStr) : CharArray (n + 1) :=
  if hfits : source.length < n + 1 then ⟨source, hfits⟩ else ⟨[], Nat.succ_pos n⟩

inductive FieldType where
  | ushort | uint | bool | buffer128 | buffer16

namespace FieldType

def Val : FieldType → Type
  | ushort => UInt16
  | uint => UInt32
  | bool => Bool
  | buffer128 => CharArray 128
  | buffer16 => CharArray 16

instance : (t : FieldType) → DecidableEq t.Val
  | ushort => inferInstanceAs (DecidableEq UInt16)
  | uint => inferInstanceAs (DecidableEq UInt32)
  | bool => inferInstanceAs (DecidableEq Bool)
  | buffer128 => inferInstanceAs (DecidableEq (CharArray 128))
  | buffer16 => inferInstanceAs (DecidableEq (CharArray 16))

def read : (t : FieldType) → CStr → t.Val
  | ushort, value => UInt16.ofInt (atoi value)
  | uint, value => UInt32.ofInt (atoi value)
  | bool, value => decide (atoi value ≠ 0)
  | buffer128, value => (strcpyS value : CharArray 128)
  | buffer16, value => (strcpyS value : CharArray 16)

/-- Whether the value has room in the field. -/
def fits : FieldType → CStr → Bool
  | buffer128, value => value.length < 128
  | buffer16, value => value.length < 16
  | _, _ => true

def zero : (t : FieldType) → t.Val
  | ushort => (0 : UInt16)
  | uint => (0 : UInt32)
  | bool => false
  | buffer128 => (strcpyS [] : CharArray 128)
  | buffer16 => (strcpyS [] : CharArray 16)

end FieldType

def wifiConfig : CStr := "WiFiMgr_Config".toList
def stunConfig : CStr := "Stun_Config".toList

/-- The fields of `wifiProps` and `stunProps`. -/
inductive Field where
  | maxTimeout | bEnableLostFound | lnfRetryInSecs | lnfStartInSecs | getAuthTokenUrl
  | getLfatUrl | setLfatUrl | lfatVersion | lfatTTL | lnfRetryCount | authServerURL
  | disableWpsXRE
  | server | port | interface | ipv6 | bindTimeout | cacheTimeout
  deriving DecidableEq

namespace Field

def type : Field → FieldType
  | maxTimeout => .ushort
  | bEnableLostFound => .bool
  | lnfRetryInSecs => .ushort
  | lnfStartInSecs => .ushort
  | getAuthTokenUrl => .buffer128
  | getLfatUrl => .buffer128
  | setLfatUrl => .buffer128
  | lfatVersion => .buffer128
  | lfatTTL => .uint
  | lnfRetryCount => .ushort
  | authServerURL => .buffer128
  | disableWpsXRE => .bool
  | server => .buffer128
  | port => .ushort
  | interface => .buffer16
  | ipv6 => .bool
  | bindTimeout => .ushort
  | cacheTimeout => .ushort

def key : Field → CStr
  | maxTimeout => "MAX_TIMEOUT_ON_DISCONNECT".toList
  | bEnableLostFound => "ENABLE_LOST_FOUND".toList
  | lnfRetryInSecs => "LAF_CONNECT_RETRY_INTERVAL".toList
  | lnfStartInSecs => "LAF_CONNECT_START_INTERVAL".toList
  | getAuthTokenUrl => "GET_AUTHTOKEN_URL".toList
  | getLfatUrl => "GET_LFAT_URL".toList
  | setLfatUrl => "SET_LFAT_URL".toList
  | lfatVersion => "LFAT_VERSION".toList
  | lfatTTL => "LFAT_TTL".toList
  | lnfRetryCount => "LAF_CONNECTION_RETRY".toList
  | authServerURL => "AUTHSERVER_URL".toList
  | disableWpsXRE => "disableWpsXRE".toList
  | server => "STUN_SERVER".toList
  | port => "STUN_PORT".toList
  | interface => "STUN_INTERFACE".toList
  | ipv6 => "STUN_IPV6".toList
  | bindTimeout => "STUN_BIND_TIMEOUT".toList
  | cacheTimeout => "STUN_CACHE_TIMEOUT".toList

end Field

/-- The tests of the first section, in their order: each is made. -/
def wifiFields : List Field :=
  [.maxTimeout, .bEnableLostFound, .lnfRetryInSecs, .lnfStartInSecs, .getAuthTokenUrl,
    .getLfatUrl, .setLfatUrl, .lfatVersion, .lfatTTL, .lnfRetryCount, .authServerURL,
    .disableWpsXRE]

/-- The tests of the second section, in their order: the first that succeeds is the last. -/
def stunFields : List Field :=
  [.server, .port, .interface, .ipv6, .bindTimeout, .cacheTimeout]

def Field.group (f : Field) : CStr := if f ∈ wifiFields then wifiConfig else stunConfig

abbrev ConfProps := (f : Field) → f.type.Val

namespace ConfProps

def bindTimeout (props : ConfProps) : UInt16 := props .bindTimeout

def cacheTimeout (props : ConfProps) : UInt16 := props .cacheTimeout

def setBindTimeout (props : ConfProps) (n : UInt16) : ConfProps :=
  Function.update props .bindTimeout n

def setCacheTimeout (props : ConfProps) (n : UInt16) : ConfProps :=
  Function.update props .cacheTimeout n

end ConfProps

/-- The properties, and whether an array has been written behind its end. -/
structure ReadState where
  props : ConfProps
  overrun : Bool

structure KeyFileEntry where
  key : CStr
  value : CStr

/-- A group of the key file, with the keys as `g_key_file_get_keys` lists them. -/
structure KeyFileGroup where
  name : CStr
  entries : List KeyFileEntry

/-- The build, and whether the Ethernet interface is active while the file is read. -/
structure ConfigEnv where
  safec : Bool
  interfaceActive : Bool

/-- The comparison is limited by the length of the string from the file. -/
def hits (name fromFile : CStr) : Bool := strncaseeq name fromFile fromFile.length

def stunDefaultBindTimeout : UInt16 := 30
def stunDefaultCacheTimeout : UInt16 := 0

section
variable (env : ConfigEnv)

def ReadState.set (s : ReadState) (f : Field) (value : CStr) : ReadState where
  props := Function.update s.props f (f.type.read value)
  overrun := s.overrun || (!env.safec && !f.type.fits value)

def Field.enabled (f : Field) : Bool := !(f = .bEnableLostFound && env.interfaceActive)

def readWifiEntry (s : ReadState) (entry : KeyFileEntry) : ReadState :=
  wifiFields.foldl
    (fun s f => if hits f.key entry.key && f.enabled env then s.set env f entry.value else s) s

def readStunEntry (s : ReadState) (entry : KeyFileEntry) : ReadState :=
  match stunFields.find? fun f => hits f.key entry.key with
  | none => s
  | some f => s.set env f entry.value

def ReadState.stunDefaults (s : ReadState) : ReadState :=
  let props :=
    if s.props.bindTimeout = 0 then s.props.setBindTimeout stunDefaultBindTimeout else s.props
  { s with props :=
      if props.cacheTimeout = 0 then props.setCacheTimeout stunDefaultCacheTimeout else props }

def readGroup (s : ReadState) (group : KeyFileGroup) : ReadState :=
  if hits wifiConfig group.name then group.entries.foldl (readWifiEntry env) s
  else if hits stunConfig group.name then
    (group.entries.foldl (readStunEntry env) s).stunDefaults
  else s

/-- The result, and what becomes of the properties; `none` where there is no file, or none that
can be loaded. -/
def readConfigProps (keyFile : Option (List KeyFileGroup)) (confProp : ConfProps) :
    Bool × ReadState :=
  match keyFile with
  | none => (false, ⟨confProp, false⟩)
  | some groups => (true, groups.foldl (readGroup env) ⟨confProp, false⟩)

end

/-- The entry is one for the field: the names are the documented ones, in any case. -/
def Field.isEntry (f : Field) (group : KeyFileGroup) (entry : KeyFileEntry) : Bool :=
  strcaseeq f.group group.name && strcaseeq f.key entry.key

def groupEntries (group : KeyFileGroup) : List (KeyFileGroup × KeyFileEntry) :=
  group.entries.map fun entry => (group, entry)

def fileEntries (groups : List KeyFileGroup) : List (KeyFileGroup × KeyFileEntry) :=
  groups.flatMap groupEntries

/-- What the last entry for the field says, or else the value before. -/
def Field.configured (f : Field) (groups : List KeyFileGroup) (confProp : ConfProps) :
    f.type.Val :=
  lastWrite (fun e => if f.isEntry e.1 e.2 then some (f.type.read e.2.value) else none)
    (fileEntries groups) (confProp f)

/-- Every field is as configured. -/
def SetsConfigured (env : ConfigEnv) (groups : List KeyFileGroup) (confProp : ConfProps) :
    Prop :=
  (readConfigProps env (some groups) confProp).2.overrun = false ∧
    ∀ f, (readConfigProps env (some groups) confProp).2.props f = f.configured groups confProp

/-- Zero is replaced by the default. -/
def orDefault (bindTimeout : UInt16) : UInt16 :=
  if bindTimeout = 0 then stunDefaultBindTimeout else bindTimeout

def defaultedIn (groups : List KeyFileGroup) (bindTimeout : UInt16) : UInt16 :=
  if groups.any fun group => strcaseeq stunConfig group.name then orDefault bindTimeout
  else bindTimeout

/-- Every field is as configured, but that the entries for `bEnableLostFound` do not count while
the Ethernet interface is active, and that a file with the second section does not leave
`bindTimeout` zero. -/
structure SetsDesigned (env : ConfigEnv) (groups : List KeyFileGroup) (confProp : ConfProps) :
    Prop where
  returns : (readConfigProps env (some groups) confProp).1 = true
  inBounds : (readConfigProps env (some groups) confProp).2.overrun = false
  fields : ∀ f, f ≠ .bEnableLostFound → f ≠ .bindTimeout →
    (readConfigProps env (some groups) confProp).2.props f = f.configured groups confProp
  lostFound : (readConfigProps env (some groups) confProp).2.props .bEnableLostFound =
    if env.interfaceActive then confProp .bEnableLostFound
    else Field.bEnableLostFound.configured groups confProp
  bindTimeout : (readConfigProps env (some groups) confProp).2.props.bindTimeout =
    defaultedIn groups (Field.bindTimeout.configured groups confProp)

/-- No section has a name that is cut short, nor in a section a key. -/
def NamesWhole (groups : List KeyFileGroup) : Prop :=
  ∀ group ∈ groups, ∀ f : Field, hits f.group group.name = true →
    strcaseeq f.group group.name = true ∧
      ∀ entry ∈ group.entries, hits f.key entry.key = true → strcaseeq f.key entry.key = true

def ValuesFit (groups : List KeyFileGroup) : Prop :=
  ∀ e ∈ fileEntries groups, ∀ f : Field, f.isEntry e.1 e.2 = true → f.type.fits e.2.value = true

end NetSrvMgr.Config
