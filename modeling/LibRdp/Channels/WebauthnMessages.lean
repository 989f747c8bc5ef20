import LibRdp.Channels.CborExact
import LibRdp.Connect.Tpkt

/-! # WebAuthn requests and responses

A request is a map with up to five pairs, whose number is written before them. A response is a
result and a payload, which is made of maps as well.
-/

namespace LibRdp.Channels

open Coding (fromBigEndian)
open Coding.Cbor
open Connect (u16BeBytes u32BeBytes)

def ascii (text : String) : Bytes := text.toList.map fun letter => UInt8.ofNat letter.toNat

/-! ## Reading -/

/-- `rdp_webauthn_cbor_read_uint`; the second part is what was consumed. -/
def cborReadUint (data : Bytes) : Attempt (UInt32 × Nat) := do
  let item ← cborReadItem data
  if item.major ≠ 0 ∨ item.value > 0xffffffff then refuse .protocolError
  else pure (UInt32.ofNat item.value, item.headerLen)

/-- `rdp_webauthn_cbor_read_slice`. -/
def cborReadSlice (data : Bytes) (expectedMajor : Nat) : Attempt (Bytes × Nat) := do
  let item ← cborReadItem data
  if item.major ≠ expectedMajor ∨ item.value = cborIndefinite ∨ item.value > sizeMax ∨
      item.headerLen > data.length ∨ item.value > data.length - item.headerLen then
    refuse .protocolError
  else pure ((data.drop item.headerLen).take item.value, item.headerLen + item.value)

/-! ## Writing -/

/-- `rdp_webauthn_write_type_len`; the writers give the bytes that they append. -/
def writeTypeLen (major length : Nat) : Attempt Bytes :=
  if major > 7 then refuse .invalidArgument
  else
    let type := UInt8.ofNat (major <<< 5)
    if length < 24 then pure [type ||| UInt8.ofNat length]
    else if length ≤ 0xff then pure [type ||| 24, UInt8.ofNat length]
    else if length ≤ 0xffff then pure ((type ||| 25) :: u16BeBytes length)
    else if length ≤ 0xffffffff then pure ((type ||| 26) :: u32BeBytes length)
    else refuse .invalidArgument

/-- `rdp_webauthn_write_text`. -/
def writeText (text : Bytes) : Attempt Bytes :=
  if text.length > webauthnMaxMessage then refuse .invalidArgument
  else do
    let head ← writeTypeLen 3 text.length
    pure (head ++ text)

/-- `rdp_webauthn_write_uint`. -/
def writeUint (value : UInt32) : Attempt Bytes :=
  if value < 24 then pure [value.toUInt8]
  else if value ≤ 0xff then pure [0x18, value.toUInt8]
  else if value ≤ 0xffff then pure (0x19 :: u16BeBytes value.toNat)
  else pure (0x1a :: u32BeBytes value.toNat)

/-- `rdp_webauthn_write_bool`. -/
def writeBool (value : UInt8) : Attempt Bytes := pure [if value ≠ 0 then 0xf5 else 0xf4]

/-- `rdp_webauthn_write_bytes`. -/
def writeBytes (data : Bytes) : Attempt Bytes :=
  if data.length > webauthnMaxMessage then refuse .invalidArgument
  else do
    let head ← writeTypeLen 2 data.length
    pure (head ++ data)

def writeAll : List (Attempt Bytes) → Attempt Bytes
  | [] => pure []
  | write :: writes => do
      let bytes ← write
      let others ← writeAll writes
      pure (bytes ++ others)

/-- `rdp_webauthn_write_text_pair` and its like. -/
def writeTextPair (key : String) (value : Bytes) : Attempt Bytes :=
  writeAll [writeText (ascii key), writeText value]

def writeUintPair (key : String) (value : UInt32) : Attempt Bytes :=
  writeAll [writeText (ascii key), writeUint value]

def writeBoolPair (key : String) (value : UInt8) : Attempt Bytes :=
  writeAll [writeText (ascii key), writeBool value]

def writeBytesPair (key : String) (value : Bytes) : Attempt Bytes :=
  writeAll [writeText (ascii key), writeBytes value]

/-! ## Requests -/

/-- `RDP_WEBAUTHN_COMMAND_WEB_AUTHN` and `RDP_WEBAUTHN_COMMAND_CANCEL`. -/
def commandWebAuthn : UInt32 := 5

def commandCancel : UInt32 := 7

/-- `rdp_webauthn_command_valid`. -/
def commandValid (command : UInt32) : Bool := [5, 6, 7, 8, 9, 12].contains command

/-- `RDP_WEBAUTHN_FLAG_KNOWN_MASK`. -/
def flagKnownMask : UInt32 :=
  0x00020000 ||| 0x00040000 ||| 0x00008000 ||| 0x00100000 ||| 0x00400000 ||| 0x00800000 |||
    0x01000000 ||| 0x04000000 ||| 0x08000000

/-- `rdp_webauthn_flags_valid`. -/
def flagsValid (flags : UInt32) : Bool := flags &&& ~~~flagKnownMask == 0

/-- `RDP_WEBAUTHN_GUID_LENGTH`. -/
def guidLength : Nat := 16

/-- What `rdp_webauthn_write_request` is given; no request is an empty one. -/
structure RequestArguments where
  command : UInt32
  flags : UInt32
  request : Bytes
  rpId : Option Bytes
  transactionId : Option {id : Bytes // id.length = guidLength}

/-- The first byte is `RDP_WEBAUTHN_CMD_MAKE_CREDENTIAL` or `RDP_WEBAUTHN_CMD_GET_ASSERTION`. -/
def ctapCommand (request : Bytes) : Bool :=
  match request with
  | first :: _ => first == 0x01 || first == 0x02
  | [] => false

/-- What both the writer and the parser ask of the request of a command. -/
def requestFits (command : UInt32) (request : Bytes) : Bool :=
  (command ≠ commandCancel || request.length = guidLength) &&
    (command ≠ commandWebAuthn || ctapCommand request)

def RequestArguments.pairs (arguments : RequestArguments) : Nat :=
  1 + (if arguments.flags ≠ 0 then 1 else 0) + (if arguments.request.length > 0 then 1 else 0) +
    (if arguments.rpId.isSome then 1 else 0) + (if arguments.transactionId.isSome then 1 else 0)

def writeGiven (field : Option α) (write : α → Attempt Bytes) : Attempt Bytes :=
  match field with
  | some a => write a
  | none => pure []

/-- `rdp_webauthn_write_request`. -/
def writeRequest (arguments : RequestArguments) : Attempt Bytes :=
  if ¬ commandValid arguments.command ∨ ¬ flagsValid arguments.flags ∨
      arguments.request.length > webauthnMaxMessage then refuse .invalidArgument
  else if ¬ requestFits arguments.command arguments.request then refuse .invalidArgument
  else
    writeAll [
      writeTypeLen 5 arguments.pairs,
      writeUintPair "command" arguments.command,
      if arguments.flags ≠ 0 then writeUintPair "flags" arguments.flags else pure [],
      if arguments.request.length > 0 then writeBytesPair "request" arguments.request else pure [],
      writeGiven arguments.rpId (writeTextPair "rpId"),
      writeGiven arguments.transactionId fun id => writeBytesPair "transactionid" id.1]

/-- `rdp_webauthn_request`; a field that was not there is a null pointer. -/
structure WebauthnRequest where
  command : UInt32 := 0
  flags : UInt32 := 0
  hasFlags : Bool := false
  request : Option Bytes := none
  rpId : Option Bytes := none
  transactionId : Option Bytes := none
  deriving Repr, DecidableEq

/-- The request so far, and `has_command`. -/
structure RequestState where
  request : WebauthnRequest := {}
  hasCommand : Bool := false
  deriving Repr, DecidableEq

/-- The value of a pair, chosen by its key; the second part is what was consumed. -/
def requestValue (key value : Bytes) (state : RequestState) : Attempt (RequestState × Nat) :=
  if key = ascii "command" then do
    let (command, consumed) ← cborReadUint value
    pure ({ request := { state.request with command }, hasCommand := true }, consumed)
  else if key = ascii "flags" then do
    let (flags, consumed) ← cborReadUint value
    if ¬ flagsValid flags then refuse .protocolError
    else pure ({ state with request := { state.request with flags, hasFlags := true } }, consumed)
  else if key = ascii "request" then do
    let (request, consumed) ← cborReadSlice value 2
    pure ({ state with request := { state.request with request := some request } }, consumed)
  else if key = ascii "rpId" then do
    let (rpId, consumed) ← cborReadSlice value 3
    pure ({ state with request := { state.request with rpId := some rpId } }, consumed)
  else if key = ascii "transactionid" then do
    let (transactionId, consumed) ← cborReadSlice value 2
    if transactionId.length ≠ guidLength then refuse .protocolError
    else
      pure ({ state with request := { state.request with transactionId := some transactionId } },
        consumed)
  else do
    let consumed ← cborSkip value 0
    pure (state, consumed)

/-- The body of the loop over the pairs, after the look for a break. -/
def requestPair (input : Bytes) (state : RequestState) (offset : Nat) :
    Attempt (RequestState × Nat) :=
  if offset > input.length then refuse .protocolError
  else do
    let left ← dataFrom input offset
    let (key, keyConsumed) ← cborReadSlice left 3
    let offset := offset + keyConsumed
    if offset > input.length then refuse .protocolError
    else do
      let left ← dataFrom input offset
      let (state, valueConsumed) ← requestValue key left state
      if valueConsumed > left.length then refuse .protocolError
      else pure (state, offset + valueConsumed)

/-- `for (i = 0; map.value == RDP_WEBAUTHN_CBOR_INDEFINITE || i < map.value; i++)`. -/
def requestPairs (input : Bytes) (value : Nat) :
    (fuel i : Nat) → RequestState → (offset : Nat) → Attempt (RequestState × Nat)
  | 0, _, _, _ => .error (.fault .outOfFuel)
  | fuel + 1, i, state, offset =>
      if value = cborIndefinite then
        if offset ≥ input.length then refuse .protocolError
        else do
          let left ← dataFrom input offset
          if cborIsBreak left then pure (state, offset + 1)
          else do
            let (state, offset) ← requestPair input state offset
            requestPairs input value fuel (i + 1) state offset
      else if i < value then do
        let (state, offset) ← requestPair input state offset
        requestPairs input value fuel (i + 1) state offset
      else pure (state, offset)

/-- `rdp_webauthn_parse_request`. -/
def parseRequest (input : Bytes) : Attempt WebauthnRequest :=
  if input.length = 0 ∨ input.length > webauthnMaxMessage then refuse .protocolError
  else do
    validateCbor input
    let map ← cborReadItem input
    if map.major ≠ 5 ∨ map.value ≠ cborIndefinite ∧ map.value > webauthnMaxMessage then
      refuse .protocolError
    else do
      let (state, offset) ← requestPairs input map.value (input.length + 1) 0 {} map.headerLen
      let request := state.request
      if offset ≠ input.length ∨ ¬ state.hasCommand ∨ ¬ commandValid request.command then
        refuse .protocolError
      else if ¬ requestFits request.command (request.request.getD []) then refuse .protocolError
      else pure request

/-! ## Responses -/

/-- `rdp_webauthn_response`. -/
structure WebauthnResponse where
  hresult : UInt32
  payload : Bytes
  deriving Repr, DecidableEq

/-- `rdp_webauthn_parse_response`. -/
def parseResponse (input : Bytes) : Attempt WebauthnResponse :=
  if input.length < 4 ∨ input.length > webauthnMaxMessage + 4 then refuse .protocolError
  else do
    let (hresult, stream) ← readU32Le input
    let (payload, _) ← readBytes stream stream.length
    pure { hresult, payload }

/-- `rdp_webauthn_write_response`. -/
def writeResponse (hresult : UInt32) (payload : Bytes) : Attempt Bytes :=
  if payload.length > webauthnMaxMessage then refuse .invalidArgument
  else pure (u32LeBytes hresult.toNat ++ payload)

/-- `rdp_webauthn_device_info`; a field without a value is a null pointer. -/
structure DeviceInfo where
  providerType : Option Bytes
  providerName : Option Bytes
  devicePath : Option Bytes
  manufacturer : Option Bytes
  product : Option Bytes
  aaguid : Option Bytes
  maxMsgSize : UInt32
  maxLargeBlobSize : UInt32
  uvStatus : UInt32
  uvRetries : UInt32
  transports : UInt32
  status : UInt32
  hasResidentKey : UInt8
  residentKey : UInt8

def given (field : Option Bytes) : Attempt Bytes :=
  match field with
  | some value => pure value
  | none => refuse .invalidArgument

/-- The pairs under `deviceInfo`. -/
def writeDeviceInfo (info : DeviceInfo) : Attempt Bytes := do
  let providerType ← given info.providerType
  let providerName ← given info.providerName
  let devicePath ← given info.devicePath
  let manufacturer ← given info.manufacturer
  let product ← given info.product
  let aaguid ← given info.aaguid
  let infoPairs := if info.hasResidentKey ≠ 0 then 12 else 11
  writeAll [
    writeTypeLen 5 infoPairs,
    writeUintPair "maxMsgSize" info.maxMsgSize,
    writeUintPair "maxSerializedLargeBlobArray" info.maxLargeBlobSize,
    writeTextPair "providerType" providerType,
    writeTextPair "providerName" providerName,
    writeTextPair "devicePath" devicePath,
    writeTextPair "Manufacturer" manufacturer,
    writeTextPair "Product" product,
    writeBytesPair "aaGuid" aaguid,
    if info.hasResidentKey ≠ 0 then writeBoolPair "residentKey" info.residentKey else pure [],
    writeUintPair "uvStatus" info.uvStatus,
    writeUintPair "uvRetries" info.uvRetries,
    writeUintPair "transports" info.transports]

/-- `rdp_webauthn_write_authenticator_response_ex`. -/
def writeAuthenticatorResponse (hresult : UInt32) (info : DeviceInfo) (ctapStatus : UInt8)
    (ctapPayload : Bytes) : Attempt Bytes := do
  let aaguid ← given info.aaguid
  if aaguid.length ≠ guidLength ∨ ctapPayload.length > webauthnMaxMessage - 1 then
    refuse .invalidArgument
  else do
    let payload ← writeAll [
      writeTypeLen 5 3,
      writeText (ascii "deviceInfo"),
      writeDeviceInfo info,
      writeUintPair "status" info.status,
      writeBytesPair "response" (ctapStatus :: ctapPayload)]
    writeResponse hresult payload

/-- The entry of a device: its product has a name, or its provider's is taken. -/
def writeListEntry (info : DeviceInfo) : Attempt Bytes := do
  let product ← given info.product
  let aaguid ← given info.aaguid
  if aaguid.length ≠ guidLength then refuse .invalidArgument
  else do
    let name ← given (if product ≠ [] then some product else info.providerName)
    writeAll [
      writeTypeLen 5 5,
      writeAll [writeUint 1, writeUint 1],
      writeAll [writeUint 2, writeBytes aaguid],
      writeAll [writeUint 3, writeText name],
      writeAll [writeUint 4, writeBytes []],
      writeAll [writeUint 5, writeBool 0]]

/-- `rdp_webauthn_write_authenticator_list_response`. -/
def writeAuthenticatorListResponse (hresult : UInt32) (devices : List DeviceInfo) :
    Attempt Bytes :=
  if devices.length > 64 then refuse .invalidArgument
  else do
    let payload ← writeAll (writeTypeLen 4 devices.length :: devices.map writeListEntry)
    writeResponse hresult payload

/-! ## What is written are items -/

def headLength (value : Nat) : Nat :=
  if value < 24 then 1 else if value ≤ 0xff then 2 else if value ≤ 0xffff then 3 else 5

def stringLength (content : Bytes) : Nat := headLength content.length + content.length

structure IsHead (major value : Nat) (bytes : Bytes) (head : Head) : Prop where
  bytes_eq : bytes = head.bytes
  major_eq : head.major = major
  value_eq : headValue head = value
  length_eq : bytes.length = headLength value
  small : value < 2 ^ 32

theorem type_bits : ∀ major < 8, ∀ info < 32,
    (UInt8.ofNat (major <<< 5) ||| UInt8.ofNat info).toNat = 32 * major + info := by decide

theorem isHead_of_info {major info value : Nat} {following : Bytes} (range : major < 8)
    (used : info < 31) (follows : followingLength info = some following.length)
    (holds : (if info < 24 then info else fromBigEndian 256 (following.map UInt8.toNat)) = value)
    (length : following.length + 1 = headLength value) (small : value < 2 ^ 32) :
    ∃ head, IsHead major value ((UInt8.ofNat (major <<< 5) ||| UInt8.ofNat info) :: following)
      head := by
  have initial := type_bits major range info (by omega)
  have low : (UInt8.ofNat (major <<< 5) ||| UInt8.ofNat info).toNat % 32 = info := by omega
  have high : (UInt8.ofNat (major <<< 5) ||| UInt8.ofNat info).toNat / 32 = major := by omega
  refine ⟨⟨_, following, by rw [low, follows]⟩, rfl, high, ?_, length, small⟩
  unfold headValue Head.value Head.info
  simp only [low]
  rw [if_neg (by omega), holds]

variable {major : Nat} {bytes : Bytes} {language : Language UInt8}

theorem writeTypeLen_ok {length : Nat} (written : writeTypeLen major length = .ok bytes) :
    ∃ head, IsHead major length bytes head := by
  unfold writeTypeLen at written
  split at written
  · cases written
  have range : major < 8 := by omega
  simp only at written
  split at written
  · rename_i tiny
    cases written
    refine isHead_of_info range (by omega) ?_ (if_pos tiny) ?_ (by omega)
    · rw [followingLength, if_pos tiny]
      rfl
    · rw [headLength, if_pos tiny]
      rfl
  split at written
  · rename_i big short
    cases written
    refine @isHead_of_info major 24 length _ range (by decide) rfl ?_ ?_ (by omega)
    · simp [fromBigEndian, Nat.mod_eq_of_lt (Nat.lt_succ_of_le short)]
    · rw [headLength, if_neg big, if_pos short]
      rfl
  split at written
  · rename_i big long short
    cases written
    refine @isHead_of_info major 25 length _ range (by decide) rfl ?_ ?_ (by omega)
    · simp [fromBigEndian, u16BeBytes]
      omega
    · rw [headLength, if_neg big, if_neg long, if_pos short]
      rfl
  split at written
  · rename_i big long longer short
    cases written
    refine @isHead_of_info major 26 length _ range (by decide) rfl ?_ ?_ (by omega)
    · simp [fromBigEndian, u32BeBytes]
      omega
    · rw [headLength, if_neg big, if_neg long, if_neg longer]
      rfl
  · cases written

theorem writeUint_eq (value : UInt32) : writeUint value = writeTypeLen 0 value.toNat := by
  have small := value.toNat_lt
  have byte (n : Nat) : UInt8.ofNat (0 <<< 5) ||| UInt8.ofNat n = UInt8.ofNat n := by
    simp
  unfold writeUint writeTypeLen
  rw [if_neg (show ¬ 0 > 7 by decide)]
  simp only [UInt32.lt_iff_toNat_lt, UInt32.le_iff_toNat_le, UInt32.reduceToNat]
  by_cases tiny : value.toNat < 24
  · rw [if_pos tiny, if_pos tiny, byte]
    rfl
  rw [if_neg tiny, if_neg tiny]
  by_cases short : value.toNat ≤ 255
  · rw [if_pos short, if_pos short]
    rfl
  rw [if_neg short, if_neg short]
  by_cases long : value.toNat ≤ 65535
  · rw [if_pos long, if_pos long]
    rfl
  · rw [if_neg long, if_neg long, if_pos (by omega)]
    rfl

structure IsString (major : Nat) (content bytes : Bytes) : Prop where
  split : ∃ head front, IsHead major content.length front head ∧ bytes = front ++ content
  length_eq : bytes.length = stringLength content

variable {content : Bytes} {value hresult : UInt32} {change : RequestState → RequestState}
  {arguments : RequestArguments}

theorem writeString_ok (written : (do
      let head ← writeTypeLen major content.length
      pure (head ++ content)) = Except.ok bytes) : IsString major content bytes := by
  obtain ⟨front, opened, written⟩ := bind_eq_ok.mp written
  cases written
  obtain ⟨head, isHead⟩ := writeTypeLen_ok opened
  exact ⟨⟨head, front, isHead, rfl⟩, by rw [List.length_append, isHead.length_eq, stringLength]⟩

theorem writeText_ok {text : Bytes} (written : writeText text = .ok bytes) :
    IsString 3 text bytes := by
  unfold writeText at written
  split at written
  · cases written
  · exact writeString_ok written

theorem writeBytes_ok {data : Bytes} (written : writeBytes data = .ok bytes) :
    IsString 2 data bytes := by
  unfold writeBytes at written
  split at written
  · cases written
  · exact writeString_ok written

theorem writeUint_ok (written : writeUint value = .ok bytes) :
    ∃ head, IsHead 0 value.toNat bytes head := writeTypeLen_ok (writeUint_eq value ▸ written)

variable {levels : Nat}

namespace IsHead

variable {major value : Nat} {bytes : Bytes} {head : Head}

variable (isHead : IsHead major value bytes head)
include isHead

theorem definite : headValue head ≠ cborIndefinite := by
  have small := isHead.small
  have greatest : cborIndefinite = 2 ^ 64 - 1 := rfl
  rw [isHead.value_eq]
  omega

theorem kind : readKind head = kindOf major (some value) := by
  rw [readKind, if_neg isHead.definite, isHead.major_eq, isHead.value_eq]

theorem mem {content : Bytes} (held : content ∈ contentLanguage (itemLanguage levels) head) :
    bytes ++ content ∈ itemLanguage (levels + 1) := by
  rw [isHead.bytes_eq]
  exact mem_itemLanguage_succ.mpr ⟨head, content, held, rfl⟩

theorem read (rest : Bytes) :
    cborReadItem (bytes ++ rest) = .ok { major, value, headerLen := bytes.length } := by
  rw [isHead.bytes_eq, cborReadItem_takes, readHead, isHead.major_eq, isHead.value_eq]

end IsHead

theorem IsString.mem (isString : IsString major content bytes) (string : major = 2 ∨ major = 3) :
    bytes ∈ itemLanguage (levels + 1) := by
  obtain ⟨⟨head, front, isHead, rfl⟩, -⟩ := isString
  apply isHead.mem
  rw [contentLanguage, isHead.kind]
  obtain rfl | rfl := string
  all_goals rfl

theorem IsString.read (isString : IsString major content bytes) (rest : Bytes) :
    cborReadSlice (bytes ++ rest) major = .ok (content, bytes.length) := by
  obtain ⟨⟨head, front, isHead, rfl⟩, -⟩ := isString
  have small := isHead.small
  have ends := isHead.definite
  rw [isHead.value_eq] at ends
  have whole : (front ++ content ++ rest).length =
      front.length + (content.length + rest.length) := by
    simp only [List.length_append, Nat.add_assoc]
  rw [cborReadSlice, List.append_assoc, isHead.read, ok_bind]
  simp only
  rw [if_neg, List.drop_left, List.take_left, List.length_append]
  · rfl
  · rw [← List.append_assoc, whole]
    have most : sizeMax = 2 ^ 64 - 1 := rfl
    simp only [not_or, Decidable.not_not]
    exact ⟨trivial, ends, by omega, by omega, by omega⟩

theorem writeUint_mem (written : writeUint value = .ok bytes) :
    bytes ∈ itemLanguage (levels + 1) := by
  obtain ⟨head, isHead⟩ := writeUint_ok written
  rw [← List.append_nil bytes]
  apply isHead.mem
  rw [contentLanguage, isHead.kind]
  exact Language.nil_mem_one

theorem writeUint_read (written : writeUint value = .ok bytes) (rest : Bytes) :
    cborReadUint (bytes ++ rest) = .ok (value, bytes.length) := by
  have small := value.toNat_lt
  obtain ⟨head, isHead⟩ := writeUint_ok written
  rw [cborReadUint, isHead.read, ok_bind]
  simp only
  rw [if_neg (by omega), UInt32.ofNat_toNat]
  rfl

theorem writeBool_mem {value : UInt8} (written : writeBool value = .ok bytes) :
    bytes ∈ itemLanguage (levels + 1) := by
  cases written
  split
  · exact mem_itemLanguage_succ.mpr ⟨⟨0xf5, [], rfl⟩, [], Language.nil_mem_one, rfl⟩
  · exact mem_itemLanguage_succ.mpr ⟨⟨0xf4, [], rfl⟩, [], Language.nil_mem_one, rfl⟩

variable {writes : List (Attempt Bytes)}

theorem writeAll_cons {write : Attempt Bytes} :
    writeAll (write :: writes) = .ok bytes ↔
      ∃ first others, write = .ok first ∧ writeAll writes = .ok others ∧
        bytes = first ++ others := by
  constructor
  · intro written
    obtain ⟨first, here, written⟩ := bind_eq_ok.mp written
    obtain ⟨others, later, written⟩ := bind_eq_ok.mp written
    cases written
    exact ⟨first, others, here, later, rfl⟩
  · rintro ⟨first, others, here, later, rfl⟩
    rw [writeAll, here, ok_bind, later]
    rfl

def Writes (write : Attempt Bytes) (language : Language UInt8) : Prop :=
  ∀ bytes, write = .ok bytes → bytes ∈ language

theorem Writes.nothing : Writes (pure []) 1 := by
  intro bytes written
  cases written
  exact Language.nil_mem_one

theorem Writes.all {counts : List Nat}
    (each : List.Forall₂ (fun write count => Writes write (language ^ count)) writes counts) :
    Writes (writeAll writes) (language ^ counts.sum) := by
  induction each with
  | nil => exact .nothing
  | cons here _ ih =>
    intro bytes written
    obtain ⟨first, others, first', others', rfl⟩ := writeAll_cons.mp written
    rw [List.sum_cons, pow_add]
    exact Language.append_mem_mul (here first first') (ih others others')

theorem Writes.each (each : ∀ write ∈ writes, Writes write language) :
    Writes (writeAll writes) (language ^ writes.length) := by
  induction writes with
  | nil => exact .nothing
  | cons write writes ih =>
    obtain ⟨here, later⟩ := List.forall_mem_cons.mp each
    intro bytes written
    obtain ⟨first, others, first', others', rfl⟩ := writeAll_cons.mp written
    rw [List.length_cons, pow_succ']
    exact Language.append_mem_mul (here first first') (ih later others others')

theorem Writes.pair {key value : Attempt Bytes} (left : Writes key language)
    (right : Writes value language) : Writes (writeAll [key, value]) (language ^ 2) :=
  .each (List.forall_mem_cons.mpr ⟨left, List.forall_mem_singleton.mpr right⟩)

theorem Writes.optional {condition : Prop} [Decidable condition] {language : Language UInt8}
    {write : Attempt Bytes} {count : Nat} (writes : Writes write (language ^ count)) :
    Writes (if condition then write else pure []) (language ^ if condition then count else 0) := by
  by_cases here : condition
  · rw [if_pos here, if_pos here]
    exact writes
  · rw [if_neg here, if_neg here, pow_zero]
    exact .nothing

theorem Writes.holder {count total : Nat} (holds : kindOf major (some count) = .holder total)
    (each : Writes (writeAll writes) (itemLanguage levels ^ total)) :
    Writes (writeAll (writeTypeLen major count :: writes)) (itemLanguage (levels + 1)) := by
  intro bytes written
  obtain ⟨front, others, opened, later, rfl⟩ := writeAll_cons.mp written
  obtain ⟨head, isHead⟩ := writeTypeLen_ok opened
  apply isHead.mem
  rw [contentLanguage, isHead.kind, holds]
  exact each others later

theorem writeText_writes (text : Bytes) : Writes (writeText text) (itemLanguage (levels + 1)) :=
  fun _ written => (writeText_ok written).mem (.inr rfl)

theorem writeBytes_writes (data : Bytes) : Writes (writeBytes data) (itemLanguage (levels + 1)) :=
  fun _ written => (writeBytes_ok written).mem (.inl rfl)

theorem writeUint_writes (value : UInt32) : Writes (writeUint value) (itemLanguage (levels + 1)) :=
  fun _ written => writeUint_mem written

theorem writeBool_writes (value : UInt8) : Writes (writeBool value) (itemLanguage (levels + 1)) :=
  fun _ written => writeBool_mem written

theorem writeTextPair_writes (key : String) (value : Bytes) :
    Writes (writeTextPair key value) (itemLanguage (levels + 1) ^ 2) :=
  .pair (writeText_writes _) (writeText_writes _)

theorem writeUintPair_writes (key : String) (value : UInt32) :
    Writes (writeUintPair key value) (itemLanguage (levels + 1) ^ 2) :=
  .pair (writeText_writes _) (writeUint_writes _)

theorem writeBoolPair_writes (key : String) (value : UInt8) :
    Writes (writeBoolPair key value) (itemLanguage (levels + 1) ^ 2) :=
  .pair (writeText_writes _) (writeBool_writes _)

theorem writeBytesPair_writes (key : String) (value : Bytes) :
    Writes (writeBytesPair key value) (itemLanguage (levels + 1) ^ 2) :=
  .pair (writeText_writes _) (writeBytes_writes _)

/-! ## Responses are validated -/

theorem validateCbor_of_mem {levels : Nat} {payload : Bytes} (low : levels ≤ 17)
    (held : payload ∈ itemLanguage levels) (short : payload.length ≤ webauthnMaxMessage) :
    validateCbor payload = .ok () := by
  obtain ⟨item, fits, lower, rfl⟩ := held
  refine (validateCbor_eq_ok short).mpr (cborSkip_eq_ok.mpr ⟨item, [], fits, by omega, ?_, rfl⟩)
  rw [List.append_nil]

theorem parseResponse_written {payload : Bytes}
    (written : writeResponse hresult payload = .ok bytes) :
    parseResponse bytes = .ok { hresult, payload } ∧ payload.length ≤ webauthnMaxMessage := by
  unfold writeResponse at written
  split at written
  · cases written
  cases written
  have length : (u32LeBytes hresult.toNat ++ payload).length = 4 + payload.length := by
    rw [List.length_append, u32LeBytes_length]
  have whole := readBytes_append payload []
  rw [List.append_nil] at whole
  refine ⟨?_, by omega⟩
  rw [parseResponse, if_neg (by omega), readU32Le_append, ok_bind]
  simp only
  rw [whole]
  rfl

abbrev ReadsBack (hresult : UInt32) (bytes : Bytes) : Prop :=
  ∃ response, parseResponse bytes = .ok response ∧ response.hresult = hresult ∧
    validateCbor response.payload = .ok ()

theorem response_read {levels : Nat} {hresult : UInt32} {write : Attempt Bytes} {bytes : Bytes}
    (low : levels ≤ 17) (writes : Writes write (itemLanguage levels))
    (written : (write >>= writeResponse hresult) = .ok bytes) : ReadsBack hresult bytes := by
  obtain ⟨payload, held, written⟩ := bind_eq_ok.mp written
  obtain ⟨parsed, short⟩ := parseResponse_written written
  exact ⟨_, parsed, rfl, validateCbor_of_mem low (writes payload held) short⟩

theorem writeDeviceInfo_writes (info : DeviceInfo) :
    Writes (writeDeviceInfo info) (itemLanguage 2) := by
  intro bytes written
  unfold writeDeviceInfo at written
  obtain ⟨providerType, -, written⟩ := bind_eq_ok.mp written
  obtain ⟨providerName, -, written⟩ := bind_eq_ok.mp written
  obtain ⟨devicePath, -, written⟩ := bind_eq_ok.mp written
  obtain ⟨manufacturer, -, written⟩ := bind_eq_ok.mp written
  obtain ⟨product, -, written⟩ := bind_eq_ok.mp written
  obtain ⟨aaguid, -, written⟩ := bind_eq_ok.mp written
  have uint (key : String) (value : UInt32) :
      Writes (writeUintPair key value) (itemLanguage 1 ^ 2) := writeUintPair_writes key value
  have text (key : String) (value : Bytes) :
      Writes (writeTextPair key value) (itemLanguage 1 ^ 2) := writeTextPair_writes key value
  have pairs := Writes.all (.cons (uint "maxMsgSize" info.maxMsgSize)
    (.cons (uint "maxSerializedLargeBlobArray" info.maxLargeBlobSize)
    (.cons (text "providerType" providerType) (.cons (text "providerName" providerName)
    (.cons (text "devicePath" devicePath) (.cons (text "Manufacturer" manufacturer)
    (.cons (text "Product" product) (.cons (writeBytesPair_writes "aaGuid" aaguid)
    (.cons (@Writes.optional (info.hasResidentKey ≠ 0) _ _ _ _
      (writeBoolPair_writes "residentKey" info.residentKey))
    (.cons (uint "uvStatus" info.uvStatus) (.cons (uint "uvRetries" info.uvRetries)
    (.cons (uint "transports" info.transports) .nil))))))))))))
  refine Writes.holder rfl ?_ bytes written
  have announced : [2, 2, 2, 2, 2, 2, 2, 2, if info.hasResidentKey ≠ 0 then 2 else 0, 2, 2, 2].sum =
      2 * if info.hasResidentKey ≠ 0 then 12 else 11 := by
    split <;> rfl
  rwa [announced] at pairs

theorem writeAuthenticatorResponse_read {info : DeviceInfo} {ctapStatus : UInt8}
    {ctapPayload : Bytes}
    (written : writeAuthenticatorResponse hresult info ctapStatus ctapPayload = .ok bytes) :
    ReadsBack hresult bytes := by
  obtain ⟨aaguid, -, written⟩ := bind_eq_ok.mp written
  split at written
  · cases written
  refine @response_read 3 _ _ _ (by decide) (Writes.holder rfl ?_) written
  have key : Writes (writeText (ascii "deviceInfo")) (itemLanguage 2 ^ 1) := by
    rw [pow_one]
    exact writeText_writes _
  have device : Writes (writeDeviceInfo info) (itemLanguage 2 ^ 1) := by
    rw [pow_one]
    exact writeDeviceInfo_writes info
  exact Writes.all (.cons key (.cons device (.cons (writeUintPair_writes "status" info.status)
    (.cons (writeBytesPair_writes "response" (ctapStatus :: ctapPayload)) .nil))))

theorem writeListEntry_writes (info : DeviceInfo) :
    Writes (writeListEntry info) (itemLanguage 2) := by
  intro bytes written
  obtain ⟨product, -, written⟩ := bind_eq_ok.mp written
  obtain ⟨aaguid, -, written⟩ := bind_eq_ok.mp written
  split at written
  · cases written
  obtain ⟨name, -, written⟩ := bind_eq_ok.mp written
  have uint (value : UInt32) : Writes (writeUint value) (itemLanguage 1) := writeUint_writes value
  refine Writes.holder rfl ?_ bytes written
  exact Writes.all (.cons (.pair (uint 1) (uint 1))
    (.cons (.pair (uint 2) (writeBytes_writes aaguid))
    (.cons (.pair (uint 3) (writeText_writes name))
    (.cons (.pair (uint 4) (writeBytes_writes [])) (.cons (.pair (uint 5) (writeBool_writes 0))
    .nil)))))

theorem writeAuthenticatorListResponse_read {devices : List DeviceInfo}
    (written : writeAuthenticatorListResponse hresult devices = .ok bytes) :
    ReadsBack hresult bytes := by
  unfold writeAuthenticatorListResponse at written
  split at written
  · cases written
  refine @response_read 3 _ _ _ (by decide) (Writes.holder rfl ?_) written
  have entries : Writes (writeAll (devices.map writeListEntry))
      (itemLanguage 2 ^ (devices.map writeListEntry).length) := by
    apply Writes.each
    intro write held
    obtain ⟨info, -, rfl⟩ := List.mem_map.mp held
    exact writeListEntry_writes info
  rwa [List.length_map] at entries

/-! ## Requests are read back -/

/-- Bytes that the loop over the pairs reads in so many turns, which change its state. -/
def Parses (part : Bytes) (count : Nat) (change : RequestState → RequestState) : Prop :=
  ∀ (front rest : Bytes) (value fuel i : Nat) (state : RequestState), value ≠ cborIndefinite →
    i + count ≤ value →
      requestPairs (front ++ (part ++ rest)) value (fuel + count) i state front.length =
        requestPairs (front ++ (part ++ rest)) value fuel (i + count) (change state)
          (front ++ part).length

theorem Parses.nothing : Parses [] 0 id := by
  intro front rest value fuel i state _ _
  rw [List.append_nil]
  rfl

theorem Parses.append {part part' : Bytes} {count count' : Nat}
    {change' : RequestState → RequestState} (first : Parses part count change)
    (second : Parses part' count' change') :
    Parses (part ++ part') (count + count') (change' ∘ change) := by
  intro front rest value fuel i state definite enough
  have here := first front (part' ++ rest) value (fuel + count') i state definite (by omega)
  have later := second (front ++ part) rest value fuel (i + count) (change state) definite
    (by omega)
  rw [List.append_assoc front part (part' ++ rest)] at later
  rw [List.append_assoc part part' rest, ← Nat.add_assoc, Nat.add_right_comm, here, later,
    Nat.add_assoc, List.append_assoc]
  rfl

theorem Parses.pair {key : String} {keyBytes valueBytes : Bytes}
    (isKey : IsString 3 (ascii key) keyBytes)
    (reads : ∀ rest state, requestValue (ascii key) (valueBytes ++ rest) state =
      .ok (change state, valueBytes.length)) : Parses (keyBytes ++ valueBytes) 1 change := by
  intro front rest value fuel i state definite enough
  have opened := dataFrom_append front (keyBytes ++ (valueBytes ++ rest))
  have behind := dataFrom_append (front ++ keyBytes) (valueBytes ++ rest)
  simp only [List.append_assoc, List.length_append] at behind
  have long : (front ++ (keyBytes ++ (valueBytes ++ rest))).length =
      front.length + keyBytes.length + valueBytes.length + rest.length := by
    simp only [List.length_append]
    omega
  have turn : requestPair (front ++ (keyBytes ++ (valueBytes ++ rest))) state front.length =
      .ok (change state, front.length + keyBytes.length + valueBytes.length) := by
    rw [requestPair, if_neg (by omega), opened, ok_bind, isKey.read, ok_bind]
    simp only
    rw [if_neg (by omega), behind, ok_bind, reads, ok_bind]
    simp only
    rw [if_neg (by rw [List.length_append]; omega)]
    rfl
  rw [List.append_assoc, requestPairs, if_neg definite, if_pos (by omega), turn, ok_bind]
  simp only [List.length_append, Nat.add_assoc]

theorem pair_written {key value : Attempt Bytes} (written : writeAll [key, value] = .ok bytes) :
    ∃ keyBytes valueBytes, key = .ok keyBytes ∧ value = .ok valueBytes ∧
      bytes = keyBytes ++ valueBytes := by
  obtain ⟨keyBytes, others, first, later, rfl⟩ := writeAll_cons.mp written
  obtain ⟨valueBytes, ends, second, nothing, rfl⟩ := writeAll_cons.mp later
  cases nothing
  exact ⟨keyBytes, valueBytes, first, second, by rw [List.append_nil]⟩

namespace RequestArguments

variable (arguments : RequestArguments)

def parsed : WebauthnRequest where
  command := arguments.command
  flags := arguments.flags
  hasFlags := arguments.flags ≠ 0
  request := if arguments.request.length > 0 then some arguments.request else none
  rpId := arguments.rpId
  transactionId := arguments.transactionId.map Subtype.val

def size : Nat :=
  1 + (stringLength (ascii "command") + headLength arguments.command.toNat) +
    (if arguments.flags ≠ 0 then stringLength (ascii "flags") + headLength arguments.flags.toNat
      else 0) +
    (if arguments.request.length > 0 then
        stringLength (ascii "request") + stringLength arguments.request
      else 0) +
    (arguments.rpId.elim 0 fun rpId => stringLength (ascii "rpId") + stringLength rpId) +
    (arguments.transactionId.elim 0 fun id => stringLength (ascii "transactionid") +
      stringLength id.1)

theorem pairs_le : arguments.pairs ≤ 5 := by
  unfold pairs
  repeat' split
  all_goals omega

end RequestArguments

structure Part (part : Bytes) (count length : Nat) (change : RequestState → RequestState) :
    Prop where
  items : part ∈ itemLanguage 1 ^ (2 * count)
  length_eq : part.length = length
  parses : Parses part count change

namespace Part

variable {part part' : Bytes} {count count' length length' : Nat}
  {change change' : RequestState → RequestState}

theorem nothing : Part [] 0 0 id := ⟨Language.nil_mem_one, rfl, .nothing⟩

theorem count_eq (whole : Part part count length change) (same : count = count') :
    Part part count' length change := same ▸ whole

theorem resize (whole : Part part count length change) (same : length = length') :
    Part part count length' change := same ▸ whole

theorem append (first : Part part count length change)
    (second : Part part' count' length' change') :
    Part (part ++ part') (count + count') (length + length') (change' ∘ change) where
  items := by
    rw [Nat.mul_add, pow_add]
    exact Language.append_mem_mul first.items second.items
  length_eq := by rw [List.length_append, first.length_eq, second.length_eq]
  parses := first.parses.append second.parses

theorem optional {condition : Prop} [Decidable condition] {write : Attempt Bytes} {bytes : Bytes}
    (here : ∀ bytes, write = .ok bytes → Part bytes count length change)
    (written : (if condition then write else pure []) = .ok bytes) :
    Part bytes (if condition then count else 0) (if condition then length else 0)
      (if condition then change else id) := by
  by_cases holds : condition
  · simp only [if_pos holds] at written ⊢
    exact here bytes written
  simp only [if_neg holds] at written ⊢
  cases written
  exact nothing

theorem present {field : Option α} {write : α → Attempt Bytes} {bytes : Bytes} {length : α → Nat}
    {change : α → RequestState → RequestState}
    (here : ∀ a bytes, write a = .ok bytes → Part bytes 1 (length a) (change a))
    (written : writeGiven field write = .ok bytes) :
    Part bytes (if field.isSome then 1 else 0) (field.elim 0 length) (field.elim id change) := by
  cases field with
  | none =>
    cases written
    exact nothing
  | some a => exact here a bytes written

end Part

section Pairs

variable {bytes : Bytes}

theorem Part.pair {key : String} {keyBytes valueBytes : Bytes} {length : Nat}
    {change : RequestState → RequestState} (isKey : IsString 3 (ascii key) keyBytes)
    (item : valueBytes ∈ itemLanguage 1) (long : valueBytes.length = length)
    (reads : ∀ rest state, requestValue (ascii key) (valueBytes ++ rest) state =
      .ok (change state, valueBytes.length)) :
    Part (keyBytes ++ valueBytes) 1 (stringLength (ascii key) + length) change where
  items := by
    rw [Nat.mul_one, pow_two]
    exact Language.append_mem_mul (isKey.mem (.inr rfl)) item
  length_eq := by rw [List.length_append, isKey.length_eq, long]
  parses := .pair isKey reads

theorem writeUint_length {value : UInt32} (written : writeUint value = .ok bytes) :
    bytes.length = headLength value.toNat := by
  obtain ⟨head, isHead⟩ := writeUint_ok written
  exact isHead.length_eq

theorem command_part {command : UInt32} (written : writeUintPair "command" command = .ok bytes) :
    Part bytes 1 (stringLength (ascii "command") + headLength command.toNat) fun state =>
      { request := { state.request with command }, hasCommand := true } := by
  obtain ⟨key, value, first, second, rfl⟩ := pair_written written
  refine .pair (writeText_ok first) (writeUint_mem second) (writeUint_length second)
    fun rest state => ?_
  rw [requestValue, if_pos rfl, writeUint_read second]
  rfl

theorem flags_part {flags : UInt32} (valid : flagsValid flags)
    (written : writeUintPair "flags" flags = .ok bytes) :
    Part bytes 1 (stringLength (ascii "flags") + headLength flags.toNat) fun state =>
      { state with request := { state.request with flags, hasFlags := true } } := by
  obtain ⟨key, value, first, second, rfl⟩ := pair_written written
  refine .pair (writeText_ok first) (writeUint_mem second) (writeUint_length second)
    fun rest state => ?_
  rw [requestValue, if_neg (by decide), if_pos rfl, writeUint_read second, ok_bind]
  simp only
  rw [if_neg (not_not.mpr valid)]
  rfl

theorem request_part {request : Bytes} (written : writeBytesPair "request" request = .ok bytes) :
    Part bytes 1 (stringLength (ascii "request") + stringLength request) fun state =>
      { state with request := { state.request with request := some request } } := by
  obtain ⟨key, value, first, second, rfl⟩ := pair_written written
  have isString := writeBytes_ok second
  refine .pair (writeText_ok first) (isString.mem (.inl rfl)) isString.length_eq
    fun rest state => ?_
  rw [requestValue, if_neg (by decide), if_neg (by decide), if_pos rfl, isString.read]
  rfl

theorem rpId_part {rpId : Bytes} (written : writeTextPair "rpId" rpId = .ok bytes) :
    Part bytes 1 (stringLength (ascii "rpId") + stringLength rpId) fun state =>
      { state with request := { state.request with rpId := some rpId } } := by
  obtain ⟨key, value, first, second, rfl⟩ := pair_written written
  have isString := writeText_ok second
  refine .pair (writeText_ok first) (isString.mem (.inr rfl)) isString.length_eq
    fun rest state => ?_
  rw [requestValue, if_neg (by decide), if_neg (by decide), if_neg (by decide), if_pos rfl,
    isString.read]
  rfl

theorem transactionId_part {transactionId : Bytes} (long : transactionId.length = guidLength)
    (written : writeBytesPair "transactionid" transactionId = .ok bytes) :
    Part bytes 1 (stringLength (ascii "transactionid") + stringLength transactionId) fun state =>
      { state with request := { state.request with transactionId := some transactionId } } := by
  obtain ⟨key, value, first, second, rfl⟩ := pair_written written
  have isString := writeBytes_ok second
  refine .pair (writeText_ok first) (isString.mem (.inl rfl)) isString.length_eq
    fun rest state => ?_
  rw [requestValue, if_neg (by decide), if_neg (by decide), if_neg (by decide),
    if_neg (by decide), if_pos rfl, isString.read, ok_bind]
  simp only
  rw [if_neg (not_not.mpr long)]
  rfl

end Pairs

structure RequestArguments.Fits (arguments : RequestArguments) : Prop where
  command : commandValid arguments.command
  flags : flagsValid arguments.flags
  request : requestFits arguments.command arguments.request

theorem writeRequest_ok (written : writeRequest arguments = .ok bytes) : arguments.Fits ∧
      ∃ head front pairs, ∃ change : RequestState → RequestState, bytes = front ++ pairs ∧
        IsHead 5 arguments.pairs front head ∧
        Part pairs arguments.pairs (arguments.size - 1) change ∧
        change {} = { request := arguments.parsed, hasCommand := true } := by
  unfold writeRequest at written
  split at written
  · cases written
  rename_i valid
  split at written
  · cases written
  rename_i fits
  simp only [not_or, Decidable.not_not] at valid fits
  refine ⟨⟨valid.1, valid.2.1, fits⟩, ?_⟩
  obtain ⟨front, rest, opened, written₁, rfl⟩ := writeAll_cons.mp written
  obtain ⟨command, rest, here, written₂, rfl⟩ := writeAll_cons.mp written₁
  obtain ⟨flags, rest, flagsHere, written₃, rfl⟩ := writeAll_cons.mp written₂
  obtain ⟨request, rest, requestHere, written₄, rfl⟩ := writeAll_cons.mp written₃
  obtain ⟨rpId, rest, rpIdHere, written₅, rfl⟩ := writeAll_cons.mp written₄
  obtain ⟨transactionId, rest, idHere, written₆, rfl⟩ := writeAll_cons.mp written₅
  cases written₆
  obtain ⟨head, isHead⟩ := writeTypeLen_ok opened
  have commandPart := command_part here
  have flagsPart := Part.optional (fun _ => flags_part valid.2.1) flagsHere
  have requestPart := Part.optional (fun _ => request_part) requestHere
  have rpIdPart := Part.present (fun _ _ => rpId_part) rpIdHere
  have idPart := Part.present (fun id _ => transactionId_part id.2) idHere
  have parts := commandPart.append (flagsPart.append (requestPart.append
    (rpIdPart.append (idPart.append .nothing))))
  have pairs := parts.count_eq (show _ = arguments.pairs by
    simp only [RequestArguments.pairs]
    omega)
  have sized := pairs.resize (show _ = arguments.size - 1 by
    simp only [RequestArguments.size]
    omega)
  refine ⟨head, front, _, _, rfl, isHead, sized, ?_⟩
  simp only [Function.comp, id, RequestArguments.parsed]
  cases arguments.rpId <;> cases arguments.transactionId <;>
    by_cases flagged : arguments.flags = 0 <;>
    by_cases filled : arguments.request.length > 0 <;> simp [flagged, filled]

theorem parseRequest_written (written : writeRequest arguments = .ok bytes) :
    bytes.length = arguments.size ∧
      (bytes.length ≤ webauthnMaxMessage → parseRequest bytes = .ok arguments.parsed) := by
  obtain ⟨fits, head, front, pairs, change, rfl, isHead, part, final⟩ := writeRequest_ok written
  have few := arguments.pairs_le
  have one : front.length = 1 := by
    rw [isHead.length_eq, headLength, if_pos (by omega)]
  have some' : 9 ≤ arguments.size := by
    have key : stringLength (ascii "command") = 8 := by decide
    unfold RequestArguments.size
    omega
  have whole : (front ++ pairs).length = arguments.size := by
    rw [List.length_append, one, part.length_eq]
    omega
  refine ⟨whole, fun short => ?_⟩
  have held : front ++ pairs ∈ itemLanguage 2 := by
    apply isHead.mem
    rw [contentLanguage, isHead.kind]
    exact part.items
  have validated := validateCbor_of_mem (by decide) held short
  have opened := isHead.read pairs
  have ends := isHead.definite
  rw [isHead.value_eq] at ends
  -- The loop takes one turn a pair, and one more to see that there are no others.
  obtain ⟨fuel, enough⟩ : ∃ fuel, (front ++ pairs).length + 1 = fuel + 1 + arguments.pairs :=
    ⟨(front ++ pairs).length - arguments.pairs, by omega⟩
  have turns := part.parses front [] arguments.pairs (fuel + 1) 0 {} ends (by omega)
  have last : requestPairs (front ++ pairs) arguments.pairs (fuel + 1) (0 + arguments.pairs)
      { request := arguments.parsed, hasCommand := true } (front ++ pairs).length =
      .ok ({ request := arguments.parsed, hasCommand := true }, (front ++ pairs).length) := by
    rw [requestPairs, if_neg ends, if_neg (by omega)]
    rfl
  rw [List.append_nil, final, last, ← enough] at turns
  have given : arguments.parsed.request.getD [] = arguments.request := by
    unfold RequestArguments.parsed
    by_cases filled : arguments.request.length > 0
    · simp [filled]
    · have none : arguments.request = [] := List.eq_nil_of_length_eq_zero (by omega)
      simp [none]
  have command : arguments.parsed.command = arguments.command := rfl
  have limit : webauthnMaxMessage = 1048576 := rfl
  rw [parseRequest, if_neg (by omega), validated, ok_bind, opened, ok_bind]
  simp only
  rw [if_neg (by omega), turns, ok_bind]
  simp only
  rw [given, command, if_neg (by simp [fits.command]), if_neg (not_not.mpr fits.request)]
  rfl

/-- Messages are read back, but for requests that are longer than the parser's limit; the writer
    only limits what is in them. -/
theorem messages_read_back (arguments : RequestArguments) (hresult : UInt32) (bytes : Bytes) :
    (writeRequest arguments = .ok bytes →
      (parseRequest bytes = .ok arguments.parsed ↔ arguments.size ≤ webauthnMaxMessage)) ∧
    (∀ info ctapStatus ctapPayload,
      writeAuthenticatorResponse hresult info ctapStatus ctapPayload = .ok bytes →
        ∃ response, parseResponse bytes = .ok response ∧ response.hresult = hresult ∧
          validateCbor response.payload = .ok ()) ∧
    ∀ devices, writeAuthenticatorListResponse hresult devices = .ok bytes →
      ∃ response, parseResponse bytes = .ok response ∧ response.hresult = hresult ∧
        validateCbor response.payload = .ok () := by
  refine ⟨fun written => ?_, fun _ _ _ => writeAuthenticatorResponse_read,
    fun _ => writeAuthenticatorListResponse_read⟩
  obtain ⟨length, reads⟩ := parseRequest_written written
  rw [← length]
  constructor
  · intro parsed
    by_contra long
    rw [parseRequest, if_pos (by omega)] at parsed
    cases parsed
  · exact reads

def assertionRequest : RequestArguments where
  command := commandWebAuthn
  flags := 0x00040000
  request := [0x02, 0xa0]
  rpId := some (ascii "a.org")
  transactionId := some ⟨List.replicate 16 0x11, rfl⟩

def assertionBytes : Bytes :=
  [0xa5, 0x67] ++ ascii "command" ++ [0x05, 0x65] ++ ascii "flags" ++
    [0x1a, 0x00, 0x04, 0x00, 0x00, 0x67] ++ ascii "request" ++ [0x42, 0x02, 0xa0, 0x64] ++
    ascii "rpId" ++ [0x65] ++ ascii "a.org" ++ [0x6d] ++ ascii "transactionid" ++ [0x50] ++
    List.replicate 16 0x11

theorem messages_read_back_assertion :
    parseRequest assertionBytes = .ok assertionRequest.parsed :=
  ((messages_read_back assertionRequest 0 assertionBytes).1 (by decide)).mpr (by decide)

/-- A request for the version with as many bytes as the writer takes. -/
def longRequest (request : Bytes) : RequestArguments :=
  { command := 8, flags := 0, request, rpId := none, transactionId := none }

theorem longRequest_written {request : Bytes} (long : request.length = 1048576) :
    ∃ bytes, writeRequest (longRequest request) = .ok bytes := by
  have whole : writeBytes request = .ok ([0x5a, 0x00, 0x10, 0x00, 0x00] ++ request) := by
    rw [writeBytes, long]
    rfl
  have pair : writeBytesPair "request" request =
      .ok (0x67 :: ascii "request" ++ ([0x5a, 0x00, 0x10, 0x00, 0x00] ++ request ++ [])) := by
    rw [writeBytesPair, writeAll, writeAll, whole]
    rfl
  have pairs : (longRequest request).pairs = 2 := by
    simp [RequestArguments.pairs, longRequest, long]
  unfold writeRequest
  rw [pairs]
  simp only [longRequest, long]
  rw [if_neg (by decide), if_neg (by simp [requestFits, commandCancel, commandWebAuthn]),
    if_pos (by decide), pair]
  exact ⟨_, rfl⟩

theorem longRequest_refused {request : Bytes} (long : request.length = 1048576) :
    ∃ bytes, writeRequest (longRequest request) = .ok bytes ∧
      parseRequest bytes = refuse .protocolError := by
  obtain ⟨bytes, written⟩ := longRequest_written long
  have size := (parseRequest_written written).1
  have more : webauthnMaxMessage < (longRequest request).size := by
    simp [RequestArguments.size, longRequest, stringLength, long, webauthnMaxMessage]
    omega
  exact ⟨bytes, written, if_pos (.inr (size ▸ more))⟩

/-- The parser refuses it. -/
theorem long_request_not_read : ∃ bytes,
    writeRequest (longRequest (List.replicate 1048576 0)) = .ok bytes ∧
      parseRequest bytes = refuse .protocolError :=
  longRequest_refused List.length_replicate

end LibRdp.Channels
