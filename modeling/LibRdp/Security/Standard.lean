import LibRdp.Machine.Effect
import LibRdp.Common

/-! # Standard security

The keys of both directions, the signature over a payload, and the PDUs that carry it encrypted. The
digests and the cipher are those of the crypto library, whose calls succeed.
-/

namespace LibRdp.Security

open Machine

/-- What the crypto library computes; `rc4 key i` is byte `i` of the key stream. -/
structure Crypto where
  sha1 : Bytes → Bytes
  md5 : Bytes → Bytes
  rc4 : Bytes → Nat → UInt8
  md5_length : ∀ data, (md5 data).length = 16

def secEncrypt : UInt16 := 0x0008
def secSecureChecksum : UInt16 := 0x0800

def method40Bit : UInt32 := 0x00000001
def method128Bit : UInt32 := 0x00000002
def method56Bit : UInt32 := 0x00000008
def methodFips : UInt32 := 0x00000010

def pad1 : Bytes := List.replicate 40 0x36
def pad2 : Bytes := List.replicate 48 0x5c

structure Rc4Context where
  key : Bytes
  position : Nat
  deriving Repr, DecidableEq

/-- The fields of `rdp_standard_security_context` that one direction has to itself. -/
structure SecurityKeys where
  key : Bytes
  updateKey : Bytes
  rc4 : Rc4Context
  count : Nat := 0
  deriving Repr, DecidableEq

structure SecuritySettings where
  signKey : Bytes
  keyLen : Nat
  method : UInt32
  deriving Repr, DecidableEq

/-- `rdp_standard_security_context`. -/
structure StandardSecurityContext extends SecuritySettings where
  encrypt : SecurityKeys
  decrypt : SecurityKeys
  deriving Repr, DecidableEq

section Keys

variable (crypto : Crypto)

def saltedHash (secret random1 random2 label : Bytes) : Bytes :=
  crypto.md5 (secret ++ crypto.sha1 (label ++ secret ++ random1 ++ random2))

/-- `rdp_secret_triplet`; the labels are one, two and three letters. -/
def secretTriplet (secret random1 random2 : Bytes) (letter : UInt8) : Bytes :=
  [[letter], [letter + 1, letter + 1], [letter + 2, letter + 2, letter + 2]].flatMap
    (saltedHash crypto secret random1 random2)

def md5Key (seed clientRandom serverRandom : Bytes) : Bytes :=
  crypto.md5 (seed ++ clientRandom ++ serverRandom)

/-- `rdp_rc4_crypt`. -/
def Rc4Context.crypt (rc4 : Rc4Context) (data : Bytes) : Bytes × Rc4Context :=
  (data.mapIdx fun i byte => byte ^^^ crypto.rc4 rc4.key (rc4.position + i),
    { rc4 with position := rc4.position + data.length })

/-- What a method writes over the first bytes of a key. -/
def saltKey (method : UInt32) (key : Bytes) : Bytes :=
  if method = method40Bit then [0xd1, 0x26, 0x9e] ++ key.drop 3
  else if method = method56Bit then 0xd1 :: key.drop 1
  else key

/-- The length of a key that `rdp_security_apply_method` sets. -/
def methodKeyLen (method : UInt32) : Attempt Nat :=
  if method = method128Bit then .ok 16
  else if method = method56Bit ∨ method = method40Bit then .ok 8
  else refuse .unsupported

/-- `rdp_security_standard_init_direction`. -/
def standardInitDirection (method : UInt32) (clientRandom serverRandom : Bytes)
    (serverSide : Bool) : Attempt StandardSecurityContext :=
  if method = 0 ∨ method = methodFips then refuse .unsupported
  else do
    let preMaster := clientRandom.take 24 ++ serverRandom.take 24
    let master := secretTriplet crypto preMaster clientRandom serverRandom 0x41
    let blob := secretTriplet crypto master clientRandom serverRandom 0x58
    let keyLen ← methodKeyLen method
    let keys (seed : Bytes) : SecurityKeys :=
      let key := saltKey method (md5Key crypto seed clientRandom serverRandom)
      { key, updateKey := key, rc4 := ⟨key.take keyLen, 0⟩ }
    let signKey := saltKey method (blob.take 16)
    let server := keys ((blob.drop 16).take 16)
    let client := keys (blob.drop 32)
    if serverSide then pure { signKey, keyLen, method, encrypt := server, decrypt := client }
    else pure { signKey, keyLen, method, encrypt := client, decrypt := server }

/-- `rdp_security_key_update`. -/
def keyUpdate (settings : SecuritySettings) (keys : SecurityKeys) : Bytes :=
  let update := keys.updateKey.take settings.keyLen
  let inner := crypto.sha1 (update ++ pad1 ++ keys.key.take settings.keyLen)
  let key := crypto.md5 (update ++ pad2 ++ inner)
  let start := key.take settings.keyLen
  saltKey settings.method ((Rc4Context.crypt crypto ⟨start, 0⟩ start).1 ++ key.drop settings.keyLen)

/-- A key is renewed after 4096 payloads. -/
def SecurityKeys.renewed (settings : SecuritySettings) (keys : SecurityKeys) : SecurityKeys :=
  if 4096 ≤ keys.count then
    let key := keyUpdate crypto settings keys
    { keys with key, rc4 := ⟨key.take settings.keyLen, 0⟩, count := 0 }
  else keys

/-- What `rdp_security_encrypt_payload` and `rdp_security_decrypt_payload` both do. -/
def SecurityKeys.crypt (settings : SecuritySettings) (keys : SecurityKeys) (data : Bytes) :
    Attempt (Bytes × SecurityKeys) :=
  if settings.keyLen ≠ 8 ∧ settings.keyLen ≠ 16 then refuse .invalidArgument
  else
    let keys := keys.renewed crypto settings
    let crypted := keys.rc4.crypt crypto data
    .ok (crypted.1, { keys with rc4 := crypted.2, count := keys.count + 1 })

/-- `rdp_security_mac_signature`; with a salt, `rdp_security_salted_mac_signature`. -/
def macSignature (settings : SecuritySettings) (data salt : Bytes) : Attempt Bytes :=
  if 0xffffffff < data.length ∨ settings.keyLen ≠ 8 ∧ settings.keyLen ≠ 16 then
    refuse .invalidArgument
  else
    let key := settings.signKey.take settings.keyLen
    let inner := crypto.sha1 (key ++ pad1 ++ u32LeBytes data.length ++ data ++ salt)
    .ok ((crypto.md5 (key ++ pad2 ++ inner)).take 8)

def macSalt (flags : UInt16) (useCount : Nat) : Bytes :=
  if flags &&& secSecureChecksum ≠ 0 then u32LeBytes useCount else []

/-- `rdp_security_write_encrypted_pdu`, of which the keys for encryption are left. -/
def writeEncryptedPdu (settings : SecuritySettings) (keys : SecurityKeys) (flags : UInt16)
    (payload : Bytes) : Attempt (Bytes × SecurityKeys) := do
  let mac ← macSignature crypto settings payload (macSalt flags keys.count)
  let (encrypted, keys) ← keys.crypt crypto settings payload
  pure (u16LeBytes (flags ||| secEncrypt).toNat ++ u16LeBytes 0 ++ mac ++ encrypted, keys)

/-- `rdp_security_unwrap_pdu`. What was decrypted moves the keys on, also if it is refused. -/
def unwrapPdu (data : Bytes) :
    Effect Stop (Option StandardSecurityContext) (Bytes × UInt16) := do
  let (flags, stream) ← .lift (readU16Le data)
  let (flagsHi, stream) ← .lift (readU16Le stream)
  if flagsHi ≠ 0 then .stop (.returned .protocolError)
  else if flags &&& secEncrypt = 0 then pure (stream, flags)
  else do
    match ← .get with
    | none => .stop (.returned .invalidArgument)
    | some context =>
        let (mac, body) ← .lift (readBytes stream 8)
        let (payload, decrypt) ←
          .lift (context.decrypt.crypt crypto context.toSecuritySettings body)
        .modify fun _ => some { context with decrypt }
        let expected ← .lift (macSignature crypto context.toSecuritySettings payload
          (macSalt flags (decrypt.count - 1)))
        if mac ≠ expected then .stop (.returned .protocolError) else pure (payload, flags)

end Keys
end LibRdp.Security
