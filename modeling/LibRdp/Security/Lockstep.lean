import LibRdp.Machine.Run
import LibRdp.Security.Standard

/-! # Both sides of standard security stay in step

However sending and receiving interleave, a PDU meets the keys that it was encrypted with. Only the
count that salts a signature differs, where the keys have just been renewed.
-/

namespace LibRdp.Security

open Machine

variable {crypto : Crypto} {settings : SecuritySettings} {keys next last : SecurityKeys}
  {data out mac salt payload wire : Bytes} {flags : UInt16}

theorem Rc4Context.crypt_crypt (rc4 : Rc4Context) (data : Bytes) :
    rc4.crypt crypto (rc4.crypt crypto data).1 = (data, (rc4.crypt crypto data).2) := by
  refine Prod.ext (List.ext_getElem ?_ ?_) ?_
  · simp [Rc4Context.crypt]
  · intro i _ _
    simp only [Rc4Context.crypt, List.getElem_mapIdx]
    rw [UInt8.xor_assoc, UInt8.xor_self, UInt8.xor_zero]
  · simp [Rc4Context.crypt]

theorem SecurityKeys.crypt_crypt (done : keys.crypt crypto settings data = .ok (out, next)) :
    keys.crypt crypto settings out = .ok (data, next) := by
  unfold SecurityKeys.crypt at done ⊢
  split at done
  · cases done
  rename_i fits
  cases done
  rw [if_neg fits]
  simp only [Rc4Context.crypt_crypt]

theorem SecurityKeys.crypt_count (done : keys.crypt crypto settings data = .ok (out, next)) :
    next.count - 1 = if 4096 ≤ keys.count then 0 else keys.count := by
  unfold SecurityKeys.crypt at done
  split at done
  · cases done
  cases done
  unfold SecurityKeys.renewed
  split <;> rfl

theorem macSignature_length (signed : macSignature crypto settings data salt = .ok mac) :
    mac.length = 8 := by
  unfold macSignature at signed
  split at signed
  · cases signed
  cases signed
  rw [List.length_take, crypto.md5_length]
  rfl

theorem macSignature_again (signed : macSignature crypto settings data salt = .ok mac)
    (salt' : Bytes) : ∃ mac', macSignature crypto settings data salt' = .ok mac' := by
  unfold macSignature at signed ⊢
  split at signed
  · cases signed
  · rename_i fits
    exact ⟨_, if_neg fits⟩

theorem flags_encrypt (flags mask : UInt16) :
    (flags ||| secEncrypt) &&& mask = flags &&& mask ||| secEncrypt &&& mask := by
  apply UInt16.toNat_inj.mp
  simp only [UInt16.toNat_and, UInt16.toNat_or, Nat.and_or_distrib_right]

theorem secEncrypt_set (flags : UInt16) : ¬(flags ||| secEncrypt) &&& secEncrypt = 0 := by
  rw [flags_encrypt, UInt16.or_eq_zero_iff]
  exact fun none => absurd none.2 (by decide)

theorem macSalt_encrypt (flags : UInt16) (useCount : Nat) :
    macSalt (flags ||| secEncrypt) useCount = macSalt flags useCount := by
  have other : secEncrypt &&& secSecureChecksum = 0 := by decide
  rw [macSalt, macSalt, flags_encrypt, other, UInt16.or_zero]

theorem writeEncryptedPdu_count
    (written : writeEncryptedPdu crypto settings keys flags payload = .ok (wire, next)) :
    next.count - 1 = if 4096 ≤ keys.count then 0 else keys.count := by
  obtain ⟨_, -, written⟩ := bind_eq_ok.mp written
  obtain ⟨⟨_, _⟩, crypted, written⟩ := bind_eq_ok.mp written
  cases written
  exact SecurityKeys.crypt_count crypted

/-- A PDU that meets the keys it was written with gives its payload, unless its signature is salted
    with another count; and either way the keys move on with those of the sender. -/
theorem unwrapPdu_written {context : StandardSecurityContext}
    (written : writeEncryptedPdu crypto context.toSecuritySettings context.decrypt flags payload =
      .ok (wire, next)) :
    unwrapPdu crypto wire (some context) =
      (if macSignature crypto context.toSecuritySettings payload
            (macSalt flags context.decrypt.count) =
          macSignature crypto context.toSecuritySettings payload (macSalt flags (next.count - 1))
        then .ok (payload, flags ||| secEncrypt) else .error (.returned .protocolError),
      some { context with decrypt := next }) := by
  obtain ⟨mac, signed, written⟩ := bind_eq_ok.mp written
  obtain ⟨⟨encrypted, _⟩, crypted, written⟩ := bind_eq_ok.mp written
  cases written
  obtain ⟨expected, signed'⟩ := macSignature_again signed (macSalt flags (next.count - 1))
  have body := readBytes_append mac encrypted
  rw [macSignature_length signed] at body
  rw [unwrapPdu, List.append_assoc, List.append_assoc, readU16Le_append, Effect.lift_ok_bind]
  dsimp only
  rw [readU16Le_nat (by decide), Effect.lift_ok_bind]
  dsimp only
  rw [if_neg (by decide), if_neg (secEncrypt_set flags), Effect.get_bind]
  dsimp only
  rw [body, Effect.lift_ok_bind]
  dsimp only
  rw [SecurityKeys.crypt_crypt crypted, Effect.lift_ok_bind]
  dsimp only
  rw [Effect.modify_bind, macSalt_encrypt, signed', Effect.lift_ok_bind, signed]
  by_cases same : mac = expected
  · simp [same]
  · simp [same, Effect.stop]

/-! ## A link -/

inductive Side where
  | client
  | server
  deriving Repr, DecidableEq

def Side.other : Side → Side
  | .client => .server
  | .server => .client

@[simp] theorem Side.other_other (side : Side) : side.other.other = side := by
  cases side <;> rfl

@[simp] theorem Side.other_ne (side : Side) : side.other ≠ side := by
  cases side <;> decide

theorem Side.eq_or_other (side at' : Side) : at' = side ∨ at' = side.other := by
  cases side <;> cases at' <;> decide

structure SecuredPdu where
  flags : UInt16
  payload : Bytes
  wire : Bytes
  deriving Repr, DecidableEq

structure SecurityLink where
  context : Side → StandardSecurityContext
  inFlight : Side → List SecuredPdu := fun _ => []

inductive SecurityInput where
  | send (side : Side) (flags : UInt16) (payload : Bytes)
  | receive (side : Side)
  deriving Repr, DecidableEq

def securityStep (crypto : Crypto) (link : SecurityLink) :
    SecurityInput → Exec (Option (Attempt (Bytes × UInt16)) × SecurityLink)
  | .send side flags payload =>
    let context := link.context side
    match writeEncryptedPdu crypto context.toSecuritySettings context.encrypt flags payload with
    | .error stop => .ok (some (.error stop), link)
    | .ok (wire, encrypt) =>
        let queue := link.inFlight side.other ++ [⟨flags, payload, wire⟩]
        .ok (none, { context := Function.update link.context side { context with encrypt }
                     inFlight := Function.update link.inFlight side.other queue })
  | .receive side =>
    match link.inFlight side with
    | [] => .ok (none, link)
    | pdu :: rest =>
        let (result, context) := unwrapPdu crypto pdu.wire (some (link.context side))
        let context := context.getD (link.context side)
        .ok (some result, { context := Function.update link.context side context
                            inFlight := Function.update link.inFlight side rest })

/-- What is in flight was written one after the other, from the first keys to the last. -/
def WrittenFrom (crypto : Crypto) (settings : SecuritySettings) :
    SecurityKeys → List SecuredPdu → SecurityKeys → Prop
  | keys, [], last => keys = last
  | keys, pdu :: rest, last => ∃ next,
      writeEncryptedPdu crypto settings keys pdu.flags pdu.payload = .ok (pdu.wire, next) ∧
        WrittenFrom crypto settings next rest last

theorem WrittenFrom.snoc {queue : List SecuredPdu}
    (from_ : WrittenFrom crypto settings keys queue last)
    (written : writeEncryptedPdu crypto settings last flags payload = .ok (wire, next)) :
    WrittenFrom crypto settings keys (queue ++ [⟨flags, payload, wire⟩]) next := by
  induction queue generalizing keys with
  | nil =>
      cases from_
      exact ⟨next, written, rfl⟩
  | cons pdu queue ih =>
      obtain ⟨middle, first, later⟩ := from_
      exact ⟨middle, first, ih later⟩

structure InStep (crypto : Crypto) (settings : SecuritySettings) (link : SecurityLink) : Prop where
  shared : ∀ side, (link.context side).toSecuritySettings = settings
  written : ∀ side, WrittenFrom crypto settings (link.context side).decrypt (link.inFlight side)
    (link.context side.other).encrypt

variable {link link' : SecurityLink} {side : Side}

theorem InStep.sends (inStep : InStep crypto settings link) {encrypt : SecurityKeys}
    (written : writeEncryptedPdu crypto settings (link.context side).encrypt flags payload =
      .ok (wire, encrypt)) :
    InStep crypto settings
      { context := Function.update link.context side { link.context side with encrypt }
        inFlight := Function.update link.inFlight side.other
          (link.inFlight side.other ++ [⟨flags, payload, wire⟩]) } := by
  constructor
  · intro at'
    obtain rfl | rfl := side.eq_or_other at'
    · simpa using inStep.shared at'
    · simpa using inStep.shared side.other
  · intro at'
    obtain rfl | rfl := side.eq_or_other at'
    · simpa [Function.update_of_ne at'.other_ne.symm] using inStep.written at'
    · have before := inStep.written side.other
      rw [side.other_other] at before
      simpa using before.snoc written

theorem InStep.receives (inStep : InStep crypto settings link) {rest : List SecuredPdu}
    {decrypt : SecurityKeys}
    (later : WrittenFrom crypto settings decrypt rest (link.context side.other).encrypt) :
    InStep crypto settings
      { context := Function.update link.context side { link.context side with decrypt }
        inFlight := Function.update link.inFlight side rest } := by
  constructor
  · intro at'
    obtain rfl | rfl := side.eq_or_other at'
    · simpa using inStep.shared at'
    · simpa using inStep.shared side.other
  · intro at'
    obtain rfl | rfl := side.eq_or_other at'
    · simpa using later
    · simpa using inStep.written side.other

theorem InStep.step (inStep : InStep crypto settings link) {input : SecurityInput}
    {answer : Option (Attempt (Bytes × UInt16))}
    (taken : securityStep crypto link input = .ok (answer, link')) :
    InStep crypto settings link' := by
  cases input with
  | send side flags payload =>
    rw [securityStep] at taken
    dsimp only at taken
    split at taken
    · cases taken
      exact inStep
    rename_i wire encrypt written
    cases taken
    rw [inStep.shared side] at written
    exact inStep.sends written
  | receive side =>
    rw [securityStep] at taken
    split at taken
    · cases taken
      exact inStep
    rename_i pdu rest queue
    have from_ := inStep.written side
    rw [queue, ← inStep.shared side] at from_
    obtain ⟨next, written, later⟩ := from_
    rw [unwrapPdu_written written] at taken
    cases taken
    exact inStep.receives (inStep.shared side ▸ later)

structure Mirrored (settings : SecuritySettings) (start : SecurityLink) : Prop where
  shared : ∀ side, (start.context side).toSecuritySettings = settings
  quiet : ∀ side, start.inFlight side = []
  keys : ∀ side, (start.context side).decrypt = (start.context side.other).encrypt

/-- `rdp_security_standard_client_init` and `rdp_security_standard_server_init`. -/
def openLink (crypto : Crypto) (method : UInt32) (clientRandom serverRandom : Bytes) :
    Attempt SecurityLink := do
  let client ← standardInitDirection crypto method clientRandom serverRandom false
  let server ← standardInitDirection crypto method clientRandom serverRandom true
  pure { context := fun
    | .client => client
    | .server => server }

theorem openLink_mirrored {method : UInt32} {clientRandom serverRandom : Bytes}
    {start : SecurityLink} (opened : openLink crypto method clientRandom serverRandom = .ok start) :
    ∃ settings, Mirrored settings start := by
  obtain ⟨client, asClient, opened⟩ := bind_eq_ok.mp opened
  obtain ⟨server, asServer, opened⟩ := bind_eq_ok.mp opened
  cases opened
  rw [standardInitDirection] at asClient asServer
  split at asClient
  · cases asClient
  rename_i known
  rw [if_neg known] at asServer
  obtain ⟨keyLen, length, asClient⟩ := bind_eq_ok.mp asClient
  obtain ⟨keyLen', length', asServer⟩ := bind_eq_ok.mp asServer
  rw [length] at length'
  cases length'
  cases asClient
  cases asServer
  exact ⟨_, fun | .client => rfl | .server => rfl, fun _ => rfl,
    fun | .client => rfl | .server => rfl⟩

theorem Mirrored.inStep {start : SecurityLink} (mirrored : Mirrored settings start) :
    InStep crypto settings start where
  shared := mirrored.shared
  written side := by
    rw [mirrored.quiet side]
    exact mirrored.keys side

/-- Whatever was sent and received before, the oldest PDU on its way to a side unwraps to its
    payload and flags, unless its signature is salted and the keys are renewed for it: the sender
    salts with the count before the renewal, the receiver with the one after it. Unwrapped or refused,
    it leaves the keys that its sender was left with, and once nothing is on its way both sides have
    the same ones. -/
theorem sent_pdu_unwraps_iff {start : SecurityLink} (mirrored : Mirrored settings start)
    (reached : Reachable (securityStep crypto) start link) (side : Side) :
    (link.inFlight side = [] →
      (link.context side).decrypt = (link.context side.other).encrypt) ∧
    ∀ pdu rest, link.inFlight side = pdu :: rest →
      ((unwrapPdu crypto pdu.wire (some (link.context side))).1 =
          .ok (pdu.payload, pdu.flags ||| secEncrypt) ↔
        (pdu.flags &&& secSecureChecksum ≠ 0 → 4096 ≤ (link.context side).decrypt.count →
          macSignature crypto settings pdu.payload
              (u32LeBytes (link.context side).decrypt.count) =
            macSignature crypto settings pdu.payload (u32LeBytes 0))) ∧
      ∃ decrypt,
        writeEncryptedPdu crypto settings (link.context side).decrypt pdu.flags pdu.payload =
          .ok (pdu.wire, decrypt) ∧
        (unwrapPdu crypto pdu.wire (some (link.context side))).2 =
          some { link.context side with decrypt } ∧
        (rest = [] → decrypt = (link.context side.other).encrypt) := by
  have inStep : InStep crypto settings link :=
    reached.invariant _ mirrored.inStep fun _ _ _ _ inStep taken => inStep.step taken
  have from_ := inStep.written side
  refine ⟨fun none => ?_, fun pdu rest first => ?_⟩
  · rw [none] at from_
    exact from_
  rw [first] at from_
  obtain ⟨next, written, later⟩ := from_
  refine ⟨?_, next, written, ?_, ?_⟩
  · rw [← inStep.shared side] at written
    rw [unwrapPdu_written written, writeEncryptedPdu_count written, inStep.shared side]
    by_cases renewed : 4096 ≤ (link.context side).decrypt.count
    · by_cases plain : pdu.flags &&& secSecureChecksum = 0
      · simp [plain, macSalt]
      · simp [renewed, plain, macSalt]
    · simp [renewed]
  · rw [← inStep.shared side] at written
    rw [unwrapPdu_written written]
  · rintro rfl
    exact later

/-- The digests and the key streams of the two PDUs below, under keys of zeros. -/
def zeroCrypto : Crypto where
  sha1 data :=
    if data.length = 72 then [69, 236, 20, 82, 152, 164, 159, 35, 102, 190, 93, 241, 71, 102, 15, 236,
      80, 249, 187, 132]
    else if data.getD 62 0 = 16 then [182, 223, 51, 137, 215, 202, 4, 199, 48, 238, 197, 214, 245, 132,
      196, 86, 8, 245, 216, 127]
    else [130, 212, 36, 84, 153, 49, 77, 63, 181, 250, 120, 75, 121, 86, 145, 96, 120, 224, 138, 75]
  md5 data :=
    if data.getD 64 0 = 69 then [54, 74, 68, 101, 184, 24, 83, 233, 177, 33, 228, 233, 190, 100, 184, 96]
    else if data.getD 64 0 = 182 then [202, 39, 157, 184, 165, 152, 182, 166, 230, 160, 165, 222, 149,
      173, 152, 20]
    else [89, 129, 92, 129, 247, 222, 194, 67, 33, 206, 151, 46, 153, 55, 151, 102]
  rc4 key i :=
    if key.head? = some 54 then
      [89, 231, 149, 77, 165, 176, 121, 75, 90, 180, 175, 1, 79, 4, 19, 99].getD i 0
    else if key.head? = some 111 then 194
    else 222
  md5_length data := by
    split
    · rfl
    split <;> rfl

def zeroKeys (count : Nat) : SecurityKeys where
  key := List.replicate 16 0
  updateKey := List.replicate 16 0
  rc4 := ⟨List.replicate 16 0, 0⟩
  count := count

def zeroSettings : SecuritySettings := ⟨List.replicate 16 0, 16, method128Bit⟩

/-- The client has used its key as often as it may. -/
def zeroLink : SecurityLink where
  context
    | .client => ⟨zeroSettings, zeroKeys 4096, zeroKeys 0⟩
    | .server => ⟨zeroSettings, zeroKeys 0, zeroKeys 4096⟩

/-- A salted PDU of one byte in each direction. -/
def zeroSent (side : Side) (link : SecurityLink) : SecurityLink :=
  match securityStep zeroCrypto link (.send side secSecureChecksum [0x41]) with
  | .ok (_, link) => link
  | .error _ => link

def bothSent : SecurityLink := zeroSent .server (zeroSent .client zeroLink)

theorem sent_pdu_unwraps_iff_zero :
    (unwrapPdu zeroCrypto [8, 8, 0, 0, 202, 39, 157, 184, 165, 152, 182, 166, 131]
        (some (bothSent.context .server))).1 ≠ .ok ([0x41], 0x808) ∧
      (unwrapPdu zeroCrypto [8, 8, 0, 0, 202, 39, 157, 184, 165, 152, 182, 166, 131]
        (some (bothSent.context .server))).2 =
          some { bothSent.context .server with decrypt := (bothSent.context .client).encrypt } ∧
      (unwrapPdu zeroCrypto [8, 8, 0, 0, 89, 129, 92, 129, 247, 222, 194, 67, 159]
        (some (bothSent.context .client))).1 = .ok ([0x41], 0x808) := by
  have mirrored : Mirrored zeroSettings zeroLink := by
    refine ⟨?_, fun _ => rfl, ?_⟩ <;> rintro ⟨⟩ <;> rfl
  have sent : Reachable (securityStep zeroCrypto) zeroLink bothSent :=
    .step (.step .init (i := .send .client secSecureChecksum [0x41]) rfl)
      (i := .send .server secSecureChecksum [0x41]) rfl
  obtain ⟨refused, decrypt, -, kept, last⟩ :=
    (sent_pdu_unwraps_iff mirrored sent .server).2 ⟨secSecureChecksum, [0x41], _⟩ [] rfl
  obtain ⟨delivered, -⟩ :=
    (sent_pdu_unwraps_iff mirrored sent .client).2 ⟨secSecureChecksum, [0x41], _⟩ [] rfl
  refine ⟨fun unwrapped => ?_, last rfl ▸ kept, delivered.mpr fun _ many => absurd many (by decide)⟩
  exact absurd (refused.mp unwrapped (by decide) (by decide)) (by decide)

end LibRdp.Security
