import Mathlib.Data.Nat.Bitwise
import LibRdp.Common

/-! # Static virtual-channel packets

A packet announces the length of its whole message, carries the fragment flags and
one fragment. What the parser accepts never holds more bytes than it announces, and
what the writer produces reads back as it was written.
-/

namespace LibRdp.Channels

/-- `RDP_VIRTUAL_CHANNEL_FLAG_FIRST` and `RDP_VIRTUAL_CHANNEL_FLAG_LAST`. -/
def flagFirst : UInt32 := 0x00000001

def flagLast : UInt32 := 0x00000002

/-- `rdp_virtual_channel_packet`; `payload_len` is the length of the payload. -/
structure VirtualChannelPacket where
  length : UInt32
  flags : UInt32
  payload : Bytes
  deriving Repr, DecidableEq

def VirtualChannelPacket.whole (packet : VirtualChannelPacket) : Prop :=
  packet.flags &&& (flagFirst ||| flagLast) = flagFirst ||| flagLast

def VirtualChannelPacket.first (packet : VirtualChannelPacket) : Prop :=
  packet.flags &&& flagFirst ≠ 0

def VirtualChannelPacket.last (packet : VirtualChannelPacket) : Prop :=
  packet.flags &&& flagLast ≠ 0

instance (packet : VirtualChannelPacket) : Decidable packet.whole :=
  inferInstanceAs (Decidable (_ = _))

instance (packet : VirtualChannelPacket) : Decidable packet.first :=
  inferInstanceAs (Decidable (_ ≠ _))

instance (packet : VirtualChannelPacket) : Decidable packet.last :=
  inferInstanceAs (Decidable (_ ≠ _))

/-- `rdp_virtual_channel_parse_packet`. -/
def virtualChannelParsePacket (data : Bytes) : Attempt VirtualChannelPacket := do
  let (length, stream) ← readU32Le data
  let (flags, stream) ← readU32Le stream
  let remaining := stream.length
  if length.toNat > remaining ∧ (flags &&& (flagFirst ||| flagLast)) = flagFirst ||| flagLast then
    refuse .protocolError
  else do
    let payloadLen := if length.toNat < remaining then length.toNat else remaining
    let (payload, _) ← readBytes stream payloadLen
    pure { length, flags, payload }

/-- `rdp_virtual_channel_write_fragment`; the bytes appended to the buffer. -/
def virtualChannelWriteFragment (payload : Bytes) (totalLen : Nat) (flags : UInt32) :
    Attempt Bytes :=
  if totalLen > 2 ^ 32 - 1 ∨ payload.length > totalLen then refuse .invalidArgument
  else if (flags &&& (flagFirst ||| flagLast)) = flagFirst ||| flagLast ∧
      payload.length ≠ totalLen then refuse .invalidArgument
  else .ok (u32LeBytes totalLen ++ u32LeBytes flags.toNat ++ payload)

theorem and_flags (flags : UInt32) :
    (flags &&& (flagFirst ||| flagLast) = flagFirst ||| flagLast) ↔
      flags &&& flagFirst ≠ 0 ∧ flags &&& flagLast ≠ 0 := by
  have low : flags.toNat &&& 3 = flags.toNat % 4 := Nat.and_two_pow_sub_one_eq_mod flags.toNat 2
  have bit0 : flags.toNat &&& 1 = flags.toNat % 2 := Nat.and_one_is_mod flags.toNat
  have bit1 : flags.toNat &&& 2 = (flags.toNat.testBit 1).toNat * 2 :=
    Nat.and_two_pow flags.toNat 1
  rw [Nat.toNat_testBit] at bit1
  simp only [ne_eq, ← UInt32.toNat_inj, UInt32.toNat_and]
  change flags.toNat &&& 3 = 3 ↔ ¬flags.toNat &&& 1 = 0 ∧ ¬flags.toNat &&& 2 = 0
  omega

theorem VirtualChannelPacket.whole_iff (packet : VirtualChannelPacket) :
    packet.whole ↔ packet.first ∧ packet.last :=
  and_flags packet.flags

theorem flags_whole : (flagFirst ||| flagLast) &&& flagFirst ≠ 0 ∧
    (flagFirst ||| flagLast) &&& flagLast ≠ 0 := by decide

theorem flags_first : flagFirst &&& flagFirst ≠ 0 ∧ ¬flagFirst &&& flagLast ≠ 0 ∧
    ¬flagFirst &&& (flagFirst ||| flagLast) = flagFirst ||| flagLast := by decide

theorem flags_middle : ¬(0 : UInt32) &&& flagFirst ≠ 0 ∧ ¬(0 : UInt32) &&& flagLast ≠ 0 ∧
    ¬(0 : UInt32) &&& (flagFirst ||| flagLast) = flagFirst ||| flagLast := by decide

theorem flags_last : ¬flagLast &&& flagFirst ≠ 0 ∧ flagLast &&& flagLast ≠ 0 ∧
    ¬flagLast &&& (flagFirst ||| flagLast) = flagFirst ||| flagLast := by decide

variable {data : Bytes}

theorem parsePacket_bounds {packet : VirtualChannelPacket}
    (parsed : virtualChannelParsePacket data = .ok packet) :
    packet.payload.length ≤ packet.length.toNat ∧ packet.payload.length + 8 ≤ data.length ∧
      (packet.whole → packet.payload.length = packet.length.toNat) := by
  obtain ⟨⟨length, stream⟩, readLength, parsed⟩ := bind_eq_ok.mp parsed
  obtain ⟨⟨flags, rest⟩, readFlags, parsed⟩ := bind_eq_ok.mp parsed
  have start := readU32Le_length readLength
  have next := readU32Le_length readFlags
  simp only at parsed
  split at parsed
  · cases parsed
  rename_i fits
  obtain ⟨⟨payload, _⟩, readPayload, last⟩ := bind_eq_ok.mp parsed
  cases last
  have taken := readBytes_length readPayload
  simp only [not_and] at fits
  refine ⟨by grind, by grind, ?_⟩
  intro whole
  have := mt (fits ·) (not_not.mpr whole)
  grind

theorem parsePacket_error {stop : Stop} (failed : virtualChannelParsePacket data = .error stop) :
    stop = .returned .protocolError := by
  rcases Machine.bind_eq_error.mp failed with failed | ⟨_, _, failed⟩
  · exact readU32Le_error failed
  rcases Machine.bind_eq_error.mp failed with failed | ⟨_, _, failed⟩
  · exact readU32Le_error failed
  simp only at failed
  split at failed
  · cases failed
    rfl
  rcases Machine.bind_eq_error.mp failed with failed | ⟨_, _, failed⟩
  · exact readBytes_error failed
  · cases failed

variable {flags : UInt32} {chunks : List Bytes} {chunk : Bytes}

theorem parsePacket_writeFragment {payload wire : Bytes} {totalLen : Nat}
    (wrote : virtualChannelWriteFragment payload totalLen flags = .ok wire) :
    virtualChannelParsePacket wire =
      .ok { length := UInt32.ofNat totalLen, flags, payload } := by
  unfold virtualChannelWriteFragment at wrote
  split at wrote
  · cases wrote
  rename_i fits
  split at wrote
  · cases wrote
  rename_i complete
  cases wrote
  have small : totalLen < 2 ^ 32 := by omega
  have size : (UInt32.ofNat totalLen).toNat = totalLen := by
    rw [UInt32.toNat_ofNat', Nat.mod_eq_of_lt small]
  have total := readU32Le_append (UInt32.ofNat totalLen) (u32LeBytes flags.toNat ++ payload)
  rw [size, ← List.append_assoc] at total
  have readPayload := readBytes_append payload []
  rw [List.append_nil] at readPayload
  unfold virtualChannelParsePacket
  simp only [total, ok_bind, readU32Le_append, size]
  rw [if_neg (by grind)]
  have all : (if totalLen < payload.length then totalLen else payload.length) =
      payload.length := by grind
  simp only [all, readPayload, ok_bind, attempt_pure]

def laterFragments : List Bytes → List (Bytes × UInt32)
  | [] => []
  | [chunk] => [(chunk, flagLast)]
  | chunk :: rest => (chunk, 0) :: laterFragments rest

/-- A message cut into chunks: the first flag on the first, the last flag on the last. -/
def fragments : List Bytes → List (Bytes × UInt32)
  | [] => []
  | [chunk] => [(chunk, flagFirst ||| flagLast)]
  | chunk :: rest => (chunk, flagFirst) :: laterFragments rest

def writeFragments (chunks : List Bytes) : Attempt (List Bytes) :=
  (fragments chunks).mapM fun (chunk, flags) =>
    virtualChannelWriteFragment chunk chunks.flatten.length flags

def fragmentWire (totalLen : Nat) (fragment : Bytes × UInt32) : Bytes :=
  u32LeBytes totalLen ++ u32LeBytes fragment.2.toNat ++ fragment.1

variable {rest : List Bytes}

theorem laterFragments_cons (chunk : Bytes) (more : rest ≠ []) :
    laterFragments (chunk :: rest) = (chunk, 0) :: laterFragments rest := by
  cases rest with
  | nil => exact absurd rfl more
  | cons _ _ => rfl

theorem fragments_cons (chunk : Bytes) (more : rest ≠ []) :
    fragments (chunk :: rest) = (chunk, flagFirst) :: laterFragments rest := by
  cases rest with
  | nil => exact absurd rfl more
  | cons _ _ => rfl

theorem laterFragments_append (middle : List Bytes) (last : Bytes) :
    laterFragments (middle ++ [last]) = middle.map (·, 0) ++ [(last, flagLast)] := by
  induction middle with
  | nil => rfl
  | cons chunk middle ih =>
    rw [List.cons_append, laterFragments_cons chunk (by simp), ih]
    rfl

theorem fragments_append (first : Bytes) (middle : List Bytes) (last : Bytes) :
    fragments (first :: (middle ++ [last])) =
      (first, flagFirst) :: (middle.map (·, 0) ++ [(last, flagLast)]) := by
  rw [fragments_cons first (by simp), laterFragments_append]

@[simp] theorem laterFragments_length (chunks : List Bytes) :
    (laterFragments chunks).length = chunks.length := by
  induction chunks with
  | nil => rfl
  | cons chunk rest ih =>
    cases rest with
    | nil => rfl
    | cons _ _ => exact congrArg (· + 1) ih

@[simp] theorem fragments_length (chunks : List Bytes) :
    (fragments chunks).length = chunks.length := by
  cases chunks with
  | nil => rfl
  | cons chunk rest =>
    cases rest with
    | nil => rfl
    | cons _ _ => exact congrArg (· + 1) (laterFragments_length _)

theorem chunk_length_le (held : chunk ∈ chunks) : chunk.length ≤ chunks.flatten.length :=
  (List.sublist_flatten_of_mem held).length_le

theorem mem_laterFragments (held : (chunk, flags) ∈ laterFragments chunks) :
    chunk ∈ chunks ∧ (flags = 0 ∨ flags = flagLast) := by
  induction chunks with
  | nil => cases held
  | cons c rest ih =>
    cases rest with
    | nil =>
      cases held with
      | head => exact ⟨List.mem_cons_self, .inr rfl⟩
      | tail _ held => cases held
    | cons d rest =>
      cases held with
      | head => exact ⟨List.mem_cons_self, .inl rfl⟩
      | tail _ held => exact ⟨.tail c (ih held).1, (ih held).2⟩

theorem mem_fragments (held : (chunk, flags) ∈ fragments chunks) :
    chunk ∈ chunks ∧
      (flags &&& (flagFirst ||| flagLast) = flagFirst ||| flagLast → chunks = [chunk]) := by
  cases chunks with
  | nil => cases held
  | cons c rest =>
    cases rest with
    | nil =>
      cases held with
      | head => exact ⟨List.mem_cons_self, fun _ => rfl⟩
      | tail _ held => cases held
    | cons d rest =>
      cases held with
      | head => exact ⟨List.mem_cons_self, fun both => absurd both (by decide)⟩
      | tail _ held =>
        obtain ⟨later, few⟩ := mem_laterFragments held
        refine ⟨.tail c later, fun both => ?_⟩
        cases few with
        | inl none => exact absurd (none ▸ both) (by decide)
        | inr last => exact absurd (last ▸ both) (by decide)

theorem writeFragment_ok {fragment : Bytes × UInt32} (small : chunks.flatten.length < 2 ^ 32)
    (held : fragment ∈ fragments chunks) :
    virtualChannelWriteFragment fragment.1 chunks.flatten.length fragment.2 =
      .ok (fragmentWire chunks.flatten.length fragment) := by
  obtain ⟨member, whole⟩ := mem_fragments held
  have short := chunk_length_le member
  unfold virtualChannelWriteFragment
  rw [if_neg (by omega), if_neg ?_]
  · rfl
  · intro ⟨both, differs⟩
    apply differs
    rw [whole both, List.flatten_singleton]

theorem writeFragments_ok (small : chunks.flatten.length < 2 ^ 32) :
    writeFragments chunks =
      .ok ((fragments chunks).map (fragmentWire chunks.flatten.length)) := by
  unfold writeFragments
  exact attempt_mapM_ok fun fragment held => writeFragment_ok small held

theorem parsePacket_fragmentWire {chunks : List Bytes} {chunk : Bytes} {flags : UInt32}
    (small : chunks.flatten.length < 2 ^ 32) (held : (chunk, flags) ∈ fragments chunks) :
    virtualChannelParsePacket (fragmentWire chunks.flatten.length (chunk, flags)) =
      .ok { length := UInt32.ofNat chunks.flatten.length, flags, payload := chunk } := by
  exact parsePacket_writeFragment (writeFragment_ok small held)

end LibRdp.Channels
