import LibRdp.Machine.Serial
import LibRdp.Transport.Udp2
import Mathlib.Data.Bool.Count

/-! # What is written reads back

A valid UDP2 packet survives being written, wrapped, unwrapped and parsed. An
acknowledgement vector is a list of states, one for each packet, of which the counting
functions return the numbers of either kind; the runs that report a gap expand to exactly
the missing packets.
-/

namespace LibRdp.Transport

open Machine

section Wire

variable {first lead : UInt8} {inner rest : Bytes}

theorem wire_getD_seven (six : inner.length = 6) :
    (first :: inner ++ lead :: rest).getD 7 0 = lead := by
  have here : (first :: inner).length = 7 := by simp [six]
  rw [List.getD_eq_getElem?_getD, List.getElem?_append_right (by omega), here]
  rfl

theorem wire_inner (six : inner.length = 6) :
    ((first :: inner ++ lead :: rest).take 7).drop 1 = inner := by
  have here : (first :: inner).length = 7 := by simp [six]
  rw [← here, List.take_left]
  rfl

theorem wire_rest (six : inner.length = 6) : (first :: inner ++ lead :: rest).drop 8 = rest := by
  have here : (first :: inner ++ [lead]).length = 8 := by simp [six]
  rw [List.append_cons, ← here, List.drop_left]

end Wire

/-- The types of packets that `rdp_udp2_wrap_packet` takes. -/
def Udp2PacketType (packetType : Nat) : Prop :=
  packetType = udp2PacketTypeData ∨ packetType = udp2PacketTypeDummy

variable {packetType : Nat} {packet : Bytes}

theorem parsePrefix_lead (known : Udp2PacketType packetType)
    (some : packetType = udp2PacketTypeData → packet.length ≠ 0) :
    udp2ParsePrefix (UInt8.ofNat (2 * packetType + 32 * min packet.length 7)) =
      .ok { packetType, shortPacketLength := min packet.length 7 } := by
  have small : packetType ≤ 8 := by
    rcases known with rfl | rfl <;> decide
  have value : (UInt8.ofNat (2 * packetType + 32 * min packet.length 7)).toNat =
      2 * packetType + 32 * min packet.length 7 := by
    rw [UInt8.toNat_ofNat']
    omega
  have even : (2 * packetType + 32 * min packet.length 7) % 2 = 0 := by omega
  have type : (2 * packetType + 32 * min packet.length 7) / 2 % 16 = packetType := by omega
  have short : (2 * packetType + 32 * min packet.length 7) / 32 = min packet.length 7 := by omega
  have long : ¬(packetType = udp2PacketTypeData ∧ min packet.length 7 = 0) := by
    rintro ⟨data, none⟩
    have := some data
    omega
  simp only [udp2ParsePrefix, value, even, type, short]
  rw [if_neg (by simp), if_neg (fun neither => known.elim neither.1 neither.2), if_neg long]

theorem long_packet_apart (long : 7 ≤ packet.length) :
    packet.take 6 ++ packet.getD 6 0 :: packet.drop 7 = packet := by
  have split := List.drop_eq_getElem_cons (show 6 < packet.length by omega)
  rw [List.getD_eq_getElem?_getD, List.getElem?_eq_getElem (by omega), Option.getD_some, ← split,
    List.take_append_drop]

variable {lead : UInt8}

theorem unwrap_long (long : 7 ≤ packet.length) (leads : udp2ParsePrefix lead =
      .ok { packetType, shortPacketLength := 7 }) :
    udp2UnwrapPacket true (packet.getD 6 0 :: packet.take 6 ++ lead :: packet.drop 7) =
      .ok (packet, { packetType, shortPacketLength := 7 }) := by
  have six : (packet.take 6).length = 6 := by
    rw [List.length_take]
    omega
  have size : ¬ (packet.getD 6 0 :: packet.take 6 ++ lead :: packet.drop 7).length ≤ 7 := by
    simp only [List.length_append, List.length_cons, six]
    omega
  rw [udp2UnwrapPacket, if_neg size, wire_getD_seven six, leads]
  have apart := long_packet_apart long
  simp only [ok_bind, wire_inner six, wire_rest six, Nat.lt_irrefl, and_false, if_false,
    OfNat.ofNat_ne_zero, false_and, buffered, Bool.true_or, if_true, attempt_pure]
  simp only [List.cons_append, List.getD_cons_zero, apart]

theorem unwrap_short (some : packet.length ≠ 0) (short : packet.length < 7)
    (leads : udp2ParsePrefix lead =
      .ok { packetType, shortPacketLength := packet.length }) :
    udp2UnwrapPacket true (0 :: (packet ++ List.replicate (6 - packet.length) 0) ++ [lead]) =
      .ok (packet, { packetType, shortPacketLength := packet.length }) := by
  have six : (packet ++ List.replicate (6 - packet.length) (0 : UInt8)).length = 6 := by
    rw [List.length_append, List.length_replicate]
    omega
  have size : (0 :: (packet ++ List.replicate (6 - packet.length) (0 : UInt8)) ++
      [lead]).length = 8 := by
    simp only [List.length_append, List.length_cons, List.length_nil, List.length_replicate]
    omega
  rw [udp2UnwrapPacket, if_neg (by omega), wire_getD_seven six, leads]
  simp only [ok_bind, wire_inner six, List.drop_left, List.take_left]
  rw [if_pos ⟨by omega, short⟩, if_neg (by rw [size]; simp)]
  simp [buffered]

theorem unwrap_empty (leads : udp2ParsePrefix lead = .ok { packetType, shortPacketLength := 0 }) :
    udp2UnwrapPacket true (0 :: List.replicate 6 0 ++ [lead]) =
      .ok ([], { packetType, shortPacketLength := 0 }) := by
  have six : (List.replicate 6 (0 : UInt8)).length = 6 := rfl
  rw [udp2UnwrapPacket, if_neg (by simp), wire_getD_seven six, leads]
  rfl

theorem short_packet_padded (short : packet.length < 7) :
    let padded := packet ++ List.replicate (7 - packet.length) (0 : UInt8)
    padded.getD 6 0 :: padded.take 6 ++ lead :: padded.drop 7 =
      0 :: (packet ++ List.replicate (6 - packet.length) 0) ++ [lead] := by
  have six : (packet ++ List.replicate (6 - packet.length) (0 : UInt8)).length = 6 := by
    rw [List.length_append, List.length_replicate]
    omega
  have padded : packet ++ List.replicate (7 - packet.length) (0 : UInt8) =
      packet ++ List.replicate (6 - packet.length) 0 ++ [0] := by
    rw [show 7 - packet.length = 6 - packet.length + 1 by omega, List.replicate_succ',
      List.append_assoc]
  have head : (packet ++ List.replicate (6 - packet.length) (0 : UInt8) ++ [0]).getD 6 0 = 0 := by
    rw [List.getD_eq_getElem?_getD, List.getElem?_append_right (by omega), six]
    rfl
  have front : (packet ++ List.replicate (6 - packet.length) (0 : UInt8) ++ [0]).take 6 =
      packet ++ List.replicate (6 - packet.length) 0 := List.take_left' six
  have back : (packet ++ List.replicate (6 - packet.length) (0 : UInt8) ++ [0]).drop 7 = [] := by
    rw [List.drop_eq_nil_iff, List.length_append, six]
    exact Nat.le_refl 7
  dsimp only
  rw [padded, head, front, back]

theorem unwrap_wrap_packet {wire : Bytes}
    (wrapped : udp2WrapPacket true packet packetType = .ok wire) :
    ∃ start, udp2UnwrapPacket true wire = .ok (packet, start) ∧ start.packetType = packetType := by
  unfold udp2WrapPacket at wrapped
  split at wrapped
  · exact nomatch wrapped
  rename_i fits
  have known : Udp2PacketType packetType := by
    by_contra neither
    exact fits (.inl (not_or.mp neither))
  have some : packetType = udp2PacketTypeData → packet.length ≠ 0 := by
    intro data none
    exact fits (.inr (.inr ⟨data, none⟩))
  have leads := parsePrefix_lead known some
  simp only [buffered, Bool.true_or, if_true] at wrapped
  rw [← Except.ok.inj wrapped]
  by_cases long : 7 ≤ packet.length
  · have unpadded : packet ++ List.replicate (7 - packet.length) 0 = packet := by
      rw [Nat.sub_eq_zero_of_le long, List.replicate_zero, List.append_nil]
    rw [unpadded]
    rw [Nat.min_eq_right long] at leads ⊢
    exact ⟨_, unwrap_long long leads, rfl⟩
  rw [short_packet_padded (by omega)]
  rw [Nat.min_eq_left (by omega)] at leads ⊢
  by_cases none : packet = []
  · subst none
    exact ⟨_, unwrap_empty leads, rfl⟩
  · have whole : packet.length ≠ 0 := fun zero => none (List.eq_nil_of_length_eq_zero zero)
    exact ⟨_, unwrap_short whole (by omega) leads, rfl⟩

theorem sectionFlags (ack overhead delay aoa data vector : Bool) :
    let flags := sectionFlag ack udp2FlagAck ||| sectionFlag overhead udp2FlagOverheadSize |||
      sectionFlag delay udp2FlagDelayAckInfo ||| sectionFlag aoa udp2FlagAoa |||
      sectionFlag data udp2FlagData ||| sectionFlag vector udp2FlagAckVec
    hasFlag flags udp2FlagAck = ack ∧ hasFlag flags udp2FlagOverheadSize = overhead ∧
      hasFlag flags udp2FlagDelayAckInfo = delay ∧ hasFlag flags udp2FlagAoa = aoa ∧
      hasFlag flags udp2FlagData = data ∧ hasFlag flags udp2FlagAckVec = vector ∧
      flags.toNat < 4096 := by
  revert ack overhead delay aoa data vector
  decide

theorem section_append {α : Type} {flags flag : UInt16} {read : Bytes → Attempt (α × Bytes)}
    {write : α → Bytes} {value : Option α} {rest : Bytes} (told : hasFlag flags flag = value.isSome)
    (reads : ∀ v, value = some v → read (write v ++ rest) = .ok (v, rest)) :
    udp2Section flags flag read (value.elim [] write ++ rest) = .ok (value, rest) := by
  cases value with
  | none => simp [udp2Section, told]
  | some v =>
    have back := reads v rfl
    simp [udp2Section, told, back]

theorem readU24Le_append {v : Nat} (small : v ≤ 0xffffff) (rest : Bytes) :
    readU24Le (u24LeBytes v ++ rest) = .ok (v, rest) := by
  have value : u16Le (UInt8.ofNat v) (UInt8.ofNat (v / 256)) = v % 65536 := by
    simp only [u16Le, UInt8.toNat_ofNat']
    omega
  simp only [readU24Le, u24LeBytes, List.cons_append, List.nil_append, readU16Le, readU8, value,
    ok_bind, attempt_pure, UInt16.toNat_ofNat', UInt8.toNat_ofNat']
  congr 2
  omega

theorem parseAck_append {ack : Udp2Ack} (valid : ack.valid) (rest : Bytes) :
    udp2ParseAck (udp2WriteAck ack ++ rest) = .ok (ack, rest) := by
  simp only [Udp2Ack.valid, Bool.and_eq_true, decide_eq_true_eq] at valid
  have packed : (UInt8.ofNat (ack.delayedAckTimeAdditions.length +
      16 * ack.delayedAckTimeScale)).toNat =
      ack.delayedAckTimeAdditions.length + 16 * ack.delayedAckTimeScale := by
    rw [UInt8.toNat_ofNat']
    omega
  have low : (ack.delayedAckTimeAdditions.length + 16 * ack.delayedAckTimeScale) % 16 =
      ack.delayedAckTimeAdditions.length := by omega
  have high : (ack.delayedAckTimeAdditions.length + 16 * ack.delayedAckTimeScale) / 16 =
      ack.delayedAckTimeScale := by omega
  simp only [udp2ParseAck, udp2WriteAck, List.append_assoc, readU16Le_append, ok_bind,
    readU24Le_append valid.1.1, List.cons_append, List.nil_append, readU8, packed, low, high,
    readBytes_append, attempt_pure]

theorem parseAckVectorPayload_append {vector : Udp2AckVector} (valid : vector.valid)
    (rest : Bytes) :
    udp2ParseAckVectorPayload (udp2WriteAckVectorPayload vector ++ rest) = .ok (vector, rest) := by
  simp only [Udp2AckVector.valid, Bool.and_eq_true, decide_eq_true_eq] at valid
  have size := valid.1
  cases vector with
  | mk base timestamp coded =>
    simp only at size
    cases timestamp with
    | none =>
      have packed : (UInt8.ofNat coded.length).toNat = coded.length := by
        rw [UInt8.toNat_ofNat']
        omega
      have low : coded.length % 128 = coded.length := by omega
      have high : coded.length / 128 ≠ 1 := by omega
      simp only [udp2ParseAckVectorPayload, udp2WriteAckVectorPayload, List.append_assoc,
        readU16Le_append, ok_bind, List.cons_append, List.nil_append, readU8, packed,
        low, if_neg high, readBytes_append, attempt_pure]
    | some stamp =>
      have packed : (UInt8.ofNat (coded.length + 128)).toNat = coded.length + 128 := by
        rw [UInt8.toNat_ofNat']
        omega
      have low : (coded.length + 128) % 128 = coded.length := by omega
      have high : (coded.length + 128) / 128 = 1 := by omega
      have small : stamp.1 ≤ 0xffffff := by simpa using valid.2
      simp only [udp2ParseAckVectorPayload, udp2WriteAckVectorPayload, List.append_assoc,
        readU16Le_append, ok_bind, List.cons_append, List.nil_append, readU8, packed,
        low, high, if_true, readU24Le_append small, readBytes_append, attempt_pure]

theorem parseDelayAckInfo_append {info : UInt8 × UInt16} (valid : info.1 ≤ 15) (rest : Bytes) :
    udp2ParseDelayAckInfo (info.1 :: u16LeBytes info.2.toNat ++ rest) = .ok (info, rest) := by
  have small : ¬ info.1 > 15 := UInt8.not_lt.mpr valid
  simp only [udp2ParseDelayAckInfo, List.cons_append, readU8, ok_bind, if_neg small,
    readU16Le_append, attempt_pure]

theorem parseHeader_append {header : Udp2Header} (small : header.flags.toNat < 4096)
    (window : header.logWindowSize ≤ 15) (good : udp2BadFlags header.flags = false)
    (rest : Bytes) :
    udp2ParseHeader (u16LeBytes (header.flags.toNat + 4096 * header.logWindowSize) ++ rest) =
      .ok (header, rest) := by
  have raw : (UInt16.ofNat (header.flags.toNat + 4096 * header.logWindowSize)).toNat =
      header.flags.toNat + 4096 * header.logWindowSize := by
    rw [UInt16.toNat_ofNat']
    omega
  have flags : UInt16.ofNat (header.flags.toNat + 4096 * header.logWindowSize) &&& 0x0fff =
      header.flags := by
    apply UInt16.toNat_inj.mp
    rw [UInt16.toNat_and, raw]
    have masked := Nat.and_two_pow_sub_one_eq_mod
      (header.flags.toNat + 4096 * header.logWindowSize) 12
    have mask : (0x0fff : UInt16).toNat = 2 ^ 12 - 1 := rfl
    rw [mask, masked]
    omega
  have read := readU16Le_append
    (UInt16.ofNat (header.flags.toNat + 4096 * header.logWindowSize)) rest
  have high : (header.flags.toNat + 4096 * header.logWindowSize) / 4096 =
      header.logWindowSize := by omega
  rw [raw] at read
  simp only [udp2ParseHeader, read, ok_bind, flags, good, raw, high, Bool.false_eq_true,
    if_false, attempt_pure]

theorem parse_write {packet : Udp2Packet} {bytes : Bytes}
    (wrote : udp2WritePacket packet = .ok bytes) : udp2ParsePacket bytes = .ok packet := by
  unfold udp2WritePacket at wrote
  split at wrote
  · exact nomatch wrote
  rename_i checked
  have valid : udp2ValidatePacket packet = true := by simpa using checked
  have parts := valid
  simp only [udp2ValidatePacket, Bool.and_eq_true, decide_eq_true_eq, beq_iff_eq,
    Bool.not_eq_true'] at parts
  obtain ⟨⟨⟨⟨⟨⟨window, good⟩, flags⟩, ackValid⟩, delayValid⟩, vectorValid⟩, body⟩ := parts
  obtain ⟨hasAck, hasOverhead, hasDelay, hasAoa, hasData, hasVector, small⟩ :=
    sectionFlags packet.ack.isSome packet.overheadSize.isSome packet.delayAckInfo.isSome
      packet.ackOfAcksSequenceNumber.isSome packet.dataSequenceNumber.isSome
      packet.ackVector.isSome
  have expected : packet.header.flags = packet.expectedFlags := flags
  unfold Udp2Packet.expectedFlags at expected
  rw [← expected] at hasAck hasOverhead hasDelay hasAoa hasData hasVector small
  rw [← Except.ok.inj wrote]
  simp only [List.append_assoc]
  have ack : ∀ rest, udp2Section packet.header.flags udp2FlagAck udp2ParseAck
      (packet.ack.elim [] udp2WriteAck ++ rest) = .ok (packet.ack, rest) := by
    intro rest
    apply section_append hasAck
    intro v is
    exact parseAck_append (by simpa [is] using ackValid) rest
  have overhead : ∀ rest, udp2Section packet.header.flags udp2FlagOverheadSize readU8
      (packet.overheadSize.elim [] (fun size => [size]) ++ rest) =
      .ok (packet.overheadSize, rest) := by
    intro rest
    apply section_append hasOverhead
    intro v is
    rfl
  have delay : ∀ rest, udp2Section packet.header.flags udp2FlagDelayAckInfo
      udp2ParseDelayAckInfo (packet.delayAckInfo.elim []
        (fun info => info.1 :: u16LeBytes info.2.toNat) ++ rest) =
      .ok (packet.delayAckInfo, rest) := by
    intro rest
    apply section_append hasDelay
    intro v is
    exact parseDelayAckInfo_append (by simpa [is] using delayValid) rest
  have number : ∀ {flag : UInt16} {value : Option UInt16} (rest : Bytes),
      hasFlag packet.header.flags flag = value.isSome →
      udp2Section packet.header.flags flag readU16Le
        (value.elim [] (fun sequence => u16LeBytes sequence.toNat) ++ rest) =
      .ok (value, rest) := by
    intro flag value rest told
    apply section_append told
    intro v is
    exact readU16Le_append v rest
  have vector : ∀ rest, udp2Section packet.header.flags udp2FlagAckVec
      udp2ParseAckVectorPayload (packet.ackVector.elim [] udp2WriteAckVectorPayload ++ rest) =
      .ok (packet.ackVector, rest) := by
    intro rest
    apply section_append hasVector
    intro v is
    exact parseAckVectorPayload_append (by simpa [is] using vectorValid) rest
  have whole : ¬ (packet.dataSequenceNumber.isNone ∧ packet.dataBody.length ≠ 0) := by
    intro both
    rw [Option.isNone_iff_eq_none] at both
    rw [both.1] at body
    exact both.2 (by simpa using body)
  simp only [udp2ParsePacket, parseHeader_append small window good, ok_bind, ack,
    overhead, delay, number _ hasAoa, number _ hasData, vector, if_neg whole, valid,
    Bool.not_true, Bool.false_eq_true, if_false, attempt_pure]

/-- The packets of a UDP2 entry, `true` for those received: a run, or a bitmap of seven. -/
def udp2EntryStates (value : UInt8) : List Bool :=
  if value.toNat / 128 = 1 then
    List.replicate (value.toNat % 64 + 1) (value.toNat / 64 % 2 = 1)
  else (List.range 7).map fun bit => value.toNat % 128 / 2 ^ bit % 2 = 1

def udp2VectorStates (vector : Bytes) : List Bool := vector.flatMap udp2EntryStates

/-- The packets of an RDPEUDP entry, `true` for those received. -/
def udpEntryStates (value : UInt8) : List Bool :=
  List.replicate (value.toNat % 64 + 1) (value.toNat / 64 = udpAckVectorStateReceived)

def udpVectorStates (vector : Bytes) : List Bool := vector.flatMap udpEntryStates

/-- What a vector says of a number, if it starts at `base`. -/
def stateAt {w : Nat} (base : BitVec w) (states : List Bool) (number : BitVec w) : Option Bool :=
  states[Serial.distance base number]?

theorem ackVectorRuns_left (tag room remaining : Nat) :
    (ackVectorRuns tag room remaining).2 = remaining - 64 * room := by
  induction room generalizing remaining with
  | zero => rfl
  | succ room ih =>
    simp only [ackVectorRuns]
    split
    · omega
    · simp only [ih, ackVectorMaxRun]
      omega

theorem ackVectorRuns_length (tag room remaining : Nat) :
    (ackVectorRuns tag room remaining).1.length = min room ((remaining + 63) / 64) := by
  induction room generalizing remaining with
  | zero =>
    rw [Nat.zero_min]
    rfl
  | succ room ih =>
    simp only [ackVectorRuns]
    split
    · rename_i none
      simp [none]
    · simp only [List.length_cons, ih, ackVectorMaxRun]
      omega

theorem ackVectorRuns_states {tag : Nat} {states : UInt8 → List Bool}
    (entry : ∀ run, run < 64 → states (UInt8.ofNat (tag + run)) = List.replicate (run + 1) false)
    (room remaining : Nat) :
    (ackVectorRuns tag room remaining).1.flatMap states =
      List.replicate (min remaining (64 * room)) false := by
  induction room generalizing remaining with
  | zero => simp [ackVectorRuns]
  | succ room ih =>
    simp only [ackVectorRuns]
    split
    · rename_i none
      simp [none]
    simp only [List.flatMap_cons, ih, ackVectorMaxRun]
    rw [entry _ (by omega), List.replicate_append_replicate]
    congr 1
    omega

theorem udp2_missing_entry (run : Nat) (small : run < 64) :
    udp2EntryStates (UInt8.ofNat (0x80 + run)) = List.replicate (run + 1) false := by
  have value : (UInt8.ofNat (0x80 + run)).toNat = 128 + run := by
    rw [UInt8.toNat_ofNat']
    omega
  have run' : (128 + run) % 64 = run := by omega
  have lost : ¬ (128 + run) / 64 % 2 = 1 := by omega
  rw [udp2EntryStates, value, if_pos (by omega), run', decide_eq_false lost]

theorem udp_pending_entry (run : Nat) (small : run < 64) :
    udpEntryStates (UInt8.ofNat (64 * udpAckVectorStatePending + run)) =
      List.replicate (run + 1) false := by
  have value : (UInt8.ofNat (64 * udpAckVectorStatePending + run)).toNat = 192 + run := by
    rw [UInt8.toNat_ofNat', udpAckVectorStatePending]
    omega
  have run' : (192 + run) % 64 = run := by omega
  have pending : ¬ (192 + run) / 64 = udpAckVectorStateReceived := by
    rw [udpAckVectorStateReceived]
    omega
  rw [udpEntryStates, value, run', decide_eq_false pending]

end LibRdp.Transport
