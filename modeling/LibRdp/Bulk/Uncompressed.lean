import LibRdp.Bulk.Flush

/-! # Packets that are not compressed

MPPC and RDP6 act on the other two flags and append the payload as it is; RDP6 refuses to move a
history to the front that is not long enough. `rdp_bulk_rdp61_decompress` is not given the flags,
so with one of the other two set it takes the payload for a level-1 packet.
-/

namespace LibRdp.Bulk

open Machine Coding

variable {flags : UInt8} {data : Bytes}

theorem hasFlag_of_unflagged {bit : UInt8} (within : bulkFlagsMask &&& bit = bit)
    (none_ : flags &&& bulkFlagsMask = 0) : hasFlag flags bit = false := by
  rw [hasFlag, ← within, ← UInt8.and_assoc, none_, UInt8.zero_and]
  rfl

theorem unflagged_of_clear (plain : hasFlag flags packetCompressed = false)
    (stays : hasFlag flags packetAtFront = false) (keeps : hasFlag flags packetFlushed = false) :
    flags &&& bulkFlagsMask = 0 := by
  have mask : bulkFlagsMask = packetCompressed ||| packetAtFront ||| packetFlushed := rfl
  have distrib (a b c : UInt8) : a &&& (b ||| c) = (a &&& b) ||| (a &&& c) :=
    UInt8.toBitVec_inj.mp BitVec.and_or_distrib_left
  rw [hasFlag, bne_eq_false_iff_eq] at plain stays keeps
  rw [mask, distrib, distrib, plain, stays, keeps]
  rfl

theorem packetAnswer_unflagged (d : Decompressor) (none_ : flags &&& bulkFlagsMask = 0)
    (filled : data ≠ []) (decoded : Bytes) :
    packetAnswer d flags data decoded = .ok (.ok, decoded ++ data) := by
  have some_ := List.length_eq_zero_iff.not.mpr filled
  simp only [packetAnswer, decompress]
  rw [if_neg some_, if_pos none_]
  rfl

theorem mppcDecompress_uncompressed {state : MppcState} (valid : state.Valid)
    (plain : hasFlag flags packetCompressed = false) (decoded : Bytes) :
    mppcDecompress state flags data decoded =
      .ok (.ok, mppcReady state.level (mppcOpen state flags), decoded ++ data) := by
  rw [mppcDecompress_eq valid, mppcDecompressBody, if_pos plain]

theorem packetAnswer_mppc {d : Decompressor} (valid : d.Valid)
    (type : flags &&& bulkTypeMask = bulkType8k ∨ flags &&& bulkTypeMask = bulkType64k)
    (plain : hasFlag flags packetCompressed = false) (filled : data ≠ []) (decoded : Bytes) :
    packetAnswer d flags data decoded = .ok (.ok, decoded ++ data) := by
  by_cases none_ : flags &&& bulkFlagsMask = 0
  · exact packetAnswer_unflagged d none_ filled decoded
  have some_ := List.length_eq_zero_iff.not.mpr filled
  simp only [packetAnswer, decompress]
  rw [if_neg some_, if_neg none_]
  rcases type with type | type
  · rw [if_pos type, mppcDecompress_uncompressed valid.mppc8k plain]
    rfl
  · rw [type, if_neg (by decide), if_pos rfl, mppcDecompress_uncompressed valid.mppc64k plain]
    rfl

theorem packetAnswer_rdp6 {d : Decompressor} (valid : d.Valid)
    (type : flags &&& bulkTypeMask = bulkTypeRdp6) (plain : hasFlag flags packetCompressed = false)
    (filled : data ≠ []) (decoded : Bytes) :
    packetAnswer d flags data decoded =
      .ok (if hasFlag flags packetAtFront = true ∧ d.rdp6.writeOffset ≤ 32768
        then (.protocolError, decoded) else (.ok, decoded ++ data)) := by
  by_cases none_ : flags &&& bulkFlagsMask = 0
  · have stays : hasFlag flags packetAtFront = false := hasFlag_of_unflagged rfl none_
    rw [packetAnswer_unflagged d none_ filled, if_neg (by simp [stays])]
  have some_ := List.length_eq_zero_iff.not.mpr filled
  simp only [packetAnswer, decompress, type]
  rw [if_neg some_, if_neg none_, if_neg (by decide), if_neg (by decide), if_pos trivial,
    rdp6Decode_eq valid.rdp6]
  have cursor : d.rdp6.core.window.cursor = d.rdp6.writeOffset := rfl
  by_cases early : hasFlag flags packetAtFront = true ∧ d.rdp6.writeOffset ≤ 32768
  · rw [rdp6Open, cursor, if_pos early, if_pos early]
    rfl
  have opened : ∃ core, rdp6Open d.rdp6.core flags = some core := by
    rw [rdp6Open, cursor, if_neg early]
    split
    · exact ⟨_, rfl⟩
    split
    · exact ⟨_, rfl⟩
    · exact ⟨_, rfl⟩
  obtain ⟨core, opened⟩ := opened
  rw [opened, if_neg early]
  simp only [rdp6DecodeBody, plain, if_true]
  rfl

/-- A packet that is not compressed passes through. RDP6 refuses it when it asks for a move of a
    history that is not longer than what is moved; RDP6.1 passes it when no flag is set. -/
theorem uncompressed_passes {d : Decompressor} (reached : Reachable bulkStep decompressorInit d)
    (plain : hasFlag flags packetCompressed = false) (filled : data ≠ []) (decoded : Bytes) :
    (flags &&& bulkTypeMask = bulkType8k ∨ flags &&& bulkTypeMask = bulkType64k →
      packetAnswer d flags data decoded = .ok (.ok, decoded ++ data)) ∧
    (flags &&& bulkTypeMask = bulkTypeRdp6 → packetAnswer d flags data decoded =
      .ok (if hasFlag flags packetAtFront = true ∧ d.rdp6.writeOffset ≤ 32768
        then (.protocolError, decoded) else (.ok, decoded ++ data))) ∧
    (flags &&& bulkTypeMask = bulkTypeRdp61 → hasFlag flags packetAtFront = false →
      hasFlag flags packetFlushed = false →
        packetAnswer d flags data decoded = .ok (.ok, decoded ++ data)) := by
  have valid := bulk_reachable_valid reached
  refine ⟨fun type => packetAnswer_mppc valid type plain filled decoded,
    fun type => packetAnswer_rdp6 valid type plain filled decoded, fun _ stays keeps => ?_⟩
  exact packetAnswer_unflagged d (unflagged_of_clear plain stays keeps) filled decoded

theorem uncompressed_passes_flushed :
    packetAnswer decompressorInit 0x81 [0x61] [] = .ok (.ok, [0x61]) :=
  (@uncompressed_passes 0x81 [0x61] decompressorInit .init (by decide) (by decide) []).1 (.inr rfl)

/-- RDP6 has no history to move yet, and RDP6.1 takes two bytes of the payload for its header. -/
theorem uncompressed_not_passed :
    packetAnswer decompressorInit 0x42 [0x61] [] = .ok (.protocolError, []) ∧
      packetAnswer decompressorInit 0x83 [0x02, 0x00, 0x61] [] = .ok (.ok, [0x61]) := by
  constructor
  · rw [packetAnswer_rdp6 decompressorInit_valid (by decide) (by decide) (by decide)]
    rfl
  · rfl

end LibRdp.Bulk
