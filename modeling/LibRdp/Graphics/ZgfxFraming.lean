import LibRdp.Graphics.ZgfxHistory

/-! # The framing of uncompressed segments

What `rdp_graphics_write_segmented_uncompressed` writes is read back by
`rdp_graphics_decode_segmented_data` in every state: segments of at most 65535
bytes, as many as the header announces, with nothing left over.
-/

namespace LibRdp.Graphics

open Machine Coding Lz77

section Segments

variable {d : Decompressor} {stream decoded : Bytes}

theorem outputLoop_done {out : Output} (carried : Carried out.decompressor stream) (data : Bytes)
    (segment : out.segmentOutput + data.length ≤ 65535)
    (room : out.decoded.length + data.length ≤ bulkMaxDecoded) :
    ∃ d, outputLoop data out =
      .ok (.ok, ⟨d, out.decoded ++ data, out.segmentOutput + data.length⟩) ∧
      Carried d (stream ++ data) := by
  induction data generalizing out stream with
  | nil =>
    refine ⟨out.decompressor, ?_, by rw [List.append_nil]; exact carried⟩
    simp [outputLoop]
  | cons value data ih =>
    rw [List.length_cons] at segment room
    obtain ⟨d, ran, carried', -, -⟩ := outputByte_room carried (by omega) (by omega) value
    have next : Carried (Output.mk d (out.decoded ++ [value]) (out.segmentOutput + 1)).decompressor
      (stream ++ [value]) := carried'
    obtain ⟨d', ran', carried''⟩ := ih next (by simp only; omega)
      (by simp only [List.length_append, List.length_cons, List.length_nil]; omega)
    refine ⟨d', ?_, ?_⟩
    · simp only [outputLoop, ran, ok_bind, if_pos, ran', List.length_cons]
      simp [Nat.add_comm, Nat.add_left_comm]
    · simpa using carried''

theorem appendBulkData_plain (carried : Carried d stream) {payload : Bytes}
    (segment : payload.length ≤ bulkSegmentMax)
    (room : decoded.length + payload.length ≤ bulkMaxDecoded) :
    ∃ d', appendBulkData d (bulkCompressionType :: payload) decoded =
      .ok (.ok, d', decoded ++ payload) ∧ Carried d' (stream ++ payload) := by
  have start : Carried (Output.mk d decoded 0).decompressor stream := carried
  obtain ⟨d', ran, carried'⟩ := outputLoop_done start payload (by simp only; exact Nat.zero_add _ ▸ segment)
    room
  refine ⟨d', ?_, carried'⟩
  simp only [appendBulkData]
  rw [if_neg (by decide), if_neg (by decide), if_neg (by omega),
    checkedSub_of_le (show decoded.length ≤ bulkMaxDecoded by omega), ok_bind,
    if_neg (show ¬ (payload.length > bulkMaxDecoded - decoded.length ∨
      payload.length > bulkSegmentMax) by omega), ran]
  rfl

theorem segmentLoop_segment {d' : Decompressor} {payload rest : Bytes} (count : Nat)
    (segment : payload.length ≤ bulkSegmentMax)
    (ran : appendBulkData d (bulkCompressionType :: payload) decoded =
      .ok (.ok, d', decoded ++ payload)) :
    segmentLoop (count + 1) (u32LeBytes (payload.length + 1) ++ [bulkCompressionType] ++ payload ++
      rest) d decoded = segmentLoop count rest d' (decoded ++ payload) := by
  have size : u32Le (UInt8.ofNat (payload.length + 1)) (UInt8.ofNat ((payload.length + 1) / 256))
      (UInt8.ofNat ((payload.length + 1) / 65536)) (UInt8.ofNat ((payload.length + 1) / 16777216)) =
        payload.length + 1 := by
    rw [bulkSegmentMax] at segment
    exact u32Le_bytes (by omega)
  have there : ¬ (bulkCompressionType :: (payload ++ rest)).length < payload.length + 1 := by
    rw [List.length_cons, List.length_append]
    omega
  simp only [u32LeBytes, List.cons_append, List.nil_append, segmentLoop, size, if_neg there,
    List.take_succ_cons, List.drop_succ_cons, List.take_left, List.drop_left, ran, ok_bind, if_pos]

theorem segmentLoop_writeSegments (fuel : Nat) (carried : Carried d stream) {bytes : Bytes}
    (enough : bytes.length ≤ fuel) (room : decoded.length + bytes.length ≤ bulkMaxDecoded) :
    ∃ d', segmentLoop ((bytes.length + bulkSegmentMax - 1) / bulkSegmentMax)
        (writeSegments fuel bytes) d decoded = .ok (.ok, [], d', decoded ++ bytes) ∧
      Carried d' (stream ++ bytes) := by
  induction fuel generalizing d stream decoded bytes with
  | zero =>
    obtain rfl : bytes = [] := List.eq_nil_of_length_eq_zero (by omega)
    exact ⟨d, by simp [segmentLoop, writeSegments, bulkSegmentMax], by simpa using carried⟩
  | succ fuel ih =>
    by_cases none_ : bytes = []
    · subst none_
      exact ⟨d, by simp [segmentLoop, writeSegments, bulkSegmentMax], by simpa using carried⟩
    have some_ : 0 < bytes.length := List.length_pos_iff.mpr none_
    have limit : bulkSegmentMax = 65535 := rfl
    have total : bulkMaxDecoded = 67108864 := rfl
    obtain ⟨chunk, chosen⟩ : ∃ chunk, chunk = min bytes.length bulkSegmentMax := ⟨_, rfl⟩
    have count : (bytes.length + bulkSegmentMax - 1) / bulkSegmentMax =
        ((bytes.drop chunk).length + bulkSegmentMax - 1) / bulkSegmentMax + 1 := by
      rw [List.length_drop, limit]
      omega
    have front : (bytes.take chunk).length = chunk := by
      rw [List.length_take]
      omega
    obtain ⟨d', ran, carried'⟩ := @appendBulkData_plain d stream decoded carried (bytes.take chunk)
      (by omega) (by omega)
    obtain ⟨d'', ran', carried''⟩ := @ih d' (stream ++ bytes.take chunk)
      (decoded ++ bytes.take chunk) carried' (bytes.drop chunk)
      (by rw [List.length_drop]; omega)
      (by rw [List.length_append, List.length_drop]; omega)
    refine ⟨d'', ?_, ?_⟩
    · have written : writeSegments (fuel + 1) bytes = u32LeBytes ((bytes.take chunk).length + 1) ++
          [bulkCompressionType] ++ bytes.take chunk ++ writeSegments fuel (bytes.drop chunk) := by
        simp only [writeSegments, if_neg none_, ← chosen, front]
      rw [count, written, segmentLoop_segment _ (by omega) ran, ran', List.append_assoc,
        List.take_append_drop]
    · rw [List.append_assoc, List.take_append_drop] at carried''
      exact carried''

end Segments

/-- Everything the writer accepts is decoded to itself, in every state of a run. -/
theorem decode_writeSegmentedUncompressed {d : Decompressor}
    (reached : Reachable graphicsStep decompressorInit d) {data : Bytes}
    (small : data.length ≤ bulkMaxDecoded) (buffer : Bytes) :
    ∃ encoded, writeSegmentedUncompressed buffer data = (.ok, buffer ++ encoded) ∧
      ∃ d', decodeSegmentedData d encoded [] = .ok (.ok, d', data) := by
  obtain ⟨stream, carried⟩ := graphics_reachable_carried reached
  have total : bulkMaxDecoded = 67108864 := rfl
  have limit : bulkSegmentMax = 65535 := rfl
  have room : ([] : Bytes).length + data.length ≤ bulkMaxDecoded := by simpa using small
  by_cases single : data.length ≤ bulkSegmentMax
  · refine ⟨[segmentSingle, bulkCompressionType] ++ data, ?_, ?_⟩
    · rw [writeSegmentedUncompressed, if_neg (by omega), if_pos single]
    · obtain ⟨d', ran, -⟩ := appendBulkData_plain carried single room
      refine ⟨d', ?_⟩
      simp only [List.cons_append, List.nil_append, decodeSegmentedData, decodeSegments, if_pos, ran,
        ok_bind, pure_eq_ok]
  obtain ⟨count, announced⟩ :
      ∃ count, count = (data.length + bulkSegmentMax - 1) / bulkSegmentMax := ⟨_, rfl⟩
  have few : count ≤ 65535 ∧ count ≠ 0 := by
    rw [announced, limit]
    omega
  refine ⟨[segmentMultipart] ++ u16LeBytes count ++ u32LeBytes data.length ++
    writeSegments data.length data, ?_, ?_⟩
  · simp only [writeSegmentedUncompressed, ← announced]
    rw [if_neg (by omega), if_neg single, if_neg (by omega)]
  · obtain ⟨d', ran, -⟩ := segmentLoop_writeSegments data.length carried (Nat.le_refl _) room
    refine ⟨d', ?_⟩
    rw [← announced] at ran
    have counted := u16Le_bytes (show count < 65536 by omega)
    have sized := u32Le_bytes (show data.length < 4294967296 by omega)
    have other : ¬ segmentMultipart = segmentSingle := by decide
    have multipart : decodeMultipart d (u16LeBytes count ++ u32LeBytes data.length ++
        writeSegments data.length data) [] = .ok (.ok, d', data) := by
      simp only [u16LeBytes, u32LeBytes, List.cons_append, List.nil_append, decodeMultipart,
        counted, sized, ran, ok_bind]
      rw [if_neg (by omega)]
      simp [checkedSub]
    simp only [u16LeBytes, u32LeBytes, List.cons_append, List.nil_append] at multipart ⊢
    simp only [decodeSegmentedData, decodeSegments, if_neg other, if_pos, multipart, ok_bind,
      pure_eq_ok]

/-- One byte too many for a single segment. -/
theorem decode_writeSegmentedUncompressed_two :
    ∃ encoded, writeSegmentedUncompressed [] (List.replicate 65536 0x2a) = (.ok, [] ++ encoded) ∧
      ∃ d', decodeSegmentedData decompressorInit encoded [] =
        .ok (.ok, d', List.replicate 65536 0x2a) :=
  decode_writeSegmentedUncompressed .init (by rw [List.length_replicate]; decide) []

end LibRdp.Graphics
