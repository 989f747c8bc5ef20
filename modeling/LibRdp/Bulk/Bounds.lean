import LibRdp.Bulk.Decompressor
import LibRdp.Bulk.Rdp6RoundTrip
import LibRdp.Bulk.Rdp61Decode

/-! # Bounds over whole runs of the bulk decompressor

Every state of a run keeps each algorithm's write offset inside its history,
and no call from such a state faults: all indices are inside their arrays, no
unsigned subtraction wraps and every loop ends.
-/

namespace LibRdp.Bulk

open Machine

structure Decompressor.Valid (d : Decompressor) : Prop where
  mppc8k : d.mppc8k.Valid
  level8k : d.mppc8k.level = .k8
  mppc64k : d.mppc64k.Valid
  level64k : d.mppc64k.level = .k64
  rdp6 : d.rdp6.Valid
  rdp61Level2 : d.rdp61Level2.Valid
  level2 : d.rdp61Level2.level = .k64
  rdp61 : d.rdp61.Valid

theorem decompressorInit_valid : decompressorInit.Valid where
  mppc8k := mppcStateInit_valid .k8
  level8k := rfl
  mppc64k := mppcStateInit_valid .k64
  level64k := rfl
  rdp6 := rdp6StateInit_valid
  rdp61Level2 := mppcStateInit_valid .k64
  level2 := rfl
  rdp61 := { allocated := fun _ stored => by cases stored
             bounded := Nat.zero_le _ }

variable {d : Decompressor}

theorem decompressorReset_valid (valid : d.Valid) :
    ∃ d', decompressorReset d = .ok d' ∧ d'.Valid := by
  obtain ⟨mppc8k, ran8k, valid8k, level8k⟩ := mppcStateReset_valid valid.mppc8k true
  obtain ⟨mppc64k, ran64k, valid64k, level64k⟩ := mppcStateReset_valid valid.mppc64k true
  obtain ⟨rdp6, ran6, valid6⟩ := rdp6StateReset_valid valid.rdp6 true
  obtain ⟨rdp61Level2, ran2, valid2, level2⟩ := mppcStateReset_valid valid.rdp61Level2 true
  obtain ⟨rdp61, ran61, valid61⟩ := rdp61StateReset_valid valid.rdp61 true
  refine ⟨⟨mppc8k, mppc64k, rdp6, rdp61Level2, rdp61⟩, ?_, ?_⟩
  · simp [decompressorReset, ran8k, ran64k, ran6, ran2, ran61]
  · exact ⟨valid8k, level8k.trans valid.level8k, valid64k, level64k.trans valid.level64k, valid6,
      valid2, level2.trans valid.level2, valid61⟩

theorem decompress_valid (valid : d.Valid) (flags : UInt8) (data decoded : Bytes) :
    ∃ status d' decoded', decompress d flags data decoded = .ok (status, d', decoded') ∧
      d'.Valid := by
  simp only [decompress]
  split
  · exact ⟨_, _, _, rfl, valid⟩
  split
  · exact ⟨_, _, _, rfl, valid⟩
  split
  · obtain ⟨status, mppc8k, decoded', ran, valid', level⟩ :=
      mppcDecompress_valid valid.mppc8k flags data decoded
    exact ⟨status, { d with mppc8k := mppc8k }, decoded', by simp [ran],
      { valid with mppc8k := valid', level8k := level.trans valid.level8k }⟩
  split
  · obtain ⟨status, mppc64k, decoded', ran, valid', level⟩ :=
      mppcDecompress_valid valid.mppc64k flags data decoded
    exact ⟨status, { d with mppc64k := mppc64k }, decoded', by simp [ran],
      { valid with mppc64k := valid', level64k := level.trans valid.level64k }⟩
  split
  · obtain ⟨status, core, decoded', ran, sized⟩ := rdp6Decode_valid valid.rdp6 flags data decoded
    exact ⟨status, { d with rdp6 := rdp6Ready core }, decoded', by simp [ran],
      { valid with rdp6 := sized.ready }⟩
  split
  · obtain ⟨status, rdp61, level2, decoded', ran, valid', valid2, level⟩ :=
      rdp61Decompress_keeps valid.rdp61 valid.rdp61Level2 data decoded
    exact ⟨status, { d with rdp61 := rdp61, rdp61Level2 := level2 }, decoded', by simp [ran],
      { valid with rdp61 := valid', rdp61Level2 := valid2, level2 := level.trans valid.level2 }⟩
  · exact ⟨_, _, _, rfl, valid⟩

theorem bulkStep_valid (valid : d.Valid) (call : BulkCall) :
    ∃ answer d', bulkStep d call = .ok (answer, d') ∧ d'.Valid := by
  cases call with
  | decompress flags data decoded =>
    obtain ⟨status, d', decoded', ran, valid'⟩ := decompress_valid valid flags data decoded
    exact ⟨(status, decoded'), d', by simp [bulkStep, ran], valid'⟩
  | reset =>
    obtain ⟨d', ran, valid'⟩ := decompressorReset_valid valid
    exact ⟨(.ok, []), d', by simp [bulkStep, ran], valid'⟩

theorem bulk_reachable_valid (reached : Reachable bulkStep decompressorInit d) : d.Valid := by
  refine reached.invariant Decompressor.Valid decompressorInit_valid ?_
  intro s call o s' valid taken
  obtain ⟨answer, s'', ran, valid'⟩ := bulkStep_valid valid call
  rw [ran] at taken
  cases taken
  exact valid'

/-- In every state of a run the write offsets are inside their histories, and no call faults. -/
theorem bulk_stays_in_bounds {d : Decompressor} (reached : Reachable bulkStep decompressorInit d) :
    (d.mppc8k.writeOffset ≤ d.mppc8k.historySize ∧ d.mppc64k.writeOffset ≤ d.mppc64k.historySize ∧
      d.rdp61Level2.writeOffset ≤ d.rdp61Level2.historySize ∧ d.rdp6.writeOffset ≤ 65535 ∧
      d.rdp61.writeOffset ≤ 2000000) ∧
    ∀ call, ∃ answer d', bulkStep d call = .ok (answer, d') := by
  have valid := bulk_reachable_valid reached
  refine ⟨⟨?_, ?_, ?_, valid.rdp6.sized.bounded, valid.rdp61.bounded⟩, ?_⟩
  · rw [valid.mppc8k.size]
    exact valid.mppc8k.bounded
  · rw [valid.mppc64k.size]
    exact valid.mppc64k.bounded
  · rw [valid.rdp61Level2.size]
    exact valid.rdp61Level2.bounded
  · intro call
    obtain ⟨answer, d', ran, -⟩ := bulkStep_valid valid call
    exact ⟨answer, d', ran⟩

theorem literals_taken : ∃ d,
    bulkStep decompressorInit (.decompress 0x20 [0x61, 0x62] []) = .ok ((.ok, [0x61, 0x62]), d) := by
  obtain ⟨answer, d, taken, -⟩ :=
    bulkStep_valid decompressorInit_valid (.decompress 0x20 [0x61, 0x62] [])
  have answered : answers bulkStep decompressorInit [.decompress 0x20 [0x61, 0x62] []] =
      .ok [(.ok, [0x61, 0x62])] := by
    rfl
  rw [answers_cons_ok taken] at answered
  cases answered
  exact ⟨d, taken⟩

/-- After two literals a match is asked for. -/
theorem bulk_stays_in_bounds_literals : ∃ d,
    bulkStep decompressorInit (.decompress 0x20 [0x61, 0x62] []) = .ok ((.ok, [0x61, 0x62]), d) ∧
      d.mppc8k.writeOffset ≤ d.mppc8k.historySize ∧
      ∃ answer d', bulkStep d (.decompress 0x20 [0xf0, 0x00] []) = .ok (answer, d') := by
  obtain ⟨d, taken⟩ := literals_taken
  obtain ⟨⟨offset, -⟩, total⟩ := bulk_stays_in_bounds (.step .init taken)
  exact ⟨d, taken, offset, total _⟩

end LibRdp.Bulk
