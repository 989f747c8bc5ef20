import LibRdp.Graphics.Zgfx
import LibRdp.Coding.Lz77
import LibRdp.Machine.Run

/-! # The ring history over whole runs

`Carried` ties a decompressor to the stream it has put out since it was new or
reset: the ring holds the newest bytes of the stream and counts them. Every
function appends the same bytes to the output and to the stream, without a
fault; a message that is refused leaves the decompressor as it was.
-/

namespace LibRdp.Graphics

open Machine Coding Lz77

structure Carried (d : Decompressor) (stream : Bytes) : Prop where
  index : d.historyIndex < bulkHistorySize
  filled : d.historyFilled = min stream.length bulkHistorySize
  unallocated : d.history = none → d.historyIndex = 0 ∧ stream = []
  allocated : ∀ history, d.history = some history → history.size = bulkHistorySize ∧
    Holds bulkHistorySize history.cell d.historyIndex d.historyFilled stream

theorem decompressorInit_carried : Carried decompressorInit [] where
  index := by decide
  filled := rfl
  unallocated _ := ⟨rfl, rfl⟩
  allocated history stored := by cases stored

theorem decompressorReset_carried {d : Decompressor} {stream : Bytes} (carried : Carried d stream) :
    Carried (decompressorReset d) [] where
  index := Nat.lt_of_le_of_lt (Nat.zero_le _) carried.index
  filled := rfl
  unallocated _ := ⟨rfl, rfl⟩
  allocated history stored := by
    refine ⟨(carried.allocated history stored).1, ?_⟩
    intro distance low high
    simp only [decompressorReset] at high
    omega

section Output

variable {stream : Bytes} {out : Output}

theorem Carried.ensure {d : Decompressor} (carried : Carried d stream) :
    (decompressorEnsure d).size = bulkHistorySize ∧
      Holds bulkHistorySize (decompressorEnsure d).cell d.historyIndex d.historyFilled stream := by
  cases stored : d.history with
  | some history =>
    rw [decompressorEnsure, stored]
    exact carried.allocated history stored
  | none =>
    obtain ⟨-, empty⟩ := carried.unallocated stored
    have filled := carried.filled
    rw [empty] at filled
    rw [decompressorEnsure, stored]
    refine ⟨rfl, ?_⟩
    intro distance low high
    simp only [List.length_nil, Nat.zero_min] at filled
    omega

theorem outputByte_full (full : out.segmentOutput ≥ 65535 ∨ out.decoded.length ≥ bulkMaxDecoded)
    (value : UInt8) : outputByte out value = .ok (.protocolError, out) := if_pos full

theorem outputByte_room (carried : Carried out.decompressor stream)
    (segment : out.segmentOutput < 65535) (room : out.decoded.length < bulkMaxDecoded)
    (value : UInt8) :
    ∃ d, outputByte out value = .ok (.ok, ⟨d, out.decoded ++ [value], out.segmentOutput + 1⟩) ∧
      Carried d (stream ++ [value]) ∧ d.historyIndex = next bulkHistorySize out.decompressor.historyIndex ∧
      d.history ≠ none := by
  obtain ⟨size, held⟩ := carried.ensure
  have index := carried.index
  have filled := carried.filled
  have inside : out.decompressor.historyIndex < (decompressorEnsure out.decompressor).size := by
    omega
  have counted : (if out.decompressor.historyFilled < bulkHistorySize then
      out.decompressor.historyFilled + 1 else out.decompressor.historyFilled) =
        min (stream.length + 1) bulkHistorySize := by
    split <;> omega
  refine ⟨⟨some ((decompressorEnsure out.decompressor).put out.decompressor.historyIndex value),
    next bulkHistorySize out.decompressor.historyIndex, min (stream.length + 1) bulkHistorySize⟩,
    ?_, ⟨?_, ?_, ?_, ?_⟩, rfl, ?_⟩
  · simp only [outputByte, if_neg (show ¬ (out.segmentOutput ≥ 65535 ∨
      out.decoded.length ≥ bulkMaxDecoded) by omega), Memory.store_of_lt inside, ok_bind, counted,
      pure_eq_ok]
    rfl
  · simp only [next]
    split <;> omega
  · simp only [List.length_append, List.length_cons, List.length_nil]
  · intro unallocated
    cases unallocated
  · intro history stored
    cases stored
    refine ⟨size, ?_⟩
    rw [Memory.put_cell _ _ inside]
    refine held.push (by omega) value (follows_next _ _) ?_ ?_
    · simp only
      omega
    · simp only
      omega
  · intro unallocated
    cases unallocated

end Output

def Grown (decoded stream : Bytes) (out : Output) : Prop :=
  ∃ bytes, out.decoded = decoded ++ bytes ∧ Carried out.decompressor (stream ++ bytes)

/-- The function returns, without a fault, and lets the output and the stream grow alike. -/
def Keeps (decoded stream : Bytes) (result : Exec (Status × Output)) : Prop :=
  ∃ status out, result = .ok (status, out) ∧ Grown decoded stream out

section Keeps

variable {decoded stream : Bytes} {out : Output}

variable (grown : Grown decoded stream out)
include grown

theorem outputByte_keeps (value : UInt8) :
    ∃ status out', outputByte out value = .ok (status, out') ∧ Grown decoded stream out' ∧
      (status = .ok → out'.decompressor.history ≠ none) := by
  obtain ⟨bytes, same, carried⟩ := grown
  by_cases full : out.segmentOutput ≥ 65535 ∨ out.decoded.length ≥ bulkMaxDecoded
  · exact ⟨_, _, outputByte_full full value, ⟨bytes, same, carried⟩, fun h => by cases h⟩
  obtain ⟨d, ran, carried', -, stored⟩ := outputByte_room carried (by omega) (by omega) value
  refine ⟨_, _, ran, ⟨bytes ++ [value], ?_, ?_⟩, fun _ => stored⟩
  · simp [same]
  · rw [← List.append_assoc]
    exact carried'

theorem matchLoop_keeps (count : Nat) {source : Nat} (inside : source < bulkHistorySize)
    (stored : out.decompressor.history ≠ none) :
    Keeps decoded stream (matchLoop count source out) := by
  induction count generalizing out source with
  | zero => exact ⟨_, _, rfl, grown⟩
  | succ count ih =>
    cases here : out.decompressor.history with
    | none => exact absurd here stored
    | some history =>
      obtain ⟨bytes, same, carried⟩ := grown
      have size := (carried.allocated history here).1
      have loaded := Memory.load_of_lt (show source < history.size by omega)
      obtain ⟨status, out', ran, grown', stored'⟩ :=
        outputByte_keeps ⟨bytes, same, carried⟩ (history.cell source)
      by_cases done : status = .ok
      · have further : (if source + 1 = bulkHistorySize then 0 else source + 1) <
            bulkHistorySize := by
          split <;> omega
        simpa [matchLoop, here, loaded, ran, done] using ih grown' further (stored' done)
      · exact ⟨.protocolError, out', by simp [matchLoop, here, loaded, ran, done], grown'⟩

theorem copyMatch_keeps (distance count : Nat) :
    Keeps decoded stream (copyMatch out distance count) := by
  by_cases guard : out.decompressor.history.isNone ∨ distance = 0 ∨
      distance > out.decompressor.historyFilled ∨ distance > bulkHistorySize
  · exact ⟨.protocolError, out, by simp only [copyMatch]; rw [if_pos guard], grown⟩
  · have stored : out.decompressor.history ≠ none := by
      intro none_
      exact guard (.inl (by rw [none_]; rfl))
    obtain ⟨bytes, same, carried⟩ := grown
    have index := carried.index
    simp only [copyMatch]
    rw [if_neg guard]
    by_cases near : out.decompressor.historyIndex ≥ distance
    · rw [if_pos near, checkedSub_of_le near, ok_bind]
      exact matchLoop_keeps ⟨bytes, same, carried⟩ count (by omega) stored
    · rw [if_neg near, checkedSub_of_le (by omega), ok_bind, checkedSub_of_le (by omega), ok_bind]
      exact matchLoop_keeps ⟨bytes, same, carried⟩ count (by omega) stored

theorem outputLoop_keeps (data : Bytes) : Keeps decoded stream (outputLoop data out) := by
  induction data generalizing out with
  | nil => exact ⟨_, _, rfl, grown⟩
  | cons value data ih =>
    obtain ⟨status, out', ran, grown', -⟩ := outputByte_keeps grown value
    by_cases done : status = .ok
    · simpa [outputLoop, ran, done] using ih grown'
    · exact ⟨.protocolError, out', by simp [outputLoop, ran, done], grown'⟩

end Keeps

/-! ## The reader moves on

The bits that the bytes still hold, the unused ones of the last byte among them.
-/

def BitReader.left (reader : BitReader) : Nat := reader.cacheBits + 8 * reader.current.length

section Left

variable {reader reader' : BitReader}

variable {count v : Nat} {token : GraphicsToken}

theorem fillCache_left (small : count ≤ 24) {current current' : Bytes}
    {cache cache' cacheBits cacheBits' : Nat}
    (ran : fillCache count current cache cacheBits = some (current', cache', cacheBits')) :
    count ≤ cacheBits' ∧ cacheBits' + 8 * current'.length = cacheBits + 8 * current.length := by
  induction current generalizing cache cacheBits with
  | nil =>
    simp only [fillCache] at ran
    split at ran
    · cases ran
    · cases ran
      exact ⟨by omega, rfl⟩
  | cons b current ih =>
    simp only [fillCache] at ran
    split at ran
    · obtain ⟨enough, same⟩ := ih ran
      rw [List.length_cons]
      omega
    · cases ran
      exact ⟨by omega, rfl⟩

theorem readBits_left (ran : readBits reader count = some (v, reader')) :
    reader'.left + count = reader.left := by
  simp only [readBits] at ran
  split at ran
  · cases ran
  next guard =>
    rw [Option.bind_eq_bind, Option.bind_eq_some_iff] at ran
    obtain ⟨⟨current, cache, cacheBits⟩, filled, rest⟩ := ran
    obtain ⟨enough, same⟩ := fillCache_left (by omega) filled
    cases rest
    simp only [BitReader.left]
    omega

theorem readPrefix_left {code code' : Nat}
    (ran : readPrefix count code reader = some (code', reader')) :
    reader'.left + count = reader.left := by
  induction count generalizing code reader with
  | zero =>
    cases ran
    rfl
  | succ count ih =>
    rw [readPrefix, Option.bind_eq_bind, Option.bind_eq_some_iff] at ran
    obtain ⟨⟨bit, reader₁⟩, read, rest⟩ := ran
    have first := readBits_left read
    have later := ih rest
    omega

theorem findToken_left {tokens : List GraphicsToken} {code codeBits : Nat}
    (ran : findToken tokens code codeBits reader = some (token, reader')) :
    reader'.left + ((tokens.head?.map GraphicsToken.prefixLength).getD 0 - codeBits) ≤
      reader.left := by
  induction tokens generalizing code codeBits reader with
  | nil => cases ran
  | cons t tokens ih =>
    rw [findToken, Option.bind_eq_bind, Option.bind_eq_some_iff] at ran
    obtain ⟨⟨code', reader₁⟩, read, rest⟩ := ran
    have first := readPrefix_left read
    simp only [List.head?_cons, Option.map_some, Option.getD_some]
    simp only at rest
    split at rest
    · cases rest
      omega
    · have later := ih rest
      omega

theorem readsOn_left {next : Nat × BitReader → Option (Nat × BitReader)}
    (ran : readBits reader count >>= next = some (v, reader'))
    (after : ∀ value reader₁, next (value, reader₁) = some (v, reader') → reader'.left ≤ reader₁.left) :
    reader'.left ≤ reader.left := by
  rw [Option.bind_eq_bind, Option.bind_eq_some_iff] at ran
  obtain ⟨⟨value, reader₁⟩, read, rest⟩ := ran
  have first := readBits_left read
  have later := after value reader₁ rest
  omega

theorem readValue_left (ran : readValue token reader = some (v, reader')) :
    reader'.left ≤ reader.left := by
  unfold readValue at ran
  split at ran
  · refine readsOn_left ran fun value reader₁ rest => ?_
    cases rest
    exact Nat.le_refl _
  · cases ran
    exact Nat.le_refl _

theorem lengthLoop_left {left extra : Nat}
    (ran : lengthLoop left count extra reader = some (v, reader')) :
    reader'.left ≤ reader.left := by
  induction left generalizing count extra reader with
  | zero =>
    refine readsOn_left ran fun bit reader₁ rest => ?_
    split at rest
    · refine readsOn_left rest fun value reader₂ rest => ?_
      cases rest
      exact Nat.le_refl _
    · cases rest
  | succ left ih =>
    refine readsOn_left ran fun bit reader₁ rest => ?_
    split at rest
    · refine readsOn_left rest fun value reader₂ rest => ?_
      cases rest
      exact Nat.le_refl _
    · exact ih rest

theorem readLength_left (ran : readLength reader = some (v, reader')) :
    reader'.left ≤ reader.left := by
  refine readsOn_left ran fun bit reader₁ rest => ?_
  simp only at rest
  split at rest
  · cases rest
    exact Nat.le_refl _
  · exact lengthLoop_left rest

end Left

/-- As `Keeps`, for the functions that also read: the reader never moves back. -/
def KeepsReading (decoded stream : Bytes) (reader : BitReader)
    (result : Exec (Status × Output × BitReader)) : Prop :=
  ∃ status out reader', result = .ok (status, out, reader') ∧ Grown decoded stream out ∧
    reader'.left ≤ reader.left

section Segments

variable {decoded stream : Bytes} {out : Output} {reader reader₁ : BitReader}

theorem KeepsReading.of_left {result : Exec (Status × Output × BitReader)}
    (keeps : KeepsReading decoded stream reader₁ result) (less : reader₁.left ≤ reader.left) :
    KeepsReading decoded stream reader result := by
  obtain ⟨status, out, reader', ran, grown, further⟩ := keeps
  exact ⟨status, out, reader', ran, grown, Nat.le_trans further less⟩

theorem Keeps.reading {result : Exec (Status × Output)} (keeps : Keeps decoded stream result)
    (reader : BitReader) : KeepsReading decoded stream reader
      (result >>= fun x => pure (x.1, x.2, reader)) := by
  obtain ⟨status, out, rfl, grown⟩ := keeps
  exact ⟨status, out, reader, rfl, grown, Nat.le_refl _⟩

variable (grown : Grown decoded stream out)
include grown

theorem unencodedLoop_keeps {count : Nat} (bytes : count ≤ reader.current.length)
    (bits : 8 * count ≤ reader.bitsRemaining) :
    KeepsReading decoded stream reader (unencodedLoop count out reader) := by
  induction count generalizing out reader with
  | zero => exact ⟨_, _, _, rfl, grown, Nat.le_refl _⟩
  | succ count ih =>
    obtain ⟨current, bitsRemaining, cache, cacheBits⟩ := reader
    cases current with
    | nil => simp at bytes
    | cons value current =>
      simp only [List.length_cons] at bytes bits
      obtain ⟨status, out', ran, grown', -⟩ := outputByte_keeps grown value
      by_cases done : status = .ok
      · have later := @ih out' ⟨current, bitsRemaining - 8, cache, cacheBits⟩ grown'
          (by simp only; omega) (by simp only; omega)
        have less : BitReader.left ⟨current, bitsRemaining - 8, cache, cacheBits⟩ ≤
            BitReader.left ⟨value :: current, bitsRemaining, cache, cacheBits⟩ := by
          simp only [BitReader.left, List.length_cons]
          omega
        simpa [unencodedLoop, ran, done, checkedSub_of_le (show 8 ≤ bitsRemaining by omega)]
          using later.of_left less
      · exact ⟨.protocolError, out', _, by simp only [unencodedLoop, ran, ok_bind, done]; rfl,
          grown', Nat.le_refl _⟩

theorem copyUnencoded_keeps (count : Nat) :
    KeepsReading decoded stream reader (copyUnencoded out reader count) := by
  have less : ∀ bits, BitReader.left ⟨reader.current, bits, 0, 0⟩ ≤ reader.left := by
    intro bits
    simp only [BitReader.left]
    omega
  simp only [copyUnencoded]
  split
  · exact ⟨_, _, _, rfl, grown, Nat.le_refl _⟩
  split
  · exact ⟨_, _, _, rfl, grown, less _⟩
  · exact (unencodedLoop_keeps grown (by simp only; omega) (by simp only; omega)).of_left (less _)

theorem runToken_keeps (token : GraphicsToken) (value : Nat) (reader : BitReader) :
    KeepsReading decoded stream reader (runToken token value out reader) := by
  simp only [runToken]
  split
  · split
    · exact ⟨_, _, _, rfl, grown, Nat.le_refl _⟩
    · obtain ⟨status, out', ran, grown', -⟩ := outputByte_keeps grown (UInt8.ofNat value)
      exact Keeps.reading ⟨status, out', ran, grown'⟩ reader
  split
  · split
    · exact ⟨_, _, _, rfl, grown, Nat.le_refl _⟩
    · next read =>
        have less := readBits_left read
        exact (copyUnencoded_keeps grown _).of_left (by omega)
  split
  · exact ⟨_, _, _, rfl, grown, Nat.le_refl _⟩
  · next read =>
      exact ((copyMatch_keeps grown _ _).reading _).of_left (readLength_left read)

theorem decodeToken_keeps (reader : BitReader) :
    ∃ status out' reader', decodeToken out reader = .ok (status, out', reader') ∧
      Grown decoded stream out' ∧ (status = .ok → reader'.left < reader.left) := by
  cases found : findToken graphicsTokens 0 0 reader with
  | none =>
    exact ⟨.protocolError, out, reader, by simp only [decodeToken, found], grown,
      fun h => by cases h⟩
  | some result =>
    obtain ⟨token, reader₁⟩ := result
    have first := findToken_left found
    have oneBit : (graphicsTokens.head?.map GraphicsToken.prefixLength).getD 0 = 1 := rfl
    rw [oneBit] at first
    cases read : readValue token reader₁ with
    | none =>
      exact ⟨.protocolError, out, reader₁, by simp only [decodeToken, found, read], grown,
        fun h => by cases h⟩
    | some result =>
      obtain ⟨value, reader₂⟩ := result
      have second := readValue_left read
      obtain ⟨status, out', reader', ran, grown', third⟩ :=
        runToken_keeps grown token value reader₂
      refine ⟨status, out', reader', ?_, grown', fun _ => by omega⟩
      simp only [decodeToken, found, read, ran]

theorem decodeLoop_keeps {fuel : Nat} (enough : reader.left < fuel) :
    Keeps decoded stream (decodeLoop fuel out reader) := by
  induction fuel generalizing out reader with
  | zero => omega
  | succ fuel ih =>
    simp only [decodeLoop]
    split
    · obtain ⟨status, out', reader', ran, grown', less⟩ := decodeToken_keeps grown reader
      by_cases done : status = .ok
      · have shorter := less done
        simpa [ran, done] using ih grown' (show reader'.left < fuel by omega)
      · exact ⟨.protocolError, out', by simp [ran, done], grown'⟩
    · exact ⟨_, _, rfl, grown⟩

end Segments

/-- As `Keeps`, for the functions that return the decompressor and the buffer. -/
def KeepsMessage (decoded stream : Bytes) (result : Exec (Status × Decompressor × Bytes)) : Prop :=
  ∃ status d bytes, result = .ok (status, d, decoded ++ bytes) ∧ Carried d (stream ++ bytes)

section Messages

variable {d : Decompressor} {stream decoded : Bytes}

variable (carried : Carried d stream)
include carried

theorem Carried.unchanged (decoded : Bytes) (status : Status) :
    KeepsMessage decoded stream (.ok (status, d, decoded)) :=
  ⟨status, d, [], by rw [List.append_nil], by rw [List.append_nil]; exact carried⟩

theorem Carried.grown (decoded : Bytes) (segmentOutput : Nat) :
    Grown decoded stream ⟨d, decoded, segmentOutput⟩ :=
  ⟨[], by rw [List.append_nil], by rw [List.append_nil]; exact carried⟩

omit carried in
theorem Keeps.message {result : Exec (Status × Output)} (keeps : Keeps decoded stream result) :
    KeepsMessage decoded stream
      (result >>= fun x => pure (x.1, x.2.decompressor, x.2.decoded)) := by
  obtain ⟨status, out, rfl, bytes, same, carried⟩ := keeps
  exact ⟨status, out.decompressor, bytes, by simp [same], carried⟩

theorem decodeCompressedSegment_keeps (data decoded : Bytes) :
    KeepsMessage decoded stream (decodeCompressedSegment d data decoded) := by
  cases init : bitReaderInit data with
  | none =>
    simp only [decodeCompressedSegment, init]
    exact carried.unchanged decoded .protocolError
  | some reader =>
    have enough : reader.left < 8 * data.length + 1 := by
      simp only [bitReaderInit] at init
      split at init
      · cases init
      split at init
      · cases init
      cases init
      simp only [BitReader.left, List.length_dropLast]
      omega
    simp only [decodeCompressedSegment, init]
    exact (decodeLoop_keeps (carried.grown decoded 0) enough).message

theorem appendBulkData_keeps (data decoded : Bytes) :
    KeepsMessage decoded stream (appendBulkData d data decoded) := by
  cases data with
  | nil => exact carried.unchanged decoded .protocolError
  | cons bulkHeader payload =>
    simp only [appendBulkData]
    split
    · exact carried.unchanged decoded .protocolError
    split
    · exact decodeCompressedSegment_keeps carried payload decoded
    split
    · exact carried.unchanged decoded .protocolError
    next small =>
      rw [checkedSub_of_le (Nat.le_of_not_lt small), ok_bind]
      split
      · exact carried.unchanged decoded .protocolError
      · exact (outputLoop_keeps (carried.grown decoded 0) payload).message

omit carried in
theorem segmentLoop_keeps (count : Nat) (carried : Carried d stream) (data decoded : Bytes) :
    ∃ status left d' bytes, segmentLoop count data d decoded =
      .ok (status, left, d', decoded ++ bytes) ∧ Carried d' (stream ++ bytes) := by
  have unchanged : ∀ (status : Status) (left : Bytes), ∃ status' left' d' bytes,
      (.ok (status, left, d, decoded) : Exec (Status × Bytes × Decompressor × Bytes)) =
        .ok (status', left', d', decoded ++ bytes) ∧ Carried d' (stream ++ bytes) := by
    intro status left
    exact ⟨status, left, d, [], by rw [List.append_nil], by rw [List.append_nil]; exact carried⟩
  induction count generalizing d stream data decoded with
  | zero => exact unchanged .ok data
  | succ count ih =>
    obtain _ | ⟨b0, _ | ⟨b1, _ | ⟨b2, _ | ⟨b3, rest⟩⟩⟩⟩ := data
    · exact unchanged _ _
    · exact unchanged _ _
    · exact unchanged _ _
    · exact unchanged _ _
    · simp only [segmentLoop]
      split
      · exact unchanged _ _
      obtain ⟨status, d', bytes, ran, carried'⟩ :=
        appendBulkData_keeps carried (rest.take (u32Le b0 b1 b2 b3)) decoded
      rw [ran]
      by_cases done : status = .ok
      · obtain ⟨status', left, d'', more, ran', carried''⟩ :=
          ih carried' (rest.drop (u32Le b0 b1 b2 b3)) (decoded ++ bytes)
            (fun status left => ⟨status, left, d', [], by rw [List.append_nil],
              by rw [List.append_nil]; exact carried'⟩)
        refine ⟨status', left, d'', bytes ++ more, ?_, ?_⟩
        · simp [done, ran']
        · rw [← List.append_assoc]
          exact carried''
      · exact ⟨status, _, d', bytes, by simp [done]; rfl, carried'⟩

theorem decodeMultipart_keeps (data decoded : Bytes) :
    KeepsMessage decoded stream (decodeMultipart d data decoded) := by
  simp only [decodeMultipart]
  split
  · next c0 c1 s0 s1 s2 s3 rest =>
      split
      · exact carried.unchanged decoded .protocolError
      obtain ⟨status, left, d', bytes, ran, carried'⟩ :=
        segmentLoop_keeps (u16Le c0 c1) carried rest decoded
      rw [ran, ok_bind]
      by_cases done : status = .ok
      · simp only [done, if_true]
        rw [checkedSub_of_le (by simp), ok_bind]
        split
        · exact ⟨_, d', bytes, rfl, carried'⟩
        · exact ⟨_, d', bytes, rfl, carried'⟩
      · exact ⟨status, d', bytes, by simp [done], carried'⟩
  · exact carried.unchanged decoded .protocolError

theorem decodeSegments_keeps (descriptor : UInt8) (data decoded : Bytes) :
    KeepsMessage decoded stream (decodeSegments d descriptor data decoded) := by
  simp only [decodeSegments]
  split
  · exact appendBulkData_keeps carried data decoded
  split
  · exact decodeMultipart_keeps carried data decoded
  · exact carried.unchanged decoded .protocolError

theorem snapshotRestore_capture : snapshotRestore (snapshotCapture d) = d := by
  obtain ⟨history, historyIndex, historyFilled⟩ := d
  cases history with
  | some history => rfl
  | none =>
    obtain ⟨index, empty⟩ := carried.unallocated rfl
    have filled := carried.filled
    simp only [empty, List.length_nil, Nat.zero_min] at index filled
    rw [index, filled]
    rfl

theorem decodeSegmentedData_cases (data decoded : Bytes) :
    (∃ d' bytes, decodeSegmentedData d data decoded = .ok (.ok, d', decoded ++ bytes) ∧
      Carried d' (stream ++ bytes)) ∨
    ∃ status, status ≠ .ok ∧ decodeSegmentedData d data decoded = .ok (status, d, decoded) := by
  obtain _ | ⟨descriptor, _ | ⟨b, rest⟩⟩ := data
  · exact .inr ⟨.protocolError, by decide, rfl⟩
  · exact .inr ⟨.protocolError, by decide, rfl⟩
  · obtain ⟨status, d', bytes, ran, carried'⟩ :=
      decodeSegments_keeps carried descriptor (b :: rest) decoded
    by_cases done : status = .ok
    · exact .inl ⟨d', bytes, by simp [decodeSegmentedData, ran, done], carried'⟩
    · refine .inr ⟨status, done, ?_⟩
      simp [decodeSegmentedData, ran, done, snapshotRestore_capture carried]

end Messages

section Runs

variable {d : Decompressor}

theorem graphics_reachable_carried (reached : Reachable graphicsStep decompressorInit d) :
    ∃ stream, Carried d stream := by
  refine reached.invariant (fun d => ∃ stream, Carried d stream) ⟨[], decompressorInit_carried⟩ ?_
  rintro s call o s' ⟨stream, carried⟩ taken
  cases call with
  | reset =>
    cases taken
    exact ⟨[], decompressorReset_carried carried⟩
  | decode data decoded =>
    rcases decodeSegmentedData_cases carried data decoded with
      ⟨d', bytes, ran, carried'⟩ | ⟨status, -, ran⟩
    · simp only [graphicsStep, ran, ok_bind, pure_eq_ok, Except.ok.injEq, Prod.mk.injEq] at taken
      obtain ⟨-, rfl⟩ := taken
      exact ⟨_, carried'⟩
    · simp only [graphicsStep, ran, ok_bind, pure_eq_ok, Except.ok.injEq, Prod.mk.injEq] at taken
      obtain ⟨-, rfl⟩ := taken
      exact ⟨_, carried⟩

/-- In every state of a run the ring is in bounds, no call faults, and a refused message leaves
    the buffer as it was and is invisible to every later sequence of calls. -/
theorem graphics_messages_atomic (reached : Reachable graphicsStep decompressorInit d) :
    (d.historyIndex < 2500000 ∧ d.historyFilled ≤ 2500000 ∧
      (d.history = none → d.historyIndex = 0 ∧ d.historyFilled = 0) ∧
      ∀ history, d.history = some history → history.size = 2500000) ∧
    (∀ call, ∃ answer d', graphicsStep d call = .ok (answer, d')) ∧
    ∀ data decoded status d' decoded',
      decodeSegmentedData d data decoded = .ok (status, d', decoded') → status ≠ .ok →
      decoded' = decoded ∧ Indistinguishable graphicsStep d' d := by
  obtain ⟨stream, carried⟩ := graphics_reachable_carried reached
  refine ⟨⟨carried.index, ?_, ?_, fun history stored => (carried.allocated history stored).1⟩, ?_, ?_⟩
  · rw [carried.filled]
    exact Nat.min_le_right _ _
  · intro unallocated
    obtain ⟨index, empty⟩ := carried.unallocated unallocated
    have filled := carried.filled
    rw [empty] at filled
    exact ⟨index, filled⟩
  · intro call
    cases call with
    | reset => exact ⟨_, _, rfl⟩
    | decode data decoded =>
        rcases decodeSegmentedData_cases carried data decoded with
          ⟨d', bytes, ran, -⟩ | ⟨status, -, ran⟩
        · exact ⟨(.ok, decoded ++ bytes), d', by simp only [graphicsStep, ran, ok_bind, pure_eq_ok]⟩
        · exact ⟨(status, decoded), d, by simp only [graphicsStep, ran, ok_bind, pure_eq_ok]⟩
  · intro data decoded status d' decoded' ran failed
    rcases decodeSegmentedData_cases carried data decoded with
      ⟨d'', bytes, accepted, -⟩ | ⟨status', -, refused⟩
    · rw [accepted] at ran
      cases ran
      exact absurd rfl failed
    · rw [refused] at ran
      simp only [Except.ok.injEq, Prod.mk.injEq] at ran
      obtain ⟨-, rfl, rfl⟩ := ran
      exact ⟨rfl, fun _ => rfl⟩

end Runs

/-- A multipart message whose second segment is refused, after the first was put out. -/
theorem graphics_messages_atomic_multipart :
    (∃ d', decodeSegmentedData decompressorInit [0xe1, 0x02, 0x00, 0x02, 0x00, 0x00, 0x00,
      0x02, 0x00, 0x00, 0x00, 0x04, 0x51, 0x04, 0x00, 0x00, 0x00, 0x20, 0x01, 0x02, 0x03] [0xa5] =
        .ok (.protocolError, d', [0xa5]) ∧ Indistinguishable graphicsStep d' decompressorInit) ∧
    decompressorInit.historyIndex < 2500000 := by
  obtain ⟨⟨index, -⟩, -, atomic⟩ := graphics_messages_atomic Reachable.init
  have refused : ∃ d', decodeSegmentedData decompressorInit [0xe1, 0x02, 0x00, 0x02, 0x00, 0x00,
      0x00, 0x02, 0x00, 0x00, 0x00, 0x04, 0x51, 0x04, 0x00, 0x00, 0x00, 0x20, 0x01, 0x02, 0x03]
      [0xa5] = .ok (.protocolError, d', [0xa5]) := ⟨_, rfl⟩
  obtain ⟨d', ran⟩ := refused
  exact ⟨⟨d', ran, (atomic _ _ _ _ _ ran (by decide)).2⟩, index⟩

end LibRdp.Graphics
