import LibRdp.Bulk.Bounds

/-! # States that no later call tells apart

An MPPC or RDP6.1 state is determined by its history, an unallocated one
counting as zero, and its write offset. An RDP6 state also has its cache, but
the history byte at the write offset does not matter: no offset reaches it
before it is overwritten. Decompressors that agree this far answer every later
sequence of calls alike.
-/

namespace LibRdp.Bulk

open Machine Coding Lz77

structure MppcAlike (s t : MppcState) : Prop where
  level : s.level = t.level
  memory : s.memory = t.memory
  offset : s.writeOffset = t.writeOffset

theorem MppcAlike.refl (s : MppcState) : MppcAlike s s := ⟨rfl, rfl, rfl⟩

variable {s t : MppcState} {d e : Decompressor}

theorem MppcAlike.symm (alike : MppcAlike s t) : MppcAlike t s :=
  ⟨alike.level.symm, alike.memory.symm, alike.offset.symm⟩

theorem MppcAlike.trans {u : MppcState} (first : MppcAlike s t) (second : MppcAlike t u) :
    MppcAlike s u :=
  ⟨first.level.trans second.level, first.memory.trans second.memory,
    first.offset.trans second.offset⟩

theorem MppcAlike.decompress (alike : MppcAlike s t) (valid : s.Valid) (valid' : t.Valid)
    (flags : UInt8) (data decoded : Bytes) :
    mppcDecompress s flags data decoded = mppcDecompress t flags data decoded := by
  have opened : mppcOpen s flags = mppcOpen t flags := by
    simp only [mppcOpen, alike.level, alike.memory, alike.offset]
  rw [mppcDecompress_eq valid, mppcDecompress_eq valid', opened, alike.level]

theorem mppcStateReset_fresh (valid : s.Valid) :
    ∃ s', mppcStateReset s true = .ok s' ∧ s'.Valid ∧ MppcAlike s' (mppcStateInit s.level) := by
  obtain ⟨history, historySize, writeOffset, level⟩ := s
  have size : historySize = mppcSize level := valid.size
  subst size
  cases history with
  | none =>
    refine ⟨⟨none, mppcSize level, 0, level⟩, rfl, ⟨rfl, valid.allocated, Nat.zero_le _⟩, ?_⟩
    exact ⟨rfl, rfl, rfl⟩
  | some history =>
    have cleared := Memory.fill_all (m := history) 0 (valid.allocated history rfl)
    refine ⟨mppcReady level ⟨Memory.filled (mppcSize level) 0, 0⟩, ?_,
      Sized.ready ⟨rfl, Nat.zero_le _⟩, ⟨rfl, rfl, rfl⟩⟩
    simp only [mppcStateReset, cleared, ok_bind]
    rfl

structure Rdp6Alike (c c' : Rdp6Core) : Prop where
  window : c.window.SameBut c'.window
  cache : c.cache = c'.cache

theorem Rdp6Alike.refl (c : Rdp6Core) : Rdp6Alike c c := ⟨.refl c.window, rfl⟩

theorem Rdp6Alike.symm {c c' : Rdp6Core} (alike : Rdp6Alike c c') : Rdp6Alike c' c :=
  ⟨alike.window.symm, alike.cache.symm⟩

theorem Rdp6Alike.trans {c c' c'' : Rdp6Core} (first : Rdp6Alike c c')
    (second : Rdp6Alike c' c'') : Rdp6Alike c c'' :=
  ⟨first.window.trans second.window, first.cache.trans second.cache⟩

private theorem rdp6Source_ne {cursor offset : Nat} (low : offset ≠ 0)
    (high : offset ≤ 65535) : rdp6Source cursor offset ≠ cursor := by
  simp only [rdp6Source]
  omega

section Rdp6

variable {c c' : Rdp6Core}

private theorem rdp6CopyWindow_alike (alike : Rdp6Alike c c')
    {offset : Nat} (high : offset ≤ 65535) (length : Nat) :
    rdp6CopyWindow c.window offset length = rdp6CopyWindow c'.window offset length := by
  simp only [rdp6CopyWindow, alike.window.cursor]
  split
  · next guard =>
      have away : rdp6Source c'.window.cursor offset ≠ c.window.cursor := by
        rw [alike.window.cursor]
        exact rdp6Source_ne guard.1 high
      rw [alike.window.copy away (by omega)]
  · rfl

theorem rdp6Write_alike (alike : Rdp6Alike c c') (sized : c.Sized) {t : Rdp6Token}
    (inRange : t.InRange) :
    rdp6Write c.cache c.window t = rdp6Write c'.cache c'.window t := by
  cases t with
  | literal b =>
    simp only [rdp6Write, alike.window.cursor, alike.window.push]
  | newMatch offset length => exact rdp6CopyWindow_alike alike inRange length
  | repeatMatch slot length =>
    have stored : c.cache.getD slot 0 ≤ 65535 := by
      by_cases inside : slot < c.cache.length
      · rw [List.getD_eq_getElem?_getD, List.getElem?_eq_getElem inside]
        exact sized.offsets _ (List.getElem_mem inside)
      · simp [List.getElem?_eq_none (Nat.le_of_not_lt inside)]
    simp only [rdp6Write, ← alike.cache]
    exact rdp6CopyWindow_alike alike stored length

theorem rdp6DecodeLoop_alike {fuel : Nat} (alike : Rdp6Alike c c') (sized : c.Sized)
    (sized' : c'.Sized) {reader : Rdp6BitReader} (clean : reader.Clean)
    (enough : reader.stream.length < fuel) :
    ∃ status core core', rdp6DecodeLoop fuel (rdp6Ready c) reader = .ok (status, rdp6Ready core) ∧
      rdp6DecodeLoop fuel (rdp6Ready c') reader = .ok (status, rdp6Ready core') ∧
      core.cache = core'.cache ∧ (core.window = core'.window ∨
        (core.window = c.window ∧ core'.window = c'.window)) := by
  cases fuel with
  | zero => omega
  | succ fuel =>
    rcases rdp6DecodeToken_cases clean with
      ⟨t, bits, reader₁, isToken, clean₁, spelled, ran⟩ | ⟨reader₁, -, ran⟩ | ⟨reader₁, ran⟩
    · have written := rdp6Write_alike alike sized isToken.inRange
      have ran' := ran c' sized'
      have ran := ran c sized
      cases wrote : rdp6Write c.cache c.window t with
      | none =>
        rw [wrote] at written
        refine ⟨.protocolError, ⟨c.window, cacheAfter c.cache t⟩,
          ⟨c'.window, cacheAfter c'.cache t⟩, ?_, ?_, ?_, .inr ⟨rfl, rfl⟩⟩
        · simp [rdp6DecodeLoop, ran, rdp6Outcome, wrote]
        · simp [rdp6DecodeLoop, ran', rdp6Outcome, ← written]
        · rw [alike.cache]
      | some w =>
        rw [wrote] at written
        have shorter : reader₁.stream.length < fuel := by
          have := isToken.positive
          rw [spelled, List.length_append] at enough
          omega
        have applied : rdp6Apply c t = some ⟨w, cacheAfter c.cache t⟩ := by
          simp [rdp6Apply, wrote]
        -- From here on both runs are the same run.
        obtain ⟨status, core, rest⟩ : ∃ status core,
            rdp6DecodeLoop fuel (rdp6Ready ⟨w, cacheAfter c.cache t⟩) reader₁ =
              .ok (status, rdp6Ready core) := by
          obtain ⟨-, -, -, core, -, -, -, ⟨-, rest⟩ | ⟨cache, rest⟩⟩ := rdp6DecodeLoop_cases
            (rdp6Apply_sized sized isToken.inRange applied) clean₁ shorter
          · exact ⟨_, _, rest⟩
          · exact ⟨_, _, rest⟩
        refine ⟨status, core, core, ?_, ?_, rfl, .inl rfl⟩
        · simp [rdp6DecodeLoop, ran, rdp6Outcome, wrote, rest]
        · rw [alike.cache] at rest
          simp [rdp6DecodeLoop, ran', rdp6Outcome, ← written, rest]
    · refine ⟨.ok, c, c', ?_, ?_, alike.cache, .inr ⟨rfl, rfl⟩⟩
      · simp [rdp6DecodeLoop, ran c]
      · simp [rdp6DecodeLoop, ran c']
    · refine ⟨.protocolError, c, c', ?_, ?_, alike.cache, .inr ⟨rfl, rfl⟩⟩
      · simp [rdp6DecodeLoop, ran c]
      · simp [rdp6DecodeLoop, ran c']

theorem rdp6DecodeBody_alike (alike : Rdp6Alike c c') (sized : c.Sized) (sized' : c'.Sized)
    (flags : UInt8) (data decoded : Bytes) :
    ∃ status core core' decoded', rdp6DecodeBody (rdp6Ready c) flags data decoded =
        .ok (status, rdp6Ready core, decoded') ∧
      rdp6DecodeBody (rdp6Ready c') flags data decoded = .ok (status, rdp6Ready core', decoded') ∧
      Rdp6Alike core core' := by
  cases compressed : hasFlag flags packetCompressed with
  | false =>
    exact ⟨.ok, c, c', decoded ++ data, by simp [rdp6DecodeBody, compressed],
      by simp [rdp6DecodeBody, compressed], alike⟩
  | true =>
    by_cases long : 4 ≤ data.length
    · obtain ⟨reader, init, clean, stream⟩ := readerInit_eq long
      have enough : reader.stream.length < 8 * data.length + 1 := by
        rw [stream]
        exact lsbBits_lt data
      obtain ⟨status, core, core', ran, ran', cache, windows⟩ :=
        rdp6DecodeLoop_alike alike sized sized' clean enough
      rcases windows with equal | ⟨untouched, untouched'⟩
      · have same : core = core' := by
          obtain ⟨w, k⟩ := core
          obtain ⟨w', k'⟩ := core'
          simp only at equal cache
          rw [equal, cache]
        subst same
        have bodies : rdp6DecodeBody (rdp6Ready c') flags data decoded =
            rdp6DecodeBody (rdp6Ready c) flags data decoded := by
          simp [rdp6DecodeBody, compressed, init, ran, ran', alike.window.cursor, alike.cache]
        obtain ⟨status', core', decoded', done, -⟩ :=
          rdp6DecodeBody_valid sized flags data decoded
        exact ⟨status', core', core', decoded', done, bodies.trans done, .refl core'⟩
      · obtain ⟨w, k⟩ := core
        obtain ⟨w', k'⟩ := core'
        simp only at untouched untouched' cache
        subst untouched untouched' cache
        have inside : c.window.cursor + 0 ≤ c.window.memory.size := by
          have := sized.bounded
          rw [sized.size]
          omega
        have inside' : c'.window.cursor + 0 ≤ c'.window.memory.size := by
          have := sized'.bounded
          rw [sized'.size]
          omega
        by_cases done : status = .ok
        · refine ⟨.ok, ⟨c.window, k⟩, ⟨c'.window, k⟩, decoded, ?_, ?_, alike.window, rfl⟩
          · simp [rdp6DecodeBody, compressed, init, ran, done, checkedSub,
              Memory.slice_of_le inside]
          · simp [rdp6DecodeBody, compressed, init, ran', done, checkedSub,
              Memory.slice_of_le inside']
        refine ⟨status, c, c', decoded, ?_, ?_, alike⟩
        · simp [rdp6DecodeBody, compressed, init, ran, done]
          rfl
        · simp [rdp6DecodeBody, compressed, init, ran', done]
          rfl
    · have short := readerInit_short (Nat.not_le.mp long)
      exact ⟨.protocolError, c, c', decoded, by simp [rdp6DecodeBody, compressed, short],
        by simp [rdp6DecodeBody, compressed, short], alike⟩

theorem rdp6Decode_alike {s t : Rdp6State} (alike : Rdp6Alike s.core t.core) (valid : s.Valid)
    (valid' : t.Valid) (flags : UInt8) (data decoded : Bytes) :
    ∃ status core core' decoded', rdp6Decode s flags data decoded =
        .ok (status, rdp6Ready core, decoded') ∧
      rdp6Decode t flags data decoded = .ok (status, rdp6Ready core', decoded') ∧
      Rdp6Alike core core' := by
  have sized := valid.sized
  have sized' := valid'.sized
  rw [rdp6Decode_eq valid, rdp6Decode_eq valid']
  by_cases near : hasFlag flags packetAtFront ∧ s.core.window.cursor ≤ 32768
  · have near' : hasFlag flags packetAtFront ∧ t.core.window.cursor ≤ 32768 := by
      rw [← alike.window.cursor]
      exact near
    simp only [rdp6Open, if_pos near, if_pos near']
    exact ⟨_, _, _, _, rfl, rfl, alike⟩
  have far : ¬ (hasFlag flags packetAtFront ∧ t.core.window.cursor ≤ 32768) := by
    rw [← alike.window.cursor]
    exact near
  cases flush : hasFlag flags packetFlushed with
  | true =>
    simp only [rdp6Open, if_neg near, if_neg far, flush, if_true]
    exact rdp6DecodeBody_alike (.refl _) rdp6Fresh_sized rdp6Fresh_sized flags data decoded
  | false =>
    cases front : hasFlag flags packetAtFront with
    | true =>
      have moved : rdp6Moved s.core.window = rdp6Moved t.core.window := by
        refine Memory.ext_cells rfl ?_
        intro i inside
        simp only [rdp6Moved]
        split
        · have beyond : 32768 < s.core.window.cursor := by
            simp only [front, true_and] at near
            omega
          rw [alike.window.cells _ (by omega), alike.window.cursor]
        · rfl
      have opened : rdp6Open s.core flags =
          some ⟨⟨rdp6Moved t.core.window, 32768⟩, t.core.cache⟩ := by
        rw [rdp6Open, if_neg near, if_neg (by simp [flush]), if_pos front, moved, alike.cache]
      have opened' : rdp6Open t.core flags =
          some ⟨⟨rdp6Moved t.core.window, 32768⟩, t.core.cache⟩ := by
        rw [rdp6Open, if_neg far, if_neg (by simp [flush]), if_pos front]
      rw [opened, opened']
      have after := rdp6Moved_sized sized'
      exact rdp6DecodeBody_alike (.refl _) after after flags data decoded
    | false =>
      simp only [rdp6Open, flush, front]
      exact rdp6DecodeBody_alike alike sized sized' flags data decoded

end Rdp6

section Rdp61

variable {s t : Rdp61State} {l m : MppcState}

theorem rdp61DecompressLevel1_alike (alike : s.window = t.window) (valid : s.Valid)
    (valid' : t.Valid) (data decoded : Bytes) :
    ∃ status s' t' decoded', rdp61DecompressLevel1 s data decoded = .ok (status, s', decoded') ∧
      rdp61DecompressLevel1 t data decoded = .ok (status, t', decoded') ∧
      s'.window = t'.window := by
  obtain _ | ⟨flags, _ | ⟨flags2, payload⟩⟩ := data
  · exact ⟨_, _, _, _, rfl, rfl, alike⟩
  · exact ⟨_, _, _, _, rfl, rfl, alike⟩
  · obtain ⟨status, s', decoded', ran, -⟩ :=
      rdp61DecompressLevel1_keeps valid (flags :: flags2 :: payload) decoded
    refine ⟨status, s', s', decoded', ran, ?_, rfl⟩
    rw [rdp61DecompressLevel1_eq valid] at ran
    rw [rdp61DecompressLevel1_eq valid', ← alike]
    exact ran

theorem rdp61Decompress_alike (alike : s.window = t.window) (alike2 : MppcAlike l m)
    (valid : s.Valid) (valid' : t.Valid) (valid2 : l.Valid) (valid2' : m.Valid)
    (data decoded : Bytes) :
    ∃ status s' t' l' m' decoded', rdp61Decompress s l data decoded =
        .ok (status, s', l', decoded') ∧
      rdp61Decompress t m data decoded = .ok (status, t', m', decoded') ∧
      s'.window = t'.window ∧ MppcAlike l' m' := by
  obtain _ | ⟨flags, _ | ⟨flags2, packed⟩⟩ := data
  · exact ⟨_, _, _, _, _, _, rfl, rfl, alike, alike2⟩
  · exact ⟨_, _, _, _, _, _, rfl, rfl, alike, alike2⟩
  · cases inner : hasFlag flags l1InnerCompression with
    | false =>
      obtain ⟨status, s', t', decoded', ran, ran', alike'⟩ :=
        rdp61DecompressLevel1_alike alike valid valid' (flags :: flags2 :: packed) decoded
      exact ⟨status, s', t', l, m, decoded', by simp [rdp61Decompress, inner, ran],
        by simp [rdp61Decompress, inner, ran'], alike', alike2⟩
    | true =>
      have same := alike2.decompress valid2 valid2' flags2 packed [flags, flags2]
      obtain ⟨status, l', bytes, ran, -, -⟩ :=
        mppcDecompress_valid valid2 flags2 packed [flags, flags2]
      rw [ran] at same
      by_cases done : status = .ok
      · obtain ⟨status', s', t', decoded', run1, run1', alike'⟩ :=
          rdp61DecompressLevel1_alike alike valid valid' bytes decoded
        exact ⟨status', s', t', l', l', decoded',
          by simp [rdp61Decompress, inner, ran, done, run1],
          by simp [rdp61Decompress, inner, ← same, done, run1'], alike', .refl l'⟩
      · exact ⟨status, s, t, l', l', decoded, by simp [rdp61Decompress, inner, ran, done],
          by simp [rdp61Decompress, inner, ← same, done], alike, .refl l'⟩

end Rdp61

structure Decompressor.Alike (d e : Decompressor) : Prop where
  mppc8k : MppcAlike d.mppc8k e.mppc8k
  mppc64k : MppcAlike d.mppc64k e.mppc64k
  rdp6 : Rdp6Alike d.rdp6.core e.rdp6.core
  rdp61Level2 : MppcAlike d.rdp61Level2 e.rdp61Level2
  rdp61 : d.rdp61.window = e.rdp61.window

theorem Decompressor.Alike.refl (d : Decompressor) : d.Alike d :=
  ⟨.refl _, .refl _, .refl _, .refl _, rfl⟩

theorem Decompressor.Alike.symm (alike : d.Alike e) : e.Alike d :=
  ⟨alike.mppc8k.symm, alike.mppc64k.symm, alike.rdp6.symm, alike.rdp61Level2.symm,
    alike.rdp61.symm⟩

theorem Decompressor.Alike.trans {f : Decompressor} (first : d.Alike e) (second : e.Alike f) :
    d.Alike f :=
  ⟨first.mppc8k.trans second.mppc8k, first.mppc64k.trans second.mppc64k,
    first.rdp6.trans second.rdp6, first.rdp61Level2.trans second.rdp61Level2,
    first.rdp61.trans second.rdp61⟩

theorem rdp6StateReset_fresh {s : Rdp6State} (valid : s.Valid) :
    ∃ s', rdp6StateReset s true = .ok s' ∧ s'.core = rdp6Fresh := by
  have cleared : s.history.fill 0 rdp6HistorySize 0 = .ok (Memory.filled 65536 0) :=
    Memory.fill_all 0 valid.sized.size
  exact ⟨_, by simp only [rdp6StateReset, cleared, if_true, ok_bind]; rfl, rfl⟩

theorem rdp61StateReset_fresh {s : Rdp61State} (valid : s.Valid) :
    ∃ s', rdp61StateReset s true = .ok s' ∧ s'.window = rdp61Fresh := by
  obtain ⟨history, writeOffset⟩ := s
  cases history with
  | none => exact ⟨_, rfl, rfl⟩
  | some history =>
    have cleared := Memory.fill_all (m := history) 0 (valid.allocated history rfl)
    exact ⟨_, by simp only [rdp61StateReset, cleared, ok_bind]; rfl, rfl⟩

theorem decompressorReset_fresh (valid : d.Valid) :
    ∃ d', decompressorReset d = .ok d' ∧ d'.Valid ∧ d'.Alike decompressorInit := by
  obtain ⟨mppc8k, ran8k, -, alike8k⟩ := mppcStateReset_fresh valid.mppc8k
  obtain ⟨mppc64k, ran64k, -, alike64k⟩ := mppcStateReset_fresh valid.mppc64k
  obtain ⟨rdp6, ran6, fresh6⟩ := rdp6StateReset_fresh valid.rdp6
  obtain ⟨level2, ran2, -, alike2⟩ := mppcStateReset_fresh valid.rdp61Level2
  obtain ⟨rdp61, ran61, fresh61⟩ := rdp61StateReset_fresh valid.rdp61
  rw [valid.level8k] at alike8k
  rw [valid.level64k] at alike64k
  rw [valid.level2] at alike2
  obtain ⟨d', ran, valid'⟩ := decompressorReset_valid valid
  have made : decompressorReset d = .ok ⟨mppc8k, mppc64k, rdp6, level2, rdp61⟩ := by
    simp [decompressorReset, ran8k, ran64k, ran6, ran2, ran61]
  rw [made] at ran
  cases ran
  refine ⟨_, made, valid', alike8k, alike64k, ?_, alike2, fresh61⟩
  rw [fresh6]
  exact .refl _

structure Decompressor.Twins (d e : Decompressor) : Prop where
  valid : d.Valid
  valid' : e.Valid
  alike : d.Alike e

theorem decompress_alike (twins : d.Twins e) (flags : UInt8) (data decoded : Bytes) :
    ∃ status d' e' decoded', decompress d flags data decoded = .ok (status, d', decoded') ∧
      decompress e flags data decoded = .ok (status, e', decoded') ∧ d'.Alike e' := by
  obtain ⟨valid, valid', alike⟩ := twins
  simp only [decompress]
  split
  · exact ⟨_, d, e, _, rfl, rfl, alike⟩
  split
  · exact ⟨_, d, e, _, rfl, rfl, alike⟩
  split
  · have same := alike.mppc8k.decompress valid.mppc8k valid'.mppc8k flags data decoded
    obtain ⟨status, mppc8k, decoded', ran, -, -⟩ :=
      mppcDecompress_valid valid.mppc8k flags data decoded
    rw [ran] at same
    exact ⟨status, { d with mppc8k := mppc8k }, { e with mppc8k := mppc8k }, decoded',
      by simp [ran], by simp [← same], { alike with mppc8k := .refl _ }⟩
  split
  · have same := alike.mppc64k.decompress valid.mppc64k valid'.mppc64k flags data decoded
    obtain ⟨status, mppc64k, decoded', ran, -, -⟩ :=
      mppcDecompress_valid valid.mppc64k flags data decoded
    rw [ran] at same
    exact ⟨status, { d with mppc64k := mppc64k }, { e with mppc64k := mppc64k }, decoded',
      by simp [ran], by simp [← same], { alike with mppc64k := .refl _ }⟩
  split
  · obtain ⟨status, core, core', decoded', ran, ran', alike'⟩ :=
      rdp6Decode_alike alike.rdp6 valid.rdp6 valid'.rdp6 flags data decoded
    exact ⟨status, { d with rdp6 := rdp6Ready core }, { e with rdp6 := rdp6Ready core' }, decoded',
      by simp [ran], by simp [ran'], { alike with rdp6 := alike' }⟩
  split
  · obtain ⟨status, s, t, l, m, decoded', ran, ran', alike', alike2⟩ :=
      rdp61Decompress_alike alike.rdp61 alike.rdp61Level2 valid.rdp61 valid'.rdp61
        valid.rdp61Level2 valid'.rdp61Level2 data decoded
    exact ⟨status, { d with rdp61 := s, rdp61Level2 := l },
      { e with rdp61 := t, rdp61Level2 := m }, decoded', by simp [ran], by simp [ran'],
      { alike with rdp61 := alike', rdp61Level2 := alike2 }⟩
  · exact ⟨_, d, e, _, rfl, rfl, alike⟩

theorem bulkStep_twins (twins : d.Twins e) (call : BulkCall) :
    ∃ answer d' e', bulkStep d call = .ok (answer, d') ∧ bulkStep e call = .ok (answer, e') ∧
      d'.Twins e' := by
  cases call with
  | decompress flags data decoded =>
    obtain ⟨status, d', e', decoded', ran, ran', alike'⟩ :=
      decompress_alike twins flags data decoded
    obtain ⟨_, _, _, again, next⟩ := decompress_valid twins.valid flags data decoded
    obtain ⟨_, _, _, again', next'⟩ := decompress_valid twins.valid' flags data decoded
    rw [ran] at again
    rw [ran'] at again'
    cases again
    cases again'
    exact ⟨(status, decoded'), d', e', by simp [bulkStep, ran], by simp [bulkStep, ran'], next,
      next', alike'⟩
  | reset =>
    obtain ⟨d', ran, next, alike⟩ := decompressorReset_fresh twins.valid
    obtain ⟨e', ran', next', alike'⟩ := decompressorReset_fresh twins.valid'
    exact ⟨(.ok, []), d', e', by simp [bulkStep, ran], by simp [bulkStep, ran'], next, next',
      alike.trans alike'.symm⟩

theorem Decompressor.Twins.indistinguishable (twins : d.Twins e) : Indistinguishable bulkStep d e :=
  Indistinguishable.of_bisimulation Decompressor.Twins
    (fun _ _ call twins => bulkStep_twins twins call) twins

end LibRdp.Bulk
