import LibRdp.Bulk.Bounds

/-! # What a flushed packet depends on

`FLUSHED` clears the history the packet is decoded with, so for MPPC and RDP6
the answer is the same in every state. `rdp_bulk_rdp61_decompress` is not given
the flags: there it takes the packet's own two header bytes to restart both
levels.
-/

namespace LibRdp.Bulk

open Machine Coding Lz77

def packetAnswer (d : Decompressor) (flags : UInt8) (data decoded : Bytes) :
    Exec (Status × Bytes) :=
  (decompress d flags data decoded).map (fun (status, _, decoded) => (status, decoded))

/-- The packet is answered alike in any two states that runs can reach. -/
def HistoryIndependent (flags : UInt8) (data : Bytes) : Prop :=
  ∀ s t, Reachable bulkStep decompressorInit s → Reachable bulkStep decompressorInit t →
    ∀ decoded, packetAnswer s flags data decoded = packetAnswer t flags data decoded

/-- The RDP6.1 header is refused, or it clears the level-1 history and, when level 2 expands the
    packet, the level-2 history. -/
def RestartsItself (flags flags2 : UInt8) : Prop :=
  l1FlagsInvalid flags = true ∨ (hasFlag flags l1PacketAtFront = true ∧
    (hasFlag flags l1InnerCompression = false ∨ hasFlag flags2 packetCompressed = false ∨
      hasFlag flags2 packetFlushed = true))

section Flush

variable {flags : UInt8}

theorem mppcDecompress_flushed {s t : MppcState} (valid : s.Valid) (valid' : t.Valid)
    (level : s.level = t.level) (flush : hasFlag flags packetFlushed = true)
    (data decoded : Bytes) :
    mppcDecompress s flags data decoded = mppcDecompress t flags data decoded := by
  have opened : mppcOpen s flags = mppcOpen t flags := by
    simp only [mppcOpen, flush, level, Bool.or_true, if_true]
  rw [mppcDecompress_eq valid, mppcDecompress_eq valid', opened, level]

theorem rdp6Decode_flushed {s t : Rdp6State} (valid : s.Valid) (valid' : t.Valid)
    (flush : hasFlag flags packetFlushed = true) (front : hasFlag flags packetAtFront = false)
    (data decoded : Bytes) : rdp6Decode s flags data decoded = rdp6Decode t flags data decoded := by
  have opened : ∀ core, rdp6Open core flags = some rdp6Fresh := by
    intro core
    simp [rdp6Open, flush, front]
  rw [rdp6Decode_eq valid, rdp6Decode_eq valid', opened, opened]

end Flush

section Restart

variable {s t : Rdp61State} {l m : MppcState} {flags flags2 : UInt8}

def rdp61Answer (s : Rdp61State) (l : MppcState) (data decoded : Bytes) : Exec (Status × Bytes) :=
  (rdp61Decompress s l data decoded).map (fun (status, _, _, decoded) => (status, decoded))

def level1Answer (s : Rdp61State) (data decoded : Bytes) : Exec (Status × Bytes) :=
  (rdp61DecompressLevel1 s data decoded).map (fun (status, _, decoded) => (status, decoded))

theorem rdp61Answer_plain (inner : hasFlag flags l1InnerCompression = false)
    (payload decoded : Bytes) :
    rdp61Answer s l (flags :: flags2 :: payload) decoded =
      level1Answer s (flags :: flags2 :: payload) decoded := by
  simp only [rdp61Answer, level1Answer, rdp61Decompress, inner]
  cases rdp61DecompressLevel1 s (flags :: flags2 :: payload) decoded <;> rfl

variable {packed bytes : Bytes} {l' : MppcState}

theorem rdp61Answer_accepted (inner : hasFlag flags l1InnerCompression = true)
    (ran : mppcDecompress l flags2 packed [flags, flags2] = .ok (.ok, l', bytes))
    (decoded : Bytes) :
    rdp61Answer s l (flags :: flags2 :: packed) decoded = level1Answer s bytes decoded := by
  simp only [rdp61Answer, level1Answer, rdp61Decompress, inner, ran, ok_bind, if_true]
  cases rdp61DecompressLevel1 s bytes decoded <;> rfl

theorem rdp61Answer_refused {status : Status} (inner : hasFlag flags l1InnerCompression = true)
    (ran : mppcDecompress l flags2 packed [flags, flags2] = .ok (status, l', bytes))
    (failed : status ≠ .ok) (decoded : Bytes) :
    rdp61Answer s l (flags :: flags2 :: packed) decoded = .ok (status, decoded) := by
  simp only [rdp61Answer, rdp61Decompress, inner, ran, ok_bind, if_true, if_neg failed]
  rfl

theorem mppcDecompress_appends (valid : l.Valid) (flags : UInt8) (data decoded : Bytes) :
    (∃ l' bytes, mppcDecompress l flags data decoded = .ok (.ok, l', decoded ++ bytes)) ∨
      ∃ l', mppcDecompress l flags data decoded = .ok (.protocolError, l', decoded) := by
  rw [mppcDecompress_eq valid]
  rcases mppcDecompressBody_cases (mppcOpen_sized valid flags) flags data decoded with
    ⟨-, ran⟩ | ⟨-, tokens, w, rest, -, -, -, ⟨-, ran⟩ | ⟨-, ran⟩⟩
  · exact .inl ⟨_, _, ran⟩
  · exact .inl ⟨_, _, ran⟩
  · exact .inr ⟨_, ran⟩

theorem level1Answer_invalid (valid : s.Valid) (invalid : l1FlagsInvalid flags = true)
    (payload decoded : Bytes) :
    level1Answer s (flags :: flags2 :: payload) decoded = .ok (.protocolError, decoded) := by
  rw [level1Answer, rdp61DecompressLevel1_eq valid, if_pos invalid]
  rfl

theorem level1Answer_restarts (valid : s.Valid) (valid' : t.Valid)
    (restarts : l1FlagsInvalid flags = true ∨ hasFlag flags l1PacketAtFront = true)
    (payload decoded : Bytes) :
    level1Answer s (flags :: flags2 :: payload) decoded =
      level1Answer t (flags :: flags2 :: payload) decoded := by
  rcases restarts with invalid | front
  · rw [level1Answer_invalid valid invalid, level1Answer_invalid valid' invalid]
  · have opened : ∀ w, rdp61Open w flags = rdp61Fresh := by
      intro w
      simp [rdp61Open, front]
    by_cases invalid : l1FlagsInvalid flags = true
    · rw [level1Answer_invalid valid invalid, level1Answer_invalid valid' invalid]
    · simp only [level1Answer, rdp61DecompressLevel1_eq valid, rdp61DecompressLevel1_eq valid',
        if_neg invalid, opened]

theorem rdp61Answer_restarts (valid : s.Valid) (valid' : t.Valid) (valid2 : l.Valid)
    (valid2' : m.Valid) (level : l.level = m.level) (restarts : RestartsItself flags flags2)
    (packed decoded : Bytes) :
    rdp61Answer s l (flags :: flags2 :: packed) decoded =
      rdp61Answer t m (flags :: flags2 :: packed) decoded := by
  have level1 : l1FlagsInvalid flags = true ∨ hasFlag flags l1PacketAtFront = true := by
    rcases restarts with invalid | ⟨front, -⟩
    · exact .inl invalid
    · exact .inr front
  cases inner : hasFlag flags l1InnerCompression with
  | false =>
    rw [rdp61Answer_plain inner, rdp61Answer_plain inner]
    exact level1Answer_restarts valid valid' level1 packed decoded
  | true =>
    rcases restarts with invalid | ⟨front, plain | raw | flush⟩
    · have refused : ∀ {s : Rdp61State} {l : MppcState}, s.Valid → l.Valid →
          rdp61Answer s l (flags :: flags2 :: packed) decoded = .ok (.protocolError, decoded) := by
        intro s l valid valid2
        rcases mppcDecompress_appends valid2 flags2 packed [flags, flags2] with
          ⟨l', bytes, ran⟩ | ⟨l', ran⟩
        · rw [rdp61Answer_accepted inner ran]
          exact level1Answer_invalid valid invalid bytes decoded
        · exact rdp61Answer_refused inner ran (by decide) decoded
      rw [refused valid valid2, refused valid' valid2']
    · rw [inner] at plain
      cases plain
    · have handed : ∀ {s : Rdp61State} {l : MppcState}, l.Valid →
          rdp61Answer s l (flags :: flags2 :: packed) decoded =
            level1Answer s (flags :: flags2 :: packed) decoded := by
        intro s l valid2
        have ran : mppcDecompress l flags2 packed [flags, flags2] =
            .ok (.ok, mppcReady l.level (mppcOpen l flags2), flags :: flags2 :: packed) := by
          rw [mppcDecompress_eq valid2]
          simp [mppcDecompressBody, raw]
        exact rdp61Answer_accepted inner ran decoded
      rw [handed valid2, handed valid2']
      exact level1Answer_restarts valid valid' level1 packed decoded
    · have same := mppcDecompress_flushed valid2 valid2' level flush packed [flags, flags2]
      rcases mppcDecompress_appends valid2 flags2 packed [flags, flags2] with
        ⟨l', bytes, ran⟩ | ⟨l', ran⟩
      · rw [rdp61Answer_accepted inner ran, rdp61Answer_accepted inner (same.symm.trans ran)]
        exact level1Answer_restarts valid valid' level1 bytes decoded
      · rw [rdp61Answer_refused inner ran (by decide),
          rdp61Answer_refused inner (same.symm.trans ran) (by decide)]

end Restart

/-- A level-1 payload of one record: a match of one byte at the start of the history. -/
def oneMatch : Bytes := [0x01, 0x00, 0x01, 0x00, 0x00, 0x00, 0x00, 0x00, 0x00, 0x00]

/-- A payload in the coding that the header announces, and the byte it expands to in a new
    state. -/
def onePayload (flags : UInt8) : Bytes :=
  if hasFlag flags l1NoCompression then [0x00] else oneMatch

section Literals

variable {literals : Bytes}

theorem rdp61LiteralLoop_done (count : Nat) {work : Rdp61Work} {w : Window UInt8}
    (ready : work.state = rdp61Ready w) (sized : Rdp61Sized w)
    (room : w.cursor + count ≤ rdp61HistorySize)
    (enough : work.literalOffset + count ≤ literals.length) :
    ∃ work' w', rdp61LiteralLoop literals count work = .ok (.ok, work') ∧
      work'.state = rdp61Ready w' ∧ w'.cursor = w.cursor + count := by
  induction count generalizing work w with
  | zero => exact ⟨work, w, rfl, ready, rfl⟩
  | succ count ih =>
    obtain ⟨value, here⟩ : ∃ value, literals[work.literalOffset]? = some value :=
      ⟨_, List.getElem?_eq_getElem (show work.literalOffset < literals.length by omega)⟩
    rcases rdp61Emit_cases ready sized value with ⟨full, -⟩ | ⟨free, emitted⟩
    · omega
    · obtain ⟨work', w', ran, ready', cursor⟩ := @ih
        ⟨rdp61Ready (w.push value), work.decoded ++ [value], work.outputOffset + 1,
          work.literalOffset + 1⟩ (w.push value) rfl ⟨sized.size, free⟩
        (by rw [Window.push_cursor]; omega) (by simp only; omega)
      rw [Window.push_cursor] at cursor
      refine ⟨work', w', ?_, ready', by omega⟩
      simpa [rdp61LiteralLoop, here, emitted] using ran

end Literals

theorem level1_fills {payload : Bytes} (length : payload.length = rdp61HistorySize)
    (flags2 : UInt8) : ∃ w decoded, w.cursor = rdp61HistorySize ∧
      rdp61DecompressLevel1 rdp61StateInit (0x02 :: flags2 :: payload) [] =
        .ok (.ok, rdp61Ready w, decoded) := by
  have start : Rdp61Work.state ⟨rdp61Ready rdp61Fresh, [], 0, 0⟩ = rdp61Ready rdp61Fresh := rfl
  obtain ⟨⟨state, decoded, _, _⟩, w, ran, ready, cursor⟩ := rdp61LiteralLoop_done payload.length
    start rdp61Fresh_sized (by rw [length]; exact Nat.le_refl _)
    (show 0 + payload.length ≤ payload.length by omega)
  simp only at ready
  subst ready
  refine ⟨w, decoded, by rw [cursor, length]; rfl, ?_⟩
  have plain : hasFlag 0x02 l1NoCompression = true := by decide
  have opened : rdp61Open rdp61StateInit.window 0x02 = rdp61Fresh := rfl
  have emitted : rdp61EmitLiterals ⟨rdp61Ready rdp61Fresh, [], 0, 0⟩ payload payload.length =
      rdp61LiteralLoop payload payload.length ⟨rdp61Ready rdp61Fresh, [], 0, 0⟩ := by
    simp [rdp61EmitLiterals, checkedSub]
  have level1 := rdp61DecompressLevel1_eq decompressorInit_valid.rdp61 0x02 flags2 payload []
  rw [if_neg (by decide)] at level1
  refine level1.trans ?_
  simp only [show decompressorInit.rdp61 = rdp61StateInit from rfl, opened, rdp61Payload, plain,
    if_true, emitted, ran]
  rfl

variable {flags : UInt8}

/-- A packet of the RDP6.1 type goes to `rdp_bulk_rdp61_decompress`, without its flags. -/
theorem decompress_rdp61 (d : Decompressor) (type : flags &&& bulkTypeMask = bulkTypeRdp61)
    (some_ : flags &&& bulkFlagsMask ≠ 0) (b : UInt8) (data decoded : Bytes) :
    decompress d flags (b :: data) decoded = (do
      let (status, rdp61, level2, decoded) ← rdp61Decompress d.rdp61 d.rdp61Level2 (b :: data) decoded
      pure (status, { d with rdp61 := rdp61, rdp61Level2 := level2 }, decoded)) := by
  simp only [decompress, type]
  rw [if_neg (by simp), if_neg some_, if_neg (by decide), if_neg (by decide), if_neg (by decide),
    if_pos trivial]

theorem exists_full : ∃ d, Reachable bulkStep decompressorInit d ∧
    d.rdp61.window.cursor = rdp61HistorySize ∧ d.rdp61Level2 = mppcStateInit .k64 := by
  obtain ⟨payload, length⟩ : ∃ payload : Bytes, payload.length = rdp61HistorySize :=
    ⟨List.replicate rdp61HistorySize 0, List.length_replicate⟩
  obtain ⟨w, decoded, full, ran⟩ := level1_fills length 0x00
  have inner : hasFlag 0x02 l1InnerCompression = false := by decide
  have packet : rdp61Decompress rdp61StateInit (mppcStateInit .k64) (0x02 :: 0x00 :: payload) [] =
      .ok (.ok, rdp61Ready w, mppcStateInit .k64, decoded) := by
    simp [rdp61Decompress, inner, ran]
  have taken : bulkStep decompressorInit (.decompress 0x23 (0x02 :: 0x00 :: payload) []) =
      .ok ((.ok, decoded), { decompressorInit with rdp61 := rdp61Ready w }) := by
    rw [bulkStep, decompress_rdp61 _ (by decide) (by decide)]
    simp only [show decompressorInit.rdp61 = rdp61StateInit from rfl,
      show decompressorInit.rdp61Level2 = mppcStateInit .k64 from rfl, packet, ok_bind, pure_eq_ok]
  exact ⟨_, .step .init taken, full, rfl⟩

/-- The level-2 window after the literals of `oneMatch`. -/
def marked : Window UInt8 := oneMatch.foldl Window.push ⟨Memory.filled 65536 0, 0⟩

/-- A run can leave the literals of `oneMatch` in the level-2 history. -/
theorem exists_marked : ∃ d, Reachable bulkStep decompressorInit d ∧
    d.rdp61Level2 = mppcReady .k64 marked := by
  have taken : ∃ answer d, bulkStep decompressorInit
      (.decompress 0x23 (0x12 :: 0x20 :: oneMatch) []) = .ok (answer, d) ∧
      d.rdp61Level2 = mppcReady .k64 marked := ⟨_, _, rfl, rfl⟩
  obtain ⟨answer, d, taken, held⟩ := taken
  exact ⟨d, .step .init taken, held⟩

theorem packetAnswer_rdp61 (d : Decompressor) (type : flags &&& bulkTypeMask = bulkTypeRdp61)
    (flush : hasFlag flags packetFlushed = true) (b : UInt8) (data decoded : Bytes) :
    packetAnswer d flags (b :: data) decoded = rdp61Answer d.rdp61 d.rdp61Level2 (b :: data) decoded := by
  have some_ : flags &&& bulkFlagsMask ≠ 0 := by
    intro none_
    have narrow : flags &&& packetFlushed = (flags &&& bulkFlagsMask) &&& packetFlushed := by
      rw [UInt8.and_assoc]
      rfl
    rw [hasFlag, narrow, none_] at flush
    cases flush
  rw [packetAnswer, rdp61Answer, decompress_rdp61 d type some_]
  cases rdp61Decompress d.rdp61 d.rdp61Level2 (b :: data) decoded <;> rfl

section Headers

variable {flags flags2 : UInt8}

variable {s : Rdp61State}

theorem level1Answer_one (valid : s.Valid) (known : l1FlagsInvalid flags = false)
    (opened : rdp61Open s.window flags = rdp61Fresh) :
    level1Answer s (flags :: flags2 :: onePayload flags) [] = .ok (.ok, [0x00]) := by
  rw [level1Answer, rdp61DecompressLevel1_eq valid, known, opened]
  cases plain : hasFlag flags l1NoCompression with
  | true =>
    simp only [rdp61Payload, onePayload, plain, if_true]
    rfl
  | false =>
    simp only [rdp61Payload, onePayload, plain]
    rfl

theorem level1Answer_full (valid : s.Valid) (full : s.window.cursor = rdp61HistorySize)
    (known : l1FlagsInvalid flags = false) (front : hasFlag flags l1PacketAtFront = false) :
    level1Answer s (flags :: flags2 :: onePayload flags) [] = .ok (.protocolError, []) := by
  obtain ⟨status, ran, outcome, empty⟩ := rdp61Payload_stuck valid.sized
    (.inl full : Rdp61Stuck s.window flags (onePayload flags)) []
  have failed : status = .protocolError := by
    rcases outcome with done | failed
    · have none_ := empty done
      simp only [onePayload, oneMatch] at none_
      split at none_ <;> cases none_
    · exact failed
  have opened : rdp61Open s.window flags = s.window := by simp [rdp61Open, front]
  rw [level1Answer, rdp61DecompressLevel1_eq valid, known, opened]
  simp only [Bool.false_eq_true, if_false, ran, failed]
  rfl

/-- Level 2 of a new state hands `onePayload` on: bytes below 0x80 spell themselves. -/
theorem level2_one (flags flags2 : UInt8) :
    ∃ l', mppcDecompress (mppcStateInit .k64) flags2 (onePayload flags) [flags, flags2] =
      .ok (.ok, l', flags :: flags2 :: onePayload flags) := by
  have opened : mppcOpen (mppcStateInit .k64) flags2 = ⟨Memory.filled 65536 0, 0⟩ := by
    simp [mppcOpen, mppcStateInit, MppcState.memory, mppcSize]
  rw [mppcDecompress_eq (mppcStateInit_valid .k64), opened]
  cases compressed : hasFlag flags2 packetCompressed with
  | false =>
    simp only [mppcDecompressBody, compressed]
    exact ⟨_, rfl⟩
  | true =>
    simp only [mppcDecompressBody, compressed, onePayload]
    cases plain : hasFlag flags l1NoCompression with
    | true => exact ⟨_, rfl⟩
    | false => exact ⟨_, rfl⟩

/-- A match of ten bytes at the start of the history: with `AT_FRONT` at the write offset itself,
    without it ten bytes back from where the literals of `oneMatch` end. -/
def readBack (flags2 : UInt8) : Bytes :=
  if hasFlag flags2 packetAtFront then [0xf8, 0x19, 0x00] else [0xf9, 0x59, 0x00]

theorem level2_readBack_init (compressed : hasFlag flags2 packetCompressed = true)
    (flags : UInt8) :
    ∃ l', mppcDecompress (mppcStateInit .k64) flags2 (readBack flags2) [flags, flags2] =
      .ok (.ok, l', flags :: flags2 :: List.replicate 10 0) := by
  have opened : mppcOpen (mppcStateInit .k64) flags2 = ⟨Memory.filled 65536 0, 0⟩ := by
    simp [mppcOpen, mppcStateInit, MppcState.memory, mppcSize]
  rw [mppcDecompress_eq (mppcStateInit_valid .k64), opened]
  cases front : hasFlag flags2 packetAtFront with
  | true =>
    simp only [mppcDecompressBody, compressed, readBack, front]
    exact ⟨_, rfl⟩
  | false =>
    simp only [mppcDecompressBody, compressed, readBack, front]
    exact ⟨_, rfl⟩

theorem level2_readBack_marked (compressed : hasFlag flags2 packetCompressed = true)
    (flush : hasFlag flags2 packetFlushed = false) (flags : UInt8) :
    ∃ l', mppcDecompress (mppcReady .k64 marked) flags2 (readBack flags2) [flags, flags2] =
      .ok (.ok, l', flags :: flags2 :: oneMatch) := by
  have valid : (mppcReady .k64 marked).Valid := Sized.ready ⟨rfl, by decide⟩
  rw [mppcDecompress_eq valid]
  cases front : hasFlag flags2 packetAtFront with
  | true =>
    have opened : mppcOpen (mppcReady .k64 marked) flags2 = ⟨marked.memory, 0⟩ := by
      simp [mppcOpen, MppcState.memory, flush, front]
    rw [opened]
    simp only [mppcDecompressBody, compressed, readBack, front]
    exact ⟨_, rfl⟩
  | false =>
    have opened : mppcOpen (mppcReady .k64 marked) flags2 = marked := by
      simp [mppcOpen, MppcState.memory, flush, front]
    rw [opened]
    simp only [mppcDecompressBody, compressed, readBack, front]
    exact ⟨_, rfl⟩

theorem level1Answer_oneMatch_ne {t : Rdp61State} (valid : s.Valid) (valid' : t.Valid)
    (known : l1FlagsInvalid flags = false) (front : hasFlag flags l1PacketAtFront = true) :
    level1Answer s (flags :: flags2 :: List.replicate 10 0) [] ≠
      level1Answer t (flags :: flags2 :: oneMatch) [] := by
  have opened : ∀ w, rdp61Open w flags = rdp61Fresh := by
    intro w
    simp [rdp61Open, front]
  rw [level1Answer, level1Answer, rdp61DecompressLevel1_eq valid, rdp61DecompressLevel1_eq valid',
    known, opened, opened]
  intro same
  cases plain : hasFlag flags l1NoCompression with
  | true =>
    simp only [rdp61Payload, plain, if_true] at same
    cases same
  | false =>
    simp only [rdp61Payload, plain] at same
    cases same

theorem not_restarts_dependent {outer : UInt8} (type : outer &&& bulkTypeMask = bulkTypeRdp61)
    (flush : hasFlag outer packetFlushed = true) (stale : ¬ RestartsItself flags flags2) :
    ∃ rest, ¬ HistoryIndependent outer (flags :: flags2 :: rest) := by
  have known : l1FlagsInvalid flags = false := by
    cases invalid : l1FlagsInvalid flags with
    | true => exact absurd (.inl invalid) stale
    | false => rfl
  have initial := decompressorInit_valid
  cases front : hasFlag flags l1PacketAtFront with
  | false =>
    -- Level 1 goes on where it stood: one byte fits a new history and not a full one.
    obtain ⟨d, reached, full, level2⟩ := exists_full
    have valid := bulk_reachable_valid reached
    have answered : ∀ s, rdp61Answer s (mppcStateInit .k64) (flags :: flags2 :: onePayload flags) [] =
        level1Answer s (flags :: flags2 :: onePayload flags) [] := by
      intro s
      cases inner : hasFlag flags l1InnerCompression with
      | false => exact rdp61Answer_plain inner _ _
      | true =>
        obtain ⟨l', ran⟩ := level2_one flags flags2
        exact rdp61Answer_accepted inner ran []
    refine ⟨onePayload flags, fun independent => ?_⟩
    have same := independent decompressorInit d .init reached []
    rw [packetAnswer_rdp61 _ type flush, packetAnswer_rdp61 _ type flush, level2] at same
    have opened : rdp61Open decompressorInit.rdp61.window flags = rdp61Fresh := by
      rw [rdp61Open, front]
      rfl
    have fits := (answered decompressorInit.rdp61).trans (level1Answer_one initial.rdp61 known opened)
    have stuck := (answered d.rdp61).trans (level1Answer_full valid.rdp61 full known front)
    cases (fits.symm.trans same).trans stuck
  | true =>
    obtain ⟨d, reached, level2⟩ := exists_marked
    have valid := bulk_reachable_valid reached
    have unrestarted : hasFlag flags l1InnerCompression = true ∧
        hasFlag flags2 packetCompressed = true ∧ hasFlag flags2 packetFlushed = false := by
      simp only [RestartsItself, known, front] at stale
      simpa using stale
    obtain ⟨inner, compressed, kept⟩ := unrestarted
    obtain ⟨l, zeros⟩ := level2_readBack_init compressed flags
    obtain ⟨l', marks⟩ := level2_readBack_marked compressed kept flags
    refine ⟨readBack flags2, fun independent => ?_⟩
    have same := independent decompressorInit d .init reached []
    rw [packetAnswer_rdp61 _ type flush, packetAnswer_rdp61 _ type flush, level2] at same
    have left := rdp61Answer_accepted (s := decompressorInit.rdp61) inner zeros []
    rw [rdp61Answer_accepted inner marks] at same
    exact level1Answer_oneMatch_ne initial.rdp61 valid.rdp61 known front (left.symm.trans same)

end Headers

section Packets

variable {flags : UInt8}

theorem flushed_independent (flush : hasFlag flags packetFlushed = true)
    (front : hasFlag flags packetAtFront = false)
    (type : flags &&& bulkTypeMask ≠ bulkTypeRdp61) (data : Bytes) :
    HistoryIndependent flags data := by
  intro s t reached reached' decoded
  have valid := bulk_reachable_valid reached
  have valid' := bulk_reachable_valid reached'
  have same8k := mppcDecompress_flushed valid.mppc8k valid'.mppc8k
    (valid.level8k.trans valid'.level8k.symm) flush data decoded
  have same64k := mppcDecompress_flushed valid.mppc64k valid'.mppc64k
    (valid.level64k.trans valid'.level64k.symm) flush data decoded
  have same6 := rdp6Decode_flushed valid.rdp6 valid'.rdp6 flush front data decoded
  simp only [packetAnswer, decompress, same8k, same64k, same6]
  split
  · rfl
  split
  · rfl
  split
  · cases mppcDecompress t.mppc8k flags data decoded <;> rfl
  split
  · cases mppcDecompress t.mppc64k flags data decoded <;> rfl
  split
  · cases rdp6Decode t.rdp6 flags data decoded <;> rfl
  · rfl

/-- Which flushed packets are answered alike in every state: all that RDP6.1 does not decode, all
    of one byte, and of the others exactly those whose own header restarts what it uses. -/
theorem flushed_independent_iff (flush : hasFlag flags packetFlushed = true)
    (front : hasFlag flags packetAtFront = false) :
    (∀ b, HistoryIndependent flags [b]) ∧
    ∀ h0 h1, (∀ rest, HistoryIndependent flags (h0 :: h1 :: rest)) ↔
      (flags &&& bulkTypeMask ≠ bulkTypeRdp61 ∨ RestartsItself h0 h1) := by
  by_cases type : flags &&& bulkTypeMask = bulkTypeRdp61
  · refine ⟨?_, ?_⟩
    · intro b s t reached reached' decoded
      rw [packetAnswer_rdp61 _ type flush, packetAnswer_rdp61 _ type flush]
      rfl
    · intro h0 h1
      constructor
      · intro independent
        by_contra neither
        obtain ⟨rest, dependent⟩ := not_restarts_dependent type flush
          (fun restarts => neither (.inr restarts))
        exact dependent (independent rest)
      · rintro (other | restarts) rest s t reached reached' decoded
        · exact absurd type other
        · have valid := bulk_reachable_valid reached
          have valid' := bulk_reachable_valid reached'
          rw [packetAnswer_rdp61 _ type flush, packetAnswer_rdp61 _ type flush]
          exact rdp61Answer_restarts valid.rdp61 valid'.rdp61 valid.rdp61Level2 valid'.rdp61Level2
            (valid.level2.trans valid'.level2.symm) restarts rest decoded
  · refine ⟨fun b => flushed_independent flush front type [b], ?_⟩
    intro h0 h1
    exact ⟨fun _ => .inl type, fun _ rest => flushed_independent flush front type _⟩

end Packets

/-- `AT_FRONT` in the level-1 header stands for the flush, a header without it does not. -/
theorem flushed_independent_iff_rdp61 :
    (∀ rest, HistoryIndependent 0xa3 (0x06 :: 0x00 :: rest)) ∧
      ¬ ∀ rest, HistoryIndependent 0xa3 (0x02 :: 0x00 :: rest) := by
  obtain ⟨-, headers⟩ := flushed_independent_iff (show hasFlag 0xa3 packetFlushed = true by decide)
    (by decide)
  refine ⟨(headers 0x06 0x00).mpr (.inr (.inr ⟨by decide, .inl (by decide)⟩)), ?_⟩
  intro independent
  rcases (headers 0x02 0x00).mp independent with other | invalid | ⟨front, -⟩
  · exact other (by decide)
  · exact absurd invalid (by decide)
  · exact absurd front (by decide)

/-- A flushed RDP6.1 packet that copies one history byte shows what an earlier packet left. -/
theorem flushed_rdp61_depends :
    packetAnswer decompressorInit 0xa3 (0x01 :: 0x00 :: oneMatch) [] = .ok (.ok, [0x00]) ∧
    (∃ answer d, bulkStep decompressorInit (.decompress 0x23 [0x02, 0x00, 0x61] []) =
        .ok (answer, d) ∧
      packetAnswer d 0xa3 (0x01 :: 0x00 :: oneMatch) [] = .ok (.ok, [0x61])) ∧
    ¬ HistoryIndependent 0xa3 (0x01 :: 0x00 :: oneMatch) := by
  have new : packetAnswer decompressorInit 0xa3 (0x01 :: 0x00 :: oneMatch) [] =
      .ok (.ok, [0x00]) := rfl
  have used : ∃ answer d, bulkStep decompressorInit (.decompress 0x23 [0x02, 0x00, 0x61] []) =
      .ok (answer, d) ∧ packetAnswer d 0xa3 (0x01 :: 0x00 :: oneMatch) [] = .ok (.ok, [0x61]) :=
    ⟨_, _, rfl, rfl⟩
  refine ⟨new, used, ?_⟩
  intro independent
  obtain ⟨answer, d, taken, used⟩ := used
  have same := independent decompressorInit d .init (.step .init taken) []
  cases (new.symm.trans same).trans used

end LibRdp.Bulk
