import LibRdp.Bulk.Rdp61
import LibRdp.Bulk.MppcRoundTrip

/-! # What the RDP6.1 decompressor computes

An allocated level-1 state is a write window over its history. Every level-1
function keeps the window inside its array and the literal offset inside the
literals; a packet whose first step cannot emit a byte is refused and leaves
everything as it was.
-/

namespace LibRdp.Bulk

open Machine Coding Lz77

def rdp61Ready (w : Window UInt8) : Rdp61State := ⟨some w.memory, w.cursor⟩

def Rdp61State.window (state : Rdp61State) : Window UInt8 :=
  ⟨state.history.getD (Memory.filled rdp61HistorySize 0), state.writeOffset⟩

@[simp] theorem rdp61Ready_window (w : Window UInt8) : (rdp61Ready w).window = w := rfl

structure Rdp61Sized (w : Window UInt8) : Prop where
  size : w.memory.size = rdp61HistorySize
  bounded : w.cursor ≤ rdp61HistorySize

/-- What `rdp_bulk_rdp61_state_init` sets up and every later call keeps. -/
structure Rdp61State.Valid (state : Rdp61State) : Prop where
  allocated : ∀ history, state.history = some history → history.size = rdp61HistorySize
  bounded : state.writeOffset ≤ rdp61HistorySize

def rdp61Fresh : Window UInt8 := ⟨Memory.filled rdp61HistorySize 0, 0⟩

theorem rdp61Fresh_sized : Rdp61Sized rdp61Fresh := ⟨rfl, Nat.zero_le _⟩

variable {w : Window UInt8} {state : Rdp61State}

theorem Rdp61Sized.ready (sized : Rdp61Sized w) : (rdp61Ready w).Valid where
  allocated history stored := by
    cases stored
    exact sized.size
  bounded := sized.bounded

theorem Rdp61State.Valid.sized (valid : state.Valid) :
    Rdp61Sized state.window where
  size := by
    cases stored : state.history with
    | none => simp [Rdp61State.window, stored]
    | some history => simpa [Rdp61State.window, stored] using valid.allocated history stored
  bounded := valid.bounded

@[simp] theorem rdp61StateEnsure_eq (state : Rdp61State) :
    rdp61StateEnsure state = rdp61Ready state.window := by
  obtain ⟨history, writeOffset⟩ := state
  cases history <;> rfl

structure Rdp61Work.Sound (literals : Bytes) (work : Rdp61Work) : Prop where
  window : ∃ w, work.state = rdp61Ready w ∧ Rdp61Sized w
  offset : work.literalOffset ≤ literals.length

def Keeps (literals : Bytes) (result : Exec (Status × Rdp61Work)) : Prop :=
  ∃ status work, result = .ok (status, work) ∧ work.Sound literals

section Bounds

variable {literals : Bytes} {work : Rdp61Work}

theorem Keeps.andThen {result : Exec (Status × Rdp61Work)} (first : Keeps literals result)
    {f : Rdp61Work → Exec (Status × Rdp61Work)}
    (later : ∀ work : Rdp61Work, work.Sound literals → Keeps literals (f work)) :
    Keeps literals (do
      let (status, work) ← result
      if status = .ok then f work else pure (status, work)) := by
  obtain ⟨status, work, rfl, sound⟩ := first
  by_cases done : status = .ok
  · simpa [done] using later work sound
  · exact ⟨status, work, by simp [done], sound⟩

theorem rdp61Emit_cases {w : Window UInt8} (ready : work.state = rdp61Ready w)
    (sized : Rdp61Sized w) (value : UInt8) :
    (w.cursor = rdp61HistorySize ∧ rdp61Emit work value = .ok (.protocolError, work)) ∨
    (w.cursor < rdp61HistorySize ∧ rdp61Emit work value = .ok (.ok,
      ⟨rdp61Ready (w.push value), work.decoded ++ [value], work.outputOffset + 1,
        work.literalOffset⟩)) := by
  obtain ⟨state, decoded, outputOffset, literalOffset⟩ := work
  simp only at ready
  subst ready
  have size := sized.size
  have bounded := sized.bounded
  by_cases full : w.cursor = rdp61HistorySize
  · exact .inl ⟨full, by simp [rdp61Emit, rdp61Ready, full]⟩
  have room : w.cursor < rdp61HistorySize := by omega
  have stored := Memory.store_of_lt (m := w.memory) (a := value)
    (show w.cursor < w.memory.size by omega)
  refine .inr ⟨room, ?_⟩
  simp [rdp61Emit, rdp61Ready, Nat.not_le.mpr room, stored, Window.push]

variable (sound : work.Sound literals)
include sound

theorem rdp61Emit_keeps (value : UInt8) :
    ∃ status work', rdp61Emit work value = .ok (status, work') ∧ work'.Sound literals ∧
      work'.literalOffset = work.literalOffset := by
  obtain ⟨⟨w, ready, sized⟩, offset⟩ := sound
  rcases rdp61Emit_cases ready sized value with ⟨-, ran⟩ | ⟨room, ran⟩
  · exact ⟨_, _, ran, ⟨⟨w, ready, sized⟩, offset⟩, rfl⟩
  · exact ⟨_, _, ran, ⟨⟨_, rfl, sized.size, room⟩, offset⟩, rfl⟩

theorem rdp61LiteralLoop_keeps (count : Nat)
    (enough : work.literalOffset + count ≤ literals.length) :
    Keeps literals (rdp61LiteralLoop literals count work) := by
  induction count generalizing work with
  | zero => exact ⟨.ok, work, rfl, sound⟩
  | succ count ih =>
    obtain ⟨value, here⟩ : ∃ value, literals[work.literalOffset]? = some value :=
      ⟨_, List.getElem?_eq_getElem (show work.literalOffset < literals.length by omega)⟩
    obtain ⟨status, work', ran, sound', same⟩ := rdp61Emit_keeps sound value
    by_cases done : status = .ok
    · have later := @ih { work' with literalOffset := work'.literalOffset + 1 }
        ⟨sound'.window, by simp only; omega⟩ (by simp only; omega)
      simpa [rdp61LiteralLoop, here, ran, done] using later
    · exact ⟨status, work', by simp [rdp61LiteralLoop, here, ran, done], sound'⟩

theorem rdp61EmitLiterals_keeps (count : Nat) :
    Keeps literals (rdp61EmitLiterals work literals count) := by
  have offset := sound.offset
  by_cases few : count > literals.length - work.literalOffset
  · exact ⟨.protocolError, work, by
      simp [rdp61EmitLiterals, Nat.not_lt.mpr offset, checkedSub_of_le offset, few], sound⟩
  · have loop := rdp61LiteralLoop_keeps sound count (by omega)
    simpa [rdp61EmitLiterals, Nat.not_lt.mpr offset, checkedSub_of_le offset, few] using loop

theorem rdp61MatchLoop_keeps (count index : Nat) (inside : index + count ≤ rdp61HistorySize) :
    Keeps literals (rdp61MatchLoop count index work) := by
  induction count generalizing work index with
  | zero => exact ⟨.ok, work, rfl, sound⟩
  | succ count ih =>
    obtain ⟨w, ready, sized⟩ := sound.window
    have size := sized.size
    have loaded := Memory.load_of_lt (show index < w.memory.size by omega)
    obtain ⟨status, work', ran, sound', -⟩ := rdp61Emit_keeps sound (w.memory.cell index)
    have first : Keeps literals (rdp61Emit work (w.memory.cell index)) :=
      ⟨status, work', ran, sound'⟩
    have step := first.andThen (f := rdp61MatchLoop count (index + 1))
      (fun work sound => ih sound (index + 1) (by omega))
    simpa [rdp61MatchLoop, ready, rdp61Ready, loaded] using step

theorem rdp61EmitMatch_keeps (historyOffset length : Nat) :
    Keeps literals (rdp61EmitMatch work historyOffset length) := by
  simp only [rdp61EmitMatch]
  split
  · exact ⟨.protocolError, work, rfl, sound⟩
  · exact rdp61MatchLoop_keeps sound length historyOffset (by omega)

theorem rdp61Record_keeps (record : MatchRecord) :
    Keeps literals (rdp61Record literals record work) := by
  simp only [rdp61Record]
  split
  · exact ⟨.protocolError, work, rfl, sound⟩
  next forward =>
    rw [checkedSub_of_le (Nat.le_of_not_lt forward), ok_bind]
    exact (rdp61EmitLiterals_keeps sound _).andThen
      (fun work sound => rdp61EmitMatch_keeps sound _ _)

variable {details : Bytes}

omit sound in
private theorem readRecord_of_length (long : 8 ≤ details.length) :
    ∃ record, readRecord details = some (record, details.drop 8) := by
  obtain _ | ⟨b0, _ | ⟨b1, _ | ⟨b2, _ | ⟨b3, _ | ⟨b4, _ | ⟨b5, _ | ⟨b6, _ | ⟨b7, rest⟩⟩⟩⟩⟩⟩⟩⟩ := details
  all_goals try (simp at long; done)
  exact ⟨_, rfl⟩

theorem rdp61RecordLoop_keeps (count : Nat) (long : 8 * count ≤ details.length) :
    Keeps literals (rdp61RecordLoop literals count details work) := by
  induction count generalizing work details with
  | zero => exact ⟨.ok, work, rfl, sound⟩
  | succ count ih =>
    obtain ⟨record, read⟩ := readRecord_of_length (show 8 ≤ details.length by omega)
    simp only [rdp61RecordLoop, read]
    refine (rdp61Record_keeps sound record).andThen ?_
    intro work sound
    exact ih sound (by rw [List.length_drop]; omega)

omit sound

theorem rdp61Records_keeps {matchCount : Nat} {payload : Bytes}
    (sound : work.Sound (payload.drop (2 + 8 * matchCount)))
    (long : 2 + 8 * matchCount ≤ payload.length) :
    Keeps (payload.drop (2 + 8 * matchCount)) (rdp61Records work matchCount payload) := by
  have details : 8 * matchCount ≤ (payload.drop 2).length := by
    rw [List.length_drop]
    omega
  have rest : ∀ work : Rdp61Work, work.Sound (payload.drop (2 + 8 * matchCount)) →
      Keeps (payload.drop (2 + 8 * matchCount)) (do
        let left ← checkedSub (payload.drop (2 + 8 * matchCount)).length work.literalOffset
        rdp61EmitLiterals work (payload.drop (2 + 8 * matchCount)) left) := by
    intro work sound
    rw [checkedSub_of_le sound.offset, ok_bind]
    exact rdp61EmitLiterals_keeps sound _
  exact (rdp61RecordLoop_keeps sound matchCount details).andThen rest

end Bounds

/-- The window after the level-1 header's `AT_FRONT` bit. -/
def rdp61Open (w : Window UInt8) (flags : UInt8) : Window UInt8 :=
  if hasFlag flags l1PacketAtFront then rdp61Fresh else w

theorem rdp61Open_sized (sized : Rdp61Sized w) (flags : UInt8) :
    Rdp61Sized (rdp61Open w flags) := by
  simp only [rdp61Open]
  split
  · exact rdp61Fresh_sized
  · exact sized

theorem rdp61Payload_keeps (sized : Rdp61Sized w) (flags : UInt8) (payload decoded : Bytes) :
    ∃ status w' decoded', rdp61Payload (rdp61Ready w) flags payload decoded =
      .ok (status, rdp61Ready w', decoded') ∧ Rdp61Sized w' := by
  have done : ∀ (literals : Bytes) result, Keeps literals result →
      ∃ status w' decoded', (result.map (fun (status, (work : Rdp61Work)) =>
        if status = .ok then (status, work.state, work.decoded)
        else (status, { work.state with writeOffset := (rdp61Ready w).writeOffset }, work.decoded))) =
        .ok (status, rdp61Ready w', decoded') ∧ Rdp61Sized w' := by
    rintro literals result ⟨status, work, rfl, ⟨w', ready, sized'⟩, -⟩
    by_cases good : status = .ok
    · exact ⟨status, w', work.decoded, by simp [Except.map, good, ready], sized'⟩
    refine ⟨status, ⟨w'.memory, w.cursor⟩, work.decoded, ?_, sized'.size, sized.bounded⟩
    simp [Except.map, good, ready]
    rfl
  have sound : ∀ literals : Bytes, Rdp61Work.Sound literals ⟨rdp61Ready w, decoded, 0, 0⟩ :=
    fun literals => ⟨⟨w, rfl, sized⟩, Nat.zero_le _⟩
  simp only [rdp61Payload]
  split
  · exact done _ _ (rdp61EmitLiterals_keeps (sound payload) _)
  split
  · next b0 b1 rest =>
      split
      · exact ⟨_, w, _, rfl, sized⟩
      · next some_ =>
          exact done _ _ (rdp61Records_keeps (sound _) (by omega))
  · exact ⟨_, w, _, rfl, sized⟩

theorem rdp61DecompressLevel1_eq (valid : state.Valid) (flags flags2 : UInt8)
    (payload decoded : Bytes) :
    rdp61DecompressLevel1 state (flags :: flags2 :: payload) decoded =
      if l1FlagsInvalid flags then .ok (.protocolError, rdp61Ready state.window, decoded)
      else rdp61Payload (rdp61Ready (rdp61Open state.window flags)) flags payload decoded := by
  have cleared := Memory.fill_all (m := state.window.memory) 0 valid.sized.size
  have reset : rdp61StateReset (rdp61Ready state.window) true = .ok (rdp61Ready rdp61Fresh) := by
    simp [rdp61StateReset, rdp61Ready, cleared, rdp61Fresh]
  cases front : hasFlag flags l1PacketAtFront <;>
    simp [rdp61DecompressLevel1, rdp61Open, front, reset]

theorem rdp61DecompressLevel1_keeps (valid : state.Valid) (data decoded : Bytes) :
    ∃ status state' decoded', rdp61DecompressLevel1 state data decoded =
      .ok (status, state', decoded') ∧ state'.Valid := by
  obtain _ | ⟨flags, _ | ⟨flags2, payload⟩⟩ := data
  · exact ⟨_, state, _, rfl, valid⟩
  · exact ⟨_, state, _, rfl, valid⟩
  · rw [rdp61DecompressLevel1_eq valid]
    split
    · exact ⟨_, _, _, rfl, valid.sized.ready⟩
    obtain ⟨status, w, decoded', ran, sized⟩ :=
      rdp61Payload_keeps (rdp61Open_sized valid.sized flags) flags payload decoded
    exact ⟨status, _, decoded', ran, sized.ready⟩

theorem rdp61StateReset_valid (valid : state.Valid) (clear : Bool) :
    ∃ state', rdp61StateReset state clear = .ok state' ∧ state'.Valid := by
  obtain ⟨history, writeOffset⟩ := state
  cases clear with
  | false => exact ⟨⟨history, 0⟩, by cases history <;> rfl, valid.allocated, Nat.zero_le _⟩
  | true =>
    cases history with
    | none => exact ⟨⟨none, 0⟩, rfl, valid.allocated, Nat.zero_le _⟩
    | some history =>
      have cleared := Memory.fill_all (m := history) 0 (valid.allocated history rfl)
      exact ⟨rdp61Ready rdp61Fresh, by simp [rdp61StateReset, cleared, rdp61Ready, rdp61Fresh],
        rdp61Fresh_sized.ready⟩

theorem rdp61Decompress_keeps {level2 : MppcState} (valid : state.Valid) (valid2 : level2.Valid)
    (data decoded : Bytes) :
    ∃ status state' level2' decoded', rdp61Decompress state level2 data decoded =
      .ok (status, state', level2', decoded') ∧ state'.Valid ∧ level2'.Valid ∧
        level2'.level = level2.level := by
  obtain _ | ⟨flags, _ | ⟨flags2, packed⟩⟩ := data
  · exact ⟨_, state, level2, _, rfl, valid, valid2, rfl⟩
  · exact ⟨_, state, level2, _, rfl, valid, valid2, rfl⟩
  · cases inner : hasFlag flags l1InnerCompression with
    | false =>
      obtain ⟨status, state', decoded', ran, valid'⟩ :=
        rdp61DecompressLevel1_keeps valid (flags :: flags2 :: packed) decoded
      exact ⟨status, state', level2, decoded', by simp [rdp61Decompress, inner, ran], valid',
        valid2, rfl⟩
    | true =>
      obtain ⟨status, level2', bytes, ran, valid2', same⟩ :=
        mppcDecompress_valid valid2 flags2 packed [flags, flags2]
      by_cases done : status = .ok
      · obtain ⟨status', state', decoded', ran', valid'⟩ :=
          rdp61DecompressLevel1_keeps valid bytes decoded
        exact ⟨status', state', level2', decoded', by simp [rdp61Decompress, inner, ran, done, ran'],
          valid', valid2', same⟩
      · exact ⟨status, state, level2', decoded, by simp [rdp61Decompress, inner, ran, done], valid,
          valid2', same⟩

/-- The first record asks for more literals than there are, or starts with a match that does not
    lie inside the history. -/
def FirstRecordBad (details literals : Bytes) : Prop :=
  ∃ record rest, readRecord details = some (record, rest) ∧
    (literals.length < record.matchOutput ∨ (record.matchOutput = 0 ∧
      (record.length = 0 ∨ rdp61HistorySize < record.historyOffset + record.length)))

def PayloadBad : Bytes → Prop
  | b0 :: b1 :: details =>
      u16Le b0 b1 = 0 ∨ (details.length < 8 * u16Le b0 b1) ∨
        FirstRecordBad details (details.drop (8 * u16Le b0 b1))
  | _ => True

/-- The history is full, or the payload is refused before its first byte. -/
def Rdp61Stuck (w : Window UInt8) (flags : UInt8) (payload : Bytes) : Prop :=
  w.cursor = rdp61HistorySize ∨ (hasFlag flags l1NoCompression = false ∧ PayloadBad payload)

section Stuck

variable {w : Window UInt8} {work : Rdp61Work} {literals : Bytes}

theorem rdp61Emit_full (ready : work.state = rdp61Ready w) (full : w.cursor = rdp61HistorySize)
    (value : UInt8) : rdp61Emit work value = .ok (.protocolError, work) := by
  simp [rdp61Emit, ready, rdp61Ready, full]

theorem rdp61EmitLiterals_zero (start : work.literalOffset = 0) :
    rdp61EmitLiterals work literals 0 = .ok (.ok, work) := by
  simp [rdp61EmitLiterals, start, checkedSub, rdp61LiteralLoop]

variable {count : Nat}

theorem rdp61EmitLiterals_many (start : work.literalOffset = 0) (many : literals.length < count) :
    rdp61EmitLiterals work literals count = .ok (.protocolError, work) := by
  simp [rdp61EmitLiterals, start, checkedSub, many]

theorem rdp61EmitLiterals_full (ready : work.state = rdp61Ready w)
    (full : w.cursor = rdp61HistorySize) (start : work.literalOffset = 0) (some_ : 0 < count) :
    rdp61EmitLiterals work literals count = .ok (.protocolError, work) := by
  by_cases few : literals.length < count
  · exact rdp61EmitLiterals_many start few
  obtain ⟨n, rfl⟩ : ∃ n, count = n + 1 := ⟨count - 1, by omega⟩
  obtain ⟨value, here⟩ : ∃ value, literals[0]? = some value :=
    ⟨_, List.getElem?_eq_getElem (show 0 < literals.length by omega)⟩
  have loop : rdp61LiteralLoop literals (n + 1) work = .ok (.protocolError, work) := by
    simp [rdp61LiteralLoop, start, here, rdp61Emit_full ready full]
  simp [rdp61EmitLiterals, start, checkedSub, loop]

theorem rdp61EmitMatch_full (ready : work.state = rdp61Ready w) (sized : Rdp61Sized w)
    (full : w.cursor = rdp61HistorySize) (historyOffset length : Nat) :
    rdp61EmitMatch work historyOffset length = .ok (.protocolError, work) := by
  simp only [rdp61EmitMatch]
  split
  · rfl
  next guard =>
    obtain ⟨n, rfl⟩ : ∃ n, length = n + 1 := ⟨length - 1, by omega⟩
    have inside : historyOffset < w.memory.size := by
      rw [sized.size]
      omega
    simp [rdp61MatchLoop, ready, rdp61Ready, Memory.load_of_lt inside, rdp61Emit_full ready full]

theorem rdp61Record_stuck (ready : work.state = rdp61Ready w) (sized : Rdp61Sized w)
    (output : work.outputOffset = 0) (start : work.literalOffset = 0) (record : MatchRecord)
    (stuck : w.cursor = rdp61HistorySize ∨ literals.length < record.matchOutput ∨
      (record.matchOutput = 0 ∧
        (record.length = 0 ∨ rdp61HistorySize < record.historyOffset + record.length))) :
    rdp61Record literals record work = .ok (.protocolError, work) := by
  have gap : checkedSub record.matchOutput work.outputOffset = .ok record.matchOutput := by
    rw [output]
    exact checkedSub_of_le (Nat.zero_le _)
  have forward : ¬ record.matchOutput < work.outputOffset := by omega
  rcases stuck with full | many | ⟨none_, outside⟩
  · by_cases none_ : record.matchOutput = 0
    · simp [rdp61Record, output, none_, checkedSub, rdp61EmitLiterals_zero start,
        rdp61EmitMatch_full ready sized full]
    · simp [rdp61Record, forward, gap,
        rdp61EmitLiterals_full ready full start (Nat.pos_of_ne_zero none_)]
  · simp [rdp61Record, forward, gap, rdp61EmitLiterals_many start many]
  · have refused : rdp61EmitMatch work record.historyOffset record.length =
        .ok (.protocolError, work) := if_pos (by omega)
    simp [rdp61Record, output, none_, checkedSub, rdp61EmitLiterals_zero start, refused]

theorem rdp61Payload_stuck (sized : Rdp61Sized w) {flags : UInt8} {payload : Bytes}
    (stuck : Rdp61Stuck w flags payload) (decoded : Bytes) :
    ∃ status, rdp61Payload (rdp61Ready w) flags payload decoded =
      .ok (status, rdp61Ready w, decoded) ∧
      (status = .ok ∨ status = .protocolError) ∧ (status = .ok → payload = []) := by
  cases plain : hasFlag flags l1NoCompression with
  | true =>
    have full : w.cursor = rdp61HistorySize := by
      rcases stuck with full | ⟨compressed, -⟩
      · exact full
      · rw [plain] at compressed
        cases compressed
    cases payload with
    | nil =>
      refine ⟨.ok, ?_, .inl rfl, fun _ => rfl⟩
      simp [rdp61Payload, plain, rdp61EmitLiterals, checkedSub, rdp61LiteralLoop, Except.map]
    | cons b payload =>
      have refused : rdp61EmitLiterals ⟨rdp61Ready w, decoded, 0, 0⟩ (b :: payload)
          (payload.length + 1) = .ok (.protocolError, ⟨rdp61Ready w, decoded, 0, 0⟩) :=
        rdp61EmitLiterals_full rfl full rfl (Nat.succ_pos payload.length)
      refine ⟨.protocolError, ?_, .inr rfl, fun h => by cases h⟩
      simp only [rdp61Payload, plain, if_true, List.length_cons, refused]
      rfl
  | false =>
    refine ⟨.protocolError, ?_, .inr rfl, fun h => by cases h⟩
    obtain _ | ⟨b0, _ | ⟨b1, details⟩⟩ := payload
    · simp [rdp61Payload, plain]
    · simp [rdp61Payload, plain]
    · by_cases short : u16Le b0 b1 = 0 ∨ details.length < 8 * u16Le b0 b1
      · have guard : u16Le b0 b1 = 0 ∨
            2 + 8 * u16Le b0 b1 > (b0 :: b1 :: details).length := by
          simp only [List.length_cons]
          omega
        simp only [rdp61Payload, plain, guard, if_true]
        rfl
      · obtain ⟨n, count⟩ : ∃ n, u16Le b0 b1 = n + 1 := ⟨u16Le b0 b1 - 1, by omega⟩
        obtain ⟨record, read⟩ := readRecord_of_length (show 8 ≤ details.length by omega)
        have refused : rdp61Record (details.drop (8 * u16Le b0 b1)) record
            ⟨rdp61Ready w, decoded, 0, 0⟩ = .ok (.protocolError, ⟨rdp61Ready w, decoded, 0, 0⟩) := by
          refine rdp61Record_stuck rfl sized rfl rfl record ?_
          rcases stuck with full | ⟨-, zero | few | ⟨record', rest, read', bad⟩⟩
          · exact .inl full
          · exact absurd (.inl zero) short
          · exact absurd (.inr few) short
          · rw [read] at read'
            cases read'
            exact .inr bad
        have guard : ¬ (u16Le b0 b1 = 0 ∨
            2 + 8 * u16Le b0 b1 > (b0 :: b1 :: details).length) := by
          simp only [List.length_cons]
          omega
        have literals : (b0 :: b1 :: details).drop (2 + 8 * u16Le b0 b1) =
            details.drop (8 * u16Le b0 b1) := by
          rw [Nat.add_comm]
          rfl
        have records : rdp61Records ⟨rdp61Ready w, decoded, 0, 0⟩ (u16Le b0 b1)
            (b0 :: b1 :: details) = .ok (.protocolError, ⟨rdp61Ready w, decoded, 0, 0⟩) := by
          simp only [rdp61Records, literals]
          rw [count] at refused ⊢
          simp [rdp61RecordLoop, read, refused]
        simp only [rdp61Payload, plain, guard, records]
        rfl

end Stuck

end LibRdp.Bulk
