import LibRdp.Bulk.Bounds

/-! # Literals between matches

What a level-1 packet stands for: the literals fill the gaps between the matches in order, each
match is read from the history as it is by then, and what is left of the literals comes last. A
packet is accepted if and only if its records allow for that and all of it fits in the history.
-/

namespace LibRdp.Bulk

open Machine Coding Lz77

def writeAll (start : Window UInt8) (bytes : Bytes) : Window UInt8 := bytes.foldl Window.push start

/-- The bytes of a match behind `out`, each read after the one before it was written. -/
def matchBytes (start : Window UInt8) (out : Bytes) (index : Nat) : Nat → Bytes
  | 0 => []
  | length + 1 =>
      let value := (writeAll start out).memory.cell index
      value :: matchBytes start (out ++ [value]) (index + 1) length

/-- All that records and literals stand for, behind `out`. -/
def interleave (start : Window UInt8) : List MatchRecord → Bytes → Bytes → Bytes
  | [], out, literals => out ++ literals
  | record :: records, out, literals =>
      let gap := record.matchOutput - out.length
      let out := out ++ literals.take gap
      interleave start records
        (out ++ matchBytes start out record.historyOffset record.length) (literals.drop gap)

/-- The records from a place in the output on, where so many literals are left: each match has a
    byte, lies inside the history and begins no earlier than the last one ended, and there are
    literals for the gaps. -/
def MatchesPlaced : List MatchRecord → Nat → Nat → Prop
  | [], _, _ => True
  | record :: records, place, left =>
      1 ≤ record.length ∧ record.historyOffset + record.length ≤ rdp61HistorySize ∧
      place ≤ record.matchOutput ∧ record.matchOutput - place ≤ left ∧
      MatchesPlaced records (record.matchOutput + record.length)
        (left - (record.matchOutput - place))

def matchLengths (records : List MatchRecord) : Nat := (records.map MatchRecord.length).sum

/-- A function never faults, and succeeds with `final` if and only if a condition holds. -/
def Comes (result : Exec (Status × Rdp61Work)) (good : Prop) (final : Rdp61Work) : Prop :=
  ∃ status work, result = .ok (status, work) ∧ (good → status = .ok ∧ work = final) ∧
    (¬ good → status ≠ .ok)

variable {final : Rdp61Work} {good : Prop}

theorem Comes.success (here : good) : Comes (.ok (.ok, final)) good final :=
  ⟨_, _, rfl, fun _ => ⟨rfl, rfl⟩, fun bad => absurd here bad⟩

theorem Comes.failure {work : Rdp61Work} (bad : ¬ good) :
    Comes (.ok (.protocolError, work)) good final :=
  ⟨_, _, rfl, fun here => absurd here bad, fun _ => nofun⟩

def andThen (result : Exec (Status × Rdp61Work)) (f : Rdp61Work → Exec (Status × Rdp61Work)) :
    Exec (Status × Rdp61Work) := do
  let (status, work) ← result
  if status = .ok then f work else pure (status, work)

theorem Comes.andThen {result : Exec (Status × Rdp61Work)} {good good' : Prop}
    {middle final : Rdp61Work} {f : Rdp61Work → Exec (Status × Rdp61Work)}
    (first : Comes result good middle) (later : good → Comes (f middle) good' final) :
    Comes (andThen result f) (good ∧ good') final := by
  obtain ⟨status, work, rfl, done, failed⟩ := first
  by_cases here : good
  · obtain ⟨rfl, rfl⟩ := done here
    obtain ⟨status, work', ran, done', failed'⟩ := later here
    refine ⟨status, work', ?_, fun both => done' both.2, fun bad => failed' fun there => bad ⟨here, there⟩⟩
    rw [LibRdp.Bulk.andThen, ok_bind]
    exact (if_pos rfl).trans ran
  have stopped := failed here
  refine ⟨status, work, ?_, fun both => absurd both.1 here, fun _ => stopped⟩
  rw [LibRdp.Bulk.andThen, ok_bind]
  exact if_neg stopped

theorem Comes.congr {result : Exec (Status × Rdp61Work)} {good' : Prop}
    (comes : Comes result good final) (same : good ↔ good') : Comes result good' final :=
  propext same ▸ comes

theorem andThen_assoc (result : Exec (Status × Rdp61Work))
    (f g : Rdp61Work → Exec (Status × Rdp61Work)) :
    andThen (andThen result f) g = andThen result fun work => andThen (f work) g := by
  cases result with
  | error fault => rfl
  | ok pair =>
    obtain ⟨status, work⟩ := pair
    by_cases done : status = .ok
    · simp only [andThen, ok_bind, if_pos done]
    · simp only [andThen, ok_bind, if_neg done, pure_eq_ok]

/-- `RDP_BULK_RDP61_MATCH_SIZE` bytes of a record. -/
def recordBytes (record : MatchRecord) : Bytes :=
  u16LeBytes record.length ++ (u16LeBytes record.matchOutput ++ u32LeBytes record.historyOffset)

structure Rdp61Packet where
  flags : UInt8
  flags2 : UInt8
  records : List MatchRecord
  literals : Bytes
  few : records.length < 65536
  fit : ∀ record ∈ records, record.length < 65536 ∧ record.matchOutput < 65536 ∧
    record.historyOffset < 4294967296

def Rdp61Packet.payload (packet : Rdp61Packet) : Bytes :=
  u16LeBytes packet.records.length ++ (packet.records.flatMap recordBytes ++ packet.literals)

def Rdp61Packet.bytes (packet : Rdp61Packet) : Bytes :=
  packet.flags :: packet.flags2 :: packet.payload

section Level1

variable {start : Window UInt8} {decoded literals out : Bytes} {used : Nat}

/-- The work when `out` has been written behind `start`, with so many literals used. -/
def workAt (start : Window UInt8) (decoded out : Bytes) (used : Nat) : Rdp61Work :=
  ⟨rdp61Ready (writeAll start out), decoded ++ out, out.length, used⟩

theorem writeAll_snoc (start : Window UInt8) (out : Bytes) (value : UInt8) :
    writeAll start (out ++ [value]) = (writeAll start out).push value := by
  rw [writeAll, List.foldl_append]
  rfl

theorem writeAll_cursor (start : Window UInt8) (out : Bytes) :
    (writeAll start out).cursor = start.cursor + out.length := by
  induction out generalizing start with
  | nil => rfl
  | cons value out ih =>
    change (writeAll (start.push value) out).cursor = _
    rw [ih, Window.push_cursor, List.length_cons]
    omega

theorem writeAll_size (start : Window UInt8) (out : Bytes) :
    (writeAll start out).memory.size = start.memory.size := by
  induction out generalizing start with
  | nil => rfl
  | cons value out ih =>
    change (writeAll (start.push value) out).memory.size = _
    rw [ih, Window.push_size]

theorem matchBytes_length (start : Window UInt8) (out : Bytes) (index length : Nat) :
    (matchBytes start out index length).length = length := by
  induction length generalizing out index with
  | zero => rfl
  | succ length ih => rw [matchBytes, List.length_cons, ih]

theorem rdp61Emit_comes (size : start.memory.size = rdp61HistorySize)
    (room : start.cursor + out.length ≤ rdp61HistorySize) (value : UInt8) :
    Comes (rdp61Emit (workAt start decoded out used) value)
      (start.cursor + (out.length + 1) ≤ rdp61HistorySize)
      (workAt start decoded (out ++ [value]) used) := by
  have sized : Rdp61Sized (writeAll start out) :=
    ⟨(writeAll_size start out).trans size, (writeAll_cursor start out).symm ▸ room⟩
  have cursor := writeAll_cursor start out
  obtain ⟨full, ran⟩ | ⟨more, ran⟩ :=
    @rdp61Emit_cases (workAt start decoded out used) (writeAll start out) rfl sized value
  · rw [ran]
    exact .failure (by omega)
  · have same : (⟨rdp61Ready ((writeAll start out).push value),
        (workAt start decoded out used).decoded ++ [value],
        (workAt start decoded out used).outputOffset + 1,
        (workAt start decoded out used).literalOffset⟩ : Rdp61Work) =
        workAt start decoded (out ++ [value]) used := by
      rw [workAt, workAt, writeAll_snoc, List.length_append, ← List.append_assoc]
      rfl
    rw [ran, same]
    exact .success (by omega)

theorem rdp61LiteralLoop_comes (size : start.memory.size = rdp61HistorySize) {count : Nat}
    (room : start.cursor + out.length ≤ rdp61HistorySize)
    (enough : used + count ≤ literals.length) :
    Comes (rdp61LiteralLoop literals count (workAt start decoded out used))
      (start.cursor + (out.length + count) ≤ rdp61HistorySize)
      (workAt start decoded (out ++ (literals.drop used).take count) (used + count)) := by
  induction count generalizing out used with
  | zero =>
    rw [List.take_zero, List.append_nil]
    exact .success room
  | succ count ih =>
    have inside : used < literals.length := by omega
    have here : literals[(workAt start decoded out used).literalOffset]? =
        some literals[used] := List.getElem?_eq_getElem inside
    have first := @rdp61Emit_comes start decoded out used size room literals[used]
    have later (more : start.cursor + (out.length + 1) ≤ rdp61HistorySize) :=
      @ih (out ++ [literals[used]]) (used + 1) (by
        rw [List.length_append, List.length_singleton]
        exact more) (by omega)
    have step := @Comes.andThen _ _ _ _ _
      (fun work => rdp61LiteralLoop literals count
        { work with literalOffset := work.literalOffset + 1 }) first later
    have taken : out ++ (literals.drop used).take (count + 1) =
        out ++ [literals[used]] ++ (literals.drop (used + 1)).take count := by
      rw [List.drop_eq_getElem_cons inside, List.take_succ_cons, List.append_assoc]
      rfl
    have counted : used + (count + 1) = used + 1 + count := by omega
    rw [rdp61LiteralLoop, here, taken, counted]
    apply step.congr
    rw [List.length_append, List.length_singleton]
    omega

theorem rdp61EmitLiterals_comes (size : start.memory.size = rdp61HistorySize) {count : Nat}
    (room : start.cursor + out.length ≤ rdp61HistorySize) (inside : used ≤ literals.length) :
    Comes (rdp61EmitLiterals (workAt start decoded out used) literals count)
      (count ≤ literals.length - used ∧ start.cursor + (out.length + count) ≤ rdp61HistorySize)
      (workAt start decoded (out ++ (literals.drop used).take count) (used + count)) := by
  have outside : ¬ (workAt start decoded out used).literalOffset > literals.length :=
    Nat.not_lt.mpr inside
  have left : checkedSub literals.length (workAt start decoded out used).literalOffset =
      .ok (literals.length - used) := checkedSub_of_le inside
  rw [rdp61EmitLiterals, if_neg outside, left, ok_bind]
  by_cases few : count > literals.length - used
  · rw [if_pos few]
    exact .failure fun good => absurd good.1 (Nat.not_le.mpr few)
  rw [if_neg few]
  apply (rdp61LiteralLoop_comes size room (by omega)).congr
  omega

theorem rdp61MatchLoop_comes (size : start.memory.size = rdp61HistorySize) {count index : Nat}
    (room : start.cursor + out.length ≤ rdp61HistorySize)
    (inside : index + count ≤ rdp61HistorySize) :
    Comes (rdp61MatchLoop count index (workAt start decoded out used))
      (start.cursor + (out.length + count) ≤ rdp61HistorySize)
      (workAt start decoded (out ++ matchBytes start out index count) used) := by
  induction count generalizing out index with
  | zero =>
    rw [matchBytes, List.append_nil]
    exact .success room
  | succ count ih =>
    have loaded : (writeAll start out).memory.load index =
        .ok ((writeAll start out).memory.cell index) :=
      Memory.load_of_lt (by rw [writeAll_size, size]; omega)
    have first := @rdp61Emit_comes start decoded out used size room
      ((writeAll start out).memory.cell index)
    have step := first.andThen (f := rdp61MatchLoop count (index + 1)) fun more =>
      @ih (out ++ [(writeAll start out).memory.cell index]) (index + 1) (by
        rw [List.length_append, List.length_singleton]
        exact more) (by omega)
    have bytes : out ++ matchBytes start out index (count + 1) =
        out ++ [(writeAll start out).memory.cell index] ++
          matchBytes start (out ++ [(writeAll start out).memory.cell index]) (index + 1) count := by
      rw [matchBytes, List.append_assoc]
      rfl
    rw [bytes, rdp61MatchLoop]
    change Comes (do
      let value ← (writeAll start out).memory.load index
      let (status, work) ← rdp61Emit (workAt start decoded out used) value
      if status = .ok then rdp61MatchLoop count (index + 1) work else pure (status, work)) _ _
    rw [loaded, ok_bind]
    apply step.congr
    rw [List.length_append, List.length_singleton]
    omega

theorem rdp61EmitMatch_comes (size : start.memory.size = rdp61HistorySize)
    {historyOffset length : Nat} (room : start.cursor + out.length ≤ rdp61HistorySize) :
    Comes (rdp61EmitMatch (workAt start decoded out used) historyOffset length)
      ((1 ≤ length ∧ historyOffset + length ≤ rdp61HistorySize) ∧
        start.cursor + (out.length + length) ≤ rdp61HistorySize)
      (workAt start decoded (out ++ matchBytes start out historyOffset length) used) := by
  have allocated : ¬ (workAt start decoded out used).state.history.isNone = true := nofun
  rw [rdp61EmitMatch]
  split
  · rename_i refused
    apply Comes.failure
    rintro ⟨⟨some, inside⟩, -⟩
    obtain none | none | outside | outside := refused
    · exact allocated none
    · omega
    · omega
    · omega
  rename_i accepted
  rw [not_or, not_or, not_or] at accepted
  obtain ⟨-, some, -, inside⟩ := accepted
  apply (rdp61MatchLoop_comes size room (Nat.not_lt.mp inside)).congr
  omega

theorem rdp61Record_comes (size : start.memory.size = rdp61HistorySize)
    (room : start.cursor + out.length ≤ rdp61HistorySize) (inside : used ≤ literals.length)
    (record : MatchRecord) :
    Comes (rdp61Record literals record (workAt start decoded out used))
      (out.length ≤ record.matchOutput ∧
        record.matchOutput - out.length ≤ literals.length - used ∧
        (1 ≤ record.length ∧ record.historyOffset + record.length ≤ rdp61HistorySize) ∧
        start.cursor + (record.matchOutput + record.length) ≤ rdp61HistorySize)
      (workAt start decoded
        (out ++ (literals.drop used).take (record.matchOutput - out.length) ++
          matchBytes start (out ++ (literals.drop used).take (record.matchOutput - out.length))
            record.historyOffset record.length)
        (used + (record.matchOutput - out.length))) := by
  rw [rdp61Record]
  by_cases early : record.matchOutput < out.length
  · have before : record.matchOutput < (workAt start decoded out used).outputOffset := early
    rw [if_pos before]
    exact .failure fun good => absurd good.1 (Nat.not_le.mpr early)
  have gap : checkedSub record.matchOutput (workAt start decoded out used).outputOffset =
      .ok (record.matchOutput - out.length) := checkedSub_of_le (Nat.not_lt.mp early)
  have before : ¬ record.matchOutput < (workAt start decoded out used).outputOffset := early
  rw [if_neg before, gap, ok_bind]
  have first := @rdp61EmitLiterals_comes start decoded literals out used size
    (record.matchOutput - out.length) room inside
  have step := first.andThen
    (f := fun work => rdp61EmitMatch work record.historyOffset record.length) fun fits =>
    @rdp61EmitMatch_comes start decoded _ (used + (record.matchOutput - out.length)) size
      record.historyOffset record.length (by
        rw [List.length_append, List.length_take, List.length_drop]
        omega)
  apply step.congr
  rw [List.length_append, List.length_take, List.length_drop]
  omega

theorem readRecord_bytes {record : MatchRecord} (fit : record.length < 65536 ∧
    record.matchOutput < 65536 ∧ record.historyOffset < 4294967296) (rest : Bytes) :
    readRecord (recordBytes record ++ rest) = some (record, rest) := by
  simp only [recordBytes, u16LeBytes, u32LeBytes, List.cons_append, List.nil_append, readRecord,
    u16Le_bytes fit.1, u16Le_bytes fit.2.1, u32Le_bytes fit.2.2]

theorem rdp61Records_comes (size : start.memory.size = rdp61HistorySize)
    {records : List MatchRecord} {rest : Bytes}
    (fit : ∀ record ∈ records, record.length < 65536 ∧ record.matchOutput < 65536 ∧
      record.historyOffset < 4294967296)
    (room : start.cursor + out.length ≤ rdp61HistorySize) (inside : used ≤ literals.length) :
    Comes (andThen (rdp61RecordLoop literals records.length (records.flatMap recordBytes ++ rest)
        (workAt start decoded out used)) fun work => do
          let left ← checkedSub literals.length work.literalOffset
          rdp61EmitLiterals work literals left)
      (MatchesPlaced records out.length (literals.length - used) ∧
        start.cursor + (out.length + (literals.length - used) + matchLengths records) ≤
          rdp61HistorySize)
      (workAt start decoded (interleave start records out (literals.drop used)) literals.length) := by
  induction records generalizing out used with
  | nil =>
    have left : checkedSub literals.length (workAt start decoded out used).literalOffset =
        .ok (literals.length - used) := checkedSub_of_le inside
    have last := @rdp61EmitLiterals_comes start decoded literals out used size
      (literals.length - used) room inside
    rw [← List.length_drop, List.take_length, List.length_drop, Nat.add_sub_cancel' inside] at last
    change Comes (do
      let left ← checkedSub literals.length (workAt start decoded out used).literalOffset
      rdp61EmitLiterals (workAt start decoded out used) literals left) _ _
    rw [left, ok_bind]
    apply last.congr
    rw [MatchesPlaced, matchLengths, List.map_nil, List.sum_nil, Nat.add_zero]
    exact and_congr_left' (iff_true_intro (Nat.le_refl _))
  | cons record records ih =>
    rw [List.forall_mem_cons] at fit
    have first := @rdp61Record_comes start decoded literals out used size room inside record
    let gap := record.matchOutput - out.length
    let filled := out ++ (literals.drop used).take gap
    let matched := filled ++ matchBytes start filled record.historyOffset record.length
    have length (fits : out.length ≤ record.matchOutput ∧ gap ≤ literals.length - used) :
        matched.length = record.matchOutput + record.length := by
      rw [List.length_append, matchBytes_length, List.length_append, List.length_take,
        List.length_drop]
      omega
    have later (fits : out.length ≤ record.matchOutput ∧ gap ≤ literals.length - used ∧
        (1 ≤ record.length ∧ record.historyOffset + record.length ≤ rdp61HistorySize) ∧
        start.cursor + (record.matchOutput + record.length) ≤ rdp61HistorySize) :=
      @ih matched (used + gap) fit.2 (by
        rw [length ⟨fits.1, fits.2.1⟩]
        exact fits.2.2.2) (by omega)
    have step := @Comes.andThen _ _ _ _ _ (fun work =>
      andThen (rdp61RecordLoop literals records.length (records.flatMap recordBytes ++ rest) work)
        fun work => do
          let left ← checkedSub literals.length work.literalOffset
          rdp61EmitLiterals work literals left) first later
    rw [List.flatMap_cons, List.append_assoc, List.length_cons, rdp61RecordLoop,
      readRecord_bytes fit.1]
    change Comes (andThen (andThen (rdp61Record literals record (workAt start decoded out used))
      fun work => rdp61RecordLoop literals records.length (records.flatMap recordBytes ++ rest) work)
      _) _ _
    rw [andThen_assoc, interleave, List.drop_drop]
    apply step.congr
    have sum : matchLengths (record :: records) = record.length + matchLengths records := rfl
    have left : literals.length - (used + gap) = literals.length - used - gap := Nat.sub_add_eq ..
    rw [MatchesPlaced, sum, left]
    constructor
    · rintro ⟨⟨after, enough, match', -⟩, placed, fits⟩
      rw [length ⟨after, enough⟩] at placed fits
      exact ⟨⟨match'.1, match'.2, after, enough, placed⟩, by omega⟩
    · rintro ⟨⟨some, inside', after, enough, placed⟩, fits⟩
      rw [length ⟨after, enough⟩]
      exact ⟨⟨after, enough, ⟨some, inside'⟩, by omega⟩, placed, by omega⟩

end Level1

/-- A packet that is compressed in one of the ways that the decoder knows, has records, has them
    and the literals fit together, and comes to no more than the history has room for. -/
structure Rdp61Packet.WellFormed (packet : Rdp61Packet) (start : Window UInt8) : Prop where
  known : packet.flags &&& ~~~l1KnownMask = 0
  compressed : hasFlag packet.flags l1Compressed = true
  matched : hasFlag packet.flags l1NoCompression = false
  some : packet.records ≠ []
  placed : MatchesPlaced packet.records 0 packet.literals.length
  room : start.cursor + (packet.literals.length + matchLengths packet.records) ≤ rdp61HistorySize

theorem interleave_length {start : Window UInt8} {records : List MatchRecord}
    {out literals : Bytes} (placed : MatchesPlaced records out.length literals.length) :
    (interleave start records out literals).length =
      out.length + literals.length + matchLengths records := by
  induction records generalizing out literals with
  | nil => rw [interleave, List.length_append]; rfl
  | cons record records ih =>
    obtain ⟨-, -, after, enough, placed⟩ := placed
    have length : (out ++ literals.take (record.matchOutput - out.length) ++
        matchBytes start (out ++ literals.take (record.matchOutput - out.length))
          record.historyOffset record.length).length = record.matchOutput + record.length := by
      rw [List.length_append, matchBytes_length, List.length_append, List.length_take]
      omega
    have sum : matchLengths (record :: records) = record.length + matchLengths records := rfl
    rw [interleave, ih (by rw [length, List.length_drop]; exact placed), length,
      List.length_drop, sum]
    omega

theorem recordBytes_all_length (records : List MatchRecord) :
    (records.flatMap recordBytes).length = 8 * records.length := by
  induction records with
  | nil => rfl
  | cons record records ih =>
    rw [List.flatMap_cons, List.length_append, ih, List.length_cons]
    change 8 + 8 * records.length = _
    omega

theorem Rdp61Packet.payload_length (packet : Rdp61Packet) :
    packet.payload.length = 2 + 8 * packet.records.length + packet.literals.length := by
  rw [Rdp61Packet.payload, List.length_append, List.length_append, recordBytes_all_length,
    u16LeBytes_length]
  omega

theorem Rdp61Packet.payload_literals (packet : Rdp61Packet) :
    packet.payload.drop (2 + 8 * packet.records.length) = packet.literals := by
  have details : packet.payload.drop 2 = packet.records.flatMap recordBytes ++ packet.literals := rfl
  rw [← List.drop_drop, details, ← recordBytes_all_length, List.drop_left]

theorem rdp61Payload_packet {start : Window UInt8} (sized : Rdp61Sized start)
    (packet : Rdp61Packet) (compressed : hasFlag packet.flags l1NoCompression = false)
    (decoded : Bytes) :
    let out := interleave start packet.records [] packet.literals
    let good := packet.records ≠ [] ∧ MatchesPlaced packet.records 0 packet.literals.length ∧
      start.cursor + (packet.literals.length + matchLengths packet.records) ≤ rdp61HistorySize
    ∃ status state' decoded',
      rdp61Payload (rdp61Ready start) packet.flags packet.payload decoded =
        .ok (status, state', decoded') ∧
      (good → status = .ok ∧ state' = rdp61Ready (writeAll start out) ∧
        decoded' = decoded ++ out) ∧
      (¬ good → status ≠ .ok) := by
  intro out good
  have count := u16Le_bytes packet.few
  have opened : packet.payload = UInt8.ofNat packet.records.length ::
      UInt8.ofNat (packet.records.length / 256) ::
        (packet.records.flatMap recordBytes ++ packet.literals) := rfl
  have plain : ¬ hasFlag packet.flags l1NoCompression = true := by
    rw [compressed]
    exact Bool.false_ne_true
  rw [opened, rdp61Payload, if_neg plain]
  simp only [count]
  by_cases none : packet.records = []
  · have refused : packet.records.length = 0 := by rw [none]; rfl
    rw [if_pos (.inl refused)]
    exact ⟨_, _, _, rfl, fun whole => absurd none whole.1, fun _ => by decide⟩
  have enough : ¬ (packet.records.length = 0 ∨ 2 + 8 * packet.records.length >
      packet.payload.length) := by
    rw [List.length_eq_zero_iff, packet.payload_length]
    rintro (absent | short)
    · exact none absent
    · omega
  have room : start.cursor + ([] : Bytes).length ≤ rdp61HistorySize := sized.bounded
  obtain ⟨status, work, ran, done, failed⟩ := @rdp61Records_comes start decoded packet.literals []
    0 sized.size packet.records packet.literals packet.fit room (Nat.zero_le _)
  rw [List.length_nil, Nat.zero_add, Nat.sub_zero] at done failed
  have records : rdp61Records ⟨rdp61Ready start, decoded, 0, 0⟩ packet.records.length
      packet.payload = .ok (status, work) := by
    have same : (⟨rdp61Ready start, decoded, 0, 0⟩ : Rdp61Work) = workAt start decoded [] 0 := by
      rw [workAt, List.append_nil]
      rfl
    rw [rdp61Records, packet.payload_literals, same]
    exact ran
  rw [← opened, if_neg enough, records]
  by_cases fits : MatchesPlaced packet.records 0 packet.literals.length ∧
      start.cursor + (packet.literals.length + matchLengths packet.records) ≤ rdp61HistorySize
  · obtain ⟨rfl, rfl⟩ := done fits
    exact ⟨_, _, _, rfl, fun _ => ⟨rfl, rfl, rfl⟩, fun bad => absurd ⟨none, fits⟩ bad⟩
  · have stopped := failed fits
    change ∃ status' state' decoded', Except.ok (if status = .ok then _ else _) = _ ∧ _
    rw [if_neg stopped]
    exact ⟨_, _, _, rfl, fun whole => absurd whole.2 fits, fun _ => stopped⟩

theorem rdp61DecompressLevel1_packet {state : Rdp61State} (valid : state.Valid)
    (packet : Rdp61Packet) (compressed : hasFlag packet.flags l1Compressed = true)
    (decoded : Bytes) :
    let start := rdp61Open state.window packet.flags
    let out := interleave start packet.records [] packet.literals
    ∃ status state' decoded',
      rdp61DecompressLevel1 state packet.bytes decoded = .ok (status, state', decoded') ∧
      (packet.WellFormed start →
        status = .ok ∧ state' = rdp61Ready (writeAll start out) ∧ decoded' = decoded ++ out) ∧
      (¬ packet.WellFormed start → status ≠ .ok) := by
  intro start out
  have either : hasFlag packet.flags (l1Compressed ||| l1NoCompression) = true := by
    unfold hasFlag at compressed ⊢
    rw [bne_iff_ne] at compressed ⊢
    intro none
    have both : packet.flags &&& l1Compressed =
        (packet.flags &&& (l1Compressed ||| l1NoCompression)) &&& l1Compressed := by
      rw [UInt8.and_assoc]
      rfl
    rw [both, none] at compressed
    exact compressed rfl
  rw [Rdp61Packet.bytes, rdp61DecompressLevel1_eq valid]
  by_cases invalid : l1FlagsInvalid packet.flags = true
  · rw [if_pos invalid]
    refine ⟨_, _, _, rfl, fun whole => ?_, fun _ => nofun⟩
    simp [l1FlagsInvalid, whole.known, whole.matched, either] at invalid
  rw [if_neg invalid]
  have flags : packet.flags &&& ~~~l1KnownMask = 0 ∧
      hasFlag packet.flags l1NoCompression = false := by
    simpa [l1FlagsInvalid, compressed, either] using invalid
  obtain ⟨status, state', decoded', ran, done, failed⟩ :=
    rdp61Payload_packet (rdp61Open_sized valid.sized packet.flags) packet flags.2 decoded
  refine ⟨status, state', decoded', ran, fun whole => done ⟨whole.some, whole.placed, whole.room⟩,
    fun bad => failed fun good => bad ?_⟩
  exact ⟨flags.1, compressed, flags.2, good.1, good.2.1, good.2.2⟩

theorem writeAll_window (start : Window UInt8) (out : Bytes) :
    (rdp61Ready (writeAll start out)).window = writeAll start out := rdp61Ready_window _

/-- In every run of the decompressor: what an accepted packet appends is the interleaving of its
    literals and matches, the history moves by exactly that, and well-formed packets are accepted. -/
theorem rdp61_interleaves {d : Decompressor} (reached : Reachable bulkStep decompressorInit d)
    (packet : Rdp61Packet) (compressed : hasFlag packet.flags l1Compressed = true)
    (decoded : Bytes) :
    let start := rdp61Open d.rdp61.window packet.flags
    let out := interleave start packet.records [] packet.literals
    (∀ state' decoded',
      rdp61DecompressLevel1 d.rdp61 packet.bytes decoded = .ok (.ok, state', decoded') →
      decoded' = decoded ++ out ∧
      out.length = packet.literals.length + matchLengths packet.records ∧
      state'.window = writeAll start out ∧ state'.window.cursor = start.cursor + out.length) ∧
    (packet.WellFormed start →
      ∃ state' decoded',
        rdp61DecompressLevel1 d.rdp61 packet.bytes decoded = .ok (.ok, state', decoded')) := by
  intro start out
  have valid := (bulk_reachable_valid reached).rdp61
  obtain ⟨status, after, appended, ran, done, failed⟩ :=
    rdp61DecompressLevel1_packet valid packet compressed decoded
  constructor
  · intro state' decoded' accepted
    rw [ran] at accepted
    cases accepted
    have whole : packet.WellFormed start := by
      by_contra bad
      exact failed bad rfl
    obtain ⟨-, rfl, rfl⟩ := done whole
    have length : out.length = packet.literals.length + matchLengths packet.records := by
      have placed := @interleave_length start packet.records [] packet.literals whole.placed
      rwa [List.length_nil, Nat.zero_add] at placed
    have window := writeAll_window start out
    refine ⟨rfl, length, window, ?_⟩
    rw [window, writeAll_cursor]
  · intro whole
    obtain ⟨rfl, -, -⟩ := done whole
    exact ⟨after, appended, ran⟩

/-- One literal, and a match of two bytes that reads it and then itself. -/
def overlapPacket (flags : UInt8) : Rdp61Packet where
  flags := flags
  flags2 := 0
  records := [⟨2, 1, 0⟩]
  literals := [0x61]
  few := by decide
  fit := by
    intro record here
    rw [List.mem_singleton] at here
    subst here
    decide

theorem rdp61_interleaves_overlap :
    hasFlag (overlapPacket 0x01).flags l1Compressed = true ∧
    ∃ state', rdp61DecompressLevel1 decompressorInit.rdp61 (overlapPacket 0x01).bytes [] =
      .ok (.ok, state', [0x61, 0x61, 0x61]) := by
  have flagged : hasFlag (overlapPacket 0x01).flags l1Compressed = true := by decide
  have spelled := rdp61_interleaves .init (overlapPacket 0x01) flagged []
  have whole : (overlapPacket 0x01).WellFormed
      (rdp61Open decompressorInit.rdp61.window (overlapPacket 0x01).flags) :=
    ⟨by decide, flagged, by decide, nofun, ⟨by decide, by decide, by decide, by decide, trivial⟩,
      by decide⟩
  obtain ⟨state', decoded', ran⟩ := spelled.2 whole
  obtain ⟨rfl, -, -, -⟩ := spelled.1 _ _ ran
  exact ⟨flagged, state', ran⟩

/-- All else being well-formed, a flag outside of `RDP_BULK_RDP61_L1_KNOWN_MASK` is refused. -/
theorem rdp61_unknown_flag_refused :
    let packet := overlapPacket 0x09
    let start := rdp61Open decompressorInit.rdp61.window packet.flags
    Reachable bulkStep decompressorInit decompressorInit ∧
    hasFlag packet.flags l1Compressed = true ∧ hasFlag packet.flags l1NoCompression = false ∧
    packet.records ≠ [] ∧ MatchesPlaced packet.records 0 packet.literals.length ∧
    start.cursor + (packet.literals.length + matchLengths packet.records) ≤ rdp61HistorySize ∧
    ∃ state', rdp61DecompressLevel1 decompressorInit.rdp61 packet.bytes [] =
      .ok (.protocolError, state', []) :=
  ⟨.init, by decide, by decide, nofun, ⟨by decide, by decide, by decide, by decide, trivial⟩,
    by decide, _, rfl⟩

end LibRdp.Bulk
