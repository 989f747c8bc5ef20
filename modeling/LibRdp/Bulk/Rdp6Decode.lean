import LibRdp.Bulk.Rdp6Tokens
import LibRdp.Coding.Lz77

/-! # What the RDP6 decompressor computes

Once the tables are built, a state is a write window over the history and the
offset cache. `rdp6Apply` is the effect of one token on these two; the decoding
loop applies the tokens the packet spells, up to the end mark or to the first
one it cannot read or apply.
-/

namespace LibRdp.Bulk

open Machine Coding Lz77

structure Rdp6Core where
  window : Window UInt8
  cache : List Nat

def Rdp6State.core (state : Rdp6State) : Rdp6Core :=
  ⟨⟨state.history, state.writeOffset⟩, state.offsetCache⟩

def rdp6Ready (core : Rdp6Core) : Rdp6State :=
  ⟨core.window.memory, core.window.cursor, core.cache, rdp6LecTable, rdp6LomTable, true⟩

@[simp] theorem rdp6Ready_history (core : Rdp6Core) :
    (rdp6Ready core).history = core.window.memory := rfl
@[simp] theorem rdp6Ready_writeOffset (core : Rdp6Core) :
    (rdp6Ready core).writeOffset = core.window.cursor := rfl
@[simp] theorem rdp6Ready_offsetCache (core : Rdp6Core) :
    (rdp6Ready core).offsetCache = core.cache := rfl
@[simp] theorem rdp6Ready_literalOffset (core : Rdp6Core) :
    (rdp6Ready core).literalOffset = rdp6LecTable := rfl

@[simp] theorem rdp6Ready_core (core : Rdp6Core) : (rdp6Ready core).core = core := rfl

theorem rdp6Ready_prepared (core : Rdp6Core) : (rdp6Ready core).Prepared := ⟨rfl, rfl, rfl⟩

structure Rdp6Core.Sized (core : Rdp6Core) : Prop where
  size : core.window.memory.size = 65536
  bounded : core.window.cursor ≤ 65535
  last : core.window.memory.cell 65535 = 0
  slots : core.cache.length = 4
  offsets : ∀ offset ∈ core.cache, offset ≤ 65535

/-- The effect of a copy; `none` when the code refuses it. -/
def rdp6CopyWindow (w : Window UInt8) (offset length : Nat) : Option (Window UInt8) :=
  if offset ≠ 0 ∧ 2 ≤ length ∧ length ≤ 65535 - w.cursor then
    some (w.copy (rdp6Source w.cursor offset) length)
  else none

def cacheAfter (cache : List Nat) : Rdp6Token → List Nat
  | .literal _ => cache
  | .newMatch offset _ => cachePush cache offset
  | .repeatMatch slot _ => cacheSwap cache slot

def rdp6Write (cache : List Nat) (w : Window UInt8) : Rdp6Token → Option (Window UInt8)
  | .literal b => if w.cursor < 65535 then some (w.push b) else none
  | .newMatch offset length => rdp6CopyWindow w offset length
  | .repeatMatch slot length => rdp6CopyWindow w (cache.getD slot 0) length

def rdp6Apply (core : Rdp6Core) (t : Rdp6Token) : Option Rdp6Core :=
  (rdp6Write core.cache core.window t).map (fun w => ⟨w, cacheAfter core.cache t⟩)

def rdp6ApplyAll (core : Rdp6Core) : List Rdp6Token → Option Rdp6Core
  | [] => some core
  | t :: tokens => (rdp6Apply core t).bind (fun core => rdp6ApplyAll core tokens)

/-! ## Writing -/

section Writing

variable {w : Window UInt8}

theorem rdp6Emit_ready (cache : List Nat) (size : w.memory.size = 65536) (b : UInt8) :
    rdp6Emit (rdp6Ready ⟨w, cache⟩) b =
      if w.cursor < 65535 then .ok (.ok, rdp6Ready ⟨w.push b, cache⟩)
      else .ok (.protocolError, rdp6Ready ⟨w, cache⟩) := by
  by_cases room : w.cursor < 65535
  · have stored := Memory.store_of_lt (m := w.memory) (a := b) (show w.cursor < w.memory.size by omega)
    rw [if_pos room]
    simp [rdp6Emit, rdp6HistorySize, Nat.not_le.mpr room, stored]
    rfl
  · rw [if_neg room]
    simp [rdp6Emit, rdp6HistorySize, Nat.le_of_not_lt room]

theorem rdp6CopyLoop_ready (cache : List Nat) {source n : Nat} (size : w.memory.size = 65536)
    (inside : source < 65536) (room : w.cursor + n ≤ 65535) :
    rdp6CopyLoop n source (rdp6Ready ⟨w, cache⟩) =
      .ok (.ok, rdp6Ready ⟨w.copy source n, cache⟩) := by
  induction n generalizing w source with
  | zero => rfl
  | succ n ih =>
    have loaded := Memory.load_of_lt (show source < w.memory.size by omega)
    have emitted := rdp6Emit_ready cache size (w.memory.cell source)
    rw [if_pos (by omega)] at emitted
    have step : next w.memory.size source = (source + 1) % 65536 := by
      rw [size, next]
      split <;> omega
    have later := ih (show (w.push (w.memory.cell source)).memory.size = 65536 from size)
      (show (source + 1) % 65536 < 65536 by omega) (by rw [Window.push_cursor]; omega)
    simp only [rdp6CopyLoop, rdp6Ready_history, loaded, ok_bind, emitted, if_pos, later,
      Window.copy, step]

theorem rdp6Source_lt (cursor offset : Nat) : rdp6Source cursor offset < 65536 := by
  simp only [rdp6Source]
  omega

theorem rdp6Copy_ready (cache : List Nat) (size : w.memory.size = 65536) (bounded : w.cursor ≤ 65535)
    (offset length : Nat) :
    rdp6Copy (rdp6Ready ⟨w, cache⟩) offset length =
      match rdp6CopyWindow w offset length with
      | some w' => .ok (.ok, rdp6Ready ⟨w', cache⟩)
      | none => .ok (.protocolError, rdp6Ready ⟨w, cache⟩) := by
  by_cases guard : offset = 0 ∨ length < 2
  · rw [rdp6CopyWindow, if_neg (by omega)]
    rw [rdp6Copy, if_pos guard]
  have first : checkedSub rdp6HistorySize w.cursor = .ok (65536 - w.cursor) :=
    checkedSub_of_le (by rw [rdp6HistorySize]; omega)
  have second : checkedSub (65536 - w.cursor) 1 = .ok (65535 - w.cursor) := by
    rw [checkedSub_of_le (by omega)]
    congr 1
    omega
  by_cases fits : length ≤ 65535 - w.cursor
  · have copied := rdp6CopyLoop_ready (n := length) cache size (rdp6Source_lt w.cursor offset)
      (by omega)
    rw [rdp6CopyWindow, if_pos (by omega)]
    rw [rdp6Copy, if_neg guard]
    simp [first, second, Nat.not_lt.mpr fits, copied]
  rw [rdp6CopyWindow, if_neg (by omega)]
  rw [rdp6Copy, if_neg guard]
  simp [first, second, Nat.not_le.mp fits]

end Writing

/-! ## One iteration of the decoding loop -/

/-- How an iteration ends that has read a token: it goes on when the token can be applied. -/
def rdp6Outcome (core : Rdp6Core) (t : Rdp6Token) (reader : Rdp6BitReader) :
    Option Status × Rdp6State × Rdp6BitReader :=
  match rdp6Write core.cache core.window t with
  | some w => (none, rdp6Ready ⟨w, cacheAfter core.cache t⟩, reader)
  | none => (some .protocolError, rdp6Ready ⟨core.window, cacheAfter core.cache t⟩, reader)

variable {reader : Rdp6BitReader} {cache : List Nat} {t : Rdp6Token} {bits : List Bool}
  {tokens : List Rdp6Token}

private theorem rdp6Match_read {core : Rdp6Core} (sized : core.Sized) {reader' : Rdp6BitReader}
    {length offset : Nat}
    (read : rdp6ReadMatchLength (rdp6Ready core) reader = .ok (.ok (length, reader'))) :
    rdp6Match (rdp6Ready core) reader offset cache = .ok
      (match rdp6CopyWindow core.window offset length with
      | some w => (none, rdp6Ready ⟨w, cache⟩, reader')
      | none => (some .protocolError, rdp6Ready ⟨core.window, cache⟩, reader')) := by
  have copied := rdp6Copy_ready cache sized.size sized.bounded offset length
  have same : ({ rdp6Ready core with offsetCache := cache } : Rdp6State) =
    rdp6Ready ⟨core.window, cache⟩ := rfl
  simp only [rdp6Match, read, ok_bind, same, copied]
  cases rdp6CopyWindow core.window offset length with
  | none => rfl
  | some w => rfl

theorem rdp6LecLengths_length : rdp6LecLengths.length = 294 := by decide +kernel

section Dispatch

variable {core : Rdp6Core} {reader reader₁ : Rdp6BitReader} {s : Nat}

private theorem decodeToken_literal (sized : core.Sized) (isLiteral : s < 256)
    (ran : rdp6DecodeSymbol reader rdp6LecTable rdp6LecTableBits = .ok (.ok (s, reader₁))) :
    rdp6DecodeToken (rdp6Ready core) reader =
      .ok (rdp6Outcome core (.literal (UInt8.ofNat s)) reader₁) := by
  have emitted := rdp6Emit_ready core.cache sized.size (UInt8.ofNat s)
  by_cases room : core.window.cursor < 65535
  · rw [if_pos room] at emitted
    simp [rdp6DecodeToken, ran, isLiteral, emitted, rdp6Outcome, rdp6Write, cacheAfter, room]
  · rw [if_neg room] at emitted
    simp [rdp6DecodeToken, ran, isLiteral, emitted, rdp6Outcome, rdp6Write, cacheAfter, room]

private theorem decodeToken_end
    (ran : rdp6DecodeSymbol reader rdp6LecTable rdp6LecTableBits = .ok (.ok (256, reader₁))) :
    rdp6DecodeToken (rdp6Ready core) reader = .ok (some .ok, rdp6Ready core, reader₁) := by
  simp [rdp6DecodeToken, ran]

private theorem decodeToken_newMatch {index : Nat} (known : index < 32)
    (ran : rdp6DecodeSymbol reader rdp6LecTable rdp6LecTableBits =
      .ok (.ok (257 + index, reader₁))) :
    rdp6DecodeToken (rdp6Ready core) reader =
      match rdp6ReaderRead reader₁ (rdp6CopyOffsetBits.getD index 0) with
      | .error status => .ok (some status, rdp6Ready core, reader₁)
      | .ok (extra, reader₂) =>
        rdp6Match (rdp6Ready core) reader₂ (rdp6CopyOffsetBase.getD index 0 + extra - 1)
          (cachePush core.cache (rdp6CopyOffsetBase.getD index 0 + extra - 1)) := by
  simp only [rdp6DecodeToken, rdp6Ready_literalOffset, ran, ok_bind]
  rw [if_neg (by omega), if_neg (by omega), if_pos (by omega), Nat.add_sub_cancel_left]
  rfl

private theorem decodeToken_repeatMatch {slot : Nat} (known : slot < 4)
    (ran : rdp6DecodeSymbol reader rdp6LecTable rdp6LecTableBits =
      .ok (.ok (289 + slot, reader₁))) :
    rdp6DecodeToken (rdp6Ready core) reader = rdp6Match (rdp6Ready core) reader₁
      (core.cache.getD slot 0) (cacheSwap core.cache slot) := by
  simp only [rdp6DecodeToken, rdp6Ready_literalOffset, ran, ok_bind]
  rw [if_neg (by omega), if_neg (by omega), if_neg (by omega), if_pos (by omega),
    Nat.add_sub_cancel_left]
  rfl

private theorem decodeToken_unknown (unknown : 292 < s)
    (ran : rdp6DecodeSymbol reader rdp6LecTable rdp6LecTableBits = .ok (.ok (s, reader₁))) :
    rdp6DecodeToken (rdp6Ready core) reader =
      .ok (some .protocolError, rdp6Ready core, reader₁) := by
  simp only [rdp6DecodeToken, rdp6Ready_literalOffset, ran, ok_bind]
  rw [if_neg (by omega), if_neg (by omega), if_neg (by omega), if_neg (by omega)]
  rfl

end Dispatch

theorem rdp6DecodeToken_cases (clean : reader.Clean) :
    (∃ t bits reader', t.Spelled bits ∧ reader'.Clean ∧ reader.stream = bits ++ reader'.stream ∧
      ∀ core : Rdp6Core, core.Sized →
        rdp6DecodeToken (rdp6Ready core) reader = .ok (rdp6Outcome core t reader')) ∨
    (∃ reader', reader.stream = lecCode 256 ++ reader'.stream ∧ ∀ core : Rdp6Core,
      rdp6DecodeToken (rdp6Ready core) reader = .ok (some .ok, rdp6Ready core, reader')) ∨
    ∃ reader', ∀ core : Rdp6Core, rdp6DecodeToken (rdp6Ready core) reader =
      .ok (some .protocolError, rdp6Ready core, reader') := by
  have read := decodeSymbol_eq rdp6LecTable_isPrefixTable rdp6Lec_complete (by decide) clean
  split at read
  · obtain ⟨s, reader₁, ran, symbol, clean₁, spelled₁⟩ := read
    rw [rdp6LecLengths_length] at symbol
    obtain isLiteral | rfl | ⟨index, rfl, known⟩ | ⟨slot, rfl, known⟩ | unknown :
        s < 256 ∨ s = 256 ∨ (∃ index, s = 257 + index ∧ index < 32) ∨
          (∃ slot, s = 289 + slot ∧ slot < 4) ∨ 292 < s := by
      rcases Nat.lt_or_ge s 257 with low | high
      · omega
      · rcases Nat.lt_or_ge s 289 with new | old
        · exact .inr (.inr (.inl ⟨s - 257, by omega, by omega⟩))
        · rcases Nat.lt_or_ge s 293 with slot | unknown
          · exact .inr (.inr (.inr (.inl ⟨s - 289, by omega, by omega⟩)))
          · omega
    · have value : (UInt8.ofNat s).toNat = s := UInt8.toNat_ofNat_of_lt' isLiteral
      refine .inl ⟨.literal (UInt8.ofNat s), lecCode (UInt8.ofNat s).toNat, reader₁, .literal _,
        clean₁, by rw [value]; exact spelled₁, ?_⟩
      intro core sized
      exact decodeToken_literal sized isLiteral ran
    · exact .inr (.inl ⟨reader₁, spelled₁, fun core => decodeToken_end ran⟩)
    · have extra := readerRead_eq clean₁ (copyOffsetBits_le index)
      split at extra
      · obtain ⟨v, reader₂, ran₂, clean₂, low, spelled₂⟩ := extra
        rcases readMatchLength_cases clean₂ with
          ⟨length, bits, reader₃, isLength, clean₃, spelled₃, read⟩ | refused
        · refine .inl ⟨_, _, reader₃, .newMatch known low isLength, clean₃, ?_, ?_⟩
          · rw [spelled₁, spelled₂, spelled₃]
            simp only [List.append_assoc, lecCode]
          · intro core sized
            rw [decodeToken_newMatch known ran, ran₂]
            exact rdp6Match_read sized (read _ (rdp6Ready_prepared core))
        · refine .inr (.inr ⟨reader₂, ?_⟩)
          intro core
          rw [decodeToken_newMatch known ran, ran₂]
          simp [rdp6Match, refused _ (rdp6Ready_prepared core)]
      · refine .inr (.inr ⟨reader₁, ?_⟩)
        intro core
        rw [decodeToken_newMatch known ran, extra]
    · rcases readMatchLength_cases clean₁ with
        ⟨length, bits, reader₂, isLength, clean₂, spelled₂, read⟩ | refused
      · refine .inl ⟨_, _, reader₂, .repeatMatch known isLength, clean₂, ?_, ?_⟩
        · rw [spelled₁, spelled₂]
          simp only [List.append_assoc, lecCode]
        · intro core sized
          rw [decodeToken_repeatMatch known ran]
          exact rdp6Match_read sized (read _ (rdp6Ready_prepared core))
      · refine .inr (.inr ⟨reader₁, ?_⟩)
        intro core
        rw [decodeToken_repeatMatch known ran]
        simp [rdp6Match, refused _ (rdp6Ready_prepared core)]
    · exact .inr (.inr ⟨reader₁, fun core => decodeToken_unknown unknown ran⟩)
  · refine .inr (.inr ⟨reader, ?_⟩)
    intro core
    simp [rdp6DecodeToken, read]

variable {core' : Rdp6Core}

theorem rdp6DecodeToken_code (clean : reader.Clean) {rest : List Bool} (isToken : t.Spelled bits)
    (spelled : reader.stream = bits ++ rest) (ahead : rdp6LecTableBits ≤ rest.length) :
    ∃ reader', reader'.Clean ∧ reader'.stream = rest ∧ ∀ core : Rdp6Core, core.Sized →
      rdp6DecodeToken (rdp6Ready core) reader = .ok (rdp6Outcome core t reader') := by
  have enough : rdp6LecTableBits ≤ reader.stream.length := by
    rw [spelled, List.length_append]
    omega
  cases isToken with
  | literal b =>
    have listed : b.toNat < rdp6LecLengths.length := by
      have := b.toNat_lt
      rw [rdp6LecLengths_length]
      omega
    obtain ⟨reader₁, ran, clean₁, left₁⟩ := decodeSymbol_code rdp6LecTable_isPrefixTable
      rdp6Lec_complete (by decide) clean listed spelled enough
    refine ⟨reader₁, clean₁, left₁, ?_⟩
    intro core sized
    have read := decodeToken_literal sized b.toNat_lt ran
    rwa [UInt8.ofNat_toNat] at read
  | @newMatch index extra length bits known low isLength =>
    have listed : 257 + index < rdp6LecLengths.length := by
      have : index < 32 := known
      rw [rdp6LecLengths_length]
      omega
    simp only [List.append_assoc] at spelled
    obtain ⟨reader₁, ran, clean₁, left₁⟩ := decodeSymbol_code rdp6LecTable_isPrefixTable
      rdp6Lec_complete (by decide) clean listed spelled enough
    obtain ⟨reader₂, ran₂, clean₂, left₂⟩ :=
      readerRead_code clean₁ (copyOffsetBits_le index) low left₁
    obtain ⟨reader₃, clean₃, left₃, read⟩ := readMatchLength_code clean₂ isLength left₂
      (Nat.le_trans (by decide) ahead)
    refine ⟨reader₃, clean₃, left₃, ?_⟩
    intro core sized
    rw [decodeToken_newMatch known ran, ran₂]
    exact rdp6Match_read sized (read _ (rdp6Ready_prepared core))
  | @repeatMatch slot length bits known isLength =>
    have listed : 289 + slot < rdp6LecLengths.length := by
      rw [rdp6LecLengths_length]
      omega
    simp only [List.append_assoc] at spelled
    obtain ⟨reader₁, ran, clean₁, left₁⟩ := decodeSymbol_code rdp6LecTable_isPrefixTable
      rdp6Lec_complete (by decide) clean listed spelled enough
    obtain ⟨reader₂, clean₂, left₂, read⟩ := readMatchLength_code clean₁ isLength left₁
      (Nat.le_trans (by decide) ahead)
    refine ⟨reader₂, clean₂, left₂, ?_⟩
    intro core sized
    rw [decodeToken_repeatMatch known ran]
    exact rdp6Match_read sized (read _ (rdp6Ready_prepared core))

/-! ## What tokens keep -/

def Rdp6Token.InRange : Rdp6Token → Prop
  | .literal _ => True
  | .newMatch offset _ => offset ≤ 65535
  | .repeatMatch slot _ => slot < 4

theorem Rdp6Token.Spelled.inRange (isToken : t.Spelled bits) : t.InRange := by
  cases isToken with
  | literal b => trivial
  | @newMatch index extra length bits known low isLength =>
    have widest : ∀ i < 32, rdp6CopyOffsetBase.getD i 0 + 2 ^ rdp6CopyOffsetBits.getD i 0 ≤ 65537 := by
      decide
    have := widest index known
    simp only [Rdp6Token.InRange]
    omega
  | repeatMatch known isLength => exact known

theorem Rdp6Token.Spelled.positive (isToken : t.Spelled bits) : 0 < bits.length := by
  have code : ∀ s < 294, 0 < (lecCode s).length := by
    intro s listed
    rw [lecCode, symbolCode, codeBits, msb_length]
    exact rdp6Lec_complete.low s (by rw [rdp6LecLengths_length]; exact listed)
  cases isToken with
  | literal b => exact code _ (b.toNat_lt.trans (by decide))
  | @newMatch index extra length bits known low isLength =>
    have := code (257 + index) (by have : index < 32 := known; omega)
    rw [List.length_append]
    omega
  | @repeatMatch slot length bits known isLength =>
    have := code (289 + slot) (by omega)
    rw [List.length_append]
    omega

theorem cachePush_eq (slots : cache.length = 4) (offset : Nat) :
    cachePush cache offset = offset :: cache.take 3 := by
  obtain _ | ⟨a, _ | ⟨b, _ | ⟨c, _ | ⟨d, _ | ⟨e, rest⟩⟩⟩⟩⟩ := cache
  all_goals simp at slots
  rfl

theorem cacheAfter_slots (slots : cache.length = 4) (t : Rdp6Token) :
    (cacheAfter cache t).length = 4 := by
  cases t with
  | literal b => exact slots
  | newMatch offset length => simp [cacheAfter, cachePush, slots]
  | repeatMatch slot length => simp [cacheAfter, cacheSwap, slots]

theorem cacheAfter_offsets (slots : cache.length = 4) (offsets : ∀ offset ∈ cache, offset ≤ 65535)
    (inRange : t.InRange) : ∀ offset ∈ cacheAfter cache t, offset ≤ 65535 := by
  have stored : ∀ i, cache.getD i 0 ≤ 65535 := by
    intro i
    by_cases inside : i < cache.length
    · rw [List.getD_eq_getElem?_getD, List.getElem?_eq_getElem inside]
      exact offsets _ (List.getElem_mem inside)
    · simp [List.getElem?_eq_none (Nat.le_of_not_lt inside)]
  cases t with
  | literal b => exact offsets
  | newMatch offset length =>
    intro o member
    rw [cacheAfter, cachePush_eq slots] at member
    rcases List.mem_cons.mp member with rfl | old
    · exact inRange
    · exact offsets o (List.mem_of_mem_take old)
  | repeatMatch slot length =>
    intro o member
    simp only [cacheAfter, cacheSwap] at member
    rcases List.mem_or_eq_of_mem_set member with member | rfl
    · rcases List.mem_or_eq_of_mem_set member with member | rfl
      · exact offsets o member
      · exact stored 0
    · exact stored slot

theorem rdp6Write_eq {w w' : Window UInt8} (done : rdp6Write cache w t = some w') :
    (∃ b, w.cursor < 65535 ∧ w' = w.push b) ∨
      ∃ source n, w.cursor + n ≤ 65535 ∧ w' = w.copy source n := by
  have copied : ∀ offset length, rdp6CopyWindow w offset length = some w' →
      ∃ source n, w.cursor + n ≤ 65535 ∧ w' = w.copy source n := by
    intro offset length done
    simp only [rdp6CopyWindow, Option.ite_none_right_eq_some, Option.some.injEq] at done
    obtain ⟨⟨-, long, fits⟩, rfl⟩ := done
    exact ⟨_, length, by omega, rfl⟩
  cases t with
  | literal b =>
    simp only [rdp6Write, Option.ite_none_right_eq_some, Option.some.injEq] at done
    exact .inl ⟨b, done.1, done.2.symm⟩
  | newMatch offset length => exact .inr (copied _ _ done)
  | repeatMatch slot length => exact .inr (copied _ _ done)

variable {core : Rdp6Core}

theorem rdp6Apply_sized (sized : core.Sized) (inRange : t.InRange)
    (done : rdp6Apply core t = some core') : core'.Sized := by
  obtain ⟨w, written, rfl⟩ := Option.map_eq_some_iff.mp done
  have slots := cacheAfter_slots sized.slots t
  have offsets := cacheAfter_offsets sized.slots sized.offsets inRange
  rcases rdp6Write_eq written with ⟨b, room, rfl⟩ | ⟨source, n, room, rfl⟩
  · refine ⟨sized.size, room, ?_, slots, offsets⟩
    simp only
    rw [Window.push_cell_of_ne _ _ (by omega), sized.last]
  · refine ⟨by simpa using sized.size, by simpa using room, ?_, slots, offsets⟩
    simp only
    rw [Window.copy_cell_of_outside _ _ _ (by omega), sized.last]

theorem SpelledAll.inRange (spelled : SpelledAll tokens bits) : ∀ t ∈ tokens, t.InRange := by
  induction spelled with
  | nil => simp
  | cons isToken _ ih =>
    intro t member
    rcases List.mem_cons.mp member with rfl | member
    · exact isToken.inRange
    · exact ih t member

theorem rdp6ApplyAll_sized (sized : core.Sized)
    (inRange : ∀ t ∈ tokens, t.InRange) (done : rdp6ApplyAll core tokens = some core') :
    core'.Sized := by
  induction tokens generalizing core with
  | nil =>
    cases done
    exact sized
  | cons t tokens ih =>
    obtain ⟨core₁, first, rest⟩ := Option.bind_eq_some_iff.mp done
    exact ih (rdp6Apply_sized sized (inRange t (List.mem_cons_self ..)) first)
      (fun u member => inRange u (List.mem_cons_of_mem _ member)) rest

theorem rdp6ApplyAll_cursor (done : rdp6ApplyAll core tokens = some core') :
    core.window.cursor ≤ core'.window.cursor := by
  induction tokens generalizing core with
  | nil =>
    cases done
    exact Nat.le_refl _
  | cons t tokens ih =>
    obtain ⟨core₁, first, rest⟩ := Option.bind_eq_some_iff.mp done
    obtain ⟨w, written, rfl⟩ := Option.map_eq_some_iff.mp first
    have later := ih rest
    rcases rdp6Write_eq written with ⟨b, -, rfl⟩ | ⟨source, n, -, rfl⟩
    · simp only [Window.push_cursor] at later
      omega
    · simp only [Window.copy_cursor] at later
      omega

/-! ## The whole loop -/

theorem rdp6DecodeLoop_cases {fuel : Nat} (sized : core.Sized)
    (clean : reader.Clean) (enough : reader.stream.length < fuel) :
    ∃ tokens bits rest core', SpelledAll tokens bits ∧ reader.stream = bits ++ rest ∧
      rdp6ApplyAll core tokens = some core' ∧
      (((∃ tail, rest = lecCode 256 ++ tail) ∧
          rdp6DecodeLoop fuel (rdp6Ready core) reader = .ok (.ok, rdp6Ready core')) ∨
        ∃ cache, rdp6DecodeLoop fuel (rdp6Ready core) reader =
          .ok (.protocolError, rdp6Ready ⟨core'.window, cache⟩)) := by
  induction fuel generalizing core reader with
  | zero => omega
  | succ fuel ih =>
    rcases rdp6DecodeToken_cases clean with
      ⟨t, bits, reader₁, isToken, clean₁, spelled, ran⟩ | ⟨reader₁, spelled, ran⟩ | ⟨reader₁, ran⟩
    · have ran := ran core sized
      cases written : rdp6Write core.cache core.window t with
      | none =>
        refine ⟨[], [], reader.stream, core, .nil, rfl, rfl, .inr ⟨cacheAfter core.cache t, ?_⟩⟩
        simp [rdp6DecodeLoop, ran, rdp6Outcome, written]
      | some w =>
        have applied : rdp6Apply core t = some ⟨w, cacheAfter core.cache t⟩ := by
          simp [rdp6Apply, written]
        have shorter : reader₁.stream.length < fuel := by
          have := isToken.positive
          rw [spelled, List.length_append] at enough
          omega
        obtain ⟨tokens, bits', rest, core', all, spelled', applied', outcome⟩ :=
          ih (rdp6Apply_sized sized isToken.inRange applied) clean₁ shorter
        refine ⟨t :: tokens, bits ++ bits', rest, core', .cons isToken all, ?_, ?_, ?_⟩
        · rw [spelled, spelled', List.append_assoc]
        · simp [rdp6ApplyAll, applied, applied']
        · simpa [rdp6DecodeLoop, ran, rdp6Outcome, written] using outcome
    · refine ⟨[], [], reader.stream, core, .nil, rfl, rfl, .inl ⟨⟨reader₁.stream, spelled⟩, ?_⟩⟩
      simp [rdp6DecodeLoop, ran core]
    · refine ⟨[], [], reader.stream, core, .nil, rfl, rfl, .inr ⟨core.cache, ?_⟩⟩
      simp [rdp6DecodeLoop, ran core]

variable {padding : List Bool} {flags : UInt8} {state : Rdp6State} {data : Bytes}

theorem rdp6DecodeLoop_code {fuel : Nat} (sized : core.Sized)
    (clean : reader.Clean) (all : SpelledAll tokens bits)
    (spelled : reader.stream = bits ++ (lecCode 256 ++ padding))
    (applied : rdp6ApplyAll core tokens = some core') (enough : reader.stream.length < fuel) :
    rdp6DecodeLoop fuel (rdp6Ready core) reader = .ok (.ok, rdp6Ready core') := by
  have endCode : (lecCode 256).length = rdp6LecTableBits := by
    rw [lecCode, symbolCode, codeBits, msb_length]
    decide +kernel
  induction all generalizing core reader fuel with
  | nil =>
    cases applied
    have listed : 256 < rdp6LecLengths.length := by
      rw [rdp6LecLengths_length]
      decide
    rw [List.nil_append] at spelled
    obtain ⟨reader₁, ran, -, -⟩ := decodeSymbol_code rdp6LecTable_isPrefixTable rdp6Lec_complete
      (by decide) clean listed spelled (by rw [spelled, List.length_append]; omega)
    cases fuel with
    | zero => omega
    | succ fuel => simp [rdp6DecodeLoop, decodeToken_end ran]
  | @cons t tokens a b isToken all ih =>
    obtain ⟨core₁, first, rest⟩ := Option.bind_eq_some_iff.mp applied
    obtain ⟨w, written, rfl⟩ := Option.map_eq_some_iff.mp first
    rw [List.append_assoc] at spelled
    obtain ⟨reader₁, clean₁, left, ran⟩ := rdp6DecodeToken_code clean isToken spelled
      (by simp only [List.length_append]; omega)
    have positive := isToken.positive
    cases fuel with
    | zero => omega
    | succ fuel =>
      have shorter : reader₁.stream.length < fuel := by
        rw [spelled, List.length_append, ← left] at enough
        omega
      have later := ih (rdp6Apply_sized sized isToken.inRange first) clean₁ left rest shorter
      simp [rdp6DecodeLoop, ran core sized, rdp6Outcome, written, later]

/-! ## Whole packets -/

/-- What `rdp_bulk_rdp6_state_init` sets up and every later call keeps. -/
structure Rdp6State.Valid (state : Rdp6State) : Prop where
  sized : state.core.Sized
  lecSize : state.literalOffset.size = 2 ^ rdp6LecTableBits
  lomSize : state.matchLength.size = 2 ^ rdp6LomTableBits
  prepared : state.tablesReady = true → state.Prepared

theorem Rdp6Core.Sized.ready (sized : core.Sized) : (rdp6Ready core).Valid :=
  ⟨sized, rdp6LecTable_isPrefixTable.size, rdp6LomTable_isPrefixTable.size,
    fun _ => rdp6Ready_prepared core⟩

def rdp6Fresh : Rdp6Core := ⟨⟨Memory.filled 65536 0, 0⟩, [0, 0, 0, 0]⟩

theorem rdp6Fresh_sized : rdp6Fresh.Sized :=
  ⟨rfl, by decide, rfl, rfl, by decide⟩

/-- The history after `rdp_bulk_rdp6_move_front`. -/
def rdp6Moved (w : Window UInt8) : Memory UInt8 where
  size := 65536
  cell i := if i < 32768 then w.memory.cell (w.cursor - 32768 + i) else 0
  outside i h := if_neg (by omega)

theorem rdp6Moved_sized (sized : core.Sized) :
    (⟨⟨rdp6Moved core.window, 32768⟩, core.cache⟩ : Rdp6Core).Sized :=
  ⟨rfl, Nat.le_of_ble_eq_true rfl, rfl, sized.slots, sized.offsets⟩

/-- The window and cache after the packet's `AT_FRONT` and `FLUSHED` bits; `none` when there is
    too little history to move. -/
def rdp6Open (core : Rdp6Core) (flags : UInt8) : Option Rdp6Core :=
  if hasFlag flags packetAtFront ∧ core.window.cursor ≤ 32768 then none
  else if hasFlag flags packetFlushed then some rdp6Fresh
  else if hasFlag flags packetAtFront then some ⟨⟨rdp6Moved core.window, 32768⟩, core.cache⟩
  else some core

theorem rdp6Open_sized (sized : core.Sized)
    (opened : rdp6Open core flags = some core') : core'.Sized := by
  simp only [rdp6Open] at opened
  split at opened
  · cases opened
  split at opened
  · cases opened
    exact rdp6Fresh_sized
  split at opened
  · cases opened
    exact rdp6Moved_sized sized
  · cases opened
    exact sized

private theorem rdp6Prepare_eq (valid : state.Valid) :
    rdp6Prepare state = .ok (.ok, rdp6Ready state.core) := by
  cases ready : state.tablesReady with
  | true =>
    obtain ⟨-, lec, lom⟩ := valid.prepared ready
    obtain ⟨history, writeOffset, offsetCache, literalOffset, matchLength, tablesReady⟩ := state
    simp only at ready lec lom
    subst ready lec lom
    rfl
  | false =>
    have lec := (buildLecTable valid.lecSize).1
    have lom := (buildLomTable valid.lomSize).1
    simp [rdp6Prepare, ready, lec, lom]
    rfl

private theorem rdp6MoveFront_eq {core : Rdp6Core} (sized : core.Sized)
    (far : 32768 < core.window.cursor) :
    rdp6MoveFront (rdp6Ready core) =
      .ok (.ok, rdp6Ready ⟨⟨rdp6Moved core.window, 32768⟩, core.cache⟩) := by
  have size := sized.size
  have bounded := sized.bounded
  obtain ⟨middle, moved, middleSize, cells⟩ :
      ∃ m, core.window.memory.move 0 (core.window.cursor - 32768) 32768 = .ok m ∧
        m.size = 65536 ∧ ∀ i < 32768, m.cell i = core.window.memory.cell (core.window.cursor - 32768 + i) := by
    refine ⟨_, if_pos (by omega), size, ?_⟩
    intro i low
    simp only
    rw [if_pos (by omega), Nat.sub_zero]
  have cleared : middle.fill 32768 32768 0 = .ok (rdp6Moved core.window) := by
    rw [Memory.fill, if_pos (by omega)]
    congr 1
    apply Memory.ext_cells
    · exact middleSize
    · intro i inside
      simp only [rdp6Moved] at inside ⊢
      by_cases low : i < 32768
      · rw [if_neg (by omega), if_pos low, cells i low]
      · rw [if_pos (by omega), if_neg low]
  simp [rdp6MoveFront, Nat.not_le.mpr far, checkedSub_of_le (Nat.le_of_lt far), moved, cleared]
  rfl

private theorem rdp6StateReset_eq {core : Rdp6Core} (sized : core.Sized) :
    rdp6StateReset (rdp6Ready core) true = .ok (rdp6Ready rdp6Fresh) := by
  have cleared := Memory.fill_all (m := core.window.memory) 0 sized.size
  simp [rdp6StateReset, rdp6HistorySize, cleared]
  rfl

theorem rdp6Decode_eq (valid : state.Valid) (flags : UInt8) (data decoded : Bytes) :
    rdp6Decode state flags data decoded =
      match rdp6Open state.core flags with
      | none => .ok (.protocolError, rdp6Ready state.core, decoded)
      | some core => rdp6DecodeBody (rdp6Ready core) flags data decoded := by
  have prepared := rdp6Prepare_eq valid
  have sized := valid.sized
  by_cases front : hasFlag flags packetAtFront = true
  · by_cases near : state.core.window.cursor ≤ 32768
    · rw [rdp6Open, if_pos ⟨front, near⟩]
      simp [rdp6Decode, prepared, front, rdp6MoveFront, near]
    · have moved := rdp6MoveFront_eq sized (Nat.not_le.mp near)
      rw [rdp6Open, if_neg (by simp [near])]
      cases flush : hasFlag flags packetFlushed with
      | true =>
        have reset := rdp6StateReset_eq (rdp6Moved_sized sized)
        simp [rdp6Decode, prepared, front, flush, moved, reset]
      | false => simp [rdp6Decode, prepared, front, flush, moved]
  rw [rdp6Open, if_neg (by simp [front])]
  cases flush : hasFlag flags packetFlushed with
  | true =>
    have reset := rdp6StateReset_eq sized
    simp [rdp6Decode, prepared, front, flush, reset]
  | false => simp [rdp6Decode, prepared, front, flush]

private theorem rdp6DecodeBody_done {core : Rdp6Core} (sized : core'.Sized)
    (compressed : hasFlag flags packetCompressed = true) (init : rdp6ReaderInit data = .ok reader)
    (applied : rdp6ApplyAll core tokens = some core')
    (ran : rdp6DecodeLoop (8 * data.length + 1) (rdp6Ready core) reader =
      .ok (.ok, rdp6Ready core')) (decoded : Bytes) :
    rdp6DecodeBody (rdp6Ready core) flags data decoded = .ok (.ok, rdp6Ready core', decoded ++
      core'.window.memory.window core.window.cursor
        (core'.window.cursor - core.window.cursor)) := by
  have grown := rdp6ApplyAll_cursor applied
  have size := sized.size
  have bounded := sized.bounded
  have inside : core.window.cursor + (core'.window.cursor - core.window.cursor) ≤
      core'.window.memory.size := by omega
  simp [rdp6DecodeBody, compressed, init, ran, checkedSub_of_le grown, Memory.slice_of_le inside]

theorem lsbBits_lt (data : Bytes) : (lsbBits data).length < 8 * data.length + 1 := by
  rw [lsbBits_length]
  omega

theorem rdp6DecodeBody_cases (sized : core.Sized) (flags : UInt8)
    (data decoded : Bytes) :
    (hasFlag flags packetCompressed = false ∧ rdp6DecodeBody (rdp6Ready core) flags data decoded =
      .ok (.ok, rdp6Ready core, decoded ++ data)) ∨
    (hasFlag flags packetCompressed = true ∧ data.length < 4 ∧
      rdp6DecodeBody (rdp6Ready core) flags data decoded =
        .ok (.protocolError, rdp6Ready core, decoded)) ∨
    (hasFlag flags packetCompressed = true ∧ 4 ≤ data.length ∧
      ∃ tokens bits rest core', SpelledAll tokens bits ∧
      lsbBits data = bits ++ rest ∧ rdp6ApplyAll core tokens = some core' ∧
      (((∃ tail, rest = lecCode 256 ++ tail) ∧
          rdp6DecodeBody (rdp6Ready core) flags data decoded = .ok (.ok, rdp6Ready core', decoded ++
            core'.window.memory.window core.window.cursor
              (core'.window.cursor - core.window.cursor))) ∨
        rdp6DecodeBody (rdp6Ready core) flags data decoded = .ok (.protocolError,
          rdp6Ready ⟨⟨core'.window.memory, core.window.cursor⟩, core.cache⟩, decoded))) := by
  cases compressed : hasFlag flags packetCompressed with
  | false => exact .inl ⟨rfl, by simp [rdp6DecodeBody, compressed]⟩
  | true =>
    by_cases long : 4 ≤ data.length
    · obtain ⟨reader, init, clean, stream⟩ := readerInit_eq long
      obtain ⟨tokens, bits, rest, core', all, spelled, applied, outcome⟩ :=
        rdp6DecodeLoop_cases sized clean (by rw [stream]; exact lsbBits_lt data)
      rw [stream] at spelled
      refine .inr (.inr ⟨rfl, long, tokens, bits, rest, core', all, spelled, applied, ?_⟩)
      rcases outcome with ⟨ended, ran⟩ | ⟨cache, ran⟩
      · have sized' := rdp6ApplyAll_sized sized all.inRange applied
        exact .inl ⟨ended, rdp6DecodeBody_done sized' compressed init applied ran decoded⟩
      · refine .inr ?_
        simp [rdp6DecodeBody, compressed, init, ran]
        rfl
    have short := Nat.not_le.mp long
    refine .inr (.inl ⟨rfl, short, ?_⟩)
    simp [rdp6DecodeBody, compressed, readerInit_short short]

theorem rdp6DecodeBody_code (sized : core.Sized)
    (compressed : hasFlag flags packetCompressed = true) (long : 4 ≤ data.length)
    (all : SpelledAll tokens bits) (spelled : lsbBits data = bits ++ (lecCode 256 ++ padding))
    (applied : rdp6ApplyAll core tokens = some core') (decoded : Bytes) :
    rdp6DecodeBody (rdp6Ready core) flags data decoded = .ok (.ok, rdp6Ready core', decoded ++
      core'.window.memory.window core.window.cursor
        (core'.window.cursor - core.window.cursor)) := by
  obtain ⟨reader, init, clean, stream⟩ := readerInit_eq long
  rw [← stream] at spelled
  have ran := rdp6DecodeLoop_code sized clean all spelled applied
    (by rw [stream]; exact lsbBits_lt data)
  exact rdp6DecodeBody_done (rdp6ApplyAll_sized sized all.inRange applied) compressed init applied
    ran decoded

end LibRdp.Bulk
