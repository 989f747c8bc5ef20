import LibRdp.Bulk.MppcTokens

/-! # What the MPPC decompressor computes

An allocated state is a write window over the history. `mppcApply` is the
effect of one token on that window, with the source offset masked and the
bounds checked as the code does; the decoding loop applies exactly the tokens
spelled by the packet, up to the first one it cannot read or apply.
-/

namespace LibRdp.Bulk

open Machine Coding Lz77

/-- `history_size`. -/
def mppcSize : MppcLevel → Nat
  | .k64 => 65536
  | .k8 => 8192

/-- What `rdp_bulk_mppc_state_init` sets up and every later call keeps. -/
structure MppcState.Valid (state : MppcState) : Prop where
  size : state.historySize = mppcSize state.level
  allocated : ∀ history, state.history = some history → history.size = mppcSize state.level
  bounded : state.writeOffset ≤ mppcSize state.level

def mppcReady (level : MppcLevel) (w : Window UInt8) : MppcState :=
  ⟨some w.memory, mppcSize level, w.cursor, level⟩

@[simp] theorem mppcReady_history (level : MppcLevel) (w : Window UInt8) :
    (mppcReady level w).history = some w.memory := rfl
@[simp] theorem mppcReady_historySize (level : MppcLevel) (w : Window UInt8) :
    (mppcReady level w).historySize = mppcSize level := rfl
@[simp] theorem mppcReady_writeOffset (level : MppcLevel) (w : Window UInt8) :
    (mppcReady level w).writeOffset = w.cursor := rfl
@[simp] theorem mppcReady_level (level : MppcLevel) (w : Window UInt8) :
    (mppcReady level w).level = level := rfl

structure Sized (level : MppcLevel) (w : Window UInt8) : Prop where
  size : w.memory.size = mppcSize level
  bounded : w.cursor ≤ mppcSize level

variable {level : MppcLevel} {w w' : Window UInt8} {state : MppcState}

theorem Sized.ready (sized : Sized level w) :
    (mppcReady level w).Valid where
  size := rfl
  allocated history h := by
    cases h
    exact sized.size
  bounded := sized.bounded

/-- The effect of one token; `none` when the code refuses it. -/
def mppcApply (level : MppcLevel) (w : Window UInt8) : Token → Option (Window UInt8)
  | .literal b => if w.cursor < mppcSize level then some (w.push b) else none
  | .copy offset length =>
      let source := mppcSource level w.cursor offset
      if w.cursor < mppcSize level ∧ length ≤ mppcSize level - w.cursor ∧
          length ≤ mppcSize level - source then
        some (w.copy source length)
      else none

def mppcApplyAll (level : MppcLevel) (w : Window UInt8) : List Token → Option (Window UInt8)
  | [] => some w
  | t :: tokens => (mppcApply level w t).bind (fun w => mppcApplyAll level w tokens)

theorem mppcSource_lt (level : MppcLevel) (cursor offset : Nat) :
    mppcSource level cursor offset < mppcSize level := by
  cases level with
  | k8 =>
    simp only [mppcSource, mppcMask, mppcSize]
    omega
  | k64 =>
    simp only [mppcSource, mppcMask, mppcSize]
    omega

theorem mppcApply_sized {t : Token} (sized : Sized level w) (done : mppcApply level w t = some w') :
    Sized level w' := by
  cases t with
  | literal b =>
    simp only [mppcApply, Option.ite_none_right_eq_some, Option.some.injEq] at done
    obtain ⟨room, rfl⟩ := done
    exact ⟨sized.size, room⟩
  | copy offset length =>
    simp only [mppcApply, Option.ite_none_right_eq_some, Option.some.injEq] at done
    obtain ⟨⟨room, fits, -⟩, rfl⟩ := done
    exact ⟨by simpa using sized.size, by simp only [Window.copy_cursor]; omega⟩

variable {tokens : List Token}

theorem mppcApplyAll_sized (sized : Sized level w) (done : mppcApplyAll level w tokens = some w') :
    Sized level w' := by
  induction tokens generalizing w with
  | nil =>
    cases done
    exact sized
  | cons t tokens ih =>
    obtain ⟨w₁, first, rest⟩ := Option.bind_eq_some_iff.mp done
    exact ih (mppcApply_sized sized first) rest

theorem mppcApply_cursor {t : Token} (done : mppcApply level w t = some w') :
    w'.cursor = w.cursor + t.width := by
  cases t with
  | literal b =>
    simp only [mppcApply, Option.ite_none_right_eq_some, Option.some.injEq] at done
    obtain ⟨-, rfl⟩ := done
    rfl
  | copy offset length =>
    simp only [mppcApply, Option.ite_none_right_eq_some, Option.some.injEq] at done
    obtain ⟨-, rfl⟩ := done
    exact Window.copy_cursor _ _ _

theorem mppcApplyAll_cursor (done : mppcApplyAll level w tokens = some w') :
    w'.cursor = w.cursor + (tokens.map Token.width).sum := by
  induction tokens generalizing w with
  | nil =>
    cases done
    rfl
  | cons t tokens ih =>
    obtain ⟨w₁, first, rest⟩ := Option.bind_eq_some_iff.mp done
    rw [ih rest, mppcApply_cursor first, List.map_cons, List.sum_cons]
    omega

theorem mppcEmit_ready (level : MppcLevel) (b : UInt8) (room : w.cursor < w.memory.size) :
    mppcEmit (mppcReady level w) b = .ok (mppcReady level (w.push b)) := by
  simp [mppcEmit, mppcReady, Memory.store_of_lt room, Window.push]

theorem mppcCopyLoop_ready (level : MppcLevel) {source n : Nat}
    (sourceRoom : source + n ≤ w.memory.size) (room : w.cursor + n ≤ w.memory.size) :
    mppcCopyLoop n source (mppcReady level w) = .ok (mppcReady level (w.copy source n)) := by
  induction n generalizing w source with
  | zero => rfl
  | succ n ih =>
    have emitted := mppcEmit_ready level (w.memory.cell source)
      (show w.cursor < w.memory.size by omega)
    have later : mppcCopyLoop n (source + 1) (mppcReady level (w.push (w.memory.cell source))) =
        .ok (mppcReady level (w.copy source (n + 1))) := by
      by_cases last : n = 0
      · subst last
        rfl
      have step : next w.memory.size source = source + 1 := if_neg (by omega)
      rw [Window.copy, step]
      exact ih (by simp only [Window.push_size]; omega)
        (by simp only [Window.push_size, Window.push_cursor]; omega)
    simp only [mppcCopyLoop, mppcReady, Memory.load_of_lt (show source < w.memory.size by omega),
      ok_bind] at emitted later ⊢
    rw [emitted, ok_bind, later]

theorem mppcCopyMatch_ready (sized : Sized level w) (offset : Nat) {length : Nat}
    (long : 3 ≤ length) (room : w.cursor < mppcSize level) :
    mppcCopyMatch (mppcReady level w) offset length =
      match mppcApply level w (.copy offset length) with
      | some w' => .ok (.ok, mppcReady level w')
      | none => .ok (.protocolError, mppcReady level w) := by
  have source := mppcSource_lt level w.cursor offset
  have size := sized.size
  have bounded := sized.bounded
  have guard : ¬ (length = 0 ∨ mppcSize level < w.cursor) := by omega
  by_cases fits : length ≤ mppcSize level - w.cursor
  · have insideSource : checkedSub (mppcSize level) (mppcSource level w.cursor offset) =
        .ok (mppcSize level - mppcSource level w.cursor offset) := checkedSub_of_le (by omega)
    by_cases inside : length ≤ mppcSize level - mppcSource level w.cursor offset
    · have copied := mppcCopyLoop_ready level (w := w)
        (show mppcSource level w.cursor offset + length ≤ w.memory.size by omega) (by omega)
      simp [mppcCopyMatch, mppcApply, guard, bounded, Nat.not_lt.mpr fits, Nat.not_le.mpr source,
        insideSource, Nat.not_lt.mpr inside, copied, room, fits, inside]
    · simp [mppcCopyMatch, mppcApply, guard, bounded, Nat.not_le.mpr source,
        insideSource, Nat.not_le.mp inside, inside]
  · simp [mppcCopyMatch, mppcApply, guard, bounded, Nat.not_le.mp fits, fits]

section Iteration

variable {level : MppcLevel} {w w' : Window UInt8} {r : BitReader}

private theorem ofNat_low {v : Nat} (small : v < 2 ^ 7) : (UInt8.ofNat v).toNat = v :=
  UInt8.toNat_ofNat_of_lt' (by simp only [UInt8.size]; omega)

private theorem ofNat_high {v : Nat} (small : v < 2 ^ 7) : (UInt8.ofNat (0x80 + v)).toNat = 0x80 + v :=
  UInt8.toNat_ofNat_of_lt' (by simp only [UInt8.size]; omega)

private theorem mppcDecodeMatch_cases (sized : Sized level w) (room : w.cursor < mppcSize level)
    (r : BitReader) :
    (∃ t w' r', Encodable level t ∧ r.bits = tokenCode level t ++ r'.bits ∧
      mppcApply level w t = some w' ∧
      mppcDecodeMatch (mppcReady level w) r = .ok (.ok, mppcReady level w', r')) ∨
    ∃ r', mppcDecodeMatch (mppcReady level w) r = .ok (.protocolError, mppcReady level w, r') := by
  cases gotOffset : mppcReadOffset r level with
  | none => exact .inr ⟨r, by simp [mppcDecodeMatch, gotOffset]⟩
  | some p =>
    obtain ⟨offset, r₁⟩ := p
    cases gotLength : mppcReadLength r₁ level with
    | none => exact .inr ⟨r₁, by simp [mppcDecodeMatch, gotOffset, gotLength]⟩
    | some p =>
      obtain ⟨length, r₂⟩ := p
      obtain ⟨-, offsetOk, spelled⟩ := (readOffset_codec level).sound trivial gotOffset
      obtain ⟨-, lengthOk, spelled'⟩ := (readLength_codec level).sound trivial gotLength
      have copied := mppcCopyMatch_ready sized offset lengthOk.1 room
      cases applied : mppcApply level w (.copy offset length) with
      | none =>
        rw [applied] at copied
        exact .inr ⟨r₂, by simp [mppcDecodeMatch, gotOffset, gotLength, copied]⟩
      | some w' =>
        rw [applied] at copied
        refine .inl ⟨.copy offset length, w', r₂, ⟨offsetOk, lengthOk⟩, ?_, applied, ?_⟩
        · simp only [bitView] at spelled spelled'
          rw [spelled, spelled', tokenCode, List.append_assoc]
        · simp [mppcDecodeMatch, gotOffset, gotLength, copied]

theorem mppcDecodeToken_cases (sized : Sized level w) (r : BitReader) :
    (∃ t w' r', Encodable level t ∧ r.bits = tokenCode level t ++ r'.bits ∧
      mppcApply level w t = some w' ∧
      mppcDecodeToken (mppcReady level w) r = .ok (.ok, mppcReady level w', r')) ∨
    ∃ r', mppcDecodeToken (mppcReady level w) r = .ok (.protocolError, mppcReady level w, r') := by
  have size := sized.size
  by_cases room : w.cursor < mppcSize level
  · have full := Nat.not_le.mpr room
    have emitted := fun b => mppcEmit_ready level (w := w) b (by omega)
    cases got₁ : readBits r 1 with
    | none => exact .inr ⟨r, by simp [mppcDecodeToken, full, got₁]⟩
    | some p =>
      obtain ⟨first, r₁⟩ := p
      obtain ⟨-, bit₁, spelled₁⟩ := readBit_codec.sound trivial got₁
      simp only [bitView] at spelled₁
      obtain rfl | rfl : first = 0 ∨ first = 1 := by omega
      · cases got₂ : readBits r₁ 7 with
        | none => exact .inr ⟨r₁, by simp [mppcDecodeToken, full, got₁, got₂]⟩
        | some p =>
          obtain ⟨v, r₂⟩ := p
          obtain ⟨-, small, spelled₂⟩ := (readBits_codec (by omega)).sound trivial got₂
          simp only [bitView] at spelled₂
          refine .inl ⟨.literal (UInt8.ofNat v), w.push (UInt8.ofNat v), r₂, trivial, ?_, ?_, ?_⟩
          · rw [spelled₁, spelled₂, tokenCode, literalCode, ofNat_low small,
              if_pos (show v < 0x80 from small)]
            rfl
          · simp [mppcApply, room]
          · simp [mppcDecodeToken, full, got₁, got₂, emitted]
      · cases got₂ : readBits r₁ 1 with
        | none => exact .inr ⟨r₁, by simp [mppcDecodeToken, full, got₁, got₂]⟩
        | some p =>
          obtain ⟨second, r₂⟩ := p
          obtain ⟨-, bit₂, spelled₂⟩ := readBit_codec.sound trivial got₂
          simp only [bitView] at spelled₂
          obtain rfl | rfl : second = 0 ∨ second = 1 := by omega
          · cases got₃ : readBits r₂ 7 with
            | none => exact .inr ⟨r₂, by simp [mppcDecodeToken, full, got₁, got₂, got₃]⟩
            | some p =>
              obtain ⟨v, r₃⟩ := p
              obtain ⟨-, small, spelled₃⟩ := (readBits_codec (by omega)).sound trivial got₃
              simp only [bitView] at spelled₃
              refine .inl ⟨.literal (UInt8.ofNat (0x80 + v)), w.push (UInt8.ofNat (0x80 + v)), r₃,
                trivial, ?_, ?_, ?_⟩
              · rw [spelled₁, spelled₂, spelled₃, tokenCode, literalCode, ofNat_high small,
                  if_neg (by omega), Nat.add_sub_cancel_left]
                rfl
              · simp [mppcApply, room]
              · simp [mppcDecodeToken, full, got₁, got₂, got₃, emitted]
          · have rewound : ({ r₂ with bit := r₂.bit - 2 } : BitReader) = r := by
              rw [readBits_advance got₂, readBits_advance got₁]
              simp [BitReader.advance]
            have same : mppcDecodeToken (mppcReady level w) r =
                mppcDecodeMatch (mppcReady level w) r := by
              simp [mppcDecodeToken, full, got₁, got₂, rewound]
            rw [same]
            exact mppcDecodeMatch_cases sized room r
  · right
    exact ⟨r, by simp [mppcDecodeToken, Nat.not_lt.mp room]⟩

theorem mppcDecodeToken_code (sized : Sized level w) {t : Token} {rest : List Bool}
    (encodable : Encodable level t) (spelled : r.bits = tokenCode level t ++ rest)
    (applied : mppcApply level w t = some w') :
    ∃ r', mppcDecodeToken (mppcReady level w) r = .ok (.ok, mppcReady level w', r') ∧
      r'.bits = rest := by
  have size := sized.size
  cases t with
  | literal b =>
    simp only [mppcApply, Option.ite_none_right_eq_some, Option.some.injEq] at applied
    obtain ⟨room, rfl⟩ := applied
    have emitted := fun b => mppcEmit_ready level (w := w) b (by omega)
    by_cases low : b.toNat < 0x80
    · simp only [tokenCode, literalCode, if_pos low, List.cons_append] at spelled
      obtain ⟨r₁, got₁, -, left₁⟩ :=
        readBit_codec.complete (r := r) (a := 0) trivial (by omega) spelled
      obtain ⟨r₂, got₂, -, left₂⟩ :=
        (readBits_codec (n := 7) (by omega)).complete (a := b.toNat) trivial low left₁
      refine ⟨r₂, ?_, left₂⟩
      simp [mppcDecodeToken, Nat.not_le.mpr room, got₁, got₂, emitted]
    simp only [tokenCode, literalCode, if_neg low, List.cons_append] at spelled
    have byte := b.toNat_lt
    obtain ⟨r₁, got₁, -, left₁⟩ :=
      readBit_codec.complete (r := r) (a := 1) trivial (by omega) spelled
    obtain ⟨r₂, got₂, -, left₂⟩ :=
      readBit_codec.complete (a := 0) trivial (by omega) left₁
    obtain ⟨r₃, got₃, -, left₃⟩ :=
      (readBits_codec (n := 7) (by omega)).complete (a := b.toNat - 0x80) trivial
        (by omega) left₂
    refine ⟨r₃, ?_, left₃⟩
    have whole : 0x80 + (b.toNat - 0x80) = b.toNat := by omega
    simp [mppcDecodeToken, Nat.not_le.mpr room, got₁, got₂, got₃, emitted, whole]
  | copy offset length =>
    obtain ⟨offsetOk, lengthOk⟩ := encodable
    have room : w.cursor < mppcSize level := by
      simp only [mppcApply, Option.ite_none_right_eq_some] at applied
      exact applied.1.1
    simp only [tokenCode, List.append_assoc] at spelled
    have lead := spelled
    rw [offsetCode_head, List.append_assoc] at lead
    obtain ⟨r₁, got₁, -, left₁⟩ :=
      readBit_codec.complete (r := r) (a := 1) trivial (by omega) lead
    obtain ⟨r₂, got₂, -, -⟩ :=
      readBit_codec.complete (a := 1) trivial (by omega) left₁
    have rewound : ({ r₂ with bit := r₂.bit - 2 } : BitReader) = r := by
      rw [readBits_advance got₂, readBits_advance got₁]
      simp [BitReader.advance]
    obtain ⟨r₃, got₃, -, left₃⟩ := (readOffset_codec level).complete trivial offsetOk spelled
    obtain ⟨r₄, got₄, -, left₄⟩ := (readLength_codec level).complete trivial lengthOk left₃
    refine ⟨r₄, ?_, left₄⟩
    have copied := mppcCopyMatch_ready sized offset lengthOk.1 room
    rw [applied] at copied
    simp [mppcDecodeToken, Nat.not_le.mpr room, got₁, got₂, rewound, mppcDecodeMatch, got₃, got₄,
      copied]

end Iteration

section Loop

variable {level : MppcLevel} {w w' : Window UInt8}

theorem mppcDecodeLoop_cases {fuel : Nat} (sized : Sized level w) (r : BitReader)
    (enough : r.bits.length < fuel) :
    ∃ tokens w' rest, (∀ t ∈ tokens, Encodable level t) ∧
      r.bits = encodeTokens level tokens ++ rest ∧ mppcApplyAll level w tokens = some w' ∧
      ((rest.length < 8 ∧ mppcDecodeLoop fuel (mppcReady level w) r = .ok (.ok, mppcReady level w')) ∨
       (8 ≤ rest.length ∧ mppcDecodeLoop fuel (mppcReady level w) r =
          .ok (.protocolError, mppcReady level w'))) := by
  induction fuel generalizing w r with
  | zero => omega
  | succ fuel ih =>
    by_cases done : r.bitsRemaining < 8
    · refine ⟨[], w, r.bits, by simp, rfl, rfl, .inl ⟨by simpa using done, ?_⟩⟩
      simp [mppcDecodeLoop, done]
    rcases mppcDecodeToken_cases sized r with
      ⟨t, w₁, r₁, encodable, spelled, applied, ran⟩ | ⟨r₁, ran⟩
    · have shorter : r₁.bits.length < fuel := by
        have := tokenCode_length level t
        rw [spelled, List.length_append] at enough
        omega
      obtain ⟨tokens, w', rest, all, spelled', applied', outcome⟩ :=
        ih (mppcApply_sized sized applied) r₁ shorter
      refine ⟨t :: tokens, w', rest, ?_, ?_, ?_, ?_⟩
      · intro u member
        rcases List.mem_cons.mp member with rfl | member
        · exact encodable
        · exact all u member
      · rw [spelled, spelled', encodeTokens_cons, List.append_assoc]
      · simp [mppcApplyAll, applied, applied']
      · simpa [mppcDecodeLoop, done, ran] using outcome
    · refine ⟨[], w, r.bits, by simp, rfl, rfl, .inr ⟨by simpa using done, ?_⟩⟩
      simp [mppcDecodeLoop, done, ran]

theorem mppcDecodeLoop_encodeTokens {fuel : Nat} {tokens : List Token} {r : BitReader}
    {padding : List Bool} (sized : Sized level w) (all : ∀ t ∈ tokens, Encodable level t)
    (spelled : r.bits = encodeTokens level tokens ++ padding) (short : padding.length < 8)
    (applied : mppcApplyAll level w tokens = some w') (enough : r.bits.length < fuel) :
    mppcDecodeLoop fuel (mppcReady level w) r = .ok (.ok, mppcReady level w') := by
  induction tokens generalizing w r fuel with
  | nil =>
    cases applied
    cases fuel with
    | zero => omega
    | succ fuel =>
      have done : r.bitsRemaining < 8 := by
        rw [← bits_length, spelled]
        simpa using short
      simp [mppcDecodeLoop, done]
  | cons t tokens ih =>
    obtain ⟨w₁, first, rest⟩ := Option.bind_eq_some_iff.mp applied
    have long := tokenCode_length level t
    rw [encodeTokens_cons, List.append_assoc] at spelled
    obtain ⟨r₁, ran, left⟩ :=
      mppcDecodeToken_code sized (all t (List.mem_cons_self ..)) spelled first
    have count := congrArg List.length spelled
    rw [List.length_append, ← left] at count
    cases fuel with
    | zero => omega
    | succ fuel =>
      have more : ¬ r.bitsRemaining < 8 := by
        rw [← bits_length]
        omega
      have later := ih (mppcApply_sized sized first)
        (fun u member => all u (List.mem_cons_of_mem _ member)) left rest
        (show r₁.bits.length < fuel by omega)
      simp [mppcDecodeLoop, more, ran, later]

end Loop

def MppcState.memory (state : MppcState) : Memory UInt8 :=
  state.history.getD (Memory.filled (mppcSize state.level) 0)

/-- The window after the packet's `AT_FRONT` and `FLUSHED` bits. -/
def mppcOpen (state : MppcState) (flags : UInt8) : Window UInt8 where
  memory := if hasFlag flags packetFlushed then Memory.filled (mppcSize state.level) 0
    else state.memory
  cursor := if hasFlag flags packetAtFront || hasFlag flags packetFlushed then 0
    else state.writeOffset

theorem MppcState.Valid.memory_size (valid : state.Valid) :
    state.memory.size = mppcSize state.level := by
  cases stored : state.history with
  | none => simp [MppcState.memory, stored]
  | some history => simpa [MppcState.memory, stored] using valid.allocated history stored

theorem mppcOpen_sized (valid : state.Valid) (flags : UInt8) :
    Sized state.level (mppcOpen state flags) where
  size := by
    simp only [mppcOpen]
    split
    · rfl
    · exact valid.memory_size
  bounded := by
    simp only [mppcOpen]
    split
    · omega
    · exact valid.bounded

private theorem mppcStateEnsure_eq (valid : state.Valid) :
    mppcStateEnsure state = (.ok, mppcReady state.level ⟨state.memory, state.writeOffset⟩) := by
  have size := valid.size
  have positive : mppcSize state.level ≠ 0 := by cases state.level <;> decide
  obtain ⟨history, historySize, writeOffset, level⟩ := state
  simp only at size positive
  subst size
  cases history with
  | none => simp [mppcStateEnsure, mppcReady, MppcState.memory, positive]
  | some history => simp [mppcStateEnsure, mppcReady, MppcState.memory, positive]

private theorem mppcApplyFlags_eq (valid : state.Valid) (flags : UInt8) :
    mppcApplyFlags (mppcReady state.level ⟨state.memory, state.writeOffset⟩) flags =
      .ok (mppcReady state.level (mppcOpen state flags)) := by
  have cleared := Memory.fill_all (m := state.memory) 0 valid.memory_size
  cases front : hasFlag flags packetAtFront <;> cases flush : hasFlag flags packetFlushed <;>
    simp [mppcApplyFlags, mppcStateReset, mppcReady, mppcOpen, front, flush, cleared]

def packetBits (data : Bytes) : List Bool := (BitReader.mk data 0).bits

theorem packetBits_lt (data : Bytes) : (packetBits data).length < 8 * data.length + 1 := by
  simp only [packetBits, bits_length, BitReader.bitsRemaining]
  split
  · omega
  · split <;> omega

private theorem mppcAppend_ready (sized : Sized level w) {start : Nat} (before : start ≤ w.cursor)
    (decoded : Bytes) :
    mppcAppend (mppcReady level w) start decoded =
      .ok (decoded ++ w.memory.window start (w.cursor - start)) := by
  have size := sized.size
  have bounded := sized.bounded
  have inside : start + (w.cursor - start) ≤ w.memory.size := by omega
  simp [mppcAppend, checkedSub_of_le before, Memory.slice_of_le inside]

theorem mppcDecompress_eq (valid : state.Valid) (flags : UInt8) (data decoded : Bytes) :
    mppcDecompress state flags data decoded =
      mppcDecompressBody (mppcReady state.level (mppcOpen state flags)) flags data decoded := by
  simp [mppcDecompress, mppcStateEnsure_eq valid, mppcApplyFlags_eq valid flags]

section Packets

variable {level : MppcLevel} {w w' : Window UInt8} {flags : UInt8} {data : Bytes}

variable {tokens : List Token}

private theorem mppcDecompressBody_done (sized : Sized level w)
    (compressed : hasFlag flags packetCompressed = true)
    (applied : mppcApplyAll level w tokens = some w')
    (ran : mppcDecodeLoop (8 * data.length + 1) (mppcReady level w) ⟨data, 0⟩ =
      .ok (.ok, mppcReady level w')) (decoded : Bytes) :
    mppcDecompressBody (mppcReady level w) flags data decoded =
      .ok (.ok, mppcReady level w',
        decoded ++ w'.memory.window w.cursor (w'.cursor - w.cursor)) := by
  have grown := mppcApplyAll_cursor applied
  have read := mppcAppend_ready (mppcApplyAll_sized sized applied)
    (show w.cursor ≤ w'.cursor by omega) decoded
  simp [mppcDecompressBody, compressed, ran, read]

theorem mppcDecompressBody_cases (sized : Sized level w) (flags : UInt8) (data decoded : Bytes) :
    (hasFlag flags packetCompressed = false ∧
      mppcDecompressBody (mppcReady level w) flags data decoded =
        .ok (.ok, mppcReady level w, decoded ++ data)) ∨
    (hasFlag flags packetCompressed = true ∧ ∃ tokens w' rest,
      (∀ t ∈ tokens, Encodable level t) ∧ packetBits data = encodeTokens level tokens ++ rest ∧
      mppcApplyAll level w tokens = some w' ∧
      ((rest.length < 8 ∧ mppcDecompressBody (mppcReady level w) flags data decoded =
          .ok (.ok, mppcReady level w',
            decoded ++ w'.memory.window w.cursor (w'.cursor - w.cursor))) ∨
       (8 ≤ rest.length ∧ mppcDecompressBody (mppcReady level w) flags data decoded =
          .ok (.protocolError, mppcReady level ⟨w'.memory, w.cursor⟩, decoded)))) := by
  cases compressed : hasFlag flags packetCompressed with
  | false => exact .inl ⟨rfl, by simp [mppcDecompressBody, compressed]⟩
  | true =>
    obtain ⟨tokens, w', rest, all, spelled, applied, outcome⟩ :=
      mppcDecodeLoop_cases sized ⟨data, 0⟩ (packetBits_lt data)
    refine .inr ⟨rfl, tokens, w', rest, all, spelled, applied, ?_⟩
    rcases outcome with ⟨short, ran⟩ | ⟨long, ran⟩
    · exact .inl ⟨short, mppcDecompressBody_done sized compressed applied ran decoded⟩
    · refine .inr ⟨long, ?_⟩
      simp [mppcDecompressBody, compressed, ran]
      rfl

theorem mppcDecompressBody_of_tokens (sized : Sized level w)
    (compressed : hasFlag flags packetCompressed = true) {padding : List Bool}
    (all : ∀ t ∈ tokens, Encodable level t)
    (spelled : packetBits data = encodeTokens level tokens ++ padding)
    (short : padding.length < 8) (applied : mppcApplyAll level w tokens = some w')
    (decoded : Bytes) :
    mppcDecompressBody (mppcReady level w) flags data decoded =
      .ok (.ok, mppcReady level w',
        decoded ++ w'.memory.window w.cursor (w'.cursor - w.cursor)) :=
  mppcDecompressBody_done sized compressed applied
    (mppcDecodeLoop_encodeTokens sized all spelled short applied (packetBits_lt data)) decoded

end Packets

end LibRdp.Bulk
