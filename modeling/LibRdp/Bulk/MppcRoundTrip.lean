import LibRdp.Bulk.MppcDecode
import LibRdp.Machine.Run

/-! # Runs of one MPPC state and the inverse of token encoding

An MPPC state is driven by packets and resets. Every state such a run reaches
is valid, and from every valid state the packed codes of a list of tokens
decode to the LZ77 expansion of that list over the history written so far.
-/

namespace LibRdp.Bulk

open Machine Coding Lz77

inductive MppcCall where
  | decompress (flags : UInt8) (data decoded : Bytes)
  | reset (clear : Bool)

def mppcStep (state : MppcState) : MppcCall → Exec ((Status × Bytes) × MppcState)
  | .decompress flags data decoded => do
      let (status, state, decoded) ← mppcDecompress state flags data decoded
      pure ((status, decoded), state)
  | .reset clear => do
      let state ← mppcStateReset state clear
      pure ((.ok, []), state)

theorem mppcStateInit_valid (level : MppcLevel) : (mppcStateInit level).Valid where
  size := by cases level <;> rfl
  allocated history stored := by cases stored
  bounded := Nat.zero_le _

variable {state : MppcState} {level : MppcLevel}

theorem mppcStateReset_valid (valid : state.Valid) (clear : Bool) :
    ∃ state', mppcStateReset state clear = .ok state' ∧ state'.Valid ∧
      state'.level = state.level := by
  cases clear with
  | false => exact ⟨{ state with writeOffset := 0 }, by cases h : state.history <;> simp [mppcStateReset, h],
      ⟨valid.size, valid.allocated, Nat.zero_le _⟩, rfl⟩
  | true =>
    cases stored : state.history with
    | none =>
      refine ⟨{ state with writeOffset := 0 }, by simp [mppcStateReset, stored], ?_, rfl⟩
      exact ⟨valid.size, valid.allocated, Nat.zero_le _⟩
    | some history =>
      have size := valid.allocated history stored
      have cleared := Memory.fill_all (m := history) 0 (size.trans valid.size.symm)
      refine ⟨⟨some (Memory.filled state.historySize 0), state.historySize, 0, state.level⟩,
        by simp [mppcStateReset, stored, cleared], ⟨valid.size, ?_, Nat.zero_le _⟩, rfl⟩
      intro history' stored'
      cases stored'
      exact valid.size

theorem mppcDecompress_valid (valid : state.Valid) (flags : UInt8) (data decoded : Bytes) :
    ∃ status state' decoded', mppcDecompress state flags data decoded =
      .ok (status, state', decoded') ∧ state'.Valid ∧ state'.level = state.level := by
  have sized := mppcOpen_sized valid flags
  rw [mppcDecompress_eq valid]
  rcases mppcDecompressBody_cases sized flags data decoded with
    ⟨-, ran⟩ | ⟨-, tokens, w, rest, -, -, applied, ⟨-, ran⟩ | ⟨-, ran⟩⟩
  · exact ⟨_, _, _, ran, sized.ready, rfl⟩
  · exact ⟨_, _, _, ran, (mppcApplyAll_sized sized applied).ready, rfl⟩
  · have after := mppcApplyAll_sized sized applied
    refine ⟨_, _, _, ran, Sized.ready ⟨after.size, sized.bounded⟩, rfl⟩

theorem mppcStep_valid (valid : state.Valid) (call : MppcCall) :
    ∃ o state', mppcStep state call = .ok (o, state') ∧ state'.Valid ∧
      state'.level = state.level := by
  cases call with
  | decompress flags data decoded =>
    obtain ⟨status, state', decoded', ran, valid', level⟩ :=
      mppcDecompress_valid valid flags data decoded
    exact ⟨(status, decoded'), state', by simp [mppcStep, ran], valid', level⟩
  | reset clear =>
    obtain ⟨state', ran, valid', level⟩ := mppcStateReset_valid valid clear
    exact ⟨(.ok, []), state', by simp [mppcStep, ran], valid', level⟩

theorem mppc_reachable_valid (reached : Reachable mppcStep (mppcStateInit level) state) :
    state.Valid ∧ state.level = level := by
  refine reached.invariant (fun s => s.Valid ∧ s.level = level)
    ⟨mppcStateInit_valid level, rfl⟩ ?_
  intro s call o s' ⟨valid, same⟩ taken
  obtain ⟨o', s'', ran, valid', level'⟩ := mppcStep_valid valid call
  rw [ran] at taken
  cases taken
  exact ⟨valid', level'.trans same⟩

/-- The tokens refer only to what was written before them, and their lengths have a code. -/
def WellPlaced (level : MppcLevel) : Nat → List Token → Prop
  | _, [] => True
  | writeOffset, .literal _ :: tokens => WellPlaced level (writeOffset + 1) tokens
  | writeOffset, .copy offset length :: tokens =>
      (1 ≤ offset ∧ offset ≤ writeOffset ∧ 3 ≤ length ∧ length < lengthLimit level) ∧
        WellPlaced level (writeOffset + length) tokens

instance WellPlaced.decidable (level : MppcLevel) :
    (writeOffset : Nat) → (tokens : List Token) → Decidable (WellPlaced level writeOffset tokens)
  | _, [] => isTrue trivial
  | writeOffset, .literal _ :: tokens => WellPlaced.decidable level (writeOffset + 1) tokens
  | writeOffset, .copy _ length :: tokens =>
      have := WellPlaced.decidable level (writeOffset + length) tokens
      inferInstanceAs (Decidable (_ ∧ _))

section Expand

variable {level : MppcLevel} {w : Window UInt8} {tokens : List Token}

theorem WellPlaced.encodable {writeOffset : Nat} (placed : WellPlaced level writeOffset tokens)
    (room : writeOffset + (tokens.map Token.width).sum ≤ mppcSize level) :
    ∀ t ∈ tokens, Encodable level t := by
  induction tokens generalizing writeOffset with
  | nil => simp
  | cons t tokens ih =>
    rw [List.map_cons, List.sum_cons] at room
    cases t with
    | literal b =>
      intro t member
      cases member with
      | head => trivial
      | tail _ member => exact ih placed (by simp only [Token.width] at room; omega) t member
    | copy offset length =>
      obtain ⟨⟨-, near, long, short⟩, placed⟩ := placed
      have room' : writeOffset + length + (tokens.map Token.width).sum ≤ mppcSize level := by
        simp only [Token.width] at room
        omega
      intro t member
      cases member with
      | head =>
        have limit : mppcSize level < offsetLimit level := by cases level <;> decide
        exact ⟨by omega, long, short⟩
      | tail _ member => exact ih placed room' t member

theorem mppcSource_eq_back (sized : Sized level w) {offset : Nat} (near : offset ≤ w.cursor)
    (room : w.cursor < mppcSize level ∨ 1 ≤ offset) :
    mppcSource level w.cursor offset = back w.memory.size w.cursor offset := by
  have bounded := sized.bounded
  rw [back, if_pos near]
  cases level with
  | k8 =>
    simp only [mppcSource, mppcMask, mppcSize] at bounded room ⊢
    omega
  | k64 =>
    simp only [mppcSource, mppcMask, mppcSize] at bounded room ⊢
    omega

theorem mppcApplyAll_expand (sized : Sized level w) {stream : List UInt8}
    (held : w.Carries w.cursor stream) (known : stream.length = w.cursor)
    (placed : WellPlaced level w.cursor tokens)
    (room : w.cursor + (tokens.map Token.width).sum ≤ mppcSize level) :
    ∃ w', mppcApplyAll level w tokens = some w' ∧ w'.Carries w'.cursor (expand stream tokens) ∧
      (∀ i, i < w.cursor ∨ w'.cursor ≤ i → w'.memory.cell i = w.memory.cell i) := by
  induction tokens generalizing w stream with
  | nil => exact ⟨w, rfl, held, fun _ _ => rfl⟩
  | cons t tokens ih =>
    have size := sized.size
    rw [List.map_cons, List.sum_cons] at room
    cases t with
    | literal b =>
      simp only [Token.width] at room
      have here : w.cursor < mppcSize level := by omega
      have pushed : (w.push b).Carries (w.push b).cursor (stream ++ [b]) :=
        Window.push_carries held (by omega) b (by omega) (Nat.le_refl _)
          (by rw [Window.push_cursor]; omega)
      have applied : mppcApply level w (.literal b) = some (w.push b) := if_pos here
      obtain ⟨w', rest, held', outside⟩ := ih (mppcApply_sized sized applied) pushed
        (by simp [known]) placed (by rw [Window.push_cursor]; omega)
      refine ⟨w', by simp [mppcApplyAll, applied, rest], held', ?_⟩
      have grown := mppcApplyAll_cursor rest
      rw [Window.push_cursor] at grown
      intro i away
      rw [outside i (by rw [Window.push_cursor]; omega), Window.push_cell_of_ne _ _ (by omega)]
    | copy offset length =>
      simp only [Token.width] at room
      obtain ⟨⟨low, near, long, -⟩, placed⟩ := placed
      have here : w.cursor < mppcSize level := by omega
      have source := mppcSource_eq_back sized near (.inr low)
      have behind : back w.memory.size w.cursor offset = w.cursor - offset := if_pos near
      have applied : mppcApply level w (.copy offset length) =
          some (w.copy (back w.memory.size w.cursor offset) length) := by
        simp only [mppcApply, source]
        exact if_pos (by omega)
      have copied := Window.copy_carries held (by omega) low near (by omega) length (by omega)
      rw [Nat.min_eq_left (by omega)] at copied
      obtain ⟨w', rest, held', outside⟩ := ih (mppcApply_sized sized applied)
        (by rw [Window.copy_cursor]; exact copied) (by simp [known])
        (by rw [Window.copy_cursor]; exact placed) (by rw [Window.copy_cursor]; omega)
      refine ⟨w', by simp [mppcApplyAll, applied, rest], held', ?_⟩
      have grown := mppcApplyAll_cursor rest
      rw [Window.copy_cursor] at grown
      intro i away
      rw [outside i (by rw [Window.copy_cursor]; omega),
        Window.copy_cell_of_outside _ _ _ (by omega)]

end Expand

private theorem prefixedCode_length (classes : List (Nat × Nat)) (v : Nat)
    (small : ∀ c ∈ classes, c.1 ≤ 16) : (prefixedCode classes v).length ≤ classes.length + 17 := by
  induction classes with
  | nil => simp [prefixedCode]
  | cons c classes ih =>
    have first := small c (List.mem_cons_self ..)
    have later := ih (fun d member => small d (List.mem_cons_of_mem _ member))
    simp only [prefixedCode]
    split
    · simp only [List.length_cons, msb_length]
      omega
    · simp only [List.length_cons]
      omega

private theorem tokenCode_length_le (level : MppcLevel) (t : Token) :
    (tokenCode level t).length ≤ 64 := by
  cases t with
  | literal b =>
    simp only [tokenCode, literalCode]
    split <;> simp
  | copy offset length =>
    have lengths : (lengthCode level length).length ≤ 32 := by
      cases level with
      | k8 => exact (prefixedCode_length _ _ (by decide)).trans (by decide)
      | k64 => exact (prefixedCode_length _ _ (by decide)).trans (by decide)
    have offsets : (offsetCode level offset).length ≤ 32 := by
      cases level with
      | k8 =>
        simp only [offsetCode]
        split
        · simp
        · split <;> simp
      | k64 =>
        simp only [offsetCode]
        split
        · simp
        split
        · simp
        · split <;> simp
    rw [tokenCode, List.length_append]
    omega

private theorem encodeTokens_length {tokens : List Token} (all : ∀ t ∈ tokens, Encodable level t) :
    (encodeTokens level tokens).length ≤ 64 * (tokens.map Token.width).sum := by
  induction tokens with
  | nil => simp
  | cons t tokens ih =>
    have later := ih (fun u member => all u (List.mem_cons_of_mem _ member))
    have first := tokenCode_length_le level t
    have wide : 1 ≤ t.width := by
      cases t with
      | literal b => exact Nat.le_refl _
      | copy offset length =>
        have := (all _ (List.mem_cons_self ..)).2.1
        simp only [Token.width]
        omega
    rw [encodeTokens_cons, List.length_append, List.map_cons, List.sum_cons]
    omega

theorem packetBits_encodeTokens {tokens : List Token} (all : ∀ t ∈ tokens, Encodable level t)
    (room : (tokens.map Token.width).sum ≤ mppcSize level) :
    packetBits (packMsb (encodeTokens level tokens)) = encodeTokens level tokens ++
      List.replicate (8 * octets (encodeTokens level tokens) - (encodeTokens level tokens).length)
        false := by
  have short := encodeTokens_length all
  have size : mppcSize level ≤ 65536 := by cases level <;> decide
  have fits : ¬ (packMsb (encodeTokens level tokens)).length > sizeMax / 8 := by
    rw [packMsb_length, octets, sizeMax]
    omega
  rw [packetBits, BitReader.bits, if_neg fits]
  exact msbBits_packMsb _

/-- Decoding inverts encoding: the packed codes of well-placed tokens whose expansion fits in the
    rest of the history are accepted, their expansion over the history before the write offset is
    appended to the output and to the history, and the rest of the history is left alone. -/
theorem mppcDecompress_encodeTokens {level : MppcLevel} {state : MppcState}
    (reached : Reachable mppcStep (mppcStateInit level) state) {flags : UInt8}
    (compressed : hasFlag flags packetCompressed = true) {tokens : List Token}
    (placed : WellPlaced level (mppcOpen state flags).cursor tokens)
    (room : (mppcOpen state flags).cursor + (tokens.map Token.width).sum ≤ mppcSize level)
    (decoded : Bytes) :
    let start := (mppcOpen state flags).cursor
    let before := (mppcOpen state flags).memory.window 0 start
    ∃ after, mppcDecompress state flags (packMsb (encodeTokens level tokens)) decoded =
        .ok (.ok, after, decoded ++ expansion before tokens) ∧
      after.writeOffset = start + (expansion before tokens).length ∧
      after.memory.window 0 after.writeOffset = before ++ expansion before tokens ∧
      ∀ i, after.writeOffset ≤ i → after.memory.cell i = (mppcOpen state flags).memory.cell i := by
  obtain ⟨valid, rfl⟩ := mppc_reachable_valid reached
  intro start before
  have sized := mppcOpen_sized valid flags
  have all := placed.encodable room
  obtain ⟨w, applied, held', outside⟩ :=
    mppcApplyAll_expand sized (Window.carries_window _) (Memory.window_length ..) placed room
  have grown := mppcApplyAll_cursor applied
  have ran := mppcDecompressBody_of_tokens sized compressed all
    (packetBits_encodeTokens all (by omega)) (by simpa using padding_lt _) applied decoded
  rw [← mppcDecompress_eq valid] at ran
  have total : (expand before tokens).length = w.cursor := by
    rw [expand_length, grown, Memory.window_length]
  have whole : w.memory.window 0 w.cursor = before ++ expansion before tokens := by
    have read := held'.window_eq (Nat.le_refl _) (Nat.le_refl _) (Nat.le_of_eq total.symm)
    rw [Nat.sub_self, total, Nat.sub_self, List.drop_zero, expand_eq_append] at read
    exact read
  have output : w.memory.window start (w.cursor - start) = expansion before tokens := by
    have split : w.cursor = start + (w.cursor - start) := by omega
    rw [split, Memory.window_add, Nat.zero_add] at whole
    exact (List.append_inj whole (by simp [before])).2
  refine ⟨mppcReady state.level w, by rw [ran, output], ?_, whole, ?_⟩
  · rw [expansion_length]
    exact grown
  · intro i past
    exact outside i (.inr past)

theorem mppcDecompress_encodeTokens_overlap :
    ∃ after, mppcDecompress (mppcStateInit .k8) 0x20
        (packMsb (encodeTokens .k8 [.literal 0xc3, .copy 1 4])) [7] =
        .ok (.ok, after, [7, 0xc3, 0xc3, 0xc3, 0xc3, 0xc3]) ∧ after.writeOffset = 5 := by
  have compressed : hasFlag 0x20 packetCompressed = true := by decide
  have placed : WellPlaced .k8 (mppcOpen (mppcStateInit .k8) 0x20).cursor
      [.literal 0xc3, .copy 1 4] := by decide
  obtain ⟨after, ran, offset, -⟩ :=
    mppcDecompress_encodeTokens Reachable.init compressed placed (by decide) [7]
  exact ⟨after, ran, offset⟩

end LibRdp.Bulk
