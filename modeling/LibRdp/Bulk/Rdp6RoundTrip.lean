import LibRdp.Bulk.Rdp6Decode
import LibRdp.Machine.Run

/-! # Runs of the RDP6 state and the inverse of token encoding

Every state that packets and resets lead to is valid. From every such state a
packet that spells tokens and the end mark decodes to the LZ77 expansion of
these tokens, where the offsets of repeated matches come from the cache and the
history is read as a ring of 64 KiB.
-/

namespace LibRdp.Bulk

open Machine Coding Lz77

inductive Rdp6Call where
  | decode (flags : UInt8) (data decoded : Bytes)
  | reset (clear : Bool)

def rdp6Step (state : Rdp6State) : Rdp6Call → Exec ((Status × Bytes) × Rdp6State)
  | .decode flags data decoded => do
      let (status, state, decoded) ← rdp6Decode state flags data decoded
      pure ((status, decoded), state)
  | .reset clear => do
      let state ← rdp6StateReset state clear
      pure ((.ok, []), state)

theorem rdp6StateInit_valid : rdp6StateInit.Valid where
  sized := rdp6Fresh_sized
  lecSize := rfl
  lomSize := rfl
  prepared ready := by cases ready

variable {state : Rdp6State} {core : Rdp6Core} {bits : List Bool} {stream : List UInt8}

theorem rdp6StateReset_valid (valid : state.Valid) (clear : Bool) :
    ∃ state', rdp6StateReset state clear = .ok state' ∧ state'.Valid := by
  obtain ⟨⟨size, bounded, last, slots, offsets⟩, lecSize, lomSize, prepared⟩ := valid
  cases clear with
  | false =>
    refine ⟨_, rfl, ⟨size, Nat.zero_le _, last, rfl, ?_⟩, lecSize, lomSize, ?_⟩
    · simp [Rdp6State.core]
    · intro ready
      obtain ⟨ready, lec, lom⟩ := prepared ready
      exact ⟨ready, lec, lom⟩
  | true =>
    have cleared : state.history.fill 0 rdp6HistorySize 0 = .ok (Memory.filled 65536 0) :=
      Memory.fill_all 0 size
    refine ⟨⟨Memory.filled 65536 0, 0, [0, 0, 0, 0], state.literalOffset, state.matchLength,
      state.tablesReady⟩, by simp [rdp6StateReset, cleared], rdp6Fresh_sized, lecSize, lomSize, ?_⟩
    intro ready
    obtain ⟨ready, lec, lom⟩ := prepared ready
    exact ⟨ready, lec, lom⟩

theorem rdp6DecodeBody_valid (sized : core.Sized) (flags : UInt8) (data decoded : Bytes) :
    ∃ status core' decoded', rdp6DecodeBody (rdp6Ready core) flags data decoded =
      .ok (status, rdp6Ready core', decoded') ∧ core'.Sized := by
  rcases rdp6DecodeBody_cases sized flags data decoded with
    ⟨-, ran⟩ | ⟨-, -, ran⟩ | ⟨-, -, tokens, bits, rest, core', all, -, applied, ⟨-, ran⟩ | ran⟩
  · exact ⟨_, _, _, ran, sized⟩
  · exact ⟨_, _, _, ran, sized⟩
  · exact ⟨_, _, _, ran, rdp6ApplyAll_sized sized all.inRange applied⟩
  · have after := rdp6ApplyAll_sized sized all.inRange applied
    exact ⟨_, _, _, ran, after.size, sized.bounded, after.last, sized.slots, sized.offsets⟩

theorem rdp6Decode_valid (valid : state.Valid) (flags : UInt8) (data decoded : Bytes) :
    ∃ status core decoded', rdp6Decode state flags data decoded =
      .ok (status, rdp6Ready core, decoded') ∧ core.Sized := by
  rw [rdp6Decode_eq valid]
  cases opened : rdp6Open state.core flags with
  | none => exact ⟨_, _, _, rfl, valid.sized⟩
  | some core => exact rdp6DecodeBody_valid (rdp6Open_sized valid.sized opened) flags data decoded

theorem rdp6_reachable_valid (reached : Reachable rdp6Step rdp6StateInit state) : state.Valid := by
  refine reached.invariant Rdp6State.Valid rdp6StateInit_valid ?_
  intro s call o s' valid taken
  cases call with
  | decode flags data decoded =>
    obtain ⟨status, core, decoded', ran, sized⟩ := rdp6Decode_valid valid flags data decoded
    simp only [rdp6Step, ran, ok_bind, pure_eq_ok, Except.ok.injEq, Prod.mk.injEq] at taken
    obtain ⟨-, rfl⟩ := taken
    exact sized.ready
  | reset clear =>
    obtain ⟨state', ran, valid'⟩ := rdp6StateReset_valid valid clear
    simp only [rdp6Step, ran, ok_bind, pure_eq_ok, Except.ok.injEq, Prod.mk.injEq] at taken
    obtain ⟨-, rfl⟩ := taken
    exact valid'

/-- A new offset enters in front, a repeated one changes places with slot 0. -/
def nextCache (cache : List Nat) : Rdp6Token → List Nat
  | .literal _ => cache
  | .newMatch offset _ => offset :: cache.take 3
  | .repeatMatch slot _ => (cache.set slot (cache.getD 0 0)).set 0 (cache.getD slot 0)

def finalCache (cache : List Nat) (tokens : List Rdp6Token) : List Nat := tokens.foldl nextCache cache

def resolveToken (cache : List Nat) : Rdp6Token → Lz77.Token UInt8
  | .literal b => .literal b
  | .newMatch offset length => .copy offset length
  | .repeatMatch slot length => .copy (cache.getD slot 0) length

def resolve : List Nat → List Rdp6Token → List (Lz77.Token UInt8)
  | _, [] => []
  | cache, t :: tokens => resolveToken cache t :: resolve (nextCache cache t) tokens

def Usable (cache : List Nat) : Rdp6Token → Prop
  | .literal _ => True
  | .newMatch offset _ => 1 ≤ offset
  | .repeatMatch slot _ => cache.getD slot 0 ≠ 0

def Resolvable : List Nat → List Rdp6Token → Prop
  | _, [] => True
  | cache, t :: tokens => Usable cache t ∧ Resolvable (nextCache cache t) tokens

instance (cache : List Nat) (t : Rdp6Token) : Decidable (Usable cache t) :=
  match t with
  | .literal _ => isTrue trivial
  | .newMatch offset _ => inferInstanceAs (Decidable (1 ≤ offset))
  | .repeatMatch slot _ => inferInstanceAs (Decidable (cache.getD slot 0 ≠ 0))

instance Resolvable.decidable :
    (cache : List Nat) → (tokens : List Rdp6Token) → Decidable (Resolvable cache tokens)
  | _, [] => isTrue trivial
  | cache, t :: tokens =>
      have := Resolvable.decidable (nextCache cache t) tokens
      inferInstanceAs (Decidable (_ ∧ _))

theorem cacheAfter_eq_nextCache {cache : List Nat} (slots : cache.length = 4) (t : Rdp6Token) :
    cacheAfter cache t = nextCache cache t := by
  cases t with
  | literal b => rfl
  | newMatch offset length => exact cachePush_eq slots offset
  | repeatMatch slot length => rfl

variable {length offset : Nat}

theorem LengthSpelled.two_le (isLength : LengthSpelled length bits) : 2 ≤ length := by
  obtain ⟨symbol, extra, known, -, rfl, -⟩ := isLength
  have shortest : ∀ s < rdp6LomBits.length, 2 ≤ rdp6LomBase.getD s 0 := by decide
  have := shortest symbol known
  omega

theorem rdp6Source_eq_back {cursor : Nat} (bounded : cursor ≤ 65535) (low : 1 ≤ offset)
    (high : offset ≤ 65535) : rdp6Source cursor offset = back 65536 cursor offset := by
  simp only [rdp6Source, back]
  split <;> omega

theorem rdp6CopyWindow_expand {w : Window UInt8} (size : w.memory.size = 65536)
    (held : w.Carries 65536 stream) (known : 65536 ≤ stream.length) (low : 1 ≤ offset)
    (high : offset ≤ 65535) (long : 2 ≤ length) (room : w.cursor + length ≤ 65535) :
    rdp6CopyWindow w offset length = some (w.copy (rdp6Source w.cursor offset) length) ∧
      (w.copy (rdp6Source w.cursor offset) length).Carries 65536 (extend stream offset length) := by
  refine ⟨if_pos (by omega), ?_⟩
  have copied := Window.copy_carries held known low (by omega) (by omega) length (by omega)
  rw [size, Nat.min_eq_right (by omega), ← rdp6Source_eq_back (by omega) low high] at copied
  exact copied

theorem rdp6Write_expand {t : Rdp6Token} (isToken : t.Spelled bits) (sized : core.Sized)
    (held : core.window.Carries 65536 stream) (known : 65536 ≤ stream.length)
    (usable : Usable core.cache t)
    (room : core.window.cursor + (resolveToken core.cache t).width ≤ 65535) :
    ∃ w, rdp6Write core.cache core.window t = some w ∧
      w.Carries 65536 ((resolveToken core.cache t).apply stream) ∧
      w.cursor = core.window.cursor + (resolveToken core.cache t).width ∧
      ∀ i, i < core.window.cursor ∨ w.cursor ≤ i →
        w.memory.cell i = core.window.memory.cell i := by
  have size := sized.size
  have copied : ∀ source n i, i < core.window.cursor ∨ (core.window.copy source n).cursor ≤ i →
      (core.window.copy source n).memory.cell i = core.window.memory.cell i := by
    intro source n i away
    rw [Window.copy_cursor] at away
    exact Window.copy_cell_of_outside _ _ _ away
  cases isToken with
  | literal b =>
    simp only [resolveToken, Token.width] at room
    refine ⟨core.window.push b, if_pos (by omega), ?_, rfl, ?_⟩
    · exact Window.push_carries held known b (by omega) (by omega) (by omega)
    · intro i away
      simp only [Window.push_cursor] at away
      exact Window.push_cell_of_ne _ _ (by omega)
  | @newMatch index extra length bits isIndex low isLength =>
    have inRange := (Rdp6Token.Spelled.newMatch isIndex low isLength).inRange
    obtain ⟨done, held'⟩ := rdp6CopyWindow_expand size held known usable inRange isLength.two_le room
    exact ⟨_, done, held', Window.copy_cursor _ _ _, copied _ _⟩
  | @repeatMatch slot length bits isSlot isLength =>
    have stored : core.cache.getD slot 0 ≤ 65535 := by
      have inside : slot < core.cache.length := by
        rw [sized.slots]
        exact isSlot
      rw [List.getD_eq_getElem?_getD, List.getElem?_eq_getElem inside]
      exact sized.offsets _ (List.getElem_mem inside)
    obtain ⟨done, held'⟩ := rdp6CopyWindow_expand size held known
      (Nat.one_le_iff_ne_zero.mpr usable) stored isLength.two_le room
    exact ⟨_, done, held', Window.copy_cursor _ _ _, copied _ _⟩

theorem rdp6ApplyAll_expand {tokens : List Rdp6Token} (all : SpelledAll tokens bits)
    (sized : core.Sized) (held : core.window.Carries 65536 stream) (known : 65536 ≤ stream.length)
    (resolvable : Resolvable core.cache tokens)
    (room : core.window.cursor + ((resolve core.cache tokens).map Token.width).sum ≤ 65535) :
    ∃ w, rdp6ApplyAll core tokens = some ⟨w, finalCache core.cache tokens⟩ ∧
      w.Carries 65536 (expand stream (resolve core.cache tokens)) ∧
      w.cursor = core.window.cursor + ((resolve core.cache tokens).map Token.width).sum ∧
      ∀ i, i < core.window.cursor ∨ w.cursor ≤ i → w.memory.cell i = core.window.memory.cell i := by
  induction all generalizing core stream with
  | nil => exact ⟨core.window, rfl, held, rfl, fun _ _ => rfl⟩
  | @cons t tokens a b isToken all ih =>
    obtain ⟨usable, resolvable⟩ := resolvable
    rw [resolve, List.map_cons, List.sum_cons] at room
    obtain ⟨w₁, written, held₁, moved₁, outside₁⟩ :=
      rdp6Write_expand isToken sized held known usable (by omega)
    have applied : rdp6Apply core t = some ⟨w₁, nextCache core.cache t⟩ := by
      rw [rdp6Apply, written, Option.map_some, cacheAfter_eq_nextCache sized.slots]
    have grown := Token.apply_length stream (resolveToken core.cache t)
    obtain ⟨w, rest, held', moved, outside⟩ := ih (rdp6Apply_sized sized isToken.inRange applied)
      held₁ (by omega) resolvable (by simp only [moved₁]; omega)
    simp only at moved outside
    refine ⟨w, by simp [rdp6ApplyAll, applied, rest, finalCache], held', ?_, ?_⟩
    · rw [moved, moved₁, resolve, List.map_cons, List.sum_cons]
      omega
    · intro i away
      rw [outside i (by omega), outside₁ i (by omega)]

/-- Decoding inverts encoding: a packet that spells tokens with usable offsets and the end mark,
    whatever bits follow, is accepted when the expansion leaves the last history byte free. The
    expansion over the history, read as a ring, is appended to the output and to the history, and
    the cache is the one its discipline prescribes. -/
theorem rdp6Decode_spelled {state : Rdp6State} (reached : Reachable rdp6Step rdp6StateInit state)
    {flags : UInt8} (compressed : hasFlag flags packetCompressed = true) {core : Rdp6Core}
    (opened : rdp6Open state.core flags = some core) {tokens : List Rdp6Token}
    {bits padding : List Bool} (all : SpelledAll tokens bits) {data : Bytes}
    (spelled : lsbBits data = bits ++ (lecCode 256 ++ padding)) (long : 4 ≤ data.length)
    (resolvable : Resolvable core.cache tokens)
    (room : core.window.cursor + ((resolve core.cache tokens).map Token.width).sum ≤ 65535)
    (decoded : Bytes) :
    let output := expansion core.window.ring (resolve core.cache tokens)
    ∃ after, rdp6Decode state flags data decoded = .ok (.ok, after, decoded ++ output) ∧
      after.offsetCache = finalCache core.cache tokens ∧
      after.writeOffset = core.window.cursor + output.length ∧
      after.history.window core.window.cursor output.length = output ∧
      ∀ i, i < core.window.cursor ∨ after.writeOffset ≤ i →
        after.history.cell i = core.window.memory.cell i := by
  intro output
  have valid := rdp6_reachable_valid reached
  have sized := rdp6Open_sized valid.sized opened
  have inside : core.window.cursor ≤ core.window.memory.size := by
    rw [sized.size]
    exact sized.bounded.trans (by decide)
  have around : core.window.Carries 65536 core.window.ring := by
    have := Window.carries_ring inside
    rwa [sized.size] at this
  have full : core.window.ring.length = 65536 := by rw [Window.ring_length inside, sized.size]
  obtain ⟨w, applied, held, moved, outside⟩ :=
    rdp6ApplyAll_expand all sized around (Nat.le_of_eq full.symm) resolvable room
  have count : output.length = w.cursor - core.window.cursor := by
    rw [moved, expansion_length]
    omega
  have written : w.memory.window core.window.cursor (w.cursor - core.window.cursor) = output := by
    have total := expand_length core.window.ring (resolve core.cache tokens)
    have read := held.window_eq (n := w.cursor - core.window.cursor) (by omega) (by omega) (by omega)
    rw [show w.cursor - (w.cursor - core.window.cursor) = core.window.cursor by omega] at read
    rw [read, show (expand core.window.ring (resolve core.cache tokens)).length -
      (w.cursor - core.window.cursor) = core.window.ring.length by omega]
    rfl
  have ran := rdp6DecodeBody_code sized compressed long all spelled applied decoded
  refine ⟨rdp6Ready ⟨w, finalCache core.cache tokens⟩, ?_, rfl, ?_, ?_, outside⟩
  · rw [rdp6Decode_eq valid, opened]
    simp only [ran, written]
  · rw [count, rdp6Ready_writeOffset]
    simp only
    omega
  · rw [count]
    exact written

theorem rdp6Decode_abcabc : ∃ after,
    rdp6Decode rdp6StateInit 0x20 [0x7b, 0xee, 0xb5, 0xf7, 0x7f, 0xfc, 0x5f, 0x00] [7] =
      .ok (.ok, after, [7, 0x61, 0x62, 0x63, 0x61, 0x62, 0x63]) ∧
    after.offsetCache = [3, 0, 0, 0] ∧ after.writeOffset = 6 := by
  have compressed : hasFlag 0x20 packetCompressed = true := by decide
  have opened : rdp6Open rdp6StateInit.core 0x20 = some rdp6Fresh := rfl
  have length : LengthSpelled 3 (lomCode 1 ++ lsb 0 0) := ⟨1, 0, by decide, by decide, rfl, rfl⟩
  have all : SpelledAll [.literal 0x61, .literal 0x62, .literal 0x63, .newMatch 3 3]
      (lecCode 0x61 ++ (lecCode 0x62 ++ (lecCode 0x63 ++
        (lecCode 260 ++ (lsb 0 0 ++ (lomCode 1 ++ lsb 0 0)) ++ [])))) :=
    .cons (.literal 0x61) (.cons (.literal 0x62) (.cons (.literal 0x63)
      (.cons (.newMatch (show 3 < 32 by decide) (show 0 < 2 ^ 0 by decide) length) .nil)))
  have spelled : lsbBits [0x7b, 0xee, 0xb5, 0xf7, 0x7f, 0xfc, 0x5f, 0x00] =
      (lecCode 0x61 ++ (lecCode 0x62 ++ (lecCode 0x63 ++
        (lecCode 260 ++ (lsb 0 0 ++ (lomCode 1 ++ lsb 0 0)) ++ [])))) ++
      (lecCode 256 ++ List.replicate 9 false) := by
    decide +kernel
  have expanded : ∀ stream : List UInt8, expansion stream
      (resolve rdp6Fresh.cache [.literal 0x61, .literal 0x62, .literal 0x63, .newMatch 3 3]) =
        [0x61, 0x62, 0x63, 0x61, 0x62, 0x63] := by
    intro stream
    simp [expansion, resolve, resolveToken, expand, Token.apply, extend, recent]
  obtain ⟨after, ran, cache, offset, -⟩ := rdp6Decode_spelled Reachable.init compressed opened all
    spelled (by decide) (by decide) (by decide) [7]
  rw [expanded] at ran offset
  exact ⟨after, ran, cache, offset⟩

end LibRdp.Bulk
