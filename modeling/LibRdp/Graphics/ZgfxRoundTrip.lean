import LibRdp.Graphics.ZgfxTokens

/-! # RDP8 decoding inverts token encoding

A segment is a list of literals, matches and raw runs. Encoded with the codes of
the decoder's own table, it is expanded relative to everything put out since the
decompressor was new or reset, wherever the ring's end falls.
-/

namespace LibRdp.Graphics

open Machine Coding Lz77

inductive ZgfxToken where
  | literal (value : UInt8)
  | copy (distance count : Nat)
  | raw (bytes : Bytes)
  deriving Repr, DecidableEq

def ZgfxToken.plain : ZgfxToken → List (Token UInt8)
  | .literal value => [.literal value]
  | .copy distance count => [.copy distance count]
  | .raw bytes => bytes.map .literal

/-- What a list of tokens puts out after `stream`. -/
def zgfxExpansion (stream : Bytes) (tokens : List ZgfxToken) : Bytes :=
  expansion stream (tokens.flatMap ZgfxToken.plain)

def literalEntry (value : UInt8) : GraphicsToken :=
  (graphicsTokens.find? (fun t => !t.isMatch && t.valueBits == 0 && t.valueBase == value.toNat)).getD
    ⟨1, 0, 8, false, 0⟩

def matchEntry (distance : Nat) : GraphicsToken :=
  (graphicsTokens.find? (fun t => t.isMatch && t.valueBase ≤ distance &&
    distance < t.valueBase + 2 ^ t.valueBits)).getD ⟨5, 17, 5, true, 0⟩

/-- Zero bits from bit position `pos` up to the next byte. -/
def padding (pos : Nat) : List Bool := List.replicate ((8 - pos % 8) % 8) false

/-- The code of a raw run up to its padding: distance zero and the number of bytes. -/
def rawHead (bytes : Bytes) : List Bool := (matchEntry 0).spell 0 ++ msb 15 bytes.length

/-- The code of a token at bit position `pos`. -/
def ZgfxToken.encode (pos : Nat) : ZgfxToken → List Bool
  | .literal value => (literalEntry value).spell value.toNat
  | .copy distance count => (matchEntry distance).spell distance ++ lengthCode count
  | .raw bytes => rawHead bytes ++ (padding (pos + (rawHead bytes).length) ++ msbBits bytes)

def encodeTokens : Nat → List ZgfxToken → List Bool
  | _, [] => []
  | pos, t :: tokens => t.encode pos ++ encodeTokens (pos + (t.encode pos).length) tokens

/-- The bytes of a segment: the last one counts the unused bits of the one before. -/
def encodeSegment (tokens : List ZgfxToken) : Bytes :=
  let bits := encodeTokens 0 tokens
  packMsb bits ++ [UInt8.ofNat (8 * octets bits - bits.length)]

/-- Distances reach back into the stream and the ring, and raw runs have a 15-bit length. -/
def ZgfxToken.Placed (stream : Bytes) : ZgfxToken → Prop
  | .literal _ => True
  | .copy distance count => 1 ≤ distance ∧ distance ≤ min stream.length 2500000 ∧ 3 ≤ count
  | .raw bytes => bytes.length ≤ 32767

def WellPlaced : Bytes → List ZgfxToken → Prop
  | _, [] => True
  | stream, t :: tokens => t.Placed stream ∧ WellPlaced (expand stream t.plain) tokens

theorem literalEntry_spec (value : UInt8) :
    literalEntry value ∈ graphicsTokens ∧ (literalEntry value).isMatch = false ∧
      (literalEntry value).valueBase ≤ value.toNat ∧
      value.toNat < (literalEntry value).valueBase + 2 ^ (literalEntry value).valueBits ∧
      ¬ ((literalEntry value).prefixLength = 1 ∧ isShortLiteral value.toNat = true) := by
  have bound := value.toNat_lt
  cases found : graphicsTokens.find? (fun t => !t.isMatch && t.valueBits == 0 &&
      t.valueBase == value.toNat) with
  | some entry =>
    have listed := List.mem_of_find?_eq_some found
    have fits := List.find?_some found
    simp only [Bool.and_eq_true, Bool.not_eq_true', beq_iff_eq] at fits
    obtain ⟨⟨literal, noBits⟩, base⟩ := fits
    have long : ∀ t ∈ graphicsTokens, t.isMatch = false → t.valueBits = 0 → t.prefixLength ≠ 1 := by
      decide
    rw [literalEntry, found, Option.getD_some]
    refine ⟨listed, literal, by omega, by rw [noBits]; omega, ?_⟩
    rintro ⟨one, -⟩
    exact long entry listed literal noBits one
  | none =>
    have short : ∀ v < 256, isShortLiteral v = true → graphicsTokens.any (fun t => !t.isMatch &&
        t.valueBits == 0 && t.valueBase == v) = true := by
      decide +kernel
    rw [literalEntry, found, Option.getD_none]
    refine ⟨by decide, rfl, Nat.zero_le _, by simpa using bound, ?_⟩
    rintro ⟨-, isShort⟩
    obtain ⟨t, listed, fits⟩ := List.any_eq_true.mp (short value.toNat bound isShort)
    exact List.find?_eq_none.mp found t listed fits

theorem matchEntry_spec {distance : Nat} (reach : distance ≤ 2500000) :
    matchEntry distance ∈ graphicsTokens ∧ (matchEntry distance).isMatch = true ∧
      (matchEntry distance).valueBase ≤ distance ∧
      distance < (matchEntry distance).valueBase + 2 ^ (matchEntry distance).valueBits := by
  cases found : graphicsTokens.find? (fun t => t.isMatch && t.valueBase ≤ distance &&
      distance < t.valueBase + 2 ^ t.valueBits) with
  | some entry =>
    have listed := List.mem_of_find?_eq_some found
    have fits := List.find?_some found
    simp only [Bool.and_eq_true, decide_eq_true_eq] at fits
    rw [matchEntry, found, Option.getD_some]
    exact ⟨listed, fits.1.1, fits.1.2, fits.2⟩
  | none =>
    -- The classes follow one another without a gap.
    have outside := List.find?_eq_none.mp found
    simp [graphicsTokens] at outside
    omega

/-- The segment and the buffer take `n` bytes more. -/
structure Room (out : Output) (n : Nat) : Prop where
  segment : out.segmentOutput + n ≤ 65535
  buffer : out.decoded.length + n ≤ bulkMaxDecoded

/-- The output after `new`, with the decompressor `d`. -/
def Output.after (out : Output) (d : Decompressor) (new : Bytes) : Output :=
  ⟨d, out.decoded ++ new, out.segmentOutput + new.length⟩

theorem Output.after_after (out : Output) (d d' : Decompressor) (a b : Bytes) :
    (out.after d a).after d' b = out.after d' (a ++ b) := by
  simp [Output.after, Nat.add_assoc]

section Room

variable {out : Output} {stream : Bytes}

theorem Room.after {a b : Nat} (room : Room out (a + b)) (d : Decompressor) {new : Bytes}
    (length : new.length = a) : Room (out.after d new) b := by
  obtain ⟨segment, buffer⟩ := room
  subst length
  refine ⟨?_, ?_⟩
  · simp only [Output.after]
    omega
  · simp only [Output.after, List.length_append]
    omega

theorem outputByte_puts (carried : Carried out.decompressor stream) (room : Room out 1)
    (value : UInt8) :
    ∃ d, outputByte out value = .ok (.ok, out.after d [value]) ∧ Carried d (stream ++ [value]) ∧
      d.historyIndex = next bulkHistorySize out.decompressor.historyIndex ∧ d.history ≠ none := by
  obtain ⟨segment, buffer⟩ := room
  exact outputByte_room carried (by omega) (by omega) value

private theorem expansion_copy_succ (stream : Bytes) (distance n : Nat) :
    expansion stream [.copy distance (n + 1)] = recent stream distance ::
      expansion (stream ++ [recent stream distance]) [.copy distance n] := by
  have whole : expand stream [.copy distance (n + 1)] =
      expand (stream ++ [recent stream distance]) [.copy distance n] := rfl
  rw [expand_eq_append, expand_eq_append, List.append_assoc] at whole
  exact List.append_cancel_left whole

theorem matchLoop_puts (count : Nat) {source distance : Nat}
    (carried : Carried out.decompressor stream) (stored : out.decompressor.history ≠ none)
    (low : 1 ≤ distance) (high : distance ≤ min stream.length bulkHistorySize)
    (start : source = back bulkHistorySize out.decompressor.historyIndex distance)
    (room : Room out count) :
    ∃ d, matchLoop count source out =
        .ok (.ok, out.after d (expansion stream [.copy distance count])) ∧
      Carried d (stream ++ expansion stream [.copy distance count]) := by
  induction count generalizing out stream source with
  | zero =>
    have none_ : expansion stream [.copy distance 0] = [] := by
      simp [expansion, expand, Token.apply, extend]
    rw [none_]
    exact ⟨out.decompressor, by simp [matchLoop, Output.after], by simpa using carried⟩
  | succ n ih =>
    cases here : out.decompressor.history with
    | none => exact absurd here stored
    | some history =>
      obtain ⟨size, held⟩ := carried.allocated history here
      have index := carried.index
      have inside : source < history.size := by
        rw [start, size]
        exact back_lt index low (by omega)
      have value : history.cell source = recent stream distance := by
        rw [start]
        exact held distance low (by rw [carried.filled]; exact high)
      have first : Room out 1 := ⟨by have := room.segment; omega, by have := room.buffer; omega⟩
      obtain ⟨d, ran, carried', moved, stored'⟩ :=
        outputByte_puts carried first (recent stream distance)
      have after : d.historyIndex < bulkHistorySize := carried'.index
      have further : (if source + 1 = bulkHistorySize then 0 else source + 1) =
          back bulkHistorySize (out.after d [recent stream distance]).decompressor.historyIndex
            distance := by
        have step := next_back (follows_next bulkHistorySize out.decompressor.historyIndex) low
          (show distance ≤ bulkHistorySize by omega) (by rw [← moved]; exact after)
        rw [← start, ← moved] at step
        exact step
      have rest : Room out (1 + n) := by
        rw [Nat.add_comm]
        exact room
      have reach : distance ≤ (stream ++ [recent stream distance]).length := by
        rw [List.length_append]
        exact Nat.le_add_right_of_le (le_min_iff.mp high).1
      obtain ⟨d', ran', carried''⟩ := ih (show Carried
        (out.after d [recent stream distance]).decompressor _ from carried') stored'
        (le_min reach (le_min_iff.mp high).2) further (rest.after d rfl)
      refine ⟨d', ?_, ?_⟩
      · rw [expansion_copy_succ, ← List.singleton_append, ← Output.after_after out d d']
        simp only [matchLoop, here, Memory.load_of_lt inside, ok_bind, value, ran, if_true, ran']
      · rw [expansion_copy_succ, ← List.singleton_append, ← List.append_assoc]
        exact carried''

theorem copyMatch_puts {distance count : Nat} (carried : Carried out.decompressor stream)
    (low : 1 ≤ distance) (high : distance ≤ min stream.length bulkHistorySize)
    (room : Room out count) :
    ∃ d, copyMatch out distance count =
        .ok (.ok, out.after d (expansion stream [.copy distance count])) ∧
      Carried d (stream ++ expansion stream [.copy distance count]) := by
  have stored : out.decompressor.history ≠ none := by
    intro unallocated
    rw [(carried.unallocated unallocated).2, List.length_nil] at high
    omega
  have index := carried.index
  have filled := carried.filled
  have guard : ¬ (out.decompressor.history.isNone ∨ distance = 0 ∨
      distance > out.decompressor.historyFilled ∨ distance > bulkHistorySize) := by
    rintro (unallocated | other)
    · exact stored (Option.isNone_iff_eq_none.mp unallocated)
    · omega
  obtain ⟨d, ran, carried'⟩ := matchLoop_puts count carried stored low high rfl room
  refine ⟨d, ?_, carried'⟩
  simp only [copyMatch, if_neg guard]
  by_cases near : distance ≤ out.decompressor.historyIndex
  · rw [back, if_pos near] at ran
    rw [if_pos near, checkedSub_of_le near, ok_bind, ran]
  rw [back, if_neg near] at ran
  rw [if_neg near, checkedSub_of_le (by omega), ok_bind, checkedSub_of_le (by omega), ok_bind,
    ← ran]
  congr 1
  omega

theorem unencodedLoop_puts (bytes : Bytes) {current : Bytes} {n cache cacheBits : Nat}
    (carried : Carried out.decompressor stream) (room : Room out bytes.length) :
    ∃ d, unencodedLoop bytes.length out ⟨bytes ++ current, 8 * bytes.length + n, cache, cacheBits⟩ =
        .ok (.ok, out.after d bytes, ⟨current, n, cache, cacheBits⟩) ∧
      Carried d (stream ++ bytes) := by
  induction bytes generalizing out stream with
  | nil =>
    exact ⟨out.decompressor, by simp [unencodedLoop, Output.after], by simpa using carried⟩
  | cons value bytes ih =>
    have whole : Room out (1 + bytes.length) := by
      rw [Nat.add_comm]
      exact room
    have first : Room out 1 := ⟨by have := whole.segment; omega, by have := whole.buffer; omega⟩
    obtain ⟨d, ran, carried', -, -⟩ := outputByte_puts carried first value
    obtain ⟨d', ran', carried''⟩ := ih (show Carried (out.after d [value]).decompressor _ from carried')
      (whole.after d rfl)
    have fewer : checkedSub (8 * (value :: bytes).length + n) 8 = .ok (8 * bytes.length + n) := by
      rw [List.length_cons, checkedSub_of_le (by omega)]
      congr 1
      omega
    refine ⟨d', ?_, ?_⟩
    · rw [← List.singleton_append, ← Output.after_after out d d', List.singleton_append,
        List.length_cons]
      simp only [List.length_cons] at fewer
      simp only [unencodedLoop, List.cons_append, ran, ok_bind, if_true, fewer, ran']
    · simpa using carried''

end Room

section Tokens

variable {out : Output} {stream : Bytes} {reader : BitReader} {unused pos : Nat} {rest : List Bool}

theorem expand_literals (stream bytes : Bytes) : expand stream (bytes.map .literal) = stream ++ bytes := by
  induction bytes generalizing stream with
  | nil => simp
  | cons b bytes ih => rw [List.map_cons, expand_cons, ih]; simp [Token.apply]

theorem expansion_literals (stream bytes : Bytes) :
    expansion stream (bytes.map .literal) = bytes := by
  rw [expansion, expand_literals, List.drop_left]

theorem copyUnencoded_puts {filler : List Bool} {bytes : Bytes}
    (spells : reader.Spells unused (filler ++ (msbBits bytes ++ rest)))
    (toByte : filler.length = reader.cacheBits) (carried : Carried out.decompressor stream)
    (room : Room out bytes.length) :
    ∃ d reader', copyUnencoded out reader bytes.length = .ok (.ok, out.after d bytes, reader') ∧
      Carried d (stream ++ bytes) ∧ reader'.Spells unused rest := by
  obtain ⟨current, split, spells'⟩ := spells.aligned toByte
  have remaining := spells.remaining
  simp only [List.length_append, msbBits_length] at remaining
  have left : reader.bitsRemaining - reader.cacheBits = 8 * bytes.length + rest.length := by omega
  obtain ⟨d, ran, carried'⟩ := @unencodedLoop_puts out stream bytes current rest.length 0 0 carried room
  refine ⟨d, ⟨current, rest.length, 0, 0⟩, ?_, carried', spells'⟩
  simp only [copyUnencoded]
  rw [if_neg (by omega), left, split, if_neg (by rw [List.length_append]; omega), ran]

theorem decodeToken_puts {t : ZgfxToken} (placed : t.Placed stream)
    (spells : reader.Spells unused (t.encode pos ++ rest))
    (toByte : (pos + (t.encode pos ++ rest).length + unused) % 8 = 0)
    (carried : Carried out.decompressor stream)
    (room : Room out (expansion stream t.plain).length) :
    ∃ d reader', decodeToken out reader =
        .ok (.ok, out.after d (expansion stream t.plain), reader') ∧
      Carried d (stream ++ expansion stream t.plain) ∧ reader'.Spells unused rest := by
  cases t with
  | literal value =>
    obtain ⟨listed, literal, low, high, own⟩ := literalEntry_spec value
    obtain ⟨reader₁, reader₂, found, read, spells'⟩ := findToken_spell listed low high spells
    have new : expansion stream (ZgfxToken.literal value).plain = [value] :=
      expansion_literals stream [value]
    rw [new] at room ⊢
    obtain ⟨d, ran, carried', -, -⟩ := outputByte_puts carried room value
    refine ⟨d, reader₂, ?_, carried', spells'⟩
    simp only [decodeToken, found, read, runToken, literal, if_true, if_neg own, UInt8.ofNat_toNat,
      ran, ok_bind, pure_eq_ok]
  | copy distance count =>
    obtain ⟨low, high, long⟩ := placed
    have reach : distance ≤ 2500000 := by omega
    obtain ⟨listed, isMatch, base, top⟩ := matchEntry_spec reach
    rw [ZgfxToken.encode, List.append_assoc] at spells
    obtain ⟨reader₁, reader₂, found, read, spells₂⟩ := findToken_spell listed base top spells
    have new : (expansion stream (ZgfxToken.copy distance count).plain).length = count := by
      simp [ZgfxToken.plain, Token.width]
    rw [new] at room
    have capped := room.segment
    obtain ⟨reader₃, measured, spells₃⟩ := readLength_spells long (by omega) spells₂
    obtain ⟨d, ran, carried'⟩ := copyMatch_puts carried low high room
    refine ⟨d, reader₃, ?_, carried', spells₃⟩
    simp only [decodeToken, found, read, runToken, isMatch, measured]
    rw [if_neg (by decide), if_neg (by omega), ran]
    rfl
  | raw bytes =>
    have short : bytes.length ≤ 32767 := placed
    obtain ⟨listed, isMatch, base, top⟩ := matchEntry_spec (Nat.zero_le 2500000)
    have new : expansion stream (ZgfxToken.raw bytes).plain = bytes :=
      expansion_literals stream bytes
    rw [new] at room ⊢
    obtain ⟨filler, named⟩ : ∃ filler, filler = padding (pos + (rawHead bytes).length) := ⟨_, rfl⟩
    have width : filler.length = (8 - (pos + (rawHead bytes).length) % 8) % 8 := by
      rw [named, padding, List.length_replicate]
    rw [ZgfxToken.encode, ← named] at spells toByte
    simp only [List.length_append] at toByte
    rw [List.append_assoc, List.append_assoc, rawHead, List.append_assoc] at spells
    obtain ⟨reader₁, reader₂, found, read, spells₂⟩ := findToken_spell listed base top spells
    obtain ⟨reader₃, counted, spells₃⟩ := readBits_number spells₂ (by decide)
      (show bytes.length < 2 ^ 15 by omega)
    have cacheBits := spells₃.cacheBits_eq
    simp only [List.length_append] at cacheBits
    obtain ⟨d, reader₄, ran, carried', spells₄⟩ :=
      copyUnencoded_puts spells₃ (by omega) carried room
    refine ⟨d, reader₄, ?_, carried', spells₄⟩
    simp only [decodeToken, found, read, runToken, isMatch, counted]
    rw [if_neg (by decide), if_pos trivial, ran]

theorem ZgfxToken.encode_pos {t : ZgfxToken} (placed : t.Placed stream) (pos : Nat) :
    0 < (t.encode pos).length := by
  have spelled : ∀ token ∈ graphicsTokens, ∀ v, 0 < (token.spell v).length := by
    intro token listed v
    have long : ∀ token ∈ graphicsTokens, 0 < token.prefixLength := by decide
    rw [GraphicsToken.spell, GraphicsToken.code, List.length_append, msb_length]
    exact Nat.add_pos_left (long token listed) _
  cases t with
  | literal value => exact spelled _ (literalEntry_spec value).1 _
  | copy distance count =>
    obtain ⟨-, high, -⟩ := placed
    have listed := (matchEntry_spec (show distance ≤ 2500000 by omega)).1
    rw [ZgfxToken.encode, List.length_append]
    exact Nat.add_pos_left (spelled _ listed _) _
  | raw bytes =>
    have listed := (matchEntry_spec (Nat.zero_le 2500000)).1
    rw [ZgfxToken.encode, rawHead, List.append_assoc, List.length_append]
    exact Nat.add_pos_left (spelled _ listed _) _

theorem zgfxExpansion_cons (stream : Bytes) (t : ZgfxToken) (tokens : List ZgfxToken) :
    zgfxExpansion stream (t :: tokens) =
      expansion stream t.plain ++ zgfxExpansion (stream ++ expansion stream t.plain) tokens := by
  have whole : expand stream ((t :: tokens).flatMap ZgfxToken.plain) =
      expand (expand stream t.plain) (tokens.flatMap ZgfxToken.plain) := by
    rw [List.flatMap_cons, expand, List.foldl_append]
    rfl
  rw [expand_eq_append, expand_eq_append, expand_eq_append, List.append_assoc] at whole
  exact List.append_cancel_left whole

theorem decodeLoop_puts {tokens : List ZgfxToken} {fuel : Nat} (placed : WellPlaced stream tokens)
    (spells : reader.Spells unused (encodeTokens pos tokens))
    (toByte : (pos + (encodeTokens pos tokens).length + unused) % 8 = 0)
    (carried : Carried out.decompressor stream)
    (room : Room out (zgfxExpansion stream tokens).length)
    (enough : (encodeTokens pos tokens).length < fuel) :
    ∃ d, decodeLoop fuel out reader = .ok (.ok, out.after d (zgfxExpansion stream tokens)) ∧
      Carried d (stream ++ zgfxExpansion stream tokens) := by
  induction tokens generalizing fuel out stream reader pos with
  | nil =>
    obtain ⟨fuel, rfl⟩ : ∃ n, fuel = n + 1 := ⟨fuel - 1, by omega⟩
    have done : reader.bitsRemaining = 0 := spells.remaining
    have none_ : zgfxExpansion stream [] = [] := by simp [zgfxExpansion, expansion]
    rw [none_]
    exact ⟨out.decompressor, by simp [decodeLoop, done, Output.after], by simpa using carried⟩
  | cons t tokens ih =>
    obtain ⟨fuel, rfl⟩ : ∃ n, fuel = n + 1 := ⟨fuel - 1, by omega⟩
    obtain ⟨here, later⟩ := placed
    have long := ZgfxToken.encode_pos here pos
    rw [expand_eq_append] at later
    rw [zgfxExpansion_cons] at room ⊢
    rw [List.length_append] at room
    have first : Room out (expansion stream t.plain).length :=
      ⟨by have := room.segment; omega, by have := room.buffer; omega⟩
    have more : reader.bitsRemaining > 0 := by
      rw [spells.remaining, encodeTokens, List.length_append]
      omega
    obtain ⟨d, reader', ran, carried', spells'⟩ :=
      decodeToken_puts here spells toByte carried first
    rw [encodeTokens, List.length_append] at toByte enough
    obtain ⟨d', ran', carried''⟩ := ih later spells' (by omega)
      (show Carried (out.after d (expansion stream t.plain)).decompressor _ from carried')
      (room.after d rfl) (show _ < fuel by omega)
    refine ⟨d', ?_, ?_⟩
    · rw [← Output.after_after out d d', decodeLoop, if_pos more, ran]
      simp only [ok_bind, if_true, ran']
    · rw [← List.append_assoc]
      exact carried''

end Tokens

section Segments

variable {d : Decompressor} {stream : Bytes} {tokens : List ZgfxToken}

theorem bitReaderInit_encodeSegment (small : 8 * (encodeSegment tokens).length < 2 ^ 32) :
    ∃ reader, bitReaderInit (encodeSegment tokens) = some reader ∧
      reader.Spells (8 * octets (encodeTokens 0 tokens) - (encodeTokens 0 tokens).length)
        (encodeTokens 0 tokens) := by
  obtain ⟨bits, named⟩ : ∃ bits, bits = encodeTokens 0 tokens := ⟨_, rfl⟩
  have segment : encodeSegment tokens =
      packMsb bits ++ [UInt8.ofNat (8 * octets bits - bits.length)] := by rw [named]; rfl
  rw [segment, List.length_append, packMsb_length, List.length_singleton] at small
  rw [segment, ← named]
  have unused := padding_lt bits
  obtain ⟨k, count⟩ : ∃ k, k = 8 * octets bits - bits.length := ⟨_, rfl⟩
  rw [← count] at unused ⊢
  have enough : bits.length ≤ 8 * octets bits := by
    simp only [octets]
    omega
  have trailer : ∀ k < 8, UInt8.ofNat k &&& 0xf8 = 0 ∧ (UInt8.ofNat k).toNat = k := by decide
  obtain ⟨flags, value⟩ := trailer k unused
  refine ⟨⟨packMsb bits, bits.length, 0, 0⟩, ?_, Nat.two_pow_pos 0, Nat.succ_pos 7, rfl,
    List.replicate k false, List.length_replicate, ?_⟩
  · simp only [bitReaderInit, List.getLast?_append, List.getLast?_singleton, Option.some_or,
      List.dropLast_concat, List.length_append, packMsb_length, List.length_singleton,
      Nat.add_sub_cancel, value]
    rw [if_neg (by rw [flags]; simp)]
    congr 2
    omega
  · rw [msbBits_packMsb, count]
    rfl

theorem decodeCompressedSegment_encodeSegment (carried : Carried d stream)
    (placed : WellPlaced stream tokens) (short : (zgfxExpansion stream tokens).length ≤ 65535)
    (small : 8 * (encodeSegment tokens).length < 2 ^ 32) {decoded : Bytes}
    (room : decoded.length + (zgfxExpansion stream tokens).length ≤ bulkMaxDecoded) :
    ∃ d', decodeCompressedSegment d (encodeSegment tokens) decoded =
        .ok (.ok, d', decoded ++ zgfxExpansion stream tokens) ∧
      Carried d' (stream ++ zgfxExpansion stream tokens) := by
  obtain ⟨reader, init, spells⟩ := bitReaderInit_encodeSegment small
  have length : (encodeSegment tokens).length = octets (encodeTokens 0 tokens) + 1 := by
    simp [encodeSegment]
  have enough : (encodeTokens 0 tokens).length ≤ 8 * octets (encodeTokens 0 tokens) := by
    simp only [octets]
    omega
  have start : Room ⟨d, decoded, 0⟩ (zgfxExpansion stream tokens).length :=
    ⟨by simpa using short, room⟩
  obtain ⟨d', ran, carried'⟩ := decodeLoop_puts placed spells (by omega)
    (show Carried (Output.mk d decoded 0).decompressor stream from carried) start
    (show _ < 8 * (encodeSegment tokens).length + 1 by omega)
  refine ⟨d', ?_, carried'⟩
  simp only [decodeCompressedSegment, init, ran, ok_bind, pure_eq_ok, Output.after]

end Segments

inductive ZgfxRun : Decompressor → Bytes → Prop
  | init : ZgfxRun decompressorInit []
  | reset {d : Decompressor} {stream : Bytes} (run : ZgfxRun d stream) :
      ZgfxRun (decompressorReset d) []
  | decoded {d d' : Decompressor} {stream data decoded bytes : Bytes} (run : ZgfxRun d stream)
      (ran : decodeSegmentedData d data decoded = .ok (.ok, d', decoded ++ bytes)) :
      ZgfxRun d' (stream ++ bytes)
  | refused {d d' : Decompressor} {stream data decoded decoded' : Bytes} {status : Status}
      (run : ZgfxRun d stream) (failed : status ≠ .ok)
      (ran : decodeSegmentedData d data decoded = .ok (status, d', decoded')) : ZgfxRun d' stream

theorem ZgfxRun.carried {d : Decompressor} {stream : Bytes} (run : ZgfxRun d stream) :
    Carried d stream := by
  induction run with
  | init => exact decompressorInit_carried
  | reset run ih => exact decompressorReset_carried ih
  | @decoded d d' stream data decoded bytes run ran ih =>
    rcases decodeSegmentedData_cases ih data decoded with
      ⟨d'', bytes', accepted, carried⟩ | ⟨status, failed, refused⟩
    · rw [accepted] at ran
      simp only [Except.ok.injEq, Prod.mk.injEq, true_and, List.append_cancel_left_eq] at ran
      obtain ⟨rfl, rfl⟩ := ran
      exact carried
    · rw [refused] at ran
      simp only [Except.ok.injEq, Prod.mk.injEq] at ran
      exact absurd ran.1 failed
  | @refused d d' stream data decoded decoded' status run failed ran ih =>
    rcases decodeSegmentedData_cases ih data decoded with
      ⟨d'', bytes', accepted, -⟩ | ⟨status', -, refused⟩
    · rw [accepted] at ran
      simp only [Except.ok.injEq, Prod.mk.injEq] at ran
      exact absurd ran.1.symm failed
    · rw [refused] at ran
      simp only [Except.ok.injEq, Prod.mk.injEq] at ran
      obtain ⟨-, rfl, -⟩ := ran
      exact ih

/-- After every run, an encoded segment is decoded to the expansion of its tokens over
    everything put out so far. -/
theorem decode_encodeSegment {d : Decompressor} {stream decoded : Bytes} {tokens : List ZgfxToken}
    (run : ZgfxRun d stream) (placed : WellPlaced stream tokens)
    (short : (zgfxExpansion stream tokens).length ≤ 65535)
    (small : 8 * (encodeSegment tokens).length < 2 ^ 32)
    (room : decoded.length + (zgfxExpansion stream tokens).length ≤ bulkMaxDecoded) :
    ∃ d', decodeCompressedSegment d (encodeSegment tokens) decoded =
        .ok (.ok, d', decoded ++ zgfxExpansion stream tokens) ∧
      decodeSegmentedData d (segmentSingle :: (bulkPacketCompressed ||| bulkCompressionType) ::
        encodeSegment tokens) decoded = .ok (.ok, d', decoded ++ zgfxExpansion stream tokens) ∧
      ZgfxRun d' (stream ++ zgfxExpansion stream tokens) := by
  obtain ⟨d', ran, -⟩ :=
    decodeCompressedSegment_encodeSegment run.carried placed short small room
  have message : decodeSegmentedData d (segmentSingle ::
      (bulkPacketCompressed ||| bulkCompressionType) :: encodeSegment tokens) decoded =
        .ok (.ok, d', decoded ++ zgfxExpansion stream tokens) := by
    have accepted : ¬ ((bulkPacketCompressed ||| bulkCompressionType) &&& 0xd0 ≠ 0 ∨
        (bulkPacketCompressed ||| bulkCompressionType) &&& 0x0f ≠ bulkCompressionType) := by decide
    have compressed : (bulkPacketCompressed ||| bulkCompressionType) &&& bulkPacketCompressed ≠ 0 := by
      decide
    simp only [decodeSegmentedData, decodeSegments, appendBulkData]
    rw [if_pos trivial, if_neg accepted, if_pos compressed, ran]
    rfl
  exact ⟨d', ran, message, run.decoded message⟩

/-- A literal with a code of its own, one without, an overlapping copy and a raw run. -/
theorem decode_encodeSegment_copies : ∃ d', decodeSegmentedData decompressorInit
    [0xe0, 0x24, 0xc1, 0x86, 0x22, 0x98, 0x80, 0x00, 0x10, 0x01, 0x02, 0x00] [7] =
      .ok (.ok, d', [7, 0x00, 0x61, 0x00, 0x61, 0x00, 0x61, 0x00, 0x01, 0x02]) := by
  have placed : WellPlaced [] [.literal 0x00, .literal 0x61, .copy 2 5, .raw [0x01, 0x02]] :=
    ⟨trivial, trivial, ⟨by decide, by decide, by decide⟩, show [_, _].length ≤ 32767 by decide,
      trivial⟩
  have segment : encodeSegment [.literal 0x00, .literal 0x61, .copy 2 5, .raw [0x01, 0x02]] =
      [0xc1, 0x86, 0x22, 0x98, 0x80, 0x00, 0x10, 0x01, 0x02, 0x00] := by decide +kernel
  have expanded : zgfxExpansion [] [.literal 0x00, .literal 0x61, .copy 2 5, .raw [0x01, 0x02]] =
      [0x00, 0x61, 0x00, 0x61, 0x00, 0x61, 0x00, 0x01, 0x02] := by decide
  obtain ⟨d', -, ran, -⟩ := decode_encodeSegment ZgfxRun.init placed
    (by rw [expanded]; decide) (by rw [segment]; decide)
    (show ([7] : Bytes).length + _ ≤ bulkMaxDecoded by rw [expanded]; decide)
  rw [segment, expanded] at ran
  exact ⟨d', ran⟩

end LibRdp.Graphics
