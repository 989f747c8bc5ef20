import LibRdp.Graphics.BitmapReference

/-! # What the run-length decoder reads and writes

The decoder writes strokes one after the other, each with the pixel above it.
Colours and masks are read exactly as they are spelled.
-/

namespace LibRdp.Graphics

open Coding

/-- The reader with some strokes drawn and the bytes up to `rest` taken. -/
def RleReader.after (reader : RleReader) (rest : Bytes) (strokes : List (Nat → Nat)) : RleReader :=
  { reader with current := rest, pixels := draw reader.width reader.pixels strokes }

def RleReader.room (reader : RleReader) : Nat := reader.total - reader.pixels.length

def writeStrokes : List (Nat → Nat) → RleReader → Attempt RleReader
  | [], reader => .ok reader
  | stroke :: strokes, reader => do
      let reader ← rleWritePixel reader (stroke (rlePreviousPixel reader))
      writeStrokes strokes reader

section Writing

variable {reader reader' : RleReader}

theorem rlePreviousPixel_first_row (first : reader.pixels.length < reader.width) :
    rlePreviousPixel reader = 0 := if_pos first

theorem writeStrokes_ok {strokes : List (Nat → Nat)} : writeStrokes strokes reader = .ok reader' ↔
    strokes.length ≤ reader.room ∧ reader' = reader.after reader.current strokes := by
  induction strokes generalizing reader with
  | nil => simp [writeStrokes, RleReader.after, draw, eq_comm]
  | cons stroke strokes ih =>
    rw [writeStrokes, bind_eq_ok, rleWritePixel, RleReader.room]
    by_cases full : reader.pixels.length ≥ reader.total
    · rw [if_pos full, List.length_cons]
      constructor
      · rintro ⟨_, refused, _⟩
        cases refused
      · rintro ⟨fits, _⟩
        omega
    rw [if_neg full, List.length_cons]
    constructor
    · rintro ⟨next, wrote, rest⟩
      cases wrote
      obtain ⟨fits, same⟩ := ih.mp rest
      simp only [RleReader.room, List.length_append, List.length_singleton] at fits
      exact ⟨by omega, same⟩
    · rintro ⟨fits, same⟩
      refine ⟨_, rfl, ih.mpr ⟨?_, same⟩⟩
      simp only [RleReader.room, List.length_append, List.length_singleton]
      omega

theorem rleWritePixel_stroke (reader : RleReader) (pixel : Nat) :
    rleWritePixel reader pixel = writeStrokes [fun _ => pixel] reader := by
  rw [writeStrokes]
  cases rleWritePixel reader pixel <;> rfl

theorem writeStrokes_append (first second : List (Nat → Nat)) (reader : RleReader) :
    writeStrokes (first ++ second) reader = (writeStrokes first reader >>= writeStrokes second) := by
  induction first generalizing reader with
  | nil => rfl
  | cons stroke first ih =>
    rw [List.cons_append, writeStrokes, writeStrokes]
    cases rleWritePixel reader (stroke (rlePreviousPixel reader)) with
    | error stop => rfl
    | ok next => exact ih next

theorem rleWriteMany_strokes {pixel : RleReader → Nat} {stroke : Nat → Nat} (foreground : Nat)
    (each : ∀ r : RleReader, r.foreground = foreground → pixel r = stroke (rlePreviousPixel r))
    (count : Nat) {reader : RleReader} (same : reader.foreground = foreground) :
    rleWriteMany pixel count reader = writeStrokes (List.replicate count stroke) reader := by
  induction count generalizing reader with
  | zero => rfl
  | succ count ih =>
    rw [rleWriteMany, List.replicate_succ, writeStrokes, each reader same, rleWritePixel]
    split
    · rfl
    · exact ih same

theorem rleWriteBackground_strokes (reader : RleReader) (count : Nat) :
    rleWriteBackground reader count = writeStrokes (List.replicate count id) reader := by
  refine rleWriteMany_strokes reader.foreground (fun r _ => ?_) count rfl
  split
  · next first => exact (rlePreviousPixel_first_row first).symm
  · rfl

theorem rleWriteForeground_strokes (reader : RleReader) (count : Nat) :
    rleWriteForeground reader count =
      writeStrokes (List.replicate count (· ^^^ reader.foreground)) reader := by
  refine rleWriteMany_strokes reader.foreground (fun r same => ?_) count rfl
  rw [rleForegroundPixel, same]
  split
  · next first => rw [rlePreviousPixel_first_row first, Nat.zero_xor]
  · rfl

theorem rleRepeat_strokes (reader : RleReader) (pixel count : Nat) :
    rleRepeat reader pixel count =
      writeStrokes (List.replicate count (fun _ => pixel)) reader :=
  @rleWriteMany_strokes (fun _ => pixel) (fun _ => pixel) reader.foreground (fun _ _ => rfl) count
    reader rfl

theorem rleWriteDithered_strokes (a b count : Nat) (reader : RleReader) :
    rleWriteDithered a b count reader =
      writeStrokes (List.replicate count [fun _ => a, fun _ => b]).flatten reader := by
  induction count generalizing reader with
  | zero => rfl
  | succ count ih =>
    rw [rleWriteDithered, List.replicate_succ, List.flatten_cons, writeStrokes_append, writeStrokes]
    cases rleWritePixel reader a with
    | error stop => rfl
    | ok next =>
      rw [ok_bind, ok_bind, writeStrokes]
      cases rleWritePixel next b with
      | error stop => rfl
      | ok last => exact ih last

def imageStrokes (foreground : Nat) (bits : List Bool) : List (Nat → Nat) :=
  bits.map (fun bit => if bit then (· ^^^ foreground) else id)

theorem rleMaskPixel_stroke (mask : UInt8) (bit : Nat) (reader : RleReader) :
    rleMaskPixel mask bit reader =
      (if mask.toNat.testBit bit then (· ^^^ reader.foreground) else id) (rlePreviousPixel reader) := by
  unfold rleMaskPixel
  cases mask.toNat.testBit bit with
  | false =>
    split
    · next first => exact (rlePreviousPixel_first_row first).symm
    · rfl
  | true =>
    split
    · next first => simp [rlePreviousPixel_first_row first]
    · rfl

theorem rleMaskLoop_strokes (mask : UInt8) (count bit : Nat) (reader : RleReader) :
    rleMaskLoop mask count bit reader =
      writeStrokes (imageStrokes reader.foreground (lsb count (mask.toNat / 2 ^ bit))) reader := by
  induction count generalizing bit reader with
  | zero => rfl
  | succ count ih =>
    have first : (mask.toNat / 2 ^ bit).testBit 0 = mask.toNat.testBit bit := by
      rw [Nat.testBit_div_two_pow, Nat.zero_add]
    have later : mask.toNat / 2 ^ bit / 2 = mask.toNat / 2 ^ (bit + 1) := by
      rw [Nat.div_div_eq_div_mul, Nat.pow_succ]
    rw [rleMaskLoop, lsb, imageStrokes, List.map_cons, writeStrokes, rleMaskPixel_stroke, first, later,
      rleWritePixel]
    split
    · rfl
    · exact ih (bit + 1) _

theorem rleWriteFgbg_strokes (reader : RleReader) (mask : UInt8) {count : Nat} (few : count ≤ 8) :
    rleWriteFgbg reader mask count =
      writeStrokes (imageStrokes reader.foreground (lsb count mask.toNat)) reader := by
  rw [rleWriteFgbg, if_neg (by omega), rleMaskLoop_strokes, Nat.pow_zero, Nat.div_one]

theorem rleBackgroundPixels_strokes (reader : RleReader) {run : Nat} (some : 0 < run) :
    rleBackgroundPixels reader run = writeStrokes
      ((BitmapOrder.background run).strokes reader.foreground reader.insertForeground) reader := by
  have order : (BitmapOrder.background run).strokes reader.foreground reader.insertForeground =
      if reader.insertForeground then
        [(· ^^^ reader.foreground)] ++ List.replicate (run - 1) id
      else List.replicate run id := rfl
  rw [order, rleBackgroundPixels]
  split
  · rw [if_neg (by omega), writeStrokes_append, rleWriteForeground_strokes]
    exact congrArg _ (funext fun next => rleWriteBackground_strokes next (run - 1))
  · exact rleWriteBackground_strokes reader run

end Writing

def codedDepths : List UInt16 := [8, 15, 16, 24]

section Colours

variable {reader reader' : RleReader}

theorem or_shiftLeft_eq_add {low high : Nat} (width : Nat) (small : low < 2 ^ width) :
    low ||| high <<< width = low + 2 ^ width * high := by
  rw [Nat.or_comm, ← Nat.shiftLeft_add_eq_or_of_lt small, Nat.shiftLeft_eq, Nat.mul_comm, Nat.add_comm]

/-- The colour that some bytes spell, as the reader puts it together. -/
def spelledColour (byte : Nat → Nat) (bytes : Nat) : Nat :=
  if bytes = 2 then byte 0 ||| byte 1 <<< 8
  else if bytes = 1 then byte 0
  else byte 0 ||| byte 1 <<< 8 ||| byte 2 <<< 16

theorem spelledColour_congr {byte byte' : Nat → Nat} {bytes : Nat}
    (depth : bytes ∈ ([1, 2, 3] : List Nat)) (same : ∀ i < bytes, byte i = byte' i) :
    spelledColour byte bytes = spelledColour byte' bytes := by
  simp only [List.mem_cons, List.not_mem_nil, or_false] at depth
  rcases depth with rfl | rfl | rfl
  · exact same 0 (by decide)
  · simp only [spelledColour, if_true, same 0 (by decide), same 1 (by decide)]
  · simp only [spelledColour, same 0 (by decide), same 1 (by decide), same 2 (by decide)]

theorem pixelBytes_eq_iff {front : Bytes} (depth : front.length ∈ ([1, 2, 3] : List Nat))
    {colour : Nat} : front = pixelBytes front.length colour ∧ colour < 2 ^ (8 * front.length) ↔
      colour = spelledColour (fun i => (front.getD i 0).toNat) front.length := by
  match front, depth with
  | [b0], _ =>
    have := b0.toNat_lt
    simp only [pixelBytes, spelledColour, List.length_cons, List.length_nil, List.cons.injEq,
      ← UInt8.toNat_inj, UInt8.toNat_ofNat', List.getD_cons_zero]
    simp
    omega
  | [b0, b1], _ =>
    have := b0.toNat_lt
    have := b1.toNat_lt
    simp [pixelBytes, spelledColour, ← UInt8.toNat_inj, or_shiftLeft_eq_add 8 b0.toNat_lt]
    omega
  | [b0, b1, b2], _ =>
    have := b0.toNat_lt
    have := b1.toNat_lt
    have := b2.toNat_lt
    simp [pixelBytes, spelledColour, ← UInt8.toNat_inj, or_shiftLeft_eq_add 8 b0.toNat_lt]
    rw [or_shiftLeft_eq_add 16 (by omega)]
    omega

variable (depth : reader.bitsPerPixel ∈ codedDepths)
include depth

theorem rleReadPixel_eq :
    rleReadPixel reader =
      if reader.current.length < rleBytesPerPixel reader.bitsPerPixel then refuse .protocolError
      else .ok (spelledColour (fun i => (reader.current.getD i 0).toNat)
          (rleBytesPerPixel reader.bitsPerPixel),
        { reader with current := reader.current.drop (rleBytesPerPixel reader.bitsPerPixel) }) := by
  simp only [codedDepths, List.mem_cons, List.not_mem_nil, or_false] at depth
  rcases depth with h | h | h | h <;> simp [rleReadPixel, h, rleBytesPerPixel, spelledColour]

theorem rleReadPixel_ok {colour : Nat} :
    rleReadPixel reader = .ok (colour, reader') ↔
      ∃ rest, reader.current = colourBytes reader.bitsPerPixel colour ++ rest ∧
        InDepth reader.bitsPerPixel colour ∧ reader' = { reader with current := rest } := by
  have bytes : rleBytesPerPixel reader.bitsPerPixel ∈ ([1, 2, 3] : List Nat) := by
    simp only [codedDepths, List.mem_cons, List.not_mem_nil, or_false] at depth
    rcases depth with h | h | h | h <;> rw [h] <;> decide
  rw [rleReadPixel_eq depth]
  unfold colourBytes InDepth
  generalize rleBytesPerPixel reader.bitsPerPixel = count at bytes ⊢
  by_cases few : reader.current.length < count
  · rw [if_pos few]
    constructor
    · intro refused
      cases refused
    · rintro ⟨rest, spelled, -, -⟩
      rw [spelled, List.length_append, pixelBytes_length] at few
      omega
  rw [if_neg few]
  obtain ⟨front, rest, split, rfl⟩ : ∃ front rest, reader.current = front ++ rest ∧
      front.length = count :=
    ⟨reader.current.take count, reader.current.drop count, (List.take_append_drop _ _).symm, by
      rw [List.length_take]
      omega⟩
  have same : spelledColour (fun i => ((front ++ rest).getD i 0).toNat) front.length =
      spelledColour (fun i => (front.getD i 0).toNat) front.length :=
    spelledColour_congr bytes fun i inside => by rw [List.getD_append _ _ _ _ inside]
  have value := @pixelBytes_eq_iff front bytes colour
  rw [split, same, List.drop_left]
  constructor
  · intro read
    cases read
    obtain ⟨spelled, narrow⟩ := value.mpr rfl
    exact ⟨rest, by rw [← spelled], narrow, rfl⟩
  · rintro ⟨rest', spelled, narrow, rfl⟩
    obtain ⟨here, rfl⟩ := List.append_inj spelled (pixelBytes_length _ _).symm
    rw [← value.mp ⟨here, narrow⟩]

theorem rleReadForeground_ok {sets : Bool} :
    rleReadForeground sets reader = .ok reader' ↔
      ∃ colour rest, colour.isSome = sets ∧
        reader.current = settingBytes reader.bitsPerPixel colour ++ rest ∧
        (∀ c ∈ colour, InDepth reader.bitsPerPixel c) ∧
        reader' = { reader with current := rest, foreground := colour.getD reader.foreground } := by
  cases sets with
  | false =>
    constructor
    · intro read
      cases read
      exact ⟨none, reader.current, rfl, rfl, nofun, rfl⟩
    · rintro ⟨colour, rest, isNone, spelled, -, rfl⟩
      obtain rfl : colour = none := by simpa using isNone
      obtain rfl : reader.current = rest := spelled
      rfl
  | true =>
    rw [rleReadForeground, if_pos rfl, bind_eq_ok]
    constructor
    · rintro ⟨⟨pixel, next⟩, read, last⟩
      cases last
      obtain ⟨rest, spelled, narrow, rfl⟩ := (rleReadPixel_ok depth).mp read
      refine ⟨some pixel, rest, rfl, ?_, ?_, rfl⟩
      · rw [spelled, settingBytes, Option.toList_some, List.flatMap_singleton]
      · rintro c ⟨⟩
        exact narrow
    · rintro ⟨colour, rest, isSome, spelled, narrow, rfl⟩
      obtain ⟨pixel, rfl⟩ := Option.isSome_iff_exists.mp isSome
      rw [settingBytes, Option.toList_some, List.flatMap_singleton] at spelled
      exact ⟨(pixel, _), (rleReadPixel_ok depth).mpr ⟨rest, spelled, narrow pixel rfl, rfl⟩, rfl⟩

theorem rleImagePixels_ok {count : Nat} :
    rleImagePixels count reader = .ok reader' ↔
      ∃ (pixels : List Nat) (rest : Bytes), pixels.length = count ∧
        reader.current = pixels.flatMap (colourBytes reader.bitsPerPixel) ++ rest ∧
        (∀ pixel ∈ pixels, InDepth reader.bitsPerPixel pixel) ∧ count ≤ reader.room ∧
        reader' = reader.after rest (pixels.map (fun pixel _ => pixel)) := by
  induction count generalizing reader with
  | zero =>
    constructor
    · intro wrote
      obtain rfl := Except.ok.inj wrote
      exact ⟨[], reader.current, rfl, rfl, nofun, Nat.zero_le _, rfl⟩
    · rintro ⟨pixels, rest, none, spelled, -, -, rfl⟩
      obtain rfl := List.length_eq_zero_iff.mp none
      obtain rfl : reader.current = rest := spelled
      rfl
  | succ count ih =>
    rw [rleImagePixels, bind_eq_ok]
    constructor
    · rintro ⟨⟨color, next⟩, read, written⟩
      obtain ⟨rest, spelled, narrow, rfl⟩ := (rleReadPixel_ok depth).mp read
      obtain ⟨last, wrote, later⟩ := bind_eq_ok.mp written
      rw [rleWritePixel] at wrote
      split at wrote
      · cases wrote
      next room =>
        cases wrote
        obtain ⟨pixels, rest', count', spelled', narrow', fits, rfl⟩ :=
          (@ih { reader with current := rest, pixels := reader.pixels ++ [color] } depth).mp later
        refine ⟨color :: pixels, rest', by rw [List.length_cons, count'], ?_, ?_, ?_, rfl⟩
        · rw [spelled, List.flatMap_cons, List.append_assoc]
          exact congrArg _ spelled'
        · exact List.forall_mem_cons.mpr ⟨narrow, narrow'⟩
        · simp only [RleReader.room, List.length_append, List.length_singleton] at fits room ⊢
          omega
    · rintro ⟨pixels, rest, count', spelled, narrow, fits, rfl⟩
      obtain ⟨color, pixels, rfl⟩ := List.exists_cons_of_length_eq_add_one count'
      rw [List.flatMap_cons, List.append_assoc] at spelled
      obtain ⟨first, later⟩ := List.forall_mem_cons.mp narrow
      refine ⟨(color, _), (rleReadPixel_ok depth).mpr ⟨_, spelled, first, rfl⟩, ?_⟩
      rw [RleReader.room] at fits
      refine bind_eq_ok.mpr ⟨_, if_neg (by simp only; omega), ?_⟩
      refine (@ih { reader with current := _, pixels := reader.pixels ++ [color] } depth).mpr
        ⟨pixels, rest, by simpa using count', rfl, later, ?_, rfl⟩
      simp only [RleReader.room, List.length_append, List.length_singleton]
      omega

end Colours

theorem lsbBits_cons_take_more (mask : UInt8) (masks : Bytes) {run : Nat} (many : 8 ≤ run) :
    (lsbBits (mask :: masks)).take run = lsb 8 mask.toNat ++ (lsbBits masks).take (run - 8) := by
  have split : lsbBits (mask :: masks) = lsb 8 mask.toNat ++ lsbBits masks := rfl
  rw [split, List.take_append, List.take_of_length_le (by simpa using many), lsb_length]

theorem lsbBits_singleton_take (mask : UInt8) {run : Nat} (few : run ≤ 8) :
    (lsbBits [mask]).take run = lsb run mask.toNat := by
  have whole : lsbBits [mask] = lsb 8 mask.toNat := List.append_nil _
  rw [whole, lsb_take _ few]

theorem RleReader.after_after (reader : RleReader) (rest rest' : Bytes)
    (first second : List (Nat → Nat)) :
    (reader.after rest first).after rest' second = reader.after rest' (first ++ second) := by
  simp only [RleReader.after, draw_append]

@[simp] theorem imageStrokes_length (foreground : Nat) (bits : List Bool) :
    (imageStrokes foreground bits).length = bits.length := List.length_map _

theorem RleReader.after_room (reader : RleReader) (rest : Bytes) (strokes : List (Nat → Nat)) :
    (reader.after rest strokes).room = reader.room - strokes.length := by
  simp only [room, after, draw_length]
  omega

theorem rleImageMasks_ok {current : Bytes} {run : Nat} {reader reader' : RleReader} :
    rleImageMasks current run reader = .ok reader' ↔
      ∃ masks rest, current = masks ++ rest ∧ masks.length = (run + 7) / 8 ∧ run ≤ reader.room ∧
        reader' = reader.after rest
          (imageStrokes reader.foreground ((lsbBits masks).take run)) := by
  induction current generalizing run reader with
  | nil =>
    rw [rleImageMasks]
    constructor
    · intro wrote
      split at wrote
      · cases wrote
      next none =>
        cases wrote
        obtain rfl : run = 0 := by omega
        exact ⟨[], [], rfl, rfl, Nat.zero_le _, rfl⟩
    · rintro ⟨masks, rest, split, enough, -, rfl⟩
      obtain ⟨rfl, rfl⟩ := List.append_eq_nil_iff.mp split.symm
      obtain rfl : run = 0 := by
        rw [List.length_nil] at enough
        omega
      rfl
  | cons mask current ih =>
    rw [rleImageMasks]
    by_cases many : run > 8
    · have eight : run - 8 + 8 = run := by omega
      rw [if_pos many, bind_eq_ok, rleWriteFgbg_strokes reader mask (Nat.le_refl 8)]
      constructor
      · rintro ⟨next, wrote, later⟩
        obtain ⟨fits, rfl⟩ := writeStrokes_ok.mp wrote
        obtain ⟨masks, rest, rfl, enough, fits', rfl⟩ := ih.mp later
        rw [RleReader.after_room, imageStrokes_length, lsb_length] at fits'
        rw [imageStrokes_length, lsb_length] at fits
        refine ⟨mask :: masks, rest, rfl, ?_, by omega, ?_⟩
        · rw [List.length_cons, enough]
          omega
        · rw [RleReader.after_after, lsbBits_cons_take_more mask masks (by omega), imageStrokes,
            imageStrokes, imageStrokes, List.map_append]
          rfl
      · rintro ⟨masks, rest, split, enough, fits, rfl⟩
        obtain ⟨first, masks, rfl⟩ := List.exists_cons_of_length_pos (l := masks) (by omega)
        obtain ⟨rfl, rfl⟩ := List.cons.inj split
        rw [List.length_cons] at enough
        refine ⟨_, writeStrokes_ok.mpr ⟨?_, rfl⟩, ih.mpr ⟨masks, rest, rfl, by omega, ?_, ?_⟩⟩
        · rw [imageStrokes_length, lsb_length]
          omega
        · rw [RleReader.after_room, imageStrokes_length, lsb_length]
          omega
        · rw [RleReader.after_after, lsbBits_cons_take_more mask masks (by omega), imageStrokes,
            imageStrokes, imageStrokes, List.map_append]
          rfl
    rw [if_neg many]
    by_cases some : run > 0
    · rw [if_pos some, rleWriteFgbg_strokes _ mask (by omega), writeStrokes_ok, imageStrokes_length,
        lsb_length, ← lsbBits_singleton_take mask (by omega)]
      constructor
      · rintro ⟨fits, rfl⟩
        refine ⟨[mask], current, rfl, ?_, fits, rfl⟩
        rw [List.length_singleton]
        omega
      · rintro ⟨masks, rest, split, enough, fits, rfl⟩
        obtain ⟨first, rfl⟩ : ∃ first, masks = [first] := by
          rw [← List.length_eq_one_iff]
          omega
        obtain ⟨rfl, rfl⟩ := List.cons.inj split
        exact ⟨fits, rfl⟩
    · rw [if_neg some]
      obtain rfl : run = 0 := by omega
      constructor
      · intro wrote
        cases wrote
        exact ⟨[], mask :: current, rfl, rfl, Nat.zero_le _, rfl⟩
      · rintro ⟨masks, rest, split, enough, -, rfl⟩
        obtain rfl : masks = [] := List.length_eq_zero_iff.mp enough
        rw [show mask :: current = rest from split]
        rfl

end LibRdp.Graphics
