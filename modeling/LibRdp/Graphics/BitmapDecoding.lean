import LibRdp.Graphics.BitmapOrders

/-! # The run-length decoder beside its reference

A stream is accepted exactly when it spells orders that fill the picture. The
pixels are those of the reference decoder, but for one order: where a background
run ends with the first scan line, the decoder still inserts a foreground pixel
into the next one.
-/

namespace LibRdp.Graphics

open Coding

def RleReader.afterOrders (rest : Bytes) : List BitmapOrder → RleReader → RleReader
  | [], reader => { reader with current := rest }
  | order :: orders, reader => afterOrders rest orders (reader.afterOrder order rest)

variable {bitsPerPixel : UInt16} {orders : List BitmapOrder}

variable {data : Bytes}

variable {order : BitmapOrder}

theorem SpellsOrders.uncons (spelled : SpellsOrders bitsPerPixel (order :: orders) data) :
    ∃ bytes rest, data = bytes ++ rest ∧ order.Spells bitsPerPixel bytes ∧
      SpellsOrders bitsPerPixel orders rest := by
  cases spelled with
  | @cons _ _ bytes rest first later => exact ⟨bytes, rest, rfl, first, later⟩

theorem SpellsOrders.of_nil (spelled : SpellsOrders bitsPerPixel orders []) : orders = [] := by
  cases orders with
  | nil => rfl
  | cons order orders =>
    obtain ⟨bytes, rest, split, first, -⟩ := spelled.uncons
    have taken := first.positive.2
    rw [(List.append_eq_nil_iff.mp split.symm).1] at taken
    exact absurd taken (Nat.lt_irrefl 0)

@[simp] theorem pixelCount_nil : pixelCount [] = 0 := rfl

@[simp] theorem pixelCount_cons (order : BitmapOrder) (orders : List BitmapOrder) :
    pixelCount (order :: orders) = order.pixelCount + pixelCount orders := List.sum_cons

@[simp] theorem pixelCount_append (first second : List BitmapOrder) :
    pixelCount (first ++ second) = pixelCount first + pixelCount second := by
  rw [pixelCount, List.map_append, List.sum_append]
  rfl

section Streams

variable {reader reader' : RleReader}

theorem RleReader.afterOrders_current (reader : RleReader) (order : BitmapOrder)
    (orders : List BitmapOrder) (rest later : Bytes) :
    (reader.afterOrder order later).afterOrders rest orders =
      reader.afterOrders rest (order :: orders) := by
  cases orders <;> rfl

theorem RleReader.afterOrder_room {order : BitmapOrder} (some : 0 < order.pixelCount)
    (reader : RleReader) (rest : Bytes) :
    (reader.afterOrder order rest).room = reader.room - order.pixelCount := by
  simp only [room, afterOrder, draw_length, BitmapOrder.strokes_length some]
  omega

theorem rleLoop_ok {fuel : Nat} (depth : reader.bitsPerPixel ∈ codedDepths)
    (enough : reader.current.length < fuel) : rleLoop fuel reader = .ok reader' ↔
      ∃ orders, SpellsOrders reader.bitsPerPixel orders reader.current ∧
        pixelCount orders ≤ reader.room ∧ reader' = reader.afterOrders [] orders := by
  induction fuel generalizing reader with
  | zero => omega
  | succ fuel ih =>
    cases here : reader.current with
    | nil =>
      have ends : reader.afterOrders [] [] = reader := by rw [RleReader.afterOrders, ← here]
      simp only [rleLoop, here]
      constructor
      · rintro ⟨⟩
        exact ⟨[], .nil, Nat.zero_le _, ends.symm⟩
      · rintro ⟨orders, spelled, -, rfl⟩
        rw [spelled.of_nil, ends]
    | cons header tail =>
      simp only [rleLoop, here]
      rw [bind_eq_ok]
      constructor
      · rintro ⟨next, ran, looped⟩
        obtain ⟨order, bytes, rest, split, spelled, fits, rfl⟩ := rleOrder_takes depth here ran
        obtain ⟨some, taken⟩ := spelled.positive
        rw [split, List.length_append] at enough
        have shorter : rest.length < fuel := by omega
        obtain ⟨orders, later, room, rfl⟩ := (ih (by exact depth) shorter).mp looped
        rw [RleReader.afterOrder_room some] at room
        refine ⟨order :: orders, ?_, ?_, RleReader.afterOrders_current _ _ _ _ _⟩
        · rw [← here, split]
          exact .cons spelled later
        · rw [pixelCount_cons]
          omega
      · rintro ⟨orders, spelled, room, rfl⟩
        cases orders with
        | nil => cases spelled
        | cons order orders =>
          obtain ⟨bytes, rest, split, first, later⟩ := spelled.uncons
          obtain ⟨some, taken⟩ := first.positive
          rw [here, split, List.length_append] at enough
          have shorter : rest.length < fuel := by omega
          rw [pixelCount_cons] at room
          refine ⟨_, rleOrder_of_takes depth here ⟨bytes, rest, here.trans split, first,
            by omega, rfl⟩, (ih (by exact depth) shorter).mpr ⟨orders, later, ?_, ?_⟩⟩
          · rw [RleReader.afterOrder_room some]
            omega
          · exact (RleReader.afterOrders_current _ _ _ _ _).symm

end Streams

def RleReader.start (data : Bytes) (width total : Nat) (bitsPerPixel : UInt16) : RleReader :=
  ⟨data, [], total, width, bitsPerPixel, rleWhite bitsPerPixel, false⟩

theorem RleReader.afterOrders_length (spelled : SpellsOrders bitsPerPixel orders data)
    (reader : RleReader) :
    (reader.afterOrders [] orders).pixels.length = reader.pixels.length + pixelCount orders := by
  induction spelled generalizing reader with
  | nil => rfl
  | cons first later ih =>
    rw [afterOrders, ih, pixelCount_cons, afterOrder, draw_length,
      BitmapOrder.strokes_length first.positive.1, Nat.add_assoc]

theorem RleReader.afterOrders_total (orders : List BitmapOrder) (reader : RleReader) :
    (reader.afterOrders [] orders).total = reader.total := by
  induction orders generalizing reader with
  | nil => rfl
  | cons order orders ih => exact ih _

theorem rleDecodeStream_ok_iff {width height : UInt16} (depth : bitsPerPixel ∈ codedDepths)
    {pixels : List Nat} :
    rleDecodeStream data width height bitsPerPixel = .ok pixels ↔
      (width ≠ 0 ∧ height ≠ 0) ∧ ∃ orders, SpellsOrders bitsPerPixel orders data ∧
        pixelCount orders = width.toNat * height.toNat ∧
        pixels = ((RleReader.start data width.toNat (width.toNat * height.toNat)
          bitsPerPixel).afterOrders [] orders).pixels := by
  have supported : rleBytesPerPixel bitsPerPixel ≠ 0 := by
    simp only [codedDepths, List.mem_cons, List.not_mem_nil, or_false] at depth
    rcases depth with rfl | rfl | rfl | rfl <;> decide
  have looping {reader : RleReader} := @rleLoop_ok (RleReader.start data width.toNat
    (width.toNat * height.toNat) bitsPerPixel) reader (data.length + 1) depth (Nat.lt_succ_self _)
  unfold rleDecodeStream
  by_cases wide : width = 0
  · simp [wide, refuse]
  by_cases high : height = 0
  · simp [high, refuse]
  have fits : ¬ width.toNat > sizeMax / height.toNat := by
    have positive : 0 < height.toNat := Nat.pos_of_ne_zero fun zero => high (UInt16.toNat_inj.mp zero)
    rw [Nat.not_lt, Nat.le_div_iff_mul_le positive]
    have := Nat.mul_le_mul (Nat.le_of_lt width.toNat_lt) (Nat.le_of_lt height.toNat_lt)
    simp only [sizeMax]
    omega
  rw [if_neg (by simp [wide, high, supported]), if_neg fits, bind_eq_ok]
  constructor
  · rintro ⟨reader, looped, last⟩
    obtain ⟨orders, spelled, -, rfl⟩ := looping.mp looped
    split at last
    · next full =>
        cases last
        rw [RleReader.afterOrders_length spelled, RleReader.afterOrders_total] at full
        exact ⟨⟨wide, high⟩, orders, spelled, by simpa [RleReader.start] using full, rfl⟩
    · cases last
  · rintro ⟨-, orders, spelled, count, rfl⟩
    refine ⟨_, looping.mpr ⟨orders, spelled, Nat.le_of_eq count, rfl⟩, if_pos ?_⟩
    rw [RleReader.afterOrders_length spelled, RleReader.afterOrders_total, count]
    exact Nat.zero_add _

structure Agree (width white : Nat) (before : List BitmapOrder) (reader : RleReader)
    (reference : Reference) : Prop where
  wide : reader.width = width
  pixels : reader.pixels = reference.pixels
  position : reader.pixels.length = pixelCount before
  foreground : reader.foreground = foregroundAfter white before
  foreground' : reference.foreground = foregroundAfter white before
  insert : reader.insertForeground = reference.insertForeground
  afterRun : reader.insertForeground = true → ∃ earlier run, before = earlier ++ [.background run]
  first : reference.firstLine = true → pixelCount before ≤ width
  later : reference.firstLine = false → width < pixelCount before

theorem foregroundAfter_append (white : Nat) (before : List BitmapOrder) (order : BitmapOrder) :
    foregroundAfter white (before ++ [order]) = order.foregroundFrom (foregroundAfter white before) := by
  rw [foregroundAfter, List.foldl_append]
  rfl

theorem BitmapOrder.strokes_insert (plain : order.isBackground = false) (foreground : Nat)
    (insert insert' : Bool) :
    order.strokes foreground insert = order.strokes foreground insert' := by
  cases order with
  | background run => cases plain
  | foreground | dithered | colourRun | image | colours => rfl

theorem BitmapOrder.strokes_black {run : Nat} (some : 0 < run) (insert insert' : Bool) :
    (BitmapOrder.background run).strokes 0 insert = (BitmapOrder.background run).strokes 0 insert' := by
  have black : (fun pixel : Nat => pixel ^^^ 0) = id := funext Nat.xor_zero
  have inserted : (BitmapOrder.background run).strokes 0 true =
      (BitmapOrder.background run).strokes 0 false := by
    show (fun pixel => pixel ^^^ 0) :: List.replicate (run - 1) id = List.replicate run id
    rw [black, ← List.replicate_succ, Nat.sub_add_cancel some]
  cases insert <;> cases insert' <;> simp [inserted]

/-- At the end of the first scan line a run inserts a pixel where the reference does not. -/
def InsertsAtLineEnd (width white : Nat) (before : List BitmapOrder) (order : BitmapOrder) : Prop :=
  order.isBackground = true ∧ (∃ earlier run, before = earlier ++ [.background run]) ∧
    pixelCount before = width ∧ foregroundAfter white before ≠ 0

section Step

variable {width white : Nat} {before : List BitmapOrder} {reader : RleReader} {reference : Reference}
  {order : BitmapOrder}

theorem Agree.strokes (agree : Agree width white before reader reference)
    (some : 0 < order.pixelCount) (harmless : ¬ InsertsAtLineEnd width white before order) :
    order.strokes (order.foregroundFrom reader.foreground) reader.insertForeground =
      order.strokes (order.foregroundFrom reference.foreground)
        (reference.lookForLineEnd width).insertForeground := by
  rw [agree.foreground, agree.foreground', Reference.lookForLineEnd]
  split
  · next ended =>
      cases order with
      | background run =>
        cases flag : reader.insertForeground with
        | false => rfl
        | true =>
          have position : pixelCount before = width := by
            have := agree.first ended.1
            rw [← agree.pixels, agree.position] at ended
            omega
          have black : foregroundAfter white before = 0 := by
            by_contra colour
            exact harmless ⟨rfl, agree.afterRun flag, position, colour⟩
          rw [black]
          exact BitmapOrder.strokes_black some true false
      | foreground | dithered | colourRun | image | colours => exact BitmapOrder.strokes_insert rfl _ _ _
  · rw [agree.insert]

@[simp] theorem Reference.lookForLineEnd_pixels (width : Nat) (reference : Reference) :
    (reference.lookForLineEnd width).pixels = reference.pixels := by
  unfold lookForLineEnd
  split <;> rfl

@[simp] theorem Reference.lookForLineEnd_foreground (width : Nat) (reference : Reference) :
    (reference.lookForLineEnd width).foreground = reference.foreground := by
  unfold lookForLineEnd
  split <;> rfl

theorem Agree.firstLine (agree : Agree width white before reader reference) :
    (reference.lookForLineEnd width).firstLine = true ↔ pixelCount before < width := by
  unfold Reference.lookForLineEnd
  rw [← agree.pixels, agree.position]
  by_cases first : reference.firstLine = true
  · by_cases ended : width ≤ pixelCount before
    · rw [if_pos ⟨first, ended⟩]
      exact iff_of_false Bool.false_ne_true (Nat.not_lt.mpr ended)
    · rw [if_neg (fun both => ended both.2)]
      exact iff_of_true first (Nat.lt_of_not_le ended)
  · rw [if_neg (fun both => first both.1)]
    exact iff_of_false first (Nat.lt_asymm (agree.later (Bool.eq_false_iff.mpr first)))

theorem Agree.step (agree : Agree width white before reader reference) (some : 0 < order.pixelCount)
    (inside : pixelCount before < width → pixelCount (before ++ [order]) ≤ width)
    (harmless : ¬ InsertsAtLineEnd width white before order) (rest : Bytes) :
    Agree width white (before ++ [order]) (reader.afterOrder order rest)
      (reference.drawOrder width order) where
  wide := agree.wide
  pixels := by
    have drawn : draw width reader.pixels (order.strokes (order.foregroundFrom reader.foreground)
        reader.insertForeground) = if pixelCount before < width then
          drawBlank reader.pixels (order.strokes (order.foregroundFrom reader.foreground)
            reader.insertForeground)
        else draw width reader.pixels (order.strokes (order.foregroundFrom reader.foreground)
          reader.insertForeground) := by
      split
      · next first =>
          have fits := inside first
          rw [pixelCount_append, pixelCount_cons, pixelCount_nil] at fits
          refine draw_first_row ?_
          rw [agree.position, BitmapOrder.strokes_length some]
          exact fits
      · rfl
    simp only [RleReader.afterOrder, Reference.drawOrder, Reference.lookForLineEnd_pixels,
      Reference.lookForLineEnd_foreground, agree.firstLine, ← agree.pixels, agree.wide,
      ← agree.strokes some harmless]
    exact drawn
  position := by
    rw [RleReader.afterOrder, draw_length, agree.position, BitmapOrder.strokes_length some,
      pixelCount_append]
    rfl
  foreground := by rw [foregroundAfter_append, ← agree.foreground]; rfl
  foreground' := by
    rw [foregroundAfter_append, ← agree.foreground', Reference.drawOrder,
      Reference.lookForLineEnd_foreground]
  insert := rfl
  afterRun := by
    intro flag
    cases order with
    | background run => exact ⟨before, run, rfl⟩
    | foreground | dithered | colourRun | image | colours => cases flag
  first := fun first => inside (agree.firstLine.mp first)
  later := by
    intro last
    have ended : ¬ pixelCount before < width := fun first =>
      Bool.false_ne_true (last.symm.trans (agree.firstLine.mpr first))
    rw [pixelCount_append, pixelCount_cons]
    omega

end Step

section Runs

variable {width white : Nat} {reader : RleReader} {reference : Reference}

variable {before : List BitmapOrder}

theorem Agree.run (agree : Agree width white before reader reference) (orders : List BitmapOrder)
    (rest : Bytes)
    (each : ∀ done order after, orders = done ++ order :: after → 0 < order.pixelCount ∧
      (pixelCount (before ++ done) < width → pixelCount (before ++ done ++ [order]) ≤ width) ∧
      ¬ InsertsAtLineEnd width white (before ++ done) order) :
    Agree width white (before ++ orders) (reader.afterOrders rest orders)
      (orders.foldl (Reference.drawOrder width) reference) := by
  induction orders generalizing before reader reference with
  | nil =>
    rw [List.append_nil]
    exact ⟨agree.wide, agree.pixels, agree.position, agree.foreground, agree.foreground',
      agree.insert, agree.afterRun, agree.first, agree.later⟩
  | cons order orders ih =>
    obtain ⟨some, inside, harmless⟩ := each [] order orders rfl
    rw [List.append_nil] at inside harmless
    have next := ih (agree.step some inside harmless rest) fun done later after split => by
      have := each (order :: done) later after (by rw [split]; rfl)
      simpa only [List.append_assoc, List.singleton_append] using this
    rwa [List.append_assoc] at next

theorem agree_start (data : Bytes) (width total : Nat) (bitsPerPixel : UInt16) :
    Agree width (rleWhite bitsPerPixel) [] (RleReader.start data width total bitsPerPixel)
      ⟨[], rleWhite bitsPerPixel, false, true⟩ :=
  ⟨rfl, rfl, rfl, rfl, rfl, rfl, nofun, fun _ => Nat.zero_le _, nofun⟩

theorem RleReader.afterOrders_append (rest : Bytes) (first second : List BitmapOrder)
    (reader : RleReader) : reader.afterOrders rest (first ++ second) =
      (reader.afterOrders rest first).afterOrders rest second := by
  induction first generalizing reader with
  | nil => cases second <;> rfl
  | cons order first ih => exact ih _

theorem RleReader.afterOrders_prefix (rest : Bytes) (orders : List BitmapOrder) (reader : RleReader) :
    reader.pixels <+: (reader.afterOrders rest orders).pixels := by
  induction orders generalizing reader with
  | nil => exact List.prefix_rfl
  | cons order orders ih =>
    have first : reader.pixels <+: (reader.afterOrder order rest).pixels := draw_prefix _ _ _
    exact first.trans (ih _)

theorem Reference.drawOrder_extends (width : Nat) (reference : Reference) (order : BitmapOrder) :
    reference.pixels <+: (reference.drawOrder width order).pixels := by
  rw [drawOrder, lookForLineEnd_pixels]
  dsimp only
  split
  · exact List.prefix_append _ _
  · exact draw_prefix _ _ _

theorem Reference.drawOrders_prefix (width : Nat) (orders : List BitmapOrder) (reference : Reference) :
    reference.pixels <+: (orders.foldl (drawOrder width) reference).pixels := by
  induction orders generalizing reference with
  | nil => exact List.prefix_rfl
  | cons order orders ih => exact (drawOrder_extends width reference order).trans (ih _)

theorem Agree.differ {next : Nat} (agree : Agree width white before reader reference)
    (flag : reader.insertForeground = true) (some : 0 < next)
    (position : pixelCount before = width) (colour : foregroundAfter white before ≠ 0)
    (rest : Bytes) (after : List BitmapOrder) :
    (reader.afterOrders rest (.background next :: after)).pixels ≠
      ((BitmapOrder.background next :: after).foldl (Reference.drawOrder width) reference).pixels := by
  have first : reference.firstLine = true := by
    by_contra last
    have := agree.later (Bool.eq_false_iff.mpr last)
    omega
  have looked : reference.lookForLineEnd width =
      { reference with firstLine := false, insertForeground := false } :=
    if_pos ⟨first, by rw [← agree.pixels, agree.position, position]⟩
  obtain ⟨more, rfl⟩ : ∃ more, next = more + 1 := ⟨next - 1, by omega⟩
  have here : reader.pixels ++ [above width reader.pixels ^^^ reader.foreground] <+:
      (reader.afterOrder (.background (more + 1)) rest).pixels := by
    rw [RleReader.afterOrder, flag, agree.wide]
    exact draw_prefix width _ (List.replicate more id)
  have there : reader.pixels ++ [above width reader.pixels] <+:
      (reference.drawOrder width (.background (more + 1))).pixels := by
    rw [Reference.drawOrder, looked, agree.pixels]
    exact draw_prefix width _ (List.replicate more id)
  refine ne_of_prefixes (fun same => ?_) (here.trans (RleReader.afterOrders_prefix rest after _))
    (there.trans (Reference.drawOrders_prefix width after _))
  have none := congrArg (above width reader.pixels ^^^ ·) same
  rw [agree.foreground, ← Nat.xor_assoc, Nat.xor_self, Nat.zero_xor] at none
  exact colour none

end Runs

section Pictures

variable {width total : Nat} {data : Bytes} {bitsPerPixel : UInt16} {orders : List BitmapOrder}

theorem SpellsOrders.split {bitsPerPixel : UInt16} {done after : List BitmapOrder}
    {order : BitmapOrder} {data : Bytes}
    (spelled : SpellsOrders bitsPerPixel (done ++ order :: after) data) :
    0 < order.pixelCount := by
  induction done generalizing data with
  | nil =>
    obtain ⟨bytes, rest, -, first, -⟩ := spelled.uncons
    exact first.positive.1
  | cons earlier done ih =>
    obtain ⟨bytes, rest, -, -, later⟩ := spelled.uncons
    exact ih later

/-- The pixels of the decoder are those of the reference exactly if no two background runs meet at
    the end of the first scan line under a colour. -/
theorem pixels_eq_reference_iff (spelled : SpellsOrders bitsPerPixel orders data)
    (within : ¬ Straddles width orders) :
    ((RleReader.start data width total bitsPerPixel).afterOrders [] orders).pixels =
        referencePixels width (rleWhite bitsPerPixel) orders ↔
      ¬ RunsMeetAtLineEnd width (rleWhite bitsPerPixel) orders := by
  have inside {done after : List BitmapOrder} {order : BitmapOrder}
      (split : orders = done ++ order :: after) (first : pixelCount done < width) :
      pixelCount (done ++ [order]) ≤ width :=
    Nat.le_of_not_lt fun longer => within ⟨done, order, after, split, first, longer⟩
  constructor
  · rintro same ⟨earlier, run, next, after, rfl, position, colour⟩
    have split : earlier ++ .background run :: .background next :: after =
        (earlier ++ [.background run]) ++ .background next :: after := by simp
    rw [split] at spelled same inside
    -- every boundary before the line's end lies in front of it
    have agree := (agree_start data width total bitsPerPixel).run (earlier ++ [.background run]) []
      fun done order later here => by
        have here' : (earlier ++ [.background run]) ++ .background next :: after =
            done ++ order :: (later ++ .background next :: after) := by rw [here]; simp
        have some := (here' ▸ spelled).split
        have shorter : pixelCount done < width := by
          rw [here, pixelCount_append, pixelCount_cons] at position
          omega
        exact ⟨some, inside here', fun harm => absurd harm.2.2.1 (Nat.ne_of_lt shorter)⟩
    rw [RleReader.afterOrders_append, referencePixels, List.foldl_append] at same
    refine agree.differ ?_ spelled.split position ?_ [] after same
    · rw [RleReader.afterOrders_append]
      rfl
    · rw [List.nil_append, foregroundAfter_append]
      exact colour
  · intro harmless
    refine ((agree_start data width total bitsPerPixel).run orders [] ?_).pixels
    intro done order after split
    refine ⟨(split ▸ spelled).split, inside split, ?_⟩
    rintro ⟨background, ⟨earlier, run, rfl⟩, position, colour⟩
    rw [List.nil_append, foregroundAfter_append] at colour
    cases order with
    | background next =>
      exact harmless ⟨earlier, run, next, after, by rw [split]; simp, position, colour⟩
    | foreground | dithered | colourRun | image | colours => cases background

end Pictures

/-- On streams of orders that do not straddle the end of the first scan line, the decoder accepts
    what spells as many pixels as the picture has, and draws what the reference draws unless two
    background runs meet at that end under a colour. -/
theorem rle_decodes_by_reference_iff (data : Bytes) (width height bitsPerPixel : UInt16)
    (depth : bitsPerPixel ∈ ([8, 15, 16, 24] : List UInt16)) :
    ((∃ pixels, rleDecodeStream data width height bitsPerPixel = .ok pixels) ↔
      (width ≠ 0 ∧ height ≠ 0) ∧ ∃ orders, SpellsOrders bitsPerPixel orders data ∧
        pixelCount orders = width.toNat * height.toNat) ∧
    ∀ orders, SpellsOrders bitsPerPixel orders data →
      pixelCount orders = width.toNat * height.toNat → width ≠ 0 ∧ height ≠ 0 →
      ¬ Straddles width.toNat orders →
      (rleDecodeStream data width height bitsPerPixel =
          .ok (referencePixels width.toNat (rleWhite bitsPerPixel) orders) ↔
        ¬ RunsMeetAtLineEnd width.toNat (rleWhite bitsPerPixel) orders) := by
  constructor
  · constructor
    · rintro ⟨pixels, decoded⟩
      obtain ⟨shape, orders, spelled, count, -⟩ := (rleDecodeStream_ok_iff depth).mp decoded
      exact ⟨shape, orders, spelled, count⟩
    · rintro ⟨shape, orders, spelled, count⟩
      exact ⟨_, (rleDecodeStream_ok_iff depth).mpr ⟨shape, orders, spelled, count, rfl⟩⟩
  · intro orders spelled count shape within
    have decoded := (rleDecodeStream_ok_iff depth).mpr ⟨shape, orders, spelled, count, rfl⟩
    rw [decoded, Except.ok.injEq]
    exact pixels_eq_reference_iff spelled within

theorem not_straddles_of_line {width : Nat} {line : BitmapOrder} (whole : line.pixelCount = width) :
    ¬ Straddles width (line :: orders) := by
  rintro ⟨before, order, after, split, inside, outside⟩
  cases before with
  | nil =>
    obtain ⟨rfl, -⟩ := List.cons.inj split
    simp only [List.nil_append, pixelCount_cons, pixelCount_nil] at outside
    omega
  | cons earlier before =>
    obtain ⟨rfl, -⟩ := List.cons.inj split
    rw [pixelCount_cons] at inside
    omega

theorem backgroundForm_eight : backgroundForm.Spells 8 [0x08] :=
  @RunForm.Spells.short backgroundForm 8 (by decide) (by decide)

/-- A line of background and a line of foreground. -/
theorem rle_decodes_by_reference_iff_lines :
    rleDecodeStream [0x08, 0x28] 8 2 16 =
      .ok (referencePixels 8 0xffff [.background 8, .foreground none 8]) := by
  have length : (foregroundForm false).Spells 8 [0x28] :=
    @RunForm.Spells.short (foregroundForm false) 8 (by decide) (by decide)
  have spelled : SpellsOrders 16 [.background 8, .foreground none 8] ([0x08] ++ ([0x28] ++ [])) :=
    .cons (.background backgroundForm_eight)
      (.cons (@BitmapOrder.Spells.foreground 16 none 8 [0x28] length (fun _ none => by cases none))
        .nil)
  refine ((rle_decodes_by_reference_iff [0x08, 0x28] 8 2 16 (by decide)).2 _ spelled rfl (by decide)
    (not_straddles_of_line rfl)).mpr ?_
  rintro ⟨before, run, next, after, split, -⟩
  rcases before with _ | ⟨_, _ | ⟨_, _⟩⟩ <;> simp at split

/-- Two lines of background: the decoder draws a white pixel at the start of the second. -/
theorem rle_inserts_at_line_end :
    SpellsOrders 16 [.background 8, .background 8] [0x08, 0x08] ∧
      ¬ Straddles 8 [.background 8, .background 8] ∧
      rleDecodeStream [0x08, 0x08] 8 2 16 =
        .ok (List.replicate 8 0 ++ 0xffff :: List.replicate 7 0) ∧
      referencePixels 8 (rleWhite 16) [.background 8, .background 8] = List.replicate 16 0 := by
  refine ⟨?_, not_straddles_of_line rfl, by decide +kernel, by decide +kernel⟩
  exact @SpellsOrders.cons _ _ _ [0x08] [0x08] (.background backgroundForm_eight)
    (.cons (.background backgroundForm_eight) .nil)

end LibRdp.Graphics
