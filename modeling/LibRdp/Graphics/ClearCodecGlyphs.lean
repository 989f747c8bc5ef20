import LibRdp.Graphics.ClearCodecRuns

/-! # What the glyph cache gives back

A call that goes well and carries a glyph index leaves its pixels in the slot of that index. Until
the slot is stored again or a reset empties all slots, a hit gives back the first of these pixels,
at any size that needs no more of them.
-/

namespace LibRdp.Graphics

open Machine Effect

/-! ## The layers and the glyphs -/

def ClearWork.frame (work : ClearWork) : (Nat → ClearGlyph) × Nat :=
  (work.context.glyphs, work.output.size)

theorem storePixel_size {dest next : Memory Pixel} {index : Nat} {pixel : Pixel}
    (stored : storePixel dest index pixel = .ok next) : next.size = dest.size := by
  unfold storePixel Memory.store at stored
  split at stored
  · rename_i kept
    split at kept
    · cases kept
      cases stored
      rfl
    · cases kept
  · cases stored

theorem clearPut_leaves (index : Nat) (pixel : Pixel) :
    Leaves ClearWork.frame (ClearWork.put index pixel) := by
  intro work
  unfold ClearWork.put
  rw [get_bind]
  cases stored : storePixel work.output index pixel with
  | error e => rfl
  | ok output =>
    rw [lift_ok_bind]
    show (work.context.glyphs, output.size) = _
    rw [storePixel_size stored]
    rfl

theorem clearChange_leaves {next : ClearContext → ClearContext}
    (same : ∀ context, (next context).glyphs = context.glyphs) :
    Leaves ClearWork.frame (ClearWork.change next) :=
  .modify fun work => Prod.ext (same work.context) rfl

theorem clearResidualLoop_leaves (width pixelCount fuel offset : Nat) (stream : Bytes) :
    Leaves ClearWork.frame (clearResidualLoop width pixelCount fuel offset stream) := by
  induction fuel generalizing offset stream with
  | zero =>
    cases stream with
    | nil => exact .pure _
    | cons byte rest => exact .stop _
  | succ fuel ih =>
    cases stream with
    | nil => exact .pure _
    | cons byte rest =>
      exact .bind (.lift _) fun _ => .bind (.lift _) fun _ => .ite (fun _ => .stop _) fun _ =>
        .bind (.forM fun _ _ => clearPut_leaves _ _) fun _ => ih _ _

theorem clearDecodeResidual_leaves (data : Bytes) (width height : Nat) :
    Leaves ClearWork.frame (clearDecodeResidual data width height) :=
  .ite (fun _ => .stop _) fun _ => .bind (clearResidualLoop_leaves _ _ _ _ _) fun _ =>
    .ite (fun _ => .stop _) fun _ => .pure _

@[simp] theorem normalizeVbar_glyphs (context : ClearContext) (slot height : Nat) :
    (context.normalizeVbar slot height).glyphs = context.glyphs := by
  unfold ClearContext.normalizeVbar
  split <;> rfl

theorem clearCopyVbarToPixels_leaves (vbar : Nat → Pixel) (x yStart height width : Nat) :
    Leaves ClearWork.frame (clearCopyVbarToPixels vbar x yStart height width) :=
  .forM fun _ _ => clearPut_leaves _ _

theorem clearVbarHit_leaves (index x yStart height width : Nat) :
    Leaves ClearWork.frame (clearVbarHit index x yStart height width) :=
  .bind .get fun _ => .bind (.lift _) fun _ =>
    .bind (clearChange_leaves fun _ => normalizeVbar_glyphs _ _ _) fun _ => .bind .get fun _ =>
    .bind (clearCopyVbarToPixels_leaves _ _ _ _ _) fun _ => .bind .get fun _ =>
    clearChange_leaves fun _ => rfl

theorem clearVbarStore_leaves (rows : List Pixel) (x yStart width : Nat) :
    Leaves ClearWork.frame (clearVbarStore rows x yStart width) :=
  .bind .get fun _ => .bind (.lift _) fun _ => .bind (clearChange_leaves fun _ => rfl) fun _ =>
    clearCopyVbarToPixels_leaves _ _ _ _ _

theorem clearDecodeBandVbar_leaves (band : ClearBand) (x : UInt16) (bandHeight width : Nat)
    (stream : Bytes) :
    Leaves ClearWork.frame (clearDecodeBandVbar band x bandHeight width stream) := by
  unfold clearDecodeBandVbar
  refine .bind (.lift _) fun read => .ite (fun _ => ?_) fun _ => .ite (fun _ => ?_) fun _ =>
    .ite (fun _ => .ite (fun _ => .stop _) fun _ => ?_) fun _ => .stop _
  · exact .bind (clearVbarHit_leaves _ _ _ _ _) fun _ => .pure _
  · exact .bind (.lift _) fun _ => .bind .get fun _ => .bind (.lift _) fun _ =>
      .bind (.lift _) fun _ => .bind (.lift _) fun _ =>
      .bind (clearVbarStore_leaves _ _ _ _) fun _ => .pure _
  · exact .bind (.lift _) fun _ => .bind (.lift _) fun _ => .bind .get fun _ =>
      .bind (.lift _) fun _ => .bind (clearChange_leaves fun _ => rfl) fun _ =>
      .bind (.lift _) fun _ => .bind (clearVbarStore_leaves _ _ _ _) fun _ => .pure _

theorem clearColumnsLoop_leaves (band : ClearBand) (bandHeight width fuel : Nat) (x : UInt16)
    (stream : Bytes) :
    Leaves ClearWork.frame (clearColumnsLoop band bandHeight width fuel x stream) := by
  induction fuel generalizing x stream with
  | zero => exact .stop _
  | succ fuel ih =>
    exact .ite (fun _ => .bind (clearDecodeBandVbar_leaves _ _ _ _ _) fun _ => ih _ _)
      fun _ => .pure _

theorem clearBandsLoop_leaves (width height fuel : Nat) (stream : Bytes) :
    Leaves ClearWork.frame (clearBandsLoop width height fuel stream) := by
  induction fuel generalizing stream with
  | zero =>
    cases stream with
    | nil => exact .pure _
    | cons byte rest => exact .stop _
  | succ fuel ih =>
    cases stream with
    | nil => exact .pure _
    | cons byte rest =>
      exact .bind (.lift _) fun _ => .ite (fun _ => .stop _) fun _ =>
        .bind (clearColumnsLoop_leaves _ _ _ _ _ _) fun _ => ih _

theorem clearEnsure_leaves {memory : Bool} {missing : ClearContext → Bool}
    {allocate : ClearContext → ClearContext}
    (same : ∀ context, (allocate context).glyphs = context.glyphs) :
    Leaves ClearWork.frame (clearEnsure memory missing allocate) :=
  .bind .get fun _ => .ite (fun _ => .ite (fun _ => clearChange_leaves same) fun _ => .stop _)
    fun _ => .pure _

theorem clearDecodeBands_leaves (memory : Nat → Bool) (data : Bytes) (width height : Nat) :
    Leaves ClearWork.frame (clearDecodeBands memory data width height) :=
  .bind (.bind (clearEnsure_leaves fun _ => rfl) fun _ => .bind (clearEnsure_leaves fun _ => rfl)
    fun _ => .bind (clearEnsure_leaves fun _ => rfl) fun _ => clearEnsure_leaves fun _ => rfl)
    fun _ => clearBandsLoop_leaves _ _ _ _

theorem clearApplyRawSubcodec_leaves (behind : Nat → UInt8) (subcodec : ClearSubcodec)
    (width height : Nat) :
    Leaves ClearWork.frame (clearApplyRawSubcodec behind subcodec width height) :=
  .bind (.lift _) fun _ => .ite (fun _ => .stop _) fun _ => .ite (fun _ => .stop _) fun _ =>
    .forM fun _ _ => .forM fun _ _ => clearPut_leaves _ _

theorem nscodecDecodeRegion_leaves (memory : NscodecMemory) (data : Bytes)
    (width height destStride destX destY destWidth destHeight : Nat) :
    Leaves (fun frame : NscodecFrame => frame.dest.size)
      (nscodecDecodeRegion memory data width height destStride destX destY destWidth destHeight) := by
  have put (index : Nat) (pixel : Pixel) :
      Leaves (fun frame : NscodecFrame => frame.dest.size) (NscodecFrame.put index pixel) := by
    intro frame
    unfold NscodecFrame.put
    rw [get_bind]
    cases stored : storePixel frame.dest index pixel with
    | error e => rfl
    | ok dest => exact storePixel_size stored
  exact .ite (fun _ => .stop _) fun _ => .bind (.lift _) fun _ => .ite (fun _ => .stop _) fun _ =>
    .bind (.lift _) fun _ => .bind .get fun _ => .bind (.lift _) fun _ =>
    .bind (.modify fun _ => rfl) fun _ => .forM fun _ _ => .forM fun _ _ => put _ _

theorem clearDecodeNscSubcodec_leaves (memory : NscodecMemory) (subcodec : ClearSubcodec)
    (width height : Nat) :
    Leaves ClearWork.frame (clearDecodeNscSubcodec memory subcodec width height) := by
  refine .bind (.lift _) fun _ => .ite (fun _ => .stop _) fun _ => ?_
  intro work
  exact Prod.ext rfl (nscodecDecodeRegion_leaves memory subcodec.bitmapData subcodec.width
    subcodec.height width subcodec.x subcodec.y width height _)

theorem clearRlexLoop_leaves (subcodec : ClearSubcodec) (palette : List Pixel)
    (width pixelCount fuel offset pixelIndex : Nat) :
    Leaves ClearWork.frame
      (clearRlexLoop subcodec palette width pixelCount fuel offset pixelIndex) := by
  induction fuel generalizing offset pixelIndex with
  | zero =>
    unfold clearRlexLoop
    exact .ite (fun _ => .pure _) fun _ => .stop _
  | succ fuel ih =>
    unfold clearRlexLoop
    exact .ite (fun _ => .pure _) fun _ => .bind (.lift _) fun _ => .ite (fun _ => .stop _) fun _ =>
      .bind (.lift _) fun _ => .bind (.lift _) fun _ => .ite (fun _ => .stop _) fun _ =>
      .bind (.lift _) fun _ => .ite (fun _ => .stop _) fun _ => .bind (.lift _) fun _ =>
      .ite (fun _ => .stop _) fun _ => .bind (.lift _) fun _ =>
      .bind (.forM fun _ _ => clearPut_leaves _ _) fun _ => .bind (.lift _) fun _ =>
      .ite (fun _ => .stop _) fun _ => .bind (.forM fun _ _ => .ite (fun _ => .stop _) fun _ =>
        .bind (.lift _) fun _ => clearPut_leaves _ _) fun _ => ih _ _

theorem clearDecodeRlexSubcodec_leaves (subcodec : ClearSubcodec) (width height : Nat) :
    Leaves ClearWork.frame (clearDecodeRlexSubcodec subcodec width height) :=
  .bind (.lift _) fun _ => .ite (fun _ => .stop _) fun _ => .ite (fun _ => .stop _) fun _ =>
    .bind (.lift _) fun _ => .ite (fun _ => .stop _) fun _ => .bind (.lift _) fun _ =>
    .bind (clearRlexLoop_leaves _ _ _ _ _ _ _) fun _ => .ite (fun _ => .stop _) fun _ => .pure _

theorem clearSubcodecsLoop_leaves (memory : Nat → NscodecMemory) (behind : Nat → Nat → UInt8)
    (width height fuel : Nat) (data : Bytes) :
    Leaves ClearWork.frame (clearSubcodecsLoop memory behind width height fuel data) := by
  have region (memory : NscodecMemory) (behind : Nat → UInt8) (subcodec : ClearSubcodec) :
      Leaves ClearWork.frame (clearDecodeSubcodec memory behind subcodec width height) :=
    .ite (fun _ => clearApplyRawSubcodec_leaves _ _ _ _) fun _ =>
      .ite (fun _ => clearDecodeNscSubcodec_leaves _ _ _ _) fun _ =>
      .ite (fun _ => clearDecodeRlexSubcodec_leaves _ _ _) fun _ => .stop _
  induction fuel generalizing data with
  | zero =>
    cases data with
    | nil => exact .pure _
    | cons byte rest => exact .stop _
  | succ fuel ih =>
    cases data with
    | nil => exact .pure _
    | cons byte rest =>
      exact .bind (.lift _) fun _ => .bind (region _ _ _) fun _ => ih _

variable {data pixels : Bytes} {memory : ClearMemory} {width height : Nat} {input : ClearInput}

theorem clearLayer_leaves {layer : Bytes → ClearEffect Unit}
    (leaves : Leaves ClearWork.frame (layer data)) :
    Leaves ClearWork.frame (clearLayer data layer) :=
  .ite (fun _ => leaves) fun _ => .pure _

theorem clearOutputBytes_length (output : Memory Pixel) :
    (clearOutputBytes output).length = output.size * 4 := by
  have each : ∀ pixels : List Pixel, (pixels.flatMap Pixel.bytes).length = pixels.length * 4 := by
    intro pixels
    induction pixels with
    | nil => rfl
    | cons pixel pixels ih =>
      rw [List.flatMap_cons, List.length_append, ih, List.length_cons]
      simp only [Pixel.bytes, List.length_cons, List.length_nil]
      omega
  rw [clearOutputBytes, each, Memory.window_length]

def composedGlyphs (stream : ClearStream) (glyph : ClearGlyph) (glyphs : Nat → ClearGlyph) :
    Nat → ClearGlyph := fun i =>
  if stream.glyphIndex.map UInt16.toNat = some i then glyph
  else if stream.has clearFlagCacheReset then {} else glyphs i

variable {stream : ClearStream} {context : ClearContext} {answer : Option ClearAnswer}

variable {next : ClearContext}

theorem clearCompose_glyphs {payload : ClearPayload} {work next : ClearWork}
    (ran : clearCompose memory stream payload width height work = (.ok (), next)) :
    next.output.size = width * height ∧ next.context.glyphs = composedGlyphs stream
      { pixelCount := width * height, pixels := clearOutputBytes next.output }
      work.context.glyphs := by
  let cleared : Nat → ClearGlyph := fun i =>
    if stream.has clearFlagCacheReset then {} else work.context.glyphs i
  let layered (now : ClearWork) := now.frame = (cleared, width * height)
  have resets : Holds (· = work) (ClearWork.change fun context =>
      if stream.has clearFlagCacheReset then context.reset else context)
      (fun _ now => now.context.glyphs = cleared) fun _ _ => True := by
    refine .modify ?_
    rintro _ rfl
    funext i
    simp only [cleared]
    split <;> rfl
  have clears : Holds (fun now : ClearWork => now.context.glyphs = cleared)
      (modify fun now => { now with output := Memory.filled (width * height) {} })
      (fun _ => layered) fun (_ : Stop) _ => True :=
    .modify fun now same => Prod.ext same rfl
  have layer {data : Bytes} {layer : Bytes → ClearEffect Unit}
      (leaves : Leaves ClearWork.frame (layer data)) :
      Holds layered (clearLayer data layer) (fun _ => layered) fun _ _ => True :=
    (clearLayer_leaves leaves).holds (cleared, width * height) |>.weaken (fun _ held => held)
      (fun _ _ held => held) fun _ _ _ => trivial
  suffices holds : Holds (· = work) (clearCompose memory stream payload width height)
      (fun _ now => now.output.size = width * height ∧ now.context.glyphs = composedGlyphs stream
        { pixelCount := width * height, pixels := clearOutputBytes now.output }
        work.context.glyphs) fun _ _ => True from
    (holds work rfl).1 () next ran
  unfold clearCompose
  refine .bind resets fun _ => .ite (fun _ => .stop fun _ _ => trivial) fun _ => .bind clears
    fun _ => .bind (layer (clearDecodeResidual_leaves _ _ _)) fun _ =>
    .bind (layer (clearDecodeBands_leaves _ _ _ _)) fun _ =>
    .bind (layer (clearSubcodecsLoop_leaves _ _ _ _ _ _)) fun _ => ?_
  cases index : stream.glyphIndex with
  | none =>
    refine .pure fun now held => ?_
    obtain ⟨glyphs, size⟩ := Prod.mk.inj held
    refine ⟨size, glyphs.trans ?_⟩
    funext i
    simp only [composedGlyphs, index, Option.map_none, reduceCtorEq, if_false, cleared]
  | some glyphIndex =>
    have looks : Holds layered Effect.get (fun seen now => seen = now ∧ layered now)
        fun (_ : Stop) _ => True := .get fun _ held => ⟨rfl, held⟩
    unfold clearStoreGlyph
    refine .ite (fun _ => .stop fun _ _ => trivial) fun _ => .ite (fun _ => .stop fun _ _ => trivial)
      fun _ => .bind looks fun seen => .modify ?_
    rintro now ⟨rfl, held⟩
    obtain ⟨glyphs, size⟩ := Prod.mk.inj held
    refine ⟨size, ?_⟩
    funext i
    simp only [composedGlyphs, index, Option.map_some, Option.some.injEq, glyphs, cleared]
    by_cases same : i = glyphIndex.toNat
    · rw [if_pos same, if_pos same.symm]
    · rw [if_neg same, if_neg (Ne.symm same)]

/-! ## Copies of a glyph -/

structure Copied (memory : Bool) (glyph : ClearGlyph) (width height : Nat) : Prop where
  wide : width ≠ 0
  high : height ≠ 0
  memory : memory = true
  count : width * height ≤ glyph.pixelCount
  length : width * height * 4 ≤ glyph.pixels.length

theorem clearCopyGlyph_ok_iff {memory : Bool} {glyph : ClearGlyph} {width height : Nat}
    (wide : width < 2 ^ 16) (high : height < 2 ^ 16) {frame next : ClearFrame} :
    clearCopyGlyph memory glyph width height frame = (.ok (), next) ↔
      Copied memory glyph width height ∧ next = { frame with
        pixels := glyph.pixels.take (width * height * 4), stride := width * 4 } := by
  unfold clearCopyGlyph
  constructor
  · intro ran
    split at ran
    · cases congrArg Prod.fst ran
    split at ran
    · cases congrArg Prod.fst ran
    split at ran
    · cases congrArg Prod.fst ran
    split at ran
    · cases congrArg Prod.fst ran
    rename_i some _ enough there
    refine ⟨⟨by omega, by omega, by simpa using there, by omega, by omega⟩, ?_⟩
    exact (congrArg Prod.snd ran).symm
  · rintro ⟨⟨some, some', there, count, length⟩, rfl⟩
    have area : width * height ≤ 2 ^ 16 * 2 ^ 16 :=
      Nat.mul_le_mul (Nat.le_of_lt wide) (Nat.le_of_lt high)
    have bounded : ¬ (width > sizeMax / height ∨ width * height > sizeMax / 4) := by
      have quotient : width ≤ sizeMax / height := by
        rw [Nat.le_div_iff_mul_le (Nat.pos_of_ne_zero some')]
        exact Nat.le_trans area (by decide)
      have quarter : 2 ^ 16 * 2 ^ 16 ≤ sizeMax / 4 := by decide
      omega
    rw [if_neg (by omega), if_neg bounded, if_neg (by omega), if_neg (by simp [there])]
    rfl

/-! ## What happened to a glyph -/

abbrev ClearExchange := ClearInput × Option ClearAnswer

structure Decoded (stream : ClearStream) (width height : UInt16) (pixels : Bytes)
    (exchange : ClearExchange) : Prop where
  called : ∃ memory data old oldStride stride, clearParseStream data = .ok stream ∧
    exchange = (.decode memory data width height old oldStride, some { status := .ok, pixels, stride })

def StoresGlyph (g : UInt16) (exchange : ClearExchange) : Prop :=
  ∃ stream width height pixels, Decoded stream width height pixels exchange ∧
    stream.glyphIndex = some g ∧ stream.has clearFlagGlyphHit = false

def ResetsGlyphs (exchange : ClearExchange) : Prop :=
  exchange.1 = .reset ∨ ∃ stream width height pixels, Decoded stream width height pixels exchange ∧
    stream.has clearFlagCacheReset = true

/-- A call that carries a glyph index went well, and since then no call has stored in its slot and
    none has reset the caches. -/
def GlyphDecoded (g width height : UInt16) (pixels : Bytes) (history : List ClearExchange) : Prop :=
  ∃ before exchange after stream, history = before ++ exchange :: after ∧
    Decoded stream width height pixels exchange ∧ stream.glyphIndex = some g ∧
    ∀ later ∈ after, ¬ StoresGlyph g later ∧ ¬ ResetsGlyphs later

variable {exchange : ClearExchange} {history : List ClearExchange}

theorem Decoded.unique {stream' : ClearStream} {width width' height height' : UInt16}
    {pixels' : Bytes} (decoded : Decoded stream width height pixels exchange)
    (decoded' : Decoded stream' width' height' pixels' exchange) :
    stream = stream' ∧ width = width' ∧ height = height' ∧ pixels = pixels' := by
  obtain ⟨_, _, _, _, _, parsed, rfl⟩ := decoded
  obtain ⟨_, _, _, _, _, parsed', same⟩ := decoded'
  cases same
  exact ⟨Except.ok.inj (parsed.symm.trans parsed'), rfl, rfl, rfl⟩

theorem glyphDecoded_append {g width height : UInt16} :
    GlyphDecoded g width height pixels (history ++ [exchange]) ↔
      (∃ stream, Decoded stream width height pixels exchange ∧ stream.glyphIndex = some g) ∨
      GlyphDecoded g width height pixels history ∧ ¬ StoresGlyph g exchange ∧
        ¬ ResetsGlyphs exchange := by
  constructor
  · rintro ⟨before, other, after, stream, cut, decoded, index, since⟩
    rcases List.eq_nil_or_concat after with rfl | ⟨later, last, rfl⟩
    · obtain ⟨_, same⟩ := List.append_inj' cut rfl
      cases same
      exact .inl ⟨stream, decoded, index⟩
    · rw [List.concat_eq_append] at cut since
      rw [← List.cons_append, ← List.append_assoc] at cut
      obtain ⟨rfl, same⟩ := List.append_inj' cut rfl
      cases same
      exact .inr ⟨⟨before, other, later, stream, rfl, decoded, index,
        fun e held => since e (List.mem_append_left _ held)⟩, since exchange (by simp)⟩
  · rintro (⟨stream, decoded, index⟩ | ⟨⟨before, other, after, stream, rfl, decoded, index, since⟩,
      quiet⟩)
    · exact ⟨history, exchange, [], stream, rfl, decoded, index, nofun⟩
    · refine ⟨before, other, after ++ [exchange], stream, by simp, decoded, index, ?_⟩
      intro later held
      rcases List.mem_append.mp held with inside | last
      · exact since later inside
      · rw [List.mem_singleton.mp last]
        exact quiet

/-! ## What a call does to a glyph -/

def ClearGlyph.Whole (glyph : ClearGlyph) : Prop := glyph.pixels.length = glyph.pixelCount * 4

structure ClearGlyph.Begins (glyph : ClearGlyph) (area : Nat) (pixels : Bytes) : Prop where
  count : area ≤ glyph.pixelCount
  first : glyph.pixels.take (area * 4) = pixels

inductive GlyphMoves (g : UInt16) (old new : ClearGlyph) (exchange : ClearExchange) : Prop where
  | stored (stream : ClearStream) (width height : UInt16) (pixels : Bytes)
      (decoded : Decoded stream width height pixels exchange) (index : stream.glyphIndex = some g)
      (missed : stream.has clearFlagGlyphHit = false)
      (glyph : new = { pixelCount := width.toNat * height.toNat, pixels }) (whole : new.Whole)
  | emptied (resets : ResetsGlyphs exchange) (glyph : new = {})
      (silent : ∀ stream width height pixels, Decoded stream width height pixels exchange →
        stream.glyphIndex ≠ some g)
  | kept (stores : ¬ StoresGlyph g exchange) (resets : ¬ ResetsGlyphs exchange) (glyph : new = old)
      (shown : ∀ stream width height pixels, Decoded stream width height pixels exchange →
        stream.glyphIndex = some g → old.Begins (width.toNat * height.toNat) pixels)

theorem GlyphMoves.refused {g : UInt16} {glyph : ClearGlyph} {input : ClearInput}
    {answer : ClearAnswer} (called : input ≠ .reset) (failed : answer.status ≠ .ok) :
    GlyphMoves g glyph glyph (input, some answer) := by
  have never : ∀ stream width height pixels,
      ¬ Decoded stream width height pixels (input, some answer) := by
    rintro stream width height pixels ⟨_, _, _, _, _, _, same⟩
    cases same
    exact failed rfl
  refine .kept ?_ ?_ rfl fun stream width height pixels decoded => absurd decoded (never _ _ _ _)
  · rintro ⟨stream, width, height, pixels, decoded, _⟩
    exact never _ _ _ _ decoded
  · rintro (reset | ⟨stream, width, height, pixels, decoded, _⟩)
    · exact called reset
    · exact never _ _ _ _ decoded

theorem clearStep_glyph (sound : context.Sound)
    (taken : clearStep context input = .ok (answer, next)) (g : UInt16) :
    GlyphMoves g (context.glyphs g.toNat) (next.glyphs g.toNat) (input, answer) := by
  cases input with
  | reset =>
    cases taken
    refine .emptied (.inl rfl) rfl ?_
    rintro _ _ _ _ ⟨_, _, _, _, _, _, same⟩
    cases same
  | decode memory data width height pixels stride =>
    obtain ⟨status, frame, ran, _, call⟩ :=
      clearStep_decode sound memory data width height pixels stride
    cases ran.symm.trans taken
    by_cases done : status = .ok
    · subst done
      cases call.applied rfl with
      | glyph stream parsed hit keeps copied same =>
        have decoded : Decoded stream width height frame.pixels
            (.decode memory data width height pixels stride, some (.of .ok frame)) :=
          ⟨memory, data, pixels, stride, frame.stride, parsed, rfl⟩
        rw [same]
        refine .kept ?_ ?_ rfl ?_
        · rintro ⟨other, _, _, _, decoded', _, missed⟩
          rw [← (decoded.unique decoded').1, hit] at missed
          cases missed
        · rintro (reset | ⟨other, _, _, _, decoded', resets⟩)
          · cases reset
          · rw [← (decoded.unique decoded').1, keeps] at resets
            cases resets
        · intro other width' height' pixels' decoded' index
          obtain rfl := (decoded.unique decoded').1
          obtain ⟨_, _, _, _, _, _, sameCall⟩ := decoded'
          cases sameCall
          rw [index, Option.getD_some] at copied
          obtain ⟨enough, there⟩ :=
            (clearCopyGlyph_ok_iff width.toNat_lt height.toNat_lt).mp copied
          exact ⟨enough.count, by rw [there]⟩
      | composed stream payload work parsed hit split ran' sameContext samePixels sameStride =>
        have decoded : Decoded stream width height frame.pixels
            (.decode memory data width height pixels stride, some (.of .ok frame)) :=
          ⟨memory, data, pixels, stride, frame.stride, parsed, rfl⟩
        obtain ⟨size, glyphs⟩ := clearCompose_glyphs ran'
        rw [sameContext, glyphs, composedGlyphs]
        by_cases index : stream.glyphIndex = some g
        · rw [index, Option.map_some, if_pos rfl, ← samePixels]
          refine .stored stream width height frame.pixels decoded index hit rfl ?_
          rw [ClearGlyph.Whole, samePixels, clearOutputBytes_length, size]
        have apart : stream.glyphIndex.map UInt16.toNat ≠ some g.toNat := by
          intro same
          obtain ⟨other, found, equal⟩ := Option.map_eq_some_iff.mp same
          rw [found, UInt16.toNat_inj.mp equal] at index
          exact index rfl
        rw [if_neg apart]
        cases resets : stream.has clearFlagCacheReset with
        | true =>
          refine .emptied (.inr ⟨stream, _, _, _, decoded, resets⟩) rfl ?_
          intro other _ _ _ decoded' same
          rw [← (decoded.unique decoded').1] at same
          exact index same
        | false =>
          refine .kept ?_ ?_ rfl ?_
          · rintro ⟨other, _, _, _, decoded', same, _⟩
            rw [← (decoded.unique decoded').1] at same
            exact index same
          · rintro (reset | ⟨other, _, _, _, decoded', reset⟩)
            · cases reset
            · rw [← (decoded.unique decoded').1, resets] at reset
              cases reset
          · intro other _ _ _ decoded' same
            rw [← (decoded.unique decoded').1] at same
            exact absurd same index
    · rw [(call.refused done).context]
      exact .refused nofun done

/-! ## Runs of calls -/

/-- What is known of the glyphs after what happened: a slot begins with what was last decoded to it, and
    one to which nothing was decoded is empty. -/
structure GlyphsKnown (history : List ClearExchange) (context : ClearContext) : Prop where
  reached : Reachable clearStep {} context
  whole : ∀ g : UInt16, (context.glyphs g.toNat).Whole
  begins : ∀ {g width height : UInt16} {pixels : Bytes}, GlyphDecoded g width height pixels history →
    (context.glyphs g.toNat).Begins (width.toNat * height.toNat) pixels
  decoded : ∀ {g : UInt16}, (context.glyphs g.toNat).pixelCount ≠ 0 →
    ∃ width height pixels, GlyphDecoded g width height pixels history

theorem GlyphsKnown.init : GlyphsKnown [] {} where
  reached := .init
  whole _ := rfl
  begins := by
    rintro _ _ _ _ ⟨before, _, _, _, cut, _⟩
    cases before <;> cases cut
  decoded some := absurd rfl some

theorem GlyphsKnown.step (known : GlyphsKnown history context)
    (taken : clearStep context input = .ok (answer, next)) :
    GlyphsKnown (history ++ [(input, answer)]) next := by
  have moves := clearStep_glyph (clear_reachable_sound known.reached) taken
  refine ⟨known.reached.step taken, fun g => ?_, fun {g width height pixels} decoded => ?_,
    fun {g} some => ?_⟩
  · cases moves g with
    | stored _ _ _ _ _ _ _ _ whole => exact whole
    | emptied _ glyph =>
      rw [glyph]
      rfl
    | kept _ _ glyph =>
      rw [glyph]
      exact known.whole g
  · rcases glyphDecoded_append.mp decoded with ⟨stream, last, index⟩ | ⟨earlier, quiet, still⟩
    · cases moves g with
      | stored stream' _ _ _ decoded' _ _ glyph whole =>
        obtain ⟨-, rfl, rfl, rfl⟩ := last.unique decoded'
        rw [glyph] at whole ⊢
        refine ⟨Nat.le_refl _, ?_⟩
        have length : pixels.length = width.toNat * height.toNat * 4 := whole
        rw [← length, List.take_length]
      | emptied _ _ silent => exact absurd index (silent _ _ _ _ last)
      | kept _ _ glyph shown =>
        rw [glyph]
        exact shown _ _ _ _ last index
    · cases moves g with
      | stored stream _ _ _ decoded' index missed _ _ =>
        exact absurd ⟨stream, _, _, _, decoded', index, missed⟩ quiet
      | emptied resets => exact absurd resets still
      | kept _ _ glyph =>
        rw [glyph]
        exact known.begins earlier
  · cases moves g with
    | stored stream width height pixels decoded' index =>
      exact ⟨width, height, pixels, glyphDecoded_append.mpr (.inl ⟨stream, decoded', index⟩)⟩
    | emptied _ glyph =>
      rw [glyph] at some
      exact absurd rfl some
    | kept stores resets glyph =>
      rw [glyph] at some
      obtain ⟨width, height, pixels, earlier⟩ := known.decoded some
      exact ⟨width, height, pixels, glyphDecoded_append.mpr (.inr ⟨earlier, stores, resets⟩)⟩

theorem clearDecodeBitmap_hit (wide : 0 < width) (high : 0 < height)
    (parsed : clearParseStream data = .ok stream) (hit : stream.has clearFlagGlyphHit = true)
    (keeps : stream.has clearFlagCacheReset = false) (frame : ClearFrame) :
    clearDecodeBitmap memory data width height frame =
      clearCopyGlyph memory.copy (frame.context.glyphs (stream.glyphIndex.getD 0).toNat) width height
        frame := by
  rw [clearDecodeBitmap, if_neg (by omega), parsed, lift_ok_bind, get_bind, if_pos hit,
    if_pos (by simp [keeps])]

/-- After every run of calls and resets, a hit on a slot to which pixels were decoded gives back the
    first of them, at any size that needs no more of them than there were, unless the hit itself
    resets the caches. A hit that does, and a hit on a slot to which nothing was decoded since the
    last reset, is refused. -/
theorem glyph_hit_gives_last_decoded {inputs : List ClearInput} {outs : List (Option ClearAnswer)}
    {context : ClearContext} (ran : run clearStep {} inputs = .ok (outs, context)) {data : Bytes}
    {stream : ClearStream} (parsed : clearParseStream data = .ok stream)
    (hit : stream.has clearFlagGlyphHit = true) {g : UInt16} (index : stream.glyphIndex = some g)
    (memory : ClearMemory) (width height : UInt16) (pixels : Bytes) (stride : Nat) :
    (∀ storedWidth storedHeight stored,
        GlyphDecoded g storedWidth storedHeight stored (inputs.zip outs) →
        stream.has clearFlagCacheReset = false → 0 < width.toNat → 0 < height.toNat →
        width.toNat * height.toNat ≤ storedWidth.toNat * storedHeight.toNat → memory.copy = true →
        clearStep context (.decode memory data width height pixels stride) =
          .ok (some { status := .ok, pixels := stored.take (width.toNat * height.toNat * 4)
                      stride := width.toNat * 4 }, context)) ∧
      (stream.has clearFlagCacheReset = true ∨
          (∀ storedWidth storedHeight stored,
            ¬ GlyphDecoded g storedWidth storedHeight stored (inputs.zip outs)) →
        ∃ answer, clearStep context (.decode memory data width height pixels stride) =
          .ok (some answer, context) ∧ answer.status ≠ .ok) := by
  have known : GlyphsKnown (inputs.zip outs) context :=
    run_exchanges GlyphsKnown .init (fun _ _ _ _ _ known taken => known.step taken) ran
  refine ⟨?_, ?_⟩
  · intro storedWidth storedHeight stored decoded keeps wide high fits there
    obtain ⟨count, first⟩ := known.begins decoded
    have length : (context.glyphs g.toNat).pixels.length = _ := known.whole g
    have copied : Copied memory.copy (context.glyphs g.toNat) width.toNat height.toNat :=
      ⟨by omega, by omega, there, by omega, by omega⟩
    have taken := (@clearCopyGlyph_ok_iff _ _ _ _ width.toNat_lt height.toNat_lt
      { context, pixels, stride } _).mpr ⟨copied, rfl⟩
    have prefixes : (context.glyphs g.toNat).pixels.take (width.toNat * height.toNat * 4) =
        stored.take (width.toNat * height.toNat * 4) := by
      rw [← first, List.take_take, Nat.min_eq_left (Nat.mul_le_mul_right 4 fits)]
    rw [clearStep, clearDecodeBitmap_hit wide high parsed hit keeps, index, Option.getD_some, taken,
      ← prefixes]
    rfl
  · intro refuses
    obtain ⟨status, next, answered, _, call⟩ := clearStep_decode
      (clear_reachable_sound known.reached) memory data width height pixels stride
    have failed : status ≠ .ok := by
      intro done
      cases call.applied done with
      | glyph stream' parsed' _ keeps copied _ =>
          cases parsed.symm.trans parsed'
          rw [index, Option.getD_some] at copied
          obtain ⟨enough, _⟩ := (clearCopyGlyph_ok_iff width.toNat_lt height.toNat_lt).mp copied
          rcases refuses with resets | none
          · rw [keeps] at resets
            cases resets
          · have area := Nat.mul_pos (Nat.pos_of_ne_zero enough.wide)
              (Nat.pos_of_ne_zero enough.high)
            have some : (context.glyphs g.toNat).pixelCount ≠ 0 := by
              have count : _ ≤ (context.glyphs g.toNat).pixelCount := enough.count
              omega
            obtain ⟨_, _, _, decoded⟩ := known.decoded some
            exact none _ _ _ decoded
      | composed stream' _ _ parsed' missed =>
          cases parsed.symm.trans parsed'
          rw [hit] at missed
          cases missed
    rw [(call.refused failed).context] at answered
    exact ⟨_, answered, failed⟩

/-- Two rows of two pixels for the slot 5, a hit on the slot and a hit that resets the caches. -/
def storedGlyph : Bytes :=
  [1, 0, 5, 0, 12, 0, 0, 0, 0, 0, 0, 0, 0, 0, 0, 0, 1, 2, 3, 1, 4, 5, 6, 2, 7, 8, 9, 1]

def storedPixels : Bytes := [1, 2, 3, 0xff, 4, 5, 6, 0xff, 4, 5, 6, 0xff, 7, 8, 9, 0xff]

def glyphHit : Bytes := [3, 0, 5, 0]

def resettingHit : Bytes := [7, 0, 5, 0]

theorem storedGlyph_taken : ∃ context,
    run clearStep {} [.decode {} storedGlyph 2 2 [] 0] =
      .ok ([some { status := .ok, pixels := storedPixels, stride := 8 }], context) := by
  obtain ⟨answer, next, taken, _⟩ := clear_decode_all_or_nothing .init {} storedGlyph 2 2 [] 0
  have answered : (clearStep {} (.decode {} storedGlyph 2 2 [] 0)).map Prod.fst =
      .ok (some { status := .ok, pixels := storedPixels, stride := 8 }) := by
    decide +kernel
  rw [taken] at answered
  cases answered
  exact ⟨next, run_singleton taken⟩

theorem storedGlyph_decoded : GlyphDecoded 5 2 2 storedPixels
    [(.decode {} storedGlyph 2 2 [] 0,
      some { status := .ok, pixels := storedPixels, stride := 8 })] :=
  ⟨[], _, [], ⟨1, 0, some 5, storedGlyph.drop 4⟩, rfl, ⟨_, _, _, _, _, by decide, rfl⟩, rfl, nofun⟩

theorem glyph_hit_gives_last_decoded_stored : ∃ context,
    run clearStep {} [.decode {} storedGlyph 2 2 [] 0] =
        .ok ([some { status := .ok, pixels := storedPixels, stride := 8 }], context) ∧
      clearStep context (.decode {} glyphHit 2 1 [] 0) =
        .ok (some { status := .ok, pixels := [1, 2, 3, 0xff, 4, 5, 6, 0xff], stride := 8 },
          context) := by
  obtain ⟨context, ran⟩ := storedGlyph_taken
  have hit : clearParseStream glyphHit = .ok ⟨3, 0, some 5, []⟩ := by decide
  exact ⟨context, ran, (glyph_hit_gives_last_decoded ran hit (by decide) rfl {} 2 1 [] 0).1 2 2
    storedPixels storedGlyph_decoded (by decide) (by decide) (by decide) (by decide) rfl⟩

/-- A hit that resets the caches is refused although pixels were decoded to its slot just before. -/
theorem resetting_hit_refused : ∃ context,
    run clearStep {} [.decode {} storedGlyph 2 2 [] 0] =
        .ok ([some { status := .ok, pixels := storedPixels, stride := 8 }], context) ∧
      GlyphDecoded 5 2 2 storedPixels [(.decode {} storedGlyph 2 2 [] 0,
        some { status := .ok, pixels := storedPixels, stride := 8 })] ∧
      (∃ stream, clearParseStream resettingHit = .ok stream ∧
        stream.has clearFlagGlyphHit = true ∧ stream.glyphIndex = some 5) ∧
      (clearStep context (.decode {} resettingHit 2 2 [] 0)).map Prod.fst =
        .ok (some { status := .protocolError, pixels := [], stride := 0 }) := by
  obtain ⟨context, ran⟩ := storedGlyph_taken
  refine ⟨context, ran, storedGlyph_decoded, ⟨⟨7, 0, some 5, []⟩, by decide, by decide, rfl⟩, ?_⟩
  have both : (run clearStep {} [.decode {} storedGlyph 2 2 [] 0,
      .decode {} resettingHit 2 2 [] 0]).map Prod.fst =
        .ok [some { status := .ok, pixels := storedPixels, stride := 8 },
          some { status := .protocolError, pixels := [], stride := 0 }] := by
    decide +kernel
  obtain ⟨first, now, rest, taken, done, same⟩ := run_cons_split ran
  cases done
  cases same
  rw [run_cons_ok taken] at both
  cases refused : clearStep context (.decode {} resettingHit 2 2 [] 0) with
  | error fault =>
      rw [run, refused] at both
      cases both
  | ok result =>
      rw [run_singleton refused] at both
      have answers := List.cons.inj (Except.ok.inj both)
      rw [Except.map, (List.cons.inj answers.2).1]

end LibRdp.Graphics
