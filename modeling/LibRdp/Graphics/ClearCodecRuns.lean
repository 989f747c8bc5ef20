import LibRdp.Graphics.ClearCodecLayers

/-! # Runs of ClearCodec calls

A call that is refused has done its work on a copy only. The copy is the same as the context, so
that one that goes well leaves what the layers make of the context itself. Within a run a hit on
a slot shows what was last stored there, as far as no lower hit has cut it off.
-/

namespace LibRdp.Graphics

open Machine Effect

theorem clearCloneBytes_yields (memory : Bool) (source : Option α) :
    Yields (clearCloneBytes memory source) (· = source) Refused := by
  cases source with
  | none => exact .pure rfl
  | some bytes => exact .ite (fun _ => .pure rfl) fun _ => yields_refuse nofun

theorem clearClonePlane_yields (memory : Bool) {capacity : Nat} {source : Option Bytes}
    (whole : WholePlane capacity source) :
    Yields (clearClonePlane memory capacity source) (· = source) Refused := by
  obtain ⟨bytes, rfl, length⟩ := whole
  refine .ite (fun _ => yields_refuse nofun) fun _ => .pure ?_
  rw [← length, List.take_length]

theorem clearCloneNscodec_yields (memory : Nat → Bool) {source : NscodecContext}
    (whole : source.Whole) :
    Yields (clearCloneNscodec memory source) (· = source) Refused := by
  refine .ite (fun none => .pure (whole.none none).symm) fun some => ?_
  refine .bind (clearClonePlane_yields _ (whole.luma some)) fun luma sameLuma =>
    .bind (clearClonePlane_yields _ (whole.orangeChroma some)) fun orangeChroma sameOrange =>
    .bind (clearClonePlane_yields _ (whole.greenChroma some)) fun greenChroma sameGreen =>
    .bind (clearClonePlane_yields _ (whole.alpha some)) fun alpha sameAlpha => .pure ?_
  rw [sameLuma, sameOrange, sameGreen, sameAlpha]

theorem clearCloneGlyphs_yields (memory : Nat → Bool) (source : Nat → ClearGlyph) :
    Yields (clearCloneGlyphs memory source) (· = source) Refused := by
  refine .ite (fun _ => yields_refuse nofun) fun _ => .pure ?_
  funext i
  split
  · rfl
  rename_i none
  have empty := List.eq_nil_of_length_eq_zero (Nat.eq_zero_of_not_pos none)
  rw [← empty]

theorem clearContextClone_yields (memory : Nat → Bool) {source : ClearContext}
    (whole : source.nscodec.Whole) :
    Yields (clearContextClone memory source) (· = source) Refused := by
  unfold clearContextClone
  refine .bind (clearCloneBytes_yields _ _) fun vbarStorage sameStorage =>
    .bind (clearCloneBytes_yields _ _) fun shortVbarStorage sameShortStorage =>
    .bind (clearCloneBytes_yields _ _) fun vbarLengths sameLengths =>
    .bind (clearCloneBytes_yields _ _) fun shortVbarLengths sameShortLengths =>
    .bind (clearCloneNscodec_yields _ whole) fun nscodec sameNscodec =>
    .bind (clearCloneGlyphs_yields _ _) fun glyphs sameGlyphs => .pure ?_
  rw [sameStorage, sameShortStorage, sameLengths, sameShortLengths, sameNscodec, sameGlyphs]

theorem clearParseStream_yields (data : Bytes) :
    Yields (clearParseStream data) (fun _ => True) Refused := by
  have index (flags : UInt8) (input : Bytes) :
      Yields (clearReadGlyphIndex flags input) (fun _ => True) Refused :=
    .ite (fun _ => .bind (readU16Le_yields _) fun _ _ => .ite (fun _ => yields_refuse nofun)
      fun _ => .pure trivial) fun _ => .pure trivial
  unfold clearParseStream
  exact .ite (fun _ => yields_refuse nofun) fun _ => .bind (readU8_yields _) fun _ _ =>
    .bind (readU8_yields _) fun _ _ => .ite (fun _ => yields_refuse nofun) fun _ =>
    .ite (fun _ => yields_refuse nofun) fun _ => .bind (index _ _) fun _ _ =>
    .ite (fun _ => yields_refuse nofun) fun _ => .pure trivial

theorem clearParseCompositePayload_yields (data : Bytes) :
    Yields (clearParseCompositePayload data) (fun _ => True) Refused := by
  unfold clearParseCompositePayload
  exact .ite (fun _ => yields_refuse nofun) fun _ => .bind (readU32Le_yields _) fun _ _ =>
    .bind (readU32Le_yields _) fun _ _ => .bind (readU32Le_yields _) fun _ _ =>
    .ite (fun _ => yields_refuse nofun) fun _ => .bind (readBytes_yields _ _) fun _ _ =>
    .bind (readBytes_yields _ _) fun _ _ => .bind (readBytes_yields _ _) fun _ _ => .pure trivial

/-- What a call that succeeds does: it copies a glyph and leaves the context as it is, or it leaves
    what the layers make of the context, and their output. -/
inductive ClearApplied (memory : ClearMemory) (data : Bytes) (width height : Nat)
    (start next : ClearFrame) : Prop where
  | glyph (stream : ClearStream) (parsed : clearParseStream data = .ok stream)
      (hit : stream.has clearFlagGlyphHit = true) (keeps : stream.has clearFlagCacheReset = false)
      (copied : clearCopyGlyph memory.copy (start.context.glyphs (stream.glyphIndex.getD 0).toNat)
        width height start = (.ok (), next))
      (context : next.context = start.context)
  | composed (stream : ClearStream) (payload : ClearPayload) (work : ClearWork)
      (parsed : clearParseStream data = .ok stream) (hit : stream.has clearFlagGlyphHit = false)
      (split : clearParseCompositePayload stream.payload = .ok payload)
      (ran : clearCompose memory stream payload width height { context := start.context } =
        (.ok (), work))
      (context : next.context = work.context) (pixels : next.pixels = clearOutputBytes work.output)
      (stride : next.stride = width * 4)

structure ClearUnchanged (start next : ClearFrame) : Prop where
  context : next.context = start.context
  pixels : next.pixels = start.pixels
  stride : next.stride = start.stride

theorem ClearUnchanged.refl (start : ClearFrame) : ClearUnchanged start start := ⟨rfl, rfl, rfl⟩

theorem clearCopyGlyph_holds (memory : Bool) (glyph : ClearGlyph) (width height : Nat)
    (start : ClearFrame) :
    Holds (· = start) (clearCopyGlyph memory glyph width height)
      (fun _ next => clearCopyGlyph memory glyph width height start = (.ok (), next) ∧
        next.context = start.context ∧ next.work = start.work)
      fun stop next => Refused stop ∧ next = start := by
  have holds : Holds (· = start) (clearCopyGlyph memory glyph width height)
      (fun _ next => next.context = start.context ∧ next.work = start.work)
      fun stop next => Refused stop ∧ next = start := by
    unfold clearCopyGlyph
    refine .ite (fun _ => .stop ?_) fun _ => .ite (fun _ => .stop ?_) fun _ =>
      .ite (fun _ => .stop ?_) fun _ => .ite (fun _ => .stop ?_) fun _ => .modify ?_
    · exact fun _ same => ⟨refused_returned nofun, same⟩
    · exact fun _ same => ⟨refused_returned nofun, same⟩
    · exact fun _ same => ⟨refused_returned nofun, same⟩
    · exact fun _ same => ⟨refused_returned nofun, same⟩
    · rintro frame rfl
      exact ⟨rfl, rfl⟩
  exact holds.tell rfl

variable {width : Nat} {context : ClearContext}

theorem clearCopyGlyph_empty (memory : Bool) {height : Nat} (frame : ClearFrame)
    (some : ¬ (width = 0 ∨ height = 0)) :
    ∃ stop, clearCopyGlyph memory {} width height frame = (.error stop, frame) ∧ Refused stop := by
  have area : 0 < width * height := Nat.mul_pos (by omega) (by omega)
  unfold clearCopyGlyph
  rw [if_neg some]
  split
  · exact ⟨_, rfl, refused_returned nofun⟩
  · rw [if_pos (.inl area)]
    exact ⟨_, rfl, refused_returned nofun⟩

structure ClearFrame.Ready (frame : ClearFrame) : Prop where
  sound : frame.context.Sound
  fresh : frame.work.context.VbarsSound

/-- How a call is refused: it leaves everything as it was but its work, whose slots are sound. -/
def ClearRefused (start : ClearFrame) (stop : Stop) (next : ClearFrame) : Prop :=
  Refused stop ∧ ClearUnchanged start next ∧ next.work.context.VbarsSound

section Branches

variable {memory : ClearMemory} {width height : Nat} {frame : ClearFrame}

theorem clearClone_holds (ready : frame.Ready) :
    Holds (· = frame) (lift (clearContextClone memory.clone frame.context))
      (fun work now => work = frame.context ∧ now = frame) (ClearRefused frame) := by
  refine .lift (clearContextClone_yields _ ready.sound.whole)
    (fun _ _ given here => ⟨given, here⟩) ?_
  rintro _ _ refused rfl
  exact ⟨refused, .refl _, ready.fresh⟩

theorem clearBegin_holds (context : ClearContext) :
    Holds (· = frame) (modify fun frame => { frame with work := { context } })
      (fun _ now => now = { frame with work := { context } }) (ClearRefused frame) := by
  refine .modify ?_
  rintro _ rfl
  rfl

theorem clearResetHit_holds (some : ¬ (width = 0 ∨ height = 0)) (ready : frame.Ready)
    (glyphIndex : Nat) :
    Holds (· = frame) (do
        let work ← lift (clearContextClone memory.clone frame.context)
        modify fun frame => { frame with work := { context := work.reset } }
        clearCopyGlyph memory.copy (work.reset.glyphs glyphIndex) width height
        modify fun frame => { frame with context := frame.work.context })
      (fun _ _ => False) (ClearRefused frame) := by
  refine .bind (clearClone_holds ready) fun work => .assume (fun _ held => held.1) fun same => ?_
  subst same
  have copies : Holds (· = { frame with work := { context := frame.context.reset } })
      (clearCopyGlyph memory.copy (frame.context.reset.glyphs glyphIndex) width height)
      (fun _ _ => False) (ClearRefused frame) := by
    obtain ⟨stop, ran, refused⟩ := clearCopyGlyph_empty memory.copy
      { frame with work := { context := frame.context.reset } } some
    exact .of_error ran ⟨refused, ⟨rfl, rfl, rfl⟩, ready.sound.vbars.reset⟩
  suffices Holds (· = frame) _ (fun _ _ => False) (ClearRefused frame) from
    this.weaken (fun _ held => held.2) (fun _ _ held => held) fun _ _ held => held
  exact .bind (clearBegin_holds _) fun _ => .bind copies fun _ => .modify fun _ held => held.elim

theorem clearComposed_holds (small : width < 2 ^ 16) (stream : ClearStream)
    (payload : ClearPayload) (ready : frame.Ready) :
    Holds (· = frame) (do
        let work ← lift (clearContextClone memory.clone frame.context)
        modify fun frame => { frame with work := { context := work } }
        zoom ClearFrame.work (fun frame work => { frame with work })
          (clearCompose memory stream payload width height)
        modify fun frame => { frame with
          context := frame.work.context
          pixels := clearOutputBytes frame.work.output
          stride := width * 4 })
      (fun _ next => ∃ work, clearCompose memory stream payload width height
          { context := frame.context } = (.ok (), work) ∧ work.context.Sound ∧
        next = { context := work.context, pixels := clearOutputBytes work.output
                 stride := width * 4, work })
      (ClearRefused frame) := by
  refine .bind (clearClone_holds ready) fun work => .assume (fun _ held => held.1) fun same => ?_
  subst same
  have composes : Holds (· = { frame with work := { context := frame.context } })
      (zoom ClearFrame.work (fun frame work => { frame with work })
        (clearCompose memory stream payload width height))
      (fun _ now => ∃ work, clearCompose memory stream payload width height
          { context := frame.context } = (.ok (), work) ∧ work.context.Sound ∧
        now = { frame with work }) (ClearRefused frame) := by
    have begun : (ClearWork.mk frame.context (Memory.filled 0 {})).context.Sound := ready.sound
    have holds := Holds.tell (clearCompose_holds memory stream payload height small) begun
    refine .zoom holds ?_ ?_ ?_
    · rintro _ rfl
      rfl
    · rintro _ _ work rfl ⟨ran, done⟩
      exact ⟨work, ran, done, rfl⟩
    · rintro stop _ work rfl ⟨refused, done⟩
      exact ⟨refused, ⟨rfl, rfl, rfl⟩, done.vbars⟩
  suffices Holds (· = frame) _ _ (ClearRefused frame) from
    this.weaken (fun _ held => held.2) (fun _ _ held => held) fun _ _ held => held
  refine .bind (clearBegin_holds _) fun _ => .bind composes fun _ => .modify ?_
  rintro _ ⟨work, ran, done, rfl⟩
  exact ⟨work, ran, done, rfl⟩

end Branches

theorem clearDecodeBitmap_holds (memory : ClearMemory) (data : Bytes) (height : Nat)
    (small : width < 2 ^ 16) {start : ClearFrame} (ready : start.Ready) :
    Holds (· = start) (clearDecodeBitmap memory data width height)
      (fun _ next => ClearApplied memory data width height start next ∧ next.context.Sound ∧
        next.work.context.VbarsSound) (ClearRefused start) := by
  have same {stop : Stop} (refused : Refused stop) :
      ∀ now, now = start → ClearRefused start stop now := by
    rintro _ rfl
    exact ⟨refused, .refl _, ready.fresh⟩
  unfold clearDecodeBitmap
  refine .ite (fun _ => .stop (same (refused_returned nofun))) fun some => ?_
  have parses : Holds (· = start) (lift (clearParseStream data))
      (fun stream now => clearParseStream data = .ok stream ∧ now = start) (ClearRefused start) :=
    .lift (clearParseStream_yields data).tell (fun _ _ given here => ⟨given.1, here⟩)
      fun _ _ refused here => same refused _ here
  refine .bind parses fun stream => .assume (fun _ held => held.1) fun parsed => ?_
  have looks : Holds (fun now => clearParseStream data = .ok stream ∧ now = start) Effect.get
      (fun frame now => frame = start ∧ now = start) (ClearRefused start) :=
    .get fun _ held => ⟨held.2, held.2⟩
  refine .bind looks fun frame => .assume (fun _ held => held.1) fun here => ?_
  subst here
  suffices Holds (· = frame) _ _ (ClearRefused frame) from
    this.weaken (fun _ held => held.2) (fun _ _ held => held) fun _ _ held => held
  refine .ite (fun hit => .ite (fun keeps => ?_) fun _ => ?_) fun missed =>
    .ite (fun _ => .stop (same (refused_returned nofun))) fun _ => ?_
  · refine (clearCopyGlyph_holds _ _ _ _ frame).weaken (fun _ here => here) ?_
      fun _ _ held => same held.1 _ held.2
    rintro _ next ⟨copied, context, work⟩
    refine ⟨.glyph stream parsed hit (by simpa using keeps) copied context, ?_, ?_⟩
    · rw [context]
      exact ready.sound
    · rw [work]
      exact ready.fresh
  · exact (clearResetHit_holds some ready _).weaken (fun _ here => here)
      (fun _ _ held => held.elim) fun _ _ held => held
  · have splits : Holds (· = frame) (lift (clearParseCompositePayload stream.payload))
        (fun payload now => clearParseCompositePayload stream.payload = .ok payload ∧ now = frame)
        (ClearRefused frame) :=
      .lift (clearParseCompositePayload_yields _).tell (fun _ _ given here => ⟨given.1, here⟩)
        fun _ _ refused here => same refused _ here
    refine .bind splits fun payload => .assume (fun _ held => held.1) fun split => ?_
    refine (clearComposed_holds small stream payload ready).weaken (fun _ held => held.2) ?_
      fun _ _ held => held
    rintro _ _ ⟨work, ran, done, rfl⟩
    exact ⟨.composed stream payload work parsed (by simpa using missed) split ran rfl rfl rfl, done,
      done.vbars⟩

structure ClearCall (memory : ClearMemory) (data : Bytes) (width height : UInt16)
    (start : ClearFrame) (status : Status) (next : ClearFrame) : Prop where
  applied : status = .ok → ClearApplied memory data width.toNat height.toNat start next
  refused : status ≠ .ok → ClearUnchanged start next
  sound : next.context.Sound
  work : next.work.context.VbarsSound

theorem clearStep_decode (sound : context.Sound) (memory : ClearMemory) (data : Bytes)
    (width height : UInt16) (pixels : Bytes) (stride : Nat) :
    ∃ status next, clearStep context (.decode memory data width height pixels stride) =
        .ok (some (.of status next), next.context) ∧
      (clearDecodeBitmap memory data width.toNat height.toNat { context, pixels, stride }).2 = next ∧
      ClearCall memory data width height { context, pixels, stride } status next := by
  have start : ClearFrame.Ready { context, pixels, stride } := ⟨sound, .init⟩
  obtain ⟨done, stops⟩ :=
    clearDecodeBitmap_holds memory data height.toNat width.toNat_lt start _ rfl
  cases ran : clearDecodeBitmap memory data width.toNat height.toNat { context, pixels, stride } with
  | mk result next =>
    cases result with
    | ok _ =>
      obtain ⟨applied, whole, work⟩ := done () next ran
      exact ⟨.ok, next, by rw [clearStep, ran], rfl,
        ⟨fun _ => applied, fun failed => absurd rfl failed, whole, work⟩⟩
    | error stop =>
      obtain ⟨⟨status, rfl, failed⟩, unchanged, work⟩ := stops stop next ran
      refine ⟨status, next, by rw [clearStep, ran], rfl,
        ⟨fun same => absurd same failed, fun _ => unchanged, ?_, work⟩⟩
      rw [unchanged.context]
      exact sound

theorem clear_reachable_sound (reached : Reachable clearStep {} context) : context.Sound := by
  refine reached.invariant ClearContext.Sound ⟨.init, .init⟩ ?_
  intro context input answer next sound taken
  cases input with
  | reset =>
    cases taken
    exact ⟨sound.vbars.reset, sound.whole⟩
  | decode memory data width height pixels stride =>
    obtain ⟨status, frame, ran, _, call⟩ :=
      clearStep_decode sound memory data width height pixels stride
    cases ran.symm.trans taken
    exact call.sound

/-- A call comes to an end, and on its way every pixel that a layer writes lies in the bitmap, every
    palette, bar and short bar lies in its table, no unsigned difference that bounds something is
    below zero and no loop goes on for ever: the columns of a band are counted in 16 bits, and a count
    that came round would run for ever. -/
theorem clear_decode_never_faults {context : ClearContext}
    (reached : Reachable clearStep {} context) (memory : ClearMemory) (data : Bytes)
    (width height : UInt16) (pixels : Bytes) (stride : Nat) (fault : Fault) :
    (clearDecodeBitmap memory data width.toNat height.toNat { context, pixels, stride }).1 ≠
      .error (.fault fault) := by
  intro faults
  obtain ⟨status, next, answered, _⟩ :=
    clearStep_decode (clear_reachable_sound reached) memory data width height pixels stride
  rw [clearStep, show clearDecodeBitmap memory data width.toNat height.toNat
    { context, pixels, stride } = (.error (.fault fault), _) from Prod.ext faults rfl] at answered
  cases answered

/-- Two by two pixels in all three layers: a residual, a bar of two rows, and a region with a palette
    whose last run may be one too long. -/
def layeredBitmap (run : UInt8) : Bytes :=
  [0, 0, 4, 0, 0, 0, 16, 0, 0, 0, 19, 0, 0, 0, 1, 2, 3, 4,
    0, 0, 0, 0, 0, 0, 1, 0, 9, 9, 9, 0x00, 0x01, 5, 6, 7,
    1, 0, 0, 0, 1, 0, 2, 0, 6, 0, 0, 0, 2, 1, 4, 4, 4, 0, run]

def layeredContext : ClearContext :=
  (clearDecodeBitmap {} (layeredBitmap 1) (2 : UInt16).toNat (2 : UInt16).toNat
    { context := {}, pixels := [], stride := 0 }).2.context

theorem layeredContext_reached : Reachable clearStep {} layeredContext := by
  obtain ⟨_, _, ran, same, _⟩ :=
    clearStep_decode (clear_reachable_sound .init) {} (layeredBitmap 1) 2 2 [] 0
  rw [← same] at ran
  exact .step .init ran

theorem layeredBitmap_drawn :
    (clearStep layeredContext (.decode {} (layeredBitmap 1) 2 2 [7] 4)).map Prod.fst =
      .ok (some { status := .ok, stride := 8
                  pixels := [5, 6, 7, 0xff, 4, 4, 4, 0xff, 9, 9, 9, 0xff, 4, 4, 4, 0xff] }) := by
  decide +kernel

theorem clear_decode_never_faults_layered :
    (clearDecodeBitmap {} (layeredBitmap 1) (2 : UInt16).toNat (2 : UInt16).toNat
      { context := layeredContext, pixels := [7], stride := 4 }).1 ≠ .error (.fault .outOfBounds) :=
  clear_decode_never_faults layeredContext_reached {} (layeredBitmap 1) 2 2 [7] 4 .outOfBounds

/-- A call that is refused leaves the context, and the pixels and the stride that it was given, as
    they were. One that goes well leaves exactly what its stream makes of the old context. -/
theorem clear_decode_all_or_nothing {context : ClearContext}
    (reached : Reachable clearStep {} context) (memory : ClearMemory) (data : Bytes)
    (width height : UInt16) (pixels : Bytes) (stride : Nat) :
    ∃ answer next, clearStep context (.decode memory data width height pixels stride) =
        .ok (some answer, next) ∧
      (answer.status ≠ .ok → next = context ∧ answer.pixels = pixels ∧ answer.stride = stride) ∧
      (answer.status = .ok → ∃ frame, ClearApplied memory data width.toNat height.toNat
          { context, pixels, stride } frame ∧
        next = frame.context ∧ answer = .of .ok frame) := by
  obtain ⟨status, next, ran, _, call⟩ :=
    clearStep_decode (clear_reachable_sound reached) memory data width height pixels stride
  refine ⟨_, _, ran, ?_, ?_⟩
  · intro failed
    have unchanged := call.refused failed
    exact ⟨unchanged.context, unchanged.pixels, unchanged.stride⟩
  · intro done
    have done : status = .ok := done
    exact ⟨next, call.applied done, rfl, by rw [done]⟩

theorem clear_decode_all_or_nothing_layered :
    (∃ answer next, clearStep layeredContext (.decode {} (layeredBitmap 2) 2 2 [7] 4) =
        .ok (some answer, next) ∧ answer.status = .protocolError ∧
      next = layeredContext ∧ answer.pixels = [7] ∧ answer.stride = 4) ∧
    ∃ answer next frame, clearStep layeredContext (.decode {} (layeredBitmap 1) 2 2 [7] 4) =
        .ok (some answer, next) ∧ answer.stride = 8 ∧
      ClearApplied {} (layeredBitmap 1) 2 2 { context := layeredContext, pixels := [7], stride := 4 }
        frame ∧ next = frame.context ∧ answer = .of .ok frame := by
  have refused : (clearStep layeredContext (.decode {} (layeredBitmap 2) 2 2 [7] 4)).map Prod.fst =
      .ok (some { status := .protocolError, pixels := [7], stride := 4 }) := by decide +kernel
  have drawn := layeredBitmap_drawn
  constructor
  · obtain ⟨answer, next, ran, unchanged, _⟩ :=
      clear_decode_all_or_nothing layeredContext_reached {} (layeredBitmap 2) 2 2 [7] 4
    rw [ran] at refused
    cases refused
    exact ⟨_, _, ran, rfl, unchanged nofun⟩
  · obtain ⟨answer, next, ran, _, applied⟩ :=
      clear_decode_all_or_nothing layeredContext_reached {} (layeredBitmap 1) 2 2 [7] 4
    rw [ran] at drawn
    cases drawn
    obtain ⟨frame, whole, context, same⟩ := applied rfl
    exact ⟨_, _, frame, ran, rfl, whole, context, same⟩

theorem padded_rows_iff {history : SlotHistory} (solid : ∀ pixel ∈ history.stored, pixel.a = 0xff)
    (height : Nat) :
    paddedVbar height history.rows = paddedVbar height history.stored ↔
      min height history.stored.length ≤ history.kept := by
  constructor
  · intro same
    by_contra less
    have inside : history.kept < height ∧ history.kept < history.stored.length := by omega
    have row := congrArg (·[history.kept]?) same
    simp only [paddedVbar, List.getElem?_map, List.getElem?_range inside.1, Option.map_some,
      Option.some.injEq] at row
    rw [getD_behind (Nat.le_of_eq (rows_length history)), List.getD_eq_getElem?_getD,
      List.getElem?_eq_getElem inside.2, Option.getD_some] at row
    have full := solid _ (List.getElem_mem inside.2)
    rw [← row] at full
    cases full
  · intro enough
    apply List.map_congr_left
    intro y held
    have shown := List.mem_range.mp held
    by_cases left : y < history.kept
    · exact getD_take _ left
    · rw [getD_behind (by rw [rows_length]; omega), getD_behind (by omega)]

/-- In every run of calls a hit shows the rows of the bar that was last stored in its slot, as far as
    they lie above the lowest hit since. So it shows the bar itself exactly if no earlier hit since
    was lower than the rows to show. -/
theorem vbar_hit_reads_iff {context : ClearContext} (reached : Reachable clearStep {} context)
    (memory : ClearMemory) (data : Bytes) (width height : UInt16) (pixels : Bytes) (stride : Nat)
    {before after : List VbarEvent} {slot bandHeight : Nat} {rows : List Pixel}
    (hit : (clearDecodeBitmap memory data width.toNat height.toNat
      { context, pixels, stride }).2.work.context.trace =
        before ++ .hit slot bandHeight rows :: after) :
    rows = paddedVbar bandHeight (historyOf slot before).stored ↔
      ∀ earlier ∈ (historyOf slot before).hits,
        min bandHeight (historyOf slot before).stored.length ≤ earlier := by
  obtain ⟨status, next, _, same, call⟩ :=
    clearStep_decode (clear_reachable_sound reached) memory data width height pixels stride
  rw [same] at hit
  have shown : rows = paddedVbar bandHeight (historyOf slot before).rows :=
    call.work.right before _ after hit
  have solid := TraceRight.solid (TraceRight.before (hit ▸ call.work.right)) slot
  rw [shown, padded_rows_iff solid, SlotHistory.kept, le_foldl_min]
  exact and_iff_right (Nat.min_le_right _ _)

/-- A bar of two rows, a hit by a band of one row and one by a band of two rows. -/
def cutVbar : Bytes :=
  [0, 0, 0, 0, 0, 0, 45, 0, 0, 0, 0, 0, 0, 0,
    0, 0, 0, 0, 0, 0, 1, 0, 9, 9, 9, 0x00, 0x02, 1, 2, 3, 4, 5, 6,
    0, 0, 0, 0, 0, 0, 0, 0, 9, 9, 9, 0x00, 0x80,
    0, 0, 0, 0, 0, 0, 1, 0, 9, 9, 9, 0x00, 0x80]

theorem cutVbar_trace :
    (clearDecodeBitmap {} cutVbar (1 : UInt16).toNat (2 : UInt16).toNat
      { context := {}, pixels := [], stride := 0 }).2.work.context.trace =
      [.stored 0 [⟨1, 2, 3, 0xff⟩, ⟨4, 5, 6, 0xff⟩], .hit 0 1 [⟨1, 2, 3, 0xff⟩],
        .hit 0 2 [⟨1, 2, 3, 0xff⟩, {}]] := by
  decide +kernel

theorem vbar_hit_reads_iff_cut :
    let before : List VbarEvent :=
      [.stored 0 [⟨1, 2, 3, 0xff⟩, ⟨4, 5, 6, 0xff⟩], .hit 0 1 [⟨1, 2, 3, 0xff⟩]]
    [⟨1, 2, 3, 0xff⟩, {}] ≠ paddedVbar 2 (historyOf 0 before).stored := by
  intro before same
  have cut := (@vbar_hit_reads_iff {} .init {} cutVbar 1 2 [] 0 _ [] 0 2 _ cutVbar_trace).mp same
  exact absurd (cut 1 (by decide)) (by decide)

/-- The second hit shows an empty row where a row was stored, and the call goes well. -/
theorem lower_hit_cuts_vbar :
    (∃ before rows, (clearDecodeBitmap {} cutVbar (1 : UInt16).toNat (2 : UInt16).toNat
        { context := {}, pixels := [], stride := 0 }).2.work.context.trace =
          before ++ [.hit 0 2 rows] ∧
      rows ≠ paddedVbar 2 (historyOf 0 before).stored) ∧
    (clearStep {} (.decode {} cutVbar 1 2 [] 0)).map Prod.fst =
      .ok (some { status := .ok, pixels := [1, 2, 3, 0xff, 0, 0, 0, 0], stride := 4 }) := by
  refine ⟨⟨[.stored 0 [⟨1, 2, 3, 0xff⟩, ⟨4, 5, 6, 0xff⟩], .hit 0 1 [⟨1, 2, 3, 0xff⟩]], _, cutVbar_trace,
    ?_⟩, ?_⟩
  · decide
  · decide +kernel

end LibRdp.Graphics
