import LibRdp.Graphics.NsCodec

/-! # The planes of a context

Either a context has no planes, or it has all four and they are as long as its capacity. A
bitmap that fits its destination is drawn without a write behind the end, and one that is refused
leaves the context as it was.
-/

namespace LibRdp.Graphics

open Machine Effect

/-- A function that stops this way returned a status that is no success. -/
def Refused (stop : Stop) : Prop := ∃ status, stop = .returned status ∧ status ≠ .ok

variable {status : Status} {context : NscodecContext} {capacity width height index : Nat}
  {plane : Option Bytes}

theorem refused_returned (failed : status ≠ .ok) : Refused (.returned status) :=
  ⟨status, rfl, failed⟩

theorem yields_refuse {done : α → Prop} (failed : status ≠ .ok) :
    Yields (refuse status : Attempt α) done Refused := .fails (refused_returned failed)

theorem readU8_yields (stream : Bytes) :
    Yields (readU8 stream) (fun read => read.2.length + 1 = stream.length) Refused := by
  cases stream with
  | nil => exact yields_refuse nofun
  | cons byte rest => exact .pure rfl

theorem readU16Le_yields (stream : Bytes) :
    Yields (readU16Le stream) (fun read => read.2.length + 2 = stream.length) Refused := by
  match stream with
  | [] | [_] => exact yields_refuse nofun
  | _ :: _ :: _ => exact .pure rfl

theorem readU32Le_yields (stream : Bytes) :
    Yields (readU32Le stream) (fun read => read.2.length + 4 = stream.length) Refused := by
  match stream with
  | [] | [_] | [_, _] | [_, _, _] => exact yields_refuse nofun
  | _ :: _ :: _ :: _ :: _ => exact .pure rfl

theorem readBytes_yields (stream : Bytes) (length : Nat) :
    Yields (readBytes stream length)
      (fun read => read.1.length = length ∧ read.2.length + length = stream.length) Refused := by
  unfold readBytes
  refine .ite (fun _ => yields_refuse nofun) fun enough => .pure ?_
  rw [List.length_take, List.length_drop]
  omega

theorem clearSub_yields {a b : Nat} (enough : b ≤ a) :
    Yields (clearSub a b) (· = a - b) Refused := by
  rw [clearSub, if_pos enough]
  exact .pure rfl

theorem regionFits_yields (x y width height destWidth destHeight : Nat) :
    Yields (regionFits x y width height destWidth destHeight)
      (fun fits => fits = true → x + width ≤ destWidth ∧ y + height ≤ destHeight) Refused := by
  unfold regionFits
  refine .ite (fun _ => .pure nofun) fun begins =>
    .bind (clearSub_yields (by omega)) fun across wide => .ite (fun _ => .pure nofun) fun _ =>
    .bind (clearSub_yields (by omega)) fun down high => .pure fun fits => ?_
  have fits := of_decide_eq_true fits
  omega

theorem nscodecPlaneSize_yields (width height : Nat) :
    Yields (nscodecPlaneSize width height)
      (fun size => size = width * height ∧ 0 < width ∧ 0 < height) Refused := by
  unfold nscodecPlaneSize
  refine .ite (fun _ => yields_refuse nofun) fun some => .pure ⟨rfl, ?_, ?_⟩ <;> omega

theorem nscodecRleLoop_yields {outputLen left : Nat} {input output : Bytes}
    (whole : output.length + left = outputLen) :
    Yields (nscodecRleLoop outputLen left input output) (·.length = outputLen) Refused := by
  have room : Yields (clearSub outputLen output.length) (· = outputLen - output.length) Refused :=
    clearSub_yields (by omega)
  fun_induction nscodecRleLoop outputLen left input output with
  | case2 left input output few sizes =>
    refine .bind room fun left' same => .ite (fun _ => yields_refuse nofun) fun _ => .pure ?_
    rw [List.length_append]
    omega
  | case4 output value rest many ih =>
    have next : (output ++ [value]).length + (5 - 1) = outputLen := by
      rw [List.length_append, List.length_singleton]
      omega
    exact ih next (clearSub_yields (by omega))
  | case6 left output many value five next behind apart ih =>
    have next : (output ++ [value]).length + (left - 1) = outputLen := by
      rw [List.length_append, List.length_singleton]
      omega
    exact ih next (clearSub_yields (by omega))
  | case9 left output many value five next same factor tail small run inside ih =>
    have next : (output ++ List.replicate run value).length + (left - run) = outputLen := by
      rw [List.length_append, List.length_replicate]
      omega
    exact .bind room fun left' _ => .ite (fun _ => yields_refuse nofun) fun _ =>
      ih left' next (clearSub_yields (by omega))
  | case11 left output many value five next same factor large b0 b1 b2 b3 tail run inside ih =>
    have next : (output ++ List.replicate run value).length + (left - run) = outputLen := by
      rw [List.length_append, List.length_replicate]
      omega
    exact .bind room fun left' _ => .ite (fun _ => yields_refuse nofun) fun _ =>
      ih left' next (clearSub_yields (by omega))
  | _ => exact yields_refuse nofun

theorem nscodecDecodePlane_yields (encoded : Bytes) (expectedLen : Nat) :
    Yields (nscodecDecodePlane encoded expectedLen) (·.length = expectedLen) Refused := by
  unfold nscodecDecodePlane nscodecDecodeRlePlaneInto
  refine .ite (fun _ => yields_refuse nofun) fun some => .ite (fun same => .pure same) fun _ =>
    .ite (fun _ => yields_refuse nofun) fun _ => .ite (fun _ => yields_refuse nofun) fun _ =>
    .ite (fun _ => .ite (fun _ => yields_refuse nofun) fun same => .pure ?_) fun _ =>
    nscodecRleLoop_yields (Nat.zero_add _)
  exact Decidable.of_not_not same

theorem nscodecDecodeAlpha_yields (encoded : Bytes) (expectedLen : Nat) :
    Yields (nscodecDecodeAlpha encoded expectedLen) (·.length = expectedLen) Refused :=
  .ite (fun _ => .pure List.length_replicate) fun _ => nscodecDecodePlane_yields _ _

def WholePlane (capacity : Nat) (plane : Option Bytes) : Prop :=
  ∃ bytes, plane = some bytes ∧ bytes.length = capacity

structure NscodecContext.Whole (context : NscodecContext) : Prop where
  none : context.planeCapacity = 0 → context = {}
  luma : context.planeCapacity ≠ 0 → WholePlane context.planeCapacity context.luma
  orangeChroma : context.planeCapacity ≠ 0 → WholePlane context.planeCapacity context.orangeChroma
  greenChroma : context.planeCapacity ≠ 0 → WholePlane context.planeCapacity context.greenChroma
  alpha : context.planeCapacity ≠ 0 → WholePlane context.planeCapacity context.alpha

theorem NscodecContext.Whole.init : NscodecContext.Whole {} where
  none _ := rfl
  luma some := absurd rfl some
  orangeChroma some := absurd rfl some
  greenChroma some := absurd rfl some
  alpha some := absurd rfl some

theorem NscodecContext.Whole.of_planes (luma : WholePlane context.planeCapacity context.luma)
    (orangeChroma : WholePlane context.planeCapacity context.orangeChroma)
    (greenChroma : WholePlane context.planeCapacity context.greenChroma)
    (alpha : WholePlane context.planeCapacity context.alpha) (some : context.planeCapacity ≠ 0) :
    context.Whole :=
  ⟨fun none => absurd none some, fun _ => luma, fun _ => orangeChroma, fun _ => greenChroma,
    fun _ => alpha⟩

theorem nscodecGrowPlane_whole {oldCapacity : Nat}
    (old : oldCapacity ≠ 0 → WholePlane oldCapacity plane) (more : oldCapacity ≤ capacity) :
    WholePlane capacity (nscodecGrowPlane capacity oldCapacity plane) := by
  refine ⟨_, rfl, ?_⟩
  rw [List.length_append, List.length_take, List.length_replicate]
  by_cases none : oldCapacity = 0
  · rw [none]
    omega
  obtain ⟨bytes, rfl, length⟩ := old none
  rw [Option.getD_some, length]
  omega

theorem nscodecEnsurePlanes_yields {memory : Bool} {capacity : Nat} {context : NscodecContext}
    (whole : context.Whole) (some : 0 < capacity) :
    Yields (nscodecEnsurePlanes memory capacity context)
      (fun next => next.Whole ∧ capacity ≤ next.planeCapacity) Refused := by
  unfold nscodecEnsurePlanes
  refine .ite (fun enough => .pure ⟨whole, enough⟩) fun more =>
    .ite (fun _ => yields_refuse nofun) fun _ => .pure ⟨?_, Nat.le_refl _⟩
  have grows : context.planeCapacity ≤ capacity := by omega
  exact .of_planes (nscodecGrowPlane_whole whole.luma grows)
    (nscodecGrowPlane_whole whole.orangeChroma grows)
    (nscodecGrowPlane_whole whole.greenChroma grows) (nscodecGrowPlane_whole whole.alpha grows)
    (Nat.pos_iff_ne_zero.mp some)

theorem nscodecWritePlane_whole {decoded : Bytes} (whole : WholePlane capacity plane)
    (fits : decoded.length ≤ capacity) : WholePlane capacity (nscodecWritePlane decoded plane) := by
  obtain ⟨bytes, rfl, length⟩ := whole
  refine ⟨_, rfl, ?_⟩
  rw [List.length_append, List.length_drop, length]
  omega

theorem nscodecDecodePlanes_yields {memory : NscodecMemory} {stream : NscodecStream}
    (whole : context.Whole) :
    Yields (nscodecDecodePlanes memory stream width height context) NscodecContext.Whole Refused := by
  unfold nscodecDecodePlanes
  refine .bind (nscodecPlaneSize_yields _ _) fun lumaSize ⟨_, _, _⟩ =>
    .bind (nscodecPlaneSize_yields _ _) fun chromaSize ⟨_, _, _⟩ =>
    .bind (nscodecPlaneSize_yields _ _) fun alphaSize ⟨area, wide, high⟩ =>
    .ite (fun _ => yields_refuse nofun) fun _ =>
    .bind (nscodecDecodePlane_yields _ _) fun luma lumaLength =>
    .bind (nscodecDecodePlane_yields _ _) fun orangeChroma orangeLength =>
    .bind (nscodecDecodePlane_yields _ _) fun greenChroma greenLength =>
    .bind (nscodecDecodeAlpha_yields _ _) fun alpha alphaLength => ?_
  have some : 0 < max (max lumaSize chromaSize) alphaSize := by
    have positive := Nat.mul_pos wide high
    omega
  refine .bind (nscodecEnsurePlanes_yields whole some) fun next ⟨grown, enough⟩ => .pure ?_
  have there : next.planeCapacity ≠ 0 := by omega
  have lumaFits : luma.length ≤ next.planeCapacity := by omega
  have orangeFits : orangeChroma.length ≤ next.planeCapacity := by omega
  have greenFits : greenChroma.length ≤ next.planeCapacity := by omega
  have alphaFits : alpha.length ≤ next.planeCapacity := by omega
  exact .of_planes (nscodecWritePlane_whole (grown.luma there) lumaFits)
    (nscodecWritePlane_whole (grown.orangeChroma there) orangeFits)
    (nscodecWritePlane_whole (grown.greenChroma there) greenFits)
    (nscodecWritePlane_whole (grown.alpha there) alphaFits) there

theorem nscodecParseStream_yields (data : Bytes) (width height : Nat) :
    Yields (nscodecParseStream data width height) (fun _ => True) Refused := by
  have extents : ∀ subsampled,
      Yields (nscodecPlaneExtents subsampled width height) (fun _ => True) Refused := by
    intro subsampled
    unfold nscodecPlaneExtents
    split
    · exact .ite (fun _ => yields_refuse nofun) fun _ =>
        .ite (fun _ => .pure trivial) fun _ => .pure trivial
    · exact yields_refuse nofun
  unfold nscodecParseStream
  refine .ite (fun _ => yields_refuse nofun) fun valid => ?_
  have header : nscodecStreamHeaderLength ≤ data.length := by
    simp only [Bool.or_eq_true, not_or, decide_eq_true_eq, Nat.not_lt] at valid
    exact valid.2
  exact .bind (readU32Le_yields _) fun _ _ => .bind (readU32Le_yields _) fun _ _ =>
    .bind (readU32Le_yields _) fun _ _ => .bind (readU32Le_yields _) fun _ _ =>
    .bind (readU8_yields _) fun _ _ => .bind (readU8_yields _) fun _ _ =>
    .bind (readU16Le_yields _) fun _ _ => .ite (fun _ => yields_refuse nofun) fun _ =>
    .bind (extents _) fun _ _ => .bind (nscodecPlaneSize_yields _ _) fun _ _ =>
    .bind (nscodecPlaneSize_yields _ _) fun _ _ => .bind (nscodecPlaneSize_yields _ _) fun _ _ =>
    .ite (fun _ => yields_refuse nofun) fun _ => .ite (fun _ => yields_refuse nofun) fun _ =>
    .bind (clearSub_yields header) fun _ _ => .ite (fun _ => yields_refuse nofun) fun _ =>
    .bind (readBytes_yields _ _) fun _ _ => .bind (readBytes_yields _ _) fun _ _ =>
    .bind (readBytes_yields _ _) fun _ _ => .bind (readBytes_yields _ _) fun _ _ => .pure trivial

theorem pixel_inside {row column : Nat} (high : row < height) (wide : column < width) :
    row * width + column < width * height := by
  have rows : row * width + width ≤ height * width := by
    rw [← Nat.succ_mul]
    exact Nat.mul_le_mul_right width high
  rw [Nat.mul_comm width height]
  omega

theorem storePixel_inside {dest : Memory Pixel} (pixel : Pixel) (inside : index < dest.size) :
    storePixel dest index pixel = .ok (dest.put index pixel) := by
  rw [storePixel, Memory.store_of_lt inside]

structure NscodecFrame.Sound (size : Nat) (frame : NscodecFrame) : Prop where
  whole : frame.context.Whole
  size : frame.dest.size = size

theorem NscodecFrame.put_holds {size : Nat} {pixel : Pixel} (inside : index < size) :
    Holds (NscodecFrame.Sound size) (NscodecFrame.put index pixel) (fun _ => NscodecFrame.Sound size)
      (fun stop frame => Refused stop ∧ frame.Sound size) := by
  intro frame sound
  have ran : NscodecFrame.put index pixel frame =
      (.ok (), { frame with dest := frame.dest.put index pixel }) := by
    unfold NscodecFrame.put
    rw [get_bind, storePixel_inside pixel (sound.size ▸ inside), lift_ok_bind]
    rfl
  rw [ran]
  refine ⟨?_, nofun⟩
  intro _ next same
  cases same
  exact ⟨sound.whole, sound.size⟩

theorem nscodecDecodeRegion_holds (memory : NscodecMemory) (data : Bytes)
    (width height destX destY destWidth destHeight : Nat) :
    Holds (NscodecFrame.Sound (destWidth * destHeight))
      (nscodecDecodeRegion memory data width height destWidth destX destY destWidth destHeight)
      (fun _ => NscodecFrame.Sound (destWidth * destHeight))
      (fun stop frame => Refused stop ∧ frame.Sound (destWidth * destHeight)) := by
  unfold nscodecDecodeRegion
  refine .ite (fun _ => .stop fun _ sound => ⟨refused_returned nofun, sound⟩) fun _ => ?_
  let sound (frame : NscodecFrame) := frame.Sound (destWidth * destHeight)
  let stops (stop : Stop) (frame : NscodecFrame) := Refused stop ∧ sound frame
  have tests : Holds sound (lift (regionFits destX destY width height destWidth destHeight))
      (fun fits now => (fits = true → destX + width ≤ destWidth ∧ destY + height ≤ destHeight) ∧
        sound now) stops :=
    .lift (regionFits_yields _ _ _ _ _ _) (fun _ _ place held => ⟨place, held⟩)
      fun _ _ refused held => ⟨refused, held⟩
  refine .bind tests fun fits => .assume (fun _ held => held.1) fun place =>
    .ite (fun _ => .stop fun _ held => ⟨refused_returned nofun, held.2⟩) fun inside => ?_
  simp only [Bool.or_eq_true, not_or, Bool.not_eq_true', Bool.not_eq_false] at inside
  obtain ⟨across, down⟩ := place inside.1
  suffices Holds sound _ (fun _ => sound) stops from
    this.weaken (fun _ held => held.2) (fun _ _ held => held) fun _ _ held => held
  have parses : Holds sound (lift (nscodecParseStream data width height)) (fun _ => sound) stops :=
    .lift (nscodecParseStream_yields _ _ _) (fun _ _ _ held => held) fun _ _ refused held =>
      ⟨refused, held⟩
  have looks : Holds sound Effect.get (fun frame now => sound frame ∧ sound now) stops :=
    .get fun _ held => ⟨held, held⟩
  refine .bind parses fun stream => .bind looks fun frame => .assume (fun _ held => held.1)
    fun before => ?_
  have decodes : Holds (fun now => sound frame ∧ sound now)
      (lift (nscodecDecodePlanes memory stream width height frame.context))
      (fun context now => context.Whole ∧ sound now) stops :=
    .lift (nscodecDecodePlanes_yields before.whole) (fun _ _ whole held => ⟨whole, held.2⟩)
      fun _ _ refused held => ⟨refused, held.2⟩
  have keeps (context : NscodecContext) : Holds (fun now => context.Whole ∧ sound now)
      (modify fun frame => { frame with context }) (fun _ => sound) stops :=
    .modify fun _ held => ⟨held.1, held.2.size⟩
  refine .bind decodes fun context => .bind (keeps context) fun _ => ?_
  refine .forM fun y high => .forM fun x wide => NscodecFrame.put_holds ?_
  have row := List.mem_range.mp high
  have column := List.mem_range.mp wide
  rw [Nat.add_assoc]
  exact pixel_inside (by omega) (by omega)

end LibRdp.Graphics
