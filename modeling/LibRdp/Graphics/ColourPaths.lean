import LibRdp.Graphics.NsCodecPlanes
import LibRdp.Graphics.PlanarForms

/-! # Luma and chroma on two paths

Planar bitmaps with a loss of colour and NSCodec bitmaps are both sent as luma, two planes of
chroma and alpha. The planes of NSCodec have rows that are rounded up. Both recover the chroma in
the same way, but mix blue and red the other way round.
-/

namespace LibRdp.Graphics

open Machine Effect

/-! ## Planes by their bytes -/

def planeRows (byte : Nat → Nat → UInt8) (width height : Nat) : List Bytes :=
  (List.range height).map fun y => (List.range width).map fun x => byte x y

def planeBytes (byte : Nat → Nat → UInt8) (width height : Nat) : Bytes :=
  (planeRows byte width height).flatten

/-- A plane in rows that are longer than it is wide, with something behind its rows. -/
def padded (width : Nat) (byte padding : Nat → Nat → UInt8) (x y : Nat) : UInt8 :=
  if x < width then byte x y else padding x y

structure YcocgImage where
  cll : Nat
  subsampled : Bool
  luma : Nat → Nat → UInt8
  orangeChroma : Nat → Nat → UInt8
  greenChroma : Nat → Nat → UInt8
  alpha : Option (Nat → Nat → UInt8)
  lossy : 1 ≤ cll ∧ cll ≤ 7

theorem planeRows_length (byte : Nat → Nat → UInt8) (width height : Nat) :
    (planeRows byte width height).length = height := by
  rw [planeRows, List.length_map, List.length_range]

theorem planeRows_wide (byte : Nat → Nat → UInt8) (width height : Nat) :
    ∀ row ∈ planeRows byte width height, row.length = width := by
  intro row held
  obtain ⟨y, -, rfl⟩ := List.mem_map.mp held
  rw [List.length_map, List.length_range]

theorem planeBytes_length (byte : Nat → Nat → UInt8) (width height : Nat) :
    (planeBytes byte width height).length = height * width := by
  rw [planeBytes, Coding.flatten_rows_length (planeRows_wide byte width height),
    planeRows_length]

variable {width height : Nat}

theorem planeBytes_getElem? (byte : Nat → Nat → UInt8) {x y : Nat} (across : x < width)
    (down : y < height) : (planeBytes byte width height)[y * width + x]? = some (byte x y) := by
  induction height generalizing byte y with
  | zero => cases down
  | succ height ih =>
    rw [planeBytes, planeRows, List.range_succ_eq_map, List.map_cons, List.flatten_cons]
    cases y with
    | zero =>
      rw [List.getElem?_append_left (by simpa using across)]
      simp [across]
    | succ y =>
      have later := ih (fun x y => byte x (y + 1)) (Nat.lt_of_succ_lt_succ down)
      rw [List.getElem?_append_right (by simp [Nat.succ_mul]; omega), List.map_map]
      have behind : (y + 1) * width + x - ((List.range width).map fun x => byte x 0).length =
          y * width + x := by
        rw [List.length_map, List.length_range, Nat.succ_mul]
        omega
      rw [behind]
      exact later

theorem planeBytes_getD (byte : Nat → Nat → UInt8) {x y : Nat} (rest : Bytes) (across : x < width)
    (down : y < height) :
    (planeBytes byte width height ++ rest).getD (y * width + x) 0 = byte x y := by
  have found := planeBytes_getElem? byte across down
  have inside := (List.getElem?_eq_some_iff.mp found).1
  rw [List.getD_eq_getElem?_getD, List.getElem?_append_left inside, found, Option.getD_some]

/-! ## Pixels of planar bitmaps -/

def chromaAt (subsampled : Bool) (at' : Nat) : Nat := if subsampled then at' / 2 else at'

theorem chromaAt_lt {subsampled : Bool} {at' extent : Nat} (inside : at' < extent) :
    chromaAt subsampled at' < planarExtent subsampled extent := by
  unfold chromaAt planarExtent
  split <;> omega

namespace YcocgImage

variable (image : YcocgImage)

def yAt (x y : Nat) : Int := (image.luma x y).toNat

def coAt (x y : Nat) : Int :=
  planarDecodeChroma
    (image.orangeChroma (chromaAt image.subsampled x) (chromaAt image.subsampled y))
    (UInt8.ofNat image.cll)

def cgAt (x y : Nat) : Int :=
  planarDecodeChroma
    (image.greenChroma (chromaAt image.subsampled x) (chromaAt image.subsampled y))
    (UInt8.ofNat image.cll)

def alphaAt (x y : Nat) : UInt8 := image.alpha.elim 0xff fun alpha => alpha x y

def cut (byte : Nat → Nat → UInt8) (width height : Nat) : PlanarCut width height :=
  .ofRows (planeRows byte width height) (planeRows_length byte width height)
    (planeRows_wide byte width height)

def planar (width height : Nat) : PlanarImage width height where
  cll := image.cll
  subsampled := image.subsampled
  alpha := image.alpha.map fun alpha => cut alpha width height
  plane0 := cut image.luma width height
  plane1 := cut image.orangeChroma _ _
  plane2 := cut image.greenChroma _ _
  small := Nat.lt_succ_of_le image.lossy.2
  lossy _ := Nat.pos_iff_ne_zero.mp image.lossy.1

theorem cll_ne_zero : UInt8.ofNat image.cll ≠ 0 := by
  intro none
  have value := congrArg UInt8.toNat none
  have lossy := image.lossy
  rw [UInt8.toNat_ofNat', UInt8.toNat_zero] at value
  omega

theorem planar_format (width height : Nat) : (image.planar width height).format false =
    ⟨UInt8.ofNat image.cll, image.subsampled, false, image.alpha.isSome⟩ := by
  rw [← Option.isSome_map]
  rfl

theorem planar_planes (width height : Nat) :
    (image.planar width height).planes PlanarCut.plane =
      { alpha := image.alpha.map fun alpha => planeBytes alpha width height
        plane0 := planeBytes image.luma width height
        plane1 := planeBytes image.orangeChroma (planarExtent image.subsampled width)
          (planarExtent image.subsampled height)
        plane2 := planeBytes image.greenChroma (planarExtent image.subsampled width)
          (planarExtent image.subsampled height) } := by
  rw [PlanarImage.planes]
  congr 1
  exact Option.map_map ..

theorem planar_pixel {width height x y : Nat} {sizes : PlanarSizes}
    (counted : sizes.Of ((image.planar width height).format false) width height)
    (across : x < width) (down : y < height) :
    planarPixel ((image.planar width height).format false) sizes width
      ((image.planar width height).planes PlanarCut.plane) (y * width + x) =
      { b := planarClip (image.yAt x y - image.cgAt x y + image.coAt x y)
        g := planarClip (image.yAt x y + image.cgAt x y)
        r := planarClip (image.yAt x y - image.cgAt x y - image.coAt x y)
        a := image.alphaAt x y } := by
  have column : (y * width + x) % width = x := by
    rw [Nat.mul_comm, Nat.mul_add_mod, Nat.mod_eq_of_lt across]
  have row : (y * width + x) / width = y := by
    rw [Nat.mul_comm, Nat.mul_add_div (by omega), Nat.div_eq_of_lt across, Nat.add_zero]
  have chromaIndex : (if image.subsampled then y / 2 * sizes.chromaWidth + x / 2
      else y * width + x) = chromaAt image.subsampled y * planarExtent image.subsampled width +
        chromaAt image.subsampled x := by
    rw [counted.chromaWidth]
    change (if image.subsampled then y / 2 * planarExtent image.subsampled width + x / 2 else _) = _
    unfold chromaAt planarExtent
    split <;> rfl
  have plain (byte : Nat → Nat → UInt8) {width height x y : Nat} (across : x < width)
      (down : y < height) : (planeBytes byte width height).getD (y * width + x) 0 = byte x y := by
    have found := planeBytes_getD byte [] across down
    rwa [List.append_nil] at found
  have luma := plain image.luma across down
  have orange := plain image.orangeChroma (@chromaAt_lt image.subsampled x width across)
    (@chromaAt_lt image.subsampled y height down)
  have green := plain image.greenChroma (@chromaAt_lt image.subsampled x width across)
    (@chromaAt_lt image.subsampled y height down)
  rw [image.planar_format, image.planar_planes, planarPixel]
  simp only [if_neg image.cll_ne_zero, column, row, chromaIndex, luma, orange, green]
  cases alphas : image.alpha with
  | none =>
    rw [alphaAt, alphas]
    rfl
  | some alpha =>
    simp only [Option.map_some, plain alpha across down]
    rw [alphaAt, alphas]
    rfl

end YcocgImage

theorem planarSizes_ok {format : PlanarFormat} (wide : 0 < width) (high : 0 < height)
    (narrow : width ≤ 8192) (low : height ≤ 8192) :
    ∃ sizes, planarSizes format width height = .ok sizes := by
  have product {a b : Nat} (aSmall : a ≤ 8192) (bSmall : b ≤ 8192) : a * b ≤ 8192 * 8192 :=
    Nat.mul_le_mul aSmall bSmall
  have extent (extent : Nat) (some : 0 < extent) (small : extent ≤ 8192) :
      0 < planarExtent format.subsampled extent ∧ planarExtent format.subsampled extent ≤ 8192 := by
    unfold planarExtent
    split <;> omega
  obtain ⟨chromaWide, chromaNarrow⟩ := extent width wide narrow
  obtain ⟨chromaHigh, chromaLow⟩ := extent height high low
  have pixels := product narrow low
  have chroma := product chromaNarrow chromaLow
  have payload : ∃ payloadSize, planarPayloadSize format (width * height)
      (planarExtent format.subsampled width * planarExtent format.subsampled height) =
        .ok payloadSize ∧ payloadSize ≤ sizeMax - 1 := by
    unfold planarPayloadSize sizeMax
    cases format.hasAlpha with
    | true | false =>
      simp only [if_true, Bool.false_eq_true, if_false]
      split
      · rw [if_neg (by omega)]
        refine ⟨_, rfl, ?_⟩
        omega
      rw [if_neg (by omega)]
      first
      | exact ⟨_, rfl, by omega⟩
      | rw [if_neg (by omega)]
        exact ⟨_, rfl, by omega⟩
  obtain ⟨payloadSize, counted, small⟩ := payload
  have chromaInside : planarExtent format.subsampled width ≤
      sizeMax / planarExtent format.subsampled height := by
    rw [Nat.le_div_iff_mul_le chromaHigh]
    unfold sizeMax
    omega
  have inside : ¬ (planarExtent format.subsampled width = 0 ∨
      planarExtent format.subsampled height = 0 ∨
      planarExtent format.subsampled width > sizeMax / planarExtent format.subsampled height) := by
    omega
  unfold planarExtent at inside counted
  rw [planarSizes, if_neg inside]
  simp only [counted, ok_bind, if_neg (Nat.not_lt.mpr small)]
  exact ⟨_, rfl⟩

theorem YcocgImage.countable (image : YcocgImage) (wide : 0 < width) (high : 0 < height)
    (narrow : width ≤ 8192) (low : height ≤ 8192) : (image.planar width height).Countable := by
  refine ⟨?_, planarSizes_ok wide high narrow low, ?_⟩
  · exact Nat.le_trans narrow (Nat.le_div_iff_mul_le high |>.mpr (by unfold sizeMax; omega))
  · exact Nat.le_trans low (Nat.le_div_iff_mul_le (by omega) |>.mpr (by unfold sizeMax; omega))

/-! ## NSCodec bitmaps -/

structure NscodecPadding where
  luma : Nat → Nat → UInt8
  orangeChroma : Nat → Nat → UInt8
  greenChroma : Nat → Nat → UInt8

def nscodecLumaWidth (subsampled : Bool) (width : Nat) : Nat :=
  if subsampled then (width + 7) / 8 * 8 else width

def nscodecChromaWidth (subsampled : Bool) (width : Nat) : Nat :=
  if subsampled then (width + 7) / 8 * 8 / 2 else width

namespace YcocgImage

def stream (image : YcocgImage) (padding : NscodecPadding) (width height : Nat) : NscodecStream :=
  let lumaWidth := nscodecLumaWidth image.subsampled width
  let chromaWidth := nscodecChromaWidth image.subsampled width
  let chromaHeight := planarExtent image.subsampled height
  let chromaOf (byte padding : Nat → Nat → UInt8) :=
    planeBytes (padded (planarExtent image.subsampled width) byte padding) chromaWidth chromaHeight
  { luma := planeBytes (padded width image.luma padding.luma) lumaWidth height
    orangeChroma := chromaOf image.orangeChroma padding.orangeChroma
    greenChroma := chromaOf image.greenChroma padding.greenChroma
    alpha := image.alpha.elim [] fun alpha => planeBytes alpha width height
    colorLossLevel := UInt8.ofNat image.cll
    chromaSubsamplingLevel := if image.subsampled then 1 else 0
    lumaWidth := lumaWidth
    lumaHeight := height
    chromaWidth := chromaWidth
    chromaHeight := chromaHeight }

end YcocgImage

def nscodecForm (stream : NscodecStream) : Bytes :=
  u32LeBytes stream.luma.length ++ (u32LeBytes stream.orangeChroma.length ++
    (u32LeBytes stream.greenChroma.length ++ (u32LeBytes stream.alpha.length ++
      (stream.colorLossLevel :: stream.chromaSubsamplingLevel :: 0 :: 0 ::
        (stream.luma ++ (stream.orangeChroma ++ (stream.greenChroma ++ stream.alpha)))))))

structure NscodecStream.Plain (stream : NscodecStream) (width height : Nat) : Prop where
  valid : nscodecDimensionsValid width height = true
  level : 1 ≤ stream.colorLossLevel ∧ stream.colorLossLevel ≤ 7
  subsampling : stream.chromaSubsamplingLevel ≤ 1
  extents : nscodecPlaneExtents (stream.chromaSubsamplingLevel ≠ 0) width height =
    .ok ((stream.lumaWidth, stream.lumaHeight), (stream.chromaWidth, stream.chromaHeight))
  luma : stream.luma.length = stream.lumaWidth * stream.lumaHeight
  orangeChroma : stream.orangeChroma.length = stream.chromaWidth * stream.chromaHeight
  greenChroma : stream.greenChroma.length = stream.chromaWidth * stream.chromaHeight
  alpha : stream.alpha = [] ∨ stream.alpha.length = width * height
  lumaSize : 0 < stream.lumaWidth * stream.lumaHeight ∧
    stream.lumaWidth * stream.lumaHeight ≤ 2 ^ 27
  chromaSize : 0 < stream.chromaWidth * stream.chromaHeight ∧
    stream.chromaWidth * stream.chromaHeight ≤ 2 ^ 27

namespace NscodecStream.Plain

variable {stream : NscodecStream} {width height : Nat}

theorem readU32Le_length {n : Nat} (small : n < 2 ^ 32) (rest : Bytes) :
    readU32Le (u32LeBytes n ++ rest) = .ok (UInt32.ofNat n, rest) := by
  have same : (UInt32.ofNat n).toNat = n := UInt32.toNat_ofNat_of_lt' small
  rw [← readU32Le_append, same]

theorem planeSize {width height : Nat} (some : 0 < width * height)
    (small : width * height ≤ 2 ^ 27) :
    nscodecPlaneSize width height = .ok (width * height) := by
  have wide := Nat.pos_of_mul_pos_right some
  have high := Nat.pos_of_mul_pos_left some
  have inside : width ≤ sizeMax / height := by
    rw [Nat.le_div_iff_mul_le high]
    unfold sizeMax
    omega
  rw [nscodecPlaneSize, if_neg (by omega)]
  rfl

theorem area (plain : stream.Plain width height) :
    0 < width ∧ 0 < height ∧ width ≤ 8192 ∧ height ≤ 8192 ∧ 0 < width * height ∧
      width * height ≤ 2 ^ 27 := by
  have valid := plain.valid
  simp only [nscodecDimensionsValid, nscodecMaxDimension, Bool.and_eq_true,
    decide_eq_true_eq] at valid
  obtain ⟨⟨⟨wide, high⟩, narrow⟩, low⟩ := valid
  have narrow := of_decide_eq_true narrow
  have low := of_decide_eq_true low
  have most : width * height ≤ 8192 * 8192 := Nat.mul_le_mul narrow low
  exact ⟨wide, high, narrow, low, Nat.mul_pos wide high, by omega⟩

theorem parses (plain : stream.Plain width height) :
    nscodecParseStream (nscodecForm stream) width height = .ok stream := by
  obtain ⟨wide, high, -, -, some, area⟩ := plain.area
  have alphaSmall : stream.alpha.length ≤ width * height := by
    obtain none | whole := plain.alpha
    · rw [none]
      exact Nat.zero_le _
    · exact Nat.le_of_eq whole
  have lumaSize := plain.lumaSize
  have chromaSize := plain.chromaSize
  have length : (nscodecForm stream).length = nscodecStreamHeaderLength + (stream.luma.length +
      (stream.orangeChroma.length + (stream.greenChroma.length + stream.alpha.length))) := by
    simp only [nscodecForm, List.length_append, u32LeBytes_length, List.length_cons]
    unfold nscodecStreamHeaderLength
    omega
  have header : ¬ (!nscodecDimensionsValid width height ||
      (nscodecForm stream).length < nscodecStreamHeaderLength) = true := by
    rw [plain.valid, length]
    simp
  have planesLen : clearSub (nscodecForm stream).length nscodecStreamHeaderLength =
      .ok (stream.luma.length + (stream.orangeChroma.length +
        (stream.greenChroma.length + stream.alpha.length))) := by
    rw [clearSub, length, if_pos (Nat.le_add_right _ _), Nat.add_sub_cancel_left]
  have back {n : Nat} (small : n ≤ 2 ^ 27) : (UInt32.ofNat n).toNat = n :=
    UInt32.toNat_ofNat_of_lt' (Nat.lt_of_le_of_lt small (by decide))
  have zero {n : Nat} (some : 0 < n) (small : n ≤ 2 ^ 27) : UInt32.ofNat n ≠ 0 := by
    intro none
    have value := congrArg UInt32.toNat none
    rw [back small, UInt32.toNat_zero] at value
    omega
  have lumaSmall : stream.luma.length ≤ 2 ^ 27 := plain.luma ▸ lumaSize.2
  have orangeSmall : stream.orangeChroma.length ≤ 2 ^ 27 := plain.orangeChroma ▸ chromaSize.2
  have greenSmall : stream.greenChroma.length ≤ 2 ^ 27 := plain.greenChroma ▸ chromaSize.2
  have alphaSmall' : stream.alpha.length ≤ 2 ^ 27 := Nat.le_trans alphaSmall area
  have fields : ¬ (UInt32.ofNat stream.luma.length = 0 ∨
      UInt32.ofNat stream.orangeChroma.length = 0 ∨ UInt32.ofNat stream.greenChroma.length = 0 ∨
      stream.colorLossLevel < 1 ∨ stream.colorLossLevel > 7 ∨
      stream.chromaSubsamplingLevel > 1 ∨ (0 : UInt16) ≠ 0) := by
    have luma := zero (plain.luma ▸ lumaSize.1) lumaSmall
    have orange := zero (plain.orangeChroma ▸ chromaSize.1) orangeSmall
    have green := zero (plain.greenChroma ▸ chromaSize.1) greenSmall
    rintro (bad | bad | bad | bad | bad | bad | bad)
    · exact luma bad
    · exact orange bad
    · exact green bad
    · exact UInt8.not_lt.mpr plain.level.1 bad
    · exact UInt8.not_lt.mpr plain.level.2 bad
    · exact UInt8.not_lt.mpr plain.subsampling bad
    · exact bad rfl
  have reserved (rest : Bytes) : readU16Le (0 :: 0 :: rest) = .ok (0, rest) := rfl
  have fits : ¬ (stream.luma.length > stream.lumaWidth * stream.lumaHeight ∨
      stream.orangeChroma.length > stream.chromaWidth * stream.chromaHeight ∨
      stream.greenChroma.length > stream.chromaWidth * stream.chromaHeight ∨
      stream.alpha.length > width * height) := by
    rw [plain.luma, plain.orangeChroma, plain.greenChroma]
    omega
  rw [nscodecParseStream, if_neg header, planesLen]
  simp only [nscodecForm, readU32Le_length (Nat.lt_of_le_of_lt lumaSmall (by decide)),
    readU32Le_length (Nat.lt_of_le_of_lt orangeSmall (by decide)),
    readU32Le_length (Nat.lt_of_le_of_lt greenSmall (by decide)),
    readU32Le_length (Nat.lt_of_le_of_lt alphaSmall' (by decide)), readU8, reserved,
    ok_bind, if_neg fields, plain.extents, planeSize lumaSize.1 lumaSize.2,
    planeSize chromaSize.1 chromaSize.2, planeSize some area, back lumaSmall, back orangeSmall,
    back greenSmall, back alphaSmall', if_neg fits]
  have sum : stream.luma.length + stream.orangeChroma.length + stream.greenChroma.length +
      stream.alpha.length = (stream.luma ++ (stream.orangeChroma ++
        (stream.greenChroma ++ stream.alpha))).length := by
    simp only [List.length_append]
    omega
  have total : ¬ (stream.luma ++ (stream.orangeChroma ++
      (stream.greenChroma ++ stream.alpha))).length > sizeMax := by
    simp only [List.length_append]
    unfold sizeMax
    omega
  have all := readBytes_append (stream.luma ++ (stream.orangeChroma ++
    (stream.greenChroma ++ stream.alpha))) []
  rw [List.append_nil] at all
  rw [sum, if_neg total, if_neg (by simp only [List.length_append]; omega), all]
  simp only [ok_bind, readBytes_append]
  rfl

def keptAlpha (stream : NscodecStream) (width height : Nat) : Bytes :=
  if stream.alpha.length = 0 then List.replicate (width * height) 0xff else stream.alpha

theorem decodePlane {encoded : Bytes} {expectedLen : Nat} (some : 0 < expectedLen)
    (same : encoded.length = expectedLen) : nscodecDecodePlane encoded expectedLen = .ok encoded := by
  rw [nscodecDecodePlane, if_neg (by omega), if_pos same]
  rfl

theorem decodes (plain : stream.Plain width height) {context : NscodecContext}
    (whole : context.Whole) :
    ∃ next luma orange green alpha,
      nscodecDecodePlanes {} stream width height context = .ok next ∧
      next.luma = some (stream.luma ++ luma) ∧
      next.orangeChroma = some (stream.orangeChroma ++ orange) ∧
      next.greenChroma = some (stream.greenChroma ++ green) ∧
      next.alpha = some (keptAlpha stream width height ++ alpha) := by
  obtain ⟨wide, high, -, -, area, small⟩ := plain.area
  have alpha : nscodecDecodeAlpha stream.alpha (width * height) =
      .ok (keptAlpha stream width height) := by
    rw [nscodecDecodeAlpha, keptAlpha]
    split
    · rfl
    rename_i filled
    obtain none | same := plain.alpha
    · rw [none] at filled
      exact absurd rfl filled
    · exact decodePlane area same
  have most : 0 < max (max (stream.lumaWidth * stream.lumaHeight)
      (stream.chromaWidth * stream.chromaHeight)) (width * height) := by omega
  have ensures := @nscodecEnsurePlanes_yields true _ context whole most
  cases ensured : nscodecEnsurePlanes true (max (max (stream.lumaWidth * stream.lumaHeight)
      (stream.chromaWidth * stream.chromaHeight)) (width * height)) context with
  | error stop =>
    unfold nscodecEnsurePlanes at ensured
    split at ensured
    · cases ensured
    · cases ensured
  | ok grown =>
    obtain ⟨whole', enough⟩ := ensures.ok grown ensured
    have filled : grown.planeCapacity ≠ 0 := by omega
    obtain ⟨luma, keptLuma, -⟩ := whole'.luma filled
    obtain ⟨orange, keptOrange, -⟩ := whole'.orangeChroma filled
    obtain ⟨green, keptGreen, -⟩ := whole'.greenChroma filled
    obtain ⟨alphas, keptAlphas, -⟩ := whole'.alpha filled
    refine ⟨{ grown with
        luma := nscodecWritePlane stream.luma grown.luma
        orangeChroma := nscodecWritePlane stream.orangeChroma grown.orangeChroma
        greenChroma := nscodecWritePlane stream.greenChroma grown.greenChroma
        alpha := nscodecWritePlane (keptAlpha stream width height) grown.alpha },
      luma.drop stream.luma.length, orange.drop stream.orangeChroma.length,
      green.drop stream.greenChroma.length,
      alphas.drop (keptAlpha stream width height).length, ?_, ?_⟩
    · rw [nscodecDecodePlanes, planeSize plain.lumaSize.1 plain.lumaSize.2,
        planeSize plain.chromaSize.1 plain.chromaSize.2, planeSize area small]
      simp only [ok_bind, Bool.not_true, Bool.false_eq_true, if_false,
        decodePlane plain.lumaSize.1 plain.luma, decodePlane plain.chromaSize.1 plain.orangeChroma,
        decodePlane plain.chromaSize.1 plain.greenChroma, alpha, ensured]
      rfl
    · rw [keptLuma, keptOrange, keptGreen, keptAlphas]
      exact ⟨rfl, rfl, rfl, rfl⟩

end NscodecStream.Plain

/-! ## Pixels that are drawn -/

structure Painted (want : Nat → Pixel) (drawn : Nat → Prop) (frame next : NscodecFrame) : Prop where
  context : next.context = frame.context
  size : next.dest.size = frame.dest.size
  new : ∀ i, drawn i → next.dest.cell i = want i
  old : ∀ i, ¬ drawn i → next.dest.cell i = frame.dest.cell i

variable {want : Nat → Pixel} {frame : NscodecFrame}

theorem Painted.trans {drawn drawn' : Nat → Prop} {next last : NscodecFrame}
    (first : Painted want drawn frame next) (later : Painted want drawn' next last) :
    Painted want (fun i => drawn i ∨ drawn' i) frame last where
  context := later.context.trans first.context
  size := later.size.trans first.size
  new i here := by
    by_cases again : drawn' i
    · exact later.new i again
    · rw [later.old i again]
      exact first.new i (here.resolve_right again)
  old i here := by
    rw [later.old i fun again => here (.inr again), first.old i fun again => here (.inl again)]

def Paints (size : Nat) (want : Nat → Pixel) (drawn : Nat → Prop)
    (effect : Effect Stop NscodecFrame Unit) : Prop :=
  ∀ frame : NscodecFrame, frame.dest.size = size →
    ∃ next, effect frame = (.ok (), next) ∧ Painted want drawn frame next

theorem paints_put {size i : Nat} (inside : i < size) :
    Paints size want (· = i) (NscodecFrame.put i (want i)) := by
  intro frame sized
  refine ⟨{ frame with dest := frame.dest.put i (want i) }, ?_, rfl, rfl, ?_, ?_⟩
  · unfold NscodecFrame.put
    rw [get_bind, storePixel_inside (want i) (sized ▸ inside), lift_ok_bind]
    rfl
  · rintro j rfl
    rw [Memory.put_cell _ _ (sized ▸ inside), Function.update_self]
  · intro j apart
    rw [Memory.put_cell _ _ (sized ▸ inside), Function.update_of_ne apart]

theorem paints_forM {β : Type} {size : Nat} {want : Nat → Pixel} {drawn : β → Nat → Prop}
    {each : β → Effect Stop NscodecFrame PUnit} {l : List β}
    (step : ∀ b ∈ l, Paints size want (drawn b) (each b)) :
    Paints size want (fun i => ∃ b ∈ l, drawn b i) (l.forM each) := by
  induction l with
  | nil =>
    intro frame _
    exact ⟨frame, rfl, rfl, rfl, fun i ⟨_, held, _⟩ => absurd held List.not_mem_nil,
      fun _ _ => rfl⟩
  | cons b l ih =>
    rw [List.forall_mem_cons] at step
    intro frame sized
    obtain ⟨next, first, painted⟩ := step.1 frame sized
    obtain ⟨last, later, painted'⟩ := ih step.2 next (painted.size.trans sized)
    have both := painted.trans painted'
    refine ⟨last, ?_, both.context, both.size, fun i here => both.new i ?_,
      fun i here => both.old i ?_⟩
    · change (each b >>= fun _ => l.forM each) frame = _
      rw [bind_ok first, later]
    · obtain ⟨b', held, drawn⟩ := here
      obtain rfl | held := List.mem_cons.mp held
      · exact .inl drawn
      · exact .inr ⟨b', held, drawn⟩
    · rintro (drawn | ⟨b', held, drawn⟩)
      · exact here ⟨b, List.mem_cons_self, drawn⟩
      · exact here ⟨b', List.mem_cons_of_mem b held, drawn⟩

theorem paints_rows {width height : Nat} {want : Nat → Pixel}
    {each : Nat → Nat → Effect Stop NscodecFrame PUnit}
    (puts : ∀ y < height, ∀ x < width,
      each y x = NscodecFrame.put (y * width + x) (want (y * width + x))) :
    Paints (width * height) want (· < width * height)
      ((List.range height).forM fun y => (List.range width).forM fun x => each y x) := by
  have rows := @paints_forM Nat (width * height) want
    (fun y i => ∃ x ∈ List.range width, i = y * width + x)
    (fun y => (List.range width).forM fun x => each y x) (List.range height) (by
      intro y high
      have high := List.mem_range.mp high
      apply paints_forM
      intro x wide
      have wide := List.mem_range.mp wide
      rw [puts y high x wide]
      exact paints_put (pixel_inside high wide))
  intro frame sized
  obtain ⟨next, ran, painted⟩ := rows frame sized
  refine ⟨next, ran, painted.context, painted.size, fun i inside => painted.new i ?_,
    fun i outside => painted.old i ?_⟩
  · have wide : 0 < width := Nat.pos_of_mul_pos_right (Nat.zero_lt_of_lt inside)
    refine ⟨i / width, ?_, i % width, ?_, ?_⟩
    · exact List.mem_range.mpr (Nat.div_lt_of_lt_mul inside)
    · exact List.mem_range.mpr (Nat.mod_lt i wide)
    · rw [Nat.mul_comm]
      exact (Nat.div_add_mod i width).symm
  · rintro ⟨y, high, x, wide, rfl⟩
    exact outside (pixel_inside (List.mem_range.mp high) (List.mem_range.mp wide))

theorem NscodecStream.Plain.draws {stream : NscodecStream} (plain : stream.Plain width height)
    (sound : frame.Sound (width * height)) :
    ∃ next context luma orange green alpha,
      nscodecDecodeRegion {} (nscodecForm stream) width height width 0 0 width height frame =
        (.ok (), next) ∧
      context.luma = some (stream.luma ++ luma) ∧
      context.orangeChroma = some (stream.orangeChroma ++ orange) ∧
      context.greenChroma = some (stream.greenChroma ++ green) ∧
      context.alpha = some (keptAlpha stream width height ++ alpha) ∧
      ∀ y < height, ∀ x < width,
        next.dest.cell (y * width + x) = nscodecPixel context stream width x y := by
  obtain ⟨context, luma, orange, green, alpha, decoded, planes⟩ := plain.decodes sound.whole
  have fits : regionFits 0 0 width height width height = .ok true := by
    simp [regionFits, clearSub]
  let want (i : Nat) := nscodecPixel context stream width (i % width) (i / width)
  have at' {x y : Nat} (across : x < width) :
      want (y * width + x) = nscodecPixel context stream width x y := by
    change nscodecPixel context stream width ((y * width + x) % width) ((y * width + x) / width) = _
    rw [Nat.mul_comm, Nat.mul_add_mod, Nat.mod_eq_of_lt across, Nat.mul_add_div (by omega),
      Nat.div_eq_of_lt across, Nat.add_zero]
  obtain ⟨next, ran, painted⟩ := @paints_rows width height want
    (fun y x => NscodecFrame.put ((0 + y) * width + 0 + x) (nscodecPixel context stream width x y))
    (by
      intro y _ x across
      rw [at' across, Nat.zero_add, Nat.add_zero]) { frame with context } sound.size
  refine ⟨next, context, luma, orange, green, alpha, ?_, planes.1, planes.2.1, planes.2.2.1,
    planes.2.2.2, ?_⟩
  · have valid : ¬ (!nscodecDimensionsValid width height ||
        !nscodecDimensionsValid width height) = true := by
      rw [plain.valid]
      decide
    have stride : ¬ (!true || decide (width < width)) = true := by simp
    rw [nscodecDecodeRegion, if_neg valid, fits, lift_ok_bind, if_neg stride, plain.parses,
      lift_ok_bind, get_bind, decoded, lift_ok_bind, modify_bind]
    exact ran
  · intro y high x across
    rw [painted.new _ (pixel_inside high across), at' across]

theorem nscodecRoundUp_eight (narrow : width ≤ 8192) :
    nscodecRoundUp width 8 = some ((width + 7) / 8 * 8) := by
  unfold nscodecRoundUp sizeMax
  rw [if_neg (by omega)]
  split
  · exact congrArg some (by omega)
  · rw [if_neg (by omega)]
    exact congrArg some (by omega)

theorem nscodecRoundUp_two (low : height ≤ 8192) :
    nscodecRoundUp height 2 = some ((height + 1) / 2 * 2) := by
  unfold nscodecRoundUp sizeMax
  rw [if_neg (by omega)]
  split
  · exact congrArg some (by omega)
  · rw [if_neg (by omega)]
    exact congrArg some (by omega)

theorem nscodecPlaneExtents_eq (subsampled : Bool) (narrow : width ≤ 8192) (low : height ≤ 8192) :
    nscodecPlaneExtents subsampled width height =
      .ok ((nscodecLumaWidth subsampled width, height),
        (nscodecChromaWidth subsampled width, planarExtent subsampled height)) := by
  unfold nscodecPlaneExtents nscodecLumaWidth nscodecChromaWidth planarExtent
  rw [nscodecRoundUp_eight narrow, nscodecRoundUp_two low]
  dsimp only
  rw [if_neg (by omega)]
  cases subsampled with
  | false => rfl
  | true =>
    have half : (height + 1) / 2 * 2 / 2 = (height + 1) / 2 := Nat.mul_div_cancel _ (by omega)
    simp only [if_true, half]
    rfl

namespace YcocgImage

variable (image : YcocgImage) {width height : Nat}

theorem stream_plain (padding : NscodecPadding) (valid : nscodecDimensionsValid width height = true) :
    (image.stream padding width height).Plain width height := by
  have dimensions := valid
  simp only [nscodecDimensionsValid, nscodecMaxDimension, Bool.and_eq_true,
    decide_eq_true_eq] at dimensions
  obtain ⟨⟨⟨wide, high⟩, narrow⟩, low⟩ := dimensions
  have cll : (UInt8.ofNat image.cll).toNat = image.cll := by
    have lossy := image.lossy
    rw [UInt8.toNat_ofNat']
    omega
  have level : (image.stream padding width height).chromaSubsamplingLevel =
      if image.subsampled then 1 else 0 := rfl
  have subsampled : decide ((image.stream padding width height).chromaSubsamplingLevel ≠ 0) =
      image.subsampled := by
    rw [level]
    cases image.subsampled with
    | true | false => rfl
  have product {a b : Nat} (some : 0 < a) (some' : 0 < b) (aSmall : a ≤ 8200) (bSmall : b ≤ 8200) :
      0 < a * b ∧ a * b ≤ 2 ^ 27 := by
    have most : a * b ≤ 8200 * 8200 := Nat.mul_le_mul aSmall bSmall
    exact ⟨Nat.mul_pos some some', by omega⟩
  have widths : 0 < nscodecLumaWidth image.subsampled width ∧
      nscodecLumaWidth image.subsampled width ≤ 8200 ∧
      0 < nscodecChromaWidth image.subsampled width ∧
      nscodecChromaWidth image.subsampled width ≤ 8200 := by
    have narrow := of_decide_eq_true narrow
    unfold nscodecLumaWidth nscodecChromaWidth
    split <;> omega
  have heights : 0 < planarExtent image.subsampled height ∧
      planarExtent image.subsampled height ≤ 8200 := by
    have low := of_decide_eq_true low
    unfold planarExtent
    split <;> omega
  exact {
    valid := valid
    level := by
      change 1 ≤ UInt8.ofNat image.cll ∧ UInt8.ofNat image.cll ≤ 7
      rw [UInt8.le_iff_toNat_le, UInt8.le_iff_toNat_le, cll]
      exact image.lossy
    subsampling := by
      rw [level]
      cases image.subsampled with
      | true | false => decide
    extents := by
      rw [subsampled]
      exact nscodecPlaneExtents_eq _ (of_decide_eq_true narrow) (of_decide_eq_true low)
    luma := (planeBytes_length ..).trans (Nat.mul_comm ..)
    orangeChroma := (planeBytes_length ..).trans (Nat.mul_comm ..)
    greenChroma := (planeBytes_length ..).trans (Nat.mul_comm ..)
    alpha := by
      change image.alpha.elim [] _ = [] ∨ (image.alpha.elim [] _).length = _
      cases image.alpha with
      | none => exact .inl rfl
      | some alpha => exact .inr ((planeBytes_length ..).trans (Nat.mul_comm ..))
    lumaSize := product widths.1 high widths.2.1 (Nat.le_trans (of_decide_eq_true low) (by decide))
    chromaSize := product widths.2.2.1 heights.1 widths.2.2.2 heights.2 }

theorem keptAlpha_eq (padding : NscodecPadding) {i : Nat} (filled : i < width * height) :
    NscodecStream.Plain.keptAlpha (image.stream padding width height) width height =
      planeBytes image.alphaAt width height := by
  have alphas : (image.stream padding width height).alpha =
      image.alpha.elim [] fun alpha => planeBytes alpha width height := rfl
  rw [NscodecStream.Plain.keptAlpha, alphas]
  cases kept : image.alpha with
  | none =>
    have solid : image.alphaAt = fun _ _ => 0xff := by
      funext x y
      rw [alphaAt, kept]
      rfl
    rw [Option.elim_none, if_pos List.length_nil, solid, Nat.mul_comm]
    symm
    rw [List.eq_replicate_iff]
    refine ⟨planeBytes_length .., fun byte held => ?_⟩
    obtain ⟨row, held, inside⟩ := List.mem_flatten.mp held
    obtain ⟨y, -, rfl⟩ := List.mem_map.mp held
    obtain ⟨x, -, rfl⟩ := List.mem_map.mp inside
    rfl
  | some alpha =>
    have same : image.alphaAt = alpha := by
      funext x y
      rw [alphaAt, kept]
      rfl
    rw [Option.elim_some, if_neg (by rw [planeBytes_length, Nat.mul_comm]; omega), same]

theorem nscodec_pixel (padding : NscodecPadding) {context : NscodecContext}
    {luma orange green alpha : Bytes} {x y : Nat} (across : x < width) (down : y < height)
    (keptLuma : context.luma = some ((image.stream padding width height).luma ++ luma))
    (keptOrange :
      context.orangeChroma = some ((image.stream padding width height).orangeChroma ++ orange))
    (keptGreen :
      context.greenChroma = some ((image.stream padding width height).greenChroma ++ green))
    (keptAlpha : context.alpha =
      some (NscodecStream.Plain.keptAlpha (image.stream padding width height) width height ++ alpha)) :
    nscodecPixel context (image.stream padding width height) width x y =
      { b := planarClip (image.yAt x y - image.coAt x y - image.cgAt x y)
        g := planarClip (image.yAt x y + image.cgAt x y)
        r := planarClip (image.yAt x y + image.coAt x y - image.cgAt x y)
        a := image.alphaAt x y } := by
  have lumaWide : x < nscodecLumaWidth image.subsampled width := by
    unfold nscodecLumaWidth
    split <;> omega
  have chromaAcross := @chromaAt_lt image.subsampled x width across
  have chromaDown := @chromaAt_lt image.subsampled y height down
  have chromaWide : chromaAt image.subsampled x < nscodecChromaWidth image.subsampled width := by
    unfold nscodecChromaWidth
    unfold planarExtent at chromaAcross
    split
    · rename_i subsampled
      rw [if_pos subsampled] at chromaAcross
      omega
    · rename_i whole
      rwa [if_neg whole] at chromaAcross
  have inside {byte padding : Nat → Nat → UInt8} {width x y : Nat} (across : x < width) :
      padded width byte padding x y = byte x y := if_pos across
  let stream := image.stream padding width height
  have yValue : (stream.luma ++ luma).getD (y * stream.lumaWidth + x) 0 = image.luma x y :=
    (planeBytes_getD _ luma lumaWide down).trans (inside across)
  have co : (stream.orangeChroma ++ orange).getD (chromaAt image.subsampled y * stream.chromaWidth +
      chromaAt image.subsampled x) 0 =
      image.orangeChroma (chromaAt image.subsampled x) (chromaAt image.subsampled y) :=
    (planeBytes_getD _ orange chromaWide chromaDown).trans (inside chromaAcross)
  have cg : (stream.greenChroma ++ green).getD (chromaAt image.subsampled y * stream.chromaWidth +
      chromaAt image.subsampled x) 0 =
      image.greenChroma (chromaAt image.subsampled x) (chromaAt image.subsampled y) :=
    (planeBytes_getD _ green chromaWide chromaDown).trans (inside chromaAcross)
  have alphaValue := planeBytes_getD image.alphaAt alpha across down
  rw [← image.keptAlpha_eq padding (pixel_inside down across)] at alphaValue
  have level (at' : Nat) : (if (image.stream padding width height).chromaSubsamplingLevel ≠ 0
      then at' / 2 else at') = chromaAt image.subsampled at' := by
    change (if (if image.subsampled then (1 : UInt8) else 0) ≠ 0 then _ else _) = _
    unfold chromaAt
    cases image.subsampled with
    | true | false => rfl
  rw [nscodecPixel, keptLuma, keptOrange, keptGreen, keptAlpha]
  simp only [level, Option.getD_some, alphaValue, yValue, co, cg, stream]
  rfl

/-! ## The two paths -/

/-- Blue and red are the same on both paths: without orange chroma, or where all of both is cut
    off. -/
def BlueIsRed (x y : Nat) : Prop :=
  image.coAt x y = 0 ∨ image.yAt x y - image.cgAt x y + (image.coAt x y).natAbs ≤ 0 ∨
    255 ≤ image.yAt x y - image.cgAt x y - (image.coAt x y).natAbs

/-- Both decoders give a bitmap the same pixels, the planar one as bytes and that of NSCodec in a
    destination of its size. -/
def SamePixels (width height : Nat) (pad : Option UInt8) (padding : NscodecPadding)
    (frame : NscodecFrame) : Prop :=
  ∃ pixels next,
    planarDecodeArgb ((image.planar width height).rawForm pad) width height =
      .ok (pixels, width * 4) ∧
    nscodecDecodeRegion {} (nscodecForm (image.stream padding width height)) width height width
      0 0 width height frame = (.ok (), next) ∧
    (next.dest.window 0 (width * height)).flatMap Pixel.bytes = pixels

end YcocgImage

theorem planarClip_eq_iff (u v : Int) :
    planarClip u = planarClip v ↔ u = v ∨ u ≤ 0 ∧ v ≤ 0 ∨ 255 ≤ u ∧ 255 ≤ v := by
  rw [← UInt8.toNat_inj, ← Int.ofNat_inj, planarClip_eq, planarClip_eq]
  omega

theorem flatMap_bytes_inj {pixels pixels' : List Pixel} :
    pixels.flatMap Pixel.bytes = pixels'.flatMap Pixel.bytes ↔ pixels = pixels' := by
  constructor
  · intro same
    induction pixels generalizing pixels' with
    | nil =>
      cases pixels' with
      | nil => rfl
      | cons => cases same
    | cons pixel pixels ih =>
      cases pixels' with
      | nil => cases same
      | cons pixel' pixels' =>
        rw [List.flatMap_cons, List.flatMap_cons] at same
        obtain ⟨first, later⟩ := List.append_inj same rfl
        cases pixel
        cases pixel'
        cases first
        rw [ih later]
  · rintro rfl
    rfl

/-- The two paths agree on a bitmap if and only if NSCodec takes its size, and blue is red at every
    pixel: they mix these two the other way round. -/
theorem colour_paths_agree_iff (image : YcocgImage) (width height : Nat) (pad : Option UInt8)
    (padding : NscodecPadding) (frame : NscodecFrame) (sound : frame.Sound (width * height)) :
    image.SamePixels width height pad padding frame ↔
      nscodecDimensionsValid width height = true ∧
      ∀ y < height, ∀ x < width, image.BlueIsRed x y := by
  have values (valid : nscodecDimensionsValid width height = true) : ∃ pixels next,
      planarDecodeArgb ((image.planar width height).rawForm pad) width height =
        .ok (pixels, width * 4) ∧
      nscodecDecodeRegion {} (nscodecForm (image.stream padding width height)) width height width
        0 0 width height frame = (.ok (), next) ∧
      ((next.dest.window 0 (width * height)).flatMap Pixel.bytes = pixels ↔
        ∀ y < height, ∀ x < width, image.BlueIsRed x y) := by
    have plain := image.stream_plain padding valid
    obtain ⟨wide, high, narrow, low, -, -⟩ := plain.area
    obtain ⟨next, context, luma, orange, green, alpha, drawn, keptLuma, keptOrange, keptGreen,
      keptAlpha, cells⟩ := plain.draws sound
    obtain ⟨uncounted, -⟩ | ⟨sizes, sized, planar, -⟩ :=
      (image.planar width height).decodes_forms wide high pad
    · exact absurd (image.countable wide high narrow low) uncounted
    · have counted := (planarSizes_yields ((image.planar width height).format_lossy false)).ok
        sizes sized
      refine ⟨_, next, planar, drawn, ?_⟩
      have pixels : planarPixels ((image.planar width height).format false) sizes width
          ((image.planar width height).planes PlanarCut.plane) =
          ((List.range (width * height)).map fun i =>
            planarPixel ((image.planar width height).format false) sizes width
              ((image.planar width height).planes PlanarCut.plane) i).flatMap Pixel.bytes := by
        rw [planarPixels, counted.pixelCount]
        exact (List.flatMap_map ..).symm
      have pixel {x y : Nat} (across : x < width) (down : y < height) :
          next.dest.cell (y * width + x) =
            planarPixel ((image.planar width height).format false) sizes width
              ((image.planar width height).planes PlanarCut.plane) (y * width + x) ↔
          image.BlueIsRed x y := by
        rw [cells y down x across,
          image.nscodec_pixel padding across down keptLuma keptOrange keptGreen keptAlpha,
          image.planar_pixel counted across down, YcocgImage.BlueIsRed]
        simp only [Pixel.mk.injEq, planarClip_eq_iff, true_and, and_true]
        omega
      rw [pixels, Memory.window, flatMap_bytes_inj, List.map_inj_left]
      constructor
      · intro same y down x across
        have cell := same _ (List.mem_range.mpr (pixel_inside down across))
        rw [Nat.zero_add] at cell
        exact (pixel across down).mp cell
      · intro blue i held
        have inside := List.mem_range.mp held
        have across : i % width < width := Nat.mod_lt i wide
        have down : i / width < height := Nat.div_lt_of_lt_mul inside
        have cell := (pixel across down).mpr (blue _ down _ across)
        rw [Nat.mul_comm, Nat.div_add_mod] at cell
        rw [Nat.zero_add, cell]
  constructor
  · rintro ⟨pixels, next, planar, drawn, same⟩
    have valid : nscodecDimensionsValid width height = true := by
      by_contra refused
      rw [nscodecDecodeRegion, if_pos (by simp [refused])] at drawn
      cases congrArg Prod.fst drawn
    obtain ⟨pixels', next', planar', drawn', same'⟩ := values valid
    rw [planar] at planar'
    rw [drawn] at drawn'
    cases planar'
    cases drawn'
    exact ⟨valid, same'.mp same⟩
  · rintro ⟨valid, blue⟩
    obtain ⟨pixels, next, planar, drawn, same⟩ := values valid
    exact ⟨pixels, next, planar, drawn, same.mpr blue⟩

def onePixel (orange green : UInt8) : YcocgImage where
  cll := 1
  subsampled := false
  luma _ _ := 100
  orangeChroma _ _ := orange
  greenChroma _ _ := green
  alpha := none
  lossy := by decide

def noPadding : NscodecPadding := ⟨fun _ _ => 0, fun _ _ => 0, fun _ _ => 0⟩

def onePixelFrame : NscodecFrame := ⟨{}, .filled 1 {}⟩

theorem onePixelFrame_sound : onePixelFrame.Sound (1 * 1) := ⟨.init, rfl⟩

/-- Greens of different lightness. -/
def shadedGreen : YcocgImage :=
  { onePixel 0 20 with
    luma := fun x y => UInt8.ofNat (90 + 40 * y + x)
    greenChroma := fun x _ => UInt8.ofNat (20 + x) }

theorem colour_paths_agree_iff_green :
    shadedGreen.SamePixels 3 2 none noPadding ⟨{}, .filled 6 {}⟩ := by
  refine (colour_paths_agree_iff _ 3 2 none noPadding _ ⟨.init, rfl⟩).mpr ⟨rfl, ?_⟩
  intro y _ x _
  exact .inl rfl

/-- Orange chroma makes a planar pixel bluer and one of NSCodec redder. -/
theorem colour_paths_swap_blue_and_red :
    planarDecodeArgb (((onePixel 10 20).planar 1 1).rawForm none) 1 1 =
      .ok ([90, 120, 70, 255], 4) ∧
    ∃ next, nscodecDecodeRegion {} (nscodecForm ((onePixel 10 20).stream noPadding 1 1)) 1 1 1
        0 0 1 1 onePixelFrame = (.ok (), next) ∧
      (next.dest.window 0 1).flatMap Pixel.bytes = [70, 120, 90, 255] :=
  ⟨by decide +kernel, _, rfl, by decide +kernel⟩

end LibRdp.Graphics
