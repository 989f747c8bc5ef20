import LibRdp.Coding.Raster
import LibRdp.Graphics.PlanarRle

/-! # Bitmaps in planes

A bitmap is given by its planes, cut into segments. It is sent with its planes as they are, or in
runs; the decoder gets through to the same pixels from both if it gets the planes back.
-/

namespace LibRdp.Graphics

open Machine Effect

def planarExtent (subsampled : Bool) (extent : Nat) : Nat :=
  if subsampled then (extent + 1) / 2 else extent

structure PlanarImage (width height : Nat) where
  cll : Nat
  subsampled : Bool
  alpha : Option (PlanarCut width height)
  plane0 : PlanarCut width height
  plane1 : PlanarCut (planarExtent subsampled width) (planarExtent subsampled height)
  plane2 : PlanarCut (planarExtent subsampled width) (planarExtent subsampled height)
  small : cll < 8
  lossy : subsampled = true → cll ≠ 0

namespace PlanarImage

variable {width height : Nat} (image : PlanarImage width height)

def format (rle : Bool) : PlanarFormat where
  cll := UInt8.ofNat image.cll
  subsampled := image.subsampled
  rle := rle
  hasAlpha := image.alpha.isSome

def header (rle : Bool) : UInt8 :=
  UInt8.ofNat (image.cll + (if image.subsampled then 8 else 0) + (if rle then 16 else 0) +
    if image.alpha.isSome then 0 else 32)

/-- The planes one behind the other, each as `form` gives it. -/
def payload (form : ∀ {width height : Nat}, PlanarCut width height → Bytes) : Bytes :=
  (image.alpha.elim [] fun alpha => form alpha) ++
    (form image.plane0 ++ (form image.plane1 ++ form image.plane2))

def rawForm (pad : Option UInt8) : Bytes :=
  image.header false :: (image.payload PlanarCut.plane ++ pad.toList)

def rleForm : Bytes := image.header true :: image.payload PlanarCut.encoding

def planes (form : ∀ {width height : Nat}, PlanarCut width height → Bytes) : PlanarPlanes where
  alpha := image.alpha.map fun alpha => form alpha
  plane0 := form image.plane0
  plane1 := form image.plane1
  plane2 := form image.plane2

end PlanarImage

theorem planarParseFormat_bits : ∀ cll < 8, ∀ subsampled rle hasAlpha : Bool,
    (subsampled = true → cll ≠ 0) →
    planarParseFormat (UInt8.ofNat (cll + (if subsampled then 8 else 0) + (if rle then 16 else 0) +
      if hasAlpha then 0 else 32)) = .ok ⟨UInt8.ofNat cll, subsampled, rle, hasAlpha⟩ := by
  decide

structure PlanarSizes.Of (format : PlanarFormat) (width height : Nat) (sizes : PlanarSizes) :
    Prop where
  pixelCount : sizes.pixelCount = width * height
  chromaWidth : sizes.chromaWidth = planarExtent format.subsampled width
  chromaHeight : sizes.chromaHeight = planarExtent format.subsampled height
  chromaCount : sizes.chromaCount = sizes.chromaWidth * sizes.chromaHeight
  payloadSize : sizes.payloadSize =
    (if format.hasAlpha then sizes.pixelCount else 0) +
      (sizes.pixelCount + (sizes.chromaCount + sizes.chromaCount))

theorem planarPayloadSize_yields {format : PlanarFormat} {pixelCount chromaCount : Nat}
    (same : format.cll = 0 → chromaCount = pixelCount) :
    Yields (planarPayloadSize format pixelCount chromaCount)
      (· = (if format.hasAlpha then pixelCount else 0) + (pixelCount + (chromaCount + chromaCount)))
      (· = .returned .protocolError) := by
  unfold planarPayloadSize
  apply Yields.ite
  · intro lossless
    cases format.hasAlpha with
    | true | false =>
      refine .ite (fun _ => .fails rfl) fun _ => .pure ?_
      have same := same lossless
      simp only [if_true, Bool.false_eq_true, if_false]
      omega
  · intro lossy
    refine .ite (fun _ => .fails rfl) fun _ => .ite (fun alpha => .ite (fun _ => .fails rfl)
      fun _ => .pure ?_) fun alpha => .pure ?_
    · rw [if_pos alpha]
      omega
    · rw [if_neg alpha]
      omega

theorem planarSizes_yields {format : PlanarFormat} {width height : Nat}
    (lossy : format.subsampled = true → format.cll ≠ 0) :
    Yields (planarSizes format width height) (PlanarSizes.Of format width height)
      (· = .returned .protocolError) := by
  unfold planarSizes
  refine .ite (fun _ => .fails rfl) fun _ => .bind (planarPayloadSize_yields ?_)
    fun payloadSize payload => .ite (fun _ => .fails rfl) fun _ => .pure ⟨rfl, rfl, rfl, rfl, payload⟩
  intro lossless
  have whole : ¬ format.subsampled = true := fun subsampled => lossy subsampled lossless
  rw [if_neg whole, if_neg whole]

variable {width height : Nat}

theorem PlanarCut.plane_length (cut : PlanarCut width height) :
    cut.plane.length = width * height := by
  rw [plane, Coding.flatten_rows_length cut.wide, cut.many, Nat.mul_comm]

namespace PlanarImage

variable {width height : Nat} (image : PlanarImage width height)

theorem parses (rle : Bool) : planarParseFormat (image.header rle) = .ok (image.format rle) :=
  planarParseFormat_bits image.cll image.small image.subsampled rle image.alpha.isSome image.lossy

theorem format_lossy (rle : Bool) :
    (image.format rle).subsampled = true → (image.format rle).cll ≠ 0 := by
  intro subsampled none
  have value := congrArg UInt8.toNat none
  change (UInt8.ofNat image.cll).toNat = 0 at value
  have small := image.small
  have lossy := image.lossy subsampled
  rw [UInt8.toNat_ofNat'] at value
  omega

variable {sizes : PlanarSizes}

theorem lengths {rle : Bool} (counted : sizes.Of (image.format rle) width height) :
    ((image.alpha.elim [] fun alpha => alpha.plane).length =
      if image.alpha.isSome then sizes.pixelCount else 0) ∧
    image.plane0.plane.length = sizes.pixelCount ∧
    image.plane1.plane.length = sizes.chromaCount ∧
    image.plane2.plane.length = sizes.chromaCount := by
  rw [image.plane0.plane_length, image.plane1.plane_length, image.plane2.plane_length,
    counted.chromaCount, counted.chromaWidth, counted.chromaHeight, counted.pixelCount]
  refine ⟨?_, rfl, rfl, rfl⟩
  cases image.alpha with
  | none => rfl
  | some alpha => exact alpha.plane_length

theorem payload_length {rle : Bool} (counted : sizes.Of (image.format rle) width height) :
    (image.payload PlanarCut.plane).length = sizes.payloadSize := by
  obtain ⟨alphaCount, pixels, chroma1, chroma2⟩ := image.lengths counted
  rw [payload, List.length_append, List.length_append, List.length_append, alphaCount, pixels,
    chroma1, chroma2, counted.payloadSize]
  rfl

theorem rawPlanes (counted : sizes.Of (image.format false) width height) (pad : Bytes) :
    planarRawPlanes (image.format false) sizes (image.payload PlanarCut.plane ++ pad) =
      image.planes PlanarCut.plane := by
  obtain ⟨alphaCount, pixels, chroma1, chroma2⟩ := image.lengths counted
  have chroma : sizes.chromaCount =
      (if (image.format false).cll = 0 then sizes.pixelCount else sizes.chromaCount) := by
    split
    · rename_i lossless
      have whole : ¬ image.subsampled = true := fun subsampled =>
        image.format_lossy false subsampled lossless
      rw [counted.chromaCount, counted.chromaWidth, counted.chromaHeight, counted.pixelCount]
      change planarExtent image.subsampled width * planarExtent image.subsampled height = _
      rw [planarExtent, planarExtent, if_neg whole, if_neg whole]
    · rfl
  have hasAlpha : (image.format false).hasAlpha = image.alpha.isSome := rfl
  have payload : image.payload PlanarCut.plane ++ pad =
      (image.alpha.elim [] fun alpha => alpha.plane) ++
        (image.plane0.plane ++ (image.plane1.plane ++ (image.plane2.plane ++ pad))) := by
    simp only [payload, List.append_assoc]
  rw [planarRawPlanes, ← chroma, payload, hasAlpha, List.drop_left' alphaCount,
    List.take_left' alphaCount, List.take_left' pixels, ← List.drop_drop, List.drop_left' pixels,
    List.take_left' chroma1, List.drop_left' chroma1, List.take_left' chroma2, planes]
  congr 1
  cases image.alpha with
  | none | some alpha => rfl

theorem rlePlanes (counted : sizes.Of (image.format true) width height) (wide : 0 < width)
    (high : 0 < height) :
    planarRlePlanes (image.format true) sizes width height (image.payload PlanarCut.encoding) =
      .ok (image.planes PlanarCut.decoded) := by
  have chromaWide : 0 < planarExtent image.subsampled width := by
    unfold planarExtent
    split <;> omega
  have chromaHigh : 0 < planarExtent image.subsampled height := by
    unfold planarExtent
    split <;> omega
  have plane0 := image.plane0.decodes wide high
    (image.plane1.encoding ++ image.plane2.encoding)
  have plane1 := image.plane1.decodes chromaWide chromaHigh image.plane2.encoding
  have plane2 := image.plane2.decodes chromaWide chromaHigh []
  have behind : (image.plane2.encoding.drop image.plane2.encoding.length).length = 0 := by
    rw [List.drop_length, List.length_nil]
  rw [List.append_nil] at plane2
  have hasAlpha : (image.format true).hasAlpha = image.alpha.isSome := rfl
  have subsampled : (image.format true).subsampled = image.subsampled := rfl
  rw [planarRlePlanes, counted.chromaWidth, counted.chromaHeight, planes, payload, hasAlpha,
    subsampled]
  cases image.alpha with
  | none =>
    simp only [Option.isSome_none, Bool.false_eq_true, if_false, attempt_pure, ok_bind,
      Option.elim_none, List.nil_append, plane0, plane1, plane2, List.drop_left, behind]
    rfl
  | some alpha =>
    have whole := alpha.decodes wide high
      (image.plane0.encoding ++ (image.plane1.encoding ++ image.plane2.encoding))
    simp only [Option.isSome_some, if_true, attempt_pure, ok_bind, Option.elim_some, whole,
      plane0, plane1, plane2, List.drop_left, behind]
    rfl

def Countable : Prop :=
  width ≤ sizeMax / height ∧ (∃ sizes, planarSizes (image.format false) width height = .ok sizes) ∧
    height ≤ sizeMax / (width * 4)

theorem decodes_forms (wide : 0 < width) (high : 0 < height) (pad : Option UInt8) :
    (¬ image.Countable ∧ ∃ stop, planarDecodeArgb (image.rawForm pad) width height = .error stop ∧
      planarDecodeArgb image.rleForm width height = .error stop) ∨
    ∃ sizes, planarSizes (image.format false) width height = .ok sizes ∧
      planarDecodeArgb (image.rawForm pad) width height =
        .ok (planarPixels (image.format false) sizes width (image.planes PlanarCut.plane),
          width * 4) ∧
      planarDecodeArgb image.rleForm width height =
        .ok (planarPixels (image.format false) sizes width (image.planes PlanarCut.decoded),
          width * 4) := by
  have some : ¬ (width = 0 ∨ height = 0) := by omega
  have sizesOf := @planarSizes_yields (image.format false) width height (image.format_lossy false)
  have sameSizes : planarSizes (image.format true) width height =
      planarSizes (image.format false) width height := rfl
  simp only [planarDecodeArgb, if_neg some, rawForm, rleForm, image.parses, ok_bind,
    sameSizes]
  by_cases tall : width > sizeMax / height
  · exact .inl ⟨fun counts => Nat.not_lt.mpr counts.1 tall, _, if_pos tall, if_pos tall⟩
  simp only [if_neg tall]
  cases sized : planarSizes (image.format false) width height with
  | error stop =>
    refine .inl ⟨?_, stop, rfl, rfl⟩
    rintro ⟨-, ⟨sizes, counted⟩, -⟩
    rw [sized] at counted
    cases counted
  | ok sizes =>
    have counted := sizesOf.ok sizes sized
    have length := image.payload_length counted
    have fits : ¬ ((!(image.format false).rle) ∧
        (image.payload PlanarCut.plane ++ pad.toList).length ≠ sizes.payloadSize ∧
        (image.payload PlanarCut.plane ++ pad.toList).length ≠ sizes.payloadSize + 1) := by
      rintro ⟨-, exact, more⟩
      rw [List.length_append, length] at exact more
      cases pad with
      | none => exact exact rfl
      | some byte => exact more rfl
    have rle : ¬ ((!(image.format true).rle) ∧
        (image.payload PlanarCut.encoding).length ≠ sizes.payloadSize ∧
        (image.payload PlanarCut.encoding).length ≠ sizes.payloadSize + 1) :=
      fun both => Bool.false_ne_true both.1
    have counted' : sizes.Of (image.format true) width height :=
      ⟨counted.pixelCount, counted.chromaWidth, counted.chromaHeight, counted.chromaCount,
        counted.payloadSize⟩
    have raw : ¬ (image.format false).rle = true := Bool.false_ne_true
    have runs : (image.format true).rle = true := rfl
    simp only [ok_bind, if_neg fits, if_neg rle]
    by_cases large : height > sizeMax / (width * 4)
    · refine .inl ⟨fun counts => Nat.not_lt.mpr counts.2.2 large, .returned .protocolError, ?_⟩
      rw [if_pos large, if_pos large]
      exact ⟨rfl, rfl⟩
    rw [if_neg large, if_neg large, if_neg raw, if_pos runs, image.rawPlanes counted,
      image.rlePlanes counted' wide high]
    exact .inr ⟨sizes, rfl, rfl, rfl⟩

end PlanarImage

/-- The decoder gives back a plane from its runs, whatever follows, and takes nothing else. -/
def PlanarCut.ComesBack {width height : Nat} (cut : PlanarCut width height) : Prop :=
  ∀ rest, planarDecodeRlePlane (cut.encoding ++ rest) width height =
    .ok (cut.plane, cut.encoding.length)

theorem PlanarCut.comesBack_iff (cut : PlanarCut width height) (wide : 0 < width)
    (high : 0 < height) : cut.ComesBack ↔ SmoothRows cut.rows := by
  rw [← cut.decoded_iff]
  constructor
  · intro back
    have decodes := cut.decodes wide high []
    rw [back []] at decodes
    exact (Prod.mk.inj (Except.ok.inj decodes)).1.symm
  · intro same rest
    rw [cut.decodes wide high rest, same]

def PlanarImage.Each {width height : Nat} (image : PlanarImage width height)
    (holds : ∀ {width height : Nat}, PlanarCut width height → Prop) : Prop :=
  (∀ alpha ∈ image.alpha, holds alpha) ∧ holds image.plane0 ∧ holds image.plane1 ∧
    holds image.plane2

theorem PlanarImage.each_congr (image : PlanarImage width height)
    {holds holds' : ∀ {width height : Nat}, PlanarCut width height → Prop}
    (same : ∀ {width height : Nat} (cut : PlanarCut width height), 0 < width → 0 < height →
      (holds cut ↔ holds' cut)) (wide : 0 < width) (high : 0 < height) :
    image.Each holds ↔ image.Each holds' := by
  have chromaWide : 0 < planarExtent image.subsampled width := by
    unfold planarExtent
    split <;> omega
  have chromaHigh : 0 < planarExtent image.subsampled height := by
    unfold planarExtent
    split <;> omega
  exact and_congr (forall₂_congr fun alpha _ => same alpha wide high)
    (and_congr (same image.plane0 wide high)
      (and_congr (same image.plane1 chromaWide chromaHigh)
        (same image.plane2 chromaWide chromaHigh)))

/-- A plane comes back from its runs if and only if no byte is farther from the one above it than
    a signed byte says. The planes of a bitmap all come back, and its pixels are the same as from
    the planes as they are, if and only if that holds of all of them. -/
theorem planar_rle_inverts_iff {width height : Nat} (wide : 0 < width) (high : 0 < height) :
    (∀ cut : PlanarCut width height, cut.ComesBack ↔ SmoothRows cut.rows) ∧
    ∀ (image : PlanarImage width height) (pad : Option UInt8),
      (image.Each PlanarCut.ComesBack ∧
        planarDecodeArgb image.rleForm width height =
          planarDecodeArgb (image.rawForm pad) width height) ↔
      image.Each fun cut => SmoothRows cut.rows := by
  refine ⟨fun cut => cut.comesBack_iff wide high, fun image pad => ?_⟩
  have each := image.each_congr (fun cut => cut.comesBack_iff) wide high
  rw [each]
  refine and_iff_left_of_imp fun smooth => ?_
  have planes : image.planes PlanarCut.decoded = image.planes PlanarCut.plane := by
    obtain ⟨alpha, plane0, plane1, plane2⟩ := smooth
    have alphas : image.alpha.map (fun alpha => alpha.decoded) =
        image.alpha.map fun alpha => alpha.plane :=
      Option.map_congr fun cut held => cut.decoded_iff.mpr (alpha cut held)
    rw [PlanarImage.planes, alphas, image.plane0.decoded_iff.mpr plane0,
      image.plane1.decoded_iff.mpr plane1, image.plane2.decoded_iff.mpr plane2]
    rfl
  obtain ⟨-, stop, raw, rle⟩ | ⟨sizes, -, raw, rle⟩ := image.decodes_forms wide high pad
  · rw [raw, rle]
  · rw [raw, rle, planes]

def stepPlane : PlanarCut 1 2 where
  rows := [[10], [20]]
  cuts := [[⟨[10], 0, by decide⟩], [⟨[20], 0, by decide⟩]]
  many := rfl
  wide := by decide
  cut := by decide

/-- A byte of 200 below one of 0; the difference is the signed byte -56. -/
def jumpPlane : PlanarCut 1 2 where
  rows := [[0], [200]]
  cuts := [[⟨[0], 0, by decide⟩], [⟨[111], 0, by decide⟩]]
  many := rfl
  wide := by decide
  cut := by decide

def greyImage (plane : PlanarCut 1 2) : PlanarImage 1 2 where
  cll := 0
  subsampled := false
  alpha := none
  plane0 := plane
  plane1 := plane
  plane2 := plane
  small := by decide
  lossy := nofun

theorem planar_rle_inverts_iff_step : stepPlane.ComesBack ∧
    planarDecodeArgb (greyImage stepPlane).rleForm 1 2 =
      planarDecodeArgb ((greyImage stepPlane).rawForm none) 1 2 := by
  have smooth : SmoothRows stepPlane.rows :=
    .cons_cons (.cons (by unfold NearAbove; decide) .nil) (.singleton _)
  have inverts := @planar_rle_inverts_iff 1 2 (by decide) (by decide)
  exact ⟨(inverts.1 stepPlane).mpr smooth,
    ((inverts.2 (greyImage stepPlane) none).mpr ⟨nofun, smooth, smooth, smooth⟩).2⟩

/-- The sum is cut off instead of wrapping around. -/
theorem planar_rle_saturates :
    jumpPlane.plane = [0, 200] ∧ jumpPlane.encoding = [0x10, 0, 0x10, 111] ∧
    planarDecodeRlePlane jumpPlane.encoding 1 2 = .ok ([0, 0], 4) ∧
    planarDecodeArgb ((greyImage jumpPlane).rawForm none) 1 2 =
      .ok ([0, 0, 0, 255, 200, 200, 200, 255], 4) ∧
    planarDecodeArgb (greyImage jumpPlane).rleForm 1 2 = .ok ([0, 0, 0, 255, 0, 0, 0, 255], 4) := by
  have decodes := jumpPlane.decodes (by decide) (by decide) []
  rw [List.append_nil] at decodes
  have raw : planarDecodeArgb ((greyImage jumpPlane).rawForm none) 1 2 =
      .ok ([0, 0, 0, 255, 200, 200, 200, 255], 4) := by decide +kernel
  refine ⟨rfl, rfl, decodes, raw, ?_⟩
  obtain ⟨-, stop, failed, -⟩ | ⟨sizes, sized, -, rle⟩ :=
    (greyImage jumpPlane).decodes_forms (by decide) (by decide) none
  · rw [raw] at failed
    cases failed
  · cases sized
    exact rle

end LibRdp.Graphics
