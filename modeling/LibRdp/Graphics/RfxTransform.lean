import LibRdp.Graphics.RfxRlgr

/-! # From coefficients to pixels

A tile is put together from four subbands three times over, rows first and columns after
them. The subbands are of equal size, or the low one is larger and the edges are
extrapolated.
-/

namespace LibRdp.Graphics

abbrev Plane := Nat → Int

/-- `rdp_rfx_clamp_u8`. -/
def rfxClampU8 (value : Int) : UInt8 := UInt8.ofNat (max 0 (min value 255)).toNat

/-- A sample with an even index: before the first high sample the first one counts again. -/
def dwtEven (low high : Plane) (n : Nat) : Int :=
  rfxClampI32 (low n - (high (n - 1) + high n + 1) / 2)

/-- One row or column of `rdp_rfx_inverse_dwt_block`, with `count` samples in each subband. -/
def dwtSample (low high : Plane) (count x : Nat) : Int :=
  let n := x / 2
  if x % 2 = 0 then dwtEven low high n
  else if n + 1 < count then
    rfxClampI32 (high n * 2 + (dwtEven low high n + dwtEven low high (n + 1)) / 2)
  else rfxClampI32 (high n * 2 + dwtEven low high n)

/-- `rdp_rfx_inverse_dwt_block` on the coefficients from `base` on. -/
def inverseDwtBlock (base subbandWidth : Nat) (coefficients : Plane) : Plane :=
  let area := subbandWidth * subbandWidth
  let hl (y n : Nat) := coefficients (base + y * subbandWidth + n)
  let lh (y n : Nat) := coefficients (base + area + y * subbandWidth + n)
  let hh (y n : Nat) := coefficients (base + area * 2 + y * subbandWidth + n)
  let ll (y n : Nat) := coefficients (base + area * 3 + y * subbandWidth + n)
  let low (y x : Nat) := dwtSample (ll y) (hl y) subbandWidth x
  let high (y x : Nat) := dwtSample (lh y) (hh y) subbandWidth x
  fun i =>
    if i < base ∨ i ≥ base + area * 4 then coefficients i
    else
      let x := (i - base) % (subbandWidth * 2)
      dwtSample (low · x) (high · x) subbandWidth ((i - base) / (subbandWidth * 2))

/-- `rdp_rfx_inverse_dwt_2d`. -/
def inverseDwt2d (coefficients : Plane) : Plane :=
  inverseDwtBlock 0 32 (inverseDwtBlock 3072 16 (inverseDwtBlock 3840 8 coefficients))

/-- A sample with an even index; behind the last high sample that one is used alone. -/
def extrapolateEven (low high : Plane) (lowCount highCount n : Nat) : Int :=
  if n = 0 then rfxClampI32 (low 0 - high 0)
  else if n < highCount then rfxClampI32 (low n - (high (n - 1) + high n).tdiv 2)
  else if lowCount ≤ highCount + 1 then rfxClampI32 (low n - high (n - 1))
  else rfxClampI32 (low n - (high (n - 1)).tdiv 2)

/-- One row of `rdp_rfx_extrapolate_idwt_x`, or one column of `rdp_rfx_extrapolate_idwt_y`. -/
def extrapolateSample (low high : Plane) (lowCount highCount x : Nat) : Int :=
  let even := extrapolateEven low high lowCount highCount
  let n := x / 2
  if x % 2 = 0 then even n
  else if n + 1 < highCount ∨ n + 1 = highCount ∧ lowCount > highCount then
    rfxClampI32 ((even n + even (n + 1)).tdiv 2 + high n * 2)
  else if n + 1 = highCount then rfxClampI32 (even n + high n * 2)
  else rfxClampI32 ((even n + low (n + 1)).tdiv 2)

/-- `rdp_rfx_extrapolate_low_count` and `rdp_rfx_extrapolate_high_count`. -/
def extrapolateLowCount (level : Nat) : Nat := 64 / 2 ^ level + 1

def extrapolateHighCount (level : Nat) : Nat :=
  if level = 1 then 64 / 2 - 1 else (64 + 2 ^ (level - 1)) / 2 ^ level

/-- `rdp_rfx_inverse_dwt_extrapolated_block` on the coefficients from `base` on. -/
def inverseDwtExtrapolatedBlock (base level : Nat) (coefficients : Plane) : Plane :=
  let lowCount := extrapolateLowCount level
  let highCount := extrapolateHighCount level
  let outputStep := lowCount + highCount
  let hl (y n : Nat) := coefficients (base + y * highCount + n)
  let lh (y n : Nat) := coefficients (base + highCount * lowCount + y * lowCount + n)
  let hh (y n : Nat) := coefficients (base + highCount * lowCount * 2 + y * highCount + n)
  let ll (y n : Nat) :=
    coefficients (base + highCount * lowCount * 2 + highCount * highCount + y * lowCount + n)
  let low (y x : Nat) := extrapolateSample (ll y) (hl y) lowCount highCount x
  let high (y x : Nat) := extrapolateSample (lh y) (hh y) lowCount highCount x
  fun i =>
    if i < base ∨ i ≥ base + outputStep * outputStep then coefficients i
    else
      let x := (i - base) % outputStep
      extrapolateSample (low · x) (high · x) lowCount highCount ((i - base) / outputStep)

/-- `rdp_rfx_inverse_dwt_2d_extrapolated`. -/
def inverseDwt2dExtrapolated (coefficients : Plane) : Plane :=
  inverseDwtExtrapolatedBlock 0 1
    (inverseDwtExtrapolatedBlock 3007 2 (inverseDwtExtrapolatedBlock 3807 3 coefficients))

/-- `rdp_rfx_tile_pixels`. -/
structure TilePixels where
  bgra : Bytes := List.replicate (rfxTileCoefficients * 4) 0
  stride : Nat := 0

/-- One pixel of `rdp_rfx_ycbcr_to_bgra`. -/
def ycbcrToBgra (y cb cr : Int) : Bytes :=
  let base := (y + 4096) * 2 ^ 16
  let r := (base + cr * 91916) / 2 ^ 21
  let g := (base - cr * 46819 - cb * 22527) / 2 ^ 21
  let b := (base + cb * 115992) / 2 ^ 21
  [rfxClampU8 b, rfxClampU8 g, rfxClampU8 r, 0xff]

/-- `rdp_rfx_ycbcr_to_bgra` into the rows of a tile. -/
def tileYcbcrToBgra (y cb cr : Plane) : TilePixels where
  bgra := (List.range rfxTileCoefficients).flatMap fun i => ycbcrToBgra (y i) (cb i) (cr i)
  stride := 64 * 4

end LibRdp.Graphics
