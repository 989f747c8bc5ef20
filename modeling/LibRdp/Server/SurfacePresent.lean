import LibRdp.Server.Surface
import LibRdp.Client.BitmapUpdate

/-! # What the client sees of a presented rectangle

A presentation cuts its rectangle into tiles. Each update is small enough for its path and holds
one tile; drawn by the client, the tiles show the framebuffer in the rectangle and nowhere else.
-/

namespace LibRdp.Server

open Graphics Machine Coding Client

/-- What the framebuffer shows; before it is allocated, nothing but zeros. -/
def SurfacePeer.content (peer : SurfacePeer) : Bytes :=
  peer.framebuffer.getD (List.replicate (peer.width.toNat * 4 * peer.height.toNat) 0)

def SurfacePeer.pixelAt (peer : SurfacePeer) (x y part : Nat) : Option UInt8 :=
  pixelCell 4 peer.width.toNat peer.content x y part

structure SurfacePeer.Framed (peer : SurfacePeer) : Prop where
  wide : desktopMinDimension ≤ peer.width.toNat ∧ peer.width.toNat ≤ desktopMaxDimension
  high : desktopMinDimension ≤ peer.height.toNat ∧ peer.height.toNat ≤ desktopMaxDimension
  stride : peer.framebuffer.isSome → peer.framebufferStride = peer.width.toNat * 4
  length : peer.content.length = 4 * peer.width.toNat * peer.height.toNat

def SurfacePeer.ensured (peer : SurfacePeer) : SurfacePeer :=
  { peer with
    framebuffer := some peer.content
    framebufferStride := peer.width.toNat * 4
    surfaceRepaintPending := peer.surfaceRepaintPending || peer.framebuffer.isNone }

section Framebuffer

variable {peer : SurfacePeer}

theorem surfaceSetDimensions_ok {width height : Nat}
    (wide : desktopMinDimension ≤ width ∧ width ≤ desktopMaxDimension)
    (high : desktopMinDimension ≤ height ∧ height ≤ desktopMaxDimension) :
    surfaceSetDimensions width height peer = (.ok (),
      { peer with
        framebuffer := some (List.replicate (width * 4 * height) 0)
        framebufferStride := width * 4
        width := UInt16.ofNat width
        height := UInt16.ofNat height
        surfaceRepaintPending := true }) := by
  simp only [desktopMinDimension, desktopMaxDimension] at wide high
  have allowed : ¬ (width < desktopMinDimension ∨ height < desktopMinDimension ∨
      width > desktopMaxDimension ∨ height > desktopMaxDimension) := by
    simp only [desktopMinDimension, desktopMaxDimension]
    omega
  have room : ¬ height > sizeMax / (width * 4) := by
    rw [not_lt, Nat.le_div_iff_mul_le (by omega), sizeMax]
    have most := Nat.mul_le_mul high.2 (Nat.mul_le_mul_right 4 wide.2)
    omega
  rw [surfaceSetDimensions, if_neg allowed, if_neg room]
  rfl

theorem surfaceEnsure_ok (framed : peer.Framed) : surfaceEnsure peer = (.ok (), peer.ensured) := by
  obtain ⟨wide, high, stride, -⟩ := framed
  rw [surfaceEnsure, Effect.get_bind]
  cases held : peer.framebuffer with
  | some pixels =>
    rw [held] at stride
    have same := stride rfl
    simp only [SurfacePeer.ensured, SurfacePeer.content, held, ← same, Option.isSome_some, if_true,
      Option.getD_some, Option.isNone_some, Bool.or_false, Effect.pure_apply]
    rw [← held]
  | none =>
    have made := @surfaceSetDimensions_ok peer _ _ wide high
    simp only [Option.isSome_none, Bool.false_eq_true, if_false, made, SurfacePeer.ensured,
      SurfacePeer.content, held, Option.getD_none, UInt16.ofNat_toNat, Option.isNone_none,
      Bool.or_true]

theorem SurfacePeer.Framed.ensured (framed : peer.Framed) : peer.ensured.Framed :=
  ⟨framed.wide, framed.high, fun _ => rfl, framed.length⟩

end Framebuffer

section Tiles

variable {peer : SurfacePeer} {framebuffer : Bytes} {fullWidth fullHeight x y width height : Nat}

theorem tileRows_ok (length : framebuffer.length = 4 * fullWidth * fullHeight)
    (across : x + width ≤ fullWidth) (down : y + height ≤ fullHeight) :
    ∃ rows, tileRows framebuffer (fullWidth * 4) x y width height = .ok rows ∧
      rows.length = height ∧ (∀ row ∈ rows, row.length = width * 4) ∧
      ∀ r < height, ∀ c < width, ∀ part < 4, rows[r]?.bind (·[c * 4 + part]?) =
        pixelCell 4 fullWidth framebuffer (x + c) (y + height - 1 - r) part := by
  obtain ⟨rows, ran, many, each⟩ := @mapM_range Bytes Fault
    (fun row => readBlock framebuffer ((y + height - 1 - row) * (fullWidth * 4) + x * 4) (width * 4))
    (fun r row => row.length = width * 4 ∧ ∀ c < width, ∀ part < 4, row[c * 4 + part]? =
      pixelCell 4 fullWidth framebuffer (x + c) (y + height - 1 - r) part) height (by
      intro r inside
      have fit := @rowsFit_inside 1 4 width fullWidth fullHeight x (y + height - 1 - r) across
        (by omega) 0 Nat.one_pos
      rw [← length, Nat.zero_mul, Nat.add_zero] at fit
      obtain ⟨row, read, long⟩ := readBlock_ok fit
      refine ⟨row, read, long, ?_⟩
      intro c column part small
      rw [readBlock_getElem? read (by omega), pixelCell]
      congr 1
      omega)
  refine ⟨rows, ran, many, ?_, ?_⟩
  · intro row held
    obtain ⟨-, -, long, -⟩ := mapM_range_mem many each held
    exact long
  · intro r inside c column part small
    obtain ⟨row, here, -, shows⟩ := each r inside
    rw [here]
    exact shows c column part small

def SurfacePeer.tile (peer : SurfacePeer) (block : Block) : BitmapRect :=
  tileRect block.left block.top block.width block.height
    (match tileRows peer.content (peer.width.toNat * 4) block.left block.top block.width
        block.height with
    | .ok rows => rows.flatten
    | .error _ => [])

structure SurfacePeer.Inside (peer : SurfacePeer) (block : Block) : Prop where
  wide : 0 < block.width
  high : 0 < block.height
  across : block.left + block.width ≤ peer.width.toNat
  down : block.top + block.height ≤ peer.height.toNat

variable {block : Block}

theorem tile_block (inside : peer.Inside block) :
    (peer.tile block).destLeft.toNat = block.left ∧ (peer.tile block).destTop.toNat = block.top ∧
    (peer.tile block).destRight.toNat = block.left + block.width - 1 ∧
    (peer.tile block).destBottom.toNat = block.top + block.height - 1 ∧
    (peer.tile block).width.toNat = block.width ∧
    (peer.tile block).height.toNat = block.height := by
  obtain ⟨wide, high, across, down⟩ := inside
  have narrow := peer.width.toNat_lt
  have low := peer.height.toNat_lt
  simp only [SurfacePeer.tile, tileRect]
  repeat rw [UInt16.toNat_ofNat_of_lt' (by change _ < 65536; omega)]
  exact ⟨rfl, rfl, rfl, rfl, rfl, rfl⟩

theorem tile_area (inside : peer.Inside block) : destArea (peer.tile block) =
    ⟨block.left, block.top, block.width, block.height⟩ := by
  obtain ⟨left, top, -, -, width, height⟩ := tile_block inside
  rw [destArea, left, top, width, height]

theorem tile_rows (framed : peer.Framed) (inside : peer.Inside block) :
    ∃ rows, tileRows peer.content (peer.width.toNat * 4) block.left block.top block.width
        block.height = .ok rows ∧ HoldsRows (peer.tile block) rows ∧
      Pictures peer.pixelAt (peer.tile block) := by
  obtain ⟨rows, ran, many, lengths, shows⟩ := tileRows_ok framed.length inside.across inside.down
  obtain ⟨left, top, -, -, width, height⟩ := tile_block inside
  have holds : HoldsRows (peer.tile block) rows := by
    refine ⟨rfl, rfl, ?_, ?_, ?_, ?_, ?_⟩
    · exact width.symm ▸ inside.wide
    · exact height.symm ▸ inside.high
    · simp only [SurfacePeer.tile, tileRect, ran]
    · rw [height, many]
    · rw [width]
      exact lengths
  refine ⟨rows, ran, holds, rows, holds, ?_⟩
  intro x y byte here small
  rw [tile_area inside] at here
  obtain ⟨low, right, above, bottom⟩ := here
  simp only at low right above bottom
  rw [left, top, height, shows _ (by omega) _ (by omega) byte small, SurfacePeer.pixelAt]
  congr 1 <;> omega

def ServerOutput.payload : ServerOutput → Bytes
  | .fastpath _ data => data
  | .slowpath pdu => pdu.drop 18

def ServerOutput.rects : ServerOutput → Attempt (List BitmapRect)
  | .fastpath _ data => parseFastpathUpdate data
  | .slowpath pdu => parseUpdate (pdu.drop 18)

def SurfacePeer.Routes (peer : SurfacePeer) : ServerOutput → Prop
  | .fastpath code _ => peer.clientFastpathOutput = true ∧ code = fastpathUpdateBitmap
  | .slowpath pdu => peer.clientFastpathOutput = false ∧
      pdu.take 18 = slowpathDataHeader peer.shareId mcsServerChannelId slowpathDataPduUpdate
        (pdu.length - 18)

def SurfacePeer.payloadLimit (peer : SurfacePeer) : Nat :=
  if peer.clientFastpathOutput then fastpathFragmentDataMax
  else 0x7fff - 18 - peer.outboundSecurityOverhead

def SurfacePeer.tileOutput (peer : SurfacePeer) (tile : BitmapRect) : ServerOutput :=
  if peer.clientFastpathOutput then .fastpath fastpathUpdateBitmap (updateBytes [tile])
  else .slowpath (slowpathDataHeader peer.shareId mcsServerChannelId slowpathDataPduUpdate
    (updateBytes [tile]).length ++ updateBytes [tile])

theorem payloadLimit_bounds (peer : SurfacePeer) :
    26 ≤ peer.payloadLimit ∧ peer.payloadLimit ≤ 0x7fff ∧
      peer.maxRawTile = some (peer.payloadLimit - 22) := by
  cases fast : peer.clientFastpathOutput <;> cases secure : peer.standardSecurityReady <;>
    simp [SurfacePeer.payloadLimit, SurfacePeer.maxRawTile, SurfacePeer.outboundSecurityOverhead,
      fast, secure, fastpathFragmentDataMax, fastpathPacketMax, fastpathHeaderMax,
      fastpathSignatureSize, fastpathUpdateHeaderSize]

theorem updateBytes_length (tile : BitmapRect) :
    (updateBytes [tile]).length = 22 + tile.data.length := by
  simp only [updateBytes, rectBytes, List.flatMap_cons, List.flatMap_nil, List.append_nil,
    List.length_append, u16LeBytes_length]
  omega

@[simp] theorem slowpathDataHeader_length (shareId : UInt32) (channelId : UInt16)
    (pduType2 : UInt8) (payloadLen : Nat) :
    (slowpathDataHeader shareId channelId pduType2 payloadLen).length = 18 := rfl

structure SurfacePeer.Tile (peer : SurfacePeer) (block : Block) : Prop extends
    peer.Inside block where
  short : block.height * (block.width * 4) ≤ peer.payloadLimit - 22

theorem tile_length (framed : peer.Framed) (small : peer.Tile block) :
    22 + (peer.tile block).data.length ≤ peer.payloadLimit := by
  obtain ⟨rows, -, holds, -⟩ := tile_rows framed small.toInside
  obtain ⟨-, -, -, -, width, height⟩ := tile_block small.toInside
  have limit := (payloadLimit_bounds peer).1
  have short := small.short
  rw [holds.length, width, height]
  omega

theorem tile_valid (framed : peer.Framed) (small : peer.Tile block) :
    validateRect (peer.tile block) = .ok := by
  obtain ⟨left, top, right, bottom, width, height⟩ := tile_block small.toInside
  have length := tile_length framed small
  have limit := (payloadLimit_bounds peer).2.1
  have wide := small.wide
  have high := small.high
  refine validateRect_ok.mpr ⟨?_, ?_, ?_, ?_, (by decide : (32 : UInt16) ≠ 0), by omega⟩
  · rintro none
    rw [none] at width
    change 0 = block.width at width
    omega
  · rintro none
    rw [none] at height
    change 0 = block.height at height
    omega
  · rw [UInt16.le_iff_toNat_le]
    omega
  · rw [UInt16.le_iff_toNat_le]
    omega

theorem tileOutput_rects (framed : peer.Framed) (small : peer.Tile block) :
    (peer.tileOutput (peer.tile block)).rects = .ok [peer.tile block] := by
  have valid : ∀ rect ∈ [peer.tile block], validateRect rect = .ok := by
    rw [List.forall_mem_singleton]
    exact tile_valid framed small
  have one : [peer.tile block].length ≤ bitmapMaxRects := (by decide : 1 ≤ bitmapMaxRects)
  have plain : ¬ Ambiguous [peer.tile block] := by
    rintro ⟨-, -, flags⟩
    change 0 = _ at flags
    omega
  unfold SurfacePeer.tileOutput
  split
  · exact (parseFastpathUpdate_bytes one valid).1 plain
  · rw [ServerOutput.rects, List.drop_left' (slowpathDataHeader_length _ _ _ _)]
    exact parseUpdate_bytes one valid

theorem tileOutput_routes (peer : SurfacePeer) (tile : BitmapRect) :
    peer.Routes (peer.tileOutput tile) := by
  unfold SurfacePeer.tileOutput
  split
  · rename_i fast
    exact ⟨fast, rfl⟩
  rename_i slow
  refine ⟨Bool.eq_false_of_not_eq_true slow, ?_⟩
  rw [List.take_left' (slowpathDataHeader_length _ _ _ _), List.length_append,
    slowpathDataHeader_length, Nat.add_sub_cancel_left]

theorem tileOutput_payload (peer : SurfacePeer) (tile : BitmapRect) :
    (peer.tileOutput tile).payload = updateBytes [tile] := by
  unfold SurfacePeer.tileOutput
  split
  · rfl
  · exact List.drop_left' (slowpathDataHeader_length _ _ _ _)

end Tiles

def SurfacePeer.sends (peer : SurfacePeer) (outs : List ServerOutput) : SurfacePeer :=
  { peer with sent := peer.sent ++ outs }

section Presentation

variable {peer : SurfacePeer} {send : ServerOutput → Status} {block whole : Block}
  {outs : List ServerOutput}

theorem surfaceSend_ok (accepts : ∀ output, send output = .ok) (output : ServerOutput) :
    surfaceSend send output (peer.sends outs) = (.ok (), peer.sends (outs ++ [output])) := by
  have more : peer.sends (outs ++ [output]) =
      { peer.sends outs with sent := (peer.sends outs).sent ++ [output] } := by
    rw [SurfacePeer.sends, ← List.append_assoc]
    rfl
  rw [surfaceSend, accepts, more]
  rfl

theorem presentTile_ok (framed : peer.Framed) (held : peer.framebuffer = some peer.content)
    (small : peer.Tile block) (accepts : ∀ output, send output = .ok) :
    presentTile send block.left block.top block.width block.height (peer.sends outs) =
      (.ok (), peer.sends (outs ++ [peer.tileOutput (peer.tile block)])) := by
  obtain ⟨wide, high, across, down⟩ := small.toInside
  obtain ⟨rows, ran, holds, -⟩ := tile_rows framed small.toInside
  have narrow := framed.wide.2
  have low := framed.high.2
  simp only [desktopMaxDimension] at narrow low
  have allowed : ¬ (¬ (peer.sends outs).RectValid block.left block.top block.width block.height ∨
      block.width > 0xffff ∨ block.height > 0xffff ∨ block.left + block.width - 1 > 0xffff ∨
      block.top + block.height - 1 > 0xffff) := by
    simp only [SurfacePeer.RectValid, SurfacePeer.sends]
    omega
  have room : ¬ block.height > sizeMax / (block.width * 4) := by
    rw [not_lt, Nat.le_div_iff_mul_le (by omega)]
    exact small.short.trans (by have := payloadLimit_bounds peer; rw [sizeMax]; omega)
  have pixels : surfacePixels (peer.sends outs) = (.ok peer.content, peer.sends outs) := by
    simp only [surfacePixels, Effect.get_bind, SurfacePeer.sends, held, Effect.pure_apply]
  have tile : tileRect block.left block.top block.width block.height rows.flatten =
      peer.tile block := by
    rw [SurfacePeer.tile, ran]
  have one : [peer.tile block].length ≤ bitmapMaxRects := (by decide : 1 ≤ bitmapMaxRects)
  have written := writeUpdate_bytes one (List.forall_mem_singleton.mpr (tile_valid framed small))
  have stride := framed.stride (by rw [held]; rfl)
  have length := tile_length framed small
  have limit := (payloadLimit_bounds peer).2.1
  rw [presentTile, Effect.get_bind, if_neg allowed, if_neg room, Effect.bind_ok pixels]
  change ((Effect.lift (access (tileRows peer.content peer.framebufferStride _ _ _ _)) :
    SurfaceEffect (List Bytes)) >>= _) _ = _
  rw [stride, ran, access_ok, Effect.lift_ok_bind, tile]
  have path : (peer.sends outs).clientFastpathOutput = peer.clientFastpathOutput := rfl
  have share : (peer.sends outs).shareId = peer.shareId := rfl
  unfold writeFastpathUpdate SurfacePeer.tileOutput
  rw [path, share, ite_self, written]
  cases fast : peer.clientFastpathOutput with
  | true =>
    simp only [if_true]
    exact surfaceSend_ok accepts _
  | false =>
    have long := updateBytes_length (peer.tile block)
    simp only [Bool.false_eq_true, if_false]
    rw [slowpathWriteDataPdu, if_neg (by omega), if_neg (by omega)]
    exact surfaceSend_ok accepts _

theorem forM_sends {α : Type} {l : List α} {each : α → SurfaceEffect PUnit}
    {out : α → List ServerOutput}
    (step : ∀ a ∈ l, ∀ outs, each a (peer.sends outs) = (.ok (), peer.sends (outs ++ out a)))
    (outs : List ServerOutput) :
    l.forM each (peer.sends outs) = (.ok (), peer.sends (outs ++ l.flatMap out)) := by
  induction l generalizing outs with
  | nil =>
    rw [List.flatMap_nil, List.append_nil]
    rfl
  | cons a l ih =>
    have first := step a List.mem_cons_self outs
    have later := ih (fun b held => step b (.tail a held)) (outs ++ out a)
    rw [List.append_assoc, ← List.flatMap_cons] at later
    exact (Effect.bind_ok first).trans later

def SurfacePeer.blocks (peer : SurfacePeer) (whole : Block) : List Block :=
  let maxRawTile := peer.payloadLimit - 22
  gridBlocks (maxRawTile / 4) (fun width => maxRawTile / (width * 4)) whole

theorem blocks_rows (peer : SurfacePeer) {width : Nat} (wide : 0 < width)
    (narrow : width ≤ (peer.payloadLimit - 22) / 4) : 0 < (peer.payloadLimit - 22) / (width * 4) := by
  apply Nat.div_pos
  · omega
  · omega

theorem blocks_some (peer : SurfacePeer) : 0 < (peer.payloadLimit - 22) / 4 := by
  have limit := (payloadLimit_bounds peer).1
  omega

theorem blocks_tiles (peer : SurfacePeer) (whole : Block) : Tiles (peer.blocks whole) whole :=
  gridBlocks_tiles (blocks_some peer) fun _ wide narrow => blocks_rows peer wide narrow

theorem blocks_tile (valid : peer.RectValid whole.left whole.top whole.width whole.height)
    (listed : block ∈ peer.blocks whole) : peer.Tile block := by
  obtain ⟨-, -, left, top, across, down⟩ := valid
  obtain ⟨⟨-, right⟩, ⟨-, bottom⟩, wide, high, -, rows⟩ :=
    gridBlocks_each (blocks_some peer) (fun _ wide narrow => blocks_rows peer wide narrow) listed
  refine ⟨⟨wide, high, by omega, by omega⟩, ?_⟩
  exact (Nat.le_div_iff_mul_le (by omega)).mp rows

theorem presentColumns_ok (framed : peer.Framed) (held : peer.framebuffer = some peer.content)
    (valid : peer.RectValid whole.left whole.top whole.width whole.height)
    (accepts : ∀ output, send output = .ok) :
    (offsets ((peer.payloadLimit - 22) / 4) whole.width).forM (fun column =>
        presentColumn send (whole.left + column) whole.top
          (min (whole.width - column) ((peer.payloadLimit - 22) / 4)) whole.height
          (peer.payloadLimit - 22)) (peer.sends []) =
      (.ok (), peer.sends ((peer.blocks whole).map fun block => peer.tileOutput (peer.tile block))) := by
  have columns := @forM_sends peer _ (offsets ((peer.payloadLimit - 22) / 4) whole.width)
    (fun column => presentColumn send (whole.left + column) whole.top
      (min (whole.width - column) ((peer.payloadLimit - 22) / 4)) whole.height
      (peer.payloadLimit - 22))
    (fun column =>
      let width := min (whole.width - column) ((peer.payloadLimit - 22) / 4)
      let rows := (peer.payloadLimit - 22) / (width * 4)
      (offsets rows whole.height).flatMap fun row =>
        [peer.tileOutput (peer.tile (columnBlock whole column width rows row))]) (by
    intro column across outs
    have inside := ((mem_offsets (blocks_some peer)).mp across).2
    have wide := blocks_some peer
    have rows := @blocks_rows peer (min (whole.width - column) ((peer.payloadLimit - 22) / 4))
      (by omega) (Nat.min_le_right _ _)
    rw [presentColumn, if_neg (Nat.ne_of_gt rows)]
    apply forM_sends
    intro row down outs
    have listed : columnBlock whole column (min (whole.width - column) ((peer.payloadLimit - 22) / 4))
        ((peer.payloadLimit - 22) / (min (whole.width - column) ((peer.payloadLimit - 22) / 4) * 4))
        row ∈ peer.blocks whole := (@mem_gridBlocks _ (fun width => (peer.payloadLimit - 22) /
          (width * 4)) _ _).mpr ⟨column, across, row, down, rfl⟩
    exact presentTile_ok framed held (blocks_tile valid listed) accepts) []
  rw [columns, List.nil_append, SurfacePeer.blocks, gridBlocks, List.map_flatMap]
  simp only [List.map_eq_flatMap, List.flatMap_assoc, List.flatMap_cons, List.flatMap_nil,
    List.append_nil]

theorem surfacePresentRect_ok (framed : peer.Framed) (active : peer.state = .active)
    (shown : peer.updatesSuppressed = false)
    (valid : peer.RectValid whole.left whole.top whole.width whole.height)
    (accepts : ∀ output, send output = .ok) :
    ∃ after, surfacePresentRect send whole.left whole.top whole.width whole.height peer =
        (.ok (), after) ∧
      after.sent = peer.sent ++ (peer.blocks whole).map fun block => peer.tileOutput (peer.tile block) := by
  obtain ⟨-, limit, raw⟩ := payloadLimit_bounds peer.ensured
  have allowed : ¬ (peer.state ≠ .active ∨ peer.updatesSuppressed = true) := by
    rw [active, shown]
    decide
  have valid' : peer.ensured.RectValid whole.left whole.top whole.width whole.height := valid
  have wide := blocks_some peer.ensured
  have fits : ¬ ((peer.ensured.payloadLimit - 22) / 4 = 0 ∨ whole.width > 0xffffffff - whole.left ∨
      whole.height > 0xffffffff - whole.top) := by
    have narrow := peer.width.toNat_lt
    have low := peer.height.toNat_lt
    simp only [SurfacePeer.RectValid] at valid
    omega
  have same : peer.ensured.sends [] = peer.ensured := by
    rw [SurfacePeer.sends, List.append_nil]
  have columns := @presentColumns_ok peer.ensured send whole framed.ensured rfl valid accepts
  rw [same] at columns
  rw [surfacePresentRect, Effect.get_bind, if_neg allowed, Effect.bind_ok (surfaceEnsure_ok framed),
    Effect.get_bind, if_neg (not_not.mpr valid'), raw]
  simp only [if_neg fits]
  rw [Effect.bind_ok columns]
  exact ⟨_, rfl, rfl⟩

theorem blocks_inside (listed : block ∈ peer.blocks whole) :
    block.left + block.width ≤ whole.left + whole.width ∧
      block.top + block.height ≤ whole.top + whole.height := by
  obtain ⟨⟨-, right⟩, ⟨-, bottom⟩, -⟩ :=
    gridBlocks_each (blocks_some peer) (fun _ wide narrow => blocks_rows peer wide narrow) listed
  exact ⟨right, bottom⟩

end Presentation

def RectPixel (rect : BitmapRect) (x y : Nat) : Prop :=
  rect.destLeft.toNat ≤ x ∧ x ≤ rect.destRight.toNat ∧
    rect.destTop.toNat ≤ y ∧ y ≤ rect.destBottom.toNat

def receiveOutput (palette : Option Palette) (output : ServerOutput) : GraphicsEffect Unit := do
  let rects ← .lift output.rects
  applyBitmapUpdate palette rects

/-- Outputs that present a rectangle: each holds one tile and is short enough for the path of the
    peer, the tiles make up the rectangle without overlaps, and a client whose output contains the
    rectangle shows the framebuffer there and elsewhere what it showed before. -/
structure Presents (peer : SurfacePeer) (whole : Block) (outputs : List ServerOutput)
    (tiles : List BitmapRect) : Prop where
  routed : ∀ output ∈ outputs, peer.Routes output
  short : ∀ output ∈ outputs, output.payload.length ≤ peer.payloadLimit
  read : outputs.map ServerOutput.rects = tiles.map fun tile => .ok [tile]
  apart : tiles.Pairwise fun tile other => ∀ x y, RectPixel tile x y → ¬ RectPixel other x y
  cover : ∀ x y, (∃ tile ∈ tiles, RectPixel tile x y) ↔ whole.Holds x y
  shown : ∀ (palette : Option Palette) (session : GraphicsSession), session.surface.Sized →
    session.surface.mapped = false → whole.left + whole.width ≤ session.surface.width →
    whole.top + whole.height ≤ session.surface.height →
    ∃ next, outputs.forM (receiveOutput palette) session =
        (.ok (), { session with surface := { session.surface with pixels := next } }) ∧
      next.length = session.surface.pixels.length ∧
      ∀ x y part, x < session.surface.width → part < 4 →
        pixelCell 4 session.surface.width next x y part =
          if whole.Holds x y then peer.pixelAt x y part else session.surface.byteAt x y part

section Receive

variable {peer : SurfacePeer} {send : ServerOutput → Status} {block whole : Block}
  {palette : Option Palette}

theorem receiveOutput_tile {output : ServerOutput} {tile : BitmapRect}
    (read : output.rects = .ok [tile]) :
    receiveOutput palette output = applyBitmapRect palette tile := by
  funext session
  rw [receiveOutput, read, Effect.lift_ok_bind]
  rcases ran : applyBitmapRect palette tile session with ⟨stop | _, after⟩
  · exact Effect.bind_error ran
  · exact Effect.bind_ok ran

theorem receiveOutputs_tiles {outputs : List ServerOutput} {tiles : List BitmapRect}
    (read : outputs.map ServerOutput.rects = tiles.map fun tile => .ok [tile]) :
    outputs.forM (receiveOutput palette) = applyBitmapUpdate palette tiles := by
  induction outputs generalizing tiles with
  | nil =>
    cases tiles with
    | nil => rfl
    | cons tile tiles => cases read
  | cons output outputs ih =>
    cases tiles with
    | nil => cases read
    | cons tile tiles =>
      rw [List.map_cons, List.map_cons, List.cons.injEq] at read
      have later := ih read.2
      change (receiveOutput palette output >>= fun _ => outputs.forM _) =
        (applyBitmapRect palette tile >>= fun _ => applyBitmapUpdate palette tiles)
      rw [receiveOutput_tile read.1, later]

theorem tile_pixel (inside : peer.Inside block) {x y : Nat} :
    RectPixel (peer.tile block) x y ↔ block.Holds x y := by
  obtain ⟨left, top, right, bottom, -, -⟩ := tile_block inside
  obtain ⟨wide, high, -, -⟩ := inside
  unfold RectPixel Block.Holds
  omega

theorem blocks_present (framed : peer.Framed)
    (valid : peer.RectValid whole.left whole.top whole.width whole.height) :
    Presents peer whole ((peer.blocks whole).map fun block => peer.tileOutput (peer.tile block))
      ((peer.blocks whole).map peer.tile) := by
  have each {block : Block} (listed : block ∈ peer.blocks whole) : peer.Tile block :=
    blocks_tile valid listed
  obtain ⟨apart, cover⟩ := blocks_tiles peer whole
  have pixel (x y : Nat) : (∃ tile ∈ (peer.blocks whole).map peer.tile, RectPixel tile x y) ↔
      whole.Holds x y := by
    simp only [← cover x y, List.mem_map, exists_exists_and_eq_and]
    exact exists_congr fun block => and_congr_right fun listed => tile_pixel (each listed).toInside
  have read : ((peer.blocks whole).map fun block => peer.tileOutput (peer.tile block)).map
      ServerOutput.rects = ((peer.blocks whole).map peer.tile).map fun tile => .ok [tile] := by
    rw [List.map_map, List.map_map]
    exact List.map_congr_left fun block listed => tileOutput_rects framed (each listed)
  refine ⟨?_, ?_, read, ?_, pixel, ?_⟩
  · rw [List.forall_mem_map]
    intro block _
    exact tileOutput_routes peer _
  · rw [List.forall_mem_map]
    intro block listed
    rw [tileOutput_payload, updateBytes_length]
    exact tile_length framed (each listed)
  · rw [List.pairwise_map]
    refine apart.imp_of_mem ?_
    intro block other listed listed' separate x y here there
    exact separate x y ((tile_pixel (each listed).toInside).mp here)
      ((tile_pixel (each listed').toInside).mp there)
  · intro palette session sized unlocked across down
    have pictures : ∀ tile ∈ (peer.blocks whole).map peer.tile,
        Pictures peer.pixelAt tile ∧ (destArea tile).Inside session.surface := by
      rw [List.forall_mem_map]
      intro block listed
      obtain ⟨rows, -, -, shows⟩ := tile_rows framed (each listed).toInside
      obtain ⟨right, bottom⟩ := blocks_inside listed
      have wide := (each listed).wide
      have high := (each listed).high
      refine ⟨shows, ?_⟩
      rw [tile_area (each listed).toInside]
      exact ⟨wide, high, right.trans across, bottom.trans down⟩
    obtain ⟨next, ran, length, drawn⟩ := applyBitmapUpdate_pictures palette sized unlocked pictures
    refine ⟨next, ?_, length, ?_⟩
    · rw [receiveOutputs_tiles read]
      exact ran
    · intro x y part across' small
      obtain ⟨inside, outside⟩ := drawn x y part across' small
      have areas : (∃ tile ∈ (peer.blocks whole).map peer.tile, (destArea tile).Holds x y) ↔
          whole.Holds x y := by
        simp only [← cover x y, List.mem_map, exists_exists_and_eq_and]
        refine exists_congr fun block => and_congr_right fun listed => ?_
        rw [tile_area (each listed).toInside]
        rfl
      split
      · rename_i here
        exact inside (areas.mpr here)
      · rename_i away
        exact outside fun tile listed holds => away (areas.mp ⟨tile, listed, holds⟩)

/-- An active peer that may send updates presents every rectangle of its desktop. -/
theorem surface_present_intact {x y width height : Nat} (framed : peer.Framed)
    (active : peer.state = .active) (unsuppressed : peer.updatesSuppressed = false)
    (valid : peer.RectValid x y width height) (accepts : ∀ output, send output = .ok) :
    ∃ outputs tiles after, surfacePresentRect send x y width height peer = (.ok (), after) ∧
      after.sent = peer.sent ++ outputs ∧ Presents peer ⟨x, y, width, height⟩ outputs tiles := by
  obtain ⟨after, ran, sent⟩ := @surfacePresentRect_ok peer send ⟨x, y, width, height⟩ framed active
    unsuppressed valid accepts
  exact ⟨_, _, after, ran, sent, blocks_present framed valid⟩

end Receive

def plainPeer : SurfacePeer where
  state := .active
  width := 200
  height := 200
  framebuffer := some ((List.range 160000).map fun i => UInt8.ofNat (i / 3))
  framebufferStride := 800

theorem plainPeer_framed : plainPeer.Framed := by
  refine ⟨by decide, by decide, fun _ => rfl, ?_⟩
  rw [SurfacePeer.content, plainPeer, Option.getD_some, List.length_map, List.length_range]
  rfl

theorem surface_present_intact_corner : 3 ≤ (plainPeer.blocks ⟨5, 6, 150, 140⟩).length ∧
    ∃ outputs tiles after,
      surfacePresentRect (fun _ => .ok) 5 6 150 140 plainPeer = (.ok (), after) ∧
        after.sent = plainPeer.sent ++ outputs ∧
        Presents plainPeer ⟨5, 6, 150, 140⟩ outputs tiles :=
  ⟨by decide +kernel, surface_present_intact plainPeer_framed rfl rfl (by decide) fun _ => rfl⟩

/-- While updates are suppressed nothing is sent, and nothing makes up the rectangle. -/
theorem surface_not_presented_when_suppressed :
    { plainPeer with updatesSuppressed := true }.Framed ∧
      { plainPeer with updatesSuppressed := true }.state = .active ∧
      { plainPeer with updatesSuppressed := true }.RectValid 5 6 7 8 ∧
      surfacePresentRect (fun _ => .ok) 5 6 7 8 { plainPeer with updatesSuppressed := true } =
        (.error (.returned .state), { plainPeer with updatesSuppressed := true }) ∧
      ∀ tiles, ¬ Presents { plainPeer with updatesSuppressed := true } ⟨5, 6, 7, 8⟩ [] tiles := by
  obtain ⟨wide, high, stride, length⟩ := plainPeer_framed
  refine ⟨⟨wide, high, stride, length⟩, rfl, by decide, rfl, ?_⟩
  intro tiles presents
  have none : tiles = [] := List.map_eq_nil_iff.mp presents.read.symm
  obtain ⟨tile, held, -⟩ := (presents.cover 5 6).mpr (by decide)
  rw [none] at held
  cases held

end LibRdp.Server
