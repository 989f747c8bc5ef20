import LibRdp.Client.GraphicsConsistent

/-! # Drawing progressive streams keeps the tables

Tiles are given slots, decoded and shown, and whatever goes wrong with one of them is counted: the
tables stay consistent, and drawing goes on to the end of the stream. The one thing that stops it in
a stream that is valid is a tile without the data of a component.
-/

namespace LibRdp.Client

open Graphics Machine Machine.Table Coding

section Slots

variable {session later : GraphicsSession} {surface : GraphicsSurface} {i slot : Nat} {key : TileKey}

theorem tileVictim_held {tiles : List ProgressiveTileCache} {first : Nat}
    {best : Option (Nat × ProgressiveTileCache)} {victim : ProgressiveTileCache}
    {holds : Nat → ProgressiveTileCache → Prop} (known : ∀ pair ∈ best, holds pair.1 pair.2)
    (later : ∀ j tile, tiles[j]? = some tile → holds (first + j) tile)
    (found : tileVictim first best tiles = some (slot, victim)) : holds slot victim := by
  induction tiles generalizing first best with
  | nil =>
    rw [tileVictim] at found
    exact known _ found
  | cons tile tiles ih =>
    have here := later 0 tile rfl
    have others : ∀ j other, tiles[j]? = some other → holds (first + 1 + j) other := by
      intro j other held
      rw [Nat.add_right_comm, Nat.add_assoc]
      exact later (j + 1) other held
    rw [tileVictim.eq_def] at found
    dsimp only at found
    split at found
    · cases found
      exact here
    split at found
    · exact ih (by rintro _ ⟨⟩; exact here) others found
    split at found
    · exact ih (by rintro _ ⟨⟩; exact here) others found
    · exact ih known others found

theorem allocate_eq (session : GraphicsSession) :
    ∃ given memory, allocate session = (.ok given, { session with memory }) := by
  unfold allocate
  split
  · rename_i none_
    exact ⟨true, session.memory, rfl⟩
  · exact ⟨_, _, rfl⟩

theorem GraphicsSession.Consistent.ticked (consistent : session.Consistent) (clock : UInt64) :
    { session with progressiveTileClock := clock }.Consistent := { consistent with }

theorem Kept.elsewhere (first : Kept session later) (memory : List Bool) :
    Kept session { later with memory } :=
  first.trans (first.consistent.shown first.consistent.output memory)

theorem granted_cases {α : Type} {f : Bool → GraphicsEffect α}
    {holds : Except Stop α × GraphicsSession → Prop} (known : Bool)
    (either : ∀ given memory, holds (f given { session with memory })) :
    holds ((if known = true then (pure true >>= f) else (allocate >>= f)) session) := by
  cases known with
  | true => exact either true session.memory
  | false =>
    obtain ⟨given, memory, ran⟩ := allocate_eq session
    rw [if_neg Bool.false_ne_true, Effect.bind_ok ran]
    exact either given memory

/-- A search for a slot comes to its end, and what it finds is in the table. -/
def FindsSlot (session : GraphicsSession) (ending : Except Stop (Option Nat) × GraphicsSession) :
    Prop :=
  ∃ found later, ending = (.ok found, later) ∧ Kept session later ∧
    ∀ slot ∈ found, slot < progressiveTileStates

theorem tileTake_finds (consistent : session.Consistent) {victim : ProgressiveTileCache}
    (at' : session.progressiveTiles[slot]? = some victim) (there : Held i key.surfaceId session)
    (missing : session.progressiveTileFind key = none) :
    FindsSlot session (tileTake key slot victim session) := by
  have inside : slot < progressiveTileStates := by
    rw [← consistent.states]
    exact (List.getElem?_eq_some_iff.mp at').1
  refine granted_cases _ fun given memory => ?_
  have first := consistent.kept.elsewhere memory
  cases given with
  | false => exact ⟨none, _, rfl, first, nofun⟩
  | true =>
    have picture := consistent.pictures at'
    have readied := @GraphicsSession.Consistent.changeTile _ slot victim
      { victim with state := some (victim.state.getD {}) } first.consistent at' rfl rfl picture
    refine granted_cases _ fun given memory' => ?_
    have second := readied.kept.elsewhere memory'
    cases given with
    | false => exact ⟨none, _, rfl, ⟨second.consistent, id, fun _ => rfl⟩, nofun⟩
    | true =>
      refine ⟨some slot, _, rfl, ⟨(second.consistent.ticked _).setTile ?_ ?_ nofun, id,
        fun _ => rfl⟩, ?_⟩
      · exact fun _ => ⟨i, there⟩
      · intro _ j other away held active same
        change (session.progressiveTiles.set slot _)[j]? = some other at held
        rw [List.getElem?_set_ne (Ne.symm away)] at held
        have fails := lookup_none missing held
        have named : other.key = key := same
        simp [active, named] at fails
      · rintro s ⟨⟩
        exact inside

theorem progressiveTileGet_finds (consistent : session.Consistent)
    (there : Held i key.surfaceId session) (create : Bool) :
    FindsSlot session (progressiveTileGet key create session) := by
  rw [progressiveTileGet, Effect.get_bind]
  cases known : session.progressiveTileFind key with
  | some pair =>
    obtain ⟨slot, tile⟩ := pair
    obtain ⟨at', -⟩ := lookup_some known
    have picture := consistent.pictures at'
    refine ⟨some slot, _, rfl, ⟨?_, id, fun _ => rfl⟩, ?_⟩
    · exact (consistent.ticked _).changeTile at' rfl rfl picture
    · rintro s ⟨⟩
      rw [← consistent.states]
      exact (List.getElem?_eq_some_iff.mp at').1
  | none =>
    cases create with
    | false => exact ⟨none, session, rfl, consistent.kept, by rintro _ ⟨⟩⟩
    | true =>
      dsimp only
      rw [if_neg (by decide)]
      cases chosen : tileVictim 0 none session.progressiveTiles with
      | none => exact ⟨none, session, rfl, consistent.kept, by rintro _ ⟨⟩⟩
      | some pair =>
        obtain ⟨slot, victim⟩ := pair
        refine tileTake_finds consistent ?_ there known
        refine @tileVictim_held slot _ 0 none victim
          (fun slot tile => session.progressiveTiles[slot]? = some tile) (by rintro _ ⟨⟩) ?_
          chosen
        intro j tile held
        rw [Nat.zero_add]
        exact held

theorem tileAt_held {tile : ProgressiveTileCache}
    (at' : session.progressiveTiles[slot]? = some tile) :
    tileAt slot session = (.ok tile, session) := by
  rw [tileAt, Effect.get_bind, at']
  rfl

theorem tileStore_kept (consistent : session.Consistent) (inside : slot < progressiveTileStates)
    (state : TileState) {pixels : TilePixels} (sized : TileSized pixels) :
    ∃ next, tileStore slot state pixels session = (.ok (), next) ∧ Kept session next := by
  obtain ⟨tile, at'⟩ : ∃ tile, session.progressiveTiles[slot]? = some tile :=
    ⟨_, List.getElem?_eq_getElem (consistent.states ▸ inside)⟩
  rw [tileStore, Effect.get_bind, Effect.bind_ok (tileAt_held at')]
  refine ⟨_, rfl, ⟨consistent.changeTile at' rfl rfl ?_, id, fun _ => rfl⟩⟩
  rintro _ _ ⟨⟩
  exact sized

theorem tileYcbcrToBgra_sized (y cb cr : Plane) : TileSized (tileYcbcrToBgra y cb cr) := by
  refine ⟨?_, rfl⟩
  have each : ∀ i ∈ List.range rfxTileCoefficients,
      (ycbcrToBgra (y i) (cb i) (cr i)).length = 4 := fun _ _ => rfl
  rw [tileYcbcrToBgra, List.length_flatMap, List.map_congr_left each, List.map_const',
    List.sum_replicate, List.length_range]
  rfl

end Slots

structure Ready (i : Nat) (target : GraphicsSurface) (session : GraphicsSession) : Prop where
  consistent : session.Consistent
  held : Held i target.surfaceId session
  size : session.surfaceSize i = some (target.width, target.height)

theorem Ready.kept {i : Nat} {target : GraphicsSurface} {session later : GraphicsSession}
    (ready : Ready i target session) (kept : Kept session later) : Ready i target later :=
  ⟨kept.consistent, kept.held ready.held, (kept.sizes i).trans ready.size⟩

/-- All tiles that were counted. -/
def ProgressiveRender.tally (render : ProgressiveRender) : UInt32 :=
  render.renderedTiles + render.failedTiles + render.missingTiles

def tallyMeter : Meter ProgressiveRender where
  grows n before after := after.tally = before.tally + UInt32.ofNat n
  refl _ := (UInt32.add_zero _).symm
  trans first next := by rw [next, first, UInt32.add_assoc, ← UInt32.ofNat_add]

/-- From a session that is ready an effect comes to its end and leaves one, and it counts `low`
    tiles at least and `high` at most. -/
def Ends {α : Type} (i : Nat) (target : GraphicsSurface) (m : RenderEffect α) (given : α → Prop)
    (low high : Nat) : Prop :=
  ∀ render, Ready i target render.session → ∃ a later, m render = (.ok a, later) ∧ given a ∧
    Ready i target later.session ∧ tallyMeter.Between low high render later

section Ends

variable {α β : Type} {i slot low high : Nat} {target : GraphicsSurface} {m : RenderEffect α}
  {f : α → RenderEffect β} {given : α → Prop} {given' : β → Prop}

theorem Ends.pure {a : α} (here : given a) : Ends i target (pure a) given 0 high :=
  fun render ready => ⟨a, render, rfl, here, ready, Meter.between_refl render⟩

theorem Ends.bind (first : Ends i target m given 0 0)
    (next : ∀ a, given a → Ends i target (f a) given' low high) :
    Ends i target (m >>= f) given' low high := by
  intro render ready
  obtain ⟨a, middle, ran, here, ready', none', grown⟩ := first render ready
  obtain ⟨b, last, ran', here', ready'', grown'⟩ := next a here middle ready'
  have both := Meter.between_trans ⟨none', grown⟩ grown'
  rw [Nat.zero_add, Nat.zero_add] at both
  exact ⟨b, last, by rw [Effect.bind_ok ran, ran'], here', ready'', both⟩

theorem onSession_ok {m : GraphicsEffect α} {render : ProgressiveRender} {a : α}
    {later : GraphicsSession} (ran : m render.session = (.ok a, later)) :
    onSession m render = (.ok a, { render with session := later }) := by
  rw [onSession, Effect.zoom, ran]

theorem Ends.onSession {m : GraphicsEffect α}
    (ends : ∀ session, Ready i target session → ∃ a later, m session = (.ok a, later) ∧
      Kept session later ∧ given a) : Ends i target (onSession m) given 0 0 := by
  intro render ready
  obtain ⟨a, later, ran, kept, here⟩ := ends render.session ready
  exact ⟨a, _, onSession_ok ran, here, ready.kept kept, tallyMeter.between_refl render⟩

theorem countFailed_ends : Ends i target countFailed (fun _ => True) 1 1 :=
  fun _ ready => ⟨(), _, rfl, trivial, ready, 1, Nat.le_refl 1, Nat.le_refl 1, by
    simp only [tallyMeter, ProgressiveRender.tally]
    grind⟩

theorem countMissing_ends : Ends i target countMissing (fun _ => True) 1 1 :=
  fun _ ready => ⟨(), _, rfl, trivial, ready, 1, Nat.le_refl 1, Nat.le_refl 1,
    (UInt32.add_assoc _ _ _).symm⟩

theorem countRendered_ends : Ends i target countRendered (fun _ => True) 1 1 :=
  fun _ ready => ⟨(), _, rfl, trivial, ready, 1, Nat.le_refl 1, Nat.le_refl 1, by
    simp only [tallyMeter, ProgressiveRender.tally]
    grind⟩

theorem countIfFailed_ends {m : GraphicsEffect Unit}
    (tries : Effect.Holds (Ready i target) m (fun _ => Ready i target)
      fun stop later => Refused stop ∧ Ready i target later) :
    Ends i target (countIfFailed m) (fun _ => True) 0 1 := by
  intro render ready
  have held := tries render.session ready
  cases ran : m render.session with
  | mk result later =>
    have zoomed : onSession m render = (result, { render with session := later }) := by
      rw [onSession, Effect.zoom, ran]
    rw [countIfFailed, zoomed]
    cases result with
    | ok _ =>
      exact ⟨(), _, rfl, trivial, held.1 _ later ran, tallyMeter.between_refl render⟩
    | error stop =>
      obtain ⟨⟨status, rfl, -⟩, kept⟩ := held.2 stop later ran
      obtain ⟨_, _, same, _, ready', n, more, less, grown⟩ :=
        countFailed_ends { render with session := later } kept
      exact ⟨_, _, same, trivial, ready', n, Nat.zero_le n, less, grown⟩

structure SameShape (surface target : GraphicsSurface) : Prop where
  surfaceId : surface.surfaceId = target.surfaceId
  width : surface.width = target.width
  height : surface.height = target.height

theorem SameShape.clipped {surface : GraphicsSurface} (same : SameShape surface target)
    (xIdx yIdx : UInt16) : tileClipped surface xIdx yIdx = tileClipped target xIdx yIdx := by
  rw [tileClipped, same.width, same.height]
  rfl

theorem surfaceAt_ends : Ends i target (onSession (surfaceAt i)) (SameShape · target) 0 0 :=
  .onSession fun session ready => by
    obtain ⟨surface, at', -, same⟩ := ready.held
    have size := ready.size
    rw [GraphicsSession.surfaceSize, at'] at size
    cases Prod.mk.inj (Option.some.inj size) with
    | intro width height =>
      exact ⟨surface, session, surfaceAt_held at', ready.consistent.kept, same, width, height⟩

theorem tileAt_ends (inside : slot < progressiveTileStates) :
    Ends i target (onSession (tileAt slot)) (fun tile => tile.hasPixels = true →
      ∀ pixels ∈ tile.pixels, TileSized pixels) 0 0 :=
  .onSession fun session ready => by
    obtain ⟨tile, at'⟩ : ∃ tile, session.progressiveTiles[slot]? = some tile :=
      ⟨_, List.getElem?_eq_getElem (ready.consistent.states ▸ inside)⟩
    exact ⟨tile, session, tileAt_held at', ready.consistent.kept, ready.consistent.pictures at'⟩

theorem progressiveTileGet_ends {key : TileKey} (own : key.surfaceId = target.surfaceId)
    (create : Bool) :
    Ends i target (onSession (progressiveTileGet key create)) (fun found =>
      ∀ slot ∈ found, slot < progressiveTileStates) 0 0 :=
  .onSession fun _ ready => progressiveTileGet_finds ready.consistent (own ▸ ready.held) create

theorem tileDecoded_ends (inside : slot < progressiveTileStates)
    {decoded : Attempt (TileState × TilePixels)}
    (sized : ∀ out, decoded = .ok out → TileSized out.2) :
    Ends i target (tileDecoded slot decoded) (fun _ => True) 1 1 := by
  cases decoded with
  | error stop => exact countFailed_ends
  | ok out =>
    refine .bind (.onSession fun session ready => ?_) fun _ (_ : True) => countRendered_ends
    obtain ⟨later, ran, kept⟩ := tileStore_kept ready.consistent inside out.1 (sized out rfl)
    exact ⟨(), later, ran, kept, trivial⟩

variable {out : TileState × TilePixels} {pixels : TilePixels} {area : OutputArea}
  {item : ProgressiveBlock × Bytes} {seen seen' : ProgressiveProgress}

variable {extrapolate : Bool} {state : TileState}

theorem decodeProgressiveTileState_sized {y cb cr : ComponentPass} {difference : Bool}
    (decoded : decodeProgressiveTileState y cb cr extrapolate difference state = .ok out) :
    TileSized out.2 := by
  simp only [decodeProgressiveTileState, bind_eq_ok] at decoded
  obtain ⟨_, -, _, -, _, -, decoded⟩ := decoded
  cases decoded
  exact tileYcbcrToBgra_sized _ _ _

theorem decodeProgressiveUpgradeTile_sized {y cb cr : ComponentUpgrade}
    (decoded : decodeProgressiveUpgradeTile y cb cr extrapolate state = .ok out) :
    TileSized out.2 := by
  simp only [decodeProgressiveUpgradeTile, refuse_else, bind_eq_ok] at decoded
  obtain ⟨-, _, -, _, -, _, -, decoded⟩ := decoded
  cases decoded
  exact tileYcbcrToBgra_sized _ _ _

variable {surface : GraphicsSurface} {region : ProgressiveRegion} {codecContextId : UInt32}

theorem renderTileStages_ends (own : surface.surfaceId = target.surfaceId) (tile : ProgressiveTile)
    (yData cbData crData : Bytes) :
    Ends i target (renderTileStages surface codecContextId region tile yData cbData crData)
      (fun _ => True) 1 1 := by
  unfold renderTileStages
  split
  · exact countFailed_ends
  refine .bind (progressiveTileGet_ends own true) fun found inside => ?_
  cases found with
  | none => exact countFailed_ends
  | some slot =>
    have inside := inside slot rfl
    refine .bind (tileAt_ends inside) fun entry _ => ?_
    split
    · dsimp only
      split
      · exact countMissing_ends
      · exact tileDecoded_ends inside fun _ => decodeProgressiveTileState_sized
    · exact countFailed_ends

theorem renderUpgradeStages_ends (own : surface.surfaceId = target.surfaceId)
    (tile : ProgressiveTileUpgrade) :
    Ends i target (renderUpgradeStages surface codecContextId region tile) (fun _ => True) 1 1 := by
  refine .bind (progressiveTileGet_ends own false) fun found inside => ?_
  cases found with
  | none => exact countMissing_ends
  | some slot =>
    have inside := inside slot rfl
    refine .bind (tileAt_ends inside) fun entry _ => ?_
    split
    · split
      · exact countMissing_ends
      · split
        · exact countFailed_ends
        · exact tileDecoded_ends inside fun _ => decodeProgressiveUpgradeTile_sized
    · exact countMissing_ends

/-- A tile is counted unless its corner lies outside of the surface. -/
def tileCount (target : GraphicsSurface) (tile : TilePrefix) : Nat :=
  if tileClipped target tile.xIdx tile.yIdx then 0 else 1

theorem tileCount_ends {tile : TilePrefix} {stages : GraphicsSurface → RenderEffect Unit}
    (ends : ∀ surface, surface.surfaceId = target.surfaceId →
      Ends i target (stages surface) (fun _ => True) 1 1) :
    Ends i target (do
        let surface ← onSession (surfaceAt i)
        if tileClipped surface tile.xIdx tile.yIdx then pure () else stages surface)
      (fun _ => True) (tileCount target tile) (tileCount target tile) := by
  refine .bind surfaceAt_ends fun surface same => ?_
  rw [same.clipped, tileCount]
  split
  · exact .pure trivial
  · exact ends surface same.surfaceId

theorem progressiveParseRegionRect_yields (data : Bytes) :
    Effect.Yields (progressiveParseRegionRect data) (fun _ => True) Refused := by
  unfold progressiveParseRegionRect
  refine .ite (fun _ => yields_refuse nofun) fun _ => ?_
  refine .bind (readU16Le_yields _) fun _ _ => .bind (readU16Le_yields _) fun _ _ =>
    .bind (readU16Le_yields _) fun _ _ => .bind (readU16Le_yields _) fun _ _ => ?_
  exact .ite (fun _ => yields_refuse nofun) fun _ => .pure trivial

theorem tile_rowsFit (sized : TileSized pixels) (wide : area.width ≤ progressiveTileSize)
    (high : area.height ≤ progressiveTileSize) {left top right bottom : Nat}
    (afterX : area.x ≤ left) (afterY : area.y ≤ top) (beforeX : right ≤ area.x + area.width)
    (beforeY : bottom ≤ area.y + area.height) (across : left < right) (down : top < bottom) :
    RowsFit pixels.bgra.length ((top - area.y) * pixels.stride + (left - area.x) * 4) pixels.stride
      ((right - left) * 4) (bottom - top) := by
  have size : progressiveTileSize = 64 := rfl
  rw [sized.length, sized.stride]
  exact @rowsFit_inside _ 4 _ 64 64 _ _ (by omega) (by omega)

theorem progressiveWriteRect_tries (sized : TileSized pixels)
    (wide : area.width ≤ progressiveTileSize) (high : area.height ≤ progressiveTileSize)
    (index : Nat) :
    Effect.Holds (Ready i target) (progressiveWriteRect i region area pixels index)
      (fun _ => Ready i target) fun stop later => Refused stop ∧ Ready i target later := by
  refine .bind (.lift (progressiveParseRegionRect_yields _) (fun _ _ _ ready => ready)
    fun _ _ refused ready => ⟨refused, ready⟩) fun rect => ?_
  split
  · exact .pure fun _ ready => ready
  dsimp only
  split
  · exact .pure fun _ ready => ready
  rename_i some'
  rw [not_or, Nat.not_le, Nat.not_le] at some'
  intro session ready
  have fit := tile_rowsFit sized wide high (Nat.le_max_left area.x rect.left.toNat)
    (Nat.le_max_left area.y rect.top.toNat) (Nat.min_le_left _ rect.right.toNat)
    (Nat.min_le_left _ rect.bottom.toNat) some'.1 some'.2
  have tries := @surfaceWriteBgra_tries session i _ ready.consistent ready.held
    (max area.x rect.left.toNat) (max area.y rect.top.toNat) _ _ _ _ _ fit false
  refine ⟨fun _ later ran => ?_, fun stop later ran => ?_⟩
  · rw [ran] at tries
    exact ready.kept tries.1
  · rw [ran] at tries
    exact ⟨tries.2 stop rfl, ready.kept tries.1⟩

theorem progressiveWriteRegionTile_ends (sized : TileSized pixels)
    (wide : area.width ≤ progressiveTileSize) (high : area.height ≤ progressiveTileSize) :
    Ends i target (countIfFailed (progressiveWriteRegionTile i region area pixels))
      (fun _ => True) 0 1 := by
  apply countIfFailed_ends
  refine .ite (fun _ => .stop fun _ ready => ⟨refused_returned nofun, ready⟩) fun _ => ?_
  exact .forM fun index _ => progressiveWriteRect_tries sized wide high index

theorem progressiveFlushTile_ends (inside : slot < progressiveTileStates) :
    Ends i target (progressiveFlushTile i codecContextId region slot) (fun _ => True) 0 1 := by
  have got : Ends i target (onSession .get) (fun _ => True) 0 0 :=
    .onSession fun session ready => ⟨session, session, rfl, ready.consistent.kept, trivial⟩
  refine .bind got fun session _ => .bind surfaceAt_ends fun surface _ =>
    .bind (tileAt_ends inside) fun tile picture => ?_
  split
  · exact .pure trivial
  rename_i pixels shown
  split
  · exact .pure trivial
  rename_i fresh
  simp only [Bool.or_eq_true, Bool.not_eq_true', not_or, Bool.not_eq_false] at fresh
  split
  · exact .pure trivial
  · exact progressiveWriteRegionTile_ends (picture fresh.2 pixels shown)
      (Nat.min_le_left _ _) (Nat.min_le_left _ _)

def TileFull (tile : ProgressiveTile) : Prop :=
  tile.yData.isSome ∧ tile.cbData.isSome ∧ tile.crData.isSome

/-- Rendering goes on if a condition holds, and stops as a violation of the protocol if not. -/
abbrev Renders (i : Nat) (target : GraphicsSurface) (m : RenderEffect Unit) (good : Prop)
    (low high : Nat) : Prop :=
  Effect.Settles tallyMeter (fun render => Ready i target render.session) m good
    (.returned .protocolError) low high

theorem Ends.renders {m : RenderEffect Unit} {good : Prop}
    (ends : Ends i target m (fun _ => True) low high) (always : good) :
    Renders i target m good low high := by
  intro render ready
  obtain ⟨a, later, ran, -, ready', grown⟩ := ends render ready
  rw [ran]
  refine ⟨?_, nofun⟩
  rintro _ _ ⟨⟩
  exact ⟨always, ready', grown⟩

theorem progressiveRenderTile_renders (tile : ProgressiveTile) :
    Renders i target (progressiveRenderTile i codecContextId region tile) (TileFull tile)
      (tileCount target tile.toTilePrefix) (tileCount target tile.toTilePrefix) := by
  unfold progressiveRenderTile
  split
  · rename_i yData cbData crData y cb cr
    refine Ends.renders (tileCount_ends fun surface own => ?_) ?_
    · exact renderTileStages_ends own tile yData cbData crData
    · rw [TileFull, y, cb, cr]
      exact ⟨rfl, rfl, rfl⟩
  rename_i lacks
  refine .stops ?_
  rintro ⟨y, cb, cr⟩
  obtain ⟨yData, y⟩ := Option.isSome_iff_exists.mp y
  obtain ⟨cbData, cb⟩ := Option.isSome_iff_exists.mp cb
  obtain ⟨crData, cr⟩ := Option.isSome_iff_exists.mp cr
  exact lacks yData cbData crData y cb cr

/-- A simple or a first tile in a region has the data of its three components. -/
def TileWhole : ProgressiveBlock × Bytes → Prop
  | (block, data) =>
    (block.type = progressiveBlockTileSimple → ∀ tile, progressiveParseTileSimple data = .ok tile →
      TileFull tile) ∧
    (block.type = progressiveBlockTileFirst → ∀ tile, progressiveParseTileFirst data = .ok tile →
      TileFull tile)

/-- Where the tile of a block lies. -/
def blockPlace : ProgressiveBlock × Bytes → Attempt TilePrefix
  | (block, data) =>
    if block.type = progressiveBlockTileSimple then
      (progressiveParseTileSimple data).map (·.toTilePrefix)
    else if block.type = progressiveBlockTileFirst then
      (progressiveParseTileFirst data).map (·.toTilePrefix)
    else (progressiveParseTileUpgrade data).map (·.toTilePrefix)

def blockCount (target : GraphicsSurface) (item : ProgressiveBlock × Bytes) : Nat :=
  match blockPlace item with
  | .ok tile => tileCount target tile
  | .error _ => 0

theorem progressiveRenderBlock_renders
    (counted : progressiveCountTile region item seen = (.ok (), seen')) :
    Renders i target (progressiveRenderBlock i codecContextId region item) (TileWhole item)
      (blockCount target item) (blockCount target item) := by
  obtain ⟨block, data⟩ := item
  have apart : progressiveBlockTileFirst ≠ progressiveBlockTileSimple := by decide
  rw [progressiveCountTile] at counted
  rw [progressiveRenderBlock, blockCount, blockPlace]
  split at counted
  · rename_i simple
    obtain ⟨tile, parsed, -⟩ := Effect.lift_bind_eq_ok.mp counted
    have whole : TileFull tile = TileWhole (block, data) := by
      simp [TileWhole, simple, parsed, apart.symm]
    rw [if_pos simple, if_pos simple, parsed, ← whole]
    exact progressiveRenderTile_renders tile
  rename_i notSimple
  rw [if_neg notSimple, if_neg notSimple]
  split at counted
  · rename_i first
    obtain ⟨tile, parsed, -⟩ := Effect.lift_bind_eq_ok.mp counted
    have whole : TileFull tile = TileWhole (block, data) := by
      simp [TileWhole, first, parsed, apart]
    rw [if_pos first, if_pos first, parsed, ← whole]
    exact progressiveRenderTile_renders tile
  rename_i notFirst
  have whole : TileWhole (block, data) :=
    ⟨fun simple => absurd simple notSimple, fun first => absurd first notFirst⟩
  rw [if_neg notFirst, if_neg notFirst]
  split at counted
  · rename_i upgrade
    obtain ⟨tile, parsed, -⟩ := Effect.lift_bind_eq_ok.mp counted
    rw [if_pos upgrade, parsed]
    exact Ends.renders (tileCount_ends fun _ own => renderUpgradeStages_ends own tile) whole
  · cases congrArg Prod.fst counted

def RegionWhole (region : ProgressiveRegion) : Prop :=
  ∀ item ∈ progressiveBlocks.items region.tiles, TileWhole item

def regionCount (target : GraphicsSurface) (region : ProgressiveRegion) : Nat :=
  ((progressiveBlocks.items region.tiles).map (blockCount target)).sum

theorem progressiveRenderRegion_renders
    (counted : progressiveCountRegionTiles region seen = (.ok (), seen')) :
    Renders i target (progressiveRenderRegion i codecContextId region) (RegionWhole region)
      (regionCount target region) (regionCount target region) := by
  obtain ⟨_, started, -, counted⟩ := Effect.bind_eq_ok.mp counted
  obtain ⟨_, walked, ran, -⟩ := Effect.bind_eq_ok.mp counted
  exact Reader.settles_walk ran fun _ _ _ took => progressiveRenderBlock_renders took

theorem progressiveFlushRegion_renders (region : ProgressiveRegion) :
    Renders i target (progressiveFlushRegion i codecContextId region)
      (∀ slot ∈ List.range progressiveTileStates, True) 0 progressiveTileStates := by
  have shown (slot : Nat) (inside : slot ∈ List.range progressiveTileStates) :
      Renders i target (progressiveFlushTile i codecContextId region slot) True 0 1 :=
    (progressiveFlushTile_ends (List.mem_range.mp inside)).renders trivial
  simpa [progressiveFlushRegion] using Effect.Settles.forM shown

def BlockWhole : ProgressiveBlock × Bytes → Prop
  | (block, data) => block.type = progressiveBlockRegion →
    ∀ region, progressiveParseRegion data = .ok region → RegionWhole region

def streamBlockCount (target : GraphicsSurface) : ProgressiveBlock × Bytes → Nat
  | (block, data) =>
    if block.type = progressiveBlockRegion then
      match progressiveParseRegion data with
      | .ok region => regionCount target region
      | .error _ => 0
    else 0

def regionShown (item : ProgressiveBlock × Bytes) : Nat :=
  if item.1.type = progressiveBlockRegion then progressiveTileStates else 0

theorem progressiveStreamBlock_renders (took : progressiveTakeBlock item seen = (.ok (), seen')) :
    Renders i target (progressiveStreamBlock i codecContextId item) (BlockWhole item)
      (streamBlockCount target item) (streamBlockCount target item + regionShown item) := by
  obtain ⟨block, data⟩ := item
  rw [progressiveStreamBlock, streamBlockCount, regionShown]
  split
  · rename_i isRegion
    obtain ⟨_, noted, -, took⟩ := Effect.bind_eq_ok.mp took
    rw [progressiveCheckBlock, Effect.get_bind] at took
    have others : block.type ≠ progressiveBlockSync ∧ block.type ≠ progressiveBlockContext ∧
        block.type ≠ progressiveBlockFrameBegin ∧ block.type ≠ progressiveBlockFrameEnd := by
      rw [isRegion]
      decide
    rw [if_neg others.1, if_neg others.2.1, if_neg others.2.2.1, if_neg others.2.2.2,
      if_pos isRegion] at took
    split at took
    · cases congrArg Prod.fst took
    obtain ⟨region, parsed, took⟩ := Effect.lift_bind_eq_ok.mp took
    obtain ⟨_, counted, count, -⟩ := Effect.bind_eq_ok.mp took
    have whole : (RegionWhole region ∧ ∀ slot ∈ List.range progressiveTileStates, True) =
        BlockWhole (block, data) := by
      simp [BlockWhole, isRegion, parsed]
    rw [parsed, ← whole]
    exact (progressiveRenderRegion_renders count).bind fun _ _ =>
      progressiveFlushRegion_renders region
  · rename_i other
    exact Ends.renders (.pure trivial) fun isRegion => absurd isRegion other

/-- No simple and no first tile of a stream lacks the data of a component. -/
def StreamWhole (data : Bytes) : Prop := ∀ item ∈ progressiveBlocks.items data, BlockWhole item

/-- The tiles in the regions of a stream whose corners lie on a surface. -/
def streamCount (target : GraphicsSurface) (data : Bytes) : Nat :=
  ((progressiveBlocks.items data).map (streamBlockCount target)).sum

def streamRegions (data : Bytes) : Nat :=
  (progressiveBlocks.items data).countP fun item => item.1.type = progressiveBlockRegion

theorem regionShown_sum (items : List (ProgressiveBlock × Bytes)) :
    (items.map regionShown).sum =
      progressiveTileStates * items.countP fun item => item.1.type = progressiveBlockRegion := by
  induction items with
  | nil => rfl
  | cons item items ih =>
    rw [List.map_cons, List.sum_cons, ih, List.countP_cons, regionShown]
    split <;> simp_all [Nat.mul_add, Nat.add_comm]

theorem progressiveRenderStream_renders {data : Bytes} {stream : ProgressiveStream}
    (valid : progressiveParseStream data = .ok stream) :
    Renders i target (progressiveRenderStream i codecContextId data) (StreamWhole data)
      (streamCount target data)
      (streamCount target data + progressiveTileStates * streamRegions data) := by
  unfold progressiveParseStream at valid
  split at valid
  · cases valid
  split at valid
  · cases valid
  rename_i seen ran
  have settled := Reader.settles_walk ran fun _ _ _ took =>
    @progressiveStreamBlock_renders i target _ _ _ codecContextId took
  rw [List.sum_map_add, regionShown_sum] at settled
  exact settled

end Ends

end LibRdp.Client
