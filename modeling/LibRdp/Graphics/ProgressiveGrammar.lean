import LibRdp.Graphics.ProgressiveBlocks

/-! # The grammar of progressive streams

A stream is accepted if and only if it is what the writers write for a frame: a sync block and a
context that may be missing, the block that announces the regions, that many regions with as many
tiles as they say, and the block that ends the frame. What is returned then counts the frame.
-/

namespace LibRdp.Graphics

open Machine

abbrev ProgressiveArea := ProgressiveRegion × List ProgressiveTileBlock

def ProgressiveArea.block (area : ProgressiveArea) : ProgressiveStreamBlock :=
  .region area.1 area.2

def ProgressiveProgress.Ended (seen : ProgressiveProgress) : Prop :=
  ¬ (seen.frameActive || !seen.frameDone || seen.regionsSeen != seen.regionsExpected) = true

def runBlocks (blocks : List ProgressiveStreamBlock) (seen : ProgressiveProgress) :
    ProgressiveProgress :=
  blocks.foldl (fun seen block => block.after seen) seen

def Accepted (blocks : List ProgressiveStreamBlock) (seen : ProgressiveProgress) : Prop :=
  Reader.Passes (fun block seen => block.Good ∧ block.Allowed seen) ProgressiveStreamBlock.after
    blocks seen ∧ (runBlocks blocks seen).Ended

section Accepted

variable {block : ProgressiveStreamBlock} {blocks : List ProgressiveStreamBlock}
  {seen : ProgressiveProgress}

theorem accepted_cons : Accepted (block :: blocks) seen ↔
    (block.Good ∧ block.Allowed seen) ∧ Accepted blocks (block.after seen) := and_assoc

theorem accepted_ended (ended : seen.Ended) : Accepted blocks seen ↔ blocks = [] := by
  constructor
  · intro accepted
    cases blocks with
    | nil => rfl
    | cons block blocks =>
      obtain ⟨⟨-, allowed⟩, -⟩ := accepted_cons.mp accepted
      simp only [ProgressiveProgress.Ended, Bool.or_eq_true, not_or, Bool.not_eq_true,
        Bool.not_eq_false'] at ended
      obtain ⟨⟨idle, done⟩, -⟩ := ended
      cases block <;> simp [ProgressiveStreamBlock.Allowed, idle, done] at allowed
  · rintro rfl
    exact ⟨trivial, ended⟩

theorem region_counts {region : ProgressiveRegion} {tiles : List ProgressiveTileBlock}
    (allowed : (ProgressiveStreamBlock.region region tiles).Allowed seen) :
    (seen.regionsSeen + 1).toNat = seen.regionsSeen.toNat + 1 ∧
      (seen.tileCount + UInt32.ofNat tiles.length).toNat = seen.tileCount.toNat + tiles.length := by
  obtain ⟨open', room⟩ := allowed
  have most : (progressiveMaxTiles : UInt32).toNat = 4096 := rfl
  simp only [Bool.or_eq_true, decide_eq_true_eq, not_or, UInt32.not_le,
    UInt32.lt_iff_toNat_lt] at open'
  have small := seen.regionsExpected.toNat_lt
  have length : (UInt32.ofNat tiles.length).toNat = tiles.length :=
    UInt32.toNat_ofNat_of_lt' (by change tiles.length < 4294967296; omega)
  have one : (1 : UInt32).toNat = 1 := rfl
  rw [UInt32.toNat_add, UInt32.toNat_add, length, one]
  constructor <;> apply Nat.mod_eq_of_lt <;> omega

theorem accepted_active (active : seen.frameActive = true)
    (room : seen.tileCount.toNat ≤ progressiveMaxTiles.toNat) : Accepted blocks seen ↔
    ∃ areas : List ProgressiveArea,
      blocks = areas.map (·.block) ++ [.frameEnd] ∧ (∀ area ∈ areas, area.block.Good) ∧
        seen.regionsSeen.toNat + areas.length = seen.regionsExpected.toNat ∧
        seen.tileCount.toNat + (areas.flatMap (·.2)).length ≤ progressiveMaxTiles.toNat := by
  induction blocks generalizing seen with
  | nil =>
    constructor
    · intro accepted
      have ended := accepted.2
      simp [ProgressiveProgress.Ended, runBlocks, active] at ended
    · rintro ⟨areas, same, _⟩
      simp at same
  | cons block blocks ih =>
    rw [accepted_cons]
    constructor
    · rintro ⟨⟨good, allowed⟩, later⟩
      cases block with
      | sync | context _ | frameBegin _ => simp [ProgressiveStreamBlock.Allowed, active] at allowed
      | frameEnd =>
        simp only [ProgressiveStreamBlock.Allowed, Bool.or_eq_true, not_or, bne_iff_ne, ne_eq,
          not_not] at allowed
        have ended : (ProgressiveStreamBlock.after .frameEnd seen).Ended := by
          simp [ProgressiveStreamBlock.after, ProgressiveStreamBlock.note,
            ProgressiveProgress.Ended, allowed.2]
        refine ⟨[], ?_, List.forall_mem_nil _, ?_, room⟩
        · rw [(accepted_ended ended).mp later]
          rfl
        · rw [allowed.2]
          rfl
      | region region tiles =>
        obtain ⟨regions, tileCount⟩ := region_counts allowed
        have active' : ((ProgressiveStreamBlock.region region tiles).after seen).frameActive =
            true := active
        have room' : (seen.tileCount + UInt32.ofNat tiles.length).toNat ≤
            progressiveMaxTiles.toNat := tileCount ▸ allowed.2
        obtain ⟨areas, rfl, goods, all, few⟩ := (ih active' room').mp later
        refine ⟨(region, tiles) :: areas, rfl, List.forall_mem_cons.mpr ⟨good, goods⟩, ?_, ?_⟩
        · change (seen.regionsSeen + 1).toNat + _ = seen.regionsExpected.toNat at all
          rw [List.length_cons]
          omega
        · change (seen.tileCount + UInt32.ofNat tiles.length).toNat + _ ≤ _ at few
          simp only [List.flatMap_cons, List.length_append]
          omega
    · rintro ⟨areas, whole, goods, all, few⟩
      cases areas with
      | nil =>
        cases whole
        have same : seen.regionsSeen = seen.regionsExpected := UInt32.toNat_inj.mp all
        refine ⟨⟨⟨trivial, trivial⟩, ?_⟩, (accepted_ended ?_).mpr rfl⟩
        · simp [ProgressiveStreamBlock.Allowed, active, same]
        · simp [ProgressiveStreamBlock.after, ProgressiveStreamBlock.note,
            ProgressiveProgress.Ended, same]
      | cons area areas =>
        obtain ⟨region, tiles⟩ := area
        cases whole
        obtain ⟨good, goods⟩ := List.forall_mem_cons.mp goods
        rw [List.length_cons] at all
        simp only [List.flatMap_cons, List.length_append] at few
        have allowed : (ProgressiveStreamBlock.region region tiles).Allowed seen := by
          refine ⟨?_, by omega⟩
          simp only [active, Bool.not_true, Bool.false_or, decide_eq_true_eq, UInt32.not_le,
            UInt32.lt_iff_toNat_lt]
          omega
        obtain ⟨regions, tileCount⟩ := region_counts allowed
        have active' : ((ProgressiveStreamBlock.region region tiles).after seen).frameActive =
            true := active
        have room' : (seen.tileCount + UInt32.ofNat tiles.length).toNat ≤
            progressiveMaxTiles.toNat := tileCount ▸ allowed.2
        refine ⟨⟨good, allowed⟩, (ih active' room').mpr ⟨areas, rfl, goods, ?_, ?_⟩⟩
        · change (seen.regionsSeen + 1).toNat + _ = seen.regionsExpected.toNat
          omega
        · change (seen.tileCount + UInt32.ofNat tiles.length).toNat + _ ≤ _
          omega

structure ProgressiveProgress.Fresh (seen : ProgressiveProgress) : Prop where
  idle : seen.frameActive = false
  undone : seen.frameDone = false
  unopened : seen.hasFrameBegin = false
  regions : seen.regionsSeen = 0
  tiles : seen.tileCount = 0

end Accepted

structure ProgressiveFrame where
  sync : Bool
  context : Option ProgressiveContext
  frameBegin : ProgressiveFrameBegin
  areas : List ProgressiveArea
  deriving Repr, DecidableEq

namespace ProgressiveFrame

def body (frame : ProgressiveFrame) : List ProgressiveStreamBlock :=
  .frameBegin frame.frameBegin :: (frame.areas.map (·.block) ++ [.frameEnd])

def rest (frame : ProgressiveFrame) : List ProgressiveStreamBlock :=
  frame.context.toList.map .context ++ frame.body

def blocks (frame : ProgressiveFrame) : List ProgressiveStreamBlock :=
  (if frame.sync then [.sync] else []) ++ frame.rest

def tiles (frame : ProgressiveFrame) : List ProgressiveTileBlock := frame.areas.flatMap (·.2)

structure Announced (frame : ProgressiveFrame) : Prop where
  regions : frame.frameBegin.regionCount.toNat = frame.areas.length
  tiles : frame.tiles.length ≤ progressiveMaxTiles.toNat

end ProgressiveFrame

section Frames

variable {blocks : List ProgressiveStreamBlock} {seen : ProgressiveProgress}
  {frameBegin : ProgressiveFrameBegin}

theorem accepted_frameBegin (fresh : seen.Fresh) : Accepted (.frameBegin frameBegin :: blocks) seen ↔
    ∃ frame : ProgressiveFrame, .frameBegin frameBegin :: blocks = frame.body ∧
      (∀ block ∈ frame.body, block.Good) ∧ frame.Announced := by
  have active : ((ProgressiveStreamBlock.frameBegin frameBegin).after seen).frameActive = true := rfl
  have none : ((ProgressiveStreamBlock.frameBegin frameBegin).after seen).tileCount.toNat = 0 :=
    congrArg UInt32.toNat fresh.tiles
  have first : ((ProgressiveStreamBlock.frameBegin frameBegin).after seen).regionsSeen.toNat = 0 :=
    congrArg UInt32.toNat fresh.regions
  have expected : ((ProgressiveStreamBlock.frameBegin frameBegin).after seen).regionsExpected.toNat =
      frameBegin.regionCount.toNat := UInt16.toNat_toUInt32 _
  have allowed : (ProgressiveStreamBlock.frameBegin frameBegin).Allowed seen := by
    simp [ProgressiveStreamBlock.Allowed, fresh.idle, fresh.undone, fresh.unopened]
  rw [accepted_cons, accepted_active active (by rw [none]; exact Nat.zero_le _), first, none,
    expected]
  simp only [Nat.zero_add]
  constructor
  · rintro ⟨⟨good, -⟩, areas, rfl, goods, all, few⟩
    refine ⟨⟨false, .none, frameBegin, areas⟩, rfl, ?_, all.symm, few⟩
    intro block held
    simp only [ProgressiveFrame.body, List.mem_cons, List.mem_append, List.mem_map,
      List.not_mem_nil, or_false] at held
    obtain rfl | ⟨area, inside, rfl⟩ | rfl := held
    · exact good
    · exact goods area inside
    · exact ⟨trivial, trivial⟩
  · rintro ⟨frame, whole, goods, announced⟩
    obtain ⟨same, rfl⟩ := List.cons.inj whole
    cases same
    refine ⟨⟨goods _ List.mem_cons_self, allowed⟩, frame.areas, rfl, ?_, announced.regions.symm,
      announced.tiles⟩
    intro area inside
    exact goods _ (.tail _ (List.mem_append_left _ (List.mem_map_of_mem inside)))

theorem accepted_body (fresh : seen.Fresh) (context : seen.hasContext = true)
    (late : seen.blockCount + 1 ≠ 1) : Accepted blocks seen ↔
      ∃ frame : ProgressiveFrame, blocks = frame.body ∧ (∀ block ∈ frame.body, block.Good) ∧
        frame.Announced := by
  constructor
  · intro accepted
    cases blocks with
    | nil =>
      have ended := accepted.2
      simp [ProgressiveProgress.Ended, runBlocks, fresh.undone] at ended
    | cons block blocks =>
      obtain ⟨⟨good, allowed⟩, -⟩ := accepted_cons.mp accepted
      cases block with
      | sync => simp [ProgressiveStreamBlock.Allowed, late] at allowed
      | context | region | frameEnd =>
        simp [ProgressiveStreamBlock.Allowed, context, fresh.idle] at allowed
      | frameBegin frameBegin => exact (accepted_frameBegin fresh).mp accepted
  · rintro ⟨frame, rfl, goods, announced⟩
    exact (accepted_frameBegin fresh).mpr ⟨frame, rfl, goods, announced⟩

theorem accepted_rest (fresh : seen.Fresh) (missing : seen.hasContext = false)
    (late : seen.blockCount + 1 + 1 ≠ 1) (behind : ∀ later, blocks ≠ .sync :: later) :
    Accepted blocks seen ↔ ∃ frame : ProgressiveFrame, blocks = frame.rest ∧
      (∀ block ∈ frame.rest, block.Good) ∧ frame.Announced := by
  have allowed (context : ProgressiveContext) :
      (ProgressiveStreamBlock.context context).Allowed seen := by
    simp [ProgressiveStreamBlock.Allowed, missing, fresh.idle, fresh.undone]
  have next (context : ProgressiveContext) (blocks : List ProgressiveStreamBlock) :=
    @accepted_body blocks ((ProgressiveStreamBlock.context context).after seen)
      ⟨fresh.idle, fresh.undone, fresh.unopened, fresh.regions, fresh.tiles⟩ rfl late
  constructor
  · intro accepted
    cases blocks with
    | nil =>
      have ended := accepted.2
      simp [ProgressiveProgress.Ended, runBlocks, fresh.undone] at ended
    | cons block blocks =>
      obtain ⟨⟨good, here⟩, later⟩ := accepted_cons.mp accepted
      cases block with
      | sync => exact absurd rfl (behind blocks)
      | region | frameEnd => simp [ProgressiveStreamBlock.Allowed, fresh.idle] at here
      | context context =>
        obtain ⟨frame, rfl, goods, announced⟩ := (next context blocks).mp later
        exact ⟨{ frame with context := some context }, rfl,
          List.forall_mem_cons.mpr ⟨good, goods⟩, announced.regions, announced.tiles⟩
      | frameBegin frameBegin =>
        obtain ⟨frame, whole, goods, announced⟩ := (accepted_frameBegin fresh).mp accepted
        exact ⟨{ frame with context := none }, whole, goods, announced.regions, announced.tiles⟩
  · rintro ⟨⟨sync, context, frameBegin, areas⟩, rfl, goods, announced⟩
    cases context with
    | none => exact (accepted_frameBegin fresh).mpr ⟨_, rfl, goods, announced⟩
    | some context =>
      obtain ⟨good, goods⟩ := List.forall_mem_cons.mp goods
      exact accepted_cons.mpr ⟨⟨good, allowed context⟩,
        (next context _).mpr ⟨_, rfl, goods, announced⟩⟩

theorem ProgressiveFrame.rest_ne_sync (frame : ProgressiveFrame)
    (later : List ProgressiveStreamBlock) : frame.rest ≠ .sync :: later := by
  obtain ⟨sync, context, frameBegin, areas⟩ := frame
  cases context <;> nofun

theorem accepted_start : Accepted blocks {} ↔
    ∃ frame : ProgressiveFrame, blocks = frame.blocks ∧ (∀ block ∈ frame.blocks, block.Good) ∧
      frame.Announced := by
  have start (behind : ∀ later, blocks ≠ .sync :: later) :=
    @accepted_rest blocks {} ⟨rfl, rfl, rfl, rfl, rfl⟩ rfl (by decide) behind
  have synced (blocks : List ProgressiveStreamBlock) (behind : ∀ later, blocks ≠ .sync :: later) :=
    @accepted_rest blocks (ProgressiveStreamBlock.after .sync {}) ⟨rfl, rfl, rfl, rfl, rfl⟩ rfl
      (by decide) behind
  constructor
  · intro accepted
    by_cases first : ∃ later, blocks = .sync :: later
    · obtain ⟨blocks, rfl⟩ := first
      obtain ⟨⟨good, -⟩, later⟩ := accepted_cons.mp accepted
      have behind : ∀ more, blocks ≠ .sync :: more := by
        rintro more rfl
        obtain ⟨⟨-, allowed⟩, -⟩ := accepted_cons.mp later
        simp [ProgressiveStreamBlock.Allowed, ProgressiveStreamBlock.after,
          ProgressiveStreamBlock.note] at allowed
      obtain ⟨frame, rfl, goods, announced⟩ := (synced blocks behind).mp later
      exact ⟨{ frame with sync := true }, rfl, List.forall_mem_cons.mpr ⟨good, goods⟩,
        announced.regions, announced.tiles⟩
    · obtain ⟨frame, rfl, goods, announced⟩ := (start (not_exists.mp first)).mp accepted
      exact ⟨{ frame with sync := false }, rfl, goods, announced.regions, announced.tiles⟩
  · rintro ⟨⟨sync, context, frameBegin, areas⟩, rfl, goods, announced⟩
    cases sync with
    | false => exact (start (ProgressiveFrame.rest_ne_sync _)).mpr ⟨_, rfl, goods, announced⟩
    | true =>
      obtain ⟨good, goods⟩ := List.forall_mem_cons.mp goods
      refine accepted_cons.mpr ⟨⟨good, ?_⟩,
        (synced _ (ProgressiveFrame.rest_ne_sync _)).mpr ⟨_, rfl, goods, announced⟩⟩
      simp [ProgressiveStreamBlock.Allowed]

end Frames

structure ProgressiveFrame.Counts (frame : ProgressiveFrame) (out : ProgressiveStream) : Prop where
  blocks : out.blockCount.toNat = frame.blocks.length
  knownBlocks : out.knownBlockCount.toNat = frame.blocks.length
  regions : out.regionCount.toNat = frame.areas.length
  tiles : out.tileCount.toNat = frame.tiles.length
  simple : out.simpleTileCount.toNat = frame.tiles.countP (·.isSimple)
  first : out.firstTileCount.toNat = frame.tiles.countP (·.isFirst)
  upgrade : out.upgradeTileCount.toNat = frame.tiles.countP (·.isUpgrade)
  sync : out.hasSync = frame.sync
  context : out.hasContext = frame.context.isSome
  closed : out.hasFrameBegin = true ∧ out.hasFrameEnd = true
  tileSize : out.tileSize = (frame.context.map (·.tileSize.toUInt8)).getD 0
  flags : out.flags = (frame.context.map (·.flags)).getD 0

section Counts

theorem runBlocks_blockCount (blocks : List ProgressiveStreamBlock) (seen : ProgressiveProgress) :
    (runBlocks blocks seen).blockCount = seen.blockCount + UInt32.ofNat blocks.length ∧
      (runBlocks blocks seen).knownBlockCount =
        seen.knownBlockCount + UInt32.ofNat blocks.length := by
  induction blocks generalizing seen with
  | nil => exact ⟨(UInt32.add_zero _).symm, (UInt32.add_zero _).symm⟩
  | cons block blocks ih =>
    have step : (block.after seen).blockCount = seen.blockCount + 1 ∧
        (block.after seen).knownBlockCount = seen.knownBlockCount + 1 := by
      cases block <;> exact ⟨rfl, rfl⟩
    obtain ⟨all, known⟩ := ih (block.after seen)
    rw [step.1] at all
    rw [step.2] at known
    rw [List.length_cons, Nat.add_comm, UInt32.ofNat_add, ← UInt32.add_assoc, ← UInt32.add_assoc]
    exact ⟨all, known⟩

/-- All regions of a frame are counted; only the last one is remembered in `tilesSeen`. -/
theorem runBlocks_areas (areas : List ProgressiveArea) (seen : ProgressiveProgress) :
    ∃ last, runBlocks (areas.map (·.block)) seen =
      { seen.withTiles (areas.flatMap (·.2)) with
        blockCount := seen.blockCount + UInt32.ofNat areas.length
        knownBlockCount := seen.knownBlockCount + UInt32.ofNat areas.length
        tileCount := seen.tileCount + UInt32.ofNat (areas.flatMap (·.2)).length
        regionsSeen := seen.regionsSeen + UInt32.ofNat areas.length
        tilesSeen := last } := by
  induction areas generalizing seen with
  | nil => exact ⟨seen.tilesSeen, by simp [runBlocks, ProgressiveProgress.withTiles]⟩
  | cons area areas ih =>
    obtain ⟨last, ran⟩ := ih (area.block.after seen)
    refine ⟨last, ran.trans ?_⟩
    simp [ProgressiveArea.block, ProgressiveStreamBlock.after, ProgressiveStreamBlock.note,
      ProgressiveProgress.withRegion, ProgressiveProgress.withTiles, UInt32.ofNat_add,
      UInt32.add_assoc, UInt32.add_comm]

def ProgressiveFrame.opened (frame : ProgressiveFrame) : ProgressiveProgress :=
  (ProgressiveStreamBlock.frameBegin frame.frameBegin).after
    (runBlocks ((if frame.sync then [.sync] else []) ++ frame.context.toList.map .context) {})

theorem runBlocks_counts {frame : ProgressiveFrame} (announced : frame.Announced) :
    frame.Counts (runBlocks frame.blocks {}).toProgressiveStream := by
  have most : (progressiveMaxTiles : UInt32).toNat = 4096 := rfl
  have few := announced.tiles
  have exact' {n : Nat} (small : n ≤ frame.tiles.length) : (0 + UInt32.ofNat n).toNat = n := by
    rw [UInt32.zero_add]
    exact UInt32.toNat_ofNat_of_lt' (by change n < 4294967296; omega)
  have length : frame.blocks.length ≤ frame.areas.length + 4 := by
    obtain ⟨sync, context, frameBegin, areas⟩ := frame
    cases sync <;> cases context <;>
      simp [ProgressiveFrame.blocks, ProgressiveFrame.rest, ProgressiveFrame.body]
  have regions : frame.areas.length < 65536 := announced.regions ▸ frame.frameBegin.regionCount.toNat_lt
  have counted : (0 + UInt32.ofNat frame.blocks.length).toNat = frame.blocks.length := by
    rw [UInt32.zero_add]
    exact UInt32.toNat_ofNat_of_lt' (by change frame.blocks.length < 4294967296; omega)
  obtain ⟨all, known⟩ := runBlocks_blockCount frame.blocks {}
  obtain ⟨last, ran⟩ := runBlocks_areas frame.areas frame.opened
  have whole : runBlocks frame.blocks {} =
      ProgressiveStreamBlock.frameEnd.after (runBlocks (frame.areas.map (·.block)) frame.opened) := by
    simp only [runBlocks, ProgressiveFrame.blocks, ProgressiveFrame.rest, ProgressiveFrame.body,
      List.foldl_append, List.foldl_cons, List.foldl_nil, ProgressiveFrame.opened]
  have none : frame.opened.tileCount = 0 ∧ frame.opened.simpleTileCount = 0 ∧
      frame.opened.firstTileCount = 0 ∧ frame.opened.upgradeTileCount = 0 ∧
      frame.opened.regionCount = 0 + frame.frameBegin.regionCount.toUInt32 ∧
      frame.opened.hasSync = frame.sync ∧ frame.opened.hasContext = frame.context.isSome ∧
      frame.opened.tileSize = (frame.context.map (·.tileSize.toUInt8)).getD 0 ∧
      frame.opened.flags = (frame.context.map (·.flags)).getD 0 := by
    obtain ⟨sync, context, frameBegin, areas⟩ := frame
    cases sync <;> cases context <;> exact ⟨rfl, rfl, rfl, rfl, rfl, rfl, rfl, rfl, rfl⟩
  obtain ⟨tiles, simple, first, upgrade, regionCount, sync, context, tileSize, flags⟩ := none
  have tileCount := exact' (Nat.le_refl frame.tiles.length)
  have simples := exact' (@List.countP_le_length _ (·.isSimple) frame.tiles)
  have firsts := exact' (@List.countP_le_length _ (·.isFirst) frame.tiles)
  have upgrades := exact' (@List.countP_le_length _ (·.isUpgrade) frame.tiles)
  rw [← tiles] at tileCount
  rw [← simple] at simples
  rw [← first] at firsts
  rw [← upgrade] at upgrades
  refine ⟨(congrArg UInt32.toNat all).trans counted, (congrArg UInt32.toNat known).trans counted,
    ?_, ?_, ?_, ?_, ?_, ?_, ?_, ⟨?_, ?_⟩, ?_, ?_⟩ <;> rw [whole, ran]
  · change frame.opened.regionCount.toNat = _
    rw [regionCount, UInt32.zero_add, UInt16.toNat_toUInt32, announced.regions]
  · exact tileCount
  · exact simples
  · exact firsts
  · exact upgrades
  · exact sync
  · exact context
  · rfl
  · rfl
  · exact tileSize
  · exact flags

end Counts

/-- `rdp_graphics_progressive_parse_stream`: the status, and what is in the caller's record. -/
def progressiveParseStreamInto (data : Bytes) (stream : ProgressiveStream) :
    Status × ProgressiveStream :=
  match progressiveParseStream data with
  | .ok parsed => (.ok, parsed)
  | .error _ => (.protocolError, stream)

/-- Write one value after the other, up to the first that is not written. -/
def writeEach {α : Type} (write : Bytes → α → Status × Bytes) (buffer : Bytes) :
    List α → Status × Bytes
  | [] => (.ok, buffer)
  | value :: values =>
      match write buffer value with
      | (.ok, buffer) => writeEach write buffer values
      | refused => refused

def ProgressiveFrame.write (frame : ProgressiveFrame) (buffer : Bytes) : Status × Bytes :=
  writeEach ProgressiveStreamBlock.write buffer frame.blocks

/-- A frame says what it holds: as many regions as announced, and in every region as many tiles as
    it counts, written as its data and with quantisers that the region has. -/
structure ProgressiveFrame.Consistent (frame : ProgressiveFrame) : Prop
    extends frame.Announced where
  written : ∀ area ∈ frame.areas,
    writeEach ProgressiveTileBlock.write [] area.2 = (.ok, area.1.tiles)
  count : ∀ area ∈ frame.areas, area.2.length = area.1.tileCount.toNat
  fit : ∀ area ∈ frame.areas, ∀ tile ∈ area.2, tile.Fits area.1

section Streams

variable {data buffer out : Bytes}

theorem writeEach_eq_ok {α : Type} {write : Bytes → α → Status × Bytes} {good : α → Prop}
    {bytes : α → Bytes}
    (each : ∀ buffer out value, write buffer value = (.ok, out) ↔
      good value ∧ out = buffer ++ bytes value) {values : List α} :
    writeEach write buffer values = (.ok, out) ↔
      (∀ value ∈ values, good value) ∧ out = buffer ++ values.flatMap bytes := by
  induction values generalizing buffer with
  | nil => simp [writeEach, eq_comm]
  | cons value values ih =>
    rw [List.forall_mem_cons, List.flatMap_cons, writeEach]
    constructor
    · intro written
      split at written
      · rename_i next first
        obtain ⟨here, rfl⟩ := (each _ _ _).mp first
        obtain ⟨later, rfl⟩ := ih.mp written
        exact ⟨⟨here, later⟩, List.append_assoc _ _ _⟩
      · rename_i refused
        exact absurd written (refused out)
    · rintro ⟨⟨here, later⟩, rfl⟩
      rw [(each _ _ _).mpr ⟨here, rfl⟩]
      exact ih.mpr ⟨later, (List.append_assoc _ _ _).symm⟩

theorem ProgressiveTileBlock.write_eq_ok {tile : ProgressiveTileBlock} :
    tile.write buffer = (.ok, out) ↔
      tile.payload.length ≤ 0xffffffff - 6 ∧ out = buffer ++ tile.bytes := by
  rw [tile.write_eq, progressiveWriteBlock_eq_ok]
  rfl

theorem progressiveWriteTiles_eq_ok {tiles : List ProgressiveTileBlock} :
    writeEach ProgressiveTileBlock.write buffer tiles = (.ok, out) ↔
      (∀ tile ∈ tiles, tile.payload.length ≤ 0xffffffff - 6) ∧
        out = buffer ++ tiles.flatMap ProgressiveTileBlock.bytes :=
  writeEach_eq_ok fun _ _ tile => @ProgressiveTileBlock.write_eq_ok _ _ tile

theorem ProgressiveFrame.write_eq_ok {frame : ProgressiveFrame} :
    frame.write buffer = (.ok, out) ↔ (∀ block ∈ frame.blocks, block.Writable) ∧
      out = buffer ++ frame.blocks.flatMap ProgressiveStreamBlock.bytes :=
  writeEach_eq_ok fun _ _ block => @ProgressiveStreamBlock.write_eq_ok _ _ block

theorem ProgressiveFrame.mem_blocks (frame : ProgressiveFrame) {area : ProgressiveArea} :
    area.block ∈ frame.blocks ↔ area ∈ frame.areas := by
  have same {other : ProgressiveArea} : other.block = area.block ↔ other = area := by
    simp [ProgressiveArea.block, Prod.ext_iff]
  obtain ⟨sync, context, frameBegin, areas⟩ := frame
  cases sync <;> cases context <;>
    simp [blocks, rest, body, same] <;> simp [ProgressiveArea.block]

theorem frame_good (frame : ProgressiveFrame) :
    (∀ block ∈ frame.blocks, block.Good) ∧ frame.Announced ↔
      (∀ block ∈ frame.blocks, block.Writable) ∧ frame.Consistent := by
  constructor
  · rintro ⟨goods, announced⟩
    have has : ∀ area ∈ frame.areas, area.1.HasTiles area.2 := by
      intro area inside
      exact (goods area.block (frame.mem_blocks.mpr inside)).2
    refine ⟨fun block held => (goods block held).1, announced, ?_, ?_, ?_⟩
    · intro area inside
      refine progressiveWriteTiles_eq_ok.mpr ⟨?_, (has area inside).written⟩
      intro tile held
      exact ProgressiveTileBlock.short ((has area inside).fit tile held).components
    · exact fun area inside => (has area inside).count
    · exact fun area inside => (has area inside).fit
  · rintro ⟨writable, consistent⟩
    refine ⟨fun block held => ⟨writable block held, ?_⟩, consistent.toAnnounced⟩
    cases block with
    | sync | context | frameBegin | frameEnd => trivial
    | region region tiles =>
      have inside : (region, tiles) ∈ frame.areas := frame.mem_blocks.mp held
      exact ⟨(progressiveWriteTiles_eq_ok.mp (consistent.written _ inside)).2,
        consistent.count _ inside, consistent.fit _ inside⟩

theorem progressiveParseStream_eq_ok {stream : ProgressiveStream} :
    progressiveParseStream data = .ok stream ↔ ∃ blocks,
      data = blocks.flatMap ProgressiveStreamBlock.bytes ∧ Accepted blocks {} ∧
        stream = (runBlocks blocks {}).toProgressiveStream := by
  unfold progressiveParseStream
  constructor
  · intro parsed
    split at parsed
    · cases parsed
    cases ran : progressiveBlocks.walk progressiveTakeBlock data {} with
    | mk result seen =>
      rw [ran] at parsed
      cases result with
      | error stop => cases parsed
      | ok =>
        obtain ⟨blocks, whole, pass, same⟩ := blocks_spell.walk_eq_ok.mp ran
        simp only at parsed
        split at parsed
        · cases parsed
        rename_i ended
        cases parsed
        cases same
        exact ⟨blocks, whole, ⟨pass, ended⟩, rfl⟩
  · rintro ⟨blocks, rfl, ⟨pass, ended⟩, rfl⟩
    have filled : ¬ (blocks.flatMap ProgressiveStreamBlock.bytes).isEmpty = true := by
      cases blocks with
      | nil => simp [runBlocks, ProgressiveProgress.Ended] at ended
      | cons block blocks => simp [ProgressiveStreamBlock.bytes, progressiveBlockBytes, u16LeBytes]
    have ran := blocks_spell.walk_eq_ok.mpr ⟨blocks, rfl, pass, rfl⟩
    rw [if_neg filled, ran]
    exact if_neg ended

/-- A stream is accepted if and only if the writers write it for a consistent frame; what is
    returned counts that frame, and nothing is returned for any other stream. -/
theorem progressiveParseStream_grammar (data : Bytes) (before : ProgressiveStream) :
    ((progressiveParseStreamInto data before).1 = .ok ↔
      ∃ frame : ProgressiveFrame, frame.Consistent ∧ frame.write [] = (.ok, data)) ∧
    (∀ frame : ProgressiveFrame, frame.Consistent → frame.write [] = (.ok, data) →
      frame.Counts (progressiveParseStreamInto data before).2) ∧
    ((progressiveParseStreamInto data before).1 ≠ .ok →
      progressiveParseStreamInto data before = (.protocolError, before)) := by
  have accepts (stream : ProgressiveStream) : progressiveParseStream data = .ok stream ↔
      ∃ frame : ProgressiveFrame, (frame.Consistent ∧ frame.write [] = (.ok, data)) ∧
        stream = (runBlocks frame.blocks {}).toProgressiveStream := by
    rw [progressiveParseStream_eq_ok]
    constructor
    · rintro ⟨blocks, whole, accepted, same⟩
      obtain ⟨frame, rfl, good⟩ := accepted_start.mp accepted
      obtain ⟨writable, consistent⟩ := (frame_good frame).mp good
      exact ⟨frame, ⟨consistent, ProgressiveFrame.write_eq_ok.mpr ⟨writable, whole⟩⟩, same⟩
    · rintro ⟨frame, ⟨consistent, written⟩, same⟩
      obtain ⟨writable, whole⟩ := ProgressiveFrame.write_eq_ok.mp written
      exact ⟨frame.blocks, whole, accepted_start.mpr
        ⟨frame, rfl, (frame_good frame).mpr ⟨writable, consistent⟩⟩, same⟩
  unfold progressiveParseStreamInto
  refine ⟨?_, ?_, ?_⟩
  · cases parsed : progressiveParseStream data with
    | ok stream =>
        obtain ⟨frame, written, -⟩ := (accepts stream).mp parsed
        exact ⟨fun _ => ⟨frame, written⟩, fun _ => rfl⟩
    | error stop =>
        refine ⟨nofun, ?_⟩
        rintro ⟨frame, written⟩
        cases parsed.symm.trans ((accepts _).mpr ⟨frame, written, rfl⟩)
  · intro frame consistent written
    rw [(accepts _).mpr ⟨frame, ⟨consistent, written⟩, rfl⟩]
    exact runBlocks_counts consistent.toAnnounced
  · intro refused
    cases parsed : progressiveParseStream data with
    | ok stream =>
        rw [parsed] at refused
        exact absurd rfl refused
    | error stop => rfl

def plainTile : ProgressiveTileBlock := .simple {
  quantIdxY := 0, quantIdxCb := 0, quantIdxCr := 0, xIdx := 0, yIdx := 0
  blockType := progressiveBlockTileSimple, flags := 0, progressiveQuality := 0xff
  yData := none, cbData := none, crData := none, tailData := none }

def plainRegion : ProgressiveRegion where
  tileSize := 64
  rectCount := 1
  quantCount := 1
  progressiveQuantCount := 0
  flags := 0
  tileCount := 1
  tileDataSize := 22
  rects := List.replicate 8 0
  quantValues := List.replicate 5 0
  progressiveQuantValues := []
  tiles := plainTile.bytes

def plainFrame : ProgressiveFrame where
  sync := true
  context := some { contextId := 0, tileSize := 64, flags := 0 }
  frameBegin := { frameIndex := 0, regionCount := 1 }
  areas := [(plainRegion, [plainTile])]

theorem plainFrame_with {region : ProgressiveRegion} {tile : ProgressiveTileBlock}
    (written : writeEach ProgressiveTileBlock.write [] [tile] = (.ok, region.tiles))
    (count : region.tileCount = 1) (fits : tile.Fits region) :
    { plainFrame with areas := [(region, [tile])] }.Consistent := by
  refine ⟨⟨rfl, Nat.le_of_ble_eq_true rfl⟩, ?_, ?_, ?_⟩ <;> intro area inside <;>
    obtain rfl := List.mem_singleton.mp inside
  · exact written
  · rw [count]
    rfl
  · exact List.forall_mem_singleton.mpr fits

theorem plainFrame_consistent : plainFrame.Consistent :=
  plainFrame_with rfl rfl ⟨by unfold ComponentsFit; decide, fun _ => rfl,
    ⟨by decide, by decide, by decide, .inl rfl⟩⟩

theorem progressiveParseStream_grammar_plain :
    (progressiveParseStreamInto (plainFrame.write []).2 {}).1 = .ok :=
  (progressiveParseStream_grammar _ {}).1.mpr
    ⟨plainFrame, plainFrame_consistent, Prod.ext (by decide) rfl⟩

end Streams

end LibRdp.Graphics
