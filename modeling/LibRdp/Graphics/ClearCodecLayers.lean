import LibRdp.Graphics.ClearCodecVbars
import LibRdp.Graphics.NsCodecPlanes

/-! # The layers of a bitmap

Whatever a layer is given, it comes to an end, writes inside the output and leaves a context in
which the slots hold what they should. It may stop at any byte, and has changed its copy by then.
-/

namespace LibRdp.Graphics

open Machine Effect

/-! ## What every layer keeps -/

structure ClearContext.HasTables (context : ClearContext) : Prop where
  vbarStorage : context.vbarStorage.isSome = true
  shortVbarStorage : context.shortVbarStorage.isSome = true
  vbarLengths : context.vbarLengths.isSome = true
  shortVbarLengths : context.shortVbarLengths.isSome = true

structure ClearWork.Sound (banded : Prop) (size : Nat) (work : ClearWork) : Prop where
  vbars : work.context.VbarsSound
  whole : work.context.nscodec.Whole
  size : work.output.size = size
  tables : banded → work.context.HasTables

/-- A part of a call keeps the work sound, also where it is refused, and gives something. -/
def ClearKeeps (banded : Prop) (size : Nat) (m : ClearEffect α) (gives : α → Prop) : Prop :=
  Holds (ClearWork.Sound banded size) m (fun a work => work.Sound banded size ∧ gives a)
    fun stop work => Refused stop ∧ work.Sound banded size

variable {banded : Prop}

namespace ClearKeeps

variable {α β : Type} {size : Nat} {m m' : ClearEffect α} {gives : α → Prop}

theorem pure {a : α} (here : gives a) : ClearKeeps banded size (Pure.pure a) gives :=
  Holds.pure fun _ sound => ⟨sound, here⟩

theorem refuse {status : Status} (failed : status ≠ .ok) :
    ClearKeeps banded size (clearRefuse status : ClearEffect α) gives :=
  Holds.stop fun _ sound => ⟨refused_returned failed, sound⟩

theorem bind {f : α → ClearEffect β} {done : β → Prop} (first : ClearKeeps banded size m gives)
    (next : ∀ a, gives a → ClearKeeps banded size (f a) done) :
    ClearKeeps banded size (m >>= f) done :=
  Holds.bind first fun a => .assume (fun _ held => held.2) fun given =>
    Holds.weaken (next a given) (fun _ held => held.1) (fun _ _ held => held) fun _ _ held => held

theorem lift {x : Attempt α} (yields : Yields x gives Refused) :
    ClearKeeps banded size (Effect.lift x) gives :=
  Holds.lift yields (fun _ _ given sound => ⟨sound, given⟩) fun _ _ refused sound => ⟨refused, sound⟩

theorem get : ClearKeeps banded size (Effect.get : ClearEffect ClearWork) (·.Sound banded size) :=
  Holds.get fun _ sound => ⟨sound, sound⟩

theorem ite {p : Prop} [Decidable p] (yes : p → ClearKeeps banded size m gives)
    (no : ¬ p → ClearKeeps banded size m' gives) :
    ClearKeeps banded size (if p then m else m') gives :=
  Holds.ite yes no

theorem weaken {gives' : α → Prop} (keeps : ClearKeeps banded size m gives)
    (promises : ∀ a, gives a → gives' a) : ClearKeeps banded size m gives' :=
  Holds.weaken keeps (fun _ held => held) (fun a _ held => ⟨held.1, promises a held.2⟩)
    fun _ _ held => held

theorem change {next : ClearContext → ClearContext}
    (vbars : ∀ context, context.VbarsSound → (next context).VbarsSound)
    (nscodec : ∀ context, (next context).nscodec = context.nscodec)
    (tables : ∀ context, context.HasTables → (next context).HasTables) :
    ClearKeeps banded size (ClearWork.change next) fun _ => True :=
  Holds.modify fun work sound =>
    ⟨⟨vbars _ sound.vbars, (nscodec work.context).symm ▸ sound.whole, sound.size,
      fun inBands => tables _ (sound.tables inBands)⟩, trivial⟩

theorem put {index : Nat} (pixel : Pixel) (inside : index < size) :
    ClearKeeps banded size (ClearWork.put index pixel) fun _ => True := by
  intro work sound
  have ran : ClearWork.put index pixel work =
      (.ok (), { work with output := work.output.put index pixel }) := by
    unfold ClearWork.put
    rw [get_bind, storePixel_inside pixel (sound.size ▸ inside), lift_ok_bind]
    rfl
  rw [ran]
  refine ⟨?_, fun _ _ stops => by cases congrArg Prod.fst stops⟩
  intro _ next same
  obtain rfl := congrArg Prod.snd same
  exact ⟨⟨sound.vbars, sound.whole, sound.size, sound.tables⟩, trivial⟩

theorem forM {l : List β} {each : β → ClearEffect PUnit}
    (step : ∀ b ∈ l, ClearKeeps banded size (each b) fun _ => True) :
    ClearKeeps banded size (l.forM each) fun _ => True := by
  have one : ∀ b ∈ l, Holds (ClearWork.Sound banded size) (each b)
      (fun _ => ClearWork.Sound banded size)
      fun stop work => Refused stop ∧ work.Sound banded size := by
    intro b held
    exact Holds.weaken (step b held : Holds _ _ _ _) (fun _ sound => sound)
      (fun _ _ sound => sound.1) fun _ _ stopped => stopped
  exact Holds.weaken (.forM one) (fun _ sound => sound) (fun _ _ sound => ⟨sound, trivial⟩)
    fun _ _ stopped => stopped

end ClearKeeps

variable {data : Bytes} {width fuel : Nat}

variable {offset : Nat} {stream : Bytes}

theorem clearByteAt_yields (inside : offset < data.length) :
    Yields (clearByteAt data offset) (fun _ => True) Refused := by
  rw [clearByteAt, List.getElem?_eq_getElem inside]
  exact .pure trivial

/-! ## The residual -/

theorem clearReadRunLength_yields (stream : Bytes) :
    Yields (clearReadRunLength stream) (fun read => read.2.length < stream.length) Refused := by
  unfold clearReadRunLength
  refine .bind (readU8_yields stream) fun ⟨factor1, rest⟩ length => ?_
  refine .ite (fun _ => .pure (by simp only at length ⊢; omega)) fun _ => ?_
  refine .bind (readU16Le_yields rest) fun ⟨factor2, rest'⟩ length' => ?_
  refine .ite (fun _ => yields_refuse nofun) fun _ =>
    .ite (fun _ => .pure (by simp only at length length' ⊢; omega)) fun _ => ?_
  refine .bind (readU32Le_yields rest') fun ⟨run, rest''⟩ length'' => .pure ?_
  simp only at length length' length'' ⊢
  omega

theorem clearReadResidual_yields (stream : Bytes) :
    Yields (clearReadResidual stream) (fun read => read.2.length < stream.length) Refused := by
  unfold clearReadResidual
  refine .bind (readU8_yields stream) fun ⟨b, rest⟩ length =>
    .bind (readU8_yields rest) fun ⟨g, rest'⟩ length' =>
    .bind (readU8_yields rest') fun ⟨r, rest''⟩ length'' =>
    .bind (clearReadRunLength_yields rest'') fun ⟨run, rest'''⟩ length''' => .pure ?_
  simp only at length length' length'' length''' ⊢
  omega

theorem clearResidualLoop_keeps {pixelCount : Nat} (enough : stream.length ≤ fuel)
    (inside : offset ≤ pixelCount) :
    ClearKeeps banded pixelCount (clearResidualLoop width pixelCount fuel offset stream) fun _ => True := by
  induction fuel generalizing offset stream with
  | zero =>
    cases stream with
    | nil => exact .pure trivial
    | cons byte rest => cases enough
  | succ fuel ih =>
    cases stream with
    | nil => exact .pure trivial
    | cons byte rest =>
      refine .bind (.lift (clearReadResidual_yields _)) fun ⟨⟨pixel, run⟩, stream⟩ shorter =>
        .bind (.lift (clearSub_yields inside)) fun left same => ?_
      refine .ite (fun _ => .refuse nofun) fun fits => ?_
      have write : ∀ i ∈ List.range run, ClearKeeps banded pixelCount
          (ClearWork.put ((offset + i) / width * width + (offset + i) % width) pixel)
          fun _ => True := by
        intro i held
        have small := List.mem_range.mp held
        rw [Nat.mul_comm, Nat.div_add_mod]
        exact .put pixel (by omega)
      refine .bind (.forM write) fun _ _ => ih ?_ (by omega)
      simp only [List.length_cons] at shorter enough
      omega

theorem clearDecodeResidual_keeps (data : Bytes) (width height : Nat) :
    ClearKeeps banded (width * height) (clearDecodeResidual data width height) fun _ => True := by
  unfold clearDecodeResidual
  exact .ite (fun _ => .refuse nofun) fun _ =>
    .bind (clearResidualLoop_keeps (Nat.le_refl _) (Nat.zero_le _)) fun _ _ =>
    .ite (fun _ => .refuse nofun) fun _ => .pure trivial

/-! ## Bands -/

theorem clearReadBand_yields (stream : Bytes) :
    Yields (clearReadBand stream) (fun read => read.2.length < stream.length ∧
      read.1.xStart ≤ read.1.xEnd ∧ read.1.yStart ≤ read.1.yEnd ∧
      read.1.height ≤ clearMaxBandHeight) Refused := by
  unfold clearReadBand
  refine .bind (readU16Le_yields stream) fun ⟨xStart, rest⟩ length =>
    .bind (readU16Le_yields rest) fun ⟨xEnd, rest₁⟩ length₁ =>
    .bind (readU16Le_yields rest₁) fun ⟨yStart, rest₂⟩ length₂ =>
    .bind (readU16Le_yields rest₂) fun ⟨yEnd, rest₃⟩ length₃ =>
    .bind (readU8_yields rest₃) fun ⟨b, rest₄⟩ length₄ =>
    .bind (readU8_yields rest₄) fun ⟨g, rest₅⟩ length₅ =>
    .bind (readU8_yields rest₅) fun ⟨r, rest₆⟩ length₆ =>
    .ite (fun _ => yields_refuse nofun) fun ordered => ?_
  have across : xStart ≤ xEnd := UInt16.not_lt.mp fun less => ordered (.inl less)
  have down : yStart ≤ yEnd := UInt16.not_lt.mp fun less => ordered (.inr less)
  refine .bind (clearSub_yields (UInt16.le_iff_toNat_le.mp down)) fun high same =>
    .ite (fun _ => yields_refuse nofun) fun few => .pure ⟨?_, across, down, ?_⟩
  · simp only at length length₁ length₂ length₃ length₄ length₅ length₆ ⊢
    omega
  · simp only at same
    simp only [ClearBand.height]
    omega

theorem clearFillVbar_yields (band : ClearBand) (yOn : Nat) (shortPixels : Nat → Pixel)
    (shortCount height : Nat) :
    Yields (clearFillVbar band yOn shortPixels shortCount height)
      (fun rows => rows.length = height ∧ ∀ pixel ∈ rows, pixel.a = 0xff) Refused := by
  unfold clearFillVbar
  refine .bind (clearSub_yields (Nat.min_le_right _ _)) fun left _ => .pure ⟨?_, ?_⟩
  · rw [List.length_map, List.length_range]
  · intro pixel held
    obtain ⟨y, _, rfl⟩ := List.mem_map.mp held
    split <;> rfl

theorem clearSlotRows_yields {there : Bool} {entries slot rows : Nat} (isThere : there = true)
    (inside : slot < entries) (few : rows ≤ clearMaxBandHeight) :
    Yields (clearSlotRows there entries slot rows) (fun _ => True) Refused := by
  rw [clearSlotRows, if_pos (by simp [isThere, inside, few])]
  exact .pure trivial

namespace ClearContext.HasTables

variable {context : ClearContext} {slot rows : Nat}

variable (tables : context.HasTables)
include tables

theorem vbarRows_yields (inside : slot < clearVbarStorageEntries)
    (few : rows ≤ clearMaxBandHeight) :
    Yields (context.vbarRows slot rows) (fun _ => True) Refused :=
  clearSlotRows_yields (by simp [tables.vbarStorage, tables.vbarLengths]) inside few

theorem shortVbarRows_yields (inside : slot < clearShortVbarStorageEntries)
    (few : rows ≤ clearMaxBandHeight) :
    Yields (context.shortVbarRows slot rows) (fun _ => True) Refused :=
  clearSlotRows_yields (by simp [tables.shortVbarStorage, tables.shortVbarLengths]) inside few

theorem normalizeVbar (slot height : Nat) : (context.normalizeVbar slot height).HasTables := by
  unfold ClearContext.normalizeVbar
  split
  · exact tables
  · exact ⟨rfl, tables.shortVbarStorage, rfl, tables.shortVbarLengths⟩

theorem storeVbar (rows : List Pixel) : (context.storeVbar rows).HasTables :=
  ⟨rfl, tables.shortVbarStorage, rfl, tables.shortVbarLengths⟩

theorem storeShortVbar (rows : List Pixel) : (context.storeShortVbar rows).HasTables :=
  ⟨tables.vbarStorage, rfl, tables.vbarLengths, rfl⟩

end ClearContext.HasTables

theorem forM_put {place : Nat → Nat} (apart : ∀ y y', place y = place y' → y = y')
    (pixels : Nat → Pixel) {l : List Nat} {work : ClearWork}
    (inside : ∀ y ∈ l, place y < work.output.size) :
    ∃ output : Memory Pixel, (l.forM fun y => ClearWork.put (place y) (pixels y)) work =
        (.ok (), { work with output }) ∧ output.size = work.output.size ∧
      ∀ y, output.cell (place y) = if y ∈ l then pixels y else work.output.cell (place y) := by
  induction l generalizing work with
  | nil => exact ⟨work.output, rfl, rfl, fun y => by simp⟩
  | cons first l ih =>
    have here := inside first List.mem_cons_self
    have ran : ClearWork.put (place first) (pixels first) work =
        (.ok (), { work with output := work.output.put (place first) (pixels first) }) := by
      unfold ClearWork.put
      rw [get_bind, storePixel_inside _ here, lift_ok_bind]
      rfl
    obtain ⟨output, ran', size, cells⟩ := @ih
      { work with output := work.output.put (place first) (pixels first) }
      fun y held => inside y (.tail _ held)
    refine ⟨output, ?_, size, ?_⟩
    · exact (bind_ok ran).trans ran'
    · intro y
      rw [cells y]
      by_cases later : y ∈ l
      · rw [if_pos later, if_pos (.tail _ later)]
      rw [if_neg later]
      by_cases same : y = first
      · subst same
        rw [if_pos List.mem_cons_self]
        exact if_pos ⟨rfl, here⟩
      · rw [if_neg (by simp [same, later])]
        exact if_neg fun both => same (apart _ _ both.1)

section Column

variable {x yStart height width size : Nat}

theorem clearCopyVbarToPixels_ok (vbar : Nat → Pixel) {work : ClearWork} (wide : 0 < width)
    (inside : ∀ y < height, (yStart + y) * width + x < work.output.size) :
    ∃ output : Memory Pixel, clearCopyVbarToPixels vbar x yStart height width work =
        (.ok (), { work with output }) ∧ output.size = work.output.size ∧
      clearColumn output x yStart height width = (List.range height).map vbar := by
  have apart : ∀ y y', (yStart + y) * width + x = (yStart + y') * width + x → y = y' := by
    intro y y' same
    have rows := Nat.eq_of_mul_eq_mul_right wide (Nat.add_right_cancel same)
    omega
  obtain ⟨output, ran, same, cells⟩ := forM_put apart vbar
    (fun y held => inside y (List.mem_range.mp held))
  refine ⟨output, ran, same, ?_⟩
  apply List.map_congr_left
  intro y held
  rw [cells y, if_pos held]

theorem clearVbarHit_keeps {index : Nat} (known : index < clearVbarStorageEntries)
    (few : height ≤ clearMaxBandHeight) (wide : 0 < width)
    (inside : ∀ y < height, (yStart + y) * width + x < size) :
    ClearKeeps True size (clearVbarHit index x yStart height width) fun _ => True := by
  refine .bind .get fun seen held =>
    .bind (.lift ((held.tables trivial).vbarRows_yields known few)) fun _ _ => ?_
  intro work sound
  obtain ⟨output, ran, same, column⟩ := @clearCopyVbarToPixels_ok x yStart height width
    ((work.context.normalizeVbar index height).vbar index)
    { work with context := work.context.normalizeVbar index height } wide
    fun y high => sound.size.symm ▸ inside y high
  have whole : (do
      ClearWork.change (·.normalizeVbar index height)
      let work ← Effect.get
      clearCopyVbarToPixels (work.context.vbar index) x yStart height width
      let work ← Effect.get
      ClearWork.change fun context => { context with
        trace := context.trace ++
          [.hit index height (clearColumn work.output x yStart height width)] } :
      ClearEffect Unit) work = (.ok (),
      { context := { work.context.normalizeVbar index height with
          trace := work.context.trace ++
            [.hit index height (clearColumn output x yStart height width)] }
        output }) := by
    unfold ClearWork.change
    rw [modify_bind, get_bind, bind_ok ran, get_bind]
    simp only [Effect.modify, normalizeVbar_trace]
  rw [whole]
  refine ⟨?_, fun _ _ stops => by cases congrArg Prod.fst stops⟩
  intro _ next done
  obtain rfl := congrArg Prod.snd done
  have tables := (sound.tables trivial).normalizeVbar index height
  have shown : clearColumn output x yStart height width =
      paddedVbar height (historyOf index work.context.trace).rows := by
    rw [column]
    exact normalizeVbar_shows sound.vbars index height
  have vbars := sound.vbars.hit shown
  have planes : (work.context.normalizeVbar index height).nscodec.Whole := by
    rw [normalizeVbar_nscodec]
    exact sound.whole
  exact ⟨⟨vbars, planes, same.trans sound.size, fun _ => ⟨tables.vbarStorage,
    tables.shortVbarStorage, tables.vbarLengths, tables.shortVbarLengths⟩⟩, trivial⟩

theorem clearVbarStore_keeps {rows : List Pixel} (few : rows.length ≤ clearMaxBandHeight)
    (solid : ∀ pixel ∈ rows, pixel.a = 0xff)
    (inside : ∀ y < rows.length, (yStart + y) * width + x < size) :
    ClearKeeps True size (clearVbarStore rows x yStart width) fun _ => True :=
  .bind .get fun _ held =>
    .bind (.lift ((held.tables trivial).vbarRows_yields held.vbars.cursor few)) fun _ _ =>
    .bind (.change (fun _ sound => sound.storeVbar solid) (fun _ => rfl)
      fun _ tables => tables.storeVbar rows) fun _ _ =>
    .forM fun y held => .put _ (inside y (List.mem_range.mp held))

end Column

section Band

variable {band : ClearBand} {width height : Nat}

theorem band_inside (ordered : band.yStart ≤ band.yEnd) (high : band.yEnd.toNat < height)
    {x : Nat} (wide : x < width) :
    ∀ y < band.height, (band.yStart.toNat + y) * width + x < width * height := by
  intro y small
  have order := UInt16.le_iff_toNat_le.mp ordered
  rw [ClearBand.height] at small
  exact pixel_inside (by omega) wide

theorem clearDecodeBandVbar_keeps (ordered : band.yStart ≤ band.yEnd)
    (high : band.yEnd.toNat < height) (few : band.height ≤ clearMaxBandHeight) {x : UInt16}
    (wide : x.toNat < width) (stream : Bytes) :
    ClearKeeps True (width * height) (clearDecodeBandVbar band x band.height width stream)
      fun rest => rest.length ≤ stream.length := by
  have inside := band_inside ordered high wide
  have stores {rows : List Pixel} (filled : rows.length = band.height)
      (solid : ∀ pixel ∈ rows, pixel.a = 0xff) : ClearKeeps True (width * height)
        (clearVbarStore rows x.toNat band.yStart.toNat width) fun _ => True :=
    clearVbarStore_keeps (by rw [filled]; exact few) solid (by rw [filled]; exact inside)
  unfold clearDecodeBandVbar
  refine .bind (.lift (readU16Le_yields stream)) fun ⟨header, rest⟩ length => ?_
  simp only at length
  refine .ite (fun _ => ?_) fun _ => .ite (fun _ => ?_) fun _ => .ite (fun _ => ?_) fun _ =>
    .refuse nofun
  · have known : (header &&& 0x7fff).toNat < clearVbarStorageEntries := by
      rw [UInt16.toNat_and]
      exact Nat.lt_succ_of_le Nat.and_le_right
    exact .bind (clearVbarHit_keeps known few (by omega) inside) fun _ _ => .pure (by omega)
  · have known : (header &&& 0x3fff).toNat < clearShortVbarStorageEntries := by
      rw [UInt16.toNat_and]
      exact Nat.lt_succ_of_le Nat.and_le_right
    refine .bind (.lift (readU8_yields rest)) fun ⟨yOn, rest'⟩ length' => ?_
    simp only at length'
    refine .bind .get fun seen held =>
      .bind (.lift (clearSub_yields (Nat.min_le_right _ _))) fun left same =>
      .bind (.lift ((held.tables trivial).shortVbarRows_yields known ?_)) fun _ _ =>
      .bind (.lift (clearFillVbar_yields _ _ _ _ _)) fun rows ⟨filled, solid⟩ =>
      .bind (stores filled solid) fun _ _ => .pure (by omega)
    exact Nat.le_trans (Nat.min_le_right _ _) (by omega)
  · refine .ite (fun _ => .refuse nofun) fun bounded => ?_
    refine .bind (.lift (clearSub_yields (by omega))) fun shortCount same =>
      .bind (.lift (readBytes_yields rest _)) fun ⟨shortPixels, rest'⟩ length' => ?_
    simp only at length'
    exact .bind .get fun seen held =>
      .bind (.lift ((held.tables trivial).shortVbarRows_yields held.vbars.shortCursor (by omega)))
        fun _ _ =>
      .bind (.change (fun _ sound => sound.storeShortVbar) (fun _ => rfl)
        fun _ tables => tables.storeShortVbar _) fun _ _ =>
      .bind (.lift (clearFillVbar_yields _ _ _ _ _)) fun rows ⟨filled, solid⟩ =>
      .bind (stores filled solid) fun _ _ => .pure (by omega)

/-- The columns of a band come to an end: the last one is no `UINT16_MAX`. -/
theorem clearColumnsLoop_keeps (ordered : band.yStart ≤ band.yEnd)
    (high : band.yEnd.toNat < height) (few : band.height ≤ clearMaxBandHeight)
    (wide : band.xEnd.toNat < width) (small : width < 2 ^ 16) {fuel : Nat} {x : UInt16} (before : x.toNat ≤ band.xEnd.toNat + 1)
    (enough : band.xEnd.toNat + 1 < fuel + x.toNat) (stream : Bytes) :
    ClearKeeps True (width * height) (clearColumnsLoop band band.height width fuel x stream)
      fun rest => rest.length ≤ stream.length := by
  induction fuel generalizing x stream with
  | zero => omega
  | succ fuel ih =>
    refine .ite (fun inside => ?_) fun _ => .pure (Nat.le_refl _)
    have order := UInt16.le_iff_toNat_le.mp inside
    refine .bind (clearDecodeBandVbar_keeps ordered high few (by omega) stream) fun rest length => ?_
    have next : (x + 1).toNat = x.toNat + 1 := by
      have value : (x + 1).toNat = (x.toNat + 1) % 2 ^ 16 := rfl
      omega
    exact (ih (by omega) (by omega) rest).weaken fun _ shorter => Nat.le_trans shorter length

end Band

variable {height : Nat}

theorem clearBandsLoop_keeps (small : width < 2 ^ 16) (enough : stream.length ≤ fuel) :
    ClearKeeps True (width * height) (clearBandsLoop width height fuel stream) fun _ => True := by
  induction fuel generalizing stream with
  | zero =>
    cases stream with
    | nil => exact .pure trivial
    | cons byte rest => cases enough
  | succ fuel ih =>
    cases stream with
    | nil => exact .pure trivial
    | cons byte rest =>
      refine .bind (.lift (clearReadBand_yields _)) fun ⟨band, stream⟩
        ⟨shorter, across, down, few⟩ => ?_
      refine .ite (fun _ => .refuse nofun) fun fits => ?_
      simp only [List.length_cons] at shorter across down few enough fits
      have order := UInt16.le_iff_toNat_le.mp across
      refine .bind (clearColumnsLoop_keeps down (by omega) few (by omega) small (by omega)
        (by omega) stream) fun rest length => ih (by omega)

theorem clearEnsure_holds {size : Nat} {memory : Bool} {missing : ClearContext → Bool}
    {allocate : ClearContext → ClearContext} {before after : ClearContext → Prop}
    (vbars : ∀ context, missing context = true → context.VbarsSound → (allocate context).VbarsSound)
    (nscodec : ∀ context, (allocate context).nscodec = context.nscodec)
    (tables : ∀ context, context.HasTables → (allocate context).HasTables)
    (there : ∀ context, missing context = false → before context → after context)
    (allocated : ∀ context, before context → after (allocate context)) :
    Holds (fun work => work.Sound banded size ∧ before work.context)
      (clearEnsure memory missing allocate)
      (fun _ work => work.Sound banded size ∧ after work.context)
      fun stop work => Refused stop ∧ work.Sound banded size := by
  unfold clearEnsure
  have looks : Holds (fun work => ClearWork.Sound banded size work ∧ before work.context) Effect.get
      (fun seen now => seen = now ∧ now.Sound banded size ∧ before now.context)
      fun stop work => Refused stop ∧ work.Sound banded size :=
    .get fun _ held => ⟨rfl, held⟩
  refine Holds.bind looks fun seen => .ite (fun isMissing => .ite (fun _ => .modify ?_)
    fun _ => .stop ?_) fun isThere => .pure ?_
  · rintro work ⟨rfl, sound, held⟩
    exact ⟨⟨vbars _ isMissing sound.vbars, (nscodec seen.context).symm ▸ sound.whole, sound.size,
      fun inBands => tables _ (sound.tables inBands)⟩, allocated _ held⟩
  · rintro work ⟨rfl, sound, _⟩
    exact ⟨refused_returned nofun, sound⟩
  · rintro work ⟨rfl, sound, held⟩
    exact ⟨sound, there _ (Bool.not_eq_true _ ▸ isThere) held⟩

theorem clearEnsureBands_holds (size : Nat) (memory : Nat → Bool) :
    Holds (ClearWork.Sound banded size) (clearEnsureBands memory)
      (fun _ work => work.Sound banded size ∧ work.context.HasTables)
      fun stop work => Refused stop ∧ work.Sound banded size := by
  unfold clearEnsureBands
  let first (context : ClearContext) := context.vbarStorage.isSome = true
  let second (context : ClearContext) := first context ∧ context.shortVbarStorage.isSome = true
  let third (context : ClearContext) := second context ∧ context.vbarLengths.isSome = true
  have isSome {α : Type} {table : Option α} (there : table.isNone = false) : table.isSome = true := by
    cases table with
    | none => cases there
    | some _ => rfl
  suffices Holds (fun work => ClearWork.Sound banded size work ∧ True) _ _ _ from
    this.weaken (fun _ sound => ⟨sound, trivial⟩) (fun _ _ held => held) fun _ _ held => held
  refine .bind (@clearEnsure_holds _ _ _ _ _ (fun _ => True) first ?_ ?_ ?_ ?_ ?_) fun _ =>
    .bind (@clearEnsure_holds _ _ _ _ _ first second ?_ ?_ ?_ ?_ ?_) fun _ =>
    .bind (@clearEnsure_holds _ _ _ _ _ second third ?_ ?_ ?_ ?_ ?_) fun _ =>
    @clearEnsure_holds _ _ _ _ _ third ClearContext.HasTables ?_ ?_ ?_ ?_ ?_
  · intro context missing sound
    have empty := Option.isNone_iff_eq_none.mp missing
    refine ⟨fun slot => ?_, sound.right, sound.cursor, sound.shortCursor⟩
    have slots := sound.slots slot
    unfold ClearContext.vbar at slots
    rw [empty] at slots
    exact slots
  · exact fun _ => rfl
  · exact fun _ held => ⟨rfl, held.shortVbarStorage, held.vbarLengths, held.shortVbarLengths⟩
  · exact fun _ there _ => isSome there
  · exact fun _ _ => rfl
  · exact fun _ _ sound => ⟨sound.slots, sound.right, sound.cursor, sound.shortCursor⟩
  · exact fun _ => rfl
  · exact fun _ held => ⟨held.vbarStorage, rfl, held.vbarLengths, held.shortVbarLengths⟩
  · exact fun _ there held => ⟨held, isSome there⟩
  · exact fun _ held => ⟨held, rfl⟩
  · intro context missing sound
    have empty := Option.isNone_iff_eq_none.mp missing
    refine ⟨fun slot => ?_, sound.right, sound.cursor, sound.shortCursor⟩
    have slots := sound.slots slot
    unfold ClearContext.vbarLength at slots
    rw [empty] at slots
    exact slots
  · exact fun _ => rfl
  · exact fun _ held => ⟨held.vbarStorage, held.shortVbarStorage, rfl, held.shortVbarLengths⟩
  · exact fun _ there held => ⟨held, isSome there⟩
  · exact fun _ held => ⟨held, rfl⟩
  · exact fun _ _ sound => ⟨sound.slots, sound.right, sound.cursor, sound.shortCursor⟩
  · exact fun _ => rfl
  · exact fun _ held => ⟨held.vbarStorage, held.shortVbarStorage, held.vbarLengths, rfl⟩
  · exact fun _ there held => ⟨held.1.1, held.1.2, held.2, isSome there⟩
  · exact fun _ held => ⟨held.1.1, held.1.2, held.2, rfl⟩

theorem clearDecodeBands_keeps (memory : Nat → Bool) (data : Bytes) (small : width < 2 ^ 16) :
    ClearKeeps banded (width * height) (clearDecodeBands memory data width height) fun _ => True := by
  unfold clearDecodeBands
  refine Holds.bind (clearEnsureBands_holds _ memory) fun _ =>
    Holds.weaken (clearBandsLoop_keeps small (Nat.le_refl _)) ?_ ?_ ?_
  · exact fun _ held => ⟨held.1.vbars, held.1.whole, held.1.size, fun _ => held.2⟩
  · exact fun _ _ held => ⟨⟨held.1.vbars, held.1.whole, held.1.size,
      fun _ => held.1.tables trivial⟩, trivial⟩
  · exact fun _ _ held => ⟨held.1, held.2.vbars, held.2.whole, held.2.size,
      fun _ => held.2.tables trivial⟩

/-! ## Regions -/

theorem clearParseSubcodec_yields (data : Bytes) :
    Yields (clearParseSubcodec data) (fun read => read.2.length < data.length) Refused := by
  unfold clearParseSubcodec
  refine .ite (fun _ => yields_refuse nofun) fun _ =>
    .bind (readU16Le_yields data) fun ⟨x, rest⟩ length =>
    .bind (readU16Le_yields rest) fun ⟨y, rest₁⟩ length₁ =>
    .bind (readU16Le_yields rest₁) fun ⟨width, rest₂⟩ length₂ =>
    .bind (readU16Le_yields rest₂) fun ⟨height, rest₃⟩ length₃ =>
    .bind (readU32Le_yields rest₃) fun ⟨bitmapDataLen, rest₄⟩ length₄ =>
    .bind (readU8_yields rest₄) fun ⟨subcodecId, rest₅⟩ length₅ =>
    .ite (fun _ => yields_refuse nofun) fun _ =>
    .bind (readBytes_yields rest₅ _) fun ⟨bitmapData, rest₆⟩ length₆ => .pure ?_
  simp only at length length₁ length₂ length₃ length₄ length₅ length₆ ⊢
  omega

section Region

variable {subcodec : ClearSubcodec} {width height : Nat}

structure ClearSubcodec.Placed (subcodec : ClearSubcodec) (width height : Nat) : Prop where
  some : 0 < subcodec.width
  across : subcodec.x + subcodec.width ≤ width
  down : subcodec.y + subcodec.height ≤ height

theorem ClearSubcodec.fits_yields (subcodec : ClearSubcodec) (width height : Nat) :
    Yields (subcodec.fits width height) (fun fits => fits = true → subcodec.Placed width height)
      Refused := by
  unfold ClearSubcodec.fits
  refine .ite (fun _ => .pure nofun) fun some =>
    (regionFits_yields _ _ _ _ _ _).weaken fun _ place fits => ?_
  obtain ⟨across, down⟩ := place fits
  exact ⟨by omega, across, down⟩

theorem ClearSubcodec.Placed.inside (placed : subcodec.Placed width height) {row column : Nat}
    (high : row < subcodec.height) (wide : column < subcodec.width) :
    (subcodec.y + row) * width + subcodec.x + column < width * height := by
  obtain ⟨_, across, down⟩ := placed
  rw [Nat.add_assoc]
  exact pixel_inside (by omega) (by omega)

theorem clearFits_keeps {α : Type} {m : ClearEffect α} {gives : α → Prop}
    (inside : subcodec.Placed width height → ClearKeeps banded (width * height) m gives) :
    ClearKeeps banded (width * height) (do
      let fits ← Effect.lift (subcodec.fits width height)
      if !fits then clearRefuse .protocolError else m) gives :=
  .bind (.lift (subcodec.fits_yields width height)) fun _ place =>
    .ite (fun _ => .refuse nofun) fun fits => inside (place (by simpa using fits))

theorem clearApplyRawSubcodec_keeps (behind : Nat → UInt8) :
    ClearKeeps banded (width * height) (clearApplyRawSubcodec behind subcodec width height)
      fun _ => True := by
  refine clearFits_keeps fun placed => .ite (fun _ => .refuse nofun) fun length =>
    .forM fun row high => .forM fun column wide => .put _ ?_
  exact placed.inside (List.mem_range.mp high) (List.mem_range.mp wide)

/-- The length of 65535 columns and 21846 rows wraps around to that of a single row. -/
example : 65535 * 21846 * 3 % 2 ^ 32 = 65534 := by decide

theorem clearDecodeNscSubcodec_keeps (memory : NscodecMemory) :
    ClearKeeps banded (width * height) (clearDecodeNscSubcodec memory subcodec width height)
      fun _ => True := by
  refine clearFits_keeps fun _ => ?_
  exact Holds.zoom (nscodecDecodeRegion_holds _ _ _ _ _ _ _ _)
    (fun _ sound => ⟨sound.whole, sound.size⟩)
    (fun _ _ _ sound frame => ⟨⟨⟨sound.vbars.slots, sound.vbars.right, sound.vbars.cursor,
      sound.vbars.shortCursor⟩, frame.whole, frame.size, fun inBands => ⟨
      (sound.tables inBands).vbarStorage, (sound.tables inBands).shortVbarStorage,
      (sound.tables inBands).vbarLengths, (sound.tables inBands).shortVbarLengths⟩⟩, trivial⟩)
    fun _ _ _ sound stopped => ⟨stopped.1, ⟨sound.vbars.slots, sound.vbars.right,
      sound.vbars.cursor, sound.vbars.shortCursor⟩, stopped.2.whole, stopped.2.size,
      fun inBands => ⟨(sound.tables inBands).vbarStorage, (sound.tables inBands).shortVbarStorage,
      (sound.tables inBands).vbarLengths, (sound.tables inBands).shortVbarLengths⟩⟩

theorem clearRlexPalette_yields {data : Bytes} {count : Nat} (enough : 1 + count * 3 ≤ data.length) :
    Yields (clearRlexPalette data count) (·.length = count) Refused := by
  unfold clearRlexPalette
  have each : ∀ i ∈ List.range count, Yields (do
      let b ← clearByteAt data (1 + i * 3)
      let g ← clearByteAt data (1 + i * 3 + 1)
      let r ← clearByteAt data (1 + i * 3 + 2)
      pure { b, g, r, a := 0xff }) (fun _ : Pixel => True) Refused := by
    intro i held
    have small := List.mem_range.mp held
    exact .bind (clearByteAt_yields (by omega)) fun _ _ =>
      .bind (clearByteAt_yields (by omega)) fun _ _ =>
      .bind (clearByteAt_yields (by omega)) fun _ _ => .pure trivial
  exact (Yields.mapM each).weaken fun palette shape => shape.1.trans List.length_range

variable {offset pixelIndex : Nat} {palette : List Pixel}

theorem clearRlexRunLength_yields {data : Bytes} (inside : offset < data.length) :
    Yields (clearRlexRunLength data offset) (fun read => offset < read.2) Refused := by
  unfold clearRlexRunLength
  refine .bind (clearByteAt_yields inside) fun factor1 _ => ?_
  refine .ite (fun _ => .pure (Nat.lt_succ_self _)) fun _ => ?_
  refine .bind (clearSub_yields inside) fun left same => ?_
  refine .ite (fun _ => yields_refuse nofun) fun two => ?_
  refine .bind (clearByteAt_yields (by omega)) fun b0 _ =>
    .bind (clearByteAt_yields (by omega)) fun b1 _ => ?_
  refine .ite (fun _ => .pure (by simp only; omega)) fun _ => ?_
  refine .bind (clearSub_yields (by omega)) fun left' same' => ?_
  refine .ite (fun _ => yields_refuse nofun) fun four => ?_
  exact .bind (clearByteAt_yields (by omega)) fun _ _ =>
    .bind (clearByteAt_yields (by omega)) fun _ _ =>
    .bind (clearByteAt_yields (by omega)) fun _ _ =>
    .bind (clearByteAt_yields (by omega)) fun _ _ => .pure (by simp only; omega)

theorem clearPaletteColor_yields {index : Nat} (inside : index < palette.length) :
    Yields (clearPaletteColor palette index) (fun _ => True) Refused := by
  rw [clearPaletteColor, List.getElem?_eq_getElem inside]
  exact .pure trivial

theorem clearWriteRlexPixel_keeps (placed : subcodec.Placed width height)
    (inside : pixelIndex < subcodec.width * subcodec.height) (color : Pixel) :
    ClearKeeps banded (width * height) (clearWriteRlexPixel subcodec width pixelIndex color)
      fun _ => True :=
  .put _ (placed.inside (Nat.div_lt_of_lt_mul inside) (Nat.mod_lt _ placed.some))

theorem clearRlexLoop_keeps (placed : subcodec.Placed width height) {fuel : Nat}
    (enough : subcodec.bitmapData.length ≤ offset + fuel)
    (inside : pixelIndex ≤ subcodec.width * subcodec.height) :
    ClearKeeps banded (width * height) (clearRlexLoop subcodec palette width
      (subcodec.width * subcodec.height) fuel offset pixelIndex) fun _ => True := by
  induction fuel generalizing offset pixelIndex with
  | zero =>
    unfold clearRlexLoop
    exact .ite (fun _ => .pure trivial) fun more => absurd enough (by omega)
  | succ fuel ih =>
    unfold clearRlexLoop
    refine .ite (fun _ => .pure trivial) fun more => ?_
    refine .bind (.lift (clearSub_yields (by omega))) fun left same => ?_
    refine .ite (fun _ => .refuse nofun) fun two => ?_
    refine .bind (.lift (clearByteAt_yields (by omega))) fun token _ =>
      .bind (.lift (clearRlexRunLength_yields (by omega))) fun ⟨run, next⟩ later => ?_
    simp only at later
    refine .ite (fun _ => .refuse nofun) fun ordered =>
      .bind (.lift (clearSub_yields (by omega))) fun startIndex begins =>
      .ite (fun _ => .refuse nofun) fun known => ?_
    refine .bind (.lift (clearSub_yields inside)) fun left' same' => ?_
    refine .ite (fun _ => .refuse nofun) fun room => ?_
    refine .bind (.lift (clearPaletteColor_yields (by omega))) fun color _ => ?_
    refine .bind (.forM fun i held => clearWriteRlexPixel_keeps placed ?_ color) fun _ _ => ?_
    · have small := List.mem_range.mp held
      omega
    refine .bind (.lift (clearSub_yields (by omega))) fun left'' same'' => ?_
    refine .ite (fun _ => .refuse nofun) fun room' => ?_
    refine .bind (.forM fun i held => .ite (fun _ => .refuse nofun) fun known' =>
      .bind (.lift (clearPaletteColor_yields (by omega))) fun color' _ =>
        clearWriteRlexPixel_keeps placed ?_ color') fun _ _ => ih (by omega) (by omega)
    have small := List.mem_range.mp held
    omega

theorem clearDecodeRlexSubcodec_keeps :
    ClearKeeps banded (width * height) (clearDecodeRlexSubcodec subcodec width height) fun _ => True := by
  refine clearFits_keeps fun placed => .ite (fun _ => .refuse nofun) fun some => ?_
  refine .bind (.lift (clearByteAt_yields (by omega))) fun paletteCount _ =>
    .ite (fun _ => .refuse nofun) fun counted => ?_
  refine .bind (.lift (clearRlexPalette_yields (by omega))) fun palette _ => ?_
  exact .bind (clearRlexLoop_keeps placed (by omega) (Nat.zero_le _)) fun _ _ =>
    .ite (fun _ => .refuse nofun) fun _ => .pure trivial

theorem clearDecodeSubcodec_keeps (memory : NscodecMemory) (behind : Nat → UInt8) :
    ClearKeeps banded (width * height) (clearDecodeSubcodec memory behind subcodec width height)
      fun _ => True := by
  unfold clearDecodeSubcodec
  exact .ite (fun _ => clearApplyRawSubcodec_keeps behind) fun _ =>
    .ite (fun _ => clearDecodeNscSubcodec_keeps memory) fun _ =>
    .ite (fun _ => clearDecodeRlexSubcodec_keeps) fun _ => .refuse nofun

end Region

theorem clearSubcodecsLoop_keeps {memory : Nat → NscodecMemory} {behind : Nat → Nat → UInt8}
    (enough : data.length ≤ fuel) :
    ClearKeeps banded (width * height) (clearSubcodecsLoop memory behind width height fuel data)
      fun _ => True := by
  induction fuel generalizing data with
  | zero =>
    cases data with
    | nil => exact .pure trivial
    | cons byte rest => cases enough
  | succ fuel ih =>
    cases data with
    | nil => exact .pure trivial
    | cons byte rest =>
      refine .bind (.lift (clearParseSubcodec_yields _)) fun ⟨subcodec, rest'⟩ shorter =>
        .bind (clearDecodeSubcodec_keeps _ _) fun _ _ => ih ?_
      simp only [List.length_cons] at shorter enough
      omega

/-! ## The composition -/

theorem clearLayer_keeps {size : Nat} {layer : Bytes → ClearEffect Unit}
    (keeps : ClearKeeps banded size (layer data) fun _ => True) :
    ClearKeeps banded size (clearLayer data layer) fun _ => True :=
  .ite (fun _ => keeps) fun _ => .pure trivial

theorem clearStoreGlyph_keeps {size : Nat} (memory : Bool) (glyphIndex width height : Nat) :
    ClearKeeps banded size (clearStoreGlyph memory glyphIndex width height) fun _ => True := by
  unfold clearStoreGlyph
  exact .ite (fun _ => .refuse nofun) fun _ => .ite (fun _ => .refuse nofun) fun _ =>
    .bind .get fun _ _ => .change (fun _ sound => ⟨sound.slots, sound.right, sound.cursor,
      sound.shortCursor⟩) (fun _ => rfl) fun _ tables => ⟨tables.vbarStorage,
      tables.shortVbarStorage, tables.vbarLengths, tables.shortVbarLengths⟩

structure ClearContext.Sound (context : ClearContext) : Prop where
  vbars : context.VbarsSound
  whole : context.nscodec.Whole

/-- The layers together: whether they are refused or not, the slots of the copy hold what they
    should, and no write went behind the end of the output. -/
theorem clearCompose_holds (memory : ClearMemory) (stream : ClearStream) (payload : ClearPayload)
    (height : Nat) (small : width < 2 ^ 16) :
    Holds (fun work : ClearWork => work.context.Sound)
      (clearCompose memory stream payload width height) (fun _ work => work.context.Sound)
      fun stop work => Refused stop ∧ work.context.Sound := by
  have forget {m : ClearEffect Unit} (keeps : ClearKeeps False (width * height) m fun _ => True) :
      Holds (ClearWork.Sound False (width * height)) m (fun _ work => work.context.Sound)
        fun stop work => Refused stop ∧ work.context.Sound :=
    Holds.weaken keeps (fun _ sound => sound) (fun _ _ held => ⟨held.1.vbars, held.1.whole⟩)
      fun _ _ held => ⟨held.1, held.2.vbars, held.2.whole⟩
  have resets : Holds (fun work : ClearWork => work.context.Sound)
      (ClearWork.change fun context =>
        if stream.has clearFlagCacheReset then context.reset else context)
      (fun _ work => work.context.Sound) fun stop work => Refused stop ∧ work.context.Sound := by
    refine .modify fun work sound => ?_
    simp only
    split
    · exact ⟨sound.vbars.reset, sound.whole⟩
    · exact sound
  have clears : Holds (fun work : ClearWork => work.context.Sound)
      (modify fun work => { work with output := Memory.filled (width * height) {} })
      (fun _ => ClearWork.Sound False (width * height))
      fun stop work => Refused stop ∧ work.context.Sound :=
    .modify fun _ sound => ⟨sound.vbars, sound.whole, rfl, nofun⟩
  unfold clearCompose
  refine .bind resets fun _ => .ite (fun _ => .stop fun _ sound => ⟨refused_returned nofun, sound⟩)
    fun _ => .bind clears fun _ => forget ?_
  refine .bind (clearLayer_keeps (clearDecodeResidual_keeps _ _ _)) fun _ _ =>
    .bind (clearLayer_keeps (clearDecodeBands_keeps _ _ small)) fun _ _ =>
    .bind (clearLayer_keeps (clearSubcodecsLoop_keeps (Nat.le_refl _))) fun _ _ => ?_
  split
  · exact clearStoreGlyph_keeps _ _ _ _
  · exact .pure trivial

end LibRdp.Graphics
