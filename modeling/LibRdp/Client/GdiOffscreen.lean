import LibRdp.Common
import LibRdp.Machine.Run
import LibRdp.Machine.Table

/-! # Offscreen bitmaps and the current drawing surface

Drawing goes to the screen or to an offscreen bitmap that a switch order chose. Offscreen
bitmaps come and go: an order that creates one deletes others first, replaces the one of
its own id and, if all slots are taken, evicts the one in the slot of its id. A deletion
and a clear bring the screen back if the current surface goes; an eviction does not.
-/

namespace LibRdp.Client

open Machine Machine.Table

/-- `RDP_SESSION_GDI_OFFSCREEN_CACHE_SLOTS` and `RDP_SESSION_GDI_SCREEN_BITMAP_SURFACE`. -/
def gdiOffscreenCacheSlots : Nat := 256
def gdiScreenBitmapSurface : Nat := 0xffff

/-- `librdp_surface`, as far as orders choose between surfaces. -/
structure Surface where
  width : Nat
  height : Nat
  deriving Repr, DecidableEq

/-- `rdp_session_gdi_offscreen_bitmap`. -/
structure OffscreenBitmap where
  active : Bool := false
  bitmapId : Nat := 0
  surface : Option Surface := none
  deriving Repr, DecidableEq

structure GdiSurfaces where
  surface : Option Surface
  offscreenCache : List OffscreenBitmap := List.replicate gdiOffscreenCacheSlots {}
  currentSurfaceId : Nat := gdiScreenBitmapSurface
  deriving Repr, DecidableEq

/-- `rdp_gdi_create_offscreen_bitmap_order`. -/
structure CreateOffscreenBitmapOrder where
  bitmapId : Nat
  width : Nat
  height : Nat
  deleteIndices : List Nat := []
  deriving Repr, DecidableEq

namespace GdiSurfaces

/-- `rdp_session_gdi_offscreen_find`. -/
def offscreenFind (session : GdiSurfaces) (bitmapId : Nat) : Option (Nat × OffscreenBitmap) :=
  lookup (fun entry => entry.active && entry.bitmapId == bitmapId) session.offscreenCache

/-- `rdp_session_gdi_offscreen_delete`. -/
def offscreenDelete (session : GdiSurfaces) (bitmapId : Nat) : GdiSurfaces :=
  match session.offscreenFind bitmapId with
  | none => session
  | some (i, _) =>
      { session with
        offscreenCache := session.offscreenCache.set i {}
        currentSurfaceId :=
          if session.currentSurfaceId = bitmapId then gdiScreenBitmapSurface
          else session.currentSurfaceId }

/-- `rdp_session_gdi_offscreen_cache_clear`. -/
def offscreenCacheClear (session : GdiSurfaces) : GdiSurfaces :=
  { session with
    offscreenCache := List.replicate gdiOffscreenCacheSlots {}
    currentSurfaceId := gdiScreenBitmapSurface }

/-- `rdp_session_gdi_offscreen_slot`: the slot of a bitmap, a slot that is free, or the slot that
    the id falls on, emptied. -/
def offscreenSlot (session : GdiSurfaces) (bitmapId : Nat) : Nat × GdiSurfaces :=
  match session.offscreenFind bitmapId with
  | some (i, _) => (i, session)
  | none =>
      match lookup (fun entry => !entry.active) session.offscreenCache with
      | some (i, _) => (i, session)
      | none =>
          let i := bitmapId % gdiOffscreenCacheSlots
          (i, { session with offscreenCache := session.offscreenCache.set i {} })

/-- The fields that `rdp_session_gdi_create_offscreen_bitmap` checks. -/
def createAccepts (order : CreateOffscreenBitmapOrder) : Bool :=
  decide (order.bitmapId ≤ 0x7fff) && order.width != 0 && order.height != 0

/-- The end of `rdp_session_gdi_create_offscreen_bitmap`, where the bitmap gets its slot and its
    surface; `memory` tells whether the surface could be had. -/
def putOffscreen (session : GdiSurfaces) (memory : Bool) (order : CreateOffscreenBitmapOrder) :
    Status × GdiSurfaces :=
  let (i, session) := session.offscreenSlot order.bitmapId
  if !memory then (.noMemory, session)
  else
    let entry : OffscreenBitmap :=
      { active := true, bitmapId := order.bitmapId
        surface := some { width := order.width, height := order.height } }
    (.ok, { session with offscreenCache := session.offscreenCache.set i entry })

/-- `rdp_session_gdi_create_offscreen_bitmap`. -/
def createOffscreenBitmap (session : GdiSurfaces) (memory : Bool)
    (order : CreateOffscreenBitmapOrder) : Status × GdiSurfaces :=
  if !createAccepts order then (.invalidArgument, session)
  else (order.deleteIndices.foldl offscreenDelete session).putOffscreen memory order

/-- `rdp_session_gdi_switch_surface`. -/
def switchSurface (session : GdiSurfaces) (bitmapId : Nat) : Status × GdiSurfaces :=
  if bitmapId = gdiScreenBitmapSurface then
    (.ok, { session with currentSurfaceId := gdiScreenBitmapSurface })
  else if (session.offscreenFind bitmapId).isNone then (.protocolError, session)
  else (.ok, { session with currentSurfaceId := bitmapId })

/-- `rdp_session_gdi_target_surface`. -/
def targetSurface (session : GdiSurfaces) : Option Surface :=
  if session.currentSurfaceId = gdiScreenBitmapSurface then session.surface
  else (session.offscreenFind session.currentSurfaceId).bind fun found => found.2.surface

end GdiSurfaces

inductive SurfaceOrder where
  | create (memory : Bool) (order : CreateOffscreenBitmapOrder)
  | switch (bitmapId : Nat)
  | clear
  deriving Repr, DecidableEq

def applySurfaceOrder (session : GdiSurfaces) : SurfaceOrder → Status × GdiSurfaces
  | .create memory order => session.createOffscreenBitmap memory order
  | .switch bitmapId => session.switchSurface bitmapId
  | .clear => (.ok, session.offscreenCacheClear)

def surfaceStep (session : GdiSurfaces) (order : SurfaceOrder) : Exec (Status × GdiSurfaces) :=
  .ok (applySurfaceOrder session order)

theorem surfaceStep_ok (session : GdiSurfaces) (order : SurfaceOrder) :
    surfaceStep session order =
      .ok ((applySurfaceOrder session order).1, (applySurfaceOrder session order).2) := rfl

/-! ## What is promised of the current surface -/

def GdiSurfaces.Holds (session : GdiSurfaces) (bitmapId : Nat) : Prop :=
  ∃ (i : Nat) (entry : OffscreenBitmap), session.offscreenCache[i]? = some entry ∧
    entry.active = true ∧ entry.bitmapId = bitmapId

/-- The current surface is the screen or an offscreen bitmap that is there. -/
def GdiSurfaces.CurrentExists (session : GdiSurfaces) : Prop :=
  session.currentSurfaceId = gdiScreenBitmapSurface ∨ session.Holds session.currentSurfaceId

structure GdiSurfaces.TableSound (session : GdiSurfaces) : Prop where
  slots : session.offscreenCache.length = gdiOffscreenCacheSlots
  ids : Distinct (·.active) (·.bitmapId) session.offscreenCache
  range : Every (fun entry => entry.active = true → entry.bitmapId ≤ 0x7fff) session.offscreenCache

/-- The bitmap that stands in the way of a new one: no slot has its id or is free, and it holds the
    slot that the id falls on. -/
def GdiSurfaces.victim (session : GdiSurfaces) (bitmapId : Nat) : Option OffscreenBitmap :=
  if (session.offscreenFind bitmapId).isNone &&
      (lookup (fun entry => !entry.active) session.offscreenCache).isNone then
    session.offscreenCache[bitmapId % gdiOffscreenCacheSlots]?
  else none

/-- The order creates a bitmap that, after its deletions, takes the slot of the current surface. -/
def GdiSurfaces.evictsCurrent (session : GdiSurfaces) : SurfaceOrder → Bool
  | .create _ order =>
      let kept := order.deleteIndices.foldl GdiSurfaces.offscreenDelete session
      GdiSurfaces.createAccepts order &&
        (kept.victim order.bitmapId).any (fun entry => entry.bitmapId == kept.currentSurfaceId)
  | _ => false

def SparesCurrent (session : GdiSurfaces) (order : SurfaceOrder) : Prop :=
  session.evictsCurrent order = false

/-- The surface that is current after an order that was answered with `status`. -/
def surfaceAfter (current : Nat) (status : Status) : SurfaceOrder → Nat
  | .create _ order =>
      if GdiSurfaces.createAccepts order ∧ current ∈ order.deleteIndices then
        gdiScreenBitmapSurface
      else current
  | .switch bitmapId => if status = .ok then bitmapId else current
  | .clear => gdiScreenBitmapSurface

/-! ## Searches -/

section Searches

variable {session : GdiSurfaces} {bitmapId i : Nat} {entry : OffscreenBitmap}

theorem offscreenFind_some (found : session.offscreenFind bitmapId = some (i, entry)) :
    session.offscreenCache[i]? = some entry ∧ entry.active = true ∧ entry.bitmapId = bitmapId := by
  obtain ⟨held, passes⟩ := lookup_some found
  simp only [Bool.and_eq_true, beq_iff_eq] at passes
  exact ⟨held, passes⟩

theorem offscreenFind_none (missed : session.offscreenFind bitmapId = none) :
    ¬ session.Holds bitmapId := by
  intro ⟨i, entry, held, active, same⟩
  have fails := lookup_none missed held
  simp [active, same] at fails

theorem offscreenFind_isNone : (session.offscreenFind bitmapId).isNone ↔
    ¬ session.Holds bitmapId := by
  cases found : session.offscreenFind bitmapId with
  | none => simpa using offscreenFind_none found
  | some hit =>
    obtain ⟨held, active, same⟩ := offscreenFind_some found
    simp only [Option.isNone_some, Bool.false_eq_true, false_iff, not_not]
    exact ⟨hit.1, hit.2, held, active, same⟩

theorem full_active (full : lookup (fun entry => !entry.active) session.offscreenCache = none)
    (held : session.offscreenCache[i]? = some entry) : entry.active = true := by
  simpa using lookup_none full held

theorem GdiSurfaces.TableSound.not_screen (sound : session.TableSound) :
    ¬ session.Holds gdiScreenBitmapSurface := by
  intro ⟨i, entry, held, active, same⟩
  have small := sound.range held active
  rw [same] at small
  exact absurd small (by decide)

end Searches

/-! ## Deletions -/

section Deletions

variable {session : GdiSurfaces} {bitmapId : Nat}

variable (sound : session.TableSound)
include sound

theorem empty_slot_sound (i : Nat) :
    ({ session with offscreenCache := session.offscreenCache.set i {} } :
      GdiSurfaces).TableSound where
  slots := by simpa using sound.slots
  ids := sound.ids.set nofun
  range := sound.range.set nofun

theorem empty_slot_holds {i : Nat} {entry : OffscreenBitmap}
    (held : session.offscreenCache[i]? = some entry) (active : entry.active = true) (other : Nat) :
    ({ session with offscreenCache := session.offscreenCache.set i {} } : GdiSurfaces).Holds other ↔
      session.Holds other ∧ other ≠ entry.bitmapId := by
  constructor
  · rintro ⟨j, kept, atJ, activeJ, sameJ⟩
    cases getElem?_set_cases atJ with
    | inl here =>
      rw [here.2.1] at activeJ
      cases activeJ
    | inr there =>
      refine ⟨⟨j, kept, there.2, activeJ, sameJ⟩, ?_⟩
      intro equal
      have key : kept.bitmapId = entry.bitmapId := sameJ.trans equal
      exact there.1 (sound.ids there.2 held activeJ active key)
  · rintro ⟨⟨j, kept, atJ, activeJ, sameJ⟩, apart⟩
    refine ⟨j, kept, ?_, activeJ, sameJ⟩
    have off : i ≠ j := by
      rintro rfl
      rw [held] at atJ
      cases atJ
      exact apart sameJ.symm
    simp only [List.getElem?_set_ne off]
    exact atJ

theorem offscreenDelete_sound : (session.offscreenDelete bitmapId).TableSound := by
  unfold GdiSurfaces.offscreenDelete
  split
  · exact sound
  rename_i i _ _
  have emptied := empty_slot_sound sound i
  exact ⟨emptied.slots, emptied.ids, emptied.range⟩

theorem offscreenDelete_holds (other : Nat) :
    (session.offscreenDelete bitmapId).Holds other ↔ session.Holds other ∧ other ≠ bitmapId := by
  unfold GdiSurfaces.offscreenDelete
  split
  · rename_i missed
    have none := offscreenFind_none missed
    constructor
    · intro holds
      exact ⟨holds, fun same => none (same ▸ holds)⟩
    · exact fun both => both.1
  rename_i i entry found
  obtain ⟨held, active, rfl⟩ := offscreenFind_some found
  exact empty_slot_holds sound held active other

omit sound in
theorem offscreenDelete_current (exists' : session.CurrentExists) :
    (session.offscreenDelete bitmapId).currentSurfaceId =
      if session.currentSurfaceId = bitmapId then gdiScreenBitmapSurface
      else session.currentSurfaceId := by
  unfold GdiSurfaces.offscreenDelete
  split
  · rename_i missed
    split
    · rename_i same
      cases exists' with
      | inl screen => exact screen
      | inr holds => exact absurd (same ▸ holds) (offscreenFind_none missed)
    · rfl
  · rfl

theorem offscreenDelete_exists (exists' : session.CurrentExists) :
    (session.offscreenDelete bitmapId).CurrentExists := by
  unfold GdiSurfaces.CurrentExists
  rw [offscreenDelete_current exists', offscreenDelete_holds sound]
  split
  · exact .inl rfl
  rename_i other
  cases exists' with
  | inl screen => exact .inl screen
  | inr holds => exact .inr ⟨holds, other⟩

omit sound

theorem deletes_sound (ids : List Nat) (sound : session.TableSound) :
    (ids.foldl GdiSurfaces.offscreenDelete session).TableSound := by
  induction ids generalizing session with
  | nil => exact sound
  | cons id ids ih => exact ih (offscreenDelete_sound sound)

theorem deletes_exists (ids : List Nat) (sound : session.TableSound)
    (exists' : session.CurrentExists) :
    (ids.foldl GdiSurfaces.offscreenDelete session).CurrentExists := by
  induction ids generalizing session with
  | nil => exact exists'
  | cons id ids ih => exact ih (offscreenDelete_sound sound) (offscreenDelete_exists sound exists')

theorem deletes_current (ids : List Nat) (sound : session.TableSound)
    (exists' : session.CurrentExists) :
    (ids.foldl GdiSurfaces.offscreenDelete session).currentSurfaceId =
      if session.currentSurfaceId ∈ ids then gdiScreenBitmapSurface
      else session.currentSurfaceId := by
  induction ids generalizing session with
  | nil => simp
  | cons id ids ih =>
    rw [List.foldl_cons, ih (offscreenDelete_sound sound) (offscreenDelete_exists sound exists'),
      offscreenDelete_current exists']
    by_cases same : session.currentSurfaceId = id
    · simp [same]
    · simp [same]

end Deletions

/-! ## Creation -/

section Creation

variable {session : GdiSurfaces} {bitmapId : Nat}

/-- The slot that a bitmap gets: it has the bitmap's id, or is free and no other slot has it. -/
def SlotFor (session : GdiSurfaces) (bitmapId i : Nat) : Prop :=
  ∃ entry, session.offscreenCache[i]? = some entry ∧
    (entry.active = true → entry.bitmapId = bitmapId) ∧
    (entry.active = false → ¬ session.Holds bitmapId)

variable (sound : session.TableSound)
include sound

theorem offscreenSlot_spec (bitmapId : Nat) :
    (session.offscreenSlot bitmapId).2.TableSound ∧
      (session.offscreenSlot bitmapId).2.currentSurfaceId = session.currentSurfaceId ∧
      SlotFor (session.offscreenSlot bitmapId).2 bitmapId (session.offscreenSlot bitmapId).1 ∧
      ∀ other, (session.offscreenSlot bitmapId).2.Holds other ↔
        session.Holds other ∧
          (session.victim bitmapId).all (fun entry => entry.bitmapId != other) = true := by
  unfold GdiSurfaces.offscreenSlot GdiSurfaces.victim
  cases found : session.offscreenFind bitmapId with
  | some hit =>
    obtain ⟨held, active, same⟩ := offscreenFind_some found
    refine ⟨sound, rfl, ⟨hit.2, held, fun _ => same, ?_⟩, by simp⟩
    intro free
    rw [active] at free
    cases free
  | none =>
    have absent := offscreenFind_none found
    cases open' : lookup (fun entry => !entry.active) session.offscreenCache with
    | some hit =>
      obtain ⟨held, free⟩ := lookup_some open'
      simp only [Bool.not_eq_true'] at free
      refine ⟨sound, rfl, ⟨hit.2, held, ?_, fun _ => absent⟩, by simp⟩
      intro active
      rw [free] at active
      cases active
    | none =>
      have inside : bitmapId % gdiOffscreenCacheSlots < session.offscreenCache.length := by
        rw [sound.slots]
        exact Nat.mod_lt _ (by decide)
      have held := List.getElem?_eq_getElem inside
      have active := full_active open' held
      have rest := empty_slot_holds sound held active
      refine ⟨empty_slot_sound sound _, rfl, ⟨{}, getElem?_set_held held, nofun, ?_⟩, ?_⟩
      · intro _ holds
        exact absent ((rest bitmapId).mp holds).1
      · intro other
        rw [rest other, held]
        simp only [Option.isNone_none, Bool.and_self, if_true, Option.all_some, bne_iff_ne]
        rw [ne_comm]

variable {entry : OffscreenBitmap}

omit sound in
theorem victim_some (met : session.victim bitmapId = some entry) :
    session.Holds entry.bitmapId ∧ ¬ session.Holds bitmapId := by
  unfold GdiSurfaces.victim at met
  split at met
  · rename_i none
    simp only [Bool.and_eq_true, Option.isNone_iff_eq_none] at none
    exact ⟨⟨_, entry, met, full_active none.2 met, rfl⟩, offscreenFind_none none.1⟩
  · exact nomatch met

theorem fill_slot_sound {i : Nat} (slot : SlotFor session bitmapId i)
    (id : entry.bitmapId = bitmapId) (small : bitmapId ≤ 0x7fff) :
    ({ session with offscreenCache := session.offscreenCache.set i entry } :
      GdiSurfaces).TableSound := by
  obtain ⟨old, held, was, free⟩ := slot
  refine ⟨by simpa using sound.slots, ?_, ?_⟩
  · apply sound.ids.set
    intro _ j kept off atJ activeJ same
    have key : kept.bitmapId = bitmapId := same.trans id
    cases active : old.active with
    | true => exact off (sound.ids atJ held activeJ active (key.trans (was active).symm))
    | false => exact free active ⟨j, kept, atJ, activeJ, key⟩
  · apply sound.range.set
    intro _
    rw [id]
    exact small

omit sound in
theorem fill_slot_holds {i : Nat} {entry : OffscreenBitmap} (slot : SlotFor session bitmapId i)
    (active : entry.active = true) (id : entry.bitmapId = bitmapId) (other : Nat) :
    ({ session with offscreenCache := session.offscreenCache.set i entry } :
      GdiSurfaces).Holds other ↔ other = bitmapId ∨ session.Holds other := by
  obtain ⟨old, held, was, _⟩ := slot
  constructor
  · rintro ⟨j, kept, atJ, activeJ, sameJ⟩
    cases getElem?_set_cases atJ with
    | inl here =>
      left
      rw [← sameJ, here.2.1, id]
    | inr there => exact .inr ⟨j, kept, there.2, activeJ, sameJ⟩
  · intro either
    by_cases new : other = bitmapId
    · exact ⟨i, entry, getElem?_set_held held, active, id.trans new.symm⟩
    obtain ⟨j, kept, atJ, activeJ, sameJ⟩ := either.resolve_left new
    refine ⟨j, kept, ?_, activeJ, sameJ⟩
    have off : i ≠ j := by
      rintro rfl
      rw [held] at atJ
      cases atJ
      exact new (sameJ.symm.trans (was activeJ))
    simp only [List.getElem?_set_ne off]
    exact atJ

theorem putOffscreen_sound (memory : Bool) {order : CreateOffscreenBitmapOrder}
    (small : order.bitmapId ≤ 0x7fff) : (session.putOffscreen memory order).2.TableSound := by
  obtain ⟨slotSound, _, slot, _⟩ := offscreenSlot_spec sound order.bitmapId
  cases memory with
  | true => exact fill_slot_sound slotSound slot rfl small
  | false => exact slotSound

theorem putOffscreen_current (memory : Bool) (order : CreateOffscreenBitmapOrder) :
    (session.putOffscreen memory order).2.currentSurfaceId = session.currentSurfaceId := by
  obtain ⟨_, same, _⟩ := offscreenSlot_spec sound order.bitmapId
  cases memory with
  | true => exact same
  | false => exact same

theorem putOffscreen_holds (memory : Bool) (order : CreateOffscreenBitmapOrder) (other : Nat) :
    (session.putOffscreen memory order).2.Holds other ↔
      memory = true ∧ other = order.bitmapId ∨ session.Holds other ∧
        (session.victim order.bitmapId).all (fun entry => entry.bitmapId != other) = true := by
  obtain ⟨_, _, slot, kept⟩ := offscreenSlot_spec sound order.bitmapId
  rw [← kept other]
  cases memory with
  | true =>
    have filled := @fill_slot_holds _ _ _
      { active := true, bitmapId := order.bitmapId
        surface := some { width := order.width, height := order.height } } slot rfl rfl
    simp only [true_and]
    exact filled other
  | false =>
    simp only [Bool.false_eq_true, false_and, false_or]
    exact Iff.rfl

theorem putOffscreen_exists (exists' : session.CurrentExists) (memory : Bool)
    (order : CreateOffscreenBitmapOrder) :
    (session.putOffscreen memory order).2.CurrentExists ↔
      (session.victim order.bitmapId).any
        (fun entry => entry.bitmapId == session.currentSurfaceId) = false := by
  unfold GdiSurfaces.CurrentExists
  rw [putOffscreen_current sound, putOffscreen_holds sound]
  cases met : session.victim order.bitmapId with
  | none =>
    simp only [Option.all_none, and_true, Option.any_none, iff_true]
    cases exists' with
    | inl screen => exact .inl screen
    | inr there => exact .inr (.inr there)
  | some entry =>
    obtain ⟨itsOwn, absent⟩ := victim_some met
    simp only [Option.all_some, bne_iff_ne, Option.any_some, beq_eq_false_iff_ne]
    constructor
    · rintro (screen | ⟨_, new⟩ | ⟨_, apart⟩) equal
      · exact sound.not_screen (screen ▸ equal ▸ itsOwn)
      · exact absent (new ▸ equal ▸ itsOwn)
      · exact apart equal
    · intro apart
      cases exists' with
      | inl screen => exact .inl screen
      | inr there => exact .inr (.inr ⟨there, apart⟩)

end Creation

/-! ## Orders -/

section Orders

variable {session : GdiSurfaces}

theorem clear_sound : session.offscreenCacheClear.TableSound where
  slots := List.length_replicate
  ids := distinct_replicate _ rfl
  range := every_replicate _ nofun

theorem surfaceOrder_sound (sound : session.TableSound) (order : SurfaceOrder) :
    (applySurfaceOrder session order).2.TableSound := by
  cases order with
  | create memory order =>
    simp only [applySurfaceOrder, GdiSurfaces.createOffscreenBitmap]
    split
    · exact sound
    rename_i accepted
    have accepts : GdiSurfaces.createAccepts order = true := by simpa using accepted
    simp only [GdiSurfaces.createAccepts, Bool.and_eq_true, decide_eq_true_eq] at accepts
    exact putOffscreen_sound (deletes_sound _ sound) memory accepts.1.1
  | switch bitmapId =>
    simp only [applySurfaceOrder, GdiSurfaces.switchSurface]
    split
    · exact ⟨sound.slots, sound.ids, sound.range⟩
    split
    · exact sound
    · exact ⟨sound.slots, sound.ids, sound.range⟩
  | clear => exact clear_sound

theorem surfaceOrder_exists (sound : session.TableSound) (exists' : session.CurrentExists)
    (order : SurfaceOrder) :
    (applySurfaceOrder session order).2.CurrentExists ↔ SparesCurrent session order := by
  unfold SparesCurrent
  cases order with
  | create memory order =>
    simp only [applySurfaceOrder, GdiSurfaces.createOffscreenBitmap, GdiSurfaces.evictsCurrent]
    cases accepts : GdiSurfaces.createAccepts order with
    | false => simpa using exists'
    | true =>
      simp only [Bool.not_true, Bool.false_eq_true, if_false, Bool.true_and]
      exact putOffscreen_exists (deletes_sound _ sound) (deletes_exists _ sound exists') memory
        order
  | switch bitmapId =>
    simp only [GdiSurfaces.evictsCurrent, iff_true]
    simp only [applySurfaceOrder, GdiSurfaces.switchSurface]
    split
    · exact .inl rfl
    split
    · exact exists'
    rename_i found
    rw [offscreenFind_isNone, not_not] at found
    exact .inr found
  | clear =>
    simp only [GdiSurfaces.evictsCurrent, iff_true]
    exact .inl rfl

theorem surfaceOrder_current (sound : session.TableSound) (exists' : session.CurrentExists)
    (order : SurfaceOrder) : (applySurfaceOrder session order).2.currentSurfaceId =
      surfaceAfter session.currentSurfaceId (applySurfaceOrder session order).1 order := by
  cases order with
  | create memory order =>
    simp only [applySurfaceOrder, GdiSurfaces.createOffscreenBitmap, surfaceAfter]
    cases accepts : GdiSurfaces.createAccepts order with
    | false => simp
    | true =>
      have after := putOffscreen_current (deletes_sound order.deleteIndices sound) memory order
      rw [deletes_current _ sound exists'] at after
      simpa using after
  | switch bitmapId =>
    simp only [applySurfaceOrder, GdiSurfaces.switchSurface, surfaceAfter]
    split
    · rename_i screen
      simp [screen]
    split
    · rfl
    · rfl
  | clear => rfl

end Orders

/-! ## Runs -/

/-- In every run in which no creation evicts the current surface, the current surface is the screen
    or a bitmap that is there, no id is held twice, and the current surface moves only with a
    switch, a deletion of it or a clear. A creation that evicts it leaves it dangling. -/
theorem current_surface_exists {surface : Option Surface} {session : GdiSurfaces}
    (reached : ReachableWithin surfaceStep SparesCurrent { surface } session) :
    session.CurrentExists ∧
      Distinct (·.active) (·.bitmapId) session.offscreenCache ∧
      ∀ order, (applySurfaceOrder session order).2.currentSurfaceId =
          surfaceAfter session.currentSurfaceId (applySurfaceOrder session order).1 order ∧
        ((applySurfaceOrder session order).2.CurrentExists ↔ SparesCurrent session order) := by
  have invariant : session.TableSound ∧ session.CurrentExists := by
    apply reached.invariant (fun session => session.TableSound ∧ session.CurrentExists)
    · exact ⟨@clear_sound { surface }, .inl rfl⟩
    · intro s order status s' held spares taken
      have same : applySurfaceOrder s order = (status, s') := Except.ok.inj taken
      have sound := surfaceOrder_sound held.1 order
      have exists' := (surfaceOrder_exists held.1 held.2 order).mpr spares
      rw [same] at sound exists'
      exact ⟨sound, exists'⟩
  refine ⟨invariant.2, invariant.1.ids, ?_⟩
  intro order
  exact ⟨surfaceOrder_current invariant.1 invariant.2 order,
    surfaceOrder_exists invariant.1 invariant.2 order⟩

def smallBitmap (bitmapId : Nat) : SurfaceOrder := .create true { bitmapId, width := 4, height := 4 }

/-- A bitmap is created and drawn on, then deleted by the creation of another. -/
theorem current_surface_exists_deleted :
    let current := [smallBitmap 7, .switch 7].foldl
      (fun session order => (applySurfaceOrder session order).2) { surface := none }
    let after := (applySurfaceOrder current
      (.create true { bitmapId := 8, width := 4, height := 4, deleteIndices := [7] })).2
    current.currentSurfaceId = 7 ∧ after.CurrentExists ∧
      after.currentSurfaceId = gdiScreenBitmapSurface := by
  have start : ReachableWithin surfaceStep SparesCurrent { surface := none } _ := .init
  have created := start.step (i := smallBitmap 7) (by unfold SparesCurrent; decide +kernel)
    (surfaceStep_ok _ _)
  have switched := created.step (i := SurfaceOrder.switch 7) (by unfold SparesCurrent; rfl)
    (surfaceStep_ok _ _)
  have reached := switched.step
    (i := SurfaceOrder.create true { bitmapId := 8, width := 4, height := 4, deleteIndices := [7] })
    (by unfold SparesCurrent; decide +kernel) (surfaceStep_ok _ _)
  exact ⟨by decide +kernel, (current_surface_exists reached).1, by decide +kernel⟩

def smallEntry (bitmapId : Nat) : OffscreenBitmap :=
  { active := true, bitmapId, surface := some { width := 4, height := 4 } }

/-- The bitmaps 0 to `n - 1` in the slots of their ids. -/
def filledTo (n : Nat) : List OffscreenBitmap :=
  (List.range n).map smallEntry ++ List.replicate (gdiOffscreenCacheSlots - n) ({} : OffscreenBitmap)

variable {n : Nat}

theorem filledTo_find {id : Nat} (absent : n ≤ id) :
    lookup (fun entry => entry.active && entry.bitmapId == id) (filledTo n) = none := by
  cases found : lookup (fun entry => entry.active && entry.bitmapId == id) (filledTo n) with
  | none => rfl
  | some hit =>
    obtain ⟨held, passes⟩ := lookup_some found
    simp only [Bool.and_eq_true, beq_iff_eq] at passes
    cases List.mem_append.mp (List.mem_of_getElem? held : hit.2 ∈ filledTo n) with
    | inl front =>
      obtain ⟨k, small, same⟩ := List.mem_map.mp front
      have below := List.mem_range.mp small
      rw [← same] at passes
      have equal : k = id := passes.2
      omega
    | inr back =>
      rw [List.eq_of_mem_replicate back] at passes
      cases passes.1

theorem filledTo_active (n : Nat) :
    lookup (fun entry => !entry.active) ((List.range n).map smallEntry) = none := by
  cases found : lookup (fun entry => !entry.active) ((List.range n).map smallEntry) with
  | none => rfl
  | some hit =>
    obtain ⟨held, passes⟩ := lookup_some found
    obtain ⟨k, _, same⟩ := List.mem_map.mp (List.mem_of_getElem? held)
    rw [← same] at passes
    cases passes

theorem filledTo_free (room : n < gdiOffscreenCacheSlots) :
    lookup (fun entry => !entry.active) (filledTo n) = some (n, {}) := by
  obtain ⟨more, left⟩ := Nat.exists_eq_add_of_lt room
  have rest : gdiOffscreenCacheSlots - n = more + 1 := by omega
  rw [filledTo, lookup_append (filledTo_active n), rest, List.replicate_succ]
  simp [lookup]

theorem filledTo_first (n : Nat) :
    lookup (fun entry => entry.active && entry.bitmapId == 0) (filledTo (n + 1)) =
      some (0, smallEntry 0) := by
  rw [filledTo, List.range_succ_eq_map]
  rfl

theorem filledTo_set (room : n < gdiOffscreenCacheSlots) :
    (filledTo n).set n (smallEntry n) = filledTo (n + 1) := by
  obtain ⟨more, left⟩ := Nat.exists_eq_add_of_lt room
  have rest : gdiOffscreenCacheSlots - n = more + 1 := by omega
  have rest' : gdiOffscreenCacheSlots - (n + 1) = more := by omega
  rw [filledTo, filledTo, rest, rest', List.range_succ, List.replicate_succ,
    List.set_append_right _ _ (by simp)]
  simp

theorem create_fills (surface : Option Surface) (room : n ≤ gdiOffscreenCacheSlots) :
    ((List.range n).map smallBitmap).foldl (fun s order => (applySurfaceOrder s order).2)
      { surface } = { surface, offscreenCache := filledTo n } := by
  induction n with
  | zero => rfl
  | succ n ih =>
    rw [List.range_succ, List.map_append, List.foldl_append, ih (by omega)]
    have small : n ≤ 0x7fff := by
      have : gdiOffscreenCacheSlots = 256 := rfl
      omega
    have accepts : GdiSurfaces.createAccepts { bitmapId := n, width := 4, height := 4 } = true := by
      simp [GdiSurfaces.createAccepts, small]
    simp only [List.map_cons, List.map_nil, List.foldl_cons, List.foldl_nil, applySurfaceOrder,
      smallBitmap, GdiSurfaces.createOffscreenBitmap, accepts, Bool.not_true,
      Bool.false_eq_true, if_false, GdiSurfaces.putOffscreen, GdiSurfaces.offscreenSlot,
      GdiSurfaces.offscreenFind, filledTo_find (Nat.le_refl n), filledTo_free room]
    congr 1
    exact filledTo_set room

theorem targetSurface_none {session : GdiSurfaces} (dangling : ¬ session.CurrentExists) :
    session.targetSurface = none := by
  unfold GdiSurfaces.targetSurface
  rw [if_neg fun screen => dangling (.inl screen)]
  cases found : session.offscreenFind session.currentSurfaceId with
  | none => rfl
  | some hit => exact absurd (.inr ⟨hit.1, hit.2, offscreenFind_some found⟩) dangling

def drawnFull : GdiSurfaces :=
  { surface := some { width := 800, height := 600 }, offscreenCache := filledTo 256
    currentSurfaceId := 0 }

theorem drawnFull_sound : drawnFull.TableSound := by
  have keep : ∀ (orders : List SurfaceOrder) (session : GdiSurfaces), session.TableSound →
      (orders.foldl (fun s order => (applySurfaceOrder s order).2) session).TableSound := by
    intro orders
    induction orders with
    | nil => exact fun _ sound => sound
    | cons order orders ih => exact fun _ sound => ih _ (surfaceOrder_sound sound order)
  have filled := keep ((List.range 256).map smallBitmap) { surface := drawnFull.surface }
    (@clear_sound { surface := drawnFull.surface })
  rw [create_fills _ (Nat.le_refl 256)] at filled
  exact ⟨filled.slots, filled.ids, filled.range⟩

theorem drawnFull_exists : drawnFull.CurrentExists :=
  .inr ⟨0, smallEntry 0, (lookup_some (filledTo_first 255)).1, rfl, rfl⟩

theorem drawnFull_evicts : ¬ SparesCurrent drawnFull (smallBitmap 256) := by
  have full : lookup (fun entry => !entry.active) (filledTo 256) = none := by
    have unpadded : filledTo 256 = (List.range 256).map smallEntry := List.append_nil _
    rw [unpadded]
    exact filledTo_active 256
  have victim : drawnFull.victim 256 = some (smallEntry 0) := by
    have first : (filledTo 256)[256 % gdiOffscreenCacheSlots]? = some (smallEntry 0) :=
      (lookup_some (filledTo_first 255)).1
    simp [GdiSurfaces.victim, GdiSurfaces.offscreenFind, drawnFull, full,
      filledTo_find (Nat.le_refl 256), first]
  simp only [SparesCurrent, smallBitmap, GdiSurfaces.evictsCurrent, List.foldl_nil, victim]
  decide

/-- Bitmap 256 falls on the slot of bitmap 0: that one goes, stays the current surface, and there is
    nothing left to draw to. -/
theorem eviction_leaves_current_dangling :
    ∃ outs session, run surfaceStep { surface := some { width := 800, height := 600 } }
        ((List.range 256).map smallBitmap ++ [.switch 0, smallBitmap 256]) = .ok (outs, session) ∧
      ¬ session.CurrentExists ∧ session.targetSurface = none := by
  obtain ⟨outs, ran⟩ := @run_of_total _ _ _ surfaceStep applySurfaceOrder
    (fun _ _ => rfl) { surface := some { width := 800, height := 600 } }
    ((List.range 256).map smallBitmap ++ [.switch 0, smallBitmap 256])
  have switched : ∀ surface, (applySurfaceOrder
      { surface, offscreenCache := filledTo 256, currentSurfaceId := gdiScreenBitmapSurface }
      (.switch 0)).2 =
      { surface, offscreenCache := filledTo 256, currentSurfaceId := 0 } := by
    intro surface
    simp [applySurfaceOrder, GdiSurfaces.switchSurface, GdiSurfaces.offscreenFind,
      filledTo_first 255, gdiScreenBitmapSurface]
  rw [List.foldl_append, create_fills _ (Nat.le_refl 256), List.foldl_cons, switched,
    List.foldl_cons, List.foldl_nil] at ran
  have dangling := mt (surfaceOrder_exists drawnFull_sound drawnFull_exists
    (smallBitmap 256)).mp drawnFull_evicts
  exact ⟨outs, _, ran, dangling, targetSurface_none dangling⟩

end LibRdp.Client
