import LibRdp.Server.SurfacePresent
import LibRdp.Machine.Run

/-! # The framebuffer over a run

Whatever is called, the framebuffer is as large as the desktop, or it is not allocated yet.
-/

namespace LibRdp.Server

open Graphics Machine Coding Client

/-- The calls that use the framebuffer. -/
inductive SurfaceCall where
  | setDimensions (width height : Nat)
  | negotiate (desktopWidth desktopHeight : Nat)
  | blitBgra32 (x y width height stride : Nat) (pixels : Bytes)
  | present (x y width height : Nat)
  | flushRepaint

def SurfaceCall.effect (send : ServerOutput → Status) : SurfaceCall → SurfaceEffect Unit
  | .setDimensions width height => surfaceSetDimensions width height
  | .negotiate desktopWidth desktopHeight => surfaceNegotiate desktopWidth desktopHeight
  | .blitBgra32 x y width height stride pixels => surfaceBlitBgra32 x y width height stride pixels
  | .present x y width height => surfacePresent send x y width height
  | .flushRepaint => surfaceFlushRepaint send

def surfaceStep (send : ServerOutput → Status) (peer : SurfacePeer) (call : SurfaceCall) :
    Exec (Except Stop Unit × SurfacePeer) :=
  .ok (call.effect send peer)

abbrev KeepsFramed (m : SurfaceEffect α) : Prop :=
  Effect.Holds SurfacePeer.Framed m (fun _ => SurfacePeer.Framed) fun _ => SurfacePeer.Framed

variable {peer : SurfacePeer} {send : ServerOutput → Status}

theorem surfaceReturns_framed (status : Status) :
    KeepsFramed (surfaceReturns status : SurfaceEffect α) :=
  .stop fun _ framed => framed

theorem framed_of_none (none' : peer.framebuffer = none)
    (wide : desktopMinDimension ≤ peer.width.toNat ∧ peer.width.toNat ≤ desktopMaxDimension)
    (high : desktopMinDimension ≤ peer.height.toNat ∧ peer.height.toNat ≤ desktopMaxDimension) :
    peer.Framed := by
  refine ⟨wide, high, fun some => ?_, ?_⟩
  · rw [none'] at some
    cases some
  · rw [SurfacePeer.content, none', Option.getD_none, List.length_replicate, Nat.mul_comm _ 4]

theorem dimension_kept {size : Nat} (enough : ¬size < desktopMinDimension)
    (few : ¬size > desktopMaxDimension) : (UInt16.ofNat size).toNat = size ∧
      desktopMinDimension ≤ (UInt16.ofNat size).toNat ∧
      (UInt16.ofNat size).toNat ≤ desktopMaxDimension := by
  simp only [desktopMinDimension, desktopMaxDimension, UInt16.toNat_ofNat'] at enough few ⊢
  omega

theorem surfaceSetDimensions_framed (width height : Nat) :
    KeepsFramed (surfaceSetDimensions width height) := by
  refine .ite (fun _ => surfaceReturns_framed _) fun inside =>
    .ite (fun _ => surfaceReturns_framed _) fun _ => .modify fun peer _ => ?_
  simp only [not_or] at inside
  obtain ⟨width', wide⟩ := dimension_kept inside.1 inside.2.2.1
  obtain ⟨height', high⟩ := dimension_kept inside.2.1 inside.2.2.2
  refine ⟨wide, high, fun _ => by rw [width'], ?_⟩
  rw [width', height', SurfacePeer.content, Option.getD_some, List.length_replicate,
    Nat.mul_comm width 4]

theorem surfaceEnsure_framed : KeepsFramed surfaceEnsure :=
  .bind (.get fun _ framed => framed) fun _ => .ite (fun _ => .pure fun _ framed => framed)
    fun _ => surfaceSetDimensions_framed _ _

theorem surfaceNegotiate_framed (desktopWidth desktopHeight : Nat) :
    KeepsFramed (surfaceNegotiate desktopWidth desktopHeight) := by
  intro peer framed
  rw [surfaceNegotiate, Effect.get_bind]
  dsimp only
  generalize (if desktopWidth = 0 then peer.width.toNat else desktopWidth) = width
  generalize (if desktopHeight = 0 then peer.height.toNat else desktopHeight) = height
  split
  · exact surfaceReturns_framed _ peer framed
  rename_i enough
  split
  · exact surfaceReturns_framed _ peer framed
  rename_i few
  split
  · split
    · exact surfaceSetDimensions_framed width height peer framed
    · rename_i none'
      rw [not_or] at enough few
      refine Effect.Holds.modify (fun _ same => ?_) peer rfl
      subst same
      exact framed_of_none (Option.not_isSome_iff_eq_none.mp none')
        (dimension_kept enough.1 few.1).2 (dimension_kept enough.2 few.2).2
  · exact Effect.Holds.pure (fun _ framed => framed) peer framed

theorem SurfacePeer.Framed.recordStatus (framed : peer.Framed) (status : Status)
    (component : ErrorComponent) (phase message : String) :
    (peer.recordStatus status component phase message).Framed :=
  { framed with }

theorem surfaceRecords_framed {m : SurfaceEffect Unit} (keeps : KeepsFramed m)
    (phase message : String) : KeepsFramed (surfaceRecords phase message m) := by
  intro peer framed
  have held := keeps peer framed
  rw [surfaceRecords]
  split
  · rename_i status later ran
    refine ⟨fun _ _ same => (by cases congrArg Prod.fst same), fun _ last same => ?_⟩
    rw [← show later.recordStatus _ _ _ _ = last from congrArg Prod.snd same]
    exact (held.2 _ later ran).recordStatus _ _ _ _
  · exact held

theorem surfacePixels_framed : Effect.Holds SurfacePeer.Framed surfacePixels
    (fun pixels peer => peer.Framed ∧ peer.framebuffer = some pixels)
    fun _ => SurfacePeer.Framed := by
  intro peer framed
  rw [surfacePixels, Effect.get_bind]
  cases held : peer.framebuffer with
  | none => exact Effect.Holds.stop (fun _ framed => framed) peer framed
  | some pixels => exact Effect.Holds.pure (fun _ both => both) peer ⟨framed, held⟩

theorem surfaceBlitBgra32_framed (x y width height stride : Nat) (pixels : Bytes) :
    KeepsFramed (surfaceBlitBgra32 x y width height stride pixels) := by
  refine .ite (fun _ => surfaceReturns_framed _) fun _ =>
    .bind (surfaceRecords_framed surfaceEnsure_framed _ _) fun _ =>
      .bind (.get fun _ framed => framed) fun before => .ite (fun _ => ?_) fun _ =>
        .bind surfacePixels_framed fun framebuffer =>
          .bind (.lift ⟨fun _ _ => trivial, fun _ _ => trivial⟩ (fun _ _ _ held => held)
            fun _ _ _ held => held.1) fun rows => ?_
  · exact .bind (.modify fun _ framed => framed.recordStatus _ _ _ _) fun _ =>
      surfaceReturns_framed _
  -- the rows that are written do not change the length
  cases wrote : writeRows framebuffer (y * before.framebufferStride + x * 4)
      before.framebufferStride rows with
  | error fault =>
    exact .bind (.stop fun _ held => held.1) fun _ => .modify fun _ (held : False) => held.elim
  | ok next =>
    rintro peer ⟨framed, had⟩
    rw [access_ok, Effect.lift_ok_bind]
    refine Effect.Holds.modify (fun _ same => ?_) peer rfl
    subst same
    have length := framed.length
    rw [SurfacePeer.content, had] at length
    exact { framed with
      stride := fun _ => framed.stride (by rw [had]; rfl)
      length := (writeRows_length wrote).trans length }

theorem surfaceSend_framed (output : ServerOutput) : KeepsFramed (surfaceSend send output) := by
  unfold surfaceSend
  split
  · exact .modify fun _ framed => { framed with }
  · exact surfaceReturns_framed _

theorem presentTile_framed (x y width height : Nat) :
    KeepsFramed (presentTile send x y width height) := by
  refine .bind (.get fun _ framed => framed) fun peer => .ite (fun _ => surfaceReturns_framed _)
    fun _ => .ite (fun _ => surfaceReturns_framed _) fun _ =>
      .bind surfacePixels_framed fun framebuffer =>
        .bind (.lift ⟨fun _ _ => trivial, fun _ _ => trivial⟩ (fun _ _ _ held => held.1)
          fun _ _ _ held => held.1) fun rows => ?_
  dsimp only
  split
  · refine .ite (fun _ => surfaceSend_framed _) fun _ => ?_
    split
    · exact surfaceSend_framed _
    · exact surfaceReturns_framed _
  · exact surfaceReturns_framed _

theorem surfacePresentRect_framed (x y width height : Nat) :
    KeepsFramed (surfacePresentRect send x y width height) := by
  refine .bind (.get fun _ framed => framed) fun peer => .ite (fun _ => surfaceReturns_framed _)
    fun _ => .bind surfaceEnsure_framed fun _ => .bind (.get fun _ framed => framed) fun peer =>
      .ite (fun _ => surfaceReturns_framed _) fun _ => ?_
  split
  · exact surfaceReturns_framed _
  refine .ite (fun _ => surfaceReturns_framed _) fun _ =>
    .bind (.forM fun column _ => .ite (fun _ => surfaceReturns_framed _) fun _ =>
      .forM fun row _ => presentTile_framed _ _ _ _) fun _ => .modify fun _ framed => { framed with }

theorem surfaceCall_framed (call : SurfaceCall) : KeepsFramed (call.effect send) := by
  cases call with
  | setDimensions width height => exact surfaceSetDimensions_framed width height
  | negotiate desktopWidth desktopHeight => exact surfaceNegotiate_framed desktopWidth desktopHeight
  | blitBgra32 x y width height stride pixels =>
    exact surfaceBlitBgra32_framed x y width height stride pixels
  | present x y width height =>
    exact .bind (.get fun _ framed => framed) fun _ =>
      .ite (fun _ => .modify fun _ framed => { framed with }) fun _ =>
        surfaceRecords_framed (surfacePresentRect_framed x y width height) _ _
  | flushRepaint =>
    exact .bind (.get fun _ framed => framed) fun _ => .ite (fun _ => .pure fun _ framed => framed)
      fun _ => surfacePresentRect_framed _ _ _ _

theorem reachable_framed {later : SurfacePeer} (framed : peer.Framed)
    (reached : Reachable (surfaceStep send) peer later) : later.Framed := by
  refine reached.invariant SurfacePeer.Framed framed ?_
  intro before call result after framed taken
  have ran : call.effect send before = (result, after) := Except.ok.inj taken
  have held := @surfaceCall_framed send call before framed
  cases result with
  | ok a => exact held.1 a after ran
  | error stop => exact held.2 stop after ran

end LibRdp.Server
