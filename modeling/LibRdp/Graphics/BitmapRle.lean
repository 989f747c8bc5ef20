import LibRdp.Graphics.Bitmap

/-! # What the run-length decoder delivers

Every order takes bytes and writes pixels of the rectangle's depth. So the loop
ends within its fuel, and a stream that is accepted yields as many pixels as the
rectangle has, each no wider than its depth.
-/

namespace LibRdp.Graphics

open Machine

/-- Bits of a pixel value that the reader can deliver; of 32 it delivers 24. -/
def depthBits (bitsPerPixel : UInt16) : Nat := 8 * min (rleBytesPerPixel bitsPerPixel) 3

structure RleReader.Sound (reader : RleReader) : Prop where
  supported : 0 < rleBytesPerPixel reader.bitsPerPixel
  pixels : ∀ pixel ∈ reader.pixels, pixel < 2 ^ depthBits reader.bitsPerPixel
  foreground : reader.foreground < 2 ^ depthBits reader.bitsPerPixel

structure Advances (reader reader' : RleReader) : Prop where
  depth : reader'.bitsPerPixel = reader.bitsPerPixel
  shape : reader'.total = reader.total ∧ reader'.width = reader.width
  shorter : reader'.current.length ≤ reader.current.length
  sound : reader.Sound → reader'.Sound

theorem Advances.refl (reader : RleReader) : Advances reader reader :=
  ⟨rfl, ⟨rfl, rfl⟩, Nat.le_refl _, id⟩

theorem Advances.trans {r r' r'' : RleReader} (first : Advances r r') (second : Advances r' r'') :
    Advances r r'' where
  depth := second.depth.trans first.depth
  shape := ⟨second.shape.1.trans first.shape.1, second.shape.2.trans first.shape.2⟩
  shorter := Nat.le_trans second.shorter first.shorter
  sound := fun sound => second.sound (first.sound sound)

section Steps

variable {reader reader' : RleReader}

theorem bytesPerPixel_cases (bitsPerPixel : UInt16) (supported : 0 < rleBytesPerPixel bitsPerPixel) :
    bitsPerPixel = 8 ∨ bitsPerPixel = 15 ∨ bitsPerPixel = 16 ∨ bitsPerPixel = 24 ∨
      bitsPerPixel = 32 := by
  unfold rleBytesPerPixel at supported
  by_contra other
  simp only [not_or] at other
  obtain ⟨h8, h15, h16, h24, h32⟩ := other
  rw [if_neg h8, if_neg h15, if_neg h16, if_neg h24, if_neg h32] at supported
  exact absurd supported (by decide)

theorem rleWhite_lt {bitsPerPixel : UInt16} (supported : 0 < rleBytesPerPixel bitsPerPixel) :
    rleWhite bitsPerPixel < 2 ^ depthBits bitsPerPixel := by
  rcases bytesPerPixel_cases bitsPerPixel supported with rfl | rfl | rfl | rfl | rfl <;> decide

variable {start : RleReader} {current : Bytes}

theorem Advances.with_current (advanced : Advances start reader)
    (shorter : current.length ≤ start.current.length) (flag : Bool) :
    Advances start { reader with current := current, insertForeground := flag } where
  depth := advanced.depth
  shape := advanced.shape
  shorter := shorter
  sound := fun sound =>
    have sound' := advanced.sound sound
    ⟨sound'.supported, sound'.pixels, sound'.foreground⟩

theorem rlePreviousPixel_lt (sound : reader.Sound) :
    rlePreviousPixel reader < 2 ^ depthBits reader.bitsPerPixel := by
  have zero : 0 < 2 ^ depthBits reader.bitsPerPixel := Nat.two_pow_pos _
  unfold rlePreviousPixel
  split
  · exact zero
  cases found : reader.pixels[reader.pixels.length - reader.width]? with
  | none =>
    rw [List.getD_eq_getElem?_getD, found]
    exact zero
  | some pixel =>
    simpa [List.getD_eq_getElem?_getD, found] using
      sound.pixels pixel (List.mem_of_getElem? found)

theorem rleForegroundPixel_lt (sound : reader.Sound) :
    rleForegroundPixel reader < 2 ^ depthBits reader.bitsPerPixel := by
  unfold rleForegroundPixel
  split
  · exact sound.foreground
  · exact Nat.xor_lt_two_pow (rlePreviousPixel_lt sound) sound.foreground

theorem rleMaskPixel_lt (sound : reader.Sound) (mask : UInt8) (bit : Nat) :
    rleMaskPixel mask bit reader < 2 ^ depthBits reader.bitsPerPixel := by
  have zero : 0 < 2 ^ depthBits reader.bitsPerPixel := Nat.two_pow_pos _
  unfold rleMaskPixel
  split
  · split
    · exact sound.foreground
    · exact zero
  split
  · exact Nat.xor_lt_two_pow (rlePreviousPixel_lt sound) sound.foreground
  · exact rlePreviousPixel_lt sound

variable {pixel count : Nat} {code : UInt8}

theorem rleWritePixel_advances (wrote : rleWritePixel reader pixel = .ok reader')
    (narrow : reader.Sound → pixel < 2 ^ depthBits reader.bitsPerPixel) :
    Advances reader reader' := by
  unfold rleWritePixel at wrote
  split at wrote
  · cases wrote
  cases wrote
  refine ⟨rfl, ⟨rfl, rfl⟩, Nat.le_refl _, fun sound => ⟨sound.supported, ?_, sound.foreground⟩⟩
  intro p listed
  rcases List.mem_append.mp listed with old | new
  · exact sound.pixels p old
  · rw [List.mem_singleton.mp new]
    exact narrow sound

theorem rleReadPixel_advances (read : rleReadPixel reader = .ok (pixel, reader')) :
    Advances reader reader' ∧ reader'.current.length < reader.current.length ∧
      pixel < 2 ^ depthBits reader.bitsPerPixel := by
  have byte : ∀ i, (reader.current.getD i 0).toNat < 2 ^ 8 := fun i => UInt8.toNat_lt _
  have two : ∀ i j, (reader.current.getD i 0).toNat ||| (reader.current.getD j 0).toNat <<< 8 <
      2 ^ 16 := by
    intro i j
    refine Nat.or_lt_two_pow (Nat.lt_trans (byte i) (by decide)) ?_
    rw [Nat.shiftLeft_eq]
    have := byte j
    omega
  have three : ∀ i j k, (reader.current.getD i 0).toNat ||| (reader.current.getD j 0).toNat <<< 8 |||
      (reader.current.getD k 0).toNat <<< 16 < 2 ^ 24 := by
    intro i j k
    refine Nat.or_lt_two_pow (Nat.lt_trans (two i j) (by decide)) ?_
    rw [Nat.shiftLeft_eq]
    have := byte k
    omega
  unfold rleReadPixel at read
  simp only at read
  split at read
  · cases read
  next enough =>
    simp only [not_or, Nat.not_lt] at enough
    cases read
    refine ⟨⟨rfl, ⟨rfl, rfl⟩, by simp, fun sound => ⟨sound.supported, sound.pixels,
      sound.foreground⟩⟩, ?_, ?_⟩
    · simp only [List.length_drop]
      omega
    · obtain ⟨supported, -⟩ := enough
      rcases bytesPerPixel_cases reader.bitsPerPixel (by omega) with h | h | h | h | h <;>
        simp only [h]
      · exact byte 0
      · exact two 0 1
      · exact two 0 1
      · exact three 0 1 2
      · exact three 0 1 2

theorem rleWriteMany_advances {pixel : RleReader → Nat}
    (narrow : ∀ r : RleReader, r.bitsPerPixel = reader.bitsPerPixel → r.Sound →
      pixel r < 2 ^ depthBits reader.bitsPerPixel)
    (wrote : rleWriteMany pixel count reader = .ok reader') : Advances reader reader' := by
  induction count generalizing reader with
  | zero =>
    cases wrote
    exact Advances.refl _
  | succ count ih =>
    obtain ⟨next, first, rest⟩ := bind_eq_ok.mp wrote
    have one := rleWritePixel_advances first (narrow reader rfl)
    rw [← one.depth] at narrow
    exact one.trans (ih narrow rest)

theorem rleWriteBackground_advances (wrote : rleWriteBackground reader count = .ok reader') :
    Advances reader reader' := by
  refine rleWriteMany_advances (fun r same sound => ?_) wrote
  rw [← same]
  split
  · exact Nat.two_pow_pos _
  · exact rlePreviousPixel_lt sound

theorem rleWriteForeground_advances (wrote : rleWriteForeground reader count = .ok reader') :
    Advances reader reader' := by
  refine rleWriteMany_advances (fun r same sound => ?_) wrote
  rw [← same]
  exact rleForegroundPixel_lt sound

theorem rleRepeat_advances (narrow : pixel < 2 ^ depthBits reader.bitsPerPixel)
    (wrote : rleRepeat reader pixel count = .ok reader') : Advances reader reader' :=
  rleWriteMany_advances (fun _ _ _ => narrow) wrote

theorem rleWriteDithered_advances {a b : Nat} (low : a < 2 ^ depthBits reader.bitsPerPixel)
    (high : b < 2 ^ depthBits reader.bitsPerPixel)
    (wrote : rleWriteDithered a b count reader = .ok reader') : Advances reader reader' := by
  induction count generalizing reader with
  | zero =>
    cases wrote
    exact Advances.refl _
  | succ count ih =>
    obtain ⟨r, first, wrote⟩ := bind_eq_ok.mp wrote
    obtain ⟨r', second, rest⟩ := bind_eq_ok.mp wrote
    have one := rleWritePixel_advances first (fun _ => low)
    have two := rleWritePixel_advances second (fun _ => by rw [one.depth]; exact high)
    have both := one.trans two
    rw [← both.depth] at low high
    exact both.trans (ih low high rest)

variable {mask : UInt8}

theorem rleMaskLoop_advances {bit : Nat} (wrote : rleMaskLoop mask count bit reader = .ok reader') :
    Advances reader reader' := by
  induction count generalizing reader bit with
  | zero =>
    cases wrote
    exact Advances.refl _
  | succ count ih =>
    obtain ⟨r, first, rest⟩ := bind_eq_ok.mp wrote
    exact (rleWritePixel_advances first (fun sound => rleMaskPixel_lt sound mask bit)).trans
      (ih rest)

theorem rleWriteFgbg_advances (wrote : rleWriteFgbg reader mask count = .ok reader') :
    Advances reader reader' := by
  unfold rleWriteFgbg at wrote
  split at wrote
  · cases wrote
  · exact rleMaskLoop_advances wrote

theorem rleImagePixels_advances (wrote : rleImagePixels count reader = .ok reader') :
    Advances reader reader' := by
  induction count generalizing reader with
  | zero =>
    cases wrote
    exact Advances.refl _
  | succ count ih =>
    obtain ⟨⟨color, r⟩, read, wrote⟩ := bind_eq_ok.mp wrote
    obtain ⟨r', first, rest⟩ := bind_eq_ok.mp wrote
    obtain ⟨moved, -, narrow⟩ := rleReadPixel_advances read
    rw [← moved.depth] at narrow
    exact moved.trans ((rleWritePixel_advances first (fun _ => narrow)).trans (ih rest))

theorem rleReadForeground_advances {setsForeground : Bool}
    (read : rleReadForeground setsForeground reader = .ok reader') : Advances reader reader' := by
  unfold rleReadForeground at read
  split at read
  · obtain ⟨⟨pixel, r⟩, first, rest⟩ := bind_eq_ok.mp read
    cases rest
    obtain ⟨moved, -, narrow⟩ := rleReadPixel_advances first
    rw [← moved.depth] at narrow
    exact moved.trans
      ⟨rfl, ⟨rfl, rfl⟩, Nat.le_refl _, fun sound => ⟨sound.supported, sound.pixels, narrow⟩⟩
  · cases read
    exact Advances.refl _

/-- The masks are read from `current`, which the writes leave alone. -/
theorem rleImageMasks_advances {run : Nat} (advanced : Advances start reader)
    (shorter : current.length ≤ start.current.length)
    (wrote : rleImageMasks current run reader = .ok reader') : Advances start reader' := by
  induction current generalizing reader run with
  | nil =>
    simp only [rleImageMasks] at wrote
    split at wrote
    · cases wrote
    · cases wrote
      exact advanced.with_current shorter reader.insertForeground
  | cons mask current ih =>
    have fewer : current.length ≤ start.current.length := by
      rw [List.length_cons] at shorter
      omega
    simp only [rleImageMasks] at wrote
    split at wrote
    · obtain ⟨r, first, rest⟩ := bind_eq_ok.mp wrote
      exact ih (advanced.trans (rleWriteFgbg_advances first)) fewer rest
    split at wrote
    · exact (advanced.with_current fewer reader.insertForeground).trans
        (rleWriteFgbg_advances wrote)
    · cases wrote
      exact advanced.with_current shorter reader.insertForeground

def Consumes (reader reader' : RleReader) : Prop :=
  Advances reader reader' ∧ reader'.current.length < reader.current.length

theorem Consumes.then {r r' r'' : RleReader} (first : Consumes r r') (second : Advances r' r'') :
    Consumes r r'' :=
  ⟨first.1.trans second, Nat.lt_of_le_of_lt second.shorter first.2⟩

theorem rleTakeRun_consumes {run : Nat} (taken : rleTakeRun reader code = .ok (run, reader')) :
    Consumes reader reader' := by
  obtain ⟨⟨count, consumed⟩, measured, rest⟩ := bind_eq_ok.mp taken
  have short : ∀ {low : UInt8} {unit extra : Nat} {rest : Bytes},
      rleShortLength low unit extra rest = .ok (count, consumed) → 1 ≤ consumed := by
    intro low unit extra rest measured
    unfold rleShortLength at measured
    split at measured
    · split at measured
      · cases measured
      · cases measured
        decide
    · cases measured
      decide
  have some_ : reader.current ≠ [] ∧ 1 ≤ consumed := by
    unfold rleRunLength at measured
    split at measured
    · cases measured
    next order rest here =>
      refine ⟨by rw [here]; exact List.cons_ne_nil _ _, ?_⟩
      split at measured
      · split at measured
        · split at measured
          · cases measured
          · cases measured
            decide
        · cases measured
      split at measured
      · exact short measured
      split at measured
      · exact short measured
      split at measured
      · exact short measured
      split at measured
      · exact short measured
      · cases measured
  have nonempty := List.length_pos_iff.mpr some_.1
  cases rest
  refine ⟨(Advances.refl reader).with_current (by simp) reader.insertForeground, ?_⟩
  simp only [List.length_drop]
  omega

theorem rleBackgroundOrder_consumes (ran : rleBackgroundOrder reader code = .ok reader') :
    Consumes reader reader' := by
  obtain ⟨⟨run, r⟩, taken, rest⟩ := bind_eq_ok.mp ran
  obtain ⟨r', wrote, last⟩ := bind_eq_ok.mp rest
  cases last
  have written : Advances r r' := by
    unfold rleBackgroundPixels at wrote
    split at wrote
    · split at wrote
      · cases wrote
      · obtain ⟨r'', first, rest⟩ := bind_eq_ok.mp wrote
        exact (rleWriteForeground_advances first).trans (rleWriteBackground_advances rest)
    · exact rleWriteBackground_advances wrote
  exact (rleTakeRun_consumes taken).then (written.with_current written.shorter true)

theorem rleForegroundOrder_consumes {code : UInt8} (nonempty : reader.current ≠ [])
    (supported : 0 < rleBytesPerPixel reader.bitsPerPixel)
    (ran : rleForegroundOrder reader code = .ok reader') : Consumes reader reader' := by
  have some_ := List.length_pos_iff.mpr nonempty
  have next : Consumes reader { reader with current := reader.current.drop 1 } :=
    ⟨(Advances.refl reader).with_current (by simp) reader.insertForeground, by
      simp only [List.length_drop]
      omega⟩
  unfold rleForegroundOrder at ran
  split at ran
  · obtain ⟨⟨run, r⟩, taken, rest⟩ := bind_eq_ok.mp ran
    obtain ⟨r', read, wrote⟩ := bind_eq_ok.mp rest
    exact ((rleTakeRun_consumes taken).then (rleReadForeground_advances read)).then
      (rleWriteForeground_advances wrote)
  split at ran
  · obtain ⟨⟨run, r⟩, taken, rest⟩ := bind_eq_ok.mp ran
    obtain ⟨⟨a, r₁⟩, readA, rest⟩ := bind_eq_ok.mp rest
    obtain ⟨⟨b, r₂⟩, readB, wrote⟩ := bind_eq_ok.mp rest
    obtain ⟨movedA, -, narrowA⟩ := rleReadPixel_advances readA
    obtain ⟨movedB, -, narrowB⟩ := rleReadPixel_advances readB
    rw [← movedA.depth, ← movedB.depth] at narrowA
    rw [← movedB.depth] at narrowB
    exact (((rleTakeRun_consumes taken).then movedA).then movedB).then
      (rleWriteDithered_advances narrowA narrowB wrote)
  split at ran
  · obtain ⟨⟨run, r⟩, taken, rest⟩ := bind_eq_ok.mp ran
    obtain ⟨⟨color, r'⟩, read, wrote⟩ := bind_eq_ok.mp rest
    obtain ⟨moved, -, narrow⟩ := rleReadPixel_advances read
    rw [← moved.depth] at narrow
    exact ((rleTakeRun_consumes taken).then moved).then (rleRepeat_advances narrow wrote)
  split at ran
  · obtain ⟨⟨run, r⟩, taken, rest⟩ := bind_eq_ok.mp ran
    obtain ⟨r', read, wrote⟩ := bind_eq_ok.mp rest
    exact ((rleTakeRun_consumes taken).then (rleReadForeground_advances read)).then
      (rleImageMasks_advances (Advances.refl r') (Nat.le_refl _) wrote)
  split at ran
  · obtain ⟨⟨run, r⟩, taken, wrote⟩ := bind_eq_ok.mp ran
    exact (rleTakeRun_consumes taken).then (rleImagePixels_advances wrote)
  split at ran
  · exact next.then (rleWriteFgbg_advances ran)
  split at ran
  · refine next.then (rleWritePixel_advances ran (fun _ => ?_))
    split
    · exact rleWhite_lt supported
    · exact Nat.two_pow_pos _
  · cases ran

theorem rleOrder_consumes (nonempty : reader.current ≠ [])
    (supported : 0 < rleBytesPerPixel reader.bitsPerPixel)
    (ran : rleOrder reader code = .ok reader') : Consumes reader reader' := by
  unfold rleOrder at ran
  split at ran
  · exact rleBackgroundOrder_consumes ran
  have cleared := (Advances.refl reader).with_current (Nat.le_refl _) false
  obtain ⟨advanced, fewer⟩ := @rleForegroundOrder_consumes { reader with insertForeground := false }
    _ _ nonempty supported ran
  exact ⟨cleared.trans advanced, fewer⟩

end Steps

theorem rleLoop_advances {fuel : Nat} {reader reader' : RleReader}
    (supported : 0 < rleBytesPerPixel reader.bitsPerPixel)
    (ran : rleLoop fuel reader = .ok reader') : Advances reader reader' := by
  induction fuel generalizing reader with
  | zero => cases ran
  | succ fuel ih =>
    unfold rleLoop at ran
    split at ran
    · cases ran
      exact Advances.refl _
    next header rest here =>
      obtain ⟨r, ordered, later⟩ := bind_eq_ok.mp ran
      have nonempty : reader.current ≠ [] := by
        rw [here]
        exact List.cons_ne_nil _ _
      obtain ⟨advanced, -⟩ := rleOrder_consumes nonempty supported ordered
      exact advanced.trans (ih (by rw [advanced.depth]; exact supported) later)

theorem rleDecodeStream_ok {data : Bytes} {width height bitsPerPixel : UInt16} {pixels : List Nat}
    (expands : rleDecodeStream data width height bitsPerPixel = .ok pixels) :
    pixels.length = width.toNat * height.toNat ∧
      ∀ pixel ∈ pixels, pixel < 2 ^ depthBits bitsPerPixel := by
  unfold rleDecodeStream at expands
  split at expands
  · cases expands
  next guard =>
    simp only [not_or] at guard
    have supported : 0 < rleBytesPerPixel bitsPerPixel := Nat.pos_of_ne_zero guard.2.2
    split at expands
    · cases expands
    obtain ⟨reader, ran, last⟩ := bind_eq_ok.mp expands
    split at last
    · next full =>
        cases last
        have advanced := rleLoop_advances supported ran
        have sound := advanced.sound
          ⟨supported, fun pixel listed => absurd listed List.not_mem_nil, rleWhite_lt supported⟩
        refine ⟨full.trans advanced.shape.1, ?_⟩
        have narrow := sound.pixels
        rw [advanced.depth] at narrow
        exact narrow
    · cases last

end LibRdp.Graphics
