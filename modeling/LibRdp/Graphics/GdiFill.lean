import LibRdp.Graphics.GdiRender

/-! # The two orders that fill rectangles

OPAQUERECT and MULTIOPAQUERECT have their first seven fields in common: four coordinates and the
bytes of a colour. OPAQUERECT takes the first byte of the colour for all three, so the two orders
read alike only where these bytes are all sent or all left out, or where the stream ends too early
for both.
-/

namespace LibRdp.Graphics

open Coding

/-- A decoder between the field flags and the bounds check: the operation and what is left of the
    stream. -/
def decodeFields (decoder : OrderDecoder σ) (flags : Nat) (delta : Bool) (old : σ)
    (stream : Bytes) : Attempt (RenderOp × Bytes) := do
  let (fields, stream) ← decoder.layout.read (readField flags delta) old stream
  let op ← decoder.render none (decoder.settle fields)
  pure (op, stream)

def opaquePrior (rect : RenderRect) (color : Color) : OpaqueFields := { rect, color }

def multiOpaquePrior (rect : RenderRect) (color : Color) (entries : List RenderRect) :
    MultiOpaqueFields :=
  { rect, color, rects := { count := 0, entries } }

/-- Both decoders fail alike, or they draw the same and leave the same of the stream. -/
def FillAlike : Attempt (RenderOp × Bytes) → Attempt (RenderOp × Bytes) → Prop :=
  Both fun a b => a.1.rect = b.1.rect ∧ a.1.color = b.1.color ∧ a.2.length = b.2.length

def Takes (read : Bytes → Attempt (α × Bytes)) (count : Nat) : Prop :=
  ∀ stream, (stream.length < count → read stream = refuse .protocolError) ∧
    (count ≤ stream.length → ∃ a, read stream = .ok (a, stream.drop count))

section Takes

variable {read : Bytes → Attempt (α × Bytes)} {count : Nat}

theorem Takes.pure (a : α) : Takes (fun stream => (Pure.pure (a, stream) : Attempt _)) 0 :=
  fun _ => ⟨fun less => absurd less (Nat.not_lt_zero _), fun _ => ⟨a, rfl⟩⟩

theorem Takes.bind {next : α × Bytes → Attempt (β × Bytes)} {more : Nat} (first : Takes read count)
    (later : ∀ a, Takes (fun stream => next (a, stream)) more) :
    Takes (fun stream => read stream >>= next) (count + more) := by
  intro stream
  simp only
  by_cases short : stream.length < count
  · refine ⟨fun _ => ?_, fun enough => absurd enough (by omega)⟩
    rw [(first stream).1 short]
    rfl
  obtain ⟨a, taken⟩ := (first stream).2 (by omega)
  have left := later a (stream.drop count)
  rw [List.length_drop] at left
  rw [taken, ok_bind]
  refine ⟨fun less => left.1 (by omega), fun enough => ?_⟩
  obtain ⟨b, taken'⟩ := left.2 (by omega)
  rw [List.drop_drop] at taken'
  exact ⟨b, taken'⟩

theorem Takes.map (f : α → β) (takes : Takes read count) :
    Takes (fun stream => read stream >>= fun pair => Pure.pure (f pair.1, pair.2)) count := by
  have whole : Takes (fun stream => read stream >>= fun pair => Pure.pure (f pair.1, pair.2))
      (count + 0) := takes.bind fun a => .pure (f a)
  exact whole

theorem Takes.three {second : Bytes → Attempt (β × Bytes)} {third : Bytes → Attempt (γ × Bytes)}
    {m n : Nat} (f : α → β → γ → δ) (takes : Takes read count) (takes₂ : Takes second m)
    (takes₃ : Takes third n) :
    Takes (fun stream => do
      let (a, stream) ← read stream
      let (b, stream) ← second stream
      let (c, stream) ← third stream
      Pure.pure (f a b c, stream)) (count + (m + n)) := by
  have last : ∀ a b, Takes (fun stream => third stream >>= fun pair =>
      Pure.pure (f a b pair.1, pair.2)) n := fun a b => takes₃.map (f a b)
  have later : ∀ a, Takes (fun stream => second stream >>= fun pair =>
      third pair.2 >>= fun pair' => Pure.pure (f a pair.1 pair'.1, pair'.2)) (m + n) :=
    fun a => takes₂.bind (last a)
  exact takes.bind later

theorem readU8_takes : Takes readU8 1 := by
  intro stream
  cases stream with
  | nil => exact ⟨fun _ => rfl, nofun⟩
  | cons byte rest =>
    exact ⟨fun less => absurd less (Nat.not_lt.mpr (Nat.succ_pos _)), fun _ => ⟨byte, rfl⟩⟩

theorem readU16Le_takes : Takes readU16Le 2 := by
  intro stream
  match stream with
  | [] => exact ⟨fun _ => rfl, nofun⟩
  | [b0] => exact ⟨fun _ => rfl, fun enough => absurd enough (Nat.not_succ_le_self 1)⟩
  | b0 :: b1 :: rest =>
    refine ⟨fun less => ?_, fun _ => ⟨_, rfl⟩⟩
    simp only [List.length_cons] at less
    omega

theorem readCoord_takes (delta : Bool) (value : Int) :
    Takes (readCoord delta value) (if delta then 1 else 2) := by
  cases delta with
  | false => exact readU16Le_takes.map int16
  | true => exact readU8_takes.map fun raw => int32 (value + int8 raw)

theorem readSent_takes {flags mask : Nat} {old : α} (takes : Takes read count) :
    Takes (fun stream => readSent flags mask old stream read)
      (if flags &&& mask = 0 then 0 else count) := by
  by_cases out : flags &&& mask = 0
  · simp only [readSent, if_pos out]
    exact .pure old
  · simp only [readSent, if_neg out]
    exact takes

end Takes

def coordNeed (flags : Nat) (delta : Bool) : Nat :=
  ([0x01, 0x02, 0x04, 0x08].map fun mask =>
    if flags &&& mask = 0 then 0 else if delta then 1 else 2).sum

def colorBytes (flags : Nat) : Nat :=
  ([0x10, 0x20, 0x40].map fun mask => if flags &&& mask = 0 then 0 else 1).sum

variable {flags : Nat}

theorem both_takes {delta : Bool} {first : Layout RenderField α} {second : Layout RenderField β}
    {old : α × β} {m n : Nat} (front : Takes (first.read (readField flags delta) old.1) m)
    (back : Takes (second.read (readField flags delta) old.2) n) :
    Takes ((Layout.both first second).read (readField flags delta) old) (m + n) :=
  front.bind fun a => back.map fun b => (a, b)

theorem record_takes {delta : Bool} {inner : Layout RenderField α} {make : α → β} {parts : β → α}
    {whole : ∀ a, parts (make a) = a} {old : β} {n : Nat}
    (takes : Takes (inner.read (readField flags delta) (parts old)) n) :
    Takes ((Layout.record inner make parts whole).read (readField flags delta) old) n :=
  takes.map make

theorem rectLayout_takes (flags : Nat) (delta : Bool) (rect : RenderRect) :
    Takes ((rectLayout 0x01).read (readField flags delta) rect) (coordNeed flags delta) := by
  have one : ∀ mask value,
      Takes ((Layout.one (.coord mask)).read (readField flags delta) value)
        (if flags &&& mask = 0 then 0 else if delta then 1 else 2) := fun mask value =>
    readSent_takes (readCoord_takes delta value)
  exact record_takes (both_takes (one 0x01 _) (both_takes (one 0x02 _) (both_takes (one 0x04 _)
    (one 0x08 _))))

def readColorBytes (flags : Nat) (color : Color) (stream : Bytes) : Attempt (Color × Bytes) := do
  let (first, stream) ← readSent flags 0x10 color.first stream readU8
  let (second, stream) ← readSent flags 0x20 color.second stream readU8
  let (third, stream) ← readSent flags 0x40 color.third stream readU8
  pure ({ first, second, third }, stream)

theorem readColor_takes : Takes readColor 3 :=
  readU8_takes.three Color.mk readU8_takes readU8_takes

theorem readColorBytes_takes (flags : Nat) (color : Color) :
    Takes (readColorBytes flags color) (colorBytes flags) := by
  have one : ∀ mask (old : UInt8), Takes (fun stream => readSent flags mask old stream readU8)
      (if flags &&& mask = 0 then 0 else 1) := fun _ _ => readSent_takes readU8_takes
  exact (one 0x10 color.first).three Color.mk (one 0x20 color.second) (one 0x40 color.third)

theorem colorBytes_zero (none : colorBytes flags = 0) :
    flags &&& 0x10 = 0 ∧ flags &&& 0x20 = 0 ∧ flags &&& 0x40 = 0 := by
  simp only [colorBytes, List.map_cons, List.map_nil, List.sum_cons, List.sum_nil] at none
  refine ⟨?_, ?_, ?_⟩ <;> by_contra set <;> simp only [if_neg set] at none <;> omega

theorem colorBytes_three (all : colorBytes flags = 3) :
    flags &&& 0x10 ≠ 0 ∧ flags &&& 0x20 ≠ 0 ∧ flags &&& 0x40 ≠ 0 := by
  simp only [colorBytes, List.map_cons, List.map_nil, List.sum_cons, List.sum_nil] at all
  refine ⟨?_, ?_, ?_⟩ <;> intro clear <;> simp only [if_pos clear] at all <;> split at all <;>
    split at all <;> omega

theorem colorBytes_le (flags : Nat) : colorBytes flags ≤ 3 := by
  simp only [colorBytes, List.map_cons, List.map_nil, List.sum_cons, List.sum_nil]
  split <;> split <;> split <;> omega

theorem color_alike_iff (flags : Nat) (color : Color) (stream : Bytes) :
    Both (fun a b : Color × Bytes => a.1 = b.1 ∧ a.2.length = b.2.length)
        (readSent flags 0x10 color stream readColor) (readColorBytes flags color stream) ↔
      colorBytes flags = 0 ∨ colorBytes flags = 3 ∨
        flags &&& 0x10 ≠ 0 ∧ stream.length < colorBytes flags := by
  have whole := @readSent_takes Color readColor 3 flags 0x10 color readColor_takes stream
  have bytes := readColorBytes_takes flags color stream
  simp only at whole
  have most := colorBytes_le flags
  constructor
  · intro both
    generalize left : readSent flags 0x10 color stream readColor = x at both whole
    generalize right : readColorBytes flags color stream = y at both bytes
    cases both with
    | failed error =>
      have missing : stream.length < colorBytes flags := by
        by_contra enough
        obtain ⟨a, taken⟩ := bytes.2 (Nat.not_lt.mp enough)
        cases taken
      have announced : flags &&& 0x10 ≠ 0 := by
        intro clear
        obtain ⟨a, taken⟩ := whole.2 (by rw [if_pos clear]; exact Nat.zero_le _)
        cases taken
      exact .inr (.inr ⟨announced, missing⟩)
    | done related =>
      rename_i a b
      have enough : colorBytes flags ≤ stream.length := by
        by_contra short
        cases bytes.1 (Nat.not_le.mp short)
      have enough' : (if flags &&& 0x10 = 0 then 0 else 3) ≤ stream.length := by
        by_contra short
        cases whole.1 (Nat.not_le.mp short)
      obtain ⟨_, taken⟩ := bytes.2 enough
      obtain ⟨_, taken'⟩ := whole.2 enough'
      cases taken
      cases taken'
      have same : (stream.drop (if flags &&& 0x10 = 0 then 0 else 3)).length =
          (stream.drop (colorBytes flags)).length := related.2
      rw [List.length_drop, List.length_drop] at same
      split at same <;> rename_i announced
      · rw [if_pos announced] at enough'
        omega
      · rw [if_neg announced] at enough'
        omega
  · rintro (none | all | ⟨announced, missing⟩)
    · obtain ⟨first, second, third⟩ := colorBytes_zero none
      simp only [readSent, readColorBytes, first, second, third, if_true, ok_bind,
        attempt_pure]
      exact .done ⟨rfl, rfl⟩
    · obtain ⟨first, second, third⟩ := colorBytes_three all
      simp only [readSent, readColorBytes, if_neg first, if_neg second, if_neg third]
      exact .of_eq rfl fun _ => ⟨rfl, rfl⟩
    · rw [if_neg announced] at whole
      rw [whole.1 (by omega), bytes.1 missing]
      exact .failed _

theorem decodeFields_filled (flags : Nat) (delta : Bool) (rect : RenderRect) (color : Color)
    (stream : Bytes) :
    decodeFields decodeOpaqueRect flags delta (opaquePrior rect color) stream =
      ((rectLayout 0x01).read (readField flags delta) rect stream >>= fun r =>
        readSent flags 0x10 color r.2 readColor >>= fun c =>
          .ok ({ kind := .opaqueRect, color := c.1, rect := r.1 }, c.2)) := by
  simp only [decodeFields, decodeOpaqueRect, opaquePrior, Layout.read]
  cases (rectLayout 0x01).read (readField flags delta) rect stream with
  | error stop => rfl
  | ok r =>
    simp only [ok_bind, readField]
    cases readSent flags 0x10 color r.2 readColor with
    | error stop => rfl
    | ok c => rfl

theorem decodeFields_multiOpaque (few : flags < 0x80) (delta : Bool) (rect : RenderRect)
    (color : Color) (entries : List RenderRect) (stream : Bytes) :
    decodeFields decodeMultiOpaqueRect flags delta (multiOpaquePrior rect color entries) stream =
      ((rectLayout 0x01).read (readField flags delta) rect stream >>= fun r =>
        readColorBytes flags color r.2 >>= fun c =>
          .ok ({ kind := .multiOpaqueRect, color := c.1, rect := r.1 }, c.2)) := by
  have uncounted : ∀ k < 0x80, k &&& 0x80 = 0 ∧ k &&& 0x100 = 0 := by decide
  obtain ⟨uncounted, unlisted⟩ := uncounted flags few
  simp only [decodeFields, decodeMultiOpaqueRect, multiOpaquePrior, Layout.read, readColorBytes]
  cases (rectLayout 0x01).read (readField flags delta) rect stream with
  | error stop => rfl
  | ok r =>
    simp only [ok_bind, readField]
    cases readSent flags 0x10 color.first r.2 readU8 with
    | error stop => rfl
    | ok first =>
      simp only [ok_bind]
      cases readSent flags 0x20 color.second first.2 readU8 with
      | error stop => rfl
      | ok second =>
        simp only [ok_bind]
        cases readSent flags 0x40 color.third second.2 readU8 with
        | error stop => rfl
        | ok third =>
          simp only [ok_bind, readCounted, readSent, uncounted, unlisted, if_true]
          rfl

theorem fillAlike_iff {x y : Attempt (Color × Bytes)} {rect : RenderRect} :
    FillAlike (x >>= fun c => .ok ({ kind := .opaqueRect, color := c.1, rect }, c.2))
        (y >>= fun c => .ok ({ kind := .multiOpaqueRect, color := c.1, rect }, c.2)) ↔
      Both (fun a b : Color × Bytes => a.1 = b.1 ∧ a.2.length = b.2.length) x y := by
  constructor
  · intro alike
    cases x with
    | error stop =>
      cases y with
      | error stop' =>
        cases alike
        exact .failed stop
      | ok c' => cases alike
    | ok c =>
      cases y with
      | error stop' => cases alike
      | ok c' =>
        cases alike with
        | done related => exact .done related.2
  · intro both
    cases both with
    | failed stop => exact .failed stop
    | done related => exact .done ⟨rfl, related⟩

/-- The two orders read a stream alike exactly if the colour is announced whole or not at all, or if
    the stream ends before the coordinates do or before what is announced of a colour whose first
    byte is. -/
theorem opaqueRect_alike_iff (flags : Nat) (few : flags < 0x80) (delta : Bool) (rect : RenderRect)
    (color : Color) (entries : List RenderRect) (stream : Bytes) :
    FillAlike (decodeFields decodeOpaqueRect flags delta (opaquePrior rect color) stream)
        (decodeFields decodeMultiOpaqueRect flags delta (multiOpaquePrior rect color entries)
          stream) ↔
      stream.length < coordNeed flags delta ∨ colorBytes flags = 0 ∨ colorBytes flags = 3 ∨
        flags &&& 0x10 ≠ 0 ∧ stream.length < coordNeed flags delta + colorBytes flags := by
  have coords := rectLayout_takes flags delta rect stream
  rw [decodeFields_filled, decodeFields_multiOpaque few]
  by_cases short : stream.length < coordNeed flags delta
  · rw [coords.1 short]
    exact ⟨fun _ => .inl short, fun _ => .failed _⟩
  obtain ⟨rect', taken⟩ := coords.2 (Nat.not_lt.mp short)
  have colour := color_alike_iff flags color (stream.drop (coordNeed flags delta))
  rw [List.length_drop] at colour
  rw [taken, attempt_ok_bind, attempt_ok_bind]
  rw [fillAlike_iff, colour]
  omega

/-- The whole colour is announced. -/
theorem opaqueRect_alike_iff_whole : colorBytes 0x71 = 3 ∧
    FillAlike (decodeFields decodeOpaqueRect 0x71 true (opaquePrior {} {}) [5, 1, 2, 3])
      (decodeFields decodeMultiOpaqueRect 0x71 true (multiOpaquePrior {} {} []) [5, 1, 2, 3]) :=
  ⟨rfl, (opaqueRect_alike_iff 0x71 (by decide) true {} {} [] [5, 1, 2, 3]).mpr (.inr (.inr (.inl rfl)))⟩

/-- An update of the first byte alone takes three bytes in one order and one in the other. -/
theorem opaqueRect_alike_partial :
    ¬∀ (flags : Nat) (delta : Bool) (rect : RenderRect) (color : Color) (entries : List RenderRect)
      (stream : Bytes), flags < 0x80 →
      FillAlike (decodeFields decodeOpaqueRect flags delta (opaquePrior rect color) stream)
        (decodeFields decodeMultiOpaqueRect flags delta (multiOpaquePrior rect color entries)
          stream) := by
  intro alike
  cases alike 0x10 true {} {} [] [1, 2, 3] (by decide) with
  | done related => exact absurd related.2.2 (by decide)

end LibRdp.Graphics
