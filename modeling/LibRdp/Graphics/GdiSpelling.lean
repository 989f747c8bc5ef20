import LibRdp.Graphics.GdiRender

/-! # How the fields of a drawing order are spelled

A sender leaves out fields that did not change and sends the coordinates of an order whole or as
deltas to the order before. Whatever it chooses, the decoder reads the field that was meant.
-/

namespace LibRdp.Graphics

open Coding

/-- Two values of a field agree; of a list only the entries that count matter. -/
def SameField : {α : Type} → RenderField α → α → α → Prop
  | _, .coord _, a, b => a = b
  | _, .int16 _, a, b => a = b
  | _, .byte _, a, b => a = b
  | _, .word _, a, b => a = b
  | _, .dword _, a, b => a = b
  | _, .color _, a, b => a = b
  | _, .bytes _ _, a, b => a = b
  | _, .twoBytes _, a, b => a = b
  | _, .skipped _ _, _, _ => True
  | _, .data _, a, b => a = b
  | _, .points _ _, a, b => a.count = b.count ∧ a.list = b.list
  | _, .rects _ _, a, b => a.count = b.count ∧ a.list = b.list

theorem sameField_refl {α : Type} (field : RenderField α) (a : α) : SameField field a a := by
  cases field <;> simp only [SameField, and_self]

/-- A coordinate fits `int16_t`. -/
def IsCoord (value : Int) : Prop := -32768 ≤ value ∧ value ≤ 32767

def coordBytes (value : Int) : Bytes := u16LeBytes (value % 65536).toNat

def deltaByte (delta : Int) : UInt8 := UInt8.ofNat (delta % 256).toNat

def CoordSent (delta : Bool) (previous next : Int) (bytes : Bytes) : Prop :=
  IsCoord next ∧
    if delta then -128 ≤ next - previous ∧ next - previous ≤ 127 ∧
      bytes = [deltaByte (next - previous)]
    else bytes = coordBytes next

/-- The flags say whether a field is sent; it is left out only if it keeps its value. -/
def Spelled (flags mask : Nat) (kept : Prop) (sent : Bytes → Prop) (bytes : Bytes) : Prop :=
  if flags &&& mask = 0 then kept ∧ bytes = [] else sent bytes

variable {flags mask count : Nat} {kept : Prop} {bytes tail blob : Bytes} {value : Int}

theorem Spelled.out {sent : Bytes → Prop} (unset : flags &&& mask = 0) (holds : kept) :
    Spelled flags mask kept sent [] := by
  unfold Spelled
  rw [if_pos unset]
  exact ⟨holds, rfl⟩

theorem Spelled.sent {sent : Bytes → Prop} (set : flags &&& mask ≠ 0) (comes : sent bytes) :
    Spelled flags mask kept sent bytes := by
  unfold Spelled
  rw [if_neg set]
  exact comes

/-- A count and its list are fields of their own. The list is sent in a blob, whose length comes
    first. -/
def CountedSpelled (flags countMask mask : Nat) (length : Nat → Bytes)
    (readList : Nat → Bytes → Attempt (List α × Bytes)) (limit : Nat) (previous next : Counted α)
    (bytes : Bytes) : Prop :=
  ∃ front back, bytes = front ++ back ∧
    Spelled flags countMask (previous.count = next.count) (· = [next.count]) front ∧
    Spelled flags mask (previous.count = next.count ∧ previous.list = next.list)
      (fun back => ∃ blob, back = length blob.length ++ blob ∧ blob.length < limit ∧
        readBlob readList next.count.toNat blob = .ok next.list) back

def FieldSpelled (flags : Nat) (delta : Bool) : {α : Type} → RenderField α → α → α → Bytes → Prop
  | _, .coord mask, previous, next, bytes =>
      Spelled flags mask (previous = next) (CoordSent delta previous next) bytes
  | _, .int16 mask, previous, next, bytes =>
      Spelled flags mask (previous = next) (CoordSent false previous next) bytes
  | _, .byte mask, previous, next, bytes =>
      Spelled flags mask (previous = next) (· = [next]) bytes
  | _, .word mask, previous, next, bytes =>
      Spelled flags mask (previous = next) (· = u16LeBytes next.toNat) bytes
  | _, .dword mask, previous, next, bytes =>
      Spelled flags mask (previous = next) (· = u32LeBytes next.toNat) bytes
  | _, .color mask, previous, next, bytes =>
      Spelled flags mask (previous = next) (· = [next.first, next.second, next.third]) bytes
  | _, .bytes mask length, previous, next, bytes =>
      Spelled flags mask (previous = next) (fun bytes => bytes = next ∧ next.length = length) bytes
  | _, .twoBytes mask, previous, next, bytes =>
      Spelled flags mask (previous = next) (· = [next.1, next.2]) bytes
  | _, .skipped mask length, _, _, bytes => Spelled flags mask True (·.length = length) bytes
  | _, .data mask, previous, next, bytes =>
      Spelled flags mask (previous = next)
        (fun bytes => bytes = UInt8.ofNat next.length :: next ∧ next.length < 256) bytes
  | _, .points countMask mask, previous, next, bytes =>
      CountedSpelled flags countMask mask (fun length => [UInt8.ofNat length]) readDeltaPoints 256
        previous next bytes
  | _, .rects countMask mask, previous, next, bytes =>
      CountedSpelled flags countMask mask u16LeBytes readDeltaRects 65536 previous next bytes

theorem int16_ofNat (fits : IsCoord value) :
    int16 (UInt16.ofNat (value % 65536).toNat) = value := by
  unfold IsCoord at fits
  unfold int16
  rw [UInt16.toNat_ofNat']
  split <;> omega

theorem int8_ofNat {delta : Int} (low : -128 ≤ delta) (high : delta ≤ 127) :
    int8 (deltaByte delta) = delta := by
  unfold int8 deltaByte
  rw [UInt8.toNat_ofNat']
  split <;> omega

theorem int32_of_isCoord (fits : IsCoord value) : int32 value = value := by
  unfold IsCoord at fits
  unfold int32
  apply Int.bmod_eq_of_le <;> omega

theorem readI16_coordBytes (fits : IsCoord value) (tail : Bytes) :
    readI16 (coordBytes value ++ tail) = .ok (value, tail) := by
  have word := readU16Le_append (UInt16.ofNat (value % 65536).toNat) tail
  rw [UInt16.toNat_ofNat_of_lt' (by change _ < 65536; omega)] at word
  rw [readI16, coordBytes, word]
  change Except.ok (int16 _, tail) = _
  rw [int16_ofNat fits]

theorem readCoord_sent {delta : Bool} {previous next : Int}
    (sent : CoordSent delta previous next bytes) (tail : Bytes) :
    readCoord delta previous (bytes ++ tail) = .ok (next, tail) := by
  obtain ⟨fits, how⟩ := sent
  cases delta with
  | false =>
    cases how
    exact readI16_coordBytes fits tail
  | true =>
    obtain ⟨low, high, rfl⟩ := how
    change Except.ok (int32 (previous + int8 (deltaByte (next - previous))), tail) = _
    rw [int8_ofNat low high, Int.add_comm, Int.sub_add_cancel, int32_of_isCoord fits]

theorem readSent_spelled {sent : Bytes → Prop} {old : α} {read : Bytes → Attempt (α × Bytes)}
    {same : α → Prop} (spelled : Spelled flags mask kept sent bytes) (stays : kept → same old)
    (comes : sent bytes → ∃ now, read (bytes ++ tail) = .ok (now, tail) ∧ same now) :
    ∃ now, readSent flags mask old (bytes ++ tail) read = .ok (now, tail) ∧ same now := by
  unfold Spelled at spelled
  unfold readSent
  split at spelled
  case isTrue out =>
    obtain ⟨kept, rfl⟩ := spelled
    rw [if_pos out]
    exact ⟨old, rfl, stays kept⟩
  case isFalse out =>
    rw [if_neg out]
    exact comes spelled

theorem readSent_spelled_eq {sent : Bytes → Prop} {old previous next : α}
    {read : Bytes → Attempt (α × Bytes)}
    (spelled : Spelled flags mask (previous = next) sent bytes) (agree : old = previous)
    (comes : sent bytes → read (bytes ++ tail) = .ok (next, tail)) :
    ∃ now, readSent flags mask old (bytes ++ tail) read = .ok (now, tail) ∧ now = next := by
  apply readSent_spelled spelled
  · exact agree.trans
  · intro sent
    exact ⟨next, comes sent, rfl⟩

variable {zeroBits : Bytes} {limit : Nat}

theorem readPoints_length {left : Nat} :
    ∀ {i : Nat} {stream rest : Bytes} {points : List RenderPoint},
      readPoints zeroBits i left stream = .ok (points, rest) → points.length = left := by
  induction left with
  | zero =>
    intro i stream rest points read
    cases read
    rfl
  | succ left ih =>
    intro i stream rest points read
    simp only [readPoints, bind_eq_ok] at read
    obtain ⟨x, -, y, -, last, readLast, made⟩ := read
    cases made
    rw [List.length_cons, ih readLast]

theorem readRects_length {left : Nat} :
    ∀ {i : Nat} {previous : RenderRect} {stream rest : Bytes} {rects : List RenderRect},
      readRects zeroBits i left previous stream = .ok (rects, rest) → rects.length = left := by
  induction left with
  | zero =>
    intro i previous stream rest rects read
    cases read
    rfl
  | succ left ih =>
    intro i previous stream rest rects read
    simp only [readRects, bind_eq_ok] at read
    obtain ⟨x, -, y, -, width, -, height, -, last, readLast, made⟩ := read
    cases made
    rw [List.length_cons, ih readLast]

/-- A list that is read has as many entries as it should, and not too many. -/
def Sized (limit : Nat) (readList : Nat → Bytes → Attempt (List α × Bytes)) : Prop :=
  ∀ {count : Nat} {stream rest : Bytes} {list : List α}, readList count stream = .ok (list, rest) →
    ¬ (count = 0 ∨ count > limit) ∧ list.length = count

theorem readDeltaPoints_sized : Sized maxPoints readDeltaPoints := by
  intro count stream rest points read
  unfold readDeltaPoints at read
  split at read
  case isTrue => cases read
  case isFalse bounded =>
    obtain ⟨zeroBits, -, read⟩ := bind_eq_ok.mp read
    exact ⟨bounded, readPoints_length read⟩

theorem readDeltaRects_sized : Sized maxRects readDeltaRects := by
  intro count stream rest rects read
  unfold readDeltaRects at read
  split at read
  case isTrue => cases read
  case isFalse bounded =>
    obtain ⟨zeroBits, -, read⟩ := bind_eq_ok.mp read
    exact ⟨bounded, readRects_length read⟩

theorem readBlob_sized {readList : Nat → Bytes → Attempt (List α × Bytes)} {list : List α}
    (sized : Sized limit readList) (read : readBlob readList count blob = .ok list) :
    ¬ (count = 0 ∨ count > limit) ∧ list.length = count := by
  unfold readBlob at read
  split at read
  · cases read
  obtain ⟨⟨got, left⟩, readGot, read⟩ := bind_eq_ok.mp read
  dsimp only at read
  split at read
  · cases read
  · cases read
    exact sized readGot

theorem readDeltaBlob_blob {points : List RenderPoint} (short : blob.length < 256)
    (read : readBlob readDeltaPoints count blob = .ok points) (tail : Bytes) :
    readDeltaBlob count ([UInt8.ofNat blob.length] ++ blob ++ tail) = .ok (points, tail) := by
  change (readBytes (blob ++ tail) (UInt8.ofNat blob.length).toNat >>= _) = _
  rw [UInt8.toNat_ofNat_of_lt' short, readBytes_append, ok_bind]
  dsimp only
  rw [read]
  rfl

theorem readRectBlob_blob {rects : List RenderRect} (short : blob.length < 65536)
    (read : readBlob readDeltaRects count blob = .ok rects) (tail : Bytes) :
    readRectBlob count (u16LeBytes blob.length ++ blob ++ tail) = .ok (rects, tail) := by
  have length := readU16Le_append (UInt16.ofNat blob.length) (blob ++ tail)
  rw [UInt16.toNat_ofNat_of_lt' short] at length
  rw [List.append_assoc, readRectBlob, length, ok_bind]
  dsimp only
  rw [UInt16.toNat_ofNat_of_lt' short, readBytes_append, ok_bind]
  dsimp only
  rw [read]
  rfl

theorem readCounted_spelled {countMask blobLimit : Nat} {length : Nat → Bytes}
    {inBlob readList : Nat → Bytes → Attempt (List α × Bytes)} (sized : Sized limit inBlob)
    (blobRead : ∀ {count : Nat} {blob : Bytes} {list : List α}, blob.length < blobLimit →
      readBlob inBlob count blob = .ok list → ∀ tail,
      readList count (length blob.length ++ blob ++ tail) = .ok (list, tail))
    {old previous next : Counted α}
    (spelled : CountedSpelled flags countMask mask length inBlob blobLimit previous next bytes)
    (agree : old.count = previous.count ∧ old.list = previous.list) :
    ∃ now, readCounted flags countMask mask limit readList old (bytes ++ tail) = .ok (now, tail) ∧
      now.count = next.count ∧ now.list = next.list := by
  obtain ⟨front, back, rfl, counted, listed⟩ := spelled
  have countRead : ∃ now, readSent flags countMask old.count (front ++ (back ++ tail)) readU8 =
      .ok (now, back ++ tail) ∧ now = next.count := by
    apply readSent_spelled_eq counted agree.1
    intro sent
    cases sent
    rfl
  obtain ⟨count, readCount, rfl⟩ := countRead
  rw [List.append_assoc, readCounted, readCount, ok_bind]
  dsimp only
  apply readSent_spelled listed
  · intro kept
    refine ⟨rfl, ?_⟩
    have list : old.entries.take old.count.toNat = previous.list := agree.2
    rw [agree.1, kept.1] at list
    exact list.trans kept.2
  · intro sent
    obtain ⟨blob, rfl, short, inside⟩ := sent
    obtain ⟨bounded, counts⟩ := readBlob_sized sized inside
    have nonzero : ¬ (next.count = 0 ∨ next.count.toNat > limit) := by
      intro bad
      apply bounded
      exact bad.imp_left (congrArg UInt8.toNat)
    rw [if_neg nonzero, blobRead short inside tail]
    refine ⟨_, rfl, rfl, ?_⟩
    change (next.list ++ _).take next.count.toNat = next.list
    rw [← counts, List.take_left]

theorem readField_spelled (flags : Nat) (delta : Bool) {α : Type} (field : RenderField α)
    {old previous next : α} (spelled : FieldSpelled flags delta field previous next bytes)
    (agree : SameField field old previous) :
    ∃ now, readField flags delta field old (bytes ++ tail) = .ok (now, tail) ∧
      SameField field now next := by
  cases field <;> simp only [FieldSpelled, SameField, readField] at spelled agree ⊢
  case coord mask =>
    cases agree
    exact readSent_spelled_eq spelled rfl (readCoord_sent · tail)
  case int16 mask => exact readSent_spelled_eq spelled agree (readCoord_sent · tail)
  case byte mask => exact readSent_spelled_eq spelled agree fun sent => by cases sent; rfl
  case word mask =>
    exact readSent_spelled_eq spelled agree fun sent => by cases sent; exact readU16Le_append ..
  case dword mask =>
    exact readSent_spelled_eq spelled agree fun sent => by cases sent; exact readU32Le_append ..
  case color mask => exact readSent_spelled_eq spelled agree fun sent => by cases sent; rfl
  case bytes mask length =>
    apply readSent_spelled_eq spelled agree
    intro sent
    obtain ⟨rfl, rfl⟩ := sent
    exact readBytes_append ..
  case twoBytes mask => exact readSent_spelled_eq spelled agree fun sent => by cases sent; rfl
  case skipped mask length =>
    apply readSent_spelled spelled
    · exact fun _ => trivial
    · intro sent
      cases sent
      refine ⟨(), ?_, trivial⟩
      rw [readBytes_append]
      rfl
  case data mask =>
    apply readSent_spelled_eq spelled agree
    intro sent
    obtain ⟨rfl, short⟩ := sent
    change readBytes (next ++ tail) (UInt8.ofNat next.length).toNat = _
    rw [UInt8.toNat_ofNat_of_lt' short, readBytes_append]
  case points countMask mask =>
    exact readCounted_spelled readDeltaPoints_sized readDeltaBlob_blob spelled agree
  case rects countMask mask =>
    exact readCounted_spelled readDeltaRects_sized readRectBlob_blob spelled agree

end LibRdp.Graphics
