import LibRdp.Graphics.BitmapRle

/-! # Row order of uncompressed and compressed rectangles

Pixels travel bottom row first. An uncompressed rectangle is decoded with its
rows turned over, a compressed one in the order its pixels come. The two agree
on a picture exactly when it looks the same upside down.
-/

namespace LibRdp.Graphics

open Machine

/-- A pixel as `bytes` bytes, little-endian. -/
def pixelBytes : Nat → Nat → Bytes
  | 0, _ => []
  | bytes + 1, pixel => UInt8.ofNat pixel :: pixelBytes bytes (pixel / 256)

/-- Cut pixels into `height` rows of `width`. -/
def rowsOf (width : Nat) : Nat → List Nat → List (List Nat)
  | 0, _ => []
  | height + 1, pixels => pixels.take width :: rowsOf width height (pixels.drop width)

inductive PackedRows (bytes : Nat) : List (List Nat) → Bytes → Prop
  | nil : PackedRows bytes [] []
  | cons {row : List Nat} {rows : List (List Nat)} {filler data : Bytes}
      (aligned : filler.length = (4 - bytes * row.length % 4) % 4) (rest : PackedRows bytes rows data) :
      PackedRows bytes (row :: rows) (row.flatMap (pixelBytes bytes) ++ (filler ++ data))

def picture (bitsPerPixel : UInt16) (palette : Option Palette) (rows : List (List Nat)) :
    List (List (Attempt Bytes)) :=
  rows.map (fun row => row.map (fun pixel => rawPixelToBgra pixel bitsPerPixel palette))

@[simp] theorem pixelBytes_length (bytes pixel : Nat) : (pixelBytes bytes pixel).length = bytes := by
  induction bytes generalizing pixel with
  | zero => rfl
  | succ bytes ih => rw [pixelBytes, List.length_cons, ih]

theorem rowBytes_length (bytes : Nat) (row : List Nat) :
    (row.flatMap (pixelBytes bytes)).length = bytes * row.length := by
  induction row with
  | nil => rfl
  | cons pixel row ih =>
    rw [List.flatMap_cons, List.length_append, pixelBytes_length, ih, List.length_cons, Nat.mul_succ,
      Nat.add_comm]

variable {width height : Nat} {pixels : List Nat}

theorem rowsOf_flatten (count : pixels.length = width * height) :
    (rowsOf width height pixels).flatten = pixels := by
  induction height generalizing pixels with
  | zero => simpa [rowsOf] using (List.length_eq_zero_iff.mp count).symm
  | succ height ih =>
    have rest : (pixels.drop width).length = width * height := by
      rw [List.length_drop, count, Nat.mul_succ]
      omega
    rw [rowsOf, List.flatten_cons, ih rest, List.take_append_drop]

theorem rowsOf_shape (count : pixels.length = width * height) :
    (rowsOf width height pixels).length = height ∧
      ∀ row ∈ rowsOf width height pixels, row.length = width := by
  induction height generalizing pixels with
  | zero => simp [rowsOf]
  | succ height ih =>
    rw [Nat.mul_succ] at count
    have rest : (pixels.drop width).length = width * height := by
      rw [List.length_drop]
      omega
    obtain ⟨rows, widths⟩ := ih rest
    refine ⟨by rw [rowsOf, List.length_cons, rows], ?_⟩
    intro row listed
    rcases List.mem_cons.mp listed with rfl | later
    · rw [List.length_take]
      omega
    · exact widths row later

theorem loadByte_append (before : Bytes) (b : UInt8) (after : Bytes) {i : Nat}
    (here : i = before.length) : loadByte (before ++ b :: after) i = .ok b := by
  subst here
  simp [loadByte]

private theorem ofNat_byte (v : Nat) : UInt8.ofNat (v &&& 0xff) = UInt8.ofNat v := by
  apply UInt8.toNat_inj.mp
  rw [UInt8.toNat_ofNat', UInt8.toNat_ofNat', show (0xff : Nat) = 2 ^ 8 - 1 from rfl,
    Nat.and_two_pow_sub_one_eq_mod, Nat.mod_mod]

private theorem loadU16_append (before : Bytes) {pixel : Nat} (small : pixel < 65536) (after : Bytes)
    {i : Nat} (here : i = before.length) :
    loadU16 (before ++ (pixelBytes 2 pixel ++ after)) i = .ok pixel := by
  have second : before ++ UInt8.ofNat pixel :: (UInt8.ofNat (pixel / 256) :: after) =
      (before ++ [UInt8.ofNat pixel]) ++ UInt8.ofNat (pixel / 256) :: after := by simp
  have joined : (UInt8.ofNat pixel).toNat ||| (UInt8.ofNat (pixel / 256)).toNat <<< 8 = pixel := by
    rw [Nat.or_comm, ← Nat.shiftLeft_add_eq_or_of_lt (UInt8.toNat_lt _), Nat.shiftLeft_eq,
      UInt8.toNat_ofNat', UInt8.toNat_ofNat']
    omega
  show (do
    let low ← loadByte (before ++ UInt8.ofNat pixel :: (UInt8.ofNat (pixel / 256) :: after)) i
    let high ← loadByte (before ++ UInt8.ofNat pixel :: (UInt8.ofNat (pixel / 256) :: after)) (i + 1)
    pure (low.toNat ||| high.toNat <<< 8)) = _
  rw [loadByte_append _ _ _ here, ok_bind, second,
    loadByte_append _ _ _ (by simp [here]), ok_bind, joined]
  rfl

section Rows

variable {rect : BitmapRect} {palette : Option Palette} {bytes : Nat}

theorem depth_bytes (depth : rect.bitsPerPixel ∈ ([8, 15, 16, 24] : List UInt16))
    (bytesPerPixel : bytes = rleBytesPerPixel rect.bitsPerPixel) :
    rect.bitsPerPixel = 8 ∧ bytes = 1 ∨ rect.bitsPerPixel = 15 ∧ bytes = 2 ∨
      rect.bitsPerPixel = 16 ∧ bytes = 2 ∨ rect.bitsPerPixel = 24 ∧ bytes = 3 := by
  subst bytesPerPixel
  simp only [List.mem_cons, List.not_mem_nil, or_false] at depth
  rcases depth with h | h | h | h <;> rw [h] <;> decide

theorem decodePixel_packed {pixel src column : Nat} {before after : Bytes}
    (depth : rect.bitsPerPixel ∈ ([8, 15, 16, 24] : List UInt16))
    (bytesPerPixel : bytes = rleBytesPerPixel rect.bitsPerPixel)
    (narrow : pixel < 2 ^ depthBits rect.bitsPerPixel)
    (data : rect.data = before ++ (pixelBytes bytes pixel ++ after))
    (here : src + column * bytes = before.length) :
    decodePixel rect palette src column = rawPixelToBgra pixel rect.bitsPerPixel palette := by
  rcases depth_bytes depth bytesPerPixel with ⟨h, rfl⟩ | ⟨h, rfl⟩ | ⟨h, rfl⟩ | ⟨h, rfl⟩
  · have small : pixel < 256 := by rwa [h] at narrow
    have same : (UInt8.ofNat pixel).toNat = pixel := UInt8.toNat_ofNat_of_lt' small
    have read : loadByte rect.data (src + column) = .ok (UInt8.ofNat pixel) := by
      rw [data]
      exact loadByte_append before _ after (by omega)
    simp only [decodePixel, rawPixelToBgra, h, read, ok_bind, same]
    rfl
  · have small : pixel < 65536 := by rwa [h] at narrow
    have read : loadU16 rect.data (src + column * 2) = .ok pixel := by
      rw [data]
      exact loadU16_append before small after here
    simp only [decodePixel, rawPixelToBgra, h, read, ok_bind]
    rfl
  · have small : pixel < 65536 := by rwa [h] at narrow
    have read : loadU16 rect.data (src + column * 2) = .ok pixel := by
      rw [data]
      exact loadU16_append before small after here
    simp only [decodePixel, rawPixelToBgra, h, read, ok_bind]
    rfl
  · have first : loadByte rect.data (src + column * 3) = .ok (UInt8.ofNat pixel) := by
      rw [data]
      exact loadByte_append before _ _ here
    have second : loadByte rect.data (src + (column * 3 + 1)) = .ok (UInt8.ofNat (pixel / 256)) := by
      rw [data, show before ++ (pixelBytes 3 pixel ++ after) = (before ++ [UInt8.ofNat pixel]) ++
        UInt8.ofNat (pixel / 256) :: (UInt8.ofNat (pixel / 256 / 256) :: after) by simp [pixelBytes]]
      exact loadByte_append _ _ _ (by rw [List.length_append, List.length_singleton]; omega)
    have third : loadByte rect.data (src + (column * 3 + 2)) =
        .ok (UInt8.ofNat (pixel / 256 / 256)) := by
      rw [data, show before ++ (pixelBytes 3 pixel ++ after) = (before ++ [UInt8.ofNat pixel,
        UInt8.ofNat (pixel / 256)]) ++ UInt8.ofNat (pixel / 256 / 256) :: after by simp [pixelBytes]]
      refine loadByte_append _ _ _ ?_
      simp only [List.length_append, List.length_cons, List.length_nil]
      omega
    have shift8 : pixel >>> 8 = pixel / 256 := Nat.shiftRight_eq_div_pow pixel 8
    have shift16 : pixel >>> 16 = pixel / 256 / 256 := by
      rw [Nat.shiftRight_eq_div_pow, Nat.div_div_eq_div_mul]
    simp only [decodePixel, rawPixelToBgra, h, first, second, third, ok_bind, ofNat_byte,
      shift8, shift16]
    rfl

theorem decodeColumns_packed {row : List Nat} {src column : Nat} {before done after : Bytes}
    (depth : rect.bitsPerPixel ∈ ([8, 15, 16, 24] : List UInt16))
    (bytesPerPixel : bytes = rleBytesPerPixel rect.bitsPerPixel)
    (narrow : ∀ pixel ∈ row, pixel < 2 ^ depthBits rect.bitsPerPixel)
    (data : rect.data = before ++ (done ++ (row.flatMap (pixelBytes bytes) ++ after)))
    (start : src = before.length) (here : column * bytes = done.length) :
    decodeColumns rect palette src row.length column =
      pixelsToBgra rect.bitsPerPixel palette row := by
  induction row generalizing column done with
  | nil => rfl
  | cons pixel row ih =>
    have split : rect.data = (before ++ done) ++
        (pixelBytes bytes pixel ++ (row.flatMap (pixelBytes bytes) ++ after)) := by
      rw [data]
      simp
    have this := @decodePixel_packed rect palette bytes pixel src column _ _ depth bytesPerPixel
      (narrow pixel List.mem_cons_self) split (by rw [List.length_append]; omega)
    have further : rect.data = before ++ ((done ++ pixelBytes bytes pixel) ++
        (row.flatMap (pixelBytes bytes) ++ after)) := by
      rw [data]
      simp
    have later := ih (fun p listed => narrow p (List.mem_cons_of_mem _ listed)) further
      (show (column + 1) * bytes = _ by
        rw [List.length_append, pixelBytes_length, Nat.succ_mul, here])
    simp only [List.length_cons, decodeColumns, pixelsToBgra, this, later]

variable {rows : List (List Nat)} {data : Bytes} {width stride : Nat}

theorem PackedRows.row_at (packed : PackedRows bytes rows data)
    (widths : ∀ row ∈ rows, row.length = width)
    (aligned : stride = bytes * width + (4 - bytes * width % 4) % 4) {n : Nat} {row : List Nat}
    (found : rows[n]? = some row) :
    ∃ before after, data = before ++ (row.flatMap (pixelBytes bytes) ++ after) ∧
      before.length = n * stride := by
  induction packed generalizing n with
  | nil => cases found
  | @cons first rows filler data fills rest ih =>
    have own : first.length = width := widths first List.mem_cons_self
    cases n with
    | zero =>
      cases found
      exact ⟨[], filler ++ data, rfl, (Nat.zero_mul _).symm⟩
    | succ n =>
      obtain ⟨before, after, split, length⟩ :=
        ih (fun r listed => widths r (List.mem_cons_of_mem _ listed)) found
      refine ⟨first.flatMap (pixelBytes bytes) ++ (filler ++ before), after, ?_, ?_⟩
      · rw [split]
        simp
      · rw [List.length_append, List.length_append, rowBytes_length, length, fills, own,
          Nat.succ_mul]
        omega

theorem PackedRows.length (packed : PackedRows bytes rows data)
    (widths : ∀ row ∈ rows, row.length = width)
    (aligned : stride = bytes * width + (4 - bytes * width % 4) % 4) :
    data.length = stride * rows.length := by
  induction packed with
  | nil => rfl
  | @cons first rows filler data fills rest ih =>
    have own : first.length = width := widths first List.mem_cons_self
    rw [List.length_append, List.length_append, rowBytes_length, fills, own,
      ih (fun r listed => widths r (List.mem_cons_of_mem _ listed)), List.length_cons, Nat.mul_succ]
    omega

theorem pixelsToBgra_append (bitsPerPixel : UInt16) (palette : Option Palette) (a b : List Nat) :
    pixelsToBgra bitsPerPixel palette (a ++ b) = (do
      let first ← pixelsToBgra bitsPerPixel palette a
      let second ← pixelsToBgra bitsPerPixel palette b
      pure (first ++ second)) := by
  induction a with
  | nil =>
    simp only [List.nil_append, pixelsToBgra, ok_bind]
    cases pixelsToBgra bitsPerPixel palette b <;> rfl
  | cons pixel a ih =>
    simp only [List.cons_append, pixelsToBgra, ih]
    cases rawPixelToBgra pixel bitsPerPixel palette with
    | error stop => rfl
    | ok bgra =>
      cases pixelsToBgra bitsPerPixel palette a with
      | error stop => rfl
      | ok first =>
        cases pixelsToBgra bitsPerPixel palette b with
        | error stop => rfl
        | ok second => simp

theorem decodeRows_packed {rows : List (List Nat)} {stride : Nat}
    (depth : rect.bitsPerPixel ∈ ([8, 15, 16, 24] : List UInt16))
    (bytesPerPixel : bytes = rleBytesPerPixel rect.bitsPerPixel)
    (packed : PackedRows bytes rows rect.data)
    (widths : ∀ row ∈ rows, row.length = rect.width.toNat)
    (aligned : stride = bytes * rect.width.toNat + (4 - bytes * rect.width.toNat % 4) % 4)
    (narrow : ∀ row ∈ rows, ∀ pixel ∈ row, pixel < 2 ^ depthBits rect.bitsPerPixel)
    {n : Nat} (inside : n ≤ rows.length) :
    decodeRows rect palette stride n =
      pixelsToBgra rect.bitsPerPixel palette (rows.take n).reverse.flatten := by
  induction n with
  | zero => rfl
  | succ n ih =>
    have found : rows[n]? = some (rows.get ⟨n, inside⟩) := List.getElem?_eq_getElem inside
    obtain ⟨row, named⟩ : ∃ row, row = rows.get ⟨n, inside⟩ := ⟨_, rfl⟩
    rw [← named] at found
    have listed := List.mem_of_getElem? found
    obtain ⟨before, after, data, start⟩ := packed.row_at widths aligned found
    have columns := @decodeColumns_packed rect palette bytes row (n * stride) 0 before [] after depth
      bytesPerPixel (narrow row listed) data start.symm (Nat.zero_mul _)
    rw [widths row listed] at columns
    have plain : rect.bitsPerPixel ≠ 32 := by
      intro h
      rw [h] at depth
      exact absurd depth (by decide)
    have taken : (rows.take (n + 1)).reverse = row :: (rows.take n).reverse := by
      rw [List.take_add_one, found]
      simp
    rw [taken, List.flatten_cons, pixelsToBgra_append, decodeRows, decodeRow, if_neg plain, columns,
      ih (by omega)]

end Rows

theorem flatten_inj_of_length {k : Nat} {rows rows' : List (List α)}
    (count : rows.length = rows'.length) (widths : ∀ row ∈ rows, row.length = k)
    (widths' : ∀ row ∈ rows', row.length = k) : rows.flatten = rows'.flatten ↔ rows = rows' := by
  refine ⟨fun same => ?_, fun same => by rw [same]⟩
  induction rows generalizing rows' with
  | nil => exact (List.length_eq_zero_iff.mp count.symm).symm
  | cons row rows ih =>
    cases rows' with
    | nil => cases count
    | cons row' rows' =>
      have first : row.length = row'.length :=
        (widths row List.mem_cons_self).trans (widths' row' List.mem_cons_self).symm
      obtain ⟨heads, tails⟩ := List.append_inj same first
      rw [heads, ih (Nat.succ.inj count) (fun r listed => widths r (List.mem_cons_of_mem _ listed))
        (fun r listed => widths' r (List.mem_cons_of_mem _ listed)) tails]

section Pictures

variable {bitsPerPixel : UInt16} {palette : Option Palette}

def colour (bitsPerPixel : UInt16) (palette : Option Palette) (pixel : Nat) : Bytes :=
  match rawPixelToBgra pixel bitsPerPixel palette with
  | .ok bgra => bgra
  | .error _ => []

theorem rawPixelToBgra_ok {pixel : Nat} (depth : bitsPerPixel ∈ ([8, 15, 16, 24] : List UInt16))
    (covered : bitsPerPixel = 8 → ∃ entries, palette = some entries ∧ entries.length = 256)
    (narrow : pixel < 2 ^ depthBits bitsPerPixel) :
    rawPixelToBgra pixel bitsPerPixel palette = .ok (colour bitsPerPixel palette pixel) ∧
      (colour bitsPerPixel palette pixel).length = 4 := by
  have found : ∃ bgra, rawPixelToBgra pixel bitsPerPixel palette = .ok bgra ∧ bgra.length = 4 := by
    simp only [List.mem_cons, List.not_mem_nil, or_false] at depth
    rcases depth with rfl | rfl | rfl | rfl
    · obtain ⟨entries, rfl, count⟩ := covered rfl
      have inside : pixel < entries.length := by
        rw [count]
        exact narrow
      obtain ⟨entry, here⟩ : ∃ entry, entries[pixel]? = some entry :=
        ⟨_, List.getElem?_eq_getElem inside⟩
      exact ⟨[entry.blue, entry.green, entry.red, 0xff],
        by simp [rawPixelToBgra, indexedPixelToBgra, here], rfl⟩
    · exact ⟨_, rfl, rfl⟩
    · exact ⟨_, rfl, rfl⟩
    · exact ⟨_, rfl, rfl⟩
  obtain ⟨bgra, ran, length⟩ := found
  have named : colour bitsPerPixel palette pixel = bgra := by rw [colour, ran]
  rw [named]
  exact ⟨ran, length⟩

theorem pixelsToBgra_ok {pixels : List Nat}
    (coloured : ∀ pixel ∈ pixels, rawPixelToBgra pixel bitsPerPixel palette =
      .ok (colour bitsPerPixel palette pixel)) :
    pixelsToBgra bitsPerPixel palette pixels =
      .ok (pixels.map (colour bitsPerPixel palette)).flatten := by
  induction pixels with
  | nil => rfl
  | cons pixel pixels ih =>
    rw [pixelsToBgra, coloured pixel List.mem_cons_self,
      ih (fun p listed => coloured p (List.mem_cons_of_mem _ listed))]
    rfl

theorem pixelsToBgra_reverse_iff {rows : List (List Nat)} {width : Nat}
    (widths : ∀ row ∈ rows, row.length = width)
    (coloured : ∀ row ∈ rows, ∀ pixel ∈ row, rawPixelToBgra pixel bitsPerPixel palette =
      .ok (colour bitsPerPixel palette pixel) ∧ (colour bitsPerPixel palette pixel).length = 4) :
    pixelsToBgra bitsPerPixel palette rows.reverse.flatten =
        pixelsToBgra bitsPerPixel palette rows.flatten ↔
      (picture bitsPerPixel palette rows).reverse = picture bitsPerPixel palette rows := by
  obtain ⟨f, named⟩ : ∃ f, f = colour bitsPerPixel palette := ⟨_, rfl⟩
  rw [← named] at coloured
  have inRows : ∀ pixel ∈ rows.flatten, rawPixelToBgra pixel bitsPerPixel palette = .ok (f pixel) ∧
      (f pixel).length = 4 := by
    intro pixel listed
    obtain ⟨row, inRow, here⟩ := List.mem_flatten.mp listed
    exact coloured row inRow pixel here
  have inReverse : ∀ pixel ∈ rows.reverse.flatten, rawPixelToBgra pixel bitsPerPixel palette =
      .ok (f pixel) ∧ (f pixel).length = 4 := by
    intro pixel listed
    obtain ⟨row, inRow, here⟩ := List.mem_flatten.mp listed
    exact coloured row (List.mem_reverse.mp inRow) pixel here
  have colours : picture bitsPerPixel palette rows =
      (rows.map (List.map f)).map (List.map Except.ok) := by
    simp only [picture, List.map_map]
    refine List.map_congr_left (fun row inRow => ?_)
    rw [Function.comp_apply, List.map_map]
    exact List.map_congr_left (fun pixel here => (coloured row inRow pixel here).1)
  have injective : ∀ a b : List Bytes, a.map (Except.ok : Bytes → Attempt Bytes) = b.map Except.ok →
      a = b := fun a b => (List.map_inj_right (fun _ _ same => Except.ok.inj same)).mp
  have turned : (picture bitsPerPixel palette rows).reverse = picture bitsPerPixel palette rows ↔
      (rows.map (List.map f)).reverse = rows.map (List.map f) := by
    rw [colours, ← List.map_reverse, List.map_inj_right injective]
  rw [pixelsToBgra_ok (fun p listed => named ▸ (inReverse p listed).1),
    pixelsToBgra_ok (fun p listed => named ▸ (inRows p listed).1), ← named, Except.ok.injEq,
    flatten_inj_of_length (k := 4) (by simp) ?_ ?_, List.map_flatten, List.map_flatten,
    List.map_reverse, flatten_inj_of_length (k := width) (by simp) ?_ ?_, turned]
  · intro row listed
    obtain ⟨row', inRow, rfl⟩ := List.mem_map.mp (List.mem_reverse.mp listed)
    rw [List.length_map, widths row' inRow]
  · intro row listed
    obtain ⟨row', inRow, rfl⟩ := List.mem_map.mp listed
    rw [List.length_map, widths row' inRow]
  · intro bgra listed
    obtain ⟨pixel, here, rfl⟩ := List.mem_map.mp listed
    exact (inReverse pixel here).2
  · intro bgra listed
    obtain ⟨pixel, here, rfl⟩ := List.mem_map.mp listed
    exact (inRows pixel here).2

end Pictures

section Rectangles

variable {rect : BitmapRect} {palette : Option Palette} {pixels : List Nat}

private theorem size_guards {width height : UInt16} (wide : width ≠ 0) (high : height ≠ 0) :
    0 < width.toNat ∧ 0 < height.toNat ∧ ¬ width.toNat > sizeMax / height.toNat ∧
      ¬ width.toNat * height.toNat > sizeMax / 4 ∧
      ¬ height.toNat > sizeMax / (width.toNat * 4) := by
  have w := width.toNat_lt
  have h := height.toNat_lt
  have w0 : 0 < width.toNat := Nat.pos_of_ne_zero (fun zero => wide (UInt16.toNat_inj.mp zero))
  have h0 : 0 < height.toNat := Nat.pos_of_ne_zero (fun zero => high (UInt16.toNat_inj.mp zero))
  have product : width.toNat * height.toNat ≤ 65535 * 65535 :=
    Nat.mul_le_mul (by omega) (by omega)
  have limit : sizeMax = 18446744073709551615 := by decide
  refine ⟨w0, h0, ?_, ?_, ?_⟩
  · rw [Nat.not_lt, Nat.le_div_iff_mul_le h0, limit]
    omega
  · rw [limit]
    omega
  · rw [Nat.not_lt, Nat.le_div_iff_mul_le (by omega), limit, Nat.mul_comm width.toNat, ← Nat.mul_assoc,
      Nat.mul_right_comm, Nat.mul_comm height.toNat]
    omega

theorem strides_packed (depth : rect.bitsPerPixel ∈ ([8, 15, 16, 24] : List UInt16)) {bytes : Nat}
    (bytesPerPixel : bytes = rleBytesPerPixel rect.bitsPerPixel) :
    packedStride rect.width rect.bitsPerPixel = some (bytes * rect.width.toNat) ∧
      strideAligned (bytes * rect.width.toNat) =
        some (bytes * rect.width.toNat + (4 - bytes * rect.width.toNat % 4) % 4) := by
  have w := rect.width.toNat_lt
  have limit : sizeMax = 18446744073709551615 := by decide
  have few : bytes ≤ 3 := by
    rcases depth_bytes depth bytesPerPixel with ⟨-, h⟩ | ⟨-, h⟩ | ⟨-, h⟩ | ⟨-, h⟩ <;> omega
  have small : bytes * rect.width.toNat ≤ 3 * 65535 := Nat.mul_le_mul few (by omega)
  constructor
  · rcases depth_bytes depth bytesPerPixel with ⟨h, rfl⟩ | ⟨h, rfl⟩ | ⟨h, rfl⟩ | ⟨h, rfl⟩
    · have guard : ¬ rect.width.toNat > sizeMax / 1 := by rw [limit]; omega
      rw [packedStride, h, Nat.mul_comm]
      exact if_neg guard
    · have guard : ¬ rect.width.toNat > sizeMax / 2 := by rw [limit]; omega
      rw [packedStride, h, Nat.mul_comm]
      exact if_neg guard
    · have guard : ¬ rect.width.toNat > sizeMax / 2 := by rw [limit]; omega
      rw [packedStride, h, Nat.mul_comm]
      exact if_neg guard
    · have guard : ¬ rect.width.toNat > sizeMax / 3 := by rw [limit]; omega
      rw [packedStride, h, Nat.mul_comm]
      exact if_neg guard
  · unfold strideAligned
    split
    · congr 1
      omega
    rw [if_neg (by rw [limit]; omega)]
    congr 1
    omega

theorem decodeRect_uncompressed (wide : rect.width ≠ 0) (high : rect.height ≠ 0)
    (depth : rect.bitsPerPixel ∈ ([8, 15, 16, 24] : List UInt16))
    (covered : rect.bitsPerPixel = 8 → ∃ entries, palette = some entries ∧ entries.length = 256)
    (uncompressed : rect.flags = 0) {rows : List (List Nat)} (count : rows.length = rect.height.toNat)
    (widths : ∀ row ∈ rows, row.length = rect.width.toNat)
    (narrow : ∀ row ∈ rows, ∀ pixel ∈ row, pixel < 2 ^ depthBits rect.bitsPerPixel)
    (packed : PackedRows (rleBytesPerPixel rect.bitsPerPixel) rows rect.data) :
    decodeRectBgra32WithPalette rect palette =
      (pixelsToBgra rect.bitsPerPixel palette rows.reverse.flatten).map
        (fun output => (output, rect.width.toNat * 4)) := by
  obtain ⟨w0, h0, -, -, room⟩ := size_guards wide high
  have w := rect.width.toNat_lt
  have h := rect.height.toNat_lt
  have limit : sizeMax = 18446744073709551615 := by decide
  obtain ⟨bytes, named⟩ : ∃ bytes, bytes = rleBytesPerPixel rect.bitsPerPixel := ⟨_, rfl⟩
  rw [← named] at packed
  obtain ⟨stride, aligned⟩ : ∃ stride, stride = bytes * rect.width.toNat +
    (4 - bytes * rect.width.toNat % 4) % 4 := ⟨_, rfl⟩
  have length := packed.length widths aligned
  have decoded := @decodeRows_packed rect palette bytes rows stride depth named packed widths aligned
    narrow rect.height.toNat (Nat.le_of_eq count.symm)
  rw [← count, List.take_length] at decoded
  obtain ⟨unpadded, padded⟩ := strides_packed depth named
  rw [← aligned] at padded
  have few : bytes ≤ 3 ∧ 1 ≤ bytes := by
    rcases depth_bytes depth named with ⟨-, h⟩ | ⟨-, h⟩ | ⟨-, h⟩ | ⟨-, h⟩ <;> omega
  have small : bytes * rect.width.toNat ≤ 3 * 65535 := Nat.mul_le_mul few.1 (by omega)
  have some_ : 0 < bytes * rect.width.toNat := Nat.mul_pos few.2 w0
  have area : ∀ n ≤ 4 * 65535, 0 < n → ¬ rect.height.toNat > sizeMax / n := by
    intro n bound pos
    have product : rect.height.toNat * n ≤ 65535 * (4 * 65535) :=
      Nat.mul_le_mul (by omega) bound
    rw [Nat.not_lt, Nat.le_div_iff_mul_le pos, limit]
    omega
  have enough : ¬ rect.data.length < bytes * rect.width.toNat * rect.height.toNat := by
    rw [length, count, Nat.not_lt]
    exact Nat.mul_le_mul_right _ (by omega)
  -- With the rows as they are packed, the aligned stride is the one taken.
  have taken : (if stride > bytes * rect.width.toNat ∧ rect.height.toNat ≤ sizeMax / stride ∧
      rect.data.length ≥ stride * rect.height.toNat then stride else bytes * rect.width.toNat) =
        stride := by
    have fits := area stride (by omega) (by omega)
    split
    · rfl
    next other =>
      by_contra differs
      exact other ⟨by omega, by omega, Nat.le_of_eq (by rw [length, count])⟩
  have known : ¬ (rect.flags ≠ 0 ∨ rect.bitsPerPixel ∉ ([1, 4, 8, 15, 16, 24, 32] : List UInt16)) := by
    simp only [List.mem_cons, List.not_mem_nil, or_false] at depth
    rcases depth with h | h | h | h <;> simp [uncompressed, h]
  have lit : ¬ (rect.bitsPerPixel ∈ ([1, 4, 8] : List UInt16) ∧ palette.isNone) := by
    rintro ⟨indexed, missing⟩
    simp only [List.mem_cons, List.not_mem_nil, or_false] at depth indexed
    rcases depth with h | h | h | h
    · obtain ⟨entries, rfl, -⟩ := covered h
      cases missing
    all_goals
      rw [h] at indexed
      exact absurd indexed (by decide)
  have plain : ¬ rect.flags &&& bitmapFlagCompressed ≠ 0 := by
    rw [uncompressed]
    decide
  rw [decodeRectBgra32WithPalette, if_neg plain, decodeUncompressedBgra32, if_neg known, if_neg lit,
    if_neg (by simp [wide, high])]
  simp only [unpadded, padded]
  rw [if_neg (area _ (by omega) some_), if_neg enough, taken, if_neg room, ← count, decoded]
  cases pixelsToBgra rect.bitsPerPixel palette rows.reverse.flatten <;> rfl

theorem decodeRect_compressed (wide : rect.width ≠ 0) (high : rect.height ≠ 0)
    (depth : rect.bitsPerPixel ∈ ([8, 15, 16, 24] : List UInt16))
    (covered : rect.bitsPerPixel = 8 → ∃ entries, palette = some entries ∧ entries.length = 256)
    (compressed : rect.flags &&& bitmapFlagCompressed ≠ 0)
    (known : rect.flags &&& ~~~(bitmapFlagCompressed ||| bitmapFlagNoCompressionHeader) = 0)
    {stream : Bytes} (carries : compressedPayload rect = .ok stream)
    (expands : rleDecodeStream stream rect.width rect.height rect.bitsPerPixel = .ok pixels) :
    decodeRectBgra32WithPalette rect palette =
      (pixelsToBgra rect.bitsPerPixel palette pixels).map
        (fun output => (output, rect.width.toNat * 4)) := by
  obtain ⟨-, -, wideEnough, few, room⟩ := size_guards wide high
  have supported : ¬ (rect.width = 0 ∨ rect.height = 0 ∨
      rect.bitsPerPixel ∉ ([8, 15, 16, 24, 32] : List UInt16)) := by
    simp only [List.mem_cons, List.not_mem_nil, or_false] at depth
    rcases depth with h | h | h | h <;> simp [wide, high, h]
  have lit : ¬ (rect.bitsPerPixel = 8 ∧ palette.isNone) := by
    rintro ⟨indexed, missing⟩
    obtain ⟨entries, rfl, -⟩ := covered indexed
    cases missing
  rw [decodeRectBgra32WithPalette, if_pos compressed, decodeCompressedBgra32, if_neg (by simp [known]),
    if_neg supported, if_neg lit, if_neg wideEnough, if_neg few, if_neg room, carries,
    ok_bind, expands, ok_bind]
  cases pixelsToBgra rect.bitsPerPixel palette pixels <;> rfl

end Rectangles

/-- Rectangles that carry the same pixels, uncompressed and compressed, decode to the same rows
    exactly if the picture looks the same upside down. -/
theorem decodeRect_same_iff {raw packed : BitmapRect} {palette : Option Palette} {stream : Bytes}
    {pixels : List Nat} (wide : raw.width ≠ 0) (high : raw.height ≠ 0)
    (depth : raw.bitsPerPixel ∈ ([8, 15, 16, 24] : List UInt16))
    (covered : raw.bitsPerPixel = 8 → ∃ entries, palette = some entries ∧ entries.length = 256)
    (sameWidth : packed.width = raw.width) (sameHeight : packed.height = raw.height)
    (sameDepth : packed.bitsPerPixel = raw.bitsPerPixel)
    (uncompressed : raw.flags = 0)
    (rows : PackedRows (rleBytesPerPixel raw.bitsPerPixel)
      (rowsOf raw.width.toNat raw.height.toNat pixels) raw.data)
    (compressed : packed.flags &&& bitmapFlagCompressed ≠ 0)
    (known : packed.flags &&& ~~~(bitmapFlagCompressed ||| bitmapFlagNoCompressionHeader) = 0)
    (carries : compressedPayload packed = .ok stream)
    (expands : rleDecodeStream stream raw.width raw.height raw.bitsPerPixel = .ok pixels) :
    (∃ output, decodeRectBgra32WithPalette raw palette = .ok (output, raw.width.toNat * 4) ∧
        decodeRectBgra32WithPalette packed palette = .ok (output, raw.width.toNat * 4)) ↔
      (picture raw.bitsPerPixel palette (rowsOf raw.width.toNat raw.height.toNat pixels)).reverse =
        picture raw.bitsPerPixel palette (rowsOf raw.width.toNat raw.height.toNat pixels) := by
  obtain ⟨length, narrow⟩ := rleDecodeStream_ok expands
  obtain ⟨count, widths⟩ := rowsOf_shape length
  have whole := rowsOf_flatten length
  have narrowRows : ∀ row ∈ rowsOf raw.width.toNat raw.height.toNat pixels, ∀ pixel ∈ row,
      pixel < 2 ^ depthBits raw.bitsPerPixel := by
    intro row inRow pixel here
    exact narrow pixel (whole ▸ List.mem_flatten.mpr ⟨row, inRow, here⟩)
  have first := decodeRect_uncompressed wide high depth covered uncompressed count widths narrowRows
    rows
  have second := @decodeRect_compressed packed palette pixels (sameWidth ▸ wide) (sameHeight ▸ high)
    (sameDepth ▸ depth) (sameDepth ▸ covered) compressed known stream carries
    (by rw [sameWidth, sameHeight, sameDepth]; exact expands)
  rw [sameWidth, sameDepth] at second
  have coloured := fun row inRow pixel here =>
    rawPixelToBgra_ok depth covered (narrowRows row inRow pixel here)
  rw [← pixelsToBgra_reverse_iff widths coloured, whole, first, second]
  rw [pixelsToBgra_ok (fun pixel here => (rawPixelToBgra_ok depth covered (narrow pixel here)).1)]
  constructor
  · rintro ⟨output, turned, straight⟩
    cases converted : pixelsToBgra raw.bitsPerPixel palette
        (rowsOf raw.width.toNat raw.height.toNat pixels).reverse.flatten with
    | error stop =>
        rw [converted] at turned
        cases turned
    | ok bytes =>
        rw [converted] at turned
        cases turned
        cases straight
        rfl
  · intro same
    rw [same]
    exact ⟨_, rfl, rfl⟩

/-- A white, a black and a white row of one pixel each, uncompressed and as three orders. -/
theorem decodeRect_same_iff_stripes :
    (picture 24 none (rowsOf 1 3 [0xffffff, 0, 0xffffff])).length = 3 ∧
    ∃ output, decodeRectBgra32WithPalette
        ⟨0, 0, 0, 2, 1, 3, 24, 0, [0xff, 0xff, 0xff, 0, 0, 0, 0, 0, 0xff, 0xff, 0xff, 0]⟩ none =
          .ok (output, 4) ∧
      decodeRectBgra32WithPalette ⟨0, 0, 0, 2, 1, 3, 24, 0x0401, [0xfd, 0xfe, 0xfd]⟩ none =
        .ok (output, 4) := by
  have rows : PackedRows 3 (rowsOf 1 3 [0xffffff, 0, 0xffffff])
      [0xff, 0xff, 0xff, 0, 0, 0, 0, 0, 0xff, 0xff, 0xff, 0] :=
    @PackedRows.cons 3 [0xffffff] _ [0] _ rfl
      (@PackedRows.cons 3 [0] _ [0] _ rfl (@PackedRows.cons 3 [0xffffff] [] [0] [] rfl .nil))
  have same := @decodeRect_same_iff
    ⟨0, 0, 0, 2, 1, 3, 24, 0, [0xff, 0xff, 0xff, 0, 0, 0, 0, 0, 0xff, 0xff, 0xff, 0]⟩
    ⟨0, 0, 0, 2, 1, 3, 24, 0x0401, [0xfd, 0xfe, 0xfd]⟩ none _ [0xffffff, 0, 0xffffff] (by decide)
    (by decide) (by decide) (fun indexed => absurd indexed (by decide)) rfl rfl rfl rfl rows
    (by decide) (by decide) rfl rfl
  exact ⟨rfl, same.mpr rfl⟩

/-- Two rows of one pixel each: one way they come turned over, the other way they do not. -/
theorem decodeRect_row_order :
    rleDecodeStream [0x82, 1, 2, 3, 4, 5, 6] 1 2 24 = .ok [0x030201, 0x060504] ∧
    PackedRows 3 (rowsOf 1 2 [0x030201, 0x060504]) [1, 2, 3, 0, 4, 5, 6, 0] ∧
    decodeRectBgra32WithPalette ⟨0, 0, 0, 1, 1, 2, 24, 0, [1, 2, 3, 0, 4, 5, 6, 0]⟩ none =
      .ok ([4, 5, 6, 0xff, 1, 2, 3, 0xff], 4) ∧
    decodeRectBgra32WithPalette ⟨0, 0, 0, 1, 1, 2, 24, 0x0401, [0x82, 1, 2, 3, 4, 5, 6]⟩ none =
      .ok ([1, 2, 3, 0xff, 4, 5, 6, 0xff], 4) := by
  have last : PackedRows 3 [[0x060504]] [4, 5, 6, 0] :=
    @PackedRows.cons 3 [0x060504] [] [0] [] rfl .nil
  exact ⟨rfl, @PackedRows.cons 3 [0x030201] [[0x060504]] [0] [4, 5, 6, 0] rfl last, rfl, rfl⟩

end LibRdp.Graphics
