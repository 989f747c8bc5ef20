import LibRdp.Graphics.Bitmap

/-! # Bitmap updates on the wire

The parser and the writer of bitmap updates. The slow path always begins with
the update type. The fast-path parser first reads the data as if it were left
out, and only then as the writer writes them.
-/

namespace LibRdp.Graphics

def bitmapMaxRects : Nat := 64
def updateTypeBitmap : UInt16 := 0x0001

/-- One iteration of `rdp_bitmap_parse_rectangles`. -/
def parseRectangle (stream : Bytes) : Attempt (BitmapRect × Bytes) := do
  let (destLeft, stream) ← readU16Le stream
  let (destTop, stream) ← readU16Le stream
  let (destRight, stream) ← readU16Le stream
  let (destBottom, stream) ← readU16Le stream
  let (width, stream) ← readU16Le stream
  let (height, stream) ← readU16Le stream
  let (bitsPerPixel, stream) ← readU16Le stream
  let (flags, stream) ← readU16Le stream
  let (dataLen, stream) ← readU16Le stream
  if width = 0 ∨ height = 0 ∨ destRight < destLeft ∨ destBottom < destTop then refuse .protocolError
  else if dataLen.toNat > stream.length then refuse .protocolError
  else do
    let (data, stream) ← readBytes stream dataLen.toNat
    pure (⟨destLeft, destTop, destRight, destBottom, width, height, bitsPerPixel, flags, data⟩, stream)

def parseRectanglesLoop : Nat → Bytes → Attempt (List BitmapRect × Bytes)
  | 0, stream => .ok ([], stream)
  | count + 1, stream => do
      let (rect, stream) ← parseRectangle stream
      let (rects, stream) ← parseRectanglesLoop count stream
      pure (rect :: rects, stream)

def parseRectangles (stream : Bytes) (count : UInt16) : Attempt (List BitmapRect × Bytes) :=
  if count.toNat > bitmapMaxRects then refuse .protocolError
  else parseRectanglesLoop count.toNat stream

def parseWholeRectangles (stream : Bytes) (count : UInt16) : Attempt (List BitmapRect) := do
  let (rects, stream) ← parseRectangles stream count
  if stream.length ≠ 0 then refuse .protocolError else pure rects

/-- `rdp_bitmap_parse_update_header`. -/
def parseUpdateHeader (data : Bytes) : Attempt (UInt16 × UInt16) := do
  let (updateType, stream) ← readU16Le data
  let (count, _) ← readU16Le stream
  pure (updateType, count)

/-- `rdp_bitmap_parse_update`. -/
def parseUpdate (data : Bytes) : Attempt (List BitmapRect) := do
  let (updateType, count) ← parseUpdateHeader data
  if updateType ≠ updateTypeBitmap then refuse .protocolError
  else do
    let (_, stream) ← readBytes data 4
    parseWholeRectangles stream count

/-- The second reading of `rdp_bitmap_parse_fastpath_update`, with the update type. -/
def parseTypedUpdate (data : Bytes) : Attempt (List BitmapRect) := do
  let (_, stream) ← readBytes data 2
  let (count, stream) ← readU16Le stream
  parseWholeRectangles stream count

/-- `rdp_bitmap_parse_fastpath_update`. -/
def parseFastpathUpdate (data : Bytes) : Attempt (List BitmapRect) := do
  let (first, stream) ← readU16Le data
  match parseWholeRectangles stream first with
  | .ok rects => .ok rects
  | .error stop => if first ≠ updateTypeBitmap then .error stop else parseTypedUpdate data

/-- `rdp_bitmap_validate_rect`. -/
def validateRect (rect : BitmapRect) : Status :=
  if rect.width = 0 ∨ rect.height = 0 ∨ rect.destRight < rect.destLeft ∨
      rect.destBottom < rect.destTop ∨ rect.bitsPerPixel = 0 ∨ rect.data.length > 0xffff then
    .invalidArgument
  else .ok

def rectBytes (rect : BitmapRect) : Bytes :=
  u16LeBytes rect.destLeft.toNat ++ (u16LeBytes rect.destTop.toNat ++
    (u16LeBytes rect.destRight.toNat ++ (u16LeBytes rect.destBottom.toNat ++
    (u16LeBytes rect.width.toNat ++ (u16LeBytes rect.height.toNat ++
    (u16LeBytes rect.bitsPerPixel.toNat ++ (u16LeBytes rect.flags.toNat ++
    (u16LeBytes rect.data.length ++ rect.data))))))))

/-- `rdp_bitmap_write_rect`: the status and the buffer. -/
def writeRect (buffer : Bytes) (rect : BitmapRect) : Status × Bytes :=
  match validateRect rect with
  | .ok => (.ok, buffer ++ rectBytes rect)
  | status => (status, buffer)

/-- The loop of `rdp_bitmap_write_rects`. -/
def writeRectsLoop (buffer : Bytes) : List BitmapRect → Status × Bytes
  | [] => (.ok, buffer)
  | rect :: rects =>
      match writeRect buffer rect with
      | (.ok, buffer) => writeRectsLoop buffer rects
      | failed => failed

/-- `rdp_bitmap_write_update`; the guard of `rdp_bitmap_write_rects` is the same. -/
def writeUpdate (buffer : Bytes) (rects : List BitmapRect) : Status × Bytes :=
  if rects.length > bitmapMaxRects then (.invalidArgument, buffer)
  else writeRectsLoop (buffer ++ u16LeBytes updateTypeBitmap.toNat ++ u16LeBytes rects.length) rects

def writeFastpathUpdate (buffer : Bytes) (rects : List BitmapRect) : Status × Bytes :=
  writeUpdate buffer rects

def updateBytes (rects : List BitmapRect) : Bytes :=
  u16LeBytes updateTypeBitmap.toNat ++ (u16LeBytes rects.length ++ rects.flatMap rectBytes)

/-- The first reading of the fast-path parser takes in all of the writer's bytes: the first
    rectangle's flags are the number of bytes after its header less the length word. -/
def Ambiguous : List BitmapRect → Prop
  | [] => False
  | rect :: rects => (rect :: rects).length ≤ rect.destTop.toNat ∧ rect.destBottom ≠ 0 ∧
      rect.flags.toNat = 2 + rect.data.length + (rects.flatMap rectBytes).length

section RoundTrip

variable {rect : BitmapRect} {rects : List BitmapRect}

theorem validateRect_ok : validateRect rect = .ok ↔ rect.width ≠ 0 ∧ rect.height ≠ 0 ∧
    rect.destLeft ≤ rect.destRight ∧ rect.destTop ≤ rect.destBottom ∧ rect.bitsPerPixel ≠ 0 ∧
    rect.data.length < 65536 := by
  unfold validateRect
  split
  · next bad =>
      refine ⟨fun refused => (by cases refused), fun ⟨wide, high, across, down, deep, short⟩ => ?_⟩
      rcases bad with h | h | h | h | h | h
      · exact absurd h wide
      · exact absurd h high
      · exact absurd h (UInt16.not_lt.mpr across)
      · exact absurd h (UInt16.not_lt.mpr down)
      · exact absurd h deep
      · omega
  next good =>
    simp only [not_or, UInt16.not_lt] at good
    obtain ⟨wide, high, across, down, deep, short⟩ := good
    exact ⟨fun _ => ⟨wide, high, across, down, deep, by omega⟩, fun _ => rfl⟩

theorem readDataLen (rect : BitmapRect) (short : rect.data.length < 65536) (rest : Bytes) :
    readU16Le (u16LeBytes rect.data.length ++ rest) = .ok (UInt16.ofNat rect.data.length, rest) ∧
      (UInt16.ofNat rect.data.length).toNat = rect.data.length := by
  have same : (UInt16.ofNat rect.data.length).toNat = rect.data.length :=
    UInt16.toNat_ofNat_of_lt' short
  refine ⟨?_, same⟩
  have read := readU16Le_append (UInt16.ofNat rect.data.length) rest
  rwa [same] at read

theorem parseRectangle_rectBytes (valid : validateRect rect = .ok) (rest : Bytes) :
    parseRectangle (rectBytes rect ++ rest) = .ok (rect, rest) := by
  obtain ⟨wide, high, across, down, -, short⟩ := validateRect_ok.mp valid
  obtain ⟨length, same⟩ := readDataLen rect short (rect.data ++ rest)
  have shape : ¬ (rect.width = 0 ∨ rect.height = 0 ∨ rect.destRight < rect.destLeft ∨
      rect.destBottom < rect.destTop) := by
    simp only [not_or, UInt16.not_lt]
    exact ⟨wide, high, across, down⟩
  have inside : ¬ rect.data.length > (rect.data ++ rest).length := by
    rw [List.length_append]
    omega
  simp only [rectBytes, List.append_assoc, parseRectangle, readU16Le_append, ok_bind, length,
    same, if_neg shape, if_neg inside, readBytes_append, attempt_pure]

theorem parseRectanglesLoop_append (valid : ∀ rect ∈ rects, validateRect rect = .ok) (rest : Bytes) :
    parseRectanglesLoop rects.length (rects.flatMap rectBytes ++ rest) = .ok (rects, rest) := by
  induction rects with
  | nil => rfl
  | cons rect rects ih =>
    have here := parseRectangle_rectBytes (valid rect List.mem_cons_self)
      (rects.flatMap rectBytes ++ rest)
    have later := ih (fun r listed => valid r (List.mem_cons_of_mem _ listed))
    simp only [List.length_cons, parseRectanglesLoop, List.flatMap_cons, List.append_assoc, here,
      ok_bind, later, attempt_pure]

theorem parseWholeRectangles_bytes (few : rects.length ≤ bitmapMaxRects)
    (valid : ∀ rect ∈ rects, validateRect rect = .ok) {count : UInt16}
    (counted : count.toNat = rects.length) :
    parseWholeRectangles (rects.flatMap rectBytes) count = .ok rects := by
  have all := parseRectanglesLoop_append valid []
  rw [List.append_nil] at all
  simp only [parseWholeRectangles, parseRectangles, counted, if_neg (Nat.not_lt.mpr few), all,
    ok_bind]
  rfl

theorem writeRectsLoop_bytes (valid : ∀ rect ∈ rects, validateRect rect = .ok) (buffer : Bytes) :
    writeRectsLoop buffer rects = (.ok, buffer ++ rects.flatMap rectBytes) := by
  induction rects generalizing buffer with
  | nil => rw [writeRectsLoop, List.flatMap_nil, List.append_nil]
  | cons rect rects ih =>
    rw [writeRectsLoop, writeRect, valid rect List.mem_cons_self]
    simp only
    rw [ih (fun r listed => valid r (List.mem_cons_of_mem _ listed)), List.flatMap_cons,
      List.append_assoc]

theorem writeUpdate_bytes (few : rects.length ≤ bitmapMaxRects)
    (valid : ∀ rect ∈ rects, validateRect rect = .ok) :
    writeUpdate [] rects = (.ok, updateBytes rects) := by
  rw [writeUpdate, if_neg (Nat.not_lt.mpr few), writeRectsLoop_bytes valid, updateBytes]
  simp only [List.nil_append, List.append_assoc]

def afterFlags (rect : BitmapRect) (rects : List BitmapRect) : Bytes :=
  u16LeBytes rect.data.length ++ (rect.data ++ rects.flatMap rectBytes)

/-- The rectangle seen when the count is taken for the first coordinate. -/
def misread (rect : BitmapRect) (rects : List BitmapRect) (count : UInt16) : BitmapRect :=
  ⟨count, rect.destLeft, rect.destTop, rect.destRight, rect.destBottom, rect.width, rect.height,
    rect.bitsPerPixel, (afterFlags rect rects).take rect.flags.toNat⟩

theorem parseRectangle_shifted (valid : validateRect rect = .ok) (rects : List BitmapRect)
    (count : UInt16) :
    parseRectangle (u16LeBytes count.toNat ++ (rect :: rects).flatMap rectBytes) =
      if rect.destBottom = 0 ∨ rect.destTop < count ∨
        (afterFlags rect rects).length < rect.flags.toNat then refuse .protocolError
      else .ok (misread rect rects count, (afterFlags rect rects).drop rect.flags.toNat) := by
  obtain ⟨wide, -, across, -, -, -⟩ := validateRect_ok.mp valid
  have fields : parseRectangle (u16LeBytes count.toNat ++ (rect :: rects).flatMap rectBytes) =
      (if rect.destBottom = 0 ∨ rect.width = 0 ∨ rect.destTop < count ∨ rect.destRight < rect.destLeft
        then refuse .protocolError
      else if rect.flags.toNat > (afterFlags rect rects).length then refuse .protocolError
      else do
        let (data, stream) ← readBytes (afterFlags rect rects) rect.flags.toNat
        pure (⟨count, rect.destLeft, rect.destTop, rect.destRight, rect.destBottom, rect.width,
          rect.height, rect.bitsPerPixel, data⟩, stream)) := by
    simp only [List.flatMap_cons, rectBytes, List.append_assoc, parseRectangle, readU16Le_append,
      ok_bind, afterFlags]
    rfl
  have ordered : ¬ rect.destRight < rect.destLeft := UInt16.not_lt.mpr across
  rw [fields]
  simp only [wide, ordered, false_or, or_false]
  by_cases bad : rect.destBottom = 0 ∨ rect.destTop < count
  · rw [if_pos bad, if_pos (by rcases bad with h | h <;> simp [h])]
  simp only [not_or] at bad
  simp only [bad.1, bad.2, false_or, or_false, if_false]
  by_cases long : (afterFlags rect rects).length < rect.flags.toNat
  · rw [if_pos long, if_pos long]
  · rw [if_neg long, if_neg long, readBytes, if_neg long]
    rfl

theorem parseWholeRectangles_shifted (valid : validateRect rect = .ok) (rects : List BitmapRect)
    {count : UInt16} (counted : count.toNat = (rect :: rects).length) :
    (Ambiguous (rect :: rects) →
      parseWholeRectangles (u16LeBytes count.toNat ++ (rect :: rects).flatMap rectBytes) 1 =
        .ok [misread rect rects count]) ∧
    (¬ Ambiguous (rect :: rects) → ∃ stop,
      parseWholeRectangles (u16LeBytes count.toNat ++ (rect :: rects).flatMap rectBytes) 1 =
        .error stop) := by
  have tail : (afterFlags rect rects).length = 2 + rect.data.length + (rects.flatMap rectBytes).length := by
    simp only [afterFlags, List.length_append, u16LeBytes_length]
    omega
  have ambiguous : Ambiguous (rect :: rects) ↔ ¬ (rect.destBottom = 0 ∨ rect.destTop < count ∨
      (afterFlags rect rects).length < rect.flags.toNat) ∧
      ((afterFlags rect rects).drop rect.flags.toNat).length = 0 := by
    rw [Ambiguous, ← counted, List.length_drop, tail, UInt16.lt_iff_toNat_lt]
    constructor
    · rintro ⟨enough, deep, exact_⟩
      refine ⟨?_, by omega⟩
      rintro (h | h | h)
      · exact deep h
      · omega
      · omega
    · rintro ⟨fits, none_⟩
      simp only [not_or] at fits
      exact ⟨by omega, fits.1, by omega⟩
  have one : parseWholeRectangles (u16LeBytes count.toNat ++ (rect :: rects).flatMap rectBytes) 1 =
      (do
        let (first, stream) ← parseRectangle (u16LeBytes count.toNat ++ (rect :: rects).flatMap rectBytes)
        if stream.length ≠ 0 then refuse .protocolError else pure [first]) := by
    rw [parseWholeRectangles, parseRectangles, if_neg (by decide)]
    show (do
      let (rects, stream) ← (do
        let (first, stream) ← parseRectangle (u16LeBytes count.toNat ++ (rect :: rects).flatMap rectBytes)
        pure ([first], stream))
      if stream.length ≠ 0 then refuse .protocolError else pure rects) = _
    cases parseRectangle (u16LeBytes count.toNat ++ (rect :: rects).flatMap rectBytes) <;> rfl
  rw [one, parseRectangle_shifted valid rects count]
  constructor
  · intro all
    obtain ⟨fits, none_⟩ := ambiguous.mp all
    rw [if_neg fits, ok_bind]
    exact if_neg (not_not.mpr none_)
  · intro other
    by_cases fits : rect.destBottom = 0 ∨ rect.destTop < count ∨
        (afterFlags rect rects).length < rect.flags.toNat
    · exact ⟨_, by rw [if_pos fits]; rfl⟩
    · refine ⟨.returned .protocolError, ?_⟩
      rw [if_neg fits, ok_bind]
      exact if_pos (fun none_ => other (ambiguous.mpr ⟨fits, none_⟩))

theorem updateBytes_words (few : rects.length ≤ bitmapMaxRects) :
    (UInt16.ofNat rects.length).toNat = rects.length ∧
      readU16Le (updateBytes rects) =
        .ok (updateTypeBitmap, u16LeBytes rects.length ++ rects.flatMap rectBytes) ∧
      readU16Le (u16LeBytes rects.length ++ rects.flatMap rectBytes) =
        .ok (UInt16.ofNat rects.length, rects.flatMap rectBytes) := by
  have small : rects.length < 65536 := Nat.lt_of_le_of_lt few (by decide)
  have counted : (UInt16.ofNat rects.length).toNat = rects.length := UInt16.toNat_ofNat_of_lt' small
  have count := readU16Le_append (UInt16.ofNat rects.length) (rects.flatMap rectBytes)
  rw [counted] at count
  exact ⟨counted, readU16Le_append updateTypeBitmap _, count⟩

theorem parseTypedUpdate_bytes (few : rects.length ≤ bitmapMaxRects)
    (valid : ∀ rect ∈ rects, validateRect rect = .ok) :
    parseTypedUpdate (updateBytes rects) = .ok rects := by
  obtain ⟨counted, -, count⟩ := updateBytes_words few
  have skipped : readBytes (updateBytes rects) 2 =
      .ok (u16LeBytes updateTypeBitmap.toNat, u16LeBytes rects.length ++ rects.flatMap rectBytes) :=
    readBytes_append (u16LeBytes updateTypeBitmap.toNat) _
  simp only [parseTypedUpdate, skipped, ok_bind, count]
  exact parseWholeRectangles_bytes few valid counted

theorem parseUpdate_bytes (few : rects.length ≤ bitmapMaxRects)
    (valid : ∀ rect ∈ rects, validateRect rect = .ok) :
    parseUpdate (updateBytes rects) = .ok rects := by
  obtain ⟨counted, typed, count⟩ := updateBytes_words few
  have header : parseUpdateHeader (updateBytes rects) =
      .ok (updateTypeBitmap, UInt16.ofNat rects.length) := by
    simp only [parseUpdateHeader, typed, ok_bind, count, attempt_pure]
  have skipped : readBytes (updateBytes rects) 4 =
      .ok (u16LeBytes updateTypeBitmap.toNat ++ u16LeBytes rects.length, rects.flatMap rectBytes) := by
    rw [updateBytes, ← List.append_assoc]
    exact readBytes_append (u16LeBytes updateTypeBitmap.toNat ++ u16LeBytes rects.length) _
  simp only [parseUpdate, header, ok_bind, ne_eq, not_true_eq_false, if_false, skipped]
  exact parseWholeRectangles_bytes few valid counted

theorem parseFastpathUpdate_bytes (few : rects.length ≤ bitmapMaxRects)
    (valid : ∀ rect ∈ rects, validateRect rect = .ok) :
    (¬ Ambiguous rects → parseFastpathUpdate (updateBytes rects) = .ok rects) ∧
    (Ambiguous rects → parseFastpathUpdate (updateBytes rects) ≠ .ok rects) := by
  obtain ⟨counted, typed, -⟩ := updateBytes_words few
  have reading : parseFastpathUpdate (updateBytes rects) =
      match parseWholeRectangles (u16LeBytes rects.length ++ rects.flatMap rectBytes) 1 with
      | .ok rects => .ok rects
      | .error _ => .ok rects := by
    rw [parseFastpathUpdate, typed, ok_bind, parseTypedUpdate_bytes few valid]
    rfl
  cases rects with
  | nil => exact ⟨fun _ => rfl, fun impossible => impossible.elim⟩
  | cons rect rects =>
    obtain ⟨taken, passed⟩ :=
      parseWholeRectangles_shifted (valid rect List.mem_cons_self) rects counted
    rw [counted] at taken passed
    constructor
    · intro other
      obtain ⟨stop, failed⟩ := passed other
      rw [reading, failed]
    · intro ambiguous same
      rw [reading, taken ambiguous] at same
      simp only [Except.ok.injEq, List.cons.injEq] at same
      -- The flags count the length word, so the data cannot be the same.
      have data := congrArg (fun r => r.data.length) same.1
      obtain ⟨-, -, length⟩ := ambiguous
      simp only [misread, afterFlags, List.length_take, List.length_append, u16LeBytes_length] at data
      omega

/-- What the writers write is read back by both parsers, exactly if it is not ambiguous. -/
theorem update_round_trip_iff (few : rects.length ≤ 64)
    (valid : ∀ rect ∈ rects, validateRect rect = .ok) :
    ((∃ bytes, writeUpdate [] rects = (.ok, bytes) ∧ parseUpdate bytes = .ok rects) ∧
      ∃ bytes, writeFastpathUpdate [] rects = (.ok, bytes) ∧ parseFastpathUpdate bytes = .ok rects) ↔
    ¬ Ambiguous rects := by
  obtain ⟨taken, mistaken⟩ := parseFastpathUpdate_bytes few valid
  have written := writeUpdate_bytes few valid
  constructor
  · rintro ⟨-, bytes, fast, read⟩ ambiguous
    rw [writeFastpathUpdate, written] at fast
    cases fast
    exact mistaken ambiguous read
  · intro other
    exact ⟨⟨_, written, parseUpdate_bytes few valid⟩, _, written, taken other⟩

end RoundTrip

theorem update_round_trip_iff_raw : ¬ Ambiguous [⟨0, 0, 0, 0, 1, 1, 24, 0, [1, 2, 3, 0]⟩] ∧
    (∃ bytes, writeFastpathUpdate [] [⟨0, 0, 0, 0, 1, 1, 24, 0, [1, 2, 3, 0]⟩] = (.ok, bytes) ∧
      parseFastpathUpdate bytes = .ok [⟨0, 0, 0, 0, 1, 1, 24, 0, [1, 2, 3, 0]⟩]) := by
  have plain : ¬ Ambiguous [⟨0, 0, 0, 0, 1, 1, 24, 0, [1, 2, 3, 0]⟩] := by
    rintro ⟨-, deep, -⟩
    exact deep rfl
  exact ⟨plain, ((update_round_trip_iff (by decide) (by decide)).mpr plain).2⟩

/-- A compressed rectangle of 1023 bytes without compression header: its flags 0x0401 are
    taken for the length of the data. -/
theorem update_misread : ∃ rect : BitmapRect, validateRect rect = .ok ∧ rect.flags = 0x0401 ∧
    rect.data = List.replicate 1023 0x1f ∧
    ∃ bytes, writeFastpathUpdate [] [rect] = (.ok, bytes) ∧ parseFastpathUpdate bytes ≠ .ok [rect] := by
  obtain ⟨rect, named⟩ : ∃ rect : BitmapRect, rect =
    ⟨0, 1, 63, 32, 64, 32, 24, 0x0401, List.replicate 1023 0x1f⟩ := ⟨_, rfl⟩
  have valid : validateRect rect = .ok := by
    refine validateRect_ok.mpr ?_
    rw [named]
    refine ⟨by decide, by decide, by decide, by decide, by decide, ?_⟩
    rw [List.length_replicate]
    decide
  have all : ∀ r ∈ [rect], validateRect r = .ok := by
    intro r listed
    rw [List.mem_singleton.mp listed]
    exact valid
  have ambiguous : Ambiguous [rect] := by
    rw [named]
    refine ⟨by decide, by decide, ?_⟩
    rw [List.length_replicate]
    rfl
  have few : [rect].length ≤ bitmapMaxRects := Nat.le_of_ble_eq_true rfl
  exact ⟨rect, valid, by rw [named], by rw [named], _, writeUpdate_bytes few all,
    (parseFastpathUpdate_bytes few all).2 ambiguous⟩

end LibRdp.Graphics
