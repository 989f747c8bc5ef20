import LibRdp.Graphics.BitmapStrokes

/-! # What the run-length decoder does with an order

An order is carried out exactly when the bytes at hand begin with a spelling of
it and there is room for its pixels.
-/

namespace LibRdp.Graphics

open Coding

def runForms : List RunForm :=
  [backgroundForm, foregroundForm false, foregroundForm true, imageForm false, imageForm true,
    colourRunForm, coloursForm, ditheredForm]

def RunForm.shortCode (form : RunForm) : UInt8 := UInt8.ofNat form.code

def RunForm.low (form : RunForm) (header : UInt8) : UInt8 :=
  header &&& UInt8.ofNat (2 ^ form.lowBits - 1)

theorem runForms_headers : ∀ form ∈ runForms, ∀ n < 256,
    (form.low (UInt8.ofNat n)).toNat < 2 ^ form.lowBits ∧
    (rleCode (UInt8.ofNat n) = form.shortCode →
      form.header (form.low (UInt8.ofNat n)).toNat = UInt8.ofNat n) ∧
    (rleCode (UInt8.ofNat n) = form.mega → UInt8.ofNat n = form.mega) := by
  decide +kernel

theorem runForms_codes : ∀ form ∈ runForms, rleCode form.mega = form.mega ∧
    0 < form.unit ∧ 0 < form.extra ∧
    ∀ low < 2 ^ form.lowBits, rleCode (form.header low) = form.shortCode ∧
      (form.low (form.header low)).toNat = low := by
  decide +kernel

def rleLongLength : Bytes → Attempt (Nat × Nat)
  | b1 :: b2 :: _ => if u16Le b1 b2 = 0 then refuse .protocolError else .ok (u16Le b1 b2, 3)
  | _ => refuse .protocolError

variable {form : RunForm} {rest : Bytes} {run : Nat}

theorem rleRunLength_forms (listed : form ∈ runForms) {reader : RleReader} {order : UInt8}
    (here : reader.current = order :: rest) :
    rleRunLength reader form.shortCode = rleShortLength (form.low order) form.unit form.extra rest ∧
      rleRunLength reader form.mega = rleLongLength rest := by
  simp only [runForms, List.mem_cons, List.not_mem_nil, or_false] at listed
  unfold rleRunLength
  rw [here]
  rcases listed with rfl | rfl | rfl | rfl | rfl | rfl | rfl | rfl <;> exact ⟨rfl, rfl⟩

variable {consumed : Nat} {head : Bytes}

theorem rleShortLength_ok {low : UInt8} {unit extra : Nat} :
    rleShortLength low unit extra rest = .ok (run, consumed) ↔
      (low = 0 ∧ ∃ b rest', rest = b :: rest' ∧ run = b.toNat + extra ∧ consumed = 2) ∨
        (low ≠ 0 ∧ run = low.toNat * unit ∧ consumed = 1) := by
  unfold rleShortLength
  by_cases none : low = 0
  · rw [if_pos none]
    cases rest with
    | nil => simp [none, refuse]
    | cons b rest => simp [none, eq_comm]
  · rw [if_neg none]
    simp [none, eq_comm]

theorem rleLongLength_ok :
    rleLongLength rest = .ok (run, consumed) ↔
      ∃ b1 b2 rest', rest = b1 :: b2 :: rest' ∧ 0 < u16Le b1 b2 ∧ run = u16Le b1 b2 ∧ consumed = 3 := by
  unfold rleLongLength
  split
  · next b1 b2 rest' =>
      split
      · next zero => simp [zero, refuse]
      · next some => simp [Nat.pos_iff_ne_zero, some, eq_comm]
  next other =>
    constructor
    · intro refused
      cases refused
    · rintro ⟨b1, b2, rest', rfl, -⟩
      exact absurd rfl (other b1 b2 rest')

theorem RunForm.Spells.code (listed : form ∈ runForms) (spelled : form.Spells run head) :
    ∃ header tail, head = header :: tail ∧
      (rleCode header = form.shortCode ∨ rleCode header = form.mega) := by
  obtain ⟨mega, -, -, lows⟩ := runForms_codes form listed
  cases spelled with
  | short some fits => exact ⟨_, [], rfl, .inl (lows _ fits).1⟩
  | extended b => exact ⟨_, [b], rfl, .inl (lows 0 (Nat.two_pow_pos _)).1⟩
  | mega some => exact ⟨_, _, rfl, .inr mega⟩

theorem rleTakeRun_ok {form : RunForm} (listed : form ∈ runForms) {reader reader' : RleReader}
    {header : UInt8} {rest : Bytes} (here : reader.current = header :: rest)
    (code : rleCode header = form.shortCode ∨ rleCode header = form.mega) {run : Nat} :
    rleTakeRun reader (rleCode header) = .ok (run, reader') ↔
      ∃ head rest', reader.current = head ++ rest' ∧ form.Spells run head ∧
        reader' = { reader with current := rest' } := by
  obtain ⟨short, mega⟩ := rleRunLength_forms listed here
  obtain ⟨megaCode, -, -, lows⟩ := runForms_codes form listed
  obtain ⟨fits, header', long⟩ := runForms_headers form listed header.toNat header.toNat_lt
  rw [UInt8.ofNat_toNat] at fits header' long
  rw [rleTakeRun, bind_eq_ok, here]
  constructor
  · rintro ⟨⟨count, consumed⟩, measured, last⟩
    cases last
    rcases code with code | code
    · rw [code, short, rleShortLength_ok] at measured
      obtain ⟨none, b, rest', rfl, rfl, rfl⟩ | ⟨some, rfl, rfl⟩ := measured
      · refine ⟨[header, b], rest', rfl, ?_, rfl⟩
        rw [← header' code, none]
        exact .extended b
      · have positive : 0 < (form.low header).toNat :=
          Nat.pos_of_ne_zero fun zero => some (UInt8.toNat_inj.mp zero)
        have spelled := RunForm.Spells.short positive fits
        rw [header' code] at spelled
        exact ⟨[header], rest, rfl, spelled, rfl⟩
    · rw [code, mega, rleLongLength_ok] at measured
      obtain ⟨b1, b2, rest', rfl, some, rfl, rfl⟩ := measured
      refine ⟨[header, b1, b2], rest', rfl, ?_, rfl⟩
      rw [long code]
      exact .mega some
  · rintro ⟨head, rest', split, spelled, rfl⟩
    cases spelled with
    | @short low some small =>
      obtain ⟨rfl, rfl⟩ := List.cons.inj split
      obtain ⟨codeShort, value⟩ := lows _ small
      rw [codeShort, short]
      refine ⟨(low * form.unit, 1), rleShortLength_ok.mpr (.inr ⟨?_, by rw [value], rfl⟩), rfl⟩
      intro zero
      rw [zero] at value
      exact absurd value (Nat.ne_of_lt some)
    | extended b =>
      obtain ⟨rfl, rfl⟩ := List.cons.inj split
      obtain ⟨codeShort, value⟩ := lows 0 (Nat.two_pow_pos _)
      rw [codeShort, short]
      exact ⟨(b.toNat + form.extra, 2), rleShortLength_ok.mpr
        (.inl ⟨UInt8.toNat_inj.mp value, b, rest', rfl, rfl, rfl⟩), rfl⟩
    | @mega b1 b2 some =>
      obtain ⟨rfl, rfl⟩ := List.cons.inj split
      rw [megaCode, mega]
      exact ⟨(u16Le b1 b2, 3), rleLongLength_ok.mpr ⟨b1, b2, rest', rfl, some, rfl, rfl⟩, rfl⟩

theorem RunForm.Spells.positive (listed : form ∈ runForms) (spelled : form.Spells run head) :
    0 < run := by
  obtain ⟨-, unit, extra, -⟩ := runForms_codes form listed
  cases spelled with
  | short some fits => exact Nat.mul_pos some unit
  | extended b => omega
  | mega some => exact some

theorem foregroundForm_listed (sets : Bool) : foregroundForm sets ∈ runForms := by
  cases sets <;> decide

theorem imageForm_listed (sets : Bool) : imageForm sets ∈ runForms := by
  cases sets <;> decide

/-- The reader after an order: its strokes are drawn, and its foreground is in force. -/
def RleReader.afterOrder (reader : RleReader) (order : BitmapOrder) (rest : Bytes) : RleReader :=
  { reader with
    current := rest
    pixels := draw reader.width reader.pixels
      (order.strokes (order.foregroundFrom reader.foreground) reader.insertForeground)
    foreground := order.foregroundFrom reader.foreground
    insertForeground := order.isBackground }

/-- The reader can take an order: the bytes at hand spell it, and its pixels have room. -/
def RleReader.Takes (reader reader' : RleReader) (order : BitmapOrder) : Prop :=
  ∃ bytes rest, reader.current = bytes ++ rest ∧ order.Spells reader.bitsPerPixel bytes ∧
    order.pixelCount ≤ reader.room ∧ reader' = reader.afterOrder order rest

section Orders

variable {reader reader' : RleReader} {header : UInt8} {tail : Bytes}

/-- The reader at the start of an order other than a background run. -/
def RleReader.cleared (reader : RleReader) : RleReader := { reader with insertForeground := false }

variable {sets : Bool}

variable {code : UInt8}

theorem rleOrder_foreground (reader : RleReader)
    (here : code = (foregroundForm sets).shortCode ∨ code = (foregroundForm sets).mega) :
    rleOrder reader code = (do
      let (run, reader) ← rleTakeRun reader.cleared code
      let reader ← rleReadForeground sets reader
      rleWriteForeground reader run) := by
  cases sets <;> rcases here with rfl | rfl <;> rfl

theorem rleOrder_image (reader : RleReader)
    (here : code = (imageForm sets).shortCode ∨ code = (imageForm sets).mega) :
    rleOrder reader code = (do
      let (run, reader) ← rleTakeRun reader.cleared code
      let reader ← rleReadForeground sets reader
      rleImageMasks reader.current run reader) := by
  cases sets <;> rcases here with rfl | rfl <;> rfl

theorem rleOrder_dithered (reader : RleReader)
    (here : code = ditheredForm.shortCode ∨ code = ditheredForm.mega) :
    rleOrder reader code = (do
      let (run, reader) ← rleTakeRun reader.cleared code
      let (a, reader) ← rleReadPixel reader
      let (b, reader) ← rleReadPixel reader
      rleWriteDithered a b run reader) := by
  rcases here with rfl | rfl <;> rfl

theorem rleOrder_colourRun (reader : RleReader)
    (here : code = colourRunForm.shortCode ∨ code = colourRunForm.mega) :
    rleOrder reader code = (do
      let (run, reader) ← rleTakeRun reader.cleared code
      let (color, reader) ← rleReadPixel reader
      rleRepeat reader color run) := by
  rcases here with rfl | rfl <;> rfl

theorem rleOrder_colours (reader : RleReader)
    (here : code = coloursForm.shortCode ∨ code = coloursForm.mega) :
    rleOrder reader code = (do
      let (run, reader) ← rleTakeRun reader.cleared code
      rleImagePixels run reader) := by
  rcases here with rfl | rfl <;> rfl

theorem rleOrder_background (reader : RleReader)
    (here : code = backgroundForm.shortCode ∨ code = backgroundForm.mega) :
    rleOrder reader code = rleBackgroundOrder reader code := by
  rcases here with rfl | rfl <;> rfl

def plainCodes : List UInt8 := [0xf9, 0xfa, 0xfd, 0xfe]

theorem rleOrder_unknown (reader : RleReader)
    (unlisted : ∀ form ∈ runForms, ¬ (code = form.shortCode ∨ code = form.mega))
    (plain : code ∉ plainCodes) : rleOrder reader code = refuse .protocolError := by
  have codes : ∀ group ∈ [[rleBgRun, rleMegaBgRun], [rleFgRun, rleMegaFgRun, rleSetFgFgRun, rleMegaSetFgRun],
      [rleDitheredRun, rleMegaDitheredRun], [rleColorRun, rleMegaColorRun],
      [rleFgbgImage, rleMegaFgbgImage, rleSetFgFgbgImage, rleMegaSetFgFgbgImage],
      [rleColorImage, rleMegaColorImage], [rleSpecialFgbg1, rleSpecialFgbg2],
      [rleSpecialWhite, rleSpecialBlack]], ∀ c ∈ group,
      c ∈ plainCodes ∨ ∃ form ∈ runForms, c = form.shortCode ∨ c = form.mega := by
    decide +kernel
  have other : ∀ group ∈ _, code ∉ group := fun group listed held =>
    (codes group listed code held).elim plain fun ⟨form, formed, same⟩ => unlisted form formed same
  simp only [List.forall_mem_cons] at other
  obtain ⟨h1, h2, h3, h4, h5, h6, h7, h8, -⟩ := other
  rw [rleOrder, if_neg h1, rleForegroundOrder, if_neg h2, if_neg h3, if_neg h4, if_neg h5, if_neg h6,
    if_neg h7, if_neg h8]

theorem BitmapOrder.strokes_length {order : BitmapOrder} (some : 0 < order.pixelCount)
    (foreground : Nat) (insert : Bool) :
    (order.strokes foreground insert).length = order.pixelCount := by
  cases order with
  | background run =>
    have positive : 0 < run := some
    cases insert with
    | true =>
      show (List.replicate (run - 1) id).length + 1 = run
      rw [List.length_replicate]
      omega
    | false => exact List.length_replicate
  | foreground colour run => exact List.length_replicate
  | dithered first second run =>
    simp [strokes, pixelCount, Nat.mul_comm]
  | colourRun colour run => exact List.length_replicate
  | image colour bits => exact List.length_map _
  | colours pixels => exact List.length_map _

theorem backgroundOrder_ok (here : reader.current = header :: tail)
    (code : rleCode header = backgroundForm.shortCode ∨ rleCode header = backgroundForm.mega) :
    rleOrder reader (rleCode header) = .ok reader' ↔
      ∃ run, reader.Takes reader' (.background run) := by
  rw [rleOrder_background reader code, rleBackgroundOrder, bind_eq_ok]
  have count {run : Nat} (some : 0 < run) : ((BitmapOrder.background run).strokes reader.foreground
      reader.insertForeground).length = run :=
    @BitmapOrder.strokes_length (.background run) some _ _
  constructor
  · rintro ⟨⟨run, next⟩, taken, written⟩
    obtain ⟨head, rest, split, spelled, rfl⟩ := (rleTakeRun_ok (by decide) here code).mp taken
    have some := spelled.positive (by decide)
    obtain ⟨last, wrote, done⟩ := bind_eq_ok.mp written
    cases done
    rw [rleBackgroundPixels_strokes _ some] at wrote
    obtain ⟨fits, rfl⟩ := writeStrokes_ok.mp wrote
    exact ⟨run, head, rest, split, .background spelled, (count some).symm.trans_le fits, rfl⟩
  · rintro ⟨run, head, rest, split, spelled, fits, rfl⟩
    cases spelled with
    | background length =>
      have some := length.positive (by decide)
      refine ⟨(run, { reader with current := rest }), (rleTakeRun_ok (by decide) here code).mpr
        ⟨head, rest, split, length, rfl⟩, bind_eq_ok.mpr
        ⟨_, (rleBackgroundPixels_strokes _ some).trans (writeStrokes_ok.mpr ⟨?_, rfl⟩), rfl⟩⟩
      exact (count some).trans_le fits

section Coded

variable (depth : reader.bitsPerPixel ∈ codedDepths) (here : reader.current = header :: tail)
include depth here

theorem foregroundOrder_ok (code : rleCode header = (foregroundForm sets).shortCode ∨
      rleCode header = (foregroundForm sets).mega) :
    rleOrder reader (rleCode header) = .ok reader' ↔
      ∃ colour run, colour.isSome = sets ∧ reader.Takes reader' (.foreground colour run) := by
  have taking {run : Nat} {next : RleReader} := @rleTakeRun_ok _ (foregroundForm_listed sets)
    reader.cleared next header tail here code run
  rw [rleOrder_foreground reader code, bind_eq_ok]
  constructor
  · rintro ⟨⟨run, next⟩, taken, written⟩
    obtain ⟨head, rest, split, spelled, rfl⟩ := taking.mp taken
    obtain ⟨last, read, wrote⟩ := bind_eq_ok.mp written
    obtain ⟨colour, rest', rfl, more, narrow, rfl⟩ :=
      (rleReadForeground_ok (by exact depth)).mp read
    obtain ⟨fits, rfl⟩ := writeStrokes_ok.mp ((rleWriteForeground_strokes _ _).symm.trans wrote)
    rw [List.length_replicate] at fits
    refine ⟨colour, run, rfl, head ++ settingBytes _ colour, rest', ?_,
      .foreground spelled narrow, fits, ?_⟩
    · rw [List.append_assoc]
      exact split.trans (congrArg (head ++ ·) more)
    · cases colour <;> rfl
  · rintro ⟨colour, run, rfl, bytes, rest, split, spelled, fits, rfl⟩
    cases spelled with
    | @foreground _ _ head length narrow =>
      rw [List.append_assoc] at split
      refine ⟨(run, _), taking.mpr ⟨head, _, split, length, rfl⟩, bind_eq_ok.mpr ⟨_,
        (rleReadForeground_ok (by exact depth)).mpr ⟨colour, rest, rfl, rfl, narrow, rfl⟩, ?_⟩⟩
      refine (rleWriteForeground_strokes _ _).trans
        (writeStrokes_ok.mpr ⟨by rw [List.length_replicate]; exact fits, ?_⟩)
      cases colour <;> rfl

theorem imageOrder_ok
    (code : rleCode header = (imageForm sets).shortCode ∨ rleCode header = (imageForm sets).mega) :
    rleOrder reader (rleCode header) = .ok reader' ↔
      ∃ colour run head rest masks, colour.isSome = sets ∧ (imageForm sets).Spells run head ∧
        (∀ c ∈ colour, InDepth reader.bitsPerPixel c) ∧ masks.length = (run + 7) / 8 ∧
        reader.current = head ++ (settingBytes reader.bitsPerPixel colour ++ (masks ++ rest)) ∧
        run ≤ reader.room ∧
        reader' = reader.afterOrder (.image colour ((lsbBits masks).take run)) rest := by
  have taking {run : Nat} {next : RleReader} := @rleTakeRun_ok _ (imageForm_listed sets)
    reader.cleared next header tail here code run
  rw [rleOrder_image reader code, bind_eq_ok]
  constructor
  · rintro ⟨⟨run, next⟩, taken, written⟩
    obtain ⟨head, rest, split, spelled, rfl⟩ := taking.mp taken
    obtain ⟨last, read, wrote⟩ := bind_eq_ok.mp written
    obtain ⟨colour, rest', rfl, more, narrow, rfl⟩ :=
      (rleReadForeground_ok (by exact depth)).mp read
    obtain ⟨masks, last, rfl, enough, fits, rfl⟩ := rleImageMasks_ok.mp wrote
    refine ⟨colour, run, head, last, masks, rfl, spelled, narrow, enough,
      split.trans (congrArg (head ++ ·) more), fits, ?_⟩
    cases colour <;> rfl
  · rintro ⟨colour, run, head, rest, masks, rfl, length, narrow, enough, split, fits, rfl⟩
    refine ⟨(run, _), taking.mpr ⟨head, _, split, length, rfl⟩, bind_eq_ok.mpr ⟨_,
      (rleReadForeground_ok (by exact depth)).mpr ⟨colour, _, rfl, rfl, narrow, rfl⟩, ?_⟩⟩
    refine rleImageMasks_ok.mpr ⟨masks, rest, rfl, enough, fits, ?_⟩
    cases colour <;> rfl

theorem ditheredOrder_ok
    (code : rleCode header = ditheredForm.shortCode ∨ rleCode header = ditheredForm.mega) :
    rleOrder reader (rleCode header) = .ok reader' ↔
      ∃ first second run, reader.Takes reader' (.dithered first second run) := by
  have taking {run : Nat} {next : RleReader} := @rleTakeRun_ok ditheredForm (by decide)
    reader.cleared next header tail here code run
  have count {run first second : Nat} (some : 0 < run) :
      (List.replicate run [fun _ : Nat => first, fun _ => second]).flatten.length = 2 * run :=
    @BitmapOrder.strokes_length (.dithered first second run) (Nat.mul_pos (by decide) some) 0 false
  rw [rleOrder_dithered reader code, bind_eq_ok]
  constructor
  · rintro ⟨⟨run, next⟩, taken, written⟩
    obtain ⟨head, rest, split, spelled, rfl⟩ := taking.mp taken
    obtain ⟨⟨first, next⟩, read, written⟩ := bind_eq_ok.mp written
    obtain ⟨rest', more, narrow, rfl⟩ := (rleReadPixel_ok (by exact depth)).mp read
    obtain ⟨⟨second, next⟩, read, wrote⟩ := bind_eq_ok.mp written
    obtain ⟨rest'', more', narrow', rfl⟩ := (rleReadPixel_ok (by exact depth)).mp read
    obtain ⟨fits, rfl⟩ := writeStrokes_ok.mp ((rleWriteDithered_strokes _ _ _ _).symm.trans wrote)
    rw [count (spelled.positive (by decide))] at fits
    refine ⟨first, second, run, _, rest'', ?_, .dithered spelled ⟨narrow, narrow'⟩, fits, rfl⟩
    rw [List.append_assoc, List.append_assoc]
    exact split.trans (congrArg (head ++ ·) (more.trans (congrArg (_ ++ ·) more')))
  · rintro ⟨first, second, run, bytes, rest, split, spelled, fits, rfl⟩
    cases spelled with
    | @dithered _ _ _ head length narrow =>
      rw [List.append_assoc, List.append_assoc] at split
      refine ⟨(run, _), taking.mpr ⟨head, _, split, length, rfl⟩, bind_eq_ok.mpr
        ⟨(first, _), (rleReadPixel_ok (by exact depth)).mpr ⟨_, rfl, narrow.1, rfl⟩,
        bind_eq_ok.mpr ⟨(second, _),
        (rleReadPixel_ok (by exact depth)).mpr ⟨rest, rfl, narrow.2, rfl⟩, ?_⟩⟩⟩
      refine (rleWriteDithered_strokes _ _ _ _).trans (writeStrokes_ok.mpr ⟨?_, rfl⟩)
      rw [count (length.positive (by decide))]
      exact fits

theorem colourRunOrder_ok
    (code : rleCode header = colourRunForm.shortCode ∨ rleCode header = colourRunForm.mega) :
    rleOrder reader (rleCode header) = .ok reader' ↔
      ∃ colour run, reader.Takes reader' (.colourRun colour run) := by
  have taking {run : Nat} {next : RleReader} := @rleTakeRun_ok colourRunForm (by decide)
    reader.cleared next header tail here code run
  rw [rleOrder_colourRun reader code, bind_eq_ok]
  constructor
  · rintro ⟨⟨run, next⟩, taken, written⟩
    obtain ⟨head, rest, split, spelled, rfl⟩ := taking.mp taken
    obtain ⟨⟨colour, next⟩, read, wrote⟩ := bind_eq_ok.mp written
    obtain ⟨rest', more, narrow, rfl⟩ := (rleReadPixel_ok (by exact depth)).mp read
    obtain ⟨fits, rfl⟩ := writeStrokes_ok.mp ((rleRepeat_strokes _ _ _).symm.trans wrote)
    rw [List.length_replicate] at fits
    refine ⟨colour, run, _, rest', ?_, .colourRun spelled narrow, fits, rfl⟩
    rw [List.append_assoc]
    exact split.trans (congrArg (head ++ ·) more)
  · rintro ⟨colour, run, bytes, rest, split, spelled, fits, rfl⟩
    cases spelled with
    | @colourRun _ _ head length narrow =>
      rw [List.append_assoc] at split
      refine ⟨(run, _), taking.mpr ⟨head, _, split, length, rfl⟩, bind_eq_ok.mpr
        ⟨(colour, _), (rleReadPixel_ok (by exact depth)).mpr ⟨rest, rfl, narrow, rfl⟩, ?_⟩⟩
      exact (rleRepeat_strokes _ _ _).trans
        (writeStrokes_ok.mpr ⟨by rw [List.length_replicate]; exact fits, rfl⟩)

theorem coloursOrder_ok
    (code : rleCode header = coloursForm.shortCode ∨ rleCode header = coloursForm.mega) :
    rleOrder reader (rleCode header) = .ok reader' ↔
      ∃ pixels head rest, coloursForm.Spells pixels.length head ∧
        (∀ pixel ∈ pixels, InDepth reader.bitsPerPixel pixel) ∧
        reader.current = head ++ (pixels.flatMap (colourBytes reader.bitsPerPixel) ++ rest) ∧
        pixels.length ≤ reader.room ∧ reader' = reader.afterOrder (.colours pixels) rest := by
  have taking {run : Nat} {next : RleReader} := @rleTakeRun_ok coloursForm (by decide)
    reader.cleared next header tail here code run
  rw [rleOrder_colours reader code, bind_eq_ok]
  constructor
  · rintro ⟨⟨run, next⟩, taken, wrote⟩
    obtain ⟨head, rest, split, spelled, rfl⟩ := taking.mp taken
    obtain ⟨pixels, rest', rfl, more, narrow, fits, rfl⟩ :=
      (rleImagePixels_ok (by exact depth)).mp wrote
    exact ⟨pixels, head, rest', spelled, narrow, split.trans (congrArg (head ++ ·) more), fits, rfl⟩
  · rintro ⟨pixels, head, rest, length, narrow, split, fits, rfl⟩
    exact ⟨(pixels.length, _), taking.mpr ⟨head, _, split, length, rfl⟩,
      (rleImagePixels_ok (by exact depth)).mpr ⟨pixels, rest, rfl, rfl, narrow, fits, rfl⟩⟩

end Coded

def plainOrder (bitsPerPixel : UInt16) (code : UInt8) : BitmapOrder :=
  if code = 0xf9 then .image none (lsb 8 0x03)
  else if code = 0xfa then .image none (lsb 8 0x05)
  else if code = 0xfd then .colours [rleWhite bitsPerPixel]
  else .colours [0]

theorem rleOrder_plain (plain : code ∈ plainCodes) (reader : RleReader) :
    rleOrder reader code = writeStrokes
      ((plainOrder reader.bitsPerPixel code).strokes reader.foreground false)
      { reader.cleared with current := reader.current.drop 1 } := by
  simp only [plainCodes, List.mem_cons, List.not_mem_nil, or_false] at plain
  rcases plain with rfl | rfl | rfl | rfl
  · exact rleWriteFgbg_strokes _ 0x03 (Nat.le_refl 8)
  · exact rleWriteFgbg_strokes _ 0x05 (Nat.le_refl 8)
  · exact rleWritePixel_stroke _ _
  · exact rleWritePixel_stroke _ _

theorem plainOrder_spells {bitsPerPixel : UInt16} (plain : code ∈ plainCodes) :
    (plainOrder bitsPerPixel code).Spells bitsPerPixel [code] ∧
      0 < (plainOrder bitsPerPixel code).pixelCount := by
  simp only [plainCodes, List.mem_cons, List.not_mem_nil, or_false] at plain
  rcases plain with rfl | rfl | rfl | rfl
  · exact ⟨.pattern1, Nat.succ_pos 7⟩
  · exact ⟨.pattern2, Nat.succ_pos 7⟩
  · exact ⟨.white, Nat.one_pos⟩
  · exact ⟨.black, Nat.one_pos⟩

theorem plainCodes_headers : ∀ n < 256,
    (rleCode (UInt8.ofNat n) ∈ plainCodes ↔ UInt8.ofNat n ∈ plainCodes) ∧
    (UInt8.ofNat n ∈ plainCodes → rleCode (UInt8.ofNat n) = UInt8.ofNat n) := by
  decide +kernel

theorem plainOrder_after (plain : code ∈ plainCodes) (reader : RleReader)
    (rest : Bytes) :
    reader.afterOrder (plainOrder reader.bitsPerPixel code) rest =
      reader.cleared.after rest
        ((plainOrder reader.bitsPerPixel code).strokes reader.foreground false) := by
  simp only [plainCodes, List.mem_cons, List.not_mem_nil, or_false] at plain
  rcases plain with rfl | rfl | rfl | rfl <;> rfl

theorem plainOrder_ok (here : reader.current = header :: tail) (plain : header ∈ plainCodes) :
    rleOrder reader (rleCode header) = .ok reader' ↔
      (plainOrder reader.bitsPerPixel header).pixelCount ≤ reader.room ∧
        reader' = reader.afterOrder (plainOrder reader.bitsPerPixel header) tail := by
  have code := (plainCodes_headers header.toNat header.toNat_lt).2
  rw [UInt8.ofNat_toNat] at code
  have some := (@plainOrder_spells header reader.bitsPerPixel plain).2
  rw [code plain, rleOrder_plain plain, writeStrokes_ok, BitmapOrder.strokes_length some,
    plainOrder_after plain, here]
  rfl

variable {order : BitmapOrder}

theorem BitmapOrder.Spells.positive {bitsPerPixel : UInt16} {bytes : Bytes}
    (spelled : order.Spells bitsPerPixel bytes) : 0 < order.pixelCount ∧ 0 < bytes.length := by
  have filled {form : RunForm} {run : Nat} {head : Bytes} (listed : form ∈ runForms)
      (length : form.Spells run head) (more : Bytes) : 0 < (head ++ more).length := by
    obtain ⟨header, tail, rfl, -⟩ := length.code listed
    exact Nat.succ_pos _
  cases spelled with
  | background length =>
    have := filled (by decide) length []
    rw [List.append_nil] at this
    exact ⟨length.positive (by decide), this⟩
  | foreground length _ =>
    exact ⟨length.positive (foregroundForm_listed _), filled (foregroundForm_listed _) length _⟩
  | dithered length _ =>
    exact ⟨Nat.mul_pos (by decide) (length.positive (by decide)), filled (by decide) length _⟩
  | colourRun length _ => exact ⟨length.positive (by decide), filled (by decide) length _⟩
  | image length _ enough =>
    have some := length.positive (imageForm_listed _)
    refine ⟨?_, filled (imageForm_listed _) length _⟩
    rw [pixelCount, List.length_take, lsbBits_length]
    omega
  | colours length _ => exact ⟨length.positive (by decide), filled (by decide) length _⟩
  | pattern1 => exact ⟨Nat.succ_pos 7, Nat.one_pos⟩
  | pattern2 => exact ⟨Nat.succ_pos 7, Nat.one_pos⟩
  | white => exact ⟨Nat.one_pos, Nat.one_pos⟩
  | black => exact ⟨Nat.one_pos, Nat.one_pos⟩

theorem imageOrder_takes (depth : reader.bitsPerPixel ∈ codedDepths)
    (here : reader.current = header :: tail)
    (code : rleCode header = (imageForm sets).shortCode ∨ rleCode header = (imageForm sets).mega)
    (ran : rleOrder reader (rleCode header) = .ok reader') :
    ∃ order, reader.Takes reader' order := by
  obtain ⟨colour, run, head, rest, masks, rfl, length, narrow, enough, split, fits, rfl⟩ :=
    (imageOrder_ok depth here code).mp ran
  refine ⟨_, _, rest, ?_, .image length narrow enough, ?_, rfl⟩
  · rw [split, List.append_assoc, List.append_assoc]
  · exact (List.length_take_le _ _).trans fits

theorem rleOrder_takes (depth : reader.bitsPerPixel ∈ codedDepths)
    (here : reader.current = header :: tail) (ran : rleOrder reader (rleCode header) = .ok reader') :
    ∃ order, reader.Takes reader' order := by
  by_cases formed : ∃ form ∈ runForms, rleCode header = form.shortCode ∨ rleCode header = form.mega
  · obtain ⟨form, listed, code⟩ := formed
    simp only [runForms, List.mem_cons, List.not_mem_nil, or_false] at listed
    rcases listed with rfl | rfl | rfl | rfl | rfl | rfl | rfl | rfl
    · obtain ⟨run, takes⟩ := (backgroundOrder_ok here code).mp ran
      exact ⟨_, takes⟩
    · obtain ⟨colour, run, -, takes⟩ := (foregroundOrder_ok depth here code).mp ran
      exact ⟨_, takes⟩
    · obtain ⟨colour, run, -, takes⟩ := (foregroundOrder_ok depth here code).mp ran
      exact ⟨_, takes⟩
    · exact imageOrder_takes depth here code ran
    · exact imageOrder_takes depth here code ran
    · obtain ⟨colour, run, takes⟩ := (colourRunOrder_ok depth here code).mp ran
      exact ⟨_, takes⟩
    · obtain ⟨pixels, head, rest, length, narrow, split, fits, rfl⟩ :=
        (coloursOrder_ok depth here code).mp ran
      exact ⟨_, _, rest, by rw [split, List.append_assoc], .colours length narrow, fits, rfl⟩
    · obtain ⟨first, second, run, takes⟩ := (ditheredOrder_ok depth here code).mp ran
      exact ⟨_, takes⟩
  by_cases plain : rleCode header ∈ plainCodes
  · have same := (plainCodes_headers header.toNat header.toNat_lt).1
    rw [UInt8.ofNat_toNat] at same
    obtain ⟨fits, rfl⟩ := (plainOrder_ok here (same.mp plain)).mp ran
    exact ⟨_, [header], tail, here, (plainOrder_spells (same.mp plain)).1, fits, rfl⟩
  · rw [rleOrder_unknown reader (fun form listed same => formed ⟨form, listed, same⟩) plain] at ran
    cases ran

theorem RunForm.Spells.code_here {form : RunForm} (listed : form ∈ runForms) {run : Nat}
    {head more : Bytes} (length : form.Spells run head) (here : reader.current = header :: tail)
    (split : reader.current = head ++ more) :
    rleCode header = form.shortCode ∨ rleCode header = form.mega := by
  obtain ⟨first, tail', rfl, code⟩ := length.code listed
  rw [here] at split
  obtain ⟨rfl, -⟩ := List.cons.inj split
  exact code

theorem rleOrder_of_takes (depth : reader.bitsPerPixel ∈ codedDepths)
    (here : reader.current = header :: tail) (takes : reader.Takes reader' order) :
    rleOrder reader (rleCode header) = .ok reader' := by
  obtain ⟨bytes, rest, split, spelled, fits, rfl⟩ := id takes
  have plain {code : UInt8} (spelledPlain : reader.current = [code] ++ rest) (listed : code ∈ plainCodes)
      (fits : (plainOrder reader.bitsPerPixel code).pixelCount ≤ reader.room) :
      rleOrder reader (rleCode header) =
        .ok (reader.afterOrder (plainOrder reader.bitsPerPixel code) rest) := by
    obtain ⟨rfl, rfl⟩ := List.cons.inj (here.symm.trans spelledPlain)
    exact (plainOrder_ok here listed).mpr ⟨fits, rfl⟩
  cases spelled with
  | background length =>
    exact (backgroundOrder_ok here (length.code_here (by decide) here split)).mpr ⟨_, takes⟩
  | foreground length _ =>
    rw [List.append_assoc] at split
    exact (foregroundOrder_ok depth here
      (length.code_here (foregroundForm_listed _) here split)).mpr ⟨_, _, rfl, takes⟩
  | dithered length _ =>
    rw [List.append_assoc] at split
    exact (ditheredOrder_ok depth here (length.code_here (by decide) here split)).mpr
      ⟨_, _, _, takes⟩
  | colourRun length _ =>
    rw [List.append_assoc] at split
    exact (colourRunOrder_ok depth here (length.code_here (by decide) here split)).mpr
      ⟨_, _, takes⟩
  | @image colour run head masks length narrow enough =>
    rw [List.append_assoc, List.append_assoc] at split
    refine (imageOrder_ok depth here (length.code_here (imageForm_listed _) here split)).mpr
      ⟨colour, run, head, rest, masks, rfl, length, narrow, enough, split, ?_, rfl⟩
    rw [BitmapOrder.pixelCount, List.length_take, lsbBits_length] at fits
    omega
  | @colours pixels head length narrow =>
    rw [List.append_assoc] at split
    exact (coloursOrder_ok depth here (length.code_here (by decide) here split)).mpr
      ⟨pixels, head, rest, length, narrow, split, fits, rfl⟩
  | pattern1 => exact plain split (by decide) fits
  | pattern2 => exact plain split (by decide) fits
  | white => exact plain split (by decide) fits
  | black => exact plain split (by decide) fits

end Orders

end LibRdp.Graphics
