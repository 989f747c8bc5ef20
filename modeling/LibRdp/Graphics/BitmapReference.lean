import LibRdp.Coding.Bits
import LibRdp.Coding.Scanlines
import LibRdp.Graphics.BitmapRows

/-! # The interleaved run-length codes as a reference decoder has them

Here an order is a value: what it draws, and the foreground colour it brings
along. How orders are spelled in bytes is a relation. The reference decoder draws
them one after the other; at the start of an order it looks once whether the
first scan line is over.
-/

namespace LibRdp.Graphics

open Coding

inductive BitmapOrder where
  | background (run : Nat)
  | foreground (colour : Option Nat) (run : Nat)
  | dithered (first second run : Nat)
  | colourRun (colour run : Nat)
  | image (colour : Option Nat) (bits : List Bool)
  | colours (pixels : List Nat)
  deriving Repr, DecidableEq

namespace BitmapOrder

def pixelCount : BitmapOrder → Nat
  | background run => run
  | foreground _ run => run
  | dithered _ _ run => 2 * run
  | colourRun _ run => run
  | image _ bits => bits.length
  | colours pixels => pixels.length

def foregroundFrom (old : Nat) : BitmapOrder → Nat
  | foreground (some colour) _ => colour
  | image (some colour) _ => colour
  | _ => old

def isBackground : BitmapOrder → Bool
  | background _ => true
  | _ => false

/-- The strokes of an order, by the foreground in force. A background run starts with a
    foreground pixel where one is to be inserted. -/
def strokes (foregroundPixel : Nat) (insertForeground : Bool) : BitmapOrder → List (Nat → Nat)
  | background run =>
      if insertForeground then (· ^^^ foregroundPixel) :: List.replicate (run - 1) id
      else List.replicate run id
  | foreground _ run => List.replicate run (· ^^^ foregroundPixel)
  | dithered first second run =>
      (List.replicate run [fun _ => first, fun _ => second]).flatten
  | colourRun colour run => List.replicate run (fun _ => colour)
  | image _ bits => bits.map (fun bit => if bit then (· ^^^ foregroundPixel) else id)
  | colours pixels => pixels.map (fun pixel _ => pixel)

end BitmapOrder

def pixelCount (orders : List BitmapOrder) : Nat := (orders.map BitmapOrder.pixelCount).sum

/-- How the length of an order is written: in the low bits of the header, in the byte after a
    header without one, or in two bytes after the header of the long form. -/
structure RunForm where
  code : Nat
  lowBits : Nat
  unit : Nat
  extra : Nat
  mega : UInt8
  deriving Repr, DecidableEq

def backgroundForm : RunForm := ⟨0x00, 5, 1, 32, 0xf0⟩
def colourRunForm : RunForm := ⟨0x03, 5, 1, 32, 0xf3⟩
def coloursForm : RunForm := ⟨0x04, 5, 1, 32, 0xf4⟩
def ditheredForm : RunForm := ⟨0x0e, 4, 1, 16, 0xf8⟩

/-- The orders that may set the foreground have a form for either case. -/
def foregroundForm (sets : Bool) : RunForm :=
  if sets then ⟨0x0c, 4, 1, 16, 0xf6⟩ else ⟨0x01, 5, 1, 32, 0xf1⟩

def imageForm (sets : Bool) : RunForm :=
  if sets then ⟨0x0d, 4, 8, 1, 0xf7⟩ else ⟨0x02, 5, 8, 1, 0xf2⟩

def RunForm.header (form : RunForm) (low : Nat) : UInt8 :=
  UInt8.ofNat (form.code * 2 ^ form.lowBits + low)

inductive RunForm.Spells (form : RunForm) : Nat → Bytes → Prop where
  | short {low : Nat} (some : 0 < low) (fits : low < 2 ^ form.lowBits) :
      form.Spells (low * form.unit) [form.header low]
  | extended (b : UInt8) : form.Spells (b.toNat + form.extra) [form.header 0, b]
  | mega {b1 b2 : UInt8} (some : 0 < u16Le b1 b2) : form.Spells (u16Le b1 b2) [form.mega, b1, b2]

def InDepth (bitsPerPixel : UInt16) (colour : Nat) : Prop :=
  colour < 2 ^ (8 * rleBytesPerPixel bitsPerPixel)

def colourBytes (bitsPerPixel : UInt16) (colour : Nat) : Bytes :=
  pixelBytes (rleBytesPerPixel bitsPerPixel) colour

def settingBytes (bitsPerPixel : UInt16) (colour : Option Nat) : Bytes :=
  colour.toList.flatMap (colourBytes bitsPerPixel)

/-- The order is written as `bytes`. The bits of an image fill their bytes from the low end. -/
inductive BitmapOrder.Spells (bitsPerPixel : UInt16) : BitmapOrder → Bytes → Prop where
  | background {run : Nat} {head : Bytes} (length : backgroundForm.Spells run head) :
      Spells bitsPerPixel (.background run) head
  | foreground {colour : Option Nat} {run : Nat} {head : Bytes}
      (length : (foregroundForm colour.isSome).Spells run head)
      (inDepth : ∀ c ∈ colour, InDepth bitsPerPixel c) :
      Spells bitsPerPixel (.foreground colour run) (head ++ settingBytes bitsPerPixel colour)
  | dithered {first second run : Nat} {head : Bytes} (length : ditheredForm.Spells run head)
      (inDepth : InDepth bitsPerPixel first ∧ InDepth bitsPerPixel second) :
      Spells bitsPerPixel (.dithered first second run)
        (head ++ (colourBytes bitsPerPixel first ++ colourBytes bitsPerPixel second))
  | colourRun {colour run : Nat} {head : Bytes} (length : colourRunForm.Spells run head)
      (inDepth : InDepth bitsPerPixel colour) :
      Spells bitsPerPixel (.colourRun colour run) (head ++ colourBytes bitsPerPixel colour)
  | image {colour : Option Nat} {run : Nat} {head masks : Bytes}
      (length : (imageForm colour.isSome).Spells run head)
      (inDepth : ∀ c ∈ colour, InDepth bitsPerPixel c) (enough : masks.length = (run + 7) / 8) :
      Spells bitsPerPixel (.image colour ((lsbBits masks).take run))
        (head ++ (settingBytes bitsPerPixel colour ++ masks))
  | colours {pixels : List Nat} {head : Bytes} (length : coloursForm.Spells pixels.length head)
      (inDepth : ∀ pixel ∈ pixels, InDepth bitsPerPixel pixel) :
      Spells bitsPerPixel (.colours pixels) (head ++ pixels.flatMap (colourBytes bitsPerPixel))
  | pattern1 : Spells bitsPerPixel (.image none (lsb 8 0x03)) [0xf9]
  | pattern2 : Spells bitsPerPixel (.image none (lsb 8 0x05)) [0xfa]
  | white : Spells bitsPerPixel (.colours [rleWhite bitsPerPixel]) [0xfd]
  | black : Spells bitsPerPixel (.colours [0]) [0xfe]

inductive SpellsOrders (bitsPerPixel : UInt16) : List BitmapOrder → Bytes → Prop where
  | nil : SpellsOrders bitsPerPixel [] []
  | cons {order : BitmapOrder} {orders : List BitmapOrder} {bytes rest : Bytes}
      (first : order.Spells bitsPerPixel bytes) (later : SpellsOrders bitsPerPixel orders rest) :
      SpellsOrders bitsPerPixel (order :: orders) (bytes ++ rest)

structure Reference where
  pixels : List Nat
  foreground : Nat
  insertForeground : Bool
  firstLine : Bool
  deriving Repr, DecidableEq

/-- Once the first scan line is over, for the first time, nothing is to be inserted. -/
def Reference.lookForLineEnd (width : Nat) (reference : Reference) : Reference :=
  if reference.firstLine ∧ width ≤ reference.pixels.length then
    { reference with firstLine := false, insertForeground := false }
  else reference

def Reference.drawOrder (width : Nat) (start : Reference) (order : BitmapOrder) : Reference :=
  let reference := start.lookForLineEnd width
  let foreground := order.foregroundFrom reference.foreground
  let strokes := order.strokes foreground reference.insertForeground
  { pixels :=
      if reference.firstLine then drawBlank reference.pixels strokes
      else draw width reference.pixels strokes
    foreground := foreground
    insertForeground := order.isBackground
    firstLine := reference.firstLine }

def referencePixels (width white : Nat) (orders : List BitmapOrder) : List Nat :=
  (orders.foldl (Reference.drawOrder width) ⟨[], white, false, true⟩).pixels

/-- Some order begins within the first scan line and ends behind it. -/
def Straddles (width : Nat) (orders : List BitmapOrder) : Prop :=
  ∃ before order after, orders = before ++ order :: after ∧ pixelCount before < width ∧
    width < pixelCount (before ++ [order])

def foregroundAfter (white : Nat) (orders : List BitmapOrder) : Nat :=
  orders.foldl BitmapOrder.foregroundFrom white

/-- A background run that ends with the first scan line is followed by another, and the
    foreground is not black. -/
def RunsMeetAtLineEnd (width white : Nat) (orders : List BitmapOrder) : Prop :=
  ∃ before run next after, orders = before ++ .background run :: .background next :: after ∧
    pixelCount (before ++ [.background run]) = width ∧ foregroundAfter white before ≠ 0

end LibRdp.Graphics
