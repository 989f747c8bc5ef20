import Mathlib.Data.List.Basic
import Mathlib.Data.List.GetD
import LibRdp.Graphics.Planar

/-! # Planes in runs and their differences

A row is sent as segments, each of some bytes and a run of the last one. The rows from the second
one on are sent as differences to the row above, as signed bytes. What the decoder makes of that
is the plane again as long as no byte differs from the one above it by more than a signed byte
says: the decoder adds the difference up and cuts the sum off.
-/

namespace LibRdp.Graphics

def planarDeltaByte (above byte : UInt8) : UInt8 :=
  let d := int8 (byte - above)
  if 0 ≤ d then UInt8.ofNat (2 * d).toNat else UInt8.ofNat (-2 * d - 1).toNat

/-- A row as it is sent below `previous`. -/
def planarCoded (previous : Option Bytes) (row : Bytes) : Bytes :=
  match previous with
  | none => row
  | some above => List.zipWith planarDeltaByte above row

def planarCodedRows (previous : Option Bytes) : List Bytes → List Bytes
  | [] => []
  | row :: rows => planarCoded previous row :: planarCodedRows (some row) rows

structure PlanarSegment where
  raw : Bytes
  run : Nat
  form : raw.length ≤ 15 ∧ (run = 0 ∧ raw ≠ [] ∨ 3 ≤ run ∧ run ≤ 15) ∨
    raw = [] ∧ 16 ≤ run ∧ run ≤ 47

namespace PlanarSegment

def control (segment : PlanarSegment) : UInt8 :=
  if segment.run < 16 then UInt8.ofNat (16 * segment.raw.length + segment.run)
  else if segment.run < 32 then UInt8.ofNat (16 * (segment.run - 16) + 1)
  else UInt8.ofNat (16 * (segment.run - 32) + 2)

def bytes (segment : PlanarSegment) : Bytes := segment.control :: segment.raw

/-- The last byte behind a segment, `before` it if it has none of its own. -/
def last (before : UInt8) (segment : PlanarSegment) : UInt8 := segment.raw.getLastD before

def values (before : UInt8) (segment : PlanarSegment) : Bytes :=
  segment.raw ++ List.replicate segment.run (segment.last before)

end PlanarSegment

def planarRowValues (before : UInt8) : List PlanarSegment → Bytes
  | [] => []
  | segment :: segments =>
      segment.values before ++ planarRowValues (segment.last before) segments

structure PlanarCut (width height : Nat) where
  rows : List Bytes
  cuts : List (List PlanarSegment)
  many : rows.length = height
  wide : ∀ row ∈ rows, row.length = width
  cut : cuts.map (planarRowValues 0) = planarCodedRows none rows

namespace PlanarCut

variable {width height : Nat}

def plane (plane : PlanarCut width height) : Bytes := plane.rows.flatten

def encoding (plane : PlanarCut width height) : Bytes :=
  plane.cuts.flatten.flatMap PlanarSegment.bytes

end PlanarCut

def PlanarSegment.single (byte : UInt8) : PlanarSegment where
  raw := [byte]
  run := 0
  form := .inl ⟨Nat.le_add_left 1 14, .inl ⟨rfl, nofun⟩⟩

theorem planarRowValues_single (before : UInt8) (row : Bytes) :
    planarRowValues before (row.map PlanarSegment.single) = row := by
  induction row generalizing before with
  | nil => rfl
  | cons byte row ih =>
    rw [List.map_cons, planarRowValues, ih]
    rfl

def PlanarCut.ofRows {width height : Nat} (rows : List Bytes) (many : rows.length = height)
    (wide : ∀ row ∈ rows, row.length = width) : PlanarCut width height where
  rows := rows
  cuts := (planarCodedRows none rows).map fun row => row.map PlanarSegment.single
  many := many
  wide := wide
  cut := by
    rw [List.map_map]
    exact List.map_id'' (planarRowValues_single 0) _

theorem planarCounts_raws : ∀ raw < 16, ∀ run < 16, run ≠ 1 → run ≠ 2 →
    planarCounts (UInt8.ofNat (16 * raw + run)) = (raw, run) := by
  decide

theorem planarCounts_run : ∀ run < 16,
    planarCounts (UInt8.ofNat (16 * run + 1)) = (0, run + 16) ∧
    planarCounts (UInt8.ofNat (16 * run + 2)) = (0, run + 32) := by
  decide

theorem PlanarSegment.counts (segment : PlanarSegment) :
    planarCounts segment.control = (segment.raw.length, segment.run) := by
  obtain ⟨raw, run, form⟩ := segment
  rw [control]
  obtain ⟨few, short⟩ | ⟨rfl, long, most⟩ := form
  · rw [if_pos (by dsimp only; omega)]
    exact planarCounts_raws raw.length (by omega) run (by omega) (by omega) (by omega)
  · rw [if_neg (by dsimp only; omega)]
    split
    · rename_i short
      dsimp only at short
      obtain ⟨counts, -⟩ := planarCounts_run (run - 16) (by omega)
      rw [counts, Nat.sub_add_cancel long]
      rfl
    rename_i short
    dsimp only at short
    obtain ⟨-, counts⟩ := planarCounts_run (run - 32) (by omega)
    rw [counts, Nat.sub_add_cancel (by omega)]
    rfl

theorem PlanarSegment.nonempty (segment : PlanarSegment) :
    0 < segment.raw.length + segment.run := by
  obtain ⟨raw, run, form⟩ := segment
  obtain ⟨-, ⟨-, filled⟩ | ⟨more, -⟩⟩ | ⟨-, more, -⟩ := form
  · have := List.length_pos_iff.mpr filled
    dsimp only
    omega
  · dsimp only
    omega
  · dsimp only
    omega

theorem PlanarSegment.control_ne_zero (segment : PlanarSegment) : segment.control ≠ 0 := by
  intro none
  have counts := segment.counts
  have filled := segment.nonempty
  rw [none] at counts
  obtain ⟨raws, runs⟩ := Prod.mk.inj (show (0, 0) = _ from counts)
  omega

/-- The row that bytes stand for below `previous`. -/
def planarCells (previous : Option Bytes) (coded : Bytes) : Bytes :=
  coded.mapIdx fun x byte => planarCell previous x (planarValue previous byte)

variable {previous : Option Bytes}

@[simp] theorem planarCells_length (coded : Bytes) :
    (planarCells previous coded).length = coded.length := List.length_mapIdx

theorem planarCells_snoc (coded : Bytes) (byte : UInt8) :
    planarCells previous (coded ++ [byte]) = planarCells previous coded ++
      [planarCell previous (planarCells previous coded).length (planarValue previous byte)] := by
  rw [planarCells_length]
  exact List.mapIdx_concat

theorem planarRaws_cells (raws coded : Bytes) (last : UInt8) :
    planarRaws previous raws (planarCells previous coded) (planarValue previous last) =
      (planarCells previous (coded ++ raws), planarValue previous (raws.getLastD last)) := by
  induction raws generalizing coded last with
  | nil => rw [List.append_nil]; rfl
  | cons byte raws ih =>
    rw [planarRaws, ← planarCells_snoc, ih, List.append_assoc, List.getLastD_cons]
    rfl

theorem planarRun_cells (run : Nat) (coded : Bytes) (last : UInt8) :
    planarRun previous (planarValue previous last) run (planarCells previous coded) =
      planarCells previous (coded ++ List.replicate run last) := by
  induction run generalizing coded with
  | zero => rw [List.replicate_zero, List.append_nil]; rfl
  | succ run ih =>
    rw [planarRun, ← planarCells_snoc, ih, List.append_assoc, List.replicate_succ]
    rfl

theorem planarRleRow_segments {width : Nat} {segments : List PlanarSegment} {coded rest : Bytes}
    {last : UInt8} (whole : coded.length + (planarRowValues last segments).length = width) :
    planarRleRow width previous (segments.flatMap PlanarSegment.bytes ++ rest)
      (planarCells previous coded) (planarValue previous last) =
      .ok (planarCells previous (coded ++ planarRowValues last segments), rest) := by
  induction segments generalizing coded last with
  | nil =>
    have done : ¬ (planarCells previous coded).length < width := by
      rw [planarCells_length]
      exact Nat.not_lt.mpr (Nat.le_of_eq whole.symm)
    rw [planarRleRow.eq_def, if_neg done, planarRowValues, List.append_nil]
    rfl
  | cons segment segments ih =>
    have filled := segment.nonempty
    rw [planarRowValues, PlanarSegment.values, PlanarSegment.last, List.length_append,
      List.length_append, List.length_replicate] at whole
    have more : (planarCells previous coded).length < width := by
      rw [planarCells_length]
      omega
    have fits : ¬ (segment.raw.length + segment.run >
          width - (planarCells previous coded).length ∨
        segment.raw.length >
          (segment.raw ++ (segments.flatMap PlanarSegment.bytes ++ rest)).length) := by
      rw [planarCells_length, List.length_append]
      omega
    rw [planarRleRow.eq_def, if_pos more, List.flatMap_cons, PlanarSegment.bytes,
      List.append_assoc, List.cons_append]
    simp only [if_neg segment.control_ne_zero, segment.counts, if_neg fits, List.take_left,
      List.drop_left, planarRaws_cells, planarRun_cells]
    rw [planarRowValues, PlanarSegment.values, PlanarSegment.last, ← List.append_assoc,
      ← List.append_assoc]
    apply ih
    rw [List.length_append, List.length_append, List.length_replicate]
    omega

def planarDecodedRows (previous : Option Bytes) : List Bytes → List Bytes
  | [] => []
  | coded :: later =>
      let row := planarCells previous coded
      row :: planarDecodedRows (some row) later

theorem planarValue_zero : planarValue previous 0 = 0 := by
  cases previous with
  | none => rfl
  | some above => rfl

theorem planarRleRows_cuts {width : Nat} {cuts : List (List PlanarSegment)} {rest output : Bytes}
    (wide : ∀ cut ∈ cuts, (planarRowValues 0 cut).length = width) :
    planarRleRows width cuts.length previous
      (cuts.flatten.flatMap PlanarSegment.bytes ++ rest) output =
      .ok (output ++ (planarDecodedRows previous (cuts.map (planarRowValues 0))).flatten, rest) := by
  induction cuts generalizing previous output with
  | nil =>
    rw [List.map_nil, planarDecodedRows]
    exact congrArg (fun all => Except.ok (all, rest)) (List.append_nil output).symm
  | cons cut cuts ih =>
    rw [List.forall_mem_cons] at wide
    have row := @planarRleRow_segments previous width cut []
      (cuts.flatten.flatMap PlanarSegment.bytes ++ rest) 0 ((Nat.zero_add _).trans wide.1)
    rw [planarValue_zero, List.nil_append] at row
    change planarRleRow width previous _ [] 0 = _ at row
    rw [List.length_cons, planarRleRows, List.flatten_cons, List.flatMap_append,
      List.append_assoc, row, ok_bind]
    simp only [ih wide.2, List.map_cons, planarDecodedRows, List.flatten_cons, List.append_assoc]

theorem planarCodedRows_length (rows : List Bytes) :
    (planarCodedRows previous rows).length = rows.length := by
  induction rows generalizing previous with
  | nil => rfl
  | cons row rows ih => rw [planarCodedRows, List.length_cons, ih, List.length_cons]

variable {width : Nat} {row : Bytes}

theorem planarCoded_length (wide : row.length = width)
    (above : ∀ above ∈ previous, above.length = width) :
    (planarCoded previous row).length = width := by
  cases previous with
  | none => exact wide
  | some previous =>
    rw [planarCoded, List.length_zipWith, above previous rfl, wide, Nat.min_self]

variable {rows : List Bytes} {above : Bytes}

theorem planarCodedRows_wide (wide : ∀ row ∈ rows, row.length = width)
    (above : ∀ above ∈ previous, above.length = width) :
    ∀ coded ∈ planarCodedRows previous rows, coded.length = width := by
  induction rows generalizing previous with
  | nil => exact nofun
  | cons row rows ih =>
    rw [List.forall_mem_cons] at wide
    rw [planarCodedRows, List.forall_mem_cons]
    refine ⟨planarCoded_length wide.1 above, ih wide.2 ?_⟩
    rintro above ⟨⟩
    exact wide.1

/-- A byte that differs from the one above it by no more than a signed byte says. -/
def NearAbove (above byte : UInt8) : Prop :=
  -128 ≤ (byte.toNat : Int) - above.toNat ∧ (byte.toNat : Int) - above.toNat ≤ 127

def SmoothRows (rows : List Bytes) : Prop := rows.IsChain (List.Forall₂ NearAbove)

theorem planarDecodeRleDelta_eq (code : UInt8) :
    planarDecodeRleDelta code =
      if code.toNat % 2 = 1 then -((code.toNat / 2 : Nat) + 1 : Int) else (code.toNat / 2 : Nat) := by
  have half : (code >>> 1).toNat = code.toNat / 2 := by
    rw [UInt8.toNat_shiftRight]
    rfl
  have odd : code &&& 1 ≠ 0 ↔ code.toNat % 2 = 1 := by
    rw [← Nat.and_one_is_mod, ← UInt8.toNat_inj.ne, UInt8.toNat_and]
    have := Nat.and_one_is_mod code.toNat
    change code.toNat &&& 1 ≠ 0 ↔ _
    omega
  simp only [planarDecodeRleDelta, half, odd]

theorem planarDecodeRleDelta_byte (above byte : UInt8) :
    planarDecodeRleDelta (planarDeltaByte above byte) = int8 (byte - above) := by
  have small := (byte - above).toNat_lt
  unfold planarDeltaByte
  have range : -128 ≤ int8 (byte - above) ∧ int8 (byte - above) ≤ 127 := by
    unfold int8
    split <;> omega
  dsimp only
  split
  · rw [planarDecodeRleDelta_eq, UInt8.toNat_ofNat', if_neg (by omega)]
    omega
  · rw [planarDecodeRleDelta_eq, UInt8.toNat_ofNat', if_pos (by omega)]
    omega

theorem planarClip_eq (value : Int) : ((planarClip value).toNat : Int) = max 0 (min value 255) := by
  unfold planarClip
  split
  · rw [UInt8.toNat_zero]
    omega
  split
  · change (255 : Int) = _
    omega
  · rw [UInt8.toNat_ofNat']
    omega

theorem planarClip_toNat (byte : UInt8) : planarClip byte.toNat = byte := by
  have small := byte.toNat_lt
  rw [← UInt8.toNat_inj, ← Int.ofNat_inj, planarClip_eq]
  omega

theorem planarClip_delta (above byte : UInt8) :
    planarClip (above.toNat + planarDecodeRleDelta (planarDeltaByte above byte)) = byte ↔
      NearAbove above byte := by
  have small := byte.toNat_lt
  have small' := above.toNat_lt
  have apart : (byte - above).toNat = (256 - above.toNat + byte.toNat) % 256 := UInt8.toNat_sub ..
  rw [planarDecodeRleDelta_byte, ← UInt8.toNat_inj, ← Int.ofNat_inj, planarClip_eq]
  unfold NearAbove int8
  split <;> omega

theorem planarCells_above {coded : Bytes} (same : above.length = coded.length) :
    planarCells (some above) coded =
      List.zipWith (fun up byte => planarClip (up.toNat + planarDecodeRleDelta byte)) above coded := by
  apply List.ext_getElem
  · rw [planarCells_length, List.length_zipWith, same, Nat.min_self]
  · intro x inside inside'
    rw [planarCells_length] at inside
    simp only [planarCells, List.getElem_mapIdx, List.getElem_zipWith, planarCell, planarValue,
      Option.isSome_some, if_true]
    rw [List.getD_eq_getElem _ _ (same ▸ inside)]

theorem planarCells_none (row : Bytes) : planarCells none row = row := by
  apply List.ext_getElem
  · exact planarCells_length row
  · intro x inside inside'
    simp only [planarCells, List.getElem_mapIdx, planarCell, planarValue, Option.isSome_none]
    exact planarClip_toNat _

theorem planarCells_coded_iff (same : above.length = row.length) :
    planarCells (some above) (planarCoded (some above) row) = row ↔
      List.Forall₂ NearAbove above row := by
  rw [planarCoded, planarCells_above (by rw [List.length_zipWith, same, Nat.min_self])]
  induction above generalizing row with
  | nil =>
    cases row with
    | nil => exact ⟨fun _ => .nil, fun _ => rfl⟩
    | cons => cases same
  | cons up above ih =>
    cases row with
    | nil => cases same
    | cons byte row =>
      rw [List.zipWith_cons_cons, List.zipWith_cons_cons, List.cons_eq_cons,
        planarClip_delta, ih (Nat.succ.inj same), List.forall₂_cons]

theorem planarDecodedRows_iff (wide : ∀ row' ∈ row :: rows, row'.length = width) :
    planarDecodedRows (some row) (planarCodedRows (some row) rows) = rows ↔
      SmoothRows (row :: rows) := by
  induction rows generalizing row with
  | nil => exact ⟨fun _ => .singleton _, fun _ => rfl⟩
  | cons next rows ih =>
    obtain ⟨first, wide⟩ := List.forall_mem_cons.mp wide
    have same : row.length = next.length := by
      rw [first, (List.forall_mem_cons.mp wide).1]
    rw [planarCodedRows, planarDecodedRows, List.cons_eq_cons, SmoothRows,
      List.isChain_cons_cons, planarCells_coded_iff same]
    constructor
    · rintro ⟨near, later⟩
      rw [(planarCells_coded_iff same).mpr near, ih wide] at later
      exact ⟨near, later⟩
    · rintro ⟨near, later⟩
      rw [(planarCells_coded_iff same).mpr near, ih wide]
      exact ⟨near, later⟩

theorem planarDecodedRows_length (coded : List Bytes) :
    (planarDecodedRows previous coded).map List.length = coded.map List.length := by
  induction coded generalizing previous with
  | nil => rfl
  | cons coded later ih => rw [planarDecodedRows, List.map_cons, List.map_cons, ih,
      planarCells_length]

namespace PlanarCut

variable {width height : Nat} (cut : PlanarCut width height)

def decoded : Bytes := (planarDecodedRows none (planarCodedRows none cut.rows)).flatten

theorem coded_wide : ∀ coded ∈ planarCodedRows none cut.rows, coded.length = width :=
  planarCodedRows_wide cut.wide nofun

theorem decodes (wide : 0 < width) (high : 0 < height) (rest : Bytes) :
    planarDecodeRlePlane (cut.encoding ++ rest) width height =
      .ok (cut.decoded, cut.encoding.length) := by
  have count : cut.cuts.length = height := by
    rw [← List.length_map (planarRowValues 0), cut.cut, planarCodedRows_length, cut.many]
  have values : ∀ segments ∈ cut.cuts, (planarRowValues 0 segments).length = width := by
    intro segments held
    apply cut.coded_wide
    rw [← cut.cut]
    exact List.mem_map_of_mem held
  have rows := @planarRleRows_cuts none width cut.cuts rest [] values
  rw [count, List.nil_append, cut.cut] at rows
  have taken : (cut.encoding ++ rest).length - rest.length = cut.encoding.length := by
    rw [List.length_append, Nat.add_sub_cancel]
  rw [planarDecodeRlePlane, if_neg (by omega), PlanarCut.encoding, rows, ok_bind]
  exact congrArg (fun count => Except.ok (cut.decoded, count)) taken

theorem decoded_iff : cut.decoded = cut.plane ↔ SmoothRows cut.rows := by
  have widths : (planarDecodedRows none (planarCodedRows none cut.rows)).map List.length =
      cut.rows.map List.length := by
    rw [planarDecodedRows_length, List.map_congr_left cut.coded_wide, List.map_congr_left cut.wide,
      List.map_const', List.map_const', planarCodedRows_length]
  have same : cut.decoded = cut.plane ↔
      planarDecodedRows none (planarCodedRows none cut.rows) = cut.rows :=
    ⟨fun flat => List.eq_iff_flatten_eq.mpr ⟨flat, widths⟩, congrArg List.flatten⟩
  rw [same]
  have wide := cut.wide
  cases all : cut.rows with
  | nil => exact ⟨fun _ => .nil, fun _ => rfl⟩
  | cons row rows =>
    rw [all] at wide
    rw [planarCodedRows, planarDecodedRows, planarCoded, planarCells_none, List.cons_eq_cons,
      planarDecodedRows_iff wide]
    exact and_iff_right rfl

end PlanarCut

end LibRdp.Graphics
