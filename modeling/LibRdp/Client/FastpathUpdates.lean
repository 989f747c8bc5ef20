import LibRdp.Client.Fastpath

/-! # Fast-path packets of updates

The header of a packet counts itself in its length and takes a third byte from 128 on; the header
of an update packs its code, its place in a message and whether it is compressed into one byte,
and a byte of flags follows only where it is compressed.
-/

namespace LibRdp.Client

/-- `RDP_FASTPATH_OUTPUT_*`. -/
def fastpathActionFastpath : UInt8 := 0x00
def fastpathActionX224 : UInt8 := 0x03
def fastpathCompressionUsed : UInt8 := 0x02

/-- `RDP_FASTPATH_UPDATE_SYNCHRONIZE`. -/
def fastpathUpdateSynchronize : UInt8 := 0x03

/-- `RDP_FASTPATH_MAX_UPDATES`. -/
def fastpathMaxUpdates : Nat := 64

/-- `rdp_fastpath_valid_action`. -/
def FastpathValidAction (action : UInt8) : Prop :=
  action = fastpathActionFastpath ∨ action = fastpathActionX224

/-- `rdp_fastpath_valid_update_code`. -/
def FastpathValidUpdateCode (updateCode : UInt8) : Prop :=
  updateCode ∈ ([0x00, 0x01, 0x02, 0x03, 0x04, 0x05, 0x06, 0x08, 0x09, 0x0a, 0x0b, 0x0c] : Bytes)

instance : DecidablePred FastpathValidAction := fun _ => inferInstanceAs (Decidable (_ ∨ _))

instance : DecidablePred FastpathValidUpdateCode := fun _ => inferInstanceAs (Decidable (_ ∈ _))

/-- `rdp_fastpath_header`. -/
structure FastpathHeader where
  action : UInt8
  securityFlags : UInt8
  length : Nat
  headerLength : Nat
  longLength : Bool
  deriving Repr, DecidableEq

/-- The length a packet announces, the bytes of its header, and whether there are three of them. -/
def fastpathReadLength (first : UInt8) (rest : Bytes) : Attempt (Nat × Nat × Bool) :=
  if first &&& 0x80 ≠ 0 then
    match rest with
    | second :: _ => .ok ((first &&& 0x7f).toNat * 256 + second.toNat, 3, true)
    | [] => refuse .protocolError
  else .ok (first.toNat, 2, false)

/-- `rdp_fastpath_parse_header`. -/
def fastpathParseHeader (data : Bytes) : Attempt FastpathHeader :=
  match data with
  | p0 :: p1 :: rest =>
      let action := p0 &&& 0x03
      let securityFlags := (p0 >>> 6) &&& 0x03
      if ¬FastpathValidAction action then refuse .protocolError
      else do
        let (length, headerLength, longLength) ← fastpathReadLength p1 rest
        if length < headerLength ∨ length > data.length then refuse .protocolError
        else pure { action, securityFlags, length, headerLength, longLength }
  | _ => refuse .protocolError

def fastpathPacketLength (payloadLen : Nat) : Nat :=
  if payloadLen + 2 > 127 then payloadLen + 3 else payloadLen + 2

/-- `rdp_fastpath_write_header`. -/
def fastpathWriteHeader (action securityFlags : UInt8) (payloadLen : Nat) : Attempt Bytes :=
  if ¬FastpathValidAction action ∨ securityFlags > 3 then refuse .invalidArgument
  else
    let packetLength := fastpathPacketLength payloadLen
    if packetLength > 0x7fff then refuse .invalidArgument
    else
      let first := action ||| (securityFlags <<< 6)
      if packetLength ≤ 127 then .ok [first, UInt8.ofNat packetLength]
      else .ok [first, 0x80 ||| (UInt8.ofNat (packetLength / 256) &&& 0x7f), UInt8.ofNat packetLength]

/-- `rdp_fastpath_write_update`. -/
def fastpathWriteUpdate (update : FastpathUpdate) : Attempt Bytes :=
  if ¬FastpathValidUpdateCode update.updateCode ∨ update.fragmentation > fastpathFragmentNext ∨
      update.compression ≠ 0 ∧ update.compression ≠ fastpathCompressionUsed ∨
      update.data.length > 65535 then refuse .invalidArgument
  else if update.updateCode = fastpathUpdateSynchronize ∧
      (update.fragmentation ≠ fastpathFragmentSingle ∨ update.compression ≠ 0 ∨
        update.data.length ≠ 0) then refuse .invalidArgument
  else
    let header := update.updateCode ||| (update.fragmentation <<< 4) ||| (update.compression <<< 6)
    let flags := if update.compression = fastpathCompressionUsed then [update.compressionFlags]
      else []
    .ok (header :: (flags ++ (u16LeBytes update.data.length ++ update.data)))

/-- `rdp_fastpath_write_updates`. -/
def fastpathWriteUpdates (updates : List FastpathUpdate) : Attempt Bytes :=
  if updates.length > fastpathMaxUpdates then refuse .invalidArgument
  else do
    let written ← updates.mapM fastpathWriteUpdate
    let payload := written.flatten
    let header ← fastpathWriteHeader fastpathActionFastpath 0 payload.length
    pure (header ++ payload)

/-- The flags of a compressed update; `memset` leaves zero where there are none. -/
def fastpathReadFlags (compression : UInt8) (stream : Bytes) : Attempt (UInt8 × Bytes) :=
  if compression = fastpathCompressionUsed then readU8 stream else .ok (0, stream)

/-- One turn of the loop of `rdp_fastpath_parse_updates_payload`. -/
def fastpathReadUpdate (stream : Bytes) : Attempt (FastpathUpdate × Bytes) := do
  let (header, stream) ← readU8 stream
  let updateCode := header &&& 0x0f
  let fragmentation := (header >>> 4) &&& 0x03
  let compression := (header >>> 6) &&& 0x03
  if ¬FastpathValidUpdateCode updateCode then refuse .protocolError
  else if compression ≠ 0 ∧ compression ≠ fastpathCompressionUsed then refuse .protocolError
  else
    let (compressionFlags, stream) ← fastpathReadFlags compression stream
    let (size, stream) ← readU16Le stream
    if size.toNat > stream.length then refuse .protocolError
    else if updateCode = fastpathUpdateSynchronize ∧
        (fragmentation ≠ fastpathFragmentSingle ∨ compression ≠ 0 ∨ size ≠ 0) then
      refuse .protocolError
    else
      let (data, stream) ← readBytes stream size.toNat
      pure ({ updateCode, fragmentation, compression, compressionFlags, data }, stream)

def fastpathReadUpdates (stream : Bytes) : Nat → Attempt (List FastpathUpdate)
  | 0 => if stream.length > 0 then refuse .protocolError else .ok []
  | room + 1 =>
      if stream.length > 0 then do
        let (update, stream) ← fastpathReadUpdate stream
        let updates ← fastpathReadUpdates stream room
        pure (update :: updates)
      else .ok []

/-- `rdp_fastpath_parse_updates_payload`. -/
def fastpathParseUpdatesPayload (data : Bytes) : Attempt (List FastpathUpdate) :=
  fastpathReadUpdates data fastpathMaxUpdates

/-- `rdp_fastpath_parse_updates`. -/
def fastpathParseUpdates (data : Bytes) : Attempt (List FastpathUpdate) := do
  let header ← fastpathParseHeader data
  if header.action ≠ fastpathActionFastpath then refuse .protocolError
  else if header.securityFlags ≠ 0 then refuse .state
  else fastpathParseUpdatesPayload ((data.drop header.headerLength).take
    (header.length - header.headerLength))

variable {compression : UInt8} {length headerLength : Nat} {long : Bool}

theorem updateHeader_fields {code fragmentation : UInt8} (known : FastpathValidUpdateCode code)
    (piece : fragmentation ≤ fastpathFragmentNext)
    (used : compression = 0 ∨ compression = fastpathCompressionUsed) :
    (code ||| fragmentation <<< 4 ||| compression <<< 6) &&& 0x0f = code ∧
      ((code ||| fragmentation <<< 4 ||| compression <<< 6) >>> 4) &&& 0x03 = fragmentation ∧
      ((code ||| fragmentation <<< 4 ||| compression <<< 6) >>> 6) &&& 0x03 = compression := by
  have all : ∀ c ∈ ([0x00, 0x01, 0x02, 0x03, 0x04, 0x05, 0x06, 0x08, 0x09, 0x0a, 0x0b, 0x0c] :
      List UInt8), ∀ f ∈ ([0, 1, 2, 3] : List UInt8), ∀ u ∈ ([0, 2] : List UInt8),
      (c ||| f <<< 4 ||| u <<< 6) &&& 0x0f = c ∧ ((c ||| f <<< 4 ||| u <<< 6) >>> 4) &&& 0x03 = f ∧
        ((c ||| f <<< 4 ||| u <<< 6) >>> 6) &&& 0x03 = u := by decide +kernel
  have four : fragmentation ∈ ([0, 1, 2, 3] : List UInt8) := by
    have small : fragmentation.toNat ≤ 3 := UInt8.le_iff_toNat_le.mp piece
    have values : ∀ k ≤ 3, UInt8.ofNat k ∈ ([0, 1, 2, 3] : List UInt8) := by decide
    have here := values _ small
    rwa [UInt8.ofNat_toNat] at here
  have two : compression ∈ ([0, 2] : List UInt8) := by
    rcases used with rfl | rfl
    · exact List.mem_cons_self
    · exact .tail _ List.mem_cons_self
  exact all code known fragmentation four compression two

theorem updateHeader_whole (header : UInt8) :
    ((header &&& 0x0f : UInt8) ||| ((header >>> 4) &&& 0x03 : UInt8) <<< 4 |||
      ((header >>> 6) &&& 0x03 : UInt8) <<< 6) = header ∧
      ((header >>> 4) &&& 0x03 : UInt8) ≤ fastpathFragmentNext := by
  have all : ∀ k < 256, ((UInt8.ofNat k &&& 0x0f : UInt8) |||
      ((UInt8.ofNat k >>> 4) &&& 0x03 : UInt8) <<< 4 |||
        ((UInt8.ofNat k >>> 6) &&& 0x03 : UInt8) <<< 6) = UInt8.ofNat k ∧
      ((UInt8.ofNat k >>> 4) &&& 0x03 : UInt8) ≤ fastpathFragmentNext := by decide +kernel
  have here := all header.toNat header.toNat_lt
  rwa [UInt8.ofNat_toNat] at here

structure FastpathWritable (update : FastpathUpdate) : Prop where
  known : FastpathValidUpdateCode update.updateCode
  piece : update.fragmentation ≤ fastpathFragmentNext
  used : update.compression = 0 ∨ update.compression = fastpathCompressionUsed
  short : update.data.length ≤ 65535
  synchronize : update.updateCode = fastpathUpdateSynchronize →
    update.fragmentation = fastpathFragmentSingle ∧ update.compression = 0 ∧
      update.data.length = 0

def flagBytes (compression flags : UInt8) : Bytes :=
  if compression = fastpathCompressionUsed then [flags] else []

def FastpathUpdate.bytes (update : FastpathUpdate) : Bytes :=
  (update.updateCode ||| update.fragmentation <<< 4 ||| update.compression <<< 6) ::
    (flagBytes update.compression update.compressionFlags ++
      (u16LeBytes update.data.length ++ update.data))

variable {update : FastpathUpdate} {stream rest : Bytes} {updates : List FastpathUpdate}

theorem fastpathWriteUpdate_eq_ok {wire : Bytes} :
    fastpathWriteUpdate update = .ok wire ↔ FastpathWritable update ∧ wire = update.bytes := by
  constructor
  · intro wrote
    unfold fastpathWriteUpdate at wrote
    split at wrote
    · cases wrote
    rename_i checked
    split at wrote
    · cases wrote
    rename_i plain
    cases wrote
    simp only [not_or, not_and, not_not] at checked plain
    obtain ⟨known, piece, used, short⟩ := checked
    refine ⟨⟨known, UInt8.not_lt.mp piece, ?_, Nat.not_lt.mp short, plain⟩, rfl⟩
    by_cases zero : update.compression = 0
    · exact .inl zero
    · exact .inr (used zero)
  · rintro ⟨⟨known, piece, used, short, synchronize⟩, rfl⟩
    have checked : ¬(¬FastpathValidUpdateCode update.updateCode ∨
        update.fragmentation > fastpathFragmentNext ∨
        update.compression ≠ 0 ∧ update.compression ≠ fastpathCompressionUsed ∨
        update.data.length > 65535) := by
      simp only [not_or, not_and, not_not]
      exact ⟨known, UInt8.not_lt.mpr piece, used.resolve_left, Nat.not_lt.mpr short⟩
    have plain : ¬(update.updateCode = fastpathUpdateSynchronize ∧
        (update.fragmentation ≠ fastpathFragmentSingle ∨ update.compression ≠ 0 ∨
          update.data.length ≠ 0)) := by
      simp only [not_and, not_or, not_not]
      exact synchronize
    rw [fastpathWriteUpdate, if_neg checked, if_neg plain]
    rfl

theorem fastpathReadFlags_eq_ok {flags : UInt8}
    (used : compression = 0 ∨ compression = fastpathCompressionUsed) :
    fastpathReadFlags compression stream = .ok (flags, rest) ↔
      (compression = 0 → flags = 0) ∧ stream = flagBytes compression flags ++ rest := by
  rcases used with rfl | rfl
  · rw [fastpathReadFlags, if_neg (by decide), flagBytes, if_neg (by decide), List.nil_append]
    constructor
    · intro read
      cases read
      exact ⟨fun _ => rfl, rfl⟩
    · rintro ⟨zero, rfl⟩
      rw [zero rfl]
  · rw [fastpathReadFlags, if_pos rfl, flagBytes, if_pos rfl, readU8_eq_ok]
    exact ⟨fun same => ⟨fun zero => absurd zero (by decide), same⟩, fun ⟨_, same⟩ => same⟩

theorem fastpathReadUpdate_eq_ok :
    fastpathReadUpdate stream = .ok (update, rest) ↔
      (FastpathWritable update ∧ (update.compression = 0 → update.compressionFlags = 0)) ∧
        stream = update.bytes ++ rest := by
  constructor
  · intro read
    simp only [fastpathReadUpdate, bind_eq_ok, refuse_else, attempt_pure, Except.ok.injEq,
      Prod.mk.injEq] at read
    obtain ⟨⟨header, s₁⟩, first, known, used, ⟨flags, s₂⟩, flagged, ⟨size, s₃⟩, sized, fits, plain,
      ⟨data, s₄⟩, held, rfl, rfl⟩ := read
    obtain ⟨long, rfl⟩ := readBytes_eq_ok.mp held
    obtain ⟨whole, piece⟩ := updateHeader_whole header
    simp only [not_and, not_or, not_not] at known used plain
    have two : (header >>> 6) &&& 0x03 = 0 ∨ (header >>> 6) &&& 0x03 = fastpathCompressionUsed := by
      by_cases zero : (header >>> 6) &&& 0x03 = 0
      · exact .inl zero
      · exact .inr (used zero)
    have short := size.toNat_lt
    have single : size = 0 → data.length = 0 := by
      rintro rfl
      exact long
    obtain ⟨unflagged, rfl⟩ := (fastpathReadFlags_eq_ok two).mp flagged
    have shorter : data.length ≤ 65535 := by
      rw [long]
      exact Nat.le_of_lt_succ short
    refine ⟨⟨⟨known, piece, two, shorter, fun same => ?_⟩, unflagged⟩, ?_⟩
    · obtain ⟨one, zero, none⟩ := plain same
      exact ⟨one, zero, single none⟩
    · have spelled : s₂ = u16LeBytes size.toNat ++ (data ++ s₄) := readU16Le_eq_ok.mp sized
      rw [readU8_eq_ok.mp first, FastpathUpdate.bytes, spelled]
      simp only [whole, long, List.cons_append, List.append_assoc]
  · rintro ⟨⟨⟨known, piece, used, short, synchronize⟩, unflagged⟩, rfl⟩
    obtain ⟨code, fragmentation, compression⟩ := updateHeader_fields known piece used
    have flagged := (fastpathReadFlags_eq_ok used).mpr
      ⟨unflagged, (rfl : _ = _ ++ (u16LeBytes update.data.length ++ (update.data ++ rest)))⟩
    have size : (UInt16.ofNat update.data.length).toNat = update.data.length :=
      UInt16.toNat_ofNat_of_lt' (Nat.lt_succ_of_le short)
    have refused : ¬(update.compression ≠ 0 ∧ update.compression ≠ fastpathCompressionUsed) := by
      rintro ⟨none, other⟩
      exact used.elim none other
    have fits : ¬update.data.length > (update.data ++ rest).length := by
      rw [List.length_append]
      omega
    have plain : ¬(update.updateCode = fastpathUpdateSynchronize ∧
        (update.fragmentation ≠ fastpathFragmentSingle ∨ update.compression ≠ 0 ∨
          UInt16.ofNat update.data.length ≠ 0)) := by
      simp only [not_and, not_or, not_not]
      intro same
      obtain ⟨single, zero, none⟩ := synchronize same
      exact ⟨single, zero, by rw [none]; rfl⟩
    simp only [fastpathReadUpdate, FastpathUpdate.bytes, List.cons_append, List.append_assoc,
      readU8_cons, ok_bind, code, fragmentation, compression, known, not_true_eq_false,
      if_false, refused, flagged, readU16Le_nat (Nat.lt_succ_of_le short), size, fits, plain,
      readBytes_append, attempt_pure]

theorem mapM_write_eq_ok {written : List Bytes} :
    updates.mapM fastpathWriteUpdate = .ok written ↔
      (∀ update ∈ updates, FastpathWritable update) ∧ written = updates.map (·.bytes) := by
  induction updates generalizing written with
  | nil =>
    constructor
    · intro wrote
      cases wrote
      exact ⟨nofun, rfl⟩
    · rintro ⟨-, rfl⟩
      rfl
  | cons update updates ih =>
    rw [List.mapM_cons, List.forall_mem_cons, bind_eq_ok]
    constructor
    · rintro ⟨first, wrote, later⟩
      obtain ⟨others, wrote', last⟩ := bind_eq_ok.mp later
      obtain ⟨writable, rfl⟩ := fastpathWriteUpdate_eq_ok.mp wrote
      obtain ⟨all, rfl⟩ := ih.mp wrote'
      cases last
      exact ⟨⟨writable, all⟩, rfl⟩
    · rintro ⟨⟨writable, all⟩, rfl⟩
      refine ⟨update.bytes, fastpathWriteUpdate_eq_ok.mpr ⟨writable, rfl⟩, ?_⟩
      rw [ih.mpr ⟨all, rfl⟩]
      rfl

structure FastpathReadable (update : FastpathUpdate) : Prop where
  writable : FastpathWritable update
  unflagged : update.compression = 0 → update.compressionFlags = 0

theorem fastpathReadUpdates_eq_ok {room : Nat} :
    fastpathReadUpdates stream room = .ok updates ↔ updates.length ≤ room ∧
      (∀ update ∈ updates, FastpathReadable update) ∧ stream = updates.flatMap (·.bytes) := by
  induction room generalizing stream updates with
  | zero =>
    rw [fastpathReadUpdates]
    constructor
    · intro read
      split at read
      · cases read
      · cases read
        exact ⟨Nat.le_refl 0, nofun, List.length_eq_zero_iff.mp (by omega)⟩
    · rintro ⟨none, -, rfl⟩
      rw [List.length_eq_zero_iff.mp (Nat.le_zero.mp none)]
      rfl
  | succ room ih =>
    rw [fastpathReadUpdates]
    constructor
    · intro read
      split at read
      · obtain ⟨⟨update, rest⟩, first, read⟩ := bind_eq_ok.mp read
        obtain ⟨others, later, last⟩ := bind_eq_ok.mp read
        cases last
        obtain ⟨⟨writable, unflagged⟩, rfl⟩ := fastpathReadUpdate_eq_ok.mp first
        obtain ⟨fits, all, same⟩ := ih.mp later
        exact ⟨Nat.succ_le_succ fits, List.forall_mem_cons.mpr ⟨⟨writable, unflagged⟩, all⟩,
          congrArg (update.bytes ++ ·) same⟩
      · cases read
        exact ⟨Nat.zero_le _, nofun, List.length_eq_zero_iff.mp (by omega)⟩
    · rintro ⟨fits, all, rfl⟩
      cases updates with
      | nil => rfl
      | cons update updates =>
        obtain ⟨⟨writable, unflagged⟩, all⟩ := List.forall_mem_cons.mp all
        have some : ((update :: updates).flatMap (·.bytes)).length > 0 := Nat.succ_pos _
        rw [if_pos some, List.flatMap_cons,
          fastpathReadUpdate_eq_ok.mpr ⟨⟨writable, unflagged⟩, rfl⟩, ok_bind]
        simp only
        rw [ih.mpr ⟨Nat.le_of_succ_le_succ fits, all, rfl⟩]
        rfl

theorem shortLength_read : ∀ length < 128,
    UInt8.ofNat length &&& 0x80 = 0 ∧ (UInt8.ofNat length).toNat = length := by decide

theorem longLength_read : ∀ high < 128,
    (0x80 ||| (UInt8.ofNat high &&& 0x7f)) &&& 0x80 ≠ 0 ∧
      ((0x80 ||| (UInt8.ofNat high &&& 0x7f)) &&& 0x7f).toNat = high := by decide

theorem fastpathWriteHeader_short {n : Nat} (short : n + 2 ≤ 127) :
    fastpathWriteHeader fastpathActionFastpath 0 n = .ok [0, UInt8.ofNat (n + 2)] := by
  have length : fastpathPacketLength n = n + 2 := if_neg (by omega)
  rw [fastpathWriteHeader, if_neg (by decide)]
  simp only [length]
  rw [if_neg (by omega), if_pos short]
  rfl

theorem fastpathWriteHeader_long {n : Nat} (long : 127 < n + 2) (room : n + 3 ≤ 0x7fff) :
    fastpathWriteHeader fastpathActionFastpath 0 n =
      .ok [0, 0x80 ||| (UInt8.ofNat ((n + 3) / 256) &&& 0x7f), UInt8.ofNat (n + 3)] := by
  have length : fastpathPacketLength n = n + 3 := if_pos long
  rw [fastpathWriteHeader, if_neg (by decide)]
  simp only [length]
  rw [if_neg (by omega), if_neg (by omega)]
  rfl

variable {data : Bytes}

theorem fastpathParseHeader_zero {p1 : UInt8}
    (read : fastpathReadLength p1 rest = .ok (length, headerLength, long))
    (least : headerLength ≤ length) (inside : length ≤ rest.length + 2) :
    fastpathParseHeader (0 :: p1 :: rest) =
      .ok { action := fastpathActionFastpath, securityFlags := 0, length, headerLength
            longLength := long } := by
  have within : ¬(length < headerLength ∨ length > (0 :: p1 :: rest).length) := by
    rw [List.length_cons, List.length_cons]
    omega
  rw [fastpathParseHeader]
  simp only [read, ok_bind]
  rw [if_neg (by decide), if_neg within]
  rfl

theorem fastpathParseHeader_write {payload : Bytes}
    (room : fastpathPacketLength payload.length ≤ 0x7fff) :
    ∃ header long, fastpathWriteHeader fastpathActionFastpath 0 payload.length = .ok header ∧
      ∀ rest, fastpathParseHeader (header ++ (payload ++ rest)) =
        .ok { action := fastpathActionFastpath, securityFlags := 0
              length := header.length + payload.length, headerLength := header.length
              longLength := long } := by
  unfold fastpathPacketLength at room
  split at room
  · rename_i long
    obtain ⟨marked, high⟩ := longLength_read ((payload.length + 3) / 256) (by omega)
    refine ⟨_, true, fastpathWriteHeader_long long room, fun rest => ?_⟩
    have low : (UInt8.ofNat (payload.length + 3)).toNat = (payload.length + 3) % 256 :=
      UInt8.toNat_ofNat'
    have length : (payload.length + 3) / 256 * 256 + (payload.length + 3) % 256 =
        3 + payload.length := by omega
    have read : fastpathReadLength (0x80 ||| (UInt8.ofNat ((payload.length + 3) / 256) &&& 0x7f))
        (UInt8.ofNat (payload.length + 3) :: (payload ++ rest)) =
        .ok (3 + payload.length, 3, true) := by
      rw [fastpathReadLength, if_pos marked]
      simp only [high, low, length]
    have inside : 3 + payload.length ≤
        (UInt8.ofNat (payload.length + 3) :: (payload ++ rest)).length + 2 := by
      rw [List.length_cons, List.length_append]
      omega
    exact fastpathParseHeader_zero read (Nat.le_add_right _ _) inside
  · rename_i short
    obtain ⟨plain, value⟩ := shortLength_read (payload.length + 2) (by omega)
    refine ⟨_, false, fastpathWriteHeader_short (by omega), fun rest => ?_⟩
    have length : payload.length + 2 = 2 + payload.length := Nat.add_comm _ _
    have read : fastpathReadLength (UInt8.ofNat (payload.length + 2)) (payload ++ rest) =
        .ok (2 + payload.length, 2, false) := by
      rw [fastpathReadLength.eq_def, if_neg (not_not.mpr plain), value, length]
    have inside : 2 + payload.length ≤ (payload ++ rest).length + 2 := by
      rw [List.length_append]
      omega
    exact fastpathParseHeader_zero read (Nat.le_add_right _ _) inside

theorem fastpathWriteUpdates_ok (few : updates.length ≤ fastpathMaxUpdates)
    (readable : ∀ update ∈ updates, FastpathReadable update)
    (room : fastpathPacketLength (updates.flatMap (·.bytes)).length ≤ 0x7fff) :
    ∃ packet, fastpathWriteUpdates updates = .ok packet ∧
      ∀ rest, fastpathParseUpdates (packet ++ rest) = .ok updates := by
  obtain ⟨header, long, wrote, parsed⟩ := fastpathParseHeader_write room
  have flat : (updates.map (·.bytes)).flatten = updates.flatMap (·.bytes) :=
    List.flatMap_def.symm
  have written := mapM_write_eq_ok.mpr
    ⟨fun update held => (readable update held).writable, (rfl : updates.map (·.bytes) = _)⟩
  refine ⟨header ++ updates.flatMap (·.bytes), ?_, fun rest => ?_⟩
  · rw [fastpathWriteUpdates, if_neg (Nat.not_lt.mpr few), written, ok_bind]
    simp only [flat, wrote, ok_bind, attempt_pure]
  · have payload : ((header ++ (updates.flatMap (·.bytes) ++ rest)).drop header.length).take
        (header.length + (updates.flatMap (·.bytes)).length - header.length) =
        updates.flatMap (·.bytes) := by
      rw [List.drop_left, Nat.add_sub_cancel_left, List.take_left]
    rw [List.append_assoc, fastpathParseUpdates, parsed rest, ok_bind]
    simp only [ne_eq, not_true_eq_false, if_false, payload]
    exact fastpathReadUpdates_eq_ok.mpr ⟨few, readable, rfl⟩

theorem fastpathReadLength_bound {first : UInt8}
    (read : fastpathReadLength first rest = .ok (length, headerLength, long)) :
    headerLength = 3 ∧ length ≤ 0x7fff ∨ headerLength = 2 ∧ length ≤ 255 := by
  have masked : ∀ k < 256, (UInt8.ofNat k &&& 0x7f).toNat < 128 := by decide +kernel
  have high := masked first.toNat first.toNat_lt
  rw [UInt8.ofNat_toNat] at high
  have byte := first.toNat_lt
  unfold fastpathReadLength at read
  split at read
  · cases rest with
    | nil => cases read
    | cons second rest =>
      have low := second.toNat_lt
      cases read
      exact .inl ⟨rfl, by omega⟩
  · cases read
    exact .inr ⟨rfl, by omega⟩

theorem fastpathParseHeader_payload {header : FastpathHeader}
    (parsed : fastpathParseHeader data = .ok header) :
    fastpathPacketLength (header.length - header.headerLength) ≤ 0x7fff := by
  unfold fastpathParseHeader at parsed
  split at parsed
  · simp only at parsed
    split at parsed
    · cases parsed
    obtain ⟨⟨length, headerLength, long⟩, read, last⟩ := bind_eq_ok.mp parsed
    simp only at last
    split at last
    · cases last
    cases last
    unfold fastpathPacketLength
    rcases fastpathReadLength_bound read with ⟨rfl, most⟩ | ⟨rfl, most⟩
    · simp only
      split <;> omega
    · simp only
      split <;> omega
  · cases parsed

theorem fastpathParseUpdates_rewritten (parsed : fastpathParseUpdates data = .ok updates) :
    ∃ packet, fastpathWriteUpdates updates = .ok packet ∧
      ∀ rest, fastpathParseUpdates (packet ++ rest) = .ok updates := by
  obtain ⟨header, head, parsed⟩ := bind_eq_ok.mp parsed
  split at parsed
  · cases parsed
  split at parsed
  · cases parsed
  obtain ⟨few, readable, same⟩ := fastpathReadUpdates_eq_ok.mp parsed
  have room := fastpathParseHeader_payload head
  have shorter : (updates.flatMap (·.bytes)).length ≤ header.length - header.headerLength := by
    rw [← same, List.length_take]
    exact Nat.min_le_left _ _
  refine fastpathWriteUpdates_ok few readable (Nat.le_trans ?_ room)
  unfold fastpathPacketLength
  split
  · split <;> omega
  · split <;> omega

def fastpathUpdatesSize (updates : List FastpathUpdate) : Nat :=
  (updates.map fun update =>
    (if update.compression = fastpathCompressionUsed then 4 else 3) + update.data.length).sum

theorem fastpathUpdatesSize_eq (updates : List FastpathUpdate) :
    (updates.flatMap (·.bytes)).length = fastpathUpdatesSize updates := by
  have one : ∀ update : FastpathUpdate, update.bytes.length =
      (if update.compression = fastpathCompressionUsed then 4 else 3) + update.data.length := by
    intro update
    rw [FastpathUpdate.bytes, flagBytes, List.length_cons, List.length_append, List.length_append,
      u16LeBytes_length]
    split
    · rw [List.length_singleton]
      omega
    · rw [List.length_nil]
      omega
  rw [List.length_flatMap, fastpathUpdatesSize]
  exact congrArg List.sum (List.map_congr_left fun update _ => one update)

/-- A list of updates that the writer of single updates accepts and that fits a packet is written
    and read back, whatever follows it; and a list that was read is written again and read back
    too. -/
theorem fastpathUpdates_roundTrip :
    (∀ updates : List FastpathUpdate, updates.length ≤ fastpathMaxUpdates →
      (∀ update ∈ updates, (∃ wire, fastpathWriteUpdate update = .ok wire) ∧
        (update.compression = 0 → update.compressionFlags = 0)) →
      fastpathPacketLength (fastpathUpdatesSize updates) ≤ 0x7fff →
      ∃ packet, fastpathWriteUpdates updates = .ok packet ∧
        ∀ rest, fastpathParseUpdates (packet ++ rest) = .ok updates) ∧
    ∀ data updates, fastpathParseUpdates data = .ok updates →
      ∃ packet, fastpathWriteUpdates updates = .ok packet ∧
        ∀ rest, fastpathParseUpdates (packet ++ rest) = .ok updates := by
  refine ⟨fun updates few accepted room => ?_, fun data updates parsed =>
    fastpathParseUpdates_rewritten parsed⟩
  refine fastpathWriteUpdates_ok few (fun update held => ?_) (by rwa [fastpathUpdatesSize_eq])
  obtain ⟨⟨wire, wrote⟩, unflagged⟩ := accepted update held
  exact ⟨(fastpathWriteUpdate_eq_ok.mp wrote).1, unflagged⟩

theorem fastpathUpdates_roundTrip_compressed :
    ∃ packet, fastpathWriteUpdates [⟨1, 0, 2, 0x21, [7, 8]⟩, ⟨3, 0, 0, 0, []⟩] = .ok packet ∧
      ∀ rest, fastpathParseUpdates (packet ++ rest) =
        .ok [⟨1, 0, 2, 0x21, [7, 8]⟩, ⟨3, 0, 0, 0, []⟩] :=
  fastpathUpdates_roundTrip.1 _ (by decide)
    (List.forall_mem_cons.mpr ⟨⟨⟨_, rfl⟩, by decide⟩, List.forall_mem_cons.mpr
      ⟨⟨⟨_, rfl⟩, by decide⟩, nofun⟩⟩) (by decide)

end LibRdp.Client
