import LibRdp.Channels.DynamicChannel

/-! # What the dynamic channel writers accept reads back

The writers of compressed PDUs, and for every writer that what it produced is read back by the
parser of its kind: a writer that went to its end has found the channel id to fit its width.
-/

namespace LibRdp.Channels

/-- `rdp_dynamic_channel_write_compressed_data`. -/
def writeCompressedData (channelId : UInt32) (channelIdBytes : Nat) (data : Bytes) :
    Attempt Bytes :=
  if data.length < 2 ∨ 1 + channelIdBytes + data.length > maxPduSize then refuse .invalidArgument
  else writeChannel cmdDataCompressed 0 channelId channelIdBytes data

/-- `rdp_dynamic_channel_write_compressed_data_first`. -/
def writeCompressedDataFirst (channelId : UInt32) (channelIdBytes : Nat) (totalLength : UInt32)
    (data : Bytes) : Attempt Bytes :=
  if totalLength.toNat = 0 ∨ data.length < 2 ∨ data.length > totalLength.toNat then
    refuse .invalidArgument
  else do
    let _ ← channelIdCode channelId channelIdBytes
    let lengthBytes := lengthBytesOf totalLength.toNat
    if 1 + channelIdBytes + lengthBytes + data.length > maxPduSize then refuse .invalidArgument
    else do
      let length ← writeLength totalLength lengthBytes
      writeChannel cmdDataFirstCompressed (lengthCode lengthBytes) channelId channelIdBytes
        (length ++ data)

section Accepted

variable {command priority width : Nat} {channelId : UInt32} {rest wire : Bytes}

theorem channelIdCode_fits {code : Nat} (coded : channelIdCode channelId width = .ok code) :
    NumberFits channelId width := by
  unfold channelIdCode at coded
  unfold NumberFits
  split at coded
  · split at coded
    · cases coded
    · exact .inl ⟨‹_›, by omega⟩
  split at coded
  · split at coded
    · cases coded
    · exact .inr (.inl ⟨‹_›, by omega⟩)
  split at coded
  · exact .inr (.inr ‹_›)
  · cases coded

theorem writeChannel_fits (wrote : writeChannel command priority channelId width rest = .ok wire) :
    NumberFits channelId width := by
  obtain ⟨code, coded, _⟩ := bind_eq_ok.mp wrote
  exact channelIdCode_fits coded

theorem validatePriority_small (valid : validatePriority priority = .ok ()) : priority ≤ 3 := by
  unfold validatePriority at valid
  split at valid
  · assumption
  · cases valid

theorem written_unique {writer : Attempt Bytes} {reads : Bytes → Prop}
    (wrote : writer = .ok wire) (produces : ∃ wire, writer = .ok wire ∧ reads wire) :
    reads wire := by
  obtain ⟨wire', wrote', back⟩ := produces
  rw [wrote] at wrote'
  cases wrote'
  exact back

end Accepted

section RoundTrip

variable {channelId : UInt32} {width priority : Nat} {data wire : Bytes}

theorem parseCreateRequest_write {name : Bytes} (text : ∀ byte ∈ name, byte ≠ 0)
    (wrote : writeCreateRequest channelId width priority name = .ok wire) :
    parseCreateRequest wire = .ok { channelId, channelIdBytes := width, priority, name } := by
  have whole := wrote
  unfold writeCreateRequest at wrote
  split at wrote
  · cases wrote
  rename_i some
  obtain ⟨_, valid, wrote⟩ := bind_eq_ok.mp wrote
  exact written_unique whole (writeCreateRequest_ok (writeChannel_fits wrote)
    (validatePriority_small valid) (fun empty => some (by rw [empty]; rfl)) text)

theorem parseCreateResponse_write {statusCode : UInt32}
    (wrote : writeCreateResponse channelId width statusCode = .ok wire) :
    parseCreateResponse wire = .ok { channelId, channelIdBytes := width, statusCode } :=
  written_unique wrote (writeCreateResponse_ok (writeChannel_fits wrote) statusCode)

theorem parseData_write (wrote : writeDataEx channelId width priority data = .ok wire) :
    parseData wire = .ok { channelId, channelIdBytes := width, data } := by
  obtain ⟨_, valid, start⟩ := bind_eq_ok.mp wrote
  exact (written_unique wrote
    (writeDataEx_ok (writeChannel_fits start) (validatePriority_small valid) data)).2

theorem parseClose_write (wrote : writeClose channelId width = .ok wire) :
    parseClose wire = .ok { channelId, channelIdBytes := width } :=
  written_unique wrote (writeClose_ok (writeChannel_fits wrote))

theorem parseDataFirst_write {totalLength : UInt32}
    (wrote : writeDataFirstEx channelId width priority totalLength data = .ok wire) :
    parseDataFirst wire = .ok { channelId, channelIdBytes := width, totalLength, data } := by
  have whole := wrote
  unfold writeDataFirstEx at wrote
  split at wrote
  · cases wrote
  obtain ⟨_, valid, wrote⟩ := bind_eq_ok.mp wrote
  obtain ⟨code, coded, wrote⟩ := bind_eq_ok.mp wrote
  simp only [lengthBytesOf] at wrote
  split at wrote
  · cases wrote
  · exact (written_unique whole (writeDataFirstEx_ok (channelIdCode_fits coded)
      (validatePriority_small valid) (by omega) (by omega) (by omega))).2

theorem parseCompressedData_write (wrote : writeCompressedData channelId width data = .ok wire) :
    parseCompressedData wire = .ok { channelId, channelIdBytes := width, data } := by
  unfold writeCompressedData at wrote
  split at wrote
  · cases wrote
  obtain ⟨wire', header, wrote', -, parsed, -, bytes, -⟩ :=
    @writeChannel_ok cmdDataCompressed 0 width channelId data (writeChannel_fits wrote)
      (by decide) (by decide) (by decide) (by decide)
  rw [wrote] at wrote'
  cases wrote'
  simp only [parseCompressedData, parsed, ok_bind]
  rw [if_neg (by omega), attempt_pure, bytes]

theorem parseCompressedDataFirst_write {totalLength : UInt32}
    (wrote : writeCompressedDataFirst channelId width totalLength data = .ok wire) :
    parseCompressedDataFirst wire =
      .ok { channelId, channelIdBytes := width, totalLength, data } := by
  unfold writeCompressedDataFirst at wrote
  split at wrote
  · cases wrote
  obtain ⟨code, coded, wrote⟩ := bind_eq_ok.mp wrote
  simp only [lengthBytesOf] at wrote
  split at wrote
  · cases wrote
  obtain ⟨length, wroteLength, -, reads⟩ := writeNumber_ok (numberWidth_fits totalLength)
  obtain ⟨sameWidth, shortCode⟩ := codeWidth_lengthCode totalLength.toNat
  obtain ⟨wire', header, wrote', -, parsed, -, bytes, lengthBytes⟩ :=
    @writeChannel_ok cmdDataFirstCompressed (lengthCode (numberWidth totalLength.toNat)) width
      channelId (length ++ data) (channelIdCode_fits coded) (by decide) (by decide) (by omega)
      (fun _ => shortCode)
  rw [writeLength, wroteLength, ok_bind, wrote'] at wrote
  cases wrote
  rw [if_pos (.inr rfl), sameWidth] at lengthBytes
  simp only [parseCompressedDataFirst, parseFirst, parsed, ok_bind, lengthBytes,
    readLength, reads]
  rw [if_neg (by omega), if_neg (by omega), attempt_pure, ok_bind, bytes]
  have enough : 2 ≤ data.length := by omega
  exact if_neg (Nat.not_lt.mpr enough)

end RoundTrip

end LibRdp.Channels
