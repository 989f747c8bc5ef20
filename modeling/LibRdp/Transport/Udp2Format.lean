import LibRdp.Transport.UdpRoundTrip

/-! # One spelling for each UDP2 packet

What is read of a stream is what stood there: every reader takes off the front of it the
bytes that the writer writes for the value it returns. So a packet has no second spelling,
and writing and parsing are inverse to each other.
-/

namespace LibRdp.Transport

/-- A reader that takes off a stream what `write` writes for the value it returns. -/
def TakesOff {α : Type} (read : Bytes → Attempt (α × Bytes)) (write : α → Bytes) : Prop :=
  ∀ {stream rest : Bytes} {value : α}, read stream = .ok (value, rest) →
    stream = write value ++ rest

theorem readU8_takesOff : TakesOff readU8 fun byte => [byte] := readU8_eq_ok.mp

theorem readU16Le_takesOff : TakesOff readU16Le fun v => u16LeBytes v.toNat := readU16Le_eq_ok.mp

theorem readU24Le_takesOff : TakesOff readU24Le u24LeBytes := by
  intro stream rest v read
  unfold readU24Le at read
  obtain ⟨⟨low, stream'⟩, readLow, read⟩ := bind_eq_ok.mp read
  obtain ⟨⟨high, stream''⟩, readHigh, read⟩ := bind_eq_ok.mp read
  cases read
  rw [readU16Le_takesOff readLow, readU8_takesOff readHigh]
  have small := low.toNat_lt
  have third : UInt8.ofNat ((low.toNat + 65536 * high.toNat) / 65536) = high := by
    apply UInt8.toNat_inj.mp
    have bound := high.toNat_lt
    rw [UInt8.toNat_ofNat']
    omega
  have second : UInt8.ofNat ((low.toNat + 65536 * high.toNat) / 256) =
      UInt8.ofNat (low.toNat / 256) := by
    apply UInt8.toNat_inj.mp
    rw [UInt8.toNat_ofNat', UInt8.toNat_ofNat']
    omega
  have first : UInt8.ofNat (low.toNat + 65536 * high.toNat) = UInt8.ofNat low.toNat := by
    apply UInt8.toNat_inj.mp
    rw [UInt8.toNat_ofNat', UInt8.toNat_ofNat']
    omega
  simp only [u24LeBytes, u16LeBytes, first, second, third, List.cons_append, List.nil_append]

theorem readBytes_apart {stream data rest : Bytes} {length : Nat}
    (read : readBytes stream length = .ok (data, rest)) :
    stream = data ++ rest ∧ data.length = length := (readBytes_eq_ok.mp read).symm

theorem packed_again (packed : UInt8) {count : Nat} (counted : count = packed.toNat % 16) :
    UInt8.ofNat (count + 16 * (packed.toNat / 16)) = packed := by
  rw [counted, Nat.mod_add_div, UInt8.ofNat_toNat]

theorem parseAck_takesOff : TakesOff udp2ParseAck udp2WriteAck := by
  intro stream rest ack read
  unfold udp2ParseAck at read
  simp only [bind_eq_ok, Prod.exists] at read
  obtain ⟨number, s₁, readNumber, stamp, s₂, readStamp, gap, s₃, readGap, packed, s₄, readPacked,
    additions, s₅, readAdditions, read⟩ := read
  obtain ⟨last, count⟩ := readBytes_apart readAdditions
  cases read
  rw [readU16Le_takesOff readNumber, readU24Le_takesOff readStamp, readU8_takesOff readGap,
    readU8_takesOff readPacked, last]
  simp only [udp2WriteAck, packed_again packed count, List.append_assoc, List.cons_append,
    List.nil_append]

theorem parseAckVectorPayload_takesOff :
    TakesOff udp2ParseAckVectorPayload udp2WriteAckVectorPayload := by
  intro stream rest vector read
  unfold udp2ParseAckVectorPayload at read
  obtain ⟨⟨base, stream₁⟩, readBase, read⟩ := bind_eq_ok.mp read
  obtain ⟨⟨packed, stream₂⟩, readPacked, read⟩ := bind_eq_ok.mp read
  have bound := packed.toNat_lt
  rw [readU16Le_takesOff readBase, readU8_takesOff readPacked]
  by_cases stamped : packed.toNat / 128 = 1
  · simp only [if_pos stamped, attempt_pure, ok_bind] at read
    obtain ⟨⟨stamp, stream₃⟩, readStamp, read⟩ := bind_eq_ok.mp read
    obtain ⟨⟨gap, stream₄⟩, readGap, read⟩ := bind_eq_ok.mp read
    obtain ⟨⟨coded, stream₅⟩, readCoded, read⟩ := bind_eq_ok.mp read
    obtain ⟨last, count⟩ := readBytes_apart readCoded
    have size : UInt8.ofNat (coded.length + 128) = packed := by
      have whole : coded.length + 128 = packed.toNat := by omega
      rw [whole, UInt8.ofNat_toNat]
    have stampBytes : stream₂ = u24LeBytes stamp ++ stream₃ := readU24Le_takesOff readStamp
    have gapByte : stream₃ = gap :: stream₄ := readU8_takesOff readGap
    have vectorBytes : stream₄ = coded ++ stream₅ := last
    cases read
    rw [stampBytes, gapByte, vectorBytes]
    simp only [udp2WriteAckVectorPayload, size, List.append_assoc, List.cons_append,
      List.nil_append]
  · simp only [if_neg stamped, attempt_pure, ok_bind] at read
    obtain ⟨⟨coded, stream₃⟩, readCoded, read⟩ := bind_eq_ok.mp read
    obtain ⟨last, count⟩ := readBytes_apart readCoded
    have size : UInt8.ofNat coded.length = packed := by
      have whole : coded.length = packed.toNat := by omega
      rw [whole, UInt8.ofNat_toNat]
    cases read
    rw [last]
    simp only [udp2WriteAckVectorPayload, size, List.append_assoc, List.cons_append,
      List.nil_append]

theorem parseDelayAckInfo_takesOff :
    TakesOff udp2ParseDelayAckInfo fun info => info.1 :: u16LeBytes info.2.toNat := by
  intro stream rest info read
  unfold udp2ParseDelayAckInfo at read
  obtain ⟨⟨most, stream₁⟩, readMost, read⟩ := bind_eq_ok.mp read
  simp only at read
  split at read
  · exact nomatch read
  obtain ⟨⟨timeout, stream₂⟩, readTimeout, read⟩ := bind_eq_ok.mp read
  cases read
  rw [readU8_takesOff readMost, readU16Le_takesOff readTimeout]
  rfl

theorem parseHeader_takesOff :
    TakesOff udp2ParseHeader fun header =>
      u16LeBytes (header.flags.toNat + 4096 * header.logWindowSize) := by
  intro stream rest header read
  unfold udp2ParseHeader at read
  obtain ⟨⟨raw, stream₁⟩, readRaw, read⟩ := bind_eq_ok.mp read
  simp only at read
  split at read
  · exact nomatch read
  cases read
  have flags : (raw &&& 0x0fff).toNat = raw.toNat % 4096 := by
    rw [UInt16.toNat_and]
    exact Nat.and_two_pow_sub_one_eq_mod raw.toNat 12
  simp only [flags, Nat.mod_add_div]
  exact readU16Le_takesOff readRaw

theorem section_takesOff {α : Type} {flags flag : UInt16} {read : Bytes → Attempt (α × Bytes)}
    {write : α → Bytes} (takes : TakesOff read write) :
    TakesOff (udp2Section flags flag read) fun value => value.elim [] write := by
  intro stream rest value done
  unfold udp2Section at done
  split at done
  · obtain ⟨⟨v, stream₁⟩, readValue, done⟩ := bind_eq_ok.mp done
    cases done
    exact takes readValue
  · cases done
    rfl

theorem write_parse {data : Bytes} {packet : Udp2Packet}
    (parsed : udp2ParsePacket data = .ok packet) : udp2WritePacket packet = .ok data := by
  simp only [udp2ParsePacket, bind_eq_ok, refuse_else, attempt_pure, Except.ok.injEq, Prod.exists]
    at parsed
  obtain ⟨header, s₁, readHeader, ack, s₂, readAck, overhead, s₃, readOverhead, delay, s₄, readDelay,
    aoa, s₅, readAoa, sequence, s₆, readSequence, vector, body, readVector, -, valid, rfl⟩ := parsed
  rw [udp2WritePacket, if_neg valid, parseHeader_takesOff readHeader,
    section_takesOff parseAck_takesOff readAck,
    section_takesOff readU8_takesOff readOverhead,
    section_takesOff parseDelayAckInfo_takesOff readDelay,
    section_takesOff readU16Le_takesOff readAoa,
    section_takesOff readU16Le_takesOff readSequence,
    section_takesOff parseAckVectorPayload_takesOff readVector]
  simp only [List.append_assoc]

/-- Writing and parsing are inverse to each other: every valid packet is written and parses to
    itself, and every datagram that parses is written from what it parses to. -/
theorem write_parse_inverse :
    (∀ packet : Udp2Packet, udp2ValidatePacket packet = true →
      ∃ bytes, udp2WritePacket packet = .ok bytes ∧ udp2ParsePacket bytes = .ok packet) ∧
    (∀ (data : Bytes) (packet : Udp2Packet), udp2ParsePacket data = .ok packet →
      udp2WritePacket packet = .ok data) := by
  constructor
  · intro packet valid
    have written : ∃ bytes, udp2WritePacket packet = .ok bytes := by
      rw [udp2WritePacket, if_neg (by simp [valid])]
      exact ⟨_, rfl⟩
    obtain ⟨bytes, wrote⟩ := written
    exact ⟨bytes, wrote, parse_write wrote⟩
  · intro data packet parsed
    exact write_parse parsed

end LibRdp.Transport
