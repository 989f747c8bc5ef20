import LibRdp.Channels.DynamicChannel

/-! # Senders of dynamic channel messages

Both ends send a message that does not fit one PDU as a first PDU, which announces the
length of the whole, and data PDUs, each as full as the PDU size allows, and stop at the
first PDU that is not sent.
-/

namespace LibRdp.Channels

open Machine

/-- `rdp_dynamic_channel_data_pdu_header_size`. -/
def dataPduHeaderSize (channelIdBytes : Nat) : Nat :=
  if channelIdBytes ≠ 1 ∧ channelIdBytes ≠ 2 ∧ channelIdBytes ≠ 4 then 0 else 1 + channelIdBytes

/-- `rdp_dynamic_channel_data_first_pdu_header_size`. -/
def dataFirstPduHeaderSize (channelIdBytes totalLength : Nat) : Nat :=
  if channelIdBytes ≠ 1 ∧ channelIdBytes ≠ 2 ∧ channelIdBytes ≠ 4 then 0
  else 1 + channelIdBytes + lengthBytesOf totalLength

section Sending

variable {τ : Type} (send : τ → Bytes → Status × List Bytes × τ) (channelId : UInt32)
  (channelIdBytes priority : Nat)

def sendSingle (state : τ) (data : Bytes) : Status × List Bytes × τ :=
  match writeDataEx channelId channelIdBytes priority data with
  | .error _ => (.invalidArgument, [], state)
  | .ok packet => send state packet

/-- The loop of the senders: data PDUs of at most `capacity` bytes. -/
def sendDataPdus {capacity : Nat} (some : 0 < capacity) (state : τ) (data : Bytes) :
    Status × List Bytes × τ :=
  if data.length = 0 then (.ok, [], state)
  else
    match sendSingle send channelId channelIdBytes priority state (data.take capacity) with
    | (.ok, sent, state) =>
        let (status, later, state) := sendDataPdus some state (data.drop capacity)
        (status, sent ++ later, state)
    | failed => failed
termination_by data.length

/-- A message in a first PDU of at most `first` bytes and data PDUs. -/
def sendInPieces (first : Nat) {capacity : Nat} (some : 0 < capacity) (state : τ) (data : Bytes) :
    Status × List Bytes × τ :=
  match writeDataFirstEx channelId channelIdBytes priority (UInt32.ofNat data.length)
      (data.take first) with
  | .error _ => (.invalidArgument, [], state)
  | .ok packet =>
      match send state packet with
      | (.ok, sent, state) =>
          let (status, later, state) :=
            sendDataPdus send channelId channelIdBytes priority some state (data.drop first)
          (status, sent ++ later, state)
      | failed => failed

end Sending

inductive Sends (channelId : UInt32) (message : Bytes) : List Bytes → Prop where
  | single (reads : ReadsPiece channelId wire (.more message)) : Sends channelId message [wire]
  | pieces (cuts : Cuts (ReadsPiece channelId) message first pieces wires) (some : first ≠ []) :
      Sends channelId message wires

variable {channelId : UInt32} {message first : Bytes} {pieces wires : List Bytes}

theorem cuts_own (cuts : Cuts (ReadsPiece channelId) message first pieces wires) :
    ∀ wire ∈ wires, ofChannel channelId wire = some wire := by
  intro wire isWire
  obtain ⟨piece, reads⟩ := cuts.reads_all wire isWire
  exact reads.own

theorem filterMap_cuts_own (cuts : Cuts (ReadsPiece channelId) message first pieces wires) :
    wires.filterMap (ofChannel channelId) = wires := by
  rw [List.filterMap_congr (cuts_own cuts), List.filterMap_some]

/-- In the states of `good` a PDU within the size limit is sent. -/
def TakesPdus {τ : Type} (good : τ → Prop) (send : τ → Bytes → Status × List Bytes × τ) : Prop :=
  ∀ state packet, good state → packet.length ≤ maxPduSize →
    ∃ state', send state packet = (.ok, [packet], state') ∧ good state'

section Sent

variable {τ : Type} {good : τ → Prop} {send : τ → Bytes → Status × List Bytes × τ}
  {channelId : UInt32} {channelIdBytes priority capacity : Nat} {state : τ} {data : Bytes}

theorem sendSingle_ok (takes : TakesPdus good send) (fits : NumberFits channelId channelIdBytes)
    (small : priority ≤ 3) (sized : 1 + channelIdBytes + data.length ≤ maxPduSize)
    (start : good state) :
    ∃ wire state', sendSingle send channelId channelIdBytes priority state data =
        (.ok, [wire], state') ∧
      ReadsPiece channelId wire (.more data) ∧ wire.length ≤ maxPduSize ∧ good state' := by
  obtain ⟨wire, wrote, size, parsed⟩ := writeDataEx_ok fits small data
  have bounded : wire.length ≤ maxPduSize := by omega
  obtain ⟨state', sent, next⟩ := takes state wire start bounded
  refine ⟨wire, state', ?_, .more parsed, bounded, next⟩
  simp only [sendSingle, wrote, sent]

theorem sendDataPdus_ok (takes : TakesPdus good send) (fits : NumberFits channelId channelIdBytes)
    (small : priority ≤ 3) (some : 0 < capacity) (sized : 1 + channelIdBytes + capacity ≤ maxPduSize)
    (start : good state) :
    ∃ wires pieces state', sendDataPdus send channelId channelIdBytes priority some state data =
        (.ok, wires, state') ∧
      pieces.flatten = data ∧ (∀ piece ∈ pieces, piece ≠ []) ∧
      List.Forall₂ (fun wire piece => ReadsPiece channelId wire (.more piece)) wires pieces ∧
      ∀ wire ∈ wires, wire.length ≤ maxPduSize := by
  induction length : data.length using Nat.strongRecOn generalizing data state with
  | ind n ih =>
    unfold sendDataPdus
    by_cases empty : data.length = 0
    · refine ⟨[], [], state, if_pos empty, ?_, nofun, .nil, nofun⟩
      exact (List.length_eq_zero_iff.mp empty).symm
    have taken : (data.take capacity).length ≤ capacity := List.length_take_le ..
    obtain ⟨wire, state', sent, reads, bounded, next⟩ := @sendSingle_ok _ _ _ _ _ _ state
      (data.take capacity) takes fits small (by omega) start
    have less : (data.drop capacity).length < n := by
      rw [List.length_drop]
      omega
    obtain ⟨wires, pieces, state'', loop, whole, nonempty, encoded, sizes⟩ :=
      ih _ less next rfl
    refine ⟨wire :: wires, data.take capacity :: pieces, state'', ?_, ?_, ?_, .cons reads encoded,
      ?_⟩
    · simp only [if_neg empty, sent, loop, List.singleton_append]
    · rw [List.flatten_cons, whole, List.take_append_drop]
    · refine List.forall_mem_cons.mpr ⟨?_, nonempty⟩
      intro none
      have taken := congrArg List.length none
      rw [List.length_take, List.length_nil] at taken
      omega
    · exact List.forall_mem_cons.mpr ⟨bounded, sizes⟩

theorem sendInPieces_ok {first : Nat} (takes : TakesPdus good send)
    (fits : NumberFits channelId channelIdBytes) (small : priority ≤ 3) (some : 0 < capacity)
    (sized : 1 + channelIdBytes + capacity ≤ maxPduSize) (length : data.length < 2 ^ 32)
    (nonempty : data ≠ []) (firstSome : 0 < first)
    (firstSized : 1 + channelIdBytes + numberWidth data.length + first ≤ maxPduSize)
    (start : good state) :
    ∃ wires state', sendInPieces send channelId channelIdBytes priority first some state data =
        (.ok, wires, state') ∧
      Sends channelId data wires ∧ ∀ wire ∈ wires, wire.length ≤ maxPduSize := by
  have positive := List.length_pos_iff.mpr nonempty
  have total : (UInt32.ofNat data.length).toNat = data.length := by
    rw [UInt32.toNat_ofNat', Nat.mod_eq_of_lt length]
  have taken : (data.take first).length = min first data.length := List.length_take ..
  obtain ⟨wire, wrote, size, parsed⟩ := @writeDataFirstEx_ok channelId channelIdBytes priority fits
    small (UInt32.ofNat data.length) (data.take first) (by omega) (by omega) (by rw [total]; omega)
  have bounded : wire.length ≤ maxPduSize := by
    rw [total] at size
    omega
  obtain ⟨state', sent, next⟩ := takes state wire start bounded
  obtain ⟨wires, pieces, state'', loop, whole, each, encoded, sizes⟩ :=
    @sendDataPdus_ok _ _ _ _ _ _ _ state' (data.drop first) takes fits small some sized next
  have starts : ReadsPiece channelId wire (.first data.length (data.take first)) := by
    have reads := ReadsPiece.first parsed
    rw [total] at reads
    exact reads
  refine ⟨wire :: wires, state'', ?_, .pieces
    { whole := by rw [whole, List.take_append_drop]
      nonempty := each
      encoded := ⟨wire, wires, rfl, starts, encoded⟩ } ?_, List.forall_mem_cons.mpr ⟨bounded, sizes⟩⟩
  · simp only [sendInPieces, wrote, sent, loop, List.singleton_append]
  · intro none
    rw [none, List.length_nil] at taken
    omega

end Sent

end LibRdp.Channels
