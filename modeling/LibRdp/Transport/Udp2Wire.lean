import LibRdp.Machine.Effect
import LibRdp.Transport.UdpRoundTrip

/-! # UDP2 packets in their callers' buffers

Wrapping and unwrapping append to a buffer that may hold something already. A buffer that cannot
grow, or a datagram that does not fit its own prefix, leaves it as it is.
-/

namespace LibRdp.Transport

open Machine

structure Udp2Unwrapping where
  output : Bytes
  start : Option Udp2Prefix
  deriving Repr, DecidableEq

/-- `rdp_udp2_wrap_packet` with its buffer; `memory` says whether the buffer can grow. -/
def udp2WrapInto (memory : Bool) (packet : Bytes) (packetType : Nat) : Effect Stop Bytes Unit := do
  let wire ← .lift (udp2WrapPacket memory packet packetType)
  .modify (· ++ wire)

/-- `layout_len` of `rdp_udp2_unwrap_packet`: the bytes behind the prefix that are the packet. -/
def udp2LayoutLen (wire : Bytes) (start : Udp2Prefix) : Attempt Nat :=
  let first := wire.getD 0 0
  let inner := (wire.take 7).drop 1
  if 0 < start.shortPacketLength ∧ start.shortPacketLength < 7 then
    if wire.length ≠ 8 ∨ first ≠ 0 ∨ (inner.drop start.shortPacketLength).any (· ≠ 0) then
      refuse .protocolError
    else .ok start.shortPacketLength
  else if start.shortPacketLength = 0 ∧ wire.length = 8 ∧ first = 0 then
    if inner.any (· ≠ 0) then refuse .protocolError else .ok 0
  else .ok (wire.length - 1)

def udp2Layout (wire : Bytes) (layoutLen : Nat) : Bytes :=
  if layoutLen ≤ 6 then (wire.drop 1).take layoutLen
  else (wire.drop 1).take 6 ++ wire.getD 0 0 :: (wire.drop 8).take (layoutLen - 7)

/-- `rdp_udp2_unwrap_packet` with its buffer. -/
def udp2UnwrapInto (memory : Bool) (wire : Bytes) : Effect Stop Udp2Unwrapping Unit :=
  if wire.length ≤ 7 then .stop (.returned .invalidArgument)
  else do
    let start ← .lift (udp2ParsePrefix (wire.getD 7 0))
    .modify fun s => { s with start := some start }
    let layoutLen ← .lift (udp2LayoutLen wire start)
    let packet ← .lift (buffered memory (udp2Layout wire layoutLen))
    .modify fun s => { s with output := s.output ++ packet }

variable {wire : Bytes} {memory : Bool}

theorem layout_long (whole : ¬wire.length ≤ 7) :
    udp2Layout wire (wire.length - 1) =
      (wire.take 7).drop 1 ++ wire.getD 0 0 :: wire.drop 8 := by
  have rest : (wire.drop 8).take (wire.length - 1 - 7) = wire.drop 8 := by
    rw [Nat.sub_sub]
    exact List.take_of_length_le (Nat.le_of_eq List.length_drop)
  rw [udp2Layout, if_neg (by omega), List.drop_take, rest]

variable {start : Udp2Prefix} {packet : Bytes}

theorem layout_unwraps (whole : ¬wire.length ≤ 7)
    (parsed : udp2ParsePrefix (wire.getD 7 0) = .ok start) :
    udp2UnwrapPacket memory wire = (do
      let layoutLen ← udp2LayoutLen wire start
      let packet ← buffered memory (udp2Layout wire layoutLen)
      pure (packet, start)) := by
  rw [udp2UnwrapPacket, if_neg whole, parsed, ok_bind, udp2LayoutLen]
  dsimp only
  by_cases short : 0 < start.shortPacketLength ∧ start.shortPacketLength < 7
  · rw [if_pos short, if_pos short]
    split
    · rfl
    · rw [ok_bind, udp2Layout, if_pos (by omega), List.drop_take, List.take_take,
        Nat.min_eq_left (by omega)]
  rw [if_neg short, if_neg short]
  split
  · split
    · rfl
    · rw [ok_bind, udp2Layout, if_pos (Nat.zero_le 6), List.take_zero, buffered]
      simp
  · rw [ok_bind, layout_long whole]

theorem unwrapInto_ok (unwrapped : udp2UnwrapPacket memory wire = .ok (packet, start))
    (s : Udp2Unwrapping) :
    udp2UnwrapInto memory wire s =
      (.ok (), { output := s.output ++ packet, start := some start }) := by
  have whole : ¬wire.length ≤ 7 := by
    intro short
    rw [udp2UnwrapPacket, if_pos short] at unwrapped
    cases unwrapped
  cases parsed : udp2ParsePrefix (wire.getD 7 0) with
  | error stop =>
    rw [udp2UnwrapPacket, if_neg whole, parsed] at unwrapped
    cases unwrapped
  | ok start' =>
    rw [layout_unwraps whole parsed] at unwrapped
    obtain ⟨layoutLen, laid, unwrapped⟩ := bind_eq_ok.mp unwrapped
    obtain ⟨packet', held, unwrapped⟩ := bind_eq_ok.mp unwrapped
    cases unwrapped
    rw [udp2UnwrapInto, if_neg whole, parsed, Effect.lift_ok_bind, Effect.modify_bind, laid,
      Effect.lift_ok_bind, held, Effect.lift_ok_bind]
    rfl

theorem lift_keeps {α : Type} (x : Attempt α) (output : Bytes) :
    Effect.Holds (fun s : Udp2Unwrapping => s.output = output) (.lift x)
      (fun _ s => s.output = output) fun _ s => s.output = output :=
  .lift ⟨fun _ => id, fun _ => id⟩ (fun _ _ _ same => same) fun _ _ _ same => same

theorem unwrapInto_error {stop : Stop} {s s' : Udp2Unwrapping}
    (ran : udp2UnwrapInto memory wire s = (.error stop, s')) : s'.output = s.output := by
  have kept : Effect.Holds (fun s' : Udp2Unwrapping => s'.output = s.output)
      (udp2UnwrapInto memory wire) (fun _ _ => True) fun _ s' => s'.output = s.output := by
    unfold udp2UnwrapInto
    split
    · exact .stop fun _ same => same
    refine .bind (lift_keeps _ _) fun start => ?_
    have prefixed : Effect.Holds (fun s' : Udp2Unwrapping => s'.output = s.output)
        (.modify fun s => { s with start := some start }) (fun _ s' => s'.output = s.output)
        fun (_ : Stop) s' => s'.output = s.output := .modify fun _ same => same
    exact .bind prefixed fun _ => .bind (lift_keeps _ _) fun _ => .bind (lift_keeps _ _) fun _ =>
      .modify fun _ _ => trivial
  exact (kept s rfl).2 _ _ ran

theorem wrapPacket_ok {packetType : Nat} (known : Udp2PacketType packetType)
    (short : packet.length ≤ 65535) (some : packetType = udp2PacketTypeData → packet.length ≠ 0) :
    ∃ wire, udp2WrapPacket true packet packetType = .ok wire := by
  refine ⟨_, if_neg ?_⟩
  rintro (neither | long | ⟨data, none⟩)
  · exact known.elim neither.1 neither.2
  · omega
  · exact some data none

/-- A packet of either type is appended again, whatever the buffers hold; and where unwrapping
    fails nothing is appended. -/
theorem udp2_wire_lossless :
    (∀ (packetType : Nat) (packet : Bytes), Udp2PacketType packetType → packet.length ≤ 65535 →
      (packetType = udp2PacketTypeData → packet.length ≠ 0) →
      ∃ wire start, (∀ held, udp2WrapInto true packet packetType held = (.ok (), held ++ wire)) ∧
        start.packetType = packetType ∧
        ∀ s, udp2UnwrapInto true wire s =
          (.ok (), { output := s.output ++ packet, start := some start })) ∧
    ∀ (memory : Bool) (wire : Bytes) (stop : Stop) (s s' : Udp2Unwrapping),
      udp2UnwrapInto memory wire s = (.error stop, s') → s'.output = s.output := by
  refine ⟨?_, fun _ _ _ _ _ => unwrapInto_error⟩
  intro packetType packet known short some
  obtain ⟨wire, wrapped⟩ := wrapPacket_ok known short some
  obtain ⟨start, unwrapped, type⟩ := unwrap_wrap_packet wrapped
  refine ⟨wire, start, fun held => ?_, type, unwrapInto_ok unwrapped⟩
  rw [udp2WrapInto, wrapped]
  rfl

theorem udp2_wire_lossless_sample :
    ∃ wire start, (∀ held, udp2WrapInto true [1, 2, 3, 4, 5, 6] udp2PacketTypeDummy held =
        (.ok (), held ++ wire)) ∧
      start.packetType = udp2PacketTypeDummy ∧
      ∀ s, udp2UnwrapInto true wire s =
        (.ok (), { output := s.output ++ [1, 2, 3, 4, 5, 6], start := some start }) :=
  udp2_wire_lossless.1 udp2PacketTypeDummy [1, 2, 3, 4, 5, 6] (.inr rfl) (by decide) (by decide)

end LibRdp.Transport
