import LibRdp.Server.StaticChannels

/-! # Messages on a static channel of a server peer

The chunks of a message, fed to a channel between two messages, are collected and the
message is handed on with the last of them. The chunks that the server itself sends
are such a cut.
-/

namespace LibRdp.Server

open Machine Channels

section Receive

variable {π : Type} {dispatch : StaticDispatch π} {peer : StaticPeer π} {index : Nat}
  {channelId : UInt16} {channel : StaticChannel} {length : UInt32} {data chunk : Bytes}

def StaticPeer.Has (peer : StaticPeer π) (index : Nat) (channel : StaticChannel) : Prop :=
  index < peer.advertisedChannelCount ∧ peer.staticChannels[index]? = some channel

theorem receiveStaticMessage_has (has : peer.Has index channel) (data : Bytes) :
    ∃ handled peer', handleStaticMessage dispatch peer.rest index channelId channel data =
        .ok handled ∧
      receiveStaticMessage dispatch peer index channelId data =
        .ok ((handled.status, handled.delivered), peer') ∧ peer'.Has index handled.channel := by
  obtain ⟨inside, held⟩ := has
  obtain ⟨handled, done, _⟩ := @handleStaticMessage_cases π dispatch peer.rest index channelId
    channel data
  refine ⟨handled, { peer with
    staticChannels := peer.staticChannels.set index handled.channel, rest := handled.rest },
    done, ?_, inside, ?_⟩
  · simp only [receiveStaticMessage, if_neg (Nat.not_le.mpr inside), held, done, ok_bind,
      pure_eq_ok]
  · have within : index < peer.staticChannels.length := (List.getElem?_eq_some_iff.mp held).1
    exact List.getElem?_set_self within

theorem receiveStaticMessage_outcome (has : peer.Has index channel) {packet : VirtualChannelPacket}
    (parsed : virtualChannelParsePacket data = .ok packet) :
    ∃ status delivered channel' peer',
      receiveStaticMessage dispatch peer index channelId data = .ok ((status, delivered), peer') ∧
      peer'.Has index channel' ∧
      StaticOutcome channel data.length packet status delivered channel' := by
  obtain ⟨handled, peer', done, received, has'⟩ :=
    @receiveStaticMessage_has π dispatch peer index channelId channel has data
  obtain ⟨handled', done', cases'⟩ := @handleStaticMessage_cases π dispatch peer.rest index channelId
    channel data
  cases done.symm.trans done'
  obtain ⟨⟨stop, failed⟩, _⟩ | ⟨packet', parsed', outcome⟩ := cases'
  · rw [parsed] at failed
    cases failed
  · cases parsed.symm.trans parsed'
    exact ⟨_, _, _, peer', received, has', outcome⟩

def collecting (length : UInt32) (data : Bytes) : StaticChannel :=
  { fragment := data, fragmentExpected := length, fragmenting := true }

theorem receiveStatic_whole (has : peer.Has index channel) (idle : channel.fragmenting = false)
    (small : length.toNat ≤ staticMessageMax) (sized : data.length = chunk.length + 8)
    (parsed : virtualChannelParsePacket data =
      .ok { length, flags := flagFirst ||| flagLast, payload := chunk }) :
    ∃ status peer', receiveStaticMessage dispatch peer index channelId data =
      .ok ((status, some chunk), peer') := by
  have whole : (flagFirst ||| flagLast) &&& (flagFirst ||| flagLast) = flagFirst ||| flagLast := by
    decide
  obtain ⟨first, last⟩ := flags_whole
  have fits : channel.Fits data.length { length, flags := flagFirst ||| flagLast, payload := chunk } :=
    ⟨sized.symm, small, .inl ⟨whole, idle⟩⟩
  obtain ⟨status, delivered, channel', peer', received, _, outcome⟩ :=
    @receiveStaticMessage_outcome π dispatch peer index channelId channel data has _ parsed
  cases outcome with
  | refused misfit => exact absurd fits misfit
  | whole => exact ⟨status, peer', received⟩
  | started _ more => exact absurd last more
  | extended next | complete next => exact absurd first next

theorem receiveStatic_first (has : peer.Has index channel) (idle : channel.fragmenting = false)
    (small : length.toNat ≤ staticMessageMax) (sized : data.length = chunk.length + 8)
    (some : chunk ≠ []) (less : chunk.length < length.toNat)
    (parsed : virtualChannelParsePacket data = .ok { length, flags := flagFirst, payload := chunk }) :
    ∃ peer', receiveStaticMessage dispatch peer index channelId data = .ok ((.ok, none), peer') ∧
      peer'.Has index (collecting length chunk) := by
  obtain ⟨first, more, partly⟩ := flags_first
  have fits : channel.Fits data.length { length, flags := flagFirst, payload := chunk } :=
    ⟨sized.symm, small, .inr (.inl ⟨first, more, idle, List.length_pos_iff.mpr some, less⟩)⟩
  obtain ⟨status, delivered, channel', peer', received, has', outcome⟩ :=
    @receiveStaticMessage_outcome π dispatch peer index channelId channel data has _ parsed
  cases outcome with
  | refused misfit => exact absurd fits misfit
  | whole whole => exact absurd whole partly
  | started => exact ⟨peer', received, has'⟩
  | extended next | complete next => exact absurd first next

theorem receiveStatic_middle {collected : Bytes} (has : peer.Has index (collecting length collected))
    (small : length.toNat ≤ staticMessageMax) (sized : data.length = chunk.length + 8)
    (some : chunk ≠ []) (less : collected.length + chunk.length < length.toNat)
    (parsed : virtualChannelParsePacket data = .ok { length, flags := 0, payload := chunk }) :
    ∃ peer', receiveStaticMessage dispatch peer index channelId data = .ok ((.ok, none), peer') ∧
      peer'.Has index (collecting length (collected ++ chunk)) := by
  obtain ⟨next, more, partly⟩ := flags_middle
  have fits : (collecting length collected).Fits data.length { length, flags := 0, payload := chunk } :=
    ⟨sized.symm, small, .inr (.inr ⟨next, rfl, rfl, List.length_pos_iff.mpr some, by
      split
      · exact absurd ‹_› more
      · exact less⟩)⟩
  obtain ⟨status, delivered, channel', peer', received, has', outcome⟩ :=
    @receiveStaticMessage_outcome π dispatch peer index channelId _ data has _ parsed
  cases outcome with
  | refused misfit => exact absurd fits misfit
  | whole whole => exact absurd whole partly
  | started first => exact absurd first next
  | extended => exact ⟨peer', received, has'⟩
  | complete _ last => exact absurd last more

theorem receiveStatic_last {collected : Bytes} (has : peer.Has index (collecting length collected))
    (small : length.toNat ≤ staticMessageMax) (sized : data.length = chunk.length + 8)
    (some : chunk ≠ []) (exactly : collected.length + chunk.length = length.toNat)
    (parsed : virtualChannelParsePacket data = .ok { length, flags := flagLast, payload := chunk }) :
    ∃ status peer', receiveStaticMessage dispatch peer index channelId data =
      .ok ((status, Option.some (collected ++ chunk)), peer') := by
  obtain ⟨next, last, partly⟩ := flags_last
  have fits : (collecting length collected).Fits data.length
      { length, flags := flagLast, payload := chunk } :=
    ⟨sized.symm, small, .inr (.inr ⟨next, rfl, rfl, List.length_pos_iff.mpr some, by
      split
      · exact exactly
      · exact absurd last ‹_›⟩)⟩
  obtain ⟨status, delivered, channel', peer', received, has', outcome⟩ :=
    @receiveStaticMessage_outcome π dispatch peer index channelId _ data has _ parsed
  cases outcome with
  | refused misfit => exact absurd fits misfit
  | whole whole => exact absurd whole partly
  | started first => exact absurd first next
  | extended _ more => exact absurd last more
  | complete => exact ⟨status, peer', received⟩

end Receive

/-- Chunks the receiver takes: one empty chunk for the empty message, otherwise none is empty. -/
def WellCut (chunks : List Bytes) : Prop :=
  chunks = [[]] ∨ chunks ≠ [] ∧ ∀ chunk ∈ chunks, chunk ≠ []

theorem fragmentWire_length (totalLen : Nat) (fragment : Bytes × UInt32) :
    (fragmentWire totalLen fragment).length = fragment.1.length + 8 := by
  simp only [fragmentWire, List.length_append, u32LeBytes_length]
  omega

section Cut

variable {π : Type} {dispatch : StaticDispatch π} {peer : StaticPeer π} {index : Nat}
  {channelId : UInt16} {channel : StaticChannel} {chunks : List Bytes}

theorem receiveStatic_chunks (has : peer.Has index channel) (idle : channel.fragmenting = false)
    {first last : Bytes} {middle : List Bytes} (cut : chunks = first :: (middle ++ [last]))
    (some : ∀ chunk ∈ chunks, chunk ≠ []) (small : chunks.flatten.length ≤ staticMessageMax) :
    ∃ answer peer', run (fun peer data => receiveStaticMessage dispatch peer index channelId data)
        peer ((fragments chunks).map (fragmentWire chunks.flatten.length)) =
      .ok (List.replicate (middle.length + 1) (.ok, none) ++ [answer], peer') ∧
      answer.2 = Option.some chunks.flatten := by
  have short : chunks.flatten.length < 2 ^ 32 :=
    Nat.lt_of_le_of_lt small (by decide)
  have parsed {chunk flags} := @parsePacket_fragmentWire chunks chunk flags short
  obtain ⟨total, same⟩ : ∃ total, total = UInt32.ofNat chunks.flatten.length := ⟨_, rfl⟩
  have size : total.toNat = chunks.flatten.length := by
    rw [same, UInt32.toNat_ofNat', Nat.mod_eq_of_lt short]
  have bounded : total.toNat ≤ staticMessageMax := size ▸ small
  have whole : chunks.flatten = first ++ middle.flatten ++ last := by simp [cut]
  have lastPos : 0 < last.length := List.length_pos_iff.mpr (some last (by simp [cut]))
  have parts := fragments_append first middle last
  rw [← cut] at parts
  rw [← same] at parsed
  have inside {chunk} (held : chunk ∈ middle) : (chunk, 0) ∈ fragments chunks := by
    rw [parts]
    exact .tail _ (List.mem_append_left _ (List.mem_map_of_mem held))
  have pieces := @run_pieces _ _ _
    (fun peer data => receiveStaticMessage dispatch peer index channelId data) Bytes
    (fun done peer => peer.Has index (collecting total (first ++ done.flatten)))
    (fun answer _ => answer.2 = Option.some chunks.flatten)
    (fun chunk => fragmentWire chunks.flatten.length (chunk, 0))
    (fragmentWire chunks.flatten.length (first, flagFirst))
    (fragmentWire chunks.flatten.length (last, flagLast)) (.ok, none) middle peer
  have start : ∃ peer', receiveStaticMessage dispatch peer index channelId
        (fragmentWire chunks.flatten.length (first, flagFirst)) = .ok ((.ok, none), peer') ∧
      peer'.Has index (collecting total (first ++ [].flatten)) := by
    rw [List.flatten_nil, List.append_nil]
    have less : first.length < total.toNat := by
      rw [size, whole]
      simp only [List.length_append]
      omega
    exact receiveStatic_first has idle bounded (fragmentWire_length _ _) (some first (by simp [cut]))
      less (parsed (parts ▸ List.mem_cons_self))
  obtain ⟨answer, peer', ran, delivered⟩ := pieces start
    (by
      intro done chunk todo peer left held
      have member : chunk ∈ middle := left ▸ List.mem_append_right done List.mem_cons_self
      have less : (first ++ done.flatten).length + chunk.length < total.toNat := by
        rw [size, whole, ← left]
        simp only [List.flatten_append, List.flatten_cons, List.length_append]
        omega
      rw [List.flatten_append, List.flatten_singleton, ← List.append_assoc]
      exact receiveStatic_middle held bounded (fragmentWire_length _ _)
        (some chunk (by simp [cut, member])) less (parsed (inside member)))
    (by
      intro peer held
      have exactly : (first ++ middle.flatten).length + last.length = total.toNat := by
        rw [size, whole]
        simp only [List.length_append]
      obtain ⟨status, peer', received⟩ := @receiveStatic_last π dispatch peer index channelId total _
        last _ held bounded (fragmentWire_length _ _) (some last (by simp [cut])) exactly
        (parsed (by rw [parts]; simp))
      exact ⟨_, peer', received, by rw [whole]⟩)
  refine ⟨answer, peer', ?_, delivered⟩
  rw [parts, List.map_cons, List.map_append, List.map_map]
  exact ran

theorem receiveStatic_message (has : peer.Has index channel) (idle : channel.fragmenting = false)
    (cut : WellCut chunks) (small : chunks.flatten.length ≤ staticMessageMax) :
    ∃ status peer', run (fun peer data => receiveStaticMessage dispatch peer index channelId data)
        peer ((fragments chunks).map (fragmentWire chunks.flatten.length)) =
      .ok (List.replicate (chunks.length - 1) (.ok, none) ++ [(status, some chunks.flatten)],
        peer') := by
  have single (chunk : Bytes) (small : chunk.length ≤ staticMessageMax) :
      ∃ status peer', run (fun peer data => receiveStaticMessage dispatch peer index channelId data)
        peer [fragmentWire chunk.length (chunk, flagFirst ||| flagLast)] =
          .ok ([(status, some chunk)], peer') := by
    have short : [chunk].flatten.length < 2 ^ 32 := by
      rw [List.flatten_singleton]
      exact Nat.lt_of_le_of_lt small (by decide)
    have bounded : (UInt32.ofNat [chunk].flatten.length).toNat ≤ staticMessageMax := by
      rw [UInt32.toNat_ofNat', Nat.mod_eq_of_lt short, List.flatten_singleton]
      exact small
    have parsed := parsePacket_fragmentWire short List.mem_cons_self
    rw [List.flatten_singleton] at parsed bounded
    obtain ⟨status, peer', received⟩ := receiveStatic_whole has idle bounded
      (fragmentWire_length _ _) parsed
    exact ⟨status, peer', run_singleton received⟩
  obtain rfl | ⟨_, some⟩ := cut
  · exact single [] small
  · cases chunks with
    | nil => contradiction
    | cons first rest =>
      obtain rfl | ⟨middle, last, rfl⟩ := List.eq_nil_or_concat rest
      · rw [List.flatten_singleton] at *
        exact single first small
      · rw [List.concat_eq_append] at *
        obtain ⟨⟨status, delivered⟩, peer', ran, rfl⟩ :=
          receiveStatic_chunks has idle rfl some small
        exact ⟨status, peer', by simpa using ran⟩

end Cut

def sentChunks : Nat → Bytes → List Bytes
  | 0, _ => []
  | fuel + 1, data =>
      if data.length > staticChannelChunkSize then
        data.take staticChannelChunkSize :: sentChunks fuel (data.drop staticChannelChunkSize)
      else [data]

theorem sentChunks_ne_nil (fuel : Nat) (data : Bytes) : sentChunks (fuel + 1) data ≠ [] := by
  unfold sentChunks
  split <;> exact List.cons_ne_nil _ _

variable {fuel offset : Nat} {data : Bytes}

theorem sentChunks_flatten (enough : data.length < fuel) :
    (sentChunks fuel data).flatten = data := by
  induction fuel generalizing data with
  | zero => omega
  | succ fuel ih =>
    unfold sentChunks
    split
    · rename_i long
      have size : 0 < staticChannelChunkSize := by decide
      rw [List.flatten_cons, ih (by rw [List.length_drop]; omega), List.take_append_drop]
    · exact List.flatten_singleton

theorem sentChunks_some {chunk : Bytes} (some : data ≠ []) (held : chunk ∈ sentChunks fuel data) :
    chunk ≠ [] := by
  induction fuel generalizing data with
  | zero => cases held
  | succ fuel ih =>
    unfold sentChunks at held
    split at held
    · rename_i long
      have size : 0 < staticChannelChunkSize := by decide
      cases held with
      | head =>
        apply List.length_pos_iff.mp
        rw [List.length_take]
        omega
      | tail _ held =>
        have left : data.drop staticChannelChunkSize ≠ [] := by
          apply List.length_pos_iff.mp
          rw [List.length_drop]
          omega
        exact ih left held
    · cases held with
      | head => exact some
      | tail _ held => cases held

theorem sentChunks_wellCut (data : Bytes) : WellCut (sentChunks (data.length + 1) data) := by
  by_cases empty : data = []
  · cases empty
    exact .inl rfl
  · exact .inr ⟨sentChunks_ne_nil _ _, fun chunk held => sentChunks_some empty held⟩

theorem writeFragment_chunk (small : data.length < 2 ^ 32) {chunk : Nat}
    (inside : offset + chunk ≤ data.length) :
    virtualChannelWriteFragment ((data.drop offset).take chunk) data.length
        (chunkFlags offset chunk data.length) =
      .ok (fragmentWire data.length
        ((data.drop offset).take chunk, chunkFlags offset chunk data.length)) := by
  have size : ((data.drop offset).take chunk).length = chunk := by
    rw [List.length_take, List.length_drop]
    omega
  unfold virtualChannelWriteFragment
  rw [if_neg (by omega), if_neg ?_]
  · rfl
  · intro ⟨both, partly⟩
    unfold chunkFlags at both
    by_cases first : offset = 0
    · by_cases last : offset + chunk = data.length
      · omega
      · rw [if_pos first, if_neg last] at both
        exact absurd both (by decide)
    · rw [if_neg first] at both
      split at both <;> exact absurd both (by decide)

theorem sendChunks_more (small : data.length < 2 ^ 32) {packets : List Bytes}
    (long : data.length - offset > staticChannelChunkSize)
    (later : sendChunks data fuel (offset + staticChannelChunkSize) = .ok packets) :
    sendChunks data (fuel + 1) offset =
      .ok (fragmentWire data.length ((data.drop offset).take staticChannelChunkSize,
        chunkFlags offset staticChannelChunkSize data.length) :: packets) := by
  have inside : offset + staticChannelChunkSize < data.length := by omega
  have wrote := writeFragment_chunk small (Nat.le_of_lt inside)
  simp only [sendChunks, if_pos long, wrote, ok_bind, if_pos inside, later, attempt_pure]

theorem sendChunks_end (small : data.length < 2 ^ 32) (inside : offset ≤ data.length)
    (short : ¬data.length - offset > staticChannelChunkSize) :
    sendChunks data (fuel + 1) offset =
      .ok [fragmentWire data.length
        (data.drop offset, chunkFlags offset (data.length - offset) data.length)] := by
  have whole : offset + (data.length - offset) = data.length := by omega
  have wrote := writeFragment_chunk small (Nat.le_of_eq whole)
  have all : (data.drop offset).take (data.length - offset) = data.drop offset :=
    List.take_of_length_le (Nat.le_of_eq List.length_drop)
  rw [all] at wrote
  simp only [sendChunks, if_neg short, all, wrote, ok_bind,
    if_neg (Nat.not_lt.mpr (Nat.le_of_eq whole.symm)), attempt_pure]

theorem sendChunks_later (small : data.length < 2 ^ 32) (begun : 0 < offset)
    (inside : offset < data.length) (enough : data.length - offset < fuel) :
    sendChunks data fuel offset =
      .ok ((laterFragments (sentChunks fuel (data.drop offset))).map (fragmentWire data.length)) := by
  induction fuel generalizing offset with
  | zero => omega
  | succ fuel ih =>
    have size : staticChannelChunkSize = 1600 := rfl
    unfold sentChunks
    rw [List.length_drop]
    by_cases long : data.length - offset > staticChannelChunkSize
    · have flags : chunkFlags offset staticChannelChunkSize data.length = 0 := by
        rw [chunkFlags, if_neg (by omega), if_neg (by omega)]
        rfl
      have more : sentChunks fuel ((data.drop offset).drop staticChannelChunkSize) ≠ [] := by
        obtain ⟨fuel, rfl⟩ : ∃ f, fuel = f + 1 := ⟨fuel - 1, by omega⟩
        exact sentChunks_ne_nil _ _
      rw [if_pos long, laterFragments_cons _ more, List.drop_drop,
        sendChunks_more small long (ih (by omega) (by omega) (by omega)), flags]
      rfl
    have flags : chunkFlags offset (data.length - offset) data.length = flagLast := by
      rw [chunkFlags, if_neg (by omega), if_pos (by omega)]
      rfl
    rw [if_neg long, sendChunks_end small (Nat.le_of_lt inside) long, flags]
    rfl

theorem sendChannelData_fragments (small : data.length ≤ staticMessageMax) :
    sendChannelData data = writeFragments (sentChunks (data.length + 1) data) := by
  have short : data.length < 2 ^ 32 := Nat.lt_of_le_of_lt small (by decide)
  have size : staticChannelChunkSize = 1600 := rfl
  have whole := sentChunks_flatten (Nat.lt_succ_self data.length)
  rw [writeFragments_ok (by rw [whole]; exact short), whole]
  unfold sendChannelData sentChunks
  rw [if_neg (Nat.not_lt.mpr small)]
  by_cases long : data.length > staticChannelChunkSize
  · have flags : chunkFlags 0 staticChannelChunkSize data.length = flagFirst := by
      rw [chunkFlags, if_pos rfl, if_neg (by omega)]
      rfl
    have more : sentChunks data.length (data.drop staticChannelChunkSize) ≠ [] := by
      obtain ⟨fuel, same⟩ : ∃ f, data.length = f + 1 := ⟨data.length - 1, by omega⟩
      rw [same]
      exact sentChunks_ne_nil _ _
    have later := sendChunks_later short (show 0 < 0 + staticChannelChunkSize by omega) (by omega)
      (show data.length - (0 + staticChannelChunkSize) < data.length by omega)
    rw [if_pos long, fragments_cons _ more, sendChunks_more short long later, flags, Nat.zero_add]
    rfl
  have flags : chunkFlags 0 data.length data.length = flagFirst ||| flagLast := by
    rw [chunkFlags, if_pos rfl, if_pos (by omega)]
  rw [if_neg long, sendChunks_end short (Nat.zero_le _) long, List.drop_zero, Nat.sub_zero, flags]
  rfl

def Delivers {π : Type} (dispatch : StaticDispatch π) (peer : StaticPeer π) (index : Nat)
    (channelId : UInt16) (packets : List Bytes) (message : Bytes) : Prop :=
  ∃ status peer',
    run (fun peer data => receiveStaticMessage dispatch peer index channelId data) peer packets =
      .ok (List.replicate (packets.length - 1) (.ok, none) ++ [(status, some message)], peer')

section Reach

variable {π : Type} {dispatch : StaticDispatch π} {peer : StaticPeer π} {index : Nat}
  {channelId : UInt16} {channel : StaticChannel}

theorem delivers_cut (has : peer.Has index channel) (idle : channel.fragmenting = false)
    {chunks : List Bytes} (cut : WellCut chunks) (small : chunks.flatten.length ≤ staticMessageMax) :
    ∃ packets, writeFragments chunks = .ok packets ∧
      Delivers dispatch peer index channelId packets chunks.flatten := by
  have short : chunks.flatten.length < 2 ^ 32 := Nat.lt_of_le_of_lt small (by decide)
  obtain ⟨status, peer', ran⟩ := receiveStatic_message has idle cut small
  refine ⟨_, writeFragments_ok short, status, peer', ?_⟩
  rw [List.length_map, fragments_length]
  exact ran

theorem delivers_sent (has : peer.Has index channel) (idle : channel.fragmenting = false)
    {message : Bytes} (small : message.length ≤ staticMessageMax) :
    ∃ packets, sendChannelData message = .ok packets ∧
      Delivers dispatch peer index channelId packets message := by
  have whole := sentChunks_flatten (Nat.lt_succ_self message.length)
  have delivered := @delivers_cut π dispatch peer index channelId channel has idle _
    (sentChunks_wellCut message) (by rw [whole]; exact small)
  rw [whole, ← sendChannelData_fragments small] at delivered
  exact delivered

theorem reachable_has {count : Nat} {rest : π} (few : count ≤ maxServerChannels)
    (reached : Reachable (staticStep dispatch) (staticPeerInit count rest) peer)
    (inside : index < count) : ∃ channel, peer.Has index channel ∧ channel.Sound := by
  obtain ⟨sized, counted⟩ := reachable_size reached
  have within : index < peer.staticChannels.length := by omega
  refine ⟨peer.staticChannels[index], ⟨by omega, List.getElem?_eq_getElem within⟩, ?_⟩
  exact reachable_sound reached _ (List.getElem_mem within)

end Reach

/-- In every reachable state some but not all of a message in progress is collected, and nothing
    otherwise; a packet that ends in an error leaves nothing in progress; and an idle channel
    hands on every message once and whole, from the packets the server would send for it as from
    those of any cut into non-empty chunks. -/
theorem static_reassembly {π : Type} {dispatch : StaticDispatch π} {count : Nat} {rest : π}
    (few : count ≤ maxServerChannels) {peer : StaticPeer π}
    (reached : Reachable (staticStep dispatch) (staticPeerInit count rest) peer) {index : Nat}
    (inside : index < count) (channelId : UInt16) :
    ∃ channel, peer.staticChannels[index]? = some channel ∧
      (channel.fragmenting = true → 0 < channel.fragment.length ∧
        channel.fragment.length < channel.fragmentExpected.toNat ∧
        channel.fragmentExpected.toNat ≤ staticMessageMax) ∧
      (channel.fragmenting = false → channel.fragment = []) ∧
      (∀ data, ∃ status delivered peer' channel',
        receiveStaticMessage dispatch peer index channelId data =
          .ok ((status, delivered), peer') ∧
        peer'.staticChannels[index]? = some channel' ∧
        (status ≠ .ok → channel'.fragmenting = false ∧ channel'.fragment = [])) ∧
      (channel.fragmenting = false → ∀ message : Bytes, message.length ≤ staticMessageMax →
        (∃ packets, sendChannelData message = .ok packets ∧
          Delivers dispatch peer index channelId packets message) ∧
        ∀ chunks : List Bytes, chunks.flatten = message → chunks ≠ [] →
          (∀ chunk ∈ chunks, chunk ≠ []) →
          ∃ packets, writeFragments chunks = .ok packets ∧
            Delivers dispatch peer index channelId packets message) := by
  obtain ⟨channel, has, sound⟩ := reachable_has few reached inside
  refine ⟨channel, has.2, sound.collecting, fun idle => (sound.idle idle).1, ?_, ?_⟩
  · intro data
    obtain ⟨handled, peer', done, received, has'⟩ := receiveStaticMessage_has has data
    exact ⟨_, _, peer', handled.channel, received, has'.2, (handleStaticMessage_sound sound done).2⟩
  · intro idle message small
    refine ⟨delivers_sent has idle small, ?_⟩
    intro chunks whole some each
    cases whole
    exact delivers_cut has idle (.inr ⟨some, each⟩) small

/-- A peer with one channel, in the middle of a message. -/
theorem static_reassembly_started :
    ∃ (peer : StaticPeer Unit) (channel : StaticChannel),
      Reachable (staticStep fun rest _ _ _ => (.ok, rest)) (staticPeerInit 1 ()) peer ∧
      peer.staticChannels[0]? = some channel ∧ channel.fragmenting = true ∧
      0 < channel.fragment.length ∧ channel.fragment.length < channel.fragmentExpected.toNat := by
  have reached := (@Reachable.init _ _ _ (staticStep fun rest _ _ _ => (.ok, rest))
    (staticPeerInit 1 ())).step (i := .message 0 1004 [3, 0, 0, 0, 1, 0, 0, 0, 7, 8]) rfl
  obtain ⟨channel, held, collecting, _⟩ :=
    static_reassembly (by decide) reached Nat.zero_lt_one 1004
  have fragmenting : channel.fragmenting = true := by
    cases held
    rfl
  exact ⟨_, channel, reached, held, fragmenting, (collecting fragmenting).1,
    (collecting fragmenting).2.1⟩

end LibRdp.Server
