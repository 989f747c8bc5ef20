import LibRdp.Machine.Component
import LibRdp.Client.StaticChannels

/-! # Messages on a static channel of a client session

A channel's entry moves only with the packets of its channel. Fed with the packets
of one message it collects the chunks and publishes the message with the last one,
whatever it held before and whatever arrives on other channels meanwhile.
-/

namespace LibRdp.Client

open Machine Channels

/-- `receiveStaticPacket` as one entry sees it, on a channel whose messages nobody validates. -/
def receiveEntry (limit : UInt32) (entry : StaticChannel) (data : Bytes) :
    Exec ((Status × Option ChannelData) × StaticChannel) :=
  match virtualChannelParsePacket data with
  | .error (.returned status) => pure ((status, none), entry)
  | .error (.fault fault) => .error fault
  | .ok packet => do
      let handled ← handleStaticChannel (fun shared _ _ => (.ok, shared)) limit
        { limitsRejected := 0, multiparty := () } entry packet
      pure ((handled.status, handled.event), handled.entry)

section Interleaving

variable {μ : Type} {dispatch : MultipartyDispatch μ} {shared : Shared μ} {limit : UInt32}
  {entry : StaticChannel} {packet : VirtualChannelPacket}

theorem validate_plain (plain : entry.name ≠ multipartyChannelName) (data : Bytes) :
    validate dispatch shared entry data = (.ok, shared) :=
  if_neg plain

theorem completeStaticChannel_plain (plain : entry.name ≠ multipartyChannelName) :
    completeStaticChannel dispatch shared entry =
      if entry.fragment.length ≠ entry.fragmentExpected.toNat then
        { status := .protocolError, entry, shared }
      else { status := .ok, event := some (channelPayload entry entry.fragment),
             entry := entry.discarded, shared } := by
  unfold completeStaticChannel
  split
  · rfl
  · rw [validate_plain plain]
    rfl

theorem handleStaticChannel_plain (plain : entry.name ≠ multipartyChannelName) :
    ∃ after, handleStaticChannel dispatch limit shared entry packet =
      (handleStaticChannel (fun shared _ _ => (.ok, shared)) limit
        { limitsRejected := 0, multiparty := () } entry packet).map fun handled =>
          { status := handled.status, event := handled.event, entry := handled.entry,
            shared := after } := by
  unfold handleStaticChannel
  split
  · exact ⟨_, rfl⟩
  refine ⟨shared, ?_⟩
  split
  · have named : entry.discarded.name ≠ multipartyChannelName := plain
    simp only [validate_plain named]
    rfl
  split
  · rfl
  have named : (if packet.first then entry.started packet.length else entry).name ≠
      multipartyChannelName := by
    split <;> exact plain
  simp only [StaticChannel.overruns_eq, ok_bind]
  generalize (if packet.first then entry.started packet.length else entry) = current at named ⊢
  split
  · rfl
  split
  · rw [completeStaticChannel_plain, completeStaticChannel_plain]
    · split <;> rfl
    · exact named
    · exact named
  · rfl

def packetsTo (channelId : UInt16) : UInt16 × Bytes → Option Bytes :=
  fun (id, data) => if id = channelId then some data else none

def entryOf (channelId : UInt16) (session : StaticSession μ) : StaticChannel :=
  ((findStaticChannel session channelId).map Prod.snd).getD {}

/-- The channel is configured, under a name whose messages nobody validates. -/
def Plain (channelId : UInt16) (limit : UInt32) (session : StaticSession μ) : Prop :=
  session.channelBufferBytes = limit ∧ ∃ index entry,
    findStaticChannel session channelId = some (index, entry) ∧
      entry.name ≠ multipartyChannelName

theorem StaticOutcome.same_channel {entry' : StaticChannel} {status : Status}
    {event : Option ChannelData} (outcome : StaticOutcome limit entry packet status event entry') :
    entry'.channelId = entry.channelId ∧ entry'.active = entry.active ∧ entry'.name = entry.name := by
  cases outcome <;> exact ⟨rfl, rfl, rfl⟩

variable {session session' : StaticSession μ} {channelId other : UInt16} {index : Nat}
  {entry' : StaticChannel} {after : Shared μ}

theorem findStaticChannel_updated (found : findStaticChannel session channelId = some (index, entry))
    (same : entry'.answers channelId = true) :
    findStaticChannel { session with
      shared := after, staticChannels := session.staticChannels.set index entry' } channelId =
        some (index, entry') := by
  unfold findStaticChannel at *
  split
  · rw [if_pos ‹_›] at found
    cases found
  rw [if_neg ‹_›] at found
  rw [List.take_set]
  exact Table.lookup_set_found found same

theorem findStaticChannel_other (found : findStaticChannel session other = some (index, entry))
    (same : entry'.channelId = entry.channelId) (differs : other ≠ channelId) :
    findStaticChannel { session with
      shared := after, staticChannels := session.staticChannels.set index entry' } channelId =
        findStaticChannel session channelId := by
  obtain ⟨held, _, named⟩ := findStaticChannel_some found
  have before : entry.answers channelId = false := by
    simp [StaticChannel.answers, named, differs]
  have later : entry'.answers channelId = false := by
    simp [StaticChannel.answers, same, named, differs]
  unfold findStaticChannel
  split
  · rfl
  · rw [List.take_set]
    exact Table.lookup_set_unseen held before later

theorem receiveStaticPacket_total (session : StaticSession μ) (channelId : UInt16) (data : Bytes) :
    ∃ answer session', receiveStaticPacket dispatch session channelId data =
      .ok (answer, session') := by
  unfold receiveStaticPacket
  split
  · exact ⟨_, _, rfl⟩
  split
  · exact ⟨_, _, rfl⟩
  · rename_i failed
    cases parsePacket_error failed
  · rename_i entry _ _ packet parsed
    obtain ⟨handled, done, _⟩ := @handleStaticChannel_outcome μ dispatch session.shared
      session.channelBufferBytes entry packet (parsePacket_bounds parsed).1
    rw [done]
    exact ⟨_, _, rfl⟩

theorem entryOf_found (found : findStaticChannel session channelId = some (index, entry)) :
    entryOf channelId session = entry := by
  simp only [entryOf, found, Option.map_some, Option.getD_some]

variable {answer : Status × Option ChannelData}

theorem entryOf_other {data : Bytes} (differs : other ≠ channelId)
    (received : receiveStaticPacket dispatch session other data = .ok (answer, session')) :
    session'.channelBufferBytes = session.channelBufferBytes ∧
      findStaticChannel session' channelId = findStaticChannel session channelId := by
  obtain rfl | ⟨index, entry, packet, entry', shared, found, _, outcome, rfl⟩ :=
    receiveStaticPacket_cases received
  · exact ⟨rfl, rfl⟩
  · exact ⟨rfl, findStaticChannel_other found outcome.same_channel.1 differs⟩

/-- A channel's own packets move its entry as `receiveEntry` does. -/
theorem receiveEntry_moves {data : Bytes}
    (found : findStaticChannel session channelId = some (index, entry))
    (plain : entry.name ≠ multipartyChannelName)
    (received : receiveStaticPacket dispatch session channelId data = .ok (answer, session')) :
    ∃ entry', receiveEntry session.channelBufferBytes entry data = .ok (answer, entry') ∧
      session'.channelBufferBytes = session.channelBufferBytes ∧
      findStaticChannel session' channelId = some (index, entry') ∧
      entry'.name ≠ multipartyChannelName := by
  unfold receiveStaticPacket at received
  unfold receiveEntry
  rw [found] at received
  simp only at received
  cases parsed : virtualChannelParsePacket data with
  | error stop =>
    rw [parsed] at received
    cases stop with
    | returned status =>
      cases received
      exact ⟨entry, rfl, rfl, found, plain⟩
    | fault fault => cases received
  | ok packet =>
    rw [parsed] at received
    obtain ⟨handled, done, outcome⟩ := @handleStaticChannel_outcome Unit
      (fun shared _ _ => (.ok, shared)) { limitsRejected := 0, multiparty := () }
      session.channelBufferBytes entry packet (parsePacket_bounds parsed).1
    obtain ⟨after, alike⟩ := @handleStaticChannel_plain μ dispatch session.shared
      session.channelBufferBytes entry packet plain
    simp only [alike, done] at received
    cases received
    obtain ⟨sameId, sameActive, sameName⟩ := outcome.same_channel
    obtain ⟨_, active, named⟩ := findStaticChannel_some found
    refine ⟨handled.entry, ?_, rfl, findStaticChannel_updated found ?_, ?_⟩
    · simp only [done, ok_bind, pure_eq_ok]
    · simp [StaticChannel.answers, sameId, sameActive, active, named]
    · rw [sameName]
      exact plain

theorem receiveEntry_component :
    Component (fun session (input : UInt16 × Bytes) =>
        receiveStaticPacket dispatch session input.1 input.2)
      (receiveEntry limit) (Plain channelId limit) (entryOf channelId) (packetsTo channelId) id where
  responds := by
    intro session holds ⟨other, data⟩
    obtain ⟨rfl, index, entry, found, plain⟩ := holds
    obtain ⟨answer, session', received⟩ := receiveStaticPacket_total session other data
    refine ⟨answer, session', received, ?_⟩
    by_cases own : other = channelId
    · cases own
      obtain ⟨entry', _, sameLimit, found', plain'⟩ := receiveEntry_moves found plain received
      exact ⟨sameLimit, index, entry', found', plain'⟩
    · obtain ⟨sameLimit, sameFound⟩ := entryOf_other own received
      exact ⟨sameLimit, index, entry, sameFound ▸ found, plain⟩
  moves := by
    intro session ⟨other, data⟩ answer session' data' holds own received
    obtain ⟨rfl, index, entry, found, plain⟩ := holds
    by_cases mine : other = channelId
    · simp only [packetsTo, mine, if_true, Option.some.injEq] at own
      cases own
      cases mine
      obtain ⟨entry', moved, _, found', _⟩ := receiveEntry_moves found plain received
      rw [entryOf_found found, entryOf_found found']
      exact moved
    · simp only [packetsTo, mine, if_false] at own
      cases own
  rests := by
    intro session ⟨other, data⟩ answer session' holds own received
    by_cases mine : other = channelId
    · simp only [packetsTo, mine, if_true] at own
      cases own
    · unfold entryOf
      rw [(entryOf_other mine received).2]

end Interleaving

def StaticChannel.collecting (entry : StaticChannel) (length : UInt32) (data : Bytes) :
    StaticChannel :=
  { entry with fragmenting := true, fragmentExpected := length, fragment := data }

section Messages

variable {limit length : UInt32} {entry : StaticChannel} {data wire chunk : Bytes}

theorem receiveEntry_outcome {packet : VirtualChannelPacket}
    (parsed : virtualChannelParsePacket wire = .ok packet) :
    ∃ status event entry', receiveEntry limit entry wire = .ok ((status, event), entry') ∧
      StaticOutcome limit entry packet status event entry' := by
  obtain ⟨handled, done, outcome⟩ := @handleStaticChannel_outcome Unit
    (fun shared _ _ => (.ok, shared)) { limitsRejected := 0, multiparty := () } limit entry packet
    (parsePacket_bounds parsed).1
  refine ⟨handled.status, handled.event, handled.entry, ?_, outcome⟩
  simp only [receiveEntry, parsed, done, ok_bind, pure_eq_ok]

theorem receiveEntry_whole (plain : entry.name ≠ multipartyChannelName) (within : length ≤ limit)
    (parsed : virtualChannelParsePacket wire =
      .ok { length, flags := flagFirst ||| flagLast, payload := chunk }) :
    receiveEntry limit entry wire =
      .ok ((.ok, some (channelPayload entry chunk)), entry.discarded) := by
  obtain ⟨status, event, entry', received, outcome⟩ :=
    @receiveEntry_outcome limit entry wire _ parsed
  obtain ⟨first, last⟩ := flags_whole
  cases outcome with
  | whole => exact received
  | overLimit exceeds => exact absurd within (UInt32.not_le.mpr exceeds)
  | wholeRejected _ _ multiparty => exact absurd multiparty plain
  | started _ _ more => exact absurd last more
  | unstarted _ next | overrun _ next | extended _ next | short _ next | rejected _ next
  | complete _ next => exact absurd first next

theorem receiveEntry_first (within : length ≤ limit)
    (parsed : virtualChannelParsePacket wire = .ok { length, flags := flagFirst, payload := chunk }) :
    receiveEntry limit entry wire = .ok ((.ok, none), entry.collecting length chunk) := by
  obtain ⟨status, event, entry', received, outcome⟩ :=
    @receiveEntry_outcome limit entry wire _ parsed
  obtain ⟨first, -, partly⟩ := flags_first
  cases outcome with
  | started => exact received
  | overLimit exceeds => exact absurd within (UInt32.not_le.mpr exceeds)
  | whole _ whole | wholeRejected _ whole => exact absurd whole partly
  | unstarted _ next | overrun _ next | extended _ next | short _ next | rejected _ next
  | complete _ next => exact absurd first next

theorem receiveEntry_middle (within : length ≤ limit)
    (fits : data.length + chunk.length ≤ length.toNat)
    (parsed : virtualChannelParsePacket wire = .ok { length, flags := 0, payload := chunk }) :
    receiveEntry limit (entry.collecting length data) wire =
      .ok ((.ok, none), entry.collecting length (data ++ chunk)) := by
  obtain ⟨status, event, entry', received, outcome⟩ :=
    @receiveEntry_outcome limit (entry.collecting length data) wire _ parsed
  obtain ⟨next, more, partly⟩ := flags_middle
  cases outcome with
  | extended => exact received
  | overLimit exceeds => exact absurd within (UInt32.not_le.mpr exceeds)
  | whole _ whole | wholeRejected _ whole => exact absurd whole partly
  | unstarted _ _ idle => cases idle
  | started _ first => exact absurd first next
  | overrun _ _ _ exceeds => exact absurd fits (Nat.not_le.mpr exceeds)
  | short _ _ last | rejected _ _ last | complete _ _ last => exact absurd last more

theorem receiveEntry_last (plain : entry.name ≠ multipartyChannelName) (within : length ≤ limit)
    (complete : data.length + chunk.length = length.toNat)
    (parsed : virtualChannelParsePacket wire = .ok { length, flags := flagLast, payload := chunk }) :
    receiveEntry limit (entry.collecting length data) wire =
      .ok ((.ok, some (channelPayload entry (data ++ chunk))), entry.discarded) := by
  obtain ⟨status, event, entry', received, outcome⟩ :=
    @receiveEntry_outcome limit (entry.collecting length data) wire _ parsed
  obtain ⟨next, last, partly⟩ := flags_last
  cases outcome with
  | complete => exact received
  | overLimit exceeds => exact absurd within (UInt32.not_le.mpr exceeds)
  | whole _ whole | wholeRejected _ whole => exact absurd whole partly
  | unstarted _ _ idle => cases idle
  | started _ first => exact absurd first next
  | overrun _ _ _ exceeds => exact absurd complete (Nat.ne_of_gt exceeds)
  | extended _ _ more => exact absurd last more
  | short _ _ _ _ less => exact absurd complete (Nat.ne_of_lt less)
  | rejected _ _ _ _ _ multiparty => exact absurd multiparty plain

theorem receiveEntry_chunks (plain : entry.name ≠ multipartyChannelName) {first last : Bytes}
    {middle chunks : List Bytes} (cut : chunks = first :: (middle ++ [last]))
    (fits : chunks.flatten.length ≤ limit.toNat) :
    run (receiveEntry limit) entry
        ((fragments chunks).map (fragmentWire chunks.flatten.length)) =
      .ok (List.replicate (middle.length + 1) (.ok, none) ++
        [(.ok, some (channelPayload entry chunks.flatten))], entry.discarded) := by
  have limitLt := limit.toNat_lt
  have small : chunks.flatten.length < 2 ^ 32 := by omega
  have parsed {chunk flags} := @parsePacket_fragmentWire chunks chunk flags small
  obtain ⟨total, same⟩ : ∃ total, total = UInt32.ofNat chunks.flatten.length := ⟨_, rfl⟩
  have size : total.toNat = chunks.flatten.length := by
    rw [same, UInt32.toNat_ofNat', Nat.mod_eq_of_lt small]
  have within : total ≤ limit := UInt32.le_iff_toNat_le.mpr (by omega)
  have whole : chunks.flatten = first ++ middle.flatten ++ last := by simp [cut]
  have parts := fragments_append first middle last
  rw [← cut] at parts
  rw [← same] at parsed
  have inside {chunk} (held : chunk ∈ middle) : (chunk, 0) ∈ fragments chunks := by
    rw [parts]
    exact .tail _ (List.mem_append_left _ (List.mem_map_of_mem held))
  have pieces := @run_pieces _ _ _ (receiveEntry limit) Bytes
    (fun done e => e = entry.collecting total (first ++ done.flatten))
    (fun answer e => answer = (.ok, some (channelPayload entry chunks.flatten)) ∧
      e = entry.discarded)
    (fun chunk => fragmentWire chunks.flatten.length (chunk, 0))
    (fragmentWire chunks.flatten.length (first, flagFirst))
    (fragmentWire chunks.flatten.length (last, flagLast)) (.ok, none) middle entry
  obtain ⟨answer, e, ran, rfl, rfl⟩ := pieces
    (by
      refine ⟨_, receiveEntry_first within (parsed (parts ▸ List.mem_cons_self)), ?_⟩
      rw [List.flatten_nil, List.append_nil])
    (by
      intro done chunk todo e left collected
      have held : chunk ∈ middle := left ▸ List.mem_append_right done List.mem_cons_self
      have room : (first ++ done.flatten).length + chunk.length ≤ total.toNat := by
        rw [size, whole, ← left]
        simp only [List.flatten_append, List.flatten_cons, List.length_append]
        omega
      refine ⟨_, collected ▸ receiveEntry_middle within room (parsed (inside held)), ?_⟩
      simp [List.append_assoc])
    (by
      intro e collected
      have exactly : (first ++ middle.flatten).length + last.length = total.toNat := by
        rw [size, whole]
        simp only [List.length_append]
      refine ⟨_, _, collected ▸ receiveEntry_last plain within exactly
        (parsed (by rw [parts]; simp)), ?_, rfl⟩
      rw [whole])
  rw [parts, List.map_cons, List.map_append, List.map_map]
  exact ran

theorem receiveEntry_message (plain : entry.name ≠ multipartyChannelName) {chunks : List Bytes}
    (cut : chunks ≠ []) (fits : chunks.flatten.length ≤ limit.toNat) :
    run (receiveEntry limit) entry
        ((fragments chunks).map (fragmentWire chunks.flatten.length)) =
      .ok (List.replicate (chunks.length - 1) (.ok, none) ++
        [(.ok, some (channelPayload entry chunks.flatten))], entry.discarded) := by
  cases chunks with
  | nil => exact absurd rfl cut
  | cons first rest =>
    obtain rfl | ⟨middle, last, rfl⟩ := List.eq_nil_or_concat rest
    · have limitLt := limit.toNat_lt
      have small : [first].flatten.length < 2 ^ 32 := by omega
      have within : UInt32.ofNat [first].flatten.length ≤ limit := by
        rw [UInt32.le_iff_toNat_le, UInt32.toNat_ofNat', Nat.mod_eq_of_lt small]
        exact fits
      have parsed := parsePacket_fragmentWire small List.mem_cons_self
      rw [List.flatten_singleton] at parsed within ⊢
      exact run_singleton (receiveEntry_whole plain within parsed)
    · rw [List.concat_eq_append] at *
      simpa using receiveEntry_chunks plain rfl fits

end Messages

/-- A message within the limit, cut in any way, written and received among packets of other
    channels in any order, in any state of its entry, is delivered once, whole and at its last
    chunk. -/
theorem static_fragments_delivered {μ : Type} {dispatch : MultipartyDispatch μ}
    {session : StaticSession μ} {channelId : UInt16} {index : Nat} {entry : StaticChannel}
    (found : findStaticChannel session channelId = some (index, entry))
    (plain : entry.name ≠ multipartyChannelName) {chunks : List Bytes} (cut : chunks ≠ [])
    (fits : chunks.flatten.length ≤ session.channelBufferBytes.toNat) :
    ∃ wires, writeFragments chunks = .ok wires ∧
      ∀ inputs : List (UInt16 × Bytes), inputs.filterMap (packetsTo channelId) = wires →
        ∃ answers session',
          run (fun session (input : UInt16 × Bytes) =>
            receiveStaticPacket dispatch session input.1 input.2) session inputs =
              .ok (answers, session') ∧
          heardAnswers (packetsTo channelId) id inputs answers =
            List.replicate (chunks.length - 1) (.ok, none) ++
              [(.ok, some { channelId := entry.channelId, name := entry.name,
                            data := chunks.flatten })] := by
  have limitLt := session.channelBufferBytes.toNat_lt
  refine ⟨_, writeFragments_ok (by omega), fun inputs own => ?_⟩
  have alone := receiveEntry_message plain cut fits
  rw [← own, ← entryOf_found found] at alone
  obtain ⟨answers, session', ran, heard, _⟩ := (@receiveEntry_component μ dispatch
    session.channelBufferBytes channelId).run_interleaved ⟨rfl, index, entry, found, plain⟩ alone
  refine ⟨answers, session', ran, ?_⟩
  rw [heard, entryOf_found found]
  rfl


/-- A message in three chunks, the middle one empty, between packets of another channel, after an
    unfinished message. -/
theorem static_fragments_delivered_three :
    ∃ (session : StaticSession Unit) (index : Nat) (entry : StaticChannel) (wires : List Bytes),
      findStaticChannel session 7 = some (index, entry) ∧
      entry.name ≠ multipartyChannelName ∧ entry.fragment = [9] ∧
      writeFragments [[1, 2], [], [3]] = .ok wires ∧
      ∀ inputs : List (UInt16 × Bytes), inputs.filterMap (packetsTo 7) = wires →
        ∃ answers session',
          run (fun session (input : UInt16 × Bytes) =>
            receiveStaticPacket (fun shared _ _ => (.ok, shared)) session input.1 input.2) session
              inputs = .ok (answers, session') ∧
          heardAnswers (packetsTo 7) id inputs answers =
            [(.ok, none), (.ok, none),
              (.ok, some { channelId := 7, name := "echo", data := [1, 2, 3] })] := by
  let entry : StaticChannel :=
    { channelId := 7, active := true, fragmenting := true, fragmentExpected := 5, fragment := [9],
      name := "echo" }
  let session : StaticSession Unit :=
    { channelBufferBytes := 8, shared := { limitsRejected := 0, multiparty := () },
      staticChannels := [entry], staticChannelCount := 1 }
  have found : findStaticChannel session 7 = some (0, entry) := rfl
  have plain : entry.name ≠ multipartyChannelName := by decide
  obtain ⟨wires, wrote, delivered⟩ := static_fragments_delivered found plain
    (show [[1, 2], [], [3]] ≠ [] by decide) (by decide)
  exact ⟨session, 0, entry, wires, found, plain, rfl, wrote, delivered⟩

end LibRdp.Client
