import LibRdp.Channels.DynamicRoundTrip

/-! # Soft-sync PDUs

A soft-sync request carries one list of channel ids for each tunnel, one behind the other. One
loop of the parser checks them all, and each later access walks over them again from the start.
-/

namespace LibRdp.Channels

/-- `RDP_DYNAMIC_CHANNEL_TUNNEL_*`. -/
def tunnelUdpReliable : UInt32 := 1
def tunnelUdpLossy : UInt32 := 3

/-- `RDP_DYNAMIC_CHANNEL_SOFT_SYNC_*`. -/
def softSyncTcpFlushed : UInt16 := 1
def softSyncChannelListPresent : UInt16 := 2

def IsTunnel (tunnelType : UInt32) : Prop :=
  tunnelType = tunnelUdpReliable ∨ tunnelType = tunnelUdpLossy

instance : DecidablePred IsTunnel := fun _ => inferInstanceAs (Decidable (_ ∨ _))

/-- `rdp_dynamic_channel_soft_sync_channel_list`. -/
structure SoftSyncChannelList where
  tunnelType : UInt32
  channelCount : UInt16
  channelIds : Bytes
  deriving Repr, DecidableEq

/-- `rdp_dynamic_channel_soft_sync_request`. -/
structure SoftSyncRequest where
  length : UInt32
  flags : UInt16
  tunnelCount : UInt16
  lists : Bytes
  deriving Repr, DecidableEq

/-- `rdp_dynamic_channel_soft_sync_response`. -/
structure SoftSyncResponse where
  tunnelCount : UInt32
  tunnelTypes : Bytes
  deriving Repr, DecidableEq

/-- `rdp_dynamic_channel_validate_soft_sync_lists`; `tunnels` lists are still to come. -/
def validateSoftSyncLists (stream : Bytes) : Nat → Attempt Unit
  | 0 => if stream.length = 0 then .ok () else refuse .protocolError
  | tunnels + 1 => do
      let (tunnelType, stream) ← readU32Le stream
      let (channelCount, stream) ← readU16Le stream
      if ¬IsTunnel tunnelType then refuse .protocolError
      else
        let idsLen := channelCount.toNat * 4
        if channelCount = 0 ∨ idsLen / 4 ≠ channelCount.toNat then refuse .protocolError
        else
          let (_, stream) ← readBytes stream idsLen
          validateSoftSyncLists stream tunnels

/-- `rdp_dynamic_channel_parse_soft_sync_request`. -/
def parseSoftSyncRequest (data : Bytes) : Attempt SoftSyncRequest := do
  let header ← parseHeader data
  if header.command ≠ cmdSoftSyncRequest ∨ header.raw ≠ headerByte cmdSoftSyncRequest 0 0 ∨
      data.length < 10 then refuse .protocolError
  else
    let (pad, stream) ← readU8 (data.drop 1)
    let (length, stream) ← readU32Le stream
    let (flags, stream) ← readU16Le stream
    let (tunnelCount, stream) ← readU16Le stream
    if pad ≠ 0 ∨ length.toNat ≠ data.length - 2 ∨ flags &&& softSyncTcpFlushed = 0 ∨
        flags &&& ~~~(softSyncTcpFlushed ||| softSyncChannelListPresent) ≠ 0 then
      refuse .protocolError
    else if flags &&& softSyncChannelListPresent = 0 then
      if tunnelCount ≠ 0 ∨ stream.length ≠ 0 then refuse .protocolError
      else pure { length, flags, tunnelCount, lists := [] }
    else if tunnelCount = 0 ∨ stream.length = 0 then refuse .protocolError
    else
      validateSoftSyncLists stream tunnelCount.toNat
      pure { length, flags, tunnelCount, lists := stream }

/-- One turn of the loop of `rdp_dynamic_channel_soft_sync_request_get_list`. -/
def readChannelList (stream : Bytes) : Attempt (SoftSyncChannelList × Bytes) := do
  let (tunnelType, stream) ← readU32Le stream
  let (channelCount, stream) ← readU16Le stream
  let idsLen := channelCount.toNat * 4
  if ¬IsTunnel tunnelType ∨ channelCount = 0 ∨ idsLen / 4 ≠ channelCount.toNat then
    refuse .protocolError
  else
    let (channelIds, stream) ← readBytes stream idsLen
    pure ({ tunnelType, channelCount, channelIds }, stream)

/-- The loop itself, with the lists that still stand in front of the one looked for. -/
def channelListAt (stream : Bytes) : Nat → Attempt SoftSyncChannelList
  | 0 => do
      let (list, _) ← readChannelList stream
      pure list
  | before + 1 => do
      let (_, stream) ← readChannelList stream
      channelListAt stream before

/-- `rdp_dynamic_channel_soft_sync_request_get_list`. -/
def softSyncRequestGetList (request : SoftSyncRequest) (index : UInt16) :
    Attempt SoftSyncChannelList :=
  if index ≥ request.tunnelCount then refuse .invalidArgument
  else channelListAt request.lists index.toNat

def numberAt (numbers : Bytes) (index : Nat) : Attempt UInt32 :=
  match numbers.drop (index * 4) with
  | b0 :: b1 :: b2 :: b3 :: _ => .ok (UInt32.ofNat (u32Le b0 b1 b2 b3))
  | _ => .error (.fault .outOfBounds)

/-- `rdp_dynamic_channel_soft_sync_channel_list_get_id`. -/
def softSyncChannelListGetId (list : SoftSyncChannelList) (index : UInt16) : Attempt UInt32 :=
  if index ≥ list.channelCount ∨ list.channelIds.length ≠ list.channelCount.toNat * 4 then
    refuse .invalidArgument
  else numberAt list.channelIds index.toNat

/-- `rdp_dynamic_channel_write_soft_sync_response`. -/
def writeSoftSyncResponse (tunnelTypes : List UInt32) (tunnelCount : UInt32) : Attempt Bytes := do
  (List.range tunnelCount.toNat).forM fun i =>
    match tunnelTypes[i]? with
    | none => .error (.fault .outOfBounds)
    | some tunnelType => if IsTunnel tunnelType then .ok () else refuse .invalidArgument
  pure ([headerByte cmdSoftSyncResponse 0 0, 0] ++ u32LeBytes tunnelCount.toNat ++
    (tunnelTypes.take tunnelCount.toNat).flatMap fun tunnelType => u32LeBytes tunnelType.toNat)

/-- The loop of `rdp_dynamic_channel_validate_soft_sync_tunnels`. -/
def checkTunnels (stream : Bytes) : Nat → Attempt Unit
  | 0 => if stream.length = 0 then .ok () else refuse .protocolError
  | tunnels + 1 => do
      let (tunnelType, stream) ← readU32Le stream
      if ¬IsTunnel tunnelType then refuse .protocolError else checkTunnels stream tunnels

/-- `rdp_dynamic_channel_validate_soft_sync_tunnels`. -/
def validateSoftSyncTunnels (data : Bytes) (tunnelCount : Nat) : Attempt Unit :=
  if data.length ≠ tunnelCount * 4 then refuse .protocolError else checkTunnels data tunnelCount

/-- `rdp_dynamic_channel_parse_soft_sync_response`. -/
def parseSoftSyncResponse (data : Bytes) : Attempt SoftSyncResponse := do
  let header ← parseHeader data
  if header.command ≠ cmdSoftSyncResponse ∨ header.raw ≠ headerByte cmdSoftSyncResponse 0 0 ∨
      data.length < 6 then refuse .protocolError
  else
    let (pad, stream) ← readU8 (data.drop 1)
    let (tunnelCount, stream) ← readU32Le stream
    if pad ≠ 0 ∨ stream.length ≠ tunnelCount.toNat * 4 then refuse .protocolError
    else
      validateSoftSyncTunnels stream tunnelCount.toNat
      pure { tunnelCount, tunnelTypes := stream }

/-- `rdp_dynamic_channel_soft_sync_response_get_tunnel`. -/
def softSyncResponseGetTunnel (response : SoftSyncResponse) (index : UInt32) : Attempt UInt32 :=
  if index ≥ response.tunnelCount ∨
      response.tunnelTypes.length ≠ response.tunnelCount.toNat * 4 then refuse .invalidArgument
  else do
    let tunnelType ← numberAt response.tunnelTypes index.toNat
    if IsTunnel tunnelType then pure tunnelType else refuse .protocolError

def SoftSyncChannelList.bytes (list : SoftSyncChannelList) : Bytes :=
  u32LeBytes list.tunnelType.toNat ++ u16LeBytes list.channelCount.toNat ++ list.channelIds

structure Listed (list : SoftSyncChannelList) : Prop where
  tunnel : IsTunnel list.tunnelType
  some : list.channelCount ≠ 0
  sized : list.channelIds.length = list.channelCount.toNat * 4

variable {list : SoftSyncChannelList} {index : Nat}

theorem readChannelList_eq_ok {stream rest : Bytes} :
    readChannelList stream = .ok (list, rest) ↔ Listed list ∧ stream = list.bytes ++ rest := by
  constructor
  · intro read
    obtain ⟨⟨tunnelType, stream'⟩, type, read⟩ := bind_eq_ok.mp read
    obtain ⟨⟨channelCount, stream''⟩, count, read⟩ := bind_eq_ok.mp read
    simp only at read
    split at read
    · cases read
    rename_i checked
    obtain ⟨tunnel, some, -⟩ := by simpa only [not_or, not_not] using checked
    obtain ⟨⟨channelIds, rest'⟩, ids, last⟩ := bind_eq_ok.mp read
    cases last
    obtain ⟨sized, rfl⟩ := readBytes_eq_ok.mp ids
    rw [readU16Le_eq_ok] at count
    rw [readU32Le_eq_ok, count] at type
    refine ⟨⟨tunnel, some, sized⟩, ?_⟩
    rw [type, SoftSyncChannelList.bytes, List.append_assoc, List.append_assoc]
  · rintro ⟨⟨tunnel, some, sized⟩, rfl⟩
    have ids := readBytes_append list.channelIds rest
    rw [sized] at ids
    have whole : list.channelCount.toNat * 4 / 4 = list.channelCount.toNat := by omega
    simp only [readChannelList, SoftSyncChannelList.bytes, List.append_assoc, readU32Le_append,
      ok_bind, readU16Le_append, tunnel, some, whole, not_true_eq_false, ne_eq, or_self,
      if_false, ids, attempt_pure]

theorem validateSoftSyncLists_succ (stream : Bytes) (tunnels : Nat) :
    validateSoftSyncLists stream (tunnels + 1) =
      (readChannelList stream >>= fun pair => validateSoftSyncLists pair.2 tunnels) := by
  rw [validateSoftSyncLists, readChannelList]
  cases readU32Le stream with
  | error stop => rfl
  | ok pair =>
    obtain ⟨tunnelType, stream⟩ := pair
    simp only [ok_bind]
    cases readU16Le stream with
    | error stop => rfl
    | ok pair =>
      obtain ⟨channelCount, stream⟩ := pair
      simp only [ok_bind]
      by_cases tunnel : IsTunnel tunnelType
      · by_cases some :
            channelCount = 0 ∨ channelCount.toNat * 4 / 4 ≠ channelCount.toNat
        · simp only [tunnel, some, not_true_eq_false, false_or, if_true, if_false, refuse_bind]
        · simp only [tunnel, some, not_true_eq_false, false_or, if_false]
          cases readBytes stream (channelCount.toNat * 4) <;> rfl
      · simp only [tunnel, not_false_eq_true, true_or, if_true, refuse_bind]

theorem validateSoftSyncLists_eq_ok {stream : Bytes} {tunnels : Nat} :
    validateSoftSyncLists stream tunnels = .ok () ↔
      ∃ lists : List SoftSyncChannelList, lists.length = tunnels ∧ (∀ list ∈ lists, Listed list) ∧
        stream = lists.flatMap SoftSyncChannelList.bytes := by
  induction tunnels generalizing stream with
  | zero =>
    rw [validateSoftSyncLists]
    constructor
    · intro valid
      split at valid
      · exact ⟨[], rfl, nofun, List.length_eq_zero_iff.mp ‹_›⟩
      · cases valid
    · rintro ⟨lists, none, -, rfl⟩
      rw [List.length_eq_zero_iff.mp none]
      rfl
  | succ tunnels ih =>
    rw [validateSoftSyncLists_succ]
    constructor
    · intro valid
      obtain ⟨⟨list, rest⟩, read, later⟩ := bind_eq_ok.mp valid
      obtain ⟨listed, rfl⟩ := readChannelList_eq_ok.mp read
      obtain ⟨lists, rfl, all, rfl⟩ := ih.mp later
      exact ⟨list :: lists, rfl, List.forall_mem_cons.mpr ⟨listed, all⟩, rfl⟩
    · rintro ⟨lists, count, all, rfl⟩
      cases lists with
      | nil => cases count
      | cons list lists =>
        obtain ⟨listed, all⟩ := List.forall_mem_cons.mp all
        rw [List.flatMap_cons, readChannelList_eq_ok.mpr ⟨listed, rfl⟩, ok_bind]
        exact ih.mpr ⟨lists, Nat.succ.inj count, all, rfl⟩

theorem channelListAt_flatMap {lists : List SoftSyncChannelList}
    (all : ∀ list ∈ lists, Listed list) (found : lists[index]? = some list) :
    channelListAt (lists.flatMap SoftSyncChannelList.bytes) index = .ok list := by
  induction index generalizing lists with
  | zero =>
    cases lists with
    | nil => cases found
    | cons first lists =>
      cases found
      rw [channelListAt, List.flatMap_cons,
        readChannelList_eq_ok.mpr ⟨all list List.mem_cons_self, rfl⟩]
      rfl
  | succ index ih =>
    cases lists with
    | nil => cases found
    | cons first lists =>
      obtain ⟨listed, all⟩ := List.forall_mem_cons.mp all
      rw [channelListAt, List.flatMap_cons, readChannelList_eq_ok.mpr ⟨listed, rfl⟩]
      exact ih all found

theorem parseSoftSyncRequest_lists {data : Bytes} {request : SoftSyncRequest}
    (parsed : parseSoftSyncRequest data = .ok request) :
    ∃ lists : List SoftSyncChannelList, lists.length = request.tunnelCount.toNat ∧
      (∀ list ∈ lists, Listed list) ∧
      request.lists = lists.flatMap SoftSyncChannelList.bytes := by
  simp only [parseSoftSyncRequest, bind_eq_ok, refuse_else] at parsed
  obtain ⟨header, -, -, pad, -, length, -, flags, -, tunnelCount, -, -, parsed⟩ := parsed
  split at parsed
  · split at parsed
    · cases parsed
    · rename_i none
      cases parsed
      obtain ⟨zero, -⟩ := not_or.mp none
      refine ⟨[], ?_, nofun, rfl⟩
      rw [Decidable.not_not.mp zero]
      rfl
  split at parsed
  · cases parsed
  obtain ⟨_, valid, last⟩ := bind_eq_ok.mp parsed
  cases last
  exact validateSoftSyncLists_eq_ok.mp valid

theorem numberAt_inside {numbers : Bytes} {count : Nat} (sized : numbers.length = count * 4)
    (inside : index < count) : ∃ number, numberAt numbers index = .ok number := by
  have long : 4 ≤ (numbers.drop (index * 4)).length := by
    rw [List.length_drop]
    omega
  match left : numbers.drop (index * 4), long with
  | b0 :: b1 :: b2 :: b3 :: _, _ =>
    exact ⟨UInt32.ofNat (u32Le b0 b1 b2 b3), by rw [numberAt, left]⟩

theorem getId_inside (listed : Listed list) {index : UInt16} (inside : index < list.channelCount) :
    ∃ channelId, softSyncChannelListGetId list index = .ok channelId := by
  have within : ¬(index ≥ list.channelCount ∨
      list.channelIds.length ≠ list.channelCount.toNat * 4) := by
    rintro (beyond | other)
    · exact absurd inside (UInt16.not_lt.mpr beyond)
    · exact other listed.sized
  rw [softSyncChannelListGetId, if_neg within]
  exact numberAt_inside listed.sized (UInt16.lt_iff_toNat_lt.mp inside)

theorem numberAt_flatMap {numbers : List UInt32} {number : UInt32}
    (found : numbers[index]? = some number) :
    numberAt (numbers.flatMap fun n => u32LeBytes n.toNat) index = .ok number := by
  induction index generalizing numbers with
  | zero =>
    cases numbers with
    | nil => cases found
    | cons first numbers =>
      cases found
      have same := u32Le_bytes number.toNat_lt
      simp only [numberAt, List.flatMap_cons, u32LeBytes, Nat.zero_mul, List.drop_zero,
        List.cons_append, same, UInt32.ofNat_toNat]
  | succ index ih =>
    cases numbers with
    | nil => cases found
    | cons first numbers =>
      have past : (u32LeBytes first.toNat ++ numbers.flatMap fun n => u32LeBytes n.toNat).drop
          ((index + 1) * 4) = (numbers.flatMap fun n => u32LeBytes n.toNat).drop (index * 4) := by
        rw [Nat.succ_mul, Nat.add_comm, ← List.drop_drop]
        rfl
      rw [numberAt, List.flatMap_cons, past]
      exact ih found

theorem checkTunnels_flatMap {tunnelTypes : List UInt32} (all : ∀ type ∈ tunnelTypes, IsTunnel type) :
    checkTunnels (tunnelTypes.flatMap fun type => u32LeBytes type.toNat) tunnelTypes.length =
      .ok () := by
  induction tunnelTypes with
  | nil => rfl
  | cons type tunnelTypes ih =>
    obtain ⟨tunnel, all⟩ := List.forall_mem_cons.mp all
    rw [List.length_cons, checkTunnels, List.flatMap_cons, readU32Le_append, ok_bind]
    simp only [tunnel, not_true_eq_false, if_false]
    exact ih all

theorem attempt_forM_eq_ok {l : List α} {check : α → Attempt PUnit} :
    l.forM check = .ok ⟨⟩ ↔ ∀ a ∈ l, check a = .ok ⟨⟩ := by
  induction l with
  | nil => exact ⟨fun _ => nofun, fun _ => rfl⟩
  | cons a l ih =>
    change (check a >>= fun _ => l.forM check) = _ ↔ _
    rw [bind_eq_ok, List.forall_mem_cons, ← ih]
    exact ⟨fun ⟨_, first, later⟩ => ⟨first, later⟩, fun ⟨first, later⟩ => ⟨⟨⟩, first, later⟩⟩

section Response

variable {tunnelTypes : List UInt32} {tunnelCount : UInt32} {wire : Bytes}

theorem writeSoftSyncResponse_found
    (wrote : writeSoftSyncResponse tunnelTypes tunnelCount = .ok wire) :
    (tunnelTypes.take tunnelCount.toNat).length = tunnelCount.toNat ∧
      (∀ type ∈ tunnelTypes.take tunnelCount.toNat, IsTunnel type) ∧
      wire = [headerByte cmdSoftSyncResponse 0 0, 0] ++ u32LeBytes tunnelCount.toNat ++
        (tunnelTypes.take tunnelCount.toNat).flatMap fun type => u32LeBytes type.toNat := by
  obtain ⟨_, checked, last⟩ := bind_eq_ok.mp wrote
  cases last
  have each : ∀ i < tunnelCount.toNat, ∃ type, tunnelTypes[i]? = some type ∧ IsTunnel type := by
    intro i inside
    have here := attempt_forM_eq_ok.mp checked i (List.mem_range.mpr inside)
    cases found : tunnelTypes[i]? with
    | none =>
      rw [found] at here
      cases here
    | some type =>
      simp only [found] at here
      split at here
      · exact ⟨type, rfl, ‹_›⟩
      · cases here
  refine ⟨?_, ?_, rfl⟩
  · rw [List.length_take, Nat.min_eq_left]
    by_contra short
    obtain ⟨type, found, -⟩ := each tunnelTypes.length (by omega)
    rw [List.getElem?_eq_none (Nat.le_refl _)] at found
    cases found
  · intro type held
    obtain ⟨i, found⟩ := List.mem_iff_getElem?.mp held
    rw [List.getElem?_take] at found
    split at found
    · obtain ⟨type', found', tunnel⟩ := each i ‹_›
      rw [found] at found'
      cases found'
      exact tunnel
    · cases found

theorem parseSoftSyncResponse_write
    (wrote : writeSoftSyncResponse tunnelTypes tunnelCount = .ok wire) :
    ∃ response, parseSoftSyncResponse wire = .ok response ∧
      response.tunnelCount = tunnelCount ∧
      ∀ index < tunnelCount, ∃ type, tunnelTypes[index.toNat]? = some type ∧
        softSyncResponseGetTunnel response index = .ok type := by
  obtain ⟨count, all, rfl⟩ := writeSoftSyncResponse_found wrote
  generalize types : tunnelTypes.take tunnelCount.toNat = named at *
  have sized : (named.flatMap fun type => u32LeBytes type.toNat).length = tunnelCount.toNat * 4 := by
    rw [List.length_flatMap, ← count]
    simp only [u32LeBytes_length, List.map_const', List.sum_replicate_nat]
  have checked := checkTunnels_flatMap all
  rw [count] at checked
  have valid : validateSoftSyncTunnels (named.flatMap fun type => u32LeBytes type.toNat)
      tunnelCount.toNat = .ok () := by
    rw [validateSoftSyncTunnels, if_neg (not_not.mpr sized), checked]
  refine ⟨{ tunnelCount, tunnelTypes := named.flatMap fun type => u32LeBytes type.toNat }, ?_, rfl,
    fun index inside => ?_⟩
  · have header := parseHeader_byte (0 :: (u32LeBytes tunnelCount.toNat ++
      named.flatMap fun type => u32LeBytes type.toNat))
      (by decide : 0 < cmdSoftSyncResponse) (by decide) (by decide : 0 ≤ 2) (by decide : 0 ≤ 3)
      (by decide)
    simp only [parseSoftSyncResponse, List.cons_append, List.nil_append, header, ok_bind,
      ne_eq, not_true_eq_false, false_or, List.length_cons, List.length_append, u32LeBytes_length,
      List.drop_one, List.tail_cons, readU8_cons, readU32Le_append, sized, if_false, valid,
      attempt_pure]
    rw [if_neg (by omega)]
  · have within : ¬(index ≥ tunnelCount ∨
        (named.flatMap fun type => u32LeBytes type.toNat).length ≠ tunnelCount.toNat * 4) := by
      rintro (beyond | other)
      · exact absurd inside (UInt32.not_lt.mpr beyond)
      · exact other sized
    have place : index.toNat < named.length := by
      rw [count]
      exact UInt32.lt_iff_toNat_lt.mp inside
    obtain ⟨type, found⟩ : ∃ type, named[index.toNat]? = some type :=
      ⟨_, List.getElem?_eq_getElem place⟩
    have whole := found
    rw [← types, List.getElem?_take, if_pos (UInt32.lt_iff_toNat_lt.mp inside)] at whole
    refine ⟨type, whole, ?_⟩
    rw [softSyncResponseGetTunnel, if_neg within, numberAt_flatMap found, ok_bind,
      if_pos (all type (List.mem_of_getElem? found))]
    rfl

end Response

/-- What a writer of a dynamic channel PDU accepts is read back with the same fields by the parser
    of its kind, and every list and every id that a soft-sync request announces can be fetched. -/
theorem dynamicChannel_roundTrip :
    (∀ channelId width priority name wire, (∀ byte ∈ name, byte ≠ 0) →
      writeCreateRequest channelId width priority name = .ok wire →
      parseCreateRequest wire = .ok { channelId, channelIdBytes := width, priority, name }) ∧
    (∀ channelId width statusCode wire,
      writeCreateResponse channelId width statusCode = .ok wire →
      parseCreateResponse wire = .ok { channelId, channelIdBytes := width, statusCode }) ∧
    (∀ channelId width priority data wire, writeDataEx channelId width priority data = .ok wire →
      parseData wire = .ok { channelId, channelIdBytes := width, data }) ∧
    (∀ channelId width priority totalLength data wire,
      writeDataFirstEx channelId width priority totalLength data = .ok wire →
      parseDataFirst wire = .ok { channelId, channelIdBytes := width, totalLength, data }) ∧
    (∀ channelId width wire, writeClose channelId width = .ok wire →
      parseClose wire = .ok { channelId, channelIdBytes := width }) ∧
    (∀ channelId width data wire, writeCompressedData channelId width data = .ok wire →
      parseCompressedData wire = .ok { channelId, channelIdBytes := width, data }) ∧
    (∀ channelId width totalLength data wire,
      writeCompressedDataFirst channelId width totalLength data = .ok wire →
      parseCompressedDataFirst wire =
        .ok { channelId, channelIdBytes := width, totalLength, data }) ∧
    (∀ tunnelTypes tunnelCount wire, writeSoftSyncResponse tunnelTypes tunnelCount = .ok wire →
      ∃ response, parseSoftSyncResponse wire = .ok response ∧
        response.tunnelCount = tunnelCount ∧
        ∀ index < tunnelCount, ∃ type, tunnelTypes[index.toNat]? = some type ∧
          softSyncResponseGetTunnel response index = .ok type) ∧
    ∀ data request, parseSoftSyncRequest data = .ok request →
      ∃ lists : List SoftSyncChannelList, lists.length = request.tunnelCount.toNat ∧
        request.lists = lists.flatMap SoftSyncChannelList.bytes ∧
        (∀ index < request.tunnelCount, ∃ list, lists[index.toNat]? = some list ∧
          softSyncRequestGetList request index = .ok list) ∧
        ∀ list ∈ lists, ∀ index < list.channelCount,
          ∃ channelId, softSyncChannelListGetId list index = .ok channelId := by
  refine ⟨fun _ _ _ _ _ => parseCreateRequest_write, fun _ _ _ _ => parseCreateResponse_write,
    fun _ _ _ _ _ => parseData_write, fun _ _ _ _ _ _ => parseDataFirst_write,
    fun _ _ _ => parseClose_write, fun _ _ _ _ => parseCompressedData_write,
    fun _ _ _ _ _ => parseCompressedDataFirst_write, fun _ _ _ => parseSoftSyncResponse_write, ?_⟩
  intro data request parsed
  obtain ⟨lists, count, listed, tiles⟩ := parseSoftSyncRequest_lists parsed
  refine ⟨lists, count, tiles, fun index inside => ?_, fun list held index inside =>
    getId_inside (listed list held) inside⟩
  have place : index.toNat < lists.length := by
    rw [count]
    exact UInt16.lt_iff_toNat_lt.mp inside
  have found := List.getElem?_eq_getElem place
  refine ⟨lists[index.toNat], found, ?_⟩
  rw [softSyncRequestGetList, if_neg (UInt16.not_le.mpr inside), tiles]
  exact channelListAt_flatMap listed found

theorem dynamicChannel_roundTrip_softSync :
    ∃ response, parseSoftSyncResponse [0x90, 0, 2, 0, 0, 0, 3, 0, 0, 0, 1, 0, 0, 0] = .ok response ∧
      response.tunnelCount = 2 ∧
      ∀ index < (2 : UInt32), ∃ type, ([3, 1] : List UInt32)[index.toNat]? = some type ∧
        softSyncResponseGetTunnel response index = .ok type :=
  dynamicChannel_roundTrip.2.2.2.2.2.2.2.1 [3, 1] 2 _ rfl

end LibRdp.Channels
