import LibRdp.Connect.Tpkt

/-! # X.224 connection requests

`rdp_x224_build_connection_request_ex` and `rdp_x224_parse_connection_request`. The connection
data stand between the fixed part and the negotiation request, and nothing says where they end:
the parser takes the last eight bytes for a negotiation request when the first of them is a one.
-/

namespace LibRdp.Connect

/-- `RDP_X224_PROTOCOL_STANDARD`. -/
def x224ProtocolStandard : UInt32 := 0

/-- `rdp_x224_negotiation`. -/
structure X224Negotiation where
  present : Bool
  failure : Bool
  type : UInt8
  flags : UInt8
  length : UInt16
  selectedProtocol : UInt32
  failureCode : UInt32
  deriving Repr, DecidableEq

/-- `rdp_x224_connection_request`. -/
structure X224ConnectionRequest where
  destinationRef : UInt16
  sourceRef : UInt16
  classOption : UInt8
  negotiation : X224Negotiation
  requestedProtocols : UInt32
  routingData : Bytes
  deriving Repr, DecidableEq

def cookiePrefix : Bytes :=
  [0x43, 0x6f, 0x6f, 0x6b, 0x69, 0x65, 0x3a, 0x20, 0x6d, 0x73, 0x74, 0x73, 0x68, 0x61, 0x73,
    0x68, 0x3d]

def cookieSuffix : Bytes := [0x0d, 0x0a]

/-- The line for a cookie name, a C string that ends at its first zero byte. -/
def cookieLine (cookieName : Bytes) : Bytes :=
  match cookieName.takeWhile (· ≠ 0) with
  | [] => []
  | name => cookiePrefix ++ name.take 64 ++ cookieSuffix

/-- The routing token goes before the cookie; an absent token is an empty one. -/
def connectionData (cookieName : Option Bytes) (routingData : Bytes) : Bytes :=
  if routingData.length > 0 then routingData
  else
    match cookieName with
    | some name => cookieLine name
    | none => []

def negotiationRequest (protocols : UInt32) : Bytes :=
  [1, 0] ++ u16LeBytes 8 ++ u32LeBytes protocols.toNat

/-- The fixed part, with the length of what follows the length byte in front. -/
def x224RequestHeader (trailing : Nat) : Bytes :=
  [UInt8.ofNat (6 + trailing), 0xe0] ++ u16BeBytes 0 ++ u16BeBytes 0 ++ [0]

/-- `rdp_x224_build_connection_request_ex`. -/
def x224BuildConnectionRequestEx (cookieName : Option Bytes) (routingData : Bytes)
    (protocols : UInt32) : Attempt Bytes :=
  let negotiation := if protocols = x224ProtocolStandard then [] else negotiationRequest protocols
  let data := connectionData cookieName routingData
  if data.length > 255 - 6 ∨ negotiation.length > 255 - 6 - data.length then
    refuse .invalidArgument
  else .ok (x224RequestHeader (data.length + negotiation.length) ++ data ++ negotiation)

/-- The part of `rdp_x224_parse_connection_request` that reads the negotiation request. -/
def x224ReadNegotiation (block : Bytes) : Attempt X224Negotiation := do
  let (type, stream) ← readU8 block
  let (flags, stream) ← readU8 stream
  let (length, stream) ← readU16Le stream
  let (protocols, _) ← readU32Le stream
  if type ≠ 1 ∨ length ≠ 8 then refuse .protocolError
  else pure { present := true, failure := false, type, flags, length
              selectedProtocol := protocols, failureCode := 0 }

/-- What `memset` leaves where there is no negotiation request. -/
def noNegotiation : X224Negotiation :=
  { present := false, failure := false, type := 0, flags := 0, length := 0, selectedProtocol := 0
    failureCode := 0 }

/-- `rdp_x224_parse_connection_request`. -/
def x224ParseConnectionRequest (payload : Bytes) : Attempt X224ConnectionRequest := do
  if payload.length < 7 then refuse .protocolError
  else
    let (li, stream) ← readU8 payload
    let (type, stream) ← readU8 stream
    if type ≠ 0xe0 ∨ li.toNat < 6 ∨ payload.length < li.toNat + 1 then refuse .protocolError
    else
      let (destinationRef, stream) ← readU16Be stream
      let (sourceRef, stream) ← readU16Be stream
      let (classOption, _) ← readU8 stream
      let finish := li.toNat + 1
      if 15 ≤ finish ∧ payload[finish - 8]? = some 1 then
        let negotiation ← x224ReadNegotiation ((payload.drop (finish - 8)).take 8)
        pure { destinationRef, sourceRef, classOption, negotiation
               requestedProtocols := negotiation.selectedProtocol
               routingData := (payload.drop 7).take (finish - 7 - 8) }
      else
        pure { destinationRef, sourceRef, classOption, negotiation := noNegotiation
               requestedProtocols := x224ProtocolStandard
               routingData := (payload.drop 7).take (finish - 7) }

/-- The eighth byte from the end of connection data looks like the type of a negotiation
    request. -/
def LooksNegotiated (data : Bytes) : Prop := 8 ≤ data.length ∧ data[data.length - 8]? = some 1

instance (data : Bytes) : Decidable (LooksNegotiated data) := inferInstanceAs (Decidable (_ ∧ _))

theorem readNegotiation_request (protocols : UInt32) :
    x224ReadNegotiation (negotiationRequest protocols) =
      .ok { present := true, failure := false, type := 1, flags := 0, length := 8
            selectedProtocol := protocols, failureCode := 0 } := by
  have length : readU16Le (u16LeBytes 8 ++ u32LeBytes protocols.toNat) =
      .ok (8, u32LeBytes protocols.toNat) := readU16Le_append 8 _
  have value : readU32Le (u32LeBytes protocols.toNat) = .ok (protocols, []) := by
    have read := readU32Le_append protocols []
    rwa [List.append_nil] at read
  simp only [x224ReadNegotiation, negotiationRequest, List.cons_append,
    List.nil_append, readU8_cons, ok_bind, length, value]
  rfl

theorem readNegotiation_present {block : Bytes} {negotiation : X224Negotiation}
    (read : x224ReadNegotiation block = .ok negotiation) : negotiation.present = true := by
  simp only [x224ReadNegotiation, bind_eq_ok, refuse_else, attempt_pure, Except.ok.injEq] at read
  obtain ⟨type, -, flags, -, length, -, protocols, -, -, rfl⟩ := read
  rfl

theorem x224RequestHeader_getElem? (size place : Nat) (trailing : Bytes) :
    (x224RequestHeader size ++ trailing)[7 + place]? = trailing[place]? :=
  List.getElem?_append_right (Nat.le_add_right 7 place) |>.trans
    (congrArg (trailing[·]?) (Nat.add_sub_cancel_left 7 place))

theorem x224RequestHeader_drop (size place : Nat) (trailing : Bytes) :
    (x224RequestHeader size ++ trailing).drop (7 + place) = trailing.drop place := by
  rw [← List.drop_drop]
  rfl

theorem parseConnectionRequest_header {trailing : Bytes} (short : trailing.length ≤ 249) :
    x224ParseConnectionRequest (x224RequestHeader trailing.length ++ trailing) =
      if LooksNegotiated trailing then do
        let negotiation ← x224ReadNegotiation (trailing.drop (trailing.length - 8))
        pure { destinationRef := 0, sourceRef := 0, classOption := 0, negotiation
               requestedProtocols := negotiation.selectedProtocol
               routingData := trailing.take (trailing.length - 8) }
      else
        .ok { destinationRef := 0, sourceRef := 0, classOption := 0, negotiation := noNegotiation
              requestedProtocols := x224ProtocolStandard, routingData := trailing } := by
  have li : (UInt8.ofNat (6 + trailing.length)).toNat = 6 + trailing.length := by
    rw [UInt8.toNat_ofNat', Nat.mod_eq_of_lt (by omega)]
  have spelled : x224RequestHeader trailing.length ++ trailing =
      UInt8.ofNat (6 + trailing.length) :: 0xe0 :: (u16BeBytes 0 ++ (u16BeBytes 0 ++
        0 :: trailing)) := rfl
  have long : (x224RequestHeader trailing.length ++ trailing).length = 7 + trailing.length := by
    rw [List.length_append]
    rfl
  have data : (x224RequestHeader trailing.length ++ trailing).drop 7 = trailing := rfl
  have looks : (15 ≤ 6 + trailing.length + 1 ∧
      (x224RequestHeader trailing.length ++ trailing)[6 + trailing.length + 1 - 8]? = some 1) ↔
      LooksNegotiated trailing := by
    constructor
    · rintro ⟨far, one⟩
      have place : 6 + trailing.length + 1 - 8 = 7 + (trailing.length - 8) := by omega
      rw [place, x224RequestHeader_getElem?] at one
      exact ⟨by omega, one⟩
    · rintro ⟨far, one⟩
      have place : 6 + trailing.length + 1 - 8 = 7 + (trailing.length - 8) := by omega
      rw [place, x224RequestHeader_getElem?]
      exact ⟨by omega, one⟩
  generalize whole : x224RequestHeader trailing.length ++ trailing = payload at *
  have fields : ∀ v : Nat, v < 65536 → ∀ rest : Bytes,
      readU16Be (u16BeBytes v ++ rest) = .ok (UInt16.ofNat v, rest) := fun v small rest =>
    readU16Be_append small rest
  have first : readU8 payload = .ok (UInt8.ofNat (6 + trailing.length),
      0xe0 :: (u16BeBytes 0 ++ (u16BeBytes 0 ++ 0 :: trailing))) := by
    rw [spelled]
    rfl
  rw [x224ParseConnectionRequest, if_neg (by omega)]
  simp only [first, readU8_cons, ok_bind, li, ne_eq, not_true_eq_false, false_or,
    fields 0 (by decide), looks, data]
  rw [if_neg (by omega)]
  split
  · rename_i negotiated
    have place : 6 + trailing.length + 1 - 8 = 7 + (trailing.length - 8) := by
      have := negotiated.1
      omega
    have block : (payload.drop (6 + trailing.length + 1 - 8)).take 8 =
        trailing.drop (trailing.length - 8) := by
      rw [place, ← whole, x224RequestHeader_drop, List.take_of_length_le]
      rw [List.length_drop]
      omega
    have before : 6 + trailing.length + 1 - 7 - 8 = trailing.length - 8 := by omega
    rw [block, before]
    rfl
  have all : 6 + trailing.length + 1 - 7 = trailing.length := by omega
  rw [all, List.take_length]
  rfl

section RoundTrip

variable {data : Bytes} {protocols : UInt32}

theorem parseConnectionRequest_negotiated (short : data.length ≤ 241) :
    x224ParseConnectionRequest (x224RequestHeader (data.length + 8) ++ data ++
        negotiationRequest protocols) =
      .ok { destinationRef := 0, sourceRef := 0, classOption := 0
            negotiation :=
              { present := true, failure := false, type := 1, flags := 0, length := 8
                selectedProtocol := protocols, failureCode := 0 }
            requestedProtocols := protocols, routingData := data } := by
  have long : (data ++ negotiationRequest protocols).length = data.length + 8 :=
    List.length_append
  have looks : LooksNegotiated (data ++ negotiationRequest protocols) := by
    refine ⟨by omega, ?_⟩
    rw [long, Nat.add_sub_cancel, List.getElem?_append_right (Nat.le_refl _), Nat.sub_self]
    rfl
  have parsed := @parseConnectionRequest_header (data ++ negotiationRequest protocols) (by omega)
  rw [if_pos looks, long, Nat.add_sub_cancel, List.drop_left, readNegotiation_request] at parsed
  rw [List.append_assoc, parsed, ok_bind, List.take_left]
  rfl

theorem parseConnectionRequest_standard (short : data.length ≤ 249) :
    (∃ request, x224ParseConnectionRequest (x224RequestHeader data.length ++ data) = .ok request ∧
        request.requestedProtocols = x224ProtocolStandard ∧ request.negotiation.present = false ∧
        request.routingData = data) ↔ ¬LooksNegotiated data := by
  rw [parseConnectionRequest_header short]
  constructor
  · rintro ⟨request, parsed, -, absent, -⟩ looks
    rw [if_pos looks] at parsed
    obtain ⟨negotiation, read, parsed⟩ := bind_eq_ok.mp parsed
    cases parsed
    have present := readNegotiation_present read
    rw [absent] at present
    cases present
  · intro looks
    rw [if_neg looks]
    exact ⟨_, rfl, rfl, rfl, rfl⟩

end RoundTrip

/-- A connection request reads back as it was built if it has a negotiation request, or if its
    connection data do not look as if they ended in one. -/
theorem x224ParseConnectionRequest_build (cookieName : Option Bytes) (routingData : Bytes)
    (protocols : UInt32) (written : Bytes)
    (built : x224BuildConnectionRequestEx cookieName routingData protocols = .ok written) :
    (∃ request, x224ParseConnectionRequest written = .ok request ∧
        request.requestedProtocols = protocols ∧
        (request.negotiation.present = true ↔ protocols ≠ x224ProtocolStandard) ∧
        request.routingData = connectionData cookieName routingData) ↔
      protocols ≠ x224ProtocolStandard ∨
        ¬LooksNegotiated (connectionData cookieName routingData) := by
  unfold x224BuildConnectionRequestEx at built
  generalize connectionData cookieName routingData = data at *
  by_cases standard : protocols = x224ProtocolStandard
  · simp only [if_pos standard] at built
    split at built
    · cases built
    rename_i room
    cases built
    have read := @parseConnectionRequest_standard data (by omega)
    rw [List.append_nil, List.length_nil, Nat.add_zero, standard]
    simp only [ne_eq, not_true_eq_false, iff_false, Bool.not_eq_true, false_or]
    exact read
  simp only [if_neg standard] at built
  have eight : (negotiationRequest protocols).length = 8 := rfl
  split at built
  · cases built
  rename_i room
  cases built
  have read := @parseConnectionRequest_negotiated data protocols (by omega)
  exact ⟨fun _ => .inl standard, fun _ => ⟨_, read, rfl, ⟨fun _ => standard, fun _ => rfl⟩, rfl⟩⟩

theorem x224ParseConnectionRequest_build_token : ¬LooksNegotiated [7, 7] ∧
    ∃ request, x224ParseConnectionRequest (x224RequestHeader 2 ++ [7, 7]) = .ok request ∧
      request.requestedProtocols = x224ProtocolStandard ∧
      (request.negotiation.present = true ↔ x224ProtocolStandard ≠ x224ProtocolStandard) ∧
      request.routingData = [7, 7] := by
  have plain : ¬LooksNegotiated [7, 7] := by decide
  exact ⟨plain, (x224ParseConnectionRequest_build none [7, 7] x224ProtocolStandard _ rfl).mpr
    (.inr plain)⟩

/-- A routing token that ends like a negotiation request is taken for one. -/
theorem x224ParseConnectionRequest_build_mistaken :
    ¬∀ (cookieName : Option Bytes) (routingData : Bytes) (protocols : UInt32) (written : Bytes),
      x224BuildConnectionRequestEx cookieName routingData protocols = .ok written →
      ∃ request, x224ParseConnectionRequest written = .ok request ∧
        request.requestedProtocols = protocols ∧
        (request.negotiation.present = true ↔ protocols ≠ x224ProtocolStandard) ∧
        request.routingData = connectionData cookieName routingData := by
  intro back
  obtain ⟨request, parsed, -, -, routing⟩ :=
    back none [1, 0, 8, 0, 3, 0, 0, 0] x224ProtocolStandard _ rfl
  cases parsed
  cases routing

end LibRdp.Connect
