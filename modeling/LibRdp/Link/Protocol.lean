import LibRdp.Channels.DynamicChannel

/-! # The life of one dynamic channel between two ends

What the two ends hold of a channel and what is in flight about it. A channel is asked
for by one side, answered by the other and ended by a close. The server waits for the
client's close after its own, the client does not answer a close: a channel that the
server ends comes to rest only if the client ends it before the server's close arrives.
-/

namespace LibRdp.Link

inductive Pdu where
  | request
  | accepted
  | refused
  | close
  deriving Repr, DecidableEq

inductive ServerStage where
  | free
  | pending
  | cancelled
  | opened
  | closing
  deriving Repr, DecidableEq

inductive ClientStage where
  | free
  | opening
  | active
  deriving Repr, DecidableEq

structure View where
  server : ServerStage
  client : ClientStage
  toClient : List Pdu
  toServer : List Pdu
  deriving Repr, DecidableEq

/-- One move of a channel; `ours` are the channels that the server asks for. No close reaches a client
    that still has the channel, and the server cancels only what the client has let go. -/
inductive Moves (ours : Bool) : View → View → Prop where
  | serverOpen (own : ours = true) :
      Moves ours ⟨.free, client, toClient, toServer⟩
        ⟨.pending, client, toClient ++ [.request], toServer⟩
  | serverClose :
      Moves ours ⟨.opened, client, toClient, toServer⟩
        ⟨.closing, client, toClient ++ [.close], toServer⟩
  | cancel (asked : Pdu.request ∉ toClient) :
      Moves ours ⟨.pending, .free, toClient, toServer⟩ ⟨.cancelled, .free, toClient, toServer⟩
  | clientOpen (own : ours = false) :
      Moves ours ⟨server, .free, toClient, toServer⟩
        ⟨server, .opening, toClient, toServer ++ [.request]⟩
  | clientClose :
      Moves ours ⟨server, .active, toClient, toServer⟩
        ⟨server, .free, toClient, toServer ++ [.close]⟩
  | clientAccepts :
      Moves ours ⟨server, .free, .request :: toClient, toServer⟩
        ⟨server, .active, toClient, toServer ++ [.accepted]⟩
  | clientAccepted :
      Moves ours ⟨server, .opening, .accepted :: toClient, toServer⟩
        ⟨server, .active, toClient, toServer⟩
  | clientRefused :
      Moves ours ⟨server, .opening, .refused :: toClient, toServer⟩
        ⟨server, .free, toClient, toServer⟩
  | clientIgnores (notActive : client ≠ .active) :
      Moves ours ⟨server, client, .close :: toClient, toServer⟩ ⟨server, client, toClient, toServer⟩
  | serverAccepts :
      Moves ours ⟨.free, client, toClient, .request :: toServer⟩
        ⟨.opened, client, toClient ++ [.accepted], toServer⟩
  | serverRefuses :
      Moves ours ⟨.free, client, toClient, .request :: toServer⟩
        ⟨.free, client, toClient ++ [.refused], toServer⟩
  | serverAccepted :
      Moves ours ⟨.pending, client, toClient, .accepted :: toServer⟩
        ⟨.opened, client, toClient, toServer⟩
  | serverDrops :
      Moves ours ⟨.cancelled, client, toClient, .accepted :: toServer⟩
        ⟨.free, client, toClient, toServer⟩
  | serverClosed (ends : server = .opened ∨ server = .closing) :
      Moves ours ⟨server, client, toClient, .close :: toServer⟩ ⟨.free, client, toClient, toServer⟩
  | serverIgnores (notEnding : server ≠ .opened ∧ server ≠ .closing) :
      Moves ours ⟨server, client, toClient, .close :: toServer⟩ ⟨server, client, toClient, toServer⟩

def Stale (pdus : List Pdu) : Prop := ∀ pdu ∈ pdus, pdu = .close

inductive LettingGo : ServerStage → List Pdu → Prop where
  | done : LettingGo .free []
  | ending (ends : server = .opened ∨ server = .closing) : LettingGo server [.close]

inductive Phase : Bool → View → Prop where
  | away (late : Stale toClient) (late' : Stale toServer) :
      Phase true ⟨.free, .free, toClient, toServer⟩
  | requested (late : Stale before) (late' : Stale toServer) :
      Phase true ⟨.pending, .free, before ++ [.request], toServer⟩
  | answered (late' : Stale before) : Phase true ⟨.pending, .active, [], before ++ [.accepted]⟩
  | abandoned (late' : Stale before) (waits : server = .pending ∨ server = .cancelled) :
      Phase true ⟨server, .free, [], before ++ [.accepted, .close]⟩
  | joined : Phase ours ⟨.opened, .active, [], []⟩
  | parting : Phase ours ⟨.closing, .active, [.close], []⟩
  | leaving (ends : server = .opened ∨ server = .closing) (late : Stale toClient) :
      Phase true ⟨server, .free, toClient, [.close]⟩
  | left (late : Stale toClient) (letting : LettingGo server toServer) :
      Phase false ⟨server, .free, toClient, toServer⟩
  | asking (late : Stale toClient) (letting : LettingGo server before) :
      Phase false ⟨server, .opening, toClient, before ++ [.request]⟩
  | admitted (late : Stale before) : Phase false ⟨.opened, .opening, before ++ [.accepted], []⟩
  | dismissed (late : Stale before) :
      Phase false ⟨.closing, .opening, before ++ [.accepted, .close], []⟩
  | rejected (late : Stale before) : Phase false ⟨.free, .opening, before ++ [.refused], []⟩

section Stale

variable {pdu last : Pdu} {before rest pdus : List Pdu}

theorem stale_nil : Stale [] := nofun

theorem Stale.tail (late : Stale (pdu :: rest)) : Stale rest :=
  fun other isOther => late other (List.mem_cons_of_mem _ isOther)

theorem Stale.concat (late : Stale pdus) : Stale (pdus ++ [.close]) := by
  intro pdu isPdu
  rcases List.mem_append.mp isPdu with old | new
  · exact late pdu old
  · exact List.mem_singleton.mp new

theorem Stale.head (late : Stale before) (same : before ++ last :: rest = pdu :: pdus) :
    pdu = last ∧ pdus = rest ∧ before = [] ∨
      pdu = .close ∧ ∃ before', Stale before' ∧ pdus = before' ++ last :: rest := by
  cases before with
  | nil =>
    cases same
    exact .inl ⟨rfl, rfl, rfl⟩
  | cons first before =>
    cases same
    exact .inr ⟨late pdu (List.mem_cons_self ..), before, late.tail, rfl⟩

end Stale

section Moves

variable {ours : Bool} {server : ServerStage} {client : ClientStage} {pdu : Pdu}
  {toClient toServer : List Pdu} {view view' : View}

theorem phase_serverClose (phase : Phase ours ⟨.opened, client, toClient, toServer⟩) :
    Phase ours ⟨.closing, client, toClient ++ [.close], toServer⟩ := by
  cases phase with
  | joined => exact .parting
  | leaving ends late => exact .leaving (.inr rfl) late.concat
  | left late letting =>
    cases letting
    exact .left late.concat (.ending (.inr rfl))
  | asking late letting =>
    cases letting
    exact .asking late.concat (.ending (.inr rfl))
  | abandoned late' waits => simp at waits
  | @admitted before late =>
    rw [List.append_assoc]
    exact .dismissed late

theorem phase_cancel (phase : Phase ours ⟨.pending, .free, toClient, toServer⟩)
    (asked : Pdu.request ∉ toClient) : Phase ours ⟨.cancelled, .free, toClient, toServer⟩ := by
  cases phase with
  | requested => simp at asked
  | abandoned late' waits => exact .abandoned late' (.inr rfl)
  | leaving ends => simp at ends
  | left late letting =>
    cases letting with
    | ending ends => simp at ends

theorem phase_clientClose (phase : Phase ours ⟨server, .active, toClient, toServer⟩) :
    Phase ours ⟨server, .free, toClient, toServer ++ [.close]⟩ := by
  cases phase with
  | @answered before late' =>
    rw [List.append_assoc]
    exact .abandoned late' (.inl rfl)
  | joined =>
    cases ours with
    | true => exact .leaving (.inl rfl) stale_nil
    | false => exact .left stale_nil (.ending (.inl rfl))
  | parting =>
    cases ours with
    | true => exact .leaving (.inr rfl) stale_nil.concat
    | false => exact .left stale_nil.concat (.ending (.inr rfl))

theorem phase_toClient (phase : Phase ours ⟨server, client, pdu :: toClient, toServer⟩) :
    pdu = .close ∧ (client ≠ .active → Phase ours ⟨server, client, toClient, toServer⟩) ∨
    pdu = .request ∧ client = .free ∧
      Phase ours ⟨server, .active, toClient, toServer ++ [.accepted]⟩ ∨
    pdu = .accepted ∧ client = .opening ∧ Phase ours ⟨server, .active, toClient, toServer⟩ ∨
    pdu = .refused ∧ client = .opening ∧ Phase ours ⟨server, .free, toClient, toServer⟩ := by
  generalize queue : pdu :: toClient = queued at phase
  cases phase with
  | away late late' =>
    subst queue
    exact .inl ⟨late pdu (List.mem_cons_self ..), fun _ => .away late.tail late'⟩
  | requested late late' =>
    rcases late.head queue.symm with ⟨rfl, rfl, rfl⟩ | ⟨rfl, before', late, rfl⟩
    · exact .inr (.inl ⟨rfl, rfl, .answered late'⟩)
    · exact .inl ⟨rfl, fun _ => .requested late late'⟩
  | answered | joined => cases queue
  | parting =>
    cases queue
    exact .inl ⟨rfl, fun other => absurd rfl other⟩
  | abandoned => cases queue
  | leaving ends late =>
    subst queue
    exact .inl ⟨late pdu (List.mem_cons_self ..), fun _ => .leaving ends late.tail⟩
  | left late letting =>
    subst queue
    exact .inl ⟨late pdu (List.mem_cons_self ..), fun _ => .left late.tail letting⟩
  | asking late letting =>
    subst queue
    exact .inl ⟨late pdu (List.mem_cons_self ..), fun _ => .asking late.tail letting⟩
  | admitted late =>
    rcases late.head queue.symm with ⟨rfl, rfl, rfl⟩ | ⟨rfl, before', late, rfl⟩
    · exact .inr (.inr (.inl ⟨rfl, rfl, .joined⟩))
    · exact .inl ⟨rfl, fun _ => .admitted late⟩
  | dismissed late =>
    rcases late.head queue.symm with ⟨rfl, rfl, rfl⟩ | ⟨rfl, before', late, rfl⟩
    · exact .inr (.inr (.inl ⟨rfl, rfl, .parting⟩))
    · exact .inl ⟨rfl, fun _ => .dismissed late⟩
  | rejected late =>
    rcases late.head queue.symm with ⟨rfl, rfl, rfl⟩ | ⟨rfl, before', late, rfl⟩
    · exact .inr (.inr (.inr ⟨rfl, rfl, .left stale_nil .done⟩))
    · exact .inl ⟨rfl, fun _ => .rejected late⟩

def ServerStage.afterClose : ServerStage → ServerStage
  | .opened | .closing => .free
  | stage => stage

theorem phase_toServer (phase : Phase ours ⟨server, client, toClient, pdu :: toServer⟩) :
    pdu = .close ∧ Phase ours ⟨server.afterClose, client, toClient, toServer⟩ ∨
    pdu = .request ∧ server = .free ∧
      Phase ours ⟨.opened, client, toClient ++ [.accepted], toServer⟩ ∧
      Phase ours ⟨.free, client, toClient ++ [.refused], toServer⟩ ∨
    pdu = .accepted ∧
      (server = .pending ∧ Phase ours ⟨.opened, client, toClient, toServer⟩ ∨
        server = .cancelled ∧ Phase ours ⟨.free, client, toClient, toServer⟩) := by
  generalize queue : pdu :: toServer = queued at phase
  cases phase with
  | away late late' =>
    subst queue
    exact .inl ⟨late' pdu (List.mem_cons_self ..), .away late late'.tail⟩
  | requested late late' =>
    subst queue
    exact .inl ⟨late' pdu (List.mem_cons_self ..), .requested late late'.tail⟩
  | answered late' =>
    rcases late'.head queue.symm with ⟨rfl, rfl, rfl⟩ | ⟨rfl, before', late', rfl⟩
    · exact .inr (.inr ⟨rfl, .inl ⟨rfl, .joined⟩⟩)
    · exact .inl ⟨rfl, .answered late'⟩
  | abandoned late' waits =>
    rcases late'.head queue.symm with ⟨rfl, rfl, rfl⟩ | ⟨rfl, before', late', rfl⟩
    · rcases waits with rfl | rfl
      · exact .inr (.inr ⟨rfl, .inl ⟨rfl, .leaving (.inl rfl) stale_nil⟩⟩)
      · exact .inr (.inr ⟨rfl, .inr ⟨rfl, .away stale_nil stale_nil.concat⟩⟩)
    · rcases waits with rfl | rfl
      · exact .inl ⟨rfl, .abandoned late' (.inl rfl)⟩
      · exact .inl ⟨rfl, .abandoned late' (.inr rfl)⟩
  | joined | parting => cases queue
  | leaving ends late =>
    cases queue
    rcases ends with rfl | rfl
    · exact .inl ⟨rfl, .away late stale_nil⟩
    · exact .inl ⟨rfl, .away late stale_nil⟩
  | left late letting =>
    cases letting with
    | done => cases queue
    | ending ends =>
      cases queue
      rcases ends with rfl | rfl
      · exact .inl ⟨rfl, .left late .done⟩
      · exact .inl ⟨rfl, .left late .done⟩
  | asking late letting =>
    cases letting with
    | done =>
      cases queue
      exact .inr (.inl ⟨rfl, rfl, .admitted late, .rejected late⟩)
    | ending ends =>
      cases queue
      rcases ends with rfl | rfl
      · exact .inl ⟨rfl, .asking late .done⟩
      · exact .inl ⟨rfl, .asking late .done⟩
  | admitted | dismissed | rejected => cases queue

theorem Moves.serverTakesClose :
    Moves ours ⟨server, client, toClient, .close :: toServer⟩
      ⟨server.afterClose, client, toClient, toServer⟩ := by
  cases server with
  | opened => exact .serverClosed (.inl rfl)
  | closing => exact .serverClosed (.inr rfl)
  | free | pending | cancelled => exact .serverIgnores ⟨nofun, nofun⟩

theorem Phase.client_meets (phase : Phase ours ⟨server, client, pdu :: toClient, toServer⟩) :
    (pdu = .request → client = .free) ∧ (pdu = .accepted ∨ pdu = .refused → client = .opening) := by
  rcases phase_toClient phase with ⟨rfl, _⟩ | ⟨rfl, free, _⟩ | ⟨rfl, opening, _⟩ | ⟨rfl, opening, _⟩
  · exact ⟨nofun, nofun⟩
  · exact ⟨fun _ => free, nofun⟩
  · exact ⟨nofun, fun _ => opening⟩
  · exact ⟨nofun, fun _ => opening⟩

theorem Phase.server_meets (phase : Phase ours ⟨server, client, toClient, pdu :: toServer⟩) :
    (pdu = .request → server = .free) ∧
      (pdu = .accepted → server = .pending ∨ server = .cancelled) ∧ pdu ≠ .refused := by
  rcases phase_toServer phase with ⟨rfl, _⟩ | ⟨rfl, free, _⟩ | ⟨rfl, waits⟩
  · exact ⟨nofun, nofun, nofun⟩
  · exact ⟨fun _ => free, nofun, nofun⟩
  · exact ⟨nofun, fun _ => waits.imp And.left And.left, nofun⟩

theorem Moves.phase (move : Moves ours view view') (phase : Phase ours view) : Phase ours view' := by
  cases move with
  | serverOpen own =>
    subst own
    cases phase with
    | away late late' => exact .requested late late'
    | abandoned _ waits => simp at waits
    | leaving ends => simp at ends
  | serverClose => exact phase_serverClose phase
  | cancel asked => exact phase_cancel phase asked
  | clientOpen own =>
    subst own
    cases phase with
    | left late letting => exact .asking late letting
  | clientClose => exact phase_clientClose phase
  | clientAccepts | clientAccepted | clientRefused => simpa using phase_toClient phase
  | clientIgnores notActive =>
    have next := phase_toClient phase
    simp only [true_and, reduceCtorEq, false_and, or_false] at next
    exact next notActive
  | serverAccepts =>
    have next := phase_toServer phase
    simp only [true_and, reduceCtorEq, false_and, or_false, false_or] at next
    exact next.1
  | serverRefuses =>
    have next := phase_toServer phase
    simp only [true_and, reduceCtorEq, false_and, or_false, false_or] at next
    exact next.2
  | serverAccepted | serverDrops => simpa using phase_toServer phase
  | serverClosed ends =>
    have next := phase_toServer phase
    simp only [true_and, reduceCtorEq, false_and, or_false] at next
    rcases ends with rfl | rfl
    · exact next
    · exact next
  | @serverIgnores server notEnding =>
    have next := phase_toServer phase
    simp only [true_and, reduceCtorEq, false_and, or_false] at next
    cases server <;> simp_all [ServerStage.afterClose]

theorem Phase.quiet (phase : Phase ours ⟨server, client, toClient, toServer⟩) (none : toClient = [])
    (none' : toServer = []) :
    server = .free ∧ client = .free ∨ server = .opened ∧ client = .active := by
  cases phase with
  | away => exact .inl ⟨rfl, rfl⟩
  | joined => exact .inr ⟨rfl, rfl⟩
  | requested | parting | admitted | dismissed | rejected => simp at none
  | answered | abandoned | leaving | asking => simp at none'
  | left late letting =>
    cases letting with
    | done => exact .inl ⟨rfl, rfl⟩
    | ending => cases none'

end Moves

/-! ## On the wire

Both ends write a channel's id in as many bytes as it needs, and answer in the width they were asked
in. A response may also read as a request and the other way around: what a PDU is taken for depends
on who reads it. -/

open Channels

inductive Reads (wire : Bytes) : UInt32 × Pdu → Prop where
  | request {request : CreateRequest} (parsed : parseCreateRequest wire = .ok request)
      (width : request.channelIdBytes = numberWidth request.channelId.toNat) :
      Reads wire (request.channelId, .request)
  | accepted {response : CreateResponse} (parsed : parseCreateResponse wire = .ok response)
      (width : response.channelIdBytes = numberWidth response.channelId.toNat)
      (agrees : response.statusCode = createStatusOk) : Reads wire (response.channelId, .accepted)
  | refused {response : CreateResponse} (parsed : parseCreateResponse wire = .ok response)
      (width : response.channelIdBytes = numberWidth response.channelId.toNat)
      (differs : response.statusCode ≠ createStatusOk) : Reads wire (response.channelId, .refused)
  | close {pdu : ClosePdu} (parsed : parseClose wire = .ok pdu)
      (width : pdu.channelIdBytes = numberWidth pdu.channelId.toNat) :
      Reads wire (pdu.channelId, .close)

section Writers

variable {channelId : UInt32} {width : Nat}

theorem name_text {low high : UInt8} (positive : 0 < low.toNat) {name : Bytes}
    (text : (name.all fun ch => decide (low ≤ ch) && decide (ch ≤ high)) = true) :
    ∀ byte ∈ name, byte ≠ 0 := by
  intro byte isByte zero
  have between := List.all_eq_true.mp text byte isByte
  simp only [Bool.and_eq_true, decide_eq_true_eq] at between
  rw [zero] at between
  have small := UInt8.le_iff_toNat_le.mp between.1
  have none : (0 : UInt8).toNat = 0 := rfl
  omega

theorem writeCreateRequest_reads (fits : width = numberWidth channelId.toNat) {priority : Nat}
    (small : priority ≤ 3) {name : Bytes} (some : name ≠ []) (text : ∀ byte ∈ name, byte ≠ 0) :
    ∃ wire, writeCreateRequest channelId width priority name = .ok wire ∧
      Reads wire (channelId, .request) := by
  subst fits
  obtain ⟨wire, wrote, parsed⟩ := writeCreateRequest_ok (numberWidth_fits channelId) small some text
  exact ⟨wire, wrote, .request parsed rfl⟩

theorem writeCreateResponse_reads (fits : width = numberWidth channelId.toNat) (statusCode : UInt32) :
    ∃ wire, writeCreateResponse channelId width statusCode = .ok wire ∧
      Reads wire (channelId, if statusCode = createStatusOk then .accepted else .refused) := by
  subst fits
  obtain ⟨wire, wrote, parsed⟩ := writeCreateResponse_ok (numberWidth_fits channelId) statusCode
  refine ⟨wire, wrote, ?_⟩
  split
  · exact .accepted parsed rfl ‹_›
  · exact .refused parsed rfl ‹_›

theorem writeClose_reads (fits : width = numberWidth channelId.toNat) :
    ∃ wire, writeClose channelId width = .ok wire ∧ Reads wire (channelId, .close) := by
  subst fits
  obtain ⟨wire, wrote, parsed⟩ := writeClose_ok (numberWidth_fits channelId)
  exact ⟨wire, wrote, .close parsed rfl⟩

theorem Reads.close_only {wire : Bytes} {about : UInt32 × Pdu} (reads : Reads wire about)
    {pdu : ClosePdu} (parsed : parseClose wire = .ok pdu) : about = (pdu.channelId, .close) := by
  obtain ⟨header, isHeader, isClose, _⟩ := parseClose_inv parsed
  have notCreate : ¬header.command = cmdCreate := by
    rw [isClose]
    decide
  cases reads with
  | request other =>
    obtain ⟨header', isHeader', isCreate, _⟩ := parseCreateRequest_inv other
    rw [isHeader] at isHeader'
    cases isHeader'
    exact absurd isCreate notCreate
  | accepted other | refused other =>
    obtain ⟨header', isHeader', isCreate, _⟩ := parseCreateResponse_inv other
    rw [isHeader] at isHeader'
    cases isHeader'
    exact absurd isCreate notCreate
  | close other =>
    rw [parsed] at other
    cases other
    rfl

end Writers

end LibRdp.Link
