import LibRdp.Machine.Run
import LibRdp.Server.Clipboard

/-! # Clipboard requests and the answers of the client

The client answers in the order in which it was asked. The server remembers only the last
request of a kind, so an answer reaches the application as what it is as long as a request is
sent only when no earlier one can be taken for it.
-/

namespace LibRdp.Server

open Machine Channels

inductive ClipboardAsk where
  | format (formatId : UInt32)
  | file (streamId : UInt32)
  deriving Repr, DecidableEq

structure ClipboardWaiting where
  ask : ClipboardAsk
  cancelled : Bool := false
  deriving Repr, DecidableEq

structure ClipboardLink where
  peer : ClipboardPeer
  waiting : List ClipboardWaiting := []
  deriving Repr, DecidableEq

structure ClipboardAnswer where
  ok : Bool
  data : Bytes
  deriving Repr, DecidableEq

/-- The packet of an answer; one for file contents echoes the stream id. -/
def ClipboardAnswer.packet (answer : ClipboardAnswer) : ClipboardAsk → Attempt Bytes
  | .format _ => clipboardWriteFormatDataResponse answer.ok answer.data
  | .file streamId => clipboardWriteFileContentsResponse answer.ok streamId answer.data

def clipboardPacketType (data : Bytes) : Option UInt16 :=
  match clipboardParsePacket data with
  | .error _ => none
  | .ok packet => some packet.type

def isClipboardResponse (data : Bytes) : Bool :=
  clipboardPacketType data == some cbFormatDataResponse ||
    clipboardPacketType data == some cbFileContentsResponse

inductive ClipboardInput where
  /-- The application asks for data or for file contents. -/
  | requestFormat (channelId : UInt16) (formatId : UInt32) (send : UInt16 → Bytes → Status)
  | requestFile (channelId : UInt16) (request : FileContentsRequest)
      (send : UInt16 → Bytes → Status)
  | cancel
  /-- The oldest request is answered. -/
  | answer (channelId : UInt16) (answer : ClipboardAnswer)
  /-- The client sends anything but a response. -/
  | notice (channelId : UInt16) (data : Bytes)

structure ClipboardOutput where
  status : Status := .ok
  events : List ClipboardEvent := []
  answered : Option (ClipboardWaiting × ClipboardAnswer) := none
  deriving Repr, DecidableEq

def ClipboardLink.enqueue (link : ClipboardLink) (ask : ClipboardAsk) :
    Status × ClipboardPeer → ClipboardOutput × ClipboardLink
  | (.ok, peer) => ({}, { peer, waiting := link.waiting ++ [{ ask }] })
  | (status, peer) => ({ status }, { link with peer })

def clipboardStep (link : ClipboardLink) : ClipboardInput → Exec (ClipboardOutput × ClipboardLink)
  | .requestFormat channelId formatId send =>
      .ok (link.enqueue (.format formatId)
        (sendClipboardFormatDataRequest link.peer send channelId formatId))
  | .requestFile channelId request send =>
      .ok (link.enqueue (.file request.streamId)
        (sendClipboardFileContentsRequest link.peer send channelId request))
  | .cancel =>
      match cancelClipboardRequests link.peer with
      | ((.ok, events), peer) =>
          .ok ({ events },
            { peer, waiting := link.waiting.map fun waiting => { waiting with cancelled := true } })
      | ((status, events), peer) => .ok ({ status, events }, { link with peer })
  | .answer channelId answer =>
      match link.waiting with
      | [] => .ok ({}, link)
      | waiting :: rest =>
          match answer.packet waiting.ask with
          -- the client has nothing that it could send
          | .error _ => .ok ({}, link)
          | .ok data =>
              let ((status, events), peer) := updateClipboardState link.peer channelId data
              .ok ({ status, events, answered := some (waiting, answer) }, { peer, waiting := rest })
  | .notice channelId data =>
      if isClipboardResponse data then .ok ({}, link)
      else
        let ((status, events), peer) := updateClipboardState link.peer channelId data
        .ok ({ status, events }, { link with peer })

/-- A peer whose clipboard was just reset, with an application that listens. -/
def clipboardStart (peer : ClipboardPeer) (reconnect : Bool) : ClipboardLink :=
  { peer := { (clipboardStateReset peer reconnect).2 with callback := true } }

def ClipboardEvent.isResponse (event : ClipboardEvent) : Prop :=
  event.type = .formatDataResponse ∨ event.type = .fileContentsResponse

structure ClipboardEvent.Completes (event : ClipboardEvent) (ask : ClipboardAsk)
    (answer : ClipboardAnswer) : Prop where
  status : event.status = .ok
  success : event.success = answer.ok
  data : event.data = answer.data
  about : match ask with
    | .format formatId => event.type = .formatDataResponse ∧ event.formatId = formatId
    | .file streamId => event.type = .fileContentsResponse ∧ event.streamId = streamId

/-- An answer to a request that was cancelled is not delivered; one to another request is, once,
    under the id of the request and without an error. Nothing else is delivered as an answer. -/
def ClipboardOutput.Attributed (out : ClipboardOutput) : Prop :=
  match out.answered with
  | none => ∀ event ∈ out.events, ¬ event.isResponse
  | some (waiting, answer) =>
      if waiting.cancelled then ∀ event ∈ out.events, ¬ event.isResponse
      else out.status = .ok ∧ ∃ event, out.events = [event] ∧ event.Completes waiting.ask answer

/-- A request is sent only when no earlier one can be taken for it: one for data when no other
    request for data waits, one for file contents when those that wait are cancelled and have other
    stream ids. -/
def SentApart (link : ClipboardLink) : ClipboardInput → Prop
  | .requestFormat _ _ _ => ∀ waiting ∈ link.waiting, ∀ formatId, waiting.ask ≠ .format formatId
  | .requestFile _ request _ => ∀ waiting ∈ link.waiting, ∀ streamId,
      waiting.ask = .file streamId → waiting.cancelled = true ∧ streamId ≠ request.streamId
  | _ => True

def ClipboardWaiting.isFormat (waiting : ClipboardWaiting) : Bool :=
  match waiting.ask with
  | .format _ => true
  | .file _ => false

/-- The requests of one kind that wait, and what the peer remembers of them. The pending one is the
    last; those before it are cancelled, and `apart` tells why their answers are not taken for its
    answer. Without a pending one all are cancelled. -/
def Tracks (pending : Bool) (current : ClipboardAsk) (apart : ClipboardAsk → Prop)
    (asked : List ClipboardWaiting) : Prop :=
  if pending then
    ∃ before, asked = before ++ [{ ask := current }] ∧
      ∀ waiting ∈ before, waiting.cancelled = true ∧ apart waiting.ask
  else ∀ waiting ∈ asked, waiting.cancelled = true

structure ClipboardTracked (link : ClipboardLink) : Prop where
  listens : link.peer.callback = true
  formats : Tracks link.peer.pendingFormat (.format link.peer.pendingFormatId) (fun _ => False)
    (link.waiting.filter (·.isFormat))
  files : Tracks link.peer.pendingFile (.file link.peer.pendingFileStreamId)
    (· ≠ .file link.peer.pendingFileStreamId) (link.waiting.filter (!·.isFormat))

section Tracks

variable {current : ClipboardAsk} {apart : ClipboardAsk → Prop} {waiting : ClipboardWaiting}
  {rest : List ClipboardWaiting}

variable {pending : Bool}

theorem Tracks.idle (cancelled : ∀ waiting ∈ rest, waiting.cancelled = true)
    (none : pending = false) : Tracks pending current apart rest := by
  rw [Tracks, none]
  exact cancelled

theorem Tracks.pop (tracks : Tracks pending current apart (waiting :: rest)) :
    (pending = true ∧ waiting = { ask := current } ∧ rest = []) ∨
      (waiting.cancelled = true ∧ (pending = true → apart waiting.ask) ∧
        Tracks pending current apart rest) := by
  cases pending with
  | false =>
    refine .inr ⟨tracks waiting List.mem_cons_self, nofun, ?_⟩
    exact fun other held => tracks other (.tail _ held)
  | true =>
    obtain ⟨before, split, late⟩ := tracks
    cases before with
    | nil =>
      obtain ⟨first, none⟩ := List.cons_eq_cons.mp split
      exact .inl ⟨rfl, first, none⟩
    | cons first before =>
      obtain ⟨rfl, rfl⟩ := List.cons_eq_cons.mp split
      obtain ⟨cancelled, isApart⟩ := late waiting List.mem_cons_self
      exact .inr ⟨cancelled, fun _ => isApart, before, rfl,
        fun other held => late other (.tail _ held)⟩

theorem Tracks.push {asked : List ClipboardWaiting} {ask : ClipboardAsk} {late : ClipboardAsk → Prop}
    (isLate : ∀ waiting ∈ asked, waiting.cancelled = true ∧ late waiting.ask) :
    Tracks true ask late (asked ++ [{ ask := ask }]) :=
  ⟨asked, rfl, isLate⟩

end Tracks

structure SameRequests (peer peer' : ClipboardPeer) : Prop where
  callback : peer'.callback = peer.callback
  pendingFormat : peer'.pendingFormat = peer.pendingFormat
  pendingFormatId : peer'.pendingFormatId = peer.pendingFormatId
  pendingFile : peer'.pendingFile = peer.pendingFile
  pendingFileStreamId : peer'.pendingFileStreamId = peer.pendingFileStreamId

theorem SameRequests.refl (peer : ClipboardPeer) : SameRequests peer peer :=
  ⟨rfl, rfl, rfl, rfl, rfl⟩

theorem SameRequests.tracked {link : ClipboardLink} {peer : ClipboardPeer}
    (same : SameRequests link.peer peer) (tracked : ClipboardTracked link) :
    ClipboardTracked { link with peer } := by
  refine ⟨same.callback.trans tracked.listens, ?_, ?_⟩
  · rw [same.pendingFormat, same.pendingFormatId]
    exact tracked.formats
  · rw [same.pendingFile, same.pendingFileStreamId]
    exact tracked.files

section Packets

variable {peer peer' : ClipboardPeer} {packet : ClipboardPacket} {typed : ClipboardEvent}
  {event : Option ClipboardEvent}

theorem handleFormatList_other (handled : handleFormatList peer packet typed = .ok (event, peer')) :
    SameRequests peer peer' ∧ ∀ e ∈ event, ¬ e.isResponse := by
  simp only [handleFormatList, bind_eq_ok, refuse_else] at handled
  obtain ⟨_, -, count, -, -, formats, -, handled⟩ := handled
  cases handled
  refine ⟨⟨rfl, rfl, rfl, rfl, rfl⟩, ?_⟩
  intro e held
  cases held
  simp [ClipboardEvent.isResponse]

theorem handleClipboardPacket_other (noFormat : packet.type ≠ cbFormatDataResponse)
    (noFile : packet.type ≠ cbFileContentsResponse)
    (handled : handleClipboardPacket peer packet typed = .ok (event, peer')) :
    SameRequests peer peer' ∧ ∀ e ∈ event, ¬ e.isResponse := by
  have plain : ∀ e : ClipboardEvent, e.type ≠ .formatDataResponse → e.type ≠ .fileContentsResponse →
      ∀ e' ∈ some e, ¬ e'.isResponse := by
    intro e noFormat noFile e' held
    cases held
    exact not_or.mpr ⟨noFormat, noFile⟩
  unfold handleClipboardPacket at handled
  by_cases ready : packet.type = cbMonitorReady
  · rw [if_pos ready] at handled
    cases handled
    exact ⟨⟨rfl, rfl, rfl, rfl, rfl⟩, plain _ nofun nofun⟩
  rw [if_neg ready] at handled
  by_cases caps : packet.type = cbClipCaps
  · rw [if_pos caps] at handled
    obtain ⟨_, _, handled⟩ := bind_eq_ok.mp handled
    cases handled
    exact ⟨⟨rfl, rfl, rfl, rfl, rfl⟩, plain _ nofun nofun⟩
  rw [if_neg caps] at handled
  by_cases list : packet.type = cbFormatList
  · rw [if_pos list] at handled
    exact handleFormatList_other handled
  rw [if_neg list] at handled
  by_cases listed : packet.type = cbFormatListResponse
  · rw [if_pos listed] at handled
    split at handled
    · cases handled
    · cases handled
      exact ⟨⟨rfl, rfl, rfl, rfl, rfl⟩, plain _ nofun nofun⟩
  rw [if_neg listed] at handled
  by_cases wanted : packet.type = cbFormatDataRequest
  · rw [if_pos wanted] at handled
    obtain ⟨_, _, handled⟩ := bind_eq_ok.mp handled
    cases handled
    exact ⟨.refl peer, plain _ nofun nofun⟩
  rw [if_neg wanted, if_neg noFormat] at handled
  by_cases contents : packet.type = cbFileContentsRequest
  · rw [if_pos contents] at handled
    obtain ⟨_, _, handled⟩ := bind_eq_ok.mp handled
    cases handled
    exact ⟨.refl peer, plain _ nofun nofun⟩
  rw [if_neg contents, if_neg noFile] at handled
  by_cases lock : packet.type = cbLockClipData
  · rw [if_pos lock] at handled
    obtain ⟨_, _, handled⟩ := bind_eq_ok.mp handled
    cases handled
    exact ⟨⟨rfl, rfl, rfl, rfl, rfl⟩, plain _ nofun nofun⟩
  rw [if_neg lock] at handled
  by_cases unlock : packet.type = cbUnlockClipData
  · rw [if_pos unlock] at handled
    obtain ⟨_, _, handled⟩ := bind_eq_ok.mp handled
    split at handled
    · cases handled
      exact ⟨⟨rfl, rfl, rfl, rfl, rfl⟩, plain _ nofun nofun⟩
    · cases handled
  rw [if_neg unlock] at handled
  cases handled
  exact ⟨.refl peer, fun _ none => by cases none⟩

theorem updateClipboardState_other {channelId : UInt16} {data : Bytes}
    (other : isClipboardResponse data = false) :
    SameRequests peer (updateClipboardState peer channelId data).2 ∧
      ∀ e ∈ (updateClipboardState peer channelId data).1.2, ¬ e.isResponse := by
  unfold updateClipboardState
  split
  · exact ⟨.refl peer, fun _ held => absurd held List.not_mem_nil⟩
  rename_i packet parsed
  simp only [isClipboardResponse, clipboardPacketType, parsed, Bool.or_eq_false_iff,
    beq_eq_false_iff_ne, ne_eq, Option.some.injEq] at other
  dsimp only
  split
  · exact ⟨.refl peer, fun _ held => absurd held List.not_mem_nil⟩
  rename_i event after handled
  obtain ⟨same, plain⟩ := handleClipboardPacket_other other.1 other.2 handled
  refine ⟨same, ?_⟩
  intro e held
  cases event with
  | none => cases held
  | some event =>
    simp only [Option.elim_some, clipboardCallback] at held
    split at held
    · rw [List.mem_singleton.mp held]
      exact plain event rfl
    · cases held

theorem responseFlag_success (ok : Bool) : (responseFlag ok &&& cbResponseOk != 0) = ok := by
  cases ok <;> rfl

theorem updateClipboardState_format {channelId : UInt16} {answer : ClipboardAnswer} {data : Bytes}
    {formatId : UInt32} (written : answer.packet (.format formatId) = .ok data)
    (listens : peer.callback = true) :
    (peer.pendingFormat = false ∧
      updateClipboardState peer channelId data = ((.protocolError, []), peer)) ∨
    ∃ event, peer.pendingFormat = true ∧
      event.Completes (.format peer.pendingFormatId) answer ∧
      updateClipboardState peer channelId data =
        ((.ok, [event]), { peer with pendingFormat := false, pendingFormatId := 0 }) := by
  obtain ⟨parsed, response⟩ := clipboardParse_formatDataResponse written
  have kinds : cbFormatDataResponse ≠ cbMonitorReady ∧ cbFormatDataResponse ≠ cbClipCaps ∧
      cbFormatDataResponse ≠ cbFormatList ∧ cbFormatDataResponse ≠ cbFormatListResponse ∧
      cbFormatDataResponse ≠ cbFormatDataRequest := by decide
  simp only [updateClipboardState, parsed, handleClipboardPacket, kinds.1, kinds.2.1, kinds.2.2.1,
    kinds.2.2.2.1, kinds.2.2.2.2, if_false, if_true, handleFormatDataResponse, response,
    ok_bind]
  cases pending : peer.pendingFormat with
  | false => exact .inl ⟨rfl, rfl⟩
  | true =>
    refine .inr ⟨{ type := .formatDataResponse, channelId, flags := responseFlag answer.ok
                   reconnectGeneration := peer.reconnectGeneration
                   success := responseFlag answer.ok &&& cbResponseOk != 0
                   formatId := peer.pendingFormatId, data := answer.data },
      rfl, ⟨rfl, responseFlag_success _, rfl, rfl, rfl⟩, ?_⟩
    simp only [Bool.not_true, Bool.false_eq_true, if_false, attempt_pure, Option.elim_some,
      clipboardCallback, listens, if_true]

theorem updateClipboardState_file {channelId : UInt16} {answer : ClipboardAnswer} {data : Bytes}
    {streamId : UInt32} (written : answer.packet (.file streamId) = .ok data)
    (listens : peer.callback = true) :
    ((peer.pendingFile = false ∨ streamId ≠ peer.pendingFileStreamId) ∧
      updateClipboardState peer channelId data = ((.protocolError, []), peer)) ∨
    ∃ event, peer.pendingFile = true ∧ streamId = peer.pendingFileStreamId ∧
      event.Completes (.file streamId) answer ∧
      updateClipboardState peer channelId data =
        ((.ok, [event]), { peer with pendingFile := false, pendingFileStreamId := 0 }) := by
  obtain ⟨parsed, response⟩ := clipboardParse_fileContentsResponse written
  have kinds : cbFileContentsResponse ≠ cbMonitorReady ∧ cbFileContentsResponse ≠ cbClipCaps ∧
      cbFileContentsResponse ≠ cbFormatList ∧ cbFileContentsResponse ≠ cbFormatListResponse ∧
      cbFileContentsResponse ≠ cbFormatDataRequest ∧
      cbFileContentsResponse ≠ cbFormatDataResponse ∧
      cbFileContentsResponse ≠ cbFileContentsRequest := by decide
  simp only [updateClipboardState, parsed, handleClipboardPacket, kinds.1, kinds.2.1, kinds.2.2.1,
    kinds.2.2.2.1, kinds.2.2.2.2.1, kinds.2.2.2.2.2.1, kinds.2.2.2.2.2.2, if_false, if_true,
    handleFileContentsResponse, response, ok_bind]
  cases pending : peer.pendingFile with
  | false => exact .inl ⟨.inl rfl, rfl⟩
  | true =>
    by_cases same : streamId = peer.pendingFileStreamId
    · refine .inr ⟨{ type := .fileContentsResponse, channelId, flags := responseFlag answer.ok
                     reconnectGeneration := peer.reconnectGeneration
                     success := responseFlag answer.ok &&& cbResponseOk != 0
                     streamId, data := answer.data },
        rfl, same, ⟨rfl, responseFlag_success _, rfl, rfl, rfl⟩, ?_⟩
      simp only [same, Bool.not_true, Bool.false_eq_true, if_false, ne_eq, not_true_eq_false,
        attempt_pure, Option.elim_some, clipboardCallback, listens, if_true]
    refine .inl ⟨.inr same, ?_⟩
    simp only [Bool.not_true, Bool.false_eq_true, if_false, ne_eq, same, not_false_eq_true,
      if_true]
    rfl

end Packets

section Runs

variable {link link' : ClipboardLink} {out : ClipboardOutput}

theorem filter_isFormat_nil {waiting : List ClipboardWaiting}
    (none : ∀ other ∈ waiting, ∀ formatId, other.ask ≠ .format formatId) :
    waiting.filter (·.isFormat) = [] := by
  rw [List.filter_eq_nil_iff]
  intro other held isFormat
  cases kind : other.ask with
  | format formatId => exact none other held formatId kind
  | file streamId => simp [ClipboardWaiting.isFormat, kind] at isFormat

theorem silent_attributed (status : Status) : ({ status } : ClipboardOutput).Attributed :=
  fun _ held => absurd held List.not_mem_nil

variable {ask : ClipboardAsk} {formatId : UInt32} {cancelled : Bool}

theorem enqueue_failed {status : Status} (failed : status ≠ .ok) :
    link.enqueue ask (status, link.peer) = ({ status }, link) := by
  cases status with
  | ok => exact absurd rfl failed
  | _ => rfl

variable {channelId : UInt16} {answer : ClipboardAnswer}

variable {send : UInt16 → Bytes → Status} {data : Bytes} {rest : List ClipboardWaiting}

theorem cancelPending_plain (peer : ClipboardPeer) :
    ∀ event ∈ cancelPending peer, ¬ event.isResponse := by
  have plain : ∀ type formatId streamId,
      ∀ event ∈ emitClipboardCancel peer type formatId streamId, ¬ event.isResponse := by
    intro type formatId streamId event held
    simp only [emitClipboardCancel, clipboardCallback] at held
    split at held
    · rw [List.mem_singleton.mp held]
      simp [ClipboardEvent.isResponse]
    · cases held
  intro event held
  cases List.mem_append.mp held with
  | inl first =>
    split at first
    · exact plain _ _ _ event first
    · cases first
  | inr second =>
    split at second
    · exact plain _ _ _ event second
    · cases second

theorem refused_attributed {waiting : ClipboardWaiting} (answer : ClipboardAnswer)
    (cancelled : waiting.cancelled = true) (status : Status) :
    ({ status, answered := some (waiting, answer) } : ClipboardOutput).Attributed := by
  simp only [ClipboardOutput.Attributed, cancelled, if_true]
  exact fun _ held => absurd held List.not_mem_nil

theorem delivered_attributed {event : ClipboardEvent} (completes : event.Completes ask answer) :
    ({ events := [event], answered := some ({ ask }, answer) } : ClipboardOutput).Attributed := by
  simp only [ClipboardOutput.Attributed, Bool.false_eq_true, if_false, true_and]
  exact ⟨event, rfl, completes⟩

variable (tracked : ClipboardTracked link)
include tracked

theorem requestFormat_tracked (apart : SentApart link (.requestFormat channelId formatId send))
    (taken : clipboardStep link (.requestFormat channelId formatId send) = .ok (out, link')) :
    ClipboardTracked link' ∧ out.Attributed := by
  simp only [clipboardStep, sendClipboardFormatDataRequest] at taken
  split at taken
  · cases taken
    refine ⟨⟨tracked.listens, ?_, ?_⟩, silent_attributed .ok⟩
    · rw [List.filter_append, filter_isFormat_nil apart]
      exact .push nofun
    · rw [List.filter_append]
      simpa [ClipboardWaiting.isFormat] using tracked.files
  rename_i failed
  rw [enqueue_failed failed] at taken
  cases taken
  exact ⟨tracked, silent_attributed _⟩

theorem requestFile_tracked {request : FileContentsRequest}
    (apart : SentApart link (.requestFile channelId request send))
    (taken : clipboardStep link (.requestFile channelId request send) = .ok (out, link')) :
    ClipboardTracked link' ∧ out.Attributed := by
  simp only [clipboardStep, sendClipboardFileContentsRequest] at taken
  split at taken
  · rw [enqueue_failed (by decide)] at taken
    cases taken
    exact ⟨tracked, silent_attributed _⟩
  split at taken
  · cases taken
    refine ⟨⟨tracked.listens, ?_, ?_⟩, silent_attributed .ok⟩
    · rw [List.filter_append]
      simpa [ClipboardWaiting.isFormat] using tracked.formats
    · rw [List.filter_append]
      refine .push ?_
      intro waiting held
      obtain ⟨inside, isFile⟩ := List.mem_filter.mp held
      cases kind : waiting.ask with
      | format formatId => simp [ClipboardWaiting.isFormat, kind] at isFile
      | file streamId =>
        obtain ⟨cancelled, other⟩ := apart waiting inside streamId kind
        refine ⟨cancelled, ?_⟩
        intro same
        cases same
        exact other rfl
  · rename_i failed
    rw [enqueue_failed failed] at taken
    cases taken
    exact ⟨tracked, silent_attributed _⟩

theorem cancel_tracked (taken : clipboardStep link .cancel = .ok (out, link')) :
    ClipboardTracked link' ∧ out.Attributed := by
  simp only [clipboardStep, cancelClipboardRequests] at taken
  by_cases closed : link.peer.state = .closed
  · rw [if_pos closed] at taken
    cases taken
    exact ⟨tracked, silent_attributed _⟩
  rw [if_neg closed] at taken
  cases taken
  have all : ∀ (p : ClipboardWaiting → Bool), ∀ waiting ∈ (link.waiting.map fun waiting =>
      { waiting with cancelled := true }).filter p, waiting.cancelled = true := by
    intro p waiting held
    obtain ⟨_, _, rfl⟩ := List.mem_map.mp (List.mem_filter.mp held).1
    rfl
  exact ⟨⟨tracked.listens, .idle (all _) rfl, .idle (all _) rfl⟩, cancelPending_plain link.peer⟩

theorem notice_tracked (taken : clipboardStep link (.notice channelId data) = .ok (out, link')) :
    ClipboardTracked link' ∧ out.Attributed := by
  simp only [clipboardStep] at taken
  split at taken
  · cases taken
    exact ⟨tracked, silent_attributed .ok⟩
  rename_i other
  cases taken
  obtain ⟨same, plain⟩ := @updateClipboardState_other link.peer channelId data (by simpa using other)
  exact ⟨same.tracked tracked, plain⟩

theorem answerFormat_tracked
    (oldest : link.waiting = { ask := .format formatId, cancelled } :: rest)
    (written : answer.packet (.format formatId) = .ok data)
    (taken : clipboardStep link (.answer channelId answer) = .ok (out, link')) :
    ClipboardTracked link' ∧ out.Attributed := by
  have formats := tracked.formats
  have files := tracked.files
  rw [oldest] at formats files
  simp only [ClipboardWaiting.isFormat, List.filter_cons_of_pos] at formats
  simp only [ClipboardWaiting.isFormat, Bool.not_true, Bool.false_eq_true, not_false_eq_true,
    List.filter_cons_of_neg] at files
  simp only [clipboardStep, oldest, written] at taken
  rcases @updateClipboardState_format link.peer channelId answer data formatId written
    tracked.listens with ⟨idle, refused⟩ | ⟨event, pending, completes, delivered⟩
  · rw [refused] at taken
    cases taken
    rcases formats.pop with ⟨pending, _⟩ | ⟨isCancelled, _, left⟩
    · exact absurd (idle.symm.trans pending) nofun
    · exact ⟨⟨tracked.listens, left, files⟩, refused_attributed answer isCancelled _⟩
  · rw [delivered] at taken
    cases taken
    rcases formats.pop with ⟨_, current, none⟩ | ⟨_, isApart, _⟩
    · cases current
      refine ⟨⟨tracked.listens, .idle ?_ rfl, files⟩, delivered_attributed completes⟩
      intro waiting held
      exact absurd (none ▸ held) List.not_mem_nil
    · exact absurd (isApart pending) id

theorem answerFile_tracked {streamId : UInt32}
    (oldest : link.waiting = { ask := .file streamId, cancelled } :: rest)
    (written : answer.packet (.file streamId) = .ok data)
    (taken : clipboardStep link (.answer channelId answer) = .ok (out, link')) :
    ClipboardTracked link' ∧ out.Attributed := by
  have formats := tracked.formats
  have files := tracked.files
  rw [oldest] at formats files
  simp only [ClipboardWaiting.isFormat, Bool.false_eq_true, not_false_eq_true,
    List.filter_cons_of_neg] at formats
  simp only [ClipboardWaiting.isFormat, Bool.not_false, List.filter_cons_of_pos] at files
  simp only [clipboardStep, oldest, written] at taken
  rcases @updateClipboardState_file link.peer channelId answer data streamId written
    tracked.listens with ⟨idle, refused⟩ | ⟨event, pending, same, completes, delivered⟩
  · rw [refused] at taken
    cases taken
    rcases files.pop with ⟨pending, current, _⟩ | ⟨isCancelled, _, left⟩
    · cases current
      cases idle with
      | inl idle => exact absurd (idle.symm.trans pending) nofun
      | inr other => exact absurd rfl other
    · exact ⟨⟨tracked.listens, formats, left⟩, refused_attributed answer isCancelled _⟩
  · rw [delivered] at taken
    cases taken
    rcases files.pop with ⟨_, current, none⟩ | ⟨_, isApart, _⟩
    · cases current
      refine ⟨⟨tracked.listens, formats, .idle ?_ rfl⟩, delivered_attributed completes⟩
      intro waiting held
      exact absurd (none ▸ held) List.not_mem_nil
    · exact absurd (by rw [same]) (isApart pending)

theorem clipboardStep_tracked {input : ClipboardInput}
    (apart : SentApart link input) (taken : clipboardStep link input = .ok (out, link')) :
    ClipboardTracked link' ∧ out.Attributed := by
  cases input with
  | requestFormat channelId formatId send => exact requestFormat_tracked tracked apart taken
  | requestFile channelId request send => exact requestFile_tracked tracked apart taken
  | cancel => exact cancel_tracked tracked taken
  | notice channelId data => exact notice_tracked tracked taken
  | answer channelId answer =>
    match oldest : link.waiting with
    | [] =>
      simp only [clipboardStep, oldest] at taken
      cases taken
      exact ⟨tracked, silent_attributed .ok⟩
    | { ask, cancelled } :: rest =>
      cases written : answer.packet ask with
      | error stop =>
        simp only [clipboardStep, oldest, written] at taken
        cases taken
        exact ⟨tracked, silent_attributed .ok⟩
      | ok data =>
        cases ask with
        | format formatId => exact answerFormat_tracked tracked oldest written taken
        | file streamId => exact answerFile_tracked tracked oldest written taken

end Runs

/-- In every run whose requests are sent apart, from a clipboard that was just reset, every step
    delivers what it should: an answer goes to the application once, under the id of the request
    that it answers and without an error, unless the request was cancelled. -/
theorem clipboard_answers_attributed {peer : ClipboardPeer} {reconnect : Bool}
    {link link' : ClipboardLink} {input : ClipboardInput} {out : ClipboardOutput}
    (reached : ReachableWithin clipboardStep SentApart (clipboardStart peer reconnect) link)
    (apart : SentApart link input) (taken : clipboardStep link input = .ok (out, link')) :
    out.Attributed := by
  have start : ClipboardTracked (clipboardStart peer reconnect) :=
    ⟨rfl, .idle nofun rfl, .idle nofun rfl⟩
  have tracked := reached.invariant ClipboardTracked start fun _ _ _ _ tracked apart taken =>
    (clipboardStep_tracked tracked apart taken).1
  exact (clipboardStep_tracked tracked apart taken).2

/-- A request for the format `formatId` on channel 7, which leaves. -/
def askFormat (formatId : UInt32) : ClipboardInput := .requestFormat 7 formatId fun _ _ => .ok

def letterA : ClipboardAnswer := { ok := true, data := [65] }

theorem clipboard_answers_attributed_text :
    ∃ asked answered out, clipboardStep (clipboardStart {} false) (askFormat 13) = .ok ({}, asked) ∧
      clipboardStep asked (.answer 7 letterA) = .ok (out, answered) ∧
      out.answered = some ({ ask := .format 13 }, letterA) ∧ out.Attributed := by
  refine ⟨_, _, _, rfl, rfl, rfl, ?_⟩
  have apart : SentApart (clipboardStart {} false) (askFormat 13) :=
    fun _ held => absurd held List.not_mem_nil
  exact @clipboard_answers_attributed {} false _ _ (.answer 7 letterA) _
    (.step .init apart rfl) trivial rfl

/-- Two requests for data overlap: the answer to the first is delivered under the format of the
    second, and the answer to the second is refused. -/
theorem overlapping_formats_confused :
    ∃ outs link first second,
      run clipboardStep (clipboardStart {} false)
        [askFormat 1, askFormat 13, .answer 7 letterA, .answer 7 letterA] = .ok (outs, link) ∧
      outs = [{}, {}, first, second] ∧
      first.answered = some ({ ask := .format 1 }, letterA) ∧
      first.events.map (fun event => (event.type, event.formatId)) = [(.formatDataResponse, 13)] ∧
      second.answered = some ({ ask := .format 13 }, letterA) ∧ second.status = .protocolError ∧
      ¬ first.Attributed ∧ ¬ second.Attributed := by
  refine ⟨_, _, _, _, rfl, rfl, rfl, rfl, rfl, rfl, ?_, ?_⟩
  · rintro ⟨_, event, same, completes⟩
    cases same
    exact absurd completes.about.2 (by decide)
  · rintro ⟨delivered, _⟩
    cases delivered

end LibRdp.Server
