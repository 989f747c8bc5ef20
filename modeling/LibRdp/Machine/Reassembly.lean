import Mathlib.Data.List.Forall2
import LibRdp.Machine.Component

/-! # Receivers of messages in pieces

A message is cut into a first piece, which announces the length of the whole, and
further pieces. A receiver that gathers what it has and tells a message in progress
from none takes any such cut, under every interleaving with other inputs, and hands
over the message once, at the last piece.
-/

namespace LibRdp.Machine

/-- A piece of a message, as it reads on the wire. -/
inductive Piece (α : Type) where
  | first (total : Nat) (data : List α)
  | more (data : List α)
  deriving Repr, DecidableEq

variable {σ ι ο κ π α : Type}

/-- The wires of a message cut into a first piece and further, non-empty pieces. -/
structure Cuts (reads : κ → Piece α → Prop) (message first : List α) (pieces : List (List α))
    (wires : List κ) : Prop where
  whole : first ++ pieces.flatten = message
  nonempty : ∀ piece ∈ pieces, piece ≠ []
  encoded : ∃ head tail, wires = head :: tail ∧ reads head (.first message.length first) ∧
    List.Forall₂ (fun wire piece => reads wire (.more piece)) tail pieces

theorem Cuts.length {reads : κ → Piece α → Prop} {message first : List α}
    {pieces : List (List α)} {wires : List κ} (cuts : Cuts reads message first pieces wires) :
    wires.length - 1 = pieces.length := by
  obtain ⟨head, tail, rfl, _, encoded⟩ := cuts.encoded
  exact encoded.length_eq

theorem Cuts.reads_all {reads : κ → Piece α → Prop} {message first : List α}
    {pieces : List (List α)} {wires : List κ} (cuts : Cuts reads message first pieces wires) :
    ∀ wire ∈ wires, ∃ piece, reads wire piece := by
  obtain ⟨head, tail, rfl, starts, encoded⟩ := cuts.encoded
  refine List.forall_mem_cons.mpr ⟨⟨_, starts⟩, ?_⟩
  clear cuts
  induction encoded with
  | nil => nofun
  | cons reads _ ih => exact List.forall_mem_cons.mpr ⟨⟨_, reads⟩, ih⟩

/-- What a receiver does with one message: `idle` is having no message in progress, `gathered` is
    having part of the message, and `able` are the parts that can be told from none. -/
structure Reassembler (step : σ → ι → Exec (ο × σ)) (mine : ι → Option κ)
    (reads : κ → Piece α → Prop) (heard : ο → π) (quiet complete : π) (message : List α)
    (idle : σ → Prop) (gathered : List α → σ → Prop) (able : List α → Prop) : Prop where
  startPart : ∀ {s i k data}, idle s → mine i = some k → reads k (.first message.length data) →
    data.length < message.length → able data →
    ∃ o s', step s i = .ok (o, s') ∧ heard o = quiet ∧ gathered data s'
  startWhole : ∀ {s i k}, idle s → mine i = some k → reads k (.first message.length message) →
    ∃ o s', step s i = .ok (o, s') ∧ heard o = complete ∧ idle s'
  nextPart : ∀ {s i k fragment piece}, gathered fragment s → able fragment → mine i = some k →
    reads k (.more piece) → piece ≠ [] → (fragment ++ piece).length < message.length →
    ∃ o s', step s i = .ok (o, s') ∧ heard o = quiet ∧ gathered (fragment ++ piece) s'
  nextLast : ∀ {s i k fragment piece}, gathered fragment s → able fragment → mine i = some k →
    reads k (.more piece) → piece ≠ [] → fragment ++ piece = message →
    ∃ o s', step s i = .ok (o, s') ∧ heard o = complete ∧ idle s'
  ableMore : ∀ {fragment piece}, able fragment → able (fragment ++ piece)
  otherIdle : ∀ {s i}, mine i = none → idle s → ∃ o s', step s i = .ok (o, s') ∧ idle s'
  otherGathered : ∀ {s i fragment}, mine i = none → gathered fragment s →
    ∃ o s', step s i = .ok (o, s') ∧ gathered fragment s'

/-- What holds while `todo` is still to come: nothing is in progress before the first and after the
    last piece, and in between the receiver has what came before. -/
inductive Reassembling (reads : κ → Piece α → Prop) (message : List α) (idle : σ → Prop)
    (gathered : List α → σ → Prop) (able : List α → Prop) : List κ → σ → Prop where
  | before (cuts : Cuts reads message first pieces wires) (can : able first ∨ pieces = [])
      (isIdle : idle s) : Reassembling reads message idle gathered able wires s
  | between (left : fragment ++ pieces.flatten = message) (nonempty : ∀ piece ∈ pieces, piece ≠ [])
      (some : pieces ≠ []) (encoded : List.Forall₂ (fun wire piece => reads wire (.more piece)) todo
        pieces) (can : able fragment) (has : gathered fragment s) :
      Reassembling reads message idle gathered able todo s
  | after (isIdle : idle s) : Reassembling reads message idle gathered able [] s

variable {step : σ → ι → Exec (ο × σ)} {mine : ι → Option κ} {reads : κ → Piece α → Prop}
  {heard : ο → π} {quiet complete : π} {message first : List α} {pieces : List (List α)}
  {wires : List κ} {idle : σ → Prop} {gathered : List α → σ → Prop} {able : List α → Prop}

theorem flatten_pos {pieces : List (List α)} (nonempty : ∀ piece ∈ pieces, piece ≠ [])
    (some : pieces ≠ []) : 0 < pieces.flatten.length := by
  cases pieces with
  | nil => exact absurd rfl some
  | cons piece pieces =>
    have length := List.length_pos_iff.mpr (nonempty piece (List.mem_cons_self ..))
    rw [List.flatten_cons, List.length_append]
    omega

variable {todo : List κ} {s : σ}

variable (receiver : Reassembler step mine reads heard quiet complete message idle gathered able)
include receiver

theorem Reassembler.own {k : κ} {i : ι} (isOwn : mine i = some k)
    (holds : Reassembling reads message idle gathered able (k :: todo) s) :
    ∃ o s', step s i = .ok (o, s') ∧ heard o = (if todo.isEmpty then complete else quiet) ∧
      Reassembling reads message idle gathered able todo s' := by
  cases holds with
  | @before first pieces _ _ cuts can isIdle =>
    obtain ⟨head, tail, same, starts, encoded⟩ := cuts.encoded
    cases same
    cases encoded with
    | nil =>
      have whole : first = message := by
        rw [← cuts.whole, List.flatten_nil, List.append_nil]
      subst whole
      obtain ⟨o, s', taken, replied, next⟩ := receiver.startWhole isIdle isOwn starts
      exact ⟨o, s', taken, replied, .after next⟩
    | @cons wire piece tail pieces starts' encoded =>
      have some : piece :: pieces ≠ [] := List.cons_ne_nil piece pieces
      have more := flatten_pos cuts.nonempty some
      have short : first.length < message.length := by
        rw [← cuts.whole, List.length_append]
        omega
      have canFirst : able first := can.resolve_right some
      obtain ⟨o, s', taken, replied, next⟩ :=
        receiver.startPart isIdle isOwn starts short canFirst
      exact ⟨o, s', taken, replied,
        .between cuts.whole cuts.nonempty some (.cons starts' encoded) canFirst next⟩
  | @between fragment pieces _ _ left nonempty some encoded can has =>
    cases encoded with
    | @cons _ piece _ pieces starts encoded =>
      have isSome : piece ≠ [] := nonempty piece (List.mem_cons_self ..)
      rw [List.flatten_cons, ← List.append_assoc] at left
      cases encoded with
      | nil =>
        rw [List.flatten_nil, List.append_nil] at left
        obtain ⟨o, s', taken, replied, next⟩ :=
          receiver.nextLast has can isOwn starts isSome left
        exact ⟨o, s', taken, replied, .after next⟩
      | @cons wire piece' tail pieces starts' encoded =>
        have later : ∀ piece ∈ piece' :: pieces, piece ≠ [] :=
          fun piece isPiece => nonempty piece (List.mem_cons_of_mem _ isPiece)
        have more := flatten_pos later (List.cons_ne_nil piece' pieces)
        have short : (fragment ++ piece).length < message.length := by
          simp only [← left, List.length_append] at more ⊢
          omega
        obtain ⟨o, s', taken, replied, next⟩ :=
          receiver.nextPart has can isOwn starts isSome short
        exact ⟨o, s', taken, replied,
          .between left later (List.cons_ne_nil piece' pieces) (.cons starts' encoded)
            (receiver.ableMore can) next⟩

theorem Reassembler.other {i : ι} (isOther : mine i = none)
    (holds : Reassembling reads message idle gathered able todo s) :
    ∃ o s', step s i = .ok (o, s') ∧ Reassembling reads message idle gathered able todo s' := by
  cases holds with
  | before cuts can isIdle =>
    obtain ⟨o, s', taken, next⟩ := receiver.otherIdle isOther isIdle
    exact ⟨o, s', taken, .before cuts can next⟩
  | between left nonempty some encoded can has =>
    obtain ⟨o, s', taken, next⟩ := receiver.otherGathered isOther has
    exact ⟨o, s', taken, .between left nonempty some encoded can next⟩
  | after isIdle =>
    obtain ⟨o, s', taken, next⟩ := receiver.otherIdle isOther isIdle
    exact ⟨o, s', taken, .after next⟩

omit receiver in
theorem replies_last (wires : List κ) (some : wires ≠ []) :
    replies (fun _ todo => if todo.isEmpty then complete else quiet) wires =
      List.replicate (wires.length - 1) quiet ++ [complete] := by
  induction wires with
  | nil => exact absurd rfl some
  | cons k todo ih =>
    cases todo with
    | nil => rfl
    | cons k' todo =>
      rw [replies, ih (List.cons_ne_nil k' todo)]
      rfl

/-- A message in pieces is handed over once, at its last piece, and nothing is in progress
    afterwards. -/
theorem Reassembler.delivers (cuts : Cuts reads message first pieces wires)
    (can : able first ∨ pieces = []) {inputs : List ι} (own : inputs.filterMap mine = wires)
    (start : idle s) :
    ∃ outs s', run step s inputs = .ok (outs, s') ∧
      heardAnswers mine heard inputs outs = List.replicate pieces.length quiet ++ [complete] ∧
      idle s' := by
  obtain ⟨outs, s', ran, same, last⟩ := run_interleaved receiver.own receiver.other own
    (Reassembling.before cuts can start)
  obtain ⟨head, tail, rfl, _, encoded⟩ := cuts.encoded
  refine ⟨outs, s', ran, ?_, ?_⟩
  · rw [same, replies_last _ (List.cons_ne_nil head tail), ← encoded.length_eq]
    rfl
  · cases last with
    | before cuts =>
      obtain ⟨_, _, wrong, _⟩ := cuts.encoded
      cases wrong
    | between _ _ some encoded =>
      cases encoded
      exact absurd rfl some
    | after isIdle => exact isIdle

end LibRdp.Machine
