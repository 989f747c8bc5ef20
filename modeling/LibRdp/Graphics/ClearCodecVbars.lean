import LibRdp.Graphics.ClearCodec

/-! # What the slots of bars hold

A slot is known by what was last stored in it and by the hits since then. A hit cuts the slot
down to the height of its band, or fills it up with empty pixels: of what was stored, only the rows
above the lowest hit are still there.
-/

namespace LibRdp.Graphics

open Machine

structure SlotHistory where
  stored : List Pixel := []
  hits : List Nat := []
  deriving Repr, DecidableEq

namespace SlotHistory

def step (slot : Nat) (history : SlotHistory) : VbarEvent → SlotHistory
  | .reset => {}
  | .stored other rows => if other = slot then { stored := rows } else history
  | .hit other height _ =>
      if other = slot then { history with hits := history.hits ++ [height] } else history

def kept (history : SlotHistory) : Nat := history.hits.foldl min history.stored.length

def rows (history : SlotHistory) : List Pixel := history.stored.take history.kept

end SlotHistory

def historyOf (slot : Nat) (trace : List VbarEvent) : SlotHistory :=
  trace.foldl (SlotHistory.step slot) {}

@[simp] theorem historyOf_append (slot : Nat) (trace : List VbarEvent) (event : VbarEvent) :
    historyOf slot (trace ++ [event]) = (historyOf slot trace).step slot event := by
  rw [historyOf, List.foldl_append]
  rfl

def paddedVbar (height : Nat) (rows : List Pixel) : List Pixel :=
  (List.range height).map fun y => rows.getD y {}

theorem foldl_min_le (hits : List Nat) (length : Nat) : hits.foldl min length ≤ length := by
  induction hits generalizing length with
  | nil => exact Nat.le_refl _
  | cons height hits ih => exact Nat.le_trans (ih _) (Nat.min_le_left _ _)

variable {length : Nat}

theorem le_foldl_min {hits : List Nat} {bound : Nat} :
    bound ≤ hits.foldl min length ↔ bound ≤ length ∧ ∀ height ∈ hits, bound ≤ height := by
  induction hits generalizing length with
  | nil => simp
  | cons height hits ih =>
    rw [List.foldl_cons, ih, Nat.le_min, List.forall_mem_cons, and_assoc]

theorem kept_le (history : SlotHistory) : history.kept ≤ history.stored.length :=
  foldl_min_le _ _

theorem rows_length (history : SlotHistory) : history.rows.length = history.kept := by
  rw [SlotHistory.rows, List.length_take, Nat.min_eq_left (kept_le history)]

theorem rows_hit (history : SlotHistory) (height : Nat) :
    ({ history with hits := history.hits ++ [height] } : SlotHistory).rows =
      history.rows.take height := by
  simp only [SlotHistory.rows, SlotHistory.kept, List.foldl_append, List.foldl_cons, List.foldl_nil,
    List.take_take]
  rw [Nat.min_comm]

theorem rows_stored (rows : List Pixel) : ({ stored := rows } : SlotHistory).rows = rows := by
  simp [SlotHistory.rows, SlotHistory.kept]

structure SlotHolds (history : SlotHistory) (length : Nat) (vbar : Nat → Pixel) : Prop where
  long : history.rows.length ≤ length
  rows : ∀ y < length, vbar y = history.rows.getD y {}

variable {height : Nat} {trace : List VbarEvent} {context : ClearContext}

variable {y : Nat} {vbar : Nat → Pixel}

theorem getD_take (rows : List Pixel) (inside : y < height) :
    (rows.take height).getD y {} = rows.getD y {} := by
  rw [List.getD_eq_getElem?_getD, List.getD_eq_getElem?_getD, List.getElem?_take_of_lt inside]

variable {rows : List Pixel}

theorem getD_behind (behind : rows.length ≤ y) : rows.getD y {} = {} := by
  rw [List.getD_eq_getElem?_getD, List.getElem?_eq_none behind]
  rfl

theorem SlotHolds.empty (vbar : Nat → Pixel) : SlotHolds {} 0 vbar where
  long := Nat.le_refl 0
  rows := nofun

theorem SlotHolds.hit {history : SlotHistory} {next : Nat → Pixel}
    (holds : SlotHolds history length vbar)
    (same : ∀ y < height, next y = if length ≤ y then {} else vbar y) :
    SlotHolds { history with hits := history.hits ++ [height] } height next where
  long := by
    rw [rows_hit, List.length_take]
    exact Nat.min_le_left _ _
  rows y inside := by
    rw [rows_hit, getD_take _ inside, same y inside]
    split
    · rename_i behind
      rw [getD_behind (Nat.le_trans holds.long behind)]
    · rename_i before
      exact holds.rows y (Nat.not_le.mp before)

theorem SlotHolds.stored (same : ∀ y < rows.length, vbar y = rows.getD y {}) :
    SlotHolds { stored := rows } rows.length vbar where
  long := Nat.le_of_eq (congrArg List.length (rows_stored rows))
  rows y inside := by rw [rows_stored, same y inside]

/-- What a hit should leave, by what happened before; what is stored has full alpha. -/
def VbarEvent.Right (before : List VbarEvent) : VbarEvent → Prop
  | .hit slot height rows => rows = paddedVbar height (historyOf slot before).rows
  | .stored _ rows => ∀ pixel ∈ rows, pixel.a = 0xff
  | .reset => True

def TraceRight (trace : List VbarEvent) : Prop :=
  ∀ before event after, trace = before ++ event :: after → event.Right before

theorem TraceRight.nil : TraceRight [] := by
  intro before event after cut
  cases before <;> cases cut

theorem TraceRight.append {event : VbarEvent} (right : TraceRight trace)
    (here : event.Right trace) : TraceRight (trace ++ [event]) := by
  intro before other after cut
  rcases List.append_eq_append_iff.mp cut with ⟨middle, whole, last⟩ | ⟨middle, whole, last⟩
  · cases middle with
    | nil =>
      cases last
      rwa [whole, List.append_nil]
    | cons first middle =>
      have length := congrArg List.length last
      simp only [List.length_append, List.length_cons, List.length_nil] at length
      omega
  · cases middle with
    | nil =>
      cases last
      rwa [← List.append_nil before, ← whole]
    | cons first middle =>
      cases last
      exact right before _ middle whole

theorem TraceRight.before {before after : List VbarEvent} (right : TraceRight (before ++ after)) :
    TraceRight before := by
  intro earlier event later cut
  apply right earlier event (later ++ after)
  rw [cut, List.append_assoc]
  rfl

theorem TraceRight.solid (right : TraceRight trace) (slot : Nat) :
    ∀ pixel ∈ (historyOf slot trace).stored, pixel.a = 0xff := by
  induction trace using List.reverseRecOn with
  | nil => exact nofun
  | append_singleton trace event ih =>
    have here := right trace event [] rfl
    rw [historyOf_append]
    cases event with
    | reset => exact nofun
    | stored other rows =>
      rw [SlotHistory.step]
      split
      · exact here
      · exact ih right.before
    | hit other height rows =>
      rw [SlotHistory.step]
      split
      · exact ih right.before
      · exact ih right.before

structure ClearContext.VbarsSound (context : ClearContext) : Prop where
  slots : ∀ slot, SlotHolds (historyOf slot context.trace) (context.vbarLength slot)
    (context.vbar slot)
  right : TraceRight context.trace
  cursor : context.vbarCursor < clearVbarStorageEntries
  shortCursor : context.shortVbarCursor < clearShortVbarStorageEntries

namespace ClearContext.VbarsSound

theorem init : VbarsSound {} where
  slots slot := .empty _
  right := .nil
  cursor := by decide
  shortCursor := by decide

variable {context : ClearContext}

theorem reset (sound : context.VbarsSound) : context.reset.VbarsSound where
  slots slot := by
    have length : context.reset.vbarLength slot = 0 := by
      unfold ClearContext.reset ClearContext.vbarLength
      cases context.vbarLengths <;> rfl
    rw [length]
    show SlotHolds (historyOf slot (context.trace ++ [.reset])) 0 _
    rw [historyOf_append]
    exact .empty _
  right := sound.right.append trivial
  cursor := Nat.zero_lt_succ _
  shortCursor := Nat.zero_lt_succ _

theorem storeVbar (sound : context.VbarsSound)
    (solid : ∀ pixel ∈ rows, pixel.a = 0xff) : (context.storeVbar rows).VbarsSound where
  slots slot := by
    show SlotHolds (historyOf slot (context.trace ++ [.stored context.vbarCursor rows]))
      (if slot = context.vbarCursor then rows.length else context.vbarLength slot)
      fun y => if slot = context.vbarCursor ∧ y < rows.length then rows.getD y {}
        else context.vbar slot y
    rw [historyOf_append, SlotHistory.step]
    by_cases here : slot = context.vbarCursor
    · rw [if_pos here.symm, if_pos here]
      refine .stored ?_
      intro y inside
      simp only [if_pos (And.intro here inside)]
    rw [if_neg (Ne.symm here), if_neg here]
    simp only [here, false_and, if_false]
    exact sound.slots slot
  right := sound.right.append solid
  cursor := by
    have below := sound.cursor
    show (if context.vbarCursor + 1 = clearVbarStorageEntries then 0 else context.vbarCursor + 1) <
      clearVbarStorageEntries
    split
    · decide
    · omega
  shortCursor := sound.shortCursor

theorem storeShortVbar (sound : context.VbarsSound) :
    (context.storeShortVbar rows).VbarsSound where
  slots := sound.slots
  right := sound.right
  cursor := sound.cursor
  shortCursor := by
    have below := sound.shortCursor
    show (if context.shortVbarCursor + 1 = clearShortVbarStorageEntries then 0
      else context.shortVbarCursor + 1) < clearShortVbarStorageEntries
    split
    · decide
    · omega

end ClearContext.VbarsSound

theorem normalizeVbar_vbar (context : ClearContext) (slot height : Nat) (inside : y < height) :
    (context.normalizeVbar slot height).vbar slot y =
      if context.vbarLength slot ≤ y then {} else context.vbar slot y := by
  unfold ClearContext.normalizeVbar
  split
  · rename_i same
    rw [if_neg (by omega)]
  show (if slot = slot ∧ context.vbarLength slot ≤ y ∧ y < height then ({} : Pixel)
    else context.vbar slot y) = _
  simp only [true_and, inside, and_true]

theorem normalizeVbar_vbarLength (context : ClearContext) (slot height : Nat) :
    (context.normalizeVbar slot height).vbarLength slot = height := by
  unfold ClearContext.normalizeVbar
  split
  · assumption
  · exact if_pos rfl

theorem normalizeVbar_other (context : ClearContext) {slot other : Nat} (height : Nat)
    (apart : other ≠ slot) :
    (context.normalizeVbar slot height).vbar other = context.vbar other ∧
      (context.normalizeVbar slot height).vbarLength other = context.vbarLength other := by
  unfold ClearContext.normalizeVbar
  split
  · exact ⟨rfl, rfl⟩
  refine ⟨?_, if_neg apart⟩
  funext y
  exact if_neg fun here => apart here.1

@[simp] theorem normalizeVbar_trace (context : ClearContext) (slot height : Nat) :
    (context.normalizeVbar slot height).trace = context.trace := by
  unfold ClearContext.normalizeVbar
  split <;> rfl

@[simp] theorem normalizeVbar_nscodec (context : ClearContext) (slot height : Nat) :
    (context.normalizeVbar slot height).nscodec = context.nscodec := by
  unfold ClearContext.normalizeVbar
  split <;> rfl

theorem normalizeVbar_cursors (context : ClearContext) (slot height : Nat) :
    (context.normalizeVbar slot height).vbarCursor = context.vbarCursor ∧
      (context.normalizeVbar slot height).shortVbarCursor = context.shortVbarCursor := by
  unfold ClearContext.normalizeVbar
  split <;> exact ⟨rfl, rfl⟩

theorem normalizeVbar_shows (sound : context.VbarsSound) (slot height : Nat) :
    (List.range height).map ((context.normalizeVbar slot height).vbar slot) =
      paddedVbar height (historyOf slot context.trace).rows := by
  apply List.map_congr_left
  intro y held
  have inside := List.mem_range.mp held
  rw [normalizeVbar_vbar context slot height inside]
  split
  · rename_i behind
    rw [getD_behind (Nat.le_trans (sound.slots slot).long behind)]
  · rename_i before
    exact (sound.slots slot).rows y (Nat.not_le.mp before)

theorem ClearContext.VbarsSound.hit (sound : context.VbarsSound) {slot : Nat}
    (shown : rows = paddedVbar height (historyOf slot context.trace).rows) :
    ({ context.normalizeVbar slot height with
        trace := context.trace ++ [.hit slot height rows] } : ClearContext).VbarsSound where
  slots other := by
    show SlotHolds (historyOf other (context.trace ++ [.hit slot height rows]))
      ((context.normalizeVbar slot height).vbarLength other)
      ((context.normalizeVbar slot height).vbar other)
    rw [historyOf_append, SlotHistory.step]
    by_cases here : slot = other
    · subst here
      rw [if_pos rfl, normalizeVbar_vbarLength]
      exact (sound.slots slot).hit fun y inside => normalizeVbar_vbar context slot height inside
    obtain ⟨sameVbar, sameLength⟩ := normalizeVbar_other context height (Ne.symm here)
    rw [if_neg here, sameVbar, sameLength]
    exact sound.slots other
  right := sound.right.append shown
  cursor := by
    show (context.normalizeVbar slot height).vbarCursor < _
    rw [(normalizeVbar_cursors context slot height).1]
    exact sound.cursor
  shortCursor := by
    show (context.normalizeVbar slot height).shortVbarCursor < _
    rw [(normalizeVbar_cursors context slot height).2]
    exact sound.shortCursor

end LibRdp.Graphics
