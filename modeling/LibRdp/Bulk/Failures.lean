import LibRdp.Bulk.Alike

/-! # When a refused packet leaves no trace

A refused packet gives back its write offset, but not the history bytes it has
written, a flush or move it has applied, the level-2 state an inner packet has
advanced, or the output level 1 has appended. `Harmless` says of a packet and
the state it meets that none of these happens; then no later sequence of calls
can tell that the packet was offered.
-/

namespace LibRdp.Bulk

open Machine Coding Lz77

structure MppcStarts (level : MppcLevel) (w : Window UInt8) (data : Bytes) (tokens : List Token)
    (rest : List Bool) (w' : Window UInt8) : Prop where
  encodable : ∀ t ∈ tokens, Encodable level t
  spelled : packetBits data = encodeTokens level tokens ++ rest
  applied : mppcApplyAll level w tokens = some w'

/-- The flags change neither the write offset nor the history, and the tokens the packet starts
    with write only bytes that the history holds there already. -/
structure MppcHarmless (state : MppcState) (flags : UInt8) (data : Bytes) : Prop where
  opened : mppcOpen state flags = ⟨state.memory, state.writeOffset⟩
  written : hasFlag flags packetCompressed = true → ∀ tokens rest w,
    MppcStarts state.level (mppcOpen state flags) data tokens rest w → w.memory = state.memory

section Mppc

variable {state state' : MppcState} {flags : UInt8} {data decoded decoded' : Bytes}
  {status : Status}

theorem mppcDecompress_refused (valid : state.Valid) (harmless : MppcHarmless state flags data)
    (ran : mppcDecompress state flags data decoded = .ok (status, state', decoded'))
    (failed : status ≠ .ok) : decoded' = decoded ∧ MppcAlike state' state := by
  rw [mppcDecompress_eq valid] at ran
  rcases mppcDecompressBody_cases (mppcOpen_sized valid flags) flags data decoded with
    ⟨-, accepted⟩ | ⟨compressed, tokens, w, rest, all, spelled, applied,
      ⟨-, accepted⟩ | ⟨-, refused⟩⟩
  · rw [accepted] at ran
    cases ran
    exact absurd rfl failed
  · rw [accepted] at ran
    cases ran
    exact absurd rfl failed
  · rw [refused] at ran
    cases ran
    have kept := harmless.written compressed tokens rest w ⟨all, spelled, applied⟩
    refine ⟨rfl, rfl, kept, ?_⟩
    simp only [mppcReady_writeOffset, harmless.opened]

end Mppc

structure Rdp6Starts (core : Rdp6Core) (data : Bytes) (core' : Rdp6Core) : Prop where
  long : 4 ≤ data.length
  spelled : ∃ tokens bits rest, SpelledAll tokens bits ∧ lsbBits data = bits ++ rest ∧
    rdp6ApplyAll core tokens = some core'

/-- The packet is refused for its `AT_FRONT` bit, or its flags change nothing that can be seen
    and the tokens it starts with write only bytes that the history holds there already. The byte
    at the write offset may differ: it is overwritten before any offset reaches it. -/
def Rdp6Harmless (core : Rdp6Core) (flags : UInt8) (data : Bytes) : Prop :=
  ∀ opened, rdp6Open core flags = some opened → Rdp6Alike opened core ∧
    ∀ core', Rdp6Starts opened data core' →
      ∀ i, i ≠ core.window.cursor → core'.window.memory.cell i = core.window.memory.cell i

section Rdp6

variable {state state' : Rdp6State} {flags : UInt8} {data decoded decoded' : Bytes}
  {status : Status}

theorem rdp6DecodeBody_refused {core : Rdp6Core} (sized : core.Sized)
    (ran : rdp6DecodeBody (rdp6Ready core) flags data decoded = .ok (status, state', decoded'))
    (failed : status ≠ .ok) : decoded' = decoded ∧ state'.core.cache = core.cache ∧
      state'.core.window.cursor = core.window.cursor ∧
      (state'.core.window.memory = core.window.memory ∨
        ∃ core', Rdp6Starts core data core' ∧
          state'.core.window.memory = core'.window.memory) := by
  rcases rdp6DecodeBody_cases sized flags data decoded with ⟨-, accepted⟩ |
    ⟨-, -, refused⟩ | ⟨-, long, tokens, bits, rest, core', all, spelled, applied,
      ⟨-, accepted⟩ | refused⟩
  · rw [accepted] at ran
    cases ran
    exact absurd rfl failed
  · rw [refused] at ran
    simp only [Except.ok.injEq, Prod.mk.injEq] at ran
    obtain ⟨-, rfl, rfl⟩ := ran
    exact ⟨rfl, rfl, rfl, .inl rfl⟩
  · rw [accepted] at ran
    cases ran
    exact absurd rfl failed
  · rw [refused] at ran
    simp only [Except.ok.injEq, Prod.mk.injEq] at ran
    obtain ⟨-, rfl, rfl⟩ := ran
    exact ⟨rfl, rfl, rfl, .inr ⟨core', ⟨long, tokens, bits, rest, all, spelled, applied⟩, rfl⟩⟩

theorem rdp6Decode_refused (valid : state.Valid) (harmless : Rdp6Harmless state.core flags data)
    (ran : rdp6Decode state flags data decoded = .ok (status, state', decoded'))
    (failed : status ≠ .ok) : decoded' = decoded ∧ Rdp6Alike state'.core state.core := by
  have sized' : state'.core.Sized := by
    obtain ⟨_, core, _, again, sized⟩ := rdp6Decode_valid valid flags data decoded
    rw [ran] at again
    simp only [Except.ok.injEq, Prod.mk.injEq] at again
    obtain ⟨-, rfl, -⟩ := again
    rw [rdp6Ready_core]
    exact sized
  rw [rdp6Decode_eq valid] at ran
  cases opening : rdp6Open state.core flags with
  | none =>
    simp only [opening, Except.ok.injEq, Prod.mk.injEq] at ran
    obtain ⟨-, rfl, rfl⟩ := ran
    rw [rdp6Ready_core]
    exact ⟨rfl, .refl _⟩
  | some opened =>
    simp only [opening] at ran
    obtain ⟨alike, written⟩ := harmless opened opening
    have sized := rdp6Open_sized valid.sized opening
    obtain ⟨rfl, cache, cursor, memory⟩ := rdp6DecodeBody_refused sized ran failed
    have here := cursor.trans alike.window.cursor
    have size := sized'.size.trans valid.sized.size.symm
    refine ⟨rfl, ⟨size, here, ?_⟩, cache.trans alike.cache⟩
    intro i away
    rcases memory with untouched | ⟨core', starts, moved⟩
    · rw [untouched]
      exact alike.window.cells i (by rw [← cursor]; exact away)
    · rw [moved]
      exact written core' starts i (by rw [← here]; exact away)

end Rdp6

/-- Level 1 refuses the packet for its flags, or its `AT_FRONT` bit changes nothing and it emits
    no byte. -/
def Level1Harmless (w : Window UInt8) (flags : UInt8) (payload : Bytes) : Prop :=
  l1FlagsInvalid flags = true ∨ (rdp61Open w flags = w ∧ Rdp61Stuck w flags payload)

/-- Level 2, where the packet has one, keeps its state: it refuses a harmless packet, or hands on
    what needs no history. What reaches level 1 is harmless there. -/
def Rdp61Harmless (w : Window UInt8) (level2 : MppcState) : Bytes → Prop
  | flags :: flags2 :: packed =>
      if hasFlag flags l1InnerCompression then
        MppcHarmless level2 flags2 packed ∧
        (hasFlag flags2 packetCompressed = false → Level1Harmless w flags packed) ∧
        (hasFlag flags2 packetCompressed = true → ∀ tokens rest w2,
          MppcStarts level2.level (mppcOpen level2 flags2) packed tokens rest w2 →
          rest.length < 8 → tokens = [] ∧ Level1Harmless w flags [])
      else Level1Harmless w flags packed
  | _ => True

section Rdp61

variable {state state' : Rdp61State} {level2 level2' : MppcState} {flags flags2 : UInt8}
  {data payload decoded decoded' : Bytes} {status : Status}

theorem rdp61DecompressLevel1_refused (valid : state.Valid)
    (harmless : Level1Harmless state.window flags payload)
    (ran : rdp61DecompressLevel1 state (flags :: flags2 :: payload) decoded =
      .ok (status, state', decoded')) :
    decoded' = decoded ∧ state'.window = state.window := by
  rw [rdp61DecompressLevel1_eq valid] at ran
  rcases harmless with invalid | ⟨opened, stuck⟩
  · rw [if_pos invalid] at ran
    simp only [Except.ok.injEq, Prod.mk.injEq] at ran
    obtain ⟨-, rfl, rfl⟩ := ran
    exact ⟨rfl, rdp61Ready_window _⟩
  · split at ran
    · simp only [Except.ok.injEq, Prod.mk.injEq] at ran
      obtain ⟨-, rfl, rfl⟩ := ran
      exact ⟨rfl, rdp61Ready_window _⟩
    · obtain ⟨status', same, -, -⟩ := rdp61Payload_stuck valid.sized stuck decoded
      rw [opened, same] at ran
      simp only [Except.ok.injEq, Prod.mk.injEq] at ran
      obtain ⟨-, rfl, rfl⟩ := ran
      exact ⟨rfl, rdp61Ready_window _⟩

theorem level2_accepted (valid2 : level2.Valid) {w : Window UInt8} {packed bytes : Bytes}
    (inner : hasFlag flags l1InnerCompression = true)
    (harmless : Rdp61Harmless w level2 (flags :: flags2 :: packed))
    (ran : mppcDecompress level2 flags2 packed [flags, flags2] = .ok (.ok, level2', bytes)) :
    (∃ payload, bytes = flags :: flags2 :: payload ∧ Level1Harmless w flags payload) ∧
      MppcAlike level2' level2 := by
  simp only [Rdp61Harmless, inner, if_true] at harmless
  obtain ⟨⟨opened, -⟩, plain, spelled⟩ := harmless
  have alike : MppcAlike (mppcReady level2.level (mppcOpen level2 flags2)) level2 :=
    ⟨rfl, congrArg Window.memory opened, congrArg Window.cursor opened⟩
  rw [mppcDecompress_eq valid2] at ran
  rcases mppcDecompressBody_cases (mppcOpen_sized valid2 flags2) flags2 packed [flags, flags2] with
    ⟨raw, accepted⟩ | ⟨compressed, tokens, w', rest, all, code, applied,
      ⟨short, accepted⟩ | ⟨-, refused⟩⟩
  · rw [accepted] at ran
    cases ran
    exact ⟨⟨packed, rfl, plain raw⟩, alike⟩
  · obtain ⟨rfl, level1⟩ := spelled compressed tokens rest w' ⟨all, code, applied⟩ short
    rw [accepted] at ran
    cases applied
    rw [Nat.sub_self] at ran
    cases ran
    exact ⟨⟨[], rfl, level1⟩, alike⟩
  · rw [refused] at ran
    cases ran

theorem rdp61Decompress_refused (valid : state.Valid) (valid2 : level2.Valid)
    (harmless : Rdp61Harmless state.window level2 data)
    (ran : rdp61Decompress state level2 data decoded = .ok (status, state', level2', decoded'))
    (failed : status ≠ .ok) :
    decoded' = decoded ∧ state'.window = state.window ∧ MppcAlike level2' level2 := by
  obtain _ | ⟨flags, _ | ⟨flags2, packed⟩⟩ := data
  · cases ran
    exact ⟨rfl, rfl, .refl _⟩
  · cases ran
    exact ⟨rfl, rfl, .refl _⟩
  · cases inner : hasFlag flags l1InnerCompression with
    | false =>
      simp only [Rdp61Harmless, inner] at harmless
      obtain ⟨status1, state1, decoded1, ran1, -⟩ :=
        rdp61DecompressLevel1_keeps valid (flags :: flags2 :: packed) decoded
      simp [rdp61Decompress, inner, ran1] at ran
      obtain ⟨rfl, rfl, rfl, rfl⟩ := ran
      obtain ⟨same, window⟩ := rdp61DecompressLevel1_refused valid harmless ran1
      exact ⟨same, window, .refl _⟩
    | true =>
      obtain ⟨status2, state2, bytes, ran2, -, -⟩ :=
        mppcDecompress_valid valid2 flags2 packed [flags, flags2]
      by_cases done : status2 = .ok
      · subst done
        obtain ⟨status1, state1, decoded1, ran1, -⟩ :=
          rdp61DecompressLevel1_keeps valid bytes decoded
        simp [rdp61Decompress, inner, ran2, ran1] at ran
        obtain ⟨rfl, rfl, rfl, rfl⟩ := ran
        obtain ⟨⟨payload, rfl, level1⟩, alike⟩ := level2_accepted valid2 inner harmless ran2
        obtain ⟨same, window⟩ := rdp61DecompressLevel1_refused valid level1 ran1
        exact ⟨same, window, alike⟩
      simp [rdp61Decompress, inner, ran2, done] at ran
      obtain ⟨rfl, rfl, rfl, rfl⟩ := ran
      simp only [Rdp61Harmless, inner, if_true] at harmless
      obtain ⟨-, alike⟩ := mppcDecompress_refused valid2 harmless.1 ran2 done
      exact ⟨rfl, rfl, alike⟩

end Rdp61

def Harmless (d : Decompressor) (flags : UInt8) (data : Bytes) : Prop :=
  let type := flags &&& bulkTypeMask
  (type = bulkType8k → MppcHarmless d.mppc8k flags data) ∧
  (type = bulkType64k → MppcHarmless d.mppc64k flags data) ∧
  (type = bulkTypeRdp6 → Rdp6Harmless d.rdp6.core flags data) ∧
  (type = bulkTypeRdp61 → Rdp61Harmless d.rdp61.window d.rdp61Level2 data)

section Decompressor

variable {d d' : Decompressor} {flags : UInt8} {data decoded decoded' : Bytes} {status : Status}

theorem decompress_refused (valid : d.Valid) (harmless : Harmless d flags data)
    (ran : decompress d flags data decoded = .ok (status, d', decoded')) (failed : status ≠ .ok) :
    decoded' = decoded ∧ d'.Alike d := by
  obtain ⟨harmless8k, harmless64k, harmless6, harmless61⟩ := harmless
  simp only [decompress] at ran
  split at ran
  · cases ran
    exact absurd rfl failed
  split at ran
  · cases ran
    exact absurd rfl failed
  split at ran
  · next type =>
      obtain ⟨status', mppc8k, bytes, ran8k, -, -⟩ :=
        mppcDecompress_valid valid.mppc8k flags data decoded
      simp only [ran8k, ok_bind, pure_eq_ok, Except.ok.injEq, Prod.mk.injEq] at ran
      obtain ⟨rfl, rfl, rfl⟩ := ran
      obtain ⟨same, alike⟩ := mppcDecompress_refused valid.mppc8k (harmless8k type) ran8k failed
      exact ⟨same, { Decompressor.Alike.refl d with mppc8k := alike }⟩
  split at ran
  · next type =>
      obtain ⟨status', mppc64k, bytes, ran64k, -, -⟩ :=
        mppcDecompress_valid valid.mppc64k flags data decoded
      simp only [ran64k, ok_bind, pure_eq_ok, Except.ok.injEq, Prod.mk.injEq] at ran
      obtain ⟨rfl, rfl, rfl⟩ := ran
      obtain ⟨same, alike⟩ := mppcDecompress_refused valid.mppc64k (harmless64k type) ran64k failed
      exact ⟨same, { Decompressor.Alike.refl d with mppc64k := alike }⟩
  split at ran
  · next type =>
      obtain ⟨status', core, bytes, ran6, -⟩ := rdp6Decode_valid valid.rdp6 flags data decoded
      simp only [ran6, ok_bind, pure_eq_ok, Except.ok.injEq, Prod.mk.injEq] at ran
      obtain ⟨rfl, rfl, rfl⟩ := ran
      obtain ⟨same, alike⟩ := rdp6Decode_refused valid.rdp6 (harmless6 type) ran6 failed
      exact ⟨same, { Decompressor.Alike.refl d with rdp6 := alike }⟩
  split at ran
  · next type =>
      obtain ⟨status', rdp61, level2, bytes, ran61, -⟩ :=
        rdp61Decompress_keeps valid.rdp61 valid.rdp61Level2 data decoded
      simp only [ran61, ok_bind, pure_eq_ok, Except.ok.injEq, Prod.mk.injEq] at ran
      obtain ⟨rfl, rfl, rfl⟩ := ran
      obtain ⟨same, window, alike⟩ := rdp61Decompress_refused valid.rdp61 valid.rdp61Level2
        (harmless61 type) ran61 failed
      exact ⟨same, { Decompressor.Alike.refl d with rdp61 := window, rdp61Level2 := alike }⟩
  · cases ran
    exact ⟨rfl, .refl d⟩

/-- If the packet is refused, the output is as it was and no later sequence of calls can tell that
    the packet was offered. -/
def RefusalInvisible (d : Decompressor) (flags : UInt8) (data decoded : Bytes) : Prop :=
  ∀ status d' decoded', decompress d flags data decoded = .ok (status, d', decoded') →
    status ≠ .ok → decoded' = decoded ∧ Indistinguishable bulkStep d' d

/-- In every state of a run the refusal of a harmless packet is invisible. -/
theorem refusal_invisible_of_harmless (reached : Reachable bulkStep decompressorInit d)
    (harmless : Harmless d flags data) : RefusalInvisible d flags data decoded := by
  intro status d' decoded' ran failed
  have valid := bulk_reachable_valid reached
  obtain ⟨same, alike⟩ := decompress_refused valid harmless ran failed
  obtain ⟨_, _, _, again, valid'⟩ := decompress_valid valid flags data decoded
  rw [ran] at again
  cases again
  exact ⟨same, Decompressor.Twins.indistinguishable ⟨valid', valid, alike⟩⟩

/-- A packet with no match records is harmless, also where others were decoded before. -/
theorem refusal_invisible_no_records : ∃ d,
    bulkStep decompressorInit (.decompress 0x20 [0x61, 0x62] []) = .ok ((.ok, [0x61, 0x62]), d) ∧
      Harmless d 0x23 [0x01, 0x00, 0x00, 0x00, 0x78] ∧
      RefusalInvisible d 0x23 [0x01, 0x00, 0x00, 0x00, 0x78] [0x2a] := by
  obtain ⟨d, taken⟩ := literals_taken
  have harmless : Harmless d 0x23 [0x01, 0x00, 0x00, 0x00, 0x78] := by
    refine ⟨fun type => absurd type (by decide), fun type => absurd type (by decide),
      fun type => absurd type (by decide), fun _ => ?_⟩
    exact .inr ⟨rfl, .inr ⟨rfl, .inl rfl⟩⟩
  exact ⟨d, taken, harmless, refusal_invisible_of_harmless (.step .init taken) harmless⟩

/-- A literal followed by a cut-off match is refused, but the literal stays in the history: the
    match after it reads it. -/
theorem refusal_visible_literal :
    answers bulkStep decompressorInit [.decompress 0x20 [0x61, 0xff] [],
      .decompress 0x20 [0xf0, 0x00] []] = .ok [(.protocolError, []), (.ok, [0x61, 0, 0])] ∧
    answers bulkStep decompressorInit [.decompress 0x20 [0xf0, 0x00] []] = .ok [(.ok, [0, 0, 0])] ∧
    ¬ RefusalInvisible decompressorInit 0x20 [0x61, 0xff] [] := by
  have offered : answers bulkStep decompressorInit [.decompress 0x20 [0x61, 0xff] [],
      .decompress 0x20 [0xf0, 0x00] []] = .ok [(.protocolError, []), (.ok, [0x61, 0, 0])] := by
    rfl
  have unoffered : answers bulkStep decompressorInit [.decompress 0x20 [0xf0, 0x00] []] =
      .ok [(.ok, [0, 0, 0])] := by
    rfl
  refine ⟨offered, unoffered, ?_⟩
  intro invisible
  obtain ⟨status, d', decoded', ran, -⟩ :=
    decompress_valid decompressorInit_valid 0x20 [0x61, 0xff] []
  have taken : bulkStep decompressorInit (.decompress 0x20 [0x61, 0xff] []) =
      .ok ((status, decoded'), d') := by
    simp [bulkStep, ran]
  rw [answers_cons_ok taken] at offered
  have failed : status ≠ .ok := by
    intro done
    rw [done] at offered
    cases later : answers bulkStep d' [.decompress 0x20 [0xf0, 0x00] []] <;>
      simp [later, Except.map] at offered
  have same := (invisible status d' decoded' ran failed).2 [.decompress 0x20 [0xf0, 0x00] []]
  rw [same, unoffered] at offered
  simp [Except.map] at offered

end Decompressor

end LibRdp.Bulk
