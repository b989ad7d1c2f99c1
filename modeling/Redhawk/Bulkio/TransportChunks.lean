import Mathlib.Data.Nat.Cast.Field
import Redhawk.Bulkio.SampleTimes

/-!
The packets that a `ChunkingTransport` (`CorbaTransport.cpp`) cuts a packet into, and whether its loop
comes to an end.
-/

namespace Redhawk.Bulkio

open List

namespace Transport

variable {α : Type}

def maxSamplesPerPush (maxTransferBytes bits : Nat) : Nat := maxTransferBytes * 9 / 10 * 8 / bits

theorem maxSamplesPerPush_fits (maxTransferBytes bits : Nat) :
    maxSamplesPerPush maxTransferBytes bits * bits ≤ maxTransferBytes * 8 := by
  have whole := Nat.div_mul_le_self (maxTransferBytes * 9 / 10 * 8) bits
  rw [maxSamplesPerPush]
  omega

theorem frameSize_pos (sri : StreamSRI) : 0 < frameSize sri := by
  have item := itemSize_pos sri
  simp only [frameSize]
  split
  · rename_i positive
    have subsize : 0 < sri.subsize.toInt.toNat := by
      have := Int32.lt_iff_toInt_lt.mp positive
      simp at this
      omega
    exact Nat.mul_pos item subsize
  · exact item

theorem itemSize_dvd_frameSize (sri : StreamSRI) : itemSize sri ∣ frameSize sri := by
  simp only [frameSize]
  split
  · exact Nat.dvd_mul_right _ _
  · exact Nat.dvd_refl _

def maxPushSize (maxSamplesPerPush : Nat) (sri : StreamSRI) : Nat :=
  maxSamplesPerPush / frameSize sri * frameSize sri

theorem maxPushSize_pos {maxSamplesPerPush : Nat} {sri : StreamSRI} :
    0 < maxPushSize maxSamplesPerPush sri ↔ frameSize sri ≤ maxSamplesPerPush := by
  have frame := frameSize_pos sri
  rw [maxPushSize, Nat.mul_pos_iff_of_pos_right frame, Nat.div_pos_iff]
  omega

structure Chunk (α : Type) where
  data : List α
  T : PrecisionUTCTime
  eos : Bool

def chunks (maxPushSize itemSize : Nat) (xdelta : ℚ) (eos : Bool) :
    Nat → List α → PrecisionUTCTime → List (Chunk α)
  | 0, _, _ => []
  | rounds + 1, samples, packetTime =>
      let pushSize := min samples.length maxPushSize
      let remaining := samples.drop pushSize
      let next := if packetTime.tcstatus = TCS_VALID then
        packetTime.add ((pushSize / itemSize : Nat) * xdelta) else packetTime
      ⟨samples.take pushSize, packetTime, remaining.isEmpty && eos⟩ ::
        if remaining.isEmpty then [] else chunks maxPushSize itemSize xdelta eos rounds remaining next

def deliverAll (streamID : String) (source : Nat × StreamSRI) :
    List (Chunk α) → Transport α → PushAnswer × Transport α
  | [], transport => (.delivered, transport)
  | chunk :: rest, transport =>
      match transport.deliver chunk.data chunk.T chunk.eos streamID (some source) with
      | (.delivered, transport) => deliverAll streamID source rest transport
      | stopped => stopped

section Loop

variable {maxPushSize itemSize : Nat} {eos : Bool} {streamID : String} {source : Nat × StreamSRI}

theorem sendChunks_deliverAll {rounds : Nat} {samples : List α} (enough : samples.length < rounds)
    (steps : 0 < maxPushSize ∨ samples = []) (packetTime : PrecisionUTCTime)
    (transport : Transport α) :
    let delivered := transport.deliverAll streamID source
      (chunks maxPushSize itemSize source.2.xdelta eos rounds samples packetTime)
    transport.sendChunks maxPushSize itemSize eos streamID source rounds samples packetTime =
      (some delivered.1, delivered.2) := by
  induction rounds generalizing samples packetTime transport with
  | zero => omega
  | succ rounds ih =>
      simp only [sendChunks, chunks, deliverAll]
      generalize transport.deliver (samples.take (min samples.length maxPushSize)) packetTime
        ((samples.drop (min samples.length maxPushSize)).isEmpty && eos) streamID (some source) = answered
      obtain ⟨answer, after⟩ := answered
      cases answer with
      | delivered =>
          dsimp only
          split
          · rfl
          · rename_i remains
            have positive : 0 < maxPushSize := by
              refine steps.resolve_right fun none => remains ?_
              rw [none, drop_nil]
              rfl
            refine ih ?_ (.inl positive) _ _
            have some : samples.drop (min samples.length maxPushSize) ≠ [] := by simpa using remains
            have left := length_pos_iff.mpr some
            rw [length_drop] at left ⊢
            omega
      | timeout | failed | fatal => rfl

theorem sendChunks_stuck {samples : List α} (some : samples ≠ []) (transport : Transport α)
    (delivers : ∀ place, transport.remote.takesPacket (transport.packetPushes + place) = .delivered)
    (rounds : Nat) (packetTime : PrecisionUTCTime) :
    (transport.sendChunks 0 itemSize eos streamID source rounds samples packetTime).1 = none := by
  induction rounds generalizing packetTime transport with
  | zero => rfl
  | succ rounds ih =>
      have first : transport.remote.takesPacket transport.packetPushes = .delivered := delivers 0
      simp only [sendChunks, deliver, first, Nat.min_zero, drop_zero, List.isEmpty_iff, some, if_false]
      refine ih _ (fun place => ?_) _
      rw [← delivers (place + 1), Nat.add_assoc, Nat.add_comm 1 place]

theorem sendChunks_raised {place : Nat} {samples : List α} {transport : Transport α}
    (raises : transport.remote.takesPacket (transport.packetPushes + place) ≠ .delivered)
    {rounds : Nat} (enough : place < rounds) (packetTime : PrecisionUTCTime) :
    (transport.sendChunks maxPushSize itemSize eos streamID source rounds samples packetTime).1 ≠
      none := by
  induction rounds generalizing place samples packetTime transport with
  | zero => omega
  | succ rounds ih =>
      simp only [sendChunks]
      cases answer : transport.remote.takesPacket transport.packetPushes with
      | delivered =>
          simp only [deliver, answer]
          split
          · simp
          · cases place with
            | zero => exact absurd answer raises
            | succ place =>
                refine ih ?_ (Nat.lt_of_succ_lt_succ enough) _
                rw [Nat.add_comm place 1, ← Nat.add_assoc] at raises
                exact raises
      | timeout | failed | fatal => simp [deliver, answer]

end Loop

/-- The loop ends just where its packet has no data, or where a frame fits into a push, or where the
remote end raises something. -/
theorem sendPacket_returns_iff (transport : Transport α) {maxSamplesPerPush : Nat}
    (limit : transport.remote.maxSamplesPerPush = some maxSamplesPerPush) (data : List α)
    (T : PrecisionUTCTime) (eos : Bool) (streamID : String) (source : Nat × StreamSRI) :
    (∃ fuel, (transport.sendPacket fuel data T eos streamID source).1 ≠ none) ↔
      data = [] ∨ frameSize source.2 ≤ maxSamplesPerPush ∨
        ∃ place, transport.remote.takesPacket (transport.packetPushes + place) ≠ .delivered := by
  simp only [sendPacket, limit, ← maxPushSize_pos, ← maxPushSize.eq_1]
  constructor
  · rintro ⟨fuel, ends⟩
    by_contra stuck
    simp only [not_or, not_exists, not_not, Nat.pos_iff_ne_zero] at stuck
    obtain ⟨some, zero, delivers⟩ := stuck
    rw [zero] at ends
    exact ends (sendChunks_stuck some transport delivers fuel T)
  · rintro (rfl | positive | ⟨place, raises⟩)
    · exact ⟨1, by rw [sendChunks_deliverAll (Nat.zero_lt_one) (.inr rfl)]; simp⟩
    · refine ⟨data.length + 1, ?_⟩
      rw [sendChunks_deliverAll (Nat.lt_succ_self _) (.inl positive)]
      simp
    · exact ⟨place + 1, sendChunks_raised raises (Nat.lt_succ_self _) T⟩

/-- A connection for elements of eight bytes, the largest message as `omniORB` has it by default. -/
def doubles : Transport Nat := { remote := { maxSamplesPerPush := some (maxSamplesPerPush 2097152 64) } }

theorem doubles_returns :
    ∃ fuel, (doubles.sendPacket fuel [1, 2, 3] .notSet true "a" (0, Sri.create "a")).1 ≠ none :=
  (sendPacket_returns_iff doubles rfl [1, 2, 3] .notSet true "a" (0, Sri.create "a")).mpr
    (.inr (.inl (by decide +kernel)))

/-- A frame of 235930 elements does not fit into a push. -/
theorem doubles_stuck :
    ¬∃ fuel, (doubles.sendPacket fuel [1, 2, 3] .notSet true "a"
      (0, { Sri.create "a" with subsize := 235930 })).1 ≠ none := by
  rintro ⟨fuel, ends⟩
  refine ends ?_
  exact sendChunks_stuck (by simp) _ (fun _ => rfl) fuel _

section Chunks

/-- What is asked of the chunks of a packet. `limit` is the longest of them; where the packet has no
valid time, its chunks share it. -/
structure Cut (sri : StreamSRI) (limit : Nat) (data : List α) (T : PrecisionUTCTime) (eos : Bool)
    (pieces : List (Chunk α)) : Prop where
  joined : pieces.flatMap Chunk.data = data
  within : ∀ piece ∈ pieces, piece.data.length ≤ limit
  frames : ∀ front last, pieces = front ++ [last] →
    (∀ piece ∈ front, frameSize sri ∣ piece.data.length ∧ piece.eos = false) ∧ last.eos = eos
  some : pieces ≠ []
  stamped : T.tcstatus = TCS_VALID → ∀ before piece after, pieces = before ++ piece :: after →
    piece.T.seconds = T.seconds + sri.xdelta * ((before.flatMap Chunk.data).length / itemSize sri : ℚ)
  unstamped : T.tcstatus ≠ TCS_VALID → ∀ piece ∈ pieces, piece.T = T

theorem chunks_cut {sri : StreamSRI} {size : Nat} (whole : frameSize sri ∣ size) {rounds : Nat}
    {data : List α} (enough : data.length < rounds) (steps : 0 < size ∨ data = [])
    (T : PrecisionUTCTime) (eos : Bool) :
    Cut sri size data T eos (chunks size (itemSize sri) sri.xdelta eos rounds data T) := by
  induction rounds generalizing data T with
  | zero => omega
  | succ rounds ih =>
      rw [chunks]
      by_cases last : data.length ≤ size
      · -- the last chunk takes what is left
        have taken : min data.length size = data.length := Nat.min_eq_left last
        simp only [taken, drop_length, take_length, isEmpty_nil, Bool.true_and, if_true]
        refine ⟨by simp, by simpa using last, ?_, cons_ne_nil _ _, ?_, by simp⟩
        · intro front final split
          obtain ⟨rfl, rfl⟩ : front = [] ∧ final = ⟨data, T, eos⟩ := by
            cases front with
            | nil => exact ⟨rfl, by simpa using split.symm⟩
            | cons first rest => simp at split
          exact ⟨by simp, rfl⟩
        · intro _ before piece after split
          cases before with
          | nil =>
              obtain ⟨rfl, _⟩ := cons.inj split
              simp
          | cons first rest => simp at split
      · have positive : 0 < size := steps.resolve_right fun none => by simp [none] at last
        have taken : min data.length size = size := Nat.min_eq_right (by omega)
        have remains : (data.drop size).isEmpty = false := by
          rw [isEmpty_eq_false_iff, ← length_pos_iff, length_drop]
          omega
        simp only [taken, remains, Bool.false_and, Bool.false_eq_true, if_false]
        have shorter : (data.drop size).length < rounds := by
          rw [length_drop]
          omega
        have rest := ih shorter (.inl positive) (if T.tcstatus = TCS_VALID then
          T.add ((size / itemSize sri : Nat) * sri.xdelta) else T)
        have width : (data.take size).length = size := by
          rw [length_take]
          omega
        refine ⟨?_, ?_, ?_, cons_ne_nil _ _, ?_, ?_⟩
        · rw [flatMap_cons, rest.joined, take_append_drop]
        · exact forall_mem_cons.mpr ⟨width.le, rest.within⟩
        · intro front final split
          cases front with
          | nil => exact absurd (cons.inj split).2 rest.some
          | cons first front =>
              obtain ⟨rfl, same⟩ := cons.inj split
              obtain ⟨frames, flag⟩ := rest.frames front final same
              refine ⟨forall_mem_cons.mpr ⟨⟨?_, rfl⟩, frames⟩, flag⟩
              rw [width]
              exact whole
        · intro valid before piece after split
          cases before with
          | nil =>
              obtain ⟨rfl, _⟩ := cons.inj split
              simp
          | cons first before =>
              obtain ⟨rfl, same⟩ := cons.inj split
              rw [if_pos valid] at rest same
              have later := rest.stamped (by rw [PrecisionUTCTime.add_tcstatus, valid]) before piece
                after same
              have items : ((size / itemSize sri : Nat) : ℚ) = size / itemSize sri :=
                Nat.cast_div (Nat.dvd_trans (itemSize_dvd_frameSize sri) whole)
                  (Nat.cast_ne_zero.mpr (itemSize_pos sri).ne')
              rw [later, PrecisionUTCTime.add_seconds, items, flatMap_cons, length_append,
                width, Nat.cast_add]
              ring
        · intro invalid
          rw [if_neg invalid] at rest ⊢
          exact forall_mem_cons.mpr ⟨rfl, rest.unstamped invalid⟩

def pushesOf (streamID : String) (source : Nat × StreamSRI) (transport : Transport α)
    (pieces : List (Chunk α)) : List (Push α) :=
  pieces.mapIdx fun place piece => .packet piece.data piece.T piece.eos streamID (some source)
    (transport.remote.takesPacket (transport.packetPushes + place))

theorem deliverAll_pushes {streamID : String} {source : Nat × StreamSRI} {pieces : List (Chunk α)}
    {transport : Transport α} (alive : transport.alive) :
    ∃ sent, sent <+: pieces ∧
      (transport.deliverAll streamID source pieces).2.pushes =
        (transport.pushesOf streamID source sent).reverse ++ transport.pushes ∧
      ((transport.deliverAll streamID source pieces).1 = .delivered → sent = pieces) ∧
      ((∀ place, transport.remote.takesPacket (transport.packetPushes + place) = .delivered) →
        (transport.deliverAll streamID source pieces).1 = .delivered) := by
  induction pieces generalizing transport with
  | nil => exact ⟨[], prefix_rfl, by simp [deliverAll, pushesOf], fun _ => rfl, fun _ => rfl⟩
  | cons piece rest ih =>
      cases answer : transport.remote.takesPacket transport.packetPushes with
      | delivered =>
          let next : Transport α := { transport with
            packetPushes := transport.packetPushes + 1
            pushes := .packet piece.data piece.T piece.eos streamID (some source) .delivered :: transport.pushes }
          have step : transport.deliverAll streamID source (piece :: rest) =
              next.deliverAll streamID source rest := by
            simp [deliverAll, deliver, answer, alive, next]
          have shifted (place : Nat) : transport.packetPushes + (place + 1) =
              next.packetPushes + place := by
            rw [Nat.add_comm place 1, ← Nat.add_assoc]
          obtain ⟨sent, front, pushes, all, delivers⟩ := @ih next alive
          rw [step]
          refine ⟨piece :: sent, prefix_cons_inj piece |>.mpr front, ?_, fun whole => ?_, ?_⟩
          · rw [pushes, pushesOf, pushesOf, mapIdx_cons, reverse_cons, append_assoc]
            simp only [shifted, Nat.add_zero, answer]
            rfl
          · rw [all whole]
          · exact fun each => delivers fun place => by rw [← shifted]; exact each (place + 1)
      | timeout | failed | fatal =>
          refine ⟨[piece], ⟨rest, rfl⟩, ?_, ?_, ?_⟩
          · simp [deliverAll, deliver, answer, alive, pushesOf]
          · simp [deliverAll, deliver, answer]
          · exact fun each => absurd (each 0) (by simp [answer])

end Chunks

/-- What a packet's pushes are, where a frame fits into one. -/
theorem sendPacket_chunks (transport : Transport α) (alive : transport.alive) (maxTransferBytes bits : Nat)
    (limit : transport.remote.maxSamplesPerPush = some (maxSamplesPerPush maxTransferBytes bits))
    (source : Nat × StreamSRI)
    (fits : frameSize source.2 ≤ maxSamplesPerPush maxTransferBytes bits) (data : List α)
    (T : PrecisionUTCTime) (eos : Bool) (streamID : String) (fuel : Nat) (enough : data.length < fuel) :
    let sending := transport.sendPacket fuel data T eos streamID source
    ∃ pieces sent, Cut source.2 (maxSamplesPerPush maxTransferBytes bits) data T eos pieces ∧
      (∀ piece ∈ pieces, piece.data.length * bits ≤ maxTransferBytes * 8) ∧
      sending.2.pushes = (transport.pushesOf streamID source sent).reverse ++ transport.pushes ∧
      sent <+: pieces ∧ (sending.1 = some .delivered → sent = pieces) ∧ sending.1 ≠ none ∧
      ((∀ place, transport.remote.takesPacket (transport.packetPushes + place) = .delivered) →
        sending.1 = some .delivered) := by
  intro sending
  have positive := maxPushSize_pos.mpr fits
  let pieces := chunks (maxPushSize (maxSamplesPerPush maxTransferBytes bits) source.2)
    (itemSize source.2) source.2.xdelta eos fuel data T
  let delivered := transport.deliverAll streamID source pieces
  have same : sending = (some delivered.1, delivered.2) := by
    simp only [sending, sendPacket, limit]
    exact sendChunks_deliverAll enough (.inl positive) T transport
  have cut := chunks_cut (Nat.dvd_mul_left (frameSize source.2) _) enough (.inl positive) T eos
  obtain ⟨pushed, front, pushes, all, delivers⟩ := @deliverAll_pushes _ streamID source pieces
    transport alive
  have smaller : maxPushSize (maxSamplesPerPush maxTransferBytes bits) source.2 ≤
      maxSamplesPerPush maxTransferBytes bits := Nat.div_mul_le_self _ _
  rw [same]
  refine ⟨_, pushed, ⟨cut.joined, fun piece member => (cut.within piece member).trans smaller,
    cut.frames, cut.some, cut.stamped, cut.unstamped⟩, fun piece member => ?_, pushes, front,
    fun whole => all (Option.some.inj whole), Option.some_ne_none _,
    fun each => congrArg some (delivers each)⟩
  have size := (cut.within piece member).trans smaller
  exact (Nat.mul_le_mul_right bits size).trans (maxSamplesPerPush_fits maxTransferBytes bits)

def bytes : Transport Nat := { remote := { maxSamplesPerPush := some (maxSamplesPerPush 10 8) } }

theorem bytes_chunks :
    ∃ pieces, Cut (Sri.create "a") (maxSamplesPerPush 10 8) (range 20) .notSet true pieces ∧
      (bytes.sendPacket 21 (range 20) .notSet true "a" (0, Sri.create "a")).2.pushes =
        (bytes.pushesOf "a" (0, Sri.create "a") pieces).reverse := by
  obtain ⟨pieces, sent, cut, _, pushes, _, all, _, delivers⟩ :=
    sendPacket_chunks bytes rfl 10 8 rfl (0, Sri.create "a") (by decide) (range 20) .notSet true
      "a" 21 (by decide)
  rw [all (delivers fun _ => rfl)] at pushes
  exact ⟨pieces, cut, by simpa [bytes] using pushes⟩

def pushedData : Push α → List α
  | .sri .. => []
  | .packet data .. => data

/-- A time that is not valid is not advanced. -/
theorem bytes_unstamped :
    ¬∀ before data T eos streamID source answer after,
      (bytes.sendPacket 11 (range 10) .notSet true "a" (0, Sri.create "a")).2.pushes.reverse =
        before ++ Push.packet data T eos streamID source answer :: after →
      T.seconds = PrecisionUTCTime.notSet.seconds + (Sri.create "a").xdelta *
        ((before.flatMap pushedData).length / itemSize (Sri.create "a") : ℚ) := by
  intro all
  have second := all
    [.packet (range 9) .notSet false "a" (some (0, Sri.create "a")) .delivered]
    [9] .notSet true "a" (some (0, Sri.create "a")) .delivered [] (by decide +kernel)
  revert second
  decide +kernel

end Transport

end Redhawk.Bulkio
