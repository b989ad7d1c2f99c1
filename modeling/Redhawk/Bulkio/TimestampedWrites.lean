import Redhawk.Bulkio.InStreamCore
import Redhawk.Bulkio.OutStreamBuffer

/-!
The writes of a C++ `NumericOutputStream` that take a list of time stamps (`_writeMultiple` of
`bulkio_out_stream.cpp`).
-/

namespace Redhawk.Bulkio

open Library Transport List

variable {α β : Type}

structure SampleType (β α : Type) where
  isComplex : Bool
  scalars : β → List α
  width : ∀ sample, (scalars sample).length = if isComplex then 2 else 1

namespace SampleType

def scalar : SampleType α α := ⟨false, fun sample => [sample], fun _ => rfl⟩

def complex : SampleType (α × α) α := ⟨true, fun sample => [sample.1, sample.2], fun _ => rfl⟩

end SampleType

/-- `std::logic_error`s of the writes, and a slice that ends after its buffer does or starts after its
own end, of which `shared_buffer` promises nothing. -/
inductive WriteFault where
  | noTimestamps | notComplex | badSlice
deriving DecidableEq

namespace OutputStream

def writeSamples (samples : SampleType β α) (data : List β) (time : PrecisionUTCTime)
    (stream : OutputStream α) : Except WriteFault (Sending α) :=
  if samples.isComplex && !stream.sri.complex then .error .notComplex
  else .ok (stream.write (data.flatMap samples.scalars) time)

def writeSlices (samples : SampleType β α) (data : List β) :
    Nat → List SampleTimestamp → OutputStream α → Sending α × Option WriteFault
  | _, [], stream => (([], stream), none)
  | first, timestamp :: rest, stream =>
      if first < data.length then
        let last := match rest with
          | [] => data.length
          | next :: _ =>
              let last := if next.offset < data.length then next.offset else data.length
              if !samples.isComplex && stream.sri.complex then last * 2 else last
        if last < first ∨ data.length < last then (([], stream), some .badSlice)
        else match stream.writeSamples samples ((data.take last).drop first) timestamp.time with
          | .error fault => (([], stream), some fault)
          | .ok (sent, stream) =>
              let ((later, final), fault) := writeSlices samples data last rest stream
              ((sent ++ later, final), fault)
      else (([], stream), none)

def writeMultiple (samples : SampleType β α) (data : List β) (times : List SampleTimestamp)
    (stream : OutputStream α) : Sending α × Option WriteFault :=
  if times.isEmpty then (([], stream), some .noTimestamps)
  else stream.writeSlices samples data 0 times

def stride (samples : SampleType β α) (stream : OutputStream α) : Nat :=
  if !samples.isComplex && stream.sri.complex then 2 else 1

theorem stride_pos (samples : SampleType β α) (stream : OutputStream α) : 0 < stream.stride samples := by
  simp only [stride]
  split <;> omega

theorem stride_width {samples : SampleType β α} {stream : OutputStream α}
    (matched : samples.isComplex → stream.sri.complex) :
    stream.stride samples * (if samples.isComplex then 2 else 1) = itemSize stream.sri := by
  simp only [stride, itemSize]
  cases complex : samples.isComplex with
  | false => simp
  | true => simp [matched complex]

section Slices

variable {samples : SampleType β α} {data : List β} {stream : OutputStream α}

theorem writeSamples_passes (matched : samples.isComplex → stream.sri.complex) {slice : List β}
    (passes : stream.passes (slice.flatMap samples.scalars)) (time : PrecisionUTCTime) :
    stream.writeSamples samples slice time =
      .ok ([stream.send (slice.flatMap samples.scalars) time false], stream) := by
  have same : (samples.isComplex && !stream.sri.complex) = false := by
    cases complex : samples.isComplex with
    | false => rfl
    | true => simp [matched complex]
  rw [writeSamples, same, if_neg Bool.false_ne_true, OutputStream.write, if_pos passes]

def slicePackets (pieces : List (List α)) (times : List SampleTimestamp) (stream : OutputStream α) :
    List (SentPacket α) :=
  pieces.zipWith (fun slice timestamp => stream.send slice timestamp.time false) times

theorem slicePackets_data {pieces : List (List α)} {times : List SampleTimestamp}
    (each : pieces.length ≤ times.length) (stream : OutputStream α) :
    (stream.slicePackets pieces times).flatMap SentPacket.data = pieces.flatten := by
  induction pieces generalizing times with
  | nil => rfl
  | cons piece rest ih =>
      obtain ⟨timestamp, later, rfl⟩ : ∃ timestamp later, times = timestamp :: later :=
        exists_cons_of_length_pos (Nat.lt_of_lt_of_le (Nat.succ_pos _) each)
      have others := ih (Nat.le_of_succ_le_succ each)
      rw [slicePackets, zipWith_cons_cons, flatMap_cons, ← slicePackets, others, flatten_cons]
      rfl

theorem writeSlices_passes (matched : samples.isComplex → stream.sri.complex)
    {timestamp : SampleTimestamp} {rest : List SampleTimestamp}
    (sorted : (timestamp :: rest).Pairwise fun early late => early.offset < late.offset)
    (inside : ∀ other ∈ timestamp :: rest, other.offset * stream.stride samples < data.length)
    (passes : ∀ slice ∈ slices data ((timestamp :: rest).map fun other =>
      other.offset * stream.stride samples), stream.passes (slice.flatMap samples.scalars)) :
    stream.writeSlices samples data (timestamp.offset * stream.stride samples) (timestamp :: rest) =
      ((stream.slicePackets ((slices data ((timestamp :: rest).map fun other =>
          other.offset * stream.stride samples)).map (·.flatMap samples.scalars))
        (timestamp :: rest), stream), none) := by
  induction rest generalizing timestamp with
  | nil =>
      obtain ⟨begins, _⟩ := forall_mem_cons.mp inside
      obtain ⟨only, _⟩ := forall_mem_cons.mp passes
      have ends : ¬(data.length < timestamp.offset * stream.stride samples ∨
        data.length < data.length) := by omega
      rw [writeSlices, if_pos begins]
      rw [if_neg ends, take_length, writeSamples_passes matched only]
      rfl
  | cons next rest ih =>
      obtain ⟨begins, within⟩ := forall_mem_cons.mp inside
      obtain ⟨front, others⟩ := forall_mem_cons.mp passes
      obtain ⟨first, later⟩ := pairwise_cons.mp sorted
      have ordered : timestamp.offset * stream.stride samples < next.offset * stream.stride samples :=
        Nat.mul_lt_mul_of_pos_right (first next mem_cons_self) (stream.stride_pos samples)
      have below : next.offset * stream.stride samples < data.length := within next mem_cons_self
      have last : (if !samples.isComplex && stream.sri.complex then
            (if next.offset < data.length then next.offset else data.length) * 2
          else if next.offset < data.length then next.offset else data.length) =
          next.offset * stream.stride samples := by
        have inner : next.offset < data.length :=
          Nat.lt_of_le_of_lt (Nat.le_mul_of_pos_right _ (stream.stride_pos samples)) below
        rw [if_pos inner, stride]
        split
        · rfl
        · rw [Nat.mul_one]
      have bounds : ¬(next.offset * stream.stride samples < timestamp.offset * stream.stride samples ∨
        data.length < next.offset * stream.stride samples) := by omega
      rw [writeSlices, if_pos begins]
      rw [last, if_neg bounds, writeSamples_passes matched front]
      dsimp only
      rw [ih later within others]
      rfl

end Slices

structure Partitioned (stream : OutputStream α) (scalars : List α) (times : List SampleTimestamp)
    (packets : List (SentPacket α)) : Prop where
  joined : packets.flatMap SentPacket.data = scalars
  each : packets.length = times.length
  placed : ∀ place packet timestamp, packets[place]? = some packet →
    times[place]? = some timestamp → packet.T = timestamp.time ∧
      ((packets.take place).flatMap SentPacket.data).length = timestamp.offset * itemSize stream.sri

/-- Time stamps from offset 0 on, each behind the one before it, the last one inside the data. -/
structure Ascending (size itemSize : Nat) (times : List SampleTimestamp) : Prop where
  sorted : times.Pairwise fun early late => early.offset < late.offset
  first : ∃ timestamp, times.head? = some timestamp ∧ timestamp.offset = 0
  inside : ∀ timestamp ∈ times, timestamp.offset * itemSize < size

/-- Where no slice goes through the buffer, a write with time stamps sends a packet for each of them. -/
theorem writeMultiple_partitions (samples : SampleType β α) (data : List β)
    (times : List SampleTimestamp) (stream : OutputStream α)
    (matched : samples.isComplex → stream.sri.complex)
    (ascending : Ascending (data.flatMap samples.scalars).length (itemSize stream.sri) times)
    (passes : ∀ slice ∈ slices (data.flatMap samples.scalars)
      (times.map fun timestamp => timestamp.offset * itemSize stream.sri),
      stream.passes slice) :
    ∃ packets, stream.writeMultiple samples data times = ((packets, stream), none) ∧
      stream.Partitioned (data.flatMap samples.scalars) times packets := by
  obtain ⟨sorted, ⟨timestamp, head, origin⟩, inside⟩ := ascending
  obtain ⟨rest, rfl⟩ : ∃ rest, times = timestamp :: rest := head?_eq_some_iff.mp head
  have whole (offset : Nat) : offset * stream.stride samples *
      (if samples.isComplex then 2 else 1) = offset * itemSize stream.sri := by
    rw [Nat.mul_assoc, stride_width matched]
  have cut := slices_flatMap samples.width data
    ((timestamp :: rest).map fun other => other.offset * stream.stride samples)
  rw [map_map] at cut
  simp only [Function.comp_def, whole] at cut
  have scalars : (data.flatMap samples.scalars).length =
      data.length * if samples.isComplex then 2 else 1 := by
    simp [length_flatMap, samples.width]
  have within : ∀ other ∈ timestamp :: rest, other.offset * stream.stride samples < data.length := by
    intro other member
    have fits := inside other member
    rw [scalars, ← whole] at fits
    exact Nat.lt_of_mul_lt_mul_right fits
  have sent := writeSlices_passes matched sorted within fun slice member => by
    refine passes _ ?_
    rw [← cut]
    exact mem_map_of_mem member
  rw [origin, Nat.zero_mul] at sent
  rw [cut] at sent
  generalize pieced : slices (data.flatMap samples.scalars)
    ((timestamp :: rest).map fun other => other.offset * itemSize stream.sri) = pieces at sent
  have each : pieces.length = (timestamp :: rest).length := by
    rw [← pieced, length_slices, length_map]
  have starts : (timestamp :: rest).map (fun other => other.offset * itemSize stream.sri) =
      0 :: rest.map fun other => other.offset * itemSize stream.sri := by
    rw [map_cons, origin, Nat.zero_mul]
  have cuts : (0 :: rest.map fun other => other.offset * itemSize stream.sri).Pairwise (· < ·) := by
    rw [← starts]
    exact pairwise_map.mpr (sorted.imp fun before =>
      Nat.mul_lt_mul_of_pos_right before (itemSize_pos stream.sri))
  rw [starts] at pieced
  refine ⟨_, sent, ?_, ?_, ?_⟩
  · rw [slicePackets_data each.le, ← pieced, slices_flatten _ cuts, drop_zero]
  · rw [slicePackets, length_zipWith, each, Nat.min_self]
  · intro place packet other sentAt timed
    obtain ⟨bound, same⟩ := List.getElem?_eq_some_iff.mp timed
    have inner : ∀ cut ∈ 0 :: rest.map fun other => other.offset * itemSize stream.sri,
        cut ≤ (data.flatMap samples.scalars).length := by
      intro cut member
      rw [← starts] at member
      obtain ⟨one, present, rfl⟩ := mem_map.mp member
      exact (inside one present).le
    have here := @slices_start _ (data.flatMap samples.scalars) _ _ cuts inner place
      (by rw [← starts, length_map]; exact bound)
    rw [slicePackets, getElem?_zipWith, timed] at sentAt
    refine ⟨?_, ?_⟩
    · cases found : pieces[place]? with
      | none => simp [found] at sentAt
      | some piece =>
          simp only [found, Option.some.injEq] at sentAt
          rw [← sentAt, send]
    · rw [slicePackets, take_zipWith, ← slicePackets,
        slicePackets_data (by rw [length_take, length_take, each]), ← pieced]
      simp only [Nat.zero_add, ← starts] at here
      rw [← starts, here, getElem_map, same]

def stamps : List SampleTimestamp := [⟨.notSet, 0, false⟩, ⟨PrecisionUTCTime.notSet.add 1, 2, false⟩]

def complexStream : OutputStream Nat := { streamID := "a", sri := { Sri.create "a" with mode := 1 } }

theorem writeMultiple_complexStream :
    ∃ packets, complexStream.writeMultiple .scalar [1, 2, 3, 4, 5, 6] stamps = ((packets, complexStream), none) ∧
      complexStream.Partitioned [1, 2, 3, 4, 5, 6] stamps packets :=
  writeMultiple_partitions .scalar [1, 2, 3, 4, 5, 6] stamps complexStream nofun
    ⟨by decide, ⟨_, rfl, rfl⟩, by decide⟩ (by decide)

def bufferedStream : OutputStream Nat :=
  { streamID := "a", sri := Sri.create "a", bufferSize := 4 }

/-- With a buffer there is no packet until it is full. -/
theorem writeMultiple_buffers : Ascending 3 (itemSize bufferedStream.sri) stamps ∧
    ¬∃ packets stream, bufferedStream.writeMultiple .scalar [1, 2, 3] stamps =
        ((packets, stream), none) ∧ bufferedStream.Partitioned [1, 2, 3] stamps packets := by
  refine ⟨⟨by decide, ⟨_, rfl, rfl⟩, by decide⟩, ?_⟩
  rintro ⟨packets, stream, sent, partitioned⟩
  have nothing : (bufferedStream.writeMultiple .scalar [1, 2, 3] stamps).1.1 = [] := by decide
  obtain rfl : packets = [] := by simpa [sent] using nothing
  exact absurd partitioned.each (by decide)

end OutputStream

end Redhawk.Bulkio
