import Redhawk.Bitops.BitBuffers
import Redhawk.Bitops.BitCalls

/-!
Taking and skipping bits in turn: `bitops::takeskip` and `shared_bitbuffer::takeskip`, and `takeskip` of
the Python `bitbuffer`.
-/

namespace Redhawk.Bitops

open Redhawk.Library List Nat

/-- What ends a call but a return: the exceptions of the C++ calls, a division by zero, and Python's
`OverflowError`. -/
inductive TakeskipFault where
  | outOfRange | invalidArgument | lengthError | divisionByZero | overflowError
deriving DecidableEq, Repr

/-- The loop of `bitops::takeskip`, as far as that many rounds go, up to the position behind the bits
that are written. The position in the source is a `size_t`. -/
def takeskipLoop (dest src stop take skip : Nat) :
    Nat → Memory → Nat → Nat → Option (Memory × Nat)
  | 0, _, _, _ => none
  | rounds + 1, memory, destPos, sstart =>
      if sstart < stop then
        let pass := min take (stop - sstart)
        takeskipLoop dest src stop take skip rounds (copy memory dest destPos src sstart pass)
          (destPos + pass) ((sstart + (take + skip)) % 2 ^ 64)
      else some (memory, destPos)

def takeskip (rounds : Nat) (memory : Memory) (dest dstart src sstart slen take skip : Nat) :
    Option (Memory × Nat) :=
  (takeskipLoop dest src (sstart + slen) take skip rounds memory dstart sstart).map
    fun (memory, destPos) => (memory, destPos - dstart)

namespace SharedBitbuffer

def checkRange (start stop size : Nat) : Except TakeskipFault Nat :=
  if start > size then .error .outOfRange
  else if stop < start then .error .invalidArgument
  else .ok (min stop size)

def takeskipSize (size take skip : Nat) : Except TakeskipFault Nat :=
  let pass := (take + skip) % 2 ^ 64
  if pass = 0 then .error .divisionByZero
  else .ok ((size / pass * take + min take (size % pass)) % 2 ^ 64)

def takeskipInto (rounds : Nat) (memory : Memory) (dest offset room pos : Nat) (src : SharedBitbuffer)
    (take skip start stop : Nat) : Except TakeskipFault (Option (Memory × Nat)) := do
  let stop ← checkRange start stop src.size
  let count := stop - start
  let required ← takeskipSize count take skip
  if room - pos < required then throw .lengthError
  return Bitops.takeskip rounds memory dest (pos + offset) src.data (start + src.offset) count take skip

/-- `shared_bitbuffer::takeskip`; the new buffer is at `fresh`. What it returns is the memory, the size
of the new buffer and the number of bits copied there. -/
def takeskip (rounds : Nat) (memory : Memory) (fresh : Nat) (buffer : SharedBitbuffer)
    (take skip start stop : Nat) : Except TakeskipFault (Option (Memory × Nat × Nat)) := do
  let stop ← checkRange start stop buffer.size
  let bits ← takeskipSize (stop - start) take skip
  let copied ← takeskipInto rounds memory fresh 0 bits 0 buffer take skip start stop
  return copied.map fun (memory, copied) => (memory, bits, copied)

end SharedBitbuffer

namespace Py

def maxint : Nat := 2 ^ 63 - 1

/-- The generator `takeskip`, as far as that many rounds of its loop go; it ends where its iterator
does. -/
def takeskip {α : Type} (take skip : Nat) : Nat → List α → Except TakeskipFault (Option (List α))
  | 0, _ => .ok none
  | rounds + 1, items =>
      if maxint < take then .error .overflowError
      else if items.length < take then .ok (some items)
      else if maxint < skip then .error .overflowError
      else if (items.drop take).length < skip then .ok (some (items.take take))
      else (takeskip take skip rounds ((items.drop take).drop skip)).map fun rest =>
        rest.map (items.take take ++ ·)

def Bitbuffer.takeskip (rounds : Nat) (self : Bitbuffer) (take skip : Nat) (start : Int)
    (stop : Option Int) : Except TakeskipFault (Option (List Bool)) :=
  let (start, stop) := self.indices start stop
  Py.takeskip take skip rounds (self.slice start stop).iter

end Py

/-- `bits` are the bits of the source from `start` up to `stop` that fall to `take`, when `take` and
`skip` alternate, as many as `size`. -/
def Selects (source : List Bool) (start stop take skip size : Nat) (bits : List Bool) : Prop :=
  bits.length = size ∧ ∀ k bit, bits[k]? = some bit →
    start + k / take * (take + skip) + k % take < stop ∧
      source[start + k / take * (take + skip) + k % take]? = some bit

section Written

variable {before middle after : Memory} {start count more : Nat} {values : Nat → Bool}

theorem written_congr {other : Nat → Bool} (written : Written before after start count values)
    (same : ∀ k < count, values k = other k) : Written before after start count other := by
  intro i
  rw [written i]
  split
  · exact same _ (by omega)
  · rfl

theorem written_append (first : Written before middle start count values)
    (second : Written middle after (start + count) more fun k => values (count + k)) :
    Written before after start (count + more) values := by
  intro i
  rw [second i, first i]
  by_cases later : start + count ≤ i ∧ i < start + count + more
  · have place : count + (i - (start + count)) = i - start := by omega
    rw [if_pos later, if_pos (by omega)]
    exact congrArg values place
  · rw [if_neg later]
    by_cases early : start ≤ i ∧ i < start + count
    · rw [if_pos early, if_pos (by omega)]
    · rw [if_neg early, if_neg (by omega)]

end Written

def taken (count take step : Nat) : Nat := count / step * take + min take (count % step)

section Taken

variable {count take step : Nat}

theorem taken_last (positive : 0 < step) (last : count ≤ step) (fits : take ≤ step ∨ count < step) :
    taken count take step = min take count := by
  rcases Nat.lt_or_eq_of_le last with less | rfl
  · rw [taken, Nat.div_eq_of_lt less, mod_eq_of_lt less, zero_mul, Nat.zero_add]
  · rw [taken, Nat.div_self positive, mod_self, Nat.min_zero, Nat.one_mul, Nat.add_zero]
    omega

theorem taken_more (positive : 0 < step) (more : step ≤ count) :
    taken count take step = take + taken (count - step) take step := by
  have quotient : count / step = (count - step) / step + 1 := by
    rw [← add_div_right _ positive, Nat.sub_add_cancel (by omega)]
  have remainder : count % step = (count - step) % step := mod_eq_sub_mod (by omega)
  rw [taken, taken, quotient, remainder, succ_mul]
  omega

theorem taken_le (fits : take ≤ step ∨ count < step) : taken count take step ≤ count := by
  have whole := div_add_mod' count step
  rcases fits with narrow | short
  · have turns := Nat.mul_le_mul_left (count / step) narrow
    rw [taken]
    omega
  · rw [taken, Nat.div_eq_of_lt short, mod_eq_of_lt short]
    omega

theorem taken_place (positive : 0 < step) (fits : take ≤ step ∨ count < step) {k : Nat}
    (inside : k < taken count take step) : k / take * step + k % take < count := by
  induction count using Nat.strongRecOn generalizing k with
  | ind count ih =>
      by_cases last : count ≤ step
      · rw [taken_last positive last fits] at inside
        have first : k < take := by omega
        rw [Nat.div_eq_of_lt first, mod_eq_of_lt first]
        omega
      · have whole : take ≤ step := by omega
        rw [taken_more positive (by omega)] at inside
        by_cases first : k < take
        · rw [Nat.div_eq_of_lt first, mod_eq_of_lt first]
          omega
        · have some : 0 < take := by
            rcases Nat.eq_zero_or_pos take with zero | some
            · rw [zero, taken, mul_zero, Nat.zero_min] at inside
              omega
            · exact some
          have later := @ih (count - step) (by omega) (.inl whole) (k - take) (by omega)
          have quotient : k / take = (k - take) / take + 1 := by
            rw [← add_div_right _ some, Nat.sub_add_cancel (by omega)]
          have remainder : k % take = (k - take) % take := mod_eq_sub_mod (by omega)
          rw [quotient, remainder, succ_mul]
          omega

end Taken

section Loop

variable {dest src stop take skip destPos : Nat}

def stride (take skip : Nat) : Nat := (take + skip) % 2 ^ 64

def lastPosition (sstart stop step : Nat) : Nat :=
  sstart + (stop - sstart + step - 1) / step * step

variable {sstart : Nat}

theorem lastPosition_next {step : Nat} (positive : 0 < step) (inside : sstart < stop) :
    lastPosition sstart stop step = lastPosition (sstart + step) stop step := by
  by_cases more : step < stop - sstart
  · have quotient : (stop - sstart + step - 1) / step = (stop - (sstart + step) + step - 1) / step + 1 := by
      rw [← add_div_right _ positive]
      congr 1
      omega
    rw [lastPosition, lastPosition, quotient, succ_mul]
    omega
  · have one : (stop - sstart + step - 1) / step = 1 :=
      Nat.div_eq_of_lt_le (by omega) (by omega)
    have none : (stop - (sstart + step) + step - 1) / step = 0 := Nat.div_eq_of_lt (by omega)
    rw [lastPosition, lastPosition, one, none]
    omega

theorem le_lastPosition (sstart stop step : Nat) : sstart ≤ lastPosition sstart stop step :=
  Nat.le_add_right ..

theorem takeskipLoop_written (positive : 0 < stride take skip) (some : 0 < take) {rounds sstart : Nat}
    (enough : stop - sstart < rounds)
    (fits : take ≤ stride take skip ∨ stop - sstart < stride take skip)
    (straight : lastPosition sstart stop (stride take skip) < 2 ^ 64) {memory : Memory} {destPos : Nat}
    (apart : Apart (8 * dest + destPos) (taken (stop - sstart) take (stride take skip)) (8 * src) stop) :
    ∃ after, takeskipLoop dest src stop take skip rounds memory destPos sstart =
        Option.some (after, destPos + taken (stop - sstart) take (stride take skip)) ∧
      Written memory after (8 * dest + destPos) (taken (stop - sstart) take (stride take skip))
        fun k => bit memory (8 * src + (sstart + k / take * stride take skip + k % take)) := by
  induction rounds generalizing sstart memory destPos with
  | zero => omega
  | succ rounds ih =>
      rw [takeskipLoop]
      by_cases inside : sstart < stop
      · rw [if_pos inside]
        have next : (sstart + (take + skip)) % 2 ^ 64 = sstart + stride take skip := by
          have bound := le_lastPosition (sstart + stride take skip) stop (stride take skip)
          rw [← lastPosition_next positive inside] at bound
          have stepped : stride take skip = (take + skip) % 2 ^ 64 := rfl
          omega
        rw [next]
        have copied := @copy_written memory dest destPos src sstart (min take (stop - sstart)) (by omega)
        by_cases last : stop - sstart ≤ stride take skip
        · -- the last turn
          obtain ⟨more, rfl⟩ : ∃ more, rounds = more + 1 := ⟨rounds - 1, by omega⟩
          rw [takeskipLoop, if_neg (by omega)]
          rw [taken_last positive last fits] at apart ⊢
          refine ⟨_, rfl, written_congr (copied (by unfold Apart at apart ⊢; omega)) ?_⟩
          intro k small
          have first : k < take := by omega
          rw [Nat.div_eq_of_lt first, mod_eq_of_lt first, zero_mul, Nat.add_zero, Nat.add_assoc]
        · have whole : take ≤ stride take skip := by omega
          have pass : min take (stop - sstart) = take := by omega
          have left : stop - sstart - stride take skip = stop - (sstart + stride take skip) := by omega
          rw [taken_more positive (by omega), left] at apart ⊢
          rw [pass] at copied ⊢
          have first := copied (by unfold Apart at apart ⊢; omega)
          obtain ⟨after, runs, written⟩ := @ih (sstart + stride take skip) (by omega) (.inl whole)
            (by rw [← lastPosition_next positive inside]; exact straight)
            (copy memory dest destPos src sstart take) (destPos + take)
            (by unfold Apart at apart ⊢; omega)
          have behind : 8 * dest + (destPos + take) = 8 * dest + destPos + take := by omega
          rw [behind] at written
          refine ⟨after, by rw [runs, Nat.add_assoc], written_append
            (written_congr first fun k small => ?_) (written_congr written fun k small => ?_)⟩
          · rw [Nat.div_eq_of_lt small, mod_eq_of_lt small, zero_mul, Nat.add_zero, Nat.add_assoc]
          · have place := taken_place positive (.inl whole) small
            have quotient : (take + k) / take = k / take + 1 := by
              rw [Nat.add_comm, add_div_right _ some]
            have turns : (k / take + 1) * stride take skip =
                k / take * stride take skip + stride take skip := succ_mul ..
            rw [first.outside (by unfold Apart at apart; omega), quotient, add_mod_left]
            congr 1
            omega
      · have none : taken (stop - sstart) take (stride take skip) = 0 := by
          rw [Nat.sub_eq_zero_of_le (by omega)]
          simp [taken]
        rw [if_neg inside, none]
        exact ⟨memory, rfl, Written.start_of _ _ _⟩

theorem copy_none (memory : Memory) (dest dstart src sstart : Nat) :
    copy memory dest dstart src sstart 0 = memory := by
  have run := BitCall.run_none memory (.copy dest dstart src sstart)
  rw [BitCall.run, Except.ok.injEq, Prod.mk.injEq] at run
  exact run.1

theorem takeskipLoop_none (positive : 0 < skip) (small : skip < 2 ^ 64) (low : stop < 2 ^ 63)
    (memory : Memory) (sstart : Nat) : ∃ rounds,
    takeskipLoop dest src stop 0 skip rounds memory destPos sstart = some (memory, destPos) := by
  have step {sstart : Nat} (inside : sstart < stop) {rounds : Nat}
      (rest : takeskipLoop dest src stop 0 skip rounds memory destPos ((sstart + skip) % 2 ^ 64) =
        some (memory, destPos)) :
      takeskipLoop dest src stop 0 skip (rounds + 1) memory destPos sstart = some (memory, destPos) := by
    rw [takeskipLoop, if_pos inside]
    simpa only [Nat.zero_min, copy_none, Nat.add_zero, Nat.zero_add] using rest
  have past {sstart : Nat} (outside : ¬sstart < stop) :
      takeskipLoop dest src stop 0 skip 1 memory destPos sstart = some (memory, destPos) := by
    rw [takeskipLoop, if_neg outside]
  rcases Nat.lt_or_ge (2 ^ 63) skip with large | moderate
  · -- the position goes down, and from below what it goes down by it wraps to behind the end
    induction sstart using Nat.strongRecOn with
    | ind sstart ih =>
        by_cases inside : sstart < stop
        · by_cases down : 2 ^ 64 ≤ sstart + skip
          · obtain ⟨rounds, rest⟩ := ih (sstart + skip - 2 ^ 64) (by omega)
            have next : (sstart + skip) % 2 ^ 64 = sstart + skip - 2 ^ 64 := by omega
            exact ⟨rounds + 1, step inside (by rw [next]; exact rest)⟩
          · exact ⟨2, step inside (past (by omega))⟩
        · exact ⟨1, past inside⟩
  · generalize left : stop - sstart = count
    induction count using Nat.strongRecOn generalizing sstart with
    | ind count ih =>
        by_cases inside : sstart < stop
        · obtain ⟨rounds, rest⟩ := ih (stop - (sstart + skip)) (by omega) (sstart + skip) rfl
          have next : (sstart + skip) % 2 ^ 64 = sstart + skip := by omega
          exact ⟨rounds + 1, step inside (by rw [next]; exact rest)⟩
        · exact ⟨1, past inside⟩

variable {rounds last : Nat} {memory after : Memory}

theorem takeskipLoop_le
    (ends : takeskipLoop dest src stop take skip rounds memory destPos sstart = some (after, last)) :
    destPos ≤ last := by
  induction rounds generalizing memory destPos sstart with
  | zero => cases ends
  | succ rounds ih =>
      rw [takeskipLoop] at ends
      split at ends
      · have later := ih ends
        omega
      · cases ends
        exact Nat.le_refl _

theorem takeskipLoop_twice (some : 0 < take) (inside : sstart < stop)
    (again : (sstart + (take + skip)) % 2 ^ 64 < stop)
    (ends : takeskipLoop dest src stop take skip rounds memory destPos sstart =
      Option.some (after, last)) : destPos + min take (stop - sstart) < last := by
  match rounds, ends with
  | 0, ends => cases ends
  | 1, ends =>
      rw [takeskipLoop, if_pos inside] at ends
      cases ends
  | rounds + 2, ends =>
      rw [takeskipLoop, if_pos inside] at ends
      rw [takeskipLoop, if_pos again] at ends
      have later := takeskipLoop_le ends
      omega

theorem takeskipLoop_more (positive : 0 < stride take skip) (some : 0 < take)
    (inside : sstart < stop) (low : stop < 2 ^ 63)
    (fits : take ≤ stride take skip ∨ stop - sstart < stride take skip)
    (wraps : 2 ^ 64 ≤ lastPosition sstart stop (stride take skip))
    (ends : takeskipLoop dest src stop take skip rounds memory destPos sstart = Option.some (after, last)) :
    destPos + taken (stop - sstart) take (stride take skip) < last := by
  have stepped : stride take skip = (take + skip) % 2 ^ 64 := rfl
  induction rounds generalizing sstart memory destPos with
  | zero => cases ends
  | succ rounds ih =>
      by_cases turn : stop - sstart ≤ stride take skip
      · have one : lastPosition sstart stop (stride take skip) = sstart + stride take skip := by
          have quotient : (stop - sstart + stride take skip - 1) / stride take skip = 1 :=
            Nat.div_eq_of_lt_le (by omega) (by omega)
          rw [lastPosition, quotient, Nat.one_mul]
        rw [taken_last positive turn fits]
        exact takeskipLoop_twice some inside (by omega) ends
      · have whole : take ≤ stride take skip := by omega
        have pass : min take (stop - sstart) = take := by omega
        have left : stop - sstart - stride take skip = stop - (sstart + stride take skip) := by omega
        have next : (sstart + (take + skip)) % 2 ^ 64 = sstart + stride take skip := by omega
        rw [takeskipLoop, if_pos inside] at ends
        rw [next, pass] at ends
        rw [lastPosition_next positive inside] at wraps
        have later := ih (by omega) (.inl whole) wraps ends
        rw [taken_more positive (by omega), left]
        omega

end Loop

namespace Py

variable {α : Type}

theorem takeskip_taken {take skip : Nat} (positive : 0 < take + skip) (counts : take ≤ maxint)
    (items : List α) (skips : items.length < take ∨ skip ≤ maxint) :
    ∃ rounds out, takeskip take skip rounds items = .ok (some out) ∧
      out.length = taken items.length take (take + skip) ∧ ∀ k < out.length,
        out[k]? = items[k / take * (take + skip) + k % take]? := by
  generalize size : items.length = n
  induction n using Nat.strongRecOn generalizing items with
  | ind n ih =>
      subst size
      by_cases short : items.length < take
      · have all : taken items.length take (take + skip) = items.length := by
          rw [taken_last positive (by omega) (.inl (by omega))]
          omega
        refine ⟨1, items, ?_, all.symm, fun k small => ?_⟩
        · rw [takeskip, if_neg (by omega), if_pos short]
        · rw [Nat.div_eq_of_lt (by omega), mod_eq_of_lt (by omega), zero_mul, Nat.zero_add]
      · have skips : skip ≤ maxint := skips.resolve_left short
        have front : (items.take take).length = take := by
          rw [length_take]
          omega
        have first (k : Nat) (small : k < take) :
            (items.take take)[k]? = items[k / take * (take + skip) + k % take]? := by
          rw [Nat.div_eq_of_lt small, mod_eq_of_lt small, zero_mul, Nat.zero_add,
            getElem?_take_of_lt small]
        by_cases last : (items.drop take).length < skip
        · have length := length_drop (i := take) (l := items)
          refine ⟨1, items.take take, ?_, ?_, fun k small => first k (by omega)⟩
          · rw [takeskip, if_neg (by omega), if_neg short, if_neg (by omega), if_pos last]
          · rw [front, taken_last positive (by omega) (.inl (by omega))]
            omega
        · have length := length_drop (i := take) (l := items)
          have left : ((items.drop take).drop skip).length = items.length - (take + skip) := by
            rw [length_drop, length]
            omega
          obtain ⟨rounds, out, runs, size, places⟩ := ih (items.length - (take + skip)) (by omega)
            ((items.drop take).drop skip) (.inr skips) left
          refine ⟨rounds + 1, items.take take ++ out, ?_, ?_, fun k small => ?_⟩
          · rw [takeskip, if_neg (by omega), if_neg short, if_neg (by omega), if_neg last, runs]
            rfl
          · rw [length_append, front, size, ← taken_more positive (by omega)]
          · by_cases early : k < take
            · rw [getElem?_append_left (by omega)]
              exact first k early
            · rw [length_append, front] at small
              have some : 0 < take := by
                rcases Nat.eq_zero_or_pos take with zero | some
                · rw [zero, taken, mul_zero, Nat.zero_min] at size
                  omega
                · exact some
              have quotient : k / take = (k - take) / take + 1 := by
                rw [← add_div_right _ some, Nat.sub_add_cancel (by omega)]
              have remainder : k % take = (k - take) % take := mod_eq_sub_mod (by omega)
              rw [getElem?_append_right (by omega), front, places (k - take) (by omega),
                drop_drop, getElem?_drop, quotient, remainder, succ_mul]
              congr 1
              omega

theorem takeskip_counts {take skip rounds : Nat} {items out : List α}
    (ends : takeskip take skip rounds items = .ok (some out)) :
    take ≤ maxint ∧ (items.length < take ∨ skip ≤ maxint) := by
  cases rounds with
  | zero => cases ends
  | succ rounds =>
      rw [takeskip] at ends
      split at ends
      · cases ends
      · split at ends
        · exact ⟨by omega, .inl (by assumption)⟩
        · split at ends
          · cases ends
          · exact ⟨by omega, .inr (by omega)⟩

end Py

section Selection

variable {memory : Memory} {fresh : Nat} {buffer : SharedBitbuffer} {take skip start stop : Nat}

/-- Both `takeskip`s end, and with the same bits, those that fall to `take`; nothing else is written. -/
def TakesSkips (memory : Memory) (fresh : Nat) (buffer : SharedBitbuffer) (self : Py.Bitbuffer)
    (take skip start stop : Nat) : Prop :=
  ∃ rounds after size bits, SharedBitbuffer.takeskipSize (stop - start) take skip = .ok size ∧
    buffer.takeskip rounds memory fresh take skip start stop = .ok (some (after, size, size)) ∧
    Selects (buffer.bits memory) start stop take skip size bits ∧
    Written memory after (8 * fresh) size (fun k => bits.getD k false) ∧
    ∃ rounds, self.takeskip rounds take skip start (some stop) = .ok (some bits)

theorem takeskipSize_eq (count : Nat) (positive : 0 < stride take skip) :
    SharedBitbuffer.takeskipSize count take skip = .ok (taken count take (stride take skip) % 2 ^ 64) := by
  have nonzero : ¬(take + skip) % 2 ^ 64 = 0 := Nat.ne_of_gt positive
  exact if_neg nonzero

theorem checkRange_within {size : Nat} (ordered : start ≤ stop) (within : stop ≤ size) :
    SharedBitbuffer.checkRange start stop size = .ok stop := by
  rw [SharedBitbuffer.checkRange, if_neg (by omega), if_neg (by omega), Nat.min_eq_left within]

theorem takeskip_eq (ordered : start ≤ stop) (within : stop ≤ buffer.size)
    (positive : 0 < stride take skip) (rounds : Nat) :
    buffer.takeskip rounds memory fresh take skip start stop =
      .ok ((takeskipLoop fresh buffer.data (buffer.offset + stop) take skip rounds memory 0
        (buffer.offset + start)).map fun (memory, last) =>
          (memory, taken (stop - start) take (stride take skip) % 2 ^ 64, last)) := by
  have range := checkRange_within ordered within
  have size := takeskipSize_eq (stop - start) positive
  have place : start + buffer.offset = buffer.offset + start := Nat.add_comm ..
  have behind : buffer.offset + start + (stop - start) = buffer.offset + stop := by omega
  rw [SharedBitbuffer.takeskip, range]
  simp [bind, Except.bind, pure, Except.pure, size, SharedBitbuffer.takeskipInto, range, takeskip, place, behind]

theorem takeskip_zero (ordered : start ≤ stop) (within : stop ≤ buffer.size)
    (zero : stride take skip = 0) (rounds : Nat) :
    buffer.takeskip rounds memory fresh take skip start stop = .error .divisionByZero := by
  have zero : (take + skip) % 2 ^ 64 = 0 := zero
  rw [SharedBitbuffer.takeskip, checkRange_within ordered within]
  simp only [bind, Except.bind, SharedBitbuffer.takeskipSize, if_pos zero]

variable {self : Py.Bitbuffer}

theorem Py.takeskip_selects (ordered : start ≤ stop) (within : stop ≤ self.bits)
    (positive : 0 < take + skip) (counts : take ≤ Py.maxint)
    (skips : stop - start < take ∨ skip ≤ Py.maxint) :
    ∃ rounds bits, self.takeskip rounds take skip start (some stop) = .ok (some bits) ∧
      Selects self.iter start stop take skip (taken (stop - start) take (take + skip)) bits := by
  have slice := Py.Bitbuffer.iter_slice ordered within
  have length : ((self.iter.drop start).take (stop - start)).length = stop - start := by
    rw [length_take, length_drop, Py.Bitbuffer.length_iter]
    omega
  obtain ⟨rounds, bits, ends, size, places⟩ := Py.takeskip_taken positive counts
    ((self.iter.drop start).take (stop - start)) (by rw [length]; exact skips)
  rw [length] at size
  refine ⟨rounds, bits, ?_, size, fun k bit here => ?_⟩
  · rw [Py.Bitbuffer.takeskip, Py.Bitbuffer.indices]
    simp only [Py.Bitbuffer.index_within within, Py.Bitbuffer.index_within (Nat.le_trans ordered within), slice]
    exact ends
  · have inside := (List.getElem?_eq_some_iff.mp here).1
    have place := taken_place positive (.inl (by omega)) (size ▸ inside)
    rw [places k inside, getElem?_take_of_lt place, getElem?_drop, ← Nat.add_assoc] at here
    exact ⟨by omega, here⟩

theorem Py.takeskip_admits (ordered : start ≤ stop) (within : stop ≤ self.bits) {rounds : Nat} {bits : List Bool}
    (ends : self.takeskip rounds take skip start (some stop) = .ok (some bits)) :
    take ≤ Py.maxint ∧ (stop - start < take ∨ skip ≤ Py.maxint) := by
  rw [Py.Bitbuffer.takeskip, Py.Bitbuffer.indices] at ends
  simp only [Py.Bitbuffer.index_within within, Py.Bitbuffer.index_within (Nat.le_trans ordered within),
    Py.Bitbuffer.iter_slice ordered within] at ends
  have counts := Py.takeskip_counts ends
  rw [length_take, length_drop, Py.Bitbuffer.length_iter] at counts
  omega

theorem Selects.size_le {source bits : List Bool} {size : Nat}
    (selects : Selects source start stop take skip size bits) (short : stop - start < take) :
    size ≤ stop - start := by
  obtain ⟨length, each⟩ := selects
  by_contra more
  have inside : stop - start < bits.length := by omega
  have place := (each _ _ (getElem?_eq_getElem inside)).1
  rw [Nat.div_eq_of_lt short, mod_eq_of_lt short] at place
  omega

theorem taken_stride {count : Nat} (small : take < 2 ^ 64) (small' : skip < 2 ^ 64)
    (positive : 0 < stride take skip) (straight : take + skip < 2 ^ 64 ∨ count < stride take skip) :
    (take ≤ stride take skip ∨ count < stride take skip) ∧
      taken count take (take + skip) = taken count take (stride take skip) ∧
      ∀ k < taken count take (stride take skip), k / take * stride take skip = k / take * (take + skip) := by
  have stepped : stride take skip = (take + skip) % 2 ^ 64 := rfl
  by_cases plain : take + skip < 2 ^ 64
  · have same : stride take skip = take + skip := by omega
    rw [same]
    exact ⟨.inl (by omega), rfl, fun _ _ => rfl⟩
  · have short := straight.resolve_left plain
    have size : taken count take (stride take skip) = min take count :=
      taken_last positive (by omega) (.inr short)
    refine ⟨.inr short, ?_, fun k inside => ?_⟩
    · rw [size, taken_last (by omega) (by omega) (.inl (by omega))]
    · rw [Nat.div_eq_of_lt (by omega), zero_mul, zero_mul]

theorem takesSkips_of (small : take < 2 ^ 64) (small' : skip < 2 ^ 64)
    (ordered : start ≤ stop) (within : stop ≤ buffer.size)
    (same : self.iter = buffer.bits memory) (positive : 0 < stride take skip)
    (counts : take ≤ Py.maxint) (skips : stop - start < take ∨ skip ≤ Py.maxint)
    {rounds : Nat} {after : Memory}
    (length : taken (stop - start) take (take + skip) = taken (stop - start) take (stride take skip) % 2 ^ 64)
    (ends : takeskipLoop fresh buffer.data (buffer.offset + stop) take skip rounds memory 0
      (buffer.offset + start) = some (after, taken (stop - start) take (take + skip)))
    (written : Written memory after (8 * fresh) (taken (stop - start) take (take + skip))
      fun k => bit memory (8 * buffer.data + (buffer.offset + start + k / take * (take + skip) + k % take))) :
    TakesSkips memory fresh buffer self take skip start stop := by
  have bits : self.bits = buffer.size := by
    rw [← Py.Bitbuffer.length_iter, same, SharedBitbuffer.length_bits]
  have stepped : stride take skip = (take + skip) % 2 ^ 64 := rfl
  obtain ⟨more, out, runs, selects⟩ := Py.takeskip_selects ordered (bits ▸ within)
    (by omega : 0 < take + skip) counts skips
  rw [same] at selects
  refine ⟨rounds, after, _, out, ?_, ?_, selects, written_congr written fun k inside => ?_, more, runs⟩
  · rw [takeskipSize_eq _ positive, length]
  · rw [takeskip_eq ordered within positive, ends, length]
    rfl
  · have inside : k < out.length := by rw [selects.1]; exact inside
    obtain ⟨place, here⟩ := selects.2 k _ (getElem?_eq_getElem inside)
    rw [SharedBitbuffer.bits, getElem?_map, getElem?_range (by omega), Option.map_some,
      Option.some.injEq] at here
    rw [getD_eq_getElem?_getD, getElem?_eq_getElem inside, Option.getD_some, ← here, bitsAt]
    congr 1
    omega

/-- Both `takeskip`s end with the bits that fall to `take` just where `take + skip` is not a multiple
of 2^64, Python's `xrange` takes the counts, and, where there are bits to take, a sum that wraps is past
the end and the position behind the last turn does not wrap. -/
theorem takeskip_selects_iff (memory : Memory) (fresh : Nat) (buffer : SharedBitbuffer)
    (self : Py.Bitbuffer) (same : self.iter = buffer.bits memory) (take skip start stop : Nat)
    (small : take < 2 ^ 64) (small' : skip < 2 ^ 64) (ordered : start ≤ stop)
    (within : stop ≤ buffer.size)
    (apart : ∀ size, SharedBitbuffer.takeskipSize (stop - start) take skip = .ok size →
      Apart (8 * fresh) size (8 * buffer.data) (buffer.offset + buffer.size)) :
    TakesSkips memory fresh buffer self take skip start stop ↔
      stride take skip ≠ 0 ∧ take ≤ Py.maxint ∧ (stop - start < take ∨ skip ≤ Py.maxint) ∧
        (take = 0 ∨ start = stop ∨
          (take + skip < 2 ^ 64 ∨ stop - start < stride take skip) ∧
            lastPosition (buffer.offset + start) (buffer.offset + stop) (stride take skip) < 2 ^ 64) := by
  have addressable := buffer.addressable
  have bits : self.bits = buffer.size := by
    rw [← Py.Bitbuffer.length_iter, same, SharedBitbuffer.length_bits]
  have left : buffer.offset + stop - (buffer.offset + start) = stop - start := by omega
  constructor
  · rintro ⟨rounds, after, size, out, sized, runs, selects, -, _, ends⟩
    have positive : stride take skip ≠ 0 := by
      intro zero
      rw [takeskip_zero ordered within zero] at runs
      cases runs
    have positive' : 0 < stride take skip := Nat.pos_of_ne_zero positive
    obtain ⟨counts, skips⟩ := Py.takeskip_admits ordered (bits ▸ within) ends
    refine ⟨positive, counts, skips, ?_⟩
    rw [takeskip_eq ordered within positive', Except.ok.injEq, Option.map_eq_some_iff] at runs
    obtain ⟨⟨after', last⟩, loop, pair⟩ := runs
    obtain ⟨rfl, wrapped, rfl⟩ := pair
    by_cases some : take = 0
    · exact .inl some
    by_cases empty : start = stop
    · exact .inr (.inl empty)
    refine .inr (.inr ?_)
    by_cases straight : take + skip < 2 ^ 64 ∨ stop - start < stride take skip
    · refine ⟨straight, Nat.lt_of_not_le fun wraps => ?_⟩
      obtain ⟨fits, -, -⟩ := taken_stride small small' positive' straight
      have more := takeskipLoop_more positive' (by omega) (by omega) (by omega)
        (by rw [left]; exact fits) wraps loop
      rw [left] at more
      omega
    · -- the sum wraps and is no more than there is, where `take` is more: the bits overlap
      have stepped : stride take skip = (take + skip) % 2 ^ 64 := rfl
      have maxint : Py.maxint = 2 ^ 63 - 1 := rfl
      have short : stop - start < take := by omega
      have fewer := selects.size_le short
      rcases Nat.lt_or_eq_of_le (by omega : stride take skip ≤ stop - start) with less | whole
      · have more := takeskipLoop_twice (by omega) (by omega) (by omega) loop
        omega
      · have size : taken (stop - start) take (stride take skip) = take := by
          rw [taken, whole, Nat.div_self (by omega), mod_self]
          omega
        omega
  · rintro ⟨positive, counts, skips, orderly⟩
    have positive : 0 < stride take skip := Nat.pos_of_ne_zero positive
    have sized := takeskipSize_eq (stop - start) positive
    have none (step : Nat) (nothing : take = 0 ∨ start = stop) : taken (stop - start) take step = 0 := by
      rcases nothing with rfl | rfl <;> simp [taken]
    have empty (nothing : take = 0 ∨ start = stop) (rounds : Nat)
        (loop : takeskipLoop fresh buffer.data (buffer.offset + stop) take skip rounds memory 0
          (buffer.offset + start) = some (memory, 0)) :
        TakesSkips memory fresh buffer self take skip start stop := by
      have zero := none (take + skip) nothing
      have ends : takeskipLoop fresh buffer.data (buffer.offset + stop) take skip rounds memory 0
          (buffer.offset + start) = some (memory, taken (stop - start) take (take + skip)) := by
        rw [zero, loop]
      refine takesSkips_of small small' ordered within same positive counts skips ?_ ends ?_
      · rw [zero, none _ nothing, zero_mod]
      · rw [zero]
        exact Written.start_of _ _ _
    by_cases nothing : take = 0
    · subst nothing
      have some : 0 < skip := by
        have stepped : stride 0 skip = (0 + skip) % 2 ^ 64 := rfl
        omega
      obtain ⟨rounds, loop⟩ := @takeskipLoop_none fresh buffer.data (buffer.offset + stop) skip 0 some
        small' (by omega) memory (buffer.offset + start)
      exact empty (.inl rfl) rounds loop
    rcases orderly.resolve_left nothing with rfl | ⟨straight, last⟩
    · refine empty (.inr rfl) 1 ?_
      rw [takeskipLoop, if_neg (Nat.lt_irrefl _)]
    · obtain ⟨fits, length, turns⟩ := taken_stride small small' positive straight
      have fewer := taken_le fits
      have room := apart _ sized
      obtain ⟨after, loop, written⟩ := @takeskipLoop_written fresh buffer.data (buffer.offset + stop)
        take skip positive (Nat.pos_of_ne_zero nothing) (stop - start + 1) (buffer.offset + start)
        (by omega) (by rw [left]; exact fits) last memory 0 (by
          rw [left]
          unfold Apart at room ⊢
          omega)
      rw [left, Nat.zero_add, ← length] at loop
      rw [left, Nat.add_zero, ← length] at written
      refine takesSkips_of small small' ordered within same positive counts skips ?_ loop
        (written_congr written fun k inside => ?_)
      · rw [length, mod_eq_of_lt (by omega)]
      · rw [turns k (by rw [← length]; exact inside)]

end Selection

def oneZeros : Memory := fun _ => 160

def fourBits : SharedBitbuffer := ⟨0, 0, 4, by decide⟩

theorem oneZeros_everyOther : ∃ rounds after size bits, SharedBitbuffer.takeskipSize 4 1 1 = .ok size ∧
    fourBits.takeskip rounds oneZeros 1 1 1 0 4 = .ok (some (after, size, size)) ∧
    Selects (fourBits.bits oneZeros) 0 4 1 1 size bits ∧
    Written oneZeros after 8 size (fun k => bits.getD k false) ∧
    ∃ rounds, (⟨oneZeros, 4, 0⟩ : Py.Bitbuffer).takeskip rounds 1 1 0 (some 4) = .ok (some bits) :=
  (takeskip_selects_iff oneZeros 1 fourBits ⟨oneZeros, 4, 0⟩ (by decide) 1 1 0 4 (by decide)
    (by decide) (by decide) (by decide) (fun size sized => by
      obtain rfl : 2 = size := Except.ok.inj sized
      unfold Apart
      decide)).mpr
    ⟨by decide, by decide, .inr (by decide), .inr (.inr ⟨.inl (by decide), by decide⟩)⟩

/-- Counts that Python takes, but whose sum brings the position from bit 2 back to bit 0; and counts
of nothing. -/
theorem oneZeros_overrun :
    ¬TakesSkips oneZeros 1 fourBits ⟨oneZeros, 4, 0⟩ Py.maxint Py.maxint 2 4 ∧
      ¬TakesSkips oneZeros 1 fourBits ⟨oneZeros, 4, 0⟩ 0 0 0 4 := by
  constructor
  · rintro ⟨rounds, after, size, out, sized, runs, -⟩
    rw [takeskip_eq (by decide) (by decide) (by decide), Except.ok.injEq, Option.map_eq_some_iff] at runs
    obtain ⟨⟨after', last⟩, loop, pair⟩ := runs
    have more := takeskipLoop_twice (by decide) (by decide) (by decide) loop
    have length : taken (4 - 2) Py.maxint (stride Py.maxint Py.maxint) % 2 ^ 64 = 2 := by decide
    have first : 0 + min Py.maxint (fourBits.offset + 4 - (fourBits.offset + 2)) = 2 := by decide
    simp only [Prod.mk.injEq] at pair
    omega
  · rintro ⟨rounds, after, size, out, sized, runs, -⟩
    cases sized

end Redhawk.Bitops
