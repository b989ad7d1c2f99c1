import Mathlib.Data.Set.Insert

/-!
The life of one stream ID whose instances follow each other, without the port that keeps them.
Times stand for the instances, the packets and the ends they are about. Instances are opened and
ended in turn, their packets wait in one queue, and the instance at the front of the line fetches
them.
-/

namespace Redhawk.Bulkio

open List Nat

structure Ledger where
  /-- The instances that have not been handed their end, the earliest first. -/
  unfinished : List Nat
  /-- The packets in the queue, each with the mark that says whether it is an end. -/
  packets : List (Nat × Bool)
  /-- The packet of a push that has not been queued yet. -/
  waiting : List (Nat × Bool)
  /-- Whether the sender's current instance is known. -/
  listed : Bool
  endings : List Nat
  births : Set Nat
  /-- The packets fetched so far, each with the instance that fetched it. -/
  passed : Set (Nat × Nat)
  clock : Nat

namespace Ledger

def ends (packets : List (Nat × Bool)) : List Nat := (packets.filter Prod.snd).map Prod.fst

def queued (ledger : Ledger) : List Nat := ends ledger.packets

/-- What a receiver may do with a packet that it does not queue or hand to an instance. -/
structure Rules where
  refuse : Ledger → Prop
  ignore : Ledger → Prop
  discard : Ledger → List (Nat × Bool) → Prop
  take : Ledger → Prop

inductive Step (rules : Rules) (ledger : Ledger) : Ledger → Prop
  | advances (clock : Nat) (later : ledger.clock ≤ clock) :
      Step rules ledger { ledger with clock := clock }
  | opens (unlisted : ledger.listed = false) : Step rules ledger { ledger with
      unfinished := ledger.unfinished ++ [ledger.clock]
      births := insert ledger.clock ledger.births
      listed := true
      clock := ledger.clock + 1 }
  | joins (listed : ledger.listed = true)
      (behind : ledger.unfinished.length ≤ ledger.queued.length) : Step rules ledger { ledger with
        unfinished := ledger.unfinished ++ [ledger.clock]
        births := insert ledger.clock ledger.births
        clock := ledger.clock + 1 }
  | pushes (eos : Bool) (listed : ledger.listed = true) (idle : ledger.waiting = []) :
      Step rules ledger { ledger with
        waiting := [(ledger.clock, eos)]
        clock := ledger.clock + 1 }
  | enqueues (serial : Nat) (eos : Bool) (rest : List (Nat × Bool))
      (waiting : ledger.waiting = (serial, eos) :: rest) : Step rules ledger { ledger with
        packets := ledger.packets ++ [(serial, eos)]
        waiting := rest
        listed := ledger.listed && !eos
        endings := ledger.endings ++ if eos then [serial] else [] }
  | flushes (kept : List (Nat × Bool)) (sublist : kept.Sublist ledger.packets)
      (same : ends kept = ends ledger.packets) : Step rules ledger { ledger with packets := kept }
  | fetches (birth serial : Nat) (eos : Bool) (rest : List Nat) (others : List (Nat × Bool))
      (passed : Set (Nat × Nat)) (unfinished : ledger.unfinished = birth :: rest)
      (packets : ledger.packets = (serial, eos) :: others)
      (grows : passed ⊆ insert (birth, serial) ledger.passed) : Step rules ledger { ledger with
        unfinished := if eos then rest else birth :: rest
        packets := others
        passed := passed }
  | takes (serial : Nat) (eos : Bool) (others : List (Nat × Bool)) (unfinished : List Nat)
      (allowed : rules.take ledger) (packets : ledger.packets = (serial, eos) :: others)
      (taken : unfinished = ledger.unfinished ∨ (eos = true ∧ unfinished = ledger.unfinished.tail)) :
      Step rules ledger { ledger with unfinished := unfinished, packets := others }
  | discards (kept : List (Nat × Bool)) (sublist : kept.Sublist ledger.packets)
      (allowed : rules.discard ledger kept) : Step rules ledger { ledger with packets := kept }
  | refuses (allowed : rules.refuse ledger) : Step rules ledger { ledger with
      unfinished := []
      endings := ledger.endings ++ [ledger.clock]
      clock := ledger.clock + 1 }
  | ignores (allowed : rules.ignore ledger) : Step rules ledger { ledger with
      endings := ledger.endings ++ [ledger.clock]
      clock := ledger.clock + 1 }

theorem ends_append (front back : List (Nat × Bool)) : ends (front ++ back) = ends front ++ ends back := by
  simp [ends]

theorem ends_sublist {kept packets : List (Nat × Bool)} (sublist : kept.Sublist packets) :
    (ends kept).Sublist (ends packets) := (sublist.filter _).map _

section Reuse

/-- The sender's current instance is listed exactly while it is open, and every end in the queue
belongs to an instance that waits for it. -/
structure Reusable (ledger : Ledger) : Prop where
  isOpen : ledger.listed = true → ∃ birth ∈ ledger.births, ∀ ending ∈ ledger.endings, ending < birth
  ended : ledger.listed = false → ∀ birth ∈ ledger.births, ∃ ending ∈ ledger.endings, birth ≤ ending
  counted : ledger.queued.length + (if ledger.listed then 1 else 0) ≤ ledger.unfinished.length
  single : ledger.waiting.length ≤ 1
  waits : ∀ packet ∈ ledger.waiting, ledger.listed = true ∧ packet.1 < ledger.clock ∧
    ∀ birth ∈ ledger.births, birth < packet.1
  born : ∀ birth ∈ ledger.births, birth < ledger.clock
  endedBefore : ∀ ending ∈ ledger.endings, ending < ledger.clock

def reuseRules : Rules where
  refuse ledger := ledger.listed = false ∧ ledger.queued = []
  ignore ledger := ledger.listed = false
  discard _ _ := True
  take _ := True

theorem Reusable.discard {ledger : Ledger} (reusable : ledger.Reusable)
    {kept : List (Nat × Bool)} (sublist : kept.Sublist ledger.packets) :
    Reusable { ledger with packets := kept } := by
  have fewer := (ends_sublist sublist).length_le
  have counted := reusable.counted
  refine ⟨reusable.isOpen, reusable.ended, ?_, reusable.single, reusable.waits, reusable.born,
    reusable.endedBefore⟩
  simp only [queued] at counted ⊢
  omega

theorem Reusable.endedLater {ledger : Ledger} (reusable : ledger.Reusable)
    (unlisted : ledger.listed = false) {unfinished : List Nat}
    (counted : ledger.queued.length ≤ unfinished.length) :
    Reusable { ledger with
      unfinished := unfinished
      endings := ledger.endings ++ [ledger.clock]
      clock := ledger.clock + 1 } := by
  refine ⟨?_, ?_, ?_, reusable.single, ?_, ?_, ?_⟩
  · intro listed
    simp [unlisted] at listed
  · intro _ birth member
    have before := reusable.born birth member
    exact ⟨ledger.clock, by simp, by omega⟩
  · simp only [unlisted, Bool.false_eq_true, if_false]
    exact counted
  · intro packet member
    have listed := (reusable.waits packet member).1
    simp [unlisted] at listed
  · intro birth member
    have before := reusable.born birth member
    dsimp only
    omega
  · intro ending member
    rcases mem_append.mp member with old | new
    · have before := reusable.endedBefore ending old
      dsimp only
      omega
    · rw [mem_singleton.mp new]
      exact lt_succ_self _

theorem Reusable.step {ledger later : Ledger} (reusable : ledger.Reusable)
    (step : Step reuseRules ledger later) : later.Reusable := by
  cases step with
  | advances clock after =>
      refine ⟨reusable.isOpen, reusable.ended, reusable.counted, reusable.single, ?_, ?_, ?_⟩
      · intro packet member
        obtain ⟨listed, before, births⟩ := reusable.waits packet member
        exact ⟨listed, Nat.lt_of_lt_of_le before after, births⟩
      · exact fun birth member => Nat.lt_of_lt_of_le (reusable.born birth member) after
      · exact fun ending member => Nat.lt_of_lt_of_le (reusable.endedBefore ending member) after
  | opens unlisted =>
      have counted := reusable.counted
      refine ⟨?_, nofun, ?_, reusable.single, ?_, ?_, ?_⟩
      · intro _
        exact ⟨ledger.clock, Set.mem_insert _ _, reusable.endedBefore⟩
      · simp only [queued, unlisted, length_append, length_singleton] at counted ⊢
        simp only [Bool.false_eq_true, if_false, if_true] at counted ⊢
        omega
      · intro packet member
        have listed := (reusable.waits packet member).1
        simp [unlisted] at listed
      · rintro birth (rfl | member)
        · exact lt_succ_self _
        · exact lt_succ_of_lt (reusable.born birth member)
      · exact fun ending member => lt_succ_of_lt (reusable.endedBefore ending member)
  | joins listed behind =>
      -- a listed instance has no end in the queue yet, so the line is longer than the queue
      have counted := reusable.counted
      rw [listed, if_pos rfl] at counted
      omega
  | pushes eos listed idle =>
      refine ⟨reusable.isOpen, reusable.ended, reusable.counted, Nat.le_refl _, ?_, ?_, ?_⟩
      · intro packet member
        rw [mem_singleton.mp member]
        exact ⟨listed, lt_succ_self _, reusable.born⟩
      · exact fun birth member => lt_succ_of_lt (reusable.born birth member)
      · exact fun ending member => lt_succ_of_lt (reusable.endedBefore ending member)
  | enqueues serial eos rest waiting =>
      obtain ⟨listed, before, births⟩ := reusable.waits (serial, eos) (by simp [waiting])
      have alone : rest = [] := by
        have single := reusable.single
        rw [waiting, length_cons] at single
        exact eq_nil_of_length_eq_zero (by omega)
      have counted := reusable.counted
      subst alone
      cases eos with
      | false =>
          simp only [Bool.not_false, Bool.and_true, Bool.false_eq_true, if_false, append_nil]
          refine ⟨reusable.isOpen, reusable.ended, ?_, by simp, by simp, reusable.born,
            reusable.endedBefore⟩
          simpa [queued, ends_append, ends] using counted
      | true =>
          simp only [Bool.not_true, Bool.and_false, if_true]
          refine ⟨nofun, ?_, ?_, by simp, by simp, reusable.born, ?_⟩
          · intro _ birth member
            exact ⟨serial, by simp, Nat.le_of_lt (births birth member)⟩
          · rw [listed, if_pos rfl] at counted
            simp only [queued] at counted
            simp only [queued, ends_append, length_append, Bool.false_eq_true, if_false]
            have one : (ends [(serial, true)]).length = 1 := rfl
            omega
          · intro ending member
            rcases mem_append.mp member with old | new
            · exact reusable.endedBefore ending old
            · rw [mem_singleton.mp new]
              exact before
  | flushes kept sublist same => exact reusable.discard sublist
  | fetches birth serial eos rest others passed unfinished packets grows =>
      have counted := reusable.counted
      refine ⟨reusable.isOpen, reusable.ended, ?_, reusable.single, reusable.waits, reusable.born,
        reusable.endedBefore⟩
      simp only [queued, packets, unfinished, length_cons] at counted ⊢
      cases eos with
      | false => simpa [ends] using counted
      | true =>
          simp only [ends, filter_cons, if_true, map_cons, length_cons] at counted ⊢
          omega
  | takes serial eos others unfinished allowed packets taken =>
      have counted := reusable.counted
      refine ⟨reusable.isOpen, reusable.ended, ?_, reusable.single, reusable.waits, reusable.born,
        reusable.endedBefore⟩
      simp only [queued, packets] at counted ⊢
      rcases taken with rfl | ⟨rfl, rfl⟩
      · have fewer := (ends_sublist (sublist_cons_self (serial, eos) others)).length_le
        omega
      · simp only [ends, filter_cons, if_true, map_cons, length_cons, length_tail] at counted ⊢
        omega
  | discards kept sublist allowed => exact reusable.discard sublist
  | refuses allowed => exact reusable.endedLater allowed.1 (by simp [allowed.2])
  | ignores allowed =>
      have counted := reusable.counted
      simp only [show ledger.listed = false from allowed, Bool.false_eq_true, if_false] at counted
      exact reusable.endedLater allowed counted

end Reuse

section Retirement

structure OwnEnd (endings : List Nat) (birth own : Nat) : Prop where
  received : own ∈ endings
  after : birth < own
  first : ∀ ending ∈ endings, birth < ending → own ≤ ending

def Served (listed : Bool) (endings : List Nat) : List Nat → List Nat → Prop
  | [], _ => True
  | birth :: line, [] => line = [] ∧ listed = true ∧ ∀ ending ∈ endings, ending ≤ birth
  | birth :: line, ending :: queue =>
      ((∀ received ∈ endings, received ≤ birth) ∨
        ∃ own ∈ ending :: queue, OwnEnd endings birth own) ∧ Served listed endings line queue

variable {endings : List Nat} {birth ending : Nat}

theorem OwnEnd.append {own : Nat}
    (ownEnd : OwnEnd endings birth own) (later : ∀ received ∈ endings, received < ending) :
    OwnEnd (endings ++ [ending]) birth own := by
  refine ⟨by simp [ownEnd.received], ownEnd.after, ?_⟩
  intro other member follows
  rcases mem_append.mp member with old | new
  · exact ownEnd.first other old follows
  · rw [mem_singleton.mp new]
    exact Nat.le_of_lt (later own ownEnd.received)

theorem OwnEnd.new (follows : birth < ending) (unended : ∀ received ∈ endings, received ≤ birth) :
    OwnEnd (endings ++ [ending]) birth ending := by
  refine ⟨by simp, follows, ?_⟩
  intro other member later
  rcases mem_append.mp member with old | new
  · have before := unended other old
    omega
  · rw [mem_singleton.mp new]

variable {line queue : List Nat}

theorem Served.shorter (served : Served false endings line queue) : line.length ≤ queue.length := by
  induction line generalizing queue with
  | nil => exact Nat.zero_le _
  | cons birth line ih =>
      cases queue with
      | nil => simp [Served] at served
      | cons ending queue => exact succ_le_succ (ih served.2)

variable {listed : Bool}

theorem Served.join (served : Served listed endings line queue) (behind : line.length ≤ queue.length)
    (unended : ∀ ending ∈ endings, ending ≤ birth) :
    Served true endings (line ++ [birth]) queue := by
  induction line generalizing queue with
  | nil =>
      cases queue with
      | nil => exact ⟨rfl, rfl, unended⟩
      | cons ending queue => exact ⟨.inl unended, trivial⟩
  | cons first line ih =>
      cases queue with
      | nil => simp at behind
      | cons ending queue => exact ⟨served.1, ih served.2 (le_of_succ_le_succ behind)⟩

section

variable (served : Served listed endings line queue) (later : ∀ received ∈ endings, received < ending)

include served later

theorem Served.receive : Served false (endings ++ [ending]) line (queue ++ [ending]) := by
  have settle : ∀ birth, (∀ received ∈ endings, received ≤ birth) →
      (∀ received ∈ endings ++ [ending], received ≤ birth) ∨ OwnEnd (endings ++ [ending]) birth ending := by
    intro birth unended
    by_cases follows : birth < ending
    · exact .inr (.new follows unended)
    · left
      intro received member
      rcases mem_append.mp member with old | new
      · exact unended received old
      · rw [mem_singleton.mp new]
        omega
  induction line generalizing queue with
  | nil => cases queue <;> trivial
  | cons birth line ih =>
      cases queue with
      | nil =>
          obtain ⟨rfl, _, unended⟩ := served
          exact ⟨(settle birth unended).imp id fun own => ⟨ending, by simp, own⟩, trivial⟩
      | cons first queue =>
          refine ⟨?_, ih served.2⟩
          rcases served.1 with unended | ⟨own, member, ownEnd⟩
          · exact (settle birth unended).imp id fun own => ⟨ending, by simp, own⟩
          · exact .inr ⟨own, mem_append_left [ending] member, ownEnd.append later⟩

theorem Served.lose (ended : ∀ birth ∈ line, ∃ received ∈ endings, birth < received) :
    Served listed (endings ++ [ending]) line queue := by
  induction line generalizing queue with
  | nil => cases queue <;> trivial
  | cons birth line ih =>
      obtain ⟨received, member, follows⟩ := ended birth (by simp)
      cases queue with
      | nil =>
          have before := served.2.2 received member
          omega
      | cons first queue =>
          refine ⟨.inr ?_, ih served.2 fun birth later => ended birth (by simp [later])⟩
          rcases served.1 with unended | ⟨own, queued, ownEnd⟩
          · have before := unended received member
            omega
          · exact ⟨own, queued, ownEnd.append later⟩

end

structure Retirable (ledger : Ledger) : Prop where
  served : Served ledger.listed ledger.endings ledger.unfinished ledger.queued
  sorted : (ledger.packets ++ ledger.waiting).Pairwise fun packet later => packet.1 < later.1
  before : ∀ packet ∈ ledger.packets ++ ledger.waiting, packet.1 < ledger.clock
  single : ledger.waiting.length ≤ 1
  endedBefore : ∀ ending ∈ ledger.endings, ending < ledger.clock ∧ ∀ packet ∈ ledger.waiting, ending < packet.1
  passedBefore : ∀ passed ∈ ledger.passed, passed.2 < ledger.clock ∧
    ∀ packet ∈ ledger.waiting, passed.2 < packet.1
  apart : ∀ passed ∈ ledger.passed, ∀ ending ∈ ledger.endings, passed.1 < ending → passed.2 ≤ ending

def retireRules : Rules where
  refuse ledger := ledger.waiting = []
  ignore ledger := ledger.waiting = [] ∧ ∀ birth ∈ ledger.unfinished, ∃ ending ∈ ledger.endings, birth < ending
  discard ledger kept := ends kept = ledger.queued
  take _ := False

variable {ledger : Ledger}

theorem Retirable.keep (retirable : ledger.Retirable) {kept : List (Nat × Bool)}
    (sublist : kept.Sublist ledger.packets) (same : ends kept = ledger.queued) :
    Retirable { ledger with packets := kept } := by
  have smaller : (kept ++ ledger.waiting).Sublist (ledger.packets ++ ledger.waiting) :=
    sublist.append_right _
  refine ⟨?_, retirable.sorted.sublist smaller, ?_, retirable.single, retirable.endedBefore,
    retirable.passedBefore, retirable.apart⟩
  · simp only [queued, same]
    exact retirable.served
  · exact fun packet member => retirable.before packet (smaller.subset member)

theorem Retirable.lose (retirable : ledger.Retirable) (idle : ledger.waiting = []) {unfinished : List Nat}
    (served : Served ledger.listed (ledger.endings ++ [ledger.clock]) unfinished ledger.queued) :
    Retirable { ledger with
      unfinished := unfinished
      endings := ledger.endings ++ [ledger.clock]
      clock := ledger.clock + 1 } := by
  refine ⟨served, retirable.sorted, ?_, retirable.single, ?_, ?_, ?_⟩
  · exact fun packet member => lt_succ_of_lt (retirable.before packet member)
  · intro ending member
    refine ⟨?_, by simp [idle]⟩
    rcases mem_append.mp member with old | new
    · exact lt_succ_of_lt (retirable.endedBefore ending old).1
    · rw [mem_singleton.mp new]
      exact lt_succ_self _
  · intro passed member
    exact ⟨lt_succ_of_lt (retirable.passedBefore passed member).1, by simp [idle]⟩
  · intro passed member ending received follows
    rcases mem_append.mp received with old | new
    · exact retirable.apart passed member ending old follows
    · rw [mem_singleton.mp new]
      exact Nat.le_of_lt (retirable.passedBefore passed member).1

theorem Retirable.join (retirable : ledger.Retirable) (behind : ledger.unfinished.length ≤ ledger.queued.length) :
    Retirable { ledger with
      unfinished := ledger.unfinished ++ [ledger.clock]
      births := insert ledger.clock ledger.births
      listed := true
      clock := ledger.clock + 1 } := by
  refine ⟨?_, retirable.sorted, ?_, retirable.single, ?_, ?_, retirable.apart⟩
  · exact retirable.served.join behind fun ending member =>
      Nat.le_of_lt (retirable.endedBefore ending member).1
  · exact fun packet member => lt_succ_of_lt (retirable.before packet member)
  · exact fun ending member => ⟨lt_succ_of_lt (retirable.endedBefore ending member).1,
      (retirable.endedBefore ending member).2⟩
  · exact fun passed member => ⟨lt_succ_of_lt (retirable.passedBefore passed member).1,
      (retirable.passedBefore passed member).2⟩

theorem Retirable.step {ledger later : Ledger} (retirable : ledger.Retirable)
    (step : Step retireRules ledger later) : later.Retirable := by
  cases step with
  | advances clock after =>
      refine ⟨retirable.served, retirable.sorted, ?_, retirable.single, ?_, ?_, retirable.apart⟩
      · exact fun packet member => Nat.lt_of_lt_of_le (retirable.before packet member) after
      · exact fun ending member =>
          ⟨Nat.lt_of_lt_of_le (retirable.endedBefore ending member).1 after,
            (retirable.endedBefore ending member).2⟩
      · exact fun passed member =>
          ⟨Nat.lt_of_lt_of_le (retirable.passedBefore passed member).1 after,
            (retirable.passedBefore passed member).2⟩
  | opens unlisted =>
      have served := retirable.served
      rw [unlisted] at served
      exact retirable.join served.shorter
  | joins listed behind =>
      have joined := retirable.join behind
      rw [← listed] at joined
      exact joined
  | pushes eos listed idle =>
      have sorted := retirable.sorted
      have before := retirable.before
      rw [idle, append_nil] at sorted before
      refine ⟨retirable.served, ?_, ?_, Nat.le_refl _, ?_, ?_, retirable.apart⟩
      · rw [pairwise_append]
        refine ⟨sorted, pairwise_singleton _ _, ?_⟩
        intro packet old pushed new
        rw [mem_singleton.mp new]
        exact before packet old
      · intro packet member
        rcases mem_append.mp member with old | new
        · exact lt_succ_of_lt (before packet old)
        · rw [mem_singleton.mp new]
          exact lt_succ_self _
      · intro ending member
        have received := (retirable.endedBefore ending member).1
        exact ⟨lt_succ_of_lt received, by simpa using received⟩
      · intro passed member
        have fetched := (retirable.passedBefore passed member).1
        exact ⟨lt_succ_of_lt fetched, by simpa using fetched⟩
  | enqueues serial eos rest waiting =>
      have alone : rest = [] := by
        have single := retirable.single
        rw [waiting, length_cons] at single
        exact eq_nil_of_length_eq_zero (by omega)
      subst alone
      have sorted := retirable.sorted
      have before := retirable.before
      rw [waiting] at sorted before
      have received : ∀ ending ∈ ledger.endings, ending < serial := fun ending member =>
        (retirable.endedBefore ending member).2 (serial, eos) (by simp [waiting])
      have fetched : ∀ passed ∈ ledger.passed, passed.2 < serial := fun passed member =>
        (retirable.passedBefore passed member).2 (serial, eos) (by simp [waiting])
      have now : serial < ledger.clock := before (serial, eos) (by simp)
      refine ⟨?_, by simpa using sorted, by simpa using before, by simp, ?_, ?_, ?_⟩
      · cases eos with
        | false => simpa [queued, ends_append, ends] using retirable.served
        | true =>
            have served := retirable.served.receive received
            simpa [queued, ends_append, ends] using served
      · intro ending member
        refine ⟨?_, by simp⟩
        rcases mem_append.mp member with old | new
        · exact (retirable.endedBefore ending old).1
        · have same : ending = serial := by
            cases eos <;> simp at new
            exact new
          rw [same]
          exact now
      · exact fun passed member => ⟨(retirable.passedBefore passed member).1, by simp⟩
      · intro passed member ending new follows
        rcases mem_append.mp new with old | new
        · exact retirable.apart passed member ending old follows
        · have same : ending = serial := by
            cases eos <;> simp at new
            exact new
          rw [same]
          exact Nat.le_of_lt (fetched passed member)
  | flushes kept sublist same => exact retirable.keep sublist same
  | fetches birth serial eos rest others passed unfinished packets grows =>
      have served := retirable.served
      have sorted := retirable.sorted
      have before := retirable.before
      have first : ∀ ending ∈ ledger.queued, serial ≤ ending := by
        intro ending member
        rw [queued, packets] at member
        obtain ⟨packet, inside, rfl⟩ := mem_map.mp member
        rcases mem_cons.mp (mem_filter.mp inside).1 with rfl | behind
        · exact Nat.le_refl _
        · rw [packets, cons_append, pairwise_cons] at sorted
          exact Nat.le_of_lt (sorted.1 packet (mem_append_left _ behind))
      -- the end of the instance that fetches is still to come, or it is behind the packet
      have own : ∀ ending ∈ ledger.endings, birth < ending → serial ≤ ending := by
        intro ending member follows
        rw [unfinished] at served
        cases queue : ledger.queued with
        | nil =>
            rw [queue] at served
            have past := served.2.2 ending member
            omega
        | cons head tail =>
            rw [queue] at served
            rcases served.1 with unended | ⟨own, inside, ownEnd⟩
            · have past := unended ending member
              omega
            · rw [← queue] at inside
              exact Nat.le_trans (first own inside) (ownEnd.first ending member follows)
      rw [packets, cons_append] at sorted before
      rw [pairwise_cons] at sorted
      refine ⟨?_, sorted.2, ?_, retirable.single, retirable.endedBefore, ?_, ?_⟩
      · rw [unfinished, queued, packets] at served
        cases eos with
        | false => exact served
        | true => exact served.2
      · exact fun packet member => before packet (mem_cons_of_mem _ member)
      · intro fetched member
        rcases grows member with rfl | old
        · exact ⟨before (serial, eos) (by simp), fun packet waits =>
            sorted.1 packet (mem_append_right _ waits)⟩
        · exact retirable.passedBefore fetched old
      · intro fetched member ending received follows
        rcases grows member with rfl | old
        · exact own ending received follows
        · exact retirable.apart fetched old ending received follows
  | takes serial eos others unfinished allowed packets taken => exact allowed.elim
  | discards kept sublist allowed => exact retirable.keep sublist allowed
  | refuses allowed =>
      refine retirable.lose allowed ?_
      trivial
  | ignores allowed =>
      exact retirable.lose allowed.1 (retirable.served.lose
        (fun ending member => (retirable.endedBefore ending member).1) allowed.2)

end Retirement

end Ledger

end Redhawk.Bulkio
