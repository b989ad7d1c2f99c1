import Redhawk.Allocation.AllocationLedger

/-!
An allocation that is broken up into several calls of one device: how the properties are divided,
and what the device holds when the calls are complete or have been undone.
-/

namespace Redhawk.Allocation

open List

/-- The lists have every property once, in its order, and no identifier twice in one of them. -/
structure Partitions (properties : Properties) (lists : List Properties) : Prop where
  whole : lists.flatten = properties
  distinct : ∀ list ∈ lists, (list.map Prod.fst).Nodup
  nonempty : ∀ list ∈ lists, list ≠ []

def stuck (answers : DeviceAnswers) (lists : List Properties) : List Properties :=
  (lists.zipIdx.filter fun entry => !answers.deallocateCapacity entry.2).map Prod.fst

def givenBack (answers : DeviceAnswers) (lists : List Properties) : List Properties :=
  (lists.zipIdx.reverse.filter fun entry => answers.deallocateCapacity entry.2).map Prod.fst

/-- Every list was allocated, by one call each, or one was not: then those before it were allocated
and given back, but for those that the device would not take back. -/
structure CompleteOrUndone (device : DeviceRef) (answers : DeviceAnswers) (lists : List Properties)
    (result : Bool × List Call) : Prop where
  complete : result.1 = true →
    (∀ i < lists.length, answers.allocateCapacity i = .granted) ∧ result.2 = lists.map (.allocated device)
  undone : result.1 = false → ∃ failed < lists.length,
    (∀ i < failed, answers.allocateCapacity i = .granted) ∧ answers.allocateCapacity failed ≠ .granted ∧
      result.2 = (lists.take failed).map (.allocated device) ++
        (givenBack answers (lists.take failed)).map (.deallocated device) ∧
      ∀ held, applyCalls result.2 held = bundles device (stuck answers (lists.take failed)) + held

section Partition

theorem partitionLoop_cons (identifiers : List String) (current : Properties)
    (property : DataType) (rest : Properties) :
    partitionLoop identifiers current (property :: rest) =
      if property.1 ∈ identifiers then current :: partitionLoop [property.1] [property] rest
      else partitionLoop (property.1 :: identifiers) (current ++ [property]) rest := rfl

theorem partitionLoop_partitions (identifiers : List String) (current rest : Properties)
    (same : ∀ id, id ∈ identifiers ↔ id ∈ current.map Prod.fst)
    (nodup : (current.map Prod.fst).Nodup) :
    Partitions (current ++ rest) (partitionLoop identifiers current rest) := by
  induction rest generalizing identifiers current with
  | nil =>
      rw [append_nil, partitionLoop]
      split
      · rename_i empty
        subst empty
        exact ⟨rfl, nofun, nofun⟩
      · refine ⟨by simp, fun list member => ?_, fun list member => ?_⟩
        · rwa [mem_singleton.mp member]
        · rwa [mem_singleton.mp member]
  | cons property rest ih =>
      rw [partitionLoop_cons]
      split
      · rename_i repeated
        have filled : current ≠ [] := by
          rintro rfl
          exact absurd ((same property.1).mp repeated) not_mem_nil
        have later := ih [property.1] [property] (by simp) (nodup_singleton _)
        refine ⟨?_, fun list member => ?_, fun list member => ?_⟩
        · rw [flatten_cons, later.whole, singleton_append]
        · rcases mem_cons.mp member with rfl | member
          · exact nodup
          · exact later.distinct list member
        · rcases mem_cons.mp member with rfl | member
          · exact filled
          · exact later.nonempty list member
      · rename_i fresh
        have names : (current ++ [property]).map Prod.fst = current.map Prod.fst ++ [property.1] := by
          rw [map_append, map_singleton]
        have later := ih (property.1 :: identifiers) (current ++ [property])
          (fun id => by rw [names, mem_cons, same, mem_append, mem_singleton, or_comm])
          (by
            rw [names, nodup_append]
            refine ⟨nodup, nodup_singleton _, fun left member right single equal => ?_⟩
            rw [mem_singleton.mp single] at equal
            exact fresh ((same _).mpr (equal ▸ member)))
        rwa [append_assoc, singleton_append] at later

end Partition

section Complete

variable {device : DeviceRef} {answers : DeviceAnswers} (lists : List Properties)

theorem givenBack_append (last : Properties) :
    givenBack answers (lists ++ [last]) =
      (if answers.deallocateCapacity lists.length then [last] else []) ++ givenBack answers lists := by
  rw [givenBack, zipIdx_append, reverse_append, filter_append, map_append, givenBack]
  by_cases taken : answers.deallocateCapacity lists.length <;> simp [taken]

theorem stuck_append (last : Properties) :
    stuck answers (lists ++ [last]) =
      stuck answers lists ++ if answers.deallocateCapacity lists.length then [] else [last] := by
  rw [stuck, zipIdx_append, filter_append, map_append, stuck]
  by_cases taken : answers.deallocateCapacity lists.length <;> simp [taken]

theorem undo_eq (done : List Properties) :
    undo device answers done = (givenBack answers done.reverse).map (.deallocated device) := by
  induction done with
  | nil => rfl
  | cons granted earlier ih =>
      rw [undo, ih, reverse_cons, givenBack_append, map_append, length_reverse]
      split <;> rfl

theorem bundles_append (first second : List Properties) :
    bundles device (first ++ second) = bundles device first + bundles device second := by
  simp [bundles]

theorem applyCalls_allocated (held : Multiset (DeviceRef × Properties)) :
    applyCalls (lists.map (.allocated device)) held = bundles device lists + held := by
  induction lists generalizing held with
  | nil => simp [applyCalls]
  | cons properties rest ih =>
      have next := ih ((device, properties) ::ₘ held)
      rw [applyCalls] at next
      rw [map_cons, applyCalls, foldl_cons, Call.apply, next, bundles_cons,
        Multiset.add_cons, Multiset.cons_add]

theorem applyCalls_undo (done : List Properties) (held : Multiset (DeviceRef × Properties)) :
    applyCalls (undo device answers done) (bundles device done + held) =
      bundles device (stuck answers done.reverse) + held := by
  induction done generalizing held with
  | nil => simp [undo, applyCalls, stuck]
  | cons granted earlier ih =>
      rw [undo, applyCalls_append, reverse_cons, stuck_append, length_reverse,
        bundles_append, bundles_cons]
      by_cases taken : answers.deallocateCapacity earlier.length
      · rw [if_pos taken, if_pos taken]
        simpa [applyCalls, Call.apply] using ih held
      · rw [if_neg taken, if_neg taken]
        have next := ih ((device, granted) ::ₘ held)
        rw [Multiset.add_cons] at next
        rw [Multiset.cons_add, bundles_cons, bundles_nil, Multiset.add_assoc, Multiset.cons_add, zero_add]
        exact next

theorem completeLoop_cases (done rest : List Properties) :
    ((∀ i < rest.length, answers.allocateCapacity (done.length + i) = .granted) ∧
        completeLoop device answers done rest = (true, rest.map (.allocated device))) ∨
      ∃ failed < rest.length,
        (∀ i < failed, answers.allocateCapacity (done.length + i) = .granted) ∧
          answers.allocateCapacity (done.length + failed) ≠ .granted ∧
          completeLoop device answers done rest =
            (false, (rest.take failed).map (.allocated device) ++
              undo device answers ((rest.take failed).reverse ++ done)) := by
  induction rest generalizing done with
  | nil => exact .inl ⟨nofun, rfl⟩
  | cons properties rest ih =>
      have stops (refused : answers.allocateCapacity done.length ≠ .granted)
          (same : completeLoop device answers done (properties :: rest) = (false, undo device answers done)) :
          ∃ failed < (properties :: rest).length,
            (∀ i < failed, answers.allocateCapacity (done.length + i) = .granted) ∧
              answers.allocateCapacity (done.length + failed) ≠ .granted ∧
              completeLoop device answers done (properties :: rest) =
                (false, ((properties :: rest).take failed).map (.allocated device) ++
                  undo device answers (((properties :: rest).take failed).reverse ++ done)) :=
        ⟨0, Nat.zero_lt_succ _, nofun, refused, same⟩
      cases answer : answers.allocateCapacity done.length with
      | refused => exact .inr (stops (by simp [answer]) (by simp [completeLoop, answer]))
      | raised => exact .inr (stops (by simp [answer]) (by simp [completeLoop, answer]))
      | granted =>
          -- the answers from here on are those to the rest of the lists
          have shift (n : Nat) (before : ∀ i < n,
              answers.allocateCapacity ((properties :: done).length + i) = .granted) :
              ∀ i < n + 1, answers.allocateCapacity (done.length + i) = .granted := by
            intro i small
            cases i with
            | zero => exact answer
            | succ i =>
                have here := before i (Nat.lt_of_succ_lt_succ small)
                rwa [length_cons, Nat.succ_add_eq_add_succ] at here
          rw [completeLoop, answer]
          rcases ih (properties :: done) with ⟨granted, same⟩ | ⟨failed, small, before, refused, same⟩
          · refine .inl ⟨shift rest.length granted, ?_⟩
            rw [same]
            rfl
          · refine .inr ⟨failed + 1, Nat.succ_lt_succ small, shift failed before, ?_, ?_⟩
            · rwa [length_cons, Nat.succ_add_eq_add_succ] at refused
            · rw [same]
              simp

theorem completeAllocations_completeOrUndone :
    CompleteOrUndone device answers lists (completeAllocations device answers lists) := by
  have cases := @completeLoop_cases device answers [] lists
  simp only [length_nil, Nat.zero_add, append_nil] at cases
  rw [completeAllocations]
  rcases cases with ⟨granted, same⟩ | ⟨failed, small, before, refused, same⟩
  · rw [same]
    exact ⟨fun _ => ⟨granted, rfl⟩, by rintro ⟨⟩⟩
  · rw [same]
    refine ⟨by rintro ⟨⟩, fun _ => ⟨failed, small, before, refused, ?_, fun held => ?_⟩⟩
    · rw [undo_eq, reverse_reverse]
    · have reversed : bundles device (lists.take failed) = bundles device (lists.take failed).reverse := by
        rw [bundles, bundles, map_reverse]
        exact Quot.sound (reverse_perm _).symm
      rw [applyCalls_append, applyCalls_allocated, reversed, applyCalls_undo, reverse_reverse]

end Complete

section Device

variable {node : DeviceNode} {answers : DeviceAnswers}

theorem checkDeviceMatching_external {externalProperties dependencies allocProps : Properties}
    (matched : checkDeviceMatching node answers externalProperties dependencies = some (true, allocProps)) :
    ∃ converted, (dependencies.filter fun dependency => node.prf.lookup dependency.1 == some true).mapM
        answers.convert = some converted ∧ allocProps = externalProperties ++ converted := by
  induction dependencies generalizing externalProperties with
  | nil =>
      simp only [checkDeviceMatching, Option.some.injEq, Prod.mk.injEq, true_and] at matched
      exact ⟨[], rfl, by rw [append_nil, matched]⟩
  | cons dependency rest ih =>
      rw [checkDeviceMatching] at matched
      cases kind : node.prf.lookup dependency.1 with
      | none => simp [kind] at matched
      | some isExternal =>
          cases isExternal with
          | true =>
              cases conversion : answers.convert dependency with
              | none => simp [kind, conversion] at matched
              | some converted =>
                  simp only [kind, conversion] at matched
                  obtain ⟨later, all, same⟩ := ih matched
                  refine ⟨converted :: later, ?_, by rw [same, append_assoc]; rfl⟩
                  rw [filter_cons_of_pos (by simp [kind]), mapM_cons, conversion, all]
                  rfl
          | false =>
              rw [filter_cons_of_neg (by simp [kind])]
              cases answer : answers.matchesProperty dependency with
              | none => simp [kind, answer] at matched
              | some equal =>
                  cases equal with
                  | false => simp [kind, answer] at matched
                  | true =>
                      simp only [kind, answer] at matched
                      exact ih matched

theorem allocateDevice_succeeded {requested allocated : Properties}
    (succeeded : (allocateDevice requested node answers).1 = .succeeded allocated) :
    (requested.filter fun dependency => node.prf.lookup dependency.1 == some true).mapM
        answers.convert = some allocated ∧
      (allocateDevice requested node answers).2 =
        (partitionProperties allocated).map (.allocated node.device) := by
  unfold allocateDevice at succeeded ⊢
  split at succeeded
  · cases succeeded
  rename_i objectExists
  rw [if_neg objectExists]
  split at succeeded
  · cases succeeded
  split at succeeded
  · cases succeeded
  rename_i free
  rw [if_neg free]
  split at succeeded
  · cases succeeded
  · cases succeeded
  rename_i allocProps matched
  obtain ⟨converted, all, same⟩ := checkDeviceMatching_external matched
  subst same
  split at succeeded
  · cases succeeded
  rename_i unpartitioned
  rw [if_neg unpartitioned]
  split at succeeded
  · rename_i nothing
    obtain rfl := Tried.succeeded.inj succeeded
    rw [if_pos nothing, all, nothing]
    exact ⟨rfl, rfl⟩
  · rename_i something
    rw [if_neg something]
    dsimp only at succeeded ⊢
    split at succeeded
    · rename_i completed
      obtain rfl := Tried.succeeded.inj succeeded
      exact ⟨all, ((completeAllocations_completeOrUndone _).complete completed).2⟩
    · cases succeeded

end Device

/-- Properties are divided into lists without repeated identifiers; a device that is asked for the
lists holds them all or, once one was not granted, those alone that it would not take back. -/
theorem allocations_complete_or_undone (properties : Properties) (device : DeviceRef) (answers : DeviceAnswers) :
    Partitions properties (partitionProperties properties) ∧
    (∀ lists, CompleteOrUndone device answers lists (completeAllocations device answers lists)) ∧
    ∀ node allocated, (allocateDevice properties node answers).1 = .succeeded allocated →
      (properties.filter fun dependency => node.prf.lookup dependency.1 == some true).mapM
          answers.convert = some allocated ∧
        (allocateDevice properties node answers).2 =
          (partitionProperties allocated).map (.allocated node.device) :=
  ⟨partitionLoop_partitions [] [] properties (fun _ => Iff.rfl) nodup_nil, completeAllocations_completeOrUndone,
    fun _ _ => allocateDevice_succeeded⟩

def obliging : DeviceAnswers where
  objectExists := true
  busy := some false
  matchesProperty _ := some true
  convert dependency := some dependency
  allocateCapacity _ := .granted
  deallocateCapacity _ := true

def memories : DeviceNode := ⟨"node", 0, 0, [("memory", true)], []⟩

theorem allocations_complete_memory :
    (allocateDevice [("memory", "3"), ("memory", "4")] memories obliging).2 =
      (partitionProperties [("memory", "3"), ("memory", "4")]).map (.allocated 0) :=
  ((allocations_complete_or_undone [("memory", "3"), ("memory", "4")] 0 obliging).2.2 memories _ (by decide)).2

def keeping : DeviceAnswers where
  objectExists := true
  busy := some false
  matchesProperty _ := some true
  convert dependency := some dependency
  allocateCapacity n := if n = 0 then .granted else .refused
  deallocateCapacity _ := false

/-- The second list is refused and the device does not take the first one back. -/
theorem refused_keeps_first :
    (completeAllocations 0 keeping (partitionProperties [("memory", "3"), ("memory", "4")])).1 = false ∧
      applyCalls (completeAllocations 0 keeping
        (partitionProperties [("memory", "3"), ("memory", "4")])).2 0 ≠ 0 := by
  decide

end Redhawk.Allocation
