import Mathlib.Data.List.Basic
import Redhawk.Library.Lists

/-!
Loops that try one choice after another until one of them gives a result, where what a failed attempt
does to the state is not undone, and loops that erase from a list while an iterator goes over it:
erasing moves the iterator to the next element, so a loop that also advances it passes over one.
-/

namespace Redhawk.Library

open List

variable {Choice State Result : Type}

def firstOf (attempt : Choice → State → Option Result × State) :
    List Choice → State → Option Result × State
  | [], state => (none, state)
  | choice :: rest, state =>
    match attempt choice state with
    | (some result, next) => (some result, next)
    | (none, next) => firstOf attempt rest next

/-- The choices fail one after another, and lead from the first state to the second. -/
inductive Fails (attempt : Choice → State → Option Result × State) :
    List Choice → State → State → Prop
  | nil (state : State) : Fails attempt [] state state
  | cons {choice : Choice} {rest : List Choice} {state next last : State}
      (failed : attempt choice state = (none, next)) (behind : Fails attempt rest next last) :
      Fails attempt (choice :: rest) state last

variable {attempt : Choice → State → Option Result × State} {choice : Choice}
  {choices earlier later : List Choice} {state next last : State}

theorem firstOf_cases (attempt : Choice → State → Option Result × State) (choices : List Choice) (state : State) :
    (∃ last, Fails attempt choices state last ∧ firstOf attempt choices state = (none, last)) ∨
    ∃ earlier choice later middle result last, choices = earlier ++ choice :: later ∧
      Fails attempt earlier state middle ∧ attempt choice middle = (some result, last) ∧
      firstOf attempt choices state = (some result, last) := by
  induction choices generalizing state with
  | nil => exact .inl ⟨state, .nil state, rfl⟩
  | cons choice rest ih =>
      cases tried : attempt choice state with
      | mk outcome next =>
          cases outcome with
          | some result =>
              exact .inr ⟨[], choice, rest, state, result, next, rfl, .nil state, tried, by rw [firstOf, tried]⟩
          | none =>
              rw [firstOf, tried]
              rcases ih next with ⟨last, fails, ends⟩ | ⟨earlier, other, later, middle, result, last,
                split, fails, found, ends⟩
              · exact .inl ⟨last, .cons tried fails, ends⟩
              · exact .inr ⟨choice :: earlier, other, later, middle, result, last, by rw [split]; rfl,
                  .cons tried fails, found, ends⟩

theorem Fails.invariant {Offered : Choice → Prop} (Inv : List Choice → State → Prop)
    (step : ∀ earlier choice state next, Offered choice → Inv earlier state →
      attempt choice state = (none, next) → Inv (earlier ++ [choice]) next)
    {before : List Choice} (start : Inv before state) (offered : ∀ choice ∈ choices, Offered choice)
    (fails : Fails attempt choices state last) : Inv (before ++ choices) last := by
  induction fails generalizing before with
  | nil state => rwa [List.append_nil]
  | cons failed behind ih =>
      obtain ⟨own, others⟩ := List.forall_mem_cons.mp offered
      have there := ih (step _ _ _ _ own start failed) others
      rwa [List.append_assoc, List.singleton_append] at there

theorem first_unique {Passes : Choice → Prop} {first second : List Choice} {one other : Choice}
    {behind rest : List Choice} (same : first ++ one :: behind = second ++ other :: rest)
    (before : ∀ choice ∈ first, Passes choice) (ends : ¬Passes one)
    (also : ∀ choice ∈ second, Passes choice) (stops : ¬Passes other) :
    second = first ∧ other = one := by
  rcases split_cases same with ⟨between, rfl, -⟩ | ⟨rfl, rfl, -⟩ | ⟨between, rfl, -⟩
  · exact absurd (before other (by simp)) stops
  · exact ⟨rfl, rfl⟩
  · exact absurd (also one (by simp)) ends

variable {β : Type} (keep : β → Bool)

def eraseLoop : List β → List β → List β
  | passed, [] => passed
  | passed, item :: rest =>
    if keep item then eraseLoop (passed ++ [item]) rest else eraseLoop passed rest

/-- The loop that always advances; `none` is the step past the end of the list. -/
def eraseAdvance : List β → List β → Option (List β)
  | passed, [] => some passed
  | passed, item :: rest =>
    if keep item then eraseAdvance (passed ++ [item]) rest
    else
      match rest with
      | [] => none
      | next :: rest => eraseAdvance (passed ++ [next]) rest

/-- Where a run of elements to erase starts, an odd number of them is followed by an element, which is
to be kept or does not pass the test. -/
def HarmlessRuns (test : β → Bool) (items : List β) : Prop :=
  ∀ before run after, items = before ++ run ++ after → (∀ item ∈ run, keep item = false) →
    (∀ last ∈ before.getLast?, keep last = true) → run.length % 2 = 1 →
    ∃ next rest, after = next :: rest ∧ (keep next = false → test next = false)

variable {keep}

theorem eraseLoop_eq (passed items : List β) :
    eraseLoop keep passed items = passed ++ items.filter keep := by
  induction items generalizing passed with
  | nil => exact (append_nil passed).symm
  | cons item rest ih =>
      rw [eraseLoop]
      split
      · rename_i kept
        rw [ih, filter_cons_of_pos kept, append_assoc, singleton_append]
      · rename_i erased
        rw [ih, filter_cons_of_neg erased]

section Advance

variable {item next : β} {rest : List β}

theorem eraseAdvance_keep (kept : keep item = true) (passed rest : List β) :
    eraseAdvance keep passed (item :: rest) = eraseAdvance keep (passed ++ [item]) rest := by
  cases rest <;> simp [eraseAdvance, kept]

theorem eraseAdvance_last (erased : keep item = false) (passed : List β) :
    eraseAdvance keep passed [item] = none := by
  simp [eraseAdvance, erased]

theorem eraseAdvance_skip (erased : keep item = false) (passed : List β) (next : β) (rest : List β) :
    eraseAdvance keep passed (item :: next :: rest) = eraseAdvance keep (passed ++ [next]) rest := by
  simp [eraseAdvance, erased]

theorem eraseAdvance_passed (front passed items : List β) :
    eraseAdvance keep (front ++ passed) items = (eraseAdvance keep passed items).map (front ++ ·) := by
  induction passed, items using eraseAdvance.induct keep with
  | case1 passed => rfl
  | case2 passed item rest kept ih =>
      rw [eraseAdvance_keep kept, eraseAdvance_keep kept, append_assoc, ih]
  | case3 passed item erased =>
      rw [eraseAdvance_last (Bool.eq_false_iff.mpr erased), eraseAdvance_last (Bool.eq_false_iff.mpr erased)]
      rfl
  | case4 passed item erased next rest ih =>
      rw [eraseAdvance_skip (Bool.eq_false_iff.mpr erased),
        eraseAdvance_skip (Bool.eq_false_iff.mpr erased), append_assoc, ih]

end Advance

section Runs

variable {test : β → Bool} {item next : β} {rest : List β}

theorem harmlessRuns_keep (kept : keep item = true) :
    HarmlessRuns keep test (item :: rest) ↔ HarmlessRuns keep test rest := by
  constructor
  · intro harmless before run after split failing starts
    refine harmless (item :: before) run after (by rw [split]; rfl) failing ?_
    intro last found
    cases before with
    | nil => exact Option.some.inj found ▸ kept
    | cons head before => exact starts last (getLast?_cons_cons ▸ found)
  · intro harmless before run after split failing starts
    cases before with
    | nil =>
        cases run with
        | nil => exact nofun
        | cons first run =>
            obtain ⟨rfl, -⟩ := cons.inj split
            exact absurd (failing _ mem_cons_self) (by simp [kept])
    | cons head before =>
        obtain ⟨rfl, tails⟩ := cons.inj split
        refine harmless before run after tails failing fun last found => ?_
        cases before with
        | nil => exact nomatch found
        | cons second before => exact starts last (by rwa [getLast?_cons_cons])

theorem harmlessRuns_last (erased : keep item = false) : ¬HarmlessRuns keep test [item] := by
  intro harmless
  obtain ⟨next, rest, more, -⟩ := harmless [] [item] [] rfl (by simpa using erased) nofun rfl
  exact nomatch more

theorem harmlessRuns_skip (erased : keep item = false) :
    HarmlessRuns keep test (item :: next :: rest) ↔
      (keep next = false → test next = false) ∧ HarmlessRuns keep test rest := by
  constructor
  · intro harmless
    refine ⟨?_, fun before run after split failing starts odd => ?_⟩
    · obtain ⟨other, others, same, fails⟩ :=
        harmless [] [item] (next :: rest) rfl (by simpa using erased) nofun rfl
      obtain ⟨rfl, -⟩ := cons.inj same
      exact fails
    · by_cases joins : before = [] ∧ keep next = false
      · obtain ⟨rfl, fails⟩ := joins
        refine harmless [] (item :: next :: run) after (by rw [split]; rfl) ?_ nofun
          (by simp only [length_cons]; omega)
        exact forall_mem_cons.mpr ⟨erased, forall_mem_cons.mpr ⟨fails, failing⟩⟩
      · refine harmless (item :: next :: before) run after (by rw [split]; rfl) failing ?_ odd
        intro last found
        rw [getLast?_cons_cons] at found
        cases before with
        | nil =>
            obtain rfl := Option.some.inj found
            simpa using joins
        | cons head before => exact starts last (getLast?_cons_cons ▸ found)
  · rintro ⟨follows, harmless⟩ before run after split failing starts odd
    match before with
    | [] =>
        match run with
        | [] => exact nomatch odd
        | [first] =>
            obtain ⟨-, rfl⟩ := cons.inj split
            exact ⟨next, rest, rfl, follows⟩
        | first :: second :: run =>
            obtain ⟨rfl, tails⟩ := cons.inj split
            obtain ⟨rfl, ends⟩ := cons.inj tails
            refine harmless [] run after ends ?_ nofun (by simp only [length_cons] at odd; omega)
            exact fun other member => failing other (by simp [member])
    | [first] =>
        obtain ⟨rfl, -⟩ := cons.inj split
        exact absurd (starts _ rfl) (by simp [erased])
    | first :: second :: before =>
        obtain ⟨rfl, tails⟩ := cons.inj split
        obtain ⟨rfl, ends⟩ := cons.inj tails
        refine harmless before run after ends failing (fun last found => ?_) odd
        cases before with
        | nil => exact nomatch found
        | cons head before => exact starts last (by rwa [getLast?_cons_cons])

theorem eraseAdvance_filter_iff (passed items : List β) :
    (eraseAdvance keep passed items).map (filter test) =
        some ((passed ++ items.filter keep).filter test) ↔ HarmlessRuns keep test items := by
  induction passed, items using eraseAdvance.induct keep with
  | case1 passed =>
      refine iff_of_true (by simp [eraseAdvance]) fun before run after split _ _ odd => ?_
      rw [eq_comm, append_eq_nil_iff, append_eq_nil_iff] at split
      rw [split.1.2] at odd
      exact nomatch odd
  | case2 passed item rest kept ih =>
      rw [eraseAdvance_keep kept, harmlessRuns_keep kept, filter_cons_of_pos kept, ← ih,
        append_assoc, singleton_append]
  | case3 passed item erased =>
      have erased := Bool.eq_false_iff.mpr erased
      rw [eraseAdvance_last erased]
      exact iff_of_false nofun (harmlessRuns_last erased)
  | case4 passed item erased next rest ih =>
      have erased := Bool.eq_false_iff.mpr erased
      rw [eraseAdvance_skip erased, harmlessRuns_skip erased, ← ih, filter_cons_of_neg (by simp [erased])]
      cases kept : keep next with
      | true =>
          rw [filter_cons_of_pos kept, append_assoc, singleton_append]
          exact (and_iff_right nofun).symm
      | false =>
          rw [filter_cons_of_neg (by simp [kept])]
          cases passes : test next with
          | false => simp [filter_append, passes]
          | true =>
              refine iff_of_false (fun same => ?_) fun both => nomatch both.1 rfl
              have behind := @eraseAdvance_passed _ keep (passed ++ [next]) [] rest
              rw [append_nil] at behind
              rw [behind, Option.map_map, Option.map_eq_some_iff] at same
              obtain ⟨others, -, same⟩ := same
              rw [Function.comp, filter_append, filter_append, filter_append,
                append_assoc, append_cancel_left_eq] at same
              have member : next ∈ (rest.filter keep).filter test := by
                rw [← same]
                simp [passes]
              have keeps := (mem_filter.mp (mem_filter.mp member).1).2
              exact nomatch kept.symm.trans keeps

end Runs

end Redhawk.Library
