import Mathlib.Data.List.Basic

/-!
Runs of a deterministic step function over a list of events, and the rules that carry an
invariant along a run whose events are all allowed in the states they meet.
-/

namespace Redhawk.Library

variable {State Event : Type}

def run (step : Event → State → State) (start : State) (events : List Event) : State :=
  events.foldl (fun state event => step event state) start

def Along (step : Event → State → State) (allowed : Event → State → Prop) :
    State → List Event → Prop
  | _, [] => True
  | state, event :: rest => allowed event state ∧ Along step allowed (step event state) rest

instance alongDecidable (step : Event → State → State) (allowed : Event → State → Prop)
    [∀ event state, Decidable (allowed event state)] :
    (state : State) → (events : List Event) → Decidable (Along step allowed state events)
  | _, [] => isTrue trivial
  | state, event :: rest =>
    have : Decidable (Along step allowed (step event state) rest) :=
      alongDecidable step allowed (step event state) rest
    inferInstanceAs (Decidable (allowed event state ∧ Along step allowed (step event state) rest))

section

variable (step : Event → State → State) (start : State)

@[simp] theorem run_nil :
    run step start [] = start := rfl

@[simp] theorem run_cons (event : Event)
    (rest : List Event) : run step start (event :: rest) = run step (step event start) rest := rfl

theorem run_append (first second : List Event) :
    run step start (first ++ second) = run step (run step start first) second := by
  simp [run, List.foldl_append]

end

variable {step : Event → State → State} {allowed : Event → State → Prop} {start : State}

theorem along_append {first second : List Event} :
    Along step allowed start (first ++ second) ↔
      Along step allowed start first ∧ Along step allowed (run step start first) second := by
  induction first generalizing start with
  | nil => simp [Along]
  | cons event rest ih => simp [Along, ih, and_assoc]

variable {events : List Event}

theorem Along.mono {weaker : Event → State → Prop}
    (weaken : ∀ event state, allowed event state → weaker event state)
    (along : Along step allowed start events) : Along step weaker start events := by
  induction events generalizing start with
  | nil => trivial
  | cons event rest ih => exact ⟨weaken _ _ along.1, ih along.2⟩

theorem along_true (step : Event → State → State) (start : State) (events : List Event) :
    Along step (fun _ _ => True) start events := by
  induction events generalizing start with
  | nil => trivial
  | cons event rest ih => exact ⟨trivial, ih _⟩

theorem invariant_run {step : Event → State → State} {allowed : Event → State → Prop} (Inv : State → Prop)
    (preserved : ∀ event state, Inv state → allowed event state → Inv (step event state))
    {start : State} {events : List Event} (initial : Inv start)
    (along : Along step allowed start events) : Inv (run step start events) := by
  induction events generalizing start with
  | nil => exact initial
  | cons event rest ih => exact ih (preserved event start initial along.1) along.2

theorem simulation_run {Other : Type} {other : Event → Other → Other} (Related : State → Other → Prop)
    (preserved : ∀ event state image, Related state image → allowed event state →
      Related (step event state) (other event image))
    {image : Other} (initial : Related start image)
    (along : Along step allowed start events) :
    Related (run step start events) (run other image events) := by
  induction events generalizing start image with
  | nil => exact initial
  | cons event rest ih => exact ih (preserved event start image initial along.1) along.2

theorem Along.and {first second : Event → State → Prop} (one : Along step first start events)
    (two : Along step second start events) :
    Along step (fun event state => first event state ∧ second event state) start events := by
  induction events generalizing start with
  | nil => trivial
  | cons event rest ih => exact ⟨⟨one.1, two.1⟩, ih one.2 two.2⟩

theorem along_iff {asked : Event → State → Prop} (Inv : State → Prop)
    (exact : ∀ event state, Inv state → (asked event state ↔ allowed event state))
    (preserved : ∀ event state, Inv state → allowed event state → Inv (step event state))
    (initial : Inv start) : Along step asked start events ↔ Along step allowed start events := by
  induction events generalizing start with
  | nil => exact Iff.rfl
  | cons event rest ih =>
      have first := exact event start initial
      constructor
      · rintro ⟨holds, others⟩
        have clear := first.mp holds
        exact ⟨clear, (ih (preserved event start initial clear)).mp others⟩
      · rintro ⟨clear, others⟩
        exact ⟨first.mpr clear, (ih (preserved event start initial clear)).mpr others⟩

theorem along_after_iff {Good : State → Prop}
    (exact : ∀ event state, Good state → (Good (step event state) ↔ allowed event state))
    (initial : Good start) :
    Along step (fun event state => Good (step event state)) start events ↔ Along step allowed start events :=
  along_iff Good exact (fun event state good => (exact event state good).mpr) initial

end Redhawk.Library
