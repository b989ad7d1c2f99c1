import Redhawk.Properties.ConfigureCalls

/-!
What the calls of `configure` and `initializeProperties` say of their entries, against what the turn of
each entry has done.
-/

namespace Redhawk.Properties

open PropertyWrapper Loop

variable {PropId α : Type} {table : ConfigurableTable PropId}

def Turn.given (turn : Turn table α) (wrapper : PropertyWrapper (table.kind turn.id) α) :
    Option ((table.kind turn.id).Variable α) :=
  match turn.value with
  | .converts newValue => some newValue
  | .null =>
    if (table.kind turn.id).isSequence then some (PropertySet.clearSequence _ wrapper.value)
    else if wrapper.enableNil then none
    else wrapper.toPointer
  | .other => wrapper.toPointer

def PropertyWrapper.custom {kind : PropertyKind} (self : PropertyWrapper kind α)
    (answer : Configured kind α) : PropertyWrapper kind α :=
  (self.setVariable answer.value).setNil answer.isNil

/-- Apart from a custom configure function nothing raises at the turn. -/
structure Handlers.Calm {kind : PropertyKind} (handlers : Handlers kind α) : Prop where
  query : ∀ answers, handlers.query = some answers →
    (∃ value, answers.1 = .ok value) ∧ ∃ value, answers.2 = .ok value
  listeners : ∀ listener, handlers.listenerRaises listener = none
  callback : handlers.callbackRaises = none
  sendEvent : handlers.sendEventRaises = none

def Turn.Accepts (turn : Turn table α) (wrapper : PropertyWrapper (table.kind turn.id) α) : Prop :=
  turn.value ≠ .other ∧ ∀ newValue, turn.value = .converts newValue → wrapper.configured = true →
    (turn.handlers.configure newValue).throws = false

section Loops

variable [DecidableEq PropId]

def Loop.met (loop : Loop table α) :
    List (Turn table α) → Wrappers table α → List (Turn table α × Wrappers table α)
  | [], _ => []
  | turn :: rest, wrappers =>
    (turn, wrappers) ::
      match (loop.take turn wrappers).ending with
      | .escapes _ => []
      | .valid | .invalid => loop.met rest (loop.take turn wrappers).wrappers

variable (loop : Loop table α)

def Loop.turned (met : Turn table α × Wrappers table α) : Turned table α := loop.take met.1 met.2

def Loop.completes (met : Turn table α × Wrappers table α) : Bool :=
  (loop.turned met).ending == .valid

def Loop.escape (met : Turn table α × Wrappers table α) : Option Raised :=
  match (loop.turned met).ending with
  | .escapes raised => some raised
  | .valid | .invalid => none

variable {loop}

theorem Loop.run_eq (turns : List (Turn table α)) (progress : Progress table α) :
    loop.run turns progress =
      let met := loop.met turns progress.wrappers
      { wrappers :=
          (met.map Prod.fst).foldl (fun wrappers turn => (loop.take turn wrappers).wrappers)
            progress.wrappers
        validProperties := progress.validProperties + (met.filter loop.completes).length
        invalidProperties := progress.invalidProperties ++
          (met.filter fun met => (loop.turned met).ending == .invalid).map fun met => met.1.entry
        callbacksRun := progress.callbacksRun ++
          (met.filter fun met => (loop.turned met).callbackRun).map fun met => met.1.id
        escaped := (met.findSome? loop.escape).or progress.escaped } := by
  induction turns generalizing progress with
  | nil => simp [run, met]
  | cons turn rest ih =>
      rw [run, met]
      cases ending : (loop.take turn progress.wrappers).ending with
      | valid =>
          rw [ih]
          cases ran : (loop.take turn progress.wrappers).callbackRun <;>
            simp [completes, escape, turned, ending, ran, Nat.add_assoc, Nat.add_comm 1]
      | invalid =>
          simp only
          rw [ih]
          cases ran : (loop.take turn progress.wrappers).callbackRun <;>
            simp [completes, escape, turned, ending, ran]
      | escapes raised =>
          cases ran : (loop.take turn progress.wrappers).callbackRun <;>
            simp [completes, escape, turned, ending, ran]

end Loops

section Bodies

variable {turn : Turn table α} {wrapper : PropertyWrapper (table.kind turn.id) α}

variable {kind : PropertyKind}

theorem PropertyWrapper.getValue_configured (self : PropertyWrapper kind α)
    (query : Option (Except Raised (kind.Variable α))) :
    (self.getValue query).1.configured = self.configured := by
  unfold getValue
  split
  · rfl
  · split <;> rfl

theorem PropertyWrapper.getValue_unqueried (self : PropertyWrapper kind α) :
    self.getValue none = (self, .ok self.toPointer) := by
  unfold getValue toPointer
  split <;> rfl

theorem PropertyWrapper.getValue_toPointer {self : PropertyWrapper kind α}
    {query : Option (Except Raised (kind.Variable α))} {answer : Option (kind.Variable α)}
    (answered : (self.getValue query).2 = .ok answer) :
    (self.getValue query).1.toPointer = answer := by
  unfold getValue at answered ⊢
  by_cases isNil : (self.enableNil && self.isNil) = true
  · rw [if_pos isNil] at answered ⊢
    exact (if_pos isNil).trans (Except.ok.inj answered)
  · rw [if_neg isNil] at answered ⊢
    rcases query with _ | raised | value
    · exact (if_neg isNil).trans (Except.ok.inj answered)
    · cases answered
    · exact (if_neg isNil).trans (Except.ok.inj answered)

theorem Handlers.Calm.getValue {handlers : Handlers kind α}
    (calm : handlers.Calm) (self : PropertyWrapper kind α) :
    (∃ value, (self.getValue (handlers.query.map Prod.fst)).2 = .ok value) ∧
      ∃ value, (self.getValue (handlers.query.map Prod.snd)).2 = .ok value := by
  cases queried : handlers.query with
  | none => simp [PropertyWrapper.getValue_unqueried]
  | some answers =>
      obtain ⟨⟨before, fst⟩, after, snd⟩ := calm.query answers queried
      unfold PropertyWrapper.getValue
      split <;> simp [fst, snd]

theorem accepts_getValue (query : Option (Except Raised ((table.kind turn.id).Variable α))) :
    turn.Accepts (wrapper.getValue query).1 ↔ turn.Accepts wrapper := by
  simp only [Turn.Accepts, getValue_configured]

variable [BEq α] {callbacks : Bool}

theorem accepts_of_setValueRaises
    (returns : setValueRaises turn wrapper callbacks = none) : turn.Accepts wrapper := by
  unfold setValueRaises at returns
  unfold Turn.Accepts
  cases given : turn.value with
  | other => simp [given] at returns
  | null => simp
  | converts newValue =>
      simp only [given] at returns
      split at returns
      · cases returns
      · next passes =>
          refine ⟨by simp, fun value same configured => ?_⟩
          cases same
          simpa [configured] using passes

theorem setValueRaises_eq_none_iff (silent : ∀ listener, turn.handlers.listenerRaises listener = none) :
    setValueRaises turn wrapper callbacks = none ↔ turn.Accepts wrapper := by
  refine ⟨accepts_of_setValueRaises, fun accepts => ?_⟩
  have listenersRaise (called : List (ListenerCall ((table.kind turn.id).Variable α))) :
      (called.findSome? fun call => turn.handlers.listenerRaises call.listener) = none :=
    List.findSome?_eq_none_iff.mpr fun call _ => silent call.listener
  unfold setValueRaises
  cases given : turn.value with
  | other => exact absurd given accepts.1
  | null => exact listenersRaise _
  | converts newValue =>
      simp only [listenersRaise]
      cases configured : wrapper.configured with
      | false => simp
      | true => simp [accepts.2 newValue given configured]

theorem setValue_given (plain : wrapper.configured = false) (accepts : turn.Accepts wrapper) :
    (wrapper.setValue turn.call callbacks).1.toPointer = turn.given wrapper := by
  unfold setValue Turn.given
  cases given : turn.value with
  | other => exact absurd given accepts.1
  | null =>
      simp only [Turn.call, given, setValueSuper]
      split
      · next sequence => exact setVariable_toPointer sequence _
      · next simple =>
          rw [setNil_toPointer simple]
          unfold toPointer
          cases wrapper.enableNil <;> simp
  | converts newValue =>
      simp [Turn.call, given, setValueSuper, store, plain,
        toPointer, setNil, setVariable]

theorem setValue_custom {newValue : (table.kind turn.id).Variable α}
    (configured : wrapper.configured = true) (given : turn.value = .converts newValue) :
    (wrapper.setValue turn.call callbacks).1 = wrapper.custom (turn.handlers.configure newValue) := by
  simp only [setValue, Turn.call, given, setValueSuper,
    store, configured, if_true, custom]
  split <;> rfl

theorem configureBody_returned (returned : (configureBody turn wrapper).raised = none) :
    let queried := (wrapper.getValue (turn.handlers.query.map Prod.fst)).1
    let after := ((queried.setValue turn.call true).1.getValue (turn.handlers.query.map Prod.snd)).1
    turn.Accepts wrapper ∧ (configureBody turn wrapper).wrapper = after ∧
      (configureBody turn wrapper).callbackRun = (table.hasCallback turn.id &&
        !compareAnys (table.basic turn.id) queried.toPointer after.toPointer) := by
  intro queried after
  unfold configureBody at returned ⊢
  cases before : (wrapper.getValue (turn.handlers.query.map Prod.fst)).2 with
  | error raised => simp [before] at returned
  | ok beforeValue =>
      simp only [before] at returned ⊢
      cases set : setValueRaises turn queried true with
      | some raised => simp [queried, set] at returned
      | none =>
          have accepts := (accepts_getValue _).mp (accepts_of_setValueRaises set)
          simp only [queried, set] at returned ⊢
          cases afterwards : ((queried.setValue turn.call true).1.getValue
              (turn.handlers.query.map Prod.snd)).2 with
          | error raised => simp [queried, afterwards] at returned
          | ok afterValue =>
              have showsBefore := getValue_toPointer before
              have showsAfter := getValue_toPointer afterwards
              simp only [queried] at showsAfter ⊢
              rw [showsBefore, showsAfter]
              cases compareAnys (table.basic turn.id) beforeValue afterValue <;>
                simp [accepts, after, queried]

theorem configureBody_calm (calm : turn.handlers.Calm) (accepts : turn.Accepts wrapper) :
    (configureBody turn wrapper).raised = none := by
  unfold configureBody
  obtain ⟨beforeValue, before⟩ := (calm.getValue wrapper).1
  simp only [before]
  rw [(setValueRaises_eq_none_iff calm.listeners).mpr ((accepts_getValue _).mpr accepts)]
  obtain ⟨afterValue, after⟩ := (calm.getValue (((wrapper.getValue
    (turn.handlers.query.map Prod.fst)).1.setValue turn.call true).1)).2
  simp only [after]
  split
  · rfl
  · simp [changeRaises, calm.callback, calm.sendEvent]

end Bodies

structure Loop.Regular (loop : Loop table α) : Prop where
  accepts : ∀ turn wrapper, (loop.body turn wrapper).raised = none → turn.Accepts wrapper
  calm : ∀ turn wrapper, turn.handlers.Calm → turn.Accepts wrapper → (loop.body turn wrapper).raised = none
  given : ∀ turn wrapper, (loop.body turn wrapper).raised = none →
    wrapper.configured = false → turn.handlers.query = none →
      (loop.body turn wrapper).wrapper.toPointer = turn.given wrapper
  custom : ∀ turn wrapper, (loop.body turn wrapper).raised = none →
    wrapper.configured = true → turn.handlers.query = none →
      ∀ newValue, turn.value = .converts newValue →
        (loop.body turn wrapper).wrapper = wrapper.custom (turn.handlers.configure newValue)

theorem configureLoop_regular [BEq α] : (configureLoop : Loop table α).Regular where
  accepts _ _ returned := (configureBody_returned returned).1
  calm _ _ := configureBody_calm
  given turn wrapper returned plain unqueried := by
    obtain ⟨accepts, leaves, -⟩ := configureBody_returned returned
    simp only [unqueried, Option.map_none, getValue_unqueried] at leaves
    exact leaves ▸ setValue_given plain accepts
  custom turn wrapper returned configured unqueried newValue given := by
    obtain ⟨accepts, leaves, -⟩ := configureBody_returned returned
    simp only [unqueried, Option.map_none, getValue_unqueried] at leaves
    exact leaves.trans (setValue_custom configured given)

theorem initializeLoop_regular [BEq α] : (initializeLoop : Loop table α).Regular where
  accepts _ _ := accepts_of_setValueRaises
  calm _ _ calm := (setValueRaises_eq_none_iff calm.listeners).mpr
  given _ _ returned plain _ := setValue_given plain (accepts_of_setValueRaises returned)
  custom _ _ _ configured _ _ given := setValue_custom configured given

section Reports

variable [DecidableEq PropId] {loop : Loop table α}

/-- The turn of an entry against its effect: an entry that completes is taken over, and one that does not
is of no property, or not accepted, or the code of the user has raised at its turn. -/
structure Loop.Settles (loop : Loop table α) (met : Turn table α × Wrappers table α) : Prop where
  others : ∀ id, id ≠ met.1.id → (loop.turned met).wrappers id = met.2 id
  refused : loop.reaches met.1 = false → (loop.turned met).wrappers = met.2
  accepted : loop.completes met = true → loop.reaches met.1 = true ∧ met.1.Accepts (met.2 met.1.id)
  calm : met.1.handlers.Calm → loop.reaches met.1 = true → met.1.Accepts (met.2 met.1.id) →
    loop.completes met = true
  given : loop.completes met = true → (met.2 met.1.id).configured = false →
    met.1.handlers.query = none → ((loop.turned met).wrappers met.1.id).toPointer = met.1.given (met.2 met.1.id)
  custom : loop.completes met = true → (met.2 met.1.id).configured = true →
    met.1.handlers.query = none → ∀ newValue, met.1.value = .converts newValue →
      (loop.turned met).wrappers met.1.id = (met.2 met.1.id).custom (met.1.handlers.configure newValue)

variable {met : Turn table α × Wrappers table α}

theorem Loop.turned_of_reaches (reaches : loop.reaches met.1 = true) :
    loop.turned met = ⟨Function.update met.2 met.1.id (loop.body met.1 (met.2 met.1.id)).wrapper,
      loop.ending (loop.body met.1 (met.2 met.1.id)).raised,
      (loop.body met.1 (met.2 met.1.id)).callbackRun⟩ := by
  rw [turned, take, if_pos reaches]

theorem Loop.completed_wrapper (reaches : loop.reaches met.1 = true) :
    (loop.turned met).wrappers met.1.id = (loop.body met.1 (met.2 met.1.id)).wrapper := by
  rw [turned_of_reaches reaches]
  exact Function.update_self _ _ _

theorem Loop.turned_of_refused
    (refused : loop.reaches met.1 = false) : loop.turned met = ⟨met.2, .invalid, false⟩ := by
  rw [turned, take, if_neg (Bool.eq_false_iff.mp refused)]

theorem Loop.completes_iff :
    loop.completes met = true ↔ loop.reaches met.1 = true ∧ (loop.body met.1 (met.2 met.1.id)).raised = none := by
  unfold completes
  cases reaches : loop.reaches met.1 with
  | false => simp [turned_of_refused reaches]
  | true =>
      rw [turned_of_reaches reaches]
      cases (loop.body met.1 (met.2 met.1.id)).raised with
      | none => simp [ending]
      | some raised =>
          cases caught : loop.caught raised <;> simp [ending, caught]

theorem Loop.Regular.settles (regular : loop.Regular) (met : Turn table α × Wrappers table α) :
    loop.Settles met where
  others id other := by
    cases reaches : loop.reaches met.1 with
    | false => rw [turned_of_refused reaches]
    | true =>
        rw [turned_of_reaches reaches]
        exact Function.update_of_ne other _ _
  refused refused := by rw [turned_of_refused refused]
  accepted completed :=
    have ⟨reaches, returned⟩ := completes_iff.mp completed
    ⟨reaches, regular.accepts _ _ returned⟩
  calm calm reaches accepts := completes_iff.mpr ⟨reaches, regular.calm _ _ calm accepts⟩
  given completed plain unqueried := by
    obtain ⟨reaches, returned⟩ := completes_iff.mp completed
    rw [completed_wrapper reaches]
    exact regular.given _ _ returned plain unqueried
  custom completed configured unqueried newValue given := by
    obtain ⟨reaches, returned⟩ := completes_iff.mp completed
    rw [completed_wrapper reaches]
    exact regular.custom _ _ returned configured unqueried newValue given

structure Loop.Reports (loop : Loop table α) (wrappers : Wrappers table α)
    (turns : List (Turn table α)) (result : ConfigureResult table α) : Prop where
  escaped_iff : ∀ raised, result.answer = .escaped raised ↔
    ∃ met ∈ loop.met turns wrappers, (loop.turned met).ending = .escapes raised
  reached : (∀ raised, result.answer ≠ .escaped raised) → (loop.met turns wrappers).map Prod.fst = turns
  listed : ∀ invalidProperties, result.answer = .partialConfiguration invalidProperties ∨
      (∃ msg, result.answer = .invalidConfiguration msg invalidProperties) →
    invalidProperties =
      ((loop.met turns wrappers).filter fun met => !loop.completes met).map fun met => met.1.entry
  partial_iff : (∃ invalidProperties, result.answer = .partialConfiguration invalidProperties) ↔
    (∀ raised, result.answer ≠ .escaped raised) ∧
      (∃ met ∈ loop.met turns wrappers, loop.completes met = true) ∧
        ∃ met ∈ loop.met turns wrappers, loop.completes met = false
  invalid_iff : (∃ msg invalidProperties, result.answer = .invalidConfiguration msg invalidProperties) ↔
    (∀ raised, result.answer ≠ .escaped raised) ∧ turns ≠ [] ∧
      ∀ met ∈ loop.met turns wrappers, loop.completes met = false
  inOrder : result.wrappers = ((loop.met turns wrappers).map Prod.fst).foldl
    (fun wrappers turn => (loop.take turn wrappers).wrappers) wrappers
  callbacks : result.callbacksRun =
    ((loop.met turns wrappers).filter fun met => (loop.turned met).callbackRun).map fun met => met.1.id

theorem Loop.findSome?_escape_iff (turns : List (Turn table α)) (wrappers : Wrappers table α) (raised : Raised) :
    (loop.met turns wrappers).findSome? loop.escape = some raised ↔
      ∃ met ∈ loop.met turns wrappers, (loop.turned met).ending = .escapes raised := by
  induction turns generalizing wrappers with
  | nil => simp [met]
  | cons turn rest ih =>
      rw [met]
      cases ending : (loop.take turn wrappers).ending with
      | escapes first => simp [escape, turned, ending]
      | valid => simpa [escape, turned, ending] using ih _
      | invalid => simpa [escape, turned, ending] using ih _

theorem Loop.met_fst (turns : List (Turn table α)) (wrappers : Wrappers table α)
    (uncut : (loop.met turns wrappers).findSome? loop.escape = none) :
    (loop.met turns wrappers).map Prod.fst = turns := by
  induction turns generalizing wrappers with
  | nil => rfl
  | cons turn rest ih =>
      rw [met] at uncut ⊢
      cases ending : (loop.take turn wrappers).ending with
      | escapes first => simp [escape, turned, ending] at uncut
      | valid => simpa [ending] using ih _ (by simpa [escape, turned, ending] using uncut)
      | invalid => simpa [ending] using ih _ (by simpa [escape, turned, ending] using uncut)

variable {turns : List (Turn table α)} {wrappers : Wrappers table α}

theorem Loop.invalid_of_uncut (uncut : (loop.met turns wrappers).findSome? loop.escape = none) :
    ∀ met ∈ loop.met turns wrappers, ((loop.turned met).ending == .invalid) = !loop.completes met := by
  intro met member
  have caught := List.findSome?_eq_none_iff.mp uncut met member
  unfold escape at caught
  unfold completes
  cases ending : (loop.turned met).ending <;> simp_all

def Progress.answer (progress : Progress table α) : ConfigureAnswer table α :=
  match progress.escaped with
  | some raised => .escaped raised
  | none =>
    if progress.invalidProperties.length > 0 then
      if progress.validProperties > 0 then .partialConfiguration progress.invalidProperties
      else .invalidConfiguration "No matching properties found" progress.invalidProperties
    else .returned

theorem Loop.answer_cut {raised : Raised} (cut : (loop.met turns wrappers).findSome? loop.escape = some raised) :
    (loop.run turns (begun wrappers)).answer = .escaped raised := by
  simp [run_eq, begun, Progress.answer, cut]

theorem Loop.answer_uncut (uncut : (loop.met turns wrappers).findSome? loop.escape = none) :
    let met := loop.met turns wrappers
    let listed := (met.filter fun met => !loop.completes met).map fun met => met.1.entry
    (loop.run turns (begun wrappers)).answer =
      if listed.length > 0 then
        if (met.filter loop.completes).length > 0 then .partialConfiguration listed
        else .invalidConfiguration "No matching properties found" listed
      else .returned := by
  intro met listed
  simp only [run_eq, begun, Progress.answer, uncut, List.nil_append, Nat.zero_add, Option.or_none]
  rw [List.filter_congr (invalid_of_uncut uncut)]

theorem Loop.reports (turns : List (Turn table α)) (wrappers : Wrappers table α) :
    let progress := loop.run turns (begun wrappers)
    loop.Reports wrappers turns ⟨progress.wrappers, progress.callbacksRun, progress.answer⟩ := by
  intro progress
  have inOrder : progress.wrappers = ((loop.met turns wrappers).map Prod.fst).foldl
      (fun wrappers turn => (loop.take turn wrappers).wrappers) wrappers := by
    simp [progress, run_eq, begun]
  have callbacks : progress.callbacksRun = ((loop.met turns wrappers).filter fun met =>
      (loop.turned met).callbackRun).map fun met => met.1.id := by
    simp [progress, run_eq, begun]
  cases cut : (loop.met turns wrappers).findSome? loop.escape with
  | some raised =>
      have answered : progress.answer = .escaped raised := answer_cut cut
      refine ⟨fun other => ?_, fun uncut => absurd answered (uncut raised), ?_, ?_, ?_, inOrder, callbacks⟩
      · rw [← findSome?_escape_iff, cut]
        simp [answered]
      · simp [answered]
      · simp [answered]
      · simp [answered]
  | none =>
      have answered : progress.answer = _ := answer_uncut cut
      have uncut : ∀ raised, progress.answer ≠ .escaped raised := by
        intro raised
        rw [answered]
        split
        · split <;> simp
        · simp
      have covered := met_fst turns wrappers cut
      have someListed : 0 < (((loop.met turns wrappers).filter fun met =>
          !loop.completes met).map fun met => met.1.entry).length ↔
            ∃ met ∈ loop.met turns wrappers, loop.completes met = false := by
        simp [List.length_filter_pos_iff]
      have someCompleted : 0 < ((loop.met turns wrappers).filter loop.completes).length ↔
          ∃ met ∈ loop.met turns wrappers, loop.completes met = true :=
        List.length_filter_pos_iff
      refine ⟨fun other => ?_, fun _ => covered, ?_, ?_, ?_, inOrder, callbacks⟩
      · rw [← findSome?_escape_iff, cut]
        simp [uncut]
      · intro invalidProperties answer
        rw [answered] at answer
        split at answer
        · split at answer
          · obtain same | ⟨_, same⟩ := answer <;> cases same
            rfl
          · obtain same | ⟨_, same⟩ := answer <;> cases same
            rfl
        · obtain same | ⟨_, same⟩ := answer <;> cases same
      · rw [and_iff_right uncut, answered]
        split
        · next failed =>
            split
            · next completed =>
                exact iff_of_true ⟨_, rfl⟩ ⟨someCompleted.mp completed, someListed.mp failed⟩
            · next completed =>
                exact iff_of_false (by rintro ⟨_, ⟨⟩⟩) fun both => completed (someCompleted.mpr both.1)
        · next failed => exact iff_of_false (by rintro ⟨_, ⟨⟩⟩) fun both => failed (someListed.mpr both.2)
      · rw [and_iff_right uncut, answered]
        split
        · next failed =>
            obtain ⟨met, member, -⟩ := someListed.mp failed
            have nonempty : turns ≠ [] := by
              rintro rfl
              cases member
            split
            · next completed =>
                obtain ⟨other, otherMember, completes⟩ := someCompleted.mp completed
                simp only [reduceCtorEq, exists_false, false_iff, not_and]
                intro _ none
                exact Bool.false_ne_true ((none other otherMember).symm.trans completes)
            · next completed =>
                refine iff_of_true ⟨_, _, rfl⟩ ⟨nonempty, fun met member => ?_⟩
                exact Bool.eq_false_iff.mpr fun completes =>
                  completed (someCompleted.mpr ⟨met, member, completes⟩)
        · next failed =>
            simp only [reduceCtorEq, exists_false, false_iff, not_and]
            intro nonempty none
            obtain ⟨turn, rest, rfl⟩ := List.exists_cons_of_ne_nil nonempty
            exact failed (someListed.mpr ⟨(turn, wrappers), List.mem_cons_self, none _ List.mem_cons_self⟩)

section Answers

variable [BEq α]

theorem initializeProperties_eq (wrappers : Wrappers table α) (turns : List (Turn table α)) :
    let progress := initializeLoop.run turns (begun wrappers)
    initializeProperties false wrappers turns = ⟨progress.wrappers, progress.callbacksRun, progress.answer⟩ := by
  intro progress
  cases cut : (initializeLoop.met turns wrappers).findSome? initializeLoop.escape with
  | some raised =>
      have escaped : progress.escaped = some raised := by simp [progress, run_eq, begun, cut]
      simp [initializeProperties, Progress.answer, progress, escaped]
  | none =>
      have escaped : progress.escaped = none := by simp [progress, run_eq, begun, cut]
      have someValid : progress.invalidProperties.length < turns.length ↔ progress.validProperties > 0 := by
        have sum := List.length_eq_length_filter_add
          (l := initializeLoop.met turns wrappers) initializeLoop.completes
        rw [← List.length_map Prod.fst, met_fst turns wrappers cut] at sum
        simp only [progress, run_eq, begun, List.nil_append, Nat.zero_add, List.length_map]
        rw [List.filter_congr (invalid_of_uncut cut)]
        omega
      simp [initializeProperties, Progress.answer, progress, escaped, someValid]

theorem initializeProperties_reports (wrappers : Wrappers table α) (turns : List (Turn table α)) :
    initializeLoop.Reports wrappers turns (initializeProperties false wrappers turns) := by
  rw [initializeProperties_eq]
  exact reports turns wrappers

theorem initializeLoop_silent (met : Turn table α × Wrappers table α) :
    (initializeLoop.turned met).callbackRun = false := by
  unfold turned take
  split <;> rfl

def Turn.before (turn : Turn table α) (wrapper : PropertyWrapper (table.kind turn.id) α) :
    Option ((table.kind turn.id).Variable α) :=
  (wrapper.getValue (turn.handlers.query.map Prod.fst)).1.toPointer

theorem equals_of_compareAnys {kind : PropertyKind} {basic : Bool}
    {before after : Option (kind.Variable α)} (same : compareAnys basic before after = true) :
    equals before after = true := by
  unfold compareAnys at same
  split at same
  · simpa using (Bool.and_eq_true _ _ ▸ same).2
  · cases same

theorem compareAnys_of_equals {kind : PropertyKind} {before after : Option (kind.Variable α)}
    (beforeHeld : before ≠ none) (afterHeld : after ≠ none) (same : equals before after = true) :
    compareAnys true before after = true := by
  obtain ⟨beforeValue, rfl⟩ := Option.ne_none_iff_exists'.mp beforeHeld
  obtain ⟨afterValue, rfl⟩ := Option.ne_none_iff_exists'.mp afterHeld
  simpa [compareAnys, equals] using same

/-- The callback of a property against the change of its value, for an entry that completes. -/
structure CallbackFollows (met : Turn table α × Wrappers table α) : Prop where
  registered : (configureLoop.turned met).callbackRun = true → table.hasCallback met.1.id = true
  runs : configureLoop.completes met = true → table.hasCallback met.1.id = true →
    equals (met.1.before (met.2 met.1.id))
      ((configureLoop.turned met).wrappers met.1.id).toPointer = false →
    (configureLoop.turned met).callbackRun = true
  changed : configureLoop.completes met = true → table.basic met.1.id = true →
    met.1.before (met.2 met.1.id) ≠ none →
    ((configureLoop.turned met).wrappers met.1.id).toPointer ≠ none →
    (configureLoop.turned met).callbackRun = true →
    equals (met.1.before (met.2 met.1.id))
      ((configureLoop.turned met).wrappers met.1.id).toPointer = false

theorem configureLoop_registered {met : Turn table α × Wrappers table α}
    (ran : (configureLoop.turned met).callbackRun = true) : table.hasCallback met.1.id = true := by
  cases reaches : configureLoop.reaches met.1 with
  | false => simp [turned_of_refused reaches] at ran
  | true =>
      rw [turned_of_reaches reaches] at ran
      simp only [configureLoop, configureBody] at ran
      split at ran
      · cases ran
      · split at ran
        · cases ran
        · split at ran
          · cases ran
          · split at ran
            · cases ran
            · exact ran

theorem configureLoop_callbackRun {met : Turn table α × Wrappers table α}
    (completed : configureLoop.completes met = true) :
    (configureLoop.turned met).callbackRun = (table.hasCallback met.1.id &&
      !compareAnys (table.basic met.1.id) (met.1.before (met.2 met.1.id))
        ((configureLoop.turned met).wrappers met.1.id).toPointer) := by
  obtain ⟨reaches, returned⟩ := completes_iff.mp completed
  obtain ⟨-, leaves, ran⟩ := configureBody_returned returned
  rw [completed_wrapper reaches, turned_of_reaches reaches]
  rw [← leaves] at ran
  exact ran

theorem callbackFollows (met : Turn table α × Wrappers table α) : CallbackFollows met where
  registered := configureLoop_registered
  runs completed registered differs := by
    rw [configureLoop_callbackRun completed, registered, Bool.true_and, Bool.not_eq_true', Bool.eq_false_iff]
    intro same
    exact Bool.false_ne_true (differs.symm.trans (equals_of_compareAnys same))
  changed completed basic beforeHeld afterHeld ran := by
    rw [configureLoop_callbackRun completed, basic, Bool.and_eq_true, Bool.not_eq_true'] at ran
    rw [Bool.eq_false_iff]
    intro same
    exact Bool.false_ne_true (ran.2.symm.trans (compareAnys_of_equals beforeHeld afterHeld same))

/-- `configure` and the first `initializeProperties` say of their entries what has become of them, and
the callbacks of `configure` follow the changes; `initializeProperties` runs none, and is refused from
the second call on. -/
theorem entries_reported (wrappers : Wrappers table α) (turns : List (Turn table α)) :
    (configureLoop.Reports wrappers turns (configureProperties wrappers turns) ∧
      ∀ met ∈ configureLoop.met turns wrappers, configureLoop.Settles met ∧ CallbackFollows met) ∧
    (initializeLoop.Reports wrappers turns (initializeProperties false wrappers turns) ∧
      (initializeProperties false wrappers turns).callbacksRun = [] ∧
        ∀ met ∈ initializeLoop.met turns wrappers, initializeLoop.Settles met) ∧
    initializeProperties true wrappers turns = ⟨wrappers, [], .alreadyInitialized⟩ := by
  refine ⟨⟨reports turns wrappers, fun met _ =>
    ⟨configureLoop_regular.settles met, callbackFollows met⟩⟩,
    ⟨initializeProperties_reports wrappers turns, ?_, fun met _ => initializeLoop_regular.settles met⟩,
    rfl⟩
  rw [(initializeProperties_reports wrappers turns).callbacks, List.map_eq_nil_iff, List.filter_eq_nil_iff]
  intro met _
  simp [initializeLoop_silent]

end Answers

end Reports

def gainTable : ConfigurableTable Unit where
  propTable := [()]
  kind _ := .simple
  isConfigurable _ := true
  isProperty _ := true
  isEvent _ := false
  basic _ := true
  hasCallback _ := true
  propertyChangePort := false
  basic_simple _ _ := rfl

def gainWrappers : Wrappers gainTable Nat := fun _ =>
  { value := (3 : Nat)
    enableNil := false
    isNil := false
    configured := false
    pointerListeners := []
    valueListeners := []
    voidListeners := []
    byValue_held := fun _ => rfl
    sequence_held := fun _ => rfl }

def gainTurn : Turn gainTable Nat where
  id := ()
  value := (.converts (5 : Nat) : PropertyAny Nat .simple)
  handlers :=
    { query := none
      configure := fun newValue => ⟨newValue, false, false⟩
      configureRaises := .standard
      listenerRaises := fun _ => none
      callbackRaises := none
      sendEventRaises := none }

/-- The constructor value changes the property, and its callback is not run. -/
theorem initialized_without_callback :
    let result := initializeProperties false gainWrappers [gainTurn]
    ¬((() ∈ result.callbacksRun) ↔ (result.wrappers ()).toPointer ≠ (gainWrappers ()).toPointer) := by
  decide

end Redhawk.Properties
