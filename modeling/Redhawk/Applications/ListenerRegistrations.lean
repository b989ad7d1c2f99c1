import Mathlib.Data.List.TakeWhile
import Redhawk.Applications.PropertyListeners
import Redhawk.Library.Lists

/-!
What a registration of property listeners leaves with the components, and what unregistering its
identifier takes away again, whatever has happened in between.
-/

namespace Redhawk.Applications

open Redhawk.Library PropertyChangeRecord List

def registrationsOf (call : Call) : CompRegs → Nat → List Registration
  | [], _ => []
  | (comp, propIds) :: rest, next =>
    ⟨next, comp, call.listener, propIds, call.interval⟩ :: registrationsOf call rest (next + 1)

def recordOf (held : Registration) : PropertyChangeRecord :=
  ⟨held.regId, held.component⟩

def completed (call : Call) (regs : CompRegs) : CompRegs :=
  regs.takeWhile fun entry => call.answers.completes entry.1

def remaining (call : Call) (regs : CompRegs) : CompRegs :=
  regs.dropWhile fun entry => call.answers.completes entry.1

section Registering

variable {call : Call} {system : System}

theorem registrationsOf_append (first second : CompRegs) (next : Nat) :
    registrationsOf call (first ++ second) next =
      registrationsOf call first next ++ registrationsOf call second (next + first.length) := by
  induction first generalizing next with
  | nil => rfl
  | cons entry rest ih =>
      rw [cons_append, registrationsOf, ih, registrationsOf, length_cons,
        Nat.add_right_comm, ← Nat.add_assoc, cons_append]

theorem registrationsOf_length (regs : CompRegs) (next : Nat) :
    (registrationsOf call regs next).length = regs.length := by
  induction regs generalizing next with
  | nil => rfl
  | cons entry rest ih => rw [registrationsOf, length_cons, ih, length_cons]

theorem registrationsOf_regId {regs : CompRegs} {next : Nat} {held : Registration}
    (member : held ∈ registrationsOf call regs next) :
    next ≤ held.regId ∧ held.regId < next + regs.length := by
  induction regs generalizing next with
  | nil => exact absurd member not_mem_nil
  | cons entry rest ih =>
      rw [registrationsOf, mem_cons] at member
      rw [length_cons]
      rcases member with rfl | later
      · exact ⟨Nat.le_refl _, by simp only; omega⟩
      · have bounds := ih later
        exact ⟨by omega, by omega⟩

theorem registerEach_eq (regs : CompRegs) (pcRecs : List PropertyChangeRecord) (system : System) :
    registerEach call regs pcRecs system =
      let made := registrationsOf call (completed call regs) system.nextId
      let noted : System :=
        { system with
          registrations := system.registrations ++ made
          nextId := system.nextId + made.length }
      match remaining call regs with
      | [] => (true, pcRecs ++ made.map recordOf, noted)
      | (comp, propIds) :: _ =>
        (false, pcRecs ++ made.map recordOf,
          if call.answers.accepts comp then noted.register call comp propIds else noted) := by
  induction regs generalizing pcRecs system with
  | nil => simp [registerEach, completed, remaining, registrationsOf]
  | cons entry rest ih =>
      obtain ⟨comp, propIds⟩ := entry
      rw [registerEach]
      by_cases accepted : call.answers.accepts comp = true
      · rw [if_pos accepted]
        by_cases untraced : (call.answers.tracing && !call.answers.identifies comp) = true
        · have stops : call.answers.completes comp = false := by
            rw [Answers.completes, accepted, untraced]
            rfl
          rw [if_pos untraced]
          simp [completed, remaining, stops, registrationsOf, accepted]
        · have goes : call.answers.completes comp = true := by
            rw [Answers.completes, accepted, Bool.true_and, Bool.not_eq_true']
            exact Bool.eq_false_iff.mpr untraced
          rw [if_neg untraced, ih]
          simp [completed, remaining, goes, registrationsOf, length_cons, System.register, map_cons, recordOf, append_assoc, Nat.add_assoc, Nat.add_comm 1]
      · have stops : call.answers.completes comp = false := by
          rw [Answers.completes, Bool.eq_false_iff.mpr accepted]
          rfl
        simp [completed, remaining, stops, registrationsOf, accepted]

end Registering

def Answers.takesBack (answers : Answers) (comp : ResourceRef) : Bool :=
  !answers.isNil comp && answers.unregisters comp

section Unregistering

variable {answers : Answers}

theorem unregister_registrations (system : System) (record : PropertyChangeRecord) :
    system.unregister answers record =
      { system with
        registrations := system.registrations.filter fun held =>
          !(answers.unregisters record.comp && recordOf held == record) } := by
  obtain ⟨regId, comp⟩ := record
  rw [System.unregister]
  cases answers.unregisters comp with
  | false => simp
  | true =>
      simp only [if_true, Bool.true_and]
      congr 1
      refine filter_congr fun held _ => ?_
      rw [Bool.eq_iff_iff]
      by_cases same : held.regId = regId <;> simp [recordOf, same]

theorem unregisterEach_eq (pcRecs : List PropertyChangeRecord) (system : System) :
    pcRecs.foldl (fun now record =>
        if answers.isNil record.comp then now else now.unregister answers record) system =
      { system with
        registrations := system.registrations.filter fun held =>
          !(answers.takesBack held.component && pcRecs.contains (recordOf held)) } := by
  induction pcRecs generalizing system with
  | nil => simp
  | cons record rest ih =>
      rw [foldl_cons, ih]
      by_cases nil : answers.isNil record.comp = true
      · rw [if_pos nil]
        congr 1
        refine filter_congr fun held _ => ?_
        by_cases same : recordOf held = record
        · have same : held.component = record.comp := congrArg comp same
          simp [Answers.takesBack, same, nil]
        · simp [same]
      · rw [if_neg nil, unregister_registrations]
        simp only [filter_filter]
        congr 1
        refine filter_congr fun held _ => ?_
        by_cases same : recordOf held = record
        · have comp : held.component = record.comp := congrArg comp same
          cases takes : answers.unregisters record.comp <;>
            simp [Answers.takesBack, comp, nil, same, takes]
        · simp [same]

end Unregistering

section Steps

/-- A property of what the components hold that new registrations, and those given up, leave true. -/
structure Closed (P : List Registration → Nat → Prop) : Prop where
  register : ∀ {registrations next} comp listener propIds interval, P registrations next →
    P (registrations ++ [⟨next, comp, listener, propIds, interval⟩]) (next + 1)
  filter : ∀ {registrations next} keep, P registrations next → P (registrations.filter keep) next
  next : ∀ {registrations next}, P registrations next → P registrations (next + 1)

variable {P : List Registration → Nat → Prop} {system : System}

theorem Closed.unregister (closed : Closed P) (answers : Answers) (record : PropertyChangeRecord)
    (before : P system.registrations system.nextId) :
    P (system.unregister answers record).registrations (system.unregister answers record).nextId := by
  rw [unregister_registrations]
  exact closed.filter _ before

theorem Closed.registerEach (closed : Closed P) (call : Call) (regs : CompRegs)
    (pcRecs : List PropertyChangeRecord) (before : P system.registrations system.nextId) :
    P (registerEach call regs pcRecs system).2.2.registrations
      (registerEach call regs pcRecs system).2.2.nextId := by
  induction regs generalizing pcRecs system with
  | nil => exact before
  | cons entry rest ih =>
      rw [Applications.registerEach]
      have registered := closed.register entry.1 call.listener entry.2 call.interval before
      split
      · split
        · exact registered
        · exact ih _ registered
      · exact before

theorem Closed.step (closed : Closed P) (event : Event) (before : P system.registrations system.nextId) :
    P (step event system).registrations (step event system).nextId := by
  cases event with
  | register call =>
      rw [Applications.step, System.registerPropertyListener]
      split
      · exact before
      split
      · exact before
      rename_i regs grouped
      have after := closed.registerEach call regs [] before
      split <;> rename_i ended <;> rw [ended] at after
      · exact after
      · exact closed.unregister _ _ after
      · exact closed.next after
  | unregister answers regId =>
      rw [Applications.step, System.unregisterPropertyListener]
      split
      · exact before
      split
      · exact before
      · simp only [unregisterEach_eq]
        exact closed.filter _ before
  | releaseObject => exact before
  | configure properties assemblyController => exact before
  | registerDirectly call comp => exact closed.register comp _ _ _ before
  | drop given => exact closed.filter _ before

end Steps

/-- Either the call succeeds or it raises and the components hold what they held before. -/
def AllOrNothing (system : System) (result : Outcome × System) : Prop :=
  (∃ regId, result.1 = .registered regId) ∨ result.1 = .skipped ∨
    result.1 = .raised ∧ result.2.registrations = system.registrations

/-- Every component completes, or the second one refuses the listener and the first gives it up. -/
def Undoable (system : System) (call : Call) : Prop :=
  ∀ regs, system.application.releaseAlreadyCalled = false →
    compRegs system.application call.answers 0 call.propIds [] = some regs →
    completed call regs = regs ∨
      ∃ first failed rest, regs = first :: failed :: rest ∧
        call.answers.completes first.1 = true ∧ call.answers.accepts failed.1 = false ∧
        call.answers.unregisters first.1 = true

def System.Valid (system : System) : Prop :=
  ∀ held ∈ system.registrations, held.regId < system.nextId

section Undoing

variable {call : Call} {system : System}

theorem valid_closed : Closed fun registrations next => ∀ held ∈ registrations, held.regId < next where
  register comp listener propIds interval older held member := by
    rcases mem_append.mp member with earlier | new
    · exact Nat.lt_succ_of_lt (older held earlier)
    · obtain rfl := mem_singleton.mp new
      exact Nat.lt_succ_self _
  filter keep older held member := older held (mem_of_mem_filter member)
  next older held member := Nat.lt_succ_of_lt (older held member)

theorem valid_run (properties : List (String × ExternalProperty))
    (assemblyController : Option ResourceRef) (events : List Event) :
    (run step (System.start properties assemblyController) events).Valid :=
  invariant_run System.Valid (fun event _ valid _ => valid_closed.step event valid) nofun
    (along_true _ _ _)

theorem undo_first (valid : system.Valid) (answers : Answers) (first : Registration)
    (more : List Registration) (new : system.nextId ≤ first.regId)
    (newer : ∀ held ∈ more, first.regId < held.regId) :
    (system.registrations ++ first :: more).filter (fun held =>
        !(answers.unregisters first.component && recordOf held == recordOf first)) =
      system.registrations ↔ more = [] ∧ answers.unregisters first.component = true := by
  have kept : system.registrations.filter (fun held =>
      !(answers.unregisters first.component && recordOf held == recordOf first)) =
      system.registrations := by
    refine filter_eq_self.mpr fun held member => ?_
    have older := valid held member
    have differs : recordOf held ≠ recordOf first := by
      intro same
      have ids : held.regId = first.regId := congrArg regId same
      omega
    simp [differs]
  have others : more.filter (fun held =>
      !(answers.unregisters first.component && recordOf held == recordOf first)) = more := by
    refine filter_eq_self.mpr fun held member => ?_
    have later := newer held member
    have differs : recordOf held ≠ recordOf first := by
      intro same
      have ids : held.regId = first.regId := congrArg regId same
      omega
    simp [differs]
  rw [filter_append, kept, append_right_eq_self, filter_cons, others]
  cases answers.unregisters first.component <;> simp

theorem registerPropertyListener_eq (free : system.application.releaseAlreadyCalled = false) {regs : CompRegs}
    (grouped : compRegs system.application call.answers 0 call.propIds [] = some regs) :
    system.registerPropertyListener call =
      match registerEach call regs [] system with
      | (false, [], after) => (.readsPastEnd, after)
      | (false, first :: _, after) => (.raised, after.unregister call.answers first)
      | (true, pcRecs, after) =>
        (.registered after.nextId,
          { after with
            application.propertyChangeRegistrations :=
              (after.nextId, pcRecs) :: after.application.propertyChangeRegistrations
            nextId := after.nextId + 1 }) := by
  rw [System.registerPropertyListener, free, grouped]
  rfl

theorem completed_append (regs : CompRegs) : completed call regs ++ remaining call regs = regs :=
  takeWhile_append_dropWhile

theorem completed_completes {regs : CompRegs} {entry : ResourceRef × List String}
    (member : entry ∈ completed call regs) : call.answers.completes entry.1 = true :=
  mem_takeWhile_imp (p := fun entry : ResourceRef × List String => call.answers.completes entry.1)
    member

theorem remaining_fails {regs rest : CompRegs} {entry : ResourceRef × List String}
    (stopped : remaining call regs = entry :: rest) : call.answers.completes entry.1 = false := by
  have head := head?_dropWhile_not (fun entry => call.answers.completes entry.1) regs
  rw [← remaining, stopped] at head
  exact head

theorem registerPropertyListener_undo (free : system.application.releaseAlreadyCalled = false)
    {regs more rest : CompRegs} {first failed : ResourceRef × List String}
    (grouped : compRegs system.application call.answers 0 call.propIds [] = some regs)
    (before : completed call regs = first :: more) (left : remaining call regs = failed :: rest) :
    let firstHeld : Registration :=
      ⟨system.nextId, first.1, call.listener, first.2, call.interval⟩
    let others := more ++ if call.answers.accepts failed.1 then [failed] else []
    (system.registerPropertyListener call).1 = .raised ∧
      (system.registerPropertyListener call).2.registrations =
        (system.registrations ++ firstHeld :: registrationsOf call others (system.nextId + 1)).filter
          fun held => !(call.answers.unregisters firstHeld.component && recordOf held == recordOf firstHeld) := by
  obtain ⟨comp, propIds⟩ := failed
  rw [registerPropertyListener_eq free grouped, registerEach_eq, left, before]
  refine ⟨rfl, ?_⟩
  rw [registrationsOf_append]
  cases accepted : call.answers.accepts comp with
  | true =>
      simp only [registrationsOf, map_cons, nil_append, accepted, if_true, unregister_registrations,
        System.register, append_assoc, cons_append, length_cons,
        registrationsOf_length, Nat.add_assoc, Nat.add_comm 1]
      rfl
  | false =>
      simp only [registrationsOf, map_cons, nil_append, accepted, Bool.false_eq_true, if_false,
        unregister_registrations, append_nil]
      rfl

theorem allOrNothing_iff (valid : system.Valid) :
    AllOrNothing system (system.registerPropertyListener call) ↔ Undoable system call := by
  rw [Undoable]
  cases free : system.application.releaseAlreadyCalled with
  | true =>
      rw [System.registerPropertyListener, free]
      exact iff_of_true (.inr (.inl rfl)) fun _ => nofun
  | false =>
  cases grouped : compRegs system.application call.answers 0 call.propIds [] with
  | none =>
      rw [System.registerPropertyListener, free, grouped]
      exact iff_of_true (.inr (.inr ⟨rfl, rfl⟩)) fun _ _ => nofun
  | some regs =>
      simp only [true_implies, Option.some.injEq, forall_eq']
      have whole := @completed_append call regs
      cases left : remaining call regs with
      | nil =>
          rw [registerPropertyListener_eq free grouped, registerEach_eq, left]
          rw [left, append_nil] at whole
          exact iff_of_true (.inl ⟨_, rfl⟩) (.inl whole)
      | cons failed rest =>
          have fails := remaining_fails left
          have short : completed call regs ≠ regs := by
            intro all
            rw [all, left] at whole
            exact cons_ne_nil _ _ (append_right_eq_self.mp whole)
          rw [left] at whole
          cases before : completed call regs with
          | nil =>
              rw [registerPropertyListener_eq free grouped, registerEach_eq, left, before]
              rw [before] at whole short
              refine iff_of_false ?_ ?_
              · rintro (⟨regId, result⟩ | result | ⟨result, -⟩) <;> exact nomatch result
              · rintro (all | ⟨first, second, others, split, completes, -⟩)
                · exact short all
                · rw [← whole, nil_append, cons.injEq] at split
                  rw [← split.1, fails] at completes
                  exact nomatch completes
          | cons first more =>
              obtain ⟨raised, registrations⟩ := registerPropertyListener_undo free grouped before left
              have completes := completed_completes (before ▸ mem_cons_self : first ∈ completed _ _)
              have undone := undo_first valid call.answers
                ⟨system.nextId, first.1, call.listener, first.2, call.interval⟩
                (registrationsOf call (more ++ if call.answers.accepts failed.1 then [failed] else [])
                  (system.nextId + 1))
                (Nat.le_refl _) fun held member => (registrationsOf_regId member).1
              rw [← registrations] at undone
              have outcome : AllOrNothing system (system.registerPropertyListener call) ↔
                  (system.registerPropertyListener call).2.registrations = system.registrations := by
                rw [AllOrNothing, raised]
                simp
              rw [before] at short whole
              rw [cons_append] at whole
              rw [outcome, undone, or_iff_right short, ← length_eq_zero_iff, registrationsOf_length,
                length_eq_zero_iff, append_eq_nil_iff]
              constructor
              · rintro ⟨⟨rfl, refused⟩, takes⟩
                refine ⟨first, failed, rest, whole.symm, completes, ?_, takes⟩
                by_contra accepted
                rw [if_pos (Bool.not_eq_false _ ▸ accepted)] at refused
                exact cons_ne_nil _ _ refused
              · rintro ⟨one, two, others, split, -, refused, takes⟩
                rw [← whole, cons.injEq] at split
                obtain ⟨rfl, split⟩ := split
                cases more with
                | nil =>
                    rw [nil_append, cons.injEq] at split
                    rw [split.1, refused]
                    exact ⟨⟨rfl, rfl⟩, takes⟩
                | cons other more =>
                    rw [cons_append, cons.injEq] at split
                    have goes := @completed_completes call regs other (by simp [before])
                    rw [split.1, Answers.completes, refused] at goes
                    exact nomatch goes

end Undoing

def Event.Unregisters (event : Event) (regId : Nat) : Prop :=
  ∃ answers, event = .unregister answers regId

/-- What was registered under an identifier is what its records name. -/
structure Kept (regId : Nat) (made : List Registration) (system : System) : Prop where
  found : system.application.propertyChangeRegistrations.lookup regId = some (made.map recordOf)
  older : regId < system.nextId ∧ ∀ held ∈ made, held.regId < system.nextId
  same : ∀ held ∈ system.registrations, recordOf held ∈ made.map recordOf → held ∈ made

def CancelsExactly (made : List Registration) (now after : System) : Prop :=
  after.registrations = now.registrations.filter fun held => !made.contains held

section Keeping

variable {regId : Nat} {made : List Registration} {system : System}

theorem kept_closed :
    Closed fun registrations next => (regId < next ∧ ∀ held ∈ made, held.regId < next) ∧
      ∀ held ∈ registrations, recordOf held ∈ made.map recordOf → held ∈ made where
  register comp listener propIds interval := by
    rintro ⟨⟨known, older⟩, same⟩
    refine ⟨⟨Nat.lt_succ_of_lt known, fun held member => Nat.lt_succ_of_lt (older held member)⟩, ?_⟩
    intro held member named
    rcases mem_append.mp member with earlier | new
    · exact same held earlier named
    · obtain rfl := mem_singleton.mp new
      obtain ⟨other, listed, equal⟩ := mem_map.mp named
      have ids : other.regId = _ := congrArg PropertyChangeRecord.regId equal
      exact absurd (older other listed) (by simp only [ids, recordOf]; omega)
  filter keep before :=
    ⟨before.1, fun held member named => before.2 held (mem_of_mem_filter member) named⟩
  next before :=
    ⟨⟨Nat.lt_succ_of_lt before.1.1, fun held member => Nat.lt_succ_of_lt (before.1.2 held member)⟩, before.2⟩

theorem registerEach_application (call : Call) (regs : CompRegs) (pcRecs : List PropertyChangeRecord)
    (system : System) :
    (registerEach call regs pcRecs system).2.2.application = system.application := by
  rw [registerEach_eq]
  cases remaining call regs with
  | nil => rfl
  | cons failed rest =>
      simp only
      split <;> rfl

theorem Kept.step (event : Event) (other : ¬event.Unregisters regId) (kept : Kept regId made system) :
    Kept regId made (step event system) := by
  obtain ⟨older, same⟩ := kept_closed.step event ⟨kept.older, kept.same⟩
  refine ⟨?_, older, same⟩
  have found := kept.found
  cases event with
  | register call =>
      rw [Applications.step, System.registerPropertyListener]
      split
      · exact found
      split
      · exact found
      rename_i regs grouped
      have application := registerEach_application call regs [] system
      have known := (kept_closed.registerEach call regs [] ⟨kept.older, kept.same⟩).1.1
      split <;> rename_i ended <;> rw [ended] at application known
      · rw [application]
        exact found
      · rw [unregister_registrations, application]
        exact found
      · rw [← application] at found
        rw [lookup_cons, beq_false_of_ne (Nat.ne_of_lt known)]
        exact found
  | unregister answers unregistered =>
      have different : regId ≠ unregistered := by
        rintro rfl
        exact other ⟨answers, rfl⟩
      rw [Applications.step, System.unregisterPropertyListener]
      split
      · exact found
      split
      · exact found
      · simp only [unregisterEach_eq]
        rw [lookup_filter_ne different]
        exact found
  | releaseObject => exact found
  | configure properties assemblyController => exact found
  | registerDirectly call comp => exact found
  | drop given => exact found

theorem Kept.run (kept : Kept regId made system) (later : List Event)
    (others : ∀ event ∈ later, ¬event.Unregisters regId) :
    Kept regId made (run Applications.step system later) := by
  induction later generalizing system with
  | nil => exact kept
  | cons event rest ih =>
      obtain ⟨other, others⟩ := forall_mem_cons.mp others
      exact ih (kept.step event other) others

theorem Kept.cancels_iff (kept : Kept regId made system) (answers : Answers) :
    CancelsExactly made system (system.unregisterPropertyListener answers regId).2 ↔
      ∀ held ∈ system.registrations, held ∈ made →
        system.application.releaseAlreadyCalled = false ∧ answers.takesBack held.component = true := by
  have after : (system.unregisterPropertyListener answers regId).2.registrations =
      system.registrations.filter fun held =>
        !(!system.application.releaseAlreadyCalled && answers.takesBack held.component &&
          made.contains held) := by
    rw [System.unregisterPropertyListener]
    cases system.application.releaseAlreadyCalled with
    | true => simp
    | false =>
        rw [kept.found]
        simp only [unregisterEach_eq]
        refine filter_congr fun held member => ?_
        have named : (made.map recordOf).contains (recordOf held) = made.contains held := by
          rw [Bool.eq_iff_iff, contains_iff_mem, contains_iff_mem]
          exact ⟨kept.same held member, mem_map_of_mem⟩
        rw [named]
        rfl
  rw [CancelsExactly, after]
  constructor
  · intro equal held member inside
    have gone : held ∉ system.registrations.filter fun held => !made.contains held := by
      simp [inside]
    rw [← equal, mem_filter, not_and] at gone
    have taken := gone member
    simpa [inside, and_assoc] using taken
  · intro taken
    refine filter_congr fun held member => ?_
    by_cases inside : held ∈ made
    · obtain ⟨free, takes⟩ := taken held member inside
      simp [inside, free, takes]
    · simp [inside]

end Keeping

theorem registered_kept {system : System} {call : Call} {regId : Nat} (valid : system.Valid)
    (registered : (system.registerPropertyListener call).1 = .registered regId) :
    ∃ regs, compRegs system.application call.answers 0 call.propIds [] = some regs ∧
      (system.registerPropertyListener call).2.registrations =
        system.registrations ++ registrationsOf call regs system.nextId ∧
      Kept regId (registrationsOf call regs system.nextId) (system.registerPropertyListener call).2 := by
  cases free : system.application.releaseAlreadyCalled with
  | true =>
      rw [System.registerPropertyListener, free] at registered
      exact nomatch registered
  | false =>
  cases grouped : compRegs system.application call.answers 0 call.propIds [] with
  | none =>
      rw [System.registerPropertyListener, free, grouped] at registered
      exact nomatch registered
  | some regs =>
      have whole := @completed_append call regs
      rw [registerPropertyListener_eq free grouped, registerEach_eq] at registered ⊢
      cases left : remaining call regs with
      | cons failed rest =>
          rw [left] at registered
          cases before : completed call regs <;> rw [before] at registered <;> exact nomatch registered
      | nil =>
          rw [left] at registered whole
          rw [append_nil] at whole
          rw [whole] at registered ⊢
          obtain rfl := Outcome.registered.inj registered
          refine ⟨regs, rfl, rfl, ?_, ⟨Nat.lt_succ_self _, fun held member => ?_⟩, ?_⟩
          · exact lookup_cons_self
          · have bounds := registrationsOf_regId member
            simp only [registrationsOf_length]
            omega
          · intro held member named
            rcases mem_append.mp member with earlier | made
            · obtain ⟨other, listed, equal⟩ := mem_map.mp named
              have ids : other.regId = held.regId := congrArg regId equal
              have older := valid held earlier
              have newer := (registrationsOf_regId listed).1
              omega
            · exact made

/-- A registration is all or nothing where every component completes or exactly the second refuses;
whatever happens after a successful one, unregistering its identifier cancels exactly what it made as
long as the application is not released and the components give it up. -/
theorem listener_registration_iff (properties : List (String × ExternalProperty))
    (assemblyController : Option ResourceRef) (history : List Event) (call : Call) :
    let system := run step (System.start properties assemblyController) history
    let result := system.registerPropertyListener call
    (AllOrNothing system result ↔ Undoable system call) ∧
    ∀ regId, result.1 = .registered regId →
      ∃ regs, compRegs system.application call.answers 0 call.propIds [] = some regs ∧
        let made := registrationsOf call regs system.nextId
        result.2.registrations = system.registrations ++ made ∧
        ∀ later answers, (∀ event ∈ later, ¬event.Unregisters regId) →
          let now := run step result.2 later
          (CancelsExactly made now (now.unregisterPropertyListener answers regId).2 ↔
            ∀ held ∈ now.registrations, held ∈ made →
              now.application.releaseAlreadyCalled = false ∧ answers.takesBack held.component = true) := by
  intro system result
  have valid : system.Valid := valid_run properties assemblyController history
  refine ⟨allOrNothing_iff valid, fun regId registered => ?_⟩
  obtain ⟨regs, grouped, whole, kept⟩ := registered_kept valid registered
  exact ⟨regs, grouped, whole, fun later answers others => (kept.run later others).cancels_iff answers⟩

def promoted : List (String × ExternalProperty) :=
  [("rate", ⟨"rate", 1⟩), ("gain", ⟨"gain", 2⟩)]

def listening (propIds : List String) (refused : List ResourceRef) : Call where
  listener := 7
  propIds := propIds
  interval := 1
  answers :=
    { isNil := fun _ => false
      registers := fun comp => !refused.contains comp
      unregisters := fun _ => true
      tracing := false
      describes := fun _ => true
      identifies := fun _ => true }

theorem listener_registration_rate :
    CancelsExactly [⟨0, 1, 7, ["rate"], 1⟩]
      ((System.start promoted none).registerPropertyListener (listening ["rate"] [])).2
      (((System.start promoted none).registerPropertyListener
        (listening ["rate"] [])).2.unregisterPropertyListener (listening [] []).answers 1).2 := by
  obtain ⟨regs, grouped, -, cancels⟩ :=
    (listener_registration_iff promoted none [] (listening ["rate"] [])).2 1 (by decide +kernel)
  obtain rfl := Option.some.inj grouped
  exact (cancels [] (listening [] []).answers nofun).mpr fun _ _ _ => ⟨rfl, rfl⟩

/-- The third component refuses: the second one's registration stays. Where the first one refuses, a
record is read that was never made. -/
theorem refused_registration_stays :
    ¬AllOrNothing (System.start promoted (some 3))
        ((System.start promoted (some 3)).registerPropertyListener (listening ["rate", "gain", "freq"] [3])) ∧
      ¬AllOrNothing (System.start promoted none)
        ((System.start promoted none).registerPropertyListener (listening ["rate"] [1])) := by
  constructor
  · rintro (⟨regId, registered⟩ | skipped | ⟨-, same⟩)
    · exact nomatch registered
    · exact nomatch skipped
    · revert same
      decide +kernel
  · rintro (⟨regId, registered⟩ | skipped | ⟨raised, -⟩)
    · exact nomatch registered
    · exact nomatch skipped
    · exact nomatch raised

end Redhawk.Applications
