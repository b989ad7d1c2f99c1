import Redhawk.Properties.ListenerRuns

/-!
Which changes of a property reach a listener. A registration reports a change exactly when its
callback was set before the pass, or when it is the first of the registry and the monitor of
the property sees the change; and it reports nothing that did not change.
-/

namespace Redhawk.Properties

open Library List Option

variable {PropId α : Type} {table : PropertyTable PropId} [DecidableEq PropId] [DecidableEq α]

instance (sent : Notification table α) (id : PropId) : Decidable (sent.Contains id) :=
  inferInstanceAs (Decidable (id ∈ sent.props.map Sigma.fst))

def Event.isPass : Event table α → Bool
  | .pass _ _ => true
  | _ => false

namespace PropertySet

/-- The next report of a registration has the property: it is in what the first pass sends that
finds the interval of the registration expired. -/
def reportsNext (regId : Nat) (id : PropId) :
    PropertySet table α → List (Event table α) → Bool
  | _, [] => true
  | self, event :: rest =>
    match lookup regId self.propChangeRegistry with
    | none => true
    | some record =>
      match event with
      | .pass now clock =>
        if record.expired now then
          (self.propertyChangeServiceFunction now clock).2.any fun sent =>
            sent.regId == regId && decide (sent.Contains id)
        else
          reportsNext regId id (step (.pass now clock) self) rest
      | event => reportsNext regId id (step event self) rest

variable {self : PropertySet table α} {regId : Nat}

theorem reportsNext_pass (keyed : self.Keyed) {record : PropertyChangeRec PropId}
    (found : lookup regId self.propChangeRegistry = some record) {now : Int}
    (expired : record.expired now = true) (clock : Nat → Int) (id : PropId)
    (rest : List (Event table α)) :
    reportsNext regId id self (.pass now clock :: rest) = true ↔
      record.changed id ∨ (self.propChangeRegistry.head? = some record ∧ record.covers id ∧
        sees self.propMonitors self.value id = true) := by
  rw [← pass_reports keyed found expired clock id]
  simp [reportsNext, found, expired]

variable {id : PropId}

theorem reportsNext_of_flagged (events : List (Event table α)) :
    ∀ self : PropertySet table α, self.Keyed → Flagged regId id self →
      reportsNext regId id self events = true := by
  induction events with
  | nil =>
      intro self _ _
      rfl
  | cons event rest ih =>
      intro self keyed flagged
      cases found : lookup regId self.propChangeRegistry with
      | none => simp only [reportsNext, found]
      | some record =>
          have later : (∀ now clock, event = .pass now clock → record.expired now = false) →
              reportsNext regId id (step event self) rest = true := fun pending =>
            ih _ (keyed_step event self keyed) (flagged_step event found flagged pending)
          cases event with
          | pass now clock =>
              by_cases expired : record.expired now = true
              · rw [reportsNext_pass keyed found expired]
                exact Or.inl (flagged record found)
              · rw [Bool.not_eq_true] at expired
                simp only [reportsNext, found, expired, Bool.false_eq_true, if_false]
                apply later
                rintro _ _ ⟨⟩
                exact expired
          | configure settings =>
              simp only [reportsNext, found]
              exact later (by rintro _ _ ⟨⟩)
          | assign key newValue =>
              simp only [reportsNext, found]
              exact later (by rintro _ _ ⟨⟩)
          | register listener propIds interval newId clock =>
              simp only [reportsNext, found]
              exact later (by rintro _ _ ⟨⟩)
          | unregister removed =>
              simp only [reportsNext, found]
              exact later (by rintro _ _ ⟨⟩)

theorem reportsNext_iff (keyed : self.Keyed) {record : PropertyChangeRec PropId}
    (found : lookup regId self.propChangeRegistry = some record) (now : Int)
    (clock : Nat → Int) (id : PropId) :
    (∀ later, reportsNext regId id self (.pass now clock :: later) = true) ↔
      record.changed id ∨ (self.propChangeRegistry.head? = some record ∧ record.covers id ∧
        sees self.propMonitors self.value id = true) := by
  by_cases expired : record.expired now = true
  · constructor
    · intro reports
      exact (reportsNext_pass keyed found expired clock id []).mp (reports [])
    · intro condition later
      exact (reportsNext_pass keyed found expired clock id later).mpr condition
  · obtain ⟨after, foundAfter, sameExpired, changed⟩ :=
      lookup_observed (sees self.propMonitors self.value) regId found
    have kept : (self.report now clock after).1 = after := by
      simp [report, sameExpired, expired]
    have foundNext : lookup regId (step (.pass now clock) self).propChangeRegistry = some after := by
      rw [step, lookup_pass, foundAfter, map_some, kept]
    have next : ∀ later, reportsNext regId id self (.pass now clock :: later) =
        reportsNext regId id (step (.pass now clock) self) later := by
      intro later
      simp [reportsNext, found, expired]
    have keyedNext := keyed_step (.pass now clock) self keyed
    simp only [next, ← changed id]
    constructor
    · intro reports
      -- a second pass at the very moment of expiration
      have atOnce : after.expired after.expiration = true := by
        simp [PropertyChangeRec.expired]
      have told := (reportsNext_pass keyedNext foundNext atOnce clock id []).mp (reports _)
      rcases told with flagged | ⟨_, _, saw⟩
      · exact flagged
      · have quiet := sees_after_pass self now clock (registered_of_lookup found) self.value id
        rw [differs_self] at quiet
        exact absurd (quiet.symm.trans saw) Bool.false_ne_true
    · intro flagged later
      apply reportsNext_of_flagged later _ keyedNext
      intro other foundOther
      rw [foundNext] at foundOther
      exact some.inj foundOther ▸ flagged

theorem step_monitors (event : Event table α) (self : PropertySet table α)
    (noPass : event.isPass = false) : (step event self).propMonitors = self.propMonitors := by
  cases event with
  | configure settings =>
      simp only [step, configure_state]
      apply invariant_run
        (fun state : PropertySet table α => state.propMonitors = self.propMonitors) _ rfl
        (along_true _ _ _)
      intro setting state same _
      exact (touches_configureProperty setting state).monitors.trans same
  | assign id newValue => rfl
  | register listener propIds interval newId clock =>
      rcases register_cases self listener propIds interval newId clock with
        same | ⟨added, inserted, _⟩
      · rw [step, same]
      · rw [step, inserted]
  | unregister removed =>
      simp only [step, unregisterPropertyListener]
      split <;> rfl
  | pass now clock => cases noPass

theorem run_monitors (events : List (Event table α)) :
    ∀ self : PropertySet table α, (∀ event ∈ events, event.isPass = false) →
      (run step self events).propMonitors = self.propMonitors := by
  induction events with
  | nil =>
      intro self _
      rfl
  | cons event rest ih =>
      intro self noPass
      rw [run_cons, ih _ fun other member => noPass other (mem_cons_of_mem _ member)]
      exact step_monitors event self (noPass event mem_cons_self)

theorem keyed_run (table : PropertyTable PropId)
    (value : (id : PropId) → (table.kind id).Variable α) (isNil : PropId → Bool)
    (events : List (Event table α)) : (run step (initial table value isNil) events).Keyed := by
  have start : (initial table value isNil).Keyed := nodup_nil
  apply invariant_run Keyed _ start (along_true _ _ _)
  intro event self keyed _
  exact keyed_step event self keyed

/-- The event leaves the property alone; a configure call does when each of its settings does. -/
def Quiet (id : PropId) (event : Event table α) (self : PropertySet table α) : Prop :=
  match event with
  | .configure settings =>
    Along (fun setting state => (configureProperty setting state).1)
      (fun setting state => (configureProperty setting state).1.held id = state.held id)
      self settings
  | event => (step event self).held id = self.held id

structure Unnoticed (regId : Nat) (id : PropId) (state : PropertySet table α) : Prop where
  unset : ∀ record, lookup regId state.propChangeRegistry = some record → ¬ record.changed id
  unseen : sees state.propMonitors state.value id = false

theorem unnoticed_touches {key : PropId} {before after : PropertySet table α}
    (unnoticed : Unnoticed regId id before) (touches : Touches key before after)
    (same : after.held id = before.held id) : Unnoticed regId id after := by
  have sameValue : after.value id = before.value id := congrArg Prod.fst same
  constructor
  · intro record found changed
    rcases touches.heard with kept | ⟨fired, different⟩
    · rw [kept] at found
      exact unnoticed.unset record found changed
    · rw [fired, lookup_voidListeners, map_eq_some_iff] at found
      obtain ⟨earlier, foundEarlier, rfl⟩ := found
      rcases (notified_changed key id earlier).mp changed with already | ⟨_, rfl⟩
      · exact unnoticed.unset earlier foundEarlier already
      · exact different same
  · have unseen := unnoticed.unseen
    unfold sees at unseen ⊢
    rw [touches.monitors, sameValue]
    exact unseen

theorem unnoticed_pass (unnoticed : Unnoticed regId id self) (now : Int) (clock : Nat → Int) :
    Unnoticed regId id (step (.pass now clock) self) := by
  constructor
  · intro record found
    rw [step, lookup_pass, map_eq_some_iff] at found
    obtain ⟨after, foundAfter, rfl⟩ := found
    have present : (lookup regId self.propChangeRegistry).isSome := by
      rw [lookup_isSome_iff, ← observed_regIds (sees self.propMonitors self.value),
        ← lookup_isSome_iff, foundAfter]
      rfl
    obtain ⟨before, found⟩ := isSome_iff_exists.mp present
    obtain ⟨other, foundOther, _, changed⟩ :=
      lookup_observed (sees self.propMonitors self.value) regId found
    rw [foundAfter] at foundOther
    rw [report_changed, some.inj foundOther, changed id, unnoticed.unseen]
    rintro ⟨_, already | ⟨_, _, saw⟩⟩
    · exact unnoticed.unset before found already
    · cases saw
  · by_cases registered : self.propChangeRegistry = []
    · have kept : (step (.pass now clock) self).propMonitors = self.propMonitors := by
        simp [step, propertyChangeServiceFunction, serviceLoop, registered]
      rw [kept]
      exact unnoticed.unseen
    · exact (sees_after_pass self now clock registered self.value id).trans (differs_self _ _)

theorem unnoticed_step (event : Event table α) (self : PropertySet table α) (unnoticed : Unnoticed regId id self)
    (quiet : Quiet id event self) : Unnoticed regId id (step event self) := by
  cases event with
  | configure settings =>
      simp only [step, configure_state]
      apply invariant_run (Unnoticed regId id) _ unnoticed quiet
      intro setting state stateUnnoticed same
      exact unnoticed_touches stateUnnoticed (touches_configureProperty setting state) same
  | assign key newValue =>
      have same : (self.setVariable key newValue).value id = self.value id :=
        congrArg Prod.fst quiet
      refine ⟨unnoticed.unset, ?_⟩
      have unseen := unnoticed.unseen
      unfold sees at unseen ⊢
      rw [step, same]
      exact unseen
  | register listener propIds interval newId clock =>
      rcases register_cases self listener propIds interval newId clock with
        same | ⟨added, inserted, unset⟩
      · rw [step, same]
        exact unnoticed
      · rw [step, inserted]
        refine ⟨?_, unnoticed.unseen⟩
        intro record found
        rw [lookup_insertRecord] at found
        cases before : lookup regId self.propChangeRegistry with
        | some earlier =>
            rw [before, some_or] at found
            exact some.inj found ▸ unnoticed.unset earlier before
        | none =>
            rw [before, none_or] at found
            split at found
            · exact some.inj found ▸ unset id
            · cases found
  | unregister removed =>
      simp only [step, unregisterPropertyListener]
      split
      · refine ⟨?_, unnoticed.unseen⟩
        intro record found
        rw [lookup_filter_ne] at found
        split at found
        · cases found
        · exact unnoticed.unset record found
      · exact unnoticed
  | pass now clock => exact unnoticed_pass unnoticed now clock

theorem unnoticed_of_sent (keyed : self.Keyed) {now : Int} {clock : Nat → Int} {sent : Notification table α}
    (member : sent ∈ (self.propertyChangeServiceFunction now clock).2)
    (keys : sent.regId = regId) (id : PropId) :
    Unnoticed regId id (step (.pass now clock) self) := by
  rw [pass_notifications] at member
  obtain ⟨sender, senderMember, sentBySender⟩ := mem_flatMap.mp member
  obtain ⟨expired, senderKey⟩ := report_sent self now clock sentBySender
  have foundSender := (keyed_observed keyed regId sender).mpr
    ⟨senderMember, senderKey.symm.trans keys⟩
  constructor
  · intro record found
    rw [step, lookup_pass, foundSender, map_some] at found
    rw [← some.inj found, report_changed, expired]
    rintro ⟨pending, _⟩
    cases pending
  · have registered : self.propChangeRegistry ≠ [] := by
      intro empty
      rw [empty] at senderMember
      cases senderMember
    exact (sees_after_pass self now clock registered self.value id).trans (differs_self _ _)

def Listens (regId : Nat) (id : PropId) (self : PropertySet table α) : Prop :=
  ∃ record, lookup regId self.propChangeRegistry = some record ∧ record.covers id

/-- Two passes of a run, `first` and `second` being the states that they meet: every
registration that covers a changed property at both reports it next. -/
def ReportsChanges (start : PropertySet table α) : Prop :=
  ∀ (before : List (Event table α)) (now : Int) (clock : Nat → Int)
    (between : List (Event table α)) (now' : Int) (clock' : Nat → Int) (regId : Nat)
    (id : PropId) (first second : PropertySet table α),
    first = run step start before →
    second = run step (step (.pass now clock) first) between →
    (∀ event ∈ between, event.isPass = false) →
    Listens regId id first → Listens regId id second →
    second.getValue id ≠ first.getValue id →
    ∀ later, reportsNext regId id second (.pass now' clock' :: later) = true

/-- Of two notifications of a registration the later one has nothing that every event between
them left alone. -/
def ReportsOnlyChanges (start : PropertySet table α) : Prop :=
  ∀ (before : List (Event table α)) (now : Int) (clock : Nat → Int)
    (between : List (Event table α)) (now' : Int) (clock' : Nat → Int) (regId : Nat)
    (id : PropId) (first second : PropertySet table α),
    first = run step start before →
    second = run step (step (.pass now clock) first) between →
    ∀ earlier ∈ (first.propertyChangeServiceFunction now clock).2, earlier.regId = regId →
    ∀ sent ∈ (second.propertyChangeServiceFunction now' clock').2, sent.regId = regId →
    Along step (Quiet id) (step (.pass now clock) first) between →
    ¬ sent.Contains id

/-- The change has reached the registration: its callback is set, or it is the first of the
registry and the comparison of the property's monitor sees the change. -/
def Heard (regId : Nat) (id : PropId) (first second : PropertySet table α) : Prop :=
  (∃ record, lookup regId second.propChangeRegistry = some record ∧ record.changed id) ∨
    ((∃ record, second.propChangeRegistry.head? = some record ∧ record.regId = regId) ∧
      differs (table.kind id) (first.value id) (second.value id) = true)

theorem reportsOnlyChanges (table : PropertyTable PropId)
    (value : (id : PropId) → (table.kind id).Variable α) (isNil : PropId → Bool) :
    ReportsOnlyChanges (initial table value isNil) := by
  intro before now clock between now' clock' regId id first second atFirst atSecond
    earlier earlierMember earlierKey sent sentMember sentKey quiet contains
  have keyedFirst : first.Keyed := atFirst ▸ keyed_run table value isNil before
  have keyedSecond : second.Keyed := by
    rw [atSecond, atFirst, ← run_cons, ← run_append]
    exact keyed_run table value isNil _
  have unnoticed : Unnoticed regId id second := by
    rw [atSecond]
    apply invariant_run (Unnoticed regId id) _
      (unnoticed_of_sent keyedFirst earlierMember earlierKey id) quiet
    intro event state stateUnnoticed stateQuiet
    exact unnoticed_step event state stateUnnoticed stateQuiet
  have sentNow := sentMember
  rw [pass_notifications] at sentNow
  obtain ⟨sender, senderMember, sentBySender⟩ := mem_flatMap.mp sentNow
  obtain ⟨expired, senderKey⟩ := report_sent second now' clock' sentBySender
  have foundSender := (keyed_observed keyedSecond regId sender).mpr
    ⟨senderMember, senderKey.symm.trans sentKey⟩
  have present : (lookup regId second.propChangeRegistry).isSome := by
    rw [lookup_isSome_iff, ← observed_regIds (sees second.propMonitors second.value),
      ← lookup_isSome_iff, foundSender]
    rfl
  obtain ⟨record, found⟩ := isSome_iff_exists.mp present
  obtain ⟨other, foundOther, sameExpired, _⟩ :=
    lookup_observed (sees second.propMonitors second.value) regId found
  rw [foundSender, some.injEq] at foundOther
  have recordExpired : record.expired now' = true := by
    rw [← sameExpired, ← foundOther]
    exact expired
  rcases (pass_reports keyedSecond found recordExpired clock' id).mp
    ⟨sent, sentMember, sentKey, contains⟩ with flagged | ⟨_, _, saw⟩
  · exact unnoticed.unset record found flagged
  · rw [unnoticed.unseen] at saw
    cases saw

def gainTable : PropertyTable String where
  propTable := ["gain"]
  kind _ := .simple
  isQueryable _ := true
  isConfigurable _ := true
  enableNil _ := false

def gainStart : PropertySet gainTable Int :=
  initial gainTable (fun _ => (0 : Int)) fun _ => false

def twoListeners : List (Event gainTable Int) :=
  [.register .propertyChangeListener ["gain"] 0 1 0, .register .propertyChangeListener ["gain"] 0 2 0]

def gainFirst : PropertySet gainTable Int := run step gainStart twoListeners

def gainSecond : PropertySet gainTable Int :=
  run step (step (.pass 0 fun _ => 0) gainFirst) [.assign "gain" (1 : Int)]

end PropertySet

end Redhawk.Properties
