import Redhawk.Library.Lists
import Redhawk.Properties.ChangeMonitor

/-!
What the listeners of a property set are told. One spec lemma says what a pass does: the first
registration of the registry, and only that one, has its callbacks updated from the monitors;
then every registration whose interval has expired reports.
-/

namespace Redhawk.Properties

open Library PropertyChangeRec List

variable {PropId α : Type} {table : PropertyTable PropId}

def PropertyChangeRec.covers (record : PropertyChangeRec PropId) (id : PropId) : Prop :=
  id ∈ record.props.map Prod.fst

def PropertyChangeRec.changed (record : PropertyChangeRec PropId) (id : PropId) : Prop :=
  ∃ callback, (id, callback) ∈ record.props ∧ callback.isChanged = true

def PropertyChangeRec.updated (seen : PropId → Bool) (record : PropertyChangeRec PropId) :
    PropertyChangeRec PropId :=
  { record with props := record.props.map fun entry =>
      (entry.1, if seen entry.1 then entry.2.recordChanged else entry.2) }

def observed (seen : PropId → Bool) :
    List (PropertyChangeRec PropId) → List (PropertyChangeRec PropId)
  | [] => []
  | first :: rest => first.updated seen :: rest

theorem updated_quiet {seen : PropId → Bool} (quiet : ∀ id, seen id = false)
    (record : PropertyChangeRec PropId) : record.updated seen = record := by
  simp [updated, quiet]

theorem updated_changed (seen : PropId → Bool) (record : PropertyChangeRec PropId) (id : PropId) :
    (record.updated seen).changed id ↔ record.changed id ∨ (record.covers id ∧ seen id = true) := by
  constructor
  · rintro ⟨callback, member, changed⟩
    obtain ⟨⟨key, before⟩, earlier, same⟩ := mem_map.mp member
    obtain ⟨rfl, rfl⟩ := same
    split at changed
    · next saw => exact Or.inr ⟨mem_map_of_mem earlier, saw⟩
    · exact Or.inl ⟨before, earlier, changed⟩
  · rintro (⟨callback, member, changed⟩ | ⟨covered, saw⟩)
    · refine ⟨_, mem_map_of_mem member, ?_⟩
      split
      · exact callback.recordChanged_isChanged
      · exact changed
    · obtain ⟨⟨key, callback⟩, member, rfl⟩ := mem_map.mp covered
      refine ⟨_, mem_map_of_mem member, ?_⟩
      rw [if_pos saw]
      exact callback.recordChanged_isChanged

namespace PropertySet

variable (self : PropertySet table α) (now : Int) (clock : Nat → Int) (record : PropertyChangeRec PropId)

theorem report_regId : (self.report now clock record).1.regId = record.regId := by
  unfold report
  split <;> rfl

theorem report_contains (expired : record.expired now = true) (id : PropId) :
    (∃ sent ∈ (self.report now clock record).2, sent.Contains id) ↔ record.changed id := by
  have contains : id ∈ (self.reportProps record.props).map Sigma.fst ↔ record.changed id := by
    simp only [reportProps, map_map, mem_map, mem_filter, Function.comp, changed]
    constructor
    · rintro ⟨⟨key, callback⟩, ⟨member, changed⟩, rfl⟩
      exact ⟨callback, member, changed⟩
    · rintro ⟨callback, member, changed⟩
      exact ⟨(id, callback), ⟨member, changed⟩, rfl⟩
  rw [← contains]
  simp only [report, expired, if_true]
  constructor
  · rintro ⟨sent, member, inside⟩
    split at member
    · rw [mem_singleton] at member
      subst member
      exact inside
    · cases member
  · intro inside
    have nonempty : (self.reportProps record.props).length > 0 := by
      obtain ⟨entry, member, _⟩ := mem_map.mp inside
      exact length_pos_of_mem member
    rw [if_pos nonempty]
    exact ⟨_, mem_singleton_self _, inside⟩

theorem report_sent {record : PropertyChangeRec PropId} {sent : Notification table α}
    (member : sent ∈ (self.report now clock record).2) :
    record.expired now = true ∧ sent.regId = record.regId := by
  unfold report at member
  split at member
  · next expired =>
      refine ⟨expired, ?_⟩
      dsimp only at member
      split at member
      · rw [mem_singleton] at member
        rw [member]
      · cases member
  · cases member

theorem report_changed (id : PropId) :
    (self.report now clock record).1.changed id ↔ record.expired now = false ∧ record.changed id := by
  unfold report
  split
  · next expired =>
      simp only [expired, Bool.true_eq_false, false_and, iff_false]
      rintro ⟨callback, member, changed⟩
      obtain ⟨⟨key, before⟩, _, same⟩ := mem_map.mp member
      obtain ⟨_, rfl⟩ := same
      split at changed
      · simp [PCL_Callback.reset] at changed
      · contradiction
  · next pending => simp [pending]

end PropertySet

variable [DecidableEq α]

def sees (monitors : PropertyMonitorTable table α)
    (value : (id : PropId) → (table.kind id).Variable α) (id : PropId) : Bool :=
  ((monitors id).isChanged (value id)).1

variable (monitors : PropertyMonitorTable table α)

theorem sees_resetMonitors (value later : (id : PropId) → (table.kind id).Variable α) (id : PropId) :
    sees (resetMonitors value monitors) later id = differs (table.kind id) (value id) (later id) :=
  Monitor.isChanged_reset _ _ _

theorem resetMonitors_quiet (value : (id : PropId) → (table.kind id).Variable α) (id : PropId) :
    sees (resetMonitors value monitors) value id = false := by
  rw [sees_resetMonitors, differs_self]

variable [DecidableEq PropId]

theorem sees_update (monitors : PropertyMonitorTable table α)
    (value : (id : PropId) → (table.kind id).Variable α) (asked id : PropId) :
    sees (Function.update monitors asked ((monitors asked).isChanged (value asked)).2) value id =
      sees monitors value id := by
  unfold sees
  by_cases same : id = asked
  · subst same
    rw [Function.update_self]
    exact Monitor.isChanged_again _ _
  · rw [Function.update_of_ne same]

theorem recordChanges_props (value : (id : PropId) → (table.kind id).Variable α)
    (monitors : PropertyMonitorTable table α) (props : PropertyReportTable PropId) :
    (recordChanges value monitors props).2 =
      props.map fun entry =>
        (entry.1, if sees monitors value entry.1 then entry.2.recordChanged else entry.2) := by
  induction props generalizing monitors with
  | nil => rfl
  | cons entry rest ih =>
      simp only [recordChanges, map_cons, ih, sees_update]
      rfl

section

variable (self : PropertySet table α) (now : Int) (clock : Nat → Int)
variable (registry : List (PropertyChangeRec PropId))

theorem serviceLoop_quiet :
    ∀ monitors : PropertyMonitorTable table α, (∀ id, sees monitors self.value id = false) →
      (self.serviceLoop now clock monitors registry).2 =
        (registry.map fun record => (self.report now clock record).1,
          registry.flatMap fun record => (self.report now clock record).2) := by
  induction registry with
  | nil =>
      intro monitors quiet
      rfl
  | cons record rest ih =>
      intro monitors quiet
      have unchanged := updated_quiet quiet record
      simp only [updated] at unchanged
      simp only [PropertySet.serviceLoop, recordChanges_props, unchanged, map_cons, flatMap_cons]
      have later := ih (resetMonitors self.value (recordChanges self.value monitors record.props).1)
        (resetMonitors_quiet _ _)
      simp only [later]

theorem serviceLoop_eq (monitors : PropertyMonitorTable table α) (registry : List (PropertyChangeRec PropId)) :
    (self.serviceLoop now clock monitors registry).2 =
      ((observed (sees monitors self.value) registry).map fun record =>
          (self.report now clock record).1,
        (observed (sees monitors self.value) registry).flatMap fun record =>
          (self.report now clock record).2) := by
  cases registry with
  | nil => rfl
  | cons record rest =>
      simp only [PropertySet.serviceLoop, recordChanges_props, observed, map_cons,
        flatMap_cons, updated]
      have later := serviceLoop_quiet self now clock rest
        (resetMonitors self.value (recordChanges self.value monitors record.props).1)
        (resetMonitors_quiet _ _)
      simp only [later]

theorem serviceLoop_monitors :
    ∀ monitors : PropertyMonitorTable table α, registry ≠ [] →
      ∃ asked, (self.serviceLoop now clock monitors registry).1 = resetMonitors self.value asked := by
  induction registry with
  | nil =>
      intro monitors nonempty
      exact absurd rfl nonempty
  | cons record rest ih =>
      intro monitors _
      cases rest with
      | nil => exact ⟨(recordChanges self.value monitors record.props).1, rfl⟩
      | cons next later => exact ih _ (cons_ne_nil _ _)

end

namespace PropertySet

variable (self : PropertySet table α) (now : Int) (clock : Nat → Int)

theorem pass_registry :
    (self.propertyChangeServiceFunction now clock).1.propChangeRegistry =
      (observed (sees self.propMonitors self.value) self.propChangeRegistry).map fun record =>
        (self.report now clock record).1 := by
  exact congrArg Prod.fst (serviceLoop_eq self now clock _ _)

theorem pass_notifications :
    (self.propertyChangeServiceFunction now clock).2 =
      (observed (sees self.propMonitors self.value) self.propChangeRegistry).flatMap fun record =>
        (self.report now clock record).2 := by
  exact congrArg Prod.snd (serviceLoop_eq self now clock _ _)

theorem pass_monitors (registered : self.propChangeRegistry ≠ []) :
    ∃ asked, (self.propertyChangeServiceFunction now clock).1.propMonitors = resetMonitors self.value asked :=
  serviceLoop_monitors self now clock _ _ registered

end PropertySet

end Redhawk.Properties
