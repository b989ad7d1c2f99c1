import Redhawk.Properties.ChangeReports

/-!
What each event does to the registry and to the monitors, and what follows along a run: when a
change of a property reaches the listeners that cover it.
-/

namespace Redhawk.Properties

open Library PropertyChangeRec List Option

variable {PropId α : Type} {table : PropertyTable PropId}

def lookup (regId : Nat) (registry : List (PropertyChangeRec PropId)) :
    Option (PropertyChangeRec PropId) :=
  registry.find? fun record => record.regId == regId

theorem lookup_map (regId : Nat) (registry : List (PropertyChangeRec PropId))
    {change : PropertyChangeRec PropId → PropertyChangeRec PropId}
    (keeps : ∀ record, (change record).regId = record.regId) :
    lookup regId (registry.map change) = (lookup regId registry).map change := by
  simp only [lookup, List.find?_map, Function.comp_def, keeps]

theorem lookup_observed (seen : PropId → Bool) (regId : Nat)
    {registry : List (PropertyChangeRec PropId)} {record : PropertyChangeRec PropId}
    (found : lookup regId registry = some record) :
    ∃ after, lookup regId (observed seen registry) = some after ∧ after.expired = record.expired ∧
      ∀ id, after.changed id ↔ record.changed id ∨
        (registry.head? = some record ∧ record.covers id ∧ seen id = true) := by
  cases registry with
  | nil => simp [lookup] at found
  | cons first rest =>
      simp only [lookup, observed, find?_cons] at found ⊢
      by_cases same : first.regId = regId
      · have keyed : (first.regId == regId) = true := by simpa using same
        simp only [keyed, some.injEq] at found
        subst found
        refine ⟨first.updated seen, by simp [updated, keyed], rfl, ?_⟩
        intro id
        simp [updated_changed]
      · have keyed : (first.regId == regId) = false := by simpa using same
        simp only [keyed] at found
        refine ⟨record, by simp [updated, keyed, found], rfl, ?_⟩
        intro id
        have later : first ≠ record := by
          rintro rfl
          have matched := find?_some found
          exact same (by simpa using matched)
        simp [later]

theorem observed_regIds (seen : PropId → Bool) (registry : List (PropertyChangeRec PropId)) :
    (observed seen registry).map (·.regId) = registry.map (·.regId) := by
  cases registry <;> rfl

theorem lookup_isSome_iff (regId : Nat) (registry : List (PropertyChangeRec PropId)) :
    (lookup regId registry).isSome ↔ regId ∈ registry.map (·.regId) := by
  simp [lookup, find?_isSome]

theorem lookup_insertRecord (record : PropertyChangeRec PropId) (regId : Nat)
    (registry : List (PropertyChangeRec PropId)) :
    lookup regId (insertRecord record registry) =
      (lookup regId registry).or (if record.regId = regId then some record else none) := by
  unfold insertRecord
  split
  · next present =>
      split
      · next same =>
          subst same
          obtain ⟨existing, found⟩ := isSome_iff_exists.mp
            ((lookup_isSome_iff _ _).mpr present)
          rw [found, some_or]
      · rw [or_none]
  · next absent =>
      induction registry with
      | nil => simp [lookup]
      | cons first rest ih =>
          rw [map_cons, mem_cons, not_or] at absent
          simp only [orderedInsert]
          split
          · by_cases same : record.regId = regId
            · have before : lookup regId (first :: rest) = none := by
                rw [← not_isSome_iff_eq_none, lookup_isSome_iff, ← same, map_cons,
                  mem_cons, not_or]
                exact absent
              rw [before]
              simp [lookup, same]
            · simp [lookup, same]
          · simp only [lookup, find?_cons]
            split
            · rfl
            · exact ih absent.2

theorem insertRecord_nodup {record : PropertyChangeRec PropId}
    {registry : List (PropertyChangeRec PropId)} (keyed : (registry.map (·.regId)).Nodup) :
    ((insertRecord record registry).map (·.regId)).Nodup := by
  unfold insertRecord
  split
  · exact keyed
  · next absent =>
      have inserted := (perm_orderedInsert
        (fun left right : PropertyChangeRec PropId => left.regId ≤ right.regId) record registry).map
        (·.regId)
      rw [inserted.nodup_iff, map_cons, nodup_cons]
      exact ⟨absent, keyed⟩

theorem lookup_filter_ne (regId removed : Nat) (registry : List (PropertyChangeRec PropId)) :
    lookup regId (registry.filter fun record => record.regId ≠ removed) =
      if regId = removed then none else lookup regId registry := by
  simp only [lookup, find?_filter]
  split
  · next same =>
      rw [find?_eq_none]
      intro record _
      simp [same]
  · next other =>
      congr 1
      funext record
      by_cases keyed : record.regId = regId
      · simp [keyed, other]
      · simp [keyed]

variable [DecidableEq PropId]

def PropertyChangeRec.notified (key : PropId) (record : PropertyChangeRec PropId) :
    PropertyChangeRec PropId :=
  { record with props := record.props.map fun entry =>
      (entry.1, if entry.1 = key then entry.2.recordChanged else entry.2) }

theorem notified_changed (key id : PropId) (record : PropertyChangeRec PropId) :
    (record.notified key).changed id ↔ record.changed id ∨ (record.covers id ∧ id = key) := by
  have asUpdate : record.notified key = record.updated fun other => decide (other = key) := by
    simp [notified, updated]
  rw [asUpdate, updated_changed, decide_eq_true_iff]

theorem lookup_voidListeners (key : PropId) (regId : Nat) (registry : List (PropertyChangeRec PropId)) :
    lookup regId (voidListeners key registry) = (lookup regId registry).map (notified key) :=
  @lookup_map _ regId registry (notified key) (fun _ => rfl)

theorem insert_unset {props : PropertyReportTable PropId}
    (unset : ∀ entry ∈ props, entry.2.isChanged = false) (id : PropId) :
    ∀ entry ∈ PropertyReportTable.insert props id, entry.2.isChanged = false := by
  intro entry member
  unfold PropertyReportTable.insert at member
  split at member
  · exact unset entry member
  · rcases mem_append.mp member with earlier | added
    · exact unset entry earlier
    · rw [mem_singleton] at added
      rw [added]
      rfl

theorem foldl_insert_unset (ids : List PropId) :
    ∀ props : PropertyReportTable PropId, (∀ entry ∈ props, entry.2.isChanged = false) →
      ∀ entry ∈ ids.foldl PropertyReportTable.insert props, entry.2.isChanged = false := by
  induction ids with
  | nil =>
      intro props unset
      exact unset
  | cons id rest ih =>
      intro props unset
      exact ih _ (insert_unset unset id)

theorem requestedProperties_unset (ids : List PropId) :
    ∀ (props : PropertyReportTable PropId) (invalidProperties : List PropId) (count : Nat),
      (∀ entry ∈ props, entry.2.isChanged = false) →
      ∀ entry ∈ (requestedProperties table ids props invalidProperties count).1, entry.2.isChanged = false := by
  induction ids with
  | nil =>
      intro props invalidProperties count unset
      exact unset
  | cons id rest ih =>
      intro props invalidProperties count unset
      simp only [requestedProperties]
      split
      · exact ih _ _ _ (insert_unset unset id)
      · exact ih _ _ _ unset

theorem listenedProperties_unset (propIds : List PropId) :
    ∀ entry ∈ (listenedProperties table propIds).1, entry.2.isChanged = false := by
  unfold listenedProperties
  split
  · exact foldl_insert_unset _ [] (fun _ member => absurd member not_mem_nil)
  · exact requestedProperties_unset propIds [] [] 0 (fun _ member => absurd member not_mem_nil)

theorem register_cases (self : PropertySet table α) (listener : ListenerReference)
    (propIds : List PropId) (interval : Int) (regId : Nat) (clock : Int) :
    (self.registerPropertyListener listener propIds interval regId clock).1 = self ∨
      ∃ record : PropertyChangeRec PropId,
        (self.registerPropertyListener listener propIds interval regId clock).1 =
          { self with propChangeRegistry := insertRecord record self.propChangeRegistry } ∧
        ∀ id, ¬ record.changed id := by
  unfold PropertySet.registerPropertyListener
  dsimp only
  split
  · exact Or.inl rfl
  · split
    · exact Or.inl rfl
    · refine Or.inr ⟨_, rfl, ?_⟩
      rintro id ⟨callback, member, changed⟩
      have unset := listenedProperties_unset propIds (id, callback) member
      rw [changed] at unset
      cases unset

namespace PropertySet

def held (self : PropertySet table α) (id : PropId) : (table.kind id).Variable α × Bool :=
  (self.value id, self.isNil id)

structure Touches (id : PropId) (before after : PropertySet table α) : Prop where
  monitors : after.propMonitors = before.propMonitors
  others : ∀ other, other ≠ id → after.value other = before.value other
  heard : after.propChangeRegistry = before.propChangeRegistry ∨
    (after.propChangeRegistry = voidListeners id before.propChangeRegistry ∧ after.held id ≠ before.held id)

theorem Touches.regIds {id : PropId} {before after : PropertySet table α} (touches : Touches id before after) :
    after.propChangeRegistry.map (·.regId) = before.propChangeRegistry.map (·.regId) := by
  rcases touches.heard with same | ⟨fired, _⟩
  · rw [same]
  · simp [fired, voidListeners]

variable [DecidableEq α]

theorem touches_valueChanged {id : PropId} {before stored : PropertySet table α}
    (monitors : stored.propMonitors = before.propMonitors)
    (registry : stored.propChangeRegistry = before.propChangeRegistry)
    (others : ∀ other, other ≠ id → stored.value other = before.value other) :
    Touches id before (valueChanged before stored id) := by
  unfold valueChanged
  split
  · exact ⟨monitors, others, Or.inl registry⟩
  · next different =>
      refine ⟨monitors, others, Or.inr ⟨congrArg (voidListeners id) registry, ?_⟩⟩
      intro same
      have values : stored.value id = before.value id := congrArg Prod.fst same
      have nils : stored.isNil id = before.isNil id := congrArg Prod.snd same
      apply different
      simp only [getValue, values, nils]

variable (self : PropertySet table α)

theorem touches_setValue (id : PropId)
    (any : PropertyAny α (table.kind id)) : Touches id self (self.setValue id any).1 := by
  cases any with
  | converts newValue =>
      apply touches_valueChanged
      · rfl
      · rfl
      · intro other different
        exact Function.update_of_ne different _ _
  | null =>
      simp only [setValue]
      split
      · refine ⟨rfl, ?_, Or.inl rfl⟩
        intro other different
        exact Function.update_of_ne different _ _
      · apply touches_valueChanged
        · rfl
        · rfl
        · intro other _
          rfl
  | other => exact ⟨rfl, fun _ _ => rfl, Or.inl rfl⟩

theorem touches_configureProperty (setting : Setting table α) (self : PropertySet table α) :
    Touches setting.id self (configureProperty setting self).1 := by
  unfold configureProperty
  split
  · exact touches_setValue self setting.id setting.value
  · exact ⟨rfl, fun _ _ => rfl, Or.inl rfl⟩

variable (settings : List (Setting table α))

theorem configureLoop_state :
    ∀ (self : PropertySet table α) (validProperties : Nat) (invalidProperties : List PropId),
      (self.configureLoop settings validProperties invalidProperties).1 =
        run (fun setting self => (configureProperty setting self).1) self settings := by
  induction settings with
  | nil =>
      intro self validProperties invalidProperties
      rfl
  | cons setting rest ih =>
      intro self validProperties invalidProperties
      rw [run_cons, configureLoop]
      cases result : configureProperty setting self with
      | mk next valid => cases valid <;> exact ih _ _ _

theorem configure_state :
    (self.configure settings).1 = run (fun setting self => (configureProperty setting self).1) self settings := by
  rw [← configureLoop_state settings self 0 []]
  unfold configure
  dsimp only
  split
  · split <;> rfl
  · rfl

def Keyed (self : PropertySet table α) : Prop :=
  (self.propChangeRegistry.map (·.regId)).Nodup

theorem pass_regIds (now : Int) (clock : Nat → Int) :
    (self.propertyChangeServiceFunction now clock).1.propChangeRegistry.map (·.regId) =
      self.propChangeRegistry.map (·.regId) := by
  rw [pass_registry, List.map_map, ← observed_regIds (sees self.propMonitors self.value)]
  exact map_congr_left fun record _ => report_regId self now clock record

theorem keyed_step (event : Event table α) (self : PropertySet table α) (keyed : self.Keyed) :
    (step event self).Keyed := by
  cases event with
  | configure settings =>
      simp only [step, configure_state]
      apply invariant_run Keyed _ keyed (along_true _ _ _)
      intro setting state stateKeyed _
      unfold Keyed
      rw [(touches_configureProperty setting state).regIds]
      exact stateKeyed
  | assign id newValue => exact keyed
  | register listener propIds interval regId clock =>
      rcases register_cases self listener propIds interval regId clock with
        same | ⟨record, inserted, _⟩
      · rw [step, same]
        exact keyed
      · rw [step, inserted]
        exact insertRecord_nodup keyed
  | unregister regId =>
      simp only [step, unregisterPropertyListener]
      split
      · exact (filter_sublist.map _).nodup keyed
      · exact keyed
  | pass now clock =>
      unfold Keyed
      simp only [step]
      rw [pass_regIds]
      exact keyed

omit [DecidableEq PropId] in
theorem keyed_observed {self : PropertySet table α} (keyed : self.Keyed) (regId : Nat)
    (record : PropertyChangeRec PropId) :
    lookup regId (observed (sees self.propMonitors self.value) self.propChangeRegistry) = some record ↔
      record ∈ observed (sees self.propMonitors self.value) self.propChangeRegistry ∧ record.regId = regId := by
  apply find?_key
  rw [observed_regIds]
  exact keyed

theorem pass_reports {self : PropertySet table α} (keyed : self.Keyed) {regId : Nat}
    {record : PropertyChangeRec PropId}
    (found : lookup regId self.propChangeRegistry = some record) {now : Int}
    (expired : record.expired now = true) (clock : Nat → Int) (id : PropId) :
    (∃ sent ∈ (self.propertyChangeServiceFunction now clock).2, sent.regId = regId ∧ sent.Contains id) ↔
      record.changed id ∨ (self.propChangeRegistry.head? = some record ∧ record.covers id ∧
        sees self.propMonitors self.value id = true) := by
  obtain ⟨after, foundAfter, sameExpired, changed⟩ :=
    lookup_observed (sees self.propMonitors self.value) regId found
  have member := (keyed_observed keyed regId after).mp foundAfter
  have afterExpired : after.expired now = true := by rw [sameExpired]; exact expired
  rw [← changed id, ← report_contains self now clock after afterExpired id, pass_notifications]
  constructor
  · rintro ⟨sent, sentMember, keys, contains⟩
    obtain ⟨other, otherMember, sentByOther⟩ := mem_flatMap.mp sentMember
    have otherKey := (report_sent self now clock sentByOther).2
    have isAfter : some other = some after := by
      rw [← foundAfter]
      exact ((keyed_observed keyed regId other).mpr ⟨otherMember, otherKey ▸ keys⟩).symm
    rw [some.inj isAfter] at sentByOther
    exact ⟨sent, sentByOther, contains⟩
  · rintro ⟨sent, sentByAfter, contains⟩
    refine ⟨sent, mem_flatMap.mpr ⟨after, member.1, sentByAfter⟩, ?_, contains⟩
    rw [(report_sent self now clock sentByAfter).2, member.2]

theorem lookup_pass (now : Int) (clock : Nat → Int) (regId : Nat) :
    lookup regId (self.propertyChangeServiceFunction now clock).1.propChangeRegistry =
      (lookup regId (observed (sees self.propMonitors self.value) self.propChangeRegistry)).map
        fun record => (self.report now clock record).1 := by
  rw [pass_registry]
  exact lookup_map regId _ (report_regId self now clock)

theorem sees_after_pass (now : Int) (clock : Nat → Int) (registered : self.propChangeRegistry ≠ [])
    (later : (id : PropId) → (table.kind id).Variable α) (id : PropId) :
    sees (self.propertyChangeServiceFunction now clock).1.propMonitors later id =
      differs (table.kind id) (self.value id) (later id) := by
  obtain ⟨asked, monitors⟩ := pass_monitors self now clock registered
  rw [monitors, sees_resetMonitors]

omit [DecidableEq PropId] [DecidableEq α] in
theorem registered_of_lookup {self : PropertySet table α} {regId : Nat} {record : PropertyChangeRec PropId}
    (found : lookup regId self.propChangeRegistry = some record) : self.propChangeRegistry ≠ [] :=
  ne_nil_of_mem (mem_of_find?_eq_some found)

def Flagged (regId : Nat) (id : PropId) (self : PropertySet table α) : Prop :=
  ∀ record, lookup regId self.propChangeRegistry = some record → record.changed id

omit [DecidableEq α] in
theorem flagged_touches {regId : Nat} {id key : PropId} {before after : PropertySet table α}
    (flagged : Flagged regId id before) (touches : Touches key before after) :
    Flagged regId id after := by
  intro record found
  rcases touches.heard with same | ⟨fired, _⟩
  · rw [same] at found
    exact flagged record found
  · rw [fired, lookup_voidListeners, map_eq_some_iff] at found
    obtain ⟨earlier, foundEarlier, rfl⟩ := found
    exact (notified_changed key id earlier).mpr (Or.inl (flagged earlier foundEarlier))

theorem flagged_step {regId : Nat} {id : PropId} (event : Event table α)
    {self : PropertySet table α} {record : PropertyChangeRec PropId}
    (found : lookup regId self.propChangeRegistry = some record) (flagged : Flagged regId id self)
    (pending : ∀ now clock, event = .pass now clock → record.expired now = false) :
    Flagged regId id (step event self) := by
  cases event with
  | configure settings =>
      simp only [step, configure_state]
      apply invariant_run (Flagged regId id) _ flagged
        (along_true _ _ _)
      intro setting state stateFlagged _
      exact flagged_touches stateFlagged (touches_configureProperty setting state)
  | assign key newValue => exact flagged
  | register listener propIds interval newId clock =>
      rcases register_cases self listener propIds interval newId clock with
        same | ⟨added, inserted, _⟩
      · rw [step, same]
        exact flagged
      · intro later foundLater
        rw [step, inserted, lookup_insertRecord, found, some_or] at foundLater
        exact some.inj foundLater ▸ flagged record found
  | unregister removed =>
      simp only [step, unregisterPropertyListener]
      split
      · intro later foundLater
        rw [lookup_filter_ne] at foundLater
        split at foundLater
        · cases foundLater
        · exact flagged later foundLater
      · exact flagged
  | pass now clock =>
      intro later foundLater
      obtain ⟨after, foundAfter, sameExpired, changed⟩ :=
        lookup_observed (sees self.propMonitors self.value) regId found
      rw [step, lookup_pass, foundAfter, map_some] at foundLater
      rw [← some.inj foundLater, report_changed, sameExpired]
      exact ⟨pending now clock rfl, (changed id).mpr (Or.inl (flagged record found))⟩

end PropertySet

end Redhawk.Properties
