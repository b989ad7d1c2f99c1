import Redhawk.EventChannels.ChannelBindings

/-!
A channel with registrants is released once the last of them is gone. Compared with unregistering
them first and releasing the channel then.
-/

namespace Redhawk.EventChannels.ChannelDomain

open Library EventChannelManager ChannelRegistration List

def deferred (self : ChannelDomain) (services : Services) (cname : String)
    (order : List String) : ChannelDomain :=
  (self.release services cname).1.unregisterEach services cname order

def immediate (self : ChannelDomain) (services : Services) (cname : String)
    (order : List String) : ChannelDomain :=
  ((self.unregisterEach services cname order).release services cname).1

/-- The registry with its proxies and references, the naming service and the objects. -/
structure SameDomain (one other : ChannelDomain) : Prop where
  channels : one.manager.channels = other.manager.channels
  subProxies : one.manager.subProxies = other.manager.subProxies
  pubProxies : one.manager.pubProxies = other.manager.pubProxies
  channel : one.channel = other.channel
  naming : one.naming = other.naming
  objects : one.objects = other.objects

def LiveWhenCreated (self : ChannelDomain) (name : String) : Prop :=
  ∀ answers autoRelease, (self.create answers name autoRelease).2 = .done →
    ∃ object ∈ (self.create answers name autoRelease).1.objects,
      (self.create answers name autoRelease).1.channel name = some object

def NamesLive (self : ChannelDomain) (objects : List Nat) (name : String) : Prop :=
  validateChannelName name = true → self.enableNsResolution = true →
    ∀ lookup object, self.lookUp name lookup = some object → object ∈ objects

def ReleasesAll (self : ChannelDomain) (services : Services) (cname : String)
    (record : ChannelRegistration) : Prop :=
  let unbound := services.unbinds = true →
    self.naming.bound self.manager.domainContext cname = none
  if cname = record.channelName then
    (record.autoRelease = true ∨ unbound) ∧ self.NamesLive (self.destroyed services cname) cname
  else record.autoRelease = true ∧ record.release = true ∧ unbound

variable {self : ChannelDomain} {services : Services} {cname : String}
  {record : ChannelRegistration}

section Lookups

variable {manager next : EventChannelManager}

theorem found_modify {change : ChannelRegistration → ChannelRegistration}
    (names : ∀ old, (change old).channelName = old.channelName)
    (qualified : ∀ old, (change old).fqn = old.fqn)
    (modified : next.channels = (manager.modify record change).channels)
    (found : manager.getChannelRegistration cname = some record) :
    next.getChannelRegistration cname = some (change record) := by
  let changeOne (old : ChannelRegistration) : ChannelRegistration :=
    if old.channelName = record.channelName then change old else old
  have byName : ((fun old : ChannelRegistration => old.channelName == cname) ∘ changeOne) =
      fun old => old.channelName == cname := by
    funext old
    simp [changeOne, apply_ite channelName, names]
  have byFqn : ((fun old : ChannelRegistration => old.fqn == cname) ∘ changeOne) =
      fun old => old.fqn == cname := by
    funext old
    simp [changeOne, apply_ite fqn, qualified]
  have mapped : next.getChannelRegistration cname = (manager.getChannelRegistration cname).map changeOne := by
    unfold EventChannelManager.getChannelRegistration
    rw [modified, EventChannelManager.modify, find?_map, find?_map]
    rw [byName, byFqn]
    split_ifs
    · cases manager.channels.find? fun old => old.fqn == cname with
      | none => rfl
      | some old => rfl
    · rfl
  rw [mapped, found, Option.map_some]
  exact congrArg some (if_pos rfl)

theorem absent_of_found (kept : TableKept manager.channels)
    (found : manager.getChannelRegistration cname = some record)
    (differs : cname ≠ record.channelName) :
    ∀ other ∈ manager.channels, other.channelName ≠ cname := by
  intro other member same
  have own := getChannelRegistration_own kept member
  rw [same, found] at own
  obtain rfl := Option.some.inj own
  exact differs same.symm

theorem delete_absent (absent : ∀ other ∈ self.manager.channels, other.channelName ≠ cname) :
    self.deleteChannelRegistration services cname = self := by
  unfold deleteChannelRegistration
  rw [if_neg]
  rw [any_eq_true]
  rintro ⟨other, member, same⟩
  exact absent other member (beq_iff_eq.mp same)

theorem delete_present (member : record ∈ self.manager.channels) (named : record.channelName = cname) :
    self.deleteChannelRegistration services cname =
      { self with
        manager := self.manager.deleteChannelRegistration cname
        channel := Function.update self.channel cname none
        objects := self.destroyed services cname } := by
  unfold deleteChannelRegistration
  rw [if_pos]
  exact any_eq_true.mpr ⟨record, member, beq_iff_eq.mpr named⟩

end Lookups

section Unregistrations

def eraseIds (ids : List String) (record : ChannelRegistration) : ChannelRegistration :=
  { record with registrants := record.registrants.filter fun regId => regId ∉ ids }

def emptied (self : ChannelDomain) (record : ChannelRegistration) (ids : List String)
    (disconnected : List Nat) : ChannelDomain :=
  { self with
    manager := { self.manager.modify record (eraseIds ids) with
      subProxies := self.manager.subProxies.filter fun entry => entry.1 ∉ ids
      pubProxies := self.manager.pubProxies.filter fun entry => entry.1 ∉ ids
      disconnected := disconnected } }

theorem found_emptied (found : self.manager.getChannelRegistration cname = some record)
    (ids : List String) (disconnected : List Nat) :
    (self.emptied record ids disconnected).manager.getChannelRegistration cname = some (eraseIds ids record) :=
  found_modify (fun _ => rfl) (fun _ => rfl) rfl found

theorem kept_emptied (kept : TableKept self.manager.channels) (ids : List String) (disconnected : List Nat) :
    TableKept (self.emptied record ids disconnected).manager.channels := by
  apply tableKept_modify kept
  · intro old
    rfl
  · intro old member _
    refine ⟨(kept.distinct old member).filter _, ?_⟩
    intro empty
    exact kept.nonempty old member (mem_filter.mp empty).1

theorem filter_filter_not_mem {β Key : Type} [DecidableEq Key] (key : β → Key) (items : List β)
    (first : Key) (rest : List Key) :
    (items.filter fun item => key item ∉ [first]).filter (fun item => key item ∉ rest) =
      items.filter fun item => key item ∉ first :: rest := by
  rw [filter_filter]
  apply filter_congr
  intro item _
  rw [← Bool.decide_and, decide_eq_decide, mem_singleton, mem_cons]
  tauto

theorem emptied_emptied (regId : String) (rest : List String) (before after : List Nat) :
    (self.emptied record [regId] before).emptied (eraseIds [regId] record) rest after =
      self.emptied record (regId :: rest) after := by
  have records : ∀ old : ChannelRegistration,
      eraseIds rest (eraseIds [regId] old) = eraseIds (regId :: rest) old := by
    intro old
    simp only [eraseIds]
    have left := filter_filter_not_mem id old.registrants regId rest
    simp only [id_eq] at left
    rw [left]
  have channels : ((self.manager.modify record (eraseIds [regId])).modify
      (eraseIds [regId] record) (eraseIds rest)).channels =
        (self.manager.modify record (eraseIds (regId :: rest))).channels := by
    simp only [EventChannelManager.modify, map_map]
    apply map_congr_left
    intro old _
    rw [Function.comp_apply]
    by_cases named : old.channelName = record.channelName
    · have erased : (eraseIds [regId] old).channelName = (eraseIds [regId] record).channelName :=
        named
      rw [if_pos named, if_pos named, if_pos erased, records]
    · have other : old.channelName ≠ (eraseIds [regId] record).channelName := named
      rw [if_neg named, if_neg named, if_neg other]
  unfold emptied
  dsimp only
  rw [filter_filter_not_mem Prod.fst, filter_filter_not_mem Prod.fst]
  congr 2

theorem unregister_registered (available : services.available = true) (kept : TableKept self.manager.channels)
    (found : self.manager.getChannelRegistration cname = some record) {regId : String}
    (registered : regId ∈ record.registrants) :
    ∃ disconnected, (self.unregister services cname regId).1 =
      if (eraseIds [regId] record).registrants = [] ∧ record.autoRelease then
        (self.emptied record [regId] disconnected).deleteChannelRegistration services cname
      else self.emptied record [regId] disconnected := by
  have named : regId ≠ "" := by
    rintro rfl
    exact kept.nonempty record (getChannelRegistration_mem found) registered
  have foundAfter : (self.manager.dropProxies regId).getChannelRegistration cname = some record :=
    found
  have isRegistered : ¬record.registrants.contains regId = false := by
    rw [Bool.not_eq_false, contains_iff_mem]
    exact registered
  have erased : EventChannelManager.eraseId = fun old regId => eraseIds [regId] old := by
    funext old regId
    simp [EventChannelManager.eraseId, eraseIds]
  refine ⟨(self.manager.dropProxies regId).disconnected, ?_⟩
  have left : (record.registrants.filter fun other => other ≠ regId) = (eraseIds [regId] record).registrants := by
    simp only [eraseIds, mem_singleton]
  have same : ({ self with
      manager := (self.manager.dropProxies regId).modify record (eraseIds [regId]) } : ChannelDomain) =
        self.emptied record [regId] (self.manager.dropProxies regId).disconnected := by
    simp [emptied, EventChannelManager.dropProxies, EventChannelManager.modify]
  unfold unregister
  rw [if_neg (by simp [available])]
  rw [if_neg named, foundAfter]
  dsimp only
  rw [if_neg isRegistered, left, erased]
  rw [same]
  split_ifs
  · rfl
  · rfl

theorem unregisterEach_registered (available : services.available = true) {ids : List String}
    (some_id : ids ≠ []) (kept : TableKept self.manager.channels)
    (found : self.manager.getChannelRegistration cname = some record) (distinct : ids.Nodup)
    (registered : ids ⊆ record.registrants) :
    ∃ disconnected, self.unregisterEach services cname ids =
      if (eraseIds ids record).registrants = [] ∧ record.autoRelease then
        (self.emptied record ids disconnected).deleteChannelRegistration services cname
      else self.emptied record ids disconnected := by
  induction ids generalizing self record with
  | nil => exact absurd rfl some_id
  | cons regId rest ih =>
      rw [cons_subset] at registered
      rw [nodup_cons] at distinct
      obtain ⟨before, one⟩ := unregister_registered available kept found registered.1
      unfold unregisterEach
      rw [foldl_cons, one]
      rcases rest with _ | ⟨second, others⟩
      · exact ⟨before, rfl⟩
      · -- The second id keeps the record.
        have stays : second ∈ (eraseIds [regId] record).registrants := by
          have differs : second ≠ regId := fun same => distinct.1 (same ▸ mem_cons_self)
          simpa [eraseIds, differs] using registered.2 mem_cons_self
        rw [if_neg fun emptied => by rw [emptied.1] at stays; cases stays]
        have registeredAfter : second :: others ⊆ (eraseIds [regId] record).registrants := by
          intro other member
          have differs : other ≠ regId := fun same => distinct.1 (same ▸ member)
          simpa [eraseIds, differs] using registered.2 member
        obtain ⟨after, all⟩ := ih (cons_ne_nil _ _) (kept_emptied kept [regId] before)
          (found_emptied found [regId] before) distinct.2 registeredAfter
        refine ⟨after, ?_⟩
        rw [emptied_emptied] at all
        have records : (eraseIds (second :: others) (eraseIds [regId] record)).registrants =
            (eraseIds (regId :: second :: others) record).registrants :=
          filter_filter_not_mem id record.registrants regId (second :: others)
        rw [records] at all
        exact all

end Unregistrations

section FinalStates

variable {ids : List String}

theorem eraseIds_all (all : ids.Perm record.registrants) : (eraseIds ids record).registrants = [] := by
  simp only [eraseIds]
  rw [filter_eq_nil_iff]
  intro regId member
  simp [all.mem_iff.mpr member]

theorem release_raised (found : self.manager.getChannelRegistration cname = some record)
    (raised : (self.release services cname).2 = .raised .registrationsExists) :
    services.available = true ∧ record.registrants ≠ [] ∧
      (self.release services cname).1 = { self with manager := self.manager.modify record markReleased } := by
  unfold release at raised ⊢
  by_cases unavailable : services.available = false
  · rw [if_pos unavailable] at raised
    cases raised
  · rw [if_neg unavailable, found] at raised ⊢
    dsimp only at raised ⊢
    by_cases registered : record.registrants.length > 0
    · rw [if_pos registered]
      exact ⟨(Bool.not_eq_false _).mp unavailable, ne_nil_of_length_pos registered, rfl⟩
    · rw [if_neg registered] at raised
      cases raised

theorem release_empty (available : services.available = true)
    (found : self.manager.getChannelRegistration cname = some record)
    (empty : record.registrants = []) :
    (self.release services cname).1 = (self.unbind services cname).deleteChannelRegistration services cname := by
  unfold release
  rw [if_neg (by simp [available]), found]
  dsimp only
  rw [if_neg (by simp [empty])]

theorem deferred_eq (kept : TableKept self.manager.channels)
    (found : self.manager.getChannelRegistration cname = some record)
    (raised : (self.release services cname).2 = .raised .registrationsExists)
    (all : ids.Perm record.registrants) :
    ∃ disconnected, self.deferred services cname ids =
      (({ self with manager := self.manager.modify record markReleased } : ChannelDomain).emptied
        (markReleased record) ids disconnected).deleteChannelRegistration services cname := by
  obtain ⟨available, registered, marked⟩ := release_raised found raised
  have member := getChannelRegistration_mem found
  have keptMarked : TableKept (self.manager.modify record markReleased).channels := by
    apply tableKept_modify kept
    · intro old
      rfl
    · intro old oldMember _
      exact ⟨kept.distinct old oldMember, kept.nonempty old oldMember⟩
  have foundMarked : (self.manager.modify record markReleased).getChannelRegistration cname =
      some (markReleased record) := found_modify (fun _ => rfl) (fun _ => rfl) rfl found
  have some_id : ids ≠ [] := by
    rintro rfl
    exact registered all.nil_eq.symm
  obtain ⟨disconnected, unregistered⟩ := @unregisterEach_registered
    { self with manager := self.manager.modify record markReleased } services cname
    (markReleased record) available ids some_id keptMarked foundMarked
    (all.nodup_iff.mpr (kept.distinct record member)) all.subset
  refine ⟨disconnected, ?_⟩
  have empty : (eraseIds ids (markReleased record)).registrants = [] := eraseIds_all all
  rw [deferred, marked, unregistered, if_pos ⟨empty, rfl⟩]

theorem unregisterEach_all (available : services.available = true) (kept : TableKept self.manager.channels)
    (found : self.manager.getChannelRegistration cname = some record)
    (registered : record.registrants ≠ []) (all : ids.Perm record.registrants) :
    ∃ disconnected, self.unregisterEach services cname ids =
      if record.autoRelease then
        (self.emptied record ids disconnected).deleteChannelRegistration services cname
      else self.emptied record ids disconnected := by
  have member := getChannelRegistration_mem found
  have some_id : ids ≠ [] := by
    rintro rfl
    exact registered all.nil_eq.symm
  obtain ⟨disconnected, unregistered⟩ := unregisterEach_registered available some_id kept found
    (all.nodup_iff.mpr (kept.distinct record member)) all.subset
  refine ⟨disconnected, ?_⟩
  simpa only [eraseIds_all all, true_and] using unregistered

def removed (self : ChannelDomain) (services : Services) (cname : String) (ids : List String)
    (disconnected : List Nat) : ChannelDomain :=
  { self with
    manager := { self.manager with
      channels := self.manager.channels.filter fun other => other.channelName ≠ cname
      subProxies := self.manager.subProxies.filter fun entry => entry.1 ∉ ids
      pubProxies := self.manager.pubProxies.filter fun entry => entry.1 ∉ ids
      disconnected := disconnected }
    channel := Function.update self.channel cname none
    objects := self.destroyed services cname }

theorem filter_modify {manager : EventChannelManager} {change : ChannelRegistration → ChannelRegistration}
    (names : ∀ old, (change old).channelName = old.channelName) :
    (manager.modify record change).channels.filter (fun other => other.channelName ≠ record.channelName) =
      manager.channels.filter fun other => other.channelName ≠ record.channelName := by
  simp only [EventChannelManager.modify]
  induction manager.channels with
  | nil => rfl
  | cons first rest ih =>
      rw [map_cons, filter_cons, filter_cons, ih]
      by_cases named : first.channelName = record.channelName
      · simp [named, names]
      · simp [named]

theorem delete_emptied (found : self.manager.getChannelRegistration record.channelName = some record)
    (disconnected : List Nat) :
    (self.emptied record ids disconnected).deleteChannelRegistration services record.channelName =
      self.removed services record.channelName ids disconnected := by
  have member := EventChannelManager.getChannelRegistration_mem
    (found_emptied found ids disconnected)
  have named : (eraseIds ids record).channelName = record.channelName := rfl
  rw [delete_present member named, removed]
  have left := @filter_modify record self.manager (eraseIds ids) fun _ => rfl
  simp only [EventChannelManager.deleteChannelRegistration, emptied]
  rw [left]
  rfl

theorem not_found_removed (isPlain : isQualified cname = false) (disconnected : List Nat) :
    (self.removed services cname ids disconnected).manager.getChannelRegistration cname = none := by
  rw [getChannelRegistration_plain isPlain, find?_eq_none]
  intro other member
  have differs := of_decide_eq_true (mem_filter.mp member).2
  simpa using differs

theorem deferred_plain (kept : TableKept self.manager.channels)
    (found : self.manager.getChannelRegistration record.channelName = some record)
    (raised : (self.release services record.channelName).2 = .raised .registrationsExists)
    (all : ids.Perm record.registrants) :
    ∃ disconnected, self.deferred services record.channelName ids =
      self.removed services record.channelName ids disconnected := by
  obtain ⟨disconnected, deletes⟩ := deferred_eq kept found raised all
  refine ⟨disconnected, ?_⟩
  have foundMarked : (self.manager.modify record markReleased).getChannelRegistration
      record.channelName = some (markReleased record) :=
    found_modify (fun _ => rfl) (fun _ => rfl) rfl found
  have deleted := @delete_emptied
    { self with manager := self.manager.modify record markReleased } services
    (markReleased record) ids foundMarked disconnected
  have left := @filter_modify record self.manager markReleased fun _ => rfl
  have named : (markReleased record).channelName = record.channelName := rfl
  rw [deletes]
  rw [named] at deleted
  rw [deleted]
  simp only [removed]
  rw [left]
  rfl

theorem immediate_plain (available : services.available = true) (kept : TableKept self.manager.channels)
    (found : self.manager.getChannelRegistration record.channelName = some record)
    (registered : record.registrants ≠ []) (all : ids.Perm record.registrants) :
    ∃ disconnected, self.immediate services record.channelName ids =
      if record.autoRelease then self.removed services record.channelName ids disconnected
      else (self.removed services record.channelName ids disconnected).unbind services
        record.channelName := by
  have member := getChannelRegistration_mem found
  obtain ⟨disconnected, unregistered⟩ := unregisterEach_all available kept found registered all
  refine ⟨disconnected, ?_⟩
  rw [immediate, unregistered]
  split_ifs with autoRelease
  · rw [delete_emptied found]
    unfold release
    rw [if_neg (by simp [available]), not_found_removed (kept.plain record member)]
  · rw [release_empty available (found_emptied found ids disconnected) (eraseIds_all all)]
    exact @delete_emptied (self.unbind services record.channelName) services record ids found
      disconnected

theorem deferred_qualified (kept : TableKept self.manager.channels)
    (found : self.manager.getChannelRegistration cname = some record)
    (differs : cname ≠ record.channelName)
    (raised : (self.release services cname).2 = .raised .registrationsExists)
    (all : ids.Perm record.registrants) :
    ∃ disconnected, self.deferred services cname ids =
      ({ self with manager := self.manager.modify record markReleased } : ChannelDomain).emptied
        (markReleased record) ids disconnected := by
  obtain ⟨disconnected, deletes⟩ := deferred_eq kept found raised all
  refine ⟨disconnected, ?_⟩
  rw [deletes]
  apply delete_absent
  have absent := absent_of_found kept found differs
  intro other member
  obtain ⟨middle, middleMember, rfl⟩ := mem_modify.mp member
  obtain ⟨old, oldMember, rfl⟩ := mem_modify.mp middleMember
  have named := absent old oldMember
  simp only [apply_ite channelName, markReleased, eraseIds, ite_self]
  exact named

theorem immediate_qualified (available : services.available = true) (kept : TableKept self.manager.channels)
    (found : self.manager.getChannelRegistration cname = some record)
    (differs : cname ≠ record.channelName) (registered : record.registrants ≠ [])
    (all : ids.Perm record.registrants) :
    ∃ disconnected, self.immediate services cname ids =
      (self.emptied record ids disconnected).unbind services cname := by
  obtain ⟨disconnected, unregistered⟩ := unregisterEach_all available kept found registered all
  refine ⟨disconnected, ?_⟩
  have absent : ∀ other ∈ (self.emptied record ids disconnected).manager.channels, other.channelName ≠ cname := by
    intro other member
    obtain ⟨old, oldMember, rfl⟩ := mem_modify.mp member
    have named := absent_of_found kept found differs old oldMember
    simp only [apply_ite channelName, eraseIds, ite_self]
    exact named
  rw [delete_absent absent, ite_self] at unregistered
  rw [immediate, unregistered, release_empty available (found_emptied found ids disconnected) (eraseIds_all all)]
  exact delete_absent absent

end FinalStates

section Creation

theorem resolveNs_found {lookups : Lookup → LookupAnswer} {order : List Lookup} {object : Nat}
    (found : self.resolveNs lookups cname order = .ok (some object)) :
    ∃ lookup, self.lookUp cname lookup = some object := by
  induction order with
  | nil => cases found
  | cons lookup rest ih =>
      unfold resolveNs at found
      split at found
      · split_ifs at found
        exact ih found
      · cases found
      · rename_i here
        cases found
        exact ⟨lookup, here⟩
      · exact ih found

theorem resolveNs_only {target : Lookup} {order : List Lookup} {object : Nat}
    (asked : target ∈ order) (here : self.lookUp cname target = some object) :
    self.resolveNs (fun lookup => if lookup = target then .channel else .failed) cname order =
      .ok (some object) := by
  induction order with
  | nil => cases asked
  | cons lookup rest ih =>
      unfold resolveNs
      by_cases same : lookup = target
      · subst same
        rw [if_pos rfl, here]
      · have later := (mem_cons.mp asked).resolve_left fun eq => same eq.symm
        rw [if_neg same]
        exact ih later

theorem liveWhenCreated_of_exists (known : self.manager.channelExists cname = true) :
    self.LiveWhenCreated cname := by
  intro answers autoRelease done
  unfold create at done
  split_ifs at done

theorem liveWhenCreated_iff (unknown : self.manager.channelExists cname = false) :
    self.LiveWhenCreated cname ↔ self.NamesLive self.objects cname := by
  constructor
  · intro live valid enabled target object here
    let answers : CreateAnswers :=
      { available := true
        lookups := fun lookup => if lookup = target then .channel else .failed
        factory := none
        binds := true }
    have resolves : self.resolved answers cname = .ok (some object) := by
      rw [resolved, if_pos enabled]
      exact resolveNs_only (by cases target <;> decide) here
    have created : self.create answers cname false =
        (self.addChannelRegistration cname (self.manager.getFQN cname) object false, .done) := by
      unfold create
      rw [if_neg (by simp [answers]), if_neg (by simp [valid]), if_neg (by simp [unknown])]
      rw [resolves]
    obtain ⟨own, alive, named⟩ := live answers false (by rw [created])
    rw [created] at alive named
    have same : object = own := by
      simpa [addChannelRegistration] using named
    rw [same]
    exact alive
  · intro live answers autoRelease done
    unfold create at done ⊢
    split_ifs at done ⊢ with available valid
    cases resolves : self.resolved answers cname with
    | error error =>
        rw [resolves] at done
        cases done
    | ok found =>
        rw [resolves] at done
        cases found with
        | some object =>
            refine ⟨object, ?_, by simp [addChannelRegistration]⟩
            unfold resolved at resolves
            split_ifs at resolves with enabled
            · obtain ⟨lookup, here⟩ := resolveNs_found resolves
              exact live ((Bool.not_eq_false _).mp valid) enabled lookup object here
            · cases resolves
        | none =>
            cases made : answers.factory with
            | some error =>
                rw [made] at done
                cases done
            | none =>
                refine ⟨self.created, ?_, by simp [addChannelRegistration]⟩
                simp [addChannelRegistration, createObject]

end Creation

def DeferredEqualsImmediate (self : ChannelDomain) (services : Services) (cname : String)
    (record : ChannelRegistration) (deferredOrder immediateOrder : List String) : Prop :=
  SameDomain (self.deferred services cname deferredOrder) (self.immediate services cname immediateOrder) ∧
    (self.deferred services cname deferredOrder).LiveWhenCreated record.channelName

section Comparison

variable {one other : List String} {before after : List Nat}

theorem unbind_naming_iff : (self.unbind services cname).naming = self.naming ↔
    (services.unbinds = true → self.naming.bound self.manager.domainContext cname = none) := by
  unfold unbind
  split_ifs with unbinds
  · rw [NamingService.unbind_eq_self_iff]
    exact ⟨fun unbound _ => unbound, fun unbound => unbound unbinds⟩
  · exact ⟨fun _ on => absurd on unbinds, fun _ => rfl⟩

theorem filter_not_mem_perm (same : one.Perm other) (proxies : ProxyMap) :
    (proxies.filter fun entry => entry.1 ∉ one) = proxies.filter fun entry => entry.1 ∉ other := by
  apply filter_congr
  intro entry _
  rw [decide_eq_decide, same.mem_iff]

theorem sameDomain_plain (same : one.Perm other) :
    SameDomain (self.removed services cname one before)
        (if record.autoRelease then self.removed services cname other after
          else (self.removed services cname other after).unbind services cname) ↔
      record.autoRelease = true ∨
        (services.unbinds = true → self.naming.bound self.manager.domainContext cname = none) := by
  split_ifs with autoRelease
  · refine ⟨fun _ => .inl autoRelease, fun _ => ?_⟩
    exact {
      channels := rfl
      subProxies := filter_not_mem_perm same _
      pubProxies := filter_not_mem_perm same _
      channel := rfl
      naming := rfl
      objects := rfl }
  · rw [or_iff_right autoRelease, ← unbind_naming_iff]
    constructor
    · intro all
      exact all.naming.symm
    · intro naming
      exact {
        channels := rfl
        subProxies := filter_not_mem_perm same _
        pubProxies := filter_not_mem_perm same _
        channel := rfl
        naming := naming.symm
        objects := rfl }

theorem modify_markReleased_modify {manager : EventChannelManager} (ids : List String) :
    ((manager.modify record markReleased).modify (markReleased record) (eraseIds ids)).channels =
      (manager.modify record fun old => eraseIds ids (markReleased old)).channels := by
  simp only [EventChannelManager.modify, map_map]
  apply map_congr_left
  intro old _
  rw [Function.comp_apply]
  by_cases named : old.channelName = record.channelName
  · have marked : (markReleased old).channelName = (markReleased record).channelName := named
    rw [if_pos named, if_pos named, if_pos marked]
  · have differs : old.channelName ≠ (markReleased record).channelName := named
    rw [if_neg named, if_neg named, if_neg differs]

theorem channels_qualified {manager : EventChannelManager} (kept : TableKept manager.channels)
    (member : record ∈ manager.channels) (all : one.Perm record.registrants)
    (same : one.Perm other) :
    (manager.modify record fun old => eraseIds one (markReleased old)).channels =
        (manager.modify record (eraseIds other)).channels ↔
      record.autoRelease = true ∧ record.release = true := by
  rw [EventChannelManager.modify, EventChannelManager.modify, map_inj_left]
  constructor
  · intro each
    have own := each record member
    rw [if_pos rfl, if_pos rfl] at own
    exact ⟨(congrArg ChannelRegistration.autoRelease own).symm, (congrArg ChannelRegistration.release own).symm⟩
  · rintro ⟨autoRelease, release⟩ old oldMember
    by_cases named : old.channelName = record.channelName
    · obtain rfl := inj_on_of_nodup_map kept.names oldMember member named
      rw [if_pos rfl, if_pos rfl]
      have left : (eraseIds one old).registrants = (eraseIds other old).registrants :=
        (eraseIds_all all).trans (eraseIds_all (same.symm.trans all)).symm
      have marked : markReleased old = old := by
        cases old with
        | mk name fqn isAuto isRelease registrants =>
            obtain rfl : isAuto = true := autoRelease
            obtain rfl : isRelease = true := release
            rfl
      rw [marked, eraseIds, eraseIds]
      exact congrArg (fun ids => { old with registrants := ids }) left
    · rw [if_neg named, if_neg named]

theorem sameDomain_qualified (kept : TableKept self.manager.channels)
    (member : record ∈ self.manager.channels) (all : one.Perm record.registrants)
    (same : one.Perm other) :
    SameDomain
        (({ self with manager := self.manager.modify record markReleased } : ChannelDomain).emptied
          (markReleased record) one before)
        ((self.emptied record other after).unbind services cname) ↔
      record.autoRelease = true ∧ record.release = true ∧
        (services.unbinds = true → self.naming.bound self.manager.domainContext cname = none) := by
  rw [← unbind_naming_iff, ← and_assoc, ← channels_qualified kept member all same,
    ← modify_markReleased_modify one]
  constructor
  · intro domains
    exact ⟨domains.channels, domains.naming.symm⟩
  · rintro ⟨channels, naming⟩
    exact {
      channels := channels
      subProxies := filter_not_mem_perm same _
      pubProxies := filter_not_mem_perm same _
      channel := rfl
      naming := naming.symm
      objects := rfl }

end Comparison

theorem deferred_release_iff (kept : TableKept self.manager.channels)
    (found : self.manager.getChannelRegistration cname = some record)
    (raised : (self.release services cname).2 = .raised .registrationsExists)
    {deferredOrder immediateOrder : List String}
    (deferredAll : deferredOrder.Perm record.registrants)
    (immediateAll : immediateOrder.Perm record.registrants) :
    self.DeferredEqualsImmediate services cname record deferredOrder immediateOrder ↔
      self.ReleasesAll services cname record := by
  obtain ⟨available, registered, -⟩ := release_raised found raised
  have member := getChannelRegistration_mem found
  have same := deferredAll.trans immediateAll.symm
  unfold DeferredEqualsImmediate ReleasesAll
  by_cases named : cname = record.channelName
  · subst named
    obtain ⟨before, deferredState⟩ := deferred_plain kept found raised deferredAll
    obtain ⟨after, immediateState⟩ := immediate_plain available kept found registered immediateAll
    have isPlain := kept.plain record member
    rw [deferredState, immediateState, sameDomain_plain same, if_pos rfl]
    apply and_congr Iff.rfl
    apply liveWhenCreated_iff
    rw [channelExists_plain isPlain, not_found_removed isPlain]
    rfl
  · obtain ⟨before, deferredState⟩ := deferred_qualified kept found named raised deferredAll
    obtain ⟨after, immediateState⟩ :=
      immediate_qualified available kept found named registered immediateAll
    rw [deferredState, immediateState, sameDomain_qualified kept member deferredAll same, if_neg named]
    apply and_iff_left
    apply liveWhenCreated_of_exists
    -- The record is still there: the qualified name deletes none.
    have stays := getChannelRegistration_mem
      (@found_modify cname record self.manager _
        (fun old => eraseIds deferredOrder (markReleased old)) (fun _ => rfl) (fun _ => rfl)
        (modify_markReleased_modify deferredOrder) found)
    unfold channelExists
    rw [Bool.or_eq_true, any_eq_true]
    exact .inr ⟨_, stays, beq_iff_eq.mpr rfl⟩

def twoRegistrants (binds : Bool) : ChannelDomain :=
  let answers : CreateAnswers :=
    { available := true, lookups := fun _ => .channel, factory := none, binds := binds }
  let created := ((initial "DOM").create answers "data" false).1
  ((created.registerResource answers "data" "a").1.registerResource answers "data" "b").1

def reliable : Services where
  available := true
  unbinds := true
  destroys := true

theorem deferred_release_unbound :
    (twoRegistrants false).DeferredEqualsImmediate reliable "data"
      ⟨"data", "DOM.data", false, false, ["a", "b"]⟩ ["b", "a"] ["a", "b"] := by
  have kept : TableKept (twoRegistrants false).manager.channels := by
    constructor <;> decide
  apply (deferred_release_iff kept rfl rfl (Perm.swap "a" "b" []) (.refl _)).mpr
  refine ⟨.inr fun _ => rfl, ?_⟩
  intro _ _ lookup object here
  cases lookup <;> cases here

/-- The binding stays, and the name is good for no live channel any more. -/
theorem deferred_release_keeps_binding :
    ((twoRegistrants true).release reliable "data").2 = .raised .registrationsExists ∧
      ¬(twoRegistrants true).DeferredEqualsImmediate reliable "data"
        ⟨"data", "DOM.data", false, false, ["a", "b"]⟩ ["a", "b"] ["a", "b"] ∧
      ¬((twoRegistrants true).deferred reliable "data" ["a", "b"]).LiveWhenCreated "data" := by
  refine ⟨rfl, ?_, ?_⟩
  · rintro ⟨domains, -⟩
    have bound : ((twoRegistrants true).deferred reliable "data" ["a", "b"]).naming.bound
        "DOM" "data" = some 0 := rfl
    have unbound : ((twoRegistrants true).immediate reliable "data" ["a", "b"]).naming.bound
        "DOM" "data" = none := rfl
    rw [domains.naming, unbound] at bound
    cases bound
  · intro live
    obtain ⟨object, alive, _⟩ := live
      { available := true, lookups := fun _ => .channel, factory := none, binds := true } false rfl
    cases alive

end Redhawk.EventChannels.ChannelDomain
