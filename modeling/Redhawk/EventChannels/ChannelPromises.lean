import Redhawk.EventChannels.ChannelRuns

/-!
What the event channel manager promises of its registrations and proxies, and the runs in which it
keeps it.
-/

namespace Redhawk.EventChannels

open Library

structure Disconnects (before after : EventChannelManager) (name : String) (ids : List String) :
    Prop where
  own : ∀ entry ∈ before.established, entry.2.channelName = name → entry.1 ∈ ids →
    entry.2.number ∈ after.disconnected ∧ entry ∉ after.proxies
  only : ∀ entry ∈ before.established, entry.2.number ∉ before.disconnected →
    entry.2.number ∈ after.disconnected → entry.2.channelName = name ∧ entry.1 ∈ ids
  others : ∀ entry ∈ before.proxies, ¬(entry.2.channelName = name ∧ entry.1 ∈ ids) → entry ∈ after.proxies

def Gone (self : EventChannelManager) (name : String) : Prop :=
  name ∉ self.channels.map ChannelRegistration.channelName

namespace EventChannelManager

def ProxiesBelong (self : EventChannelManager) : Prop :=
  ∀ entry ∈ self.proxies, ∃! record, record ∈ self.channels ∧
    record.channelName = entry.2.channelName ∧ entry.1 ∈ record.registrants

def CallKept (event : Event) (self : EventChannelManager) : Prop :=
  (∀ error, (self.perform event).2 = .raised error → Unchanged self (self.perform event).1) ∧
  match event.call with
  | .unregister cname regId => (self.perform event).2 = .done →
      ∃ record, self.getChannelRegistration cname = some record ∧
        ¬Registered (self.perform event).1.channels record.channelName regId ∧
        Disconnects self (self.perform event).1 record.channelName [regId]
  | .release cname => event.available = true →
      ∀ record, self.getChannelRegistration cname = some record → record.registrants = [] →
        (self.perform event).2 = .done ∧ Gone (self.perform event).1 record.channelName
  | .forceRelease cname => event.available = true →
      ∀ record, self.getChannelRegistration cname = some record →
        (self.perform event).2 = .done ∧ Gone (self.perform event).1 record.channelName ∧
        Disconnects self (self.perform event).1 record.channelName record.registrants
  | _ => True

def ManagerKept (start : EventChannelManager) : Prop :=
  ∀ events, ProxiesBelong (run step start events) ∧ ∀ event, CallKept event (run step start events)

/-- The calls that keep the promise: a registration finds no proxy kept under its id for another
channel, and a publisher is connected; an id is unregistered from the channel that its proxies
were made for; a channel is released under its plain name, by force only where that does not
release it on its own. -/
def Proper (event : Event) (self : EventChannelManager) : Prop :=
  match event.call with
  | .registerConsumer channelName regId generated service answers =>
      self.canRegister event.available service channelName (effectiveId regId generated) →
        answers.admin = true → answers.connects = true →
        OwnOnly self.subProxies channelName (effectiveId regId generated)
  | .registerPublisher channelName regId generated service answers =>
      self.canRegister event.available service channelName (effectiveId regId generated) → answers.admin = true →
        answers.connects = true ∧ OwnOnly self.pubProxies channelName (effectiveId regId generated)
  | .unregister cname regId => event.available = true →
      match self.getChannelRegistration cname with
      | some record => OwnOnly self.proxies record.channelName regId
      | none => ∀ entry ∈ self.proxies, entry.1 ≠ regId
  | .release cname => event.available = true →
      match self.getChannelRegistration cname with
      | some record => record.registrants = [] → record.channelName = cname
      | none => True
  | .forceRelease cname => event.available = true →
      match self.getChannelRegistration cname with
      | some record => record.channelName = cname ∧ (record.autoRelease = true → record.registrants = []) ∧
          ∀ regId ∈ record.registrants, OwnOnly self.proxies record.channelName regId
      | none => True
  | _ => True

variable {self next : EventChannelManager} {cname regId : String} {available : Bool}

theorem effectiveId_ne (regId : String) (generated : Uuid) : effectiveId regId generated ≠ "" := by
  unfold effectiveId
  split_ifs with isEmpty
  · exact generated.2
  · exact isEmpty

section

variable (kept : Kept self)
include kept

theorem proxiesBelong_of_kept : ProxiesBelong self := by
  intro entry member
  obtain ⟨record, isRecord, sameName, registered⟩ := kept.belongs entry member
  refine ⟨record, ⟨isRecord, sameName, registered⟩, ?_⟩
  rintro other ⟨isOther, otherName, _⟩
  exact List.inj_on_of_nodup_map kept.table.names isOther isRecord (otherName.trans sameName.symm)

theorem disconnects_of_unregisters {name : String} {ids : List String}
    (unregisters : Unregisters self next name ids)
    (own : ∀ id ∈ ids, OwnOnly self.proxies name id) : Disconnects self next name ids where
  own entry member sameName isOne := by
    rw [unregisters.disconnected, unregisters.proxies]
    refine ⟨?_, fun remains => remains.2 isOne⟩
    rcases kept.settled entry member with isKept | gone
    · exact .inr ⟨entry, isKept, isOne, rfl⟩
    · exact .inl gone
  only entry member connected disconnected := by
    rcases (unregisters.disconnected _).mp disconnected with old | ⟨other, isKept, isOne, same⟩
    · exact absurd old connected
    · have equal := kept.numbers other (kept.logged other isKept) entry member same
      subst equal
      exact ⟨own _ isOne other isKept rfl, isOne⟩
  others entry member notOwn := by
    rw [unregisters.proxies]
    refine ⟨member, ?_⟩
    intro isOne
    exact notOwn ⟨own _ isOne entry member rfl, isOne⟩

theorem unregister_kept (proper : available = true →
      match self.getChannelRegistration cname with
      | some record => OwnOnly self.proxies record.channelName regId
      | none => ∀ entry ∈ self.proxies, entry.1 ≠ regId) :
    Sound self (self.unregister available cname regId) ∧
      ((self.unregister available cname regId).2 = .done →
        ∃ record, self.getChannelRegistration cname = some record ∧
          ¬Registered (self.unregister available cname regId).1.channels record.channelName regId ∧
          Disconnects self (self.unregister available cname regId).1 record.channelName [regId]) := by
  unfold unregister
  cases available with
  | false => exact ⟨sound_reshaped kept (.refl self), fun done => nomatch done⟩
  | true =>
      specialize proper rfl
      rw [if_neg (by decide)]
      rcases unregisterId_cases self cname regId with ⟨error, raised, unknown⟩ |
        ⟨record, last, found, unregisters, done⟩
      · have none : ∀ entry ∈ self.proxies, entry.1 ≠ regId := by
          intro entry member same
          obtain ⟨record, isRecord, sameName, registered⟩ := kept.belongs entry member
          cases found : self.getChannelRegistration cname with
          | none =>
              rw [found] at proper
              exact proper entry member same
          | some other =>
              rw [found] at proper
              have isOther := proper entry member same
              have equal := List.inj_on_of_nodup_map kept.table.names isRecord
                (getChannelRegistration_mem found) (sameName.trans isOther)
              subst equal same
              have named : entry.1 ≠ "" := by
                intro isEmpty
                rw [isEmpty] at registered
                exact kept.table.nonempty _ isRecord registered
              exact unknown named record found registered
        rw [raised, dropProxies_of_none none]
        exact ⟨sound_reshaped kept (.refl self), fun done => nomatch done⟩
      · rw [done]
        rw [found] at proper
        refine ⟨⟨kept_unregisters kept unregisters, fun error raised => nomatch raised⟩, ?_⟩
        intro _
        refine ⟨record, found, ?_, ?_⟩
        · rw [unregisters.registered kept.table]
          simp
        · apply disconnects_of_unregisters kept unregisters
          intro id isOne
          rw [List.mem_singleton.mp isOne]
          exact proper

theorem release_sound (available : Bool) (cname : String) :
    Sound self (self.releaseChannel available cname) := by
  rcases releaseChannel_cases self available cname with
    ⟨next, error, reshaped, raised⟩ | ⟨reshaped, done⟩
  · rw [raised]
    exact sound_reshaped kept reshaped
  · rw [done]
    exact sound_reshaped kept reshaped

theorem forceRelease_kept (proper : available = true →
      match self.getChannelRegistration cname with
      | some record => record.channelName = cname ∧ (record.autoRelease = true → record.registrants = []) ∧
          ∀ regId ∈ record.registrants, OwnOnly self.proxies record.channelName regId
      | none => True) :
    Sound self (self.forceRelease available cname) ∧
      (available = true → ∀ record, self.getChannelRegistration cname = some record →
        (self.forceRelease available cname).2 = .done ∧
        Gone (self.forceRelease available cname).1 record.channelName ∧
        Disconnects self (self.forceRelease available cname).1 record.channelName
          record.registrants) := by
  cases available with
  | false =>
      refine ⟨sound_reshaped kept (.refl self), ?_⟩
      rintro ⟨⟩
  | true =>
      specialize proper rfl
      cases found : self.getChannelRegistration cname with
      | none =>
          have raised : self.forceRelease true cname = (self, .raised .channelDoesNotExist) := by
            simp [forceRelease, found]
          rw [raised]
          refine ⟨sound_reshaped kept (.refl self), ?_⟩
          rintro _ record ⟨⟩
      | some record =>
          rw [found] at proper
          obtain ⟨sameName, stays, own⟩ := proper
          obtain ⟨last, done, unregisters, gone⟩ :=
            forceRelease_done kept.table (getChannelRegistration_mem found) stays
          rw [sameName] at done
          rw [done]
          refine ⟨⟨kept_unregisters kept unregisters, fun error raised => nomatch raised⟩, ?_⟩
          rintro _ other ⟨⟩
          exact ⟨rfl, gone, disconnects_of_unregisters kept unregisters own⟩

theorem create_sound (available : Bool) (service : Option ManagerError) (channelName : String)
    (autoRelease : Bool) : Sound self (self.create available service channelName autoRelease) := by
  have reshaped := createChannel_reshaped self available service channelName autoRelease
  unfold create
  split
  next next result =>
    rw [result] at reshaped
    exact sound_reshaped kept reshaped
  next result =>
    exact sound_reshaped kept reshaped

theorem markForRegistrations_sound (available : Bool) (channelName : String) :
    Sound self (self.markForRegistrations available channelName) := by
  unfold markForRegistrations
  split_ifs
  · exact sound_reshaped kept (.refl self)
  · cases found : self.getChannelRegistration channelName with
    | none => exact sound_reshaped kept (.refl self)
    | some record =>
        apply sound_reshaped kept
        apply reshaped_modify (getChannelRegistration_mem found)
        · intro old
          rfl
        · intro old
          rfl

theorem registerResource_sound (available : Bool)
    (service : Option ManagerError) (channelName : String) (named : regId ≠ "") :
    Sound self (self.registerResource available service channelName regId) := by
  rcases registerResource_cases self available service channelName named with
    ⟨next, error, reshaped, raised⟩ | ⟨next, _, registers, done⟩
  · rw [raised]
    exact sound_reshaped kept reshaped
  · rw [done]
    exact ⟨kept_registers kept registers, fun error raised => nomatch raised⟩

theorem perform_kept (event : Event) (proper : Proper event self) :
    Sound self (self.perform event) ∧ CallKept event self := by
  obtain ⟨call, available⟩ := event
  cases call with
  | create channelName service =>
      have sound := create_sound kept available service channelName false
      exact ⟨sound, sound.unchanged, trivial⟩
  | createForRegistrations channelName service =>
      have sound := create_sound kept available service channelName true
      exact ⟨sound, sound.unchanged, trivial⟩
  | markForRegistrations channelName =>
      have sound := markForRegistrations_sound kept available channelName
      exact ⟨sound, sound.unchanged, trivial⟩
  | registerResource channelName regId generated service =>
      have sound := registerResource_sound kept available service channelName
        (effectiveId_ne regId generated)
      exact ⟨sound, sound.unchanged, trivial⟩
  | registerConsumer channelName regId generated service answers =>
      have sound := registerConsumer_sound kept (effectiveId_ne regId generated) proper
      exact ⟨sound, sound.unchanged, trivial⟩
  | registerPublisher channelName regId generated service answers =>
      have sound := registerPublisher_sound kept (effectiveId_ne regId generated) proper
      exact ⟨sound, sound.unchanged, trivial⟩
  | unregister cname regId =>
      obtain ⟨sound, promise⟩ := unregister_kept kept proper
      exact ⟨sound, sound.unchanged, promise⟩
  | release cname =>
      have sound := release_sound kept available cname
      refine ⟨sound, sound.unchanged, ?_⟩
      rintro isAvailable record found unused
      subst isAvailable
      have plain := proper rfl
      rw [found] at plain
      have sameName := plain unused
      have done : self.perform ⟨.release cname, true⟩ = _ := releaseChannel_done found unused
      rw [done, sameName]
      exact ⟨rfl, deleted_gone⟩
  | forceRelease cname =>
      obtain ⟨sound, promise⟩ := forceRelease_kept kept proper
      exact ⟨sound, sound.unchanged, promise⟩

end

theorem step_kept (event : Event) (self : EventChannelManager) (kept : Kept self)
    (proper : Proper event self) : Kept (step event self) := by
  unfold step
  rw [if_neg (by simp [kept.defined])]
  exact (perform_kept kept event proper).1.kept

theorem kept_initial (domainContext : String) : Kept (initial domainContext) where
  table := ⟨List.nodup_nil, (fun _ member => nomatch member), (fun _ member => nomatch member),
    (fun _ member => nomatch member)⟩
  belongs _ member := nomatch member
  logged _ member := nomatch member
  settled _ member := nomatch member
  numbers _ member := nomatch member
  bounded _ member := nomatch member
  defined := rfl

instance (proxies : ProxyMap) (channelName regId : String) :
    Decidable (OwnOnly proxies channelName regId) :=
  inferInstanceAs (Decidable (∀ entry ∈ proxies, entry.1 = regId → entry.2.channelName = channelName))

def uuid : Uuid := ⟨"7d444840-9dc0-11d1-b245-5ffdce74fad2", by decide⟩

def answered : ProxyAnswers := { resolved := false, admin := true, connects := true }

def subscriptions : List Event :=
  [⟨.create "logs" none, true⟩, ⟨.registerConsumer "logs" "reader" uuid none answered, true⟩,
    ⟨.registerConsumer "alarms" "" uuid none answered, true⟩]

end EventChannelManager

end Redhawk.EventChannels
