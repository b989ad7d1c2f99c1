import Redhawk.EventChannels.ChannelTable

/-!
What a call of the event channel manager can do: to the table alone, to one registration, to the
proxies of one registration id.
-/

namespace Redhawk.EventChannels

open Library List

structure Reshaped (before after : EventChannelManager) : Prop where
  rest : after = { before with channels := after.channels }
  table : TableKept before.channels → TableKept after.channels
  registered : TableKept before.channels → ∀ name regId,
    Registered after.channels name regId ↔ Registered before.channels name regId

structure Registers (before after : EventChannelManager) (channelName regId : String) : Prop where
  rest : after = { before with channels := after.channels }
  table : TableKept before.channels → TableKept after.channels
  registered : TableKept before.channels → ∀ name other,
    Registered after.channels name other ↔
      Registered before.channels name other ∨ name = channelName ∧ other = regId

namespace Reshaped

theorem refl (self : EventChannelManager) : Reshaped self self :=
  ⟨rfl, id, fun _ _ _ => Iff.rfl⟩

theorem registers {self middle next : EventChannelManager} {channelName regId : String}
    (first : Reshaped self middle) (second : Registers middle next channelName regId) :
    Registers self next channelName regId where
  rest := by
    rw [second.rest, first.rest]
  table kept := second.table (first.table kept)
  registered kept name other := by
    rw [second.registered (first.table kept), first.registered kept]

end Reshaped

namespace EventChannelManager

variable {self : EventChannelManager} {available : Bool} {service : Option ManagerError}
  {channelName regId : String}

variable {record : ChannelRegistration}

theorem reshaped_modify (member : record ∈ self.channels) {change : ChannelRegistration → ChannelRegistration}
    (names : ∀ old, (change old).channelName = old.channelName)
    (same : ∀ old, (change old).registrants = old.registrants) :
    Reshaped self (self.modify record change) where
  rest := rfl
  table kept := by
    apply tableKept_modify kept names
    intro old oldMember _
    rw [same]
    exact ⟨kept.distinct old oldMember, kept.nonempty old oldMember⟩
  registered kept name other := by
    rw [registered_modify kept member names, same]
    split_ifs with isName
    · constructor
      · intro registered
        exact ⟨record, member, isName.symm, registered⟩
      · rintro ⟨old, oldMember, oldName, registered⟩
        have own := inj_on_of_nodup_map kept.names oldMember member (oldName.trans isName)
        exact own ▸ registered
    · exact Iff.rfl

theorem createChannel_cases (self : EventChannelManager) (available : Bool)
    (service : Option ManagerError) (channelName : String) (autoRelease : Bool) :
    (∃ error, self.createChannel available service channelName autoRelease = (self, .raised error)) ∨
    ∃ record : ChannelRegistration, record.channelName = channelName ∧ record.release = false ∧
      record.registrants = [] ∧ available = true ∧ validateChannelName channelName = true ∧
      self.getChannelRegistration channelName = none ∧ service = none ∧
      self.createChannel available service channelName autoRelease =
        ({ self with channels := self.channels ++ [record] }, .done) := by
  unfold createChannel
  split_ifs with isAvailable isValid doesExist
  · exact .inl ⟨_, rfl⟩
  · exact .inl ⟨_, rfl⟩
  · exact .inl ⟨_, rfl⟩
  · rw [Bool.not_eq_false] at isAvailable isValid
    have isPlain := plain_of_valid isValid
    rw [channelExists_plain isPlain, Bool.not_eq_true, Option.isSome_eq_false_iff,
      Option.isNone_iff_eq_none] at doesExist
    cases service with
    | some error => exact .inl ⟨_, rfl⟩
    | none =>
        refine .inr ⟨⟨channelName, self.getFQN channelName, autoRelease, false, []⟩, rfl, rfl, rfl,
          isAvailable, isValid, doesExist, rfl, ?_⟩
        rw [getChannelRegistration_plain isPlain, find?_eq_none] at doesExist
        have unknown : ¬(self.channels.any fun record => record.channelName == channelName) := by
          rw [any_eq_true]
          rintro ⟨record, member, same⟩
          exact doesExist record member same
        simp only [addChannelRegistration]
        rw [if_neg unknown]

theorem reshaped_append (isPlain : isQualified record.channelName = false) (empty : record.registrants = [])
    (unknown : self.getChannelRegistration record.channelName = none) :
    Reshaped self { self with channels := self.channels ++ [record] } where
  rest := rfl
  table kept := by
    constructor
    · rw [map_append, map_singleton, nodup_append_comm]
      rw [singleton_append, nodup_cons]
      refine ⟨?_, kept.names⟩
      rw [mem_map]
      rintro ⟨old, member, same⟩
      have found := getChannelRegistration_own kept member
      rw [same, unknown] at found
      cases found
    all_goals
      intro other member
      rcases mem_append.mp member with old | new
    · exact kept.plain other old
    · rw [mem_singleton.mp new]
      exact isPlain
    · exact kept.distinct other old
    · rw [mem_singleton.mp new, empty]
      exact nodup_nil
    · exact kept.nonempty other old
    · rw [mem_singleton.mp new, empty]
      exact not_mem_nil
  registered _ name other := by
    constructor
    · rintro ⟨found, member, sameName, registered⟩
      rcases mem_append.mp member with old | new
      · exact ⟨found, old, sameName, registered⟩
      · rw [mem_singleton.mp new, empty] at registered
        cases registered
    · rintro ⟨found, member, sameName, registered⟩
      exact ⟨found, mem_append_left _ member, sameName, registered⟩

theorem createChannel_reshaped (self : EventChannelManager) (available : Bool)
    (service : Option ManagerError) (channelName : String) (autoRelease : Bool) :
    Reshaped self (self.createChannel available service channelName autoRelease).1 := by
  rcases createChannel_cases self available service channelName autoRelease with
    ⟨error, raised⟩ | ⟨record, rfl, _, empty, _, isValid, unknown, _, created⟩
  · rw [raised]
    exact .refl self
  · rw [created]
    exact reshaped_append (plain_of_valid isValid) empty unknown

def canRegister (self : EventChannelManager) (available : Bool) (service : Option ManagerError)
    (channelName regId : String) : Prop :=
  available = true ∧ self.regIdExists channelName regId = false ∧ validateChannelName channelName = true ∧
    match self.getChannelRegistration channelName with
    | some record => record.release = false
    | none => service = none

theorem registers_modify (member : record ∈ self.channels)
    (isNew : regId ∉ record.registrants) (named : regId ≠ "") :
    Registers self (self.modify record fun old =>
      { old with registrants := old.registrants ++ [regId] }) record.channelName regId where
  rest := rfl
  table kept := by
    apply tableKept_modify kept
    · intro old
      rfl
    · intro old oldMember same
      have own := inj_on_of_nodup_map kept.names oldMember member same
      subst own
      constructor
      · rw [nodup_append_comm, singleton_append, nodup_cons]
        exact ⟨isNew, kept.distinct old oldMember⟩
      · rw [mem_append, mem_singleton, not_or]
        exact ⟨kept.nonempty old oldMember, named.symm⟩
  registered kept name other := by
    have names : ∀ old : ChannelRegistration, ({ old with
        registrants := old.registrants ++ [regId] } : ChannelRegistration).channelName =
        old.channelName := fun _ => rfl
    rw [registered_modify kept member names]
    split_ifs with isName
    · subst isName
      rw [mem_append, mem_singleton]
      constructor
      · rintro (old | new)
        · exact .inl ⟨record, member, rfl, old⟩
        · exact .inr ⟨rfl, new⟩
      · rintro (⟨old, oldMember, oldName, registered⟩ | ⟨_, new⟩)
        · have own := inj_on_of_nodup_map kept.names oldMember member oldName
          exact .inl (own ▸ registered)
        · exact .inr new
    · constructor
      · exact .inl
      · rintro (old | ⟨sameName, _⟩)
        · exact old
        · exact absurd sameName isName

theorem not_registered (found : self.getChannelRegistration channelName = some record) (named : regId ≠ "")
    (isNew : self.regIdExists channelName regId = false) : regId ∉ record.registrants := by
  intro registered
  simp [regIdExists, found, named, registered] at isNew

section

variable (self : EventChannelManager) (available : Bool) (service : Option ManagerError)

theorem registerResource_cases (channelName : String) (named : regId ≠ "") :
    (∃ next error, Reshaped self next ∧
      self.registerResource available service channelName regId = (next, .raised error)) ∨
    ∃ next, self.canRegister available service channelName regId ∧ Registers self next channelName regId ∧
      self.registerResource available service channelName regId = (next, .done) := by
  unfold registerResource canRegister
  split_ifs with isAvailable doesExist isValid
  · exact .inl ⟨self, _, .refl self, rfl⟩
  · exact .inl ⟨self, _, .refl self, rfl⟩
  · exact .inl ⟨self, _, .refl self, rfl⟩
  · rw [Bool.not_eq_false] at isAvailable isValid
    rw [Bool.not_eq_true] at doesExist
    cases found : self.getChannelRegistration channelName with
    | some record =>
        dsimp only
        cases released : record.release with
        | true => exact .inl ⟨self, _, .refl self, rfl⟩
        | false =>
            refine .inr ⟨_, ⟨isAvailable, doesExist, isValid, rfl⟩, ?_, rfl⟩
            have registers := registers_modify (getChannelRegistration_mem found)
              (not_registered found named doesExist) named
            rwa [name_of_valid isValid found] at registers
    | none =>
        rcases createChannel_cases self available service channelName false with
          ⟨error, raised⟩ | ⟨record, rfl, _, empty, _, _, _, served, created⟩
        · rw [raised]
          cases error <;> exact .inl ⟨self, _, .refl self, rfl⟩
        · rw [created]
          have reshaped := reshaped_append (plain_of_valid isValid) empty found
          have foundNew : ({ self with channels := self.channels ++ [record] } :
              EventChannelManager).getChannelRegistration record.channelName = some record := by
            rw [getChannelRegistration_plain (plain_of_valid isValid)] at found ⊢
            simp [find?_append, found]
          simp only [foundNew]
          refine .inr ⟨_, ⟨isAvailable, doesExist, isValid, served⟩, ?_, rfl⟩
          apply reshaped.registers
          apply registers_modify (getChannelRegistration_mem foundNew) _ named
          rw [empty]
          exact not_mem_nil

theorem getOrCreate_cases (resolved : Bool) (channelName regId : String) :
    (∃ next error, Reshaped self next ∧
      self.getOrCreate available service resolved channelName = (next, .raised error)) ∨
    ∃ next, Reshaped self next ∧
      (next.canRegister available service channelName regId →
        self.canRegister available service channelName regId) ∧
      self.getOrCreate available service resolved channelName = (next, .done) := by
  unfold getOrCreate
  split_ifs
  · exact .inl ⟨self, _, .refl self, rfl⟩
  · exact .inr ⟨self, .refl self, id, rfl⟩
  · exact .inr ⟨self, .refl self, id, rfl⟩
  · rcases createChannel_cases self available service channelName false with
      ⟨error, raised⟩ | ⟨record, rfl, _, empty, isAvailable, isValid, unknown, served, created⟩
    · rw [raised]
      exact .inl ⟨self, _, .refl self, rfl⟩
    · rw [created]
      refine .inr ⟨_, reshaped_append (plain_of_valid isValid) empty unknown, ?_, rfl⟩
      intro _
      refine ⟨isAvailable, ?_, isValid, ?_⟩
      · simp [regIdExists, unknown]
      · rw [unknown]
        exact served

end

end EventChannelManager

end Redhawk.EventChannels
