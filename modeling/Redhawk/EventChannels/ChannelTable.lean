import Redhawk.EventChannels.ChannelManager
import Redhawk.Library.Lists

/-!
The table of channel records: what its operations do to the registrations.
-/

namespace Redhawk.EventChannels

open Library List

def Registered (channels : List ChannelRegistration) (name regId : String) : Prop :=
  ∃ record ∈ channels, record.channelName = name ∧ regId ∈ record.registrants

/-- The table is a map from plain channel names, its registrants are sets of ids. -/
structure TableKept (channels : List ChannelRegistration) : Prop where
  names : (channels.map ChannelRegistration.channelName).Nodup
  plain : ∀ record ∈ channels, isQualified record.channelName = false
  distinct : ∀ record ∈ channels, record.registrants.Nodup
  nonempty : ∀ record ∈ channels, "" ∉ record.registrants

theorem plain_of_valid {cname : String} (valid : validateChannelName cname = true) :
    isQualified cname = false := by
  simp only [validateChannelName, Bool.and_eq_true, Bool.not_eq_true', contains_eq_mem,
    decide_eq_false_iff_not] at valid
  have noDot := valid.1.2
  rw [isQualified, contains_eq_mem, decide_eq_false_iff_not]
  intro dot
  exact noDot (mem_filter.mpr ⟨dot, by decide⟩)

namespace EventChannelManager

variable {self : EventChannelManager} {cname : String} {record : ChannelRegistration}

theorem getChannelRegistration_mem
    (found : self.getChannelRegistration cname = some record) : record ∈ self.channels := by
  unfold getChannelRegistration at found
  rw [Option.orElse_eq_orElse, Option.orElse_eq_or, Option.or_eq_some_iff] at found
  rcases found with byFqn | ⟨_, byName⟩
  · split_ifs at byFqn
    exact mem_of_find?_eq_some byFqn
  · exact mem_of_find?_eq_some byName

theorem getChannelRegistration_plain (isPlain : isQualified cname = false) :
    self.getChannelRegistration cname = self.channels.find? fun record => record.channelName == cname := by
  simp [getChannelRegistration, isPlain]

theorem getChannelRegistration_own (kept : TableKept self.channels) (member : record ∈ self.channels) :
    self.getChannelRegistration record.channelName = some record := by
  rw [getChannelRegistration_plain (kept.plain record member)]
  exact (find?_key kept.names).mpr ⟨member, rfl⟩

theorem name_of_valid (valid : validateChannelName cname = true)
    (found : self.getChannelRegistration cname = some record) : record.channelName = cname := by
  rw [getChannelRegistration_plain (plain_of_valid valid)] at found
  have same := find?_some found
  exact beq_iff_eq.mp same

theorem channelExists_plain (isPlain : isQualified cname = false) :
    self.channelExists cname = (self.getChannelRegistration cname).isSome := by
  rw [getChannelRegistration_plain isPlain, isSome_find?]
  simp [channelExists, isPlain]

section Operations

variable {record : ChannelRegistration} {change : ChannelRegistration → ChannelRegistration}

theorem mem_modify {other : ChannelRegistration} :
    other ∈ (self.modify record change).channels ↔
      ∃ old ∈ self.channels,
        (if old.channelName = record.channelName then change old else old) = other :=
  mem_map

theorem tableKept_modify (kept : TableKept self.channels)
    (names : ∀ old, (change old).channelName = old.channelName)
    (sets : ∀ old ∈ self.channels, old.channelName = record.channelName →
      (change old).registrants.Nodup ∧ "" ∉ (change old).registrants) :
    TableKept (self.modify record change).channels := by
  have sameName : ∀ old : ChannelRegistration,
      (if old.channelName = record.channelName then change old else old).channelName = old.channelName := by
    intro old
    split_ifs
    · exact names old
    · rfl
  constructor
  · have same : (self.modify record change).channels.map ChannelRegistration.channelName =
        self.channels.map ChannelRegistration.channelName := by
      simp only [EventChannelManager.modify, map_map]
      exact map_congr_left fun old _ => sameName old
    rw [same]
    exact kept.names
  · intro other member
    obtain ⟨old, oldMember, rfl⟩ := mem_modify.mp member
    rw [sameName]
    exact kept.plain old oldMember
  · intro other member
    obtain ⟨old, oldMember, rfl⟩ := mem_modify.mp member
    split_ifs with same
    · exact (sets old oldMember same).1
    · exact kept.distinct old oldMember
  · intro other member
    obtain ⟨old, oldMember, rfl⟩ := mem_modify.mp member
    split_ifs with same
    · exact (sets old oldMember same).2
    · exact kept.nonempty old oldMember

theorem registered_modify (kept : TableKept self.channels) (member : record ∈ self.channels)
    (names : ∀ old, (change old).channelName = old.channelName) {name regId : String} :
    Registered (self.modify record change).channels name regId ↔
      if name = record.channelName then regId ∈ (change record).registrants
      else Registered self.channels name regId := by
  have own : ∀ old ∈ self.channels, old.channelName = record.channelName → old = record :=
    fun old oldMember same => inj_on_of_nodup_map kept.names oldMember member same
  split_ifs with same
  · constructor
    · rintro ⟨other, otherMember, otherName, registered⟩
      obtain ⟨old, oldMember, rfl⟩ := mem_modify.mp otherMember
      split_ifs at otherName registered with oldName
      · exact own old oldMember oldName ▸ registered
      · exact absurd (otherName.trans same) oldName
    · intro registered
      refine ⟨change record, mem_modify.mpr ⟨record, member, if_pos rfl⟩, ?_, registered⟩
      rw [names, same]
  · constructor
    · rintro ⟨other, otherMember, otherName, registered⟩
      obtain ⟨old, oldMember, rfl⟩ := mem_modify.mp otherMember
      split_ifs at otherName registered with oldName
      · exact absurd (otherName.symm.trans ((names old).trans oldName)) same
      · exact ⟨old, oldMember, otherName, registered⟩
    · rintro ⟨old, oldMember, oldName, registered⟩
      refine ⟨old, mem_modify.mpr ⟨old, oldMember, if_neg ?_⟩, oldName, registered⟩
      rw [oldName]
      exact same

theorem tableKept_delete (kept : TableKept self.channels) (cname : String) :
    TableKept (self.deleteChannelRegistration cname).channels := by
  have sub : (self.deleteChannelRegistration cname).channels ⊆ self.channels :=
    filter_subset_self _
  exact {
    names := (filter_sublist.map _).nodup kept.names
    plain := fun other member => kept.plain other (sub member)
    distinct := fun other member => kept.distinct other (sub member)
    nonempty := fun other member => kept.nonempty other (sub member) }

theorem registered_delete {cname name regId : String} :
    Registered (self.deleteChannelRegistration cname).channels name regId ↔
      Registered self.channels name regId ∧ name ≠ cname := by
  constructor
  · rintro ⟨other, member, rfl, registered⟩
    obtain ⟨old, differs⟩ := mem_filter.mp member
    exact ⟨⟨other, old, rfl, registered⟩, of_decide_eq_true differs⟩
  · rintro ⟨⟨other, member, rfl, registered⟩, differs⟩
    exact ⟨other, mem_filter.mpr ⟨member, decide_eq_true differs⟩, rfl, registered⟩

end Operations

end EventChannelManager

end Redhawk.EventChannels
