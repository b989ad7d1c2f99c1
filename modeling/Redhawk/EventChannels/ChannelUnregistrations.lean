import Redhawk.EventChannels.ChannelRegistrations

/-!
Unregistering ids of one channel: one id, and all of them when the channel is released by force.
-/

namespace Redhawk.EventChannels

open Library List

def EventChannelManager.proxies (self : EventChannelManager) : ProxyMap :=
  self.subProxies ++ self.pubProxies

structure Unregisters (before after : EventChannelManager) (name : String) (ids : List String) :
    Prop where
  table : TableKept before.channels → TableKept after.channels
  registered : TableKept before.channels → ∀ other regId,
    Registered after.channels other regId ↔ Registered before.channels other regId ∧ ¬(other = name ∧ regId ∈ ids)
  proxies : ∀ entry, entry ∈ after.proxies ↔ entry ∈ before.proxies ∧ entry.1 ∉ ids
  disconnected : ∀ number, number ∈ after.disconnected ↔ number ∈ before.disconnected ∨
    ∃ entry ∈ before.proxies, entry.1 ∈ ids ∧ entry.2.number = number
  obtained : after.obtained = before.obtained
  established : after.established = before.established
  defined : after.undefined = before.undefined

theorem Reshaped.unregisters {before after : EventChannelManager} (reshaped : Reshaped before after)
    (name : String) : Unregisters before after name [] where
  table := reshaped.table
  registered kept other regId := by
    rw [reshaped.registered kept]
    simp
  proxies entry := by
    rw [reshaped.rest]
    simp [EventChannelManager.proxies]
  disconnected number := by
    rw [reshaped.rest]
    simp
  obtained := by
    rw [reshaped.rest]
  established := by
    rw [reshaped.rest]
  defined := by
    rw [reshaped.rest]

theorem Unregisters.trans {before middle after : EventChannelManager} {name : String}
    {first second ids : List String} (one : Unregisters before middle name first)
    (two : Unregisters middle after name second)
    (all : ∀ regId, regId ∈ ids ↔ regId ∈ first ∨ regId ∈ second) :
    Unregisters before after name ids where
  table kept := two.table (one.table kept)
  registered kept other regId := by
    rw [two.registered (one.table kept), one.registered kept, all]
    tauto
  proxies entry := by
    rw [two.proxies, one.proxies, all]
    tauto
  disconnected number := by
    rw [two.disconnected, one.disconnected]
    constructor
    · rintro ((old | ⟨entry, member, isFirst, same⟩) | ⟨entry, member, isSecond, same⟩)
      · exact .inl old
      · exact .inr ⟨entry, member, (all _).mpr (.inl isFirst), same⟩
      · exact .inr ⟨entry, ((one.proxies entry).mp member).1, (all _).mpr (.inr isSecond), same⟩
    · rintro (old | ⟨entry, member, isOne, same⟩)
      · exact .inl (.inl old)
      · by_cases isFirst : entry.1 ∈ first
        · exact .inl (.inr ⟨entry, member, isFirst, same⟩)
        · have isSecond := ((all _).mp isOne).resolve_left isFirst
          exact .inr ⟨entry, (one.proxies entry).mpr ⟨member, isFirst⟩, isSecond, same⟩
  obtained := two.obtained.trans one.obtained
  established := two.established.trans one.established
  defined := two.defined.trans one.defined

namespace EventChannelManager

variable {self : EventChannelManager} {cname regId : String}

theorem mem_dropProxies {entry : String × Proxy} :
    entry ∈ (self.dropProxies regId).proxies ↔ entry ∈ self.proxies ∧ entry.1 ∉ [regId] := by
  simp only [proxies, dropProxies, mem_append, mem_filter, decide_eq_true_eq, mem_singleton]
  tauto

theorem disconnected_dropProxies {number : Nat} :
    number ∈ (self.dropProxies regId).disconnected ↔ number ∈ self.disconnected ∨
      ∃ entry ∈ self.proxies, entry.1 ∈ [regId] ∧ entry.2.number = number := by
  simp only [proxies, dropProxies, mem_append, mem_map, mem_filter,
    decide_eq_true_eq, mem_singleton, and_assoc]

theorem dropProxies_of_none (none : ∀ entry ∈ self.proxies, entry.1 ≠ regId) :
    self.dropProxies regId = self := by
  have subs : self.subProxies.filter (fun entry => entry.1 ≠ regId) = self.subProxies := by
    rw [filter_eq_self]
    intro entry member
    exact decide_eq_true (none entry (mem_append_left _ member))
  have pubs : self.pubProxies.filter (fun entry => entry.1 ≠ regId) = self.pubProxies := by
    rw [filter_eq_self]
    intro entry member
    exact decide_eq_true (none entry (mem_append_right _ member))
  have found : (self.subProxies ++ self.pubProxies).filter (fun entry => entry.1 = regId) = [] := by
    rw [filter_eq_nil_iff]
    intro entry member
    simpa using none entry member
  unfold dropProxies
  rw [subs, pubs, found]
  simp

def eraseId (record : ChannelRegistration) (regId : String) : ChannelRegistration :=
  { record with registrants := record.registrants.filter fun other => other ≠ regId }

variable {record : ChannelRegistration}

theorem unregisters_modify (member : record ∈ self.channels) (regId : String) :
    Unregisters self ((self.dropProxies regId).modify record fun old => eraseId old regId)
      record.channelName [regId] where
  table kept := by
    apply @tableKept_modify (self.dropProxies regId) _ _ kept
    · intro old
      rfl
    · intro old oldMember _
      refine ⟨(kept.distinct old oldMember).filter _, ?_⟩
      intro empty
      exact kept.nonempty old oldMember (mem_filter.mp empty).1
  registered kept other id := by
    have names : ∀ old, (eraseId old regId).channelName = old.channelName := fun _ => rfl
    rw [@registered_modify (self.dropProxies regId) _ _ kept member names, mem_singleton]
    split_ifs with isName
    · subst isName
      have erased : id ∈ (eraseId record regId).registrants ↔ id ∈ record.registrants ∧ id ≠ regId := by
        simp [eraseId]
      rw [erased]
      constructor
      · rintro ⟨old, differs⟩
        exact ⟨⟨record, member, rfl, old⟩, fun same => differs same.2⟩
      · rintro ⟨⟨old, oldMember, oldName, registered⟩, differs⟩
        have own := inj_on_of_nodup_map kept.names oldMember member oldName
        exact ⟨own ▸ registered, fun same => differs ⟨rfl, same⟩⟩
    · constructor
      · intro registered
        exact ⟨registered, fun same => isName same.1⟩
      · exact And.left
  proxies _ := mem_dropProxies
  disconnected _ := disconnected_dropProxies
  obtained := rfl
  established := rfl
  defined := rfl

theorem reshaped_delete (empty : TableKept self.channels → ∀ record ∈ self.channels,
    record.channelName = cname → record.registrants = []) :
    Reshaped self (self.deleteChannelRegistration cname) where
  rest := rfl
  table kept := tableKept_delete kept cname
  registered kept name other := by
    rw [registered_delete]
    constructor
    · exact And.left
    · rintro ⟨record, member, sameName, registered⟩
      refine ⟨⟨record, member, sameName, registered⟩, ?_⟩
      intro isDeleted
      rw [empty kept record member (sameName.trans isDeleted)] at registered
      cases registered

theorem eq_of_resolves (kept : TableKept self.channels) {other : ChannelRegistration}
    (found : self.getChannelRegistration cname = some record) (member : other ∈ self.channels)
    (named : other.channelName = cname) : other = record := by
  have own := getChannelRegistration_own kept member
  rw [named, found, Option.some.injEq] at own
  exact own.symm

theorem unregisters_delete (found : self.getChannelRegistration cname = some record)
    (isLast : record.registrants.filter (fun other => other ≠ regId) = []) :
    Unregisters self (((self.dropProxies regId).modify record
      fun old => eraseId old regId).deleteChannelRegistration cname) record.channelName [regId] := by
  have one := unregisters_modify (getChannelRegistration_mem found) regId
  refine { one with table := fun kept => tableKept_delete (one.table kept) cname, registered := ?_ }
  intro kept name other
  rw [registered_delete, one.registered kept]
  constructor
  · exact And.left
  · rintro ⟨⟨old, member, sameName, registered⟩, differs⟩
    refine ⟨⟨⟨old, member, sameName, registered⟩, differs⟩, ?_⟩
    intro isDeleted
    have own := eq_of_resolves kept found member (sameName.trans isDeleted)
    subst own
    have isGone := filter_eq_nil_iff.mp isLast other registered
    exact differs ⟨sameName.symm, by simpa using isGone⟩

theorem unregisterId_cases (self : EventChannelManager) (cname regId : String) :
    (∃ error, self.unregisterId cname regId = (self.dropProxies regId, .raised error) ∧
      (regId ≠ "" → ∀ record, self.getChannelRegistration cname = some record → regId ∉ record.registrants)) ∨
    ∃ record next, self.getChannelRegistration cname = some record ∧
      Unregisters self next record.channelName [regId] ∧
      self.unregisterId cname regId = (next, .done) := by
  unfold unregisterId
  have lookup : (self.dropProxies regId).getChannelRegistration cname =
      self.getChannelRegistration cname := rfl
  by_cases isEmpty : regId = ""
  · rw [if_pos isEmpty]
    exact .inl ⟨_, rfl, fun named => absurd isEmpty named⟩
  · rw [if_neg isEmpty, lookup]
    cases found : self.getChannelRegistration cname with
    | none =>
        refine .inl ⟨_, rfl, ?_⟩
        rintro _ record ⟨⟩
    | some record =>
        dsimp only
        split_ifs with unknown isLast
        · refine .inl ⟨_, rfl, ?_⟩
          rintro _ other ⟨⟩
          simpa using unknown
        · exact .inr ⟨record, _, rfl, unregisters_delete found isLast.1, rfl⟩
        · exact .inr ⟨record, _, rfl, unregisters_modify (getChannelRegistration_mem found) _, rfl⟩

theorem unregisterId_stays (kept : TableKept self.channels)
    (member : record ∈ self.channels) (registered : regId ∈ record.registrants)
    (stays : record.autoRelease = false) :
    self.unregisterId record.channelName regId =
      ((self.dropProxies regId).modify record fun old => eraseId old regId, .done) := by
  have named : regId ≠ "" := by
    rintro rfl
    exact kept.nonempty record member registered
  have found : (self.dropProxies regId).getChannelRegistration record.channelName = some record :=
    getChannelRegistration_own kept member
  unfold unregisterId
  rw [if_neg named, found]
  dsimp only
  rw [if_neg (by simp [registered]), if_neg (by simp [stays])]
  rfl

theorem unregisterAll_keeps (ids : List String) (kept : TableKept self.channels) (member : record ∈ self.channels)
    (stays : record.autoRelease = true → ids = []) (all : record.registrants = ids) :
    ∃ next final, unregisterAll record.channelName record.channelName ids self = (next, .done) ∧
      Unregisters self next record.channelName ids ∧ final ∈ next.channels ∧
      final.channelName = record.channelName ∧ final.registrants = [] := by
  induction ids generalizing self record with
  | nil => exact ⟨self, record, rfl, (Reshaped.refl self).unregisters _, member, rfl, all⟩
  | cons regId rest ih =>
      have keeps : record.autoRelease = false := by
        rw [← Bool.not_eq_true]
        intro auto
        cases stays auto
      have registered : regId ∈ record.registrants := by
        rw [all]
        exact mem_cons_self
      have one := unregisters_modify member regId
      have erased : eraseId record regId ∈ ((self.dropProxies regId).modify record
          fun old => eraseId old regId).channels :=
        mem_modify.mpr ⟨record, member, if_pos rfl⟩
      have left : (eraseId record regId).registrants = rest := by
        have distinct := kept.distinct record member
        rw [all, nodup_cons] at distinct
        simp only [eraseId, all]
        rw [filter_cons_of_neg (by simp), filter_eq_self]
        intro other isOther
        refine decide_eq_true ?_
        rintro rfl
        exact distinct.1 isOther
      obtain ⟨next, final, result, unregisters, finalMember, finalName, isEmpty⟩ :=
        ih (one.table kept) erased (fun auto => absurd (keeps.symm.trans auto) (by decide)) left
      refine ⟨next, final, ?_, one.trans unregisters ?_, finalMember, finalName, isEmpty⟩
      · have remains : ((self.dropProxies regId).modify record
            fun old => eraseId old regId).channels.any
              (fun other => other.channelName == record.channelName) = true :=
          any_eq_true.mpr ⟨_, erased, beq_iff_eq.mpr rfl⟩
        rw [unregisterAll, unregisterId_stays kept member registered keeps]
        dsimp only
        rw [if_pos remains]
        exact result
      · intro id
        rw [mem_cons, mem_singleton]

theorem releaseChannel_cases (self : EventChannelManager) (available : Bool) (cname : String) :
    (∃ next error, Reshaped self next ∧ self.releaseChannel available cname = (next, .raised error)) ∨
    Reshaped self (self.deleteChannelRegistration cname) ∧
      self.releaseChannel available cname = (self.deleteChannelRegistration cname, .done) := by
  unfold releaseChannel
  split_ifs with isAvailable
  · exact .inl ⟨self, _, .refl self, rfl⟩
  · cases found : self.getChannelRegistration cname with
    | none => exact .inl ⟨self, _, .refl self, rfl⟩
    | some record =>
        dsimp only
        split_ifs with inUse
        · refine .inl ⟨_, _, ?_, rfl⟩
          apply reshaped_modify (getChannelRegistration_mem found)
          · intro old
            rfl
          · intro old
            rfl
        · refine .inr ⟨?_, rfl⟩
          apply reshaped_delete
          intro kept other member named
          rw [eq_of_resolves kept found member named]
          exact length_eq_zero_iff.mp (by omega)

theorem releaseChannel_done
    (found : self.getChannelRegistration cname = some record) (unused : record.registrants = []) :
    self.releaseChannel true cname = (self.deleteChannelRegistration cname, .done) := by
  simp [releaseChannel, found, unused]

theorem deleted_gone : cname ∉ (self.deleteChannelRegistration cname).channels.map
    ChannelRegistration.channelName := by
  rw [mem_map]
  rintro ⟨record, member, same⟩
  exact of_decide_eq_true (mem_filter.mp member).2 same

theorem forceRelease_done (kept : TableKept self.channels) (member : record ∈ self.channels)
    (stays : record.autoRelease = true → record.registrants = []) :
    ∃ next, self.forceRelease true record.channelName = (next, .done) ∧
      Unregisters self next record.channelName record.registrants ∧
      record.channelName ∉ next.channels.map ChannelRegistration.channelName := by
  obtain ⟨middle, final, result, unregisters, finalMember, finalName, unused⟩ :=
    unregisterAll_keeps record.registrants kept member stays rfl
  have found := getChannelRegistration_own (unregisters.table kept) finalMember
  rw [finalName] at found
  have released := releaseChannel_done found unused
  refine ⟨middle.deleteChannelRegistration record.channelName, ?_, ?_, deleted_gone⟩
  · unfold forceRelease
    rw [getChannelRegistration_own kept member]
    simp only [result, released]
    rfl
  · have reshaped : Reshaped middle (middle.deleteChannelRegistration record.channelName) := by
      apply reshaped_delete
      intro keptMiddle other otherMember named
      rw [eq_of_resolves keptMiddle found otherMember named]
      exact unused
    apply unregisters.trans (reshaped.unregisters _)
    intro regId
    simp

end EventChannelManager

end Redhawk.EventChannels
