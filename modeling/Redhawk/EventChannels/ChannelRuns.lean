import Redhawk.EventChannels.ChannelUnregistrations

/-!
The runs of the event channel manager in which its registrations and its proxies agree.
-/

namespace Redhawk.EventChannels

open Library List

def OwnOnly (proxies : ProxyMap) (channelName regId : String) : Prop :=
  ∀ entry ∈ proxies, entry.1 = regId → entry.2.channelName = channelName

namespace EventChannelManager

structure Kept (state : EventChannelManager) : Prop where
  table : TableKept state.channels
  belongs : ∀ entry ∈ state.proxies, Registered state.channels entry.2.channelName entry.1
  logged : ∀ entry ∈ state.proxies, entry ∈ state.established
  settled : ∀ entry ∈ state.established, entry ∈ state.proxies ∨ entry.2.number ∈ state.disconnected
  numbers : ∀ first ∈ state.established, ∀ second ∈ state.established,
    first.2.number = second.2.number → first = second
  bounded : ∀ entry ∈ state.established, entry.2.number < state.obtained
  defined : state.undefined = false

variable {self next : EventChannelManager} {channelName regId : String}

theorem kept_reshaped (kept : Kept self) (reshaped : Reshaped self next) : Kept next := by
  have rest := reshaped.rest
  have registered := reshaped.registered kept.table
  constructor
  · exact reshaped.table kept.table
  · rw [rest]
    intro entry member
    exact (registered _ _).mpr (kept.belongs entry member)
  all_goals rw [rest]
  · exact kept.logged
  · exact kept.settled
  · exact kept.numbers
  · exact kept.bounded
  · exact kept.defined

theorem kept_registers (kept : Kept self) (registers : Registers self next channelName regId) :
    Kept next := by
  have rest := registers.rest
  have registered := registers.registered kept.table
  constructor
  · exact registers.table kept.table
  · rw [rest]
    intro entry member
    exact (registered _ _).mpr (.inl (kept.belongs entry member))
  all_goals rw [rest]
  · exact kept.logged
  · exact kept.settled
  · exact kept.numbers
  · exact kept.bounded
  · exact kept.defined

theorem kept_disconnect (kept : Kept self) (number : Nat) :
    Kept { self with disconnected := self.disconnected ++ [number] } := by
  refine { kept with settled := ?_ }
  intro entry member
  rcases kept.settled entry member with isKept | gone
  · exact .inl isKept
  · exact .inr (mem_append_left _ gone)

theorem kept_unregisters {ids : List String} (kept : Kept self)
    (unregisters : Unregisters self next channelName ids) : Kept next := by
  constructor
  · exact unregisters.table kept.table
  · intro entry member
    obtain ⟨old, others⟩ := (unregisters.proxies entry).mp member
    rw [unregisters.registered kept.table]
    exact ⟨kept.belongs entry old, fun same => others same.2⟩
  · intro entry member
    rw [unregisters.established]
    exact kept.logged entry ((unregisters.proxies entry).mp member).1
  · intro entry member
    rw [unregisters.established] at member
    rw [unregisters.proxies, unregisters.disconnected]
    rcases kept.settled entry member with isKept | gone
    · by_cases isOne : entry.1 ∈ ids
      · exact .inr (.inr ⟨entry, isKept, isOne, rfl⟩)
      · exact .inl ⟨isKept, isOne⟩
    · exact .inr (.inl gone)
  · rw [unregisters.established]
    exact kept.numbers
  · rw [unregisters.established, unregisters.obtained]
    exact kept.bounded
  · exact unregisters.defined.trans kept.defined

theorem insertProxy_of_new {proxies : ProxyMap} {proxy : Proxy} (isNew : ∀ entry ∈ proxies, entry.1 ≠ regId) :
    insertProxy proxies regId proxy = proxies ++ [(regId, proxy)] := by
  have same : proxies.filter (fun entry => entry.1 ≠ regId) = proxies := by
    rw [filter_eq_self]
    intro entry member
    exact decide_eq_true (isNew entry member)
  rw [insertProxy, same]

theorem kept_establish {subProxies pubProxies : ProxyMap} {proxy : Proxy} (kept : Kept self)
    (registered : Registered self.channels proxy.channelName regId)
    (isNew : ∀ entry ∈ self.established, entry.2.number ≠ proxy.number)
    (isBounded : proxy.number < self.obtained)
    (proxies : ∀ entry, entry ∈ subProxies ++ pubProxies ↔ entry ∈ self.proxies ∨ entry = (regId, proxy)) :
    Kept { self with
      subProxies := subProxies
      pubProxies := pubProxies
      established := self.established ++ [(regId, proxy)] } := by
  have established : ∀ entry, entry ∈ self.established ++ [(regId, proxy)] ↔
      entry ∈ self.established ∨ entry = (regId, proxy) := by
    intro entry
    rw [mem_append, mem_singleton]
  constructor
  · exact kept.table
  · intro entry member
    rcases (proxies entry).mp member with old | rfl
    · exact kept.belongs entry old
    · exact registered
  · intro entry member
    rcases (proxies entry).mp member with old | rfl
    · exact (established _).mpr (.inl (kept.logged entry old))
    · exact (established _).mpr (.inr rfl)
  · intro entry member
    rcases (established entry).mp member with old | rfl
    · rcases kept.settled entry old with isKept | gone
      · exact .inl ((proxies entry).mpr (.inl isKept))
      · exact .inr gone
    · exact .inl ((proxies _).mpr (.inr rfl))
  · intro first firstMember second secondMember same
    rcases (established first).mp firstMember with firstOld | rfl
    · rcases (established second).mp secondMember with secondOld | rfl
      · exact kept.numbers first firstOld second secondOld same
      · exact absurd same (isNew first firstOld)
    · rcases (established second).mp secondMember with secondOld | rfl
      · exact absurd same.symm (isNew second secondOld)
      · rfl
  · intro entry member
    rcases (established entry).mp member with old | rfl
    · exact kept.bounded entry old
    · exact isBounded
  · exact kept.defined

structure Unchanged (before after : EventChannelManager) : Prop where
  registered : ∀ name regId, Registered after.channels name regId ↔ Registered before.channels name regId
  subProxies : after.subProxies = before.subProxies
  pubProxies : after.pubProxies = before.pubProxies

/-- What every call does: the books stay in order, and a call that raises changes nothing. -/
structure Sound (before : EventChannelManager) (result : EventChannelManager × Outcome) : Prop where
  kept : Kept result.1
  unchanged : ∀ error, result.2 = .raised error → Unchanged before result.1

theorem unchanged_reshaped (kept : Kept self) (reshaped : Reshaped self next) : Unchanged self next where
  registered := reshaped.registered kept.table
  subProxies := by
    rw [reshaped.rest]
  pubProxies := by
    rw [reshaped.rest]

theorem sound_reshaped {outcome : Outcome} (kept : Kept self) (reshaped : Reshaped self next) :
    Sound self (next, outcome) where
  kept := kept_reshaped kept reshaped
  unchanged _ _ := unchanged_reshaped kept reshaped

variable {available : Bool} {service : Option ManagerError}

theorem not_registered_of_canRegister (kept : TableKept self.channels) (named : regId ≠ "")
    (can : self.canRegister available service channelName regId) :
    ¬Registered self.channels channelName regId := by
  rintro ⟨record, member, sameName, registered⟩
  have found := getChannelRegistration_own kept member
  rw [sameName] at found
  exact not_registered found named can.2.1 registered

theorem isNew_of_canRegister (kept : Kept self)
    (named : regId ≠ "") (can : self.canRegister available service channelName regId)
    {proxies : ProxyMap} (some : proxies ⊆ self.proxies) (own : OwnOnly proxies channelName regId) :
    ∀ entry ∈ proxies, entry.1 ≠ regId := by
  intro entry member same
  have belongs := kept.belongs entry (some member)
  rw [own entry member same, same] at belongs
  exact not_registered_of_canRegister kept.table named can belongs

theorem unchanged_trans {middle : EventChannelManager} (first : Unchanged self middle)
    (second : Unchanged middle next) : Unchanged self next where
  registered name regId := (second.registered name regId).trans (first.registered name regId)
  subProxies := second.subProxies.trans first.subProxies
  pubProxies := second.pubProxies.trans first.pubProxies

/-- What a registration for a proxy starts from: the channel was found or created and the proxy
was obtained. -/
structure Obtained (before after : EventChannelManager) (number : Nat) : Prop where
  kept : Kept after
  unchanged : Unchanged before after
  bounded : number < after.obtained
  unused : ∀ entry ∈ after.established, entry.2.number ≠ number

theorem obtained_of_reshaped (kept : Kept self) (reshaped : Reshaped self next) :
    Obtained self { next with obtained := next.obtained + 1 } next.obtained where
  kept := { kept_reshaped kept reshaped with
    bounded := fun entry member => Nat.lt_succ_of_lt ((kept_reshaped kept reshaped).bounded entry member) }
  unchanged :=
    have same := unchanged_reshaped kept reshaped
    ⟨same.registered, same.subProxies, same.pubProxies⟩
  bounded := Nat.lt_succ_self _
  unused entry member := Nat.ne_of_lt ((kept_reshaped kept reshaped).bounded entry member)

theorem kept_insert {last : EventChannelManager} (subProxies pubProxies : ProxyMap) {number : Nat}
    (obtained : Obtained self next number) (registers : Registers next last channelName regId)
    (proxies : ∀ entry, entry ∈ subProxies ++ pubProxies ↔
      entry ∈ last.proxies ∨ entry = (regId, ⟨number, channelName⟩)) :
    Kept { last with
      subProxies := subProxies
      pubProxies := pubProxies
      established := last.established ++ [(regId, ⟨number, channelName⟩)] } := by
  have sameEstablished : last.established = next.established := by
    rw [registers.rest]
  have sameObtained : last.obtained = next.obtained := by
    rw [registers.rest]
  apply kept_establish (kept_registers obtained.kept registers) _ _ _ proxies
  · exact (registers.registered obtained.kept.table _ _).mpr (.inr ⟨rfl, rfl⟩)
  · rw [sameEstablished]
    exact obtained.unused
  · rw [sameObtained]
    exact obtained.bounded

theorem registerConsumer_sound {answers : ProxyAnswers} (kept : Kept self) (named : regId ≠ "")
    (proper : self.canRegister available service channelName regId → answers.admin = true →
      answers.connects = true → OwnOnly self.subProxies channelName regId) :
    Sound self (self.registerConsumer available service answers channelName regId) := by
  unfold registerConsumer
  rcases getOrCreate_cases self available service answers.resolved channelName regId with
    ⟨middle, error, reshaped, raised⟩ | ⟨middle, reshaped, transfer, gotten⟩
  · rw [raised]
    exact sound_reshaped kept reshaped
  · rw [gotten]
    have obtained := obtained_of_reshaped kept reshaped
    cases admin : answers.admin with
    | false => exact sound_reshaped kept reshaped
    | true =>
        cases connects : answers.connects with
        | false => exact ⟨obtained.kept, fun _ _ => obtained.unchanged⟩
        | true =>
            rcases registerResource_cases { middle with obtained := middle.obtained + 1 }
              available service channelName named with
              ⟨last, error, reshapedLast, raised⟩ | ⟨last, can, registers, done⟩
            · simp only [raised]
              have same := unchanged_trans obtained.unchanged
                (unchanged_reshaped obtained.kept reshapedLast)
              refine ⟨kept_disconnect (kept_reshaped obtained.kept reshapedLast) _, ?_⟩
              intro _ _
              exact ⟨same.registered, same.subProxies, same.pubProxies⟩
            · simp only [done]
              have canSelf := transfer can
              have isNew := isNew_of_canRegister kept named canSelf
                (subset_append_left _ _) (proper canSelf admin connects)
              have sameSubs : last.subProxies = self.subProxies := by
                rw [registers.rest]
                exact obtained.unchanged.subProxies
              refine ⟨?_, ?_⟩
              · apply kept_insert (insertProxy last.subProxies regId ⟨middle.obtained, channelName⟩)
                  last.pubProxies obtained registers
                intro entry
                rw [insertProxy_of_new (by rw [sameSubs]; exact isNew), proxies, mem_append,
                  mem_append, mem_append, mem_singleton]
                tauto
              · rintro error ⟨⟩

theorem registerPublisher_sound {answers : ProxyAnswers} (kept : Kept self) (named : regId ≠ "")
    (proper : self.canRegister available service channelName regId → answers.admin = true →
      answers.connects = true ∧ OwnOnly self.pubProxies channelName regId) :
    Sound self (self.registerPublisher available service answers channelName regId) := by
  unfold registerPublisher
  rcases getOrCreate_cases self available service answers.resolved channelName regId with
    ⟨middle, error, reshaped, raised⟩ | ⟨middle, reshaped, transfer, gotten⟩
  · rw [raised]
    exact sound_reshaped kept reshaped
  · rw [gotten]
    have obtained := obtained_of_reshaped kept reshaped
    cases admin : answers.admin with
    | false => exact sound_reshaped kept reshaped
    | true =>
        rcases registerResource_cases { middle with obtained := middle.obtained + 1 }
          available service channelName named with
          ⟨last, error, reshapedLast, raised⟩ | ⟨last, can, registers, done⟩
        · simp only [raised]
          refine ⟨kept_reshaped obtained.kept reshapedLast, ?_⟩
          intro _ _
          exact unchanged_trans obtained.unchanged (unchanged_reshaped obtained.kept reshapedLast)
        · have canSelf := transfer can
          obtain ⟨connects, own⟩ := proper canSelf admin
          simp only [done, connects]
          have isNew := isNew_of_canRegister kept named canSelf
            (subset_append_right _ _) own
          have samePubs : last.pubProxies = self.pubProxies := by
            rw [registers.rest]
            exact obtained.unchanged.pubProxies
          refine ⟨?_, ?_⟩
          · apply kept_insert last.subProxies
              (insertProxy last.pubProxies regId ⟨middle.obtained, channelName⟩) obtained registers
            intro entry
            rw [insertProxy_of_new (by rw [samePubs]; exact isNew), proxies, mem_append,
              mem_append, mem_append, mem_singleton]
            tauto
          · rintro error ⟨⟩

end EventChannelManager

end Redhawk.EventChannels
