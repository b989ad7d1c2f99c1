import Redhawk.Connections.EventChannels

/-!
The connection counts of event channels against the connections and consumers that they have.
-/

namespace Redhawk.Connections

open Redhawk.Library Endpoint ConnectionNode List Option

def CanBeCreated (objects : Objects) (domain : Domain) (channelName : String) : Prop :=
  channelName ∉ domain.channelNames ∧ ∃ channel ∈ objects.channel channelName, domain.exists_ channel

def Kept (objects : Objects) (domain : Domain) (channelName : String) : Prop :=
  (domain.connectionCount channelName).isSome ∨ CanBeCreated objects domain channelName

/-- The counts are the numbers of users, and channels that are not counted yet have none. -/
structure Tallies (objects : Objects) (domain : Domain) (users : String → Nat) : Prop where
  counted : ∀ channelName count, domain.connectionCount channelName = some count → count = users channelName
  unused : ∀ channelName, domain.connectionCount channelName = none →
    CanBeCreated objects domain channelName → users channelName = 0

structure Quiet (domain after : Domain) : Prop where
  eventChannels : after.eventChannels = domain.eventChannels
  channelNames : domain.channelNames ⊆ after.channelNames
  exists_ : ∀ object, after.exists_ object → domain.exists_ object

theorem Quiet.refl (domain : Domain) : Quiet domain domain :=
  ⟨rfl, fun _ member => member, fun _ alive => alive⟩

theorem Quiet.trans {first second third : Domain} (quiet : Quiet first second)
    (still : Quiet second third) : Quiet first third :=
  ⟨still.eventChannels.trans quiet.eventChannels, fun _ member => still.channelNames (quiet.channelNames member),
    fun object alive => quiet.exists_ object (still.exists_ object alive)⟩

section Counts

variable {objects : Objects} {domain after : Domain} {users : String → Nat}

theorem Quiet.connectionCount (quiet : Quiet domain after) (channelName : String) :
    after.connectionCount channelName = domain.connectionCount channelName := by
  rw [Domain.connectionCount, quiet.eventChannels, Domain.connectionCount]

variable {channelName : String}

theorem Quiet.canBeCreated (quiet : Quiet domain after)
    (can : CanBeCreated objects after channelName) : CanBeCreated objects domain channelName := by
  obtain ⟨unknown, channel, found, alive⟩ := can
  exact ⟨fun known => unknown (quiet.channelNames known), channel, found, quiet.exists_ channel alive⟩

theorem Quiet.kept (quiet : Quiet domain after)
    (kept : Kept objects after channelName) : Kept objects domain channelName := by
  refine kept.imp (fun counted => ?_) quiet.canBeCreated
  rw [← quiet.connectionCount]
  exact counted

theorem Tallies.quiet (tallies : Tallies objects domain users) (quiet : Quiet domain after) :
    Tallies objects after users where
  counted channelName count found :=
    tallies.counted channelName count (quiet.connectionCount channelName ▸ found)
  unused channelName none can :=
    tallies.unused channelName (quiet.connectionCount channelName ▸ none) (quiet.canBeCreated can)

theorem Tallies.congr (tallies : Tallies objects domain users) {others : String → Nat}
    (same : ∀ channelName, Kept objects domain channelName →
      others channelName = users channelName) : Tallies objects domain others where
  counted channelName count found := by
    rw [same channelName (.inl (by simp [found]))]
    exact tallies.counted channelName count found
  unused channelName none can := by
    rw [same channelName (.inr can)]
    exact tallies.unused channelName none can

theorem connectionCount_addToCount (channelName other : String) (change : Nat → Nat) :
    { domain with eventChannels := addToCount channelName change domain.eventChannels
      : Domain }.connectionCount other =
    if other = channelName then (domain.connectionCount channelName).map change
    else domain.connectionCount other := by
  simp only [Domain.connectionCount]
  induction domain.eventChannels with
  | nil => simp [addToCount]
  | cons node rest ih =>
      rw [addToCount]
      by_cases own : node.name = channelName
      · by_cases same : other = channelName
        · simp [own, same]
        · have differs : ¬ channelName = other := fun equal => same equal.symm
          simp [own, same, differs]
      · rw [if_neg own, find?_cons, find?_cons]
        by_cases hit : node.name = other
        · have differs : ¬ other = channelName := fun equal => own (hit.trans equal)
          simp [hit, differs]
        · have miss : (node.name == other) = false := by simpa using hit
          have missOwn : (node.name == channelName) = false := by simpa using own
          simp only [miss, ih, find?_cons, missOwn]

theorem connectionCount_createEventChannel (channelName other : String) :
    (createEventChannel objects channelName domain).2.connectionCount other =
      if other = channelName ∧ domain.connectionCount channelName = none ∧
          ∃ channel ∈ objects.channel channelName, domain.exists_ channel then some 0
      else domain.connectionCount other := by
  have absent : (domain.eventChannels.all fun node => node.name != channelName) = true ↔
      domain.connectionCount channelName = none := by
    simp [Domain.connectionCount]
  unfold createEventChannel
  cases found : objects.channel channelName with
  | none => simp
  | some channel =>
      by_cases new : domain.exists_ channel && domain.eventChannels.all fun node =>
          node.name != channelName
      · have both := Bool.and_eq_true _ _ ▸ new
        have none := absent.mp both.2
        simp only [new, if_true, Domain.connectionCount, find?_append]
        by_cases same : other = channelName
        · subst same
          have miss : domain.eventChannels.find? (fun node => node.name == other) = Option.none := by
            simpa [Domain.connectionCount] using none
          simp [miss, both.1]
        · have differs : ¬ channelName = other := fun equal => same equal.symm
          simp [same, differs]
      · have old : ¬ (other = channelName ∧ domain.connectionCount channelName = none ∧
            ∃ channel' ∈ some channel, domain.exists_ channel') := by
          rintro ⟨_, none, channel', same, alive⟩
          obtain rfl : channel = channel' := some.inj same
          exact new (by simp [alive, absent.mpr none])
        rw [if_neg old]
        simp [new, Domain.connectionCount]

theorem createEventChannel_quiet
    (notKept : ¬ Kept objects domain channelName) (unknown : channelName ∉ domain.channelNames) :
    Quiet domain (createEventChannel objects channelName domain).2 := by
  unfold createEventChannel
  cases found : objects.channel channelName with
  | none => exact Quiet.refl domain
  | some channel =>
      have gone : domain.exists_ channel = false := by
        by_contra alive
        exact notKept (.inr ⟨unknown, channel, found, by simpa using alive⟩)
      exact ⟨by simp [gone], fun _ member => mem_cons_of_mem _ member, fun _ alive => alive⟩

theorem addToCount_absent {change : Nat → Nat} {nodes : List EventChannelNode}
    (absent : ∀ node ∈ nodes, node.name ≠ channelName) :
    addToCount channelName change nodes = nodes := by
  induction nodes with
  | nil => rfl
  | cons node rest ih =>
      rw [addToCount, if_neg (absent node mem_cons_self),
        ih fun other member => absent other (mem_cons_of_mem _ member)]

theorem changeCount_quiet (change : Nat → Nat) (notKept : domain.connectionCount channelName = none) :
    Quiet domain
      { domain with eventChannels := addToCount channelName change domain.eventChannels } := by
  refine ⟨addToCount_absent ?_, fun _ member => member, fun _ alive => alive⟩
  simpa [Domain.connectionCount] using notKept

theorem lookup_eventchannel (objects : Objects) (name : String) (domain : Domain) :
    lookupDomainObject objects "eventchannel" name domain =
      (some (objects.channel (channelNameOf name)),
        incrementEventChannelConnections (channelNameOf name)
          (if channelNameOf name ∈ domain.channelNames then domain
          else (createEventChannel objects (channelNameOf name) domain).2)) := by
  have created : (createEventChannel objects (channelNameOf name) domain).1 =
      objects.channel (channelNameOf name) := by
    unfold createEventChannel
    split
    · rename_i found
      exact found.symm
    · rename_i found
      exact found.symm
  rw [lookupDomainObject, if_neg (by decide), if_neg (by decide), if_pos rfl]
  by_cases known : channelNameOf name ∈ domain.channelNames
  · simp [known]
  · simp [known, created]

variable {name : String}

theorem lookup_quiet (notKept : ¬ Kept objects domain (channelNameOf name)) :
    Quiet domain (lookupDomainObject objects "eventchannel" name domain).2 := by
  rw [lookup_eventchannel]
  split
  · refine changeCount_quiet _ ?_
    rw [← not_isSome_iff_eq_none]
    exact fun counted => notKept (.inl counted)
  · rename_i unknown
    have created := createEventChannel_quiet notKept unknown
    refine created.trans (changeCount_quiet _ ?_)
    rw [created.connectionCount, ← not_isSome_iff_eq_none]
    exact fun counted => notKept (.inl counted)

theorem createEventChannel_grows (channelName : String) :
    domain.channelNames ⊆ (createEventChannel objects channelName domain).2.channelNames ∧
      (createEventChannel objects channelName domain).2.exists_ = domain.exists_ := by
  unfold createEventChannel
  split
  · exact ⟨fun _ member => member, rfl⟩
  · exact ⟨fun _ member => mem_cons_of_mem _ member, rfl⟩

variable {other : String}

theorem canBeCreated_createEventChannel
    (can : CanBeCreated objects (createEventChannel objects channelName domain).2 other) :
    CanBeCreated objects domain other := by
  obtain ⟨grows, alive⟩ := @createEventChannel_grows objects domain channelName
  obtain ⟨unknown, channel, found, exists_⟩ := can
  exact ⟨fun known => unknown (grows known), channel, found, alive ▸ exists_⟩

theorem Tallies.create (tallies : Tallies objects domain users) (unknown : channelName ∉ domain.channelNames) :
    Tallies objects (createEventChannel objects channelName domain).2 users where
  counted other count found := by
    rw [connectionCount_createEventChannel] at found
    split at found
    · rename_i new
      obtain ⟨rfl, none, channel⟩ := new
      cases found
      exact (tallies.unused other none ⟨unknown, channel⟩).symm
    · exact tallies.counted other count found
  unused other none can := by
    rw [connectionCount_createEventChannel] at none
    split at none
    · cases none
    · exact tallies.unused other none (canBeCreated_createEventChannel can)

theorem Tallies.increment (tallies : Tallies objects domain users)
    (counted : (domain.connectionCount channelName).isSome)
    (room : users channelName + 1 < 2 ^ 32) :
    Tallies objects (incrementEventChannelConnections channelName domain) fun other =>
      users other + if other = channelName then 1 else 0 where
  counted other count found := by
    rw [incrementEventChannelConnections, connectionCount_addToCount] at found
    split at found
    · rename_i same
      obtain ⟨old, oldFound, rfl⟩ := map_eq_some_iff.mp found
      have equal := tallies.counted channelName old oldFound
      rw [if_pos same, same]
      omega
    · rename_i differs
      rw [if_neg differs, Nat.add_zero]
      exact tallies.counted other count found
  unused other none can := by
    rw [incrementEventChannelConnections, connectionCount_addToCount] at none
    split at none
    · rw [map_eq_none_iff] at none
      rw [none] at counted
      cases counted
    · rename_i differs
      rw [if_neg differs, Nat.add_zero]
      exact tallies.unused other none can

theorem Tallies.decrement (tallies : Tallies objects domain fun other =>
      users other + if other = channelName then 1 else 0)
    (room : users channelName + 1 < 2 ^ 32) :
    Tallies objects (decrementEventChannelConnections channelName domain) users where
  counted other count found := by
    rw [decrementEventChannelConnections, connectionCount_addToCount] at found
    split at found
    · rename_i same
      obtain ⟨old, oldFound, rfl⟩ := map_eq_some_iff.mp found
      have equal := tallies.counted channelName old oldFound
      rw [if_pos rfl] at equal
      rw [same]
      omega
    · rename_i differs
      have equal := tallies.counted other count found
      rw [if_neg differs, Nat.add_zero] at equal
      exact equal
  unused other none can := by
    rw [decrementEventChannelConnections, connectionCount_addToCount] at none
    split at none
    · rename_i same
      rw [map_eq_none_iff] at none
      have zero := tallies.unused channelName none (same ▸ can)
      rw [same]
      omega
    · have zero := tallies.unused other none can
      omega

theorem Tallies.lookup (tallies : Tallies objects domain users) (kept : Kept objects domain (channelNameOf name))
    (room : users (channelNameOf name) + 1 < 2 ^ 32) :
    Tallies objects (lookupDomainObject objects "eventchannel" name domain).2 fun other =>
      users other + if other = channelNameOf name then 1 else 0 := by
  rw [lookup_eventchannel]
  split
  · rename_i known
    exact tallies.increment (kept.resolve_right fun can => can.1 known) room
  · rename_i unknown
    refine (tallies.create unknown).increment ?_ room
    rw [connectionCount_createEventChannel]
    split
    · rfl
    · rename_i old
      refine kept.elim id fun can => ?_
      by_contra none
      exact old ⟨rfl, not_isSome_iff_eq_none.mp none, can.2⟩

theorem kept_addToCount (change : Nat → Nat) :
    Kept objects
        { domain with eventChannels := addToCount channelName change domain.eventChannels } other ↔
      Kept objects domain other := by
  refine or_congr ?_ Iff.rfl
  rw [connectionCount_addToCount]
  split
  · rename_i same
    rw [same, isSome_map]
  · rfl

theorem createEventChannel_known
    (known : other ∈ (createEventChannel objects channelName domain).2.channelNames) :
    other ∈ domain.channelNames ∨ other = channelName := by
  unfold createEventChannel at known
  split at known
  · exact .inl known
  · exact (mem_cons.mp known).symm

theorem lookup_kept :
    Kept objects (lookupDomainObject objects "eventchannel" name domain).2 channelName ↔
      Kept objects domain channelName := by
  rw [lookup_eventchannel, incrementEventChannelConnections, kept_addToCount]
  split
  · rfl
  · rename_i unknown
    constructor
    · intro kept
      refine kept.elim (fun counted => ?_) fun can => .inr (canBeCreated_createEventChannel can)
      rw [connectionCount_createEventChannel] at counted
      split at counted
      · rename_i new
        obtain ⟨rfl, _, can⟩ := new
        exact .inr ⟨unknown, can⟩
      · exact .inl counted
    · rintro (counted | can)
      · left
        rw [connectionCount_createEventChannel]
        split
        · rfl
        · exact counted
      · by_cases same : channelName = channelNameOf name
        · subst same
          left
          rw [connectionCount_createEventChannel]
          split
          · rfl
          · rename_i old
            by_contra none
            exact old ⟨rfl, not_isSome_iff_eq_none.mp none, can.2⟩
        · right
          refine ⟨fun known => ?_, ?_⟩
          · exact (createEventChannel_known known).elim can.1 same
          · rw [(createEventChannel_grows _).2]
            exact can.2

end Counts

structure Reaches (objects : Objects) (domain after : Domain) : Prop where
  registry : SameRegistry domain after
  kept : ∀ channelName, Kept objects after channelName ↔ Kept objects domain channelName

theorem Reaches.refl (objects : Objects) (domain : Domain) : Reaches objects domain domain :=
  ⟨SameRegistry.refl domain, fun _ => Iff.rfl⟩

theorem Reaches.trans {objects : Objects} {first second third : Domain}
    (reaches : Reaches objects first second) (still : Reaches objects second third) :
    Reaches objects first third :=
  ⟨reaches.registry.trans still.registry,
    fun channelName => (still.kept channelName).trans (reaches.kept channelName)⟩

def Endpoint.target (objects : Objects) (manager : Manager) (domain : Domain) :
    Endpoint → Option ObjRef
  | .plain _ (some object) => some object
  | .plain kind none => (kind.resolve_ objects manager domain).1.join
  | .PortEndpoint _ _ _ (some object) => some object
  | .PortEndpoint supplier_ name_ _ none =>
    (supplier_.target objects manager domain).bind fun supplier =>
      if domain.exists_ supplier && objects.isPortSupplier supplier then
        (objects.getPort supplier name_).join
      else none

section Resolution

variable (objects : Objects) (manager : Manager) (domain : Domain)

theorem lookup_unchanged {type : String} (name : String) (other : type ≠ "eventchannel") :
    (lookupDomainObject objects type name domain).2 = domain := by
  unfold lookupDomainObject
  grind

theorem lookup_reaches (type name : String) :
    Reaches objects domain (lookupDomainObject objects type name domain).2 := by
  refine ⟨lookupDomainObject_registry objects type name domain, fun channelName => ?_⟩
  by_cases channel : type = "eventchannel"
  · subst channel
    exact lookup_kept
  · rw [lookup_unchanged objects domain name channel]

theorem EndpointKind.resolve_reaches (kind : EndpointKind) :
    Reaches objects domain (kind.resolve_ objects manager domain).2 := by
  cases kind with
  | ApplicationEndpoint identifier => exact lookup_reaches objects domain _ _
  | FindByDomainFinderEndpoint type name => exact lookup_reaches objects domain _ _
  | ServiceEndpoint name => exact lookup_reaches objects domain _ _
  | EventChannelEndpoint name => exact lookup_reaches objects domain _ _
  | _ => exact Reaches.refl objects domain

theorem EndpointKind.resolve_quiet {kind : EndpointKind}
    (uncounted : ∀ channelName, kind.channel = some channelName → ¬ Kept objects domain channelName) :
    Quiet domain (kind.resolve_ objects manager domain).2 := by
  have unchanged : ∀ type name, type ≠ "eventchannel" →
      Quiet domain (lookupDomainObject objects type name domain).2 := by
    intro type name other
    rw [lookup_unchanged objects domain name other]
    exact Quiet.refl domain
  cases kind with
  | ApplicationEndpoint identifier => exact unchanged _ _ (by decide)
  | ServiceEndpoint name => exact unchanged _ _ (by decide)
  | EventChannelEndpoint name => exact lookup_quiet (uncounted _ rfl)
  | FindByDomainFinderEndpoint type name =>
      by_cases channel : type = "eventchannel"
      · subst channel
        exact lookup_quiet (uncounted _ rfl)
      · exact unchanged _ _ channel
  | _ => exact Quiet.refl domain

theorem EndpointKind.resolve_channel {kind : EndpointKind} {channelName : String}
    (channel : kind.channel = some channelName) :
    ∃ name, channelNameOf name = channelName ∧ ∀ domain, kind.resolve_ objects manager domain =
      resolveDomainObject objects manager "eventchannel" name domain := by
  cases kind with
  | EventChannelEndpoint name => exact ⟨name, some.inj channel, fun _ => rfl⟩
  | FindByDomainFinderEndpoint type name =>
      simp only [EndpointKind.channel] at channel
      split at channel
      · rename_i isChannel
        subst isChannel
        exact ⟨name, some.inj channel, fun _ => rfl⟩
      · cases channel
  | _ => cases channel

theorem Endpoint.resolve_reaches (endpoint : Endpoint) :
    Reaches objects domain (endpoint.resolve objects manager domain).domain := by
  induction endpoint with
  | plain kind object_ =>
      cases object_ with
      | none => exact kind.resolve_reaches objects manager domain
      | some object => exact Reaches.refl objects domain
  | PortEndpoint supplier_ name_ invalidPort_ object_ ih =>
      cases object_ with
      | none =>
          rw [resolve]
          grind
      | some object => exact Reaches.refl objects domain

theorem Endpoint.resolve_quiet {endpoint : Endpoint}
    (uncounted : ∀ channelName, endpoint.kind.channel = some channelName → ¬ Kept objects domain channelName) :
    Quiet domain (endpoint.resolve objects manager domain).domain := by
  induction endpoint with
  | plain kind object_ =>
      cases object_ with
      | none => exact EndpointKind.resolve_quiet objects manager domain uncounted
      | some object => exact Quiet.refl domain
  | PortEndpoint supplier_ name_ invalidPort_ object_ ih =>
      have supplier := ih uncounted
      cases object_ with
      | none =>
          rw [resolve]
          grind
      | some object => exact Quiet.refl domain

theorem Endpoint.resolve_channel (endpoint : Endpoint) :
    (endpoint.resolve objects manager domain).endpoint.channel = endpoint.channel := by
  cases endpoint with
  | plain kind object_ =>
      cases object_ with
      | none => rfl
      | some object => rfl
  | PortEndpoint supplier_ name_ invalidPort_ object_ =>
      cases object_ with
      | none =>
          rw [resolve]
          grind [channel]
      | some object => rfl

theorem Endpoint.resolve_target (endpoint : Endpoint) :
    (endpoint.resolve objects manager domain).result.join = endpoint.target objects manager domain := by
  induction endpoint with
  | plain kind object_ =>
      cases object_ with
      | none => rfl
      | some object => rfl
  | PortEndpoint supplier_ name_ invalidPort_ object_ ih =>
      cases object_ with
      | none =>
          have alive := (supplier_.resolve_reaches objects manager domain).registry.exists_
          rw [resolve, target, ← ih]
          generalize supplier_.resolve objects manager domain = supplier at *
          simp only [alive]
          rcases supplier.result with _ | _ | supplierObject
          · rfl
          · rfl
          · simp only [join_some, bind_some]
            split
            · split
              · rename_i found
                rw [found]
              · rename_i found
                rw [found]
                rfl
            · split
              · rfl
              · rfl
      | some object => rfl

end Resolution

/-- The uses side does not look up a counted channel, and an attempt that looks one up on the
provides side is the first one and makes the connection. -/
structure AttemptBalances (objects : Objects) (manager : Manager) (domain : Domain)
    (node : ConnectionNode) : Prop where
  uses : ∀ channelName, node.uses.kind.channel = some channelName → ¬ Kept objects domain channelName
  provides : ∀ channelName, node.provides.kind.channel = some channelName →
    Kept objects domain channelName →
      node.provides.channel = some channelName ∧ node.provides.object = none ∧
        ∃ usesPort channel, node.uses.target objects manager domain = some usesPort ∧
          objects.channel channelName = some channel ∧ domain.exists_ usesPort ∧
          objects.isPort usesPort ∧ objects.connectPort usesPort channel node.identifier = none

/-- A connection to a counted channel is one whose disconnection lowers the count, and its uses port
is there to be disconnected. -/
def DisconnectBalances (objects : Objects) (domain : Domain) (node : ConnectionNode) : Prop :=
  node.connected → ∀ channelName, node.provides.channel = some channelName →
    Kept objects domain channelName →
      node.provides.countedChannel = some channelName ∧
        ∃ usesPort, node.uses.object = some usesPort ∧ domain.exists_ usesPort ∧ objects.isPort usesPort

variable {endpoint : Endpoint} {channelName : String}

theorem Endpoint.channel_kind (channel : endpoint.channel = some channelName) :
    endpoint.kind.channel = some channelName := by
  cases endpoint with
  | plain kind object_ => exact channel
  | PortEndpoint supplier_ name_ invalidPort_ object_ => cases channel

theorem Endpoint.plain_of_channel
    (channel : endpoint.channel = some channelName) (fresh : endpoint.object = none) :
    ∃ kind, endpoint = .plain kind none := by
  cases endpoint with
  | plain kind object_ =>
      obtain rfl : object_ = none := fresh
      exact ⟨kind, rfl⟩
  | PortEndpoint supplier_ name_ invalidPort_ object_ => cases channel

theorem Endpoint.countedChannel_channel (counted : endpoint.countedChannel = some channelName) :
    endpoint.channel = some channelName := by
  unfold countedChannel at counted
  split at counted
  · exact counted
  · cases counted

section Attempts

variable {objects : Objects} {manager : Manager} {domain : Domain} {node : ConnectionNode}
  {users : String → Nat}

theorem connect_provides_channel :
    (node.connect objects manager domain).node.provides.channel = node.provides.channel := by
  unfold connect
  grind [resolve_channel]

theorem connect_reaches (objects : Objects) (manager : Manager) (domain : Domain)
    (node : ConnectionNode) : Reaches objects domain (node.connect objects manager domain).domain := by
  have uses := node.uses.resolve_reaches objects manager domain
  have provides := node.provides.resolve_reaches objects manager
    (node.uses.resolve objects manager domain).domain
  have both := uses.trans provides
  have called : ∀ portCalls, Reaches objects domain
      { (node.provides.resolve objects manager
        (node.uses.resolve objects manager domain).domain).domain with portCalls } := fun _ =>
    ⟨⟨both.registry.devices, both.registry.services, both.registry.applications,
      both.registry.otherComponents, both.registry.names, both.registry.exists_⟩, both.kept⟩
  unfold connect
  grind [Reaches.refl]

theorem Tallies.connect_uncounted (tallies : Tallies objects domain users)
    (uses : ∀ channelName, node.uses.kind.channel = some channelName → ¬ Kept objects domain channelName)
    (provides : ∀ channelName, node.provides.kind.channel = some channelName →
      ¬ Kept objects domain channelName) :
    Tallies objects (node.connect objects manager domain).domain users := by
  have usesQuiet := resolve_quiet objects manager domain uses
  have usesReaches := node.uses.resolve_reaches objects manager domain
  have providesQuiet := @resolve_quiet objects manager
    (node.uses.resolve objects manager domain).domain node.provides
    fun channelName channel kept => 
      provides channelName channel ((usesReaches.kept channelName).mp kept)
  have both := tallies.quiet (usesQuiet.trans providesQuiet)
  have called : ∀ portCalls, Tallies objects
      { (node.provides.resolve objects manager
        (node.uses.resolve objects manager domain).domain).domain with portCalls } users := fun _ =>
    both.quiet ⟨rfl, fun _ member => member, fun _ alive => alive⟩
  have first := tallies.quiet usesQuiet
  unfold connect
  grind

theorem connect_made {usesPort providesPort : ObjRef} (pending : node.connected = false)
    (uses : (node.uses.resolve objects manager domain).result.join = some usesPort)
    (provides : (node.provides.resolve objects manager
      (node.uses.resolve objects manager domain).domain).result.join = some providesPort)
    (alive : domain.exists_ usesPort) (isPort : objects.isPort usesPort)
    (accepted : objects.connectPort usesPort providesPort node.identifier = none) :
    (node.connect objects manager domain).node.connected ∧
      Quiet (node.provides.resolve objects manager (node.uses.resolve objects manager domain).domain).domain
        (node.connect objects manager domain).domain := by
  have usesReaches := (node.uses.resolve_reaches objects manager domain).registry.exists_
  have providesReaches := (node.provides.resolve_reaches objects manager
    (node.uses.resolve objects manager domain).domain).registry.exists_
  have there : (node.provides.resolve objects manager
      (node.uses.resolve objects manager domain).domain).domain.exists_ usesPort := by
    rw [providesReaches, usesReaches]
    exact alive
  have usesSome : (node.uses.resolve objects manager domain).result.isNone = false := by
    rcases result : (node.uses.resolve objects manager domain).result with _ | _
    · simp [result] at uses
    · rfl
  have providesSome : (node.provides.resolve objects manager
      (node.uses.resolve objects manager domain).domain).result.isNone = false := by
    rcases result : (node.provides.resolve objects manager
      (node.uses.resolve objects manager domain).domain).result with _ | _
    · simp [result] at provides
    · rfl
  simp only [connect, pending, usesSome, providesSome, uses, provides, there, isPort,
    accepted, Bool.false_eq_true, if_false, Bool.false_and, Bool.and_self, Bool.not_true]
  exact ⟨trivial, rfl, fun _ member => member, fun _ alive => alive⟩

theorem Tallies.connect (users : String → Nat) (tallies : Tallies objects domain users)
    (pending : node.connected = false) (balances : AttemptBalances objects manager domain node)
    (room : ∀ channelName, users channelName + 1 < 2 ^ 32) :
    Tallies objects (node.connect objects manager domain).domain fun channelName =>
      users channelName + if (node.connect objects manager domain).node.on channelName then 1
        else 0 := by
  by_cases counted : ∃ channelName, node.provides.kind.channel = some channelName ∧
      Kept objects domain channelName
  · obtain ⟨channelName, kind, kept⟩ := counted
    obtain ⟨isChannel, fresh, usesPort, channel, uses, found, alive, isPort, accepted⟩ :=
      balances.provides channelName kind kept
    obtain ⟨class_, shape⟩ := plain_of_channel isChannel fresh
    obtain ⟨name, same, resolves⟩ := @EndpointKind.resolve_channel objects manager
      class_ _ (by rw [shape] at kind; exact kind)
    subst same
    have usesReaches := node.uses.resolve_reaches objects manager domain
    have usesTallies := tallies.quiet (resolve_quiet objects manager domain balances.uses)
    have providesResolved : node.provides.resolve objects manager
        (node.uses.resolve objects manager domain).domain =
          ⟨some (some channel), .plain class_ (some channel), (lookupDomainObject objects
            "eventchannel" name (node.uses.resolve objects manager domain).domain).2⟩ := by
      have looked : (lookupDomainObject objects "eventchannel" name
          (node.uses.resolve objects manager domain).domain).1 = some (some channel) := by
        rw [lookup_eventchannel, found]
      rw [shape, resolve, resolves, resolveDomainObject]
      simp only [looked]
      rfl
    obtain ⟨connected, quiet⟩ := @connect_made objects manager domain node _ _ pending
      ((resolve_target objects manager domain node.uses).trans uses)
      (by rw [providesResolved]; rfl) alive isPort accepted
    rw [providesResolved] at quiet
    have raised := (usesTallies.lookup ((usesReaches.kept _).mpr kept) (room _)).quiet quiet
    refine raised.congr fun channelName _ => ?_
    simp only [ConnectionNode.on, connected, connect_provides_channel, isChannel, Bool.true_and]
    by_cases same : channelName = channelNameOf name
    · simp [same]
    · have differs : ¬ channelNameOf name = channelName := fun equal => same equal.symm
      simp [same, differs]
  · have uncounted : ∀ channelName, node.provides.kind.channel = some channelName →
        ¬ Kept objects domain channelName := fun channelName kind kept =>
      counted ⟨channelName, kind, kept⟩
    refine (tallies.connect_uncounted balances.uses uncounted).congr fun channelName kept => ?_
    rw [if_neg, Nat.add_zero]
    intro on
    simp only [ConnectionNode.on, Bool.and_eq_true, beq_iff_eq, connect_provides_channel] at on
    exact uncounted channelName (channel_kind on.2)
      (((connect_reaches objects manager domain node).kept channelName).mp kept)

theorem Endpoint.countedChannel_release (endpoint : Endpoint) :
    endpoint.release.countedChannel = endpoint.countedChannel := by
  cases endpoint with
  | plain kind object_ => cases kind <;> rfl
  | PortEndpoint supplier_ name_ invalidPort_ object_ => rfl

theorem disconnect_reaches (objects : Objects) (node : ConnectionNode) (domain : Domain) :
    Reaches objects domain (node.disconnect objects domain).2 := by
  refine ⟨disconnect_registry objects node domain, fun channelName => ?_⟩
  have lowered : ∀ (domain : Domain) channel,
      Kept objects (decrementEventChannelConnections channel domain) channelName ↔
        Kept objects domain channelName := fun _ _ => kept_addToCount _
  have called : ∀ portCalls, Kept objects { domain with portCalls } channelName ↔
      Kept objects domain channelName := fun _ => Iff.rfl
  unfold disconnect
  grind

theorem disconnect_on (objects : Objects) (node : ConnectionNode) (domain : Domain)
    (channelName : String) : (node.disconnect objects domain).1.on channelName = false := by
  rw [disconnect_node]
  split
  · rfl
  · rename_i pending
    simp [on, pending]

theorem Tallies.disconnect_uncounted (tallies : Tallies objects domain users)
    (uncounted : ∀ channelName, node.provides.channel = some channelName → ¬ Kept objects domain channelName) :
    Tallies objects (node.disconnect objects domain).2 users := by
  have called : ∀ portCalls, Quiet domain { domain with portCalls } := fun _ =>
    ⟨rfl, fun _ member => member, fun _ alive => alive⟩
  unfold disconnect
  split
  · exact tallies
  · simp only [countedChannel_release]
    split
    · exact tallies
    · split
      · exact tallies
      · split
        · rename_i channelName counted
          have notKept := uncounted channelName (countedChannel_channel counted)
          refine tallies.quiet ((called _).trans (changeCount_quiet _ ?_))
          rw [(called _).connectionCount, ← not_isSome_iff_eq_none]
          exact fun counted => notKept (.inl counted)
        · exact tallies.quiet (called _)

theorem Tallies.disconnect (users : String → Nat) (balances : DisconnectBalances objects domain node)
    (room : ∀ channelName, users channelName + 1 < 2 ^ 32)
    (tallies : Tallies objects domain fun channelName =>
      users channelName + if node.on channelName then 1 else 0) :
    Tallies objects (node.disconnect objects domain).2 users := by
  by_cases counted : node.connected ∧ ∃ channelName, node.provides.channel = some channelName ∧
      Kept objects domain channelName
  · obtain ⟨connected, channelName, channel, kept⟩ := counted
    obtain ⟨counted, usesPort, uses, alive, isPort⟩ := balances connected channelName channel kept
    simp only [ConnectionNode.disconnect, connected, uses, alive, isPort,
      countedChannel_release, counted, Bool.and_self, Bool.not_true, Bool.false_eq_true,
      if_false]
    refine Tallies.decrement ?_ (room channelName)
    refine (tallies.congr fun other _ => ?_).quiet
      ⟨rfl, fun _ member => member, fun _ alive => alive⟩
    simp only [on, connected, channel, Bool.true_and]
    by_cases same : other = channelName
    · simp [same]
    · have differs : ¬ channelName = other := fun equal => same equal.symm
      simp [same, differs]
  · by_cases connected : node.connected
    · have uncounted : ∀ channelName, node.provides.channel = some channelName →
          ¬ Kept objects domain channelName := fun channelName channel kept =>
        counted ⟨connected, channelName, channel, kept⟩
      refine Tallies.disconnect_uncounted (tallies.congr fun channelName kept => ?_) uncounted
      have off : node.on channelName = false := by
        by_contra on
        simp only [ConnectionNode.on, Bool.not_eq_false, Bool.and_eq_true, beq_iff_eq] at on
        exact uncounted channelName on.2 kept
      simp [off]
    · have same : (node.disconnect objects domain).2 = domain := by
        simp [ConnectionNode.disconnect, connected]
      rw [same]
      refine tallies.congr fun channelName _ => ?_
      simp [ConnectionNode.on, connected]

end Attempts

end Redhawk.Connections
