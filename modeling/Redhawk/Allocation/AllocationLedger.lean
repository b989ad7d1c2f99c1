import Redhawk.Allocation.AllocationManager
import Redhawk.Library.Runs

/-!
What the devices hold on behalf of the manager is what its table records, over every run of
allocations and deallocations, as long as backing out of a partial allocation works and no exception
escapes from a batch that has already been given capacity.
-/

namespace Redhawk.Allocation

open Redhawk.Library List

def bundles (device : DeviceRef) (allocations : List Properties) : Multiset (DeviceRef × Properties) :=
  (allocations.map fun properties => (device, properties) : List _)

def holding (allocation : AllocationType) : Multiset (DeviceRef × Properties) :=
  bundles allocation.allocatedDevice (partitionProperties allocation.allocationProperties)

def recorded (table : List (Nat × AllocationType)) : Multiset (DeviceRef × Properties) :=
  (table.map fun entry => holding entry.2).sum

@[simp] theorem bundles_nil (device : DeviceRef) : bundles device [] = 0 := rfl

@[simp] theorem bundles_cons (device : DeviceRef) (properties : Properties) (rest : List Properties) :
    bundles device (properties :: rest) = (device, properties) ::ₘ bundles device rest := rfl

@[simp] theorem recorded_nil : recorded [] = 0 := rfl

@[simp] theorem recorded_cons (entry : Nat × AllocationType) (table : List (Nat × AllocationType)) :
    recorded (entry :: table) = holding entry.2 + recorded table := by
  simp [recorded]

theorem recorded_append (first second : List (Nat × AllocationType)) :
    recorded (first ++ second) = recorded first + recorded second := by
  simp [recorded]

theorem applyCalls_append (first second : List Call) (held : Multiset (DeviceRef × Properties)) :
    applyCalls (first ++ second) held = applyCalls second (applyCalls first held) := by
  simp [applyCalls, foldl_append]

section

variable {device : DeviceRef} {answers : DeviceAnswers}
  (backsOut : ∀ n, answers.deallocateCapacity n = true) (held : Multiset (DeviceRef × Properties))

include backsOut

theorem undo_restores :
    ∀ done, applyCalls (undo device answers done) (bundles device done + held) = held := by
  intro done
  induction done with
  | nil => simp [undo, applyCalls]
  | cons properties done ih =>
    rw [undo, backsOut, if_pos rfl, applyCalls_append]
    simpa [applyCalls, Call.apply] using ih

theorem completeLoop_holds :
    ∀ rest done, applyCalls (completeLoop device answers done rest).2 (bundles device done + held) =
      if (completeLoop device answers done rest).1
      then bundles device rest + (bundles device done + held) else held := by
  intro rest
  induction rest with
  | nil => intro done; simp [completeLoop, applyCalls]
  | cons properties rest ih =>
    intro done
    rw [completeLoop]
    cases answer : answers.allocateCapacity done.length with
    | granted =>
      have next := ih (properties :: done)
      simp only [bundles_cons, Multiset.cons_add] at next
      simp only [applyCalls, foldl_cons, Call.apply] at next ⊢
      rw [next]
      simp [Multiset.add_cons]
    | refused => simpa using undo_restores backsOut held done
    | raised => simpa using undo_restores backsOut held done

end

theorem partitionProperties_nil : partitionProperties [] = [] := rfl

theorem allocateDevice_holds {answers : DeviceAnswers}
    (backsOut : ∀ n, answers.deallocateCapacity n = true) (requested : Properties)
    (node : DeviceNode) (held : Multiset (DeviceRef × Properties)) :
    applyCalls (allocateDevice requested node answers).2 held =
      match (allocateDevice requested node answers).1 with
      | .succeeded allocated => bundles node.device (partitionProperties allocated) + held
      | _ => held := by
  unfold allocateDevice
  split
  · rfl
  split
  · rfl
  split
  · rfl
  split
  · rfl
  · rfl
  split
  · rfl
  split
  · simp [applyCalls, partitionProperties_nil]
  · rename_i allocProps _ _ _
    have complete := @completeLoop_holds node.device _ backsOut held
      (partitionProperties allocProps) []
    simp only [bundles_nil, zero_add] at complete
    simp only [completeAllocations, complete]
    split <;> rename_i completed <;> simp [completed]

theorem allocateRequest_holds {answers : DeviceRef → DeviceAnswers}
    (backsOut : ∀ device n, (answers device).deallocateCapacity n = true) (requested : Properties) :
    ∀ devices held, applyCalls (allocateRequest requested answers devices).2 held =
      match (allocateRequest requested answers devices).1 with
      | some (some (node, allocated)) =>
        bundles node.device (partitionProperties allocated) + held
      | _ => held := by
  intro devices
  induction devices with
  | nil => intro held; rfl
  | cons node rest ih =>
    intro held
    have tried := allocateDevice_holds (backsOut node.device) requested node held
    rw [allocateRequest]
    cases result : (allocateDevice requested node (answers node.device)).1 with
    | raised => simpa [result] using tried
    | succeeded allocated => simpa [result] using tried
    | failed =>
      simp only [result] at tried
      simp only [applyCalls_append, tried]
      exact ih held

theorem serveRequest_holds {answers : Answers}
    (backsOut : ∀ device n, (answers.device device).deallocateCapacity n = true)
    (devices : List DeviceNode) (request : Request) (held : Multiset (DeviceRef × Properties)) :
    applyCalls (serveRequest devices request answers).2 held =
      match (serveRequest devices request answers).1 with
      | .satisfied node allocated => bundles node.device (partitionProperties allocated) + held
      | _ => held := by
  unfold serveRequest
  split
  · rfl
  split
  · rfl
  split
  · rfl
  · rename_i tried _
    have result := allocateRequest_holds backsOut request.allocationProperties tried held
    generalize allocateRequest request.allocationProperties answers.device tried = tries at result ⊢
    obtain ⟨found, calls⟩ := tries
    cases found with
    | none => exact result
    | some found =>
      cases found with
      | none => exact result
      | some pair => exact result

/-- The devices hold what the table records and what is `pending`, and identifiers are not issued
twice. -/
structure Accounted (pending : List (Nat × AllocationType)) (manager : AllocationManager) : Prop where
  held : manager.held = recorded (pending ++ manager.allocations)
  distinct : ((pending ++ manager.allocations).map Prod.fst).Nodup
  issued : ∀ entry ∈ pending ++ manager.allocations, entry.1 < manager.nextID

theorem setEntry_fresh {α : Type} {table : List (Nat × α)} {id : Nat}
    (fresh : id ∉ table.map Prod.fst) (entry : α) :
    setEntry table id entry = (id, entry) :: table := by
  rw [setEntry, filter_eq_self.mpr]
  intro other member
  have differ : other.1 ≠ id := by
    rintro rfl
    exact fresh (mem_map_of_mem member)
  simpa using differ

theorem recordLocal_eq (pending : List (Nat × AllocationType)) :
    ∀ manager : AllocationManager, ((pending ++ manager.allocations).map Prod.fst).Nodup →
      manager.recordLocal pending = { manager with allocations := pending.reverse ++ manager.allocations } := by
  induction pending with
  | nil => intro manager _; rfl
  | cons entry pending ih =>
    intro manager distinct
    have fresh : entry.1 ∉ manager.allocations.map Prod.fst := by
      intro member
      simp only [cons_append, map_cons, nodup_cons, map_append] at distinct
      exact distinct.1 (mem_append_right _ member)
    have next := ih { manager with allocations := setEntry manager.allocations entry.1 entry.2 } (by
      rw [setEntry_fresh fresh]
      have swap : (pending ++ (entry.1, entry.2) :: manager.allocations).Perm
          (entry :: pending ++ manager.allocations) := perm_middle
      exact ((swap.map Prod.fst).nodup_iff).mpr distinct)
    simp only [AllocationManager.recordLocal, foldl_cons] at next ⊢
    rw [AllocationManager.mk.injEq] at next
    rw [next.2.1, setEntry_fresh fresh]
    simp

variable {pending : List (Nat × AllocationType)}

section

variable {manager : AllocationManager} (accounted : Accounted pending manager)

include accounted

theorem Accounted.recordLocal : Accounted [] (manager.recordLocal pending) := by
  rw [recordLocal_eq pending manager accounted.distinct]
  have order : (pending.reverse ++ manager.allocations).Perm (pending ++ manager.allocations) :=
    (reverse_perm pending).append_right _
  refine ⟨?_, ?_, ?_⟩
  · have same : recorded (pending.reverse ++ manager.allocations) =
        recorded (pending ++ manager.allocations) := by
      exact (order.map _).sum_eq
    simpa [same] using accounted.held
  · exact ((order.map Prod.fst).nodup_iff).mpr accounted.distinct
  · intro entry member
    exact accounted.issued entry (order.mem_iff.mp member)

theorem Accounted.drop (nothing : recorded pending = 0) : Accounted [] manager := by
  refine ⟨?_, ?_, ?_⟩
  · rw [accounted.held, recorded_append, nothing, zero_add, nil_append]
  · have distinct := accounted.distinct
    rw [map_append] at distinct
    exact (nodup_append.mp distinct).2.1
  · intro entry member
    exact accounted.issued entry (mem_append_right _ member)

theorem Accounted.extend (allocation : AllocationType) :
    Accounted (pending ++ [(manager.nextID, allocation)])
      { manager with
        held := holding allocation + manager.held
        nextID := manager.nextID + 1 } := by
  have order : (pending ++ [(manager.nextID, allocation)] ++ manager.allocations).Perm
      ((manager.nextID, allocation) :: (pending ++ manager.allocations)) := by
    rw [append_assoc]
    exact perm_middle
  refine ⟨?_, ?_, ?_⟩
  · have same : recorded (pending ++ [(manager.nextID, allocation)] ++ manager.allocations) =
        holding allocation + recorded (pending ++ manager.allocations) := by
      exact (order.map _).sum_eq
    rw [same, accounted.held]
  · refine ((order.map Prod.fst).nodup_iff).mpr ?_
    rw [map_cons, nodup_cons]
    refine ⟨?_, accounted.distinct⟩
    intro member
    obtain ⟨entry, inside, same⟩ := mem_map.mp member
    have below := accounted.issued entry inside
    omega
  · intro entry member
    rcases mem_cons.mp (order.mem_iff.mp member) with rfl | old
    · exact Nat.lt_succ_self _
    · exact Nat.lt_succ_of_lt (accounted.issued entry old)

end

def BacksOut (requests : List (Request × Answers)) : Prop :=
  ∀ request ∈ requests, ∀ device n, (request.2.device device).deallocateCapacity n = true

/-- No request of the batch makes the restriction to its devices step past the end of a list. -/
def Defined (devices : List DeviceNode) (requests : List (Request × Answers)) : Prop :=
  ∀ request ∈ requests, (serveRequest devices request.1 request.2).1 ≠ .undefined

def NothingLost (devices : List DeviceNode) (requests : List (Request × Answers)) : Prop :=
  ∀ before request after, requests = before ++ request :: after →
    (serveRequest devices request.1 request.2).1 = .raised →
    ∀ other ∈ before, ∀ node allocated,
      (serveRequest devices other.1 other.2).1 = .satisfied node allocated → allocated = []

variable {devices : List DeviceNode} {domainName : String}

theorem allocateLoop_accounted :
    ∀ requests pending response manager, BacksOut requests → Defined devices requests →
      NothingLost devices requests →
      ((∃ request ∈ requests, (serveRequest devices request.1 request.2).1 = .raised) → recorded pending = 0) →
      Accounted pending manager →
      Accounted [] (AllocationManager.allocateLoop devices domainName requests pending response manager).2 := by
  intro requests
  induction requests with
  | nil =>
    intro pending response manager _ _ _ _ accounted
    exact accounted.recordLocal
  | cons request rest ih =>
    intro pending response manager backsOut defined lossless dropped accounted
    have held := serveRequest_holds (backsOut request mem_cons_self) devices request.1
      manager.held
    have backsOutRest : BacksOut rest := fun other member =>
      backsOut other (mem_cons_of_mem _ member)
    have definedRest : Defined devices rest := fun other member =>
      defined other (mem_cons_of_mem _ member)
    have losslessRest : NothingLost devices rest := by
      intro before other after split raised earlier member
      exact lossless (request :: before) other after (by rw [split]; rfl) raised earlier
        (mem_cons_of_mem _ member)
    have droppedRest : (∃ other ∈ rest, (serveRequest devices other.1 other.2).1 = .raised) →
        recorded pending = 0 := by
      rintro ⟨other, member, raised⟩
      exact dropped ⟨other, mem_cons_of_mem _ member, raised⟩
    obtain ⟨request, answers⟩ := request
    rw [AllocationManager.allocateLoop]
    cases result : (serveRequest devices request answers).1 with
    | undefined => exact absurd result (defined _ mem_cons_self)
    | raised =>
      simp only [result] at held ⊢
      rw [held]
      exact accounted.drop (dropped ⟨_, mem_cons_self, result⟩)
    | unserved =>
      simp only [result] at held ⊢
      rw [held]
      exact ih pending response manager backsOutRest definedRest losslessRest droppedRest accounted
    | satisfied node allocated =>
      simp only [result] at held ⊢
      rw [held]
      apply ih _ _ _ backsOutRest definedRest losslessRest
      · rintro ⟨other, member, raised⟩
        obtain ⟨before, after, split⟩ := append_of_mem member
        have empty := lossless ((request, answers) :: before) other after (by rw [split]; rfl) raised
          _ mem_cons_self node allocated result
        rw [recorded_append, droppedRest ⟨other, member, raised⟩, empty]
        simp [holding, partitionProperties_nil]
      · exact accounted.extend ⟨domainName, request.sourceID, allocated, node.device, node.deviceManager⟩

theorem allocateLocal_accounted {requests : List (Request × Answers)} {manager : AllocationManager}
    (backsOut : BacksOut requests) (defined : Defined devices requests)
    (lossless : NothingLost devices requests) (accounted : Accounted [] manager) :
    Accounted [] (manager.allocateLocal devices domainName requests).2 := by
  rw [AllocationManager.allocateLocal]
  split
  · exact accounted
  · exact allocateLoop_accounted requests [] [] manager backsOut defined lossless (fun _ => rfl) accounted

theorem recordRemote_foldl_frame (domainName : String) (allocationManager : Nat)
    (responses : List Response) : ∀ manager : AllocationManager,
    let after := responses.foldl (AllocationManager.recordRemote domainName allocationManager) manager
    after.held = manager.held ∧ after.allocations = manager.allocations ∧ after.nextID = manager.nextID := by
  induction responses with
  | nil => intro manager; exact ⟨rfl, rfl, rfl⟩
  | cons response rest ih => intro manager; exact ih _

theorem remoteLoop_frame (requests : Nat) (domainName : String) :
    ∀ remotes remaining result (manager : AllocationManager),
    let after := (manager.remoteLoop requests domainName remotes remaining result).2
    after.held = manager.held ∧ after.allocations = manager.allocations ∧ after.nextID = manager.nextID := by
  intro remotes
  induction remotes with
  | nil => intro remaining result manager; exact ⟨rfl, rfl, rfl⟩
  | cons remote rest ih =>
    intro remaining result manager
    obtain ⟨allocationManager, answer⟩ := remote
    simp only [AllocationManager.remoteLoop]
    split
    · exact ⟨rfl, rfl, rfl⟩
    · cases answer (AllocationManager.unfilledRequests remaining result) with
      | none => exact ⟨rfl, rfl, rfl⟩
      | some newResult =>
        have recorded := recordRemote_foldl_frame domainName allocationManager newResult manager
        have next := ih (AllocationManager.unfilledRequests remaining result) (result ++ newResult)
          (newResult.foldl (AllocationManager.recordRemote domainName allocationManager) manager)
        exact ⟨next.1.trans recorded.1, next.2.1.trans recorded.2.1, next.2.2.trans recorded.2.2⟩

theorem Accounted.congr {before after : AllocationManager} (accounted : Accounted [] before)
    (same : after.held = before.held ∧ after.allocations = before.allocations ∧
      after.nextID = before.nextID) : Accounted [] after := by
  obtain ⟨held, allocations, nextID⟩ := same
  refine ⟨?_, ?_, ?_⟩
  · rw [held, allocations]
    exact accounted.held
  · rw [allocations]
    exact accounted.distinct
  · rw [allocations, nextID]
    exact accounted.issued

variable {remotes : List (Nat × (List Request → Option (List Response)))}
variable {requests : List (Request × Answers)}

theorem allocate_accounted {manager : AllocationManager}
    (backsOut : BacksOut requests) (defined : Defined devices requests)
    (lossless : NothingLost devices requests) (accounted : Accounted [] manager) :
    Accounted [] (manager.allocate devices domainName remotes requests).2 := by
  have served : Accounted [] (manager.allocateLocal devices domainName requests).2 :=
    allocateLocal_accounted backsOut defined lossless accounted
  simp only [AllocationManager.allocate]
  split
  · exact served
  · exact served
  · split
    · exact served.congr (remoteLoop_frame _ _ _ _ _ _)
    · exact served

def ReleaseAnswers.Releases (answers : ReleaseAnswers) : Prop :=
  answers.objectExists = true ∧ ∀ n, answers.deallocateCapacity n = true

theorem releaseCalls_holds {device : DeviceRef} {answers : ReleaseAnswers}
    (releases : answers.Releases) (held : Multiset (DeviceRef × Properties)) :
    ∀ allocations index,
      applyCalls (releaseCalls device answers index allocations) (bundles device allocations + held) = held := by
  intro allocations
  induction allocations with
  | nil => intro index; simp [releaseCalls, applyCalls]
  | cons properties rest ih =>
    intro index
    rw [releaseCalls, releases.2, if_pos rfl, applyCalls_append]
    simpa [applyCalls, Call.apply] using ih (index + 1)

theorem lookup_cons_entry {α : Type} (entry : Nat × α) (rest : List (Nat × α)) (id : Nat) :
    (entry :: rest).lookup id = if id = entry.1 then some entry.2 else rest.lookup id := by
  obtain ⟨key, value⟩ := entry
  rw [lookup_cons]
  by_cases here : id = key
  · rw [if_pos here, here, beq_self_eq_true]
  · rw [if_neg here, beq_false_of_ne here]

theorem recorded_erase {id : Nat} {allocation : AllocationType} :
    ∀ {table : List (Nat × AllocationType)}, (table.map Prod.fst).Nodup → table.lookup id = some allocation →
      recorded table = holding allocation + recorded (eraseEntry table id) := by
  intro table
  induction table with
  | nil => intro _ found; cases found
  | cons entry rest ih =>
    intro distinct found
    rw [map_cons, nodup_cons] at distinct
    by_cases here : entry.1 = id
    · subst here
      rw [lookup_cons_entry, if_pos rfl] at found
      have value := Option.some.inj found
      have others : eraseEntry (entry :: rest) entry.1 = rest := by
        rw [eraseEntry, filter_cons_of_neg (by simp), filter_eq_self.mpr]
        intro other member
        have differ : other.1 ≠ entry.1 := by
          intro same
          exact distinct.1 (same ▸ mem_map_of_mem member)
        simpa using differ
      rw [others, recorded_cons, value]
    · have later : rest.lookup id = some allocation := by
        rwa [lookup_cons_entry, if_neg (Ne.symm here)] at found
      have kept : eraseEntry (entry :: rest) id = entry :: eraseEntry rest id := by
        rw [eraseEntry, filter_cons_of_pos (by simpa using here)]
        rfl
      rw [kept, recorded_cons, recorded_cons, ih distinct.2 later, add_left_comm]

variable {manager after : AllocationManager} {answers : ReleaseAnswers}

theorem Accounted.deallocateLocal
    {allocationID : Nat} (accounted : Accounted [] manager) (releases : answers.Releases)
    (done : manager.deallocateLocal answers allocationID = some after) : Accounted [] after := by
  rw [AllocationManager.deallocateLocal] at done
  split at done
  · cases done
  · rename_i allocation found
    obtain rfl := Option.some.inj done
    have total : manager.held = recorded manager.allocations := accounted.held
    have split : recorded manager.allocations =
        holding allocation + recorded (eraseEntry manager.allocations allocationID) :=
      recorded_erase accounted.distinct found
    rw [split] at total
    refine ⟨?_, ?_, ?_⟩
    · simp only [releases.1, if_true, nil_append]
      rw [total]
      exact releaseCalls_holds releases _ _ 0
    · exact (filter_sublist.map _).nodup accounted.distinct
    · intro entry member
      exact accounted.issued entry (mem_of_mem_filter member)

theorem Accounted.deallocateSingle
    {allocationID : Nat} (accounted : Accounted [] manager) (releases : answers.Releases)
    (done : manager.deallocateSingle answers allocationID = some after) : Accounted [] after := by
  rw [AllocationManager.deallocateSingle] at done
  split at done
  · rename_i result local'
    obtain rfl := Option.some.inj done
    exact accounted.deallocateLocal releases local'
  · rw [AllocationManager.deallocateRemote] at done
    split at done
    · cases done
    · obtain rfl := Option.some.inj done
      exact accounted.congr ⟨rfl, rfl, rfl⟩

theorem Accounted.deallocate {answers : Nat → ReleaseAnswers} :
    ∀ {allocationIDs} {manager : AllocationManager}, (∀ id ∈ allocationIDs, (answers id).Releases) →
      Accounted [] manager → Accounted [] (manager.deallocate answers allocationIDs).2 := by
  intro allocationIDs
  induction allocationIDs with
  | nil => intro manager _ accounted; exact accounted
  | cons id rest ih =>
    intro manager releases accounted
    have releasesRest : ∀ other ∈ rest, (answers other).Releases := fun other member =>
      releases other (mem_cons_of_mem _ member)
    simp only [AllocationManager.deallocate]
    split
    · rename_i after done
      exact ih releasesRest (accounted.deallocateSingle (releases id mem_cons_self) done)
    · exact ih releasesRest accounted

def keys {α : Type} (table : List (Nat × α)) : List Nat :=
  table.map Prod.fst

variable {α : Type} {table : List (Nat × α)}

theorem mem_keys_setEntry {id key : Nat} {entry : α} :
    key ∈ keys (setEntry table id entry) ↔ key = id ∨ key ∈ keys table := by
  by_cases same : key = id
  · simp [keys, setEntry, same]
  · simp [keys, setEntry, same]

theorem mem_keys_eraseEntry {id key : Nat} :
    key ∈ keys (eraseEntry table id) ↔ key ≠ id ∧ key ∈ keys table := by
  simp only [keys, eraseEntry, mem_map, mem_filter, Prod.exists, exists_and_right, exists_eq_right]
  constructor
  · rintro ⟨entry, member, differ⟩
    exact ⟨by simpa using differ, entry, member⟩
  · rintro ⟨differ, entry, member⟩
    exact ⟨entry, member, by simpa using differ⟩

theorem lookup_none_iff {id : Nat} : table.lookup id = none ↔ id ∉ keys table := by
  induction table with
  | nil => simp [keys]
  | cons entry rest ih =>
    by_cases here : id = entry.1
    · simp [keys, lookup_cons_entry, here]
    · rw [lookup_cons_entry, if_neg here, ih]
      simp [keys, here]

def Names (manager : AllocationManager) (response : Response) : Prop :=
  response.allocationID ∈ keys manager.allocations ∨ response.allocationID ∈ keys manager.remoteAllocations

theorem mem_keys_recordLocal {key : Nat} (pending : List (Nat × AllocationType)) :
    ∀ manager : AllocationManager, key ∈ keys pending ∨ key ∈ keys manager.allocations →
      key ∈ keys (manager.recordLocal pending).allocations := by
  induction pending with
  | nil =>
    intro manager either
    exact either.resolve_left (by simp [keys])
  | cons entry rest ih =>
    intro manager either
    apply ih { manager with allocations := setEntry manager.allocations entry.1 entry.2 }
    rw [mem_keys_setEntry]
    rcases either with new | old
    · rcases mem_cons.mp (show key ∈ entry.1 :: keys rest from new) with here | later
      · exact .inr (.inl here)
      · exact .inl later
    · exact .inr (.inr old)

theorem allocateLoop_names {out : List Response} :
    ∀ requests pending response (manager : AllocationManager), (∀ r ∈ response, r.allocationID ∈ keys pending) →
      (manager.allocateLoop devices domainName requests pending response).1 = .returned out →
      ∀ r ∈ out, Names (manager.allocateLoop devices domainName requests pending response).2 r := by
  intro requests
  induction requests with
  | nil =>
    intro pending response manager named done r member
    obtain rfl : response = out := by simpa [AllocationManager.allocateLoop] using done
    exact .inl (mem_keys_recordLocal pending manager (.inl (named r member)))
  | cons request rest ih =>
    intro pending response manager named
    obtain ⟨request, answers⟩ := request
    rw [AllocationManager.allocateLoop]
    cases (serveRequest devices request answers).1 with
    | undefined => intro done; cases done
    | raised => intro done; cases done
    | unserved => exact ih pending response _ named
    | satisfied node allocated =>
      apply ih
      intro r member
      rw [keys, map_append, mem_append]
      rcases mem_append.mp member with old | new
      · exact .inl (named r old)
      · obtain rfl := mem_singleton.mp new
        exact .inr (by simp [assembleResponse])

theorem allocateLocal_names {manager : AllocationManager} {out : List Response}
    (done : (manager.allocateLocal devices domainName requests).1 = .returned out) :
    ∀ r ∈ out, Names (manager.allocateLocal devices domainName requests).2 r := by
  rw [AllocationManager.allocateLocal] at done ⊢
  split at done
  · obtain rfl : [] = out := by simpa using done
    intro r member
    cases member
  · rename_i more
    rw [if_neg more]
    exact allocateLoop_names requests [] [] manager (fun r member => by cases member) done

theorem recordRemote_names {allocationManager : Nat} {r : Response} :
    ∀ (responses : List Response) (manager : AllocationManager), r ∈ responses ∨ Names manager r →
      Names (responses.foldl (AllocationManager.recordRemote domainName allocationManager) manager) r := by
  intro responses
  induction responses with
  | nil =>
    intro manager either
    exact either.resolve_left (by simp)
  | cons response rest ih =>
    intro manager either
    apply ih
    rcases either with new | named
    · rcases mem_cons.mp new with rfl | later
      · exact .inr (.inr (mem_keys_setEntry.mpr (.inl rfl)))
      · exact .inl later
    · rcases named with local' | remote
      · exact .inr (.inl local')
      · exact .inr (.inr (mem_keys_setEntry.mpr (.inr remote)))

theorem remoteLoop_names {requests : Nat} {domainName : String} {out : List Response} :
    ∀ remotes remaining result (manager : AllocationManager), (∀ r ∈ result, Names manager r) →
      (manager.remoteLoop requests domainName remotes remaining result).1 = .returned out →
      ∀ r ∈ out, Names (manager.remoteLoop requests domainName remotes remaining result).2 r := by
  intro remotes
  induction remotes with
  | nil =>
    intro remaining result manager named done
    obtain rfl : result = out := by simpa [AllocationManager.remoteLoop] using done
    exact named
  | cons remote rest ih =>
    intro remaining result manager named
    obtain ⟨allocationManager, answer⟩ := remote
    simp only [AllocationManager.remoteLoop]
    split
    · intro done
      obtain rfl : result = out := by simpa using done
      exact named
    · cases answer (AllocationManager.unfilledRequests remaining result) with
      | none => intro done; cases done
      | some newResult =>
        apply ih
        intro r member
        apply recordRemote_names
        rcases mem_append.mp member with old | new
        · exact .inr (named r old)
        · exact .inl new

theorem allocate_names {manager : AllocationManager} {out : List Response}
    (done : (manager.allocate devices domainName remotes requests).1 = .returned out) :
    ∀ r ∈ out, Names (manager.allocate devices domainName remotes requests).2 r := by
  simp only [AllocationManager.allocate] at done ⊢
  cases served : (manager.allocateLocal devices domainName requests).1 with
  | raised => simp [served] at done
  | undefined => simp [served] at done
  | returned result =>
    have named := allocateLocal_names served
    simp only [served] at done ⊢
    split at done
    · rename_i short
      rw [if_pos short]
      exact remoteLoop_names _ _ _ _ named done
    · rename_i full
      rw [if_neg full]
      obtain rfl : result = out := by simpa using done
      exact named

def Covers (allocationIDs : List Nat) (manager : AllocationManager) : Prop :=
  ∀ id, (if id ∈ keys manager.allocations then 1 else 0) +
    (if id ∈ keys manager.remoteAllocations then 1 else 0) ≤ allocationIDs.count id

theorem keys_eq_nil (none : ∀ id, id ∉ keys table) : table = [] := by
  cases table with
  | nil => rfl
  | cons entry rest => exact absurd mem_cons_self (none entry.1)

theorem deallocateSingle_keys {id : Nat} (done : manager.deallocateSingle answers id = some after) :
    (id ∈ keys manager.allocations ∧ after.allocations = eraseEntry manager.allocations id ∧
        after.remoteAllocations = manager.remoteAllocations) ∨
      (id ∉ keys manager.allocations ∧ id ∈ keys manager.remoteAllocations ∧
        after.allocations = manager.allocations ∧
        after.remoteAllocations = eraseEntry manager.remoteAllocations id) := by
  rw [AllocationManager.deallocateSingle, AllocationManager.deallocateLocal] at done
  cases local' : manager.allocations.lookup id with
  | some entry =>
    simp only [local'] at done
    obtain rfl := Option.some.inj done
    have known : ¬ id ∉ keys manager.allocations := by
      rw [← lookup_none_iff, local']
      simp
    exact .inl ⟨not_not.mp known, rfl, rfl⟩
  | none =>
    simp only [local', AllocationManager.deallocateRemote] at done
    cases remote : manager.remoteAllocations.lookup id with
    | none => simp [remote] at done
    | some entry =>
      simp only [remote] at done
      obtain rfl := Option.some.inj done
      have known : ¬ id ∉ keys manager.remoteAllocations := by
        rw [← lookup_none_iff, remote]
        simp
      exact .inr ⟨lookup_none_iff.mp local', not_not.mp known, rfl, rfl⟩

theorem deallocateSingle_none {manager : AllocationManager} {answers : ReleaseAnswers} {id : Nat}
    (unknown : manager.deallocateSingle answers id = none) :
    id ∉ keys manager.allocations ∧ id ∉ keys manager.remoteAllocations := by
  rw [AllocationManager.deallocateSingle, AllocationManager.deallocateLocal] at unknown
  cases local' : manager.allocations.lookup id with
  | some entry => simp [local'] at unknown
  | none =>
    simp only [local', AllocationManager.deallocateRemote] at unknown
    cases remote : manager.remoteAllocations.lookup id with
    | some entry => simp [remote] at unknown
    | none => exact ⟨lookup_none_iff.mp local', lookup_none_iff.mp remote⟩

theorem deallocate_empties {answers : Nat → ReleaseAnswers} :
    ∀ {allocationIDs} {manager : AllocationManager}, Covers allocationIDs manager →
      (manager.deallocate answers allocationIDs).2.allocations = [] ∧
        (manager.deallocate answers allocationIDs).2.remoteAllocations = [] := by
  intro allocationIDs
  induction allocationIDs with
  | nil =>
    intro manager covers
    have none : ∀ id, id ∉ keys manager.allocations ∧ id ∉ keys manager.remoteAllocations := by
      intro id
      simpa using covers id
    exact ⟨keys_eq_nil fun id => (none id).1, keys_eq_nil fun id => (none id).2⟩
  | cons id rest ih =>
    intro manager covers
    rw [AllocationManager.deallocate]
    cases single : manager.deallocateSingle (answers id) id with
    | some after =>
      apply ih
      intro other
      have bound := covers other
      rw [count_cons] at bound
      rcases deallocateSingle_keys single with ⟨known, gone, kept⟩ | ⟨-, known, kept, gone⟩
      all_goals
        simp only [gone, kept, mem_keys_eraseEntry]
        by_cases same : other = id
        · subst same
          simp only [known, beq_self_eq_true, if_true] at bound
          simp only [ne_eq, not_true_eq_false, false_and, if_false]
          omega
        · have differ : (id == other) = false := by simpa using Ne.symm same
          simpa [differ, same] using bound
    | none =>
      apply ih
      intro other
      have bound := covers other
      rw [count_cons] at bound
      obtain ⟨first, second⟩ := deallocateSingle_none single
      by_cases same : other = id
      · subst same
        simp [first, second]
      · have differ : (id == other) = false := by simpa using Ne.symm same
        simpa [differ] using bound

inductive Event where
  | allocate (devices : List DeviceNode) (domainName : String)
      (remotes : List (Nat × (List Request → Option (List Response))))
      (requests : List (Request × Answers))
  | allocateLocal (devices : List DeviceNode) (domainName : String) (requests : List (Request × Answers))
  | deallocate (allocationIDs : List Nat) (answers : Nat → ReleaseAnswers)

namespace AllocationManager

def step : Event → AllocationManager → AllocationManager
  | .allocate devices domainName remotes requests, manager =>
    (manager.allocate devices domainName remotes requests).2
  | .allocateLocal devices domainName requests, manager =>
    (manager.allocateLocal devices domainName requests).2
  | .deallocate allocationIDs answers, manager => (manager.deallocate answers allocationIDs).2

end AllocationManager

/-- Backing out and deallocating work on the devices, the lists of requested devices keep the filter
within its list, and no request raises once the batch holds capacity. -/
def Harmless : Event → AllocationManager → Prop
  | .allocate devices _ _ requests, _ =>
    BacksOut requests ∧ Defined devices requests ∧ NothingLost devices requests
  | .allocateLocal devices _ requests, _ =>
    BacksOut requests ∧ Defined devices requests ∧ NothingLost devices requests
  | .deallocate allocationIDs answers, _ => ∀ id ∈ allocationIDs, (answers id).Releases

theorem step_accounted (event : Event) (manager : AllocationManager)
    (accounted : Accounted [] manager) (harmless : Harmless event manager) :
    Accounted [] (AllocationManager.step event manager) := by
  cases event with
  | allocate devices domainName remotes requests =>
    obtain ⟨backsOut, defined, lossless⟩ := harmless
    exact allocate_accounted backsOut defined lossless accounted
  | allocateLocal devices domainName requests =>
    obtain ⟨backsOut, defined, lossless⟩ := harmless
    exact allocateLocal_accounted backsOut defined lossless accounted
  | deallocate allocationIDs answers => exact accounted.deallocate harmless

def tuner : DeviceNode := ⟨"tuner", 0, 0, [("capacity", true)], []⟩

def granting : Answers where
  identifier device := if device = 0 then some "tuner" else none
  device _ :=
    { objectExists := true
      busy := some false
      matchesProperty := fun _ => some true
      convert := some
      allocateCapacity := fun _ => .granted
      deallocateCapacity := fun _ => true }

def requestNamed (name : String) (requestedDevices : List (Option DeviceRef)) : Request :=
  ⟨name, [("capacity", "1")], requestedDevices, "source"⟩

end Redhawk.Allocation
