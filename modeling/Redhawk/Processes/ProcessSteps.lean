import Redhawk.Processes.ProcessBooks

/-!
What each event does to the books, when nothing registers or exits in the middle of its launch
and no name is shared.
-/

namespace Redhawk.Processes

open Library List

namespace DeviceManager

def processName (kind : Kind) (identifier label : String) : String :=
  match kind with
  | .device => identifier
  | .service => label

/-- The events that happen in order: a launched device or service registers, and is reported as
exited, after its node was added; nothing else has its name; and the profile of a registering
device is found. -/
def Orderly (event : Event) (self : DeviceManager) : Prop :=
  match event with
  | .fork _ kind identifier label =>
    (∀ process ∈ self.running, process.kind = kind → process.name ≠ processName kind identifier label) ∧
    (kind = .service → ∀ node ∈ self.services.registered, node.label ≠ label)
  | .registerDevice (.launched launch) _ _ =>
    (∀ process ∈ self.launching, process.launch ≠ launch) ∧
    ∀ process ∈ self.running, process.launch = launch → self.findProfile process.identifier = true
  | .registerDevice (.other _ identifier) _ _ =>
    self.findProfile identifier = true ∧
    ∀ process ∈ self.running, process.kind = .device → process.identifier ≠ identifier
  | .registerService (.launched launch) _ =>
    ∀ process ∈ self.launching, process.launch ≠ launch
  | .registerService (.other _ name) _ =>
    ∀ process ∈ self.running, process.kind = .service → process.label ≠ name
  | .childExited pid => ∀ process ∈ self.launching, process.pid ≠ pid
  | _ => True

variable {kind : Kind}

theorem Attached.mono {running more : List Process} {node : Node}
    (attached : Attached running kind node) (grows : ∀ process ∈ running, process ∈ more)
    (names : kind = .service → ∀ process ∈ more, process ∈ running ∨
      (process.kind = .service → process.label ≠ node.label)) :
    Attached more kind node := by
  cases kind with
  | device =>
      rcases attached with ⟨process, runs, facts⟩ | foreign
      · exact Or.inl ⟨process, grows process runs, facts⟩
      · exact Or.inr foreign
  | service =>
      rcases attached with positive | apart
      · exact Or.inl positive
      · refine Or.inr ?_
        intro process runs isService
        rcases names rfl process runs with before | new
        · exact apart process before isService
        · exact new isService

variable {process : Process}

theorem name_of_kind (same : process.kind = kind) :
    process.name = processName kind process.identifier process.label := by
  subst same
  rfl

variable {self : DeviceManager} {pid : Nat}

theorem kept_fork (kept : Kept self)
    {identifier label : String} (orderly : Orderly (.fork pid kind identifier label) self) :
    Kept (self.fork pid kind identifier label) := by
  obtain ⟨names, labels⟩ := orderly
  unfold fork
  split
  · exact kept
  · next free =>
      rw [not_or] at free
      obtain ⟨positive, unused⟩ := free
      have fresh : ∀ process ∈ self.running, process.launch ≠ self.launches := by
        intro process runs
        have bound := kept.launchBound process runs
        omega
      constructor
      · exact kept.alive
      · rw [map_append, nodup_append]
        refine ⟨kept.pids, nodup_singleton _, ?_⟩
        intro first firstMember second secondMember
        rw [map_singleton, mem_singleton] at secondMember
        rintro rfl
        rw [secondMember] at firstMember
        exact unused firstMember
      · exact forall_mem_concat.mpr ⟨kept.positive, positive⟩
      · rw [map_append, nodup_append]
        refine ⟨kept.launches, nodup_singleton _, ?_⟩
        intro first firstMember second secondMember
        rw [map_singleton, mem_singleton] at secondMember
        obtain ⟨process, runs, rfl⟩ := mem_map.mp firstMember
        rw [secondMember]
        exact fresh process runs
      · intro process member
        rcases mem_append.mp member with earlier | added
        · have bound := kept.launchBound process earlier
          show process.launch < self.launches + 1
          omega
        · rw [mem_singleton.mp added]
          exact Nat.lt_succ_self _
      · intro process member
        rcases mem_append.mp member with earlier | added
        · exact mem_append_left _ (kept.launchingRuns process earlier)
        · exact mem_append_right _ added
      · intro first firstMember second secondMember sameKind sameName
        rcases mem_append.mp firstMember with firstEarlier | firstAdded
        · rcases mem_append.mp secondMember with secondEarlier | secondAdded
          · exact kept.names first firstEarlier second secondEarlier sameKind sameName
          · rw [mem_singleton] at secondAdded
            subst secondAdded
            exact absurd sameName (names first firstEarlier sameKind)
        · rw [mem_singleton] at firstAdded
          subst firstAdded
          rcases mem_append.mp secondMember with secondEarlier | secondAdded
          · exact absurd sameName.symm (names second secondEarlier sameKind.symm)
          · exact (mem_singleton.mp secondAdded).symm
      · intro other
        refine (kept.books other).trans (Perm.of_eq ?_)
        -- the new process is not settled, and the launch numbers of the others differ
        unfold settled
        rw [filter_append, filter_cons_of_neg (by simp), filter_nil, append_nil]
        congr 1
        apply filter_congr
        intro process runs
        have different : process ≠ ⟨pid, self.launches, kind, identifier, label⟩ := by
          rintro rfl
          exact fresh _ runs rfl
        simp [different]
      · exact kept.pendingPids
      · intro other node member
        apply Attached.mono (kept.attached other node member)
        · intro process runs
          exact mem_append_left _ runs
        · rintro rfl process runs
          rcases mem_append.mp runs with earlier | added
          · exact Or.inl earlier
          · refine Or.inr ?_
            rw [mem_singleton.mp added]
            intro isService
            exact (labels isService node member).symm

theorem settled_added (kept : Kept self) (member : process ∈ self.launching) (kind : Kind) :
    (self.running.filter fun other =>
        other.kind = kind ∧ other ∉ self.launching.filter fun other =>
          other.launch ≠ process.launch).Perm
      (if process.kind = kind then process :: self.settled kind else self.settled kind) := by
  have runs := kept.launchingRuns process member
  have still : ∀ other ∈ self.running,
      (other ∉ self.launching.filter fun other => other.launch ≠ process.launch) ↔
        (other ∉ self.launching ∨ other = process) := by
    intro other otherRuns
    rw [mem_filter, not_and]
    constructor
    · intro gone
      by_cases inLaunch : other ∈ self.launching
      · have same : other.launch = process.launch := by simpa using gone inLaunch
        exact Or.inr (process_eq_of_launch kept otherRuns runs same)
      · exact Or.inl inLaunch
    · rintro (absent | rfl) inLaunch
      · exact absurd inLaunch absent
      · simp
  have distinct : self.running.Nodup := kept.pids.of_map
  by_cases same : process.kind = kind
  · rw [if_pos same]
    have unsettled : process ∉ self.settled kind := by
      intro settled
      exact (mem_settled.mp settled).2.2 member
    rw [perm_ext_iff_of_nodup (distinct.filter _) (nodup_cons.mpr ⟨unsettled, distinct.filter _⟩)]
    intro other
    rw [mem_filter, mem_cons, mem_settled, decide_eq_true_iff]
    constructor
    · rintro ⟨otherRuns, isKind, free⟩
      rcases (still other otherRuns).mp free with absent | rfl
      · exact Or.inr ⟨otherRuns, isKind, absent⟩
      · exact Or.inl rfl
    · rintro (rfl | ⟨otherRuns, isKind, absent⟩)
      · exact ⟨runs, same, (still other runs).mpr (Or.inr rfl)⟩
      · exact ⟨otherRuns, isKind, (still other otherRuns).mpr (Or.inl absent)⟩
  · rw [if_neg same]
    refine Perm.of_eq (filter_congr ?_)
    intro other otherRuns
    rw [decide_eq_decide, still other otherRuns]
    constructor
    · rintro ⟨isKind, absent | rfl⟩
      · exact ⟨isKind, absent⟩
      · exact absurd isKind same
    · rintro ⟨isKind, absent⟩
      exact ⟨isKind, Or.inl absent⟩

theorem kept_addPending (kept : Kept self) (launch : Nat) : Kept (self.addPending launch) := by
  unfold addPending
  cases result : self.launching.find? fun process => process.launch == launch with
  | none => exact kept
  | some process =>
      have member := mem_of_find?_eq_some result
      have runs := kept.launchingRuns process member
      have isLaunch : process.launch = launch := by simpa using find?_some result
      subst isLaunch
      constructor
      · simpa using kept.alive
      · simpa using kept.pids
      · simpa using kept.positive
      · simpa using kept.launches
      · simpa using kept.launchBound
      · intro other otherMember
        rw [withLists_running]
        exact kept.launchingRuns other (mem_of_mem_filter otherMember)
      · simpa using kept.names
      · intro kind
        simp only [settled, withLists_running]
        refine Perm.trans ?_ ((settled_added kept member kind).symm.map _)
        by_cases same : process.kind = kind
        · subst same
          show (Processes.books process.kind ((self.withLists process.kind _).lists process.kind).nodes).Perm _
          rw [lists_withLists, if_pos rfl, map_cons]
          simp only [NodeLists.nodes, append_assoc, singleton_append]
          refine (books_perm _ perm_middle).trans ?_
          rw [books_cons, if_pos (kept.positive process runs)]
          exact (kept.books process.kind).cons _
        · show (Processes.books kind ((self.withLists process.kind _).lists kind).nodes).Perm _
          rw [lists_withLists_of_ne self _ (Ne.symm same), if_neg same]
          exact kept.books kind
      · intro kind node nodeMember
        by_cases same : process.kind = kind
        · subst same
          change node ∈ ((self.withLists process.kind _).lists process.kind).pending at nodeMember
          rw [lists_withLists] at nodeMember
          rcases mem_append.mp nodeMember with earlier | added
          · exact kept.pendingPids process.kind node earlier
          · rw [mem_singleton.mp added]
            exact kept.positive process runs
        · change node ∈ ((self.withLists process.kind _).lists kind).pending at nodeMember
          rw [lists_withLists_of_ne self _ (Ne.symm same)] at nodeMember
          exact kept.pendingPids kind node nodeMember
      · intro kind node nodeMember
        simp only [withLists_running]
        by_cases same : process.kind = kind
        · subst same
          change node ∈ ((self.withLists process.kind _).lists process.kind).registered at nodeMember
          rw [lists_withLists] at nodeMember
          exact kept.attached process.kind node nodeMember
        · change node ∈ ((self.withLists process.kind _).lists kind).registered at nodeMember
          rw [lists_withLists_of_ne self _ (Ne.symm same)] at nodeMember
          exact kept.attached kind node nodeMember

theorem takeNode_absent {lists : NodeLists}
    (absent : ∀ node ∈ lists.nodes, node.pid ≠ pid) : takeNode lists pid = (none, lists) := by
  have pending : lists.pending.find? (fun node => node.pid == pid) = none := by
    rw [find?_eq_none]
    intro node member
    simpa using absent node (mem_append_left _ member)
  have registered : lists.registered.find? (fun node => node.pid == pid) = none := by
    rw [find?_eq_none]
    intro node member
    simpa using absent node (mem_append_right _ member)
  simp only [takeNode, pending, registered]

theorem takeNode_present {lists : NodeLists} (present : ∃ node ∈ lists.nodes, node.pid = pid) :
    ∃ node rest, takeNode lists pid = (some node, rest) ∧ node.pid = pid ∧ lists.nodes.Perm (node :: rest.nodes) ∧
      (∀ other ∈ rest.pending, other ∈ lists.pending) ∧
      ∀ other ∈ rest.registered, other ∈ lists.registered := by
  unfold takeNode
  cases inPending : lists.pending.find? fun node => node.pid == pid with
  | some node =>
      refine ⟨node, _, rfl, by simpa using find?_some inPending, ?_, ?_, ?_⟩
      · exact (perm_of_find? inPending).append_right lists.registered
      · intro other member
        exact mem_of_mem_eraseP member
      · intro other member
        exact member
  | none =>
      cases inRegistered : lists.registered.find? fun node => node.pid == pid with
      | some node =>
          refine ⟨node, _, rfl, by simpa using find?_some inRegistered, ?_, ?_, ?_⟩
          · exact ((perm_of_find? inRegistered).append_left lists.pending).trans perm_middle
          · intro other member
            exact member
          · intro other member
            exact mem_of_mem_eraseP member
      | none =>
          rw [find?_eq_none] at inPending inRegistered
          obtain ⟨node, member, same⟩ := present
          rcases mem_append.mp member with pending | registered
          · exact absurd (by simpa using same) (inPending node pending)
          · exact absurd (by simpa using same) (inRegistered node registered)

section

variable (kept : Kept self) (settled : process ∈ self.settled process.kind)
include kept settled

theorem childExited_takes :
    ∃ node rest, node.pid = process.pid ∧ (self.lists process.kind).nodes.Perm (node :: rest.nodes) ∧
      (∀ other ∈ rest.pending, other ∈ (self.lists process.kind).pending) ∧
      (∀ other ∈ rest.registered, other ∈ (self.lists process.kind).registered) ∧
      ∀ running, ({ self with running := running } : DeviceManager).childExited process.pid =
        { self.withLists process.kind rest with
          running := running, freed := self.freed ++ [node.address] } := by
  have runs := (mem_settled.mp settled).1
  have positive := kept.positive process runs
  obtain ⟨own, ownMember, ownPid, _⟩ := node_of_process kept settled
  have elsewhere : ∀ kind, kind ≠ process.kind → ∀ node ∈ (self.lists kind).nodes, node.pid ≠ process.pid := by
    intro kind different node member same
    obtain ⟨other, otherSettled, otherPid, _⟩ :=
      process_of_node kept member (same ▸ positive)
    have isProcess := process_eq_of_pid kept (mem_settled.mp otherSettled).1 runs
      (otherPid.trans same)
    exact different ((mem_settled.mp otherSettled).2.1.symm.trans (by rw [isProcess]))
  obtain ⟨node, rest, taken, nodePid, perm, pending, registered⟩ :=
    takeNode_present ⟨own, ownMember, ownPid⟩
  refine ⟨node, rest, nodePid, perm, pending, registered, ?_⟩
  intro running
  cases kind : process.kind with
  | device =>
      rw [kind] at taken
      have others := takeNode_absent (elsewhere .service (by rw [kind]; decide))
      simp only [lists] at taken others
      simp only [childExited, taken, others, withLists]
  | service =>
      rw [kind] at taken
      have others := takeNode_absent (elsewhere .device (by rw [kind]; decide))
      simp only [lists] at taken others
      simp only [childExited, taken, others, withLists]

theorem settled_removed (kind : Kind) :
    (self.settled kind).Perm
      (if process.kind = kind then
        process :: (self.running.filter fun other => other.pid ≠ process.pid).filter fun other =>
          other.kind = kind ∧ other ∉ self.launching
      else (self.running.filter fun other => other.pid ≠ process.pid).filter fun other =>
        other.kind = kind ∧ other ∉ self.launching) := by
  have runs := (mem_settled.mp settled).1
  have swap : (self.running.filter fun other => other.pid ≠ process.pid).filter (fun other =>
      other.kind = kind ∧ other ∉ self.launching) =
      (self.settled kind).filter fun other => other.pid != process.pid := by
    unfold DeviceManager.settled
    rw [filter_filter, filter_filter]
    apply filter_congr
    intro other _
    rw [Bool.and_comm]
    rw [Bool.eq_iff_iff]
    simp
  rw [swap]
  by_cases same : process.kind = kind
  · subst same
    rw [if_pos rfl]
    exact perm_cons_filter_key_ne ((filter_sublist.map _).nodup kept.pids) settled
  · rw [if_neg same]
    refine Perm.of_eq (Eq.symm ?_)
    rw [filter_eq_self]
    intro other member
    rw [bne_iff_ne]
    intro samePid
    have isProcess := process_eq_of_pid kept (mem_settled.mp member).1 runs samePid
    exact same (isProcess ▸ (mem_settled.mp member).2.1)

theorem books_removed {node : Node} {rest : NodeLists} (nodePid : node.pid = process.pid)
    (perm : (self.lists process.kind).nodes.Perm (node :: rest.nodes)) (kind : Kind) :
    (Processes.books kind ((self.withLists process.kind rest).lists kind).nodes).Perm
      (((self.running.filter fun other => other.pid ≠ process.pid).filter fun other =>
        other.kind = kind ∧ other ∉ self.launching).map fun other =>
          (other.pid, other.name)) := by
  have runs := (mem_settled.mp settled).1
  have positive := kept.positive process runs
  have removed := (settled_removed kept settled kind).map fun other => (other.pid, other.name)
  by_cases same : process.kind = kind
  · subst same
    rw [lists_withLists]
    rw [if_pos rfl, map_cons] at removed
    have before := (books_perm process.kind perm).symm.trans
      ((kept.books process.kind).trans removed)
    rw [books_cons, if_pos (nodePid ▸ positive)] at before
    have sameName : node.name process.kind = process.name := by
      obtain ⟨other, otherSettled, otherPid, otherName⟩ := process_of_node kept
        (perm.mem_iff.mpr mem_cons_self) (nodePid ▸ positive)
      have isProcess := process_eq_of_pid kept (mem_settled.mp otherSettled).1 runs
        (otherPid.trans nodePid)
      rw [← otherName, isProcess]
    rw [nodePid, sameName] at before
    exact before.cons_inv
  · rw [lists_withLists_of_ne self rest (Ne.symm same)]
    rw [if_neg same] at removed
    exact (kept.books kind).trans removed

theorem kept_childExited :
    Kept (({ self with running := self.running.filter fun other => other.pid ≠ process.pid } :
      DeviceManager).childExited process.pid) := by
  obtain ⟨node, rest, nodePid, perm, pending, registered, result⟩ :=
    childExited_takes kept settled
  have runs := (mem_settled.mp settled).1
  have remains : ∀ other ∈ self.running.filter fun other => other.pid ≠ process.pid,
      other ∈ self.running := fun other member => mem_of_mem_filter member
  have newBooks := books_removed kept settled nodePid perm
  have kept' : ∀ kind, (∀ other ∈ ((self.withLists process.kind rest).lists kind).pending,
        other ∈ (self.lists kind).pending) ∧
      ∀ other ∈ ((self.withLists process.kind rest).lists kind).registered,
        other ∈ (self.lists kind).registered := by
    intro kind
    by_cases same : kind = process.kind
    · subst same
      rw [lists_withLists]
      exact ⟨pending, registered⟩
    · rw [lists_withLists_of_ne self rest same]
      exact ⟨fun _ member => member, fun _ member => member⟩
  rw [result]
  constructor
  · simpa using kept.alive
  · exact (filter_sublist.map _).nodup kept.pids
  · intro other member
    exact kept.positive other (remains other member)
  · exact (filter_sublist.map _).nodup kept.launches
  · intro other member
    simpa using kept.launchBound other (remains other member)
  · intro other member
    rw [withLists_launching] at member
    refine mem_filter.mpr ⟨kept.launchingRuns other member, ?_⟩
    rw [decide_eq_true_iff]
    intro same
    have isProcess := process_eq_of_pid kept (kept.launchingRuns other member) runs same
    exact (mem_settled.mp settled).2.2 (isProcess ▸ member)
  · intro first firstMember second secondMember
    exact kept.names first (remains first firstMember) second (remains second secondMember)
  · intro kind
    simp only [DeviceManager.settled, withLists_launching]
    exact newBooks kind
  · intro kind other member
    exact kept.pendingPids kind other ((kept' kind).1 other member)
  · intro kind other member
    have before := kept.attached kind other ((kept' kind).2 other member)
    cases kind with
    | device =>
        rcases before with ⟨attached, attachedRuns, samePid, reference⟩ | foreign
        · refine Or.inl ⟨attached, ?_, samePid, reference⟩
          have entry : (other.pid, other.name .device) ∈ Processes.books .device
              ((self.withLists process.kind rest).lists .device).nodes :=
            mem_books.mpr ⟨other, mem_append_right _ member, rfl, rfl,
              samePid ▸ kept.positive attached attachedRuns⟩
          rw [(newBooks .device).mem_iff, mem_map] at entry
          obtain ⟨survivor, survives, same⟩ := entry
          rw [Prod.mk.injEq] at same
          have stays := mem_of_mem_filter survives
          have isSurvivor := process_eq_of_pid kept (remains survivor stays) attachedRuns
            (same.1.trans samePid.symm)
          exact isSurvivor ▸ stays
        · exact Or.inr foreign
    | service =>
        rcases before with positive | apart
        · exact Or.inl positive
        · exact Or.inr fun survivor stays => apart survivor (remains survivor stays)

end

end DeviceManager

end Redhawk.Processes
