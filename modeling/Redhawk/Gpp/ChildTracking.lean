import Redhawk.Gpp.ProcessTable

/-!
What the process table tells of the children forked: the invariant of its steps, and the order of
steps under which it holds.
-/

namespace Redhawk.Gpp

open Library Handler ComponentDescription ProcessList List Option

def Handler.cleans (index : Nat) : Handler → Bool
  | .cleaning call => call.child == some index
  | _ => false

def Handler.loop : Handler → Option WaitLoop
  | .idle => none
  | .waiting loop => some loop
  | .cleaning call => call.loop

def Handler.call : Handler → Option Cleanup
  | .cleaning call => some call
  | _ => none

def Handler.names (pid : Nat) (handler : Handler) : Bool :=
  (handler.loop.any fun loop => loop.ssi_pid == pid) ||
    handler.call.any fun call => call.pid == pid

def GppProcesses.names (pid : Nat) (gpp : GppProcesses) : Bool :=
  gpp.signals.contains pid || gpp.handler.names pid ||
    gpp.calls.any fun call => call.processId == pid

/-- `execute` records its child before the handler cleans up after it, a `terminate` call removes
no entry of a living child, and the kernel gives a PID out again only when nothing under way goes
by it. -/
def orderly : ProcessEvent → GppProcesses → Bool
  | .fork pid _ _, gpp => !gpp.names pid
  | .cleanup, gpp =>
      match gpp.handler with
      | .cleaning ⟨_, _, .mark, some index, _⟩ => gpp.children[index]?.all Child.added
      | _ => true
  | .removeProcess processId, gpp =>
      !gpp.calls.contains ⟨processId, false⟩ || (gpp.pids.find processId).all fun entry =>
        gpp.children[entry.child]?.all fun child => child.exit.isSome
  | _, _ => true

def sentFor (index : Nat) (notifications : List Notification) : List Notification :=
  notifications.filter fun notification => notification.child = index

/-- `execute` has returned, no `terminate` call goes by its PID, and the handler is not at its
cleanup. -/
structure Child.Quiet (gpp : GppProcesses) (index : Nat) (child : Child) : Prop where
  added : child.added = true
  called : ∀ call ∈ gpp.calls, call.processId ≠ child.pid
  handled : gpp.handler.cleans index = false

structure ChildrenTracked (gpp : GppProcesses) : Prop where
  gone : ∀ (index : Nat) (child : Child), gpp.children[index]? = some child → child.collected = true →
    child.Quiet gpp index → ∀ entry ∈ gpp.pids.entries, entry.child ≠ index
  listed : ∀ (index : Nat) (child : Child), gpp.children[index]? = some child → child.exit = none →
    child.added = true → ∃ entry, (gpp.pids.entries.filter fun entry => entry.pid = child.pid) =
      [entry] ∧ entry.child = index ∧ entry.appName = child.appName ∧
      entry.identifier = child.identifier
  once : ∀ index, (sentFor index gpp.notifications).length ≤ 1
  notified : ∀ (index : Nat) (child : Child), gpp.children[index]? = some child → child.collected = true →
    gpp.handler.cleans index = false → Status.unexpected child.exit = true →
    child.requested = false →
    sentFor index gpp.notifications = [⟨child.identifier, child.appName, index⟩]

structure ComponentDescription.Describes (handler : Handler) (entry : ComponentDescription)
    (child : Child) : Prop where
  pid : entry.pid = child.pid
  appName : entry.appName = child.appName
  identifier : entry.identifier = child.identifier
  added : child.added = true
  terminated : entry.terminated = true → child.requested = true ∨ child.cleaned = true
  collected : child.collected = true → handler.cleans entry.child = true

structure Cleanup.Follows (notifications : List Notification) (call : Cleanup) (index : Nat)
    (child : Child) : Prop where
  pid : child.pid = call.pid
  status : child.exit = call.status
  collected : child.collected = true
  cleaned : child.cleaned = true ↔ call.stage ≠ .mark
  notifying : ∀ comp, call.stage = .notify comp → comp.appName = child.appName ∧
    comp.identifier = child.identifier ∧ comp.child = index ∧ sentFor index notifications = []
  removing : call.stage = .remove → Status.unexpected child.exit = true → child.requested = false →
    sentFor index notifications = [⟨child.identifier, child.appName, index⟩]

structure Child.Sound (gpp : GppProcesses) (index : Nat) (child : Child) : Prop where
  cleaned : child.cleaned = true → child.added = true ∧ child.collected = true
  collected : child.collected = true → child.exit ≠ none
  begun : child.collected = true → child.cleaned = true ∨ gpp.handler.cleans index = true
  present : child.added = true → child.cleaned = false →
    (∃ entry, gpp.pids.find child.pid = some entry ∧ entry.child = index) ∨
      child.requested = true ∧ child.exit ≠ none
  signalled : child.pid ∈ gpp.signals → child.exit ≠ none
  awaited : ∀ loop, gpp.handler.loop = some loop → child.pid = loop.ssi_pid → child.exit ≠ none
  swept : ∀ call, gpp.handler = .cleaning call → child.pid = call.pid →
    child.collected = true ∧ (call.child = none → child.cleaned = true)
  called : (∃ call ∈ gpp.calls, call.processId = child.pid) → child.cleaned = false → child.requested = true
  silent : child.cleaned = false → sentFor index gpp.notifications = []
  notified : child.cleaned = true → gpp.handler.cleans index = false →
    Status.unexpected child.exit = true → child.requested = false →
    sentFor index gpp.notifications = [⟨child.identifier, child.appName, index⟩]

structure TableSound (gpp : GppProcesses) : Prop where
  alone : ∀ (i j : Nat) (one other : Child), gpp.children[i]? = some one →
    gpp.children[j]? = some other → one.pid = other.pid → one.collected = false →
    other.collected = false → i = j
  child : ∀ (i : Nat) (child : Child), gpp.children[i]? = some child → child.Sound gpp i
  entries : ∀ pid entry, gpp.pids.find pid = some entry → ∃ child,
    gpp.children[entry.child]? = some child ∧ entry.Describes gpp.handler child
  cleaning : ∀ call, gpp.handler = .cleaning call →
    (call.child = none → call.stage = .mark) ∧ ∀ index, call.child = some index →
      ∃ child, gpp.children[index]? = some child ∧ call.Follows gpp.notifications index child
  sent : ∀ notification ∈ gpp.notifications, notification.child < gpp.children.length
  once : ∀ index, (sentFor index gpp.notifications).length ≤ 1

variable {gpp : GppProcesses} {index i : Nat} {child : Child}

theorem modify_some {children : List Child} {update : Child → Child}
    : (children.modify index update)[i]? = some child ↔
      ∃ old, children[i]? = some old ∧ child = if index = i then update old else old := by
  rw [getElem?_modify]
  cases children[i]? with
  | none => simp
  | some old => split <;> simp [eq_comm]

theorem append_some {children : List Child} {fresh : Child} :
    (children ++ [fresh])[i]? = some child ↔ children[i]? = some child ∨ i = children.length ∧ child = fresh := by
  rw [getElem?_append]
  split
  · have differs : i ≠ children.length := by omega
    simp [differs]
  · have beyond : children[i]? = none := getElem?_eq_none (by omega)
    rw [beyond]
    constructor
    · intro at_
      obtain ⟨bound, rfl⟩ := List.getElem?_eq_some_iff.mp at_
      simp only [length_singleton] at bound
      exact .inr ⟨by omega, by simp⟩
    · rintro (absent | ⟨rfl, rfl⟩)
      · exact absurd absent (by simp)
      · simp

variable {pid : Nat}

theorem Handler.names_eq_false {handler : Handler} (unnamed : handler.names pid = false) :
    (∀ loop, handler.loop = some loop → loop.ssi_pid ≠ pid) ∧
      ∀ call, handler = .cleaning call → call.pid ≠ pid := by
  rw [Handler.names, Bool.or_eq_false_iff] at unnamed
  refine ⟨fun loop waits same => ?_, ?_⟩
  · have awaited := unnamed.1
    simp [waits, same] at awaited
  · rintro call rfl same
    have cleaned := unnamed.2
    simp [Handler.call, same] at cleaned

@[simp] theorem Handler.loop_resume (loop : Option WaitLoop) : (resume loop).loop = loop := by
  cases loop <;> rfl

@[simp] theorem Handler.resume_ne_cleaning (loop : Option WaitLoop) (call : Cleanup) :
    resume loop ≠ .cleaning call := by
  cases loop <;> simp [resume]

variable {entry : ComponentDescription}

theorem TableSound.entry_of_collected (sound : TableSound gpp) (found : gpp.pids.find pid = some entry)
    (gone : ∀ (i : Nat) (child : Child), gpp.children[i]? = some child → child.pid = pid →
      child.collected = true) : gpp.handler.cleans entry.child = true := by
  obtain ⟨child, at_, describes⟩ := sound.entries pid entry found
  have own : child.pid = pid := describes.pid.symm.trans (find_pid found)
  exact describes.collected (gone _ child at_ own)

theorem Handler.cleans_iff {handler : Handler} : handler.cleans index = true ↔
    ∃ call, handler = .cleaning call ∧ call.child = some index := by
  cases handler <;> simp [cleans]

theorem TableSound.collected_of_cleans (sound : TableSound gpp) {j : Nat} {one other : Child}
    (cleans : gpp.handler.cleans i = true) (at_ : gpp.children[i]? = some one)
    (place : gpp.children[j]? = some other) (same : other.pid = one.pid) :
    other.collected = true := by
  obtain ⟨call, cleaning, mine⟩ := cleans_iff.mp cleans
  obtain ⟨own, found, follows⟩ := (sound.cleaning call cleaning).2 i mine
  rw [at_, some.injEq] at found
  subst found
  exact ((sound.child j other place).swept call cleaning (same.trans follows.pid)).1

variable {call : Cleanup}

section

variable (sound : TableSound gpp)
include sound

theorem TableSound.not_cleans (cleaning : gpp.handler = .cleaning call)
    (found : gpp.pids.find pid = some entry) (differs : pid ≠ call.pid) :
    ¬gpp.handler.cleans entry.child = true := by
  intro cleans
  obtain ⟨again, equal, mine⟩ := Handler.cleans_iff.mp cleans
  rw [cleaning, Handler.cleaning.injEq] at equal
  rw [← equal] at mine
  obtain ⟨child, at_, describes⟩ := sound.entries pid entry found
  obtain ⟨own, place, follows⟩ := (sound.cleaning call cleaning).2 entry.child mine
  rw [at_, some.injEq] at place
  subst place
  exact differs ((find_pid found).symm.trans (describes.pid.trans follows.pid))

theorem TableSound.unrecorded (at_ : gpp.children[index]? = some child) (fresh : child.added = false) :
    gpp.pids.find child.pid = none := by
  by_contra taken
  obtain ⟨entry, found⟩ := ne_none_iff_exists'.mp taken
  obtain ⟨other, place, describes⟩ := sound.entries _ entry found
  have same : other.pid = child.pid := describes.pid.symm.trans (find_pid found)
  have differs : entry.child ≠ index := by
    rintro rfl
    rw [at_, some.injEq] at place
    subst place
    simp [describes.added] at fresh
  have held := sound.child index child at_
  have uncleaned : child.cleaned = false := by
    by_contra cleaned
    simp [(held.cleaned (by simpa using cleaned)).1] at fresh
  have busy : child.collected = true → gpp.handler.cleans index = true := fun collected => by
    simpa [uncleaned] using held.begun collected
  -- Either child may be collected only while the handler is at it, and it is at one at a time.
  cases ours : child.collected <;> cases theirs : other.collected
  · exact differs (sound.alone _ _ other child place at_ same theirs ours)
  · have cleans := describes.collected theirs
    simp [sound.collected_of_cleans cleans place at_ same.symm] at ours
  · simp [sound.collected_of_cleans (busy ours) at_ place same] at theirs
  · obtain ⟨call, cleaning, mine⟩ := Handler.cleans_iff.mp (busy ours)
    obtain ⟨again, equal, yours⟩ := Handler.cleans_iff.mp (describes.collected theirs)
    rw [cleaning, Handler.cleaning.injEq] at equal
    rw [← equal, mine, some.injEq] at yours
    exact differs yours.symm

theorem TableSound.alone_modify {update : Child → Child}
    (keeps : ∀ child, (update child).pid = child.pid ∧
      ((update child).collected = false → child.collected = false)) (i j : Nat) (one other : Child)
    (at_ : (gpp.children.modify index update)[i]? = some one)
    (place : (gpp.children.modify index update)[j]? = some other) (same : one.pid = other.pid)
    (open_ : one.collected = false) (free : other.collected = false) : i = j := by
  obtain ⟨first, before, rfl⟩ := modify_some.mp at_
  obtain ⟨second, there, rfl⟩ := modify_some.mp place
  have kept : ∀ (old : Child) (k : Nat), (if index = k then update old else old).pid = old.pid ∧
      ((if index = k then update old else old).collected = false → old.collected = false) := by
    intro old k
    split
    · exact keeps old
    · exact ⟨rfl, id⟩
  rw [(kept first i).1, (kept second j).1] at same
  exact sound.alone i j first second before there same ((kept first i).2 open_) ((kept second j).2 free)

theorem TableSound.step_fork (pid : Nat) (appName identifier : String)
    (fresh : orderly (.fork pid appName identifier) gpp = true) :
    TableSound (processStep (.fork pid appName identifier) gpp) := by
  simp only [processStep]
  split
  · exact sound
  · rename_i held
    have unheld : ∀ child ∈ gpp.children, child.pid = pid → child.collected = true := by
      simpa [Child.holds] using held
    have unnamed : (∀ other ∈ gpp.signals, other ≠ pid) ∧ gpp.handler.names pid = false ∧
        ∀ call ∈ gpp.calls, call.processId ≠ pid := by
      simp only [orderly, GppProcesses.names, Bool.not_or, Bool.and_eq_true, Bool.not_eq_true',
        contains_eq_mem, decide_eq_false_iff_not, List.any_eq_false, beq_iff_eq] at fresh
      exact ⟨fun other member same => fresh.1.1 (same ▸ member), fresh.1.2, fresh.2⟩
    have idle := names_eq_false unnamed.2.1
    have silent : sentFor gpp.children.length gpp.notifications = [] := by
      refine filter_eq_nil_iff.mpr fun notification member same => ?_
      have bound := sound.sent notification member
      simp only [decide_eq_true_eq] at same
      omega
    refine ⟨?_, ?_, ?_, ?_, ?_, sound.once⟩
    · have := sound.alone
      grind [append_some]
    · intro i child place
      rcases append_some.mp place with before | ⟨rfl, rfl⟩
      · have held := sound.child i child before
        constructor <;> grind [Child.Sound]
      · constructor <;> grind
    · have := sound.entries
      grind [append_some]
    · have := sound.cleaning
      grind [append_some]
    · have := sound.sent
      grind

theorem TableSound.step_addProcess (index : Nat) : TableSound (processStep (.addProcess index) gpp) := by
  simp only [processStep]
  split
  · exact sound
  · rename_i child at_
    split
    · exact sound
    · rename_i fresh
      have absent := sound.unrecorded at_ (by simpa using fresh)
      have found : ∀ pid, (gpp.pids.addProcess child.pid child.appName child.identifier index).find
          pid = if pid = child.pid then
            some ⟨child.pid, child.appName, child.identifier, false, false, false, index⟩
          else gpp.pids.find pid := fun pid => find_addProcess _ _ _ absent
      refine ⟨?_, ?_, ?_, ?_, ?_, sound.once⟩
      · have := sound.alone
        grind [modify_some]
      · intro i changed place
        obtain ⟨old, before, rfl⟩ := modify_some.mp place
        have held := sound.child i old before
        by_cases own : index = i
        · subst own
          rw [at_, some.injEq] at before
          subst before
          rw [if_pos rfl]
          exact { held with
            cleaned := fun cleaned => ⟨rfl, (held.cleaned cleaned).2⟩
            present := fun _ _ => .inl ⟨_, (found child.pid).trans (if_pos rfl), rfl⟩ }
        · rw [if_neg own]
          refine { held with present := fun added uncleaned => ?_ }
          have kept := held.present added uncleaned
          grind
      · have := sound.entries
        have := sound.child index child at_
        grind [modify_some, Describes, Child.Sound]
      · have := sound.cleaning
        grind [modify_some, Cleanup.Follows]
      · have := sound.sent
        grind

theorem TableSound.step_exit (index : Nat) (status : Status)
    (merged : Bool) : TableSound (processStep (.exit index status merged) gpp) := by
  simp only [processStep]
  split
  · exact sound
  · split
    · exact sound
    · rename_i dead at_ alive
      have living : dead.exit = none := by simpa using alive
      have uncollected : dead.collected = false := by
        by_contra collected
        exact (sound.child index dead at_).collected (by simpa using collected) living
      have pending : ∀ pid ∈ if merged && !gpp.signals.isEmpty then gpp.signals else
          gpp.signals ++ [dead.pid], pid ∈ gpp.signals ∨ pid = dead.pid := by
        intro pid member
        split at member
        · exact .inl member
        · simpa using member
      generalize (if merged && !gpp.signals.isEmpty then gpp.signals else
        gpp.signals ++ [dead.pid]) = signals at pending ⊢
      refine ⟨sound.alone_modify fun _ => ⟨rfl, id⟩, ?_, ?_, ?_, by simpa using sound.sent, sound.once⟩
      · intro i child place
        obtain ⟨old, before, rfl⟩ := modify_some.mp place
        have held := sound.child i old before
        by_cases own : index = i
        · subst own
          rw [at_, some.injEq] at before
          subst before
          rw [if_pos rfl]
          exact { held with
            collected := fun _ => some_ne_none _
            present := fun added uncleaned =>
              (held.present added uncleaned).imp_right fun asked => ⟨asked.1, some_ne_none _⟩
            signalled := fun _ => some_ne_none _
            awaited := fun _ _ _ => some_ne_none _
            notified := fun cleaned => absurd (held.cleaned cleaned).2 (by simp [uncollected]) }
        · rw [if_neg own]
          refine { held with signalled := fun member exit => ?_ }
          rcases pending _ member with before | same
          · exact held.signalled before exit
          · cases collected : old.collected with
            | true => exact held.collected collected exit
            | false => exact own (sound.alone i index old dead before at_ same collected uncollected).symm
      · intro pid entry found
        obtain ⟨child, place, describes⟩ := sound.entries pid entry found
        refine ⟨_, modify_some.mpr ⟨child, place, rfl⟩, ?_⟩
        split
        · exact { describes with }
        · exact describes
      · intro call busy
        refine (sound.cleaning call busy).imp_right fun known other mine => ?_
        obtain ⟨own, place, follows⟩ := known other mine
        refine ⟨_, modify_some.mpr ⟨own, place, rfl⟩, ?_⟩
        rw [if_neg]
        · exact follows
        · rintro rfl
          rw [at_, some.injEq] at place
          subst place
          simp [follows.collected] at uncollected

theorem TableSound.step_read (status : Option Status) : TableSound (processStep (.read status) gpp) := by
  simp only [processStep]
  split
  · refine ⟨sound.alone, ?_, ?_, ?_, sound.sent, sound.once⟩
    · intro i child place
      have held := sound.child i child place
      constructor <;> grind [Child.Sound, cleans, loop]
    · have := sound.entries
      grind [Describes, cleans]
    · simp
  · exact sound

theorem TableSound.step_waitpid (index : Nat) : TableSound (processStep (.waitpid index) gpp) := by
  simp only [processStep]
  split
  · rename_i loop child waiting at_
    split
    · rename_i waits
      simp only [Child.waits, Bool.and_eq_true, Bool.not_eq_true'] at waits
      have self := sound.child index child at_
      have uncleaned : child.cleaned = false := by
        by_contra cleaned
        simp [(self.cleaned (by simpa using cleaned)).2] at waits
      refine ⟨sound.alone_modify fun _ => ⟨rfl, by simp⟩, ?_, ?_, ?_, by simpa using sound.sent, sound.once⟩
      · intro i one place
        obtain ⟨old, before, rfl⟩ := modify_some.mp place
        have held := sound.child i old before
        by_cases own : index = i
        · subst own
          rw [at_, some.injEq] at before
          subst before
          rw [if_pos rfl]
          exact { held with
            cleaned := fun cleaned => ⟨(held.cleaned cleaned).1, rfl⟩
            collected := fun _ => isSome_iff_ne_none.mp waits.1
            begun := fun _ => .inr (by simp [cleans])
            awaited := fun _ _ _ => isSome_iff_ne_none.mp waits.1
            swept := fun call busy _ => ⟨rfl, fun nobody => by
              cases busy
              cases nobody⟩
            notified := fun cleaned => absurd cleaned (by simp [uncleaned]) }
        · rw [if_neg own]
          exact { held with
            begun := fun collected => .inl (by simpa [waiting, cleans] using held.begun collected)
            awaited := fun later next => held.awaited loop (by simp [waiting, Handler.loop]) ∘ by
              obtain rfl := some.inj next
              exact id
            swept := fun call busy same => by
              cases busy
              refine ⟨?_, nofun⟩
              by_contra collected
              exact own (sound.alone i index old child before at_ same (by simpa using collected) waits.2).symm
            notified := fun cleaned _ => held.notified cleaned (by simp [waiting, cleans]) }
      · intro pid entry found
        obtain ⟨own, place, describes⟩ := sound.entries pid entry found
        refine ⟨_, modify_some.mpr ⟨own, place, rfl⟩, ?_⟩
        split
        · rename_i same
          exact { describes with collected := fun _ => by simp [cleans, same] }
        · exact { describes with
            collected := fun collected => by simpa [waiting, cleans] using describes.collected collected }
      · intro call busy
        cases busy
        refine ⟨nofun, fun other mine => ?_⟩
        obtain rfl := some.inj mine
        refine ⟨_, modify_some.mpr ⟨child, at_, rfl⟩, ?_⟩
        rw [if_pos rfl]
        exact ⟨rfl, rfl, rfl, by simp [uncleaned], by simp, by simp⟩
    · exact sound
  · exact sound

theorem TableSound.step_waitpidNone : TableSound (processStep .waitpidNone gpp) := by
  simp only [processStep]
  split
  · split
    · exact sound
    · rename_i left
      have collected : ∀ child ∈ gpp.children, child.exit ≠ none → child.collected = true := by
        simpa [Child.waits, isSome_iff_ne_none] using left
      split
      · refine ⟨sound.alone, ?_, ?_, by simp, sound.sent, sound.once⟩
        · intro i child place
          have held := sound.child i child place
          constructor <;> grind [Child.Sound, cleans, loop]
        · have := sound.entries
          grind [Describes, cleans]
      · refine ⟨sound.alone, ?_, ?_, by simp, sound.sent, sound.once⟩
        · intro i child place
          have held := sound.child i child place
          constructor <;> grind [Child.Sound, cleans, loop]
        · have := sound.entries
          grind [Describes, cleans]
  · exact sound

variable (processId : Nat)

theorem TableSound.step_terminate : TableSound (processStep (.terminate processId) gpp) := by
  simp only [processStep, markPidTerminated]
  refine ⟨?_, ?_, ?_, ?_, ?_, sound.once⟩
  · have := sound.alone
    grind [Child.request]
  · intro i child place
    have := sound.child
    constructor <;> grind [Child.Sound, Child.request, find_markTerminated]
  · intro pid entry found
    rw [find_markTerminated] at found
    split at found
    · obtain ⟨old, before, rfl⟩ := map_eq_some_iff.mp found
      obtain ⟨child, at_, describes⟩ := sound.entries pid old before
      have own := find_pid before
      refine ⟨child.request processId, by simp [at_], ?_⟩
      constructor <;> grind [Child.request, Describes]
    · obtain ⟨child, at_, describes⟩ := sound.entries pid entry found
      refine ⟨child.request processId, by simp [at_], ?_⟩
      constructor <;> grind [Child.request, Describes]
  · have := sound.cleaning
    grind [Cleanup.Follows, Child.request]
  · have := sound.sent
    grind

theorem TableSound.step_signalled : TableSound (processStep (.signalled processId) gpp) := by
  simp only [processStep]
  split
  · rename_i member
    refine ⟨sound.alone, fun i child at_ => ?_, sound.entries, sound.cleaning, sound.sent, sound.once⟩
    have held := sound.child i child at_
    refine { held with called := ?_ }
    rintro ⟨call, among, same⟩
    refine held.called ?_
    rcases mem_cons.mp among with rfl | among
    · exact ⟨_, member, same⟩
    · exact ⟨call, mem_of_mem_erase among, same⟩
  · exact sound

theorem TableSound.step_removeProcess (dead : orderly (.removeProcess processId) gpp = true) :
    TableSound (processStep (.removeProcess processId) gpp) := by
  simp only [processStep]
  split
  · refine ⟨sound.alone, ?_, ?_, sound.cleaning, sound.sent, sound.once⟩
    · intro i child place
      have held := sound.child i child place
      constructor <;> grind [Child.Sound, orderly, find_removeProcess, mem_of_mem_erase]
    · have := sound.entries
      grind [find_removeProcess]
  · exact sound

end

theorem sentFor_append (index : Nat) (notifications : List Notification)
    (notification : Notification) : sentFor index (notifications ++ [notification]) =
      if notification.child = index then sentFor index notifications ++ [notification]
      else sentFor index notifications := by
  by_cases own : notification.child = index <;> simp [sentFor, own]

theorem TableSound.step_notify (sound : TableSound gpp)
    {comp : ComponentDescription} (cleaning : gpp.handler = .cleaning call)
    (stage : call.stage = .notify comp) : TableSound (componentCleanup call gpp) := by
  have known := sound.cleaning call cleaning
  obtain ⟨index, mine⟩ : ∃ index, call.child = some index := by
    refine ne_none_iff_exists'.mp fun nobody => ?_
    simpa [stage] using known.1 nobody
  obtain ⟨own, at_, follows⟩ := known.2 index mine
  obtain ⟨appName, identifier, same, unsent⟩ := follows.notifying comp stage
  have cleaned : own.cleaned = true := follows.cleaned.mpr (by simp [stage])
  simp only [componentCleanup, stage]
  refine ⟨sound.alone, ?_, ?_, ?_, ?_, ?_⟩
  · intro i child place
    have held := sound.child i child place
    constructor <;> grind [Child.Sound, cleans, loop, sentFor_append]
  · have := sound.entries
    grind [Describes, cleans]
  · grind [Cleanup.Follows, sentFor_append]
  · have := sound.sent
    grind
  · have := sound.once
    grind [sentFor_append]

section Cleaning

variable {i : Nat} {child : Child} {call : Cleanup}

theorem cleans_of_cleaning (cleaning : gpp.handler = .cleaning call) :
    gpp.handler.cleans i = true ↔ call.child = some i := by
  rw [cleaning]
  simp [cleans]

theorem loop_of_cleaning (cleaning : gpp.handler = .cleaning call) : gpp.handler.loop = call.loop := by
  rw [cleaning]
  rfl

section

variable (held : child.Sound gpp i) (cleaning : gpp.handler = .cleaning call)
include held cleaning

theorem Child.Sound.removed (stage : call.stage = .remove)
    (own : call.child = some i → call.Follows gpp.notifications i child) :
    child.Sound { gpp with pids := gpp.pids.removeProcess call.pid, handler := .resume call.loop } i := by
  have begun : child.collected = true → child.cleaned = true := fun collected => by
    rcases held.begun collected with cleaned | cleans
    · exact cleaned
    · exact (own ((cleans_of_cleaning cleaning).mp cleans)).cleaned.mpr (by simp [stage])
  exact { held with
    begun := fun collected => .inl (begun collected)
    present := fun added uncleaned => by
      have differs : child.pid ≠ call.pid := fun same => by
        have cleaned := begun (held.swept call cleaning same).1
        simp [uncleaned] at cleaned
      simpa [differs] using held.present added uncleaned
    awaited := fun loop waits => held.awaited loop (by
      rw [loop_of_cleaning cleaning]
      simpa using waits)
    swept := fun again busy => absurd busy (resume_ne_cleaning _ _)
    notified := fun cleaned _ unexpected unasked => by
      by_cases mine : call.child = some i
      · exact (own mine).removing stage unexpected unasked
      · refine held.notified cleaned ?_ unexpected unasked
        simpa using mt (cleans_of_cleaning cleaning).mp mine }

theorem Child.Sound.passed (other : call.child ≠ some i) (children : List Child) :
    child.Sound { gpp with pids := gpp.pids.markReaped call.pid, children := children,
                           handler := .resume call.loop } i := by
  have elsewhere : gpp.handler.cleans i = false := by
    simpa using mt (cleans_of_cleaning cleaning).mp other
  exact { held with
    begun := fun collected => .inl (by simpa [elsewhere] using held.begun collected)
    present := fun added uncleaned => by
      rcases held.present added uncleaned with ⟨entry, found, own⟩ | asked
      · refine .inl ?_
        rw [find_markReaped, found]
        split
        · exact ⟨_, rfl, own⟩
        · exact ⟨entry, rfl, own⟩
      · exact .inr asked
    awaited := fun loop waits => held.awaited loop (by
      rw [loop_of_cleaning cleaning]
      simpa using waits)
    swept := fun again busy => absurd busy (resume_ne_cleaning _ _)
    notified := fun cleaned _ => held.notified cleaned elsewhere }

theorem Child.Sound.dismissed (follows : call.Follows gpp.notifications i child) (stage : call.stage = .mark)
    (added : child.added = true) (absent : gpp.pids.find call.pid = none) (children : List Child) :
    child.begin.Sound { gpp with pids := gpp.pids.markReaped call.pid, children := children,
                                 handler := .resume call.loop } i := by
  have uncleaned : child.cleaned = false := by
    simpa [stage] using mt follows.cleaned.mp
  have asked : child.requested = true := by
    rcases held.present added uncleaned with ⟨entry, found, -⟩ | ⟨asked, -⟩
    · simp [follows.pid, absent] at found
    · exact asked
  exact {
    cleaned := fun _ => ⟨added, follows.collected⟩
    collected := held.collected
    begun := fun _ => .inl rfl
    present := fun _ cleaned => absurd cleaned (by simp [Child.begin])
    signalled := held.signalled
    awaited := fun loop waits => held.awaited loop (by
      rw [loop_of_cleaning cleaning]
      simpa using waits)
    swept := fun again busy => absurd busy (resume_ne_cleaning _ _)
    called := fun _ cleaned => absurd cleaned (by simp [Child.begin])
    silent := fun cleaned => absurd cleaned (by simp [Child.begin])
    notified := fun _ _ _ unasked => absurd unasked (by simp [Child.begin, asked]) }

end

end Cleaning

section

variable (sound : TableSound gpp) (cleaning : gpp.handler = .cleaning call)
include sound cleaning

theorem TableSound.step_remove (stage : call.stage = .remove) : TableSound (componentCleanup call gpp) := by
  simp only [componentCleanup, stage]
  refine ⟨sound.alone, fun i child place => ?_, fun pid entry found => ?_, by simp, sound.sent,
    sound.once⟩
  · refine (sound.child i child place).removed cleaning stage fun mine => ?_
    obtain ⟨own, at_, follows⟩ := (sound.cleaning call cleaning).2 i mine
    rw [place, some.injEq] at at_
    exact at_ ▸ follows
  · rw [find_removeProcess] at found
    split at found
    · cases found
    · rename_i differs
      obtain ⟨child, at_, describes⟩ := sound.entries pid entry found
      have elsewhere := sound.not_cleans cleaning found differs
      exact ⟨child, at_, { describes with
        collected := fun collected => absurd (describes.collected collected) elsewhere }⟩

section

variable (stage : call.stage = .mark)
  (recorded : ∀ index child, call.child = some index → gpp.children[index]? = some child → child.added = true)

include stage recorded

theorem TableSound.step_mark_none (absent : gpp.pids.find call.pid = none) :
    TableSound (componentCleanup call gpp) := by
  have kept : ∀ {pid entry}, (gpp.pids.markReaped call.pid).find pid = some entry →
      gpp.pids.find pid = some entry ∧ pid ≠ call.pid := fun {pid entry} found => by
    rw [find_markReaped] at found
    split at found
    · rename_i same
      simp [same, absent] at found
    · rename_i differs
      exact ⟨found, differs⟩
  simp only [componentCleanup, stage, markPidReaped, find_markReaped,
    if_true, absent, map_none]
  cases mine : call.child with
  | none =>
      refine ⟨sound.alone, fun i child place => ?_, fun pid entry found => ?_, by simp, sound.sent,
        sound.once⟩
      · exact (sound.child i child place).passed cleaning (by simp [mine]) gpp.children
      · obtain ⟨before, differs⟩ := kept found
        obtain ⟨child, at_, describes⟩ := sound.entries pid entry before
        have elsewhere := sound.not_cleans cleaning before differs
        exact ⟨child, at_, { describes with
          collected := fun collected => absurd (describes.collected collected) elsewhere }⟩
  | some index =>
      refine ⟨?_, fun i child place => ?_, fun pid entry found => ?_, by simp, ?_, sound.once⟩
      · have := sound.alone
        grind [modify_some, Child.begin]
      · obtain ⟨old, before, rfl⟩ := modify_some.mp place
        have held := sound.child i old before
        by_cases same : index = i
        · subst same
          rw [if_pos rfl]
          obtain ⟨own, at_, follows⟩ := (sound.cleaning call cleaning).2 index mine
          rw [before, some.injEq] at at_
          subst at_
          exact held.dismissed cleaning follows stage (recorded index old mine before) absent _
        · rw [if_neg same]
          exact held.passed cleaning (by simpa [mine] using same) _
      · obtain ⟨before, differs⟩ := kept found
        obtain ⟨child, at_, describes⟩ := sound.entries pid entry before
        have elsewhere := sound.not_cleans cleaning before differs
        refine ⟨_, modify_some.mpr ⟨child, at_, rfl⟩, ?_⟩
        constructor <;> grind [Describes, Child.begin]
      · have := sound.sent
        grind

theorem TableSound.step_mark_some
    (found : gpp.pids.find call.pid = some entry) : TableSound (componentCleanup call gpp) := by
  obtain ⟨again, equal, mine⟩ := Handler.cleans_iff.mp (sound.entry_of_collected found
    fun i child place own => ((sound.child i child place).swept call cleaning own).1)
  rw [cleaning, Handler.cleaning.injEq] at equal
  rw [← equal] at mine
  obtain ⟨own, at_, follows⟩ := (sound.cleaning call cleaning).2 entry.child mine
  obtain ⟨other, place, describes⟩ := sound.entries call.pid entry found
  rw [at_, some.injEq] at place
  have self := sound.child _ own at_
  have uncleaned : own.cleaned = false := by
    simpa [stage] using mt follows.cleaned.mp
  have silent := self.silent uncleaned
  simp only [componentCleanup, stage, markPidReaped, find_markReaped,
    if_true, found, map_some, mine]
  have alone := sound.alone
  refine ⟨?_, ?_, ?_, ?_, ?_, sound.once⟩
  · grind [modify_some, Child.begin]
  · intro i child place
    obtain ⟨old, before, rfl⟩ := modify_some.mp place
    have held := sound.child i old before
    constructor <;> grind [Child.Sound, cleans, loop,
      find_markReaped, Child.begin, Cleanup.Follows]
  · intro pid which kept
    have entries := sound.entries
    rw [find_markReaped] at kept
    grind [Describes, cleans, modify_some, Child.begin]
  · grind [modify_some, Child.begin, Cleanup.Follows, Describes]
  · have := sound.sent
    grind

end

end

theorem TableSound.step_cleanup (sound : TableSound gpp)
    (recorded : orderly .cleanup gpp = true) : TableSound (processStep .cleanup gpp) := by
  cases cleaning : gpp.handler with
  | idle => simpa [processStep, cleaning] using sound
  | waiting loop => simpa [processStep, cleaning] using sound
  | cleaning call =>
      simp only [processStep, cleaning]
      cases stage : call.stage with
      | mark =>
          have added : ∀ index child, call.child = some index →
              gpp.children[index]? = some child → child.added = true := by
            obtain ⟨pid, status, at_, child, loop⟩ := call
            subst stage
            rintro index own rfl found
            simpa [orderly, cleaning, found] using recorded
          cases found : gpp.pids.find call.pid with
          | none => exact sound.step_mark_none cleaning stage added found
          | some entry => exact sound.step_mark_some cleaning stage added found
      | notify comp => exact sound.step_notify cleaning stage
      | remove => exact sound.step_remove cleaning stage

theorem TableSound.step (event : ProcessEvent) (gpp : GppProcesses) (sound : TableSound gpp)
    (allowed : orderly event gpp = true) : TableSound (processStep event gpp) := by
  cases event with
  | fork pid appName identifier => exact sound.step_fork pid appName identifier allowed
  | addProcess index => exact sound.step_addProcess index
  | exit index status merged => exact sound.step_exit index status merged
  | read status => exact sound.step_read status
  | waitpid index => exact sound.step_waitpid index
  | waitpidNone => exact sound.step_waitpidNone
  | cleanup => exact sound.step_cleanup allowed
  | terminate processId => exact sound.step_terminate processId
  | signalled processId => exact sound.step_signalled processId
  | removeProcess processId => exact sound.step_removeProcess processId allowed

theorem TableSound.start : TableSound .start := by
  constructor <;> simp [GppProcesses.start, sentFor]

theorem TableSound.tracked (sound : TableSound gpp) : ChildrenTracked gpp := by
  refine ⟨fun index child at_ collected quiet entry member same => ?_,
    fun index child at_ alive added => ?_, sound.once,
    fun index child at_ collected handled unexpected unasked => ?_⟩
  · obtain ⟨other, found, describes⟩ := sound.entries entry.pid entry (find_of_mem member)
    rw [same, at_, some.injEq] at found
    subst found
    have busy := describes.collected collected
    rw [same, quiet.handled] at busy
    exact absurd busy Bool.false_ne_true
  · have uncleaned : child.cleaned = false := by
      by_contra cleaned
      have collected := ((sound.child index child at_).cleaned (by simpa using cleaned)).2
      exact (sound.child index child at_).collected collected alive
    rcases (sound.child index child at_).present added uncleaned with
      ⟨entry, found, own⟩ | ⟨-, dead⟩
    · obtain ⟨other, place, describes⟩ := sound.entries _ entry found
      rw [own, at_, some.injEq] at place
      subst place
      exact ⟨entry, filter_of_find found, own, describes.appName, describes.identifier⟩
    · exact absurd alive dead
  · have cleaned : child.cleaned = true := by
      rcases (sound.child index child at_).begun collected with cleaned | cleans
      · exact cleaned
      · rw [handled] at cleans
        exact absurd cleans Bool.false_ne_true
    exact (sound.child index child at_).notified cleaned handled unexpected unasked

theorem children_tracked (events : List ProcessEvent)
    (along : Along processStep (fun event gpp => orderly event gpp = true) .start events) :
    ChildrenTracked (run processStep .start events) :=
  TableSound.tracked (invariant_run TableSound TableSound.step .start along)

theorem children_tracked_crashes : ChildrenTracked (run processStep .start
    [.fork 7 "app" "one", .addProcess 0, .fork 8 "app" "two", .addProcess 1, .terminate 8,
      .exit 0 (.signaled 11) false, .exit 1 (.signaled 2) true, .read none, .waitpid 1, .cleanup,
      .signalled 8, .removeProcess 8, .cleanup, .waitpid 0, .cleanup, .cleanup, .cleanup,
      .waitpidNone]) :=
  children_tracked _ (by decide)

/-- The handler cleans up after the child before `execute` has recorded it. -/
theorem execute_records_too_late :
    ¬∀ events : List ProcessEvent, ChildrenTracked (run processStep .start events) := by
  intro tracked
  have early := tracked [.fork 7 "app" "one", .exit 0 (.exited 1) false, .read none, .waitpid 0,
    .cleanup, .waitpidNone, .addProcess 0]
  have child := early.gone 0 ⟨7, "app", "one", some (.exited 1), true, true, false, true⟩
    (by decide) rfl ⟨rfl, by decide, rfl⟩
  exact child ⟨7, "app", "one", false, false, false, 0⟩ (by decide) rfl

end Redhawk.Gpp
