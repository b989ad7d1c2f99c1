import Mathlib.Data.List.Nodup
import Redhawk.Library.Runs

/-!
The process table of the GPP device (`GPP.cpp`): `execute`, `terminate` and the `SIGCHLD` handler
as steps that may follow each other in any order, every lock's region one step.

A child is named by its place in the list of forks, for the kernel gives the PID of a collected
child out again. The entries and the notifications name the child they were made for beside what
the code stores in them.
-/

namespace Redhawk.Gpp

open Library List

inductive Status
  | exited (code : Nat)
  | signaled (signal : Nat)
deriving DecidableEq

def Status.unexpected : Option Status → Bool
  | some (.exited code) => code != 0
  | some (.signaled _) => true
  | none => false

structure ComponentDescription where
  pid : Nat
  appName : String
  identifier : String
  app_started : Bool
  terminated : Bool
  reaped : Bool
  child : Nat
deriving DecidableEq

/-- `pids`, in which `addProcess` never enters a PID a second time. -/
structure ProcessList where
  entries : List ComponentDescription
  distinct : (entries.map ComponentDescription.pid).Nodup
deriving DecidableEq

namespace ProcessList

def empty : ProcessList := ⟨[], nodup_nil⟩

def find (pid : Nat) (pids : ProcessList) : Option ComponentDescription :=
  pids.entries.find? fun entry => entry.pid = pid

theorem find_eq_none {pid : Nat} {pids : ProcessList} :
    pids.find pid = none ↔ pid ∉ pids.entries.map ComponentDescription.pid := by
  simp [find]

def addProcess (pid : Nat) (appName identifier : String) (child : Nat) (pids : ProcessList) :
    ProcessList :=
  if found : pids.find pid = none then
    { entries := ⟨pid, appName, identifier, false, false, false, child⟩ :: pids.entries
      distinct := by
        rw [map_cons, nodup_cons]
        exact ⟨find_eq_none.mp found, pids.distinct⟩ }
  else pids

def mark (pid : Nat) (update : ComponentDescription → ComponentDescription)
    (keeps : ∀ entry, (update entry).pid = entry.pid) (pids : ProcessList) : ProcessList where
  entries := pids.entries.map fun entry => if entry.pid = pid then update entry else entry
  distinct := by
    have same : ComponentDescription.pid ∘
        (fun entry => if entry.pid = pid then update entry else entry) =
          ComponentDescription.pid := by
      funext entry
      simp only [Function.comp_apply]
      split
      · exact keeps entry
      · rfl
    rw [map_map, same]
    exact pids.distinct

def markTerminated (pid : Nat) (pids : ProcessList) : ProcessList :=
  pids.mark pid (fun entry => { entry with app_started := false, terminated := true }) fun _ => rfl

def markReaped (pid : Nat) (pids : ProcessList) : ProcessList :=
  pids.mark pid (fun entry => { entry with reaped := true }) fun _ => rfl

def markPidTerminated (pid : Nat) (pids : ProcessList) : Option ComponentDescription × ProcessList :=
  ((pids.markTerminated pid).find pid, pids.markTerminated pid)

def markPidReaped (pid : Nat) (pids : ProcessList) : Option ComponentDescription × ProcessList :=
  ((pids.markReaped pid).find pid, pids.markReaped pid)

def removeProcess (pid : Nat) (pids : ProcessList) : ProcessList where
  entries := pids.entries.filter fun entry => entry.pid ≠ pid
  distinct := pids.distinct.sublist (filter_sublist.map ComponentDescription.pid)

def getPids (pids : ProcessList) : List Nat :=
  (pids.entries.filter fun entry => !entry.terminated && !entry.reaped).map ComponentDescription.pid

section Lookup

variable {pids : ProcessList} {pid other : Nat} {entry : ComponentDescription}

theorem find_pid (found : pids.find pid = some entry) : entry.pid = pid := by
  have holds := find?_some found
  simpa using holds

theorem find_of_mem (member : entry ∈ pids.entries) : pids.find entry.pid = some entry := by
  cases found : pids.find entry.pid with
  | none => exact absurd (mem_map_of_mem member) (find_eq_none.mp found)
  | some other =>
      have same := inj_on_of_nodup_map pids.distinct (mem_of_find?_eq_some found) member
        (find_pid found)
      rw [same]

theorem filter_of_find (found : pids.find pid = some entry) :
    (pids.entries.filter fun other => other.pid = pid) = [entry] := by
  obtain ⟨entries, distinct⟩ := pids
  induction entries with
  | nil => simp [find] at found
  | cons first rest ih =>
      rw [map_cons, nodup_cons] at distinct
      by_cases own : first.pid = pid
      · have same : first = entry := by simpa [find, own] using found
        have others : (rest.filter fun other => other.pid = pid) = [] := by
          refine filter_eq_nil_iff.mpr fun other member equal => distinct.1 ?_
          rw [own]
          exact mem_map.mpr ⟨other, member, by simpa using equal⟩
        subst same
        simp [own, others]
      · have further : find pid ⟨rest, distinct.2⟩ = some entry := by
          simpa [find, own] using found
        simpa [filter_cons, own] using ih distinct.2 further

@[simp] theorem find_empty : empty.find pid = none := rfl

theorem find_addProcess (appName identifier : String) (child : Nat) (fresh : pids.find pid = none) :
    (pids.addProcess pid appName identifier child).find other =
      if other = pid then some ⟨pid, appName, identifier, false, false, false, child⟩
      else pids.find other := by
  rw [addProcess, dif_pos fresh]
  by_cases own : other = pid
  · subst own
    simp [find]
  · have differs : ¬pid = other := fun equal => own equal.symm
    simp [find, own, differs]

theorem find_mark (update : ComponentDescription → ComponentDescription)
    (keeps : ∀ entry, (update entry).pid = entry.pid) :
    (pids.mark pid update keeps).find other =
      if other = pid then (pids.find other).map update else pids.find other := by
  obtain ⟨entries, distinct⟩ := pids
  simp only [find, mark]
  induction entries with
  | nil => simp
  | cons first rest ih =>
      by_cases own : first.pid = pid <;> by_cases sought : first.pid = other <;>
        by_cases same : other = pid <;> grind

@[simp] theorem find_markTerminated :
    (pids.markTerminated pid).find other = if other = pid then
      (pids.find other).map fun entry => { entry with app_started := false, terminated := true }
    else pids.find other :=
  find_mark _ _

@[simp] theorem find_markReaped :
    (pids.markReaped pid).find other = if other = pid then
      (pids.find other).map fun entry => { entry with reaped := true } else pids.find other :=
  find_mark _ _

@[simp] theorem find_removeProcess :
    (pids.removeProcess pid).find other = if other = pid then none else pids.find other := by
  obtain ⟨entries, distinct⟩ := pids
  simp only [find, removeProcess]
  induction entries with
  | nil => simp
  | cons first rest ih =>
      by_cases own : first.pid = pid <;> by_cases sought : first.pid = other <;>
        by_cases same : other = pid <;> grind

end Lookup

end ProcessList

/-- A forked child: what `execute` was given for it, and how far the kernel, `execute`, the
`terminate` calls and the handler's cleanup are with it. -/
structure Child where
  pid : Nat
  appName : String
  identifier : String
  exit : Option Status
  /-- `waitpid` has collected its status. -/
  collected : Bool
  /-- `addProcess` has run, and with it `execute` returned. -/
  added : Bool
  /-- A `terminate` call named its PID before its cleanup began. -/
  requested : Bool
  /-- Its cleanup has begun. -/
  cleaned : Bool
deriving DecidableEq

structure Notification where
  comp_id : String
  app_id : String
  child : Nat
deriving DecidableEq

/-- A `terminate` call after its marking: still signalling the process group, or about to remove
the entry. -/
structure TerminateCall where
  processId : Nat
  signalling : Bool
deriving DecidableEq

structure WaitLoop where
  ssi_pid : Nat
  reap : Bool
  status : Option Status
deriving DecidableEq

inductive CleanupStage
  | mark
  | notify (comp : ComponentDescription)
  | remove
deriving DecidableEq

/-- A call of `_component_cleanup`, from the wait loop or, with nothing to go back to, after it. -/
structure Cleanup where
  pid : Nat
  status : Option Status
  stage : CleanupStage
  child : Option Nat
  loop : Option WaitLoop
deriving DecidableEq

inductive Handler
  | idle
  | waiting (loop : WaitLoop)
  | cleaning (cleanup : Cleanup)
deriving DecidableEq

structure GppProcesses where
  children : List Child
  pids : ProcessList
  /-- The PIDs of the pending signals. -/
  signals : List Nat
  handler : Handler
  calls : List TerminateCall
  notifications : List Notification
deriving DecidableEq

def GppProcesses.start : GppProcesses where
  children := []
  pids := .empty
  signals := []
  handler := .idle
  calls := []
  notifications := []

inductive ProcessEvent
  | fork (pid : Nat) (appName identifier : String)
  | addProcess (child : Nat)
  /-- The child is gone; its signal may be merged into one that is pending. -/
  | exit (child : Nat) (status : Status) (merged : Bool)
  /-- The handler reads a signal; `status` has no value yet. -/
  | read (status : Option Status)
  | waitpid (child : Nat)
  | waitpidNone
  | cleanup
  | terminate (processId : Nat)
  | signalled (processId : Nat)
  | removeProcess (processId : Nat)

def Handler.resume : Option WaitLoop → Handler
  | some loop => .waiting loop
  | none => .idle

def Child.holds (pid : Nat) (child : Child) : Bool := child.pid == pid && !child.collected

def Child.waits (child : Child) : Bool := child.exit.isSome && !child.collected

def Child.begin (child : Child) : Child := { child with cleaned := true }

def Child.request (processId : Nat) (child : Child) : Child :=
  if child.pid = processId ∧ child.cleaned = false then { child with requested := true } else child

/-- `_component_cleanup`, a lock's region at a time. -/
def componentCleanup (call : Cleanup) (gpp : GppProcesses) : GppProcesses :=
  match call.stage with
  | .mark =>
      let (comp, pids) := gpp.pids.markPidReaped call.pid
      let children := match call.child with
        | some child => gpp.children.modify child Child.begin
        | none => gpp.children
      match comp with
      | none => { gpp with pids, children, handler := .resume call.loop }
      | some comp =>
          let stage := if !comp.terminated && Status.unexpected call.status then .notify comp
            else .remove
          { gpp with pids, children, handler := .cleaning { call with stage } }
  | .notify comp =>
      { gpp with
        notifications := gpp.notifications ++ [⟨comp.identifier, comp.appName, comp.child⟩]
        handler := .cleaning { call with stage := .remove } }
  | .remove =>
      { gpp with pids := gpp.pids.removeProcess call.pid, handler := .resume call.loop }

def processStep : ProcessEvent → GppProcesses → GppProcesses
  | .fork pid appName identifier, gpp =>
      -- The kernel gives out no PID that a child still holds, dead or alive.
      if gpp.children.any (Child.holds pid) then gpp
      else
        let child := ⟨pid, appName, identifier, none, false, false, false, false⟩
        { gpp with children := gpp.children ++ [child] }
  | .addProcess index, gpp =>
      match gpp.children[index]? with
      | none => gpp
      | some child =>
          if child.added then gpp
          else
            { gpp with
              pids := gpp.pids.addProcess child.pid child.appName child.identifier index
              children := gpp.children.modify index fun child => { child with added := true } }
  | .exit index status merged, gpp =>
      match gpp.children[index]? with
      | none => gpp
      | some child =>
          if child.exit.isSome then gpp
          else
            { gpp with
              children := gpp.children.modify index fun child => { child with exit := some status }
              signals := if merged && !gpp.signals.isEmpty then gpp.signals
                else gpp.signals ++ [child.pid] }
  | .read status, gpp =>
      match gpp.handler, gpp.signals with
      | .idle, pid :: signals => { gpp with signals, handler := .waiting ⟨pid, false, status⟩ }
      | _, _ => gpp
  | .waitpid index, gpp =>
      match gpp.handler, gpp.children[index]? with
      | .waiting loop, some child =>
          if child.waits then
            let loop : WaitLoop :=
              { loop with reap := loop.reap || child.pid == loop.ssi_pid, status := child.exit }
            { gpp with
              children := gpp.children.modify index fun child => { child with collected := true }
              handler := .cleaning ⟨child.pid, child.exit, .mark, some index, some loop⟩ }
          else gpp
      | _, _ => gpp
  | .waitpidNone, gpp =>
      match gpp.handler with
      | .waiting loop =>
          if gpp.children.any Child.waits then gpp
          else if loop.reap then { gpp with handler := .idle }
          else { gpp with handler := .cleaning ⟨loop.ssi_pid, loop.status, .mark, none, none⟩ }
      | _ => gpp
  | .cleanup, gpp =>
      match gpp.handler with
      | .cleaning call => componentCleanup call gpp
      | _ => gpp
  | .terminate processId, gpp =>
      let (comp, pids) := gpp.pids.markPidTerminated processId
      let signalling := match comp with
        | some comp => !comp.reaped
        | none => false
      { gpp with
        pids
        calls := ⟨processId, signalling⟩ :: gpp.calls
        children := gpp.children.map (Child.request processId) }
  | .signalled processId, gpp =>
      if ⟨processId, true⟩ ∈ gpp.calls then
        { gpp with calls := ⟨processId, false⟩ :: gpp.calls.erase ⟨processId, true⟩ }
      else gpp
  | .removeProcess processId, gpp =>
      if ⟨processId, false⟩ ∈ gpp.calls then
        { gpp with
          pids := gpp.pids.removeProcess processId
          calls := gpp.calls.erase ⟨processId, false⟩ }
      else gpp

end Redhawk.Gpp
