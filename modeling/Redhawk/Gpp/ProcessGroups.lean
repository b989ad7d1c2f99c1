import Mathlib.Algebra.BigOperators.Group.List.Basic
import Mathlib.Data.List.AList
import Mathlib.Tactic.Linarith
import Redhawk.Gpp.ProcessTable

/-!
The table of process groups of the GPP device (`update_grp_child_pids`) and what
`get_component_monitor` reports from it, over runs of snapshots of `/proc`.

Memory sizes are exact rationals. Both maps are visited in order of entry, where the code has the
order of the keys; no result depends on it. The conversion of a field to a number is a parameter.
-/

namespace Redhawk.Gpp

open Library List

structure ProcValues where
  mem_rss : ℚ
  num_threads : Nat
  pgrpid : Int
deriving DecidableEq

structure GrpValues extends ProcValues where
  num_processes : Nat
  pids : List Int
deriving DecidableEq

abbrev Process := Σ _ : Int, ProcValues

structure ProcessGroups where
  parsed_stat : AList fun _ : Int => ProcValues
  grp_children : AList fun _ : Int => GrpValues

/-- An entry of `pids` with what its measurement adds to the process table's. -/
structure MeasuredComponent extends ComponentDescription where
  reservation : ℚ
  core_usage : ℚ
  pstat_history : Fin 5 → BitVec 64
  pstat_idx : Fin 5

section Model

variable (lexicalCast : String → Option Int) (getpagesize : Nat)

def procValues (fields : List String) : Option Process := do
  let pid ← (fields[0]?).bind lexicalCast
  let pgrpid ← (fields[4]?).bind lexicalCast
  let threads ← (fields[19]?).bind lexicalCast
  let pages ← (fields[23]?).bind lexicalCast
  if fields.length < 37 then none
  else some ⟨pid, (pages : ℚ) * getpagesize / (1024 * 1024), threads.toNat, pgrpid⟩

structure Snapshot where
  names : List String
  stat : Int → List String
  distinct : (names.reverse.filterMap lexicalCast).Nodup
  readable : ∀ pid ∈ names.reverse.filterMap lexicalCast,
    ∃ values, procValues lexicalCast getpagesize (stat pid) = some ⟨pid, values⟩

variable {lexicalCast getpagesize}

def Snapshot.pids_now (snapshot : Snapshot lexicalCast getpagesize) : List Int :=
  snapshot.names.reverse.filterMap lexicalCast

namespace ProcessGroups

def new : ProcessGroups := ⟨∅, ∅⟩

def enter (process : Process) (table : ProcessGroups) : ProcessGroups where
  parsed_stat := table.parsed_stat.insert process.1 process.2
  grp_children := table.grp_children.insert process.2.pgrpid
    (match table.grp_children.lookup process.2.pgrpid with
      | none => { process.2 with num_processes := 1, pids := [process.1] }
      | some grp =>
        { grp with
          num_processes := grp.num_processes + 1
          mem_rss := grp.mem_rss + process.2.mem_rss
          num_threads := grp.num_threads + process.2.num_threads
          pids := grp.pids ++ [process.1] })

def arrive (snapshot : Snapshot lexicalCast getpagesize) (table : ProcessGroups) (pid : Int) :
    ProcessGroups :=
  if pid ∈ table.parsed_stat then table
  else
    match procValues lexicalCast getpagesize (snapshot.stat pid) with
    | none => table
    | some process => table.enter process

def unlist (table : ProcessGroups) (process : Process) : ProcessGroups :=
  match table.grp_children.lookup process.2.pgrpid with
  | none => table
  | some grp =>
    { table with
      grp_children := table.grp_children.insert process.2.pgrpid
        { grp with pids := grp.pids.erase process.1 } }

def forget (table : ProcessGroups) (process : Process) : ProcessGroups :=
  { table with parsed_stat := table.parsed_stat.erase process.1 }

def gone (snapshot : Snapshot lexicalCast getpagesize) (table : ProcessGroups) : List Process :=
  table.parsed_stat.entries.filter fun process => process.1 ∉ snapshot.pids_now

def update_grp_child_pids (snapshot : Snapshot lexicalCast getpagesize) (table : ProcessGroups) :
    ProcessGroups :=
  let table := snapshot.pids_now.foldl (arrive snapshot) table
  let erased := table.gone snapshot
  erased.foldl forget (erased.foldl unlist table)

end ProcessGroups

structure ComponentMonitor where
  waveform_id : String
  component_id : String
  pid : Int
  cores : ℚ
  mem_rss : ℚ
  mem_percent : ℚ
  num_processes : Nat
  num_threads : Nat
  num_files : Nat

structure HostReport where
  totalram : Nat
  mem_unit : Nat
  openFiles : Int → Nat

def ProcessGroups.report (host : HostReport) (table : ProcessGroups)
    (component : MeasuredComponent) : Option ComponentMonitor :=
  if component.terminated then none
  else
    let pid : Int := component.pid
    match table.grp_children.lookup pid, table.parsed_stat.lookup pid with
    | some grp, some _ => some {
        waveform_id := component.appName
        component_id := component.identifier
        pid := pid
        cores := component.core_usage
        mem_rss := grp.mem_rss
        mem_percent := grp.mem_rss * (1024 * 1024) / (host.totalram * host.mem_unit) * 100
        num_processes := grp.num_processes
        num_threads := grp.num_threads
        num_files := (grp.pids.map host.openFiles).sum }
    | _, _ => none

def ProcessGroups.get_component_monitor (host : HostReport) (pids : List MeasuredComponent)
    (table : ProcessGroups) : List ComponentMonitor :=
  pids.filterMap (table.report host)

end Model

def ofGroup (group : Int) (processes : List Process) : List Process :=
  processes.filter fun process => process.2.pgrpid = group

def ProcessGroups.group (table : ProcessGroups) (group : Int) : GrpValues :=
  (table.grp_children.lookup group).getD ⟨⟨0, 0, group⟩, 0, []⟩

structure GrpValues.Totals (grp : GrpValues) (processes : List Process) : Prop where
  num_processes : grp.num_processes = processes.length
  num_threads : grp.num_threads = (processes.map fun process => process.2.num_threads).sum
  mem_rss : grp.mem_rss = (processes.map fun process => process.2.mem_rss).sum

structure GrpValues.Tallies (grp : GrpValues) (processes : List Process) : Prop
    extends grp.Totals processes where
  listed : grp.pids.Perm (processes.map Sigma.fst)

section Snapshots

variable {lexicalCast : String → Option Int} {getpagesize : Nat}

def Snapshot.shown (snapshot : Snapshot lexicalCast getpagesize) (pids : List Int) : List Process :=
  pids.filterMap fun pid => procValues lexicalCast getpagesize (snapshot.stat pid)

def Snapshot.processes (snapshot : Snapshot lexicalCast getpagesize) : List Process :=
  snapshot.shown snapshot.pids_now

/-- Every group has exactly the processes of the snapshot that belong to it, with their totals, and
a component is reported with those of its group. -/
structure Current (snapshot : Snapshot lexicalCast getpagesize) (table : ProcessGroups) : Prop where
  groups : ∀ group, (table.group group).Tallies (ofGroup group snapshot.processes)
  totals : ∀ host component report, table.report host component = some report →
    ∃ grp : GrpValues, grp.Totals (ofGroup component.pid snapshot.processes) ∧
      report.num_processes = grp.num_processes ∧ report.num_threads = grp.num_threads ∧
      report.mem_rss = grp.mem_rss
  reported : ∀ host (component : MeasuredComponent), component.terminated = false →
    (component.pid : Int) ∈ snapshot.pids_now →
      ofGroup component.pid snapshot.processes ≠ [] → (table.report host component).isSome

/-- No process in the table is gone or in another group, and the figures of those in the table add up
in every group to what they were. -/
structure Snapshot.Keeps (snapshot : Snapshot lexicalCast getpagesize) (table : ProcessGroups) :
    Prop where
  stays : ∀ process ∈ table.parsed_stat.entries,
    ∃ values, ⟨process.1, values⟩ ∈ ofGroup process.2.pgrpid snapshot.processes
  num_threads : ∀ group,
    ((ofGroup group table.parsed_stat.entries).map fun process => process.2.num_threads).sum =
      ((ofGroup group (snapshot.processes.filter fun process => process.1 ∈ table.parsed_stat)).map
        fun process => process.2.num_threads).sum
  mem_rss : ∀ group,
    ((ofGroup group table.parsed_stat.entries).map fun process => process.2.mem_rss).sum =
      ((ofGroup group (snapshot.processes.filter fun process => process.1 ∈ table.parsed_stat)).map
        fun process => process.2.mem_rss).sum

end Snapshots

theorem ofGroup_perm {first second : List Process} (perm : first.Perm second) (group : Int) :
    (ofGroup group first).Perm (ofGroup group second) :=
  perm.filter _

theorem ofGroup_append (group : Int) (first second : List Process) :
    ofGroup group (first ++ second) = ofGroup group first ++ ofGroup group second :=
  filter_append ..

theorem ofGroup_own {process : Process} {group : Int} (own : group = process.2.pgrpid)
    (rest : List Process) : ofGroup group (process :: rest) = process :: ofGroup group rest :=
  filter_cons_of_pos (by simp [own])

theorem ofGroup_other {process : Process} {group : Int} (other : group ≠ process.2.pgrpid)
    (rest : List Process) : ofGroup group (process :: rest) = ofGroup group rest :=
  filter_cons_of_neg (by simpa using other.symm)

theorem mem_ofGroup {group : Int} {processes : List Process} {process : Process} :
    process ∈ ofGroup group processes ↔ process ∈ processes ∧ process.2.pgrpid = group := by
  simp [ofGroup]

theorem GrpValues.Tallies.perm {grp : GrpValues} {first second : List Process}
    (tallies : grp.Tallies first) (perm : first.Perm second) : grp.Tallies second where
  num_processes := tallies.num_processes.trans perm.length_eq
  num_threads := tallies.num_threads.trans (perm.map _).sum_eq
  mem_rss := tallies.mem_rss.trans (perm.map _).sum_eq
  listed := tallies.listed.trans (perm.map _)

def ProcessGroups.Tallied (table : ProcessGroups) : Prop :=
  ∀ group, (table.group group).Tallies (ofGroup group table.parsed_stat.entries)

theorem ProcessGroups.tallied_new : new.Tallied := by
  intro group
  exact ⟨⟨rfl, rfl, rfl⟩, Perm.refl []⟩

theorem ProcessGroups.group_enter (table : ProcessGroups) (process : Process) (group : Int) :
    (table.enter process).group group =
      if group = process.2.pgrpid then
        { table.group group with
          num_processes := (table.group group).num_processes + 1
          mem_rss := (table.group group).mem_rss + process.2.mem_rss
          num_threads := (table.group group).num_threads + process.2.num_threads
          pids := (table.group group).pids ++ [process.1] }
      else table.group group := by
  unfold ProcessGroups.group enter
  by_cases own : group = process.2.pgrpid
  · subst own
    rw [if_pos rfl, AList.lookup_insert, Option.getD_some]
    cases table.grp_children.lookup process.2.pgrpid with
    | none => simp
    | some grp => rfl
  · rw [if_neg own, AList.lookup_insert_ne own]

theorem ProcessGroups.Tallied.enter {table : ProcessGroups} (tallied : table.Tallied)
    {process : Process} (new : process.1 ∉ table.parsed_stat) : (table.enter process).Tallied := by
  intro group
  have records : (table.enter process).parsed_stat.entries = process :: table.parsed_stat.entries :=
    AList.entries_insert_of_notMem new
  have before := tallied group
  rw [table.group_enter, records]
  by_cases own : group = process.2.pgrpid
  · rw [if_pos own, ofGroup_own own]
    constructor
    · constructor
      · exact congrArg (· + 1) before.num_processes
      · exact (congrArg (· + _) before.num_threads).trans (add_comm _ _)
      · exact (congrArg (· + _) before.mem_rss).trans (add_comm _ _)
    · exact (perm_append_singleton _ _).trans (before.listed.cons _)
  · rw [if_neg own, ofGroup_other own]
    exact before

section Loops

variable {lexicalCast : String → Option Int} {getpagesize : Nat}

section

variable (snapshot : Snapshot lexicalCast getpagesize)

theorem Snapshot.shown_cons {pid : Int} {rest : List Int} {process : Process}
    (reads : procValues lexicalCast getpagesize (snapshot.stat pid) = some process) :
    snapshot.shown (pid :: rest) = process :: snapshot.shown rest := by
  simp [Snapshot.shown, reads]

theorem Snapshot.map_shown {pids : List Int} (present : ∀ pid ∈ pids, pid ∈ snapshot.pids_now) :
    (snapshot.shown pids).map Sigma.fst = pids := by
  induction pids with
  | nil => rfl
  | cons pid rest ih =>
      obtain ⟨values, reads⟩ := snapshot.readable pid (present pid mem_cons_self)
      rw [snapshot.shown_cons reads, map_cons,
        ih fun other member => present other (mem_cons_of_mem _ member)]

theorem ProcessGroups.arrivals {pids : List Int}
    (distinct : pids.Nodup) (present : ∀ pid ∈ pids, pid ∈ snapshot.pids_now)
    {table : ProcessGroups} (tallied : table.Tallied) :
    (pids.foldl (arrive snapshot) table).Tallied ∧
      (pids.foldl (arrive snapshot) table).parsed_stat.entries.Perm
        ((snapshot.shown pids).filter (fun process => process.1 ∉ table.parsed_stat) ++
          table.parsed_stat.entries) := by
  induction pids generalizing table with
  | nil => exact ⟨tallied, Perm.refl _⟩
  | cons pid rest ih =>
      obtain ⟨fresh, distinct⟩ := nodup_cons.mp distinct
      have later : ∀ pid ∈ rest, pid ∈ snapshot.pids_now :=
        fun other member => present other (mem_cons_of_mem _ member)
      obtain ⟨values, reads⟩ := snapshot.readable pid (present pid mem_cons_self)
      rw [foldl_cons, snapshot.shown_cons reads, arrive]
      by_cases known : pid ∈ table.parsed_stat
      · rw [if_pos known, filter_cons_of_neg (by simpa using known)]
        exact ih distinct later tallied
      · rw [if_neg known, filter_cons_of_pos (by simpa using known), reads]
        have entered : (table.enter ⟨pid, values⟩).Tallied := tallied.enter known
        obtain ⟨tallied', perm⟩ := ih distinct later entered
        have records : (table.enter ⟨pid, values⟩).parsed_stat.entries =
            ⟨pid, values⟩ :: table.parsed_stat.entries := AList.entries_insert_of_notMem known
        -- the process that has entered is not among the rest
        have same : (snapshot.shown rest).filter
              (fun process => process.1 ∉ (table.enter ⟨pid, values⟩).parsed_stat) =
            (snapshot.shown rest).filter (fun process => process.1 ∉ table.parsed_stat) := by
          apply filter_congr
          intro process member
          have other : process.1 ∈ rest := by
            rw [← snapshot.map_shown later]
            exact mem_map_of_mem member
          have differs : process.1 ≠ pid := fun equal => fresh (equal ▸ other)
          simp [ProcessGroups.enter, AList.mem_insert, differs]
        rw [same, records] at perm
        exact ⟨tallied', perm.trans perm_middle⟩

end

theorem ProcessGroups.group_unlist (table : ProcessGroups) (process : Process) (group : Int) :
    (table.unlist process).group group =
      if group = process.2.pgrpid then
        { table.group group with pids := (table.group group).pids.erase process.1 }
      else table.group group := by
  unfold ProcessGroups.unlist
  cases found : table.grp_children.lookup process.2.pgrpid with
  | none =>
      dsimp only
      split
      next own =>
        rw [ProcessGroups.group, own, found]
        rfl
      next => rfl
  | some grp =>
      unfold ProcessGroups.group
      by_cases own : group = process.2.pgrpid
      · rw [if_pos own, own, AList.lookup_insert, found]
        rfl
      · rw [if_neg own, AList.lookup_insert_ne own]

variable (erased : List Process)

theorem ProcessGroups.group_unlisted (table : ProcessGroups) (group : Int) :
    (erased.foldl unlist table).group group =
      { table.group group with
        pids := (table.group group).pids.diff ((ofGroup group erased).map Sigma.fst) } := by
  induction erased generalizing table with
  | nil => rfl
  | cons process rest ih =>
      rw [foldl_cons, ih, table.group_unlist]
      by_cases own : group = process.2.pgrpid
      · rw [if_pos own, ofGroup_own own, map_cons, diff_cons]
      · rw [if_neg own, ofGroup_other own]

theorem ProcessGroups.parsed_unlisted (table : ProcessGroups) :
    (erased.foldl unlist table).parsed_stat = table.parsed_stat := by
  induction erased generalizing table with
  | nil => rfl
  | cons process rest ih =>
      rw [foldl_cons, ih, unlist]
      split
      · rfl
      · rfl

theorem ProcessGroups.grp_forgotten (table : ProcessGroups) :
    (erased.foldl forget table).grp_children = table.grp_children := by
  induction erased generalizing table with
  | nil => rfl
  | cons process rest ih => exact ih _

theorem ProcessGroups.mem_forgotten {erased : List Process} {table : ProcessGroups} {pid : Int}
    (present : pid ∈ table.parsed_stat) (kept : ∀ process ∈ erased, process.1 ≠ pid) :
    pid ∈ (erased.foldl forget table).parsed_stat := by
  induction erased generalizing table with
  | nil => exact present
  | cons process rest ih =>
      apply ih
      · exact AList.mem_erase.mpr ⟨(kept process mem_cons_self).symm, present⟩
      · exact fun other member => kept other (mem_cons_of_mem _ member)

end Loops

section Update

variable {lexicalCast : String → Option Int} {getpagesize : Nat}
  (snapshot : Snapshot lexicalCast getpagesize) {table : ProcessGroups}

theorem Snapshot.map_processes : snapshot.processes.map Sigma.fst = snapshot.pids_now :=
  snapshot.map_shown fun _ member => member

theorem Snapshot.process_unique {first second : Process} (one : first ∈ snapshot.processes)
    (two : second ∈ snapshot.processes) (same : first.1 = second.1) : first = second := by
  have distinct : (snapshot.processes.map Sigma.fst).Nodup := snapshot.map_processes ▸ snapshot.distinct
  exact inj_on_of_nodup_map distinct one two same

def ProcessGroups.entered (table : ProcessGroups) : ProcessGroups :=
  snapshot.pids_now.foldl (arrive snapshot) table

def Snapshot.fresh (table : ProcessGroups) : List Process :=
  snapshot.processes.filter fun process => process.1 ∉ table.parsed_stat

def Snapshot.known (table : ProcessGroups) : List Process :=
  snapshot.processes.filter fun process => process.1 ∈ table.parsed_stat

theorem Snapshot.known_fresh (table : ProcessGroups) (group : Int) :
    (ofGroup group snapshot.processes).Perm
      (ofGroup group (snapshot.known table) ++ ofGroup group (snapshot.fresh table)) := by
  rw [← ofGroup_append]
  apply ofGroup_perm
  have split := filter_append_perm (fun process => decide (process.1 ∈ table.parsed_stat))
    snapshot.processes
  simp only [← decide_not] at split
  exact split.symm

theorem ProcessGroups.Tallied.entered (tallied : table.Tallied) :
    (table.entered snapshot).Tallied ∧ (table.entered snapshot).parsed_stat.entries.Perm
      (snapshot.fresh table ++ table.parsed_stat.entries) :=
  arrivals snapshot snapshot.distinct (fun _ member => member) tallied

theorem ProcessGroups.group_update (group : Int) :
    (table.update_grp_child_pids snapshot).group group =
      { (table.entered snapshot).group group with
        pids := ((table.entered snapshot).group group).pids.diff
          ((ofGroup group ((table.entered snapshot).gone snapshot)).map Sigma.fst) } := by
  rw [← group_unlisted]
  unfold ProcessGroups.group update_grp_child_pids
  rw [grp_forgotten]
  rfl

theorem ProcessGroups.update_of_stays (stays : (table.entered snapshot).gone snapshot = []) :
    table.update_grp_child_pids snapshot = table.entered snapshot := by
  change (((table.entered snapshot).gone snapshot).foldl forget
    (((table.entered snapshot).gone snapshot).foldl unlist (table.entered snapshot))) = _
  rw [stays]
  rfl

theorem Snapshot.Keeps.none_gone {snapshot : Snapshot lexicalCast getpagesize}
    (keeps : snapshot.Keeps table) (tallied : table.Tallied) :
    (table.entered snapshot).gone snapshot = [] := by
  unfold ProcessGroups.gone
  rw [filter_eq_nil_iff]
  intro process member
  rw [decide_eq_true_eq, not_not, ← snapshot.map_processes]
  rcases mem_append.mp ((tallied.entered snapshot).2.mem_iff.mp member) with fresh | old
  · exact mem_map_of_mem (mem_filter.mp fresh).1
  · obtain ⟨values, present⟩ := keeps.stays process old
    exact mem_map.mpr ⟨⟨process.1, values⟩, (mem_ofGroup.mp present).1, rfl⟩

theorem Snapshot.Keeps.listed {snapshot : Snapshot lexicalCast getpagesize}
    (keeps : snapshot.Keeps table) (group : Int) :
    ((ofGroup group table.parsed_stat.entries).map Sigma.fst).Perm
      ((ofGroup group (snapshot.known table)).map Sigma.fst) := by
  have recorded : ((ofGroup group table.parsed_stat.entries).map Sigma.fst).Nodup :=
    table.parsed_stat.keys_nodup.sublist (filter_sublist.map Sigma.fst)
  have shown : ((ofGroup group (snapshot.known table)).map Sigma.fst).Nodup := by
    have distinct : (snapshot.processes.map Sigma.fst).Nodup :=
      snapshot.map_processes ▸ snapshot.distinct
    exact distinct.sublist ((filter_sublist.trans filter_sublist).map Sigma.fst)
  refine (perm_ext_iff_of_nodup recorded shown).mpr fun pid => ?_
  constructor
  · intro member
    obtain ⟨process, inside, rfl⟩ := mem_map.mp member
    obtain ⟨old, own⟩ := mem_ofGroup.mp inside
    obtain ⟨values, present⟩ := keeps.stays process old
    rw [own] at present
    obtain ⟨present, same⟩ := mem_ofGroup.mp present
    have key : process.1 ∈ table.parsed_stat := mem_map_of_mem old
    exact mem_map.mpr ⟨⟨process.1, values⟩,
      mem_ofGroup.mpr ⟨mem_filter.mpr ⟨present, by simpa using key⟩, same⟩, rfl⟩
  · intro member
    obtain ⟨process, inside, rfl⟩ := mem_map.mp member
    obtain ⟨present, own⟩ := mem_ofGroup.mp inside
    obtain ⟨present, key⟩ := mem_filter.mp present
    rw [decide_eq_true_eq, AList.mem_keys] at key
    obtain ⟨old, recorded, same⟩ := mem_map.mp key
    obtain ⟨values, shown⟩ := keeps.stays old recorded
    obtain ⟨shown, group'⟩ := mem_ofGroup.mp shown
    have equal := snapshot.process_unique shown present same
    refine mem_map.mpr ⟨old, mem_ofGroup.mpr ⟨recorded, ?_⟩, same⟩
    rw [← group', ← own, ← equal]

theorem ProcessGroups.current_groups_iff (tallied : table.Tallied) :
    (∀ group, ((table.update_grp_child_pids snapshot).group group).Tallies
      (ofGroup group snapshot.processes)) ↔ snapshot.Keeps table := by
  obtain ⟨entered, perm⟩ := tallied.entered snapshot
  have recorded := fun group => (ofGroup_perm perm group).trans (Perm.of_eq (ofGroup_append ..))
  have shown := snapshot.known_fresh table
  constructor
  · intro current
    -- as many are listed as before the second loop, so that nothing was taken from the list
    have kept : ∀ group, ((table.update_grp_child_pids snapshot).group group).pids =
        ((table.entered snapshot).group group).pids := by
      intro group
      have now := current group
      have count := now.listed.length_eq
      rw [table.group_update] at now count ⊢
      apply (diff_sublist _ _).eq_of_length
      rw [count, length_map, ← now.num_processes]
      rw [(entered group).num_processes, (entered group).listed.length_eq, length_map]
    have totals : ∀ group, ((table.entered snapshot).group group).Totals
        (ofGroup group snapshot.processes) := by
      intro group
      have now := (current group).toTotals
      rw [table.group_update] at now
      exact ⟨now.num_processes, now.num_threads, now.mem_rss⟩
    constructor
    · intro process old
      have inside : process ∈ ofGroup process.2.pgrpid (table.entered snapshot).parsed_stat.entries :=
        mem_ofGroup.mpr ⟨perm.mem_iff.mpr (mem_append_right _ old), rfl⟩
      have listed := (entered process.2.pgrpid).listed.mem_iff.mpr (mem_map_of_mem inside)
      rw [← kept, (current process.2.pgrpid).listed.mem_iff] at listed
      obtain ⟨other, member, same⟩ := mem_map.mp listed
      exact ⟨other.2, by rw [← same]; exact member⟩
    · intro group
      have before := (entered group).num_threads
      rw [(totals group).num_threads, ((shown group).map _).sum_eq, ((recorded group).map _).sum_eq,
        map_append, map_append, sum_append, sum_append] at before
      change _ = ((ofGroup group (snapshot.known table)).map _).sum
      omega
    · intro group
      have before := (entered group).mem_rss
      rw [(totals group).mem_rss, ((shown group).map _).sum_eq, ((recorded group).map _).sum_eq,
        map_append, map_append, sum_append, sum_append] at before
      change _ = ((ofGroup group (snapshot.known table)).map _).sum
      linarith
  · intro keeps group
    rw [table.update_of_stays snapshot (keeps.none_gone tallied)]
    have before := (entered group).perm (recorded group)
    have listed := keeps.listed group
    have count := listed.length_eq
    have threads := keeps.num_threads group
    have memory := keeps.mem_rss group
    change _ = ((ofGroup group (snapshot.known table)).map _).sum at threads memory
    rw [length_map, length_map] at count
    constructor
    · constructor
      · rw [before.num_processes, (shown group).length_eq, length_append, length_append]
        omega
      · rw [before.num_threads, ((shown group).map _).sum_eq, map_append, map_append,
          sum_append, sum_append]
        omega
      · rw [before.mem_rss, ((shown group).map _).sum_eq, map_append, map_append, sum_append, sum_append]
        linarith
    · refine before.listed.trans (Perm.trans ?_ ((shown group).map _).symm)
      rw [map_append, map_append]
      exact (listed.append_left _).trans perm_append_comm

theorem ProcessGroups.Tallied.mem_update {snapshot : Snapshot lexicalCast getpagesize}
    (tallied : table.Tallied) {pid : Int} (present : pid ∈ snapshot.pids_now) :
    pid ∈ (table.update_grp_child_pids snapshot).parsed_stat := by
  apply mem_forgotten
  · rw [parsed_unlisted]
    rw [← snapshot.map_processes] at present
    obtain ⟨process, member, rfl⟩ := mem_map.mp present
    have perm := ((tallied.entered snapshot).2.map Sigma.fst).mem_iff (a := process.1)
    refine perm.mpr ?_
    rw [map_append]
    by_cases old : process.1 ∈ table.parsed_stat
    · exact mem_append_right _ old
    · refine mem_append_left _ (mem_map_of_mem (mem_filter.mpr ⟨member, ?_⟩))
      simpa using old
  · rintro process erased rfl
    have away := (mem_filter.mp erased).2
    rw [decide_eq_true_eq] at away
    exact away present

theorem ProcessGroups.current_iff (tallied : table.Tallied) :
    Current snapshot (table.update_grp_child_pids snapshot) ↔ snapshot.Keeps table := by
  rw [← table.current_groups_iff snapshot tallied]
  refine ⟨Current.groups, fun groups => ⟨groups, ?_, ?_⟩⟩
  · intro host component report reported
    unfold ProcessGroups.report at reported
    split at reported
    · cases reported
    · dsimp only at reported
      split at reported
      next grp _ found _ =>
        have own := groups component.pid
        rw [ProcessGroups.group, found] at own
        cases reported
        exact ⟨grp, own.toTotals, rfl, rfl, rfl⟩
      next => cases reported
  · intro host component running present nonempty
    have recorded := AList.lookup_isSome.mpr (tallied.mem_update present)
    obtain ⟨values, recorded⟩ := Option.isSome_iff_exists.mp recorded
    cases found : (table.update_grp_child_pids snapshot).grp_children.lookup (component.pid : Int) with
    | none =>
        have own := (groups component.pid).listed.length_eq
        rw [ProcessGroups.group, found, length_map] at own
        exact absurd (length_eq_zero_iff.mp own.symm) nonempty
    | some grp => simp [ProcessGroups.report, running, found, recorded]

/-- The table of groups is that of the snapshot after every update of a run just when no update finds
a known process gone, in another group or with figures that add up to something else. -/
theorem groups_current_iff (snapshots : List (Snapshot lexicalCast getpagesize)) :
    Along ProcessGroups.update_grp_child_pids
        (fun snapshot table => Current snapshot (table.update_grp_child_pids snapshot))
        ProcessGroups.new snapshots ↔
      Along ProcessGroups.update_grp_child_pids Snapshot.Keeps ProcessGroups.new snapshots := by
  apply along_iff ProcessGroups.Tallied
  · exact fun snapshot table tallied => table.current_iff snapshot tallied
  · intro snapshot table tallied keeps
    rw [table.update_of_stays snapshot (keeps.none_gone tallied)]
    exact (tallied.entered snapshot).1
  · exact ProcessGroups.tallied_new

end Update

def digitCast (text : String) : Option Int :=
  match text.toList with
  | [c] => if '0' ≤ c ∧ c ≤ '9' then some (c.toNat - 48) else none
  | _ => none

def statFields (pid pgrpid : String) : List String :=
  [pid, "(component)", "S", "1", pgrpid] ++ replicate 14 "0" ++ ["1"] ++ replicate 17 "0"

def leaderAndChild : Snapshot digitCast 4096 where
  names := ["5", "6"]
  stat := fun pid => if pid = 5 then statFields "5" "5" else statFields "6" "5"
  distinct := by decide
  readable := by
    intro pid member
    obtain rfl | rfl : pid = 6 ∨ pid = 5 := by simpa [digitCast] using member
    · exact ⟨⟨0, 1, 5⟩, by simp [procValues, statFields, digitCast]⟩
    · exact ⟨⟨0, 1, 5⟩, by simp [procValues, statFields, digitCast]⟩

def leaderAlone : Snapshot digitCast 4096 where
  names := ["5"]
  stat := fun _ => statFields "5" "5"
  distinct := by decide
  readable := by
    intro pid member
    obtain rfl : pid = 5 := by simpa [digitCast] using member
    exact ⟨⟨0, 1, 5⟩, by simp [procValues, statFields, digitCast]⟩

theorem exited_child_counted :
    ¬Along ProcessGroups.update_grp_child_pids
      (fun snapshot table => Current snapshot (table.update_grp_child_pids snapshot))
      ProcessGroups.new [leaderAndChild, leaderAlone] := by
  rintro ⟨-, current, -⟩
  have counted := (current.groups 5).num_processes
  revert counted
  decide

end Redhawk.Gpp
