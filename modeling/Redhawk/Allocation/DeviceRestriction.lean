import Redhawk.Allocation.DeviceRequests

/-!
When the devices that are tried are the requested ones: exactly when every device that was not
requested is followed, in the list of the domain, by one that was.
-/

namespace Redhawk.Allocation

open List

/-- The devices tried are those of the domain that were requested, in the order of the domain, and
the loop that finds them stays within the list. -/
def RespectsRestriction (requested : List String) (devices : List DeviceNode) : Prop :=
  devicesTried requested devices = some (devices.filter fun node => node.identifier ∈ requested)

def UnwantedFollowed (requested : List String) (devices : List DeviceNode) : Prop :=
  ∀ before node after, devices = before ++ node :: after → node.identifier ∉ requested →
    ∃ next rest, after = next :: rest ∧ next.identifier ∈ requested

variable {requested : List String} {node : DeviceNode}

theorem unwantedFollowed_cons {devices : List DeviceNode} :
    UnwantedFollowed requested (node :: devices) ↔
      (node.identifier ∉ requested → ∃ next rest, devices = next :: rest ∧ next.identifier ∈ requested) ∧
      UnwantedFollowed requested devices := by
  constructor
  · intro followed
    refine ⟨followed [] node devices rfl, ?_⟩
    intro before other after split unwanted
    exact followed (node :: before) other after (by rw [split]; rfl) unwanted
  · rintro ⟨first, followed⟩ before other after split unwanted
    cases before with
    | nil =>
      obtain ⟨rfl, rfl⟩ := cons.inj split
      exact first unwanted
    | cons head before =>
      obtain ⟨rfl, rfl⟩ := cons.inj split
      exact followed before other after rfl unwanted

theorem filterLoop_wanted (wanted : node.identifier ∈ requested) (passed rest : List DeviceNode) :
    filterLoop requested passed (node :: rest) = filterLoop requested (passed ++ [node]) rest := by
  cases rest <;> simp [filterLoop, wanted]

theorem filterLoop_last (unwanted : node.identifier ∉ requested)
    (passed : List DeviceNode) : filterLoop requested passed [node] = none := by
  simp [filterLoop, unwanted]

theorem filterLoop_skip (unwanted : node.identifier ∉ requested)
    (passed : List DeviceNode) (next : DeviceNode) (rest : List DeviceNode) :
    filterLoop requested passed (node :: next :: rest) = filterLoop requested (passed ++ [next]) rest := by
  simp [filterLoop, unwanted]

theorem filterLoop_prefix {passed devices result : List DeviceNode}
    (done : filterLoop requested passed devices = some result) : passed <+: result := by
  induction passed, devices using filterLoop.induct requested with
  | case1 passed =>
    obtain rfl := Option.some.inj done
    exact prefix_refl passed
  | case2 passed node rest wanted ih =>
    rw [filterLoop_wanted wanted] at done
    exact (prefix_append passed [node]).trans (ih done)
  | case3 passed node unwanted =>
    rw [filterLoop_last unwanted] at done
    cases done
  | case4 passed node unwanted next rest ih =>
    rw [filterLoop_skip unwanted] at done
    exact (prefix_append passed [next]).trans (ih done)

theorem filterLoop_iff (passed devices : List DeviceNode) :
    filterLoop requested passed devices =
        some (passed ++ devices.filter fun node => node.identifier ∈ requested) ↔
      UnwantedFollowed requested devices := by
  induction passed, devices using filterLoop.induct requested with
  | case1 passed =>
    refine iff_of_true (by simp [filterLoop]) ?_
    intro before node after split
    simp at split
  | case2 passed node rest wanted ih =>
    rw [append_assoc, singleton_append] at ih
    rw [filterLoop_wanted wanted, unwantedFollowed_cons, filter_cons_of_pos (by simpa using wanted), ih]
    constructor
    · intro followed
      exact ⟨fun unwanted => absurd wanted unwanted, followed⟩
    · exact And.right
  | case3 passed node unwanted =>
    rw [filterLoop_last unwanted, unwantedFollowed_cons]
    refine iff_of_false (by simp) ?_
    rintro ⟨first, _⟩
    obtain ⟨next, rest, empty, _⟩ := first unwanted
    cases empty
  | case4 passed node unwanted next rest ih =>
    rw [filterLoop_skip unwanted, unwantedFollowed_cons, filter_cons_of_neg (by simpa using unwanted)]
    by_cases wanted : next.identifier ∈ requested
    · rw [append_assoc, singleton_append] at ih
      rw [filter_cons_of_pos (by simpa using wanted), ih, unwantedFollowed_cons]
      constructor
      · intro followed
        exact ⟨fun _ => ⟨next, rest, rfl, wanted⟩, fun other => absurd wanted other, followed⟩
      · exact fun both => both.2.2
    · rw [filter_cons_of_neg (by simpa using wanted)]
      refine iff_of_false ?_ ?_
      · intro done
        have start := filterLoop_prefix done
        rw [prefix_append_right_inj] at start
        obtain ⟨others, all⟩ := start
        have member : next ∈ rest.filter fun node => node.identifier ∈ requested := by
          rw [← all]
          exact mem_cons_self
        exact wanted (by simpa using (mem_filter.mp member).2)
      · rintro ⟨first, _⟩
        obtain ⟨other, others, same, found⟩ := first unwanted
        obtain ⟨rfl, rfl⟩ := cons.inj same
        exact wanted found

theorem respectsRestriction_iff (devices : List DeviceNode) (some : requested ≠ []) :
    RespectsRestriction requested devices ↔ UnwantedFollowed requested devices := by
  have given : requested.isEmpty = false := by simpa using some
  have filtered := @filterLoop_iff requested [] devices
  rw [RespectsRestriction, devicesTried, given]
  simpa using filtered

theorem respectsRestriction_iff_single :
    RespectsRestriction ["b"] [⟨"a", 0, 0, [], []⟩, ⟨"b", 1, 0, [], []⟩] ↔
      UnwantedFollowed ["b"] [⟨"a", 0, 0, [], []⟩, ⟨"b", 1, 0, [], []⟩] :=
  respectsRestriction_iff _ (by decide)

/-- Of two devices in front of the requested one, one is tried; one behind it ends in the step past
the end. -/
theorem restriction_ignored :
    devicesTried ["b"] [⟨"a", 0, 0, [], []⟩, ⟨"c", 1, 0, [], []⟩, ⟨"b", 2, 0, [], []⟩] =
        some [⟨"c", 1, 0, [], []⟩, ⟨"b", 2, 0, [], []⟩] ∧
      ¬ RespectsRestriction ["b"] [⟨"a", 0, 0, [], []⟩, ⟨"c", 1, 0, [], []⟩, ⟨"b", 2, 0, [], []⟩] ∧
      devicesTried ["b"] [⟨"b", 0, 0, [], []⟩, ⟨"a", 1, 0, [], []⟩] = none := by
  refine ⟨by decide, ?_, by decide⟩
  unfold RespectsRestriction
  decide

end Redhawk.Allocation
