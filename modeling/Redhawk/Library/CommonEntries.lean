import Mathlib.Data.List.Basic

/-!
What lists have in common of which one that is empty allows everything.
-/

namespace Redhawk.Library

open List

variable {β : Type} {lists more : List (List β)} {entry : β}

def HaveCommon (lists : List (List β)) : Prop :=
  (∀ list ∈ lists, list = []) ∨ ∃ entry, ∀ list ∈ lists, list ≠ [] → entry ∈ list

theorem HaveCommon.front (common : HaveCommon (lists ++ more)) : HaveCommon lists := by
  rcases common with empty | ⟨entry, inEach⟩
  · exact .inl fun list member => empty list (mem_append_left _ member)
  · exact .inr ⟨entry, fun list member => inEach list (mem_append_left _ member)⟩

variable [DecidableEq β]

def common (lists : List (List β)) : List β :=
  match lists.filter fun list => !list.isEmpty with
  | [] => []
  | first :: rest => first.filter fun entry => rest.all fun list => list.contains entry

theorem common_eq_nil_of_empty (empty : ∀ list ∈ lists, list = []) : common lists = [] := by
  have none : lists.filter (fun list => !list.isEmpty) = [] :=
    filter_eq_nil_iff.mpr fun list member => by simp [empty list member]
  rw [common, none]

theorem mem_common :
    entry ∈ common lists ↔ (∃ list ∈ lists, list ≠ []) ∧ ∀ list ∈ lists, list ≠ [] → entry ∈ list := by
  have nonempty : ∀ list, list ∈ lists.filter (fun list => !list.isEmpty) ↔
      list ∈ lists ∧ list ≠ [] := fun list => by simp
  have every : (∀ list ∈ lists, list ≠ [] → entry ∈ list) ↔
      ∀ list ∈ lists.filter (fun list => !list.isEmpty), entry ∈ list :=
    forall_congr' fun list => by rw [nonempty, and_imp]
  have some : (∃ list ∈ lists, list ≠ []) ↔ ∃ list, list ∈ lists.filter (fun list => !list.isEmpty) :=
    exists_congr fun list => (nonempty list).symm
  rw [every, some, common]
  cases lists.filter fun list => !list.isEmpty with
  | nil => simp
  | cons first rest => simp

example : common [[1, 2, 3], [], [3, 1]] = [1, 3] := by decide +kernel

theorem haveCommon_iff : HaveCommon lists ↔ (common lists = [] → ∀ list ∈ lists, list = []) := by
  constructor
  · rintro (empty | ⟨entry, inEach⟩) nothing
    · exact empty
    · by_contra some
      push Not at some
      have member := mem_common.mpr ⟨some, inEach⟩
      rw [nothing] at member
      exact nomatch member
  · intro exhausted
    rcases eq_nil_or_concat' (common lists) with nothing | ⟨front, entry, split⟩
    · exact .inl (exhausted nothing)
    · refine .inr ⟨entry, (mem_common.mp ?_).2⟩
      rw [split]
      exact mem_append_right _ mem_cons_self

theorem common_concat (lists : List (List β)) (list : List β) :
    common (lists ++ [list]) =
      if list.isEmpty then common lists
      else if (lists.filter fun list => !list.isEmpty).isEmpty then list
      else (common lists).filter fun entry => list.contains entry := by
  rw [common, common, filter_append]
  cases empty : list.isEmpty with
  | true => simp [empty]
  | false =>
      cases lists.filter fun list => !list.isEmpty with
      | nil => simp [empty]
      | cons first rest => simp [empty, filter_filter, all_append, Bool.and_comm]

theorem common_concat_of_empty {list : List β} (empty : ∀ list ∈ lists, list = []) :
    common (lists ++ [list]) = list := by
  have none : lists.filter (fun list => !list.isEmpty) = [] :=
    filter_eq_nil_iff.mpr fun list member => by simp [empty list member]
  rw [common_concat, none, common_eq_nil_of_empty empty]
  cases list <;> rfl

theorem haveCommon_concat (agree : HaveCommon lists) {list : List β} :
    HaveCommon (lists ++ [list]) ↔ (common (lists ++ [list]) = [] → list = []) := by
  rw [haveCommon_iff]
  refine imp_congr_right fun nothing => ?_
  constructor
  · exact fun empty => empty list (by simp)
  · rintro rfl other member
    rw [common_concat, isEmpty_nil, if_pos rfl] at nothing
    rcases mem_append.mp member with front | last
    · exact haveCommon_iff.mp agree nothing other front
    · exact mem_singleton.mp last

theorem any_of_common (agree : HaveCommon lists) {list : List β} (member : list ∈ lists)
    {test : β → Bool} (found : ((common lists).isEmpty || (common lists).any test) = true) :
    (list.isEmpty || list.any test) = true := by
  by_cases empty : list = []
  · rw [empty]
    rfl
  rcases Bool.or_eq_true_iff.mp found with nothing | some
  · exact absurd (haveCommon_iff.mp agree (List.isEmpty_iff.mp nothing) list member) empty
  · obtain ⟨entry, inCommon, passes⟩ := any_eq_true.mp some
    refine Bool.or_eq_true_iff.mpr (.inr (any_eq_true.mpr ⟨entry, ?_, passes⟩))
    exact (mem_common.mp inCommon).2 list member empty

end Redhawk.Library
