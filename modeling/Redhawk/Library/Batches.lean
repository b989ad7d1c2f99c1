import Mathlib.Data.List.Perm.Basic
import Mathlib.Order.Lattice
import Redhawk.Library.Lists

/-!
Entries gathered under their keys, in the order of the keys.
-/

namespace Redhawk.Library

open List

variable {Key Entry : Type}

abbrev Batches (Key Entry : Type) := List (Key × List Entry)

namespace Batches

def entriesOf [DecidableEq Key] (key : Key) (batches : Batches Key Entry) : List Entry :=
  (batches.filter fun batch => batch.1 == key).flatMap Prod.snd

def flat (batches : Batches Key Entry) : List (Key × Entry) :=
  batches.flatMap fun batch => batch.2.map fun entry => (batch.1, entry)

def Sorted [LT Key] (batches : Batches Key Entry) : Prop :=
  (batches.map Prod.fst).Pairwise (· < ·)

variable [LinearOrder Key]

def add (key : Key) (entry : Entry) : Batches Key Entry → Batches Key Entry
  | [] => [(key, [entry])]
  | (other, entries) :: rest =>
    if key = other then (other, entries ++ [entry]) :: rest
    else if key < other then (key, [entry]) :: (other, entries) :: rest
    else (other, entries) :: add key entry rest

def addAll (items : List (Key × Entry)) (batches : Batches Key Entry) : Batches Key Entry :=
  items.foldl (fun batches item => batches.add item.1 item.2) batches

variable {batches : Batches Key Entry} {key other : Key} {entry : Entry}

theorem mem_keys_add :
    other ∈ (batches.add key entry).map Prod.fst ↔ other = key ∨ other ∈ batches.map Prod.fst := by
  induction batches with
  | nil => simp [add]
  | cons batch rest ih =>
      rw [add]
      split
      · next same => simp [same]
      · split
        · simp
        · rw [map_cons, mem_cons, ih, map_cons, mem_cons]
          exact or_left_comm

theorem sorted_nil : Sorted ([] : Batches Key Entry) := List.Pairwise.nil

theorem sorted_singleton (batch : Key × List Entry) : Sorted [batch] := pairwise_singleton _ _

theorem Sorted.add (sorted : batches.Sorted) : (batches.add key entry).Sorted := by
  induction batches with
  | nil => simp [Batches.add, Sorted]
  | cons batch rest ih =>
      obtain ⟨first, later⟩ := pairwise_cons.mp sorted
      rw [Batches.add]
      split
      · exact sorted
      · next different =>
          split
          · next below =>
              refine pairwise_cons.mpr ⟨fun other member => ?_, sorted⟩
              rcases mem_cons.mp member with rfl | behind
              · exact below
              · exact lt_trans below (first other behind)
          · next notBelow =>
              refine pairwise_cons.mpr ⟨fun other member => ?_, ih later⟩
              rcases mem_keys_add.mp member with rfl | behind
              · exact lt_of_le_of_ne (not_lt.mp notBelow) (Ne.symm different)
              · exact first other behind

theorem entriesOf_cons (batch : Key × List Entry) (rest : Batches Key Entry) :
    Batches.entriesOf key (batch :: rest) =
      (if batch.1 = key then batch.2 else []) ++ Batches.entriesOf key rest := by
  by_cases same : batch.1 = key <;> simp [entriesOf, same]

theorem entriesOf_eq_nil (absent : key ∉ batches.map Prod.fst) : batches.entriesOf key = [] := by
  rw [entriesOf, filter_eq_nil_iff.mpr, flatMap_nil]
  intro batch member same
  exact absent (beq_iff_eq.mp same ▸ mem_map_of_mem member)

theorem entriesOf_add (sorted : batches.Sorted) :
    (batches.add key entry).entriesOf other =
      batches.entriesOf other ++ if key = other then [entry] else [] := by
  induction batches with
  | nil => by_cases here : key = other <;> simp [add, entriesOf, here]
  | cons batch rest ih =>
      obtain ⟨first, later⟩ := pairwise_cons.mp sorted
      rw [add, entriesOf_cons]
      split
      · next same =>
          subst same
          rw [entriesOf_cons]
          by_cases here : batch.1 = other
          · have absent : other ∉ rest.map Prod.fst := fun member =>
              lt_irrefl other (here ▸ first other member)
            simp [here, entriesOf_eq_nil absent]
          · simp [here]
      · next different =>
          split
          · next below =>
              rw [entriesOf_cons, entriesOf_cons]
              by_cases here : key = other
              · have absent : other ∉ (batch :: rest).map Prod.fst := by
                  subst here
                  intro member
                  rcases mem_cons.mp member with same | behind
                  · exact different same
                  · exact lt_asymm below (first _ behind)
                have none := entriesOf_eq_nil absent
                rw [entriesOf_cons] at none
                simp [here, none]
              · simp [here]
          · rw [entriesOf_cons, ih later, append_assoc]

theorem Sorted.addAll {items : List (Key × Entry)} (sorted : batches.Sorted) : (batches.addAll items).Sorted := by
  induction items generalizing batches with
  | nil => exact sorted
  | cons item rest ih => exact ih sorted.add

theorem entriesOf_addAll (sorted : batches.Sorted) (items : List (Key × Entry)) :
    (batches.addAll items).entriesOf key =
      batches.entriesOf key ++ (items.filter fun item => item.1 == key).map Prod.snd := by
  induction items generalizing batches with
  | nil => simp [addAll]
  | cons item rest ih =>
      rw [addAll, foldl_cons, ← addAll, ih sorted.add, entriesOf_add sorted]
      by_cases here : item.1 = key <;> simp [here]

theorem mem_keys_addAll (items : List (Key × Entry)) :
    key ∈ (batches.addAll items).map Prod.fst ↔ key ∈ batches.map Prod.fst ∨ key ∈ items.map Prod.fst := by
  induction items generalizing batches with
  | nil => simp [addAll]
  | cons item rest ih =>
      rw [addAll, foldl_cons, ← addAll, ih, mem_keys_add, map_cons, mem_cons,
        or_comm (a := key = item.1), or_assoc]

theorem flat_add : (batches.add key entry).flat.Perm ((key, entry) :: batches.flat) := by
  induction batches with
  | nil => simp [add, flat]
  | cons batch rest ih =>
      rw [add]
      split
      · next same =>
          subst same
          simp only [flat, flatMap_cons, map_append, append_assoc]
          exact perm_middle
      · split
        · simp [flat]
        · exact (ih.append_left _).trans perm_middle

theorem flat_addAll (items : List (Key × Entry)) : (batches.addAll items).flat.Perm (items ++ batches.flat) := by
  induction items generalizing batches with
  | nil => exact Perm.refl _
  | cons item rest ih =>
      exact ih.trans ((flat_add.append_left rest).trans perm_middle)

theorem Sorted.nodup (sorted : batches.Sorted) : (batches.map Prod.fst).Nodup :=
  List.Pairwise.imp (fun below => ne_of_lt below) sorted

theorem entriesOf_of_mem (sorted : batches.Sorted) {batch : Key × List Entry} (member : batch ∈ batches) :
    batches.entriesOf batch.1 = batch.2 := by
  rw [entriesOf, filter_key_eq_singleton sorted.nodup member]
  simp

theorem mem_addAll (sorted : batches.Sorted) {items : List (Key × Entry)} {batch : Key × List Entry}
    (member : batch ∈ batches.addAll items) :
    (batch.1 ∈ batches.map Prod.fst ∨ batch.1 ∈ items.map Prod.fst) ∧
      batch.2 = batches.entriesOf batch.1 ++ (items.filter fun item => item.1 == batch.1).map Prod.snd := by
  rw [← entriesOf_addAll sorted, entriesOf_of_mem sorted.addAll member, ← mem_keys_addAll]
  exact ⟨mem_map_of_mem member, rfl⟩

theorem exists_mem_addAll (sorted : batches.Sorted) {items : List (Key × Entry)} {item : Key × Entry}
    (member : item ∈ items) :
    ∃ batch ∈ batches.addAll items, batch.1 = item.1 ∧ item.2 ∈ batch.2 := by
  have key : item.1 ∈ (batches.addAll items).map Prod.fst :=
    (mem_keys_addAll items).mpr (.inr (mem_map_of_mem member))
  obtain ⟨batch, isBatch, same⟩ := mem_map.mp key
  refine ⟨batch, isBatch, same, ?_⟩
  rw [(mem_addAll sorted isBatch).2]
  exact mem_append_right _
    (mem_map_of_mem (mem_filter.mpr ⟨member, beq_iff_eq.mpr same.symm⟩))

end Batches

end Redhawk.Library
