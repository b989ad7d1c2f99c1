import Mathlib.Data.List.Basic

/-!
Tables of what has been granted, by numbers that are not used twice, and what comes of a table when
those who were granted something give all of it back.
-/

namespace Redhawk.Library

open List

variable {Purpose : Type}

structure Grant (Purpose : Type) where
  id : Nat
  purpose : Purpose

structure Grants (Purpose : Type) where
  held : List (Grant Purpose)
  next : Nat
  known : ∀ grant ∈ held, grant.id < next

def numbered : Nat → List Purpose → List (Grant Purpose)
  | _, [] => []
  | first, purpose :: rest => ⟨first, purpose⟩ :: numbered (first + 1) rest

theorem numbered_bounds {first : Nat} {purposes : List Purpose} {grant : Grant Purpose}
    (member : grant ∈ numbered first purposes) :
    first ≤ grant.id ∧ grant.id < first + purposes.length := by
  induction purposes generalizing first with
  | nil => exact nomatch member
  | cons purpose rest ih =>
      rw [length_cons]
      rcases mem_cons.mp member with rfl | later
      · exact ⟨Nat.le_refl first, by simp only; omega⟩
      · have bounds := ih later
        omega

theorem numbered_purposes (first : Nat) (purposes : List Purpose) :
    (numbered first purposes).map Grant.purpose = purposes := by
  induction purposes generalizing first with
  | nil => rfl
  | cons purpose rest ih => rw [numbered, map_cons, ih]

theorem numbered_append (first : Nat) (front back : List Purpose) :
    numbered first (front ++ back) = numbered first front ++ numbered (first + front.length) back := by
  induction front generalizing first with
  | nil => rfl
  | cons purpose rest ih =>
      rw [cons_append, numbered, ih, numbered, cons_append, length_cons]
      congr 3
      omega

theorem numbered_take (first count : Nat) (purposes : List Purpose) :
    (numbered first purposes).take count = numbered first (purposes.take count) := by
  induction purposes generalizing first count with
  | nil => rw [take_nil, numbered, take_nil]
  | cons purpose rest ih =>
      cases count with
      | zero => rfl
      | succ count => rw [numbered, take_succ_cons, ih, take_succ_cons, numbered]

namespace Grants

def grant (table : Grants Purpose) (purposes : List Purpose) : Grants Purpose where
  held := table.held ++ numbered table.next purposes
  next := table.next + purposes.length
  known := by
    intro grant member
    rcases mem_append.mp member with old | new
    · exact Nat.lt_add_right _ (table.known grant old)
    · exact (numbered_bounds new).2

def ids (table : Grants Purpose) (purposes : List Purpose) : List Nat :=
  (numbered table.next purposes).map Grant.id

def revoke (table : Grants Purpose) (ids : List Nat) : Grants Purpose where
  held := table.held.filter fun grant => !ids.contains grant.id
  next := table.next
  known grant member := table.known grant (mem_of_mem_filter member)

@[simp] theorem held_grant (table : Grants Purpose) (purposes : List Purpose) :
    (table.grant purposes).held = table.held ++ numbered table.next purposes := rfl

@[simp] theorem held_revoke (table : Grants Purpose) (ids : List Nat) :
    (table.revoke ids).held = table.held.filter fun grant => !ids.contains grant.id := rfl

structure Scope (before : List (Grant Purpose)) (table : Grants Purpose)
    (owned : List (Grant Purpose)) : Prop where
  held : table.held = before ++ owned
  fresh : ∀ old ∈ before, ∀ mine ∈ owned, old.id ≠ mine.id

variable {table : Grants Purpose} {before owned : List (Grant Purpose)}

theorem scope_nil : Scope before table [] ↔ table.held = before := by
  constructor
  · exact fun scope => scope.held.trans (append_nil before)
  · exact fun same => ⟨same.trans (append_nil before).symm, fun _ _ _ => nofun⟩

theorem Scope.grant (table : Grants Purpose) (purposes : List Purpose) :
    Scope table.held (table.grant purposes) (numbered table.next purposes) where
  held := rfl
  fresh := by
    intro old older mine member
    have below := table.known old older
    have above := (numbered_bounds member).1
    omega

theorem Scope.trans {after : Grants Purpose} {extra : List (Grant Purpose)}
    (scope : Scope before table owned) (later : Scope table.held after extra) :
    Scope before after (owned ++ extra) where
  held := by rw [later.held, scope.held, append_assoc]
  fresh := by
    intro old older mine member
    rcases mem_append.mp member with earlier | added
    · exact scope.fresh old older mine earlier
    · exact later.fresh old (by rw [scope.held]; exact mem_append_left _ older) mine added

theorem held_revoke_of {after : List (Grant Purpose)} (held : table.held = before ++ owned ++ after)
    (fresh : ∀ other ∈ before ++ after, ∀ mine ∈ owned, other.id ≠ mine.id) :
    (table.revoke (owned.map Grant.id)).held = before ++ after := by
  have gone : owned.filter (fun grant => !(owned.map Grant.id).contains grant.id) = [] := by
    refine filter_eq_nil_iff.mpr fun grant member => ?_
    simpa using ⟨grant, member, rfl⟩
  have kept : (before ++ after).filter (fun grant => !(owned.map Grant.id).contains grant.id) =
      before ++ after := by
    refine filter_eq_self.mpr fun other member => ?_
    simpa using fun mine own => (fresh other member mine own).symm
  rw [held_revoke, held, filter_append, filter_append, gone, append_nil,
    ← filter_append, kept]

theorem Scope.revoke (scope : Scope before table owned) : (table.revoke (owned.map Grant.id)).held = before := by
  have held := @held_revoke_of _ table before owned [] (by rw [scope.held, append_nil])
    (by simpa using scope.fresh)
  rwa [append_nil] at held

theorem Scope.revoke_under {after : Grants Purpose} {extra : List (Grant Purpose)}
    (scope : Scope before table owned) (later : Scope table.held after extra) :
    Scope before (after.revoke (owned.map Grant.id)) extra where
  held := by
    refine held_revoke_of (by rw [later.held, scope.held]) fun other member mine own => ?_
    rcases mem_append.mp member with old | added
    · exact scope.fresh other old mine own
    · refine (later.fresh mine ?_ other added).symm
      rw [scope.held]
      exact mem_append_right _ own
  fresh old older mine member :=
    (scope.trans later).fresh old older mine (mem_append_right _ member)

end Grants

end Redhawk.Library
