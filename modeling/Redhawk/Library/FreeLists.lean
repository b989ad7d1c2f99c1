import Mathlib.Data.List.Perm.Basic

/-!
A region that is cut into pieces, and lists of pieces by their size, as allocators keep them.
-/

namespace Redhawk.Library.FreeLists

open List

section Pieces

variable {α : Type} {place size : α → Nat} {start stop : Nat}

/-- The pieces lie one behind the other from `start` to `stop`, and none is empty. -/
def Tiles (place size : α → Nat) : Nat → List α → Nat → Prop
  | start, [], stop => start = stop
  | start, piece :: rest, stop =>
      place piece = start ∧ 0 < size piece ∧ Tiles place size (start + size piece) rest stop

theorem tiles_append {front rest : List α} : Tiles place size start (front ++ rest) stop ↔
    ∃ middle, Tiles place size start front middle ∧ Tiles place size middle rest stop := by
  induction front generalizing start with
  | nil => exact ⟨fun tiles => ⟨start, rfl, tiles⟩, by rintro ⟨_, rfl, tiles⟩; exact tiles⟩
  | cons piece front ih =>
      rw [cons_append, Tiles, ih]
      constructor
      · rintro ⟨here, some, middle, before, behind⟩
        exact ⟨middle, ⟨here, some, before⟩, behind⟩
      · rintro ⟨middle, ⟨here, some, before⟩, behind⟩
        exact ⟨here, some, middle, before, behind⟩

variable {pieces : List α}

theorem Tiles.le (tiles : Tiles place size start pieces stop) : start ≤ stop := by
  induction pieces generalizing start with
  | nil => exact Nat.le_of_eq tiles
  | cons piece rest ih =>
      have behind := ih tiles.2.2
      omega

variable {piece : α}

theorem Tiles.inside (tiles : Tiles place size start pieces stop)
    (member : piece ∈ pieces) : start ≤ place piece ∧ 0 < size piece ∧ place piece + size piece ≤ stop := by
  obtain ⟨front, rest, rfl⟩ := append_of_mem member
  obtain ⟨middle, before, here, some, behind⟩ := tiles_append.mp tiles
  have lower := before.le
  have upper := behind.le
  omega

theorem Tiles.replace (old new : List α) {front rest : List α}
    (tiles : Tiles place size start (front ++ (old ++ rest)) stop)
    (same : ∀ first last, Tiles place size first old last → Tiles place size first new last) :
    Tiles place size start (front ++ (new ++ rest)) stop := by
  obtain ⟨middle, before, behind⟩ := tiles_append.mp tiles
  obtain ⟨last, here, after⟩ := tiles_append.mp behind
  exact tiles_append.mpr ⟨middle, before, tiles_append.mpr ⟨last, same _ _ here, after⟩⟩

theorem Tiles.apart {front rest : List α} {other : α}
    (tiles : Tiles place size start (front ++ piece :: rest) stop)
    (member : other ∈ front ∨ other ∈ rest) : place other ≠ place piece := by
  obtain ⟨middle, before, here, some, behind⟩ := tiles_append.mp tiles
  rcases member with early | late
  · have bounds := before.inside early
    omega
  · have bounds := behind.inside late
    omega

theorem Tiles.last_iff {front rest : List α} (tiles : Tiles place size start (front ++ piece :: rest) stop) :
    place piece + size piece = stop ↔ rest = [] := by
  obtain ⟨middle, before, here, some, behind⟩ := tiles_append.mp tiles
  cases rest with
  | nil =>
      have last : middle + size piece = stop := behind
      exact iff_of_true (by omega) rfl
  | cons next rest =>
      have bounds := behind.inside (mem_cons_self ..)
      exact iff_of_false (by omega) nofun

def cut (place : α → Nat) (target : Nat) : List α → Option (List α × α × List α)
  | [] => none
  | piece :: rest =>
      if place piece = target then some ([], piece, rest)
      else (cut place target rest).map fun (front, found, behind) => (piece :: front, found, behind)

theorem cut_some {target : Nat} {front rest : List α}
    (cuts : cut place target pieces = some (front, piece, rest)) :
    pieces = front ++ piece :: rest ∧ place piece = target := by
  induction pieces generalizing front with
  | nil => cases cuts
  | cons head tail ih =>
      rw [cut] at cuts
      split at cuts
      · rename_i here
        cases cuts
        exact ⟨rfl, here⟩
      · obtain ⟨⟨before, found, behind⟩, later, same⟩ := Option.map_eq_some_iff.mp cuts
        cases same
        obtain ⟨whole, here⟩ := ih later
        exact ⟨congrArg (head :: ·) whole, here⟩

theorem cut_exists {target : Nat} (member : piece ∈ pieces) (here : place piece = target) :
    ∃ front found rest, cut place target pieces = some (front, found, rest) := by
  induction pieces with
  | nil => cases member
  | cons head tail ih =>
      rw [cut]
      split
      · exact ⟨_, _, _, rfl⟩
      · rename_i elsewhere
        rcases mem_cons.mp member with rfl | later
        · exact absurd here elsewhere
        · obtain ⟨front, found, rest, cuts⟩ := ih later
          exact ⟨head :: front, found, rest, by rw [cuts]; rfl⟩

theorem Tiles.cut_eq (tiles : Tiles place size start pieces stop)
    (member : piece ∈ pieces) : ∃ front rest,
      cut place (place piece) pieces = some (front, piece, rest) ∧ pieces = front ++ piece :: rest := by
  obtain ⟨front, found, rest, cuts⟩ := cut_exists member rfl
  obtain ⟨whole, here⟩ := cut_some cuts
  rw [whole] at tiles member
  rcases mem_append.mp member with early | late
  · exact absurd here.symm (tiles.apart (.inl early))
  · rcases mem_cons.mp late with rfl | late
    · exact ⟨front, rest, cuts, whole⟩
    · exact absurd here.symm (tiles.apart (.inr late))

end Pieces

section Bins

variable {ε : Type} {size : ε → Nat}

def Uniform (size : ε → Nat) (bins : List (List ε)) : Prop :=
  ∀ bin ∈ bins, ∀ x ∈ bin, ∀ y ∈ bin, size x = size y

/-- An entry goes behind the first of the bin of its size, or becomes a bin before the first bin of a
larger size. -/
def queue (size : ε → Nat) (entry : ε) : List (List ε) → List (List ε)
  | [] => [[entry]]
  | [] :: bins => queue size entry bins
  | (first :: bin) :: bins =>
      if size first = size entry then (first :: entry :: bin) :: bins
      else if size first > size entry then [entry] :: (first :: bin) :: bins
      else (first :: bin) :: queue size entry bins

/-- The second entry of the first bin that is large enough, or its only one. -/
def findAvailable (size : ε → Nat) (least : Nat) : List (List ε) → Option ε
  | [] => none
  | [] :: bins => findAvailable size least bins
  | [first] :: bins => if size first ≥ least then some first else findAvailable size least bins
  | (first :: second :: _) :: bins =>
      if size first ≥ least then some second else findAvailable size least bins

def unqueue [DecidableEq ε] (entry : ε) (bins : List (List ε)) : List (List ε) :=
  (bins.map (·.filter (· ≠ entry))).filter (· ≠ [])

theorem queue_perm (entry : ε) (bins : List (List ε)) :
    (queue size entry bins).flatten.Perm (entry :: bins.flatten) := by
  fun_induction queue size entry bins with
  | case1 => exact .refl _
  | case2 bins ih => exact ih
  | case3 first bin bins same => exact .swap ..
  | case4 first bin bins other larger => exact .refl _
  | case5 first bin bins other smaller ih =>
      exact (ih.append_left _).trans perm_middle

variable {entry : ε} {bins : List (List ε)}

theorem queue_uniform (uniform : Uniform size bins) : Uniform size (queue size entry bins) := by
  have one : ∀ x ∈ [entry], ∀ y ∈ [entry], size x = size y := by
    intro x memberX y memberY
    rw [mem_singleton.mp memberX, mem_singleton.mp memberY]
  fun_induction queue size entry bins with
  | case1 => exact forall_mem_singleton.mpr one
  | case2 bins ih => exact ih (forall_mem_cons.mp uniform).2
  | case3 first bin bins same =>
      obtain ⟨here, others⟩ := forall_mem_cons.mp uniform
      have first' : ∀ x ∈ first :: entry :: bin, size x = size first := by
        intro x member
        rcases mem_cons.mp member with rfl | member
        · rfl
        · rcases mem_cons.mp member with rfl | member
          · exact same.symm
          · exact here x (mem_cons_of_mem _ member) first (mem_cons_self ..)
      refine forall_mem_cons.mpr ⟨fun x memberX y memberY => ?_, others⟩
      rw [first' x memberX, first' y memberY]
  | case4 first bin bins other larger => exact forall_mem_cons.mpr ⟨one, uniform⟩
  | case5 first bin bins other smaller ih =>
      obtain ⟨here, others⟩ := forall_mem_cons.mp uniform
      exact forall_mem_cons.mpr ⟨here, ih others⟩

theorem findAvailable_some {least : Nat} (uniform : Uniform size bins)
    (finds : findAvailable size least bins = some entry) :
    entry ∈ bins.flatten ∧ least ≤ size entry := by
  fun_induction findAvailable size least bins with
  | case1 => cases finds
  | case2 bins ih => exact ih (forall_mem_cons.mp uniform).2 finds
  | case3 first bins large =>
      cases finds
      exact ⟨by simp, large⟩
  | case4 first bins small ih =>
      obtain ⟨member, large⟩ := ih (forall_mem_cons.mp uniform).2 finds
      exact ⟨by simp [member], large⟩
  | case5 first second bin bins large =>
      cases finds
      have same := (forall_mem_cons.mp uniform).1 first (by simp) entry (by simp)
      exact ⟨by simp, by omega⟩
  | case6 first second bin bins small ih =>
      obtain ⟨member, large⟩ := ih (forall_mem_cons.mp uniform).2 finds
      exact ⟨by simp [member], large⟩

theorem findAvailable_none {least : Nat} (uniform : Uniform size bins)
    (finds : findAvailable size least bins = none) : ∀ entry ∈ bins.flatten, size entry < least := by
  have bin {first : ε} {rest : List ε} {bins : List (List ε)}
      (uniform : Uniform size ((first :: rest) :: bins)) (small : ¬size first ≥ least)
      (others : ∀ entry ∈ bins.flatten, size entry < least) :
      ∀ entry ∈ ((first :: rest) :: bins).flatten, size entry < least := by
    intro entry member
    rcases mem_append.mp (flatten_cons ▸ member) with here | later
    · have same := (forall_mem_cons.mp uniform).1 entry here first (mem_cons_self ..)
      omega
    · exact others entry later
  fun_induction findAvailable size least bins with
  | case1 => exact nofun
  | case2 bins ih => exact ih (forall_mem_cons.mp uniform).2 finds
  | case3 first bins large => cases finds
  | case4 first bins small ih =>
      exact bin uniform small (ih (forall_mem_cons.mp uniform).2 finds)
  | case5 first second rest bins large => cases finds
  | case6 first second rest bins small ih =>
      exact bin uniform small (ih (forall_mem_cons.mp uniform).2 finds)

variable [DecidableEq ε]

theorem unqueue_flatten (entry : ε) (bins : List (List ε)) :
    (unqueue entry bins).flatten = bins.flatten.filter (· ≠ entry) := by
  rw [unqueue, filter_flatten]
  generalize bins.map (·.filter (· ≠ entry)) = lists
  induction lists with
  | nil => rfl
  | cons list lists ih => cases list <;> simp_all

theorem unqueue_uniform (uniform : Uniform size bins) : Uniform size (unqueue entry bins) := by
  intro bin member x memberX y memberY
  obtain ⟨listed, -⟩ := mem_filter.mp member
  obtain ⟨whole, inside, rfl⟩ := mem_map.mp listed
  exact uniform whole inside x (mem_filter.mp memberX).1 y (mem_filter.mp memberY).1

example : unqueue 3 (queue id 3 [[1], [2, 2]]) = [[1], [2, 2]] := by decide +kernel

end Bins

end Redhawk.Library.FreeLists
