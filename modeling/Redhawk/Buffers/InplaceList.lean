import Redhawk.Library.LinkedLists

/-!
The intrusive list of `inplace_list.h`: its nodes are linked through fields of their own.
-/

namespace Redhawk.Buffers

open Library List Option

variable {Node : Type}

structure InplaceList (Node : Type) where
  head : Option Node
  tail : Option Node
  size : Nat

namespace InplaceList

def empty : InplaceList Node := ⟨none, none, 0⟩

def isEmpty (list : InplaceList Node) : Bool := list.head.isNone

section Links

variable [DecidableEq Node]

/-- Before the node at the position, which is `none` at the end. -/
def insert (pos : Option Node) (node : Node) (list : InplaceList Node) (links : Node → Link Node) :
    InplaceList Node × (Node → Link Node) :=
  let (list, prev, next) :=
    if pos = list.head then
      ({ list with head := some node, tail := list.tail.or (some node) }, none, list.head)
    else
      match pos with
      | none => ({ list with tail := some node }, list.tail, none)
      | some at' => (list, (links at').prev, some at')
  let links := setNextAt links prev (some node)
  let links := setPrev links node prev
  let links := setNext links node next
  ({ list with size := list.size + 1 }, setPrevAt links next (some node))

def erase (node : Node) (list : InplaceList Node) (links : Node → Link Node) :
    InplaceList Node × (Node → Link Node) :=
  let prev := (links node).prev
  let next := (links node).next
  let (list, links) :=
    match prev with
    | none => ({ list with head := next }, links)
    | some prev => (list, setNext links prev next)
  let (list, links) :=
    match next with
    | some next => (list, setPrev links next prev)
    | none => ({ list with tail := prev }, links)
  ({ list with size := list.size - 1 }, links)

def push_front (node : Node) (list : InplaceList Node) (links : Node → Link Node) :
    InplaceList Node × (Node → Link Node) :=
  list.insert list.head node links

end Links

def find (links : Node → Link Node) (matching : Node → Bool) : Nat → Option Node → Option Node
  | _, none => none
  | 0, some _ => none
  | count + 1, some node =>
      if matching node then some node else find links matching count (links node).next

def walk (links : Node → Link Node) : Nat → Option Node → List Node
  | _, none => []
  | 0, some _ => []
  | count + 1, some node => node :: walk links count (links node).next

def contents (list : InplaceList Node) (links : Node → Link Node) : List Node :=
  walk links list.size list.head

structure Holds (list : InplaceList Node) (links : Node → Link Node) (nodes : List Node) : Prop where
  nodup : nodes.Nodup
  head : list.head = nodes.head?
  tail : list.tail = nodes.getLast?
  size : list.size = nodes.length
  linked : Linked links none nodes none

section Lists

variable {list : InplaceList Node} {links other : Node → Link Node} {nodes : List Node}

theorem Holds.congr (holds : Holds list links nodes)
    (same : ∀ node ∈ nodes, other node = links node) : Holds list other nodes :=
  ⟨holds.nodup, holds.head, holds.tail, holds.size, holds.linked.congr same⟩

theorem Holds.isEmpty_iff (holds : Holds list links nodes) : list.isEmpty = true ↔ nodes = [] := by
  rw [isEmpty, holds.head, isNone_iff_eq_none, head?_eq_none_iff]

theorem walk_linked {before : Option Node} (linked : Linked links before nodes none) {count : Nat}
    (enough : nodes.length ≤ count) : walk links count nodes.head? = nodes := by
  induction nodes generalizing before count with
  | nil => cases count <;> rfl
  | cons node rest ih =>
      cases count with
      | zero => cases enough
      | succ count =>
          obtain ⟨-, next, linked⟩ := linked
          rw [head?_cons, walk, next, or_none, ih linked (Nat.le_of_succ_le_succ enough)]

theorem Holds.contents_eq (holds : Holds list links nodes) : list.contents links = nodes := by
  rw [contents, holds.head, holds.size]
  exact walk_linked holds.linked (Nat.le_refl _)

theorem find_linked {before : Option Node} (linked : Linked links before nodes none)
    (matching : Node → Bool) {count : Nat} (enough : nodes.length ≤ count) :
    find links matching count nodes.head? = nodes.find? matching := by
  induction nodes generalizing before count with
  | nil => cases count <;> rfl
  | cons node rest ih =>
      cases count with
      | zero => cases enough
      | succ count =>
          obtain ⟨-, next, linked⟩ := linked
          rw [head?_cons, find, next, or_none, find?_cons,
            ih linked (Nat.le_of_succ_le_succ enough)]
          cases matching node <;> rfl

theorem Holds.find_eq (holds : Holds list links nodes) (matching : Node → Bool) :
    find links matching list.size list.head = nodes.find? matching := by
  rw [holds.head, holds.size]
  exact find_linked holds.linked matching (Nat.le_refl _)

variable [DecidableEq Node]

theorem Holds.push_front (holds : Holds list links nodes) {node : Node} (new : node ∉ nodes) :
    Holds (list.push_front node links).1 (list.push_front node links).2 (node :: nodes) := by
  have apart : some node ≠ nodes.head? := fun same => new (mem_of_head? same.symm)
  unfold InplaceList.push_front insert
  rw [if_pos rfl]
  refine ⟨nodup_cons.mpr ⟨new, holds.nodup⟩, rfl, ?_, congrArg (· + 1) holds.size, ?_, ?_, ?_⟩
  · rw [holds.tail, getLast?_cons]
    cases nodes.getLast? <;> rfl
  · change (setPrevAt _ list.head _ node).prev = none
    rw [holds.head, setPrevAt_of_ne apart]
    simp
  · change (setPrevAt _ list.head _ node).next = _
    rw [holds.head, setPrevAt_of_ne apart]
    simp
  · rw [holds.head]
    refine Linked.setPrevAt (holds.linked.congr fun other member => ?_) holds.nodup _
    have different : other ≠ node := fun same => new (same ▸ member)
    rw [setNext_of_ne different, setPrev_of_ne different]
    rfl

theorem push_front_of_ne {node : Node} {other : Node} (different : other ≠ node)
    (apart : some other ≠ list.head) : (list.push_front node links).2 other = links other := by
  unfold InplaceList.push_front insert
  rw [if_pos rfl]
  change setPrevAt _ list.head _ other = _
  rw [setPrevAt_of_ne apart, setNext_of_ne different, setPrev_of_ne different]
  rfl

theorem erase_eq (node : Node) :
    list.erase node links =
      (⟨if (links node).prev.isNone then (links node).next else list.head,
        if (links node).next.isNone then (links node).prev else list.tail, list.size - 1⟩,
      setPrevAt (setNextAt links (links node).prev (links node).next) (links node).next
        (links node).prev) := by
  unfold erase
  cases (links node).prev <;> cases (links node).next <;> rfl

theorem Holds.erase {front back : List Node} {node : Node} (holds : Holds list links (front ++ node :: back)) :
    Holds (list.erase node links).1 (list.erase node links).2 (front ++ back) := by
  obtain ⟨before, prev, next, behind⟩ := linked_append.mp holds.linked
  rw [or_none] at prev next
  have nodup := holds.nodup
  obtain ⟨nodupFront, nodupBack, apart⟩ := nodup_append.mp nodup
  obtain ⟨-, nodupBack⟩ := nodup_cons.mp nodupBack
  have between : ∀ one ∈ front, ∀ other ∈ back, one ≠ other := fun one first other last =>
    apart one first other (mem_cons_of_mem _ last)
  rw [erase_eq, prev, next]
  refine ⟨?_, ?_, ?_, ?_, linked_append.mpr ⟨?_, ?_⟩⟩
  · exact nodup_append.mpr ⟨nodupFront, nodupBack, between⟩
  · rw [holds.head, head?_append, head?_append]
    cases front <;> simp
  · rw [holds.tail]
    cases back with
    | nil => simp
    | cons other back => simp [getLast?_append]
  · rw [holds.size]
    simp
  · rw [or_none]
    refine (before.setNextAt nodupFront back.head?).congr fun other member => ?_
    refine setPrevAt_of_ne (fun same => ?_) _
    exact between other member other (mem_of_head? same.symm) rfl
  · rw [or_none]
    refine Linked.setPrevAt (behind.congr fun other member => ?_) nodupBack _
    refine setNextAt_of_ne (fun same => ?_) _
    exact between other (mem_of_getLast? same.symm) other member rfl

theorem Holds.erase_of_not_mem (holds : Holds list links nodes) {node : Node} (member : node ∈ nodes)
    {other : Node} (outside : other ∉ nodes) : (list.erase node links).2 other = links other := by
  obtain ⟨front, back, rfl⟩ := append_of_mem member
  obtain ⟨-, prev, next, -⟩ := linked_append.mp holds.linked
  rw [or_none] at prev next
  rw [erase_eq, prev, next]
  change setPrevAt _ _ _ other = _
  rw [setPrevAt_of_ne, setNextAt_of_ne]
  · intro same
    exact outside (mem_append_left _ (mem_of_getLast? same.symm))
  · intro same
    exact outside (mem_append_right _ (mem_cons_of_mem _ (mem_of_head? same.symm)))

end Lists

end InplaceList

end Redhawk.Buffers
