import Mathlib.Data.List.Nodup

/-!
Doubly linked lists in a memory: which addresses a chain of links goes through, and how it changes
with the links at its ends.
-/

namespace Redhawk.Library

open List

structure Link (Addr : Type) where
  prev : Option Addr
  next : Option Addr

variable {Addr : Type}

def Linked (links : Addr → Link Addr) (before : Option Addr) : List Addr → Option Addr → Prop
  | [], _ => True
  | address :: rest, behind =>
      (links address).prev = before ∧ (links address).next = rest.head?.or behind ∧
        Linked links (some address) rest behind

section Links

variable {links other : Addr → Link Addr} {before behind : Option Addr} {front back : List Addr}

@[simp]
theorem linked_nil : Linked links before [] behind := trivial

variable {address : Addr}

theorem linked_cons {rest : List Addr} :
    Linked links before (address :: rest) behind ↔
      (links address).prev = before ∧ (links address).next = rest.head?.or behind ∧
        Linked links (some address) rest behind :=
  Iff.rfl

theorem linked_append :
    Linked links before (front ++ back) behind ↔
      Linked links before front (back.head?.or behind) ∧ Linked links (front.getLast?.or before) back behind := by
  induction front generalizing before with
  | nil => simp
  | cons address rest ih =>
      rw [cons_append, linked_cons, linked_cons, ih, head?_append, getLast?_cons, Option.or_assoc]
      cases rest <;> simp [and_assoc]

variable {nodes : List Addr}

theorem Linked.congr (linked : Linked links before nodes behind)
    (same : ∀ address ∈ nodes, other address = links address) :
    Linked other before nodes behind := by
  induction nodes generalizing before with
  | nil => trivial
  | cons address rest ih =>
      obtain ⟨prev, next, linked⟩ := linked
      rw [linked_cons, same address mem_cons_self]
      exact ⟨prev, next, ih linked fun next member => same next (mem_cons_of_mem _ member)⟩

variable [DecidableEq Addr]

def setPrev (links : Addr → Link Addr) (address : Addr) (prev : Option Addr) : Addr → Link Addr :=
  Function.update links address { links address with prev := prev }

def setNext (links : Addr → Link Addr) (address : Addr) (next : Option Addr) : Addr → Link Addr :=
  Function.update links address { links address with next := next }

theorem setPrev_of_ne {at' : Addr} (different : address ≠ at') (prev : Option Addr) :
    setPrev links at' prev address = links address :=
  Function.update_of_ne different ..

theorem setNext_of_ne {at' : Addr} (different : address ≠ at') (next : Option Addr) :
    setNext links at' next address = links address :=
  Function.update_of_ne different ..

@[simp]
theorem setPrev_self (address : Addr) (prev : Option Addr) :
    setPrev links address prev address = ⟨prev, (links address).next⟩ :=
  Function.update_self ..

@[simp]
theorem setNext_self (address : Addr) (next : Option Addr) :
    setNext links address next address = ⟨(links address).prev, next⟩ :=
  Function.update_self ..

def setPrevAt (links : Addr → Link Addr) (address : Option Addr) (prev : Option Addr) : Addr → Link Addr :=
  match address with
  | none => links
  | some address => setPrev links address prev

def setNextAt (links : Addr → Link Addr) (address : Option Addr) (next : Option Addr) : Addr → Link Addr :=
  match address with
  | none => links
  | some address => setNext links address next

theorem setPrevAt_of_ne {at' : Option Addr} (different : some address ≠ at')
    (prev : Option Addr) : setPrevAt links at' prev address = links address := by
  cases at' with
  | none => rfl
  | some at' => exact setPrev_of_ne (fun same => different (congrArg some same)) prev

theorem setNextAt_of_ne {at' : Option Addr} (different : some address ≠ at')
    (next : Option Addr) : setNextAt links at' next address = links address := by
  cases at' with
  | none => rfl
  | some at' => exact setNext_of_ne (fun same => different (congrArg some same)) next

theorem Linked.setPrevAt (linked : Linked links before nodes behind) (nodup : nodes.Nodup) (prev : Option Addr) :
    Linked (setPrevAt links nodes.head? prev) prev nodes behind := by
  cases nodes with
  | nil => trivial
  | cons address rest =>
      obtain ⟨-, next, linked⟩ := linked
      refine ⟨?_, ?_, linked.congr fun other member => setPrevAt_of_ne ?_ prev⟩
      · simp [Library.setPrevAt]
      · simpa [Library.setPrevAt] using next
      · intro same
        cases same
        exact (nodup_cons.mp nodup).1 member

theorem Linked.setNextAt (linked : Linked links before nodes behind) (nodup : nodes.Nodup) (next : Option Addr) :
    Linked (setNextAt links nodes.getLast? next) before nodes next := by
  rcases eq_nil_or_concat nodes with rfl | ⟨front, last, rfl⟩
  · trivial
  · rw [concat_eq_append] at linked nodup ⊢
    rw [getLast?_concat]
    obtain ⟨chain, prev, -, -⟩ := linked_append.mp linked
    refine linked_append.mpr ⟨chain.congr fun address member => setNextAt_of_ne ?_ next, ?_⟩
    · intro same
      cases same
      exact (nodup_append.mp nodup).2.2 last member last mem_cons_self rfl
    · refine ⟨?_, ?_, trivial⟩
      · simpa [Library.setNextAt] using prev
      · simp [Library.setNextAt]

end Links

end Redhawk.Library
