import Mathlib.Data.List.TakeWhile
import Redhawk.Burstio.BurstLedger

/-!
The transports behind the burst output port (`OutPortImpl.h`): what each connection receives of a
sequence, with the splitting of messages that are too long, and of a direct `pushBursts`.

A connection is live when its transport is alive and its peer raises nothing but `MARSHAL`.
-/

namespace Redhawk.Burstio

open List

variable {Elem Stamp : Type}

structure CorbaPeer (Elem Stamp : Type) where
  fits : List (Burst Elem Stamp) → Bool
  parts : ∀ front part back, fits (front ++ part ++ back) = true → fits part = true

inductive Transport (Elem Stamp : Type) where
  | corba (peer : CorbaPeer Elem Stamp)
  | localPort

/-- `CorbaTransport::pushBursts` with `partitionBursts`: what the peer receives, and whether the call
ends without a `TransportError`. -/
def CorbaPeer.pushBursts (peer : CorbaPeer Elem Stamp) (bursts : List (Burst Elem Stamp)) :
    List (Burst Elem Stamp) × Bool :=
  if peer.fits bursts then (bursts, true)
  else if 1 < bursts.length then
    let middle := bursts.length / 2
    let left := peer.pushBursts (bursts.take middle)
    if left.2 then
      let right := peer.pushBursts (bursts.drop middle)
      (left.1 ++ right.1, right.2)
    else left
  else ([], false)
termination_by bursts.length
decreasing_by
  all_goals simp only [length_take, length_drop]; omega

def Transport.pushBursts (transport : Transport Elem Stamp) (bursts : List (Burst Elem Stamp)) :
    List (Burst Elem Stamp) :=
  match transport with
  | .corba peer => (peer.pushBursts bursts).1
  | .localPort => bursts

def Transport.carries (transport : Transport Elem Stamp) (burst : Burst Elem Stamp) : Bool :=
  match transport with
  | .corba peer => peer.fits [burst]
  | .localPort => true

theorem takeWhile_append_of_any {α : Type} {p : α → Bool} {front back : List α}
    (stops : front.all p = false) : (front ++ back).takeWhile p = front.takeWhile p := by
  rw [takeWhile_append, if_neg]
  intro whole
  have self := (List.takeWhile_prefix p).eq_of_length whole
  rw [all_eq_true.mpr (takeWhile_eq_self_iff.mp self)] at stops
  cases stops

theorem takeWhile_eq_filter_iff {α : Type} {p q : α → Bool} {items : List α} :
    items.takeWhile p = items.filter q ↔
      (∀ item ∈ items.takeWhile p, q item = true) ∧ ∀ item ∈ items.dropWhile p, ¬q item = true := by
  have split : items.filter q = (items.takeWhile p).filter q ++ (items.dropWhile p).filter q := by
    rw [← filter_append, takeWhile_append_dropWhile]
  constructor
  · intro same
    have front : ∀ item ∈ items.takeWhile p, q item = true := by
      intro item member
      rw [same] at member
      exact (mem_filter.mp member).2
    refine ⟨front, ?_⟩
    rw [split, filter_eq_self.mpr front] at same
    exact filter_eq_nil_iff.mp (self_eq_append_right.mp same)
  · rintro ⟨front, back⟩
    rw [split, filter_eq_self.mpr front, filter_eq_nil_iff.mpr back, append_nil]

theorem takeWhile_eq_filter_of_pairwise {α : Type} {p : α → Bool} {items : List α}
    (tidy : items.Pairwise fun earlier later => p later = true → p earlier = true) :
    items.takeWhile p = items.filter p := by
  induction items with
  | nil => rfl
  | cons item rest ih =>
      obtain ⟨ahead, tidy⟩ := pairwise_cons.mp tidy
      cases kept : p item with
      | true => rw [takeWhile_cons_of_pos kept, filter_cons_of_pos kept, ih tidy]
      | false =>
          have stops : ¬p item = true := by simp [kept]
          rw [takeWhile_cons_of_neg stops, filter_cons_of_neg stops, eq_comm, filter_eq_nil_iff]
          exact fun later member keeps => stops (ahead later member keeps)

theorem CorbaPeer.fits_of_mem (peer : CorbaPeer Elem Stamp) {bursts : List (Burst Elem Stamp)}
    (fits : peer.fits bursts = true) {burst : Burst Elem Stamp} (member : burst ∈ bursts) :
    peer.fits [burst] = true := by
  obtain ⟨front, back, rfl⟩ := append_of_mem member
  exact peer.parts front [burst] back (by simpa using fits)

theorem CorbaPeer.pushBursts_eq (peer : CorbaPeer Elem Stamp) (bursts : List (Burst Elem Stamp)) :
    (peer.pushBursts bursts).1 = bursts.takeWhile (fun burst => peer.fits [burst]) ∧
      (bursts ≠ [] → (peer.pushBursts bursts).2 = bursts.all fun burst => peer.fits [burst]) := by
  fun_induction peer.pushBursts bursts with
  | case1 bursts fits =>
      have all : ∀ burst ∈ bursts, peer.fits [burst] = true := fun _ => peer.fits_of_mem fits
      exact ⟨(takeWhile_eq_self_iff.mpr all).symm, fun _ => (all_eq_true.mpr all).symm⟩
  | case2 bursts long several middle left sent right leftIh rightIh =>
      have halves := take_append_drop middle bursts
      have nonempty : bursts.take middle ≠ [] ∧ bursts.drop middle ≠ [] := by
        simp only [ne_eq, ← length_eq_zero_iff, length_take, length_drop]
        omega
      have front : (bursts.take middle).all (fun burst => peer.fits [burst]) = true :=
        (leftIh.2 nonempty.1).symm.trans sent
      have carried : (bursts.take middle).takeWhile (fun burst => peer.fits [burst]) =
          bursts.take middle := takeWhile_eq_self_iff.mpr (all_eq_true.mp front)
      constructor
      · conv_rhs => rw [← halves]
        rw [takeWhile_append_of_pos (all_eq_true.mp front)]
        exact congrArg₂ (· ++ ·) (leftIh.1.trans carried) rightIh.1
      · intro _
        conv_rhs => rw [← halves]
        rw [all_append, front, Bool.true_and]
        exact rightIh.2 nonempty.2
  | case3 bursts long several middle left refused leftIh =>
      have halves := take_append_drop middle bursts
      have nonempty : bursts.take middle ≠ [] := by
        simp only [ne_eq, ← length_eq_zero_iff, length_take]
        omega
      have front : (bursts.take middle).all (fun burst => peer.fits [burst]) = false :=
        (leftIh.2 nonempty).symm.trans (by simpa using refused)
      constructor
      · conv_rhs => rw [← halves]
        rw [takeWhile_append_of_any front]
        exact leftIh.1
      · intro _
        conv_rhs => rw [← halves]
        rw [all_append, front, Bool.false_and]
        simpa using refused
  | case4 bursts long short =>
      match bursts with
      | [] => exact ⟨rfl, fun nonempty => absurd rfl nonempty⟩
      | [burst] => simp [long]
      | _ :: _ :: _ => simp at short

theorem Transport.pushBursts_eq (transport : Transport Elem Stamp) (bursts : List (Burst Elem Stamp)) :
    transport.pushBursts bursts = bursts.takeWhile transport.carries := by
  cases transport with
  | corba peer => exact (peer.pushBursts_eq bursts).1
  | localPort => exact (takeWhile_eq_self_iff.mpr fun _ _ => rfl).symm

def Transport.Tidy (transport : Transport Elem Stamp) (bursts : List (Burst Elem Stamp)) : Prop :=
  bursts.Pairwise fun earlier later =>
    transport.carries later = true → transport.carries earlier = true

theorem Transport.pushBursts_of_tidy {transport : Transport Elem Stamp}
    {bursts : List (Burst Elem Stamp)} (tidy : transport.Tidy bursts) :
    transport.pushBursts bursts = bursts.filter transport.carries := by
  rw [transport.pushBursts_eq, takeWhile_eq_filter_of_pairwise tidy]

def OutPort.received (transport : Transport Elem Stamp) (connectionID : String)
    (port : OutPort Elem Stamp) : List (Burst Elem Stamp) :=
  port.sent.flatMap fun batch =>
    if connectionID ∈ batch.receivers then transport.pushBursts batch.bursts else []

def OutPort.pushBursts (bursts : List (Burst Elem Stamp)) (port : OutPort Elem Stamp) :
    OutPort Elem Stamp :=
  port.sendBursts bursts ""

theorem mem_receivers {routing : Routing} {connectionID : String}
    (live : (connectionID, true) ∈ routing.connections) (streamID : String) :
    connectionID ∈ routing.receivers streamID ↔
      routing.isStreamRoutedToConnection streamID connectionID = true := by
  unfold Routing.receivers
  rw [mem_map]
  constructor
  · rintro ⟨connection, member, rfl⟩
    exact (Bool.and_eq_true_iff.mp (mem_filter.mp member).2).2
  · intro routed
    exact ⟨(connectionID, true), mem_filter.mpr ⟨live, by simpa using routed⟩, rfl⟩

section Direct

variable (routing : Routing) (transport : Transport Elem Stamp) (connectionID : String)

def Routing.owes (burst : Burst Elem Stamp) : Bool :=
  routing.isStreamRoutedToConnection burst.SRI.streamID connectionID && transport.carries burst

/-- If the empty stream is routed to the connection, so is every burst in front of the first that is
too long, and nothing owed is behind that one; otherwise nothing is owed. -/
def Routing.DirectClear (bursts : List (Burst Elem Stamp)) : Prop :=
  if routing.isStreamRoutedToConnection "" connectionID = true then
    (∀ burst ∈ bursts.takeWhile transport.carries, routing.owes transport connectionID burst = true) ∧
    ∀ burst ∈ bursts.dropWhile transport.carries, ¬routing.owes transport connectionID burst = true
  else ∀ burst ∈ bursts, ¬routing.owes transport connectionID burst = true

end Direct

section

variable (port : OutPort Elem Stamp) (transport : Transport Elem Stamp) {connectionID : String}
  (live : (connectionID, true) ∈ port.routing.connections) (bursts : List (Burst Elem Stamp))

include live

theorem received_pushBursts :
    (port.pushBursts bursts).received transport connectionID =
      port.received transport connectionID ++
        if port.routing.isStreamRoutedToConnection "" connectionID = true then
          bursts.takeWhile transport.carries
        else [] := by
  simp [OutPort.received, OutPort.pushBursts, OutPort.sendBursts, mem_receivers live,
    transport.pushBursts_eq]

theorem pushBursts_exact_iff :
    (port.pushBursts bursts).received transport connectionID =
        port.received transport connectionID ++ bursts.filter (port.routing.owes transport connectionID) ↔
      port.routing.DirectClear transport connectionID bursts := by
  rw [received_pushBursts port transport live, append_right_inj]
  unfold Routing.DirectClear
  split
  · exact takeWhile_eq_filter_iff
  · rw [eq_comm]
    exact filter_eq_nil_iff

end

end Redhawk.Burstio
