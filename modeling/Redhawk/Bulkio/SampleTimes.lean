import Mathlib.Tactic.Linarith
import Mathlib.Tactic.Ring
import Redhawk.Bulkio.OutTransport

/-!
The times of packets that follow each other, a scalar at a time.
-/

namespace Redhawk.Bulkio

variable {α : Type}

namespace PrecisionUTCTime

def seconds (time : PrecisionUTCTime) : ℚ := time.twsec + time.tfsec

variable (time : PrecisionUTCTime)

theorem normalize_seconds : time.normalize.seconds = time.seconds := by
  simp only [normalize, seconds]
  split <;> simp only [fractionPart] <;> ring

theorem add_seconds (seconds : ℚ) : (time.add seconds).seconds = time.seconds + seconds := by
  rw [add, normalize_seconds]
  simp only [PrecisionUTCTime.seconds, fractionPart]
  ring

theorem normalize_tcstatus : time.normalize.tcstatus = time.tcstatus := by
  simp only [normalize]
  split <;> rfl

theorem add_tcstatus (seconds : ℚ) :
    (time.add seconds).tcstatus = time.tcstatus := normalize_tcstatus _

end PrecisionUTCTime

section Stamps

variable {start rate : ℚ}

def Stamped (start rate : ℚ) : Nat → List (List α × PrecisionUTCTime) → Prop
  | _, [] => True
  | pushed, (data, time) :: rest =>
      (data ≠ [] → time.seconds = start + rate * pushed) ∧ Stamped start rate (pushed + data.length) rest

theorem stamped_append {pushed : Nat} {front back : List (List α × PrecisionUTCTime)} :
    Stamped start rate pushed (front ++ back) ↔ Stamped start rate pushed front ∧
      Stamped start rate (pushed + (front.flatMap Prod.fst).length) back := by
  induction front generalizing pushed with
  | nil => simp [Stamped]
  | cons packet rest ih =>
      simp [Stamped, ih, Nat.add_assoc, and_assoc]

theorem stamped_iff {β : Type} (stamp : β → List α × PrecisionUTCTime) {pushed : Nat}
    {packets : List β} : Stamped start rate pushed (packets.map stamp) ↔
      ∀ before packet after, packets = before ++ packet :: after → (stamp packet).1 ≠ [] →
        (stamp packet).2.seconds =
          start + rate * (pushed + (before.flatMap fun packet => (stamp packet).1).length : Nat) := by
  constructor
  · rintro stamped before packet after rfl some
    rw [List.map_append, stamped_append, List.flatMap_map] at stamped
    exact stamped.2.1 some
  · intro all
    induction packets generalizing pushed with
    | nil => trivial
    | cons packet rest ih =>
        refine ⟨fun some => ?_, ih fun before later after split some => ?_⟩
        · simpa using all [] packet rest rfl some
        · have stamped := all (packet :: before) later after (by rw [split]; rfl) some
          rw [stamped, List.flatMap_cons, List.length_append, ← Nat.add_assoc]

end Stamps

def StreamSRI.scalarTime (sri : StreamSRI) : ℚ := sri.xdelta / Transport.itemSize sri

theorem StreamSRI.scalarTime_real {sri : StreamSRI} (real : sri.mode = 0) :
    sri.scalarTime = sri.xdelta := by
  simp [scalarTime, Transport.itemSize, complex, real]

theorem StreamSRI.scalarTime_complex {sri : StreamSRI} (complex : sri.mode ≠ 0) :
    sri.scalarTime = sri.xdelta / 2 := by
  simp [scalarTime, Transport.itemSize, StreamSRI.complex, complex]

theorem StreamSRI.scalarTime_congr {sri other : StreamSRI} (xdelta : other.xdelta = sri.xdelta)
    (mode : other.mode = sri.mode) : other.scalarTime = sri.scalarTime := by
  have same : other.complex = sri.complex := by rw [complex, mode, ← complex]
  rw [scalarTime, scalarTime, Transport.itemSize, Transport.itemSize, xdelta, same]

end Redhawk.Bulkio
