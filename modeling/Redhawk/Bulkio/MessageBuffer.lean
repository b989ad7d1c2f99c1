import Redhawk.Library.BitMemory

/-!
The messages of the shared memory transport: `MessageBuffer`, with the values that are written and
read one behind the other.
-/

namespace Redhawk.Bulkio

open Redhawk.Library Plain List

structure MessageBuffer where
  data : List Byte
  offset : Nat
  addressable : data.length < 2 ^ 63
  inside : offset ≤ data.length

/-- What ends a read but a return: the two messages of `_checkRead`, and a range for
`std::string::assign` whose end is not behind its begin inside the data. -/
inductive ReadFault where
  | emptyBuffer | exceedsSize | invalidRange
deriving DecidableEq, Repr

/-- What a read gives, the buffer after it, and the ranges of the data that were read, each with its
position and its size. -/
structure Reading (α : Type) where
  outcome : Except ReadFault α
  after : MessageBuffer
  touched : List (Nat × Nat)

namespace MessageBuffer

def empty : MessageBuffer := ⟨[], 0, by decide, Nat.le_refl 0⟩

def checkRead (buffer : MessageBuffer) (bytes : Nat) : Except ReadFault Unit :=
  if (buffer.offset + bytes) % 2 ^ 64 > buffer.data.length then
    if buffer.offset ≥ buffer.data.length then .error .emptyBuffer else .error .exceedsSize
  else .ok ()

def advance (buffer : MessageBuffer) (bytes : Nat)
    (within : buffer.offset + bytes ≤ buffer.data.length) : MessageBuffer :=
  { buffer with offset := buffer.offset + bytes, inside := within }

def field (buffer : MessageBuffer) (bytes : Nat) : List Byte :=
  (buffer.data.drop buffer.offset).take bytes

theorem checkRead_ok_iff (buffer : MessageBuffer) (bytes : Nat) :
    buffer.checkRead bytes = .ok () ↔ (buffer.offset + bytes) % 2 ^ 64 ≤ buffer.data.length := by
  rw [checkRead]
  split
  · refine iff_of_false (fun ok => ?_) (by omega)
    split at ok <;> cases ok
  · exact iff_of_true rfl (by omega)

theorem checkRead_within {buffer : MessageBuffer} {bytes : Nat} (small : bytes < 2 ^ 63)
    (passes : buffer.checkRead bytes = .ok ()) : buffer.offset + bytes ≤ buffer.data.length := by
  have addressable := buffer.addressable
  have inside := buffer.inside
  have bound := (buffer.checkRead_ok_iff bytes).mp passes
  omega

def read (U : Type) [Plain U] (buffer : MessageBuffer) : Reading U :=
  match passes : buffer.checkRead (sizeof U) with
  | .error fault => ⟨.error fault, buffer, []⟩
  | .ok () =>
      ⟨.ok (ofBytes (buffer.field (sizeof U))),
        buffer.advance (sizeof U) (checkRead_within sizeof_lt passes),
        [(buffer.offset, sizeof U)]⟩

def assign (buffer : MessageBuffer) (length : Nat) : Reading (List Byte) :=
  if within : buffer.offset + length ≤ buffer.data.length then
    ⟨.ok (buffer.field length), buffer.advance length within, [(buffer.offset, length)]⟩
  else ⟨.error .invalidRange, buffer, [(buffer.offset, length)]⟩

def readString (buffer : MessageBuffer) : Reading (List Byte) :=
  let size := buffer.read (BitVec 64)
  match size.outcome with
  | .error fault => ⟨.error fault, size.after, size.touched⟩
  | .ok length =>
      match size.after.checkRead length.toNat with
      | .error fault => ⟨.error fault, size.after, size.touched⟩
      | .ok () =>
          let text := size.after.assign length.toNat
          ⟨text.outcome, text.after, size.touched ++ text.touched⟩

/-- `_data.resize` for more bytes, which are then set; `none` is `std::length_error`. -/
def append (buffer : MessageBuffer) (bytes : List Byte) : Option MessageBuffer :=
  if small : buffer.data.length + bytes.length < 2 ^ 63 then
    some ⟨buffer.data ++ bytes, buffer.offset, by rwa [length_append],
      Nat.le_trans buffer.inside (by rw [length_append]; omega)⟩
  else none

def write {U : Type} [Plain U] (val : U) (buffer : MessageBuffer) : Option MessageBuffer :=
  buffer.append (bytes val)

def _writeString (length : Nat) (data : List Byte) (buffer : MessageBuffer) : Option MessageBuffer := do
  let buffer ← buffer.write (BitVec.ofNat 64 length)
  buffer.append (strncpy data length)

def writeString (val : List Byte) (buffer : MessageBuffer) : Option MessageBuffer :=
  buffer._writeString val.length val

end MessageBuffer

inductive Item where
  | plain (U : Type) [Plain U] (val : U)
  | string (val : List Byte)

inductive Kind where
  | plain (U : Type) [Plain U]
  | string

namespace Item

def write : Item → MessageBuffer → Option MessageBuffer
  | @plain _ _ val, buffer => buffer.write val
  | .string val, buffer => buffer.writeString val

def writeAll : List Item → MessageBuffer → Option MessageBuffer
  | [], buffer => some buffer
  | item :: items, buffer => (item.write buffer).bind (writeAll items)

def ReadsBack : List Item → MessageBuffer → Prop
  | [], buffer => buffer.offset = buffer.data.length
  | @plain U _ val :: items, buffer =>
      (buffer.read U).outcome = .ok val ∧ ReadsBack items (buffer.read U).after
  | .string val :: items, buffer =>
      buffer.readString.outcome = .ok val ∧ ReadsBack items buffer.readString.after

def encoded : Item → List Byte
  | @plain _ _ val => bytes val
  | .string val => bytes (BitVec.ofNat 64 val.length) ++ strncpy val val.length

end Item

namespace Reading

def Safe {α : Type} (decode : List Byte → α) (buffer : MessageBuffer) (reading : Reading α) : Prop :=
  (∀ range ∈ reading.touched, range.1 + range.2 ≤ buffer.data.length) ∧
    ((∃ start count, start + count ≤ buffer.data.length ∧
        reading.outcome = .ok (decode ((buffer.data.drop start).take count))) ∨
      reading.outcome = .error .emptyBuffer ∨ reading.outcome = .error .exceedsSize)

end Reading

namespace Kind

def after : Kind → MessageBuffer → MessageBuffer
  | @plain U _, buffer => (buffer.read U).after
  | .string, buffer => buffer.readString.after

def Safe : Kind → MessageBuffer → Prop
  | @plain U _, buffer => (buffer.read U).Safe ofBytes buffer
  | .string, buffer => buffer.readString.Safe id buffer

def ReadsSafely : List Kind → MessageBuffer → Prop
  | [], _ => True
  | kind :: kinds, buffer => kind.Safe buffer ∧ ReadsSafely kinds (kind.after buffer)

/-- The length of a string that is next is inside, and with it the sum of `_checkRead` wraps. -/
def LengthWraps : Kind → MessageBuffer → Prop
  | @plain _ _, _ => False
  | .string, buffer => buffer.offset + 8 ≤ buffer.data.length ∧
      2 ^ 64 ≤ buffer.offset + 8 + (ofBytes (U := BitVec 64) (buffer.field 8)).toNat

def NoneWraps : List Kind → MessageBuffer → Prop
  | [], _ => True
  | kind :: kinds, buffer => ¬kind.LengthWraps buffer ∧ NoneWraps kinds (kind.after buffer)

end Kind

namespace MessageBuffer

variable {buffer : MessageBuffer}

theorem checkRead_ok {bytes : Nat} (fits : buffer.offset + bytes ≤ buffer.data.length) :
    buffer.checkRead bytes = .ok () := by
  exact (buffer.checkRead_ok_iff bytes).mpr (by omega)

theorem checkRead_error {bytes : Nat} (beyond : buffer.data.length < (buffer.offset + bytes) % 2 ^ 64) :
    ∃ fault, buffer.checkRead bytes = .error fault ∧ (fault = .emptyBuffer ∨ fault = .exceedsSize) := by
  rw [checkRead, if_pos beyond]
  split
  · exact ⟨_, rfl, .inl rfl⟩
  · exact ⟨_, rfl, .inr rfl⟩

section Reads

variable {U : Type} [Plain U]

theorem read_ok (fits : buffer.offset + sizeof U ≤ buffer.data.length) :
    buffer.read U = ⟨.ok (ofBytes (buffer.field (sizeof U))),
      buffer.advance (sizeof U) fits, [(buffer.offset, sizeof U)]⟩ := by
  rw [read]
  split
  · rename_i fails
    rw [checkRead_ok fits] at fails
    cases fails
  · rfl

theorem read_error (short : buffer.data.length < buffer.offset + sizeof U) :
    ∃ fault, buffer.read U = ⟨.error fault, buffer, []⟩ ∧ (fault = .emptyBuffer ∨ fault = .exceedsSize) := by
  have addressable := buffer.addressable
  have inside := buffer.inside
  have small : sizeof U < 2 ^ 63 := sizeof_lt
  obtain ⟨fault, fails, which⟩ := @checkRead_error buffer (sizeof U) (by omega)
  refine ⟨fault, ?_, which⟩
  rw [read]
  split
  · rename_i other same
    obtain rfl := Except.error.inj (fails.symm.trans same)
    rfl
  · rename_i passes
    rw [fails] at passes
    cases passes

theorem read_at {val : U} {front rest : List Byte}
    (data : buffer.data = front ++ (bytes val ++ rest)) (place : buffer.offset = front.length) :
    (buffer.read U).outcome = .ok val ∧ (buffer.read U).after.data = buffer.data ∧
      (buffer.read U).after.offset = front.length + sizeof U := by
  have size := length_bytes val
  have fits : buffer.offset + sizeof U ≤ buffer.data.length := by
    rw [data, length_append, length_append]
    omega
  have found : buffer.field (sizeof U) = bytes val := by
    rw [field, data, place, drop_left, take_left' size]
  rw [read_ok fits, found, ofBytes_bytes]
  exact ⟨rfl, rfl, congrArg (· + _) place⟩

theorem read_safe : (buffer.read U).Safe ofBytes buffer := by
  by_cases fits : buffer.offset + sizeof U ≤ buffer.data.length
  · rw [read_ok fits]
    refine ⟨fun range member => ?_, .inl ⟨buffer.offset, sizeof U, fits, rfl⟩⟩
    obtain rfl := mem_singleton.mp member
    exact fits
  · obtain ⟨fault, reads, which⟩ := @read_error buffer U _ (by omega)
    rw [reads]
    exact ⟨nofun, .inr (which.imp (congrArg Except.error) (congrArg Except.error))⟩

end Reads

theorem readString_at {text front rest : List Byte}
    (data : buffer.data = front ++ (bytes (BitVec.ofNat 64 text.length) ++ text ++ rest))
    (place : buffer.offset = front.length) :
    buffer.readString.outcome = .ok text ∧ buffer.readString.after.data = buffer.data ∧
      buffer.readString.after.offset = front.length + 8 + text.length := by
  have addressable := buffer.addressable
  have size : (bytes (BitVec.ofNat 64 text.length)).length = 8 := length_bytes _
  have whole : buffer.data.length = front.length + (8 + text.length + rest.length) := by
    rw [data, length_append, length_append, length_append, size]
  obtain ⟨outcome, kept, behind⟩ := read_at (by rw [data, append_assoc]) place
  have word : (BitVec.ofNat 64 text.length).toNat = text.length := by
    rw [BitVec.toNat_ofNat]
    omega
  have behind : (buffer.read (BitVec 64)).after.offset = front.length + 8 := behind
  have fits : (buffer.read (BitVec 64)).after.offset + text.length ≤
      (buffer.read (BitVec 64)).after.data.length := by
    rw [behind, kept]
    omega
  have found : (buffer.read (BitVec 64)).after.field text.length = text := by
    have split : buffer.data = (front ++ bytes (BitVec.ofNat 64 text.length)) ++ (text ++ rest) := by
      rw [data, append_assoc, append_assoc]
    have length : (front ++ bytes (BitVec.ofNat 64 text.length)).length = front.length + 8 := by
      rw [length_append, size]
    rw [field, kept, behind, split, drop_left' length, take_left]
  rw [readString]
  simp only [outcome, word, checkRead_ok fits, assign, dif_pos fits, found]
  exact ⟨trivial, kept, congrArg (· + _) behind⟩

theorem readString_safe_iff : buffer.readString.Safe id buffer ↔ ¬Kind.string.LengthWraps buffer := by
  have addressable := buffer.addressable
  by_cases fits : buffer.offset + 8 ≤ buffer.data.length
  · generalize word : ofBytes (U := BitVec 64) (buffer.field 8) = length
    have size : buffer.read (BitVec 64) = ⟨.ok length, buffer.advance 8 fits, [(buffer.offset, 8)]⟩ := by
      rw [← word]
      exact read_ok fits
    have wraps : Kind.string.LengthWraps buffer ↔ 2 ^ 64 ≤ buffer.offset + 8 + length.toNat := by
      rw [← word]
      exact and_iff_right fits
    have first : ∀ range ∈ (buffer.read (BitVec 64)).touched, range.1 + range.2 ≤ buffer.data.length := by
      rw [size]
      exact forall_mem_singleton.mpr fits
    rw [wraps, Nat.not_le, readString]
    by_cases passes : (buffer.offset + 8 + length.toNat) % 2 ^ 64 ≤ buffer.data.length
    · have checked : (buffer.advance 8 fits).checkRead length.toNat = .ok () :=
        (checkRead_ok_iff _ _).mpr passes
      rw [size] at first ⊢
      simp only [checked, assign]
      by_cases within : (buffer.advance 8 fits).offset + length.toNat ≤ (buffer.advance 8 fits).data.length
      · have within' : buffer.offset + 8 + length.toNat ≤ buffer.data.length := within
        simp only [dif_pos within]
        refine iff_of_true ⟨fun range member => ?_, .inl ⟨_, _, within', rfl⟩⟩ (by omega)
        rcases mem_append.mp member with before | text
        · exact first range before
        · obtain rfl := mem_singleton.mp text
          exact within
      · have beyond : ¬buffer.offset + 8 + length.toNat ≤ buffer.data.length := within
        simp only [dif_neg within]
        refine iff_of_false (fun safe => ?_) (by omega)
        rcases safe.2 with ⟨_, _, _, ok⟩ | fails | fails
        · cases ok
        · cases fails
        · cases fails
    · obtain ⟨fault, fails, which⟩ := @checkRead_error (buffer.advance 8 fits) length.toNat
        (Nat.lt_of_not_le passes)
      rw [size] at first ⊢
      simp only [fails]
      refine iff_of_true ⟨first, .inr ?_⟩ (by omega)
      exact which.imp (congrArg Except.error) (congrArg Except.error)
  · obtain ⟨fault, reads, which⟩ := @read_error buffer (BitVec 64) _ (Nat.lt_of_not_le fits)
    rw [readString, reads]
    refine iff_of_true ⟨nofun, .inr ?_⟩ fun wraps => fits wraps.1
    exact which.imp (congrArg Except.error) (congrArg Except.error)

end MessageBuffer

theorem Kind.safe_iff (kind : Kind) (buffer : MessageBuffer) :
    kind.Safe buffer ↔ ¬kind.LengthWraps buffer := by
  cases kind with
  | plain U => exact iff_of_true MessageBuffer.read_safe nofun
  | string => exact MessageBuffer.readString_safe_iff

theorem Kind.readsSafely_iff (kinds : List Kind) (buffer : MessageBuffer) :
    ReadsSafely kinds buffer ↔ NoneWraps kinds buffer := by
  induction kinds generalizing buffer with
  | nil => exact Iff.rfl
  | cons kind kinds ih => exact and_congr (kind.safe_iff buffer) (ih _)

namespace Item

theorem append_data {buffer after : MessageBuffer} {bytes : List Byte}
    (written : buffer.append bytes = some after) :
    after.data = buffer.data ++ bytes ∧ after.offset = buffer.offset := by
  rw [MessageBuffer.append] at written
  split at written
  · cases written
    exact ⟨rfl, rfl⟩
  · cases written

theorem write_data {item : Item} {buffer after : MessageBuffer} (written : item.write buffer = some after) :
    after.data = buffer.data ++ item.encoded ∧ after.offset = buffer.offset := by
  cases item with
  | plain U val => exact append_data written
  | string val =>
      rw [write, MessageBuffer.writeString, MessageBuffer._writeString, Option.bind_eq_bind,
        Option.bind_eq_some_iff] at written
      obtain ⟨middle, size, text⟩ := written
      obtain ⟨first, same⟩ := append_data size
      obtain ⟨second, same'⟩ := append_data text
      refine ⟨?_, same'.trans same⟩
      rw [second, first, encoded, append_assoc]

theorem writeAll_data {items : List Item} {buffer after : MessageBuffer}
    (written : writeAll items buffer = some after) :
    after.data = buffer.data ++ items.flatMap encoded ∧ after.offset = buffer.offset := by
  induction items generalizing buffer with
  | nil =>
      cases written
      exact ⟨(append_nil _).symm, rfl⟩
  | cons item items ih =>
      obtain ⟨middle, head, rest⟩ := Option.bind_eq_some_iff.mp written
      obtain ⟨first, same⟩ := write_data head
      obtain ⟨second, same'⟩ := ih rest
      refine ⟨?_, same'.trans same⟩
      rw [second, first, append_assoc, flatMap_cons]

theorem readsBack_iff {items : List Item} {buffer : MessageBuffer} {front : List Byte}
    (data : buffer.data = front ++ items.flatMap encoded) (place : buffer.offset = front.length) :
    ReadsBack items buffer ↔ ∀ text, .string text ∈ items → Terminated text := by
  induction items generalizing buffer front with
  | nil =>
      refine iff_of_true ?_ nofun
      rw [flatMap_nil, append_nil] at data
      rw [ReadsBack, place, data]
  | cons item items ih =>
      rw [flatMap_cons] at data
      cases item with
      | plain U val =>
          obtain ⟨outcome, kept, behind⟩ := MessageBuffer.read_at data place
          have length := length_bytes val
          have rest := @ih (buffer.read U).after (front ++ bytes val)
            (by rw [kept, data, append_assoc]; rfl)
            (by rw [behind, length_append, length])
          rw [ReadsBack, rest, and_iff_right outcome]
          simp
      | string val =>
          generalize copy : strncpy val val.length = text at data
          have length : text.length = val.length := by rw [← copy, length_strncpy]
          have size : (bytes (BitVec.ofNat 64 val.length)).length = 8 := length_bytes _
          have encoded' : encoded (.string val) = bytes (BitVec.ofNat 64 text.length) ++ text := by
            rw [encoded, copy, length]
          rw [encoded'] at data
          obtain ⟨outcome, kept, behind⟩ := MessageBuffer.readString_at data place
          have rest := @ih buffer.readString.after
            (front ++ (bytes (BitVec.ofNat 64 text.length) ++ text))
            (by rw [kept, data, append_assoc front])
            (by rw [behind, length_append, length_append, length, size, Nat.add_assoc])
          have same : text = val ↔ Terminated val := by rw [← copy, strncpy_eq_iff]
          rw [ReadsBack, rest, outcome, Except.ok.injEq, same]
          simp

end Item

/-- The values written come back just where no string has anything but NULs behind a NUL, which is what
`strncpy` leaves there. Reads of any data are safe just where no length of a string wraps the sum that
`_checkRead` compares. -/
theorem message_codec_iff (values : List Item) (sent : MessageBuffer)
    (written : Item.writeAll values .empty = some sent) (kinds : List Kind)
    (received : MessageBuffer) :
    (Item.ReadsBack values sent ↔ ∀ text, .string text ∈ values → Terminated text) ∧
      (Kind.ReadsSafely kinds received ↔ Kind.NoneWraps kinds received) := by
  obtain ⟨data, place⟩ := Item.writeAll_data written
  exact ⟨Item.readsBack_iff data place, Kind.readsSafely_iff kinds received⟩

def countFlagName : List Item := [.plain (BitVec 64) 3, .plain Bool true, .string [97, 98]]

def countFlagNameData : MessageBuffer :=
  ⟨[3, 0, 0, 0, 0, 0, 0, 0, 1, 2, 0, 0, 0, 0, 0, 0, 0, 97, 98], 0, by decide, Nat.zero_le _⟩

theorem countFlagName_codec :
    (Item.ReadsBack countFlagName countFlagNameData ↔ ∀ text, .string text ∈ countFlagName → Terminated text) ∧
      (Kind.ReadsSafely [.plain (BitVec 64), .string] countFlagNameData ↔
        Kind.NoneWraps [.plain (BitVec 64), .string] countFlagNameData) :=
  message_codec_iff countFlagName countFlagNameData rfl [.plain (BitVec 64), .string]
    countFlagNameData

def endlessString : MessageBuffer :=
  ⟨[255, 255, 255, 255, 255, 255, 255, 255], 0, by decide, Nat.zero_le _⟩

/-- The string `a`, NUL, `b`, and a string that is longer than any data. -/
theorem codec_broken :
    (∃ sent, Item.writeAll [.string [97, 0, 98]] .empty = some sent ∧
      ¬Item.ReadsBack [.string [97, 0, 98]] sent) ∧
    ¬Kind.ReadsSafely [.string] endlessString := by
  refine ⟨⟨_, rfl, fun back => ?_⟩, fun safe => ?_⟩
  · obtain ⟨data, place⟩ := @Item.writeAll_data [.string [97, 0, 98]] .empty _ rfl
    have terminated := (Item.readsBack_iff data place).mp back _ (mem_singleton.mpr rfl)
    exact absurd ((strncpy_eq_iff [97, 0, 98]).mpr terminated) (by decide)
  · have unwrapped := (Kind.readsSafely_iff _ _).mp safe
    exact unwrapped.1 ⟨by decide, by decide⟩

end Redhawk.Bulkio
