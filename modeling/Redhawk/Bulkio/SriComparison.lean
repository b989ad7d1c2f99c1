import Redhawk.Bulkio.PyOutPort

/-!
The comparisons of `bulkio_sri_helpers.cpp` against those of `sri.py`, and the keyword helpers
of the latter.
-/

namespace Redhawk.Bulkio.Py

open Sri List

def compare (sriA sriB : StreamSRI) : Bool :=
  sriA.hversion == sriB.hversion && sriA.xstart == sriB.xstart && sriA.xdelta == sriB.xdelta &&
  sriA.xunits == sriB.xunits && sriA.subsize == sriB.subsize && sriA.ystart == sriB.ystart &&
  sriA.ydelta == sriB.ydelta && sriA.yunits == sriB.yunits && sriA.mode == sriB.mode &&
  sriA.streamID == sriB.streamID && sriA.blocking == sriB.blocking &&
  compareKeywords sriA.keywords sriB.keywords

def compareFields (sriA sriB : StreamSRI) : Flags :=
  flagIf (sriA.hversion != sriB.hversion) HVERSION |||
  flagIf (sriA.xstart != sriB.xstart) XSTART |||
  flagIf (sriA.xdelta != sriB.xdelta) XDELTA |||
  flagIf (sriA.xunits != sriB.xunits) XUNITS |||
  flagIf (sriA.subsize != sriB.subsize) SUBSIZE |||
  flagIf (sriA.ystart != sriB.ystart) YSTART |||
  flagIf (sriA.ydelta != sriB.ydelta) YDELTA |||
  flagIf (sriA.yunits != sriB.yunits) YUNITS |||
  flagIf (sriA.mode != sriB.mode) MODE |||
  flagIf (sriA.streamID != sriB.streamID) STREAMID |||
  flagIf (sriA.blocking != sriB.blocking) BLOCKING |||
  flagIf (!compareKeywords sriA.keywords sriB.keywords) KEYWORDS

def hasKeyword (name : String) (keywords : List DataType) : Bool :=
  keywords.any fun dt => dt.id == name

section Keywords

-- `convert` is `to_any` or `to_tc_value`, `read` is `from_any`.
variable {Value : Type} (convert : Value → Any) (read : Any → Value)

/-- No result is a `KeyError`. -/
def getKeyword (name : String) (keywords : List DataType) : Option Value :=
  (keywords.find? fun dt => dt.id == name).map fun dt => read dt.value

def setKeyword (name : String) (value : Value) (keywords : List DataType) : List DataType :=
  setProperty name (convert value) keywords

def eraseKeyword (name : String) (keywords : List DataType) : List DataType :=
  keywords.eraseP fun dt => dt.id == name

structure KeywordsKept (keywords : List DataType) : Prop where
  getSet : ∀ name value, read (convert value) = value →
    getKeyword read name (setKeyword convert name value keywords) = some value
  set : ∀ name value, hasKeyword name keywords → ∃ before old after, old.id = name ∧
    keywords = before ++ old :: after ∧
    setKeyword convert name value keywords = before ++ ⟨name, convert value⟩ :: after
  append : ∀ name value, ¬ hasKeyword name keywords →
    setKeyword convert name value keywords = keywords ++ [⟨name, convert value⟩]
  erase : ∀ name, hasKeyword name keywords → ∃ before old after, old.id = name ∧
    keywords = before ++ old :: after ∧ eraseKeyword name keywords = before ++ after
  eraseAbsent : ∀ name, ¬ hasKeyword name keywords → eraseKeyword name keywords = keywords

theorem keywords_kept (keywords : List DataType) : KeywordsKept convert read keywords where
  getSet name value back := by
    have found : ((setProperty name (convert value) keywords).find? fun dt => dt.id == name).map
        DataType.value = some (convert value) := by
      induction keywords with
      | nil => simp [setProperty]
      | cons first rest ih =>
          rw [setProperty]
          by_cases own : first.id = name
          · simp [own]
          · simpa [own] using ih
    have reads : (fun dt : DataType => read dt.value) = read ∘ DataType.value := rfl
    rw [getKeyword, reads, ← Option.map_map, setKeyword, found, Option.map_some, back]
  set name value present := by
    induction keywords with
    | nil => cases present
    | cons first rest ih =>
        by_cases own : first.id = name
        · exact ⟨[], first, rest, own, rfl, by simp [setKeyword, setProperty, own]⟩
        · obtain ⟨before, old, after, named, split, result⟩ := ih (by simpa [hasKeyword, own] using present)
          refine ⟨first :: before, old, after, named, by rw [split]; rfl, ?_⟩
          rw [setKeyword] at result ⊢
          simp [setProperty, own, result]
  append name value absent := by
    induction keywords with
    | nil => rfl
    | cons first rest ih =>
        simp only [hasKeyword, any_cons, Bool.or_eq_true, beq_iff_eq, not_or] at absent
        have later := ih absent.2
        rw [setKeyword] at later ⊢
        simp [setProperty, absent.1, later]
  erase name present := by
    obtain ⟨old, member, named⟩ := any_eq_true.mp present
    obtain ⟨old, before, after, _, named, split, erased⟩ :=
      @exists_of_eraseP _ (fun dt : DataType => dt.id == name) _ _ member named
    exact ⟨before, old, after, by simpa using named, split, erased⟩
  eraseAbsent name absent := by
    refine eraseP_of_forall_not fun dt member named => absent ?_
    exact any_eq_true.mpr ⟨dt, member, named⟩

end Keywords

inductive Field where
  | hversion | xstart | xdelta | xunits | subsize | ystart | ydelta | yunits | mode | streamID
  | blocking | keywords

namespace Field

def bit : Field → Nat
  | hversion => 0
  | xstart => 1
  | xdelta => 2
  | xunits => 3
  | subsize => 4
  | ystart => 5
  | ydelta => 6
  | yunits => 7
  | mode => 8
  | streamID => 9
  | blocking => 10
  | keywords => 11

theorem bit_injective : Function.Injective Field.bit := by
  intro first second equal
  cases first <;> cases second <;> first | rfl | cases equal

theorem forall_iff {Holds : Field → Prop} : (∀ field, Holds field) ↔
    Holds hversion ∧ Holds xstart ∧ Holds xdelta ∧ Holds xunits ∧ Holds subsize ∧ Holds ystart ∧
      Holds ydelta ∧ Holds yunits ∧ Holds mode ∧ Holds blocking ∧ Holds streamID ∧
      Holds keywords := by
  constructor
  · intro all
    simp [all]
  · rintro ⟨_, _, _, _, _, _, _, _, _, _, _, _⟩ field
    cases field <;> assumption

end Field

def fieldDiffers (a b : StreamSRI) (keywords : Bool) : Field → Bool
  | .hversion => a.hversion != b.hversion
  | .xstart => a.xstart != b.xstart
  | .xdelta => a.xdelta != b.xdelta
  | .xunits => a.xunits != b.xunits
  | .subsize => a.subsize != b.subsize
  | .ystart => a.ystart != b.ystart
  | .ydelta => a.ydelta != b.ydelta
  | .yunits => a.yunits != b.yunits
  | .mode => a.mode != b.mode
  | .streamID => a.streamID != b.streamID
  | .blocking => a.blocking != b.blocking
  | .keywords => keywords

def Tells (flags : Flags) (a b : StreamSRI) : Prop :=
  ∀ i, flags.getLsbD i = true ↔
    ∃ field : Field, field.bit = i ∧ fieldDiffers a b (a.keywords != b.keywords) field = true

structure Compares {Value : Type} (convert : Value → Any) (read : Any → Value) (a b : StreamSRI) :
    Prop where
  cpp : DefaultComparator a b = true ↔ a = b
  python : compare a b = true ↔ a = b
  cppFields : Tells (Sri.compareFields a b) a b
  pythonFields : Tells (compareFields a b) a b
  cppNone : Sri.compareFields a b = NONE ↔ DefaultComparator a b = true
  pythonNone : compareFields a b = NONE ↔ compare a b = true
  keywords : KeywordsKept convert read a.keywords

def Comparable : Any → Prop
  | .other _ _ => False
  | _ => True

/-- Equal keywords have values that can be compared, and differ in no names alone. -/
structure Decided (a b : List DataType) : Prop where
  comparable : a = b → ∀ keyword ∈ a, Comparable keyword.value
  named : a.map DataType.value = b.map DataType.value → a.map DataType.id = b.map DataType.id

theorem compareAnys_iff {a b : Any} : compareAnys a b = true ↔ a = b ∧ Comparable a := by
  cases a <;> cases b <;> simp [compareAnys, Comparable]

theorem zip_all_iff {test : DataType → DataType → Bool} {lhs rhs : List DataType} :
    (lhs.length == rhs.length && (lhs.zip rhs).all fun (left, right) => test left right) = true ↔
      Forall₂ (fun left right => test left right = true) lhs rhs := by
  rw [forall₂_iff_zip, Bool.and_eq_true, beq_iff_eq, all_eq_true]
  exact and_congr_right fun _ =>
    ⟨fun all _ _ member => all _ member, fun all pair member => all member⟩

variable {lhs rhs : List DataType}

theorem cppKeywords_iff :
    Sri.compareKeywords lhs rhs = true ↔ lhs = rhs ∧ ∀ keyword ∈ lhs, Comparable keyword.value := by
  refine (@zip_all_iff (fun left right =>
    left.id == right.id && compareAnys left.value right.value) lhs rhs).trans ?_
  simp only [Bool.and_eq_true, beq_iff_eq, compareAnys_iff]
  constructor
  · intro related
    induction related with
    | nil => simp
    | @cons left right _ _ same _ ih =>
        obtain ⟨rfl, all⟩ := ih
        obtain ⟨id, value⟩ := left
        obtain ⟨named, rfl, comparable⟩ := same
        cases named
        exact ⟨rfl, forall_mem_cons.mpr ⟨comparable, all⟩⟩
  · rintro ⟨rfl, all⟩
    exact forall₂_same.mpr fun keyword member => ⟨rfl, rfl, all keyword member⟩

theorem pyKeywords_iff :
    compareKeywords lhs rhs = true ↔ lhs.map DataType.value = rhs.map DataType.value := by
  refine (@zip_all_iff (fun left right => left.value == right.value) lhs rhs).trans ?_
  rw [← forall₂_eq_eq_eq, forall₂_map_left_iff, forall₂_map_right_iff]
  simp

theorem keywords_ext (values : lhs.map DataType.value = rhs.map DataType.value)
    (names : lhs.map DataType.id = rhs.map DataType.id) : lhs = rhs := by
  rw [← forall₂_eq_eq_eq, forall₂_map_left_iff, forall₂_map_right_iff] at values names
  rw [← forall₂_eq_eq_eq]
  induction values with
  | nil => exact .nil
  | @cons left right _ _ same _ ih =>
      obtain ⟨named, others⟩ := forall₂_cons.mp names
      exact .cons (DataType.mk.injEq .. ▸ ⟨named, same⟩) (ih others)

def flagsOf (differs : Field → Bool) : Flags :=
  flagIf (differs .hversion) HVERSION ||| flagIf (differs .xstart) XSTART |||
  flagIf (differs .xdelta) XDELTA ||| flagIf (differs .xunits) XUNITS |||
  flagIf (differs .subsize) SUBSIZE ||| flagIf (differs .ystart) YSTART |||
  flagIf (differs .ydelta) YDELTA ||| flagIf (differs .yunits) YUNITS |||
  flagIf (differs .mode) MODE ||| flagIf (differs .blocking) BLOCKING |||
  flagIf (differs .streamID) STREAMID ||| flagIf (differs .keywords) KEYWORDS

theorem getLsbD_flagIf (differs : Bool) (k i : Nat) :
    (flagIf differs (1 <<< k)).getLsbD i = (differs && decide (i < 32) && decide (i = k)) := by
  cases differs with
  | false => simp [flagIf, NONE]
  | true =>
      have shifted : ((1 <<< k : Nat) : Flags) = BitVec.twoPow 32 k := by
        apply BitVec.eq_of_toNat_eq
        simp [Nat.one_shiftLeft]
      simp only [flagIf, if_true, shifted, BitVec.getLsbD_twoPow, Bool.true_and]
      grind

theorem flagsOf_bit (differs : Field → Bool) (i : Nat) :
    (flagsOf differs).getLsbD i = true ↔ ∃ field : Field, field.bit = i ∧ differs field = true := by
  simp only [flagsOf, HVERSION, XSTART, XDELTA, XUNITS, SUBSIZE, YSTART, YDELTA, YUNITS, MODE,
    BLOCKING, STREAMID, KEYWORDS, BitVec.getLsbD_or, getLsbD_flagIf, Bool.or_eq_true,
    Bool.and_eq_true, decide_eq_true_eq]
  constructor
  · intro set
    rcases set with ((((((((((set | set) | set) | set) | set) | set) | set) | set) | set) | set) | set) | set
    all_goals
      refine ⟨_, ?_, set.1.1⟩
      exact set.2.symm
  · rintro ⟨field, rfl, differing⟩
    cases field <;> simp [Field.bit, differing]

theorem tells_iff {a b : StreamSRI} {keywords : Bool} :
    Tells (flagsOf (fieldDiffers a b keywords)) a b ↔ (keywords = true ↔ a.keywords ≠ b.keywords) := by
  rw [← bne_iff_ne]
  constructor
  · intro tells
    have last := (flagsOf_bit (fieldDiffers a b keywords) Field.keywords.bit).symm.trans (tells _)
    constructor
    · intro differs
      obtain ⟨field, bit, differs⟩ := last.mp ⟨.keywords, rfl, differs⟩
      rw [Field.bit_injective bit] at differs
      exact differs
    · intro differs
      obtain ⟨field, bit, differs⟩ := last.mpr ⟨.keywords, rfl, differs⟩
      rw [Field.bit_injective bit] at differs
      exact differs
  · intro last i
    rw [Bool.eq_iff_iff.mpr last]
    exact flagsOf_bit _ i

theorem flagsOf_none {differs : Field → Bool} :
    flagsOf differs = NONE ↔ ∀ field, differs field = false := by
  constructor
  · intro none field
    by_contra set
    have bit := (flagsOf_bit differs field.bit).mpr ⟨field, rfl, by simpa using set⟩
    rw [none] at bit
    simp [NONE] at bit
  · intro none
    refine BitVec.eq_of_getLsbD_eq fun i _ => ?_
    rw [Bool.eq_iff_iff, flagsOf_bit]
    simp [none, NONE]

variable (a b : StreamSRI)

theorem cppFlags : Sri.compareFields a b =
    flagsOf (fieldDiffers a b (!Sri.compareKeywords a.keywords b.keywords)) := rfl

theorem pyFlags : compareFields a b =
    flagsOf (fieldDiffers a b (!compareKeywords a.keywords b.keywords)) := by
  simp only [compareFields, flagsOf, fieldDiffers]
  ac_rfl

theorem equal_iff {a b : StreamSRI} {keywords : Bool} :
    (∀ field, fieldDiffers a b keywords field = false) ↔
      { a with keywords := b.keywords } = b ∧ keywords = false := by
  rw [Field.forall_iff]
  obtain ⟨⟩ := b
  simp only [fieldDiffers, bne_eq_false_iff_eq, StreamSRI.mk.injEq, and_true]
  tauto

theorem default_iff : DefaultComparator a b = true ↔
    ∀ field, fieldDiffers a b (!Sri.compareKeywords a.keywords b.keywords) field = false := by
  rw [Field.forall_iff]
  simp [DefaultComparator, fieldDiffers, and_assoc]

theorem compare_iff : compare a b = true ↔
    ∀ field, fieldDiffers a b (!compareKeywords a.keywords b.keywords) field = false := by
  rw [Field.forall_iff]
  simp [compare, fieldDiffers, and_assoc, and_left_comm]

def withKeyword (id : String) (value : Any) : StreamSRI :=
  { create "s" with keywords := [⟨id, value⟩] }

end Redhawk.Bulkio.Py
