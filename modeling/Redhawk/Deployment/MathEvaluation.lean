import Redhawk.Deployment.MathStatements
import Redhawk.Library.Lists

/-!
What `_evaluateMATHinRequest` makes of a request, against what a statement `__MATH__(a,p,op)` says.
-/

namespace Redhawk.Deployment.MathRequests

open Library Properties List

def SimpleValue.number : SimpleValue → Option ℚ
  | .integer .char _ | .integer .octet _ => none
  | .integer _ value => some value.1
  | .floating _ value => some value
  | _ => none

def operators : List Text := [['*'], ['-'], ['+'], ['/']]

def applied (math : Text) (operand number : ℚ) : Option ℚ :=
  if math = ['*'] then some (operand * number)
  else if math = ['-'] then some (operand - number)
  else if math = ['+'] then some (operand + number)
  else if math = ['/'] ∧ number ≠ 0 then some (operand / number)
  else none

def InOwnType (prop : SimpleValue) (exact : ℚ) (result : SimpleValue) : Prop :=
  match prop with
  | .integer type _ => ∃ held : type.Value, held.1 = truncate exact ∧ result = .integer type held
  | .floating type _ => result = .floating type exact
  | _ => False

structure Arguments (statement argument id math : Text) : Prop where
  statement_eq : statement = '(' :: (argument ++ ',' :: (id ++ ',' :: math)) ++ [')']
  argument_whole : ',' ∉ argument
  id_whole : ',' ∉ id
  math_whole : ',' ∉ math

/-- A statement that is well formed, and its value in the type of the property; the operator `=` and
properties of other types are left open. -/
def Replaced (configureProperties : PropertyList) (text : Text) (result : SimpleValue) : Prop :=
  ∃ argument id math operand prop, mark <+: text ∧ Arguments (text.drop 8) argument id math ∧
    readRational argument = some (operand, []) ∧ math ∈ ['='] :: operators ∧
    matchingCompProp id configureProperties = some prop ∧
    ∀ number, prop.number = some number → math ∈ operators →
      ∃ exact, applied math operand number = some exact ∧ InOwnType prop exact result

def ValueKept (configureProperties : PropertyList) (value result : SimpleValue) : Prop :=
  match value with
  | .string text =>
    if mark <:+: text then Replaced configureProperties text result else result = .string text
  | value => result = value

/-- A request of the same shape, whose values are unchanged or the values of their statements. -/
def RequestKept (configureProperties : PropertyList) : PropertyList → PropertyList → Prop
  | .nil, .nil => True
  | .simple id value rest, .simple id' value' rest' =>
    id' = id ∧ ValueKept configureProperties value value' ∧ RequestKept configureProperties rest rest'
  | .nested id value rest, .nested id' value' rest' =>
    id' = id ∧ RequestKept configureProperties value value' ∧ RequestKept configureProperties rest rest'
  | _, _ => False

def EvaluatedOrRaised (configureProperties request : PropertyList) : Prop :=
  match evaluateMathInRequest configureProperties request with
  | .ok result => RequestKept configureProperties request result
  | .error (.propertyMatchingError _) => True
  | .error _ => False

/-! The condition, on the values of a request in their order. -/

def values : PropertyList → List SimpleValue
  | .nil => []
  | .simple _ value rest => value :: values rest
  | .nested _ value rest => values value ++ values rest

/-- A value whose statement comes to the calculation, wherever the mark stands in it. -/
structure Calculated (configureProperties : PropertyList) (value : SimpleValue) (text argument : Text)
    (math : Text) (prop : SimpleValue) : Prop where
  isString : value = .string text
  marked : mark <:+: text
  arguments : ∃ id, Arguments (text.drop 8) argument id math ∧ matchingCompProp id configureProperties = some prop
  numeral : startsNumber argument = true

def operandOf (argument : Text) : ℚ := ((readRational argument).map Prod.fst).getD 0

def Holds (prop : SimpleValue) (number : ℚ) : Prop :=
  match prop with
  | .integer type _ => type.low ≤ truncate number ∧ truncate number ≤ type.high
  | _ => True

/-- The mark alone, a quotient by zero or a result that the type of the property does not hold. -/
def Breaks (configureProperties : PropertyList) (value : SimpleValue) : Prop :=
  value = .string mark ∨
    ∃ text argument math prop number, Calculated configureProperties value text argument math prop ∧
      prop.number = some number ∧
      (math = ['/'] ∧ number = 0 ∨
        ∃ exact, performMath (operandOf argument) number math = .ok exact ∧ ¬Holds prop exact)

def Raises (configureProperties : PropertyList) (value : SimpleValue) : Prop :=
  ∃ text, value = .string text ∧ mark <:+: text ∧ text ≠ mark ∧
    ∀ argument math prop, ¬Calculated configureProperties value text argument math prop

/-- Statements stand behind the mark at the start of a value, with a number that is read to its end and
one of the operators, and not on a property that is an unsigned integer of 64 bits. -/
def Sound (configureProperties : PropertyList) (value : SimpleValue) : Prop :=
  ∀ text argument math prop, Calculated configureProperties value text argument math prop →
    mark <+: text ∧ (∃ operand, readRational argument = some (operand, [])) ∧
      math ∈ ['='] :: operators ∧ (math ∈ operators → prop.kind ≠ .integer .ulonglong)

def Unbroken (configureProperties : PropertyList) : List SimpleValue → Prop
  | [] => True
  | value :: rest =>
    Raises configureProperties value ∨ ¬Breaks configureProperties value ∧ Unbroken configureProperties rest

def WellEvaluated (configureProperties request : PropertyList) : Prop :=
  Unbroken configureProperties (values request) ∧
    ((∃ value ∈ values request, Raises configureProperties value) ∨
      ∀ value ∈ values request, Sound configureProperties value)

section Arguments

variable {argument id math : Text}

theorem Arguments.split {statement : Text} (arguments : Arguments statement argument id math) :
    (argument ++ ',' :: (id ++ ',' :: math)).splitOn ',' = [argument, id, math] := by
  rw [splitOn_append_cons_self_of_not_mem arguments.argument_whole,
    splitOn_append_cons_self_of_not_mem arguments.id_whole,
    splitOn_eq_singleton arguments.math_whole]

theorem Arguments.unique {statement argument' id' math' : Text} (arguments : Arguments statement argument id math)
    (other : Arguments statement argument' id' math') :
    argument' = argument ∧ id' = id ∧ math' = math := by
  have bodies := arguments.statement_eq.symm.trans other.statement_eq
  simp only [cons_append, cons.injEq, true_and] at bodies
  have splits := arguments.split
  rw [append_cancel_right bodies, other.split] at splits
  simpa using splits

theorem arguments_of_split {body : Text} (split : body.splitOn ',' = [argument, id, math]) :
    Arguments ('(' :: body ++ [')']) argument id math := by
  have whole : ∀ part ∈ [argument, id, math], ',' ∉ part := fun part member =>
    not_mem_of_mem_splitOn (split ▸ member)
  have joined : [','].intercalate (body.splitOn ',') = body := intercalate_splitOn ','
  rw [split] at joined
  refine ⟨?_, whole _ (by simp), whole _ (by simp), whole _ (by simp)⟩
  rw [← joined]
  simp [intercalate, intersperse]

end Arguments

section Statements

variable (configureProperties : PropertyList) {text argument id math : Text}

theorem evaluateStatement_arguments (arguments : Arguments (text.drop 8) argument id math) :
    evaluateStatement configureProperties text = evaluateArguments configureProperties argument id math := by
  have split := arguments.split
  have statement := arguments.statement_eq
  generalize argument ++ ',' :: (id ++ ',' :: math) = body at split statement
  have last : ('(' :: (body ++ [')'])).getLast? = some ')' := by
    rw [← cons_append, getLast?_concat]
  rw [evaluateStatement, statement, cons_append]
  simp [last, split]

theorem evaluateStatement_other (nonempty : text.drop 8 ≠ [])
    (none : ∀ argument id math, ¬Arguments (text.drop 8) argument id math) :
    ∃ message, evaluateStatement configureProperties text = .error (.propertyMatchingError message) := by
  rw [evaluateStatement]
  cases statement : text.drop 8 with
  | nil => exact absurd statement nonempty
  | cons first rest =>
      simp only []
      split
      · next brackets =>
          obtain ⟨rfl, last⟩ := brackets
          have body : rest = rest.dropLast ++ [')'] := by
            cases rest with
            | nil => simp at last
            | cons second others =>
                rw [getLast?_cons_cons] at last
                exact (dropLast_append_getLast? ')' last).symm
          split
          · next argument id math split =>
              refine absurd (arguments_of_split split) ?_
              rw [cons_append, ← body, ← statement]
              exact none argument id math
          · exact ⟨_, rfl⟩
      · exact ⟨_, rfl⟩

theorem evaluateArguments_calculated {prop : SimpleValue} (numeral : startsNumber argument = true)
    (found : matchingCompProp id configureProperties = some prop) :
    evaluateArguments configureProperties argument id math =
      calculateDynamicProp (operandOf argument) prop math prop.kind := by
  have nonempty : argument ≠ [] := by
    rintro rfl
    cases numeral
  simp [evaluateArguments, nonempty, numeral, found, operandOf]

theorem evaluateArguments_other
    (none : startsNumber argument = true → matchingCompProp id configureProperties = none) :
    ∃ message, evaluateArguments configureProperties argument id math =
      .error (.propertyMatchingError message) := by
  simp only [evaluateArguments]
  split
  · exact ⟨_, rfl⟩
  · split
    · next numeral =>
        rw [none numeral]
        exact ⟨_, rfl⟩
    · exact ⟨_, rfl⟩

theorem eq_mark_of_drop (marked : mark <:+: text) (short : text.drop 8 = []) : text = mark := by
  have length : text.length ≤ mark.length := drop_eq_nil_iff.mp short
  exact (marked.eq_of_length_le length).symm

end Statements

section Calculated

variable {configureProperties : PropertyList} {value prop : SimpleValue} {text argument math : Text}

theorem Calculated.evaluate (calculated : Calculated configureProperties value text argument math prop) :
    evaluateValue configureProperties value = calculateDynamicProp (operandOf argument) prop math prop.kind := by
  obtain ⟨rfl, marked, ⟨id, arguments, found⟩, numeral⟩ := calculated
  rw [evaluateValue, if_pos marked, evaluateStatement_arguments configureProperties arguments,
    evaluateArguments_calculated configureProperties numeral found]

theorem Calculated.unique {text' argument' math' : Text} {prop' : SimpleValue}
    (calculated : Calculated configureProperties value text argument math prop)
    (other : Calculated configureProperties value text' argument' math' prop') :
    text' = text ∧ argument' = argument ∧ math' = math ∧ prop' = prop := by
  obtain ⟨rfl, -, ⟨id, arguments, found⟩, -⟩ := calculated
  obtain ⟨same, -, ⟨id', arguments', found'⟩, -⟩ := other
  cases same
  obtain ⟨rfl, rfl, rfl⟩ := arguments.unique arguments'
  rw [found] at found'
  cases found'
  exact ⟨rfl, rfl, rfl, rfl⟩

end Calculated

section Calculation

variable {number : ℚ}

theorem performMath_operator {math : Text} (operator : math ∈ operators) {operand exact : ℚ} :
    performMath operand number math = .ok exact ↔ applied math operand number = some exact := by
  simp only [operators, mem_cons, not_mem_nil, or_false] at operator
  rcases operator with rfl | rfl | rfl | rfl
  · simp [performMath, applied]
  · simp [performMath, applied]
  · simp [performMath, applied]
  · by_cases zero : number = 0 <;> simp [performMath, applied, zero]

theorem performMath_error {operand : ℚ} {math : Text} {raised : MathError}
    (result : performMath operand number math = .error raised) :
    raised = .undefined ∧ math = ['/'] ∧ number = 0 := by
  unfold performMath at result
  split at result
  · cases result
  · split at result
    · cases result
    · split at result
      · cases result
      · split at result
        · next divide =>
            split at result
            · next zero =>
                cases result
                exact ⟨rfl, divide, zero⟩
            · cases result
        · split at result <;> cases result

theorem castTo_cases (type : IntegerType) (number : ℚ) :
    (type.low ≤ truncate number ∧ truncate number ≤ type.high) ∧
        castTo type number = .ok (.integer type (type.cast (truncate number))) ∨
      ¬(type.low ≤ truncate number ∧ truncate number ≤ type.high) ∧ castTo type number = .error .undefined := by
  by_cases fits : type.low ≤ truncate number ∧ truncate number ≤ type.high
  · exact .inl ⟨fits, if_pos fits⟩
  · exact .inr ⟨fits, if_neg fits⟩

variable {prop : SimpleValue}

theorem calculate_number (isNumber : prop.number = some number) (operand : ℚ) (math : Text) :
    calculateDynamicProp operand prop math prop.kind =
      (performMath operand number math).bind fun temporary =>
        resultOfKind temporary prop prop.kind := by
  cases prop with
  | integer type value => cases type <;> cases isNumber <;> rfl
  | floating type value =>
      cases isNumber
      rfl
  | string text => cases isNumber
  | empty => cases isNumber
  | other kind => cases isNumber

theorem calculate_other (none : prop.number = none) (operand : ℚ) (math : Text) :
    ∃ result, calculateDynamicProp operand prop math prop.kind = .ok result := by
  cases prop with
  | integer type value => cases type <;> first | exact ⟨_, rfl⟩ | cases none
  | floating type value => cases none
  | string text => exact ⟨_, rfl⟩
  | empty => exact ⟨_, rfl⟩
  | other kind => exact ⟨_, rfl⟩

theorem resultOfKind_cases (isNumber : prop.number = some number) (exact : ℚ) :
    (Holds prop exact ∧ ∃ result, resultOfKind exact prop prop.kind = .ok result ∧
        (prop.kind ≠ .integer .ulonglong → InOwnType prop exact result) ∧
        (prop.kind = .integer .ulonglong → ∀ other, ¬InOwnType prop other result)) ∨
      ¬Holds prop exact ∧ resultOfKind exact prop prop.kind = .error .undefined := by
  cases prop with
  | integer type value =>
      have kinds : type ≠ .char ∧ type ≠ .octet := by
        constructor <;> rintro rfl <;> cases isNumber
      have result : resultOfKind exact (.integer type value) (.integer type) =
          if type = .ulonglong then (castTo type exact).map fun _ => stringOf (.integer type value)
          else castTo type exact := by
        cases type <;> first | rfl | exact absurd rfl kinds.1 | exact absurd rfl kinds.2
      rcases castTo_cases type exact with ⟨fits, cast⟩ | ⟨outside, cast⟩
      · refine .inl ⟨fits, ?_⟩
        rw [SimpleValue.kind, result, cast]
        by_cases wide : type = .ulonglong
        · rw [if_pos wide]
          refine ⟨_, rfl, fun other => absurd (congrArg TypeKind.integer wide) other, ?_⟩
          rintro - other ⟨held, -, same⟩
          cases same
        · rw [if_neg wide]
          refine ⟨_, rfl, fun _ => ⟨_, type.narrow_of_fits fits, rfl⟩, fun same => ?_⟩
          exact absurd (TypeKind.integer.inj same) wide
      · refine .inr ⟨outside, ?_⟩
        rw [SimpleValue.kind, result, cast]
        split <;> rfl
  | floating type value =>
      exact .inl ⟨trivial, _, rfl, fun _ => rfl, fun same => by cases same⟩
  | string text => cases isNumber
  | empty => cases isNumber
  | other kind => cases isNumber

end Calculation

section Values

variable {configureProperties : PropertyList} {value : SimpleValue}

theorem Raises.ends (raises : Raises configureProperties value) :
    ∃ message, evaluateValue configureProperties value = .error (.propertyMatchingError message) := by
  obtain ⟨text, rfl, marked, differs, none⟩ := raises
  rw [evaluateValue, if_pos marked]
  by_cases statement : ∃ argument id math, Arguments (text.drop 8) argument id math
  · obtain ⟨argument, id, math, arguments⟩ := statement
    rw [evaluateStatement_arguments configureProperties arguments]
    refine evaluateArguments_other configureProperties fun numeral => ?_
    cases found : matchingCompProp id configureProperties with
    | none => rfl
    | some prop => exact absurd ⟨rfl, marked, ⟨id, arguments, found⟩, numeral⟩ (none argument math prop)
  · refine evaluateStatement_other configureProperties (fun short => ?_)
      fun argument id math arguments => statement ⟨argument, id, math, arguments⟩
    exact differs (eq_mark_of_drop marked short)

theorem operandOf_eq {argument : Text} {operand : ℚ} {rest : Text}
    (read : readRational argument = some (operand, rest)) : operandOf argument = operand := by
  rw [operandOf, read]
  rfl

section Calculated

variable {text argument math : Text} {prop : SimpleValue}
  (calculated : Calculated configureProperties value text argument math prop)

include calculated

theorem Calculated.breaks_iff :
    Breaks configureProperties value ↔ ∃ number, prop.number = some number ∧
      (math = ['/'] ∧ number = 0 ∨
        ∃ exact, performMath (operandOf argument) number math = .ok exact ∧ ¬Holds prop exact) := by
  constructor
  · rintro (alone | ⟨text', argument', math', prop', number, other, isNumber, ends⟩)
    · obtain ⟨isString, -, ⟨id, arguments, -⟩, -⟩ := calculated
      rw [alone] at isString
      cases isString
      exact absurd arguments.statement_eq (cons_ne_nil _ _).symm
    · obtain ⟨rfl, rfl, rfl, rfl⟩ := calculated.unique other
      exact ⟨number, isNumber, ends⟩
  · rintro ⟨number, isNumber, ends⟩
    exact .inr ⟨text, argument, math, prop, number, calculated, isNumber, ends⟩

theorem Calculated.sound_iff :
    Sound configureProperties value ↔
      mark <+: text ∧ (∃ operand, readRational argument = some (operand, [])) ∧
        math ∈ ['='] :: operators ∧ (math ∈ operators → prop.kind ≠ .integer .ulonglong) := by
  constructor
  · exact fun sound => sound text argument math prop calculated
  · intro holds text' argument' math' prop' other
    obtain ⟨rfl, rfl, rfl, rfl⟩ := calculated.unique other
    exact holds

theorem Calculated.kept_iff (result : SimpleValue) :
    ValueKept configureProperties value result ↔
      mark <+: text ∧ (∃ operand, readRational argument = some (operand, [])) ∧
        math ∈ ['='] :: operators ∧ ∀ number, prop.number = some number → math ∈ operators →
          ∃ exact, applied math (operandOf argument) number = some exact ∧ InOwnType prop exact result := by
  obtain ⟨rfl, marked, ⟨id, arguments, found⟩, numeral⟩ := calculated
  rw [ValueKept, if_pos marked]
  constructor
  · rintro ⟨argument', id', math', operand, prop', starts, arguments', read, operator, found', replaced⟩
    obtain ⟨rfl, rfl, rfl⟩ := arguments.unique arguments'
    rw [found] at found'
    cases found'
    rw [operandOf_eq read]
    exact ⟨starts, ⟨operand, read⟩, operator, replaced⟩
  · rintro ⟨starts, ⟨operand, read⟩, operator, replaced⟩
    rw [operandOf_eq read] at replaced
    exact ⟨argument, id, math, operand, prop, starts, arguments, read, operator, found, replaced⟩

theorem Calculated.ends :
    Breaks configureProperties value ∧ evaluateValue configureProperties value = .error .undefined ∨
      ¬Breaks configureProperties value ∧
        ∃ result, evaluateValue configureProperties value = .ok result ∧
          (ValueKept configureProperties value result ↔ Sound configureProperties value) := by
  rw [calculated.evaluate, calculated.breaks_iff, calculated.sound_iff]
  cases isNumber : prop.number with
  | none =>
      obtain ⟨result, ended⟩ := calculate_other isNumber (operandOf argument) math
      have narrow : prop.kind ≠ .integer .ulonglong := by
        intro kind
        cases prop with
        | integer type value =>
            cases TypeKind.integer.inj kind
            cases isNumber
        | _ => cases kind
      refine .inr ⟨fun broken => ?_, result, ended, ?_⟩
      · obtain ⟨number, same, -⟩ := broken
        cases same
      · rw [calculated.kept_iff]
        simp [isNumber, narrow]
  | some number =>
      rw [calculate_number isNumber]
      cases performed : performMath (operandOf argument) number math with
      | error raised =>
          obtain ⟨rfl, divide, zero⟩ := performMath_error performed
          exact .inl ⟨⟨number, rfl, .inl ⟨divide, zero⟩⟩, rfl⟩
      | ok exact =>
          have notZero : ¬(math = ['/'] ∧ number = 0) := by
            rintro ⟨rfl, rfl⟩
            cases performed
          rcases resultOfKind_cases isNumber exact with ⟨holds, result, ended, own, strange⟩ | ⟨outside, ended⟩
          · refine .inr ⟨?_, result, ended, ?_⟩
            · rintro ⟨other, same, divides | ⟨found, again, outside⟩⟩
              · cases same
                exact notZero divides
              · cases same
                rw [performed] at again
                cases again
                exact outside holds
            · rw [calculated.kept_iff, isNumber]
              refine and_congr_right fun _ => and_congr_right fun _ => and_congr_right fun _ => ?_
              constructor
              · intro replaced operator kind
                obtain ⟨other, -, typed⟩ := replaced number rfl operator
                exact strange kind other typed
              · intro kind other same operator
                cases same
                exact ⟨exact, (performMath_operator operator).mp performed, own (kind operator)⟩
          · exact .inl ⟨⟨number, rfl, .inr ⟨exact, performed, outside⟩⟩, ended⟩

end Calculated

theorem evaluateValue_cases (configureProperties : PropertyList) (value : SimpleValue) :
    (Raises configureProperties value ∧ ∃ message,
        evaluateValue configureProperties value = .error (.propertyMatchingError message)) ∨
      (¬Raises configureProperties value ∧ Breaks configureProperties value ∧ ∃ raised,
        evaluateValue configureProperties value = .error raised ∧
          ∀ message, raised ≠ .propertyMatchingError message) ∨
      ¬Raises configureProperties value ∧ ¬Breaks configureProperties value ∧
        ∃ result, evaluateValue configureProperties value = .ok result ∧
          (ValueKept configureProperties value result ↔ Sound configureProperties value) := by
  by_cases raises : Raises configureProperties value
  · exact .inl ⟨raises, raises.ends⟩
  · refine .inr ?_
    by_cases calculated : ∃ text argument math prop, Calculated configureProperties value text argument math prop
    · obtain ⟨text, argument, math, prop, calculated⟩ := calculated
      rcases calculated.ends with ⟨breaks, ended⟩ | ⟨unbroken, ended⟩
      · exact .inl ⟨raises, breaks, _, ended, fun message same => by cases same⟩
      · exact .inr ⟨raises, unbroken, ended⟩
    · by_cases alone : value = .string mark
      · subst alone
        refine .inl ⟨raises, .inl rfl, .readsOutside, ?_, fun message same => by cases same⟩
        rfl
      · have unbroken : ¬Breaks configureProperties value := by
          rintro (same | ⟨text, argument, math, prop, number, found, -⟩)
          · exact alone same
          · exact calculated ⟨text, argument, math, prop, found⟩
        have unmarked : ∀ text, value = .string text → ¬mark <:+: text := by
          rintro text rfl marked
          refine raises ⟨text, rfl, marked, fun same => alone (congrArg _ same), ?_⟩
          exact fun argument math prop found => calculated ⟨text, argument, math, prop, found⟩
        have sound : Sound configureProperties value := fun text argument math prop found =>
          absurd ⟨text, argument, math, prop, found⟩ calculated
        refine .inr ⟨raises, unbroken, value, ?_, iff_of_true ?_ sound⟩
        · cases value with
          | string text => exact if_neg (unmarked text rfl)
          | _ => rfl
        · cases value with
          | string text => exact (if_neg (unmarked text rfl)).mpr rfl
          | _ => rfl

end Values

section Requests

variable (configureProperties : PropertyList)

theorem evaluate_values (request : PropertyList) :
    (evaluateMathInRequest configureProperties request).map values =
      (values request).mapM (evaluateValue configureProperties) := by
  induction request with
  | nil => rfl
  | simple id value rest ih =>
      rw [values, mapM_cons, ← ih, evaluateMathInRequest]
      cases evaluateValue configureProperties value with
      | error raised => rfl
      | ok evaluated => cases evaluateMathInRequest configureProperties rest <;> rfl
  | nested id value rest inner ih =>
      rw [values, mapM_append, ← ih, ← inner, evaluateMathInRequest]
      cases evaluateMathInRequest configureProperties value with
      | error raised => rfl
      | ok evaluated => cases evaluateMathInRequest configureProperties rest <;> rfl

theorem kept_iff_values {request result : PropertyList}
    (ended : evaluateMathInRequest configureProperties request = .ok result) :
    RequestKept configureProperties request result ↔
      Forall₂ (ValueKept configureProperties) (values request) (values result) := by
  induction request generalizing result with
  | nil =>
      cases ended
      exact iff_of_true trivial .nil
  | simple id value rest ih =>
      rw [evaluateMathInRequest] at ended
      obtain ⟨evaluated, -, ended⟩ := Library.bind_eq_ok_iff.mp ended
      obtain ⟨others, behind, ended⟩ := Library.bind_eq_ok_iff.mp ended
      cases ended
      rw [RequestKept, values, values, forall₂_cons, ih behind]
      exact and_iff_right rfl
  | nested id value rest inner ih =>
      rw [evaluateMathInRequest] at ended
      obtain ⟨evaluated, first, ended⟩ := Library.bind_eq_ok_iff.mp ended
      obtain ⟨others, behind, ended⟩ := Library.bind_eq_ok_iff.mp ended
      cases ended
      have lengths := (Library.mapM_eq_ok_iff.mp ((evaluate_values configureProperties value).symm.trans
        (congrArg _ first))).length_eq
      rw [RequestKept, values, values, inner first, ih behind, Library.forall₂_append_iff lengths]
      exact and_iff_right rfl

theorem mapM_values_cases (list : List SimpleValue) :
    (Unbroken configureProperties list ∧ (∃ value ∈ list, Raises configureProperties value) ∧
        ∃ message, list.mapM (evaluateValue configureProperties) = .error (.propertyMatchingError message)) ∨
      (¬Unbroken configureProperties list ∧ ∃ raised,
        list.mapM (evaluateValue configureProperties) = .error raised ∧
          ∀ message, raised ≠ .propertyMatchingError message) ∨
      Unbroken configureProperties list ∧ (∀ value ∈ list, ¬Raises configureProperties value) ∧
        ∃ results, list.mapM (evaluateValue configureProperties) = .ok results ∧
          (Forall₂ (ValueKept configureProperties) list results ↔
            ∀ value ∈ list, Sound configureProperties value) := by
  induction list with
  | nil => exact .inr (.inr ⟨trivial, by simp, [], rfl, by simp⟩)
  | cons value rest ih =>
      rw [mapM_cons]
      rcases evaluateValue_cases configureProperties value with
        ⟨raises, message, ended⟩ | ⟨noRaise, breaks, raised, ended, other⟩ |
          ⟨noRaise, unbroken, result, ended, kept⟩
      · rw [ended]
        exact .inl ⟨.inl raises, ⟨value, mem_cons_self, raises⟩, message, rfl⟩
      · rw [ended]
        exact .inr (.inl ⟨fun whole => whole.elim noRaise fun both => both.1 breaks, raised, rfl, other⟩)
      · rw [ended]
        rcases ih with ⟨whole, ⟨later, member, raises⟩, message, behind⟩ |
          ⟨broken, raised, behind, other⟩ | ⟨whole, none, results, behind, keptRest⟩
        · rw [behind]
          exact .inl ⟨.inr ⟨unbroken, whole⟩, ⟨later, mem_cons_of_mem value member, raises⟩, message, rfl⟩
        · rw [behind]
          exact .inr (.inl ⟨fun all => all.elim noRaise fun both => broken both.2, raised, rfl, other⟩)
        · rw [behind]
          refine .inr (.inr ⟨.inr ⟨unbroken, whole⟩, ?_, result :: results, rfl, ?_⟩)
          · rintro later (_ | ⟨_, member⟩)
            · exact noRaise
            · exact none later member
          · rw [forall₂_cons, forall_mem_cons, kept, keptRest]

/-- A request raises or is evaluated as its statements say, exactly under the condition. -/
theorem evaluated_iff (request : PropertyList) :
    EvaluatedOrRaised configureProperties request ↔ WellEvaluated configureProperties request := by
  have same := evaluate_values configureProperties request
  rw [EvaluatedOrRaised, WellEvaluated]
  rcases mapM_values_cases configureProperties (values request) with
    ⟨whole, raises, message, ended⟩ | ⟨broken, raised, ended, other⟩ |
      ⟨whole, none, results, ended, kept⟩
  · rw [Library.map_eq_error_iff.mp (same.trans ended)]
    exact iff_of_true trivial ⟨whole, .inl raises⟩
  · rw [Library.map_eq_error_iff.mp (same.trans ended)]
    refine iff_of_false ?_ fun both => broken both.1
    cases raised with
    | propertyMatchingError message => exact absurd rfl (other message)
    | readsOutside => exact id
    | undefined => exact id
  · obtain ⟨result, evaluated, rfl⟩ := Library.map_eq_ok_iff.mp (same.trans ended)
    rw [evaluated]
    change RequestKept configureProperties request result ↔ _
    rw [kept_iff_values configureProperties evaluated, kept]
    refine ⟨fun sound => ⟨whole, .inr sound⟩, fun both => both.2.resolve_left ?_⟩
    rintro ⟨value, member, raises⟩
    exact none value member raises

end Requests

/-- A component with an unsigned integer of 64 bits, the number 5. -/
def widePropertyList : PropertyList := .simple ['p'] (.integer .ulonglong ⟨5, by decide⟩) .nil

theorem ulonglong_sum_lost :
    evaluateMathInRequest widePropertyList (.simple ['r'] (.string "__MATH__(2,p,+)".toList) .nil) =
      .ok (.simple ['r'] (.string ['5']) .nil) ∧
    ¬EvaluatedOrRaised widePropertyList
      (.simple ['r'] (.string "__MATH__(2,p,+)".toList) .nil) := by
  have ended : evaluateMathInRequest widePropertyList
      (.simple ['r'] (.string "__MATH__(2,p,+)".toList) .nil) =
        .ok (.simple ['r'] (.string ['5']) .nil) := by decide +kernel
  refine ⟨ended, fun evaluated => ?_⟩
  rw [EvaluatedOrRaised, ended] at evaluated
  have calculated : Calculated widePropertyList (.string "__MATH__(2,p,+)".toList)
      "__MATH__(2,p,+)".toList ['2'] ['+'] (.integer .ulonglong ⟨5, by decide⟩) :=
    ⟨rfl, by decide, ⟨['p'], ⟨by decide, by decide, by decide, by decide⟩, by decide⟩, by decide⟩
  obtain ⟨-, -, -, replaced⟩ := (calculated.kept_iff (.string ['5'])).mp evaluated.2.1
  obtain ⟨exact, -, held, -, same⟩ := replaced 5 rfl (by decide)
  cases same

end Redhawk.Deployment.MathRequests
