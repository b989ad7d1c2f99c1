import Redhawk.Library.Decimals
import Redhawk.Properties.TextConversions

/-!
`__MATH__` in allocation requests: `createHelper::_evaluateMATHinRequest`
(`ApplicationFactory_impl.cpp`) and `calculateDynamicProp` (`prop_helpers.cpp`), over exact arithmetic.
-/

namespace Redhawk.Deployment.MathRequests

open Library Properties

inductive SimpleValue
  | integer (type : IntegerType) (value : type.Value)
  | floating (type : FloatingType) (value : ℚ)
  | string (text : Text)
  | empty
  | other (kind : Nat)
deriving DecidableEq

inductive PropertyList
  | nil
  | simple (id : Text) (value : SimpleValue) (rest : PropertyList)
  | nested (id : Text) (value : PropertyList) (rest : PropertyList)
deriving DecidableEq

inductive TypeKind
  | integer (type : IntegerType)
  | floating (type : FloatingType)
  | string
  | other
deriving DecidableEq

def SimpleValue.kind : SimpleValue → TypeKind
  | .integer type _ => .integer type
  | .floating type _ => .floating type
  | .string _ => .string
  | .empty | .other _ => .other

/-- `undefined` is the cast of a number that the type does not hold, and the quotient by zero, which is
no number. -/
inductive MathError
  | propertyMatchingError (message : Text)
  | readsOutside
  | undefined
deriving DecidableEq

/-! `calculateDynamicProp` -/

def performMath (operand propval : ℚ) (math : Text) : Except MathError ℚ :=
  if math = ['*'] then .ok (operand * propval)
  else if math = ['-'] then .ok (operand - propval)
  else if math = ['+'] then .ok (operand + propval)
  else if math = ['/'] then if propval = 0 then .error .undefined else .ok (operand / propval)
  else if math = ['='] then .ok propval
  else .ok propval

def temporaryResult (operand : ℚ) (prop : SimpleValue) (math : Text) : Except MathError ℚ :=
  match prop with
  | .integer .char _ | .integer .octet _ => .ok 0
  | .integer _ value => performMath operand value.1 math
  | .floating _ value => performMath operand value math
  | _ => .ok 0

def castTo (type : IntegerType) (number : ℚ) : Except MathError SimpleValue :=
  if type.low ≤ truncate number ∧ truncate number ≤ type.high then
    .ok (.integer type (type.cast (truncate number)))
  else .error .undefined

def stringOf : SimpleValue → SimpleValue
  | .integer _ value => .string (printInteger value.1)
  | .string text => .string text
  | _ => .empty

def resultOfKind (temporary : ℚ) (prop : SimpleValue) : TypeKind → Except MathError SimpleValue
  | .integer .char | .integer .octet => .ok .empty
  -- The case has no break: the string takes the place of the number.
  | .integer .ulonglong => (castTo .ulonglong temporary).map fun _ => stringOf prop
  | .integer type => castTo type temporary
  | .floating type => .ok (.floating type temporary)
  | .string => .ok (stringOf prop)
  | .other => .ok .empty

def calculateDynamicProp (operand : ℚ) (prop : SimpleValue) (math : Text) (resultKind : TypeKind) :
    Except MathError SimpleValue :=
  (temporaryResult operand prop math).bind fun temporary => resultOfKind temporary prop resultKind

/-! `_evaluateMATHinRequest` -/

def mark : Text := "__MATH__".toList

/-- The last property with the id; a property list is of a kind that is not calculated with. -/
def lastMatch (id : Text) : PropertyList → Option SimpleValue
  | .nil => none
  | .simple entry value rest => (lastMatch id rest).or (if entry = id then some value else none)
  | .nested entry _ rest => (lastMatch id rest).or (if entry = id then some (.other 0) else none)

def firstMatch (id : Text) : PropertyList → Option SimpleValue
  | .nil => none
  | .simple entry value rest => if entry = id then some value else firstMatch id rest
  | .nested entry _ rest => if entry = id then some (.other 0) else firstMatch id rest

def structMatch (id : Text) : PropertyList → Option SimpleValue
  | .nil => none
  | .simple _ _ rest => structMatch id rest
  | .nested _ inner rest => (firstMatch id inner).or (structMatch id rest)

def matchingCompProp (id : Text) (configureProperties : PropertyList) : Option SimpleValue :=
  (lastMatch id configureProperties).or (structMatch id configureProperties)

def startsNumber : Text → Bool
  | [] => false
  | c :: rest => c.isDigit || (c = '.' && (rest.head?.any Char.isDigit))

def invalidStatement (statement : Text) : MathError :=
  .propertyMatchingError (" invalid __MATH__ statement; '".toList ++ statement ++ ['\''])

def invalidArgument (argument : Text) : MathError :=
  .propertyMatchingError (" invalid __MATH__ argument; '".toList ++ argument ++ ['\''])

def emptyArgument : MathError :=
  .propertyMatchingError " invalid __MATH__ argument (argument empty);".toList

def failedToMatch (id : Text) : MathError :=
  .propertyMatchingError
    (" failed to match component property in __MATH__ statement; property id = ".toList ++ id ++
      " does not exist in component as a configure property".toList)

def evaluateArguments (configureProperties : PropertyList) (argument id math : Text) :
    Except MathError SimpleValue :=
  let operand := ((readRational argument).map Prod.fst).getD 0
  if argument = [] then .error emptyArgument
  else if startsNumber argument then
    match matchingCompProp id configureProperties with
    | none => .error (failedToMatch id)
    | some prop => calculateDynamicProp operand prop math prop.kind
  else .error (invalidArgument argument)

def evaluateStatement (configureProperties : PropertyList) (value : Text) : Except MathError SimpleValue :=
  match value.drop 8 with
  | [] => .error .readsOutside
  | first :: rest =>
    if first = '(' ∧ (first :: rest).getLast? = some ')' then
      match rest.dropLast.splitOn ',' with
      | [argument, id, math] => evaluateArguments configureProperties argument id math
      | args => .error (invalidStatement (args.getLastD []))
    else .error (invalidStatement (first :: rest))

def evaluateValue (configureProperties : PropertyList) :
    SimpleValue → Except MathError SimpleValue
  | .string text =>
    if mark <:+: text then evaluateStatement configureProperties text else .ok (.string text)
  | value => .ok value

def evaluateMathInRequest (configureProperties : PropertyList) :
    PropertyList → Except MathError PropertyList
  | .nil => .ok .nil
  | .simple id value rest =>
    (evaluateValue configureProperties value).bind fun value =>
      (evaluateMathInRequest configureProperties rest).map (.simple id value)
  | .nested id value rest =>
    (evaluateMathInRequest configureProperties value).bind fun value =>
      (evaluateMathInRequest configureProperties rest).map (.nested id value)

end Redhawk.Deployment.MathRequests
