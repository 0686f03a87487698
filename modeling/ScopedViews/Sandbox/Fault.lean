import ScopedViews.Number.Shortest
/-!
# Faults of the evaluator

A fault is either an exception, which script code may catch, or a halt, which ends the whole
evaluation.  The wording of each is given once, by `message`.
-/

namespace ScopedViews.Sandbox

/-- Longest array the evaluator builds by growing one. -/
def maxArrayLength : Nat := Nat.pow 2 16

/-- Longest string in bytes that an operator may build. -/
def maxStringLength : Nat := Nat.pow 2 20

/-- Steps that one evaluation may take. -/
def maxSteps : Nat := 1000000

/-- Calls that may be active at once. -/
def maxCallDepth : Nat := 32

/-- Operations on a value of the wrong shape. -/
inductive TypeFault where
  | notFunction (shown : String)
  | noMethod (receiver method : String)
  | notIterable (type : String)
  | readOfNullish (type key : String)
  | writeToNullish (type key : String)
  | arrayProperty (key : String)
  | notSearchable (key type : String)
  | emptyReduce
  | unknownFunction
deriving Repr, DecidableEq

/-- Lengths and depths past their limits. -/
inductive RangeFault where
  | callDepth
  | arrayIndex (key : String)
  | arrayLength (shown : String)
  | invalidArrayLength
  | invalidStringLength
  | fixedDigits
  | repeatCount (shown : String)
deriving Repr, DecidableEq

/-- What a handler may catch. -/
inductive Exception where
  | thrown (text : String)
  | reference (name : String)
  | type (cause : TypeFault)
  | range (cause : RangeFault)
deriving Repr, DecidableEq

/-- Forms that the grammar admits and the evaluator does not run. -/
inductive Construct where
  | statement | expression | chainElement | assignmentTarget | updateTarget
  | destructuringPattern | destructuringParameter | accessorProperty | propertyKey
  | labeledBreak | labeledContinue | forAwait | generatorOrAsyncCall | delete | instanceOf
deriving Repr, DecidableEq

/-- What nothing catches. -/
inductive Halt where
  | stepLimit
  | unsupported (construct : Construct) (offset : Nat)
deriving Repr, DecidableEq

inductive Fault where
  | exception (e : Exception)
  | halt (h : Halt)
deriving Repr, DecidableEq

def TypeFault.message : TypeFault → String
  | .notFunction shown => shown ++ " is not a function"
  | .noMethod receiver method => receiver ++ "." ++ method ++ " is not a function"
  | .notIterable type => type ++ " is not iterable"
  | .readOfNullish type key => "cannot read properties of " ++ type ++ " (reading '" ++ key ++ "')"
  | .writeToNullish type key => "cannot set properties of " ++ type ++ " (setting '" ++ key ++ "')"
  | .arrayProperty key => "cannot set property '" ++ key ++ "' of array"
  | .notSearchable key type => "cannot use 'in' operator to search for '" ++ key ++ "' in " ++ type
  | .emptyReduce => "Reduce of empty array with no initial value"
  | .unknownFunction => "value is not callable"

def RangeFault.message : RangeFault → String
  | .callDepth => "Maximum call stack size exceeded"
  | .arrayIndex key => "array index " ++ key ++ " exceeds the limit of " ++ toString maxArrayLength
  | .arrayLength shown =>
    "array length " ++ shown ++ " exceeds the limit of " ++ toString maxArrayLength
  | .invalidArrayLength => "Invalid array length"
  | .invalidStringLength => "Invalid string length"
  | .fixedDigits => "toFixed() digits argument must be between 0 and 100"
  | .repeatCount shown => "Invalid count value: " ++ shown

def Exception.message : Exception → String
  | .thrown text => "Uncaught " ++ text
  | .reference name => "ReferenceError: " ++ name ++ " is not defined"
  | .type cause => "TypeError: " ++ cause.message
  | .range cause => "RangeError: " ++ cause.message

/-- The text that a handler binds. -/
def Exception.caught : Exception → String
  | .thrown text => text
  | e => e.message

def Construct.text : Construct → String
  | .statement => "statement"
  | .expression => "expression"
  | .chainElement => "chain element"
  | .assignmentTarget => "assignment target"
  | .updateTarget => "update target"
  | .destructuringPattern => "destructuring pattern"
  | .destructuringParameter => "destructuring parameter"
  | .accessorProperty => "accessor property"
  | .propertyKey => "property key"
  | .labeledBreak => "labeled break"
  | .labeledContinue => "labeled continue"
  | .forAwait => "for await"
  | .generatorOrAsyncCall => "generator or async call"
  | .delete => "delete"
  | .instanceOf => "instanceof"

def Halt.message : Halt → String
  | .stepLimit => "evaluation exceeded " ++ toString maxSteps ++ " steps"
  | .unsupported construct offset =>
    "unsupported " ++ construct.text ++ " at offset " ++ toString offset

def Fault.message : Fault → String
  | .exception e => e.message
  | .halt h => h.message

end ScopedViews.Sandbox
