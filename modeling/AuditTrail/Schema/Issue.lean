/-!
# Schema/Issue — what is wrong with a value, and where

A check gives a valid value or a list of `Issue`s.  Checks are combined with `<$>` and `<*>`, and then
all issues are kept, not only the first.
-/

namespace AuditTrail

/-- The kinds of defects. -/
inductive Defect
  | intParsing | intFromFloat | intType | boolParsing | boolType | floatParsing | floatType
  | stringType | uuidParsing | uuidType | enumeration | frozenSetType | listType | tupleType | pathType
  | modelType | missing | tooLong | tooSmall | extraForbidden | invalidKey | valueError | wrongInstance
  | frozenInstance | finiteNumber
  deriving DecidableEq, Repr

/-- The name of a defect. -/
def Defect.name : Defect → String
  | .intParsing => "int_parsing"
  | .intFromFloat => "int_from_float"
  | .intType => "int_type"
  | .boolParsing => "bool_parsing"
  | .boolType => "bool_type"
  | .floatParsing => "float_parsing"
  | .floatType => "float_type"
  | .stringType => "string_type"
  | .uuidParsing => "uuid_parsing"
  | .uuidType => "uuid_type"
  | .enumeration => "enum"
  | .frozenSetType => "frozen_set_type"
  | .listType => "list_type"
  | .tupleType => "tuple_type"
  | .pathType => "path_type"
  | .modelType => "model_type"
  | .missing => "missing"
  | .tooLong => "too_long"
  | .tooSmall => "greater_than_equal"
  | .extraForbidden => "extra_forbidden"
  | .invalidKey => "invalid_key"
  | .valueError => "value_error"
  | .wrongInstance => "is_instance_of"
  | .frozenInstance => "frozen_instance"
  | .finiteNumber => "finite_number"

/-- **A defect and its place**: the keys and indices that lead to it. -/
structure Issue where
  place : List String
  defect : Defect
  deriving DecidableEq, Repr

/-- The place as one text. -/
def Issue.location (issue : Issue) : String := ".".intercalate issue.place

/-- **The outcome of a check.** -/
inductive Checked (α : Type)
  | valid (value : α)
  | invalid (issues : List Issue)
  deriving Repr

namespace Checked

variable {α β : Type}

/-- A value with one defect at its own place. -/
def defect (d : Defect) : Checked α := invalid [⟨[], d⟩]

/-- The check of a value that stands under a key. -/
def under (key : String) : Checked α → Checked α
  | valid a => valid a
  | invalid issues => invalid (issues.map fun i => { i with place := key :: i.place })

/-- Checks side by side keep the issues of both. -/
instance : Applicative Checked where
  pure := valid
  seq f x := match f, x () with
    | valid f, valid a => valid (f a)
    | valid _, invalid js => invalid js
    | invalid is, valid _ => invalid is
    | invalid is, invalid js => invalid (is ++ js)

/-- A check that follows a check that has passed. -/
def andThen (c : Checked α) (next : α → Checked β) : Checked β :=
  match c with
  | valid a => next a
  | invalid issues => invalid issues

/-- Each of a list of checks side by side. -/
def all : List (Checked α) → Checked (List α)
  | [] => valid []
  | c :: rest => List.cons <$> c <*> all rest

end Checked

end AuditTrail
