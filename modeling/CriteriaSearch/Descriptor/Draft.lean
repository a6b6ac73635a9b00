import CriteriaSearch.Descriptor

namespace CriteriaSearch

structure DescriptorDraft where
  key : String
  fieldType : Option FieldType
  nullable : Bool
  operators : List Operator
  deriving DecidableEq, Repr

inductive DraftStep where
  | fieldType (t : FieldType)
  | nullable (nullable : Bool)
  | operator (op : Operator)
  | operators (ops : List Operator)
  deriving DecidableEq, Repr

namespace DescriptorDraft

def start (key : String) : DescriptorDraft := ⟨key, none, false, []⟩

def apply (d : DescriptorDraft) : DraftStep → DescriptorDraft
  | .fieldType t => { d with fieldType := some t }
  | .nullable nullable => { d with nullable := nullable }
  | .operator op => { d with operators := d.operators ++ [op] }
  | .operators ops => { d with operators := d.operators ++ ops }

def run (d : DescriptorDraft) (steps : List DraftStep) : DescriptorDraft := steps.foldl apply d

def build (d : DescriptorDraft) : Except SearchError FilterDescriptor :=
  FilterDescriptor.make d.key d.fieldType d.nullable d.operators

end DescriptorDraft

end CriteriaSearch
