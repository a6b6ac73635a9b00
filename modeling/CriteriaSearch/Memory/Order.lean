import CriteriaSearch.Compiled
import CriteriaSearch.Memory.Evaluation

namespace CriteriaSearch

namespace Json

def kindRank : Json → Nat
  | .null => 0
  | .integer _ | .float _ => 1
  | .text _ => 2
  | .object _ => 3
  | .array _ => 4
  | .boolean _ => 5

def comparePresent : Json → Json → Ordering
  | .text a, .text b => compareText a b
  | .boolean a, .boolean b => compareBool a b
  | a, b =>
    match a.number?, b.number? with
    | some x, some y => (x.compare y).getD .eq
    | _, _ => compare a.kindRank b.kindRank

def compareOptional (a b : Option Json) : Ordering :=
  let present (v : Option Json) : Option Json := v.filter fun
    | .null => false
    | _ => true
  match present a, present b with
  | none, none => .eq
  | none, some _ => .lt
  | some _, none => .gt
  | some a, some b => comparePresent a b

end Json

def TypedSort.compareRows (s : TypedSort) (a b : Json) : Ordering :=
  s.direction.apply (Json.compareOptional (a.field? s.key) (b.field? s.key))

/-- The order of two rows by the first sort on which they differ. -/
def compareRows : List TypedSort → Json → Json → Ordering
  | [], _, _ => .eq
  | s :: sorts, a, b => (s.compareRows a b).then (compareRows sorts a b)

end CriteriaSearch
