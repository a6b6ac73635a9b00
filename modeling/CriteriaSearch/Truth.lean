namespace CriteriaSearch

inductive Truth where
  | yes
  | no
  | unknown
  deriving DecidableEq, Repr

namespace Truth

def ofBool (b : Bool) : Truth := if b then .yes else .no

def and : Truth → Truth → Truth
  | .no, _ => .no
  | .yes, t => t
  | .unknown, .no => .no
  | .unknown, _ => .unknown

def or : Truth → Truth → Truth
  | .yes, _ => .yes
  | .no, t => t
  | .unknown, .yes => .yes
  | .unknown, _ => .unknown

def not : Truth → Truth
  | .yes => .no
  | .no => .yes
  | .unknown => .unknown

end Truth

end CriteriaSearch
