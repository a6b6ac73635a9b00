import CriteriaSearch.Predicate
import CriteriaSearch.Value.Document

namespace CriteriaSearch

namespace Comparison

def name : Comparison → String
  | .equal => "Eq"
  | .notEqual => "Ne"
  | .less => "Lt"
  | .greater => "Gt"

def ofName? (s : String) : Option Comparison :=
  [Comparison.equal, .notEqual, .less, .greater].find? fun c => c.name == s

end Comparison

namespace TextMode

def name : TextMode → String
  | .contains => "Contains"
  | .startsWith => "StartsWith"
  | .endsWith => "EndsWith"

def ofName? (s : String) : Option TextMode :=
  [TextMode.contains, .startsWith, .endsWith].find? fun m => m.name == s

end TextMode

namespace Predicate

mutual

def toJson : Predicate → Json
  | .and parts => .object [("And", .array (toJsonList parts))]
  | .or parts => .object [("Or", .array (toJsonList parts))]
  | .not part => .object [("Not", toJson part)]
  | .compare field c value =>
    .object [("Compare", .object [("field", .text field), ("op", .text c.name),
      ("value", value.toJson)])]
  | .range field lower upper =>
    .object [("Range", .object [("field", .text field), ("lower", lower.toJson),
      ("upper", upper.toJson)])]
  | .oneOf field values =>
    .object [("In", .object [("field", .text field),
      ("values", .array (values.map FieldValue.toJson))])]
  | .textMatch field mode text =>
    .object [("TextMatch", .object [("field", .text field), ("mode", .text mode.name),
      ("text", .text text)])]
  | .isNull field => .object [("IsNull", .object [("field", .text field)])]
  | .isNotNull field => .object [("IsNotNull", .object [("field", .text field)])]

def toJsonList : List Predicate → List Json
  | [] => []
  | p :: ps => toJson p :: toJsonList ps

end

/-- The test that a document names by `kind` and describes by `body`. -/
def leafOfJson? (kind : String) (body : Json) : Option Predicate := do
  let field ← (← body.field? "field").text?
  match kind with
  | "Compare" =>
    some (.compare field (← (← (← body.field? "op").text?) |> Comparison.ofName?)
      (← FieldValue.ofJson? (← body.field? "value")))
  | "Range" =>
    some (.range field (← FieldValue.ofJson? (← body.field? "lower"))
      (← FieldValue.ofJson? (← body.field? "upper")))
  | "In" => some (.oneOf field (← (← body.field? "values").list? FieldValue.ofJson?))
  | "TextMatch" =>
    some (.textMatch field (← (← (← body.field? "mode").text?) |> TextMode.ofName?)
      (← (← body.field? "text").text?))
  | "IsNull" => some (.isNull field)
  | "IsNotNull" => some (.isNotNull field)
  | _ => none

mutual

def ofJson? : Json → Option Predicate
  | .object fields => ofFields? fields
  | _ => none

def ofFields? : List (String × Json) → Option Predicate
  | [("And", .array items)] => (ofJsonList? items).map .and
  | [("Or", .array items)] => (ofJsonList? items).map .or
  | [("Not", part)] => (ofJson? part).map .not
  | [(kind, body)] => leafOfJson? kind body
  | _ => none

def ofJsonList? : List Json → Option (List Predicate)
  | [] => some []
  | j :: js => do
    let p ← ofJson? j
    let ps ← ofJsonList? js
    some (p :: ps)

end

end Predicate

end CriteriaSearch
