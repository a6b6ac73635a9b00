namespace CriteriaSearch.Text

def startsWith (part whole : List Char) : Bool := part.isPrefixOf whole

def endsWith (part whole : List Char) : Bool := part.reverse.isPrefixOf whole.reverse

/-- `part` occurs in `whole` without a gap; the empty text occurs in every text. -/
def occursIn (part : List Char) : List Char → Bool
  | [] => part.isEmpty
  | c :: rest => startsWith part (c :: rest) || occursIn part rest

end CriteriaSearch.Text
