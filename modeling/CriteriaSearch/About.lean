namespace CriteriaSearch

def engineName : String := "dynamic-search"

def engineVersion : String := "0.1.0"

def programName : String := "dynsearch-demo"

end CriteriaSearch
