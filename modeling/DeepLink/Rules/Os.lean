import DeepLink.Json.Record

namespace DeepLink

inductive Os where
  | iOS | android | desktop
deriving DecidableEq, Repr

namespace Os

def all : List Os := [iOS, android, desktop]

def name : Os → String
  | iOS => "iOS"
  | android => "Android"
  | desktop => "Desktop"

def ofName? (name : String) : Option Os := all.find? (·.name = name)

theorem ofName?_name (os : Os) : ofName? os.name = some os := by cases os <;> decide

def toJson (os : Os) : Json := .string os.name

def ofJson? (j : Json) : Option Os := j.name?.bind ofName?

end Os

end DeepLink
