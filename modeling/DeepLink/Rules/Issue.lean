import DeepLink.Number.Decimal
import DeepLink.Json.Fault
import DeepLink.Url.Fault

namespace DeepLink

inductive Step where
  | key (name : String)
  | index (i : Nat)
deriving DecidableEq, Repr

abbrev Path := List Step

def Step.text : Step → String
  | key name => name
  | index i => String.ofList (Decimal.numeral i)

def Path.text : Path → String
  | [] => "$"
  | path => String.intercalate "." (path.map Step.text)

inductive Problem where
  | notObject | notArray | notString | notOs | notStamp | notRollout | notNumber
  | missing
  | badStamp (text : String)
  | duplicate (name : String)
  | unreadable
  | noRule
  | badUri (uri : String) (fault : Url.Fault)
  | emptyTag
  | reversed
  | percentage (x : Binary64)
deriving DecidableEq, Repr

def Problem.message : Problem → String
  | notObject => "expected an object"
  | notArray => "expected an array"
  | notString => "expected a string"
  | notOs => "expected one of iOS, Android, Desktop"
  | notStamp => "expected an RFC 3339 timestamp string"
  | notRollout => "expected a number or an object with 'percentage'"
  | notNumber => "expected a number"
  | missing => "required"
  | badStamp text => s!"invalid RFC 3339 timestamp '{text}'"
  | duplicate name => s!"duplicates '{name}'"
  | unreadable => "expected a rule document"
  | noRule => "at least one rule or a default is required"
  | badUri uri fault => s!"invalid URI '{uri}': {fault.message}"
  | emptyTag => "language tag must not be empty"
  | reversed => "start must not be after end"
  | percentage x => "percentage must be within [0, 100], got " ++ String.ofList x.plain

structure Issue where
  path : Path
  problem : Problem
deriving DecidableEq, Repr

def Issue.text (i : Issue) : String := s!"{i.path.text}: {i.problem.message}"

inductive Invalid where
  | notJson (error : Json.SyntaxError)
  | issues (found : List Issue)
deriving DecidableEq, Repr

namespace Invalid

def found : Invalid → List Issue
  | notJson _ => []
  | issues found => found

def message : Invalid → String
  | notJson error => s!"rule document is not valid JSON: {error.message}"
  | issues found => "invalid rule document: " ++ String.intercalate "; " (found.map Issue.text)

end Invalid

end DeepLink
