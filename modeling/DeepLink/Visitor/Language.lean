import DeepLink.Text.Blank
import DeepLink.Text.Case

namespace DeepLink.Language

inductive Fault where
  | noLetters (input : String)
  | neutral (input : String)
deriving DecidableEq, Repr

def Fault.message : Fault → String
  | noLetters input => s!"invalid language tag '{input}': "
  | neutral input => s!"locale '{input}' names no language"

def neutralNames : List String := ["c", "posix"]

def letters (s : List Char) : List Char := ((Text.trimStart s).takeWhile Char.isAlpha).take 8

def primary (input : String) : Except Fault String :=
  match letters input.toList with
  | [] => .error (.noLetters input)
  | ls =>
    let name := String.ofList (ls.map Char.toLower)
    if neutralNames.contains name then .error (.neutral input) else .ok name

end DeepLink.Language
