import DeepLink.Files.Tree
import DeepLink.Json.Parser

namespace DeepLink

inductive LoadError where
  | notFound (id : String)
  | io (fault : Files.Fault)
  | notJson (error : Json.SyntaxError)
  | other (text : String)
deriving DecidableEq, Repr

def LoadError.message : LoadError → String
  | notFound id => s!"no rules found for id '{id}'"
  | io fault => s!"failed to read rules: {fault.message}"
  | notJson error => s!"rules payload is not valid JSON: {error.message}"
  | other text => text

structure Loader where
  delay : Nat := 0
  load : String → Except LoadError Json

namespace Loader

def fixed (value : Json) : Loader where
  load _ := .ok value

def isUnsafe (id : String) : Bool :=
  id.isEmpty || id.toList.contains '/' || id.toList.contains '\\' || Text.contains ['.', '.'] id.toList

def loadFile (root : Files.Node) (dir id : String) : Except LoadError Json :=
  if isUnsafe id then .error (.notFound id)
  else match root.read (Files.join dir (id ++ ".json")) with
    | .error .notFound => .error (.notFound id)
    | .error fault => .error (.io fault)
    | .ok text =>
      match Json.parse text with
      | .ok value => .ok value
      | .error e => .error (.notJson e)

def directory (root : Files.Node) (dir : String) : Loader where
  load := loadFile root dir

end Loader

end DeepLink
