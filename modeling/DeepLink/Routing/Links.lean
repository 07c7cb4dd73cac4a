import DeepLink.Routing.Evaluation
import DeepLink.Text.Blank

namespace DeepLink

structure Links where
  deepLink : Option String := none
  web : Option String := none
  fallback : Option String := none
deriving DecidableEq, Repr

def Evaluation.links (e : Evaluation) : Links :=
  ⟨e.target.deepLink e.os, e.target.web, e.target.fallbackOrWeb⟩

inductive ActionKind where
  | deepLink | web
deriving DecidableEq, Repr

def ActionKind.name : ActionKind → String
  | deepLink => "deeplink"
  | web => "web"

structure Action where
  kind : ActionKind
  url : String
deriving DecidableEq, Repr

def notBlank (s : Option String) : Option String := s.filter fun s => !Text.allBlank s

def action (deepLink web : Option String) : Option Action :=
  ((notBlank deepLink).map (⟨.deepLink, ·⟩)).or ((notBlank web).map (⟨.web, ·⟩))

end DeepLink
