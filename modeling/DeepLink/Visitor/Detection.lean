import DeepLink.Routing.Context
import DeepLink.Visitor.Environment
import DeepLink.Visitor.Language
import DeepLink.Visitor.UserAgent

namespace DeepLink

structure Overrides where
  os : Option Os := none
  lang : Option String := none
  now : Option Instant := none
  identity : Option String := none
  bucket : Option Nat := none
deriving DecidableEq, Repr

def defaultLanguage : String := "en"

def languageOf (raw : Option String) : String :=
  match raw.map Language.primary with
  | some (.ok name) => name
  | _ => defaultLanguage

def rolloutKey (o : Overrides) (draw : Nat) : RolloutKey :=
  match o.bucket, o.identity with
  | some n, _ => .bucket (min n 99)
  | none, some name => .identity name
  | none, none => .bucket (draw % 100)

def detect (o : Overrides) (env : Environment) (draw : Nat) : Context where
  os := o.os.getD (env.userAgent.elim .desktop UserAgent.classify)
  lang := languageOf (o.lang.or env.language)
  now := o.now.getD env.now
  rollout := rolloutKey o draw

end DeepLink
