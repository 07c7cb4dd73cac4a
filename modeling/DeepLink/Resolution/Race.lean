import DeepLink.Resolution.Scene

/-!
The race after a deep link: the page hides, which means that the app opened; or the time is over and
the visitor goes to the fallback; or, without a fallback, some more time passes and the app is taken to
have opened.
-/

namespace DeepLink

inductive Ending where
  | hidden
  | timeout (fallback : String)
  | backstop
deriving DecidableEq, Repr

def backstop : Span := ⟨250, by decide⟩

def earliest {α : Type} (last : Nat × α) : List (Nat × α) → Nat × α
  | [] => last
  | x :: rest => if x.1 ≤ (earliest last rest).1 then x else earliest last rest

/-- When and how a race ends that begins at a time: ties go to the page that hides, then to the
fallback. -/
def settle (hidden : Option Nat) (start timeout last : Nat) (fallback : Option String) : Nat × Ending :=
  earliest (afterWait start last, .backstop)
    ((hidden.map (·, Ending.hidden)).toList ++
      (fallback.map fun url => (afterWait start timeout, Ending.timeout url)).toList)

namespace Scene

def goTo (s : Scene) (o : Options) (env : Environment) (r : Resolved) (url : String) (used : Used) :
    Option Resolved × Scene :=
  match s.navigate o env url with
  | (none, s) => (some { r with used := used }, s)
  | (some refusal, s) => (some { r with used := .nothing, error := some refusal }, s)

/-- Goes to a deep link, and on from there. Only what is sent after the subscription counts. There is no result where
the timeout and the backstop add up to more than a duration can be. -/
def race (s : Scene) (o : Options) (env : Environment) (r : Resolved) (deepLink : String) :
    Option Resolved × Scene :=
  let seen := (s.channel.subscribe env.reports).map fun _ => s.channel.version
  match s.navigate o env deepLink with
  | (some refusal, s) =>
    let r := { r with error := some refusal }
    match r.links.fallback with
    | some url => s.goTo o env r url .fallback
    | none => (some r, s)
  | (none, s) =>
    match o.timeout.add? backstop with
    | none => (none, s)
    | some last =>
      let hidden := seen.bind fun seen => hiddenFrom seen s.channel s.clock s.ahead
      match settle hidden s.clock o.timeout.ms last.ms r.links.fallback with
      | (time, .timeout url) => (s.advance time).goTo o env r url .fallback
      | (time, _) => (some { r with used := .deepLink }, s.advance time)

end Scene

end DeepLink
