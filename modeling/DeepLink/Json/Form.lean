import DeepLink.Json.Basic

namespace DeepLink.Json

inductive Form where
  | whole
  | items (each : Form)
  | record (fields : List (List String × Form))

namespace Form

def member? (name : String) : Form → Option Form
  | record fields => (fields.find? (name ∈ ·.1)).map (·.2)
  | _ => some whole

def item (i : Nat) : Form → Form
  | whole => whole
  | items each => each
  | record fields => (fields[i]?.map (·.2)).getD whole

end Form

end DeepLink.Json
