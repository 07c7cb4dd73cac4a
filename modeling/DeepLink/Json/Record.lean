import DeepLink.Json.Form

namespace DeepLink.Json

def unique (names : List String) (members : List (String × Json)) : Option (Option Json) :=
  match members.filter (fun m => m.1 ∈ names) with
  | [] => some none
  | [m] => some (some m.2)
  | _ => none

def slots (form : Form) (j : Json) : Option (List (Option Json)) :=
  match form, j with
  | .record fields, object members => fields.mapM fun f => unique f.1 members
  | .record fields, array items =>
    if items.length ≤ fields.length then
      some (items.map some ++ List.replicate (fields.length - items.length) none)
    else none
  | _, _ => none

def optional {α : Type} (read : Json → Option α) : Option Json → Option (Option α)
  | none => some none
  | some null => some none
  | some v => (read v).map some

def withDefault {α : Type} (default : α) (read : Json → Option α) : Option Json → Option α
  | none => some default
  | some v => read v

def required {α : Type} (read : Json → Option α) : Option Json → Option α
  | none => none
  | some v => read v

def list? {α : Type} (read : Json → Option α) : Json → Option (List α)
  | array items => items.mapM read
  | _ => none

def name? : Json → Option String
  | string s => some s
  | object [(s, null)] => some s
  | _ => none

def ofList {α : Type} (write : α → Json) (xs : List α) : Json := array (xs.map write)

theorem list?_ofList {α : Type} {read : Json → Option α} {write : α → Json} {xs : List α}
    (h : ∀ x ∈ xs, read (write x) = some x) : list? read (ofList write xs) = some xs := by
  simp only [list?, ofList]
  induction xs with
  | nil => rfl
  | cons x xs ih =>
    have hx := h x (by simp)
    have hs := ih fun y hy => h y (by simp [hy])
    simp [List.mapM_cons, hx, hs]

end DeepLink.Json
