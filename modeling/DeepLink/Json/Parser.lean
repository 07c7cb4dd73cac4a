import DeepLink.Json.Form
import DeepLink.Json.Reader.Ignored
import DeepLink.Json.Reader.Number
import DeepLink.Json.Reader.Text

namespace DeepLink.Json

namespace Reader

structure Enclosure where
  closing : Char
  ended : Cause
  unclosed : Cause

def arrays : Enclosure := ⟨']', .endInList, .noListEnd⟩

def objects : Enclosure := ⟨'}', .endInObject, .noObjectEnd⟩

def pieces {α : Type} (k : Enclosure) (piece : Nat → Reader α) (i : Nat) (s : List Char) : Reading (List α) :=
  match _h : (piece i).read s with
  | .error e => .error e
  | .ok (a, r) =>
    match _hr : skip r with
    | [] => .error (.here k.ended [])
    | c :: t =>
      if c = k.closing then .ok ([a], t)
      else if c = ',' then
        match _ht : skip t with
        | [] => .error (.here .endInValue [])
        | d :: u =>
          if d = k.closing then .error (.here .trailingComma (d :: u))
          else (pieces k piece (i + 1) (d :: u)).as (a :: ·)
      else .error (.here k.unclosed (c :: t))
termination_by s.length
decreasing_by
  have := (piece i).shortens _h
  have := skip_length_le r
  have := skip_length_le t
  simp_all only [List.length_cons]
  omega

theorem pieces_length_lt {α : Type} {k : Enclosure} {piece : Nat → Reader α} {i : Nat} {s r : List Char}
    {as : List α} (h : pieces k piece i s = .ok (as, r)) : r.length < s.length := by
  fun_induction pieces k piece i s generalizing as with
  | case3 i s a t ht u hu =>
    have := (piece i).shortens ht
    have := skip_length_le t
    simp_all only [Except.ok.injEq, Prod.mk.injEq, List.length_cons]
    omega
  | case6 i s a t ht u _ hu d w hw _ ih =>
    obtain ⟨_, hr, _⟩ := Reading.as_eq_ok.1 h
    have := ih hr
    have := (piece i).shortens ht
    have := skip_length_le t
    have := skip_length_le u
    simp_all only [List.length_cons]
    omega
  | _ => simp at h

def member (value : String → Reader Json) : List Char → Reading (String × Json)
  | '"' :: s =>
    match stringTail s with
    | .error e => .error e
    | .ok (name, r) =>
      match skip r with
      | [] => .error (.here .endInObject [])
      | ':' :: t => ((value (String.ofList name)).read t).as (String.ofList name, ·)
      | t => .error (.here .noColon t)
  | s => .error (.here .noKey s)

theorem member_length_lt {value : String → Reader Json} {s r : List Char} {m : String × Json}
    (h : member value s = .ok (m, r)) : r.length < s.length := by
  unfold member at h
  split at h
  · split at h
    · simp at h
    · next name t ht =>
      have := stringTail_length_lt ht
      have := skip_length_le t
      split at h
      · simp at h
      · next u hu =>
        obtain ⟨_, hv, _⟩ := Reading.as_eq_ok.1 h
        have := (value _).shortens hv
        simp_all only [List.length_cons]
        omega
      · simp at h
  · simp at h

def array (item : Nat → Reader Json) (s : List Char) : Reading Json :=
  match skip s with
  | [] => .error (.here .endInList [])
  | ']' :: r => .ok (.array [], r)
  | r => (pieces arrays item 0 r).as .array

def object (value : String → Reader Json) (s : List Char) : Reading Json :=
  match skip s with
  | [] => .error (.here .endInObject [])
  | '}' :: r => .ok (.object [], r)
  | r => (pieces objects (fun _ => ⟨member value, member_length_lt⟩) 0 r).as .object

theorem array_length_le {item : Nat → Reader Json} {s r : List Char} {v : Json}
    (h : array item s = .ok (v, r)) : r.length ≤ s.length := by
  have := skip_length_le s
  unfold array at h
  split at h
  · simp at h
  · simp_all only [Except.ok.injEq, Prod.mk.injEq, List.length_cons]
    omega
  · obtain ⟨_, hr, _⟩ := Reading.as_eq_ok.1 h
    have := pieces_length_lt hr
    omega

theorem object_length_le {value : String → Reader Json} {s r : List Char} {v : Json}
    (h : object value s = .ok (v, r)) : r.length ≤ s.length := by
  have := skip_length_le s
  unfold object at h
  split at h
  · simp at h
  · simp_all only [Except.ok.injEq, Prod.mk.injEq, List.length_cons]
    omega
  · obtain ⟨_, hr, _⟩ := Reading.as_eq_ok.1 h
    have := pieces_length_lt hr
    omega

abbrev Below := Option ((Nat → Reader Json) × (String → Reader Json))

def valueOf (below : Below) (s : List Char) : Reading Json :=
  match skip s with
  | [] => .error (.here .endInValue [])
  | 'n' :: r => literal .null ['u', 'l', 'l'] r
  | 't' :: r => literal (.bool true) ['r', 'u', 'e'] r
  | 'f' :: r => literal (.bool false) ['a', 'l', 's', 'e'] r
  | '"' :: r => (stringTail r).as fun cs => .string (String.ofList cs)
  | '-' :: r => (number true r).as .number
  | '[' :: r =>
    match below with
    | some (item, _) => array item r
    | none => .error (.here .tooDeep ('[' :: r))
  | '{' :: r =>
    match below with
    | some (_, member) => object member r
    | none => .error (.here .tooDeep ('{' :: r))
  | c :: r => if c.isDigit then (number false (c :: r)).as .number else .error (.here .noValue (c :: r))

theorem valueOf_length_lt {below : Below} {s r : List Char} {v : Json} (h : valueOf below s = .ok (v, r)) :
    r.length < s.length := by
  refine Nat.lt_of_lt_of_le ?_ (skip_length_le s)
  unfold valueOf at h
  generalize skip s = t at h
  split at h
  · simp at h
  · exact Nat.lt_succ_of_le (literal_length_le h)
  · exact Nat.lt_succ_of_le (literal_length_le h)
  · exact Nat.lt_succ_of_le (literal_length_le h)
  · obtain ⟨_, hr, _⟩ := Reading.as_eq_ok.1 h
    exact Nat.lt_succ_of_lt (stringTail_length_lt hr)
  · obtain ⟨_, hr, _⟩ := Reading.as_eq_ok.1 h
    exact Nat.lt_succ_of_lt (number_length_lt hr)
  · split at h
    · exact Nat.lt_succ_of_le (array_length_le h)
    · simp at h
  · split at h
    · exact Nat.lt_succ_of_le (object_length_le h)
    · simp at h
  · split at h
    · obtain ⟨_, hr, _⟩ := Reading.as_eq_ok.1 h
      exact number_length_lt hr
    · simp at h

def nothing : Reader Json where
  read s := (ignored s).map (Json.null, ·)
  shortens {s _ _} h := by
    cases hs : ignored s with
    | error => simp [hs, Except.map] at h
    | ok t =>
      simp only [hs, Except.map, Except.ok.injEq, Prod.mk.injEq] at h
      exact h.2 ▸ ignored_length_lt hs

def value : Nat → Form → Reader Json
  | 0, _ => ⟨valueOf none, valueOf_length_lt⟩
  | depth + 1, form =>
    let item (i : Nat) := value depth (form.item i)
    let member (name : String) := (form.member? name).elim nothing (value depth)
    ⟨valueOf (some (item, member)), valueOf_length_lt⟩

def depthLimit : Nat := 127

def document (form : Form) (text : List Char) : Except Fault Json :=
  match (value depthLimit form).read text with
  | .error e => .error e
  | .ok (v, r) =>
    match skip r with
    | [] => .ok v
    | t => .error (.here .trailingText t)

end Reader

def parseAs (form : Form) (text : String) : Except SyntaxError Json :=
  (Reader.document form text.toList).mapError (Fault.toError text.toList)

def parse (text : String) : Except SyntaxError Json := parseAs .whole text

def decode? {α : Type} (form : Form) (read : Json → Option α) (text : String) : Option α :=
  (parseAs form text).toOption.bind read

end DeepLink.Json
