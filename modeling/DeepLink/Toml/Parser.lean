import DeepLink.Number.Decimal
import DeepLink.Time.Calendar
import DeepLink.Toml.Value

namespace DeepLink.Toml

abbrev Reader (α : Type) := List Char → Option (α × List Char)

def isGap (c : Char) : Bool := c = ' ' || c = '\t'

def gap (s : List Char) : List Char := s.dropWhile isGap

def isText (c : Char) : Bool := c = '\t' || (0x20 ≤ c.toNat && c.toNat ≠ 0x7F)

def comment : List Char → List Char
  | '#' :: s => s.dropWhile isText
  | s => s

def lineEnd : List Char → Option (List Char)
  | [] => some []
  | '\n' :: s => some s
  | '\r' :: '\n' :: s => some s
  | _ => none

def restOfLine (s : List Char) : Option (List Char) := lineEnd (comment (gap s))

def blankLines (s : List Char) : List Char :=
  match comment (gap s) with
  | '\n' :: r => if r.length < s.length then blankLines r else s
  | '\r' :: '\n' :: r => if r.length < s.length then blankLines r else s
  | r => r
termination_by s.length

def hexValue? (c : Char) : Option Nat :=
  if '0' ≤ c ∧ c ≤ '9' then some (c.toNat - 48)
  else if 'a' ≤ c ∧ c ≤ 'f' then some (c.toNat - 87)
  else if 'A' ≤ c ∧ c ≤ 'F' then some (c.toNat - 55)
  else none

def codePoint (width : Nat) : Reader Char := fun s => do
  let ds ← (s.take width).mapM hexValue?
  let n := ds.foldl (fun n d => n * 16 + d) 0
  if ds.length = width ∧ n.isValidChar then some (Char.ofNat n, s.drop width) else none

def escape : Reader Char
  | 'b' :: s => some ('\x08', s)
  | 't' :: s => some ('\t', s)
  | 'n' :: s => some ('\n', s)
  | 'f' :: s => some ('\x0c', s)
  | 'r' :: s => some ('\r', s)
  | '"' :: s => some ('"', s)
  | '\\' :: s => some ('\\', s)
  | 'u' :: s => codePoint 4 s
  | 'U' :: s => codePoint 8 s
  | _ => none

def basic : Reader (List Char)
  | [] => none
  | '"' :: s => some ([], s)
  | '\\' :: s => do
    let (c, r) ← escape s
    if r.length ≤ s.length then
      let (cs, t) ← basic r
      some (c :: cs, t)
    else none
  | c :: s =>
    if isText c then do
      let (cs, t) ← basic s
      some (c :: cs, t)
    else none
termination_by s => s.length

def plain : Reader (List Char)
  | [] => none
  | '\'' :: s => some ([], s)
  | c :: s =>
    if isText c then do
      let (cs, t) ← plain s
      some (c :: cs, t)
    else none

def closing (quote : Char) (s : List Char) : Option (Nat × List Char) :=
  let n := (s.takeWhile (· = quote)).length
  if 3 ≤ n then some (min n 5 - 3, s.drop (min n 5)) else none

def foldLine : List Char → List Char
  | '\r' :: '\n' :: s => foldLine s
  | c :: s => if isGap c || c = '\n' then foldLine s else c :: s
  | [] => []

def joinsLines (s : List Char) : Bool :=
  match gap s with
  | '\n' :: _ => true
  | '\r' :: '\n' :: _ => true
  | _ => false

def lines (quote : Char) (s : List Char) : Option (List Char × List Char) :=
  match closing quote s with
  | some (n, r) => some (List.replicate n quote, r)
  | none =>
    match s with
    | [] => none
    | '\r' :: '\n' :: r => do
      let (cs, t) ← lines quote r
      some ('\n' :: cs, t)
    | '\n' :: r => do
      let (cs, t) ← lines quote r
      some ('\n' :: cs, t)
    | c :: r =>
      if c = '\\' ∧ quote = '"' then
        if joinsLines r then
          if (foldLine r).length ≤ r.length then lines quote (foldLine r) else none
        else do
          let (c, t) ← escape r
          if t.length ≤ r.length then
            let (cs, t) ← lines quote t
            some (c :: cs, t)
          else none
      else if isText c then do
        let (cs, t) ← lines quote r
        some (c :: cs, t)
      else none
termination_by s.length

def afterOpening : List Char → List Char
  | '\n' :: s => s
  | '\r' :: '\n' :: s => s
  | s => s

def isBare (c : Char) : Bool := c.isAlphanum || c = '_' || c = '-'

def simpleKey : Reader String
  | '"' :: s => (basic s).map fun (cs, t) => (String.ofList cs, t)
  | '\'' :: s => (plain s).map fun (cs, t) => (String.ofList cs, t)
  | s =>
    if (s.takeWhile isBare).isEmpty then none
    else some (String.ofList (s.takeWhile isBare), s.dropWhile isBare)

def depthLimit : Nat := 79

def dotted (s : List Char) : Option (List String × List Char) := do
  let (k, r) ← simpleKey (gap s)
  match gap r with
  | '.' :: t =>
    if t.length < s.length then
      let (ks, u) ← dotted t
      some (k :: ks, u)
    else none
  | t => some ([k], t)
termination_by s.length

def key (s : List Char) : Option (List String × List Char) :=
  (dotted s).filter (·.1.length ≤ depthLimit)

def grouped (isDigit : Char → Bool) (after : Bool) : List Char → Option (List Char × List Char)
  | [] => if after then some ([], []) else none
  | c :: s =>
    if isDigit c then (grouped isDigit true s).map fun (ds, t) => (c :: ds, t)
    else if c = '_' ∧ after then grouped isDigit false s
    else if after then some ([], c :: s) else none

def valueIn (base : Nat) (ds : List Char) : Nat :=
  ds.foldl (fun n c => n * base + (hexValue? c).getD 0) 0

def sign : List Char → Option Bool × List Char
  | '+' :: s => (some false, s)
  | '-' :: s => (some true, s)
  | s => (none, s)

def whole : Reader (List Char)
  | '0' :: s => some (['0'], s)
  | s => grouped Char.isDigit false s

def inRange (i : Int) : Bool := -0x8000000000000000 ≤ i && i < 0x8000000000000000

def based (base : Nat) (s : List Char) : Option (Value × List Char) := do
  let (ds, t) ← grouped (fun c => (hexValue? c).any (· < base)) false s
  let n := valueIn base ds
  if inRange n then some (.integer n, t) else none

def integer : Reader Value
  | '0' :: 'x' :: s => based 16 s
  | '0' :: 'o' :: s => based 8 s
  | '0' :: 'b' :: s => based 2 s
  | s => do
    let (negative, s) := sign s
    let (ds, t) ← whole s
    let n : Int := valueIn 10 ds
    let i := if negative = some true then -n else n
    if inRange i then some (.integer i, t) else none

def power (ds : List Char) : Int :=
  -- a larger one makes no difference any more
  ds.foldl (fun n c => if n < 65536 then n * 10 + (c.toNat - 48 : Nat) else n) 0

def exponent : Reader (Option Int)
  | 'e' :: s => digits s
  | 'E' :: s => digits s
  | s => some (none, s)
where
  digits (s : List Char) : Option (Option Int × List Char) := do
    let (negative, s) := sign s
    let (ds, t) ← grouped Char.isDigit false s
    some (some (if negative = some true then -power ds else power ds), t)

def magnitude (digits : List Char) (scale : Int) : Binary64 :=
  let digits := digits.dropWhile (· = '0')
  let order := digits.length + scale
  if digits.isEmpty ∨ order < -400 then .zero
  else if 400 < order then .infinite false
  else Decimal.toBinary ⟨valueIn 10 digits, scale⟩

def float (s : List Char) : Option (Value × List Char) := do
  let (negative, r) := sign s
  match r with
  | 'i' :: 'n' :: 'f' :: t => some (.float "inf", t)
  | 'n' :: 'a' :: 'n' :: t => some (.float "nan", t)
  | _ =>
    let (ds, r) ← whole r
    let (fs, r) ← match r with
      | '.' :: t => (grouped Char.isDigit false t).map fun (fs, u) => (some fs, u)
      | _ => some (none, r)
    let (e, r) ← exponent r
    if fs.isNone ∧ e.isNone then none
    else
      let x := magnitude (ds ++ fs.getD []) (e.getD 0 - (fs.getD []).length)
      if x.isFinite ∨ negative = some true then
        some (.float (String.ofList (s.take (s.length - r.length))), r)
      else none

def fixed (width : Nat) : Reader Nat := fun s =>
  let ds := s.take width
  if ds.length = width ∧ ds.all Char.isDigit then some (valueIn 10 ds, s.drop width) else none

def after (c : Char) : List Char → Option (List Char)
  | x :: s => if x = c then some s else none
  | [] => none

def date (s : List Char) : Option (List Char) := do
  let (y, s) ← fixed 4 s
  let s ← after '-' s
  let (m, s) ← fixed 2 s
  let s ← after '-' s
  let (d, s) ← fixed 2 s
  if (Date.mk y m d).Valid then some s else none

def time (s : List Char) : Option (List Char) := do
  let (h, s) ← fixed 2 s
  let s ← after ':' s
  let (m, s) ← fixed 2 s
  let s ← after ':' s
  let (x, s) ← fixed 2 s
  if h ≤ 23 ∧ m ≤ 59 ∧ x ≤ 60 then
    match s with
    | '.' :: t => if (t.takeWhile Char.isDigit).isEmpty then none else some (t.dropWhile Char.isDigit)
    | _ => some s
  else none

def offset (s : List Char) : Option (List Char) :=
  match s with
  | 'Z' :: t => some t
  | 'z' :: t => some t
  | c :: t =>
    if c = '+' ∨ c = '-' then do
      let (h, t) ← fixed 2 t
      let t ← after ':' t
      let (m, t) ← fixed 2 t
      if h ≤ 23 ∧ m ≤ 59 then some t else none
    else some s
  | [] => some s

def timeOfDate (s : List Char) : Option (List Char) :=
  match s with
  | c :: t =>
    if c = 'T' ∨ c = 't' ∨ c = ' ' ∧ (t.head?.any Char.isDigit) then do
      let t ← time t
      offset t
    else some s
  | [] => some s

def moment (s : List Char) : Option (Value × List Char) := do
  let r ← ((date s).bind timeOfDate).or (time s)
  some (.moment (String.ofList (s.take (s.length - r.length))), r)

def scalar (s : List Char) : Option (Value × List Char) := ((moment s).or (float s)).or (integer s)

def items (value : Reader Value) (s : List Char) : Option (List Value × List Char) :=
  match blankLines s with
  | ']' :: t => some ([], t)
  | r => do
    let (v, t) ← value r
    match blankLines t with
    | ']' :: u => some ([v], u)
    | ',' :: u =>
      if u.length < s.length then
        let (vs, w) ← items value u
        some (v :: vs, w)
      else none
    | _ => none
termination_by s.length

def pair (value : Reader Value) : Reader (List String × String × Value) := fun s => do
  let (ks, r) ← key s
  let k ← ks.getLast?
  let r ← after '=' (gap r)
  let (v, r) ← value (gap r)
  some ((ks.dropLast, k, v), r)

def pairs (value : Reader Value) (s : List Char) : Option (List (List String × String × Value) × List Char) := do
  let (p, r) ← pair value s
  match gap r with
  | '}' :: t => some ([p], t)
  | ',' :: t =>
    if t.length < s.length then
      let (ps, u) ← pairs value t
      some (p :: ps, u)
    else none
  | _ => none
termination_by s.length

def value : Nat → Reader Value
  | _, '"' :: '"' :: '"' :: s =>
    (lines '"' (afterOpening s)).map fun (cs, t) => (.string (String.ofList cs), t)
  | _, '"' :: s => (basic s).map fun (cs, t) => (.string (String.ofList cs), t)
  | _, '\'' :: '\'' :: '\'' :: s =>
    (lines '\'' (afterOpening s)).map fun (cs, t) => (.string (String.ofList cs), t)
  | _, '\'' :: s => (plain s).map fun (cs, t) => (.string (String.ofList cs), t)
  | depth + 1, '[' :: s => (items (value depth) s).map fun (vs, t) => (.array vs, t)
  | depth + 1, '{' :: s =>
    match gap s with
    | '}' :: t => some (.table .inline [], t)
    | t => do
      let (ps, u) ← pairs (value depth) t
      let entries ← inlineTable ps
      some (.table .inline entries, u)
  | _, 't' :: 'r' :: 'u' :: 'e' :: s => some (.boolean true, s)
  | _, 'f' :: 'a' :: 'l' :: 's' :: 'e' :: s => some (.boolean false, s)
  | _, s => scalar s

def header (s : List Char) : Option (List String × String × List Char) := do
  let (ks, r) ← key s
  let k ← ks.getLast?
  some (ks.dropLast, k, r)

def document (here : List String) (root : Entries) (s : List Char) : Option Entries := do
  match blankLines s with
  | [] => some root
  | '[' :: '[' :: r =>
    let (path, name, r) ← header r
    let r ← after ']' r
    let r ← after ']' r
    let t ← restOfLine r
    let (_, root) ← openRow path name .header root
    if t.length < s.length then document (path ++ [name]) root t else none
  | '[' :: r =>
    let (path, name, r) ← header r
    let r ← after ']' r
    let t ← restOfLine r
    let (_, root) ← openTable path name .header root
    if t.length < s.length then document (path ++ [name]) root t else none
  | r =>
    let ((path, name, v), r) ← pair (value depthLimit) r
    let t ← restOfLine r
    let (_, root) ← descend false (addValue path name v) here .header root
    if t.length < s.length then document here root t else none
termination_by s.length

def parse (text : String) : Option Entries :=
  match text.toList with
  | '\uFEFF' :: s => document [] [] s
  | s => document [] [] s

end DeepLink.Toml
