import DeepLink.Json.Record
import DeepLink.Proofs.Json.Number
import DeepLink.Proofs.Json.Text

namespace DeepLink.Json

def Number.ReadsBack (n : Number) : Prop := parse (String.ofList n.chars) = .ok (.number n)

instance (n : Number) : Decidable n.ReadsBack :=
  decidable_of_iff ((parse (String.ofList n.chars)).toOption.bind number? = some n) (by
    unfold Number.ReadsBack
    rcases parse (String.ofList n.chars) with e | v
    · simp [Except.toOption]
    · cases v <;> simp [Except.toOption, number?])

def Legible : Nat → Json → Prop
  | _, number n => n.ReadsBack
  | d + 1, array items => ∀ v ∈ items, Legible d v
  | d + 1, object members => ∀ m ∈ members, Legible d m.2
  | 0, array _ => False
  | 0, object _ => False
  | _, _ => True

def Fits : Nat → Form → Json → Prop
  | _, _, number n => n.ReadsBack
  | d + 1, form, array items => ∀ v ∈ items, ∀ i, Fits d (form.item i) v
  | d + 1, form, object members => ∀ m ∈ members, ∃ wanted, form.member? m.1 = some wanted ∧ Fits d wanted m.2
  | 0, _, array _ => False
  | 0, _, object _ => False
  | _, _, _ => True

theorem fits_number {d : Nat} {form : Form} {n : Number} : Fits d form (number n) ↔ n.ReadsBack := by
  cases d <;> exact Iff.rfl

theorem fits_whole {d : Nat} {v : Json} : Fits d .whole v ↔ Legible d v := by
  induction d generalizing v with
  | zero => cases v <;> exact Iff.rfl
  | succ d ih =>
    cases v with
    | array items => exact forall₂_congr fun v _ => forall_const Nat |>.trans ih
    | object members =>
      have member (m : String × Json) : (∃ wanted, Form.member? m.1 .whole = some wanted ∧ Fits d wanted m.2) ↔
          Legible d m.2 := by
        rw [← ih]
        constructor
        · rintro ⟨_, ⟨⟩, fits⟩
          exact fits
        · intro fits
          exact ⟨.whole, rfl, fits⟩
      exact forall₂_congr fun m _ => member m
    | _ => exact Iff.rfl

theorem Fits.legible {d : Nat} {form : Form} {v : Json} (h : Fits d form v) : Legible d v := by
  induction d generalizing form v with
  | zero => cases v <;> exact h
  | succ d ih =>
    cases v with
    | array items => exact fun v hv => ih (h v hv 0)
    | object members =>
      intro m hm
      obtain ⟨wanted, -, fits⟩ := h m hm
      exact ih fits
    | _ => exact h

namespace Reader

theorem literal_value {α : Type} {value a : α} {xs s r : List Char} (h : literal value xs s = .ok (a, r)) :
    a = value := by
  fun_induction literal value xs s with
  | case1 => simp_all
  | case2 => simp at h
  | case3 xs c s ih => exact ih h
  | case4 => simp at h

theorem array_value {item : Nat → Reader Json} {s r : List Char} {v : Json} (h : array item s = .ok (v, r)) :
    ∃ vs, v = .array vs := by
  unfold array at h
  split at h
  · simp at h
  · simp only [Except.ok.injEq, Prod.mk.injEq] at h
    exact ⟨[], h.1.symm⟩
  · obtain ⟨vs, -, hv⟩ := Reading.as_eq_ok.1 h
    exact ⟨vs, hv.symm⟩

theorem object_value {value : String → Reader Json} {s r : List Char} {v : Json}
    (h : object value s = .ok (v, r)) : ∃ ms, v = .object ms := by
  unfold object at h
  split at h
  · simp at h
  · simp only [Except.ok.injEq, Prod.mk.injEq] at h
    exact ⟨[], h.1.symm⟩
  · obtain ⟨ms, -, hv⟩ := Reading.as_eq_ok.1 h
    exact ⟨ms, hv.symm⟩

theorem number_of_valueOf {below : Below} {s r : List Char} {n : Number} (hs : Solid s)
    (h : valueOf below s = .ok (.number n, r)) :
    (∃ u, s = '-' :: u ∧ number true u = .ok (n, r)) ∨
      ∃ c u, s = c :: u ∧ c.isDigit ∧ number false (c :: u) = .ok (n, r) := by
  unfold valueOf at h
  rw [hs.skip_eq] at h
  split at h
  · simp at h
  · cases literal_value h
  · cases literal_value h
  · cases literal_value h
  · obtain ⟨_, -, hv⟩ := Reading.as_eq_ok.1 h
    cases hv
  · obtain ⟨m, hm, hv⟩ := Reading.as_eq_ok.1 h
    cases hv
    exact .inl ⟨_, rfl, hm⟩
  · split at h
    · obtain ⟨_, hv⟩ := array_value h
      cases hv
    · simp at h
  · split at h
    · obtain ⟨_, hv⟩ := object_value h
      cases hv
    · simp at h
  · split at h
    · next hc =>
      obtain ⟨m, hm, hv⟩ := Reading.as_eq_ok.1 h
      cases hv
      exact .inr ⟨_, _, rfl, hc, hm⟩
    · simp at h

theorem valueOf_minus (below : Below) (s : List Char) :
    valueOf below ('-' :: s) = (number true s).as .number := rfl

theorem valueOf_digit (below : Below) {c : Char} (hc : c.isDigit) (s : List Char) :
    valueOf below (c :: s) = (number false (c :: s)).as .number := by
  have skipped : skip (c :: s) = c :: s :=
    List.dropWhile_cons_of_neg (by simp [isSpace_of_isDigit hc])
  unfold valueOf
  rw [skipped]
  split
  case h_9 he =>
    cases he
    exact if_pos hc
  all_goals simp_all

def Opens (s : List Char) : Prop := ∃ c u, s = c :: u ∧ isSpace c = false ∧ c ≠ ']' ∧ c ≠ '}'

theorem Opens.append {s : List Char} (h : Opens s) (t : List Char) : Opens (s ++ t) := by
  obtain ⟨c, u, rfl, hc⟩ := h
  exact ⟨c, u ++ t, rfl, hc⟩

theorem Opens.skip_eq {s : List Char} (h : Opens s) : skip s = s := by
  obtain ⟨c, u, rfl, hc, -⟩ := h
  exact List.dropWhile_cons_of_neg (by simp [hc])

theorem pieces_last {α : Type} {k : Enclosure} {piece : Nat → Reader α} {i : Nat} {s t : List Char} {a : α}
    (hk : isSpace k.closing = false) (h : (piece i).read s = .ok (a, k.closing :: t)) :
    pieces k piece i s = .ok ([a], t) := by
  have skipped : skip (k.closing :: t) = k.closing :: t := List.dropWhile_cons_of_neg (by simp [hk])
  rw [pieces]
  split
  · simp_all
  · next b r hr =>
    rw [h] at hr
    cases hr
    split
    · next he => simp_all
    · next c u he =>
      rw [skipped] at he
      cases he
      rw [if_pos rfl]

theorem pieces_more {α : Type} {k : Enclosure} {piece : Nat → Reader α} {i : Nat} {s t : List Char} {a : α}
    (hk : k.closing = ']' ∨ k.closing = '}') (h : (piece i).read s = .ok (a, ',' :: t)) (ht : Opens t) :
    pieces k piece i s = (pieces k piece (i + 1) t).as (a :: ·) := by
  have comma : ',' ≠ k.closing := by rcases hk with hk | hk <;> rw [hk] <;> decide
  have skipped : skip (',' :: t) = ',' :: t := rfl
  have unspaced := ht.skip_eq
  obtain ⟨d, u, rfl, -, hd⟩ := ht
  have opened : d ≠ k.closing := by
    rcases hk with hk | hk <;> rw [hk]
    · exact hd.1
    · exact hd.2
  rw [pieces]
  split
  · simp_all
  · next b r hr =>
    rw [h] at hr
    cases hr
    split
    · next he => simp_all
    · next c v he =>
      rw [skipped] at he
      cases he
      rw [if_neg comma, if_pos rfl]
      split
      · next hv => simp_all
      · next e v hv =>
        rw [unspaced] at hv
        cases hv
        rw [if_neg opened]

theorem opens_joined {α : Type} {write : α → List Char} {join : List α → List Char}
    (one : ∀ a, join [a] = write a) (more : ∀ a b as, join (a :: b :: as) = write a ++ ',' :: join (b :: as))
    {a : α} (h : Opens (write a)) (as : List α) (t : List Char) : Opens (join (a :: as) ++ t) := by
  cases as with
  | nil =>
    rw [one]
    exact h.append t
  | cons b as =>
    rw [more]
    exact (h.append _).append t

theorem pieces_joined {α : Type} {k : Enclosure} {piece : Nat → Reader α} {write : α → List Char}
    {join : List α → List Char} (hk : k.closing = ']' ∨ k.closing = '}')
    (one : ∀ a, join [a] = write a) (more : ∀ a b as, join (a :: b :: as) = write a ++ ',' :: join (b :: as))
    {a : α} {as : List α} (opens : ∀ b ∈ a :: as, Opens (write b))
    (reads : ∀ b ∈ a :: as, ∀ i t, Stops t → (piece i).read (write b ++ t) = .ok (b, t)) (i : Nat)
    (t : List Char) : pieces k piece i (join (a :: as) ++ k.closing :: t) = .ok (a :: as, t) := by
  have closing : isSpace k.closing = false ∧ Stops (k.closing :: t) := by
    rcases hk with hk | hk <;> rw [hk] <;> exact ⟨rfl, stops_cons t (by decide)⟩
  -- The induction is on the pieces left; each is read up to the comma or the bracket after it.
  induction as generalizing a i with
  | nil =>
    rw [one]
    exact pieces_last closing.1 (reads a List.mem_cons_self i _ closing.2)
  | cons b as ih =>
    have rest := ih (fun c hc => opens c (List.mem_cons_of_mem a hc))
      (fun c hc => reads c (List.mem_cons_of_mem a hc)) (i + 1)
    have first := reads a List.mem_cons_self i (',' :: (join (b :: as) ++ k.closing :: t))
      (stops_cons _ (by decide))
    have opened := opens_joined one more (opens b (by simp)) as (k.closing :: t)
    rw [more, List.append_assoc, List.cons_append, pieces_more hk first opened, rest]
    rfl

theorem opens_digit {c : Char} (hc : c.isDigit) (s : List Char) : Opens (c :: s) := by
  refine ⟨c, s, rfl, ?_, ?_, ?_⟩
  · exact isSpace_of_isDigit hc
  · rintro rfl
    simp at hc
  · rintro rfl
    simp at hc

theorem read_zero (form : Form) : (value 0 form).read = valueOf none := by rw [value]

theorem read_succ (depth : Nat) (form : Form) : (value (depth + 1) form).read =
    valueOf (some (fun i => value depth (form.item i), fun name => (form.member? name).elim nothing (value depth))) := by
  rw [value]

theorem value_read (depth : Nat) (form : Form) : ∃ below, (value depth form).read = valueOf below := by
  cases depth with
  | zero => exact ⟨none, read_zero form⟩
  | succ depth => exact ⟨some _, read_succ depth form⟩

theorem parseAs_eq_ok {form : Form} {text : String} {v : Json} : parseAs form text = .ok v ↔
    ∃ r, (value depthLimit form).read text.toList = .ok (v, r) ∧ skip r = [] := by
  unfold parseAs document
  cases hr : (value depthLimit form).read text.toList with
  | error e => simp [Except.mapError]
  | ok found =>
    obtain ⟨w, r⟩ := found
    simp only
    split <;> simp_all [Except.mapError]

theorem readsBack_number {n : Number} (h : n.ReadsBack) :
    (∃ u, n.chars = '-' :: u ∧ number true u = .ok (n, [])) ∨
      ∃ c u, n.chars = c :: u ∧ c.isDigit ∧ number false (c :: u) = .ok (n, []) := by
  have solid := solid_number n
  obtain ⟨r, hr, blank⟩ := parseAs_eq_ok.1 h
  obtain ⟨below, hb⟩ := value_read depthLimit .whole
  rw [hb, String.toList_ofList] at hr
  -- What is left after the number is blank and a part of its text, which has no blanks.
  have done : r <:+ n.chars → r = [] := fun suffix =>
    (Solid.skip_eq fun c hc => solid c (suffix.subset hc)).symm.trans blank
  rcases number_of_valueOf solid hr with ⟨u, hu, hn⟩ | ⟨c, u, hu, hc, hn⟩
  · obtain ⟨d, v, rfl, suffix⟩ := number_suffix hn
    have ended := done (hu ▸ suffix.trans ((List.suffix_cons d v).trans (List.suffix_cons _ _)))
    exact .inl ⟨_, hu, ended ▸ hn⟩
  · obtain ⟨d, v, hv, suffix⟩ := number_suffix hn
    have ended := done (hu ▸ hv ▸ suffix.trans (List.suffix_cons d v))
    exact .inr ⟨c, u, hu, hc, ended ▸ hn⟩

theorem valueOf_number {n : Number} (h : n.ReadsBack) :
    Opens n.chars ∧ ∀ (below : Below) (t : List Char), Stops t →
      valueOf below (n.chars ++ t) = .ok (.number n, t) := by
  rcases readsBack_number h with ⟨u, hu, hn⟩ | ⟨c, u, hu, hc, hn⟩
  · rw [hu]
    refine ⟨⟨'-', u, rfl, by decide⟩, fun below t ht => ?_⟩
    rw [List.cons_append, valueOf_minus, ht.number_append hn]
    rfl
  · rw [hu]
    refine ⟨opens_digit hc u, fun below t ht => ?_⟩
    rw [List.cons_append, valueOf_digit below hc, ← List.cons_append, ht.number_append hn]
    rfl

theorem opens_quote (s : List Char) : Opens (quote s) := ⟨'"', _, rfl, by decide⟩

theorem opens_chars {d : Nat} {form : Form} {v : Json} (h : Fits d form v) : Opens v.chars := by
  cases v with
  | null => exact ⟨'n', _, rfl, by decide⟩
  | bool b => cases b <;> exact ⟨_, _, rfl, by decide⟩
  | number n => exact (valueOf_number (fits_number.1 h)).1
  | string s => exact opens_quote _
  | array items => exact ⟨'[', _, rfl, by decide⟩
  | object members => exact ⟨'{', _, rfl, by decide⟩

theorem valueOf_string (below : Below) (s : String) (t : List Char) :
    valueOf below ((Json.string s).chars ++ t) = .ok (.string s, t) := by
  have quoted : (Json.string s).chars ++ t = '"' :: (s.toList.flatMap escape ++ '"' :: t) := by
    rw [chars, quote, List.cons_append, List.cons_append, List.append_assoc]
    rfl
  have step : valueOf below ('"' :: (s.toList.flatMap escape ++ '"' :: t)) =
    (stringTail (s.toList.flatMap escape ++ '"' :: t)).as fun cs => .string (String.ofList cs) := rfl
  rw [quoted, step, stringTail_flatMap, Reading.as, String.ofList_toList]

theorem array_of_opens {s : List Char} (h : Opens s) (item : Nat → Reader Json) :
    array item s = (pieces arrays item 0 s).as .array := by
  unfold array
  rw [h.skip_eq]
  obtain ⟨c, u, rfl, -, hc, -⟩ := h
  split <;> simp_all

theorem object_of_opens {s : List Char} (h : Opens s) (value : String → Reader Json) :
    object value s = (pieces objects (fun _ => ⟨member value, member_length_lt⟩) 0 s).as .object := by
  unfold object
  rw [h.skip_eq]
  obtain ⟨c, u, rfl, -, -, hc⟩ := h
  split <;> simp_all

theorem array_chars {item : Nat → Reader Json} {items : List Json} (opens : ∀ v ∈ items, Opens v.chars)
    (reads : ∀ v ∈ items, ∀ i t, Stops t → (item i).read (v.chars ++ t) = .ok (v, t)) (t : List Char) :
    array item (itemChars items ++ ']' :: t) = .ok (.array items, t) := by
  cases items with
  | nil => rfl
  | cons v items =>
    have one (w : Json) : itemChars [w] = w.chars := by rw [itemChars]
    have more (w x : Json) (rest : List Json) :
        itemChars (w :: x :: rest) = w.chars ++ ',' :: itemChars (x :: rest) := by rw [itemChars]
    rw [array_of_opens (opens_joined one more (opens v List.mem_cons_self) items _)]
    have joined := pieces_joined (k := arrays) (.inl rfl) one more opens reads 0 t
    rw [show ']' = arrays.closing from rfl, joined]
    rfl

def memberText (m : String × Json) : List Char := quote m.1.toList ++ ':' :: m.2.chars

theorem member_text {value : String → Reader Json} {m : String × Json} {t : List Char}
    (h : (value m.1).read (m.2.chars ++ t) = .ok (m.2, t)) : member value (memberText m ++ t) = .ok (m, t) := by
  obtain ⟨name, v⟩ := m
  have text : memberText (name, v) ++ t =
      '"' :: (name.toList.flatMap escape ++ '"' :: (':' :: (v.chars ++ t))) := by
    simp [memberText, quote]
  have named := stringTail_flatMap name.toList (':' :: (v.chars ++ t))
  rw [text, member, named]
  show ((value (String.ofList name.toList)).read (v.chars ++ t)).as (String.ofList name.toList, ·) = _
  rw [String.ofList_toList, h]
  rfl

theorem object_chars {value : String → Reader Json} {members : List (String × Json)}
    (reads : ∀ m ∈ members, ∀ t, Stops t → (value m.1).read (m.2.chars ++ t) = .ok (m.2, t)) (t : List Char) :
    object value (memberChars members ++ '}' :: t) = .ok (.object members, t) := by
  cases members with
  | nil => rfl
  | cons m members =>
    have one (m : String × Json) : memberChars [m] = memberText m := by rw [memberChars, memberText]
    have more (m n : String × Json) (rest : List (String × Json)) :
        memberChars (m :: n :: rest) = memberText m ++ ',' :: memberChars (n :: rest) := by
      rw [memberChars, memberText]
    have opens (m : String × Json) : Opens (memberText m) := (opens_quote _).append _
    rw [object_of_opens (opens_joined one more (opens m) members _)]
    let piece (_ : Nat) : Reader (String × Json) := ⟨member value, member_length_lt⟩
    have pieces_read (n : String × Json) (hn : n ∈ m :: members) (i : Nat) (t : List Char) (ht : Stops t) :
        (piece i).read (memberText n ++ t) = .ok (n, t) := member_text (reads n hn t ht)
    have joined := pieces_joined (k := objects) (.inr rfl) one more (fun n _ => opens n) pieces_read 0 t
    rw [show '}' = objects.closing from rfl, joined]
    rfl

theorem read_scalar {d : Nat} {form : Form} {v : Json} (h : Fits d form v) (ha : ∀ items, v ≠ .array items)
    (ho : ∀ members, v ≠ .object members) {t : List Char} (ht : Stops t) :
    (value d form).read (v.chars ++ t) = .ok (v, t) := by
  obtain ⟨below, hb⟩ := value_read d form
  rw [hb]
  cases v with
  | null => rfl
  | bool b => cases b <;> rfl
  | number n => exact (valueOf_number (fits_number.1 h)).2 below t ht
  | string s => exact valueOf_string below s t
  | array items => exact (ha items rfl).elim
  | object members => exact (ho members rfl).elim

theorem read_chars {d : Nat} {form : Form} {v : Json} (h : Fits d form v) {t : List Char} (ht : Stops t) :
    (value d form).read (v.chars ++ t) = .ok (v, t) := by
  -- The induction is on the depth that is left to the reader, not on the value.
  induction d generalizing form v t with
  | zero =>
    cases v with
    | array items => exact h.elim
    | object members => exact h.elim
    | _ => exact read_scalar h nofun nofun ht
  | succ d ih =>
    cases v with
    | array items =>
      have items_read : array (fun i => value d (form.item i)) (itemChars items ++ ']' :: t) = .ok (.array items, t) :=
        array_chars (fun v hv => opens_chars (h v hv 0)) (fun v hv i t ht => ih (h v hv i) ht) t
      rw [read_succ, chars, List.cons_append, List.cons_append, List.append_assoc]
      exact items_read
    | object members =>
      have member_read (m : String × Json) (hm : m ∈ members) (t : List Char) (ht : Stops t) :
          ((form.member? m.1).elim nothing (value d)).read (m.2.chars ++ t) = .ok (m.2, t) := by
        obtain ⟨wanted, found, fits⟩ := h m hm
        rw [found]
        exact ih fits ht
      have members_read : object (fun name => (form.member? name).elim nothing (value d))
          (memberChars members ++ '}' :: t) = .ok (.object members, t) := object_chars member_read t
      rw [read_succ, chars, List.cons_append, List.cons_append, List.append_assoc]
      exact members_read
    | _ => exact read_scalar h nofun nofun ht

end Reader

theorem fits_string (n : Nat) (form : Form) (s : String) : Fits n form (.string s) := by cases n <;> trivial

theorem fits_record {n : Nat} {want : List (List String × Form)} {fields : List (String × Option Json)}
    (h : ∀ f ∈ fields, ∀ v ∈ f.2, ∃ wanted, (Form.record want).member? f.1 = some wanted ∧ Fits n wanted v) :
    Fits (n + 1) (.record want) (record fields) := by
  intro m hm
  obtain ⟨f, hf, he⟩ := List.mem_filterMap.1 hm
  obtain ⟨v, hv, rfl⟩ := Option.map_eq_some_iff.1 he
  exact h f hf v hv

theorem fits_ofList {α : Type} {write : α → Json} {n : Nat} {form : Form} {xs : List α}
    (h : ∀ x ∈ xs, ∀ i, Fits n (form.item i) (write x)) : Fits (n + 1) form (ofList write xs) := by
  intro v hv
  obtain ⟨x, hx, rfl⟩ := List.mem_map.1 hv
  exact h x hx

theorem fits_member {α : Type} {write : α → Json} {n : Nat} {form wanted : Form} {name : String} {o : Option α}
    (found : form.member? name = some wanted) (h : ∀ x ∈ o, Fits n wanted (write x)) :
    ∀ v ∈ o.map write, ∃ wanted, form.member? name = some wanted ∧ Fits n wanted v := by
  intro v hv
  obtain ⟨x, hx, rfl⟩ := Option.map_eq_some_iff.1 hv
  exact ⟨wanted, found, h x hx⟩

theorem parseAs_render {form : Form} {v : Json} (h : Fits Reader.depthLimit form v) : parseAs form v.render = .ok v := by
  have read := Reader.read_chars h Reader.stops_nil
  rw [List.append_nil] at read
  refine Reader.parseAs_eq_ok.2 ⟨[], ?_, rfl⟩
  rw [render, String.toList_ofList, read]

theorem parse_render {v : Json} (h : Legible Reader.depthLimit v) : parse v.render = .ok v :=
  parseAs_render (fits_whole.2 h)

end DeepLink.Json
