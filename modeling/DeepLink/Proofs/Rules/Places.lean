import DeepLink.Rules.Issue
import DeepLink.Rules.Target
import Mathlib.Data.List.Basic

namespace DeepLink

inductive Target.Field where
  | ios | android | web | fallback
deriving DecidableEq, Repr

namespace Target.Field

def all : List Field := [ios, android, web, fallback]

def name : Field → String
  | ios => "ios"
  | android => "android"
  | web => "web"
  | fallback => "fallback"

def rank : Field → Nat
  | ios => 0
  | android => 1
  | web => 2
  | fallback => 3

theorem mem_all (f : Field) : f ∈ all := by cases f <;> decide

@[simp] theorem name_inj {f g : Field} : f.name = g.name ↔ f = g := by cases f <;> cases g <;> decide

end Target.Field

def Target.link (t : Target) : Field → Option String
  | .ios => t.ios
  | .android => t.android
  | .web => t.web
  | .fallback => t.fallback

inductive Rule.Place where
  | link (f : Target.Field)
  | tag (j : Nat)
  | dateRange
  | rollout
deriving DecidableEq, Repr

namespace Rule.Place

def path : Place → Path
  | link f => [.key "target", .key f.name]
  | tag j => [.key "if", .key "lang", .index j]
  | dateRange => [.key "if", .key "dateRange"]
  | rollout => [.key "if", .key "rollout"]

def rank : Place → List Nat
  | link f => [0, f.rank]
  | tag j => [1, j]
  | dateRange => [2]
  | rollout => [3]

end Rule.Place

inductive Document.Place where
  | whole
  | rule (i : Nat) (p : Rule.Place)
  | default (f : Target.Field)
deriving DecidableEq, Repr

namespace Document.Place

def path : Place → Path
  | whole => [.key "rules"]
  | rule i p => .key "rules" :: .index i :: p.path
  | default f => [.key "default", .key "target", .key f.name]

def rank : Place → List Nat
  | whole => [0]
  | rule i p => 1 :: i :: p.rank
  | default f => [2, f.rank]

def Before (p q : Place) : Prop := p.rank < q.rank

@[simp] theorem before_rule {i j : Nat} {p q : Rule.Place} :
    (rule i p).Before (rule j q) ↔ i < j ∨ i = j ∧ p.rank < q.rank := by
  simp [Before, rank, List.cons_lt_cons_iff]

@[simp] theorem before_default {f g : Target.Field} : (default f).Before (default g) ↔ f.rank < g.rank := by
  simp [Before, rank, List.cons_lt_cons_iff]

theorem not_before_self (p : Place) : ¬p.Before p := List.lt_irrefl p.rank

theorem whole_before {p : Place} (h : p ≠ whole) : whole.Before p := by
  cases p with
  | whole => exact absurd rfl h
  | _ => simp [Before, rank, List.cons_lt_cons_iff]

theorem rule_before_default (i : Nat) (p : Rule.Place) (f : Target.Field) : (rule i p).Before (default f) := by
  simp [Before, rank, List.cons_lt_cons_iff]

end Document.Place

theorem Decimal.numeral_injective : Function.Injective numeral := by
  intro m n h
  have read := congrArg (Nat.ofDigitChars 10 · 0) h
  simpa only [numeral, Nat.ofDigitChars_ten_toDigits] using read

@[simp] theorem Step.text_key (name : String) : (key name).text = name := rfl

@[simp] theorem Step.text_index_inj {i j : Nat} : (index i).text = (index j).text ↔ i = j := by
  rw [text, text, String.ofList_inj, Decimal.numeral_injective.eq_iff]

def Path.names (path : Path) : List (List Char) := path.text.toList.splitOn '.'

def Step.Undotted (s : Step) : Prop := '.' ∉ s.text.toList

instance (s : Step) : Decidable s.Undotted := inferInstanceAs (Decidable ('.' ∉ s.text.toList))

theorem Step.undotted_index (i : Nat) : (index i).Undotted := by
  rw [Undotted, text, String.toList_ofList]
  intro dot
  exact absurd (Nat.isDigit_of_mem_toDigits (by decide) (by decide) dot) (by decide)

theorem Path.names_eq {path : Path} (ne : path ≠ []) (undotted : ∀ s ∈ path, s.Undotted) :
    path.names = path.map (·.text.toList) := by
  have joined : path.text.toList = ['.'].intercalate (path.map (·.text.toList)) := by
    cases path with
    | nil => exact absurd rfl ne
    | cons s path =>
      rw [Path.text, String.toList_intercalate, List.map_map]
      · rfl
      · exact nofun
  rw [names, joined]
  apply List.splitOn_intercalate
  · intro name hn
    obtain ⟨s, hs, rfl⟩ := List.mem_map.1 hn
    exact undotted s hs
  · exact mt List.map_eq_nil_iff.1 ne

theorem Rule.Place.eq_of_texts_eq {p q : Place} (h : p.path.map Step.text = q.path.map Step.text) : p = q := by
  cases p <;> cases q <;> simp [path] at h ⊢ <;> exact h

namespace Document.Place

theorem path_ne_nil (p : Place) : p.path ≠ [] := by cases p <;> exact List.cons_ne_nil _ _

theorem undotted_field (f : Target.Field) : (Step.key f.name).Undotted := by cases f <;> decide

theorem undotted_path (p : Place) : ∀ s ∈ p.path, s.Undotted := by
  have constant : ∀ name ∈ ["rules", "default", "target", "if", "lang", "dateRange", "rollout"],
      (Step.key name).Undotted := by decide
  cases p with
  | whole => simp [path, constant]
  | rule i p => cases p <;> simp [path, Rule.Place.path, constant, undotted_field, Step.undotted_index]
  | default f => simp [path, constant, undotted_field]

theorem names_path (p : Place) : p.path.names = p.path.map (·.text.toList) :=
  Path.names_eq p.path_ne_nil p.undotted_path

theorem eq_of_text_eq {p q : Place} (h : p.path.text = q.path.text) : p = q := by
  have names : p.path.map (·.text.toList) = q.path.map (·.text.toList) := by
    rw [← names_path, ← names_path, Path.names, h, Path.names]
  have texts : p.path.map Step.text = q.path.map Step.text := by
    apply List.map_injective_iff.2 fun s t => String.toList_inj.1
    rw [List.map_map, List.map_map]
    exact names
  cases p with
  | whole => cases q <;> simp [path] at texts ⊢
  | rule i p =>
    cases q with
    | rule j q =>
      simp only [path, List.map_cons, List.cons.injEq, Step.text_index_inj, true_and] at texts
      rw [texts.1, Rule.Place.eq_of_texts_eq texts.2]
    | _ => simp [path] at texts
  | default f =>
    cases q with
    | default g => simpa [path] using texts
    | _ => simp [path] at texts

end Document.Place

end DeepLink
