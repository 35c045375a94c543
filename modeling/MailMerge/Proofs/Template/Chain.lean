/-
# Chains of attributes and subscripts

A chain of steps behind a name can be written with points, `x.k.0`, or with subscripts,
`x['k'][0]`.  Cut into tokens, every subscript is a row of three.  A step behind a point is two
tokens, but two integer steps next to each other are one number with a fraction
(`dottedTokens`), and this the parser refuses: an attribute is a name or an integer.
-/

import MailMerge.Proofs.Template.Output
import MailMerge.Proofs.Value.Expression
import Mathlib.Data.List.TakeWhile

namespace MailMerge

/-- A step into a value: to a key of a mapping, or to an item of a list. -/
inductive PathStep where
  | key (s : String)
  | item (n : Int64)
  deriving DecidableEq, Repr

namespace PathStep

/-- A step that can be written either way: to a name, or to an item that is counted from the
front. -/
def Fits : PathStep → Prop
  | key s => IsName s
  | item n => 0 ≤ n.toInt

instance : DecidablePred Fits
  | key s => inferInstanceAs (Decidable (IsName s))
  | item n => inferInstanceAs (Decidable (0 ≤ n.toInt))

/-- The step behind a point. -/
def dotted : PathStep → String
  | key s => "." ++ s
  | item n => "." ++ toString n.toInt

/-- The step as a subscript. -/
def subscripted : PathStep → String
  | key s => "['" ++ s ++ "']"
  | item n => "[" ++ toString n.toInt ++ "]"

/-- Whether a step goes to an item. -/
def isItem : PathStep → Bool
  | key _ => false
  | item _ => true

/-- Steps of which no two that follow each other both go to items. -/
def Spaced (steps : List PathStep) : Prop :=
  steps.IsChain fun s t => s.isItem = false ∨ t.isItem = false

instance (steps : List PathStep) : Decidable (Spaced steps) :=
  inferInstanceAs (Decidable (List.IsChain _ _))

/-- What a step behind a point is parsed to. -/
def attr (base : Expr) : PathStep → Expr
  | key s => .attr base s
  | item n => .index base (.int n)

/-- What a subscript is parsed to. -/
def index (base : Expr) : PathStep → Expr
  | key s => .index base (.str s)
  | item n => .index base (.int n)

/-- The number that two integers with a point between them are read as. -/
def joined (m n : Int64) : Float :=
  (Number.readFloat? ((toString m.toInt).toList ++ '.' :: (toString n.toInt).toList)).getD 0

/-- The tokens of steps behind points. -/
def dottedTokens : List PathStep → List Token
  | [] => []
  | key s :: rest => .sign .dot :: .ident s :: dottedTokens rest
  | item m :: item n :: rest => .sign .dot :: .float (joined m n) :: dottedTokens rest
  | item n :: rest => .sign .dot :: .int n :: dottedTokens rest

/-- The tokens of a step as a subscript. -/
def subscriptTokens : PathStep → List Token
  | key s => [.sign .lBracket, .str s, .sign .rBracket]
  | item n => [.sign .lBracket, .int n, .sign .rBracket]

end PathStep

/-! ### Numbers with a fraction -/

namespace Number

/-- Digits around a point are a number. -/
theorem readFloat?_toDigits (m n : Nat) :
    ∃ x, readFloat? (Nat.toDigits 10 m ++ '.' :: Nat.toDigits 10 n) = some x := by
  have hwhole : (Nat.toDigits 10 m ++ '.' :: Nat.toDigits 10 n).takeWhile Char.isDigit =
      Nat.toDigits 10 m :=
    Lexer.takeWhile_append (fun _ => isDigit_of_mem_toDigits) (by simp)
  have hfraction : (Nat.toDigits 10 n).takeWhile Char.isDigit = Nat.toDigits 10 n :=
    List.takeWhile_eq_self_iff.2 fun _ => isDigit_of_mem_toDigits
  have hafter : (Nat.toDigits 10 m ++ '.' :: Nat.toDigits 10 n).dropWhile Char.isDigit =
      '.' :: Nat.toDigits 10 n := by
    rw [List.dropWhile_append_of_pos fun _ => isDigit_of_mem_toDigits]
    rfl
  have hend : (Nat.toDigits 10 n).dropWhile Char.isDigit = [] :=
    List.dropWhile_eq_nil_iff.2 fun _ => isDigit_of_mem_toDigits
  obtain ⟨x, hx⟩ : ∃ x, readMagnitude? (Nat.toDigits 10 m ++ '.' :: Nat.toDigits 10 n) =
      some x := by
    have hne : (Nat.toDigits 10 m).isEmpty = false :=
      List.isEmpty_eq_false_iff.2 Nat.toDigits_ne_nil
    simp only [readMagnitude?, hwhole, hafter, hfraction, hend, hne, Bool.false_and,
      Bool.false_eq_true, if_false]
    exact ⟨_, rfl⟩
  refine Option.isSome_iff_exists.1 ?_
  simp only [readFloat?, splitSign_toDigits_append, hx, Option.isSome_map]
  split_ifs <;> rfl

end Number

namespace Lexer

variable {w : Whitespace} {depth : Nat} {rest : List Char} {ts : List Token} {c : Cursor}

/-- **Two rows of digits with a point between them are one number.** -/
theorem number_fraction (m n : Nat) {x : Float} (hrest : EndsWord rest)
    (hx : Number.readFloat? (Nat.toDigits 10 m ++ '.' :: Nat.toDigits 10 n) = some x) :
    number (Nat.toDigits 10 m ++ '.' :: (Nat.toDigits 10 n ++ rest)) =
      ((Nat.toDigits 10 m ++ '.' :: Nat.toDigits 10 n).length, .ok (.float x)) := by
  have hfraction : fraction ('.' :: (Nat.toDigits 10 n ++ rest)) = '.' :: Nat.toDigits 10 n := by
    have hdigits := digits_toDigits n hrest
    obtain ⟨ch, ds, hds, hdigit⟩ := Number.toDigits_eq_cons n
    rw [hds, List.cons_append] at hdigits ⊢
    rw [fraction, if_pos hdigit, hdigits]
  have hdrop : (Nat.toDigits 10 m ++ '.' :: (Nat.toDigits 10 n ++ rest)).drop
      ((Nat.toDigits 10 m).length + ('.' :: Nat.toDigits 10 n).length) = rest := by
    rw [← List.length_append, ← List.cons_append, ← List.append_assoc, List.drop_left]
  have hliteral : (Nat.toDigits 10 m ++ '.' :: Nat.toDigits 10 n ++ []).filter (· ≠ '_') =
      Nat.toDigits 10 m ++ '.' :: Nat.toDigits 10 n := by
    rw [List.append_nil, List.filter_append, filter_toDigits, List.filter_cons_of_pos (by decide),
      filter_toDigits]
  have hwhole : digits (Nat.toDigits 10 m ++ '.' :: (Nat.toDigits 10 n ++ rest)) =
      Nat.toDigits 10 m := digits_toDigits m (endsWord_cons (by decide) _)
  simp only [number, hwhole, List.drop_left, hfraction, hdrop, hrest.exponent, hliteral, hx]
  simp

namespace Yields

/-- The point in front of a step. -/
theorem point (h : Yields w depth rest ts) : Yields w depth (['.'] ++ rest) (.sign .dot :: ts) :=
  h.token (inside_cons (by decide) (by decide) (by decide)) fun _ hc => by
    rw [innerToken]
    simp only [hc]
    rfl

theorem fraction (m n : Nat) {x : Float} (hrest : EndsWord rest)
    (hx : Number.readFloat? (Nat.toDigits 10 m ++ '.' :: Nat.toDigits 10 n) = some x)
    (h : Yields w depth rest ts) :
    Yields w depth (Nat.toDigits 10 m ++ '.' :: (Nat.toDigits 10 n ++ rest)) (.float x :: ts) := by
  have happend : Nat.toDigits 10 m ++ '.' :: (Nat.toDigits 10 n ++ rest) =
      (Nat.toDigits 10 m ++ '.' :: Nat.toDigits 10 n) ++ rest := by simp
  have hstart : ∃ ch ds, Nat.toDigits 10 m ++ '.' :: Nat.toDigits 10 n = ch :: ds ∧
      ch.isDigit = true := by
    obtain ⟨ch, ds, hds, hdigit⟩ := Number.toDigits_eq_cons m
    exact ⟨ch, _, by rw [hds, List.cons_append], hdigit⟩
  have hnumber := number_fraction m n hrest hx
  have hinside : Inside depth (Nat.toDigits 10 m ++ '.' :: (Nat.toDigits 10 n ++ rest)) :=
    (inside_digits m _).1
  rw [happend] at hnumber hinside ⊢
  exact h.token hinside fun _ => innerToken_digits hstart hnumber

end Yields

end Lexer

namespace PathStep

open Lexer

variable {w : Whitespace} {s t : PathStep} {steps : List PathStep}

/-- The digits of an item that is counted from the front. -/
theorem toList_item {n : Int64} (hn : (item n).Fits) :
    (toString n.toInt).toList = Nat.toDigits 10 n.toInt.natAbs ∧
      Number.fit? n.toInt.natAbs = some n := by
  have hn : 0 ≤ n.toInt := hn
  rw [Number.toList_toString, if_neg (Int.not_lt.2 hn), Number.fit?_eq_some_iff]
  exact ⟨rfl, by omega⟩

/-- What every step starts with ends a word, and so does the end of the tag. -/
theorem endsWord_steps {write : PathStep → String}
    (hwrite : ∀ s, ∃ ch cs, (write s).toList = ch :: cs ∧ Text.isIdentChar ch = false)
    (steps : List PathStep) (rest : List Char) :
    EndsWord (steps.flatMap (fun s => (write s).toList) ++ ' ' :: rest) := by
  cases steps with
  | nil => exact endsWord_cons (by decide) _
  | cons s steps =>
    obtain ⟨ch, cs, hs, hch⟩ := hwrite s
    rw [List.flatMap_cons, hs]
    exact endsWord_cons hch _

theorem dotted_start (s : PathStep) :
    ∃ ch cs, s.dotted.toList = ch :: cs ∧ Text.isIdentChar ch = false := by
  cases s <;> exact ⟨'.', _, String.toList_append, by decide⟩

theorem subscripted_start (s : PathStep) :
    ∃ ch cs, s.subscripted.toList = ch :: cs ∧ Text.isIdentChar ch = false := by
  refine ⟨'[', ?_⟩
  cases s <;> simp only [subscripted, String.toList_append] <;> exact ⟨_, rfl, by decide⟩

/-- In front of anything but another item a point breaks a number off. -/
theorem breaks_dotted (hsteps : ∀ s ∈ steps, s.Fits) (hnext : ∀ s ∈ steps.head?, s.isItem = false) :
    Breaks (steps.flatMap (fun s => s.dotted.toList) ++ [' ', '\x7d', '\x7d']) := by
  cases steps with
  | nil => exact breaks_blank _
  | cons s steps =>
    cases s with
    | item n => cases hnext _ rfl
    | key s =>
      obtain ⟨⟨ch, cs, hs, hstart, -⟩, -⟩ := hsteps (key s) List.mem_cons_self
      simp only [List.flatMap_cons, dotted, String.toList_append, hs]
      exact breaks_point (wordStart_facts hstart).1 _

/-- **How a chain with points is cut into tokens.** -/
theorem yields_dotted (hsteps : ∀ s ∈ steps, s.Fits) :
    Yields w 0 (steps.flatMap (fun s => s.dotted.toList) ++ [' ', '\x7d', '\x7d'])
      (dottedTokens steps ++ [Token.varEnd]) := by
  induction steps using dottedTokens.induct with
  | case1 => exact Yields.finish w
  | case2 s rest ih =>
    obtain ⟨⟨hword, hkeyword⟩, hrest⟩ := List.forall_mem_cons.1 hsteps
    have hyields := ((ih hrest).word hword (endsWord_steps dotted_start rest _)).point
    rw [wordToken, hkeyword] at hyields
    simp only [List.flatMap_cons, dotted, String.toList_append, List.append_assoc, dottedTokens]
    exact hyields
  | case3 m n rest ih =>
    obtain ⟨hm, hnrest⟩ := List.forall_mem_cons.1 hsteps
    obtain ⟨hn, hrest⟩ := List.forall_mem_cons.1 hnrest
    obtain ⟨hmdigits, -⟩ := toList_item hm
    obtain ⟨hndigits, -⟩ := toList_item hn
    obtain ⟨x, hx⟩ := Number.readFloat?_toDigits m.toInt.natAbs n.toInt.natAbs
    have hjoined : joined m n = x := by rw [joined, hmdigits, hndigits, hx]; rfl
    have hyields := ((ih hrest).fraction _ _ (endsWord_steps dotted_start rest _) hx).point
    simp only [List.flatMap_cons, dotted, String.toList_append, List.append_assoc, dottedTokens,
      hmdigits, hndigits, hjoined]
    exact hyields
  | case4 n rest hnext ih =>
    obtain ⟨hn, hrest⟩ := List.forall_mem_cons.1 hsteps
    obtain ⟨hdigits, hfit⟩ := toList_item hn
    have hbreaks : Breaks (rest.flatMap (fun s => s.dotted.toList) ++ [' ', '\x7d', '\x7d']) := by
      refine breaks_dotted hrest fun s hs => ?_
      obtain ⟨rest', rfl⟩ := List.head?_eq_some_iff.1 hs
      cases s with
      | key s => rfl
      | item k => exact (hnext k rest' rfl).elim
    have hyields := ((ih hrest).number hfit hbreaks).point
    rw [dottedTokens.eq_4 n rest hnext]
    simp only [List.flatMap_cons, dotted, String.toList_append, List.append_assoc, hdigits]
    exact hyields

/-- A name in quotes is read back: no character of it is escaped. -/
theorem string?_word {name : String} (hname : IsWord name) (rest : List Char) :
    string? '\'' (name.toList ++ ['\''] ++ rest) = some (name.toList, rest) := by
  obtain ⟨ch, cs, hchars, hstart, hcs⟩ := hname
  have hplain : ∀ c ∈ name.toList, Value.escapeChar '\'' c = [c] := by
    intro c hc
    have hident : Text.isIdentChar c = true := by
      rw [hchars, List.mem_cons] at hc
      obtain rfl | hc := hc
      · exact Text.isIdentChar_of_isIdentStart hstart
      · exact hcs c hc
    unfold Value.escapeChar
    split_ifs with h₁ h₂ h₃ h₄ h₅
    · exact absurd hident (h₁ ▸ by decide)
    · exact absurd hident (h₂ ▸ by decide)
    · exact absurd hident (h₃ ▸ by decide)
    · exact absurd hident (h₄ ▸ by decide)
    · exact absurd hident (h₅ ▸ by decide)
    · rfl
  have hwritten := string?_written (.inl rfl) name.toList rest
  rwa [List.flatMap_congr hplain, List.flatMap_singleton'] at hwritten

/-- **Every subscript is three tokens.** -/
theorem yields_subscripted (hsteps : ∀ s ∈ steps, s.Fits) :
    Yields w 0 (steps.flatMap (fun s => s.subscripted.toList) ++ [' ', '\x7d', '\x7d'])
      (steps.flatMap subscriptTokens ++ [Token.varEnd]) := by
  have hopens : bracket? '[' = some (.lBracket, true) := rfl
  have hcloses : bracket? ']' = some (.rBracket, false) := rfl
  induction steps with
  | nil => exact Yields.finish w
  | cons s rest ih =>
    obtain ⟨hs, hrest⟩ := List.forall_mem_cons.1 hsteps
    have hclosed := (ih hrest).closed hcloses (by decide)
    cases s with
    | key s =>
      have hyields := hclosed.string (.inl rfl) (string?_word hs.1 _)
      have hopened := hyields.opened hopens (by decide) (by decide) (by decide)
      have hchars : (key s).subscripted.toList =
          ['['] ++ ('\'' :: (s.toList ++ ['\'']) ++ [']']) := by
        simp [subscripted]
      rw [String.ofList_toList] at hopened
      rw [List.flatMap_cons, hchars, List.append_assoc, List.append_assoc, List.append_assoc]
      exact hopened
    | item n =>
      obtain ⟨hdigits, hfit⟩ := toList_item hs
      have hyields := hclosed.number hfit (breaks_cons (by decide) _)
      have hopened := hyields.opened hopens (by decide) (by decide) (by decide)
      simp only [List.flatMap_cons, subscripted, String.toList_append, List.append_assoc,
        subscriptTokens, hdigits]
      exact hopened

end PathStep
end MailMerge
