import ArithmeticGame.Expr.Lexer
import Mathlib
/-!
# Reading printed tokens

A text that is the print of some tokens once its blanks are dropped is read as these tokens. The
tokens must not have two numbers side by side, since their digits would run together.
-/
namespace ArithmeticGame

/-- The characters that are no blanks, with their positions in the text. -/
def Text.marks (text : List Char) : List (Char × Nat) :=
  text.zipIdx.filter fun (c, _) => !isBlank c

theorem Text.map_fst_marks (text : List Char) :
    (marks text).map Prod.fst = text.filter fun c => !isBlank c := by
  conv_rhs => rw [← List.zipIdx_map_fst 0 text, List.filter_map]
  rfl

namespace Token

def isNumber : Token → Bool
  | number _ => true
  | _ => false

/-- No two numbers stand side by side. -/
def Parted (tokens : List Token) : Prop :=
  tokens.IsChain fun t u => ¬ (t.isNumber = true ∧ u.isNumber = true)

instance (tokens : List Token) : Decidable (Parted tokens) :=
  inferInstanceAs (Decidable (tokens.IsChain fun t u => ¬ (t.isNumber = true ∧ u.isNumber = true)))

theorem Parted.around {left right : List Token} {t : Token} (ht : t.isNumber = false)
    (hl : Parted left) (hr : Parted right) : Parted (left ++ t :: right) := by
  refine List.isChain_append.mpr ⟨hl, List.isChain_cons.mpr ⟨?_, hr⟩, ?_⟩
  · simp [ht]
  · intro u _ v hv
    obtain rfl : t = v := by simpa using hv
    simp [ht]

theorem exists_symbol (t : Token) (ht : t.isNumber = false) :
    ∃ c : Char, t.text = [c] ∧ c.isDigit = false ∧ ofChar? c = some t := by
  cases t with
  | number value => simp [isNumber] at ht
  | operator op => cases op <;> exact ⟨_, rfl, by decide, by decide⟩
  | opening => exact ⟨_, rfl, by decide, by decide⟩
  | closing => exact ⟨_, rfl, by decide, by decide⟩

theorem isDigit_of_mem_text (value : UInt64) {c : Char} (hc : c ∈ (number value).text) :
    c.isDigit = true :=
  Nat.isDigit_of_mem_toDigits (by decide) (by decide) hc

theorem isBlank_of_isDigit {c : Char} (h : c.isDigit = true) : Text.isBlank c = false := by
  have hc : 48 ≤ c.toNat ∧ c.toNat ≤ 57 := by
    simp only [Char.isDigit, Bool.and_eq_true, decide_eq_true_eq] at h
    exact h
  simp [Text.isBlank]
  omega

private theorem le_ofDigitChars (cs : List Char) (n : Nat) : n ≤ Nat.ofDigitChars 10 cs n := by
  induction cs generalizing n with
  | nil => simp
  | cons c cs ih =>
    rw [Nat.ofDigitChars_cons]
    have h := ih (10 * n + (c.toNat - '0'.toNat))
    omega

theorem isBlank_of_mem_text {t : Token} {c : Char} (hc : c ∈ t.text) :
    Text.isBlank c = false := by
  cases t with
  | number value => exact isBlank_of_isDigit (isDigit_of_mem_text value hc)
  | operator op =>
    obtain rfl := List.mem_singleton.mp hc
    cases op <;> decide
  | opening =>
    obtain rfl := List.mem_singleton.mp hc
    decide
  | closing =>
    obtain rfl := List.mem_singleton.mp hc
    decide

/-- Digits carry a run on as long as its value stays a word. -/
theorem scan_digits (start n : Nat) (digits rest : List (Char × Nat))
    (hd : ∀ c ∈ digits.map Prod.fst, c.isDigit = true)
    (hn : Nat.ofDigitChars 10 (digits.map Prod.fst) n < UInt64.size) :
    scan (some ⟨start, n⟩) (digits ++ rest) =
      scan (some ⟨start, Nat.ofDigitChars 10 (digits.map Prod.fst) n⟩) rest := by
  induction digits generalizing n with
  | nil => rfl
  | cons digit digits ih =>
    obtain ⟨c, position⟩ := digit
    simp only [List.map_cons, List.forall_mem_cons] at hd
    simp only [List.map_cons, Nat.ofDigitChars_cons] at hn ⊢
    have hfit : 10 * n + (c.toNat - '0'.toNat) < UInt64.size :=
      Nat.lt_of_le_of_lt (le_ofDigitChars _ _) hn
    rw [List.cons_append, scan, if_pos hd.1, Option.getD_some, DigitRun.push, if_pos hfit]
    exact ih _ hd.2 hn

/-- A run ends at the digit that takes its value out of the range of words. -/
theorem scan_digits_large {start n : Nat} {digits : List (Char × Nat)} (hn : n < UInt64.size)
    (hd : ∀ c ∈ digits.map Prod.fst, c.isDigit = true)
    (hlarge : UInt64.size ≤ Nat.ofDigitChars 10 (digits.map Prod.fst) n)
    (rest : List (Char × Nat)) :
    scan (some ⟨start, n⟩) (digits ++ rest) = .error (.largeNumber start) := by
  induction digits generalizing n with
  | nil => exact absurd hn (Nat.not_lt.mpr hlarge)
  | cons digit digits ih =>
    obtain ⟨c, position⟩ := digit
    simp only [List.map_cons, List.forall_mem_cons] at hd
    simp only [List.map_cons, Nat.ofDigitChars_cons] at hlarge
    rw [List.cons_append, scan, if_pos hd.1, Option.getD_some, DigitRun.push]
    by_cases hfit : 10 * n + (c.toNat - '0'.toNat) < UInt64.size
    · rw [if_pos hfit]
      exact ih hfit hd.2 hlarge
    · rw [if_neg hfit]
      rfl

theorem scan_run (run : DigitRun) (rest : List (Char × Nat))
    (h : ∀ c ∈ (rest.map Prod.fst).head?, c.isDigit = false) :
    scan (some run) rest = (scan none rest).map (run.token :: ·) := by
  match rest, h with
  | [], _ => rfl
  | (c, position) :: rest, h =>
    have hc : c.isDigit = false := h c rfl
    simp only [scan, hc, Bool.false_eq_true, if_false]
    cases ofChar? c with
    | none => rfl
    | some token => cases scan none rest <;> rfl

theorem scan_symbol {c : Char} {position : Nat} {t : Token} (hc : c.isDigit = false)
    (ht : ofChar? c = some t) (rest : List (Char × Nat)) :
    scan none ((c, position) :: rest) = (scan none rest).map (t :: ·) := by
  simp only [scan, hc, Bool.false_eq_true, if_false, ht]
  cases scan none rest <;> rfl

theorem scan_open {c : Char} (hc : c.isDigit = true) (start : Nat) (cs : List (Char × Nat)) :
    scan none ((c, start) :: cs) = scan (some ⟨start, 0⟩) ((c, start) :: cs) := by
  simp only [scan, Option.getD_none, Option.getD_some, hc, if_true]

theorem scan_number (value : UInt64) (digits rest : List (Char × Nat)) (hne : digits ≠ [])
    (hd : ∀ c ∈ digits.map Prod.fst, c.isDigit = true)
    (hvalue : Nat.ofDigitChars 10 (digits.map Prod.fst) 0 = value.toNat)
    (h : ∀ c ∈ (rest.map Prod.fst).head?, c.isDigit = false) :
    scan none (digits ++ rest) = (scan none rest).map (number value :: ·) := by
  match digits, hne, hd, hvalue with
  | (c, start) :: digits, _, hd, hvalue =>
    rw [List.cons_append, scan_open (hd c (by simp)), ← List.cons_append,
      scan_digits start 0 _ rest hd (hvalue ▸ value.toNat_lt), hvalue, scan_run _ rest h,
      DigitRun.token, UInt64.ofNat_toNat]

/-- Printed tokens are read back, wherever their characters stood. -/
theorem scan_text (tokens : List Token) (hp : Parted tokens) (cs : List (Char × Nat))
    (hcs : cs.map Prod.fst = tokens.flatMap text) : scan none cs = .ok tokens := by
  induction tokens generalizing cs with
  | nil =>
    rw [List.map_eq_nil_iff.mp hcs]
    rfl
  | cons t tokens ih =>
    obtain ⟨cs, rest, rfl, ht, hrest⟩ := List.map_eq_append_iff.mp hcs
    have hread := ih hp.of_cons rest hrest
    cases hn : t.isNumber with
    | false =>
      obtain ⟨c, hc, hdigit, htoken⟩ := exists_symbol t hn
      rw [hc] at ht
      obtain ⟨⟨_, position⟩, rfl, rfl⟩ := List.map_eq_singleton_iff.mp ht
      rw [List.singleton_append, scan_symbol hdigit htoken, hread]
      rfl
    | true =>
      cases t with
      | number value =>
        have hnext : ∀ c ∈ (rest.map Prod.fst).head?, c.isDigit = false := by
          rw [hrest]
          match tokens, hp with
          | [], _ => simp
          | u :: tokens, hp =>
            have hu : u.isNumber = false := by
              simpa [isNumber] using (List.isChain_cons_cons.mp hp).1
            obtain ⟨c, hc, hdigit, -⟩ := exists_symbol u hu
            simp [hc, hdigit]
        have hne : cs ≠ [] := by
          rintro rfl
          exact Nat.toDigits_ne_nil ht.symm
        have hdigits : ∀ c ∈ cs.map Prod.fst, c.isDigit = true :=
          fun c hc => isDigit_of_mem_text value (ht ▸ hc)
        have hvalue : Nat.ofDigitChars 10 (cs.map Prod.fst) 0 = value.toNat := by
          rw [ht]
          exact Nat.ofDigitChars_ten_toDigits
        rw [scan_number value cs rest hne hdigits hvalue hnext, hread]
        rfl
      | operator op => simp [isNumber] at hn
      | opening => simp [isNumber] at hn
      | closing => simp [isNumber] at hn

theorem ofText_eq (text : List Char) :
    ofText text = scan none (Text.marks text) >>= fun tokens =>
      match firstUnary? none tokens with
      | some op => .error (.noLeftOperand op)
      | none => .ok tokens := rfl

theorem ofText_of_filter (text : List Char) (tokens : List Token)
    (ht : text.filter (fun c => !Text.isBlank c) = tokens.flatMap Token.text)
    (hp : Parted tokens) (hu : firstUnary? none tokens = none) :
    ofText text = .ok tokens := by
  have hscan := scan_text tokens hp _ ((Text.map_fst_marks text).trans ht)
  simp only [ofText_eq, hscan, bind, Except.bind, hu]

theorem ofText_of_blank {text : List Char} (h : ∀ c ∈ text, Text.isBlank c = true) :
    ofText text = .ok [] := by
  refine ofText_of_filter text [] ?_ .nil rfl
  rw [List.flatMap_nil, List.filter_eq_nil_iff]
  intro c hc
  simp [h c hc]

end Token
end ArithmeticGame
