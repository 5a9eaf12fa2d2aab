import ArithmeticGame.Proofs.Expr.Scan
import ArithmeticGame.Proofs.Result
/-!
# Lexemes

A text without its blanks falls into runs of digits, as long as they can be, and other characters
one by one. Its tokens are those that the lexemes spell in order, and its fault is that of the first
lexeme that spells none; operators are looked at only when all lexemes are read.
-/
namespace ArithmeticGame

inductive Lexeme where
  | digits (run : List (Char × Nat))
  | symbol (c : Char) (position : Nat)
deriving DecidableEq

def ExprFault.unplaced : ExprFault → ExprFault
  | badCharacter c _ => badCharacter c 0
  | largeNumber _ => largeNumber 0
  | fault => fault

namespace Token

def EndsOperand (tokens : List Token) : Prop :=
  ∃ t ∈ tokens.getLast?, t.isNumber = true ∨ t = closing

/-- Every operator directly follows a number or a closing parenthesis. -/
def Led (tokens : List Token) : Prop :=
  ∀ before op after, tokens = before ++ operator op :: after → EndsOperand before

theorem endsOperand_getLast? {tokens : List Token} :
    endsOperand tokens.getLast? = true ↔ EndsOperand tokens := by
  unfold EndsOperand
  cases tokens.getLast? with
  | none => simp
  | some t => cases t <;> simp [isNumber]

theorem led_concat {tokens : List Token} {t : Token} :
    Led (tokens ++ [t]) ↔ Led tokens ∧ ∀ op, t = operator op → EndsOperand tokens := by
  constructor
  · intro h
    refine ⟨fun before op after htokens => h before op (after ++ [t]) (by simp [htokens]), ?_⟩
    rintro op rfl
    exact h tokens op [] rfl
  · rintro ⟨h, ht⟩ before op after htokens
    cases after using List.reverseRecOn with
    | nil =>
      obtain ⟨rfl, hlast⟩ := List.append_inj' htokens rfl
      exact ht op (List.singleton_inj.mp hlast)
    | append_singleton after last =>
      rw [← List.cons_append, ← List.append_assoc] at htokens
      exact h before op after (List.append_inj' htokens rfl).1

theorem firstUnary?_append {before : List Token} (h : Led before) (rest : List Token) :
    firstUnary? none (before ++ rest) = firstUnary? before.getLast? rest := by
  induction before using List.reverseRecOn generalizing rest with
  | nil => rfl
  | append_singleton before t ih =>
    obtain ⟨hbefore, ht⟩ := led_concat.mp h
    rw [List.append_assoc, List.singleton_append, ih hbefore, List.getLast?_concat]
    cases t with
    | operator op => rw [firstUnary?, if_pos (endsOperand_getLast?.mpr (ht op rfl))]
    | _ => rfl

theorem firstUnary?_of_led {tokens : List Token} (h : Led tokens) :
    firstUnary? none tokens = none := by
  have hall := firstUnary?_append h []
  rwa [List.append_nil] at hall

theorem firstUnary?_of_misplaced {before after : List Token} {op : Operator} (h : Led before)
    (ho : ¬ EndsOperand before) :
    firstUnary? none (before ++ operator op :: after) = some op := by
  rw [firstUnary?_append h, firstUnary?, if_neg (mt endsOperand_getLast?.mp ho)]

theorem led_or_exists_first (tokens : List Token) :
    Led tokens ∨ ∃ before op after,
      tokens = before ++ operator op :: after ∧ Led before ∧ ¬ EndsOperand before := by
  induction tokens using List.reverseRecOn with
  | nil => exact .inl (by simp [Led])
  | append_singleton tokens t ih =>
    rcases ih with hled | ⟨before, op, after, rfl, hbefore, ho⟩
    · by_cases ht : ∀ op, t = operator op → EndsOperand tokens
      · exact .inl (led_concat.mpr ⟨hled, ht⟩)
      · push Not at ht
        obtain ⟨op, rfl, ho⟩ := ht
        exact .inr ⟨tokens, op, [], rfl, hled, ho⟩
    · exact .inr ⟨before, op, after ++ [t], by simp, hbefore, ho⟩

theorem led_iff_firstUnary? {tokens : List Token} :
    Led tokens ↔ firstUnary? none tokens = none := by
  constructor
  · exact firstUnary?_of_led
  · intro h
    refine (led_or_exists_first tokens).resolve_right ?_
    rintro ⟨before, op, after, rfl, hbefore, ho⟩
    rw [firstUnary?_of_misplaced hbefore ho] at h
    cases h

instance (tokens : List Token) : Decidable (EndsOperand tokens) :=
  decidable_of_iff _ endsOperand_getLast?

instance (tokens : List Token) : Decidable (Led tokens) :=
  decidable_of_iff _ led_iff_firstUnary?.symm

end Token

namespace Lexeme

def marks : Lexeme → List (Char × Nat)
  | digits run => run
  | symbol c position => [(c, position)]

def isRun : Lexeme → Bool
  | digits _ => true
  | symbol .. => false

def Proper : Lexeme → Prop
  | digits run => run ≠ [] ∧ ∀ c ∈ run.map Prod.fst, c.isDigit = true
  | symbol c _ => c.isDigit = false

/-- The lexemes make up the marks. No run follows a run, so none could be longer. -/
structure Cuts (marks : List (Char × Nat)) (lexemes : List Lexeme) : Prop where
  marks_eq : lexemes.flatMap Lexeme.marks = marks
  proper : ∀ l ∈ lexemes, l.Proper
  apart : lexemes.IsChain fun l m => ¬ (l.isRun = true ∧ m.isRun = true)

def cut : List (Char × Nat) → List Lexeme
  | [] => []
  | (c, position) :: marks =>
    if c.isDigit then
      match cut marks with
      | digits run :: lexemes => digits ((c, position) :: run) :: lexemes
      | lexemes => digits [(c, position)] :: lexemes
    else symbol c position :: cut marks

def ofText (text : List Char) : List Lexeme := cut (Text.marks text)

def decimal (run : List (Char × Nat)) : Nat := Nat.ofDigitChars 10 (run.map Prod.fst) 0

inductive Spells : Lexeme → Token → Prop
  | number {run : List (Char × Nat)} {value : UInt64} (h : decimal run = value.toNat) :
      Spells (digits run) (.number value)
  | operator (op : Operator) (position : Nat) :
      Spells (symbol op.symbol position) (.operator op)
  | opening (position : Nat) : Spells (symbol '(' position) .opening
  | closing (position : Nat) : Spells (symbol ')' position) .closing

inductive Fails : Lexeme → ExprFault → Prop
  | badCharacter {c : Char} {position : Nat} (h : c ∉ ['+', '-', '*', '/', '(', ')']) :
      Fails (symbol c position) (.badCharacter c position)
  | largeNumber {c : Char} {start : Nat} {run : List (Char × Nat)}
      (h : 2 ^ 64 ≤ decimal ((c, start) :: run)) :
      Fails (digits ((c, start) :: run)) (.largeNumber start)

/-! ## Cutting a text -/

variable {marks : List (Char × Nat)} {lexemes before after : List Lexeme} {l : Lexeme}
  {tokens : List Token} {t : Token} {fault : ExprFault}

theorem Cuts.tail (h : Cuts marks (l :: lexemes)) : Cuts (lexemes.flatMap Lexeme.marks) lexemes :=
  ⟨rfl, fun m hm => h.proper m (by simp [hm]), h.apart.of_cons⟩

theorem Cuts.head_not_isDigit (h : Cuts marks (l :: lexemes)) (hl : l.isRun = true) :
    ∀ c ∈ ((lexemes.flatMap Lexeme.marks).map Prod.fst).head?, c.isDigit = false := by
  match lexemes, h with
  | [], _ => simp
  | digits run :: _, h => exact absurd ⟨hl, rfl⟩ (List.isChain_cons_cons.mp h.apart).1
  | symbol c position :: _, h =>
    have hc : c.isDigit = false := h.proper (symbol c position) (by simp)
    simp [Lexeme.marks, hc]

theorem cut_run (run rest : List (Char × Nat)) (hne : run ≠ [])
    (hd : ∀ c ∈ run.map Prod.fst, c.isDigit = true)
    (hrest : ∀ l ∈ (cut rest).head?, l.isRun = false) :
    cut (run ++ rest) = digits run :: cut rest := by
  induction run with
  | nil => exact absurd rfl hne
  | cons mark run ih =>
    obtain ⟨c, position⟩ := mark
    simp only [List.map_cons, List.forall_mem_cons] at hd
    rw [List.cons_append, cut, if_pos hd.1]
    cases run with
    | nil =>
      rw [List.nil_append]
      split
      · next hcut => simp [hcut, isRun] at hrest
      · rfl
    | cons next run => rw [ih (by simp) hd.2]

theorem Cuts.eq_cut (h : Cuts marks lexemes) : lexemes = cut marks := by
  induction lexemes generalizing marks with
  | nil =>
    obtain rfl := h.marks_eq
    rfl
  | cons l lexemes ih =>
    have hrest := ih h.tail
    obtain rfl := h.marks_eq
    rw [List.flatMap_cons]
    cases l with
    | symbol c position =>
      have hc : c.isDigit = false := h.proper (symbol c position) (by simp)
      simp only [Lexeme.marks, List.singleton_append, cut, hc, Bool.false_eq_true, if_false]
      rw [← hrest]
    | digits run =>
      obtain ⟨hne, hd⟩ : (digits run).Proper := h.proper _ (by simp)
      have hhead : ∀ m ∈ lexemes.head?, m.isRun = false := by
        simpa [isRun] using (List.isChain_cons.mp h.apart).1
      rw [Lexeme.marks, cut_run run _ hne hd (hrest ▸ hhead), ← hrest]

theorem Cuts.cons (h : Cuts marks lexemes) (hl : l.Proper)
    (hapart : ∀ m ∈ lexemes.head?, ¬ (l.isRun = true ∧ m.isRun = true)) :
    Cuts (l.marks ++ marks) (l :: lexemes) where
  marks_eq := by rw [List.flatMap_cons, h.marks_eq]
  proper := List.forall_mem_cons.mpr ⟨hl, h.proper⟩
  apart := List.isChain_cons.mpr ⟨hapart, h.apart⟩

theorem Cuts.cons_digit {run : List (Char × Nat)} {c : Char} {position : Nat}
    (h : Cuts marks (digits run :: lexemes)) (hc : c.isDigit = true) :
    Cuts ((c, position) :: marks) (digits ((c, position) :: run) :: lexemes) where
  marks_eq := congrArg ((c, position) :: ·) h.marks_eq
  proper := by
    obtain ⟨⟨-, hd⟩, hlexemes⟩ := List.forall_mem_cons.mp h.proper
    have hrun : (digits ((c, position) :: run)).Proper :=
      ⟨List.cons_ne_nil _ _, List.forall_mem_cons.mpr ⟨hc, hd⟩⟩
    exact List.forall_mem_cons.mpr ⟨hrun, hlexemes⟩
  apart := List.isChain_cons.mpr (List.isChain_cons.mp h.apart)

theorem cuts_cut (marks : List (Char × Nat)) : Cuts marks (cut marks) := by
  induction marks with
  | nil => exact ⟨rfl, by simp [cut], List.isChain_nil⟩
  | cons mark marks ih =>
    obtain ⟨c, position⟩ := mark
    by_cases hc : c.isDigit = true
    · rw [cut, if_pos hc]
      split
      · next run lexemes hcut =>
        rw [hcut] at ih
        exact ih.cons_digit hc
      · next hcut =>
        -- a digit that joins no run has none after it
        have hrun : (digits [(c, position)]).Proper := ⟨by simp, by simpa using hc⟩
        refine ih.cons hrun ?_
        rintro m hm ⟨-, hm'⟩
        cases m with
        | symbol d place => cases hm'
        | digits run =>
          obtain ⟨lexemes, hlexemes⟩ := List.head?_eq_some_iff.mp hm
          exact hcut run lexemes hlexemes
    · rw [cut, if_neg hc]
      have hsymbol : (symbol c position).Proper := Bool.eq_false_iff.mpr hc
      exact ih.cons hsymbol (by simp [isRun])

theorem cuts_iff : Cuts marks lexemes ↔ lexemes = cut marks := by
  constructor
  · exact Cuts.eq_cut
  · rintro rfl
    exact cuts_cut marks

theorem cuts_ofText (text : List Char) : Cuts (Text.marks text) (ofText text) := cuts_cut _

/-! ## Reading lexemes -/

theorem ofChar?_eq_none {c : Char} (h : c ∉ ['+', '-', '*', '/', '(', ')']) :
    Token.ofChar? c = none := by
  simp only [List.mem_cons, List.not_mem_nil, or_false, not_or] at h
  simp [Token.ofChar?, Operator.ofChar?, h]

theorem spells_or_fails (hl : l.Proper) : (∃ t, l.Spells t) ∨ ∃ fault, l.Fails fault := by
  cases l with
  | symbol c position =>
    by_cases hc : c ∈ ['+', '-', '*', '/', '(', ')']
    · left
      fin_cases hc
      · exact ⟨_, .operator .add position⟩
      · exact ⟨_, .operator .sub position⟩
      · exact ⟨_, .operator .mul position⟩
      · exact ⟨_, .operator .div position⟩
      · exact ⟨_, .opening position⟩
      · exact ⟨_, .closing position⟩
    · exact .inr ⟨_, .badCharacter hc⟩
  | digits run =>
    rcases Nat.lt_or_ge (decimal run) (2 ^ 64) with hword | hlarge
    · exact .inl ⟨.number (UInt64.ofNat (decimal run)), .number (by simp; omega)⟩
    · match run, hl, hlarge with
      | [], hl, _ => exact absurd rfl hl.1
      | (c, start) :: run, _, hlarge => exact .inr ⟨_, .largeNumber hlarge⟩

theorem Spells.not_fails (h : l.Spells t) (fault : ExprFault) : ¬ l.Fails fault := by
  intro hf
  cases hf with
  | badCharacter hc =>
    cases h with
    | operator op => cases op <;> simp [Operator.symbol] at hc
    | opening => simp at hc
    | closing => simp at hc
  | largeNumber hlarge =>
    cases h with
    | number hvalue =>
      rw [hvalue] at hlarge
      exact absurd (UInt64.toNat_lt _) (Nat.not_lt.mpr hlarge)

theorem Spells.scan_append (h : l.Spells t) (hl : l.Proper) (rest : List (Char × Nat))
    (hrest : l.isRun = true → ∀ c ∈ (rest.map Prod.fst).head?, c.isDigit = false) :
    Token.scan none (l.marks ++ rest) = (Token.scan none rest).map (t :: ·) := by
  cases h with
  | number hvalue => exact Token.scan_number _ _ rest hl.1 hl.2 hvalue (hrest rfl)
  | operator op => exact Token.scan_symbol hl (by cases op <;> rfl) rest
  | opening => exact Token.scan_symbol hl rfl rest
  | closing => exact Token.scan_symbol hl rfl rest

theorem Fails.scan_append (h : l.Fails fault) (hl : l.Proper) (rest : List (Char × Nat)) :
    Token.scan none (l.marks ++ rest) = .error fault := by
  cases h with
  | badCharacter hc =>
    have hdigit : _ = false := hl
    simp only [Lexeme.marks, List.singleton_append, Token.scan, hdigit, Bool.false_eq_true,
      if_false, ofChar?_eq_none hc]
  | largeNumber hlarge =>
    rw [Lexeme.marks, List.cons_append, Token.scan_open (hl.2 _ (by simp)), ← List.cons_append]
    exact Token.scan_digits_large (by decide) hl.2 hlarge rest

theorem Cuts.scan_cons (h : Cuts marks (l :: lexemes)) (ht : l.Spells t) :
    Token.scan none marks = (Token.scan none (lexemes.flatMap Lexeme.marks)).map (t :: ·) := by
  have hl := h.proper l List.mem_cons_self
  obtain rfl := h.marks_eq
  rw [List.flatMap_cons, ht.scan_append hl _ h.head_not_isDigit]

theorem Cuts.scan_of_spells (h : Cuts marks lexemes) (hs : List.Forall₂ Spells lexemes tokens) :
    Token.scan none marks = .ok tokens := by
  induction hs generalizing marks with
  | nil =>
    obtain rfl := h.marks_eq
    rfl
  | cons ht _ ih =>
    rw [h.scan_cons ht, ih h.tail]
    rfl

theorem Cuts.scan_of_fails (h : Cuts marks (before ++ l :: after))
    (hb : ∀ m ∈ before, ∃ t, m.Spells t) (hf : l.Fails fault) :
    Token.scan none marks = .error fault := by
  induction before generalizing marks with
  | nil =>
    have hl := h.proper l List.mem_cons_self
    obtain rfl := h.marks_eq
    exact hf.scan_append hl _
  | cons m before ih =>
    obtain ⟨⟨t, ht⟩, hrest⟩ := List.forall_mem_cons.mp hb
    rw [List.cons_append] at h
    rw [h.scan_cons ht, ih h.tail hrest]
    rfl

theorem spell_or_exists_first (h : ∀ l ∈ lexemes, l.Proper) :
    (∃ tokens, List.Forall₂ Spells lexemes tokens) ∨
      ∃ before l after fault, lexemes = before ++ l :: after ∧
        (∀ m ∈ before, ∃ t, m.Spells t) ∧ l.Fails fault := by
  induction lexemes with
  | nil => exact .inl ⟨[], .nil⟩
  | cons l lexemes ih =>
    obtain ⟨hl, hlexemes⟩ := List.forall_mem_cons.mp h
    rcases spells_or_fails hl with ⟨t, ht⟩ | ⟨fault, hf⟩
    · rcases ih hlexemes with ⟨tokens, hs⟩ | ⟨before, m, after, fault, rfl, hb, hf⟩
      · exact .inl ⟨t :: tokens, .cons ht hs⟩
      · exact .inr ⟨l :: before, m, after, fault, rfl, List.forall_mem_cons.mpr ⟨⟨t, ht⟩, hb⟩, hf⟩
    · exact .inr ⟨[], l, lexemes, fault, rfl, by simp, hf⟩

/-- The fault of the first lexeme that has one, or else that of the first misplaced operator. -/
inductive FirstFault (lexemes : List Lexeme) : ExprFault → Prop
  | lexeme {before after : List Lexeme} {l : Lexeme} {fault : ExprFault}
      (hl : lexemes = before ++ l :: after) (hb : ∀ m ∈ before, ∀ other, ¬ m.Fails other)
      (hf : l.Fails fault) : FirstFault lexemes fault
  | operator {before after : List Token} {op : Operator}
      (hs : List.Forall₂ Spells lexemes (before ++ .operator op :: after))
      (hb : Token.Led before) (ho : ¬ Token.EndsOperand before) :
      FirstFault lexemes (.noLeftOperand op)

end Lexeme

namespace Token

open Lexeme (Cuts Spells FirstFault)

variable {text : List Char} {tokens : List Token} {fault : ExprFault}

theorem ofText_of_led (hs : List.Forall₂ Spells (Lexeme.ofText text) tokens) (hl : Led tokens) :
    ofText text = .ok tokens := by
  rw [ofText_eq, (Lexeme.cuts_ofText text).scan_of_spells hs]
  simp only [bind, Except.bind, firstUnary?_of_led hl]

theorem ofText_of_firstFault (h : FirstFault (Lexeme.ofText text) fault) :
    ofText text = .error fault := by
  have hcuts := Lexeme.cuts_ofText text
  rw [ofText_eq]
  cases h with
  | @lexeme before _ _ _ hl hb hf =>
    rw [hl] at hcuts
    have hspell : ∀ m ∈ before, ∃ t, m.Spells t := by
      intro m hm
      refine (Lexeme.spells_or_fails (hcuts.proper m ?_)).resolve_right ?_
      · exact List.mem_append_left _ hm
      · exact not_exists.mpr (hb m hm)
    rw [hcuts.scan_of_fails hspell hf]
    rfl
  | operator hs hb ho =>
    rw [hcuts.scan_of_spells hs]
    simp only [bind, Except.bind, firstUnary?_of_misplaced hb ho]

theorem led_or_firstFault (text : List Char) :
    (∃ tokens, List.Forall₂ Spells (Lexeme.ofText text) tokens ∧ Led tokens) ∨
      ∃ fault, FirstFault (Lexeme.ofText text) fault := by
  rcases Lexeme.spell_or_exists_first (Lexeme.cuts_ofText text).proper with
    ⟨tokens, hs⟩ | ⟨before, l, after, fault, hl, hb, hf⟩
  · rcases led_or_exists_first tokens with hled | ⟨before, op, after, rfl, hb, ho⟩
    · exact .inl ⟨tokens, hs, hled⟩
    · exact .inr ⟨_, .operator hs hb ho⟩
  · refine .inr ⟨fault, .lexeme hl ?_ hf⟩
    intro m hm
    obtain ⟨t, ht⟩ := hb m hm
    exact ht.not_fails

theorem ofText_eq_iff (text : List Char) :
    (∀ tokens, ofText text = .ok tokens ↔
      List.Forall₂ Spells (Lexeme.ofText text) tokens ∧ Led tokens) ∧
    ∀ fault, ofText text = .error fault ↔ FirstFault (Lexeme.ofText text) fault :=
  eq_iff_of_or (fun _ h => ofText_of_led h.1 h.2) (fun _ h => ofText_of_firstFault h)
    (led_or_firstFault text)

/-! ## Blanks -/

/-- A scan does not look at positions, it only reports them. -/
theorem scan_unplaced {run other : Option DigitRun} {cs ds : List (Char × Nat)}
    (hrun : run.map DigitRun.value = other.map DigitRun.value)
    (hcs : cs.map Prod.fst = ds.map Prod.fst) :
    (scan run cs).mapError ExprFault.unplaced = (scan other ds).mapError ExprFault.unplaced := by
  have htoken : run.map DigitRun.token = other.map DigitRun.token := by
    have h := congrArg (Option.map fun value => number (UInt64.ofNat value)) hrun
    rw [Option.map_map, Option.map_map] at h
    exact h
  induction cs generalizing run other ds with
  | nil =>
    obtain rfl := List.map_eq_nil_iff.mp hcs.symm
    rw [scan, scan, htoken]
  | cons mark cs ih =>
    obtain ⟨c, position⟩ := mark
    obtain ⟨⟨d, place⟩, ds, rfl, hd, hds⟩ := List.map_eq_cons_iff.mp hcs.symm
    obtain rfl : d = c := hd
    rw [scan, scan, htoken]
    by_cases hc : d.isDigit = true
    · -- a run that starts here has a position of its own in each text, but no value yet
      have hvalue : (run.getD ⟨position, 0⟩).value = (other.getD ⟨place, 0⟩).value := by
        cases run <;> cases other <;> simp_all
      rw [if_pos hc, if_pos hc, DigitRun.push, DigitRun.push, hvalue]
      split
      · exact ih rfl hds.symm rfl
      · rfl
    · rw [if_neg hc, if_neg hc]
      cases ofChar? d with
      | none => rfl
      | some t =>
        exact mapError_bind_congr (@ih none none ds rfl hds.symm rfl) _

/-- The tokens of a text, or its fault, are told from its lexemes; where the blanks stand makes a
difference only to the position of a fault. -/
theorem reads_lexemes (text : List Char) :
    (∀ lexemes, Lexeme.Cuts (Text.marks text) lexemes ↔ lexemes = Lexeme.ofText text) ∧
    (∀ tokens, ofText text = .ok tokens ↔
      List.Forall₂ Spells (Lexeme.ofText text) tokens ∧ Led tokens) ∧
    (∀ fault, ofText text = .error fault ↔ FirstFault (Lexeme.ofText text) fault) ∧
    ∀ other : List Char,
      other.filter (fun c => !Text.isBlank c) = text.filter (fun c => !Text.isBlank c) →
        (ofText other).mapError ExprFault.unplaced = (ofText text).mapError ExprFault.unplaced := by
  obtain ⟨hok, herror⟩ := ofText_eq_iff text
  refine ⟨fun _ => Lexeme.cuts_iff, hok, herror, ?_⟩
  intro other hother
  have hmarks : (Text.marks other).map Prod.fst = (Text.marks text).map Prod.fst := by
    rw [Text.map_fst_marks, Text.map_fst_marks, hother]
  have hscan := @scan_unplaced none none _ _ rfl hmarks
  exact mapError_bind_congr hscan _

/-- Digits with a zero in front and a blank between them, and a bad character that is reported
although an operator before it is misplaced. -/
theorem reads_lexemes_zero :
    let text := "- 0 7 $".toList
    let other := "-07$".toList
    ofText "0 7) -".toList = .ok [number 7, closing, operator .sub] ∧
      ofText text = .error (.badCharacter '$' 6) ∧
      other.filter (fun c => !Text.isBlank c) = text.filter (fun c => !Text.isBlank c) ∧
      (ofText other).mapError ExprFault.unplaced = .error (.badCharacter '$' 0) := by
  intro text other
  have hspells : List.Forall₂ Spells (Lexeme.ofText "0 7) -".toList)
      [number 7, closing, operator .sub] :=
    .cons (.number rfl) (.cons (.closing 3) (.cons (.operator .sub 5) .nil))
  have hminus : Spells (.symbol '-' 0) (operator .sub) := .operator .sub 0
  have hseven : Spells (.digits [('0', 2), ('7', 4)]) (number 7) := .number rfl
  have hfault : FirstFault (Lexeme.ofText text) (.badCharacter '$' 6) := by
    refine @FirstFault.lexeme _ [.symbol '-' 0, .digits [('0', 2), ('7', 4)]] [] _ _ rfl ?_
      (.badCharacter (by decide))
    simpa using ⟨hminus.not_fails, hseven.not_fails⟩
  have hok := (reads_lexemes "0 7) -".toList).2.1 _ |>.mpr ⟨hspells, by decide⟩
  have herror := (reads_lexemes text).2.2.1 _ |>.mpr hfault
  have hblanks : other.filter (fun c => !Text.isBlank c) = text.filter (fun c => !Text.isBlank c) :=
    by decide
  have hother := (reads_lexemes text).2.2.2 other hblanks
  rw [herror] at hother
  exact ⟨hok, herror, hblanks, hother⟩

end Token
end ArithmeticGame
