import ArithmeticGame.Json.Word
import Mathlib.Data.List.Chain
/-!
# Reading written words

A text in which words stand in their order, with any spaces around them, is read as these words.
Two bare words must not stand side by side, since without a space they run together.
-/
namespace ArithmeticGame.Json

theorem bytes_append (before after : List Char) :
    bytes (before ++ after) = bytes before ++ bytes after :=
  List.map_append

namespace Word

def text : Word → List UInt8
  | openBrace => [0x7B]
  | closeBrace => [0x7D]
  | openBracket => [0x5B]
  | closeBracket => [0x5D]
  | colon => [0x3A]
  | comma => [0x2C]
  | string raw => 0x22 :: raw ++ [0x22]
  | bare raw => raw

def isBare : Word → Bool
  | bare _ => true
  | _ => false

def isPlain (b : UInt8) : Bool := b != 0x22 && b != 0x5C && 0x20 ≤ b

/-- A bare word is a number or a name, and a string has no quotes and no escapes in it. -/
def Legible : Word → Prop
  | string raw => ∀ b ∈ raw, isPlain b = true
  | bare raw => bare? raw = some (bare raw) ∧ ∀ b ∈ raw, isBareByte b = true
  | _ => True

end Word

/-- A text in which words stand with any spaces before, between and behind them. -/
inductive Spaced : List Word → List UInt8 → Prop
  | spaces {gap : List UInt8} (hgap : ∀ b ∈ gap, isSpace b = true) : Spaced [] gap
  | word {gap text : List UInt8} {words : List Word} (hgap : ∀ b ∈ gap, isSpace b = true)
      (w : Word) (h : Spaced words text) : Spaced (w :: words) (gap ++ w.text ++ text)

/-- No two bare words stand side by side. -/
def Apart (words : List Word) : Prop :=
  words.IsChain fun v w => ¬ (v.isBare = true ∧ w.isBare = true)

theorem Spaced.cons {words : List Word} {text : List UInt8} {b : UInt8}
    (hb : isSpace b = true) (h : Spaced words text) : Spaced words (b :: text) := by
  cases h with
  | spaces hgap => exact .spaces (List.forall_mem_cons.2 ⟨hb, hgap⟩)
  | word hgap w h => exact .word (List.forall_mem_cons.2 ⟨hb, hgap⟩) w h

theorem Spaced.next {words : List Word} {text : List UInt8} (w : Word) (h : Spaced words text) :
    Spaced (w :: words) (w.text ++ text) :=
  have hgap : ∀ b ∈ ([] : List UInt8), isSpace b = true := by simp
  .word hgap w h

/-! ## One word -/

theorem scan_spaces {gap : List UInt8} (hgap : ∀ b ∈ gap, isSpace b = true) (rest : List UInt8) :
    scan .between (gap ++ rest) = scan .between rest := by
  induction gap with
  | nil => rfl
  | cons b gap ih =>
    have hb : begin? b = some ([], .between) := by simp [begin?, hgap b (by simp)]
    rw [List.cons_append, scan, hb]
    simp [ih fun b hb => hgap b (by simp [hb])]

theorem begin?_of_isBareByte {b : UInt8} (h : isBareByte b = true) :
    begin? b = some ([], .bare [b]) := by
  have hne : ∀ c, isBareByte c = false → (b == c) = false := by
    intro c hc
    rw [beq_eq_false_iff_ne]
    rintro rfl
    simp [h] at hc
  have hspace : isSpace b = false := by
    simp [isSpace, hne 0x20 rfl, hne 0x09 rfl, hne 0x0A rfl, hne 0x0D rfl]
  simp [begin?, hspace, h, hne 0x7B rfl, hne 0x7D rfl, hne 0x5B rfl, hne 0x5D rfl, hne 0x3A rfl,
    hne 0x2C rfl, hne 0x22 rfl]

theorem scan_bareBytes {raw : List UInt8} (h : ∀ b ∈ raw, isBareByte b = true)
    (seen rest : List UInt8) :
    scan (.bare seen) (raw ++ rest) = scan (.bare (raw.reverse ++ seen)) rest := by
  induction raw generalizing seen with
  | nil => rfl
  | cons b raw ih =>
    rw [List.cons_append, scan, if_pos (h b (by simp)), ih fun b hb => h b (by simp [hb])]
    simp

theorem scan_bareEnd {seen rest : List UInt8} {w : Word} (hw : bare? seen.reverse = some w)
    (h : ∀ b ∈ rest.head?, isBareByte b = false) :
    scan (.bare seen) rest = (scan .between rest).map (w :: ·) := by
  cases rest with
  | nil => simp [scan, hw]
  | cons b rest =>
    have hb : isBareByte b = false := h b rfl
    rw [scan, scan]
    simp only [hb, hw]
    cases begin? b with
    | none => rfl
    | some start =>
      obtain ⟨words, place⟩ := start
      cases hrest : scan place rest <;> simp [hrest]

theorem scan_plain {raw : List UInt8} (h : ∀ b ∈ raw, Word.isPlain b = true) (seen rest : List UInt8) :
    scan (.string seen) (raw ++ rest) = scan (.string (raw.reverse ++ seen)) rest := by
  induction raw generalizing seen with
  | nil => rfl
  | cons b raw ih =>
    obtain ⟨⟨hquote, hescape⟩, hle⟩ : (b ≠ 0x22 ∧ b ≠ 0x5C) ∧ 0x20 ≤ b := by
      simpa [Word.isPlain] using h b (by simp)
    have hlt : ¬ b < 0x20 := UInt8.not_lt.2 hle
    rw [List.cons_append, scan]
    simp [hquote, hescape, hlt, ih fun b hb => h b (by simp [hb])]

theorem scan_string {raw : List UInt8} (h : (Word.string raw).Legible) (rest : List UInt8) :
    scan .between ((Word.string raw).text ++ rest) =
      (scan .between rest).map (.string raw :: ·) := by
  have hbegin : begin? 0x22 = some ([], .string []) := rfl
  have hclosed : scan (.string raw.reverse) (0x22 :: rest) =
      (scan .between rest).map (.string raw :: ·) := by
    cases hrest : scan .between rest <;> simp [scan, hrest]
  rw [Word.text, List.append_assoc, List.cons_append, scan, hbegin]
  simp [scan_plain h, hclosed]

theorem scan_bare {raw rest : List UInt8} (h : (Word.bare raw).Legible)
    (hrest : ∀ b ∈ rest.head?, isBareByte b = false) :
    scan .between (raw ++ rest) = (scan .between rest).map (.bare raw :: ·) := by
  obtain ⟨hword, hbytes⟩ := h
  cases raw with
  | nil => cases hword
  | cons b raw =>
    have hrun := scan_bareBytes (fun c hc => hbytes c (List.mem_cons_of_mem b hc)) [b] rest
    have hseen : bare? (raw.reverse ++ [b]).reverse = some (.bare (b :: raw)) := by simpa using hword
    rw [List.cons_append, scan, begin?_of_isBareByte (hbytes b (by simp))]
    simp [hrun, scan_bareEnd hseen hrest]

/-! ## All words of a text -/

theorem Spaced.not_isBareByte {words : List Word} {text : List UInt8} (h : Spaced words text)
    (hw : ∀ w ∈ words.head?, w.isBare = false) : ∀ b ∈ text.head?, isBareByte b = false := by
  have hspace : ∀ {b : UInt8}, isSpace b = true → isBareByte b = false := by
    intro b hb
    simp only [isSpace, Bool.or_eq_true, beq_iff_eq] at hb
    obtain ((rfl | rfl) | rfl) | rfl := hb <;> rfl
  intro b hb
  cases h with
  | spaces hgap => exact hspace (hgap b (List.mem_of_mem_head? hb))
  | @word gap text words hgap w h =>
    cases gap with
    | cons c gap =>
      obtain rfl : c = b := by simpa using hb
      exact hspace (hgap c (by simp))
    | nil =>
      cases w with
      | bare raw => cases hw _ rfl
      | _ =>
        obtain rfl := Option.some.inj hb
        rfl

theorem words_of_spaced {words : List Word} {text : List UInt8} (h : Spaced words text)
    (hw : ∀ w ∈ words, w.Legible) (hapart : Apart words) : Json.words text = some words := by
  have hscan : scan .between text = some words := by
    induction h with
    | spaces hgap => simpa [scan] using scan_spaces hgap []
    | @word gap text words hgap w h ih =>
      have hrest := ih (fun v hv => hw v (by simp [hv])) hapart.of_cons
      have hlegible := hw w (by simp)
      rw [List.append_assoc, scan_spaces hgap]
      cases w with
      | string raw => rw [scan_string hlegible, hrest]; rfl
      | bare raw =>
        have hnext : ∀ b ∈ text.head?, isBareByte b = false := by
          refine h.not_isBareByte fun v hv => ?_
          simpa [Word.isBare] using (List.isChain_cons.1 hapart).1 v hv
        rw [Word.text, scan_bare hlegible hnext, hrest]
        rfl
      | _ =>
        simp [Word.text, scan, begin?, isSpace, hrest]
  exact hscan

end ArithmeticGame.Json
