import ArithmeticGame.Text.Width
import Mathlib.Algebra.GroupWithZero.Nat
/-!
# The end of a text

A text that is too wide is shown from its end, one character more at a time until the next one does
not fit. Where characters do not join, their columns add up, and what is shown is the longest end
that fits.
-/
namespace ArithmeticGame.Text

/-- Each end of the text takes the columns of its characters. -/
def Additive (text : List Char) : Prop :=
  ∀ tail, tail <:+ text → width tail = (tail.map charWidth).sum

/-- A character that nothing before it joins, and that does not choose how another one is shown. -/
def IsLone (c : Char) : Prop := Start.ofChar c = .other ∧ Selector.ofChar? c = none

instance : DecidablePred IsLone := fun c =>
  inferInstanceAs (Decidable (Start.ofChar c = .other ∧ Selector.ofChar? c = none))

variable {room : Nat} {text tail taken before : List Char} {c : Char}

/-! ## Columns -/

theorem ofText_cons (c : Char) (text : List Char) :
    Measure.ofText (c :: text) = (Measure.ofText text).put c := rfl

theorem width_le_of_suffix (h : Additive text) (hlong : tail <:+ text) {short : List Char}
    (hshort : short <:+ tail) : width short ≤ width tail := by
  rw [h short (hshort.trans hlong), h tail hlong]
  obtain ⟨front, rfl⟩ := hshort
  simp

theorem put_of_isLone {m : Measure} (hm : m.front = .empty) (hc : IsLone c) :
    m.put c = ⟨m.columns + charWidth c, .empty⟩ := by
  obtain ⟨hstart, hselector⟩ := hc
  have hjoin : Start.other.join? c = none := by
    simp [Start.join?, Start.link?, Start.mark?, Start.isLetter, Start.joinLetter?,
      Start.joinEmoji?]
  have hput : Front.empty.put c = ((charWidth c : Int), Front.empty) := by
    simp [Front.put, Front.empty, Front.unselected, Start.put, hselector, hjoin, hstart]
  rw [Measure.put, hm, hput]
  rfl

theorem ofText_of_isLone (h : ∀ c ∈ text, IsLone c) :
    Measure.ofText text = ⟨(text.map charWidth).sum, .empty⟩ := by
  induction text with
  | nil => rfl
  | cons c text ih =>
    obtain ⟨hc, htext⟩ := List.forall_mem_cons.1 h
    rw [ofText_cons, put_of_isLone (by rw [ih htext]) hc, ih htext, List.map_cons, List.sum_cons,
      Nat.add_comm]

theorem additive_of_isLone (h : ∀ c ∈ text, IsLone c) : Additive text := by
  intro tail htail
  rw [width, ofText_of_isLone fun c hc => h c (htail.subset hc)]

/-! ## The end that fits -/

/-- The search ends where the text does, or before the first character that does not fit. -/
theorem takeFitting_spec (hfits : width taken ≤ room) (before : List Char) :
    let shown := takeFitting room taken (.ofText taken) before
    shown <:+ before.reverse ++ taken ∧ width shown ≤ room ∧
      ∀ front c, front ++ c :: shown = before.reverse ++ taken → room < width (c :: shown) := by
  induction before generalizing taken with
  | nil =>
    refine ⟨List.suffix_refl _, hfits, fun front c h => ?_⟩
    have hlength := congrArg List.length h
    simp only [takeFitting, List.length_append, List.length_cons, List.reverse_nil,
      List.length_nil] at hlength
    omega
  | cons c before ih =>
    rw [takeFitting, ← ofText_cons]
    split
    · next hnext =>
      simpa using ih hnext
    · next hnext =>
      refine ⟨List.suffix_append _ _, hfits, fun front d h => ?_⟩
      rw [List.reverse_cons, List.append_assoc, List.singleton_append] at h
      -- what stands right before the same end is the same character
      have hd : d = c := by
        have hlast := (List.append_inj' h (by simp)).2
        exact (List.cons.inj hlast).1
      rw [hd]
      exact Nat.lt_of_not_le hnext

theorem fittingEnd_spec (room : Nat) (text : List Char) :
    fittingEnd room text <:+ text ∧ width (fittingEnd room text) ≤ room ∧
      ∀ front c, front ++ c :: fittingEnd room text = text →
        room < width (c :: fittingEnd room text) := by
  by_cases h : width text ≤ room
  · rw [fittingEnd, if_pos h]
    refine ⟨List.suffix_refl _, h, fun front c hfront => ?_⟩
    have hlength := congrArg List.length hfront
    simp only [List.length_append, List.length_cons] at hlength
    omega
  · rw [fittingEnd, if_neg h]
    have hempty : width [] ≤ room := Nat.zero_le room
    have hspec := takeFitting_spec hempty text.reverse
    rwa [List.reverse_reverse, List.append_nil] at hspec

theorem lt_width_of_longer (h : Additive text) (htail : tail <:+ text)
    (hlength : (fittingEnd room text).length < tail.length) : room < width tail := by
  obtain ⟨hshown, -, hstop⟩ := fittingEnd_spec room text
  obtain ⟨front, hfront⟩ := List.suffix_of_suffix_length_le hshown htail (Nat.le_of_lt hlength)
  -- the character before the end that is shown is in the longer end as well
  have hne : front ≠ [] := by
    rintro rfl
    exact Nat.ne_of_lt hlength (congrArg List.length hfront)
  obtain ⟨first, c, rfl⟩ : ∃ first c, front = first ++ [c] :=
    ⟨front.dropLast, front.getLast hne, (List.dropLast_concat_getLast hne).symm⟩
  rw [List.append_assoc, List.singleton_append] at hfront
  obtain ⟨rest, hrest⟩ := htail
  have hnext : room < width (c :: fittingEnd room text) :=
    hstop (rest ++ first) c (by rw [List.append_assoc, hfront, hrest])
  exact Nat.lt_of_lt_of_le hnext (width_le_of_suffix h ⟨rest, hrest⟩ ⟨first, hfront⟩)

/-! ## Characters of one column -/

theorem ne_of_toNat_lt {d : Char} (h : c.toNat < 0xAD) (hd : 0xAD ≤ d.toNat) : c ≠ d := by
  rintro rfl
  omega

theorem charWidth_of_lt (h : c.toNat < 0xAD) : charWidth c = 1 := by
  have hzero : inRanges c.toNat zeroRanges = false := inRanges_of_lt ascendFrom_zeroRanges h
  have hwide : inRanges c.toNat wideRanges = false := inRanges_of_lt ascendFrom_wideRanges h
  have hthree : c ≠ '\u17d8' := ne_of_toNat_lt h (by decide)
  simp [charWidth, hzero, hwide, hthree]

theorem isLone_of_lt (h : c.toNat < 0xAD) (hne : c ≠ '\n') : IsLone c := by
  have hrange {ranges : List (Nat × Nat)} (ha : ascendFrom 0xAD ranges = true) :
      inRanges c.toNat ranges = false := inRanges_of_lt ha h
  have hchar {d : Char} (hd : 0xAD ≤ d.toNat) : c ≠ d := ne_of_toNat_lt h hd
  constructor
  · have hturkic : c.toNat ≠ 0x10C03 := by omega
    simp [Start.ofChar, hne, isAlef, isTifinaghConsonant, isStackable, isTone, isRegional,
      isPicture, hturkic, hrange ascendFrom_pictureRanges, hrange, ascendFrom, hchar]
  · simp [Selector.ofChar?, hchar]

theorem width_eq_length (h : ∀ c ∈ text, c.toNat < 0xAD ∧ c ≠ '\n') :
    width text = text.length := by
  have hlone : ∀ c ∈ text, IsLone c := fun c hc => isLone_of_lt (h c hc).1 (h c hc).2
  have hone : text.map charWidth = List.replicate text.length 1 :=
    List.map_eq_replicate_iff.2 fun c hc => charWidth_of_lt (h c hc).1
  rw [additive_of_isLone hlone text (List.suffix_refl text), hone, List.sum_replicate_nat,
    Nat.mul_one]

end ArithmeticGame.Text
