import ArithmeticGame.Award
import Mathlib.Data.List.Nodup
import Mathlib.Data.Nat.Basic
import Mathlib.Order.Monotone.Defs
/-!
# The award that decides

A table is sorted once and then searched from its hardest award on. The points are those of the
award that needs most of all that are earned. Awards that need equally many are told apart by their
order in the list, which sorting does not touch.
-/
namespace ArithmeticGame

/-- Of the awards that are earned it needs most, and of those that need as many it stands first. -/
structure Award.Decides (award : Award) (awards : List Award) (correct : Nat) : Prop where
  earned : award.needed ≤ correct
  greatest : ∀ other ∈ awards, other.needed ≤ correct → other.needed ≤ award.needed
  first : ∃ before after, awards = before ++ award :: after ∧
    ∀ other ∈ before, other.needed ≠ award.needed

namespace Award

variable {award other : Award} {awards : List Award} {correct : Nat}

theorem Decides.mem (h : award.Decides awards correct) : award ∈ awards := by
  obtain ⟨before, after, hawards, _⟩ := h.first
  rw [hawards]
  exact List.mem_append_right _ List.mem_cons_self

theorem first_iff_find? : (∃ before after, awards = before ++ award :: after ∧
    ∀ other ∈ before, other.needed ≠ award.needed) ↔
    awards.find? (fun other => other.needed = award.needed) = some award := by
  rw [List.find?_eq_some_iff_append]
  simp

theorem Decides.unique (h : award.Decides awards correct) (h' : other.Decides awards correct) :
    award = other := by
  have hle : award.needed ≤ other.needed := h'.greatest award h.mem h.earned
  have hge : other.needed ≤ award.needed := h.greatest other h'.mem h'.earned
  have hneeded : award.needed = other.needed := Nat.le_antisymm hle hge
  have hfirst := first_iff_find?.mp h.first
  rw [hneeded, first_iff_find?.mp h'.first] at hfirst
  exact (Option.some.inj hfirst).symm

theorem Decides.of_perm {others : List Award} (h : award.Decides awards correct)
    (hp : others.Perm awards) (hd : (awards.map needed).Nodup) : award.Decides others correct where
  earned := h.earned
  greatest := by
    intro other hother hle
    exact h.greatest other (hp.mem_iff.mp hother) hle
  first := by
    have hmem : award ∈ others := hp.mem_iff.mpr h.mem
    obtain ⟨before, after, hothers⟩ := List.append_of_mem hmem
    refine ⟨before, after, hothers, ?_⟩
    have hnodup : (others.map needed).Nodup := (hp.map needed).nodup_iff.mpr hd
    rw [hothers, List.map_append, List.nodup_append] at hnodup
    intro other hother
    exact hnodup.2.2 _ (List.mem_map_of_mem hother) _ (by simp)

end Award

namespace AwardTable

variable {awards : List Award} {award : Award} {correct : Nat}

/-! ## The sorted table -/

theorem mem_ofList : award ∈ (ofList awards).awards ↔ award ∈ awards :=
  (List.mergeSort_perm _ _).mem_iff

private theorem order_trans (a b c : Award) (hab : decide (b.needed ≤ a.needed) = true)
    (hbc : decide (c.needed ≤ b.needed) = true) : decide (c.needed ≤ a.needed) = true := by
  simp only [decide_eq_true_eq] at hab hbc ⊢
  exact Nat.le_trans hbc hab

private theorem order_total (a b : Award) :
    (decide (b.needed ≤ a.needed) || decide (a.needed ≤ b.needed)) = true := by
  simpa using Nat.le_total b.needed a.needed

theorem pairwise_ofList (awards : List Award) :
    (ofList awards).awards.Pairwise fun a b => b.needed ≤ a.needed := by
  have hsorted := List.pairwise_mergeSort order_trans order_total awards
  simpa only [ofList, decide_eq_true_eq] using hsorted

/-- Sorting keeps the order of awards that need equally many. -/
theorem filter_ofList (awards : List Award) (needed : Nat) :
    (ofList awards).awards.filter (fun a => a.needed = needed) =
      awards.filter fun a => a.needed = needed := by
  let equals := awards.filter fun a => a.needed = needed
  have hpairs : equals.Pairwise fun a b => decide (b.needed ≤ a.needed) = true := by
    apply List.pairwise_of_forall_mem_list
    intro a ha b hb
    simp only [equals, List.mem_filter, decide_eq_true_eq] at ha hb
    simp [ha.2, hb.2]
  have hsub : equals.Sublist (ofList awards).awards :=
    List.sublist_mergeSort order_trans order_total hpairs List.filter_sublist
  have hself : equals.filter (fun a => a.needed = needed) = equals := by simp [equals]
  have hfiltered := hsub.filter fun a => decide (a.needed = needed)
  rw [hself] at hfiltered
  have hlength : equals.length =
      ((ofList awards).awards.filter fun a => a.needed = needed).length :=
    ((List.mergeSort_perm awards _).filter _).length_eq.symm
  exact (hfiltered.eq_of_length hlength).symm

/-! ## The search -/

theorem decides_of_find? (h : (ofList awards).awards.find? (fun a => a.needed ≤ correct) =
    some award) : award.Decides awards correct := by
  obtain ⟨hearned, before, after, htable, hbefore⟩ := List.find?_eq_some_iff_append.mp h
  have hsorted := pairwise_ofList awards
  rw [htable, List.pairwise_append, List.pairwise_cons] at hsorted
  have hunearned : ∀ other ∈ before, ¬ other.needed ≤ correct := by simpa using hbefore
  simp only [decide_eq_true_eq] at hearned
  constructor
  · exact hearned
  · intro other hother hle
    rw [← mem_ofList, htable, List.mem_append, List.mem_cons] at hother
    rcases hother with hother | rfl | hother
    · exact absurd hle (hunearned other hother)
    · exact Nat.le_refl _
    · exact hsorted.2.1.1 other hother
  · -- no award in front of it is earned, so none of those needs as many
    rw [Award.first_iff_find?, ← List.head?_filter, ← filter_ofList, List.head?_filter,
      List.find?_eq_some_iff_append]
    refine ⟨by simp, before, after, htable, ?_⟩
    intro other hother
    have hne : other.needed ≠ award.needed := fun heq => hunearned other hother (heq ▸ hearned)
    simpa using hne

theorem decides_or_unearned (awards : List Award) (correct : Nat) :
    (∃ award : Award, award.Decides awards correct) ∨ ∀ award ∈ awards, correct < award.needed := by
  cases h : (ofList awards).awards.find? fun a => a.needed ≤ correct with
  | some award => exact .inl ⟨award, decides_of_find? h⟩
  | none =>
    right
    intro award haward
    have hnot := List.find?_eq_none.mp h award (mem_ofList.mpr haward)
    simpa using hnot

theorem score_of_unearned (h : ∀ award ∈ awards, correct < award.needed) :
    (ofList awards).score correct = 0 := by
  have hnone : (ofList awards).awards.find? (fun a => a.needed ≤ correct) = none := by
    rw [List.find?_eq_none]
    intro award haward
    simpa using h award (mem_ofList.mp haward)
  rw [score, hnone]

theorem score_of_decides (h : award.Decides awards correct) :
    (ofList awards).score correct = award.points := by
  cases hfind : (ofList awards).awards.find? fun a => a.needed ≤ correct with
  | some other =>
    rw [score, hfind]
    exact congrArg Award.points ((decides_of_find? hfind).unique h)
  | none =>
    have hnot := List.find?_eq_none.mp hfind award (mem_ofList.mpr h.mem)
    exact absurd h.earned (by simpa using hnot)

theorem score_of_perm {others : List Award} (hp : others.Perm awards)
    (hd : (awards.map Award.needed).Nodup) (correct : Nat) :
    (ofList others).score correct = (ofList awards).score correct := by
  rcases decides_or_unearned awards correct with ⟨award, haward⟩ | hnone
  · rw [score_of_decides haward, score_of_decides (haward.of_perm hp hd)]
  · have hothers : ∀ award ∈ others, correct < award.needed :=
      fun award haward => hnone award (hp.mem_iff.mp haward)
    rw [score_of_unearned hnone, score_of_unearned hothers]

theorem monotone_score (h : ∀ a ∈ awards, ∀ b ∈ awards, a.needed < b.needed → a.points ≤ b.points) :
    Monotone (ofList awards).score := by
  intro fewer more hle
  rcases decides_or_unearned awards fewer with ⟨a, ha⟩ | hnone
  · have hearned : a.needed ≤ more := Nat.le_trans ha.earned hle
    rcases decides_or_unearned awards more with ⟨b, hb⟩ | hnone
    · rw [score_of_decides ha, score_of_decides hb]
      rcases Nat.lt_or_eq_of_le (hb.greatest a ha.mem hearned) with hlt | heq
      · exact h a ha.mem b hb.mem hlt
      · -- the award for the greater number decides for the lesser one too
        have hsame : b.Decides awards fewer := by
          refine ⟨heq ▸ ha.earned, ?_, hb.first⟩
          intro other hother hfewer
          exact heq ▸ ha.greatest other hother hfewer
        rw [ha.unique hsame]
    · exact absurd hearned (Nat.not_le.mpr (hnone a ha.mem))
  · rw [score_of_unearned hnone]
    exact Nat.zero_le _

/-- The points are those of the award that decides, or none if no award is earned. The order of
awards that need different numbers makes no difference, and if no award has more points than a
harder one, more right answers never score less. -/
theorem score_is_decided (awards : List Award) (correct : Nat) :
    (∀ award : Award, award.Decides awards correct → (ofList awards).score correct = award.points) ∧
    ((∀ award ∈ awards, correct < award.needed) → (ofList awards).score correct = 0) ∧
    ((∃ award : Award, award.Decides awards correct) ∨ ∀ award ∈ awards, correct < award.needed) ∧
    (∀ others, others.Perm awards → (awards.map Award.needed).Nodup →
      (ofList others).score correct = (ofList awards).score correct) ∧
    ((∀ a ∈ awards, ∀ b ∈ awards, a.needed < b.needed → a.points ≤ b.points) →
      Monotone (ofList awards).score) := by
  refine ⟨?_, score_of_unearned, decides_or_unearned awards correct, ?_, monotone_score⟩
  · intro award haward
    exact score_of_decides haward
  · intro others hp hd
    exact score_of_perm hp hd correct

/-- The first of two awards for ten right answers decides, wherever the easier ones stand. -/
theorem score_is_decided_tie :
    let awards : List Award := [⟨1, 1⟩, ⟨3, 10⟩, ⟨2, 10⟩, ⟨3, 30⟩]
    let others : List Award := [⟨3, 10⟩, ⟨0, 0⟩]
    (⟨3, 10⟩ : Award).Decides awards 12 ∧ (ofList awards).score 12 = 3 ∧
      (∀ award ∈ awards, 0 < award.needed) ∧ (ofList awards).score 0 = 0 ∧
      (others.reverse.Perm others ∧ (others.map Award.needed).Nodup) ∧
      (ofList others.reverse).score 12 = (ofList others).score 12 ∧
      (∀ a ∈ awards, ∀ b ∈ awards, a.needed < b.needed → a.points ≤ b.points) ∧
      Monotone (ofList awards).score := by
  intro awards others
  have hdecides : (⟨3, 10⟩ : Award).Decides awards 12 := by
    refine ⟨by decide, by decide, [⟨1, 1⟩], [⟨2, 10⟩, ⟨3, 30⟩], rfl, by decide⟩
  have hunearned : ∀ award ∈ awards, 0 < award.needed := by decide
  have hdistinct : (others.map Award.needed).Nodup := by decide
  have hpoints : ∀ a ∈ awards, ∀ b ∈ awards, a.needed < b.needed → a.points ≤ b.points := by decide
  have hperm : others.reverse.Perm others := List.reverse_perm others
  have hscore := (score_is_decided awards 12).1 _ hdecides
  have hzero := (score_is_decided awards 0).2.1 hunearned
  have hsame := (score_is_decided others 12).2.2.2.1 _ hperm hdistinct
  have hmonotone := (score_is_decided awards 12).2.2.2.2 hpoints
  exact ⟨hdecides, hscore, hunearned, hzero, ⟨hperm, hdistinct⟩, hsame, hpoints, hmonotone⟩

end AwardTable
end ArithmeticGame
