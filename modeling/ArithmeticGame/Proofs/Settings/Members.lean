import ArithmeticGame.Proofs.Json.Objects
import ArithmeticGame.Settings.Store
import Mathlib.Data.List.Forall2
/-!
# Settings and the members of an object

An object gives settings when each of its members has the name of one and a number that fits it. No
setting may be given twice; those that are not given keep the numbers that they had.
-/
namespace ArithmeticGame.Settings

/-! ## Numbers put and got -/

theorem toNat_ofInt32 {n : Int} (h : 0 ≤ n ∧ n < UInt32.size) :
    ((UInt32.ofInt n).toNat : Int) = n := by
  have hmod : n % 2 ^ 32 = n := Int.emod_eq_of_lt h.1 h.2
  have hlt : n.toNat < UInt32.size := (Int.toNat_lt h.1).2 h.2
  rw [UInt32.ofInt, hmod, UInt32.toNat_ofNat_of_lt' hlt, Int.toNat_of_nonneg h.1]

theorem toNat_ofInt64 {n : Int} (h : 0 ≤ n ∧ n < UInt64.size) :
    ((UInt64.ofInt n).toNat : Int) = n := by
  have hmod : n % 2 ^ 64 = n := Int.emod_eq_of_lt h.1 h.2
  have hlt : n.toNat < UInt64.size := (Int.toNat_lt h.1).2 h.2
  rw [UInt64.ofInt, hmod, UInt64.toNat_ofNat_of_lt' hlt, Int.toNat_of_nonneg h.1]

theorem toInt_ofInt64 {n : Int} (h : Int64.minValue.toInt ≤ n ∧ n ≤ Int64.maxValue.toInt) :
    (Int64.ofInt n).toInt = n :=
  Int64.toInt_ofInt_of_le h.1 (Int.lt_add_one_of_le h.2)

theorem fits_get (s : Settings) (setting : Setting) : setting.fits (s.get setting) = true := by
  have hword : ∀ w : UInt32, 0 ≤ (w.toNat : Int) ∧ (w.toNat : Int) < UInt32.size :=
    fun w => ⟨Int.natCast_nonneg _, Int.ofNat_lt.2 w.toNat_lt⟩
  have hwide : ∀ w : UInt64, 0 ≤ (w.toNat : Int) ∧ (w.toNat : Int) < UInt64.size :=
    fun w => ⟨Int.natCast_nonneg _, Int.ofNat_lt.2 w.toNat_lt⟩
  have htarget : ∀ w : Int64, Int64.minValue.toInt ≤ w.toInt ∧ w.toInt ≤ Int64.maxValue.toInt :=
    fun w => ⟨w.minValue_le_toInt, w.toInt_le⟩
  have hbonus := And.intro s.removalBonus.minValue_le_toInt s.removalBonus.toInt_le
  cases setting <;> simp only [Setting.fits, Bool.and_eq_true, decide_eq_true_eq]
  case timeBudget => exact hword _
  case penalty => exact hword _
  case removalBonus => exact hbonus
  case rounds => exact hwide _
  case poolSize => exact hwide _
  case targetMin => exact htarget _
  case targetMax => exact htarget _

theorem get_put_self (s : Settings) {setting : Setting} {n : Int} (h : setting.fits n = true) :
    (s.put setting n).get setting = n := by
  cases setting <;> simp only [Setting.fits, Bool.and_eq_true, decide_eq_true_eq] at h
  case timeBudget => exact toNat_ofInt32 h
  case penalty => exact toNat_ofInt32 h
  case removalBonus => exact Int32.toInt_ofInt_of_le h.1 (Int.lt_add_one_of_le h.2)
  case rounds => exact toNat_ofInt64 h
  case poolSize => exact toNat_ofInt64 h
  case targetMin => exact toInt_ofInt64 h
  case targetMax => exact toInt_ofInt64 h

theorem get_put_of_ne (s : Settings) {setting other : Setting} (h : other ≠ setting) (n : Int) :
    (s.put setting n).get other = s.get other := by
  cases setting <;> cases other <;> simp_all [put, get]

theorem eq_of_get_eq {s t : Settings} (h : ∀ setting, s.get setting = t.get setting) : s = t := by
  have hbudget : s.timeBudget = t.timeBudget := UInt32.toNat_inj.1 (Int.ofNat.inj (h .timeBudget))
  have hpenalty : s.penalty = t.penalty := UInt32.toNat_inj.1 (Int.ofNat.inj (h .penalty))
  have hbonus : s.removalBonus = t.removalBonus := Int32.toInt_inj.1 (h .removalBonus)
  have hrounds : s.rounds = t.rounds := UInt64.toNat_inj.1 (Int.ofNat.inj (h .rounds))
  have hpool : s.poolSize = t.poolSize := UInt64.toNat_inj.1 (Int.ofNat.inj (h .poolSize))
  have hmin : s.targetMin = t.targetMin := Int64.toInt_inj.1 (h .targetMin)
  have hmax : s.targetMax = t.targetMax := Int64.toInt_inj.1 (h .targetMax)
  cases s
  cases t
  simp_all

def putAll (s : Settings) (entries : List (Setting × Int)) : Settings :=
  entries.foldl (fun s entry => s.put entry.1 entry.2) s

theorem get_putAll_of_not_mem {setting : Setting} {entries : List (Setting × Int)}
    (h : setting ∉ entries.map Prod.fst) (s : Settings) :
    (s.putAll entries).get setting = s.get setting := by
  induction entries generalizing s with
  | nil => rfl
  | cons entry entries ih =>
    simp only [List.map_cons, List.mem_cons, not_or] at h
    exact (ih h.2 _).trans (s.get_put_of_ne h.1 entry.2)

/-- Numbers for some settings, none given twice and each in the range of its setting. -/
structure Proper (entries : List (Setting × Int)) : Prop where
  nodup : (entries.map Prod.fst).Nodup
  fits : ∀ entry ∈ entries, entry.1.fits entry.2 = true

theorem Proper.tail {entry : Setting × Int} {entries : List (Setting × Int)}
    (h : Proper (entry :: entries)) : Proper entries where
  nodup := (List.nodup_cons.1 h.nodup).2
  fits other hmem := h.fits other (List.mem_cons_of_mem _ hmem)

theorem Proper.not_mem {entry : Setting × Int} {entries : List (Setting × Int)}
    (h : Proper (entry :: entries)) : entry.1 ∉ entries.map Prod.fst :=
  (List.nodup_cons.1 h.nodup).1

theorem get_putAll_of_mem {entries : List (Setting × Int)} (h : Proper entries)
    {entry : Setting × Int} (hmem : entry ∈ entries) (s : Settings) :
    (s.putAll entries).get entry.1 = entry.2 := by
  induction entries generalizing s with
  | nil => cases hmem
  | cons first entries ih =>
    obtain rfl | hmem := List.mem_cons.1 hmem
    · exact (get_putAll_of_not_mem h.not_mem _).trans (s.get_put_self (h.fits _ (by simp)))
    · exact ih h.tail hmem _

theorem proper_members (s : Settings) : Proper s.members where
  nodup := by
    have hall : Setting.all.Nodup := by decide
    simpa [members, Function.comp_def] using hall
  fits entry hentry := by
    obtain ⟨setting, -, rfl⟩ := List.mem_map.1 hentry
    exact s.fits_get setting

theorem putAll_members (s t : Settings) : t.putAll s.members = s := by
  refine eq_of_get_eq fun setting => ?_
  have hall : setting ∈ Setting.all := by cases setting <;> decide
  have hmem : (setting, s.get setting) ∈ s.members := List.mem_map.2 ⟨setting, hall, rfl⟩
  exact get_putAll_of_mem s.proper_members hmem t

/-! ## Members read -/

/-- A member of an object gives a setting its number; the name may be spelt with escapes. -/
def Gives (member : List UInt8 × Json.Value) (entry : Setting × Int) : Prop :=
  Json.text? member.1 = some entry.1.name ∧ member.2.integer? = some entry.2

theorem find?_name (setting : Setting) :
    (Setting.all.find? fun other => other.name == setting.name) = some setting := by
  cases setting <;> rfl

theorem readMembers?_eq {members : List (List UInt8 × Json.Value)}
    {entries : List (Setting × Int)} (hgives : List.Forall₂ Gives members entries)
    (h : Proper entries) {seen : List Setting} (hseen : ∀ entry ∈ entries, entry.1 ∉ seen)
    (s : Settings) : s.readMembers? seen members = some (s.putAll entries) := by
  induction hgives generalizing seen s with
  | nil => rfl
  | @cons member entry members entries hgive hgives ih =>
    obtain ⟨key, value⟩ := member
    obtain ⟨hname : Json.text? key = _, hvalue : value.integer? = _⟩ := hgive
    have hnew : entry.1 ∉ seen := hseen entry (by simp)
    have hread : s.read? entry.1 value = some (s.put entry.1 entry.2) := by
      simp [read?, hvalue, h.fits entry (by simp)]
    have hlater : ∀ other ∈ entries, other.1 ∉ entry.1 :: seen := by
      intro other hother
      have hne : other.1 ≠ entry.1 := fun heq => h.not_mem (heq ▸ List.mem_map_of_mem hother)
      simp [hne, hseen other (List.mem_cons_of_mem _ hother)]
    simp only [readMembers?, hname, find?_name, hnew, hread, if_false, Option.bind_eq_bind,
      Option.bind_some]
    exact ih h.tail hlater (s.put entry.1 entry.2)

/-- A text is an object that gives some settings their numbers, in this order, and has no other
members. -/
def Holds (text : List UInt8) (entries : List (Setting × Int)) : Prop :=
  ∃ members, Json.Value.ofBytes text = some (.object members) ∧ List.Forall₂ Gives members entries

/-- The members of an object as they are written, each name without escapes. -/
def memberBytes (entries : List (Setting × Int)) : List (List UInt8 × List UInt8) :=
  entries.map fun entry => (Json.bytes entry.1.name.toList, Json.integerText entry.2)

theorem gives_integerText (entry : Setting × Int) :
    Gives (Json.bytes entry.1.name.toList, .bare (Json.integerText entry.2)) entry := by
  have hname : Json.text? (Json.bytes entry.1.name.toList) = some entry.1.name := by
    cases entry.1 <;> decide +kernel
  exact ⟨hname, Json.integer?_integerText entry.2⟩

theorem legible_name (setting : Setting) :
    (Json.Word.string (Json.bytes setting.name.toList)).Legible := by
  have hplain : (Json.bytes setting.name.toList).all Json.Word.isPlain = true := by
    cases setting <;> decide +kernel
  exact List.all_eq_true.1 hplain

theorem holds_of_spaced {entries : List (Setting × Int)} {text : List UInt8}
    (h : Json.Spaced (Json.objectWords (memberBytes entries)) text) : Holds text entries := by
  refine ⟨_, Json.ofBytes_of_spaced h ?_ ?_, ?_⟩
  · intro member hmember
    obtain ⟨entry, -, rfl⟩ := List.mem_map.1 hmember
    exact legible_name entry.1
  · intro member hmember
    obtain ⟨entry, -, rfl⟩ := List.mem_map.1 hmember
    exact Json.legible_integer entry.2
  · rw [memberBytes, List.map_map, List.forall₂_map_left_iff]
    exact List.forall₂_same.2 fun entry _ => gives_integerText entry

/-! ## The text that is written -/

theorem spaced_memberText (entry : Setting × Int) {words : List Json.Word} {text : List UInt8}
    (h : Json.Spaced words text) :
    Json.Spaced (.string (Json.bytes entry.1.name.toList) :: .colon ::
        .bare (Json.integerText entry.2) :: words)
      (Json.bytes (memberText entry) ++ text) := by
  have hvalue := (h.next (.bare (Json.integerText entry.2))).cons (b := 0x20) rfl
  have hkey := (hvalue.next .colon).next (.string (Json.bytes entry.1.name.toList))
  have htext : Json.bytes (memberText entry) ++ text =
      0x20 :: 0x20 :: (Json.Word.text (.string (Json.bytes entry.1.name.toList)) ++
        (Json.Word.colon.text ++ 0x20 :: (Json.integerText entry.2 ++ text))) := by
    obtain ⟨setting, n⟩ := entry
    have hbefore : Json.bytes "  \"".toList = [0x20, 0x20, 0x22] := by decide
    have hbetween : Json.bytes "\": ".toList = [0x22, 0x3A, 0x20] := by decide
    simp only [memberText, Json.bytes_append, hbefore, hbetween]
    simp [Json.integerText, Json.Word.text]
  rw [htext]
  exact (hkey.cons rfl).cons rfl

theorem spaced_memberLines (entries : List (Setting × Int)) {words : List Json.Word}
    {text : List UInt8} (h : Json.Spaced words text) :
    Json.Spaced (Json.memberWords (memberBytes entries) ++ words)
      (Json.bytes (memberLines entries) ++ text) := by
  fun_induction memberLines entries with
  | case1 => exact h
  | case2 entry => exact spaced_memberText entry h
  | case3 entry entries hne ih =>
    have hcomma := (ih.cons (b := 0x0A) rfl).next .comma
    have hentry := spaced_memberText entry hcomma
    cases entries with
    | nil => exact absurd rfl hne
    | cons next entries =>
      rw [Json.bytes_append, List.append_assoc]
      exact hentry

theorem spaced_objectText (entries : List (Setting × Int)) :
    Json.Spaced (Json.objectWords (memberBytes entries)) (Json.bytes (objectText entries)) := by
  have hend : Json.Spaced [] [] := .spaces (by simp)
  have hclose := (hend.next .closeBrace).cons (b := 0x0A) rfl
  have hopen := ((spaced_memberLines entries hclose).cons (b := 0x0A) rfl).next .openBrace
  rw [objectText, Json.bytes_append]
  exact hopen

end ArithmeticGame.Settings
