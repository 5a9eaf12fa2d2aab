import ArithmeticGame.Proofs.Settings.Members
/-!
# Settings kept in a file

Settings that pass their check come back from the file exactly as they were saved, and those that
do not pass leave the file alone. Whatever stands in the file, the settings loaded from it pass; an
object that gives some of them keeps the defaults of the others.
-/
namespace ArithmeticGame

namespace Settings

def parse? (text : List UInt8) : Option Settings := (Json.Value.ofBytes text).bind ofJson?

theorem ofBytes_eq_ok_iff {text : List UInt8} {s : Settings} :
    ofBytes text = .ok s ↔ parse? text = some s ∧ s.check = .ok () := by
  unfold ofBytes parse?
  cases (Json.Value.ofBytes text).bind ofJson? with
  | none => simp
  | some parsed =>
    dsimp only
    by_cases hs : parsed = s
    · subst hs
      cases parsed.check <;> simp
    · cases parsed.check <;> simp [hs]

theorem check_default : default.check = .ok () := by decide +kernel

/-- Settings with the numbers that are given, and with the defaults for those that are not. -/
structure Completes (s : Settings) (entries : List (Setting × Int)) : Prop where
  given : ∀ entry ∈ entries, s.get entry.1 = entry.2
  missing : ∀ setting ∉ entries.map Prod.fst, s.get setting = default.get setting

theorem Completes.unique {s t : Settings} {entries : List (Setting × Int)}
    (hs : s.Completes entries) (ht : t.Completes entries) : s = t := by
  refine eq_of_get_eq fun setting => ?_
  by_cases hmem : setting ∈ entries.map Prod.fst
  · obtain ⟨entry, hentry, rfl⟩ := List.mem_map.1 hmem
    exact (hs.given entry hentry).trans (ht.given entry hentry).symm
  · exact (hs.missing setting hmem).trans (ht.missing setting hmem).symm

theorem Proper.completes {entries : List (Setting × Int)} (h : Proper entries) :
    (default.putAll entries).Completes entries where
  given _ hmem := get_putAll_of_mem h hmem default
  missing _ hmem := get_putAll_of_not_mem hmem default

theorem Holds.parse?_eq {text : List UInt8} {entries : List (Setting × Int)}
    (h : Holds text entries) (hproper : Proper entries) :
    parse? text = some (default.putAll entries) := by
  obtain ⟨members, htext, hgives⟩ := h
  rw [parse?, htext]
  exact readMembers?_eq hgives hproper (by simp) default

theorem parse?_bytes (s : Settings) : parse? s.bytes = some s := by
  have hholds : Holds s.bytes s.members := holds_of_spaced (spaced_objectText s.members)
  rw [hholds.parse?_eq s.proper_members, putAll_members]

end Settings

namespace FileState

theorem load?_file_eq_some_iff {text : List UInt8} {s : Settings} :
    (file text).load? = some s ↔ Settings.parse? text = some s ∧ s.check = .ok () := by
  have hload : (file text).load? = (Settings.ofBytes text).toOption := rfl
  rw [hload, ← Settings.ofBytes_eq_ok_iff]
  cases Settings.ofBytes text <;> simp [Except.toOption]

theorem load_of_load?_eq_some {state : FileState} {s : Settings} (h : state.load? = some s) :
    state.load = s := by
  rw [load, h, Option.getD_some]

theorem load_of_load?_eq_none {state : FileState} (h : state.load? = none) :
    state.load = .default := by
  rw [load, h, Option.getD_none]

theorem check_load (state : FileState) : state.load.check = .ok () := by
  cases hload : state.load? with
  | none =>
    rw [load_of_load?_eq_none hload]
    exact Settings.check_default
  | some s =>
    rw [load_of_load?_eq_some hload]
    cases state with
    | absent => cases hload
    | directory => cases hload
    | file text => exact (load?_file_eq_some_iff.1 hload).2

theorem save_eq_ok {s : Settings} (h : s.check = .ok ()) {state : FileState}
    (hstate : state ≠ directory) : state.save s = .ok (file s.bytes) := by
  cases state with
  | directory => exact absurd rfl hstate
  | absent => simp only [save, h]
  | file content => simp only [save, h]

theorem after_of_save_eq_error {s : Settings} {state after : FileState} {fault : SaveFault}
    (h : state.save s = @Saved.error after fault) : after = state := by
  unfold save at h
  split at h
  · cases h
    rfl
  · cases state with
    | directory =>
      cases h
      rfl
    | absent | file content => cases h

theorem save_of_check_eq_error {s : Settings} {fault : SettingsFault} (h : s.check = .error fault)
    (state : FileState) : ∃ after, state.save s = @Saved.error after (.invalid fault) := by
  simp only [save, h]
  exact ⟨state, rfl⟩

/-- Saved settings come back as they were; those with a fault are refused with it, and what stood
at the path before still stands there. -/
theorem load_save (s : Settings) (state : FileState) :
    (s.check = .ok () → state ≠ directory →
      ∃ after, state.save s = .ok after ∧ after.load? = some s ∧ after.load = s) ∧
    (∀ fault, s.check = .error fault →
      (∃ after, state.save s = @Saved.error after (.invalid fault)) ∧
        (state.save s).after = state) := by
  constructor
  · intro hcheck hstate
    have hload : (file s.bytes).load? = some s :=
      load?_file_eq_some_iff.2 ⟨s.parse?_bytes, hcheck⟩
    exact ⟨file s.bytes, save_eq_ok hcheck hstate, hload, load_of_load?_eq_some hload⟩
  · intro fault hfault
    obtain ⟨after, hsave⟩ := save_of_check_eq_error hfault state
    refine ⟨⟨after, hsave⟩, ?_⟩
    rw [hsave]
    exact after_of_save_eq_error hsave

theorem load_save_widest :
    let s : Settings := ⟨4294967295, 0, Int32.minValue, 18446744073709551615, 1, Int64.minValue,
      Int64.maxValue⟩
    (∃ after, absent.save s = .ok after ∧ after.load? = some s ∧ after.load = s) ∧
      (∃ after, (file [0x5B]).save { s with rounds := 0 } =
        @Saved.error after (.invalid .noRounds)) ∧
      ((file [0x5B]).save { s with rounds := 0 }).after = file [0x5B] :=
  ⟨(load_save _ absent).1 (by decide +kernel) (by decide),
    (load_save _ (file [0x5B])).2 .noRounds (by decide +kernel)⟩

/-- Loaded settings always pass their check. An object that gives some of them, in any order and
spelling, is loaded with the defaults for the others if that passes, and as the defaults if not. -/
theorem load_fills_in :
    (∀ state : FileState, state.load.check = .ok ()) ∧
    (∀ entries text, Settings.Proper entries → Settings.Holds text entries →
      ∃ s : Settings, s.Completes entries ∧
        (s.check = .ok () → (file text).load = s) ∧
        (s.check ≠ .ok () → (file text).load = .default)) ∧
    ∀ entries text, Json.Spaced (Json.objectWords (Settings.memberBytes entries)) text →
      Settings.Holds text entries := by
  refine ⟨check_load, ?_, fun _ _ => Settings.holds_of_spaced⟩
  intro entries text hproper hholds
  have hparse := hholds.parse?_eq hproper
  refine ⟨_, hproper.completes, ?_, ?_⟩
  · intro hcheck
    exact load_of_load?_eq_some (load?_file_eq_some_iff.2 ⟨hparse, hcheck⟩)
  · intro hcheck
    refine load_of_load?_eq_none (Option.eq_none_iff_forall_ne_some.2 fun s hs => hcheck ?_)
    obtain ⟨hparsed, hok⟩ := load?_file_eq_some_iff.1 hs
    obtain rfl := Option.some.inj (hparse.symm.trans hparsed)
    exact hok

theorem load_fills_in_twoMembers :
    let text := Json.bytes "\x7b \"\\u0072ounds\" :12,\n\"penalty_secs\":0\x7d".toList
    let tooHigh := Json.bytes "\x7b\"target_min\":2000\x7d".toList
    directory.load.check = .ok () ∧
      (file text).load = { Settings.default with rounds := 12, penalty := 0 } ∧
      (file tooHigh).load = .default := by
  intro text tooHigh
  have hfirst : Settings.Proper [(.rounds, 12), (.penalty, 0)] := ⟨by decide, by decide⟩
  have hsecond : Settings.Proper [(.targetMin, 2000)] := ⟨by decide, by decide⟩
  have hend : Json.Spaced [] [] := .spaces (by simp)
  have hwords :
      Json.Spaced (Json.objectWords (Settings.memberBytes [(.targetMin, 2000)])) tooHigh :=
    ((((hend.next .closeBrace).next (.bare (Json.integerText 2000))).next .colon).next
      (.string (Json.bytes Setting.targetMin.name.toList))).next .openBrace
  obtain ⟨hcheck, hloads, hwritten⟩ := load_fills_in
  obtain ⟨s, hs, hload, -⟩ := hloads _ text hfirst
    ⟨_, rfl, .cons ⟨by decide +kernel, rfl⟩ (.cons ⟨by decide +kernel, rfl⟩ .nil)⟩
  obtain ⟨t, ht, -, hdefault⟩ := hloads _ tooHigh hsecond (hwritten _ tooHigh hwords)
  obtain rfl := hs.unique hfirst.completes
  obtain rfl := ht.unique hsecond.completes
  exact ⟨hcheck directory, hload (by decide +kernel), hdefault (by decide +kernel)⟩

end FileState
end ArithmeticGame
