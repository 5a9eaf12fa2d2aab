import ArithmeticGame.Proofs.Binary64.Exact
import ArithmeticGame.Proofs.Pool.Lifecycle
import ArithmeticGame.Proofs.Result
/-!
# The rules of the pool

Which numbers an answer may use, and which rule it breaks first, said of the numbers themselves. The
check looks at floating point values instead; as long as the size of the pool is below `2 ^ 53` it
comes to the same.
-/
namespace ArithmeticGame.Pool

/-- The pool has the number, in whatever state. -/
def Holds (p : Pool) (n : UInt64) : Prop := 1 ≤ n.toNat ∧ n.toNat ≤ p.size

instance (p : Pool) (n : UInt64) : Decidable (p.Holds n) :=
  inferInstanceAs (Decidable (1 ≤ n.toNat ∧ n.toNat ≤ p.size))

/-- The pool has all the numbers, and none of them is there twice. -/
structure Fits (p : Pool) (ns : List UInt64) : Prop where
  holds : ∀ n ∈ ns, p.Holds n
  nodup : ns.Nodup

structure Admits (p : Pool) (ns : List UInt64) : Prop where
  ne_nil : ns ≠ []
  nodup : ns.Nodup
  available : ∀ n ∈ ns, p.state? n.toNat = some .available

/-- The first rule that the numbers break. Places in the pool are settled for all numbers before
any of their states is looked at. -/
inductive Breaks (p : Pool) : List UInt64 → PoolFault → Prop
  | noNumbers : Breaks p [] .noNumbers
  | outside {before after : List UInt64} {n : UInt64} (hf : p.Fits before) (hn : ¬ p.Holds n) :
      Breaks p (before ++ n :: after) (.outside n.toFloat p.size)
  | repeated {before after : List UInt64} {n : UInt64} (hf : p.Fits before) (hn : n ∈ before) :
      Breaks p (before ++ n :: after) (.repeated n.toNat)
  | taken {before after : List UInt64} {n : UInt64} (hf : p.Fits (before ++ n :: after))
      (hb : ∀ m ∈ before, p.state? m.toNat = some .available)
      (hn : p.state? n.toNat ≠ some .available) : Breaks p (before ++ n :: after) (.taken n.toNat)

variable {p : Pool} {ns before : List UInt64} {n : UInt64}

theorem Admits.fits (h : p.Admits ns) : p.Fits ns :=
  ⟨fun n hn => le_size_of_state? (h.available n hn), h.nodup⟩

theorem fits_concat : p.Fits (ns ++ [n]) ↔ p.Fits ns ∧ p.Holds n ∧ n ∉ ns := by
  constructor
  · rintro ⟨hholds, hnodup⟩
    rw [List.nodup_append] at hnodup
    refine ⟨⟨fun m hm => hholds m (by simp [hm]), hnodup.1⟩, hholds n (by simp), fun hn => ?_⟩
    exact hnodup.2.2 n hn n (by simp) rfl
  · rintro ⟨⟨hholds, hnodup⟩, hn, hnew⟩
    constructor
    · intro m hm
      rcases List.mem_append.1 hm with hm | hm
      · exact hholds m hm
      · exact List.mem_singleton.1 hm ▸ hn
    · simpa [List.nodup_append, hnodup] using fun m hm => ne_of_mem_of_not_mem hm hnew

/-! ## Floating point values as numbers of the pool -/

/-- Values that a word may be rounded to are beyond the pool if the word is. -/
theorem identify_toFloat (hsize : p.size < 2 ^ 53) (seen : List Nat) (n : UInt64) :
    p.identify seen n.toFloat =
      if p.Holds n then if n.toNat ∈ seen then .error (.repeated n.toNat) else .ok n.toNat
      else .error (.outside n.toFloat p.size) := by
  rw [identify]
  rcases Nat.lt_or_ge n.toNat (2 ^ 53) with h | h
  · rw [Binary64.toInt?_toFloat h.le]
    simp only [Int.toNat_natCast]
    by_cases hn : p.Holds n
    · rw [if_neg (by simp only [Holds] at hn; omega), if_pos hn]
    · rw [if_pos (by simp only [Holds] at hn; omega), if_neg hn]
  · obtain ⟨m, hm, hvalue⟩ := Binary64.toInt?_toFloat_of_le h
    have hn : ¬ p.Holds n := by simp only [Holds]; omega
    rw [hvalue, if_neg hn]
    simp only
    rw [if_pos (by omega)]

theorem identifyAll_append (hsize : p.size < 2 ^ 53) (hf : p.Fits before) {seen : List Nat}
    (hs : ∀ n ∈ before, n.toNat ∉ seen) (after : List UInt64) :
    p.identifyAll seen ((before ++ after).map UInt64.toFloat) =
      (p.identifyAll ((before.map UInt64.toNat).reverse ++ seen) (after.map UInt64.toFloat)).map
        (before.map UInt64.toNat ++ ·) := by
  induction before generalizing seen with
  | nil =>
    simp only [List.nil_append, List.map_nil, List.reverse_nil]
    cases p.identifyAll seen (after.map UInt64.toFloat) <;> rfl
  | cons first rest ih =>
    obtain ⟨hfirst, hnodup⟩ := List.nodup_cons.1 hf.nodup
    have hrest : p.Fits rest := ⟨fun n hn => hf.holds n (by simp [hn]), hnodup⟩
    have hseen : ∀ n ∈ rest, n.toNat ∉ first.toNat :: seen := by
      intro n hn hmem
      rcases List.mem_cons.1 hmem with heq | hmem
      · exact hfirst (UInt64.toNat_inj.1 heq ▸ hn)
      · exact hs n (by simp [hn]) hmem
    have hidentify : p.identify seen first.toFloat = .ok first.toNat := by
      rw [identify_toFloat hsize, if_pos (hf.holds first (by simp)), if_neg (hs first (by simp))]
    simp only [List.cons_append, List.map_cons, identifyAll, hidentify, ih hrest hseen, bind,
      Except.bind, List.reverse_cons, List.append_assoc, List.nil_append]
    cases p.identifyAll ((rest.map UInt64.toNat).reverse ++ first.toNat :: seen)
      (after.map UInt64.toFloat) <;> rfl

theorem identifyAll_of_fits (hsize : p.size < 2 ^ 53) (hf : p.Fits ns) :
    p.identifyAll [] (ns.map UInt64.toFloat) = .ok (ns.map UInt64.toNat) := by
  have hseen : ∀ n ∈ ns, n.toNat ∉ ([] : List Nat) := by simp
  have h := identifyAll_append hsize hf hseen []
  simpa [identifyAll, Except.map] using h

theorem identifyAll_of_not_fits (hsize : p.size < 2 ^ 53) (hf : p.Fits before)
    (after : List UInt64) {fault : PoolFault}
    (hn : p.identify (before.map UInt64.toNat).reverse n.toFloat = .error fault) :
    p.identifyAll [] ((before ++ n :: after).map UInt64.toFloat) = .error fault := by
  rw [identifyAll_append hsize hf (by simp), List.append_nil, List.map_cons, identifyAll, hn]
  rfl

/-! ## Admission -/

theorem accept_of_ne_nil {xs : List Float} (h : xs ≠ []) :
    p.accept xs = p.identifyAll [] xs >>= fun used =>
      match used.find? fun value => p.state? value != some .available with
      | some value => .error (.taken value)
      | none => .ok used := by
  have hempty : xs.isEmpty = false := by simpa using h
  rw [accept, hempty]
  rfl

theorem accept_of_admits (hsize : p.size < 2 ^ 53) (h : p.Admits ns) :
    p.accept (ns.map UInt64.toFloat) = .ok (ns.map UInt64.toNat) := by
  have hnone : (ns.map UInt64.toNat).find? (fun value => p.state? value != some .available) =
      none := by
    rw [List.find?_eq_none]
    intro value hvalue
    obtain ⟨n, hn, rfl⟩ := List.mem_map.1 hvalue
    simp [h.available n hn]
  rw [accept_of_ne_nil (by simpa using h.ne_nil), identifyAll_of_fits hsize h.fits]
  simp only [bind, Except.bind, hnone]

theorem accept_of_breaks (hsize : p.size < 2 ^ 53) {fault : PoolFault} (h : p.Breaks ns fault) :
    p.accept (ns.map UInt64.toFloat) = .error fault := by
  cases h with
  | noNumbers => rfl
  | @outside before after n hf hn =>
    have hidentify := identify_toFloat hsize (before.map UInt64.toNat).reverse n
    rw [if_neg hn] at hidentify
    rw [accept_of_ne_nil (by simp), identifyAll_of_not_fits hsize hf after hidentify]
    rfl
  | @repeated before after n hf hn =>
    have hseen : n.toNat ∈ (before.map UInt64.toNat).reverse := by
      rw [List.mem_reverse]
      exact List.mem_map_of_mem hn
    have hidentify := identify_toFloat hsize (before.map UInt64.toNat).reverse n
    rw [if_pos (hf.holds n hn), if_pos hseen] at hidentify
    rw [accept_of_ne_nil (by simp), identifyAll_of_not_fits hsize hf after hidentify]
    rfl
  | @taken before after n hf hb hn =>
    have hfirst : ((before ++ n :: after).map UInt64.toNat).find?
        (fun value => p.state? value != some .available) = some n.toNat := by
      rw [List.find?_eq_some_iff_append]
      refine ⟨by simpa using hn, before.map UInt64.toNat, after.map UInt64.toNat, by simp, ?_⟩
      intro value hvalue
      obtain ⟨m, hm, rfl⟩ := List.mem_map.1 hvalue
      simp [hb m hm]
    rw [accept_of_ne_nil (by simp), identifyAll_of_fits hsize hf]
    simp only [bind, Except.bind, hfirst]

theorem fits_or_exists_first (p : Pool) (ns : List UInt64) :
    p.Fits ns ∨ ∃ before n after,
      ns = before ++ n :: after ∧ p.Fits before ∧ (¬ p.Holds n ∨ n ∈ before) := by
  induction ns using List.reverseRecOn with
  | nil => exact .inl ⟨by simp, List.nodup_nil⟩
  | append_singleton ns n ih =>
    rcases ih with hf | ⟨before, m, after, rfl, hf, hm⟩
    · by_cases hn : p.Holds n ∧ n ∉ ns
      · exact .inl (fits_concat.2 ⟨hf, hn⟩)
      · refine .inr ⟨ns, n, [], rfl, hf, ?_⟩
        rwa [not_and_or, not_not] at hn
    · exact .inr ⟨before, m, after ++ [n], by simp, hf, hm⟩

theorem admits_or_breaks (p : Pool) (ns : List UInt64) :
    p.Admits ns ∨ ∃ fault, p.Breaks ns fault := by
  rcases p.fits_or_exists_first ns with hf | ⟨before, n, after, rfl, hf, hn | hn⟩
  · by_cases hne : ns = []
    · subst hne
      exact .inr ⟨_, .noNumbers⟩
    · cases hfind : ns.find? (fun n => p.state? n.toNat != some .available) with
      | none =>
        refine .inl ⟨hne, hf.nodup, fun n hn => ?_⟩
        simpa using List.find?_eq_none.1 hfind n hn
      | some n =>
        obtain ⟨hn, before, after, rfl, hb⟩ := List.find?_eq_some_iff_append.1 hfind
        exact .inr ⟨_, .taken hf (by simpa using hb) (by simpa using hn)⟩
  · exact .inr ⟨_, .outside hf hn⟩
  · exact .inr ⟨_, .repeated hf hn⟩

theorem accept_eq_iff (hsize : p.size < 2 ^ 53) (ns : List UInt64) :
    (∀ used, p.accept (ns.map UInt64.toFloat) = .ok used ↔
      p.Admits ns ∧ used = ns.map UInt64.toNat) ∧
    ∀ fault, p.accept (ns.map UInt64.toFloat) = .error fault ↔ p.Breaks ns fault := by
  refine eq_iff_of_or ?_ (fun _ => accept_of_breaks hsize) ?_
  · rintro used ⟨ha, rfl⟩
    exact accept_of_admits hsize ha
  · exact (p.admits_or_breaks ns).imp_left fun ha => ⟨_, ha, rfl⟩

theorem acceptText_of_ofText {text : List Char} {tokens : List Token}
    (ht : Token.ofText text = .ok tokens) :
    p.acceptText text = p.accept ((Token.numbers tokens).map UInt64.toFloat) := by
  rw [acceptText, ht]

theorem acceptText_eq_ok_iff (hsize : p.size < 2 ^ 53) {text : List Char} {used : List Nat} :
    p.acceptText text = .ok used ↔ ∃ tokens, Token.ofText text = .ok tokens ∧
      p.Admits (Token.numbers tokens) ∧ used = (Token.numbers tokens).map UInt64.toNat := by
  cases ht : Token.ofText text with
  | error fault => simp [acceptText, ht]
  | ok tokens => simp [acceptText_of_ofText ht, (accept_eq_iff hsize _).1]

theorem admits_of_acceptText (hsize : p.size < 2 ^ 53) {text : List Char} {tokens : List Token}
    {used : List Nat} (ht : Token.ofText text = .ok tokens) (h : p.acceptText text = .ok used) :
    p.Admits (Token.numbers tokens) := by
  obtain ⟨tokens', ht', ha, _⟩ := (acceptText_eq_ok_iff hsize).1 h
  cases ht.symm.trans ht'
  exact ha

theorem acceptText_eq_error_iff (hsize : p.size < 2 ^ 53) {text : List Char} {fault : PoolFault} :
    p.acceptText text = .error fault ↔
      (∃ unread, Token.ofText text = .error unread ∧ fault = .unreadable unread) ∨
      ∃ tokens, Token.ofText text = .ok tokens ∧ p.Breaks (Token.numbers tokens) fault := by
  cases ht : Token.ofText text with
  | error unread => simp [acceptText, ht, eq_comm]
  | ok tokens => simp [acceptText_of_ofText ht, (accept_eq_iff hsize _).2]

theorem admits_iff : p.Admits ns ↔ ns ≠ [] ∧ ns.Nodup ∧
    ∀ n ∈ ns, p.Holds n ∧ p.state? n.toNat = some .available := by
  constructor
  · intro h
    exact ⟨h.ne_nil, h.nodup, fun n hn => ⟨h.fits.holds n hn, h.available n hn⟩⟩
  · rintro ⟨hne, hnodup, hns⟩
    exact ⟨hne, hnodup, fun n hn => (hns n hn).2⟩

theorem not_breaks_fractional {x : Float} : ¬ p.Breaks ns (.fractional x) := by
  intro h
  cases h

/-- Whatever has been done to a pool, it admits the texts that can be read and have numbers, all
different and available in the pool. For any other text it reports what cannot be read, or else the
first rule that the numbers break; no number is ever taken for a fraction. -/
theorem admits_or_first_fault (size : Nat) (hsize : size < 2 ^ 53)
    (operations : List PoolOperation) (text : List Char) :
    let p := (full size).run operations
    p.size = size ∧
    (∀ used, p.acceptText text = .ok used ↔ ∃ tokens, Token.ofText text = .ok tokens ∧
      Token.numbers tokens ≠ [] ∧ (Token.numbers tokens).Nodup ∧
      (∀ n ∈ Token.numbers tokens, p.Holds n ∧ p.state? n.toNat = some .available) ∧
      used = (Token.numbers tokens).map UInt64.toNat) ∧
    (∀ fault, p.acceptText text = .error fault ↔
      (∃ unread, Token.ofText text = .error unread ∧ fault = .unreadable unread) ∨
      ∃ tokens, Token.ofText text = .ok tokens ∧ p.Breaks (Token.numbers tokens) fault) ∧
    ∀ x, p.acceptText text ≠ .error (.fractional x) := by
  intro p
  have hp : p.size = size := (size_run ..).trans (size_full size)
  have hbound : p.size < 2 ^ 53 := hp ▸ hsize
  refine ⟨hp, fun used => ?_, fun fault => acceptText_eq_error_iff hbound, fun x hx => ?_⟩
  · simp only [acceptText_eq_ok_iff hbound, admits_iff, and_assoc]
  · rcases (acceptText_eq_error_iff hbound).mp hx with ⟨_, -, hunread⟩ | ⟨_, -, hbreaks⟩
    · cases hunread
    · exact not_breaks_fractional hbreaks

/-- One number is used, one removed and one left. A number beyond the pool is reported before one
that is used, though it stands after it. -/
theorem admits_or_first_fault_three :
    let p := (full 3).run [.use [2], .discardAt 0]
    (3 : Nat) < 2 ^ 53 ∧ p.acceptText "(3".toList = .ok [3] ∧
      p.acceptText "2+1".toList = .error (.taken 2) ∧
      p.acceptText "2+18446744073709551615".toList =
        .error (.outside (18446744073709551615 : UInt64).toFloat 3) := by
  intro p
  have hsize : (3 : Nat) < 2 ^ 53 := by decide
  have hrules := admits_or_first_fault 3 hsize [.use [2], .discardAt 0]
  have hp : p.size = 3 := (hrules []).1
  have hused : p.state? 2 ≠ some .available := by decide
  have hleft : p.state? 3 = some .available := rfl
  have hholds : p.Holds 1 ∧ p.Holds 2 ∧ p.Holds 3 := by simp [Holds, hp]
  refine ⟨hsize, ?_, ?_, ?_⟩
  · refine ((hrules _).2.1 _).mpr ⟨[.opening, .number 3], rfl, by decide, by decide, ?_, rfl⟩
    simpa [Token.numbers] using ⟨hholds.2.2, hleft⟩
  · refine ((hrules _).2.2.1 _).mpr (.inr ⟨[.number 2, .operator .add, .number 1], rfl, ?_⟩)
    have hf : p.Fits [2, 1] := ⟨by simp [hholds], by decide⟩
    exact @Breaks.taken p [] [1] 2 hf (by simp) hused
  · refine ((hrules _).2.2.1 _).mpr
      (.inr ⟨[.number 2, .operator .add, .number 18446744073709551615], rfl, ?_⟩)
    have hf : p.Fits [2] := ⟨by simp [hholds], by decide⟩
    have hlarge : ¬ p.Holds 18446744073709551615 := by simp [Holds, hp]
    rw [← hp]
    exact @Breaks.outside p [2] [] _ hf hlarge

end ArithmeticGame.Pool
