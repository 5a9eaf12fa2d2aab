import ArithmeticGame.Proofs.Json.Integers
/-!
# Objects of bare values

A text with the words of an object, in any spacing, has that object as its value.
-/
namespace ArithmeticGame.Json

def memberWords : List (List UInt8 × List UInt8) → List Word
  | [] => []
  | [(key, raw)] => [.string key, .colon, .bare raw]
  | (key, raw) :: members => .string key :: .colon :: .bare raw :: .comma :: memberWords members

def objectWords (members : List (List UInt8 × List UInt8)) : List Word :=
  .openBrace :: memberWords members ++ [.closeBrace]

def object (members : List (List UInt8 × List UInt8)) : Value :=
  .object (members.map fun member => (member.1, .bare member.2))

theorem mem_memberWords {members : List (List UInt8 × List UInt8)} {w : Word}
    (h : w ∈ memberWords members) :
    w = .colon ∨ w = .comma ∨ ∃ member ∈ members, w = .string member.1 ∨ w = .bare member.2 := by
  fun_induction memberWords members with
  | case1 => cases h
  | case2 key raw =>
    simp only [List.mem_cons, List.not_mem_nil, or_false] at h
    obtain rfl | rfl | rfl := h <;> simp
  | case3 key raw members _ ih =>
    simp only [List.mem_cons] at h
    obtain rfl | rfl | rfl | rfl | h := h
    · simp
    · simp
    · simp
    · simp
    · obtain rfl | rfl | ⟨member, hmem, hw⟩ := ih h
      · simp
      · simp
      · exact .inr (.inr ⟨member, List.mem_cons_of_mem _ hmem, hw⟩)

theorem apart_memberWords (members : List (List UInt8 × List UInt8)) :
    Apart (memberWords members ++ [.closeBrace]) := by
  fun_induction memberWords members with
  | case1 => simp [Apart]
  | case2 key raw => simp [Apart, Word.isBare]
  | case3 key raw members _ ih =>
    have hcomma : Apart (.comma :: (memberWords members ++ [.closeBrace])) :=
      List.isChain_cons.2 ⟨by simp [Word.isBare], ih⟩
    simpa [Apart, Word.isBare] using hcomma

theorem foldlM_memberWords (first : List UInt8 × List UInt8)
    (members : List (List UInt8 × List UInt8)) (seen : List (List UInt8 × Value)) (mayEnd : Bool) :
    (memberWords (first :: members) ++ [Word.closeBrace]).foldlM Reading.step
        (Reading.key [.object seen] mayEnd) =
      some (.finished (.object (seen.reverse ++
        (first :: members).map fun member => (member.1, Value.bare member.2)))) := by
  induction members generalizing first seen mayEnd with
  | nil =>
    rw [List.map_singleton, ← List.reverse_cons]
    rfl
  | cons member members ih =>
    have hrest := ih member ((first.1, .bare first.2) :: seen) false
    rw [List.reverse_cons, List.append_assoc] at hrest
    exact hrest

theorem ofWords_objectWords (members : List (List UInt8 × List UInt8)) :
    Value.ofWords (objectWords members) = some (object members) := by
  have hread : (memberWords members ++ [Word.closeBrace]).foldlM Reading.step
      (Reading.key [.object []] true) = some (.finished (object members)) := by
    cases members with
    | nil => rfl
    | cons first members => exact foldlM_memberWords first members [] true
  have hwords : (objectWords members).foldlM Reading.step (Reading.value []) =
      some (.finished (object members)) := hread
  simp [Value.ofWords, hwords]

theorem ofBytes_of_spaced {members : List (List UInt8 × List UInt8)} {text : List UInt8}
    (h : Spaced (objectWords members) text)
    (hkeys : ∀ member ∈ members, (Word.string member.1).Legible)
    (hvalues : ∀ member ∈ members, (Word.bare member.2).Legible) :
    Value.ofBytes text = some (object members) := by
  have hlegible : ∀ w ∈ objectWords members, w.Legible := by
    intro w hw
    simp only [objectWords, List.cons_append, List.mem_cons, List.mem_append, List.not_mem_nil,
      or_false] at hw
    obtain rfl | hw | rfl := hw
    · trivial
    · obtain rfl | rfl | ⟨member, hmem, rfl | rfl⟩ := mem_memberWords hw
      · trivial
      · trivial
      · exact hkeys member hmem
      · exact hvalues member hmem
    · trivial
  have hapart : Apart (objectWords members) :=
    List.isChain_cons.2 ⟨by simp [Word.isBare], apart_memberWords members⟩
  simp [Value.ofBytes, words_of_spaced h hlegible hapart, ofWords_objectWords]

end ArithmeticGame.Json
