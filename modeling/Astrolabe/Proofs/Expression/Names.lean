import Astrolabe.Proofs.Expression.Evaluation
import Astrolabe.Proofs.Expression.Numeral
import Astrolabe.Proofs.Text.Compatibility
import Astrolabe.Proofs.Text.Lowercase

/-!
The lexer on known names. The names of constants and functions are read as they stand, in letters of
either case: none of them is a reserved word or begins a literal.
-/

namespace Astrolabe.Expression

open Number

/-- Whether a character is neither a blank nor a caret. -/
def isInk (c : Char) : Bool :=
  !Text.isBlank c && c != '^'

theorem isBlank_of_isInk {c : Char} (h : isInk c = true) : Text.isBlank c = false ∧ c ≠ '^' := by
  simpa [isInk] using h

/-- The known names in ASCII. -/
def asciiNames : List String :=
  "pi" :: "e" :: functionNames

/-- A known word is the letter pi, or a name in ASCII but for the case of its letters. -/
theorem spelled_of_known {text : String}
    (known : Text.lower text ∈ constantNames ++ functionNames) :
    (text.toList = ['π'] ∨ text.toList = ['Π']) ∨
      ∃ name ∈ asciiNames, text.toList.map Char.toLower = name.toList := by
  have plain : ∀ name ∈ asciiNames,
      (name.toList.all fun c => c.toNat < 128 ∧ c ≠ 'k') = true := by decide
  have split : ∀ name ∈ constantNames ++ functionNames, name = "π" ∨ name ∈ asciiNames := by
    decide
  obtain pi | mem := split _ known
  · exact .inl (Text.toList_of_lower_eq_pi pi)
  · exact .inr ⟨_, mem, (Text.lower_eq_iff (plain _ mem)).mp rfl⟩

/-- Characters that are one name for the lexer. -/
structure IsWord (cs : List Char) : Prop where
  first : ∃ c rest, cs = c :: rest ∧ c.isDigit = false
  parts : ∀ c ∈ cs, isWordPart c = true
  ink : ∀ c ∈ cs, isInk c = true
  token : wordToken? cs = some (.name (String.ofList cs))
  bare : literalMode? cs = none

theorem isWord_pi {c : Char} (h : c = 'π' ∨ c = 'Π') : IsWord [c] := by
  have outside : 128 ≤ c.toNat := by obtain rfl | rfl := h <;> decide
  have notKeyword : keywords.contains (String.ofList [c]) = false := by
    obtain rfl | rfl := h <;> decide
  have name : Text.isName [c] = true := by obtain rfl | rfl := h <;> decide +kernel
  refine ⟨⟨c, [], rfl, Text.ascii_isDigit_of_outside outside⟩, ?_, ?_, ?_,
    literalMode?_of_outside outside⟩
  · exact fun d mem => List.mem_singleton.mp mem ▸ isWordPart_of_outside outside
  · intro d mem
    obtain rfl := List.mem_singleton.mp mem
    obtain rfl | rfl := h <;> decide
  · rw [wordToken?, if_neg (ne_true_of_eq_false notKeyword), if_pos name,
      Text.compatibilityForm_pi c h]

theorem letter_of_toLower {c d : Char} (letter : d.isAlpha = true ∧ d.toNat < 128)
    (h : c.toLower = d) : c.isAlpha = true ∧ c.toNat < 128 := by
  have ascii : c.toNat < 128 := Text.ascii_of_toLower (h ▸ letter.2)
  exact ⟨Text.forall_ascii (P := fun c => c.toLower.isAlpha = true → c.isAlpha = true) (by decide)
    ascii (h ▸ letter.1), ascii⟩

theorem isWord_letters {cs : List Char} {name : String} (mem : name ∈ asciiNames)
    (h : cs.map Char.toLower = name.toList) : IsWord cs := by
  have nonempty : ∀ name ∈ asciiNames, name.toList ≠ [] := by decide
  have letters : ∀ name ∈ asciiNames,
      (name.toList.all fun d => d.isAlpha = true ∧ d.toNat < 128) = true := by decide
  have reserved : ∀ name ∈ asciiNames, ∀ word ∈ keywords,
      word.toList.map Char.toLower ≠ name.toList := by decide
  have lowered : ∀ name ∈ asciiNames, name.toList.map Char.toLower = name.toList := by decide
  have modes : ∀ name ∈ asciiNames, (literalMode? name.toList).isNone = true := by decide
  have letter : ∀ c ∈ cs, c.isAlpha = true ∧ c.toNat < 128 := fun c inside =>
    letter_of_toLower (of_decide_eq_true (List.all_eq_true.mp (letters name mem) _
      (h ▸ List.mem_map_of_mem inside))) rfl
  have kinds : ∀ c ∈ cs, isWordPart c = true ∧ isInk c = true ∧ c.isDigit = false ∧
      Text.isNameStart c = true ∧ Text.isNamePart c = true := fun c inside =>
    Text.forall_ascii (P := fun c => c.isAlpha = true → isWordPart c = true ∧ isInk c = true ∧
      c.isDigit = false ∧ Text.isNameStart c = true ∧ Text.isNamePart c = true) (by decide)
      (letter c inside).2 (letter c inside).1
  have begun : cs ≠ [] := by
    rintro rfl
    exact nonempty name mem h.symm
  obtain ⟨c, rest, rfl⟩ := List.exists_cons_of_ne_nil begun
  have notKeyword : keywords.contains (String.ofList (c :: rest)) = false :=
    Bool.eq_false_iff.mpr fun found => reserved name mem _ (List.contains_iff_mem.mp found) (by
      rw [String.toList_ofList, h])
  have isName : Text.isName (c :: rest) = true := by
    rw [Text.isName, (kinds c (List.mem_cons_self ..)).2.2.2.1, Bool.true_and]
    exact List.all_eq_true.mpr fun d inside => (kinds d (List.mem_cons_of_mem _ inside)).2.2.2.2
  have plain : Text.compatibilityForm (String.ofList (c :: rest)) = String.ofList (c :: rest) :=
    Text.compatibilityForm_of_ascii fun d inside => (letter d (by simpa using inside)).2
  refine ⟨⟨c, rest, rfl, (kinds c (List.mem_cons_self ..)).2.2.1⟩,
    fun d inside => (kinds d inside).1, fun d inside => (kinds d inside).2.1, ?_, ?_⟩
  · rw [wordToken?, if_neg (ne_true_of_eq_false notKeyword), if_pos isName, plain]
  · have same : literalMode? (c :: rest) = literalMode? name.toList := by
      unfold literalMode?
      rw [h, lowered name mem]
    rw [same]
    exact Option.isNone_iff_eq_none.mp (modes name mem)

/-- The name of a constant or a function is one name for the lexer, in letters of either case. -/
theorem isWord_of_known {text : String}
    (known : Text.lower text ∈ constantNames ++ functionNames) : IsWord text.toList := by
  obtain (pi | pi) | ⟨name, mem, h⟩ := spelled_of_known known
  · exact pi ▸ isWord_pi (.inl rfl)
  · exact pi ▸ isWord_pi (.inr rfl)
  · exact isWord_letters mem h

end Astrolabe.Expression
