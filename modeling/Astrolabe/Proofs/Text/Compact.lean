import Astrolabe.Proofs.Text.Blank
import Astrolabe.Proofs.Text.Lowercase

/-!
Small letters and blanks. The small letters of a text are found letter by letter but for the form of
sigma, which depends on the letters around it. A letter is blank just where its small letter is. So,
up to the form of sigma, blanks may be left out before or after a text is put in lower case, and it
makes no difference whether they were left out at its ends.
-/

namespace Astrolabe.Text

/-! Blanks. -/

/-- The blanks outside ASCII. -/
def blankCodes : List Nat :=
  [0x85, 0xA0, 0x1680] ++ List.range' 0x2000 11 ++ [0x2028, 0x2029, 0x202F, 0x205F, 0x3000]

theorem isBlank_iff {c : Char} (outside : 128 ≤ c.toNat) :
    isBlank c = true ↔ c.toNat ∈ blankCodes := by
  simp only [isBlank, blankCodes, Bool.or_eq_true, Bool.and_eq_true, decide_eq_true_eq, beq_iff_eq,
    List.mem_append, List.mem_cons, List.mem_range'_1, List.not_mem_nil, or_false]
  omega

/-- No blank is a capital. -/
theorem blankCodes_lowerChar :
    (blankCodes.all fun code => lowerChar (Char.ofNat code) == Char.ofNat code) = true := by
  rw [lowerChar_eq_smallLetter]
  decide +kernel

/-- No small letter is a blank. -/
theorem capitalRuns_visible :
    (capitalRuns.toList.all fun run => blankCodes.all fun code =>
      code < run.image || run.image + (run.last - run.first) < code) = true := by
  decide +kernel

theorem lowerChar_of_blank {c : Char} (blank : isBlank c = true) : lowerChar c = c := by
  obtain ascii | outside := Nat.lt_or_ge c.toNat 128
  · rw [lowerChar, if_pos ascii]
    exact forall_ascii (P := fun c => isBlank c = true → c.toLower = c) (by decide) ascii blank
  · have same := List.all_eq_true.mp blankCodes_lowerChar c.toNat ((isBlank_iff outside).mp blank)
    rwa [Char.ofNat_toNat, beq_iff_eq] at same

theorem isBlank_lowerChar (c : Char) : isBlank (lowerChar c) = isBlank c := by
  cases blank : isBlank c with
  | true => rw [lowerChar_of_blank blank, blank]
  | false =>
      obtain ascii | outside := Nat.lt_or_ge c.toNat 128
      · rw [lowerChar, if_pos ascii]
        exact forall_ascii (P := fun c => isBlank c = false → isBlank c.toLower = false) (by decide)
          ascii blank
      · obtain same | isK | ⟨run, mem, far, low, high, code⟩ := lowerChar_cases outside
        · rw [same, blank]
        · rw [isK]
          rfl
        · refine Bool.eq_false_iff.mpr fun blank => ?_
          have apart := List.all_eq_true.mp (List.all_eq_true.mp capitalRuns_visible run mem) _
            ((isBlank_iff (by omega)).mp blank)
          rw [Bool.or_eq_true, decide_eq_true_eq, decide_eq_true_eq] at apart
          omega

theorem filter_dropWhile_isBlank (s : List Char) :
    (s.dropWhile isBlank).filter (fun c => !isBlank c) = s.filter fun c => !isBlank c := by
  induction s with
  | nil => rfl
  | cons c rest ih => cases blank : isBlank c <;> simp [blank, ih]

/-- A text without blanks is the same whether or not they are left out at the ends first. -/
theorem compact_strip (s : String) : compact (strip s) = compact s := by
  rw [compact, strip, String.toList_ofList, stripEnd, stripStart, List.filter_reverse,
    filter_dropWhile_isBlank, List.filter_reverse, List.reverse_reverse, filter_dropWhile_isBlank,
    compact]

/-! Sigma. -/

/-- A character, but for the small sigma at the end of a word the one inside a word. -/
def foldSigma (c : Char) : Char :=
  if c == 'ς' then 'σ' else c

theorem isBlank_foldSigma (c : Char) : isBlank (foldSigma c) = isBlank c := by
  rw [foldSigma]
  split
  next final =>
    rw [eq_of_beq final]
    rfl
  next => rfl

/-- The small letters of a text with one form of sigma. -/
def folded (s : String) : List Char :=
  (lower s).toList.map foldSigma

/-- The small letters of a character with one form of sigma. -/
def foldedLetters (c : Char) : List Char :=
  if c == 'İ' then ['i', '\u0307'] else [foldSigma (lowerChar c)]

theorem map_foldSigma_lowerFrom (before s : List Char) :
    (lowerFrom before s).map foldSigma = s.flatMap foldedLetters := by
  induction s generalizing before with
  | nil => rfl
  | cons c rest ih =>
      rw [lowerFrom, List.map_append, ih, List.flatMap_cons]
      congr 1
      split
      next sigma =>
        -- both forms are one, and a sigma is no dotted capital I
        obtain rfl := eq_of_beq sigma
        split <;> decide +kernel
      next =>
        rw [foldedLetters]
        split <;> rfl

theorem folded_eq (s : String) : folded s = s.toList.flatMap foldedLetters := by
  rw [folded, lower, String.toList_ofList, map_foldSigma_lowerFrom]

theorem filter_foldedLetters (c : Char) :
    (foldedLetters c).filter (fun d => !isBlank d) = if isBlank c then [] else foldedLetters c := by
  rw [foldedLetters]
  split
  next dotted =>
    rw [eq_of_beq dotted]
    rfl
  next =>
    rw [List.filter_singleton, isBlank_foldSigma, isBlank_lowerChar]
    cases isBlank c <;> rfl

/-- Blanks may be left out before or after a text is put in lower case. -/
theorem folded_compact (s : String) :
    folded (compact s) = (folded s).filter fun c => !isBlank c := by
  rw [folded_eq, folded_eq, compact, String.toList_ofList]
  induction s.toList with
  | nil => rfl
  | cons c rest ih =>
      rw [List.flatMap_cons, List.filter_append, filter_foldedLetters, ← ih]
      cases blank : isBlank c <;> simp [blank]

/-- Texts that agree in lower case, without the blanks around them, agree without blanks. -/
theorem folded_compact_congr {s t : String} (h : lower (strip s) = lower (strip t)) :
    folded (compact s) = folded (compact t) := by
  rw [← compact_strip s, ← compact_strip t, folded_compact, folded_compact, folded, folded, h]

/-- Whether a text is without small sigmas. -/
def lacksSigma (w : String) : Bool :=
  w.toList.all fun c => c != 'σ' && c != 'ς'

/-- A text without small sigmas is known by its letters with one form of sigma. -/
theorem lower_eq_iff_folded {s w : String} (h : lacksSigma w = true) :
    lower s = w ↔ folded s = w.toList := by
  simp only [lacksSigma, List.all_eq_true, Bool.and_eq_true, bne_iff_ne] at h
  rw [← String.toList_inj, folded]
  generalize (lower s).toList = letters
  have fixed (plain : ∀ c ∈ letters, c ≠ 'ς') : letters.map foldSigma = letters := by
    refine (List.map_congr_left fun c mem => ?_).trans (List.map_id letters)
    exact if_neg fun final => plain c mem (eq_of_beq final)
  constructor
  · rintro rfl
    exact fixed fun c mem => (h c mem).2
  · intro same
    -- a final sigma would have been folded to a small sigma, and there is none
    have plain : ∀ c ∈ letters, c ≠ 'ς' := by
      rintro _ mem rfl
      exact (h 'σ' (same ▸ List.mem_map_of_mem mem)).1 rfl
    exact (fixed plain).symm.trans same

end Astrolabe.Text
