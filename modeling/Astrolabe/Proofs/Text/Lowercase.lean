import Mathlib
import Astrolabe.Text.Lowercase

/-!
Words in ASCII and the texts whose small letters they are. A capital outside ASCII has its small
letter outside ASCII too, but for the Kelvin sign, whose small letter is k.
-/

namespace Astrolabe.Text

/-- What holds of all ASCII characters can be checked. -/
theorem forall_ascii {P : Char → Prop} (h : ∀ n < 128, P (Char.ofNat n)) {c : Char}
    (ascii : c.toNat < 128) : P c := by
  have := h c.toNat ascii
  rwa [Char.ofNat_toNat] at this

/-- All code points that a run gives are characters outside ASCII. -/
def MappedRun.leavesAscii (run : MappedRun) : Bool :=
  128 ≤ run.image &&
    (run.image + (run.last - run.first) < 0xD800 ||
      0xE000 ≤ run.image && run.image + (run.last - run.first) < 0x110000)

/-- The only code point that a run gives is that of k. -/
def MappedRun.givesK (run : MappedRun) : Bool :=
  run.first == run.last && run.image == 'k'.toNat

theorem capitalRuns_all :
    capitalRuns.all (fun run => run.leavesAscii || run.givesK) = true := by
  decide +kernel

theorem toNat_ofNat {n : Nat} (h : n < 0xD800 ∨ 0xE000 ≤ n ∧ n < 0x110000) :
    (Char.ofNat n).toNat = n := by
  have valid : n.isValidChar := h.imp_right fun ⟨low, high⟩ => ⟨by omega, high⟩
  rw [Char.ofNat, dif_pos valid]
  rfl

/-- The small letter of a capital outside ASCII lies as far behind the first one of its run. -/
theorem lowerChar_cases {c : Char} (h : 128 ≤ c.toNat) :
    lowerChar c = c ∨ lowerChar c = 'k' ∨
      ∃ run ∈ capitalRuns.toList, 128 ≤ run.image ∧ run.first ≤ c.toNat ∧ c.toNat ≤ run.last ∧
        (lowerChar c).toNat = run.image + (c.toNat - run.first) := by
  rw [lowerChar, if_neg (by omega)]
  split
  next code found =>
    right
    obtain ⟨run, mem, image⟩ := Array.exists_of_findSome?_eq_some found
    have checked := Array.all_eq_true'.mp capitalRuns_all run mem
    simp only [MappedRun.image?, Option.ite_none_right_eq_some, Bool.and_eq_true,
      decide_eq_true_eq, Option.some.injEq] at image
    obtain ⟨⟨⟨low, high⟩, -⟩, rfl⟩ := image
    simp only [MappedRun.leavesAscii, MappedRun.givesK, Bool.or_eq_true, Bool.and_eq_true,
      decide_eq_true_eq, beq_iff_eq] at checked
    obtain ⟨outside, valid⟩ | ⟨alone, image⟩ := checked
    · exact .inr ⟨run, Array.mem_toList_iff.mpr mem, outside, low, high, toNat_ofNat (by omega)⟩
    · left
      rw [image, show c.toNat - run.first = 0 by omega]
      rfl
  next => exact .inl rfl

theorem lowerChar_of_not_ascii {c : Char} (h : 128 ≤ c.toNat) :
    128 ≤ (lowerChar c).toNat ∨ lowerChar c = 'k' := by
  obtain same | isK | ⟨run, -, outside, -, -, code⟩ := lowerChar_cases h
  · exact .inl (same.symm ▸ h)
  · exact .inr isK
  · omega

theorem toLower_of_not_ascii {c : Char} (h : 128 ≤ c.toNat) : c.toLower = c := by
  have above : ¬c.val ≤ 'Z'.val := by
    intro below
    have : c.toNat ≤ 90 := below
    omega
  rw [Char.toLower, dif_neg fun capital => above capital.2]

theorem ascii_of_toLower {c : Char} (h : c.toLower.toNat < 128) : c.toNat < 128 := by
  refine Nat.lt_of_not_le fun outside => ?_
  rw [toLower_of_not_ascii outside] at h
  omega

/-- A character has the small letter d, in ASCII and not k, just where it has it in ASCII. -/
theorem lowerChar_eq_iff {c d : Char} (ascii : d.toNat < 128) (notK : d ≠ 'k') :
    lowerChar c = d ↔ c.toLower = d := by
  by_cases small : c.toNat < 128
  · rw [lowerChar, if_pos small]
  · have outside := Nat.not_lt.mp small
    rw [toLower_of_not_ascii outside]
    refine iff_of_false ?_ fun same => small (same ▸ ascii)
    rintro rfl
    obtain far | isK := lowerChar_of_not_ascii outside
    · omega
    · exact notK isK

theorem lowerFrom_eq_iff {before s w : List Char} (word : ∀ c ∈ w, c.toNat < 128 ∧ c ≠ 'k') :
    lowerFrom before s = w ↔ s.map Char.toLower = w := by
  induction s generalizing before w with
  | nil => rfl
  | cons c rest ih =>
      rw [lowerFrom]
      split
      next sigma =>
        -- neither form of a small sigma is in ASCII
        obtain rfl := eq_of_beq sigma
        refine iff_of_false (fun same => ?_) (fun same => ?_) <;> subst same
        · split at word <;> exact absurd (word _ (List.mem_cons_self ..)).1 (by decide)
        · exact absurd (word _ (List.mem_cons_self ..)).1 (by decide)
      next =>
        split
        next dotted =>
          -- the dot above is not in ASCII
          obtain rfl := eq_of_beq dotted
          refine iff_of_false (fun same => ?_) (fun same => ?_) <;> subst same
          · exact absurd (word '\u0307' (by simp)).1 (by decide)
          · exact absurd (word _ (List.mem_cons_self ..)).1 (by decide)
        next =>
          cases w with
          | nil => simp
          | cons d w =>
              obtain ⟨⟨ascii, notK⟩, word⟩ := List.forall_mem_cons.mp word
              rw [List.singleton_append, List.cons.injEq, List.map_cons, List.cons.injEq, ih word,
                lowerChar_eq_iff ascii notK]

/-- The small letters of a text are a word in ASCII without a k just where they are so letter by
letter. -/
theorem lower_eq_iff {s w : String}
    (word : (w.toList.all fun c => c.toNat < 128 ∧ c ≠ 'k') = true) :
    lower s = w ↔ s.toList.map Char.toLower = w.toList := by
  have letters : ∀ c ∈ w.toList, c.toNat < 128 ∧ c ≠ 'k' := fun c mem =>
    of_decide_eq_true (List.all_eq_true.mp word c mem)
  rw [← lowerFrom_eq_iff letters, lower, ← String.toList_inj, String.toList_ofList]

/-- The only capital of the letter pi is the Greek one. -/
theorem capitalRuns_pi :
    (capitalRuns.toList.all fun run =>
      (run.image + (run.last - run.first) < 'π'.toNat || 'π'.toNat < run.image ||
        run.first + ('π'.toNat - run.image) == 'Π'.toNat)) = true := by
  decide +kernel

theorem lowerChar_eq_pi {c : Char} (h : lowerChar c = 'π') : c = 'π' ∨ c = 'Π' := by
  obtain ascii | outside := Nat.lt_or_ge c.toNat 128
  · rw [lowerChar, if_pos ascii] at h
    exact absurd h (forall_ascii (P := fun c => c.toLower ≠ 'π') (by decide) ascii)
  obtain same | isK | ⟨run, mem, -, low, high, code⟩ := lowerChar_cases outside
  · exact .inl (same.symm.trans h)
  · exact absurd (isK.symm.trans h) (by decide)
  · right
    have checked := List.all_eq_true.mp capitalRuns_pi run mem
    simp only [Bool.or_eq_true, decide_eq_true_eq, beq_iff_eq] at checked
    rw [h] at code
    exact Char.toNat_inj.mp (by omega)

theorem lowerFrom_cons_ne_nil (before : List Char) (c : Char) (rest : List Char) :
    lowerFrom before (c :: rest) ≠ [] := by
  rw [lowerFrom]
  split
  next => split <;> exact nofun
  next => split <;> exact nofun

/-- A text whose small letters are the letter pi is that letter, small or capital. -/
theorem toList_of_lower_eq_pi {s : String} (h : lower s = "π") :
    s.toList = ['π'] ∨ s.toList = ['Π'] := by
  have letters : lowerFrom [] s.toList = ['π'] := by
    rw [← String.toList_inj, lower, String.toList_ofList] at h
    exact h
  cases chars : s.toList with
  | nil => rw [chars] at letters; cases letters
  | cons c rest =>
      rw [chars, lowerFrom] at letters
      split at letters
      next => split at letters <;> cases letters
      next =>
        split at letters
        next => cases letters
        next =>
          obtain ⟨letter, behind⟩ := List.cons.inj letters
          cases rest with
          | nil => exact (lowerChar_eq_pi letter).imp (congrArg (· :: [])) (congrArg (· :: []))
          | cons d more => exact absurd behind (lowerFrom_cons_ne_nil _ _ _)

/-! Small letters along a list. A check of many names evaluates them in this form, since a search
through the array of runs takes long. -/

/-- The small letter of a character, sought along the list of the runs of capitals. -/
def smallLetter (c : Char) : Char :=
  if c.toNat < 128 then c.toLower
  else ((capitalRuns.toList.findSome? fun run => run.image? c.toNat).map Char.ofNat).getD c

theorem lowerChar_eq_smallLetter : lowerChar = smallLetter := by
  funext c
  rw [lowerChar, smallLetter, Array.findSome?_toList]
  cases capitalRuns.findSome? fun run => run.image? c.toNat <;> rfl

/-- The small letters of a text, given the part before it in reverse. -/
def smallLettersFrom (before : List Char) : List Char → List Char
  | [] => []
  | c :: rest =>
    (if c == 'Σ' then (if meetsCased before && !meetsCased rest then ['ς'] else ['σ'])
      else if c == 'İ' then ['i', '\u0307']
      else [smallLetter c]) ++ smallLettersFrom (c :: before) rest

theorem lowerFrom_eq_smallLettersFrom (before s : List Char) :
    lowerFrom before s = smallLettersFrom before s := by
  induction s generalizing before with
  | nil => rfl
  | cons c rest ih => rw [lowerFrom, smallLettersFrom, ih, lowerChar_eq_smallLetter]

/-- A text in small letters. -/
def smallLetters (s : String) : String :=
  String.ofList (smallLettersFrom [] s.toList)

theorem lower_eq_smallLetters : lower = smallLetters := by
  funext s
  rw [lower, lowerFrom_eq_smallLettersFrom, smallLetters]

end Astrolabe.Text
