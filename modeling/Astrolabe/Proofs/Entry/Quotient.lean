import Astrolabe.Proofs.Entry
import Astrolabe.Proofs.Expression.Evaluation
import Astrolabe.Proofs.Expression.Operand
import Astrolabe.Proofs.Text.Blank

/-!
Quotients against the general notation. A text with a slash and without parentheses is split at its
last slash, whatever operators stand on either side. Each side has the value that the general
notation gives it, so the whole has it too where the last slash is the operator that is applied
last.
-/

namespace Astrolabe

namespace Expression

theorem tree?_strip (s : String) : tree? (Text.strip s) = tree? s := by
  rw [tree?, Text.strip_strip, tree?]

theorem evaluate_strip (s : String) : evaluate (Text.strip s) = evaluate s := by
  rw [evaluate, tree?_strip, evaluate]

theorem evaluate_eq_ok_iff {s : String} {x : Float} :
    evaluate s = .ok x ↔ ∃ e, tree? s = some e ∧ e.value = .ok x := by
  unfold evaluate
  cases tree? s with
  | none => exact ⟨nofun, nofun⟩
  | some e =>
      refine ⟨fun value => ⟨e, rfl, value⟩, ?_⟩
      rintro ⟨_, ⟨⟩, value⟩
      exact value

end Expression

namespace Entry

open Expression Number

theorem numeral?_eq {s : String} {x y : Float} (h : numeral? (Text.strip s) = some x)
    (value : evaluate s = .ok y) : x = y := by
  obtain ⟨e, tree, value⟩ := evaluate_eq_ok_iff.mp value
  obtain ⟨read, finite⟩ := Option.filter_eq_some_iff.mp h
  exact Except.ok.inj ((value_of_signedNumeral? read finite tree).symm.trans value)

theorem constantNamed?_eq {s : String} {x y : Float}
    (h : constantNamed? (Text.lower (Text.strip s)) = some x) (value : evaluate s = .ok y) :
    x = y := by
  obtain ⟨e, tree, value⟩ := evaluate_eq_ok_iff.mp value
  exact Except.ok.inj ((value_of_constantNamed? h tree).symm.trans value)

theorem finiteValue_eq_ok {s : String} {x : Float} (value : evaluate s = .ok x)
    (finite : x.isFinite = true) : finiteValue (Text.strip s) = .ok x := by
  unfold finiteValue
  rw [evaluate_strip, value]
  exact if_pos finite

/-- One side of a quotient has the value that the general notation gives it, if that is finite. -/
theorem operand_eq_ok {s : String} {x : Float} (value : evaluate s = .ok x)
    (finite : x.isFinite = true) : operand s = .ok x := by
  unfold operand
  dsimp only
  split
  next c constant => rw [constantNamed?_eq constant value]
  next =>
    split
    next c numeral => rw [numeral?_eq numeral value]
    next => rw [finiteValue_eq_ok value finite]; rfl

theorem operand_eq {s : String} {x y : Float} (h : operand s = .ok x)
    (value : evaluate s = .ok y) : x = y := by
  unfold operand at h
  dsimp only at h
  split at h
  next c constant => rw [← Except.ok.inj h, constantNamed?_eq constant value]
  next =>
    split at h
    next c numeral => rw [← Except.ok.inj h, numeral?_eq numeral value]
    next =>
      unfold finiteValue at h
      rw [evaluate_strip, value] at h
      dsimp only at h
      split at h
      next => exact (Except.ok.inj h).symm
      next => cases h

/-! Quotients. -/

theorem evaluate_of_blank {s : List Char} (blank : s.all Text.isBlank = true) :
    evaluate (String.ofList s) = .error .notAnExpression := by
  have noTree : (Expr.ofText? (String.ofList [])).isNone = true := by decide +kernel
  have blankTree : tree? (String.ofList s) = none := by
    rw [tree?, Text.strip_of_blank blank]
    exact Option.isNone_iff_eq_none.mp noTree
  rw [evaluate, blankTree]

/-- A quotient divides the values of its parts. -/
theorem quotient_eq_ok {s : String} {before after : List Char} {x y : Float}
    (split : splitAtLastSlash? s.toList = some (before, after))
    (left : evaluate (String.ofList before) = .ok x) (leftFinite : x.isFinite = true)
    (right : evaluate (String.ofList after) = .ok y) (rightFinite : y.isFinite = true)
    (nonzero : (y == 0) = false) (finite : (x / y).isFinite = true) :
    quotient s = .ok (x / y) := by
  have visible {t : List Char} {z : Float} (value : evaluate (String.ofList t) = .ok z) :
      t.all Text.isBlank = false := by
    refine Bool.eq_false_iff.mpr fun blank => ?_
    rw [evaluate_of_blank blank] at value
    cases value
  unfold quotient
  simp only [split, visible left, visible right, Bool.or_self, Bool.false_eq_true, if_false,
    operand_eq_ok left leftFinite, operand_eq_ok right rightFinite, bind, Except.bind, nonzero,
    finite, if_true]

theorem quotient_eq {s : String} {before after : List Char} {x y z : Float}
    (split : splitAtLastSlash? s.toList = some (before, after))
    (left : evaluate (String.ofList before) = .ok x)
    (right : evaluate (String.ofList after) = .ok y) (h : quotient s = .ok z) : z = x / y := by
  unfold quotient at h
  rw [split] at h
  dsimp only at h
  split at h
  next => cases h
  next =>
    obtain ⟨p, hp, h⟩ := Except.bind_eq_ok_iff.mp h
    obtain ⟨q, hq, h⟩ := Except.bind_eq_ok_iff.mp h
    rw [operand_eq hp left, operand_eq hq right] at h
    split at h
    next => cases h
    next =>
      split at h
      next => exact (Except.ok.inj h).symm
      next => cases h

/-- The operator that a text applies last is the division at its last slash. -/
def DividesAtLastSlash (s : String) : Prop :=
  ∃ before after left right,
    splitAtLastSlash? s.toList = some (before, after) ∧
      tree? (String.ofList before) = some left ∧ tree? (String.ofList after) = some right ∧
      tree? s = some (.binary .div left right)

theorem quotient_eq_evaluate {s : String} {x y : Float} (divides : DividesAtLastSlash s)
    (h : quotient s = .ok x) (value : evaluate s = .ok y) : x = y := by
  obtain ⟨before, after, left, right, split, hl, hr, whole⟩ := divides
  obtain ⟨e, tree, value⟩ := evaluate_eq_ok_iff.mp value
  obtain rfl := Option.some.inj (tree.symm.trans whole)
  cases Expr.value_eq_ok_iff.mp value with
  | binary hp hq result =>
      cases result with
      | div nonzero =>
          exact quotient_eq split (evaluate_eq_ok_iff.mpr ⟨left, hl, Expr.value_eq_ok_iff.mpr hp⟩)
            (evaluate_eq_ok_iff.mpr ⟨right, hr, Expr.value_eq_ok_iff.mpr hq⟩) h

/-! Texts without a degree mark. -/

theorem dropDegreeMark?_eq_none {s : List Char} :
    dropDegreeMark? s = none ↔ ∀ mark ∈ degreeMarks,
      ¬mark <+: (s.reverse.dropWhile Text.isBlank).map foldLetter := by
  simp only [dropDegreeMark?, Option.map_eq_none_iff, List.find?_eq_none,
    List.isPrefixOf_iff_prefix]

theorem dropDegreeMark?_strip {s : String} (unmarked : hasDegreeMark (.text s) = false) :
    dropDegreeMark? (Text.strip s).toList = none := by
  have absent : dropDegreeMark? s.toList = none :=
    Option.isNone_iff_eq_none.mp (Option.isSome_eq_false_iff.mp unmarked)
  rw [dropDegreeMark?_eq_none] at absent ⊢
  exact fun mark mem begins =>
    absent mark mem (begins.trans ((Text.reverse_strip_prefix s).map foldLetter))

theorem textValue_of_unmarked {s : String} (unmarked : hasDegreeMark (.text s) = false) :
    textValue s = number (Text.strip s) (Text.strip s) := by
  unfold textValue
  dsimp only
  rw [dropDegreeMark?_strip unmarked]

theorem isPlainQuotient_iff {s : String} :
    isPlainQuotient s = true ↔ '/' ∈ s.toList ∧ '(' ∉ s.toList ∧ ')' ∉ s.toList := by
  simp [isPlainQuotient, String.contains_char_eq, and_assoc]

theorem numeral?_of_slash {s : String} (slash : '/' ∈ s.toList) : numeral? s = none := by
  refine Option.eq_none_iff_forall_ne_some.mpr fun x numeral => ?_
  obtain ⟨read, -⟩ := Option.filter_eq_some_iff.mp numeral
  exact not_mem_of_signedNumeral? read (by decide) rfl slash

theorem number_of_quotient {s whole : String} {x : Float} (plain : isPlainQuotient s = true)
    (h : quotient s = .ok x) : number s whole = .ok x := by
  unfold number
  rw [numeral?_of_slash (isPlainQuotient_iff.mp plain).1, if_pos plain, h]
  rfl

/-- A text has the value of the general notation, unless it is split into a quotient of another
value. -/
theorem number_of_evaluate {s whole : String} {y : Float} (value : evaluate s = .ok y)
    (finite : y.isFinite = true)
    (agree : ∀ x, isPlainQuotient (Text.strip s) = true → quotient (Text.strip s) = .ok x → x = y) :
    number (Text.strip s) whole = .ok y := by
  unfold number
  split
  next x numeral => rw [numeral?_eq numeral value]
  next =>
    split
    next x split =>
      split at split
      next plain =>
        cases result : quotient (Text.strip s) with
        | ok z =>
            rw [result] at split
            cases split
            rw [agree x plain result]
        | error r => rw [result] at split; cases split
      next => cases split
    next => rw [finiteValue_eq_ok value finite]

/-! Texts in parentheses. -/

theorem parenthesized_toList (s : String) :
    ("(" ++ s ++ ")").toList = '(' :: s.toList ++ [')'] := by
  rw [String.toList_append, String.toList_append]
  rfl

theorem strip_parenthesized (s : String) : Text.strip ("(" ++ s ++ ")") = "(" ++ s ++ ")" :=
  Text.strip_of_visible (parenthesized_toList s) (by decide) (by decide)

theorem parenthesized_unmarked (s : String) : hasDegreeMark (.text ("(" ++ s ++ ")")) = false := by
  have unmarked : dropDegreeMark? ("(" ++ s ++ ")").toList = none := by
    rw [dropDegreeMark?_eq_none, parenthesized_toList, List.reverse_append]
    have other : ∀ mark ∈ degreeMarks, mark.head? ≠ some ')' ∧ mark ≠ [] := by decide
    intro mark mem begins
    cases mark with
    | nil => exact (other _ mem).2 rfl
    | cons c rest =>
        change c :: rest <+: foldLetter ')' :: _ at begins
        have : c = ')' := (List.cons_prefix_cons.mp begins).1
        exact (other _ mem).1 (this ▸ rfl)
  exact Option.isSome_eq_false_iff.mpr (Option.isNone_iff_eq_none.mpr unmarked)

theorem textValue_parenthesized {s : String} {y : Float}
    (value : evaluate ("(" ++ s ++ ")") = .ok y) (finite : y.isFinite = true) :
    textValue ("(" ++ s ++ ")") = .ok y := by
  rw [textValue_of_unmarked (parenthesized_unmarked s)]
  refine number_of_evaluate value finite fun x plain => ?_
  rw [strip_parenthesized, isPlainQuotient_iff, parenthesized_toList] at plain
  exact absurd (List.mem_cons_self ..) plain.2.1

/-- A text without a degree mark that the general notation gives a finite value has this value as an
entry, unless it is read as a quotient although its last slash is not the operator applied last. A
quotient has the value of its left part divided by that of its right part, whatever operators the
parts have. In parentheses a text always has its value in the general notation. -/
theorem textValue_eq_evaluate {s : String} (unmarked : hasDegreeMark (.text s) = false) :
    (∀ y, evaluate s = .ok y → y.isFinite = true →
        (∀ x, isPlainQuotient (Text.strip s) = true → quotient (Text.strip s) = .ok x →
          DividesAtLastSlash (Text.strip s)) →
        textValue s = .ok y) ∧
      (∀ before after x y, isPlainQuotient (Text.strip s) = true →
        splitAtLastSlash? (Text.strip s).toList = some (before, after) →
        evaluate (String.ofList before) = .ok x → x.isFinite = true →
        evaluate (String.ofList after) = .ok y → y.isFinite = true →
        (y == 0) = false → (x / y).isFinite = true → textValue s = .ok (x / y)) ∧
      ∀ y, evaluate ("(" ++ s ++ ")") = .ok y → y.isFinite = true →
        textValue ("(" ++ s ++ ")") = .ok y := by
  refine ⟨fun y value finite divides => ?_, ?_, fun y => textValue_parenthesized⟩
  · rw [textValue_of_unmarked unmarked]
    refine number_of_evaluate value finite fun x plain read => ?_
    exact quotient_eq_evaluate (divides x plain read) read ((evaluate_strip s).trans value)
  · intro before after x y plain split left leftFinite right rightFinite nonzero finite
    rw [textValue_of_unmarked unmarked]
    exact number_of_quotient plain
      (quotient_eq_ok split left leftFinite right rightFinite nonzero finite)

/-- Whether two trees are the same arithmetic on whole numbers. -/
def sameArithmetic : Expr → Expr → Bool
  | .whole m, .whole n => m == n
  | .binary op a b, .binary op' a' b' => op == op' && sameArithmetic a a' && sameArithmetic b b'
  | _, _ => false

theorem eq_of_sameArithmetic {e e' : Expr} (h : sameArithmetic e e' = true) : e = e' := by
  fun_induction sameArithmetic e e' with
  | case1 m n => rw [eq_of_beq h]
  | case2 op a b op' a' b' iha ihb =>
      obtain ⟨⟨op, left⟩, right⟩ := by simpa only [Bool.and_eq_true, beq_iff_eq] using h
      rw [op, iha left, ihb right]
  | case3 => cases h

theorem tree?_eq {s : String} {e : Expr} (h : (tree? s).any (sameArithmetic e) = true) :
    tree? s = some e := by
  obtain ⟨e', read, same⟩ := (Option.any_eq_true _ _).mp h
  rw [read, eq_of_sameArithmetic same]

theorem evaluate_eq {s : String} {x : Float} (h : (evaluate s).toOption = some x) :
    evaluate s = .ok x := by
  cases value : evaluate s with
  | ok y => rw [value] at h; exact congrArg _ (Option.some.inj h)
  | error e => rw [value] at h; cases h

/-- Quotients in a row are divided from the left, as a quotient and in parentheses. -/
theorem textValue_slashes :
    textValue "1/2/4" = .ok 0.125 ∧ textValue "1/2/4" = .ok (0.5 / 4) ∧
      textValue "(1/2/4)" = .ok 0.125 := by
  have ends : Text.strip "1/2/4" = "1/2/4" := by decide
  have split : splitAtLastSlash? "1/2/4".toList = some ("1/2".toList, ['4']) := by decide
  have divides : DividesAtLastSlash "1/2/4" :=
    ⟨_, _, .binary .div (.whole 1) (.whole 2), .whole 4, split, tree?_eq (by decide +kernel),
      tree?_eq (by decide +kernel), tree?_eq (by decide +kernel)⟩
  obtain ⟨general, parts, parenthesized⟩ :=
    textValue_eq_evaluate (s := "1/2/4") (by decide +kernel)
  rw [ends] at general parts
  refine ⟨general _ (evaluate_eq (by decide +kernel)) (by decide +kernel) fun _ _ _ => divides,
    parts _ _ 0.5 4 (isPlainQuotient_iff.mpr (by decide)) split ?_ ?_ ?_ ?_ ?_ ?_,
    parenthesized _ (evaluate_eq (by decide +kernel)) (by decide +kernel)⟩
  · exact evaluate_eq (by decide +kernel)
  · decide +kernel
  · exact evaluate_eq (by decide +kernel)
  all_goals decide +kernel

/-- A sum in front of a slash is divided as a whole, which parentheses undo. -/
theorem textValue_sum_slash :
    hasDegreeMark (.text "1+2/4") = false ∧ evaluate "1+2/4" = .ok 1.5 ∧
      Float.isFinite 1.5 = true ∧ textValue "1+2/4" = .ok 0.75 ∧ (0.75 : Float) ≠ 1.5 ∧
      textValue "(1+2/4)" = .ok 1.5 := by
  have unmarked : hasDegreeMark (.text "1+2/4") = false := by decide +kernel
  have ends : Text.strip "1+2/4" = "1+2/4" := by decide
  have split : splitAtLastSlash? "1+2/4".toList = some ("1+2".toList, ['4']) := by decide
  have sum : evaluate "1+2" = .ok 3 := evaluate_eq (by decide +kernel)
  have four : evaluate (String.ofList ['4']) = .ok 4 := evaluate_eq (by decide +kernel)
  have read : quotient "1+2/4" = .ok (3 / 4) :=
    quotient_eq_ok split sum (by decide +kernel) four (by decide +kernel) (by decide +kernel)
      (by decide +kernel)
  have ratio : (3 / 4 : Float) = 0.75 := by decide +kernel
  refine ⟨unmarked, evaluate_eq (by decide +kernel), by decide +kernel, ?_, by decide +kernel,
    textValue_parenthesized (s := "1+2/4") (evaluate_eq (by decide +kernel)) (by decide +kernel)⟩
  rw [textValue_of_unmarked unmarked, ends, ← ratio]
  exact number_of_quotient (isPlainQuotient_iff.mpr (by decide)) read

end Entry

end Astrolabe
