import Mathlib.Data.List.DropRight
import Astrolabe.Text.Blank

/-!
Texts without the blanks around them: what is dropped at one end leaves no blank at the other.
-/

namespace Astrolabe.Text

theorem stripEnd_eq (s : List Char) : stripEnd s = s.rdropWhile isBlank := rfl

theorem stripStart_stripEnd (s : List Char) :
    stripStart (stripEnd (stripStart s)) = stripEnd (stripStart s) := by
  cases start : stripStart s with
  | nil => rfl
  | cons c rest =>
      have visible : isBlank c = false := by
        have := List.head?_dropWhile_not isBlank s
        rw [show s.dropWhile isBlank = c :: rest from start] at this
        exact this
      obtain ⟨tail, whole⟩ := List.rdropWhile_prefix isBlank (l := c :: rest)
      rw [stripEnd_eq]
      cases kept : (c :: rest).rdropWhile isBlank with
      | nil => rfl
      | cons d more =>
          rw [kept] at whole
          obtain ⟨rfl, -⟩ := List.cons.inj whole
          exact List.dropWhile_cons_of_neg (ne_true_of_eq_false visible)

theorem strip_strip (s : String) : strip (strip s) = strip s := by
  rw [strip, strip, String.toList_ofList, stripStart_stripEnd, stripEnd_eq, stripEnd_eq,
    List.rdropWhile_idempotent]

theorem strip_of_blank {s : List Char} (blank : s.all isBlank = true) :
    strip (String.ofList s) = "" := by
  have start : stripStart s = [] := List.dropWhile_eq_nil_iff.mpr (List.all_eq_true.mp blank)
  rw [strip, String.toList_ofList, start]
  rfl

/-- What ends the text without the blanks around it ends the text without the blanks behind it. -/
theorem reverse_strip_prefix (s : String) :
    (strip s).toList.reverse.dropWhile isBlank <+: s.toList.reverse.dropWhile isBlank := by
  obtain ⟨blanks, whole⟩ : stripStart s.toList <:+ s.toList := List.dropWhile_suffix isBlank
  rw [strip, String.toList_ofList, stripEnd, List.reverse_reverse, List.dropWhile_idempotent]
  generalize stripStart s.toList = visible at whole
  rw [← whole, List.reverse_append, List.dropWhile_append]
  split
  next empty =>
    rw [List.isEmpty_iff.mp empty]
    exact List.nil_prefix
  next => exact List.prefix_append _ _

/-- Blanks around a text that begins and ends without one are all that is dropped. -/
theorem strip_between {before middle after : List Char} (blank : ∀ c ∈ before, isBlank c = true)
    (blank' : ∀ c ∈ after, isBlank c = true) (first : ∀ c ∈ middle.head?, isBlank c = false)
    (last : ∀ c ∈ middle.getLast?, isBlank c = false) :
    strip (String.ofList (before ++ (middle ++ after))) = String.ofList middle := by
  have start : stripStart (before ++ (middle ++ after)) = stripStart (middle ++ after) :=
    List.dropWhile_append_of_pos blank
  have ending : stripEnd (middle ++ after) = middle := by
    rw [stripEnd, List.reverse_append,
      List.dropWhile_append_of_pos fun c mem => blank' c (List.mem_reverse.mp mem)]
    cases back : middle.reverse with
    | nil => exact (List.reverse_eq_nil_iff.mp back).symm
    | cons c rest =>
        have visible := last c (by rw [← List.head?_reverse, back]; rfl)
        rw [List.dropWhile_cons_of_neg (ne_true_of_eq_false visible), ← back, List.reverse_reverse]
  rw [strip, String.toList_ofList, start]
  cases middle with
  | nil =>
      have none : stripStart after = [] := List.dropWhile_eq_nil_iff.mpr blank'
      rw [List.nil_append, none]
      rfl
  | cons c rest =>
      have visible := first c rfl
      have kept : stripStart (c :: rest ++ after) = c :: rest ++ after :=
        List.dropWhile_cons_of_neg (ne_true_of_eq_false visible)
      rw [kept, ending]

theorem strip_of_visible {s : String} {c d : Char} {middle : List Char}
    (text : s.toList = c :: middle ++ [d]) (first : isBlank c = false) (last : isBlank d = false) :
    strip s = s := by
  have around := @strip_between [] s.toList [] nofun nofun (by rw [text]; rintro _ ⟨⟩; exact first)
    (by rw [text, List.getLast?_concat]; rintro _ ⟨⟩; exact last)
  rw [List.append_nil, List.nil_append, String.ofList_toList] at around
  exact around

end Astrolabe.Text
