import Mathlib
import Astrolabe.Inversion.Basic

/-!
The symbols that terms read. A term is refused for a missing value only where it reads
a symbol that has none; guarded operations have refusals of their own.
-/

namespace Astrolabe.Inversion

namespace Term

/-- The symbols that a term reads, from left to right. -/
@[simp] def symbols : Term → List String
  | var symbol => [symbol]
  | literal _ | pi => []
  | neg s | natPow s _ | sqrt s | cbrt s | log10 s | ln s | tan s | atan s => s.symbols
  | add s t | sub s t | mul s t | div s t | pow s t => s.symbols ++ t.symbols

theorem guarded_ne_missing (result : Except Reason Float) (symbol : String) :
    guarded result ≠ .error (.missing symbol) := by
  cases result <;> simp [guarded, Except.mapError]

/-- The value of an operand reaches the operation; a refusal passes it by. -/
theorem bind_eq_missing {x : Except Error Float} {next : Float → Except Error Float}
    {symbol : String} (h : (x >>= next) = .error (.missing symbol)) :
    x = .error (.missing symbol) ∨ ∃ y, next y = .error (.missing symbol) := by
  cases x with
  | error e => exact .inl h
  | ok y => exact .inr ⟨y, h⟩

theorem mem_symbols_of_missing {values : String → Option Float} {t : Term}
    {symbol : String} (h : t.value values = .error (.missing symbol)) :
    symbol ∈ t.symbols ∧ values symbol = none := by
  induction t with
  | var s =>
      simp only [value] at h
      split at h
      next => cases h
      next absent => cases h; exact ⟨by simp, absent⟩
  | literal _ | pi => cases h
  | neg s ih =>
      obtain h | ⟨_, h⟩ := bind_eq_missing h
      · exact ih h
      · cases h
  | natPow s _ ih | sqrt s ih | cbrt s ih | log10 s ih | ln s ih | tan s ih
  | atan s ih =>
      obtain h | ⟨_, h⟩ := bind_eq_missing h
      · exact ih h
      · exact absurd h (guarded_ne_missing _ _)
  | add s t ihs iht | sub s t ihs iht | mul s t ihs iht =>
      obtain h | ⟨_, h⟩ := bind_eq_missing h
      · exact ⟨List.mem_append_left _ (ihs h).1, (ihs h).2⟩
      · obtain h | ⟨_, h⟩ := bind_eq_missing h
        · exact ⟨List.mem_append_right _ (iht h).1, (iht h).2⟩
        · cases h
  | div s t ihs iht | pow s t ihs iht =>
      obtain h | ⟨_, h⟩ := bind_eq_missing h
      · exact ⟨List.mem_append_left _ (ihs h).1, (ihs h).2⟩
      · obtain h | ⟨_, h⟩ := bind_eq_missing h
        · exact ⟨List.mem_append_right _ (iht h).1, (iht h).2⟩
        · exact absurd h (guarded_ne_missing _ _)

end Term

/-- The symbols that a solution reads. -/
def Solution.symbols : Solution → List String
  | term t => t.symbols
  | proportionOnly => []

end Astrolabe.Inversion
