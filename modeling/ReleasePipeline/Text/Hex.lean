/-!
# ReleasePipeline.Text.Hex

Hexadecimal digits, in letters of either case.
-/

namespace ReleasePipeline.Text

/-- The value of a hexadecimal digit. -/
def hexValue? (c : Char) : Option Nat :=
  if '0' ≤ c ∧ c ≤ '9' then some (c.toNat - '0'.toNat)
  else if 'a' ≤ c ∧ c ≤ 'f' then some (c.toNat - 'a'.toNat + 10)
  else if 'A' ≤ c ∧ c ≤ 'F' then some (c.toNat - 'A'.toNat + 10)
  else none

/-- The digit of a number below sixteen has its value. -/
theorem hexValue?_digitChar {n : Nat} (h : n < 16) : hexValue? (Nat.digitChar n) = some n := by
  have hall : ∀ k : Fin 16, hexValue? (Nat.digitChar k) = some k.val := by decide
  exact hall ⟨n, h⟩

end ReleasePipeline.Text
