/-!
# White space

`isBlank` is white space of all scripts, the four ASCII separators
U+001C to U+001F included; `trim` takes characters of a class off both ends.
-/

namespace FeatureGates.Text

/-- White space of all scripts. -/
def isBlank (c : Char) : Bool :=
  let code := c.toNat
  (9 ≤ code && code ≤ 13) || (28 ≤ code && code ≤ 32) || code == 0x85 || code == 0xA0
    || code == 0x1680 || (0x2000 ≤ code && code ≤ 0x200A) || code == 0x2028 || code == 0x2029
    || code == 0x202F || code == 0x205F || code == 0x3000

/-- White space of ASCII without the four separators. -/
def isAsciiBlank (c : Char) : Bool :=
  c = ' ' || (9 ≤ c.toNat && c.toNat ≤ 13)

theorem isBlank_of_isAsciiBlank {c : Char} (h : isAsciiBlank c = true) : isBlank c = true := by
  unfold isAsciiBlank at h
  unfold isBlank
  rcases Bool.or_eq_true _ _ ▸ h with blank | control
  · have : c = ' ' := of_decide_eq_true blank
    subst this
    decide
  · simp [control]

theorem isBlank_of_isWhitespace {c : Char} (h : c.isWhitespace = true) : isBlank c = true := by
  apply isBlank_of_isAsciiBlank
  simp only [Char.isWhitespace, Bool.or_eq_true, decide_eq_true_eq] at h
  rcases h with ((rfl | rfl) | rfl) | rfl <;> decide

/-- The text without the characters of the class at its two ends. -/
def trim (p : Char → Bool) (cs : List Char) : List Char :=
  ((cs.dropWhile p).reverse.dropWhile p).reverse

end FeatureGates.Text
