/-!
# Blank characters

Key files and parameter values are read without the blank characters around them. A character is
blank if it has the Unicode property `White_Space`; characters that merely have no width
(U+200B, U+FEFF) are not blank.

* `isBlank_of_isWhitespace`: the ASCII blanks of the core library are blank here.
* `trim_eq_self`: text without a blank at either end is its own trimmed form.
* `trim_append`: blanks around such a text do not count.
* `trimmed_trim`: what is left of a text has no blank at either end.
-/

namespace SignedControl.Text

/-- The ranges of the property `White_Space`. -/
def blankRanges : List (Nat × Nat) :=
  [(0x9, 0xD), (0x20, 0x20), (0x85, 0x85), (0xA0, 0xA0), (0x1680, 0x1680), (0x2000, 0x200A),
    (0x2028, 0x2029), (0x202F, 0x202F), (0x205F, 0x205F), (0x3000, 0x3000)]

/-- Whether a character is blank. -/
def isBlank (c : Char) : Bool := blankRanges.any fun r => r.1 ≤ c.toNat && c.toNat ≤ r.2

theorem isBlank_of_isWhitespace {c : Char} (h : c.isWhitespace = true) : isBlank c = true := by
  simp only [Char.isWhitespace, Bool.or_eq_true, decide_eq_true_eq] at h
  rcases h with ((rfl | rfl) | rfl) | rfl <;> decide

/-- The text without its leading blanks. -/
def trimStart (s : List Char) : List Char := s.dropWhile isBlank

/-- The text without its trailing blanks. -/
def trimEnd (s : List Char) : List Char := (trimStart s.reverse).reverse

/-- The text without the blanks around it. -/
def trim (s : List Char) : List Char := trimEnd (trimStart s)

/-- Text that neither starts nor ends with a blank. -/
def Trimmed (s : List Char) : Prop :=
  (∀ c ∈ s.head?, isBlank c = false) ∧ ∀ c ∈ s.getLast?, isBlank c = false

theorem isBlank_of_isDigit {c : Char} (h : c.isDigit = true) : isBlank c = false := by
  simp only [Char.isDigit, ge_iff_le, Bool.and_eq_true, decide_eq_true_eq] at h
  have hmin : 48 ≤ c.toNat := UInt32.le_iff_toNat_le.mp h.1
  have hmax : c.toNat ≤ 57 := UInt32.le_iff_toNat_le.mp h.2
  rw [isBlank, List.any_eq_false]
  intro r hr
  have hapart : ∀ r ∈ blankRanges, r.2 < 48 ∨ 57 < r.1 := by decide
  have := hapart r hr
  simp only [Bool.and_eq_true, decide_eq_true_eq]
  omega

/-- Text without any blank is trimmed. -/
theorem trimmed_of_forall {s : List Char} (h : ∀ c ∈ s, isBlank c = false) : Trimmed s :=
  ⟨fun c hc => h c (List.mem_of_mem_head? hc), fun c hc => h c (List.mem_of_mem_getLast? hc)⟩

theorem trimStart_eq_self {s : List Char} (h : ∀ c ∈ s.head?, isBlank c = false) :
    trimStart s = s := by
  cases s with
  | nil => rfl
  | cons c s => simp [trimStart, h c (by simp)]

theorem trimStart_append {blanks : List Char} (h : ∀ c ∈ blanks, isBlank c = true)
    (s : List Char) : trimStart (blanks ++ s) = trimStart s := List.dropWhile_append_of_pos h

theorem trim_eq_self {s : List Char} (h : Trimmed s) : trim s = s := by
  rw [trim, trimStart_eq_self h.1, trimEnd, trimStart_eq_self (by simpa using h.2),
    List.reverse_reverse]

/-- Blanks around a text do not count. -/
theorem trim_append {front back s : List Char} (hfront : ∀ c ∈ front, isBlank c = true)
    (hback : ∀ c ∈ back, isBlank c = true) (h : Trimmed s) : trim (front ++ s ++ back) = s := by
  have hend : trimEnd (s ++ back) = trimEnd s := by
    rw [trimEnd, List.reverse_append, trimStart_append (by simpa using hback), trimEnd]
  rw [trim, List.append_assoc, trimStart_append hfront]
  cases s with
  | nil =>
    have hnil : trimStart (back ++ []) = [] := trimStart_append hback []
    rw [List.append_nil] at hnil
    rw [List.nil_append, hnil]
    rfl
  | cons c s =>
    rw [trimStart_eq_self (by simpa using h.1), hend]
    have hself := trim_eq_self h
    rwa [trim, trimStart_eq_self h.1] at hself

theorem head?_trimStart (s : List Char) : ∀ c ∈ (trimStart s).head?, isBlank c = false := by
  intro c hc
  have h := List.head?_dropWhile_not isBlank s
  rw [trimStart] at hc
  rw [hc] at h
  exact h

theorem trimEnd_prefix (s : List Char) : trimEnd s <+: s := by
  have h := List.reverse_prefix.mpr (List.dropWhile_suffix isBlank (l := s.reverse))
  rwa [List.reverse_reverse] at h

theorem trimmed_trim (s : List Char) : Trimmed (trim s) := by
  refine ⟨fun c hc => head?_trimStart s c ?_, fun c hc => head?_trimStart (trimStart s).reverse c ?_⟩
  · -- Cutting at the end leaves the first character, if it leaves any.
    obtain ⟨cut, hcut⟩ := trimEnd_prefix (trimStart s)
    rw [← hcut, List.head?_append, show (trimEnd (trimStart s)).head? = some c from hc]
    rfl
  · rw [trim, trimEnd, List.getLast?_reverse] at hc
    exact hc

end SignedControl.Text
