/-!
# Text on a terminal

A log is read on a terminal, and some control characters give a terminal orders: the bell, the
backspace, the form feed, the escape that begins a sequence, the delete, and the block from U+0080
to U+009F, which abbreviates such sequences. In a log each is written as its number instead. Tabs
and line ends stay, as does every character that is no order.

* `not_isTerminalOrder_of_mem`: what is written holds no order.
* `withoutOrders_eq_self`: text without an order is written as it is.
-/

namespace SignedControl.Text

/-- Whether a character gives a terminal an order. -/
def isTerminalOrder (c : Char) : Bool :=
  [0x07, 0x08, 0x0C, 0x1B, 0x7F].contains c.toNat || (0x80 ≤ c.toNat && c.toNat ≤ 0x9F)

/-- An order by its number, two hexadecimal digits: after an `x` within ASCII, in braces beyond. -/
def orderNumber (n : Nat) : List Char :=
  let digits := [Nat.digitChar (n / 16), Nat.digitChar (n % 16)]
  if n < 0x80 then '\\' :: 'x' :: digits else '\\' :: 'u' :: '\x7b' :: digits ++ ['\x7d']

/-- How one character appears in a log. -/
def orderless (c : Char) : List Char := if isTerminalOrder c then orderNumber c.toNat else [c]

/-- The text with its orders written as their numbers. -/
def withoutOrders (s : String) : String := String.ofList (s.toList.flatMap orderless)

theorem not_isTerminalOrder_digitChar : ∀ n < 16, isTerminalOrder (Nat.digitChar n) = false := by
  decide

/-- The number of an order is plain text. -/
theorem not_isTerminalOrder_orderNumber {n : Nat} (h : n < 0xA0) {c : Char}
    (hc : c ∈ orderNumber n) : isTerminalOrder c = false := by
  have high := not_isTerminalOrder_digitChar (n / 16) (by omega)
  have low := not_isTerminalOrder_digitChar (n % 16) (by omega)
  rw [orderNumber] at hc
  split at hc
  all_goals
    simp only [List.cons_append, List.nil_append, List.mem_cons, List.not_mem_nil, or_false] at hc
  · rcases hc with rfl | rfl | rfl | rfl
    · decide
    · decide
    · exact high
    · exact low
  · rcases hc with rfl | rfl | rfl | rfl | rfl | rfl
    · decide
    · decide
    · decide
    · exact high
    · exact low
    · decide

theorem toNat_lt_of_isTerminalOrder {c : Char} (h : isTerminalOrder c = true) :
    c.toNat < 0xA0 := by
  simp only [isTerminalOrder, Bool.or_eq_true, Bool.and_eq_true, decide_eq_true_eq,
    List.contains_eq_mem, List.mem_cons, List.not_mem_nil, or_false] at h
  omega

theorem not_isTerminalOrder_of_mem {s : String} {c : Char} (h : c ∈ (withoutOrders s).toList) :
    isTerminalOrder c = false := by
  rw [withoutOrders, String.toList_ofList] at h
  obtain ⟨d, _, hc⟩ := List.mem_flatMap.1 h
  rw [orderless] at hc
  split at hc
  case isTrue hd => exact not_isTerminalOrder_orderNumber (toNat_lt_of_isTerminalOrder hd) hc
  case isFalse hd =>
    obtain rfl := List.mem_singleton.1 hc
    exact Bool.eq_false_iff.2 hd

theorem flatMap_orderless_eq_self :
    ∀ {s : List Char}, (∀ c ∈ s, isTerminalOrder c = false) → s.flatMap orderless = s
  | [], _ => rfl
  | c :: s, h => by
    rw [List.flatMap_cons, flatMap_orderless_eq_self fun d hd => h d (List.mem_cons_of_mem c hd),
      orderless, h c List.mem_cons_self]
    rfl

theorem withoutOrders_eq_self {s : String} (h : ∀ c ∈ s.toList, isTerminalOrder c = false) :
    withoutOrders s = s := by
  rw [withoutOrders, flatMap_orderless_eq_self h, String.ofList_toList]

end SignedControl.Text
