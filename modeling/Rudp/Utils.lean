import Rudp.Lib.Lines
import Rudp.Protocol

/-!
# Text helpers

The text helpers of `src/Utils.cpp`, and `std::stoull` as the C++ standard specifies it.

A `std::string` is a list of characters here. All the characters that the loaders look for are
ASCII, so nothing depends on what stands for the bytes beyond it.
-/

namespace Rudp

abbrev Text := List Char

namespace Utils

/-! ## Helpers -/

def kSingleQuote : Char := Char.ofNat 39

def kDoubleQuote : Char := Char.ofNat 34

/-- `std::isspace` in the C locale: the blank, and the characters from the tab to the carriage
return. -/
def isSpace (c : Char) : Bool := c = ' ' || 9 ≤ c.toNat && c.toNat ≤ 13

def trim (value : Text) : Text := Lines.strip isSpace value

/-- The value stands between two quotes of the same kind. -/
def isQuoted (value : Text) : Bool :=
  2 ≤ value.length &&
    (value.head? = some kDoubleQuote && value.getLast? = some kDoubleQuote ||
      value.head? = some kSingleQuote && value.getLast? = some kSingleQuote)

def unquote (value : Text) : Text :=
  if isQuoted value then value.tail.dropLast else value

def parseBool (value : Text) : Option Bool :=
  if value = "true".toList then some true
  else if value = "false".toList then some false
  else none

def channelTypeName : ChannelType → Text
  | .reliableOrdered => "reliable_ordered".toList
  | .reliableUnordered => "reliable_unordered".toList
  | .unreliable => "unreliable".toList
  | .monotonicState => "monotonic_state".toList

/-! ## Numbers -/

/-- `std::to_string` -/
def toDecimal (n : ℕ) : Text := Nat.toDigits 10 n

/-- The number that a string of decimal digits denotes. -/
def valueOf (digits : Text) : ℕ := Nat.ofDigitChars 10 digits 0

/-- The optional sign of a number, and what follows it. -/
def splitSign : Text → Bool × Text
  | '-' :: rest => (true, rest)
  | '+' :: rest => (false, rest)
  | text => (false, text)

/-- The longest digit prefix, after leading space and a sign. -/
def leadingDigits (text : Text) : Text :=
  (splitSign (text.dropWhile isSpace)).2.takeWhile Char.isDigit

/-- `std::stoull`: no digit is an invalid argument, and a number from `2 ^ 64` on is out of range.
A minus sign negates the result modulo `2 ^ 64`, and what follows the digits is ignored. -/
def stoull (text : Text) : Option U64 :=
  let digits := leadingDigits text
  if digits = [] ∨ 2 ^ 64 ≤ valueOf digits then none
  else if (splitSign (text.dropWhile isSpace)).1 then some (-BitVec.ofNat 64 (valueOf digits))
  else some (BitVec.ofNat 64 (valueOf digits))

/-- The text is a decimal number. -/
def isDecimal (text : Text) : Bool := text ≠ [] && text.all Char.isDigit

section Numbers

variable {text : Text}

theorem isDecimal_toDecimal (n : ℕ) : isDecimal (toDecimal n) = true := by
  rw [isDecimal, Bool.and_eq_true]
  refine ⟨decide_eq_true Nat.toDigits_ne_nil, List.all_eq_true.2 fun c hc => ?_⟩
  exact Nat.isDigit_of_mem_toDigits (by decide) (by decide) hc

theorem valueOf_toDecimal (n : ℕ) : valueOf (toDecimal n) = n := Nat.ofDigitChars_ten_toDigits

/-- A digit is neither space nor a sign. -/
theorem isDigit_ne {c : Char} (h : c.isDigit = true) : isSpace c = false ∧ c ≠ '-' ∧ c ≠ '+' := by
  obtain ⟨hlow, hhigh⟩ := Char.isDigit_iff_toNat.1 h
  have hzero : '0'.toNat = 48 := rfl
  have hnine : '9'.toNat = 57 := rfl
  rw [hzero] at hlow
  rw [hnine] at hhigh
  have hne : ∀ d : Char, d.toNat < 48 → c ≠ d := by
    rintro d hd rfl
    omega
  refine ⟨?_, hne '-' (by decide), hne '+' (by decide)⟩
  have hblank := hne ' ' (by decide)
  simp only [isSpace, hblank, decide_false, Bool.false_or, Bool.and_eq_false_imp, decide_eq_true_eq,
    decide_eq_false_iff_not]
  omega

/-- A decimal number is its own leading digits, and has no sign. -/
theorem leadingDigits_of_isDecimal (h : isDecimal text = true) :
    leadingDigits text = text ∧ (splitSign (text.dropWhile isSpace)).1 = false := by
  simp only [isDecimal, Bool.and_eq_true, decide_eq_true_eq, List.all_eq_true] at h
  obtain ⟨hne, hdigits⟩ := h
  cases text with
  | nil => exact absurd rfl hne
  | cons c rest =>
    obtain ⟨hspace, hminus, hplus⟩ := isDigit_ne (hdigits c List.mem_cons_self)
    have hdrop : (c :: rest).dropWhile isSpace = c :: rest :=
      List.dropWhile_cons_of_neg (by simp [hspace])
    have hsign : splitSign (c :: rest) = (false, c :: rest) := by
      rw [splitSign]
      · rintro rest' ⟨⟩
        exact hminus rfl
      · rintro rest' ⟨⟩
        exact hplus rfl
    rw [leadingDigits, hdrop, hsign]
    exact ⟨List.takeWhile_eq_self_iff.2 hdigits, rfl⟩

theorem stoull_of_isDecimal (h : isDecimal text = true) (hrange : valueOf text < 2 ^ 64) :
    stoull text = some (BitVec.ofNat 64 (valueOf text)) := by
  obtain ⟨hdigits, hsign⟩ := leadingDigits_of_isDecimal h
  have hne : text ≠ [] := by
    rintro rfl
    cases h
  rw [stoull]
  simp only [hdigits, hsign, hne, false_or, if_neg (Nat.not_le.2 hrange), Bool.false_eq_true,
    if_false]

end Numbers

end Utils

end Rudp
