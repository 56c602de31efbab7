/-!
# Whole numbers as text

Numbers that a user writes are decimal, may have a plus sign in front and must fit into 64 bits. A
text that is no such number is refused for the first fault met from left to right.
-/

namespace NullFlow.Text

/-- **Why a text is no number.** -/
inductive NumberError where
  | empty
  | invalidDigit
  | tooLarge
  deriving DecidableEq, Repr

/-- The fault in words. -/
def NumberError.message : NumberError → String
  | .empty => "cannot parse integer from empty string"
  | .invalidDigit => "invalid digit found in string"
  | .tooLarge => "number too large to fit in target type"

/-- The first number that does not fit. -/
def numberLimit : Nat := Nat.pow 2 64

/-- The value of a decimal digit. -/
def digit? (c : Char) : Option Nat :=
  if '0' ≤ c ∧ c ≤ '9' then some (c.toNat - '0'.toNat) else none

/-- Reads the digits after those read before, which make up the given number. -/
def readDigits (before : Nat) : List Char → Except NumberError Nat
  | [] => .ok before
  | c :: r =>
    match digit? c with
    | none => .error .invalidDigit
    | some d =>
      if 10 * before + d < numberLimit then readDigits (10 * before + d) r else .error .tooLarge

/-- **Reads a number.** -/
def readNumber (text : List Char) : Except NumberError Nat :=
  match text with
  | [] => .error .empty
  | ['+'] => .error .invalidDigit
  | '+' :: r => readDigits 0 r
  | _ => readDigits 0 text

end NullFlow.Text
