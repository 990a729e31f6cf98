namespace Poco.Text

def digitChar (digit : Nat) : Char :=
  Char.ofNat ('0'.toNat + digit)

def isDigit (c : Char) : Bool :=
  decide ('0' ≤ c) && decide (c ≤ '9')

def digitValue (c : Char) : Nat :=
  c.toNat - '0'.toNat

def digits (n : Nat) : List Char :=
  if n < 10 then
    [digitChar n]
  else
    digits (n / 10) ++ [digitChar (n % 10)]
termination_by n

/-- The number that a run of digits denotes, continuing from `start`. -/
def digitsValue (start : Nat) (numeral : List Char) : Nat :=
  numeral.foldl (fun value c => 10 * value + digitValue c) start

def decimal (n : Nat) : String :=
  String.ofList (digits n)

def spaces (count : Nat) : String :=
  String.ofList (List.replicate count ' ')

def padLeft (width : Nat) (text : String) : String :=
  spaces (width - text.length) ++ text

def padRight (width : Nat) (text : String) : String :=
  text ++ spaces (width - text.length)

theorem digitValue_digitChar {digit : Nat} (small : digit < 10) :
    digitValue (digitChar digit) = digit := by
  revert digit
  decide

theorem isDigit_digitChar {digit : Nat} (small : digit < 10) :
    isDigit (digitChar digit) = true := by
  revert digit
  decide

@[simp] theorem digitsValue_append (start : Nat) (left right : List Char) :
    digitsValue start (left ++ right) = digitsValue (digitsValue start left) right := by
  simp [digitsValue]

theorem digitsValue_digits (n : Nat) : digitsValue 0 (digits n) = n := by
  induction n using Nat.strongRecOn with
  | ind n ih =>
      rw [digits]
      split
      case isTrue small =>
          simp [digitsValue, digitValue_digitChar small]
      case isFalse large =>
          rw [digitsValue_append, ih (n / 10) (by omega)]
          simp [digitsValue, digitValue_digitChar (Nat.mod_lt n (by decide))]
          omega

end Poco.Text
