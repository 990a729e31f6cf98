namespace Poco

/-! Positions are machine words.  An operation whose exact result does not fit is
a fault, never a wrapped value. -/

/-- A limit that an operation on positions ran into. -/
inductive Fault where
  | additionOverflow
  | subtractionOverflow
  | reversedSpan
  deriving DecidableEq

def Fault.message : Fault → String
  | .additionOverflow => "attempt to add with overflow"
  | .subtractionOverflow => "attempt to subtract with overflow"
  | .reversedSpan => "Span start must not be after end"

/-- A computation goes on only from a result. -/
theorem Fault.ok_of_bind {α β : Type} {first : Except Fault α} {next : α → Except Fault β}
    {value : β} (bound : first.bind next = .ok value) :
    ∃ result, first = .ok result ∧ next result = .ok value := by
  cases first with
  | error fault => contradiction
  | ok result => exact ⟨result, rfl, bound⟩

/-- The exact sum of an offset and a byte count. -/
def addOffset (offset : UInt64) (bytes : Nat) : Except Fault UInt64 :=
  if offset.toNat + bytes < UInt64.size then
    .ok (offset + UInt64.ofNat bytes)
  else
    .error .additionOverflow

theorem addOffset_exact {offset sum : UInt64} {bytes : Nat}
    (added : addOffset offset bytes = .ok sum) : sum.toNat = offset.toNat + bytes := by
  unfold addOffset at added
  split at added
  case isTrue room =>
      obtain rfl := Except.ok.inj added
      have small : bytes < UInt64.size := by omega
      rw [UInt64.toNat_add, UInt64.toNat_ofNat_of_lt' small]
      exact Nat.mod_eq_of_lt room
  case isFalse => contradiction

/-- The line or column after this one. -/
def nextIndex (index : UInt32) : Except Fault UInt32 :=
  if index.toNat + 1 < UInt32.size then
    .ok (index + 1)
  else
    .error .additionOverflow

end Poco
