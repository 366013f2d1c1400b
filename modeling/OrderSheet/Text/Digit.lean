import OrderSheet.Text.Bounds

/-!
# Decimal digits

Decimal digits come in runs of ten consecutive characters, so the list of zeros determines
every digit and its value.
-/

namespace OrderSheet.Text

def zeros : List Nat := [
    48, 1632, 1776, 1984, 2406, 2534, 2662, 2790, 2918, 3046, 3174, 3302, 3430, 3558, 3664, 3792,
    3872, 4160, 4240, 6112, 6160, 6470, 6608, 6784, 6800, 6992, 7088, 7232, 7248, 42528, 43216,
    43264, 43472, 43504, 43600, 44016, 65296, 66720, 68912, 69734, 69872, 69942, 70096, 70384,
    70736, 70864, 71248, 71360, 71472, 71904, 72016, 72784, 73040, 73120, 92768, 92864, 93008,
    120782, 120792, 120802, 120812, 120822, 123200, 123632, 125264, 130032]

def digitValueAt? (zeros : List Nat) (n : Nat) : Option Nat :=
  match zeros with
  | [] => none
  | z :: zs => if n < z then none else if n < z + 10 then some (n - z) else digitValueAt? zs n

def digitValue? (c : Char) : Option Nat := digitValueAt? zeros c.toNat

def isDigit (c : Char) : Bool := (digitValue? c).isSome

theorem digitValueAt?_lt {zs : List Nat} {n v : Nat} (h : digitValueAt? zs n = some v) :
    v < 10 := by
  induction zs with
  | nil => simp [digitValueAt?] at h
  | cons z zs ih =>
    simp only [digitValueAt?] at h
    split at h
    · simp at h
    · split at h
      · simp only [Option.some.injEq] at h
        omega
      · exact ih h

theorem digitValue?_lt {c : Char} {v : Nat} (h : digitValue? c = some v) : v < 10 :=
  digitValueAt?_lt h

/-- The number written by decimal digits, most significant first; other characters count as zero. -/
def digitsValue (cs : List Char) : Nat :=
  cs.foldl (fun n c => 10 * n + (digitValue? c).getD 0) 0

end OrderSheet.Text
