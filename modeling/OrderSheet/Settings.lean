import OrderSheet.Number.Decimal

/-!
# Limits

Bounds on what is read in one go, so that patterns written by hand stay affordable.
-/

namespace OrderSheet.Settings

def maxDocument : Nat := 500000

def maxLine : Nat := 2000

def maxTextColumn : Nat := 300

def maxName : Nat := 255

/-- The gap between a declared total and the sum of the lines that is still accepted. -/
def tolerance : Decimal := Decimal.ofNat 50

end OrderSheet.Settings
