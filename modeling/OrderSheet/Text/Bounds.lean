/-!
# Classes of characters given by bounds

A class of characters is written as the ascending list of the code points where membership
changes, starting outside the class.
-/

namespace OrderSheet.Text

/-- Membership at `n`, where `inside` tells whether the point before the first bound belongs. -/
def withinBounds (bounds : List Nat) (inside : Bool) (n : Nat) : Bool :=
  match bounds with
  | [] => inside
  | b :: bs => if n < b then inside else withinBounds bs (!inside) n

def inBounds (bounds : List Nat) (n : Nat) : Bool := withinBounds bounds false n

end OrderSheet.Text
