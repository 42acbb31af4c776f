namespace LogLayout.Text

/-!
Numbers in hexadecimal digits of either case.
-/

def hexValue? (character : Char) : Option Nat :=
  if '0' ≤ character && character ≤ '9' then some (character.toNat - 48)
  else if 'A' ≤ character && character ≤ 'F' then some (character.toNat - 55)
  else if 'a' ≤ character && character ≤ 'f' then some (character.toNat - 87)
  else none

/-- The number that hexadecimal digits write; anything else writes none. -/
def hexNumber? (digits : List Char) : Option Nat :=
  digits.foldlM (fun value digit => (hexValue? digit).map (value * 16 + ·)) 0

def scalar? (number : Nat) : Option Char :=
  if number.isValidChar then some (Char.ofNat number) else none

end LogLayout.Text
