/-!
# Hexadecimal text

Messages name guest addresses and sizes in base sixteen, with lowercase digits and no leading zero
apart from the number zero itself.
-/

namespace Paravirt.Text

/-- The lowercase base-sixteen digits of a number. -/
def hexadecimal (value : Nat) : String :=
  String.ofList (Nat.toDigits 16 value)

/-- The digits of a number behind the mark `0x`. -/
def markedHexadecimal (value : Nat) : String :=
  "0x" ++ hexadecimal value

end Paravirt.Text
