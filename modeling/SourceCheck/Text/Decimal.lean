/-!
Integers written in base ten.
-/

namespace SourceCheck.Text

def decimal : Int → List Char
  | .ofNat n => Nat.toDigits 10 n
  | .negSucc n => '-' :: Nat.toDigits 10 (n + 1)

def showInt (n : Int) : String := String.ofList (decimal n)

def showNat (n : Nat) : String := String.ofList (Nat.toDigits 10 n)

end SourceCheck.Text
