import Mathlib.Algebra.Order.Floor.Ring
import Mathlib.Data.Int.Log
import Mathlib.Data.Rat.Floor
import TradeWorker.Chars

/-!
# Text and number conventions of the source

The worker is Python: references travel as text, an empty string and a zero
are as good as a missing value wherever the code writes `x or y`, and prices
are printed into comments. These are the conventions the model shares.
Prices, volumes and money are exact rationals.
-/

namespace TradeWorker

/-! ## Truthiness -/

/-- `s or None` on an optional string: the empty string is no value. -/
def text? : Option String → Option String
  | some "" => none
  | s => s

/-- `x or None` on an optional number: zero is no value. -/
def num? : Option ℚ → Option ℚ
  | some x => if x = 0 then none else some x
  | none => none

@[simp] theorem text?_none : text? none = none := rfl

@[simp] theorem text?_empty : text? (some "") = none := rfl

theorem text?_eq_some {o : Option String} {s : String} :
    text? o = some s ↔ o = some s ∧ s ≠ "" := by
  unfold text?
  split
  · simp
  · rename_i hne
    constructor
    · intro h
      exact ⟨h, fun hs => hne (hs ▸ h)⟩
    · exact fun h => h.1

/-! ## Strings -/

/-- `str.strip()`. -/
def strip (s : String) : String := String.ofList (Chars.strip Chars.isSpace s.toList)

/-- `str.upper()`. -/
def upper (s : String) : String := String.ofList (s.toList.flatMap Chars.capitals)

/-- `s.split(sep)[-1]`: what follows the last separator. -/
def lastSegment (sep : Char) (s : String) : String :=
  String.ofList ((s.toList.reverse.takeWhile (· ≠ sep)).reverse)

/-- `s.replace(c, "")`. -/
def eraseChar (c : Char) (s : String) : String :=
  String.ofList (s.toList.filter (· ≠ c))

/-- `s.endswith(suffix)`. -/
def endsWith (s suffix : String) : Bool :=
  suffix.toList.isSuffixOf s.toList

/-- `s[:n]`. -/
def takeText (n : Nat) (s : String) : String :=
  String.ofList (s.toList.take n)

/-- `s[:-n]`. -/
def dropEnd (n : Nat) (s : String) : String :=
  String.ofList (s.toList.take (s.toList.length - n))

/-- `s[n:]`. -/
def dropText (n : Nat) (s : String) : String :=
  String.ofList (s.toList.drop n)

/-- `s[-n:]`. -/
def takeEnd (n : Nat) (s : String) : String :=
  String.ofList (s.toList.drop (s.toList.length - n))

/-- `s.rstrip()`. -/
def rstrip (s : String) : String := String.ofList (s.toList.rdropWhile Chars.isSpace)

/-- Letters beyond ASCII that Python counts as alphanumeric, by the main scripts. -/
def isUnicodeLetter (c : Char) : Bool :=
  Chars.wordRuns.any fun run => run.1 ≤ c.toNat && c.toNat ≤ run.2

/-- The class `\w` of a text pattern. -/
def isWord (c : Char) : Bool :=
  c.isAlphanum || c = '_' || isUnicodeLetter c

/-- `s.strip(c)`. -/
def stripChar (c : Char) (s : String) : String := String.ofList (Chars.strip (· = c) s.toList)

/-- `s.rstrip(c)`. -/
def rstripChar (c : Char) (s : String) : String :=
  String.ofList (s.toList.rdropWhile (· = c))

/-- `repr(s)` of a plain string. -/
def quoted (s : String) : String := "'" ++ s ++ "'"

/-- `sep.join(xs)`. -/
def joinText (sep : String) : List String → String
  | [] => ""
  | [x] => x
  | x :: xs => x ++ sep ++ joinText sep xs

/-! ## Numbers as text -/

/-- `round(x)`: to the nearest integer, ties to the even one. -/
def pyRound (x : ℚ) : Int :=
  let lower := ⌊x⌋
  let frac := x - lower
  if frac < 1 / 2 then lower
  else if 1 / 2 < frac then lower + 1
  else if lower % 2 = 0 then lower else lower + 1

def zeros (n : Nat) : String := String.ofList (List.replicate n '0')

def signText (x : ℚ) : String := if x < 0 then "-" else ""

/-- `f"{x:.{places}f}"`. -/
def fixedText (places : Nat) (x : ℚ) : String :=
  let units := toString (pyRound (|x| * 10 ^ places)).toNat
  let digits := zeros (places + 1 - units.length) ++ units
  let whole := digits.length - places
  signText x ++ takeText whole digits ++ "." ++ dropText whole digits

/-- The leading digits, and the power of ten the first of them stands at. -/
def leading (places : Nat) (x : ℚ) : String × Int :=
  let exponent := Int.log 10 |x|
  let units := toString (pyRound (|x| * 10 ^ (places - 1 - exponent : Int))).toNat
  -- rounding up may carry into one more digit
  (rstripChar '0' units, if places < units.length then exponent + 1 else exponent)

def exponentText (exponent : Int) : String :=
  let digits := toString exponent.natAbs
  "e" ++ (if exponent < 0 then "-" else "+") ++ zeros (2 - digits.length) ++ digits

/-- The digits in place, from the fourth decimal up to `10 ^ places`, else with the exponent;
`point` is what a whole number ends in. -/
def decimalText (places : Nat) (point : String) (x : ℚ) : String :=
  let digits := (leading places x).1
  let exponent := (leading places x).2
  let whole := exponent.toNat + 1
  if x = 0 then "0" ++ point
  else if exponent < -4 ∨ places ≤ exponent then
    signText x ++ takeText 1 digits ++
      (if digits.length ≤ 1 then "" else "." ++ dropText 1 digits) ++ exponentText exponent
  else if exponent < 0 then
    signText x ++ "0." ++ zeros (-exponent - 1).toNat ++ digits
  else if digits.length ≤ whole then
    signText x ++ digits ++ zeros (whole - digits.length) ++ point
  else signText x ++ takeText whole digits ++ "." ++ dropText whole digits

/-- `str(x)` of the float that stands for `x`, to sixteen digits. -/
def numText (x : ℚ) : String := decimalText 16 ".0" x

example : [1 / 5, 50, -1 / 3, 3 / 200000].map numText =
    ["0.2", "50.0", "-0.3333333333333333", "1.5e-05"] := by decide +kernel

/-- `f"{x:g}"`. -/
def generalText (x : ℚ) : String := decimalText 6 "" x

def optNumText : Option ℚ → String
  | some x => numText x
  | none => "None"

/-! ## Tickets as text

A broker hands out integer tickets, SQLite hands back their text. -/

/-- `str(ticket)`. -/
def ticketText (n : Nat) : String := toString n

/-- `same_ticket`: a live ticket and a stored reference name one position. The
stored side may carry blanks, the live side is `str` of an integer. -/
def sameTicket (candidate : Nat) (ticket : String) : Bool :=
  strip (ticketText candidate) = strip ticket

end TradeWorker
