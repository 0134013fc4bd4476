import Depot.Json.Literal
import Depot.Json.Reader
import Depot.Text.Blank
import Depot.Text.Digits

/-!
# Integers from JSON values

The integer that a value gives where an integer is wanted: an integer itself, a
truth value as 0 or 1, a number without its fraction, and a text that writes an
integer in decimal digits of any script. In such a text there may be blanks
around the integer, a sign in front, and single underscores between digits.
-/

namespace Depot.Json

/-- Why a value gives no integer. -/
inductive IntegerFault where
  /-- The value is of a kind that gives none. -/
  | kind (name : Text)
  /-- The text writes none. -/
  | form (t : Text)
  /-- The text has more digits than are read. -/
  | tooManyDigits (digits : Nat)
  /-- The value is no number. -/
  | nan
  /-- The value is beyond all numbers. -/
  | infinity
  deriving DecidableEq

/-- The most characters that a message shows of a text. -/
def maxShown : Nat := 200

/-- Why the value gives no integer, in words. -/
def IntegerFault.message : IntegerFault → Text
  | .kind name =>
    "int() argument must be a string, a bytes-like object or a real number, not '" ++ name ++ "'"
  | .form t => "invalid literal for int() with base 10: " ++ (Text.quoted t).take maxShown
  | .tooManyDigits digits => Text.tooManyDigitsMessage digits
  | .nan => "cannot convert float NaN to integer"
  | .infinity => "cannot convert float infinity to integer"

/-- Whether a character may stand around an integer: a blank that moves the
    position, or one beyond ASCII. -/
def surroundsInteger (c : CodePoint) : Bool :=
  if c.toNat < 0x7f then c = ' ' || ('\t' ≤ c && c ≤ '\r') else Text.isBlank c

/-- The integer that a text writes. -/
def integerOfText (t : Text) : Except IntegerFault Int :=
  let start := t.dropWhile surroundsInteger
  let (negative, body) : Bool × Text :=
    match start with
    | '-' :: body => (true, body)
    | '+' :: body => (false, body)
    | body => (false, body)
  let (run, rest) := body.span fun c : CodePoint => c = '_' || (Text.decimalDigit? c).isSome
  if (Text.pieces '_' run).any List.isEmpty then .error (.form t)
  else
    let digits := run.filterMap Text.decimalDigit?
    if Text.maxDigits < digits.length then .error (.tooManyDigits digits.length)
    else if rest.any fun c => !surroundsInteger c then .error (.form t)
    else
      let n : Int := (digits.foldl (fun n d => 10 * n + d) 0 : Nat)
      .ok (if negative then -n else n)

/-- The integer that a value gives. -/
def toInteger (v : Json) : Except IntegerFault Int :=
  match v with
  | .int n => .ok n
  | .bool b => .ok (if b then 1 else 0)
  | .text t => integerOfText t
  | .double .nan => .error .nan
  | .double (.infinity _) => .error .infinity
  | .double d => .ok (d.truncate?.getD 0)
  | .null | .list _ | .object _ => .error (.kind v.kind)

end Depot.Json
