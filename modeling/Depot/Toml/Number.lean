import Depot.Toml.Basic

/-!
# Numbers in TOML

An integer in decimal, or without a sign in base 16, 8 or 2, and a float with a
fraction or an exponent. One underscore may stand between two digits.
-/

namespace Depot.Toml

/-- The further digits in front of a text, and the text after them. -/
def moreDigits (isDigit : CodePoint → Bool) : Text → Text × Text
  | [] => ([], [])
  | '_' :: c :: t =>
    if isDigit c then
      let (digits, rest) := moreDigits isDigit t
      (c :: digits, rest)
    else ([], '_' :: c :: t)
  | c :: t =>
    if isDigit c then
      let (digits, rest) := moreDigits isDigit t
      (c :: digits, rest)
    else ([], c :: t)

/-- The digits in front of a text, and the text after them. -/
def spanDigits (isDigit : CodePoint → Bool) (t : Text) : Text × Text :=
  match t with
  | c :: _ => if isDigit c then moreDigits isDigit t else ([], t)
  | [] => ([], [])

/-- Whether a character is a digit of decimal numbers. -/
def isDecimal (c : CodePoint) : Bool := (Text.digit? c).isSome

/-- The number that digits write in a base. -/
def ofDigits (base : Nat) (digits : Text) : Nat :=
  digits.foldl (fun n c => base * n + (Text.hexDigit? c).getD 0) 0

/-- The digits of a base that a letter after a zero stands for. -/
def base? (c : CodePoint) : Option Nat :=
  match c with
  | 'x' => some 16
  | 'o' => some 8
  | 'b' => some 2
  | _ => none

/-- The integer with a marked base in front of a text, if there is one. -/
def marked? (t : Text) : Option (Value × Text) :=
  match t with
  | '0' :: c :: t =>
    (base? c).bind fun base =>
      match spanDigits (fun d => (Text.hexDigit? d).any (· < base)) t with
      | ([], _) => none
      | (digits, rest) => some (.integer (ofDigits base digits), rest)
  | _ => none

/-- Whether a number is negative, and the text after its sign. -/
def sign (t : Text) : Bool × Text :=
  match t with
  | '-' :: t => (true, t)
  | '+' :: t => (false, t)
  | t => (false, t)

/-- The digits of a fraction in front of a text, none unless a digit follows the
    point. -/
def fraction (t : Text) : Text × Text :=
  match t with
  | '.' :: t' =>
    match spanDigits isDecimal t' with
    | ([], _) => ([], t)
    | found => found
  | t => ([], t)

/-- The exponent in front of a text, if it has digits. -/
def exponent? (t : Text) : Option Int × Text :=
  match t with
  | e :: t' =>
    if e = 'e' ∨ e = 'E' then
      let (negative, t') := sign t'
      match spanDigits isDecimal t' with
      | ([], _) => (none, t)
      | (digits, rest) =>
        let n : Int := ofDigits 10 digits
        (some (if negative then -n else n), rest)
    else (none, t)
  | [] => (none, [])

/-- The value that a decimal number writes, given its parts. -/
def decimal (negative : Bool) (whole decimals : Text) (power : Option Int) :
    Except Refusal Value :=
  if decimals = [] ∧ power = none then
    if Text.maxDigits < whole.length then .error (.tooManyDigits whole.length)
    else
      let n : Int := ofDigits 10 whole
      .ok (.integer (if negative then -n else n))
  else
    .ok (.float (Double.ofDecimal negative (ofDigits 10 (whole ++ decimals))
      (power.getD 0 - decimals.length)))

/-- The words that are floats. -/
def floatWords : List (Text × Double) :=
  [("inf", .infinity false), ("nan", .nan), ("-inf", .infinity true), ("+inf", .infinity false),
   ("-nan", .nan), ("+nan", .nan)]

/-- The number in front of a text. -/
def readNumber (t : Text) : Step Value :=
  match marked? t with
  | some found => .ok found
  | none =>
    let (negative, t') := sign t
    let (whole, rest) : Text × Text :=
      match t' with
      | '0' :: rest => (['0'], rest)
      | t' => spanDigits isDecimal t'
    if whole = [] then
      match floatWords.findSome? fun w => (Text.after? w.1 t).map (w.2, ·) with
      | some (d, rest) => .ok (.float d, rest)
      | none => refuse .value t
    else
      let (decimals, rest) := fraction rest
      let (power, rest) := exponent? rest
      (decimal negative whole decimals power).map fun v => (v, rest)

end Depot.Toml
