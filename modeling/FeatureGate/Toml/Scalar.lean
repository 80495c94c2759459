import FeatureGate.Approximate
import FeatureGate.Toml.Text

namespace FeatureGate.Toml

-- What is neither text nor made of other values. Of numbers only whether their
-- range holds them is kept, of the others only that they are well formed.
inductive Scalar where
  | integer (inRange : Bool)
  | float (isFinite : Bool)
  | boolean
  | moment
deriving DecidableEq, Repr

def ungrouped? (isDigit : Char → Bool) : List Char → Option (List Char)
  | [] => none
  | [c] => if isDigit c then some [c] else none
  | c :: '_' :: rest => if isDigit c then (ungrouped? isDigit rest).map (c :: ·) else none
  | c :: rest => if isDigit c then (ungrouped? isDigit rest).map (c :: ·) else none

def whole? (cs : List Char) : Option (List Char) :=
  (ungrouped? Text.isDigit cs).bind fun digits =>
    if digits.head? = some '0' ∧ digits.length ≠ 1 then none else some digits

def inRange (value : Int) : Bool := -(Int.pow 2 127) ≤ value && value < Int.pow 2 128

def isDigitOf (radix : Nat) (c : Char) : Bool := (hexDigit? c).any (· < radix)

def inRadix? (radix : Nat) (cs : List Char) : Option Scalar :=
  (ungrouped? (isDigitOf radix) cs).map fun digits =>
    .integer (inRange (digits.foldl (fun n c => radix * n + (hexDigit? c).getD 0) 0 : Nat))

def integer? (cs : List Char) : Option Scalar :=
  match cs with
  | '0' :: 'x' :: rest => inRadix? 16 rest
  | '0' :: 'o' :: rest => inRadix? 8 rest
  | '0' :: 'b' :: rest => inRadix? 2 rest
  | _ => (whole? (Text.signed cs).2).map fun digits =>
      let magnitude : Int := Text.decimalValue digits
      .integer (inRange (if (Text.signed cs).1 then -magnitude else magnitude))

def exponent? (cs : List Char) : Option Int :=
  (ungrouped? Text.isDigit (Text.signed cs).2).map fun digits =>
    let magnitude : Int := Text.decimalValue digits
    if (Text.signed cs).1 then -magnitude else magnitude

def isPower (c : Char) : Bool := c = 'e' || c = 'E'

def float? (cs : List Char) : Option Scalar :=
  let unsigned := (Text.signed cs).2
  if unsigned = ['i', 'n', 'f'] ∨ unsigned = ['n', 'a', 'n'] then some (.float true)
  else
    let mantissa := unsigned.takeWhile (!isPower ·)
    let power := unsigned.dropWhile (!isPower ·)
    let exponent := if power.isEmpty then some 0 else exponent? power.tail
    let before := mantissa.takeWhile (· != '.')
    let behind := mantissa.dropWhile (· != '.')
    let fraction := if behind.isEmpty then some [] else ungrouped? Text.isDigit behind.tail
    if behind.isEmpty ∧ power.isEmpty then none
    else match whole? before, fraction, exponent with
      | some whole, some fraction, some exponent =>
          some (.float (Approximate.isFinite
            (Approximate.scaled (whole ++ fraction) (exponent - fraction.length))))
      | _, _, _ => none

def pair? (least most : Nat) : List Char → Option (Nat × List Char)
  | a :: b :: rest => (Text.decimal? [a, b]).bind fun n =>
      if least ≤ n ∧ n ≤ most then some (n, rest) else none
  | _ => none

def daysIn (year month : Nat) : Nat :=
  if month = 2 then if year % 4 = 0 ∧ (year % 100 ≠ 0 ∨ year % 400 = 0) then 29 else 28
  else if month = 4 ∨ month = 6 ∨ month = 9 ∨ month = 11 then 30
  else 31

def date? : List Char → Option (List Char)
  | a :: b :: c :: d :: '-' :: rest => do
      let year ← Text.decimal? [a, b, c, d]
      let (month, rest) ← pair? 1 12 rest
      match rest with
      | '-' :: rest => (pair? 1 (daysIn year month) rest).map (·.2)
      | _ => none
  | _ => none

def time? (cs : List Char) : Option (List Char) := do
  let (_, rest) ← pair? 0 23 cs
  match rest with
  | ':' :: rest => do
      let (_, rest) ← pair? 0 59 rest
      match rest with
      | ':' :: rest => do
          let (_, rest) ← pair? 0 60 rest
          match rest with
          | '.' :: rest =>
              if (rest.takeWhile Text.isDigit).isEmpty then none else some (rest.dropWhile Text.isDigit)
          | rest => some rest
      | rest => some rest
  | _ => none

def isOffset : List Char → Bool
  | [] => true
  | ['Z'] | ['z'] => true
  | sign :: rest =>
      (sign = '+' || sign = '-') && match pair? 0 23 rest with
        | some (_, ':' :: minutes) => (pair? 0 59 minutes).any (·.2.isEmpty)
        | _ => false

def isDateBreak (c : Char) : Bool := c = 'T' || c = 't' || c = ' '

def moment? (cs : List Char) : Option Scalar :=
  let good : Bool := match date? cs with
    | some [] => true
    | some (c :: rest) => isDateBreak c && (time? rest).any isOffset
    | none => (time? cs).any (·.isEmpty)
  if good then some .moment else none

def boolean? (cs : List Char) : Option Scalar :=
  if cs = ['t', 'r', 'u', 'e'] ∨ cs = ['f', 'a', 'l', 's', 'e'] then some .boolean else none

def scalar? (cs : List Char) : Option Scalar :=
  boolean? cs <|> integer? cs <|> float? cs <|> moment? cs

def isScalarPart (c : Char) : Bool := c.isAlphanum || c = '+' || c = '-' || c = '_' || c = '.' || c = ':'

-- The characters of a scalar at the beginning of a text. One blank may stand
-- between a day and a time of day.
def scalarPart (cs : List Char) : List Char × List Char :=
  let part := cs.takeWhile isScalarPart
  let rest := cs.dropWhile isScalarPart
  match rest with
  | ' ' :: c :: more =>
      if date? part = some [] ∧ Text.isDigit c then
        (part ++ ' ' :: (c :: more).takeWhile isScalarPart, (c :: more).dropWhile isScalarPart)
      else (part, rest)
  | _ => (part, rest)

end FeatureGate.Toml
