import FeatureGate.Approximate

namespace FeatureGate.Json

def isSpace (c : Char) : Bool := c = ' ' || c = '\n' || c = '\t' || c = '\r'

def skipSpace (cs : List Char) : List Char := cs.dropWhile isSpace

def hexDigit? (c : Char) : Option Nat :=
  if '0' ≤ c ∧ c ≤ '9' then some (c.toNat - '0'.toNat)
  else if 'a' ≤ c ∧ c ≤ 'f' then some (c.toNat - 'a'.toNat + 10)
  else if 'A' ≤ c ∧ c ≤ 'F' then some (c.toNat - 'A'.toNat + 10)
  else none

def hexValue? (digits : List Char) : Option Nat :=
  digits.foldlM (fun n c => (hexDigit? c).map (16 * n + ·)) 0

inductive Piece where
  | char (c : Char)
  | unit (code : Nat)
deriving DecidableEq, Repr

def isHigh (code : Nat) : Bool := 0xd800 ≤ code && code < 0xdc00
def isLow (code : Nat) : Bool := 0xdc00 ≤ code && code < 0xe000

-- A high unit needs a low one right behind it, and a low unit a high one before.
def decode : List Piece → Option (List Char)
  | [] => some []
  | .char c :: rest => (decode rest).map (c :: ·)
  | .unit high :: .unit low :: rest =>
      if isHigh high then
        if isLow low then
          (decode rest).map (Char.ofNat (0x10000 + (high - 0xd800) * 0x400 + (low - 0xdc00)) :: ·)
        else none
      else if isLow high then none
      else (decode (.unit low :: rest)).map (Char.ofNat high :: ·)
  | .unit code :: rest =>
      if isHigh code || isLow code then none else (decode rest).map (Char.ofNat code :: ·)

def escaped? (c : Char) : Option Char :=
  match c with
  | '"' => some '"'
  | '\\' => some '\\'
  | '/' => some '/'
  | 'b' => some '\x08'
  | 'f' => some '\x0c'
  | 'n' => some '\n'
  | 'r' => some '\r'
  | 't' => some '\t'
  | _ => none

def stringBody : List Char → Option (List Piece × List Char)
  | [] => none
  | '"' :: rest => some ([], rest)
  | '\\' :: 'u' :: a :: b :: c :: d :: rest =>
      match hexValue? [a, b, c, d], stringBody rest with
      | some code, some (pieces, after) => some (.unit code :: pieces, after)
      | _, _ => none
  | '\\' :: e :: rest =>
      match escaped? e, stringBody rest with
      | some c, some (pieces, after) => some (.char c :: pieces, after)
      | _, _ => none
  | c :: rest =>
      if c < ' ' ∨ c = '\\' then none
      else (stringBody rest).map fun (pieces, after) => (.char c :: pieces, after)

def string? (cs : List Char) : Option (Option String × List Char) :=
  (stringBody cs).map fun (pieces, after) => ((decode pieces).map String.ofList, after)

def exponent? (cs : List Char) : Option (Int × List Char) :=
  match cs with
  | e :: rest =>
      if e = 'e' ∨ e = 'E' then
        let (negative, after) := Text.signed rest
        let digits := after.takeWhile Text.isDigit
        if digits.isEmpty then none
        else
          let magnitude : Int := Text.decimalValue digits
          some (if negative then -magnitude else magnitude, after.dropWhile Text.isDigit)
      else some (0, cs)
  | [] => some (0, [])

-- A number without its sign: no superfluous leading zero, and digits on both
-- sides of a point. The answer says whether the number is finite.
def number? (cs : List Char) : Option (Bool × List Char) :=
  let whole := cs.takeWhile Text.isDigit
  let afterWhole := cs.dropWhile Text.isDigit
  if whole.isEmpty ∨ (whole.head? = some '0' ∧ whole.length ≠ 1) then none
  else
    let point := afterWhole.head? = some '.'
    let fraction := if point then afterWhole.tail.takeWhile Text.isDigit else []
    let afterFraction := if point then afterWhole.tail.dropWhile Text.isDigit else afterWhole
    if point ∧ fraction.isEmpty then none
    else (exponent? afterFraction).map fun (exponent, after) =>
      (Approximate.isFinite (Approximate.scaled (whole ++ fraction) (exponent - fraction.length)), after)

end FeatureGate.Json
