import FeatureGate.Text.Integer

namespace FeatureGate.Toml

def isGap (c : Char) : Bool := c = ' ' || c = '\t'

def skipGap (cs : List Char) : List Char := cs.dropWhile isGap

def lineEnd? : List Char → Option (List Char)
  | '\n' :: rest => some rest
  | '\r' :: '\n' :: rest => some rest
  | _ => none

def isPlain (c : Char) : Bool := c = '\t' || (' ' ≤ c && c ≠ '\x7f')

def skipComment : List Char → List Char
  | '#' :: rest => rest.dropWhile isPlain
  | cs => cs

def skipLines : Nat → List Char → List Char
  | 0, cs => cs
  | fuel + 1, cs =>
      let rest := skipComment (skipGap cs)
      match lineEnd? rest with
      | some after => skipLines fuel after
      | none => rest

def skipAll (cs : List Char) : List Char := skipLines (cs.length + 1) cs

def hexDigit? (c : Char) : Option Nat :=
  if '0' ≤ c ∧ c ≤ '9' then some (c.toNat - '0'.toNat)
  else if 'a' ≤ c ∧ c ≤ 'f' then some (c.toNat - 'a'.toNat + 10)
  else if 'A' ≤ c ∧ c ≤ 'F' then some (c.toNat - 'A'.toNat + 10)
  else none

def codePoint? (digits : List Char) : Option Char :=
  (digits.foldlM (fun n c => (hexDigit? c).map (16 * n + ·)) 0).bind fun code =>
    if code.isValidChar then some (Char.ofNat code) else none

def escaped? (c : Char) : Option Char :=
  match c with
  | 'b' => some '\x08'
  | 't' => some '\t'
  | 'n' => some '\n'
  | 'f' => some '\x0c'
  | 'r' => some '\r'
  | 'e' => some '\x1b'
  | '"' => some '"'
  | '\\' => some '\\'
  | _ => none

def followedBy (c : Option Char) (rest : Option (List Char × List Char)) :
    Option (List Char × List Char) :=
  match c, rest with
  | some c, some (text, after) => some (c :: text, after)
  | _, _ => none

def basic : List Char → Option (List Char × List Char)
  | [] => none
  | '"' :: rest => some ([], rest)
  | '\\' :: 'x' :: a :: b :: rest => followedBy (codePoint? [a, b]) (basic rest)
  | '\\' :: 'u' :: a :: b :: c :: d :: rest => followedBy (codePoint? [a, b, c, d]) (basic rest)
  | '\\' :: 'U' :: a :: b :: c :: d :: e :: f :: g :: h :: rest =>
      followedBy (codePoint? [a, b, c, d, e, f, g, h]) (basic rest)
  | '\\' :: e :: rest => followedBy (escaped? e) (basic rest)
  | c :: rest => if isPlain c && c ≠ '\\' then followedBy (some c) (basic rest) else none

def literal : List Char → Option (List Char × List Char)
  | [] => none
  | '\'' :: rest => some ([], rest)
  | c :: rest => if isPlain c then followedBy (some c) (literal rest) else none

-- A backslash at the end of a line takes away the line end and every blank and
-- line end after it.
def endsLine (cs : List Char) : Bool := (lineEnd? (skipGap cs)).isSome

-- Behind three double quotes. Up to two more quotes may stand right before the
-- three that close. The flag says that blanks and line ends are being taken away.
def basicLines : Bool → List Char → Option (List Char × List Char)
  | _, [] => none
  | _, '"' :: '"' :: '"' :: '"' :: '"' :: rest => some (['"', '"'], rest)
  | _, '"' :: '"' :: '"' :: '"' :: rest => some (['"'], rest)
  | _, '"' :: '"' :: '"' :: rest => some ([], rest)
  | _, '\\' :: 'x' :: a :: b :: rest => followedBy (codePoint? [a, b]) (basicLines false rest)
  | _, '\\' :: 'u' :: a :: b :: c :: d :: rest =>
      followedBy (codePoint? [a, b, c, d]) (basicLines false rest)
  | _, '\\' :: 'U' :: a :: b :: c :: d :: e :: f :: g :: h :: rest =>
      followedBy (codePoint? [a, b, c, d, e, f, g, h]) (basicLines false rest)
  | _, '\\' :: e :: rest =>
      if endsLine (e :: rest) then basicLines true (e :: rest)
      else followedBy (escaped? e) (basicLines false rest)
  | skipping, '\r' :: '\n' :: rest =>
      if skipping then basicLines true rest
      else followedBy (some '\r') (followedBy (some '\n') (basicLines false rest))
  | skipping, c :: rest =>
      if skipping && (isGap c || c = '\n') then basicLines true rest
      else if (isPlain c && c ≠ '\\') || c = '\n' then followedBy (some c) (basicLines false rest)
      else none

def literalLines : List Char → Option (List Char × List Char)
  | [] => none
  | '\'' :: '\'' :: '\'' :: '\'' :: '\'' :: rest => some (['\'', '\''], rest)
  | '\'' :: '\'' :: '\'' :: '\'' :: rest => some (['\''], rest)
  | '\'' :: '\'' :: '\'' :: rest => some ([], rest)
  | '\r' :: '\n' :: rest => followedBy (some '\r') (followedBy (some '\n') (literalLines rest))
  | c :: rest => if isPlain c || c = '\n' then followedBy (some c) (literalLines rest) else none

def dropLineEnd (cs : List Char) : List Char := (lineEnd? cs).getD cs

end FeatureGate.Toml
