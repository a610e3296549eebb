import CorpusQuery.Decimal
import CorpusQuery.Json.Basic

/-!
# Writing JSON

A value has two written forms (`Layout`): compact, without any blank, and pretty, with each entry on
a line of its own under an indentation of two blanks a level. A string escapes the quote, the
backslash and the control characters below the blank, and nothing else.
-/

namespace CorpusQuery.Json

inductive Layout where
  | compact
  | pretty
  deriving DecidableEq

namespace Layout

/-- What comes before an entry, or before the bracket that ends a container. -/
def gap : Layout → Nat → List Char
  | compact, _ => []
  | pretty, depth => '\n' :: List.replicate (2 * depth) ' '

/-- What parts a key from its value. -/
def colon : Layout → List Char
  | compact => [':']
  | pretty => [':', ' ']

end Layout

/-- A digit of base sixteen, in lower case. -/
def hexDigit (n : Nat) : Char :=
  if n < 10 then Char.ofNat (48 + n) else Char.ofNat (87 + n)

/-- A character as it stands between quotes. -/
def escape (c : Char) : List Char :=
  if c = '"' then ['\\', '"']
  else if c = '\\' then ['\\', '\\']
  else if c = '\x08' then ['\\', 'b']
  else if c = '\t' then ['\\', 't']
  else if c = '\n' then ['\\', 'n']
  else if c = '\x0c' then ['\\', 'f']
  else if c = '\r' then ['\\', 'r']
  else if c.toNat < 32 then
    ['\\', 'u', '0', '0', hexDigit (c.toNat / 16), hexDigit (c.toNat % 16)]
  else [c]

def quote (s : String) : List Char :=
  '"' :: s.toList.flatMap escape ++ ['"']

def Number.write : Number → List Char
  | integer i => Decimal.signed i
  | spelled cs => cs

def Scalar.write : Scalar → List Char
  | null => ['n', 'u', 'l', 'l']
  | bool true => ['t', 'r', 'u', 'e']
  | bool false => ['f', 'a', 'l', 's', 'e']
  | number n => n.write
  | text s => quote s

mutual

/-- The written form of a value that stands inside `depth` containers. -/
def write (l : Layout) (depth : Nat) : Json → List Char
  | .scalar s => s.write
  | .array [] => ['[', ']']
  | .array (e :: es) =>
    '[' :: (l.gap (depth + 1) ++ (e.write l (depth + 1) ++
      (writeEntries l (depth + 1) es ++ (l.gap depth ++ [']']))))
  | .object [] => ['{', '}']
  | .object ((k, e) :: ms) =>
    '{' :: (l.gap (depth + 1) ++ (quote k ++ (l.colon ++ (e.write l (depth + 1) ++
      (writeMembers l (depth + 1) ms ++ (l.gap depth ++ ['}']))))))

/-- The entries after the first. -/
def writeEntries (l : Layout) (depth : Nat) : List Json → List Char
  | [] => []
  | e :: es => ',' :: (l.gap depth ++ (e.write l depth ++ writeEntries l depth es))

/-- The members after the first. -/
def writeMembers (l : Layout) (depth : Nat) : List (String × Json) → List Char
  | [] => []
  | (k, e) :: ms =>
    ',' :: (l.gap depth ++ (quote k ++ (l.colon ++ (e.write l depth ++ writeMembers l depth ms))))

end

/-- The text of a whole value. -/
def render (l : Layout) (j : Json) : String :=
  String.ofList (j.write l 0)

end CorpusQuery.Json
