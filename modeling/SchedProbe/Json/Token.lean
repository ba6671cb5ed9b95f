import SchedProbe.Json.Literal
import SchedProbe.Json.Number

/-! Tokens of a JSON text. -/

set_option autoImplicit false

namespace SchedProbe.Json

inductive Token where
  | openArray | closeArray | openObject | closeObject | comma | colon
  | null
  | bool (value : Bool)
  | number (value : Number)
  | literal (value : Literal)
  deriving DecidableEq

namespace Token

def chars : Token → List Char
  | openArray => ['[']
  | closeArray => [']']
  | openObject => ['{']
  | closeObject => ['}']
  | comma => [',']
  | colon => [':']
  | null => ['n', 'u', 'l', 'l']
  | bool true => ['t', 'r', 'u', 'e']
  | bool false => ['f', 'a', 'l', 's', 'e']
  | number value => value.text.toList
  | literal value => '"' :: value.written ++ ['"']

def mark? : Char → Option Token
  | '[' => some openArray
  | ']' => some closeArray
  | '{' => some openObject
  | '}' => some closeObject
  | ',' => some comma
  | ':' => some colon
  | _ => none

def word? (cs : List Char) : Option Token :=
  if cs = ['n', 'u', 'l', 'l'] then some null
  else if cs = ['t', 'r', 'u', 'e'] then some (bool true)
  else if cs = ['f', 'a', 'l', 's', 'e'] then some (bool false)
  else (Number.ofChars? cs).map number

end Token

/-- Where a scan stands: between tokens, in a word, or in a string literal; with the characters of the
unfinished token, last one first. In a literal the character after a backslash ends nothing. -/
inductive ScanMode where
  | between
  | word (reversed : List Char)
  | quoted (reversed : List Char) (escaped : Bool)
  deriving DecidableEq, Repr

/-- A scan: its mode and the tokens found, last one first. -/
structure Scan where
  mode : ScanMode
  found : List Token
  deriving DecidableEq

namespace Scan

def start : Scan := ⟨.between, []⟩

def isSpace (c : Char) : Bool :=
  c == ' ' || c == '\t' || c == '\n' || c == '\r'

def stepBetween (found : List Token) (c : Char) : Scan :=
  if isSpace c then ⟨.between, found⟩
  else if c = '"' then ⟨.quoted [] false, found⟩
  else match Token.mark? c with
    | some token => ⟨.between, token :: found⟩
    | none => ⟨.word [c], found⟩

def endsWord (c : Char) : Bool :=
  isSpace c || c == '"' || (Token.mark? c).isSome

def stepQuoted (found : List Token) (reversed : List Char) (escaped : Bool) (c : Char) : Option Scan :=
  if escaped then some ⟨.quoted (c :: reversed) false, found⟩
  else if c = '"' then
    (Literal.ofWritten? reversed.reverse).map fun literal => ⟨.between, .literal literal :: found⟩
  else some ⟨.quoted (c :: reversed) (c == '\\'), found⟩

def step (scan : Scan) (c : Char) : Option Scan :=
  match scan.mode with
  | .between => some (stepBetween scan.found c)
  | .word reversed =>
    if endsWord c then
      (Token.word? reversed.reverse).map fun token => stepBetween (token :: scan.found) c
    else some ⟨.word (c :: reversed), scan.found⟩
  | .quoted reversed escaped => stepQuoted scan.found reversed escaped c

def finish? (scan : Scan) : Option (List Token) :=
  match scan.mode with
  | .between => some scan.found.reverse
  | .word reversed =>
    (Token.word? reversed.reverse).map fun token => (token :: scan.found).reverse
  | .quoted _ _ => none

end Scan

def Token.ofChars? (cs : List Char) : Option (List Token) :=
  (cs.foldlM Scan.step Scan.start).bind Scan.finish?

end SchedProbe.Json
