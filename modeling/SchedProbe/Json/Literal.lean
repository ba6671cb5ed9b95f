/-! String literals of a JSON text. A literal is kept as it is written, because what it may be used for
hangs on that: an escape of half a surrogate pair denotes no text, and a number in a key must be written
without escapes. Main statement: the literal written for a text denotes that text. -/

set_option autoImplicit false

namespace SchedProbe.Json

namespace Literal

inductive Piece where
  | char (c : Char)
  | unit (n : Nat)
  deriving DecidableEq, Repr

def hexDigit? (c : Char) : Option Nat :=
  if '0' ≤ c ∧ c ≤ '9' then some (c.toNat - '0'.toNat)
  else if 'a' ≤ c ∧ c ≤ 'f' then some (c.toNat - 'a'.toNat + 10)
  else if 'A' ≤ c ∧ c ≤ 'F' then some (c.toNat - 'A'.toNat + 10)
  else none

def escape? : Char → Option Char
  | '"' => some '"'
  | '\\' => some '\\'
  | '/' => some '/'
  | 'b' => some '\x08'
  | 'f' => some '\x0c'
  | 'n' => some '\n'
  | 'r' => some '\r'
  | 't' => some '\t'
  | _ => none

def isPlain (c : Char) : Bool :=
  c != '"' && c != '\\' && 0x20 ≤ c.toNat

def unit? (a b c d : Char) : Option Nat := do
  return 4096 * (← hexDigit? a) + 256 * (← hexDigit? b) + 16 * (← hexDigit? c) + (← hexDigit? d)

def pieces? : List Char → Option (List Piece)
  | [] => some []
  | '\\' :: 'u' :: a :: b :: c :: d :: rest =>
    (unit? a b c d).bind fun n => (pieces? rest).map (.unit n :: ·)
  | '\\' :: c :: rest => (escape? c).bind fun e => (pieces? rest).map (.char e :: ·)
  | c :: rest => if isPlain c then (pieces? rest).map (.char c :: ·) else none

end Literal

/-- A string literal: the characters between its quotes, as written. -/
structure Literal where
  written : List Char
  wellFormed : (Literal.pieces? written).isSome = true
  deriving DecidableEq

namespace Literal

def ofWritten? (written : List Char) : Option Literal :=
  if h : (pieces? written).isSome = true then some ⟨written, h⟩ else none

theorem ofWritten?_written (literal : Literal) : ofWritten? literal.written = some literal := by
  rw [ofWritten?, dif_pos literal.wellFormed]

def pieces (literal : Literal) : List Piece :=
  (pieces? literal.written).get literal.wellFormed

def isHighSurrogate (n : Nat) : Bool :=
  0xd800 ≤ n && n < 0xdc00

def isLowSurrogate (n : Nat) : Bool :=
  0xdc00 ≤ n && n < 0xe000

def pairValue (high low : Nat) : Nat :=
  0x10000 + (high - 0xd800) * 0x400 + (low - 0xdc00)

/-- Join the halves of surrogate pairs; none if a half stands alone. -/
def join? : List Piece → Option (List Char)
  | [] => some []
  | .char c :: rest => (join? rest).map (c :: ·)
  | .unit n :: rest =>
    if isHighSurrogate n then
      match rest with
      | .unit low :: rest =>
        if isLowSurrogate low then (join? rest).map (Char.ofNat (pairValue n low) :: ·) else none
      | _ => none
    else if isLowSurrogate n then none
    else (join? rest).map (Char.ofNat n :: ·)

/-- The text that a literal denotes; none if an escape is half a surrogate pair. -/
def text? (literal : Literal) : Option String :=
  (join? literal.pieces).map String.ofList

def shortEscape? : Char → Option Char
  | '"' => some '"'
  | '\\' => some '\\'
  | '\x08' => some 'b'
  | '\x0c' => some 'f'
  | '\n' => some 'n'
  | '\r' => some 'r'
  | '\t' => some 't'
  | _ => none

def escape (c : Char) : List Char :=
  match shortEscape? c with
  | some letter => ['\\', letter]
  | none =>
    if c.toNat < 0x20 then
      ['\\', 'u', '0', '0', Nat.digitChar (c.toNat / 16), Nat.digitChar (c.toNat % 16)]
    else [c]

def pieceOf (c : Char) : Piece :=
  if shortEscape? c = none ∧ c.toNat < 0x20 then .unit c.toNat else .char c

theorem escape?_of_shortEscape? {c letter : Char} (h : shortEscape? c = some letter) :
    letter ≠ 'u' ∧ escape? letter = some c := by
  unfold shortEscape? at h
  split at h <;> cases h <;> decide

theorem hexDigit?_digitChar {n : Nat} (h : n < 16) : hexDigit? (Nat.digitChar n) = some n := by
  revert n
  decide

theorem pieces?_unit (a b c d : Char) (rest : List Char) :
    pieces? ('\\' :: 'u' :: a :: b :: c :: d :: rest) =
      (unit? a b c d).bind fun n => (pieces? rest).map (.unit n :: ·) := by
  rw [pieces?]

theorem pieces?_escaped {c : Char} (h : c ≠ 'u') (rest : List Char) :
    pieces? ('\\' :: c :: rest) =
      (escape? c).bind fun e => (pieces? rest).map (.char e :: ·) := by
  rw [pieces?]
  intro a b c d rest hu
  exact fun _ => h hu

theorem pieces?_plain {c : Char} (h : isPlain c = true) (rest : List Char) :
    pieces? (c :: rest) = (pieces? rest).map (.char c :: ·) := by
  have notSlash : c ≠ '\\' := by
    rintro rfl
    exact absurd h (by decide)
  rw [pieces?]
  · rw [if_pos h]
  · intro a b c d rest hc
    exact fun _ => notSlash hc
  · intro c rest hc
    exact fun _ => notSlash hc

theorem pieces?_escape (c : Char) (rest : List Char) :
    pieces? (escape c ++ rest) = (pieces? rest).map (pieceOf c :: ·) := by
  unfold escape
  split
  next letter short =>
    obtain ⟨other, back⟩ := escape?_of_shortEscape? short
    simp only [List.cons_append, List.nil_append]
    rw [pieces?_escaped other, back, Option.bind_some, pieceOf, if_neg]
    rw [short]
    rintro ⟨none, -⟩
    cases none
  next unescaped =>
    split
    next h =>
      have value : unit? '0' '0' (Nat.digitChar (c.toNat / 16)) (Nat.digitChar (c.toNat % 16)) =
          some c.toNat := by
        simp only [unit?, hexDigit?_digitChar (show c.toNat / 16 < 16 by omega),
          hexDigit?_digitChar (show c.toNat % 16 < 16 by omega), show hexDigit? '0' = some 0 from rfl]
        exact congrArg some (by omega)
      simp only [List.cons_append, List.nil_append]
      rw [pieces?_unit, value, Option.bind_some, pieceOf, if_pos ⟨unescaped, h⟩]
    next h =>
      have plain : isPlain c = true := by
        simp only [isPlain, Bool.and_eq_true, bne_iff_ne, decide_eq_true_eq]
        refine ⟨⟨?_, ?_⟩, by omega⟩ <;> rintro rfl <;> cases unescaped
      rw [List.singleton_append, pieces?_plain plain, pieceOf, if_neg fun low => h low.2]

theorem pieces?_flatMap_escape (cs : List Char) :
    pieces? (cs.flatMap escape) = some (cs.map pieceOf) := by
  induction cs with
  | nil => rfl
  | cons c cs ih => rw [List.flatMap_cons, pieces?_escape, ih]; rfl

def ofText (s : String) : Literal where
  written := s.toList.flatMap escape
  wellFormed := by rw [pieces?_flatMap_escape]; rfl

theorem join?_map_pieceOf (cs : List Char) : join? (cs.map pieceOf) = some cs := by
  induction cs with
  | nil => rfl
  | cons c cs ih =>
    rw [List.map_cons, pieceOf]
    split
    next h =>
      have high : isHighSurrogate c.toNat = false := by simp [isHighSurrogate]; omega
      have low : isLowSurrogate c.toNat = false := by simp [isLowSurrogate]; omega
      rw [join?.eq_def]
      simp [high, low, ih]
    next h => rw [join?, ih]; rfl

theorem text?_ofText (s : String) : (ofText s).text? = some s := by
  have pieces_eq : (ofText s).pieces = s.toList.map pieceOf := by
    simp only [pieces, ofText, pieces?_flatMap_escape, Option.get_some]
  rw [text?, pieces_eq, join?_map_pieceOf, Option.map_some, String.ofList_toList]

end Literal

end SchedProbe.Json
