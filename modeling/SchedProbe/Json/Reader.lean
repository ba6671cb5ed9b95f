import SchedProbe.Json.Value

/-! Reading a JSON text. The reader goes over the tokens once and keeps the arrays and objects that are
still open on a stack of its own, so a text may nest to any depth. -/

set_option autoImplicit false

namespace SchedProbe.Json

/-- An open array or object: what it holds so far, last one first, and for an object the key whose value
comes next. -/
inductive Frame where
  | array (items : List Value)
  | object (members : List (Literal × Value)) (key : Literal)

inductive Reader where
  /-- A value. -/
  | value (stack : List Frame)
  /-- The first item of an array, or its end. -/
  | firstItem (stack : List Frame)
  /-- The first key of an object, or its end. -/
  | firstKey (stack : List Frame)
  /-- The key after a comma. -/
  | key (members : List (Literal × Value)) (stack : List Frame)
  /-- The colon after a key. -/
  | colon (members : List (Literal × Value)) (key : Literal) (stack : List Frame)
  /-- What follows a value. -/
  | after (value : Value) (stack : List Frame)

namespace Reader

def begin (stack : List Frame) : Token → Option Reader
  | .null => some (after .null stack)
  | .bool b => some (after (.bool b) stack)
  | .number n => some (after (.number n) stack)
  | .literal s => some (after (.literal s) stack)
  | .openArray => some (firstItem stack)
  | .openObject => some (firstKey stack)
  | .closeArray | .closeObject | .comma | .colon => none

def resume (value : Value) : List Frame → Token → Option Reader
  | .array items :: stack, .comma => some (.value (.array (value :: items) :: stack))
  | .array items :: stack, .closeArray => some (after (.array (value :: items).reverse) stack)
  | .object members name :: stack, .comma => some (.key ((name, value) :: members) stack)
  | .object members name :: stack, .closeObject =>
    some (after (.object ((name, value) :: members).reverse) stack)
  | _, _ => none

def step : Reader → Token → Option Reader
  | value stack, token => begin stack token
  | firstItem stack, .closeArray => some (after (.array []) stack)
  | firstItem stack, token => begin (.array [] :: stack) token
  | firstKey stack, .closeObject => some (after (.object []) stack)
  | firstKey stack, .literal k => some (colon [] k stack)
  | firstKey _, _ => none
  | key members stack, .literal k => some (colon members k stack)
  | key _ _, _ => none
  | colon members k stack, .colon => some (value (.object members k :: stack))
  | colon _ _ _, _ => none
  | after v stack, token => resume v stack token

def finish? : Reader → Option Value
  | after v [] => some v
  | _ => none

end Reader

def Value.ofTokens? (tokens : List Token) : Option Value :=
  (tokens.foldlM Reader.step (Reader.value [])).bind Reader.finish?

namespace Reader

/-- No value begins with the end of an array, so the first item of an array is read like any value. -/
theorem firstItem_tokens (item : Value) (stack : List Frame) (rest : List Token) :
    (item.tokens ++ rest).foldlM step (.firstItem stack) =
      (item.tokens ++ rest).foldlM step (.value (.array [] :: stack)) := by
  match item with
  | .null | .bool _ | .number _ | .literal _ => rfl
  | .array [] | .array (_ :: _) => simp [Value.tokens, step]
  | .object [] | .object ((_, _) :: _) => simp [Value.tokens, step]

mutual

/-- Reading the tokens of a value leaves the reader behind that value. -/
theorem foldlM_tokens (v : Value) (stack : List Frame) (rest : List Token) :
    (v.tokens ++ rest).foldlM step (.value stack) = rest.foldlM step (.after v stack) := by
  match v with
  | .null | .bool _ | .number _ | .literal _ => rfl
  | .array [] => rfl
  | .array (item :: items) =>
    simp only [Value.tokens, List.cons_append, List.append_assoc, List.foldlM_cons, step, begin,
      Option.bind_eq_bind, Option.bind_some]
    rw [firstItem_tokens, foldlM_tokens item, foldlM_itemTokens items]
    rfl
  | .object [] => rfl
  | .object ((name, member) :: members) =>
    simp only [Value.tokens, List.cons_append, List.append_assoc, List.foldlM_cons, step, begin,
      Option.bind_eq_bind, Option.bind_some]
    rw [foldlM_tokens member, foldlM_memberTokens members]
    rfl

/-- Reading the items that follow `v` leaves the reader behind their array. -/
theorem foldlM_itemTokens (items earlier : List Value) (v : Value) (stack : List Frame)
    (rest : List Token) :
    (Value.itemTokens items ++ rest).foldlM step (.after v (.array earlier :: stack)) =
      rest.foldlM step (.after (.array ((v :: earlier).reverse ++ items)) stack) := by
  match items with
  | [] => simp [Value.itemTokens, step, resume]
  | item :: items =>
    simp only [Value.itemTokens, List.cons_append, List.append_assoc, List.foldlM_cons, step, resume,
      Option.bind_eq_bind, Option.bind_some]
    rw [foldlM_tokens item, foldlM_itemTokens items]
    simp

/-- Reading the members that follow the value `v` leaves the reader behind their object. -/
theorem foldlM_memberTokens (members earlier : List (Literal × Value)) (name : Literal) (v : Value)
    (stack : List Frame) (rest : List Token) :
    (Value.memberTokens members ++ rest).foldlM step (.after v (.object earlier name :: stack)) =
      rest.foldlM step
        (.after (.object (((name, v) :: earlier).reverse ++ members)) stack) := by
  match members with
  | [] => simp [Value.memberTokens, step, resume]
  | (next, member) :: members =>
    simp only [Value.memberTokens, List.cons_append, List.append_assoc, List.foldlM_cons, step,
      resume, Option.bind_eq_bind, Option.bind_some]
    rw [foldlM_tokens member, foldlM_memberTokens members]
    simp

end

end Reader

theorem Value.ofTokens?_tokens (v : Value) : Value.ofTokens? v.tokens = some v := by
  have h := Reader.foldlM_tokens v [] []
  rw [List.append_nil] at h
  rw [Value.ofTokens?, h]
  rfl

def Value.ofText? (s : String) : Option Value :=
  (Token.ofChars? s.toList).bind Value.ofTokens?

end SchedProbe.Json
