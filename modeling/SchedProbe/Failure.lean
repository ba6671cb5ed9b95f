import SchedProbe.ReadyQueue.Display
import SchedProbe.Target.Error

/-! Why a command failed, and what of its output can still be shown. -/

set_option autoImplicit false

namespace SchedProbe

/-- Why a file or an option was not accepted. The details are what the system says of a file it does not read
and the JSON reader of a text it does not take. -/
inductive InputError where
  | unreadable (detail : String)
  | malformed (detail : String)
  | badOverride (text : String)
  deriving DecidableEq, Repr

def InputError.message : InputError → String
  | unreadable detail => "io error: " ++ detail
  | malformed detail => "json error: " ++ detail
  | badOverride text => "invalid name override '" ++ text ++ "' (expected ID=LABEL)"

/-- Why a command failed. An incomplete ring keeps the lines of the slots before the one at fault. -/
inductive Failure where
  | access (source : AccessError)
  | corruptedQueue (source : ReadyQueue.Corrupted)
  | incomplete (command : String) (decoded : List String) (total : Nat) (source : AccessError)
  | input (source : InputError)
  | unknownCommand (name : String)
  deriving DecidableEq, Repr

namespace Failure

def message : Failure → String
  | access source => "target access error: " ++ source.message
  | corruptedQueue source => source.message
  | incomplete command decoded total source =>
    command ++ " incomplete after " ++ Text.decimal decoded.length ++ " of " ++ Text.decimal total ++
      " records: " ++ source.message
  | input source => "config error: " ++ source.message
  | unknownCommand name => "unknown command '" ++ name ++ "'"

def isPartial : Failure → Bool
  | incomplete .. | corruptedQueue _ => true
  | access _ | input _ | unknownCommand _ => false

def partialLines : Failure → List String
  | incomplete _ decoded _ _ => decoded
  | corruptedQueue source => source.lines
  | access _ | input _ | unknownCommand _ => []

end Failure

end SchedProbe
