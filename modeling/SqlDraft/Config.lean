import SqlDraft.Error
import SqlDraft.Schema.Shape

/-!
Settings of a draft, given one after the other; only the last one has to be a truth value.
-/
namespace SqlDraft.Config

def readStrict (settings : List Value) : Except Error Bool :=
  let last := settings.getLast?.getD (.bool false)
  match Schema.Shape.config.check (.dict [(.text "strict", last)]) with
  | .ok (.dict [(_, v)]) => .ok v.isTrue
  | .ok _ => .ok false
  | .error faults => .error (.invalidFields faults)

end SqlDraft.Config
