import Batchwise.Options
import Batchwise.Variable.Reference
import Batchwise.Variable.Store

namespace Batchwise

/-! What a script knows while it is read: its variables and its error policy.
The variables of the caller are there from the start, in scripting modes only,
and are locked where the mode says so. They are written in the order of their
names, so of two spellings of one name the later stays. -/

structure Context where
  mode : Mode
  store : Store
  continueOnError : Bool
  deriving DecidableEq, Repr

namespace Context

def ofOptions (options : Options) : Context where
  mode := options.mode
  store :=
    if options.mode.isScripting then
      options.bindings.entries.foldl
        (fun store entry => store.insert ⟨entry.1, entry.2, options.mode = .sqlcmd⟩) .empty
    else .empty
  continueOnError := options.continueOnError

def expand (context : Context) (text : List Char) : List Char :=
  if context.mode.isScripting then Batchwise.expand context.store.get? text else text

def assign (context : Context) (name value : List Char) : Context :=
  { context with store := context.store.assign name value }

end Context

end Batchwise
