/-!
Progress and failure messages with their levels, in the order in which they were given.
-/

set_option autoImplicit false

namespace ApiContract

inductive Level where
  | debug
  | info
  | warn
  | error
deriving DecidableEq

structure LogEntry where
  level : Level
  message : String
deriving DecidableEq

abbrev Log := List LogEntry

def Log.messages (log : Log) (level : Level) : List String :=
  (log.filter fun entry => decide (entry.level = level)).map LogEntry.message

end ApiContract
