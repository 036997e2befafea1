/-!
# Log records

A record has a level and a message.  Levels are ordered: the more is logged, the higher.
-/

namespace FireflyOverlay

inductive Level where
  | error
  | warn
  | info
  | debug
  | trace
deriving DecidableEq, Repr

namespace Level

def rank : Level → Nat
  | .error => 1
  | .warn => 2
  | .info => 3
  | .debug => 4
  | .trace => 5

def name : Level → String
  | .error => "ERROR"
  | .warn => "WARN"
  | .info => "INFO"
  | .debug => "DEBUG"
  | .trace => "TRACE"

def all : List Level := [.error, .warn, .info, .debug, .trace]

end Level

structure LogRecord where
  level : Level
  message : String
deriving DecidableEq, Repr

end FireflyOverlay
