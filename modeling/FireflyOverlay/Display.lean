import FireflyOverlay.Control
import FireflyOverlay.Display.Call
import FireflyOverlay.Log.Record

/-!
# Displays

A `Display` answers calls.  It is a step function on a state of its own: the state holds what is
current on the calling thread, so a display is used from one place at a time.

* `Reaction`       what comes back from a call: the reply, or none if the call crashes, the
                   records it logs, and requests that reach the renderer while it runs;
* `Display.step`   one call;
* `Display.configText`   a config as it is named in log records.
-/

namespace FireflyOverlay

structure Reaction (β : Type) where
  reply : Option β
  logs : List LogRecord
  requests : Requests

namespace Reaction

variable {β : Type}

def answer (reply : β) : Reaction β := ⟨some reply, [], .none⟩

def crash : Reaction β := ⟨none, [], .none⟩

def withLogs (reply : β) (logs : List LogRecord) : Reaction β := ⟨some reply, logs, .none⟩

end Reaction

class Display (α σ : Type) where
  step : (c : Call α) → σ → Reaction c.Reply × σ
  configText : σ → ConfigId → String

end FireflyOverlay
