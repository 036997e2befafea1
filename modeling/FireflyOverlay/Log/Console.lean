import FireflyOverlay.Log.Filter
import FireflyOverlay.Log.Panel

/-!
# The console

* `Console.setUp`   starts logging, once; a setup after it changes nothing.  The filter is the given
                    one, or `info` where none is given or it cannot be read;
* `Console.post`    prints a record as a panel, with an empty line behind it, if the filter allows it.
                    A target in braces names the writers that the record goes to.  There is only one,
                    and others are reported.
-/

namespace FireflyOverlay

structure Posting where
  record : LogRecord
  target : String
  origin : Origin
deriving DecidableEq, Repr

structure Console where
  /-- none before the setup -/
  filter : Option LogFilter
  terminal : Nat
  printed : String
deriving DecidableEq, Repr

namespace Console

/-- A terminal that does not tell its width has 80 columns. -/
def initial : Console := ⟨none, 80, ""⟩

def defaultFilter : LogFilter := ⟨[⟨[], Level.info.rank⟩], none⟩

def filterOf (given : Option String) : LogFilter :=
  (given.bind LogFilter.ofText?).getD defaultFilter

/-! ## writers -/

/-- The names of the writers in a target in braces. -/
def writers? : List Char → Option (List String)
  | '\x7b' :: names => some ((Text.split ',' names.dropLast).map String.ofList)
  | _ => none

/-- The name of the writer that there is. -/
def knownWriter : String := "_Default"

def writerHelp : String :=
  "https:" ++ "//docs.rs/flexi_logger/latest/flexi_logger/error_info/index.html#writerspec"

def complaint (writer : String) : String :=
  s!"[flexi_logger][ERRCODE::WriterSpec] bad writer spec: {writer}\n    See {writerHelp}\n"

/-! ## records -/

def print (text : String) (c : Console) : Console := { c with printed := c.printed ++ text }

/-- Prints a record as one of a target, if the filter allows it. -/
def write (f : LogFilter) (time target : String) (p : Posting) (c : Console) : Console :=
  if f.allows target p.record then
    c.print (Panel.text Panel.fill c.terminal time p.origin p.record ++ "\n")
  else c

/-- Under a target in braces, the record has no target of its own. -/
def post (time : String) (p : Posting) (c : Console) : Console :=
  match c.filter with
  | none => c
  | some f =>
    if f.highest < p.record.level.rank then c
    else match writers? p.target.toList with
      | none => c.write f time p.target p
      | some writers =>
        let c := c.print (String.join ((writers.filter (· ≠ knownWriter)).map complaint))
        if writers.contains knownWriter then c.write f time "" p else c

theorem filter_write (f : LogFilter) (time target : String) (p : Posting) (c : Console) :
    (c.write f time target p).filter = c.filter := by
  rw [write]
  split <;> rfl

theorem filter_post (time : String) (p : Posting) (c : Console) :
    (c.post time p).filter = c.filter := by
  rw [post]
  split
  · rfl
  · split
    · rfl
    · split
      · exact filter_write _ _ _ _ _
      · dsimp only
        split
        · exact filter_write _ _ _ _ _
        · rfl

/-! ## the setup -/

/-- What a setup logs. -/
def greeting : Posting :=
  ⟨⟨.info, "Adjust the log level by setting RUST_LOG. By default RUST_LOG=info"⟩,
    "fireflies::logging", ⟨none, none⟩⟩

def setUp (time : String) (given : Option String) (c : Console) : Console :=
  match c.filter with
  | some _ => c
  | none => { c with filter := some (filterOf given) }.post time greeting

theorem setUp_setUp (time : String) (given : Option String) (c : Console) :
    ((c.setUp time given).setUp time given) = c.setUp time given := by
  have h : ∀ (d : Console) (f : LogFilter), d.filter = some f → d.setUp time given = d := by
    intro d f hd
    rw [setUp, hd]
  cases hc : c.filter with
  | some f => rw [h c f hc, h c f hc]
  | none =>
    refine h _ (filterOf given) ?_
    rw [setUp, hc]
    exact filter_post _ _ _

end Console
end FireflyOverlay
