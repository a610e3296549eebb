import CorpusQuery.Json.Writer
import CorpusQuery.Record.Reading

/-!
# Settings

What governs compilation and files: whether progress is reported, the directory that relative file
names start from, how much a new ignore clause skips, and the layout of written JSON. In JSON every
setting may be missing, and then has its default.
-/

namespace CorpusQuery

structure Settings where
  debug : Bool := false
  workdir : Option String := none
  maxSkip : UInt64 := 1
  compact : Bool := false
  deriving DecidableEq

namespace Settings

open Record

def layout (c : Settings) : Json.Layout :=
  if c.compact then .compact else .pretty

def toJson (c : Settings) : Json :=
  .object [
    ("debug", .bool c.debug),
    ("workdir", match c.workdir with
      | none => .null
      | some d => .text d),
    ("max_skip_length", .natural c.maxSkip),
    ("compact", .bool c.compact)]

/-- The fields, each with the default that a new `Settings` has. -/
def schema : Schema :=
  let c : Settings := {}
  [⟨"debug", .flag, some (.flag c.debug)⟩,
    ⟨"workdir", .optionalText, some (.optionalText c.workdir)⟩,
    ⟨"max_skip_length", .count, some (.count c.maxSkip)⟩,
    ⟨"compact", .flag, some (.flag c.compact)⟩]

def build? : List Field → Option Settings
  | [.flag debug, .optionalText workdir, .count maxSkip, .flag compact] =>
    some { debug, workdir, maxSkip, compact }
  | _ => none

/-- Reads settings from a text that comes from `source`. -/
def parse (source : Source) (s : String) : Except Error Settings :=
  Except.mapError (.unreadable source true) do
    orUnfit (build? (← readRecord schema Json.maxDepth (.ofText s)))

end Settings

end CorpusQuery
