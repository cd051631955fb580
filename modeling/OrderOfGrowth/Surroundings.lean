import OrderOfGrowth.FileTree
import OrderOfGrowth.Keyed
import OrderOfGrowth.Terminal.Screen

/-!
# Surroundings

What a run finds around it and cannot change: where it stands and what it may do there, what its
devices and streams do, what its screen is like, and the texts that only a clock or a running
system can give. Nothing is assumed about any of these.
-/

namespace OrderOfGrowth

/-- How the bytes of the standard input become a text. A stream may turn every kind of line end into
a line feed, or leave the text as it is, and bytes that are not well formed are a failure, or each
of them becomes half of a surrogate pair. A terminal or a pipe leaves line ends as they are. -/
structure InputRule where
  unifiesLineEnds : Bool
  escapesBytes : Bool
  deriving DecidableEq

/-- What goes wrong when a text is written to a file that is open: how many of its bytes stay in the
file, and the message. -/
structure WriteFault where
  kept : Nat
  message : String

/-- What an action finds around it and cannot change. -/
structure Surroundings where
  /-- Where the process stands, and what it may not do there. -/
  current : Standpoint
  home : String
  /-- The home directories of users by name. -/
  accounts : Keyed String
  /-- The names that are tried for a temporary file, in this order. -/
  scratch : List String
  /-- What goes wrong when a page is written at a location. -/
  writeFault : Location → Option WriteFault
  /-- Why no browser can be started. -/
  browserFault : Option String
  input : InputRule
  /-- How many lists and objects may be open inside each other while JSON is read. -/
  nesting : Nat
  screen : Terminal.Screen
  time : String
  elapsed : String
  /-- The trace of a failure. -/
  trace : String

namespace Surroundings

/-- A process in the directory `/work` that may do everything, with the usual screen, devices that
work, and a standard input that takes every kind of line end. -/
def usual : Surroundings where
  current := .free ["work"]
  home := "/home"
  accounts := []
  scratch := ["/page.html"]
  writeFault := fun _ => none
  browserFault := none
  input := ⟨true, false⟩
  nesting := 970
  screen := .usual
  time := "now"
  elapsed := "0.000"
  trace := ""

end Surroundings

end OrderOfGrowth
