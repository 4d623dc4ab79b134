import InsertScript.Content
import InsertScript.Export.Flow
import InsertScript.Monitor
import InsertScript.Step

/-!
# Where an export writes to

A sink is what an export leaves behind and listens to: the text written so far, the large objects
that were released, and the monitor if there is one. Text is only ever added at the end.

A file gets the text in portions (`Flow`), so someone who reads the file meanwhile sees a beginning
of the text.
-/

namespace InsertScript

/-- The visible side of an export. -/
structure Sink where
  output : String := ""
  /-- How far the text would have come on its way into a file. -/
  flow : Flow := {}
  releases : Releases := []
  monitor? : Option Monitor := none
deriving DecidableEq, Repr

namespace Sink

/-- A sink with more text. -/
def add : Sink → String → Sink
  | { output, flow, releases, monitor? }, text =>
      { output := output ++ text, flow := flow.write text.utf8ByteSize, releases, monitor? }

def write (text : String) : Step Sink Unit := Step.change (·.add text)

/-- Writes texts one after the other. -/
def writeAll : List String → Step Sink Unit
  | [] => pure ()
  | text :: rest => do
      write text
      writeAll rest

/-- The bytes that have been stored since `known` of them were. -/
def storedSince (s : Sink) (known : Nat) : Bytes :=
  (s.output.toUTF8.extract known s.flow.stored).toList

/-- The files when the text goes into one of them and has come as far as it has. -/
def storeInto (s : Sink) (target : Nat) (files : FileSystem) : FileSystem :=
  files.setContent target (files.content target ++ s.storedSince 0)

/-- A reader of the file that the text goes into, who knows of `known` bytes of the text, as the
file is now. -/
def extendReader (s : Sink) (known : Nat) (reader : TextReader) : TextReader :=
  if known < s.flow.stored then reader.extend (s.storedSince known) else reader

/-- Releases a large object. -/
def release (c : Content) : Step Sink Unit :=
  Step.change fun s => { s with releases := c.identity :: s.releases }

/-- Asks the monitor whether the work should stop; without a monitor it should not. -/
def enquire : Step Sink Bool := fun s =>
  match s.state.monitor? with
  | none => .ok false s
  | some m => .ok m.enquire.1 { s with state := { s.state with monitor? := some m.enquire.2 } }

def changeMonitor (f : Monitor → Monitor) : Step Sink Unit :=
  Step.change fun s => { s with monitor? := s.monitor?.map f }

end Sink

end InsertScript
