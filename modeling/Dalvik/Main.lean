import Dalvik.Command

/-!
The command line: `exec` runs the listing in a file, `inspect` shows what it declares.
-/

namespace Dalvik.Command

/-- What the command line asks for. -/
inductive Request where
  | execute (file : String) (parameters : Option String)
  | inspect (file : String) (blocks methods : Bool)

def executeRequest (file parameters : Option String) : List String → Option Request
  | [] => file.map (.execute · parameters)
  | "-i" :: name :: rest => executeRequest (some name) parameters rest
  | "-m" :: _ :: rest => executeRequest file parameters rest
  | "-p" :: text :: rest => executeRequest file (some text) rest
  | _ => none

def inspectRequest (file : Option String) (blocks methods : Bool) : List String → Option Request
  | [] => file.map (.inspect · blocks methods)
  | "-i" :: name :: rest => inspectRequest (some name) blocks methods rest
  | "-e" :: rest => inspectRequest file true methods rest
  | "-m" :: rest => inspectRequest file blocks true rest
  | _ => none

def request? : List String → Option Request
  | "exec" :: rest => executeRequest none none rest
  | "inspect" :: rest => inspectRequest none false false rest
  | _ => none

def usage : String :=
  "Usage:\n" ++
  "    dalvik exec -i FILE -m METHOD [-p PARAMETERS]\n" ++
  "    dalvik inspect -i FILE [-e] [-m]"

/-- Prints what a command wrote; a fault that was let out is shown and makes the command fail. -/
def finish : Emulator × Ending Unit → IO UInt32
  | (emulator, ending) => do
    IO.print emulator.output
    match ending with
    | .raised cause =>
      IO.eprintln (cause.kind.name ++ ": " ++ cause.message)
      return 1
    | _ => return 0

end Dalvik.Command

def main (arguments : List String) : IO UInt32 := do
  match Dalvik.Command.request? arguments with
  | some (.execute file parameters) =>
    let content ← IO.FS.readFile file
    Dalvik.Command.finish (Dalvik.Command.execute content parameters)
  | some (.inspect file blocks methods) =>
    let content ← IO.FS.readFile file
    Dalvik.Command.finish (Dalvik.Command.inspect content blocks methods)
  | none =>
    IO.println Dalvik.Command.usage
    return 1
