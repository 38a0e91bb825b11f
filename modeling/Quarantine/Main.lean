import Quarantine.CommandLine.Program
import Std.Time.DateTime.Timestamp

/-!
# The program on a real system

Carries out operations on the file system, the clock and the source of random bytes, and runs
the program on the arguments and the environment of the process.
-/

namespace Quarantine.System

/-! ## Errors -/

def errorOfCode (code : UInt32) (text : String) : SystemError :=
  match code.toNat with
  | 2 => .notFound
  | 13 => .denied
  | 17 => .alreadyExists
  | 20 => .notDirectory
  | 21 => .isDirectory
  | 36 => .nameTooLong
  | 39 => .notEmpty
  | n => .other n text

def systemError : IO.Error → SystemError
  | .noFileOrDirectory _ code text => errorOfCode code text
  | .alreadyExists _ code text => errorOfCode code text
  | .permissionDenied _ code text => errorOfCode code text
  | .inappropriateType _ code text => errorOfCode code text
  | .invalidArgument _ code text => errorOfCode code text
  | .resourceExhausted _ code text => errorOfCode code text
  | .noSuchThing _ code text => errorOfCode code text
  | .interrupted _ code text => errorOfCode code text
  | .otherError code text => errorOfCode code text
  | .resourceBusy code text => errorOfCode code text
  | .resourceVanished code text => errorOfCode code text
  | .unsupportedOperation code text => errorOfCode code text
  | .hardwareFault code text => errorOfCode code text
  | .unsatisfiedConstraints code text => errorOfCode code text
  | .illegalOperation code text => errorOfCode code text
  | .protocolError code text => errorOfCode code text
  | .timeExpired code text => errorOfCode code text
  | .unexpectedEof => .other 0 "unexpected end of file"
  | .userError text => .other 0 text

/-! ## Operations -/

def kindOf (t : IO.FS.FileType) : Kind := if t == .dir then .directory else .file

def hexDigits (b : UInt8) : List Char :=
  [Nat.digitChar (b.toNat / 16), Nat.digitChar (b.toNat % 16)]

/-- A random identifier, with the bits that mark it as such. -/
def newId : IO String := do
  let bytes := (← IO.getRandomBytes 16).toList
  let marked := bytes.zipIdx.map fun (b, i) =>
    if i = 6 then b &&& 0x0F ||| 0x40 else if i = 8 then b &&& 0x3F ||| 0x80 else b
  return String.ofList ((marked.zipIdx.map fun (b, i) =>
    (if [4, 6, 8, 10].contains i then ['-'] else []) ++ hexDigits b).flatten)

def now : IO Instant := do
  let nanos : Int := (← Std.Time.Timestamp.now).toNanosecondsSinceUnixEpoch.val
  return (Instant.of? (nanos / 1000000000) (nanos % 1000000000).toNat).getD .epoch

def carryOut : (op : Operation) → IO op.Reply
  | .inspect path => do return kindOf (← (← IO.FS.realPath path.text).metadata).type
  | .list path => do
    let entries ← (← IO.FS.realPath path.text).readDir
    let found ← entries.toList.mapM fun e => do
      return (e.fileName, kindOf (← e.path.metadata).type)
    return found.mergeSort fun a b => a.1 ≤ b.1
  | .read path => IO.FS.readBinFile path.text
  | .makeDirectory path => IO.FS.createDir path.text
  | .create path => IO.FS.writeBinFile path.text .empty
  | .append path content => do
    let h ← IO.FS.Handle.mk path.text .append
    h.write content
    h.flush
  | .rename source target => IO.FS.rename source.text target.text
  | .remove path => IO.FS.removeFile path.text
  | .now => now
  | .newId => newId

def perform {α : Type} : Action α → IO α
  | .done a => pure a
  | .perform op next => do
    let reply ← try pure (.ok (← carryOut op)) catch e => pure (.error (systemError e))
    perform (next reply)

/-! ## The environment -/

/-- A variable as it stands in the environment of a process. -/
def assignment? (bytes : List UInt8) : Option (String × String) := do
  let text ← String.fromUTF8? ⟨bytes.toArray⟩
  let name := text.toList.takeWhile (· ≠ '=')
  match text.toList.drop name.length with
  | _ :: value => some (String.ofList name, String.ofList value)
  | [] => none

/-- The environment of this process. -/
def environment : IO CommandLine.Variables := do
  let content ← IO.FS.readBinFile "/proc/self/environ"
  return ⟨(Text.split 0 content.toList).filterMap assignment?⟩

end Quarantine.System

open Quarantine in
def main (words : List String) : IO UInt32 := do
  let directory : Path := ⟨(← IO.currentDir).toString⟩
  let result ← System.perform
    (CommandLine.program (← System.environment) directory.ancestors words)
  IO.print result.output
  IO.eprint (result.errors (← (← IO.getStderr).isTty))
  return UInt32.ofNat result.code
