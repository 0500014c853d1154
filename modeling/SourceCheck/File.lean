import SourceCheck.Scan.Buffer
import SourceCheck.Text.Utf8

/-!
What a path stands for, and what can go wrong when text or a source is read from it.
-/

namespace SourceCheck

inductive FileEntry where
  | unavailable (reason : String)
  | directory
  | content (bytes : List UInt8)
  deriving DecidableEq, Repr

namespace FileEntry

def absent : FileEntry := .unavailable "No such file or directory (os error 2)"

def notUtf8 : String := "stream did not contain valid UTF-8"

def decodeText (bytes : List UInt8) : Except String String :=
  (Text.Utf8.decode bytes).mapError fun _ => notUtf8

def readText : FileEntry → Except String String
  | .unavailable reason => .error reason
  | .directory => .error "Is a directory (os error 21)"
  | .content bytes => decodeText bytes

end FileEntry

inductive SourceError where
  | unopened (file : String) (reason : String)
  | unmapped (file : String)
  | invalidUtf8 (file : String) (offset : Nat)
  deriving DecidableEq, Repr

def SourceError.message : SourceError → String
  | .unopened file reason => "unable to open " ++ file ++ ": " ++ reason
  | .unmapped file => "unable to map " ++ file ++ ": ENODEV: No such device"
  | .invalidUtf8 file offset =>
    file ++ " is not valid utf-8 (first bad byte at offset " ++ Text.showNat offset ++ ")"

namespace Source

/-- A directory can be opened but holds no source. -/
def ofFile (file : String) : FileEntry → Except SourceError Source
  | .unavailable reason => .error (.unopened file reason)
  | .directory => .error (.unmapped file)
  | .content bytes =>
    match Text.Utf8.decode bytes with
    | .ok text => .ok ⟨file, text⟩
    | .error offset => .error (.invalidUtf8 file offset)

end Source

end SourceCheck
