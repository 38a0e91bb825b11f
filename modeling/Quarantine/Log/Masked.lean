import Quarantine.Digest.Sha2

/-!
# Values in logs

A value that tripped a rule is likely to be personal, so a log shows its length and a short
digest in its place.  Lengths up to eight bytes are not told.

    loggable s = mask s · " #" · the first six bytes of the SHA-256 digest of s
-/

namespace Quarantine.Log

/-- The longest text whose length is not told. -/
def shortLength : Nat := 8

/-- What stands for a value: a hint of its length. -/
def mask (s : String) : String :=
  if s.utf8ByteSize ≤ shortLength then "[REDACTED]"
  else "[REDACTED: " ++ toString s.utf8ByteSize ++ " chars]"

/-- A short digest, by which log lines about one value can be told to belong together. -/
def fingerprint (s : String) : String :=
  Digest.hexBytes ((Digest.sha256 s.toUTF8.toList).take 6)

/-- The form of a value that may be logged. -/
def loggable (s : String) : String := mask s ++ " #" ++ fingerprint s

end Quarantine.Log
