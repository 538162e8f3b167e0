import Orchestration.Text.Quoted
import Orchestration.Timestamp

/-!
# Identifiers of test environments

An identifier is `test-<stage>-<date>-<suffix>`: the date has eight digits, the suffix is 32
random bits in hexadecimal.

* `suffixText` — random bits as eight digits;
* `testId` — the identifier;
* `suffixText_length` — the width of the suffix, which keeps identifiers apart.
-/

namespace Orchestration

/-- Random bits as eight hexadecimal digits. -/
def suffixText (bits : UInt32) : String := String.ofList (hexPadded 8 bits.toNat)

theorem suffixText_length (bits : UInt32) : (suffixText bits).toList.length = 8 := by
  simp [suffixText]

/-- The identifier of an environment made for a stage at a moment. -/
def testId (stage : String) (now : Timestamp) (bits : UInt32) : String :=
  "test-" ++ stage ++ "-" ++ now.compactDate ++ "-" ++ suffixText bits

end Orchestration
