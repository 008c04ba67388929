/-! What a program leaves behind. -/

namespace CaseSynthesis

structure Outcome where
  exitCode : UInt8
  output : String := ""
  errorOutput : String := ""
  deriving DecidableEq, Repr

end CaseSynthesis
