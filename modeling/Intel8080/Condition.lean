import Intel8080.Flags
import Intel8080.Register

/-! When a branch condition holds. The eight conditions are four condition codes and their
opposites. -/
namespace Intel8080.Condition

def holds (flags : Flags) : Condition → Bool
  | .nonzero => !flags.zero
  | .zero => flags.zero
  | .noCarry => !flags.carry
  | .carry => flags.carry
  | .parityOdd => !flags.parity
  | .parityEven => flags.parity
  | .plus => !flags.sign
  | .minus => flags.sign

end Intel8080.Condition
