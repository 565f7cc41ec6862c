import FramedSerial.Proofs.Deadline

/-!
# How a command ends

A command says what to print and how it means to end, and it ends so unless it
cannot print. Only a text has to go out; a command that prints bytes and nothing
else ends as it means to even where standard output is closed.
-/

namespace FramedSerial

namespace Conclusion

/-- The end that a command means to come to. -/
def ofEnding : Except Failure ExitCode → Conclusion
  | .ok code => .exited code
  | .error cause => .failed cause

/-- The exit code of a program that ends by itself. -/
def code? : Conclusion → Option ExitCode
  | .exited code => some code
  | .failed cause => some cause.code
  | _ => none

end Conclusion

theorem Output.printAll_bytes (fault : Option IoError) (blocks : List Bytes) :
    ∃ printed, printAll fault (blocks.map .bytes) = .ok printed := by
  induction blocks with
  | nil => exact ⟨[], rfl⟩
  | cons b blocks ih =>
      obtain ⟨printed, hprinted⟩ := ih
      rw [List.map_cons, printAll, hprinted]
      cases fault <;> exact ⟨_, rfl⟩

namespace Surroundings

variable {s : Surroundings} {speed : Option Speed} {transport : Transport}
  {outputs : List Output} {ending : Except Failure ExitCode}

theorem finish_of_printed {printed : Bytes}
    (h : Output.printAll s.outputFault outputs = .ok printed) :
    s.finish speed transport outputs ending = ⟨printed, .ofEnding ending, speed, transport⟩ := by
  rw [finish, h]
  cases ending <;> rfl

theorem finish_of_unprinted {cause : Crash}
    (h : Output.printAll s.outputFault outputs = .error cause) :
    s.finish speed transport outputs ending = ⟨[], .crashed cause, speed, transport⟩ := by
  rw [finish, h]

theorem finish_of_no_fault (h : s.outputFault = none) :
    s.finish speed transport outputs ending =
      ⟨outputs.flatMap Output.content, .ofEnding ending, speed, transport⟩ := by
  refine finish_of_printed ?_
  rw [h, Output.printAll_none]

/-- Printing changes neither the line nor its speed. -/
theorem line_finish : (s.finish speed transport outputs ending).speed = speed ∧
    (s.finish speed transport outputs ending).transport = transport := by
  cases h : Output.printAll s.outputFault outputs with
  | error cause =>
      rw [finish_of_unprinted h]
      exact ⟨rfl, rfl⟩
  | ok printed =>
      rw [finish_of_printed h]
      exact ⟨rfl, rfl⟩

/-- A command that failed meant to. -/
theorem ending_of_failed {cause : Failure}
    (h : (s.finish speed transport outputs ending).conclusion = .failed cause) :
    ending = .error cause := by
  cases hprinted : Output.printAll s.outputFault outputs with
  | error crash =>
      rw [finish_of_unprinted hprinted] at h
      cases h
  | ok printed =>
      rw [finish_of_printed hprinted] at h
      cases ending with
      | error e =>
          cases h
          rfl
      | ok code => cases h

end Surroundings

end FramedSerial
