import ReleasePipeline.Session

/-!
# ReleasePipeline.Tools.Recorder

A runner that starts nothing. It keeps a record of every call and answers from two tables that are
set up beforehand: programs that fail with a fixed code, and programs with a stand-in that runs in
their place. A failing code comes before a stand-in, the last entry for a program counts, and a
program in neither table succeeds.
-/

namespace ReleasePipeline

/-- The answers that a recorder gives, by program; in each table the latest entry comes first. -/
structure Answers (α : Type) where
  standIns : List (String × α) := []
  failing : List (String × Int) := []

namespace Answers

/-- The answers with a stand-in for a program. -/
def on (answers : Answers α) (program : String) (standIn : α) : Answers α :=
  { answers with standIns := (program, standIn) :: answers.standIns }

/-- The answers with a program that fails with a code. -/
def fail (answers : Answers α) (program : String) (code : Int) : Answers α :=
  { answers with failing := (program, code) :: answers.failing }

end Answers

/-- What a recorder remembers: the calls so far, oldest first, and what its stand-ins remember. -/
structure Recorded (σ : Type) where
  calls : List ToolCall := []
  inner : σ

namespace Recorded

/-- The programs called so far. -/
def programs (recorded : Recorded σ) : List String :=
  recorded.calls.map (·.program)

end Recorded

namespace Answers

/-- Runs a stand-in on its own memory. -/
def runStandIn (standIn : Runner σ) (call : ToolCall) : EStateM Failure (Bench (Recorded σ)) Unit :=
  fun bench =>
    match standIn call { bench with memory := bench.memory.inner } with
    | .ok () after => .ok () { after with memory := { bench.memory with inner := after.memory } }
    | .error failure after =>
      .error failure { after with memory := { bench.memory with inner := after.memory } }

/-- Adds a call to the record. -/
def record (call : ToolCall) : EStateM Failure (Bench (Recorded σ)) Unit :=
  modify fun bench =>
    { bench with memory := { bench.memory with calls := bench.memory.calls ++ [call] } }

/-- The runner that records calls and gives these answers. -/
def runner (answers : Answers (Runner σ)) : Runner (Recorded σ) := fun call => do
  record call
  match answers.failing.lookup call.program with
  | some code => throw (.toolFailed call.program (some code))
  | none =>
    match answers.standIns.lookup call.program with
    | some standIn => runStandIn standIn call
    | none => pure ()

end Answers

end ReleasePipeline
