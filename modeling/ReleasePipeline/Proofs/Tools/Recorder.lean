import Mathlib.Data.List.Induction
import ReleasePipeline.Proofs.Release.Tools
import ReleasePipeline.Tools.Rehearsal

/-!
# ReleasePipeline.Proofs.Tools.Recorder

A recorder loses nothing and invents nothing. However it was set up and whatever is called, its
record is the list of the calls made, well or badly as they end, and each call ends the way that the
steps of setting up say (`replyTo`): with the last code for its program if there is one, else as the
last stand-in for its program ends, else well. The surroundings, which are all of the bench but the
record, are changed by exactly those stand-ins, in the order of their calls (`surroundings`). A
stand-in for a program with a code does nothing.

The surroundings may change between the calls too, because a stage works on the disk between them.
So what a recorder goes through is a list of moves, each a call or such a change.
-/

namespace ReleasePipeline

/-- How a call ends. -/
def Runner.ending (runner : Runner σ) (call : ToolCall) (bench : Bench σ) : Except Failure Unit :=
  match runner call bench with
  | .ok () _ => .ok ()
  | .error failure _ => .error failure

/-- The bench without the record, which is what stand-ins see. -/
def Bench.unrecorded (bench : Bench (Recorded σ)) : Bench σ :=
  ⟨bench.disk, bench.events, bench.memory.inner⟩

/-- The bench with a record. -/
def Bench.withRecord (bench : Bench σ) (calls : List ToolCall) : Bench (Recorded σ) :=
  ⟨bench.disk, bench.events, ⟨calls, bench.memory⟩⟩

@[simp] theorem Bench.unrecorded_withRecord (bench : Bench σ) (calls : List ToolCall) :
    (bench.withRecord calls).unrecorded = bench := rfl

@[simp] theorem Bench.calls_withRecord (bench : Bench σ) (calls : List ToolCall) :
    (bench.withRecord calls).memory.calls = calls := rfl

namespace Answers

/-! ### Setting up -/

/-- A step in setting up a recorder. -/
inductive Setup (α : Type) where
  | on (program : String) (standIn : α)
  | fail (program : String) (code : Int)

/-- The entry that a step makes in the table of codes. -/
def Setup.failing? : Setup α → Option (String × Int)
  | .on _ _ => none
  | .fail program code => some (program, code)

/-- The entry that a step makes in the table of stand-ins. -/
def Setup.standIn? : Setup α → Option (String × α)
  | .on program standIn => some (program, standIn)
  | .fail _ _ => none

/-- The answers after one more step. -/
def add (answers : Answers α) : Setup α → Answers α
  | .on program standIn => answers.on program standIn
  | .fail program code => answers.fail program code

/-- The answers of a recorder that is set up from new. -/
def ofSetups (setups : List (Setup α)) : Answers α :=
  setups.foldl add {}

/-- What an entry says, if it is for a program. -/
def valueFor? (program : String) (entry : String × β) : Option β :=
  if program == entry.1 then some entry.2 else none

/-- The codes set up for a program, oldest first. -/
def codesFor (program : String) (setups : List (Setup α)) : List Int :=
  setups.filterMap fun setup => setup.failing?.bind (valueFor? program)

/-- The stand-ins set up for a program, oldest first. -/
def standInsFor (program : String) (setups : List (Setup α)) : List α :=
  setups.filterMap fun setup => setup.standIn?.bind (valueFor? program)

theorem valueFor?_of_ne {program p : String} (h : program ≠ p) (x : β) :
    valueFor? program (p, x) = none := by
  rw [valueFor?, beq_false_of_ne h]
  rfl

/-- Each table holds the entries of the steps, the latest first. -/
theorem ofSetups_eq (setups : List (Setup α)) :
    ofSetups setups =
      ⟨(setups.filterMap Setup.standIn?).reverse, (setups.filterMap Setup.failing?).reverse⟩ := by
  induction setups using List.reverseRecOn with
  | nil => rfl
  | append_singleton setups setup ih =>
      rw [ofSetups, List.foldl_append, ← ofSetups, ih, List.filterMap_append, List.filterMap_append,
        List.reverse_append, List.reverse_append]
      cases setup <;> rfl

/-- What a table gives for a program if the latest entry comes first. -/
theorem lookup_reverse (program : String) (table : List (String × β)) :
    table.reverse.lookup program = (table.filterMap (valueFor? program)).getLast? := by
  rw [List.lookup_eq_findSome?, List.getLast?_filterMap]
  rfl

theorem lookup_failing (setups : List (Setup α)) (program : String) :
    (ofSetups setups).failing.lookup program = (codesFor program setups).getLast? := by
  rw [ofSetups_eq, lookup_reverse, List.filterMap_filterMap, codesFor]

theorem lookup_standIns (setups : List (Setup α)) (program : String) :
    (ofSetups setups).standIns.lookup program = (standInsFor program setups).getLast? := by
  rw [ofSetups_eq, lookup_reverse, List.filterMap_filterMap, standInsFor]

/-! ### One call -/

variable {setups : List (Setup (Runner σ))}

/-- How a call has to end. -/
def replyTo (setups : List (Setup (Runner σ))) (call : ToolCall) (bench : Bench σ) :
    Except Failure Unit :=
  match (codesFor call.program setups).getLast? with
  | some code => .error (.toolFailed call.program (some code))
  | none =>
    match (standInsFor call.program setups).getLast? with
    | some standIn => standIn.ending call bench
    | none => .ok ()

/-- What the stand-in that runs at a call does, if one does. -/
def standInRun? (setups : List (Setup (Runner σ))) (call : ToolCall) :
    Option (Bench σ → Bench σ) :=
  match (codesFor call.program setups).getLast? with
  | some _ => none
  | none => (standInsFor call.program setups).getLast?.map fun standIn => standIn.after call

/-- A stand-in leaves the record as it is. -/
theorem runStandIn_call (standIn : Runner σ) (call : ToolCall) (bench : Bench (Recorded σ)) :
    Runner.ending (runStandIn standIn) call bench = standIn.ending call bench.unrecorded ∧
      Runner.after (runStandIn standIn) call bench =
        (standIn.after call bench.unrecorded).withRecord bench.memory.calls := by
  unfold Runner.ending Runner.after runStandIn Bench.unrecorded
  cases standIn call ⟨bench.disk, bench.events, bench.memory.inner⟩ with
  | ok u after => exact ⟨rfl, rfl⟩
  | error failure after => exact ⟨rfl, rfl⟩

/-- A call is recorded, ends as it has to, and lets the stand-in run that has to. -/
theorem runner_call (setups : List (Setup (Runner σ))) (call : ToolCall)
    (bench : Bench (Recorded σ)) :
    (ofSetups setups).runner.ending call bench = replyTo setups call bench.unrecorded ∧
      (ofSetups setups).runner.after call bench =
        ((standInRun? setups call).getD id bench.unrecorded).withRecord
          (bench.memory.calls ++ [call]) := by
  have hrecorded : (ofSetups setups).runner call bench =
      (match (codesFor call.program setups).getLast? with
        | some code => throw (.toolFailed call.program (some code))
        | none =>
          match (standInsFor call.program setups).getLast? with
          | some standIn => runStandIn standIn call
          | none => pure () : EStateM Failure (Bench (Recorded σ)) Unit)
        (bench.unrecorded.withRecord (bench.memory.calls ++ [call])) := by
    rw [← lookup_failing, ← lookup_standIns]
    rfl
  unfold Runner.ending Runner.after replyTo standInRun?
  rw [hrecorded]
  cases (codesFor call.program setups).getLast? with
  | some code => exact ⟨rfl, rfl⟩
  | none =>
      cases (standInsFor call.program setups).getLast? with
      | none => exact ⟨rfl, rfl⟩
      | some standIn => exact runStandIn_call standIn call _

/-! ### All calls -/

/-- What happens to a recorder: a call, or a change of its surroundings that is not its own. -/
inductive Move (σ : Type) where
  | made (call : ToolCall)
  | elsewhere (change : Bench σ → Bench σ)

def Move.call? : Move σ → Option ToolCall
  | .made call => some call
  | .elsewhere _ => none

/-- The calls made. -/
def callsOf (moves : List (Move σ)) : List ToolCall :=
  moves.filterMap Move.call?

/-- What a move has to do to the surroundings, if it does something. -/
def Move.change? (setups : List (Setup (Runner σ))) : Move σ → Option (Bench σ → Bench σ)
  | .made call => standInRun? setups call
  | .elsewhere change => some change

/-- The surroundings after some moves: only changes from elsewhere and the stand-ins that have to
run make them what they are, in order. -/
def surroundings (setups : List (Setup (Runner σ))) (moves : List (Move σ)) (bench : Bench σ) :
    Bench σ :=
  (moves.filterMap (Move.change? setups)).foldl (fun bench change => change bench) bench

/-- Goes through moves, whatever comes of the calls, and gives their endings and the bench that is
left. -/
def play (runner : Runner (Recorded σ)) :
    List (Move σ) → Bench (Recorded σ) → List (Except Failure Unit) × Bench (Recorded σ)
  | [], bench => ([], bench)
  | .made call :: rest, bench =>
    let later := play runner rest (runner.after call bench)
    (runner.ending call bench :: later.1, later.2)
  | .elsewhere change :: rest, bench =>
    play runner rest ((change bench.unrecorded).withRecord bench.memory.calls)

theorem surroundings_cons (move : Move σ) (moves : List (Move σ)) (bench : Bench σ) :
    surroundings setups (move :: moves) bench =
      surroundings setups moves ((move.change? setups).getD id bench) := by
  unfold surroundings
  cases hchange : move.change? setups with
  | none => rw [List.filterMap_cons_none hchange]; rfl
  | some change => rw [List.filterMap_cons_some hchange]; rfl

theorem play_made (runner : Runner (Recorded σ)) (call : ToolCall) (moves : List (Move σ))
    (bench : Bench (Recorded σ)) :
    play runner (.made call :: moves) bench =
      (runner.ending call bench :: (play runner moves (runner.after call bench)).1,
        (play runner moves (runner.after call bench)).2) := rfl

/-- What a recorder is left with is the record with the calls made, and the surroundings as they
have to be. -/
theorem play_last (setups : List (Setup (Runner σ))) (moves : List (Move σ))
    (bench : Bench (Recorded σ)) :
    (play (ofSetups setups).runner moves bench).2 =
      (surroundings setups moves bench.unrecorded).withRecord
        (bench.memory.calls ++ callsOf moves) := by
  induction moves generalizing bench with
  | nil => rw [callsOf, List.filterMap_nil, List.append_nil]; rfl
  | cons move moves ih =>
      rw [surroundings_cons]
      cases move with
      | made call =>
          obtain ⟨-, hafter⟩ := runner_call setups call bench
          rw [play_made, ih, hafter, Bench.unrecorded_withRecord, Bench.calls_withRecord,
            List.append_assoc]
          rfl
      | elsewhere change => exact ih _

/-- One part of the moves after another. -/
theorem play_append (runner : Runner (Recorded σ)) (first second : List (Move σ))
    (bench : Bench (Recorded σ)) :
    play runner (first ++ second) bench =
      ((play runner first bench).1 ++ (play runner second (play runner first bench).2).1,
        (play runner second (play runner first bench).2).2) := by
  induction first generalizing bench with
  | nil => rfl
  | cons move first ih =>
      cases move with
      | made call => rw [List.cons_append, play, ih]; rfl
      | elsewhere change => exact ih _

theorem length_endings (runner : Runner (Recorded σ)) (moves : List (Move σ))
    (bench : Bench (Recorded σ)) :
    (play runner moves bench).1.length = (callsOf moves).length := by
  induction moves generalizing bench with
  | nil => rfl
  | cons move moves ih =>
      cases move with
      | made call => exact congrArg (· + 1) (ih _)
      | elsewhere change => exact ih _

/-- Each call ends as it has to in the surroundings that it finds. -/
theorem play_ending (setups : List (Setup (Runner σ))) (done : List (Move σ)) (call : ToolCall)
    (rest : List (Move σ)) (bench : Bench (Recorded σ)) :
    (play (ofSetups setups).runner (done ++ .made call :: rest) bench).1[(callsOf done).length]? =
      some (replyTo setups call (surroundings setups done bench.unrecorded)) := by
  have hlength := length_endings (ofSetups setups).runner done bench
  obtain ⟨hending, -⟩ := runner_call setups call (play (ofSetups setups).runner done bench).2
  rw [play_append, List.getElem?_append_right (Nat.le_of_eq hlength), hlength, Nat.sub_self,
    play_made, List.getElem?_cons_zero, hending, play_last, Bench.unrecorded_withRecord]

/-! ### Steps in another order -/

/-- Steps that give each program the same codes in the same order, and the same stand-ins in the
same order. Nothing is said of the order between codes and stand-ins or between programs. -/
structure Reorders (setups others : List (Setup α)) : Prop where
  codes_eq : ∀ program, codesFor program setups = codesFor program others
  standIns_eq : ∀ program, standInsFor program setups = standInsFor program others

/-- The program and the table that a step is for. -/
def Setup.slot : Setup α → String × Bool
  | .on program _ => (program, false)
  | .fail program _ => (program, true)

theorem code_of_other_slot {setup : Setup α} {program : String}
    (hslot : setup.slot ≠ (program, true)) : setup.failing?.bind (valueFor? program) = none := by
  cases setup with
  | on p standIn => rfl
  | fail p code =>
      have hprogram : program ≠ p := fun heq => hslot (by rw [heq, Setup.slot])
      exact valueFor?_of_ne hprogram code

theorem standIn_of_other_slot {setup : Setup α} {program : String}
    (hslot : setup.slot ≠ (program, false)) : setup.standIn?.bind (valueFor? program) = none := by
  cases setup with
  | on p standIn =>
      have hprogram : program ≠ p := fun heq => hslot (by rw [heq, Setup.slot])
      exact valueFor?_of_ne hprogram standIn
  | fail p code => rfl

theorem filterMap_swap {f : α → Option β} {a b : α} (h : f a = none ∨ f b = none)
    (before after : List α) :
    (before ++ a :: b :: after).filterMap f = (before ++ b :: a :: after).filterMap f := by
  rcases h with h | h
  · simp only [List.filterMap_append, List.filterMap_cons, h]
  · simp only [List.filterMap_append, List.filterMap_cons, h]

/-- Steps for different programs, or of different kinds, may change places. -/
theorem reorders_swap {a b : Setup α} (hslot : a.slot ≠ b.slot) (before after : List (Setup α)) :
    Reorders (before ++ a :: b :: after) (before ++ b :: a :: after) := by
  have hother : ∀ slot, a.slot ≠ slot ∨ b.slot ≠ slot := fun slot => by
    by_cases ha : a.slot = slot
    · exact .inr fun hb => hslot (ha.trans hb.symm)
    · exact .inl ha
  constructor
  · intro program
    have hcode := (hother (program, true)).imp code_of_other_slot code_of_other_slot
    exact filterMap_swap hcode before after
  · intro program
    have hstandIn := (hother (program, false)).imp standIn_of_other_slot standIn_of_other_slot
    exact filterMap_swap hstandIn before after

/-- A recorder does not tell such steps apart. -/
theorem runner_eq_of_reorders {others : List (Setup (Runner σ))} (h : Reorders setups others) :
    (ofSetups others).runner = (ofSetups setups).runner := by
  funext call
  unfold runner
  rw [lookup_failing, lookup_failing, lookup_standIns, lookup_standIns, h.codes_eq, h.standIns_eq]

/-! ### The whole record -/

/-- What there is to say of a recorder that went through some moves. -/
structure RecordsFaithfully (setups : List (Setup (Runner σ))) (moves : List (Move σ))
    (bench : Bench (Recorded σ)) : Prop where
  calls_eq : (play (ofSetups setups).runner moves bench).2.memory.calls =
    bench.memory.calls ++ callsOf moves
  programs_eq : (play (ofSetups setups).runner moves bench).2.memory.programs =
    bench.memory.programs ++ (callsOf moves).map (·.program)
  endings_length : (play (ofSetups setups).runner moves bench).1.length = (callsOf moves).length
  ending_eq : ∀ done call rest, moves = done ++ .made call :: rest →
    (play (ofSetups setups).runner moves bench).1[(callsOf done).length]? =
      some (replyTo setups call (surroundings setups done bench.unrecorded))
  surroundings_eq : (play (ofSetups setups).runner moves bench).2.unrecorded =
    surroundings setups moves bench.unrecorded
  reorders : ∀ others, Reorders setups others →
    play (ofSetups others).runner moves bench = play (ofSetups setups).runner moves bench

/-- **A recorder is faithful,** however it was set up and whatever happens to it. -/
theorem play_recordsFaithfully (setups : List (Setup (Runner σ))) (moves : List (Move σ))
    (bench : Bench (Recorded σ)) : RecordsFaithfully setups moves bench where
  calls_eq := by
    rw [play_last, Bench.calls_withRecord]
  programs_eq := by
    rw [Recorded.programs, play_last, Bench.calls_withRecord, List.map_append]
    rfl
  endings_length := length_endings (ofSetups setups).runner moves bench
  ending_eq := by
    rintro done call rest rfl
    exact play_ending setups done call rest bench
  surroundings_eq := by
    rw [play_last, Bench.unrecorded_withRecord]
  reorders := by
    intro others hreorders
    rw [runner_eq_of_reorders hreorders]

/-- Two codes for one program, of which the later counts, and a stand-in for it that never runs; two
stand-ins for another, of which the later runs. -/
theorem play_recordsFaithfully_of_replaced_steps :
    let setups : List (Setup (Runner (List String))) :=
      [.on "7z" (Rehearsal.noting "first" none), .fail "ninja" 2,
        .on "7z" (Rehearsal.noting "second" (some (some 3))),
        .on "ninja" (Rehearsal.noting "never" none), .fail "ninja" 5]
    let others : List (Setup (Runner (List String))) :=
      [.on "7z" (Rehearsal.noting "first" none), .fail "ninja" 2,
        .on "7z" (Rehearsal.noting "second" (some (some 3))), .fail "ninja" 5,
        .on "ninja" (Rehearsal.noting "never" none)]
    let moves : List (Move (List String)) :=
      [.made { program := "cmake", folder := ⟨"."⟩ }, .made { program := "ninja", folder := ⟨"."⟩ },
        .elsewhere fun bench => { bench with memory := bench.memory ++ ["meanwhile"] },
        .made { program := "7z", folder := ⟨"."⟩ }]
    let bench : Bench (Recorded (List String)) :=
      { disk := .folder [], events := [], memory := { inner := [] } }
    let played := play (ofSetups setups).runner moves bench
    RecordsFaithfully setups moves bench ∧
      play (ofSetups others).runner moves bench = played ∧
      played.2.memory.programs = ["cmake", "ninja", "7z"] ∧
      played.1 = [.ok (), .error (.toolFailed "ninja" (some 5)),
        .error (.toolFailed "second" (some 3))] ∧
      played.2.memory.inner = ["meanwhile", "second: 7z"] := by
  intro setups others moves bench played
  have hfaithful := play_recordsFaithfully setups moves bench
  refine ⟨hfaithful, hfaithful.reorders others ?_, ?_, rfl, ?_⟩
  · exact reorders_swap (by decide) (setups.take 3) []
  · decide
  · decide

end Answers

end ReleasePipeline
