import ReleasePipeline.Proofs.Stage.Runs
import ReleasePipeline.Stage.Pipeline

/-!
# ReleasePipeline.Proofs.Stage.Watched

Tool calls as they happen. A watched runner has another carry out each call and remembers a
`Sighting` of it: the call, the disk it was made on, the disk it left, and how it failed if it did.
So the memory of a watched run is the list of everything that the run asked of its tools, oldest
first, and a statement about all calls of a run is a statement about that list.

`CallsAlong` is the shape in which such statements are proved. It fixes a plan of calls beforehand
and asserts that a part of a stage follows it: all of it, with every call a success, if the part
ends with a value; and if it ends with a failure a beginning of it, where only the last call can
have failed, and then with that very failure. Plans of parts in sequence are appended.
-/

namespace ReleasePipeline

/-- A tool call as it happened. -/
structure Sighting where
  call : ToolCall
  before : Node
  after : Node
  failure : Option Failure

/-- The memory of a watched runner: the calls so far, oldest first, and the memory of the runner
that carries them out. -/
structure Watched (σ : Type) where
  seen : List Sighting
  inner : σ

/-- The runner that remembers every call and has another carry it out. -/
def Runner.watched (runner : Runner σ) : Runner (Watched σ) := fun call bench =>
  match runner call { bench with memory := bench.memory.inner } with
  | .ok () after =>
    .ok () { after with
      memory := ⟨bench.memory.seen ++ [⟨call, bench.disk, after.disk, none⟩], after.memory⟩ }
  | .error failure after =>
    .error failure { after with
      memory := ⟨bench.memory.seen ++ [⟨call, bench.disk, after.disk, some failure⟩],
        after.memory⟩ }

/-- The pipeline with its runner watched. -/
def Pipeline.watched (pipeline : Pipeline σ) : Pipeline (Watched σ) :=
  { job := pipeline.job
    host := pipeline.host
    searchPath := pipeline.searchPath
    runner := pipeline.runner.watched }

/-- The session with nothing seen yet. -/
def Session.watched (s : Session σ) : Session (Watched σ) :=
  ⟨s.workspace, ⟨s.bench.disk, s.bench.events, ⟨[], s.bench.memory⟩⟩⟩

/-! ### Following a plan -/

/-- Calls that are the whole of a plan, each of them a success. -/
structure Completes (plan : List ToolCall) (made : List Sighting) : Prop where
  calls_eq : made.map Sighting.call = plan
  succeeded : ∀ x ∈ made, x.failure = none

/-- Calls that are a beginning of a plan. All of them succeeded, or all but the last, which then
failed with the failure that is given. -/
structure StopsIn (plan : List ToolCall) (failure : Failure) (made : List Sighting) : Prop where
  calls_prefix : made.map Sighting.call <+: plan
  fails_last : ∃ done, (∀ x ∈ done, x.failure = none) ∧
    (made = done ∨ ∃ last, last.failure = some failure ∧ made = done ++ [last])

namespace Completes

theorem nil : Completes [] [] :=
  ⟨rfl, fun _ hx => absurd hx List.not_mem_nil⟩

theorem append {p q : List ToolCall} {xs ys : List Sighting} (hx : Completes p xs)
    (hy : Completes q ys) : Completes (p ++ q) (xs ++ ys) := by
  refine ⟨by rw [List.map_append, hx.calls_eq, hy.calls_eq], ?_⟩
  intro x hmem
  rcases List.mem_append.mp hmem with h | h
  · exact hx.succeeded x h
  · exact hy.succeeded x h

end Completes

namespace StopsIn

variable {p q : List ToolCall} {failure : Failure} {xs ys : List Sighting}

theorem nil : StopsIn p failure [] :=
  ⟨List.nil_prefix, [], fun _ hx => absurd hx List.not_mem_nil, .inl rfl⟩

theorem single {x : Sighting} (h : x.failure = some failure) : StopsIn [x.call] failure [x] :=
  ⟨List.prefix_rfl, [], fun _ hx => absurd hx List.not_mem_nil, .inr ⟨x, h, rfl⟩⟩

/-- A run that stops in the first part of a plan stops in the whole. -/
theorem append_right (h : StopsIn p failure xs) : StopsIn (p ++ q) failure xs :=
  ⟨h.calls_prefix.trans (List.prefix_append p q), h.fails_last⟩

/-- A run that completes the first part and stops in the second. -/
theorem append_left (hx : Completes p xs) (hy : StopsIn q failure ys) :
    StopsIn (p ++ q) failure (xs ++ ys) := by
  constructor
  · rw [List.map_append, hx.calls_eq]
    exact (List.prefix_append_right_inj p).mpr hy.calls_prefix
  · obtain ⟨done, hdone, hys⟩ := hy.fails_last
    refine ⟨xs ++ done, ?_, ?_⟩
    · intro x hmem
      rcases List.mem_append.mp hmem with h | h
      · exact hx.succeeded x h
      · exact hdone x h
    · rcases hys with rfl | ⟨last, hlast, rfl⟩
      · exact .inl rfl
      · exact .inr ⟨last, hlast, (List.append_assoc _ _ _).symm⟩

end StopsIn

namespace Stage

/-- A part of a stage follows a plan from a workspace, and its value satisfies a condition. -/
def CallsAlong (w : Workspace) (plan : List ToolCall) (stage : Stage (Watched σ) α)
    (value : α → Prop) : Prop :=
  ∀ past, Runs w (fun _ m => m.seen = past) stage
    (fun a _ m => value a ∧ ∃ made, Completes plan made ∧ m.seen = past ++ made)
    (fun failure _ m => ∃ made, StopsIn plan failure made ∧ m.seen = past ++ made)

namespace CallsAlong

variable {w : Workspace}

theorem bind {p q : List ToolCall} {x : Stage (Watched σ) α} {f : α → Stage (Watched σ) β}
    {known : α → Prop} {value : β → Prop} (hx : CallsAlong w p x known)
    (hf : ∀ a, known a → CallsAlong w q (f a) value) : CallsAlong w (p ++ q) (x >>= f) value := by
  intro past
  refine ((hx past).weaken (fun _ _ h => h) (fun _ _ _ h => h) ?_).bind ?_
  · intro failure d m h
    obtain ⟨made, hmade, hseen⟩ := h
    exact ⟨made, hmade.append_right, hseen⟩
  · intro a
    -- For the second part, what the first part called is in the past.
    refine .assuming fun hknown => .of_exists fun made => .assuming fun hmade => ?_
    refine (hf a hknown (past ++ made)).weaken (fun _ _ h => h) ?_ ?_
    · intro b d m h
      obtain ⟨hvalue, more, hmore, hseen⟩ := h
      exact ⟨hvalue, made ++ more, hmade.append hmore, by rw [hseen, List.append_assoc]⟩
    · intro failure d m h
      obtain ⟨more, hmore, hseen⟩ := h
      exact ⟨made ++ more, hmore.append_left hmade, by rw [hseen, List.append_assoc]⟩

/-- A part that leaves the runner's memory alone follows the empty plan. -/
theorem of_quiet {x : Stage (Watched σ) α} {value : α → Prop}
    (h : ∀ past, Runs w (fun _ m => m.seen = past) x (fun a _ m => value a ∧ m.seen = past)
      (fun _ _ m => m.seen = past)) : CallsAlong w [] x value := by
  intro past
  refine (h past).weaken (fun _ _ h => h) ?_ ?_
  · intro a d m h
    exact ⟨h.1, [], .nil, h.2.trans (List.append_nil past).symm⟩
  · intro failure d m h
    exact ⟨[], .nil, h.trans (List.append_nil past).symm⟩

theorem pure {a : α} {value : α → Prop} (h : value a) :
    CallsAlong w [] (Pure.pure a : Stage (Watched σ) α) value :=
  of_quiet fun _ => Runs.pure fun _ _ hseen => ⟨h, hseen⟩

/-- Stopping before any call is a way to follow every plan. -/
theorem throw {plan : List ToolCall} {failure : Failure} {value : α → Prop} :
    CallsAlong w plan (MonadExcept.throw failure : Stage (Watched σ) α) value :=
  fun past => Runs.throw fun _ _ h => ⟨[], .nil, h.trans (List.append_nil past).symm⟩

theorem throw_bind {plan : List ToolCall} {failure : Failure} {f : α → Stage (Watched σ) β}
    {value : β → Prop} :
    CallsAlong w plan ((MonadExcept.throw failure : Stage (Watched σ) α) >>= f) value :=
  fun past => Runs.throw fun _ _ h => ⟨[], .nil, h.trans (List.append_nil past).symm⟩

theorem report {event : Event} :
    CallsAlong w [] (Stage.report event : Stage (Watched σ) Unit) fun _ => True :=
  of_quiet fun _ => Runs.report.weaken (fun _ _ h => h) (fun _ _ _ h => ⟨trivial, h⟩) fun _ _ _ h => h

theorem disk : CallsAlong w [] (Stage.disk : Stage (Watched σ) Node) fun _ => True :=
  of_quiet fun _ => Runs.disk.weaken (fun _ _ h => h) (fun _ _ _ h => ⟨trivial, h.2⟩) fun _ _ _ h => h

theorem cwd : CallsAlong w [] (Stage.cwd : Stage (Watched σ) Path) (· = w.cwd) :=
  of_quiet fun _ => Runs.cwd

theorem path {p : Path} : CallsAlong w [] (Stage.path p : Stage (Watched σ) Path) (· = w.path p) :=
  of_quiet fun _ => Runs.path

theorem onDisk {op : DiskM α} :
    CallsAlong w [] (Stage.onDisk op : Stage (Watched σ) (Except Fault α)) fun _ => True :=
  of_quiet fun _ => Runs.onDisk fun d _ h => by cases op d <;> exact ⟨trivial, h⟩

theorem attempt {action : String} {p : EntryPath} {op : DiskM α} :
    CallsAlong w [] (Stage.attempt action p op : Stage (Watched σ) α) fun _ => True :=
  of_quiet fun _ => Runs.attempt fun d _ h => by
    cases op d with
    | ok a d' => exact ⟨trivial, h⟩
    | error fault d' => exact h

/-- A call is the whole plan of itself. -/
theorem call {runner : Runner σ} {c : ToolCall} :
    CallsAlong w [c] (Stage.call runner.watched c) fun _ => True := by
  intro past
  refine Runs.call ?_
  intro bench h
  unfold Runner.watched
  cases runner c { bench with memory := bench.memory.inner } with
  | ok u after =>
      refine ⟨trivial, [⟨c, bench.disk, after.disk, none⟩], ⟨rfl, ?_⟩, ?_⟩
      · intro x hx
        rw [List.mem_singleton.mp hx]
      · exact congrArg (· ++ _) h
  | error failure after =>
      let last : Sighting := ⟨c, bench.disk, after.disk, some failure⟩
      exact ⟨[last], StopsIn.single (x := last) rfl, congrArg (· ++ [last]) h⟩

/-- After a part that calls nothing, the rest has the whole plan to itself. -/
theorem quiet_bind {plan : List ToolCall} {x : Stage (Watched σ) α} {f : α → Stage (Watched σ) β}
    {known : α → Prop} {value : β → Prop} (hx : CallsAlong w [] x known)
    (hf : ∀ a, known a → CallsAlong w plan (f a) value) : CallsAlong w plan (x >>= f) value :=
  hx.bind hf

/-- Before a rest that calls nothing, a part has the whole plan to itself. -/
theorem bind_quiet {plan : List ToolCall} {x : Stage (Watched σ) α} {f : α → Stage (Watched σ) β}
    {known : α → Prop} {value : β → Prop} (hx : CallsAlong w plan x known)
    (hf : ∀ a, known a → CallsAlong w [] (f a) value) : CallsAlong w plan (x >>= f) value := by
  have h := hx.bind hf
  rwa [List.append_nil] at h

/-- After a call, the rest has the rest of the plan. -/
theorem call_bind {plan : List ToolCall} {runner : Runner σ} {c : ToolCall}
    {f : Unit → Stage (Watched σ) β} {value : β → Prop} (hf : CallsAlong w plan (f ()) value) :
    CallsAlong w (c :: plan) (Stage.call runner.watched c >>= f) value :=
  call.bind fun _ _ => hf

theorem within {plan : List ToolCall} {folder : Path} {body : Stage (Watched σ) α}
    {value : α → Prop} (h : CallsAlong (w.inside folder) plan body value) :
    CallsAlong w plan (Stage.within folder body) value := by
  intro past
  refine .within ?_ ((h past).weaken (fun _ _ h => h.2) (fun _ _ _ h => h)
    fun _ _ _ h => h)
  intro d m hseen _
  exact ⟨[], .nil, hseen.trans (List.append_nil past).symm⟩

theorem ite {plan : List ToolCall} {c : Prop} [Decidable c] {x y : Stage (Watched σ) α}
    {value : α → Prop} (hx : c → CallsAlong w plan x value) (hy : ¬c → CallsAlong w plan y value) :
    CallsAlong w plan (if c then x else y) value := by
  split
  · exact hx ‹_›
  · exact hy ‹_›

end CallsAlong

end Stage

end ReleasePipeline
