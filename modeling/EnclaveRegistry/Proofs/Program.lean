import EnclaveRegistry.Program

/-! # Runs of programs

A program that goes on with another one runs as the two do one after the other. So a task in given
surroundings ends with a result and leaves a state of the surroundings, step by step.
-/
namespace EnclaveRegistry

variable {σ ε α β : Type}

theorem Program.run_bind (surroundings : Surroundings (StateM σ)) (program : Program α)
    (f : α → Program β) : (program.bind f).run surroundings =
      program.run surroundings >>= fun a => (f a).run surroundings := by
  induction program with
  | done result => rfl
  | read path next ih => simp only [bind, run, ih, bind_assoc]
  | write path content next ih => simp only [bind, run, ih, bind_assoc]
  | fetch address next ih => simp only [bind, run, ih, bind_assoc]

/-- What a task ends with in its surroundings, and the state that it leaves. -/
def Task.runIn (surroundings : Program.Surroundings (StateM σ)) (task : Task ε α) (state : σ) :
    Except ε α × σ := (Program.run surroundings task.run).run state

namespace Task

variable {surroundings : Program.Surroundings (StateM σ)} {state mid : σ}

theorem runIn_bind (task : Task ε α) (f : α → Task ε β) :
    (task >>= f).runIn surroundings state =
      (Program.run surroundings (ExceptT.bindCont f (task.runIn surroundings state).1)).run
        (task.runIn surroundings state).2 := by
  change (Program.run surroundings (task.run.bind (ExceptT.bindCont f))).run state = _
  rw [Program.run_bind]
  rfl

theorem runIn_bind_ok {task : Task ε α} {f : α → Task ε β} {a : α}
    (h : task.runIn surroundings state = (.ok a, mid)) :
    (task >>= f).runIn surroundings state = (f a).runIn surroundings mid := by
  rw [runIn_bind, h]
  rfl

theorem runIn_bind_error {task : Task ε α} {f : α → Task ε β} {error : ε}
    (h : task.runIn surroundings state = (.error error, mid)) :
    (task >>= f).runIn surroundings state = (.error error, mid) := by
  rw [runIn_bind, h]
  rfl

theorem runIn_lift {program : Program α} {a : α}
    (h : (program.run surroundings).run state = (a, mid)) :
    Task.runIn surroundings (ExceptT.lift program : Task ε α) state = (.ok a, mid) := by
  let result : α → Program (Except ε α) := fun a => .done (.ok a)
  change (Program.run surroundings (program.bind result)).run state = _
  rw [Program.run_bind]
  change (Except.ok ((program.run surroundings).run state).1,
    ((program.run surroundings).run state).2) = _
  rw [h]

theorem runIn_fetch {task : Task ε α} {address : String} {answer : Except Unreachable Reply}
    {next : Except Unreachable Reply → Except ε α}
    (htask : task.run = .fetch address fun answer => .done (next answer))
    (h : (surroundings.fetch address).run state = (answer, mid)) :
    task.runIn surroundings state = (next answer, mid) := by
  rw [runIn, htask]
  change (next ((surroundings.fetch address).run state).1,
    ((surroundings.fetch address).run state).2) = _
  rw [h]

theorem runIn_readFile {path : String} {refuse : FileError → ε}
    {answer : Except FileError Bytes} (h : (surroundings.read path).run state = (answer, mid)) :
    (readFile path refuse).runIn surroundings state = (answer.mapError refuse, mid) := by
  have hread : ((Program.read path .done).run surroundings).run state = (answer, mid) := h
  rw [readFile, runIn_bind_ok (runIn_lift hread)]
  cases answer <;> rfl

theorem runIn_writeFile {path : String} {content : Bytes} {refuse : FileError → ε}
    {answer : Except FileError Unit}
    (h : (surroundings.write path content).run state = (answer, mid)) :
    (writeFile path content refuse).runIn surroundings state = (answer.mapError refuse, mid) := by
  have hwrite : ((Program.write path content .done).run surroundings).run state =
      (answer, mid) := h
  rw [writeFile, runIn_bind_ok (runIn_lift hwrite)]
  cases answer <;> rfl

end Task

namespace Program.Surroundings

variable (surroundings : Surroundings (StateM σ))

/-- Whether reading a file in a state has an answer and leaves the state. -/
def Reads (path : String) (state : σ) (answer : Except FileError Bytes) : Prop :=
  (surroundings.read path).run state = (answer, state)

/-- Whether whatever is written to a file in a state is stored and read back. -/
def Keeps (path : String) (state : σ) : Prop :=
  ∀ content, ∃ after, (surroundings.write path content).run state = (.ok (), after) ∧
    surroundings.Reads path after (.ok content)

end Program.Surroundings
end EnclaveRegistry
