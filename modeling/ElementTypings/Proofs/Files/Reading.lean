import ElementTypings.Project.Loading
import ElementTypings.Proofs.Files.Writing

/-!
# Programs that only read

A program that only reads a tree of files answers, and leaves the tree as it is (`Answers`). What it
answers on two trees is the same if it reads the same on both (`Agree`). Both are carried over a
chain of steps: the chain stops at the first failure, and otherwise goes on in the same tree.
-/

namespace ElementTypings

/-- The program answers without changing the tree. -/
def Answers {Failure Value : Type} (program : ExceptT Failure (StateM FileTree) Value)
    (tree : FileTree) (answer : Except Failure Value) : Prop :=
  program.run.run tree = (answer, tree)

/-- The program has one answer on both trees, and changes neither. -/
def Agree {Failure Value : Type} (program : ExceptT Failure (StateM FileTree) Value)
    (tree later : FileTree) : Prop :=
  ∃ answer, Answers program tree answer ∧ Answers program later answer

variable {Failure First Second : Type} {tree later : FileTree}

/-! ### Steps of programs -/

section Steps

variable {first : ExceptT Failure (StateM FileTree) First}
  {next : First → ExceptT Failure (StateM FileTree) Second}

/-- A chain goes on in the tree that its first step leaves, if that step succeeds. -/
theorem run_bind_of_ok {value : First} (ran : first.run.run tree = (.ok value, later)) :
    (first >>= next).run.run tree = (next value).run.run later := by
  rw [ExceptT.run_bind, FileTree.run_bind_eq ran]

/-- It ends with its first step, if that step fails. -/
theorem run_bind_of_error {failure : Failure} (ran : first.run.run tree = (.error failure, later)) :
    (first >>= next).run.run tree = (.error failure, later) := by
  rw [ExceptT.run_bind, FileTree.run_bind_eq ran]
  rfl

theorem run_adapt {Other : Type} {rename : Failure → Other} {answer : Except Failure First}
    (ran : first.run.run tree = (answer, later)) :
    (ExceptT.adapt rename first).run.run tree = (answer.mapError rename, later) := by
  rw [ExceptT.run_adapt, StateT.run_map, ran]
  rfl

end Steps

namespace Answers

variable {first : ExceptT Failure (StateM FileTree) First}
  {next : First → ExceptT Failure (StateM FileTree) Second}

/-- A program has one answer on a tree. -/
theorem unique {answer other : Except Failure First} (this : Answers first tree answer)
    (that : Answers first tree other) : answer = other :=
  congrArg Prod.fst (this.symm.trans that)

/-- Behind a step that answers with a value, the chain goes on in the same tree. -/
theorem bind_of_ok {value : First} (answers : Answers first tree (.ok value)) :
    (first >>= next).run.run tree = (next value).run.run tree :=
  run_bind_of_ok answers

/-- A step that answers with a failure is the answer of the chain. -/
theorem bind_of_error {failure : Failure} (answers : Answers first tree (.error failure)) :
    Answers (first >>= next) tree (.error failure) :=
  run_bind_of_error answers

theorem of_pure {value result : First}
    (ended : Answers (pure value : ExceptT Failure (StateM FileTree) First) tree (.ok result)) :
    value = result :=
  Except.ok.inj (congrArg Prod.fst ended)

/-- A chain that succeeds went through a first step that succeeded. -/
theorem of_bind {answer : Except Failure First} (answers : Answers first tree answer)
    {result : Second} (chain : Answers (first >>= next) tree (.ok result)) :
    ∃ value, Answers first tree (.ok value) ∧ Answers (next value) tree (.ok result) := by
  cases answer with
  | error failure => cases (bind_of_error answers).unique chain
  | ok value => exact ⟨value, answers, answers.bind_of_ok.symm.trans chain⟩

/-- A step that cannot fail answers with what it gives. -/
theorem lift {program : StateM FileTree First} {value : First}
    (ran : program.run tree = (value, tree)) :
    Answers (liftM program : ExceptT Failure (StateM FileTree) First) tree (.ok value) := by
  unfold Answers
  change (program >>= fun value => Pure.pure (Except.ok value)).run tree = _
  rw [FileTree.run_bind_eq ran]
  rfl

/-- A failure is answered under its new name. -/
theorem adapt {Other : Type} {rename : Failure → Other} {answer : Except Failure First}
    (answers : Answers first tree answer) :
    Answers (ExceptT.adapt rename first) tree (answer.mapError rename) :=
  run_adapt answers

end Answers

namespace Agree

variable {first : ExceptT Failure (StateM FileTree) First}
  {next : First → ExceptT Failure (StateM FileTree) Second}

/-- A program agrees if what it answers on one tree it answers on the other. -/
theorem answers {answer : Except Failure First} (agree : Agree first tree later)
    (here : Answers first tree answer) : Answers first later answer := by
  obtain ⟨common, first, second⟩ := agree
  rw [here.unique first]
  exact second

/-- What is settled beforehand is answered on every tree. -/
theorem settled (outcome : Except Failure First) :
    Agree (ElementTypings.settled outcome) tree later :=
  ⟨outcome, rfl, rfl⟩

/-- A step that gives the same on both trees agrees. -/
theorem lift {program : StateM FileTree First} {value : First}
    (here : program.run tree = (value, tree)) (there : program.run later = (value, later)) :
    Agree (liftM program : ExceptT Failure (StateM FileTree) First) tree later :=
  ⟨.ok value, Answers.lift here, Answers.lift there⟩

/-- A chain agrees if its first step does, and the next one where it is reached. -/
theorem bind (agree : Agree first tree later)
    (step : ∀ value, Answers first tree (.ok value) → Agree (next value) tree later) :
    Agree (first >>= next) tree later := by
  obtain ⟨answer, here, there⟩ := agree
  cases answer with
  | error failure => exact ⟨.error failure, here.bind_of_error, there.bind_of_error⟩
  | ok value =>
      obtain ⟨answer, first, second⟩ := step value here
      exact ⟨answer, here.bind_of_ok.trans first, there.bind_of_ok.trans second⟩

/-- Renaming failures keeps the agreement. -/
theorem adapt {Other : Type} {rename : Failure → Other} (agree : Agree first tree later) :
    Agree (ExceptT.adapt rename first) tree later := by
  obtain ⟨answer, here, there⟩ := agree
  exact ⟨answer.mapError rename, here.adapt, there.adapt⟩

/-- A chain that succeeds went through a first step that succeeded, if that step only reads. -/
theorem of_bind (reads : Agree first tree tree) {result : Second}
    (chain : Answers (first >>= next) tree (.ok result)) :
    ∃ value, Answers first tree (.ok value) ∧ Answers (next value) tree (.ok result) := by
  obtain ⟨_, here, -⟩ := reads
  exact here.of_bind chain

/-- What succeeds under other names for its failures succeeds. -/
theorem of_adapt {Other : Type} {rename : Failure → Other} (agree : Agree first tree tree)
    {value : First} (succeeds : Answers (ExceptT.adapt rename first) tree (.ok value)) :
    Answers first tree (.ok value) := by
  obtain ⟨answer, here, -⟩ := agree
  have adapted := here.adapt.unique succeeds
  cases answer with
  | error failure => cases adapted
  | ok found =>
      cases adapted
      exact here

end Agree

end ElementTypings
