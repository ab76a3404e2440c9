import TreePlan.Engine

/-!
# Transforms that end

A transform without a directory handler that stops after one pass always ends: its deepest command
is the write that the content of a discovered file leads to, four levels down. `Engine.complete`
runs such a transform to its end.
-/

namespace TreePlan

/-- A sequence of things that end ends. -/
theorem inSequence_isSome {ω α : Type} {act : α → Overlay ω → Ending ω} {l : List α}
    (h : ∀ a ∈ l, ∀ o, (act a o).isSome) (o : Overlay ω) : (inSequence act l o).isSome := by
  induction l generalizing o with
  | nil => rfl
  | cons a rest ih =>
    have ha := h a List.mem_cons_self o
    rw [inSequence]
    split
    · exact ih (fun b hb => h b (List.mem_cons_of_mem a hb)) _
    · exact ha

/-- Going on after an end with something that ends ends. -/
theorem Ending.andThen_isSome {ω : Type} {ending : Ending ω} {next : Overlay ω → Ending ω}
    (h : ending.isSome) (hn : ∀ o, (next o).isSome) : (ending.andThen next).isSome := by
  unfold Ending.andThen
  split
  · exact hn _
  · exact h

namespace Engine

variable {ω σ : Type} (e : Engine ω σ) (state : Option σ)

/-- A command of a handler of contents ends at once. -/
theorem dispatch_data_isSome (d : Nat) (c : DataCommand) (o : Overlay ω) :
    (e.dispatch state (d + 1) c.widen o).isSome := by
  cases c <;> rfl

/-- A command of a file handler ends. -/
theorem dispatch_file_isSome (d : Nat) (c : FileCommand) (o : Overlay ω) :
    (e.dispatch state (d + 2) c.widen o).isSome := by
  cases c with
  | delete path => rfl
  | materialize path options =>
    simp only [FileCommand.widen, dispatch, Engine.materialize]
    split
    · rfl
    · split
      · rfl
      · exact Ending.andThen_isSome (e.dispatch_data_isSome state d _ _) fun _ => rfl

/-- The traversal of a file ends. -/
theorem dispatch_traverseFile_isSome (d : Nat) (path : Path) (options : Options) (o : Overlay ω) :
    (e.dispatch state (d + 3) (.traverseFile path options) o).isSome := by
  simp only [dispatch, Engine.traverseFile]
  split
  · rfl
  · split
    · rfl
    · refine Ending.andThen_isSome (inSequence_isSome (fun a ha o => ?_) _) fun _ => rfl
      obtain ⟨c, _, rfl⟩ := List.mem_map.mp ha
      exact e.dispatch_file_isSome state d c o

/-- The traversal of a directory ends if its handler does not run. -/
theorem dispatch_traverseDirectory_isSome (he : e.transform.handlesDirectories = false) (d : Nat)
    (path : Path) (options : Options) (o : Overlay ω) :
    (e.dispatch state (d + 4) (.traverseDirectory path options) o).isSome := by
  have hrun (o : Overlay ω) :
      (e.runDirectoryHandler (e.dispatch state (d + 3)) state path options o).isSome := by
    unfold runDirectoryHandler
    split
    · rfl
    · rw [he]
      rfl
  rw [dispatch]
  unfold Engine.traverseDirectory
  split
  · exact hrun o
  · split
    · rfl
    · refine Ending.andThen_isSome (Ending.andThen_isSome
        (inSequence_isSome (fun a ha o => ?_) _) fun _ => rfl) hrun
      obtain ⟨f, _, rfl⟩ := List.mem_map.mp ha
      exact e.dispatch_traverseFile_isSome state d f options o

/-- The transform has no directory handler and stops after one pass. -/
structure IsBounded : Prop where
  /-- The directory handler does not run. -/
  handlesFilesOnly : e.transform.handlesDirectories = false
  /-- Every decision is to stop. -/
  stops : ∀ options state o,
    ((e.transform.handleFinish options state).run e.backing o).1 = .ok .stop

/-- A bounded transform ends within one pass and four levels of commands. -/
theorem execute_isSome (h : e.IsBounded) (root : Path) (options : Options) (o : Overlay ω) :
    (e.execute 4 1 root options none o).isSome := by
  rw [execute, executeFrom]
  split
  · rfl
  · rename_i entry o' _
    split
    · rfl
    · rename_i state o'' _
      have hd (o : Overlay ω) :
          (e.dispatch state 4 (rootCommand root options entry.kind) o).isSome := by
        cases entry.kind with
        | directory => exact e.dispatch_traverseDirectory_isSome state h.handlesFilesOnly 0 _ _ _
        | file => exact e.dispatch_traverseFile_isSome state 1 _ _ _
      split
      · rename_i hn
        have := hd (o''.log e.backing (.passStarted 1 root))
        rw [hn] at this
        exact this
      · rfl
      · rename_i o₃ _
        have hf := h.stops options state o₃
        split
        · rfl
        · rename_i he
          rw [he] at hf
          cases hf
        · rfl

/-- Runs a bounded transform over a root to its end. -/
def complete (h : e.IsBounded) (root : Path) (options : Options) (o : Overlay ω) :
    Except RunError Plan × Overlay ω :=
  (e.execute 4 1 root options none o).get (e.execute_isSome h root options o)

end Engine

end TreePlan
