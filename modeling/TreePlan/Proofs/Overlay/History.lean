import TreePlan.Proofs.Overlay.Coherence

/-!
# Histories of an overlay

A history is any sequence of uses of an overlay, with changes of the world between them: nothing is
asked of the backing, so its answers may change from one question to the next. What is staged after
a history is what its stagings say, one after the other (`changes_after`), since all other uses only
learn. Together with coherence this determines the plan (`plan_after_new`).
-/

namespace TreePlan

/-- One use of an overlay, or a change of the world between two uses. -/
inductive Operation (ω : Type) where
  /-- Classify a path as a directory. -/
  | classifyDirectory (path : Path)
  /-- Classify a path as a file. -/
  | classifyFile (path : Path)
  /-- Classify a path as a directory or else as a file. -/
  | classify (path : Path)
  /-- List a directory. -/
  | list (directory : Path)
  /-- Read a file. -/
  | read (path : Path)
  /-- Discover files under a directory. -/
  | discover (directory : Path) (includes excludes : List String)
  /-- Stage new content for a path. -/
  | stageWrite (path : Path) (data : String)
  /-- Stage a path for deletion. -/
  | stageDelete (path : Path)
  /-- Ask for the key of a path. -/
  | key (path : Path)
  /-- Ask whether a path has been recorded as a directory. -/
  | isDirectory (path : Path)
  /-- Ask whether a path has been recorded. -/
  | isKnown (path : Path)
  /-- Draw the plan. -/
  | plan
  /-- Ask for the sizes of the stores. -/
  | sizes
  /-- Something else changes the world. -/
  | elapse (change : ω → ω)

namespace Operation

variable {ω : Type}

/-- What a use of an overlay is answered with. -/
def Answer : Operation ω → Type
  | classifyDirectory _ => Option Entry
  | classifyFile _ => Option Entry
  | classify _ => Option Entry
  | list _ => Except RunError (List Path)
  | read _ => Except RunError String
  | discover _ _ _ => Except RunError (List Path)
  | stageWrite _ _ => Unit
  | stageDelete _ => Unit
  | key _ => PathKey
  | isDirectory _ => Bool
  | isKnown _ => Bool
  | plan => Plan
  | sizes => Stores.Sizes
  | elapse _ => Unit

variable (b : Backing ω)

/-- The answer to a use of an overlay and the overlay after it. -/
def run : (operation : Operation ω) → Overlay ω → operation.Answer × Overlay ω
  | classifyDirectory path, o => o.classifyDirectory b path
  | classifyFile path, o => o.classifyFile b path
  | classify path, o => o.classify b path
  | list directory, o => o.list b directory
  | read path, o => o.read b path
  | discover directory includes excludes, o => o.discover b directory includes excludes
  | stageWrite path data, o => ((), o.stageWrite b path data)
  | stageDelete path, o => ((), o.stageDelete b path)
  | key path, o => (b.hash path, o)
  | isDirectory path, o => (o.isDirectory b path, o)
  | isKnown path, o => (o.isKnown b path, o)
  | plan, o => (o.plan, o)
  | sizes, o => (o.sizes, o)
  | elapse change, o => ((), { o with world := change o.world })

/-- The key that an operation stages an outcome for, with the outcome. -/
def staging? : Operation ω → Option (PathKey × Change)
  | stageWrite path data => some (b.hash path, .write data)
  | stageDelete path => some (b.hash path, .delete)
  | _ => none

/-- An operation that stages nothing only learns. -/
theorem run_learns {operation : Operation ω} (h : operation.staging? b = none) (o : Overlay ω) :
    Overlay.Learns b o (operation.run b o).2 := by
  cases operation with
  | classifyDirectory path => exact Overlay.classifyAs_learns .directory path o
  | classifyFile path => exact Overlay.classifyAs_learns .file path o
  | classify path => exact Overlay.classify_learns path o
  | list directory => exact Overlay.list_learns directory o
  | read path => exact Overlay.read_learns path o
  | discover directory includes excludes =>
    exact Overlay.discover_learns directory includes excludes o
  | stageWrite path data => exact nomatch h
  | stageDelete path => exact nomatch h
  | key | isDirectory | isKnown | plan | sizes => exact .refl
  | elapse change => exact Overlay.look_learns o _

/-- An operation that stages an outcome stages it for a path with that key, and does nothing
else. -/
theorem run_of_staging {operation : Operation ω} {staged : PathKey × Change}
    (h : operation.staging? b = some staged) (o : Overlay ω) :
    ∃ path, b.hash path = staged.1 ∧ (operation.run b o).2 = o.stageChange b path staged.2 := by
  cases operation with
  | stageWrite path data =>
    obtain rfl := Option.some.inj h
    exact ⟨path, rfl, rfl⟩
  | stageDelete path =>
    obtain rfl := Option.some.inj h
    exact ⟨path, rfl, rfl⟩
  | _ => exact nomatch h

end Operation

/-- The last outcome that is staged for a key. -/
def lastStaging? (staged : List (PathKey × Change)) (k : PathKey) : Option Change :=
  (staged.filter (·.1 = k)).getLast?.map (·.2)

namespace Overlay

variable {ω : Type} (b : Backing ω)

/-- The overlay after a history. -/
def after (history : List (Operation ω)) (o : Overlay ω) : Overlay ω :=
  history.foldl (fun o operation => (operation.run b o).2) o

/-- The keys that a history stages outcomes for, with the outcomes, oldest first. -/
def stagings (history : List (Operation ω)) : List (PathKey × Change) :=
  history.filterMap (·.staging? b)

variable {b}

/-- A use of an overlay keeps it coherent. -/
theorem Coherent.run {o : Overlay ω} (h : Coherent b o) (operation : Operation ω) :
    Coherent b (operation.run b o).2 := by
  cases hs : operation.staging? b with
  | none => exact h.learns (Operation.run_learns b hs o)
  | some staged =>
    obtain ⟨path, -, hrun⟩ := Operation.run_of_staging b hs o
    rw [hrun]
    exact h.stageChange path staged.2

/-- A history keeps an overlay coherent. -/
theorem Coherent.after {o : Overlay ω} (h : Coherent b o) (history : List (Operation ω)) :
    Coherent b (o.after b history) := by
  induction history generalizing o with
  | nil => exact h
  | cons operation rest ih => exact ih (h.run operation)

/-- What is staged after a use of an overlay. -/
theorem changes_run (operation : Operation ω) (o : Overlay ω) :
    (operation.run b o).2.stores.changes =
      (operation.staging? b).toList.foldl (fun s p => s.stage p.1 p.2) o.stores.changes := by
  cases hs : operation.staging? b with
  | none => exact (Operation.run_learns b hs o).changes_eq
  | some staged =>
    obtain ⟨path, hpath, hrun⟩ := Operation.run_of_staging b hs o
    rw [hrun, Option.toList_some, List.foldl_cons, List.foldl_nil, ← hpath]
    rfl

/-- What is staged after a history: its stagings, one after the other. -/
theorem changes_after (history : List (Operation ω)) (o : Overlay ω) :
    (o.after b history).stores.changes =
      (stagings b history).foldl (fun s p => s.stage p.1 p.2) o.stores.changes := by
  induction history generalizing o with
  | nil => rfl
  | cons operation rest ih =>
    have hsplit : stagings b (operation :: rest) =
        (operation.staging? b).toList ++ stagings b rest := by
      unfold stagings
      rw [List.filterMap_cons]
      cases operation.staging? b <;> rfl
    rw [hsplit, List.foldl_append, ← changes_run]
    exact ih _

/-- Staging outcomes one after the other is putting pairs one after the other. -/
theorem byKey_foldl_stage (staged : List (PathKey × Change)) (s : Changes) :
    (staged.foldl (fun s p => s.stage p.1 p.2) s).byKey =
      staged.foldl (fun m p => m.put p.1 p.2) s.byKey := by
  induction staged generalizing s with
  | nil => rfl
  | cons p rest ih => exact ih _

/-- The plan after a history of a new overlay has one step for each key that was ever staged, in the
order in which the keys were first staged. The path of a step has that key, and the step does what
was last staged for it. -/
theorem plan_after_new (b : Backing ω) (w : ω) (history : List (Operation ω)) :
    ((Overlay.new w).after b history).plan.map (fun step => b.hash step.path) =
        ((stagings b history).map (·.1)).eraseDups ∧
      (((Overlay.new w).after b history).plan.map (fun step => b.hash step.path)).Nodup ∧
      ∀ step ∈ ((Overlay.new w).after b history).plan,
        lastStaging? (stagings b history) (b.hash step.path) = some step.change := by
  have hcoherent : Coherent b ((Overlay.new w).after b history) := (coherent_new w).after history
  have hbyKey : ((Overlay.new w).after b history).stores.changes.byKey =
      (stagings b history).foldl (fun m p => m.put p.1 p.2) .empty := by
    rw [changes_after, byKey_foldl_stage]
    rfl
  -- A coherent overlay skips no staged key, so the plan is read off the stagings.
  refine ⟨?_, ?_, fun step hstep => ?_⟩
  · rw [hcoherent.plan_keys, hbyKey, OrderedMap.keys_foldl_put]
  · rw [hcoherent.plan_keys]
    exact ((Overlay.new w).after b history).stores.changes.byKey.nodup
  · have hlast := hcoherent.get?_of_mem_plan hstep
    rw [Changes.get?, hbyKey, OrderedMap.get?_foldl_put, OrderedMap.get?_empty,
      Option.or_none] at hlast
    exact hlast

end Overlay

end TreePlan
