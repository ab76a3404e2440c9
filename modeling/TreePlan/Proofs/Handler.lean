import TreePlan.Transform

/-!
# Running handlers

What running a program does is read off its parts: one program after the other runs as the first and
then the second (`Program.run_bind`), and a handler that fails leaves out what comes after
(`FileProgram.run_bind`, `DirectoryProgram.run_bind`). The default handler of directories lists the
directory and orders one traversal for each child, by the kind recorded for it
(`run_traverseChildren`).
-/

namespace TreePlan

namespace Program

variable {ω Q α β γ : Type} {A : Q → Type}

/-- A program that ends with its result is the program. -/
theorem bind_done (p : Program ω Q A α) : p.bind done = p := by
  induction p with
  | done result => rfl
  | note text next ih => exact congrArg (note text) ih
  | look next ih => exact congrArg look (funext ih)
  | touch change next ih => exact congrArg (touch change) ih
  | ask question next ih => exact congrArg (ask question) (funext ih)

/-- It does not matter which two of three programs are put together first. -/
theorem bind_assoc (p : Program ω Q A α) (f : α → Program ω Q A β) (g : β → Program ω Q A γ) :
    (p.bind f).bind g = p.bind fun a => (f a).bind g := by
  induction p with
  | done result => rfl
  | note text next ih => exact congrArg (note text) ih
  | look next ih => exact congrArg look (funext ih)
  | touch change next ih => exact congrArg (touch change) ih
  | ask question next ih => exact congrArg (ask question) (funext ih)

instance : LawfulMonad (Program ω Q A) :=
  .mk' _ bind_done (fun _ _ => rfl) bind_assoc

end Program

variable {ω α β : Type} (b : Backing ω)

/-- One program after the other runs as the first and then the second. -/
theorem Program.run_bind {Q : Type} {A : Q → Type}
    (answer : (q : Q) → Overlay ω → A q × Overlay ω) (p : Program ω Q A α)
    (f : α → Program ω Q A β) (o : Overlay ω) :
    (p.bind f).run b answer o =
      (f (p.run b answer o).1).run b answer (p.run b answer o).2 := by
  induction p generalizing o with
  | done result => rfl
  | note text next ih => exact ih _
  | look next ih => exact ih _ _
  | touch change next ih => exact ih _
  | ask question next ih => exact ih _ _

/-- A file handler goes on with the result of its first part, or fails as that does. -/
theorem FileProgram.run_bind (p : FileProgram ω α) (f : α → FileProgram ω β) (o : Overlay ω) :
    FileProgram.run b (p >>= f) o =
      match p.run b o with
      | (.ok a, o) => (f a).run b o
      | (.error failure, o) => (.error failure, o) := by
  have hbind := Program.run_bind b (FileQuery.answer b) (ExceptT.run p) (ExceptT.bindCont f) o
  refine hbind.trans ?_
  unfold FileProgram.run
  obtain ⟨result, o₁⟩ := Program.run b (FileQuery.answer b) (ExceptT.run p) o
  cases result <;> rfl

/-- A directory handler goes on with the result of its first part, or fails as that does. -/
theorem DirectoryProgram.run_bind (p : DirectoryProgram ω α) (f : α → DirectoryProgram ω β)
    (o : Overlay ω) :
    DirectoryProgram.run b (p >>= f) o =
      match p.run b o with
      | (.ok a, o) => (f a).run b o
      | (.error failure, o) => (.error failure, o) := by
  have hbind := Program.run_bind b (DirectoryQuery.answer b) (ExceptT.run p) (ExceptT.bindCont f) o
  refine hbind.trans ?_
  unfold DirectoryProgram.run
  obtain ⟨result, o₁⟩ := Program.run b (DirectoryQuery.answer b) (ExceptT.run p) o
  cases result <;> rfl

/-- Classifying in a file handler is classifying. -/
theorem FileProgram.run_classify (path : Path) (o : Overlay ω) :
    (FileProgram.classify path).run b o = (.ok (o.classify b path).1, (o.classify b path).2) := rfl

/-- Reading in a file handler is reading, and a path that cannot be read is a failure with the text
of the error. -/
theorem FileProgram.run_read (path : Path) (o : Overlay ω) :
    (FileProgram.read path).run b o =
      match o.read b path with
      | (.ok content, o) => (.ok content, o)
      | (.error error, o) => (.error (.stated error.message), o) := by
  have hbind := FileProgram.run_bind b (ExceptT.lift (.ask (.read path) .done)) failWith o
  have hlift : FileProgram.run b (ExceptT.lift (.ask (.read path) .done)) o =
      (.ok (o.read b path).1, (o.read b path).2) := rfl
  rw [hlift] at hbind
  refine hbind.trans ?_
  obtain ⟨result, o₁⟩ := o.read b path
  cases result <;> rfl

/-- Listing in a directory handler is listing, if that succeeds. -/
theorem DirectoryProgram.run_list {path : Path} {children : List Path} {o o' : Overlay ω}
    (h : o.list b path = (.ok children, o')) :
    (DirectoryProgram.list path).run b o = (.ok children, o') := by
  have hbind := DirectoryProgram.run_bind b (ExceptT.lift (.ask (.list path) .done)) failWith o
  have hlift : DirectoryProgram.run b (ExceptT.lift (.ask (.list path) .done)) o =
      (.ok (o.list b path).1, (o.list b path).2) := rfl
  rw [hlift, h] at hbind
  exact hbind

/-- The traversal of a child, by the kind recorded for it. -/
def childCommand (o : Overlay ω) (options : Options) (child : Path) : DirectoryCommand :=
  if o.isDirectory b child then .directory child options else .file child options

/-- The default handler of directories orders one traversal for each child, if listing succeeds. -/
theorem run_traverseChildren {path : Path} {children : List Path} {o o' : Overlay ω}
    (h : o.list b path = (.ok children, o')) (options : Options) :
    (traverseChildren path options).run b o =
      (.ok (children.map (childCommand b o' options)), o') := by
  have heach : ∀ children : List Path, DirectoryProgram.run b (children.mapM fun child => do
      if ← DirectoryProgram.isDirectory child then return .directory child options
      else return .file child options) o' =
        (.ok (children.map (childCommand b o' options)), o') := by
    intro children
    induction children with
    | nil => rfl
    | cons child rest ih =>
      have hchild : DirectoryProgram.run b (do
          if ← DirectoryProgram.isDirectory child then return .directory child options
          else return .file child options) o' = (.ok (childCommand b o' options child), o') := by
        have hask : (DirectoryProgram.isDirectory child).run b o' =
            (.ok (o'.isDirectory b child), o') := rfl
        rw [DirectoryProgram.run_bind, hask]
        dsimp only
        rw [childCommand]
        split <;> rfl
      rw [List.mapM_cons, DirectoryProgram.run_bind, hchild]
      dsimp only
      rw [DirectoryProgram.run_bind, ih]
      rfl
  rw [traverseChildren, DirectoryProgram.run_bind, DirectoryProgram.run_list b h]
  exact heach children

end TreePlan
