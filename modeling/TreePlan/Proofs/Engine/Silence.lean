import TreePlan.Proofs.Engine.Discovering
import TreePlan.Proofs.Engine.Tale
import TreePlan.Proofs.MemoryTree.Discovery
import TreePlan.Proofs.Overlay.Reached
import TreePlan.Proofs.Overlay.Still
import TreePlan.Proofs.Path.Normal

/-!
# Traversals that nothing comes of

A traversal asks what its path is before it calls a handler, and the answer is what is recorded for
the path, whatever its kind, before it is what the backing says. So as long as nothing is recorded,
a traversal of a path that is not of the wanted kind is silent (`silent_of_unknown`); and once
something is recorded, be it by a listing that found the path to be of the other kind, the handler
is called (`handlerCalled_of_known`). A path that is missing stays unrecorded over a backing that is
steady and consistent, so there its traversals are silent from every reachable overlay
(`traversal_silent`).
-/

namespace TreePlan

namespace Engine

open Overlay

variable {ω σ : Type} (e : Engine ω σ) (state : Option σ)

/-- Nothing comes of a command: however deep commands may be nested, it ends without an error, what
is remembered stays as it is, and no more than lines for the log is seen. -/
def Silent (c : Command) (o : Overlay ω) : Prop :=
  ∃ v : Overlay (Watched ω σ), v.stores = o.stores ∧ Quiet v.world.seen ∧
    ∀ depth, e.watched.dispatch state (depth + 1) c o.watched = some (.ok (), v) ∧
      e.dispatch state (depth + 1) c o = some (.ok (), v.unwatched)

/-- A call of the handler for paths of one kind has been seen, with the path. -/
def HandlerCalled (path : Path) (options : Options) (seen : Record σ) : EntryKind → Prop
  | .directory => ∃ outcome, .call (.directory (e.visit state path options) outcome) ∈ seen
  | .file => ∃ outcome, .call (.file (e.visit state path options) outcome) ∈ seen

variable {e state} {kind : EntryKind} {path : Path} {options : Options} {o : Overlay ω}

/-- Nothing has been seen of an overlay that is watched from now on. -/
theorem quietSince_watched (σ : Type) (o : Overlay ω) :
    Overlay.QuietSince ([] : Record σ) o.watched o :=
  quietSince_unwatched o.watched

/-- A call that has been seen has been seen later on. -/
theorem HandlerCalled.append {seen : Record σ} (h : e.HandlerCalled state path options seen kind)
    (told : Record σ) : e.HandlerCalled state path options (seen ++ told) kind := by
  cases kind with
  | directory =>
    obtain ⟨outcome, hcall⟩ := h
    exact ⟨outcome, List.mem_append_left told hcall⟩
  | file =>
    obtain ⟨outcome, hcall⟩ := h
    exact ⟨outcome, List.mem_append_left told hcall⟩

/-- Nothing follows the traversal of a path that is not found to be of the wanted kind. -/
theorem perform_of_classifyAs_none (hincludes : e.transform.includes = [])
    {o₁ : Overlay ω} (h : o.classifyAs e.backing kind path = (none, o₁)) :
    e.perform state (.command (rootCommand path options kind)) o = (.ok [], o₁) := by
  cases kind with
  | directory =>
    rw [rootCommand, perform, hincludes, if_pos List.isEmpty_nil, performDirectory,
      classifyDirectory, h]
  | file => rw [rootCommand, perform, performFile, classifyFile, h]

/-- The traversal of a path that is not found to be of the wanted kind ends at once. -/
theorem dispatch_of_classifyAs_none (hincludes : e.transform.includes = [])
    {o₁ : Overlay ω} (h : o.classifyAs e.backing kind path = (none, o₁)) (depth : Nat) :
    e.dispatch state (depth + 1) (rootCommand path options kind) o = some (.ok (), o₁) := by
  rw [dispatch_succ_eq_follow, perform_of_classifyAs_none hincludes h]
  rfl

/-- The traversal of a path of which nothing is recorded and which is not of the wanted kind is
silent. -/
theorem silent_of_unknown (hincludes : e.transform.includes = [])
    (hunknown : o.stores.entries.get? (e.backing.hash path) = none)
    (hkind : (e.backing.stat path o.world).1 ≠ .ok (some kind)) :
    e.Silent state (rootCommand path options kind) o := by
  have hnone := (classifyAs_eq_none_iff kind path o).mpr ⟨hunknown, hkind⟩
  have hnow := quietSince_watched σ o
  obtain ⟨found, v, o₁, hv, ho₁, hquiet⟩ :=
    (hnow.classifyAs (e.backing.watched_alike []) kind path).exists_eq
  rw [ho₁] at hnone
  obtain rfl : found = none := hnone
  obtain ⟨-, told, htold, hseen⟩ := hquiet.world
  refine ⟨v, ?_, hseen ▸ htold, fun depth => ⟨?_, ?_⟩⟩
  · rw [hquiet.stores]
    exact classifyAs_eq_none ho₁
  · exact dispatch_of_classifyAs_none (e := e.watched) hincludes hv depth
  · rw [QuietSince.unwatched_eq hquiet]
    exact dispatch_of_classifyAs_none hincludes ho₁ depth

/-- The step of a traversal calls the handler, if something is recorded of the path. -/
theorem handlerCalled_perform (hincludes : e.transform.includes = [])
    (hknown : (o.stores.entries.get? (e.backing.hash path)).isSome)
    (hhandles : kind = .directory → e.transform.handlesDirectories = true) :
    e.HandlerCalled state path options
      (e.watched.perform state (.command (rootCommand path options kind)) o.watched).2.world.seen
      kind := by
  have hnow := quietSince_watched σ o
  obtain ⟨entry, hentry⟩ := Option.isSome_iff_exists.mp hknown
  have hfound := classifyAs_of_get? (b := e.backing) kind hentry
  cases kind with
  | directory =>
    obtain ⟨-, -, told, -, hseen⟩ :=
      e.performDirectory_shows state path options hnow hfound (hhandles rfl) rfl
    rw [rootCommand, perform, show e.watched.transform.includes = [] from hincludes,
      if_pos List.isEmpty_nil, hseen]
    exact ⟨_, List.mem_append_right _ (List.mem_append_right _ List.mem_cons_self)⟩
  | file =>
    obtain ⟨-, -, told, -, hseen⟩ := e.performFile_shows state path options hnow hfound rfl
    rw [rootCommand, perform, hseen]
    exact ⟨_, List.mem_append_right _ (List.mem_append_right _ List.mem_cons_self)⟩

/-- Wherever the traversal ends, the handler has been called, if something is recorded of the path,
whatever its kind. -/
theorem handlerCalled_of_known (hincludes : e.transform.includes = [])
    (hknown : (o.stores.entries.get? (e.backing.hash path)).isSome)
    (hhandles : kind = .directory → e.transform.handlesDirectories = true) {depth : Nat}
    {result : Except RunError Unit} {v : Overlay (Watched ω σ)}
    (h : e.watched.dispatch state depth (rootCommand path options kind) o.watched =
      some (result, v)) : e.HandlerCalled state path options v.world.seen kind := by
  have hcalled : e.HandlerCalled state path options
      (e.watched.perform state (.command (rootCommand path options kind)) o.watched).2.world.seen
      kind := handlerCalled_perform hincludes hknown hhandles
  cases works_of_dispatch h with
  | fail hp =>
    rw [hp] at hcalled
    exact hcalled
  | step hp hrest =>
    rw [hp] at hcalled
    obtain ⟨told, -, hseen⟩ := hrest.trace
    rw [hseen]
    exact hcalled.append told

/-- For a transform without includes: the traversal of a path of which nothing is recorded and which
is not of the wanted kind is silent; that of a path of which something is recorded calls the handler
for the wanted kind, whatever the path is and was recorded as; and over a steady and consistent
backing that of a missing path which was never staged is silent from every reachable overlay. -/
theorem traversal_silent (e : Engine ω σ) (hincludes : e.transform.includes = [])
    (state : Option σ) (kind : EntryKind) (path : Path) (options : Options) (o : Overlay ω) :
    (o.stores.entries.get? (e.backing.hash path) = none →
      (e.backing.stat path o.world).1 ≠ .ok (some kind) →
        e.Silent state (rootCommand path options kind) o) ∧
    ((o.stores.entries.get? (e.backing.hash path)).isSome →
      (kind = .directory → e.transform.handlesDirectories = true) → ∀ depth result v,
        e.watched.dispatch state depth (rootCommand path options kind) o.watched =
          some (result, v) → e.HandlerCalled state path options v.world.seen kind) ∧
    (e.backing.Steady → e.backing.Consistent → Reached e.backing o →
      o.stores.changes.get? (e.backing.hash path) = none →
      (∀ kind', (e.backing.stat path o.world).1 ≠ .ok (some kind')) →
        e.Silent state (rootCommand path options kind) o) := by
  refine ⟨silent_of_unknown hincludes, fun hknown hhandles _ _ _ h =>
    handlerCalled_of_known hincludes hknown hhandles h, ?_⟩
  intro hs hc hreached hunstaged hmissing
  exact silent_of_unknown hincludes (hreached.unknown_of_missing hs hc hunstaged hmissing)
    (hmissing kind)

/-! ## A file that has been listed -/

/-- A tree with one file. -/
def oneFile : MemoryTree := (MemoryTree.new.write (.ofString "/r/a.txt") "a").2

/-- A key for each kind of path, and one for missing paths. -/
def kindKey : Option EntryKind → PathKey
  | some .file => ⟨Vector.replicate 32 1⟩
  | some .directory => ⟨Vector.replicate 32 2⟩
  | none => ⟨Vector.replicate 32 0⟩

/-- The backing over it, with one key for all files and one for all directories. -/
def overOneFile : Backing Unit :=
  .ofMemory (fun path => kindKey ((oneFile.node? path).map (·.kind))) fun _ => oneFile

/-- The engine over it whose handler of directories orders nothing. -/
def orderless : Engine Unit Unit where
  backing := overOneFile
  transform := { handleDirectory := fun _ => pure [] }

/-- The overlay after the directory of the file has been listed. -/
def afterListing : Overlay Unit := ((Operation.list (.ofString "/r")).run overOneFile (.new ())).2

/-- The keys of the kinds are different. -/
theorem kindKey_injective {a b : Option EntryKind} (h : kindKey a = kindKey b) : a = b := by
  have hfirst := congrArg (·.bytes[0]) h
  rcases a with _ | _ | _ <;> rcases b with _ | _ | _
  all_goals first
    | rfl
    | exact absurd hfirst (by decide)

/-- The nodes of the tree. -/
theorem pairs_oneFile : oneFile.nodes.pairs = [(.ofString "/", .directory),
    (.ofString "/r", .directory), (.ofString "/r/a.txt", .file "a")] := by decide +kernel

/-- What is at a path of the tree. -/
theorem node?_oneFile {p : Path} {node : MemoryNode} (h : oneFile.node? p = some node) :
    (p.normalize = .ofString "/" ∧ node = .directory) ∨
      (p.normalize = .ofString "/r" ∧ node = .directory) ∨
        (p.normalize = .ofString "/r/a.txt" ∧ node = .file "a") := by
  have hmem := (OrderedMap.get?_eq_some_iff _ _ _).mp h
  rw [pairs_oneFile] at hmem
  simpa using hmem

/-- The backing over the tree is steady. -/
theorem steady_overOneFile : overOneFile.Steady :=
  ⟨fun _ _ _ => rfl, fun _ _ _ => rfl, fun _ _ _ => rfl, fun _ _ _ _ _ => rfl⟩

/-- What the tree shows of its directories. -/
theorem list_oneFile {directory : Path} {children : List Listed}
    (h : oneFile.list directory = .ok children) :
    (directory.normalize = .ofString "/" ∧ children = [⟨"r", some .directory⟩]) ∨
      (directory.normalize = .ofString "/r" ∧ children = [⟨"a.txt", some .file⟩]) := by
  have hnode := h
  unfold MemoryTree.list at hnode
  split at hnode
  · rename_i hdirectory
    have hlist (q : Path) (hq : directory.normalize = q.normalize) (shown : List Listed)
        (hshown : oneFile.list q = .ok shown) : children = shown := by
      rw [oneFile.list_congr hq, hshown] at h
      exact (Except.ok.inj h).symm
    rcases node?_oneFile hdirectory with ⟨hroot, -⟩ | ⟨hr, -⟩ | ⟨-, hfile⟩
    · exact Or.inl ⟨hroot, hlist (.ofString "/") (hroot.trans (by decide)) _ (by decide +kernel)⟩
    · exact Or.inr ⟨hr, hlist (.ofString "/r") (hr.trans (by decide)) _ (by decide +kernel)⟩
    · exact nomatch hfile
  · exact nomatch hnode
  · exact nomatch hnode

/-- The backing over the tree is consistent. -/
theorem consistent_overOneFile : overOneFile.Consistent where
  list directory w children h child hchild kind hkind w' := by
    have hstat (q : Path) (hq : directory.normalize = q.normalize) :=
      MemoryTree.stat_congr oneFile (Path.normalize_push_congr hq (.ofString child.name))
    show oneFile.stat (directory.push (.ofString child.name)) = .ok (some kind)
    rcases list_oneFile h with ⟨hdirectory, rfl⟩ | ⟨hdirectory, rfl⟩
    · rw [hstat (.ofString "/") (hdirectory.trans (by decide)), ← hkind,
        List.mem_singleton.mp hchild]
      rfl
    · rw [hstat (.ofString "/r") (hdirectory.trans (by decide)), ← hkind,
        List.mem_singleton.mp hchild]
      rfl
  glob directory pattern excludes w files h file hfile w' := by
    have hglob : oneFile.glob directory pattern excludes = .ok files :=
      PatternSet.mapError_eq_ok_iff.mp h
    obtain ⟨⟨content, hcontent⟩, -⟩ :=
      MemoryTree.get?_of_mem_filesUnder (MemoryTree.mem_filesUnder_of_glob hglob hfile)
    have hmem := (OrderedMap.get?_eq_some_iff _ _ _).mp hcontent
    rw [pairs_oneFile] at hmem
    obtain ⟨rfl, -⟩ : file = .ofString "/r/a.txt" ∧ content = "a" := by simpa using hmem
    show oneFile.stat (.ofString "/r/a.txt") = .ok (some .file)
    decide +kernel
  hash p q w kind hpq hp :=
    MemoryTree.stat_eq_ok_iff.mpr (kindKey_injective hpq ▸ MemoryTree.stat_eq_ok_iff.mp hp)

/-- The traversal as a directory of a path of which something is recorded ends. -/
theorem exists_dispatch_orderless {o : Overlay Unit} {path : Path} {entry : Entry}
    (h : o.stores.entries.get? (orderless.backing.hash path) = some entry) :
    ∃ v, orderless.watched.dispatch none 1 (.traverseDirectory path .empty) o.watched =
      some (.ok (), v) := by
  have hfound := classifyAs_of_get? (b := orderless.watched.backing) (o := o.watched) .directory h
  rw [dispatch_succ_eq_follow, perform, show orderless.watched.transform.includes = [] from rfl,
    if_pos List.isEmpty_nil, performDirectory, classifyDirectory, hfound]
  exact ⟨_, rfl⟩

/-- Of an unlisted file and a missing path nothing comes, and for a listed file the handler of
directories is called. -/
theorem traversal_silent_orderless :
    orderless.Silent none (.traverseDirectory (.ofString "/r/a.txt") .empty) (.new ()) ∧
    (∃ v, orderless.watched.dispatch none 1 (.traverseDirectory (.ofString "/r/a.txt") .empty)
        afterListing.watched = some (.ok (), v) ∧
      orderless.HandlerCalled none (.ofString "/r/a.txt") .empty v.world.seen .directory) ∧
    orderless.Silent none (.traverseFile (.ofString "/r/b.txt") .empty) afterListing := by
  have hfound : afterListing.stores.entries.get?
      (orderless.backing.hash (.ofString "/r/a.txt")) = some ⟨.file, .ofString "/r/a.txt"⟩ := by
    decide +kernel
  obtain ⟨v, hv⟩ := exists_dispatch_orderless hfound
  refine ⟨?_, ⟨v, hv, ?_⟩, ?_⟩
  · exact (traversal_silent orderless rfl none .directory (.ofString "/r/a.txt") .empty
      (.new ())).1 rfl (by decide +kernel)
  · exact (traversal_silent orderless rfl none .directory (.ofString "/r/a.txt") .empty
      afterListing).2.1 (by rw [hfound]; rfl) (fun _ => rfl) 1 _ v hv
  · exact (traversal_silent orderless rfl none .file (.ofString "/r/b.txt") .empty
      afterListing).2.2 steady_overOneFile consistent_overOneFile (.run _ (.new ())) rfl
      fun kind' => by cases kind' <;> decide +kernel

/-- A file that has been listed is handled as a directory, though it is a file, nothing has ever
been staged, and the backing is steady and consistent. -/
theorem not_silent_afterListing :
    orderless.transform.includes = [] ∧ orderless.backing.Steady ∧ orderless.backing.Consistent ∧
      Reached orderless.backing afterListing ∧
      afterListing.stores.changes.get? (orderless.backing.hash (.ofString "/r/a.txt")) = none ∧
      (orderless.backing.stat (.ofString "/r/a.txt") afterListing.world).1 = .ok (some .file) ∧
      ¬orderless.Silent none (.traverseDirectory (.ofString "/r/a.txt") .empty) afterListing := by
  refine ⟨rfl, steady_overOneFile, consistent_overOneFile, .run _ (.new ()), rfl,
    by decide +kernel, ?_⟩
  rintro ⟨v, -, hquiet, hends⟩
  have hknown : (afterListing.stores.entries.get?
      (orderless.backing.hash (.ofString "/r/a.txt"))).isSome := by decide +kernel
  have hcalled : orderless.HandlerCalled none (.ofString "/r/a.txt") .empty v.world.seen
      .directory :=
    handlerCalled_of_known rfl hknown (fun _ => rfl) (hends 0).1
  obtain ⟨outcome, hcall⟩ := hcalled
  obtain ⟨event, hevent, -⟩ := hquiet _ hcall
  exact nomatch hevent

end Engine

end TreePlan
