import TreePlan.Proofs.Engine.Run

/-!
# Runs over discovered files

A transform that works on files only (`Engine.FilesOnly`) makes one pass, in which it discovers
files and traverses them one after the other; the handler of the directory does not run. So a run
over a directory begins with the discovery (`Engine.Discovers`) and ends as the traversals do
(`Discovers.ends_ok`, `Discovers.ends_error`). What the traversals do is shown by a rule for loops
(`works_files`): what holds of the files before is kept by the traversal of one more, whose turn
comes in the overlay that the traversals of the files before lead to (`Engine.Turn`).

After the discovery every file is recorded as a file under its own key, and no two of them share
one. What is recorded is classified without asking the backing.

Seen from the end, a run that went well missed the root, or it found files (`Engine.Finds`), the
discovered ones or the root itself, and was over after their traversals (`Engine.Closes`,
`FilesOnly.misses_or_finds`).
-/

namespace TreePlan

/-! ## Announcements -/

/-- The path of a completed command, if the event announces one of that kind. -/
def Event.done? (kind : CommandKind) : Event → Option Path
  | .executed kind' path => if kind' = kind then some path else none
  | _ => none

/-- Only reports announce. -/
theorem Event.done?_eq_none {kind : CommandKind} {event : Event} (h : event.isReport = false) :
    event.done? kind = none := by
  cases event with
  | executed | abandoned => exact nomatch h
  | _ => rfl

namespace Overlay

variable {ω : Type} {b : Backing ω} {o o' : Overlay ω}

/-- The paths of the completed commands of one kind, oldest first. -/
def done (kind : CommandKind) (o : Overlay ω) : List Path := o.reports.filterMap (·.done? kind)

/-- Nothing is completed while an overlay learns. -/
theorem Learns.done_eq (h : Learns b o o') (kind : CommandKind) : o'.done kind = o.done kind := by
  rw [done, done, h.reports_eq]

/-- An event adds what is made of it to what is made of the reports, if that is nothing for the
events that are no reports. -/
theorem filterMap_reports_log {α : Type} {f : Event → Option α}
    (hf : ∀ event : Event, event.isReport = false → f event = none) (event : Event)
    (o : Overlay ω) :
    (o.log b event).reports.filterMap f = o.reports.filterMap f ++ (f event).toList := by
  rw [reports, reports, Overlay.log, List.filter_append, List.filterMap_append]
  cases hr : event.isReport with
  | false =>
    rw [List.filter_singleton, hr, hf event hr]
    rfl
  | true =>
    rw [List.filter_singleton, hr]
    dsimp only [cond_true, Option.toList]
    rw [List.filterMap_cons, List.filterMap_nil]
    cases f event <;> rfl

/-- An event adds what it announces. -/
theorem done_log (event : Event) (o : Overlay ω) (kind : CommandKind) :
    (o.log b event).done kind = o.done kind ++ (event.done? kind).toList :=
  filterMap_reports_log (fun _ => Event.done?_eq_none) event o

/-- The announcement of a command adds its path to those of its kind. -/
theorem done_executed_self (kind : CommandKind) (p : Path) (o : Overlay ω) :
    (o.log b (.executed kind p)).done kind = o.done kind ++ [p] := by
  rw [done_log, Event.done?, if_pos rfl]
  rfl

/-- The announcement of a command of another kind adds nothing. -/
theorem done_executed_of_ne {kind kind' : CommandKind} (h : kind' ≠ kind) (p : Path)
    (o : Overlay ω) : (o.log b (.executed kind' p)).done kind = o.done kind := by
  rw [done_log, Event.done?, if_neg h]
  exact List.append_nil _

/-- The note of a failure announces no command. -/
theorem done_abandoned (kind : CommandKind) (p : Path) (failure : Failure) (o : Overlay ω) :
    (o.log b (.abandoned p failure)).done kind = o.done kind := by
  rw [done_log]
  exact List.append_nil _

/-! ## Failures -/

end Overlay

/-- The path and the failure of a handler, if the event notes one. -/
def Event.abandoned? : Event → Option (Path × Failure)
  | .abandoned path failure => some (path, failure)
  | _ => none

/-- Only reports note failures. -/
theorem Event.abandoned?_eq_none {event : Event} (h : event.isReport = false) :
    event.abandoned? = none := by
  cases event with
  | executed | abandoned => exact nomatch h
  | _ => rfl

namespace Overlay

variable {ω : Type} {b : Backing ω} {o o' : Overlay ω}

/-- The noted failures, oldest first. -/
def abandoned (o : Overlay ω) : List (Path × Failure) := o.reports.filterMap (·.abandoned?)

/-- No failure is noted while an overlay learns. -/
theorem Learns.abandoned_eq (h : Learns b o o') : o'.abandoned = o.abandoned := by
  rw [abandoned, abandoned, h.reports_eq]

/-- An event adds the failure that it notes. -/
theorem abandoned_log (event : Event) (o : Overlay ω) :
    (o.log b event).abandoned = o.abandoned ++ event.abandoned?.toList :=
  filterMap_reports_log (fun _ => Event.abandoned?_eq_none) event o

/-- The announcement of a command notes no failure. -/
theorem abandoned_executed (kind : CommandKind) (p : Path) (o : Overlay ω) :
    (o.log b (.executed kind p)).abandoned = o.abandoned := by
  rw [abandoned_log]
  exact List.append_nil _

/-! ## What a discovery records -/

/-- An overlay in which files have been discovered has learnt. -/
theorem learns_of_discover {directory : Path} {includes excludes : List String}
    {found : Except RunError (List Path)}
    (h : o.discover b directory includes excludes = (found, o')) : Learns b o o' := by
  have hlearns := discover_learns (b := b) directory includes excludes o
  rw [h] at hlearns
  exact hlearns

/-- After paths have been recorded as files under their keys, one after the other, the last path
with a key decides. -/
theorem get?_foldl_record (found : List (PathKey × Path)) (o : Overlay ω) (k : PathKey) :
    (found.foldl (fun o p => o.record p.1 ⟨.file, p.2⟩) o).stores.entries.get? k =
      (((found.filter (·.1 = k)).getLast?).map fun p => ⟨.file, p.2⟩).or
        (o.stores.entries.get? k) := by
  induction found using List.reverseRecOn with
  | nil => simp
  | append_singleton found p ih =>
    rw [List.foldl_append, List.foldl_cons, List.foldl_nil, get?_record, ih, List.filter_append]
    by_cases h : p.1 = k <;> simp [h]

/-- A discovery finds no key twice, and records every path that it finds as a file. -/
theorem discover_eq_ok {directory : Path} {includes excludes : List String} {files : List Path}
    (h : o.discover b directory includes excludes = (.ok files, o')) :
    (files.map b.hash).Nodup ∧
      (∀ p ∈ files, o'.stores.entries.get? (b.hash p) = some ⟨.file, p⟩) ∧
      ∀ k, k ∉ files.map b.hash → o'.stores.entries.get? k = o.stores.entries.get? k := by
  unfold discover at h
  split at h
  · exact nomatch (Prod.mk.inj h).1
  · rename_i found w hsearch
    obtain ⟨hfiles, rfl⟩ := Prod.mk.inj h
    obtain rfl := Except.ok.inj hfiles
    have hown := hash_of_mem_searchAll includes (by simp [OrderedMap.empty]) hsearch
    have hkeys : (found.pairs.map (·.2)).map b.hash = found.pairs.map (·.1) := by
      rw [List.map_map]
      exact List.map_congr_left hown
    rw [hkeys]
    refine ⟨found.nodup, fun p hp => ?_, fun k hk => ?_⟩
    · obtain ⟨⟨k, p⟩, hmem, rfl⟩ := List.mem_map.mp hp
      have hk : b.hash p = k := hown (k, p) hmem
      obtain ⟨last, hlast⟩ : ∃ last, (found.pairs.filter (·.1 = k)).getLast? = some last :=
        List.getLast?_isSome.mpr (List.ne_nil_of_mem (List.mem_filter.mpr ⟨hmem, by simp⟩))
          |> Option.isSome_iff_exists.mp
      -- The last pair with the key is the only one.
      have hmem' := List.mem_filter.mp (List.mem_of_getLast? hlast)
      have hpair : last = (k, p) :=
        List.inj_on_of_nodup_map found.nodup hmem'.1 hmem (by simpa using hmem'.2)
      dsimp only
      rw [get?_foldl_record, hk, hlast, hpair]
      rfl
    · have hnone : found.pairs.filter (·.1 = k) = [] := by
        rw [List.filter_eq_nil_iff]
        exact fun p hp he => hk (List.mem_map.mpr ⟨p, hp, by simpa using he⟩)
      rw [get?_foldl_record, hnone]
      rfl

end Overlay

namespace Engine

open Overlay

variable {ω σ : Type} (e : Engine ω σ) (root : Path)

/-! ## The run -/

/-- The transform works on files only, and makes one pass. -/
structure FilesOnly : Prop where
  /-- The handler of directories does not run. -/
  handlesDirectories : e.transform.handlesDirectories = false
  /-- The state is that of the pass before. -/
  initializeState : ∀ options previous, e.transform.initializeState options previous = pure previous
  /-- The decision is to stop. -/
  handleFinish : ∀ options state, e.transform.handleFinish options state = pure .stop

/-- The root is a directory, and files are discovered under it: from which overlay, the files, and
the overlay in which they are about to be traversed. -/
inductive Discovers (o : Overlay ω) : List Path → Overlay ω → Prop
  /-- There are patterns, the root is classified, and the discovery succeeds. -/
  | discover {entry : Entry} {files : List Path} {o₁ o₂ : Overlay ω}
      (hincludes : e.transform.includes.isEmpty = false)
      (hroot : o.classify e.backing root = (some entry, o₁)) (hkind : entry.kind = .directory)
      (hfiles : (o₁.log e.backing (.passStarted 1 root)).discover e.backing root
        e.transform.includes e.transform.excludes = (.ok files, o₂)) :
      Discovers o files (o₂.log e.backing (.discovered files.length root))

/-- The traversals of files. -/
def traversals (options : Options) (files : List Path) : List Task :=
  files.map fun file => .command (.traverseFile file options)

/-- The turn of a file comes in an overlay, to which the traversals of the files before it lead: the
overlay in which the first file was about to be traversed, the files, the file, and the overlay. -/
def Turn (e : Engine ω σ) (options : Options) (state : Option σ) (first : Overlay ω)
    (files : List Path) (p : Path) (now : Overlay ω) : Prop :=
  ∃ before after, files = before ++ p :: after ∧
    e.Works state (traversals options before) first (.ok ()) now

/-- The overlay after a run over a root whose files have been traversed. -/
def conclude (o : Overlay ω) : Overlay ω :=
  let o := o.log e.backing (.executed .traverseDirectory root)
  o.log e.backing (.finished 1 o.plan.length o.sizes.entries)

variable {e root} {o o₁ o₂ : Overlay ω} {files : List Path}

/-- There is something to discover. -/
theorem Discovers.isEmpty_includes (h : e.Discovers root o files o₁) :
    e.transform.includes.isEmpty = false := by
  obtain ⟨hincludes⟩ := h
  exact hincludes

/-- A discovery is learning. -/
theorem Discovers.learns (h : e.Discovers root o files o₁) : Learns e.backing o o₁ := by
  obtain ⟨-, hroot, -, hfiles⟩ := h
  have hstarted := (learns_of_classify hroot).tail (.log _ (.passStarted 1 root) rfl)
  exact (hstarted.trans (learns_of_discover hfiles)).tail (.log _ _ rfl)

/-- No two discovered files share a key. -/
theorem Discovers.nodup (h : e.Discovers root o files o₁) :
    (files.map e.backing.hash).Nodup := by
  obtain ⟨-, -, -, hfiles⟩ := h
  exact (discover_eq_ok hfiles).1

/-- Every discovered file is recorded as a file. -/
theorem Discovers.get?_eq_some (h : e.Discovers root o files o₁) {p : Path} (hp : p ∈ files) :
    o₁.stores.entries.get? (e.backing.hash p) = some ⟨.file, p⟩ := by
  obtain ⟨-, -, -, hfiles⟩ := h
  exact (discover_eq_ok hfiles).2.1 p hp

/-- Only the root, the files, and what was known before are known when the files are traversed. -/
theorem Discovers.known (h : e.Discovers root o files o₁) {k : PathKey}
    (hk : (o₁.stores.entries.get? k).isSome) : k = e.backing.hash root ∨
      k ∈ files.map e.backing.hash ∨ (o.stores.entries.get? k).isSome := by
  by_cases hmem : k ∈ files.map e.backing.hash
  · exact Or.inr (Or.inl hmem)
  · obtain ⟨-, hroot, -, hfiles⟩ := h
    have hother : ((o.classify e.backing root).2.stores.entries.get? k).isSome := by
      rw [hroot]
      exact (discover_eq_ok hfiles).2.2 k hmem ▸ hk
    exact (eq_or_isSome_of_classify root hother).imp_right Or.inr

/-- The root is recorded by the time that its files are traversed. -/
theorem Discovers.isSome_root (h : e.Discovers root o files o₁) :
    (o₁.stores.entries.get? (e.backing.hash root)).isSome := by
  obtain ⟨-, hroot, -, hfiles⟩ := h
  have hknown := isSome_of_classify hroot
  exact (learns_of_discover hfiles).isSome_get? hknown

/-- A run over a directory makes a sweep that traverses the discovered files and ends as their
traversals do. -/
theorem Discovers.sweeps (h : e.Discovers root o files o₁) (he : e.FilesOnly)
    {options : Options} {state : Option σ} {result : Except RunError Unit} {o' : Overlay ω}
    (hworks : e.Works state (traversals options files ++
      [.announcement .directory root, .ownHandler root options]) o₁ result o') :
    e.Sweeps root options 1 state o state result o' := by
  obtain ⟨hincludes, hroot, hkind, hfiles⟩ := h
  refine .sweep hroot (by rw [he.initializeState]; rfl) (works_of_perform ?_ hworks)
  rw [hkind, rootCommand, perform, hincludes, if_neg Bool.false_ne_true,
    performDiscovery, hfiles]
  rfl

/-- The handler of a recorded file runs at once: nothing is asked before. -/
theorem perform_traverseFile {p : Path} (options : Options) (state : Option σ)
    (h : (o.stores.entries.get? (e.backing.hash p)).isSome) :
    e.perform state (.command (.traverseFile p options)) o =
      (.ok ((e.fileOrders state p options o).1.map (.command ·.widen) ++ [.announcement .file p]),
        (e.fileOrders state p options o).2) := by
  obtain ⟨entry, hentry⟩ := Option.isSome_iff_exists.mp h
  rw [perform, performFile, classifyFile, classifyAs_of_get? .file hentry]

/-- What the handler of a recorded file orders follows. -/
theorem perform_traverseFile_ok {p : Path} {options : Options} {state : Option σ}
    {commands : List FileCommand} (h : (o.stores.entries.get? (e.backing.hash p)).isSome)
    (hrun : (e.transform.handleFile (e.visit state p options)).run e.backing o =
      (.ok commands, o')) :
    e.perform state (.command (.traverseFile p options)) o =
      (.ok (commands.map (.command ·.widen) ++ [.announcement .file p]), o') := by
  rw [perform_traverseFile options state h, fileOrders, hrun]
  rfl

/-- Nothing follows when the handler of a recorded file fails, but its failure is told. -/
theorem perform_traverseFile_error {p : Path} {options : Options} {state : Option σ}
    {failure : Failure} (h : (o.stores.entries.get? (e.backing.hash p)).isSome)
    (hrun : (e.transform.handleFile (e.visit state p options)).run e.backing o =
      (.error failure, o')) :
    e.perform state (.command (.traverseFile p options)) o =
      (.ok [.announcement .file p], o'.log e.backing (.abandoned p failure)) := by
  rw [perform_traverseFile options state h, fileOrders, hrun]
  rfl

/-- The default handler of files hands over a recorded file. -/
theorem perform_defaultFile
    (he : ∀ v, e.transform.handleFile v = pure [.materialize v.path v.options]) {p : Path}
    (options : Options) (state : Option σ)
    (h : (o.stores.entries.get? (e.backing.hash p)).isSome) :
    e.perform state (.command (.traverseFile p options)) o =
      (.ok [.command (.materialize p options), .announcement .file p], o) := by
  exact perform_traverseFile_ok h (by rw [he]; rfl)

/-- A content that can be read is handed over: what its handler orders follows, and then it is
announced. -/
theorem perform_materialize {p : Path} {options : Options} {state : Option σ} {data : String}
    {outcome : Except Failure DataCommand} (hread : o.read e.backing p = (.ok data, o₁))
    (hrun : (e.transform.handleData (e.visit state p options) data).run e.backing o₁ =
      (outcome, o₂)) :
    e.perform state (.command (.materialize p options)) o =
      (.ok (outcome.toOption.toList.map (.command ·.widen) ++ [.announcement .content p]),
        (e.contain p (outcome, o₂)).2) := by
  rw [perform, performContent, hread]
  dsimp only
  rw [dataOrders, hrun]
  cases outcome <;> rfl

/-- The handler of a recorded directory does not run, and nothing is asked. -/
theorem FilesOnly.perform_ownHandler (he : e.FilesOnly) (options : Options) (state : Option σ)
    (h : (o.stores.entries.get? (e.backing.hash root)).isSome) :
    e.perform state (.ownHandler root options) o = (.ok [], o) := by
  obtain ⟨entry, hentry⟩ := Option.isSome_iff_exists.mp h
  rw [perform, performDirectory, classifyDirectory, classifyAs_of_get? .directory hentry]
  dsimp only
  rw [he.handlesDirectories, if_neg Bool.false_ne_true]

/-- A run ends well when the traversals of the discovered files do. -/
theorem Discovers.ends_ok (h : e.Discovers root o files o₁) (he : e.FilesOnly)
    {options : Options} {state : Option σ}
    (hworks : e.Works state (traversals options files) o₁ (.ok ()) o₂) :
    e.Ends root options state o (.ok (e.conclude root o₂).plan) (e.conclude root o₂) := by
  have hknown := hworks.moves.isSome_get? h.isSome_root
  have hown := he.perform_ownHandler (o := o₂.log e.backing (.executed .traverseDirectory root))
    options state hknown
  have hrest : e.Works state [.announcement .directory root, .ownHandler root options] o₂ (.ok ())
      (o₂.log e.backing (.executed .traverseDirectory root)) :=
    .step rfl (.step hown (.done _))
  have hsweep := h.sweeps he (hworks.append_ok hrest)
  have hfinish : (e.transform.handleFinish options state).run e.backing
      (o₂.log e.backing (.executed .traverseDirectory root)) =
        (.ok .stop, o₂.log e.backing (.executed .traverseDirectory root)) := by
    rw [he.handleFinish]
    rfl
  exact ends_iff_runs.mpr (Or.inr (.stops hsweep hfinish))

/-- A run fails when the traversals of the discovered files do. -/
theorem Discovers.ends_error (h : e.Discovers root o files o₁) (he : e.FilesOnly)
    {options : Options} {state : Option σ} {error : RunError}
    (hworks : e.Works state (traversals options files) o₁ (.error error) o₂) :
    e.Ends root options state o (.error error) o₂ :=
  ends_iff_runs.mpr (Or.inr (.sweepFails (h.sweeps he (hworks.append_error _))))

/-- Concluding a run is some moves. -/
theorem conclude_moves (root : Path) (o : Overlay ω) : Moves e.backing o (e.conclude root o) :=
  .head (.announce o .directory root) (Learns.moves (.single (.log _ _ rfl)))

/-- Concluding a run announces the root and no file. -/
theorem done_conclude {kind : CommandKind} (h : CommandKind.traverseDirectory ≠ kind)
    (o : Overlay ω) : (e.conclude root o).done kind = o.done kind := by
  rw [conclude, done_log, done_executed_of_ne h]
  exact List.append_nil _

/-! ## Runs from the end -/

/-- The files that a run traverses, from which overlay, and the overlay in which the first of them
is about to be traversed: those that are discovered, or the root alone if it is a file. -/
inductive Finds (e : Engine ω σ) (root : Path) (o : Overlay ω) : List Path → Overlay ω → Prop
  /-- The root is a directory. -/
  | discovered {files : List Path} {o₁ : Overlay ω} (h : e.Discovers root o files o₁) :
      Finds e root o files o₁
  /-- The root is a file. -/
  | root {entry : Entry} {o₁ : Overlay ω} (hroot : o.classify e.backing root = (some entry, o₁))
      (hkind : entry.kind = .file) : Finds e root o [root] (o₁.log e.backing (.passStarted 1 root))

/-- Finding files is learning. -/
theorem Finds.learns (h : e.Finds root o files o₁) : Learns e.backing o o₁ := by
  cases h with
  | discovered h => exact h.learns
  | root hroot => exact (learns_of_classify hroot).tail (.log _ _ rfl)

/-- No two files that are found share a key. -/
theorem Finds.nodup (h : e.Finds root o files o₁) : (files.map e.backing.hash).Nodup := by
  cases h with
  | discovered h => exact h.nodup
  | root => exact List.nodup_singleton _

/-- Every file that is found is recorded. -/
theorem Finds.isSome_get? (h : e.Finds root o files o₁) {p : Path} (hp : p ∈ files) :
    (o₁.stores.entries.get? (e.backing.hash p)).isSome := by
  cases h with
  | discovered h =>
    rw [h.get?_eq_some hp]
    rfl
  | root hroot =>
    have hknown := isSome_of_classify hroot
    rw [List.mem_singleton.mp hp]
    exact hknown

/-- A run is over whose files have been traversed: from which overlay, and in which overlay it
ends. -/
inductive Closes (e : Engine ω σ) (root : Path) (o : Overlay ω) : Overlay ω → Prop
  /-- The root is a directory, so it is announced. -/
  | directory : Closes e root o (e.conclude root o)
  /-- The root is a file. -/
  | file : Closes e root o (o.log e.backing (.finished 1 o.plan.length o.sizes.entries))

/-- Nothing is stored when a run is over. -/
theorem Closes.stores_eq (h : e.Closes root o o₁) : o₁.stores = o.stores := by
  cases h <;> rfl

/-- A run is over after some moves. -/
theorem Closes.moves (h : e.Closes root o o₁) : Moves e.backing o o₁ := by
  cases h with
  | directory => exact conclude_moves root o
  | file => exact Learns.moves (.single (.log _ _ rfl))

/-- No file is announced when a run is over. -/
theorem Closes.done_eq {kind : CommandKind} (hkind : CommandKind.traverseDirectory ≠ kind)
    (h : e.Closes root o o₁) : o₁.done kind = o.done kind := by
  cases h with
  | directory => exact done_conclude hkind o
  | file => exact Learns.done_eq (.single (.log _ _ rfl)) kind

/-- No failure is noted when a run is over. -/
theorem Closes.abandoned_eq (h : e.Closes root o o₁) : o₁.abandoned = o.abandoned := by
  cases h with
  | directory =>
    rw [conclude, abandoned_log, abandoned_executed]
    exact List.append_nil _
  | file => exact Learns.abandoned_eq (.single (.log _ _ rfl))

/-- A run over files that are found ends when their traversals do, with the plan drawn from the
overlay after them. -/
theorem Finds.ends (h : e.Finds root o files o₁) (he : e.FilesOnly) {options : Options}
    {state : Option σ} (hworks : e.Works state (traversals options files) o₁ (.ok ()) o₂) :
    ∃ o', e.Ends root options state o (.ok o₂.plan) o' ∧ e.Closes root o₂ o' := by
  cases h with
  | discovered h => exact ⟨_, h.ends_ok he hworks, .directory⟩
  | @root entry o₁ hroot hkind =>
    have hsweep : e.Sweeps root options 1 state o state (.ok ()) o₂ := by
      refine .sweep hroot (by rw [he.initializeState]; rfl) ?_
      rw [hkind]
      exact hworks
    have hfinish : (e.transform.handleFinish options state).run e.backing o₂ = (.ok .stop, o₂) := by
      rw [he.handleFinish]
      rfl
    exact ⟨_, ends_iff_runs.mpr (Or.inr (.stops hsweep hfinish)), .file⟩

/-- A run that ends well misses the root, or it finds files, and then it is over after their
traversals, with the plan drawn from the overlay then. -/
theorem FilesOnly.misses_or_finds (he : e.FilesOnly)
    (hincludes : e.transform.includes.isEmpty = false) {options : Options} {state : Option σ}
    {plan : Plan} {o' : Overlay ω} (h : e.Ends root options state o (.ok plan) o') :
    e.Misses root o (.ok plan) o' ∨ ∃ files o₁, e.Finds root o files o₁ ∧
      ∀ o₂, e.Works state (traversals options files) o₁ (.ok ()) o₂ →
        plan = o₂.plan ∧ e.Closes root o₂ o' := by
  -- A run ends in one way only, so it is enough to say how it ends.
  have hfinds {files : List Path} {o₁ : Overlay ω} (hf : e.Finds root o files o₁) (o₂ : Overlay ω)
      (hworks : e.Works state (traversals options files) o₁ (.ok ()) o₂) :
      plan = o₂.plan ∧ e.Closes root o₂ o' := by
    obtain ⟨o₃, hends, hcloses⟩ := hf.ends he hworks
    obtain ⟨hplan, rfl⟩ := h.unique hends
    exact ⟨Except.ok.inj hplan, hcloses⟩
  obtain ⟨found, o₁, hroot⟩ : ∃ found o₁, o.classify e.backing root = (found, o₁) := ⟨_, _, rfl⟩
  cases found with
  | none =>
    obtain ⟨hplan, rfl⟩ := h.unique (ends_iff_runs.mpr (Or.inl (.miss hroot)))
    exact Or.inl (hplan ▸ .miss hroot)
  | some entry =>
    cases hkind : entry.kind with
    | file => exact Or.inr ⟨_, _, .root hroot hkind, hfinds (.root hroot hkind)⟩
    | directory =>
      obtain ⟨discovered, o₂, hfiles⟩ : ∃ discovered o₂,
          (o₁.log e.backing (.passStarted 1 root)).discover e.backing root e.transform.includes
            e.transform.excludes = (discovered, o₂) := ⟨_, _, rfl⟩
      cases discovered with
      | ok files =>
        have hd := Discovers.discover hincludes hroot hkind hfiles
        exact Or.inr ⟨_, _, .discovered hd, hfinds (.discovered hd)⟩
      | error error =>
        have hworks : e.Works state [.command (rootCommand root options entry.kind)]
            (o₁.log e.backing (.passStarted 1 root)) (.error error) o₂ := by
          refine .fail ?_
          rw [hkind, rootCommand, perform, hincludes, if_neg Bool.false_ne_true, performDiscovery,
            hfiles]
        have hsweep : e.Sweeps root options 1 state o state (.error error) o₂ :=
          .sweep hroot (by rw [he.initializeState]; rfl) hworks
        obtain ⟨hends, -⟩ := h.unique (ends_iff_runs.mpr (Or.inr (.sweepFails hsweep)))
        cases hends

/-- A run that ends well plans nothing, or it finds files, and then the plan is drawn from the
overlay after their traversals. -/
theorem FilesOnly.of_ends (he : e.FilesOnly) (hincludes : e.transform.includes.isEmpty = false)
    {options : Options} {state : Option σ} {plan : Plan} {o' : Overlay ω}
    (h : e.Ends root options state o (.ok plan) o') :
    plan = [] ∨ ∃ files o₁, e.Finds root o files o₁ ∧
      ∀ o₂, e.Works state (traversals options files) o₁ (.ok ()) o₂ →
        plan = o₂.plan ∧ Moves e.backing o₂ o' := by
  rcases he.misses_or_finds hincludes h with hmisses | ⟨files, o₁, hfinds, hplan⟩
  · cases hmisses
    exact Or.inl rfl
  · exact Or.inr ⟨files, o₁, hfinds, fun o₂ hworks => (hplan o₂ hworks).imp_right (·.moves)⟩

/-! ## The loop -/

/-- The turn of a file does not depend on the files after it. -/
theorem Turn.append {options : Options} {state : Option σ} {p : Path}
    (h : e.Turn options state o files p o₁) (more : List Path) :
    e.Turn options state o (files ++ more) p o₁ := by
  obtain ⟨before, after, rfl, hworks⟩ := h
  exact ⟨before, after ++ more, List.append_assoc .., hworks⟩

/-- What holds of the files that have been traversed and of an overlay is kept by the traversal of
one more file, whose key is not that of one before it, from any overlay that the traversals of the
files before lead to. So it holds of all files and of the overlay after them. -/
theorem works_files (options : Options) (state : Option σ) {P : List Path → Overlay ω → Prop}
    (hnodup : (files.map e.backing.hash).Nodup)
    (hknown : ∀ p ∈ files, (o.stores.entries.get? (e.backing.hash p)).isSome)
    (hstep : ∀ before p rest now, before ++ p :: rest = files →
      e.backing.hash p ∉ before.map e.backing.hash →
      (now.stores.entries.get? (e.backing.hash p)).isSome →
      e.Works state (traversals options before) o (.ok ()) now → P before now →
      ∃ o', e.Works state [.command (.traverseFile p options)] now (.ok ()) o' ∧
        P (before ++ [p]) o')
    (h : P [] o) : ∃ o', e.Works state (traversals options files) o (.ok ()) o' ∧ P files o' := by
  -- By induction on the files that are left, whichever have been traversed.
  have hloop (rest : List Path) : ∀ before now, before ++ rest = files →
      (∀ p ∈ rest, (now.stores.entries.get? (e.backing.hash p)).isSome) →
      e.Works state (traversals options before) o (.ok ()) now → P before now →
      ∃ o', e.Works state (traversals options files) o (.ok ()) o' ∧ P files o' := by
    induction rest with
    | nil =>
      intro before now hfiles _ hbefore hP
      rw [List.append_nil] at hfiles
      exact ⟨now, hfiles ▸ hbefore, hfiles ▸ hP⟩
    | cons p rest ih =>
      intro before now hfiles hrest hbefore hP
      have hnew : e.backing.hash p ∉ before.map e.backing.hash := by
        rw [← hfiles, List.map_append, List.map_cons, List.nodup_append] at hnodup
        exact fun hmem => hnodup.2.2 _ hmem _ List.mem_cons_self rfl
      obtain ⟨o₁, hworks, hP₁⟩ :=
        hstep before p rest now hfiles hnew (hrest p List.mem_cons_self) hbefore hP
      have hrest₁ (q : Path) (hq : q ∈ rest) :
          (o₁.stores.entries.get? (e.backing.hash q)).isSome :=
        hworks.moves.isSome_get? (hrest q (List.mem_cons_of_mem p hq))
      have hbefore₁ : e.Works state (traversals options (before ++ [p])) o (.ok ()) o₁ := by
        rw [traversals, List.map_append]
        exact hbefore.append_ok hworks
      exact ih (before ++ [p]) o₁ (by rw [← hfiles, List.append_assoc]; rfl) hrest₁ hbefore₁ hP₁
  exact hloop files [] o rfl hknown (.done o) h

end Engine

end TreePlan
