import TreePlan.Proofs.Engine.Discovering
import TreePlan.Proofs.Engine.Tale
import TreePlan.Proofs.MemoryTree.Discovery
import TreePlan.Proofs.MemoryTree.Shape
import TreePlan.Proofs.Overlay.Listing

/-!
# The default walk

A transform that gives only a handler of contents walks over the tree. What is seen of a run are the
stops of the walk (`stops`), and every content that is handed over is what was staged last under the
key of its file, or else what the file says in the tree (`HandsOver`).

The handler may stage at any path, and staging records the path as a file. That does no harm. The
kind of a child is asked for right after its directory has been listed, when it is recorded as what
it is in the tree; and what has been recorded is found as a directory or a file whatever its kind.
So all that has to be kept while the walk goes on is what the changes and the relations are
(`Walker.Keeps`). It is kept by a content, by a file and by the listing of a directory, and so, by
induction on the walk, until the stack of the machine is empty (`Keeps.exists_advances`). Over a
tree of absolute paths a run therefore makes one walk from its root and ends well
(`walks_over_tree`).
-/

namespace TreePlan

open Overlay TreePlan.Path

variable {ω σ : Type}

/-! ## What is seen of a walk -/

/-- The stop that is made when something happens. -/
def Happening.stop? : Happening σ → Option Stop
  | .call (.content v _ _) => some (.content v.path)
  | .event (.executed .traverseFile path) => some (.leave .file path)
  | .event (.executed .traverseDirectory path) => some (.leave .directory path)
  | _ => none

/-- The stops that are seen. -/
def stops (seen : Record σ) : List Stop := seen.filterMap (·.stop?)

/-- The text that is staged under a key when something happens. -/
def Happening.staged? (hash : Hasher) (k : PathKey) : Happening σ → Option String
  | .call (.content _ _ (.ok (.stage path data))) => if hash path = k then some data else none
  | _ => none

/-- The text that has been staged last under a key. -/
def lastStaged? (hash : Hasher) (seen : Record σ) (k : PathKey) : Option String :=
  (seen.filterMap (·.staged? hash k)).getLast?

/-- Every content is handed over as what was staged last under the key of its file, or else as what
the file says in the tree; and its handler is told what it has to be told. -/
def HandsOver (hash : Hasher) (t : MemoryTree) (tell : Path → Visit σ) (seen : Record σ) : Prop :=
  ∀ before v data outcome after, seen = before ++ .call (.content v data outcome) :: after →
    v = tell v.path ∧ ∃ content, t.nodes.get? v.path = some (.file content) ∧
      data = (lastStaged? hash before (hash v.path)).getD content

/-- No content is handed over. -/
def HandsNothing (told : Record σ) : Prop :=
  ∀ v data outcome, .call (.content v data outcome) ∉ told

variable {hash : Hasher} {t : MemoryTree} {tell : Path → Visit σ} {seen told : Record σ}
  {k : PathKey}

/-- The stops of two records are those of the first and then those of the second. -/
theorem stops_append (seen told : Record σ) : stops (seen ++ told) = stops seen ++ stops told :=
  List.filterMap_append

/-- No content is handed over without a stop. -/
theorem handsNothing_of_stops (h : ∀ p, .content p ∉ stops told) : HandsNothing told :=
  fun v _ _ hmem => h v.path (List.mem_filterMap.mpr ⟨_, hmem, rfl⟩)

/-- No content is handed over by an event. -/
theorem handsNothing_event (event : Event) : HandsNothing ([.event event] : Record σ) :=
  fun _ _ _ hmem => nomatch List.mem_singleton.mp hmem

/-- Lines for the log are no stops. -/
theorem stops_of_quiet (h : Quiet told) : stops told = [] := by
  rw [stops, List.filterMap_eq_nil_iff]
  intro happening hmem
  obtain ⟨event, rfl, hevent⟩ := h happening hmem
  cases event with
  | executed => exact nomatch hevent
  | _ => rfl

/-- Nothing is staged while no content is handed over. -/
theorem lastStaged?_append (h : HandsNothing told) :
    lastStaged? hash (seen ++ told) k = lastStaged? hash seen k := by
  have hnone : told.filterMap (·.staged? hash k) = [] := by
    rw [List.filterMap_eq_nil_iff]
    intro happening hmem
    unfold Happening.staged?
    split
    · exact absurd hmem (h _ _ _)
    · rfl
  rw [lastStaged?, List.filterMap_append, hnone, List.append_nil]
  rfl

/-- The last text is that of a content that has just been handed over, if that stages one under the
key. -/
theorem lastStaged?_concat (v : Visit σ) (data : String) (outcome : Except Failure DataCommand) :
    lastStaged? hash (seen ++ [.call (.content v data outcome)]) k =
      ((Happening.call (.content v data outcome)).staged? hash k).or (lastStaged? hash seen k) := by
  rw [lastStaged?, List.filterMap_append, List.filterMap_cons, List.filterMap_nil]
  cases (Happening.call (.content v data outcome)).staged? hash k with
  | none =>
    rw [Option.none_or, List.append_nil]
    rfl
  | some text =>
    rw [List.getLast?_concat]
    rfl

/-- Contents are handed over well, if they were before and none is. -/
theorem HandsOver.append (h : HandsOver hash t tell seen) (hn : HandsNothing told) :
    HandsOver hash t tell (seen ++ told) := by
  intro before v data outcome after he
  -- The call is in the first record, for there is none in the second.
  rcases List.append_eq_append_iff.mp he with ⟨more, -, htold⟩ | ⟨more, hseen, hrest⟩
  · exact absurd (by rw [htold]; simp) (hn v data outcome)
  · cases more with
    | nil => exact absurd (by rw [← List.nil_append told, ← hrest]; simp) (hn v data outcome)
    | cons happening more =>
      rw [List.cons_append] at hrest
      obtain ⟨rfl, -⟩ := List.cons.inj hrest
      exact h before v data outcome more hseen

/-- Contents are handed over well, if they were before and one is. -/
theorem HandsOver.concat (h : HandsOver hash t tell seen) {p : Path} {data content : String}
    (outcome : Except Failure DataCommand) (hv : (tell p).path = p)
    (hp : t.nodes.get? p = some (.file content))
    (hdata : data = (lastStaged? hash seen (hash p)).getD content) :
    HandsOver hash t tell (seen ++ [.call (.content (tell p) data outcome)]) := by
  intro before v data' outcome' after he
  -- The call is the last thing that is seen, or it was seen before.
  rcases List.eq_nil_or_concat after with rfl | ⟨after, happening, rfl⟩
  · obtain ⟨rfl, hcall⟩ := List.append_inj' he rfl
    obtain ⟨rfl, rfl, -⟩ := Call.content.inj (Happening.call.inj (List.singleton_inj.mp hcall))
    rw [hv]
    exact ⟨rfl, content, hp, hdata⟩
  · rw [List.concat_eq_append, ← List.cons_append, ← List.append_assoc] at he
    obtain ⟨hseen, -⟩ := List.append_inj' he rfl
    exact h before v data' outcome' after hseen

/-! ## What tasks show -/

/-- The stops of a task that hands over no content. -/
def Task.stops : Task → List Stop
  | .announcement .file path => [.leave .file path]
  | .announcement .directory path => [.leave .directory path]
  | _ => []

/-! ## Handlers of contents -/

/-- A handler of contents leaves the stores alone. -/
theorem DataProgram.stores_run {α : Type} (b : Backing ω) (program : DataProgram ω α)
    (o : Overlay ω) : (program.run b o).2.stores = o.stores := by
  unfold DataProgram.run
  generalize ExceptT.run program = program
  -- There is no question that it could ask, and what else it does leaves the stores as they are.
  induction program generalizing o with
  | done => rfl
  | note text next ih => exact ih _
  | look next ih => exact ih _ o
  | touch change next ih => exact ih _
  | ask question => exact nomatch question

namespace Engine

variable {e : Engine ω σ} {state : Option σ}

/-- What a task shows that hands over no content are its stops. -/
theorem Tells.stops_eq {task : Task} {next : Except RunError (List Task)}
    (h : e.Tells state task next told)
    (hne : ∀ path options, task ≠ .command (.materialize path options)) :
    stops told = task.stops := by
  have hquiet {told : Record σ} (hq : Quiet told) {rest : Record σ} (hrest : stops rest = [])
      (htask : ∀ parent path, task ≠ .announcement parent path) :
      stops (told ++ rest) = task.stops := by
    rw [stops_append, stops_of_quiet hq, hrest]
    cases task with
    | announcement parent path => exact absurd rfl (htask parent path)
    | _ => rfl
  have hcommand {c : Command} := Task.command_ne_announcement c
  cases h with
  | quiet hq htask => exact List.append_nil told ▸ hquiet hq rfl htask
  | refused hq => exact List.append_nil told ▸ hquiet hq rfl hcommand
  | discovered files hq => exact List.append_nil told ▸ hquiet hq rfl hcommand
  | deleted | written => rfl
  | announced parent path => cases parent <;> rfl
  | directory commands hq htask | directoryFails failure hq _ htask =>
    rcases htask with rfl | rfl
    · exact hquiet hq rfl hcommand
    · exact hquiet hq rfl nofun
  | file commands hq => exact hquiet hq rfl hcommand
  | fileFails failure hq => exact hquiet hq rfl hcommand
  | content | contentFails => exact absurd rfl (hne _ _)

/-- The watched engine takes the steps of the engine, and shows what they tell. -/
theorem perform_seen {task : Task} {v : Overlay (Watched ω σ)} {o : Overlay ω}
    {next : Except RunError (List Task)} (h : e.perform state task v.unwatched = (next, o)) :
    ∃ v₁ told, e.watched.perform state task v = (next, v₁) ∧ v₁.unwatched = o ∧
      e.Tells state task next told ∧ v₁.world.seen = v.world.seen ++ told := by
  obtain ⟨hnext, hunwatched, told, htells, hseen⟩ := e.perform_watched state task v
  rw [h] at hnext hunwatched htells
  exact ⟨_, told, Prod.ext hnext rfl, hunwatched, htells, hseen⟩

/-- A program that only gives a result is run, and its call is seen. -/
theorem exists_run_pure {α : Type} (e : Engine ω σ) (a : α) (call : Except Failure α → Call σ)
    (v : Overlay (Watched ω σ)) (hcall : (Happening.call (call (.ok a))).stop? = none) :
    ∃ v₁ told, DataProgram.run e.watched.backing ((pure a : DataProgram ω α).recorded call) v =
        (.ok a, v₁) ∧ v₁.unwatched = v.unwatched ∧ v₁.world.seen = v.world.seen ++ told ∧
      stops told = [] := by
  obtain ⟨hok, hunwatched, told, hquiet, hseen⟩ := DataProgram.run_recorded (b := e.backing)
    (pure a) call (quietSince_unwatched v)
  refine ⟨_, _, Prod.ext hok rfl, hunwatched, hseen, ?_⟩
  rw [stops_append, stops_of_quiet hquiet, List.nil_append, stops, List.filterMap_eq_nil_iff]
  exact List.forall_mem_singleton.mpr hcall

/-! ## Tasks that are done -/

/-- The machine of the watched engine empties a stack, from an overlay and with another; meanwhile
stops are seen. -/
structure Advances (e : Engine ω σ) (state : Option σ) (stack : List Task)
    (v v' : Overlay (Watched ω σ)) (made : List Stop) : Prop where
  /-- The stack is emptied. -/
  works : e.watched.Works state stack v (.ok ()) v'
  /-- The stops are seen. -/
  seen : ∃ told, v'.world.seen = v.world.seen ++ told ∧ stops told = made

variable {v v₁ v' : Overlay (Watched ω σ)} {made made' : List Stop}

/-- Nothing is to be done. -/
theorem Advances.nil (e : Engine ω σ) (state : Option σ) (v : Overlay (Watched ω σ)) :
    e.Advances state [] v v [] :=
  ⟨.done v, [], (List.append_nil _).symm, rfl⟩

/-- One part of a stack is emptied after the other. -/
theorem Advances.append {upper lower : List Task} (hu : e.Advances state upper v v₁ made)
    (hl : e.Advances state lower v₁ v' made') :
    e.Advances state (upper ++ lower) v v' (made ++ made') := by
  obtain ⟨hworks, told, hseen, rfl⟩ := hu
  obtain ⟨hworks', told', hseen', rfl⟩ := hl
  refine ⟨hworks.append_ok hworks', told ++ told', ?_, stops_append told told'⟩
  rw [hseen', hseen, List.append_assoc]

/-- A task is done by its step and then by what follows from it. -/
theorem Advances.step {task : Task} {tasks : List Task}
    (h : e.watched.perform state task v = (.ok tasks, v₁))
    (hseen : v₁.world.seen = v.world.seen ++ told) (ht : e.Advances state tasks v₁ v' made) :
    e.Advances state [task] v v' (stops told ++ made) := by
  obtain ⟨hworks, told', hseen', rfl⟩ := ht
  refine ⟨works_of_perform h hworks, told ++ told', ?_, stops_append told told'⟩
  rw [hseen', hseen, List.append_assoc]

/-- An announcement is made. -/
theorem advances_announcement (e : Engine ω σ) (state : Option σ) (parent : ParentKind) (p : Path)
    (v : Overlay (Watched ω σ)) :
    e.Advances state [.announcement parent p] v
      (v.log e.watched.backing (.executed parent.kind p)) (Task.announcement parent p).stops := by
  have hstep : e.watched.perform state (.announcement parent p) v =
      (.ok [], v.log e.watched.backing (.executed parent.kind p)) := rfl
  have hseen : (v.log e.watched.backing (.executed parent.kind p)).world.seen =
      v.world.seen ++ [.event (.executed parent.kind p)] := rfl
  have h := Advances.step hstep hseen (.nil ..)
  rw [List.append_nil] at h
  cases parent <;> exact h

/-- A task that hands over no content is done by the step of the engine and then by what follows
from it. -/
theorem exists_step (e : Engine ω σ) (state : Option σ) (v : Overlay (Watched ω σ)) {task : Task}
    {tasks : List Task} {o : Overlay ω}
    (hne : ∀ path options, task ≠ .command (.materialize path options))
    (h : e.perform state task v.unwatched = (.ok tasks, o)) :
    ∃ v₁ told, v₁.unwatched = o ∧ v₁.world.seen = v.world.seen ++ told ∧ stops told = task.stops ∧
      ∀ v' made, e.Advances state tasks v₁ v' made →
        e.Advances state [task] v v' (task.stops ++ made) := by
  obtain ⟨v₁, told, hperform, hunwatched, htells, hseen⟩ := perform_seen h
  have hstops := htells.stops_eq hne
  exact ⟨v₁, told, hunwatched, hseen, hstops, fun v' made ht => hstops ▸ .step hperform hseen ht⟩

end Engine

/-! ## The walk -/

/-- A transform over trees in memory that gives only a handler of contents. -/
structure Walker (ω σ : Type) where
  /-- The keys. -/
  hash : Hasher
  /-- The tree that a world shows. -/
  view : ω → MemoryTree
  /-- The handler of contents. -/
  handleData : Visit σ → String → DataProgram ω DataCommand
  /-- What handlers are shown. -/
  dependencies : Dependencies

namespace Walker

/-- The engine of the transform; all but the handler of contents is by default. -/
def engine (w : Walker ω σ) : Engine ω σ where
  backing := .ofMemory w.hash w.view
  transform := { handleData := w.handleData }
  dependencies := w.dependencies

/-- What handlers are told of a path. -/
def visit (w : Walker ω σ) (state : Option σ) (options : Options) (p : Path) : Visit σ :=
  ⟨p, options, state, w.dependencies⟩

/-- The handler of contents leaves a tree alone that the world shows. -/
def Leaves (w : Walker ω σ) (t : MemoryTree) : Prop :=
  ∀ v data o, w.view o.world = t →
    w.view ((w.handleData v data).run (.ofMemory w.hash w.view) o).2.world = t

/-- A tree of absolute paths that are text, and keys that tell its nodes apart. -/
structure Suits (w : Walker ω σ) (t : MemoryTree) : Prop where
  /-- The tree is sound, and its paths are absolute. -/
  upright : t.Upright
  /-- The names are text. -/
  isSome_decode? : ∀ q, (t.nodes.get? q).isSome → ∀ n, .normal n ∈ q.components →
    (Utf8.decode? n).isSome
  /-- No two nodes share a key. -/
  eq_of_hash : ∀ p q, (t.nodes.get? p).isSome → (t.nodes.get? q).isSome → w.hash p = w.hash q →
    p = q

/-- What is kept on a walk: by an overlay and what has been seen. -/
structure Keeps (w : Walker ω σ) (t : MemoryTree) (state : Option σ) (options : Options)
    (o : Overlay ω) (seen : Record σ) : Prop where
  /-- The world shows the tree. -/
  view_eq : w.view o.world = t
  /-- What is staged are the last texts that have been staged. -/
  get?_eq : ∀ k, o.stores.changes.get? k = (lastStaged? w.hash seen k).map .write
  /-- To every directory none or all of its children have been related. -/
  related : ∀ p, t.nodes.get? p = some .directory →
    o.stores.relations.childrenOf (w.hash p) = [] ∨
      o.stores.relations.childrenOf (w.hash p) = (t.childrenOf p).map fun q => w.hash q.1
  /-- Contents have been handed over well. -/
  handsOver : HandsOver w.hash t (w.visit state options) seen

variable {w : Walker ω σ} {state : Option σ} {options : Options} {o o' : Overlay ω} {p : Path}
  {content : String} {v v₁ : Overlay (Watched ω σ)}

/-- The keys tell the children of a directory apart. -/
theorem Suits.nodup_childrenOf (h : w.Suits t) (p : Path) :
    ((t.childrenOf p).map fun q => w.hash q.1).Nodup := by
  have hnodup := (MemoryTree.nodup_childrenOf t p).map_on fun q hq q' hq' he => by
    obtain ⟨⟨q, node⟩, hmem, rfl⟩ := List.mem_map.mp hq
    obtain ⟨⟨q', node'⟩, hmem', rfl⟩ := List.mem_map.mp hq'
    exact h.eq_of_hash q q' (by rw [MemoryTree.get?_of_mem_childrenOf _ hmem]; rfl)
      (by rw [MemoryTree.get?_of_mem_childrenOf _ hmem']; rfl) he
  rw [List.map_map] at hnodup
  exact hnodup

/-- What is kept stays kept if nothing is staged and no child is related. -/
theorem Keeps.append (h : w.Keeps t state options o seen) (hn : HandsNothing told)
    (hview : w.view o'.world = w.view o.world) (hchanges : o'.stores.changes = o.stores.changes)
    (hrelations : o'.stores.relations = o.stores.relations) :
    w.Keeps t state options o' (seen ++ told) where
  view_eq := hview.trans h.view_eq
  get?_eq k := by rw [hchanges, h.get?_eq, lastStaged?_append hn]
  related p hp := by
    rw [hrelations]
    exact h.related p hp
  handsOver := h.handsOver.append hn

/-! ## Contents -/

/-- A file is read as what was staged last under its key, or else as what it says in the tree. -/
theorem Keeps.read_eq (h : w.Keeps t state options o seen) (ht : t.Upright)
    (hp : t.nodes.get? p = some (.file content)) :
    o.read (.ofMemory w.hash w.view) p =
      (.ok ((lastStaged? w.hash seen (w.hash p)).getD content), o) := by
  have hchange := h.get?_eq (w.hash p)
  cases hstaged : lastStaged? w.hash seen (w.hash p) with
  | none =>
    rw [hstaged] at hchange
    refine (Backing.still_ofMemory w.hash w.view).read_of_unstaged hchange ?_
    show (w.view o.world).read p = .ok content
    rw [h.view_eq, MemoryTree.read, ht.node?_eq (ht.isAbsolute p (by rw [hp]; rfl)) hp]
  | some text =>
    rw [hstaged] at hchange
    unfold Overlay.read
    rw [Backing.hash_ofMemory, hchange]
    rfl

/-- What is kept stays kept when a content is handed over and what its handler orders is staged. -/
theorem Keeps.handOver (h : w.Keeps t state options o seen)
    (hp : t.nodes.get? p = some (.file content)) {data : String}
    (hdata : data = (lastStaged? w.hash seen (w.hash p)).getD content)
    (outcome : Except Failure DataCommand) (hn : HandsNothing told) (hview : w.view o'.world = t)
    (hrelations : o'.stores.relations = o.stores.relations)
    (hchanges : ∀ k, o'.stores.changes.get? k =
      (((Happening.call (.content (w.visit state options p) data outcome)).staged? w.hash k).map
        .write).or (o.stores.changes.get? k)) :
    w.Keeps t state options o'
      (seen ++ .call (.content (w.visit state options p) data outcome) :: told) where
  view_eq := hview
  get?_eq k := by
    rw [List.append_cons, lastStaged?_append hn, lastStaged?_concat, hchanges, h.get?_eq,
      Option.map_or]
  related q hq := by
    rw [hrelations]
    exact h.related q hq
  handsOver := by
    rw [List.append_cons]
    exact (h.handsOver.concat outcome rfl hp hdata).append hn

/-- A content is read and its handler called: what is seen of that, and what follows. -/
theorem Keeps.exists_call (h : w.Keeps t state options v.unwatched v.world.seen) (ht : t.Upright)
    (hleaves : w.Leaves t) (hp : t.nodes.get? p = some (.file content)) {data : String}
    (hdata : data = (lastStaged? w.hash v.world.seen (w.hash p)).getD content) :
    ∃ v₁ outcome told, w.engine.watched.perform state (.command (.materialize p options)) v =
        (.ok (outcome.toOption.toList.map (.command ·.widen) ++ [.announcement .content p]), v₁) ∧
      v₁.stores = v.stores ∧ w.view v₁.world.world = t ∧ Quiet told ∧
      v₁.world.seen = v.world.seen ++ (told ++ .call (.content (w.visit state options p) data
        outcome) :: Engine.containment p outcome) := by
  have hread := h.read_eq ht hp
  rw [← hdata] at hread
  have hstores := DataProgram.stores_run (.ofMemory w.hash w.view)
    (w.handleData (w.visit state options p) data) v.unwatched
  have hview := hleaves (w.visit state options p) data v.unwatched h.view_eq
  generalize hrun : (w.handleData (w.visit state options p) data).run (.ofMemory w.hash w.view)
    v.unwatched = ran at hstores hview
  obtain ⟨outcome, o⟩ := ran
  have hplain : w.engine.performContent state p options v.unwatched =
      (.ok (outcome.toOption.toList.map (.command ·.widen) ++ [.announcement .content p]),
        (w.engine.contain p (outcome, o)).2) :=
    Engine.perform_materialize (e := w.engine) hread hrun
  obtain ⟨hnext, hunwatched, told, hquiet, hseen⟩ := w.engine.performContent_shows state p options
    (quietSince_unwatched v) hread hrun
  rw [hplain] at hnext hunwatched
  -- Containing a failure changes the journal only.
  have hcontain : (w.engine.contain p (outcome, o)).2.stores = o.stores ∧
      (w.engine.contain p (outcome, o)).2.world = o.world := by
    cases outcome <;> exact ⟨rfl, rfl⟩
  refine ⟨_, outcome, told, Prod.ext hnext rfl, ?_, ?_, hquiet, hseen⟩
  · exact (congrArg (fun o : Overlay ω => o.stores) hunwatched).trans (hcontain.1.trans hstores)
  · refine (congrArg (fun o : Overlay ω => w.view o.world) hunwatched).trans ?_
    exact (congrArg w.view hcontain.2).trans hview

/-- The order of a handler of contents is carried out: then what is staged is what it stages, and
what was staged. -/
theorem exists_advances_order (w : Walker ω σ) (state : Option σ) (v : Overlay (Watched ω σ))
    (told : Visit σ) (data : String) (outcome : Except Failure DataCommand) :
    ∃ v', w.engine.Advances state (outcome.toOption.toList.map (.command ·.widen)) v v' [] ∧
      v'.world.world = v.world.world ∧ v'.stores.relations = v.stores.relations ∧
      ∀ k, v'.stores.changes.get? k =
        (((Happening.call (.content told data outcome)).staged? w.hash k).map .write).or
          (v.stores.changes.get? k) := by
  cases outcome with
  | error failure => exact ⟨v, .nil .., rfl, rfl, fun k => rfl⟩
  | ok command =>
    have hne : ∀ path options,
        Task.command command.widen ≠ .command (.materialize path options) := by
      cases command <;> exact nofun
    cases command with
    | noop =>
      obtain ⟨v', -, hunwatched, -, -, hadvances⟩ :=
        w.engine.exists_step state v hne rfl
      have hstores : v'.stores = v.stores := congrArg (fun o : Overlay ω => o.stores) hunwatched
      exact ⟨v', hadvances _ _ (.nil ..), congrArg (fun o : Overlay ω => o.world) hunwatched,
        by rw [hstores], fun k => by rw [hstores]; rfl⟩
    | stage path text =>
      obtain ⟨v', -, hunwatched, -, -, hadvances⟩ :=
        w.engine.exists_step state v hne rfl
      have hstores : v'.stores =
          (v.unwatched.stageWrite (.ofMemory w.hash w.view) path text).stores :=
        congrArg (fun o : Overlay ω => o.stores) hunwatched
      refine ⟨v', hadvances _ _ (.nil ..), congrArg (fun o : Overlay ω => o.world) hunwatched,
        by rw [hstores]; rfl, fun k => ?_⟩
      rw [hstores, stageWrite, get?_stageChange, Backing.hash_ofMemory, Happening.staged?]
      split <;> rfl

/-- A content is handed over, and what its handler orders is carried out. -/
theorem Keeps.exists_advances_content (h : w.Keeps t state options v.unwatched v.world.seen)
    (ht : t.Upright) (hleaves : w.Leaves t) (hp : t.nodes.get? p = some (.file content)) :
    ∃ v', w.engine.Advances state [.command (.materialize p options)] v v' [.content p] ∧
      w.Keeps t state options v'.unwatched v'.world.seen := by
  generalize hdata : (lastStaged? w.hash v.world.seen (w.hash p)).getD content = data
  obtain ⟨v₁, outcome, told, hperform, hstores, hview, hquiet, hseen⟩ :=
    h.exists_call ht hleaves hp hdata.symm
  obtain ⟨v₂, horder, hworld, hrelations, hchanges⟩ :=
    w.exists_advances_order state v₁ (w.visit state options p) data outcome
  have hrest := horder.append (Engine.advances_announcement w.engine state .content p v₂)
  obtain ⟨told', hseen', hstops'⟩ := hrest.seen
  have hcall : stops (.call (.content (w.visit state options p) data outcome) ::
      Engine.containment p outcome) = [.content p] := by
    cases outcome <;> rfl
  refine ⟨v₂.log w.engine.watched.backing (.executed .materialize p), ?_, ?_⟩
  · have hadvances := hrest.step hperform hseen
    rw [stops_append, stops_of_quiet hquiet, hcall] at hadvances
    exact hadvances
  · have hquietly : HandsNothing told :=
      handsNothing_of_stops (by rw [stops_of_quiet hquiet]; exact nofun)
    have hnothing : HandsNothing (Engine.containment p outcome ++ told') := by
      refine handsNothing_of_stops fun q hq => ?_
      rw [stops_append, hstops'] at hq
      cases outcome <;> exact nomatch hq
    -- Lines for the log come before the call, and what is carried out comes after it.
    have hbefore : w.Keeps t state options v.unwatched (v.world.seen ++ told) :=
      h.append hquietly rfl rfl rfl
    have hafter : w.Keeps t state options
        (v₂.log w.engine.watched.backing (.executed .materialize p)).unwatched _ :=
      hbefore.handOver hp (by rw [lastStaged?_append hquietly, hdata]) outcome hnothing
        ((congrArg w.view hworld).trans hview) (hrelations.trans (by rw [hstores]; rfl))
        (fun k => (hchanges k).trans (by rw [hstores]; rfl))
    have hrecord : v.world.seen ++ told ++
        .call (.content (w.visit state options p) data outcome) ::
          (Engine.containment p outcome ++ told') =
            (v₂.log w.engine.watched.backing (.executed .materialize p)).world.seen := by
      refine Eq.trans ?_ hseen'.symm
      rw [hseen]
      simp only [List.append_assoc, List.cons_append]
    exact hrecord ▸ hafter

/-! ## Files -/

/-- A recorded file is traversed: its content is handed over, and then the file is left. -/
theorem Keeps.exists_advances_file (h : w.Keeps t state options v.unwatched v.world.seen)
    (ht : t.Upright) (hleaves : w.Leaves t) (hp : t.nodes.get? p = some (.file content))
    (hknown : (v.stores.entries.get? (w.hash p)).isSome) :
    ∃ v', w.engine.Advances state [.command (.traverseFile p options)] v v'
        [.content p, .leave .file p] ∧
      w.Keeps t state options v'.unwatched v'.world.seen := by
  obtain ⟨v₁, told, hunwatched, hseen, hstops, hstep⟩ := w.engine.exists_step state v
    (by exact fun _ _ => nofun)
    (Engine.perform_defaultFile (fun _ => rfl) options state hknown)
  have h₁ : w.Keeps t state options v₁.unwatched v₁.world.seen := by
    rw [hseen, hunwatched]
    exact h.append (handsNothing_of_stops (by rw [hstops]; exact nofun)) rfl rfl rfl
  obtain ⟨v₂, hcontent, h₂⟩ := h₁.exists_advances_content ht hleaves hp
  have hannounced := Engine.advances_announcement w.engine state .file p v₂
  refine ⟨_, hstep _ _ (hcontent.append hannounced), ?_⟩
  exact h₂.append (handsNothing_event (.executed .traverseFile p)) rfl rfl rfl

/-! ## Directories -/

/-- The traversal of a node. -/
def traversal (options : Options) (q : Path × MemoryNode) : Task :=
  .command (Engine.rootCommand q.1 options q.2.kind)

/-- A recorded directory is listed: its children are recorded and related to it, and then they are
to be traversed. -/
theorem Keeps.perform_directory (h : w.Keeps t state options o seen) (ht : w.Suits t)
    (hp : t.nodes.get? p = some .directory)
    (hknown : (o.stores.entries.get? (w.hash p)).isSome) :
    w.engine.perform state (.command (.traverseDirectory p options)) o =
      (.ok ((t.childrenOf p).map (traversal options) ++ [.announcement .directory p]),
        o.recordNodes w.hash p (t.childrenOf p)) := by
  obtain ⟨entry, hentry⟩ := Option.isSome_iff_exists.mp hknown
  have hlist := list_ofMemory ht.upright ht.isSome_decode? h.view_eq hp (ht.nodup_childrenOf p)
    (h.related p hp)
  -- Each child is asked for when it has just been recorded.
  have hchild : ∀ q ∈ t.childrenOf p, (childCommand (.ofMemory w.hash w.view)
      (o.recordNodes w.hash p (t.childrenOf p)) options q.1).widen =
        Engine.rootCommand q.1 options q.2.kind := by
    intro q hq
    have hget := get?_recordNodes (o := o) (p := p) (ht.nodup_childrenOf p) q hq
    unfold childCommand isDirectory Entries.kind?
    rw [Backing.hash_ofMemory, hget]
    obtain ⟨q, node⟩ := q
    cases node <;> rfl
  have hrun : (w.engine.transform.handleDirectory (w.engine.visit state p options)).run
      (.ofMemory w.hash w.view) o = _ :=
    run_traverseChildren (.ofMemory w.hash w.view) hlist options
  have htasks : (((t.childrenOf p).map (·.1)).map (childCommand (.ofMemory w.hash w.view)
      (o.recordNodes w.hash p (t.childrenOf p)) options)).map (Task.command ·.widen) =
        (t.childrenOf p).map (traversal options) := by
    rw [List.map_map, List.map_map]
    exact List.map_congr_left fun q hq => congrArg Task.command (hchild q hq)
  rw [Engine.perform, if_pos (show w.engine.transform.includes.isEmpty = true from rfl),
    Engine.performDirectory, classifyDirectory,
    show w.engine.backing = .ofMemory w.hash w.view from rfl, classifyAs_of_get? .directory hentry]
  dsimp only
  rw [if_pos (show w.engine.transform.handlesDirectories = true from rfl), hrun]
  dsimp only
  rw [htasks]

/-- A recorded directory is listed, and what is kept stays kept; its children are recorded. -/
theorem Keeps.exists_step_directory (h : w.Keeps t state options v.unwatched v.world.seen)
    (ht : w.Suits t) (hp : t.nodes.get? p = some .directory)
    (hknown : (v.stores.entries.get? (w.hash p)).isSome) :
    ∃ v₁, (∀ v' made, w.engine.Advances state
        ((t.childrenOf p).map (traversal options) ++ [.announcement .directory p]) v₁ v' made →
        w.engine.Advances state [.command (.traverseDirectory p options)] v v' made) ∧
      w.Keeps t state options v₁.unwatched v₁.world.seen ∧
      (∀ q ∈ t.childrenOf p, (v₁.stores.entries.get? (w.hash q.1)).isSome) ∧
      ∀ k, (v.stores.entries.get? k).isSome → (v₁.stores.entries.get? k).isSome := by
  obtain ⟨v₁, told, hunwatched, hseen, hstops, hstep⟩ := w.engine.exists_step state v
    (by exact fun _ _ => nofun) (h.perform_directory ht hp hknown)
  have hstores : v₁.stores = (v.unwatched.recordNodes w.hash p (t.childrenOf p)).stores :=
    congrArg (fun o : Overlay ω => o.stores) hunwatched
  obtain ⟨hworld, -, hchanges⟩ := recordNodes_rest w.hash p (t.childrenOf p) v.unwatched
  have hnothing : HandsNothing told := handsNothing_of_stops (by rw [hstops]; exact nofun)
  refine ⟨v₁, hstep, ⟨?_, fun k => ?_, fun q hq => ?_, ?_⟩, fun q hq => ?_, fun k hk => ?_⟩
  · rw [hunwatched, hworld]
    exact h.view_eq
  · rw [hunwatched, hchanges, hseen, lastStaged?_append hnothing]
    exact h.get?_eq k
  · -- The children of this directory are related now, and those of the others are as before.
    rw [hunwatched]
    by_cases he : w.hash p = w.hash q
    · obtain rfl := ht.eq_of_hash p q (by rw [hp]; rfl) (by rw [hq]; rfl) he
      exact Or.inr (childrenOf_recordNodes (ht.nodup_childrenOf p) (h.related p hp))
    · rw [relations_recordNodes, Relations.childrenOf_foldl_relate_of_ne _ he]
      exact h.related q hq
  · rw [hseen]
    exact h.handsOver.append hnothing
  · rw [hstores, get?_recordNodes (ht.nodup_childrenOf p) q hq]
    rfl
  · rw [hstores]
    exact isSome_get?_recordNodes hk

/-- A walk is made by the machine: the traversals of its nodes make its stops. -/
theorem Keeps.exists_advances (ht : w.Suits t) (hleaves : w.Leaves t)
    {nodes : List (Path × MemoryNode)} {made : List Stop} (hw : t.Walks nodes made)
    (hnodes : ∀ q ∈ nodes, t.nodes.get? q.1 = some q.2)
    (h : w.Keeps t state options v.unwatched v.world.seen)
    (hknown : ∀ q ∈ nodes, (v.stores.entries.get? (w.hash q.1)).isSome) :
    ∃ v', w.engine.Advances state (nodes.map (traversal options)) v v' made ∧
      w.Keeps t state options v'.unwatched v'.world.seen := by
  induction hw generalizing v with
  | nil => exact ⟨v, .nil .., h⟩
  | @file p content rest made _ ih =>
    rw [List.forall_mem_cons] at hnodes hknown
    obtain ⟨v₁, hfile, h₁⟩ := h.exists_advances_file ht.upright hleaves hnodes.1 hknown.1
    -- Whatever has been staged meanwhile, the nodes that are left stay recorded.
    obtain ⟨v', hrest, h'⟩ := ih hnodes.2 h₁ fun q hq =>
      hfile.works.moves.isSome_get? (hknown.2 q hq)
    exact ⟨v', hfile.append hrest, h'⟩
  | @directory p rest inner made _ _ ihinner ih =>
    rw [List.forall_mem_cons] at hnodes hknown
    obtain ⟨v₁, hstep, h₁, hchildren, hknown₁⟩ := h.exists_step_directory ht hnodes.1 hknown.1
    -- The listing has recorded the children, so the walk through them goes on from there.
    obtain ⟨v₂, hinner, h₂⟩ := ihinner MemoryTree.get?_of_mem_childrenOf h₁ hchildren
    have hleft := Engine.advances_announcement w.engine state .directory p v₂
    have h₃ : w.Keeps t state options
        (v₂.log w.engine.watched.backing (.executed .traverseDirectory p)).unwatched _ :=
      h₂.append (handsNothing_event (.executed .traverseDirectory p)) rfl rfl rfl
    have hdirectory := hstep _ _ (hinner.append hleft)
    obtain ⟨v', hrest, h'⟩ := ih hnodes.2 h₃ fun q hq =>
      hdirectory.works.moves.isSome_get? (hknown.2 q hq)
    have hall := hdirectory.append hrest
    rw [List.append_assoc] at hall
    exact ⟨v', hall, h'⟩

/-! ## Runs -/

/-- A run from a fresh overlay finds its root, a directory of the tree, and then its state is that
of before: no stop has been seen yet, and nothing has been recorded but the root. -/
theorem exists_start (w : Walker ω σ) {x : ω} {root : Path} (ht : w.Suits (w.view x))
    (hroot : (w.view x).nodes.get? root = some .directory) (options : Options)
    (previous : Option σ) :
    ∃ v v₁, (Overlay.new x).watched.classify w.engine.watched.backing root =
        (some ⟨.directory, root⟩, v) ∧
      (w.engine.watched.transform.initializeState options previous).run w.engine.watched.backing v =
        (.ok previous, v₁) ∧
      stops v₁.world.seen = [] ∧ v₁.world.world = x ∧
      v₁.stores = ((Overlay.new x).record (w.hash root) ⟨.directory, root⟩).stores := by
  have hclassify := classify_directory_ofMemory w.hash w.view (o := .new x) rfl
    (ht.upright.node?_eq (ht.upright.isAbsolute root (by rw [hroot]; rfl)) hroot)
  obtain ⟨found, v, o, h₁, h₂, hv⟩ := ((quietSince_unwatched (Overlay.new x).watched).classify
    (w.engine.backing.watched_alike _) root).exists_eq
  obtain ⟨rfl, rfl⟩ := Prod.mk.inj (hclassify.symm.trans h₂)
  obtain ⟨-, told, hquiet, hseen⟩ := hv.world
  obtain ⟨v₁, told₁, hstate, hunwatched₁, hseen₁, hstops₁⟩ :=
    w.engine.exists_run_pure previous (.newState options previous) v rfl
  have hfound := hunwatched₁.trans (Overlay.QuietSince.unwatched_eq hv)
  refine ⟨v, v₁, h₁, hstate, ?_, congrArg (fun o : Overlay ω => o.world) hfound,
    congrArg (fun o : Overlay ω => o.stores) hfound⟩
  rw [hseen₁, stops_append, hstops₁, hseen, stops_append, stops_of_quiet hquiet]
  rfl

/-- At the start nothing is staged, no child is related and nothing has been seen. -/
theorem keeps_new (w : Walker ω σ) (state : Option σ) (options : Options) (x : ω) :
    w.Keeps (w.view x) state options (.new x) [] where
  view_eq := rfl
  get?_eq _ := rfl
  related _ _ := Or.inl rfl
  handsOver before _ _ _ _ he := by
    cases before <;> exact nomatch he

/-- The sweep of the first pass makes a walk from the root, and what is kept stays kept. -/
theorem exists_sweeps (w : Walker ω σ) {x : ω} {root : Path} (ht : w.Suits (w.view x))
    (hroot : (w.view x).nodes.get? root = some .directory) (hleaves : w.Leaves (w.view x))
    (options : Options) (previous : Option σ) {made : List Stop}
    (hw : (w.view x).Walks [(root, .directory)] made) :
    ∃ v, w.engine.watched.Sweeps root options 1 previous (Overlay.new x).watched previous (.ok ())
        v ∧
      stops v.world.seen = made ∧
      w.Keeps (w.view x) previous options v.unwatched v.world.seen := by
  obtain ⟨v, v₁, hclassify, hstate, hbefore, hworld, hstores⟩ :=
    w.exists_start ht hroot options previous
  have hpassed : stops (v₁.log w.engine.watched.backing (.passStarted 1 root)).world.seen = [] := by
    rw [Engine.seen_log, stops_append, hbefore]
    rfl
  have hchanges : v₁.stores.changes = (Overlay.new x).stores.changes := by
    rw [hstores]
    rfl
  have hrelations : v₁.stores.relations = (Overlay.new x).stores.relations := by
    rw [hstores]
    rfl
  have hknown : ∀ q ∈ [(root, MemoryNode.directory)],
      (v₁.stores.entries.get? (w.hash q.1)).isSome := by
    refine List.forall_mem_singleton.mpr ?_
    rw [hstores, get?_record, if_pos rfl]
    rfl
  have hstart : w.Keeps (w.view x) previous options
      (v₁.log w.engine.watched.backing (.passStarted 1 root)).unwatched
      (v₁.log w.engine.watched.backing (.passStarted 1 root)).world.seen := by
    have hnothing : HandsNothing
        (v₁.log w.engine.watched.backing (.passStarted 1 root)).world.seen :=
      handsNothing_of_stops (by rw [hpassed]; exact nofun)
    exact (w.keeps_new previous options x).append hnothing (congrArg w.view hworld) hchanges
      hrelations
  obtain ⟨v₂, hadvances, hend⟩ :=
    hstart.exists_advances ht hleaves hw (List.forall_mem_singleton.mpr hroot) hknown
  obtain ⟨told, hseen, hmade⟩ := hadvances.seen
  refine ⟨v₂, .sweep hclassify hstate hadvances.works, ?_, hend⟩
  rw [hseen, stops_append, hpassed, hmade, List.nil_append]

/-- A transform that gives only a handler of contents walks over the tree: over every tree of
absolute paths that are text, from every directory of it, with keys that tell its nodes apart, a run
from a fresh overlay ends well as long as the handler leaves the tree alone. What is seen of the run
are the stops of a walk from its root, children in the order in which they were made; these are the
stops that the tree has at or below the root, each once, and directories are left after everything
beneath them; and every content is handed over as what was staged last under the key of its file, or
else as what the file says. -/
theorem walks_over_tree (w : Walker ω σ) (root : Path) (options : Options) (previous : Option σ)
    (x : ω) (hreachable : (w.view x).Reachable)
    (habsolute : ∀ q, ((w.view x).nodes.get? q).isSome → q.isAbsolute = true)
    (htext : ∀ q, ((w.view x).nodes.get? q).isSome → ∀ n, .normal n ∈ q.components →
      (Utf8.decode? n).isSome)
    (hhash : ∀ p q, ((w.view x).nodes.get? p).isSome → ((w.view x).nodes.get? q).isSome →
      w.hash p = w.hash q → p = q)
    (hroot : (w.view x).nodes.get? root = some .directory) (hleaves : w.Leaves (w.view x)) :
    ∃ plan o' seen, w.engine.EndsSeen root options previous (.new x) (.ok plan) o' seen ∧
      (w.view x).Walks [(root, .directory)] (stops seen) ∧
      (w.view x).Covers root (stops seen) ∧
      HandsOver w.hash (w.view x) (w.visit previous options) seen := by
  have ht : w.Suits (w.view x) :=
    ⟨{ toSound := hreachable.sound, isAbsolute := habsolute }, htext, hhash⟩
  have hnodes : ∀ q ∈ [(root, MemoryNode.directory)], (w.view x).nodes.get? q.1 = some q.2 :=
    List.forall_mem_singleton.mpr hroot
  obtain ⟨made, hw⟩ := ht.upright.exists_walks hnodes
  obtain ⟨v, hsweep, hmade, hkeeps⟩ := w.exists_sweeps ht hroot hleaves options previous hw
  -- The decision is to stop, which is the default.
  obtain ⟨v₁, told, hfinish, -, hseen, hstops⟩ :=
    w.engine.exists_run_pure .stop (.decision options previous) v rfl
  have hruns : w.engine.watched.Runs root options 1 previous (Overlay.new x).watched (.ok v₁.plan)
      (v₁.log w.engine.watched.backing (.finished 1 v₁.plan.length v₁.sizes.entries)) :=
    .stops hsweep hfinish
  have hall : stops (v₁.log w.engine.watched.backing
      (.finished 1 v₁.plan.length v₁.sizes.entries)).world.seen = made := by
    rw [Engine.seen_log, stops_append, hseen, stops_append, hstops, hmade, List.append_nil]
    exact List.append_nil made
  have hhanded : HandsOver w.hash (w.view x) (w.visit previous options)
      (v₁.log w.engine.watched.backing
        (.finished 1 v₁.plan.length v₁.sizes.entries)).world.seen := by
    rw [Engine.seen_log, hseen]
    exact (hkeeps.handsOver.append (handsNothing_of_stops (by rw [hstops]; exact nofun))).append
      (handsNothing_event _)
  refine ⟨v₁.plan, _, _, ⟨_, Engine.ends_iff_runs.mpr (Or.inr hruns), rfl, rfl⟩, ?_⟩
  rw [hall]
  exact ⟨hw, ht.upright.covers hroot hw, hhanded⟩

/-! ## A file in the place of a directory -/

/-- A directory with a file and, after it, a directory with another. -/
def nested : MemoryTree :=
  ((MemoryTree.new.write (.ofString "/r/a") "1").2.write (.ofString "/r/d/b") "2").2

/-- The paths of its nodes. -/
def nestedPaths : List Path :=
  [.ofString "/", .ofString "/r", .ofString "/r/a", .ofString "/r/d", .ofString "/r/d/b"]

/-- A handler of contents that stages a file in the place of the directory when it is given the
first text, and refuses any other. -/
def usurping : Walker MemoryTree Unit where
  hash := PathKey.ofPath
  view := id
  handleData _ data :=
    if data = "1" then pure (.stage (.ofString "/r/d") "3") else throw (.stated "refused")
  dependencies := .empty

/-- The handler asks for nothing and changes nothing. -/
theorem leaves_usurping (t : MemoryTree) : usurping.Leaves t := by
  rintro v data o rfl
  unfold usurping
  dsimp only
  split <;> rfl

/-- Every node is one of the five. -/
theorem mem_nestedPaths {p : Path} (h : (nested.nodes.get? p).isSome) : p ∈ nestedPaths := by
  have hmem := OrderedMap.mem_keys_of_isSome h
  rwa [show nested.nodes.keys = nestedPaths by decide +kernel] at hmem

/-- The walk from the outer directory. -/
theorem walks_nested :
    nested.Walks [(.ofString "/r", .directory)]
      [.content (.ofString "/r/a"), .leave .file (.ofString "/r/a"),
        .content (.ofString "/r/d/b"), .leave .file (.ofString "/r/d/b"),
        .leave .directory (.ofString "/r/d"), .leave .directory (.ofString "/r")] := by
  have hinner : nested.Walks (nested.childrenOf (.ofString "/r/d"))
      [.content (.ofString "/r/d/b"), .leave .file (.ofString "/r/d/b")] := by
    rw [show nested.childrenOf (.ofString "/r/d") = [(.ofString "/r/d/b", .file "2")] by
      decide +kernel]
    exact .file .nil
  have houter : nested.Walks (nested.childrenOf (.ofString "/r"))
      [.content (.ofString "/r/a"), .leave .file (.ofString "/r/a"),
        .content (.ofString "/r/d/b"), .leave .file (.ofString "/r/d/b"),
        .leave .directory (.ofString "/r/d")] := by
    rw [show nested.childrenOf (.ofString "/r") =
      [(.ofString "/r/a", .file "1"), (.ofString "/r/d", .directory)] by decide +kernel]
    exact .file (.directory hinner .nil)
  exact .directory houter .nil

/-- The directory is walked through although a file has been staged in its place, and the run ends
well although the other file is refused. -/
theorem walks_over_tree_nested :
    ∃ plan o' seen, usurping.engine.EndsSeen (.ofString "/r") .empty none (.new nested) (.ok plan)
        o' seen ∧
      stops seen = [.content (.ofString "/r/a"), .leave .file (.ofString "/r/a"),
        .content (.ofString "/r/d/b"), .leave .file (.ofString "/r/d/b"),
        .leave .directory (.ofString "/r/d"), .leave .directory (.ofString "/r")] ∧
      nested.Covers (.ofString "/r") (stops seen) ∧
      HandsOver PathKey.ofPath nested (usurping.visit none .empty) seen := by
  have hreachable : nested.Reachable := (MemoryTree.Reachable.new.write _ _).write _ _
  have habsolute : ∀ p ∈ nestedPaths, p.isAbsolute = true := by decide +kernel
  have htext : ∀ p ∈ nestedPaths, ∀ c ∈ p.components, (Utf8.decode? c.bytes).isSome := by
    decide +kernel
  have hhash : ∀ p ∈ nestedPaths, ∀ q ∈ nestedPaths,
      PathKey.ofPath p = PathKey.ofPath q → p = q := by decide +kernel
  obtain ⟨plan, o', seen, hends, hwalks, hcovers, hhanded⟩ :=
    usurping.walks_over_tree (.ofString "/r") .empty none nested hreachable
      (fun q hq => habsolute q (mem_nestedPaths hq))
      (fun q hq n hn => htext q (mem_nestedPaths hq) (.normal n) hn)
      (fun p q hp hq => hhash p (mem_nestedPaths hp) q (mem_nestedPaths hq))
      (by decide +kernel) (leaves_usurping nested)
  exact ⟨plan, o', seen, hends, hwalks.unique walks_nested, hcovers, hhanded⟩

end Walker

end TreePlan
