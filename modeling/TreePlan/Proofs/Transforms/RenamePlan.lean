import Mathlib
import TreePlan.Proofs.MemoryTree.Discovery
import TreePlan.Proofs.MemoryTree.Shape
import TreePlan.Proofs.Overlay.Still
import TreePlan.Proofs.Path.Extension
import TreePlan.Proofs.Text.Canonical
import TreePlan.Proofs.Transforms.Renaming

/-!
# The plan of a renaming

What a run that renames extensions plans over a tree in memory is read off the tree: each discovered
file with the extension, in order, is deleted and written at its target (`MemoryTree.movingSteps`),
unless there is a node at the target, which is a failure (`MemoryTree.conflict?`). This holds if the
keys tell the normal forms of the paths apart that the renaming is about (`Engine.moving_plans`).
Keys of composed text do not: a target then exists that is only equal to a node up to composition
(`Engine.moving_plans_composed`).
-/

namespace TreePlan

open Overlay TreePlan.Path

namespace MemoryTree

variable {t : MemoryTree} {source target : List UInt8} {p new : Path}

/-- The steps that moving a file to another extension takes: its deletion and a write of its content
at the target, unless there is a node at the target. -/
def movingSteps (t : MemoryTree) (source target : List UInt8) (p : Path) : Plan :=
  if p.extension? = some source then
    match p.withExtension? target, t.node? p with
    | some new, some (.file content) =>
      if (t.node? new).isSome then [] else [.delete p, .write new content]
    | _, _ => []
  else []

/-- The failure of moving a file to another extension, if there is a node at the target. -/
def conflict? (t : MemoryTree) (source target : List UInt8) (p : Path) : Option (Path × Failure) :=
  if p.extension? = some source then
    match p.withExtension? target with
    | some new =>
      if (t.node? new).isSome then some (p, .stated (new.toText ++ " already exists")) else none
    | none => none
  else none

/-- Nothing is done with a file that has another extension. -/
theorem movingSteps_other (h : p.extension? ≠ some source) :
    t.movingSteps source target p = [] ∧ t.conflict? source target p = none := by
  rw [movingSteps, conflict?, if_neg h, if_neg h]
  exact ⟨rfl, rfl⟩

/-- A node at the target is a failure. -/
theorem movingSteps_taken (hsource : p.extension? = some source)
    (hnew : p.withExtension? target = some new) (h : (t.node? new).isSome) :
    t.movingSteps source target p = [] ∧
      t.conflict? source target p = some (p, .stated (new.toText ++ " already exists")) := by
  rw [movingSteps, conflict?, if_pos hsource, if_pos hsource, hnew]
  dsimp only
  rw [if_pos h]
  refine ⟨?_, rfl⟩
  split
  · rename_i hfound _
    rw [← Option.some.inj hfound, if_pos h]
  · rfl

/-- A file is moved to a target without a node. -/
theorem movingSteps_moved {content : String} (hsource : p.extension? = some source)
    (hnew : p.withExtension? target = some new) (h : t.node? new = none)
    (hp : t.node? p = some (.file content)) :
    t.movingSteps source target p = [.delete p, .write new content] ∧
      t.conflict? source target p = none := by
  rw [movingSteps, conflict?, if_pos hsource, if_pos hsource, hnew, hp]
  dsimp only
  rw [h]
  exact ⟨rfl, rfl⟩

/-! ## Targets -/

/-- There is a node at the target of a node, or the target is a sibling with the same stem. -/
theorem Sound.node?_target (h : Sound t) (hp : (t.nodes.get? p).isSome)
    (habsolute : p.isAbsolute = true) (hsource : p.extension? = some source)
    (htarget : separator ∉ target) (hnew : p.withExtension? target = some new) :
    (t.node? new).isSome ∨ ∃ l stem, (∀ n ∈ l ++ [renamed stem target], Plain n) ∧
      p = rooted (l ++ [stem ++ dot :: source]) ∧ new = rooted (l ++ [renamed stem target]) := by
  obtain ⟨l, hl, rfl⟩ := h.exists_rooted p hp habsolute
  rcases List.eq_nil_or_concat l with rfl | ⟨before, n, rfl⟩
  · exact nomatch hsource
  · rw [List.concat_eq_append] at hl hp hsource hnew
    have hbefore : ∀ m ∈ before, Plain m := fun m hm => hl m (List.mem_append_left _ hm)
    have hsplit : (splitName n).2 = some source := by
      rw [extension?, fileName?_rooted hl, Option.bind_some] at hsource
      exact hsource
    obtain ⟨hstem, hname⟩ := eq_of_splitName (Prod.ext rfl hsplit)
    have hseparator : separator ∉ (splitName n).1 := fun hmem =>
      (hl n (by simp)).separator_not_mem (hname ▸ List.mem_append_left _ hmem)
    rw [withExtension?_rooted hl (Prod.ext rfl hsplit) htarget] at hnew
    obtain rfl := Option.some.inj hnew
    rcases plain_renamed hstem hseparator htarget with hdots | hplain
    · -- The target is the directory above the one that the node is in.
      have hdirectory := h.directory_of_child before n hl hp
      rw [hdots, node?, normalize_spell_parent hbefore]
      refine Or.inl ?_
      rcases List.eq_nil_or_concat before with rfl | ⟨above, m, rfl⟩
      · rw [List.dropLast_nil, hdirectory]
        rfl
      · rw [List.concat_eq_append] at hbefore hdirectory ⊢
        rw [List.dropLast_concat, h.directory_of_child above m hbefore (by rw [hdirectory]; rfl)]
        rfl
    · refine Or.inr ⟨before, (splitName n).1, ?_, ?_, ?_⟩
      · intro m hm
        rcases List.mem_append.mp hm with hm | hm
        · exact hbefore m hm
        · exact List.mem_singleton.mp hm ▸ hplain
      · rw [List.concat_eq_append, ← hname]
      · rw [rooted_of_ne_nil (by simp)]

/-- Nodes with one extension whose targets are one path without a node are one node. -/
theorem Sound.eq_of_target {p' new' : Path} (h : Sound t)
    (hp : (t.nodes.get? p).isSome) (hp' : (t.nodes.get? p').isSome)
    (habsolute : p.isAbsolute = true) (habsolute' : p'.isAbsolute = true)
    (hsource : p.extension? = some source) (hsource' : p'.extension? = some source)
    (htarget : separator ∉ target) (hnew : p.withExtension? target = some new)
    (hnew' : p'.withExtension? target = some new') (he : new.normalize = new'.normalize)
    (hnone : t.node? new = none) : p = p' := by
  have hnone' : t.node? new' = none := by
    rw [node?, ← he]
    exact hnone
  obtain ⟨l, stem, hl, rfl, rfl⟩ := (h.node?_target hp habsolute hsource htarget hnew).resolve_left
    (by rw [hnone]; exact Bool.false_ne_true)
  obtain ⟨l', stem', hl', rfl, rfl⟩ :=
    (h.node?_target hp' habsolute' hsource' htarget hnew').resolve_left
      (by rw [hnone']; exact Bool.false_ne_true)
  rw [normalize_rooted hl, normalize_rooted hl'] at he
  obtain ⟨rfl, hlast⟩ := List.append_inj' (rooted_injective hl hl' he) rfl
  have hstem := renamed_injective (hl _ (by simp)) (hl' _ (by simp)) (List.singleton_inj.mp hlast)
  rw [hstem]

/-- Nothing stands at a path if it is of no kind. -/
theorem node?_eq_none_iff : t.node? p = none ↔ ∀ kind, t.stat p ≠ .ok (some kind) := by
  unfold stat
  cases t.node? p with
  | none => exact ⟨fun _ _ => nofun, fun _ => rfl⟩
  | some node => exact ⟨nofun, fun h => absurd rfl (h node.kind)⟩

end MemoryTree

/-! ## What is left alone -/

variable {ω : Type}

namespace Overlay

variable {b : Backing ω} {p new : Path} {content : String} {o : Overlay ω}

/-- Moving a file stages two keys after those that are staged, if neither is. -/
theorem toList_afterMoving (hp : o.stores.changes.get? (b.hash p) = none)
    (hnew : o.stores.changes.get? (b.hash new) = none) (hne : b.hash p ≠ b.hash new) :
    (o.afterMoving b p new content).stores.changes.toList =
      o.stores.changes.toList ++
        [(b.hash p, .delete), (b.hash new, .write content)] := by
  have hstores := stores_read (b := b) new ((o.stageDelete b p).log b (.executed .delete p))
  have hdeleted : (o.stageDelete b p).stores.changes.get? (b.hash new) = none := by
    rw [stageDelete, get?_stageChange, if_neg hne, hnew]
  show ((((o.stageDelete b p).log b (.executed .delete p)).read b new).2.stores.changes.byKey.put
    (b.hash new) (.write content)).pairs = _
  rw [hstores]
  refine (OrderedMap.pairs_put hdeleted _).trans ?_
  rw [show (o.stageDelete b p).stores.changes.byKey.pairs = (o.stores.changes.byKey.put
    (b.hash p) .delete).pairs from rfl, OrderedMap.pairs_put hp, List.append_assoc]
  rfl

/-- Moving a file notes no failure. -/
theorem abandoned_afterMoving (p new : Path) (content : String) (o : Overlay ω) :
    (o.afterMoving b p new content).abandoned = o.abandoned := by
  have hread := (read_learns (b := b) new
    ((o.stageDelete b p).log b (.executed .delete p))).abandoned_eq
  rw [abandoned_executed] at hread
  unfold afterMoving
  rw [abandoned_executed, abandoned_executed, abandoned_executed]
  exact hread

/-- Moving a file leaves a world alone that stands still. -/
theorem world_afterMoving (h : b.Still) (p new : Path) (content : String) (o : Overlay ω) :
    (o.afterMoving b p new content).world = o.world := by
  unfold afterMoving
  rw [h.world_log, h.world_log, h.world_log]
  refine (h.world_read new _).trans ?_
  rw [h.world_log]
  rfl

end Overlay

/-! ## One file after the other -/

/-- The paths that a renaming is about: the root, the nodes, and the targets of the files with the
extension. -/
inductive Involved (t : MemoryTree) (root : Path) (files : List Path)
    (source target : List UInt8) : Path → Prop
  /-- The root. -/
  | root : Involved t root files source target root
  /-- A node. -/
  | node {p : Path} (h : (t.nodes.get? p).isSome) : Involved t root files source target p
  /-- A target. -/
  | target {p new : Path} (hp : p ∈ files) (hsource : p.extension? = some source)
      (hnew : p.withExtension? target = some new) : Involved t root files source target new

/-- Paths have different keys unless they have one normal form. -/
def SeparatesForms (hash : Hasher) (paths : Path → Prop) : Prop :=
  ∀ p q, paths p → paths q → hash p = hash q → p.normalize = q.normalize

/-- Files of a sound tree that can be moved one after the other. -/
structure Movable (hash : Hasher) (t : MemoryTree) (root : Path) (files : List Path)
    (source target : List UInt8) : Prop where
  /-- The tree is sound. -/
  sound : t.Sound
  /-- The root is a node. -/
  isSome_root : (t.node? root).isSome
  /-- The files are files. -/
  file : ∀ p ∈ files, ∃ content, t.nodes.get? p = some (.file content)
  /-- The files are absolute paths. -/
  isAbsolute : ∀ p ∈ files, p.isAbsolute = true
  /-- No two files share a key. -/
  nodup : (files.map hash).Nodup
  /-- The new extension is without a separator. -/
  separator_not_mem : separator ∉ target
  /-- Only one path of those involved has a key, apart from its spelling. -/
  separates : SeparatesForms hash (Involved t root files source target)

/-- Files of a tree in memory have been moved one after the other, from an overlay in which nothing
was staged: all that can be moved, those that have been traversed, and the overlay after. -/
structure Moved (hash : Hasher) (view : ω → MemoryTree) (t : MemoryTree) (root : Path)
    (files : List Path) (source target : List UInt8) (before : List Path) (o : Overlay ω) :
    Prop where
  /-- The world still shows the tree. -/
  view_eq : view o.world = t
  /-- The steps of the files are staged, in their order. -/
  toList_eq : o.stores.changes.toList =
    (before.flatMap (t.movingSteps source target)).map fun step => (hash step.path, step.change)
  /-- The steps are recorded under their paths. -/
  recorded : ∀ step ∈ before.flatMap (t.movingSteps source target),
    o.stores.entries.get? (hash step.path) = some ⟨.file, step.path⟩
  /-- Only the root, the files and the targets are known. -/
  known : ∀ k, (o.stores.entries.get? k).isSome → k = hash root ∨ k ∈ files.map hash ∨
    ∃ p ∈ before, ∃ new, p.extension? = some source ∧ p.withExtension? target = some new ∧
      k = hash new
  /-- The failures are those of the files, in their order. -/
  abandoned_eq : o.abandoned = before.filterMap (t.conflict? source target)

section Steps

variable {hash : Hasher} {view : ω → MemoryTree} {t : MemoryTree} {root : Path}
  {files before rest : List Path} {source target : List UInt8} {p new : Path} {o o' : Overlay ω}

/-- A file is a node under its own normal form. -/
theorem Movable.node?_eq (h : Movable hash t root files source target) (hp : p ∈ files) :
    ∃ content, t.node? p = some (.file content) := by
  obtain ⟨content, hcontent⟩ := h.file p hp
  exact ⟨content, h.sound.node?_eq (h.isAbsolute p hp) hcontent⟩

/-- There is a node at the target of a file that is about to be moved if the target is known. -/
theorem Movable.isSome_of_known (h : Movable hash t root files source target)
    (hm : Moved hash view t root files source target before o)
    (hfiles : before ++ p :: rest = files) (hsource : p.extension? = some source)
    (hnew : p.withExtension? target = some new)
    (hknown : (o.stores.entries.get? (hash new)).isSome) : (t.node? new).isSome := by
  have hp : p ∈ files := hfiles ▸ List.mem_append_right _ List.mem_cons_self
  have hinvolved : Involved t root files source target new := .target hp hsource hnew
  have hsame {q : Path} (hq : Involved t root files source target q) (hkey : hash new = hash q) :
      t.node? new = t.node? q := by
    rw [MemoryTree.node?, MemoryTree.node?, h.separates new q hinvolved hq hkey]
  have hfile {q : Path} (hq : q ∈ files) : (t.nodes.get? q).isSome := by
    obtain ⟨content, hcontent⟩ := h.file q hq
    rw [hcontent]
    rfl
  rcases hm.known _ hknown with hroot | hmem | ⟨q, hq, new', hsource', hnew', hkey⟩
  · rw [hsame .root hroot]
    exact h.isSome_root
  · obtain ⟨q, hq, hkey⟩ := List.mem_map.mp hmem
    obtain ⟨content, hcontent⟩ := h.node?_eq hq
    rw [hsame (.node (hfile hq)) hkey.symm, hcontent]
    rfl
  · -- Without a node, the target would belong to the earlier file only.
    rw [← Option.ne_none_iff_isSome]
    intro hnone
    have hq' : q ∈ files := hfiles ▸ List.mem_append_left _ hq
    have heq := h.separates new new' hinvolved (.target hq' hsource' hnew') hkey
    obtain rfl := h.sound.eq_of_target (hfile hp) (hfile hq') (h.isAbsolute p hp)
      (h.isAbsolute q hq') hsource hsource' h.separator_not_mem hnew hnew' heq hnone
    have hnodup := h.nodup
    rw [← hfiles, List.map_append, List.map_cons, List.nodup_append] at hnodup
    exact hnodup.2.2 _ (List.mem_map_of_mem hq) _ List.mem_cons_self rfl

/-- A file has been left where it is: nothing is staged, no entry is replaced, and at most the
target has become known. -/
theorem Moved.skip (hm : Moved hash view t root files source target before o)
    (hsteps : t.movingSteps source target p = []) (hview : view o'.world = view o.world)
    (hchanges : o'.stores.changes = o.stores.changes)
    (hentries : ∀ k, (o.stores.entries.get? k).isSome →
      o'.stores.entries.get? k = o.stores.entries.get? k)
    (hknown : ∀ k, (o'.stores.entries.get? k).isSome → (o.stores.entries.get? k).isSome ∨
      ∃ new, p.extension? = some source ∧ p.withExtension? target = some new ∧ k = hash new)
    (habandoned : o'.abandoned = o.abandoned ++ (t.conflict? source target p).toList) :
    Moved hash view t root files source target (before ++ [p]) o' where
  view_eq := hview.trans hm.view_eq
  toList_eq := by
    rw [hchanges, hm.toList_eq, List.flatMap_append, List.flatMap_singleton, hsteps,
      List.append_nil]
  recorded step hstep := by
    rw [List.flatMap_append, List.flatMap_singleton, hsteps, List.append_nil] at hstep
    have hrecorded := hm.recorded step hstep
    rw [hentries _ (by rw [hrecorded]; rfl), hrecorded]
  known k hk := by
    rcases hknown k hk with hk | hk
    · refine (hm.known k hk).imp_right (Or.imp_right fun hk => ?_)
      obtain ⟨q, hq, hk⟩ := hk
      exact ⟨q, List.mem_append_left _ hq, hk⟩
    · exact Or.inr (Or.inr ⟨p, by simp, hk⟩)
  abandoned_eq := by
    rw [habandoned, hm.abandoned_eq, List.filterMap_append, List.filterMap_cons, List.filterMap_nil]
    cases t.conflict? source target p <;> rfl

/-- A key under which nothing is staged is not that of a step. -/
theorem Moved.ne_of_mem (hm : Moved hash view t root files source target before o)
    {step : PlanStep} (hstep : step ∈ before.flatMap (t.movingSteps source target)) {k : PathKey}
    (hk : o.stores.changes.get? k = none) : k ≠ hash step.path := by
  rintro rfl
  have hmem : (hash step.path, step.change) ∈ o.stores.changes.toList := by
    rw [hm.toList_eq]
    exact List.mem_map.mpr ⟨step, hstep, rfl⟩
  rw [Changes.get?, (OrderedMap.get?_eq_some_iff _ _ _).mpr hmem] at hk
  exact Option.some_ne_none _ hk

/-- A file has been moved to a target of which nothing was known. -/
theorem Moved.move {content : String}
    (hm : Moved hash view t root files source target before o) (hp : p ∈ files)
    (hsource : p.extension? = some source) (hnew : p.withExtension? target = some new)
    (hsteps : t.movingSteps source target p = [.delete p, .write new content])
    (hconflict : t.conflict? source target p = none)
    (hc : Coherent (.ofMemory hash view) o) (hknown : (o.stores.entries.get? (hash p)).isSome)
    (hunstaged : o.stores.changes.get? (hash p) = none)
    (hunknown : o.stores.entries.get? (hash new) = none) :
    Moved hash view t root files source target (before ++ [p])
      (o.afterMoving (.ofMemory hash view) p new content) := by
  have hne : hash p ≠ hash new := by
    intro he
    rw [he, hunknown] at hknown
    exact nomatch hknown
  have hnew' := hc.unstaged_of_unknown hunknown
  constructor
  · rw [world_afterMoving (Backing.still_ofMemory hash view)]
    exact hm.view_eq
  · rw [toList_afterMoving (b := .ofMemory hash view) hunstaged hnew' hne, hm.toList_eq,
      List.flatMap_append, List.flatMap_singleton, hsteps, List.map_append]
    rfl
  · intro step hstep
    rw [List.flatMap_append, List.flatMap_singleton, hsteps] at hstep
    rw [entries_afterMoving, Backing.hash_ofMemory]
    rcases List.mem_append.mp hstep with hstep | hstep
    · -- What is recorded for the steps before is under other keys, for it is staged there.
      rw [if_neg (hm.ne_of_mem hstep hnew'), if_neg (hm.ne_of_mem hstep hunstaged),
        hm.recorded step hstep]
    · rcases List.mem_pair.mp hstep with rfl | rfl
      · exact (if_neg (Ne.symm hne)).trans (if_pos rfl)
      · exact if_pos rfl
  · intro k hk
    rw [entries_afterMoving] at hk
    split at hk
    · rename_i he
      exact Or.inr (Or.inr ⟨p, by simp, new, hsource, hnew, he.symm⟩)
    · split at hk
      · rename_i he
        exact Or.inr (Or.inl (he ▸ List.mem_map_of_mem hp))
      · refine (hm.known k hk).imp_right (Or.imp_right fun hk => ?_)
        obtain ⟨q, hq, hk⟩ := hk
        exact ⟨q, List.mem_append_left _ hq, hk⟩
  · rw [abandoned_afterMoving, hm.abandoned_eq, List.filterMap_append, List.filterMap_cons,
      hconflict]
    exact (List.append_nil _).symm

/-- What is found at the target of a file that is about to be moved is a node. -/
theorem Movable.isSome_of_found (h : Movable hash t root files source target)
    (hm : Moved hash view t root files source target before o)
    (hfiles : before ++ p :: rest = files) (hsource : p.extension? = some source)
    (hnew : p.withExtension? target = some new) {entry : Entry} {o₁ : Overlay ω}
    (hclassify : o.classify (.ofMemory hash view) new = (some entry, o₁)) :
    (t.node? new).isSome := by
  rw [← Option.ne_none_iff_isSome]
  intro hnone
  -- Otherwise the target is not known and the tree has nothing there, so nothing would be found.
  have hunknown : o.stores.entries.get? (hash new) = none := by
    rw [← Option.not_isSome_iff_eq_none]
    intro hsome
    have hisSome := h.isSome_of_known hm hfiles hsource hnew hsome
    rw [hnone] at hisSome
    exact nomatch hisSome
  have hstat : ∀ kind, (view o.world).stat new ≠ .ok (some kind) := by
    rw [hm.view_eq]
    exact MemoryTree.node?_eq_none_iff.mp hnone
  have hfound := (Backing.still_ofMemory hash view).classify_eq_none_iff.mpr ⟨hunknown, hstat⟩
  rw [hclassify] at hfound
  exact nomatch hfound

/-- A file has been left where it is, since there is something at its target. -/
theorem Moved.taken (h : Movable hash t root files source target)
    (hm : Moved hash view t root files source target before o)
    (hfiles : before ++ p :: rest = files) (hsource : p.extension? = some source)
    (hnew : p.withExtension? target = some new) {entry : Entry} {o₁ : Overlay ω}
    (hclassify : o.classify (.ofMemory hash view) new = (some entry, o₁)) :
    Moved hash view t root files source target (before ++ [p])
      ((o₁.log (.ofMemory hash view)
        (.abandoned p (.stated (new.toText ++ " already exists")))).log (.ofMemory hash view)
          (.executed .traverseFile p)) := by
  obtain ⟨hsteps, hconflict⟩ := MemoryTree.movingSteps_taken hsource hnew
    (h.isSome_of_found hm hfiles hsource hnew hclassify)
  have hworld := (Backing.still_ofMemory hash view).world_classify new o
  have hlearns := classify_learns (b := .ofMemory hash view) new o
  have hentries (k : PathKey) (hk : (o.stores.entries.get? k).isSome) :=
    get?_classify (b := .ofMemory hash view) new hk
  have hknown (k : PathKey) :=
    eq_or_isSome_of_classify (b := .ofMemory hash view) (o := o) new (k := k)
  rw [hclassify] at hworld hlearns hentries hknown
  refine hm.skip hsteps (congrArg view hworld) hlearns.changes_eq hentries (fun k hk => ?_) ?_
  · exact (hknown k hk).symm.imp_right fun hk => ⟨new, hsource, hnew, hk⟩
  · rw [abandoned_executed, abandoned_log, hlearns.abandoned_eq, hconflict]
    rfl

/-- A file has been moved, since there is nothing at its target. -/
theorem Moved.moved {content : String} {o₁ o₂ : Overlay ω}
    (h : Movable hash t root files source target)
    (hm : Moved hash view t root files source target before o) (hp : p ∈ files)
    (hc : Coherent (.ofMemory hash view) o) (hknown : (o.stores.entries.get? (hash p)).isSome)
    (hunstaged : o.stores.changes.get? (hash p) = none) (hsource : p.extension? = some source)
    (hnew : p.withExtension? target = some new)
    (hclassify : o.classify (.ofMemory hash view) new = (none, o₁))
    (hread : o₁.read (.ofMemory hash view) p = (.ok content, o₂)) :
    Moved hash view t root files source target (before ++ [p])
      (o₂.afterMoving (.ofMemory hash view) p new content) := by
  have hstill := Backing.still_ofMemory hash view
  obtain ⟨hunknown, hstat⟩ := hstill.classify_eq_none_iff.mp (congrArg Prod.fst hclassify)
  have hnode : t.node? new = none := by
    refine MemoryTree.node?_eq_none_iff.mpr ?_
    rw [← hm.view_eq]
    exact hstat
  obtain ⟨content', hcontent'⟩ := h.node?_eq hp
  obtain ⟨hsteps, hconflict⟩ := MemoryTree.movingSteps_moved hsource hnew hnode hcontent'
  -- Looking for the target has learnt nothing, and the file says what it says in the tree.
  have hstores := classify_eq_none hclassify
  have hlearns := classify_learns (b := .ofMemory hash view) new o
  have hworld := hstill.world_classify new o
  rw [hclassify] at hlearns hworld
  have hunstaged' : o₁.stores.changes.get? (hash p) = none := hstores ▸ hunstaged
  have hreads : ((Backing.ofMemory hash view).read p o₁.world).1 = .ok content' := by
    show (view o₁.world).read p = .ok content'
    rw [show o₁.world = o.world from hworld, hm.view_eq, MemoryTree.read, hcontent']
  obtain ⟨hcontent, rfl⟩ := Prod.mk.inj
    ((hstill.read_of_unstaged hunstaged' hreads).symm.trans hread)
  obtain rfl := Except.ok.inj hcontent
  have hm₁ : Moved hash view t root files source target before o₁ :=
    ⟨(congrArg view hworld).trans hm.view_eq, hstores ▸ hm.toList_eq, hstores ▸ hm.recorded,
      hstores ▸ hm.known, hlearns.abandoned_eq.trans hm.abandoned_eq⟩
  exact hm₁.move hp hsource hnew hsteps hconflict (hc.learns hlearns) (hstores ▸ hknown)
    hunstaged' (hstores ▸ hunknown)

/-- One more file has been moved, or left where it is. -/
theorem Moved.snoc (h : Movable hash t root files source target)
    (hm : Moved hash view t root files source target before o)
    (hfiles : before ++ p :: rest = files) (hc : Coherent (.ofMemory hash view) o)
    (hknown : (o.stores.entries.get? (hash p)).isSome)
    (hunstaged : o.stores.changes.get? (hash p) = none)
    (hr : Renaming (.ofMemory hash view) source target p o o') :
    Moved hash view t root files source target (before ++ [p]) o' := by
  cases hr with
  | other hsource =>
    have hother : t.movingSteps source target p = [] ∧ t.conflict? source target p = none :=
      MemoryTree.movingSteps_other hsource
    obtain ⟨hsteps, hconflict⟩ := hother
    refine hm.skip hsteps rfl rfl (fun _ _ => rfl) (fun _ hk => Or.inl hk) ?_
    rw [abandoned_executed, hconflict]
    exact (List.append_nil _).symm
  | taken hsource hnew hclassify => exact hm.taken h hfiles hsource hnew hclassify
  | moved hsource hnew hclassify hread =>
    have hp : p ∈ files := hfiles ▸ List.mem_append_right _ List.mem_cons_self
    exact hm.moved h hp hc hknown hunstaged hsource hnew hclassify hread

/-- A step of a plan is made from its path and its change. -/
theorem stepFor_change (step : PlanStep) : stepFor step.path step.change = step := by
  cases step <;> rfl

/-- The plan is drawn from the steps of the files, in their order. -/
theorem Moved.plan_eq (hm : Moved hash view t root files source target before o) :
    o.plan = before.flatMap (t.movingSteps source target) := by
  rw [Overlay.plan, hm.toList_eq, List.filterMap_map]
  refine (List.filterMap_congr fun step hstep => ?_).trans List.filterMap_some
  rw [Function.comp_apply]
  dsimp only
  rw [hm.recorded step hstep]
  exact congrArg some (stepFor_change step)

/-- No two steps of the files share a path. -/
theorem Moved.nodup (hm : Moved hash view t root files source target before o) :
    ((before.flatMap (t.movingSteps source target)).map (·.path)).Nodup := by
  have hkeys : (o.stores.changes.toList.map (·.1)).Nodup := o.stores.changes.byKey.nodup
  rw [hm.toList_eq, List.map_map] at hkeys
  refine List.Nodup.of_map hash ?_
  rw [List.map_map]
  exact hkeys

end Steps

/-- What the steps of a file do: they delete the file, and write at a target without a node. -/
theorem MemoryTree.mem_movingSteps {t : MemoryTree} {source target : List UInt8} {p : Path}
    {step : PlanStep} (h : step ∈ t.movingSteps source target p) :
    step = .delete p ∨ ∃ new content, step = .write new content ∧ t.node? new = none := by
  unfold movingSteps at h
  split at h
  · split at h
    · rename_i new content _ _
      split at h
      · exact nomatch h
      · rename_i hnone
        rcases List.mem_pair.mp h with rfl | rfl
        · exact Or.inl rfl
        · exact Or.inr ⟨new, content, rfl, Option.not_isSome_iff_eq_none.mp hnone⟩
    · exact nomatch h
  · exact nomatch h

namespace Engine

section Runs

variable {hash : Hasher} {view : ω → MemoryTree} {d : Discovery} {source target : String}
  {dependencies : Dependencies} {t : MemoryTree} {root : Path} {files : List Path} {w : ω}
  {o₁ : Overlay ω}

/-- Before the first file is moved, none has been: only the root and the files are known. -/
theorem Discovers.moved
    (h : (moving (.ofMemory hash view) d source target dependencies).Discovers root (.new w) files
      o₁) (hview : view o₁.world = t) (ext ext' : List UInt8) :
    Moved hash view t root files ext ext' [] o₁ := by
  have hlearns := h.learns
  refine ⟨hview, ?_, nofun, fun k hk => ?_, hlearns.abandoned_eq⟩
  · rw [hlearns.changes_eq]
    rfl
  · exact (h.known hk).imp_right (Or.imp_right fun hk => nomatch hk)

/-- A run over a directory of a tree in memory discovers files under it, if its patterns compile:
those that are discovered from a new overlay. -/
theorem moving_discovers (hash : Hasher) (view : ω → MemoryTree) (d : Discovery)
    (source target : String) (dependencies : Dependencies) (root : Path) (w : ω)
    (hincludes : d.includes.isEmpty = false)
    (hcompile : ∀ pattern ∈ d.includes,
      ∃ set, PatternSet.compile [pattern] d.excludes = .ok set)
    (hroot : (view w).node? root = some .directory) :
    ∃ files : List Path, (∀ p ∈ files, p ∈ (view w).filesUnder root.normalize) ∧
      (∃ o, (Overlay.new w).discover (.ofMemory hash view) root d.includes d.excludes =
        (.ok files, o)) ∧
      ∃ o₁, (moving (.ofMemory hash view) d source target dependencies).Discovers root (.new w)
        files o₁ ∧ view o₁.world = view w := by
  obtain ⟨files, hfiles, hdiscover⟩ := discover_ofMemory hash view (view w) root hcompile
  refine ⟨files, hfiles, ?_, ?_⟩
  · obtain ⟨o, ho, -⟩ := hdiscover (.new w) rfl
    exact ⟨o, ho⟩
  · have hclassify := classify_directory_ofMemory hash view (o := Overlay.new w) rfl hroot
    obtain ⟨o₁, ho₁, hworld, -⟩ := hdiscover
      ((Overlay.new w).record (hash root) ⟨.directory, root⟩ |>.log (.ofMemory hash view)
        (.passStarted 1 root)) rfl
    exact ⟨_, .discover hincludes hclassify rfl ho₁, congrArg view hworld⟩

/-- A run that renames extensions plans nothing if every target shares its key with one of the
files. -/
theorem Discovers.plans_nothing {b : Backing ω} (hstill : b.Still)
    (hd : (moving b d source target dependencies).Discovers root (.new w) files o₁)
    (hincludes : d.includes.isEmpty = false)
    (htarget : separator ∉ Utf8.encode (bareExtension target).toList)
    (htaken : ∀ p ∈ files, ∀ new,
      p.extension? = some (Utf8.encode (bareExtension source).toList) →
      p.withExtension? (Utf8.encode (bareExtension target).toList) = some new →
        b.hash new ∈ files.map b.hash) (options : Options) (previous : Option Unit) :
    ∃ o', (moving b d source target dependencies).Ends root options previous (.new w) (.ok [])
      o' := by
  have hlearns : Learns b (.new w) o₁ := hd.learns
  obtain ⟨o₂, hworks, hempty⟩ := moving_traversals d source target dependencies options previous
    htarget (.discovered hd) ((coherent_new w).learns hlearns)
    (fun p hp => by rw [hlearns.changes_eq]; rfl)
    (P := fun _ o => o.stores.changes = .empty) hlearns.changes_eq
    (by
      rintro before p rest o o' hfiles - - hknown - hrenaming hempty
      cases hrenaming with
      | other => exact hempty
      | @taken new _ _ _ _ hclassify =>
        have hchanges := (classify_learns (b := b) new o).changes_eq
        rw [hclassify] at hchanges
        exact hchanges.trans hempty
      | @moved new content _ _ hsource hnew hclassify =>
        -- The key of the target is that of a file, which is known.
        obtain ⟨q, hq, hkey⟩ := List.mem_map.mp (htaken p
          (hfiles ▸ List.mem_append_right _ List.mem_cons_self) new hsource hnew)
        have hunknown := (hstill.classify_eq_none_iff.mp (congrArg Prod.fst hclassify)).1
        have hsome := hknown q hq
        rw [hkey, hunknown] at hsome
        exact nomatch hsome)
  have hends := hd.ends_ok (moving_filesOnly d source target dependencies hincludes) hworks
  have hplan : (conclude (moving b d source target dependencies) root o₂).plan = [] := by
    rw [show (conclude _ root o₂).plan = o₂.plan from rfl, Overlay.plan, hempty]
    rfl
  exact ⟨_, hplan ▸ hends⟩

/-- A run that renames extensions from a new overlay plans the moves of files: the plan, and the
overlay at the end. -/
structure PlansMoves (e : Engine ω Unit) (t : MemoryTree) (root : Path) (options : Options)
    (previous : Option Unit) (w : ω) (files : List Path) (source target : List UInt8) (plan : Plan)
    (o' : Overlay ω) : Prop where
  /-- The run ends well. -/
  ends : e.Ends root options previous (.new w) (.ok plan) o'
  /-- The plan has the steps of each file, in the order of the files. -/
  plan_eq : plan = files.flatMap (t.movingSteps source target)
  /-- The failures are those of the files with a node at their target, in their order. -/
  abandoned_eq : o'.abandoned = files.filterMap (t.conflict? source target)
  /-- Only the files are deleted. -/
  mem_of_delete : ∀ p, .delete p ∈ plan → p ∈ files
  /-- No node is written over. -/
  node?_of_write : ∀ p content, .write p content ∈ plan → t.node? p = none
  /-- No two steps share a path. -/
  nodup : (plan.map (·.path)).Nodup

/-- A run that renames extensions over a directory of a tree in memory plans what is read off the
tree, if the keys tell the normal forms of the nodes and the targets apart: the files that are
discovered are moved, in their order, except for those with a node at their target, which are
failures. -/
theorem moving_plans (hash : Hasher) (view : ω → MemoryTree) (includes excludes : List String)
    (source target : String) (dependencies : Dependencies) (root : Path) (options : Options)
    (previous : Option Unit) (w : ω) (hreachable : (view w).Reachable)
    (habsolute : root.isAbsolute = true) (hroot : (view w).node? root = some .directory)
    (hcompile : ∃ set, PatternSet.compile includes excludes = .ok set)
    (htarget : '/' ∉ target.toList) :
    ∃ files o, (Overlay.new w).discover (.ofMemory hash view) root
        (Discovery.new includes excludes).includes excludes = (.ok files, o) ∧
      (∀ p ∈ files, ∃ content, (view w).node? p = some (.file content)) ∧
      (SeparatesForms hash (Involved (view w) root files
          (Utf8.encode (bareExtension source).toList) (Utf8.encode (bareExtension target).toList)) →
        ∃ plan o', PlansMoves
          (moving (.ofMemory hash view) (.new includes excludes) source target dependencies)
          (view w) root options previous w files (Utf8.encode (bareExtension source).toList)
          (Utf8.encode (bareExtension target).toList) plan o') := by
  have hincludes := Discovery.isEmpty_includes includes excludes
  obtain ⟨files, hunder, ⟨o, hdiscover⟩, o₁, hd, hview⟩ := moving_discovers hash view
    (.new includes excludes) source target dependencies root w hincludes
    (Discovery.exists_compile hcompile) hroot
  have hsound := hreachable.sound
  have hfile (p : Path) (hp : p ∈ files) := (MemoryTree.get?_of_mem_filesUnder (hunder p hp)).1
  have habsolutes (p : Path) (hp : p ∈ files) :=
    MemoryTree.isAbsolute_of_mem_filesUnder habsolute (hunder p hp)
  have hseparator := separator_not_mem_bareExtension target htarget
  refine ⟨files, o, hdiscover, fun p hp => ?_, fun hseparates => ?_⟩
  · obtain ⟨content, hcontent⟩ := hfile p hp
    exact ⟨content, hsound.node?_eq (habsolutes p hp) hcontent⟩
  · have hmovable : Movable hash (view w) root files (Utf8.encode (bareExtension source).toList)
        (Utf8.encode (bareExtension target).toList) :=
      ⟨hsound, by rw [hroot]; rfl, hfile, habsolutes, hd.nodup, hseparator, hseparates⟩
    have hlearns : Learns (.ofMemory hash view) (.new w) o₁ := hd.learns
    obtain ⟨o₂, hworks, hmoved⟩ := moving_traversals (.new includes excludes) source target
      dependencies options previous hseparator (.discovered hd)
      ((coherent_new w).learns hlearns) (fun p hp => by rw [hlearns.changes_eq]; rfl)
      (P := fun before o => Moved hash view (view w) root files
        (Utf8.encode (bareExtension source).toList) (Utf8.encode (bareExtension target).toList)
        before o)
      (hd.moved hview _ _)
      fun before p rest o o' hfiles _ hc hknown hunstaged hrenaming hm =>
        hm.snoc hmovable hfiles hc
          (hknown p (hfiles ▸ List.mem_append_right _ List.mem_cons_self)) hunstaged hrenaming
    have hends := hd.ends_ok (moving_filesOnly (.new includes excludes) source target dependencies
      hincludes) hworks
    refine ⟨_, _, hends, hmoved.plan_eq, ?_, fun p hdelete => ?_, fun p content hwrite => ?_, ?_⟩
    · rw [conclude, abandoned_log, abandoned_executed, hmoved.abandoned_eq]
      exact List.append_nil _
    · obtain ⟨q, hq, hstep⟩ := List.mem_flatMap.mp (hmoved.plan_eq ▸ hdelete)
      rcases MemoryTree.mem_movingSteps hstep with heq | ⟨new, content, heq, -⟩
      · exact PlanStep.delete.inj heq ▸ hq
      · cases heq
    · obtain ⟨q, -, hstep⟩ := List.mem_flatMap.mp (hmoved.plan_eq ▸ hwrite)
      rcases MemoryTree.mem_movingSteps hstep with heq | ⟨new, data, heq, hnone⟩
      · cases heq
      · exact (PlanStep.write.inj heq).1 ▸ hnone
    · rw [show (conclude _ root o₂).plan = o₂.plan from rfl, hmoved.plan_eq]
      exact hmoved.nodup

end Runs

/-! ## A target that exists -/

/-- The first bytes of the normal form as a key. -/
def keyOfForm : Hasher := fun p => ⟨Vector.ofFn fun i => p.normalize.bytes.getD i 0⟩

/-- A directory with two files, of which the first made stands at the target of the other. -/
def declarations : MemoryTree :=
  ((MemoryTree.new.write (.ofString "/r/a.d.ts") "1").2.write (.ofString "/r/a.ts") "2").2

/-- The extension that the files have. -/
def tsExtension : List UInt8 := Utf8.encode (bareExtension "ts").toList

/-- The extension that they are moved to, which ends as the other. -/
def dtsExtension : List UInt8 := Utf8.encode (bareExtension "d.ts").toList

/-- The paths that the renaming is about. -/
theorem mem_of_involved_declarations {p : Path}
    (h : Involved declarations (.ofString "/r") [.ofString "/r/a.d.ts", .ofString "/r/a.ts"]
      tsExtension dtsExtension p) :
    p ∈ [.ofString "/", .ofString "/r", .ofString "/r/a.d.ts", .ofString "/r/a.ts",
      .ofString "/r/a.d.d.ts"] := by
  cases h with
  | root => decide +kernel
  | node h =>
    have hmem := OrderedMap.mem_keys_of_isSome h
    have hkeys : declarations.nodes.keys =
        [.ofString "/", .ofString "/r", .ofString "/r/a.d.ts", .ofString "/r/a.ts"] := by
      decide +kernel
    rw [hkeys] at hmem
    exact List.mem_append_left [Path.ofString "/r/a.d.d.ts"] hmem
  | target hp _ hnew =>
    rcases List.mem_pair.mp hp with rfl | rfl
    · rw [show (Path.ofString "/r/a.d.ts").withExtension? dtsExtension =
        some (.ofString "/r/a.d.d.ts") by decide +kernel] at hnew
      exact Option.some.inj hnew ▸ by decide +kernel
    · rw [show (Path.ofString "/r/a.ts").withExtension? dtsExtension =
        some (.ofString "/r/a.d.ts") by decide +kernel] at hnew
      exact Option.some.inj hnew ▸ by decide +kernel

/-- The file with the target that exists stays, and the other is moved. -/
theorem moving_plans_declarations :
    ∃ o', PlansMoves (moving (.ofMemory keyOfForm id) (.new [] []) "ts" "d.ts" .empty) declarations
      (.ofString "/r") .empty none declarations [.ofString "/r/a.d.ts", .ofString "/r/a.ts"]
      tsExtension dtsExtension
      [.delete (.ofString "/r/a.d.ts"), .write (.ofString "/r/a.d.d.ts") "1"] o' := by
  have hreachable : declarations.Reachable := (MemoryTree.Reachable.new.write _ _).write _ _
  obtain ⟨files, o, hdiscover, -, hplans⟩ := moving_plans keyOfForm id [] [] "ts" "d.ts" .empty
    (.ofString "/r") .empty none declarations hreachable (by decide) (by decide) ⟨_, rfl⟩
    (by decide)
  have hfiles : ((Overlay.new declarations).discover (.ofMemory keyOfForm id) (.ofString "/r")
      (Discovery.new [] []).includes []).1.toOption =
        some [.ofString "/r/a.d.ts", .ofString "/r/a.ts"] := by cbv
  rw [hdiscover] at hfiles
  obtain rfl := Option.some.inj hfiles
  have hseparates : ∀ p ∈ [Path.ofString "/", .ofString "/r", .ofString "/r/a.d.ts",
      .ofString "/r/a.ts", .ofString "/r/a.d.d.ts"], ∀ q ∈ [Path.ofString "/", .ofString "/r",
      .ofString "/r/a.d.ts", .ofString "/r/a.ts", .ofString "/r/a.d.d.ts"],
      keyOfForm p = keyOfForm q → p.normalize = q.normalize := by decide +kernel
  obtain ⟨plan, o', h⟩ := hplans fun p q hp hq => hseparates p (mem_of_involved_declarations hp) q
    (mem_of_involved_declarations hq)
  have hplan := h.plan_eq
  have hsteps : [Path.ofString "/r/a.d.ts", .ofString "/r/a.ts"].flatMap
      (declarations.movingSteps tsExtension dtsExtension) =
        [.delete (.ofString "/r/a.d.ts"), .write (.ofString "/r/a.d.d.ts") "1"] := by
    decide +kernel
  obtain rfl := hplan.trans hsteps
  exact ⟨o', h⟩

/-! ## Names that are equal up to composition -/

/-- The first bytes of a text as a key. -/
def keyOfString (s : String) : PathKey := ⟨Vector.ofFn fun i => (Utf8.encode s.toList).getD i 0⟩

/-- The first bytes of the normal text as a key. -/
def keyOfText : Hasher := fun p => keyOfString p.normalText

/-- A directory with two files, of which one has a name with an accent, and the other the target of
the first with the accent as a character of its own. -/
def composed : MemoryTree :=
  ((MemoryTree.new.write (.ofString "/r/caf\u00e9.txt") "composed").2.write
    (.ofString "/r/cafe\u0301.md") "decomposed").2

/-- The files that are discovered. -/
def composedFiles : List Path := [.ofString "/r/cafe\u0301.md", .ofString "/r/caf\u00e9.txt"]

/-- The extension that the first file has. -/
def txtExtension : List UInt8 := Utf8.encode (bareExtension "txt").toList

/-- The extension that it is moved to. -/
def mdExtension : List UInt8 := Utf8.encode (bareExtension "md").toList

/-- The accent of the second file is composed with the letter before it. -/
theorem normalText_decomposed :
    (Path.ofString "/r/cafe\u0301.md").normalText = "/r/caf\u00e9.md" := by
  have hdecoded : Utf8.decodeLossy (Path.ofString "/r/cafe\u0301.md").normalize.bytes =
      "/r/caf".toList ++ 'e' :: '\u0301' :: ".md".toList := by
    decide +kernel
  have hcomposed : Canonical.nfc ("/r/caf".toList ++ 'e' :: '\u0301' :: ".md".toList) =
      "/r/caf".toList ++ Char.ofNat 0xE9 :: ".md".toList :=
    Canonical.nfc_accent (Canonical.isPlain_of_all (by decide +kernel)) (by decide)
      (Canonical.isPlain_of_all (by decide +kernel)) (by decide) Canonical.split?_acute
      Canonical.compose?_acute
  rw [normalText, hdecoded, hcomposed]
  decide +kernel

/-- The normal texts of the paths that the renaming is about. -/
theorem normalText_of_involved_composed {p : Path}
    (h : Involved composed (.ofString "/r") composedFiles txtExtension mdExtension p) :
    p.normalText ∈ ["/", "/r", "/r/caf\u00e9.txt", "/r/caf\u00e9.md"] := by
  cases h with
  | root => decide +kernel
  | node h =>
    have hmem := OrderedMap.mem_keys_of_isSome h
    have hkeys : composed.nodes.keys =
        [.ofString "/", .ofString "/r", .ofString "/r/caf\u00e9.txt",
          .ofString "/r/cafe\u0301.md"] := by
      decide +kernel
    rw [hkeys] at hmem
    simp only [List.mem_cons, List.not_mem_nil, or_false] at hmem
    rcases hmem with heq | heq | heq | heq <;> rw [heq]
    · decide +kernel
    · decide +kernel
    · decide +kernel
    · rw [normalText_decomposed]
      decide
  | target hp hsource hnew =>
    rcases List.mem_pair.mp hp with rfl | rfl
    · exact absurd hsource (by decide +kernel)
    · rw [show (Path.ofString "/r/caf\u00e9.txt").withExtension? mdExtension =
        some (.ofString "/r/caf\u00e9.md") by decide +kernel] at hnew
      exact Option.some.inj hnew ▸ by decide +kernel

/-- The two files are discovered in the order of their names. -/
theorem discover_composed :
    ∃ o, (Overlay.new composed).discover (.ofMemory keyOfText id) (.ofString "/r")
      (Discovery.new [] []).includes [] = (.ok composedFiles, o) := by
  have hglob : composed.glob (.ofString "/r") "**/*" [] = .ok composedFiles := by cbv
  have hkey : keyOfText (.ofString "/r/cafe\u0301.md") = keyOfString "/r/caf\u00e9.md" :=
    congrArg keyOfString normalText_decomposed
  have hkey' : keyOfText (.ofString "/r/caf\u00e9.txt") = keyOfString "/r/caf\u00e9.txt" :=
    congrArg keyOfString (by decide +kernel)
  have hfound : (addFound (.ofMemory keyOfText id) .empty composedFiles).pairs.map (·.2) =
      composedFiles := by
    rw [addFound, composedFiles, List.foldl_cons, List.foldl_cons, List.foldl_nil,
      Backing.hash_ofMemory, hkey, hkey']
    decide +kernel
  have hsearch : searchAll (.ofMemory keyOfText id) (.ofString "/r") []
      (Discovery.new [] []).includes .empty composed =
        (.ok (addFound (.ofMemory keyOfText id) .empty composedFiles), composed) := by
    show searchAll _ _ _ ["**/*"] _ _ = _
    rw [searchAll, show (Backing.ofMemory keyOfText id).glob (.ofString "/r") "**/*" [] composed =
      ((composed.glob (.ofString "/r") "**/*" []).mapError .invalidPattern, composed) from rfl,
      hglob]
    rfl
  have hfiles : ((Overlay.new composed).discover (.ofMemory keyOfText id) (.ofString "/r")
      (Discovery.new [] []).includes []).1 = .ok composedFiles := by
    rw [discover, show (Overlay.new composed).world = composed from rfl, hsearch]
    exact congrArg Except.ok hfound
  exact ⟨_, Prod.ext hfiles rfl⟩

/-- The keys tell the normal texts of the nodes and the targets apart, but the target of the first
file is a spelling of the other: it is not a node, and the file stays. -/
theorem moving_plans_composed :
    composed.Reachable ∧ (Path.ofString "/r").isAbsolute = true ∧
      composed.node? (.ofString "/r") = some .directory ∧
      (∀ p q, Involved composed (.ofString "/r") composedFiles txtExtension mdExtension p →
        Involved composed (.ofString "/r") composedFiles txtExtension mdExtension q →
        keyOfText p = keyOfText q → p.normalText = q.normalText) ∧
      (∃ o, (Overlay.new composed).discover (.ofMemory keyOfText id) (.ofString "/r")
        (Discovery.new [] []).includes [] = (.ok composedFiles, o)) ∧
      composedFiles.flatMap (composed.movingSteps txtExtension mdExtension) =
        [.delete (.ofString "/r/caf\u00e9.txt"), .write (.ofString "/r/caf\u00e9.md") "composed"] ∧
      ∃ o', (moving (.ofMemory keyOfText id) (.new [] []) "txt" "md" .empty).Ends (.ofString "/r")
        .empty none (.new composed) (.ok []) o' := by
  have hreachable : composed.Reachable := (MemoryTree.Reachable.new.write _ _).write _ _
  have hroot : composed.node? (.ofString "/r") = some .directory := by decide +kernel
  refine ⟨hreachable, by decide, hroot, fun p q hp hq hkey => ?_, discover_composed,
    by decide +kernel, ?_⟩
  · have hinjective : ∀ s ∈ ["/", "/r", "/r/caf\u00e9.txt", "/r/caf\u00e9.md"],
        ∀ s' ∈ ["/", "/r", "/r/caf\u00e9.txt", "/r/caf\u00e9.md"],
          keyOfString s = keyOfString s' → s = s' := by
      decide +kernel
    exact hinjective _ (normalText_of_involved_composed hp) _ (normalText_of_involved_composed hq)
      hkey
  · obtain ⟨files, -, ⟨o, hdiscover⟩, o₁, hd, -⟩ := moving_discovers keyOfText id (.new [] []) "txt"
      "md" .empty (.ofString "/r") composed rfl (Discovery.exists_compile ⟨_, rfl⟩) hroot
    obtain ⟨o', hdiscover'⟩ := discover_composed
    obtain rfl := Except.ok.inj (Prod.mk.inj (hdiscover.symm.trans hdiscover')).1
    refine hd.plans_nothing (Backing.still_ofMemory _ _) rfl
      (separator_not_mem_bareExtension "md" (by decide)) (fun p hp new hsource hnew => ?_) _ _
    rcases List.mem_pair.mp hp with rfl | rfl
    · exact absurd hsource (by decide +kernel)
    · rw [show (Path.ofString "/r/caf\u00e9.txt").withExtension? (Utf8.encode
        (bareExtension "md").toList) = some (.ofString "/r/caf\u00e9.md") by decide +kernel] at hnew
      obtain rfl := Option.some.inj hnew
      refine List.mem_map.mpr ⟨.ofString "/r/cafe\u0301.md", List.mem_cons_self, ?_⟩
      refine (congrArg keyOfString normalText_decomposed).trans (congrArg keyOfString ?_)
      decide +kernel

end Engine

end TreePlan
