import TreePlan.Proofs.Engine.Keeping

/-!
# What a run does to an overlay

However handlers behave, the engine changes an overlay in four ways only (`Overlay.Move`): it
learns, it announces a command that has led to others, it notes a failed handler, and it stages a
change and announces it at once. So a whole run of the machine is some such moves (`Works.moves`).
What every move keeps, every run keeps: what is known stays known, what is staged stays staged in
its place, and a coherent overlay stays coherent. What callers are told only grows, and what they
are told to be staged is in the plan in the end (`Moves.announced_planned`).
-/

namespace TreePlan

namespace Overlay

variable {ω : Type}

/-- One way in which the engine changes an overlay. -/
inductive Move (b : Backing ω) : Overlay ω → Overlay ω → Prop
  /-- It learns. -/
  | learn {o o' : Overlay ω} (h : Learns b o o') : Move b o o'
  /-- It announces a command that has led to others. -/
  | announce (o : Overlay ω) (parent : ParentKind) (path : Path) :
      Move b o (o.log b (.executed parent.kind path))
  /-- It notes a failed handler. -/
  | abandon (o : Overlay ω) (path : Path) (failure : Failure) :
      Move b o (o.log b (.abandoned path failure))
  /-- It stages a change and announces it. -/
  | carry (o : Overlay ω) (path : Path) (c : Change) :
      Move b o ((o.stageChange b path c).log b (.executed c.kind path))

/-- Any number of changes by the engine. -/
abbrev Moves (b : Backing ω) : Overlay ω → Overlay ω → Prop :=
  Relation.ReflTransGen (Move b)

variable {b : Backing ω} {o o' : Overlay ω}

/-- Learning is a move. -/
theorem Learns.moves (h : Learns b o o') : Moves b o o' := .single (.learn h)

/-- Asking leads to what an overlay learns. -/
theorem keptByAsking_learns (o : Overlay ω) : KeptByAsking b (Learns b o) where
  ask _ h _ ho := ho.trans (Operation.run_learns b h _)
  log h _ ho := ho.tail (.log _ _ h)

/-- All that the engine does leads to moves. -/
theorem keptByRuns_moves (o : Overlay ω) : KeptByRuns b (Moves b o) where
  ask _ h _ ho := ho.tail (.learn (Operation.run_learns b h _))
  log h _ ho := ho.tail (.learn (.single (.log _ _ h)))
  announce parent path _ ho := ho.tail (.announce _ parent path)
  abandon path failure _ ho := ho.tail (.abandon _ path failure)
  carry path c _ ho := ho.tail (.carry _ path c)

/-- What is known stays known. -/
theorem Moves.isSome_get? (h : Moves b o o') {k : PathKey}
    (hk : (o.stores.entries.get? k).isSome) : (o'.stores.entries.get? k).isSome := by
  induction h with
  | refl => exact hk
  | tail _ move ih =>
    cases move with
    | learn hl => exact hl.isSome_get? ih
    | announce | abandon => exact ih
    | carry path c =>
      rw [show ∀ o : Overlay ω, ∀ event, (o.log b event).stores = o.stores from fun _ _ => rfl,
        entries_stageChange]
      split
      · rfl
      · exact ih

/-- What has happened while an overlay learns is added to its journal. -/
theorem Learns.prefix_journal (h : Learns b o o') : o.journal <+: o'.journal := by
  induction h with
  | refl => exact List.prefix_rfl
  | tail _ step ih =>
    refine ih.trans ?_
    cases step with
    | log event => exact List.prefix_append _ _
    | look | record | relate => exact List.prefix_rfl

/-- What has happened is added to the journal. -/
theorem Moves.prefix_journal (h : Moves b o o') : o.journal <+: o'.journal := by
  induction h with
  | refl => exact List.prefix_rfl
  | tail _ move ih =>
    refine ih.trans ?_
    cases move with
    | learn hl => exact hl.prefix_journal
    | announce | abandon | carry => exact List.prefix_append _ _

/-- Staging leaves the order of the staged keys alone or adds a key at the end. -/
theorem keys_prefix_stageChange (path : Path) (c : Change) (o : Overlay ω) :
    o.stores.changes.byKey.keys <+: (o.stageChange b path c).stores.changes.byKey.keys := by
  rw [show (o.stageChange b path c).stores.changes.byKey =
    o.stores.changes.byKey.put (b.hash path) c from rfl, OrderedMap.keys_put]
  split
  · exact List.prefix_rfl
  · exact List.prefix_append _ _

/-- What is staged stays staged, in its place. -/
theorem Moves.keys_prefix (h : Moves b o o') :
    o.stores.changes.byKey.keys <+: o'.stores.changes.byKey.keys := by
  induction h with
  | refl => exact List.prefix_rfl
  | tail _ move ih =>
    refine ih.trans ?_
    cases move with
    | learn hl => exact hl.changes_eq ▸ List.prefix_rfl
    | announce | abandon => exact List.prefix_rfl
    | carry path c => exact keys_prefix_stageChange path c _

/-- A coherent overlay stays coherent. -/
theorem Coherent.moves (h : Moves b o o') (hc : Coherent b o) : Coherent b o' := by
  induction h with
  | refl => exact hc
  | tail _ move ih =>
    cases move with
    | learn hl => exact ih.learns hl
    | announce | abandon => exact ⟨ih.hash_path, ih.known_of_staged⟩
    | carry path c =>
      have hs := ih.stageChange path c
      exact ⟨hs.hash_path, hs.known_of_staged⟩

/-! ## What is announced is planned -/

/-- A key is staged, and recorded for a path that has it. -/
structure Planned (b : Backing ω) (k : PathKey) (o : Overlay ω) : Prop where
  /-- It is staged. -/
  staged : (o.stores.changes.get? k).isSome
  /-- It is recorded for a path that has it. -/
  known : ∃ entry, o.stores.entries.get? k = some entry ∧ b.hash entry.path = k

/-- A planned key has a step in the plan. -/
theorem Planned.exists_step {k : PathKey} (h : Planned b k o) :
    ∃ step ∈ o.plan, b.hash step.path = k := by
  obtain ⟨change, hchange⟩ := Option.isSome_iff_exists.mp h.staged
  obtain ⟨entry, hentry, hhash⟩ := h.known
  have hmem : (k, change) ∈ o.stores.changes.toList :=
    (OrderedMap.get?_eq_some_iff _ _ _).mp hchange
  refine ⟨stepFor entry.path change, List.mem_filterMap.mpr ⟨(k, change), hmem, ?_⟩, ?_⟩
  · dsimp only
    rw [hentry]
    rfl
  · rw [(change_stepFor entry.path change).1, hhash]

/-- Recording an entry under the key of its path keeps a key recorded for a path that has it. -/
theorem known_record {k : PathKey}
    (h : ∃ entry, o.stores.entries.get? k = some entry ∧ b.hash entry.path = k) (entry : Entry) :
    ∃ found, (o.record (b.hash entry.path) entry).stores.entries.get? k = some found ∧
      b.hash found.path = k := by
  rw [get?_record]
  by_cases hk : b.hash entry.path = k
  · exact ⟨entry, if_pos hk, hk⟩
  · rw [if_neg hk]
    exact h

/-- Learning keeps a key planned. -/
theorem Planned.learns {k : PathKey} (hl : Learns b o o') (h : Planned b k o) : Planned b k o' where
  staged := hl.changes_eq ▸ h.staged
  known := by
    induction hl with
    | refl => exact h.known
    | tail _ step ih =>
      cases step with
      | look | log => exact ih
      | record entry => exact known_record ih entry
      | relate parent entry => exact known_record ih entry

/-- A staged change is planned. -/
theorem planned_stageChange (path : Path) (c : Change) (o : Overlay ω) :
    Planned b (b.hash path) (o.stageChange b path c) where
  staged := by
    rw [get?_stageChange, if_pos rfl]
    rfl
  known := ⟨⟨.file, path⟩, by rw [entries_stageChange, if_pos rfl], rfl⟩

/-- Staging keeps a key planned. -/
theorem Planned.stageChange {k : PathKey} (h : Planned b k o) (path : Path) (c : Change) :
    Planned b k (o.stageChange b path c) := by
  by_cases hk : b.hash path = k
  · exact hk ▸ planned_stageChange path c o
  · refine ⟨?_, known_record h.known ⟨.file, path⟩⟩
    rw [get?_stageChange, if_neg hk]
    exact h.staged

/-- An event keeps a key planned. -/
theorem Planned.log {k : PathKey} (h : Planned b k o) (event : Event) :
    Planned b k (o.log b event) := ⟨h.staged, h.known⟩

/-- What is announced is still planned when one more thing is told, and so is that if it announces a
change that is planned. -/
theorem announced_planned_log {p : Overlay ω} {told : List Event} {event : Event}
    (he : event.isReport = true) (hreports : p.reports = o.reports ++ told)
    (hplanned : ∀ (c : Change) path, .executed c.kind path ∈ told → Planned b (b.hash path) p)
    (hevent : ∀ (c : Change) path, event = .executed c.kind path → Planned b (b.hash path) p) :
    ∃ told, (p.log b event).reports = o.reports ++ told ∧
      ∀ (c : Change) path, .executed c.kind path ∈ told →
        Planned b (b.hash path) (p.log b event) := by
  refine ⟨told ++ [event], ?_, fun c path hmem => ?_⟩
  · rw [← List.append_assoc, ← hreports, reports, reports, Overlay.log, List.filter_append,
      List.filter_cons, he]
    rfl
  · rcases List.mem_append.mp hmem with hmem | hmem
    · exact (hplanned c path hmem).log event
    · exact (hevent c path (List.mem_singleton.mp hmem).symm).log event

/-- What is announced to be staged is planned in the end. -/
theorem Moves.announced_planned (h : Moves b o o') :
    ∃ told, o'.reports = o.reports ++ told ∧
      ∀ (c : Change) path, .executed c.kind path ∈ told → Planned b (b.hash path) o' := by
  induction h with
  | refl => exact ⟨[], (List.append_nil _).symm, fun _ _ hmem => absurd hmem List.not_mem_nil⟩
  | @tail o₁ o₂ _ move ih =>
    obtain ⟨told, hreports, hplanned⟩ := ih
    cases move with
    -- Learning tells callers nothing, and every other move tells them one thing.
    | learn hl =>
      refine ⟨told, hl.reports_eq.trans hreports, fun c path hmem => ?_⟩
      exact (hplanned c path hmem).learns hl
    | announce parent path =>
      refine announced_planned_log rfl hreports hplanned fun c path' hevent => ?_
      exact absurd (Event.executed.inj hevent).1.symm (c.kind_ne_parentKind parent)
    | abandon path failure =>
      refine announced_planned_log rfl hreports hplanned fun c path' hevent => ?_
      cases hevent
    | carry path c =>
      have hkept (c' : Change) (path' : Path) (hmem : .executed c'.kind path' ∈ told) :=
        (hplanned c' path' hmem).stageChange path c
      refine announced_planned_log (p := o₁.stageChange b path c) rfl hreports hkept
        fun c' path' hevent => ?_
      obtain ⟨-, rfl⟩ := Event.executed.inj hevent
      exact planned_stageChange path c o₁

end Overlay

namespace Engine

open Overlay

variable {ω σ : Type} (e : Engine ω σ) (state : Option σ)

/-- Running the handler of a directory only learns. -/
theorem performDirectory_learns (path : Path) (options : Options) (o : Overlay ω) :
    Learns e.backing o (e.performDirectory state path options o).2 :=
  performDirectory_kept (keptByAsking_learns o) path options .refl

/-- Discovering files under a directory only learns. -/
theorem performDiscovery_learns (path : Path) (options : Options) (o : Overlay ω) :
    Learns e.backing o (e.performDiscovery path options o).2 :=
  performDiscovery_kept (keptByAsking_learns o) path options .refl

variable {e state}

/-- A whole run of the machine is some moves. -/
theorem Works.moves {stack : List Task} {o o' : Overlay ω} {result : Except RunError Unit}
    (h : e.Works state stack o result o') : Moves e.backing o o' :=
  h.kept (keptByRuns_moves o) .refl

end Engine

end TreePlan
