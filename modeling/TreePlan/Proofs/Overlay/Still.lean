import TreePlan.MemoryTree
import TreePlan.Proofs.Overlay.Learning

/-!
# Worlds that stand still

Asking may change the world, but some worlds are never left by it (`Backing.Encloses`). No question
to an overlay leaves them either. If moreover the answers are the same in all of these worlds
(`Backing.SteadyIn`), an overlay that does not know a path says of it what the backing says of it in
any of them (`SteadyIn.classify_eq_none_iff`), and it discovers the same files again
(`SteadyIn.fst_searchAll`).

A backing is still if asking it leaves the world alone (`Backing.Still`), as a tree in memory does.
Then no single world is left, and what an overlay says of a path that it does not know is what the
backing says of it in this world (`Still.classify_eq_none_iff`, `Still.read_of_unstaged`).
-/

namespace TreePlan

open Overlay

variable {ω : Type}

/-! ## Worlds that are not left -/

/-- Asking the backing never leaves these worlds. -/
structure Backing.Encloses (b : Backing ω) (W : ω → Prop) : Prop where
  /-- Asking what a path is. -/
  stat : ∀ p w, W w → W (b.stat p w).2
  /-- Listing a directory. -/
  list : ∀ p w, W w → W (b.list p w).2
  /-- Reading a file. -/
  read : ∀ p w, W w → W (b.read p w).2
  /-- Taking notice of an event. -/
  notice : ∀ event w, W w → W (b.notice event w)

/-- An overlay does not find a path as one kind if it does not know it and the backing does not find
it so. -/
theorem Overlay.classifyAs_eq_none_iff {b : Backing ω} (kind : EntryKind)
    (path : Path) (o : Overlay ω) :
    (o.classifyAs b kind path).1 = none ↔ o.stores.entries.get? (b.hash path) = none ∧
      (b.stat path o.world).1 ≠ .ok (some kind) := by
  unfold classifyAs
  split
  · rename_i hknown
    rw [hknown]
    exact ⟨nofun, nofun⟩
  · rename_i hunknown
    rw [hunknown]
    split
    · rename_i hmissed
      rw [hmissed]
      exact ⟨fun _ => ⟨rfl, nofun⟩, fun _ => rfl⟩
    · rename_i hfound
      rw [hfound]
      split
      · rename_i hkind
        exact ⟨nofun, fun hne => absurd (congrArg Except.ok hkind) hne.2⟩
      · rename_i hkind
        exact ⟨fun _ => ⟨rfl, fun he => hkind (Except.ok.inj he)⟩, fun _ => rfl⟩

namespace Backing.Encloses

variable {b : Backing ω} {W : ω → Prop} (h : b.Encloses W) {o : Overlay ω}

include h

/-- An event does not leave the worlds. -/
theorem world_log (event : Event) (ho : W o.world) : W (o.log b event).world :=
  h.notice event o.world ho

/-- Classifying as one kind does not leave the worlds. -/
theorem world_classifyAs (kind : EntryKind) (path : Path) (ho : W o.world) :
    W (o.classifyAs b kind path).2.world := by
  have hstat := h.stat path o.world ho
  unfold classifyAs
  split
  · exact ho
  · split
    · rename_i hmissed
      rw [hmissed] at hstat
      exact h.world_log _ hstat
    · rename_i hfound
      rw [hfound] at hstat
      split <;> exact hstat

/-- Classifying does not leave the worlds. -/
theorem world_classify (path : Path) (ho : W o.world) : W (o.classify b path).2.world :=
  kept_classify (P := fun now => W now.world) path
    (fun kind _ hnow => h.world_classifyAs kind path hnow) ho

/-- An overlay in which a path has been classified is still in the worlds. -/
theorem world_of_classify {path : Path} {found : Option Entry} {o' : Overlay ω}
    (hfound : o.classify b path = (found, o')) (ho : W o.world) : W o'.world := by
  have hworld := h.world_classify path ho
  rw [hfound] at hworld
  exact hworld

/-- Reading does not leave the worlds. -/
theorem world_read (path : Path) (ho : W o.world) : W (o.read b path).2.world := by
  have hread := h.read path o.world ho
  unfold Overlay.read
  split
  · exact ho
  · exact ho
  · split
    · rename_i hcontent
      rw [hcontent] at hread
      exact hread
    · rename_i hfailed
      rw [hfailed] at hread
      exact h.world_log _ hread

/-- An overlay finds nothing at a path if it does not know it and the backing finds neither a
directory nor a file there, if the backing says of the path the same in all of the worlds. -/
theorem classify_eq_none_iff {path : Path}
    (hstat : ∀ w w', W w → W w' → (b.stat path w).1 = (b.stat path w').1) (ho : W o.world) :
    (o.classify b path).1 = none ↔ o.stores.entries.get? (b.hash path) = none ∧
      ∀ kind, (b.stat path o.world).1 ≠ .ok (some kind) := by
  have hdirectory := classifyAs_eq_none_iff (b := b) .directory path o
  have hworld := h.world_classifyAs .directory path ho
  unfold classify classifyDirectory classifyFile
  split
  · rename_i hfound
    rw [hfound] at hdirectory
    refine ⟨nofun, fun hnone => absurd (hdirectory.mpr ⟨hnone.1, hnone.2 .directory⟩) nofun⟩
  · rename_i o₁ hfound
    have hstores := classifyAs_eq_none hfound
    rw [hfound] at hdirectory hworld
    have hnone := hdirectory.mp rfl
    have hfile := classifyAs_eq_none_iff (b := b) .file path o₁
    rw [hstores, hstat o₁.world o.world hworld ho] at hfile
    rw [hfile]
    constructor
    · rintro ⟨hunknown, hfile⟩
      refine ⟨hunknown, fun kind => ?_⟩
      cases kind with
      | file => exact hfile
      | directory => exact hnone.2
    · exact fun hall => ⟨hall.1, hall.2 .file⟩

end Backing.Encloses

/-! ## Steady worlds -/

/-- Asking the backing never leaves these worlds, and in all of them the same question is answered
in the same way. -/
structure Backing.SteadyIn (b : Backing ω) (W : ω → Prop) : Prop extends b.Encloses W where
  /-- Searching for a pattern does not leave the worlds. -/
  glob : ∀ p pattern excludes w, W w → W (b.glob p pattern excludes w).2
  /-- What a path is. -/
  fst_stat : ∀ p w w', W w → W w' → (b.stat p w).1 = (b.stat p w').1
  /-- What a directory holds. -/
  fst_list : ∀ p w w', W w → W w' → (b.list p w).1 = (b.list p w').1
  /-- What a file says. -/
  fst_read : ∀ p w w', W w → W w' → (b.read p w).1 = (b.read p w').1
  /-- What a pattern matches. -/
  fst_glob : ∀ p pattern excludes w w', W w → W w' →
    (b.glob p pattern excludes w).1 = (b.glob p pattern excludes w').1

namespace Backing.SteadyIn

variable {b : Backing ω} {W : ω → Prop} (h : b.SteadyIn W)

include h

/-- An overlay finds nothing at a path if it does not know it and the backing finds neither a
directory nor a file there, in one world or another. -/
theorem classify_eq_none_iff {path : Path} {o : Overlay ω} (ho : W o.world) {w : ω} (hw : W w) :
    (o.classify b path).1 = none ↔ o.stores.entries.get? (b.hash path) = none ∧
      ∀ kind, (b.stat path w).1 ≠ .ok (some kind) := by
  rw [h.fst_stat path w o.world hw ho]
  exact h.toEncloses.classify_eq_none_iff (h.fst_stat path) ho

/-- Searching does not leave the worlds. -/
theorem world_searchAll (directory : Path) (excludes includes : List String)
    (found : OrderedMap PathKey Path) {w : ω} (hw : W w) :
    W (searchAll b directory excludes includes found w).2 := by
  induction includes generalizing found w with
  | nil => exact hw
  | cons pattern rest ih =>
    have hglob := h.glob directory pattern excludes w hw
    rw [searchAll]
    split
    · rename_i herror
      rw [herror] at hglob
      exact hglob
    · rename_i hpaths
      rw [hpaths] at hglob
      exact ih _ hglob

/-- A search finds the same in all of the worlds. -/
theorem fst_searchAll (directory : Path) (excludes includes : List String)
    (found : OrderedMap PathKey Path) {w w' : ω} (hw : W w) (hw' : W w') :
    (searchAll b directory excludes includes found w).1 =
      (searchAll b directory excludes includes found w').1 := by
  induction includes generalizing found w w' with
  | nil => rfl
  | cons pattern rest ih =>
    have hglob := h.glob directory pattern excludes w hw
    have hglob' := h.glob directory pattern excludes w' hw'
    have hsame := h.fst_glob directory pattern excludes w w' hw hw'
    rw [searchAll, searchAll]
    generalize b.glob directory pattern excludes w = answer at hglob hsame ⊢
    generalize b.glob directory pattern excludes w' = answer' at hglob' hsame ⊢
    obtain ⟨paths, w₁⟩ := answer
    obtain ⟨paths', w₁'⟩ := answer'
    obtain rfl : paths = paths' := hsame
    cases paths with
    | error => rfl
    | ok paths => exact ih _ hglob hglob'

end Backing.SteadyIn

/-! ## Worlds that are left alone -/

/-- Asking the backing leaves the world alone. -/
structure Backing.Still (b : Backing ω) : Prop where
  /-- Asking what a path is. -/
  stat : ∀ p w, (b.stat p w).2 = w
  /-- Listing a directory. -/
  list : ∀ p w, (b.list p w).2 = w
  /-- Reading a file. -/
  read : ∀ p w, (b.read p w).2 = w
  /-- Taking notice of an event. -/
  notice : ∀ event w, b.notice event w = w

/-- The keys over a tree in memory. -/
@[simp]
theorem Backing.hash_ofMemory (hash : Hasher) (view : ω → MemoryTree) :
    (Backing.ofMemory hash view).hash = hash := rfl

/-- A tree in memory is left alone. -/
theorem Backing.still_ofMemory (hash : Hasher) (view : ω → MemoryTree) :
    (Backing.ofMemory hash view).Still :=
  ⟨fun _ _ => rfl, fun _ _ => rfl, fun _ _ => rfl, fun _ _ => rfl⟩

namespace Backing.Still

variable {b : Backing ω} (h : b.Still)

include h

/-- No single world is left. -/
theorem encloses (w : ω) : b.Encloses (· = w) where
  stat p _ hw := (h.stat p _).trans hw
  list p _ hw := (h.list p _).trans hw
  read p _ hw := (h.read p _).trans hw
  notice event _ hw := (h.notice event _).trans hw

/-- An event leaves the world alone. -/
theorem world_log (event : Event) (o : Overlay ω) : (o.log b event).world = o.world :=
  (h.encloses o.world).world_log event rfl

/-- Classifying leaves the world alone. -/
theorem world_classify (path : Path) (o : Overlay ω) :
    (o.classify b path).2.world = o.world :=
  (h.encloses o.world).world_classify path rfl

/-- Reading leaves the world alone. -/
theorem world_read (path : Path) (o : Overlay ω) : (o.read b path).2.world = o.world :=
  (h.encloses o.world).world_read path rfl

/-- An overlay finds nothing at a path if it does not know it and the backing finds neither a
directory nor a file there. -/
theorem classify_eq_none_iff {path : Path} {o : Overlay ω} :
    (o.classify b path).1 = none ↔ o.stores.entries.get? (b.hash path) = none ∧
      ∀ kind, (b.stat path o.world).1 ≠ .ok (some kind) :=
  (h.encloses o.world).classify_eq_none_iff (fun _ _ hw hw' => by rw [hw, hw']) rfl

/-- A path that is not staged says what the backing says. -/
theorem read_of_unstaged {path : Path} {content : String} {o : Overlay ω}
    (hunstaged : o.stores.changes.get? (b.hash path) = none)
    (hread : (b.read path o.world).1 = .ok content) : o.read b path = (.ok content, o) := by
  have hworld := h.read path o.world
  generalize hanswer : b.read path o.world = answer at hread hworld
  obtain ⟨result, w⟩ := answer
  obtain rfl : result = .ok content := hread
  obtain rfl : w = o.world := hworld
  unfold Overlay.read
  rw [hunstaged, hanswer]

end Backing.Still

end TreePlan
