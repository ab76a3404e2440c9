import TreePlan.Proofs.Text.Replace
import TreePlan.Proofs.Transforms.Removing
import TreePlan.Transforms.Replace

/-!
# What replacing stages

A run that replaces text handles the discovered files one after the other (`Overlay.Replaced`).
What it works on is what a file says when its turn comes, when the files before it have been
traversed (`Overlay.view?`): staged content, else what the file system says, else nothing. The file
is staged again if the text occurs in that, and left alone otherwise (`Overlay.Becomes`). Every
other key is left alone, so runs compose: what a file says after a run is what it said before with
the text replaced (`Overlay.Replaced.view?_eq`), and that is what the next run works on.

A file that is staged for deletion cannot be read. If no discovered file is, the run ends well
(`Engine.replacing_ends`); otherwise it fails at the first, the files before it having been handled
(`Engine.replacing_fails`).
-/

namespace TreePlan

open Engine

variable {ω σ : Type} {b : Backing ω}

namespace Overlay

/-! ## Views -/

/-- What a file says when it is read in a world: what is staged, else what the file system says,
else nothing. A file that is staged for deletion says nothing at all. -/
def view? (b : Backing ω) (p : Path) (w : ω) (o : Overlay ω) : Option String :=
  match o.stores.changes.get? (b.hash p) with
  | some (.write data) => some data
  | some .delete => none
  | none => some ((b.read p w).1.toOption.getD "")

/-- A file says nothing at all if it is staged for deletion. -/
theorem view?_eq_none {p : Path} {w : ω} {o : Overlay ω} :
    o.view? b p w = none ↔ o.stores.changes.get? (b.hash p) = some .delete := by
  unfold view?
  cases o.stores.changes.get? (b.hash p) with
  | none => exact ⟨nofun, nofun⟩
  | some c =>
    cases c with
    | write data => exact ⟨nofun, nofun⟩
    | delete => exact ⟨fun _ => rfl, fun _ => rfl⟩

/-- Reading a file shows what it says. -/
theorem read_of_view? {p : Path} {v : String} {o : Overlay ω} (h : o.view? b p o.world = some v) :
    o.read b p = (.ok v, (o.read b p).2) := by
  unfold view? at h
  unfold read
  cases hstaged : o.stores.changes.get? (b.hash p) with
  | some c =>
    rw [hstaged] at h
    cases c with
    | write data => rw [Option.some.inj h]
    | delete => exact nomatch h
  | none =>
    rw [hstaged] at h
    have hv := Option.some.inj h
    generalize b.read p o.world = answer at hv ⊢
    obtain ⟨content, w⟩ := answer
    cases content with
    | ok data =>
      obtain rfl : data = v := hv
      rfl
    | error cause =>
      obtain rfl : "" = v := hv
      rfl

/-- Reading a file that is staged for deletion fails. -/
theorem read_of_deleted {p : Path} {o : Overlay ω}
    (h : o.stores.changes.get? (b.hash p) = some .delete) :
    o.read b p = (.error (.fileDeleted p), o) := by
  unfold read
  rw [h]

/-! ## Replacing -/

/-- What becomes of a key when text is replaced in a file: the text and what replaces it, what the
file says, what was staged, and what is staged then. -/
inductive Becomes (source target v : String) (before : Option Change) : Option Change → Prop
  /-- The text is not empty and occurs, so it is replaced from left to right. -/
  | replaced {new : String} (hsource : source ≠ "") (hoccurs : source.toList <:+: v.toList)
      (hnew : Text.Replaces source.toList target.toList v.toList new.toList) :
      Becomes source target v before (some (.write new))
  /-- The text is empty or does not occur, so the file is left alone. -/
  | kept (hsource : source = "" ∨ ¬source.toList <:+: v.toList) :
      Becomes source target v before before

/-- Text has been replaced in files one after the other by an engine with options and a state: the
text and what replaces it, the overlay in which the first file was about to be traversed, the files,
the overlay before, and the overlay after. -/
structure Replaced (e : Engine ω σ) (options : Options) (state : Option σ)
    (source target : String) (first : Overlay ω) (files : List Path) (o o' : Overlay ω) :
    Prop where
  /-- Every file is replaced as what it said when its turn came. -/
  becomes : ∀ p ∈ files, ∃ now v, e.Turn options state first files p now ∧
    o.view? e.backing p now.world = some v ∧
      Becomes source target v (o.stores.changes.get? (e.backing.hash p))
        (o'.stores.changes.get? (e.backing.hash p))
  /-- What is staged for other keys is as it was. -/
  get?_eq : ∀ k, k ∉ files.map e.backing.hash →
    o'.stores.changes.get? k = o.stores.changes.get? k
  /-- Every file is traversed once, in order. -/
  traversed : o'.done .traverseFile = o.done .traverseFile ++ files
  /-- Every file is handed over once, in order. -/
  handed : o'.done .materialize = o.done .materialize ++ files

variable {e : Engine ω σ} {options : Options} {state : Option σ} {source target : String}
  {first : Overlay ω}

/-- In no file anything has been replaced. -/
theorem Replaced.nil (o : Overlay ω) : Replaced e options state source target first [] o o where
  becomes _ hp := nomatch hp
  get?_eq _ _ := rfl
  traversed := (List.append_nil _).symm
  handed := (List.append_nil _).symm

/-- A text with another one replaced in it: the text that is replaced, unless it is empty, what
replaces it, the text before, and the text after. -/
def Rewrites (source target v new : String) : Prop :=
  if source = "" then new = v
  else Text.Replaces source.toList target.toList v.toList new.toList

/-- What a file says in the end is what it said before, with the text replaced, as long as the file
system says the same of it at all times. -/
theorem Replaced.view?_eq {files : List Path} {o o' : Overlay ω}
    (h : Replaced e options state source target first files o o') {p : Path} (hp : p ∈ files)
    (hread : ∀ w w', (e.backing.read p w).1 = (e.backing.read p w').1) (w : ω) :
    ∃ v new, o.view? e.backing p w = some v ∧ o'.view? e.backing p w = some new ∧
      Rewrites source target v new := by
  obtain ⟨now, v, -, hview, hbecomes⟩ := h.becomes p hp
  have hv : o.view? e.backing p w = some v := by
    rw [← hview, view?, view?, hread w now.world]
  refine ⟨v, ?_⟩
  generalize hafter : o'.stores.changes.get? (e.backing.hash p) = after at hbecomes
  cases hbecomes with
  | @replaced new hsource _ hnew =>
    refine ⟨new, hv, by rw [view?, hafter], ?_⟩
    rw [Rewrites, if_neg hsource]
    exact hnew
  | kept hsource =>
    refine ⟨v, hv, by rw [← hv, view?, view?, hafter], ?_⟩
    rw [Rewrites]
    split
    · rfl
    · rename_i hne
      exact Text.replaces_self _ (hsource.resolve_left hne)

/-- Stages what a file becomes, if the text is replaced in it. -/
def stageReplaced (b : Backing ω) (source target : String) (p : Path) (v : String)
    (o : Overlay ω) : Overlay ω :=
  match Text.replace? source target v with
  | some new => (o.stageWrite b p new).log b (.executed .stageData p)
  | none => o

/-- The overlay after text has been replaced in a file. -/
def afterReplacing (b : Backing ω) (source target : String) (p : Path) (v : String)
    (o : Overlay ω) : Overlay ω :=
  (((o.read b p).2.stageReplaced b source target p v).log b (.executed .materialize p)).log b
    (.executed .traverseFile p)

/-- What is staged for a file becomes what the file says, with the text replaced. -/
theorem becomes_stageReplaced (source target v : String) (p : Path) (o : Overlay ω) :
    Becomes source target v (o.stores.changes.get? (b.hash p))
      ((o.stageReplaced b source target p v).stores.changes.get? (b.hash p)) := by
  unfold stageReplaced
  split
  · rename_i new hnew
    obtain ⟨hsource, hoccurs, hreplaces⟩ := Text.replace?_eq_some.mp hnew
    have hstaged := get?_stageChange (b := b) p (.write new) o (b.hash p)
    rw [if_pos rfl] at hstaged
    exact hstaged ▸ .replaced hsource hoccurs hreplaces
  · rename_i hnone
    exact .kept (Text.replace?_eq_none.mp hnone)

/-- What is staged for other keys is left alone. -/
theorem get?_stageReplaced (source target v : String) {p : Path} (o : Overlay ω) {k : PathKey}
    (h : b.hash p ≠ k) :
    (o.stageReplaced b source target p v).stores.changes.get? k = o.stores.changes.get? k := by
  unfold stageReplaced
  split
  · rename_i new _
    have hstaged := get?_stageChange (b := b) p (.write new) o k
    rw [if_neg h] at hstaged
    exact hstaged
  · rfl

/-- Staging what a file becomes traverses and hands over nothing. -/
theorem done_stageReplaced {kind : CommandKind} (h : kind ≠ .stageData)
    (source target v : String) (p : Path) (o : Overlay ω) :
    (o.stageReplaced b source target p v).done kind = o.done kind := by
  unfold stageReplaced
  split
  · rw [done_log, Event.done?, if_neg h.symm]
    exact List.append_nil _
  · rfl

/-- Text has been replaced in one more file, whose key is not that of one before it. -/
theorem Replaced.snoc {files : List Path} {o o' : Overlay ω}
    (h : Replaced e options state source target first files o o') {p : Path} {v : String}
    (hp : e.backing.hash p ∉ files.map e.backing.hash)
    (hworks : e.Works state (traversals options files) first (.ok ()) o')
    (hv : o.view? e.backing p o'.world = some v) :
    Replaced e options state source target first (files ++ [p]) o
      (o'.afterReplacing e.backing source target p v) where
  becomes q hq := by
    have hread := (read_learns (b := e.backing) p o').changes_eq
    rcases List.mem_append.mp hq with hq | hq
    · obtain ⟨now, v', hturn, hview, hbecomes⟩ := h.becomes q hq
      have hne : e.backing.hash p ≠ e.backing.hash q := fun he => hp (he ▸ List.mem_map_of_mem hq)
      refine ⟨now, v', hturn.append [p], hview, ?_⟩
      have hkept := get?_stageReplaced source target v (o'.read e.backing p).2 hne
      rw [hread] at hkept
      exact hkept ▸ hbecomes
    · -- The turn of the file itself comes when all the others have been traversed.
      obtain rfl := List.mem_singleton.mp hq
      refine ⟨o', v, ⟨files, [], rfl, hworks⟩, hv, ?_⟩
      have hbecomes := becomes_stageReplaced (b := e.backing) source target v q
        (o'.read e.backing q).2
      rw [hread, h.get?_eq _ hp] at hbecomes
      exact hbecomes
  get?_eq k hk := by
    rw [List.map_append, List.mem_append, not_or, List.map_singleton, List.mem_singleton] at hk
    have hkept := get?_stageReplaced source target v (o'.read e.backing p).2 (Ne.symm hk.2)
    rw [(read_learns (b := e.backing) p o').changes_eq, h.get?_eq k hk.1] at hkept
    exact hkept
  traversed := by
    have hhanded : CommandKind.materialize ≠ .traverseFile := nofun
    have hstaged : CommandKind.traverseFile ≠ .stageData := nofun
    rw [afterReplacing, done_executed_self, done_executed_of_ne hhanded,
      done_stageReplaced hstaged, (read_learns p o').done_eq, h.traversed, List.append_assoc]
  handed := by
    have htraversed : CommandKind.traverseFile ≠ .materialize := nofun
    have hstaged : CommandKind.materialize ≠ .stageData := nofun
    rw [afterReplacing, done_executed_of_ne htraversed, done_executed_self,
      done_stageReplaced hstaged, (read_learns p o').done_eq, h.handed, List.append_assoc]

end Overlay

open Overlay

namespace Engine

/-! ## The run -/

/-- The engine that replaces text in discovered files. -/
def replacing (b : Backing ω) (d : Discovery) (source target : String)
    (dependencies : Dependencies) : Engine ω Unit :=
  ⟨b, replacement ω d source target, dependencies⟩

section Runs

variable (d : Discovery) (source target : String) (dependencies : Dependencies) (options : Options)
  (state : Option Unit) {root : Path} {o o₁ : Overlay ω} {files : List Path}

/-- The engine works on files only if there is something to discover. -/
theorem replacing_filesOnly (h : d.includes.isEmpty = false) :
    (replacing b d source target dependencies).FilesOnly := ⟨h, fun _ _ => rfl, fun _ _ => rfl⟩

/-- Text is replaced in a recorded file that says something. -/
theorem replacing_works {p : Path} {v : String}
    (h : (o.stores.entries.get? (b.hash p)).isSome) (hv : o.view? b p o.world = some v) :
    (replacing b d source target dependencies).Works state [.command (.traverseFile p options)] o
      (.ok ()) (o.afterReplacing b source target p v) := by
  refine works_of_perform (perform_defaultFile (fun _ => rfl) options state h) ?_
  have hcontent : (replacing b d source target dependencies).perform state
      (.command (.materialize p options)) o =
        (.ok [.command ((Text.replace? source target v).elim .noop (.stage p)),
          .announcement .content p], (o.read b p).2) := by
    rw [perform_materialize (read_of_view? hv) rfl]
    unfold replacing replacement
    dsimp only
    cases Text.replace? source target v <;> rfl
  refine .step hcontent ?_
  unfold afterReplacing stageReplaced
  cases Text.replace? source target v with
  | none => exact .step rfl (.step rfl (.step rfl (.done _)))
  | some new => exact .step rfl (.step rfl (.step rfl (.done _)))

/-- The discovered files are handled as long as none of them is staged for deletion. -/
theorem replacing_traversals (hnodup : (files.map b.hash).Nodup)
    (hknown : ∀ p ∈ files, (o.stores.entries.get? (b.hash p)).isSome)
    (hstaged : ∀ p ∈ files, o.stores.changes.get? (b.hash p) ≠ some .delete) :
    ∃ o', (replacing b d source target dependencies).Works state (traversals options files) o
      (.ok ()) o' ∧
      Replaced (replacing b d source target dependencies) options state source target o files o
        o' := by
  refine works_files (e := replacing b d source target dependencies) options state
    (P := fun before o' =>
      Replaced (replacing b d source target dependencies) options state source target o before o
        o')
    hnodup hknown ?_ (.nil o)
  rintro before p rest o' rfl hnew hknown' hbefore hreplaced
  -- What is staged for the file is what was staged at first, so it still says something.
  have hsame := hreplaced.get?_eq _ hnew
  obtain ⟨v, hv⟩ : ∃ v, o.view? b p o'.world = some v := by
    rw [← Option.ne_none_iff_exists']
    exact fun hnone => hstaged p (List.mem_append_right _ List.mem_cons_self)
      (view?_eq_none.mp hnone)
  have hv' : o'.view? b p o'.world = some v := by
    rw [← hv, view?, view?,
      show b.hash p = (replacing b d source target dependencies).backing.hash p from rfl, hsame]
  exact ⟨_, replacing_works d source target dependencies options state hknown' hv',
    hreplaced.snoc hnew hbefore hv⟩

/-- What has been replaced in the files of a discovery has been replaced since the run began. -/
theorem Discovers.replaced
    (h : (replacing b d source target dependencies).Discovers root o files o₁)
    {before : List Path} {o₂ : Overlay ω}
    (hr : Replaced (replacing b d source target dependencies) options state source target o₁ before
      o₁ o₂) :
    Replaced (replacing b d source target dependencies) options state source target o₁ before o
      o₂ where
  becomes p hp := by
    obtain ⟨now, v, hturn, hview, hbecomes⟩ := hr.becomes p hp
    refine ⟨now, v, hturn, ?_, ?_⟩
    · rw [← hview, view?, view?, h.learns.changes_eq]
    · rw [← h.learns.changes_eq]
      exact hbecomes
  get?_eq k hk := by
    rw [← h.learns.changes_eq]
    exact hr.get?_eq k hk
  traversed := by rw [hr.traversed, h.learns.done_eq]
  handed := by rw [hr.handed, h.learns.done_eq]

/-- What has been replaced in files has been replaced when the run is concluded. -/
theorem replaced_conclude {o₂ : Overlay ω}
    (h : Replaced (replacing b d source target dependencies) options state source target o₁ files o
      o₂) :
    Replaced (replacing b d source target dependencies) options state source target o₁ files o
      ((replacing b d source target dependencies).conclude root o₂) where
  becomes := h.becomes
  get?_eq := h.get?_eq
  traversed := by
    have hkind : CommandKind.traverseDirectory ≠ .traverseFile := nofun
    rw [done_conclude hkind, h.traversed]
  handed := by
    have hkind : CommandKind.traverseDirectory ≠ .materialize := nofun
    rw [done_conclude hkind, h.handed]

/-- A run that replaces text ends well if no discovered file is staged for deletion, and then text
has been replaced in every discovered file. -/
theorem replacing_ends (h : (replacing b d source target dependencies).Discovers root o files o₁)
    (hstaged : ∀ p ∈ files, o.stores.changes.get? (b.hash p) ≠ some .delete) :
    ∃ o', (replacing b d source target dependencies).Ends root options state o (.ok o'.plan) o' ∧
      Replaced (replacing b d source target dependencies) options state source target o₁ files o
        o' := by
  rw [← h.learns.changes_eq] at hstaged
  obtain ⟨o₂, hworks, hreplaced⟩ := replacing_traversals d source target dependencies
    options state h.nodup (fun p hp => by rw [h.get?_eq_some hp]; rfl) hstaged
  have hfiles : (replacing b d source target dependencies).FilesOnly :=
    replacing_filesOnly d source target dependencies h.isEmpty_includes
  exact ⟨_, h.ends_ok hfiles hworks,
    replaced_conclude d source target dependencies options state
      (h.replaced d source target dependencies options state hreplaced)⟩

/-- A run that replaces text fails at the first discovered file that is staged for deletion, and
then text has been replaced in the files before it and in no other. -/
theorem replacing_fails {before after : List Path} {p : Path}
    (h : (replacing b d source target dependencies).Discovers root o (before ++ p :: after) o₁)
    (hstaged : ∀ q ∈ before, o.stores.changes.get? (b.hash q) ≠ some .delete)
    (hdeleted : o.stores.changes.get? (b.hash p) = some .delete) :
    ∃ o', (replacing b d source target dependencies).Ends root options state o
        (.error (.fileDeleted p)) o' ∧
      Replaced (replacing b d source target dependencies) options state source target o₁ before o
        o' := by
  have hnodup : ((before ++ p :: after).map b.hash).Nodup := h.nodup
  have hknown (q : Path) (hq : q ∈ before ++ p :: after) :
      (o₁.stores.entries.get? (b.hash q)).isSome := by
    rw [show b.hash q = (replacing b d source target dependencies).backing.hash q from rfl,
      h.get?_eq_some hq]
    rfl
  rw [← h.learns.changes_eq] at hstaged hdeleted
  obtain ⟨o₂, hworks, hreplaced⟩ := replacing_traversals d source target dependencies
    options state (hnodup.sublist ((List.sublist_append_left _ _).map _))
    (fun q hq => hknown q (List.mem_append_left _ hq)) hstaged
  -- The file is still staged for deletion when its turn comes, so handing it over fails.
  rw [List.map_append, List.map_cons, List.nodup_append] at hnodup
  have hnew : b.hash p ∉ before.map b.hash :=
    fun hmem => hnodup.2.2 _ hmem _ List.mem_cons_self rfl
  have hdeleted' : o₂.stores.changes.get? (b.hash p) = some .delete :=
    (hreplaced.get?_eq _ hnew).trans hdeleted
  have hfile : (replacing b d source target dependencies).perform state _ o₂ = _ :=
    perform_defaultFile (fun _ => rfl) options state
      (hworks.moves.isSome_get? (hknown p (List.mem_append_right _ List.mem_cons_self)))
  have hcontent : (replacing b d source target dependencies).perform state
      (.command (.materialize p options)) o₂ = (.error (.fileDeleted p), o₂) := by
    rw [perform, performContent,
      show (replacing b d source target dependencies).backing = b from rfl,
      read_of_deleted hdeleted']
  have hfails : (replacing b d source target dependencies).Works state
      (traversals options (p :: after)) o₂ (.error (.fileDeleted p)) o₂ :=
    .step hfile (.fail hcontent)
  have hall := hworks.append_ok hfails
  rw [traversals, traversals, ← List.map_append] at hall
  have hfiles : (replacing b d source target dependencies).FilesOnly :=
    replacing_filesOnly d source target dependencies h.isEmpty_includes
  exact ⟨o₂, h.ends_error hfiles hall,
    h.replaced d source target dependencies options state hreplaced⟩

end Runs

/-- What runs over discovered files do, from any overlay. A run that removes files ends well and
makes the outcome of every discovered file a deletion. A run that replaces text ends well if no
discovered file is staged for deletion: the text is replaced in what each file says when its turn
comes, and runs compose. Otherwise it fails at the first file that is staged for deletion, and has
handled those before it. No two discovered files share a key, so each is handled once. -/
theorem removes_and_replaces (b : Backing ω) (d : Discovery) (dependencies : Dependencies)
    (root : Path) (options : Options) (previous : Option Unit) (o : Overlay ω) :
    (∀ files o₁, (removing b d dependencies).Discovers root o files o₁ →
      (files.map b.hash).Nodup ∧
      ∃ o', (removing b d dependencies).Ends root options previous o (.ok o'.plan) o' ∧
        Removed b files o o') ∧
    ∀ source target files o₁, (replacing b d source target dependencies).Discovers root o files o₁ →
      (files.map b.hash).Nodup ∧
      ((∀ p ∈ files, o.stores.changes.get? (b.hash p) ≠ some .delete) →
        ∃ o', (replacing b d source target dependencies).Ends root options previous o
            (.ok o'.plan) o' ∧
          Replaced (replacing b d source target dependencies) options previous source target o₁
            files o o' ∧
          ∀ p ∈ files, (∀ w w', (b.read p w).1 = (b.read p w').1) → ∀ w, ∃ v new,
            o.view? b p w = some v ∧ o'.view? b p w = some new ∧ Rewrites source target v new) ∧
      ∀ before p after, files = before ++ p :: after →
        (∀ q ∈ before, o.stores.changes.get? (b.hash q) ≠ some .delete) →
        o.stores.changes.get? (b.hash p) = some .delete →
        ∃ o', (replacing b d source target dependencies).Ends root options previous o
            (.error (.fileDeleted p)) o' ∧
          Replaced (replacing b d source target dependencies) options previous source target o₁
            before o o' := by
  refine ⟨fun files o₁ h => ⟨h.nodup, removing_ends d dependencies options previous h⟩,
    fun source target files o₁ h => ⟨h.nodup, fun hstaged => ?_, ?_⟩⟩
  · obtain ⟨o', hends, hreplaced⟩ :=
      replacing_ends d source target dependencies options previous h hstaged
    exact ⟨o', hends, hreplaced, fun p hp hread w => hreplaced.view?_eq hp hread w⟩
  · rintro before p after rfl hstaged hdeleted
    exact replacing_fails d source target dependencies options previous h hstaged hdeleted

/-- Two files that say the same under a directory, both of which every pattern finds. -/
def twoFiles : Backing Unit :=
  .ofView (fun p => ⟨Vector.replicate 32 (p.bytes.getLast?.getD 0)⟩) id
    (fun _ _ => .ok (some .directory)) (fun _ _ => .ok []) (fun _ _ => .ok "aaa")
    (fun _ _ _ _ => .ok [⟨[97]⟩, ⟨[98]⟩])

/-- The two files are removed; a text is replaced in both of them; and if the second is staged for
deletion, the text is replaced in the first, and then the run fails. -/
theorem removes_and_replaces_twoFiles :
    (∃ o', (removing twoFiles ⟨["*", "**"], []⟩ .empty).Ends ⟨[47]⟩ .empty none (.new ())
        (.ok o'.plan) o' ∧ Removed twoFiles [⟨[97]⟩, ⟨[98]⟩] (.new ()) o') ∧
      (∃ o₁ o', (replacing twoFiles ⟨["*", "**"], []⟩ "aa" "b" .empty).Ends ⟨[47]⟩ .empty none
        (.new ()) (.ok o'.plan) o' ∧
        Replaced (replacing twoFiles ⟨["*", "**"], []⟩ "aa" "b" .empty) .empty none "aa" "b" o₁
          [⟨[97]⟩, ⟨[98]⟩] (.new ()) o') ∧
      ∃ o₁ o', (replacing twoFiles ⟨["*", "**"], []⟩ "aa" "b" .empty).Ends ⟨[47]⟩ .empty none
        ((Overlay.new ()).stageDelete twoFiles ⟨[98]⟩) (.error (.fileDeleted ⟨[98]⟩)) o' ∧
        Replaced (replacing twoFiles ⟨["*", "**"], []⟩ "aa" "b" .empty) .empty none "aa" "b" o₁
          [⟨[97]⟩] ((Overlay.new ()).stageDelete twoFiles ⟨[98]⟩) o' := by
  have h := removes_and_replaces twoFiles ⟨["*", "**"], []⟩ .empty ⟨[47]⟩ .empty none (.new ())
  have hdeleted := removes_and_replaces twoFiles ⟨["*", "**"], []⟩ .empty ⟨[47]⟩ .empty none
    ((Overlay.new ()).stageDelete twoFiles ⟨[98]⟩)
  refine ⟨(h.1 [⟨[97]⟩, ⟨[98]⟩] _ (.discover rfl rfl rfl rfl)).2, ?_, ?_⟩
  · obtain ⟨-, hok, -⟩ := h.2 "aa" "b" [⟨[97]⟩, ⟨[98]⟩] _ (.discover rfl rfl rfl rfl)
    obtain ⟨o', hends, hreplaced, -⟩ := hok fun _ _ => nofun
    exact ⟨_, o', hends, hreplaced⟩
  · obtain ⟨-, -, hfails⟩ := hdeleted.2 "aa" "b" [⟨[97]⟩, ⟨[98]⟩] _ (.discover rfl rfl rfl rfl)
    refine ⟨_, hfails [⟨[97]⟩] ⟨[98]⟩ [] rfl (fun q hq => ?_) rfl⟩
    rw [List.mem_singleton.mp hq]
    decide

end Engine

end TreePlan
