import TreePlan.Entry
import TreePlan.Event
import TreePlan.Key

/-!
# What an overlay stands on

A backing answers questions about a world: what a path is, what a directory holds, what a file says,
which files match a pattern. Every answer may depend on the world and may change it, so nothing here
promises that the same question is answered twice in the same way. A world also takes notice of what
happens, so it may keep a log.
-/

namespace TreePlan

/-- A child of a listed directory. A file system may flag a child as a file, as a directory, as both
or as neither. One kind says all that is made of the flags: that of a directory is looked at first,
so a child with both flags counts as a directory, and a child with neither is left out. -/
structure Listed where
  /-- Its name as text. -/
  name : String
  /-- Its kind, if it is a file or a directory. -/
  kind? : Option EntryKind
deriving DecidableEq, Repr

/-- Keys for paths, and answers about a world `ω`. -/
structure Backing (ω : Type) where
  /-- The key of a path. -/
  hash : Hasher
  /-- What a path is; none if it exists and is neither a file nor a directory. Here too a file
  system may set both flags. Who asks looks for one kind and reads its flag alone, so both flags say
  to this question that the path is of this kind, and the answer to the next one may be the other
  kind. -/
  stat : Path → ω → Except IoError (Option EntryKind) × ω
  /-- The children of a directory. -/
  list : Path → ω → Except IoError (List Listed) × ω
  /-- The content of a file. -/
  read : Path → ω → Except IoError String × ω
  /-- The files under a directory that a pattern matches and no exclude excludes. -/
  glob : Path → String → List String → ω → Except SearchError (List Path) × ω
  /-- What the world makes of an event; nothing, unless it keeps a log. -/
  notice : Event → ω → ω := fun _ w => w

namespace Backing

variable {ω : Type}

/-- The backing that answers from what a function shows of a world that its questions leave alone,
where a search fails for its patterns only. -/
def ofView (hash : Hasher) {τ : Type} (view : ω → τ)
    (stat : τ → Path → Except IoError (Option EntryKind))
    (list : τ → Path → Except IoError (List Listed))
    (read : τ → Path → Except IoError String)
    (glob : τ → Path → String → List String → Except PatternSet.Fault (List Path)) :
    Backing ω where
  hash := hash
  stat p w := (stat (view w) p, w)
  list p w := (list (view w) p, w)
  read p w := (read (view w) p, w)
  glob p pattern excludes w :=
    ((glob (view w) p pattern excludes).mapError .invalidPattern, w)

end Backing

end TreePlan
