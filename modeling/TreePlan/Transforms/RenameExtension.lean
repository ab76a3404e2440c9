import TreePlan.Path.Split
import TreePlan.Transform
import TreePlan.Transforms.Discovery

/-!
# Renaming extensions

Moves every discovered file with one extension to another extension and keeps its content. The file
handler reads the source, orders its deletion, and hands over the new path with the content in the
options; nothing is there yet, so the handler of contents stages what the options carry. A target
that exists is left alone.
-/

namespace TreePlan

/-- The option that carries the content of the source. -/
def contentOption : String := "rename.content"

/-- An extension without the dots in front of it. -/
def bareExtension (ext : String) : String := String.ofList (ext.toList.dropWhile (· = '.'))

/-- What to do with a file: nothing unless it has the extension `source`. -/
def moveFile {ω : Type} (source target : String) (v : Visit Unit) :
    FileProgram ω (List FileCommand) :=
  if v.path.extension? = some (Utf8.encode source.toList) then
    match v.path.withExtension? (Utf8.encode target.toList) with
    | none => throw (.separatorInExtension target)
    | some new => do
      if (← FileProgram.classify new).isSome then
        throw (.stated (new.toText ++ " already exists"))
      let content ← FileProgram.read v.path
      return [.delete v.path, .materialize new (v.options.put contentOption content)]
  else pure []

/-- The transform that moves discovered files from one extension to another. -/
def extensionRename (ω : Type) (d : Discovery) (source target : String) : Transform ω Unit where
  includes := d.includes
  excludes := d.excludes
  handleFile := moveFile (bareExtension source) (bareExtension target)
  handleData v _ := pure <|
    match v.options.get? contentOption with
    | some content => .stage v.path content
    | none => .noop

end TreePlan
