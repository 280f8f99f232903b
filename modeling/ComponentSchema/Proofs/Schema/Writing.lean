import ComponentSchema.Proofs.Schema.Emission

/-!
The writing of schema files.  All that emission does to files is one such write after the other.
-/

namespace ComponentSchema

namespace Emitter

/-- One schema file is written at its place in the tree, however that ends. -/
inductive WritesOne (emitter : Emitter) (fits : List String → SchemaFile → Prop) :
    FileSystem → FileSystem → Prop
  | write {location : List String} {file : SchemaFile} (fit : fits location file)
    (files : FileSystem) : WritesOne emitter fits files
      (FileAction.writeWithParents (emitter.pathOf location) file.render.toUTF8 files).2

/-- Schema files are written one after the other. -/
abbrev Writes (emitter : Emitter) (fits : List String → SchemaFile → Prop) :
    FileSystem → FileSystem → Prop := Relation.ReflTransGen (emitter.WritesOne fits)

/-- Any schema files. -/
abbrev WritesAny (emitter : Emitter) : FileSystem → FileSystem → Prop :=
  emitter.Writes fun _ _ => True

instance (emitter : Emitter) (fits : List String → SchemaFile → Prop) :
    Std.Refl (emitter.Writes fits) where
  refl _ := .refl

theorem writes_mono {emitter : Emitter} {fits fits' : List String → SchemaFile → Prop}
    (weaker : ∀ location file, fits location file → fits' location file)
    {before after : FileSystem} (writes : emitter.Writes fits before after) :
    emitter.Writes fits' before after := by
  refine Relation.ReflTransGen.mono (fun _ _ one => ?_) _ _ writes
  cases one with
  | write fit => exact .write (weaker _ _ fit) _

theorem keeps_writeFile {emitter : Emitter} {fits : List String → SchemaFile → Prop}
    {location : List String} {file : SchemaFile} (fit : fits location file) (action : String) :
    Task.Keeps (Workshop.OnFiles (emitter.Writes fits)) (emitter.writeFile location file action) := by
  unfold writeFile
  refine Task.Keeps.bind ?_ fun _ => .pure _
  refine Emission.keeps_file (FileAction.keeps_reporting ?_ action _) fun _ _ _ step => step
  exact fun files => .single (.write fit files)

theorem keeps_number {α : Type} {emitter : Emitter} {fits : List String → SchemaFile → Prop}
    (work : Numbered α) :
    Task.Keeps (Workshop.OnFiles (emitter.Writes fits)) (Emission.number work) := by
  have anything : Task.Keeps (fun _ _ => True) work := fun _ => trivial
  exact Emission.keeps_number anything fun _ _ files _ => Std.Refl.refl files

/-- What comes after numbering may rely on what is known of all values that it can answer with. -/
theorem keeps_number_bind {α β : Type} {emitter : Emitter} {fits : List String → SchemaFile → Prop}
    {work : Numbered α} {next : α → Emission β} {answers : α → Prop}
    (known : ∀ before value after, work before = (.ok value, after) → answers value)
    (onward : ∀ value, answers value →
      Task.Keeps (Workshop.OnFiles (emitter.Writes fits)) (next value)) :
    Task.Keeps (Workshop.OnFiles (emitter.Writes fits)) (Emission.number work >>= next) :=
  (keeps_number work).bind_of_ok
    (fun _ value _ run => known _ value _ (Emission.number_eq_ok run).1) onward

theorem allows_writesAny (emitter : Emitter) :
    emitter.Allows (Workshop.OnFiles emitter.WritesAny) where
  numbers work _ := keeps_number work
  writes _ _ _ action := keeps_writeFile trivial action

end Emitter

end ComponentSchema
