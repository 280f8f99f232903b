import ComponentSchema.Proofs.Pass.Soundness
import ComponentSchema.Proofs.Pass.Wording
import ComponentSchema.Proofs.Repetition
import ComponentSchema.Proofs.Separation

/-!
The files in the schema tree after a pass.  There is one for each class, one for the levels and one for the
cull distances, all at places of their own, and nothing else is left, unless a tree that was there before
was not found.
-/

namespace ComponentSchema

theorem lastWrite?_ne_none_iff {writes : List Write} {place : Location} :
    lastWrite? writes place ≠ none ↔ place ∈ writes.map fun write => write.path.location := by
  unfold lastWrite?
  rw [Option.ne_none_iff_isSome, Option.isSome_map, List.find?_isSome]
  simp

namespace Ledger

/-- No two classes are on record under names that differ in case at most. -/
def NamesApart (ledger : Ledger) : Prop := ledger.NamesOnceBy foldCase

/-- The place of the file of a class, seen from the schema tree: by the kind of the class, and by its name
on record. -/
def placeOf? (ledger : Ledger) (node : Node) : Option Location :=
  node.classKind?.bind fun kind =>
    (ledger.identity? node.path).map fun record => ClassFile.location kind record.schemaName

theorem placeOf?_eq_some_iff {ledger : Ledger} {node : Node} {place : Location} :
    ledger.placeOf? node = some place ↔ ∃ kind record, node.classKind? = some kind ∧
      ledger.identity? node.path = some record ∧ ClassFile.location kind record.schemaName = place := by
  simp [placeOf?, Option.bind_eq_some_iff]

theorem namesApart_fresh : fresh.NamesApart := by
  intro path other record namesake stored
  cases stored

/-- Classes whose files have one place up to case have one path. -/
theorem NamesApart.path_eq {ledger : Ledger} (apart : ledger.NamesApart) {node other : Node}
    {place place' : Location} (placed : ledger.placeOf? node = some place)
    (placed' : ledger.placeOf? other = some place') (same : place.map foldCase = place'.map foldCase) :
    node.path = other.path := by
  obtain ⟨kind, record, -, stored, rfl⟩ := placeOf?_eq_some_iff.1 placed
  obtain ⟨kind', namesake, -, stored', rfl⟩ := placeOf?_eq_some_iff.1 placed'
  exact apart _ _ record namesake stored stored' (ClassFile.foldCase_location_inj.1 same).2

end Ledger

/-- The places of the files that belong to no class. -/
def worldPlaces : List Location :=
  [["Sublevels", "sublevels.schema"], ["NetCullDistance", "ncdcomponents.schema"]]

/-- No class has its file where the files of the world are, whatever the case. -/
theorem ClassFile.foldCase_location_notMem (kind : ClassKind) (name : String) :
    (location kind name).map foldCase ∉ worldPlaces.map (List.map foldCase) := by
  have directories : foldCase "Subobjects" ≠ foldCase "Sublevels" ∧
      foldCase "Subobjects" ≠ foldCase "NetCullDistance" := by decide +kernel
  cases kind with
  | root => simp [location, worldPlaces]
  | subobject => simp [location, worldPlaces, directories.1, directories.2]

/-- The places of a schema tree: those of its classes, one for each, and those of the world. -/
def Ledger.Houses (ledger : Ledger) (classes : List Node) (places : List Location) : Prop :=
  ∃ own, classes.map ledger.placeOf? = own.map some ∧ places = own ++ worldPlaces

namespace Ledger.Houses

variable {ledger : Ledger} {classes : List Node} {places : List Location}

theorem length_eq (houses : ledger.Houses classes places) : places.length = classes.length + 2 := by
  obtain ⟨own, placed, rfl⟩ := houses
  have lengths := congrArg List.length placed
  rw [List.length_map, List.length_map] at lengths
  rw [List.length_append, ← lengths]
  rfl

/-- All of them are different, whatever the case. -/
theorem nodup (houses : ledger.Houses classes places) (apart : ledger.NamesApart)
    (distinct : (classes.map Node.path).Nodup) : (places.map (List.map foldCase)).Nodup := by
  obtain ⟨own, placed, rfl⟩ := houses
  have member {place : Location} (listed : place ∈ own) :
      ∃ node ∈ classes, ledger.placeOf? node = some place :=
    List.mem_map.1 (placed ▸ List.mem_map_of_mem listed)
  rw [List.map_append, List.nodup_append']
  refine ⟨?_, by decide +kernel, fun place listed shared => ?_⟩
  · have folded : own.map (some ∘ List.map foldCase) =
        classes.map fun node => (ledger.placeOf? node).map (List.map foldCase) := by
      have mapped := congrArg (List.map (Option.map (List.map foldCase))) placed
      rw [List.map_map, List.map_map] at mapped
      exact mapped.symm
    -- two classes at one place have one path, as their names on record are apart
    refine List.Nodup.of_map some ?_
    rw [List.map_map, folded]
    refine List.Nodup.map_on (fun node listed other listed' same => ?_) (distinct.of_map _)
    have housed (node : Node) (listed : node ∈ classes) :
        ∃ place, ledger.placeOf? node = some place := by
      obtain ⟨place, -, there⟩ := List.mem_map.1 (placed ▸ List.mem_map_of_mem listed)
      exact ⟨place, there.symm⟩
    obtain ⟨place, here⟩ := housed node listed
    obtain ⟨place', there⟩ := housed other listed'
    rw [here, there, Option.map_some, Option.map_some, Option.some.injEq] at same
    exact List.inj_on_of_nodup_map distinct listed listed' (apart.path_eq here there same)
  · obtain ⟨place, inside, rfl⟩ := List.mem_map.1 listed
    obtain ⟨node, -, there⟩ := member inside
    obtain ⟨kind, record, -, -, rfl⟩ := Ledger.placeOf?_eq_some_iff.1 there
    exact ClassFile.foldCase_location_notMem kind record.schemaName shared

end Ledger.Houses

namespace Emitter

/-- The files of the world lie in directories of their own. -/
theorem location_pathOf_worldFiles (emitter : Emitter) (final : Ledger) (levels : List Level) :
    (worldFiles final levels).map (fun entry => (emitter.pathOf entry.1).location) =
      worldPlaces.map (emitter.schemaDir.location ++ ·) := by
  have below (directory name : String) (text : Path) (plain : text.isAbsolute = false)
      (parts : Path.pieces text.toList = [directory.toList, name.toList])
      (long : 2 < directory.toList.length) (long' : 2 < name.toList.length) :
      (emitter.schemaDir.join text).location = emitter.schemaDir.location ++ [directory, name] := by
    rw [Path.location_join plain, parts, List.foldl_cons, List.foldl_cons, List.foldl_nil,
      Path.step_of_length long, Path.step_of_length long', String.ofList_toList, String.ofList_toList,
      List.append_assoc, List.singleton_append]
  have levelled := below "Sublevels" "sublevels.schema" "Sublevels/sublevels.schema" (by decide +kernel)
    (by decide +kernel) (by decide) (by decide)
  have distanced := below "NetCullDistance" "ncdcomponents.schema"
    "NetCullDistance/ncdcomponents.schema" (by decide +kernel) (by decide +kernel) (by decide) (by decide)
  simp only [worldFiles, worldPlaces, List.map_cons, List.map_nil]
  exact congrArg₂ (fun first second => [first, second]) levelled distanced

end Emitter

namespace Plan

def writesOf (plan : Plan) (course : Course) : List Write :=
  ((plan.filesOf course).map Prod.snd ++ worldFiles course.numbering.ledger course.levels).map
    plan.emitter.writeOf

variable {plan : Plan} {reset : Bool} {queue : Option CandidateQueue} {files after : FileSystem}
  {course : Course}

/-- The step: the names on record stay apart, whatever the case. -/
theorem ReachesSaving.namesApart (reaches : plan.ReachesSaving reset queue files course)
    (apart : course.outcome.ledger.NamesApart) : (sealed course).NamesApart := by
  have agrees : (Draft.ofLedger course.outcome.ledger).registry.Agrees course.outcome.ledger :=
    NameRegistry.agrees_ofLedger course.outcome.ledger
  have once := Draft.namesOnceBy_recordAll (fun _ _ => id) (.ofLedger course.outcome.ledger)
    (isSome_classKind?_of_emission reaches.emits) agrees
    (NameRegistry.covers_ofLedger course.outcome.ledger) apart
  intro path other record namesake stored stored'
  have before (path : String) := (identity?_of_emission reaches.emits path).symm
  exact once path other record namesake ((before path).trans stored) ((before other).trans stored')

/-- The run: whatever the passes before it were, a pass finds names on record that are apart. -/
theorem namesApart_of_history {resets : Bool} {saved : List (Option ByteArray)}
    (history : History resets HasNone saved) {outcome : LoadOutcome}
    (finds : plan.Finds files HasNone saved) (loaded : plan.readLedger reset files = .ok outcome) :
    outcome.ledger.NamesApart := by
  obtain ⟨ledgers, rfl, each⟩ := history.saved_of Ledger.namesApart_fresh fun reaches apart =>
    reaches.namesApart apart
  exact outcome_of_finds Ledger.namesApart_fresh each finds loaded

/-- A course writes one file for each class and those of the world, at their places in the tree. -/
theorem ReachesSaving.places_written (reaches : plan.ReachesSaving reset queue files course)
    (worded : (sealed course).IsWorded) :
    ∃ places, (sealed course).Houses course.discovery.classes places ∧
      (plan.writesOf course).map (fun write => write.path.location) = places.map (plan.tree ++ ·) := by
  have tree := writesTree_of_emission reaches.emits
  have placed : ∀ file ∈ plan.filesOf course, (sealed course).placeOf? file.1 = some file.2.1 ∧
      (plan.emitter.pathOf file.2.1).location = plan.tree ++ file.2.1 := by
    intro file member
    obtain ⟨record, kind, stored, isClass, content⟩ := record_of_mem_classFiles reaches.emits member
    refine ⟨Ledger.placeOf?_eq_some_iff.2 ⟨kind, record, isClass, stored, by rw [content]; rfl⟩, ?_⟩
    rw [content]
    refine plan.emitter.location_pathOf kind fun separator => ?_
    exact absurd ((worded file.1.path record stored).plain '/' separator) (by decide)
  refine ⟨(plan.filesOf course).map (fun file => file.2.1) ++ worldPlaces, ⟨_, ?_, rfl⟩, ?_⟩
  · have listed : (plan.filesOf course).map Prod.fst = course.discovery.classes := tree.listed
    rw [← listed, List.map_map, List.map_map]
    exact List.map_congr_left fun file member => (placed file member).1
  · unfold writesOf
    rw [List.map_map, List.map_append, List.map_append, List.map_map, List.map_map]
    refine congrArg₂ _ ?_ (plan.emitter.location_pathOf_worldFiles _ _)
    exact List.map_congr_left fun file member => (placed file member).2

theorem ReachesSaving.takes_writesOf (reaches : plan.ReachesSaving reset queue files course) :
    course.prepared.Takes (plan.writesOf course) course.written :=
  (writesTree_of_emission reaches.emits).takes

/-- A ledger outside of the schema tree that was saved lies apart from the tree: there are files in it. -/
theorem ReachesSaving.apart_of_outside (reaches : plan.ReachesSaving reset queue files course)
    {places : List Location} (houses : (sealed course).Houses course.discovery.classes places)
    (written : (plan.writesOf course).map (fun write => write.path.location) =
      places.map (plan.tree ++ ·))
    (outside : ¬plan.tree <+: plan.place)
    (spares : ∀ place, plan.tree.IsAbove place →
      course.written.Spares place (plan.compilation course).files)
    (saved : plan.store.save (sealed course) (plan.compilation course).files = (.ok (), after)) :
    plan.tree.AreApart plan.place := by
  -- a ledger above the tree would stand in the way of the sublevels file
  have listed : ["Sublevels", "sublevels.schema"] ∈ places := by
    obtain ⟨own, -, rfl⟩ := houses
    exact List.mem_append_right _ List.mem_cons_self
  have above : plan.tree.IsAbove (plan.tree ++ ["Sublevels", "sublevels.schema"]) :=
    Location.isAbove_append _ (List.cons_ne_nil _ _)
  obtain ⟨bytes, last⟩ := Option.ne_none_iff_exists'.1
    (lastWrite?_ne_none_iff.2 (written ▸ List.mem_map_of_mem listed))
  have holds := (spares _ above).keeps bytes (reaches.takes_writesOf.written _ bytes last)
  refine ⟨outside, fun below => ?_⟩
  refine LedgerStore.not_above_of_save holds ?_ ?_ saved (below.trans (List.prefix_append _ _))
  · intro same
    exact LedgerStore.not_isAbove_temporary outside (same ▸ above)
  · intro same
    rw [place, same] at outside
    exact outside above.1

/-- A file stands in the tree exactly if it was written, or it stood in a tree that was not found. -/
theorem Leaves.fileAt?_ne_none_iff {writes : List Write} (leaves : plan.Leaves writes files after)
    (tree : files.IsTree) {place : Location} (above : plan.tree.IsAbove place) :
    after.fileAt? place ≠ none ↔ lastWrite? writes place ≠ none ∨
      files.pathExists plan.emitter.schemaDir = false ∧ files.fileAt? place ≠ none := by
  cases last : lastWrite? writes place with
  | some bytes => simp [(leaves.written place bytes above last).stored]
  | none =>
    cases there : files.pathExists plan.emitter.schemaDir with
    | true => simp [leaves.cleared there place above last]
    | false =>
      have spared := leaves.spared there place above last
      cases standing : files.fileAt? place with
      | none => simp [spared.absent standing]
      | some bytes => simp [(spared.keeps bytes (tree.holds standing)).stored]

/-- After a pass that succeeded, the files in the schema tree are one for each class, at the place of its
kind under its name on record, and those of the levels and the cull distances, all at different places
whatever the case.  If the tree was not found when the pass began, what stood in it stands there still. -/
theorem schemaTree_of_run {launcher : Launcher} {resets : Bool} {saved : List (Option ByteArray)}
    {before after : Generator} {report : Report} (process : plan.compiler = .process launcher)
    (output : plan.tree.AreApart plan.settings.compiler.outputDir.location)
    (ledger : ¬plan.tree <+: plan.place)
    (careful : ∀ place, plan.tree.IsAbove place → ∀ exe args files ended after,
      launcher exe args files = .ok (ended, after) → files.Spares place after)
    (history : History resets HasNone saved) (finds : plan.Finds before.files HasNone saved)
    (tree : before.files.IsTree) (run : plan.run reset before = (.ok report, after)) :
    ∃ course places, plan.ReachesSaving reset before.queue before.files course ∧
      plan.kept after.files = some (LedgerStore.bytesOf (sealed course)) ∧
      (sealed course).Houses course.discovery.classes places ∧
      places.length = report.classes + 2 ∧ (places.map (List.map foldCase)).Nodup ∧
      ∀ place, place ≠ [] → (after.files.fileAt? (plan.tree ++ place) ≠ none ↔
        place ∈ places ∨ before.files.pathExists plan.emitter.schemaDir = false ∧
          before.files.fileAt? (plan.tree ++ place) ≠ none) := by
  obtain ⟨course, reaches, stored, rfl, found⟩ := course_of_run run
  have worded := reaches.isWorded (history.isWorded finds reaches.loaded)
  have apart := reaches.namesApart (namesApart_of_history history finds reaches.loaded)
  have distinct := (Validation.check_eq_ok_iff.1 reaches.validated).1.2
  obtain ⟨places, houses, written⟩ := reaches.places_written worded
  have spares (place : Location) (above : plan.tree.IsAbove place) :
      course.written.Spares place (plan.compilation course).files :=
    spares_compilation_of_apart process output (careful place above) above course.written
  have outside := reaches.apart_of_outside houses written ledger spares stored
  have leaves := reaches.leaves_of_takes reaches.takes_writesOf fun place above =>
    trans_of (FileSystem.Spares place) (spares place above) (spares_save_of_apart outside above stored)
  refine ⟨course, places, reaches, kept_eq_some_iff.2 found, houses, houses.length_eq,
    houses.nodup apart distinct, fun place inner => ?_⟩
  have above : plan.tree.IsAbove (plan.tree ++ place) :=
    Location.isAbove_append _ inner
  rw [leaves.fileAt?_ne_none_iff tree above, lastWrite?_ne_none_iff, written, List.mem_map]
  refine or_congr_left ⟨fun ⟨other, member, same⟩ => ?_, fun member => ⟨place, member, rfl⟩⟩
  exact List.append_cancel_left same ▸ member

/-- The file of the class that vanished is gone, and the two classes have files of their own. -/
theorem schemaTree_of_run_furnishing :
    ∃ report after, furnishing.run false { files := outdated } = (.ok report, after) ∧
      ∃ course places, furnishing.ReachesSaving false none outdated course ∧
        furnishing.kept after.files = some (LedgerStore.bytesOf (sealed course)) ∧
        (sealed course).Houses course.discovery.classes places ∧
        places.length = report.classes + 2 ∧ (places.map (List.map foldCase)).Nodup ∧
        (∀ place, place ≠ [] → (after.files.fileAt? (furnishing.tree ++ place) ≠ none ↔
          place ∈ places ∨ outdated.pathExists furnishing.emitter.schemaDir = false ∧
            outdated.fileAt? (furnishing.tree ++ place) ≠ none)) ∧
        outdated.fileAt? (furnishing.tree ++ ["Old.schema"]) ≠ none ∧
        after.files.fileAt? (furnishing.tree ++ ["Old.schema"]) = none ∧
        places = [["Door.schema"], ["Subobjects", "Tool.schema"],
          ["Sublevels", "sublevels.schema"], ["NetCullDistance", "ncdcomponents.schema"]] := by
  obtain ⟨after, _, saved, -⟩ := exists_saves_furnishing
  obtain ⟨report, run⟩ := saved.run
  have outside : ¬furnishing.tree <+: furnishing.place := by
    rw [tree_furnishing, place_furnishing]
    decide
  obtain ⟨course, places, reaches, kept, houses, length, distinct, standing⟩ :=
    schemaTree_of_run (rfl : furnishing.compiler = .process describing)
      output_furnishing outside
      (fun _ above _ _ _ _ _ launched => spares_describing tree_furnishing above launched)
      (.start : History false HasNone []) finds_outdated isTree_outdated run
  have recorded : sealed course = .equipped := by
    rw [kept_eq_some_iff.2 saved.found, Option.some.injEq] at kept
    exact (Ledger.eq_of_bytesOf kept).symm
  have listed : course.discovery.classes = [.gate, .tool] := by
    rw [(reaches.discovery_levels discovered_furnishing).1]
    rfl
  have own : places = [["Door.schema"], ["Subobjects", "Tool.schema"],
      ["Sublevels", "sublevels.schema"], ["NetCullDistance", "ncdcomponents.schema"]] := by
    obtain ⟨own, placed, rfl⟩ := houses
    rw [recorded, listed] at placed
    have stored : [Node.gate, .tool].map Ledger.equipped.placeOf? =
        [["Door.schema"], ["Subobjects", "Tool.schema"]].map some := by decide +kernel
    have same := List.map_injective_iff.2 (Option.some_injective _) (placed.symm.trans stored)
    rw [same]
    rfl
  refine ⟨report, after, run, course, places, reaches, kept, houses, length, distinct, standing,
    by decide +kernel, ?_, own⟩
  by_contra there
  rcases (standing ["Old.schema"] (List.cons_ne_nil _ _)).1 there with inside | ⟨missing, -⟩
  · rw [own] at inside
    exact absurd inside (by decide)
  · exact absurd missing (by decide +kernel)

/-- A file of an earlier pass is still there where the path of the schema tree leads through a directory
that is missing. -/
example :
    let tree : GeneratorSettings := { small.settings.generator with schemaDir := "t/../g" }
    let plan : Plan := { small with
      settings := { small.settings with generator := tree }, compiler := .process describing }
    (plan.run false { files := outdated }).1.isOk = true ∧
      (plan.run false { files := outdated }).2.files.fileAt? ["g", "Old.schema"] =
        some "old".toUTF8 := by
  decide +kernel

end Plan

end ComponentSchema
