import ComponentSchema.Proofs.Files.Location
import ComponentSchema.Proofs.History
import ComponentSchema.Proofs.NameRegistry
import ComponentSchema.Proofs.Pass.Filing

/-!
Where the files of classes lie, and what keeps them apart.  A name that a pass makes up is plain and free
whatever its case.  A name on record is taken as it is, and the ledger was only checked for names that are
the same to the letter: two classes share a package exactly if they were on record under names that differ
in case alone, and their files share a place then, too, if the classes are of one kind.
-/

namespace ComponentSchema

namespace Ledger

/-- Two paths are on record under names that differ in case at most. -/
def Confuses (ledger : Ledger) (path other : String) : Prop :=
  ∃ record namesake, ledger.identity? path = some record ∧ ledger.identity? other = some namesake ∧
    foldCase record.schemaName = foldCase namesake.schemaName

/-- A path that is on record has no separator in its name. -/
def NamesPlainly (ledger : Ledger) (path : String) : Prop :=
  ∀ record, ledger.identity? path = some record → '/' ∉ record.schemaName.toList

end Ledger

namespace ClassFile

theorem notMem_schema {name : String} (plain : '/' ∉ name.toList) :
    '/' ∉ (name ++ ".schema").toList := by
  rw [String.toList_append, List.mem_append, not_or]
  exact ⟨plain, by decide⟩

theorem length_schema (name : String) : 2 < (name ++ ".schema").toList.length := by
  rw [String.toList_append, List.length_append]
  have ending : ".schema".toList.length = 7 := by decide
  omega

/-- Up to case, the place of a file in the tree tells the kind of its class and the schema name. -/
theorem foldCase_location_inj {kind kind' : ClassKind} {name name' : String} :
    (location kind name).map foldCase = (location kind' name').map foldCase ↔
      kind = kind' ∧ foldCase name = foldCase name' := by
  have names : foldCase (name ++ ".schema") = foldCase (name' ++ ".schema") ↔
      foldCase name = foldCase name' := by
    rw [foldCase_append, foldCase_append, String.append_left_inj]
  cases kind with
  | root =>
    cases kind' with
    | root => simp [location, names]
    | subobject => simp [location]
  | subobject =>
    cases kind' with
    | root => simp [location]
    | subobject => simp [location, names]

end ClassFile

namespace Emitter

/-- A path lies directly in the directory for classes of a kind. -/
def LiesIn (emitter : Emitter) (kind : ClassKind) (path : Path) : Prop :=
  ∃ name, path.location = emitter.schemaDir.location ++
    match kind with
    | .root => [name]
    | .subobject => ["Subobjects", name]

theorem location_pathOf (emitter : Emitter) (kind : ClassKind) {name : String}
    (plain : '/' ∉ name.toList) :
    (emitter.pathOf (ClassFile.location kind name)).location =
      emitter.schemaDir.location ++ ClassFile.location kind name := by
  have file (base : Path) : (base.join (name ++ ".schema")).location =
      base.location ++ [name ++ ".schema"] :=
    Path.location_join_name base (ClassFile.notMem_schema plain) (ClassFile.length_schema name)
  cases kind with
  | root => exact file emitter.schemaDir
  | subobject =>
    have directory : (emitter.schemaDir.join "Subobjects").location =
        emitter.schemaDir.location ++ ["Subobjects"] :=
      Path.location_join_name emitter.schemaDir (by decide) (by decide)
    have whole := file (emitter.schemaDir.join "Subobjects")
    rw [directory, List.append_assoc] at whole
    exact whole

theorem liesIn_pathOf (emitter : Emitter) (kind : ClassKind) {name : String}
    (plain : '/' ∉ name.toList) :
    emitter.LiesIn kind (emitter.pathOf (ClassFile.location kind name)) := by
  refine ⟨name ++ ".schema", ?_⟩
  rw [location_pathOf emitter kind plain]
  cases kind with
  | root => rfl
  | subobject => rfl

end Emitter

namespace Draft

variable {ledger : Ledger} {classes : List Node}

theorem schemaName_of_identity? {entry : Node × String} {record : ClassRecord}
    (member : entry ∈ (Draft.ofLedger ledger).named classes)
    (stored : ledger.identity? entry.1.path = some record) : entry.2 = record.schemaName := by
  have agrees : (Draft.ofLedger ledger).registry.schemaName? entry.1.path =
      some record.schemaName := by
    rw [show (Draft.ofLedger ledger).registry.schemaName? entry.1.path = _ from
      NameRegistry.agrees_ofLedger ledger entry.1.path, stored]
    rfl
  cases gives_of_mem_named member with
  | known has => exact Option.some.inj (has.symm.trans agrees)
  | new lacks free plain =>
    rw [agrees] at lacks
    cases lacks

theorem identity?_of_schemaName? {path name : String}
    (has : (Draft.ofLedger ledger).registry.schemaName? path = some name) :
    ∃ record, ledger.identity? path = some record ∧ record.schemaName = name := by
  rw [show (Draft.ofLedger ledger).registry.schemaName? path = _ from
    NameRegistry.agrees_ofLedger ledger path, Option.map_eq_some_iff] at has
  exact has

/-- Names have no separator in them, unless they came with one from the ledger. -/
theorem notMem_of_namesPlainly {entry : Node × String}
    (member : entry ∈ (Draft.ofLedger ledger).named classes)
    (plainly : ledger.NamesPlainly entry.1.path) : '/' ∉ entry.2.toList := by
  cases gives_of_mem_named member with
  | known has =>
    obtain ⟨record, stored, name⟩ := identity?_of_schemaName? has
    rw [← name]
    exact plainly record stored
  | new lacks free plain =>
    intro separator
    exact absurd (plain '/' separator) (by decide)

/-- Two classes get names that are one up to case exactly if the ledger confuses them. -/
theorem foldCase_eq_iff_confuses (distinct : (classes.map Node.path).Nodup)
    {first second : Node × String} (member : first ∈ (Draft.ofLedger ledger).named classes)
    (member' : second ∈ (Draft.ofLedger ledger).named classes)
    (apart : first.1.path ≠ second.1.path) :
    foldCase first.2 = foldCase second.2 ↔ ledger.Confuses first.1.path second.1.path := by
  constructor
  · intro same
    have covers : (Draft.ofLedger ledger).registry.Covers := NameRegistry.covers_ofLedger ledger
    have pairs := pairwise_named covers distinct
    have known : (Draft.ofLedger ledger).registry.schemaName? first.1.path = some first.2 ∧
        (Draft.ofLedger ledger).registry.schemaName? second.1.path = some second.2 := by
      obtain ⟨place, inside, rfl⟩ := List.mem_iff_getElem.1 member
      obtain ⟨place', inside', rfl⟩ := List.mem_iff_getElem.1 member'
      rcases Nat.lt_trichotomy place place' with before | rfl | after
      · exact List.pairwise_iff_getElem.1 pairs place place' inside inside' before same
      · exact absurd rfl apart
      · exact (List.pairwise_iff_getElem.1 pairs place' place inside' inside after same.symm).symm
    obtain ⟨record, stored, name⟩ := identity?_of_schemaName? known.1
    obtain ⟨namesake, stored', name'⟩ := identity?_of_schemaName? known.2
    refine ⟨record, namesake, stored, stored', ?_⟩
    rw [name, name', same]
  · rintro ⟨record, namesake, stored, stored', same⟩
    rw [schemaName_of_identity? member stored, schemaName_of_identity? member' stored', same]

end Draft

namespace Plan

/-- How far the classes of a course have files and packages of their own. -/
structure Separates (plan : Plan) (course : Course) : Prop where
  files : plan.WritesFiles course
  printed : ∀ file ∈ plan.filesOf course, file.2.2.IsPrinted
  placed : ∀ file ∈ plan.filesOf course, course.outcome.ledger.NamesPlainly file.1.path →
    ∃ kind, file.1.classKind? = some kind ∧
      plan.emitter.LiesIn kind (plan.emitter.pathOf file.2.1)
  packages : ∀ first ∈ plan.filesOf course, ∀ second ∈ plan.filesOf course, first.1.path ≠ second.1.path →
    (first.2.2.package = second.2.2.package ↔
      course.outcome.ledger.Confuses first.1.path second.1.path)
  paths : ∀ first ∈ plan.filesOf course, ∀ second ∈ plan.filesOf course, first.1.path ≠ second.1.path →
    course.outcome.ledger.NamesPlainly first.1.path →
      course.outcome.ledger.NamesPlainly second.1.path →
        ((plan.emitter.pathOf first.2.1).location.map foldCase =
            (plan.emitter.pathOf second.2.1).location.map foldCase ↔
          first.1.classKind? = second.1.classKind? ∧
            course.outcome.ledger.Confuses first.1.path second.1.path)

variable {plan : Plan} {reset : Bool} {queue : Option CandidateQueue} {files : FileSystem}
  {course : Course}

/-- A pass separates the files and packages of its classes as far as the names on record let it. -/
theorem ReachesCompiling.separates (reaches : plan.ReachesCompiling reset queue files course) :
    plan.Separates course := by
  have distinct := (Validation.check_eq_ok_iff.1 reaches.validated).1.2
  refine ⟨writesTree_of_emission reaches.emits, ?_, ?_, ?_, ?_⟩
  · intro file member
    exact reaches.isPrinted file.2 (List.mem_append_left _ (List.mem_map_of_mem member))
  · intro file member plainly
    obtain ⟨name, kind, named, isClass, content⟩ := Draft.of_mem_filed member
    refine ⟨kind, isClass, ?_⟩
    rw [content]
    exact plan.emitter.liesIn_pathOf kind (Draft.notMem_of_namesPlainly named plainly)
  · intro first member second member' apart
    obtain ⟨name, kind, named, -, content⟩ := Draft.of_mem_filed member
    obtain ⟨name', kind', named', -, content'⟩ := Draft.of_mem_filed member'
    rw [← Draft.foldCase_eq_iff_confuses distinct named named' apart, content, content']
    exact String.append_right_inj _
  · intro first member second member' apart plainly plainly'
    obtain ⟨name, kind, named, isClass, content⟩ := Draft.of_mem_filed member
    obtain ⟨name', kind', named', isClass', content'⟩ := Draft.of_mem_filed member'
    have place := plan.emitter.location_pathOf kind (Draft.notMem_of_namesPlainly named plainly)
    have place' := plan.emitter.location_pathOf kind' (Draft.notMem_of_namesPlainly named' plainly')
    rw [← Draft.foldCase_eq_iff_confuses distinct named named' apart, content, content', isClass,
      isClass', Option.some.injEq, ← ClassFile.foldCase_location_inj]
    unfold Emitter.classEntry
    rw [place, place', List.map_append, List.map_append, List.append_cancel_left_eq]

/-- Two classes whose names differ in case alone. -/
def alleys : List Node := [.rootClass "/A.Foo" "Foo", .rootClass "/B.Foo" "foo"]

/-- A ledger that passes the integrity check, although it has the classes on record under these names. -/
def confusing : Ledger :=
  { Ledger.fresh with
    nextId := ⟨10050⟩
    classes := .ofList [("/A.Foo", ⟨"Foo", .root⟩), ("/B.Foo", ⟨"foo", .root⟩)] }

theorem confuses_confusing : confusing.Confuses "/A.Foo" "/B.Foo" :=
  ⟨⟨"Foo", .root⟩, ⟨"foo", .root⟩, rfl, rfl, by decide +kernel⟩

/-- A pass on that ledger gives the two classes one package, and files at one place up to case. -/
theorem ReachesCompiling.separates_confusing :
    ∃ course, (site alleys []).ReachesCompiling false none (holding confusing) course ∧
      course.outcome = .loaded confusing ∧ course.discovery.classes = alleys ∧
      (site alleys []).Separates course ∧
      ∃ first ∈ (site alleys []).filesOf course, ∃ second ∈ (site alleys []).filesOf course,
        first.1.path ≠ second.1.path ∧ first.2.2.package = second.2.2.package ∧
        ((site alleys []).emitter.pathOf first.2.1).location.map foldCase =
          ((site alleys []).emitter.pathOf second.2.1).location.map foldCase := by
  have orderly : AreOrderly alleys [] := by decide +kernel
  have standing : confusing.isStale = false := by decide +kernel
  have sound : confusing.checkIntegrity.isOk = true := by decide +kernel
  obtain ⟨saved, after, saves⟩ := exists_saves_holding orderly standing sound (by decide +kernel)
  obtain ⟨course, reaches, start, -⟩ := saves.reaches
  have classes := (classes_of_site orderly reaches.toReachesEmitting).1
  have separated := ReachesCompiling.separates reaches.toReachesCompiling
  have listed : ((site alleys []).filesOf course).map Prod.fst = alleys :=
    separated.files.listed.trans classes
  have filed (node : Node) (inside : node ∈ alleys) :
      ∃ file ∈ (site alleys []).filesOf course, file.1 = node :=
    List.mem_map.1 (by rw [listed]; exact inside)
  obtain ⟨first, member, one⟩ := filed (.rootClass "/A.Foo" "Foo") List.mem_cons_self
  obtain ⟨second, member', other⟩ :=
    filed (.rootClass "/B.Foo" "foo") (List.mem_cons_of_mem _ List.mem_cons_self)
  have apart : first.1.path ≠ second.1.path := by
    rw [one, other]
    decide
  have confused : course.outcome.ledger.Confuses first.1.path second.1.path := by
    rw [start, one, other]
    exact confuses_confusing
  have plainly : course.outcome.ledger.NamesPlainly first.1.path := by
    rw [start, one]
    rintro record stored
    cases stored
    decide
  have plainly' : course.outcome.ledger.NamesPlainly second.1.path := by
    rw [start, other]
    rintro record stored
    cases stored
    decide
  refine ⟨course, reaches.toReachesCompiling, start, classes, separated, first, member, second,
    member', apart, ?_, ?_⟩
  · exact (separated.packages first member second member' apart).2 confused
  · apply (separated.paths first member second member' apart plainly plainly').2
    constructor
    · rw [one, other]
      rfl
    · exact confused

end Plan

end ComponentSchema
