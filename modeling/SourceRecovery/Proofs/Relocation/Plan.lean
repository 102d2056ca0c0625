import SourceRecovery.Proofs.Relocation.Site

/-! # What applying an entry comes to

Applying an entry reads a few places of the tree and then changes a few: it makes folders, moves
one file and edits it. The **plan** of an entry (`FileTree.plan`) says beforehand which folders and
which file, and what the outcome will be.

* **`makeDirectories_folderPath`** — making the folders of a class.
* **`relocate_eq_planFor`** — relocating a file carries out its plan.
* **`restore_eq_plan`** — applying an entry carries out its plan, with the outcome it says.
* **`HasRoot.restore`** — the source root stays what it is. -/

namespace SourceRecovery

/-- The contents of a source file after its class has been restored; what is no text stays. -/
def Entry.editBytes (e : Entry) (b : Bytes) : Bytes :=
  match Utf8.decode? b with
  | some text => Utf8.encode (e.editText text)
  | none => b

/-- The class paths of an entry have no dots. -/
structure Entry.IsDotless (e : Entry) : Prop where
  obfuscated : '.' ∉ e.obfuscated
  restored : '.' ∉ e.restored

/-- A file that goes to another location and has new contents there. -/
structure Transfer where
  /-- Where the file is. -/
  source : Location
  /-- Where it goes. -/
  target : Location
  /-- What it holds then. -/
  contents : Bytes
deriving DecidableEq

/-- What applying an entry to a tree will do. -/
structure Plan where
  /-- The places where directories are made, unless they are there. -/
  folders : List Location
  /-- The file that is moved. -/
  transfer? : Option Transfer
  /-- The outcome. -/
  outcome : Outcome
deriving DecidableEq

/-- What is at a location after a plan has been carried out. -/
def Plan.nodeAfter (p : Plan) (t : FileTree) (k : Location) : Option Node :=
  let node? := if k ∈ p.folders then some .directory else t.node? k
  match p.transfer? with
  | none => node?
  | some f => if k = f.target then some (.file f.contents) else if k = f.source then none else node?

namespace FileTree

variable {t u : FileTree} {root : Path} {r k : Location} {e : Entry} {kind : SourceKind}
  {path : ClassPath} {b : Bytes}

/-! ## The plan of an entry -/

/-- The path of the folder of a class. -/
def folderPath (root : Path) (path : ClassPath) (kind : SourceKind) : Path :=
  (classFile root path kind).parent?.getD []

/-- The places where directories are made for the source file of a class. -/
def foldersFor (t : FileTree) (root : Path) (r : Location) (path : ClassPath) (kind : SourceKind) :
    List Location :=
  match (folderPath root path kind).check with
  | .error _ => []
  | .ok () => t.passable (path.base r) path.folders

/-- Why the directories for the source file of a class cannot be made. -/
def folderError? (t : FileTree) (root : Path) (r : Location) (path : ClassPath)
    (kind : SourceKind) : Option IoError :=
  match (folderPath root path kind).check with
  | .error e => some e
  | .ok () => t.obstacle? (path.base r) path.folders

/-- The contents of the file at a location. -/
def contents (t : FileTree) (l : Location) : Bytes :=
  match t.node? l with
  | some (.file b) => b
  | _ => []

/-- The plan for a file that was found. -/
def planFor (t : FileTree) (root : Path) (r : Location) (e : Entry) (kind : SourceKind) : Plan :=
  let found := classFile root e.obfuscated kind
  let goal := classFile root e.restored kind
  let source := e.obfuscated.site r kind
  let target := e.restored.site r kind
  let folders := t.foldersFor root r e.restored kind
  match t.folderError? root r e.restored kind with
  | some c => ⟨folders, none, .failed found (.io (folderPath root e.restored kind) c)⟩
  | none =>
    match t.moveError? goal source target (e.restored.fileName kind) with
    | some c => ⟨folders, none, .failed found (.io found c)⟩
    | none =>
      ⟨folders, some ⟨source, target, e.editBytes (t.contents source)⟩,
        if (Utf8.decode? (t.contents source)).isSome then .relocated found goal
        else .failed found (.io goal .notUtf8)⟩

/-- The **plan** of an entry. -/
def plan (t : FileTree) (root : Path) (r : Location) (e : Entry) : Plan :=
  match t.locate? root e.obfuscated with
  | none => ⟨[], none, .skipped⟩
  | some file => t.planFor root r e file.kind

/-! ## Making the folders -/

/-- The tree with the folders for the source file of a class. -/
def withFolders (t : FileTree) (root : Path) (r : Location) (path : ClassPath)
    (kind : SourceKind) : FileTree := (t.foldersFor root r path kind).foldl fill t

/-- With a path that fits, the folders of a class are those that open the chain to them. -/
theorem withFolders_eq_opened {path : ClassPath} (hc : (folderPath root path kind).check = .ok ()) :
    t.withFolders root r path kind = t.opened (path.base r) path.folders := by
  rw [withFolders, foldersFor, hc]
  rfl

/-- With a path that does not fit, no folder is made. -/
theorem withFolders_of_error {path : ClassPath} {c : IoError}
    (hc : (folderPath root path kind).check = .error c) : t.withFolders root r path kind = t := by
  rw [withFolders, foldersFor, hc]
  rfl

/-- The folders of a class are places that the chain to them can pass. -/
theorem mem_foldersFor (hk : k ∈ t.foldersFor root r path kind) :
    k ∈ t.passable (path.base r) path.folders := by
  rw [foldersFor] at hk
  cases hc : (folderPath root path kind).check with
  | error c => rw [hc] at hk; simp at hk
  | ok _ => rwa [hc] at hk

/-- Making folders puts a directory at each of them, and changes nothing elsewhere. -/
theorem node?_withFolders (t : FileTree) (root : Path) (r : Location) (path : ClassPath)
    (kind : SourceKind) (k : Location) :
    (t.withFolders root r path kind).node? k =
      if k ∈ t.foldersFor root r path kind then some .directory else t.node? k := by
  cases hc : (folderPath root path kind).check with
  | error c =>
    rw [withFolders_of_error hc, foldersFor, hc]
    simp
  | ok _ =>
    rw [withFolders_eq_opened hc, node?_opened, foldersFor, hc]

/-- A class path is followed from a directory. -/
theorem base_directory (h : t.HasRoot root r) (path : ClassPath) :
    t.node? (path.base r) = some .directory := by
  rw [ClassPath.base]
  split_ifs
  · exact node?_nil t
  · exact h.directory

/-- Directories stay when folders are made. -/
theorem directory_withFolders (hk : t.node? k = some .directory) :
    (t.withFolders root r path kind).node? k = some .directory := by
  rw [node?_withFolders]
  split_ifs
  · rfl
  · exact hk

@[simp] theorem workingDirectory_withFolders :
    (t.withFolders root r path kind).workingDirectory = t.workingDirectory :=
  workingDirectory_foldl_fill ..

/-- The source root stays when folders are made. -/
theorem HasRoot.withFolders (h : t.HasRoot root r) (path : ClassPath) (kind : SourceKind) :
    (t.withFolders root r path kind).HasRoot root r := by
  refine h.mono ?_ workingDirectory_withFolders fun k => directory_withFolders
  cases hc : (folderPath root path kind).check with
  | error c =>
    rw [withFolders_of_error hc]
    exact h.closed
  | ok _ =>
    rw [withFolders_eq_opened hc]
    exact h.closed.opened (base_directory h path) _

/-- **Making the folders** for the source file of a class. -/
theorem makeDirectories_folderPath (h : t.HasRoot root r) (hdot : '.' ∉ path) (kind : SourceKind) :
    t.makeDirectories (folderPath root path kind) =
      (t.withFolders root r path kind,
        match t.folderError? root r path kind with
        | some c => .error c
        | none => .ok ()) := by
  rw [folderPath, (h.reaches_classFile hdot kind).makeDirectories_parent h.closed, ← folderPath]
  cases hc : (folderPath root path kind).check with
  | error c => simp only [withFolders_of_error hc, folderError?, hc]
  | ok _ =>
    simp only [withFolders_eq_opened hc, folderError?, hc]
    rfl

/-- A place that holds a file is none of a folder. -/
theorem node?_withFolders_of_blocks (hb : t.Blocks k) :
    (t.withFolders root r path kind).node? k = t.node? k := by
  rw [node?_withFolders, if_neg]
  exact fun hk => (mem_passable (mem_foldersFor hk)).2.2.2 hb

/-- Making the folders of a class leaves its sites alone. -/
theorem site_notMem_foldersFor (path : ClassPath) (kind kind' : SourceKind) :
    path.site r kind' ∉ t.foldersFor root r path kind := fun hk =>
  not_concat_isPrefix _ _ (mem_passable (mem_foldersFor hk)).2.2.1

/-- Folders can be made if their path fits and nothing is in the way. -/
theorem of_folderError?_eq_none (h : t.folderError? root r path kind = none) :
    (folderPath root path kind).check = .ok () ∧ t.obstacle? (path.base r) path.folders = none := by
  rw [folderError?] at h
  cases hc : (folderPath root path kind).check with
  | error c => rw [hc] at h; cases h
  | ok _ =>
    rw [hc] at h
    exact ⟨rfl, h⟩

/-- Where folders can be made and a file can be moved, the names fit. -/
theorem nameFits_of_eq_none {source : Location} (hf : t.folderError? root r path kind = none)
    (hm : t.moveError? (classFile root path kind) source (path.site r kind)
      (path.fileName kind) = none) : NameFits root path kind := by
  obtain ⟨hcheck, -, hshort, -⟩ := of_moveError?_eq_none hm
  refine ⟨hcheck, fun a ha => ?_⟩
  rcases List.mem_append.1 ha with ha | ha
  · exact nameIsTooLong_of_obstacle?_eq_none (of_folderError?_eq_none hf).2 a ha
  · rw [List.mem_singleton.1 ha]
    exact hshort

/-! ## Finding the file -/

/-- The Java file of a class is found before its Kotlin file. -/
theorem locate?_eq (t : FileTree) (root : Path) (path : ClassPath) :
    t.locate? root path =
      if t.isFile (classFile root path .java) then some ⟨classFile root path .java, .java⟩
      else if t.isFile (classFile root path .kotlin) then
        some ⟨classFile root path .kotlin, .kotlin⟩
      else none := by
  rw [locate?, SourceKind.all, List.findSome?_cons, List.findSome?_cons, List.findSome?_nil]
  split_ifs <;> rfl

/-- What is found of a class is one of its source files. -/
theorem locate?_eq_some {file : SourceFile} (h : t.locate? root path = some file) :
    file.path = classFile root path file.kind ∧
      t.isFile (classFile root path file.kind) = true := by
  rw [locate?_eq] at h
  split_ifs at h with hj hk
  · obtain rfl := Option.some.inj h
    exact ⟨rfl, hj⟩
  · obtain rfl := Option.some.inj h
    exact ⟨rfl, hk⟩

/-- Nothing is found of a class exactly if it has no source file of either kind. -/
theorem locate?_eq_none_iff :
    t.locate? root path = none ↔ ∀ kind, t.isFile (classFile root path kind) = false := by
  rw [locate?_eq]
  constructor
  · intro h kind
    split_ifs at h with hj hk
    cases kind
    · simpa using hj
    · simpa using hk
  · intro h
    simp [h]

/-- The plan of an entry is made for the file found of its class. -/
theorem plan_of_locate? {file : SourceFile} (h : t.locate? root e.obfuscated = some file) :
    t.plan root r e = t.planFor root r e file.kind := by
  rw [plan, h]

/-- A class is **single** if it does not have both kinds of source files. -/
def IsSingle (t : FileTree) (root : Path) (path : ClassPath) : Prop :=
  ¬ (t.isFile (classFile root path .java) = true ∧ t.isFile (classFile root path .kotlin) = true)

/-- A class with a single source file has it in one kind only. -/
theorem IsSingle.kind_eq {path : ClassPath} (h : t.IsSingle root path) {kind kind' : SourceKind}
    (hf : t.isFile (classFile root path kind) = true)
    (hf' : t.isFile (classFile root path kind') = true) : kind = kind' := by
  cases kind <;> cases kind'
  · rfl
  · exact absurd ⟨hf, hf'⟩ h
  · exact absurd ⟨hf', hf⟩ h
  · rfl

/-- What is found of a single class is the only source file it has. -/
theorem IsSingle.plan_eq (h : t.IsSingle root e.obfuscated)
    (hf : t.isFile (classFile root e.obfuscated kind) = true) :
    t.plan root r e = t.planFor root r e kind := by
  cases hl : t.locate? root e.obfuscated with
  | none =>
    rw [locate?_eq_none_iff.1 hl kind] at hf
    cases hf
  | some file =>
    obtain rfl := h.kind_eq (locate?_eq_some hl).2 hf
    exact plan_of_locate? hl

/-- A simple name that fits into a file name is not too long to be looked for. -/
theorem isTooLong_eq_false (h : Path.nameIsTooLong (path.fileName kind) = false) :
    Declaration.isTooLong path.simpleName = false := by
  rw [Path.nameIsTooLong, decide_eq_false_iff_not, ClassPath.fileName, Text.utf8Length_append,
    Path.nameLimit] at h
  rw [Declaration.isTooLong, Declaration.isLongerThan, decide_eq_false_iff_not,
    Declaration.nameLimit]
  omega

/-! ## Carrying out the plan -/

/-- The tree `u` is what a tree is after a plan has been carried out. -/
structure CarriedOut (t : FileTree) (p : Plan) (u : FileTree) : Prop where
  /-- What the tree holds. -/
  node? : ∀ k, u.node? k = p.nodeAfter t k
  /-- The tree is closed. -/
  closed : u.IsClosed
  /-- Every directory is still there. -/
  directory : ∀ k, t.node? k = some .directory → u.node? k = some .directory
  /-- The working directory is the same. -/
  workingDirectory : u.workingDirectory = t.workingDirectory
  /-- Without a file to move, only folders have been made. -/
  eq_of_transfer?_eq_none : p.transfer? = none → u = p.folders.foldl fill t

/-- The source root stays where a plan has been carried out. -/
theorem HasRoot.carriedOut {p : Plan} (h : t.HasRoot root r) (hu : CarriedOut t p u) :
    u.HasRoot root r := h.mono hu.closed hu.workingDirectory hu.directory

/-- **Editing** the file to which a path leads. -/
theorem editFile_eq {goal : Path} {segments : List Text} {s : Text} {l : Location}
    (hp : goal.segments = segments ++ [s]) (hs : IsName s) (hres : t.resolve goal = .ok l)
    (hb : t.node? l = some (.file b))
    (hshort : Declaration.isTooLong e.obfuscated.simpleName = false) :
    t.editFile goal e =
      match Utf8.decode? b with
      | none => (t, .error (.io goal .notUtf8))
      | some text => (t.put l (.file (Utf8.encode (e.editText text))), .ok goal) := by
  rw [editFile, readText_of_read (read_of_resolve hres hb)]
  cases Utf8.decode? b with
  | none => rfl
  | some text =>
    simp only [hshort, Bool.false_eq_true, if_false, write_of_resolve hp hs hres hb]

/-- The outcome of an entry whose file was found. -/
def outcomeOf (found : Path) : FileTree × Except RelocationError Path → FileTree × Outcome
  | (t, .ok target) => (t, .relocated found target)
  | (t, .error error) => (t, .failed found error)

@[simp] theorem fst_outcomeOf (found : Path) (w : FileTree × Except RelocationError Path) :
    (outcomeOf found w).1 = w.1 := by
  obtain ⟨u, answer⟩ := w
  cases answer <;> rfl

/-- An entry whose file is found is applied by relocating the file. -/
theorem restore_of_locate?_eq_some {file : SourceFile}
    (h : t.locate? root e.obfuscated = some file) :
    t.restore root e = outcomeOf file.path (t.relocate root file e) := by
  rw [restore, h]
  rfl

/-- Where no file is moved, only the folders have been made. -/
theorem carriedOut_withFolders (h : t.HasRoot root r) (path : ClassPath) (kind : SourceKind)
    (o : Outcome) :
    CarriedOut t ⟨t.foldersFor root r path kind, none, o⟩ (t.withFolders root r path kind) where
  node? k := node?_withFolders t root r path kind k
  closed := (h.withFolders path kind).closed
  directory _ := directory_withFolders
  workingDirectory := workingDirectory_withFolders
  eq_of_transfer?_eq_none _ := rfl

/-- **Moving the file**, once the folders have been made. -/
theorem rename_withFolders (h : t.HasRoot root r) (he : e.IsDotless)
    (hf : t.isFile (classFile root e.obfuscated kind) = true)
    (hfe : t.folderError? root r e.restored kind = none) :
    (t.withFolders root r e.restored kind).rename (classFile root e.obfuscated kind)
        (classFile root e.restored kind) =
      match t.moveError? (classFile root e.restored kind) (e.obfuscated.site r kind)
        (e.restored.site r kind) (e.restored.fileName kind) with
      | some c => .error c
      | none => .ok ((t.withFolders root r e.restored kind).relocated (e.obfuscated.site r kind)
          (e.restored.site r kind)) := by
  obtain ⟨hfits, b, hb⟩ := (h.isFile_classFile_iff he.obfuscated kind).1 hf
  have hfolders := h.withFolders e.restored kind
  have hblocks : t.Blocks (e.obfuscated.site r kind) := by simp [Blocks, hb]
  have hf' : (t.withFolders root r e.restored kind).isFile
      (classFile root e.obfuscated kind) = true :=
    (hfolders.isFile_classFile_iff he.obfuscated kind).2
      ⟨hfits, b, by rw [node?_withFolders_of_blocks hblocks, hb]⟩
  obtain ⟨hc, ho⟩ := of_folderError?_eq_none hfe
  have hopen : (t.withFolders root r e.restored kind).enter (e.restored.base r)
      e.restored.folders = .ok (e.restored.base r ++ e.restored.folders) := by
    rw [withFolders_eq_opened hc]
    exact enter_opened h.closed (base_directory h _)
      (h.reaches_classFile he.restored kind).isName_of_mem ho
  have hrename := (hfolders.reaches_classFile he.obfuscated kind).rename
    (hfolders.reaches_classFile he.restored kind) hfolders.closed hf' hopen
  -- What prevents the move is the same before and after the folders have been made.
  have htarget : (t.withFolders root r e.restored kind).node? (e.restored.site r kind) =
      t.node? (e.restored.site r kind) := by
    rw [node?_withFolders, if_neg (site_notMem_foldersFor _ _ _)]
  rw [← ClassPath.site_eq_concat, ← ClassPath.site_eq_concat,
    moveError?_congr (u := t) (by rw [htarget])] at hrename
  rw [hrename, relocated]
  cases t.moveError? (classFile root e.restored kind) (e.obfuscated.site r kind)
    (e.restored.site r kind) (e.restored.fileName kind) with
  | some c => rfl
  | none =>
    simp only
    split_ifs <;> rfl

/-- **The tree after the move**: the file is at the target and gone from the source, and the source
root is what it was. -/
theorem carriedOut_relocated (h : t.HasRoot root r) (o : Outcome)
    (hb : t.node? (e.obfuscated.site r kind) = some (.file b))
    (hfe : t.folderError? root r e.restored kind = none)
    (hme : t.moveError? (classFile root e.restored kind) (e.obfuscated.site r kind)
      (e.restored.site r kind) (e.restored.fileName kind) = none) :
    CarriedOut t
      ⟨t.foldersFor root r e.restored kind,
        some ⟨e.obfuscated.site r kind, e.restored.site r kind, b⟩, o⟩
      ((t.withFolders root r e.restored kind).relocated (e.obfuscated.site r kind)
        (e.restored.site r kind)) := by
  have hfolders := h.withFolders e.restored kind
  have hblocks : t.Blocks (e.obfuscated.site r kind) := by simp [Blocks, hb]
  -- The folders do not touch the file, and the target is in the last of them.
  have hb' : (t.withFolders root r e.restored kind).node? (e.obfuscated.site r kind) =
      some (.file b) := by rw [node?_withFolders_of_blocks hblocks, hb]
  obtain ⟨hc, ho⟩ := of_folderError?_eq_none hfe
  have hend : (t.withFolders root r e.restored kind).node?
      (e.restored.base r ++ e.restored.folders) = some .directory := by
    rw [withFolders_eq_opened hc]
    exact node?_opened_end (base_directory h _) ho
  obtain ⟨-, -, -, hgoal⟩ := of_moveError?_eq_none hme
  have hgoal' : e.obfuscated.site r kind ≠ e.restored.site r kind →
      ¬ e.obfuscated.site r kind <+: e.restored.site r kind ∧
        (t.withFolders root r e.restored kind).node? (e.restored.site r kind) ≠
          some .directory := by
    rwa [node?_withFolders, if_neg (site_notMem_foldersFor _ _ _)]
  refine ⟨fun k => ?_, hfolders.closed.relocated hb' hgoal' hend, fun k hk => ?_, ?_,
    fun hnone => absurd hnone (Option.some_ne_none _)⟩
  · rw [node?_relocated hfolders.closed hb' hgoal', node?_withFolders]
    rfl
  · exact directory_relocated hfolders.closed hb' hgoal' (directory_withFolders hk)
  · rw [workingDirectory_relocated, workingDirectory_withFolders]

/-- **Editing the file** after the move carries out the rest of the plan. -/
theorem carriedOut_editFile {m : FileTree} {source : Location} {folders : List Location}
    {o o' : Outcome} (found : Path) (h : t.HasRoot root r) (he : e.IsDotless)
    (hfits : NameFits root e.restored kind)
    (hshort : Declaration.isTooLong e.obfuscated.simpleName = false)
    (hm : CarriedOut t ⟨folders, some ⟨source, e.restored.site r kind, b⟩, o⟩ m) :
    CarriedOut t ⟨folders, some ⟨source, e.restored.site r kind, e.editBytes b⟩, o'⟩
        (m.editFile (classFile root e.restored kind) e).1 ∧
      (outcomeOf found (m.editFile (classFile root e.restored kind) e)).2 =
        if (Utf8.decode? b).isSome then .relocated found (classFile root e.restored kind)
        else .failed found (.io (classFile root e.restored kind) .notUtf8) := by
  have hroot := h.carriedOut hm
  have hbm : m.node? (e.restored.site r kind) = some (.file b) := by
    rw [hm.node?, Plan.nodeAfter]
    exact if_pos rfl
  have hfm : m.isFile (classFile root e.restored kind) = true :=
    (hroot.isFile_classFile_iff he.restored kind).2 ⟨hfits, b, hbm⟩
  have hreach := hroot.reaches_classFile he.restored kind
  obtain ⟨segments, hseg, -⟩ := hreach.enter
  have hres : m.resolve (classFile root e.restored kind) = .ok (e.restored.site r kind) :=
    hreach.resolve_of_isFile hroot.closed hfm
  rw [editFile_eq hseg hreach.isName hres hbm hshort, Entry.editBytes]
  cases hd : Utf8.decode? b with
  | none => exact ⟨⟨hm.node?, hm.closed, hm.directory, hm.workingDirectory, nofun⟩, rfl⟩
  | some text =>
    have hne : e.restored.site r kind ≠ [] := by
      rw [ClassPath.site_eq_concat]
      simp
    -- Writing exchanges a file for a file, so only the contents of the target change.
    have hput := node?_put m hne (.file (Utf8.encode (e.editText text)))
    refine ⟨⟨fun k => ?_, hm.closed.put_file hbm _, fun k hk => ?_, hm.workingDirectory, nofun⟩,
      rfl⟩
    · rw [hput, hm.node?]
      simp only [Plan.nodeAfter]
      split_ifs <;> rfl
    · rw [hput, if_neg, hm.directory k hk]
      rintro rfl
      rw [hm.directory _ hk] at hbm
      cases hbm

/-- **Relocating a file** carries out its plan. -/
theorem relocate_eq_planFor (h : t.HasRoot root r) (he : e.IsDotless)
    (hf : t.isFile (classFile root e.obfuscated kind) = true) :
    CarriedOut t (t.planFor root r e kind)
        (t.relocate root ⟨classFile root e.obfuscated kind, kind⟩ e).1 ∧
      (outcomeOf (classFile root e.obfuscated kind)
        (t.relocate root ⟨classFile root e.obfuscated kind, kind⟩ e)).2 =
          (t.planFor root r e kind).outcome := by
  obtain ⟨hfits, b, hb⟩ := (h.isFile_classFile_iff he.obfuscated kind).1 hf
  rw [relocate]
  simp only
  rw [← folderPath, makeDirectories_folderPath h he.restored kind, planFor]
  cases hfe : t.folderError? root r e.restored kind with
  | some c => exact ⟨carriedOut_withFolders h _ _ _, rfl⟩
  | none =>
    simp only [rename_withFolders h he hf hfe]
    cases hme : t.moveError? (classFile root e.restored kind) (e.obfuscated.site r kind)
        (e.restored.site r kind) (e.restored.fileName kind) with
    | some c => exact ⟨carriedOut_withFolders h _ _ _, rfl⟩
    | none =>
      have hshort : Declaration.isTooLong e.obfuscated.simpleName = false :=
        isTooLong_eq_false (hfits.2 (e.obfuscated.fileName kind) (by simp))
      have hcont : t.contents (e.obfuscated.site r kind) = b := by rw [contents, hb]
      rw [hcont]
      exact carriedOut_editFile _ h he (nameFits_of_eq_none hfe hme) hshort
        (carriedOut_relocated h .skipped hb hfe hme)

/-- **Applying an entry** carries out its plan and has the outcome that the plan says. -/
theorem restore_eq_plan (h : t.HasRoot root r) (he : e.IsDotless) :
    CarriedOut t (t.plan root r e) (t.restore root e).1 ∧
      (t.restore root e).2 = (t.plan root r e).outcome := by
  cases hl : t.locate? root e.obfuscated with
  | none =>
    rw [restore_of_locate?_eq_none hl, plan, hl]
    refine ⟨⟨fun k => ?_, h.closed, fun _ hk => hk, rfl, fun _ => rfl⟩, rfl⟩
    simp [Plan.nodeAfter]
  | some file =>
    obtain ⟨hp, hf⟩ := locate?_eq_some hl
    rw [restore_of_locate?_eq_some hl, fst_outcomeOf, plan_of_locate? hl]
    obtain ⟨p, kind⟩ := file
    obtain rfl : p = classFile root e.obfuscated kind := hp
    exact relocate_eq_planFor h he hf

/-- The source root stays when an entry is applied. -/
theorem HasRoot.restore (h : t.HasRoot root r) (he : e.IsDotless) :
    (t.restore root e).1.HasRoot root r := h.carriedOut (restore_eq_plan h he).1

end FileTree

end SourceRecovery
