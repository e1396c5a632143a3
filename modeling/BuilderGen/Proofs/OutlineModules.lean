import BuilderGen.Proofs.ScanLocations
import BuilderGen.Proofs.StoreRuns

/-!
# Modules with a file of their own

The path of a module is put together in two ways: from the folders and the file that it is in, and
from the modules around it that are written in the same file. Both agree. When a module that is
written with its items is moved to the file where its items belong, a scan finds the same in another
order, and one declaration more, the one without items that stays behind. Builders with different
names come out the same.
-/

namespace BuilderGen

open Code

/-! ### Modules taken out of items -/

/-- A module that is written with its items. -/
structure InlineModule where
  /-- Its attributes. -/
  attributes : List Attribute
  /-- How far it can be seen. -/
  visibility : Visibility
  /-- Whether it is marked `unsafe`. -/
  isUnsafe : Bool
  /-- Its name. -/
  name : Ident
  /-- The attributes between its braces. -/
  inner : List Attribute
  /-- Its items. -/
  items : List Item

/-- The module with its items. -/
def InlineModule.block (m : InlineModule) : Item :=
  .module m.attributes m.visibility m.isUnsafe m.name m.inner m.items

/-- The declaration of the module without its items. -/
def InlineModule.declaration (m : InlineModule) : Item :=
  .outlineModule m.attributes m.visibility m.isUnsafe m.name

/-- Items before and after the items of one module are taken out, which stands in the modules with
the names `around`, the outermost first. -/
inductive Outlined (m : InlineModule) : (around : List Ident) → List Item → List Item → Prop where
  /-- The module is one of the items. -/
  | here (before after : List Item) :
      Outlined m [] (before ++ m.block :: after) (before ++ m.declaration :: after)
  /-- The module is in one of the items. -/
  | inside (before after : List Item) (outer : InlineModule) {around : List Ident}
      {items : List Item} (h : Outlined m around outer.items items) :
      Outlined m (outer.name :: around) (before ++ outer.block :: after)
        (before ++ { outer with items }.block :: after)

theorem declarationsOfAll_append (module : String) (items items' : List Item) :
    declarationsOfAll module (items ++ items') =
      declarationsOfAll module items ++ declarationsOfAll module items' := by
  induction items with
  | nil => rfl
  | cons item rest ih =>
    rw [List.cons_append, declarationsOfAll, declarationsOfAll, ih, List.append_assoc]

theorem declarationsOf_block (crate : String) (names : List String) (m : InlineModule) :
    declarationsOf (nameIn crate names) m.block =
      declarationsOfAll (nameIn crate (names ++ [m.name.name])) m.items := by
  rw [InlineModule.block, declarationsOf, nameIn_append]

theorem declarationsOf_declaration (module : String) (m : InlineModule) :
    declarationsOf module m.declaration = [⟨module, m.declaration⟩] := by
  rw [InlineModule.declaration, declarationsOf]
  simp

/-- The items that are left and those that are taken out declare the same as the items before, and
the module itself. -/
theorem Outlined.declarations {m : InlineModule} {around : List Ident} {items items' : List Item}
    (h : Outlined m around items items') (crate : String) (names : List String) :
    let enclosing := names ++ around.map Ident.name
    (declarationsOfAll (nameIn crate names) items' ++
        declarationsOfAll (nameIn crate (enclosing ++ [m.name.name])) m.items).Perm
      (⟨nameIn crate enclosing, m.declaration⟩ ::
        declarationsOfAll (nameIn crate names) items) := by
  induction h generalizing names with
  | here before after =>
    intro enclosing
    have hend : enclosing = names := List.append_nil _
    rw [hend]
    simp only [declarationsOfAll_append, declarationsOfAll, declarationsOf_block,
      declarationsOf_declaration, List.append_assoc, List.singleton_append]
    refine List.perm_middle.trans (.cons _ ?_)
    exact List.perm_append_comm.append_left _
  | @inside before after outer around items h ih =>
    intro enclosing
    have hinner := ih (names ++ [outer.name.name])
    have hend : names ++ [outer.name.name] ++ around.map Ident.name = enclosing :=
      List.append_assoc ..
    rw [hend] at hinner
    simp only [declarationsOfAll_append, declarationsOfAll, declarationsOf_block,
      List.append_assoc]
    -- The items taken out belong before what comes after the module around them.
    refine ((List.perm_append_comm.append_left _).append_left _).trans ?_
    rw [← List.append_assoc (declarationsOfAll _ items)]
    refine ((hinner.append_right _).append_left _).trans ?_
    exact List.perm_middle

/-! ### Where modules have their files -/

/-- The names of the modules that a source file is in, its own last. They are also the names of the
folders on the way to the files of the modules in it. -/
def moduleNames (place : Place) : List String :=
  if (sourceNames place).getLast?.any isFolderModule then (sourceNames place).dropLast
  else sourceNames place

/-- The module of a source file has its path from the names of its modules, unless one of them reads
as a way to a folder. -/
theorem modulePath_eq_nameIn (crate : String) {place : Place} (h : "." ∉ moduleNames place) :
    modulePath crate place = nameIn crate (moduleNames place) := by
  refine modulePath_eq crate fun name hname hdot => h ?_
  have hlast : (sourceNames place).getLast? = some "." := by
    simp [sourceNames, hname, hdot]
  have hplain : ¬((sourceNames place).getLast?.any isFolderModule = true) := by
    rw [hlast]
    decide
  rw [moduleNames, if_neg hplain]
  exact List.mem_of_getLast? hlast

/-- Where the file of a module is expected: under its name in the folder of the module around it, or
as `mod` in the folder that is its own. -/
inductive IsModuleFile (folder : Place) (name : String) : Place → Prop where
  /-- The file has the name of the module. -/
  | named : IsModuleFile folder name (folder ++ [name ++ ".rs"])
  /-- The folder has the name of the module. -/
  | inFolder : IsModuleFile folder name (folder ++ [name, "mod.rs"])

/-- The names that decide whether a file is read and which module it holds. -/
def reservedNames : List String := ["mod", "lib", "main", "generated", "target"]

/-- The file where a module is expected has the module. -/
theorem IsModuleFile.moduleNames {folder place : Place} {name : String}
    (h : IsModuleFile folder name place) (hne : name ≠ "") (hname : name ∉ reservedNames) :
    moduleNames place = folder ++ [name] := by
  have hplain : isFolderModule name = false := by
    simp only [reservedNames, List.mem_cons, not_or] at hname
    simp [isFolderModule, hname]
  cases h with
  | named =>
    have hstem : sourceStem? (name ++ ".rs") = some name := sourceStem?_eq_some.mpr ⟨hne, rfl⟩
    simp [BuilderGen.moduleNames, sourceNames, hstem, hplain]
  | inFolder =>
    have hstem : sourceStem? "mod.rs" = some "mod" := sourceStem?_eq_some.mpr (by decide)
    have hsplit : folder ++ [name, "mod.rs"] = folder ++ [name] ++ ["mod.rs"] := by simp
    rw [hsplit, BuilderGen.moduleNames, sourceNames, List.dropLast_concat, List.getLast?_concat,
      Option.map_some, hstem, Option.getD_some, Option.toList_some, List.getLast?_concat,
      List.dropLast_concat]
    rfl

/-- A name between two slashes occurs between slashes only as the whole of what is between two of
them. -/
theorem eq_of_infix_between {w cs : List Char} (hcs : '/' ∉ cs)
    (h : '/' :: (w ++ ['/']) <:+: '/' :: (cs ++ ['/'])) : w = cs := by
  rcases List.infix_cons_iff.mp h with hfront | hinside
  · rcases List.prefix_concat_iff.mp (List.cons_prefix_cons.mp hfront).2 with heq | hshort
    · exact List.append_cancel_right heq
    · exact absurd (hshort.subset (by simp)) hcs
  · have hcount := hinside.sublist.count_le '/'
    simp [List.count_eq_zero_of_not_mem hcs] at hcount

/-- A name between two slashes occurs among names between slashes only as one of them, and not as
the last one. -/
theorem mem_of_infix_names {w : String} (hw : '/' ∉ w.toList) {place : Place}
    (h : ∀ name ∈ place, '/' ∉ name.toList)
    (hbetween : '/' :: (w.toList ++ ['/']) <:+: ("/" ++ "/".intercalate place).toList) :
    w ∈ place.dropLast := by
  induction place with
  | nil =>
    have hlength := hbetween.length_le
    simp at hlength
  | cons name rest ih =>
    have hname := h name List.mem_cons_self
    cases rest with
    | nil =>
      have hcount := hbetween.sublist.count_le '/'
      simp [List.count_eq_zero_of_not_mem hname] at hcount
    | cons next rest =>
      have htext : ("/" ++ "/".intercalate (name :: next :: rest)).toList =
          '/' :: name.toList ++ '/' :: ("/".intercalate (next :: rest)).toList := by
        simp [String.intercalate_cons_cons]
      rw [htext] at hbetween
      rcases (infix_around_slash hw).mp hbetween with hfirst | hrest
      · have heq := String.toList_inj.mp (eq_of_infix_between hname hfirst)
        rw [heq, List.dropLast_cons_cons]
        exact List.mem_cons_self
      · have hmem := ih (fun key hkey => h key (List.mem_cons_of_mem _ hkey)) (by simpa using hrest)
        exact List.mem_cons_of_mem _ hmem

/-- A file is not taken for a generated one if no folder on the way has the name of one with such
files. -/
theorem isDerived_eq_false {place : Place} (h : ∀ name ∈ place, '/' ∉ name.toList)
    (hfree : ∀ name ∈ place.dropLast, name ≠ "generated" ∧ name ≠ "target") :
    isDerived ⟨"/" ++ "/".intercalate place⟩ = false := by
  rw [isDerived, Bool.or_eq_false_iff, ← Bool.not_eq_true, ← Bool.not_eq_true, occursIn_iff,
    occursIn_iff]
  exact ⟨fun hbetween =>
      (hfree _ (mem_of_infix_names (w := "generated") (by decide) h hbetween)).1 rfl,
    fun hbetween => (hfree _ (mem_of_infix_names (w := "target") (by decide) h hbetween)).2 rfl⟩

/-- The file where a module is expected is read if the scan leads to a file that is. -/
theorem IsModuleFile.isSourcePath {p : FilePath} (hp : p.text ≠ "") {folder place : Place}
    {name : String} (h : IsModuleFile folder name place) (hne : name ≠ "")
    (hproper : ∀ name ∈ place, Disk.isName name = true ∧ '/' ∉ name.toList)
    (hnames : ∀ v ∈ folder ++ [name], v ∉ reservedNames) (hfront : isDerived ⟨p.front⟩ = false) :
    IsSourcePath (p.below place) := by
  have hfree {v : String} (hv : v ∈ folder ++ [name]) : v ≠ "generated" ∧ v ≠ "target" := by
    have hreserved := hnames v hv
    simp only [reservedNames, List.mem_cons, not_or] at hreserved
    exact ⟨hreserved.2.2.2.1, hreserved.2.2.2.2.1⟩
  have hslash (v : String) (hv : v ∈ place) : '/' ∉ v.toList := (hproper v hv).2
  have hplace : place ≠ [] := by cases h <;> simp
  refine (isSourcePath_below hp hplace hproper).mpr ⟨?_, hfront, isDerived_eq_false hslash ?_⟩
  · cases h with
    | named => exact ⟨name, hne, List.getLast?_concat⟩
    | inFolder => exact ⟨"mod", by decide, by simp⟩
  · intro v hv
    cases h with
    | named => exact hfree (List.mem_append_left _ (by simpa using hv))
    | inFolder => exact hfree (by simpa using hv)

/-! ### Trees before and after -/

/-- A file can be read, and it holds some items. -/
def File.Holds (f : File) (items : List Item) : Prop :=
  ∃ text, f.text = .ok text ∧ parseFile text = .ok items

theorem File.Holds.scanFile {f : File} {items : List Item} (h : f.Holds items) (crate : String)
    (p : FilePath) (place : Place) :
    (scanFile crate (visitAt p (place, f))).declarations =
      declarationsOfAll (modulePath crate place) items := by
  obtain ⟨text, htext, hitems⟩ := h
  simp only [BuilderGen.scanFile, visitAt, htext, parseDeclarations, hitems, Except.map]

/-- A tree `n'` that comes from `n` by moving a module from the source file at the place `q`, where
it stands in the modules with the names `around`, to a new file at the place `q'`. The trees are
scanned from the path `p`. -/
structure IsMovedOut (p : FilePath) (m : InlineModule) (around : List Ident) (q q' : Place)
    (n n' : Node) : Prop where
  /-- The trees have the same files elsewhere. -/
  elsewhere : n.SameFilesWhere (fun place => place ≠ q ∧ place ≠ q') n'
  /-- A scan reads the file that the module is in. -/
  source : IsSourcePath (p.below q)
  /-- The file has the module, and then only its declaration. -/
  left : ∃ f f' items items', n.at? q = some (.file f) ∧ n'.at? q = some (.file f') ∧
    f.Holds items ∧ f'.Holds items' ∧ Outlined m around items items'
  /-- There was no file where the module goes. -/
  free : ∀ f, n.at? q' ≠ some (.file f)
  /-- There is one with its items now. -/
  moved : ∃ f, n'.at? q' = some (.file f) ∧ f.Holds m.items
  /-- That is where the file of the module is expected. -/
  place : IsModuleFile (moduleNames q ++ around.map Ident.name) m.name.name q'
  /-- The modules on the way have names that do not mean something else to a scan. -/
  names : ∀ v ∈ moduleNames q ++ around.map Ident.name ++ [m.name.name], v ∉ reservedNames

/-- The files of a walk are some of them and the others. -/
theorem IsWalk.perm_append {p : FilePath} {n : Node} {files : List (Place × File)}
    (h : IsWalk p n files) {P : Place → Prop} [DecidablePred P] (apart : List (Place × File))
    (hnodup : apart.Nodup) (hmem : ∀ e, e ∈ apart ↔ e ∈ files ∧ ¬P e.1) :
    files.Perm (apart ++ files.filter fun e => P e.1) := by
  have hfiles : files.Nodup := h.order.imp fun {a b} hlt heq =>
    absurd (heq ▸ hlt) (List.lt_irrefl _)
  have hapart : apart.Perm (files.filter fun e => !decide (P e.1)) := by
    refine (List.perm_ext_iff_of_nodup hnodup (hfiles.filter _)).mpr fun e => ?_
    simp [hmem]
  exact (List.filter_append_perm _ files).symm.trans
    (List.perm_append_comm.trans (hapart.symm.append_right _))

theorem IsModuleFile.place_ne_nil {folder place : Place} {name : String}
    (h : IsModuleFile folder name place) : place ≠ [] := by
  cases h <;> simp

/-- The new file is read as the file is that the module was in. -/
theorem IsMovedOut.isSourcePath {p : FilePath} {m : InlineModule} {around : List Ident}
    {q q' : Place} {n n' : Node} (h : IsMovedOut p m around q q' n n') (hp : p.text ≠ "")
    (hn' : n'.IsProper) : IsSourcePath (p.below q') := by
  obtain ⟨f, f', items, items', hf, hf', -⟩ := h.left
  obtain ⟨g, hg, -⟩ := h.moved
  have hq : q ≠ [] := by
    rintro rfl
    obtain ⟨key, rest, rfl⟩ := List.exists_cons_of_ne_nil h.place.place_ne_nil
    cases hf'
    cases hg
  have hfront := ((isSourcePath_below hp hq fun v => hn'.name hf').mp h.source).2.1
  exact h.place.isSourcePath hp (isPlain_name m.name).nonempty (fun v => hn'.name hg) h.names
    hfront

/-- The files that are read when a module has been moved: one more, and otherwise the same, except
for the file that the module was in. -/
theorem IsMovedOut.sources {p : FilePath} {m : InlineModule} {around : List Ident} {q q' : Place}
    {n n' : Node} (h : IsMovedOut p m around q q' n n') (hp : p.text ≠ "") (hn : n.IsProper)
    (hn' : n'.IsProper) :
    ∃ f f' g items items' others, f.Holds items ∧ f'.Holds items' ∧ g.Holds m.items ∧
      Outlined m around items items' ∧ (sourcesBelow p n).Perm ((q, f) :: others) ∧
      (sourcesBelow p n').Perm ((q, f') :: (q', g) :: others) := by
  obtain ⟨f, f', items, items', hf, hf', hitems, hitems', hout⟩ := h.left
  obtain ⟨g, hg, hbody⟩ := h.moved
  have hne : q ≠ q' := fun heq => h.free f (heq ▸ hf)
  let Elsewhere (place : Place) : Prop := place ≠ q ∧ place ≠ q'
  have hwalk := isWalk_sourcesBelow hn p
  have hwalk' := isWalk_sourcesBelow hn' p
  have helsewhere {place : Place} : ¬Elsewhere place ↔ place = q ∨ place = q' := by
    simp only [Elsewhere]
    tauto
  refine ⟨f, f', g, items, items', _, hitems, hitems', hbody, hout,
    hwalk.perm_append (P := Elsewhere) [(q, f)] (List.nodup_singleton _) ?_, ?_⟩
  · rintro ⟨place, e⟩
    rw [hwalk.mem, helsewhere, List.mem_singleton, Prod.mk.injEq]
    constructor
    · rintro ⟨rfl, rfl⟩
      exact ⟨⟨hf, h.source⟩, .inl rfl⟩
    · rintro ⟨⟨hat, -⟩, rfl | rfl⟩
      · cases hf.symm.trans hat
        exact ⟨rfl, rfl⟩
      · exact absurd hat (h.free e)
  · rw [hwalk.filter hwalk' h.elsewhere]
    refine hwalk'.perm_append (P := Elsewhere) [(q, f'), (q', g)] (by simp [hne]) ?_
    rintro ⟨place, e⟩
    rw [hwalk'.mem, helsewhere, List.mem_pair, Prod.mk.injEq, Prod.mk.injEq]
    constructor
    · rintro (⟨rfl, rfl⟩ | ⟨rfl, rfl⟩)
      · exact ⟨⟨hf', h.source⟩, .inl rfl⟩
      · exact ⟨⟨hg, h.isSourcePath hp hn'⟩, .inr rfl⟩
    · rintro ⟨⟨hat, -⟩, rfl | rfl⟩
      · cases hf'.symm.trans hat
        exact .inl ⟨rfl, rfl⟩
      · cases hg.symm.trans hat
        exact .inr ⟨rfl, rfl⟩

/-- The module of a file is named by the names of its modules if the way to the file is one that a
tree can have. -/
theorem IsMovedOut.modulePath_eq {p : FilePath} {m : InlineModule} {around : List Ident}
    {q q' : Place} {n n' : Node} (h : IsMovedOut p m around q q' n n') (hn' : n'.IsProper)
    (crate : String) :
    modulePath crate q = nameIn crate (moduleNames q) ∧
      modulePath crate q' =
        nameIn crate (moduleNames q ++ around.map Ident.name ++ [m.name.name]) := by
  obtain ⟨g, hg, -⟩ := h.moved
  have hnames := h.place.moduleNames (isPlain_name m.name).nonempty (h.names _ (by simp))
  have hfolder : ∀ v ∈ moduleNames q ++ around.map Ident.name, v ∈ q' := by
    intro v hv
    cases h.place <;> exact List.mem_append_left _ hv
  have hdot : "." ∉ moduleNames q ++ around.map Ident.name := fun hmem =>
    absurd (hn'.name hg (hfolder _ hmem)).1 (by decide)
  constructor
  · exact modulePath_eq_nameIn crate fun hmem => hdot (List.mem_append_left _ hmem)
  · rw [← hnames]
    refine modulePath_eq_nameIn crate fun hmem => ?_
    rw [hnames, List.mem_append, List.mem_singleton] at hmem
    rcases hmem with hmem | heq
    · exact hdot hmem
    · exact (isPlain_name m.name).dot (heq ▸ by decide)

/-! ### Scans -/

/-- The files after a module has been moved declare what they declared before, and the module
itself. -/
theorem IsMovedOut.declarations {p : FilePath} {m : InlineModule} {around : List Ident}
    {q q' : Place} {n n' : Node} (h : IsMovedOut p m around q q' n n') (hp : p.text ≠ "")
    (hn : n.IsProper) (hn' : n'.IsProper) (crate : String) :
    (scanFiles crate ((sourcesBelow p n').map (visitAt p))).declarations.Perm
      (⟨nameIn crate (moduleNames q ++ around.map Ident.name), m.declaration⟩ ::
        (scanFiles crate ((sourcesBelow p n).map (visitAt p))).declarations) := by
  obtain ⟨f, f', g, items, items', others, hitems, hitems', hbody, hout, hfiles, hfiles'⟩ :=
    h.sources hp hn hn'
  obtain ⟨hmodule, hmodule'⟩ := h.modulePath_eq hn' crate
  let declared (e : Place × File) : List Declaration := (scanFile crate (visitAt p e)).declarations
  have hscan (files : List (Place × File)) :
      (scanFiles crate (files.map (visitAt p))).declarations = files.flatMap declared := by
    rw [Generator.scanFiles_declarations, List.flatMap_map]
  have hq : declared (q, f) = declarationsOfAll (nameIn crate (moduleNames q)) items := by
    rw [← hmodule]
    exact hitems.scanFile crate p q
  have hq' : declared (q, f') = declarationsOfAll (nameIn crate (moduleNames q)) items' := by
    rw [← hmodule]
    exact hitems'.scanFile crate p q
  have hnew : declared (q', g) = declarationsOfAll
      (nameIn crate (moduleNames q ++ around.map Ident.name ++ [m.name.name])) m.items := by
    rw [← hmodule']
    exact hbody.scanFile crate p q'
  have hmoved := hout.declarations crate (moduleNames q)
  rw [hscan, hscan]
  refine (hfiles'.flatMap_right declared).trans
    (.trans ?_ ((hfiles.flatMap_right declared).symm.cons _))
  rw [List.flatMap_cons, List.flatMap_cons, List.flatMap_cons, hq, hq', hnew, ← List.append_assoc,
    ← List.cons_append]
  exact hmoved.append_right _

/-- To move a module to a file of its own changes nothing but the order of what is found. A scan
finds what it found before, in the same modules, and the declaration of the module. A pass makes the
same calls for builders in another order. If the builders have different names, then it leaves the
same texts in a store. -/
theorem moved_module_is_found {d d' : Disk} {p : FilePath} {n n' : Node} (hd : d.node p = .ok n)
    (hd' : d'.node p = .ok n') (hn : n.IsProper) (hn' : n'.IsProper) {m : InlineModule}
    {around : List Ident} {q q' : Place} (h : IsMovedOut p m around q q' n n') (crate : String) :
    ∃ found found', scan d crate p = .ok found ∧ scan d' crate p = .ok found' ∧
      found'.declarations.Perm
        (⟨nameIn crate (moduleNames q ++ around.map Ident.name), m.declaration⟩ ::
          found.declarations) ∧
      ∀ style : SetterStyle,
        (callsOf style (discover found'.declarations)).Perm
          (callsOf style (discover found.declarations)) ∧
        ∀ s : Store, s.Ordered →
          let r := generate Store.sink style found.declarations s
          let r' := generate Store.sink style found'.declarations s
          r'.report.generated.Perm r.report.generated ∧
            r'.report.failures.Perm r.report.failures ∧
            (((callsOf style (discover found.declarations)).map (·.slot.name)).Nodup →
              r'.stored = r.stored) := by
  have hperm := h.declarations (text_ne_of_node hd) hn hn' crate
  -- The declaration of the module asks for no builder.
  have hentries := hperm.flatMap_right foundIn
  exact ⟨_, _, scan_eq hd hn crate, scan_eq hd' hn' crate, hperm, fun style =>
    ⟨hentries.filterMap _, fun s hs => serveAll_perm style hentries hs⟩⟩

/-- The module `x` with its one struct `S`. -/
def unitModule : InlineModule where
  attributes := []
  visibility := .inherited
  isUnsafe := false
  name := { name := "x" }
  inner := []
  items :=
    [.struct ⟨[], .inherited, { name := "S" }, .none, ⟨[], false, [], false⟩, .unit, [], false⟩]

/-- Whether items are those of `unitModule`. -/
def isUnitItems : List Item → Bool
  | [.struct ⟨[], .inherited, name, ⟨0, 0⟩, ⟨[], false, [], false⟩, .unit, [], false⟩] =>
    name == { name := "S" }
  | _ => false

/-- Whether items are `unitModule` alone. -/
def isUnitBlock : List Item → Bool
  | [.module [] .inherited false name [] items] => name == { name := "x" } && isUnitItems items
  | _ => false

/-- Whether items are the declaration of `unitModule` alone. -/
def isUnitDeclaration : List Item → Bool
  | [.outlineModule [] .inherited false name] => name == { name := "x" }
  | _ => false

theorem eq_of_isUnitItems {items : List Item} (h : isUnitItems items = true) :
    items = unitModule.items := by
  unfold isUnitItems at h
  split at h
  · rw [eq_of_beq h]
    rfl
  · cases h

theorem eq_of_isUnitBlock {items : List Item} (h : isUnitBlock items = true) :
    items = [unitModule.block] := by
  unfold isUnitBlock at h
  split at h
  · obtain ⟨hname, hitems⟩ := Bool.and_eq_true_iff.mp h
    rw [eq_of_beq hname, eq_of_isUnitItems hitems]
    rfl
  · cases h

theorem eq_of_isUnitDeclaration {items : List Item} (h : isUnitDeclaration items = true) :
    items = [unitModule.declaration] := by
  unfold isUnitDeclaration at h
  split at h
  · rw [eq_of_beq h]
    rfl
  · cases h

/-- A file that holds items, which a test tells from others. -/
theorem File.holds_of_test {text : String} {test : List Item → Bool} {items : List Item}
    (htest : ∀ {items'}, test items' = true → items' = items)
    (h : (parseFile text).toOption.any test = true) :
    File.Holds { content := text.toUTF8 } items := by
  cases hparse : parseFile text with
  | error e =>
    rw [hparse] at h
    cases h
  | ok items' =>
    rw [hparse] at h
    exact ⟨text, Disk.text_of_content rfl, by rw [hparse, htest h]⟩

/-- A source file from which a builder is made. -/
def builderFile : File :=
  { content := "#[swagger_builder(target = T)] struct B \x7b a: u8 \x7d".toUTF8 }

/-- A source file that is `unitModule`. -/
def blockFile : File := { content := "mod x \x7b struct S; \x7d".toUTF8 }

/-- A source file that declares a module `x`. -/
def declarationFile : File := { content := "mod x;".toUTF8 }

/-- A folder with `unitModule` in the file `a.rs`. -/
def blockEntries : List (String × Node) := [("a.rs", .file blockFile), ("b.rs", .file builderFile)]

/-- The folder after `unitModule` has been moved. -/
def movedEntries : List (String × Node) :=
  [("a", .folder [("x.rs", .file structFile)]), ("a.rs", .file declarationFile),
    ("b.rs", .file builderFile)]

theorem blockEntries_proper : (Node.folder blockEntries).IsProper := by
  refine Node.isProper_folder (by decide) (by decide) fun e he => ?_
  simp only [blockEntries, List.mem_cons, List.not_mem_nil, or_false] at he
  rcases he with rfl | rfl <;> exact Node.isProper_file _

theorem movedEntries_proper : (Node.folder movedEntries).IsProper := by
  refine Node.isProper_folder (by decide) (by decide) fun e he => ?_
  simp only [movedEntries, List.mem_cons, List.not_mem_nil, or_false] at he
  rcases he with rfl | rfl | rfl
  · refine Node.isProper_folder (by decide) (by decide) fun e he => ?_
    rw [List.mem_singleton.mp he]
    exact Node.isProper_file _
  · exact Node.isProper_file _
  · exact Node.isProper_file _

theorem blockEntries_visits : (Node.folder blockEntries).visits ⟨"src"⟩ [] =
    [⟨⟨"src/a.rs"⟩, ["a.rs"], blockFile⟩, ⟨⟨"src/b.rs"⟩, ["b.rs"], builderFile⟩] :=
  visits_folder_of_pairwise (by decide) _ _

theorem movedEntries_visits : (Node.folder movedEntries).visits ⟨"src"⟩ [] =
    [⟨⟨"src/a/x.rs"⟩, ["a", "x.rs"], structFile⟩, ⟨⟨"src/a.rs"⟩, ["a.rs"], declarationFile⟩,
      ⟨⟨"src/b.rs"⟩, ["b.rs"], builderFile⟩] := by
  have hinner (path : FilePath) (place : Place) :
      (Node.folder [("x.rs", .file structFile)]).visits path place =
        [⟨path.join ⟨"x.rs"⟩, place ++ ["x.rs"], structFile⟩] :=
    visits_folder_of_pairwise (List.pairwise_singleton _ _) path place
  rw [movedEntries, visits_folder_of_pairwise (by decide), List.flatMap_cons, hinner]
  rfl

theorem isMovedOut_movedEntries :
    IsMovedOut ⟨"src"⟩ unitModule [] ["a.rs"] ["a", "x.rs"] (.folder blockEntries)
      (.folder movedEntries) where
  elsewhere := by
    rintro place ⟨hne, hne'⟩ f
    have hvisit {n : Node} (h : n.IsProper) : n.at? place = some (.file f) ↔
        ∃ path, ⟨path, place, f⟩ ∈ n.visits ⟨"src"⟩ [] := by
      simp [mem_visits h]
    rw [hvisit blockEntries_proper, hvisit movedEntries_proper, blockEntries_visits,
      movedEntries_visits]
    simp [hne, hne']
  source := isSourcePath_iff.mpr ⟨⟨"a", by decide, by decide⟩, by decide⟩
  left := ⟨_, _, _, _, rfl, rfl, File.holds_of_test eq_of_isUnitBlock (by decide +kernel),
    File.holds_of_test eq_of_isUnitDeclaration (by decide +kernel), .here [] []⟩
  free f h := by cases h
  moved := ⟨_, rfl, File.holds_of_test eq_of_isUnitItems (by decide +kernel)⟩
  place := .named
  names := by decide

/-- A struct in a module of its own is found in the same module when the module is moved, and the
builder of another struct stays the same. -/
theorem unit_module_is_moved :
    ∃ found found', scan (mixedDisk blockEntries) "crate" ⟨"src"⟩ = .ok found ∧
      scan (mixedDisk movedEntries) "crate" ⟨"src"⟩ = .ok found' ∧
      found.declarations.map Declaration.module = ["crate::a::x", "crate::b"] ∧
      found'.declarations.Perm (⟨"crate::a", unitModule.declaration⟩ :: found.declarations) ∧
      (generate Store.sink .prefixed found.declarations {}).report.generated =
        ["crate::b::BBuilder"] ∧
      (generate Store.sink .prefixed found'.declarations {}).stored =
        (generate Store.sink .prefixed found.declarations {}).stored := by
  have hnode : (mixedDisk blockEntries).node ⟨"src"⟩ = .ok (.folder blockEntries) := rfl
  have hnode' : (mixedDisk movedEntries).node ⟨"src"⟩ = .ok (.folder movedEntries) := rfl
  obtain ⟨found, found', hscan, hscan', hperm, hpass⟩ := moved_module_is_found hnode hnode'
    blockEntries_proper movedEntries_proper isMovedOut_movedEntries "crate"
  obtain ⟨-, hstore⟩ := hpass .prefixed
  obtain ⟨-, -, hstored⟩ := hstore {} List.Pairwise.nil
  have hfound : found = scanFiles "crate" [⟨⟨"src/a.rs"⟩, ["a.rs"], blockFile⟩,
      ⟨⟨"src/b.rs"⟩, ["b.rs"], builderFile⟩] := by
    rw [scan, hnode] at hscan
    simp only [blockEntries_visits, Except.ok.injEq] at hscan
    exact hscan.symm
  refine ⟨found, found', hscan, hscan', ?_, hperm, ?_, hstored ?_⟩
  all_goals
    rw [hfound]
    decide +kernel

end BuilderGen
