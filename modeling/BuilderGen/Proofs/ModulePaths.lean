import BuilderGen.Generator
import BuilderGen.Proofs.Names
import BuilderGen.Proofs.PassOutcomes
import BuilderGen.Proofs.SlotNames
import BuilderGen.Proofs.Synthesis

/-!
# The modules of what a scan finds

The module of a declaration is named by the folders and the file that it was found in, and by the
inline modules around it. If the folders and the file have plain names, then the full name of every
builder made from the file consists of the crate and of plain names.
-/

namespace BuilderGen

open Code

/-! ### Names inside a crate -/

/-- The text of an identifier is plain. -/
theorem isPlain_text (id : Ident) : IsPlain id.text := by
  obtain ⟨c, rest, htext, -, hword⟩ := exists_text_eq_cons id
  rw [← htext] at hword
  refine ⟨fun hempty => ?_, hword.not_mem (by decide) (by decide),
    hword.not_mem (by decide) (by decide), hword.not_mem (by decide) (by decide)⟩
  rw [hempty] at htext
  cases htext

/-- The name of an identifier, which has no raw mark, is plain. -/
theorem isPlain_name (id : Ident) : IsPlain id.name := by
  have hname := id.isIdentifier_name
  have hword : IsWord id.name.toList := fun d hd => .inl (isIdentifierContinue_of_mem hname hd)
  refine ⟨fun hempty => ?_, hword.not_mem (by decide) (by decide),
    hword.not_mem (by decide) (by decide), hword.not_mem (by decide) (by decide)⟩
  rw [hempty] at hname
  cases hname

/-- A module path consists of the name of a crate and of plain names. -/
def IsInside (crate module : String) : Prop :=
  ∃ names, (∀ v ∈ names, IsPlain v) ∧ module = nameIn crate names

theorem nameIn_append (crate : String) (names : List String) (name : String) :
    nameIn crate names ++ "::" ++ name = nameIn crate (names ++ [name]) := by
  rw [nameIn, nameIn, ← List.cons_append,
    String.intercalate_append_of_ne_nil (List.cons_ne_nil _ _) (List.cons_ne_nil _ _),
    String.intercalate_singleton]

/-- What has a plain name in a module inside a crate has a full name that consists of the crate and
of plain names. -/
theorem IsInside.exists_names {crate module name : String} (h : IsInside crate module)
    (hname : IsPlain name) :
    ∃ names, names ≠ [] ∧ (∀ v ∈ names, IsPlain v) ∧
      module ++ "::" ++ name = nameIn crate names := by
  obtain ⟨names, hplain, rfl⟩ := h
  refine ⟨names ++ [name], by simp, fun v hv => ?_, nameIn_append crate names name⟩
  rcases List.mem_append.mp hv with hv | hv
  · exact hplain v hv
  · rw [List.mem_singleton.mp hv]
    exact hname

theorem IsInside.inline {crate module : String} (h : IsInside crate module) (id : Ident) :
    IsInside crate (module ++ "::" ++ id.name) := by
  obtain ⟨names, -, hplain, hnames⟩ := h.exists_names (isPlain_name id)
  exact ⟨names, hplain, hnames⟩

/-! ### Declarations -/

/-- What holds for the module of a text, and for an inline module if it holds for the module around
that, holds for the modules of all declarations. -/
theorem module_of_mem_declarationsOfAll {P : String → Prop}
    (hinline : ∀ (module : String) (id : Ident), P module → P (module ++ "::" ++ id.name))
    {module : String} (h : P module) {items : List Item} {d : Declaration}
    (hd : d ∈ declarationsOfAll module items) : P d.module := by
  suffices hall : (∀ module item, P module → ∀ d ∈ declarationsOf module item, P d.module) ∧
      ∀ module items, P module → ∀ d ∈ declarationsOfAll module items, P d.module from
    hall.2 module items h d hd
  refine declarationsOf.mutual_induct _ _ ?_ ?_ ?_ ?_
  · intro module attributes visibility isUnsafe name inner items ih hmodule d hd
    rw [declarationsOf] at hd
    exact ih (hinline module name hmodule) d hd
  · intro module item hitem hmodule d hd
    rw [declarationsOf.eq_2 module item hitem, List.mem_singleton] at hd
    rw [hd]
    exact hmodule
  · intro module _ d hd
    cases hd
  · intro module item rest ihitem ihrest hmodule d hd
    rw [declarationsOfAll, List.mem_append] at hd
    exact hd.elim (ihitem hmodule d) (ihrest hmodule d)

/-- Inline modules do not lead out of a crate. -/
theorem isInside_of_mem_declarationsOfAll {crate module : String} (h : IsInside crate module)
    {items : List Item} {d : Declaration} (hd : d ∈ declarationsOfAll module items) :
    IsInside crate d.module :=
  module_of_mem_declarationsOfAll (fun _ id h => h.inline id) h hd

/-- The names that a source file has its module from: those of the folders on the way to it, and its
own without the extension. -/
def sourceNames (place : Place) : List String :=
  place.dropLast ++ (place.getLast?.map fun name => (sourceStem? name).getD name).toList

/-- The module of a source file has its path from the names on the way to the file, unless the name
of the file reads as a way to a folder. -/
theorem modulePath_eq (crate : String) {place : Place}
    (h : ∀ name, place.getLast? = some name → (sourceStem? name).getD name ≠ ".") :
    modulePath crate place =
      nameIn crate (if (sourceNames place).getLast?.any isFolderModule then
        (sourceNames place).dropLast else sourceNames place) := by
  have hmodule : (place.getLast?.map fun name => moduleName ((sourceStem? name).getD name)) =
      place.getLast?.map fun name => (sourceStem? name).getD name :=
    Option.map_congr fun name hname => if_neg (h name (Option.mem_def.mp hname))
  rw [modulePath, hmodule]
  rfl

/-- The module of a source file is inside the crate if the names that it comes from are plain. -/
theorem isInside_modulePath (crate : String) {place : Place}
    (h : ∀ v ∈ sourceNames place, IsPlain v) : IsInside crate (modulePath crate place) := by
  have hdot (name : String) (hname : place.getLast? = some name) :
      (sourceStem? name).getD name ≠ "." := by
    have hplain : IsPlain ((sourceStem? name).getD name) :=
      h _ (List.mem_append_right _ (by simp [hname]))
    intro hdot
    have := hplain.dot
    rw [hdot] at this
    exact this (by decide)
  rw [modulePath_eq crate hdot]
  split
  · exact ⟨_, fun v hv => h v (List.dropLast_subset _ hv), rfl⟩
  · exact ⟨_, h, rfl⟩

/-- What is declared in a source file is in the module of the file or in an inline module. -/
theorem exists_items_of_mem_scanFile {crate : String} {v : Visit} {d : Declaration}
    (hd : d ∈ (scanFile crate v).declarations) :
    ∃ items, d ∈ declarationsOfAll (modulePath crate v.place) items := by
  unfold scanFile at hd
  cases htext : v.file.text with
  | error e =>
    rw [htext] at hd
    cases hd
  | ok text =>
    rw [htext] at hd
    cases hfile : parseFile text with
    | error e =>
      simp only [parseDeclarations, hfile] at hd
      cases hd
    | ok items =>
      simp only [parseDeclarations, hfile] at hd
      exact ⟨items, hd⟩

/-- What is declared in a source file is inside the crate if the names on the way to the file are
plain. -/
theorem isInside_of_mem_scanFile {crate : String} {v : Visit}
    (h : ∀ name ∈ sourceNames v.place, IsPlain name) {d : Declaration}
    (hd : d ∈ (scanFile crate v).declarations) : IsInside crate d.module := by
  obtain ⟨items, hd⟩ := exists_items_of_mem_scanFile hd
  exact isInside_of_mem_declarationsOfAll (isInside_modulePath crate h) hd

/-! ### Builders -/

theorem module_of_ofStruct {module : String} {s : Struct} {fields : List (Ident × Field)}
    {source : Source} (h : Source.ofStruct module s fields = .ok source) :
    source.module = module := by
  unfold Source.ofStruct at h
  simp only [bind, Except.bind] at h
  split at h
  · cases h
  · cases h
    rfl

/-- A source is in the module of its declaration. -/
theorem module_of_mem_foundIn {d : Declaration} {f : Found} (h : .ok f ∈ foundIn d) :
    f.source.module = d.module := by
  unfold foundIn at h
  split at h
  · split at h
    · obtain ⟨request, -, hfound⟩ := List.mem_map.mp h
      cases hsource : Source.ofStruct d.module _ _ with
      | error e =>
        rw [hsource] at hfound
        cases hfound
      | ok source =>
        rw [hsource] at hfound
        cases hfound
        exact module_of_ofStruct hsource
    · cases h
  · cases h

/-- A builder is in the module of its source. -/
theorem module_of_synthesize {source : Source} {request : Request} {style : SetterStyle}
    {b : Builder} (h : Builder.synthesize source request style = .ok b) :
    b.module = source.module :=
  (isFor_of_synthesize h).module

/-- A call is for the builder of an entry and has its text. -/
theorem exists_builder_of_callOf? {style : SetterStyle} {f : Found} {c : Call}
    (h : callOf? style (.ok f) = some c) :
    ∃ b, Builder.synthesize f.source f.request style = .ok b ∧ b.render = .ok c.text ∧
      c.slot = b.slot := by
  unfold callOf? at h
  cases hb : Builder.synthesize f.source f.request style with
  | error e =>
    simp only [hb] at h
    cases h
  | ok b =>
    cases ht : b.render with
    | error e =>
      simp only [hb, ht] at h
      cases h
    | ok text =>
      simp only [hb, ht] at h
      cases h
      exact ⟨b, rfl, ht, rfl⟩

/-- A builder is called after the module of its source and with an identifier. -/
theorem slot_of_callOf? {style : SetterStyle} {f : Found} {c : Call}
    (h : callOf? style (.ok f) = some c) :
    ∃ id : Ident, c.slot.name = f.source.module ++ "::" ++ id.text := by
  obtain ⟨b, hb, -, hslot⟩ := exists_builder_of_callOf? h
  refine ⟨b.name, ?_⟩
  rw [hslot, ← module_of_synthesize hb]
  rfl

/-- Every call is for a builder in the module of a declaration. -/
theorem exists_slot_of_mem_callsOf {ds : List Declaration} {style : SetterStyle} {c : Call}
    (hc : c ∈ callsOf style (discover ds)) :
    ∃ d ∈ ds, ∃ id : Ident, c.slot.name = d.module ++ "::" ++ id.text := by
  obtain ⟨entry, hentry, hcall⟩ := List.mem_filterMap.mp hc
  obtain ⟨d, hd, hfound⟩ := List.mem_flatMap.mp hentry
  cases entry with
  | error e => cases hcall
  | ok f =>
    obtain ⟨id, hname⟩ := slot_of_callOf? hcall
    exact ⟨d, hd, id, by rw [hname, module_of_mem_foundIn hfound]⟩

/-- The builders of what is declared inside a crate have full names that consist of the crate and of
plain names. -/
theorem exists_names_of_mem_callsOf {crate : String} {ds : List Declaration}
    (h : ∀ d ∈ ds, IsInside crate d.module) {style : SetterStyle} {c : Call}
    (hc : c ∈ callsOf style (discover ds)) :
    ∃ names, names ≠ [] ∧ (∀ v ∈ names, IsPlain v) ∧ c.slot.name = nameIn crate names := by
  obtain ⟨d, hd, id, hname⟩ := exists_slot_of_mem_callsOf hc
  rw [hname]
  exact (h d hd).exists_names (isPlain_text id)

/-! ### Runs -/

namespace Generator

/-- The source files that a run of a generator reads, in order. -/
def sources (g : Generator) (d : Disk) : List Visit :=
  g.resolvedScanPaths.flatMap fun p =>
    match d.node p with
    | .ok n => (n.visits p []).filter Visit.isSource
    | .error _ => []

theorem scanFiles_declarations (crate : String) (vs : List Visit) :
    (scanFiles crate vs).declarations = vs.flatMap fun v => (scanFile crate v).declarations := by
  induction vs with
  | nil => rfl
  | cons v vs ih => rw [scanFiles, Scan.append, List.flatMap_cons, ih]

theorem scanAll_declarations (d : Disk) (crate : String) {paths : List FilePath} {found : Scan}
    (h : scanAll d crate paths = (.ok (), found)) :
    found.declarations =
      (paths.flatMap fun p => match d.node p with
        | .ok n => (n.visits p []).filter Visit.isSource
        | .error _ => []).flatMap fun v => (scanFile crate v).declarations := by
  induction paths generalizing found with
  | nil =>
    cases h
    rfl
  | cons p rest ih =>
    unfold scanAll BuilderGen.scan at h
    cases hnode : d.node p with
    | error e =>
      rw [hnode] at h
      cases h
    | ok n =>
      rw [hnode] at h
      cases hrest : scanAll d crate rest with
      | mk outcome found' =>
        simp only [hrest, Prod.mk.injEq] at h
        obtain ⟨rfl, rfl⟩ := h
        rw [Scan.append, scanFiles_declarations, ih hrest, List.flatMap_cons, hnode,
          List.flatMap_append]

/-- A scan finds the declarations of the source files, in order. -/
theorem scan_declarations {g : Generator} {d : Disk} {found : Scan}
    (h : g.scan d = (.ok (), found)) :
    found.declarations = (g.sources d).flatMap fun v => (scanFile g.crateName v).declarations :=
  scanAll_declarations d g.crateName h

end Generator

end BuilderGen
