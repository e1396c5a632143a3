import BuilderGen.Proofs.ScanOrder

/-!
# Names on disks

A path is cut at its slashes, and what is made or written gets one of the segments as its name. So
no slash comes into a name, and since what has a name already is replaced, no name comes into a
folder twice. A disk whose names are proper stays like that whatever is written to it.
-/

namespace BuilderGen

namespace Node

/-- What is put under a name is found there, in place of what was there. -/
theorem mem_putEntry {name : String} {new : Node} {entries : List (String × Node)}
    {e : String × Node} (h : e ∈ putEntry name new entries) : e = (name, new) ∨ e ∈ entries := by
  fun_induction putEntry name new entries with
  | case1 => exact .inl (List.mem_singleton.mp h)
  | case2 n rest => exact (List.mem_cons.mp h).imp_right (List.mem_cons_of_mem _)
  | case3 k n rest hk ih =>
    rcases List.mem_cons.mp h with rfl | h
    · exact .inr List.mem_cons_self
    · exact (ih h).imp_right (List.mem_cons_of_mem _)

theorem nodup_putEntry {name : String} {new : Node} {entries : List (String × Node)}
    (h : (entries.map Prod.fst).Nodup) : ((putEntry name new entries).map Prod.fst).Nodup := by
  fun_induction putEntry name new entries with
  | case1 => exact List.nodup_singleton name
  | case2 n rest => exact h
  | case3 k n rest hk ih =>
    obtain ⟨hfirst, hrest⟩ := List.nodup_cons.mp h
    refine List.nodup_cons.mpr ⟨fun hmem => ?_, ih hrest⟩
    obtain ⟨e, he, hkey⟩ := List.mem_map.mp hmem
    rcases mem_putEntry he with rfl | he
    · exact hk hkey.symm
    · exact hfirst (List.mem_map.mpr ⟨e, he, hkey⟩)

variable {name : String} (hname : Disk.isName name = true ∧ '/' ∉ name.toList)
  {new : Node} (hnew : new.IsProper)

include hname hnew

theorem isProper_putEntry {entries : List (String × Node)} (h : (folder entries).IsProper) :
    (folder (putEntry name new entries)).IsProper := by
  refine isProper_folder (nodup_putEntry h.names_nodup) (fun key hkey => ?_) fun e he => ?_
  · obtain ⟨e, he, rfl⟩ := List.mem_map.mp hkey
    rcases mem_putEntry he with rfl | he
    · exact hname
    · exact (h [] entries rfl).2 _ (List.mem_map_of_mem he)
  · rcases mem_putEntry he with rfl | he
    · exact hnew
    · exact h.entry he

/-- A proper tree stays proper if something proper is put into one of its folders. -/
theorem isProper_changeFolder {n : Node} (h : n.IsProper) (place : Place) :
    (n.changeFolder (putEntry name new) place).IsProper := by
  induction place generalizing n with
  | nil =>
    cases n with
    | file f => exact isProper_file f
    | folder entries => exact isProper_putEntry hname hnew h
  | cons key rest ih =>
    cases n with
    | file f => exact isProper_file f
    | folder entries =>
      rw [changeFolder]
      cases hlookup : entries.lookup key with
      | none => exact h
      | some m =>
        have hmem := (lookup_eq_some_iff_mem h.names_nodup).mp hlookup
        have hkey := (h [] entries rfl).2 key (List.mem_map_of_mem hmem)
        exact isProper_putEntry hkey (ih (h.entry hmem)) h

end Node

namespace Disk

/-- A disk stays proper if something proper is put into one of its folders. -/
theorem isProper_put {d : Disk} (h : d.tree.IsProper) {name : String}
    (hname : isName name = true ∧ '/' ∉ name.toList) {new : Node} (hnew : new.IsProper)
    (place : Place) : (d.put place name new).tree.IsProper := by
  have hchange := Node.isProper_changeFolder hname hnew h place
  unfold put
  split
  · rename_i entries hentries
    rwa [hentries] at hchange
  · exact h

/-- The name that is split off a path has no slash. -/
theorem slash_not_mem_of_split {d : Disk} {p : FilePath} {place : Place} {name : String}
    (hsplit : d.split p = .ok (place, name)) : '/' ∉ name.toList := by
  obtain ⟨-, -, -, rfl⟩ := split_eq_ok.mp hsplit
  obtain ⟨slashes, -, hslashes⟩ := eq_withoutSlashes_append p.segments
  rcases List.eq_nil_or_concat (withoutSlashes p.segments) with hnone | ⟨front, last, hlast⟩
  · rw [hnone]
    decide
  · rw [hlast, List.concat_eq_append, List.getLastD_concat]
    refine FilePath.slash_not_mem_segments (p := p) ?_
    rw [hslashes, hlast]
    simp

variable {d : Disk} (h : d.tree.IsProper)

include h

theorem isProper_makeFolder {p : FilePath} {d' : Disk} (hmake : d.makeFolder p = .ok d') :
    d'.tree.IsProper := by
  obtain ⟨folder, name, hsplit, hname, -, -, rfl⟩ := makeFolder_eq_put hmake
  have hempty : (Node.folder []).IsProper :=
    Node.isProper_folder List.nodup_nil (by simp) (by simp)
  exact isProper_put h ⟨hname, slash_not_mem_of_split hsplit⟩ hempty folder

/-- Making the folders on a way puts only proper names on the disk, whether it succeeds or not. -/
theorem isProper_makeChain (ps : List FilePath) : (d.makeChain ps).2.tree.IsProper := by
  induction ps with
  | nil => exact h
  | cons p above ih =>
    rw [makeChain]
    split
    · exact h
    · split
      · rename_i d' hmake
        exact isProper_makeFolder h hmake
      · split
        · rename_i e d' habove
          rwa [habove] at ih
        · rename_i d' habove
          rw [habove] at ih
          split
          · rename_i d'' hmake
            exact isProper_makeFolder ih hmake
          · exact ih
      · exact h

theorem isProper_write {p : FilePath} {content : ByteArray} {d' : Disk}
    (hwrite : d.write p content = .ok d') : d'.tree.IsProper := by
  obtain ⟨folder, name, revision, hsplit, hname, -, -, -, rfl⟩ := write_eq_put hwrite
  exact isProper_put h ⟨hname, slash_not_mem_of_split hsplit⟩ (Node.isProper_file _) folder

theorem isProper_update {p : FilePath} {text : String} {d' : Disk}
    (hupdate : d.update p text = .ok d') : d'.tree.IsProper := by
  unfold update at hupdate
  split at hupdate
  · split at hupdate
    · cases hupdate
      exact h
    · exact isProper_write h hupdate
  · exact isProper_write h hupdate

/-- Writing a builder puts only proper names on the disk, whether it succeeds or not. -/
theorem isProper_sink_write (folder : FilePath) (slot : Slot) (text : String) :
    ((sink folder).write slot text d).2.tree.IsProper := by
  have hmade := isProper_makeChain h folder.ancestors
  simp only [sink, writeSlot, makeFolders]
  split
  · rename_i e made hmake
    rwa [hmake] at hmade
  · rename_i made hmake
    rw [hmake] at hmade
    split
    · rename_i d' hupdate
      exact isProper_update hmade hupdate
    · exact hmade

theorem isProper_after (folder : FilePath) (calls : List Call) :
    ((sink folder).after calls d).tree.IsProper := by
  induction calls generalizing d with
  | nil => exact h
  | cons c calls ih => exact ih (isProper_sink_write h folder c.slot c.text)

end Disk

end BuilderGen
