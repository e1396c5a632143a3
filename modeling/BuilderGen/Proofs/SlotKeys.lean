import BuilderGen.Proofs.SlotNames

/-!
# Keys of slots

The key of a slot is a short form of a full name: the double colons become dots, and the crate is
left out when it is the crate that everything is in. Nothing else is lost: names without dots and
colons can be read back from a key, so that builders share a key only if they share all of their
names but for that crate.
-/

namespace BuilderGen

/-- The names in a full name without a leading `crate`. A `crate` that stands alone is kept. -/
def namesInCrate (names : List String) : List String :=
  if 2 ≤ names.length ∧ names.head? = some "crate" then names.tail else names

/-- Names that a full name and its key keep apart: there is one at least, each of them has something
in it, and none has a dot or a colon. -/
structure AreSegments (names : List String) : Prop where
  /-- There are some. -/
  ne_nil : names ≠ []
  /-- None is empty. -/
  nonempty : ∀ v ∈ names, v ≠ ""
  /-- No dot is in any of them. -/
  dot : ∀ v ∈ names, '.' ∉ v.toList
  /-- No colon is in any of them. -/
  colon : ∀ v ∈ names, ':' ∉ v.toList

instance (names : List String) : Decidable (AreSegments names) :=
  decidable_of_iff
    (names ≠ [] ∧ (∀ v ∈ names, v ≠ "") ∧ (∀ v ∈ names, '.' ∉ v.toList) ∧
      ∀ v ∈ names, ':' ∉ v.toList)
    ⟨fun ⟨hne, hnonempty, hdot, hcolon⟩ => ⟨hne, hnonempty, hdot, hcolon⟩,
      fun h => ⟨h.ne_nil, h.nonempty, h.dot, h.colon⟩⟩

namespace AreSegments

variable {names : List String} (h : AreSegments names)

include h

/-- The segments of a full name are the names that it is made of. -/
theorem segments_intercalate : (Slot.mk ("::".intercalate names)).segments = names := by
  have hcut : splitPath ("::".intercalate names).toList = names.map String.toList := by
    rw [String.toList_intercalate]
    refine splitPath_intercalate (by simpa using h.ne_nil) fun w hw => ?_
    obtain ⟨v, hv, rfl⟩ := List.mem_map.mp hw
    exact h.colon v hv
  have hkept : (names.map String.toList).filter (!·.isEmpty) = names.map String.toList := by
    refine List.filter_eq_self.mpr fun w hw => ?_
    obtain ⟨v, hv, rfl⟩ := List.mem_map.mp hw
    simpa using h.nonempty v hv
  rw [Slot.segments, hcut, hkept, map_ofList_map_toList]

/-- The key is made of the names without a leading `crate`. -/
theorem keySegments_intercalate :
    (Slot.mk ("::".intercalate names)).keySegments = namesInCrate names := by
  rw [Slot.keySegments, h.segments_intercalate, namesInCrate]
  split
  · simp
  · rename_i hother
    rw [if_neg]
    rintro ⟨hlength, hhead⟩
    obtain ⟨rest, rfl⟩ := List.head?_eq_some_iff.mp hhead
    obtain ⟨next, rest, rfl⟩ := List.exists_cons_of_length_pos (Nat.lt_of_succ_lt_succ hlength)
    exact hother next rest rfl

/-- Without a leading `crate` they are still such names. -/
theorem inCrate : AreSegments (namesInCrate names) := by
  unfold namesInCrate
  split
  · rename_i hcrate
    obtain ⟨rest, rfl⟩ := List.head?_eq_some_iff.mp hcrate.2
    have hrest : rest ≠ [] := List.ne_nil_of_length_pos (Nat.lt_of_succ_lt_succ hcrate.1)
    exact
      { ne_nil := hrest
        nonempty := fun v hv => h.nonempty v (List.mem_cons_of_mem _ hv)
        dot := fun v hv => h.dot v (List.mem_cons_of_mem _ hv)
        colon := fun v hv => h.colon v (List.mem_cons_of_mem _ hv) }
  · exact h

/-- The dots of the key part the names again. -/
theorem splitOn_key :
    (Slot.mk ("::".intercalate names)).key.toList.splitOn '.' =
      (namesInCrate names).map String.toList := by
  rw [Slot.key, h.keySegments_intercalate]
  exact splitOn_intercalate_dot h.inCrate.ne_nil h.inCrate.dot

end AreSegments

/-- A key tells the names in a full name, but for a leading `crate`: cut at its dots it gives them
back, and so two full names have the same key exactly when they have the same names behind the
`crate` that they may start with. -/
theorem key_tells_names {us vs : List String} (hus : AreSegments us) (hvs : AreSegments vs) :
    ((Slot.mk ("::".intercalate us)).key = (Slot.mk ("::".intercalate vs)).key ↔
      namesInCrate us = namesInCrate vs) ∧
    ((Slot.mk ("::".intercalate us)).key.toList.splitOn '.').map String.ofList =
      namesInCrate us := by
  constructor
  · constructor
    · intro hkey
      have hnames : (namesInCrate us).map String.toList = (namesInCrate vs).map String.toList := by
        rw [← hus.splitOn_key, hkey, hvs.splitOn_key]
      exact List.map_inj_right (fun _ _ => String.toList_inj.mp) |>.mp hnames
    · intro hnames
      rw [Slot.key, Slot.key, hus.keySegments_intercalate, hvs.keySegments_intercalate, hnames]
  · rw [hus.splitOn_key, map_ofList_map_toList]

/-- A builder below the crate shares its key with one of a crate that is called like its module, and
the key cut at its dots tells the names that the two have in common. -/
theorem key_of_builder_in_crate :
    AreSegments ["crate", "custom", "MyUserBuilder"] ∧ AreSegments ["custom", "MyUserBuilder"] ∧
      (Slot.mk "crate::custom::MyUserBuilder").key = (Slot.mk "custom::MyUserBuilder").key ∧
      ((Slot.mk "crate::custom::MyUserBuilder").key.toList.splitOn '.').map String.ofList =
        ["custom", "MyUserBuilder"] :=
  have hcrate : AreSegments ["crate", "custom", "MyUserBuilder"] := by decide
  have hplain : AreSegments ["custom", "MyUserBuilder"] := by decide
  have htells := key_tells_names hcrate hplain
  ⟨hcrate, hplain, htells.1.mpr (by decide), htells.2⟩

end BuilderGen
