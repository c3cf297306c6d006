import EventLog.Proofs.Disk.Occupied
import EventLog.Proofs.Disk.Probe
import Mathlib.Data.List.Dedup
import Mathlib.Data.List.Perm.Subperm

/-! What stands in a folder: the names that have an entry there, and how many they are. Paths that
only differ in their last names lead to one folder, and there they stay as a disk grows. -/
namespace EventLog.Disk

def listing (d : Disk) (folder : Location) : List Name :=
  ((d.entries.toList.map (·.1)).filterMap (·.getLast?)).dedup.filter fun name =>
    (d.entry? (folder ++ [name])).isSome

variable {d d' after : Disk} {folder : Location} {name : Name}

private theorem mem_listing : name ∈ d.listing folder ↔ (d.entry? (folder ++ [name])).isSome := by
  rw [listing, List.mem_filter, List.mem_dedup, and_iff_right_iff_imp]
  intro h
  obtain ⟨e, he⟩ := Option.isSome_iff_exists.mp h
  have hmem := mem_of_entry? (by simp) he
  exact List.mem_filterMap.mpr ⟨_, hmem, by simp⟩

/-- There are as many names in a folder as have an entry there. -/
theorem length_le_listing {names : List Name} (hnodup : names.Nodup)
    (h : ∀ name ∈ names, (d.entry? (folder ++ [name])).isSome) :
    names.length ≤ (d.listing folder).length :=
  (hnodup.subperm fun name hname => mem_listing.mpr (h name hname)).length_le

/-- No folder has more names than the disk has entries. -/
theorem length_listing_le_size (d : Disk) (folder : Location) :
    (d.listing folder).length ≤ d.entries.size := by
  calc (d.listing folder).length
      ≤ ((d.entries.toList.map (·.1)).filterMap (·.getLast?)).dedup.length :=
        List.length_filter_le _ _
    _ ≤ ((d.entries.toList.map (·.1)).filterMap (·.getLast?)).length :=
        (List.dedup_sublist _).length_le
    _ ≤ (d.entries.toList.map (·.1)).length := List.length_filterMap_le _ _
    _ = d.entries.size := by rw [List.length_map, Entries.length_toList]

theorem Retains.trans (h : d.Retains d') (h' : d'.Retains after) : d.Retains after :=
  ⟨h'.here.trans h.here, fun he => h'.entry (h.entry he)⟩

theorem Retains.isSome (h : d.Retains after) {loc : Location} (he : (d.entry? loc).isSome) :
    (after.entry? loc).isSome := by
  obtain ⟨e, he⟩ := Option.isSome_iff_exists.mp he
  rw [h.entry he]
  rfl

theorem Retains.length_listing_le (h : d.Retains after) (folder : Location) :
    (d.listing folder).length ≤ (after.listing folder).length :=
  length_le_listing ((List.nodup_dedup _).filter _) fun _ hname => h.isSome (mem_listing.mp hname)

/-- The folder in which the last name of a path has its entry, or would have one. -/
def folder? (d : Disk) (p : Path) : Option Location :=
  (d.nameLocation p).toOption.join.map List.dropLast

private theorem nameLocation_of_folder? {p : Path} (h : d.folder? p = some folder) :
    ∃ name, d.nameLocation p = .ok (some (folder ++ [name])) := by
  cases hplace : d.nameLocation p with
  | error fault => simp [folder?, hplace, Except.toOption] at h
  | ok place =>
    cases place with
    | none => simp [folder?, hplace, Except.toOption] at h
    | some loc =>
      obtain ⟨name, parent, -, -, rfl, -⟩ := nameLocation_eq_some hplace
      have hparent : parent = folder := by simpa [folder?, hplace, Except.toOption] using h
      exact ⟨name, by rw [hparent]⟩

theorem folder?_of_nameLocation {p : Path} (h : d.nameLocation p = .ok (some (folder ++ [name]))) :
    d.folder? p = some folder := by simp [folder?, h, Except.toOption]

theorem folder?_of_retains (hk : d.Retains after) {p : Path} (h : d.folder? p = some folder) :
    after.folder? p = some folder := by
  obtain ⟨name, hplace⟩ := nameLocation_of_folder? h
  exact folder?_of_nameLocation (nameLocation_of_retains hk hplace)

/-- Paths with the same names but for the last lead to one folder. -/
theorem folder?_unique {p q : Path} {other : Location} (hp : d.folder? p = some folder)
    (hq : d.folder? q = some other) (hstart : p.isAbsolute = q.isAbsolute)
    (hnames : p.names.dropLast = q.names.dropLast) : folder = other := by
  obtain ⟨name, hplace⟩ := nameLocation_of_folder? hp
  obtain ⟨name', hplace'⟩ := nameLocation_of_folder? hq
  obtain ⟨last, parent, -, -, hloc, hleads, -⟩ := nameLocation_eq_some hplace
  obtain ⟨last', parent', -, -, hloc', hleads', -⟩ := nameLocation_eq_some hplace'
  obtain ⟨rfl, -⟩ := List.append_inj' hloc rfl
  obtain ⟨rfl, -⟩ := List.append_inj' hloc' rfl
  rw [origin, hstart, hnames] at hleads
  exact hleads.unique hleads'

/-- Something that stands at a path under a name of its own is in the folder of that. -/
theorem Occupied.folder? {p : Path} (h : d.Occupied p) (hlast : p.names.getLast? = some name)
    (hname : ¬(name = Path.self ∨ name = Path.above)) :
    ∃ folder, d.folder? p = some folder ∧ (d.entry? (folder ++ [name])).isSome := by
  rcases h with hnone | ⟨loc, e, hplace, he⟩
  · exact absurd hnone (nameLocation_ne_none hlast hname)
  · obtain ⟨last, folder, -, hlast', rfl, -⟩ := nameLocation_eq_some hplace
    obtain rfl : last = name := Option.some.inj (hlast'.symm.trans hlast)
    exact ⟨folder, folder?_of_nameLocation hplace, by rw [he]; rfl⟩

end EventLog.Disk
