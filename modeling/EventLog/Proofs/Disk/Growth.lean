import EventLog.Disk.Files
import Mathlib.Tactic.SplitIfs

/-! Disks that grow. Making directories and files puts entries where none were, so every path that
led to something still leads to it. -/
namespace EventLog.Disk

structure SameSettings (d after : Disk) : Prop where
  here : after.here = d.here
  refusesFiles : after.refusesFiles = d.refusesFiles
  refusesDirectories : after.refusesDirectories = d.refusesDirectories
  refusesBytes : after.refusesBytes = d.refusesBytes

/-- `after` has every entry of `d` and differs in no setting. -/
structure Keeps (d after : Disk) : Prop extends SameSettings d after where
  entry : ∀ {loc e}, d.entry? loc = some e → after.entry? loc = some e

/-- `after` is `d` for everything that can be asked about it: the settings, the files, and what
stands at each location. -/
structure Unchanged (d after : Disk) : Prop extends SameSettings d after where
  files : after.files = d.files
  entry : ∀ loc, after.entry? loc = d.entry? loc

/-- `after` has every entry of `d`, whatever else it is like. -/
structure Retains (d after : Disk) : Prop where
  here : after.here = d.here
  entry : ∀ {loc e}, d.entry? loc = some e → after.entry? loc = some e

theorem Keeps.retains {d after : Disk} (h : d.Keeps after) : d.Retains after := ⟨h.here, h.entry⟩

theorem SameSettings.refl (d : Disk) : d.SameSettings d := ⟨rfl, rfl, rfl, rfl⟩

theorem SameSettings.symm {d d' : Disk} (h : d.SameSettings d') : d'.SameSettings d :=
  ⟨h.here.symm, h.refusesFiles.symm, h.refusesDirectories.symm, h.refusesBytes.symm⟩

theorem SameSettings.trans {d d' d'' : Disk} (h : d.SameSettings d') (h' : d'.SameSettings d'') :
    d.SameSettings d'' :=
  ⟨h'.here.trans h.here, h'.refusesFiles.trans h.refusesFiles,
    h'.refusesDirectories.trans h.refusesDirectories, h'.refusesBytes.trans h.refusesBytes⟩

theorem Keeps.refl (d : Disk) : d.Keeps d := ⟨.refl d, id⟩

theorem Keeps.trans {d d' d'' : Disk} (h : d.Keeps d') (h' : d'.Keeps d'') : d.Keeps d'' :=
  ⟨h.toSameSettings.trans h'.toSameSettings, fun he => h'.entry (h.entry he)⟩

theorem Unchanged.refl (d : Disk) : d.Unchanged d := ⟨.refl d, rfl, fun _ => rfl⟩

theorem Unchanged.keeps {d after : Disk} (h : d.Unchanged after) : d.Keeps after :=
  ⟨h.toSameSettings, fun {loc _} he => (h.entry loc).trans he⟩

/-- What is put at a location is found there, and nothing else changes. -/
theorem entry?_place (d : Disk) {loc : Location} (h : loc ≠ []) (e : Entry) (other : Location) :
    entry? (d.place loc e) other = if other = loc then some e else d.entry? other := by
  cases other with
  | nil => simp [Disk.entry?, h.symm]
  | cons name rest => exact Entries.get?_insert e d.entries loc (name :: rest) h

private theorem Keeps.place {d : Disk} {loc : Location} (h : loc ≠ []) (hfree : d.entry? loc = none)
    (e : Entry) : d.Keeps (d.place loc e) := by
  refine ⟨⟨rfl, rfl, rfl, rfl⟩, fun {other e'} he => ?_⟩
  rw [entry?_place d h, if_neg, he]
  rintro rfl
  rw [hfree] at he
  cases he

/-- What a name does to a location if it stands for the directory itself or the one above. -/
def shift (loc : Location) (name : Name) : Location :=
  if name = Path.self then loc else loc.dropLast

/-- The lookups that succeed, in which every name has its entry. -/
inductive Leads (d : Disk) : (links : Nat) → Location → List Name → Location → Prop
  | done (links loc) : Leads d links loc [] loc
  | dots {links loc name rest target} (h : name = Path.self ∨ name = Path.above)
      (more : Leads d links (shift loc name) rest target) : Leads d links loc (name :: rest) target
  | follow {links loc name rest target} (h : ¬(name = Path.self ∨ name = Path.above))
      (short : ¬name.length > nameLimit) {p : Path}
      (entry : d.entry? (loc ++ [name]) = some (.link p))
      (more : Leads d links (if p.isAbsolute then [] else loc) (lookupNames p ++ rest) target) :
      Leads d (links + 1) loc (name :: rest) target
  | file {links loc name} (h : ¬(name = Path.self ∨ name = Path.above))
      (short : ¬name.length > nameLimit) {id : Nat}
      (entry : d.entry? (loc ++ [name]) = some (.file id)) :
      Leads d links loc [name] (loc ++ [name])
  | enter {links loc name rest target} (h : ¬(name = Path.self ∨ name = Path.above))
      (short : ¬name.length > nameLimit)
      (entry : d.entry? (loc ++ [name]) = some .directory)
      (more : Leads d links (loc ++ [name]) rest target) : Leads d links loc (name :: rest) target

theorem not_beyond (loc : Location) (more : Nat) :
    ¬({} : Lookup).isBeyond loc more = true := Bool.false_ne_true

private theorem walk_of_leads {d : Disk} {links : Nat} {loc target : Location} {names : List Name}
    (h : d.Leads links loc names target) : d.walk {} links loc names = .ok target := by
  induction h with
  | done => rw [walk]
  | dots h _ ih => rw [walk, if_pos h, if_neg (not_beyond _ _)]; exact ih
  | follow h short entry _ ih =>
    rw [walk, if_neg h, if_neg short, if_neg (not_beyond _ _), entry]
    exact ih
  | file h short entry =>
    rw [walk, if_neg h, if_neg short, if_neg (not_beyond _ _), entry]
    rfl
  | enter h short entry _ ih =>
    rw [walk, if_neg h, if_neg short, if_neg (not_beyond _ _), entry]
    exact ih

/-- A limit on the way only refuses more. -/
theorem leads_of_walk {d : Disk} {how : Lookup} (hnew : how.mayBeNew = false) {links : Nat}
    {loc target : Location} {names : List Name} (h : d.walk how links loc names = .ok target) :
    d.Leads links loc names target := by
  fun_induction walk d how links loc names with
  | case1 links loc => cases h; exact .done _ _
  | case3 links loc name rest hdots _ ih => exact .dots hdots (ih h)
  | case9 loc name rest hname hshort _ p hentry links ih =>
    exact .follow hname (by simpa using hshort) hentry (ih h)
  | case10 links loc name hname hshort _ id hentry => cases h; exact .file hname hshort hentry
  | case12 links loc name rest hname hshort _ hentry ih => exact .enter hname hshort hentry (ih h)
  | case6 links loc name rest _ _ _ _ hmay => exact absurd (hnew.symm.trans hmay.1) (by decide)
  | _ => cases h

/-- A lookup succeeds just if every name on the way has its entry. -/
theorem walk_eq_ok_iff {d : Disk} {links : Nat} {loc target : Location} {names : List Name} :
    d.walk {} links loc names = .ok target ↔ d.Leads links loc names target :=
  ⟨leads_of_walk rfl, walk_of_leads⟩

/-- Names lead to one location at most. -/
theorem Leads.unique {d : Disk} {links : Nat} {loc target other : Location} {names : List Name}
    (h : d.Leads links loc names target) (h' : d.Leads links loc names other) : target = other :=
  Except.ok.inj ((walk_eq_ok_iff.mpr h).symm.trans (walk_eq_ok_iff.mpr h'))

theorem Leads.of_retains {d after : Disk} (hk : d.Retains after) {links : Nat}
    {loc target : Location} {names : List Name} (h : d.Leads links loc names target) :
    after.Leads links loc names target := by
  induction h with
  | done => exact .done _ _
  | dots h _ ih => exact .dots h ih
  | follow h short entry _ ih => exact .follow h short (hk.entry entry) ih
  | file h short entry => exact .file h short (hk.entry entry)
  | enter h short entry _ ih => exact .enter h short (hk.entry entry) ih

theorem Leads.of_keeps {d after : Disk} (hk : d.Keeps after) {links : Nat} {loc target : Location}
    {names : List Name} (h : d.Leads links loc names target) :
    after.Leads links loc names target := h.of_retains hk.retains

/-- Names that lead to a directory may be followed by names that lead on from there. -/
theorem Leads.append {d : Disk} {links : Nat} {loc mid target : Location} {names more : List Name}
    (h : d.Leads links loc names mid) (hdir : d.entry? mid = some .directory)
    (hmore : ∀ links, d.Leads links mid more target) :
    d.Leads links loc (names ++ more) target := by
  induction h with
  | done => exact hmore _
  | dots h _ ih => exact .dots h (ih hdir hmore)
  | follow h short entry _ ih =>
    have hrest := ih hdir hmore
    rw [List.append_assoc] at hrest
    exact .follow h short entry hrest
  | file _ _ entry =>
    rw [entry] at hdir
    cases hdir
  | enter h short entry _ ih => exact .enter h short entry (ih hdir hmore)

/-- A path that leads somewhere leads there on a disk that keeps its entries. -/
theorem resolve_of_keeps {d after : Disk} (hk : d.Keeps after) {p : Path} {loc : Location}
    (h : d.resolve p = .ok loc) : after.resolve p = .ok loc := by
  have horigin : after.origin p = d.origin p := by simp [origin, hk.here]
  unfold resolve locate at h ⊢
  rw [horigin]
  split at h
  · cases h
  · exact walk_eq_ok_iff.mpr ((walk_eq_ok_iff.mp h).of_keeps hk)

/-- A path that names something names the same on a disk that keeps its entries. -/
theorem find_of_keeps {d after : Disk} (hk : d.Keeps after) {p : Path} {e : Entry}
    (h : d.find p = .ok e) : after.find p = .ok e := by
  unfold find at h ⊢
  split at h
  · cases h
  · next hresolve =>
    rw [resolve_of_keeps hk hresolve]
    split at h
    · next he =>
      simp only [hk.entry he]
      exact h
    · cases h

/-- The location of a new name: it lies in a directory that the names before it lead to. -/
theorem nameLocation_eq_some {d : Disk} {p : Path} {loc : Location}
    (h : d.nameLocation p = .ok (some loc)) :
    ∃ name parent, refusedPath? p = none ∧ p.names.getLast? = some name ∧ loc = parent ++ [name] ∧
      d.Leads linkLimit (d.origin p) p.names.dropLast parent ∧
      d.entry? parent = some .directory ∧ ¬(name = Path.self ∨ name = Path.above) ∧
      ¬name.length > nameLimit := by
  unfold nameLocation at h
  split at h
  · cases h
  · next hr =>
    split at h
    · cases h
    · next name hname =>
      split at h
      · cases h
      · next parent hw =>
        split_ifs at h with hdir hdots hlong <;> cases h
        exact ⟨name, parent, hr, hname, rfl, walk_eq_ok_iff.mp hw, Decidable.not_not.mp hdir,
          hdots, hlong⟩

theorem freeLocation_eq_ok {d : Disk} {p : Path} {loc : Location} (h : d.freeLocation p = .ok loc) :
    d.nameLocation p = .ok (some loc) ∧ d.entry? loc = none ∧ loc ≠ [] := by
  unfold freeLocation at h
  split at h
  · cases h
  · cases h
  · next loc' hn =>
    split_ifs at h with hfree
    cases h
    obtain ⟨name, parent, -, -, rfl, -⟩ := nameLocation_eq_some hn
    exact ⟨hn, Option.not_isSome_iff_eq_none.mp hfree, by simp⟩

/-- `after` is `d` with some directories more, where nothing stood. -/
structure Added (d after : Disk) : Prop where
  keeps : d.Keeps after
  files : after.files = d.files
  directories : ∀ {loc e}, d.entry? loc = none → after.entry? loc = some e → e = .directory
  new : after = d ∨ ∃ loc, d.entry? loc = none ∧ after.entry? loc = some .directory

theorem Added.refl (d : Disk) : d.Added d := by
  refine ⟨.refl d, rfl, fun hnone he => ?_, .inl rfl⟩
  rw [hnone] at he
  cases he

theorem Added.trans {d d' d'' : Disk} (h : d.Added d') (h' : d'.Added d'') : d.Added d'' := by
  refine ⟨h.keeps.trans h'.keeps, h'.files.trans h.files, fun {loc e} hnone he => ?_, ?_⟩
  · cases hmiddle : d'.entry? loc with
    | none => exact h'.directories hmiddle he
    | some e' =>
      obtain rfl := h.directories hnone hmiddle
      exact Option.some.inj (he.symm.trans (h'.keeps.entry hmiddle))
  · rcases h.new with rfl | ⟨loc, hnone, he⟩
    · exact h'.new
    · exact .inr ⟨loc, hnone, h'.keeps.entry he⟩

/-- A file stands where it stood, and nowhere else. -/
theorem Added.entry?_eq_file_iff {d after : Disk} (h : d.Added after) {loc : Location} {id : Nat} :
    after.entry? loc = some (.file id) ↔ d.entry? loc = some (.file id) := by
  refine ⟨fun he => ?_, fun he => h.keeps.entry he⟩
  cases hbefore : d.entry? loc with
  | none => cases h.directories hbefore he
  | some e => exact (h.keeps.entry hbefore).symm.trans he

theorem makeDirectory_eq_ok {d made : Disk} {p : Path} (h : d.makeDirectory p = .ok made) :
    ∃ loc, d.freeLocation p = .ok loc ∧ d.refusesDirectories = none ∧
      made = d.place loc .directory := by
  unfold makeDirectory at h
  split at h
  · cases h
  · next loc hfree =>
    split at h <;> cases h
    next htakes => exact ⟨loc, hfree, htakes, rfl⟩

private theorem added_of_makeDirectory {d after : Disk} {p : Path}
    (h : d.makeDirectory p = .ok after) : d.Added after := by
  obtain ⟨loc, hf, -, rfl⟩ := makeDirectory_eq_ok h
  obtain ⟨-, hfree, hne⟩ := freeLocation_eq_ok hf
  have hplaced := entry?_place d hne .directory
  refine ⟨.place hne hfree _, rfl, fun {other e} hnone he => ?_, .inr ⟨loc, hfree, ?_⟩⟩
  · rw [hplaced] at he
    split at he
    · exact (Option.some.inj he).symm
    · rw [hnone] at he
      cases he
  · rw [hplaced, if_pos rfl]

theorem added_of_makeThrough (start : List UInt8) (names : List Name) (size : Nat) (p : Path)
    (d : Disk) : d.Added (makeThrough start names size p d).1 := by
  fun_induction makeThrough start names size p d with
  | case1 => exact .refl _
  | case2 size p d _ made hmade => exact added_of_makeDirectory hmade
  | case3 p d _ size _ below fault hbelow ih => rw [hbelow] at ih; exact ih
  | case4 p d _ size _ below hbelow made hmade ih =>
    rw [hbelow] at ih
    exact ih.trans (added_of_makeDirectory hmade)
  | case5 p d _ size _ below hbelow fault _ ih => rw [hbelow] at ih; exact ih
  | case6 => exact .refl _

/-- Making directories does nothing else, whether or not it succeeds. -/
theorem added_makeDirectories (d : Disk) (p : Path) : d.Added (d.makeDirectories p).1 :=
  added_of_makeThrough _ _ _ _ _

/-- Making directories changes no file and removes no entry, whether or not it succeeds. -/
theorem keeps_makeDirectories (d : Disk) (p : Path) :
    d.Keeps (d.makeDirectories p).1 ∧ (d.makeDirectories p).1.files = d.files :=
  ⟨(added_makeDirectories d p).keeps, (added_makeDirectories d p).files⟩

/-- A new file is placed at a free location, under the next number. -/
theorem createFile_eq_place {d after : Disk} {p : Path} {id : Nat}
    (h : d.createFile p = .ok (id, after)) :
    ∃ loc, d.freeLocation p = .ok loc ∧ d.refusesFiles = none ∧ id = d.files.length ∧
      after = { d.place loc (.file id) with files := d.files ++ [{}] } := by
  unfold createFile at h
  split at h
  · cases h
  · next loc hfree =>
    split at h <;> cases h
    next htakes => exact ⟨loc, hfree, htakes, rfl, rfl⟩

/-- A new file has the next number, stands where nothing stood, and is found by its path. -/
theorem createFile_eq_ok {d after : Disk} {p : Path} {id : Nat}
    (h : d.createFile p = .ok (id, after)) :
    id = d.files.length ∧ after.files = d.files ++ [({} : FileBody)] ∧ d.Keeps after ∧
      ∃ loc, d.nameLocation p = .ok (some loc) ∧ d.entry? loc = none ∧
        after.entry? loc = some (.file id) := by
  obtain ⟨loc, hf, -, rfl, rfl⟩ := createFile_eq_place h
  obtain ⟨hn, hfree, hne⟩ := freeLocation_eq_ok hf
  have hk := Keeps.place hne hfree (.file d.files.length)
  refine ⟨rfl, rfl, ⟨⟨rfl, rfl, rfl, rfl⟩, hk.entry⟩, loc, hn, hfree, ?_⟩
  exact (entry?_place d hne (.file d.files.length) loc).trans (if_pos rfl)

theorem find_of_createFile {d after : Disk} {p : Path} {id : Nat}
    (h : d.createFile p = .ok (id, after)) (hend : p.endsInSlash = false) :
    after.find p = .ok (.file id) := by
  obtain ⟨-, -, hk, loc, hn, -, hentry⟩ := createFile_eq_ok h
  obtain ⟨name, parent, hr, hlast, rfl, hleads, hdir, hdots, hlong⟩ := nameLocation_eq_some hn
  have hnames : p.names = p.names.dropLast ++ [name] := by
    rw [List.getLast?_eq_some_iff] at hlast
    obtain ⟨front, hfront⟩ := hlast
    simp [hfront]
  have hall := (hleads.of_keeps hk).append (hk.entry hdir) fun _ => .file hdots hlong hentry
  have horigin : after.origin p = d.origin p := by simp [origin, hk.here]
  rw [← hnames, ← horigin] at hall
  simp [find, resolve, locate, hr, lookupNames, hend, walk_eq_ok_iff.mpr hall, hentry]

end EventLog.Disk
