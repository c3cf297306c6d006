import EventLog.Proofs.Disk.Occupied

/-! Lookups of paths, part by part. What a lookup from the root passes on its way is there, so what
it comes to lasts as the disk grows, a refusal included unless it is that something is missing. -/
namespace EventLog.Disk

variable {d after : Disk}

/-- Every location on the way to this one is a directory. -/
def Stands (d : Disk) (loc : Location) : Prop :=
  ∀ front, front <+: loc → d.entry? front = some .directory

theorem Stands.root (d : Disk) : d.Stands [] := by
  intro front hfront
  obtain rfl := List.prefix_nil.mp hfront
  rfl

private theorem Stands.shift {loc : Location} (h : d.Stands loc) (name : Name) :
    d.Stands (shift loc name) := by
  intro front hfront
  refine h front ?_
  unfold Disk.shift at hfront
  split at hfront
  · exact hfront
  · exact hfront.trans (List.dropLast_prefix loc)

theorem Stands.enter {loc : Location} (h : d.Stands loc) {name : Name}
    (entry : d.entry? (loc ++ [name]) = some .directory) : d.Stands (loc ++ [name]) := by
  intro front hfront
  rcases List.prefix_concat_iff.mp hfront with rfl | hloc
  · exact entry
  · exact h front hloc

private theorem Stands.follow {loc : Location} (h : d.Stands loc) (p : Path) :
    d.Stands (if p.isAbsolute then [] else loc) := by
  split
  · exact .root d
  · exact h

/-- A lookup of some names and then others leads through a location between them. -/
theorem Leads.split {links : Nat} {loc target : Location} {names more : List Name}
    (h : d.Leads links loc (names ++ more) target) :
    ∃ links' mid, d.Leads links loc names mid ∧ d.Leads links' mid more target ∧
      (more ≠ [] → d.Stands loc → d.Stands mid) := by
  generalize hall : names ++ more = all at h
  induction h generalizing names with
  | done links loc =>
    obtain ⟨rfl, rfl⟩ := List.append_eq_nil_iff.mp hall
    exact ⟨links, loc, .done _ _, .done _ _, fun _ h => h⟩
  | @dots links loc name rest target hdots hmore ih =>
    cases names with
    | nil =>
      subst hall
      exact ⟨links, loc, .done _ _, .dots hdots hmore, fun _ h => h⟩
    | cons first names =>
      obtain ⟨rfl, hrest⟩ := List.cons.inj hall
      obtain ⟨links', mid, hfront, hback, hstands⟩ := ih hrest
      exact ⟨links', mid, .dots hdots hfront, hback, fun hne h => hstands hne (h.shift _)⟩
  | @follow links loc name rest target hname short p entry hmore ih =>
    cases names with
    | nil =>
      subst hall
      exact ⟨links + 1, loc, .done _ _, .follow hname short entry hmore, fun _ h => h⟩
    | cons first names =>
      obtain ⟨rfl, hrest⟩ := List.cons.inj hall
      -- The names of the link come before those that are left of the front.
      obtain ⟨links', mid, hfront, hback, hstands⟩ := @ih (lookupNames p ++ names)
        (by rw [← hrest]; exact List.append_assoc _ _ _)
      exact ⟨links', mid, .follow hname short entry hfront, hback,
        fun hne h => hstands hne (h.follow p)⟩
  | @file links loc name hname short id entry =>
    cases names with
    | nil =>
      subst hall
      exact ⟨links, loc, .done _ _, .file hname short entry, fun _ h => h⟩
    | cons first names =>
      obtain ⟨rfl, hrest⟩ := List.cons.inj hall
      obtain ⟨rfl, rfl⟩ := List.append_eq_nil_iff.mp hrest
      exact ⟨links, _, .file hname short entry, .done _ _, fun hne => absurd rfl hne⟩
  | @enter links loc name rest target hname short entry hmore ih =>
    cases names with
    | nil =>
      subst hall
      exact ⟨links, loc, .done _ _, .enter hname short entry hmore, fun _ h => h⟩
    | cons first names =>
      obtain ⟨rfl, hrest⟩ := List.cons.inj hall
      obtain ⟨links', mid, hfront, hback, hstands⟩ := ih hrest
      exact ⟨links', mid, .enter hname short entry hfront, hback,
        fun hne h => hstands hne (h.enter entry)⟩

/-- On its way to a directory a lookup from the root passes through directories. -/
theorem Leads.through_directory {links : Nat} {loc target : Location} {names more : List Name}
    (h : d.Leads links loc (names ++ more) target) (hloc : d.Stands loc)
    (hdir : d.entry? target = some .directory) :
    ∃ mid, d.Leads links loc names mid ∧ d.entry? mid = some .directory := by
  obtain ⟨links', mid, hfront, hback, hstands⟩ := h.split
  refine ⟨mid, hfront, ?_⟩
  cases more with
  | nil =>
    cases hback
    exact hdir
  | cons => exact hstands (List.cons_ne_nil _ _) hloc mid (List.prefix_refl mid)

/-- What a lookup from the root ends at is there. -/
theorem Leads.isSome {links : Nat} {loc target : Location} {names : List Name}
    (h : d.Leads links loc names target) (hloc : d.Stands loc) : (d.entry? target).isSome := by
  induction h with
  | done links loc => rw [hloc loc (List.prefix_refl loc)]; rfl
  | dots _ _ ih => exact ih (hloc.shift _)
  | @follow _ _ _ _ _ _ _ p _ _ ih => exact ih (hloc.follow p)
  | file _ _ entry => rw [entry]; rfl
  | enter _ _ entry _ ih => exact ih (hloc.enter entry)

/-- The name of a directory itself may be left out on the way. -/
theorem Leads.filter_self {links : Nat} {loc target : Location} (front names : List Name)
    (h : d.Leads links loc (front ++ names) target) :
    d.Leads links loc (front ++ names.filter (· ≠ Path.self)) target := by
  generalize hall : front ++ names = all at h
  induction h generalizing front names with
  | done links loc =>
    obtain ⟨rfl, rfl⟩ := List.append_eq_nil_iff.mp hall
    exact .done _ _
  | @dots links loc name rest target hdots hmore ih =>
    cases front with
    | nil =>
      subst hall
      have hrest := ih [] rest rfl
      by_cases hself : name = Path.self
      · subst hself
        simpa [shift] using hrest
      · simpa [hself] using Leads.dots hdots hrest
    | cons first front =>
      obtain ⟨rfl, hrest⟩ := List.cons.inj hall
      exact .dots hdots (ih front names hrest)
  | @follow links loc name rest target hname short p entry hmore ih =>
    cases front with
    | nil =>
      subst hall
      have hself : name ≠ Path.self := fun h => hname (.inl h)
      simpa [hself] using Leads.follow hname short entry (ih (lookupNames p) rest rfl)
    | cons first front =>
      obtain ⟨rfl, hrest⟩ := List.cons.inj hall
      have hmore := ih (lookupNames p ++ front) names
        (by rw [← hrest]; exact List.append_assoc _ _ _)
      rw [List.append_assoc] at hmore
      exact .follow hname short entry hmore
  | @file links loc name hname short id entry =>
    cases front with
    | nil =>
      subst hall
      have hself : name ≠ Path.self := fun h => hname (.inl h)
      simpa [hself] using Leads.file hname short entry
    | cons first front =>
      obtain ⟨rfl, hrest⟩ := List.cons.inj hall
      obtain ⟨rfl, rfl⟩ := List.append_eq_nil_iff.mp hrest
      exact .file hname short entry
  | @enter links loc name rest target hname short entry hmore ih =>
    cases front with
    | nil =>
      subst hall
      have hself : name ≠ Path.self := fun h => hname (.inl h)
      simpa [hself] using Leads.enter hname short entry (ih [] rest rfl)
    | cons first front =>
      obtain ⟨rfl, hrest⟩ := List.cons.inj hall
      exact .enter hname short entry (ih front names hrest)

private theorem walk_of_keeps (hk : d.Keeps after) {links : Nat} {loc : Location}
    {names : List Name} {fault : Fault} (h : d.walk {} links loc names = .error fault)
    (hf : fault ≠ .missing) : after.walk {} links loc names = .error fault := by
  -- A refusal lasts unless something was missing: the entry that it came of is still there.
  fun_induction walk d {} links loc names with
  | case3 links loc name rest hdots _ ih =>
    rw [walk, if_pos hdots, if_neg (not_beyond _ _)]
    exact ih h
  | case4 links loc name rest hname hlong =>
    rw [walk, if_neg hname, if_pos hlong]
    exact h
  | case8 loc name rest hname hshort _ p hentry =>
    rw [walk, if_neg hname, if_neg hshort, if_neg (not_beyond _ _), hk.entry hentry]
    exact h
  | case9 loc name rest hname hshort _ p hentry links ih =>
    rw [walk, if_neg hname, if_neg hshort, if_neg (not_beyond _ _), hk.entry hentry]
    exact ih h
  | case11 links loc name rest hname hshort _ id hentry hrest =>
    rw [walk, if_neg hname, if_neg hshort, if_neg (not_beyond _ _), hk.entry hentry]
    simp only [if_neg hrest]
    exact h
  | case12 links loc name rest hname hshort _ hentry ih =>
    rw [walk, if_neg hname, if_neg hshort, if_neg (not_beyond _ _), hk.entry hentry]
    exact ih h
  | case2 _ _ _ _ _ hbeyond => exact absurd hbeyond (not_beyond _ _)
  | case5 _ _ _ _ _ _ hbeyond => exact absurd hbeyond (not_beyond _ _)
  | case7 =>
    cases h
    exact absurd rfl hf
  | _ => cases h

/-- The location of a last name is the same on a disk that keeps its entries, and so is a refusal of
it unless something was missing. -/
theorem nameLocation_eq_of_keeps (hk : d.Keeps after) {p : Path} (habs : p.isAbsolute = true)
    (h : d.nameLocation p ≠ .error .missing) : after.nameLocation p = d.nameLocation p := by
  cases hplace : d.nameLocation p with
  | ok place => exact nameLocation_of_keeps hk hplace
  | error fault =>
    rw [hplace] at h
    have hf : fault ≠ .missing := fun hf => h (by rw [hf])
    have horigin : after.origin p = d.origin p := by simp [origin, hk.here]
    unfold nameLocation at hplace ⊢
    rw [horigin]
    split at hplace
    · exact hplace
    · split at hplace
      · cases hplace
      · split at hplace
        · next hwalk =>
          cases hplace
          rw [walk_of_keeps hk hwalk hf]
        · next loc hwalk =>
          have hleads := walk_eq_ok_iff.mp hwalk
          have hthere : (d.entry? loc).isSome := by
            refine hleads.isSome ?_
            rw [origin, if_pos habs]
            exact .root d
          obtain ⟨e, he⟩ := Option.isSome_iff_exists.mp hthere
          rw [walk_eq_ok_iff.mpr (hleads.of_keeps hk)]
          rw [he] at hplace
          simp only [hk.entry he]
          exact hplace

end EventLog.Disk
