import EventLog.Proofs.Disk.Lookups
import EventLog.Proofs.Disk.Overlay
import EventLog.Proofs.Disk.Probe

/-! Directories that are made on a disk and on the same disk with some directories more. What can be
made on the one is there or can be made on the other, and the disks differ in no other way after it.
-/
namespace EventLog.Disk

variable {d after : Disk} {p : Path}

/-- A path leads to something just if the lookup of its names ends there. -/
theorem find_eq_ok_iff {e : Entry} :
    d.find p = .ok e ↔ refusedPath? p = none ∧ ∃ target,
      d.Leads linkLimit (d.origin p) (lookupNames p) target ∧ d.entry? target = some e := by
  unfold find resolve locate
  cases refusedPath? p with
  | some fault => simp
  | none =>
    refine ⟨fun h => ⟨rfl, ?_⟩, fun ⟨_, target, hleads, he⟩ => ?_⟩
    · simp only at h
      split at h
      · cases h
      · next target hwalk =>
        split at h
        · next he =>
          cases h
          exact ⟨target, walk_eq_ok_iff.mp hwalk, he⟩
        · cases h
    · simp only [walk_eq_ok_iff.mpr hleads, he]

private theorem isDirectory_iff_find : d.isDirectory p = true ↔ d.find p = .ok .directory := by
  unfold isDirectory find
  cases d.resolve p with
  | error fault => simp
  | ok loc =>
    cases he : d.entry? loc with
    | none => simp [he]
    | some e => cases e <;> simp [he]

private theorem entry?_of_leads {links : Nat} {loc target : Location} {name : Name}
    {rest : List Name} (h : d.Leads links loc (name :: rest) target)
    (hname : ¬(name = Path.self ∨ name = Path.above)) :
    ¬name.length > nameLimit ∧ (d.entry? (loc ++ [name])).isSome := by
  cases h with
  | dots hdots => exact absurd hdots hname
  | follow _ short entry | file _ short entry | enter _ short entry =>
    exact ⟨short, by rw [entry]; rfl⟩

private theorem names_prefix_lookupNames (p : Path) : p.names <+: lookupNames p := by
  unfold lookupNames
  split
  · exact List.prefix_append _ _
  · exact List.prefix_refl _

private theorem leads_of_find {front : List Name} {name : Name} {e : Entry}
    (h : d.find p = .ok e) (hnames : p.names = front ++ [name]) :
    ∃ mid, d.Leads linkLimit (d.origin p) front mid ∧
      (d.Stands (d.origin p) → d.Stands mid) ∧
      (¬(name = Path.self ∨ name = Path.above) →
        ¬name.length > nameLimit ∧ (d.entry? (mid ++ [name])).isSome) := by
  obtain ⟨-, target, hleads, -⟩ := find_eq_ok_iff.mp h
  obtain ⟨more, hmore⟩ := names_prefix_lookupNames p
  rw [← hmore, hnames, List.append_assoc, List.singleton_append] at hleads
  obtain ⟨links, mid, hfront, hback, hstands⟩ := hleads.split
  exact ⟨mid, hfront, hstands (List.cons_ne_nil _ _), entry?_of_leads hback⟩

/-- A path that leads to something is not free, and nothing is missing on its way. -/
theorem freeLocation_of_find {e : Entry} (h : d.find p = .ok e) :
    ∃ fault, d.freeLocation p = .error fault ∧ fault ≠ .missing := by
  obtain ⟨hrefused, -⟩ := find_eq_ok_iff.mp h
  unfold freeLocation nameLocation
  rw [hrefused]
  cases hlast : p.names.getLast? with
  | none => exact ⟨.taken, rfl, by decide⟩
  | some name =>
    obtain ⟨front, hfront⟩ := List.getLast?_eq_some_iff.mp hlast
    obtain ⟨mid, hleads, -, hthere⟩ := leads_of_find h hfront
    rw [hfront, List.dropLast_concat, walk_eq_ok_iff.mpr hleads]
    simp only
    split_ifs with hdir hdots hlong
    · exact ⟨.notDirectory, rfl, by decide⟩
    · exact ⟨.taken, rfl, by decide⟩
    · exact ⟨.nameTooLong, rfl, by decide⟩
    · simp only [(hthere hdots).2, if_true]
      exact ⟨.taken, rfl, by decide⟩

/-- The last name of a path from the root that leads to something has its location. -/
theorem nameLocation_of_find (habs : p.isAbsolute = true) {e : Entry} (h : d.find p = .ok e) :
    ∃ place, d.nameLocation p = .ok place := by
  obtain ⟨hrefused, -⟩ := find_eq_ok_iff.mp h
  unfold nameLocation
  rw [hrefused]
  cases hlast : p.names.getLast? with
  | none => exact ⟨none, rfl⟩
  | some name =>
    obtain ⟨front, hfront⟩ := List.getLast?_eq_some_iff.mp hlast
    obtain ⟨mid, hleads, hstands, hthere⟩ := leads_of_find h hfront
    have horigin : d.Stands (d.origin p) := by
      rw [origin, if_pos habs]
      exact .root d
    have hdir := hstands horigin mid (List.prefix_refl mid)
    rw [hfront, List.dropLast_concat, walk_eq_ok_iff.mpr hleads]
    simp only [hdir, ne_eq, not_true_eq_false, if_false]
    split_ifs with hdots hlong
    · exact ⟨none, rfl⟩
    · exact absurd hlong (hthere hdots).1
    · exact ⟨_, rfl⟩

/-- A directory that stands at the place of a path is what the path leads to. -/
theorem find_of_nameLocation {loc : Location} (h : d.nameLocation p = .ok (some loc))
    (he : d.entry? loc = some .directory) : d.find p = .ok .directory := by
  obtain ⟨name, parent, hrefused, hlast, rfl, hleads, hdir, hdots, hlong⟩ := nameLocation_eq_some h
  refine find_eq_ok_iff.mpr ⟨hrefused, parent ++ [name], ?_, he⟩
  obtain ⟨front, hfront⟩ := List.getLast?_eq_some_iff.mp hlast
  rw [hfront, List.dropLast_concat] at hleads
  unfold lookupNames
  split
  · rw [hfront, List.append_assoc]
    refine hleads.append hdir fun links => .enter hdots hlong he (.dots (.inl rfl) ?_)
    exact .done _ _
  · rw [hfront]
    exact hleads.append hdir fun links => .enter hdots hlong he (.done _ _)

private theorem makeDirectory_eq_missing_iff (htakes : d.refusesDirectories = none) :
    d.makeDirectory p = .error .missing ↔ d.nameLocation p = .error .missing := by
  unfold makeDirectory freeLocation
  cases d.nameLocation p with
  | error fault => simp
  | ok place =>
    cases place with
    | none => simp
    | some loc => cases he : d.entry? loc <;> simp [he, htakes]

def ensure (d : Disk) (p : Path) : Disk × Except Fault Unit :=
  match d.makeDirectory p with
  | .ok made => (made, .ok ())
  | .error fault => (d, if d.isDirectory p then .ok () else .error fault)

private theorem ensure_of_find (h : d.find p = .ok .directory) : d.ensure p = (d, .ok ()) := by
  obtain ⟨fault, hfree, -⟩ := freeLocation_of_find h
  rw [ensure, makeDirectory, hfree]
  simp only [if_pos (isDirectory_iff_find.mpr h)]

private theorem ensure_cases {made : Disk} (h : d.ensure p = (made, .ok ())) :
    (∃ loc, d.freeLocation p = .ok loc ∧ d.refusesDirectories = none ∧
        made = d.place loc .directory) ∨
      made = d ∧ d.find p = .ok .directory := by
  unfold ensure at h
  cases hmake : d.makeDirectory p with
  | ok made' =>
    rw [hmake] at h
    cases h
    exact .inl (makeDirectory_eq_ok hmake)
  | error fault =>
    rw [hmake] at h
    simp only [Prod.mk.injEq] at h
    obtain ⟨rfl, hresult⟩ := h
    split at hresult
    · next hdir => exact .inr ⟨rfl, isDirectory_iff_find.mp hdir⟩
    · cases hresult

/-- One directory that is there or can be made is there or can be made on both disks. -/
theorem ensure_overlaid (h : d.Overlaid after) {made : Disk}
    (hmade : d.ensure p = (made, .ok ())) :
    ∃ made', after.ensure p = (made', .ok ()) ∧ made.Overlaid made' := by
  rcases ensure_cases hmade with ⟨loc, hfree, htakes, rfl⟩ | ⟨rfl, hfind⟩
  · obtain ⟨hname, hnone, hne⟩ := freeLocation_eq_ok hfree
    have hname' := nameLocation_of_keeps h.keeps hname
    cases he : after.entry? loc with
    | none =>
      refine ⟨after.place loc .directory, ?_, h.place hne .directory⟩
      rw [ensure, makeDirectory, freeLocation, hname', h.keeps.refusesDirectories, htakes]
      simp [he]
    | some e =>
      -- What the other disk has there is one of the directories that it has more.
      obtain ⟨rfl, -⟩ := h.directories hnone he
      exact ⟨after, ensure_of_find (find_of_nameLocation hname' he), h.place_directory hne he⟩
  · exact ⟨after, ensure_of_find (find_of_keeps h.keeps hfind), h⟩

private theorem makeThrough_of_present {start : List UInt8} {names : List Name} {size : Nat}
    (hbytes : p.bytes ≠ []) (h : d.makeDirectory p ≠ .error .missing) :
    makeThrough start names size p d = d.ensure p := by
  unfold makeThrough
  rw [if_neg hbytes, ensure]
  cases hmade : d.makeDirectory p with
  | ok made => rfl
  | error fault =>
    cases fault with
    | missing => exact absurd hmade h
    | _ => rfl

private theorem makeThrough_zero {start : List UInt8} {names : List Name} (hbytes : p.bytes ≠ []) :
    makeThrough start names 0 p d = d.ensure p := by
  unfold makeThrough
  rw [if_neg hbytes, ensure]
  cases d.makeDirectory p with
  | ok made => rfl
  | error fault => cases fault <;> rfl

private theorem makeThrough_of_missing {start : List UInt8} {names : List Name} {size : Nat}
    {below : Disk} (hbytes : p.bytes ≠ []) (h : d.makeDirectory p = .error .missing)
    (hbelow : makeThrough start names size (.through start (names.take size)) d =
      (below, .ok ())) :
    makeThrough start names (size + 1) p d = below.ensure p := by
  rw [makeThrough.eq_def]
  simp only [if_neg hbytes, h, hbelow]
  cases hmade : below.makeDirectory p <;> simp only [ensure, hmade]

private theorem makeThrough_of_missing_error {start : List UInt8} {names : List Name} {size : Nat}
    {below : Disk} {fault : Fault} (hbytes : p.bytes ≠ [])
    (h : d.makeDirectory p = .error .missing)
    (hbelow : makeThrough start names size (.through start (names.take size)) d =
      (below, .error fault)) :
    makeThrough start names (size + 1) p d = (below, .error fault) := by
  rw [makeThrough.eq_def]
  simp only [if_neg hbytes, h, hbelow]

/-- Where a directory is there already, none is made. -/
theorem makeThrough_of_find (h : d.find p = .ok .directory) (start : List UInt8)
    (names : List Name) (size : Nat) : makeThrough start names size p d = (d, .ok ()) := by
  obtain ⟨fault, hfree, hfault⟩ := freeLocation_of_find h
  obtain ⟨hrefused, -⟩ := find_eq_ok_iff.mp h
  have hbytes : p.bytes ≠ [] := by
    intro hempty
    simp [refusedPath?, hempty] at hrefused
  have hpresent : d.makeDirectory p ≠ .error .missing := by
    rw [makeDirectory, hfree]
    simpa using hfault
  rw [makeThrough_of_present hbytes hpresent, ensure_of_find h]

theorem makeDirectories_of_find (h : d.find p = .ok .directory) :
    d.makeDirectories p = (d, .ok ()) := makeThrough_of_find h _ _ _

private theorem makeThrough_cases {start : List UInt8} {names : List Name} {size : Nat}
    {made : Disk} (hbytes : p.bytes ≠ []) (h : makeThrough start names size p d = (made, .ok ())) :
    d.ensure p = (made, .ok ()) ∨ ∃ smaller below, size = smaller + 1 ∧
      makeThrough start names smaller (.through start (names.take smaller)) d = (below, .ok ()) ∧
      below.ensure p = (made, .ok ()) := by
  by_cases hmissing : d.makeDirectory p = .error .missing
  · cases size with
    | zero =>
      rw [makeThrough_zero hbytes] at h
      exact .inl h
    | succ size =>
      cases hbelow : makeThrough start names size (.through start (names.take size)) d with
      | mk below result =>
        cases result with
        | error fault =>
          rw [makeThrough_of_missing_error hbytes hmissing hbelow] at h
          cases h
        | ok _ =>
          rw [makeThrough_of_missing hbytes hmissing hbelow] at h
          exact .inr ⟨size, below, rfl, hbelow, h⟩
  · rw [makeThrough_of_present hbytes hmissing] at h
    exact .inl h

private theorem refusedPath?_of_ensure {made : Disk} (h : d.ensure p = (made, .ok ())) :
    refusedPath? p = none := by
  rcases ensure_cases h with ⟨loc, hfree, -⟩ | ⟨-, hfind⟩
  · obtain ⟨_, _, hrefused, -⟩ := nameLocation_eq_some (freeLocation_eq_ok hfree).1
    exact hrefused
  · exact (find_eq_ok_iff.mp hfind).1

private theorem refusedPath?_of_makeThrough {start : List UInt8} {names : List Name} {size : Nat}
    {made : Disk} (hbytes : p.bytes ≠ []) (h : makeThrough start names size p d = (made, .ok ())) :
    refusedPath? p = none := by
  rcases makeThrough_cases hbytes h with hensure | ⟨_, _, -, -, hensure⟩ <;>
    exact refusedPath?_of_ensure hensure

private theorem find_of_makeThrough {fault : Fault} (hrefuses : d.refusesDirectories = some fault)
    {start : List UInt8} {names : List Name} {size : Nat} {made : Disk} (hbytes : p.bytes ≠ [])
    (h : makeThrough start names size p d = (made, .ok ())) :
    made = d ∧ d.find p = .ok .directory := by
  have hthere {p : Path} {made : Disk} (hensure : d.ensure p = (made, .ok ())) :
      made = d ∧ d.find p = .ok .directory := by
    rcases ensure_cases hensure with ⟨_, -, htakes, -⟩ | hfind
    · rw [hrefuses] at htakes
      cases htakes
    · exact hfind
  induction size generalizing p made with
  | zero =>
    rcases makeThrough_cases hbytes h with hensure | ⟨_, _, ⟨⟩, -⟩
    exact hthere hensure
  | succ size ih =>
    rcases makeThrough_cases hbytes h with hensure | ⟨_, below, ⟨⟩, hbelow, hensure⟩
    · exact hthere hensure
    · obtain rfl : below = d := by
        by_cases hempty : (Path.through start (names.take size)).bytes = []
        · unfold makeThrough at hbelow
          rw [if_pos hempty] at hbelow
          cases hbelow
          rfl
        · exact (ih hempty hbelow).1
      exact hthere hensure

private theorem nameLocation_of_ensure (habs : p.isAbsolute = true) {made : Disk}
    (h : d.ensure p = (made, .ok ())) : ∃ place, d.nameLocation p = .ok place := by
  rcases ensure_cases h with ⟨loc, hfree, -⟩ | ⟨-, hfind⟩
  · exact ⟨some loc, (freeLocation_eq_ok hfree).1⟩
  · exact nameLocation_of_find habs hfind

private theorem leads_of_nameLocation {place : Option Location} {front : List Name} {name : Name}
    (h : d.nameLocation p = .ok place) (hnames : p.names = front ++ [name]) :
    ∃ loc, d.Leads linkLimit (d.origin p) front loc ∧ d.entry? loc = some .directory := by
  unfold nameLocation at h
  rw [hnames, List.getLast?_concat, List.dropLast_concat] at h
  simp only at h
  split at h
  · cases h
  · split at h
    · cases h
    · next loc hwalk =>
      refine ⟨loc, walk_eq_ok_iff.mp hwalk, Decidable.not_not.mp fun hdir => ?_⟩
      rw [if_pos hdir] at h
      cases h

private theorem find_parent {names : List Name} {size : Nat}
    (hnames : ∀ name ∈ names, Path.IsName name) (hsize : size < names.length)
    (habs : p.isAbsolute = true) (hp : p.names.filter (· ≠ Path.self) = names.take (size + 1))
    (hrefused : refusedPath? (.through [Path.slash] (names.take size)) = none)
    {place : Option Location} (h : d.nameLocation p = .ok place) :
    d.find (.through [Path.slash] (names.take size)) = .ok .directory := by
  let parent := Path.through [Path.slash] (names.take size)
  have hparent : parent.names = names.take size :=
    Path.names_through (fun name hname => hnames name (List.mem_of_mem_take hname)) _
  have horigin : d.origin parent = d.origin p := by
    rw [origin, origin, if_pos habs, if_pos (Path.isAbsolute_through rfl _)]
  have hroot : d.Stands (d.origin p) := by
    rw [origin, if_pos habs]
    exact .root d
  obtain ⟨front, hfront⟩ : ∃ front, ∃ name, p.names = front ++ [name] := by
    have hne : p.names ≠ [] := by
      intro hempty
      have hlength := congrArg List.length hp
      simp [hempty] at hlength
      omega
    exact ⟨_, _, (List.dropLast_append_getLast hne).symm⟩
  obtain ⟨name, hfront⟩ := hfront
  obtain ⟨loc, hleads, hdir⟩ := leads_of_nameLocation h hfront
  -- Without the last name, what is left has the names of the parent, and perhaps one more.
  obtain ⟨more, hmore⟩ : ∃ more, front.filter (· ≠ Path.self) = names.take size ++ more := by
    rw [hfront, List.filter_append] at hp
    have hlength := congrArg List.length hp
    have hone := List.length_filter_le (· ≠ Path.self) [name]
    have hsize' : size ≤ (front.filter (· ≠ Path.self)).length := by
      simp only [List.length_append, List.length_take, List.length_singleton] at hlength hone
      omega
    have htake := congrArg (List.take size) hp
    rw [List.take_append_of_le_length hsize', List.take_take, Nat.min_eq_left (Nat.le_succ _)]
      at htake
    exact ⟨(front.filter (· ≠ Path.self)).drop size, by rw [← htake, List.take_append_drop]⟩
  have hfiltered := Leads.filter_self [] front hleads
  rw [List.nil_append, hmore] at hfiltered
  obtain ⟨mid, hto, hmid⟩ := hfiltered.through_directory hroot hdir
  refine find_eq_ok_iff.mpr ⟨hrefused, mid, ?_, hmid⟩
  rw [horigin, lookupNames, hparent]
  split
  · exact hto.append hmid fun links => .dots (.inl rfl) (.done _ _)
  · exact hto

private theorem makeThrough_overlaid {names : List Name} (hnames : ∀ name ∈ names, Path.IsName name)
    (hself : ∀ name ∈ names, name ≠ Path.self) {size : Nat} (hsize : size ≤ names.length)
    (habs : p.isAbsolute = true) (hp : p.names.filter (· ≠ Path.self) = names.take size)
    (h : d.Overlaid after) (htakes : d.refusesDirectories = none) {made : Disk}
    (hmade : makeThrough [Path.slash] names size p d = (made, .ok ())) :
    ∃ made', makeThrough [Path.slash] names size p after = (made', .ok ()) ∧
      made.Overlaid made' := by
  induction size generalizing p d after made with
  | zero =>
    rw [makeThrough_zero (Path.bytes_ne_nil habs)] at hmade ⊢
    exact ensure_overlaid h hmade
  | succ size ih =>
    have hbytes := Path.bytes_ne_nil habs
    have htakes' : after.refusesDirectories = none := h.keeps.refusesDirectories.trans htakes
    by_cases hmissing : d.nameLocation p = .error .missing
    · have hmake := (makeDirectory_eq_missing_iff htakes).mpr hmissing
      let parent := Path.through [Path.slash] (names.take size)
      have habsParent : parent.isAbsolute = true := Path.isAbsolute_through rfl _
      have hparent : parent.names.filter (· ≠ Path.self) = names.take size := by
        have hthrough : parent.names = names.take size :=
          Path.names_through (fun name hname => hnames name (List.mem_of_mem_take hname)) _
        rw [hthrough, List.filter_eq_self]
        exact fun name hname => by simpa using hself name (List.mem_of_mem_take hname)
      cases hbelow : makeThrough [Path.slash] names size parent d with
      | mk below result =>
        cases result with
        | error fault =>
          rw [makeThrough_of_missing_error hbytes hmake hbelow] at hmade
          cases hmade
        | ok _ =>
          rw [makeThrough_of_missing hbytes hmake hbelow] at hmade
          obtain ⟨below', hbelow', hover⟩ :=
            ih (Nat.le_of_succ_le hsize) habsParent hparent h htakes hbelow
          by_cases hmissing' : after.nameLocation p = .error .missing
          · rw [makeThrough_of_missing hbytes ((makeDirectory_eq_missing_iff htakes').mpr hmissing')
              hbelow']
            exact ensure_overlaid hover hmade
          · -- On the other disk the parent is there, so it is left as it was.
            have hkeeps : after.Keeps below' := by
              have hadded := (added_of_makeThrough [Path.slash] names size parent after).keeps
              rwa [hbelow'] at hadded
            obtain ⟨place, hplace⟩ := nameLocation_of_ensure habs hmade
            have hplace' := nameLocation_of_keeps hover.keeps hplace
            rw [nameLocation_eq_of_keeps hkeeps habs hmissing'] at hplace'
            have hthere := find_parent hnames hsize habs hp
              (refusedPath?_of_makeThrough (Path.bytes_ne_nil habsParent) hbelow) hplace'
            rw [makeThrough_of_find hthere] at hbelow'
            cases hbelow'
            rw [makeThrough_of_present hbytes
              (mt (makeDirectory_eq_missing_iff htakes').mp hmissing')]
            exact ensure_overlaid hover hmade
    · have hmissing' : after.nameLocation p ≠ .error .missing := by
        rw [nameLocation_eq_of_keeps h.keeps habs hmissing]
        exact hmissing
      rw [makeThrough_of_present hbytes (mt (makeDirectory_eq_missing_iff htakes).mp hmissing)]
        at hmade
      rw [makeThrough_of_present hbytes (mt (makeDirectory_eq_missing_iff htakes').mp hmissing')]
      exact ensure_overlaid h hmade

/-- A directory that can be made with those it stands in can be made so on both disks. -/
theorem makeDirectories_overlaid (h : d.Overlaid after) (habs : p.isAbsolute = true) {made : Disk}
    (hmade : d.makeDirectories p = (made, .ok ())) :
    ∃ made', after.makeDirectories p = (made', .ok ()) ∧ made.Overlaid made' := by
  have hsteps : p.stepsOf = ([Path.slash], p.names.filter (· ≠ Path.self)) := by
    rw [Path.stepsOf, if_pos habs]
  unfold makeDirectories at hmade ⊢
  rw [hsteps] at hmade ⊢
  rcases Option.eq_none_or_eq_some d.refusesDirectories with htakes | ⟨fault, hrefuses⟩
  · refine makeThrough_overlaid (fun name hname => ?_) (fun name hname => ?_) (Nat.le_refl _) habs
      List.take_length.symm h htakes hmade
    · exact Path.isName_of_mem_names (List.mem_filter.mp hname).1
    · simpa using (List.mem_filter.mp hname).2
  · -- Nothing can be made, so all of it is there.
    obtain ⟨rfl, hfind⟩ := find_of_makeThrough hrefuses (Path.bytes_ne_nil habs) hmade
    exact ⟨after, makeThrough_of_find (find_of_keeps h.keeps hfind) _ _ _, h⟩

/-- A directory's own names lead to the same location as its path. -/
theorem leads_names_of_resolve {dir : Path} {loc : Location} (h : d.resolve dir = .ok loc) :
    d.Leads linkLimit (d.origin dir) dir.names loc := by
  unfold resolve locate at h
  split at h
  · cases h
  · have hleads := walk_eq_ok_iff.mp h
    rw [lookupNames] at hleads
    split at hleads
    · obtain ⟨links, mid, hnames, hback, -⟩ := hleads.split
      cases hback with
      | dots _ hmore =>
        cases hmore
        simpa [shift] using hnames
      | follow hname | file hname | enter hname => exact absurd (.inl rfl) hname
    · exact hleads

/-- Where the first names of a path to a directory lead to anything, that is a directory too. -/
theorem find_front {front : List Name} {e : Entry} (habs : p.isAbsolute = true)
    (h : d.find p = .ok .directory) (hfront : front <+: p.names)
    (hthere : d.find (.through [Path.slash] front) = .ok e) : e = .directory := by
  have hroot : (Path.through [Path.slash] front).isAbsolute = true := Path.isAbsolute_through rfl _
  have hnames : (Path.through [Path.slash] front).names = front :=
    Path.names_through (fun name hname => Path.isName_of_mem_names (hfront.subset hname)) _
  -- The same names lead to one location, on the way to the directory and on their own.
  obtain ⟨-, target, hleads, hdir⟩ := find_eq_ok_iff.mp h
  obtain ⟨more, hmore⟩ := hfront.trans (names_prefix_lookupNames p)
  rw [← hmore, origin, if_pos habs] at hleads
  obtain ⟨mid, hfirst, hmid⟩ := hleads.through_directory (.root d) hdir
  unfold find at hthere
  split at hthere
  · cases hthere
  · next loc hresolve =>
    have hown := leads_names_of_resolve hresolve
    rw [hnames, origin, if_pos hroot] at hown
    obtain rfl := hown.unique hfirst
    rw [hmid] at hthere
    exact (Except.ok.inj hthere).symm

end EventLog.Disk
