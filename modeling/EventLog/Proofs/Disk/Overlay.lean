import EventLog.Proofs.Disk.Occupied

/-! A disk and the same disk with some directories more. Where none of them is in the way of a file,
both take the same bytes and the same new files. -/
namespace EventLog.Disk

def logExtension : Name := Text.encode ".log".toList

def isLog (loc : Location) : Bool := loc.getLast?.any fun name => logExtension.isSuffixOf name

/-- What `after` has more than `d` has no name of a log file. -/
def LeavesLogNames (d after : Disk) : Prop :=
  ∀ loc, d.entry? loc = none → after.entry? loc ≠ none → isLog loc = false

/-- `after` is `d` with some directories more, none of which has the name of a log file. -/
structure Overlaid (d after : Disk) : Prop where
  keeps : d.Keeps after
  files : after.files = d.files
  directories : ∀ {loc e}, d.entry? loc = none → after.entry? loc = some e →
    e = .directory ∧ isLog loc = false

variable {d after : Disk}

theorem Added.overlaid (h : d.Added after) (hnames : d.LeavesLogNames after) :
    d.Overlaid after :=
  ⟨h.keeps, h.files, fun hnone he => ⟨h.directories hnone he, hnames _ hnone (by simp [he])⟩⟩

private theorem Overlaid.withFiles (h : d.Overlaid after) (files : List FileBody) :
    Overlaid { d with files } { after with files } :=
  ⟨⟨{ h.keeps.toSameSettings with }, fun he => h.keeps.entry he⟩, rfl,
    fun hnone he => h.directories hnone he⟩

/-- What leaves no trace on either disk makes no difference between them. -/
theorem Overlaid.of_unchanged {d' after' : Disk} (h : d.Overlaid after) (hd : d.Unchanged d')
    (hafter : after.Unchanged after') : d'.Overlaid after' := by
  have settings : d'.SameSettings after' :=
    hd.toSameSettings.symm.trans (h.keeps.toSameSettings.trans hafter.toSameSettings)
  refine ⟨⟨settings, fun he => ?_⟩, ?_, fun hnone he => ?_⟩
  · rw [hd.entry] at he
    rw [hafter.entry]
    exact h.keeps.entry he
  · rw [hafter.files, h.files, hd.files]
  · rw [hd.entry] at hnone
    rw [hafter.entry] at he
    exact h.directories hnone he

/-- Both disks take some bytes or refuse them. -/
theorem Overlaid.append (h : d.Overlaid after) (id : Nat) (bytes : List UInt8) :
    (∃ fault, d.append id bytes = .error fault ∧ after.append id bytes = .error fault) ∨
      ∃ d' after', d.append id bytes = .ok d' ∧ after.append id bytes = .ok after' ∧
        d'.Overlaid after' := by
  unfold Disk.append
  by_cases hbytes : bytes = []
  · rw [if_pos hbytes, if_pos hbytes]
    exact .inr ⟨d, after, rfl, rfl, h⟩
  · rw [if_neg hbytes, if_neg hbytes, h.files]
    have htakes := h.keeps.refusesBytes
    rcases Option.eq_none_or_eq_some d.refusesBytes with hnone | ⟨fault, hsome⟩
    · rw [hnone] at htakes
      refine .inr ⟨{ d with files := d.files.modify id fun f => f.append bytes },
        { after with files := d.files.modify id fun f => f.append bytes }, ?_, ?_, h.withFiles _⟩
      · rw [hnone]
      · rw [htakes]
    · rw [hsome] at htakes
      rw [hsome, htakes]
      exact .inl ⟨fault, rfl, rfl⟩

theorem Overlaid.place (h : d.Overlaid after) {loc : Location} (hne : loc ≠ []) (e : Entry) :
    Overlaid (d.place loc e) (after.place loc e) := by
  refine ⟨⟨{ h.keeps.toSameSettings with }, fun {other e'} he => ?_⟩, h.files,
    fun {other e'} hnone he => ?_⟩
  · rw [entry?_place _ hne] at he ⊢
    split
    · next hloc => rwa [if_pos hloc] at he
    · next hloc =>
      rw [if_neg hloc] at he
      exact h.keeps.entry he
  · rw [entry?_place _ hne] at he hnone
    split at hnone
    · cases hnone
    · next hloc =>
      rw [if_neg hloc] at he
      exact h.directories hnone he

/-- A directory that one disk has more may come to the other. -/
theorem Overlaid.place_directory (h : d.Overlaid after) {loc : Location} (hne : loc ≠ [])
    (he : after.entry? loc = some .directory) : (d.place loc .directory).Overlaid after := by
  refine ⟨⟨{ h.keeps.toSameSettings with }, fun {other e'} he' => ?_⟩, h.files,
    fun {other e'} hnone he' => ?_⟩
  · rw [entry?_place _ hne] at he'
    split at he'
    · next hloc => rw [hloc, he, he']
    · exact h.keeps.entry he'
  · rw [entry?_place _ hne] at hnone
    split at hnone
    · cases hnone
    · exact h.directories hnone he'

/-- A new log file that one disk takes, the other takes as well. -/
theorem Overlaid.createFile (h : d.Overlaid after) {p : Path} {id : Nat} {made : Disk}
    (hlog : ∃ front, p.names.getLast? = some (front ++ logExtension))
    (hmade : d.createFile p = .ok (id, made)) :
    ∃ made', after.createFile p = .ok (id, made') ∧ made.Overlaid made' := by
  unfold Disk.createFile at hmade ⊢
  cases hfree : d.freeLocation p with
  | error fault =>
    rw [hfree] at hmade
    cases hmade
  | ok loc =>
    rw [hfree] at hmade
    obtain ⟨hname, hnone, hne⟩ := freeLocation_eq_ok hfree
    obtain ⟨name, parent, -, hlast, rfl, -⟩ := nameLocation_eq_some hname
    have hislog : isLog (parent ++ [name]) = true := by
      obtain ⟨front, hfront⟩ := hlog
      obtain rfl := Option.some.inj (hlast.symm.trans hfront)
      simp [isLog, List.isSuffixOf_iff_suffix]
    have hfree' : after.freeLocation p = .ok (parent ++ [name]) := by
      unfold freeLocation
      rw [nameLocation_of_keeps h.keeps hname]
      cases hafter : after.entry? (parent ++ [name]) with
      | none => simp [hafter]
      | some e =>
        rw [(h.directories hnone hafter).2] at hislog
        cases hislog
    rw [hfree', h.keeps.refusesFiles, h.files]
    cases hrefuses : d.refusesFiles with
    | some fault =>
      rw [hrefuses] at hmade
      cases hmade
    | none =>
      rw [hrefuses] at hmade
      cases hmade
      exact ⟨_, rfl, (h.place hne (.file d.files.length)).withFiles _⟩

end EventLog.Disk
